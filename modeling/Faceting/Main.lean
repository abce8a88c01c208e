import Faceting.Command
import Faceting.Files.Disk

/-!
# The program

Generates the artifacts of a facet from its description, as the command line says. Templates are told the
environment of the program and the time of its start, and numbers that depend on a random seed. The time of
the place is given in universal time.
-/

namespace Faceting.Main

/-- The variables of the environment, in the form in which the system lists them: each ends with a zero. -/
def environment (listed : ByteArray) : List (String × String) :=
  let entries := listed.toList.splitBy fun a b => a != 0 && b != 0
  entries.filterMap fun bytes => do
    let text ← String.fromUTF8? ⟨bytes.toArray⟩
    let name := text.toList.takeWhile (· != '=')
    match text.toList.drop name.length with
    | _ :: value => some (String.ofList name, String.ofList value)
    | [] => none

/-- A number in decimal digits, with zeros in front up to a width. -/
def padded (width : Nat) (n : Int) : String :=
  let digits := toString n
  String.ofList (List.replicate (width - digits.length) '0') ++ digits

/-- Year, month and day of a number of days since the beginning of 1970. -/
def date (days : Int) : Int × Int × Int :=
  -- years start in March, so that the day that is not in every year comes last
  let shifted := days + 719468
  let day := shifted % 146097
  let year := (day - day / 1460 + day / 36524 - day / 146096) / 365
  let dayOfYear := day - (365 * year + year / 4 - year / 100)
  let month := (5 * dayOfYear + 2) / 153
  let dayOfMonth := dayOfYear - (153 * month + 2) / 5 + 1
  let years := year + shifted / 146097 * 400
  if month < 10 then (years, month + 3, dayOfMonth) else (years + 1, month - 9, dayOfMonth)

/-- A time in words. -/
def timeText (seconds nanoseconds : Int) : String :=
  let (year, month, day) := date (seconds / 86400)
  let second := seconds % 86400
  padded 4 year ++ "-" ++ padded 2 month ++ "-" ++ padded 2 day ++ "T" ++
    padded 2 (second / 3600) ++ ":" ++ padded 2 (second / 60 % 60) ++ ":" ++ padded 2 (second % 60) ++
    "." ++ padded 9 nanoseconds ++ "+00:00"

/-- The number that is drawn for a call: it depends on the call and on the seed. -/
def draw (seed : Nat) (moment : Template.Moment) : Nat :=
  let indexes := moment.scope.frames.map fun f => (f.iteration.map Template.Iteration.index).getD 0
  let output := ((moment.scope.context.lookup "output_name").map Document.display).getD ""
  (hash (seed, moment.site, indexes, output)).toNat

/-- What templates can ask the program for. -/
def surroundings : IO Template.Surroundings := do
  let listed := environment (← IO.FS.readBinFile "/proc/self/environ")
  let start ← (← IO.FS.realPath "/proc/self").metadata
  let text := timeText start.modified.sec start.modified.nsec.toNat
  let seed ← IO.rand 0 (Number.twoPow 62)
  return ⟨fun name => listed.lookup name, fun _ => ⟨start.modified.sec, text, text⟩, draw seed⟩

end Faceting.Main
