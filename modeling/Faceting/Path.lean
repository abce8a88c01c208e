import Faceting.Text.Split

/-!
# Paths

A path is kept as it was spelled, because that spelling is what messages and reports show. Two
spellings name the same place if their components agree (`Path.same`): repeated and trailing
slashes and dots in the middle do not count, a leading dot and a double dot do.

* `Path.join` puts a file below a directory,
* `Path.parent?` takes the last component off,
* `Path.extension?` is what follows the last dot of the last component.
-/

namespace Faceting

/-- A path, as spelled. -/
structure Path where
  text : String
deriving DecidableEq, Inhabited, Repr

namespace Path

/-- What a path is made of. -/
inductive Component where
  | root
  | here
  | up
  | name (text : String)
deriving DecidableEq, Repr

/-- The pieces of the spelling between slashes. -/
def segments (p : Path) : List String :=
  (Text.splitOn '/' p.text.toList).map String.ofList

/-- Whether the path starts at the root. -/
def isAbsolute (p : Path) : Bool :=
  p.text.toList.head? == some '/'

/-- Whether a segment behind the first adds nothing to a path. -/
def isIdle (segment : String) : Bool :=
  segment == "" || segment == "."

/-- A segment that counts, as a component. -/
def Component.ofSegment (segment : String) : Component :=
  if segment = ".." then .up else .name segment

/-- The components of a path. -/
def components (p : Path) : List Component :=
  match p.segments with
  | [] => []
  | first :: rest =>
    let body := (rest.filter (!isIdle ·)).map Component.ofSegment
    if first = "" then (if p.isAbsolute then .root :: body else body)
    else if first = "." then .here :: body
    else Component.ofSegment first :: body

/-- Whether two spellings name the same place. -/
def same (p q : Path) : Bool :=
  p.components == q.components

/-- The file below the directory; an absolute file stands for itself. -/
def join (dir file : Path) : Path :=
  if dir.text = "" ∨ file.isAbsolute then file
  else if dir.text.toList.getLast? = some '/' then ⟨dir.text ++ file.text⟩
  else ⟨dir.text ++ "/" ++ file.text⟩

/-- A list without the elements at its end that satisfy a test. -/
def dropTrailing {α : Type} (test : α → Bool) (xs : List α) : List α :=
  (xs.reverse.dropWhile test).reverse

/-- The path up to its last component, as spelled; the empty path and the root have none. -/
def parent? (p : Path) : Option Path :=
  match p.segments with
  | [] => none
  | first :: rest =>
    let body := dropTrailing isIdle rest
    if body.isEmpty then (if first = "" then none else some ⟨""⟩)
    else
      let kept := dropTrailing isIdle body.dropLast
      if p.isAbsolute then some ⟨"/" ++ Text.joinWith "/" kept⟩
      else some ⟨Text.joinWith "/" (first :: kept)⟩

/-- The directory that holds the path; empty if the path names nothing below a directory. -/
def directory (p : Path) : Path :=
  p.parent?.getD ⟨""⟩

/-- A path and the paths above it, up to a number of steps. -/
def ancestorsWithin : Nat → Path → List Path
  | 0, p => [p]
  | steps + 1, p =>
    match p.parent? with
    | none => [p]
    | some parent => p :: ancestorsWithin steps parent

/-- A path and the paths above it, each the parent of the one before. -/
def ancestors (p : Path) : List Path :=
  ancestorsWithin p.segments.length p

/-- The last component, if it is a name. -/
def fileName? (p : Path) : Option String :=
  match p.components.getLast? with
  | some (.name text) => some text
  | _ => none

/-- What follows the last dot of the file name. A dot at its beginning does not count. -/
def extension? (p : Path) : Option String :=
  p.fileName?.bind fun name =>
    match (Text.splitOn '.' name.toList).reverse with
    | last :: before =>
      if before.all (·.isEmpty) && before.length ≤ 1 then none else some (String.ofList last)
    | [] => none

end Path

end Faceting
