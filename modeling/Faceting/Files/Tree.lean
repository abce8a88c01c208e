import Faceting.Path

/-!
# File trees

A tree of directories and files, in which paths are walked from the root or from a working directory
(`FileTree.walk`). The operations are those of a file system without links:

* `FileTree.stat` and `FileTree.read` look at what stands at a path,
* `FileTree.makeDirectory` makes one directory and `FileTree.touch` one empty file,
* `FileTree.stage`, `FileTree.commit` and `FileTree.discard` write a file in two steps: its content is
  kept without a name until it is put at its path, in place of what was there.

An operation that fails says why (`FileError`).
-/

namespace Faceting

/-! ### Faults -/

/-- Why an operation on files failed. -/
inductive FileError where
  | notFound
  | notADirectory
  | isADirectory
  | alreadyExists
  | invalidName
  | invalidPath
  | notText
  | busy
  /-- A directory stands where a file is to be written. -/
  | occupied
  | other (text : String)
deriving DecidableEq, Repr, Inhabited

/-- The wording of a fault. -/
def FileError.message : FileError → String
  | .notFound => "No such file or directory (os error 2)"
  | .notADirectory => "Not a directory (os error 20)"
  | .isADirectory => "Is a directory (os error 21)"
  | .alreadyExists => "File exists (os error 17)"
  | .invalidName => "File name too long (os error 36)"
  | .invalidPath => "file name contained an unexpected NUL byte"
  | .notText => "stream did not contain valid UTF-8"
  | .busy => "Device or resource busy (os error 16)"
  | .occupied => "a directory exists at the output file path"
  | .other text => text

/-! ### Entries -/

/-- A file or a directory. -/
inductive Entry where
  | file (content : ByteArray) (readOnly : Bool)
  | directory (entries : List (String × Entry))
deriving Inhabited

namespace Entry

/-- Whether an entry is a directory. -/
def isDirectory : Entry → Bool
  | .directory _ => true
  | .file _ _ => false

/-- The entries of a directory; a file has none. -/
def entries : Entry → List (String × Entry)
  | .directory entries => entries
  | .file _ _ => []

/-- The entry of a directory with a name. -/
def child? (e : Entry) (name : String) : Option Entry :=
  e.entries.lookup name

/-- The entry at a location below. -/
def at? (e : Entry) : List String → Option Entry
  | [] => some e
  | name :: rest => (e.child? name).bind (·.at? rest)

/-- Whether there is a directory at a location below. -/
def isDirectoryAt (e : Entry) (location : List String) : Bool :=
  (e.at? location).any isDirectory

/-- A list of entries with one of them set: in its old place, or at the end. -/
def setIn (name : String) (new : Entry) : List (String × Entry) → List (String × Entry)
  | [] => [(name, new)]
  | (key, old) :: rest =>
    if key = name then (name, new) :: rest else (key, old) :: setIn name new rest

/-- The tree with an entry put at a location, if there is a directory to hold it. -/
def put (new : Entry) : List String → Entry → Entry
  | [], _ => new
  | _, .file content readOnly => .file content readOnly
  | [name], .directory entries => .directory (setIn name new entries)
  | name :: rest, .directory entries =>
    match entries.lookup name with
    | none => .directory entries
    | some child => .directory (setIn name (put new rest child) entries)

mutual

/-- The locations of all files. -/
def files : Entry → List (List String)
  | .file _ _ => [[]]
  | .directory entries => filesIn entries

/-- The locations of all files in a list of entries. -/
def filesIn : List (String × Entry) → List (List String)
  | [] => []
  | (name, e) :: rest => (files e).map (name :: ·) ++ filesIn rest

end

end Entry

/-! ### Paths in a tree -/

/-- What stands at a path. -/
inductive Stat where
  | directory
  | file (readOnly : Bool)
deriving DecidableEq, Repr, Inhabited

/-- What an entry is. -/
def Entry.stat : Entry → Stat
  | .directory _ => .directory
  | .file _ readOnly => .file readOnly

/-- Where a path leads. -/
inductive Place where
  /-- To an entry. -/
  | found (location : List String) (entry : Entry)
  /-- To a name that is free in a directory; `slash` tells whether a slash follows the name. -/
  | vacant (location : List String) (slash : Bool)

/-- The content of a file that has no name yet. -/
structure Staged where
  number : Nat
  content : String
deriving DecidableEq, Repr, Inhabited

/-- A file system: a tree, the working directory, and the files that are staged. -/
structure FileTree where
  root : Entry := .directory []
  working : List String := []
  staged : List Staged := []
deriving Inhabited

namespace FileTree

/-- The longest name that an entry can have, in bytes. -/
def nameLimit : Nat := 255

/-- Walks segments of a path from a directory. -/
def walkFrom (root : Entry) : List String → List String → Except FileError Place
  | location, [] =>
    match root.at? location with
    | some e => .ok (.found location e)
    | none => .error .notFound
  | location, segment :: rest =>
    if Path.isIdle segment then walkFrom root location rest
    else if segment = ".." then walkFrom root location.dropLast rest
    else if nameLimit < segment.utf8ByteSize then .error .invalidName
    else
      match root.at? (location ++ [segment]) with
      | none =>
        if rest.all (· == "") then .ok (.vacant (location ++ [segment]) !rest.isEmpty)
        else .error .notFound
      | some (.file content readOnly) =>
        if rest.isEmpty then .ok (.found (location ++ [segment]) (.file content readOnly))
        else .error .notADirectory
      | some (.directory _) => walkFrom root (location ++ [segment]) rest

/-- Where a path is walked from. -/
def origin (t : FileTree) (p : Path) : List String :=
  if p.isAbsolute then [] else t.working

/-- Where the segments of a path lead. The empty path leads nowhere, and so does a path from a working
directory that is gone. -/
def walkSegments (t : FileTree) (p : Path) (segments : List String) : Except FileError Place :=
  if p.text.toList.contains '\x00' then .error .invalidPath
  else if p.text = "" then .error .notFound
  else if t.root.isDirectoryAt (t.origin p) then walkFrom t.root (t.origin p) segments
  else .error .notFound

/-- Where a path leads. -/
def walk (t : FileTree) (p : Path) : Except FileError Place :=
  t.walkSegments p p.segments

/-- The entry at a path. -/
def entry (t : FileTree) (p : Path) : Except FileError Entry :=
  match t.walk p with
  | .ok (.found _ e) => .ok e
  | .ok (.vacant _ _) => .error .notFound
  | .error e => .error e

/-- What stands at a path. -/
def stat (t : FileTree) (p : Path) : Except FileError Stat :=
  (t.entry p).map Entry.stat

/-- The content of the file at a path. -/
def read (t : FileTree) (p : Path) : Except FileError ByteArray :=
  match t.entry p with
  | .ok (.file content _) => .ok content
  | .ok (.directory _) => .error .isADirectory
  | .error e => .error e

/-- The tree with an entry put at a location. -/
def put (t : FileTree) (location : List String) (e : Entry) : FileTree :=
  { t with root := Entry.put e location t.root }

/-- Makes a directory at a path, in a directory that is there. Slashes at the end do not count. -/
def makeDirectory (t : FileTree) (p : Path) : Except FileError Unit × FileTree :=
  match t.walkSegments p (Path.dropTrailing (· == "") p.segments) with
  | .ok (.vacant location _) => (.ok (), t.put location (.directory []))
  | .ok (.found _ _) => (.error .alreadyExists, t)
  | .error e => (.error e, t)

/-- Makes an empty file at a path, unless there is a file. -/
def touch (t : FileTree) (p : Path) : Except FileError Unit × FileTree :=
  match t.walk p with
  | .ok (.found _ (.file _ _)) => (.ok (), t)
  | .ok (.found _ (.directory _)) => (.error .isADirectory, t)
  | .ok (.vacant location false) => (.ok (), t.put location (.file .empty false))
  | .ok (.vacant _ true) => (.error .isADirectory, t)
  | .error e => (.error e, t)

/-- The paths of all files below a directory, relative to it. -/
def filesBelow (t : FileTree) (p : Path) : List Path :=
  match t.entry p with
  | .ok (.directory entries) => (Entry.filesIn entries).map fun l => ⟨Text.joinWith "/" l⟩
  | _ => []

/-! ### Staged files -/

/-- A number that no staged file has. -/
def freshNumber (t : FileTree) : Nat :=
  t.staged.foldl (fun n s => max n (s.number + 1)) 0

/-- Stages a file in a directory. -/
def stage (t : FileTree) (dir : Path) (content : String) : Except FileError Staged × FileTree :=
  match t.stat dir with
  | .ok .directory =>
    let s : Staged := ⟨t.freshNumber, content⟩
    (.ok s, { t with staged := s :: t.staged })
  | .ok (.file _) => (.error .notADirectory, t)
  | .error e => (.error e, t)

/-- Gives a staged file up. -/
def discard (t : FileTree) (s : Staged) : FileTree :=
  { t with staged := t.staged.filter (·.number != s.number) }

/-- Why a file cannot be put at a path that leads to a directory. -/
def directoryFault (p : Path) : FileError :=
  match (Path.dropTrailing (· == "") p.segments).getLast? with
  | none => .busy
  | some "." => .busy
  | some ".." => .busy
  | _ => if p.segments.getLast? = some "" then .notADirectory else .isADirectory

/-- The location at which a staged file can be put for a path. -/
def target (t : FileTree) (p : Path) : Except FileError (List String) :=
  match t.walk p with
  | .ok (.found location (.file _ _)) => .ok location
  | .ok (.found _ (.directory _)) => .error (directoryFault p)
  | .ok (.vacant location false) => .ok location
  | .ok (.vacant _ true) => .error .notADirectory
  | .error e => .error e

/-- Puts a staged file at a path, in place of a file that is there. -/
def commit (t : FileTree) (s : Staged) (p : Path) : Except FileError Unit × FileTree :=
  match t.target p with
  | .ok location => (.ok (), (t.discard s).put location (.file s.content.toUTF8 false))
  | .error e => (.error e, t)

end FileTree

end Faceting
