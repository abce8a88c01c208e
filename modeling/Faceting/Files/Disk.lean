import Faceting.Files.Monad

/-!
# Files on disk

The operations on files, done on the disk. A staged file lies under a name of its own in the directory
that it is staged in, until it is renamed or removed.
-/

namespace Faceting.Disk

/-- The fault behind an error of the system. -/
def faultOf : IO.Error → FileError
  | .noFileOrDirectory _ _ _ => .notFound
  | .alreadyExists _ 17 _ => .alreadyExists
  | .inappropriateType _ 20 _ => .notADirectory
  | .inappropriateType _ 21 _ => .isADirectory
  | .invalidArgument _ 36 _ => .invalidName
  | e => .other (toString e)

/-- The outcome of an action, with errors of the system as faults. -/
def attempt {α : Type} (action : IO α) : IO (Except FileError α) :=
  try
    return .ok (← action)
  catch e =>
    return .error (faultOf e)

/-- What stands at a path: a directory can be opened but not read, and a file without write permission
cannot be opened for writing. -/
def stat (p : Path) : IO (Except FileError Stat) := do
  match ← attempt (IO.FS.Handle.mk p.text .read) with
  | .error e => return .error e
  | .ok h =>
    match ← attempt (h.read 1) with
    | .error _ => return .ok .directory
    | .ok _ =>
      match ← attempt (IO.FS.Handle.mk p.text .append) with
      | .ok _ => return .ok (.file false)
      | .error _ => return .ok (.file true)

/-- The paths of all files below a directory, relative to it. -/
def filesBelow (p : Path) : IO (List Path) := do
  let base ← IO.FS.realPath p.text
  let mut files := []
  for q in ← base.walkDir do
    unless ← q.isDir do
      files := ⟨String.ofList (q.toString.toList.drop (base.toString.length + 1))⟩ :: files
  return files.reverse

/-- Stages a file in a directory, under a name that is free. -/
def stage (dir : Path) (content : String) : IO Path := do
  let name := ".genfacet-" ++ toString (← IO.monoNanosNow) ++ ".tmp"
  let path := dir.join ⟨name⟩
  let h ← IO.FS.Handle.mk path.text .writeNew
  h.putStr content
  h.flush
  return path

end Faceting.Disk

namespace Faceting

instance : MonadFiles IO Path where
  stat := Disk.stat
  read p := Disk.attempt (IO.FS.readBinFile p.text)
  makeDirectory p := Disk.attempt (IO.FS.createDir p.text)
  touch p := Disk.attempt (do let _ ← IO.FS.Handle.mk p.text .append)
  filesBelow := Disk.filesBelow
  stage dir content := Disk.attempt (Disk.stage dir content)
  commit staged p := Disk.attempt (IO.FS.rename staged.text p.text)
  discard staged := do let _ ← Disk.attempt (IO.FS.removeFile staged.text)

end Faceting
