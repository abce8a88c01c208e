import Faceting.Files.Tree

/-!
# Programs on files

The operations that programs on files are made of (`MonadFiles`). They run on a file tree as state.
-/

namespace Faceting

/-- The operations on files, each of which may fail; `σ` is what stands for a staged file. -/
class MonadFiles (m : Type → Type) (σ : outParam Type) where
  /-- What stands at a path. -/
  stat : Path → m (Except FileError Stat)
  /-- The content of a file. -/
  read : Path → m (Except FileError ByteArray)
  /-- Makes one directory. -/
  makeDirectory : Path → m (Except FileError Unit)
  /-- Makes an empty file, unless there is a file. -/
  touch : Path → m (Except FileError Unit)
  /-- The paths of all files below a directory, relative to it. -/
  filesBelow : Path → m (List Path)
  /-- Stages a file in a directory. -/
  stage : Path → String → m (Except FileError σ)
  /-- Puts a staged file at a path. -/
  commit : σ → Path → m (Except FileError Unit)
  /-- Gives a staged file up. -/
  discard : σ → m Unit

/-- Programs that run on a file tree. -/
abbrev FileM := StateM FileTree

instance : MonadFiles FileM Staged where
  stat p := do return (← get).stat p
  read p := do return (← get).read p
  makeDirectory p := modifyGet (·.makeDirectory p)
  touch p := modifyGet (·.touch p)
  filesBelow p := do return (← get).filesBelow p
  stage dir content := modifyGet (·.stage dir content)
  commit s p := modifyGet (·.commit s p)
  discard s := modify (·.discard s)

namespace Files

section
variable {m : Type → Type} {σ : Type} [Monad m] [MonadFiles m σ]

/-- Whether there is anything at a path. -/
def isPresent (p : Path) : m Bool := do
  return (← MonadFiles.stat p).toOption.isSome

/-- Whether there is a directory at a path. -/
def isDirectory (p : Path) : m Bool := do
  return (← MonadFiles.stat p).toOption == some .directory

/-- The text of a file. -/
def readText (p : Path) : m (Except FileError String) := do
  match ← MonadFiles.read p with
  | .error e => return .error e
  | .ok content =>
    match String.fromUTF8? content with
    | some text => return .ok text
    | none => return .error .notText

/-- Makes a directory where a directory may be already. -/
def ensureDirectory (p : Path) : m (Except FileError Unit) := do
  match ← MonadFiles.makeDirectory p with
  | .ok () => return .ok ()
  | .error e => if ← isDirectory p then return .ok () else return .error e

/-- Makes a directory and what it lacks of the directories above it, which are given with it. -/
def createFrom : List Path → m (Except FileError Unit)
  | [] => return .ok ()
  | p :: above => do
    if p.text = "" then return .ok ()
    match ← MonadFiles.makeDirectory p with
    | .ok () => return .ok ()
    | .error .notFound =>
      match ← createFrom above with
      | .ok () => ensureDirectory p
      | .error e => return .error e
    | .error e => if ← isDirectory p then return .ok () else return .error e

/-- Makes a directory and what it lacks of the directories above it. -/
def createDirectories (p : Path) : m (Except FileError Unit) :=
  createFrom p.ancestors

end

end Files

end Faceting
