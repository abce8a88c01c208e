import Faceting.Files.Monad
import Faceting.Writer.Error

/-!
# Writing batches of files

A batch is written in two steps (`Writer.writeAll`): every file is staged, and only when all are staged
are they put at their paths, in order. Before that the batch is checked: no two files have the same
path, the directories that hold them are there or can be made, and nothing stands in the way. So a
batch that fails before its files are put in place changes no file.
-/

namespace Faceting

/-- A file to be written. -/
structure PendingFile where
  path : Path
  content : String
deriving DecidableEq, Repr, Inhabited

/-- How files are written. -/
structure Writer where
  /-- Whether files without write permission are left alone. -/
  respectReadOnly : Bool := true
deriving DecidableEq, Repr, Inhabited

namespace Writer

/-- The first path of a list that is the same as one before it or one already seen. -/
def repeated? (seen : List Path) : List Path → Option Path
  | [] => none
  | p :: rest => if seen.any (·.same p) then some p else repeated? (p :: seen) rest

/-- The directory that a file is staged in. -/
def stagingDirectory (p : Path) : Path :=
  if p.directory.text = "" then ⟨"."⟩ else p.directory

section
variable {m : Type → Type} {σ : Type} [Monad m] [MonadFiles m σ]

/-- Makes a directory and those above it, unless it is there. -/
def prepareDirectory (dir : Path) : ExceptT OutputError m Unit := do
  if dir.text = "" then return ()
  if let .ok (.file _) := ← (MonadFiles.stat dir : m _) then throw (.notADirectory dir)
  match ← (Files.createDirectories dir : m _) with
  | .ok () => return ()
  | .error e => throw (.createDirectory dir e)

/-- Checks that nothing stands in the way of a file. -/
def checkTarget (w : Writer) (p : Path) : ExceptT OutputError m Unit := do
  match ← (MonadFiles.stat p : m _) with
  | .ok .directory => throw (.write p .occupied)
  | .ok (.file true) => if w.respectReadOnly then throw (.readOnly p)
  | _ => return ()

/-- Makes the directories of files and checks that nothing stands in their way. -/
def prepareAll (w : Writer) : List PendingFile → ExceptT OutputError m Unit
  | [] => return ()
  | f :: rest => do
    prepareDirectory f.path.directory
    w.checkTarget f.path
    prepareAll w rest

/-- Gives staged files up. -/
def discardAll : List (Path × σ) → m Unit
  | [] => return ()
  | (_, s) :: rest => do
    MonadFiles.discard s
    discardAll rest

/-- Stages files; if one cannot be staged, none is. -/
def stageAll : List PendingFile → ExceptT OutputError m (List (Path × σ))
  | [] => return []
  | f :: rest => do
    match ← (MonadFiles.stage (stagingDirectory f.path) f.content : m _) with
    | .error e => throw (.write f.path e)
    | .ok s =>
      match ← ExceptT.lift (stageAll rest).run with
      | .ok staged => return (f.path, s) :: staged
      | .error e =>
        (MonadFiles.discard s : m Unit)
        throw e

/-- Puts staged files at their paths, in order; from the first that fails on, they are given up. -/
def commitAll : List (Path × σ) → ExceptT OutputError m Unit
  | [] => return ()
  | (p, s) :: rest => do
    match ← (MonadFiles.commit s p : m _) with
    | .ok () => commitAll rest
    | .error e =>
      (discardAll ((p, s) :: rest) : m Unit)
      throw (.write p e)

/-- Writes a batch of files, and gives their paths. -/
def writeAll (w : Writer) (files : List PendingFile) : ExceptT OutputError m (List Path) := do
  let paths := files.map PendingFile.path
  if let some p := repeated? [] paths then throw (.duplicatePath p)
  w.prepareAll files
  commitAll (← stageAll files)
  return paths

/-- Writes one file. -/
def write (w : Writer) (p : Path) (content : String) : ExceptT OutputError m Unit := do
  let _ ← w.writeAll [⟨p, content⟩]

end

end Writer

end Faceting
