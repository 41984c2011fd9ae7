/-
# IdlBindings.Files.Disk: reading and writing files, wherever they are.

A disk offers a few operations on files.  What is done with them, making directories and writing many
files or none, is said once for all disks.  A tree of files is a disk; so is the real one.
-/
import IdlBindings.Files.Path
import IdlBindings.Files.Tree

namespace IdlBindings

/-- The operations of a disk. -/
structure Disk (m : Type → Type) where
  read : String → m (Except FileFault String)
  isDirectory : String → m Bool
  makeDirectory : String → m (Except FileFault Unit)
  write : String → String → m (Except FileFault Unit)
  remove : String → m (Except FileFault Unit)

/-- A failure of a write, with the path that it is about. -/
structure WriteFault where
  path : String
  fault : FileFault
  deriving DecidableEq

namespace Disk

variable {m : Type → Type} [Monad m]

/-- A disk where more than its files can change. -/
def lift {n : Type → Type} [MonadLiftT m n] (disk : Disk m) : Disk n where
  read path := liftM (disk.read path)
  isDirectory path := liftM (disk.isDirectory path)
  makeDirectory path := liftM (disk.makeDirectory path)
  write path text := liftM (disk.write path text)
  remove path := liftM (disk.remove path)

/-! ## Directories -/

/-- A directory that could not be made is no failure if it is there. -/
def unlessDirectory (disk : Disk m) (path : String) (result : Except FileFault Unit) :
    m (Except FileFault Unit) := do
  match result with
  | .ok () => pure (.ok ())
  | .error fault => do
    if ← disk.isDirectory path then pure (.ok ()) else pure (.error fault)

/-- Makes a directory.  If it cannot be made because others are missing, those are made first. -/
def makeDirectoriesIn (disk : Disk m) : Nat → String → m (Except FileFault Unit)
  | 0, _ => pure (.error .noRoot)
  | steps + 1, path =>
    if path.isEmpty then pure (.ok ())
    else do
      match ← disk.makeDirectory path with
      | .error .notFound =>
        match Path.parent? path with
        | none => pure (.error .noRoot)
        | some parent =>
          match ← disk.makeDirectoriesIn steps parent with
          | .error fault => pure (.error fault)
          | .ok () => disk.unlessDirectory path (← disk.makeDirectory path)
      | result => disk.unlessDirectory path result

/-- Makes a directory and those that it is in. -/
def makeDirectories (disk : Disk m) (path : String) : m (Except FileFault Unit) :=
  disk.makeDirectoriesIn (path.length + 1) path

/-! ## Files -/

/-- Writes a file.  The directory that it is in is made if it is missing. -/
def writeFile (disk : Disk m) (path text : String) : m (Except WriteFault Unit) := do
  match Path.parent? path with
  | none => put
  | some parent =>
    match ← disk.makeDirectories parent with
    | .error fault => pure (.error ⟨parent, fault⟩)
    | .ok () => put
where
  /-- Writes the file itself. -/
  put : m (Except WriteFault Unit) := do
    match ← disk.write path text with
    | .error fault => pure (.error ⟨path, fault⟩)
    | .ok () => pure (.ok ())

/-- Removes files, as far as that is possible. -/
def removeAll (disk : Disk m) : List String → m Unit
  | [] => pure ()
  | path :: rest => do
    let _ ← disk.remove path
    disk.removeAll rest

/-- Writes files in order.  If one cannot be written, those written before it are removed. -/
def writeAll (disk : Disk m) (written : List String) :
    List (String × String) → m (Except WriteFault (List String))
  | [] => pure (.ok written)
  | (path, text) :: rest => do
    match ← disk.writeFile path text with
    | .ok () => disk.writeAll (written ++ [path]) rest
    | .error fault =>
      disk.removeAll written
      pure (.error fault)

end Disk

/-! ## Trees -/

/-- An operation that changes a tree, unless it fails. -/
def FileTree.change (operation : FileTree → Except FileFault FileTree) :
    StateM FileTree (Except FileFault Unit) := fun tree =>
  match operation tree with
  | .ok tree => (.ok (), tree)
  | .error fault => (.error fault, tree)

/-- A tree as a disk. -/
def Disk.ofTree : Disk (StateM FileTree) where
  read path := fun tree => (tree.read path, tree)
  isDirectory path := fun tree => (tree.isDirectory path, tree)
  makeDirectory path := FileTree.change fun tree => tree.makeDirectory path
  write path text := FileTree.change fun tree => tree.write path text
  remove path := FileTree.change fun tree => tree.remove path

end IdlBindings
