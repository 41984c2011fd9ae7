/-
# IdlBindings.Files.Tree: files and directories below a working directory, and why an operation fails.

A tree knows what is at each location, a location being the names on the way from the working directory.
A path leads to a location step by step: every step but the last has to be a directory, a dot stays and
two dots go back.  The working directory itself is always there and is never left.

There are regular files and directories and nothing else.  In particular there are no links, so two
locations never share a file, and a path leads to one location at most.  The working directory is the
root of the tree: a path from the root and the same path without its first slash lead to one place.
Permissions and the size of the disk are left out, and nobody else changes the tree during a run.
-/

namespace IdlBindings

/-! ## Faults -/

/-- Why an operation on a file failed. -/
inductive FileFault where
  | notFound
  | alreadyExists
  | notDirectory
  | isDirectory
  | nameTooLong
  /-- The name has a null character. -/
  | invalidName
  /-- The file is not a text. -/
  | notText
  /-- No directory of a path can be made. -/
  | noRoot
  /-- Any other failure, in the words of the system. -/
  | other (message : String)
  deriving DecidableEq

/-- The wording of a fault. -/
def FileFault.message : FileFault → String
  | notFound => "No such file or directory (os error 2)"
  | alreadyExists => "File exists (os error 17)"
  | notDirectory => "Not a directory (os error 20)"
  | isDirectory => "Is a directory (os error 21)"
  | nameTooLong => "File name too long (os error 36)"
  | invalidName => "file name contained an unexpected NUL byte"
  | notText => "stream did not contain valid UTF-8"
  | noRoot => "failed to create whole tree"
  | other message => message

/-! ## Trees -/

/-- What a file holds. -/
inductive FileContents where
  | text (text : String)
  /-- Octets that are not a text. -/
  | binary (octets : List UInt8)
  deriving DecidableEq

/-- The contents of octets: a text if they are the encoding of one. -/
def FileContents.ofOctets (octets : List UInt8) : FileContents :=
  match String.fromUTF8? ⟨octets.toArray⟩ with
  | some decoded => .text decoded
  | none => .binary octets

/-- What is at a location. -/
inductive FileEntry where
  | file (contents : FileContents)
  | directory
  deriving DecidableEq

/-- The names on the way from the working directory. -/
abbrev Location := List String

/-- Files and directories below a working directory. -/
structure FileTree where
  entries : List (Location × FileEntry) := []

namespace FileTree

/-! ## Locations -/

/-- What is at a location. -/
def get? (tree : FileTree) (location : Location) : Option FileEntry :=
  if location = [] then some .directory else tree.entries.lookup location

/-- The tree with something else at a location. -/
def insert (tree : FileTree) (location : Location) (entry : FileEntry) : FileTree :=
  ⟨(location, entry) :: tree.entries.filter fun other => other.1 != location⟩

/-- The tree with nothing at a location. -/
def erase (tree : FileTree) (location : Location) : FileTree :=
  ⟨tree.entries.filter fun other => other.1 != location⟩

/-! ## Paths -/

/-- The longest name, in octets. -/
def maxName : Nat := 255

/-- The longest path, in octets. -/
def maxPath : Nat := 4095

/-- Goes one step from a directory.  The answer has to be a directory too. -/
def step (tree : FileTree) (location : Location) (name : String) : Except FileFault Location :=
  if name = "." then .ok location
  else if name = ".." then .ok location.dropLast
  else if name.utf8ByteSize > maxName then .error .nameTooLong
  else
    match tree.get? (location ++ [name]) with
    | some .directory => .ok (location ++ [name])
    | some (.file _) => .error .notDirectory
    | none => .error .notFound

/-- A path as a system sees it. -/
structure Route where
  /-- The steps before the last. -/
  steps : List String
  last : String
  /-- Whether a slash follows the last step. -/
  slash : Bool

/-- The route of a path. -/
def route (path : String) : Except FileFault Route :=
  let pieces := ((path.toList.splitOn '/').filter (!·.isEmpty)).map String.ofList
  if path.toList.contains (Char.ofNat 0) then .error .invalidName
  else if path.isEmpty then .error .notFound
  else if path.utf8ByteSize > maxPath then .error .nameTooLong
  else
    match pieces.getLast? with
    | some last => .ok ⟨pieces.dropLast, last, path.toList.getLast? == some '/'⟩
    | none => .ok ⟨[], ".", true⟩

/-- Where the last step of a path is taken, and that step. -/
def approach (tree : FileTree) (path : String) : Except FileFault (Location × Route) := do
  let route ← route path
  let location ← route.steps.foldlM tree.step []
  pure (location, route)

/-- Whether a step leads to no name of its own. -/
def isDots (name : String) : Bool :=
  name == "." || name == ".."

/-! ## Operations -/

/-- Whether a path leads to a directory. -/
def isDirectory (tree : FileTree) (path : String) : Bool :=
  match tree.approach path with
  | .ok (location, route) => (tree.step location route.last).toOption.isSome
  | .error _ => false

/-- The text of a file. -/
def read (tree : FileTree) (path : String) : Except FileFault String := do
  let (location, route) ← tree.approach path
  if isDots route.last then throw .isDirectory
  else if route.last.utf8ByteSize > maxName then throw .nameTooLong
  else
    match tree.get? (location ++ [route.last]) with
    | none => throw .notFound
    | some .directory => throw .isDirectory
    | some (.file contents) =>
      if route.slash then throw .notDirectory
      else
        match contents with
        | .text text => pure text
        | .binary _ => throw .notText

/-- Makes a directory. -/
def makeDirectory (tree : FileTree) (path : String) : Except FileFault FileTree := do
  let (location, route) ← tree.approach path
  if isDots route.last then throw .alreadyExists
  else if route.last.utf8ByteSize > maxName then throw .nameTooLong
  else if (tree.get? (location ++ [route.last])).isSome then throw .alreadyExists
  else pure (tree.insert (location ++ [route.last]) .directory)

/-- Writes a file, which need not be there. -/
def write (tree : FileTree) (path text : String) : Except FileFault FileTree := do
  let (location, route) ← tree.approach path
  if isDots route.last || route.slash then throw .isDirectory
  else if route.last.utf8ByteSize > maxName then throw .nameTooLong
  else if tree.get? (location ++ [route.last]) = some .directory then throw .isDirectory
  else pure (tree.insert (location ++ [route.last]) (.file (.text text)))

/-- Removes a file. -/
def remove (tree : FileTree) (path : String) : Except FileFault FileTree := do
  let (location, route) ← tree.approach path
  if isDots route.last then throw .isDirectory
  else if route.last.utf8ByteSize > maxName then throw .nameTooLong
  else
    match tree.get? (location ++ [route.last]) with
    | none => throw .notFound
    | some .directory => throw .isDirectory
    | some (.file _) =>
      if route.slash then throw .notDirectory else pure (tree.erase (location ++ [route.last]))

end FileTree

end IdlBindings
