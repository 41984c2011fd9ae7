/-
# IdlBindings.Files.Path: paths as written and as compared.

A path is a text.  Two paths are the same if they have the same components: doubled slashes, a slash
at the end and a dot between slashes do not count, while a dot at the very start does.
-/

namespace IdlBindings

/-- A part of a path, in the order in which kinds of parts are sorted. -/
inductive PathComponent where
  /-- The slash at the start of an absolute path. -/
  | root
  /-- A dot at the start of a path. -/
  | current
  | parent
  | name (text : String)
  deriving DecidableEq

namespace PathComponent

/-- The place of a kind of component in the sort order. -/
def rank : PathComponent → Nat
  | root => 0
  | current => 1
  | parent => 2
  | name _ => 3

/-- Sorts by kind, and names by their code points. -/
def compare : PathComponent → PathComponent → Ordering
  | name a, name b => Ord.compare a b
  | a, b => Ord.compare a.rank b.rank

end PathComponent

namespace Path

/-- Whether a path starts at the root. -/
def isAbsolute (path : String) : Bool :=
  path.toList.head? == some '/'

/-- The component that a piece between slashes stands for, behind the first piece. -/
def component? (piece : List Char) : Option PathComponent :=
  if piece = [] ∨ piece = ['.'] then none
  else if piece = ['.', '.'] then some .parent
  else some (.name (String.ofList piece))

/-- The components of a path. -/
def components (path : String) : List PathComponent :=
  let pieces := path.toList.splitOn '/'
  let start : List PathComponent :=
    match pieces with
    | ['.'] :: _ => [.current]
    | [] :: _ :: _ => [.root]
    | _ => []
  start ++ pieces.filterMap component?

/-- Whether two texts are the same path. -/
def same (a b : String) : Bool :=
  components a == components b

/-- Compares lists of components from the left; a path comes before its extensions. -/
def compareComponents : List PathComponent → List PathComponent → Ordering
  | [], [] => .eq
  | [], _ :: _ => .lt
  | _ :: _, [] => .gt
  | a :: as, b :: bs => (a.compare b).then (compareComponents as bs)

/-- The sort order of paths. -/
def compare (a b : String) : Ordering :=
  compareComponents (components a) (components b)

/-- A path seen from another.  An absolute path stays as it is. -/
def join (base path : String) : String :=
  if isAbsolute path then path
  else if base.isEmpty ∨ base.toList.getLast? = some '/' then base ++ path
  else base ++ "/" ++ path

/-- Whether a piece between slashes does not count, behind the first piece. -/
def isIdle (piece : List Char) : Bool :=
  piece == [] || piece == ['.']

/-- Pieces without idle ones at the end. -/
def trimIdle (pieces : List (List Char)) : List (List Char) :=
  (pieces.reverse.dropWhile isIdle).reverse

/-- The path of the directory that a path is in: its text without the last component.  The empty path
and the root have none. -/
def parent? (path : String) : Option String :=
  match path.toList.splitOn '/' with
  | [] => none
  | first :: pieces =>
    match (trimIdle pieces).dropLast, (trimIdle pieces).isEmpty with
    | _, true => if first.isEmpty then none else some ""
    | rest, false =>
      match first, trimIdle rest with
      | [], [] => some "/"
      | first, rest => some (String.ofList (List.intercalate ['/'] (first :: rest)))

end Path

end IdlBindings
