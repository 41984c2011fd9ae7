/-
# IdlBindings.Pattern.Expr: patterns as they are written.

A pattern is a tree of alternatives, sequences, repetitions and groups over characters, classes of
characters and anchors.  What a leaf matches depends on the flags in force where it stands, so flags
are kept in the tree.
-/
import IdlBindings.Pattern.CharSet

namespace IdlBindings.Pattern

/-! ## Leaves -/

/-- A character of a pattern; `isByte` marks the two-digit hexadecimal escape, which names a byte
where the pattern is not about Unicode. -/
structure LiteralChar where
  char : Char
  isByte : Bool := false

/-- A class with a letter of its own. -/
inductive PerlClass where
  | digit
  | space
  | word

/-- A place in the text. -/
inductive Anchor where
  | startLine
  | endLine
  | startText
  | endText
  | wordBoundary
  | notWordBoundary
  | wordStart
  | wordEnd
  | wordStartHalf
  | wordEndHalf
  deriving DecidableEq

/-! ## Flags -/

/-- The settings that a pattern can change. -/
inductive Flag where
  | ignoreCase
  | multiLine
  | dotAll
  | swapGreed
  | unicode
  | crlf
  | ignoreSpace
  deriving DecidableEq

/-- Flags that are switched on and off. -/
structure FlagChange where
  on : List Flag := []
  off : List Flag := []

/-- What a change does to a setting. -/
def FlagChange.apply (change : FlagChange) (flag : Flag) (setting : Bool) : Bool :=
  if change.on.contains flag then true
  else if change.off.contains flag then false
  else setting

/-! ## Classes -/

/-- An operation on two classes in brackets. -/
inductive SetOp where
  | inter
  | diff
  | symmDiff

/-- A class of characters. -/
inductive ClassExpr where
  | literal (c : LiteralChar)
  | range (first last : LiteralChar)
  | perl (kind : PerlClass) (negated : Bool)
  /-- A named class of ASCII characters. -/
  | ascii (set : CharSet) (negated : Bool)
  /-- A property, by the text that names it. -/
  | property (name : List Char) (negated : Bool)
  | union (items : List ClassExpr)
  | binary (op : SetOp) (left right : ClassExpr)
  | bracketed (negated : Bool) (set : ClassExpr)

mutual
/-- How deeply brackets, unions and operations nest.  Nothing at all is no union. -/
def ClassExpr.depth : ClassExpr → Nat
  | literal _ | range _ _ | perl _ _ | ascii _ _ | property _ _ => 0
  | union [] => 0
  | union items => 1 + ClassExpr.depthList items
  | binary _ left right => 1 + max left.depth right.depth
  | bracketed _ set => 1 + set.depth
/-- The depth of the deepest of several classes. -/
def ClassExpr.depthList : List ClassExpr → Nat
  | [] => 0
  | c :: rest => max c.depth (ClassExpr.depthList rest)
end

/-! ## Patterns -/

/-- A pattern. -/
inductive Expr where
  | empty
  /-- A change of flags for what follows in the same group. -/
  | flags (change : FlagChange)
  | literal (c : LiteralChar)
  | dot
  | anchor (kind : Anchor)
  | cls (set : ClassExpr)
  | repeated (sub : Expr) (least : Nat) (most : Option Nat) (greedy : Bool)
  | capture (index : Nat) (sub : Expr)
  /-- A group that is not captured, with a change of flags inside. -/
  | group (change : FlagChange) (sub : Expr)
  | alternation (branches : List Expr)
  | concat (parts : List Expr)

namespace Expr

mutual
/-- How deeply the parts of a pattern nest. -/
def depth : Expr → Nat
  | empty | flags _ | literal _ | dot | anchor _ => 0
  | cls set => set.depth
  | repeated sub _ _ _ | capture _ sub | group _ sub => 1 + depth sub
  | alternation parts | concat parts => 1 + depthList parts
/-- The depth of the deepest of several patterns. -/
def depthList : List Expr → Nat
  | [] => 0
  | e :: rest => max (depth e) (depthList rest)
end

/-- A sequence of parts; a single part stands for itself. -/
def ofParts : List Expr → Expr
  | [] => empty
  | [part] => part
  | parts => concat parts

/-- Whether a repetition mark may follow. -/
def isRepeatable : Expr → Bool
  | empty | flags _ => false
  | _ => true

end Expr

end IdlBindings.Pattern
