/-
# IdlBindings.Pattern.Size: how large a pattern may be.

A pattern is accepted if the automata that read its matches byte by byte, forwards and backwards, do
not take more than a number of bytes.  They are not built here, only counted: a node takes a fixed
number of bytes, and so does every edge of a node with several edges and every way out of a node that
branches.  All that counts is how many there are, and that repetitions are written out.

The nodes of a set of characters are shared as far as a table of bounded size remembers them.
-/
import IdlBindings.Pattern.Regex
import IdlBindings.Text.ByteSequence
import Std.Data.HashMap

namespace IdlBindings.Pattern

open Text (ByteSequence byteSequences charBytes)

/-! ## Counting -/

/-- The size of an automaton: the number of its nodes, and the bytes of their edges. -/
structure Tally where
  nodes : Nat := 0
  edges : Nat := 0

namespace Tally

/-- The bytes of an automaton. -/
def bytes (tally : Tally) : Nat :=
  32 * tally.nodes + tally.edges

/-- The most bytes that an automaton may take. -/
def limit : Nat := 10 * Nat.pow 2 20

end Tally

/-- Counts the nodes of an automaton.  Fails if it becomes too large. -/
abbrev Meter := StateT Tally Option

namespace Meter

/-- Adds nodes, and bytes of edges.  Gives the number of the first of the nodes. -/
def add (nodes edges : Nat) : Meter Nat := fun tally =>
  let grown : Tally := ⟨tally.nodes + nodes, tally.edges + edges⟩
  if grown.bytes ≤ Tally.limit then some (tally.nodes, grown) else none

/-- Adds a node with some edges. -/
def node (edges : Nat) : Meter Nat :=
  add 1 (8 * edges)

/-- Adds ways out of nodes that branch. -/
def branch (count : Nat) : Meter Unit := do
  let _ ← add 0 (4 * count)

/-- Leads the end of a piece somewhere, which costs something if the piece ends in a node that
branches. -/
def link (branches : Bool) : Meter Unit :=
  if branches then branch 1 else pure ()

end Meter

open Meter

/-! ## Shared nodes -/

/-- A table of nodes by what they are made of.  A slot holds one node, the last one. -/
abbrev NodeTable := Std.HashMap Nat (List Nat × Nat)

/-- Counts nodes that may be shared. -/
abbrev Sharing := StateT NodeTable Meter

/-- A number that stands for a list of numbers. -/
def fingerprint (key : List Nat) : UInt64 :=
  key.foldl (fun hash n => (hash ^^^ n.toUInt64) * 1099511628211) 14695981039346656037

/-- The node that is made of the parts of a key, in a table of some slots.  If its slot holds another
one it is added, and takes over the slot. -/
def shared (slotCount : Nat) (key : List Nat) (edges : Nat) : Sharing Nat := do
  let slot := (fingerprint key).toNat % slotCount
  let slots ← get
  match slots[slot]?.filter (·.1 == key) with
  | some (_, number) => return number
  | none =>
    let number ← node edges
    set (slots.insert slot (key, number))
    return number

/-! ## Sets of characters -/

/-- Whether two rows of bytes begin alike. -/
def beginAlike (a b : ByteSequence) : Bool :=
  a.head? == b.head?

/-- The nodes of rows of bytes that are read forwards and end in `target`: rows that begin alike share
their first edge.  Gives the number of the first node. -/
def forwardNodes (target : Nat) : Nat → List ByteSequence → Sharing Nat
  | 0, _ => return target
  | depth + 1, rows => do
    if rows.all List.isEmpty then return target
    let edges ← (rows.splitBy beginAlike).mapM fun group => do
      let next ← forwardNodes target depth (group.map (·.drop 1))
      let (low, high) := (group.head?.bind List.head?).getD (0, 0)
      return [low, high, next]
    shared 10000 edges.flatten edges.length

/-- The nodes of a row of bytes that is read backwards and ends in `target`.  Gives the number of the
node that reads the last byte. -/
def backwardNodes (target : Nat) : ByteSequence → Sharing Nat
  | [] => return target
  | (low, high) :: rest => do
    let number ← shared 1000 [target, low, high] 0
    backwardNodes number rest

/-- The nodes of all rows of bytes that are read backwards. -/
def backwardRows (target : Nat) : List ByteSequence → Sharing Unit
  | [] => return ()
  | row :: rest => do
    let _ ← backwardNodes target row
    branch 1
    backwardRows target rest

/-- The most bytes of a character. -/
def maxBytes : Nat := 4

/-- Counts a set of characters. -/
def countSet (backward : Bool) (set : CharSet) : Meter Unit := do
  if set.isAscii then
    let _ ← node 0
    let _ ← node set.length
  else
    let rows := set.flatMap fun (low, high) => byteSequences low high
    if backward then
      let first ← add 2 0
      let _ ← (backwardRows (first + 1) rows).run {}
    else
      let target ← node 0
      let _ ← (forwardNodes target maxBytes rows).run {}

/-! ## Texts -/

/-- The text of an expression that is one. -/
def Regex.text? : Regex → Option (List Char)
  | .literal text => some text
  | _ => none

/-- The bytes of a text. -/
def textBytes (text : List Char) : List Nat :=
  text.flatMap charBytes

/-- The texts that go on from a node, in the order in which they are tried, cut where the node itself
ends one.  That nothing goes on is noted once in front of all. -/
def chunks (texts : List (List Nat)) : List (List (List Nat)) :=
  let behind := texts.dropWhile List.isEmpty
  (if texts.head?.any List.isEmpty then [] :: behind else behind).splitOnP List.isEmpty

/-- The texts that begin with each of the first numbers, without it. -/
def groupsByHead (texts : List (List Nat)) : List (List (List Nat)) :=
  (texts.filterMap List.head?).eraseDups.map fun first =>
    (texts.filter fun text => text.head? == some first).map (·.drop 1)

/-- Counts the tree of texts that stand beside each other, up to a depth. -/
def countTree : Nat → List (List Nat) → Meter Unit
  | 0, _ => pure ()
  | depth + 1, texts => do
    let chunks := chunks texts
    for chunk in chunks do
      let groups := groupsByHead chunk
      for group in groups do
        if !group.all List.isEmpty then countTree depth group
      if !groups.isEmpty then
        let _ ← node (if groups.length = 1 then 0 else groups.length)
    let _ ← node 0
    branch ((chunks.filter fun chunk => !chunk.isEmpty).length + (chunks.length - 1))

/-- Counts texts that stand beside each other. -/
def countTexts (backward : Bool) (texts : List (List Char)) : Meter Unit := do
  let texts := texts.map fun text =>
    if backward then (textBytes text).reverse else textBytes text
  let _ ← node 0
  countTree (texts.foldl (fun depth text => max depth text.length) 0) texts

/-! ## Repetitions

A piece gives whether it ends in a node that branches. -/

/-- Counts further copies of a piece behind one. -/
def countCopies (piece : Meter Bool) : Nat → Bool → Meter Bool
  | 0, last => pure last
  | count + 1, last => do
    let next ← piece
    link last
    countCopies piece count next

/-- Counts copies of a piece.  No copy is a node too. -/
def countExactly (piece : Meter Bool) : Nat → Meter Bool
  | 0 => do
    let _ ← node 0
    return false
  | count + 1 => do
    let first ← piece
    countCopies piece count first

/-- Counts copies of a piece that may be left out, behind one. -/
def countOptional (piece : Meter Bool) : Nat → Bool → Meter Bool
  | 0, last => pure last
  | count + 1, last => do
    let _ ← node 0
    let next ← piece
    link last
    branch 2
    countOptional piece count next

/-- Counts a piece that is repeated without end.  One that may take nothing needs two choices. -/
def countEndless (takesChar : Bool) (piece : Meter Bool) : Nat → Meter Bool
  | 0 => do
    if takesChar then
      let _ ← node 0
      let last ← piece
      branch 1
      link last
      return true
    else
      let last ← piece
      let _ ← add 3 0
      link last
      branch 4
      return false
  | 1 => do
    let last ← piece
    let _ ← node 0
    link last
    branch 1
    return true
  | count + 2 => do
    let before ← countExactly piece (count + 1)
    let last ← piece
    let _ ← node 0
    link before
    link last
    branch 1
    return true

/-- Counts a repetition of a piece. -/
def countRepeated (takesChar : Bool) (piece : Meter Bool) (least : Nat) (most : Option Nat) :
    Meter Bool :=
  match least, most with
  | least, none => countEndless takesChar piece least
  | 0, some 1 => do
    let _ ← node 0
    let last ← piece
    let _ ← node 0
    branch 2
    link last
    return false
  | least, some most =>
    if least = most then countExactly piece least
    else do
      let before ← countExactly piece least
      let _ ← node 0
      let last ← countOptional piece (most - least) before
      link last
      return false

/-! ## Expressions -/

mutual
/-- Counts the nodes of an expression. -/
def Regex.count (backward : Bool) : Regex → Meter Bool
  | .empty | .look _ => do
    let _ ← node 0
    return false
  | .literal text => do
    let _ ← add (textBytes text).length 0
    return false
  | .chars set _ => do
    countSet backward set
    return false
  | .repeated sub least most _ =>
    countRepeated sub.takesChar (Regex.count backward sub) least most
  | .capture _ sub => do
    if backward then
      Regex.count backward sub
    else
      let _ ← node 0
      let last ← Regex.count backward sub
      let _ ← node 0
      link last
      return false
  | .alternation branches => do
    match branches.mapM Regex.text? with
    | some texts => countTexts backward texts
    | none => Regex.countBranches backward 0 false branches
    return false
  | .concat parts => do
    let last ← Regex.countRow backward none parts
    return last.getD false
/-- Counts branches, of which some have been counted; `first` says how the first one ends.  The node
that branches and the one in which all end are added behind the second. -/
def Regex.countBranches (backward : Bool) (done : Nat) (first : Bool) : List Regex → Meter Unit
  | [] => pure ()
  | r :: rest => do
    let last ← Regex.count backward r
    match done with
    | 0 => Regex.countBranches backward 1 last rest
    | 1 =>
      let _ ← add 2 0
      branch 2
      link first
      link last
      Regex.countBranches backward 2 false rest
    | done =>
      branch 1
      link last
      Regex.countBranches backward done false rest
/-- Counts expressions in a row, behind a piece if there is one.  The last part is the first one that
is read backwards. -/
def Regex.countRow (backward : Bool) (before : Option Bool) : List Regex → Meter (Option Bool)
  | [] => pure before
  | r :: rest => do
    let before ← if backward then Regex.countRow backward before rest else pure before
    let last ← Regex.count backward r
    link (before.getD false)
    if backward then pure (some last) else Regex.countRow backward (some last) rest
end

/-- Counts the automaton of a whole pattern.  If a match need not start where the reading starts, any
bytes may stand in front of it. -/
def Regex.countAll (backward : Bool) (regex : Regex) : Meter Unit := do
  let anchored := if backward then regex.endsText else regex.startsText
  if anchored then
    let _ ← node 0
  else
    let _ ← add 2 0
    let _ ← node 1
    branch 2
  if backward then
    let last ← regex.count backward
    let _ ← node 0
    link last
  else
    let _ ← node 0
    let last ← regex.count backward
    let _ ← add 2 0
    link last

/-- Whether a pattern is not too large. -/
def Regex.isAccepted (regex : Regex) : Bool :=
  ((regex.countAll false).run {}).isSome && ((regex.countAll true).run {}).isSome

end IdlBindings.Pattern
