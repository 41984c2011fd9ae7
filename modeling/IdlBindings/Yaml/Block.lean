/-
# IdlBindings.Yaml.Block: texts as blocks of lines.

A block begins behind a bar or an angle bracket.  Its lines are indented as far as its first line that
is not empty, or as far as its head says.  Lines behind a bar are kept, lines behind an angle bracket
are folded.
-/
import IdlBindings.Yaml.Cursor

namespace IdlBindings.Yaml.Block

/-! ## Heads -/

/-- What becomes of the ends of lines at the end of a block. -/
inductive Chomping where
  /-- The last one is kept. -/
  | clip
  /-- All are dropped. -/
  | strip
  /-- All are kept. -/
  | keep
  deriving DecidableEq

/-- What stands behind the mark of a block. -/
structure Head where
  chomping : Chomping := .clip
  /-- The indentation, if it is given. -/
  increment : Option Nat := none

/-- The sign of chomping, if it is next. -/
def chomping? (cursor : Cursor) : Option Chomping :=
  match cursor.next? with
  | some '+' => some .keep
  | some '-' => some .strip
  | _ => none

/-- Reads a digit for the indentation, if one is next.  It is not zero. -/
def readIncrement (head : Head) (cursor : Cursor) : Option (Head × Cursor) :=
  match cursor.next? with
  | some c =>
    if !c.isDigit then some (head, cursor)
    else if c = '0' then none
    else some ({ head with increment := some (c.toNat - 0x30) }, cursor.skip 1)
  | none => some (head, cursor)

/-- Reads the signs of a head, in either order. -/
def readSigns (cursor : Cursor) : Option (Head × Cursor) :=
  match chomping? cursor with
  | some chomping => readIncrement { chomping } (cursor.skip 1)
  | none => do
    let (head, after) ← readIncrement {} cursor
    match head.increment, chomping? after with
    | some _, some chomping => some ({ head with chomping }, after.skip 1)
    | _, _ => some (head, after)

/-- Reads a head and the rest of its line. -/
def readHead (cursor : Cursor) : Option (Head × Cursor) := do
  let (head, after) ← readSigns cursor
  let stop := (after.skipRun isBlank).skipComment
  if isBreakOrEnd stop.next? then some (head, stop.readBreak.2) else none

/-! ## Lines -/

/-- Passes blanks up to a column; with no column given, all blanks. -/
def skipIndent (indent : Option Nat) (cursor : Cursor) : Cursor :=
  let run := cursor.rest.takeWhile (· == ' ')
  match indent with
  | some indent => cursor.skip (min run.length (indent - cursor.column))
  | none => cursor.skip run.length

/-- Reads empty lines.  The answer has the ends of lines and the greatest column that was reached.  A
tab in place of a blank of the indentation fails. -/
def emptyLines (indent : Option Nat) :
    Nat → Nat → Cursor → Option (List Char × Nat × Cursor)
  | 0, reached, cursor => some ([], reached, cursor)
  | steps + 1, reached, cursor =>
    let start := skipIndent indent cursor
    let reached := max reached start.column
    if start.startsWith '\t' && indent.all (start.column < ·) then none
    else if start.next?.any isBreak then do
      let (text, after) := start.readBreak
      let (more, reached, stop) ← emptyLines indent steps reached after
      some (text ++ more, reached, stop)
    else some ([], reached, start)

/-- The ends of lines between two lines of a folded block. -/
def joinFolded (first others : List Char) (blankBefore blankAfter : Bool) : List Char :=
  if first = ['\n'] && !blankBefore && !blankAfter then
    if others.isEmpty then [' '] else others
  else first ++ others

/-- The lines of a block.  `first` and `others` are the ends of lines since the last line, and
`blankBefore` says whether that line began with a blank. -/
def lines (folded : Bool) (chomping : Chomping) (indent : Nat) :
    Nat → List Char → List Char → Bool → Cursor → Option (List Char × Cursor)
  | 0, _, _, _, _ => none
  | steps + 1, first, others, blankBefore, cursor =>
    if cursor.column ≠ indent ∨ cursor.next? = none then
      match chomping with
      | .strip => some ([], cursor)
      | .clip => some (first, cursor)
      | .keep => some (first ++ others, cursor)
    else do
      let blank := cursor.next?.any isBlank
      let between :=
        if folded then joinFolded first others blankBefore blank else first ++ others
      let (line, stop) := cursor.run (!isBreak ·)
      let (ending, after) := stop.readBreak
      let (empty, _, start) ← emptyLines (some indent) after.rest.length 0 after
      let (text, finish) ← lines folded chomping indent steps ending empty blank start
      some (between ++ line ++ text, finish)

/-- Reads a block whose mark is next, inside a block of the given indentation. -/
def read (folded : Bool) (parent : Int) (cursor : Cursor) : Option (List Char × Cursor) := do
  let (head, start) ← readHead (cursor.skip 1)
  let given := head.increment.map fun (increment : Nat) =>
    if parent ≥ 0 then (parent + increment).toNat else increment
  let (empty, reached, first) ← emptyLines given (start.rest.length + 1) 0 start
  let indent := given.getD (max (max reached (parent + 1).toNat) 1)
  lines folded head.chomping indent (first.rest.length + 1) [] empty false first

end IdlBindings.Yaml.Block
