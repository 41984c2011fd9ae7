/-
# IdlBindings.Yaml.Cursor: the characters of a document and a place in it.

A cursor holds what is still to be read and where that begins: how many characters are behind it, on
which line it stands and in which column.
-/

namespace IdlBindings.Yaml

/-! ## Classes of characters -/

/-- Whether a character ends a line. -/
def isBreak (c : Char) : Bool :=
  c.toNat == 0x0a || c.toNat == 0x0d || c.toNat == 0x85 || c.toNat == 0x2028 || c.toNat == 0x2029

/-- Whether a character is a blank within a line. -/
def isBlank (c : Char) : Bool :=
  c == ' ' || c == '\t'

/-- Whether a character, if there is one, is a blank or ends a line. -/
def isSpaceOrEnd : Option Char → Bool
  | some c => isBlank c || isBreak c || c.toNat == 0
  | none => true

/-- Whether a character, if there is one, ends a line. -/
def isBreakOrEnd : Option Char → Bool
  | some c => isBreak c || c.toNat == 0
  | none => true

/-- Whether a character can stand in the names of anchors, directives and tag handles. -/
def isNameChar (c : Char) : Bool :=
  c.isAlphanum || c == '_' || c == '-'

/-- Whether a character may stand in a document at all. -/
def isAllowed (c : Char) : Bool :=
  let n := c.toNat
  n == 0x09 || n == 0x0a || n == 0x0d || (0x20 ≤ n && n ≤ 0x7e) || n == 0x85
    || (0xa0 ≤ n && n ≤ 0xfffd) || 0x10000 ≤ n

/-! ## Places -/

/-- A place in a document. -/
structure Cursor where
  rest : List Char
  index : Nat := 0
  line : Nat := 0
  column : Nat := 0

namespace Cursor

/-- The next character. -/
def next? (cursor : Cursor) : Option Char :=
  cursor.rest.head?

/-- The character at a distance. -/
def peek? (cursor : Cursor) (distance : Nat) : Option Char :=
  cursor.rest[distance]?

/-- Whether the next character is the given one. -/
def startsWith (cursor : Cursor) (c : Char) : Bool :=
  cursor.next? == some c

/-- Passes characters of one line. -/
def skip (cursor : Cursor) (count : Nat) : Cursor where
  rest := cursor.rest.drop count
  index := cursor.index + count
  line := cursor.line
  column := cursor.column + count

/-- The longest run of characters of a class, and the place behind it. -/
def run (cursor : Cursor) (holds : Char → Bool) : List Char × Cursor :=
  let taken := cursor.rest.takeWhile holds
  (taken, cursor.skip taken.length)

/-- Passes the longest run of characters of a class. -/
def skipRun (cursor : Cursor) (holds : Char → Bool) : Cursor :=
  (cursor.run holds).2

/-- The beginning of the next line. -/
def newLine (cursor : Cursor) (count : Nat) : Cursor where
  rest := cursor.rest.drop count
  index := cursor.index + count
  line := cursor.line + 1
  column := 0

/-- Reads the end of a line, if there is one here.  The separators of lines and of paragraphs stay
what they are; all other ends are read as one. -/
def readBreak (cursor : Cursor) : List Char × Cursor :=
  match cursor.rest with
  | '\r' :: '\n' :: _ => (['\n'], cursor.newLine 2)
  | c :: _ =>
    if c.toNat = 0x2028 ∨ c.toNat = 0x2029 then ([c], cursor.newLine 1)
    else if isBreak c then (['\n'], cursor.newLine 1)
    else ([], cursor)
  | [] => ([], cursor)

/-- Passes blanks and a comment up to the end of the line. -/
def skipComment (cursor : Cursor) : Cursor :=
  if cursor.startsWith '#' then cursor.skipRun (!isBreak ·) else cursor

/-- Whether three marks alone begin a line. -/
def atDocumentMark (cursor : Cursor) (mark : Char) : Bool :=
  cursor.column == 0 && [mark, mark, mark].isPrefixOf cursor.rest && isSpaceOrEnd (cursor.peek? 3)

/-- Whether a mark of the beginning or the end of a document begins a line. -/
def atDocumentEdge (cursor : Cursor) : Bool :=
  cursor.atDocumentMark '-' || cursor.atDocumentMark '.'

end Cursor

/-! ## Blanks between words -/

/-- Blanks and ends of lines between two words of a text. -/
structure Gap where
  /-- The blanks, as long as the line has not ended. -/
  blanks : List Char := []
  /-- Whether a line has ended. -/
  broken : Bool := false
  /-- The first end of a line. -/
  first : List Char := []
  /-- The other ends of lines. -/
  others : List Char := []

namespace Gap

/-- What a gap is read as: one end of a line is a blank, and of several the first one is dropped. -/
def fold (gap : Gap) : List Char :=
  if !gap.broken then gap.blanks
  else if gap.first = ['\n'] then if gap.others.isEmpty then [' '] else gap.others
  else gap.first ++ gap.others

/-- Reads a gap.  Fails at a tab left of the given column on a fresh line. -/
def scan (indent : Int) : Nat → Gap → Cursor → Option (Gap × Cursor)
  | 0, gap, cursor => some (gap, cursor)
  | steps + 1, gap, cursor =>
    match cursor.next? with
    | none => some (gap, cursor)
    | some c =>
      if isBlank c then
        if gap.broken && (cursor.column : Int) < indent && c == '\t' then none
        else if gap.broken then scan indent steps gap (cursor.skip 1)
        else scan indent steps { gap with blanks := gap.blanks ++ [c] } (cursor.skip 1)
      else if isBreak c then
        let (text, after) := cursor.readBreak
        if gap.broken then scan indent steps { gap with others := gap.others ++ text } after
        else scan indent steps { gap with blanks := [], broken := true, first := text } after
      else some (gap, cursor)

end Gap

end IdlBindings.Yaml
