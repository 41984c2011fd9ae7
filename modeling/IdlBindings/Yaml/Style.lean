/-
# IdlBindings.Yaml.Style: how a text is written.

A text is written plain if it reads back as itself.  Otherwise it stands between single quotes, or, if
it has characters that need an escape, between double quotes.  A text of several lines is written as a
block, line by line, if no blank would be lost.
-/
import IdlBindings.Yaml.Cursor
import IdlBindings.Yaml.Number

namespace IdlBindings.Yaml

/-! ## Characters -/

/-- Whether a character is written as itself. -/
def isPrintable (c : Char) : Bool :=
  let n := c.toNat
  n == 0x0a || (0x20 ≤ n && n ≤ 0x7e) || (0xa0 ≤ n && n != 0xfeff && n != 0xfffe && n != 0xffff)

/-- The characters that no plain text begins with. -/
def indicators : List Char :=
  ['#', ',', '[', ']', '\x7b', '\x7d', '&', '*', '!', '|', '>', '\'', '"', '%', '@', (Char.ofNat 0x60)]

/-! ## What a text has -/

/-- Whether a character has a meaning at the beginning of a plain text. -/
def isLeadingIndicator (c : Char) (next : Option Char) : Bool :=
  indicators.contains c || ((c == '?' || c == ':' || c == '-') && isSpaceOrEnd next)

/-- Whether a character has a meaning inside a plain text: a colon before a blank, a number sign
behind one. -/
def hasInnerIndicator (previous : Char) : List Char → Bool
  | [] => false
  | c :: rest =>
    (c == ':' && isSpaceOrEnd rest.head?) || (c == '#' && isSpaceOrEnd (some previous))
      || hasInnerIndicator c rest

/-- Whether a plain text would be read as structure. -/
def hasIndicator (cs : List Char) : Bool :=
  match cs with
  | [] => false
  | c :: rest =>
    ['-', '-', '-'].isPrefixOf cs || ['.', '.', '.'].isPrefixOf cs
      || isLeadingIndicator c rest.head? || hasInnerIndicator c rest

/-- Whether two neighbours satisfy a condition. -/
def hasNeighbours (condition : Char → Char → Bool) : List Char → Bool
  | a :: b :: rest => condition a b || hasNeighbours condition (b :: rest)
  | _ => false

/-- Whether a character needs an escape, or a blank would be lost at the end of a line. -/
def needsEscape (cs : List Char) : Bool :=
  cs.any (!isPrintable ·) || hasNeighbours (fun a b => a == ' ' && isBreak b) cs

/-- Whether a line begins with a blank. -/
def hasIndentedLine (cs : List Char) : Bool :=
  hasNeighbours (fun a b => isBreak a && b == ' ') cs

/-- Whether a text begins or ends with a blank. -/
def hasOuterBlank (cs : List Char) : Bool :=
  cs.head? == some ' ' || cs.getLast? == some ' '

/-! ## Styles -/

/-- The ways to write a text. -/
inductive Style where
  | plain
  | singleQuoted
  | doubleQuoted
  | literal
  deriving DecidableEq

/-- Whether a text can stand plain. -/
def allowsPlain (cs : List Char) : Bool :=
  !(hasOuterBlank cs || cs.any isBreak || needsEscape cs || hasIndicator cs)

/-- Whether a text can stand between single quotes. -/
def allowsSingleQuotes (cs : List Char) : Bool :=
  !(hasIndentedLine cs || needsEscape cs)

/-- Whether a text can stand as a block. -/
def allowsLiteral (cs : List Char) : Bool :=
  !(cs.isEmpty || cs.getLast? == some ' ' || needsEscape cs)

/-- The style of a text. -/
def styleOf (text : String) : Style :=
  let cs := text.toList
  if cs.contains '\n' then
    if allowsLiteral cs then .literal else .doubleQuoted
  else if !isAmbiguous text && allowsPlain cs then .plain
  else if allowsSingleQuotes cs then .singleQuoted
  else .doubleQuoted

/-! ## Writing -/

/-- Blanks that begin a line. -/
def blanks (count : Nat) : List Char :=
  List.replicate count ' '

/-- The lines of a text at an indentation; `fresh` says whether a line has just ended.  Characters
other than ends of lines are written by `put`. -/
def indentLines (indent : Nat) (put : Char → List Char) (fresh : Bool) : List Char → List Char
  | [] => []
  | c :: rest =>
    if isBreak c then c :: indentLines indent put true rest
    else (if fresh then blanks indent else []) ++ put c ++ indentLines indent put false rest

/-- A character between single quotes. -/
def singleChar (c : Char) : List Char :=
  if c = '\'' then ['\'', '\''] else [c]

/-- The escapes of one letter. -/
def escapeLetters : List (Nat × Char) :=
  [(0x00, '0'), (0x07, 'a'), (0x08, 'b'), (0x09, 't'), (0x0a, 'n'), (0x0b, 'v'), (0x0c, 'f'),
   (0x0d, 'r'), (0x1b, 'e'), (0x22, '"'), (0x5c, '\\'), (0x85, 'N'), (0xa0, '_'), (0x2028, 'L'),
   (0x2029, 'P')]

/-- The escape of a character. -/
def escapeSequence (c : Char) : List Char :=
  let n := c.toNat
  match escapeLetters.lookup n with
  | some letter => ['\\', letter]
  | none =>
    if n ≤ 0xff then '\\' :: 'x' :: Text.hexChars 'A' n 2
    else if n ≤ 0xffff then '\\' :: 'u' :: Text.hexChars 'A' n 4
    else '\\' :: 'U' :: Text.hexChars 'A' n 8

/-- A character between double quotes. -/
def doubleChar (c : Char) : List Char :=
  if !isPrintable c || isBreak c || c == '"' || c == '\\' then escapeSequence c else [c]

/-- What stands behind the bar of a block: the indentation, if the text does not show it, and whether
the last ends of lines belong to the text. -/
def literalHints (indentStep : Nat) (cs : List Char) : List Char :=
  let indentation := if cs.head?.any fun c => c == ' ' || isBreak c then
    (toString indentStep).toList else []
  let chomping := match cs.reverse with
    | [] => ['-']
    | [c] => if isBreak c then ['+'] else ['-']
    | c :: d :: _ => if !isBreak c then ['-'] else if isBreak d then ['+'] else []
  indentation ++ chomping

/-- The blanks that one level adds. -/
def indentStep : Nat := 2

/-- A text in a style, on lines of an indentation.  A quote that ends a text does not stand at the
beginning of a line. -/
def writeStyled (indent : Nat) (style : Style) (cs : List Char) : List Char :=
  match style with
  | .plain => cs
  | .singleQuoted =>
    '\'' :: indentLines indent singleChar false cs
      ++ (if cs.getLast?.any isBreak then blanks indent else []) ++ ['\'']
  | .doubleQuoted => '"' :: cs.flatMap doubleChar ++ ['"']
  | .literal =>
    '|' :: literalHints indentStep cs ++ '\n' :: indentLines indent (fun c => [c]) true cs

/-- A text in its style. -/
def writeText (indent : Nat) (text : String) : String :=
  String.ofList (writeStyled indent (styleOf text) text.toList)

end IdlBindings.Yaml
