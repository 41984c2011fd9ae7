/-
# IdlBindings.Yaml.Lexer: from characters to tokens.

Indentation becomes tokens too: a block begins where the indentation grows and ends where it falls
back.  A key is known as one only by the colon behind it, so the tokens of the key are put in front of
it later.  Such a key stands on one line and has at most 1024 characters.
-/
import IdlBindings.Yaml.Block
import IdlBindings.Yaml.Plain
import IdlBindings.Yaml.Quoted
import IdlBindings.Yaml.Token

namespace IdlBindings.Yaml

/-- A place where a key may have begun. -/
structure PossibleKey where
  /-- Whether it has to be a key: at the indentation of its block. -/
  required : Bool
  /-- The number of tokens in front of it. -/
  number : Nat
  index : Nat
  line : Nat
  column : Nat

/-- What the lexer knows between two tokens. -/
structure Lexer where
  cursor : Cursor
  tokens : Array Token := #[]
  /-- The column of the innermost block; -1 outside of all blocks. -/
  indent : Int := -1
  /-- The columns of the blocks around it. -/
  outer : List Int := []
  /-- Whether a key may begin here. -/
  keyAllowed : Bool := true
  /-- The possible key outside of all brackets, and one for each bracket that is open; the innermost
  comes first. -/
  keys : List (Option PossibleKey) := [none]

namespace Lexer

/-- Whether a bracket is open. -/
def inFlow (lexer : Lexer) : Bool :=
  lexer.keys.length > 1

/-- Adds a token. -/
def push (lexer : Lexer) (token : Token) : Lexer :=
  { lexer with tokens := lexer.tokens.push token }

/-- Adds a token in front of those from a number on. -/
def insert (lexer : Lexer) (number : Nat) (token : Token) : Lexer :=
  { lexer with
    tokens := (lexer.tokens.extract 0 number).push token
      ++ lexer.tokens.extract number lexer.tokens.size }

/-! ## Keys -/

/-- Gives up the possible key of the innermost bracket.  Fails if it had to be a key. -/
def dropKey (lexer : Lexer) : Option Lexer :=
  match lexer.keys with
  | some key :: rest => if key.required then none else some { lexer with keys := none :: rest }
  | _ => some lexer

/-- Whether a possible key can no longer be one. -/
def isStale (cursor : Cursor) (key : PossibleKey) : Bool :=
  key.line < cursor.line || key.index + 1024 < cursor.index

/-- Gives up all possible keys that can no longer be one.  Fails if one had to be a key. -/
def dropStale (lexer : Lexer) : Option Lexer := do
  let keys ← lexer.keys.mapM fun key =>
    match key with
    | some key =>
      if !isStale lexer.cursor key then some (some key)
      else if key.required then none
      else some none
    | none => some none
  some { lexer with keys }

/-- Notes that a key may begin here. -/
def saveKey (lexer : Lexer) : Option Lexer := do
  if lexer.keyAllowed then
    let lexer ← lexer.dropKey
    let cursor := lexer.cursor
    let key : PossibleKey := {
      required := !lexer.inFlow && lexer.indent == (cursor.column : Int)
      number := lexer.tokens.size
      index := cursor.index
      line := cursor.line
      column := cursor.column }
    some { lexer with keys := some key :: lexer.keys.drop 1 }
  else some lexer

/-! ## Indentation -/

/-- Begins a block at a column, unless one is there.  Its token stands in front of those from a number
on. -/
def openBlock (lexer : Lexer) (column number : Nat) (token : Token) : Lexer :=
  if !lexer.inFlow && lexer.indent < (column : Int) then
    { lexer.insert number token with indent := column, outer := lexer.indent :: lexer.outer }
  else lexer

/-- Ends the blocks that begin behind a column: the number of ends, the column of the block that stays
and those around it. -/
def closing (column indent : Int) : List Int → Nat × Int × List Int
  | [] => (0, indent, [])
  | next :: outer =>
    if indent > column then
      let (count, indent, outer) := closing column next outer
      (count + 1, indent, outer)
    else (0, indent, next :: outer)

/-- Ends the blocks that begin behind a column. -/
def closeBlocks (lexer : Lexer) (column : Int) : Lexer :=
  if lexer.inFlow then lexer
  else
    let (count, indent, outer) := closing column lexer.indent lexer.outer
    { lexer with
      tokens := lexer.tokens ++ Array.replicate count Token.blockEnd
      indent
      outer }

/-! ## Blanks and comments -/

/-- Passes blanks, comments and ends of lines.  A line may begin with a byte order mark.  Tabs are no
blanks where a key may begin, except inside brackets.  Behind the end of a line a key may begin. -/
def skipBlanks : Nat → Lexer → Lexer
  | 0, lexer => lexer
  | steps + 1, lexer =>
    let start :=
      if lexer.cursor.column = 0 && (lexer.cursor.next?.any fun c => c.toNat == 0xfeff) then
        lexer.cursor.skip 1
      else lexer.cursor
    let tabs := lexer.inFlow || !lexer.keyAllowed
    let stop := (start.skipRun fun c => c == ' ' || (tabs && c == '\t')).skipComment
    if stop.next?.any isBreak then
      skipBlanks steps
        { lexer with cursor := stop.readBreak.2, keyAllowed := lexer.keyAllowed || !lexer.inFlow }
    else { lexer with cursor := stop }

/-! ## Tokens -/

/-- Passes characters and adds a token. -/
def mark (lexer : Lexer) (count : Nat) (token : Token) : Lexer :=
  { lexer with cursor := lexer.cursor.skip count }.push token

/-- The mark of the beginning or the end of a document. -/
def documentMark (lexer : Lexer) (token : Token) : Option Lexer := do
  let lexer ← (lexer.closeBlocks (-1)).dropKey
  some ({ lexer with keyAllowed := false }.mark 3 token)

/-- A directive. -/
def directive (lexer : Lexer) : Option Lexer := do
  let lexer ← (lexer.closeBlocks (-1)).dropKey
  let (token, cursor) ← Token.readDirective lexer.cursor
  some ({ lexer with cursor, keyAllowed := false }.push token)

/-- An opening bracket. -/
def openFlow (lexer : Lexer) (token : Token) : Option Lexer := do
  let lexer ← lexer.saveKey
  some ({ lexer with keys := none :: lexer.keys, keyAllowed := true }.mark 1 token)

/-- A closing bracket. -/
def closeFlow (lexer : Lexer) (token : Token) : Option Lexer := do
  let lexer ← lexer.dropKey
  let keys := if lexer.inFlow then lexer.keys.drop 1 else lexer.keys
  some ({ lexer with keys, keyAllowed := false }.mark 1 token)

/-- A comma. -/
def flowEntry (lexer : Lexer) : Option Lexer := do
  let lexer ← lexer.dropKey
  some ({ lexer with keyAllowed := true }.mark 1 .flowEntry)

/-- A dash or a question mark, which begins a block where a key may begin. -/
def blockMark (lexer : Lexer) (block token : Token) (keyAllowed : Bool) : Option Lexer := do
  if !lexer.inFlow && !lexer.keyAllowed then none
  else
    let lexer ← (lexer.openBlock lexer.cursor.column lexer.tokens.size block).dropKey
    some ({ lexer with keyAllowed }.mark 1 token)

/-- A colon.  What stands in front of it is a key, if it can be one. -/
def value (lexer : Lexer) : Option Lexer :=
  match lexer.keys with
  | some key :: rest =>
    let lexer := (lexer.insert key.number .key).openBlock key.column key.number .blockMappingStart
    some ({ lexer with keys := none :: rest, keyAllowed := false }.mark 1 .value)
  | _ => lexer.blockMark .blockMappingStart .value (!lexer.inFlow)

/-- An anchor or an alias. -/
def anchor (lexer : Lexer) (token : String → Token) : Option Lexer := do
  let lexer ← lexer.saveKey
  let (name, cursor) ← Token.readAnchorName (lexer.cursor.skip 1)
  some ({ lexer with cursor, keyAllowed := false }.push (token name))

/-- A tag. -/
def tag (lexer : Lexer) : Option Lexer := do
  let lexer ← lexer.saveKey
  let (token, cursor) ← Token.readTag lexer.inFlow lexer.cursor
  some ({ lexer with cursor, keyAllowed := false }.push token)

/-- A text as a block of lines. -/
def block (lexer : Lexer) (form : ScalarForm) : Option Lexer := do
  let lexer ← lexer.dropKey
  let (text, cursor) ← Block.read (form == .folded) lexer.indent lexer.cursor
  some ({ lexer with cursor, keyAllowed := true }.push (.scalar form (String.ofList text)))

/-- A text between quotes. -/
def quoted (lexer : Lexer) (quote : Char) : Option Lexer := do
  let lexer ← lexer.saveKey
  let (text, cursor) ← Quoted.read quote lexer.cursor
  some ({ lexer with cursor, keyAllowed := false }.push (.scalar .quoted (String.ofList text)))

/-- A text without quotes. -/
def plain (lexer : Lexer) : Option Lexer := do
  let lexer ← lexer.saveKey
  let (text, broken, cursor) ← Plain.read lexer.inFlow lexer.indent lexer.cursor
  some ({ lexer with cursor, keyAllowed := broken }.push (.scalar .plain (String.ofList text)))

/-- The end of all. -/
def finish (lexer : Lexer) : Option Lexer := do
  let lexer ← (lexer.closeBlocks (-1)).dropKey
  some (lexer.push .streamEnd)

/-- The marks that no text without quotes begins with. -/
def reserved : List Char :=
  ['-', '?', ':', ',', '[', ']', '\x7b', '\x7d', '#', '&', '*', '!', '|', '>', '\'', '"', '%', '@',
   (Char.ofNat 0x60)]

/-- Whether a text without quotes begins here.  A dash, a question mark or a colon begins one if no
blank follows; the last two do so only outside of brackets. -/
def startsPlain (lexer : Lexer) (c : Char) : Bool :=
  let next := lexer.cursor.peek? 1
  !(isBlank c || isBreak c || reserved.contains c)
    || (c == '-' && !next.any isBlank)
    || (!lexer.inFlow && (c == '?' || c == ':') && !isSpaceOrEnd next)

/-- Reads the token that begins with a character. -/
def tokenAt (lexer : Lexer) (c : Char) : Option Lexer :=
  let cursor := lexer.cursor
  let alone := isSpaceOrEnd (cursor.peek? 1)
  let flow := lexer.inFlow
  if cursor.column = 0 && c = '%' then lexer.directive
  else if cursor.atDocumentMark '-' then lexer.documentMark .documentStart
  else if cursor.atDocumentMark '.' then lexer.documentMark .documentEnd
  else if c = '[' then lexer.openFlow .flowSequenceStart
  else if c = '\x7b' then lexer.openFlow .flowMappingStart
  else if c = ']' then lexer.closeFlow .flowSequenceEnd
  else if c = '\x7d' then lexer.closeFlow .flowMappingEnd
  else if c = ',' then lexer.flowEntry
  else if c = '-' && alone then lexer.blockMark .blockSequenceStart .blockEntry true
  else if c = '?' && (flow || alone) then lexer.blockMark .blockMappingStart .key (!flow)
  else if c = ':' && (flow || alone) then lexer.value
  else if c = '*' then lexer.anchor .aliasOf
  else if c = '&' then lexer.anchor .anchor
  else if c = '!' then lexer.tag
  else if c = '|' && !flow then lexer.block .literal
  else if c = '>' && !flow then lexer.block .folded
  else if c = '\'' || c = '"' then lexer.quoted c
  else if lexer.startsPlain c then lexer.plain
  else none

/-- Reads tokens to the end. -/
def run : Nat → Lexer → Option (List Token)
  | 0, _ => none
  | steps + 1, lexer => do
    let lexer ← (lexer.skipBlanks (lexer.cursor.rest.length + 1)).dropStale
    let lexer := lexer.closeBlocks lexer.cursor.column
    match lexer.cursor.next? with
    | none => (·.tokens.toList) <$> lexer.finish
    | some c => do
      let lexer ← lexer.tokenAt c
      run steps lexer

end Lexer

/-- The tokens of a document.  Each but the last has at least one character. -/
def tokens? (text : String) : Option (List Token) :=
  let cs := text.toList
  if cs.all isAllowed then Lexer.run (cs.length + 1) { cursor := { rest := cs } } else none

end IdlBindings.Yaml
