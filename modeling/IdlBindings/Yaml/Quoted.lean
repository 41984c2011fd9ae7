/-
# IdlBindings.Yaml.Quoted: texts between quotes.

Between single quotes a quote is written twice.  Between double quotes a backslash begins an escape; in
front of the end of a line it joins the lines.  Lines are folded in both.
-/
import IdlBindings.Text.Basic
import IdlBindings.Yaml.Cursor

namespace IdlBindings.Yaml.Quoted

/-! ## Escapes -/

/-- The escapes of one character, with what they stand for. -/
def escapes : List (Char × Nat) :=
  [('0', 0x00), ('a', 0x07), ('b', 0x08), ('t', 0x09), ('\t', 0x09), ('n', 0x0a), ('v', 0x0b),
   ('f', 0x0c), ('r', 0x0d), ('e', 0x1b), (' ', 0x20), ('"', 0x22), ('/', 0x2f), ('\\', 0x5c),
   ('N', 0x85), ('_', 0xa0), ('L', 0x2028), ('P', 0x2029)]

/-- The escapes with a code point, with its number of digits. -/
def numericEscapes : List (Char × Nat) :=
  [('x', 2), ('u', 4), ('U', 8)]

/-- The character of a code point.  Halves of surrogate pairs are none. -/
def charOf? (n : Nat) : Option Char :=
  if (0xd800 ≤ n ∧ n ≤ 0xdfff) ∨ 0x10ffff < n then none else some (Char.ofNat n)

/-- The character of an escape whose letter is next. -/
def readEscape (cursor : Cursor) : Option (Char × Cursor) :=
  match cursor.next? with
  | none => none
  | some letter =>
    match escapes.lookup letter, numericEscapes.lookup letter with
    | some n, _ => some (Char.ofNat n, cursor.skip 1)
    | none, some count => do
      let digits := (cursor.skip 1).rest.take count
      if digits.length < count then none
      else
        let c ← charOf? (← Text.hexNumber? digits)
        some (c, cursor.skip (count + 1))
    | none, none => none

/-! ## Texts -/

/-- Reads a text from behind its opening quote to behind its closing quote.  A gap that begins with an
escaped end of a line is broken from the start. -/
def scan (quote : Char) : Nat → Cursor → Option (List Char × Cursor)
  | 0, _ => none
  | steps + 1, cursor =>
    if cursor.atDocumentEdge then none
    else
      match cursor.next? with
      | none => none
      | some c =>
        if isBlank c || isBreak c then fold steps {} cursor
        else if c == quote then
          if quote == '\'' && cursor.peek? 1 == some '\'' then
            add steps [c] (cursor.skip 2)
          else some ([], cursor.skip 1)
        else if quote == '"' && c == '\\' then
          if (cursor.peek? 1).any isBreak then
            fold steps { broken := true } (cursor.skip 1).readBreak.2
          else do
            let (escaped, after) ← readEscape (cursor.skip 1)
            add steps [escaped] after
        else add steps [c] (cursor.skip 1)
where
  /-- Puts characters in front of the text that follows. -/
  add (steps : Nat) (cs : List Char) (cursor : Cursor) : Option (List Char × Cursor) := do
    let (text, after) ← scan quote steps cursor
    some (cs ++ text, after)
  /-- Reads a gap and goes on behind it. -/
  fold (steps : Nat) (gap : Gap) (cursor : Cursor) : Option (List Char × Cursor) := do
    let (gap, after) ← Gap.scan (-1) cursor.rest.length gap cursor
    add steps gap.fold after

/-- Reads a text whose opening quote is next. -/
def read (quote : Char) (cursor : Cursor) : Option (List Char × Cursor) :=
  scan quote (cursor.rest.length + 1) (cursor.skip 1)

end IdlBindings.Yaml.Quoted
