/-
# IdlBindings.Yaml.Token: the tokens of a document.
-/
import IdlBindings.Text.Basic
import IdlBindings.Yaml.Cursor

namespace IdlBindings.Yaml

/-- How a text was written. -/
inductive ScalarForm where
  | plain
  | quoted
  | literal
  | folded
  deriving DecidableEq

/-- The parts of a document. -/
inductive Token where
  | streamEnd
  | version (major minor : Nat)
  | tagDirective (handle meaning : String)
  | documentStart
  | documentEnd
  | blockSequenceStart
  | blockMappingStart
  | blockEnd
  | flowSequenceStart
  | flowSequenceEnd
  | flowMappingStart
  | flowMappingEnd
  | blockEntry
  | flowEntry
  | key
  | value
  | aliasOf (name : String)
  | anchor (name : String)
  | tag (handle suffix : String)
  | scalar (form : ScalarForm) (text : String)
  deriving DecidableEq

namespace Token

/-! ## Anchors and aliases -/

/-- The marks that may follow the name of an anchor. -/
def anchorEnds : List Char :=
  ['?', ':', ',', ']', '\x7d', '%', '@', (Char.ofNat 0x60)]

/-- Reads the name of an anchor or an alias behind its mark. -/
def readAnchorName (cursor : Cursor) : Option (String × Cursor) :=
  let (name, after) := cursor.run isNameChar
  if name.isEmpty then none
  else if isSpaceOrEnd after.next? || after.next?.any anchorEnds.contains then
    some (String.ofList name, after)
  else none

/-! ## Tags -/

/-- The octet of a percent sign and two digits. -/
def octet? (cursor : Cursor) : Option Nat :=
  match cursor.rest with
  | '%' :: a :: b :: _ => Text.hexNumber? [a, b]
  | _ => none

/-- How many octets follow the first one of a character. -/
def followers? (octet : Nat) : Option Nat :=
  if octet < 0x80 then some 0
  else if 0xc0 ≤ octet ∧ octet < 0xe0 then some 1
  else if 0xe0 ≤ octet ∧ octet < 0xf0 then some 2
  else if 0xf0 ≤ octet ∧ octet < 0xf8 then some 3
  else none

/-- Reads the octets that follow the first one of a character. -/
def readFollowers : Nat → Cursor → Option (List Char × Cursor)
  | 0, cursor => some ([], cursor)
  | count + 1, cursor => do
    let octet ← octet? cursor
    if 0x80 ≤ octet ∧ octet < 0xc0 then
      let (more, after) ← readFollowers count (cursor.skip 3)
      some (Char.ofNat octet :: more, after)
    else none

/-- Reads the escaped octets of one character.  Each octet is kept as a character of its own: no tag
with a meaning has any beyond the first 128. -/
def readEscapedOctets (cursor : Cursor) : Option (List Char × Cursor) := do
  let octet ← octet? cursor
  let (more, after) ← readFollowers (← followers? octet) (cursor.skip 3)
  some (Char.ofNat octet :: more, after)

/-- The marks that may stand in a tag. -/
def tagMarks : List Char :=
  [';', '/', '?', ':', '@', '&', '=', '+', '$', '.', '%', '!', '~', '*', '\'', '(', ')']

/-- Whether a character may stand in a tag.  Some marks are possible only in full tags. -/
def isTagChar (full : Bool) (c : Char) : Bool :=
  isNameChar c || tagMarks.contains c || (full && (c == ',' || c == '[' || c == ']'))

/-- Reads the characters of a tag. -/
def readTagChars (full : Bool) : Nat → Cursor → Option (List Char × Cursor)
  | 0, cursor => some ([], cursor)
  | steps + 1, cursor =>
    match cursor.next? with
    | none => some ([], cursor)
    | some c =>
      if !isTagChar full c then some ([], cursor)
      else do
        let (cs, after) ← if c = '%' then readEscapedOctets cursor else some ([c], cursor.skip 1)
        let (more, stop) ← readTagChars full steps after
        some (cs ++ more, stop)

/-- What counts of a tag: nothing behind a null character. -/
def meant (cs : List Char) : List Char :=
  cs.takeWhile (·.toNat != 0)

/-- Reads the characters of a tag, at least one. -/
def readTagText (full : Bool) (cursor : Cursor) : Option (List Char × Cursor) := do
  let (cs, after) ← readTagChars full cursor.rest.length cursor
  if cs.isEmpty then none else some (meant cs, after)

/-- Reads a handle: an exclamation mark, a name, and another exclamation mark if there is one. -/
def readHandle (cursor : Cursor) : Option (List Char × Cursor) :=
  if !cursor.startsWith '!' then none
  else
    let (name, after) := (cursor.skip 1).run isNameChar
    if after.startsWith '!' then some ('!' :: name ++ ['!'], after.skip 1)
    else some ('!' :: name, after)

/-- Whether a handle is closed by a second exclamation mark. -/
def isClosedHandle (handle : List Char) : Bool :=
  handle.length > 1 && handle.getLast? == some '!'

/-- Reads a tag that is not written in full.  Without a handle, all of it is a name of the primary
handle; a lone exclamation mark is a tag without a handle. -/
def readShortTag (cursor : Cursor) : Option (Token × Cursor) := do
  let (handle, after) ← readHandle cursor
  if isClosedHandle handle then
    let (suffix, stop) ← readTagText false after
    some (.tag (String.ofList handle) (String.ofList suffix), stop)
  else
    let (more, stop) ← readTagChars false after.rest.length after
    match meant (handle.drop 1 ++ more) with
    | [] => some (.tag "" "!", stop)
    | suffix => some (.tag "!" (String.ofList suffix), stop)

/-- Reads a tag that stands between angle brackets. -/
def readFullTag (cursor : Cursor) : Option (Token × Cursor) := do
  let (suffix, after) ← readTagText true (cursor.skip 2)
  if after.startsWith '>' then some (.tag "" (String.ofList suffix), after.skip 1) else none

/-- Reads a tag.  A blank follows, or a comma inside brackets. -/
def readTag (inFlow : Bool) (cursor : Cursor) : Option (Token × Cursor) := do
  let (token, after) ←
    if cursor.peek? 1 = some '<' then readFullTag cursor else readShortTag cursor
  if isSpaceOrEnd after.next? || (inFlow && after.startsWith ',') then some (token, after) else none

/-! ## Directives -/

/-- Reads a number of a version, of at most nine digits. -/
def readVersionNumber (cursor : Cursor) : Option (Nat × Cursor) :=
  let (digits, after) := cursor.run Char.isDigit
  if digits.isEmpty || digits.length > 9 then none
  else some (digits.foldl (fun n c => n * 10 + (c.toNat - 0x30)) 0, after)

/-- Reads a version. -/
def readVersion (cursor : Cursor) : Option (Token × Cursor) := do
  let (major, after) ← readVersionNumber (cursor.skipRun isBlank)
  if after.startsWith '.' then
    let (minor, stop) ← readVersionNumber (after.skip 1)
    some (.version major minor, stop)
  else none

/-- Reads a handle and its meaning. -/
def readTagDirective (cursor : Cursor) : Option (Token × Cursor) := do
  let (handle, after) ← readHandle (cursor.skipRun isBlank)
  if !(isClosedHandle handle || handle == ['!']) || !after.next?.any isBlank then none
  else
    let (meaning, stop) ← readTagText true (after.skipRun isBlank)
    if isSpaceOrEnd stop.next? then
      some (.tagDirective (String.ofList handle) (String.ofList meaning), stop)
    else none

/-- Reads a directive and the rest of its line. -/
def readDirective (cursor : Cursor) : Option (Token × Cursor) := do
  let (name, after) := (cursor.skip 1).run isNameChar
  if name.isEmpty || !isSpaceOrEnd after.next? then none
  else
    let (token, stop) ←
      if name = "YAML".toList then readVersion after
      else if name = "TAG".toList then readTagDirective after
      else none
    let stop := (stop.skipRun isBlank).skipComment
    if isBreakOrEnd stop.next? then some (token, stop.readBreak.2) else none

end Token

end IdlBindings.Yaml
