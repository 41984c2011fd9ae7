/-
# IdlBindings.Report.Datum: reports as trees of plain data, and such trees in JSON and YAML.

What the formats of a report share is a tree: texts, numbers, lists and records whose fields stand in a
fixed order.  In JSON every item of a list and every field of a record stands on a line of its own, two
blanks deeper than what it belongs to; empty lists and records stand on one line.  In YAML records and
lists are written as blocks.  The items of a list stand as deep as the name of the field that holds it;
the fields of a record stand two blanks deeper than what holds it.
-/
import IdlBindings.Text.Basic
import IdlBindings.Yaml.Style

namespace IdlBindings

/-- Plain data. -/
inductive Datum where
  | null
  | number (value : Nat)
  | text (value : String)
  /-- One of several cases, with a text. -/
  | variant (tag : String) (value : String)
  | list (items : List Datum)
  | record (fields : List (String × Datum))

namespace Datum

/-- A list of texts. -/
def texts (values : List String) : Datum :=
  .list (values.map .text)

/-- A text that may be missing. -/
def ofOption : Option String → Datum
  | some value => .text value
  | none => .null

end Datum

end IdlBindings

namespace IdlBindings.Json

/-! ## Strings in JSON -/

/-- A character inside quotes: quotes, backslashes and control characters are escaped. -/
def escapeChar (c : Char) : List Char :=
  if c = '"' then ['\\', '"']
  else if c = '\\' then ['\\', '\\']
  else if c.toNat = 0x08 then ['\\', 'b']
  else if c.toNat = 0x09 then ['\\', 't']
  else if c.toNat = 0x0a then ['\\', 'n']
  else if c.toNat = 0x0c then ['\\', 'f']
  else if c.toNat = 0x0d then ['\\', 'r']
  else if c.toNat < 0x20 then '\\' :: 'u' :: Text.hexChars 'a' c.toNat 4
  else [c]

/-- A text between quotes. -/
def quote (text : String) : String :=
  String.ofList ('"' :: text.toList.flatMap escapeChar ++ ['"'])

/-! ## Data in JSON -/

/-- The end of a line and the blanks that begin the next one. -/
def newline (depth : Nat) : String :=
  "\n" ++ String.ofList (List.replicate (2 * depth) ' ')

/-- Items between brackets, each on a line of its own. -/
def bracket (depth : Nat) (opening closing : String) (items : List String) : String :=
  match items with
  | [] => opening ++ closing
  | items =>
    opening ++ newline (depth + 1) ++ (("," ++ newline (depth + 1)).intercalate items)
      ++ newline depth ++ closing

/-- A field of a record. -/
def field (name value : String) : String :=
  quote name ++ ": " ++ value

mutual

/-- Data at a depth. -/
def writeAt (depth : Nat) : Datum → String
  | .null => "null"
  | .number value => toString value
  | .text value => quote value
  | .variant tag value => bracket depth "\x7b" "\x7d" [field tag (quote value)]
  | .list items => bracket depth "[" "]" (writeItems (depth + 1) items)
  | .record fields => bracket depth "\x7b" "\x7d" (writeFields (depth + 1) fields)

/-- The items of a list. -/
def writeItems (depth : Nat) : List Datum → List String
  | [] => []
  | item :: rest => writeAt depth item :: writeItems depth rest

/-- The fields of a record. -/
def writeFields (depth : Nat) : List (String × Datum) → List String
  | [] => []
  | (name, value) :: rest => field name (writeAt depth value) :: writeFields depth rest

end

/-- Data as a JSON text. -/
def write (datum : Datum) : String :=
  writeAt 0 datum

end IdlBindings.Json

namespace IdlBindings.Yaml

/-! ## Data in YAML -/

/-- The blanks in front of a line. -/
def margin (indent : Nat) : String :=
  String.ofList (blanks indent)

/-- Ends a line, unless a block has ended it. -/
def endLine (text : String) : String :=
  if text.toList.getLast?.any isBreak then text else text ++ "\n"

mutual

/-- What follows the name of a field, at the indentation of the name. -/
def writeValue (indent : Nat) : Datum → String
  | .null => " null\n"
  | .number value => " " ++ toString value ++ "\n"
  | .text value => endLine (" " ++ writeText (indent + indentStep) value)
  | .variant tag value => endLine (" !" ++ tag ++ " " ++ writeText (indent + indentStep) value)
  | .list [] => " []\n"
  | .list items => "\n" ++ writeItems indent items
  | .record [] => " \x7b\x7d\n"
  | .record fields => "\n" ++ writeFields (indent + indentStep) fields

/-- What follows the dash of an item, at the indentation of the dash. -/
def writeItem (indent : Nat) : Datum → String
  | .null => " null\n"
  | .number value => " " ++ toString value ++ "\n"
  | .text value => endLine (" " ++ writeText (indent + indentStep) value)
  | .variant tag value => endLine (" !" ++ tag ++ " " ++ writeText (indent + indentStep) value)
  | .list [] => " []\n"
  | .list (item :: rest) =>
    " -" ++ writeItem (indent + indentStep) item ++ writeItems (indent + indentStep) rest
  | .record [] => " \x7b\x7d\n"
  | .record ((name, value) :: rest) =>
    " " ++ name ++ ":" ++ writeValue (indent + indentStep) value
      ++ writeFields (indent + indentStep) rest

/-- The items of a list. -/
def writeItems (indent : Nat) : List Datum → String
  | [] => ""
  | item :: rest => margin indent ++ "-" ++ writeItem indent item ++ writeItems indent rest

/-- The fields of a record.  Their names are plain words. -/
def writeFields (indent : Nat) : List (String × Datum) → String
  | [] => ""
  | (name, value) :: rest =>
    margin indent ++ name ++ ":" ++ writeValue indent value ++ writeFields indent rest

end

/-- The fields of a document. -/
def write (fields : List (String × Datum)) : String :=
  writeFields 0 fields

end IdlBindings.Yaml
