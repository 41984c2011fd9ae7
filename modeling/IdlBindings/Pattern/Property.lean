/-
# IdlBindings.Pattern.Property: character properties by name.

A property is named in a pattern by a general category, a script or a yes-or-no property, or by a
property and its value.  Capitals, blanks, hyphens and underscores do not count in a name, nor does a
leading `is`.
-/
import IdlBindings.Pattern.CharSet
import IdlBindings.Pattern.Property.Age
import IdlBindings.Pattern.Property.Binary
import IdlBindings.Pattern.Property.Break
import IdlBindings.Pattern.Property.Category
import IdlBindings.Pattern.Property.Script
import IdlBindings.Text.Basic

namespace IdlBindings.Pattern.Property

/-! ## Tables -/

/-- The value of hexadecimal digits; other characters count as nothing. -/
def hexValue (digits : List Char) : Nat :=
  digits.foldl (fun n c => match Text.hexDigit? c with
    | some d => n * 16 + d
    | none => n) 0

/-- The ranges of one entry of a table: a code point, a range, or every second one of a range. -/
def readItem (item : List Char) : CharSet :=
  match item.splitOn '/' with
  | [range] =>
    match range.splitOn '-' with
    | [low, high] => [(hexValue low, hexValue high)]
    | _ => [(hexValue range, hexValue range)]
  | range :: _ =>
    match range.splitOn '-' with
    | [low, high] =>
      let low := hexValue low
      (List.range ((hexValue high - low) / 2 + 1)).map fun k => (low + 2 * k, low + 2 * k)
    | _ => []
  | [] => []

/-- The set of one text of a table.  Blanks and ends of lines divide its entries. -/
def readSet (text : String) : CharSet :=
  (Text.words text.toList).flatMap readItem

/-- The set that a table has under a name. -/
def find? (table : List (List String × String)) (name : String) : Option CharSet :=
  (table.find? fun entry => entry.1.contains name).map fun entry => readSet entry.2

/-! ## Names -/

/-- A name with what does not count left out. -/
def normalizeName (name : List Char) : String :=
  let isPrefixed := match name with
    | i :: s :: _ => i.toLower == 'i' && s.toLower == 's'
    | _ => false
  let kept := ((if isPrefixed then name.drop 2 else name).filter fun c =>
    c.toNat < 128 && c != ' ' && c != '_' && c != '-').map Char.toLower
  if isPrefixed && kept == ['c'] then "isc" else String.ofList kept

/-! ## Properties -/

/-- The union of the categories with one of the given names. -/
def categoryUnion (names : List String) : CharSet :=
  CharSet.normalize (names.flatMap fun name => (find? categories name).getD [])

/-- The code points of surrogates, which are no characters. -/
def surrogates : Nat × Nat := (0xd800, 0xdfff)

/-- A general category by name, or a union of several. -/
def category? (name : String) : Option CharSet :=
  match name with
  | "any" => some CharSet.all
  | "assigned" => some (categoryUnion ["cn"]).complement
  | "ascii" => some [(0, 127)]
  | "l" | "letter" => some (categoryUnion ["lu", "ll", "lt", "lm", "lo"])
  | "lc" | "casedletter" => some (categoryUnion ["lu", "ll", "lt"])
  | "m" | "mark" | "combiningmark" => some (categoryUnion ["mn", "mc", "me"])
  | "n" | "number" => some (categoryUnion ["nd", "nl", "no"])
  | "p" | "punctuation" | "punct" =>
    some (categoryUnion ["pc", "pd", "ps", "pe", "pi", "pf", "po"])
  | "s" | "symbol" => some (categoryUnion ["sm", "sc", "sk", "so"])
  | "z" | "separator" => some (categoryUnion ["zs", "zl", "zp"])
  | "c" | "other" => some (CharSet.union (categoryUnion ["cc", "cf", "cn", "co"]) [surrogates])
  | _ => find? categories name

/-- A script by name. -/
def script? (name : String) : Option CharSet :=
  find? scripts name

/-- The extension of a script by name. -/
def scriptExtension? (name : String) : Option CharSet :=
  match find? scriptExtensions name with
  | some set => some set
  | none => script? name

/-- The characters of a version of the standard: those of all versions up to it. -/
def age? (name : String) : Option CharSet :=
  (ages.findIdx? fun entry => entry.1.contains name).map fun index =>
    CharSet.normalize ((ages.take (index + 1)).flatMap fun entry => readSet entry.2)

/-- The set of a name that stands alone. -/
def named? (name : List Char) : Option CharSet :=
  let name := normalizeName name
  let binary := if name == "cf" || name == "sc" || name == "lc" then none else find? binaries name
  match binary, category? name with
  | some set, _ => some set
  | none, some set => some set
  | none, none => script? name

/-- The set of a property with a value. -/
def valued? (property value : List Char) : Option CharSet :=
  let value := normalizeName value
  match normalizeName property with
  | "gc" | "generalcategory" => category? value
  | "sc" | "script" => script? value
  | "scx" | "scriptextensions" => scriptExtension? value
  | "age" => age? value
  | "gcb" | "graphemeclusterbreak" => find? clusterBreaks value
  | "sb" | "sentencebreak" => find? sentenceBreaks value
  | "wb" | "wordbreak" => find? wordBreaks value
  | _ => none

end IdlBindings.Pattern.Property
