/-
# IdlBindings.Target.Literal: default values in the words of a target.

Numbers keep their text.  Strings are quoted with the target's quote, and a quote or a backslash
inside is escaped.  A string that is the default of an enumeration has to be one of its values and is
spelled as a constant or as a string.  Null, the empty sequence and the empty dictionary have a
spelling of their own, on an enumeration too.
-/
import IdlBindings.Schema.Basic
import IdlBindings.Target.TypeSpelling
import IdlBindings.Text.Uppercase

namespace IdlBindings

/-! ## Names of enumeration constants -/

/-- Whether a character divides the words of an enumeration value. -/
def dividesWords (c : Char) : Bool :=
  c == ' ' || c == '-' || c == '_'

/-- The constant of an enumeration value: `k` and the words of the value, each with a capital. -/
def constantName (value : String) : String :=
  let words := (value.toList.splitOnP dividesWords).filter (!·.isEmpty)
  "k" ++ Text.capitalize (String.join (words.map fun word => Text.capitalize (String.ofList word)))

/-! ## Spelling tables -/

/-- How a target writes a value of an enumeration. -/
inductive EnumStyle where
  /-- As a constant in the scope of the enumeration. -/
  | scopedConstant
  /-- As a string. -/
  | quotedValue
  deriving DecidableEq

/-- How a target writes literals. -/
structure LiteralSpelling where
  trueText : String
  falseText : String
  quote : Char
  enumStyle : EnumStyle
  nullText : String
  emptySequence : String
  emptyDictionary : String

namespace LiteralSpelling

/-- C++ literals. -/
def cpp : LiteralSpelling where
  trueText := "true"
  falseText := "false"
  quote := '"'
  enumStyle := .scopedConstant
  nullText := "std::nullopt"
  emptySequence := "\x7b\x7d"
  emptyDictionary := "\x7b\x7d"

/-- The literals of the script targets. -/
def script : LiteralSpelling where
  trueText := "true"
  falseText := "false"
  quote := '\''
  enumStyle := .quotedValue
  nullText := "null"
  emptySequence := "[]"
  emptyDictionary := "\x7b\x7d"

/-- Literals as the interface language writes them. -/
def idl : LiteralSpelling where
  trueText := "true"
  falseText := "false"
  quote := '"'
  enumStyle := .quotedValue
  nullText := "null"
  emptySequence := "[]"
  emptyDictionary := "\x7b\x7d"

/-- A truth value.  Every text but `true` is false. -/
def boolean (spelling : LiteralSpelling) (text : String) : String :=
  if text = "true" then spelling.trueText else spelling.falseText

/-- The characters between the quotes: a quote or a backslash gets a backslash in front. -/
def escape (quote : Char) : List Char → List Char
  | [] => []
  | c :: rest =>
    if c = quote ∨ c = '\\' then '\\' :: c :: escape quote rest else c :: escape quote rest

/-- A string literal. -/
def string (spelling : LiteralSpelling) (text : String) : String :=
  String.ofList (spelling.quote :: escape spelling.quote text.toList ++ [spelling.quote])

end LiteralSpelling

/-! ## Literals of a schema -/

/-- What the spelling of a literal depends on: the target's table, the schema with its enumerations,
and the scope that constants are qualified with, if any. -/
structure Literals where
  spelling : LiteralSpelling
  schema : List Definition
  scope : Option String := none

namespace Literals

/-- The scope of a name; the empty name is no scope. -/
def scopeOf (name : String) : Option String :=
  if name.isEmpty then none else some name

/-- The literal of a value of an enumeration. -/
def enumValue (literals : Literals) (enum value : String) : Except MappingFault String :=
  match Schema.enumValues? literals.schema enum with
  | none => throw (.unknownTypeOrValue enum value)
  | some values =>
    if values.contains value then
      match literals.spelling.enumStyle, literals.scope with
      | .quotedValue, _ => pure (literals.spelling.string value)
      | .scopedConstant, some scope => pure (scope ++ "::" ++ enum ++ "::" ++ constantName value)
      | .scopedConstant, none => pure (enum ++ "::" ++ constantName value)
    else
      throw (.invalidEnumValue enum value)

/-- The literal of a default by its kind alone, for a type of the given name: null and the empty
collections, and values of an enumeration. -/
def ofKind (literals : Literals) (type : String) (value : DefaultValue) :
    Except MappingFault String :=
  match value.kind with
  | .null => pure literals.spelling.nullText
  | .sequence => pure literals.spelling.emptySequence
  | .dictionary => pure literals.spelling.emptyDictionary
  | .string =>
    if Schema.isEnum literals.schema type then literals.enumValue type value.text
    else throw (.unknownTypeOrValue type value.text)
  | .number | .boolean => throw (.unknownTypeOrValue type value.text)

/-- The literal of a default of a type. -/
def ofDefault (literals : Literals) (type : TypeExpr) (value : DefaultValue) :
    Except MappingFault String :=
  let name := type.baseName?.getD ""
  match value.kind with
  | .number => pure value.text
  | .boolean => pure (literals.spelling.boolean value.text)
  | .string =>
    if Schema.isEnum literals.schema name then literals.enumValue name value.text
    else pure (literals.spelling.string value.text)
  | .null | .sequence | .dictionary => literals.ofKind name value

/-- The literal of a default that may be missing. -/
def ofOption (literals : Literals) (type : TypeExpr) :
    Option DefaultValue → Except MappingFault (Option String)
  | none => pure none
  | some value => do
    let literal ← literals.ofDefault type value
    pure (some literal)

end Literals

end IdlBindings
