/-
# IdlBindings.Schema.Printer: schemas as text.

Every part of a schema has one written form: the one that the grammar reads back.  A definition takes
one line per member or enumeration value, and an implemented interface is stated after it.
-/
import IdlBindings.Schema.Basic
import IdlBindings.Text.Lowercase

namespace IdlBindings

/-! ## Types and values -/

namespace TypeExpr

mutual
/-- The written form of a type. -/
def print : TypeExpr → String
  | named name => name
  | sequence element => "sequence<" ++ print element ++ ">"
  | nullable inner => print inner ++ "?"
  | union members => "(" ++ " or ".intercalate (printList members) ++ ")"
  | generic name arguments => name ++ "<" ++ ", ".intercalate (printList arguments) ++ ">"
/-- The written forms of several types. -/
def printList : List TypeExpr → List String
  | [] => []
  | t :: rest => print t :: printList rest
end

end TypeExpr

/-- A text between double quotes.  The language has no escapes, so nothing is escaped. -/
def quoted (text : String) : String :=
  "\"" ++ text ++ "\""

/-- The written form of a default. -/
def DefaultValue.print (value : DefaultValue) : String :=
  match value.kind with
  | .string => quoted value.text
  | .sequence => "[]"
  | .dictionary => "\x7b\x7d"
  | .null => "null"
  | .number | .boolean => value.text

/-- A default behind its equals sign, or nothing. -/
def DefaultValue.printOption : Option DefaultValue → String
  | none => ""
  | some value => " = " ++ value.print

/-- The written form of the right side of an extended attribute. -/
def AttributeValue.print : AttributeValue → String
  | identifier name => name
  | identifiers names => "(" ++ ", ".intercalate names ++ ")"
  | string text => quoted text
  | number text => text

/-- The right side behind its equals sign, or nothing. -/
def AttributeValue.printOption : Option AttributeValue → String
  | none => ""
  | some value => "=" ++ value.print

/-! ## Arguments and extended attributes -/

/-- Extended attributes in brackets, followed by `after`; nothing if there are none. -/
def bracketed (after : String) (attributes : List String) : String :=
  if attributes.isEmpty then "" else "[" ++ ", ".intercalate attributes ++ "]" ++ after

/-- A word if the condition holds. -/
def wordIf (condition : Bool) (word : String) : String :=
  if condition then word else ""

namespace Argument

mutual
/-- The written form of an argument. -/
def print : Argument → String
  | ⟨name, type, optional, variadic, defaultValue, attributes⟩ =>
    bracketed " " (printAttributes attributes) ++ wordIf optional "optional " ++ type.print
      ++ wordIf variadic "..." ++ " " ++ name ++ DefaultValue.printOption defaultValue
/-- The written forms of extended attributes. -/
def printAttributes : List ExtendedAttribute → List String
  | [] => []
  | ⟨name, value, none⟩ :: rest =>
    (name ++ AttributeValue.printOption value) :: printAttributes rest
  | ⟨name, value, some arguments⟩ :: rest =>
    (name ++ AttributeValue.printOption value ++ "(" ++ ", ".intercalate (printList arguments) ++ ")")
      :: printAttributes rest
/-- The written forms of arguments. -/
def printList : List Argument → List String
  | [] => []
  | a :: rest => print a :: printList rest
end

/-- An argument list in parentheses. -/
def printParenthesized (arguments : List Argument) : String :=
  "(" ++ ", ".intercalate (printList arguments) ++ ")"

end Argument

/-! ## Members and definitions -/

/-- What a member says after its extended attributes and `static`, up to the semicolon. -/
def Member.printBody (member : Member) : String :=
  match member.kind with
  | .field =>
    wordIf member.required "required " ++ member.type.print ++ " " ++ member.name
      ++ DefaultValue.printOption member.defaultValue
  | .property =>
    wordIf member.readonly "readonly " ++ "attribute " ++ member.type.print ++ " " ++ member.name
  | .operation =>
    String.join (member.specials.map (· ++ " ")) ++ member.type.print
      ++ (if member.name.isEmpty then "" else " " ++ member.name)
      ++ Argument.printParenthesized member.arguments
  | .constructor => "constructor" ++ Argument.printParenthesized member.arguments
  | .const =>
    "const " ++ member.type.print ++ " " ++ member.name
      ++ DefaultValue.printOption member.defaultValue
  | .iterable => collection "iterable"
  | .maplike => collection "maplike"
  | .setlike => collection "setlike"
  | .stringifier => "stringifier"
where
  /-- An iterable, maplike or setlike declaration. -/
  collection (keyword : String) : String :=
    let key := match member.keyType with
      | some key => key.print ++ ", "
      | none => ""
    wordIf member.readonly "readonly " ++ keyword ++ "<" ++ key ++ member.type.print ++ ">"

/-- The written form of a member. -/
def Member.print (member : Member) : String :=
  bracketed " " (Argument.printAttributes member.attributes) ++ wordIf member.isStatic "static "
    ++ member.printBody ++ ";"

namespace Definition

/-- What a definition says after its extended attributes and `partial`, before the interface that it
implements. -/
def printBody (definition : Definition) : String :=
  match definition.kind with
  | .enum =>
    let values := definition.values.map fun value => "  " ++ quoted value
    "enum " ++ definition.name ++ " \x7b\n"
      ++ (if values.isEmpty then "" else ",\n".intercalate values ++ "\n") ++ "\x7d;"
  | .typedef =>
    "typedef " ++ (definition.type.getD (.named "any")).print ++ " " ++ definition.name ++ ";"
  | .callback =>
    "callback " ++ definition.name ++ " = " ++ (definition.type.getD (.named "undefined")).print
      ++ " " ++ Argument.printParenthesized definition.arguments ++ ";"
  | .interface | .dictionary | .callbackInterface =>
    let parent := match definition.parent with
      | some parent => " : " ++ parent
      | none => ""
    definition.kind.keyword ++ " " ++ definition.name ++ parent ++ " \x7b\n"
      ++ String.join (definition.members.map fun member => "  " ++ member.print ++ "\n") ++ "\x7d;"

/-- The written form of a definition. -/
def print (definition : Definition) : String :=
  let implemented := match definition.implements with
    | some implemented => "\n\n" ++ definition.name ++ " implements " ++ implemented ++ ";"
    | none => ""
  bracketed "\n" (Argument.printAttributes definition.attributes)
    ++ wordIf definition.isPartial "partial " ++ definition.printBody ++ implemented

/-- The stem of every file that is written for a definition: its name in lower case. -/
def fileStem (definition : Definition) : String :=
  Text.toLower definition.name

end Definition

end IdlBindings
