/-
# IdlBindings.Schema.Names: the names in a schema, and a map over them.

Some strings of a definition are names: of definitions, members, arguments, types and extended
attributes.  Others are text: enumeration values, defaults, special keywords, and the strings and
numbers in extended attributes.  `mapNames` applies a function to every name and leaves the rest.
-/
import IdlBindings.Schema.Basic

namespace IdlBindings

namespace TypeExpr

mutual
/-- Applies a function to every name in a type, type constructors included. -/
def mapNames (f : String → String) : TypeExpr → TypeExpr
  | named name => named (f name)
  | sequence element => sequence (mapNames f element)
  | nullable inner => nullable (mapNames f inner)
  | union members => union (mapNamesList f members)
  | generic name arguments => generic (f name) (mapNamesList f arguments)
/-- Applies a function to every name in several types. -/
def mapNamesList (f : String → String) : List TypeExpr → List TypeExpr
  | [] => []
  | t :: rest => mapNames f t :: mapNamesList f rest
end

end TypeExpr

/-- Applies a function to the identifiers; strings and numbers stay. -/
def AttributeValue.mapNames (f : String → String) : AttributeValue → AttributeValue
  | identifier name => identifier (f name)
  | identifiers names => identifiers (names.map f)
  | string text => string text
  | number text => number text

namespace Argument

mutual
/-- Applies a function to every name in an argument. -/
def mapNames (f : String → String) : Argument → Argument
  | ⟨name, type, optional, variadic, defaultValue, attributes⟩ =>
    ⟨f name, type.mapNames f, optional, variadic, defaultValue, mapNamesAttributes f attributes⟩
/-- Applies a function to every name in extended attributes. -/
def mapNamesAttributes (f : String → String) : List ExtendedAttribute → List ExtendedAttribute
  | [] => []
  | ⟨name, value, none⟩ :: rest =>
    ⟨f name, value.map (·.mapNames f), none⟩ :: mapNamesAttributes f rest
  | ⟨name, value, some arguments⟩ :: rest =>
    ⟨f name, value.map (·.mapNames f), some (mapNamesList f arguments)⟩
      :: mapNamesAttributes f rest
/-- Applies a function to every name in an argument list. -/
def mapNamesList (f : String → String) : List Argument → List Argument
  | [] => []
  | a :: rest => mapNames f a :: mapNamesList f rest
end

end Argument

/-- Applies a function to every name in a member. -/
def Member.mapNames (f : String → String) (member : Member) : Member :=
  { member with
    name := f member.name
    type := member.type.mapNames f
    keyType := member.keyType.map (·.mapNames f)
    arguments := Argument.mapNamesList f member.arguments
    attributes := Argument.mapNamesAttributes f member.attributes }

/-- Applies a function to every name in a definition. -/
def Definition.mapNames (f : String → String) (definition : Definition) : Definition :=
  { definition with
    name := f definition.name
    parent := definition.parent.map f
    implements := definition.implements.map f
    members := definition.members.map (·.mapNames f)
    attributes := Argument.mapNamesAttributes f definition.attributes
    type := definition.type.map (·.mapNames f)
    arguments := Argument.mapNamesList f definition.arguments }

end IdlBindings
