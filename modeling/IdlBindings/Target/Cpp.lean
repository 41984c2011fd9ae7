/-
# IdlBindings.Target.Cpp: a C++ header and source file for each definition.

A dictionary becomes a class with a constructor, a reader for each member, and the stored values.  An
interface becomes a class of pure virtual functions.  A member without a counterpart is left out, but
its types and defaults are checked.
-/
import IdlBindings.Target.Basic
import IdlBindings.Text.Lowercase

namespace IdlBindings.Cpp

/-! ## Names -/

/-- The header file of a name. -/
def headerOf (name : String) : String :=
  Text.toLower name ++ ".h"

/-- The macro that guards the header of a definition. -/
def headerGuard (definition : Definition) : String :=
  Text.toUpper definition.name ++ "_H_"

/-- The headers that every binding includes. -/
def systemHeaders : List String :=
  ["cstdint", "functional", "optional", "string", "vector"]

/-- The list of base classes behind the name of a class. -/
def baseClasses (definition : Definition) : String :=
  match definition.bases with
  | [] => ""
  | bases => " : " ++ ", ".intercalate (bases.map ("public " ++ ·))

/-! ## Dictionaries -/

/-- The type of a stored member: once a default is applied it cannot be missing. -/
def storedType (context : RenderContext) (member : Member) : Except MappingFault String :=
  if member.defaultValue.isSome then context.types.spell member.type
  else context.types.spellMember member

/-- The parameters of the constructor. -/
def constructorParameters (context : RenderContext) (definition : Definition) :
    Except MappingFault String := do
  let parameters ← definition.members.mapM fun member => do
    let type ← context.types.spellMember member
    pure (type ++ " " ++ member.name)
  pure (", ".intercalate parameters)

/-- The class of a dictionary. -/
def dictionaryClass (context : RenderContext) (definition : Definition) :
    Except MappingFault String := do
  let parameters ← constructorParameters context definition
  let stored ← definition.members.mapM fun member => do
    let type ← storedType context member
    pure (type, member.name)
  let readers := stored.map fun (type, name) => "  " ++ type ++ " " ++ name ++ "() const;\n"
  let values := stored.map fun (type, name) => "  " ++ type ++ " _" ++ name ++ ";\n"
  let lineIf (text : String) : String := if definition.members.isEmpty then "" else text
  pure <| "class " ++ definition.name ++ baseClasses definition ++ " \x7b\n public:\n"
    ++ "  " ++ definition.name ++ "(" ++ parameters ++ ");\n"
    ++ lineIf "\n" ++ String.join readers
    ++ lineIf "\n private:\n" ++ String.join values
    ++ "\x7d;\n"

/-- What the constructor stores for a member: a value that may be left out falls back to its
default. -/
def initializer (context : RenderContext) (member : Member) : Except MappingFault String := do
  match ← context.memberDefault member with
  | some literal =>
    if TypeSpelling.isOmittable member.type member.required then
      pure (member.name ++ ".value_or(" ++ literal ++ ")")
    else
      pure member.name
  | none => pure member.name

/-- The constructor and the readers of a dictionary. -/
def dictionaryFunctions (context : RenderContext) (definition : Definition) :
    Except MappingFault String := do
  let parameters ← constructorParameters context definition
  let initializers ← definition.members.mapM fun member => do
    let value ← initializer context member
    pure ("_" ++ member.name ++ "(" ++ value ++ ")")
  let readers ← definition.members.mapM fun member => do
    let type ← storedType context member
    pure ("\n" ++ type ++ " " ++ definition.name ++ "::" ++ member.name
      ++ "() const \x7b\n  return _" ++ member.name ++ ";\n\x7d\n")
  let body := match initializers with
    | [] => " \x7b\x7d\n"
    | initializers => "\n  : " ++ ",\n    ".intercalate initializers ++ " \x7b\x7d\n"
  pure ("\n" ++ definition.name ++ "::" ++ definition.name ++ "(" ++ parameters ++ ")" ++ body
    ++ String.join readers)

/-! ## Interfaces -/

/-- Parameters in a declaration. -/
def declaredParameters (context : RenderContext) (arguments : List Argument) :
    Except MappingFault String := do
  let parameters ← context.parameters arguments
  pure (", ".intercalate (parameters.map fun (type, name) => type ++ " " ++ name))

/-- A read function, and a write function unless the attribute is read-only. -/
def propertyLines (member : Member) (type : String) : String :=
  let qualifier := if member.isStatic then "static" else "virtual"
  let ending := if member.isStatic then "" else " = 0"
  let reader := "  " ++ qualifier ++ " " ++ type ++ " " ++ member.name ++ "() const" ++ ending ++ ";"
  let writer := "\n  " ++ qualifier ++ " void set_" ++ member.name ++ "(" ++ type ++ " "
    ++ member.name ++ ")" ++ ending ++ ";"
  if member.readonly then reader else reader ++ writer

/-- The lines of an interface member; none if it has no counterpart. -/
def memberLines (context : RenderContext) (definition : Definition) (member : Member) :
    Except MappingFault String := do
  match member.kind, member.name.isEmpty with
  | .const, _ =>
    let value ← context.memberDefault member
    let type ← context.types.spell member.type
    pure ("  static constexpr " ++ type ++ " " ++ member.name ++ " = " ++ value.getD "" ++ ";\n")
  | .property, _ =>
    let type ← context.types.spellMember member
    pure (propertyLines member type ++ "\n")
  | .operation, false =>
    let returned ← context.types.spell member.type
    let parameters ← declaredParameters context member.arguments
    if member.isStatic then
      pure ("  static " ++ returned ++ " " ++ member.name ++ "(" ++ parameters ++ ");\n")
    else
      pure ("  virtual " ++ returned ++ " " ++ member.name ++ "(" ++ parameters ++ ") = 0;\n")
  | .constructor, _ =>
    let parameters ← declaredParameters context member.arguments
    pure ("  static " ++ definition.name ++ " Create(" ++ parameters ++ ");\n")
  | _, _ =>
    context.checkMember member fun arguments => do
      let _ ← context.parameters arguments
      pure ()
    pure ""

/-- The class of an interface. -/
def interfaceClass (context : RenderContext) (definition : Definition) :
    Except MappingFault String := do
  let lines ← definition.members.mapM (memberLines context definition)
  pure ("class " ++ definition.name ++ baseClasses definition ++ " \x7b\n public:\n"
    ++ "  virtual ~" ++ definition.name ++ "() = default;\n" ++ String.join lines ++ "\x7d;\n")

/-! ## Files -/

/-- The declaration of a definition. -/
def declaration (context : RenderContext) (definition : Definition) :
    Except MappingFault String := do
  match definition.kind with
  | .enum =>
    let constants := definition.values.map fun value => "  " ++ constantName value ++ ",\n"
    pure ("enum class " ++ definition.name ++ " \x7b\n" ++ String.join constants ++ "\x7d;\n")
  | .typedef =>
    let aliased ← context.typeOr "void" definition
    pure ("using " ++ definition.name ++ " = " ++ aliased ++ ";\n")
  | .callback =>
    let returned ← context.typeOr "void" definition
    let parameters ← context.parameters definition.arguments
    pure ("using " ++ definition.name ++ " = std::function<" ++ returned ++ "("
      ++ ", ".intercalate (parameters.map (·.1)) ++ ")>;\n")
  | .dictionary => dictionaryClass context definition
  | .interface | .callbackInterface => interfaceClass context definition

/-- The header of a definition. -/
def header (context : RenderContext) (definition : Definition) : Except MappingFault String := do
  let declared ← declaration context definition
  let guard := headerGuard definition
  let scope := context.options.scope
  let userHeaders := (context.userTypes definition).map fun name =>
    "#include \"" ++ headerOf name ++ "\"\n"
  pure ("#ifndef " ++ guard ++ "\n#define " ++ guard ++ "\n\n"
    ++ String.join (systemHeaders.map fun name => "#include <" ++ name ++ ">\n")
    ++ "\n#include \"convert.h\"\n" ++ String.join userHeaders
    ++ "\nnamespace " ++ scope ++ " \x7b\n\n" ++ declared
    ++ "\n\x7d  // namespace " ++ scope ++ "\n\n#endif  // " ++ guard ++ "\n")

/-- The source file of a definition. -/
def source (context : RenderContext) (definition : Definition) : Except MappingFault String := do
  let functions ← if definition.kind = .dictionary then dictionaryFunctions context definition
    else pure ""
  let scope := context.options.scope
  pure ("#include \"" ++ headerOf definition.name ++ "\"\n\nnamespace " ++ scope ++ " \x7b\n"
    ++ functions ++ "\n\x7d  // namespace " ++ scope ++ "\n")

/-- The two files of a definition. -/
def definitionFiles (context : RenderContext) (definition : Definition) :
    Except MappingFault (List SourceFile) := do
  let header ← header context definition
  let source ← source context definition
  pure [⟨headerOf definition.name, header⟩,
    ⟨Text.toLower definition.name ++ "." ++ context.options.suffix, source⟩]

/-- All files of a schema. -/
def files (context : RenderContext) : Except MappingFault (List SourceFile) := do
  let files ← context.schema.mapM (definitionFiles context)
  pure files.flatten

end IdlBindings.Cpp
