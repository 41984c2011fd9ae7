/-
# IdlBindings.Target.JavaScript: one module that documents a whole schema.

Enumerations become frozen objects and are exported.  Every other definition becomes a doc comment.
-/
import IdlBindings.Target.Basic

namespace IdlBindings.JavaScript

/-- A doc comment of the given lines. -/
def docComment (lines : List String) : String :=
  "/**\n" ++ String.join (lines.map fun line => " * " ++ line ++ "\n") ++ " */\n"

/-- A type in a doc comment. -/
def braced (type : String) : String :=
  "\x7b" ++ type ++ "\x7d"

/-- The frozen object of an enumeration. -/
def enumObject (context : RenderContext) (definition : Definition) : String :=
  let entries := definition.values.map fun value =>
    "  " ++ constantName value ++ ": " ++ context.literals.spelling.string value ++ ",\n"
  docComment ["@enum " ++ braced "string"] ++ "const " ++ definition.name
    ++ " = Object.freeze(\x7b\n" ++ String.join entries ++ "\x7d);\n"

/-- The type of an argument.  Its default has to have a literal. -/
def argumentType (context : RenderContext) (argument : Argument) : Except MappingFault String := do
  let _ ← context.argumentDefault argument
  context.types.spellArgument argument

/-- The type of a function with the given arguments and result. -/
def functionType (context : RenderContext) (arguments : List Argument) (returned : String) :
    Except MappingFault String := do
  let parameters ← arguments.mapM fun argument => do
    let type ← argumentType context argument
    pure (if argument.variadic then "..." ++ type else type)
  pure ("function(" ++ ", ".intercalate parameters ++ "): " ++ returned)

/-- The lines of a callback. -/
def callbackLines (context : RenderContext) (definition : Definition) :
    Except MappingFault (List String) := do
  let parameters ← definition.arguments.mapM fun argument => do
    let type ← argumentType context argument
    pure ("@param " ++ braced type ++ " " ++ argument.name)
  let returned ← match definition.type with
    | some type => do
      let type ← context.types.spell type
      pure ["@returns " ++ braced type]
    | none => pure []
  pure (("@callback " ++ definition.name) :: parameters ++ returned)

/-- The line of an attribute, a constant or a dictionary member. -/
def propertyLine (context : RenderContext) (member : Member) : Except MappingFault String := do
  let type ← context.types.spellMember member
  let literal ← context.memberDefault member
  let note := match literal with
    | some literal => " - Defaults to " ++ literal
    | none => ""
  pure ("@property " ++ braced type ++ " " ++ member.name ++ note)

/-- The lines of an interface member; none if it has no counterpart. -/
def memberLines (context : RenderContext) (member : Member) :
    Except MappingFault (List String) := do
  match member.kind, member.name.isEmpty with
  | .property, _ | .const, _ =>
    let line ← propertyLine context member
    pure [line ++ if member.readonly || member.kind == .const then " - Read-only" else ""]
  | .operation, false =>
    let returned ← context.types.spell member.type
    let type ← functionType context member.arguments returned
    pure ["@property " ++ braced type ++ " " ++ member.name]
  | _, _ =>
    context.checkMember member fun arguments => do
      let _ ← functionType context arguments "void"
      pure ()
    pure []

/-- The text of a definition. -/
def block (context : RenderContext) (definition : Definition) : Except MappingFault String := do
  match definition.kind with
  | .enum => pure (enumObject context definition)
  | .typedef =>
    let aliased ← context.typeOr "*" definition
    pure (docComment ["@typedef " ++ braced aliased ++ " " ++ definition.name])
  | .callback =>
    let lines ← callbackLines context definition
    pure (docComment lines)
  | .dictionary =>
    let fields ← definition.members.mapM (propertyLine context)
    let base := definition.parent.getD "object"
    pure (docComment (("@typedef " ++ braced base ++ " " ++ definition.name) :: fields))
  | .interface | .callbackInterface =>
    let lines ← definition.members.mapM (memberLines context)
    pure (docComment (("@interface " ++ definition.name)
      :: definition.bases.map ("@extends " ++ ·) ++ lines.flatten))

/-- The exported names: those of the enumerations. -/
def exported (schema : List Definition) : List String :=
  (schema.filter (·.kind == .enum)).map (·.name)

/-- The module of a schema. -/
def module (context : RenderContext) : Except MappingFault String := do
  let blocks ← context.schema.mapM fun definition => do
    let block ← block context definition
    pure ("\n" ++ block)
  let exports := (exported context.schema).map fun name =>
    "exports." ++ name ++ " = " ++ name ++ ";\n"
  pure ("'use strict';\n" ++ String.join blocks ++ (if exports.isEmpty then "" else "\n")
    ++ String.join exports)

/-- The one file of a schema. -/
def files (context : RenderContext) : Except MappingFault (List SourceFile) := do
  let contents ← module context
  pure [⟨context.options.bundle, contents⟩]

end IdlBindings.JavaScript
