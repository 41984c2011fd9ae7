/-
# IdlBindings.Target.Flow: a Flow module for each definition.
-/
import IdlBindings.Target.Basic
import IdlBindings.Text.Lowercase

namespace IdlBindings.Flow

/-- Parameters in a function type. -/
def parameterList (context : RenderContext) (arguments : List Argument) :
    Except MappingFault String := do
  let parameters ← arguments.mapM fun argument => do
    let (type, name) ← context.parameter argument
    pure ((if argument.variadic then "..." else "") ++ name ++ ": " ++ type)
  pure (", ".intercalate parameters)

/-- The line of a dictionary member. -/
def fieldLine (context : RenderContext) (member : Member) : Except MappingFault String := do
  let _ ← context.memberDefault member
  let type ← context.types.spellMember member
  pure ("  " ++ member.name ++ ": " ++ type ++ ",\n")

/-- The line of an interface member; none if it has no counterpart. -/
def memberLine (context : RenderContext) (member : Member) : Except MappingFault String := do
  let qualifier := if member.isStatic then "static " else ""
  match member.kind, member.name.isEmpty with
  | .property, _ | .const, _ =>
    let _ ← context.memberDefault member
    let variance := if member.readonly || member.kind == .const then "+" else ""
    let type ← context.types.spellMember member
    pure ("  " ++ qualifier ++ variance ++ member.name ++ ": " ++ type ++ ";\n")
  | .operation, false =>
    let parameters ← parameterList context member.arguments
    let returned ← context.types.spell member.type
    pure ("  " ++ qualifier ++ member.name ++ "(" ++ parameters ++ "): " ++ returned ++ ";\n")
  | .constructor, _ =>
    let parameters ← parameterList context member.arguments
    pure ("  constructor(" ++ parameters ++ "): void;\n")
  | .stringifier, _ => pure "  toString(): string;\n"
  | _, _ =>
    context.checkMember member fun arguments => do
      let _ ← context.parameters arguments
      pure ()
    pure ""

/-- The declaration of a definition. -/
def declaration (context : RenderContext) (definition : Definition) :
    Except MappingFault String := do
  match definition.kind with
  | .enum =>
    let values := definition.values.map context.literals.spelling.string
    pure ("export type " ++ definition.name ++ " = " ++ " | ".intercalate values ++ ";\n")
  | .typedef =>
    let aliased ← context.typeOr "mixed" definition
    pure ("export type " ++ definition.name ++ " = " ++ aliased ++ ";\n")
  | .callback =>
    let returned ← context.typeOr "void" definition
    let parameters ← parameterList context definition.arguments
    pure ("export type " ++ definition.name ++ " = (" ++ parameters ++ ") => " ++ returned ++ ";\n")
  | .dictionary =>
    let parent := match definition.parent with
      | some parent => "  ..." ++ parent ++ ",\n"
      | none => ""
    let fields ← definition.members.mapM (fieldLine context)
    pure ("export type " ++ definition.name ++ " = \x7b\n" ++ parent ++ String.join fields
      ++ "\x7d;\n")
  | .interface | .callbackInterface =>
    let parents := match definition.bases with
      | [] => ""
      | bases => " extends " ++ ", ".intercalate bases
    let lines ← definition.members.mapM (memberLine context)
    pure ("export interface " ++ definition.name ++ parents ++ " \x7b\n" ++ String.join lines
      ++ "\x7d\n")

/-- The module of a definition: imports, then the declaration. -/
def module (context : RenderContext) (definition : Definition) : Except MappingFault String := do
  let declared ← declaration context definition
  let imports := (context.userTypes definition).map fun name =>
    "import type \x7b " ++ name ++ " \x7d from './" ++ Text.toLower name ++ "';\n"
  pure ("// @flow\n\n" ++ String.join imports ++ (if imports.isEmpty then "" else "\n") ++ declared)

/-- The file of a definition. -/
def definitionFile (context : RenderContext) (definition : Definition) :
    Except MappingFault SourceFile := do
  let contents ← module context definition
  pure ⟨Text.toLower definition.name ++ ".js", contents⟩

/-- All files of a schema. -/
def files (context : RenderContext) : Except MappingFault (List SourceFile) :=
  context.schema.mapM (definitionFile context)

end IdlBindings.Flow
