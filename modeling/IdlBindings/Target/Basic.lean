/-
# IdlBindings.Target.Basic: targets, their options and what they know of a schema.
-/
import IdlBindings.Target.Literal
import IdlBindings.Target.TypeSpelling

namespace IdlBindings

/-! ## Targets -/

/-- A language that bindings are written in. -/
inductive Target where
  | cpp
  | flow
  | javascript
  /-- The interface language itself. -/
  | idl
  deriving DecidableEq

namespace Target

/-- The name of a target in commands and reports. -/
def name : Target → String
  | cpp => "cpp"
  | flow => "flow"
  | javascript => "js"
  | idl => "extract"

/-- How a target writes types. -/
def typeSpelling : Target → TypeSpelling
  | cpp => .cpp
  | flow => .flow
  | javascript => .javascript
  | idl => .idl

/-- How a target writes literals. -/
def literalSpelling : Target → LiteralSpelling
  | cpp => .cpp
  | flow | javascript => .script
  | idl => .idl

end Target

/-- What a target is told besides the schema. -/
structure RenderOptions where
  /-- The C++ namespace of all bindings. -/
  scope : String := "idl"
  /-- The extension of C++ source files. -/
  suffix : String := "cc"
  /-- The path of the JavaScript module. -/
  bundle : String := "bindings.js"
  deriving DecidableEq

/-- A rendered file, with its path from the output directory. -/
structure SourceFile where
  path : String
  contents : String
  deriving DecidableEq

/-! ## Names in order -/

/-- Puts a text into a sorted list without repetitions. -/
def insertSorted (s : String) : List String → List String
  | [] => [s]
  | t :: rest => if s < t then s :: t :: rest else if s = t then t :: rest else t :: insertSorted s rest

/-- The different texts of a list, sorted by code points. -/
def sortedSet (texts : List String) : List String :=
  texts.foldr insertSorted []

/-! ## What a definition refers to -/

/-- The definitions that this one inherits from or implements. -/
def Definition.bases (definition : Definition) : List String :=
  definition.parent.toList ++ definition.implements.toList

/-- The types that a definition mentions. -/
def Definition.types (definition : Definition) : List TypeExpr :=
  definition.type.toList ++ definition.arguments.map (·.type) ++ definition.members.map (·.type)
    ++ definition.members.filterMap (·.keyType)
    ++ definition.members.flatMap fun member => member.arguments.map (·.type)

/-- The names that a definition mentions: its bases and the names in its types. -/
def Definition.references (definition : Definition) : List String :=
  definition.bases ++ TypeExpr.referencesList definition.types

/-! ## Context of rendering -/

/-- What the rendering of a definition depends on. -/
structure RenderContext where
  target : Target
  schema : List Definition
  options : RenderOptions

namespace RenderContext

/-- How types are written. -/
def types (context : RenderContext) : TypeSpelling :=
  context.target.typeSpelling

/-- How literals are written.  Only C++ constants are qualified with the scope of the options. -/
def literals (context : RenderContext) : Literals where
  spelling := context.target.literalSpelling
  schema := context.schema
  scope := if context.target = .cpp then Literals.scopeOf context.options.scope else none

/-- The literal of a member's default. -/
def memberDefault (context : RenderContext) (member : Member) :
    Except MappingFault (Option String) :=
  context.literals.ofOption member.type member.defaultValue

/-- The literal of an argument's default. -/
def argumentDefault (context : RenderContext) (argument : Argument) :
    Except MappingFault (Option String) :=
  context.literals.ofOption argument.type argument.defaultValue

/-- The type of an argument as a parameter: a variadic argument is a sequence. -/
def parameterType (context : RenderContext) (argument : Argument) :
    Except MappingFault String :=
  if argument.variadic then context.types.spell (.sequence argument.type)
  else context.types.spellArgument argument

/-- An argument as a parameter: its type and its name.  Its default has to have a literal. -/
def parameter (context : RenderContext) (argument : Argument) :
    Except MappingFault (String × String) := do
  let _ ← context.argumentDefault argument
  let type ← context.parameterType argument
  pure (type, argument.name)

/-- Arguments as parameters. -/
def parameters (context : RenderContext) (arguments : List Argument) :
    Except MappingFault (List (String × String)) :=
  arguments.mapM context.parameter

/-- Whether a name is a built-in type of the target. -/
def isPrimitive (context : RenderContext) (name : String) : Bool :=
  (context.types.primitives.lookup name).isSome

/-- The other definitions of the schema that a definition refers to, sorted by name. -/
def userTypes (context : RenderContext) (definition : Definition) : List String :=
  (sortedSet definition.references).filter fun name =>
    name != definition.name && !context.isPrimitive name && Schema.declares context.schema name

/-- Types and defaults of a member that the target leaves out still have to have a spelling. -/
def checkMember (context : RenderContext) (member : Member)
    (checkArguments : List Argument → Except MappingFault Unit) : Except MappingFault Unit := do
  let _ ← context.types.spell member.type
  match member.keyType with
  | some key =>
    let _ ← context.types.spell key
    checkArguments member.arguments
  | none => checkArguments member.arguments

/-- The spelling of a definition's type, or the given word if it has none. -/
def typeOr (context : RenderContext) (word : String) (definition : Definition) :
    Except MappingFault String :=
  match definition.type with
  | some type => context.types.spell type
  | none => pure word

end RenderContext

end IdlBindings
