/-
# IdlBindings.Target.Render: the files of a schema in a target.

File names are in lower case, so two definitions may claim one file.  Such a schema is refused rather
than one file silently written over by the other.
-/
import IdlBindings.Files.Path
import IdlBindings.Schema.Printer
import IdlBindings.Target.Cpp
import IdlBindings.Target.Flow
import IdlBindings.Target.JavaScript

namespace IdlBindings

/-- The files of a schema in the interface language: one for each definition, sorted by path. -/
def idlFiles (schema : List Definition) : List SourceFile :=
  let files := schema.map fun definition =>
    (⟨definition.fileStem ++ ".idl", definition.print ++ "\n"⟩ : SourceFile)
  files.mergeSort fun a b => (Path.compare a.path b.path).isLE

/-- The first path that is the same as an earlier one. -/
def collision? (earlier : List String) : List String → Option String
  | [] => none
  | path :: rest =>
    if earlier.any (Path.same path) then some path else collision? (path :: earlier) rest

namespace Target

/-- The files of a schema before paths are compared. -/
def candidates (target : Target) (schema : List Definition) (options : RenderOptions) :
    Except MappingFault (List SourceFile) :=
  let context : RenderContext := ⟨target, schema, options⟩
  match target with
  | cpp => Cpp.files context
  | flow => Flow.files context
  | javascript => JavaScript.files context
  | idl => .ok (idlFiles schema)

/-- The files of a schema, all at different paths. -/
def render (target : Target) (schema : List Definition) (options : RenderOptions) :
    Except MappingFault (List SourceFile) := do
  let files ← target.candidates schema options
  match collision? [] (files.map (·.path)) with
  | some path => throw (.outputCollision path)
  | none => pure files

end Target

end IdlBindings
