/-
# IdlBindings.Proofs.Links: the includes and imports of rendered definitions.

A C++ header includes the headers of the definitions that it refers to, and a Flow module imports their types.
The links are chosen by name, but they are written with paths in lower case.  Names that differ may come to
one path, and then a link could lead back to its own file.  It does not, since all paths of a rendering differ.

This is so in one directory only.  A link is seen from the directory of the file that has it, but it is written
as a path from the output directory.  The two are the same unless the name of the definition has a slash, which
it can get by renaming.  Where a path leads is told by its components:
no directory is taken for a symbolic link.
-/
import IdlBindings.Proofs.OutputPaths
import IdlBindings.Proofs.OwnFiles
import IdlBindings.Proofs.References

namespace IdlBindings

/-! ## Paths seen from a file -/

namespace Path

/-- Follows one component of a path.  A step up takes the last name away, and stays at the root. -/
def follow (place : List PathComponent) : PathComponent → List PathComponent
  | .root => [.root]
  | .current => place
  | .parent =>
    match place.getLast? with
    | some (.name _) => place.dropLast
    | some .root => place
    | _ => place ++ [.parent]
  | .name text => place ++ [.name text]

/-- Where a path leads, seen from a place. -/
def placeFrom (start : List PathComponent) (path : String) : List PathComponent :=
  (components path).foldl follow start

/-- Where a path leads. -/
def place (path : String) : List PathComponent :=
  placeFrom [] path

/-- Where the directory is that has the file of a path in it. -/
def directory (path : String) : List PathComponent :=
  (components path).dropLast.foldl follow []

section

variable {path : String} (plain : '/' ∉ path.toList)
include plain

end

end Path

/-! ## Lines and paths -/

namespace Target

/-- The line that links a file to another definition.  Only C++ and Flow have such lines. -/
def linkLine (target : Target) (name : String) : String :=
  match target with
  | cpp => "#include \"" ++ Cpp.headerOf name ++ "\"\n"
  | flow => "import type \x7b " ++ name ++ " \x7d from './" ++ Text.toLower name ++ "';\n"
  | javascript | idl => ""

/-- The file that has the links of a definition, and that links to the definition are meant for. -/
def mainPath (target : Target) (name : String) : String :=
  match target with
  | cpp => Cpp.headerOf name
  | flow => Text.toLower name ++ ".js"
  | javascript | idl => ""

/-- The files of a definition with the links that are in them.  In C++ they are in the header, behind the
headers of the system.  The source file includes the header of its definition and nothing else. -/
inductive Links (schema : List Definition) (options : RenderOptions) (d : Definition) (names : List String) :
    Target → List SourceFile → Prop
  | cpp {declared functions : String} (declaration : Cpp.declaration ⟨.cpp, schema, options⟩ d = .ok declared)
      (definitions : (if d.kind = .dictionary then Cpp.dictionaryFunctions ⟨.cpp, schema, options⟩ d else .ok "")
        = .ok functions) :
      Links schema options d names .cpp
        [⟨Cpp.headerOf d.name,
            "#ifndef " ++ Cpp.headerGuard d ++ "\n#define " ++ Cpp.headerGuard d ++ "\n\n"
              ++ String.join (Cpp.systemHeaders.map fun name => "#include <" ++ name ++ ">\n")
              ++ "\n#include \"convert.h\"\n" ++ String.join (names.map cpp.linkLine)
              ++ "\nnamespace " ++ options.scope ++ " \x7b\n\n" ++ declared
              ++ "\n\x7d  // namespace " ++ options.scope ++ "\n\n#endif  // " ++ Cpp.headerGuard d ++ "\n"⟩,
          ⟨Text.toLower d.name ++ "." ++ options.suffix,
            "#include \"" ++ Cpp.headerOf d.name ++ "\"\n\nnamespace " ++ options.scope ++ " \x7b\n" ++ functions
              ++ "\n\x7d  // namespace " ++ options.scope ++ "\n"⟩]
  | flow {declared : String} (declaration : Flow.declaration ⟨.flow, schema, options⟩ d = .ok declared) :
      Links schema options d names .flow
        [⟨Text.toLower d.name ++ ".js",
            "// @flow\n\n" ++ String.join (names.map flow.linkLine) ++ (if names.isEmpty then "" else "\n")
              ++ declared⟩]

variable {target : Target} {schema : List Definition} {options : RenderOptions} {files : List SourceFile}
  {d : Definition}

theorem source_eq_ok {text : String} (made : Cpp.source ⟨.cpp, schema, options⟩ d = .ok text) :
    ∃ functions, (if d.kind = .dictionary then Cpp.dictionaryFunctions ⟨.cpp, schema, options⟩ d else .ok "")
        = .ok functions
      ∧ text = "#include \"" ++ Cpp.headerOf d.name ++ "\"\n\nnamespace " ++ options.scope ++ " \x7b\n" ++ functions
          ++ "\n\x7d  // namespace " ++ options.scope ++ "\n" := by
  unfold Cpp.source at made
  dsimp only at made
  split_ifs at made ⊢ with dictionary
  · obtain ⟨functions, definitions, made⟩ := bind_eq_ok.1 made
    exact ⟨functions, definitions, (Except.ok.inj made).symm⟩
  · exact ⟨"", rfl, (Except.ok.inj made).symm⟩

/-- What is made of a definition links it to those that it refers to. -/
theorem Makes.links {own : List SourceFile} (makes : Makes schema options d target own) :
    Links schema options d ((⟨target, schema, options⟩ : RenderContext).userTypes d) target own := by
  cases makes with
  | cpp made =>
    obtain ⟨header, madeHeader, made⟩ := bind_eq_ok.1 made
    obtain ⟨source, madeSource, made⟩ := bind_eq_ok.1 made
    obtain ⟨declared, declaration, madeHeader⟩ := bind_eq_ok.1 madeHeader
    obtain ⟨functions, definitions, rfl⟩ := source_eq_ok madeSource
    obtain rfl := Except.ok.inj made
    obtain rfl := Except.ok.inj madeHeader
    exact .cpp declaration definitions
  | flow made =>
    obtain ⟨contents, madeModule, made⟩ := bind_eq_ok.1 made
    obtain ⟨declared, declaration, madeModule⟩ := bind_eq_ok.1 madeModule
    obtain rfl := Except.ok.inj made
    obtain rfl := Except.ok.inj madeModule
    rw [List.isEmpty_map]
    exact .flow declaration

/-- The two C++ files of a definition hold what it declares and what it defines. -/
theorem cpp_texts (rendered : Target.cpp.render schema options = .ok files) (inside : d ∈ schema) :
    ∃ declared functions, Cpp.declaration ⟨.cpp, schema, options⟩ d = .ok declared
      ∧ (if d.kind = .dictionary then Cpp.dictionaryFunctions ⟨.cpp, schema, options⟩ d else .ok "") = .ok functions
      ∧ (∃ before behind, ⟨Cpp.headerOf d.name, before ++ declared ++ behind⟩ ∈ files)
      ∧ ∃ before behind, ⟨Text.toLower d.name ++ "." ++ options.suffix, before ++ functions ++ behind⟩ ∈ files := by
  have links := (makes_filesOf (.inl rfl) rendered inside).links
  have among : ∀ file ∈ Target.cpp.filesOf options d files, file ∈ files :=
    fun file mem => (List.mem_filter.1 mem).1
  generalize Target.cpp.filesOf options d files = own at links among
  cases links with
  | @cpp declared functions declaration definitions =>
    have header := among _ (List.mem_cons_self ..)
    have source := among _ (List.mem_cons_of_mem _ (List.mem_singleton_self _))
    have three : ∀ text a b c : String, text ++ a ++ b ++ c = text ++ (a ++ b ++ c) := by simp [String.append_assoc]
    have five : ∀ text a b c d e : String, text ++ a ++ b ++ c ++ d ++ e = text ++ (a ++ b ++ c ++ d ++ e) := by
      simp [String.append_assoc]
    rw [five] at header
    rw [three] at source
    exact ⟨declared, functions, declaration, definitions, ⟨_, _, header⟩, ⟨_, _, source⟩⟩

section

variable (kind : target = .cpp ∨ target = .flow)
include kind

theorem mainPath_mem (options : RenderOptions) (d : Definition) :
    target.mainPath d.name ∈ target.pathsOf options d := by
  rcases kind with rfl | rfl
  · exact List.mem_cons_self ..
  · exact List.mem_cons_self ..

variable {name : String} (plain : '/' ∉ name.toList)
include plain

end

/-! ## Links of a rendering -/

end Target

end IdlBindings
