/-
# IdlBindings.Proofs.OwnFiles: the files of one definition among all that are rendered.

C++ and Flow write each definition to files of its own, at paths that come from its name.  The paths of a
rendering all differ, so the files of a definition can be told by their paths alone: they are what the target
makes of this definition, and no other definition has a part in them.
-/
import IdlBindings.Proofs.Reordering

namespace IdlBindings

theorem Path.same_self (path : String) : Path.same path path = true :=
  beq_self_eq_true _

/-- What is made of the results for the members of a list is told by a function that gives these results. -/
theorem exists_results_of_mapM {α β γ ε : Type} [Inhabited β] {f : α → Except ε β} {made : α → β → γ}
    {as : List α} {cs : List γ} (mapped : (as.mapM fun a => do pure (made a (← f a))) = .ok cs) :
    ∃ g : α → β, cs = as.map (fun a => made a (g a)) ∧ ∀ a ∈ as, f a = .ok (g a) := by
  obtain ⟨g, gives⟩ : ∃ g : α → β, ∀ a b, f a = .ok b → g a = b :=
    ⟨fun a => (f a).toOption.getD default, fun a b found => by simp only [found]; rfl⟩
  refine ⟨g, ?_⟩
  replace mapped := mapM_eq_ok.1 mapped
  induction mapped with
  | nil => simp
  | @cons a c as cs found _ ih =>
    obtain ⟨b, found, finished⟩ := bind_eq_ok.1 found
    rw [List.map_cons, List.forall_mem_cons, gives a b found, ← ih.1, Except.ok.inj finished]
    exact ⟨rfl, found, ih.2⟩

theorem exists_map_of_mapM {α β ε : Type} [Inhabited β] {f : α → Except ε β} {as : List α} {bs : List β}
    (mapped : as.mapM f = .ok bs) : ∃ g : α → β, bs = as.map g ∧ ∀ a ∈ as, f a = .ok (g a) := by
  have results : (as.mapM fun a => f a >>= fun b => pure b) = .ok bs := by simpa using mapped
  exact exists_results_of_mapM results

namespace Target

/-! ## Paths of definitions -/

/-- The paths that a definition is written to.  Only in JavaScript do definitions share a file. -/
def pathsOf (target : Target) (options : RenderOptions) (d : Definition) : List String :=
  match target with
  | cpp => [Cpp.headerOf d.name, Text.toLower d.name ++ "." ++ options.suffix]
  | flow => [Text.toLower d.name ++ ".js"]
  | javascript => [options.bundle]
  | idl => [d.fileStem ++ ".idl"]

/-- The files of a definition: those at its paths. -/
def filesOf (target : Target) (options : RenderOptions) (d : Definition) (files : List SourceFile) :
    List SourceFile :=
  files.filter fun file => file.path ∈ target.pathsOf options d

/-- What C++ or Flow makes of a definition alone, in the context of a schema. -/
inductive Makes (schema : List Definition) (options : RenderOptions) (d : Definition) :
    Target → List SourceFile → Prop
  | cpp {own : List SourceFile} (made : Cpp.definitionFiles ⟨.cpp, schema, options⟩ d = .ok own) :
      Makes schema options d .cpp own
  | flow {file : SourceFile} (made : Flow.definitionFile ⟨.flow, schema, options⟩ d = .ok file) :
      Makes schema options d .flow [file]

variable {target : Target} {schema : List Definition} {options : RenderOptions}

theorem Makes.paths {d : Definition} {own : List SourceFile} (makes : Makes schema options d target own) :
    own.map (·.path) = target.pathsOf options d := by
  cases makes with
  | cpp made =>
    obtain ⟨header, -, made⟩ := bind_eq_ok.1 made
    obtain ⟨source, -, made⟩ := bind_eq_ok.1 made
    cases made
    rfl
  | flow made =>
    obtain ⟨contents, -, made⟩ := bind_eq_ok.1 made
    cases made
    rfl

/-! ## Groups of files -/

/-- The files of a schema are those of its definitions, one after the other. -/
theorem candidates_grouped {files : List SourceFile} (kind : target = .cpp ∨ target = .flow)
    (made : target.candidates schema options = .ok files) :
    ∃ groups, List.Forall₂ (fun d own => Makes schema options d target own) schema groups
      ∧ groups.flatten = files := by
  rcases kind with rfl | rfl
  · obtain ⟨groups, mapped, flat⟩ := bind_eq_ok.1 made
    cases flat
    exact ⟨groups, (mapM_eq_ok.1 mapped).imp fun _ _ made => .cpp made, rfl⟩
  · refine ⟨files.map fun file => [file], ?_, ?_⟩
    · rw [List.forall₂_map_right_iff]
      exact (mapM_eq_ok.1 made).imp fun _ _ made => .flow made
    · rw [List.flatten_eq_flatMap, List.flatMap_map]
      simp

section

variable {defined : List Definition} {groups : List (List SourceFile)}
  (grouped : List.Forall₂ (fun d own => Makes schema options d target own) defined groups)
include grouped

theorem paths_grouped : groups.flatten.map (·.path) = defined.flatMap (target.pathsOf options) := by
  induction grouped with
  | nil => rfl
  | cons makes _ ih => rw [List.flatten_cons, List.map_append, ih, makes.paths, List.flatMap_cons]

/-- Where all paths differ, the files at the paths of a definition are the group of this definition. -/
theorem makes_of_grouped (apart : (groups.flatten.map (·.path)).Pairwise fun a b => Path.same b a = false)
    {d : Definition} (inside : d ∈ defined) :
    Makes schema options d target (target.filesOf options d groups.flatten) := by
  induction grouped with
  | nil => cases inside
  | @cons first own rest others makes later ih =>
    rw [List.flatten_cons, List.map_append, List.pairwise_append] at apart
    obtain ⟨-, apart, cross⟩ := apart
    -- No path is met both in the first group and behind it.
    have disjoint : ∀ path ∈ own.map (·.path), path ∉ others.flatten.map (·.path) := by
      intro path here there
      have differ := cross path here path there
      rw [Path.same_self] at differ
      cases differ
    rw [filesOf, List.flatten_cons, List.filter_append]
    by_cases same : d = first
    · subst same
      have all : own.filter (fun file => file.path ∈ target.pathsOf options d) = own := by
        rw [List.filter_eq_self]
        intro file mem
        rw [decide_eq_true_eq, ← makes.paths]
        exact List.mem_map_of_mem mem
      have none : others.flatten.filter (fun file => file.path ∈ target.pathsOf options d) = [] := by
        rw [List.filter_eq_nil_iff]
        intro file mem
        rw [decide_eq_true_eq, ← makes.paths]
        exact fun here => disjoint _ here (List.mem_map_of_mem mem)
      rwa [all, none, List.append_nil]
    · have inside : d ∈ rest := (List.mem_cons.1 inside).resolve_left same
      have none : own.filter (fun file => file.path ∈ target.pathsOf options d) = [] := by
        rw [List.filter_eq_nil_iff]
        intro file mem
        rw [decide_eq_true_eq]
        intro there
        apply disjoint file.path (List.mem_map_of_mem mem)
        rw [paths_grouped later]
        exact List.mem_flatMap.2 ⟨d, inside, there⟩
      rw [none, List.nil_append]
      exact ih apart inside

end

/-! ## Renderings -/

section

variable {files : List SourceFile} (kind : target = .cpp ∨ target = .flow)
  (rendered : target.render schema options = .ok files)
include kind rendered

/-- The files of a definition are what the target makes of it. -/
theorem makes_filesOf {d : Definition} (inside : d ∈ schema) :
    Makes schema options d target (target.filesOf options d files) := by
  obtain ⟨made, apart⟩ := render_eq_ok.1 rendered
  obtain ⟨groups, grouped, rfl⟩ := candidates_grouped kind made
  exact makes_of_grouped grouped apart inside

/-- Two definitions are written to different paths. -/
theorem pathsOf_apart {d e : Definition} (inside : d ∈ schema) (inside' : e ∈ schema) (differ : d ≠ e) :
    ∀ path ∈ target.pathsOf options d, ∀ path' ∈ target.pathsOf options e, Path.same path path' = false := by
  obtain ⟨made, apart⟩ := render_eq_ok.1 rendered
  obtain ⟨groups, grouped, rfl⟩ := candidates_grouped kind made
  rw [paths_grouped grouped, List.pairwise_flatMap] at apart
  have symmetric : Std.Symm fun a b : Definition => ∀ path ∈ target.pathsOf options a,
      ∀ path' ∈ target.pathsOf options b, Path.same path' path = false := by
    constructor
    intro a b differ path mem path' mem'
    rw [Path.same_comm]
    exact differ path' mem' path mem
  intro path mem path' mem'
  rw [Path.same_comm]
  exact apart.2.forall inside inside' differ path mem path' mem'

/-- No two definitions have the same name. -/
theorem names_nodup_of_rendered : (schema.map (·.name)).Nodup := by
  obtain ⟨made, apart⟩ := render_eq_ok.1 rendered
  obtain ⟨groups, grouped, rfl⟩ := candidates_grouped kind made
  rw [paths_grouped grouped, List.pairwise_flatMap] at apart
  refine List.pairwise_map.2 (apart.2.imp fun {d e} apart same => ?_)
  have paths : target.pathsOf options d = target.pathsOf options e := by
    rcases kind with rfl | rfl
    · rw [pathsOf, pathsOf, same]
    · rw [pathsOf, pathsOf, same]
  obtain ⟨path, mem⟩ : ∃ path, path ∈ target.pathsOf options d := by
    rcases kind with rfl | rfl
    · exact ⟨_, List.mem_cons_self ..⟩
    · exact ⟨_, List.mem_cons_self ..⟩
  have different := apart path mem path (paths ▸ mem)
  rw [Path.same_self] at different
  cases different

end

/-! ## The shared module -/

/-- The frozen object of an enumeration stands behind a doc comment. -/
theorem javascript_enumObject (context : RenderContext) (d : Definition) :
    JavaScript.enumObject context d = JavaScript.docComment ["@enum " ++ JavaScript.braced "string"]
      ++ ("const " ++ d.name ++ " = Object.freeze(\x7b\n" ++ String.join (d.values.map fun value =>
        "  " ++ constantName value ++ ": " ++ context.literals.spelling.string value ++ ",\n") ++ "\x7d);\n") := by
  simp [JavaScript.enumObject, String.append_assoc]

/-- The lines at the end of the module: the enumerations are exported. -/
def javascriptExports (schema : List Definition) : String :=
  (if (JavaScript.exported schema).isEmpty then "" else "\n")
    ++ String.join ((JavaScript.exported schema).map fun name => "exports." ++ name ++ " = " ++ name ++ ";\n")

/-- The one JavaScript file holds the texts of all definitions, in their order. -/
theorem javascript_text {files : List SourceFile} (rendered : Target.javascript.render schema options = .ok files) :
    ∃ text : Definition → String, files = [⟨options.bundle, "'use strict';\n"
          ++ String.join (schema.map fun d => "\n" ++ text d) ++ javascriptExports schema⟩]
        ∧ ∀ d ∈ schema, JavaScript.block ⟨.javascript, schema, options⟩ d = .ok (text d) := by
  obtain ⟨made, -⟩ := render_eq_ok.1 rendered
  obtain ⟨contents, madeModule, made⟩ := bind_eq_ok.1 made
  obtain ⟨blocks, mapped, madeModule⟩ := bind_eq_ok.1 madeModule
  obtain ⟨text, rfl, each⟩ := exists_results_of_mapM mapped
  obtain rfl := Except.ok.inj madeModule
  obtain rfl := Except.ok.inj made
  refine ⟨text, ?_, each⟩
  rw [javascriptExports, ← String.append_assoc, List.isEmpty_map]

end Target

end IdlBindings
