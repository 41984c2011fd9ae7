/-
# IdlBindings.Proofs.Reordering: definitions of different names may come in any order.

Fragments are grouped by name, so only the order of the fragments of one name can tell.  If it is the same in
two lists, then merging gives the same definitions in some order, and a schema answers questions about names
alike in any order.  The files of C++ and of Flow come in the order of the definitions.  Those of the
interface language are sorted, and there is only one way to sort paths that all differ.
-/
import Mathlib
import IdlBindings.Proofs.CheckedPositions
import IdlBindings.Proofs.Locality
import IdlBindings.Proofs.Merging
import IdlBindings.Proofs.Rendering
import IdlBindings.Proofs.Stopping
import IdlBindings.Run.Generate

namespace IdlBindings

/-! ## The order of paths -/

namespace PathComponent

/-- The text of a name; the other kinds of components have none. -/
def text : PathComponent → String
  | name text => text
  | _ => ""

theorem compare_eq (a b : PathComponent) :
    a.compare b = compareLex (compareOn rank) (compareOn text) a b := by
  cases a <;> cases b <;> rfl

instance : Std.TransCmp PathComponent.compare := by
  have lexicographic : PathComponent.compare = compareLex (compareOn rank) (compareOn text) :=
    funext₂ compare_eq
  rw [lexicographic]
  infer_instance

instance : Std.LawfulEqCmp PathComponent.compare where
  compare_self {a} := by cases a <;> simp [compare, rank]
  eq_of_compare {a b} equal := by cases a <;> cases b <;> simp_all [compare, rank]

end PathComponent

namespace Path

variable {a b c : String}

theorem compareComponents_eq (as bs : List PathComponent) :
    compareComponents as bs = List.compareLex PathComponent.compare as bs := by
  fun_induction compareComponents as bs with
  | case1 | case2 | case3 => rfl
  | case4 a as b bs ih => rw [List.compareLex_cons_cons, ih]

theorem compare_trans (first : (compare a b).isLE) (second : (compare b c).isLE) : (compare a c).isLE := by
  rw [compare, compareComponents_eq] at *
  exact Std.TransCmp.isLE_trans first second

theorem compare_total (a b : String) : ((compare a b).isLE || (compare b a).isLE) = true := by
  have swapped : compare a b = (compare b a).swap := by
    rw [compare, compare, compareComponents_eq, compareComponents_eq]
    exact Std.OrientedCmp.eq_swap
  rw [swapped]
  cases compare b a <;> rfl

/-- Paths that stand at one place are the same. -/
theorem same_of_compare (first : (compare a b).isLE) (second : (compare b a).isLE) : same a b = true := by
  rw [compare, compareComponents_eq] at first second
  have equal := Std.LawfulEqCmp.eq_of_compare (Std.OrientedCmp.isLE_antisymm first second)
  rw [same, equal, beq_self_eq_true]

theorem same_comm (a b : String) : same a b = same b a :=
  Bool.beq_comm

end Path

/-- Files that are sorted by path, and whose paths all differ, come in one order only. -/
theorem eq_of_sorted {files files' : List SourceFile} (perm : files.Perm files')
    (sorted : files.Pairwise fun a b => (Path.compare a.path b.path).isLE = true)
    (sorted' : files'.Pairwise fun a b => (Path.compare a.path b.path).isLE = true)
    (apart : (files.map (·.path)).Pairwise fun a b => Path.same b a = false) : files = files' := by
  have symmetric : Std.Symm fun a b : SourceFile => Path.same b.path a.path = false :=
    ⟨fun a b differ => by rwa [Path.same_comm]⟩
  refine List.Perm.eq_of_pairwise ?_ sorted sorted' perm
  intro file file' inside inside' first second
  by_contra different
  have differ := (List.pairwise_map.1 apart).forall inside (perm.mem_iff.2 inside') different
  rw [Path.same_of_compare second first] at differ
  cases differ

/-! ## Fragments -/

/-- Each name has the same fragments in the same order. -/
def SameFragments (xs ys : List Definition) : Prop :=
  ∀ name, xs.filter (·.name == name) = ys.filter (·.name == name)

/-- Without merging, fragments are accepted if their names differ. -/
theorem Registry.merge_disabled_eq_ok {fragments : List Definition} :
    (ofList fragments).merge false = .ok (Schema.merged fragments) ↔ (fragments.map (·.name)).Nodup := by
  rw [merge_disabled, List.nodup_iff_count_le_one]
  cases found : (fragments.map (·.name)).find? fun name => 1 < (fragments.map (·.name)).count name with
  | some name =>
    have repeated : 1 < (fragments.map (·.name)).count name := by simpa using List.find?_some found
    simp only [reduceCtorEq, false_iff, not_forall]
    exact ⟨name, by omega⟩
  | none =>
    simp only [true_iff]
    intro name
    by_cases known : name ∈ fragments.map (·.name)
    · simpa using List.find?_eq_none.1 found name known
    · rw [List.count_eq_zero_of_not_mem known]
      exact Nat.zero_le 1

namespace SameFragments

variable {xs ys : List Definition} (same : SameFragments xs ys)
include same

theorem symm : SameFragments ys xs :=
  fun name => (same name).symm

theorem count_names (name : String) : (xs.map (·.name)).count name = (ys.map (·.name)).count name := by
  rw [← Registry.length_groupOf, ← Registry.length_groupOf, Registry.groupOf, Registry.groupOf, same name]

/-- Merging gives the same definitions. -/
theorem perm_merged : (Schema.merged xs).Perm (Schema.merged ys) := by
  have names : (xs.map (·.name)).eraseDups.Perm (ys.map (·.name)).eraseDups := by
    rw [List.perm_ext_iff_of_nodup (Registry.nodup_eraseDups _) (Registry.nodup_eraseDups _)]
    intro name
    rw [List.mem_eraseDups, List.mem_eraseDups, ← List.count_pos_iff, same.count_names, List.count_pos_iff]
  rw [Schema.merged_eq, Schema.merged_eq]
  simp only [same _]
  exact names.filterMap _

theorem merge_eq_ok {enabled : Bool} {schema : List Definition}
    (ran : (Registry.ofList xs).merge enabled = .ok schema) :
    ∃ schema', (Registry.ofList ys).merge enabled = .ok schema' ∧ schema.Perm schema' := by
  obtain rfl := Registry.merge_eq_ok ran
  refine ⟨Schema.merged ys, ?_, same.perm_merged⟩
  cases enabled with
  | true => rfl
  | false =>
    rw [Registry.merge_disabled_eq_ok, List.nodup_iff_count_le_one] at ran ⊢
    exact fun name => same.count_names name ▸ ran name

end SameFragments

/-! ## Questions to a schema -/

/-- A default asks for one enumeration only, that of its type. -/
theorem Literals.ofDefault_congr (literals : Literals) {schema : List Definition} (type : TypeExpr)
    (value : DefaultValue)
    (same : Schema.enumValues? literals.schema (type.baseName?.getD "")
      = Schema.enumValues? schema (type.baseName?.getD "")) :
    literals.ofDefault type value = { literals with schema }.ofDefault type value := by
  unfold ofDefault
  cases kind : value.kind with
  | number | boolean => rfl
  | string => simp only [Schema.isEnum, enumValue, same]
  | null | sequence | dictionary => simp only [ofKind, kind]

section

variable {schema schema' : List Definition} (perm : schema.Perm schema')
include perm

theorem Schema.declares_perm (name : String) : declares schema name = declares schema' name :=
  perm.any_eq

variable (distinct : (schema.map (·.name)).Nodup)
include distinct

theorem Schema.enumValues?_perm (name : String) : enumValues? schema name = enumValues? schema' name := by
  have distinct' := (perm.map (·.name)).nodup_iff.1 distinct
  refine Option.ext fun values => ?_
  rw [enumValues?_eq_some distinct, enumValues?_eq_some distinct']
  simp only [perm.mem_iff]

/-- Literals do not depend on the order of a schema. -/
theorem ofOption_perm (context : RenderContext) (known : context.schema = schema) (type : TypeExpr)
    (value : Option DefaultValue) :
    context.literals.ofOption type value = (context.within schema').literals.ofOption type value := by
  subst known
  cases value with
  | none => rfl
  | some value =>
    have literal := context.literals.ofDefault_congr type value (Schema.enumValues?_perm perm distinct _)
    rw [Literals.ofOption, literal]
    rfl

theorem definitionAlike_of_perm (context : RenderContext) (known : context.schema = schema)
    (definition : Definition) : DefinitionAlike .equality context schema' definition where
  userTypes := by
    subst known
    simp only [RenderContext.userTypes, RenderContext.within, Schema.declares_perm perm]
    rfl
  arguments argument _ := ofOption_perm perm distinct context known argument.type argument.defaultValue
  members member _ :=
    { value := ofOption_perm perm distinct context known member.type member.defaultValue
      arguments := fun argument _ =>
        ofOption_perm perm distinct context known argument.type argument.defaultValue }

end

/-! ## Files -/

theorem mapM_eq_ok {α β ε : Type} {f : α → Except ε β} {xs : List α} {ys : List β} :
    xs.mapM f = .ok ys ↔ List.Forall₂ (fun x y => f x = .ok y) xs ys := by
  induction xs generalizing ys with
  | nil =>
    rw [List.mapM_nil, List.forall₂_nil_left_iff]
    exact ⟨fun same => (Except.ok.inj same).symm, fun same => same ▸ rfl⟩
  | cons x xs ih =>
    rw [List.mapM_cons, bind_eq_ok, List.forall₂_cons_left_iff]
    constructor
    · rintro ⟨y, first, rest⟩
      obtain ⟨ys', others, same⟩ := bind_eq_ok.1 rest
      exact ⟨y, ys', first, ih.1 others, (Except.ok.inj same).symm⟩
    · rintro ⟨y, ys', first, others, rfl⟩
      exact ⟨y, first, bind_eq_ok.2 ⟨ys', ih.2 others, rfl⟩⟩

theorem mapM_perm {α β ε : Type} {f f' : α → Except ε β} {xs xs' : List α} {ys : List β} (perm : xs.Perm xs')
    (each : ∀ x, f x = f' x) (mapped : xs.mapM f = .ok ys) :
    ∃ ys', xs'.mapM f' = .ok ys' ∧ ys.Perm ys' := by
  obtain rfl : f = f' := funext each
  obtain ⟨ys', mapped', perm'⟩ := List.perm_comp_forall₂ perm.symm (mapM_eq_ok.1 mapped)
  exact ⟨ys', mapM_eq_ok.2 mapped', perm'.symm⟩

namespace Target

variable {schema schema' : List Definition} {target : Target} {options : RenderOptions} {files : List SourceFile}

/-- The candidates for files are the same, in some order. -/
theorem candidates_perm (bundled : target ≠ .javascript) (perm : schema.Perm schema')
    (distinct : (schema.map (·.name)).Nodup) (made : target.candidates schema options = .ok files) :
    ∃ files', target.candidates schema' options = .ok files' ∧ files.Perm files' := by
  have alike := definitionAlike_of_perm perm distinct ⟨target, schema, options⟩ rfl
  cases target with
  | cpp =>
    obtain ⟨groups, mapped, flat⟩ := bind_eq_ok.1 made
    cases flat
    obtain ⟨groups', mapped', perm'⟩ := mapM_perm perm (fun d => Cpp.like_definitionFiles (alike d)) mapped
    exact ⟨groups'.flatten, bind_eq_ok.2 ⟨groups', mapped', rfl⟩, perm'.flatten⟩
  | flow => exact mapM_perm perm (fun d => Flow.like_definitionFile (alike d)) made
  | javascript => contradiction
  | idl =>
    cases made
    refine ⟨idlFiles schema', rfl, ?_⟩
    exact (List.mergeSort_perm ..).trans ((perm.map _).trans (List.mergeSort_perm ..).symm)

theorem sorted_idlFiles (schema : List Definition) :
    (idlFiles schema).Pairwise fun a b => (Path.compare a.path b.path).isLE = true := by
  unfold idlFiles
  apply List.pairwise_mergeSort
  · intro a b c first second
    exact Path.compare_trans first second
  · intro a b
    exact Path.compare_total a.path b.path

/-- The files are the same, in some order; in the interface language that is the order of their paths. -/
theorem render_perm (bundled : target ≠ .javascript) (perm : schema.Perm schema')
    (distinct : (schema.map (·.name)).Nodup) (made : target.render schema options = .ok files) :
    ∃ files', target.render schema' options = .ok files' ∧ files.Perm files' ∧ (target = .idl → files = files') := by
  obtain ⟨candidates, apart⟩ := render_eq_ok.1 made
  obtain ⟨files', candidates', perm'⟩ := candidates_perm bundled perm distinct candidates
  have apart' : (files'.map (·.path)).Pairwise fun a b => Path.same b a = false := by
    refine ((perm'.map _).pairwise_iff fun differ => ?_).1 apart
    rwa [Path.same_comm]
  refine ⟨files', render_eq_ok.2 ⟨candidates', apart'⟩, perm', ?_⟩
  rintro rfl
  cases candidates
  cases candidates'
  exact eq_of_sorted perm' (sorted_idlFiles schema) (sorted_idlFiles schema') apart

end Target

/-! ## Runs -/

/-- Two renderings are there or missing alike, and have the same files: in some order, and in the interface
language in the same one. -/
def SameFiles (target : Target) (run run' : Except RunFault Rendering) : Prop :=
  (run.isOk = true ↔ run'.isOk = true) ∧
    ∀ rendering rendering', run = .ok rendering → run' = .ok rendering' →
      rendering.files.Perm rendering'.files ∧ (target = .idl → rendering.files = rendering'.files)

/-- Documents are collected, merged and rendered. -/
def renderDocuments (settings : Settings) (target : Target)
    (fetched : List (Locator × Except FetchFault Document)) : Except RunFault Rendering := do
  let collection ← Collection.collect settings fetched
  collection.render settings target

/-- The fragments of documents that are kept, under their new names. -/
def keptFragments (settings : Settings) (fetched : List (Locator × Except FetchFault Document)) :
    List Definition :=
  settings.selection.kept (fetched.flatMap Fetched.definitions)

/-- No name is defined by documents of both lists. -/
def DefineApart (settings : Settings) (documents documents' : List (Locator × Except FetchFault Document)) :
    Prop :=
  List.Disjoint ((keptFragments settings documents).map (·.name))
    ((keptFragments settings documents').map (·.name))

/-- Where there is the one rendering there is the other, with the same files. -/
def Follows (target : Target) (run run' : Except RunFault Rendering) : Prop :=
  ∀ rendering, run = .ok rendering → ∃ rendering', run' = .ok rendering'
    ∧ rendering.files.Perm rendering'.files ∧ (target = .idl → rendering.files = rendering'.files)

section

variable {settings : Settings} {target : Target}

theorem SameFiles.of_follows {run run' : Except RunFault Rendering} (follows : Follows target run run')
    (follows' : Follows target run' run) : SameFiles target run run' := by
  refine ⟨?_, ?_⟩
  · cases run with
    | ok rendering =>
      obtain ⟨rendering', rfl, -⟩ := follows rendering rfl
      simp [Except.isOk, Except.toBool]
    | error fault =>
      cases run' with
      | ok rendering' =>
        obtain ⟨rendering, other, -⟩ := follows' rendering' rfl
        cases other
      | error fault' => simp [Except.isOk, Except.toBool]
  · rintro rendering rendering' rfl rfl
    obtain ⟨_, ⟨⟩, same⟩ := follows rendering rfl
    exact same

theorem mapError_eq_ok {ε ε' α : Type} {f : ε → ε'} {x : Except ε α} {a : α} :
    x.mapError f = .ok a ↔ x = .ok a := by
  cases x <;> simp [Except.mapError]

theorem Collection.render_eq_ok_iff {collection : Collection} {rendering : Rendering} :
    collection.render settings target = .ok rendering ↔
      collection.registry.merge settings.merge = .ok rendering.definitions
        ∧ target.render rendering.definitions settings.options = .ok rendering.files := by
  obtain ⟨definitions, files⟩ := rendering
  rw [Collection.render, bind_eq_ok]
  simp only [bind_eq_ok, mapError_eq_ok]
  constructor
  · rintro ⟨_, merged, _, rendered, ⟨⟩⟩
    exact ⟨merged, rendered⟩
  · rintro ⟨merged, rendered⟩
    exact ⟨definitions, merged, files, rendered, rfl⟩

theorem follows_render {collection collection' : Collection} {xs ys : List Definition}
    (bundled : target ≠ .javascript) (same : SameFragments xs ys) (made : collection.registry = .ofList xs)
    (made' : collection'.registry = .ofList ys) :
    Follows target (collection.render settings target) (collection'.render settings target) := by
  intro rendering ran
  obtain ⟨merged, rendered⟩ := Collection.render_eq_ok_iff.1 ran
  rw [made] at merged
  obtain ⟨schema', merged', perm⟩ := same.merge_eq_ok merged
  have distinct : (rendering.definitions.map (·.name)).Nodup := by
    rw [Registry.merge_eq_ok merged]
    exact Schema.nodup_merged xs
  obtain ⟨files', rendered', alike⟩ := Target.render_perm bundled perm distinct rendered
  refine ⟨⟨schema', files'⟩, Collection.render_eq_ok_iff.2 ⟨?_, rendered'⟩, alike⟩
  rw [made', merged']

theorem follows_renderDocuments {fetched fetched' : List (Locator × Except FetchFault Document)}
    (bundled : target ≠ .javascript) (perm : fetched.Perm fetched')
    (same : SameFragments (keptFragments settings fetched) (keptFragments settings fetched')) :
    Follows target (renderDocuments settings target fetched) (renderDocuments settings target fetched') := by
  intro rendering ran
  obtain ⟨collection, collected, ran⟩ := bind_eq_ok.1 ran
  -- The same outcomes are met, in whatever order, so neither collection is ended by a failure.
  have met : ∀ outcome, outcome ∈ fetched.flatMap Fetched.outcomes ↔ outcome ∈ fetched'.flatMap Fetched.outcomes :=
    fun outcome => (perm.flatMap fun _ _ => .refl _).mem_iff
  obtain ⟨collection', collected'⟩ : ∃ collection', Collection.collect settings fetched' = .ok collection' := by
    have there := Collection.exists_collect.1 ⟨collection, collected⟩
    rw [Collection.exists_collect]
    simpa only [met] using there
  have made : collection.registry = .ofList (keptFragments settings fetched) := by
    rw [Collection.collect_eq_ok collected]
    rfl
  have made' : collection'.registry = .ofList (keptFragments settings fetched') := by
    rw [Collection.collect_eq_ok collected']
    rfl
  obtain ⟨rendering', ran', alike⟩ := follows_render bundled same made made' rendering ran
  exact ⟨rendering', bind_eq_ok.2 ⟨collection', collected', ran'⟩, alike⟩

/-- Documents that define different names may change places. -/
theorem sameFragments_swap {first between second : List (Locator × Except FetchFault Document)}
    (left : DefineApart settings first between) (outer : DefineApart settings first second)
    (right : DefineApart settings between second)
    (before after : List (Locator × Except FetchFault Document)) :
    SameFragments (keptFragments settings (before ++ first ++ between ++ second ++ after))
      (keptFragments settings (before ++ second ++ between ++ first ++ after)) := by
  intro name
  have other : ∀ {documents}, name ∉ (keptFragments settings documents).map (·.name) →
      (keptFragments settings documents).filter (·.name == name) = [] := Registry.filter_name_eq_nil
  have spread : ∀ documents documents', keptFragments settings (documents ++ documents')
      = keptFragments settings documents ++ keptFragments settings documents' := by
    intro documents documents'
    rw [keptFragments, List.flatMap_append, Selection.kept_append]
    rfl
  simp only [spread, List.filter_append]
  -- At most one of the three parts knows the name, and an empty list may stand anywhere.
  by_cases known : name ∈ (keptFragments settings first).map (·.name)
  · simp [other (left known), other (outer known)]
  · rw [other known]
    by_cases known : name ∈ (keptFragments settings between).map (·.name)
    · simp [other (right known)]
    · simp [other known]

/-- The files of C++, Flow and the interface language do not depend on how definitions of different names
are ordered.  Fragments that are the same name by name give the same files, or none.  So documents that
define different names may change places, whatever lies before, between and behind them. -/
theorem rendering_ignores_order (settings : Settings) {target : Target}
    (kind : target = .cpp ∨ target = .flow ∨ target = .idl) :
    (∀ xs ys, SameFragments xs ys →
      SameFiles target (({ registry := .ofList xs } : Collection).render settings target)
        (({ registry := .ofList ys } : Collection).render settings target))
    ∧ ∀ before first between second after, DefineApart settings first between →
      DefineApart settings first second → DefineApart settings between second →
      SameFiles target (renderDocuments settings target (before ++ first ++ between ++ second ++ after))
        (renderDocuments settings target (before ++ second ++ between ++ first ++ after)) := by
  have bundled : target ≠ .javascript := by rcases kind with rfl | rfl | rfl <;> simp
  constructor
  · intro xs ys same
    exact .of_follows (follows_render bundled same rfl rfl) (follows_render bundled same.symm rfl rfl)
  · intro before first between second after left outer right
    have same := sameFragments_swap left outer right before after
    have perm : (before ++ first ++ between ++ second ++ after).Perm
        (before ++ second ++ between ++ first ++ after) := by
      classical
      rw [List.perm_iff_count]
      intro item
      simp only [List.count_append]
      omega
    exact .of_follows (follows_renderDocuments bundled perm same)
      (follows_renderDocuments bundled perm.symm same.symm)

end

/-- Two documents, one of which refers to the definition of the other. -/
def hueDocument : Locator × Except FetchFault Document :=
  (.localPath "c", .ok ⟨.localPath "c", "enum C \x7b \"r\" \x7d;"⟩)

def paintDocument : Locator × Except FetchFault Document :=
  (.localPath "p", .ok ⟨.localPath "p", "dictionary P \x7b C c = \"r\"; \x7d;"⟩)

def hueEnum : Definition :=
  { kind := .enum, name := "C", values := ["r"] }

def paintDictionary : Definition :=
  { kind := .dictionary, name := "P",
    members := [{ kind := .field, name := "c", type := .named "C", defaultValue := some ⟨.string, "r"⟩ }] }

/-- The enumeration is known to the dictionary whether it comes before or behind it. -/
theorem rendering_ignores_order_paint :
    DefineApart {} [hueDocument] [paintDocument]
      ∧ (renderDocuments {} .flow [hueDocument, paintDocument]).isOk = true
      ∧ SameFiles .flow (renderDocuments {} .flow [hueDocument, paintDocument])
          (renderDocuments {} .flow [paintDocument, hueDocument]) := by
  have hue : Fetched.definitions hueDocument = [hueEnum] := by
    have read : Schema.parse "enum C \x7b \"r\" \x7d;" = .ok [hueEnum] := by cbv
    have plain : Document.texts ⟨.localPath "c", "enum C \x7b \"r\" \x7d;"⟩ = [.ok "enum C \x7b \"r\" \x7d;"] := rfl
    simp [Fetched.definitions, hueDocument, plain, textDefinitions, read]
  have paint : Fetched.definitions paintDocument = [paintDictionary] := by
    have read : Schema.parse "dictionary P \x7b C c = \"r\"; \x7d;" = .ok [paintDictionary] := by cbv
    have plain : Document.texts ⟨.localPath "p", "dictionary P \x7b C c = \"r\"; \x7d;"⟩
        = [.ok "dictionary P \x7b C c = \"r\"; \x7d;"] := rfl
    simp [Fetched.definitions, paintDocument, plain, textDefinitions, read]
  have apart : DefineApart {} [hueDocument] [paintDocument] := by
    simp only [DefineApart, keptFragments, List.flatMap_cons, hue, paint, List.flatMap_nil]
    show List.Disjoint ["C"] ["P"]
    simp
  have nothing : DefineApart {} [hueDocument] [] := by simp [DefineApart, keptFragments, Selection.kept]
  have nothing' : DefineApart {} [] [paintDocument] := by simp [DefineApart, keptFragments, Selection.kept]
  refine ⟨apart, ?_, (rendering_ignores_order {} (.inr (.inl rfl))).2 [] [hueDocument] [] [paintDocument] []
    nothing apart nothing'⟩
  have collected : Collection.collect {} [hueDocument, paintDocument]
      = .ok (Collection.gathered {} [hueDocument, paintDocument]) :=
    Collection.collect_lenient {} _
  have kept : (Collection.gathered {} [hueDocument, paintDocument]).registry
      = .ofList [hueEnum, paintDictionary] := by
    simp only [Collection.gathered, List.flatMap_cons, hue, paint, List.flatMap_nil]
    rfl
  have rendered : (Collection.render { registry := .ofList [hueEnum, paintDictionary] } {} .flow).isOk = true := rfl
  rw [renderDocuments, collected]
  show (Collection.render _ {} .flow).isOk = true
  rw [Collection.render, kept]
  exact rendered

end IdlBindings
