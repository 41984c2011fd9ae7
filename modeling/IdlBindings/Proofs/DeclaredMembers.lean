/-
# IdlBindings.Proofs.DeclaredMembers: what the members of a merged schema can hold.

A member record has room for more than its kind declares: an attribute could have arguments, and a
constructor could have a union for its type.  No text says so, renaming puts nothing there, and merging
takes members over as they are, though maybe into a definition of another kind.  So what is collected and
merged has such members in none of its definitions.
-/
import IdlBindings.Proofs.Collecting
import IdlBindings.Proofs.Merging

namespace IdlBindings

/-- A member holds nothing that its kind does not declare, as far as types and values go. -/
def Member.Declared (member : Member) : Prop :=
  match member.kind with
  | .property => member.keyType = none ∧ member.arguments = [] ∧ member.defaultValue = none
  | .operation => member.keyType = none
  | .constructor => member.keyType = none ∧ ∃ name, member.type = .named name
  | .stringifier => member.keyType = none ∧ member.arguments = [] ∧ ∃ name, member.type = .named name
  | .field | .const | .iterable | .maplike | .setlike => True

/-- All members of a definition are declared. -/
def Definition.Declared (definition : Definition) : Prop :=
  ∀ member ∈ definition.members, member.Declared

/-! ## Reading -/

namespace Grammar

open Token (Located)

variable {toks rest : List Located} {depth : Nat}

theorem declared_modified {ms : Modifiers} {m : Member} (ran : modified ms depth toks = .ok (m, rest)) :
    m.Declared := by
  rcases modified_eq_ok.1 ran with ⟨r₁, -, read⟩ | ⟨c, listed, -, read⟩ | ⟨-, -, read⟩
  · obtain ⟨t, r₁, -, name, r₂, -, -, rfl⟩ := property_eq_ok.1 read
    exact ⟨rfl, rfl, rfl⟩
  · obtain ⟨first, r₁, -, second, r₂, -, r₃, -, -, rfl⟩ := collection_eq_ok.1 read
    simp only [collections, List.mem_cons, List.not_mem_nil, or_false] at listed
    rcases listed with rfl | rfl | rfl <;> exact trivial
  · obtain ⟨t, r₁, -, name, r₂, -, as, r₃, -, -, rfl⟩ := operation_eq_ok.1 read
    rfl

theorem declared_interfaceMember {owner : String} {m : Member}
    (ran : interfaceMember owner depth toks = .ok (m, rest)) : m.Declared := by
  rcases interfaceMember_eq_ok.1 ran with ⟨r₁, -, read⟩ | ⟨-, read⟩ | ⟨-, -, rfl⟩ | ⟨-, -, -, read⟩
  · obtain ⟨t, r₁, -, name, r₂, -, r₃, -, value, r₄, -, -, rfl⟩ := constant_eq_ok.1 read
    exact trivial
  · obtain ⟨as, r₁, -, -, rfl⟩ := constructorOf_eq_ok.1 read
    exact ⟨rfl, owner, rfl⟩
  · exact ⟨rfl, rfl, "DOMString", rfl⟩
  · exact declared_modified read

theorem declared_member {kind : DefinitionKind} {owner : String} {m : Member}
    (ran : member kind owner depth toks = .ok (m, rest)) : m.Declared := by
  obtain ⟨outer, r₁, -, inner, read, rfl⟩ := member_eq_ok.1 ran
  rcases ite_eq_ok.1 read with ⟨-, read⟩ | ⟨-, read⟩
  · obtain ⟨required, r₁, -, as, r₂, -, t, r₃, -, name, r₄, -, value, r₅, -, -, rfl⟩ := field_eq_ok.1 read
    exact trivial
  · have declared : inner.Declared := declared_interfaceMember read
    exact declared

section

-- What holds of every member that is read holds of all members of what is read.
variable {P : Member → Prop} (each : ∀ {kind : DefinitionKind} {owner : String} {depth : Nat}
  {toks rest : List Located} {m : Member}, member kind owner depth toks = .ok (m, rest) → P m)
include each

theorem forall_members {kind : DefinitionKind} {owner : String} {ms : List Member}
    (ran : members kind owner depth toks = .ok (ms, rest)) : ∀ m ∈ ms, P m := by
  induction depth generalizing toks ms with
  | zero => cases ran
  | succ depth ih =>
    rcases members_eq_ok.1 ran with ⟨-, first, r₁, head, others, tail, rfl⟩ | ⟨-, rfl⟩
    · exact List.forall_mem_cons.2 ⟨each head, ih tail⟩
    · simp

theorem forall_members_body {kind : DefinitionKind} {d : Definition} (ran : body kind depth toks = .ok (d, rest)) :
    ∀ m ∈ d.members, P m := by
  obtain ⟨name, r₁, -, parent, r₂, -, r₃, -, ms, r₄, read, -, rfl⟩ := body_eq_ok.1 ran
  exact forall_members each read

theorem forall_members_bareDefinition {d : Definition} (ran : bareDefinition depth toks = .ok (d, rest)) :
    ∀ m ∈ d.members, P m := by
  rcases bareDefinition_eq_ok.1 ran with ⟨r₁, -, read⟩ | ⟨r₁, -, ⟨-, read⟩ | ⟨r₂, -, read⟩⟩
    | ⟨r₁, -, r₂, -, read⟩ | ⟨r₁, -, read⟩ | ⟨r₁, -, read⟩ | ⟨r₁, -, read⟩ | ⟨-, read⟩
  · rcases partialBody_eq_ok.1 read with ⟨r₁, -, r₂, -, whole, inner, rfl⟩ | ⟨r₁, -, whole, inner, rfl⟩
    all_goals
      have held : ∀ m ∈ whole.members, P m := forall_members_body each inner
      exact held
  · obtain ⟨name, r₁, -, r₂, -, t, r₃, -, as, r₄, -, -, rfl⟩ := callback_eq_ok.1 read
    simp
  · exact forall_members_body each read
  · exact forall_members_body each read
  · exact forall_members_body each read
  · obtain ⟨name, r₁, -, r₂, -, values, r₃, -, -, rfl⟩ := enumeration_eq_ok.1 read
    simp
  · obtain ⟨as, r₁, -, t, r₂, -, name, r₃, -, -, rfl⟩ := typeAlias_eq_ok.1 read
    simp
  · obtain ⟨name, r₁, -, implemented, r₂, -, -, rfl⟩ := implementation_eq_ok.1 (implementation_of_statement read)
    simp

theorem forall_members_definitions {ds : List Definition} (ran : definitions depth toks = .ok (ds, rest)) :
    ∀ d ∈ ds, ∀ m ∈ d.members, P m := by
  induction depth generalizing toks ds with
  | zero => cases ran
  | succ depth ih =>
    rcases definitions_eq_ok.1 ran with ⟨-, rfl, -⟩ | ⟨-, first, r₁, head, others, tail, rfl⟩
    · simp
    · obtain ⟨as, r₁, -, bare, read, rfl⟩ := definition_eq_ok.1 head
      have held : ∀ m ∈ bare.members, P m := forall_members_bareDefinition each read
      exact List.forall_mem_cons.2 ⟨held, ih tail⟩

end

end Grammar

theorem Schema.declared_parse {text : String} {ds : List Definition} (read : Schema.parse text = .ok ds) :
    ∀ d ∈ ds, d.Declared := by
  obtain ⟨toks, -, rest, ran⟩ := Schema.parse_eq_ok.1 read
  exact Grammar.forall_members_definitions Grammar.declared_member ran

/-! ## Renaming -/

theorem Member.Declared.mapNames {member : Member} (declared : member.Declared) (f : String → String) :
    (member.mapNames f).Declared := by
  have same : (member.mapNames f).kind = member.kind := rfl
  unfold Member.Declared at declared ⊢
  rw [same]
  cases kind : member.kind with
  | field | const | iterable | maplike | setlike => exact trivial
  | property =>
    rw [kind] at declared
    obtain ⟨keyless, argumentless, valueless⟩ := declared
    simp [Member.mapNames, keyless, argumentless, valueless, Argument.mapNamesList]
  | operation =>
    rw [kind] at declared
    simp [Member.mapNames, declared]
  | constructor =>
    rw [kind] at declared
    obtain ⟨keyless, name, typed⟩ := declared
    simp [Member.mapNames, keyless, typed, TypeExpr.mapNames]
  | stringifier =>
    rw [kind] at declared
    obtain ⟨keyless, argumentless, name, typed⟩ := declared
    simp [Member.mapNames, keyless, argumentless, typed, TypeExpr.mapNames, Argument.mapNamesList]

section

variable {P : Member → Prop} (kept : ∀ m f, P m → P (m.mapNames f))
include kept

/-- What renaming keeps for a member it keeps for all members of a definition. -/
theorem Definition.forall_members_rename (rule : RenameRule) {d : Definition} (each : ∀ m ∈ d.members, P m) :
    ∀ m ∈ (d.rename rule).members, P m := by
  intro m inside
  obtain ⟨original, listed, rfl⟩ := List.mem_map.1 inside
  exact kept original rule.apply (each original listed)

theorem Selection.forall_members_rename (selection : Selection) {d : Definition} (each : ∀ m ∈ d.members, P m) :
    ∀ m ∈ (selection.rename d).members, P m := by
  unfold Selection.rename
  induction selection.renames generalizing d with
  | nil => exact each
  | cons rule rules ih => exact ih (d.forall_members_rename kept rule each)

end

/-- The members of a merged definition are members of its fragments. -/
theorem Definition.Gathers.forall_members {P : Member → Prop} {fragments : List Definition} {name : String}
    {d : Definition} (gathers : Gathers fragments name d) (each : ∀ f ∈ fragments, ∀ m ∈ f.members, P m) :
    ∀ m ∈ d.members, P m := by
  obtain ⟨first, others, split, rfl⟩ := gathers
  intro m inside
  obtain ⟨f, listed, inside⟩ := List.mem_flatMap.1 inside
  rw [← split] at listed
  exact each f (List.mem_filter.1 listed).1 m inside

/-! ## Collecting and merging -/

/-- What is fetched holds the definitions of texts that were read. -/
theorem Fetched.exists_parse {fetched : Locator × Except FetchFault Document} {d : Definition}
    (inside : d ∈ Fetched.definitions fetched) : ∃ text ds, Schema.parse text = .ok ds ∧ d ∈ ds := by
  rcases fetched with ⟨locator, fault | document⟩
  · cases inside
  · obtain ⟨text, -, inside⟩ := List.mem_flatMap.1 inside
    cases text with
    | error fault => cases inside
    | ok text =>
      simp only [textDefinitions] at inside
      cases read : Schema.parse text with
      | error error => simp [read] at inside
      | ok ds =>
        rw [read] at inside
        exact ⟨text, ds, read, inside⟩

namespace Schema

variable {settings : Settings} {fetched : List (Locator × Except FetchFault Document)}
  {collection : Collection} {enabled : Bool} {schema : List Definition}

theorem merged_of_collected (collected : Collection.collect settings fetched = .ok collection)
    (ran : collection.registry.merge enabled = .ok schema) :
    schema = merged (settings.selection.kept (fetched.flatMap Fetched.definitions)) := by
  rw [Collection.collect_eq_ok collected] at ran
  exact Registry.merge_eq_ok ran

/-- The fragments of a collection are definitions that were read, under their new names. -/
theorem exists_parse_of_kept {selection : Selection} {f : Definition}
    (inside : f ∈ selection.kept (fetched.flatMap Fetched.definitions)) :
    ∃ original, f = selection.rename original ∧ ∃ text ds, Schema.parse text = .ok ds ∧ original ∈ ds := by
  obtain ⟨original, kept, rfl⟩ := List.mem_map.1 inside
  obtain ⟨item, -, listed⟩ := List.mem_flatMap.1 (List.mem_filter.1 kept).1
  exact ⟨original, rfl, Fetched.exists_parse listed⟩

theorem gathers_of_collected (collected : Collection.collect settings fetched = .ok collection)
    (ran : collection.registry.merge enabled = .ok schema) {d : Definition} (inside : d ∈ schema) :
    ∃ name, Definition.Gathers (settings.selection.kept (fetched.flatMap Fetched.definitions)) name d := by
  rw [merged_of_collected collected ran, merged_eq] at inside
  obtain ⟨name, -, made⟩ := List.mem_filterMap.1 inside
  exact ⟨name, Definition.gathers_of_merge? made⟩

/-- What holds of all members that can be read, and what renaming keeps, holds of all members of a schema. -/
theorem forall_members_of_collected {P : Member → Prop}
    (parsed : ∀ {text ds}, Schema.parse text = .ok ds → ∀ d ∈ ds, ∀ m ∈ d.members, P m)
    (kept : ∀ m f, P m → P (m.mapNames f)) (collected : Collection.collect settings fetched = .ok collection)
    (ran : collection.registry.merge enabled = .ok schema) : ∀ d ∈ schema, ∀ m ∈ d.members, P m := by
  intro d inside
  obtain ⟨name, gathers⟩ := gathers_of_collected collected ran inside
  refine gathers.forall_members fun f inside => ?_
  obtain ⟨original, rfl, text, ds, read, listed⟩ := exists_parse_of_kept inside
  exact settings.selection.forall_members_rename kept (parsed read original listed)

theorem declared_of_collected (collected : Collection.collect settings fetched = .ok collection)
    (ran : collection.registry.merge enabled = .ok schema) : ∀ d ∈ schema, d.Declared :=
  forall_members_of_collected declared_parse (fun _ f declared => declared.mapNames f) collected ran

theorem nodup_of_collected (collected : Collection.collect settings fetched = .ok collection)
    (ran : collection.registry.merge enabled = .ok schema) : (schema.map (·.name)).Nodup := by
  rw [merged_of_collected collected ran]
  exact nodup_merged _

end Schema

/-- A document of schema text alone is read and merged without settings. -/
theorem collect_plain (document : Document) (schema : List Definition) {fragments : List Definition}
    (plain : document.isMarkup = false) (read : Schema.parse document.contents = .ok fragments)
    (joined : Schema.merged fragments = schema) :
    ∃ collection, Collection.collect {} [(document.locator, .ok document)] = .ok collection
      ∧ collection.registry.merge true = .ok schema := by
  have unchanged : ({} : Selection).rename = id := rfl
  refine ⟨_, Collection.collect_lenient {} _, ?_⟩
  rw [← joined, ← Schema.merge_enabled]
  simp [Collection.gathered, Fetched.definitions, Document.texts, plain, textDefinitions, read, Selection.kept,
    Selection.keeps, unchanged]

end IdlBindings
