/-
# IdlBindings.Proofs.References: the names that a definition mentions, and those it is linked to.

References are collected into a list, from the bases of a definition and from its types.  Here it is said
without the collection where a name has to stand to be among them.  The definitions that a target links to
are filtered out of this list; they come in strictly ascending order.
-/
import Mathlib
import IdlBindings.Target.Basic

namespace IdlBindings

/-! ## Names in types -/

namespace TypeExpr

/-- A name stands at a leaf of a type.  The names of type constructors are no leaves. -/
inductive Leaf (name : String) : TypeExpr → Prop
  | named : Leaf name (.named name)
  | sequence {element : TypeExpr} (leaf : Leaf name element) : Leaf name (.sequence element)
  | nullable {inner : TypeExpr} (leaf : Leaf name inner) : Leaf name (.nullable inner)
  | union {members : List TypeExpr} {t : TypeExpr} (inside : t ∈ members) (leaf : Leaf name t) :
      Leaf name (.union members)
  | generic {constructor : String} {arguments : List TypeExpr} {t : TypeExpr} (inside : t ∈ arguments)
      (leaf : Leaf name t) : Leaf name (.generic constructor arguments)

variable {name : String}

-- What is collected is at a leaf: along the type, with the lists in it.
mutual
theorem leaf_of_mem_references : ∀ {t : TypeExpr}, name ∈ t.references → t.Leaf name
  | .named _, mem => by
    rw [references, List.mem_singleton] at mem
    exact mem ▸ .named
  | .sequence _, mem => .sequence (leaf_of_mem_references (by rwa [references] at mem))
  | .nullable _, mem => .nullable (leaf_of_mem_references (by rwa [references] at mem))
  | .union _, mem => by
    obtain ⟨t, inside, leaf⟩ := leaf_of_mem_referencesList (by rwa [references] at mem)
    exact .union inside leaf
  | .generic _ _, mem => by
    obtain ⟨t, inside, leaf⟩ := leaf_of_mem_referencesList (by rwa [references] at mem)
    exact .generic inside leaf
theorem leaf_of_mem_referencesList :
    ∀ {ts : List TypeExpr}, name ∈ referencesList ts → ∃ t ∈ ts, t.Leaf name
  | [], mem => by
    rw [referencesList] at mem
    cases mem
  | t :: ts, mem => by
    rw [referencesList, List.mem_append] at mem
    rcases mem with here | later
    · exact ⟨t, List.mem_cons_self .., leaf_of_mem_references here⟩
    · obtain ⟨t', inside, leaf⟩ := leaf_of_mem_referencesList later
      exact ⟨t', List.mem_cons_of_mem t inside, leaf⟩
end

theorem mem_referencesList_of_mem {t : TypeExpr} {ts : List TypeExpr} (inside : t ∈ ts)
    (mem : name ∈ t.references) : name ∈ referencesList ts := by
  induction ts with
  | nil => cases inside
  | cons first rest ih =>
    rw [referencesList, List.mem_append]
    rcases List.mem_cons.1 inside with rfl | inside
    · exact .inl mem
    · exact .inr (ih inside)

theorem mem_references_of_leaf {t : TypeExpr} (leaf : t.Leaf name) : name ∈ t.references := by
  induction leaf with
  | named =>
    rw [references]
    exact List.mem_singleton_self name
  | sequence _ ih | nullable _ ih => rwa [references]
  | union inside _ ih | generic inside _ ih =>
    rw [references]
    exact mem_referencesList_of_mem inside ih

theorem mem_references {t : TypeExpr} : name ∈ t.references ↔ t.Leaf name :=
  ⟨leaf_of_mem_references, mem_references_of_leaf⟩

theorem mem_referencesList {ts : List TypeExpr} : name ∈ referencesList ts ↔ ∃ t ∈ ts, t.Leaf name := by
  constructor
  · exact leaf_of_mem_referencesList
  · rintro ⟨t, inside, leaf⟩
    exact mem_referencesList_of_mem inside (mem_references_of_leaf leaf)

/-- The name that a default is looked up under is a leaf. -/
theorem leaf_of_baseName? : ∀ {t : TypeExpr}, t.baseName? = some name → t.Leaf name
  | .named _, base => by
    rw [baseName?, Option.some_inj] at base
    exact base ▸ .named
  | .nullable _, base => .nullable (leaf_of_baseName? (by rwa [baseName?] at base))
  | .sequence _, base | .union _, base | .generic _ _, base => by
    simp [baseName?] at base

end TypeExpr

/-! ## Names in definitions -/

/-- The places where a definition mentions a name: its bases, and the leaves of its own type and of the types
of its arguments, its members, their keys and their arguments. -/
inductive Definition.Mentions (d : Definition) (name : String) : Prop
  | parent (base : d.parent = some name)
  | implements (base : d.implements = some name)
  | type {t : TypeExpr} (own : d.type = some t) (leaf : t.Leaf name)
  | argument {a : Argument} (inside : a ∈ d.arguments) (leaf : a.type.Leaf name)
  | member {m : Member} (inside : m ∈ d.members) (leaf : m.type.Leaf name)
  | key {m : Member} {t : TypeExpr} (inside : m ∈ d.members) (key : m.keyType = some t) (leaf : t.Leaf name)
  | memberArgument {m : Member} {a : Argument} (inside : m ∈ d.members) (listed : a ∈ m.arguments)
      (leaf : a.type.Leaf name)

theorem Definition.mem_bases {d : Definition} {name : String} :
    name ∈ d.bases ↔ d.parent = some name ∨ d.implements = some name := by
  simp [bases]

theorem Definition.mem_types {d : Definition} {t : TypeExpr} :
    t ∈ d.types ↔ d.type = some t ∨ (∃ a ∈ d.arguments, a.type = t) ∨ (∃ m ∈ d.members, m.type = t)
      ∨ (∃ m ∈ d.members, m.keyType = some t) ∨ ∃ m ∈ d.members, ∃ a ∈ m.arguments, a.type = t := by
  simp [types]

/-- The references of a definition are the names that it mentions. -/
theorem Definition.mem_references {d : Definition} {name : String} : name ∈ d.references ↔ d.Mentions name := by
  rw [references, List.mem_append, mem_bases, TypeExpr.mem_referencesList]
  constructor
  · rintro ((base | base) | ⟨t, among, leaf⟩)
    · exact .parent base
    · exact .implements base
    · rcases mem_types.1 among with own | ⟨a, inside, rfl⟩ | ⟨m, inside, rfl⟩ | ⟨m, inside, key⟩
        | ⟨m, inside, a, listed, rfl⟩
      · exact .type own leaf
      · exact .argument inside leaf
      · exact .member inside leaf
      · exact .key inside key leaf
      · exact .memberArgument inside listed leaf
  · intro mentions
    cases mentions with
    | parent base => exact .inl (.inl base)
    | implements base => exact .inl (.inr base)
    | type own leaf => exact .inr ⟨_, mem_types.2 (.inl own), leaf⟩
    | argument inside leaf => exact .inr ⟨_, mem_types.2 (.inr (.inl ⟨_, inside, rfl⟩)), leaf⟩
    | member inside leaf => exact .inr ⟨_, mem_types.2 (.inr (.inr (.inl ⟨_, inside, rfl⟩))), leaf⟩
    | key inside key leaf => exact .inr ⟨_, mem_types.2 (.inr (.inr (.inr (.inl ⟨_, inside, key⟩)))), leaf⟩
    | memberArgument inside listed leaf =>
      exact .inr ⟨_, mem_types.2 (.inr (.inr (.inr (.inr ⟨_, inside, _, listed, rfl⟩)))), leaf⟩

/-! ## Sorted names -/

theorem mem_insertSorted {s t : String} {texts : List String} :
    t ∈ insertSorted s texts ↔ t = s ∨ t ∈ texts := by
  induction texts with
  | nil => simp [insertSorted]
  | cons first rest ih =>
    rw [insertSorted]
    split_ifs with less equal
    · exact List.mem_cons
    · subst equal
      simp
    · rw [List.mem_cons, ih, List.mem_cons]
      exact or_left_comm

theorem mem_sortedSet {t : String} {texts : List String} : t ∈ sortedSet texts ↔ t ∈ texts := by
  induction texts with
  | nil => simp [sortedSet]
  | cons s texts ih =>
    show t ∈ insertSorted s (sortedSet texts) ↔ t ∈ s :: texts
    rw [mem_insertSorted, ih, List.mem_cons]

namespace Schema

variable {schema : List Definition} {name : String}

theorem declares_iff : declares schema name = true ↔ ∃ e ∈ schema, e.name = name := by
  simp [declares]

theorem isEnum_iff : isEnum schema name = true ↔ ∃ e ∈ schema, e.kind = .enum ∧ e.name = name := by
  simp [isEnum, enumValues?]

end Schema

/-! ## Linked definitions -/

namespace RenderContext

variable {context : RenderContext} {d : Definition} {name : String}

end RenderContext

end IdlBindings
