/-
# IdlBindings.Proofs.UnionArity: which types have a spelling, and what is said of the others.

A type has a spelling exactly if every union that occurs in it has two types, at any depth.  If not, the
fault is the number of types of the first union that is not so: of all the types that occur in the type, a
type before its parts and the parts from left to right.  Nothing of this depends on the table, so all
targets spell the same types and refuse the others with the same fault.
-/
import IdlBindings.Proofs.CheckedPositions
import IdlBindings.Proofs.KindInvariants

namespace IdlBindings

/-! ## The types in a type -/

namespace TypeExpr

/-- The types that a type is put together from, from left to right. -/
def components : TypeExpr → List TypeExpr
  | named _ => []
  | sequence inner | nullable inner => [inner]
  | union ts | generic _ ts => ts

/-- A type occurs in itself, and in what has a component that it occurs in. -/
inductive Occurs (t : TypeExpr) : TypeExpr → Prop
  | here : Occurs t t
  | inside {component whole : TypeExpr} (listed : component ∈ whole.components)
      (deeper : Occurs t component) : Occurs t whole

theorem partsList_eq (ts : List TypeExpr) : partsList ts = ts.flatMap parts := by
  induction ts with
  | nil => rw [partsList, List.flatMap_nil]
  | cons t ts ih => rw [partsList, List.flatMap_cons, ih]

/-- A type is listed before its components, and these are listed from left to right. -/
theorem parts_eq (t : TypeExpr) : t.parts = t :: t.components.flatMap parts := by
  cases t <;> simp [parts, components, partsList_eq]

mutual
theorem occurs_of_mem_parts {t : TypeExpr} : ∀ {whole : TypeExpr}, t ∈ whole.parts → Occurs t whole
  | named name, inside => by
    obtain rfl : t = named name := by simpa [parts] using inside
    exact .here
  | sequence inner, inside | nullable inner, inside => by
    rw [parts, List.mem_cons] at inside
    rcases inside with rfl | inside
    · exact .here
    · exact .inside (List.mem_singleton_self inner) (occurs_of_mem_parts inside)
  | union ts, inside | generic _ ts, inside => by
    rw [parts, List.mem_cons] at inside
    rcases inside with rfl | inside
    · exact .here
    · obtain ⟨component, listed, deeper⟩ := occurs_of_mem_partsList inside
      exact .inside listed deeper
theorem occurs_of_mem_partsList {t : TypeExpr} :
    ∀ {ts : List TypeExpr}, t ∈ partsList ts → ∃ component ∈ ts, Occurs t component
  | [], inside => by simp [partsList] at inside
  | first :: rest, inside => by
    rw [partsList, List.mem_append] at inside
    rcases inside with inside | inside
    · exact ⟨first, List.mem_cons_self .., occurs_of_mem_parts inside⟩
    · obtain ⟨component, listed, deeper⟩ := occurs_of_mem_partsList inside
      exact ⟨component, List.mem_cons_of_mem first listed, deeper⟩
end

theorem mem_parts {t whole : TypeExpr} : t ∈ whole.parts ↔ Occurs t whole := by
  refine ⟨occurs_of_mem_parts, fun occurs => ?_⟩
  induction occurs with
  | here =>
    rw [parts_eq]
    exact List.mem_cons_self ..
  | inside listed _ ih =>
    rw [parts_eq]
    exact List.mem_cons_of_mem _ (List.mem_flatMap.2 ⟨_, listed, ih⟩)

/-- Every union that occurs in the type has two types. -/
def IsBinary (t : TypeExpr) : Prop :=
  ∀ members, Occurs (union members) t → members.length = 2

theorem IsBinary.component {t component : TypeExpr} (binary : t.IsBinary) (listed : component ∈ t.components) :
    component.IsBinary :=
  fun members occurs => binary members (.inside listed occurs)

/-! ## Unions among them -/

/-- The number of types of a union. -/
def arity? : TypeExpr → Option Nat
  | union members => some members.length
  | _ => none

mutual
theorem unionArities_eq : ∀ t : TypeExpr, t.unionArities = t.parts.filterMap arity?
  | union members => by
    have counted : arity? (union members) = some members.length := rfl
    rw [unionArities, parts, List.filterMap_cons_some counted, unionAritiesList_eq members]
  | named _ => by
    rw [unionArities, parts]
    rfl
  | sequence inner | nullable inner => by
    rw [unionArities, parts, List.filterMap_cons_none rfl, unionArities_eq inner]
  | generic _ arguments => by
    rw [unionArities, parts, List.filterMap_cons_none rfl, unionAritiesList_eq arguments]
theorem unionAritiesList_eq : ∀ ts : List TypeExpr, unionAritiesList ts = (partsList ts).filterMap arity?
  | [] => by simp [unionAritiesList, partsList]
  | t :: rest => by
    rw [unionAritiesList, partsList, List.filterMap_append, unionArities_eq t, unionAritiesList_eq rest]
end

theorem mem_unionArities {t : TypeExpr} {arity : Nat} :
    arity ∈ t.unionArities ↔ ∃ members, Occurs (union members) t ∧ members.length = arity := by
  rw [unionArities_eq, List.mem_filterMap]
  constructor
  · rintro ⟨part, inside, counted⟩
    cases part with
    | union members => exact ⟨members, mem_parts.1 inside, Option.some.inj counted⟩
    | _ => cases counted
  · rintro ⟨members, occurs, rfl⟩
    exact ⟨union members, mem_parts.2 occurs, rfl⟩

theorem isBinary_iff {t : TypeExpr} : t.IsBinary ↔ ∀ arity ∈ t.unionArities, arity = 2 := by
  constructor
  · intro binary arity counted
    obtain ⟨members, occurs, rfl⟩ := mem_unionArities.1 counted
    exact binary members occurs
  · exact fun all members occurs => all _ (mem_unionArities.2 ⟨members, occurs, rfl⟩)

instance (t : TypeExpr) : Decidable t.IsBinary :=
  decidable_of_iff _ isBinary_iff.symm

/-- A union that is not of two types, where all unions before it are. -/
def FirstOddUnion (t : TypeExpr) (members : List TypeExpr) : Prop :=
  members.length ≠ 2 ∧ ∃ before behind, t.parts = before ++ union members :: behind
    ∧ ∀ others, union others ∈ before → others.length = 2

end TypeExpr

/-! ## Spelling -/

section

variable {α : Type} {x : Except MappingFault α}

theorem fault?_eq_none : fault? x = none ↔ ∃ a, x = .ok a := by
  cases x <;> simp [fault?]

theorem fault?_eq_some {fault : MappingFault} : fault? x = some fault ↔ x = .error fault := by
  cases x <;> simp [fault?]

end

namespace TypeSpelling

open TypeExpr (arity? isBinary_iff unionArities_eq)

theorem unionFault?_eq_none {t : TypeExpr} : unionFault? t.unionArities = none ↔ t.IsBinary := by
  simp [unionFault?, isBinary_iff]

theorem unionFault?_eq_some {t : TypeExpr} {fault : MappingFault} :
    unionFault? t.unionArities = some fault
      ↔ ∃ members, t.FirstOddUnion members ∧ fault = .unionArity members.length := by
  -- What is found among the arities is the arity of what is found among the parts.
  rw [unionFault?, unionArities_eq, List.find?_filterMap, Option.map_eq_some_iff]
  simp only [Option.bind_eq_some_iff, List.find?_eq_some_iff_append]
  constructor
  · rintro ⟨arity, ⟨part, ⟨odd, before, behind, split, earlier⟩, counted⟩, rfl⟩
    cases part with
    | union members =>
      obtain rfl : members.length = arity := Option.some.inj counted
      refine ⟨members, ⟨by simpa [arity?] using odd, before, behind, split, ?_⟩, rfl⟩
      intro others inside
      simpa [arity?] using earlier _ inside
    | _ => cases counted
  · rintro ⟨members, ⟨odd, before, behind, split, earlier⟩, rfl⟩
    have counted : (arity? (.union members)).any (· != 2) = true := by simpa [arity?] using odd
    refine ⟨members.length, ⟨.union members, ⟨counted, before, behind, split, ?_⟩, rfl⟩, rfl⟩
    intro part inside
    cases part with
    | union others => simp [arity?, earlier others inside]
    | _ => rfl

theorem fault?_spellOptional (spelling : TypeSpelling) (t : TypeExpr) (required : Bool) :
    fault? (spelling.spellOptional t required) = unionFault? t.unionArities := by
  rw [spellOptional, fault?_bind_pure, fault?_spell]

/-- A type has a spelling exactly if all unions in it are of two types.  If not, the fault is the number of
types of the first union that is not.  Any two tables spell the same types and give the same faults, also for
a value that may be left out. -/
theorem spell_union_arity (spelling : TypeSpelling) (t : TypeExpr) :
    ((∃ text, spelling.spell t = .ok text) ↔ t.IsBinary)
      ∧ (∀ fault, spelling.spell t = .error fault
          ↔ ∃ members, t.FirstOddUnion members ∧ fault = .unionArity members.length)
      ∧ ∀ (other : TypeSpelling) (required : Bool),
          ((∃ text, spelling.spellOptional t required = .ok text)
              ↔ ∃ text, other.spellOptional t required = .ok text)
            ∧ ∀ fault, spelling.spellOptional t required = .error fault
              ↔ other.spellOptional t required = .error fault := by
  refine ⟨?_, fun fault => ?_, fun other required => ⟨?_, fun fault => ?_⟩⟩
  · rw [← fault?_eq_none, fault?_spell, unionFault?_eq_none]
  · rw [← fault?_eq_some, fault?_spell, unionFault?_eq_some]
  · rw [← fault?_eq_none, ← fault?_eq_none, fault?_spellOptional, fault?_spellOptional]
  · rw [← fault?_eq_some, ← fault?_eq_some, fault?_spellOptional, fault?_spellOptional]

/-- The outer union comes first, so the one inside it is not reported. -/
example : cpp.spell (.sequence (.union [.union [.named "A"], .named "B", .named "C"]))
    = .error (.unionArity 3) := rfl

end TypeSpelling

end IdlBindings
