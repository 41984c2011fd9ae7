/-
# IdlBindings.Proofs.CheckedPositions: where a schema can fail to have words in a target.

A target spells the types and the defaults of a schema.  A type has no spelling if there is a union of
other than two types in it, and a default has none if it is a string, its type is an enumeration, and the
string is not one of its values.  Nothing else can go wrong, so a function that spells is known by the
positions that it looks at: `Checks` says that it fails exactly if one of them is bad.  These lists add up
along the steps of a function.
-/
import IdlBindings.Target.Basic
import Mathlib.Data.List.Nodup

namespace IdlBindings

/-! ## Unions -/

namespace TypeExpr

mutual
/-- How many types the unions in a type have, from the outside in and from left to right. -/
def unionArities : TypeExpr → List Nat
  | named _ => []
  | sequence inner | nullable inner => unionArities inner
  | union members => members.length :: unionAritiesList members
  | generic _ arguments => unionAritiesList arguments
/-- The same for several types. -/
def unionAritiesList : List TypeExpr → List Nat
  | [] => []
  | t :: rest => unionArities t ++ unionAritiesList rest
end

end TypeExpr

/-- The fault of a result that is not there. -/
def fault? {α : Type} : Except MappingFault α → Option MappingFault
  | .ok _ => none
  | .error fault => some fault

section

variable {α β : Type} {x : Except MappingFault α} {f : α → Except MappingFault β}

theorem fault?_bind (later : Option MappingFault) (each : ∀ a, fault? (f a) = later) :
    fault? (x >>= f) = (fault? x).or later := by
  cases x with
  | ok a => exact each a
  | error fault => rfl

theorem fault?_bind_pure (g : α → β) : fault? (x >>= fun a => pure (g a)) = fault? x := by
  rw [fault?_bind none fun _ => rfl, Option.or_none]

end

namespace TypeSpelling

/-- What keeps a type from being spelled: the first union in it that has not two types. -/
def unionFault? (arities : List Nat) : Option MappingFault :=
  (arities.find? (· != 2)).map .unionArity

theorem unionFault?_append (arities arities' : List Nat) :
    unionFault? (arities ++ arities') = (unionFault? arities).or (unionFault? arities') := by
  rw [unionFault?, List.find?_append]
  cases found : arities.find? (· != 2) <;> simp [unionFault?, found]

mutual
theorem fault?_spell (spelling : TypeSpelling) :
    ∀ t : TypeExpr, fault? (spelling.spell t) = unionFault? t.unionArities
  | .named name => by
    rw [spell]
    rfl
  | .nullable inner => by
    rw [spell, fault?_bind_pure, fault?_spell spelling inner, TypeExpr.unionArities]
  | .sequence element => by
    rw [spell, fault?_bind_pure, fault?_spell spelling element, TypeExpr.unionArities]
  | .union [first, second] => by
    rw [spell, fault?_bind _ fun _ => fault?_bind_pure _, fault?_spell spelling first,
      fault?_spell spelling second, ← unionFault?_append]
    simp [TypeExpr.unionArities, TypeExpr.unionAritiesList, unionFault?]
  | .union [] | .union [_] | .union (_ :: _ :: _ :: _) => by
    simp [spell, fault?, throw, throwThe, MonadExceptOf.throw, TypeExpr.unionArities, unionFault?]
  | .generic name arguments => by
    rw [spell, fault?_bind none fun _ => by split <;> rfl, Option.or_none,
      fault?_spellList spelling arguments, TypeExpr.unionArities]
theorem fault?_spellList (spelling : TypeSpelling) :
    ∀ ts : List TypeExpr, fault? (spelling.spellList ts) = unionFault? (TypeExpr.unionAritiesList ts)
  | [] => by
    rw [spellList]
    rfl
  | t :: rest => by
    rw [spellList, fault?_bind _ fun _ => fault?_bind_pure _, fault?_spell spelling t,
      fault?_spellList spelling rest, ← unionFault?_append, TypeExpr.unionAritiesList]
end

end TypeSpelling

/-! ## Positions -/

/-- A position in a schema that a target has to find words for. -/
inductive CheckedPosition where
  | type (type : TypeExpr)
  | default (type : TypeExpr) (value : DefaultValue)

/-- A position without words: a type with a union of other than two types in it, or a string that is not
a value of the enumeration that it is a default of. -/
def CheckedPosition.Bad (schema : List Definition) : CheckedPosition → Prop
  | type t => ∃ arity ∈ t.unionArities, arity ≠ 2
  | default t value => value.kind = .string ∧
    ∃ d ∈ schema, d.kind = .enum ∧ d.name = t.baseName?.getD "" ∧ value.text ∉ d.values

instance (schema : List Definition) (position : CheckedPosition) : Decidable (position.Bad schema) :=
  match position with
  | .type t => inferInstanceAs (Decidable (∃ arity ∈ t.unionArities, arity ≠ 2))
  | .default t value => inferInstanceAs (Decidable (value.kind = .string ∧
    ∃ d ∈ schema, d.kind = .enum ∧ d.name = t.baseName?.getD "" ∧ value.text ∉ d.values))

/-- The type of a value and its default, if it has one. -/
def valuePositions (type : TypeExpr) (value : Option DefaultValue) : List CheckedPosition :=
  .type type :: (value.map (.default type)).toList

/-- The positions of arguments. -/
def argumentPositions (arguments : List Argument) : List CheckedPosition :=
  arguments.flatMap fun argument => valuePositions argument.type argument.defaultValue

/-- The positions of a member of an interface.  Only a constant has a value. -/
def Member.positions (member : Member) : List CheckedPosition :=
  match member.kind with
  | .const => valuePositions member.type member.defaultValue
  | _ => .type member.type :: (member.keyType.map .type).toList ++ argumentPositions member.arguments

/-- The positions of a definition that are checked. -/
def Definition.positions (definition : Definition) : List CheckedPosition :=
  match definition.kind with
  | .enum => []
  | .typedef => (definition.type.map .type).toList
  | .callback => (definition.type.map .type).toList ++ argumentPositions definition.arguments
  | .dictionary => definition.members.flatMap fun member => valuePositions member.type member.defaultValue
  | .interface | .callbackInterface => definition.members.flatMap Member.positions

/-! ## Results that depend on positions -/

/-- One of the positions is bad. -/
def AnyBad (schema : List Definition) (positions : List CheckedPosition) : Prop :=
  ∃ position ∈ positions, position.Bad schema

section

variable {α β : Type} {schema : List Definition} {positions positions' : List CheckedPosition}
  {x : Except MappingFault α}

@[simp] theorem anyBad_nil : ¬ AnyBad schema [] := by simp [AnyBad]

@[simp] theorem anyBad_cons (position : CheckedPosition) (positions : List CheckedPosition) :
    AnyBad schema (position :: positions) ↔ position.Bad schema ∨ AnyBad schema positions := by
  simp [AnyBad]

@[simp] theorem anyBad_append (positions positions' : List CheckedPosition) :
    AnyBad schema (positions ++ positions') ↔ AnyBad schema positions ∨ AnyBad schema positions' := by
  simp [AnyBad, or_and_right, exists_or]

@[simp] theorem anyBad_flatMap (of : α → List CheckedPosition) (as : List α) :
    AnyBad schema (as.flatMap of) ↔ ∃ a ∈ as, AnyBad schema (of a) := by
  induction as with
  | nil => simp
  | cons a as ih => simp [ih]

/-- A result is there if no position is bad.  If one is, the result is a fault, and not one of the files. -/
def Checks (schema : List Definition) (positions : List CheckedPosition) : Except MappingFault α → Prop
  | .ok _ => ¬ AnyBad schema positions
  | .error fault => AnyBad schema positions ∧ ∀ path, fault ≠ .outputCollision path

theorem Checks.pure (a : α) : Checks schema [] (Pure.pure a : Except MappingFault α) :=
  anyBad_nil

theorem Checks.bind {f : α → Except MappingFault β} (first : Checks schema positions x)
    (later : ∀ a, Checks schema positions' (f a)) : Checks schema (positions ++ positions') (x >>= f) := by
  cases x with
  | error fault => exact ⟨(anyBad_append ..).2 (.inl first.1), first.2⟩
  | ok a =>
    have behind := later a
    show Checks schema _ (f a)
    cases result : f a with
    | ok b =>
      rw [result] at behind
      rw [Checks, anyBad_append]
      exact not_or.2 ⟨first, behind⟩
    | error fault =>
      rw [result] at behind
      exact ⟨(anyBad_append ..).2 (.inr behind.1), behind.2⟩

/-- What cannot fail adds no positions. -/
theorem Checks.followed {f : α → Except MappingFault β} (first : Checks schema positions x)
    (later : ∀ a, Checks schema [] (f a)) : Checks schema positions (x >>= f) := by
  simpa using first.bind later

theorem Checks.map (g : α → β) (first : Checks schema positions x) :
    Checks schema positions (x >>= fun a => Pure.pure (g a)) :=
  first.followed fun a => Checks.pure (g a)

/-- It only matters whether there is a bad position. -/
theorem Checks.congr (same : AnyBad schema positions ↔ AnyBad schema positions')
    (checks : Checks schema positions x) : Checks schema positions' x := by
  cases x with
  | ok a => exact fun bad => checks (same.2 bad)
  | error fault => exact ⟨same.1 checks.1, checks.2⟩

theorem Checks.mapM {f : α → Except MappingFault β} {of : α → List CheckedPosition} {as : List α}
    (each : ∀ a ∈ as, Checks schema (of a) (f a)) : Checks schema (as.flatMap of) (as.mapM f) := by
  induction as with
  | nil => exact Checks.pure []
  | cons a as ih =>
    rw [List.forall_mem_cons] at each
    rw [List.mapM_cons, List.flatMap_cons]
    exact each.1.bind fun b => (ih each.2).map (b :: ·)

end

/-! ## Types and defaults -/

section

variable {schema : List Definition}

theorem checks_spell (spelling : TypeSpelling) (t : TypeExpr) :
    Checks schema [.type t] (spelling.spell t) := by
  have reason := TypeSpelling.fault?_spell spelling t
  cases spelled : spelling.spell t with
  | ok text =>
    rw [spelled, fault?, TypeSpelling.unionFault?, eq_comm, Option.map_eq_none_iff] at reason
    simpa [Checks, CheckedPosition.Bad] using reason
  | error fault =>
    rw [spelled, fault?, TypeSpelling.unionFault?, eq_comm, Option.map_eq_some_iff] at reason
    obtain ⟨arity, found, rfl⟩ := reason
    have odd : arity ≠ 2 := by simpa using List.find?_some found
    have bad : CheckedPosition.Bad schema (.type t) := ⟨arity, List.mem_of_find?_eq_some found, odd⟩
    exact ⟨by simpa using bad, by simp⟩

theorem checks_spellOptional (spelling : TypeSpelling) (t : TypeExpr) (required : Bool) :
    Checks schema [.type t] (spelling.spellOptional t required) :=
  (checks_spell spelling t).map _

theorem Schema.enumValues?_eq_some (distinct : (schema.map (·.name)).Nodup) {name : String}
    {values : List String} : Schema.enumValues? schema name = some values ↔
      ∃ d ∈ schema, d.kind = .enum ∧ d.name = name ∧ d.values = values := by
  rw [enumValues?, Option.map_eq_some_iff]
  constructor
  · rintro ⟨d, found, rfl⟩
    have listed := List.mem_reverse.1 (List.mem_of_find?_eq_some found)
    obtain ⟨kind, called⟩ : d.kind = .enum ∧ d.name = name := by simpa using List.find?_some found
    exact ⟨d, listed, kind, called, rfl⟩
  · rintro ⟨d, listed, kind, rfl, rfl⟩
    -- No other definition has this name, so it is the one that is found.
    obtain ⟨d', found⟩ : ∃ d',
        schema.reverse.find? (fun d' => d'.kind == .enum && d'.name == d.name) = some d' := by
      rw [← Option.isSome_iff_exists, List.find?_isSome]
      exact ⟨d, List.mem_reverse.2 listed, by simp [kind]⟩
    obtain ⟨-, called⟩ : d'.kind = .enum ∧ d'.name = d.name := by simpa using List.find?_some found
    have listed' := List.mem_reverse.1 (List.mem_of_find?_eq_some found)
    exact ⟨d', found, by rw [List.inj_on_of_nodup_map distinct listed' listed called]⟩

variable (distinct : (schema.map (·.name)).Nodup)
include distinct

theorem checks_ofDefault {literals : Literals} (known : literals.schema = schema) (t : TypeExpr)
    (value : DefaultValue) : Checks schema [.default t value] (literals.ofDefault t value) := by
  unfold Literals.ofDefault
  cases kind : value.kind with
  | number | boolean | null | sequence | dictionary =>
    simp [Checks, CheckedPosition.Bad, kind, Literals.ofKind, pure, Except.pure]
  | string =>
    simp only [Schema.isEnum, Literals.enumValue, known]
    cases listed : Schema.enumValues? schema (t.baseName?.getD "") with
    | none =>
      have undeclared : ¬ CheckedPosition.Bad schema (.default t value) := by
        rintro ⟨-, d, inside, isEnum, called, -⟩
        have found := (Schema.enumValues?_eq_some distinct).2 ⟨d, inside, isEnum, called, rfl⟩
        rw [listed] at found
        cases found
      simpa [Checks, pure, Except.pure] using undeclared
    | some values =>
      obtain ⟨d, inside, isEnum, called, rfl⟩ := (Schema.enumValues?_eq_some distinct).1 listed
      have bad : CheckedPosition.Bad schema (.default t value) ↔ value.text ∉ d.values := by
        constructor
        · rintro ⟨-, d', inside', -, called', missing⟩
          rwa [List.inj_on_of_nodup_map distinct inside' inside (called'.trans called.symm)] at missing
        · exact fun missing => ⟨kind, d, inside, isEnum, called, missing⟩
      by_cases valid : value.text ∈ d.values
      · have fine : ¬ CheckedPosition.Bad schema (.default t value) := by simpa [bad] using valid
        simp only [Option.isSome_some, if_true, List.contains_iff_mem.2 valid]
        split <;> simpa [Checks, pure, Except.pure] using fine
      · have wrong : CheckedPosition.Bad schema (.default t value) := bad.2 valid
        simpa [valid, Checks, throw, throwThe, MonadExceptOf.throw] using wrong

theorem checks_ofOption {literals : Literals} (known : literals.schema = schema) (t : TypeExpr)
    (value : Option DefaultValue) :
    Checks schema (value.map (.default t)).toList (literals.ofOption t value) := by
  cases value with
  | none => exact Checks.pure none
  | some value => exact (checks_ofDefault distinct known t value).map _

end

/-! ## Arguments and members -/

namespace RenderContext

variable {context : RenderContext}

theorem checks_parameterType (context : RenderContext) (argument : Argument) :
    Checks context.schema [.type argument.type] (context.parameterType argument) := by
  unfold parameterType
  split
  · -- A sequence of a type has the unions of that type.
    refine (checks_spell context.types (.sequence argument.type)).congr ?_
    simp [CheckedPosition.Bad, TypeExpr.unionArities]
  · exact checks_spellOptional ..

theorem checks_typeOr (context : RenderContext) (word : String) (definition : Definition) :
    Checks context.schema (definition.type.map .type).toList (context.typeOr word definition) := by
  unfold typeOr
  cases definition.type with
  | none => exact Checks.pure word
  | some type => exact checks_spell context.types type

variable (distinct : (context.schema.map (·.name)).Nodup)
include distinct

theorem checks_memberDefault (member : Member) :
    Checks context.schema (member.defaultValue.map (.default member.type)).toList
      (context.memberDefault member) :=
  checks_ofOption distinct rfl member.type member.defaultValue

theorem checks_argumentDefault (argument : Argument) :
    Checks context.schema (argument.defaultValue.map (.default argument.type)).toList
      (context.argumentDefault argument) :=
  checks_ofOption distinct rfl argument.type argument.defaultValue

theorem checks_parameter (argument : Argument) :
    Checks context.schema (valuePositions argument.type argument.defaultValue) (context.parameter argument) := by
  refine Checks.congr ?_ ((checks_argumentDefault distinct argument).bind fun _ =>
    (checks_parameterType context argument).map _)
  simp [valuePositions, or_comm]

theorem checks_parameters (arguments : List Argument) :
    Checks context.schema (argumentPositions arguments) (context.parameters arguments) :=
  Checks.mapM fun argument _ => checks_parameter distinct argument

omit distinct in
theorem checks_checkMember (member : Member) {check : List Argument → Except MappingFault Unit}
    (checks : Checks context.schema (argumentPositions member.arguments) (check member.arguments)) :
    Checks context.schema
      (.type member.type :: (member.keyType.map .type).toList ++ argumentPositions member.arguments)
      (context.checkMember member check) := by
  unfold checkMember
  refine (checks_spell context.types member.type).bind fun _ => ?_
  cases member.keyType with
  | none => exact checks
  | some key => exact (checks_spell context.types key).bind fun _ => checks

end RenderContext

end IdlBindings
