/-
# IdlBindings.Proofs.TargetAgreement: three targets that accept the same schemas.

C++, Flow and JavaScript walk through a schema each in a way of its own: in another order, with other
members written out and others only looked at.  Still all three look at the same positions, wherever the
members hold no more than their kinds declare.  So they accept the same schemas, and what they refuse has a
bad position in it.
-/
import Mathlib
import IdlBindings.Proofs.CheckedPositions
import IdlBindings.Proofs.DeclaredMembers
import IdlBindings.Target.Render

namespace IdlBindings

variable {context : RenderContext}

/-- The types of members. -/
def memberTypes (members : List Member) : List CheckedPosition :=
  members.flatMap fun member => [.type member.type]

/-- The types and defaults of members. -/
def memberValues (members : List Member) : List CheckedPosition :=
  members.flatMap fun member => valuePositions member.type member.defaultValue

/-! ## The positions of each kind of member -/

namespace Member

variable {schema : List Definition} {member : Member}

theorem positions_const (kind : member.kind = .const) :
    member.positions = valuePositions member.type member.defaultValue := by
  rw [positions, kind]

theorem positions_of_ne (other : member.kind ≠ .const) :
    member.positions
      = .type member.type :: (member.keyType.map .type).toList ++ argumentPositions member.arguments := by
  unfold positions
  split
  · contradiction
  · rfl

theorem Declared.positions_property (declared : member.Declared) (kind : member.kind = .property) :
    member.positions = [.type member.type] ∧ member.defaultValue = none := by
  unfold Declared at declared
  rw [kind] at declared
  obtain ⟨keyless, argumentless, valueless⟩ := declared
  rw [positions_of_ne (by simp [kind]), keyless, argumentless]
  exact ⟨rfl, valueless⟩

/-- An attribute is checked like a constant, since it has no value. -/
theorem Declared.positions_value (declared : member.Declared)
    (kind : member.kind = .property ∨ member.kind = .const) :
    member.positions = valuePositions member.type member.defaultValue := by
  rcases kind with kind | kind
  · obtain ⟨alone, valueless⟩ := declared.positions_property kind
    rw [alone, valueless]
    rfl
  · exact positions_const kind

theorem Declared.positions_operation (declared : member.Declared) (kind : member.kind = .operation) :
    member.positions = .type member.type :: argumentPositions member.arguments := by
  unfold Declared at declared
  rw [kind] at declared
  rw [positions_of_ne (by simp [kind]), declared]
  rfl

/-- The type of a constructor is a name, so it cannot be bad. -/
theorem Declared.anyBad_constructor (declared : member.Declared) (kind : member.kind = .constructor) :
    AnyBad schema (argumentPositions member.arguments) ↔ AnyBad schema member.positions := by
  unfold Declared at declared
  rw [kind] at declared
  obtain ⟨keyless, name, typed⟩ := declared
  rw [positions_of_ne (by simp [kind]), keyless, typed]
  simp [CheckedPosition.Bad, TypeExpr.unionArities]

theorem Declared.not_anyBad_stringifier (declared : member.Declared) (kind : member.kind = .stringifier) :
    ¬ AnyBad schema member.positions := by
  unfold Declared at declared
  rw [kind] at declared
  obtain ⟨keyless, argumentless, name, typed⟩ := declared
  rw [positions_of_ne (by simp [kind]), keyless, argumentless, typed]
  simp [CheckedPosition.Bad, TypeExpr.unionArities, argumentPositions]

end Member

theorem checks_unwritten {member : Member} (other : member.kind ≠ .const)
    {check : List Argument → Except MappingFault Unit}
    (checks : Checks context.schema (argumentPositions member.arguments) (check member.arguments))
    {α : Type} (a : α) :
    Checks context.schema member.positions (do
      context.checkMember member check
      pure a) := by
  rw [Member.positions_of_ne other]
  exact (context.checks_checkMember member checks).map _

/-- Some targets look at the default of a member before its type. -/
theorem checks_default_first (distinct : (context.schema.map (·.name)).Nodup) (member : Member)
    {type : Except MappingFault String} (typed : Checks context.schema [.type member.type] type)
    {α : Type} (write : Option String → String → α) :
    Checks context.schema (valuePositions member.type member.defaultValue) (do
      let value ← context.memberDefault member
      let type ← type
      pure (write value type)) := by
  refine Checks.congr ?_ ((context.checks_memberDefault distinct member).bind fun value =>
    typed.map (write value))
  simp [valuePositions, or_comm]

/-! ## C++ -/

namespace Cpp

theorem checks_storedType (context : RenderContext) (member : Member) :
    Checks context.schema [.type member.type] (storedType context member) := by
  unfold storedType
  split
  · exact checks_spell ..
  · exact checks_spellOptional ..

theorem checks_constructorParameters (context : RenderContext) (definition : Definition) :
    Checks context.schema (memberTypes definition.members) (constructorParameters context definition) :=
  (Checks.mapM fun member _ => (checks_spellOptional context.types member.type member.required).map _).map _

theorem checks_dictionaryClass (context : RenderContext) (definition : Definition) :
    Checks context.schema (memberTypes definition.members) (dictionaryClass context definition) := by
  refine Checks.congr ?_ ((checks_constructorParameters context definition).bind fun _ =>
    (Checks.mapM fun member _ => (checks_storedType context member).map _).map _)
  simp [memberTypes]

section

variable (distinct : (context.schema.map (·.name)).Nodup)
include distinct

theorem checks_initializer (member : Member) :
    Checks context.schema (member.defaultValue.map (.default member.type)).toList
      (initializer context member) := by
  refine (context.checks_memberDefault distinct member).followed fun value => ?_
  cases value with
  | none => exact Checks.pure _
  | some literal =>
    dsimp only
    split <;> exact Checks.pure _

theorem checks_dictionaryFunctions (definition : Definition) :
    Checks context.schema (memberValues definition.members) (dictionaryFunctions context definition) := by
  refine Checks.congr ?_ ((checks_constructorParameters context definition).bind fun _ =>
    (Checks.mapM fun member _ => (checks_initializer distinct member).map _).bind fun _ =>
      (Checks.mapM fun member _ => (checks_storedType context member).map _).map _)
  simp only [memberTypes, memberValues, valuePositions, anyBad_append, anyBad_flatMap, anyBad_cons,
    anyBad_nil, or_false]
  grind

theorem checks_declaredParameters (arguments : List Argument) :
    Checks context.schema (argumentPositions arguments) (declaredParameters context arguments) :=
  (context.checks_parameters distinct arguments).map _

theorem checks_memberLines (definition : Definition) {member : Member} (declared : member.Declared) :
    Checks context.schema member.positions (memberLines context definition member) := by
  unfold memberLines
  cases kind : member.kind with
  | const =>
    rw [Member.positions_const kind]
    exact checks_default_first distinct member (checks_spell context.types member.type) _
  | property =>
    rw [(declared.positions_property kind).1]
    exact (checks_spellOptional context.types member.type member.required).map _
  | operation =>
    cases named : member.name.isEmpty with
    | true => exact checks_unwritten (by simp [kind]) ((context.checks_parameters distinct _).map _) _
    | false =>
      rw [declared.positions_operation kind]
      refine (checks_spell context.types member.type).bind fun returned =>
        (checks_declaredParameters distinct member.arguments).followed fun parameters => ?_
      split <;> exact Checks.pure _
  | constructor =>
    exact ((checks_declaredParameters distinct member.arguments).map _).congr (declared.anyBad_constructor kind)
  | field | iterable | maplike | setlike | stringifier =>
    exact checks_unwritten (by simp [kind]) ((context.checks_parameters distinct _).map _) _

theorem checks_interfaceClass {definition : Definition} (declared : definition.Declared) :
    Checks context.schema (definition.members.flatMap Member.positions) (interfaceClass context definition) :=
  (Checks.mapM fun member inside => checks_memberLines distinct definition (declared member inside)).map _

/-- The header is checked for everything but the defaults of dictionaries. -/
theorem checks_declaration {definition : Definition} (declared : definition.Declared)
    (other : definition.kind ≠ .dictionary) :
    Checks context.schema definition.positions (declaration context definition) := by
  unfold declaration Definition.positions
  cases kind : definition.kind with
  | enum => exact Checks.pure _
  | typedef => exact (context.checks_typeOr "void" definition).map _
  | callback =>
    exact (context.checks_typeOr "void" definition).bind fun returned =>
      (context.checks_parameters distinct definition.arguments).map _
  | dictionary => contradiction
  | interface | callbackInterface => exact checks_interfaceClass distinct declared

theorem checks_definitionFiles {definition : Definition} (declared : definition.Declared) :
    Checks context.schema definition.positions (definitionFiles context definition) := by
  unfold definitionFiles header source
  by_cases dictionary : definition.kind = .dictionary
  · -- The types are checked in the header, and again in the source file together with the defaults.
    simp only [declaration, dictionary, if_true]
    refine Checks.congr ?_ (((checks_dictionaryClass context definition).map _).bind fun _ =>
      ((checks_dictionaryFunctions distinct definition).map _).map _)
    simp only [Definition.positions, dictionary, memberTypes, memberValues, valuePositions, anyBad_append,
      anyBad_flatMap, anyBad_cons, anyBad_nil, or_false]
    grind
  · simp only [dictionary, if_false]
    exact ((checks_declaration distinct declared dictionary).map _).followed fun _ =>
      ((Checks.pure _).map _).map _

theorem checks_files (declared : ∀ d ∈ context.schema, d.Declared) :
    Checks context.schema (context.schema.flatMap Definition.positions) (files context) :=
  (Checks.mapM fun d inside => checks_definitionFiles distinct (declared d inside)).map _

end

end Cpp

/-! ## Flow -/

namespace Flow

variable (distinct : (context.schema.map (·.name)).Nodup)
include distinct

theorem checks_parameterList (arguments : List Argument) :
    Checks context.schema (argumentPositions arguments) (parameterList context arguments) :=
  (Checks.mapM fun argument _ => (context.checks_parameter distinct argument).map _).map _

theorem checks_fieldLine (member : Member) :
    Checks context.schema (valuePositions member.type member.defaultValue) (fieldLine context member) :=
  checks_default_first distinct member (checks_spellOptional context.types member.type member.required) _

theorem checks_memberLine {member : Member} (declared : member.Declared) :
    Checks context.schema member.positions (memberLine context member) := by
  unfold memberLine
  cases kind : member.kind with
  | property | const =>
    rw [declared.positions_value (by simp [kind])]
    exact checks_default_first distinct member
      (checks_spellOptional context.types member.type member.required) fun _ type => _
  | operation =>
    cases named : member.name.isEmpty with
    | true => exact checks_unwritten (by simp [kind]) ((context.checks_parameters distinct _).map _) _
    | false =>
      rw [declared.positions_operation kind]
      refine Checks.congr ?_ ((checks_parameterList distinct member.arguments).bind fun parameters =>
        (checks_spell context.types member.type).map _)
      simp [or_comm]
  | constructor =>
    exact ((checks_parameterList distinct member.arguments).map _).congr (declared.anyBad_constructor kind)
  | stringifier =>
    refine Checks.congr ?_ (Checks.pure _)
    simp [declared.not_anyBad_stringifier kind]
  | field | iterable | maplike | setlike =>
    exact checks_unwritten (by simp [kind]) ((context.checks_parameters distinct _).map _) _

theorem checks_declaration {definition : Definition} (declared : definition.Declared) :
    Checks context.schema definition.positions (declaration context definition) := by
  unfold declaration Definition.positions
  cases kind : definition.kind with
  | enum => exact Checks.pure _
  | typedef => exact (context.checks_typeOr "mixed" definition).map _
  | callback =>
    exact (context.checks_typeOr "void" definition).bind fun returned =>
      (checks_parameterList distinct definition.arguments).map _
  | dictionary => exact (Checks.mapM fun member _ => checks_fieldLine distinct member).map _
  | interface | callbackInterface =>
    exact (Checks.mapM fun member inside => checks_memberLine distinct (declared member inside)).map _

theorem checks_files (declared : ∀ d ∈ context.schema, d.Declared) :
    Checks context.schema (context.schema.flatMap Definition.positions) (files context) :=
  Checks.mapM fun d inside => ((checks_declaration distinct (declared d inside)).map _).map _

end Flow

/-! ## JavaScript -/

namespace JavaScript

variable (distinct : (context.schema.map (·.name)).Nodup)
include distinct

theorem checks_argumentType (argument : Argument) :
    Checks context.schema (valuePositions argument.type argument.defaultValue)
      (argumentType context argument) := by
  refine Checks.congr ?_ ((context.checks_argumentDefault distinct argument).bind fun _ =>
    checks_spellOptional context.types argument.type (!argument.optional))
  simp [valuePositions, or_comm]

theorem checks_functionType (arguments : List Argument) (returned : String) :
    Checks context.schema (argumentPositions arguments) (functionType context arguments returned) :=
  (Checks.mapM fun argument _ => (checks_argumentType distinct argument).map _).map _

theorem checks_callbackLines (definition : Definition) :
    Checks context.schema ((definition.type.map .type).toList ++ argumentPositions definition.arguments)
      (callbackLines context definition) := by
  unfold callbackLines
  refine Checks.congr ?_
    ((Checks.mapM fun argument _ => (checks_argumentType distinct argument).map _).bind fun parameters =>
      (?_ : Checks context.schema (definition.type.map CheckedPosition.type).toList _))
  · simp [argumentPositions, or_comm]
  · cases definition.type with
    | none => exact Checks.pure _
    | some type => exact (checks_spell context.types type).map _

theorem checks_propertyLine (member : Member) :
    Checks context.schema (valuePositions member.type member.defaultValue) (propertyLine context member) :=
  (checks_spellOptional context.types member.type member.required).bind fun _ =>
    (context.checks_memberDefault distinct member).map _

theorem checks_memberLines {member : Member} (declared : member.Declared) :
    Checks context.schema member.positions (memberLines context member) := by
  unfold memberLines
  cases kind : member.kind with
  | property | const =>
    rw [declared.positions_value (by simp [kind])]
    exact (checks_propertyLine distinct member).map _
  | operation =>
    cases named : member.name.isEmpty with
    | true => exact checks_unwritten (by simp [kind]) ((checks_functionType distinct _ "void").map _) _
    | false =>
      rw [declared.positions_operation kind]
      exact (checks_spell context.types member.type).bind fun returned =>
        (checks_functionType distinct member.arguments returned).map _
  | field | constructor | iterable | maplike | setlike | stringifier =>
    exact checks_unwritten (by simp [kind]) ((checks_functionType distinct _ "void").map _) _

theorem checks_block {definition : Definition} (declared : definition.Declared) :
    Checks context.schema definition.positions (block context definition) := by
  unfold block Definition.positions
  cases kind : definition.kind with
  | enum => exact Checks.pure _
  | typedef => exact (context.checks_typeOr "*" definition).map _
  | callback => exact (checks_callbackLines distinct definition).map _
  | dictionary => exact (Checks.mapM fun member _ => checks_propertyLine distinct member).map _
  | interface | callbackInterface =>
    exact (Checks.mapM fun member inside => checks_memberLines distinct (declared member inside)).map _

theorem checks_files (declared : ∀ d ∈ context.schema, d.Declared) :
    Checks context.schema (context.schema.flatMap Definition.positions) (files context) :=
  ((Checks.mapM fun d inside => (checks_block distinct (declared d inside)).map _).map _).map _

end JavaScript

/-! ## The three targets -/

/-- A rendering is refused: it fails, and not because two definitions want the same file. -/
def Target.Refuses (target : Target) (schema : List Definition) (options : RenderOptions) : Prop :=
  ∃ fault, target.render schema options = .error fault ∧ ∀ path, fault ≠ .outputCollision path

theorem Target.refuses_iff_of_checks {target : Target} {schema : List Definition} {options : RenderOptions}
    {positions : List CheckedPosition} (checks : Checks schema positions (target.candidates schema options)) :
    target.Refuses schema options ↔ AnyBad schema positions := by
  unfold Refuses render
  cases made : target.candidates schema options with
  | error fault =>
    rw [made] at checks
    exact ⟨fun _ => checks.1, fun _ => ⟨fault, rfl, checks.2⟩⟩
  | ok files =>
    rw [made] at checks
    refine ⟨?_, fun bad => absurd bad checks⟩
    rintro ⟨fault, refused, apart⟩
    simp only [bind, Except.bind] at refused
    split at refused
    next path found =>
      cases refused
      exact absurd rfl (apart path)
    next => cases refused

theorem Target.checks_candidates {schema : List Definition} (distinct : (schema.map (·.name)).Nodup)
    (declared : ∀ d ∈ schema, d.Declared) (options : RenderOptions) {target : Target} (code : target ≠ .idl) :
    Checks schema (schema.flatMap Definition.positions) (target.candidates schema options) := by
  cases target with
  | cpp =>
    show Checks schema _ (Cpp.files ⟨.cpp, schema, options⟩)
    exact Cpp.checks_files distinct declared
  | flow =>
    show Checks schema _ (Flow.files ⟨.flow, schema, options⟩)
    exact Flow.checks_files distinct declared
  | javascript =>
    show Checks schema _ (JavaScript.files ⟨.javascript, schema, options⟩)
    exact JavaScript.checks_files distinct declared
  | idl => contradiction

/-- C++, Flow and JavaScript refuse the same schemas, of all that are collected from documents and merged:
those in which a position that is checked is bad. -/
theorem Target.refuses_alike {settings : Settings} {fetched : List (Locator × Except FetchFault Document)}
    {collection : Collection} {enabled : Bool} {schema : List Definition}
    (collected : Collection.collect settings fetched = .ok collection)
    (merged : collection.registry.merge enabled = .ok schema) (options : RenderOptions) :
    ∀ target ∈ [Target.cpp, Target.flow, Target.javascript],
      target.Refuses schema options ↔ ∃ d ∈ schema, ∃ position ∈ d.positions, position.Bad schema := by
  intro target listed
  have code : target ≠ .idl := by
    rintro rfl
    simp at listed
  have checks := Target.checks_candidates (Schema.nodup_of_collected collected merged)
    (Schema.declared_of_collected collected merged) options code
  rw [Target.refuses_iff_of_checks checks, anyBad_flatMap]
  rfl

/-- A dictionary member whose default is not a value of its enumeration, the first definition below. -/
def wrongMember : Member :=
  { kind := .field, name := "c", type := .named "C", defaultValue := some ⟨.string, "b"⟩ }

def wronglyDefaulted (kind : DefinitionKind) : List Definition :=
  [{ kind := .enum, name := "C", values := ["r"] }, { kind, name := "A", members := [wrongMember] }]

/-- The definition starts as an interface, and a dictionary adds the member. -/
def interfaceFirst : Document :=
  ⟨.localPath "s", "enum C \x7b \"r\" \x7d; interface A \x7b\x7d; partial dictionary A \x7b C c = \"b\"; \x7d;"⟩

/-- The same fragments with the dictionary in front. -/
def dictionaryFirst : Document :=
  ⟨.localPath "s", "enum C \x7b \"r\" \x7d; partial dictionary A \x7b C c = \"b\"; \x7d; interface A \x7b\x7d;"⟩

/-- In an interface no target looks at the default of a dictionary member.  In a dictionary they all do. -/
theorem Target.refuses_alike_mixed :
    (∃ collection, Collection.collect {} [(.localPath "s", .ok interfaceFirst)] = .ok collection
      ∧ collection.registry.merge true = .ok (wronglyDefaulted .interface)
      ∧ ∀ target ∈ [Target.cpp, Target.flow, Target.javascript],
        ¬ target.Refuses (wronglyDefaulted .interface) {})
    ∧ ∃ collection, Collection.collect {} [(.localPath "s", .ok dictionaryFirst)] = .ok collection
      ∧ collection.registry.merge true = .ok (wronglyDefaulted .dictionary)
      ∧ ∀ target ∈ [Target.cpp, Target.flow, Target.javascript],
        target.Refuses (wronglyDefaulted .dictionary) {} := by
  constructor
  · have read : Schema.parse interfaceFirst.contents = .ok
        [{ kind := .enum, name := "C", values := ["r"] }, { kind := .interface, name := "A" },
         { kind := .dictionary, name := "A", isPartial := true, members := [wrongMember] }] := by
      cbv
    obtain ⟨collection, collected, merged⟩ := collect_plain interfaceFirst (wronglyDefaulted .interface) rfl read rfl
    refine ⟨collection, collected, merged, fun target listed => ?_⟩
    rw [Target.refuses_alike collected merged {} target listed]
    decide
  · have read : Schema.parse dictionaryFirst.contents = .ok
        [{ kind := .enum, name := "C", values := ["r"] },
         { kind := .dictionary, name := "A", isPartial := true, members := [wrongMember] },
         { kind := .interface, name := "A" }] := by
      cbv
    obtain ⟨collection, collected, merged⟩ := collect_plain dictionaryFirst (wronglyDefaulted .dictionary) rfl read rfl
    refine ⟨collection, collected, merged, fun target listed => ?_⟩
    rw [Target.refuses_alike collected merged {} target listed]
    decide

end IdlBindings
