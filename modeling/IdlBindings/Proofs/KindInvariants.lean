/-
# IdlBindings.Proofs.KindInvariants: what a definition that was read can hold.

The records of definitions and members have room for more than a text can say: values in a typedef, a default
of an operation, a constructor of any type.  The grammar fills in the fields that belong to the kind and no
others.  Types, texts and names are further restricted wherever they stand, also in the arguments of extended
attributes, at any depth.  There is one exception, the type of a constructor: it is not written but is the name of
the interface, and an interface may have a name that no type has.
-/
import IdlBindings.Proofs.ParsedShape

namespace IdlBindings

/-! ## Types at every depth -/

namespace TypeExpr

mutual
/-- The type and all types in it. -/
def parts : TypeExpr → List TypeExpr
  | named name => [named name]
  | sequence element => sequence element :: parts element
  | nullable inner => nullable inner :: parts inner
  | union members => union members :: partsList members
  | generic name arguments => generic name arguments :: partsList arguments
/-- Several types and all types in them. -/
def partsList : List TypeExpr → List TypeExpr
  | [] => []
  | t :: rest => parts t ++ partsList rest
end

/-- What the outermost level of a type has to be like: a nullable type is not made nullable again, a union has
alternatives, a type constructor has arguments and is not that of sequences, and a name is not the first word of
a longer one. -/
def Regular : TypeExpr → Prop
  | named name => name ≠ "" ∧ name ≠ "unsigned" ∧ name ≠ "unrestricted"
  | sequence _ => True
  | nullable inner => inner.isNullable = false
  | union members => members ≠ []
  | generic name arguments =>
    name ≠ "sequence" ∧ arguments ≠ [] ∧ name ≠ "" ∧ name ≠ "unsigned" ∧ name ≠ "unrestricted"

theorem regular_name {name : String} (known : isTypeName name = true) :
    name ≠ "" ∧ name ≠ "unsigned" ∧ name ≠ "unrestricted" := by
  refine ⟨?_, ?_, ?_⟩
  all_goals
    rintro rfl
    revert known
    decide

mutual
theorem regular_parts : ∀ t : TypeExpr, t.isWellFormed = true → ∀ part ∈ t.parts, part.Regular
  | .named name, good => by
    rw [isWellFormed] at good
    rw [parts, List.forall_mem_singleton]
    exact regular_name good
  | .sequence element, good => by
    rw [isWellFormed] at good
    rw [parts, List.forall_mem_cons]
    exact ⟨trivial, regular_parts element good⟩
  | .nullable inner, good => by
    rw [isWellFormed, Bool.and_eq_true, Bool.not_eq_true'] at good
    rw [parts, List.forall_mem_cons]
    exact ⟨good.1, regular_parts inner good.2⟩
  | .union members, good => by
    rw [isWellFormed, Bool.and_eq_true, Bool.not_eq_true', List.isEmpty_eq_false_iff] at good
    rw [parts, List.forall_mem_cons]
    exact ⟨good.1, regular_partsList members good.2⟩
  | .generic name arguments, good => by
    simp only [isWellFormed, Bool.and_eq_true, bne_iff_ne, Bool.not_eq_true', List.isEmpty_eq_false_iff] at good
    obtain ⟨⟨⟨known, other⟩, some_type⟩, goods⟩ := good
    rw [parts, List.forall_mem_cons]
    exact ⟨⟨other, some_type, regular_name known⟩, regular_partsList arguments goods⟩
theorem regular_partsList :
    ∀ ts : List TypeExpr, areWellFormed ts = true → ∀ part ∈ partsList ts, part.Regular
  | [], _ => nofun
  | t :: rest, goods => by
    rw [areWellFormed, Bool.and_eq_true] at goods
    rw [partsList, List.forall_mem_append]
    exact ⟨regular_parts t goods.1, regular_partsList rest goods.2⟩
end

end TypeExpr

/-! ## Arguments at every depth -/

namespace Argument

mutual
/-- The argument and all arguments in its extended attributes. -/
def within : Argument → List Argument
  | ⟨name, type, optional, variadic, defaultValue, attributes⟩ =>
    ⟨name, type, optional, variadic, defaultValue, attributes⟩ :: attributesWithin attributes
/-- All arguments in extended attributes. -/
def attributesWithin : List ExtendedAttribute → List Argument
  | [] => []
  | ⟨_, _, none⟩ :: rest => attributesWithin rest
  | ⟨_, _, some arguments⟩ :: rest => listWithin arguments ++ attributesWithin rest
/-- Several arguments and all arguments in their extended attributes. -/
def listWithin : List Argument → List Argument
  | [] => []
  | a :: rest => within a ++ listWithin rest
end

mutual
theorem wellFormed_within : ∀ a : Argument, a.isWellFormed = true → ∀ b ∈ a.within, b.isWellFormed = true
  | ⟨name, type, optional, variadic, defaultValue, attributes⟩, good => by
    rw [within, List.forall_mem_cons]
    refine ⟨good, ?_⟩
    rw [isWellFormed, Bool.and_eq_true] at good
    exact wellFormed_attributesWithin attributes good.2
theorem wellFormed_attributesWithin : ∀ as : List ExtendedAttribute, attributesWellFormed as = true →
    ∀ b ∈ attributesWithin as, b.isWellFormed = true
  | [], _ => nofun
  | ⟨_, _, none⟩ :: rest, goods => by
    rw [attributesWellFormed, Bool.and_eq_true] at goods
    rw [attributesWithin]
    exact wellFormed_attributesWithin rest goods.2
  | ⟨_, _, some arguments⟩ :: rest, goods => by
    rw [attributesWellFormed, Bool.and_eq_true, Bool.and_eq_true] at goods
    rw [attributesWithin, List.forall_mem_append]
    exact ⟨wellFormed_listWithin arguments goods.1.2, wellFormed_attributesWithin rest goods.2⟩
theorem wellFormed_listWithin : ∀ as : List Argument, areWellFormed as = true →
    ∀ b ∈ listWithin as, b.isWellFormed = true
  | [], _ => nofun
  | a :: rest, goods => by
    rw [areWellFormed, Bool.and_eq_true] at goods
    rw [listWithin, List.forall_mem_append]
    exact ⟨wellFormed_within a goods.1, wellFormed_listWithin rest goods.2⟩
end

end Argument

/-! ## Members -/

/-- What a member of a definition of that kind and name can hold. -/
structure Member.Kinded (kind : DefinitionKind) (owner : String) (member : Member) : Prop where
  field : member.kind = .field ↔ kind = .dictionary
  required : member.kind ≠ .field → member.required = true
  keyType : member.keyType ≠ none → member.kind = .iterable ∨ member.kind = .maplike ∨ member.kind = .setlike
  defaultValue : member.defaultValue ≠ none → member.kind = .field ∨ member.kind = .const
  const : member.kind = .const → member.defaultValue ≠ none
  constructor : member.kind = .constructor → member.type = .named owner
  stringifier : member.kind = .stringifier → member.type = .named "DOMString"
  special : member.specials ≠ [] → member.kind = .property ∨ member.kind = .operation
  specials : ∀ word ∈ member.specials, word ∈ ["getter", "setter", "deleter", "stringifier"]
  arguments : member.arguments ≠ [] → member.kind = .operation ∨ member.kind = .constructor
  name : member.name = "" → member.kind = .operation ∨ member.kind = .stringifier

theorem Token.ne_empty_of_isIdentifier {name : String} (identifier : Token.isIdentifier name = true) :
    name ≠ "" := by
  rintro rfl
  revert identifier
  decide

/-- Extended attributes play no part. -/
theorem Member.Kinded.with_attributes {kind : DefinitionKind} {owner : String} {member : Member}
    (kinded : member.Kinded kind owner) (attributes : List ExtendedAttribute) :
    { member with attributes }.Kinded kind owner :=
  ⟨kinded.field, kinded.required, kinded.keyType, kinded.defaultValue, kinded.const, kinded.constructor,
    kinded.stringifier, kinded.special, kinded.specials, kinded.arguments, kinded.name⟩

/-- Fields, attributes and constants have names of their own. -/
theorem Member.name_ne_empty {member : Member} (good : member.isWellFormed = true)
    (own : member.kind = .field ∨ member.kind = .property ∨ member.kind = .const) : member.name ≠ "" := by
  apply Token.ne_empty_of_isIdentifier
  unfold isWellFormed at good
  rcases own with kind | kind | kind
  all_goals
    rw [kind] at good
    simp only [Bool.and_eq_true] at good
  · exact good.2.1.1
  · exact good.2.1
  · exact good.2.1.1

namespace Grammar

open Token (Located)

variable {toks rest : List Located} {depth : Nat} {kind : DefinitionKind} {owner : String}

theorem kinded_field : Yields (field depth) (Member.Kinded .dictionary owner) := by
  intro toks m rest writable ran
  obtain ⟨good, writable'⟩ := yields_field writable ran
  obtain ⟨required, r₁, -, as, r₂, -, t, r₃, -, name, r₄, -, value, r₅, -, -, rfl⟩ := field_eq_ok.1 ran
  have named := Member.name_ne_empty good (.inl rfl)
  refine ⟨?_, writable'⟩
  constructor <;> simp_all

section

variable (other : kind ≠ .dictionary)
include other

theorem kinded_constant : Yields (constant depth) (Member.Kinded kind owner) := by
  intro toks m rest writable ran
  obtain ⟨good, writable'⟩ := yields_constant writable ran
  obtain ⟨t, r₁, -, name, r₂, -, r₃, -, value, r₄, -, -, rfl⟩ := constant_eq_ok.1 ran
  have named := Member.name_ne_empty good (.inr (.inr rfl))
  refine ⟨?_, writable'⟩
  constructor <;> simp_all

theorem kinded_constructorOf : Yields (constructorOf owner depth) (Member.Kinded kind owner) := by
  intro toks m rest writable ran
  obtain ⟨-, writable'⟩ := yields_constructorOf writable ran
  obtain ⟨as, r₁, -, -, rfl⟩ := constructorOf_eq_ok.1 ran
  refine ⟨?_, writable'⟩
  constructor <;> simp [other]

section

variable {ms : Modifiers}

theorem kinded_collection {c : MemberKind × String} (listed : c ∈ collections) :
    Yields (collection c.1 c.2 ms depth) (Member.Kinded kind owner) := by
  intro toks m rest writable ran
  obtain ⟨-, writable'⟩ := yields_collection listed writable ran
  obtain ⟨first, r₁, -, second, r₂, -, r₃, -, -, rfl⟩ := collection_eq_ok.1 ran
  refine ⟨?_, writable'⟩
  simp only [collections, List.mem_cons, List.not_mem_nil, or_false] at listed
  rcases listed with rfl | rfl | rfl
  all_goals constructor <;> simp [other]

variable (specials : ∀ word ∈ ms.specials, word ∈ specialWords)
include specials

theorem kinded_property : Yields (property ms depth) (Member.Kinded kind owner) := by
  intro toks m rest writable ran
  obtain ⟨good, writable'⟩ := yields_property writable ran
  obtain ⟨t, r₁, -, name, r₂, -, -, rfl⟩ := property_eq_ok.1 ran
  have named := Member.name_ne_empty good (.inr (.inl rfl))
  refine ⟨?_, writable'⟩
  constructor
  case specials => exact specials
  all_goals simp_all

theorem kinded_operation : Yields (operation ms depth) (Member.Kinded kind owner) := by
  intro toks m rest writable ran
  obtain ⟨-, writable'⟩ := yields_operation (by simpa using specials) writable ran
  obtain ⟨t, r₁, -, name, r₂, -, as, r₃, -, -, rfl⟩ := operation_eq_ok.1 ran
  refine ⟨?_, writable'⟩
  constructor
  case specials => exact specials
  all_goals simp [other]

theorem kinded_modified : Yields (modified ms depth) (Member.Kinded kind owner) := by
  intro toks m rest writable ran
  rcases modified_eq_ok.1 ran with ⟨r₁, taken, read⟩ | ⟨c, listed, -, read⟩ | ⟨-, -, read⟩
  · exact kinded_property other specials (taken.writable writable).2 read
  · exact kinded_collection other listed (writable.drop 2) read
  · exact kinded_operation other specials writable read

end

theorem kinded_interfaceMember : Yields (interfaceMember owner depth) (Member.Kinded kind owner) := by
  intro toks m rest writable ran
  rcases interfaceMember_eq_ok.1 ran with ⟨r₁, taken, read⟩ | ⟨-, read⟩ | ⟨-, rfl, rfl⟩ | ⟨-, -, -, read⟩
  · exact kinded_constant other (taken.writable writable).2 read
  · exact kinded_constructorOf other (writable.drop 1) read
  · refine ⟨?_, writable.drop 2⟩
    constructor <;> simp [other]
  · obtain ⟨specials, writable⟩ := splitModifiers_shape writable
    exact kinded_modified other (by simpa using specials) writable read

end

theorem kinded_member : Yields (member kind owner depth) (Member.Kinded kind owner) := by
  intro toks m rest writable ran
  obtain ⟨outer, r₁, attrs, inner, read, rfl⟩ := member_eq_ok.1 ran
  obtain ⟨-, writable⟩ := (shapedAt depth).ofAttributes writable attrs
  rcases ite_eq_ok.1 read with ⟨rfl, read⟩ | ⟨other, read⟩
  · obtain ⟨kinded, writable⟩ := kinded_field writable read
    exact ⟨kinded.with_attributes _, writable⟩
  · obtain ⟨kinded, writable⟩ := kinded_interfaceMember other writable read
    exact ⟨kinded.with_attributes _, writable⟩

theorem kinded_members (depth : Nat) :
    Yields (members kind owner depth) fun ms => ∀ m ∈ ms, m.Kinded kind owner := by
  induction depth with
  | zero => exact fun _ _ _ _ ran => by cases ran
  | succ depth ih =>
    intro toks ms rest writable ran
    rcases members_eq_ok.1 ran with ⟨-, first, r₁, head, others, tail, rfl⟩ | ⟨closed, rfl⟩
    · obtain ⟨kinded, writable⟩ := kinded_member writable head
      obtain ⟨kindeds, writable⟩ := ih writable tail
      exact ⟨List.forall_mem_cons.2 ⟨kinded, kindeds⟩, writable⟩
    · exact ⟨fun m inside => absurd inside List.not_mem_nil, (closed.writable writable).2⟩

end Grammar

/-! ## Definitions -/

/-- What a definition of its kind can hold. -/
structure Definition.Kinded (d : Definition) : Prop where
  values : d.values ≠ [] → d.kind = .enum
  members : d.members ≠ [] → d.kind = .interface ∨ d.kind = .dictionary ∨ d.kind = .callbackInterface
  type : d.type ≠ none ↔ d.kind = .typedef ∨ d.kind = .callback
  arguments : d.arguments ≠ [] → d.kind = .callback
  isPartial : d.isPartial = true → d.kind = .interface ∨ d.kind = .dictionary
  implements : d.implements ≠ none →
    d.kind = .interface ∧ d.isPartial = true ∧ d.members = [] ∧ d.parent = none
  each : ∀ member ∈ d.members, member.Kinded d.kind d.name

namespace Grammar

open Token (Located)

variable {toks rest : List Located} {depth : Nat} {kind : DefinitionKind}

/-- A body has no implemented interface, so it may be made partial where its kind allows for that. -/
theorem kinded_body (bodied : kind = .interface ∨ kind = .dictionary ∨ kind = .callbackInterface) :
    Yields (body kind depth) fun d => d.Kinded
      ∧ (kind = .interface ∨ kind = .dictionary → { d with isPartial := true }.Kinded) := by
  intro toks d rest writable ran
  obtain ⟨-, writable'⟩ := yields_body writable ran
  obtain ⟨name, r₁, named, parent, r₂, parented, r₃, opened, ms, r₄, read, ended, rfl⟩ := body_eq_ok.1 ran
  rw [parentOption_eq] at parented
  obtain ⟨-, writable⟩ := yields_optionally yields_identifier (named.writable writable).2 parented
  obtain ⟨kindeds, -⟩ := kinded_members depth (opened.writable writable).2 read
  refine ⟨⟨?_, fun partially => ?_⟩, writable'⟩
  · constructor
    case each => exact kindeds
    case type => rcases bodied with rfl | rfl | rfl <;> simp
    all_goals simp [bodied]
  · constructor
    case each => exact kindeds
    case type => rcases bodied with rfl | rfl | rfl <;> simp
    all_goals simp [bodied, partially]

theorem kinded_partialBody : Yields (partialBody depth) Definition.Kinded := by
  intro toks d rest writable ran
  rcases partialBody_eq_ok.1 ran with ⟨r₁, taken, r₂, skipped, whole, read, rfl⟩
    | ⟨r₁, taken, whole, read, rfl⟩
  · obtain ⟨k, rfl⟩ := skipMixin_drop skipped
    obtain ⟨⟨-, kinded⟩, writable⟩ := kinded_body (.inl rfl) ((taken.writable writable).2.drop k) read
    exact ⟨kinded (.inl rfl), writable⟩
  · obtain ⟨⟨-, kinded⟩, writable⟩ := kinded_body (.inr (.inl rfl)) (taken.writable writable).2 read
    exact ⟨kinded (.inr rfl), writable⟩

theorem kinded_bareDefinition : Yields (bareDefinition depth) Definition.Kinded := by
  intro toks d rest writable ran
  obtain ⟨-, writable'⟩ := yields_bareDefinition writable ran
  refine ⟨?_, writable'⟩
  rcases bareDefinition_eq_ok.1 ran with ⟨r₁, taken, read⟩
    | ⟨r₁, taken, ⟨-, read⟩ | ⟨r₂, interface, read⟩⟩ | ⟨r₁, taken, r₂, skipped, read⟩
    | ⟨r₁, taken, read⟩ | ⟨r₁, taken, read⟩ | ⟨r₁, taken, read⟩ | ⟨-, read⟩
  · exact (kinded_partialBody (taken.writable writable).2 read).1
  · obtain ⟨name, r₁, -, r₂, -, t, r₃, -, as, r₄, -, -, rfl⟩ := callback_eq_ok.1 read
    constructor <;> simp
  · exact (kinded_body (.inr (.inr rfl)) (interface.writable (taken.writable writable).2).2 read).1.1
  · obtain ⟨k, rfl⟩ := skipMixin_drop skipped
    exact (kinded_body (.inl rfl) ((taken.writable writable).2.drop k) read).1.1
  · exact (kinded_body (.inr (.inl rfl)) (taken.writable writable).2 read).1.1
  · obtain ⟨name, r₁, -, r₂, -, values, r₃, -, -, rfl⟩ := enumeration_eq_ok.1 read
    constructor <;> simp
  · obtain ⟨as, r₁, -, t, r₂, -, name, r₃, -, -, rfl⟩ := typeAlias_eq_ok.1 read
    constructor <;> simp
  · obtain ⟨name, r₁, -, implemented, r₂, -, -, rfl⟩ :=
      implementation_eq_ok.1 (implementation_of_statement read)
    constructor <;> simp

theorem kinded_definition : Yields (definition depth) Definition.Kinded := by
  intro toks d rest writable ran
  obtain ⟨as, r₁, attrs, bare, read, rfl⟩ := definition_eq_ok.1 ran
  obtain ⟨-, writable⟩ := (shapedAt depth).ofAttributes writable attrs
  obtain ⟨kinded, writable⟩ := kinded_bareDefinition writable read
  exact ⟨⟨kinded.values, kinded.members, kinded.type, kinded.arguments, kinded.isPartial, kinded.implements,
    kinded.each⟩, writable⟩

theorem kinded_definitions (depth : Nat) : Yields (definitions depth) fun ds => ∀ d ∈ ds, d.Kinded := by
  induction depth with
  | zero => exact fun _ _ _ _ ran => by cases ran
  | succ depth ih =>
    intro toks ds rest writable ran
    rcases definitions_eq_ok.1 ran with ⟨rfl, rfl, rfl⟩ | ⟨-, first, r₁, head, others, tail, rfl⟩
    · exact ⟨fun d inside => absurd inside List.not_mem_nil, writable⟩
    · obtain ⟨kinded, writable⟩ := kinded_definition writable head
      obtain ⟨kindeds, writable⟩ := ih writable tail
      exact ⟨List.forall_mem_cons.2 ⟨kinded, kindeds⟩, writable⟩

end Grammar

/-! ## Types, texts and names wherever they stand -/

/-- The types of a member. -/
def Member.types (member : Member) : List TypeExpr :=
  member.type :: member.keyType.toList

/-- The text of a default that is a string. -/
def DefaultValue.string? (value : DefaultValue) : Option String :=
  if value.kind = .string then some value.text else none

/-- The text of the right side of an extended attribute that is a string. -/
def AttributeValue.string? : AttributeValue → Option String
  | string text => some text
  | _ => none

namespace Definition

/-- All arguments of a definition: its own, those of its members, and those of extended attributes. -/
def allArguments (d : Definition) : List Argument :=
  Argument.listWithin d.arguments ++ Argument.attributesWithin d.attributes
    ++ d.members.flatMap fun m => Argument.listWithin m.arguments ++ Argument.attributesWithin m.attributes

/-- All extended attributes of a definition, those of its members and of all arguments included. -/
def allAttributes (d : Definition) : List ExtendedAttribute :=
  d.attributes ++ d.members.flatMap (·.attributes) ++ d.allArguments.flatMap (·.attributes)

/-- All types of a definition and of some of its members, at any depth. -/
def typesWith (d : Definition) (members : List Member) : List TypeExpr :=
  (d.type.toList ++ members.flatMap Member.types ++ d.allArguments.map (·.type)).flatMap TypeExpr.parts

/-- All types of a definition, at any depth. -/
def allTypes (d : Definition) : List TypeExpr :=
  d.typesWith d.members

/-- All types of a definition but those of its constructors, which are not written. -/
def writtenTypes (d : Definition) : List TypeExpr :=
  d.typesWith (d.members.filter (·.kind ≠ .constructor))

/-- Whether a definition has a constructor. -/
def Constructs (d : Definition) : Prop :=
  ∃ member ∈ d.members, member.kind = .constructor

/-- All strings of a definition: values, defaults, and right sides of extended attributes. -/
def allStrings (d : Definition) : List String :=
  d.values ++ (d.members.flatMap (·.defaultValue.toList)
    ++ d.allArguments.flatMap (·.defaultValue.toList)).filterMap DefaultValue.string?
    ++ d.allAttributes.filterMap (·.value.bind AttributeValue.string?)

/-- What holds of the types, strings and names of a definition, wherever they stand. -/
structure Sound (d : Definition) : Prop where
  written : ∀ t ∈ d.writtenTypes, t.Regular
  /-- All types are regular unless a constructor makes a type of a name that is none. -/
  types : (∀ t ∈ d.allTypes, t.Regular) ↔ (d.Constructs → d.name ≠ "unsigned" ∧ d.name ≠ "unrestricted")
  strings : ∀ text ∈ d.allStrings, '"' ∉ text.toList
  name : d.name ≠ ""
  argumentNames : ∀ a ∈ d.allArguments, a.name ≠ ""
  attributeNames : ∀ a ∈ d.allAttributes, a.name ≠ ""

end Definition

theorem DefaultValue.unquoted {value : DefaultValue} (good : value.isWellFormed = true) {text : String}
    (written : value.string? = some text) : '"' ∉ text.toList := by
  unfold string? at written
  split at written
  · next kind =>
    cases written
    rw [isWellFormed, kind] at good
    simpa [Token.isQuotable] using good
  · cases written

theorem AttributeValue.unquoted {value : AttributeValue} (good : value.isWellFormed = true) {text : String}
    (written : value.string? = some text) : '"' ∉ text.toList := by
  cases value with
  | string =>
    cases written
    simpa [isWellFormed, Token.isQuotable] using good
  | identifier | identifiers | number => cases written

namespace Argument

theorem isWellFormed_iff {a : Argument} : a.isWellFormed = true ↔ Token.isIdentifier a.name = true
    ∧ a.type.isWellFormed = true ∧ a.defaultValue.all (·.isWellFormed) = true
    ∧ attributesWellFormed a.attributes = true := by
  obtain ⟨⟩ := a
  simp only [isWellFormed, Bool.and_eq_true, and_assoc]

end Argument

namespace Member

variable {kind : DefinitionKind} {owner : String} {member : Member}

/-- What the kind of a member does not declare is not there, and what it declares is well formed. -/
theorem wellFormed_arguments (good : member.isWellFormed = true) (kinded : member.Kinded kind owner) :
    Argument.areWellFormed member.arguments = true := by
  by_cases none : member.arguments = []
  · rw [none]
    rfl
  · unfold isWellFormed at good
    rcases kinded.arguments none with operation | constructor
    · rw [operation] at good
      simp only [Bool.and_eq_true] at good
      exact good.2.2
    · rw [constructor] at good
      simp only [Bool.and_eq_true] at good
      exact good.2

theorem wellFormed_defaultValue (good : member.isWellFormed = true) (kinded : member.Kinded kind owner) :
    ∀ value ∈ member.defaultValue, value.isWellFormed = true := by
  intro value valued
  have known : member.defaultValue = some value := valued
  unfold isWellFormed at good
  rcases kinded.defaultValue (by simp [known]) with kind | kind
  all_goals
    rw [kind, known] at good
    simp only [Bool.and_eq_true] at good
    exact good.2.2

theorem wellFormed_keyType (good : member.isWellFormed = true) (kinded : member.Kinded kind owner) :
    ∀ t ∈ member.keyType, t.isWellFormed = true := by
  intro t keyed
  have known : member.keyType = some t := keyed
  unfold isWellFormed at good
  rcases kinded.keyType (by simp [known]) with kind | kind | kind
  all_goals
    rw [kind, known] at good
    simp only [Bool.and_eq_true] at good
    exact good.2.2

theorem wellFormed_type (good : member.isWellFormed = true) (kinded : member.Kinded kind owner)
    (other : member.kind ≠ .constructor) : member.type.isWellFormed = true := by
  unfold isWellFormed at good
  cases known : member.kind with
  | constructor => exact absurd known other
  | stringifier =>
    rw [kinded.stringifier known]
    decide
  | field | property | operation | const | iterable | maplike | setlike =>
    simp only [known, Bool.and_eq_true] at good
    simp only [good]

theorem wellFormed_types (good : member.isWellFormed = true) (kinded : member.Kinded kind owner)
    (other : member.kind ≠ .constructor) : ∀ t ∈ member.types, t.isWellFormed = true := by
  rw [types, List.forall_mem_cons]
  refine ⟨wellFormed_type good kinded other, fun t keyed => ?_⟩
  exact wellFormed_keyType good kinded t (Option.mem_toList.1 keyed)

/-- A constructor has one type, the name of its interface. -/
theorem types_of_constructor (kinded : member.Kinded kind owner) (constructs : member.kind = .constructor) :
    member.types = [.named owner] := by
  have unkeyed : member.keyType = none := by
    by_contra keyed
    rcases kinded.keyType keyed with other | other | other
    all_goals
      rw [constructs] at other
      cases other
  rw [types, kinded.constructor constructs, unkeyed]
  rfl

end Member

namespace Definition

variable {d : Definition}

theorem isWellFormed_iff : d.isWellFormed = true ↔ Token.isIdentifier d.name = true
    ∧ d.parent.all Token.isIdentifier = true ∧ d.implements.all Token.isIdentifier = true
    ∧ (∀ m ∈ d.members, m.isWellFormed = true) ∧ (∀ value ∈ d.values, Token.isQuotable value = true)
    ∧ Argument.attributesWellFormed d.attributes = true ∧ d.type.all (·.isWellFormed) = true
    ∧ Argument.areWellFormed d.arguments = true := by
  simp only [isWellFormed, Bool.and_eq_true, and_assoc, List.all_eq_true]

theorem wellFormed_allArguments (good : d.isWellFormed = true) (kinded : d.Kinded) :
    ∀ a ∈ d.allArguments, a.isWellFormed = true := by
  obtain ⟨-, -, -, members, -, attributes, -, arguments⟩ := isWellFormed_iff.1 good
  rw [allArguments, List.forall_mem_append, List.forall_mem_append]
  refine ⟨⟨Argument.wellFormed_listWithin _ arguments, Argument.wellFormed_attributesWithin _ attributes⟩, ?_⟩
  intro a inside
  obtain ⟨m, listed, inside⟩ := List.mem_flatMap.1 inside
  have good := members m listed
  rcases List.mem_append.1 inside with inside | inside
  · exact Argument.wellFormed_listWithin _ (m.wellFormed_arguments good (kinded.each m listed)) a inside
  · rw [Member.isWellFormed, Bool.and_eq_true] at good
    exact Argument.wellFormed_attributesWithin _ good.1 a inside

theorem wellFormed_allAttributes (good : d.isWellFormed = true) (kinded : d.Kinded) :
    ∀ a ∈ d.allAttributes, Grammar.attributeWellFormed a = true := by
  have arguments := wellFormed_allArguments good kinded
  obtain ⟨-, -, -, members, -, attributes, -, -⟩ := isWellFormed_iff.1 good
  rw [allAttributes, List.forall_mem_append, List.forall_mem_append]
  refine ⟨⟨(Grammar.attributesWellFormed_iff _).1 attributes, ?_⟩, ?_⟩
  · intro a inside
    obtain ⟨m, listed, inside⟩ := List.mem_flatMap.1 inside
    have good := members m listed
    rw [Member.isWellFormed, Bool.and_eq_true] at good
    exact (Grammar.attributesWellFormed_iff _).1 good.1 a inside
  · intro a inside
    obtain ⟨b, listed, inside⟩ := List.mem_flatMap.1 inside
    obtain ⟨-, -, -, good⟩ := Argument.isWellFormed_iff.1 (arguments b listed)
    exact (Grammar.attributesWellFormed_iff _).1 good a inside

theorem regular_writtenTypes (good : d.isWellFormed = true) (kinded : d.Kinded) :
    ∀ t ∈ d.writtenTypes, t.Regular := by
  have arguments := wellFormed_allArguments good kinded
  obtain ⟨-, -, -, members, -, -, type, -⟩ := isWellFormed_iff.1 good
  intro part nested
  obtain ⟨t, listed, nested⟩ := List.mem_flatMap.1 nested
  refine t.regular_parts ?_ part nested
  rw [List.mem_append, List.mem_append] at listed
  rcases listed with (listed | listed) | listed
  · rw [Option.mem_toList.1 listed] at type
    exact type
  · obtain ⟨m, inside, listed⟩ := List.mem_flatMap.1 listed
    obtain ⟨inside, other⟩ := List.mem_filter.1 inside
    exact m.wellFormed_types (members m inside) (kinded.each m inside) (of_decide_eq_true other) t listed
  · obtain ⟨a, inside, rfl⟩ := List.mem_map.1 listed
    exact (Argument.isWellFormed_iff.1 (arguments a inside)).2.1

/-- What is not written is the name of the definition. -/
theorem mem_allTypes (kinded : d.Kinded) {t : TypeExpr} :
    t ∈ d.allTypes ↔ t ∈ d.writtenTypes ∨ (d.Constructs ∧ t = .named d.name) := by
  have member : t ∈ d.members.flatMap (fun m => m.types.flatMap TypeExpr.parts)
      ↔ t ∈ (d.members.filter (·.kind ≠ .constructor)).flatMap (fun m => m.types.flatMap TypeExpr.parts)
        ∨ (d.Constructs ∧ t = .named d.name) := by
    constructor
    · intro listed
      obtain ⟨m, inside, nested⟩ := List.mem_flatMap.1 listed
      by_cases constructs : m.kind = .constructor
      · rw [m.types_of_constructor (kinded.each m inside) constructs, List.flatMap_singleton, TypeExpr.parts,
          List.mem_singleton] at nested
        exact .inr ⟨⟨m, inside, constructs⟩, nested⟩
      · exact .inl (List.mem_flatMap.2 ⟨m, List.mem_filter.2 ⟨inside, decide_eq_true constructs⟩, nested⟩)
    · rintro (listed | ⟨⟨m, inside, constructs⟩, rfl⟩)
      · obtain ⟨m, inside, nested⟩ := List.mem_flatMap.1 listed
        exact List.mem_flatMap.2 ⟨m, (List.mem_filter.1 inside).1, nested⟩
      · refine List.mem_flatMap.2 ⟨m, inside, ?_⟩
        rw [m.types_of_constructor (kinded.each m inside) constructs, List.flatMap_singleton, TypeExpr.parts]
        exact List.mem_singleton_self _
  simp only [allTypes, writtenTypes, typesWith, List.flatMap_append, List.mem_append, List.flatMap_assoc, member]
  tauto

theorem regular_allTypes_iff (good : d.isWellFormed = true) (kinded : d.Kinded) :
    (∀ t ∈ d.allTypes, t.Regular) ↔ (d.Constructs → d.name ≠ "unsigned" ∧ d.name ≠ "unrestricted") := by
  constructor
  · intro regular constructs
    exact (regular _ ((mem_allTypes kinded).2 (.inr ⟨constructs, rfl⟩))).2
  · intro named t listed
    rcases (mem_allTypes kinded).1 listed with written | ⟨constructs, rfl⟩
    · exact regular_writtenTypes good kinded t written
    · exact ⟨Token.ne_empty_of_isIdentifier (isWellFormed_iff.1 good).1, named constructs⟩

theorem unquoted_allStrings (good : d.isWellFormed = true) (kinded : d.Kinded) :
    ∀ text ∈ d.allStrings, '"' ∉ text.toList := by
  have arguments := wellFormed_allArguments good kinded
  have attributes := wellFormed_allAttributes good kinded
  obtain ⟨-, -, -, members, values, -, -, -⟩ := isWellFormed_iff.1 good
  rw [allStrings, List.forall_mem_append, List.forall_mem_append]
  refine ⟨⟨fun text inside => ?_, fun text inside => ?_⟩, fun text inside => ?_⟩
  · simpa [Token.isQuotable] using values text inside
  · obtain ⟨value, listed, written⟩ := List.mem_filterMap.1 inside
    refine DefaultValue.unquoted ?_ written
    rcases List.mem_append.1 listed with listed | listed
    · obtain ⟨m, inside, valued⟩ := List.mem_flatMap.1 listed
      exact m.wellFormed_defaultValue (members m inside) (kinded.each m inside) value (Option.mem_toList.1 valued)
    · obtain ⟨a, inside, valued⟩ := List.mem_flatMap.1 listed
      obtain ⟨-, -, good, -⟩ := Argument.isWellFormed_iff.1 (arguments a inside)
      rw [Option.mem_toList.1 valued] at good
      exact good
  · obtain ⟨a, listed, written⟩ := List.mem_filterMap.1 inside
    obtain ⟨value, valued, written⟩ := Option.bind_eq_some_iff.1 written
    have good := attributes a listed
    simp only [Grammar.attributeWellFormed, valued, Option.all_some, Bool.and_eq_true] at good
    exact AttributeValue.unquoted good.1.2 written

theorem sound_of_wellFormed (good : d.isWellFormed = true) (kinded : d.Kinded) : d.Sound where
  written := regular_writtenTypes good kinded
  types := regular_allTypes_iff good kinded
  strings := unquoted_allStrings good kinded
  name := Token.ne_empty_of_isIdentifier (isWellFormed_iff.1 good).1
  argumentNames a inside := by
    have good := wellFormed_allArguments good kinded a inside
    exact Token.ne_empty_of_isIdentifier (Argument.isWellFormed_iff.1 good).1
  attributeNames a inside := by
    have good := wellFormed_allAttributes good kinded a inside
    simp only [Grammar.attributeWellFormed, Bool.and_eq_true] at good
    exact Token.ne_empty_of_isIdentifier good.1.1

end Definition

/-- Whatever text is read, each definition in it holds what its kind declares and no more, and so do its members;
and its types, strings and names are as they should be, at any depth.  The exception among the types is that of a
constructor in an interface whose name is the first word of a longer one. -/
theorem Schema.parse_kinded {text : String} {ds : List Definition} (read : Schema.parse text = .ok ds) :
    ∀ d ∈ ds, d.Kinded ∧ d.Sound := by
  intro d inside
  obtain ⟨toks, lexed, rest, ran⟩ := Schema.parse_eq_ok.1 read
  have kinded := (Grammar.kinded_definitions _ (Token.isWritable_of_lexFrom lexed) ran).1 d inside
  exact ⟨kinded, Definition.sound_of_wellFormed (Schema.parse_shape read d inside) kinded⟩

/-- An interface with a constructor and with an argument in an extended attribute, which has an extended attribute of
its own. -/
def nestedInterface : Definition :=
  { kind := .interface, name := "A"
    members := [{ kind := .constructor, name := "constructor", type := .named "A" }]
    attributes := [⟨"C", none, some [⟨"x", .union [.named "long", .nullable (.named "B")], false, false, none,
      [⟨"D", some (.string "q"), none⟩]⟩]⟩] }

/-- The type of the constructor and what stands two levels down are among the types and strings. -/
theorem Schema.parse_kinded_nested :
    Schema.parse "[C([D=\"q\"] (long or B?) x)] interface A \x7b constructor(); \x7d;" = .ok [nestedInterface]
      ∧ nestedInterface.allTypes
        = [.named "A", .union [.named "long", .nullable (.named "B")], .named "long", .nullable (.named "B"),
          .named "B"]
      ∧ nestedInterface.allStrings = ["q"] ∧ nestedInterface.Kinded ∧ nestedInterface.Sound := by
  have read : Schema.parse "[C([D=\"q\"] (long or B?) x)] interface A \x7b constructor(); \x7d;"
      = .ok [nestedInterface] := by decide +kernel
  exact ⟨read, rfl, rfl,
    Schema.parse_kinded read nestedInterface (List.mem_singleton.2 rfl)⟩

/-- An interface may be named by a word that is no type.  A constructor then has that word as its type. -/
theorem Schema.parse_irregular_constructor :
    ∃ d : Definition, Schema.parse "interface unsigned \x7b constructor(); \x7d;" = .ok [d]
      ∧ d.allTypes = [.named "unsigned"] ∧ ¬ TypeExpr.Regular (.named "unsigned") := by
  refine ⟨{ kind := .interface, name := "unsigned"
            members := [{ kind := .constructor, name := "constructor", type := .named "unsigned" }] }, ?_, ?_, ?_⟩
  · decide +kernel
  · rfl
  · rintro ⟨-, other, -⟩
    exact other rfl

end IdlBindings
