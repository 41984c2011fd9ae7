/-
# IdlBindings.Schema.Basic: the declarations of an interface description.

A schema is a list of definitions: interfaces, dictionaries, enumerations, callbacks and type
aliases.  Each occurrence in a document is one fragment of its definition; fragments of one name are
later merged into a single definition of the same type, so one record serves both.

Types, arguments and extended attributes nest: a type holds types, an argument holds extended
attributes, and an extended attribute may hold arguments.  Equality on them is therefore written out
and shown to be equality.
-/

namespace IdlBindings

/-! ## Types -/

/-- A type as it is written in a schema. -/
inductive TypeExpr where
  /-- An identifier, or one of the built-in names such as `unsigned long`. -/
  | named (name : String)
  | sequence (element : TypeExpr)
  | nullable (inner : TypeExpr)
  /-- The alternatives of a union, of any number. -/
  | union (members : List TypeExpr)
  /-- A named type constructor applied to types. -/
  | generic (name : String) (arguments : List TypeExpr)

namespace TypeExpr

instance : Inhabited TypeExpr := ⟨named "any"⟩

mutual
/-- Structural comparison of types. -/
def beq : TypeExpr → TypeExpr → Bool
  | named a, named b => a == b
  | sequence a, sequence b => beq a b
  | nullable a, nullable b => beq a b
  | union as, union bs => beqList as bs
  | generic a as, generic b bs => a == b && beqList as bs
  | _, _ => false
/-- Structural comparison of lists of types. -/
def beqList : List TypeExpr → List TypeExpr → Bool
  | [], [] => true
  | a :: as, b :: bs => beq a b && beqList as bs
  | _, _ => false
end

mutual
theorem beq_iff : ∀ a b : TypeExpr, beq a b = true ↔ a = b
  | named a, b => by cases b <;> simp [beq]
  | sequence a, b => by cases b <;> simp [beq, beq_iff a]
  | nullable a, b => by cases b <;> simp [beq, beq_iff a]
  | union as, b => by cases b <;> simp [beq, beqList_iff as]
  | generic a as, b => by cases b <;> simp [beq, beqList_iff as]
theorem beqList_iff : ∀ as bs : List TypeExpr, beqList as bs = true ↔ as = bs
  | [], bs => by cases bs <;> simp [beqList]
  | a :: as, bs => by cases bs <;> simp [beqList, beq_iff a, beqList_iff as]
end

instance : DecidableEq TypeExpr := fun a b => decidable_of_iff _ (beq_iff a b)

/-- The type constructors that stand for an ordered sequence in every target. -/
def arrayConstructors : List String :=
  ["FrozenArray", "ObservableArray", "Array"]

/-- Whether the type is nullable at its outermost level. -/
def isNullable : TypeExpr → Bool
  | nullable _ => true
  | _ => false

/-- Whether the type is a sequence or one of the array constructors applied to one type. -/
def isSequenceLike : TypeExpr → Bool
  | sequence _ => true
  | generic name arguments => arguments.length == 1 && arrayConstructors.contains name
  | _ => false

/-- The identifier of a named type, seen through nullability. -/
def baseName? : TypeExpr → Option String
  | named name => some name
  | nullable inner => baseName? inner
  | _ => none

mutual
/-- The identifiers that occur in the type, from left to right.  The name of a type constructor is
not among them. -/
def references : TypeExpr → List String
  | named name => [name]
  | sequence inner | nullable inner => references inner
  | union members => referencesList members
  | generic _ arguments => referencesList arguments
/-- The identifiers of several types, in order. -/
def referencesList : List TypeExpr → List String
  | [] => []
  | t :: rest => references t ++ referencesList rest
end

end TypeExpr

/-! ## Default values -/

/-- What kind of value a default is. -/
inductive DefaultKind where
  | number
  | boolean
  | string
  | null
  | sequence
  | dictionary
  deriving DecidableEq

/-- The default of a dictionary member, a constant or an optional argument.  Its text is kept as
written. -/
structure DefaultValue where
  kind : DefaultKind
  text : String
  deriving DecidableEq

/-! ## Extended attributes and arguments -/

/-- What stands to the right of the equals sign of an extended attribute. -/
inductive AttributeValue where
  | identifier (name : String)
  | identifiers (names : List String)
  | string (text : String)
  | number (text : String)
  deriving DecidableEq

/-- An extended attribute, over the type of the arguments that it may carry. -/
structure ExtendedAttributeOf (argument : Type) where
  name : String
  value : Option AttributeValue
  arguments : Option (List argument)

/-- An argument of an operation, a callback or an extended attribute. -/
structure Argument where
  name : String
  type : TypeExpr
  optional : Bool
  variadic : Bool
  defaultValue : Option DefaultValue
  attributes : List (ExtendedAttributeOf Argument)

/-- An extended attribute. -/
abbrev ExtendedAttribute := ExtendedAttributeOf Argument

namespace Argument

mutual
/-- Structural comparison of arguments. -/
def beq : Argument → Argument → Bool
  | ⟨n, t, o, v, d, as⟩, ⟨m, u, p, w, e, bs⟩ =>
    n == m && t == u && o == p && v == w && d == e && beqAttributes as bs
/-- Structural comparison of extended attributes. -/
def beqAttributes : List ExtendedAttribute → List ExtendedAttribute → Bool
  | [], [] => true
  | ⟨n, r, none⟩ :: as, ⟨m, s, none⟩ :: bs => n == m && r == s && beqAttributes as bs
  | ⟨n, r, some x⟩ :: as, ⟨m, s, some y⟩ :: bs =>
    n == m && r == s && beqList x y && beqAttributes as bs
  | _, _ => false
/-- Structural comparison of argument lists. -/
def beqList : List Argument → List Argument → Bool
  | [], [] => true
  | a :: as, b :: bs => beq a b && beqList as bs
  | _, _ => false
end

mutual
theorem beq_iff : ∀ a b : Argument, beq a b = true ↔ a = b
  | ⟨_, _, _, _, _, as⟩, ⟨_, _, _, _, _, _⟩ => by simp [beq, beqAttributes_iff as, and_assoc]
theorem beqAttributes_iff :
    ∀ as bs : List ExtendedAttribute, beqAttributes as bs = true ↔ as = bs
  | [], bs => by cases bs <;> simp [beqAttributes]
  | ⟨_, _, none⟩ :: _, [] => by simp [beqAttributes]
  | ⟨_, _, some _⟩ :: _, [] => by simp [beqAttributes]
  | ⟨_, _, none⟩ :: as, ⟨_, _, y⟩ :: _ => by
    cases y <;> simp [beqAttributes, beqAttributes_iff as, and_assoc]
  | ⟨_, _, some x⟩ :: as, ⟨_, _, y⟩ :: _ => by
    cases y <;> simp [beqAttributes, beqAttributes_iff as, beqList_iff x, and_assoc]
theorem beqList_iff : ∀ as bs : List Argument, beqList as bs = true ↔ as = bs
  | [], bs => by cases bs <;> simp [beqList]
  | a :: as, bs => by cases bs <;> simp [beqList, beq_iff a, beqList_iff as]
end

instance : DecidableEq Argument := fun a b => decidable_of_iff _ (beq_iff a b)

end Argument

deriving instance DecidableEq for ExtendedAttributeOf

/-! ## Members -/

/-- What kind of member an interface or a dictionary declares. -/
inductive MemberKind where
  /-- A dictionary member. -/
  | field
  /-- An attribute of an interface. -/
  | property
  | operation
  | constructor
  | const
  | iterable
  | maplike
  | setlike
  | stringifier
  deriving DecidableEq

/-- A member of an interface or a dictionary. -/
structure Member where
  kind : MemberKind
  name : String
  type : TypeExpr
  /-- The key type of an iterable or a maplike declaration with two types. -/
  keyType : Option TypeExpr := none
  /-- Only a dictionary member can be left out. -/
  required : Bool := kind != .field
  readonly : Bool := false
  isStatic : Bool := false
  /-- The special keywords in front of an operation or an attribute, as written. -/
  specials : List String := []
  defaultValue : Option DefaultValue := none
  arguments : List Argument := []
  attributes : List ExtendedAttribute := []
  deriving DecidableEq

/-! ## Definitions -/

/-- What kind of declaration a definition is. -/
inductive DefinitionKind where
  | interface
  | dictionary
  | enum
  | callback
  | callbackInterface
  | typedef
  deriving DecidableEq

/-- The keyword or keywords that introduce a definition. -/
def DefinitionKind.keyword : DefinitionKind → String
  | .interface => "interface"
  | .dictionary => "dictionary"
  | .enum => "enum"
  | .callback => "callback"
  | .callbackInterface => "callback interface"
  | .typedef => "typedef"

/-- One named declaration. -/
structure Definition where
  kind : DefinitionKind
  name : String
  isPartial : Bool := false
  /-- The definition that this one inherits from. -/
  parent : Option String := none
  /-- The interface that this one is declared to implement or include. -/
  implements : Option String := none
  members : List Member := []
  /-- The values of an enumeration. -/
  values : List String := []
  attributes : List ExtendedAttribute := []
  /-- The aliased type of a typedef, or the type that a callback returns. -/
  type : Option TypeExpr := none
  /-- The arguments of a callback. -/
  arguments : List Argument := []
  deriving DecidableEq

/-! ## Whole schemas -/

namespace Schema

/-- Whether a definition of that name is declared. -/
def declares (schema : List Definition) (name : String) : Bool :=
  schema.any (·.name == name)

/-- The values of the enumeration of that name.  Of several the last one counts. -/
def enumValues? (schema : List Definition) (name : String) : Option (List String) :=
  (schema.reverse.find? fun d => d.kind == .enum && d.name == name).map (·.values)

/-- Whether an enumeration of that name is declared. -/
def isEnum (schema : List Definition) (name : String) : Bool :=
  (enumValues? schema name).isSome

end Schema

end IdlBindings
