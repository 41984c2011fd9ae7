/-
# IdlBindings.Proofs.Printable: which schemas survive being written.

A schema is data, and not all of that data can be written.  Three things have to hold.

* The parts are *well formed*: names are identifiers, strings have no double quote in them, numbers are
  numbers, a nullable type is not made nullable again.
* Nothing is *hidden*: what the written form of a definition or a member leaves out has the value that
  a reader puts there.
* Nothing is *ambiguous*: no name stands where the grammar looks for a keyword first.  A field of type
  `required` would be read as a required field.

All three are decidable, and together they are `isPrintable`.
-/
import IdlBindings.Grammar.Members
import IdlBindings.Proofs.Lexing

namespace IdlBindings

open Token (isIdentifier isNumber isQuotable)

/-! ## Types -/

namespace TypeExpr

/-- The built-in names of several words. -/
def phrases : List (String × List String) :=
  [("unsigned short", ["unsigned", "short"]),
   ("unsigned long", ["unsigned", "long"]),
   ("unsigned long long", ["unsigned", "long", "long"]),
   ("long long", ["long", "long"]),
   ("unrestricted float", ["unrestricted", "float"]),
   ("unrestricted double", ["unrestricted", "double"])]

/-- The words of the name of a type. -/
def words (name : String) : List String :=
  (phrases.lookup name).getD [name]

/-- Whether a text is the name of a type: a built-in name of several words, or an identifier that does
not begin one of those. -/
def isTypeName (name : String) : Bool :=
  (phrases.lookup name).isSome
    || (isIdentifier name && name != "unsigned" && name != "unrestricted")

mutual
/-- Whether a type can be written. -/
def isWellFormed : TypeExpr → Bool
  | named name => isTypeName name
  | sequence element => isWellFormed element
  | nullable inner => !inner.isNullable && isWellFormed inner
  | union members => !members.isEmpty && areWellFormed members
  | generic name arguments =>
    isTypeName name && name != "sequence" && !arguments.isEmpty && areWellFormed arguments
/-- Whether several types can be written. -/
def areWellFormed : List TypeExpr → Bool
  | [] => true
  | t :: rest => isWellFormed t && areWellFormed rest
end

/-- The word that a type starts with, unless it starts with a parenthesis. -/
def leadingWord? : TypeExpr → Option String
  | named name => some name
  | sequence _ => some "sequence"
  | nullable inner => leadingWord? inner
  | union _ => none
  | generic name _ => some name

/-- The type constructor that a type starts with. -/
def leadingConstructor? : TypeExpr → Option String
  | sequence _ => some "sequence"
  | nullable inner => leadingConstructor? inner
  | generic name _ => some name
  | _ => none

/-- Whether `long` behind a type is taken for a part of it. -/
def takesLong : TypeExpr → Bool
  | named name => name == "long" || name == "unsigned long"
  | _ => false

end TypeExpr

/-! ## Values -/

/-- The numbers that are words. -/
def DefaultValue.numberWords : List String :=
  ["Infinity", "-Infinity", "NaN"]

/-- Whether a default can be written and has the text that its kind asks for. -/
def DefaultValue.isWellFormed (value : DefaultValue) : Bool :=
  match value.kind with
  | .number => isNumber value.text || numberWords.contains value.text
  | .boolean => value.text == "true" || value.text == "false"
  | .string => isQuotable value.text
  | .null => value.text == "null"
  | .sequence => value.text == "[]"
  | .dictionary => value.text == "\x7b\x7d"

/-- Whether the right side of an extended attribute can be written. -/
def AttributeValue.isWellFormed : AttributeValue → Bool
  | identifier name => isIdentifier name
  | identifiers names => !names.isEmpty && names.all isIdentifier
  | string text => isQuotable text
  | number text => isNumber text

/-! ## Arguments and extended attributes -/

namespace Argument

mutual
/-- Whether an argument can be written. -/
def isWellFormed : Argument → Bool
  | ⟨name, type, _, _, defaultValue, attributes⟩ =>
    isIdentifier name && type.isWellFormed && defaultValue.all (·.isWellFormed)
      && attributesWellFormed attributes
/-- Whether extended attributes can be written. -/
def attributesWellFormed : List ExtendedAttribute → Bool
  | [] => true
  | ⟨name, value, none⟩ :: rest =>
    isIdentifier name && value.all (·.isWellFormed) && attributesWellFormed rest
  | ⟨name, value, some arguments⟩ :: rest =>
    isIdentifier name && value.all (·.isWellFormed) && areWellFormed arguments
      && attributesWellFormed rest
/-- Whether several arguments can be written. -/
def areWellFormed : List Argument → Bool
  | [] => true
  | a :: rest => isWellFormed a && areWellFormed rest
end

theorem areWellFormed_iff (as : List Argument) : areWellFormed as = true ↔ ∀ a ∈ as, a.isWellFormed = true := by
  induction as with
  | nil => simp [areWellFormed]
  | cons a as ih => rw [areWellFormed, Bool.and_eq_true, ih, List.forall_mem_cons]

mutual
/-- Whether no name in an argument is taken for a keyword: its type for `optional`, or its own name for
the second word of `long long`. -/
def isUnambiguous : Argument → Bool
  | ⟨name, type, optional, variadic, _, attributes⟩ =>
    (optional || type.leadingWord? != some "optional")
      && (variadic || !(type.takesLong && name == "long"))
      && attributesUnambiguous attributes
/-- Whether no name in extended attributes is taken for a keyword. -/
def attributesUnambiguous : List ExtendedAttribute → Bool
  | [] => true
  | ⟨_, _, none⟩ :: rest => attributesUnambiguous rest
  | ⟨_, _, some arguments⟩ :: rest => areUnambiguous arguments && attributesUnambiguous rest
/-- Whether no name in several arguments is taken for a keyword. -/
def areUnambiguous : List Argument → Bool
  | [] => true
  | a :: rest => isUnambiguous a && areUnambiguous rest
end

end Argument

/-! ## Members -/

namespace Member

/-- Whether what a member shows can be written. -/
def isWellFormed (member : Member) : Bool :=
  Argument.attributesWellFormed member.attributes &&
  match member.kind with
  | .field =>
    isIdentifier member.name && member.type.isWellFormed
      && member.defaultValue.all (·.isWellFormed)
  | .property => isIdentifier member.name && member.type.isWellFormed
  | .operation =>
    (member.name.isEmpty || isIdentifier member.name) && member.type.isWellFormed
      && member.specials.all Grammar.specialWords.contains
      && Argument.areWellFormed member.arguments
  | .constructor => Argument.areWellFormed member.arguments
  | .const =>
    isIdentifier member.name && member.type.isWellFormed
      && member.defaultValue.any (·.isWellFormed)
  | .iterable | .maplike | .setlike =>
    member.type.isWellFormed && member.keyType.all (·.isWellFormed)
  | .stringifier => true

/-- The member of `owner` that the written form of a member stands for. -/
def shown (owner : String) (member : Member) : Member :=
  match member.kind with
  | .field =>
    { kind := .field, name := member.name, type := member.type, required := member.required
      defaultValue := member.defaultValue, attributes := member.attributes }
  | .property =>
    { kind := .property, name := member.name, type := member.type, readonly := member.readonly
      isStatic := member.isStatic, attributes := member.attributes }
  | .operation =>
    { kind := .operation, name := member.name, type := member.type, isStatic := member.isStatic
      specials := member.specials, arguments := member.arguments, attributes := member.attributes }
  | .constructor =>
    { kind := .constructor, name := "constructor", type := .named owner
      arguments := member.arguments, attributes := member.attributes }
  | .const =>
    { kind := .const, name := member.name, type := member.type
      defaultValue := member.defaultValue, attributes := member.attributes }
  | .iterable => collection "iterable"
  | .maplike => collection "maplike"
  | .setlike => collection "setlike"
  | .stringifier =>
    { kind := .stringifier, name := "", type := .named "DOMString"
      attributes := member.attributes }
where
  /-- An iterable, maplike or setlike declaration. -/
  collection (keyword : String) : Member :=
    { kind := member.kind, name := keyword, type := member.type, keyType := member.keyType
      required := true, readonly := member.readonly, attributes := member.attributes }

/-- Whether the type of an operation is not taken for something else.  Some keywords are looked for in
front of every operation, `const` and `constructor` only in front of one without modifiers. -/
def startsOperation (member : Member) : Bool :=
  member.type.leadingWord?.all (fun word => !Grammar.isModifier word && word != "attribute")
    && member.type.leadingConstructor?.all (fun word => !(["iterable", "maplike", "setlike"].contains word))
    && (member.isStatic || !member.specials.isEmpty
      || (member.type.leadingWord? != some "const"
        && !(member.type == .named "constructor" && member.name.isEmpty)))

/-- Whether no name in a member is taken for a keyword. -/
def isUnambiguous (member : Member) : Bool :=
  Argument.attributesUnambiguous member.attributes
    && Argument.areUnambiguous member.arguments
    && !(member.type.takesLong && member.name == "long")
    && match member.kind with
      | .field => member.required || member.type.leadingWord? != some "required"
      | .operation => member.startsOperation
      | _ => true

/-- Whether a definition of that kind has members of this kind: fields are those of dictionaries. -/
def fits (kind : DefinitionKind) (member : Member) : Bool :=
  (member.kind == .field) == (kind == .dictionary)

/-- Whether a member of the definition `owner` is read back from its written form. -/
def isPrintable (kind : DefinitionKind) (owner : String) (member : Member) : Bool :=
  member.isWellFormed && member.shown owner == member && member.fits kind && member.isUnambiguous

theorem isPrintable_iff {kind : DefinitionKind} {owner : String} {member : Member} :
    member.isPrintable kind owner = true ↔ member.isWellFormed = true ∧ member.shown owner = member
      ∧ member.fits kind = true ∧ member.isUnambiguous = true := by
  simp only [isPrintable, Bool.and_eq_true, beq_iff_eq, and_assoc]

end Member

/-! ## Definitions -/

namespace Definition

/-- Whether the parts of a definition can be written. -/
def isWellFormed (definition : Definition) : Bool :=
  isIdentifier definition.name
    && definition.parent.all isIdentifier
    && definition.implements.all isIdentifier
    && definition.members.all (·.isWellFormed)
    && definition.values.all isQuotable
    && Argument.attributesWellFormed definition.attributes
    && definition.type.all (·.isWellFormed)
    && Argument.areWellFormed definition.arguments

/-- The definition that the written form of a definition stands for.  An implemented interface is
written too, but as a definition of its own. -/
def shown (definition : Definition) : Definition :=
  match definition.kind with
  -- `partial` is written in front of every kind, but read in front of these two only
  | .interface | .dictionary =>
    { kind := definition.kind, name := definition.name, isPartial := definition.isPartial
      parent := definition.parent, members := definition.members
      attributes := definition.attributes }
  | .callbackInterface =>
    { kind := definition.kind, name := definition.name, parent := definition.parent
      members := definition.members, attributes := definition.attributes }
  | .enum =>
    { kind := .enum, name := definition.name, values := definition.values
      attributes := definition.attributes }
  -- a missing type is written as a name, and read as that name
  | .typedef =>
    { kind := .typedef, name := definition.name, attributes := definition.attributes
      type := some (definition.type.getD (.named "any")) }
  | .callback =>
    { kind := .callback, name := definition.name, attributes := definition.attributes
      type := some (definition.type.getD (.named "undefined")), arguments := definition.arguments }

/-- Whether no name in a definition, its members apart, is taken for a keyword. -/
def isUnambiguous (definition : Definition) : Bool :=
  Argument.attributesUnambiguous definition.attributes
    && Argument.areUnambiguous definition.arguments
    && match definition.kind with
      | .callback => definition.name != "interface"
      | .typedef => !(definition.type.any (·.takesLong) && definition.name == "long")
      | _ => true

/-- Whether a definition is read back from its written form. -/
def isPrintable (definition : Definition) : Bool :=
  definition.isWellFormed && definition.shown == definition && definition.isUnambiguous
    && definition.members.all (·.isPrintable definition.kind definition.name)

theorem isPrintable_iff {definition : Definition} :
    definition.isPrintable = true ↔ definition.isWellFormed = true ∧ definition.shown = definition
      ∧ definition.isUnambiguous = true
      ∧ ∀ m ∈ definition.members, m.isPrintable definition.kind definition.name = true := by
  simp only [isPrintable, Bool.and_eq_true, beq_iff_eq, and_assoc, List.all_eq_true]

end Definition

end IdlBindings
