/-
# IdlBindings.Target.TypeSpelling: types in the words of a target, and what a target cannot express.

One algorithm spells types for every target.  What differs is a table: the names of the built-in
types and the brackets around nullable values, sequences, unions, values that may be left out, and
the arguments of a type constructor.
-/
import IdlBindings.Schema.Basic

namespace IdlBindings

/-! ## Faults -/

/-- Why a schema has no rendering in a target. -/
inductive MappingFault where
  /-- A union of other than two types. -/
  | unionArity (arity : Nat)
  /-- A default that is not a value of its enumeration. -/
  | invalidEnumValue (enum value : String)
  /-- A value without a spelling in its type. -/
  | unknownTypeOrValue (type value : String)
  /-- Two definitions with one output file. -/
  | outputCollision (path : String)
  deriving DecidableEq

/-- The wording of a fault. -/
def MappingFault.message : MappingFault → String
  | unionArity arity =>
    "No support for unions of " ++ toString arity
      ++ " types; only unions of exactly two types can be mapped"
  | invalidEnumValue enum value => "Value \"" ++ value ++ "\" is not a valid " ++ enum
  | unknownTypeOrValue type value => "Unknown type \"" ++ type ++ "\" and value \"" ++ value ++ "\""
  | outputCollision path => "More than one definition would be written to " ++ path

/-! ## Types -/

/-- Text around an item. -/
structure Wrapper where
  before : String
  behind : String

/-- The item with the text around it. -/
def Wrapper.wrap (wrapper : Wrapper) (item : String) : String :=
  wrapper.before ++ item ++ wrapper.behind

/-- Text around and between items. -/
structure Listing where
  before : String
  between : String
  behind : String

/-- The items with the text around and between them. -/
def Listing.wrap (listing : Listing) (items : List String) : String :=
  listing.before ++ listing.between.intercalate items ++ listing.behind

/-- How a target writes types. -/
structure TypeSpelling where
  /-- The built-in types with their names in the target. -/
  primitives : List (String × String)
  nullable : Wrapper
  sequence : Wrapper
  union : Listing
  /-- Around the type of a value that may be left out. -/
  omittable : Wrapper
  /-- Around the arguments of a type constructor. -/
  generic : Listing

namespace TypeSpelling

/-- The name of a type in the target; names that are not built in keep theirs. -/
def nameOf (spelling : TypeSpelling) (name : String) : String :=
  (spelling.primitives.lookup name).getD name

mutual
/-- The spelling of a type.  Only unions of two types have one. -/
def spell (spelling : TypeSpelling) : TypeExpr → Except MappingFault String
  | .named name => pure (spelling.nameOf name)
  | .nullable inner => do
    let inner ← spell spelling inner
    pure (spelling.nullable.wrap inner)
  | .sequence element => do
    let element ← spell spelling element
    pure (spelling.sequence.wrap element)
  | .union [first, second] => do
    let first ← spell spelling first
    let second ← spell spelling second
    pure (spelling.union.wrap [first, second])
  | .union members => throw (.unionArity members.length)
  | .generic name arguments => do
    let arguments ← spellList spelling arguments
    match TypeExpr.arrayConstructors.contains name, arguments with
    | true, [element] => pure (spelling.sequence.wrap element)
    | _, arguments => pure (spelling.nameOf name ++ spelling.generic.wrap arguments)
/-- The spellings of several types. -/
def spellList (spelling : TypeSpelling) : List TypeExpr → Except MappingFault (List String)
  | [] => pure []
  | t :: rest => do
    let t ← spell spelling t
    let rest ← spellList spelling rest
    pure (t :: rest)
end

/-- Whether the type of a value that may be left out has to say so.  A nullable value and a sequence
have an empty value of their own. -/
def isOmittable (type : TypeExpr) (required : Bool) : Bool :=
  !required && !type.isNullable && !type.isSequenceLike

/-- The spelling of the type of a value that may be left out unless it is required. -/
def spellOptional (spelling : TypeSpelling) (type : TypeExpr) (required : Bool) :
    Except MappingFault String := do
  let spelled ← spelling.spell type
  pure (if isOmittable type required then spelling.omittable.wrap spelled else spelled)

/-- The spelling of a member's type. -/
def spellMember (spelling : TypeSpelling) (member : Member) : Except MappingFault String :=
  spelling.spellOptional member.type member.required

/-- The spelling of an argument's type. -/
def spellArgument (spelling : TypeSpelling) (argument : Argument) : Except MappingFault String :=
  spelling.spellOptional argument.type (!argument.optional)

/-! ## The four tables -/

/-- C++ types. -/
def cpp : TypeSpelling where
  primitives :=
    [("boolean", "bool"), ("byte", "int8_t"), ("octet", "uint8_t"), ("short", "int16_t"),
     ("unsigned short", "uint16_t"), ("long", "int32_t"), ("unsigned long", "uint32_t"),
     ("long long", "int64_t"), ("unsigned long long", "uint64_t"), ("float", "float"),
     ("unrestricted float", "float"), ("double", "double"), ("unrestricted double", "double"),
     ("DOMString", "std::string"), ("USVString", "std::string"), ("ByteString", "std::string"),
     ("DOMTimeStamp", "uint64_t"), ("DOMHighResTimeStamp", "double"), ("void", "void"),
     ("undefined", "void")]
  nullable := ⟨"std::optional<", ">"⟩
  sequence := ⟨"std::vector<", ">"⟩
  union := ⟨"Either<", ", ", ">"⟩
  omittable := ⟨"Optional<", ">"⟩
  generic := ⟨"<", ", ", ">"⟩

/-- The built-in types of the script targets. -/
def scriptPrimitives : List (String × String) :=
  [("boolean", "boolean"), ("byte", "number"), ("octet", "number"), ("short", "number"),
   ("unsigned short", "number"), ("long", "number"), ("unsigned long", "number"),
   ("long long", "number"), ("unsigned long long", "number"), ("float", "number"),
   ("unrestricted float", "number"), ("double", "number"), ("unrestricted double", "number"),
   ("DOMString", "string"), ("USVString", "string"), ("ByteString", "string"),
   ("DOMTimeStamp", "number"), ("DOMHighResTimeStamp", "number"), ("DOMException", "Error"),
   ("object", "Object"), ("void", "void"), ("undefined", "void")]

/-- Flow types. -/
def flow : TypeSpelling where
  primitives := scriptPrimitives
  nullable := ⟨"?", ""⟩
  sequence := ⟨"Array<", ">"⟩
  union := ⟨"(", " | ", ")"⟩
  omittable := ⟨"void | ", ""⟩
  generic := ⟨"<", ", ", ">"⟩

/-- The types of JavaScript doc comments. -/
def javascript : TypeSpelling where
  primitives := scriptPrimitives
  nullable := ⟨"?", ""⟩
  sequence := ⟨"Array<", ">"⟩
  union := ⟨"(", "|", ")"⟩
  omittable := ⟨"", "="⟩
  generic := ⟨"<", ", ", ">"⟩

/-- Types as the interface language writes them. -/
def idl : TypeSpelling where
  primitives := []
  nullable := ⟨"", "?"⟩
  sequence := ⟨"sequence<", ">"⟩
  union := ⟨"(", " or ", ")"⟩
  omittable := ⟨"optional ", ""⟩
  generic := ⟨"<", ", ", ">"⟩

end TypeSpelling

end IdlBindings
