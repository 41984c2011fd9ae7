/-
# IdlBindings.Grammar.Types: types, arguments, defaults and extended attributes.

Types, argument lists and extended attributes contain each other, so their parsers are defined
together, by recursion on a bound for the depth of nesting.  `depthFor` is a bound that no input
reaches.
-/
import IdlBindings.Grammar.Parser
import IdlBindings.Schema.Basic

namespace IdlBindings.Grammar

open Token (Located)

/-- A depth that suffices for an input: every construct takes a token within a few calls. -/
def depthFor (tokens : List Located) : Nat :=
  8 * tokens.length + 8

/-! ## Leaves -/

/-- A default value. -/
def defaultValue : Parser DefaultValue := do
  match ← next with
  | some (.string text) => pure ⟨.string, text⟩
  | some (.number text) => pure ⟨.number, text⟩
  | some (.identifier name) =>
    match name with
    | "true" | "false" => pure ⟨.boolean, name⟩
    | "null" => pure ⟨.null, name⟩
    | "Infinity" | "-Infinity" | "NaN" => pure ⟨.number, name⟩
    | _ => failBefore .defaultValue
  | some (.punct '[') => do
    expect ']'
    pure ⟨.sequence, "[]"⟩
  | some (.punct '\x7b') => do
    expect '\x7d'
    pure ⟨.dictionary, "\x7b\x7d"⟩
  | _ => failBefore .defaultValue

/-- A default value behind an equals sign, if there is one. -/
def defaultOption : Parser (Option DefaultValue) := do
  if ← eatPunct '=' then
    let value ← defaultValue
    pure (some value)
  else
    pure none

/-- The name of a type: an identifier, or a built-in name of several words. -/
def typeName : Parser String := do
  let first ← identifier
  match first with
  | "unsigned" =>
    if ← eatWord "short" then pure "unsigned short"
    else if ← eatWord "long" then
      if ← eatWord "long" then pure "unsigned long long" else pure "unsigned long"
    else fail .unsignedSize
  | "long" => if ← eatWord "long" then pure "long long" else pure "long"
  | "unrestricted" =>
    if ← eatWord "float" then pure "unrestricted float"
    else if ← eatWord "double" then pure "unrestricted double"
    else fail .unrestrictedKind
  | _ => pure first

/-- A type constructor applied to the types that were read between its angle brackets. -/
def applied (name : String) (arguments : List TypeExpr) : Parser TypeExpr :=
  if name = "sequence" then
    match arguments with
    | [element] => pure (.sequence element)
    | _ => failBefore .sequenceArity
  else
    pure (.generic name arguments)

/-- The identifiers behind commas. -/
def identifiersTail : Nat → Parser (List String)
  | 0 => fail .shallower
  | depth + 1 => do
    if ← eatPunct ',' then
      let name ← identifier
      let names ← identifiersTail depth
      pure (name :: names)
    else
      pure []

/-- What stands to the right of the equals sign of an extended attribute. -/
def attributeValue (depth : Nat) : Parser AttributeValue := do
  if ← eatPunct '(' then
    let name ← identifier
    let names ← identifiersTail depth
    expect ')'
    pure (.identifiers (name :: names))
  else
    match ← next with
    | some (.identifier name) => pure (.identifier name)
    | some (.string text) => pure (.string text)
    | some (.number text) => pure (.number text)
    | _ => failBefore .attributeValue

/-! ## Types, arguments and extended attributes -/

mutual
/-- A type: a union in parentheses or a single type, then at most one question mark. -/
def type : Nat → Parser TypeExpr
  | 0 => fail .shallower
  | depth + 1 => do
    let base ← if ← eatPunct '(' then do
        let first ← type depth
        let others ← unionTail depth
        expect ')'
        pure (.union (first :: others))
      else do
        -- Extended attributes of a type are read and not kept.
        let _ ← attributes depth
        singleType depth
    if ← eatPunct '?' then pure (.nullable base) else pure base
/-- The alternatives behind `or`. -/
def unionTail : Nat → Parser (List TypeExpr)
  | 0 => fail .shallower
  | depth + 1 => do
    if ← eatWord "or" then
      let t ← type depth
      let others ← unionTail depth
      pure (t :: others)
    else
      pure []
/-- A named type, with its arguments in angle brackets if there are any. -/
def singleType : Nat → Parser TypeExpr
  | 0 => fail .shallower
  | depth + 1 => do
    let name ← typeName
    if ← eatPunct '<' then
      let first ← type depth
      let others ← typesTail depth
      expect '>'
      applied name (first :: others)
    else
      pure (.named name)
/-- The types behind commas. -/
def typesTail : Nat → Parser (List TypeExpr)
  | 0 => fail .shallower
  | depth + 1 => do
    if ← eatPunct ',' then
      let t ← type depth
      let others ← typesTail depth
      pure (t :: others)
    else
      pure []
/-- An argument. -/
def argument : Nat → Parser Argument
  | 0 => fail .shallower
  | depth + 1 => do
    let attributes ← attributes depth
    let optional ← eatWord "optional"
    let type ← type depth
    let variadic ← eat .ellipsis
    let name ← identifier
    let defaultValue ← defaultOption
    pure { name, type, optional, variadic, defaultValue, attributes }
/-- The arguments up to the closing parenthesis; a comma may stand in front of it. -/
def argumentsTail : Nat → Parser (List Argument)
  | 0 => fail .shallower
  | depth + 1 => do
    if ← eatPunct ')' then
      pure []
    else
      let first ← argument depth
      if ← eatPunct ',' then
        let others ← argumentsTail depth
        pure (first :: others)
      else
        expect ')'
        pure [first]
/-- An extended attribute. -/
def oneAttribute : Nat → Parser ExtendedAttribute
  | 0 => fail .shallower
  | depth + 1 => do
    let name ← identifier
    let value ← if ← eatPunct '=' then some <$> attributeValue depth else pure none
    if ← eatPunct '(' then
      let arguments ← argumentsTail depth
      pure { name, value, arguments := some arguments }
    else
      pure { name, value, arguments := none }
/-- The extended attributes behind commas. -/
def attributesTail : Nat → Parser (List ExtendedAttribute)
  | 0 => fail .shallower
  | depth + 1 => do
    if ← eatPunct ',' then
      let first ← oneAttribute depth
      let others ← attributesTail depth
      pure (first :: others)
    else
      pure []
/-- Extended attributes in brackets, or none. -/
def attributes : Nat → Parser (List ExtendedAttribute)
  | 0 => fail .shallower
  | depth + 1 => do
    if ← eatPunct '[' then
      let first ← oneAttribute depth
      let others ← attributesTail depth
      expect ']'
      pure (first :: others)
    else
      pure []
end

/-- An argument list in parentheses. -/
def arguments (depth : Nat) : Parser (List Argument) := do
  expect '('
  argumentsTail depth

end IdlBindings.Grammar
