/-
# IdlBindings.Grammar.Members: the members of dictionaries and interfaces.
-/
import IdlBindings.Grammar.Types

namespace IdlBindings.Grammar

open Token (Located)

/-! ## Dictionary members -/

/-- A dictionary member. -/
def field (depth : Nat) : Parser Member := do
  let required ← eatWord "required"
  let attributes ← attributes depth
  let type ← type depth
  let name ← identifier
  let defaultValue ← defaultOption
  expect ';'
  pure { kind := .field, name, type, required, defaultValue, attributes }

/-! ## Interface members -/

/-- The keywords in front of an attribute or an operation. -/
structure Modifiers where
  isStatic : Bool := false
  readonly : Bool := false
  specials : List String := []

/-- The special keywords that are kept with a member. -/
def specialWords : List String :=
  ["getter", "setter", "deleter", "stringifier"]

/-- Whether a keyword is a modifier. -/
def isModifier (word : String) : Bool :=
  word == "static" || word == "readonly" || word == "inherit" || specialWords.contains word

/-- What a modifier adds in front of those that follow it. -/
def Modifiers.push (word : String) (later : Modifiers) : Modifiers :=
  if word = "static" then { later with isStatic := true }
  else if word = "readonly" then { later with readonly := true }
  else if word = "inherit" then later
  else { later with specials := word :: later.specials }

/-- The modifiers at the front of a token list, and what follows them. -/
def splitModifiers : List Located → Modifiers × List Located
  | [] => ({}, [])
  | ⟨.identifier word, place⟩ :: rest =>
    if isModifier word then
      let (later, behind) := splitModifiers rest
      (later.push word, behind)
    else
      ({}, ⟨.identifier word, place⟩ :: rest)
  | t :: rest => ({}, t :: rest)

/-- The modifiers of a member. -/
def modifiers : Parser Modifiers :=
  fun tokens => .ok (splitModifiers tokens)

/-- A constant, behind its keyword. -/
def constant (depth : Nat) : Parser Member := do
  let type ← type depth
  let name ← identifier
  expect '='
  let value ← defaultValue
  expect ';'
  pure { kind := .const, name, type, defaultValue := some value }

/-- A constructor of the interface `owner`, behind its keyword. -/
def constructorOf (owner : String) (depth : Nat) : Parser Member := do
  let arguments ← arguments depth
  expect ';'
  pure { kind := .constructor, name := "constructor", type := .named owner, arguments }

/-- An attribute, behind its keyword. -/
def property (modifiers : Modifiers) (depth : Nat) : Parser Member := do
  let type ← type depth
  let name ← identifier
  expect ';'
  pure { kind := .property, name, type, readonly := modifiers.readonly,
         isStatic := modifiers.isStatic, specials := modifiers.specials }

/-- An iterable, maplike or setlike declaration, behind its opening angle bracket.  Of two types the
first is the key. -/
def collection (kind : MemberKind) (keyword : String) (modifiers : Modifiers) (depth : Nat) :
    Parser Member := do
  let first ← type depth
  let second ← if ← eatPunct ',' then some <$> type depth else pure none
  expect '>'
  expect ';'
  match second with
  | some value =>
    pure { kind, name := keyword, type := value, keyType := some first, required := true,
           readonly := modifiers.readonly }
  | none =>
    pure { kind, name := keyword, type := first, required := true,
           readonly := modifiers.readonly }

/-- An operation; it may have no name. -/
def operation (modifiers : Modifiers) (depth : Nat) : Parser Member := do
  let type ← type depth
  let name ← if ← identifierAt 0 then identifier else pure ""
  let arguments ← arguments depth
  expect ';'
  pure { kind := .operation, name, type, arguments, isStatic := modifiers.isStatic,
         specials := modifiers.specials }

/-- Whether a keyword comes next and an opening angle bracket behind it. -/
def startsCollection (keyword : String) : Parser Bool := do
  return (← wordAt 0 keyword) && (← punctAt 1 '<')

/-- An attribute, a collection declaration or an operation, behind its modifiers. -/
def modified (modifiers : Modifiers) (depth : Nat) : Parser Member := do
  if ← eatWord "attribute" then
    property modifiers depth
  else if ← startsCollection "iterable" then
    skip 2
    collection .iterable "iterable" modifiers depth
  else if ← startsCollection "maplike" then
    skip 2
    collection .maplike "maplike" modifiers depth
  else if ← startsCollection "setlike" then
    skip 2
    collection .setlike "setlike" modifiers depth
  else
    operation modifiers depth

/-- A member of the interface `owner`. -/
def interfaceMember (owner : String) (depth : Nat) : Parser Member := do
  if ← eatWord "const" then
    constant depth
  else if (← wordAt 0 "constructor") && (← punctAt 1 '(') then
    skip 1
    constructorOf owner depth
  else if (← wordAt 0 "stringifier") && (← punctAt 1 ';') then
    skip 2
    pure { kind := .stringifier, name := "", type := .named "DOMString" }
  else
    let modifiers ← modifiers
    modified modifiers depth

/-! ## Bodies -/

/-- A member of the definition `owner`, with the extended attributes in front of it. -/
def member (kind : DefinitionKind) (owner : String) (depth : Nat) : Parser Member := do
  let outer ← attributes depth
  let member ← if kind = .dictionary then field depth else interfaceMember owner depth
  pure { member with attributes := outer ++ member.attributes }

/-- The members up to the closing brace. -/
def members (kind : DefinitionKind) (owner : String) : Nat → Parser (List Member)
  | 0 => fail .shallower
  | depth + 1 => do
    if ← eatPunct '\x7d' then
      pure []
    else
      let first ← member kind owner depth
      let others ← members kind owner depth
      pure (first :: others)

/-- The values of an enumeration up to the closing brace; a comma may stand in front of it. -/
def enumValues : Nat → Parser (List String)
  | 0 => fail .shallower
  | depth + 1 => do
    if ← eatPunct '\x7d' then
      pure []
    else
      match ← next with
      | some (.string value) =>
        if ← eatPunct ',' then
          let others ← enumValues depth
          pure (value :: others)
        else
          expect '\x7d'
          pure [value]
      | _ => failBefore .enumValue

end IdlBindings.Grammar
