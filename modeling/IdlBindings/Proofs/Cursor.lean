/-
# IdlBindings.Proofs.Cursor: the grammar for a position that moves.

The parsers of the grammar work on the tokens that are left, and on a bound for the depth of nesting.  Here the same
grammar is read with a cursor: the tokens stay as they are, and a position in them moves forward.  Nothing is bounded.
A loop goes on until it meets its end, a type calls itself as often as it likes, and a step of two tokens is taken
whether or not they are there.  So it is not clear from the definitions that a run ends, or that it stays among the
tokens.
-/
import IdlBindings.Proofs.ParserSteps

namespace IdlBindings

open Token (Located)
open Grammar (Modifiers isModifier valueWords)

/-- The tokens that a position moves over. -/
structure Cursor where
  tokens : List Located

namespace Cursor

/-- An expectation that was not met, and the index of the offending token. -/
structure Fault where
  expectation : Expectation
  place : Nat
  deriving DecidableEq

/-- A fault seen in the whole input.  Behind the last token the place is that of the last token. -/
def Fault.locate (tokens : List Located) (fault : Fault) : ParseError :=
  match tokens[fault.place]? with
  | some found => ⟨found.position, .unmet fault.expectation (some found.token)⟩
  | none => ⟨(tokens.getLast?.map (·.position)).getD .start, .unmet fault.expectation none⟩

/-- A run from a position.  If it ends it has a value or a fault, and a position that it has come to. -/
abbrev Run :=
  ExceptT Fault (StateT Nat Option)

variable {α : Type}

/-! ## Single tokens -/

/-- The token `k` places ahead. -/
def peek (cursor : Cursor) (k : Nat) : Run (Option Token) := do
  return cursor.tokens[(← get) + k]?.map (·.token)

/-- Moves forward.  It is not asked whether there are so many tokens. -/
def advance (k : Nat) : Run Unit :=
  modify (· + k)

/-- Fails at the next token. -/
def fail (expectation : Expectation) : Run α := do
  throw ⟨expectation, ← get⟩

/-- Fails at the token in front of the next one. -/
def failBefore (expectation : Expectation) : Run α := do
  throw ⟨expectation, (← get) - 1⟩

/-- Takes the next token, if there is one. -/
def next (cursor : Cursor) : Run (Option Token) := do
  match ← cursor.peek 0 with
  | some token =>
    advance 1
    pure (some token)
  | none => pure none

/-- Takes the next token if it is `token`, and says whether it was. -/
def eat (cursor : Cursor) (token : Token) : Run Bool := do
  if (← cursor.peek 0) = some token then
    advance 1
    pure true
  else
    pure false

/-- Takes a punctuation mark if it comes next. -/
def eatPunct (cursor : Cursor) (c : Char) : Run Bool :=
  cursor.eat (.punct c)

/-- Takes a keyword if it comes next. -/
def eatWord (cursor : Cursor) (word : String) : Run Bool :=
  cursor.eat (.identifier word)

/-- Takes a punctuation mark that has to come next. -/
def expect (cursor : Cursor) (c : Char) : Run Unit := do
  if ← cursor.eatPunct c then pure () else fail (.punct c)

/-- Takes an identifier that has to come next. -/
def identifier (cursor : Cursor) : Run String := do
  match ← cursor.peek 0 with
  | some (.identifier name) =>
    advance 1
    pure name
  | _ => fail .identifier

/-- Whether an identifier stands `k` places ahead. -/
def identifierAt (cursor : Cursor) (k : Nat) : Run Bool := do
  match ← cursor.peek k with
  | some (.identifier _) => pure true
  | _ => pure false

/-- Whether a keyword stands `k` places ahead. -/
def wordAt (cursor : Cursor) (k : Nat) (word : String) : Run Bool := do
  return (← cursor.peek k) == some (.identifier word)

/-- Whether a punctuation mark stands `k` places ahead. -/
def punctAt (cursor : Cursor) (k : Nat) (c : Char) : Run Bool := do
  return (← cursor.peek k) == some (.punct c)

/-- Whether a keyword comes next and a punctuation mark behind it. -/
def announces (cursor : Cursor) (word : String) (mark : Char) : Run Bool := do
  return (← cursor.wordAt 0 word) && (← cursor.punctAt 1 mark)

/-! ## Types, arguments, defaults and extended attributes -/

/-- A default value. -/
def defaultValue (cursor : Cursor) : Run DefaultValue := do
  match ← cursor.next with
  | some (.string text) => pure ⟨.string, text⟩
  | some (.number text) => pure ⟨.number, text⟩
  | some (.identifier name) =>
    match valueWords.lookup name with
    | some kind => pure ⟨kind, name⟩
    | none => failBefore .defaultValue
  | some (.punct c) =>
    if c = '[' then do
      cursor.expect ']'
      pure ⟨.sequence, "[]"⟩
    else if c = '\x7b' then do
      cursor.expect '\x7d'
      pure ⟨.dictionary, "\x7b\x7d"⟩
    else
      failBefore .defaultValue
  | some .ellipsis | none => failBefore .defaultValue

/-- A default value behind an equals sign, if there is one. -/
def defaultOption (cursor : Cursor) : Run (Option DefaultValue) := do
  if ← cursor.eatPunct '=' then
    let value ← cursor.defaultValue
    pure (some value)
  else
    pure none

/-- The name of a type: an identifier, or a built-in name of several words. -/
def typeName (cursor : Cursor) : Run String := do
  let first ← cursor.identifier
  if first = "unsigned" then
    if ← cursor.eatWord "short" then pure "unsigned short"
    else if ← cursor.eatWord "long" then
      if ← cursor.eatWord "long" then pure "unsigned long long" else pure "unsigned long"
    else fail .unsignedSize
  else if first = "long" then
    if ← cursor.eatWord "long" then pure "long long" else pure "long"
  else if first = "unrestricted" then
    if ← cursor.eatWord "float" then pure "unrestricted float"
    else if ← cursor.eatWord "double" then pure "unrestricted double"
    else fail .unrestrictedKind
  else
    pure first

/-- A type constructor applied to the types that were read between its angle brackets. -/
def applied (name : String) (arguments : List TypeExpr) : Run TypeExpr :=
  if name = "sequence" then
    match arguments with
    | [element] => pure (.sequence element)
    | _ => failBefore .sequenceArity
  else
    pure (.generic name arguments)

/-- The identifiers behind commas. -/
def identifiersTail (cursor : Cursor) : Run (List String) := do
  if ← cursor.eatPunct ',' then
    let name ← cursor.identifier
    let names ← cursor |>.identifiersTail
    pure (name :: names)
  else
    pure []
partial_fixpoint

/-- What stands to the right of the equals sign of an extended attribute. -/
def attributeValue (cursor : Cursor) : Run AttributeValue := do
  if ← cursor.eatPunct '(' then
    let name ← cursor.identifier
    let names ← cursor.identifiersTail
    cursor.expect ')'
    pure (.identifiers (name :: names))
  else
    match ← cursor.next with
    | some (.identifier name) => pure (.identifier name)
    | some (.string text) => pure (.string text)
    | some (.number text) => pure (.number text)
    | _ => failBefore .attributeValue

mutual
/-- A type: a union in parentheses or a single type, then at most one question mark. -/
def type (cursor : Cursor) : Run TypeExpr := do
  let base ← if ← cursor.eatPunct '(' then do
      let first ← cursor |>.type
      let others ← cursor |>.unionTail
      cursor.expect ')'
      pure (.union (first :: others))
    else do
      let _ ← cursor |>.attributes
      cursor |>.singleType
  if ← cursor.eatPunct '?' then pure (.nullable base) else pure base
partial_fixpoint
/-- The alternatives behind `or`. -/
def unionTail (cursor : Cursor) : Run (List TypeExpr) := do
  if ← cursor.eatWord "or" then
    let t ← cursor |>.type
    let others ← cursor |>.unionTail
    pure (t :: others)
  else
    pure []
partial_fixpoint
/-- A named type, with its arguments in angle brackets if there are any. -/
def singleType (cursor : Cursor) : Run TypeExpr := do
  let name ← cursor.typeName
  if ← cursor.eatPunct '<' then
    let first ← cursor |>.type
    let others ← cursor |>.typesTail
    cursor.expect '>'
    applied name (first :: others)
  else
    pure (.named name)
partial_fixpoint
/-- The types behind commas. -/
def typesTail (cursor : Cursor) : Run (List TypeExpr) := do
  if ← cursor.eatPunct ',' then
    let t ← cursor |>.type
    let others ← cursor |>.typesTail
    pure (t :: others)
  else
    pure []
partial_fixpoint
/-- An argument. -/
def argument (cursor : Cursor) : Run Argument := do
  let attributes ← cursor |>.attributes
  let optional ← cursor.eatWord "optional"
  let type ← cursor |>.type
  let variadic ← cursor.eat .ellipsis
  let name ← cursor.identifier
  let defaultValue ← cursor.defaultOption
  pure { name, type, optional, variadic, defaultValue, attributes }
partial_fixpoint
/-- The arguments up to the closing parenthesis; a comma may stand in front of it. -/
def argumentsTail (cursor : Cursor) : Run (List Argument) := do
  if ← cursor.eatPunct ')' then
    pure []
  else
    let first ← cursor |>.argument
    if ← cursor.eatPunct ',' then
      let others ← cursor |>.argumentsTail
      pure (first :: others)
    else
      cursor.expect ')'
      pure [first]
partial_fixpoint
/-- An extended attribute. -/
def oneAttribute (cursor : Cursor) : Run ExtendedAttribute := do
  let name ← cursor.identifier
  let value ← if ← cursor.eatPunct '=' then some <$> cursor.attributeValue else pure none
  if ← cursor.eatPunct '(' then
    let arguments ← cursor |>.argumentsTail
    pure { name, value, arguments := some arguments }
  else
    pure { name, value, arguments := none }
partial_fixpoint
/-- The extended attributes behind commas. -/
def attributesTail (cursor : Cursor) : Run (List ExtendedAttribute) := do
  if ← cursor.eatPunct ',' then
    let first ← cursor |>.oneAttribute
    let others ← cursor |>.attributesTail
    pure (first :: others)
  else
    pure []
partial_fixpoint
/-- Extended attributes in brackets, or none. -/
def attributes (cursor : Cursor) : Run (List ExtendedAttribute) := do
  if ← cursor.eatPunct '[' then
    let first ← cursor |>.oneAttribute
    let others ← cursor |>.attributesTail
    cursor.expect ']'
    pure (first :: others)
  else
    pure []
partial_fixpoint
end

/-- An argument list in parentheses. -/
def arguments (cursor : Cursor) : Run (List Argument) := do
  cursor.expect '('
  cursor.argumentsTail

/-! ## Members -/

/-- A dictionary member. -/
def field (cursor : Cursor) : Run Member := do
  let required ← cursor.eatWord "required"
  let attributes ← cursor.attributes
  let type ← cursor.type
  let name ← cursor.identifier
  let defaultValue ← cursor.defaultOption
  cursor.expect ';'
  pure { kind := .field, name, type, required, defaultValue, attributes }

/-- The modifiers of a member. -/
def modifiers (cursor : Cursor) : Run Modifiers := do
  match ← cursor.peek 0 with
  | some (.identifier word) =>
    if isModifier word then
      advance 1
      let later ← cursor |>.modifiers
      pure (later.push word)
    else
      pure {}
  | _ => pure {}
partial_fixpoint

/-- A constant, behind its keyword. -/
def constant (cursor : Cursor) : Run Member := do
  let type ← cursor.type
  let name ← cursor.identifier
  cursor.expect '='
  let value ← cursor.defaultValue
  cursor.expect ';'
  pure { kind := .const, name, type, defaultValue := some value }

/-- A constructor of the interface `owner`, behind its keyword. -/
def constructorOf (cursor : Cursor) (owner : String) : Run Member := do
  let arguments ← cursor.arguments
  cursor.expect ';'
  pure { kind := .constructor, name := "constructor", type := .named owner, arguments }

/-- An attribute, behind its keyword. -/
def property (cursor : Cursor) (modifiers : Modifiers) : Run Member := do
  let type ← cursor.type
  let name ← cursor.identifier
  cursor.expect ';'
  pure { kind := .property, name, type, readonly := modifiers.readonly,
         isStatic := modifiers.isStatic, specials := modifiers.specials }

/-- An iterable, maplike or setlike declaration, behind its opening angle bracket. -/
def collection (cursor : Cursor) (kind : MemberKind) (keyword : String) (modifiers : Modifiers) : Run Member := do
  let first ← cursor.type
  let second ← if ← cursor.eatPunct ',' then some <$> cursor.type else pure none
  cursor.expect '>'
  cursor.expect ';'
  match second with
  | some value =>
    pure { kind, name := keyword, type := value, keyType := some first, required := true,
           readonly := modifiers.readonly }
  | none =>
    pure { kind, name := keyword, type := first, required := true,
           readonly := modifiers.readonly }

/-- An operation; it may have no name. -/
def operation (cursor : Cursor) (modifiers : Modifiers) : Run Member := do
  let type ← cursor.type
  let name ← if ← cursor.identifierAt 0 then cursor.identifier else pure ""
  let arguments ← cursor.arguments
  cursor.expect ';'
  pure { kind := .operation, name, type, arguments, isStatic := modifiers.isStatic,
         specials := modifiers.specials }

/-- An attribute, a collection declaration or an operation, behind its modifiers. -/
def modified (cursor : Cursor) (modifiers : Modifiers) : Run Member := do
  if ← cursor.eatWord "attribute" then
    cursor.property modifiers
  else if ← cursor.announces "iterable" '<' then
    advance 2
    cursor.collection .iterable "iterable" modifiers
  else if ← cursor.announces "maplike" '<' then
    advance 2
    cursor.collection .maplike "maplike" modifiers
  else if ← cursor.announces "setlike" '<' then
    advance 2
    cursor.collection .setlike "setlike" modifiers
  else
    cursor.operation modifiers

/-- A member of the interface `owner`. -/
def interfaceMember (cursor : Cursor) (owner : String) : Run Member := do
  if ← cursor.eatWord "const" then
    cursor.constant
  else if ← cursor.announces "constructor" '(' then
    advance 1
    cursor.constructorOf owner
  else if ← cursor.announces "stringifier" ';' then
    advance 2
    pure { kind := .stringifier, name := "", type := .named "DOMString" }
  else
    let modifiers ← cursor.modifiers
    cursor.modified modifiers

/-- A member of the definition `owner`, with the extended attributes in front of it. -/
def member (cursor : Cursor) (kind : DefinitionKind) (owner : String) : Run Member := do
  let outer ← cursor.attributes
  let member ← if kind = .dictionary then cursor.field else cursor.interfaceMember owner
  pure { member with attributes := outer ++ member.attributes }

/-- The members up to the closing brace. -/
def members (cursor : Cursor) (kind : DefinitionKind) (owner : String) : Run (List Member) := do
  if ← cursor.eatPunct '\x7d' then
    pure []
  else
    let first ← cursor.member kind owner
    let others ← cursor |>.members kind owner
    pure (first :: others)
partial_fixpoint

/-- The values of an enumeration up to the closing brace; a comma may stand in front of it. -/
def enumValues (cursor : Cursor) : Run (List String) := do
  if ← cursor.eatPunct '\x7d' then
    pure []
  else
    match ← cursor.next with
    | some (.string value) =>
      if ← cursor.eatPunct ',' then
        let others ← cursor |>.enumValues
        pure (value :: others)
      else
        cursor.expect '\x7d'
        pure [value]
    | _ => failBefore .enumValue
partial_fixpoint

/-! ## Definitions -/

/-- Leaves out `mixin` where a name follows it. -/
def skipMixin (cursor : Cursor) : Run Unit := do
  if (← cursor.wordAt 0 "mixin") && (← cursor.identifierAt 1) then advance 1 else pure ()

/-- The name behind a colon, if there is one. -/
def parentOption (cursor : Cursor) : Run (Option String) := do
  if ← cursor.eatPunct ':' then
    let parent ← cursor.identifier
    pure (some parent)
  else
    pure none

/-- An interface, a callback interface or a dictionary, behind its keywords. -/
def body (cursor : Cursor) (kind : DefinitionKind) : Run Definition := do
  let name ← cursor.identifier
  let parent ← cursor.parentOption
  cursor.expect '\x7b'
  let members ← cursor.members kind name
  cursor.expect ';'
  pure { kind, name, parent, members }

/-- An interface or dictionary, behind `partial`. -/
def partialBody (cursor : Cursor) : Run Definition := do
  if ← cursor.eatWord "interface" then
    cursor.skipMixin
    let definition ← cursor.body .interface
    pure { definition with isPartial := true }
  else if ← cursor.eatWord "dictionary" then
    let definition ← cursor.body .dictionary
    pure { definition with isPartial := true }
  else
    fail .partialKind

/-- A callback function, behind its keyword. -/
def callback (cursor : Cursor) : Run Definition := do
  let name ← cursor.identifier
  cursor.expect '='
  let returned ← cursor.type
  let arguments ← cursor.arguments
  cursor.expect ';'
  pure { kind := .callback, name, type := some returned, arguments }

/-- An enumeration, behind its keyword. -/
def enumeration (cursor : Cursor) : Run Definition := do
  let name ← cursor.identifier
  cursor.expect '\x7b'
  let values ← cursor.enumValues
  cursor.expect ';'
  pure { kind := .enum, name, values }

/-- A type alias, behind its keyword. -/
def typeAlias (cursor : Cursor) : Run Definition := do
  let _ ← cursor.attributes
  let aliased ← cursor.type
  let name ← cursor.identifier
  cursor.expect ';'
  pure { kind := .typedef, name, type := some aliased }

/-- A statement that an interface implements or includes another. -/
def implementation (cursor : Cursor) : Run Definition := do
  let name ← cursor.identifier
  advance 1
  let implemented ← cursor.identifier
  cursor.expect ';'
  pure { kind := .interface, name, isPartial := true, implements := some implemented }

/-- Such a statement, if its first two tokens announce it. -/
def implementationStatement (cursor : Cursor) : Run Definition := do
  if (← cursor.identifierAt 0) && ((← cursor.wordAt 1 "implements") || (← cursor.wordAt 1 "includes")) then
    cursor.implementation
  else
    fail .definition

/-- A definition behind its extended attributes. -/
def bareDefinition (cursor : Cursor) : Run Definition := do
  if ← cursor.eatWord "partial" then
    cursor.partialBody
  else if ← cursor.eatWord "callback" then
    if ← cursor.eatWord "interface" then cursor.body .callbackInterface else cursor.callback
  else if ← cursor.eatWord "interface" then
    cursor.skipMixin
    cursor.body .interface
  else if ← cursor.eatWord "dictionary" then
    cursor.body .dictionary
  else if ← cursor.eatWord "enum" then
    cursor.enumeration
  else if ← cursor.eatWord "typedef" then
    cursor.typeAlias
  else
    cursor.implementationStatement

/-- A definition. -/
def definition (cursor : Cursor) : Run Definition := do
  let attributes ← cursor.attributes
  let definition ← cursor.bareDefinition
  pure { definition with attributes }

/-- The definitions up to the end of the input. -/
def definitions (cursor : Cursor) : Run (List Definition) := do
  if (← get) < cursor.tokens.length then
    let first ← cursor.definition
    let others ← cursor |>.definitions
    pure (first :: others)
  else
    pure []
partial_fixpoint

/-- The definitions that the tokens spell, if the run over them ends. -/
def read? (cursor : Cursor) : Option (Except ParseError (List Definition)) :=
  (cursor.definitions 0).map fun result => result.1.mapError (Fault.locate cursor.tokens)

end Cursor

end IdlBindings
