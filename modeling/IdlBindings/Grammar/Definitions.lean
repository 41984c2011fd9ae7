/-
# IdlBindings.Grammar.Definitions: definitions and whole schemas.
-/
import IdlBindings.Grammar.Members

namespace IdlBindings

namespace Grammar

open Token (Located)

/-! ## One definition -/

/-- Leaves out `mixin` where a name follows it. -/
def skipMixin : Parser Unit := do
  if (← wordAt 0 "mixin") && (← identifierAt 1) then skip 1 else pure ()

/-- The name behind a colon, if there is one. -/
def parentOption : Parser (Option String) := do
  if ← eatPunct ':' then
    let parent ← identifier
    pure (some parent)
  else
    pure none

/-- An interface, a callback interface or a dictionary, behind its keywords. -/
def body (kind : DefinitionKind) (depth : Nat) : Parser Definition := do
  let name ← identifier
  let parent ← parentOption
  expect '\x7b'
  let members ← members kind name depth
  expect ';'
  pure { kind, name, parent, members }

/-- An interface or dictionary, behind `partial`. -/
def partialBody (depth : Nat) : Parser Definition := do
  if ← eatWord "interface" then
    skipMixin
    let definition ← body .interface depth
    pure { definition with isPartial := true }
  else if ← eatWord "dictionary" then
    let definition ← body .dictionary depth
    pure { definition with isPartial := true }
  else
    fail .partialKind

/-- A callback function, behind its keyword. -/
def callback (depth : Nat) : Parser Definition := do
  let name ← identifier
  expect '='
  let returned ← type depth
  let arguments ← arguments depth
  expect ';'
  pure { kind := .callback, name, type := some returned, arguments }

/-- An enumeration, behind its keyword. -/
def enumeration (depth : Nat) : Parser Definition := do
  let name ← identifier
  expect '\x7b'
  let values ← enumValues depth
  expect ';'
  pure { kind := .enum, name, values }

/-- A type alias, behind its keyword.  Extended attributes of the type are not kept. -/
def typeAlias (depth : Nat) : Parser Definition := do
  let _ ← attributes depth
  let aliased ← type depth
  let name ← identifier
  expect ';'
  pure { kind := .typedef, name, type := some aliased }

/-- A statement that an interface implements or includes another. -/
def implementation : Parser Definition := do
  let name ← identifier
  skip 1
  let implemented ← identifier
  expect ';'
  pure { kind := .interface, name, isPartial := true, implements := some implemented }

/-- A definition behind its extended attributes. -/
def bareDefinition (depth : Nat) : Parser Definition := do
  if ← eatWord "partial" then
    partialBody depth
  else if ← eatWord "callback" then
    if ← eatWord "interface" then body .callbackInterface depth else callback depth
  else if ← eatWord "interface" then
    skipMixin
    body .interface depth
  else if ← eatWord "dictionary" then
    body .dictionary depth
  else if ← eatWord "enum" then
    enumeration depth
  else if ← eatWord "typedef" then
    typeAlias depth
  else if (← identifierAt 0) && ((← wordAt 1 "implements") || (← wordAt 1 "includes")) then
    implementation
  else
    fail .definition

/-- A definition. -/
def definition (depth : Nat) : Parser Definition := do
  let attributes ← attributes depth
  let definition ← bareDefinition depth
  pure { definition with attributes }

/-! ## Schemas -/

/-- The definitions up to the end of the input. -/
def definitions : Nat → Parser (List Definition)
  | 0 => fail .shallower
  | depth + 1 => fun tokens =>
    match tokens with
    | [] => .ok ([], [])
    | t :: rest =>
      (do
        let first ← definition depth
        let others ← definitions depth
        pure (first :: others) : Parser (List Definition)) (t :: rest)

/-- The definitions that a list of tokens spells. -/
def readTokens (tokens : List Located) : Except ParseError (List Definition) :=
  match definitions (depthFor tokens) tokens with
  | .ok (definitions, _) => .ok definitions
  | .error failure => .error (failure.locate tokens)

end Grammar

/-- Reads the definitions of a text. -/
def Schema.parse (text : String) : Except ParseError (List Definition) :=
  match Token.lex text with
  | .ok tokens => Grammar.readTokens tokens
  | .error (position, fault) => .error ⟨position, .lexical fault⟩

end IdlBindings
