/-
# IdlBindings.Grammar.Parser: reading a list of tokens from the front.

A parser takes the tokens that are left and gives a value with the tokens behind it, or fails.  A
failure says what was expected and at which token, counted from the end of the input, so that it does
not depend on what was read before.  Once the whole input is known it becomes a `ParseError` with a
line and a column.
-/
import IdlBindings.Token.Lexer

namespace IdlBindings

/-! ## What can go wrong -/

/-- What the grammar asked for at a token. -/
inductive Expectation where
  | punct (c : Char)
  | identifier
  | definition
  /-- The keyword behind `partial`. -/
  | partialKind
  | enumValue
  /-- The size behind `unsigned`. -/
  | unsignedSize
  /-- The kind behind `unrestricted`. -/
  | unrestrictedKind
  | sequenceArity
  | defaultValue
  | attributeValue
  /-- A construct that nests less deeply than the tokens allow for. -/
  | shallower
  deriving DecidableEq

/-- The wording of an expectation. -/
def Expectation.message : Expectation → String
  | punct c => "expected `" ++ String.singleton c ++ "`"
  | identifier => "expected an identifier"
  | definition => "expected a definition"
  | partialKind => "expected `interface` or `dictionary` after `partial`"
  | enumValue => "expected a string enum value"
  | unsignedSize => "expected `short` or `long` after `unsigned`"
  | unrestrictedKind => "expected `float` or `double` after `unrestricted`"
  | sequenceArity => "sequence takes exactly one type argument"
  | defaultValue => "expected a default value"
  | attributeValue => "expected an extended attribute value"
  | shallower => "expected less nesting"

/-- Why a text is not a schema. -/
inductive ParseFault where
  | lexical (fault : Token.LexFault)
  /-- An expectation that the token found does not meet; no token at the end of the input. -/
  | unmet (expectation : Expectation) (found : Option Token)
  deriving DecidableEq

/-- The wording of a fault. -/
def ParseFault.message : ParseFault → String
  | lexical .unterminatedComment => "unterminated comment"
  | lexical .unterminatedString => "unterminated string"
  | lexical (.unexpectedCharacter c) => "unexpected character `" ++ String.singleton c ++ "`"
  | unmet expectation (some token) => expectation.message ++ ", found " ++ token.display
  | unmet expectation none => expectation.message ++ ", found end of input"

/-- A fault with the place of the offending token. -/
structure ParseError where
  position : Position
  fault : ParseFault
  deriving DecidableEq

/-- The wording of a parse error. -/
def ParseError.message (error : ParseError) : String :=
  "line " ++ toString error.position.line ++ ", column " ++ toString error.position.column ++ ": "
    ++ error.fault.message

/-! ## Parsers -/

namespace Grammar

open Token (Located)

/-- An expectation that was not met, and how many tokens there are from the offending one to the end
of the input. -/
structure Failure where
  expectation : Expectation
  remaining : Nat
  deriving DecidableEq

/-- A failure seen in the whole input.  At the end of the input the place is that of the last
token. -/
def Failure.locate (tokens : List Located) (failure : Failure) : ParseError :=
  match tokens[tokens.length - failure.remaining]? with
  | some found => ⟨found.position, .unmet failure.expectation (some found.token)⟩
  | none =>
    ⟨(tokens.getLast?.map (·.position)).getD .start, .unmet failure.expectation none⟩

/-- Reads a value from the front of a token list. -/
def Parser (α : Type) := List Located → Except Failure (α × List Located)

instance : Monad Parser where
  pure a := fun tokens => .ok (a, tokens)
  bind p f := fun tokens =>
    match p tokens with
    | .ok (a, rest) => f a rest
    | .error failure => .error failure

/-- Fails at the next token. -/
def fail {α : Type} (expectation : Expectation) : Parser α :=
  fun tokens => .error ⟨expectation, tokens.length⟩

/-- Fails at the token in front of the next one. -/
def failBefore {α : Type} (expectation : Expectation) : Parser α :=
  fun tokens => .error ⟨expectation, tokens.length + 1⟩

/-- The token `k` places ahead, without taking it. -/
def peek (k : Nat) : Parser (Option Token) :=
  fun tokens => .ok (tokens[k]?.map (·.token), tokens)

/-- Takes the next token, if there is one. -/
def next : Parser (Option Token)
  | [] => .ok (none, [])
  | t :: rest => .ok (some t.token, rest)

/-- Leaves out the next `k` tokens. -/
def skip (k : Nat) : Parser Unit :=
  fun tokens => .ok ((), tokens.drop k)

/-- Takes the next token if it is `token`, and says whether it was. -/
def eat (token : Token) : Parser Bool
  | [] => .ok (false, [])
  | t :: rest => if t.token = token then .ok (true, rest) else .ok (false, t :: rest)

/-- Takes a punctuation mark if it comes next. -/
def eatPunct (c : Char) : Parser Bool :=
  eat (.punct c)

/-- Takes a keyword if it comes next. -/
def eatWord (word : String) : Parser Bool :=
  eat (.identifier word)

/-- Takes a punctuation mark that has to come next. -/
def expect (c : Char) : Parser Unit := do
  if ← eatPunct c then pure () else fail (.punct c)

/-- Takes an identifier that has to come next. -/
def identifier : Parser String
  | ⟨.identifier name, _⟩ :: rest => .ok (name, rest)
  | tokens => fail .identifier tokens

/-- Whether an identifier stands `k` places ahead. -/
def identifierAt (k : Nat) : Parser Bool := do
  match ← peek k with
  | some (.identifier _) => pure true
  | _ => pure false

/-- Whether a keyword stands `k` places ahead. -/
def wordAt (k : Nat) (word : String) : Parser Bool := do
  return (← peek k) == some (.identifier word)

/-- Whether a punctuation mark stands `k` places ahead. -/
def punctAt (k : Nat) (c : Char) : Parser Bool := do
  return (← peek k) == some (.punct c)

end Grammar

end IdlBindings
