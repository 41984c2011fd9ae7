/-
# IdlBindings.Token.Basic: the tokens of the interface language and their places.
-/

namespace IdlBindings

/-! ## Places in a text -/

/-- A place in a text: line and column count from one, and a column is a character. -/
structure Position where
  line : Nat
  column : Nat
  deriving DecidableEq

namespace Position

/-- Where a text starts. -/
def start : Position := ⟨1, 1⟩

/-- The place behind a character that stands at `p`. -/
def step (p : Position) (c : Char) : Position :=
  if c = '\n' then ⟨p.line + 1, 1⟩ else ⟨p.line, p.column + 1⟩

/-- The place behind a text that starts at `p`. -/
def after (p : Position) (text : List Char) : Position :=
  text.foldl step p

end Position

/-! ## Tokens -/

/-- A token of the interface language. -/
inductive Token where
  | identifier (name : String)
  /-- The text between two double quotes. -/
  | string (text : String)
  /-- A number, kept as written. -/
  | number (text : String)
  | punct (c : Char)
  | ellipsis
  deriving DecidableEq

namespace Token

/-- The characters that are tokens by themselves. -/
def punctuation : List Char :=
  ['\x7b', '\x7d', '(', ')', '[', ']', '<', '>', ',', ';', ':', '=', '?']

/-- How a message shows a token. -/
def display : Token → String
  | identifier text | number text => "`" ++ text ++ "`"
  | string text => "\"" ++ text ++ "\""
  | punct c => "`" ++ String.singleton c ++ "`"
  | ellipsis => "`...`"

/-- A token with the place where it starts. -/
structure Located where
  token : Token
  position : Position
  deriving DecidableEq

end Token

end IdlBindings
