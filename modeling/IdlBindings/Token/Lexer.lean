/-
# IdlBindings.Token.Lexer: from text to tokens.

A text is cut into lexemes, one after the other: each is a run of characters that is a token, a blank
or a comment.  The kind of a lexeme is decided by its first two or three characters, and its extent
by the longest run that belongs to it.  A text fails only where a comment or a string is not closed,
or where no lexeme starts.
-/
import IdlBindings.Text.Alphabetic
import IdlBindings.Text.Basic
import IdlBindings.Token.Basic

namespace IdlBindings.Token

/-! ## Character runs -/

/-- Whether a number may start with `c` in front of `rest`. -/
def startsNumber (c : Char) (rest : List Char) : Bool :=
  c.isDigit
    || (c == '-' && rest.head?.any fun n => n.isDigit || n == '.')
    || (c == '.' && rest.head?.any Char.isDigit)

/-- Whether an identifier may start with `c` in front of `rest`. -/
def startsIdentifier (c : Char) (rest : List Char) : Bool :=
  Text.isAlphabetic c || c == '_' || (c == '-' && rest.head?.any Text.isAlphabetic)

/-- The characters that continue an identifier. -/
def continuesIdentifier (c : Char) : Bool :=
  Text.isAlphanumeric c || c == '_' || c == '-'

/-- Splits off the rest of a number whose last character so far is `last`.  A sign belongs to the
number behind an exponent mark, which `hex` numbers do not have. -/
def numberTail (hex : Bool) (last : Char) : List Char → List Char × List Char
  | [] => ([], [])
  | c :: rest =>
    if c.isAlphanum || c == '.'
        || ((c == '+' || c == '-') && (last == 'e' || last == 'E') && !hex) then
      let (tail, rest) := numberTail hex c rest
      (c :: tail, rest)
    else
      ([], c :: rest)

/-- Splits a text before the first closing mark of a comment, if there is one. -/
def splitComment : List Char → Option (List Char × List Char)
  | [] => none
  | '*' :: '/' :: rest => some ([], rest)
  | c :: rest => (splitComment rest).map fun (body, rest) => (c :: body, rest)

/-- Splits a text before the first double quote, if there is one. -/
def splitString : List Char → Option (List Char × List Char)
  | [] => none
  | '"' :: rest => some ([], rest)
  | c :: rest => (splitString rest).map fun (body, rest) => (c :: body, rest)

/-! ## Lexemes -/

/-- The first piece of a text: its token, unless it is a blank or a comment, its characters, and what
follows. -/
structure Lexeme where
  token : Option Token
  text : List Char
  rest : List Char

/-- Why no lexeme could be cut off. -/
inductive LexFault where
  | unterminatedComment
  | unterminatedString
  | unexpectedCharacter (c : Char)
  deriving DecidableEq

/-- The first lexeme of a text that starts with `c`. -/
def lexeme (c : Char) (rest : List Char) : Except LexFault Lexeme :=
  if Text.isWhitespace c then
    .ok ⟨none, [c], rest⟩
  else if c = '/' ∧ rest.head? = some '/' then
    .ok ⟨none, c :: rest.takeWhile (· != '\n'), rest.dropWhile (· != '\n')⟩
  else if c = '/' ∧ rest.head? = some '*' then
    match splitComment (rest.drop 1) with
    | some (body, rest) => .ok ⟨none, ['/', '*'] ++ body ++ ['*', '/'], rest⟩
    | none => .error .unterminatedComment
  else if c = '"' then
    match splitString rest with
    | some (body, rest) => .ok ⟨some (.string (String.ofList body)), '"' :: body ++ ['"'], rest⟩
    | none => .error .unterminatedString
  else if c = '.' ∧ rest.take 2 = ['.', '.'] then
    .ok ⟨some .ellipsis, ['.', '.', '.'], rest.drop 2⟩
  else if startsNumber c rest then
    let hex := c == '0' && rest.head?.any fun x => x == 'x' || x == 'X'
    let (tail, rest) := numberTail hex c rest
    .ok ⟨some (.number (String.ofList (c :: tail))), c :: tail, rest⟩
  else if startsIdentifier c rest then
    let tail := rest.takeWhile continuesIdentifier
    .ok ⟨some (.identifier (String.ofList (c :: tail))), c :: tail,
      rest.dropWhile continuesIdentifier⟩
  else if punctuation.contains c then
    .ok ⟨some (.punct c), [c], rest⟩
  else
    .error (.unexpectedCharacter c)

/-! ## Nothing is lost -/

theorem numberTail_append (hex : Bool) (last : Char) (cs : List Char) :
    (numberTail hex last cs).1 ++ (numberTail hex last cs).2 = cs := by
  induction cs generalizing last with
  | nil => rfl
  | cons c rest ih =>
    rw [numberTail]
    split
    · simp [ih c]
    · simp

theorem splitComment_append {cs body rest : List Char} (h : splitComment cs = some (body, rest)) :
    cs = body ++ ['*', '/'] ++ rest := by
  fun_induction splitComment cs generalizing body with
  | case1 => simp at h
  | case2 rest =>
    obtain ⟨rfl, rfl⟩ : [] = body ∧ rest = _ := by simpa using h
    rfl
  | case3 c rest _ ih =>
    obtain ⟨⟨tail, rest'⟩, split, same⟩ := Option.map_eq_some_iff.1 h
    obtain ⟨rfl, rfl⟩ : c :: tail = body ∧ rest' = _ := by simpa using same
    rw [ih split]
    simp

theorem splitString_append {cs body rest : List Char} (h : splitString cs = some (body, rest)) :
    cs = body ++ ['"'] ++ rest := by
  fun_induction splitString cs generalizing body with
  | case1 => simp at h
  | case2 rest =>
    obtain ⟨rfl, rfl⟩ : [] = body ∧ rest = _ := by simpa using h
    rfl
  | case3 c rest _ ih =>
    obtain ⟨⟨tail, rest'⟩, split, same⟩ := Option.map_eq_some_iff.1 h
    obtain ⟨rfl, rfl⟩ : c :: tail = body ∧ rest' = _ := by simpa using same
    rw [ih split]
    simp

/-- A lexeme is a prefix of the text it was cut from. -/
theorem lexeme_append {c : Char} {rest : List Char} {l : Lexeme} (h : lexeme c rest = .ok l) :
    l.text ++ l.rest = c :: rest := by
  unfold lexeme at h
  split at h
  · cases h; rfl
  split at h
  · cases h; simp
  split at h
  · next hs =>
    split at h
    · next split =>
      cases h
      obtain ⟨rfl, star⟩ := hs
      cases rest with
      | nil => simp at star
      | cons d rest =>
        obtain rfl : d = '*' := by simpa using star
        have := splitComment_append split
        simp_all
    · cases h
  split at h
  · next hq =>
    split at h
    · next split =>
      cases h
      rw [splitString_append split, hq]
      simp
    · cases h
  split at h
  · next he =>
    cases h
    obtain ⟨rfl, dots⟩ := he
    have := List.take_append_drop 2 rest
    rw [dots] at this
    exact congrArg ('.' :: ·) this
  split at h
  · cases h
    simp [numberTail_append]
  split at h
  · cases h; simp
  split at h
  · cases h; rfl
  · cases h

/-- A lexeme takes at least one character. -/
theorem lexeme_text_ne_nil {c : Char} {rest : List Char} {l : Lexeme}
    (h : lexeme c rest = .ok l) : l.text ≠ [] := by
  unfold lexeme at h
  repeat' split at h
  all_goals first
    | cases h; simp
    | cases h

theorem lexeme_rest_lt {c : Char} {rest : List Char} {l : Lexeme} (h : lexeme c rest = .ok l) :
    l.rest.length < (c :: rest).length := by
  rw [← lexeme_append h, List.length_append]
  have := List.length_pos_iff.2 (lexeme_text_ne_nil h)
  omega

/-! ## The tokens of a text -/

/-- The tokens of a text whose first character stands at `p`.  The first fault ends the reading, at
the place where its lexeme starts. -/
def lexFrom (p : Position) (cs : List Char) : Except (Position × LexFault) (List Located) :=
  match cs with
  | [] => .ok []
  | c :: rest =>
    match _h : lexeme c rest with
    | .error fault => .error (p, fault)
    | .ok l => do
      let later ← lexFrom (p.after l.text) l.rest
      match l.token with
      | some token => .ok (⟨token, p⟩ :: later)
      | none => .ok later
termination_by cs.length
decreasing_by exact lexeme_rest_lt _h

/-- The tokens of a text. -/
def lex (text : String) : Except (Position × LexFault) (List Located) :=
  lexFrom .start text.toList

end IdlBindings.Token
