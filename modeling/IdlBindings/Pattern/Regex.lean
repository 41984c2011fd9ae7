/-
# IdlBindings.Pattern.Regex: what a pattern matches.

A regular expression is a pattern with its flags resolved: every leaf is a text, a set of characters
or a condition on a place in the text.  Expressions are built by `repetition`, `sequence` and
`choice`, which bring them into one form: neighbouring texts are joined, choices between characters
are sets, and what all branches of a choice begin with stands in front of it.
-/
import IdlBindings.Pattern.Expr

namespace IdlBindings.Pattern

/-- A condition on a place in the text.  Conditions on words know all word characters, or those of
ASCII only. -/
inductive Look where
  | startText
  | endText
  | startLine
  | endLine
  | startLineCrlf
  | endLineCrlf
  | word (kind : Anchor) (ascii : Bool)
  deriving DecidableEq

/-- A regular expression. -/
inductive Regex where
  | empty
  /-- The characters of a text, one after the other. -/
  | literal (text : List Char)
  /-- One character of a set.  A set of bytes is none of characters, even if they match the same. -/
  | chars (set : CharSet) (bytes : Bool)
  | look (condition : Look)
  | repeated (sub : Regex) (least : Nat) (most : Option Nat) (greedy : Bool)
  | capture (index : Nat) (sub : Regex)
  | alternation (branches : List Regex)
  | concat (parts : List Regex)

namespace Regex

/-! ## Length -/

mutual
/-- The least number of characters that a match takes; nothing if there may be no match. -/
def minLength? : Regex → Option Nat
  | empty | look _ => some 0
  | literal text => some text.length
  | chars set _ => if set.isEmpty then none else some 1
  | repeated sub least _ _ => (minLength? sub).map (· * least)
  | capture _ sub => minLength? sub
  | alternation branches => minLengthOfAny? branches
  | concat parts => minLengthOfAll? parts
/-- The least number of characters that a match of one of several expressions takes. -/
def minLengthOfAny? : List Regex → Option Nat
  | [] => none
  | [r] => minLength? r
  | r :: rest => do
    let length ← minLength? r
    let lengths ← minLengthOfAny? rest
    some (min length lengths)
/-- The least number of characters that a match of expressions in a row takes. -/
def minLengthOfAll? : List Regex → Option Nat
  | [] => some 0
  | r :: rest => do
    let length ← minLength? r
    let lengths ← minLengthOfAll? rest
    some (length + lengths)
end

/-- Whether every match takes at least one character, and a match is possible. -/
def takesChar (regex : Regex) : Bool :=
  regex.minLength?.any (0 < ·)

mutual
/-- Whether no match takes a character. -/
def takesNothing : Regex → Bool
  | empty | look _ => true
  | literal text => text.isEmpty
  | chars _ _ => false
  | repeated sub _ _ _ => takesNothing sub
  | capture _ sub => takesNothing sub
  | alternation branches => takesNothingAll branches
  | concat parts => takesNothingAll parts
/-- Whether no match of any takes a character. -/
def takesNothingAll : List Regex → Bool
  | [] => true
  | r :: rest => takesNothing r && takesNothingAll rest
end

/-! ## Anchors -/

mutual
/-- Whether every match starts where the text starts. -/
def startsText : Regex → Bool
  | empty | literal _ | chars _ _ => false
  | look condition => condition == .startText
  | repeated sub least _ _ => least > 0 && startsText sub
  | capture _ sub => startsText sub
  | alternation branches => startsTextAll branches
  | concat parts => startsTextFirst parts
/-- Whether every match of any starts where the text starts. -/
def startsTextAll : List Regex → Bool
  | [] => true
  | r :: rest => startsText r && startsTextAll rest
/-- Whether a row starts where the text starts: by its first part, or by a later one if nothing is
taken in front of it. -/
def startsTextFirst : List Regex → Bool
  | [] => false
  | r :: rest => startsText r || (takesNothing r && startsTextFirst rest)
end

mutual
/-- Whether every match ends where the text ends. -/
def endsText : Regex → Bool
  | empty | literal _ | chars _ _ => false
  | look condition => condition == .endText
  | repeated sub least _ _ => least > 0 && endsText sub
  | capture _ sub => endsText sub
  | alternation branches => endsTextAll branches
  | concat parts => endsTextLast parts
/-- Whether every match of any ends where the text ends. -/
def endsTextAll : List Regex → Bool
  | [] => true
  | r :: rest => endsText r && endsTextAll rest
/-- Whether a row ends where the text ends: by its last part, or by an earlier one if nothing is taken
behind it. -/
def endsTextLast : List Regex → Bool
  | [] => false
  | r :: rest => endsTextLast rest || (endsText r && takesNothingAll rest)
end

/-! ## Equality -/

mutual
/-- Whether two expressions are the same. -/
def same : Regex → Regex → Bool
  | empty, empty => true
  | literal a, literal b => a == b
  | chars a bytes, chars b bytes' => a == b && bytes == bytes'
  | look a, look b => a == b
  | repeated a least most greedy, repeated b least' most' greedy' =>
    least == least' && most == most' && greedy == greedy' && same a b
  | capture i a, capture j b => i == j && same a b
  | alternation as, alternation bs => sameAll as bs
  | concat as, concat bs => sameAll as bs
  | _, _ => false
/-- Whether two lists of expressions are the same. -/
def sameAll : List Regex → List Regex → Bool
  | [], [] => true
  | a :: as, b :: bs => same a b && sameAll as bs
  | _, _ => false
end

/-! ## Sets and repetitions -/

/-- The expression that has no match. -/
def fail : Regex := chars [] true

/-- The expression of a set.  A set of one character is a text. -/
def ofSet (set : CharSet) (bytes : Bool) : Regex :=
  if set.isEmpty then fail
  else match set.single? with
    | some c => literal [c]
    | none => chars set bytes

/-- A repetition.  What takes no character is repeated at most once, and no repetition at all is the
empty expression. -/
def repetition (sub : Regex) (least : Nat) (most : Option Nat) (greedy : Bool) : Regex :=
  let (least, most) :=
    if takesNothing sub then (min least 1, some (match most with
      | some n => min n 1
      | none => 1))
    else (least, most)
  match least, most with
  | 0, some 0 => empty
  | 1, some 1 => sub
  | least, most => repeated sub least most greedy

/-! ## Sequences -/

/-- The parts that follow each other in an expression. -/
def parts : Regex → List Regex
  | empty => []
  | concat parts => parts
  | regex => [regex]

/-- The parts of a row with neighbouring texts joined. -/
def joinTexts : List Regex → List Regex
  | [] => []
  | literal text :: rest =>
    match joinTexts rest with
    | literal behind :: rest => literal (text ++ behind) :: rest
    | rest => literal text :: rest
  | regex :: rest => regex :: joinTexts rest

/-- Expressions that follow each other, as one. -/
def sequence (regexes : List Regex) : Regex :=
  match joinTexts (regexes.flatMap parts) with
  | [] => empty
  | [regex] => regex
  | all => concat all

/-! ## Choices -/

/-- The expressions that stand beside each other in an expression. -/
def branches : Regex → List Regex
  | alternation branches => branches
  | regex => [regex]

/-- The character of a text of one character. -/
def char? : Regex → Option Char
  | literal [c] => some c
  | _ => none

/-- The set of an expression that is one. -/
def set? : Regex → Option CharSet
  | chars set _ => some set
  | _ => none

/-- Branches as one expression.  Branches of one character each become a set, and so do sets. -/
def beside (regexes : List Regex) : Regex :=
  let all := regexes.flatMap branches
  match all, all.mapM char?, all.mapM set? with
  | [], _, _ => fail
  | [regex], _, _ => regex
  | _, some cs, _ => ofSet (CharSet.normalize (cs.flatMap CharSet.single)) false
  | _, none, some sets => ofSet (CharSet.normalize sets.flatten) false
  | all, none, none => alternation all

/-- The parts of an expression that is a row. -/
def row? : Regex → Option (List Regex)
  | concat parts => some parts
  | _ => none

/-- The longest common beginning of two lists. -/
def commonParts : List Regex → List Regex → List Regex
  | a :: as, b :: bs => if same a b then a :: commonParts as bs else []
  | _, _ => []

/-- What all branches begin with, if there are several and each of them is a row. -/
def commonBeginning (branches : List Regex) : List Regex :=
  match branches.mapM row? with
  | some (first :: second :: rest) => (second :: rest).foldl commonParts first
  | _ => []

/-- Expressions that stand beside each other, as one.  What all branches begin with stands in front of
the choice; it is matched first and the branches are tried behind it. -/
def choice (regexes : List Regex) : Regex :=
  let all := regexes.flatMap branches
  match commonBeginning all with
  | [] => beside all
  | beginning =>
    let rests := all.map fun regex => sequence (regex.parts.drop beginning.length)
    sequence (beginning ++ [beside rests])

end Regex

end IdlBindings.Pattern
