/-
# IdlBindings.Proofs.StringLiterals: a string literal ends at its last character.

A reader of a literal starts at the opening quote and stops at the first quote that no backslash escapes.  A
backslash escapes the character behind it, so the reader is in one of two states.  Every character of a value
is written such that the reader takes it and is back in the state that it was in before, so a run of quotes
and backslashes never leaves it in the wrong one.  It finds the whole value and stops at the closing quote,
whatever stands behind the literal.
-/
import IdlBindings.Target.Basic

namespace IdlBindings

namespace LiteralSpelling

/-! ## Reading a literal -/

/-- A character in front of the value that is read. -/
def withChar (c : Char) (read : List Char × List Char) : List Char × List Char :=
  (c :: read.1, read.2)

/-- The value up to the closing quote, and the text behind the quote.  `escaped` says that a backslash was
read last and that it escapes the next character. -/
def readBody (quote : Char) : (escaped : Bool) → List Char → Option (List Char × List Char)
  | _, [] => none
  | true, c :: text => (readBody quote false text).map (withChar c)
  | false, c :: text =>
    if c = '\\' then readBody quote true text
    else if c = quote then some ([], text)
    else (readBody quote false text).map (withChar c)

/-- The value of the literal at the front of a text, and the text behind it. -/
def readLiteral (quote : Char) : List Char → Option (List Char × List Char)
  | [] => none
  | c :: text => if c = quote then readBody quote false text else none

section

variable {quote c : Char} {text : List Char}

theorem readBody_special (quote c : Char) (text : List Char) :
    readBody quote false ('\\' :: c :: text) = (readBody quote false text).map (withChar c) := by
  rw [readBody, if_pos rfl, readBody]

theorem readBody_plain (unescaped : c ≠ '\\') (unquoted : c ≠ quote) :
    readBody quote false (c :: text) = (readBody quote false text).map (withChar c) := by
  rw [readBody, if_neg unescaped, if_neg unquoted]

theorem readBody_quote (other : quote ≠ '\\') : readBody quote false (quote :: text) = some ([], text) := by
  rw [readBody, if_neg other, if_pos rfl]

end

/-! ## Literals that were written -/

/-- The reader takes the one or two characters that stand for a character of the value, then the next. -/
theorem readBody_escape {quote : Char} (other : quote ≠ '\\') (value behind : List Char) :
    readBody quote false (escape quote value ++ quote :: behind) = some (value, behind) := by
  induction value with
  | nil => exact readBody_quote other
  | cons c value ih =>
    by_cases special : c = quote ∨ c = '\\'
    · -- Behind the backslash the reader takes any character, and is back in the state in front of the value.
      rw [escape, if_pos special, List.cons_append, List.cons_append, readBody_special, ih]
      rfl
    · rw [not_or] at special
      rw [escape, if_neg (not_or.2 special), List.cons_append, readBody_plain special.2 special.1, ih]
      rfl

theorem map_withChar_append {c : Char} {short long : Option (List Char × List Char)}
    {value behind more : List Char}
    (longer : ∀ value behind, short = some (value, behind) → long = some (value, behind ++ more))
    (read : short.map (withChar c) = some (value, behind)) :
    long.map (withChar c) = some (value, behind ++ more) := by
  obtain ⟨found, body, same⟩ := Option.map_eq_some_iff.1 read
  cases same
  rw [longer found.1 found.2 body]
  rfl

/-- A literal that is complete stays so in front of more text. -/
theorem readBody_append {quote : Char} {escaped : Bool} {text value behind : List Char}
    (read : readBody quote escaped text = some (value, behind)) (more : List Char) :
    readBody quote escaped (text ++ more) = some (value, behind ++ more) := by
  fun_induction readBody quote escaped text generalizing value behind with
  | case1 => cases read
  | case2 c text ih =>
    rw [List.cons_append, readBody]
    exact map_withChar_append (fun _ _ => ih) read
  | case3 text ih =>
    rw [List.cons_append, readBody, if_pos rfl]
    exact ih read
  | case4 text other =>
    cases read
    rw [List.cons_append, readBody_quote other]
  | case5 c text unescaped unquoted ih =>
    rw [List.cons_append, readBody_plain unescaped unquoted]
    exact map_withChar_append (fun _ _ => ih) read

theorem readLiteral_append {quote : Char} {text value behind : List Char}
    (read : readLiteral quote text = some (value, behind)) (more : List Char) :
    readLiteral quote (text ++ more) = some (value, behind ++ more) := by
  cases text with
  | nil => cases read
  | cons c text =>
    rw [readLiteral] at read
    split at read
    next opened =>
      rw [List.cons_append, readLiteral, if_pos opened]
      exact readBody_append read more
    next => cases read

/-! ## Strings -/

section

variable {spelling : LiteralSpelling} (other : spelling.quote ≠ '\\')
include other

theorem readLiteral_string (value behind : String) :
    readLiteral spelling.quote (spelling.string value ++ behind).toList
      = some (value.toList, behind.toList) := by
  have split : (spelling.string value ++ behind).toList = spelling.quote
      :: (escape spelling.quote value.toList ++ spelling.quote :: behind.toList) := by simp [string]
  rw [split, readLiteral, if_pos rfl, readBody_escape other]

theorem string_injective : Function.Injective spelling.string := by
  intro value value' same
  have first := readLiteral_string other value ""
  rw [same, readLiteral_string other value' ""] at first
  exact String.toList_inj.1 (congrArg Prod.fst (Option.some.inj first)).symm

/-- No quote before the last one closes a literal. -/
theorem readLiteral_take (value : String) (n : Nat) :
    readLiteral spelling.quote ((spelling.string value).toList.take n) = none
      ↔ n < (spelling.string value).toList.length := by
  have whole := readLiteral_string other value ""
  rw [String.append_empty] at whole
  constructor
  · intro unfinished
    refine Nat.lt_of_not_le fun all => ?_
    rw [List.take_of_length_le all, whole] at unfinished
    cases unfinished
  · intro short
    cases read : readLiteral spelling.quote ((spelling.string value).toList.take n) with
    | none => rfl
    | some found =>
      obtain ⟨value', behind⟩ := found
      have more := readLiteral_append read ((spelling.string value).toList.drop n)
      rw [List.take_append_drop, whole] at more
      -- Nothing is left behind the literal, so nothing of it was left out.
      have none_left : behind ++ (spelling.string value).toList.drop n = [] :=
        (congrArg Prod.snd (Option.some.inj more)).symm
      have all_taken := List.drop_eq_nil_iff.1 (List.append_eq_nil_iff.1 none_left).2
      omega

end

end LiteralSpelling

theorem Target.quote_ne_backslash (target : Target) : target.literalSpelling.quote ≠ '\\' := by
  cases target <;> decide

open LiteralSpelling in
/-- A string literal of any target is read from its opening quote to its end and not beyond, and gives the
value that it was made of, whatever text is behind it.  So different values have different literals, and no
literal is closed before its last character. -/
theorem Target.string_self_delimiting (target : Target) :
    (∀ value behind : String,
        readLiteral target.literalSpelling.quote (target.literalSpelling.string value ++ behind).toList
          = some (value.toList, behind.toList))
      ∧ Function.Injective target.literalSpelling.string
      ∧ ∀ (value : String) (n : Nat),
          readLiteral target.literalSpelling.quote ((target.literalSpelling.string value).toList.take n) = none
            ↔ n < (target.literalSpelling.string value).toList.length :=
  have other := target.quote_ne_backslash
  ⟨readLiteral_string other, string_injective other, readLiteral_take other⟩

/-- The last backslash is one of the value, and the quote behind it closes the literal. -/
example : LiteralSpelling.script.string "it's \\" = "'it\\'s \\\\'" := rfl

end IdlBindings
