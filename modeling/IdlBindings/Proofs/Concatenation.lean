/-
# IdlBindings.Proofs.Concatenation: a schema behind another one.

A line break ends every lexeme but a comment and a string, and an open one of these is a fault.  So the tokens
of a text stay what they are when a new line follows, and those of the new line stand below.  A schema that can
be read is then read up to its end, whatever comes behind, and what comes behind is read, or fails, as if it
stood alone.
-/
import IdlBindings.Proofs.TrackedGrammar

namespace IdlBindings

/-! ## Places below -/

namespace Position

/-- The place that many lines below. -/
def below (lines : Nat) (p : Position) : Position :=
  ⟨p.line + lines, p.column⟩

theorem step_below (lines : Nat) (p : Position) (c : Char) :
    (p.below lines).step c = (p.step c).below lines := by
  unfold step
  split
  · simp only [below, Nat.add_right_comm]
  · rfl

theorem after_below (lines : Nat) (p : Position) (text : List Char) :
    (p.below lines).after text = (p.after text).below lines := by
  induction text generalizing p with
  | nil => rfl
  | cons c text ih =>
    show ((p.below lines).step c).after text = ((p.step c).after text).below lines
    rw [step_below, ih]

theorem after_append (p : Position) (text more : List Char) :
    p.after (text ++ more) = (p.after text).after more :=
  List.foldl_append

theorem line_after (p : Position) (text : List Char) : (p.after text).line = p.line + text.count '\n' := by
  induction text generalizing p with
  | nil => rfl
  | cons c text ih =>
    show ((p.step c).after text).line = _
    rw [ih, List.count_cons, step]
    split
    · next newline =>
      simp only [newline, beq_self_eq_true, if_true]
      omega
    · next other => simp [other]

/-- Behind a line break the first column begins. -/
theorem start_after_newline (text : List Char) :
    start.after (text ++ ['\n']) = start.below (1 + text.count '\n') := by
  rw [after_append]
  show Position.mk ((start.after text).line + 1) 1 = _
  rw [line_after]
  simp only [start, below, Position.mk.injEq, and_true]
  omega

end Position

/-! ## Tokens -/

namespace Token

/-- A token that many lines below. -/
def Located.below (lines : Nat) (t : Located) : Located :=
  ⟨t.token, t.position.below lines⟩

theorem lexFrom_fault {p : Position} {c : Char} {rest : List Char} {fault : LexFault}
    (failed : lexeme c rest = .error fault) : lexFrom p (c :: rest) = .error (p, fault) := by
  rw [lexFrom]
  split
  · next found =>
    rw [failed] at found
    cases found
    rfl
  · next found =>
    rw [failed] at found
    cases found

/-- A text that begins further down has the same tokens and faults there. -/
theorem lexFrom_below (lines : Nat) (p : Position) (cs : List Char) :
    lexFrom (p.below lines) cs
      = match lexFrom p cs with
        | .ok toks => .ok (toks.map (·.below lines))
        | .error (place, fault) => .error (place.below lines, fault) := by
  induction p, cs using lexFrom.induct with
  | case1 p => rw [lexFrom, lexFrom]; rfl
  | case2 p c rest fault failed => rw [lexFrom_fault failed, lexFrom_fault failed]
  | case3 p c rest l found ih =>
    rw [lexFrom_cons found, lexFrom_cons found, Position.after_below, ih]
    cases lexFrom (p.after l.text) l.rest with
    | error failure => rfl
    | ok later => cases l.token <;> rfl

/-! ## Lexemes in front of a line break -/

section

variable (more : List Char)

theorem head?_newline {c : Char} (other : c ≠ '\n') (rest : List Char) :
    (rest ++ '\n' :: more).head? = some c ↔ rest.head? = some c := by
  cases rest with
  | nil => simp [other.symm]
  | cons d rest => rfl

theorem any_head?_newline {p : Char → Bool} (stops : p '\n' = false) (rest : List Char) :
    (rest ++ '\n' :: more).head?.any p = rest.head?.any p := by
  cases rest with
  | nil => exact stops
  | cons d rest => rfl

theorem takeWhile_newline {p : Char → Bool} (stops : p '\n' = false) (rest : List Char) :
    (rest ++ '\n' :: more).takeWhile p = rest.takeWhile p := by
  induction rest with
  | nil => simp [stops]
  | cons c rest ih => rw [List.cons_append, List.takeWhile_cons, List.takeWhile_cons, ih]

theorem dropWhile_newline {p : Char → Bool} (stops : p '\n' = false) (rest : List Char) :
    (rest ++ '\n' :: more).dropWhile p = rest.dropWhile p ++ '\n' :: more := by
  induction rest with
  | nil => simp [stops]
  | cons c rest ih =>
    rw [List.cons_append, List.dropWhile_cons, List.dropWhile_cons, ih]
    split <;> rfl

theorem take_two_newline (rest : List Char) :
    (rest ++ '\n' :: more).take 2 = ['.', '.'] ↔ rest.take 2 = ['.', '.'] := by
  match rest with
  | [] => simp
  | [d] => simp
  | d :: e :: rest => rfl

theorem startsNumber_newline (c : Char) (rest : List Char) :
    startsNumber c (rest ++ '\n' :: more) = startsNumber c rest := by
  rw [startsNumber, startsNumber, any_head?_newline more (by decide), any_head?_newline more (by decide)]

theorem startsIdentifier_newline (c : Char) (rest : List Char) :
    startsIdentifier c (rest ++ '\n' :: more) = startsIdentifier c rest := by
  rw [startsIdentifier, startsIdentifier, any_head?_newline more (by decide)]

theorem numberTail_newline (hex : Bool) (last : Char) (rest : List Char) :
    numberTail hex last (rest ++ '\n' :: more)
      = ((numberTail hex last rest).1, (numberTail hex last rest).2 ++ '\n' :: more) := by
  induction rest generalizing last with
  | nil => simp [numberTail]
  | cons c rest ih =>
    rw [List.cons_append, numberTail, numberTail]
    split
    · rw [ih]
    · rfl

theorem splitComment_more {cs body rest : List Char} (split : splitComment cs = some (body, rest)) :
    splitComment (cs ++ more) = some (body, rest ++ more) := by
  fun_induction splitComment cs generalizing body with
  | case1 => cases split
  | case2 rest =>
    cases split
    rfl
  | case3 c cs open_ ih =>
    obtain ⟨⟨tail, rest'⟩, split', same⟩ := Option.map_eq_some_iff.1 split
    cases same
    rw [List.cons_append, splitComment, ih split']
    · rfl
    · -- what closes the comment is not split between the texts, since it stands in the first
      intro behind star slash
      cases cs with
      | nil => cases split'
      | cons d cs =>
        cases slash
        exact open_ cs star rfl

theorem splitString_more {cs body rest : List Char} (split : splitString cs = some (body, rest)) :
    splitString (cs ++ more) = some (body, rest ++ more) := by
  fun_induction splitString cs generalizing body with
  | case1 => cases split
  | case2 rest =>
    cases split
    rfl
  | case3 c cs open_ ih =>
    obtain ⟨⟨tail, rest'⟩, split', same⟩ := Option.map_eq_some_iff.1 split
    cases same
    rw [List.cons_append, splitString, ih split']
    · rfl
    · exact open_

theorem lexeme_newline {c : Char} {rest : List Char} {l : Lexeme} (cut : lexeme c rest = .ok l) :
    lexeme c (rest ++ '\n' :: more) = .ok { l with rest := l.rest ++ '\n' :: more } := by
  -- the kinds of lexemes in the order in which they are tried: a line break changes none of the tests
  unfold lexeme at cut ⊢
  have slash := head?_newline more (show '/' ≠ '\n' by decide) rest
  have star := head?_newline more (show '*' ≠ '\n' by decide) rest
  simp only [slash, star, take_two_newline, startsNumber_newline, startsIdentifier_newline]
  split at cut
  · next blank =>
    cases cut
    rw [if_pos blank]
  next solid =>
  rw [if_neg solid]
  split at cut
  · next comment =>
    cases cut
    rw [if_pos comment, takeWhile_newline more rfl, dropWhile_newline more rfl]
  next no_comment =>
  rw [if_neg no_comment]
  split at cut
  · next opened =>
    rw [if_pos opened]
    have one : 1 ≤ rest.length := by
      cases rest with
      | nil => cases opened.2
      | cons d rest => exact Nat.le_add_left ..
    rw [List.drop_append_of_le_length one]
    split at cut
    · next closed =>
      cases cut
      rw [splitComment_more _ closed]
    · cases cut
  next not_opened =>
  rw [if_neg not_opened]
  split at cut
  · next quote =>
    rw [if_pos quote]
    split at cut
    · next closed =>
      cases cut
      rw [splitString_more _ closed]
    · cases cut
  next no_quote =>
  rw [if_neg no_quote]
  split at cut
  · next dots =>
    cases cut
    have two : 2 ≤ rest.length := by
      have := congrArg List.length dots.2
      rw [List.length_take, List.length_cons, List.length_singleton] at this
      omega
    rw [if_pos dots, List.drop_append_of_le_length two]
  next no_dots =>
  rw [if_neg no_dots]
  split at cut
  · next number =>
    cases cut
    rw [if_pos number, any_head?_newline more rfl, numberTail_newline]
  next no_number =>
  rw [if_neg no_number]
  split at cut
  · next name =>
    cases cut
    rw [if_pos name, takeWhile_newline more (by decide), dropWhile_newline more (by decide)]
  next no_name =>
  rw [if_neg no_name]
  split at cut
  · next mark =>
    cases cut
    rw [if_pos mark]
  · cases cut

theorem lexFrom_newline {p : Position} {cs : List Char} {toks : List Located} (lexed : lexFrom p cs = .ok toks) :
    lexFrom p (cs ++ '\n' :: more) = (lexFrom (p.after (cs ++ ['\n'])) more).map (toks ++ ·) := by
  induction p, cs using lexFrom.induct generalizing toks with
  | case1 p =>
    rw [lexFrom] at lexed
    cases lexed
    have blank : Text.isWhitespace '\n' = true := by decide
    have cut : lexeme '\n' more = .ok ⟨none, ['\n'], more⟩ := by rw [lexeme, if_pos blank]
    exact lexFrom_cons cut
  | case2 p c rest fault failed =>
    rw [lexFrom_fault failed] at lexed
    cases lexed
  | case3 p c rest l found ih =>
    have places : p.after (c :: rest ++ ['\n']) = (p.after l.text).after (l.rest ++ ['\n']) := by
      rw [← lexeme_append found, List.append_assoc, Position.after_append]
    rw [lexFrom_cons found] at lexed
    cases later : lexFrom (p.after l.text) l.rest with
    | error failure =>
      rw [later] at lexed
      cases lexed
    | ok others =>
      rw [later] at lexed
      cases lexed
      rw [List.cons_append, lexFrom_cons (lexeme_newline more found), ih later, places]
      cases lexFrom ((p.after l.text).after (l.rest ++ ['\n'])) more with
      | error failure => rfl
      | ok behind => cases l.token <;> rfl

end

end Token

/-! ## Failures -/

/-- An error that many lines below. -/
def ParseError.below (lines : Nat) (error : ParseError) : ParseError :=
  ⟨error.position.below lines, error.fault⟩

namespace Grammar

open Token (Located)

variable {toks : List Located}

/-- What stands before the tokens does not change the place of a failure in them. -/
theorem locate_append (front : List Located) (some_token : toks ≠ []) {failure : Failure}
    (inside : failure.remaining ≤ toks.length) : failure.locate (front ++ toks) = failure.locate toks := by
  have index : (front ++ toks).length - failure.remaining = front.length + (toks.length - failure.remaining) := by
    rw [List.length_append]
    omega
  rw [Failure.locate, index, List.getElem?_append_right (Nat.le_add_right ..), Nat.add_sub_cancel_left,
    List.getLast?_append_of_ne_nil front some_token]
  rfl

theorem locate_below (lines : Nat) (some_token : toks ≠ []) (failure : Failure) :
    failure.locate (toks.map (·.below lines)) = (failure.locate toks).below lines := by
  rw [Failure.locate, Failure.locate, List.length_map, List.getElem?_map, List.getLast?_map,
    List.getLast?_eq_some_getLast some_token]
  cases toks[toks.length - failure.remaining]? <;> rfl

/-! ## Schemas -/

theorem alike_append (toks behind : List Located) : Alike [] behind toks (toks ++ behind) := by
  simpa using alike_parting toks [] behind

theorem Alike.refl (toks : List Located) : Alike [] [] toks toks := by
  simpa using alike_append toks []

theorem alike_below (lines : Nat) (toks : List Located) : Alike [] [] toks (toks.map (·.below lines)) := by
  induction toks with
  | nil => exact .tail
  | cons t toks ih => exact .cons t.token t.position (t.position.below lines) ih

/-- Neither the places nor the depth matter. -/
theorem definitions_alike {d d' : Nat} {toks' : List Located} (alike : Alike [] [] toks toks')
    (deep : 2 * toks.length + 2 ≤ d) (deep' : 2 * toks'.length + 2 ≤ d') :
    (definitions d' toks').map (·.1) = (definitions d toks).map (·.1) := by
  cases ran : definitions d toks with
  | ok result =>
    obtain ⟨d'', deep'', same⟩ := definitions_append deep ran alike deep'
    obtain ⟨d'', rfl⟩ := Nat.exists_eq_add_one.2 (show 0 < d'' by omega)
    rw [same]
    show Except.ok (result.1 ++ []) = Except.ok result.1
    rw [List.append_nil]
  | error failure =>
    obtain ⟨m, same, failed⟩ := definitions_fails deep ran alike (.inl ⟨rfl, rfl⟩) deep'
    obtain rfl : m = failure.remaining := same
    rw [failed]

theorem readTokens_eq (toks : List Located) :
    readTokens toks = ((definitions (depthFor toks) toks).map (·.1)).mapError (·.locate toks) := by
  rw [readTokens]
  cases definitions (depthFor toks) toks <;> rfl

theorem depthFor_deep (toks : List Located) : 2 * toks.length + 2 ≤ depthFor toks := by
  rw [depthFor]
  omega

theorem readTokens_below (lines : Nat) (toks : List Located) :
    readTokens (toks.map (·.below lines)) = (readTokens toks).mapError (·.below lines) := by
  have same := definitions_alike (alike_below lines toks) (depthFor_deep _) (depthFor_deep _)
  rw [readTokens_eq, readTokens_eq, same]
  cases ran : definitions (depthFor toks) toks with
  | ok result => rfl
  | error failure =>
    obtain ⟨some_token, -⟩ := definitions_error (depthFor_deep toks) ran
    exact congrArg Except.error (locate_below lines some_token failure)

theorem readTokens_append {front : List Located} {ds : List Definition} (read : readTokens front = .ok ds)
    (toks : List Located) : readTokens (front ++ toks) = (readTokens toks).map (ds ++ ·) := by
  cases ran : definitions (depthFor front) front with
  | error failure =>
    rw [readTokens, ran] at read
    cases read
  | ok result =>
    obtain ⟨ds', rest⟩ := result
    rw [readTokens, ran] at read
    cases read
    obtain ⟨d, deep, same⟩ :=
      definitions_append (depthFor_deep front) ran (alike_append front toks) (depthFor_deep _)
    have alone := definitions_alike (Alike.refl toks) (depthFor_deep toks) deep
    have read : (definitions (depthFor (front ++ toks)) (front ++ toks)).map (·.1)
        = ((definitions (depthFor toks) toks).map (·.1)).map (ds ++ ·) := by
      rw [same, ← alone]
      cases definitions d toks <;> rfl
    rw [readTokens_eq, readTokens_eq, read]
    cases failed : definitions (depthFor toks) toks with
    | ok result => rfl
    | error failure =>
      obtain ⟨some_token, -, inside⟩ := definitions_error (depthFor_deep toks) failed
      exact congrArg Except.error (locate_append front some_token inside)

end Grammar

/-- A schema that can be read, with a second text behind it on a new line: the definitions of the second text
follow those of the first, and a fault of the second text stays the same fault, below the lines of the first. -/
theorem Schema.parse_append_newline {text : String} {ds : List Definition} (read : Schema.parse text = .ok ds)
    (more : String) :
    Schema.parse (text ++ "\n" ++ more)
      = match Schema.parse more with
        | .ok others => .ok (ds ++ others)
        | .error ⟨⟨line, column⟩, fault⟩ =>
          .error ⟨⟨line + (1 + text.toList.count '\n'), column⟩, fault⟩ := by
  have chars : (text ++ "\n" ++ more).toList = text.toList ++ '\n' :: more.toList := by simp
  rw [Schema.parse, Schema.parse, Token.lex, Token.lex, chars]
  rw [Schema.parse, Token.lex] at read
  cases lexed : Token.lexFrom .start text.toList with
  | error failure =>
    rw [lexed] at read
    cases read
  | ok front =>
    rw [lexed] at read
    rw [Token.lexFrom_newline more.toList lexed, Position.start_after_newline, Token.lexFrom_below]
    cases Token.lexFrom .start more.toList with
    | error failure => rfl
    | ok toks =>
      have both := Grammar.readTokens_append read (toks.map (·.below (1 + text.toList.count '\n')))
      rw [Grammar.readTokens_below] at both
      refine both.trans ?_
      simp only
      cases Grammar.readTokens toks <;> rfl

/-- The second text is cut off, so the blame falls on its last token, below the two lines of the first. -/
theorem Schema.parse_append_newline_comment :
    Schema.parse "typedef long\nA; // one" = .ok [{ kind := .typedef, name := "A", type := some (.named "long") }]
      ∧ Schema.parse ("typedef long\nA; // one" ++ "\n" ++ "dictionary B \x7b")
        = .error ⟨⟨3, 14⟩, .unmet .identifier none⟩ := by
  have read : Schema.parse "typedef long\nA; // one"
      = .ok [{ kind := .typedef, name := "A", type := some (.named "long") }] := by decide +kernel
  have cut : Schema.parse "dictionary B \x7b" = .error ⟨⟨1, 14⟩, .unmet .identifier none⟩ := by decide +kernel
  refine ⟨read, ?_⟩
  rw [Schema.parse_append_newline read, cut]
  rfl

end IdlBindings
