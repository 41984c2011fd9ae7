/-
# IdlBindings.Proofs.TokenPlaces: where the lexemes of a text stand.

A text is cut into lexemes from the front, and `CutsTo` says which of its indices are reached in this way.  The
line and the column of an index are counted from the line breaks in front of it.  The lexer does not count, it
carries both along from lexeme to lexeme.  Here the two are shown to agree: the tokens that the lexer returns are
those that start at some index, each with the place of that index, and a fault has the place of the index that
cutting came to.
-/
import IdlBindings.Proofs.ErrorLocality
import Mathlib.Data.List.Induction

namespace IdlBindings

/-! ## Places by index -/

namespace Position

/-- The place of an index of a text.  The line is counted by the line breaks in front of the index, and the column
by the characters back to the last of them, or to the start. -/
def ofIndex (text : List Char) (i : Nat) : Position where
  line := 1 + (text.take i).count '\n'
  column := 1 + ((text.take i).reverse.takeWhile (· != '\n')).length

theorem column_after (text : List Char) :
    (start.after text).column = 1 + (text.reverse.takeWhile (· != '\n')).length := by
  -- the column depends on the end of the text, so the text is taken apart from behind
  induction text using List.reverseRecOn with
  | nil => rfl
  | append_singleton text c ih =>
    rw [after_append, List.reverse_concat, List.takeWhile_cons]
    show ((start.after text).step c).column = _
    unfold step
    by_cases newline : c = '\n'
    · simp [newline]
    · simp only [newline, if_false, bne_iff_ne, ne_eq, not_false_eq_true, if_true, List.length_cons, ih]
      omega

/-- Carrying a place along a text comes to the place that is counted. -/
theorem start_after_take (text : List Char) (i : Nat) : start.after (text.take i) = ofIndex text i := by
  have line := line_after start (text.take i)
  have column := column_after (text.take i)
  unfold ofIndex
  rw [← column]
  show _ = Position.mk (start.line + _) _
  rw [← line]

/-- Places are in the order of the indices. -/
theorem after_take_before (p : Position) {text : List Char} {i j : Nat} (less : i < j) (inside : i < text.length) :
    (p.after (text.take i)).Before (p.after (text.take j)) := by
  have split : text.take j = text.take i ++ (text.drop i).take (j - i) := by
    rw [← List.take_add, Nat.add_sub_cancel' (Nat.le_of_lt less)]
  rw [split, after_append]
  apply before_after
  intro empty
  have length := congrArg List.length empty
  rw [List.length_take, List.length_drop, List.length_nil] at length
  omega

end Position

namespace Token

/-! ## What a lexeme says about the text -/

theorem splitComment_eq_none {cs : List Char} : splitComment cs = none ↔ ¬ ['*', '/'] <:+: cs := by
  fun_induction splitComment cs with
  | case1 => simp
  | case2 rest =>
    simp only [reduceCtorEq, false_iff, not_not]
    exact ⟨[], rest, rfl⟩
  | case3 c rest open_ ih =>
    rw [Option.map_eq_none_iff, ih, List.infix_cons_iff, not_or]
    refine ⟨fun unclosed => ⟨?_, unclosed⟩, And.right⟩
    rintro ⟨behind, same⟩
    obtain ⟨star, slash⟩ := List.cons.inj same
    exact open_ behind star.symm slash.symm

theorem splitString_eq_none {cs : List Char} : splitString cs = none ↔ '"' ∉ cs := by
  fun_induction splitString cs with
  | case1 => simp
  | case2 rest => simp
  | case3 c rest other ih =>
    rw [Option.map_eq_none_iff, ih, List.mem_cons, not_or]
    exact ⟨fun unquoted => ⟨fun same => other same.symm, unquoted⟩, And.right⟩

/-- A token starts with a character that is not whitespace, and its lexeme is the token as it is written. -/
theorem lexeme_token {c : Char} {rest : List Char} {l : Lexeme} {t : Token} (found : lexeme c rest = .ok l)
    (token : l.token = some t) : Text.isWhitespace c = false ∧ l.text = t.written := by
  have cut := lexeme_cut c rest
  rw [found] at cut
  cases cut with
  | skipped => cases token
  | string solid | number solid | identifier solid =>
    cases token
    exact ⟨solid, by simp [written]⟩
  | ellipsis solid | punct solid =>
    cases token
    exact ⟨solid, rfl⟩

/-- What a fault says about the text that no lexeme can be cut off from: it opens a comment or a string that is
not closed, or it starts with the character that is not expected. -/
def LexFault.Opens (text : List Char) : LexFault → Prop
  | unterminatedComment => ∃ body, text = '/' :: '*' :: body ∧ ¬ ['*', '/'] <:+: body
  | unterminatedString => ∃ body, text = '"' :: body ∧ '"' ∉ body
  | unexpectedCharacter c => ∃ rest, text = c :: rest

theorem lexeme_fault {c : Char} {rest : List Char} {fault : LexFault} (failed : lexeme c rest = .error fault) :
    Text.isWhitespace c = false ∧ fault.Opens (c :: rest) := by
  have cut := lexeme_cut c rest
  rw [failed] at cut
  cases cut with
  | openComment solid slash opens unclosed =>
    subst slash opens
    exact ⟨solid, _, rfl, splitComment_eq_none.1 unclosed⟩
  | openString solid opens unclosed =>
    subst opens
    exact ⟨solid, rest, rfl, splitString_eq_none.1 unclosed⟩
  | unexpected solid => exact ⟨solid, rest, rfl⟩

/-! ## Lexemes by index -/

/-- Cutting lexemes off the front of a text leads to the index `i`, where `behind` stands. -/
inductive CutsTo : List Char → Nat → List Char → Prop
  | here (text : List Char) : CutsTo text 0 text
  | lexeme {c : Char} {rest behind : List Char} {l : Lexeme} {i : Nat} (cut : lexeme c rest = .ok l)
      (later : CutsTo l.rest i behind) : CutsTo (c :: rest) (l.text.length + i) behind

/-- A token starts at an index of a text: cutting leads there, and the token is cut off next. -/
def TokenAt (text : List Char) (i : Nat) (t : Token) : Prop :=
  ∃ c tail rest, CutsTo text i (c :: tail) ∧ lexeme c tail = .ok ⟨some t, t.written, rest⟩

/-- The last token of a text starts at an index. -/
def LastTokenAt (text : List Char) (i : Nat) : Prop :=
  (∃ t, TokenAt text i t) ∧ ∀ j t, TokenAt text j t → j ≤ i

theorem drop_lexeme {c : Char} {rest : List Char} {l : Lexeme} (cut : lexeme c rest = .ok l) (i : Nat) :
    (c :: rest).drop (l.text.length + i) = l.rest.drop i := by
  rw [← lexeme_append cut, List.drop_length_add_append]

theorem after_lexeme {c : Char} {rest : List Char} {l : Lexeme} (cut : lexeme c rest = .ok l) (p : Position)
    (i : Nat) :
    p.after ((c :: rest).take (l.text.length + i)) = (p.after l.text).after (l.rest.take i) := by
  rw [← lexeme_append cut, List.take_length_add_append, Position.after_append]

theorem CutsTo.drop {text behind : List Char} {i : Nat} (cuts : CutsTo text i behind) : text.drop i = behind := by
  induction cuts with
  | here text => rfl
  | lexeme cut later ih => rw [drop_lexeme cut, ih]

/-- An index where something is left over lies in the text. -/
theorem CutsTo.getElem? {text tail : List Char} {c : Char} {i : Nat} (cuts : CutsTo text i (c :: tail)) :
    text[i]? = some c := by
  rw [← List.head?_drop, cuts.drop]
  rfl

/-- A token starts at the front of a text, or behind its first lexeme. -/
theorem tokenAt_cons {c : Char} {rest : List Char} {l : Lexeme} (cut : lexeme c rest = .ok l) {i : Nat} {t : Token} :
    TokenAt (c :: rest) i t ↔
      (i = 0 ∧ l.token = some t) ∨ ∃ j, i = l.text.length + j ∧ TokenAt l.rest j t := by
  constructor
  · rintro ⟨d, tail, behind, cuts, next⟩
    cases cuts with
    | here =>
      rw [cut] at next
      cases next
      exact .inl ⟨rfl, rfl⟩
    | lexeme cut' later =>
      rw [cut] at cut'
      cases cut'
      exact .inr ⟨_, rfl, d, tail, behind, later, next⟩
  · rintro (⟨rfl, token⟩ | ⟨j, rfl, d, tail, behind, cuts, next⟩)
    · have text := (lexeme_token cut token).2
      obtain ⟨_, _, behind⟩ := l
      cases token
      cases text
      exact ⟨c, rest, behind, .here _, cut⟩
    · exact ⟨d, tail, behind, .lexeme cut cuts, next⟩

theorem TokenAt.solid {text : List Char} {i : Nat} {t : Token} (starts : TokenAt text i t) :
    ∃ c, text[i]? = some c ∧ Text.isWhitespace c = false := by
  obtain ⟨c, tail, rest, cuts, next⟩ := starts
  exact ⟨c, cuts.getElem?, (lexeme_token next rfl).1⟩

theorem TokenAt.writable {text : List Char} {i : Nat} {t : Token} (starts : TokenAt text i t) :
    t.isWritable = true := by
  obtain ⟨c, tail, rest, -, cut⟩ := starts
  exact isWritable_of_lexeme cut rfl

/-! ## What the lexer returns -/

/-- The lexer returns the tokens that start somewhere in the text, each with the place of its index. -/
theorem mem_lexFrom {p : Position} {cs : List Char} {toks : List Located} (lexed : lexFrom p cs = .ok toks)
    {t : Located} :
    t ∈ toks ↔ ∃ i, TokenAt cs i t.token ∧ t.position = p.after (cs.take i) := by
  induction p, cs using lexFrom.induct generalizing toks with
  | case1 p =>
    rw [lexFrom] at lexed
    cases lexed
    refine ⟨fun inside => absurd inside List.not_mem_nil, ?_⟩
    rintro ⟨i, ⟨c, tail, rest, cuts, -⟩, -⟩
    cases cuts
  | case2 p c rest fault failed =>
    rw [lexFrom_fault failed] at lexed
    cases lexed
  | case3 p c rest l found ih =>
    rw [lexFrom_cons found] at lexed
    cases ran : lexFrom (p.after l.text) l.rest with
    | error failure =>
      rw [ran] at lexed
      cases lexed
    | ok later =>
      rw [ran] at lexed
      -- a token of the text is that of the first lexeme, or one of those behind it
      have parted : t ∈ toks ↔ (l.token = some t.token ∧ t.position = p) ∨ t ∈ later := by
        cases lexed
        obtain ⟨token, position⟩ := t
        cases l.token <;> simp [eq_comm]
      rw [parted, ih ran]
      constructor
      · rintro (⟨token, rfl⟩ | ⟨j, starts, place⟩)
        · exact ⟨0, (tokenAt_cons found).2 (.inl ⟨rfl, token⟩), rfl⟩
        · refine ⟨l.text.length + j, (tokenAt_cons found).2 (.inr ⟨j, rfl, starts⟩), ?_⟩
          rw [place, after_lexeme found]
      · rintro ⟨i, starts, place⟩
        rcases (tokenAt_cons found).1 starts with ⟨rfl, token⟩ | ⟨j, rfl, behind⟩
        · exact .inl ⟨token, place⟩
        · refine .inr ⟨j, behind, ?_⟩
          rw [place, after_lexeme found]

/-- A fault of the lexer has the place of the index that cutting came to. -/
theorem lexFrom_error {p q : Position} {cs : List Char} {fault : LexFault}
    (failed : lexFrom p cs = .error (q, fault)) :
    ∃ i c rest, CutsTo cs i (c :: rest) ∧ lexeme c rest = .error fault ∧ q = p.after (cs.take i) := by
  induction p, cs using lexFrom.induct with
  | case1 p =>
    rw [lexFrom] at failed
    cases failed
  | case2 p c rest fault' stuck =>
    rw [lexFrom_fault stuck] at failed
    cases failed
    exact ⟨0, c, rest, .here _, stuck, rfl⟩
  | case3 p c rest l found ih =>
    rw [lexFrom_cons found] at failed
    cases ran : lexFrom (p.after l.text) l.rest with
    | ok later =>
      rw [ran] at failed
      cases failed
    | error failure =>
      rw [ran] at failed
      cases failed
      obtain ⟨i, d, tail, cuts, stuck, place⟩ := ih ran
      refine ⟨l.text.length + i, d, tail, .lexeme found cuts, stuck, ?_⟩
      rw [place, after_lexeme found]

/-- The last token that the lexer returns is the last one of the text. -/
theorem lastTokenAt_of_lexFrom {p : Position} {cs : List Char} {toks : List Located} {t : Located}
    (lexed : lexFrom p cs = .ok toks) (last : toks.getLast? = some t) :
    ∃ i, LastTokenAt cs i ∧ t.position = p.after (cs.take i) := by
  obtain ⟨earlier, rfl⟩ := List.getLast?_eq_some_iff.1 last
  obtain ⟨i, starts, place⟩ := (mem_lexFrom lexed).1 (List.mem_append_right earlier (List.mem_singleton_self t))
  refine ⟨i, ⟨⟨t.token, starts⟩, fun j u starts' => ?_⟩, place⟩
  obtain ⟨c, found, -⟩ := starts.solid
  obtain ⟨inside, -⟩ := List.getElem?_eq_some_iff.1 found
  by_contra further
  -- a token further behind would have a place behind that of the last one
  have behind : t.position.Before (p.after (cs.take j)) := by
    rw [place]
    exact p.after_take_before (by omega) inside
  have returned := (mem_lexFrom lexed (t := ⟨u, p.after (cs.take j)⟩)).2 ⟨j, starts', rfl⟩
  obtain ⟨-, -, ordered⟩ := List.pairwise_append.1 (ascending_of_lexFrom lexed).1
  rcases List.mem_append.1 returned with inside | same
  · exact Position.Before.irrefl _ (behind.trans (ordered _ inside t (List.mem_singleton_self t)))
  · rw [← List.mem_singleton.1 same] at behind
    exact Position.Before.irrefl _ behind

end Token

end IdlBindings
