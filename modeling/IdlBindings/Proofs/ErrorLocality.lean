/-
# IdlBindings.Proofs.ErrorLocality: a parse error depends on nothing far behind it.

The tokens of a text stand at places that increase, so the place of an error tells which token is blamed.  A
parser that blames a token has looked at it and at most at the next one.  So the rest of the text may be
anything that can be cut into tokens: the error stays, with its place and its wording.
-/
import IdlBindings.Proofs.Concatenation

namespace IdlBindings

/-! ## The order of places -/

namespace Position

/-- Whether a place comes before another one in a text. -/
def Before (p q : Position) : Prop :=
  p.line < q.line ∨ (p.line = q.line ∧ p.column < q.column)

theorem Before.irrefl (p : Position) : ¬ p.Before p := by
  unfold Before
  omega

theorem Before.trans {p q r : Position} (first : p.Before q) (second : q.Before r) : p.Before r := by
  unfold Before at first second ⊢
  omega

theorem before_step (p : Position) (c : Char) : p.Before (p.step c) := by
  unfold step
  split
  · exact .inl (Nat.lt_succ_self _)
  · exact .inr ⟨rfl, Nat.lt_succ_self _⟩

theorem before_after (p : Position) {text : List Char} (some_char : text ≠ []) : p.Before (p.after text) := by
  induction text generalizing p with
  | nil => exact absurd rfl some_char
  | cons c text ih =>
    have step := p.before_step c
    by_cases last : text = []
    · subst last
      exact step
    · exact step.trans (ih (p.step c) last)

end Position

/-! ## The places of tokens -/

namespace Token

/-- Tokens in the order of their places. -/
def Ascending (toks : List Located) : Prop :=
  toks.Pairwise fun s t => s.position.Before t.position

/-- The tokens of a text stand in the order of their places, and none before the start of the text. -/
theorem ascending_of_lexFrom {p : Position} {cs : List Char} {toks : List Located}
    (lexed : lexFrom p cs = .ok toks) : Ascending toks ∧ ∀ t ∈ toks, t.position = p ∨ p.Before t.position := by
  induction p, cs using lexFrom.induct generalizing toks with
  | case1 p =>
    rw [lexFrom] at lexed
    cases lexed
    exact ⟨.nil, fun t inside => absurd inside List.not_mem_nil⟩
  | case2 p c rest fault failed =>
    rw [lexFrom_fault failed] at lexed
    cases lexed
  | case3 p c rest l found ih =>
    rw [lexFrom_cons found] at lexed
    cases ran : lexFrom (p.after l.text) l.rest with
    | error failure =>
      rw [ran] at lexed
      cases lexed
    | ok later =>
      rw [ran] at lexed
      cases lexed
      obtain ⟨ascending, behind⟩ := ih ran
      -- a lexeme has characters, so what follows it stands behind its start
      have onward := p.before_after (lexeme_text_ne_nil found)
      have behind' : ∀ t ∈ later, p.Before t.position := by
        intro t inside
        rcases behind t inside with same | further
        · rw [same]
          exact onward
        · exact onward.trans further
      cases l.token with
      | none => exact ⟨ascending, fun t inside => .inr (behind' t inside)⟩
      | some token =>
        refine ⟨List.pairwise_cons.2 ⟨behind', ascending⟩, fun t inside => ?_⟩
        rcases List.mem_cons.1 inside with rfl | inside
        · exact .inl rfl
        · exact .inr (behind' t inside)

/-- A place belongs to one token only. -/
theorem Ascending.index_unique {toks : List Located} (ascending : Ascending toks) {i j : Nat} {s t : Located}
    (first : toks[i]? = some s) (second : toks[j]? = some t) (same : s.position = t.position) : i = j := by
  obtain ⟨hi, rfl⟩ := List.getElem?_eq_some_iff.1 first
  obtain ⟨hj, rfl⟩ := List.getElem?_eq_some_iff.1 second
  have ordered := List.pairwise_iff_getElem.1 ascending
  rcases Nat.lt_trichotomy i j with less | equal | greater
  · have before := ordered i j hi hj less
    rw [same] at before
    exact absurd before (Position.Before.irrefl _)
  · exact equal
  · have before := ordered j i hj hi greater
    rw [same] at before
    exact absurd before (Position.Before.irrefl _)

end Token

/-! ## Failures -/

namespace Grammar

open Token (Located Ascending)

variable {toks toks' : List Located}

/-- A failure that is seen at the place of a token with another one behind it blames that token. -/
theorem remaining_of_locate (ascending : Ascending toks) {k : Nat} {t : Located} {failure : Failure}
    (found : toks[k]? = some t) (long : k + 2 ≤ toks.length)
    (here : (failure.locate toks).position = t.position) : toks.length - failure.remaining = k := by
  unfold Failure.locate at here
  split at here
  · next s blamed => exact ascending.index_unique blamed found here
  · -- at the end of the input the last token gives the place
    have last : toks[toks.length - 1]? = some (toks.getLast (List.ne_nil_of_length_pos (by omega))) := by
      rw [List.getLast_eq_getElem]
      exact List.getElem?_eq_getElem _
    rw [List.getLast?_eq_some_getLast (List.ne_nil_of_length_pos (by omega))] at here
    have index := ascending.index_unique last found here
    omega

/-- A failure at a token stays the same where tokens change behind the next one. -/
theorem readTokens_local {error : ParseError} {k : Nat} {t : Located} (ascending : Ascending toks)
    (failed : readTokens toks = .error error) (found : toks[k]? = some t) (here : error.position = t.position)
    (long : k + 2 ≤ toks.length) (same : toks.take (k + 2) = toks'.take (k + 2)) :
    readTokens toks' = .error error := by
  have long' : k + 2 ≤ toks'.length := by
    have length := congrArg List.length same
    rw [List.length_take, List.length_take] at length
    omega
  rw [readTokens] at failed
  cases ran : definitions (depthFor toks) toks with
  | ok result =>
    rw [ran] at failed
    cases failed
  | error failure =>
    rw [ran] at failed
    cases failed
    obtain ⟨-, -, inside⟩ := definitions_error (depthFor_deep toks) ran
    have index := remaining_of_locate ascending found long here
    have alike : Alike (toks.drop (k + 2)) (toks'.drop (k + 2)) toks toks' := by
      have parting := alike_parting (toks.take (k + 2)) (toks.drop (k + 2)) (toks'.drop (k + 2))
      rwa [List.take_append_drop, same, List.take_append_drop] at parting
    have reaches : Reaches (toks.drop (k + 2)) (toks'.drop (k + 2)) 2 failure.remaining := by
      right
      rw [List.length_drop]
      omega
    obtain ⟨m, rest, ran'⟩ :=
      definitions_fails (depthFor_deep toks) ran alike reaches (depthFor_deep toks')
    rw [List.length_drop, List.length_drop] at rest
    have index' : toks'.length - m = k := by omega
    have found' : toks'[k]? = some t := by
      rw [← List.getElem?_take_of_lt (show k < k + 2 by omega), ← same,
        List.getElem?_take_of_lt (show k < k + 2 by omega), found]
    rw [readTokens, ran']
    simp only [Failure.locate, index, index', found, found']

end Grammar

open Token (Located) in
/-- Parse errors are local.  Two texts have the same tokens at the same places up to the token behind the one
that an error of the first is at.  Then the second text has the same error: nothing that stands further behind
changes it or hides it. -/
theorem Schema.parse_error_local {text text' : String} {toks toks' : List Located} {error : ParseError}
    {k : Nat} {t : Located} (lexed : Token.lex text = .ok toks) (lexed' : Token.lex text' = .ok toks')
    (same : toks.take (k + 2) = toks'.take (k + 2)) (long : k + 2 ≤ toks.length)
    (failed : Schema.parse text = .error error) (found : toks[k]? = some t)
    (here : error.position = t.position) :
    Schema.parse text' = .error error := by
  rw [Schema.parse, lexed] at failed
  rw [Schema.parse, lexed']
  have ascending := (Token.ascending_of_lexFrom lexed).1
  exact Grammar.readTokens_local ascending failed found here long same

/-- A word stands where a string is asked for.  The enumeration may be closed behind the comma, or not. -/
theorem Schema.parse_error_local_enum :
    Schema.parse "enum A \x7b b, \"c\" \x7d;" = .error ⟨⟨1, 10⟩, .unmet .enumValue (some (.identifier "b"))⟩
      ∧ Schema.parse "enum A \x7b b,\n typedef long"
        = .error ⟨⟨1, 10⟩, .unmet .enumValue (some (.identifier "b"))⟩ := by
  have failed : Schema.parse "enum A \x7b b, \"c\" \x7d;"
      = .error ⟨⟨1, 10⟩, .unmet .enumValue (some (.identifier "b"))⟩ := by decide +kernel
  have lexed : Token.lex "enum A \x7b b, \"c\" \x7d;"
      = .ok [⟨.identifier "enum", ⟨1, 1⟩⟩, ⟨.identifier "A", ⟨1, 6⟩⟩, ⟨.punct '\x7b', ⟨1, 8⟩⟩,
        ⟨.identifier "b", ⟨1, 10⟩⟩, ⟨.punct ',', ⟨1, 11⟩⟩, ⟨.string "c", ⟨1, 13⟩⟩, ⟨.punct '\x7d', ⟨1, 17⟩⟩,
        ⟨.punct ';', ⟨1, 18⟩⟩] := by decide +kernel
  have lexed' : Token.lex "enum A \x7b b,\n typedef long"
      = .ok [⟨.identifier "enum", ⟨1, 1⟩⟩, ⟨.identifier "A", ⟨1, 6⟩⟩, ⟨.punct '\x7b', ⟨1, 8⟩⟩,
        ⟨.identifier "b", ⟨1, 10⟩⟩, ⟨.punct ',', ⟨1, 11⟩⟩, ⟨.identifier "typedef", ⟨2, 2⟩⟩,
        ⟨.identifier "long", ⟨2, 10⟩⟩] := by decide +kernel
  exact ⟨failed, Schema.parse_error_local (k := 3) lexed lexed' rfl (by decide) failed rfl rfl⟩

end IdlBindings
