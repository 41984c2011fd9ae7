/-
# IdlBindings.Proofs.TokenLayout: every way of laying out tokens is read back.

Tokens are written with gaps between them: whitespace and comments.  A gap starts with whitespace or with a slash,
and neither continues a token, so each token ends where it was written to end.  A gap ends where its last comment
is closed or its last line breaks, so the next token is read from its first character on.  Only the comment at the
very end may lack its line break.
-/
import IdlBindings.Proofs.TokenPlaces

namespace IdlBindings.Token

/-! ## Gaps -/

/-- What may stand between tokens. -/
inductive Gap where
  | blank (c : Char) (white : Text.isWhitespace c = true)
  /-- A comment up to the end of its line. -/
  | line (body : List Char) (unbroken : '\n' ∉ body)
  /-- A comment between its marks. -/
  | block (body : List Char) (unclosed : ¬ ['*', '/'] <:+: body)

namespace Gap

/-- The characters of a gap. -/
def text : Gap → List Char
  | blank c _ => [c]
  | line body _ => '/' :: '/' :: body ++ ['\n']
  | block body _ => '/' :: '*' :: body ++ ['*', '/']

/-- The characters of several gaps in a row. -/
def texts (gaps : List Gap) : List Char :=
  gaps.flatMap text

end Gap

theorem splitComment_of_unclosed {body : List Char} (more : List Char) (unclosed : ¬ ['*', '/'] <:+: body) :
    splitComment (body ++ '*' :: '/' :: more) = some (body, more) := by
  induction body with
  | nil => rfl
  | cons c body ih =>
    rw [List.infix_cons_iff, not_or] at unclosed
    obtain ⟨first, later⟩ := unclosed
    rw [List.cons_append, splitComment, ih later]
    · rfl
    · -- the comment is not closed at its first character either
      intro rest star slash
      subst star
      apply first
      cases body with
      | nil => cases slash
      | cons d body =>
        cases slash
        exact ⟨body, rfl⟩

theorem not_isWhitespace_slash : Text.isWhitespace '/' = false := by decide

theorem lexeme_lineComment {body : List Char} (unbroken : '\n' ∉ body) (more : List Char)
    (ends : more.head?.all (· == '\n') = true) :
    lexeme '/' ('/' :: body ++ more) = .ok ⟨none, '/' :: '/' :: body, more⟩ := by
  have inside : ∀ c ∈ '/' :: body, (c != '\n') = true := by
    intro c known
    rcases List.mem_cons.1 known with rfl | known
    · decide
    · rw [bne_iff_ne]
      rintro rfl
      exact unbroken known
  have stop : more.takeWhile (· != '\n') = [] ∧ more.dropWhile (· != '\n') = more := by
    cases more with
    | nil => exact ⟨rfl, rfl⟩
    | cons c more =>
      obtain rfl : c = '\n' := by simpa using ends
      exact ⟨rfl, rfl⟩
  unfold lexeme
  rw [if_neg (by simp [not_isWhitespace_slash]), if_pos ⟨rfl, rfl⟩, List.takeWhile_append_of_pos inside,
    List.dropWhile_append_of_pos inside, stop.1, stop.2, List.append_nil]

theorem lexeme_blockComment {body : List Char} (unclosed : ¬ ['*', '/'] <:+: body) (more : List Char) :
    lexeme '/' ('*' :: body ++ '*' :: '/' :: more) = .ok ⟨none, '/' :: '*' :: body ++ ['*', '/'], more⟩ := by
  unfold lexeme
  rw [if_neg (by simp [not_isWhitespace_slash]), if_neg (by simp), if_pos ⟨rfl, rfl⟩, List.cons_append, List.drop_one,
    List.tail_cons, splitComment_of_unclosed more unclosed]
  rfl

/-- A gap is passed over. -/
theorem lexFrom_gap (gap : Gap) (p : Position) (more : List Char) :
    lexFrom p (gap.text ++ more) = lexFrom (p.after gap.text) more := by
  cases gap with
  | blank c white => exact lexFrom_blank white
  | line body unbroken =>
    -- the comment ends in front of the line break, which is a blank of its own
    have comment := lexeme_lineComment unbroken ('\n' :: more) rfl
    show lexFrom p ('/' :: ('/' :: body ++ ['\n'] ++ more)) = lexFrom (p.after ('/' :: '/' :: body ++ ['\n'])) more
    rw [List.append_assoc, List.singleton_append, lexFrom_skip comment, lexFrom_blank (by decide),
      Position.after_append]
  | block body unclosed =>
    have comment := lexeme_blockComment unclosed more
    show lexFrom p ('/' :: ('*' :: body ++ ['*', '/'] ++ more)) = _
    rw [List.append_assoc]
    exact lexFrom_skip comment

theorem lexFrom_gaps (gaps : List Gap) (p : Position) (more : List Char) :
    lexFrom p (Gap.texts gaps ++ more) = lexFrom (p.after (Gap.texts gaps)) more := by
  induction gaps generalizing p with
  | nil => rfl
  | cons gap gaps ih =>
    show lexFrom p (gap.text ++ Gap.texts gaps ++ more) = lexFrom (p.after (gap.text ++ Gap.texts gaps)) more
    rw [List.append_assoc, lexFrom_gap, ih, Position.after_append]

/-! ## What ends a token -/

theorem endsBefore_slash (t : Token) (more : List Char) : t.endsBefore ('/' :: more) = true := by
  have word : continuesIdentifier '/' = false := by decide
  have number : breaksNumber '/' = true := by decide
  cases t <;> simp [endsBefore, endsWord, endsNumber, word, number]

theorem endsBefore_nil (t : Token) : t.endsBefore [] = true := by
  cases t <;> rfl

theorem endsBefore_gap (t : Token) (gap : Gap) (more : List Char) : t.endsBefore (gap.text ++ more) = true := by
  cases gap with
  | blank c white =>
    have word := endsWord_of_isWhitespace more white
    have number := breaksNumber_of_isWhitespace white
    cases t with
    | identifier name => exact word
    | number text => exact number
    | string _ | punct _ | ellipsis => rfl
  | line body unbroken => exact t.endsBefore_slash _
  | block body unclosed => exact t.endsBefore_slash _

/-! ## Layouts -/

/-- The written form of a token is a single token, this one. -/
def Alone (t : Token) : Prop :=
  lex (String.ofList t.written) = .ok [⟨t, .start⟩]

theorem Alone.writable {t : Token} (alone : t.Alone) : t.isWritable = true :=
  isWritable_of_lexFrom alone ⟨t, .start⟩ (List.mem_singleton_self _)

/-- A token with the gaps behind it. -/
def itemText (item : Token × List Gap) : List Char :=
  item.1.written ++ Gap.texts item.2

/-- Tokens with gaps in front of them, behind each of them and, where another token follows, at least one.  A
line comment without its line break may come last. -/
structure Layout where
  front : List Gap
  items : List (Token × List Gap)
  ending : Option (List Char)
  alone : ∀ item ∈ items, item.1.Alone
  apart : ∀ item ∈ items.dropLast, item.2 ≠ []
  unbroken : ∀ body, ending = some body → '\n' ∉ body

namespace Layout

variable (layout : Layout)

/-- The text in front of the token of that number. -/
def before (k : Nat) : List Char :=
  Gap.texts layout.front ++ (layout.items.take k).flatMap itemText

/-- The comment at the end. -/
def endingText : List Char :=
  layout.ending.elim [] ('/' :: '/' :: ·)

/-- The whole text. -/
def text : List Char :=
  Gap.texts layout.front ++ (layout.items.flatMap itemText ++ layout.endingText)

theorem lexFrom_endingText (p : Position) : lexFrom p layout.endingText = .ok [] := by
  have nothing : ∀ p, lexFrom p [] = .ok [] := fun p => by rw [lexFrom]
  unfold endingText
  cases last : layout.ending with
  | none => exact nothing p
  | some body =>
    have comment := lexeme_lineComment (layout.unbroken body last) [] rfl
    rw [List.append_nil] at comment
    exact (lexFrom_skip comment).trans (nothing _)

theorem endsBefore_endingText (t : Token) : t.endsBefore layout.endingText = true := by
  unfold endingText
  cases layout.ending with
  | none => exact t.endsBefore_nil
  | some body => exact t.endsBefore_slash _

/-- The place that is carried along to a token is that of its index. -/
theorem after_before (k : Nat) :
    Position.start.after (layout.before k) = .ofIndex layout.text (layout.before k).length := by
  have parts : layout.items.flatMap itemText
      = (layout.items.take k).flatMap itemText ++ (layout.items.drop k).flatMap itemText := by
    rw [← List.flatMap_append, List.take_append_drop]
  have split : layout.text = layout.before k ++ ((layout.items.drop k).flatMap itemText ++ layout.endingText) := by
    unfold text before
    rw [parts, List.append_assoc, List.append_assoc]
  rw [← Position.start_after_take, split, List.take_left]

end Layout

/-- Tokens with their gaps are read from the first one on.  What follows the last of them is passed over and
continues no token. -/
theorem lexFrom_items {items : List (Token × List Gap)} {last : List Char}
    (alone : ∀ item ∈ items, item.1.Alone) (apart : ∀ item ∈ items.dropLast, item.2 ≠ [])
    (ends : ∀ t : Token, t.endsBefore last = true) (skipped : ∀ p, lexFrom p last = .ok []) (p : Position) :
    lexFrom p (items.flatMap itemText ++ last)
      = .ok (items.mapIdx fun k item => ⟨item.1, p.after ((items.take k).flatMap itemText)⟩) := by
  induction items generalizing p with
  | nil => exact skipped p
  | cons item items ih =>
    obtain ⟨first, others⟩ := List.forall_mem_cons.1 alone
    -- behind the token there is a gap, or the end of all tokens
    have stops : item.1.endsBefore (Gap.texts item.2 ++ (items.flatMap itemText ++ last)) = true := by
      obtain ⟨t, gaps⟩ := item
      cases gaps with
      | cons gap gaps =>
        show t.endsBefore (gap.text ++ Gap.texts gaps ++ _) = true
        rw [List.append_assoc]
        exact t.endsBefore_gap gap _
      | nil =>
        cases items with
        | nil => exact ends t
        | cons next items => exact absurd rfl (apart (t, []) (List.mem_cons_self ..))
    have apart' : ∀ item ∈ items.dropLast, item.2 ≠ [] := by
      intro other known
      apply apart
      cases items with
      | nil => cases known
      | cons next items => exact List.mem_cons_of_mem _ known
    rw [List.flatMap_cons, itemText, List.append_assoc, List.append_assoc, lexFrom_written first.writable stops,
      lexFrom_gaps, ih others apart', List.mapIdx_cons]
    simp only [List.take_succ_cons, List.flatMap_cons, itemText, Position.after_append]
    rfl

/-- Every layout of tokens is read back.  The lexer returns the tokens in order, each with the place of its first
character. -/
theorem lex_layout (layout : Layout) :
    lex (String.ofList layout.text)
      = .ok (layout.items.mapIdx fun k item => ⟨item.1, .ofIndex layout.text (layout.before k).length⟩) := by
  simp only [← layout.after_before]
  simp only [Layout.before, Position.after_append]
  show lexFrom .start (String.ofList layout.text).toList = _
  rw [String.toList_ofList, Layout.text, lexFrom_gaps]
  exact lexFrom_items layout.alone layout.apart layout.endsBefore_endingText layout.lexFrom_endingText _

/-- A layout with each kind of token and each kind of gap.  The string looks like a comment, the comments hold a
quote and a star, and the last one is open. -/
def mixedLayout : Layout where
  front := [.block ['*'] (by decide)]
  items := [(.number "-1.5e+3", [.line ['"'] (by decide)]), (.identifier "a-b", [.blank ' ' (by decide)]),
    (.string "/*\n", [.block ['\n'] (by decide), .blank '\t' (by decide)]), (.ellipsis, [.line [] (by decide)]),
    (.punct ';', [])]
  ending := some [' ', 'x']
  alone := by
    intro item known
    simp only [List.mem_cons, List.not_mem_nil, or_false] at known
    rcases known with rfl | rfl | rfl | rfl | rfl
    all_goals
      unfold Alone
      decide +kernel
  apart := by decide
  unbroken := by
    rintro body ⟨⟩
    decide

theorem lex_layout_mixed :
    String.ofList mixedLayout.text = "/***/-1.5e+3//\"\na-b \"/*\n\"/*\n*/\t...//\n;// x"
      ∧ lex (String.ofList mixedLayout.text)
        = .ok [⟨.number "-1.5e+3", ⟨1, 6⟩⟩, ⟨.identifier "a-b", ⟨2, 1⟩⟩, ⟨.string "/*\n", ⟨2, 5⟩⟩,
          ⟨.ellipsis, ⟨4, 4⟩⟩, ⟨.punct ';', ⟨5, 1⟩⟩] := by
  refine ⟨by decide +kernel, ?_⟩
  rw [lex_layout mixedLayout]
  decide +kernel

end IdlBindings.Token
