/-
# IdlBindings.Proofs.ErrorPositions: a parse error stands at what it is about.

The lexer blames the index where it is stuck.  The grammar blames a token, or the last token if there is none
left.  The message quotes the token that is blamed, and it can be read back from there: no expectation is worded
with the word `found` in front of a quotation, and no token has its own quotation mark in it.  So the end of a
message, taken as a text, says which token stands at the place of the error.
-/
import IdlBindings.Proofs.TokenPlaces

namespace IdlBindings

/-! ## Tokens in messages -/

namespace Token

/-- The mark on both sides of a token in a message: a double quote for strings, and a backtick for all others. -/
def quoteMark : Token → Char
  | string _ => '"'
  | _ => '\x60'

/-- The characters of a token in a message. -/
def shown : Token → List Char
  | identifier text | number text | string text => text.toList
  | punct c => [c]
  | ellipsis => ['.', '.', '.']

theorem toList_display (t : Token) : t.display.toList = t.quoteMark :: t.shown ++ [t.quoteMark] := by
  cases t <;> simp [display, quoteMark, shown]

theorem quoteMark_cases (t : Token) : t.quoteMark = '\x60' ∨ t.quoteMark = '"' := by
  cases t <;> simp [quoteMark]

theorem quoteMark_not_alpha (t : Token) : t.quoteMark.isAlpha = false := by
  rcases t.quoteMark_cases with mark | mark <;> rw [mark] <;> decide

theorem quoteMark_ne (t : Token) {c : Char} (letter : c.isAlpha = true) : t.quoteMark ≠ c := by
  rintro rfl
  rw [t.quoteMark_not_alpha] at letter
  cases letter

/-- A token that can be written does not hold the mark that it is quoted with. -/
theorem quoteMark_not_mem {t : Token} (writable : t.isWritable = true) : t.quoteMark ∉ t.shown := by
  intro inside
  cases t with
  | identifier text =>
    simp only [isWritable, isIdentifier] at writable
    split at writable
    · cases writable
    · next c rest chars =>
      obtain ⟨start, all⟩ := Bool.and_eq_true_iff.1 writable
      simp only [quoteMark, shown, chars] at inside
      rcases List.mem_cons.1 inside with rfl | later
      · exact absurd start (by simp [startsIdentifier, show Text.isAlphabetic '\x60' = false by decide])
      · exact absurd (List.all_eq_true.1 all _ later) (by decide)
  | number text =>
    simp only [isWritable, isNumber] at writable
    split at writable
    · cases writable
    · next c rest chars =>
      obtain ⟨start, all⟩ := Bool.and_eq_true_iff.1 writable
      simp only [quoteMark, shown, chars] at inside
      rcases List.mem_cons.1 inside with rfl | later
      · exact absurd start (by simp [startsNumber])
      · exact absurd (breaksNumber_of_mem (List.isEmpty_iff.1 all) _ later) (by decide)
  | string text => simp [isWritable, isQuotable, quoteMark, shown] at writable inside; exact writable inside
  | punct c =>
    obtain rfl : '\x60' = c := by simpa [quoteMark, shown] using inside
    exact absurd writable (by decide)
  | ellipsis => simp [quoteMark, shown] at inside

end Token

/-! ## The end of a message -/

/-- No expectation says of a quotation that it was found. -/
theorem Expectation.not_quotes_found (expectation : Expectation) {mark : Char} (quotes : mark = '\x60' ∨ mark = '"') :
    ¬ "found ".toList ++ [mark] <:+: expectation.message.toList ++ ", found ".toList := by
  have words : "found ".toList = ['f', 'o', 'u', 'n', 'd', ' '] := by decide +kernel
  rw [words]
  rcases quotes with rfl | rfl
  all_goals
    cases expectation with
    | punct c => simp [message, List.infix_cons_iff]
    | _ => decide +kernel

/-- A quotation at the end of a text, without the mark in it, is the only one there that has certain words in
front of it, unless the words stand in front of a mark earlier. -/
theorem quotation_unique {words front lead body body' : List Char} {mark mark' : Char} (plain : mark ∉ body)
    (only : ¬ words ++ [mark'] <:+: front)
    (same : front ++ (mark :: body ++ [mark]) = lead ++ words ++ (mark' :: body' ++ [mark'])) :
    mark :: body ++ [mark] = mark' :: body' ++ [mark'] := by
  rcases List.append_eq_append_iff.1 same with ⟨extra, before, behind⟩ | ⟨extra, before, behind⟩
  · -- the second quotation would begin inside the first one
    cases extra with
    | nil => exact behind
    | cons c extra =>
      obtain ⟨-, rest⟩ := List.cons.inj behind
      change body ++ [mark] = extra ++ (mark' :: body' ++ [mark']) at rest
      rw [← List.append_assoc] at rest
      obtain ⟨inner, closing⟩ := List.append_inj' rest rfl
      cases closing
      refine absurd ?_ plain
      rw [inner]
      exact List.mem_append_right extra (List.mem_cons_self ..)
  · -- the second quotation would begin before the first one
    cases extra with
    | nil => exact behind.symm
    | cons c extra =>
      obtain ⟨rfl, -⟩ := List.cons.inj behind
      refine absurd ⟨lead, extra, ?_⟩ only
      rw [before]
      simp

namespace ParseFault

/-- The message that a token was found names that token and no other one. -/
theorem found_eq {expectation : Expectation} {t x : Token} {words : String} (writable : t.isWritable = true)
    (same : (unmet expectation (some t)).message = words ++ "found " ++ x.display) : t.display = x.display := by
  have chars : expectation.message.toList ++ ", found ".toList ++ t.display.toList
      = words.toList ++ "found ".toList ++ x.display.toList := by
    rw [← String.toList_append, ← String.toList_append, ← String.toList_append, ← String.toList_append]
    exact congrArg String.toList same
  rw [t.toList_display, x.toList_display] at chars
  apply String.toList_inj.1
  rw [t.toList_display, x.toList_display]
  exact quotation_unique (Token.quoteMark_not_mem writable) (expectation.not_quotes_found x.quoteMark_cases) chars

/-- The last character of a message. -/
def lastChar : ParseFault → Char
  | lexical .unterminatedComment => 't'
  | lexical .unterminatedString => 'g'
  | lexical (.unexpectedCharacter _) => '\x60'
  | unmet _ (some t) => t.quoteMark
  | unmet _ none => 't'

theorem getLast?_append_display (words : String) (t : Token) :
    (words ++ t.display).toList.getLast? = some t.quoteMark := by
  rw [String.toList_append, t.toList_display, ← List.append_assoc, List.getLast?_concat]

theorem getLast?_message (fault : ParseFault) : fault.message.toList.getLast? = some fault.lastChar := by
  cases fault with
  | lexical fault =>
    cases fault with
    | unterminatedComment =>
      show "unterminated comment".toList.getLast? = some 't'
      simp
    | unterminatedString =>
      show "unterminated string".toList.getLast? = some 'g'
      simp
    | unexpectedCharacter c =>
      show ("unexpected character `" ++ String.singleton c ++ "`").toList.getLast? = some '\x60'
      simp
  | unmet expectation found =>
    cases found with
    | some t => exact getLast?_append_display (expectation.message ++ ", found ") t
    | none =>
      show (expectation.message ++ ", found end of input").toList.getLast? = some 't'
      simp

theorem lastChar_eq {fault : ParseFault} {words : String} {c : Char} (last : words.toList.getLast? = some c)
    (same : fault.message = words) : fault.lastChar = c := by
  rw [← same, getLast?_message] at last
  exact Option.some.inj last

theorem of_lastChar_t {fault : ParseFault} (last : fault.lastChar = 't') :
    fault = lexical .unterminatedComment ∨ ∃ expectation, fault = unmet expectation none := by
  rcases fault with (_ | _ | c) | ⟨expectation, _ | t⟩
  · exact .inl rfl
  · simp [lastChar] at last
  · simp [lastChar] at last
  · exact .inr ⟨expectation, rfl⟩
  · exact absurd last (t.quoteMark_ne (by decide))

theorem of_lastChar_g {fault : ParseFault} (last : fault.lastChar = 'g') : fault = lexical .unterminatedString := by
  rcases fault with (_ | _ | c) | ⟨expectation, _ | t⟩
  · simp [lastChar] at last
  · rfl
  · simp [lastChar] at last
  · simp [lastChar] at last
  · exact absurd last (t.quoteMark_ne (by decide))

theorem of_lastChar_mark {fault : ParseFault} (last : fault.lastChar.isAlpha = false) :
    (∃ c, fault = lexical (.unexpectedCharacter c)) ∨ ∃ expectation t, fault = unmet expectation (some t) := by
  rcases fault with (_ | _ | c) | ⟨expectation, _ | t⟩
  · exact absurd last (by decide)
  · exact absurd last (by decide)
  · exact .inl ⟨c, rfl⟩
  · exact absurd (show 't'.isAlpha = false from last) (by decide)
  · exact .inr ⟨expectation, t, rfl⟩

/-- The message about an unexpected character says nothing of a token that was found. -/
theorem unexpected_not_found (c : Char) (words : String) (x : Token) :
    (lexical (.unexpectedCharacter c)).message ≠ words ++ "found " ++ x.display := by
  intro same
  have chars : "unexpected character `".toList ++ [c] ++ "`".toList
      = words.toList ++ "found ".toList ++ x.display.toList := by
    rw [← String.toList_singleton, ← String.toList_append, ← String.toList_append, ← String.toList_append,
      ← String.toList_append]
    exact congrArg String.toList same
  -- two letters of the word are enough to tell, whatever the character is
  have inside : ['f', 'o'] <:+: "unexpected character `".toList ++ [c] ++ "`".toList := by
    rw [chars]
    exact List.IsInfix.trans ⟨[], ['u', 'n', 'd', ' '], by simp⟩ ⟨words.toList, x.display.toList, rfl⟩
  simp [List.infix_cons_iff] at inside

/-- A message that ends with a token that was found is about that token. -/
theorem of_message_found {fault : ParseFault} {words : String} {x : Token}
    (writable : ∀ expectation t, fault = unmet expectation (some t) → t.isWritable = true)
    (same : fault.message = words ++ "found " ++ x.display) :
    ∃ expectation t, fault = unmet expectation (some t) ∧ t.display = x.display := by
  have last := lastChar_eq (getLast?_append_display (words ++ "found ") x) same
  rcases of_lastChar_mark (last ▸ x.quoteMark_not_alpha) with ⟨c, rfl⟩ | ⟨expectation, t, rfl⟩
  · exact absurd same (unexpected_not_found c words x)
  · exact ⟨expectation, t, rfl, found_eq (writable expectation t rfl) same⟩

/-- A message that ends with the end of the input is about it. -/
theorem of_message_ended {fault : ParseFault} {words : String}
    (same : fault.message = words ++ "found end of input") : ∃ expectation, fault = unmet expectation none := by
  rcases of_lastChar_t (lastChar_eq (by simp) same) with rfl | ended
  · have chars : "unterminated comment".toList = words.toList ++ "found end of input".toList := by
      rw [← String.toList_append]
      exact congrArg String.toList same
    have ending : "found end of input".toList <:+ "unterminated comment".toList := ⟨_, chars.symm⟩
    simp [List.suffix_cons_iff] at ending
  · exact ended

theorem of_message_comment {fault : ParseFault} (same : fault.message = "unterminated comment") :
    fault = lexical .unterminatedComment := by
  rcases of_lastChar_t (lastChar_eq (by simp) same) with comment | ⟨expectation, rfl⟩
  · exact comment
  · have chars : expectation.message.toList ++ ", found end of input".toList = "unterminated comment".toList := by
      rw [← String.toList_append]
      exact congrArg String.toList same
    have ending : ", found end of input".toList <:+ "unterminated comment".toList := ⟨_, chars⟩
    simp [List.suffix_cons_iff] at ending

theorem of_message_string {fault : ParseFault} (same : fault.message = "unterminated string") :
    fault = lexical .unterminatedString :=
  of_lastChar_g (lastChar_eq (by simp) same)

end ParseFault

/-! ## The places of errors -/

open Token (CutsTo TokenAt LastTokenAt)

/-- An error stands at an index of a text.  There is no whitespace at that index, the line and the column are
counted up to it, and what the message says is to be seen there. -/
structure ParseError.StandsAt (text : List Char) (i : Nat) (error : ParseError) : Prop where
  solid : ∃ c, text[i]? = some c ∧ Text.isWhitespace c = false
  line : error.position.line = 1 + (text.take i).count '\n'
  column : error.position.column = 1 + ((text.take i).reverse.takeWhile (· != '\n')).length
  /-- A token that was found starts at the index. -/
  found : ∀ words (x : Token), error.fault.message = words ++ "found " ++ x.display →
    ∃ t, t.display = x.display ∧ TokenAt text i t
  /-- If no token was found, the last one starts at the index. -/
  ended : ∀ words, error.fault.message = words ++ "found end of input" → LastTokenAt text i
  comment : error.fault.message = "unterminated comment" →
    ∃ body, CutsTo text i ('/' :: '*' :: body) ∧ ¬ ['*', '/'] <:+: body
  string : error.fault.message = "unterminated string" → ∃ body, CutsTo text i ('"' :: body) ∧ '"' ∉ body

/-- What a fault says about an index, without the wording. -/
inductive ParseFault.Fits (text : List Char) (i : Nat) : ParseFault → Prop
  | lexical {fault : Token.LexFault} {c : Char} {rest : List Char} (cuts : CutsTo text i (c :: rest))
      (solid : Text.isWhitespace c = false) (opens : fault.Opens (c :: rest)) : Fits text i (.lexical fault)
  | found {expectation : Expectation} {t : Token} (starts : TokenAt text i t) :
      Fits text i (.unmet expectation (some t))
  | ended {expectation : Expectation} (last : LastTokenAt text i) : Fits text i (.unmet expectation none)

namespace ParseFault.Fits

variable {text : List Char} {i : Nat} {fault : ParseFault}

theorem solid (fits : fault.Fits text i) : ∃ c, text[i]? = some c ∧ Text.isWhitespace c = false := by
  cases fits with
  | lexical cuts solid opens => exact ⟨_, cuts.getElem?, solid⟩
  | found starts => exact starts.solid
  | ended last =>
    obtain ⟨t, starts⟩ := last.1
    exact starts.solid

/-- The words of a message say no less than the fault. -/
theorem standsAt (fits : fault.Fits text i) : ParseError.StandsAt text i ⟨.ofIndex text i, fault⟩ where
  solid := fits.solid
  line := rfl
  column := rfl
  found := by
    intro words x same
    have writable : ∀ expectation t, fault = unmet expectation (some t) → t.isWritable = true := by
      rintro expectation t rfl
      cases fits with
      | found starts => exact starts.writable
    obtain ⟨expectation, t, rfl, shown⟩ := of_message_found writable same
    cases fits with
    | found starts => exact ⟨t, shown, starts⟩
  ended := by
    intro words same
    obtain ⟨expectation, rfl⟩ := of_message_ended same
    cases fits with
    | ended last => exact last
  comment := by
    intro same
    obtain rfl := of_message_comment same
    cases fits with
    | lexical cuts solid opens =>
      obtain ⟨body, whole, unclosed⟩ := opens
      exact ⟨body, whole ▸ cuts, unclosed⟩
  string := by
    intro same
    obtain rfl := of_message_string same
    cases fits with
    | lexical cuts solid opens =>
      obtain ⟨body, whole, unclosed⟩ := opens
      exact ⟨body, whole ▸ cuts, unclosed⟩

end ParseFault.Fits

/-- The lexer is stuck at the index that it blames. -/
theorem Token.exists_fits_of_lex {text : String} {p : Position} {fault : LexFault}
    (failed : lex text = .error (p, fault)) :
    ∃ i, p = .ofIndex text.toList i ∧ (ParseFault.lexical fault).Fits text.toList i := by
  obtain ⟨i, c, rest, cuts, stuck, place⟩ := lexFrom_error failed
  obtain ⟨solid, opens⟩ := lexeme_fault stuck
  exact ⟨i, place.trans (Position.start_after_take _ _), .lexical cuts solid opens⟩

/-- The grammar blames a token of the text, or the last one at the end. -/
theorem Grammar.exists_fits_of_locate {text : String} {toks : List Token.Located} (lexed : Token.lex text = .ok toks)
    (some_token : toks ≠ []) (failure : Failure) :
    ∃ i, (failure.locate toks).position = .ofIndex text.toList i ∧ (failure.locate toks).fault.Fits text.toList i := by
  unfold Failure.locate
  cases blamed : toks[toks.length - failure.remaining]? with
  | some t =>
    obtain ⟨i, starts, place⟩ := (Token.mem_lexFrom lexed).1 (List.mem_of_getElem? blamed)
    exact ⟨i, place.trans (Position.start_after_take _ _), .found starts⟩
  | none =>
    have final := List.getLast?_eq_some_getLast some_token
    obtain ⟨i, last, place⟩ := Token.lastTokenAt_of_lexFrom lexed final
    rw [final]
    exact ⟨i, place.trans (Position.start_after_take _ _), .ended last⟩

/-- The place of every error is right.  An error of a text stands at an index of that text: its line and its
column are those of the index, and the token that its message names, the last token if it names the end of the
input, or the comment or string that is not closed, starts there. -/
theorem Schema.parse_error_stands {text : String} {error : ParseError} (failed : Schema.parse text = .error error) :
    ∃ i, error.StandsAt text.toList i := by
  rw [Schema.parse] at failed
  cases lexed : Token.lex text with
  | error stuck =>
    obtain ⟨p, fault⟩ := stuck
    rw [lexed] at failed
    cases failed
    obtain ⟨i, rfl, fits⟩ := Token.exists_fits_of_lex lexed
    exact ⟨i, fits.standsAt⟩
  | ok toks =>
    rw [lexed] at failed
    change Grammar.readTokens toks = .error error at failed
    rw [Grammar.readTokens] at failed
    cases ran : Grammar.definitions (Grammar.depthFor toks) toks with
    | ok result =>
      rw [ran] at failed
      cases failed
    | error failure =>
      rw [ran] at failed
      cases failed
      obtain ⟨some_token, -⟩ := Grammar.definitions_error (Grammar.depthFor_deep toks) ran
      obtain ⟨i, place, fits⟩ := Grammar.exists_fits_of_locate lexed some_token failure
      refine ⟨i, ?_⟩
      have stands := fits.standsAt
      rwa [← place] at stands

/-- Both the comment and the string before the error go over a line break. -/
theorem Schema.parse_error_stands_below :
    Schema.parse "/* a\n b */ enum C \x7b \"r\n\", x \x7d;"
        = .error ⟨⟨3, 4⟩, .unmet .enumValue (some (.identifier "x"))⟩
      ∧ ∃ i, ParseError.StandsAt "/* a\n b */ enum C \x7b \"r\n\", x \x7d;".toList i
          ⟨⟨3, 4⟩, .unmet .enumValue (some (.identifier "x"))⟩ := by
  have failed : Schema.parse "/* a\n b */ enum C \x7b \"r\n\", x \x7d;"
      = .error ⟨⟨3, 4⟩, .unmet .enumValue (some (.identifier "x"))⟩ := by decide +kernel
  exact ⟨failed, Schema.parse_error_stands failed⟩

end IdlBindings
