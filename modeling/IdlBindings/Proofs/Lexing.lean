/-
# IdlBindings.Proofs.Lexing: tokens as they are written, and read again.

A token that can be written at all is read back from its own characters, whatever comes behind it, as
long as what comes behind does not continue it: a letter behind an identifier would.  In the other
direction, every token that the lexer cuts out of a text can be written.

`Spells` puts this together for whole texts.  It forgets places: a text spells a list of tokens if the
lexer finds those tokens in it, wherever it starts.
-/
import IdlBindings.Token.Lexer

namespace IdlBindings

/-! ## Character classes -/

namespace Text

theorem CharRanges.exists_range_of_holds {n : Nat} {ranges : CharRanges}
    (h : CharRanges.holds n ranges = true) : ∃ r ∈ ranges, r.1 ≤ n ∧ n ≤ r.2 := by
  induction ranges with
  | nil => simp [holds] at h
  | cons r rest ih =>
    obtain ⟨low, high⟩ := r
    rw [holds] at h
    split at h
    · cases h
    · next above =>
      rcases Bool.or_eq_true _ _ ▸ h with inside | later
      · exact ⟨(low, high), by simp, by simpa using above, by simpa using inside⟩
      · obtain ⟨r, mem, bounds⟩ := ih later
        exact ⟨r, List.mem_cons_of_mem _ mem, bounds⟩

theorem digit_bounds {c : Char} (h : c.isDigit = true) : 48 ≤ c.toNat ∧ c.toNat ≤ 57 := by
  simpa [Char.isDigit, UInt32.le_iff_toNat_le, ← Char.toNat_val] using h

theorem alpha_bounds {c : Char} (h : c.isAlpha = true) : 65 ≤ c.toNat ∧ c.toNat ≤ 122 := by
  delta Char.isAlpha Char.isUpper Char.isLower at h
  have bounds : 65 ≤ c.toNat ∧ c.toNat ≤ 90 ∨ 97 ≤ c.toNat ∧ c.toNat ≤ 122 := by
    simpa [UInt32.le_iff_toNat_le, ← Char.toNat_val] using h
  omega

/-- No blank is a letter: the two tables are compared code point by code point. -/
theorem whitespace_not_letter :
    ∀ r ∈ whitespaceRanges, ∀ n ∈ List.range' r.1 (r.2 + 1 - r.1),
      (n < 128 → n < 45) ∧ CharRanges.holds n alphabeticRanges = false := by
  decide +kernel

theorem whitespace_cases {c : Char} (h : isWhitespace c = true) :
    (c.toNat < 128 → c.toNat < 45) ∧ CharRanges.holds c.toNat alphabeticRanges = false := by
  obtain ⟨r, mem, low, high⟩ := CharRanges.exists_range_of_holds h
  refine whitespace_not_letter r mem c.toNat ?_
  rw [List.mem_range'_1]
  omega

theorem not_isWhitespace_of_isAlphabetic {c : Char} (h : isAlphabetic c = true) :
    isWhitespace c = false := by
  rw [← Bool.not_eq_true]
  intro blank
  obtain ⟨ascii, table⟩ := whitespace_cases blank
  unfold isAlphabetic at h
  split at h
  · next small =>
    have := alpha_bounds h
    have := ascii small
    omega
  · exact Bool.false_ne_true (table.symm.trans h)

/-- No blank is a number sign either. -/
theorem whitespace_not_numeric :
    ∀ r ∈ whitespaceRanges, ∀ n ∈ List.range' r.1 (r.2 + 1 - r.1), CharRanges.holds n numericRanges = false := by
  decide +kernel

theorem not_isWhitespace_of_isNumeric {c : Char} (h : isNumeric c = true) : isWhitespace c = false := by
  rw [← Bool.not_eq_true]
  intro blank
  unfold isNumeric at h
  split at h
  · next small =>
    have := digit_bounds h
    have := (whitespace_cases blank).1 small
    omega
  · obtain ⟨r, listed, low, high⟩ := CharRanges.exists_range_of_holds blank
    have table := whitespace_not_numeric r listed c.toNat (List.mem_range'_1.2 (by omega))
    exact Bool.false_ne_true (table.symm.trans h)

theorem not_isDigit_of_isAlphabetic {c : Char} (h : isAlphabetic c = true) :
    c.isDigit = false := by
  rw [← Bool.not_eq_true]
  intro digit
  have := digit_bounds digit
  unfold isAlphabetic at h
  split at h
  · have := alpha_bounds h
    omega
  · omega

end Text

namespace Token

/-! ## What can be written -/

/-- The characters of a token. -/
def written : Token → List Char
  | identifier text | number text => text.toList
  | string text => '"' :: text.toList ++ ['"']
  | punct c => [c]
  | ellipsis => ['.', '.', '.']

/-- Whether a text is an identifier. -/
def isIdentifier (text : String) : Bool :=
  match text.toList with
  | [] => false
  | c :: rest => startsIdentifier c rest && rest.all continuesIdentifier

/-- Whether a number that starts with `c` in front of `rest` is hexadecimal. -/
def startsHex (c : Char) (rest : List Char) : Bool :=
  c == '0' && rest.head?.any fun x => x == 'x' || x == 'X'

/-- Whether a text is a number. -/
def isNumber (text : String) : Bool :=
  match text.toList with
  | [] => false
  | c :: rest => startsNumber c rest && (numberTail (startsHex c rest) c rest).2.isEmpty

/-- Whether a text can stand between double quotes. -/
def isQuotable (text : String) : Bool :=
  !text.toList.contains '"'

/-- Whether the characters of a token are that token and nothing else. -/
def isWritable : Token → Bool
  | identifier text => isIdentifier text
  | number text => isNumber text
  | string text => isQuotable text
  | punct c => punctuation.contains c
  | ellipsis => true

/-- The characters that no number goes on with. -/
def breaksNumber (c : Char) : Bool :=
  !(c.isAlphanum || c == '.' || c == '+' || c == '-')

/-- Whether no identifier goes on into a text. -/
def endsWord (text : List Char) : Bool :=
  text.head?.all fun c => !continuesIdentifier c

/-- Whether no number goes on into a text. -/
def endsNumber (text : List Char) : Bool :=
  text.head?.all breaksNumber

/-- Whether a token does not go on into a text. -/
def endsBefore (text : List Char) : Token → Bool
  | identifier _ => endsWord text
  | number _ => endsNumber text
  | _ => true

/-! ## What whitespace ends -/

theorem not_isWhitespace_of_continues {c : Char} (h : continuesIdentifier c = true) :
    Text.isWhitespace c = false := by
  simp only [continuesIdentifier, Text.isAlphanumeric, Bool.or_eq_true, beq_iff_eq] at h
  rcases h with ((letter | number) | rfl) | rfl
  · exact Text.not_isWhitespace_of_isAlphabetic letter
  · exact Text.not_isWhitespace_of_isNumeric number
  · decide
  · decide

theorem endsWord_of_isWhitespace {c : Char} (rest : List Char) (blank : Text.isWhitespace c = true) :
    endsWord (c :: rest) = true := by
  simp only [endsWord, List.head?_cons, Option.all_some, Bool.not_eq_true']
  rw [← Bool.not_eq_true]
  intro goes
  rw [not_isWhitespace_of_continues goes] at blank
  cases blank

theorem breaksNumber_of_isWhitespace {c : Char} (blank : Text.isWhitespace c = true) : breaksNumber c = true := by
  have ascii := (Text.whitespace_cases blank).1
  rw [← Bool.not_eq_false]
  intro goes
  simp only [breaksNumber, Char.isAlphanum, Bool.not_eq_false', Bool.or_eq_true, beq_iff_eq] at goes
  rcases goes with (((letter | digit) | rfl) | rfl) | rfl
  · have := Text.alpha_bounds letter
    omega
  · have := Text.digit_bounds digit
    omega
  all_goals exact absurd blank (by decide)

/-- A number consists of characters that numbers go on with, behind its first one. -/
theorem breaksNumber_of_mem {hex : Bool} {last : Char} {rest : List Char}
    (all : (numberTail hex last rest).2 = []) : ∀ d ∈ rest, breaksNumber d = false := by
  induction rest generalizing last with
  | nil => exact fun d inside => absurd inside List.not_mem_nil
  | cons d rest ih =>
    rw [numberTail] at all
    split at all
    · next goes =>
      rw [List.forall_mem_cons]
      refine ⟨?_, ih all⟩
      simp only [breaksNumber, Bool.not_eq_false', Bool.or_eq_true, Bool.and_eq_true, beq_iff_eq] at goes ⊢
      rcases goes with (alnum | dot) | ⟨⟨plus | minus, -⟩, -⟩
      · exact .inl (.inl (.inl alnum))
      · exact .inl (.inl (.inr dot))
      · exact .inl (.inr plus)
      · exact .inr minus
    · cases all

/-! ## Reading one token -/

theorem startsIdentifier_append {c : Char} {rest : List Char} (more : List Char)
    (h : startsIdentifier c rest = true) : startsIdentifier c (rest ++ more) = true := by
  cases rest with
  | nil => simp_all [startsIdentifier]
  | cons d rest => simpa [startsIdentifier] using h

/-- An identifier starts with a letter, a low line or a hyphen, none of which starts another kind of
lexeme in its place. -/
theorem startsIdentifier_exclusive {c : Char} {rest : List Char}
    (h : startsIdentifier c rest = true) :
    Text.isWhitespace c = false ∧ c ≠ '/' ∧ c ≠ '"' ∧ c ≠ '.' ∧ startsNumber c rest = false := by
  simp only [startsIdentifier, Bool.or_eq_true, Bool.and_eq_true, beq_iff_eq] at h
  rcases h with (letter | rfl) | ⟨rfl, behind⟩
  · -- the alphabet is a table, so the four characters are looked up rather than compared
    have digit := Text.not_isDigit_of_isAlphabetic letter
    have other : ∀ d ∈ ['/', '"', '.', '-'], c ≠ d := by
      rintro d mem rfl
      have none : ['/', '"', '.', '-'].all (!Text.isAlphabetic ·) = true := rfl
      have := List.all_eq_true.1 none _ mem
      simp [letter] at this
    refine ⟨Text.not_isWhitespace_of_isAlphabetic letter, other _ (by simp), other _ (by simp),
      other _ (by simp), ?_⟩
    simp [startsNumber, digit, other '-' (by simp), other '.' (by simp)]
  · exact ⟨by decide, by decide, by decide, by decide, by simp [startsNumber]⟩
  · -- a hyphen could be a sign: what is behind it decides
    refine ⟨by decide, by decide, by decide, by decide, ?_⟩
    cases rest with
    | nil => simp at behind
    | cons d rest =>
      have letter : Text.isAlphabetic d = true := by simpa using behind
      have digit := Text.not_isDigit_of_isAlphabetic letter
      have dot : d ≠ '.' := by
        rintro rfl
        exact absurd letter (by decide)
      simp [startsNumber, digit, dot]

theorem lexeme_identifier {c : Char} {rest more : List Char} (start : startsIdentifier c rest = true)
    (all : rest.all continuesIdentifier = true)
    (ends : endsWord more = true) :
    lexeme c (rest ++ more)
      = .ok ⟨some (.identifier (String.ofList (c :: rest))), c :: rest, more⟩ := by
  have start' := startsIdentifier_append more start
  obtain ⟨blank, slash, quote, dot, digit⟩ := startsIdentifier_exclusive start'
  have stop : more.takeWhile continuesIdentifier = [] ∧ more.dropWhile continuesIdentifier = more := by
    cases more with
    | nil => simp
    | cons d more =>
      have : continuesIdentifier d = false := by simpa [endsWord] using ends
      simp [this]
  have taken : (rest ++ more).takeWhile continuesIdentifier = rest := by
    rw [List.takeWhile_append_of_pos (by simpa using all), stop.1, List.append_nil]
  have left : (rest ++ more).dropWhile continuesIdentifier = more := by
    rw [List.dropWhile_append_of_pos (by simpa using all), stop.2]
  simp [lexeme, blank, slash, quote, dot, digit, start', taken, left]

theorem startsNumber_append {c : Char} {rest : List Char} (more : List Char)
    (h : startsNumber c rest = true) : startsNumber c (rest ++ more) = true := by
  cases rest with
  | nil =>
    have digit : c.isDigit = true := by simpa [startsNumber] using h
    simp [startsNumber, digit]
  | cons d rest => simpa [startsNumber] using h

theorem startsNumber_exclusive {c : Char} {rest : List Char} (h : startsNumber c rest = true) :
    Text.isWhitespace c = false ∧ c ≠ '/' ∧ c ≠ '"' ∧ ¬ (c = '.' ∧ rest.take 2 = ['.', '.']) := by
  simp only [startsNumber, Bool.or_eq_true, Bool.and_eq_true, beq_iff_eq] at h
  rcases h with (digit | ⟨rfl, -⟩) | ⟨rfl, behind⟩
  · have bounds := Text.digit_bounds digit
    refine ⟨?_, ?_, ?_, ?_⟩
    · rw [← Bool.not_eq_true]
      intro blank
      have := (Text.whitespace_cases blank).1
      omega
    all_goals
      rintro h
      simp_all
  · exact ⟨by decide, by decide, by decide, by simp⟩
  · refine ⟨by decide, by decide, by decide, ?_⟩
    rintro ⟨-, dots⟩
    cases rest with
    | nil => simp at behind
    | cons d rest =>
      obtain rfl : d = '.' := by
        cases rest with
        | nil => simp at dots
        | cons e rest => simp_all
      simp at behind

theorem numberTail_stop {hex : Bool} {last : Char} {more : List Char}
    (ends : endsNumber more = true) : numberTail hex last more = ([], more) := by
  cases more with
  | nil => rfl
  | cons d more =>
    have breaks : breaksNumber d = true := by simpa [endsNumber] using ends
    simp only [breaksNumber, Bool.not_eq_true', Bool.or_eq_false_iff] at breaks
    obtain ⟨⟨⟨alnum, dot⟩, plus⟩, minus⟩ := breaks
    simp [numberTail, alnum, dot, plus, minus]

theorem numberTail_append_of_all {hex : Bool} {last : Char} {rest more : List Char}
    (all : (numberTail hex last rest).2 = []) (ends : endsNumber more = true) :
    numberTail hex last (rest ++ more) = (rest, more) := by
  induction rest generalizing last with
  | nil => exact numberTail_stop ends
  | cons d rest ih =>
    rw [numberTail] at all
    split at all
    · next goes =>
      rw [List.cons_append, numberTail, if_pos goes, ih all]
    · cases all

theorem startsHex_append {c : Char} {rest more : List Char}
    (ends : endsNumber more = true) :
    startsHex c (rest ++ more) = startsHex c rest := by
  cases rest with
  | cons d rest => simp [startsHex]
  | nil =>
    cases more with
    | nil => rfl
    | cons d more =>
      have breaks : breaksNumber d = true := by simpa [endsNumber] using ends
      have small : d ≠ 'x' := by
        rintro rfl
        exact absurd breaks (by decide)
      have large : d ≠ 'X' := by
        rintro rfl
        exact absurd breaks (by decide)
      simp [startsHex, small, large]

theorem lexeme_number {c : Char} {rest more : List Char} (start : startsNumber c rest = true)
    (all : (numberTail (startsHex c rest) c rest).2.isEmpty = true)
    (ends : endsNumber more = true) :
    lexeme c (rest ++ more)
      = .ok ⟨some (.number (String.ofList (c :: rest))), c :: rest, more⟩ := by
  have start' := startsNumber_append more start
  obtain ⟨blank, slash, quote, dots⟩ := startsNumber_exclusive start'
  have tail := numberTail_append_of_all (List.isEmpty_iff.1 all) ends
  -- the lexer asks for the hexadecimal mark in the whole text, not in the number alone
  rw [← startsHex_append ends] at tail
  simp only [startsHex] at tail
  simp [lexeme, blank, slash, quote, dots, start', tail, -List.head?_append]

theorem splitString_of_quotable {text : List Char} (more : List Char) (h : '"' ∉ text) :
    splitString (text ++ '"' :: more) = some (text, more) := by
  induction text with
  | nil => rfl
  | cons c text ih =>
    obtain ⟨first, later⟩ := List.ne_and_not_mem_of_not_mem_cons h
    rw [List.cons_append, splitString, ih later]
    · rfl
    · intro same
      exact first same.symm

/-- The characters of punctuation start no other kind of lexeme. -/
theorem punctuation_exclusive : ∀ c ∈ punctuation,
    Text.isWhitespace c = false ∧ c ≠ '/' ∧ c ≠ '"' ∧ c ≠ '.' ∧ c ≠ '-' ∧ c ≠ '_'
      ∧ c.isDigit = false ∧ Text.isAlphabetic c = false := by
  have checked : punctuation.all (fun c => !Text.isWhitespace c && c != '/' && c != '"' && c != '.'
      && c != '-' && c != '_' && !c.isDigit && !Text.isAlphabetic c) = true := rfl
  intro c mem
  simpa [and_assoc] using List.all_eq_true.1 checked c mem

/-- A token that can be written is read from its characters, unless they go on. -/
theorem lexeme_written {t : Token} {more : List Char} (writable : t.isWritable = true)
    (ends : t.endsBefore more = true) :
    ∃ c rest, t.written ++ more = c :: rest ∧ lexeme c rest = .ok ⟨some t, t.written, more⟩ := by
  cases t with
  | identifier text =>
    simp only [isWritable, isIdentifier] at writable
    split at writable
    · cases writable
    · next c rest chars =>
      obtain ⟨start, all⟩ := Bool.and_eq_true_iff.1 writable
      refine ⟨c, rest ++ more, by simp [written, chars], ?_⟩
      rw [lexeme_identifier start all ends, ← chars, String.ofList_toList]
      simp [written]
  | number text =>
    simp only [isWritable, isNumber] at writable
    split at writable
    · cases writable
    · next c rest chars =>
      obtain ⟨start, all⟩ := Bool.and_eq_true_iff.1 writable
      refine ⟨c, rest ++ more, by simp [written, chars], ?_⟩
      rw [lexeme_number start all ends, ← chars, String.ofList_toList]
      simp [written]
  | string text =>
    have quotable : '"' ∉ text.toList := by simpa [isWritable, isQuotable] using writable
    refine ⟨'"', text.toList ++ '"' :: more, by simp [written], ?_⟩
    have blank : Text.isWhitespace '"' = false := by decide
    simp [lexeme, blank, splitString_of_quotable more quotable, written]
  | punct c =>
    have mem : c ∈ punctuation := by simpa [isWritable] using writable
    obtain ⟨blank, slash, quote, dot, minus, low, digit, letter⟩ := punctuation_exclusive c mem
    refine ⟨c, more, rfl, ?_⟩
    simp [lexeme, startsNumber, startsIdentifier, blank, slash, quote, dot, minus, low, digit, letter,
      mem, written]
  | ellipsis =>
    refine ⟨'.', '.' :: '.' :: more, rfl, ?_⟩
    have blank : Text.isWhitespace '.' = false := by decide
    simp [lexeme, blank, written]

/-! ## What the lexer cuts out can be written -/

theorem startsIdentifier_takeWhile {c : Char} {rest : List Char}
    (h : startsIdentifier c rest = true) :
    startsIdentifier c (rest.takeWhile continuesIdentifier) = true := by
  cases rest with
  | nil => exact h
  | cons d rest =>
    by_cases goes : continuesIdentifier d = true
    · simpa [startsIdentifier, goes] using h
    · have letter : Text.isAlphabetic d = false := by
        simp only [continuesIdentifier, Text.isAlphanumeric, Bool.or_eq_true] at goes
        simpa using fun h => goes (.inl (.inl (.inl h)))
      have : startsIdentifier c [] = true := by simpa [startsIdentifier, letter] using h
      simpa [goes] using this

theorem numberTail_idem (hex : Bool) (last : Char) (rest : List Char) :
    (numberTail hex last (numberTail hex last rest).1).2 = [] := by
  induction rest generalizing last with
  | nil => rfl
  | cons d rest ih =>
    rw [numberTail]
    split
    · next goes =>
      rw [numberTail, if_pos goes]
      exact ih d
    · rfl

theorem startsHex_numberTail {c : Char} (hex : Bool) (rest : List Char) :
    startsHex c (numberTail hex c rest).1 = startsHex c rest := by
  cases rest with
  | nil => rfl
  | cons d rest =>
    rw [numberTail]
    split
    · simp [startsHex]
    · next stops =>
      have small : d ≠ 'x' := by
        rintro rfl
        exact stops rfl
      have large : d ≠ 'X' := by
        rintro rfl
        exact stops rfl
      simp [startsHex, small, large]

theorem startsNumber_numberTail {c : Char} {hex : Bool} {rest : List Char}
    (h : startsNumber c rest = true) : startsNumber c (numberTail hex c rest).1 = true := by
  cases rest with
  | nil => exact h
  | cons d rest =>
    rw [numberTail]
    split
    · simpa [startsNumber] using h
    · next stops =>
      have alnum : d.isDigit = false := by
        rw [← Bool.not_eq_true]
        intro digit
        exact stops (by simp [Char.isAlphanum, digit])
      have dot : d ≠ '.' := by
        rintro rfl
        exact stops rfl
      have : c.isDigit = true := by simpa [startsNumber, alnum, dot] using h
      simp [startsNumber, this]

theorem not_mem_of_splitString {cs body rest : List Char} (h : splitString cs = some (body, rest)) :
    '"' ∉ body := by
  fun_induction splitString cs generalizing body with
  | case1 => simp at h
  | case2 rest =>
    obtain ⟨rfl, rfl⟩ : [] = body ∧ rest = _ := by simpa using h
    simp
  | case3 c rest other ih =>
    obtain ⟨⟨tail, rest'⟩, split, same⟩ := Option.map_eq_some_iff.1 h
    obtain ⟨rfl, rfl⟩ : c :: tail = body ∧ rest' = _ := by simpa using same
    simpa using ⟨fun same => other same.symm, ih split⟩

/-- The outcomes of cutting a lexeme off, each with what was checked for it.  Blanks and comments are no tokens. -/
inductive Cut (c : Char) (rest : List Char) : Except LexFault Lexeme → Prop
  | skipped (text behind : List Char) : Cut c rest (.ok ⟨none, text, behind⟩)
  | string {body behind : List Char} (solid : Text.isWhitespace c = false)
      (closed : splitString rest = some (body, behind)) :
      Cut c rest (.ok ⟨some (.string (String.ofList body)), '"' :: body ++ ['"'], behind⟩)
  | ellipsis (solid : Text.isWhitespace c = false) :
      Cut c rest (.ok ⟨some .ellipsis, ['.', '.', '.'], rest.drop 2⟩)
  | number (solid : Text.isWhitespace c = false) (starts : startsNumber c rest = true) :
      Cut c rest (.ok ⟨some (.number (String.ofList (c :: (numberTail (startsHex c rest) c rest).1))),
        c :: (numberTail (startsHex c rest) c rest).1, (numberTail (startsHex c rest) c rest).2⟩)
  | identifier (solid : Text.isWhitespace c = false) (starts : startsIdentifier c rest = true) :
      Cut c rest (.ok ⟨some (.identifier (String.ofList (c :: rest.takeWhile continuesIdentifier))),
        c :: rest.takeWhile continuesIdentifier, rest.dropWhile continuesIdentifier⟩)
  | punct (solid : Text.isWhitespace c = false) (known : punctuation.contains c = true) :
      Cut c rest (.ok ⟨some (.punct c), [c], rest⟩)
  | openComment {body : List Char} (solid : Text.isWhitespace c = false) (slash : c = '/') (opens : rest = '*' :: body)
      (unclosed : splitComment body = none) : Cut c rest (.error .unterminatedComment)
  | openString (solid : Text.isWhitespace c = false) (opens : c = '"') (unclosed : splitString rest = none) :
      Cut c rest (.error .unterminatedString)
  | unexpected (solid : Text.isWhitespace c = false) : Cut c rest (.error (.unexpectedCharacter c))

theorem lexeme_cut (c : Char) (rest : List Char) : Cut c rest (lexeme c rest) := by
  -- the kinds come in the order in which the lexer tries them
  unfold lexeme
  split
  · exact .skipped ..
  next blank =>
  have solid : Text.isWhitespace c = false := Bool.eq_false_iff.2 blank
  split
  · exact .skipped ..
  split
  · next comment =>
    obtain ⟨slash, star⟩ := comment
    obtain ⟨body, opens⟩ := List.head?_eq_some_iff.1 star
    subst opens
    split
    · exact .skipped ..
    · next unclosed => exact .openComment solid slash rfl unclosed
  split
  · next quote =>
    split
    · next closed => exact .string solid closed
    · next unclosed => exact .openString solid quote unclosed
  split
  · exact .ellipsis solid
  split
  · next starts => exact .number solid starts
  split
  · next starts => exact .identifier solid starts
  split
  · next known => exact .punct solid known
  · exact .unexpected solid

theorem isWritable_of_lexeme {c : Char} {rest : List Char} {l : Lexeme} {t : Token}
    (h : lexeme c rest = .ok l) (token : l.token = some t) : t.isWritable = true := by
  have cut := lexeme_cut c rest
  rw [h] at cut
  cases cut with
  | skipped => cases token
  | string solid closed =>
    cases token
    simpa [isWritable, isQuotable] using not_mem_of_splitString closed
  | ellipsis solid =>
    cases token
    rfl
  | number solid starts =>
    cases token
    have tail := numberTail_idem (startsHex c rest) c rest
    simp only [isWritable, isNumber, String.toList_ofList]
    rw [Bool.and_eq_true]
    refine ⟨startsNumber_numberTail starts, ?_⟩
    rw [startsHex_numberTail]
    exact List.isEmpty_iff.2 tail
  | identifier solid starts =>
    cases token
    simp only [isWritable, isIdentifier, String.toList_ofList]
    rw [Bool.and_eq_true]
    exact ⟨startsIdentifier_takeWhile starts, List.all_takeWhile⟩
  | punct solid known =>
    cases token
    exact known

/-! ## Whole texts -/

theorem lexFrom_cons {p : Position} {c : Char} {rest : List Char} {l : Lexeme}
    (h : lexeme c rest = .ok l) :
    lexFrom p (c :: rest)
      = (lexFrom (p.after l.text) l.rest).map fun later =>
          match l.token with
          | some token => ⟨token, p⟩ :: later
          | none => later := by
  rw [lexFrom]
  split
  · next fault =>
    rw [h] at fault
    cases fault
  · next cut found =>
    obtain rfl : l = cut := Except.ok.inj (h.symm.trans found)
    cases lexFrom (p.after l.text) l.rest with
    | error fault => rfl
    | ok later => cases l.token <;> rfl

/-- A token that can be written comes first, unless its characters go on. -/
theorem lexFrom_written {p : Position} {t : Token} {more : List Char} (writable : t.isWritable = true)
    (ends : t.endsBefore more = true) :
    lexFrom p (t.written ++ more) = (lexFrom (p.after t.written) more).map (⟨t, p⟩ :: ·) := by
  obtain ⟨c, rest, chars, cut⟩ := lexeme_written writable ends
  rw [chars, lexFrom_cons cut]

/-- A lexeme without a token is passed over. -/
theorem lexFrom_skip {p : Position} {c : Char} {rest text more : List Char}
    (cut : lexeme c rest = .ok ⟨none, text, more⟩) : lexFrom p (c :: rest) = lexFrom (p.after text) more := by
  rw [lexFrom_cons cut]
  cases lexFrom (p.after text) more <;> rfl

theorem lexFrom_blank {p : Position} {c : Char} {more : List Char} (blank : Text.isWhitespace c = true) :
    lexFrom p (c :: more) = lexFrom (p.after [c]) more := by
  apply lexFrom_skip
  simp [lexeme, blank]

theorem isWritable_of_lexFrom {p : Position} {cs : List Char} {located : List Located}
    (h : lexFrom p cs = .ok located) : ∀ x ∈ located, x.token.isWritable = true := by
  fun_induction lexFrom p cs generalizing located with
  | case1 => cases h; simp
  | case2 => cases h
  | case3 p c rest l found ih =>
    cases later : lexFrom (p.after l.text) l.rest with
    | error fault =>
      rw [later] at h
      cases h
    | ok tokens =>
      rw [later] at h
      cases token : l.token with
      | none =>
        simp only [token] at h
        cases h
        exact ih later
      | some t =>
        simp only [token] at h
        cases h
        rintro x mem
        rcases List.mem_cons.1 mem with rfl | mem
        · exact isWritable_of_lexeme found token
        · exact ih later x mem

/-- A list of tokens without the places. -/
def plain (located : List Located) : List Token :=
  located.map (·.token)

/-- A text spells tokens if the lexer finds them in it. -/
def Spells (text : List Char) (tokens : List Token) : Prop :=
  ∀ p, ∃ located, lexFrom p text = .ok located ∧ plain located = tokens

theorem Spells.nil : Spells [] [] := by
  intro p
  exact ⟨[], by rw [lexFrom], rfl⟩

theorem Spells.token {t : Token} {text : List Char} {tokens : List Token}
    (writable : t.isWritable = true) (ends : t.endsBefore text = true) (later : Spells text tokens) :
    Spells (t.written ++ text) (t :: tokens) := by
  intro p
  -- what comes behind is spelled from any place, in particular from the one behind the token
  obtain ⟨located, found, same⟩ := later (p.after t.written)
  refine ⟨⟨t, p⟩ :: located, ?_, congrArg (t :: ·) same⟩
  rw [lexFrom_written writable ends, found]
  rfl

theorem Spells.blank {c : Char} {text : List Char} {tokens : List Token}
    (blank : Text.isWhitespace c = true) (later : Spells text tokens) :
    Spells (c :: text) tokens := by
  intro p
  obtain ⟨located, found, same⟩ := later (p.after [c])
  refine ⟨located, ?_, same⟩
  rw [lexFrom_blank blank, found]

end Token
end IdlBindings
