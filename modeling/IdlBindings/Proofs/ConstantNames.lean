/-
# IdlBindings.Proofs.ConstantNames: which values of an enumeration share a constant.

The constant of a value is what is left when each word gets a capital and the dividers go.  So two values have the
same constant exactly if one can be respelled as the other: a divider may come or go in front of a capital, and
the first letter of a word may be a capital or not.  Nothing compares the constants of an enumeration, so values
that are alike in this way are declared under one name.  Values of small letters with single hyphens are never
alike.
-/
import IdlBindings.Proofs.CheckedPositions
import IdlBindings.Proofs.Links

namespace IdlBindings

/-! ## Capitals -/

namespace Text

theorem CaseRun.mem_pairs {run : CaseRun} {n image : Nat} (found : run.image? n = some image) :
    (n, image) ∈ run.pairs := by
  unfold CaseRun.image? at found
  split at found
  next inside =>
    obtain rfl := Option.some.inj found
    obtain ⟨first, last, steps⟩ := inside
    have whole : (n - run.first) / run.step * run.step = n - run.first :=
      Nat.div_mul_cancel (Nat.dvd_of_mod_eq_zero steps)
    refine List.mem_map.2 ⟨(n - run.first) / run.step, List.mem_range.2 ?_, ?_⟩
    · exact Nat.lt_succ_of_le (Nat.div_le_div_right (by omega))
    · rw [whole, Nat.add_sub_cancel' first]
  · cases found

/-- The code points that the tables map. -/
def mappedCodes : List Nat :=
  upperRuns.flatMap (·.pairs.map Prod.fst) ++ upperSpecial.map Prod.fst

/-- The code points that they are mapped to. -/
def capitalCodes : List Nat :=
  upperRuns.flatMap (·.pairs.map Prod.snd) ++ upperSpecial.flatMap Prod.snd

/-- A set of code points, as the bits of a number. -/
def bits (codes : List Nat) : Nat :=
  codes.foldr (fun code others => 2 ^ code ||| others) 0

theorem testBit_bits {codes : List Nat} {n : Nat} : (bits codes).testBit n = true ↔ n ∈ codes := by
  induction codes with
  | nil => simp [bits]
  | cons code codes ih =>
    have split : bits (code :: codes) = 2 ^ code ||| bits codes := rfl
    rw [split, Nat.testBit_or, Nat.testBit_two_pow, Bool.or_eq_true, ih, decide_eq_true_eq, List.mem_cons, eq_comm]

/-- The tables lead to capitals: what they map to is not mapped again, in ASCII it is a capital letter, and there
always is something. -/
theorem upperTables_capital : bits capitalCodes &&& bits mappedCodes = 0
    ∧ (capitalCodes.all fun code => Nat.blt 127 code || (Char.ofNat code).isUpper) = true
    ∧ (upperSpecial.all fun entry => !entry.2.isEmpty) = true := by
  -- Two sets of code points are compared as two numbers, not pair by pair.
  decide +kernel

theorem not_mapped_of_capital {code : Nat} (capital : code ∈ capitalCodes) : code ∉ mappedCodes := by
  intro mapped
  have both : (bits capitalCodes &&& bits mappedCodes).testBit code = true := by
    rw [Nat.testBit_and, testBit_bits.2 capital, testBit_bits.2 mapped, Bool.and_self]
  rw [upperTables_capital.1, Nat.zero_testBit] at both
  cases both

theorem lookup_of_not_mapped {code : Nat} (unmapped : code ∉ mappedCodes) :
    upperSpecial.lookup code = none ∧ CaseRun.lookup upperRuns code = none := by
  rw [mappedCodes, List.mem_append, not_or] at unmapped
  constructor
  · rw [List.lookup_eq_none_iff]
    intro entry listed
    rw [bne_iff_ne]
    rintro rfl
    exact unmapped.2 (List.mem_map_of_mem listed)
  · refine List.findSome?_eq_none_iff.2 fun run listed => ?_
    cases found : run.image? code with
    | none => rfl
    | some image =>
      exact absurd (List.mem_flatMap.2 ⟨run, listed, List.mem_map_of_mem (run.mem_pairs found)⟩) unmapped.1

theorem toNat_toUpper_lt {c : Char} (ascii : c.toNat < 128) : c.toUpper.toNat < 128 := by
  by_cases lower : c.isLower = true
  · rw [Char.toUpper_eq_of_isLower lower, Char.toNat_ofNat]
    split <;> omega
  · rwa [Char.toUpper_eq_of_not_isLower lower]

/-- A divider is ASCII, and neither a letter nor a digit. -/
theorem divides_ascii {c : Char} (divides : dividesWords c = true) : c.toNat < 128 ∧ c.isAlphanum = false := by
  simp only [dividesWords, Bool.or_eq_true, beq_iff_eq] at divides
  rcases divides with (rfl | rfl) | rfl
  · decide
  · decide
  · decide

theorem not_divides_of_isAlphanum {c : Char} (plain : c.isAlphanum = true) : dividesWords c = false := by
  rw [← Bool.not_eq_true]
  intro divides
  rw [(divides_ascii divides).2] at plain
  cases plain

/-- In ASCII a letter has one capital, and all else stays as it is. -/
theorem upperChar_ascii {c : Char} (ascii : c.toNat < 128) : upperChar c.toUpper = [c.toUpper]
    ∧ (dividesWords c = false → dividesWords c.toUpper = false) := by
  refine ⟨by rw [upperChar, if_pos (toNat_toUpper_lt ascii), Char.toUpper_toUpper_eq_toUpper], fun plain => ?_⟩
  by_cases lower : c.isLower = true
  · refine not_divides_of_isAlphanum ?_
    rw [Char.isAlphanum, Char.isAlpha_toUpper_eq_isAlpha, Char.isAlpha, lower, Bool.or_true, Bool.true_or]
  · rwa [Char.toUpper_eq_of_not_isLower lower]

/-- What no table maps is its own capital. -/
theorem upperChar_unmapped {c : Char} (above : 127 < c.toNat) (ordinary : upperSpecial.lookup c.toNat = none)
    (unmapped : CaseRun.lookup upperRuns c.toNat = none) : upperChar c = [c] := by
  rw [upperChar, if_neg (by omega), ordinary, unmapped]
  rfl

/-- What the tables map to are capitals. -/
theorem upperChar_capital {code : Nat} (capital : code ∈ capitalCodes) :
    upperChar (Char.ofNat code) = [Char.ofNat code] ∧ dividesWords (Char.ofNat code) = false := by
  have placed := List.all_eq_true.1 upperTables_capital.2.1 code capital
  rw [Bool.or_eq_true, Nat.blt_eq] at placed
  rcases placed with above | upper
  · by_cases valid : code.isValidChar
    · have same : (Char.ofNat code).toNat = code := by rw [Char.toNat_ofNat, if_pos valid]
      obtain ⟨ordinary, unmapped⟩ := lookup_of_not_mapped (not_mapped_of_capital capital)
      refine ⟨upperChar_unmapped (by rwa [same]) (by rwa [same]) (by rwa [same]), ?_⟩
      rw [← Bool.not_eq_true]
      intro divides
      have := (divides_ascii divides).1
      omega
    · -- A code that is no character would stand for the null character, a capital too.
      rw [show Char.ofNat code = Char.ofNat 0 from dif_neg valid]
      decide
  · have letter : (Char.ofNat code).isAlphanum = true := by
      rw [Char.isAlphanum, Char.isAlpha, upper, Bool.true_or, Bool.true_or]
    have below : (Char.ofNat code).toNat ≤ 90 := (of_decide_eq_true upper).2
    refine ⟨?_, not_divides_of_isAlphanum letter⟩
    rw [upperChar, if_pos (by omega), Char.toUpper_eq_of_not_isLower (Char.not_isLower_of_isUpper upper)]

/-- The upper case of a character begins with a capital, and only dividers have dividers in it. -/
theorem exists_upperChar_eq (c : Char) : ∃ first rest, upperChar c = first :: rest ∧ upperChar first = [first]
    ∧ (dividesWords c = false → ∀ x ∈ first :: rest, dividesWords x = false) := by
  by_cases ascii : c.toNat < 128
  · obtain ⟨capital, plain⟩ := upperChar_ascii ascii
    refine ⟨c.toUpper, [], by rw [upperChar, if_pos ascii], capital, ?_⟩
    simpa using plain
  · rw [upperChar, if_neg ascii]
    cases special : upperSpecial.lookup c.toNat with
    | some image =>
      have listed := mem_of_lookup special
      have capital : ∀ code ∈ image, code ∈ capitalCodes := fun code inside =>
        List.mem_append_right _ (List.mem_flatMap.2 ⟨_, listed, inside⟩)
      cases image with
      | nil => exact absurd (List.all_eq_true.1 upperTables_capital.2.2 _ listed) (by simp)
      | cons first rest =>
        have upper := (upperChar_capital (capital first (List.mem_cons_self ..))).1
        refine ⟨Char.ofNat first, rest.map Char.ofNat, rfl, upper, fun _ x mem => ?_⟩
        rw [← List.map_cons] at mem
        obtain ⟨code, inside, rfl⟩ := List.mem_map.1 mem
        exact (upperChar_capital (capital code inside)).2
    | none =>
      cases run : CaseRun.lookup upperRuns c.toNat with
      | none =>
        refine ⟨c, [], rfl, upperChar_unmapped (by omega) special run, ?_⟩
        simp
      | some image =>
        obtain ⟨mapping, listed, found⟩ := List.exists_of_findSome?_eq_some run
        have among : image ∈ capitalCodes :=
          List.mem_append_left _ (List.mem_flatMap.2 ⟨mapping, listed, List.mem_map_of_mem (mapping.mem_pairs found)⟩)
        obtain ⟨capital, plain⟩ := upperChar_capital among
        refine ⟨Char.ofNat image, [], rfl, capital, ?_⟩
        intro _ x mem
        rwa [List.mem_singleton.1 mem]

end Text

/-! ## One pass over a value -/

/-- The characters of a constant behind the `k`, for a value that is read at the start of a word or inside one. -/
def pascal (start : Bool) : List Char → List Char
  | [] => []
  | c :: rest =>
    if dividesWords c then pascal true rest
    else if start then Text.upperChar c ++ pascal false rest
    else c :: pascal false rest

theorem pascal_divider {c : Char} (divides : dividesWords c = true) (start : Bool) (rest : List Char) :
    pascal start (c :: rest) = pascal true rest := by
  rw [pascal, if_pos divides]

theorem pascal_first {c : Char} (plain : dividesWords c = false) (rest : List Char) :
    pascal true (c :: rest) = Text.upperChar c ++ pascal false rest := by
  rw [pascal, if_neg (by simp [plain]), if_pos rfl]

theorem pascal_inner {c : Char} (plain : dividesWords c = false) (rest : List Char) :
    pascal false (c :: rest) = c :: pascal false rest := by
  rw [pascal, if_neg (by simp [plain]), if_neg Bool.false_ne_true]

theorem pascal_append_plain {word : List Char} (plain : ∀ c ∈ word, dividesWords c = false) (rest : List Char) :
    pascal false (word ++ rest) = word ++ pascal false rest := by
  induction word with
  | nil => rfl
  | cons c word ih =>
    rw [List.forall_mem_cons] at plain
    rw [List.cons_append, pascal_inner plain.1, ih plain.2, List.cons_append]

/-- At the start of a word comes a capital. -/
theorem pascal_begins_with_capital (value : List Char) :
    ∀ c ∈ (pascal true value).head?, Text.upperChar c = [c] := by
  induction value with
  | nil => simp [pascal]
  | cons c rest ih =>
    cases divides : dividesWords c with
    | true => rwa [pascal_divider divides]
    | false =>
      obtain ⟨first, others, upper, capital, -⟩ := Text.exists_upperChar_eq c
      rw [pascal_first divides, upper]
      simpa using capital

/-- The characters of a word with its capital. -/
def capitalized (word : List Char) : List Char :=
  (Text.capitalize (String.ofList word)).toList

@[simp] theorem capitalized_nil : capitalized [] = [] := rfl

@[simp] theorem capitalized_cons (c : Char) (rest : List Char) :
    capitalized (c :: rest) = Text.upperChar c ++ rest := by
  simp [capitalized, Text.capitalize]

/-- The words of a value with their capitals, one behind the other, are what one pass makes of it. -/
theorem pascal_eq_words (value : List Char) : ∃ word words, value.splitOnP dividesWords = word :: words
    ∧ pascal false value = word ++ words.flatMap capitalized
    ∧ pascal true value = (word :: words).flatMap capitalized := by
  induction value with
  | nil => exact ⟨[], [], by simp, by simp [pascal], by simp [pascal]⟩
  | cons c rest ih =>
    obtain ⟨word, words, split, inner, outer⟩ := ih
    rw [List.splitOnP_cons_eq_if_modifyHead, split]
    cases divides : dividesWords c with
    | true =>
      refine ⟨[], word :: words, rfl, ?_, ?_⟩
      · rw [pascal_divider divides, outer, List.nil_append]
      · rw [pascal_divider divides, outer]
        rfl
    | false =>
      refine ⟨c :: word, words, rfl, ?_, ?_⟩
      · rw [pascal_inner divides, inner, List.cons_append]
      · simp [pascal_first divides, inner]

/-- Empty words do not show. -/
theorem flatMap_capitalized_filter (words : List (List Char)) :
    (words.filter (!·.isEmpty)).flatMap capitalized = words.flatMap capitalized := by
  induction words with
  | nil => rfl
  | cons word words ih => cases word <;> simp [ih]

/-- A text that begins with a capital stays as it is. -/
theorem Text.capitalize_of_capital {text : List Char} (capital : ∀ c ∈ text.head?, upperChar c = [c]) :
    capitalize (String.ofList text) = String.ofList text := by
  cases text with
  | nil => rfl
  | cons c rest =>
    have first : upperChar c = [c] := capital c rfl
    simp [capitalize, first]

/-- The constant of a value in one pass. -/
theorem constantName_eq (value : String) : constantName value = "k" ++ String.ofList (pascal true value.toList) := by
  obtain ⟨word, words, split, -, outer⟩ := pascal_eq_words value.toList
  have joined : String.join (((value.toList.splitOnP dividesWords).filter (!·.isEmpty)).map fun word =>
      Text.capitalize (String.ofList word)) = String.ofList (pascal true value.toList) := by
    apply String.toList_injective
    rw [String.toList_join, List.flatMap_map, String.toList_ofList, outer, ← split]
    exact flatMap_capitalized_filter _
  rw [constantName, joined, Text.capitalize_of_capital (pascal_begins_with_capital _)]

theorem constantName_inj {a b : String} :
    constantName a = constantName b ↔ pascal true a.toList = pascal true b.toList := by
  rw [constantName_eq, constantName_eq, String.append_right_inj]
  exact ⟨fun same => by simpa using congrArg String.toList same, congrArg String.ofList⟩

/-! ## Values that are alike -/

/-- A step from one spelling of a value to another that has the same constant. -/
inductive Respelled : List Char → List Char → Prop where
  /-- A divider goes from the front of a capital, of another divider, or from the end. -/
  | divider {d : Char} (before behind : List Char) (divides : dividesWords d = true)
      (capital : ∀ c ∈ behind.head?, Text.upperChar c = [c]) : Respelled (before ++ d :: behind) (before ++ behind)
  /-- The first letter of a word becomes a capital. -/
  | capital {c : Char} (before behind : List Char) (start : ∀ d ∈ before.getLast?, dividesWords d = true)
      (plain : dividesWords c = false) : Respelled (before ++ c :: behind) (before ++ (Text.upperChar c ++ behind))

/-- Values that are respelled as each other in any number of steps. -/
def Alike (a b : String) : Prop :=
  Relation.EqvGen Respelled a.toList b.toList

/-- Whether what is read behind a text begins a word. -/
def startsWord (start : Bool) (before : List Char) : Bool :=
  before.foldl (fun _ c => dividesWords c) start

theorem startsWord_of_getLast? {before : List Char} (divides : ∀ d ∈ before.getLast?, dividesWords d = true) :
    startsWord true before = true := by
  rcases List.eq_nil_or_concat' before with rfl | ⟨before, d, rfl⟩
  · rfl
  · rw [startsWord, List.foldl_concat]
    exact divides d (by simp)

/-- What one pass makes of the rest of a value depends on the rest, and on whether it begins a word. -/
theorem pascal_append (start : Bool) (before rest : List Char) :
    pascal start (before ++ rest) = pascal start before ++ pascal (startsWord start before) rest := by
  induction before generalizing start with
  | nil => rfl
  | cons c before ih =>
    rw [List.cons_append, startsWord, List.foldl_cons, ← startsWord]
    cases divides : dividesWords c with
    | true => rw [pascal_divider divides, pascal_divider divides, ih]
    | false =>
      cases start with
      | true => rw [pascal_first divides, pascal_first divides, ih, List.append_assoc]
      | false => rw [pascal_inner divides, pascal_inner divides, ih, List.cons_append]

/-- A capital is the same at the start of a word and inside of one. -/
theorem pascal_capital {rest : List Char} (capital : ∀ c ∈ rest.head?, Text.upperChar c = [c]) (start : Bool) :
    pascal start rest = pascal true rest := by
  cases rest with
  | nil => rfl
  | cons c rest =>
    have first : Text.upperChar c = [c] := capital c rfl
    cases divides : dividesWords c with
    | true => rw [pascal_divider divides, pascal_divider divides]
    | false =>
      cases start with
      | true => rfl
      | false => rw [pascal_inner divides, pascal_first divides, first, List.singleton_append]

/-- A step keeps the constant. -/
theorem Respelled.pascal_eq {a b : List Char} (step : Respelled a b) : pascal true a = pascal true b := by
  cases step with
  | divider before behind divides capital =>
    rw [pascal_append, pascal_append, pascal_divider divides, pascal_capital capital (startsWord true before)]
  | @capital c before behind start plain =>
    obtain ⟨first, rest, upper, capital, plainAll⟩ := Text.exists_upperChar_eq c
    have plainAll := List.forall_mem_cons.1 (plainAll plain)
    rw [pascal_append, pascal_append, startsWord_of_getLast? start, pascal_first plain, upper, List.cons_append,
      List.cons_append, pascal_first plainAll.1, capital, pascal_append_plain plainAll.2]
    rfl

/-- Every value is respelled as its constant.  The text in front of the part that is read stays as it is, and ends
in a divider where a word begins. -/
theorem respelled_pascal (before value : List Char) (start : Bool)
    (begins : start = true → ∀ d ∈ before.getLast?, dividesWords d = true) :
    Relation.EqvGen Respelled (before ++ value) (before ++ pascal start value) := by
  induction value generalizing before start with
  | nil => exact .refl _
  | cons c rest ih =>
    cases divides : dividesWords c with
    | true =>
      -- The rest is respelled behind the divider, which then stands in front of a capital.
      have later := ih (before ++ [c]) true fun _ d mem => by simp_all
      have dropped := Respelled.divider before (pascal true rest) divides (pascal_begins_with_capital rest)
      rw [pascal_divider divides]
      rw [List.append_assoc, List.append_assoc] at later
      exact later.trans _ _ _ (.rel _ _ dropped)
    | false =>
      cases start with
      | true =>
        have raised := Respelled.capital before rest (begins rfl) divides
        have later := ih (before ++ Text.upperChar c) false (by simp)
        rw [pascal_first divides]
        rw [List.append_assoc, List.append_assoc] at later
        exact .trans _ _ _ (.rel _ _ raised) later
      | false =>
        have later := ih (before ++ [c]) false (by simp)
        rw [pascal_inner divides]
        rwa [List.append_assoc, List.append_assoc] at later

/-- Two values have the same constant exactly if they are alike. -/
theorem constantName_eq_iff_alike {a b : String} : constantName a = constantName b ↔ Alike a b := by
  rw [constantName_inj]
  constructor
  · intro same
    have first := respelled_pascal [] a.toList true (by simp)
    have second := respelled_pascal [] b.toList true (by simp)
    rw [same] at first
    exact first.trans _ _ _ (second.symm _ _)
  · -- Each step keeps what one pass makes of a value, so any number of them does.
    intro alike
    unfold Alike at alike
    generalize a.toList = a at alike
    generalize b.toList = b at alike
    induction alike with
    | rel _ _ step => exact step.pascal_eq
    | refl => rfl
    | symm _ _ _ ih => exact ih.symm
    | trans _ _ _ _ _ ih ih' => exact ih.trans ih'

/-! ## Hyphenated values -/

/-- Whether a text consists of words of small letters and digits that begin with a letter, with one hyphen between
two words. -/
def hyphenated (start : Bool) : List Char → Bool
  | [] => !start
  | c :: rest =>
    if start then c.isLower && hyphenated false rest
    else if c = '-' then hyphenated true rest
    else (c.isLower || c.isDigit) && hyphenated false rest

/-- What a character of a constant comes from, if the value is hyphenated. -/
def origin (c : Char) : List Char :=
  if c.isUpper then ['-', c.toLower] else [c]

theorem origin_lower {c : Char} (lower : c.isLower = true) : dividesWords c = false
    ∧ (Text.upperChar c).flatMap origin = ['-', c] ∧ origin c = [c] := by
  have letter : c.isAlpha = true := by rw [Char.isAlpha, lower, Bool.or_true]
  have small : ¬ c.isUpper = true := Char.not_isUpper_of_isLower lower
  have below : c.toNat ≤ 122 := of_decide_eq_true (Bool.and_eq_true_iff.1 lower).2
  refine ⟨Text.not_divides_of_isAlphanum (by rw [Char.isAlphanum, letter, Bool.true_or]), ?_, if_neg small⟩
  rw [Text.upperChar, if_pos (by omega), List.flatMap_singleton, origin, Char.isUpper_toUpper_eq_isAlpha,
    if_pos letter, Char.toLower_toUpper_eq_toLower, Char.toLower_eq_of_not_isUpper small]

theorem origin_digit {c : Char} (digit : c.isDigit = true) : dividesWords c = false ∧ origin c = [c] := by
  refine ⟨Text.not_divides_of_isAlphanum (by rw [Char.isAlphanum, digit, Bool.or_true]), if_neg fun upper => ?_⟩
  have below : c.toNat ≤ 57 := of_decide_eq_true (Bool.and_eq_true_iff.1 digit).2
  have above : 65 ≤ c.toNat := (of_decide_eq_true upper).1
  omega

/-- A hyphenated value can be told from its constant: each capital stands for a hyphen and a small letter. -/
theorem origin_pascal {start : Bool} {value : List Char} (plain : hyphenated start value = true) :
    (pascal start value).flatMap origin = if start then '-' :: value else value := by
  induction value generalizing start with
  | nil => cases start <;> simp_all [hyphenated, pascal]
  | cons c rest ih =>
    cases start with
    | true =>
      simp only [hyphenated, if_true, Bool.and_eq_true] at plain
      obtain ⟨undivided, capital, -⟩ := origin_lower plain.1
      rw [pascal_first undivided, List.flatMap_append, capital, ih plain.2]
      rfl
    | false =>
      by_cases hyphen : c = '-'
      · subst hyphen
        rw [pascal_divider (by decide), ih (by simpa [hyphenated] using plain)]
        rfl
      · simp only [hyphenated, Bool.false_eq_true, if_false, hyphen, Bool.and_eq_true, Bool.or_eq_true] at plain
        obtain ⟨undivided, same⟩ : dividesWords c = false ∧ origin c = [c] := by
          rcases plain.1 with lower | digit
          · obtain ⟨undivided, -, same⟩ := origin_lower lower
            exact ⟨undivided, same⟩
          · exact origin_digit digit
        rw [pascal_inner undivided, List.flatMap_cons, same, ih plain.2]
        rfl

/-- Hyphenated values are alike only if they are equal. -/
theorem Alike.eq_of_hyphenated {a b : String} (alike : Alike a b) (plain : hyphenated true a.toList = true)
    (plain' : hyphenated true b.toList = true) : a = b := by
  have same := constantName_inj.1 (constantName_eq_iff_alike.2 alike)
  have origins := origin_pascal plain
  rw [same, origin_pascal plain'] at origins
  exact String.toList_injective (List.cons.inj origins.symm).2

/-! ## Enumerations of a rendering -/

/-- The declaration of an enumeration in C++ and in JavaScript: its constants, in the order of the values. -/
inductive Enumerates (d : Definition) : Target → String → Prop
  | cpp : Enumerates d .cpp ("enum class " ++ d.name ++ " \x7b\n"
      ++ String.join (d.values.map fun value => "  " ++ constantName value ++ ",\n") ++ "\x7d;\n")
  | javascript : Enumerates d .javascript ("const " ++ d.name ++ " = Object.freeze(\x7b\n"
      ++ String.join (d.values.map fun value =>
        "  " ++ constantName value ++ ": " ++ LiteralSpelling.script.string value ++ ",\n") ++ "\x7d);\n")

namespace Target

variable {target : Target} {schema : List Definition} {options : RenderOptions} {files : List SourceFile}
  {d : Definition}

/-- A text of the shared module stands in its file. -/
theorem javascript_mem_text {text : Definition → String} {start : String} (inside : d ∈ schema) (exports : String) :
    ∃ before behind, start ++ String.join (schema.map fun d => "\n" ++ text d) ++ exports
      = before ++ text d ++ behind := by
  obtain ⟨earlier, later, rfl⟩ := List.append_of_mem inside
  refine ⟨start ++ String.join (earlier.map fun d => "\n" ++ text d) ++ "\n",
    String.join (later.map fun d => "\n" ++ text d) ++ exports, ?_⟩
  simp [String.append_assoc]

/-- The declaration of an enumeration stands in one of the files of its rendering. -/
theorem exists_enumerates (kind : target = .cpp ∨ target = .javascript)
    (rendered : target.render schema options = .ok files) (inside : d ∈ schema) (enum : d.kind = .enum) :
    ∃ text, Enumerates d target text
      ∧ ∃ path ∈ target.pathsOf options d, ∃ before behind, ⟨path, before ++ text ++ behind⟩ ∈ files := by
  rcases kind with rfl | rfl
  · obtain ⟨declared, -, declaration, -, ⟨before, behind, among⟩, -⟩ := cpp_texts rendered inside
    rw [Cpp.declaration, enum] at declaration
    obtain rfl := Except.ok.inj declaration
    exact ⟨_, .cpp, _, List.mem_cons_self .., before, behind, among⟩
  · obtain ⟨text, rfl, each⟩ := javascript_text rendered
    have made := each d inside
    rw [JavaScript.block, enum] at made
    obtain ⟨before, behind, split⟩ := javascript_mem_text inside (javascriptExports schema)
    refine ⟨_, .javascript, options.bundle, List.mem_singleton_self _,
      before ++ JavaScript.docComment ["@enum " ++ JavaScript.braced "string"], behind, ?_⟩
    rw [List.mem_singleton, split, ← Except.ok.inj made, javascript_enumObject]
    simp only [String.append_assoc]
    rfl

/-- In C++ a string default of an enumeration is the constant of that value, qualified with the scope of the options
and the name of the enumeration.  Other strings have no literal. -/
theorem cpp_enum_default (distinct : (schema.map (·.name)).Nodup) (inside : d ∈ schema) (enum : d.kind = .enum)
    {type : TypeExpr} (typed : type.baseName? = some d.name) (value : String) :
    (⟨.cpp, schema, options⟩ : RenderContext).literals.ofDefault type ⟨.string, value⟩
      = if value ∈ d.values then
          .ok ((if options.scope.isEmpty then "" else options.scope ++ "::") ++ d.name ++ "::" ++ constantName value)
        else .error (.invalidEnumValue d.name value) := by
  have listed : Schema.enumValues? schema d.name = some d.values :=
    (Schema.enumValues?_eq_some distinct).2 ⟨d, inside, enum, rfl, rfl⟩
  have known : Schema.isEnum schema d.name = true := by rw [Schema.isEnum, listed, Option.isSome_some]
  show (if Schema.isEnum schema (type.baseName?.getD "") then _ else _) = _
  rw [typed, Option.getD_some, if_pos known, Literals.enumValue]
  simp only [RenderContext.literals, listed, List.contains_iff_mem, if_true, literalSpelling, LiteralSpelling.cpp,
    Literals.scopeOf]
  split_ifs with declared unscoped
  · rw [String.empty_append]
    rfl
  · rfl
  · rfl

/-- In a rendering of C++ or JavaScript each enumeration is declared with the constants of its values.  Two values
share a constant exactly if they are alike, which hyphenated values never are.  A string default of the
enumeration is resolved, in C++, to the constant of that very value and refused if it is no value. -/
theorem constants_identify_unlike_values (kind : target = .cpp ∨ target = .javascript)
    (rendered : target.render schema options = .ok files) (inside : d ∈ schema) (enum : d.kind = .enum) :
    (∃ text, Enumerates d target text
      ∧ ∃ path ∈ target.pathsOf options d, ∃ before behind, ⟨path, before ++ text ++ behind⟩ ∈ files)
      ∧ (∀ a ∈ d.values, ∀ b ∈ d.values, (constantName a = constantName b ↔ Alike a b)
        ∧ (hyphenated true a.toList = true → hyphenated true b.toList = true → Alike a b → a = b))
      ∧ (target = .cpp → ∀ (type : TypeExpr) (value : String), type.baseName? = some d.name →
        (⟨.cpp, schema, options⟩ : RenderContext).literals.ofDefault type ⟨.string, value⟩
          = if value ∈ d.values then
              .ok ((if options.scope.isEmpty then "" else options.scope ++ "::") ++ d.name ++ "::"
                ++ constantName value)
            else .error (.invalidEnumValue d.name value)) := by
  refine ⟨exists_enumerates kind rendered inside enum, ?_, ?_⟩
  · intro a _ b _
    exact ⟨constantName_eq_iff_alike, fun plain plain' alike => alike.eq_of_hyphenated plain plain'⟩
  · rintro rfl type value typed
    exact cpp_enum_default (names_nodup_of_rendered (.inl rfl) rendered) inside enum typed value

/-- Two hyphenated values. -/
def toneEnum : Definition :=
  { kind := .enum, name := "Tone", values := ["light-blue", "dark-blue"] }

theorem constants_identify_tones : ∃ files, Target.cpp.render [toneEnum] {} = .ok files
    ∧ toneEnum ∈ [toneEnum] ∧ toneEnum.kind = .enum
    ∧ (∃ text, Enumerates toneEnum .cpp text
      ∧ ∃ path ∈ ["tone.h", "tone.cc"], ∃ before behind, ⟨path, before ++ text ++ behind⟩ ∈ files)
    ∧ constantName "light-blue" ≠ constantName "dark-blue"
    ∧ (⟨.cpp, [toneEnum], {}⟩ : RenderContext).literals.ofDefault (.nullable (.named "Tone")) ⟨.string, "dark-blue"⟩
        = .ok "idl::Tone::kDarkBlue" := by
  obtain ⟨files, rendered⟩ : ∃ files, Target.cpp.render [toneEnum] {} = .ok files := ⟨_, rfl⟩
  obtain ⟨declared, identified, resolved⟩ :=
    constants_identify_unlike_values (.inl rfl) rendered (List.mem_singleton_self _) rfl
  refine ⟨files, rendered, List.mem_singleton_self _, rfl, declared, ?_, ?_⟩
  · intro same
    obtain ⟨alike, equal⟩ := identified "light-blue" (by decide) "dark-blue" (by decide)
    exact absurd (equal (by decide) (by decide) (alike.1 same)) (by decide)
  · rw [resolved rfl _ _ rfl]
    decide

/-- Two values that differ in a divider. -/
def shadeEnum : Definition :=
  { kind := .enum, name := "Shade", values := ["light-blue", "light_blue"] }

/-- Both values are declared under one constant: twice in the class, and in the object the second replaces the
first. -/
theorem constants_confuse_shades :
    Schema.parse "enum Shade \x7b \"light-blue\", \"light_blue\" \x7d;" = .ok [shadeEnum]
      ∧ "light-blue" ∈ shadeEnum.values ∧ "light_blue" ∈ shadeEnum.values ∧ "light-blue" ≠ "light_blue"
      ∧ constantName "light-blue" = "kLightBlue" ∧ constantName "light_blue" = "kLightBlue"
      ∧ (∃ files, Target.cpp.render [shadeEnum] {} = .ok files
        ∧ ∃ before behind, ⟨"shade.h", before ++ "enum class Shade \x7b\n  kLightBlue,\n  kLightBlue,\n\x7d;\n"
          ++ behind⟩ ∈ files)
      ∧ Target.javascript.render [shadeEnum] {} = .ok [⟨"bindings.js", "'use strict';\n\n/**\n * @enum \x7bstring\x7d\n */\n"
          ++ "const Shade = Object.freeze(\x7b\n  kLightBlue: 'light-blue',\n  kLightBlue: 'light_blue',\n\x7d);\n"
          ++ "\nexports.Shade = Shade;\n"⟩] := by
  refine ⟨by decide +kernel, by decide, by decide, by decide, by decide, by decide, ?_, by decide +kernel⟩
  obtain ⟨files, rendered⟩ : ∃ files, Target.cpp.render [shadeEnum] {} = .ok files := ⟨_, rfl⟩
  obtain ⟨declared, -, declaration, -, ⟨before, behind, among⟩, -⟩ := cpp_texts rendered (List.mem_singleton_self _)
  refine ⟨files, rendered, before, behind, ?_⟩
  rw [← Except.ok.inj declaration] at among
  exact among

end Target

end IdlBindings
