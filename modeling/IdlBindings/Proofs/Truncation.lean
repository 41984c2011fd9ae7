/-
# IdlBindings.Proofs.Truncation: tokens that are cut off.

A parser that can read a list of tokens is run on the front of that list.  Either it is done before the cut,
with the same value, or it runs into the end: there it makes do with what it has, or it fails.  A failure
blames the end of the tokens.  Only a value that has to follow a mark at once is different: the parser has
left the mark behind by then and blames it.

`Cuttable before p` says this of a parser that is run where `before` holds of the token in front.  It is
closed under the ways of putting parsers together, as tracking is, and what is asked for directly behind a
mark is the one thing that the rules pass on.
-/
import IdlBindings.Proofs.TrackedGrammar

namespace IdlBindings

/-- The marks directly behind which something is expected, for the kinds of values that a mark announces. -/
def Expectation.marks : Expectation → List Token
  | .enumValue => [.punct '\x7b', .punct ',']
  | .defaultValue => [.punct '=']
  | .attributeValue => [.punct '=']
  | _ => []

namespace Grammar

open Token (Located)

variable {α β : Type} {toks mid rest x : List Located} {before before' : Token → Prop}

/-! ## The end of the tokens -/

/-- A failure where the tokens end and `before` holds of the last one: the end is blamed, or the mark in front
of a value.  A depth that is exhausted may show anywhere. -/
inductive AtEnd (before : Token → Prop) (e : Failure) : Prop
  | shallow (exhausted : e.expectation = .shallower)
  | blames (plain : e.expectation.marks = []) (behind : e.remaining = 0)
  | marked (last : e.remaining = 1) (mark : ∀ token, before token → token ∈ e.expectation.marks)

/-- A result of a parser that came to the end of the tokens. -/
structure Closes (before : Token → Prop) (r : Except Failure (α × List Located)) : Prop where
  ok : ∀ {a rest}, r = .ok (a, rest) → rest = []
  error : ∀ {e}, r = .error e → AtEnd before e

theorem AtEnd.mono {e : Failure} (atEnd : AtEnd before e) (fewer : ∀ token, before' token → before token) :
    AtEnd before' e := by
  cases atEnd with
  | shallow exhausted => exact .shallow exhausted
  | blames plain behind => exact .blames plain behind
  | marked last mark => exact .marked last fun token here => mark token (fewer token here)

theorem Closes.mono {r : Except Failure (α × List Located)} (closes : Closes before r)
    (fewer : ∀ token, before' token → before token) : Closes before' r where
  ok := closes.ok
  error failed := (closes.error failed).mono fewer

/-- The last of the tokens. -/
def IsLast (toks : List Located) (token : Token) : Prop :=
  ∃ place, toks.getLast? = some ⟨token, place⟩

theorem IsLast.of_suffix {token : Token} (suffix : mid <:+ toks) (some_token : mid ≠ [])
    (last : IsLast toks token) : IsLast mid token := by
  obtain ⟨front, rfl⟩ := suffix
  rwa [IsLast, List.getLast?_append_of_ne_nil front some_token] at last

theorem isLast_singleton {t : Located} {token : Token} (last : IsLast [t] token) : token = t.token := by
  obtain ⟨place, same⟩ := last
  cases same
  rfl

/-! ## Parsers on the front of the tokens -/

/-- A parser takes tokens from the front.  Where it can read a list of tokens, it comes to the end of the front
of that list or reads the same value from it. -/
structure Cuttable (before : Token → Prop) (p : Parser α) : Prop where
  suffix : ∀ {toks a rest}, p toks = .ok (a, rest) → rest <:+ toks
  atEnd : Closes before (p [])
  cut : ∀ {toks x a rest}, toks ≠ [] → p (toks ++ x) = .ok (a, rest) →
    Closes (IsLast toks) (p toks) ∨ ∃ left, p toks = .ok (a, left) ∧ rest = left ++ x

section

variable {p q : Parser α} {a : α}

/-- A parser that starts behind some of the tokens. -/
theorem Cuttable.behind (cuttable : Cuttable before p) (suffix : mid <:+ toks)
    (ends : mid = [] → ∀ token, IsLast toks token → before token) (ran : p (mid ++ x) = .ok (a, rest)) :
    Closes (IsLast toks) (p mid) ∨ ∃ left, p mid = .ok (a, left) ∧ rest = left ++ x := by
  by_cases empty : mid = []
  · subst empty
    exact .inl (cuttable.atEnd.mono (ends rfl))
  · rcases cuttable.cut empty ran with closes | done
    · exact .inl (closes.mono fun token last => last.of_suffix suffix empty)
    · exact .inr done

theorem Cuttable.of_refuses (refuses : ∀ {toks result}, p toks ≠ .ok result) (atEnd : Closes before (p [])) :
    Cuttable before p where
  suffix ran := (refuses ran).elim
  atEnd := atEnd
  cut _ ran := (refuses ran).elim

theorem Cuttable.pure (a : α) : Cuttable before (Pure.pure a : Parser α) where
  suffix ran := by
    obtain ⟨-, rfl⟩ := pure_eq_ok.1 ran
    exact List.suffix_refl _
  atEnd := by
    refine ⟨fun ran => ?_, fun failed => nomatch failed⟩
    obtain ⟨-, rfl⟩ := pure_eq_ok.1 ran
    rfl
  cut {toks x b rest} _ ran := by
    obtain ⟨rfl, rfl⟩ := pure_eq_ok.1 ran
    exact .inr ⟨toks, rfl, rfl⟩

theorem cuttable_fail (e : Expectation) (plain : e.marks = []) : Cuttable before (fail e : Parser α) := by
  refine .of_refuses fail_ne_ok ⟨fun ran => (fail_ne_ok ran).elim, fun failed => ?_⟩
  cases failed
  exact .blames plain rfl

/-- Behind one of its marks a value may be asked for. -/
theorem cuttable_blame (e : Expectation) (mark : ∀ token, before token → token ∈ e.marks) :
    Cuttable before (blame e : Parser α) := by
  refine .of_refuses (fun ran => nomatch ran) ⟨fun ran => (nomatch ran), fun failed => ?_⟩
  cases failed
  exact .marked rfl mark

/-! ## Sequences -/

theorem Closes.bind {f : α → Parser β} (first : Closes before (p toks))
    (later : ∀ a, Closes (fun _ => True) (f a [])) : Closes before ((p >>= f) toks) where
  ok ran := by
    obtain ⟨a, mid, ran₁, ran₂⟩ := bind_eq_ok.1 ran
    obtain rfl := first.ok ran₁
    exact (later a).ok ran₂
  error failed := by
    rcases bind_eq_error.1 failed with failed | ⟨a, mid, ran, failed⟩
    · exact first.error failed
    · obtain rfl := first.ok ran
      exact ((later a).mono fun _ _ => trivial).error failed

/-- The first parser may have taken any token, so the second one must not ask for a value at once. -/
theorem Cuttable.bind {f : α → Parser β} (first : Cuttable before p)
    (later : ∀ a, Cuttable (fun _ => True) (f a)) : Cuttable before (p >>= f) where
  suffix ran := by
    obtain ⟨a, mid, ran₁, ran₂⟩ := bind_eq_ok.1 ran
    exact ((later a).suffix ran₂).trans (first.suffix ran₁)
  atEnd := first.atEnd.bind fun a => (later a).atEnd
  cut {toks x b rest} some_token ran := by
    obtain ⟨a, mid', ran₁, ran₂⟩ := bind_eq_ok.1 ran
    rcases first.cut some_token ran₁ with closes | ⟨mid, ran, rfl⟩
    · exact .inl (closes.bind fun a => (later a).atEnd)
    · have goes : (p >>= f) toks = f a mid := by simp only [Bind.bind, ran]
      rw [goes]
      exact (later a).behind (first.suffix ran) (fun _ _ _ => trivial) ran₂

theorem Cuttable.map (g : α → β) (cuttable : Cuttable before p) : Cuttable before (g <$> p) := by
  rw [map_eq_pure_bind]
  exact cuttable.bind fun a => .pure (g a)

theorem Cuttable.ite {condition : Prop} [Decidable condition] (yes : Cuttable before p) (no : Cuttable before q) :
    Cuttable before (if condition then p else q) := by
  split
  · exact yes
  · exact no

/-! ## Single tokens -/

theorem cuttable_onToken {found : Token → Option (Parser α)} {missing : Option Token → Parser α}
    (taken : ∀ {token p}, found token = some p → Cuttable (· = token) p)
    (left : ∀ token, Cuttable before (missing token)) : Cuttable before (onToken found missing) where
  suffix {toks a rest} ran := by
    cases toks with
    | nil => exact (left none).suffix ran
    | cons t later =>
      rw [onToken] at ran
      split at ran
      · next here => exact ((taken here).suffix ran).trans (List.suffix_cons t later)
      · exact (left _).suffix ran
  atEnd := (left none).atEnd
  cut {toks x a rest} some_token ran := by
    obtain ⟨t, later, rfl⟩ := List.exists_cons_of_ne_nil some_token
    rw [List.cons_append, onToken] at ran
    rw [onToken]
    split at ran
    · next here =>
      refine (taken here).behind (List.suffix_cons t later) ?_ ran
      rintro rfl token last
      exact isLast_singleton last
    · exact (left _).cut some_token ran

theorem cuttable_named? {f : String → α} {token : Token} (here : named? f token = some p) :
    Cuttable before p := by
  cases token with
  | identifier name =>
    cases here
    exact .pure (f name)
  | string | number | punct | ellipsis => cases here

/-- A branch on whether a token comes next.  Only then it stands in front of the rest. -/
theorem Cuttable.whether {token : Token} (found : Cuttable (· = token) p) (missing : Cuttable before q) :
    Cuttable before (do if ← eat token then p else q) := by
  rw [eat_branch]
  refine cuttable_onToken ?_ fun _ => missing
  intro other p' here
  split at here
  · next same =>
    cases here
    exact same ▸ found
  · cases here

theorem cuttable_eat (token : Token) : Cuttable before (eat token) := by
  rw [eat_eq]
  exact .whether (.pure true) (.pure false)

theorem cuttable_skip : Cuttable before (skip 1) := by
  rw [skip_one]
  refine cuttable_onToken ?_ fun _ => .pure ()
  rintro token p ⟨⟩
  exact .pure ()

/-- What stands behind a mark that has to come next. -/
theorem Cuttable.expecting {mark : Char} {f : Unit → Parser α} (later : Cuttable (· = .punct mark) (f ())) :
    Cuttable before (expect mark >>= f) := by
  have run : expect mark >>= f = (do if ← eat (.punct mark) then f () else fail (.punct mark)) := by
    rw [expect, bind_assoc]
    refine bind_congr fun taken => ?_
    cases taken <;> rfl
  rw [run]
  exact .whether later (cuttable_fail _ rfl)

theorem Cuttable.optionally {token : Token} (cuttable : Cuttable (· = token) p) :
    Cuttable before (optionally token p) :=
  .whether (cuttable.map some) (.pure none)

/-- Items behind separators: one more, and then the others. -/
theorem cuttable_tail {separator : Token} {others : Parser (List α)} (first : Cuttable (· = separator) p)
    (tail : Cuttable (fun _ => True) others) :
    Cuttable before (do if ← eat separator then (do let a ← p; let as ← others; pure (a :: as)) else pure []) :=
  .whether (first.bind fun _ => tail.bind fun _ => .pure _) (.pure [])

/-! ## Two tokens -/

/-- Leaves out `j` tokens and goes on with `p` where the next two tokens pass a test, or leaves them. -/
def onPair (test : Token → Token → Bool) (j : Nat) (p q : Parser α) : Parser α
  | t :: u :: rest => if test t.token u.token then p ((t :: u :: rest).drop j) else q (t :: u :: rest)
  | toks => q toks

/-- The second token may be cut off.  Then the first one is all there is, and the other branch has to come to
its end. -/
theorem cuttable_onPair {test : Token → Token → Bool} {j : Nat} (few : j ≤ 2)
    (found : Cuttable (fun _ => True) p) (missing : Cuttable before q)
    (alone : ∀ {t : Located} {other}, test t.token other = true → Closes (IsLast [t]) (q [t])) :
    Cuttable before (onPair test j p q) where
  suffix {toks a rest} ran := by
    match toks with
    | [] | [t] => exact missing.suffix ran
    | t :: u :: later =>
      rw [onPair] at ran
      split at ran
      · exact (found.suffix ran).trans (List.drop_suffix j _)
      · exact missing.suffix ran
  atEnd := missing.atEnd
  cut {toks x a rest} some_token ran := by
    match toks, x with
    | [], _ => exact absurd rfl some_token
    | [t], [] => exact missing.cut some_token ran
    | [t], u :: more =>
      rw [List.singleton_append, onPair] at ran
      split at ran
      · next here => exact .inl (alone here)
      · exact missing.cut some_token ran
    | t :: u :: later, x =>
      rw [List.cons_append, List.cons_append, onPair] at ran
      rw [onPair]
      split at ran
      · next here =>
        have two : j ≤ (t :: u :: later).length := by
          simp only [List.length_cons]
          omega
        rw [← List.cons_append, ← List.cons_append, List.drop_append_of_le_length two] at ran
        rw [if_pos here]
        exact found.behind (List.drop_suffix j _) (fun _ _ _ => trivial) ran
      · next other =>
        rw [if_neg other]
        exact missing.cut some_token ran

theorem announces_eq (word : String) (mark : Char) (j : Nat) (p q : Parser α) :
    (do if ← announces word mark then (do skip j; p) else q : Parser α)
      = onPair (fun token other => token == .identifier word && other == .punct mark) j p q := by
  funext toks
  rw [announces_branch]
  match toks with
  | [] => rfl
  | [t] => simp [onPair]
  | t :: u :: later => simp [onPair]

/-! ## Words -/

/-- A parser that gets to the end of a word if there is nothing else. -/
structure Opening (p : Parser α) : Prop where
  cuttable : ∀ {before}, Cuttable before p
  alone : ∀ word place, Closes (IsLast [⟨.identifier word, place⟩]) (p [⟨.identifier word, place⟩])

theorem opening_identifier : Opening identifier where
  cuttable := by
    rw [identifier_eq]
    exact cuttable_onToken cuttable_named? fun _ => cuttable_fail _ rfl
  alone word place := by
    refine ⟨fun ran => ?_, fun failed => nomatch failed⟩
    cases ran
    rfl

/-- Where there is no depth left, it does not matter what is there. -/
theorem opening_shallow : Opening (fail .shallower : Parser α) where
  cuttable := cuttable_fail _ rfl
  alone word place := by
    refine ⟨fun ran => (fail_ne_ok ran).elim, fun failed => ?_⟩
    cases failed
    exact .shallow rfl

theorem Opening.bind {f : α → Parser β} (first : Opening p) (later : ∀ a, Cuttable (fun _ => True) (f a)) :
    Opening (p >>= f) where
  cuttable := first.cuttable.bind later
  alone word place := (first.alone word place).bind fun a => (later a).atEnd

theorem Opening.whether {token : Token} (found : Cuttable (· = token) p) (missing : Opening q) :
    Opening (do if ← eat token then p else q) where
  cuttable := .whether found missing.cuttable
  alone word place := by
    rw [eat_branch, onToken]
    by_cases same : Token.identifier word = token
    · simp only [same, if_true]
      refine found.atEnd.mono ?_
      intro other last
      exact isLast_singleton last
    · simp only [same, if_false]
      exact missing.alone word place

/-- A branch on whether a word and another token come next. -/
theorem Opening.onPair {test : Token → Token → Bool} {j : Nat} (few : j ≤ 2)
    (word : ∀ {token other}, test token other = true → ∃ name, token = .identifier name)
    (found : Cuttable (fun _ => True) p) (missing : Opening q) : Opening (onPair test j p q) where
  cuttable := by
    refine cuttable_onPair few found missing.cuttable ?_
    rintro ⟨token, place⟩ other here
    obtain ⟨name, rfl⟩ := word here
    exact missing.alone name place
  alone name place := missing.alone name place

theorem Opening.announced {word : String} {mark : Char} (j : Nat) (few : j ≤ 2)
    (found : Cuttable (fun _ => True) p) (missing : Opening q) :
    Opening (do if ← announces word mark then (do skip j; p) else q) := by
  rw [announces_eq]
  refine .onPair few ?_ found missing
  intro token other here
  simp only [Bool.and_eq_true, beq_iff_eq] at here
  exact ⟨word, here.1⟩

end

/-! ## Modifiers -/

theorem splitModifiers_append (toks x : List Located) : (splitModifiers toks).2 = []
    ∨ splitModifiers (toks ++ x) = ((splitModifiers toks).1, (splitModifiers toks).2 ++ x) := by
  induction toks with
  | nil => exact .inl rfl
  | cons t toks ih =>
    obtain ⟨token, place⟩ := t
    cases token with
    | identifier word =>
      by_cases known : isModifier word = true
      · simp only [List.cons_append, splitModifiers, known, if_true]
        rcases ih with empty | same
        · exact .inl empty
        · exact .inr (by rw [same])
      · simp only [List.cons_append, splitModifiers, known, Bool.false_eq_true, if_false, or_true]
    | string | number | punct | ellipsis => exact .inr rfl

theorem cuttable_modifiers : Cuttable before modifiers where
  suffix {toks ms rest} ran := by
    have split : splitModifiers toks = (ms, rest) := Except.ok.inj ran
    have suffix := splitModifiers_suffix toks
    rwa [split] at suffix
  atEnd := by
    refine ⟨fun ran => ?_, fun failed => nomatch failed⟩
    cases ran
    rfl
  cut {toks x ms rest} _ ran := by
    have split : splitModifiers (toks ++ x) = (ms, rest) := Except.ok.inj ran
    rcases splitModifiers_append toks x with empty | same
    · refine .inl ⟨fun {ms' left} ran => ?_, fun failed => nomatch failed⟩
      have split' : splitModifiers toks = (ms', left) := Except.ok.inj ran
      rwa [split'] at empty
    · rw [split] at same
      cases same
      exact .inr ⟨_, rfl, rfl⟩

/-- A word is a modifier or left to the parser behind. -/
theorem opening_modifiers {f : Modifiers → Parser α} (later : ∀ ms, Opening (f ms)) :
    Opening (modifiers >>= f) where
  cuttable := cuttable_modifiers.bind fun ms => (later ms).cuttable
  alone word place := by
    let toks : List Located := [⟨.identifier word, place⟩]
    show Closes (IsLast toks) (f (splitModifiers toks).1 (splitModifiers toks).2)
    by_cases known : isModifier word = true
    · simp only [toks, splitModifiers, known, if_true]
      exact (later _).cuttable.atEnd.mono fun _ _ => trivial
    · simp only [toks, splitModifiers, known, Bool.false_eq_true, if_false]
      exact (later _).alone word place

end Grammar

end IdlBindings
