/-
# IdlBindings.Proofs.Tracking: two runs of a parser on tokens that begin alike.

A parser looks at the tokens in front of it and at few others.  So a run says what another run does, at other
places, at another depth, and on tokens that go on in another way at some point: it does the same, as long as
it stays clear of that point.

`Tracks d d' c k s p p'` says this of a parser `p` at depth `d` and the same parser `p'` at depth `d'`.  Both
need a depth of twice the number of tokens and `c` more.  A success takes at least `k` tokens, and it does
not depend on what stands more than `s` tokens behind them, or more than two.  A failure does not depend on
what stands behind the token that it blames and the next one.  Each way of putting parsers together has one
rule here.
-/
import IdlBindings.Proofs.ParserSteps

namespace IdlBindings.Grammar

open Token (Located plain)

variable {α β : Type} {x x' toks toks' rest : List Located}

/-! ## Tokens that are alike -/

/-- Token lists that agree up to their places, until one goes on with `x` and the other with `x'`. -/
inductive Alike (x x' : List Located) : List Located → List Located → Prop
  | tail : Alike x x' x x'
  | cons (token : Token) (place place' : Position) {toks toks' : List Located} (later : Alike x x' toks toks') :
      Alike x x' (⟨token, place⟩ :: toks) (⟨token, place'⟩ :: toks')

theorem Alike.length (alike : Alike x x' toks toks') : toks.length + x'.length = toks'.length + x.length := by
  induction alike with
  | tail => omega
  | cons _ _ _ _ ih =>
    simp only [List.length_cons]
    omega

theorem alike_parting (front x x' : List Located) : Alike x x' (front ++ x) (front ++ x') := by
  induction front with
  | nil => exact .tail
  | cons t front ih => exact .cons t.token t.position t.position ih

/-- Of `m` tokens at the end of a list at least `s` stand before the point where the lists part, if they part
at all. -/
def Reaches (x x' : List Located) (s m : Nat) : Prop :=
  (x = [] ∧ x' = []) ∨ x.length + s ≤ m

theorem Reaches.mono {s m s' m' : Nat} (reaches : Reaches x x' s m) (h : s' + m ≤ s + m') :
    Reaches x x' s' m' := by
  rcases reaches with same | far
  · exact .inl same
  · exact .inr (by omega)

/-- Lists that part behind the first token begin with the same token. -/
theorem Alike.front (alike : Alike x x' toks toks') (reaches : Reaches x x' 1 toks.length) :
    (toks = [] ∧ toks' = []) ∨ ∃ token place place' later later',
      toks = ⟨token, place⟩ :: later ∧ toks' = ⟨token, place'⟩ :: later' ∧ Alike x x' later later' := by
  cases alike with
  | tail =>
    rcases reaches with same | far
    · exact .inl same
    · omega
  | cons token place place' later => exact .inr ⟨token, place, place', _, _, rfl, rfl, later⟩

/-! ## Results -/

/-- A result within its bounds: a success takes at least `k` tokens, and a failure blames one of the tokens and
not the depth.  Only where there are no tokens the blame falls on the one before. -/
structure Bounded (k : Nat) (toks : List Located) (r : Except Failure (α × List Located)) : Prop where
  ok : ∀ {a rest}, r = .ok (a, rest) → rest.length + k ≤ toks.length
  error : ∀ {e}, r = .error e → e.expectation ≠ .shallower ∧ e.remaining ≤ max toks.length 1

/-- A result tells another one, where it stays clear of the point where the lists part. -/
structure Agrees (x x' : List Located) (s : Nat) (r r' : Except Failure (α × List Located)) : Prop where
  ok : ∀ {a rest}, r = .ok (a, rest) → Reaches x x' s rest.length →
    ∃ rest', Alike x x' rest rest' ∧ r' = .ok (a, rest')
  error : ∀ {e}, r = .error e → Reaches x x' 2 e.remaining →
    ∃ m, m + x.length = e.remaining + x'.length ∧ r' = .error ⟨e.expectation, m⟩

section

variable {k k' s s' : Nat} {r r' : Except Failure (α × List Located)}

theorem Bounded.mono (bounds : Bounded k toks r) (fits : toks.length + k' ≤ toks'.length + k)
    (longer : toks.length ≤ toks'.length) : Bounded k' toks' r where
  ok ran := by
    have := bounds.ok ran
    omega
  error failed := by
    obtain ⟨met, blamed⟩ := bounds.error failed
    exact ⟨met, by omega⟩

theorem Agrees.mono (agrees : Agrees x x' s r r') (fits : s ≤ s') : Agrees x x' s' r r' where
  ok ran reaches := agrees.ok ran (reaches.mono (by omega))
  error := agrees.error

end

/-- The runs of `p` are within bounds, and tell the runs of `p'`. -/
structure Tracks (d d' c k s : Nat) (p p' : Parser α) : Prop where
  bounded : ∀ {toks}, 2 * toks.length + c ≤ d → Bounded k toks (p toks)
  agrees : ∀ {x x' toks toks'}, Alike x x' toks toks' →
    2 * toks.length + c ≤ d → 2 * toks'.length + c ≤ d' → Agrees x x' (min s 2) (p toks) (p' toks')

variable {d d' c k s : Nat} {p p' : Parser α}

/-- It is enough to look at lists that share `j` tokens. -/
theorem Tracks.of_shared (j : Nat) (few : j ≤ 2) (ahead : j ≤ k + s)
    (bounded : ∀ {toks}, 2 * toks.length + c ≤ d → Bounded k toks (p toks))
    (shared : ∀ {x x' toks toks'}, Alike x x' toks toks' → Reaches x x' j toks.length →
      2 * toks.length + c ≤ d → 2 * toks'.length + c ≤ d' → Agrees x x' (min s 2) (p toks) (p' toks')) :
    Tracks d d' c k s p p' := by
  refine ⟨bounded, fun alike deep deep' => ⟨?_, ?_⟩⟩
  · intro a rest ran reaches
    have taken := (bounded deep).ok ran
    exact (shared alike (reaches.mono (by omega)) deep deep').ok ran reaches
  · intro e failed reaches
    have blamed := ((bounded deep).error failed).2
    refine (shared alike ?_ deep deep').error failed reaches
    rcases reaches with same | far
    · exact .inl same
    · exact .inr (by omega)

theorem Tracks.mono {c' k' s' : Nat} (tracks : Tracks d d' c k s p p') (fits : c ≤ c' ∧ k' ≤ k ∧ s ≤ s') :
    Tracks d d' c' k' s' p p' where
  bounded {toks} deep := (tracks.bounded (by omega)).mono (by omega) (Nat.le_refl _)
  agrees alike deep deep' := (tracks.agrees alike (by omega) (by omega)).mono (by omega)

/-! ## Depth -/

/-- Nothing is said of a depth that is too small. -/
theorem Tracks.of_shallow (shallow : d < c) : Tracks d d' c k s p p' where
  bounded deep := by omega
  agrees _ deep := by omega

/-- A parser that calls others at a smaller depth. -/
theorem Tracks.deeper {parser : Nat → Parser α}
    (step : ∀ d', Tracks d d' c k s (parser (d + 1)) (parser (d' + 1))) :
    Tracks (d + 1) d' (c + 1) k s (parser (d + 1)) (parser d') where
  bounded deep := (step 0).bounded (by omega)
  agrees alike deep deep' := by
    cases d' with
    | zero => omega
    | succ d' => exact (step d').agrees alike (by omega) (by omega)

/-! ## Sequences -/

theorem Tracks.pure (a : α) : Tracks d d' 0 0 0 (Pure.pure a) (Pure.pure a) where
  bounded _ := by
    refine ⟨fun ran => ?_, fun failed => nomatch failed⟩
    obtain ⟨rfl, rfl⟩ := pure_eq_ok.1 ran
    omega
  agrees alike _ _ := by
    refine ⟨fun ran _ => ?_, fun failed => nomatch failed⟩
    obtain ⟨rfl, rfl⟩ := pure_eq_ok.1 ran
    exact ⟨_, alike, rfl⟩

theorem tracks_fail (expectation : Expectation) (met : expectation ≠ .shallower) :
    Tracks d d' 0 k s (fail expectation : Parser α) (fail expectation) where
  bounded _ := by
    refine ⟨fun ran => (fail_ne_ok ran).elim, fun failed => ?_⟩
    cases failed
    exact ⟨met, Nat.le_max_left ..⟩
  agrees {_ _ _ toks'} alike _ _ := by
    refine ⟨fun ran => (fail_ne_ok ran).elim, fun failed _ => ?_⟩
    cases failed
    exact ⟨toks'.length, alike.length.symm, rfl⟩

section

variable {c₁ k₁ s₁ c₂ k₂ s₂ : Nat} {f f' : α → Parser β}

theorem bind_eq_error {e : Failure} : (p >>= f) toks = .error e ↔
    p toks = .error e ∨ ∃ a mid, p toks = .ok (a, mid) ∧ f a mid = .error e := by
  cases read : p toks with
  | error failure => simp [bind, read]
  | ok result =>
    obtain ⟨a, mid⟩ := result
    simp [bind, read]

/-- What the second parser takes stands before the point where the lists part, so the first one may look at
it. -/
theorem Tracks.bind (first : Tracks d d' c₁ k₁ s₁ p p') (later : ∀ a, Tracks d d' c₂ k₂ s₂ (f a) (f' a)) :
    Tracks d d' (max c₁ (c₂ - 2 * k₁)) (k₁ + k₂) (max s₂ (s₁ - k₂)) (p >>= f) (p' >>= f') := by
  have second : ∀ {toks a mid}, 2 * toks.length + max c₁ (c₂ - 2 * k₁) ≤ d → p toks = .ok (a, mid) →
      mid.length + k₁ ≤ toks.length ∧ Bounded k₂ mid (f a mid) := by
    intro toks a mid deep ran
    have taken := (first.bounded (by omega)).ok ran
    exact ⟨taken, (later a).bounded (by omega)⟩
  constructor
  · intro toks deep
    constructor
    · intro b rest ran
      obtain ⟨a, mid, ran₁, ran₂⟩ := bind_eq_ok.1 ran
      obtain ⟨taken, bounds⟩ := second deep ran₁
      have := bounds.ok ran₂
      omega
    · intro e failed
      rcases bind_eq_error.1 failed with failed | ⟨a, mid, ran, failed⟩
      · exact (first.bounded (by omega)).error failed
      · obtain ⟨taken, bounds⟩ := second deep ran
        obtain ⟨met, blamed⟩ := bounds.error failed
        exact ⟨met, by omega⟩
  · intro x x' toks toks' alike deep deep'
    have agrees := first.agrees alike (by omega) (by omega)
    -- the second parser starts on tokens that are alike if the first one stayed clear
    have onward : ∀ {a mid}, p toks = .ok (a, mid) → Reaches x x' (min s₁ 2) mid.length →
        ∃ mid', p' toks' = .ok (a, mid') ∧ Agrees x x' (min s₂ 2) (f a mid) (f' a mid') := by
      intro a mid ran reaches
      obtain ⟨taken, -⟩ := second deep ran
      obtain ⟨mid', alike', ran'⟩ := agrees.ok ran reaches
      have := alike.length
      have := alike'.length
      exact ⟨mid', ran', (later a).agrees alike' (by omega) (by omega)⟩
    constructor
    · intro b rest ran reaches
      obtain ⟨a, mid, ran₁, ran₂⟩ := bind_eq_ok.1 ran
      have taken := (second deep ran₁).2.ok ran₂
      obtain ⟨mid', ran', agrees'⟩ := onward ran₁ (reaches.mono (by omega))
      obtain ⟨rest', alike', ran''⟩ := agrees'.ok ran₂ (reaches.mono (by omega))
      exact ⟨rest', alike', bind_eq_ok.2 ⟨a, mid', ran', ran''⟩⟩
    · intro e failed reaches
      rcases bind_eq_error.1 failed with failed | ⟨a, mid, ran, failed⟩
      · obtain ⟨m, same, failed'⟩ := agrees.error failed reaches
        exact ⟨m, same, bind_eq_error.2 (.inl failed')⟩
      · have blamed := ((second deep ran).2.error failed).2
        have clear : Reaches x x' (min s₁ 2) mid.length := by
          rcases reaches with same | far
          · exact .inl same
          · exact .inr (by omega)
        obtain ⟨mid', ran', agrees'⟩ := onward ran clear
        obtain ⟨m, same, failed'⟩ := agrees'.error failed reaches
        exact ⟨m, same, bind_eq_error.2 (.inr ⟨a, mid', ran', failed'⟩)⟩

theorem Tracks.map (g : α → β) (tracks : Tracks d d' c k s p p') :
    Tracks d d' c k s (g <$> p) (g <$> p') := by
  rw [map_eq_pure_bind, map_eq_pure_bind]
  exact (tracks.bind fun a => .pure (g a)).mono (by omega)

end

/-! ## Single tokens -/

/-- Takes the next token and goes on with what is found for it, or leaves it where nothing is found. -/
def onToken (found : Token → Option (Parser α)) (missing : Option Token → Parser α) : Parser α
  | [] => missing none []
  | t :: rest =>
    match found t.token with
    | some p => p rest
    | none => missing (some t.token) (t :: rest)

section

variable {cA kA sA cB kB sB : Nat}

theorem tracks_onToken {found found' : Token → Option (Parser α)} {missing missing' : Option Token → Parser α}
    (taken : ∀ token, Option.Rel (Tracks d d' cA kA sA) (found token) (found' token))
    (left : ∀ token, Tracks d d' cB kB sB (missing token) (missing' token)) :
    Tracks d d' (max (cA - 2) cB) (min (kA + 1) kB) (max (max sA sB) (1 - kB))
      (onToken found missing) (onToken found' missing') := by
  refine .of_shared 1 (by decide) (by omega) ?_ ?_
  · intro toks deep
    cases toks with
    | nil => exact ((left none).bounded (by omega)).mono (by omega) (Nat.le_refl _)
    | cons t rest =>
      rw [List.length_cons] at deep
      rw [onToken]
      have either := taken t.token
      generalize found t.token = here, found' t.token = there at either
      cases either with
      | some tracks =>
        exact (tracks.bounded (by omega)).mono (by rw [List.length_cons]; omega) (by rw [List.length_cons]; omega)
      | none =>
        exact ((left (some t.token)).bounded (by rw [List.length_cons]; omega)).mono (by omega) (Nat.le_refl _)
  · intro x x' toks toks' alike reaches deep deep'
    rcases alike.front reaches with ⟨rfl, rfl⟩ | ⟨token, place, place', later, later', rfl, rfl, alike'⟩
    · exact ((left none).agrees alike (by omega) (by omega)).mono (by omega)
    · rw [onToken, onToken]
      have either := taken token
      simp only
      generalize found token = here, found' token = there at either
      cases either with
      | some tracks =>
        rw [List.length_cons] at deep deep'
        exact (tracks.agrees alike' (by omega) (by omega)).mono (by omega)
      | none => exact ((left (some token)).agrees alike (by omega) (by omega)).mono (by omega)

theorem eat_branch (token : Token) (p q : Parser α) :
    (do if ← eat token then p else q) = onToken (fun t => if t = token then some p else none) fun _ => q := by
  funext toks
  cases toks with
  | nil => rfl
  | cons t rest => by_cases same : t.token = token <;> simp [bind, eat, onToken, same]

/-- A branch on whether a token comes next. -/
theorem Tracks.whether {token : Token} {q q' : Parser α} (found : Tracks d d' cA kA sA p p')
    (missing : Tracks d d' cB kB sB q q') :
    Tracks d d' (max (cA - 2) cB) (min (kA + 1) kB) (max (max sA sB) (1 - kB))
      (do if ← eat token then p else q) (do if ← eat token then p' else q') := by
  rw [eat_branch, eat_branch]
  refine tracks_onToken (fun t => ?_) fun _ => missing
  split
  · exact .some found
  · exact .none

theorem eat_eq (token : Token) : eat token = (do if ← eat token then pure true else pure false) := by
  have same : (fun taken : Bool => if taken then (pure true : Parser Bool) else pure false) = pure := by
    funext taken
    cases taken <;> rfl
  rw [same, bind_pure]

theorem tracks_eat (token : Token) : Tracks d d' 0 0 1 (eat token) (eat token) := by
  rw [eat_eq]
  exact .whether (.pure true) (.pure false)

theorem tracks_expect (mark : Char) : Tracks d d' 0 1 0 (expect mark) (expect mark) :=
  .whether (.pure ()) (tracks_fail (k := 1) (s := 0) (.punct mark) nofun)

/-- What an identifier gives, if that comes next. -/
def named? (f : String → α) : Token → Option (Parser α)
  | .identifier name => some (pure (f name))
  | _ => none

theorem tracks_named? (f : String → α) (token : Token) :
    Option.Rel (Tracks d d' 0 0 0) (named? f token) (named? f token) := by
  cases token with
  | identifier name => exact .some (.pure (f name))
  | string | number | punct | ellipsis => exact .none

theorem identifier_eq : identifier = onToken (named? id) fun _ => fail .identifier := by
  funext toks
  match toks with
  | [] => rfl
  | ⟨token, place⟩ :: rest => cases token <;> rfl

theorem tracks_identifier : Tracks d d' 0 1 0 identifier identifier := by
  rw [identifier_eq]
  exact tracks_onToken (tracks_named? id) fun _ => tracks_fail (k := 1) (s := 0) .identifier nofun

theorem optionalName_eq : optionalName = onToken (named? id) fun _ => pure "" := by
  funext toks
  match toks with
  | [] => rfl
  | ⟨token, place⟩ :: rest => cases token <;> rfl

theorem tracks_optionalName : Tracks d d' 0 0 1 optionalName optionalName := by
  rw [optionalName_eq]
  exact tracks_onToken (tracks_named? id) fun _ => .pure ""

/-- Fails at the next token, or at the one before if there is none. -/
def blame (expectation : Expectation) : Parser α :=
  fun tokens => .error ⟨expectation, max tokens.length 1⟩

theorem tracks_blame (expectation : Expectation) (met : expectation ≠ .shallower) :
    Tracks d d' 0 k s (blame expectation : Parser α) (blame expectation) where
  bounded _ := by
    refine ⟨fun ran => (nomatch ran), fun failed => ?_⟩
    cases failed
    exact ⟨met, Nat.le_refl _⟩
  agrees {_ _ _ toks'} alike _ _ := by
    refine ⟨fun ran => (nomatch ran), fun failed reaches => ?_⟩
    cases failed
    refine ⟨max toks'.length 1, ?_, rfl⟩
    have length := alike.length
    rcases reaches with ⟨rfl, rfl⟩ | far
    · simp only [List.length_nil, Nat.add_zero] at length ⊢
      rw [length]
    · simp only at far ⊢
      omega

theorem skip_one : skip 1 = onToken (fun _ => some (pure ())) fun _ => pure () := by
  funext toks
  cases toks <;> rfl

theorem tracks_skip : Tracks d d' 0 0 1 (skip 1) (skip 1) := by
  rw [skip_one]
  exact tracks_onToken (fun _ => .some (.pure ())) fun _ => .pure ()

theorem Alike.peek {j : Nat} (alike : Alike x x' toks toks') (reaches : Reaches x x' (j + 1) toks.length) :
    toks[j]?.map (·.token) = toks'[j]?.map (·.token) := by
  induction j generalizing toks toks' with
  | zero =>
    rcases alike.front reaches with ⟨rfl, rfl⟩ | ⟨token, place, place', later, later', rfl, rfl, -⟩
    · rfl
    · rfl
  | succ j ih =>
    rcases alike.front (reaches.mono (by omega)) with
      ⟨rfl, rfl⟩ | ⟨token, place, place', later, later', rfl, rfl, alike'⟩
    · rfl
    · rw [List.length_cons] at reaches
      rw [List.getElem?_cons_succ, List.getElem?_cons_succ]
      exact ih alike' (reaches.mono (by omega))

theorem tracks_peek (j : Nat) (near : j ≤ 1) : Tracks d d' 0 0 (j + 1) (peek j) (peek j) where
  bounded _ := by
    refine ⟨fun ran => ?_, fun failed => nomatch failed⟩
    cases ran
    omega
  agrees alike _ _ := by
    refine ⟨fun ran reaches => ?_, fun failed => nomatch failed⟩
    cases ran
    refine ⟨_, alike, ?_⟩
    rw [peek, alike.peek (reaches.mono (by omega))]

/-! ## Two tokens -/

theorem Alike.drop {j : Nat} (alike : Alike x x' toks toks') (reaches : Reaches x x' j toks.length) :
    Alike x x' (toks.drop j) (toks'.drop j) := by
  induction j generalizing toks toks' with
  | zero => exact alike
  | succ j ih =>
    rcases alike.front (reaches.mono (by omega)) with
      ⟨rfl, rfl⟩ | ⟨token, place, place', later, later', rfl, rfl, alike'⟩
    · exact alike
    · rw [List.length_cons] at reaches
      exact ih alike' (reaches.mono (by omega))

theorem announces_branch (word : String) (mark : Char) (j : Nat) (p q : Parser α) (toks : List Located) :
    (do if ← announces word mark then (do skip j; p) else q : Parser α) toks
      = if toks[0]?.map (·.token) == some (.identifier word) && toks[1]?.map (·.token) == some (.punct mark)
        then p (toks.drop j) else q toks := by
  show (if _ then (do skip j; p : Parser α) else q) toks = _
  split <;> rfl

theorem length_of_announced {token other : Token}
    (here : (toks[0]?.map (·.token) == some token && toks[1]?.map (·.token) == some other) = true) :
    2 ≤ toks.length := by
  match toks with
  | [] | [_] => simp at here
  | _ :: _ :: _ =>
    simp only [List.length_cons]
    omega

/-- A branch on whether a word and a mark come next, which leaves out one or both of them. -/
theorem Tracks.announced {word : String} {mark : Char} {q q' : Parser α} (j : Nat) (few : j ≤ 2)
    (found : Tracks d d' cA kA sA p p') (missing : Tracks d d' cB kB sB q q') :
    Tracks d d' (max (cA - 2 * j) cB) (min (kA + j) kB) (max (max sA sB) (max (2 - (kA + j)) (2 - kB)))
      (do if ← announces word mark then (do skip j; p) else q)
      (do if ← announces word mark then (do skip j; p') else q') := by
  refine .of_shared 2 (Nat.le_refl _) (by omega) ?_ ?_
  · intro toks deep
    rw [announces_branch]
    split
    · next here =>
      have two := length_of_announced here
      have length := List.length_drop (i := j) (l := toks)
      exact (found.bounded (by omega)).mono (by omega) (by omega)
    · exact (missing.bounded (by omega)).mono (by omega) (Nat.le_refl _)
  · intro x x' toks toks' alike reaches deep deep'
    rw [announces_branch, announces_branch, ← alike.peek (reaches.mono (by omega)), ← alike.peek reaches]
    split
    · next here =>
      have two := length_of_announced here
      rw [alike.peek (reaches.mono (by omega)), alike.peek reaches] at here
      have two' := length_of_announced here
      have length := List.length_drop (i := j) (l := toks)
      have length' := List.length_drop (i := j) (l := toks')
      exact (found.agrees (alike.drop (reaches.mono (by omega))) (by omega) (by omega)).mono (by omega)
    · exact (missing.agrees alike (by omega) (by omega)).mono (by omega)

end

/-! ## Options, modifiers and repetitions -/

theorem Tracks.ite {cA kA sA cB kB sB : Nat} {condition : Prop} [Decidable condition] {q q' : Parser α}
    (yes : Tracks d d' cA kA sA p p') (no : Tracks d d' cB kB sB q q') :
    Tracks d d' (max cA cB) (min kA kB) (max sA sB)
      (if condition then p else q) (if condition then p' else q') := by
  split
  · exact yes.mono (by omega)
  · exact no.mono (by omega)

theorem Tracks.optionally {token : Token} (tracks : Tracks d d' c k s p p') :
    Tracks d d' (c - 2) 0 (max s 1) (optionally token p) (Grammar.optionally token p') :=
  (Tracks.whether (tracks.map some) (.pure none)).mono (by omega)

theorem splitModifiers_suffix (toks : List Located) : (splitModifiers toks).2 <:+ toks := by
  induction toks with
  | nil => exact List.suffix_refl _
  | cons t toks ih =>
    obtain ⟨token, place⟩ := t
    cases token with
    | identifier word =>
      by_cases known : isModifier word = true
      · simp only [splitModifiers, known, if_true]
        exact ih.trans (List.suffix_cons _ _)
      · simp only [splitModifiers, known, Bool.false_eq_true, if_false]
        exact List.suffix_refl _
    | string | number | punct | ellipsis => exact List.suffix_refl _

theorem splitModifiers_length_le (toks : List Located) : (splitModifiers toks).2.length ≤ toks.length :=
  (splitModifiers_suffix toks).length_le

theorem alike_splitModifiers (alike : Alike x x' toks toks') :
    Reaches x x' 1 (splitModifiers toks).2.length →
      ∃ rest', Alike x x' (splitModifiers toks).2 rest'
        ∧ splitModifiers toks' = ((splitModifiers toks).1, rest') := by
  induction alike with
  | tail =>
    intro reaches
    have := splitModifiers_length_le x
    rcases reaches with ⟨rfl, rfl⟩ | far
    · exact ⟨[], .tail, rfl⟩
    · omega
  | @cons token place place' toks toks' later ih =>
    cases token with
    | identifier word =>
      by_cases known : isModifier word = true
      · intro reaches
        simp only [splitModifiers, known, if_true] at reaches ⊢
        obtain ⟨rest', alike', same⟩ := ih reaches
        exact ⟨rest', alike', by rw [same]⟩
      · intro _
        simp only [splitModifiers, known, Bool.false_eq_true, if_false]
        exact ⟨_, .cons _ place place' later, rfl⟩
    | string | number | punct | ellipsis => exact fun _ => ⟨_, .cons _ place place' later, rfl⟩

theorem tracks_modifiers : Tracks d d' 0 0 1 modifiers modifiers where
  bounded {toks} _ := by
    refine ⟨fun {ms rest} ran => ?_, fun failed => nomatch failed⟩
    have split : splitModifiers toks = (ms, rest) := Except.ok.inj ran
    have := splitModifiers_length_le toks
    rwa [split] at this
  agrees {x x' toks toks'} alike _ _ := by
    refine ⟨fun {ms rest} ran reaches => ?_, fun failed => nomatch failed⟩
    have split : splitModifiers toks = (ms, rest) := Except.ok.inj ran
    have onward := alike_splitModifiers alike
    rw [split] at onward
    obtain ⟨rest', alike', same⟩ := onward reaches
    exact ⟨rest', alike', congrArg Except.ok same⟩

/-- Items behind separators: one more, and then the others. -/
theorem tracks_tail {separator : Token} {q q' : Parser (List α)} (first : Tracks d d' 2 1 1 p p')
    (others : Tracks d d' 1 0 1 q q') :
    Tracks d d' 0 0 1
      (do if ← eat separator then (do let a ← p; let as ← q; pure (a :: as)) else pure [])
      (do if ← eat separator then (do let a ← p'; let as ← q'; pure (a :: as)) else pure []) :=
  (Tracks.whether (first.bind fun _ => others.bind fun _ => .pure _) (.pure [])).mono (by decide)

end IdlBindings.Grammar
