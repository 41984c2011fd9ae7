/-
# IdlBindings.Proofs.Progress: every run over tokens moves forward, stays among them and ends.

A cursor runs without any bound.  Its runs are compared with those of the parsers, which stop at some depth: a run
*follows* a parser if from each position it ends as the parser does on the tokens from there on.  The comparison says
how many tokens are taken at least, and that the position is never past the last token.  There is one rule for each way
of putting parsers together.  A parser that calls others has a depth to spare once they have taken a token, so the
induction is on the depth, and the run itself is opened once for each step.
-/
import IdlBindings.Proofs.Cursor
import IdlBindings.Proofs.TrackedGrammar

namespace IdlBindings

open Token (Located)

/-! ## Runs -/

namespace Cursor

variable {α β : Type} {cursor : Cursor} {start stop : Nat} {r : Run α} {g : α → Run β}

theorem bind_value {a : α} (ran : r start = some (.ok a, stop)) : (r >>= g) start = g a stop := by
  show ((r start).bind fun result => _) = _
  rw [ran]
  rfl

theorem bind_fault {e : Fault} (ran : r start = some (.error e, stop)) : (r >>= g) start = some (.error e, stop) := by
  show ((r start).bind fun result => _) = _
  rw [ran]
  rfl

theorem peek_bind (k : Nat) (g : Option Token → Run α) :
    (cursor.peek k >>= g) start = g (cursor.tokens[start + k]?.map (·.token)) start :=
  rfl

theorem peek_front (g : Option Token → Run α) :
    (cursor.peek 0 >>= g) start = g (cursor.tokens[start]?.map (·.token)) start :=
  rfl

theorem advance_bind (k : Nat) (g : Unit → Run α) : (advance k >>= g) start = g () (start + k) :=
  rfl

theorem lt_length_of_found {j : Nat} {token : Token} (here : cursor.tokens[j]?.map (·.token) = some token) :
    j < cursor.tokens.length := by
  obtain ⟨located, found, -⟩ := Option.map_eq_some_iff.1 here
  exact (List.getElem?_eq_some_iff.1 found).1

theorem identifier_run {name : String} (here : cursor.tokens[start]?.map (·.token) = some (.identifier name)) :
    cursor.identifier start = some (.ok name, start + 1) := by
  rw [identifier, peek_front, here]
  rfl

end Cursor

namespace Grammar

open Cursor (Run Fault)

variable {α β : Type}

/-- How a run from `start` ends, beside the result of a parser on the tokens from there on.  Both have the same value
and have taken at least `least` tokens, or both blame the same token, and it is not the depth that is blamed.  Either
way the run is not behind its start and not past the tokens. -/
inductive Ends (tokens : List Located) (start least : Nat) :
    Except Failure (α × List Located) → Option (Except Fault α × Nat) → Prop
  | value (a : α) (stop : Nat) (forward : start + least ≤ stop) (inside : stop ≤ tokens.length) :
      Ends tokens start least (.ok (a, tokens.drop stop)) (some (.ok a, stop))
  | fault (e : Failure) (stop : Nat) (met : e.expectation ≠ .shallower) (forward : start ≤ stop)
      (inside : stop ≤ tokens.length) :
      Ends tokens start least (.error e) (some (.error ⟨e.expectation, tokens.length - e.remaining⟩, stop))

theorem Ends.mono {tokens : List Located} {start start' k k' : Nat} {x : Except Failure (α × List Located)}
    {y : Option (Except Fault α × Nat)} (ends : Ends tokens start k x y) (fits : start' + k' ≤ start + k)
    (earlier : start' ≤ start) : Ends tokens start' k' x y := by
  cases ends with
  | value a stop forward inside => exact .value a stop (by omega) inside
  | fault e stop met forward inside => exact .fault e stop met (by omega) inside

theorem Ends.of_ok {tokens : List Located} {start k : Nat} {a : α} {rest : List Located}
    {y : Option (Except Fault α × Nat)} (ends : Ends tokens start k (.ok (a, rest)) y) :
    ∃ stop, start + k ≤ stop ∧ stop ≤ tokens.length ∧ rest = tokens.drop stop ∧ y = some (.ok a, stop) := by
  cases ends with
  | value _ stop forward inside => exact ⟨stop, forward, inside, rfl, rfl⟩

theorem Ends.of_error {tokens : List Located} {start k : Nat} {e : Failure} {y : Option (Except Fault α × Nat)}
    (ends : Ends tokens start k (.error e) y) :
    ∃ stop, start ≤ stop ∧ stop ≤ tokens.length
      ∧ y = some (.error ⟨e.expectation, tokens.length - e.remaining⟩, stop) := by
  cases ends with
  | fault _ stop _ forward inside => exact ⟨stop, forward, inside, rfl⟩

/-- From each position with enough depth, the run ends as the parser does. -/
def Follows (cursor : Cursor) (d c k : Nat) (p : Parser α) (r : Run α) : Prop :=
  ∀ start ≤ cursor.tokens.length, 2 * (cursor.tokens.length - start) + c ≤ d →
    Ends cursor.tokens start k (p (cursor.tokens.drop start)) (r start)

variable {cursor : Cursor} {d c k c₁ k₁ c₂ k₂ : Nat} {p : Parser α} {r : Run α}

theorem Follows.mono {c' k' : Nat} (follows : Follows cursor d c k p r) (fits : c ≤ c' ∧ k' ≤ k) :
    Follows cursor d c' k' p r :=
  fun start inside deep => (follows start inside (by omega)).mono (by omega) (Nat.le_refl start)

/-- Nothing is said of a depth that is too small. -/
theorem Follows.of_shallow (shallow : d < c) : Follows cursor d c k p r :=
  fun start inside deep => by omega

/-- A parser that calls others at a smaller depth. -/
theorem Follows.deeper (follows : Follows cursor d c k p r) : Follows cursor (d + 1) (c + 1) k p r :=
  fun start inside deep => follows start inside (by omega)

/-! ## Rules -/

theorem Follows.pure (a : α) : Follows cursor d 0 0 (Pure.pure a) (Pure.pure a) :=
  fun start inside _ => .value a start (Nat.le_refl start) inside

theorem follows_fail (e : Expectation) (met : e ≠ .shallower) :
    Follows (α := α) cursor d 0 k (fail e) (Cursor.fail e) := by
  intro start inside _
  have same : cursor.tokens.length - (cursor.tokens.drop start).length = start := by
    rw [List.length_drop]
    omega
  have ends : Ends (α := α) cursor.tokens start k (.error ⟨e, (cursor.tokens.drop start).length⟩) _ :=
    .fault _ start met (Nat.le_refl start) inside
  rw [same] at ends
  exact ends

theorem follows_failBefore (e : Expectation) (met : e ≠ .shallower) :
    Follows (α := α) cursor d 0 k (failBefore e) (Cursor.failBefore e) := by
  intro start inside _
  have same : cursor.tokens.length - ((cursor.tokens.drop start).length + 1) = start - 1 := by
    rw [List.length_drop]
    omega
  have ends : Ends (α := α) cursor.tokens start k (.error ⟨e, (cursor.tokens.drop start).length + 1⟩) _ :=
    .fault _ start met (Nat.le_refl start) inside
  rw [same] at ends
  exact ends

theorem Follows.bind {f : α → Parser β} {g : α → Run β} (first : Follows cursor d c₁ k₁ p r)
    (later : ∀ a, Follows cursor d c₂ k₂ (f a) (g a)) :
    Follows cursor d (max c₁ (c₂ - 2 * k₁)) (k₁ + k₂) (p >>= f) (r >>= g) := by
  intro start inside deep
  have ends := first start inside (by omega)
  generalize parsed : p (cursor.tokens.drop start) = result at ends
  generalize ran : r start = result' at ends
  cases ends with
  | value a stop forward inside' =>
    have goes : (p >>= f) (cursor.tokens.drop start) = f a (cursor.tokens.drop stop) := by
      simp only [Bind.bind, parsed]
    rw [goes, Cursor.bind_value ran]
    -- The first part took `k₁` tokens at least, and each of them leaves two more levels for the second part.
    exact (later a stop inside' (by omega)).mono (by omega) (by omega)
  | fault e stop met forward inside' =>
    rw [bind_eq_error.2 (.inl parsed), Cursor.bind_fault ran]
    exact .fault e stop met forward inside'

theorem Follows.map (f : α → β) (follows : Follows cursor d c k p r) : Follows cursor d c k (f <$> p) (f <$> r) := by
  rw [map_eq_pure_bind, map_eq_pure_bind]
  exact (follows.bind fun a => .pure (f a)).mono (by omega)

theorem Follows.ite {condition : Prop} [Decidable condition] {q : Parser α} {s : Run α}
    (yes : Follows cursor d c₁ k₁ p r) (no : Follows cursor d c₂ k₂ q s) :
    Follows cursor d (max c₁ c₂) (min k₁ k₂) (if condition then p else q) (if condition then r else s) := by
  split
  · exact yes.mono (by omega)
  · exact no.mono (by omega)

/-- What stands at a position: nothing, at the end, or a token in front of the others. -/
theorem drop_cases {start : Nat} (inside : start ≤ cursor.tokens.length) :
    (cursor.tokens.drop start = [] ∧ cursor.tokens[start]? = none)
      ∨ ∃ t, start < cursor.tokens.length ∧ cursor.tokens.drop start = t :: cursor.tokens.drop (start + 1)
        ∧ cursor.tokens[start]? = some t := by
  rcases Nat.lt_or_eq_of_le inside with less | same
  · exact .inr ⟨cursor.tokens[start], less, List.drop_eq_getElem_cons less, List.getElem?_eq_getElem less⟩
  · exact .inl ⟨List.drop_eq_nil_of_le (by omega), List.getElem?_eq_none (by omega)⟩

/-- A branch on whether a token comes next, which takes it. -/
theorem Follows.whether {token : Token} {f : Bool → Parser α} {g : Bool → Run α}
    (found : Follows cursor d c₁ k₁ (f true) (g true)) (missing : Follows cursor d c₂ k₂ (f false) (g false)) :
    Follows cursor d (max (c₁ - 2) c₂) (min (k₁ + 1) k₂) (eat token >>= f) (cursor.eat token >>= g) := by
  intro start inside deep
  have run : (cursor.eat token >>= g) start
      = if cursor.tokens[start]?.map (·.token) = some token then g true (start + 1) else g false start := by
    rw [Cursor.eat, bind_assoc, Cursor.peek_front]
    split <;> rfl
  rw [run]
  rcases drop_cases inside with ⟨front, here⟩ | ⟨t, less, front, here⟩
  · have ends := missing start inside (by omega)
    rw [front] at ends
    rw [front, here, if_neg (by simp)]
    exact ends.mono (by omega) (Nat.le_refl start)
  · by_cases same : t.token = token
    · have goes : (eat token >>= f) (cursor.tokens.drop start) = f true (cursor.tokens.drop (start + 1)) := by
        simp only [front, Bind.bind, eat, if_pos same]
      rw [goes, here, Option.map_some, if_pos (congrArg some same)]
      exact (found (start + 1) less (by omega)).mono (by omega) (by omega)
    · have goes : (eat token >>= f) (cursor.tokens.drop start) = f false (cursor.tokens.drop start) := by
        simp only [front, Bind.bind, eat, if_neg same]
      rw [goes, here, Option.map_some, if_neg fun also => same (Option.some.inj also)]
      exact (missing start inside (by omega)).mono (by omega) (Nat.le_refl start)

theorem follows_eat (token : Token) : Follows cursor d 0 0 (eat token) (cursor.eat token) := by
  rw [← bind_pure (eat token), ← bind_pure (cursor.eat token)]
  exact (Follows.whether (.pure true) (.pure false)).mono (by decide)

theorem follows_expect (mark : Char) : Follows cursor d 0 1 (expect mark) (cursor.expect mark) :=
  (Follows.whether (.pure ()) (follows_fail (k := 1) (.punct mark) (by simp))).mono (by decide)

/-- A branch on the next token, which takes it. -/
theorem Follows.next {f : Option Token → Parser α} {g : Option Token → Run α}
    (each : ∀ token, Follows cursor d c₁ k₁ (f (some token)) (g (some token)))
    (atEnd : Follows cursor d c₂ k₂ (f none) (g none)) :
    Follows cursor d (max (c₁ - 2) c₂) (min (k₁ + 1) k₂) (next >>= f) (cursor.next >>= g) := by
  intro start inside deep
  rcases drop_cases inside with ⟨front, here⟩ | ⟨t, less, front, here⟩
  · have run : (cursor.next >>= g) start = g none start := by
      rw [Cursor.next, bind_assoc, Cursor.peek_front, here]
      rfl
    have ends := atEnd start inside (by omega)
    rw [front] at ends
    rw [run, front]
    exact ends.mono (by omega) (Nat.le_refl start)
  · have run : (cursor.next >>= g) start = g (some t.token) (start + 1) := by
      rw [Cursor.next, bind_assoc, Cursor.peek_front, here]
      rfl
    rw [run, front]
    exact (each t.token (start + 1) less (by omega)).mono (by omega) (by omega)

theorem follows_identifier : Follows cursor d 0 1 identifier cursor.identifier := by
  intro start inside deep
  have failed := follows_fail (α := String) (d := d) (k := 1) .identifier (by decide) start inside deep
  rcases drop_cases inside with ⟨front, here⟩ | ⟨⟨token, place⟩, less, front, here⟩
  · rw [front] at failed
    rw [front, Cursor.identifier, Cursor.peek_front, here]
    exact failed
  · cases token with
    | identifier name =>
      rw [Cursor.identifier_run (by rw [here]; rfl), front]
      exact .value name (start + 1) (Nat.le_refl _) less
    | string | number | punct | ellipsis =>
      rw [front] at failed
      rw [front, Cursor.identifier, Cursor.peek_front, here]
      exact failed

/-! ## Looking ahead -/

theorem peek_bind (j : Nat) (f : Option Token → Parser α) (toks : List Located) :
    (peek j >>= f) toks = f (toks[j]?.map (·.token)) toks :=
  rfl

/-- Looking for an identifier does not move. -/
theorem identifierAt_same (j : Nat) (cursor : Cursor) (start : Nat) :
    ∃ b, identifierAt j (cursor.tokens.drop start) = .ok (b, cursor.tokens.drop start)
      ∧ cursor.identifierAt j start = some (.ok b, start)
      ∧ (b = true → ∃ name, cursor.tokens[start + j]?.map (·.token) = some (.identifier name)) := by
  rw [identifierAt, peek_bind, List.getElem?_drop, Cursor.identifierAt, Cursor.peek_bind]
  cases cursor.tokens[start + j]?.map (·.token) with
  | none => exact ⟨false, rfl, rfl, by simp⟩
  | some token =>
    cases token with
    | identifier name => exact ⟨true, rfl, rfl, fun _ => ⟨name, rfl⟩⟩
    | string | number | punct | ellipsis => exact ⟨false, rfl, rfl, by simp⟩

theorem follows_identifierAt (j : Nat) : Follows cursor d 0 0 (identifierAt j) (cursor.identifierAt j) := by
  intro start inside _
  obtain ⟨b, looked, looked', -⟩ := identifierAt_same j cursor start
  rw [looked, looked']
  exact .value b start (Nat.le_refl start) inside

/-- A branch on whether a word and a mark come next, which leaves out one or both of them. -/
theorem Follows.announced {word : String} {mark : Char} {q : Parser α} {s : Run α} (j : Nat) (few : j ≤ 2)
    (found : Follows cursor d c₁ k₁ p r) (missing : Follows cursor d c₂ k₂ q s) :
    Follows cursor d (max (c₁ - 2 * j) c₂) (min (k₁ + j) k₂)
      (do if ← announces word mark then (do skip j; p) else q)
      (do if ← cursor.announces word mark then (do Cursor.advance j; r) else s) := by
  intro start inside deep
  have run : (do if ← cursor.announces word mark then (do Cursor.advance j; r) else s : Run α) start
      = if (cursor.tokens.drop start)[0]?.map (·.token) == some (.identifier word)
          && (cursor.tokens.drop start)[1]?.map (·.token) == some (.punct mark)
        then r (start + j) else s start := by
    rw [List.getElem?_drop, List.getElem?_drop]
    show (if _ then (do Cursor.advance j; r : Run α) else s) start = _
    split <;> rfl
  rw [run, announces_branch]
  split
  · next here =>
    have two := length_of_announced here
    rw [List.length_drop] at two
    rw [List.drop_drop]
    exact (found (start + j) (by omega) (by omega)).mono (by omega) (by omega)
  · exact (missing start inside (by omega)).mono (by omega) (Nat.le_refl start)

theorem follows_skipMixin : Follows cursor d 0 0 skipMixin cursor.skipMixin := by
  intro start inside deep
  obtain ⟨b, looked, looked', -⟩ := identifierAt_same 1 cursor start
  have goes : skipMixin (cursor.tokens.drop start)
      = (if (cursor.tokens.drop start)[0]?.map (·.token) == some (.identifier "mixin") && b then skip 1
          else Pure.pure ()) (cursor.tokens.drop start) := by
    show (identifierAt 1 >>= _) (cursor.tokens.drop start) = _
    simp only [Bind.bind, looked]
  have run : cursor.skipMixin start
      = (if cursor.tokens[start + 0]?.map (·.token) == some (.identifier "mixin") && b then Cursor.advance 1
          else Pure.pure ()) start :=
    Cursor.bind_value looked'
  rw [goes, run, List.getElem?_drop]
  split
  · next here =>
    have less := Cursor.lt_length_of_found (beq_iff_eq.1 (Bool.and_eq_true_iff.1 here).1)
    rw [skip, List.drop_drop]
    exact .value () (start + 1) (by omega) less
  · exact Follows.pure () start inside deep

/-- A name and a word are taken without a check, since they were seen before. -/
theorem ends_implementation {start : Nat} {name : String}
    (first : cursor.tokens[start]?.map (·.token) = some (.identifier name)) (second : start + 1 < cursor.tokens.length) :
    Ends cursor.tokens start 3 (implementation (cursor.tokens.drop start)) (cursor.implementation start) := by
  have tail : Follows (α := Definition) cursor (2 * cursor.tokens.length) 0 2
      (do let implemented ← identifier; expect ';'
          Pure.pure { kind := .interface, name, isPartial := true, implements := some implemented })
      (do let implemented ← cursor.identifier; cursor.expect ';'
          Pure.pure { kind := .interface, name, isPartial := true, implements := some implemented }) :=
    .mono (follows_identifier.bind fun _ => (follows_expect ';').bind fun _ => .pure _) (by decide)
  -- The word is dropped from the tokens, and the position moves over it.
  have ends := tail (start + 2) second (by omega)
  have run : cursor.implementation start = _ := Cursor.bind_value (Cursor.identifier_run first)
  rcases drop_cases (Nat.le_of_lt (Cursor.lt_length_of_found first)) with ⟨-, nothing⟩ | ⟨⟨token, place⟩, -, front, here⟩
  · rw [nothing] at first
    cases first
  · rw [here] at first
    cases first
    have behind : (cursor.tokens.drop (start + 1)).drop 1 = cursor.tokens.drop (start + 2) := List.drop_drop
    rw [← behind] at ends
    rw [front, run]
    exact Ends.mono ends (by omega) (by omega)

theorem follows_implementationStatement :
    Follows cursor d 0 3 implementationStatement cursor.implementationStatement := by
  intro start inside deep
  obtain ⟨b, looked, looked', named⟩ := identifierAt_same 0 cursor start
  have goes : implementationStatement (cursor.tokens.drop start)
      = (if b && ((cursor.tokens.drop start)[1]?.map (·.token) == some (.identifier "implements")
            || (cursor.tokens.drop start)[1]?.map (·.token) == some (.identifier "includes"))
          then implementation else fail .definition) (cursor.tokens.drop start) := by
    show (identifierAt 0 >>= _) (cursor.tokens.drop start) = _
    simp only [Bind.bind, looked]
    rfl
  have run : cursor.implementationStatement start
      = (if b && (cursor.tokens[start + 1]?.map (·.token) == some (.identifier "implements")
            || cursor.tokens[start + 1]?.map (·.token) == some (.identifier "includes"))
          then cursor.implementation else Cursor.fail .definition) start :=
    Cursor.bind_value looked'
  rw [goes, run, List.getElem?_drop]
  split
  · next here =>
    simp only [Bool.and_eq_true, Bool.or_eq_true, beq_iff_eq] at here
    obtain ⟨name, first⟩ := named here.1
    exact ends_implementation first (here.2.elim Cursor.lt_length_of_found Cursor.lt_length_of_found)
  · exact follows_fail .definition (by decide) start inside (by omega)

/-! ## Leaves -/

theorem follows_defaultValue : Follows cursor d 0 1 defaultValue cursor.defaultValue := by
  have failed : Follows (α := DefaultValue) cursor d 0 0 (failBefore .defaultValue)
      (Cursor.failBefore .defaultValue) :=
    follows_failBefore .defaultValue (by decide)
  refine .mono (.next (fun token => (?_ : Follows cursor d 0 0 _ _))
    (follows_failBefore (k := 1) .defaultValue (by decide))) (by decide)
  cases token with
  | string | number => exact .pure _
  | ellipsis => exact failed
  | punct c =>
    dsimp only
    split
    case h_1 other => cases other
    case h_2 other => cases other
    case h_3 other => cases other
    case h_4 same =>
      cases same
      exact .mono ((follows_expect ']').bind fun _ => .pure _) (by decide)
    case h_5 same =>
      cases same
      exact .mono ((follows_expect '\x7d').bind fun _ => .pure _) (by decide)
    case h_6 no_bracket no_brace =>
      rw [if_neg fun same => no_bracket (by rw [same]), if_neg fun same => no_brace (by rw [same])]
      exact failed
  | identifier name =>
    dsimp only
    split
    case h_7 =>
      have unknown : valueWords.lookup name = none := by simp_all [List.lookup_eq_none_iff, valueWords]
      rw [unknown]
      exact failed
    all_goals exact .pure _

theorem follows_defaultOption : Follows cursor d 0 0 defaultOption cursor.defaultOption :=
  .mono (.whether (follows_defaultValue.bind fun _ => .pure _) (.pure _)) (by decide)

theorem follows_typeName : Follows cursor d 0 1 typeName cursor.typeName := by
  refine .mono (follows_identifier.bind fun first => (?_ : Follows cursor d 0 0 _ _)) (by decide)
  split
  case h_1 =>
    exact .mono (.whether (.pure _) (.whether (.whether (.pure _) (.pure _))
      (follows_fail (k := 0) .unsignedSize (by decide)))) (by decide)
  case h_2 => exact .mono (.whether (.pure _) (.pure _)) (by decide)
  case h_3 =>
    exact .mono (.whether (.pure _) (.whether (.pure _)
      (follows_fail (k := 0) .unrestrictedKind (by decide)))) (by decide)
  case h_4 unsigned long unrestricted =>
    rw [if_neg unsigned, if_neg long, if_neg unrestricted]
    exact .pure _

theorem follows_applied (name : String) (arguments : List TypeExpr) :
    Follows cursor d 0 0 (applied name arguments) (Cursor.applied name arguments) := by
  have failed : Follows (α := TypeExpr) cursor d 0 0 (failBefore .sequenceArity) (Cursor.failBefore .sequenceArity) :=
    follows_failBefore .sequenceArity (by decide)
  refine .mono (.ite (?_ : Follows cursor d 0 0 _ _) (.pure _)) (by decide)
  cases arguments with
  | nil => exact failed
  | cons element others =>
    cases others with
    | nil => exact .pure _
    | cons => exact failed

/-- A list of which each element stands behind a separator. -/
theorem follows_tail {separator : Token} {q : Parser (List α)} {s : Run (List α)} (first : Follows cursor d 2 1 p r)
    (later : Follows cursor d 1 0 q s) :
    Follows cursor d 0 0
      (do if ← eat separator then (do let a ← p; let others ← q; Pure.pure (a :: others)) else Pure.pure [])
      (do if ← cursor.eat separator then (do let a ← r; let others ← s; Pure.pure (a :: others)) else Pure.pure []) :=
  .mono (.whether (first.bind fun _ => later.bind fun _ => .pure _) (.pure _)) (by decide)

theorem follows_identifiersTail (d : Nat) : Follows cursor d 1 0 (identifiersTail d) cursor.identifiersTail := by
  induction d with
  | zero => exact .of_shallow (by decide)
  | succ d ih =>
    refine .deeper ?_
    rw [identifiersTail, Cursor.identifiersTail]
    exact follows_tail (follows_identifier.mono (by decide)) ih

theorem follows_attributeValue : Follows cursor d 0 1 (attributeValue d) cursor.attributeValue := by
  refine .mono (.whether (follows_identifier.bind fun _ => (follows_identifiersTail d).bind fun _ =>
    (follows_expect ')').bind fun _ => .pure _) (.next (fun token => (?_ : Follows cursor d 0 0 _ _))
      (follows_failBefore (k := 1) .attributeValue (by decide)))) (by decide)
  cases token with
  | identifier | string | number => exact .pure _
  | punct | ellipsis => exact follows_failBefore .attributeValue (by decide)

/-! ## Types, arguments and extended attributes -/

/-- The parsers that call each other are followed together. -/
structure FollowedAt (cursor : Cursor) (d : Nat) : Prop where
  ofType : Follows cursor d 2 1 (type d) cursor.type
  ofUnionTail : Follows cursor d 1 0 (unionTail d) cursor.unionTail
  ofSingle : Follows cursor d 1 1 (singleType d) cursor.singleType
  ofTypesTail : Follows cursor d 1 0 (typesTail d) cursor.typesTail
  ofArgument : Follows cursor d 3 2 (argument d) cursor.argument
  ofArguments : Follows cursor d 4 1 (argumentsTail d) cursor.argumentsTail
  ofAttribute : Follows cursor d 1 1 (oneAttribute d) cursor.oneAttribute
  ofAttributesTail : Follows cursor d 1 0 (attributesTail d) cursor.attributesTail
  ofAttributes : Follows cursor d 1 0 (attributes d) cursor.attributes

theorem FollowedAt.zero : FollowedAt cursor 0 := by
  constructor <;> exact .of_shallow (by decide)

theorem FollowedAt.succ (smaller : FollowedAt cursor d) : FollowedAt cursor (d + 1) := by
  -- Both sides are opened once, and what is called behind a token has the depth that it needs.
  constructor
  case ofType =>
    refine .deeper ?_
    rw [type, Cursor.type]
    exact .mono (.whether
      (smaller.ofType.bind fun _ => smaller.ofUnionTail.bind fun _ => (follows_expect ')').bind fun _ =>
        (Follows.pure _).bind fun _ => .whether (.pure _) (.pure _))
      (smaller.ofAttributes.bind fun _ => smaller.ofSingle.bind fun _ => .whether (.pure _) (.pure _))) (by decide)
  case ofUnionTail =>
    refine .deeper ?_
    rw [unionTail, Cursor.unionTail]
    exact follows_tail smaller.ofType smaller.ofUnionTail
  case ofSingle =>
    refine .deeper ?_
    rw [singleType, Cursor.singleType]
    exact .mono (follows_typeName.bind fun name => .whether
      (smaller.ofType.bind fun first => smaller.ofTypesTail.bind fun others => (follows_expect '>').bind fun _ =>
        follows_applied name (first :: others))
      (.pure _)) (by decide)
  case ofTypesTail =>
    refine .deeper ?_
    rw [typesTail, Cursor.typesTail]
    exact follows_tail smaller.ofType smaller.ofTypesTail
  case ofArgument =>
    refine .deeper ?_
    rw [argument, Cursor.argument]
    exact .mono (smaller.ofAttributes.bind fun _ => (follows_eat (.identifier "optional")).bind fun _ =>
      smaller.ofType.bind fun _ => (follows_eat .ellipsis).bind fun _ => follows_identifier.bind fun _ =>
      follows_defaultOption.bind fun _ => .pure _) (by decide)
  case ofArguments =>
    refine .deeper ?_
    rw [argumentsTail, Cursor.argumentsTail]
    exact .mono (.whether (.pure _) (smaller.ofArgument.bind fun _ => .whether
      (smaller.ofArguments.bind fun _ => .pure _)
      ((follows_expect ')').bind fun _ => .pure _))) (by decide)
  case ofAttribute =>
    refine .deeper ?_
    rw [oneAttribute, Cursor.oneAttribute]
    exact .mono (follows_identifier.bind fun _ => .whether
      ((follows_attributeValue.map some).bind fun _ => .whether (smaller.ofArguments.bind fun _ => .pure _) (.pure _))
      ((Follows.pure _).bind fun _ => .whether (smaller.ofArguments.bind fun _ => .pure _) (.pure _))) (by decide)
  case ofAttributesTail =>
    refine .deeper ?_
    rw [attributesTail, Cursor.attributesTail]
    exact follows_tail (smaller.ofAttribute.mono (by decide)) smaller.ofAttributesTail
  case ofAttributes =>
    refine .deeper ?_
    rw [attributes, Cursor.attributes]
    exact .mono (.whether (smaller.ofAttribute.bind fun _ => smaller.ofAttributesTail.bind fun _ =>
      (follows_expect ']').bind fun _ => .pure _) (.pure _)) (by decide)

theorem followedAt (d : Nat) : FollowedAt cursor d := by
  induction d with
  | zero => exact .zero
  | succ d ih => exact .succ ih

theorem follows_type (d : Nat) : Follows cursor d 2 1 (type d) cursor.type :=
  (followedAt d).ofType

theorem follows_attributes (d : Nat) : Follows cursor d 1 0 (attributes d) cursor.attributes :=
  (followedAt d).ofAttributes

theorem follows_arguments (d : Nat) : Follows cursor d 2 2 (arguments d) cursor.arguments :=
  .mono ((follows_expect '(').bind fun _ => (followedAt d).ofArguments) (by decide)

/-! ## Members -/

theorem follows_field (d : Nat) : Follows cursor d 2 3 (field d) cursor.field :=
  .mono ((follows_eat (.identifier "required")).bind fun _ => (follows_attributes d).bind fun _ =>
    (follows_type d).bind fun _ => follows_identifier.bind fun _ => follows_defaultOption.bind fun _ =>
    (follows_expect ';').bind fun _ => .pure _) (by decide)

theorem follows_modifiers : Follows cursor d 0 0 modifiers cursor.modifiers := by
  intro start inside deep
  -- Modifiers have no depth, so the induction is on the number of tokens that are left.
  induction left : cursor.tokens.length - start using Nat.strongRecOn generalizing start with
  | ind left ih =>
    have stays := Follows.pure (d := d) ({} : Modifiers) start inside deep
    rcases drop_cases inside with ⟨front, here⟩ | ⟨⟨token, place⟩, less, front, here⟩
    · rw [front] at stays
      rw [front, Cursor.modifiers, Cursor.peek_front, here]
      exact stays
    rw [front] at stays
    rw [front]
    cases token with
    | identifier word =>
      have run : cursor.modifiers start = (if isModifier word then (do
          Cursor.advance 1
          let later ← cursor.modifiers
          Pure.pure (later.push word)) else Pure.pure {} : Run Modifiers) start := by
        conv_lhs => rw [Cursor.modifiers, Cursor.peek_front, here]
        rfl
      by_cases modifies : isModifier word = true
      · have later := ih (cursor.tokens.length - (start + 1)) (by omega) (start + 1) less (by omega) rfl
        generalize parsed : modifiers (cursor.tokens.drop (start + 1)) = result at later
        generalize ran : cursor.modifiers (start + 1) = result' at later
        cases later with
        | fault => cases parsed
        | value ms stop forward inside' =>
          have split : splitModifiers (cursor.tokens.drop (start + 1)) = (ms, cursor.tokens.drop stop) :=
            Except.ok.inj parsed
          rw [modifiers, splitModifiers, if_pos modifies, split, run, if_pos modifies, Cursor.advance_bind,
            Cursor.bind_value ran]
          exact .value (ms.push word) stop (by omega) inside'
      · rw [modifiers, splitModifiers, if_neg modifies, run, if_neg modifies]
        exact stays
    | string | number | punct | ellipsis =>
      rw [Cursor.modifiers, Cursor.peek_front, here]
      exact stays

theorem follows_constant : Follows cursor d 2 5 (constant d) cursor.constant :=
  .mono ((follows_type d).bind fun _ => follows_identifier.bind fun _ => (follows_expect '=').bind fun _ =>
    follows_defaultValue.bind fun _ => (follows_expect ';').bind fun _ => .pure _) (by decide)

theorem follows_constructorOf (owner : String) :
    Follows cursor d 2 3 (constructorOf owner d) (cursor.constructorOf owner) :=
  .mono ((follows_arguments d).bind fun _ => (follows_expect ';').bind fun _ => .pure _) (by decide)

section

variable (ms : Modifiers)

theorem follows_property : Follows cursor d 2 3 (property ms d) (cursor.property ms) :=
  .mono ((follows_type d).bind fun _ => follows_identifier.bind fun _ => (follows_expect ';').bind fun _ => .pure _)
    (by decide)

theorem follows_collection (kind : MemberKind) (keyword : String) :
    Follows cursor d 2 3 (collection kind keyword ms d) (cursor.collection kind keyword ms) := by
  refine .mono ((follows_type d).bind fun _ => .whether
    (((follows_type d).map some).bind fun second => (follows_expect '>').bind fun _ => (follows_expect ';').bind fun _ =>
      (?_ : Follows cursor d 0 0 _ _))
    ((Follows.pure none).bind fun second => (follows_expect '>').bind fun _ => (follows_expect ';').bind fun _ =>
      (?_ : Follows cursor d 0 0 _ _))) (by decide)
  all_goals cases second <;> exact .pure _

theorem follows_operation : Follows cursor d 2 4 (operation ms d) (cursor.operation ms) :=
  .mono ((follows_type d).bind fun _ => (follows_identifierAt 0).bind fun _ => .ite
    (follows_identifier.bind fun _ => (follows_arguments d).bind fun _ => (follows_expect ';').bind fun _ => .pure _)
    ((Follows.pure "").bind fun _ => (follows_arguments d).bind fun _ => (follows_expect ';').bind fun _ => .pure _))
    (by decide)

theorem follows_modified : Follows cursor d 2 3 (modified ms d) (cursor.modified ms) :=
  .mono (.whether (follows_property ms) (.announced 2 (by decide) (follows_collection ms .iterable "iterable")
    (.announced 2 (by decide) (follows_collection ms .maplike "maplike")
    (.announced 2 (by decide) (follows_collection ms .setlike "setlike") (follows_operation ms))))) (by decide)

end

theorem follows_interfaceMember (owner : String) (d : Nat) :
    Follows cursor d 2 2 (interfaceMember owner d) (cursor.interfaceMember owner) := by
  rw [interfaceMember_eq]
  exact .mono (.whether follows_constant (.announced 1 (by decide) (follows_constructorOf owner)
    (.announced 2 (by decide) (.pure _) (follows_modifiers.bind fun ms => follows_modified ms)))) (by decide)

theorem follows_member (kind : DefinitionKind) (owner : String) :
    Follows cursor d 2 2 (member kind owner d) (cursor.member kind owner) :=
  .mono ((follows_attributes d).bind fun _ => .ite ((follows_field d).bind fun _ => .pure _)
    ((follows_interfaceMember owner d).bind fun _ => .pure _)) (by decide)

theorem follows_members (kind : DefinitionKind) (owner : String) (d : Nat) :
    Follows cursor d 3 1 (members kind owner d) (cursor.members kind owner) := by
  induction d with
  | zero => exact .of_shallow (by decide)
  | succ d ih =>
    refine .deeper ?_
    rw [members, Cursor.members]
    exact .mono (.whether (.pure _) ((follows_member kind owner).bind fun _ => ih.bind fun _ => .pure _)) (by decide)

theorem follows_enumValues (d : Nat) : Follows cursor d 1 1 (enumValues d) cursor.enumValues := by
  induction d with
  | zero => exact .of_shallow (by decide)
  | succ d ih =>
    refine .deeper ?_
    rw [enumValues, Cursor.enumValues]
    refine .mono (.whether (.pure _) (.next (fun token => (?_ : Follows cursor d 2 0 _ _))
      (follows_failBefore (k := 1) .enumValue (by decide)))) (by decide)
    cases token with
    | string =>
      exact .mono (.whether (ih.bind fun _ => .pure _) ((follows_expect '\x7d').bind fun _ => .pure _)) (by decide)
    | identifier | number | punct | ellipsis =>
      exact (follows_failBefore (k := 0) .enumValue (by decide)).mono (by decide)

/-! ## Definitions -/

theorem follows_parentOption : Follows cursor d 0 0 parentOption cursor.parentOption :=
  .mono (.whether (follows_identifier.bind fun _ => .pure _) (.pure _)) (by decide)

theorem follows_body (kind : DefinitionKind) (d : Nat) : Follows cursor d 0 4 (body kind d) (cursor.body kind) :=
  .mono (follows_identifier.bind fun name => follows_parentOption.bind fun _ => (follows_expect '\x7b').bind fun _ =>
    (follows_members kind name d).bind fun _ => (follows_expect ';').bind fun _ => .pure _) (by decide)

theorem follows_partialBody : Follows cursor d 0 5 (partialBody d) cursor.partialBody :=
  .mono (.whether (follows_skipMixin.bind fun _ => (follows_body .interface d).bind fun _ => .pure _)
    (.whether ((follows_body .dictionary d).bind fun _ => .pure _)
      (follows_fail (k := 5) .partialKind (by decide)))) (by decide)

theorem follows_callback : Follows cursor d 0 6 (callback d) cursor.callback :=
  .mono (follows_identifier.bind fun _ => (follows_expect '=').bind fun _ => (follows_type d).bind fun _ =>
    (follows_arguments d).bind fun _ => (follows_expect ';').bind fun _ => .pure _) (by decide)

theorem follows_enumeration (d : Nat) : Follows cursor d 0 4 (enumeration d) cursor.enumeration :=
  .mono (follows_identifier.bind fun _ => (follows_expect '\x7b').bind fun _ => (follows_enumValues d).bind fun _ =>
    (follows_expect ';').bind fun _ => .pure _) (by decide)

theorem follows_typeAlias : Follows cursor d 2 3 (typeAlias d) cursor.typeAlias :=
  .mono ((follows_attributes d).bind fun _ => (follows_type d).bind fun _ => follows_identifier.bind fun _ =>
    (follows_expect ';').bind fun _ => .pure _) (by decide)

theorem follows_bareDefinition : Follows cursor d 0 3 (bareDefinition d) cursor.bareDefinition := by
  rw [bareDefinition_eq]
  exact .mono (.whether follows_partialBody
    (.whether (.whether (follows_body .callbackInterface d) follows_callback)
    (.whether (follows_skipMixin.bind fun _ => follows_body .interface d)
    (.whether (follows_body .dictionary d)
    (.whether (follows_enumeration d)
    (.whether follows_typeAlias follows_implementationStatement)))))) (by decide)

theorem follows_definition (d : Nat) : Follows cursor d 1 3 (definition d) cursor.definition :=
  .mono ((follows_attributes d).bind fun _ => follows_bareDefinition.bind fun _ => .pure _) (by decide)

theorem follows_definitions (d : Nat) : Follows cursor d 2 0 (definitions d) cursor.definitions := by
  induction d with
  | zero => exact .of_shallow (by decide)
  | succ d ih =>
    intro start inside deep
    -- The run stops by its position and the parser by the list of tokens, so no rule applies to the test.
    have run : cursor.definitions start
        = (if start < cursor.tokens.length then (do
            let first ← cursor.definition
            let others ← cursor.definitions
            Pure.pure (first :: others))
          else Pure.pure [] : Run (List Definition)) start := by
      conv_lhs => rw [Cursor.definitions]
      rfl
    rcases drop_cases inside with ⟨front, here⟩ | ⟨t, less, front, here⟩
    · rw [run, if_neg (Nat.not_lt.2 (List.getElem?_eq_none_iff.1 here))]
      have ends := Follows.pure (d := d) ([] : List Definition) start inside (by omega)
      rw [front] at ends
      rw [front]
      exact ends
    · have both := Follows.bind (follows_definition d) fun first => ih.bind fun others => .pure (first :: others)
      have ends := both start inside (by omega)
      rw [front] at ends
      rw [run, if_pos less, front]
      exact ends.mono (by omega) (Nat.le_refl start)

/-- The reading of a whole schema ends, as the parser with its bound says. -/
theorem read?_eq (cursor : Cursor) : cursor.read? = some (readTokens cursor.tokens) := by
  have ends := @follows_definitions cursor (depthFor cursor.tokens) 0 (Nat.zero_le _) (by rw [depthFor]; omega)
  rw [List.drop_zero] at ends
  rw [Cursor.read?, readTokens]
  cases parsed : definitions (depthFor cursor.tokens) cursor.tokens with
  | ok result =>
    rw [parsed] at ends
    obtain ⟨stop, -, -, -, ran⟩ := ends.of_ok
    rw [ran]
    rfl
  | error e =>
    rw [parsed] at ends
    obtain ⟨stop, -, -, ran⟩ := ends.of_error
    rw [ran]
    rfl

/-- From every position, each parser ends with a value behind some tokens or with a fault, among the tokens in either
case; only extended attributes may take none.  So the reading of a schema ends, and the bound of the parsers is never
what stops them. -/
theorem parsers_progress {cursor : Cursor} {start depth : Nat} (inside : start ≤ cursor.tokens.length)
    (deep : 2 * (cursor.tokens.length - start) + 2 ≤ depth) :
    Ends cursor.tokens start 1 (definition depth (cursor.tokens.drop start)) (cursor.definition start)
      ∧ Ends cursor.tokens start 1 (bareDefinition depth (cursor.tokens.drop start)) (cursor.bareDefinition start)
      ∧ (∀ kind, Ends cursor.tokens start 1 (body kind depth (cursor.tokens.drop start)) (cursor.body kind start))
      ∧ Ends cursor.tokens start 1 (enumeration depth (cursor.tokens.drop start)) (cursor.enumeration start)
      ∧ Ends cursor.tokens start 1 (field depth (cursor.tokens.drop start)) (cursor.field start)
      ∧ (∀ owner, Ends cursor.tokens start 1 (interfaceMember owner depth (cursor.tokens.drop start))
          (cursor.interfaceMember owner start))
      ∧ Ends cursor.tokens start 1 (arguments depth (cursor.tokens.drop start)) (cursor.arguments start)
      ∧ Ends cursor.tokens start 1 (type depth (cursor.tokens.drop start)) (cursor.type start)
      ∧ Ends cursor.tokens start 1 (singleType depth (cursor.tokens.drop start)) (cursor.singleType start)
      ∧ Ends cursor.tokens start 1 (defaultValue (cursor.tokens.drop start)) (cursor.defaultValue start)
      ∧ Ends cursor.tokens start 0 (attributes depth (cursor.tokens.drop start)) (cursor.attributes start)
      ∧ cursor.read? = some (readTokens cursor.tokens) := by
  have ends : ∀ {β : Type} {c k least : Nat} {p : Parser β} {r : Run β},
      Follows cursor depth c k p r → c ≤ 2 → least ≤ k → Ends cursor.tokens start least (p (cursor.tokens.drop start)) (r start) := by
    intro β c k least p r follows enough some_token
    exact (follows start inside (by omega)).mono (by omega) (Nat.le_refl start)
  exact ⟨ends (follows_definition depth) (by decide) (by decide), ends follows_bareDefinition (by decide) (by decide),
    fun kind => ends (follows_body kind depth) (by decide) (by decide),
    ends (follows_enumeration depth) (by decide) (by decide), ends (follows_field depth) (by decide) (by decide),
    fun owner => ends (follows_interfaceMember owner depth) (by decide) (by decide),
    ends (follows_arguments depth) (by decide) (by decide), ends (follows_type depth) (by decide) (by decide),
    ends (followedAt depth).ofSingle (by decide) (by decide), ends follows_defaultValue (by decide) (by decide),
    ends (follows_attributes depth) (by decide) (by decide), read?_eq cursor⟩

/-- A cursor at the tokens of a type alias. -/
def aliasCursor : Cursor where
  tokens := [⟨.identifier "typedef", .start⟩, ⟨.identifier "unsigned", .start⟩, ⟨.identifier "long", .start⟩,
    ⟨.identifier "T", .start⟩, ⟨.punct ';', .start⟩]

/-- Behind the keyword there is a type, which takes two tokens, and no definition. -/
theorem parsers_progress_alias :
    aliasCursor.type 1 = some (.ok (.named "unsigned long"), 3)
      ∧ ∃ stop ≤ 5, aliasCursor.bareDefinition 1 = some (.error ⟨.definition, 1⟩, stop) := by
  have five : aliasCursor.tokens.length = 5 := rfl
  have inside : 1 ≤ aliasCursor.tokens.length := by decide
  have deep : 2 * (aliasCursor.tokens.length - 1) + 2 ≤ 10 := by decide
  obtain ⟨-, undefined, -, -, -, -, -, typed, -⟩ := parsers_progress inside deep
  have parsed : type 10 (aliasCursor.tokens.drop 1) = .ok (.named "unsigned long", aliasCursor.tokens.drop 3) := by
    decide +kernel
  have failed : bareDefinition 10 (aliasCursor.tokens.drop 1) = .error ⟨.definition, 4⟩ := by decide +kernel
  rw [parsed] at typed
  rw [failed] at undefined
  obtain ⟨stop, -, within, same, ran⟩ := typed.of_ok
  obtain ⟨stop', -, within', ran'⟩ := undefined.of_error
  have three : stop = 3 := by
    have length := congrArg List.length same
    rw [List.length_drop, List.length_drop] at length
    omega
  rw [three] at ran
  exact ⟨ran, stop', within', ran'⟩

end Grammar

end IdlBindings
