/-
# IdlBindings.Proofs.ReadTypes: types and values are read back from their tokens.

`Reads p ts a after` says that `p` turns the tokens `ts` into `a` whenever `after` stands behind them.
A well-formed type is read from its tokens under two conditions: the depth allows for twice the tokens,
and what stands behind cannot be taken for a part of the type.  A question mark, an angle bracket or a
further `long` could be.
-/
import IdlBindings.Proofs.ParserSteps
import IdlBindings.Proofs.WrittenForm

namespace IdlBindings.Grammar

open Token (Located plain isIdentifier isNumber isQuotable)

variable {α : Type} {toks rest : List Located} {depth : Nat}

/-- On every list that spells `tokens` and then `after`, the parser gives `a` and leaves `after`. -/
def Reads (p : Parser α) (tokens : List Token) (a : α) (after : List Token) : Prop :=
  ∀ toks, plain toks = tokens ++ after → ∃ rest, p toks = .ok (a, rest) ∧ plain rest = after

theorem lacks_of_plain {ts : List Token} {token : Token} (spelled : plain toks = ts)
    (other : ts.head? ≠ some token) : Lacks toks token := by
  rw [Lacks, spelled]
  exact other

/-! ## Options and repetitions -/

theorem reads_eat {token : Token} {after : List Token} (condition : Bool)
    (other : condition = false → after.head? ≠ some token) :
    Reads (eat token) (tokenIf condition token) condition after := by
  intro toks spelled
  cases condition with
  | false => exact ⟨toks, eat_false.2 ⟨rfl, lacks_of_plain spelled (other rfl)⟩, spelled⟩
  | true =>
    obtain ⟨rest, taken, spelled⟩ := takes_of_plain spelled
    exact ⟨rest, eat_true.2 taken, spelled⟩

theorem reads_none {token : Token} {p : Parser α} {after : List Token}
    (other : after.head? ≠ some token) : Reads (optionally token p) [] none after := by
  intro toks spelled
  exact ⟨toks, optionally_eq_ok.2 (.inl ⟨lacks_of_plain spelled other, rfl, rfl⟩), spelled⟩

theorem reads_some {token : Token} {p : Parser α} {ts after : List Token} {a : α}
    (read : Reads p ts a after) : Reads (optionally token p) (token :: ts) (some a) after := by
  intro toks spelled
  obtain ⟨r₁, taken, spelled⟩ := takes_of_plain spelled
  obtain ⟨rest, ran, spelled⟩ := read r₁ spelled
  exact ⟨rest, optionally_eq_ok.2 (.inr ⟨r₁, taken, a, ran, rfl⟩), spelled⟩

/-- Items behind separators are read one by one; each may be followed by a separator or by what stands
behind them all. -/
theorem reads_repeated {separator : Token} {item : Nat → Parser α} {tokens : α → List Token}
    {after : List Token} (ends : after.head? ≠ some separator) :
    ∀ (as : List α) (depth : Nat),
      (∀ a ∈ as, ∀ depth later, 2 * (tokens a).length + 1 ≤ depth →
        (later.head? = some separator ∨ later = after) → Reads (item depth) (tokens a) a later) →
      2 * ((as.map tokens).flatMap (separator :: ·)).length + 1 ≤ depth →
      Reads (repeated separator item depth) ((as.map tokens).flatMap (separator :: ·)) as after
  | [], depth + 1, _, _ => by
    intro toks spelled
    exact ⟨toks, repeated_eq_ok.2 (.inl ⟨lacks_of_plain spelled ends, rfl, rfl⟩), spelled⟩
  | a :: as, depth + 1, each, deep => by
    simp only [List.map_cons, List.flatMap_cons, List.cons_append, List.length_cons,
      List.length_append] at deep
    intro toks spelled
    simp only [List.map_cons, List.flatMap_cons, List.cons_append, List.append_assoc] at spelled
    obtain ⟨r₁, taken, spelled⟩ := takes_of_plain spelled
    -- behind the first item comes the separator of the second, or there is no second
    have follows : ((as.map tokens).flatMap (separator :: ·) ++ after).head? = some separator
        ∨ (as.map tokens).flatMap (separator :: ·) ++ after = after := by
      cases as <;> simp
    obtain ⟨r₂, first, spelled⟩ := each a (by simp) depth _ (by omega) follows r₁ spelled
    obtain ⟨rest, others, spelled⟩ := reads_repeated ends as depth
      (fun a inside => each a (by simp [inside])) (by omega) r₂ spelled
    exact ⟨rest, repeated_eq_ok.2 (.inr ⟨r₁, taken, a, r₂, first, as, others, rfl⟩), spelled⟩

/-! ## Types -/

theorem reads_typeName {name : String} {after : List Token} (h : TypeExpr.isTypeName name = true)
    (ends : (TypeExpr.named name).takesLong = true → after.head? ≠ some (.identifier "long")) :
    Reads typeName ((TypeExpr.words name).map .identifier) name after := by
  intro toks spelled
  cases found : TypeExpr.phrases.lookup name with
  | some several =>
    have listed := mem_of_lookup found
    simp only [TypeExpr.words, found, Option.getD_some] at spelled
    simp only [TypeExpr.phrases, List.mem_cons, Prod.mk.injEq, List.not_mem_nil, or_false] at listed
    rcases listed with ⟨rfl, rfl⟩ | ⟨rfl, rfl⟩ | ⟨rfl, rfl⟩ | ⟨rfl, rfl⟩ | ⟨rfl, rfl⟩ | ⟨rfl, rfl⟩
    all_goals
      obtain ⟨r₁, first, spelled₁⟩ := takes_of_plain spelled
      obtain ⟨r₂, second, spelled₂⟩ := takes_of_plain spelled₁
    · exact ⟨r₂, typeName_eq_ok.2 ⟨_, r₁, first, .inl ⟨rfl, .inl ⟨second, rfl⟩⟩⟩, spelled₂⟩
    · -- `unsigned long`, which a further `long` would make longer
      have other := lacks_of_plain spelled₂ (ends (by decide))
      exact ⟨r₂, typeName_eq_ok.2 ⟨_, r₁, first,
        .inl ⟨rfl, .inr ⟨r₂, second, .inl ⟨other, rfl, rfl⟩⟩⟩⟩, spelled₂⟩
    · obtain ⟨r₃, third, spelled₃⟩ := takes_of_plain spelled₂
      exact ⟨r₃, typeName_eq_ok.2 ⟨_, r₁, first,
        .inl ⟨rfl, .inr ⟨r₂, second, .inr ⟨third, rfl⟩⟩⟩⟩, spelled₃⟩
    · exact ⟨r₂, typeName_eq_ok.2 ⟨_, r₁, first, .inr (.inl ⟨rfl, .inr ⟨second, rfl⟩⟩)⟩, spelled₂⟩
    · exact ⟨r₂, typeName_eq_ok.2 ⟨_, r₁, first,
        .inr (.inr (.inl ⟨rfl, .inl ⟨second, rfl⟩⟩))⟩, spelled₂⟩
    · exact ⟨r₂, typeName_eq_ok.2 ⟨_, r₁, first,
        .inr (.inr (.inl ⟨rfl, .inr ⟨second, rfl⟩⟩))⟩, spelled₂⟩
  | none =>
    simp only [TypeExpr.isTypeName, found, Option.isSome_none, Bool.false_or, Bool.and_eq_true,
      bne_iff_ne] at h
    obtain ⟨⟨-, unsigned⟩, unrestricted⟩ := h
    simp only [TypeExpr.words, found, Option.getD_none] at spelled
    obtain ⟨r₁, first, behind⟩ := takes_of_plain spelled
    refine ⟨r₁, typeName_eq_ok.2 ⟨name, r₁, first, ?_⟩, behind⟩
    by_cases long : name = "long"
    · subst long
      exact .inr (.inl ⟨rfl, .inl ⟨lacks_of_plain behind (ends (by decide)), rfl, rfl⟩⟩)
    · exact .inr (.inr (.inr ⟨unsigned, long, unrestricted, rfl, rfl⟩))

theorem words_ne_nil (name : String) : TypeExpr.words name ≠ [] := by
  cases found : TypeExpr.phrases.lookup name with
  | none => simp [TypeExpr.words, found]
  | some several =>
    have nonempty : ∀ entry ∈ TypeExpr.phrases, entry.2 ≠ [] := by decide
    simpa [TypeExpr.words, found] using nonempty _ (mem_of_lookup found)

/-- What may stand behind a type: nothing that is taken for a part of it. -/
def Stops (t : TypeExpr) (after : List Token) : Prop :=
  after.head? ≠ some (.punct '?') ∧ after.head? ≠ some (.punct '<')
    ∧ (t.takesLong = true → after.head? ≠ some (.identifier "long"))

theorem tokensList_eq_map (ts : List TypeExpr) : TypeExpr.tokensList ts = ts.map TypeExpr.tokens := by
  induction ts with
  | nil => rw [TypeExpr.tokensList, List.map_nil]
  | cons t ts ih => rw [TypeExpr.tokensList, List.map_cons, ih]

/-- A type is read, and also the part of it that has no question mark. -/
structure ReadsType (t : TypeExpr) : Prop where
  unmarked : t.isNullable = false → ∀ depth after, 2 * t.tokens.length ≤ depth →
    after.head? ≠ some (.punct '<') →
    (t.takesLong = true → after.head? ≠ some (.identifier "long")) →
    Reads (unmarked depth) t.tokens t after
  type : ∀ depth after, 2 * t.tokens.length + 1 ≤ depth → Stops t after →
    Reads (type depth) t.tokens t after

theorem ReadsType.of_unmarked {t : TypeExpr}
    (read : ∀ depth after, 2 * t.tokens.length ≤ depth → after.head? ≠ some (.punct '<') →
      (t.takesLong = true → after.head? ≠ some (.identifier "long")) →
      Reads (Grammar.unmarked depth) t.tokens t after) : ReadsType t := by
  refine ⟨fun _ => read, ?_⟩
  intro depth after deep stops toks spelled
  obtain ⟨depth, rfl⟩ := Nat.exists_eq_add_of_le' (show 1 ≤ depth by omega)
  obtain ⟨rest, base, spelled⟩ := read depth after (by omega) stops.2.1 stops.2.2 toks spelled
  exact ⟨rest, type_eq_ok.2 ⟨t, rest, base, .inl ⟨rfl, lacks_of_plain spelled stops.1, rfl⟩⟩, spelled⟩

theorem ReadsType.nullable {inner : TypeExpr} (plainly : inner.isNullable = false)
    (read : ReadsType inner) : ReadsType (.nullable inner) := by
  refine ⟨by simp [TypeExpr.isNullable], ?_⟩
  intro depth after deep _ toks spelled
  rw [TypeExpr.tokens, List.length_append, List.length_singleton] at deep
  rw [TypeExpr.tokens, List.append_assoc] at spelled
  obtain ⟨depth, rfl⟩ := Nat.exists_eq_add_of_le' (show 1 ≤ depth by omega)
  -- the question mark belongs to this type, so the inner one is read without looking for it
  obtain ⟨mid, base, spelled⟩ := read.unmarked plainly depth _ (by omega) (by simp) (by simp) toks
    spelled
  obtain ⟨rest, marked, spelled⟩ := takes_of_plain spelled
  exact ⟨rest, type_eq_ok.2 ⟨inner, mid, base, .inr ⟨marked, rfl⟩⟩, spelled⟩

/-- Types with a separator between them are read up to the mark that closes them. -/
theorem reads_types (depth : Nat) {separator : Token} {close : Char} {first : TypeExpr}
    {others : List TypeExpr} {after : List Token} (read : ReadsType first) (each : ∀ t ∈ others, ReadsType t)
    (separates : ∀ t later, later.head? = some separator → Stops t later)
    (closes : ∀ t, Stops t (.punct close :: after)) (differs : .punct close ≠ separator)
    (deep : 2 * (separated separator ((first :: others).map TypeExpr.tokens)).length + 1 ≤ depth)
    (spelled : plain toks = separated separator ((first :: others).map TypeExpr.tokens)
      ++ .punct close :: after) :
    ∃ r₁ r₂ rest, type depth toks = .ok (first, r₁) ∧ repeated separator type depth r₁ = .ok (others, r₂)
      ∧ Takes r₂ (.punct close) rest ∧ plain rest = after := by
  simp only [List.map_cons, separated, List.length_append] at deep
  simp only [List.map_cons, separated, List.append_assoc] at spelled
  have follows : Stops first ((others.map TypeExpr.tokens).flatMap (separator :: ·)
      ++ .punct close :: after) := by
    cases others with
    | nil => exact closes first
    | cons => exact separates _ _ rfl
  have items : ∀ t ∈ others, ∀ depth later, 2 * t.tokens.length + 1 ≤ depth →
      (later.head? = some separator ∨ later = .punct close :: after) →
      Reads (type depth) t.tokens t later := by
    intro t inside depth later enough next
    refine (each t inside).type depth later enough ?_
    rcases next with next | rfl
    · exact separates t later next
    · exact closes t
  obtain ⟨r₁, head, spelled⟩ := read.type depth _ (by omega) follows toks spelled
  obtain ⟨r₂, tail, spelled⟩ := reads_repeated (by simpa using differs) others depth items (by omega) r₁
    spelled
  obtain ⟨rest, closed, spelled⟩ := takes_of_plain spelled
  exact ⟨r₁, r₂, rest, head, tail, closed, spelled⟩

theorem stops_of_head {token : Token} {t : TypeExpr} {after : List Token}
    (h : after.head? = some token) (question : token ≠ .punct '?') (angle : token ≠ .punct '<')
    (long : token ≠ .identifier "long") : Stops t after := by
  rw [Stops, h]
  simp [question, angle, long]

/-- No extended attributes stand in front of what starts with another token than a bracket. -/
theorem attributes_lacking (lacks : Lacks toks (.punct '[')) (deep : 1 ≤ depth) :
    attributes depth toks = .ok ([], toks) := by
  match depth, deep with
  | depth + 1, _ => exact attributes_eq_ok.2 (.inl ⟨lacks, rfl, rfl⟩)

theorem ReadsType.union {first : TypeExpr} {others : List TypeExpr} (read : ReadsType first)
    (each : ∀ t ∈ others, ReadsType t) : ReadsType (.union (first :: others)) := by
  refine .of_unmarked ?_
  intro depth after deep _ _ toks spelled
  rw [TypeExpr.tokens, tokensList_eq_map, List.length_cons, List.length_append] at deep
  rw [TypeExpr.tokens, tokensList_eq_map, List.cons_append, List.append_assoc] at spelled
  obtain ⟨r₁, opened, spelled⟩ := takes_of_plain spelled
  obtain ⟨r₂, r₃, rest, head, tail, closed, spelled⟩ := reads_types depth read each
    (fun t later next => stops_of_head next (by simp) (by simp) (by simp))
    (fun t => stops_of_head rfl (by simp) (by simp) (by simp)) (by simp) (by omega) spelled
  exact ⟨rest, unmarked_eq_ok.2 (.inr ⟨r₁, opened, first, r₂, head, others, r₃, tail, closed, rfl⟩),
    spelled⟩

/-- A named type is read by way of its name: no parenthesis and no extended attributes stand in front
of it. -/
theorem reads_unmarked_of_single {name : String} {t : TypeExpr} {later after : List Token}
    (deep : 1 ≤ depth)
    (read : Reads (singleType depth) ((TypeExpr.words name).map .identifier ++ later) t after) :
    Reads (unmarked depth) ((TypeExpr.words name).map .identifier ++ later) t after := by
  intro toks spelled
  have identifier : ∃ word, (plain toks).head? = some (.identifier word) := by
    obtain ⟨word, words, split⟩ := List.exists_cons_of_ne_nil (words_ne_nil name)
    exact ⟨word, by rw [spelled, split]; rfl⟩
  obtain ⟨word, head⟩ := identifier
  have parenthesis : Lacks toks (.punct '(') := by simp [Lacks, head]
  have bracket : Lacks toks (.punct '[') := by simp [Lacks, head]
  obtain ⟨rest, ran, spelled⟩ := read toks spelled
  exact ⟨rest, unmarked_eq_ok.2 (.inl ⟨parenthesis, [], toks, attributes_lacking bracket deep, ran⟩),
    spelled⟩

theorem ReadsType.named {name : String} (h : TypeExpr.isTypeName name = true) :
    ReadsType (.named name) := by
  refine .of_unmarked ?_
  intro depth after deep angle long
  have some_word := List.length_pos_iff.2 (words_ne_nil name)
  rw [TypeExpr.tokens, List.length_map] at deep
  rw [TypeExpr.tokens, ← List.append_nil (List.map _ _)]
  refine reads_unmarked_of_single (by omega) ?_
  intro toks spelled
  obtain ⟨depth, rfl⟩ := Nat.exists_eq_add_of_le' (show 1 ≤ depth by omega)
  rw [List.append_nil] at spelled
  obtain ⟨rest, ran, spelled⟩ := reads_typeName h long toks spelled
  exact ⟨rest, singleType_eq_ok.2 ⟨name, rest, ran, .inl ⟨lacks_of_plain spelled angle, rfl, rfl⟩⟩,
    spelled⟩

theorem ReadsType.applied {name : String} {first : TypeExpr} {others : List TypeExpr} {t : TypeExpr}
    (read : ReadsType first) (each : ∀ t ∈ others, ReadsType t)
    (named : TypeExpr.isTypeName name = true)
    (made : ∀ rest, Grammar.applied name (first :: others) rest = .ok (t, rest))
    (spelling : t.tokens = (TypeExpr.words name).map .identifier
      ++ .punct '<' :: (separated (.punct ',') ((first :: others).map TypeExpr.tokens)
      ++ [.punct '>'])) : ReadsType t := by
  refine .of_unmarked ?_
  intro depth after deep _ _
  rw [spelling] at deep ⊢
  simp only [List.length_append, List.length_cons] at deep
  refine reads_unmarked_of_single (by omega) ?_
  intro toks spelled
  obtain ⟨depth, rfl⟩ := Nat.exists_eq_add_of_le' (show 1 ≤ depth by omega)
  simp only [List.append_assoc, List.cons_append] at spelled
  obtain ⟨r₁, called, spelled⟩ := reads_typeName named (by simp) toks spelled
  obtain ⟨r₂, opened, spelled⟩ := takes_of_plain spelled
  obtain ⟨r₃, r₄, r₅, head, tail, closed, spelled⟩ := reads_types depth read each
    (fun t later next => stops_of_head next (by simp) (by simp) (by simp))
    (fun t => stops_of_head rfl (by simp) (by simp) (by simp)) (by simp) (by omega) spelled
  exact ⟨r₅, singleType_eq_ok.2 ⟨name, r₁, called, .inr ⟨r₂, opened, first, r₃, head, others, r₄, tail,
    r₅, closed, made r₅⟩⟩, spelled⟩

-- the recursion follows the type; what a list of types needs is proved beside it
mutual
theorem readsType : ∀ t : TypeExpr, t.isWellFormed = true → ReadsType t
  | .named name, h => by
    rw [TypeExpr.isWellFormed] at h
    exact .named h
  | .sequence element, h => by
    rw [TypeExpr.isWellFormed] at h
    have none_behind : ∀ t ∈ ([] : List TypeExpr), ReadsType t := by simp
    refine .applied (readsType element h) none_behind
      (by decide : TypeExpr.isTypeName "sequence" = true) (fun _ => rfl) ?_
    have word : TypeExpr.words "sequence" = ["sequence"] := by decide
    simp [TypeExpr.tokens, word, separated]
  | .nullable inner, h => by
    rw [TypeExpr.isWellFormed, Bool.and_eq_true, Bool.not_eq_true'] at h
    exact (readsType inner h.2).nullable h.1
  | .union [], h => by
    rw [TypeExpr.isWellFormed] at h
    cases h
  | .union (first :: others), h => by
    rw [TypeExpr.isWellFormed, TypeExpr.areWellFormed] at h
    simp only [List.isEmpty_cons, Bool.not_false, Bool.true_and, Bool.and_eq_true] at h
    exact .union (readsType first h.1) (readsTypes others h.2)
  | .generic name [], h => by
    rw [TypeExpr.isWellFormed] at h
    simp at h
  | .generic name (first :: others), h => by
    rw [TypeExpr.isWellFormed, TypeExpr.areWellFormed] at h
    simp only [List.isEmpty_cons, Bool.not_false, Bool.and_true, Bool.and_eq_true, bne_iff_ne] at h
    obtain ⟨⟨named, other⟩, wf, wfs⟩ := h
    refine .applied (readsType first wf) (readsTypes others wfs) named (by simp [applied, other]) ?_
    rw [TypeExpr.tokens, tokensList_eq_map]
theorem readsTypes : ∀ ts : List TypeExpr, TypeExpr.areWellFormed ts = true →
    ∀ t ∈ ts, ReadsType t
  | first :: _, h, _, .head _ => by
    rw [TypeExpr.areWellFormed, Bool.and_eq_true] at h
    exact readsType first h.1
  | _ :: others, h, t, .tail _ inside => by
    rw [TypeExpr.areWellFormed, Bool.and_eq_true] at h
    exact readsTypes others h.2 t inside
end

/-! ## Values -/

theorem reads_word {word : String × DefaultKind} {after : List Token} (listed : word ∈ valueWords) :
    Reads defaultValue [.identifier word.1] ⟨word.2, word.1⟩ after := by
  intro toks spelled
  obtain ⟨rest, taken, spelled⟩ := takes_of_plain spelled
  exact ⟨rest, defaultValue_eq_ok.2 (.inr (.inr (.inl ⟨word, listed, rfl, taken⟩))), spelled⟩

theorem reads_defaultValue {value : DefaultValue} {after : List Token}
    (h : value.isWellFormed = true) : Reads defaultValue value.tokens value after := by
  obtain ⟨kind, text⟩ := value
  cases kind with
  | string =>
    intro toks spelled
    obtain ⟨rest, taken, spelled⟩ := takes_of_plain spelled
    exact ⟨rest, defaultValue_eq_ok.2 (.inl ⟨text, rfl, taken⟩), spelled⟩
  | number =>
    by_cases digits : isNumber text = true
    · intro toks spelled
      simp only [DefaultValue.tokens, digits, if_true] at spelled
      obtain ⟨rest, taken, spelled⟩ := takes_of_plain spelled
      exact ⟨rest, defaultValue_eq_ok.2 (.inr (.inl ⟨text, rfl, taken⟩)), spelled⟩
    · simp only [DefaultValue.isWellFormed, digits, Bool.false_or, DefaultValue.numberWords,
        List.contains_cons, List.contains_nil, Bool.or_false, Bool.or_eq_true, beq_iff_eq] at h
      simp only [DefaultValue.tokens, digits, Bool.false_eq_true, if_false]
      have listed : (text, DefaultKind.number) ∈ valueWords := by
        rcases h with rfl | rfl | rfl <;> decide
      exact reads_word listed
  | boolean =>
    simp only [DefaultValue.isWellFormed, Bool.or_eq_true, beq_iff_eq] at h
    have listed : (text, DefaultKind.boolean) ∈ valueWords := by
      rcases h with rfl | rfl <;> decide
    exact reads_word listed
  | null =>
    simp only [DefaultValue.isWellFormed, beq_iff_eq] at h
    subst h
    exact reads_word (by decide : ("null", DefaultKind.null) ∈ valueWords)
  | sequence =>
    simp only [DefaultValue.isWellFormed, beq_iff_eq] at h
    subst h
    intro toks spelled
    obtain ⟨r₁, opened, spelled⟩ := takes_of_plain spelled
    obtain ⟨rest, closed, spelled⟩ := takes_of_plain spelled
    exact ⟨rest, defaultValue_eq_ok.2 (.inr (.inr (.inr (.inl ⟨r₁, opened, closed, rfl⟩)))), spelled⟩
  | dictionary =>
    simp only [DefaultValue.isWellFormed, beq_iff_eq] at h
    subst h
    intro toks spelled
    obtain ⟨r₁, opened, spelled⟩ := takes_of_plain spelled
    obtain ⟨rest, closed, spelled⟩ := takes_of_plain spelled
    exact ⟨rest, defaultValue_eq_ok.2 (.inr (.inr (.inr (.inr ⟨r₁, opened, closed, rfl⟩)))), spelled⟩

theorem reads_defaultOption {value : Option DefaultValue} {after : List Token}
    (h : value.all (·.isWellFormed) = true) (ends : value = none → after.head? ≠ some (.punct '=')) :
    Reads defaultOption (DefaultValue.tokensOption value) value after := by
  rw [defaultOption_eq]
  cases value with
  | none => exact reads_none (ends rfl)
  | some value => exact reads_some (reads_defaultValue h)

theorem reads_identifier {name : String} {after : List Token} :
    Reads identifier [.identifier name] name after := by
  intro toks spelled
  obtain ⟨rest, taken, spelled⟩ := takes_of_plain spelled
  exact ⟨rest, identifier_eq_ok.2 taken, spelled⟩

theorem reads_attributeValue {value : AttributeValue} {after : List Token}
    (h : value.isWellFormed = true) (deep : 2 * value.tokens.length ≤ depth) :
    Reads (attributeValue depth) value.tokens value after := by
  intro toks spelled
  cases value with
  | identifier name =>
    obtain ⟨rest, taken, spelled⟩ := takes_of_plain spelled
    exact ⟨rest, attributeValue_eq_ok.2 (.inl (.inl ⟨name, rfl, taken⟩)), spelled⟩
  | string text =>
    obtain ⟨rest, taken, spelled⟩ := takes_of_plain spelled
    exact ⟨rest, attributeValue_eq_ok.2 (.inl (.inr (.inl ⟨text, rfl, taken⟩))), spelled⟩
  | number text =>
    obtain ⟨rest, taken, spelled⟩ := takes_of_plain spelled
    exact ⟨rest, attributeValue_eq_ok.2 (.inl (.inr (.inr ⟨text, rfl, taken⟩))), spelled⟩
  | identifiers names =>
    cases names with
    | nil => simp [AttributeValue.isWellFormed] at h
    | cons name names =>
      simp only [AttributeValue.tokens, List.map_cons, separated, List.length_cons,
        List.length_append] at deep
      simp only [AttributeValue.tokens, List.map_cons, separated, List.cons_append,
        List.append_assoc] at spelled
      obtain ⟨r₁, opened, spelled⟩ := takes_of_plain spelled
      obtain ⟨r₂, first, spelled⟩ := takes_of_plain spelled
      have tail := reads_repeated (by simp : (.punct ')' :: after).head? ≠ some (.punct ',')) names depth
        (fun name _ depth _ _ _ => (reads_identifier : Reads ((fun _ => identifier) depth) _ name _))
        (by omega)
      obtain ⟨r₃, others, spelled⟩ := tail r₂ spelled
      obtain ⟨rest, closed, spelled⟩ := takes_of_plain spelled
      exact ⟨rest, attributeValue_eq_ok.2 (.inr ⟨r₁, opened, name, r₂, first, names, r₃, others, closed,
        rfl⟩), spelled⟩

end IdlBindings.Grammar
