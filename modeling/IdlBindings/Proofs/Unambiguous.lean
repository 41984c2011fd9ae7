/-
# IdlBindings.Proofs.Unambiguous: only unambiguous arguments are read back.

Reading what is written gives the same thing back only if no name was taken for a keyword.  An argument
or an extended attribute that comes out of its own tokens is therefore unambiguous.  The converse is in
`IdlBindings.Proofs.ReadArguments`; what is proved there also says where each part of the tokens ends,
and this is how one goes from one part to the next here.
-/
import IdlBindings.Proofs.ParsedShape
import IdlBindings.Proofs.ReadArguments

namespace IdlBindings.Grammar

open Token (Located plain)

variable {α : Type} {toks rest : List Located} {depth : Nat} {after : List Token}

theorem Reads.unique {p : Parser α} {ts : List Token} {a b : α} (read : Reads p ts a after)
    (spelled : plain toks = ts ++ after) (ran : p toks = .ok (b, rest)) : a = b ∧ plain rest = after := by
  obtain ⟨rest', ran', behind⟩ := read toks spelled
  rw [ran] at ran'
  cases ran'
  exact ⟨rfl, behind⟩

theorem eat_spelled {token : Token} {condition : Bool} (ran : eat token toks = .ok (condition, rest))
    (spelled : plain toks = tokenIf condition token ++ after) :
    plain rest = after ∧ (condition = false → after.head? ≠ some token) := by
  cases condition with
  | false =>
    obtain ⟨rfl, lacks⟩ := eat_false.1 ran
    change plain toks = after at spelled
    rw [Lacks, spelled] at lacks
    exact ⟨spelled, fun _ => lacks⟩
  | true =>
    rw [(eat_true.1 ran).plain] at spelled
    exact ⟨(List.cons.inj spelled).2, by simp⟩

/-! ## Types -/

theorem attributes_of_lacks {as : List ExtendedAttribute} (lacks : Lacks toks (.punct '['))
    (ran : attributes depth toks = .ok (as, rest)) : [] = as ∧ toks = rest := by
  cases depth with
  | zero => cases ran
  | succ depth =>
    rcases attributes_eq_ok.1 ran with ⟨-, none, same⟩ | ⟨r₁, opened, -⟩
    · exact ⟨none, same⟩
    · exact absurd lacks opened.not_lacks

theorem applied_leads {name : String} {ts : List TypeExpr} {t : TypeExpr}
    (h : applied name ts toks = .ok (t, rest)) : t.leadingWord? = some name ∧ t.takesLong = false := by
  unfold applied at h
  rcases ite_eq_ok.1 h with ⟨rfl, h⟩ | ⟨-, h⟩
  · match ts with
    | [element] =>
      obtain ⟨rfl, -⟩ := pure_eq_ok.1 h
      exact ⟨rfl, rfl⟩
    | [] | _ :: _ :: _ => cases h
  · obtain ⟨rfl, -⟩ := pure_eq_ok.1 h
    exact ⟨rfl, rfl⟩

/-- A type that does not start with a parenthesis starts with the name that was read first. -/
theorem type_leads {t : TypeExpr} (lacks : Lacks toks (.punct '['))
    (ran : type depth toks = .ok (t, rest)) :
    (t.leadingWord? = none ∧ t.takesLong = false)
      ∨ ∃ name mid, typeName toks = .ok (name, mid) ∧ t.leadingWord? = some name
        ∧ (t.takesLong = true → t = .named name ∧ mid = rest) := by
  cases depth with
  | zero => cases ran
  | succ depth =>
  obtain ⟨base, mid, read, marked⟩ := type_eq_ok.1 ran
  rcases unmarked_eq_ok.1 read with ⟨-, as, r₁, skipped, single⟩
    | ⟨r₁, opened, first, r₂, head, others, r₃, tail, closed, rfl⟩
  · obtain ⟨-, rfl⟩ := attributes_of_lacks lacks skipped
    cases depth with
    | zero => cases single
    | succ depth =>
    obtain ⟨name, r₂, named, behind⟩ := singleType_eq_ok.1 single
    refine .inr ⟨name, r₂, named, ?_⟩
    have leads : base.leadingWord? = some name
        ∧ (base.takesLong = true → base = .named name ∧ r₂ = mid) := by
      rcases behind with ⟨-, rfl, rfl⟩ | ⟨_, _, _, _, _, _, _, _, _, _, made⟩
      · exact ⟨rfl, fun _ => ⟨rfl, rfl⟩⟩
      · obtain ⟨leads, short⟩ := applied_leads made
        exact ⟨leads, by simp [short]⟩
    rcases marked with ⟨rfl, -, rfl⟩ | ⟨-, rfl⟩
    · exact leads
    · exact ⟨leads.1, fun long => by cases long⟩
  · rcases marked with ⟨-, -, rfl⟩ | ⟨-, rfl⟩ <;> exact .inl ⟨rfl, rfl⟩

/-- A plain word in front of a type is read from the first token. -/
theorem type_leadingWord {t : TypeExpr} {word : String} (plainly : isPlainWord word = true)
    (lacks : Lacks toks (.punct '[')) (ran : type depth toks = .ok (t, rest))
    (leads : t.leadingWord? = some word) : (plain toks).head? = some (.identifier word) := by
  rcases type_leads lacks ran with ⟨none, -⟩ | ⟨name, mid, named, found, -⟩
  · rw [none] at leads
    cases leads
  · obtain rfl : name = word := by
      rw [leads] at found
      exact (Option.some.inj found).symm
    obtain ⟨first, r₁, taken, cases⟩ := typeName_eq_ok.1 named
    rcases cases with ⟨-, ⟨-, rfl⟩ | ⟨_, -, ⟨-, rfl, -⟩ | ⟨-, rfl⟩⟩⟩ | ⟨-, ⟨-, rfl, -⟩ | ⟨-, rfl⟩⟩
      | ⟨-, ⟨-, rfl⟩ | ⟨-, rfl⟩⟩ | ⟨-, -, -, rfl, -⟩
    -- Names of several words do not start with a plain word, so the name is the first token.
    case inr.inr.inr => rw [taken.plain]; rfl
    all_goals exact absurd plainly (by decide)

/-- A type that takes `long` was not followed by one. -/
theorem type_not_long {t : TypeExpr} (ran : type depth toks = .ok (t, rest))
    (spelled : plain toks = t.tokens ++ after) (long : t.takesLong = true) :
    after.head? ≠ some (.identifier "long") := by
  obtain ⟨name, rfl⟩ : ∃ name, t = .named name := by
    cases t with
    | named name => exact ⟨name, rfl⟩
    | _ => cases long
  have named : name = "long" ∨ name = "unsigned long" := by simpa [TypeExpr.takesLong] using long
  rw [TypeExpr.tokens] at spelled
  have lacks : Lacks toks (.punct '[') := by
    obtain ⟨first, others, split⟩ := List.exists_cons_of_ne_nil (words_ne_nil name)
    exact lacks_of_plain spelled (by simp [split])
  rcases type_leads lacks ran with ⟨-, short⟩ | ⟨found, mid, read, leads, ends⟩
  · rw [long] at short
    cases short
  obtain ⟨same, rfl⟩ := ends long
  cases same
  obtain ⟨first, r₁, taken, parts⟩ := typeName_eq_ok.1 read
  rw [taken.plain] at spelled
  -- Only two names take a further `long`, and for both the parser of names has looked for it.
  rcases named with rfl | rfl
  · obtain ⟨head, behind⟩ := List.cons.inj spelled
    obtain rfl : first = "long" := by simpa using head
    obtain ⟨lacks, -⟩ : Lacks r₁ (.identifier "long") ∧ r₁ = mid := by simpa using parts
    rwa [Lacks, behind] at lacks
  · obtain ⟨head, behind⟩ := List.cons.inj spelled
    obtain rfl : first = "unsigned" := by simpa using head
    obtain ⟨taken', lacks⟩ : Takes r₁ (.identifier "long") mid ∧ Lacks mid (.identifier "long") := by
      simpa using parts
    rw [taken'.plain] at behind
    rwa [Lacks, (List.cons.inj behind).2] at lacks

theorem type_name_clear {t : TypeExpr} {name : String} (ran : type depth toks = .ok (t, rest))
    (spelled : plain toks = t.tokens ++ .identifier name :: after) :
    (t.takesLong && name == "long") = false := by
  cases long : t.takesLong with
  | false => rfl
  | true => simpa using type_not_long ran spelled long

/-! ## Arguments and extended attributes -/

/-- At a depth, whatever of these is read from its own tokens is unambiguous.  Extended attributes are
followed to their end even if fewer are read: a dictionary member reads some of them in front of
`required` and the others behind it. -/
structure ClearAt (depth : Nat) : Prop where
  ofArgument : ∀ {a : Argument} {toks rest after}, a.isWellFormed = true →
    2 * a.tokens.length + 1 ≤ depth → plain toks = a.tokens ++ after →
    argument depth toks = .ok (a, rest) → a.isUnambiguous = true
  ofArguments : ∀ {as : List Argument} {toks rest after}, Argument.areWellFormed as = true →
    2 * (Argument.closingTokens as).length ≤ depth → plain toks = Argument.closingTokens as ++ after →
    argumentsTail depth toks = .ok (as, rest) → Argument.areUnambiguous as = true
  ofAttribute : ∀ {a : ExtendedAttribute} {toks rest after}, attributeWellFormed a = true →
    2 * (attributeTokens a).length + 1 ≤ depth → plain toks = attributeTokens a ++ after →
    oneAttribute depth toks = .ok (a, rest) → a.arguments.all Argument.areUnambiguous = true
  ofAttributes : ∀ {as found : List ExtendedAttribute} {toks rest after},
    Argument.attributesWellFormed as = true →
    2 * (bracketedTokens (as.map attributeTokens)).length + 1 ≤ depth →
    plain toks = bracketedTokens (as.map attributeTokens) ++ after →
    attributes depth toks = .ok (found, rest) → found <+: as →
    found = as ∧ Argument.attributesUnambiguous as = true

theorem ClearAt.zero : ClearAt 0 where
  ofArgument _ _ _ ran := by cases ran
  ofArguments _ _ _ ran := by cases ran
  ofAttribute _ _ _ ran := by cases ran
  ofAttributes _ _ _ ran := by cases ran

theorem argument_clear (clear : ClearAt depth) {a : Argument} (wf : a.isWellFormed = true)
    (deep : 2 * a.tokens.length + 1 ≤ depth + 1) (spelled : plain toks = a.tokens ++ after)
    (ran : argument (depth + 1) toks = .ok (a, rest)) : a.isUnambiguous = true := by
  obtain ⟨r₁, attributed, r₂, optioned, r₃, typed, -⟩ := argument_eq_ok.1 ran
  obtain ⟨name, type, optional, variadic, value, as⟩ := a
  rw [Argument.tokens, attributeTokens_eq_map] at deep spelled
  simp only [List.length_append, List.length_cons] at deep
  simp only [List.append_assoc, List.cons_append] at spelled
  rw [Argument.isWellFormed] at wf
  simp only [Bool.and_eq_true] at wf
  obtain ⟨⟨⟨-, wf_type⟩, -⟩, wf_attributes⟩ := wf
  have clear_attributes : Argument.attributesUnambiguous as = true :=
    (clear.ofAttributes wf_attributes (by omega) spelled attributed (List.prefix_refl as)).2
  obtain ⟨-, spelled⟩ := (reads_attributes depth (readsAttributes as wf_attributes clear_attributes)
    (by omega) fun _ => argument_no_bracket _ optional _).unique spelled attributed
  obtain ⟨spelled, not_optional⟩ := eat_spelled optioned spelled
  have keyword : isPlainWord "optional" = true := by decide
  simp only [Argument.isUnambiguous, Bool.and_eq_true, Bool.or_eq_true, bne_iff_ne, Bool.not_eq_true']
  refine ⟨⟨?_, ?_⟩, clear_attributes⟩
  · cases optional with
    | true => exact .inl rfl
    | false =>
      have head := not_optional rfl
      rw [head_type] at head
      exact .inr (mt (tokens_head keyword type).2 head)
  · cases variadic with
    | true => exact .inl rfl
    | false => exact .inr (type_name_clear typed spelled)

theorem arguments_clear (clear : ClearAt depth) {as : List Argument}
    (wf : Argument.areWellFormed as = true) (deep : 2 * (Argument.closingTokens as).length ≤ depth + 1)
    (spelled : plain toks = Argument.closingTokens as ++ after)
    (ran : argumentsTail (depth + 1) toks = .ok (as, rest)) : Argument.areUnambiguous as = true := by
  match as with
  | [] => rw [Argument.areUnambiguous]
  | [a] =>
    rw [closingTokens_one] at deep spelled
    rw [List.length_append] at deep
    rw [List.append_assoc] at spelled
    simp only [Argument.areWellFormed, Bool.and_true] at wf
    obtain ⟨r₁, head⟩ : ∃ r₁, argument depth toks = .ok (a, r₁) := by
      rcases argumentsTail_eq_ok.1 ran with ⟨-, _, r₁, head, ⟨-, -, same⟩ | ⟨_, -, _, -, same⟩⟩ | ⟨-, same⟩
      · cases same
        exact ⟨r₁, head⟩
      · cases same
        exact ⟨r₁, head⟩
      · cases same
    rw [Argument.areUnambiguous, clear.ofArgument wf (by simp at deep; omega) spelled head]
    rfl
  | a :: b :: others =>
    rw [closingTokens_cons_cons] at deep spelled
    simp only [List.length_append, List.length_cons] at deep
    rw [List.append_assoc] at spelled
    rw [Argument.areWellFormed, Bool.and_eq_true] at wf
    rcases argumentsTail_eq_ok.1 ran with ⟨-, _, r₁, head, ⟨-, -, same⟩ | ⟨r₂, comma, _, tail, same⟩⟩
      | ⟨-, same⟩
    · cases same
    · cases same
      have clear_first := clear.ofArgument wf.1 (by omega) spelled head
      obtain ⟨-, behind⟩ := ((readsArgument a wf.1 clear_first).reads depth _ (by omega)
        (by simp)).unique spelled head
      rw [comma.plain] at behind
      have clear_others := clear.ofArguments wf.2 (by omega) (List.cons.inj behind).2 tail
      rw [Argument.areUnambiguous, clear_first, clear_others]
      rfl
    · cases same

theorem attribute_clear (clear : ClearAt depth) {a : ExtendedAttribute}
    (wf : attributeWellFormed a = true) (deep : 2 * (attributeTokens a).length + 1 ≤ depth + 1)
    (spelled : plain toks = attributeTokens a ++ after)
    (ran : oneAttribute (depth + 1) toks = .ok (a, rest)) :
    a.arguments.all Argument.areUnambiguous = true := by
  obtain ⟨name, value, args⟩ := a
  cases args with
  | none => rfl
  | some args =>
    obtain ⟨r₁, named, r₂, valued, called⟩ := oneAttribute_eq_ok.1 ran
    simp only [attributeWellFormed, Bool.and_eq_true] at wf
    simp only [attributeTokens, Option.elim_some, List.length_cons, List.length_append] at deep
    simp only [attributeTokens, Option.elim_some, List.cons_append, List.append_assoc] at spelled
    rw [named.plain] at spelled
    have deep_value : 2 * (AttributeValue.tokensOption value).length ≤ depth := by omega
    obtain ⟨-, spelled⟩ := (reads_valueOption wf.1.2 (by simp) deep_value).unique
      (List.cons.inj spelled).2 valued
    rcases optionally_eq_ok.1 called with ⟨-, same, -⟩ | ⟨r₃, opened, _, read, same⟩
    · cases same
    · cases same
      rw [opened.plain] at spelled
      exact clear.ofArguments wf.2 (by omega) (List.cons.inj spelled).2 read

theorem attributesUnambiguous_iff : ∀ as : List ExtendedAttribute,
    Argument.attributesUnambiguous as = true
      ↔ ∀ a ∈ as, a.arguments.all Argument.areUnambiguous = true
  | [] => by simp [Argument.attributesUnambiguous]
  | ⟨name, value, none⟩ :: as => by
    rw [Argument.attributesUnambiguous, List.forall_mem_cons, ← attributesUnambiguous_iff as]
    simp
  | ⟨name, value, some args⟩ :: as => by
    rw [Argument.attributesUnambiguous, List.forall_mem_cons, ← attributesUnambiguous_iff as]
    simp

theorem readsAttribute {a : ExtendedAttribute} (wf : attributeWellFormed a = true)
    (clear : a.arguments.all Argument.areUnambiguous = true) : ReadsAttribute a := by
  simp only [attributeWellFormed, Bool.and_eq_true] at wf
  refine .of_arguments wf.1.2 ?_
  intro args same
  rw [same] at wf clear
  exact readsArguments args wf.2 clear

/-- One extended attribute is followed to its end, where a comma or the closing bracket stands. -/
theorem attribute_followed (clear : ClearAt depth) {a : ExtendedAttribute} {as : List ExtendedAttribute}
    (wf : attributeWellFormed a = true) (deep : 2 * (attributeTokens a).length + 1 ≤ depth)
    (spelled : plain toks = attributeTokens a
      ++ ((as.map attributeTokens).flatMap (.punct ',' :: ·) ++ .punct ']' :: after))
    (ran : oneAttribute depth toks = .ok (a, rest)) :
    a.arguments.all Argument.areUnambiguous = true
      ∧ plain rest = (as.map attributeTokens).flatMap (.punct ',' :: ·) ++ .punct ']' :: after := by
  have clear_arguments := clear.ofAttribute wf deep spelled ran
  have read := readsAttribute wf clear_arguments depth
    ((as.map attributeTokens).flatMap (.punct ',' :: ·) ++ .punct ']' :: after) deep
    (by cases as <;> simp) (by cases as <;> simp)
  exact ⟨clear_arguments, (read.unique spelled ran).2⟩

/-- Extended attributes behind commas are followed to the closing bracket, one by one. -/
theorem attributesTail_clear : ∀ {depth : Nat} {as found : List ExtendedAttribute}
    {toks rest : List Located}, (∀ d, d < depth → ClearAt d) →
    (∀ a ∈ as, attributeWellFormed a = true) →
    2 * ((as.map attributeTokens).flatMap (.punct ',' :: ·)).length + 1 ≤ depth →
    plain toks = (as.map attributeTokens).flatMap (.punct ',' :: ·) ++ .punct ']' :: after →
    repeated (.punct ',') oneAttribute depth toks = .ok (found, rest) → found <+: as →
    found = as ∧ ∀ a ∈ as, a.arguments.all Argument.areUnambiguous = true
  | 0, _, _, _, _, _, _, _, _, ran, _ => by cases ran
  | depth + 1, [], found, toks, rest, _, _, _, _, _, front => ⟨List.prefix_nil.1 front, by simp⟩
  | depth + 1, a :: as, found, toks, rest, clear, wf, deep, spelled, ran, front => by
    simp only [List.map_cons, List.flatMap_cons, List.cons_append, List.length_cons,
      List.length_append] at deep
    simp only [List.map_cons, List.flatMap_cons, List.cons_append, List.append_assoc] at spelled
    rw [List.forall_mem_cons] at wf
    rcases repeated_eq_ok.1 ran with ⟨lacks, -, -⟩ | ⟨r₁, comma, first, r₂, head, others, tail, rfl⟩
    · rw [Lacks, spelled] at lacks
      simp at lacks
    · obtain ⟨rfl, front_others⟩ := List.cons_prefix_cons.1 front
      rw [comma.plain] at spelled
      obtain ⟨-, spelled⟩ := List.cons.inj spelled
      obtain ⟨clear_first, spelled⟩ := attribute_followed (clear depth (by omega)) wf.1 (by omega) spelled
        head
      obtain ⟨rfl, clear_others⟩ := attributesTail_clear (fun d less => clear d (by omega)) wf.2
        (by omega) spelled tail front_others
      exact ⟨rfl, List.forall_mem_cons.2 ⟨clear_first, clear_others⟩⟩

theorem attributes_clear (clear : ∀ d, d ≤ depth → ClearAt d) {as found : List ExtendedAttribute}
    (wf : Argument.attributesWellFormed as = true)
    (deep : 2 * (bracketedTokens (as.map attributeTokens)).length + 1 ≤ depth + 1)
    (spelled : plain toks = bracketedTokens (as.map attributeTokens) ++ after)
    (ran : attributes (depth + 1) toks = .ok (found, rest)) (front : found <+: as) :
    found = as ∧ Argument.attributesUnambiguous as = true := by
  rw [attributesUnambiguous_iff]
  rw [attributesWellFormed_iff] at wf
  cases as with
  | nil => exact ⟨List.prefix_nil.1 front, by simp⟩
  | cons a as =>
    simp only [bracketedTokens, List.map_cons, List.isEmpty_cons, Bool.false_eq_true, if_false,
      separated, List.length_cons, List.length_append] at deep
    simp only [bracketedTokens, List.map_cons, List.isEmpty_cons, Bool.false_eq_true, if_false,
      separated, List.cons_append, List.append_assoc] at spelled
    rw [List.forall_mem_cons] at wf
    rcases attributes_eq_ok.1 ran with ⟨lacks, -, -⟩ | ⟨r₁, opened, first, r₂, head, others, r₃, tail, -, rfl⟩
    · rw [Lacks, spelled] at lacks
      simp at lacks
    · obtain ⟨rfl, front_others⟩ := List.cons_prefix_cons.1 front
      rw [opened.plain] at spelled
      obtain ⟨-, spelled⟩ := List.cons.inj spelled
      obtain ⟨clear_first, spelled⟩ := attribute_followed (clear depth (by omega)) wf.1 (by omega) spelled
        head
      obtain ⟨rfl, clear_others⟩ := attributesTail_clear (fun d less => clear d (by omega)) wf.2
        (by omega) spelled tail front_others
      exact ⟨rfl, List.forall_mem_cons.2 ⟨clear_first, clear_others⟩⟩

theorem clearAt (depth : Nat) : ClearAt depth := by
  induction depth using Nat.strongRecOn with
  | ind depth ih =>
    cases depth with
    | zero => exact .zero
    | succ depth =>
      have here := ih depth (by omega)
      exact
        { ofArgument := argument_clear here
          ofArguments := arguments_clear here
          ofAttribute := attribute_clear here
          ofAttributes := attributes_clear fun d le => ih d (by omega) }

end IdlBindings.Grammar
