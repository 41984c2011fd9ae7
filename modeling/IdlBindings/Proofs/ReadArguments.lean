/-
# IdlBindings.Proofs.ReadArguments: arguments and extended attributes are read back.

Arguments carry extended attributes and extended attributes carry arguments, so the results are proved
together, by recursion on the data.
-/
import IdlBindings.Proofs.ReadTypes

namespace IdlBindings.Grammar

open Token (Located plain isIdentifier)

variable {toks rest : List Located} {depth : Nat}

/-! ## The first token of a type -/

/-- Whether a word neither is a built-in name of several words nor begins one. -/
def isPlainWord (word : String) : Bool :=
  TypeExpr.phrases.all fun entry => entry.1 != word && entry.2.head? != some word

theorem words_head (name : String) {word : String} (h : isPlainWord word = true) :
    (TypeExpr.words name).head? = some word ↔ name = word := by
  cases found : TypeExpr.phrases.lookup name with
  | none => simp [TypeExpr.words, found]
  | some several =>
    have listed := mem_of_lookup found
    have differs := List.all_eq_true.1 h _ listed
    simp only [Bool.and_eq_true, bne_iff_ne] at differs
    simp [TypeExpr.words, found, differs.1, differs.2]

/-- A type starts with a keyword exactly if the word that it starts with is that keyword. -/
theorem tokens_head {word : String} (h : isPlainWord word = true) : ∀ t : TypeExpr,
    t.tokens.head? = some (.identifier word) ↔ t.leadingWord? = some word
  | .named name => by
    rw [TypeExpr.tokens, TypeExpr.leadingWord?, List.head?_map]
    simpa using words_head name h
  | .sequence element => by simp [TypeExpr.tokens, TypeExpr.leadingWord?]
  | .nullable inner => by
    rw [TypeExpr.tokens, TypeExpr.leadingWord?, ← tokens_head h inner]
    cases inner.tokens <;> simp
  | .union members => by simp [TypeExpr.tokens, TypeExpr.leadingWord?]
  | .generic name arguments => by
    obtain ⟨first, others, split⟩ := List.exists_cons_of_ne_nil (words_ne_nil name)
    have head := words_head name h
    rw [TypeExpr.tokens, TypeExpr.leadingWord?]
    simpa [split] using head

/-- A type starts with a word or a parenthesis. -/
theorem tokens_head_cases : ∀ t : TypeExpr,
    t.tokens.head? = some (.punct '(') ∨ ∃ word, t.tokens.head? = some (.identifier word)
  | .named name => by
    obtain ⟨first, others, split⟩ := List.exists_cons_of_ne_nil (words_ne_nil name)
    exact .inr ⟨first, by simp [TypeExpr.tokens, split]⟩
  | .sequence element => .inr ⟨"sequence", by simp [TypeExpr.tokens]⟩
  | .nullable inner => by
    rw [TypeExpr.tokens]
    rcases tokens_head_cases inner with head | ⟨word, head⟩
    · exact .inl (by simp [head])
    · exact .inr ⟨word, by simp [head]⟩
  | .union members => .inl (by simp [TypeExpr.tokens])
  | .generic name arguments => by
    obtain ⟨first, others, split⟩ := List.exists_cons_of_ne_nil (words_ne_nil name)
    exact .inr ⟨first, by simp [TypeExpr.tokens, split]⟩

theorem head_type (t : TypeExpr) (after : List Token) :
    (t.tokens ++ after).head? = t.tokens.head? := by
  rcases tokens_head_cases t with found | ⟨word, found⟩ <;> simp [found]

theorem type_no_bracket (t : TypeExpr) (after : List Token) :
    (t.tokens ++ after).head? ≠ some (.punct '[') := by
  rw [head_type]
  rcases tokens_head_cases t with found | ⟨word, found⟩ <;> simp [found]

/-! ## Lists as lists -/

/-- The tokens of an extended attribute. -/
def attributeTokens (a : ExtendedAttribute) : List Token :=
  .identifier a.name :: (AttributeValue.tokensOption a.value
    ++ a.arguments.elim [] fun arguments => .punct '(' :: Argument.closingTokens arguments)

theorem attributeTokens_eq_map : ∀ as : List ExtendedAttribute,
    Argument.attributeTokens as = as.map attributeTokens
  | [] => by rw [Argument.attributeTokens, List.map_nil]
  | ⟨name, value, none⟩ :: as => by
    rw [Argument.attributeTokens, attributeTokens_eq_map as]
    simp [attributeTokens]
  | ⟨name, value, some arguments⟩ :: as => by
    rw [Argument.attributeTokens, attributeTokens_eq_map as]
    simp [attributeTokens, Argument.closingTokens]

theorem argumentTokens_eq_map (as : List Argument) :
    Argument.tokensList as = as.map Argument.tokens := by
  induction as with
  | nil => rw [Argument.tokensList, List.map_nil]
  | cons a as ih => rw [Argument.tokensList, List.map_cons, ih]

theorem closingTokens_one (a : Argument) :
    Argument.closingTokens [a] = a.tokens ++ [.punct ')'] := by
  simp [Argument.closingTokens, argumentTokens_eq_map, separated]

theorem closingTokens_cons_cons (a b : Argument) (as : List Argument) :
    Argument.closingTokens (a :: b :: as)
      = a.tokens ++ .punct ',' :: Argument.closingTokens (b :: as) := by
  simp [Argument.closingTokens, argumentTokens_eq_map, separated]

/-! ## Reading -/

/-- An argument is read from its tokens, and is not taken for the end of a list. -/
structure ReadsArgument (a : Argument) : Prop where
  starts : ∃ token, a.tokens.head? = some token ∧ token ≠ .punct ')'
  reads : ∀ depth after, 2 * a.tokens.length + 1 ≤ depth → after.head? ≠ some (.punct '=') →
    Reads (argument depth) a.tokens a after

/-- An extended attribute is read from its tokens. -/
def ReadsAttribute (a : ExtendedAttribute) : Prop :=
  ∀ depth after, 2 * (attributeTokens a).length + 1 ≤ depth → after.head? ≠ some (.punct '=') →
    after.head? ≠ some (.punct '(') → Reads (oneAttribute depth) (attributeTokens a) a after

theorem ReadsArgument.lacks {a : Argument} {after : List Token} (h : ReadsArgument a)
    (spelled : plain toks = a.tokens ++ after) : Lacks toks (.punct ')') := by
  obtain ⟨token, head, differs⟩ := h.starts
  refine lacks_of_plain spelled ?_
  simp [head, differs]

theorem reads_argumentsTail {after : List Token} : ∀ (as : List Argument) (depth : Nat),
    (∀ a ∈ as, ReadsArgument a) → 2 * (Argument.closingTokens as).length ≤ depth →
    Reads (argumentsTail depth) (Argument.closingTokens as) as after
  -- the last argument stands apart: no comma is read behind it
  | _, 0, _, deep => by simp [Argument.closingTokens] at deep
  | [], depth + 1, _, _ => by
    intro toks spelled
    obtain ⟨rest, closed, spelled⟩ := takes_of_plain spelled
    exact ⟨rest, argumentsTail_eq_ok.2 (.inr ⟨closed, rfl⟩), spelled⟩
  | [a], depth + 1, each, deep => by
    rw [closingTokens_one] at deep ⊢
    simp only [List.length_append, List.length_cons] at deep
    intro toks spelled
    rw [List.append_assoc] at spelled
    have read := each a (by simp)
    obtain ⟨r₁, first, behind⟩ := read.reads depth _ (by omega) (by simp) toks spelled
    obtain ⟨rest, closed, ended⟩ := takes_of_plain behind
    exact ⟨rest, argumentsTail_eq_ok.2 (.inl ⟨read.lacks spelled, a, r₁, first,
      .inl ⟨closed.lacks _ (by simp), closed, rfl⟩⟩), ended⟩
  | a :: b :: as, depth + 1, each, deep => by
    rw [closingTokens_cons_cons] at deep ⊢
    simp only [List.length_append, List.length_cons] at deep
    intro toks spelled
    rw [List.append_assoc] at spelled
    have read := each a (by simp)
    obtain ⟨r₁, first, behind⟩ := read.reads depth _ (by omega) (by simp) toks spelled
    obtain ⟨r₂, comma, behind⟩ := takes_of_plain behind
    obtain ⟨rest, others, ended⟩ := reads_argumentsTail (b :: as) depth
      (fun a inside => each a (List.mem_cons_of_mem _ inside)) (by omega) r₂ behind
    exact ⟨rest, argumentsTail_eq_ok.2 (.inl ⟨read.lacks spelled, a, r₁, first,
      .inr ⟨r₂, comma, b :: as, others, rfl⟩⟩), ended⟩

/-- Extended attributes in brackets are read; where there are none, no bracket may follow. -/
theorem reads_attributes (depth : Nat) {as : List ExtendedAttribute} {after : List Token}
    (each : ∀ a ∈ as, ReadsAttribute a)
    (deep : 2 * (bracketedTokens (as.map attributeTokens)).length + 1 ≤ depth)
    (ends : as = [] → after.head? ≠ some (.punct '[')) :
    Reads (attributes depth) (bracketedTokens (as.map attributeTokens)) as after := by
  intro toks spelled
  obtain ⟨depth, rfl⟩ := Nat.exists_eq_add_of_le' (show 1 ≤ depth by omega)
  cases as with
  | nil =>
    exact ⟨toks, attributes_eq_ok.2 (.inl ⟨lacks_of_plain spelled (ends rfl), rfl, rfl⟩), spelled⟩
  | cons a as =>
    simp only [bracketedTokens, List.map_cons, List.isEmpty_cons, Bool.false_eq_true, if_false,
      separated, List.length_cons, List.length_append] at deep
    simp only [bracketedTokens, List.map_cons, List.isEmpty_cons, Bool.false_eq_true, if_false,
      separated, List.cons_append, List.append_assoc] at spelled
    obtain ⟨r₁, opened, spelled⟩ := takes_of_plain spelled
    -- a comma or the bracket ends an attribute: neither starts a right side or arguments
    have follows : ∀ later : List Token, (later.head? = some (.punct ',') ∨ later = .punct ']' :: after) →
        later.head? ≠ some (.punct '=') ∧ later.head? ≠ some (.punct '(') := by
      rintro later (next | rfl)
      · simp [next]
      · simp
    have next : ((as.map attributeTokens).flatMap (.punct ',' :: ·) ++ .punct ']' :: after).head?
          = some (.punct ',')
        ∨ (as.map attributeTokens).flatMap (.punct ',' :: ·) ++ .punct ']' :: after
          = .punct ']' :: after := by
      cases as <;> simp
    obtain ⟨r₂, first, spelled⟩ := each a (by simp) depth _ (by omega) (follows _ next).1
      (follows _ next).2 r₁ spelled
    have tail := reads_repeated (by simp : (.punct ']' :: after).head? ≠ some (.punct ',')) as depth
      (fun a inside depth later enough next => each a (List.mem_cons_of_mem _ inside) depth later enough
        (follows later next).1 (follows later next).2) (by omega)
    obtain ⟨r₃, others, spelled⟩ := tail r₂ spelled
    obtain ⟨rest, closed, spelled⟩ := takes_of_plain spelled
    exact ⟨rest, attributes_eq_ok.2 (.inr ⟨r₁, opened, a, r₂, first, as, r₃, others, closed, rfl⟩),
      spelled⟩

theorem reads_valueOption {value : Option AttributeValue} {after : List Token}
    (wf : value.all (·.isWellFormed) = true)
    (ends : value = none → after.head? ≠ some (.punct '='))
    (deep : 2 * (AttributeValue.tokensOption value).length ≤ depth) :
    Reads (optionally (.punct '=') (attributeValue depth)) (AttributeValue.tokensOption value) value
      after := by
  cases value with
  | none => exact reads_none (ends rfl)
  | some value =>
    simp only [AttributeValue.tokensOption, List.length_cons] at deep
    exact reads_some (reads_attributeValue wf (by omega))

theorem ReadsAttribute.of_arguments {a : ExtendedAttribute}
    (value : a.value.all (·.isWellFormed) = true)
    (each : ∀ args, a.arguments = some args → ∀ b ∈ args, ReadsArgument b) : ReadsAttribute a := by
  intro depth after deep equals parenthesis toks spelled
  obtain ⟨name, right, args⟩ := a
  simp only [attributeTokens, List.length_cons, List.length_append] at deep
  simp only [attributeTokens, List.cons_append, List.append_assoc] at spelled
  obtain ⟨depth, rfl⟩ := Nat.exists_eq_add_of_le' (show 1 ≤ depth by omega)
  obtain ⟨r₁, named, spelled⟩ := takes_of_plain spelled
  have no_equals : (args.elim [] (fun as => .punct '(' :: Argument.closingTokens as) ++ after).head?
      ≠ some (.punct '=') := by
    cases args with
    | none => exact equals
    | some as => simp
  have deep_value : 2 * (AttributeValue.tokensOption right).length ≤ depth := by omega
  have reads_value := reads_valueOption value (fun _ => no_equals) deep_value
  have reads_arguments : Reads (optionally (.punct '(') (argumentsTail depth))
      (args.elim [] (fun as => .punct '(' :: Argument.closingTokens as)) args after := by
    cases args with
    | none => exact reads_none parenthesis
    | some as =>
      refine reads_some (reads_argumentsTail as depth (each as rfl) ?_)
      simp only [Option.elim_some, List.length_cons] at deep
      omega
  obtain ⟨r₂, valued, spelled⟩ := reads_value r₁ spelled
  obtain ⟨rest, called, spelled⟩ := reads_arguments r₂ spelled
  exact ⟨rest, oneAttribute_eq_ok.2 ⟨r₁, named, r₂, valued, called⟩, spelled⟩

/-- What stands behind the type of an argument ends the type. -/
theorem stops_argument {name : String} {type : TypeExpr} {variadic : Bool} {after : List Token}
    (clear : (variadic || !(type.takesLong && name == "long")) = true) :
    Stops type (tokenIf variadic .ellipsis ++ .identifier name :: after) := by
  cases variadic with
  | true => exact stops_of_head rfl (by simp) (by simp) (by simp)
  | false =>
    refine ⟨by simp [tokenIf], by simp [tokenIf], ?_⟩
    intro long
    simpa [tokenIf, long] using clear

/-- What stands in front of the name of an argument does not start with a bracket or the end of a
list. -/
theorem argument_starts (type : TypeExpr) (optional : Bool) (after : List Token) : ∃ token,
      (tokenIf optional (.identifier "optional") ++ (type.tokens ++ after)).head? = some token
        ∧ token ≠ .punct ')' ∧ token ≠ .punct '[' := by
  cases optional with
  | true => exact ⟨.identifier "optional", rfl, by simp, by simp⟩
  | false =>
    rcases tokens_head_cases type with head | ⟨word, head⟩
    · exact ⟨.punct '(', by simp [tokenIf, head], by simp, by simp⟩
    · exact ⟨.identifier word, by simp [tokenIf, head], by simp, by simp⟩

theorem argument_no_bracket (type : TypeExpr) (optional : Bool) (after : List Token) :
    (tokenIf optional (.identifier "optional") ++ (type.tokens ++ after)).head?
      ≠ some (.punct '[') := by
  obtain ⟨token, head, -, differs⟩ := argument_starts type optional after
  rw [head]
  simpa using differs

theorem ReadsArgument.of_attributes {a : Argument} (wf : a.isWellFormed = true)
    (clear : a.isUnambiguous = true) (each : ∀ b ∈ a.attributes, ReadsAttribute b) :
    ReadsArgument a := by
  obtain ⟨name, type, optional, variadic, value, as⟩ := a
  rw [Argument.isWellFormed] at wf
  rw [Argument.isUnambiguous] at clear
  simp only [Bool.and_eq_true] at wf clear
  obtain ⟨⟨⟨-, wf_type⟩, wf_value⟩, -⟩ := wf
  obtain ⟨⟨not_optional, not_long⟩, -⟩ := clear
  have starts := argument_starts type optional
  change ∀ b ∈ as, ReadsAttribute b at each
  constructor
  · rw [Argument.tokens, attributeTokens_eq_map]
    cases as with
    | nil =>
      obtain ⟨token, head, differs, -⟩ := starts (tokenIf variadic .ellipsis
        ++ .identifier name :: DefaultValue.tokensOption value)
      exact ⟨token, by simpa [bracketedTokens] using head, differs⟩
    | cons b bs => exact ⟨.punct '[', by simp [bracketedTokens], by simp⟩
  · intro depth after deep equals toks spelled
    rw [Argument.tokens, attributeTokens_eq_map] at deep spelled
    simp only [List.length_append, List.length_cons] at deep
    simp only [List.append_assoc, List.cons_append] at spelled
    obtain ⟨depth, rfl⟩ := Nat.exists_eq_add_of_le' (show 1 ≤ depth by omega)
    -- a type that starts with `optional` would be taken for the keyword
    have not_keyword : optional = false → (type.tokens ++ (tokenIf variadic .ellipsis
        ++ .identifier name :: (DefaultValue.tokensOption value ++ after))).head?
        ≠ some (.identifier "optional") := by
      rintro rfl
      have keyword : isPlainWord "optional" = true := by decide
      have head := mt (tokens_head keyword type).1 (by simpa using not_optional)
      rcases tokens_head_cases type with found | ⟨word, found⟩ <;> simp_all
    obtain ⟨r₁, attributed, spelled⟩ := reads_attributes depth each (by omega)
      (fun _ => argument_no_bracket _ optional _) toks spelled
    obtain ⟨r₂, optioned, spelled⟩ := reads_eat optional not_keyword r₁ spelled
    obtain ⟨r₃, typed, spelled⟩ := (readsType type wf_type).type depth _ (by omega)
      (stops_argument not_long) r₂ spelled
    obtain ⟨r₄, repeats, spelled⟩ := reads_eat variadic (by simp) r₃ spelled
    obtain ⟨r₅, named, spelled⟩ := takes_of_plain spelled
    obtain ⟨rest, valued, spelled⟩ := reads_defaultOption wf_value (fun _ => equals) r₅ spelled
    exact ⟨rest, argument_eq_ok.2 ⟨r₁, attributed, r₂, optioned, r₃, typed, r₄, repeats, r₅, named,
      valued⟩, spelled⟩

mutual
theorem readsArgument : ∀ a : Argument, a.isWellFormed = true → a.isUnambiguous = true →
    ReadsArgument a
  | ⟨name, type, optional, variadic, value, as⟩, wf, clear => by
    have inner_wf := wf
    have inner_clear := clear
    rw [Argument.isWellFormed, Bool.and_eq_true] at inner_wf
    rw [Argument.isUnambiguous, Bool.and_eq_true] at inner_clear
    exact .of_attributes wf clear (readsAttributes as inner_wf.2 inner_clear.2)
theorem readsAttributes : ∀ as : List ExtendedAttribute, Argument.attributesWellFormed as = true →
    Argument.attributesUnambiguous as = true → ∀ a ∈ as, ReadsAttribute a
  | ⟨name, value, none⟩ :: as, wf, clear, a, inside => by
    rw [Argument.attributesWellFormed] at wf
    rw [Argument.attributesUnambiguous] at clear
    simp only [Bool.and_eq_true] at wf
    cases inside with
    | head => exact .of_arguments wf.1.2 (by simp)
    | tail _ inside => exact readsAttributes as wf.2 clear a inside
  | ⟨name, value, some args⟩ :: as, wf, clear, a, inside => by
    rw [Argument.attributesWellFormed] at wf
    rw [Argument.attributesUnambiguous] at clear
    simp only [Bool.and_eq_true] at wf clear
    cases inside with
    | head =>
      refine .of_arguments wf.1.1.2 ?_
      rintro _ ⟨⟩
      exact readsArguments args wf.1.2 clear.1
    | tail _ inside => exact readsAttributes as wf.2 clear.2 a inside
theorem readsArguments : ∀ as : List Argument, Argument.areWellFormed as = true →
    Argument.areUnambiguous as = true → ∀ a ∈ as, ReadsArgument a
  | first :: as, wf, clear, a, inside => by
    rw [Argument.areWellFormed, Bool.and_eq_true] at wf
    rw [Argument.areUnambiguous, Bool.and_eq_true] at clear
    cases inside with
    | head => exact readsArgument first wf.1 clear.1
    | tail _ inside => exact readsArguments as wf.2 clear.2 a inside
end

end IdlBindings.Grammar
