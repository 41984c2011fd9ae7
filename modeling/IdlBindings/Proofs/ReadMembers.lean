/-
# IdlBindings.Proofs.ReadMembers: members are read back.

The grammar finds out what a member is by looking for keywords, one after the other.  So for each kind
of member there are two things to show: the keywords that are looked for earlier do not come next, and
what stands behind the member's own keyword is read.
-/
import IdlBindings.Proofs.ReadArguments

namespace IdlBindings.Grammar

open Token (Located plain isIdentifier)

variable {toks rest : List Located} {depth : Nat}

/-! ## Behind the keyword -/

section Bodies

variable {type : TypeExpr} {name : String} {after : List Token}

/-- Behind the type of a member stands its name, which is not taken for a part of the type. -/
theorem stops_name {later : List Token} (clear : (type.takesLong && name == "long") = false) :
    Stops type (.identifier name :: later) := by
  refine ⟨by simp, by simp, ?_⟩
  intro long
  simpa [long] using clear

theorem reads_constant {value : DefaultValue} (typed : type.isWellFormed = true)
    (valued : value.isWellFormed = true) (clear : (type.takesLong && name == "long") = false)
    (deep : 2 * type.tokens.length + 1 ≤ depth) :
    Reads (constant depth)
      (type.tokens ++ .identifier name :: .punct '=' :: (value.tokens ++ [.punct ';']))
      { kind := .const, name, type, defaultValue := some value } after := by
  intro toks spelled
  simp only [List.append_assoc, List.cons_append] at spelled
  obtain ⟨r₁, first, spelled⟩ := (readsType type typed).type depth _ deep (stops_name clear) toks spelled
  obtain ⟨r₂, second, spelled⟩ := takes_of_plain spelled
  obtain ⟨r₃, third, spelled⟩ := takes_of_plain spelled
  obtain ⟨r₄, fourth, spelled⟩ := reads_defaultValue valued r₃ spelled
  obtain ⟨rest, ended, spelled⟩ := takes_of_plain spelled
  exact ⟨rest, constant_eq_ok.2 ⟨type, r₁, first, name, r₂, second, r₃, third, value, r₄, fourth, ended,
    rfl⟩, spelled⟩

theorem reads_field {required : Bool} {value : Option DefaultValue}
    (typed : type.isWellFormed = true) (valued : value.all (·.isWellFormed) = true)
    (clear : (type.takesLong && name == "long") = false)
    (unlike : (required || type.leadingWord? != some "required") = true)
    (deep : 2 * type.tokens.length + 1 ≤ depth) :
    Reads (field depth)
      (tokenIf required (.identifier "required") ++ (type.tokens
        ++ .identifier name :: (DefaultValue.tokensOption value ++ [.punct ';'])))
      { kind := .field, name, type, required, defaultValue := value } after := by
  intro toks spelled
  simp only [List.append_assoc, List.cons_append] at spelled
  have not_keyword : required = false → (type.tokens ++ .identifier name
      :: (DefaultValue.tokensOption value ++ .punct ';' :: after)).head?
      ≠ some (.identifier "required") := by
    rintro rfl
    have keyword : isPlainWord "required" = true := by decide
    have head := mt (tokens_head keyword type).1 (by simpa using unlike)
    rcases tokens_head_cases type with found | ⟨word, found⟩ <;> simp_all
  obtain ⟨r₁, marked, spelled⟩ := reads_eat required not_keyword toks spelled
  have no_bracket : Lacks r₁ (.punct '[') := by
    refine lacks_of_plain spelled ?_
    rcases tokens_head_cases type with found | ⟨word, found⟩ <;> simp [found]
  obtain ⟨r₂, first, spelled⟩ := (readsType type typed).type depth _ deep (stops_name clear) r₁ spelled
  obtain ⟨r₃, second, spelled⟩ := takes_of_plain spelled
  obtain ⟨r₄, third, spelled⟩ := reads_defaultOption valued (by simp) r₃ spelled
  obtain ⟨rest, ended, spelled⟩ := takes_of_plain spelled
  exact ⟨rest, field_eq_ok.2 ⟨required, r₁, marked, [], r₁, attributes_lacking no_bracket (by omega),
    type, r₂, first, name, r₃, second, value, r₄, third, ended, rfl⟩, spelled⟩

theorem reads_parenthesized {as : List Argument} (wf : Argument.areWellFormed as = true)
    (clear : Argument.areUnambiguous as = true)
    (deep : 2 * (Argument.closingTokens as).length ≤ depth) :
    Reads (arguments depth) (.punct '(' :: Argument.closingTokens as) as after := by
  intro toks spelled
  obtain ⟨r₁, opened, spelled⟩ := takes_of_plain spelled
  obtain ⟨rest, ran, spelled⟩ := reads_argumentsTail as depth (readsArguments as wf clear) deep r₁ spelled
  exact ⟨rest, arguments_eq_ok.2 ⟨r₁, opened, ran⟩, spelled⟩

theorem reads_constructorOf {owner : String} {as : List Argument}
    (wf : Argument.areWellFormed as = true) (clear : Argument.areUnambiguous as = true)
    (deep : 2 * (Argument.closingTokens as).length ≤ depth) :
    Reads (constructorOf owner depth) (.punct '(' :: (Argument.closingTokens as ++ [.punct ';']))
      { kind := .constructor, name := "constructor", type := .named owner, arguments := as } after := by
  intro toks spelled
  rw [List.cons_append, List.append_assoc, ← List.cons_append] at spelled
  obtain ⟨r₁, ran, spelled⟩ := reads_parenthesized wf clear deep toks spelled
  obtain ⟨rest, ended, spelled⟩ := takes_of_plain spelled
  exact ⟨rest, constructorOf_eq_ok.2 ⟨as, r₁, ran, ended, rfl⟩, spelled⟩

variable {ms : Modifiers}

theorem reads_property (typed : type.isWellFormed = true)
    (clear : (type.takesLong && name == "long") = false)
    (deep : 2 * type.tokens.length + 1 ≤ depth) :
    Reads (property ms depth) (type.tokens ++ [.identifier name, .punct ';'])
      { kind := .property, name, type, readonly := ms.readonly, isStatic := ms.isStatic,
        specials := ms.specials } after := by
  intro toks spelled
  rw [List.append_assoc] at spelled
  obtain ⟨r₁, first, spelled⟩ := (readsType type typed).type depth _ deep (stops_name clear) toks spelled
  obtain ⟨r₂, second, spelled⟩ := takes_of_plain spelled
  obtain ⟨rest, ended, spelled⟩ := takes_of_plain spelled
  exact ⟨rest, property_eq_ok.2 ⟨type, r₁, first, name, r₂, second, ended, rfl⟩, spelled⟩

theorem reads_collection {kind : MemberKind} {keyword : String} {keyType : Option TypeExpr}
    (typed : type.isWellFormed = true) (keyed : keyType.all (·.isWellFormed) = true)
    (deep : 2 * type.tokens.length + 1 ≤ depth)
    (deep_key : ∀ key ∈ keyType, 2 * key.tokens.length + 1 ≤ depth) :
    Reads (collection kind keyword ms depth)
      (keyType.elim [] (fun key => key.tokens ++ [.punct ',']) ++ (type.tokens
        ++ [.punct '>', .punct ';']))
      { kind, name := keyword, type, keyType, required := true, readonly := ms.readonly } after := by
  intro toks spelled
  have closes : ∀ t : TypeExpr, Stops t (.punct '>' :: .punct ';' :: after) :=
    fun t => stops_of_head rfl (by simp) (by simp) (by simp)
  cases keyType with
  | none =>
    rw [Option.elim_none, List.nil_append, List.append_assoc] at spelled
    obtain ⟨r₁, first, spelled⟩ := (readsType type typed).type depth _ deep (closes type) toks spelled
    obtain ⟨r₂, closed, behind⟩ := takes_of_plain spelled
    obtain ⟨rest, ended, behind⟩ := takes_of_plain behind
    exact ⟨rest, collection_eq_ok.2 ⟨type, r₁, first, none, r₁, optionally_eq_ok.2
      (.inl ⟨lacks_of_plain spelled (by simp), rfl, rfl⟩), r₂, closed, ended, rfl⟩, behind⟩
  | some key =>
    rw [Option.elim_some, List.append_assoc, List.append_assoc, List.append_assoc] at spelled
    obtain ⟨r₁, first, spelled⟩ := (readsType key keyed).type depth _ (deep_key key rfl)
      (stops_of_head rfl (by simp) (by simp) (by simp)) toks spelled
    have value := (readsType type typed).type depth _ deep (closes type)
    obtain ⟨r₂, second, spelled⟩ := reads_some value r₁ spelled
    obtain ⟨r₃, closed, spelled⟩ := takes_of_plain spelled
    obtain ⟨rest, ended, spelled⟩ := takes_of_plain spelled
    exact ⟨rest, collection_eq_ok.2 ⟨key, r₁, first, some type, r₂, second, r₃, closed, ended, rfl⟩,
      spelled⟩

/-- Behind the type of an operation stands its name, or its arguments. -/
theorem stops_operation {later : List Token} (clear : (type.takesLong && name == "long") = false) :
    Stops type ((if name.isEmpty then [] else [.identifier name]) ++ .punct '(' :: later) := by
  by_cases empty : name.isEmpty = true
  · rw [if_pos empty]
    exact stops_of_head rfl (by simp) (by simp) (by simp)
  · rw [if_neg empty]
    exact stops_name clear

theorem reads_optionalName {later : List Token} :
    Reads optionalName (if name.isEmpty then [] else [.identifier name]) name (.punct '(' :: later) := by
  intro toks spelled
  by_cases empty : name.isEmpty = true
  · rw [if_pos empty] at spelled
    refine ⟨toks, optionalName_eq_ok.2 (.inr ⟨?_, rfl, ?_⟩), spelled⟩
    · intro word
      exact lacks_of_plain spelled (by simp)
    · exact (String.isEmpty_iff.1 empty).symm
  · rw [if_neg empty] at spelled
    obtain ⟨rest, taken, spelled⟩ := takes_of_plain spelled
    exact ⟨rest, optionalName_eq_ok.2 (.inl taken), spelled⟩

theorem reads_operation {as : List Argument} (typed : type.isWellFormed = true)
    (clear : (type.takesLong && name == "long") = false)
    (wf : Argument.areWellFormed as = true) (unambiguous : Argument.areUnambiguous as = true)
    (deep : 2 * type.tokens.length + 1 ≤ depth)
    (deep_arguments : 2 * (Argument.closingTokens as).length ≤ depth) :
    Reads (operation ms depth)
      (type.tokens ++ ((if name.isEmpty then [] else [.identifier name])
        ++ .punct '(' :: (Argument.closingTokens as ++ [.punct ';'])))
      { kind := .operation, name, type, arguments := as, isStatic := ms.isStatic,
        specials := ms.specials } after := by
  intro toks spelled
  simp only [List.append_assoc, List.cons_append] at spelled
  obtain ⟨r₁, first, spelled⟩ := (readsType type typed).type depth _ deep (stops_operation clear) toks
    spelled
  obtain ⟨r₂, second, spelled⟩ := reads_optionalName r₁ spelled
  obtain ⟨r₃, third, spelled⟩ := reads_parenthesized wf unambiguous deep_arguments r₂ spelled
  obtain ⟨rest, ended, spelled⟩ := takes_of_plain spelled
  exact ⟨rest, operation_eq_ok.2 ⟨type, r₁, first, name, r₂, second, as, r₃, third, ended, rfl⟩, spelled⟩

end Bodies

/-! ## Modifiers -/

/-- The next token, if there is one, is not a modifier. -/
def Unmodified (ts : List Token) : Prop :=
  ∀ word, isModifier word = true → ts.head? ≠ some (.identifier word)

theorem splitModifiers_words {words : List String} {after : List Token}
    (each : ∀ word ∈ words, isModifier word = true) (ends : Unmodified after) :
    ∀ toks, plain toks = words.map .identifier ++ after →
      (splitModifiers toks).1 = words.foldr Modifiers.push {}
        ∧ plain (splitModifiers toks).2 = after := by
  -- The loop stops at the first token that is no modifier, whichever kind of token that is.
  induction words with
  | nil =>
    intro toks spelled
    change plain toks = after at spelled
    match toks with
    | [] => exact ⟨rfl, spelled⟩
    | ⟨.identifier word, place⟩ :: later =>
      have other : isModifier word = false := by
        by_contra modifier
        exact ends word (by simpa using modifier) (by rw [← spelled]; rfl)
      rw [splitModifiers, other]
      exact ⟨rfl, spelled⟩
    | ⟨.number _, place⟩ :: later | ⟨.string _, place⟩ :: later | ⟨.punct _, place⟩ :: later
    | ⟨.ellipsis, place⟩ :: later => exact ⟨rfl, spelled⟩
  | cons word words ih =>
    intro toks spelled
    obtain ⟨later, ⟨place, rfl⟩, behind⟩ := takes_of_plain spelled
    obtain ⟨same, rest⟩ := ih (fun word inside => each word (List.mem_cons_of_mem _ inside)) later behind
    have modifier := each word (by simp)
    rw [splitModifiers, if_pos modifier]
    exact ⟨congrArg (Modifiers.push word) same, rest⟩

theorem push_special {word : String} (special : specialWords.contains word = true) (ms : Modifiers) :
    ms.push word = { ms with specials := word :: ms.specials } := by
  simp only [specialWords, List.contains_cons, List.contains_nil, Bool.or_false, Bool.or_eq_true,
    beq_iff_eq] at special
  rcases special with rfl | rfl | rfl | rfl <;> rfl

theorem push_specials {words : List String} (each : words.all specialWords.contains = true) :
    words.foldr Modifiers.push {} = { specials := words } := by
  induction words with
  | nil => rfl
  | cons word words ih =>
    rw [List.all_cons, Bool.and_eq_true] at each
    rw [List.foldr_cons, ih each.2, push_special each.1]

theorem isModifier_special {word : String} (special : specialWords.contains word = true) :
    isModifier word = true := by
  rw [isModifier, special, Bool.or_true]

/-! ## Keywords that are looked for earlier -/

theorem announces_plain {word : String} {c : Char} :
    Announces toks word c ↔ ∃ ts, plain toks = .identifier word :: .punct c :: ts := by
  constructor
  · rintro ⟨r₁, first, r₂, second⟩
    exact ⟨plain r₂, by rw [first.plain, second.plain]⟩
  · rintro ⟨ts, spelled⟩
    obtain ⟨r₁, first, spelled⟩ := takes_of_plain spelled
    obtain ⟨r₂, second, -⟩ := takes_of_plain spelled
    exact ⟨r₁, first, r₂, second⟩

/-- The name of a type is one word, or several of which no plain word is the first. -/
theorem words_cases (name : String) : TypeExpr.words name = [name]
    ∨ ∃ first second others, TypeExpr.words name = first :: second :: others
      ∧ ∀ word, isPlainWord word = true → first ≠ word ∧ name ≠ word := by
  cases found : TypeExpr.phrases.lookup name with
  | none => exact .inl (by simp [TypeExpr.words, found])
  | some several =>
    have long : ∀ entry ∈ TypeExpr.phrases, 2 ≤ entry.2.length := by decide
    have listed := mem_of_lookup found
    have enough := long _ listed
    obtain _ | ⟨first, _ | ⟨second, others⟩⟩ := several
    · simp at enough
    · simp at enough
    refine .inr ⟨first, second, others, by simp [TypeExpr.words, found], ?_⟩
    intro word plainly
    have differs := List.all_eq_true.1 plainly _ listed
    simp only [List.head?_cons, Bool.and_eq_true, bne_iff_ne, ne_eq, Option.some.injEq] at differs
    exact ⟨differs.2, differs.1⟩

/-- A keyword and an angle bracket come first exactly where the type is that constructor applied. -/
theorem announces_constructor {word : String} (plainly : isPlainWord word = true) :
    ∀ (t : TypeExpr) (after : List Token), after.head? ≠ some (.punct '<') →
      ((∃ ts, t.tokens ++ after = .identifier word :: .punct '<' :: ts)
        ↔ t.leadingConstructor? = some word)
  | .named name, after, angle => by
    have never : (TypeExpr.named name).leadingConstructor? = none := rfl
    rw [TypeExpr.tokens, never]
    rcases words_cases name with one | ⟨first, second, others, several, -⟩
    · rw [one]
      simp only [List.map_cons, List.map_nil, List.cons_append, List.nil_append, List.cons.injEq,
        reduceCtorEq, iff_false, not_exists, not_and]
      rintro ts - rfl
      exact angle rfl
    · simp [several]
  | .sequence element, after, _ => by
    simp [TypeExpr.tokens, TypeExpr.leadingConstructor?]
  | .nullable inner, after, _ => by
    rw [TypeExpr.tokens, TypeExpr.leadingConstructor?, List.append_assoc]
    exact announces_constructor plainly inner _ (by simp)
  | .union members, after, _ => by
    simp [TypeExpr.tokens, TypeExpr.leadingConstructor?]
  | .generic name arguments, after, _ => by
    rw [TypeExpr.tokens, TypeExpr.leadingConstructor?]
    rcases words_cases name with one | ⟨first, second, others, several, differs⟩
    · simp [one]
    · simp [several, (differs word plainly).2]

/-- A keyword and a parenthesis come first exactly where the type is that keyword and a parenthesis
stands behind it. -/
theorem announces_name {word : String} (plainly : isPlainWord word = true) :
    ∀ (t : TypeExpr) (after : List Token),
      ((∃ ts, t.tokens ++ after = .identifier word :: .punct '(' :: ts)
        ↔ t = .named word ∧ after.head? = some (.punct '('))
  | .named name, after => by
    rw [TypeExpr.tokens]
    rcases words_cases name with one | ⟨first, second, others, several, differs⟩
    · rw [one]
      cases after <;> simp
    · simp [several, (differs word plainly).2]
  | .sequence element, after => by simp [TypeExpr.tokens]
  | .nullable inner, after => by
    -- The question mark stands behind the inner type, so no parenthesis does.
    have inner_case := announces_name plainly inner ([.punct '?'] ++ after)
    rw [TypeExpr.tokens, List.append_assoc, inner_case]
    simp
  | .union members, after => by simp [TypeExpr.tokens]
  | .generic name arguments, after => by
    rw [TypeExpr.tokens]
    rcases words_cases name with one | ⟨first, second, others, several, differs⟩
    · simp [one]
    · simp [several]

/-! ## Interface members -/

/-- Behind its modifiers a member is read by `modified`, if it is not taken for a constant, a
constructor or a lone stringifier. -/
theorem reads_of_modified {words : List String} {ts after : List Token} {owner : String} {m : Member}
    (each : ∀ word ∈ words, isModifier word = true) (unmodified : Unmodified (ts ++ after))
    (semicolon : (ts ++ after).head? ≠ some (.punct ';'))
    (first : words = [] → (ts ++ after).head? ≠ some (.identifier "const")
      ∧ ¬ ∃ later, ts ++ after = .identifier "constructor" :: .punct '(' :: later)
    (read : Reads (modified (words.foldr Modifiers.push {}) depth) ts m after) :
    Reads (interfaceMember owner depth) (words.map .identifier ++ ts) m after := by
  intro toks spelled
  rw [List.append_assoc] at spelled
  obtain ⟨same, behind⟩ := splitModifiers_words each unmodified toks spelled
  obtain ⟨rest, ran, ended⟩ := read _ behind
  refine ⟨rest, interfaceMember_eq_ok.2 (.inr (.inr (.inr ⟨?_, ?_, ?_, by rw [same]; exact ran⟩))), ended⟩
  · refine lacks_of_plain spelled ?_
    cases words with
    | nil => exact (first rfl).1
    | cons word words =>
      have modifier := each word (by simp)
      rintro ⟨⟩
      cases modifier
  · rw [announces_plain, spelled]
    cases words with
    | nil => exact (first rfl).2
    | cons word words =>
      have modifier := each word (by simp)
      rintro ⟨later, found⟩
      obtain ⟨⟨⟩, -⟩ := List.cons.inj found
      cases modifier
  · rw [announces_plain, spelled]
    rintro ⟨later, found⟩
    -- A lone stringifier is one modifier and a semicolon: too few, just as many, or too many modifiers.
    match words, each, found with
    | [], _, found =>
      exact unmodified "stringifier" rfl (by rw [List.map_nil, List.nil_append] at found; rw [found]; rfl)
    | [word], _, found =>
      simp only [List.map_cons, List.map_nil, List.cons_append, List.nil_append, List.cons.injEq] at found
      exact semicolon (by rw [found.2]; rfl)
    | word :: other :: words, _, found => simp at found

/-- A word if the condition holds. -/
def wordsIf (condition : Bool) (word : String) : List String :=
  if condition then [word] else []

theorem tokenIf_eq_map (condition : Bool) (word : String) :
    tokenIf condition (.identifier word) = (wordsIf condition word).map .identifier := by
  cases condition <;> rfl

theorem isModifier_wordsIf {condition : Bool} {word : String} (modifier : isModifier word = true) :
    ∀ other ∈ wordsIf condition word, isModifier other = true := by
  intro other inside
  cases condition with
  | false => cases inside
  | true =>
    obtain rfl : other = word := by simpa [wordsIf] using inside
    exact modifier

theorem isModifier_property {isStatic readonly : Bool} :
    ∀ word ∈ wordsIf isStatic "static" ++ wordsIf readonly "readonly", isModifier word = true :=
  List.forall_mem_append.2 ⟨isModifier_wordsIf rfl, isModifier_wordsIf rfl⟩

theorem isModifier_operation {isStatic : Bool} {specials : List String}
    (each : specials.all specialWords.contains = true) :
    ∀ word ∈ wordsIf isStatic "static" ++ specials, isModifier word = true := by
  refine List.forall_mem_append.2 ⟨isModifier_wordsIf rfl, ?_⟩
  intro word inside
  exact isModifier_special (List.all_eq_true.1 each word inside)

section Kinds

variable {owner : String} {after : List Token}

theorem unmodified_of_head {ts : List Token} {word : String} (head : ts.head? = some (.identifier word))
    (other : isModifier word = false) : Unmodified ts := by
  intro modifier h found
  rw [head] at found
  obtain rfl : word = modifier := by simpa using found
  rw [other] at h
  cases h

theorem reads_static_property {type : TypeExpr} {name : String} {isStatic readonly : Bool}
    (typed : type.isWellFormed = true) (clear : (type.takesLong && name == "long") = false)
    (deep : 2 * type.tokens.length + 1 ≤ depth) :
    Reads (interfaceMember owner depth)
      (tokenIf isStatic (.identifier "static") ++ (tokenIf readonly (.identifier "readonly")
        ++ .identifier "attribute" :: (type.tokens ++ [.identifier name, .punct ';'])))
      { kind := .property, name, type, readonly, isStatic } after := by
  rw [tokenIf_eq_map, tokenIf_eq_map, ← List.append_assoc, ← List.map_append]
  have modifiers : (wordsIf isStatic "static" ++ wordsIf readonly "readonly").foldr Modifiers.push {}
      = { isStatic, readonly } := by
    cases isStatic <;> cases readonly <;> rfl
  refine reads_of_modified isModifier_property (unmodified_of_head rfl (by decide)) (by simp) (by simp) ?_
  intro toks spelled
  obtain ⟨r₁, taken, spelled⟩ := takes_of_plain spelled
  obtain ⟨rest, ran, spelled⟩ := reads_property typed clear deep r₁ spelled
  rw [modifiers]
  exact ⟨rest, modified_eq_ok.2 (.inl ⟨r₁, taken, ran⟩), spelled⟩

theorem reads_readonly_collection {kind : MemberKind} {keyword : String} {type : TypeExpr}
    {keyType : Option TypeExpr} {readonly : Bool} (listed : (kind, keyword) ∈ collections)
    (typed : type.isWellFormed = true) (keyed : keyType.all (·.isWellFormed) = true)
    (deep : 2 * type.tokens.length + 1 ≤ depth)
    (deep_key : ∀ key ∈ keyType, 2 * key.tokens.length + 1 ≤ depth) :
    Reads (interfaceMember owner depth)
      (tokenIf readonly (.identifier "readonly") ++ .identifier keyword :: .punct '<'
        :: (keyType.elim [] (fun key => key.tokens ++ [.punct ',']) ++ (type.tokens
        ++ [.punct '>', .punct ';'])))
      { kind, name := keyword, type, keyType, required := true, readonly } after := by
  rw [tokenIf_eq_map]
  have modifiers : (wordsIf readonly "readonly").foldr Modifiers.push {} = { readonly } := by
    cases readonly <;> rfl
  have keywords : ∀ c ∈ collections, isModifier c.2 = false ∧ c.2 ≠ "const" := by decide
  obtain ⟨no_modifier, no_const⟩ := keywords _ listed
  refine reads_of_modified (isModifier_wordsIf rfl) (unmodified_of_head rfl no_modifier) (by simp) ?_ ?_
  · intro _
    constructor
    · simpa using no_const
    · rintro ⟨later, found⟩
      simp at found
  · intro toks spelled
    obtain ⟨r₁, taken, behind⟩ := takes_of_plain spelled
    obtain ⟨r₂, opened, behind⟩ := takes_of_plain behind
    have announced : Announces toks keyword '<' := ⟨r₁, taken, r₂, opened⟩
    obtain ⟨rest, ran, ended⟩ := reads_collection typed keyed deep deep_key r₂ behind
    obtain ⟨_, rfl⟩ := taken
    obtain ⟨_, rfl⟩ := opened
    rw [modifiers]
    exact ⟨rest, modified_eq_ok.2 (.inr (.inl ⟨_, listed, announced, ran⟩)), ended⟩

theorem isPlainWord_modifier {word : String} (h : isModifier word = true) :
    isPlainWord word = true := by
  simp only [isModifier, specialWords, List.contains_cons, List.contains_nil, Bool.or_false,
    Bool.or_eq_true, beq_iff_eq] at h
  rcases h with ((rfl | rfl) | rfl) | rfl | rfl | rfl | rfl <;> decide

theorem isPlainWord_collection : ∀ c ∈ collections, isPlainWord c.2 = true := by
  decide

/-- An operation starts with no keyword that the grammar looks for earlier.  Two of these keywords count
only where no modifier stands before the operation. -/
theorem startsOperation_iff {m : Member} : m.startsOperation = true ↔
    (∀ word, m.type.leadingWord? = some word → isModifier word = false ∧ word ≠ "attribute")
    ∧ (∀ c ∈ collections, m.type.leadingConstructor? ≠ some c.2)
    ∧ (m.isStatic = false → m.specials = [] → m.type.leadingWord? ≠ some "const"
      ∧ (m.type = .named "constructor" → m.name.isEmpty = false)) := by
  rw [Member.startsOperation, Bool.and_eq_true, Bool.and_eq_true, and_assoc]
  refine and_congr ?_ (and_congr ?_ ?_)
  · cases m.type.leadingWord? <;> simp
  · cases m.type.leadingConstructor? <;> simp [collections]
  · cases m.isStatic <;> cases m.specials <;> simp [imp_iff_not_or]

theorem reads_special_operation {m : Member} (typed : m.type.isWellFormed = true)
    (clear : (m.type.takesLong && m.name == "long") = false)
    (wf : Argument.areWellFormed m.arguments = true)
    (unambiguous : Argument.areUnambiguous m.arguments = true)
    (specials : m.specials.all specialWords.contains = true) (starts : m.startsOperation = true)
    (deep : 2 * m.type.tokens.length + 1 ≤ depth)
    (deep_arguments : 2 * (Argument.closingTokens m.arguments).length ≤ depth) :
    Reads (interfaceMember owner depth)
      (tokenIf m.isStatic (.identifier "static") ++ (m.specials.map .identifier ++ (m.type.tokens
        ++ ((if m.name.isEmpty then [] else [.identifier m.name])
        ++ .punct '(' :: (Argument.closingTokens m.arguments ++ [.punct ';'])))))
      { kind := .operation, name := m.name, type := m.type, isStatic := m.isStatic,
        specials := m.specials, arguments := m.arguments } after := by
  rw [tokenIf_eq_map, ← List.append_assoc, ← List.map_append]
  have modifiers : (wordsIf m.isStatic "static" ++ m.specials).foldr Modifiers.push {}
      = { isStatic := m.isStatic, specials := m.specials } := by
    rw [List.foldr_append, push_specials specials]
    cases m.isStatic <;> rfl
  obtain ⟨word_free, constructor_free, first_free⟩ := startsOperation_iff.1 starts
  have head : ∀ {word}, isPlainWord word = true → ∀ later,
      (m.type.tokens ++ later).head? = some (.identifier word) → m.type.leadingWord? = some word := by
    intro word plainly later found
    rw [head_type] at found
    exact (tokens_head plainly m.type).1 found
  refine reads_of_modified (isModifier_operation specials) ?_ ?_ ?_ ?_
  · intro word modifier found
    rw [List.append_assoc] at found
    have other := (word_free word (head (isPlainWord_modifier modifier) _ found)).1
    rw [modifier] at other
    cases other
  · rw [List.append_assoc, head_type]
    rcases tokens_head_cases m.type with found | ⟨word, found⟩ <;> simp [found]
  · intro none_before
    rw [List.append_assoc]
    obtain ⟨no_static, no_specials⟩ := List.append_eq_nil_iff.1 none_before
    have static : m.isStatic = false := by
      cases h : m.isStatic with
      | false => rfl
      | true => simp [wordsIf, h] at no_static
    obtain ⟨no_const, no_constructor⟩ := first_free static no_specials
    constructor
    · intro found
      exact no_const (head (by decide) _ found)
    · rw [announces_name (by decide) m.type]
      rintro ⟨named, next⟩
      simp [no_constructor named] at next
  · intro toks spelled
    obtain ⟨rest, ran, ended⟩ := reads_operation typed clear wf unambiguous deep deep_arguments toks
      spelled
    rw [modifiers]
    refine ⟨rest, modified_eq_ok.2 (.inr (.inr ⟨?_, ?_, ran⟩)), ended⟩
    · refine lacks_of_plain spelled ?_
      intro found
      rw [List.append_assoc] at found
      exact (word_free _ (head (by decide) _ found)).2 rfl
    · intro c listed
      rw [announces_plain, spelled, List.append_assoc, announces_constructor
        (isPlainWord_collection c listed) m.type _ ?_]
      · exact constructor_free c listed
      · rw [List.append_assoc]
        exact (stops_operation clear).2.1

theorem reads_keyword_constant {type : TypeExpr} {name : String} {value : DefaultValue}
    (typed : type.isWellFormed = true) (valued : value.isWellFormed = true)
    (clear : (type.takesLong && name == "long") = false)
    (deep : 2 * type.tokens.length + 1 ≤ depth) :
    Reads (interfaceMember owner depth)
      (.identifier "const" :: (type.tokens ++ .identifier name :: .punct '=' :: (value.tokens
        ++ [.punct ';'])))
      { kind := .const, name, type, defaultValue := some value } after := by
  intro toks spelled
  obtain ⟨r₁, taken, spelled⟩ := takes_of_plain spelled
  obtain ⟨rest, ran, spelled⟩ := reads_constant typed valued clear deep r₁ spelled
  exact ⟨rest, interfaceMember_eq_ok.2 (.inl ⟨r₁, taken, ran⟩), spelled⟩

theorem reads_keyword_constructor {as : List Argument} (wf : Argument.areWellFormed as = true)
    (clear : Argument.areUnambiguous as = true)
    (deep : 2 * (Argument.closingTokens as).length ≤ depth) :
    Reads (interfaceMember owner depth)
      (.identifier "constructor" :: .punct '(' :: (Argument.closingTokens as ++ [.punct ';']))
      { kind := .constructor, name := "constructor", type := .named owner, arguments := as } after := by
  intro toks spelled
  obtain ⟨r₁, ⟨place, rfl⟩, behind⟩ := takes_of_plain spelled
  have announced : Announces (⟨.identifier "constructor", place⟩ :: r₁) "constructor" '(' :=
    announces_plain.2 ⟨_, spelled⟩
  obtain ⟨rest, ran, ended⟩ := reads_constructorOf wf clear deep r₁ behind
  exact ⟨rest, interfaceMember_eq_ok.2 (.inr (.inl ⟨announced, ran⟩)), ended⟩

theorem reads_keyword_stringifier :
    Reads (interfaceMember owner depth) [.identifier "stringifier", .punct ';']
      { kind := .stringifier, name := "", type := .named "DOMString" } after := by
  intro toks spelled
  have announced : Announces toks "stringifier" ';' := announces_plain.2 ⟨_, spelled⟩
  obtain ⟨r₁, ⟨_, rfl⟩, within⟩ := takes_of_plain spelled
  obtain ⟨rest, ⟨_, rfl⟩, behind⟩ := takes_of_plain within
  exact ⟨rest, interfaceMember_eq_ok.2 (.inr (.inr (.inl ⟨announced, rfl, rfl⟩))), behind⟩

theorem collection_tokens (m : Member) (keyword : String) :
    Member.bodyTokens.collection m keyword = tokenIf m.readonly (.identifier "readonly")
      ++ .identifier keyword :: .punct '<' :: (m.keyType.elim [] (fun key => key.tokens ++ [.punct ','])
      ++ (m.type.tokens ++ [.punct '>'])) := by
  rw [Member.bodyTokens.collection]
  cases m.keyType <;> rfl

/-- A member of an interface is read from what stands behind its extended attributes. -/
theorem reads_interfaceMember {m : Member} (wf : m.isWellFormed = true) (shown : m.shown owner = m)
    (interface : m.kind ≠ .field) (clear : m.isUnambiguous = true)
    (deep : 2 * (tokenIf m.isStatic (.identifier "static")
      ++ (m.bodyTokens ++ [Token.punct ';'])).length ≤ depth) :
    Reads (interfaceMember owner depth)
      (tokenIf m.isStatic (.identifier "static") ++ (m.bodyTokens ++ [.punct ';']))
      { m with attributes := [] } after := by
  simp only [Member.isWellFormed, Bool.and_eq_true] at wf
  simp only [Member.isUnambiguous, Bool.and_eq_true, Bool.not_eq_true'] at clear
  obtain ⟨-, wf⟩ := wf
  obtain ⟨⟨⟨-, clear_arguments⟩, clear_name⟩, clear_kind⟩ := clear
  -- What is not written has its default, so the member is the one that its kind shows.
  have bare : { m with attributes := [] } = { m.shown owner with attributes := [] } := by rw [shown]
  have static : (m.shown owner).isStatic = m.isStatic := by rw [shown]
  rw [bare]
  cases kind : m.kind with
  | field => exact absurd kind interface
  | property =>
    simp only [kind, Bool.and_eq_true] at wf
    simp only [Member.bodyTokens, kind, List.length_append, List.length_cons] at deep
    simp only [Member.bodyTokens, Member.shown, kind, List.append_assoc, List.cons_append,
      List.nil_append]
    exact reads_static_property wf.2 clear_name (by omega)
  | operation =>
    simp only [kind, Bool.and_eq_true] at wf clear_kind
    simp only [Member.bodyTokens, kind, List.length_append, List.length_cons] at deep
    simp only [Member.bodyTokens, Member.shown, kind, List.append_assoc, List.cons_append]
    exact reads_special_operation wf.1.1.2 clear_name wf.2 clear_arguments wf.1.2 clear_kind (by omega)
      (by omega)
  | constructor =>
    simp only [kind] at wf
    simp only [Member.shown, kind] at static
    simp only [Member.bodyTokens, kind, List.length_append, List.length_cons] at deep
    simp only [Member.bodyTokens, Member.shown, kind, ← static, tokenIf, Bool.false_eq_true, if_false,
      List.nil_append, List.cons_append]
    exact reads_keyword_constructor wf clear_arguments (by omega)
  | const =>
    simp only [kind, Bool.and_eq_true] at wf
    simp only [Member.shown, kind] at static
    simp only [Member.bodyTokens, kind, List.length_append, List.length_cons] at deep
    obtain ⟨value, found⟩ := Option.isSome_iff_exists.1 (Option.isSome_of_any wf.2)
    rw [found, Option.any_some] at wf
    simp only [Member.bodyTokens, Member.shown, kind, found, DefaultValue.tokensOption, ← static, tokenIf,
      Bool.false_eq_true, if_false, List.nil_append, List.cons_append, List.append_assoc]
    exact reads_keyword_constant wf.1.2 wf.2 clear_name (by omega)
  | iterable | maplike | setlike =>
    simp only [kind, Bool.and_eq_true] at wf
    simp only [Member.shown, Member.shown.collection, kind] at static
    simp only [Member.bodyTokens, kind, collection_tokens, List.length_append, List.length_cons] at deep
    have deep_key : ∀ key ∈ m.keyType, 2 * key.tokens.length + 1 ≤ depth := by
      intro key found
      rw [found, Option.elim_some, List.length_append] at deep
      omega
    simp only [Member.bodyTokens, collection_tokens, Member.shown, Member.shown.collection, kind,
      ← static, tokenIf, Bool.false_eq_true, if_false, List.nil_append, List.cons_append,
      List.append_assoc]
    exact reads_readonly_collection (by decide) wf.1 wf.2 (by omega) deep_key
  | stringifier =>
    simp only [Member.shown, kind] at static
    simp only [Member.bodyTokens, Member.shown, kind, ← static, tokenIf, Bool.false_eq_true, if_false,
      List.nil_append, List.cons_append]
    exact reads_keyword_stringifier

theorem reads_dictionaryMember {m : Member} (wf : m.isWellFormed = true) (shown : m.shown owner = m)
    (dictionary : m.kind = .field) (clear : m.isUnambiguous = true)
    (deep : 2 * (tokenIf m.isStatic (.identifier "static")
      ++ (m.bodyTokens ++ [Token.punct ';'])).length ≤ depth) :
    Reads (field depth)
      (tokenIf m.isStatic (.identifier "static") ++ (m.bodyTokens ++ [.punct ';']))
      { m with attributes := [] } after := by
  have bare : { m with attributes := [] } = { m.shown owner with attributes := [] } := by rw [shown]
  have static : (m.shown owner).isStatic = m.isStatic := by rw [shown]
  simp only [Member.isWellFormed, dictionary, Bool.and_eq_true] at wf
  simp only [Member.isUnambiguous, dictionary, Bool.and_eq_true, Bool.not_eq_true'] at clear
  simp only [Member.shown, dictionary] at static
  simp only [Member.bodyTokens, dictionary, List.length_append, List.length_cons] at deep
  have no_static : tokenIf m.isStatic (.identifier "static") = [] := by
    rw [← static]
    rfl
  rw [bare, no_static]
  simp only [Member.bodyTokens, Member.shown, dictionary, List.nil_append, List.append_assoc,
    List.cons_append]
  exact reads_field wf.2.1.2 wf.2.2 clear.1.2 clear.2 (by omega)

/-- Behind its extended attributes a member starts with neither a bracket nor a closing brace. -/
theorem member_starts (m : Member) (after : List Token) :
    ∃ token, (tokenIf m.isStatic (.identifier "static") ++ (m.bodyTokens ++ after)).head? = some token
      ∧ token ≠ .punct '[' ∧ token ≠ .punct '\x7d' := by
  have of_word : ∀ {ts : List Token} {word : String}, ts.head? = some (.identifier word) →
      ∃ token, ts.head? = some token ∧ token ≠ .punct '[' ∧ token ≠ .punct '\x7d' :=
    fun head => ⟨_, head, by simp, by simp⟩
  have of_type : ∀ (t : TypeExpr) (later : List Token), ∃ token,
      (t.tokens ++ later).head? = some token ∧ token ≠ .punct '[' ∧ token ≠ .punct '\x7d' := by
    intro t later
    rw [head_type]
    rcases tokens_head_cases t with head | ⟨word, head⟩
    · exact ⟨_, head, by simp, by simp⟩
    · exact of_word head
  by_cases static : m.isStatic = true
  · rw [static]
    exact of_word rfl
  · rw [Bool.not_eq_true] at static
    rw [static]
    change ∃ token, (m.bodyTokens ++ after).head? = some token ∧ _
    cases kind : m.kind with
    | field =>
      simp only [Member.bodyTokens, kind, List.append_assoc]
      cases m.required with
      | true => exact of_word rfl
      | false => exact of_type m.type _
    | property =>
      simp only [Member.bodyTokens, kind]
      cases m.readonly <;> exact of_word rfl
    | operation =>
      simp only [Member.bodyTokens, kind, List.append_assoc]
      cases m.specials with
      | nil => exact of_type m.type _
      | cons word words => exact of_word rfl
    | constructor | const | stringifier =>
      simp only [Member.bodyTokens, kind]
      exact of_word rfl
    | iterable | maplike | setlike =>
      simp only [Member.bodyTokens, kind, collection_tokens]
      cases m.readonly <;> exact of_word rfl

theorem member_not_closing (m : Member) (after : List Token) :
    (m.tokens ++ after).head? ≠ some (.punct '\x7d') := by
  rw [Member.tokens, attributeTokens_eq_map]
  cases m.attributes with
  | nil =>
    obtain ⟨token, head, -, brace⟩ := member_starts m ([.punct ';'] ++ after)
    simp only [bracketedTokens, List.map_nil, List.isEmpty_nil, if_true, List.nil_append,
      List.append_assoc]
    rw [head]
    simpa using brace
  | cons a as => simp [bracketedTokens]

theorem reads_member {kind : DefinitionKind} {m : Member}
    (h : m.isPrintable kind owner = true) (deep : 2 * m.tokens.length + 1 ≤ depth) :
    Reads (member kind owner depth) m.tokens m after := by
  obtain ⟨wf, shown, fits, clear⟩ := Member.isPrintable_iff.1 h
  intro toks spelled
  rw [Member.tokens, attributeTokens_eq_map] at deep spelled
  rw [List.length_append] at deep
  rw [List.append_assoc] at spelled
  have each : ∀ a ∈ m.attributes, ReadsAttribute a := by
    simp only [Member.isWellFormed, Bool.and_eq_true] at wf
    simp only [Member.isUnambiguous, Bool.and_eq_true] at clear
    exact readsAttributes m.attributes wf.1 clear.1.1.1
  have no_bracket : m.attributes = [] → (tokenIf m.isStatic (.identifier "static")
      ++ (m.bodyTokens ++ [Token.punct ';']) ++ after).head? ≠ some (.punct '[') := by
    intro _
    obtain ⟨token, head, bracket, -⟩ := member_starts m ([.punct ';'] ++ after)
    rw [List.append_assoc, List.append_assoc, head]
    simpa using bracket
  obtain ⟨r₁, outer, spelled⟩ := reads_attributes depth each (by omega) no_bracket toks spelled
  have inner : Reads (if kind = .dictionary then field depth else interfaceMember owner depth)
      (tokenIf m.isStatic (.identifier "static") ++ (m.bodyTokens ++ [.punct ';']))
      { m with attributes := [] } after := by
    by_cases dictionary : kind = .dictionary
    · rw [if_pos dictionary]
      have field : m.kind = .field := by simpa [Member.fits, dictionary] using fits
      exact reads_dictionaryMember wf shown field clear (by omega)
    · rw [if_neg dictionary]
      have other : m.kind ≠ .field := by simpa [Member.fits, dictionary] using fits
      exact reads_interfaceMember wf shown other clear (by omega)
  obtain ⟨rest, ran, spelled⟩ := inner r₁ spelled
  exact ⟨rest, member_eq_ok.2 ⟨m.attributes, r₁, outer, _, ran, by simp⟩, spelled⟩

end Kinds

/-! ## Lists of members -/

theorem reads_members {kind : DefinitionKind} {owner : String} {after : List Token} :
    ∀ (ms : List Member) (depth : Nat), (∀ m ∈ ms, m.isPrintable kind owner = true) →
      2 * (ms.flatMap Member.tokens).length + 2 ≤ depth →
      Reads (members kind owner depth) (ms.flatMap Member.tokens ++ [.punct '\x7d']) ms after
  | [], depth, _, deep => by
    intro toks spelled
    obtain ⟨depth, rfl⟩ := Nat.exists_eq_add_of_le' (show 1 ≤ depth by omega)
    obtain ⟨rest, closed, spelled⟩ := takes_of_plain spelled
    exact ⟨rest, members_eq_ok.2 (.inr ⟨closed, rfl⟩), spelled⟩
  | m :: ms, depth, each, deep => by
    -- Each round of the loop spends one unit of depth, and each member has a token to pay for it.
    have some_token : 1 ≤ m.tokens.length := by simp [Member.tokens]; omega
    rw [List.flatMap_cons, List.length_append] at deep
    obtain ⟨depth, rfl⟩ := Nat.exists_eq_add_of_le' (show 1 ≤ depth by omega)
    intro toks spelled
    rw [List.flatMap_cons, List.append_assoc, List.append_assoc, ← List.append_assoc _ _ after] at spelled
    have printable := each m (by simp)
    have deep_first : 2 * m.tokens.length + 1 ≤ depth := by omega
    obtain ⟨r₁, first, behind⟩ := reads_member printable deep_first toks spelled
    obtain ⟨rest, others, ended⟩ := reads_members ms depth
      (fun m inside => each m (List.mem_cons_of_mem _ inside)) (by omega) r₁ behind
    exact ⟨rest, members_eq_ok.2 (.inl ⟨lacks_of_plain spelled (member_not_closing m _), m, r₁, first, ms,
      others, rfl⟩), ended⟩

theorem reads_enumValues {after : List Token} :
    ∀ (values : List String) (depth : Nat), values.length + 1 ≤ depth →
      Reads (enumValues depth) (separated (.punct ',') (values.map fun value => [.string value])
        ++ [.punct '\x7d']) values after
  | [], depth + 1, _ => by
    intro toks spelled
    obtain ⟨rest, closed, spelled⟩ := takes_of_plain spelled
    exact ⟨rest, enumValues_eq_ok.2 (.inr ⟨rfl, closed⟩), spelled⟩
  | [value], depth + 1, _ => by
    intro toks spelled
    obtain ⟨r₁, taken, spelled⟩ := takes_of_plain spelled
    obtain ⟨rest, closed, spelled⟩ := takes_of_plain spelled
    exact ⟨rest, enumValues_eq_ok.2 (.inl ⟨value, r₁, taken, .inl ⟨closed.lacks _ (by simp), closed,
      rfl⟩⟩), spelled⟩
  | value :: next :: values, depth + 1, deep => by
    intro toks spelled
    obtain ⟨r₁, taken, spelled⟩ := takes_of_plain spelled
    obtain ⟨r₂, comma, spelled⟩ := takes_of_plain spelled
    obtain ⟨rest, others, spelled⟩ := reads_enumValues (next :: values) depth (by simpa using deep) r₂
      spelled
    exact ⟨rest, enumValues_eq_ok.2 (.inl ⟨value, r₁, taken, .inr ⟨r₂, comma, _, others, rfl⟩⟩), spelled⟩

end IdlBindings.Grammar
