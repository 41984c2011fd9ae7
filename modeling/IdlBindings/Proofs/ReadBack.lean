/-
# IdlBindings.Proofs.ReadBack: only printable members and definitions are read back.

A member or definition that comes out of its own tokens is printable: its written form hides nothing
and no name in it was taken for a keyword.  Together with `IdlBindings.Proofs.ReadDefinitions` this
makes `isPrintable` the exact condition.

Lists are followed to their end even if less of them is read.  So the results also apply to a
definition that was put together from several fragments, of which only the first comes out of the
tokens of the whole.
-/
import IdlBindings.Proofs.ReadDefinitions
import IdlBindings.Proofs.Unambiguous

namespace IdlBindings

namespace Grammar

open Token (Located plain)

variable {toks rest : List Located} {depth : Nat} {owner : String} {after : List Token}

/-! ## Modifiers -/

theorem splitModifiers_spec (toks : List Located) :
    Unmodified (plain (splitModifiers toks).2)
      ∧ ∃ words : List String, plain toks = words.map .identifier ++ plain (splitModifiers toks).2 := by
  fun_induction splitModifiers toks with
  | case1 => exact ⟨fun _ _ => by simp [plain], [], rfl⟩
  | case2 word place rest modifier later behind split ih =>
    rw [split] at ih
    obtain ⟨unmodified, words, spelled⟩ := ih
    exact ⟨unmodified, word :: words, congrArg (Token.identifier word :: ·) spelled⟩
  | case3 word place rest other =>
    refine ⟨?_, [], rfl⟩
    intro modifier h found
    obtain rfl : word = modifier := by simpa [plain] using found
    exact other h
  | case4 t rest other =>
    refine ⟨?_, [], rfl⟩
    intro modifier h found
    obtain ⟨token, place⟩ := t
    obtain rfl : token = .identifier modifier := by simpa [plain] using found
    exact other _ _ rfl

theorem not_mem_separated {token separator : Token} {lists : List (List Token)}
    (other : token ≠ separator) (each : ∀ list ∈ lists, token ∉ list) :
    token ∉ separated separator lists := by
  cases lists with
  | nil => simp [separated]
  | cons first lists =>
    rw [List.forall_mem_cons] at each
    simp only [separated, List.mem_append, List.mem_flatMap, List.mem_cons, not_or, not_exists, not_and]
    exact ⟨each.1, fun list inside => ⟨other, each.2 list inside⟩⟩

mutual
theorem bracket_not_mem_type : ∀ t : TypeExpr, .punct '[' ∉ t.tokens
  | .named name => by simp [TypeExpr.tokens]
  | .sequence element => by simp [TypeExpr.tokens, bracket_not_mem_type element]
  | .nullable inner => by simp [TypeExpr.tokens, bracket_not_mem_type inner]
  | .union members => by
    have := not_mem_separated (show Token.punct '[' ≠ .identifier "or" by simp)
      (bracket_not_mem_types members)
    simp [TypeExpr.tokens, this]
  | .generic name arguments => by
    have := not_mem_separated (show Token.punct '[' ≠ .punct ',' by simp)
      (bracket_not_mem_types arguments)
    simp [TypeExpr.tokens, this]
theorem bracket_not_mem_types : ∀ ts : List TypeExpr,
    ∀ tokens ∈ TypeExpr.tokensList ts, .punct '[' ∉ tokens
  | [] => by simp [TypeExpr.tokensList]
  | t :: ts => by
    rw [TypeExpr.tokensList, List.forall_mem_cons]
    exact ⟨bracket_not_mem_type t, bracket_not_mem_types ts⟩
end

/-- Behind words that stand in front of an argument list there is no bracket, if there is none in all
that stands in front of the list. -/
theorem head_of_words {front later behind : List Token} {words : List String}
    (spelled : front ++ .punct '(' :: later = words.map .identifier ++ behind)
    (free : .punct '[' ∉ front) : behind.head? ≠ some (.punct '[') := by
  intro found
  obtain ⟨others, rfl⟩ := List.head?_eq_some_iff.1 found
  -- The words end before the parenthesis, since they hold none, so the bracket stands before it too.
  rcases List.append_eq_append_iff.1 spelled with ⟨more, split, same⟩ | ⟨more, rfl, same⟩
  · cases more with
    | nil => simp at same
    | cons t more =>
      obtain rfl : .punct '(' = t := (List.cons.inj same).1
      have : Token.punct '(' ∈ words.map Token.identifier := by simp [split]
      simp at this
  · cases more with
    | nil => simp at same
    | cons t more =>
      obtain rfl : .punct '[' = t := (List.cons.inj same).1
      simp at free

/-! ## Interface members -/

/-- What is left to know about an interface member, its extended attributes apart, for it to be
printable. -/
structure Recovered (owner : String) (m : Member) : Prop where
  shown : m.shown owner = m
  interface : m.kind ≠ .field
  clear : m.isUnambiguous = true

theorem shown_attributes (m : Member) (as : List ExtendedAttribute) :
    { m with attributes := as }.shown owner = { m.shown owner with attributes := as } := by
  obtain ⟨kind⟩ := m
  cases kind <;> rfl

theorem Recovered.printable {m : Member} {as : List ExtendedAttribute} {kind : DefinitionKind}
    (h : Recovered owner m) (wf : { m with attributes := as }.isWellFormed = true)
    (clear : Argument.attributesUnambiguous as = true) (other : kind ≠ .dictionary) :
    { m with attributes := as }.isPrintable kind owner = true := by
  have unambiguous := h.clear
  simp only [Member.isUnambiguous, Bool.and_eq_true] at unambiguous
  refine Member.isPrintable_iff.2 ⟨wf, ?_, ?_, ?_⟩
  · rw [shown_attributes, h.shown]
  · simp [Member.fits, h.interface, other]
  · simp only [Member.isUnambiguous, Bool.and_eq_true]
    exact ⟨⟨⟨clear, unambiguous.1.1.2⟩, unambiguous.1.2⟩, unambiguous.2⟩

theorem constant_recovered {m : Member} {later : List Token} (ran : constant depth toks = .ok (m, rest))
    (spelled : plain toks = m.type.tokens ++ .identifier m.name :: later) : Recovered owner m := by
  obtain ⟨t, r₁, typed, name, r₂, -, r₃, -, value, r₄, -, -, rfl⟩ := constant_eq_ok.1 ran
  refine ⟨rfl, by simp, ?_⟩
  have clear := type_name_clear typed spelled
  simp [Member.isUnambiguous, Argument.attributesUnambiguous, Argument.areUnambiguous, clear]

theorem constructor_recovered {m : Member} (ran : constructorOf owner depth toks = .ok (m, rest))
    (wf : m.isWellFormed = true) (deep : 2 * (Argument.closingTokens m.arguments).length ≤ depth)
    (spelled : plain toks = .punct '(' :: (Argument.closingTokens m.arguments ++ after)) :
    Recovered owner m := by
  obtain ⟨as, r₁, listed, -, rfl⟩ := constructorOf_eq_ok.1 ran
  refine ⟨rfl, by simp, ?_⟩
  obtain ⟨r₂, opened, read⟩ := arguments_eq_ok.1 listed
  rw [opened.plain] at spelled
  simp only [Member.isWellFormed, Bool.and_eq_true] at wf
  have clear := (clearAt depth).ofArguments wf.2 deep (List.cons.inj spelled).2 read
  simp [Member.isUnambiguous, Argument.attributesUnambiguous, clear]

theorem property_recovered {ms : Modifiers} {m : Member} {later : List Token}
    (none_special : ms.specials = []) (ran : property ms depth toks = .ok (m, rest))
    (spelled : plain toks = m.type.tokens ++ .identifier m.name :: later) : Recovered owner m := by
  obtain ⟨t, r₁, typed, name, r₂, -, -, rfl⟩ := property_eq_ok.1 ran
  rw [none_special]
  refine ⟨rfl, by simp, ?_⟩
  have clear := type_name_clear typed spelled
  simp [Member.isUnambiguous, Argument.attributesUnambiguous, Argument.areUnambiguous, clear]

theorem collection_recovered {ms : Modifiers} {m : Member} {c : MemberKind × String}
    (listed : c ∈ collections) (ran : collection c.1 c.2 ms depth toks = .ok (m, rest)) :
    Recovered owner m := by
  obtain ⟨first, r₁, -, second, r₂, -, r₃, -, -, rfl⟩ := collection_eq_ok.1 ran
  simp only [collections, List.mem_cons, List.not_mem_nil, or_false] at listed
  rcases listed with rfl | rfl | rfl
  all_goals
    refine ⟨rfl, by simp, ?_⟩
    simp [Member.isUnambiguous, Argument.attributesUnambiguous, Argument.areUnambiguous]

/-- The modifiers in front of an operation end where its type starts.  Otherwise the type would start
with a modifier, but what is read behind the modifiers does not. -/
theorem operation_unmodified {t : TypeExpr} {name : String} {words : List String} {later : List Token}
    (spelled : plain toks = words.map .identifier ++ (t.tokens
      ++ ((if name.isEmpty then [] else [.identifier name]) ++ .punct '(' :: later)))
    (typed : type depth (splitModifiers toks).2 = .ok (t, rest)) :
    Unmodified (t.tokens ++ ((if name.isEmpty then [] else [.identifier name]) ++ .punct '(' :: later)) := by
  obtain ⟨unmodified, skipped, split⟩ := splitModifiers_spec toks
  have free : .punct '[' ∉ words.map Token.identifier ++ (t.tokens
      ++ (if name.isEmpty then [] else [.identifier name])) := by
    have := bracket_not_mem_type t
    by_cases empty : name.isEmpty = true <;> simp [empty, this]
  have lacks : Lacks (splitModifiers toks).2 (.punct '[') := by
    rw [spelled] at split
    exact head_of_words (by simpa only [List.append_assoc] using split) free
  intro word modifier found
  have plainly := isPlainWord_modifier modifier
  rw [head_type] at found
  have leads := (tokens_head plainly t).1 found
  exact unmodified word modifier (type_leadingWord plainly lacks typed leads)

theorem startsOperation_of_read {m : Member} {later : List Token}
    (spelled : plain toks = m.type.tokens
      ++ ((if m.name.isEmpty then [] else [.identifier m.name]) ++ .punct '(' :: later))
    (unmodified : Unmodified (plain toks)) (property : Lacks toks (.identifier "attribute"))
    (collection : ∀ c ∈ collections, ¬ Announces toks c.2 '<')
    (first : m.isStatic = false → m.specials = [] →
      Lacks toks (.identifier "const") ∧ ¬ Announces toks "constructor" '(') :
    m.startsOperation = true := by
  have head : ∀ {word}, isPlainWord word = true → m.type.leadingWord? = some word →
      (plain toks).head? = some (.identifier word) := by
    intro word plainly leads
    rw [spelled, head_type]
    exact (tokens_head plainly m.type).2 leads
  refine startsOperation_iff.2 ⟨?_, ?_, ?_⟩
  · intro word leads
    constructor
    · rw [← Bool.not_eq_true]
      intro modifier
      exact unmodified word modifier (head (isPlainWord_modifier modifier) leads)
    · rintro rfl
      exact property (head (by decide) leads)
  · intro c listed leads
    refine collection c listed (announces_plain.2 ?_)
    rw [spelled, announces_constructor (isPlainWord_collection c listed) m.type _ ?_]
    · exact leads
    · by_cases empty : m.name.isEmpty = true <;> simp [empty]
  · intro static special
    obtain ⟨const, constructor⟩ := first static special
    refine ⟨fun leads => const (head (by decide) leads), ?_⟩
    intro named
    rw [← Bool.not_eq_true]
    intro nameless
    refine constructor (announces_plain.2 ?_)
    rw [spelled, announces_name (by decide) m.type]
    exact ⟨named, by rw [if_pos nameless]; rfl⟩

theorem operation_recovered {ms : Modifiers} {m : Member} (wf : m.isWellFormed = true)
    (ran : operation ms depth toks = .ok (m, rest)) (starts : m.startsOperation = true)
    (deep : 2 * m.type.tokens.length + 1 ≤ depth)
    (deep_arguments : 2 * (Argument.closingTokens m.arguments).length ≤ depth)
    (spelled : plain toks = m.type.tokens ++ ((if m.name.isEmpty then [] else [.identifier m.name])
      ++ .punct '(' :: (Argument.closingTokens m.arguments ++ after))) : Recovered owner m := by
  obtain ⟨t, r₁, typed, name, r₂, named, as, r₃, listed, -, rfl⟩ := operation_eq_ok.1 ran
  refine ⟨rfl, by simp, ?_⟩
  simp only [Member.isWellFormed, Bool.and_eq_true] at wf
  obtain ⟨-, ⟨⟨-, wf_type⟩, -⟩, wf_arguments⟩ := wf
  have not_long : (t.takesLong && name == "long") = false := by
    by_cases empty : name.isEmpty = true
    · rw [String.isEmpty_iff.1 empty]
      simp
    · simp only [empty, Bool.false_eq_true, if_false, List.cons_append] at spelled
      exact type_name_clear typed spelled
  obtain ⟨-, spelled⟩ := ((readsType t wf_type).type depth _ deep (stops_operation not_long)).unique
    spelled typed
  obtain ⟨-, spelled⟩ := reads_optionalName.unique spelled named
  obtain ⟨r₄, opened, read⟩ := arguments_eq_ok.1 listed
  rw [opened.plain] at spelled
  have clear := (clearAt depth).ofArguments wf_arguments deep_arguments (List.cons.inj spelled).2 read
  simp only [Member.isUnambiguous, Bool.and_eq_true, Bool.not_eq_true']
  exact ⟨⟨⟨by rw [Argument.attributesUnambiguous], clear⟩, not_long⟩, starts⟩

theorem splitModifiers_property {isStatic readonly : Bool} {later : List Token}
    (spelled : plain toks = tokenIf isStatic (.identifier "static")
      ++ (tokenIf readonly (.identifier "readonly") ++ .identifier "attribute" :: later)) :
    (splitModifiers toks).1.specials = []
      ∧ plain (splitModifiers toks).2 = .identifier "attribute" :: later := by
  rw [tokenIf_eq_map, tokenIf_eq_map, ← List.append_assoc, ← List.map_append] at spelled
  obtain ⟨modifiers, behind⟩ := splitModifiers_words isModifier_property
    (unmodified_of_head rfl (by decide)) toks spelled
  rw [modifiers]
  exact ⟨by cases isStatic <;> cases readonly <;> rfl, behind⟩

theorem modified_operation_recovered {m : Member} (wf : m.isWellFormed = true)
    (ran : operation (splitModifiers toks).1 depth (splitModifiers toks).2 = .ok (m, rest))
    (const : Lacks toks (.identifier "const")) (constructor : ¬ Announces toks "constructor" '(')
    (property : Lacks (splitModifiers toks).2 (.identifier "attribute"))
    (collection : ∀ c ∈ collections, ¬ Announces (splitModifiers toks).2 c.2 '<')
    (deep : 2 * m.type.tokens.length + 1 ≤ depth)
    (deep_arguments : 2 * (Argument.closingTokens m.arguments).length ≤ depth)
    (spelled : plain toks = tokenIf m.isStatic (.identifier "static") ++ (m.specials.map .identifier
      ++ (m.type.tokens ++ ((if m.name.isEmpty then [] else [.identifier m.name])
      ++ .punct '(' :: (Argument.closingTokens m.arguments ++ after))))) : Recovered owner m := by
  have kind : m.kind = .operation ∧ ∃ r₁, type depth (splitModifiers toks).2 = .ok (m.type, r₁) := by
    obtain ⟨t, r₁, typed, _, _, -, _, _, -, -, rfl⟩ := operation_eq_ok.1 ran
    exact ⟨rfl, r₁, typed⟩
  obtain ⟨kind, r₁, typed⟩ := kind
  have parts := wf
  simp only [Member.isWellFormed, kind, Bool.and_eq_true] at parts
  obtain ⟨-, ⟨-, specials⟩, -⟩ := parts
  rw [tokenIf_eq_map, ← List.append_assoc, ← List.map_append] at spelled
  have unmodified := operation_unmodified spelled typed
  obtain ⟨-, behind⟩ := splitModifiers_words (isModifier_operation specials) unmodified toks spelled
  have starts : m.startsOperation = true := by
    refine startsOperation_of_read behind (behind ▸ unmodified) property collection ?_
    intro static special
    -- Without modifiers the operation starts where the member does.
    have same : plain (splitModifiers toks).2 = plain toks := by
      rw [behind, spelled, static, special]
      rfl
    refine ⟨?_, ?_⟩
    · rwa [Lacks, same]
    · rwa [announces_plain, same, ← announces_plain]
  exact operation_recovered wf ran starts deep deep_arguments behind

theorem interfaceMember_recovered {m : Member} (wf : m.isWellFormed = true)
    (deep : 2 * (tokenIf m.isStatic (.identifier "static")
      ++ (m.bodyTokens ++ [Token.punct ';'])).length ≤ depth)
    (spelled : plain toks = tokenIf m.isStatic (.identifier "static")
      ++ (m.bodyTokens ++ .punct ';' :: after))
    (ran : interfaceMember owner depth toks = .ok (m, rest)) : Recovered owner m := by
  simp only [List.length_append] at deep
  -- The parser that was run fixes the kind, and the kind says which tokens were written.
  rcases interfaceMember_eq_ok.1 ran with ⟨r₁, keyword, read⟩ | ⟨announced, read⟩ | ⟨-, -, rfl⟩
    | ⟨const, constructor, -, read⟩
  · have shape : m.kind = .const ∧ m.isStatic = false := by
      obtain ⟨_, _, -, _, _, -, _, -, _, _, -, -, rfl⟩ := constant_eq_ok.1 read
      exact ⟨rfl, rfl⟩
    simp only [shape.2, tokenIf, Bool.false_eq_true, if_false, List.nil_append, Member.bodyTokens, shape.1,
      List.cons_append, List.append_assoc, keyword.plain] at spelled
    exact constant_recovered read (List.cons.inj spelled).2
  · have shape : m.kind = .constructor ∧ m.isStatic = false := by
      obtain ⟨_, _, -, -, rfl⟩ := constructorOf_eq_ok.1 read
      exact ⟨rfl, rfl⟩
    simp only [shape.2, tokenIf, Bool.false_eq_true, if_false, List.nil_append, Member.bodyTokens, shape.1,
      List.cons_append, List.length_nil, List.length_cons] at spelled deep
    have behind : plain (toks.drop 1) = (plain toks).drop 1 := List.map_drop ..
    rw [spelled] at behind
    exact constructor_recovered read wf (by omega) behind
  · exact ⟨rfl, by simp, by simp [Member.isUnambiguous, Argument.attributesUnambiguous,
      Argument.areUnambiguous, TypeExpr.takesLong]⟩
  · rcases modified_eq_ok.1 read with ⟨r₁, keyword, read⟩ | ⟨c, listed, -, read⟩
      | ⟨property, collection, read⟩
    · have shape : m.kind = .property := by
        obtain ⟨_, _, -, _, _, -, -, rfl⟩ := property_eq_ok.1 read
        rfl
      simp only [Member.bodyTokens, shape, List.append_assoc, List.cons_append, List.nil_append] at spelled
      obtain ⟨none_special, behind⟩ := splitModifiers_property spelled
      rw [keyword.plain] at behind
      exact property_recovered none_special read (List.cons.inj behind).2
    · exact collection_recovered listed read
    · have shape : m.kind = .operation := by
        obtain ⟨_, _, -, _, _, -, _, _, -, -, rfl⟩ := operation_eq_ok.1 read
        rfl
      simp only [Member.bodyTokens, shape, List.append_assoc, List.cons_append, List.length_append,
        List.length_cons] at spelled deep
      exact modified_operation_recovered wf read const constructor property collection (by omega) (by omega)
        spelled

/-! ## Members -/

/-- Where the extended attributes of a member end. -/
theorem member_attributes {m : Member} {found : List ExtendedAttribute} (wf : m.isWellFormed = true)
    (deep : 2 * m.tokens.length + 1 ≤ depth) (spelled : plain toks = m.tokens ++ after)
    (ran : attributes depth toks = .ok (found, rest)) (front : found <+: m.attributes) :
    found = m.attributes ∧ Argument.attributesUnambiguous m.attributes = true
      ∧ plain rest = tokenIf m.isStatic (.identifier "static") ++ (m.bodyTokens ++ .punct ';' :: after) := by
  rw [Member.tokens, attributeTokens_eq_map] at deep spelled
  rw [List.length_append] at deep
  simp only [List.append_assoc, List.cons_append, List.nil_append] at spelled
  have wf_attributes : Argument.attributesWellFormed m.attributes = true := by
    rw [Member.isWellFormed, Bool.and_eq_true] at wf
    exact wf.1
  obtain ⟨rfl, clear⟩ := (clearAt depth).ofAttributes wf_attributes (by omega) spelled ran front
  have no_bracket : (tokenIf m.isStatic (.identifier "static")
      ++ (m.bodyTokens ++ .punct ';' :: after)).head? ≠ some (.punct '[') := by
    obtain ⟨token, head, bracket, -⟩ := member_starts m (.punct ';' :: after)
    rw [head]
    simpa using bracket
  obtain ⟨-, behind⟩ := (reads_attributes depth (readsAttributes m.attributes wf_attributes clear)
    (by omega) fun _ => no_bracket).unique spelled ran
  exact ⟨rfl, clear, behind⟩

theorem field_recovered {m inner : Member} {outer : List ExtendedAttribute} {r₁ : List Located}
    (wf : m.isWellFormed = true) (deep : 2 * m.tokens.length + 1 ≤ depth)
    (spelled : plain toks = m.tokens ++ after) (outside : attributes depth toks = .ok (outer, r₁))
    (ran : field depth r₁ = .ok (inner, rest))
    (same : { inner with attributes := outer ++ inner.attributes } = m) :
    m.isPrintable .dictionary owner = true := by
  obtain ⟨required, r₂, keyword, as, r₃, inside, t, r₄, typed, name, r₅, named, value, r₆, -, -, rfl⟩ :=
    field_eq_ok.1 ran
  subst same
  obtain ⟨-, clear, spelled⟩ := member_attributes wf deep spelled outside (List.prefix_append outer as)
  simp only [Member.bodyTokens, List.append_assoc, List.cons_append] at spelled
  obtain ⟨spelled, not_required⟩ := eat_spelled keyword spelled
  have wf_type : t.isWellFormed = true := by
    simp only [Member.isWellFormed, Bool.and_eq_true] at wf
    exact wf.2.1.2
  obtain ⟨-, rfl⟩ := attributes_of_lacks (lacks_of_plain spelled (type_no_bracket _ _)) inside
  have not_long := type_name_clear typed spelled
  have unlike : (required || t.leadingWord? != some "required") = true := by
    cases required with
    | true => rfl
    | false =>
      have head := not_required rfl
      rw [head_type] at head
      have keyword : isPlainWord "required" = true := by decide
      simpa using mt (tokens_head keyword t).2 head
  refine Member.isPrintable_iff.2 ⟨wf, rfl, rfl, ?_⟩
  simp only [Member.isUnambiguous, Bool.and_eq_true, Bool.not_eq_true']
  exact ⟨⟨⟨clear, by rw [Argument.areUnambiguous]⟩, not_long⟩, unlike⟩

theorem member_recovered {kind : DefinitionKind} {m : Member} (wf : m.isWellFormed = true)
    (deep : 2 * m.tokens.length + 1 ≤ depth) (spelled : plain toks = m.tokens ++ after)
    (ran : member kind owner depth toks = .ok (m, rest)) : m.isPrintable kind owner = true := by
  obtain ⟨outer, r₁, outside, inner, read, same⟩ := member_eq_ok.1 ran
  rcases ite_eq_ok.1 read with ⟨rfl, read⟩ | ⟨other, read⟩
  · exact field_recovered wf deep spelled outside read same
  · have front : outer <+: m.attributes := by
      rw [← same]
      exact List.prefix_append _ _
    obtain ⟨-, clear, behind⟩ := member_attributes wf deep spelled outside front
    have deep_inner : 2 * (tokenIf m.isStatic (.identifier "static")
        ++ (m.bodyTokens ++ [Token.punct ';'])).length ≤ depth := by
      rw [Member.tokens, List.length_append] at deep
      omega
    subst same
    have wf_inner : inner.isWellFormed = true := by
      simp only [Member.isWellFormed, Bool.and_eq_true, attributesWellFormed_iff] at wf ⊢
      exact ⟨fun a inside => wf.1 a (List.mem_append_right _ inside), wf.2⟩
    have recovered := interfaceMember_recovered wf_inner deep_inner behind read
    exact recovered.printable wf clear other

theorem members_recovered {kind : DefinitionKind} : ∀ {depth : Nat} {ms found : List Member}
    {toks rest : List Located}, (∀ m ∈ ms, m.isWellFormed = true) →
    2 * (ms.flatMap Member.tokens).length + 2 ≤ depth →
    plain toks = ms.flatMap Member.tokens ++ .punct '\x7d' :: after →
    members kind owner depth toks = .ok (found, rest) → found <+: ms →
    found = ms ∧ ∀ m ∈ ms, m.isPrintable kind owner = true
  | 0, _, _, _, _, _, _, _, ran, _ => by cases ran
  | depth + 1, [], found, toks, rest, _, _, _, _, front => ⟨List.prefix_nil.1 front, by simp⟩
  | depth + 1, m :: ms, found, toks, rest, wf, deep, spelled, ran, front => by
    have some_token : 1 ≤ m.tokens.length := by simp [Member.tokens]; omega
    rw [List.flatMap_cons, List.length_append] at deep
    rw [List.flatMap_cons, List.append_assoc] at spelled
    rw [List.forall_mem_cons] at wf
    rcases members_eq_ok.1 ran with ⟨-, first, r₁, head, others, tail, rfl⟩ | ⟨closed, -⟩
    · obtain ⟨rfl, front_others⟩ := List.cons_prefix_cons.1 front
      have printable := member_recovered wf.1 (by omega) spelled head
      have deep_first : 2 * first.tokens.length + 1 ≤ depth := by omega
      obtain ⟨-, behind⟩ := (reads_member printable deep_first).unique spelled head
      obtain ⟨rfl, printables⟩ := members_recovered wf.2 (by omega) behind tail front_others
      exact ⟨rfl, List.forall_mem_cons.2 ⟨printable, printables⟩⟩
    · exact absurd (lacks_of_plain spelled (member_not_closing _ _)) closed.not_lacks

/-! ## Definitions -/

/-- What is left to know about a well-formed definition for it to be printable. -/
structure Restored (f : Definition) : Prop where
  shown : f.shown = f
  clear : f.isUnambiguous = true
  members : ∀ m ∈ f.members, m.isPrintable f.kind f.name = true

/-- What a definition keeps of the fragment that it starts with. -/
structure Begins (f d : Definition) : Prop where
  kind : f.kind = d.kind
  implements : f.implements = d.implements
  attributes : f.attributes = d.attributes
  type : f.type = d.type
  arguments : f.arguments = d.arguments
  members : f.members <+: d.members

theorem body_restored {kind : DefinitionKind} {f d : Definition}
    (block : kind = .interface ∨ kind = .dictionary ∨ kind = .callbackInterface)
    (wf : ∀ m ∈ d.members, m.isWellFormed = true) (deep : 2 * d.blockTokens.length ≤ depth)
    (spelled : plain toks = d.blockTokens ++ after) (front : f.members <+: d.members)
    (ran : body kind depth toks = .ok (f, rest)) : Restored f ∧ plain rest = after := by
  obtain ⟨name, r₁, named, parent, r₂, inherited, r₃, opened, ms, r₄, listed, ended, rfl⟩ := body_eq_ok.1 ran
  rw [blockTokens_eq] at deep spelled
  simp only [List.length_cons, List.length_append] at deep
  simp only [List.cons_append, List.append_assoc] at spelled
  rw [named.plain] at spelled
  obtain ⟨-, spelled⟩ := reads_parentOption.unique (List.cons.inj spelled).2 inherited
  rw [opened.plain] at spelled
  obtain ⟨-, spelled⟩ := List.cons.inj spelled
  have deep_members : 2 * (d.members.flatMap Member.tokens).length + 2 ≤ depth := by omega
  -- The brace closes behind the members of the whole definition, so none of them is left unread.
  obtain ⟨all_read, printable⟩ := members_recovered wf deep_members spelled listed front
  change ms = d.members at all_read
  subst all_read
  rw [List.append_cons] at spelled
  obtain ⟨-, spelled⟩ := (reads_members _ depth printable deep_members).unique spelled listed
  rw [ended.plain] at spelled
  refine ⟨⟨?_, ?_, printable⟩, (List.cons.inj spelled).2⟩
  · rcases block with rfl | rfl | rfl <;> rfl
  · rcases block with rfl | rfl | rfl <;>
      simp [Definition.isUnambiguous, Argument.attributesUnambiguous, Argument.areUnambiguous]

theorem body_kind {kind : DefinitionKind} {f : Definition} (ran : body kind depth toks = .ok (f, rest)) :
    f.kind = kind := by
  obtain ⟨_, _, -, _, _, -, _, -, _, _, -, -, rfl⟩ := body_eq_ok.1 ran
  rfl

theorem Restored.of_whole {f : Definition} (h : Restored f)
    (block : f.kind = .interface ∨ f.kind = .dictionary) : Restored { f with isPartial := true } := by
  refine ⟨?_, h.clear, h.members⟩
  have shown := h.shown
  obtain ⟨kind⟩ := f
  rcases block with rfl | rfl
  all_goals
    simp only [Definition.shown, Definition.mk.injEq, true_and] at shown ⊢
    exact shown

theorem callback_restored {f d : Definition} (wf : d.isWellFormed = true)
    (deep : 2 * (d.type.getD (.named "undefined")).tokens.length + 1 ≤ depth)
    (deep_arguments : 2 * (Argument.closingTokens d.arguments).length ≤ depth)
    (not_interface : Lacks toks (.identifier "interface"))
    (spelled : plain toks = .identifier d.name :: .punct '=' :: ((d.type.getD (.named "undefined")).tokens
      ++ .punct '(' :: (Argument.closingTokens d.arguments ++ .punct ';' :: after)))
    (same_type : f.type = d.type) (same_arguments : f.arguments = d.arguments)
    (ran : callback depth toks = .ok (f, rest)) : Restored f ∧ plain rest = after := by
  obtain ⟨name, r₁, named, r₂, equals, t, r₃, typed, as, r₄, listed, ended, rfl⟩ := callback_eq_ok.1 ran
  change some t = d.type at same_type
  change as = d.arguments at same_arguments
  simp only [Definition.isWellFormed, ← same_type, ← same_arguments, Bool.and_eq_true, Option.all_some] at wf
  rw [← same_type, Option.getD_some] at spelled deep
  rw [← same_arguments] at spelled deep_arguments
  rw [named.plain] at spelled
  obtain ⟨-, spelled⟩ := List.cons.inj spelled
  rw [equals.plain] at spelled
  obtain ⟨-, spelled⟩ := List.cons.inj spelled
  obtain ⟨-, spelled⟩ := ((readsType t wf.1.2).type depth _ deep
    (stops_of_head rfl (by simp) (by simp) (by simp))).unique spelled typed
  obtain ⟨r₅, opened, read⟩ := arguments_eq_ok.1 listed
  have clear : Argument.areUnambiguous as = true := by
    rw [opened.plain] at spelled
    exact (clearAt depth).ofArguments wf.2 deep_arguments (List.cons.inj spelled).2 read
  obtain ⟨-, spelled⟩ := (reads_parenthesized wf.2 clear deep_arguments).unique spelled listed
  rw [ended.plain] at spelled
  refine ⟨⟨rfl, ?_, by simp⟩, (List.cons.inj spelled).2⟩
  have other : name ≠ "interface" := by
    rintro rfl
    exact named.not_lacks not_interface
  simp [Definition.isUnambiguous, Argument.attributesUnambiguous, clear, other]

theorem enumeration_restored {f d : Definition} (deep : d.values.length + 1 ≤ depth)
    (spelled : plain toks = .identifier d.name :: .punct '\x7b'
      :: (separated (.punct ',') (d.values.map fun value => [.string value])
      ++ .punct '\x7d' :: .punct ';' :: after))
    (ran : enumeration depth toks = .ok (f, rest)) : Restored f ∧ plain rest = after := by
  obtain ⟨rfl, behind⟩ := (reads_enumeration deep).unique (by simpa using spelled) ran
  refine ⟨⟨rfl, ?_, by simp⟩, behind⟩
  simp [Definition.isUnambiguous, Argument.attributesUnambiguous, Argument.areUnambiguous]

theorem typeAlias_restored {f d : Definition} (wf : d.isWellFormed = true)
    (deep : 2 * (d.type.getD (.named "any")).tokens.length + 1 ≤ depth)
    (spelled : plain toks = (d.type.getD (.named "any")).tokens
      ++ .identifier d.name :: .punct ';' :: after)
    (same_type : f.type = d.type) (ran : typeAlias depth toks = .ok (f, rest)) :
    Restored f ∧ plain rest = after := by
  obtain ⟨as, r₁, skipped, t, r₂, typed, name, r₃, named, ended, rfl⟩ := typeAlias_eq_ok.1 ran
  change some t = d.type at same_type
  simp only [Definition.isWellFormed, ← same_type, Bool.and_eq_true, Option.all_some] at wf
  rw [← same_type, Option.getD_some] at spelled deep
  obtain ⟨-, rfl⟩ := attributes_of_lacks (lacks_of_plain spelled (type_no_bracket _ _)) skipped
  have not_long := type_name_clear typed spelled
  obtain ⟨-, spelled⟩ := ((readsType t wf.1.2).type depth _ deep (stops_name not_long)).unique spelled typed
  rw [named.plain] at spelled
  obtain ⟨same_name, behind⟩ := List.cons.inj spelled
  obtain rfl : name = d.name := by simpa using same_name
  rw [ended.plain] at behind
  refine ⟨⟨rfl, ?_, by simp⟩, (List.cons.inj behind).2⟩
  simp [Definition.isUnambiguous, Argument.attributesUnambiguous, Argument.areUnambiguous, not_long]

/-! ## Keywords in front of definitions -/

theorem keyword_taken {word keyword : String} {isPartial : Bool} {later : List Token}
    (taken : Takes toks (.identifier word) rest) (other : word ≠ "partial")
    (spelled : plain toks = tokenIf isPartial (.identifier "partial") ++ .identifier keyword :: later) :
    plain rest = later := by
  rw [taken.plain] at spelled
  cases isPartial with
  | false => exact (List.cons.inj spelled).2
  | true => exact absurd (by simpa using (List.cons.inj spelled).1) other

theorem partial_taken {d : Definition} (taken : Takes toks (.identifier "partial") rest)
    (spelled : plain toks = tokenIf d.isPartial (.identifier "partial") ++ (d.bodyTokens ++ after)) :
    plain rest = d.bodyTokens ++ after := by
  rw [taken.plain] at spelled
  cases partially : d.isPartial with
  | true =>
    rw [partially] at spelled
    exact (List.cons.inj spelled).2
  | false =>
    rw [partially] at spelled
    cases kind : d.kind <;> simp [tokenIf, Definition.bodyTokens, kind] at spelled

/-- Behind its extended attributes a definition starts with a keyword. -/
theorem definition_keyword (d : Definition) (after : List Token) : ∃ word ∈ keywords,
    (tokenIf d.isPartial (.identifier "partial") ++ (d.bodyTokens ++ after)).head?
      = some (.identifier word) := by
  cases d.isPartial with
  | true => exact ⟨"partial", by decide, rfl⟩
  | false => cases kind : d.kind <;> simp [tokenIf, Definition.bodyTokens, kind, keywords]

theorem partialBody_restored {f d : Definition} (wf : ∀ m ∈ d.members, m.isWellFormed = true)
    (deep : 2 * d.bodyTokens.length ≤ depth) (spelled : plain toks = d.bodyTokens ++ after)
    (same_kind : f.kind = d.kind) (front : f.members <+: d.members)
    (ran : partialBody depth toks = .ok (f, rest)) : Restored f ∧ plain rest = after := by
  rcases partialBody_eq_ok.1 ran with ⟨r₁, taken, r₂, skipped, whole, read, rfl⟩
    | ⟨r₁, taken, whole, read, rfl⟩
  · have of_body := body_kind read
    have kind : d.kind = .interface := same_kind.symm.trans of_body
    change whole.members <+: d.members at front
    simp only [Definition.bodyTokens, kind, List.length_cons] at deep
    simp only [Definition.bodyTokens, kind, List.cons_append, taken.plain] at spelled
    obtain ⟨-, behind⟩ := List.cons.inj spelled
    rw [skipMixin_block behind] at skipped
    cases skipped
    have deep_block : 2 * d.blockTokens.length ≤ depth := by omega
    obtain ⟨restored, ended⟩ := body_restored (.inl rfl) wf deep_block behind front read
    exact ⟨restored.of_whole (.inl of_body), ended⟩
  · have of_body := body_kind read
    have kind : d.kind = .dictionary := same_kind.symm.trans of_body
    change whole.members <+: d.members at front
    simp only [Definition.bodyTokens, kind, List.length_cons] at deep
    simp only [Definition.bodyTokens, kind, List.cons_append, taken.plain] at spelled
    obtain ⟨-, behind⟩ := List.cons.inj spelled
    have deep_block : 2 * d.blockTokens.length ≤ depth := by omega
    obtain ⟨restored, ended⟩ := body_restored (.inr (.inl rfl)) wf deep_block behind front read
    exact ⟨restored.of_whole (.inr of_body), ended⟩

theorem bareDefinition_restored {f d : Definition} (wf : d.isWellFormed = true)
    (deep : 2 * d.bodyTokens.length ≤ depth)
    (spelled : plain toks = tokenIf d.isPartial (.identifier "partial") ++ (d.bodyTokens ++ after))
    (ran : bareDefinition depth toks = .ok (f, rest)) (same_kind : f.kind = d.kind)
    (same_type : f.type = d.type) (same_arguments : f.arguments = d.arguments)
    (front : f.members <+: d.members) : Restored f ∧ plain rest = after := by
  have wf_members : ∀ m ∈ d.members, m.isWellFormed = true := by
    simp only [Definition.isWellFormed, Bool.and_eq_true] at wf
    exact List.all_eq_true.1 wf.1.1.1.1.2
  -- What was read has a kind, and the definition has the same; so the tokens behind the keyword are known.
  rcases bareDefinition_eq_ok.1 ran with ⟨r₁, taken, read⟩
    | ⟨r₁, taken, ⟨not_interface, read⟩ | ⟨r₂, interface, read⟩⟩ | ⟨r₁, taken, r₂, skipped, read⟩
    | ⟨r₁, taken, read⟩ | ⟨r₁, taken, read⟩ | ⟨r₁, taken, read⟩ | ⟨lacks, -⟩
  · exact partialBody_restored wf_members deep (partial_taken taken spelled) same_kind front read
  · have kind : d.kind = .callback := by
      rw [← same_kind]
      obtain ⟨_, _, -, _, -, _, _, -, _, _, -, -, rfl⟩ := callback_eq_ok.1 read
      rfl
    simp only [Definition.bodyTokens, kind, List.length_cons, List.length_append] at deep
    simp only [Definition.bodyTokens, kind, List.cons_append, List.append_assoc] at spelled
    have behind := keyword_taken taken (by decide) spelled
    exact callback_restored wf (by omega) (by omega) not_interface behind same_type same_arguments read
  · have kind : d.kind = .callbackInterface := by rw [← same_kind]; exact body_kind read
    simp only [Definition.bodyTokens, kind, List.length_cons] at deep
    simp only [Definition.bodyTokens, kind, List.cons_append] at spelled
    have behind := keyword_taken taken (by decide) spelled
    rw [interface.plain] at behind
    exact body_restored (.inr (.inr rfl)) wf_members (by omega) (List.cons.inj behind).2 front read
  · have kind : d.kind = .interface := by rw [← same_kind]; exact body_kind read
    simp only [Definition.bodyTokens, kind, List.length_cons] at deep
    simp only [Definition.bodyTokens, kind, List.cons_append] at spelled
    have behind := keyword_taken taken (by decide) spelled
    rw [skipMixin_block behind] at skipped
    cases skipped
    exact body_restored (.inl rfl) wf_members (by omega) behind front read
  · have kind : d.kind = .dictionary := by rw [← same_kind]; exact body_kind read
    simp only [Definition.bodyTokens, kind, List.length_cons] at deep
    simp only [Definition.bodyTokens, kind, List.cons_append] at spelled
    have behind := keyword_taken taken (by decide) spelled
    exact body_restored (.inr (.inl rfl)) wf_members (by omega) behind front read
  · have kind : d.kind = .enum := by
      rw [← same_kind]
      obtain ⟨_, _, -, _, -, _, _, -, -, rfl⟩ := enumeration_eq_ok.1 read
      rfl
    simp only [Definition.bodyTokens, kind, List.length_cons, List.length_append] at deep
    simp only [Definition.bodyTokens, kind, List.cons_append, List.append_assoc] at spelled
    have some_tokens := values_le_tokens d.values
    have behind := keyword_taken taken (by decide) spelled
    exact enumeration_restored (by omega) behind read
  · have kind : d.kind = .typedef := by
      rw [← same_kind]
      obtain ⟨_, _, -, _, _, -, _, _, -, -, rfl⟩ := typeAlias_eq_ok.1 read
      rfl
    simp only [Definition.bodyTokens, kind, List.length_cons, List.length_append] at deep
    simp only [Definition.bodyTokens, kind, List.cons_append, List.append_assoc] at spelled
    have behind := keyword_taken taken (by decide) spelled
    exact typeAlias_restored wf (by omega) behind same_type read
  · obtain ⟨word, listed, head⟩ := definition_keyword d after
    exact absurd (by rw [spelled, head]) (lacks word listed)

theorem Restored.with_attributes {f : Definition} {as : List ExtendedAttribute} (h : Restored f)
    (clear : Argument.attributesUnambiguous as = true) : Restored { f with attributes := as } := by
  refine ⟨?_, ?_, h.members⟩
  · have moved : { f with attributes := as }.shown = { f.shown with attributes := as } := by
      obtain ⟨kind⟩ := f
      cases kind <;> rfl
    rw [moved, h.shown]
  · have unambiguous := h.clear
    simp only [Definition.isUnambiguous, Bool.and_eq_true] at unambiguous ⊢
    exact ⟨⟨clear, unambiguous.1.2⟩, unambiguous.2⟩

theorem Restored.implements_none {f : Definition} (h : Restored f) : f.implements = none := by
  rw [← h.shown]
  cases kind : f.kind <;> simp [Definition.shown, kind]

/-- A definition that comes out of the tokens of one that it begins hides nothing and is unambiguous,
and all the tokens are used up. -/
theorem definition_restored {f d : Definition} (wf : d.isWellFormed = true)
    (deep : 2 * d.tokens.length + 1 ≤ depth) (spelled : plain toks = d.tokens ++ after)
    (begins : Begins f d) (ran : definition depth toks = .ok (f, rest)) :
    Restored f ∧ plain rest = after := by
  obtain ⟨as, r₁, outer, bare, read, rfl⟩ := definition_eq_ok.1 ran
  have same_attributes : as = d.attributes := begins.attributes
  subst same_attributes
  have wf_attributes : Argument.attributesWellFormed d.attributes = true := by
    simp only [Definition.isWellFormed, Bool.and_eq_true] at wf
    exact wf.1.1.2
  rw [Definition.tokens, attributeTokens_eq_map] at deep spelled
  simp only [List.length_append] at deep
  simp only [List.append_assoc] at spelled
  obtain ⟨-, clear⟩ := (clearAt depth).ofAttributes wf_attributes (by omega) spelled outer
    (List.prefix_refl _)
  obtain ⟨-, spelled⟩ := (reads_attributes depth (readsAttributes _ wf_attributes clear) (by omega)
    fun _ => definition_starts d _).unique spelled outer
  have deep_body : 2 * d.bodyTokens.length ≤ depth := by omega
  obtain ⟨restored, ended⟩ := bareDefinition_restored wf deep_body spelled read begins.kind
    begins.type begins.arguments begins.members
  refine ⟨restored.with_attributes clear, ?_⟩
  -- What is implemented would have been written behind the definition, but it is not read with it.
  have none_implemented : none = d.implements := restored.implements_none.symm.trans begins.implements
  rwa [Definition.implementsTokens, ← none_implemented] at ended

theorem Restored.isPrintable {d : Definition} (h : Restored d) (wf : d.isWellFormed = true) :
    d.isPrintable = true :=
  Definition.isPrintable_iff.2 ⟨wf, h.shown, h.clear, h.members⟩

/-- If the first of several definitions begins the one that was written, there are no others. -/
theorem first_restored {f d : Definition} {others : List Definition} (wf : d.isWellFormed = true)
    (begins : Begins f d) (spelled : plain toks = d.tokens)
    (ran : definitions (depthFor toks) toks = .ok (f :: others, rest)) : Restored f ∧ others = [] := by
  have deep := deep_enough spelled
  obtain ⟨depth, enough⟩ := Nat.exists_eq_add_of_le' (show 1 ≤ depthFor toks by omega)
  rw [enough] at deep ran
  rcases definitions_eq_ok.1 ran with ⟨-, same, -⟩ | ⟨-, first, r₁, head, later, tail, same⟩
  · cases same
  cases same
  rw [← List.append_nil d.tokens] at spelled
  obtain ⟨restored, behind⟩ := definition_restored wf (by omega) spelled begins head
  obtain rfl : r₁ = [] := List.map_eq_nil_iff.1 behind
  refine ⟨restored, ?_⟩
  cases depth with
  | zero => cases tail
  | succ depth =>
    rcases definitions_eq_ok.1 tail with ⟨-, none, -⟩ | ⟨some, -⟩
    · exact none.symm
    · exact absurd rfl some

theorem Begins.refl (d : Definition) : Begins d d :=
  ⟨rfl, rfl, rfl, rfl, rfl, List.prefix_refl _⟩

theorem definitions_restored : ∀ {depth : Nat} {ds : List Definition} {toks rest : List Located},
    (∀ d ∈ ds, d.isWellFormed = true) → 2 * (ds.flatMap Definition.tokens).length + 2 ≤ depth →
    plain toks = ds.flatMap Definition.tokens → definitions depth toks = .ok (ds, rest) →
    ∀ d ∈ ds, d.isPrintable = true
  | 0, _, _, _, _, _, _, ran => by cases ran
  | depth + 1, [], _, _, _, _, _, _ => by simp
  | depth + 1, d :: ds, toks, rest, wf, deep, spelled, ran => by
    have some_token := tokens_pos d
    rw [List.flatMap_cons, List.length_append] at deep
    rw [List.flatMap_cons] at spelled
    rw [List.forall_mem_cons] at wf
    rcases definitions_eq_ok.1 ran with ⟨-, same, -⟩ | ⟨-, first, r₁, head, others, tail, same⟩
    · cases same
    · cases same
      have deep_first : 2 * d.tokens.length + 1 ≤ depth := by omega
      obtain ⟨restored, behind⟩ := definition_restored wf.1 deep_first spelled (.refl d) head
      have printables := definitions_restored wf.2 (by omega) behind tail
      exact List.forall_mem_cons.2 ⟨restored.isPrintable wf.1, printables⟩

end Grammar

open Grammar in
/-- Definitions that a text spells and that are read from it are printable. -/
theorem Schema.printable_of_parse {text : String} {ds : List Definition}
    (spells : Token.Spells text.toList (ds.flatMap Definition.tokens))
    (read : Schema.parse text = .ok ds) : ∀ d ∈ ds, d.isPrintable = true := by
  obtain ⟨toks, lexed, spelled⟩ := spells .start
  obtain ⟨toks', lexed', rest, ran⟩ := Schema.parse_eq_ok.1 read
  rw [lexed] at lexed'
  cases lexed'
  exact definitions_restored (Schema.parse_shape read) (deep_enough spelled) spelled ran

end IdlBindings
