/-
# IdlBindings.Proofs.ReadDefinitions: definitions and schemas are read back.
-/
import IdlBindings.Proofs.ReadMembers

namespace IdlBindings

namespace Grammar

open Token (Located plain isIdentifier)

variable {toks rest : List Located} {depth : Nat} {after : List Token}

/-! ## Behind the keyword -/

theorem blockTokens_eq (d : Definition) : d.blockTokens = .identifier d.name
    :: (d.parent.elim [] (fun parent => [.punct ':', .identifier parent]) ++ .punct '\x7b'
    :: (d.members.flatMap Member.tokens ++ [.punct '\x7d', .punct ';'])) := by
  rw [Definition.blockTokens]
  cases d.parent <;> rfl

theorem reads_parentOption {parent : Option String} {later : List Token} :
    Reads parentOption (parent.elim [] (fun parent => [.punct ':', .identifier parent])) parent
      (.punct '\x7b' :: later) := by
  rw [parentOption_eq]
  cases parent with
  | none => exact reads_none (by simp)
  | some parent => exact reads_some reads_identifier

theorem reads_body {d : Definition} {kind : DefinitionKind} (same : d.kind = kind)
    (each : ∀ m ∈ d.members, m.isPrintable d.kind d.name = true)
    (deep : 2 * d.blockTokens.length ≤ depth) :
    Reads (body kind depth) d.blockTokens
      { kind, name := d.name, parent := d.parent, members := d.members } after := by
  subst same
  rw [blockTokens_eq] at deep ⊢
  simp only [List.length_cons, List.length_append] at deep
  intro toks spelled
  simp only [List.cons_append, List.append_assoc] at spelled
  obtain ⟨r₁, named, spelled⟩ := takes_of_plain spelled
  obtain ⟨r₂, inherited, spelled⟩ := reads_parentOption r₁ spelled
  obtain ⟨r₃, opened, spelled⟩ := takes_of_plain spelled
  have read_members : Reads (members d.kind d.name depth)
      (d.members.flatMap Member.tokens ++ [.punct '\x7d']) d.members (.punct ';' :: after) :=
    reads_members d.members depth each (by omega)
  rw [List.append_cons] at spelled
  obtain ⟨r₄, listed, spelled⟩ := read_members r₃ spelled
  obtain ⟨rest, ended, spelled⟩ := takes_of_plain spelled
  exact ⟨rest, body_eq_ok.2 ⟨d.name, r₁, named, d.parent, r₂, inherited, r₃, opened, d.members, r₄, listed,
    ended, rfl⟩, spelled⟩

/-- A name is never `mixin` in front of another name: a colon or a brace stands behind it. -/
theorem skipMixin_block {d : Definition} (spelled : plain toks = d.blockTokens ++ after) :
    skipMixin toks = .ok ((), toks) := by
  rw [blockTokens_eq] at spelled
  obtain ⟨r₁, named, spelled⟩ := takes_of_plain spelled
  refine skipMixin_name named ?_
  intro other
  refine lacks_of_plain spelled ?_
  cases d.parent <;> simp

theorem reads_callback {name : String} {returned : TypeExpr} {as : List Argument}
    (typed : returned.isWellFormed = true) (wf : Argument.areWellFormed as = true)
    (clear : Argument.areUnambiguous as = true)
    (deep : 2 * returned.tokens.length + 1 ≤ depth)
    (deep_arguments : 2 * (Argument.closingTokens as).length ≤ depth) :
    Reads (callback depth)
      (.identifier name :: .punct '=' :: (returned.tokens
        ++ .punct '(' :: (Argument.closingTokens as ++ [.punct ';'])))
      { kind := .callback, name, type := some returned, arguments := as } after := by
  intro toks spelled
  simp only [List.cons_append, List.append_assoc] at spelled
  obtain ⟨r₁, named, spelled⟩ := takes_of_plain spelled
  obtain ⟨r₂, equals, spelled⟩ := takes_of_plain spelled
  obtain ⟨r₃, first, spelled⟩ := (readsType returned typed).type depth _ deep
    (stops_of_head rfl (by simp) (by simp) (by simp)) r₂ spelled
  obtain ⟨r₄, second, spelled⟩ := reads_parenthesized wf clear deep_arguments r₃ spelled
  obtain ⟨rest, ended, spelled⟩ := takes_of_plain spelled
  exact ⟨rest, callback_eq_ok.2 ⟨name, r₁, named, r₂, equals, returned, r₃, first, as, r₄, second, ended,
    rfl⟩, spelled⟩

theorem values_le_tokens (values : List String) :
    values.length ≤ (separated (.punct ',') (values.map fun value => [Token.string value])).length := by
  cases values with
  | nil => simp
  | cons value values => simp [separated, List.length_flatMap, Function.comp_def]; omega

theorem reads_enumeration {name : String} {values : List String} (deep : values.length + 1 ≤ depth) :
    Reads (enumeration depth)
      (.identifier name :: .punct '\x7b'
        :: (separated (.punct ',') (values.map fun value => [.string value])
        ++ [.punct '\x7d', .punct ';']))
      { kind := .enum, name, values } after := by
  intro toks spelled
  simp only [List.cons_append, List.append_assoc] at spelled
  obtain ⟨r₁, named, spelled⟩ := takes_of_plain spelled
  obtain ⟨r₂, opened, spelled⟩ := takes_of_plain spelled
  rw [List.append_cons] at spelled
  obtain ⟨r₃, listed, spelled⟩ := reads_enumValues values depth deep r₂ spelled
  obtain ⟨rest, ended, spelled⟩ := takes_of_plain spelled
  exact ⟨rest, enumeration_eq_ok.2 ⟨name, r₁, named, r₂, opened, values, r₃, listed, ended, rfl⟩, spelled⟩

theorem reads_typeAlias {name : String} {aliased : TypeExpr} (typed : aliased.isWellFormed = true)
    (clear : (aliased.takesLong && name == "long") = false)
    (deep : 2 * aliased.tokens.length + 1 ≤ depth) :
    Reads (typeAlias depth) (aliased.tokens ++ [.identifier name, .punct ';'])
      { kind := .typedef, name, type := some aliased } after := by
  intro toks spelled
  rw [List.append_assoc] at spelled
  have no_bracket := lacks_of_plain spelled (type_no_bracket _ _)
  obtain ⟨r₁, first, spelled⟩ := (readsType aliased typed).type depth _ deep (stops_name clear) toks
    spelled
  obtain ⟨r₂, named, spelled⟩ := takes_of_plain spelled
  obtain ⟨rest, ended, spelled⟩ := takes_of_plain spelled
  exact ⟨rest, typeAlias_eq_ok.2 ⟨[], toks, attributes_lacking no_bracket (by omega), aliased, r₁, first,
    name, r₂, named, ended, rfl⟩, spelled⟩

theorem isWellFormed_getD {type : Option TypeExpr} {fallback : TypeExpr}
    (typed : type.all (·.isWellFormed) = true) (default : fallback.isWellFormed = true) :
    (type.getD fallback).isWellFormed = true := by
  cases type with
  | none => exact default
  | some t => exact typed

/-! ## Definitions -/

theorem reads_interface {d : Definition} (kind : d.kind = .interface)
    (each : ∀ m ∈ d.members, m.isPrintable d.kind d.name = true)
    (deep : 2 * d.blockTokens.length ≤ depth) :
    Reads (bareDefinition depth)
      (tokenIf d.isPartial (.identifier "partial") ++ .identifier "interface" :: d.blockTokens)
      { kind := .interface, name := d.name, isPartial := d.isPartial, parent := d.parent,
        members := d.members } after := by
  cases d.isPartial with
  | false =>
    intro toks spelled
    obtain ⟨r₁, keyword, spelled⟩ := takes_of_plain spelled
    obtain ⟨rest, ran, ended⟩ := reads_body kind each deep r₁ spelled
    exact ⟨rest, bareDefinition_eq_ok.2 (.inr (.inr (.inl ⟨r₁, keyword, r₁, skipMixin_block spelled,
      ran⟩))), ended⟩
  | true =>
    intro toks spelled
    obtain ⟨r₁, keyword, spelled⟩ := takes_of_plain spelled
    obtain ⟨r₂, second, spelled⟩ := takes_of_plain spelled
    obtain ⟨rest, ran, ended⟩ := reads_body kind each deep r₂ spelled
    exact ⟨rest, bareDefinition_eq_ok.2 (.inl ⟨r₁, keyword, partialBody_eq_ok.2 (.inl ⟨r₂, second, r₂,
      skipMixin_block spelled, _, ran, rfl⟩)⟩), ended⟩

theorem reads_dictionary {d : Definition} (kind : d.kind = .dictionary)
    (each : ∀ m ∈ d.members, m.isPrintable d.kind d.name = true)
    (deep : 2 * d.blockTokens.length ≤ depth) :
    Reads (bareDefinition depth)
      (tokenIf d.isPartial (.identifier "partial") ++ .identifier "dictionary" :: d.blockTokens)
      { kind := .dictionary, name := d.name, isPartial := d.isPartial, parent := d.parent,
        members := d.members } after := by
  cases d.isPartial with
  | false =>
    intro toks spelled
    obtain ⟨r₁, keyword, spelled⟩ := takes_of_plain spelled
    obtain ⟨rest, ran, ended⟩ := reads_body kind each deep r₁ spelled
    exact ⟨rest, bareDefinition_eq_ok.2 (.inr (.inr (.inr (.inl ⟨r₁, keyword, ran⟩)))), ended⟩
  | true =>
    intro toks spelled
    obtain ⟨r₁, keyword, spelled⟩ := takes_of_plain spelled
    obtain ⟨r₂, second, spelled⟩ := takes_of_plain spelled
    obtain ⟨rest, ran, ended⟩ := reads_body kind each deep r₂ spelled
    exact ⟨rest, bareDefinition_eq_ok.2 (.inl ⟨r₁, keyword, partialBody_eq_ok.2 (.inr ⟨r₂, second, _,
      ran, rfl⟩)⟩), ended⟩

/-- A definition is read from what stands behind its extended attributes. -/
theorem reads_bareDefinition {d : Definition} (h : d.isPrintable = true)
    (deep : 2 * (tokenIf d.isPartial (.identifier "partial") ++ d.bodyTokens).length ≤ depth) :
    Reads (bareDefinition depth) (tokenIf d.isPartial (.identifier "partial") ++ d.bodyTokens)
      { d with attributes := [] } after := by
  obtain ⟨wf, shown, clear, each⟩ := Definition.isPrintable_iff.1 h
  simp only [Definition.isWellFormed, Bool.and_eq_true] at wf
  simp only [Definition.isUnambiguous, Bool.and_eq_true] at clear
  -- A printable definition is what it shows, which says for each kind which fields are empty.
  have bare : { d with attributes := [] } = { d.shown with attributes := [] } := by rw [shown]
  have whole : d.shown.isPartial = d.isPartial := by rw [shown]
  rw [bare]
  rw [List.length_append] at deep
  cases kind : d.kind with
  | interface =>
    simp only [Definition.bodyTokens, kind, List.length_cons] at deep ⊢
    simp only [Definition.shown, kind]
    exact reads_interface kind each (by omega)
  | dictionary =>
    simp only [Definition.bodyTokens, kind, List.length_cons] at deep ⊢
    simp only [Definition.shown, kind]
    exact reads_dictionary kind each (by omega)
  | callbackInterface =>
    intro toks spelled
    simp only [Definition.shown, kind] at whole
    simp only [Definition.bodyTokens, kind, List.length_cons] at deep
    simp only [Definition.bodyTokens, kind, ← whole, tokenIf, Bool.false_eq_true, if_false,
      List.nil_append] at spelled
    simp only [Definition.shown, kind]
    have deep_block : 2 * d.blockTokens.length ≤ depth := by omega
    obtain ⟨r₁, keyword, spelled⟩ := takes_of_plain spelled
    obtain ⟨r₂, second, spelled⟩ := takes_of_plain spelled
    obtain ⟨rest, ran, ended⟩ := reads_body kind each deep_block r₂ spelled
    exact ⟨rest, bareDefinition_eq_ok.2 (.inr (.inl ⟨r₁, keyword, .inr ⟨r₂, second, ran⟩⟩)), ended⟩
  | callback =>
    intro toks spelled
    simp only [Definition.shown, kind] at whole
    simp only [kind, bne_iff_ne] at clear
    simp only [Definition.bodyTokens, kind, List.length_cons, List.length_append] at deep
    simp only [Definition.bodyTokens, kind, ← whole, tokenIf, Bool.false_eq_true, if_false,
      List.nil_append] at spelled
    simp only [Definition.shown, kind]
    have typed := isWellFormed_getD wf.1.2 (show (TypeExpr.named "undefined").isWellFormed = true by decide)
    obtain ⟨r₁, keyword, spelled⟩ := takes_of_plain spelled
    -- A callback named `interface` would be taken for a callback interface.
    have not_interface : Lacks r₁ (.identifier "interface") :=
      lacks_of_plain spelled (by simpa using clear.2)
    have deep_type : 2 * (d.type.getD (.named "undefined")).tokens.length + 1 ≤ depth := by omega
    have deep_arguments : 2 * (Argument.closingTokens d.arguments).length ≤ depth := by omega
    obtain ⟨rest, ran, ended⟩ := reads_callback typed wf.2 clear.1.2 deep_type deep_arguments r₁ spelled
    exact ⟨rest, bareDefinition_eq_ok.2 (.inr (.inl ⟨r₁, keyword, .inl ⟨not_interface, ran⟩⟩)), ended⟩
  | enum =>
    intro toks spelled
    simp only [Definition.shown, kind] at whole
    simp only [Definition.bodyTokens, kind, List.length_cons, List.length_append] at deep
    simp only [Definition.bodyTokens, kind, ← whole, tokenIf, Bool.false_eq_true, if_false,
      List.nil_append] at spelled
    simp only [Definition.shown, kind]
    have some_tokens := values_le_tokens d.values
    have deep_values : d.values.length + 1 ≤ depth := by omega
    obtain ⟨r₁, keyword, spelled⟩ := takes_of_plain spelled
    obtain ⟨rest, ran, ended⟩ := reads_enumeration deep_values r₁ spelled
    exact ⟨rest, bareDefinition_eq_ok.2 (.inr (.inr (.inr (.inr (.inl ⟨r₁, keyword, ran⟩))))), ended⟩
  | typedef =>
    intro toks spelled
    simp only [Definition.shown, kind] at whole
    simp only [kind, Bool.not_eq_true'] at clear
    simp only [Definition.bodyTokens, kind, List.length_cons, List.length_append] at deep
    simp only [Definition.bodyTokens, kind, ← whole, tokenIf, Bool.false_eq_true, if_false,
      List.nil_append] at spelled
    simp only [Definition.shown, kind]
    have typed := isWellFormed_getD wf.1.2 (show (TypeExpr.named "any").isWellFormed = true by decide)
    have clear_name : ((d.type.getD (.named "any")).takesLong && d.name == "long") = false := by
      cases found : d.type with
      | none => rfl
      | some t => simpa [found] using clear.2
    have deep_type : 2 * (d.type.getD (.named "any")).tokens.length + 1 ≤ depth := by omega
    obtain ⟨r₁, keyword, spelled⟩ := takes_of_plain spelled
    obtain ⟨rest, ran, ended⟩ := reads_typeAlias typed clear_name deep_type r₁ spelled
    exact ⟨rest, bareDefinition_eq_ok.2 (.inr (.inr (.inr (.inr (.inr (.inl ⟨r₁, keyword, ran⟩)))))), ended⟩

/-- Behind its extended attributes a definition starts with a keyword. -/
theorem definition_starts (d : Definition) (after : List Token) :
    (tokenIf d.isPartial (.identifier "partial") ++ (d.bodyTokens ++ after)).head?
      ≠ some (.punct '[') := by
  cases d.isPartial with
  | true => simp [tokenIf]
  | false => cases kind : d.kind <;> simp [tokenIf, Definition.bodyTokens, kind]

theorem reads_definition {d : Definition} (h : d.isPrintable = true)
    (deep : 2 * d.tokens.length + 1 ≤ depth) : Reads (definition depth) d.tokens d after := by
  obtain ⟨wf, shown, clear, -⟩ := Definition.isPrintable_iff.1 h
  simp only [Definition.isWellFormed, Definition.isUnambiguous, Bool.and_eq_true] at wf clear
  -- An implements statement is a definition of its own, so a printable one has none behind it.
  have alone : d.implementsTokens = [] := by
    have none_implemented : d.implements = none := by
      rw [← shown]
      cases kind : d.kind <;> simp [Definition.shown, kind]
    simp [Definition.implementsTokens, none_implemented]
  rw [Definition.tokens, alone, List.append_nil, attributeTokens_eq_map] at deep ⊢
  rw [List.length_append] at deep
  intro toks spelled
  rw [List.append_assoc] at spelled
  have each := readsAttributes d.attributes wf.1.1.2 clear.1.1
  obtain ⟨r₁, outer, spelled⟩ := reads_attributes depth each (by omega)
    (fun _ => by rw [List.append_assoc]; exact definition_starts d after) toks spelled
  have deep_bare : 2 * (tokenIf d.isPartial (.identifier "partial") ++ d.bodyTokens).length ≤ depth := by
    omega
  obtain ⟨rest, ran, spelled⟩ := reads_bareDefinition h deep_bare r₁ spelled
  exact ⟨rest, definition_eq_ok.2 ⟨d.attributes, r₁, outer, _, ran, rfl⟩, spelled⟩

theorem tokens_pos (d : Definition) : 1 ≤ d.tokens.length := by
  have keyword : 1 ≤ d.bodyTokens.length := by
    cases kind : d.kind <;> simp [Definition.bodyTokens, kind]
  rw [Definition.tokens, List.length_append, List.length_append, List.length_append]
  omega

theorem reads_definitions : ∀ (ds : List Definition) (depth : Nat),
    (∀ d ∈ ds, d.isPrintable = true) → 2 * (ds.flatMap Definition.tokens).length + 2 ≤ depth →
    Reads (definitions depth) (ds.flatMap Definition.tokens) ds []
  | [], depth, _, deep => by
    intro toks spelled
    obtain ⟨depth, rfl⟩ := Nat.exists_eq_add_of_le' (show 1 ≤ depth by omega)
    obtain rfl : toks = [] := List.map_eq_nil_iff.1 spelled
    exact ⟨[], definitions_eq_ok.2 (.inl ⟨rfl, rfl, rfl⟩), rfl⟩
  | d :: ds, depth, each, deep => by
    have some_token := tokens_pos d
    rw [List.flatMap_cons, List.length_append] at deep
    obtain ⟨depth, rfl⟩ := Nat.exists_eq_add_of_le' (show 1 ≤ depth by omega)
    intro toks spelled
    rw [List.flatMap_cons, List.append_assoc] at spelled
    -- The loop ends with the tokens, and these are not used up before the last definition.
    have nonempty : toks ≠ [] := by
      rintro rfl
      have := congrArg List.length spelled
      rw [List.length_append] at this
      change 0 = _ at this
      omega
    have deep_first : 2 * d.tokens.length + 1 ≤ depth := by omega
    obtain ⟨r₁, first, spelled⟩ := reads_definition (each d (by simp)) deep_first toks spelled
    obtain ⟨rest, others, spelled⟩ := reads_definitions ds depth
      (fun d inside => each d (List.mem_cons_of_mem _ inside)) (by omega) r₁ spelled
    exact ⟨rest, definitions_eq_ok.2 (.inr ⟨nonempty, d, r₁, first, ds, others, rfl⟩), spelled⟩

theorem deep_enough {ts : List Token} (spelled : plain toks = ts) : 2 * ts.length + 2 ≤ depthFor toks := by
  have : toks.length = ts.length := by rw [← spelled, plain, List.length_map]
  rw [depthFor]
  omega

end Grammar

open Grammar in
/-- A text that spells the tokens of printable definitions is read as those definitions. -/
theorem Schema.parse_of_spells {text : String} {ds : List Definition}
    (each : ∀ d ∈ ds, d.isPrintable = true)
    (spells : Token.Spells text.toList (ds.flatMap Definition.tokens)) :
    Schema.parse text = .ok ds := by
  obtain ⟨toks, lexed, spelled⟩ := spells .start
  obtain ⟨rest, ran, -⟩ := reads_definitions ds (depthFor toks) each (deep_enough spelled) toks
    (by rw [List.append_nil]; exact spelled)
  exact Schema.parse_eq_ok.2 ⟨toks, lexed, rest, ran⟩

end IdlBindings
