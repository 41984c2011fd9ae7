/-
# IdlBindings.Proofs.TruncatedGrammar: schemas that are cut off.

Every parser of the grammar can be cut.  Three places ask for a value directly behind a mark: an enumeration
behind its brace and behind its commas, a default and an extended attribute behind the equals sign.  There a
schema that is cut off is blamed on the mark, and everywhere else on the end of the input.  The one exception
is a name where a definition begins: whether that begins an implementation statement is only seen at the token
behind it.
-/
import IdlBindings.Proofs.Concatenation
import IdlBindings.Proofs.Truncation

namespace IdlBindings

namespace Grammar

open Token (Located)

variable {α : Type} {d : Nat} {before : Token → Prop}

/-! ## Leaves -/

theorem cuttable_optionalName : Cuttable before optionalName := by
  rw [optionalName_eq]
  exact cuttable_onToken cuttable_named? fun _ => .pure ""

theorem cuttable_defaultValue (mark : ∀ token, before token → token ∈ Expectation.defaultValue.marks) :
    Cuttable before defaultValue := by
  rw [defaultValue_eq]
  refine cuttable_onToken ?_ fun _ => cuttable_blame _ mark
  intro token p here
  unfold literal? at here
  split at here
  · cases here
    exact .pure _
  · cases here
    exact .pure _
  · obtain ⟨kind, -, rfl⟩ := Option.map_eq_some_iff.1 here
    exact .pure _
  · cases here
    exact .expecting (.pure _)
  · cases here
    exact .expecting (.pure _)
  · cases here

theorem cuttable_defaultOption : Cuttable before defaultOption := by
  rw [defaultOption_eq]
  exact (cuttable_defaultValue fun _ => List.mem_singleton.2).optionally

theorem opening_typeName : Opening typeName := by
  unfold typeName
  refine opening_identifier.bind fun first => ?_
  split
  · exact .whether (.pure _) (.whether (.whether (.pure _) (.pure _)) (cuttable_fail _ rfl))
  · exact .whether (.pure _) (.pure _)
  · exact .whether (.pure _) (.whether (.pure _) (cuttable_fail _ rfl))
  · exact .pure _

theorem cuttable_identifiersTail (d : Nat) : Cuttable before (identifiersTail d) := by
  induction d generalizing before with
  | zero => exact cuttable_fail _ rfl
  | succ d ih => exact cuttable_tail opening_identifier.cuttable ih

theorem cuttable_attributeValue (mark : ∀ token, before token → token ∈ Expectation.attributeValue.marks) :
    Cuttable before (attributeValue d) := by
  rw [attributeValue_eq]
  refine .whether ?_ (cuttable_onToken ?_ fun _ => cuttable_blame _ mark)
  · exact opening_identifier.cuttable.bind fun _ => (cuttable_identifiersTail d).bind fun _ =>
      .expecting (.pure _)
  · intro token p here
    cases token with
    | identifier | string | number =>
      cases here
      exact .pure _
    | punct | ellipsis => cases here

/-! ## Types, arguments and extended attributes -/

/-- A wrong number of types is a failure for the whole list too, so it is not there to be cut. -/
theorem cuttable_applied (name : String) (arguments : List TypeExpr) :
    Cuttable before (do expect '>'; applied name arguments) := by
  unfold applied
  split
  · split
    · exact .expecting (.pure _)
    · have refuses : ∀ {toks result}, (do expect '>'; failBefore .sequenceArity : Parser TypeExpr) toks
          ≠ .ok result := by
        rintro toks ⟨t, rest⟩ ran
        obtain ⟨-, mid, -, failed⟩ := bind_eq_ok.1 ran
        exact failBefore_ne_ok failed
      refine .of_refuses refuses ⟨fun ran => (refuses ran).elim, fun failed => ?_⟩
      cases failed
      exact .blames rfl rfl
  · exact .expecting (.pure _)

/-- The parsers that call each other can be cut together. -/
structure CuttableAt (d : Nat) : Prop where
  ofType : Opening (type d)
  ofUnionTail : ∀ {before}, Cuttable before (unionTail d)
  ofSingle : Opening (singleType d)
  ofTypesTail : ∀ {before}, Cuttable before (typesTail d)
  ofArgument : ∀ {before}, Cuttable before (argument d)
  ofArguments : ∀ {before}, Cuttable before (argumentsTail d)
  ofAttribute : ∀ {before}, Cuttable before (oneAttribute d)
  ofAttributesTail : ∀ {before}, Cuttable before (attributesTail d)
  ofAttributes : ∀ {before}, Cuttable before (attributes d)

theorem CuttableAt.zero : CuttableAt 0 := by
  constructor
  case ofType =>
    rw [type]
    exact opening_shallow
  case ofSingle =>
    rw [singleType]
    exact opening_shallow
  all_goals
    intro before
    simp only [unionTail, typesTail, argument, argumentsTail, oneAttribute, attributesTail, attributes]
    exact cuttable_fail _ rfl

/-- No extended attributes begin with a word. -/
theorem opening_attributes {f : List ExtendedAttribute → Parser α}
    (cuttable : ∀ {before}, Cuttable before (attributes d)) (later : ∀ as, Opening (f as)) :
    Opening (attributes d >>= f) where
  cuttable := cuttable.bind fun as => (later as).cuttable
  alone word place := by
    cases d with
    | zero =>
      rw [attributes]
      exact (opening_shallow.bind fun as => (later as).cuttable).alone word place
    | succ d =>
      let toks : List Located := [⟨.identifier word, place⟩]
      have none_read : attributes (d + 1) toks = .ok ([], toks) := by
        rw [attributes]
        rfl
      have goes : (attributes (d + 1) >>= f) toks = f [] toks := by simp only [bind, none_read]
      rw [goes]
      exact (later []).alone word place

theorem CuttableAt.succ (smaller : CuttableAt d) : CuttableAt (d + 1) := by
  constructor
  case ofType =>
    rw [type_succ]
    refine .bind ?_ fun _ => (cuttable_eat (.punct '?')).bind fun _ => .pure _
    exact .whether
      (smaller.ofType.cuttable.bind fun _ => smaller.ofUnionTail.bind fun _ => .expecting (.pure _))
      (opening_attributes smaller.ofAttributes fun _ => smaller.ofSingle)
  case ofUnionTail =>
    rw [unionTail]
    exact cuttable_tail smaller.ofType.cuttable smaller.ofUnionTail
  case ofSingle =>
    rw [singleType]
    exact opening_typeName.bind fun name => .whether
      (smaller.ofType.cuttable.bind fun first => smaller.ofTypesTail.bind fun others =>
        cuttable_applied name (first :: others))
      (.pure _)
  case ofTypesTail =>
    rw [typesTail]
    exact cuttable_tail smaller.ofType.cuttable smaller.ofTypesTail
  case ofArgument =>
    rw [argument]
    exact smaller.ofAttributes.bind fun _ => (cuttable_eat (.identifier "optional")).bind fun _ =>
      smaller.ofType.cuttable.bind fun _ => (cuttable_eat .ellipsis).bind fun _ =>
      opening_identifier.cuttable.bind fun _ => cuttable_defaultOption.bind fun _ => .pure _
  case ofArguments =>
    rw [argumentsTail]
    exact .whether (.pure _) (smaller.ofArgument.bind fun _ => .whether
      (smaller.ofArguments.bind fun _ => .pure _) (.expecting (.pure _)))
  case ofAttribute =>
    rw [oneAttribute_succ]
    exact opening_identifier.cuttable.bind fun _ =>
      (cuttable_attributeValue fun _ => List.mem_singleton.2).optionally.bind fun _ =>
      smaller.ofArguments.optionally.bind fun _ => .pure _
  case ofAttributesTail =>
    rw [attributesTail]
    exact cuttable_tail smaller.ofAttribute smaller.ofAttributesTail
  case ofAttributes =>
    rw [attributes]
    exact .whether (smaller.ofAttribute.bind fun _ => smaller.ofAttributesTail.bind fun _ =>
      .expecting (.pure _)) (.pure _)

theorem cuttableAt (d : Nat) : CuttableAt d := by
  induction d with
  | zero => exact .zero
  | succ d ih => exact .succ ih

theorem opening_type (d : Nat) : Opening (type d) :=
  (cuttableAt d).ofType

theorem cuttable_attributes (d : Nat) : Cuttable before (attributes d) :=
  (cuttableAt d).ofAttributes

theorem cuttable_arguments (d : Nat) : Cuttable before (arguments d) :=
  .expecting (cuttableAt d).ofArguments

/-! ## Members -/

theorem cuttable_field : Cuttable before (field d) :=
  (cuttable_eat (.identifier "required")).bind fun _ => (cuttable_attributes d).bind fun _ =>
    (opening_type d).cuttable.bind fun _ => opening_identifier.cuttable.bind fun _ =>
    cuttable_defaultOption.bind fun _ => .expecting (.pure _)

theorem cuttable_constant : Cuttable before (constant d) :=
  (opening_type d).cuttable.bind fun _ => opening_identifier.cuttable.bind fun _ =>
    .expecting ((cuttable_defaultValue fun _ => List.mem_singleton.2).bind fun _ => .expecting (.pure _))

theorem cuttable_constructorOf (owner : String) : Cuttable before (constructorOf owner d) :=
  (cuttable_arguments d).bind fun _ => .expecting (.pure _)

section

variable (ms : Modifiers)

theorem cuttable_property : Cuttable before (property ms d) :=
  (opening_type d).cuttable.bind fun _ => opening_identifier.cuttable.bind fun _ => .expecting (.pure _)

theorem cuttable_collection (kind : MemberKind) (keyword : String) :
    Cuttable before (collection kind keyword ms d) := by
  rw [collection_eq]
  exact (opening_type d).cuttable.bind fun _ => (opening_type d).cuttable.optionally.bind fun _ =>
    .expecting (.expecting (.pure _))

theorem opening_operation : Opening (operation ms d) := by
  rw [operation_eq]
  exact (opening_type d).bind fun _ => cuttable_optionalName.bind fun _ => (cuttable_arguments d).bind fun _ =>
    .expecting (.pure _)

theorem opening_modified : Opening (modified ms d) :=
  .whether (cuttable_property ms) (.announced 2 (by decide) (cuttable_collection ms .iterable "iterable")
    (.announced 2 (by decide) (cuttable_collection ms .maplike "maplike")
    (.announced 2 (by decide) (cuttable_collection ms .setlike "setlike") (opening_operation ms))))

end

theorem opening_interfaceMember (owner : String) : Opening (interfaceMember owner d) := by
  rw [interfaceMember_eq]
  exact .whether cuttable_constant (.announced 1 (by decide) (cuttable_constructorOf owner)
    (.announced 2 (by decide) (.pure _) (opening_modifiers fun ms => opening_modified ms)))

theorem cuttable_member (kind : DefinitionKind) (owner : String) : Cuttable before (member kind owner d) :=
  (cuttable_attributes d).bind fun _ => .ite (cuttable_field.bind fun _ => .pure _)
    ((opening_interfaceMember owner).cuttable.bind fun _ => .pure _)

theorem cuttable_members (kind : DefinitionKind) (owner : String) (d : Nat) :
    Cuttable before (members kind owner d) := by
  induction d generalizing before with
  | zero => exact cuttable_fail _ rfl
  | succ d ih => exact .whether (.pure _) ((cuttable_member kind owner).bind fun _ => ih.bind fun _ => .pure _)

theorem cuttable_enumValues (d : Nat) (mark : ∀ token, before token → token ∈ Expectation.enumValue.marks) :
    Cuttable before (enumValues d) := by
  induction d generalizing before with
  | zero => exact cuttable_fail _ rfl
  | succ d ih =>
    rw [enumValues_succ]
    refine .whether (.pure _) (cuttable_onToken ?_ fun _ => cuttable_blame _ mark)
    intro token p here
    cases token with
    | string value =>
      cases here
      -- behind a comma the next value is asked for at once
      refine .whether ((ih ?_).bind fun _ => .pure _) (.expecting (.pure _))
      rintro other rfl
      decide
    | identifier | number | punct | ellipsis => cases here

/-! ## Definitions -/

theorem cuttable_parentOption : Cuttable before parentOption := by
  rw [parentOption_eq]
  exact opening_identifier.cuttable.optionally

theorem opening_body (kind : DefinitionKind) : Opening (body kind d) :=
  opening_identifier.bind fun name => cuttable_parentOption.bind fun _ =>
    .expecting ((cuttable_members kind name d).bind fun _ => .expecting (.pure _))

/-- Whether a token is a name or a keyword. -/
def isWord : Token → Bool
  | .identifier _ => true
  | _ => false

theorem skipMixin_eq (p : Parser α) :
    (do skipMixin; p) = onPair (fun token other => token == .identifier "mixin" && isWord other) 1 p p := by
  funext toks
  match toks with
  | [] => rfl
  | [t] => simp [skipMixin, wordAt, identifierAt, peek, bind, onPair, pure]
  | t :: ⟨other, place⟩ :: later =>
    cases other <;> by_cases mixin : t.token = .identifier "mixin" <;>
      simp [skipMixin, wordAt, identifierAt, peek, skip, bind, onPair, pure, isWord, mixin]

theorem opening_mixin {p : Parser α} (opening : Opening p) : Opening (do skipMixin; p) := by
  rw [skipMixin_eq]
  refine .onPair (by decide) ?_ opening.cuttable opening
  intro token other here
  simp only [Bool.and_eq_true, beq_iff_eq] at here
  exact ⟨"mixin", here.1⟩

theorem cuttable_partialBody : Cuttable before (partialBody d) :=
  .whether (opening_mixin ((opening_body .interface).bind fun _ => .pure _)).cuttable
    (.whether ((opening_body .dictionary).cuttable.bind fun _ => .pure _) (cuttable_fail _ rfl))

theorem cuttable_callback : Cuttable before (callback d) :=
  opening_identifier.cuttable.bind fun _ => .expecting ((opening_type d).cuttable.bind fun _ =>
    (cuttable_arguments d).bind fun _ => .expecting (.pure _))

theorem cuttable_enumeration : Cuttable before (enumeration d) := by
  refine opening_identifier.cuttable.bind fun _ => .expecting ((cuttable_enumValues d ?_).bind fun _ =>
    .expecting (.pure _))
  rintro token rfl
  decide

theorem cuttable_typeAlias : Cuttable before (typeAlias d) :=
  (cuttable_attributes d).bind fun _ => (opening_type d).cuttable.bind fun _ =>
    opening_identifier.cuttable.bind fun _ => .expecting (.pure _)

theorem cuttable_implementation : Cuttable (fun _ => True) implementation :=
  opening_identifier.cuttable.bind fun _ => cuttable_skip.bind fun _ => opening_identifier.cuttable.bind fun _ =>
    .expecting (.pure _)

/-- What stands behind a keyword that begins a definition. -/
def begun? (d : Nat) (token : Token) : Option (Parser Definition) :=
  if token = .identifier "partial" then some (partialBody d)
  else if token = .identifier "callback" then
    some (do if ← eatWord "interface" then body .callbackInterface d else callback d)
  else if token = .identifier "interface" then some (do skipMixin; body .interface d)
  else if token = .identifier "dictionary" then some (body .dictionary d)
  else if token = .identifier "enum" then some (enumeration d)
  else if token = .identifier "typedef" then some (typeAlias d)
  else none

/-- Two branches on the next token are one. -/
theorem onToken_else (token : Token) (p : Parser α) (found : Token → Option (Parser α))
    (missing : Option Token → Parser α) :
    onToken (fun t => if t = token then some p else none) (fun _ => onToken found missing)
      = onToken (fun t => if t = token then some p else found t) missing := by
  funext toks
  cases toks with
  | nil => rfl
  | cons t later => by_cases same : t.token = token <;> simp [onToken, same]

theorem bareDefinition_begun : bareDefinition d = onToken (begun? d) fun _ => implementationStatement := by
  rw [bareDefinition_eq]
  unfold begun?
  simp only [eatWord, eat_branch, onToken_else]

theorem cuttable_begun? {token : Token} {p : Parser Definition} (here : begun? d token = some p) :
    Cuttable (fun _ => True) p := by
  unfold begun? at here
  split_ifs at here <;> cases here
  · exact cuttable_partialBody
  · exact .whether (opening_body .callbackInterface).cuttable cuttable_callback
  · exact (opening_mixin (opening_body .interface)).cuttable
  · exact (opening_body .dictionary).cuttable
  · exact cuttable_enumeration
  · exact cuttable_typeAlias

theorem implementationStatement_eq : implementationStatement = onPair
    (fun token other => isWord token && (other == .identifier "implements" || other == .identifier "includes")) 0
    implementation (fail .definition) := by
  funext toks
  match toks with
  | [] => rfl
  | [⟨token, place⟩] =>
    cases token <;> simp [implementationStatement, wordAt, identifierAt, peek, bind, onPair, pure]
  | ⟨token, place⟩ :: u :: later =>
    by_cases states : u.token = .identifier "implements" ∨ u.token = .identifier "includes"
    · cases token <;> simp [implementationStatement, wordAt, identifierAt, peek, bind, onPair, pure, isWord, states]
    · cases token <;> simp [implementationStatement, wordAt, identifierAt, peek, bind, onPair, pure, isWord, states]

section

variable {toks rest x : List Located} {a : Definition} {e : Failure}

theorem bareDefinition_suffix (ran : bareDefinition d toks = .ok (a, rest)) : rest <:+ toks := by
  rw [bareDefinition_begun] at ran
  cases toks with
  | nil => exact cuttable_implementation.suffix (implementation_of_statement ran)
  | cons t later =>
    rw [onToken] at ran
    split at ran
    · next here => exact ((cuttable_begun? here).suffix ran).trans (List.suffix_cons t later)
    · exact cuttable_implementation.suffix (implementation_of_statement ran)

theorem closes_bareDefinition : Closes (fun _ => True) (bareDefinition d []) := by
  rw [bareDefinition_begun]
  exact (cuttable_fail .definition rfl).atEnd

/-- Whether a name begins a statement is seen at the word behind it.  Alone it is blamed itself. -/
theorem bareDefinition_cut (some_token : toks ≠ []) (ran : bareDefinition d (toks ++ x) = .ok (a, rest)) :
    Closes (IsLast toks) (bareDefinition d toks)
      ∨ (∃ left, bareDefinition d toks = .ok (a, left) ∧ rest = left ++ x)
      ∨ ∃ word place, toks = [⟨.identifier word, place⟩] ∧ bareDefinition d toks = .error ⟨.definition, 1⟩ := by
  obtain ⟨t, later, rfl⟩ := List.exists_cons_of_ne_nil some_token
  rw [bareDefinition_begun, List.cons_append, onToken] at ran
  rw [bareDefinition_begun, onToken]
  split at ran
  · next here =>
    rcases (cuttable_begun? here).behind (List.suffix_cons t later) (fun _ _ _ => trivial) ran with closes | done
    · exact .inl closes
    · exact .inr (.inl done)
  · rw [implementationStatement_eq] at ran ⊢
    cases later with
    | nil =>
      cases x with
      | nil => exact (fail_ne_ok ran).elim
      | cons u more =>
        rw [List.nil_append, onPair] at ran
        split at ran
        · next here =>
          obtain ⟨token, place⟩ := t
          cases token with
          | identifier word => exact .inr (.inr ⟨word, place, rfl, rfl⟩)
          | string | number | punct | ellipsis => cases here
        · exact (fail_ne_ok ran).elim
    | cons u later =>
      rw [List.cons_append, onPair] at ran
      rw [onPair]
      split at ran
      · next here =>
        rw [if_pos here]
        rcases cuttable_implementation.cut some_token ran with closes | done
        · exact .inl closes
        · exact .inr (.inl done)
      · exact (fail_ne_ok ran).elim

theorem definition_suffix (ran : definition d toks = .ok (a, rest)) : rest <:+ toks := by
  have cuttable : Cuttable (fun _ => True) (attributes d) := cuttable_attributes d
  obtain ⟨as, mid, ran₁, bare, ran₂, -⟩ := definition_eq_ok.1 ran
  exact (bareDefinition_suffix ran₂).trans (cuttable.suffix ran₁)

theorem definition_cut (some_token : toks ≠ []) (ran : definition d (toks ++ x) = .ok (a, rest)) :
    Closes (IsLast toks) (definition d toks)
      ∨ (∃ left, definition d toks = .ok (a, left) ∧ rest = left ++ x)
      ∨ ∃ as word place, attributes d toks = .ok (as, [⟨.identifier word, place⟩])
        ∧ definition d toks = .error ⟨.definition, 1⟩ := by
  have cuttable : Cuttable (fun _ => True) (attributes d) := cuttable_attributes d
  have closed : ∀ {p : Parser Definition} {toks before} as, Closes before (p toks) →
      Closes before ((do let bare ← p; pure { bare with attributes := as } : Parser Definition) toks) :=
    fun as closes => closes.bind fun bare => (Cuttable.pure _).atEnd
  obtain ⟨as, mid', ran₁, bare, ran₂, rfl⟩ := definition_eq_ok.1 ran
  rcases cuttable.cut some_token ran₁ with closes | ⟨mid, read, rfl⟩
  · exact .inl (closes.bind fun as => closed as closes_bareDefinition)
  have goes : definition d toks
      = (do let bare ← bareDefinition d; pure { bare with attributes := as } : Parser Definition) mid := by
    simp only [definition, bind, read]
  by_cases empty : mid = []
  · subst empty
    rw [goes]
    exact .inl (closed as (closes_bareDefinition.mono fun _ _ => trivial))
  rcases bareDefinition_cut empty ran₂ with closes | ⟨left, done, rfl⟩ | ⟨word, place, rfl, failed⟩
  · rw [goes]
    exact .inl (closed as (closes.mono fun token last => last.of_suffix (cuttable.suffix read) empty))
  · exact .inr (.inl ⟨left, definition_eq_ok.2 ⟨as, mid, read, bare, done, rfl⟩, rfl⟩)
  · refine .inr (.inr ⟨as, word, place, read, ?_⟩)
    rw [goes]
    exact bind_eq_error.2 (.inl failed)

end

/-! ## Schemas -/

/-- Behind these tokens a definition begins: they are definitions, and the extended attributes of another one. -/
def BeginsDefinition (front : List Located) : Prop :=
  ∃ whole attrs ds as, front = whole ++ attrs ∧ readTokens whole = .ok ds
    ∧ attributes (depthFor attrs) attrs = .ok (as, [])

section

variable {toks front mid rest x : List Located} {ds : List Definition} {e : Failure}

theorem BeginsDefinition.behind {whole : List Located} (read : readTokens whole = .ok ds)
    (begins : BeginsDefinition front) : BeginsDefinition (whole ++ front) := by
  obtain ⟨others, attrs, ds', as, rfl, read', read_attrs⟩ := begins
  refine ⟨whole ++ others, attrs, ds ++ ds', as, (List.append_assoc ..).symm, ?_, read_attrs⟩
  rw [readTokens_append read, read']
  rfl

/-- Extended attributes in front of a name can be read without it. -/
theorem attributes_alone {as : List ExtendedAttribute} {word : String} {place : Position}
    (deep : 2 * front.length + 3 ≤ d)
    (read : attributes d (front ++ [⟨.identifier word, place⟩]) = .ok (as, [⟨.identifier word, place⟩])) :
    attributes (depthFor front) front = .ok (as, []) := by
  obtain ⟨d, rfl⟩ := Nat.exists_eq_add_one.2 (show 0 < d by omega)
  have deep' := depthFor_deep front
  obtain ⟨d', depth⟩ := Nat.exists_eq_add_one.2 (show 0 < depthFor front by omega)
  rw [depth] at deep' ⊢
  cases front with
  | nil =>
    rw [attributes] at read ⊢
    cases read
    rfl
  | cons t later =>
    rw [List.length_cons] at deep deep'
    rw [List.cons_append, attributes, eatPunct, eat_branch, onToken] at read
    rw [attributes, eatPunct, eat_branch, onToken]
    by_cases opened : t.token = .punct '['
    · rw [if_pos opened] at read ⊢
      -- what is read ends with a bracket, so it does not depend on what stands behind
      have tracks := (trackedAt d d').ofAttribute.bind fun first =>
        (trackedAt d d').ofAttributesTail.bind fun others =>
          (tracks_expect ']').bind fun _ => Tracks.pure (first :: others)
      have agrees := tracks.agrees (alike_parting later [⟨.identifier word, place⟩] [])
        (by simp; omega) (by simp; omega)
      obtain ⟨rest', alike, ran⟩ := agrees.ok read (.inr (by simp))
      rw [List.append_nil] at ran
      have length := alike.length
      obtain rfl : rest' = [] := by simpa using length
      exact ran
    · rw [if_neg opened] at read
      obtain ⟨-, same⟩ := pure_eq_ok.1 read
      have length := congrArg List.length same
      simp at length

/-- A definition can be read without what stands behind it. -/
theorem definition_alone {first : Definition} (deep : 2 * (front ++ mid).length + 1 ≤ d)
    (ran : definition d (front ++ mid) = .ok (first, mid)) : readTokens front = .ok [first] := by
  have taken := ((tracks_definition d 0).bounded deep).ok ran
  rw [List.length_append] at taken deep
  have deep' := depthFor_deep front
  obtain ⟨d', depth⟩ := Nat.exists_eq_add_one.2 (show 0 < depthFor front by omega)
  have agrees := (tracks_definition d d').agrees (alike_parting front mid []) (by simp; omega) (by simp; omega)
  obtain ⟨rest, alike, ran'⟩ := agrees.ok ran (.inr (by simp))
  rw [List.append_nil] at ran'
  have length := alike.length
  obtain rfl : rest = [] := by simpa using length
  have some_token : front ≠ [] := List.ne_nil_of_length_pos (by omega)
  obtain ⟨d', rfl⟩ := Nat.exists_eq_add_one.2 (show 0 < d' by omega)
  rw [readTokens_eq, depth, definitions_of_first some_token ran']
  rfl

/-- A schema in front of a cut fails at the end, or at a name where a definition begins. -/
theorem definitions_cut (deep : 2 * toks.length + 2 ≤ d) (ran : definitions d (toks ++ x) = .ok (ds, rest))
    (failed : definitions d toks = .error e) :
    AtEnd (IsLast toks) e
      ∨ (e = ⟨.definition, 1⟩
        ∧ ∃ front word place, toks = front ++ [⟨.identifier word, place⟩] ∧ BeginsDefinition front) := by
  induction d generalizing toks ds with
  | zero => omega
  | succ d ih =>
    obtain ⟨some_token, outcome⟩ := definitions_eq_error.1 failed
    have length := List.length_pos_iff.2 some_token
    rcases definitions_eq_ok.1 ran with ⟨empty, -, -⟩ | ⟨-, first, mid', ran₁, others, ran₂, rfl⟩
    · exact absurd (List.append_eq_nil_iff.1 empty.symm).1 some_token
    rcases definition_cut some_token ran₁ with closes | ⟨mid, done, rfl⟩ | ⟨as, word, place, read, failed'⟩
    · rcases outcome with failed' | ⟨first', mid, done, failed'⟩
      · exact .inl (closes.error failed')
      · obtain rfl := closes.ok done
        exact absurd rfl (definitions_error (by simp only [List.length_nil]; omega) failed').1
    · -- the first definition is whole, and the cut is in the others
      rcases outcome with failed' | ⟨first', mid', done', failed'⟩
      · rw [done] at failed'
        cases failed'
      · rw [done] at done'
        cases done'
        have taken := ((tracks_definition d 0).bounded (by omega)).ok done
        have deep' : 2 * mid.length + 2 ≤ d := by omega
        obtain ⟨some_left, -, -⟩ := definitions_error deep' failed'
        obtain ⟨front, rfl⟩ := definition_suffix done
        rcases ih deep' ran₂ failed' with atEnd | ⟨same, later, word, place, rfl, begins⟩
        · exact .inl (atEnd.mono fun token last => last.of_suffix (List.suffix_append ..) some_left)
        · refine .inr ⟨same, front ++ later, word, place, (List.append_assoc ..).symm, ?_⟩
          exact begins.behind (definition_alone (by omega) done)
    · have cuttable : Cuttable (fun _ => True) (attributes d) := cuttable_attributes d
      obtain ⟨front, rfl⟩ := cuttable.suffix read
      obtain rfl : e = ⟨.definition, 1⟩ := by
        rcases outcome with failed | ⟨first', mid, done, -⟩
        · rw [failed'] at failed
          exact (Except.error.inj failed).symm
        · rw [failed'] at done
          cases done
      rw [List.length_append, List.length_singleton] at deep
      refine .inr ⟨rfl, front, word, place, rfl, [], front, [], as, rfl, rfl, ?_⟩
      exact attributes_alone (by omega) read

/-- In front of a cut either the end is blamed or the last token, which is then a mark in front of a value. -/
theorem readTokens_cut {last : Located} (read : readTokens (front ++ last :: x) = .ok ds)
    (refused : ∀ ds', readTokens (front ++ [last]) ≠ .ok ds')
    (inside : ¬ ((∃ name, last.token = .identifier name) ∧ BeginsDefinition front)) :
    ∃ expectation,
      (readTokens (front ++ [last]) = .error ⟨last.position, .unmet expectation none⟩ ∧ expectation.marks = [])
      ∨ (readTokens (front ++ [last]) = .error ⟨last.position, .unmet expectation (some last.token)⟩
        ∧ last.token ∈ expectation.marks) := by
  rw [List.append_cons] at read
  generalize whole : front ++ [last] = kept at read refused ⊢
  have found : kept.getLast? = some last := by simp [← whole]
  have some_token : kept ≠ [] := by simp [← whole]
  have length := List.length_pos_iff.2 some_token
  -- both lists of tokens are read with the depth of the longer one
  have deep : 2 * kept.length + 2 ≤ depthFor (kept ++ x) := by
    rw [depthFor, List.length_append]
    omega
  have same := definitions_alike (Alike.refl kept) (depthFor_deep kept) deep
  cases ran : definitions (depthFor (kept ++ x)) (kept ++ x) with
  | error failure =>
    rw [readTokens, ran] at read
    cases read
  | ok result =>
    cases failed : definitions (depthFor (kept ++ x)) kept with
    | ok result' =>
      rw [failed] at same
      exact absurd (by rw [readTokens_eq, ← same]; rfl) (refused result'.1)
    | error e =>
      rw [failed] at same
      have blamed : readTokens kept = .error (e.locate kept) := by
        rw [readTokens_eq, ← same]
        rfl
      rw [blamed]
      refine ⟨e.expectation, ?_⟩
      rcases definitions_cut deep ran failed with atEnd | ⟨-, front', word, place, same', begins⟩
      · cases atEnd with
        | shallow exhausted => exact absurd exhausted (definitions_error deep failed).2.1
        | blames plain behind =>
          refine .inl ⟨?_, plain⟩
          rw [Failure.locate, behind, Nat.sub_zero, List.getElem?_eq_none (Nat.le_refl _), found]
          rfl
        | marked one mark =>
          refine .inr ⟨?_, mark last.token ⟨last.position, found⟩⟩
          rw [Failure.locate, one, ← List.getLast?_eq_getElem?, found]
      · obtain ⟨rfl, singleton⟩ := List.append_inj' (whole.trans same') rfl
        cases singleton
        exact absurd ⟨⟨word, rfl⟩, begins⟩ inside

end

end Grammar

/-! ## Messages -/

namespace ParseError

/-- The message says that the input ended. -/
def ReportsEnd (error : ParseError) : Prop :=
  "found end of input".toList <:+ error.message.toList

theorem reportsEnd_none (place : Position) (expectation : Expectation) :
    ReportsEnd ⟨place, .unmet expectation none⟩ := by
  have ending : ", found end of input".toList = ", ".toList ++ "found end of input".toList := by decide +kernel
  show "found end of input".toList <:+ (_ ++ (expectation.message ++ ", found end of input")).toList
  simp only [String.toList_append, ending]
  exact ((List.suffix_append ..).trans (List.suffix_append ..)).trans (List.suffix_append ..)

theorem not_reportsEnd_punct (place : Position) (expectation : Expectation) (mark : Char) :
    ¬ ReportsEnd ⟨place, .unmet expectation (some (.punct mark))⟩ := by
  have ending : "found end of input".toList.getLast? = some 't' := by decide +kernel
  intro reports
  change "found end of input".toList <:+
    (_ ++ (expectation.message ++ ", found " ++ ("`" ++ String.singleton mark ++ "`"))).toList at reports
  -- the message ends with the quote behind the mark
  obtain ⟨lead, same⟩ := reports
  have last := congrArg List.getLast? same
  simp only [String.toList_append, List.getLast?_append, ending] at last
  cases last

end ParseError

theorem Expectation.mark_punct {expectation : Expectation} {token : Token} (marked : token ∈ expectation.marks) :
    ∃ mark, token = .punct mark := by
  cases expectation <;> simp only [marks, List.mem_cons, List.not_mem_nil, or_false] at marked
  case enumValue => exact marked.elim (⟨_, ·⟩) (⟨_, ·⟩)
  all_goals exact ⟨_, marked⟩

/-- Of the tokens of a schema only the first ones are kept, and they are no schema.  The last one is not a name
where a definition begins.  Then the error stands at the last token.  Its message says that the input ended,
unless a value is expected directly behind the last token: then it says that this token was found. -/
theorem Schema.truncation_reported {toks : List Token.Located} {ds : List Definition} {n : Nat}
    {last : Token.Located} (read : Grammar.readTokens toks = .ok ds) (kept : toks[n]? = some last)
    (refused : ∀ ds', Grammar.readTokens (toks.take (n + 1)) ≠ .ok ds')
    (inside : ¬ ((∃ name, last.token = .identifier name) ∧ Grammar.BeginsDefinition (toks.take n))) :
    ∃ error expectation, Grammar.readTokens (toks.take (n + 1)) = .error error ∧ error.position = last.position
      ∧ ((error.fault = .unmet expectation none ∧ expectation.marks = [] ∧ error.ReportsEnd)
        ∨ (error.fault = .unmet expectation (some last.token) ∧ last.token ∈ expectation.marks
          ∧ ¬ error.ReportsEnd)) := by
  have split : toks.take (n + 1) = toks.take n ++ [last] := by
    rw [List.take_add_one, kept]
    rfl
  have whole : toks = toks.take n ++ last :: toks.drop (n + 1) := by
    rw [List.append_cons, ← split, List.take_append_drop]
  rw [split] at refused ⊢
  rw [whole] at read
  obtain ⟨expectation, ⟨failed, plain⟩ | ⟨failed, marked⟩⟩ := Grammar.readTokens_cut read refused inside
  · exact ⟨_, expectation, failed, rfl, .inl ⟨rfl, plain, ParseError.reportsEnd_none ..⟩⟩
  · refine ⟨_, expectation, failed, rfl, .inr ⟨rfl, marked, ?_⟩⟩
    obtain ⟨mark, same⟩ := Expectation.mark_punct marked
    rw [same]
    exact ParseError.not_reportsEnd_punct _ _ _

/-- The tokens of a type alias. -/
def aliasTokens : List Token.Located :=
  [⟨.identifier "typedef", ⟨1, 1⟩⟩, ⟨.identifier "sequence", ⟨1, 9⟩⟩, ⟨.punct '<', ⟨1, 17⟩⟩,
   ⟨.identifier "long", ⟨1, 18⟩⟩, ⟨.punct '>', ⟨1, 22⟩⟩, ⟨.identifier "A", ⟨1, 24⟩⟩, ⟨.punct ';', ⟨1, 25⟩⟩]

/-- Behind an angle bracket a type is expected, and no value. -/
theorem Schema.truncation_reported_alias :
    ∃ error expectation, Grammar.readTokens (aliasTokens.take 3) = .error error ∧ error.position = ⟨1, 17⟩
      ∧ ((error.fault = .unmet expectation none ∧ expectation.marks = [] ∧ error.ReportsEnd)
        ∨ (error.fault = .unmet expectation (some (.punct '<')) ∧ .punct '<' ∈ expectation.marks
          ∧ ¬ error.ReportsEnd)) := by
  have read : Grammar.readTokens aliasTokens
      = .ok [{ kind := .typedef, name := "A", type := some (.sequence (.named "long")) }] := by decide +kernel
  have failed : Grammar.readTokens (aliasTokens.take 3) = .error ⟨⟨1, 17⟩, .unmet .identifier none⟩ := by
    decide +kernel
  have kept : aliasTokens[2]? = some ⟨.punct '<', ⟨1, 17⟩⟩ := rfl
  refine Schema.truncation_reported read kept ?_ ?_
  · intro ds' accepted
    rw [failed] at accepted
    cases accepted
  · rintro ⟨⟨name, same⟩, -⟩
    cases same

/-- An enumeration that is cut off behind its brace is blamed on the brace, and not on the end. -/
theorem Schema.truncation_blames_brace :
    Schema.parse "enum A \x7b\x7d;" = .ok [{ kind := .enum, name := "A" }]
      ∧ Token.lex "enum A \x7b" = (Token.lex "enum A \x7b\x7d;").map (·.take 3)
      ∧ ∃ error, Schema.parse "enum A \x7b" = .error error ∧ ¬ error.ReportsEnd := by
  refine ⟨by decide +kernel, by decide +kernel, ⟨⟨1, 8⟩, .unmet .enumValue (some (.punct '\x7b'))⟩, ?_, ?_⟩
  · decide +kernel
  · exact ParseError.not_reportsEnd_punct _ _ _

end IdlBindings
