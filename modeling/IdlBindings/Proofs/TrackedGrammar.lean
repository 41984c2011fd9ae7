/-
# IdlBindings.Proofs.TrackedGrammar: every parser of the grammar is tracked.

One statement for each parser, with its three numbers.  They are put together by the rules for sequences and
branches; what remains is to see each parser as such a composition and to add up the numbers.
-/
import IdlBindings.Proofs.Tracking

namespace IdlBindings.Grammar

open Token (Located plain)

variable {α : Type} {d d' : Nat}

/-! ## Leaves -/

theorem next_branch {e : Expectation} {f : Option Token → Parser α} (found : Token → Option (Parser α))
    (atEnd : f none = failBefore e) (each : ∀ token, f (some token) = (found token).getD (failBefore e)) :
    next >>= f = onToken found fun _ => blame e := by
  funext toks
  cases toks with
  | nil => exact congrFun atEnd []
  | cons t rest =>
    show f (some t.token) rest = _
    rw [each, onToken]
    cases found t.token with
    | some p => rfl
    | none =>
      show Except.error _ = Except.error _
      rw [List.length_cons, Nat.max_eq_left (by omega)]

/-- What a token gives that is a default or begins one. -/
def literal? : Token → Option (Parser DefaultValue)
  | .string text => some (pure ⟨.string, text⟩)
  | .number text => some (pure ⟨.number, text⟩)
  | .identifier name => (valueWords.lookup name).map fun kind => pure ⟨kind, name⟩
  | .punct '[' => some (do expect ']'; pure ⟨.sequence, "[]"⟩)
  | .punct '\x7b' => some (do expect '\x7d'; pure ⟨.dictionary, "\x7b\x7d"⟩)
  | _ => none

theorem defaultValue_eq : defaultValue = onToken literal? fun _ => blame .defaultValue := by
  refine next_branch literal? rfl fun token => ?_
  cases token with
  | string | number | ellipsis => rfl
  | punct c =>
    unfold literal?
    split <;> simp_all
  | identifier name =>
    simp only [literal?]
    split
    case h_7 =>
      have unknown : valueWords.lookup name = none := by simp_all [List.lookup_eq_none_iff, valueWords]
      rw [unknown]
      rfl
    all_goals rfl

theorem tracks_literal? (token : Token) :
    Option.Rel (Tracks d d' 0 0 0) (literal? token) (literal? token) := by
  unfold literal?
  split
  · exact .some (.pure _)
  · exact .some (.pure _)
  · cases valueWords.lookup _ with
    | some kind => exact .some (.pure _)
    | none => exact .none
  · exact .some (((tracks_expect ']').bind fun _ => .pure _).mono (by decide))
  · exact .some (((tracks_expect '\x7d').bind fun _ => .pure _).mono (by decide))
  · exact .none

theorem tracks_defaultValue : Tracks d d' 0 1 0 defaultValue defaultValue := by
  rw [defaultValue_eq]
  exact tracks_onToken tracks_literal? fun _ => tracks_blame (k := 1) (s := 0) .defaultValue nofun

theorem tracks_defaultOption : Tracks d d' 0 0 1 defaultOption defaultOption := by
  rw [defaultOption_eq]
  exact tracks_defaultValue.optionally.mono (by decide)

theorem tracks_typeName : Tracks d d' 0 1 1 typeName typeName := by
  unfold typeName
  refine (tracks_identifier.bind fun first => (?_ : Tracks d d' 0 0 1 _ _)).mono (by decide)
  split
  · exact (Tracks.whether (.pure _) (.whether (.whether (.pure _) (.pure _))
      (tracks_fail (k := 0) (s := 0) .unsignedSize nofun))).mono (by decide)
  · exact (Tracks.whether (.pure _) (.pure _)).mono (by decide)
  · exact (Tracks.whether (.pure _) (.whether (.pure _)
      (tracks_fail (k := 0) (s := 0) .unrestrictedKind nofun))).mono (by decide)
  · exact (Tracks.pure _).mono (by decide)

theorem tracks_identifiersTail (d d' : Nat) : Tracks d d' 1 0 1 (identifiersTail d) (identifiersTail d') := by
  induction d generalizing d' with
  | zero => exact .of_shallow (by decide)
  | succ d ih => exact .deeper fun d' => tracks_tail (tracks_identifier.mono (by decide)) (ih d')

/-- What a token gives that is a value of an extended attribute. -/
def attributeLiteral? : Token → Option (Parser AttributeValue)
  | .identifier name => some (pure (.identifier name))
  | .string text => some (pure (.string text))
  | .number text => some (pure (.number text))
  | _ => none

theorem tracks_attributeLiteral? (token : Token) :
    Option.Rel (Tracks d d' 0 0 0) (attributeLiteral? token) (attributeLiteral? token) := by
  cases token with
  | identifier | string | number => exact .some (.pure _)
  | punct | ellipsis => exact .none

theorem attributeValue_eq (depth : Nat) : attributeValue depth = (do
    if ← eatPunct '(' then
      let name ← identifier
      let names ← identifiersTail depth
      expect ')'
      pure (.identifiers (name :: names))
    else
      onToken attributeLiteral? fun _ => blame .attributeValue) := by
  refine bind_congr fun opened => ?_
  cases opened with
  | true => rfl
  | false => exact next_branch attributeLiteral? rfl fun token => by cases token <;> rfl

theorem tracks_attributeValue : Tracks d d' 0 1 0 (attributeValue d) (attributeValue d') := by
  rw [attributeValue_eq, attributeValue_eq]
  exact (Tracks.whether
    (tracks_identifier.bind fun _ => (tracks_identifiersTail d d').bind fun _ =>
      (tracks_expect ')').bind fun _ => .pure _)
    (tracks_onToken tracks_attributeLiteral? fun _ =>
      tracks_blame (k := 1) (s := 0) .attributeValue nofun)).mono (by decide)

/-! ## Types, arguments and extended attributes -/

/-- A failure at the mark in front. -/
theorem tracks_failBefore (e : Expectation) (met : e ≠ .shallower) (mark : Char) :
    Tracks d d' 0 1 0 (do expect mark; failBefore e : Parser α) (do expect mark; failBefore e) := by
  have run : (do expect mark; failBefore e : Parser α)
      = onToken (fun _ => none) fun token => fail (if token = some (.punct mark) then e else .punct mark) := by
    funext toks
    cases toks with
    | nil => rfl
    | cons t rest =>
      rw [expect, bind_assoc]
      by_cases same : t.token = .punct mark
      · simp [eatPunct, eat, onToken, bind, same, fail, failBefore, pure]
      · simp [eatPunct, eat, onToken, bind, same, fail]
  rw [run]
  have none_taken : Option.Rel (Tracks d d' 0 0 0) (none : Option (Parser α)) none := .none
  refine tracks_onToken (fun _ => none_taken) fun token => tracks_fail (k := 1) (s := 0) _ ?_
  split
  · exact met
  · simp

theorem tracks_applied (name : String) (arguments : List TypeExpr) :
    Tracks d d' 0 1 0 (do expect '>'; applied name arguments) (do expect '>'; applied name arguments) := by
  unfold applied
  split
  · split
    · exact ((tracks_expect '>').bind fun _ => .pure _).mono (by decide)
    · exact tracks_failBefore .sequenceArity nofun '>'
  · exact ((tracks_expect '>').bind fun _ => .pure _).mono (by decide)

/-- The parsers that call each other are tracked together. -/
structure TrackedAt (d d' : Nat) : Prop where
  ofType : Tracks d d' 2 1 1 (type d) (type d')
  ofUnionTail : Tracks d d' 1 0 1 (unionTail d) (unionTail d')
  ofSingle : Tracks d d' 1 1 1 (singleType d) (singleType d')
  ofTypesTail : Tracks d d' 1 0 1 (typesTail d) (typesTail d')
  ofArgument : Tracks d d' 3 2 1 (argument d) (argument d')
  ofArguments : Tracks d d' 4 1 0 (argumentsTail d) (argumentsTail d')
  ofAttribute : Tracks d d' 1 1 1 (oneAttribute d) (oneAttribute d')
  ofAttributesTail : Tracks d d' 1 0 1 (attributesTail d) (attributesTail d')
  ofAttributes : Tracks d d' 1 0 1 (attributes d) (attributes d')

theorem TrackedAt.zero : TrackedAt 0 d' where
  ofType := .of_shallow (by decide)
  ofUnionTail := .of_shallow (by decide)
  ofSingle := .of_shallow (by decide)
  ofTypesTail := .of_shallow (by decide)
  ofArgument := .of_shallow (by decide)
  ofArguments := .of_shallow (by decide)
  ofAttribute := .of_shallow (by decide)
  ofAttributesTail := .of_shallow (by decide)
  ofAttributes := .of_shallow (by decide)

theorem TrackedAt.succ (smaller : ∀ d', TrackedAt d d') : TrackedAt (d + 1) d' := by
  constructor
  case ofType =>
    refine .deeper fun d' => ?_
    rw [type_succ, type_succ]
    exact ((Tracks.whether
      ((smaller d').ofType.bind fun _ => (smaller d').ofUnionTail.bind fun _ =>
        (tracks_expect ')').bind fun _ => .pure _)
      ((smaller d').ofAttributes.bind fun _ => (smaller d').ofSingle)).bind fun _ =>
        (tracks_eat (.punct '?')).bind fun _ => .pure _).mono (by decide)
  case ofUnionTail =>
    refine .deeper fun d' => ?_
    rw [unionTail, unionTail]
    exact tracks_tail (smaller d').ofType (smaller d').ofUnionTail
  case ofSingle =>
    refine .deeper fun d' => ?_
    rw [singleType, singleType]
    exact (tracks_typeName.bind fun name => Tracks.whether
      ((smaller d').ofType.bind fun first => (smaller d').ofTypesTail.bind fun others =>
        tracks_applied name (first :: others))
      (.pure _)).mono (by decide)
  case ofTypesTail =>
    refine .deeper fun d' => ?_
    rw [typesTail, typesTail]
    exact tracks_tail (smaller d').ofType (smaller d').ofTypesTail
  case ofArgument =>
    refine .deeper fun d' => ?_
    rw [argument, argument]
    exact ((smaller d').ofAttributes.bind fun _ => (tracks_eat (.identifier "optional")).bind fun _ =>
      (smaller d').ofType.bind fun _ => (tracks_eat .ellipsis).bind fun _ => tracks_identifier.bind fun _ =>
      tracks_defaultOption.bind fun _ => .pure _).mono (by decide)
  case ofArguments =>
    refine .deeper fun d' => ?_
    rw [argumentsTail, argumentsTail]
    exact (Tracks.whether (.pure _) ((smaller d').ofArgument.bind fun _ => Tracks.whether
      ((smaller d').ofArguments.bind fun _ => .pure _)
      ((tracks_expect ')').bind fun _ => .pure _))).mono (by decide)
  case ofAttribute =>
    refine .deeper fun d' => ?_
    rw [oneAttribute_succ, oneAttribute_succ]
    exact (tracks_identifier.bind fun _ => tracks_attributeValue.optionally.bind fun _ =>
      (smaller d').ofArguments.optionally.bind fun _ => .pure _).mono (by decide)
  case ofAttributesTail =>
    refine .deeper fun d' => ?_
    rw [attributesTail, attributesTail]
    exact tracks_tail ((smaller d').ofAttribute.mono (by decide)) (smaller d').ofAttributesTail
  case ofAttributes =>
    refine .deeper fun d' => ?_
    rw [attributes, attributes]
    exact (Tracks.whether ((smaller d').ofAttribute.bind fun _ => (smaller d').ofAttributesTail.bind fun _ =>
      (tracks_expect ']').bind fun _ => .pure _) (.pure _)).mono (by decide)

theorem trackedAt (d d' : Nat) : TrackedAt d d' := by
  induction d generalizing d' with
  | zero => exact .zero
  | succ d ih => exact .succ ih

theorem tracks_type (d d' : Nat) : Tracks d d' 2 1 1 (type d) (type d') :=
  (trackedAt d d').ofType

theorem tracks_attributes (d d' : Nat) : Tracks d d' 1 0 1 (attributes d) (attributes d') :=
  (trackedAt d d').ofAttributes

theorem tracks_arguments : Tracks d d' 2 2 0 (arguments d) (arguments d') :=
  ((tracks_expect '(').bind fun _ => (trackedAt d d').ofArguments).mono (by decide)

/-! ## Members -/

theorem tracks_field : Tracks d d' 2 3 0 (field d) (field d') :=
  ((tracks_eat (.identifier "required")).bind fun _ => (tracks_attributes d d').bind fun _ =>
    (tracks_type d d').bind fun _ => tracks_identifier.bind fun _ => tracks_defaultOption.bind fun _ =>
    (tracks_expect ';').bind fun _ => .pure _).mono (by decide)

theorem tracks_constant : Tracks d d' 2 5 0 (constant d) (constant d') :=
  ((tracks_type d d').bind fun _ => tracks_identifier.bind fun _ => (tracks_expect '=').bind fun _ =>
    tracks_defaultValue.bind fun _ => (tracks_expect ';').bind fun _ => .pure _).mono (by decide)

theorem tracks_constructorOf (owner : String) :
    Tracks d d' 2 3 0 (constructorOf owner d) (constructorOf owner d') :=
  (tracks_arguments.bind fun _ => (tracks_expect ';').bind fun _ => .pure _).mono (by decide)

section

variable (ms : Modifiers)

theorem tracks_property : Tracks d d' 2 3 0 (property ms d) (property ms d') :=
  ((tracks_type d d').bind fun _ => tracks_identifier.bind fun _ => (tracks_expect ';').bind fun _ => .pure _).mono
    (by decide)

theorem tracks_collection (kind : MemberKind) (keyword : String) :
    Tracks d d' 2 3 0 (collection kind keyword ms d) (collection kind keyword ms d') := by
  rw [collection_eq, collection_eq]
  exact ((tracks_type d d').bind fun _ => (tracks_type d d').optionally.bind fun _ =>
    (tracks_expect '>').bind fun _ => (tracks_expect ';').bind fun _ => .pure _).mono (by decide)

theorem tracks_operation : Tracks d d' 2 4 0 (operation ms d) (operation ms d') := by
  rw [operation_eq, operation_eq]
  exact ((tracks_type d d').bind fun _ => tracks_optionalName.bind fun _ => tracks_arguments.bind fun _ =>
    (tracks_expect ';').bind fun _ => .pure _).mono (by decide)

theorem tracks_modified : Tracks d d' 2 3 0 (modified ms d) (modified ms d') :=
  (Tracks.whether (tracks_property ms) (.announced 2 (by decide) (tracks_collection ms .iterable "iterable")
    (.announced 2 (by decide) (tracks_collection ms .maplike "maplike")
    (.announced 2 (by decide) (tracks_collection ms .setlike "setlike") (tracks_operation ms))))).mono (by decide)

end

theorem tracks_interfaceMember (owner : String) :
    Tracks d d' 2 2 0 (interfaceMember owner d) (interfaceMember owner d') := by
  rw [interfaceMember_eq, interfaceMember_eq]
  exact (Tracks.whether tracks_constant (.announced 1 (by decide) (tracks_constructorOf owner)
    (.announced 2 (by decide) (.pure _) (tracks_modifiers.bind fun ms => tracks_modified ms)))).mono (by decide)

theorem tracks_member (kind : DefinitionKind) (owner : String) :
    Tracks d d' 2 2 0 (member kind owner d) (member kind owner d') :=
  ((tracks_attributes d d').bind fun _ => Tracks.ite (tracks_field.bind fun _ => .pure _)
    ((tracks_interfaceMember owner).bind fun _ => .pure _)).mono (by decide)

theorem tracks_members (kind : DefinitionKind) (owner : String) (d d' : Nat) :
    Tracks d d' 3 1 0 (members kind owner d) (members kind owner d') := by
  induction d generalizing d' with
  | zero => exact .of_shallow (by decide)
  | succ d ih =>
    refine .deeper fun d' => ?_
    exact (Tracks.whether (.pure _) ((tracks_member kind owner).bind fun _ =>
      (ih d').bind fun _ => .pure _)).mono (by decide)

/-- What a text gives, if that comes next. -/
def quoted? (p : String → Parser α) : Token → Option (Parser α)
  | .string value => some (p value)
  | _ => none

theorem tracks_quoted? {c k s : Nat} {p p' : String → Parser α}
    (each : ∀ value, Tracks d d' c k s (p value) (p' value)) (token : Token) :
    Option.Rel (Tracks d d' c k s) (quoted? p token) (quoted? p' token) := by
  cases token with
  | string value => exact .some (each value)
  | identifier | number | punct | ellipsis => exact .none

theorem enumValues_succ (depth : Nat) : enumValues (depth + 1) = (do
    if ← eatPunct '\x7d' then
      pure []
    else
      onToken (quoted? fun value => do
        if ← eatPunct ',' then
          let others ← enumValues depth
          pure (value :: others)
        else
          expect '\x7d'
          pure [value]) fun _ => blame .enumValue) := by
  rw [enumValues]
  refine bind_congr fun closed => ?_
  cases closed with
  | true => rfl
  | false => exact next_branch (quoted? _) rfl fun token => by cases token <;> rfl

theorem tracks_enumValues (d d' : Nat) : Tracks d d' 1 1 0 (enumValues d) (enumValues d') := by
  induction d generalizing d' with
  | zero => exact .of_shallow (by decide)
  | succ d ih =>
    refine .deeper fun d' => ?_
    rw [enumValues_succ, enumValues_succ]
    exact (Tracks.whether (.pure _) (tracks_onToken (tracks_quoted? fun value =>
      .whether ((ih d').bind fun _ => .pure _) ((tracks_expect '\x7d').bind fun _ => .pure _))
      fun _ => tracks_blame (k := 2) (s := 0) .enumValue nofun)).mono (by decide)

/-! ## Definitions -/

theorem tracks_wordAt (j : Nat) (word : String) (near : j ≤ 1) :
    Tracks d d' 0 0 (j + 1) (wordAt j word) (wordAt j word) :=
  ((tracks_peek j near).bind fun _ => .pure _).mono (by omega)

theorem tracks_identifierAt (j : Nat) (near : j ≤ 1) :
    Tracks d d' 0 0 (j + 1) (identifierAt j) (identifierAt j) := by
  refine ((tracks_peek j near).bind fun token => (?_ : Tracks d d' 0 0 0 _ _)).mono (by omega)
  split
  · exact .pure true
  · exact .pure false

theorem tracks_skipMixin : Tracks d d' 0 0 2 skipMixin skipMixin :=
  ((tracks_wordAt 0 "mixin" (by decide)).bind fun _ => (tracks_identifierAt 1 (by decide)).bind fun _ =>
    .ite tracks_skip (.pure ())).mono (by decide)

theorem tracks_parentOption : Tracks d d' 0 0 1 parentOption parentOption := by
  rw [parentOption_eq]
  exact tracks_identifier.optionally.mono (by decide)

theorem tracks_body (kind : DefinitionKind) : Tracks d d' 0 4 0 (body kind d) (body kind d') :=
  (tracks_identifier.bind fun name => tracks_parentOption.bind fun _ => (tracks_expect '\x7b').bind fun _ =>
    (tracks_members kind name d d').bind fun _ => (tracks_expect ';').bind fun _ => .pure _).mono (by decide)

theorem tracks_partialBody : Tracks d d' 0 5 0 (partialBody d) (partialBody d') :=
  (Tracks.whether (tracks_skipMixin.bind fun _ => (tracks_body .interface).bind fun _ => .pure _)
    (.whether ((tracks_body .dictionary).bind fun _ => .pure _)
      (tracks_fail (k := 5) (s := 0) .partialKind nofun))).mono (by decide)

theorem tracks_callback : Tracks d d' 0 6 0 (callback d) (callback d') :=
  (tracks_identifier.bind fun _ => (tracks_expect '=').bind fun _ => (tracks_type d d').bind fun _ =>
    tracks_arguments.bind fun _ => (tracks_expect ';').bind fun _ => .pure _).mono (by decide)

theorem tracks_enumeration : Tracks d d' 0 4 0 (enumeration d) (enumeration d') :=
  (tracks_identifier.bind fun _ => (tracks_expect '\x7b').bind fun _ => (tracks_enumValues d d').bind fun _ =>
    (tracks_expect ';').bind fun _ => .pure _).mono (by decide)

theorem tracks_typeAlias : Tracks d d' 2 3 0 (typeAlias d) (typeAlias d') :=
  ((tracks_attributes d d').bind fun _ => (tracks_type d d').bind fun _ => tracks_identifier.bind fun _ =>
    (tracks_expect ';').bind fun _ => .pure _).mono (by decide)

theorem tracks_implementation : Tracks d d' 0 3 0 implementation implementation :=
  (tracks_identifier.bind fun _ => tracks_skip.bind fun _ => tracks_identifier.bind fun _ =>
    (tracks_expect ';').bind fun _ => .pure _).mono (by decide)

theorem tracks_implementationStatement :
    Tracks d d' 0 3 0 implementationStatement implementationStatement :=
  ((tracks_identifierAt 0 (by decide)).bind fun _ => (tracks_wordAt 1 "implements" (by decide)).bind fun _ =>
    (tracks_wordAt 1 "includes" (by decide)).bind fun _ =>
    .ite tracks_implementation (tracks_fail (k := 3) (s := 0) .definition nofun)).mono (by decide)

theorem tracks_bareDefinition : Tracks d d' 0 3 0 (bareDefinition d) (bareDefinition d') := by
  rw [bareDefinition_eq, bareDefinition_eq]
  exact (Tracks.whether tracks_partialBody
    (.whether (.whether (tracks_body .callbackInterface) tracks_callback)
    (.whether (tracks_skipMixin.bind fun _ => tracks_body .interface)
    (.whether (tracks_body .dictionary)
    (.whether tracks_enumeration
    (.whether tracks_typeAlias tracks_implementationStatement)))))).mono (by decide)

theorem tracks_definition (d d' : Nat) : Tracks d d' 1 3 0 (definition d) (definition d') :=
  ((tracks_attributes d d').bind fun _ => tracks_bareDefinition.bind fun _ => .pure _).mono (by decide)

/-! ## Schemas -/

section

variable {x x' toks toks' rest : List Located} {ds : List Definition} {e : Failure}

theorem definitions_eq_error : definitions (d + 1) toks = .error e ↔
    toks ≠ [] ∧ (definition d toks = .error e
      ∨ ∃ first mid, definition d toks = .ok (first, mid) ∧ definitions d mid = .error e) := by
  cases toks with
  | nil => simp [definitions]
  | cons t later =>
    rw [definitions, bind_eq_error]
    simp only [bind_eq_error]
    simp [pure]

/-- There is enough depth for every schema, and the blame for a failure falls on a token or on the end. -/
theorem definitions_error (deep : 2 * toks.length + 2 ≤ d) (failed : definitions d toks = .error e) :
    toks ≠ [] ∧ e.expectation ≠ .shallower ∧ e.remaining ≤ toks.length := by
  induction d generalizing toks with
  | zero => omega
  | succ d ih =>
    obtain ⟨some_token, failed | ⟨first, mid, ran, failed⟩⟩ := definitions_eq_error.1 failed
    · obtain ⟨met, blamed⟩ := ((tracks_definition d 0).bounded (by omega)).error failed
      have := List.length_pos_iff.2 some_token
      exact ⟨some_token, met, by omega⟩
    · have taken := ((tracks_definition d 0).bounded (by omega)).ok ran
      obtain ⟨-, met, blamed⟩ := ih (by omega) failed
      exact ⟨some_token, met, by omega⟩

/-- One definition, and then the others. -/
theorem definitions_of_first {first : Definition} {mid : List Located} (some_token : toks ≠ [])
    (ran : definition d toks = .ok (first, mid)) :
    definitions (d + 1) toks = (definitions d mid).map fun result => (first :: result.1, result.2) := by
  obtain ⟨t, later, rfl⟩ := List.exists_cons_of_ne_nil some_token
  simp only [definitions, bind, ran]
  cases definitions d mid <;> rfl

/-- A schema that can be read, with other tokens behind it, is read up to these. -/
theorem definitions_append (deep : 2 * toks.length + 2 ≤ d) (ran : definitions d toks = .ok (ds, rest))
    (alike : Alike [] x' toks toks') (deep' : 2 * toks'.length + 2 ≤ d') :
    ∃ d'', 2 * x'.length + 2 ≤ d''
      ∧ definitions d' toks' = (definitions d'' x').map fun result => (ds ++ result.1, result.2) := by
  induction d generalizing d' toks toks' ds with
  | zero => omega
  | succ d ih =>
    rcases definitions_eq_ok.1 ran with ⟨rfl, rfl, rfl⟩ | ⟨some_token, first, mid, ran₁, others, ran₂, rfl⟩
    · cases alike
      exact ⟨d', deep', (congrFun Except.map_id _).symm⟩
    · obtain ⟨d', rfl⟩ := Nat.exists_eq_add_one.2 (show 0 < d' by omega)
      have taken := ((tracks_definition d d').bounded (by omega)).ok ran₁
      obtain ⟨mid', alike', ran'⟩ :=
        ((tracks_definition d d').agrees alike (by omega) (by omega)).ok ran₁ (.inr (by simp))
      have length := alike.length
      have length' := alike'.length
      have enough : 2 * mid'.length + 2 ≤ d' := by omega
      obtain ⟨d'', deep'', same⟩ := ih (by omega) ran₂ alike' enough
      have some_token' : toks' ≠ [] := List.ne_nil_of_length_pos (by omega)
      refine ⟨d'', deep'', ?_⟩
      rw [definitions_of_first some_token' ran', same]
      cases definitions d'' x' <;> rfl

/-- A schema that cannot be read fails in the same way where it goes on differently behind the token that is
blamed and the next one. -/
theorem definitions_fails (deep : 2 * toks.length + 2 ≤ d) (failed : definitions d toks = .error e)
    (alike : Alike x x' toks toks') (reaches : Reaches x x' 2 e.remaining) (deep' : 2 * toks'.length + 2 ≤ d') :
    ∃ m, m + x.length = e.remaining + x'.length ∧ definitions d' toks' = .error ⟨e.expectation, m⟩ := by
  induction d generalizing d' toks toks' with
  | zero => omega
  | succ d ih =>
    obtain ⟨d', rfl⟩ := Nat.exists_eq_add_one.2 (show 0 < d' by omega)
    obtain ⟨some_token, -, blamed⟩ := definitions_error deep failed
    have some_token' : toks' ≠ [] := by
      rcases alike.front (reaches.mono (by omega)) with ⟨rfl, -⟩ | ⟨_, _, _, _, _, -, rfl, -⟩
      · exact absurd rfl some_token
      · exact List.cons_ne_nil _ _
    have agrees := (tracks_definition d d').agrees alike (by omega) (by omega)
    obtain ⟨-, failed | ⟨first, mid, ran, failed⟩⟩ := definitions_eq_error.1 failed
    · obtain ⟨m, same, failed'⟩ := agrees.error failed reaches
      exact ⟨m, same, definitions_eq_error.2 ⟨some_token', .inl failed'⟩⟩
    · have taken := ((tracks_definition d d').bounded (by omega)).ok ran
      obtain ⟨-, -, blamed'⟩ := definitions_error (by omega) failed
      obtain ⟨mid', alike', ran'⟩ := agrees.ok ran (reaches.mono (by omega))
      have length := alike.length
      have length' := alike'.length
      have enough : 2 * mid'.length + 2 ≤ d' := by omega
      obtain ⟨m, same, failed'⟩ := ih (by omega) failed alike' enough
      exact ⟨m, same, definitions_eq_error.2 ⟨some_token', .inr ⟨first, mid', ran', failed'⟩⟩⟩

end

end IdlBindings.Grammar
