/-
# IdlBindings.Proofs.ParsedShape: what the grammar reads is well formed.

The tokens of a text are writable: identifiers are identifiers, strings hold no quotes, numbers are
numbers.  From writable tokens every parser makes a well-formed part of a schema and leaves writable
tokens.  The parsers of types, arguments and extended attributes call each other at smaller depths, so
for them the result is proved by induction on the depth.
-/
import IdlBindings.Proofs.ParserSteps
import IdlBindings.Proofs.Printable

namespace IdlBindings

namespace Grammar

open Token (Located plain isIdentifier)

variable {α : Type} {toks rest : List Located} {depth : Nat}

/-- All tokens can be written. -/
def Writable (toks : List Located) : Prop :=
  ∀ t ∈ toks, t.token.isWritable = true

/-- From writable tokens the parser makes a value with the property and leaves writable tokens. -/
def Yields (p : Parser α) (property : α → Prop) : Prop :=
  ∀ ⦃toks a rest⦄, Writable toks → p toks = .ok (a, rest) → property a ∧ Writable rest

theorem Takes.writable {token : Token} (h : Takes toks token rest) (writable : Writable toks) :
    token.isWritable = true ∧ Writable rest := by
  obtain ⟨place, rfl⟩ := h
  exact ⟨writable _ (List.mem_cons_self ..), fun t inside => writable t (List.mem_cons_of_mem _ inside)⟩

theorem Takes.writable_name {name : String} (h : Takes toks (.identifier name) rest)
    (writable : Writable toks) : isIdentifier name = true ∧ Writable rest :=
  h.writable writable

theorem Writable.drop (writable : Writable toks) (k : Nat) : Writable (toks.drop k) :=
  fun t inside => writable t (List.mem_of_mem_drop inside)

/-! ## Options and repetitions -/

theorem yields_eat (token : Token) : Yields (eat token) fun _ => True := by
  intro toks b rest writable ran
  cases b with
  | false =>
    obtain ⟨rfl, -⟩ := eat_false.1 ran
    exact ⟨trivial, writable⟩
  | true => exact ⟨trivial, ((eat_true.1 ran).writable writable).2⟩

theorem yields_optionally {token : Token} {p : Parser α} {property : α → Bool}
    (h : Yields p (property · = true)) :
    Yields (optionally token p) fun a => a.all property = true := by
  intro toks a rest writable ran
  rcases optionally_eq_ok.1 ran with ⟨-, rfl, rfl⟩ | ⟨r₁, taken, value, inner, rfl⟩
  · exact ⟨rfl, writable⟩
  · exact h (taken.writable writable).2 inner

theorem yields_repeated {separator : Token} {item : Nat → Parser α} {property : α → Prop} :
    ∀ depth, (∀ smaller, smaller < depth → Yields (item smaller) property) →
      Yields (repeated separator item depth) fun as => ∀ a ∈ as, property a
  | 0, _ => fun _ _ _ _ ran => by cases ran
  | depth + 1, each => by
    intro toks as rest writable ran
    rcases repeated_eq_ok.1 ran with ⟨-, rfl, rfl⟩ | ⟨r₁, taken, first, r₂, head, others, tail, rfl⟩
    · exact ⟨by simp, writable⟩
    · obtain ⟨good, writable⟩ := each depth (by omega) (taken.writable writable).2 head
      obtain ⟨goods, writable⟩ := yields_repeated depth
        (fun smaller less => each smaller (by omega)) writable tail
      exact ⟨List.forall_mem_cons.2 ⟨good, goods⟩, writable⟩

/-! ## Names and values -/

theorem yields_typeName : Yields typeName fun name => TypeExpr.isTypeName name = true := by
  intro toks name rest writable ran
  obtain ⟨first, r₁, taken, named⟩ := typeName_eq_ok.1 ran
  obtain ⟨identifier, writable⟩ := taken.writable_name writable
  rcases named with ⟨-, ⟨short, rfl⟩ | ⟨r₂, long, ⟨-, rfl, rfl⟩ | ⟨longer, rfl⟩⟩⟩
    | ⟨-, ⟨-, rfl, rfl⟩ | ⟨long, rfl⟩⟩ | ⟨-, ⟨float, rfl⟩ | ⟨double, rfl⟩⟩
    | ⟨unsigned, -, unrestricted, rfl, rfl⟩
  · exact ⟨by decide, (short.writable writable).2⟩
  · exact ⟨by decide, (long.writable writable).2⟩
  · exact ⟨by decide, (longer.writable (long.writable writable).2).2⟩
  · exact ⟨by decide, writable⟩
  · exact ⟨by decide, (long.writable writable).2⟩
  · exact ⟨by decide, (float.writable writable).2⟩
  · exact ⟨by decide, (double.writable writable).2⟩
  · exact ⟨by simp [TypeExpr.isTypeName, identifier, unsigned, unrestricted], writable⟩

theorem yields_defaultValue : Yields defaultValue fun value => value.isWellFormed = true := by
  intro toks value rest writable ran
  rcases defaultValue_eq_ok.1 ran with ⟨text, rfl, taken⟩ | ⟨text, rfl, taken⟩
    | ⟨word, listed, rfl, taken⟩ | ⟨r₁, opened, closed, rfl⟩ | ⟨r₁, opened, closed, rfl⟩
  · obtain ⟨good, writable⟩ := taken.writable writable
    exact ⟨good, writable⟩
  · obtain ⟨good, writable⟩ := taken.writable writable
    have number : Token.isNumber text = true := good
    exact ⟨by simp [DefaultValue.isWellFormed, number], writable⟩
  · have words : ∀ word ∈ valueWords, (⟨word.2, word.1⟩ : DefaultValue).isWellFormed = true := by decide
    exact ⟨words word listed, (taken.writable writable).2⟩
  · exact ⟨rfl, (closed.writable (opened.writable writable).2).2⟩
  · exact ⟨rfl, (closed.writable (opened.writable writable).2).2⟩

theorem yields_defaultOption :
    Yields defaultOption fun value => value.all (·.isWellFormed) = true := by
  rw [defaultOption_eq]
  exact yields_optionally yields_defaultValue

theorem yields_identifier : Yields identifier fun name => isIdentifier name = true :=
  fun _ _ _ writable ran => (identifier_eq_ok.1 ran).writable_name writable

theorem yields_attributeValue :
    Yields (attributeValue depth) fun value => value.isWellFormed = true := by
  intro toks value rest writable ran
  rcases attributeValue_eq_ok.1 ran with (⟨name, rfl, taken⟩ | ⟨text, rfl, taken⟩ | ⟨text, rfl, taken⟩)
    | ⟨r₁, opened, name, r₂, first, names, r₃, others, closed, rfl⟩
  · exact taken.writable writable
  · exact taken.writable writable
  · exact taken.writable writable
  · obtain ⟨identifier, writable⟩ := first.writable_name (opened.writable writable).2
    obtain ⟨goods, writable⟩ := yields_repeated depth (fun _ _ => yields_identifier) writable others
    refine ⟨?_, (closed.writable writable).2⟩
    simpa [AttributeValue.isWellFormed, identifier] using goods

/-! ## Types, arguments and extended attributes -/

theorem areWellFormed_iff (ts : List TypeExpr) :
    TypeExpr.areWellFormed ts = true ↔ ∀ t ∈ ts, t.isWellFormed = true := by
  induction ts with
  | nil => simp [TypeExpr.areWellFormed]
  | cons t ts ih => simp [TypeExpr.areWellFormed, ih]

/-- Whether an extended attribute can be written. -/
def attributeWellFormed (a : ExtendedAttribute) : Bool :=
  isIdentifier a.name && a.value.all (·.isWellFormed) && a.arguments.all Argument.areWellFormed

theorem attributesWellFormed_iff : ∀ as : List ExtendedAttribute,
    Argument.attributesWellFormed as = true ↔ ∀ a ∈ as, attributeWellFormed a = true
  | [] => by simp [Argument.attributesWellFormed]
  | ⟨name, value, none⟩ :: as => by
    rw [Argument.attributesWellFormed, List.forall_mem_cons, ← attributesWellFormed_iff as]
    simp [attributeWellFormed]
  | ⟨name, value, some args⟩ :: as => by
    rw [Argument.attributesWellFormed, List.forall_mem_cons, ← attributesWellFormed_iff as]
    simp [attributeWellFormed]

/-- What the parsers of types, arguments and extended attributes make at a depth. -/
structure ShapedAt (depth : Nat) : Prop where
  ofType : Yields (type depth) fun t => t.isWellFormed = true
  ofSingle : Yields (singleType depth) fun t => t.isWellFormed = true ∧ t.isNullable = false
  ofArgument : Yields (argument depth) fun a => a.isWellFormed = true
  ofArguments : Yields (argumentsTail depth) fun as => Argument.areWellFormed as = true
  ofAttribute : Yields (oneAttribute depth) fun a => attributeWellFormed a = true
  ofAttributes : Yields (attributes depth) fun as => Argument.attributesWellFormed as = true

theorem ShapedAt.zero : ShapedAt 0 where
  ofType := fun _ _ _ _ ran => by cases ran
  ofSingle := fun _ _ _ _ ran => by cases ran
  ofArgument := fun _ _ _ _ ran => by cases ran
  ofArguments := fun _ _ _ _ ran => by cases ran
  ofAttribute := fun _ _ _ _ ran => by cases ran
  ofAttributes := fun _ _ _ _ ran => by cases ran

theorem yields_types (first : Yields (type depth) fun t => t.isWellFormed = true)
    (smaller : ∀ d, d < depth → ShapedAt d) (separator : Token) {r₂ : List Located}
    {t : TypeExpr} {ts : List TypeExpr} (writable : Writable toks)
    (head : type depth toks = .ok (t, r₂))
    (tail : repeated separator type depth r₂ = .ok (ts, rest)) :
    TypeExpr.areWellFormed (t :: ts) = true ∧ Writable rest := by
  obtain ⟨good, writable⟩ := first writable head
  obtain ⟨goods, writable⟩ := yields_repeated depth (fun d less => (smaller d less).ofType)
    writable tail
  exact ⟨(areWellFormed_iff _).2 (List.forall_mem_cons.2 ⟨good, goods⟩), writable⟩

theorem yields_unmarked (shaped : ∀ d, d ≤ depth → ShapedAt d) :
    Yields (unmarked depth) fun t => t.isWellFormed = true ∧ t.isNullable = false := by
  intro toks t rest writable ran
  have here := shaped depth (Nat.le_refl _)
  rcases unmarked_eq_ok.1 ran with ⟨-, as, r₁, skipped, single⟩
    | ⟨r₁, opened, first, r₂, head, others, r₃, tail, closed, rfl⟩
  · exact here.ofSingle (here.ofAttributes writable skipped).2 single
  · obtain ⟨goods, writable⟩ := yields_types here.ofType (fun d less => shaped d (Nat.le_of_lt less)) _
      (opened.writable writable).2 head tail
    exact ⟨⟨by simpa [TypeExpr.isWellFormed] using goods, rfl⟩, (closed.writable writable).2⟩

theorem applied_shape {name : String} {ts : List TypeExpr} {t : TypeExpr}
    (named : TypeExpr.isTypeName name = true) (some_type : ts.isEmpty = false)
    (goods : TypeExpr.areWellFormed ts = true) (h : applied name ts toks = .ok (t, rest)) :
    (t.isWellFormed = true ∧ t.isNullable = false) ∧ toks = rest := by
  unfold applied at h
  rcases ite_eq_ok.1 h with ⟨rfl, h⟩ | ⟨other, h⟩
  · match ts with
    | [element] =>
      obtain ⟨rfl, rfl⟩ := pure_eq_ok.1 h
      simp only [TypeExpr.areWellFormed, Bool.and_true] at goods
      exact ⟨⟨by rwa [TypeExpr.isWellFormed], rfl⟩, rfl⟩
    | [] | _ :: _ :: _ => cases h
  · obtain ⟨rfl, rfl⟩ := pure_eq_ok.1 h
    exact ⟨⟨by simp [TypeExpr.isWellFormed, named, other, some_type, goods], rfl⟩, rfl⟩

theorem ShapedAt.succ (shaped : ∀ d, d ≤ depth → ShapedAt d) : ShapedAt (depth + 1) := by
  have here := shaped depth (Nat.le_refl _)
  constructor
  case ofType =>
    intro toks t rest writable ran
    obtain ⟨base, mid, read, marked⟩ := type_eq_ok.1 ran
    obtain ⟨⟨good, simple⟩, writable⟩ := yields_unmarked shaped writable read
    rcases marked with ⟨rfl, -, rfl⟩ | ⟨mark, rfl⟩
    · exact ⟨good, writable⟩
    · exact ⟨by simp [TypeExpr.isWellFormed, good, simple], (mark.writable writable).2⟩
  case ofSingle =>
    -- A sequence is written like any other type with arguments, so `applied` tells them apart.
    intro toks t rest writable ran
    obtain ⟨name, r₁, read, behind⟩ := singleType_eq_ok.1 ran
    obtain ⟨named, writable⟩ := yields_typeName writable read
    rcases behind with ⟨-, rfl, rfl⟩ | ⟨r₂, opened, first, r₃, head, others, r₄, tail, r₅, closed, made⟩
    · exact ⟨⟨by rwa [TypeExpr.isWellFormed], rfl⟩, writable⟩
    · obtain ⟨goods, writable⟩ := yields_types here.ofType (fun d less => shaped d (Nat.le_of_lt less)) _
        (opened.writable writable).2 head tail
      obtain ⟨good, rfl⟩ := applied_shape named rfl goods made
      exact ⟨good, (closed.writable writable).2⟩
  case ofArgument =>
    intro toks a rest writable ran
    obtain ⟨r₁, attrs, r₂, optional, r₃, typed, r₄, variadic, r₅, named, value⟩ := argument_eq_ok.1 ran
    obtain ⟨good_attrs, writable⟩ := here.ofAttributes writable attrs
    obtain ⟨-, writable⟩ := yields_eat _ writable optional
    obtain ⟨good_type, writable⟩ := here.ofType writable typed
    obtain ⟨-, writable⟩ := yields_eat _ writable variadic
    obtain ⟨identifier, writable⟩ := named.writable_name writable
    obtain ⟨good_value, writable⟩ := yields_defaultOption writable value
    obtain ⟨⟩ := a
    refine ⟨?_, writable⟩
    simp only [Argument.isWellFormed, identifier, good_type, good_value, good_attrs, Bool.and_true]
  case ofArguments =>
    intro toks as rest writable ran
    rcases argumentsTail_eq_ok.1 ran with
      ⟨-, first, r₁, head, ⟨-, closed, rfl⟩ | ⟨r₂, comma, others, tail, rfl⟩⟩ | ⟨closed, rfl⟩
    · obtain ⟨good, writable⟩ := here.ofArgument writable head
      exact ⟨by simp [Argument.areWellFormed, good], (closed.writable writable).2⟩
    · obtain ⟨good, writable⟩ := here.ofArgument writable head
      obtain ⟨goods, writable⟩ := here.ofArguments (comma.writable writable).2 tail
      exact ⟨by simp [Argument.areWellFormed, good, goods], writable⟩
    · exact ⟨by simp [Argument.areWellFormed], (closed.writable writable).2⟩
  case ofAttribute =>
    intro toks a rest writable ran
    obtain ⟨r₁, named, r₂, value, arguments⟩ := oneAttribute_eq_ok.1 ran
    obtain ⟨identifier, writable⟩ := named.writable_name writable
    obtain ⟨good_value, writable⟩ := yields_optionally yields_attributeValue writable value
    obtain ⟨goods, writable⟩ := yields_optionally here.ofArguments writable arguments
    exact ⟨by simp [attributeWellFormed, identifier, good_value, goods], writable⟩
  case ofAttributes =>
    intro toks as rest writable ran
    rcases attributes_eq_ok.1 ran with ⟨-, rfl, rfl⟩
      | ⟨r₁, opened, first, r₂, head, others, r₃, tail, closed, rfl⟩
    · exact ⟨by simp [Argument.attributesWellFormed], writable⟩
    · obtain ⟨good, writable⟩ := here.ofAttribute (opened.writable writable).2 head
      obtain ⟨goods, writable⟩ := yields_repeated depth
        (fun d less => (shaped d (Nat.le_of_lt less)).ofAttribute) writable tail
      exact ⟨(attributesWellFormed_iff _).2 (List.forall_mem_cons.2 ⟨good, goods⟩),
        (closed.writable writable).2⟩

theorem shapedAt (depth : Nat) : ShapedAt depth := by
  induction depth using Nat.strongRecOn with
  | ind depth ih =>
    cases depth with
    | zero => exact .zero
    | succ depth => exact .succ fun d le => ih d (by omega)

/-! ## Members -/

theorem yields_arguments : Yields (arguments depth) fun as => Argument.areWellFormed as = true := by
  intro toks as rest writable ran
  obtain ⟨r₁, opened, read⟩ := arguments_eq_ok.1 ran
  exact (shapedAt depth).ofArguments (opened.writable writable).2 read

theorem yields_field : Yields (field depth) fun m => m.isWellFormed = true := by
  intro toks m rest writable ran
  obtain ⟨required, r₁, eaten, as, r₂, attrs, t, r₃, typed, name, r₄, named, value, r₅, valued, ended, rfl⟩ :=
    field_eq_ok.1 ran
  obtain ⟨-, writable⟩ := yields_eat _ writable eaten
  obtain ⟨good_attrs, writable⟩ := (shapedAt depth).ofAttributes writable attrs
  obtain ⟨good_type, writable⟩ := (shapedAt depth).ofType writable typed
  obtain ⟨identifier, writable⟩ := named.writable_name writable
  obtain ⟨good_value, writable⟩ := yields_defaultOption writable valued
  exact ⟨by simp [Member.isWellFormed, good_attrs, good_type, identifier, good_value],
    (ended.writable writable).2⟩

theorem yields_constant : Yields (constant depth) fun m => m.isWellFormed = true := by
  intro toks m rest writable ran
  obtain ⟨t, r₁, typed, name, r₂, named, r₃, equals, value, r₄, valued, ended, rfl⟩ :=
    constant_eq_ok.1 ran
  obtain ⟨good_type, writable⟩ := (shapedAt depth).ofType writable typed
  obtain ⟨identifier, writable⟩ := named.writable_name writable
  obtain ⟨good_value, writable⟩ := yields_defaultValue (equals.writable writable).2 valued
  exact ⟨by simp [Member.isWellFormed, Argument.attributesWellFormed, good_type, identifier, good_value],
    (ended.writable writable).2⟩

theorem yields_constructorOf {owner : String} :
    Yields (constructorOf owner depth) fun m => m.isWellFormed = true := by
  intro toks m rest writable ran
  obtain ⟨as, r₁, read, ended, rfl⟩ := constructorOf_eq_ok.1 ran
  obtain ⟨goods, writable⟩ := yields_arguments writable read
  exact ⟨by simp [Member.isWellFormed, Argument.attributesWellFormed, goods],
    (ended.writable writable).2⟩

variable {ms : Modifiers}

theorem yields_property : Yields (property ms depth) fun m => m.isWellFormed = true := by
  intro toks m rest writable ran
  obtain ⟨t, r₁, typed, name, r₂, named, ended, rfl⟩ := property_eq_ok.1 ran
  obtain ⟨good_type, writable⟩ := (shapedAt depth).ofType writable typed
  obtain ⟨identifier, writable⟩ := named.writable_name writable
  exact ⟨by simp [Member.isWellFormed, Argument.attributesWellFormed, good_type, identifier],
    (ended.writable writable).2⟩

theorem yields_collection {c : MemberKind × String} (listed : c ∈ collections) :
    Yields (collection c.1 c.2 ms depth) fun m => m.isWellFormed = true := by
  intro toks m rest writable ran
  obtain ⟨first, r₁, typed, second, r₂, behind, r₃, closed, ended, rfl⟩ := collection_eq_ok.1 ran
  obtain ⟨good_first, writable⟩ := (shapedAt depth).ofType writable typed
  obtain ⟨good_second, writable⟩ := yields_optionally (shapedAt depth).ofType writable behind
  refine ⟨?_, (ended.writable (closed.writable writable).2).2⟩
  have good_type : (second.getD first).isWellFormed = true := by
    cases second with
    | none => exact good_first
    | some t => exact good_second
  have good_key : (second.map fun _ => first).all (·.isWellFormed) = true := by
    cases second with
    | none => rfl
    | some t => exact good_first
  simp only [collections, List.mem_cons, List.not_mem_nil, or_false] at listed
  rcases listed with rfl | rfl | rfl <;>
    simp only [Member.isWellFormed, Argument.attributesWellFormed, good_type, good_key, Bool.and_true]

theorem yields_optionalName :
    Yields optionalName fun name => (name.isEmpty || isIdentifier name) = true := by
  intro toks name rest writable ran
  rcases optionalName_eq_ok.1 ran with taken | ⟨-, rfl, rfl⟩
  · obtain ⟨identifier, writable⟩ := taken.writable_name writable
    exact ⟨by simp [identifier], writable⟩
  · exact ⟨rfl, writable⟩

theorem yields_operation (specials : ms.specials.all specialWords.contains = true) :
    Yields (operation ms depth) fun m => m.isWellFormed = true := by
  intro toks m rest writable ran
  obtain ⟨t, r₁, typed, name, r₂, named, as, r₃, read, ended, rfl⟩ := operation_eq_ok.1 ran
  obtain ⟨good_type, writable⟩ := (shapedAt depth).ofType writable typed
  obtain ⟨good_name, writable⟩ := yields_optionalName writable named
  obtain ⟨goods, writable⟩ := yields_arguments writable read
  refine ⟨?_, (ended.writable writable).2⟩
  simp only [Member.isWellFormed, Argument.attributesWellFormed, good_type, good_name, goods, specials,
    Bool.and_true]

theorem splitModifiers_shape (writable : Writable toks) :
    (splitModifiers toks).1.specials.all specialWords.contains = true
      ∧ Writable (splitModifiers toks).2 := by
  fun_induction splitModifiers toks with
  | case1 => exact ⟨rfl, writable⟩
  | case2 word place rest modifier later behind split ih =>
    obtain ⟨specials, writable⟩ := ih fun t inside => writable t (List.mem_cons_of_mem _ inside)
    rw [split] at specials writable
    refine ⟨?_, writable⟩
    -- A word is added to the specials when it is a modifier and none of the other three.
    simp only [isModifier, Bool.or_eq_true, beq_iff_eq] at modifier
    unfold Modifiers.push
    split_ifs with static readonly inherit
    · exact specials
    · exact specials
    · exact specials
    · have special : specialWords.contains word = true := by simpa [static, readonly, inherit] using modifier
      rw [List.all_cons, special, specials]
      rfl
  | case3 => exact ⟨rfl, writable⟩
  | case4 => exact ⟨rfl, writable⟩

theorem yields_modified (specials : ms.specials.all specialWords.contains = true) :
    Yields (modified ms depth) fun m => m.isWellFormed = true := by
  intro toks m rest writable ran
  rcases modified_eq_ok.1 ran with ⟨r₁, taken, read⟩ | ⟨c, listed, -, read⟩ | ⟨-, -, read⟩
  · exact yields_property (taken.writable writable).2 read
  · exact yields_collection listed (writable.drop 2) read
  · exact yields_operation specials writable read

theorem yields_interfaceMember {owner : String} :
    Yields (interfaceMember owner depth) fun m => m.isWellFormed = true := by
  intro toks m rest writable ran
  rcases interfaceMember_eq_ok.1 ran with ⟨r₁, taken, read⟩ | ⟨-, read⟩ | ⟨-, rfl, rfl⟩ | ⟨-, -, -, read⟩
  · exact yields_constant (taken.writable writable).2 read
  · exact yields_constructorOf (writable.drop 1) read
  · exact ⟨by simp [Member.isWellFormed, Argument.attributesWellFormed], writable.drop 2⟩
  · obtain ⟨specials, writable⟩ := splitModifiers_shape writable
    exact yields_modified specials writable read

theorem yields_member {kind : DefinitionKind} {owner : String} :
    Yields (member kind owner depth) fun m => m.isWellFormed = true := by
  intro toks m rest writable ran
  obtain ⟨outer, r₁, attrs, inner, read, rfl⟩ := member_eq_ok.1 ran
  obtain ⟨good_attrs, writable⟩ := (shapedAt depth).ofAttributes writable attrs
  obtain ⟨good, writable⟩ : inner.isWellFormed = true ∧ Writable rest := by
    rcases ite_eq_ok.1 read with ⟨-, read⟩ | ⟨-, read⟩
    · exact yields_field writable read
    · exact yields_interfaceMember writable read
  refine ⟨?_, writable⟩
  -- A dictionary member brings extended attributes of its own, behind `required`.
  simp only [Member.isWellFormed, Bool.and_eq_true, attributesWellFormed_iff] at good good_attrs ⊢
  exact ⟨List.forall_mem_append.2 ⟨good_attrs, good.1⟩, good.2⟩

theorem yields_members {kind : DefinitionKind} {owner : String} : ∀ depth,
    Yields (members kind owner depth) fun ms => ms.all (·.isWellFormed) = true
  | 0 => fun _ _ _ _ ran => by cases ran
  | depth + 1 => by
    intro toks ms rest writable ran
    rcases members_eq_ok.1 ran with ⟨-, first, r₁, head, others, tail, rfl⟩ | ⟨closed, rfl⟩
    · obtain ⟨good, writable⟩ := yields_member writable head
      obtain ⟨goods, writable⟩ := yields_members depth writable tail
      exact ⟨List.all_eq_true.2 (List.forall_mem_cons.2 ⟨good, List.all_eq_true.1 goods⟩), writable⟩
    · exact ⟨rfl, (closed.writable writable).2⟩

theorem yields_enumValues : ∀ depth,
    Yields (enumValues depth) fun values => values.all Token.isQuotable = true
  | 0 => fun _ _ _ _ ran => by cases ran
  | depth + 1 => by
    intro toks values rest writable ran
    rcases enumValues_eq_ok.1 ran with ⟨value, r₁, taken, ⟨-, closed, rfl⟩ | ⟨r₂, comma, others, tail, rfl⟩⟩
      | ⟨rfl, closed⟩
    · obtain ⟨good, writable⟩ := taken.writable writable
      have quotable : Token.isQuotable value = true := good
      exact ⟨by simp [quotable], (closed.writable writable).2⟩
    · obtain ⟨good, writable⟩ := taken.writable writable
      obtain ⟨goods, writable⟩ := yields_enumValues depth (comma.writable writable).2 tail
      exact ⟨List.all_eq_true.2 (List.forall_mem_cons.2 ⟨good, List.all_eq_true.1 goods⟩), writable⟩
    · exact ⟨rfl, (closed.writable writable).2⟩

/-! ## Definitions -/

theorem yields_body {kind : DefinitionKind} : Yields (body kind depth) fun d => d.isWellFormed = true := by
  intro toks d rest writable ran
  obtain ⟨name, r₁, named, parent, r₂, parented, r₃, opened, ms, r₄, read, ended, rfl⟩ := body_eq_ok.1 ran
  obtain ⟨identifier, writable⟩ := named.writable_name writable
  rw [parentOption_eq] at parented
  obtain ⟨good_parent, writable⟩ := yields_optionally yields_identifier writable parented
  obtain ⟨goods, writable⟩ := yields_members depth (opened.writable writable).2 read
  refine ⟨?_, (ended.writable writable).2⟩
  simp [Definition.isWellFormed, Argument.attributesWellFormed, Argument.areWellFormed, identifier,
    good_parent, -List.all_eq_true, goods]

theorem yields_callback : Yields (callback depth) fun d => d.isWellFormed = true := by
  intro toks d rest writable ran
  obtain ⟨name, r₁, named, r₂, equals, t, r₃, typed, as, r₄, read, ended, rfl⟩ := callback_eq_ok.1 ran
  obtain ⟨identifier, writable⟩ := named.writable_name writable
  obtain ⟨good_type, writable⟩ := (shapedAt depth).ofType (equals.writable writable).2 typed
  obtain ⟨goods, writable⟩ := yields_arguments writable read
  refine ⟨?_, (ended.writable writable).2⟩
  simp [Definition.isWellFormed, Argument.attributesWellFormed, identifier, good_type, goods]

theorem yields_enumeration : Yields (enumeration depth) fun d => d.isWellFormed = true := by
  intro toks d rest writable ran
  obtain ⟨name, r₁, named, r₂, opened, values, r₃, read, ended, rfl⟩ := enumeration_eq_ok.1 ran
  obtain ⟨identifier, writable⟩ := named.writable_name writable
  obtain ⟨goods, writable⟩ := yields_enumValues depth (opened.writable writable).2 read
  refine ⟨?_, (ended.writable writable).2⟩
  simp [Definition.isWellFormed, Argument.attributesWellFormed, Argument.areWellFormed, identifier,
    -List.all_eq_true, goods]

theorem yields_typeAlias : Yields (typeAlias depth) fun d => d.isWellFormed = true := by
  intro toks d rest writable ran
  obtain ⟨as, r₁, attrs, t, r₂, typed, name, r₃, named, ended, rfl⟩ := typeAlias_eq_ok.1 ran
  obtain ⟨-, writable⟩ := (shapedAt depth).ofAttributes writable attrs
  obtain ⟨good_type, writable⟩ := (shapedAt depth).ofType writable typed
  obtain ⟨identifier, writable⟩ := named.writable_name writable
  refine ⟨?_, (ended.writable writable).2⟩
  simp [Definition.isWellFormed, Argument.attributesWellFormed, Argument.areWellFormed, identifier,
    good_type]

theorem yields_partialBody : Yields (partialBody depth) fun d => d.isWellFormed = true := by
  intro toks d rest writable ran
  rcases partialBody_eq_ok.1 ran with ⟨r₁, taken, r₂, skipped, whole, read, rfl⟩
    | ⟨r₁, taken, whole, read, rfl⟩
  · obtain ⟨k, rfl⟩ := skipMixin_drop skipped
    obtain ⟨good, writable⟩ := yields_body ((taken.writable writable).2.drop k) read
    exact ⟨good, writable⟩
  · obtain ⟨good, writable⟩ := yields_body (taken.writable writable).2 read
    exact ⟨good, writable⟩

theorem yields_implementation : Yields implementation fun d => d.isWellFormed = true := by
  intro toks d rest writable ran
  obtain ⟨name, r₁, named, implemented, r₂, taken, ended, rfl⟩ := implementation_eq_ok.1 ran
  obtain ⟨identifier, writable⟩ := named.writable_name writable
  obtain ⟨identifier', writable⟩ := taken.writable_name (writable.drop 1)
  refine ⟨?_, (ended.writable writable).2⟩
  simp [Definition.isWellFormed, Argument.attributesWellFormed, Argument.areWellFormed, identifier,
    identifier']

theorem yields_bareDefinition : Yields (bareDefinition depth) fun d => d.isWellFormed = true := by
  intro toks d rest writable ran
  rcases bareDefinition_eq_ok.1 ran with ⟨r₁, taken, read⟩
    | ⟨r₁, taken, ⟨-, read⟩ | ⟨r₂, interface, read⟩⟩ | ⟨r₁, taken, r₂, skipped, read⟩
    | ⟨r₁, taken, read⟩ | ⟨r₁, taken, read⟩ | ⟨r₁, taken, read⟩ | ⟨-, read⟩
  · exact yields_partialBody (taken.writable writable).2 read
  · exact yields_callback (taken.writable writable).2 read
  · exact yields_body (interface.writable (taken.writable writable).2).2 read
  · obtain ⟨k, rfl⟩ := skipMixin_drop skipped
    exact yields_body ((taken.writable writable).2.drop k) read
  · exact yields_body (taken.writable writable).2 read
  · exact yields_enumeration (taken.writable writable).2 read
  · exact yields_typeAlias (taken.writable writable).2 read
  · exact yields_implementation writable (implementation_of_statement read)

theorem yields_definition : Yields (definition depth) fun d => d.isWellFormed = true := by
  intro toks d rest writable ran
  obtain ⟨as, r₁, attrs, bare, read, rfl⟩ := definition_eq_ok.1 ran
  obtain ⟨good_attrs, writable⟩ := (shapedAt depth).ofAttributes writable attrs
  obtain ⟨good, writable⟩ := yields_bareDefinition writable read
  refine ⟨?_, writable⟩
  simp only [Definition.isWellFormed, Bool.and_eq_true] at good ⊢
  exact ⟨⟨⟨good.1.1.1, good_attrs⟩, good.1.2⟩, good.2⟩

theorem yields_definitions : ∀ depth,
    Yields (definitions depth) fun ds => ∀ d ∈ ds, d.isWellFormed = true
  | 0 => fun _ _ _ _ ran => by cases ran
  | depth + 1 => by
    intro toks ds rest writable ran
    rcases definitions_eq_ok.1 ran with ⟨rfl, rfl, rfl⟩ | ⟨-, first, r₁, head, others, tail, rfl⟩
    · exact ⟨by simp, writable⟩
    · obtain ⟨good, writable⟩ := yields_definition writable head
      obtain ⟨goods, writable⟩ := yields_definitions depth writable tail
      exact ⟨List.forall_mem_cons.2 ⟨good, goods⟩, writable⟩

end Grammar

/-- Whatever text is read, the definitions in it are well formed. -/
theorem Schema.parse_shape {text : String} {ds : List Definition} (h : Schema.parse text = .ok ds) :
    ∀ d ∈ ds, d.isWellFormed = true := by
  obtain ⟨toks, lexed, rest, ran⟩ := Schema.parse_eq_ok.1 h
  exact (Grammar.yields_definitions _ (Token.isWritable_of_lexFrom lexed) ran).1

end IdlBindings
