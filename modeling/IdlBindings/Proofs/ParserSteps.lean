/-
# IdlBindings.Proofs.ParserSteps: what a successful parser has done.

For each parser one lemma takes a success apart: which parsers ran one after the other, on which tokens,
and how their values make up the result.  What is proved about parsers later is proved from these
lemmas, without opening a parser again.
-/
import IdlBindings.Grammar.Definitions
import IdlBindings.Proofs.Lexing
import Mathlib.Data.List.Forall2

namespace IdlBindings

namespace Grammar

open Token (Located plain)

variable {α β : Type} {toks rest : List Located} {depth : Nat}

/-! ## Sequences of parsers -/

@[simp] theorem bind_eq_ok {p : Parser α} {f : α → Parser β} {b : β} :
    (p >>= f) toks = .ok (b, rest) ↔
      ∃ a mid, p toks = .ok (a, mid) ∧ f a mid = .ok (b, rest) := by
  cases read : p toks with
  | error failure =>
    have failed : (p >>= f) toks = .error failure := by simp only [bind, read]
    simp [failed]
  | ok result =>
    obtain ⟨a, mid⟩ := result
    have goes : (p >>= f) toks = f a mid := by simp only [bind, read]
    rw [goes]
    constructor
    · intro ran
      exact ⟨a, mid, rfl, ran⟩
    · rintro ⟨_, _, same, ran⟩
      cases same
      exact ran

@[simp] theorem pure_eq_ok {a b : α} :
    (pure a : Parser α) toks = .ok (b, rest) ↔ a = b ∧ toks = rest := by
  show Except.ok (a, toks) = _ ↔ _
  simp

@[simp] theorem map_eq_ok {p : Parser α} {f : α → β} {b : β} :
    (f <$> p) toks = .ok (b, rest) ↔ ∃ a, p toks = .ok (a, rest) ∧ f a = b := by
  show (p >>= fun a => pure (f a)) toks = _ ↔ _
  simp only [bind_eq_ok, pure_eq_ok]
  constructor
  · rintro ⟨a, mid, ran, rfl, rfl⟩
    exact ⟨a, ran, rfl⟩
  · rintro ⟨a, ran, rfl⟩
    exact ⟨a, rest, ran, rfl, rfl⟩

@[simp] theorem fail_ne_ok {expectation : Expectation} {result : α × List Located} :
    (fail expectation : Parser α) toks ≠ .ok result := by
  intro h
  cases h

@[simp] theorem failBefore_ne_ok {expectation : Expectation} {result : α × List Located} :
    (failBefore expectation : Parser α) toks ≠ .ok result := by
  intro h
  cases h

/-! ## Single tokens -/

/-- The next token is `token`, and `rest` is behind it. -/
def Takes (toks : List Located) (token : Token) (rest : List Located) : Prop :=
  ∃ place, toks = ⟨token, place⟩ :: rest

/-- The next token, if there is one, is not `token`. -/
def Lacks (toks : List Located) (token : Token) : Prop :=
  (plain toks).head? ≠ some token

theorem Takes.plain {token : Token} (h : Takes toks token rest) :
    plain toks = token :: plain rest := by
  obtain ⟨place, rfl⟩ := h
  rfl

theorem Takes.not_lacks {token : Token} (h : Takes toks token rest) : ¬ Lacks toks token := by
  rw [Lacks, h.plain]
  simp

theorem Takes.lacks {token : Token} (h : Takes toks token rest) (other : Token)
    (differs : token ≠ other) : Lacks toks other := by
  rw [Lacks, h.plain]
  simpa using differs

theorem takes_of_plain {token : Token} {ts : List Token} (h : plain toks = token :: ts) :
    ∃ rest, Takes toks token rest ∧ plain rest = ts := by
  cases toks with
  | nil => cases h
  | cons t later =>
    obtain ⟨same, others⟩ := List.cons.inj h
    exact ⟨later, ⟨t.position, by rw [← same]⟩, others⟩

@[simp] theorem eat_true {token : Token} :
    eat token toks = .ok (true, rest) ↔ Takes toks token rest := by
  cases toks with
  | nil => simp [eat, Takes]
  | cons t later =>
    obtain ⟨found, place⟩ := t
    rw [eat]
    split
    · next same =>
      subst same
      simp [Takes]
    · next other =>
      simp only [Except.ok.injEq, Prod.mk.injEq, Bool.false_eq_true, false_and, false_iff]
      rintro ⟨_, same⟩
      cases same
      exact other rfl

@[simp] theorem eat_false {token : Token} :
    eat token toks = .ok (false, rest) ↔ toks = rest ∧ Lacks toks token := by
  cases toks with
  | nil => simp [eat, Lacks, plain]
  | cons t later =>
    rw [eat]
    split
    · next same => simp [Lacks, plain, same]
    · next other => simp [Lacks, plain, other]

@[simp] theorem expect_eq_ok {c : Char} {u : Unit} :
    expect c toks = .ok (u, rest) ↔ Takes toks (.punct c) rest := by
  simp [expect, eatPunct, Bool.exists_bool]

@[simp] theorem identifier_eq_ok {name : String} :
    identifier toks = .ok (name, rest) ↔ Takes toks (.identifier name) rest := by
  unfold identifier
  split
  · next found place later =>
    constructor
    · intro same
      cases same
      exact ⟨place, rfl⟩
    · rintro ⟨_, same⟩
      cases same
      rfl
  · next other =>
    simp only [fail_ne_ok, false_iff]
    rintro ⟨place, same⟩
    exact other _ _ _ same

@[simp] theorem next_eq_ok {token : Option Token} :
    next toks = .ok (token, rest) ↔
      (∃ t, Takes toks t rest ∧ token = some t) ∨ (toks = [] ∧ rest = [] ∧ token = none) := by
  cases toks with
  | nil =>
    simp only [next, Takes, Except.ok.injEq, Prod.mk.injEq]
    constructor
    · rintro ⟨rfl, rfl⟩
      simp
    · rintro (⟨t, ⟨_, same⟩, -⟩ | ⟨-, rfl, rfl⟩)
      · cases same
      · simp
  | cons t later =>
    simp only [next, Takes, Except.ok.injEq, Prod.mk.injEq]
    constructor
    · rintro ⟨rfl, rfl⟩
      exact .inl ⟨t.token, ⟨t.position, rfl⟩, rfl⟩
    · rintro (⟨t, ⟨_, same⟩, rfl⟩ | ⟨same, -⟩)
      · cases same
        exact ⟨rfl, rfl⟩
      · cases same

theorem wordAt_eq_ok {k : Nat} {word : String} {b : Bool} :
    wordAt k word toks = .ok (b, rest) ↔
      ((plain toks)[k]? == some (.identifier word)) = b ∧ toks = rest := by
  simp [wordAt, peek, plain, and_comm]

@[simp] theorem skip_eq_ok {k : Nat} {u : Unit} :
    skip k toks = .ok (u, rest) ↔ toks.drop k = rest := by
  simp [skip]

/-! ## Options and repetitions -/

instance : LawfulMonad Parser := by
  refine LawfulMonad.mk' Parser ?_ ?_ ?_
  · intro α p
    funext toks
    show (match p toks with
      | .ok (a, rest) => .ok (a, rest)
      | .error failure => .error failure) = p toks
    split <;> simp [*]
  · intro α β a f
    rfl
  · intro α β γ p f g
    funext toks
    cases h : p toks <;> simp [bind, h]

/-- What stands behind `token`, if that comes next. -/
def optionally {α : Type} (token : Token) (p : Parser α) : Parser (Option α) := do
  if ← eat token then some <$> p else pure none

theorem optionally_eq_ok {α : Type} {token : Token} {p : Parser α} {a : Option α} :
    optionally token p toks = .ok (a, rest) ↔
      (Lacks toks token ∧ none = a ∧ toks = rest)
      ∨ ∃ r₁, Takes toks token r₁ ∧ ∃ value, p r₁ = .ok (value, rest) ∧ some value = a := by
  rw [optionally]
  simp [and_assoc]

/-- Items, each behind `separator`. -/
def repeated {α : Type} (separator : Token) (item : Nat → Parser α) : Nat → Parser (List α)
  | 0 => fail .shallower
  | depth + 1 => do
    if ← eat separator then
      let first ← item depth
      let others ← repeated separator item depth
      pure (first :: others)
    else
      pure []

theorem repeated_eq_ok {α : Type} {separator : Token} {item : Nat → Parser α} {as : List α} :
    repeated separator item (depth + 1) toks = .ok (as, rest) ↔
      (Lacks toks separator ∧ [] = as ∧ toks = rest)
      ∨ ∃ r₁, Takes toks separator r₁
        ∧ ∃ first r₂, item depth r₁ = .ok (first, r₂)
        ∧ ∃ others, repeated separator item depth r₂ = .ok (others, rest)
        ∧ first :: others = as := by
  rw [repeated]
  simp [and_assoc]

theorem identifiersTail_eq : ∀ depth,
    identifiersTail depth = repeated (.punct ',') (fun _ => identifier) depth
  | 0 => rfl
  | depth + 1 => by rw [identifiersTail, identifiersTail_eq depth, repeated, eatPunct]

theorem unionTail_eq : ∀ depth, unionTail depth = repeated (.identifier "or") type depth
  | 0 => by rw [unionTail, repeated]
  | depth + 1 => by rw [unionTail, unionTail_eq depth, repeated, eatWord]

theorem typesTail_eq : ∀ depth, typesTail depth = repeated (.punct ',') type depth
  | 0 => by rw [typesTail, repeated]
  | depth + 1 => by rw [typesTail, typesTail_eq depth, repeated, eatPunct]

theorem attributesTail_eq : ∀ depth,
    attributesTail depth = repeated (.punct ',') oneAttribute depth
  | 0 => by rw [attributesTail, repeated]
  | depth + 1 => by rw [attributesTail, attributesTail_eq depth, repeated, eatPunct]

theorem defaultOption_eq : defaultOption = optionally (.punct '=') defaultValue := by
  rw [defaultOption, optionally, eatPunct]
  simp

/-! ## Types, arguments and extended attributes -/

/-- The defaults that are words. -/
def valueWords : List (String × DefaultKind) :=
  [("true", .boolean), ("false", .boolean), ("null", .null), ("Infinity", .number),
   ("-Infinity", .number), ("NaN", .number)]

/-- A type without the question mark behind it. -/
def unmarked (depth : Nat) : Parser TypeExpr := do
  if ← eatPunct '(' then
    let first ← type depth
    let others ← unionTail depth
    expect ')'
    pure (.union (first :: others))
  else
    let _ ← attributes depth
    singleType depth

theorem type_succ : type (depth + 1) = (do
    let base ← unmarked depth
    let marked ← eatPunct '?'
    pure (if marked then .nullable base else base)) := by
  rw [type]
  simp only [unmarked, bind_assoc]
  congr
  funext b
  cases b <;> simp [apply_ite]

theorem type_eq_ok {t : TypeExpr} : type (depth + 1) toks = .ok (t, rest) ↔
    ∃ base mid, unmarked depth toks = .ok (base, mid)
      ∧ ((mid = rest ∧ Lacks mid (.punct '?') ∧ base = t)
        ∨ (Takes mid (.punct '?') rest ∧ .nullable base = t)) := by
  rw [type_succ]
  simp [eatPunct, and_assoc]

theorem unmarked_eq_ok {t : TypeExpr} : unmarked depth toks = .ok (t, rest) ↔
    (Lacks toks (.punct '(')
      ∧ ∃ as r₁, attributes depth toks = .ok (as, r₁) ∧ singleType depth r₁ = .ok (t, rest))
    ∨ ∃ r₁, Takes toks (.punct '(') r₁
      ∧ ∃ first r₂, type depth r₁ = .ok (first, r₂)
      ∧ ∃ others r₃, repeated (.identifier "or") type depth r₂ = .ok (others, r₃)
      ∧ Takes r₃ (.punct ')') rest ∧ .union (first :: others) = t := by
  rw [unmarked, unionTail_eq]
  simp [eatPunct, and_assoc]

theorem typeName_eq_ok {name : String} : typeName toks = .ok (name, rest) ↔
    ∃ first r₁, Takes toks (.identifier first) r₁
      ∧ ((first = "unsigned"
          ∧ ((Takes r₁ (.identifier "short") rest ∧ "unsigned short" = name)
            ∨ ∃ r₂, Takes r₁ (.identifier "long") r₂
              ∧ ((Lacks r₂ (.identifier "long") ∧ "unsigned long" = name ∧ r₂ = rest)
                ∨ (Takes r₂ (.identifier "long") rest ∧ "unsigned long long" = name))))
        ∨ (first = "long"
          ∧ ((Lacks r₁ (.identifier "long") ∧ "long" = name ∧ r₁ = rest)
            ∨ (Takes r₁ (.identifier "long") rest ∧ "long long" = name)))
        ∨ (first = "unrestricted"
          ∧ ((Takes r₁ (.identifier "float") rest ∧ "unrestricted float" = name)
            ∨ (Takes r₁ (.identifier "double") rest ∧ "unrestricted double" = name)))
        ∨ (first ≠ "unsigned" ∧ first ≠ "long" ∧ first ≠ "unrestricted" ∧ first = name
          ∧ r₁ = rest)) := by
  have differ : ∀ {r r' : List Located} {a b : String}, a ≠ b →
      Takes r (.identifier a) r' → Lacks r (.identifier b) :=
    fun differs taken => taken.lacks _ (by simpa using differs)
  rw [typeName]
  simp only [bind_eq_ok, identifier_eq_ok]
  refine exists_congr fun first => exists_congr fun r₁ => and_congr_right fun _ => ?_
  -- the second words are tried one after the other; that an earlier one is missing follows from the
  -- one that is there
  split
  · simp only [eatWord, bind_eq_ok, Bool.exists_bool, eat_false, eat_true, Bool.false_eq_true,
      if_true, if_false, fail_ne_ok, pure_eq_ok, and_false, exists_const, and_assoc, exists_eq_left',
      exists_eq_right_right, false_or, String.reduceEq, false_and, ne_eq, not_true_eq_false, or_false,
      true_and]
    rw [or_comm]
    refine or_congr_right (and_iff_right_of_imp ?_)
    rintro ⟨mid, taken, -⟩
    exact differ (by decide) taken
  · simp [eatWord, and_assoc]
  · simp only [eatWord, bind_eq_ok, Bool.exists_bool, eat_false, eat_true, Bool.false_eq_true,
      if_true, if_false, fail_ne_ok, pure_eq_ok, and_false, exists_const, and_assoc, exists_eq_left',
      exists_eq_right_right, false_or, String.reduceEq, false_and, ne_eq, not_true_eq_false, or_false,
      not_false_eq_true, true_and]
    rw [or_comm]
    refine or_congr_right (and_iff_right_of_imp ?_)
    rintro ⟨taken, -⟩
    exact differ (by decide) taken
  · rw [pure_eq_ok]
    simp_all

theorem singleType_eq_ok {t : TypeExpr} : singleType (depth + 1) toks = .ok (t, rest) ↔
    ∃ name r₁, typeName toks = .ok (name, r₁)
      ∧ ((Lacks r₁ (.punct '<') ∧ .named name = t ∧ r₁ = rest)
        ∨ ∃ r₂, Takes r₁ (.punct '<') r₂
          ∧ ∃ first r₃, type depth r₂ = .ok (first, r₃)
          ∧ ∃ others r₄, repeated (.punct ',') type depth r₃ = .ok (others, r₄)
          ∧ ∃ r₅, Takes r₄ (.punct '>') r₅ ∧ applied name (first :: others) r₅ = .ok (t, rest)) := by
  rw [singleType, typesTail_eq]
  simp [eatPunct, and_assoc]

theorem attributeValue_eq_ok {value : AttributeValue} :
    attributeValue depth toks = .ok (value, rest) ↔
      ((∃ name, .identifier name = value ∧ Takes toks (.identifier name) rest)
        ∨ (∃ text, .string text = value ∧ Takes toks (.string text) rest)
        ∨ (∃ text, .number text = value ∧ Takes toks (.number text) rest))
      ∨ ∃ r₁, Takes toks (.punct '(') r₁
        ∧ ∃ name r₂, Takes r₁ (.identifier name) r₂
        ∧ ∃ names r₃, repeated (.punct ',') (fun _ => identifier) depth r₂ = .ok (names, r₃)
        ∧ Takes r₃ (.punct ')') rest ∧ .identifiers (name :: names) = value := by
  rw [attributeValue, identifiersTail_eq]
  match toks with
  | [] => simp [eatPunct, Takes]
  | ⟨.punct c, place⟩ :: later =>
    by_cases opened : c = '(' <;> simp [eatPunct, Takes, Lacks, plain, opened]
  | ⟨.identifier _, place⟩ :: later | ⟨.number _, place⟩ :: later | ⟨.string _, place⟩ :: later
  | ⟨.ellipsis, place⟩ :: later =>
    simp [eatPunct, Takes, Lacks, plain]

theorem defaultValue_eq_ok {value : DefaultValue} : defaultValue toks = .ok (value, rest) ↔
    (∃ text, ⟨.string, text⟩ = value ∧ Takes toks (.string text) rest)
    ∨ (∃ text, ⟨.number, text⟩ = value ∧ Takes toks (.number text) rest)
    ∨ (∃ word ∈ valueWords, ⟨word.2, word.1⟩ = value ∧ Takes toks (.identifier word.1) rest)
    ∨ (∃ r₁, Takes toks (.punct '[') r₁ ∧ Takes r₁ (.punct ']') rest ∧ ⟨.sequence, "[]"⟩ = value)
    ∨ (∃ r₁, Takes toks (.punct '\x7b') r₁ ∧ Takes r₁ (.punct '\x7d') rest
      ∧ ⟨.dictionary, "\x7b\x7d"⟩ = value) := by
  rw [defaultValue]
  match toks with
  | [] => simp [Takes]
  | ⟨.punct c, place⟩ :: later =>
    by_cases bracket : c = '['
    · subst bracket
      simp [Takes]
    · by_cases brace : c = '\x7b'
      · subst brace
        simp [Takes]
      · simp [Takes, bracket, brace]
  | ⟨.identifier name, place⟩ :: later =>
    simp [Takes]
    split <;> simp_all [valueWords]
  | ⟨.number _, place⟩ :: later | ⟨.string _, place⟩ :: later
  | ⟨.ellipsis, place⟩ :: later =>
    simp [Takes]

theorem argument_eq_ok {a : Argument} : argument (depth + 1) toks = .ok (a, rest) ↔
    ∃ r₁, attributes depth toks = .ok (a.attributes, r₁)
      ∧ ∃ r₂, eatWord "optional" r₁ = .ok (a.optional, r₂)
      ∧ ∃ r₃, type depth r₂ = .ok (a.type, r₃)
      ∧ ∃ r₄, eat .ellipsis r₃ = .ok (a.variadic, r₄)
      ∧ ∃ r₅, Takes r₄ (.identifier a.name) r₅
      ∧ defaultOption r₅ = .ok (a.defaultValue, rest) := by
  rw [argument]
  simp only [bind_eq_ok, identifier_eq_ok, pure_eq_ok]
  constructor
  · rintro ⟨as, r₁, h₁, o, r₂, h₂, t, r₃, h₃, v, r₄, h₄, name, r₅, h₅, d, r₆, h₆, rfl, rfl⟩
    exact ⟨r₁, h₁, r₂, h₂, r₃, h₃, r₄, h₄, r₅, h₅, h₆⟩
  · rintro ⟨r₁, h₁, r₂, h₂, r₃, h₃, r₄, h₄, r₅, h₅, h₆⟩
    obtain ⟨⟩ := a
    exact ⟨_, r₁, h₁, _, r₂, h₂, _, r₃, h₃, _, r₄, h₄, _, r₅, h₅, _, rest, h₆, rfl, rfl⟩

theorem argumentsTail_eq_ok {as : List Argument} :
    argumentsTail (depth + 1) toks = .ok (as, rest) ↔
      (Lacks toks (.punct ')')
        ∧ ∃ first r₁, argument depth toks = .ok (first, r₁)
        ∧ ((Lacks r₁ (.punct ',') ∧ Takes r₁ (.punct ')') rest ∧ [first] = as)
          ∨ ∃ r₂, Takes r₁ (.punct ',') r₂
            ∧ ∃ others, argumentsTail depth r₂ = .ok (others, rest) ∧ first :: others = as))
      ∨ (Takes toks (.punct ')') rest ∧ [] = as) := by
  rw [argumentsTail]
  simp [eatPunct, and_assoc, and_comm]

theorem oneAttribute_succ : oneAttribute (depth + 1) = (do
    let name ← identifier
    let value ← optionally (.punct '=') (attributeValue depth)
    let arguments ← optionally (.punct '(') (argumentsTail depth)
    pure { name, value, arguments }) := by
  rw [oneAttribute]
  simp only [optionally, eatPunct, bind_assoc]
  refine bind_congr fun name => bind_congr fun valued => ?_
  cases valued with
  | false =>
    simp only [Bool.false_eq_true, if_false, pure_bind]
    refine bind_congr fun listed => ?_
    cases listed <;> simp
  | true =>
    simp only [if_true, bind_map_left, pure_bind]
    refine bind_congr fun value => bind_congr fun listed => ?_
    cases listed <;> simp

theorem oneAttribute_eq_ok {a : ExtendedAttribute} :
    oneAttribute (depth + 1) toks = .ok (a, rest) ↔
      ∃ r₁, Takes toks (.identifier a.name) r₁
        ∧ ∃ r₂, optionally (.punct '=') (attributeValue depth) r₁ = .ok (a.value, r₂)
        ∧ optionally (.punct '(') (argumentsTail depth) r₂ = .ok (a.arguments, rest) := by
  rw [oneAttribute_succ]
  simp only [bind_eq_ok, identifier_eq_ok, pure_eq_ok]
  constructor
  · rintro ⟨name, r₁, h₁, value, r₂, h₂, args, r₃, h₃, rfl, rfl⟩
    exact ⟨r₁, h₁, r₂, h₂, h₃⟩
  · rintro ⟨r₁, h₁, r₂, h₂, h₃⟩
    exact ⟨_, r₁, h₁, _, r₂, h₂, _, rest, h₃, rfl, rfl⟩

theorem attributes_eq_ok {as : List ExtendedAttribute} :
    attributes (depth + 1) toks = .ok (as, rest) ↔
      (Lacks toks (.punct '[') ∧ [] = as ∧ toks = rest)
      ∨ ∃ r₁, Takes toks (.punct '[') r₁
        ∧ ∃ first r₂, oneAttribute depth r₁ = .ok (first, r₂)
        ∧ ∃ others r₃, repeated (.punct ',') oneAttribute depth r₂ = .ok (others, r₃)
        ∧ Takes r₃ (.punct ']') rest ∧ first :: others = as := by
  rw [attributes, attributesTail_eq]
  simp [eatPunct, and_assoc]

/-! ## Members -/

theorem field_eq_ok {m : Member} : field depth toks = .ok (m, rest) ↔
    ∃ required r₁, eatWord "required" toks = .ok (required, r₁)
      ∧ ∃ as r₂, attributes depth r₁ = .ok (as, r₂)
      ∧ ∃ t r₃, type depth r₂ = .ok (t, r₃)
      ∧ ∃ name r₄, Takes r₃ (.identifier name) r₄
      ∧ ∃ value r₅, defaultOption r₄ = .ok (value, r₅)
      ∧ Takes r₅ (.punct ';') rest
      ∧ { kind := .field, name, type := t, required, defaultValue := value, attributes := as }
        = m := by
  simp [field, eatWord]

theorem constant_eq_ok {m : Member} : constant depth toks = .ok (m, rest) ↔
    ∃ t r₁, type depth toks = .ok (t, r₁)
      ∧ ∃ name r₂, Takes r₁ (.identifier name) r₂
      ∧ ∃ r₃, Takes r₂ (.punct '=') r₃
      ∧ ∃ value r₄, defaultValue r₃ = .ok (value, r₄)
      ∧ Takes r₄ (.punct ';') rest
      ∧ { kind := .const, name, type := t, defaultValue := some value } = m := by
  simp [constant]

theorem arguments_eq_ok {as : List Argument} : arguments depth toks = .ok (as, rest) ↔
    ∃ r₁, Takes toks (.punct '(') r₁ ∧ argumentsTail depth r₁ = .ok (as, rest) := by
  simp [arguments]

theorem constructorOf_eq_ok {owner : String} {m : Member} :
    constructorOf owner depth toks = .ok (m, rest) ↔
      ∃ as r₁, arguments depth toks = .ok (as, r₁) ∧ Takes r₁ (.punct ';') rest
        ∧ { kind := .constructor, name := "constructor", type := .named owner, arguments := as }
          = m := by
  simp [constructorOf]

variable {ms : Modifiers}

theorem property_eq_ok {m : Member} : property ms depth toks = .ok (m, rest) ↔
    ∃ t r₁, type depth toks = .ok (t, r₁)
      ∧ ∃ name r₂, Takes r₁ (.identifier name) r₂
      ∧ Takes r₂ (.punct ';') rest
      ∧ { kind := .property, name, type := t, readonly := ms.readonly, isStatic := ms.isStatic,
          specials := ms.specials } = m := by
  simp [property]

theorem collection_eq {kind : MemberKind} {keyword : String} : collection kind keyword ms depth = (do
    let first ← type depth
    let second ← optionally (.punct ',') (type depth)
    expect '>'
    expect ';'
    pure { kind, name := keyword, type := second.getD first, keyType := second.map fun _ => first,
           required := true, readonly := ms.readonly }) := by
  rw [collection]
  simp only [optionally, eatPunct, bind_assoc]
  congr
  funext first
  congr
  funext found
  cases found <;> simp

theorem collection_eq_ok {kind : MemberKind} {keyword : String} {m : Member} :
    collection kind keyword ms depth toks = .ok (m, rest) ↔
      ∃ first r₁, type depth toks = .ok (first, r₁)
        ∧ ∃ second r₂, optionally (.punct ',') (type depth) r₁ = .ok (second, r₂)
        ∧ ∃ r₃, Takes r₂ (.punct '>') r₃
        ∧ Takes r₃ (.punct ';') rest
        ∧ { kind, name := keyword, type := second.getD first, keyType := second.map fun _ => first,
            required := true, readonly := ms.readonly } = m := by
  rw [collection_eq]
  simp

/-- The name of an operation, empty if there is none. -/
def optionalName : Parser String := do
  if ← identifierAt 0 then identifier else pure ""

theorem optionalName_eq_ok {name : String} : optionalName toks = .ok (name, rest) ↔
    Takes toks (.identifier name) rest
      ∨ ((∀ word, Lacks toks (.identifier word)) ∧ toks = rest ∧ "" = name) := by
  match toks with
  | [] => simp [optionalName, identifierAt, peek, Takes, Lacks, plain]
  | ⟨.identifier word, place⟩ :: later =>
    simp [optionalName, identifierAt, peek, Takes, Lacks, plain]
  | ⟨.number _, place⟩ :: later | ⟨.string _, place⟩ :: later | ⟨.punct _, place⟩ :: later
  | ⟨.ellipsis, place⟩ :: later =>
    simp [optionalName, identifierAt, peek, Takes, Lacks, plain]

theorem operation_eq : operation ms depth = (do
    let t ← type depth
    let name ← optionalName
    let as ← arguments depth
    expect ';'
    pure { kind := .operation, name, type := t, arguments := as, isStatic := ms.isStatic,
           specials := ms.specials }) := by
  rw [operation]
  simp only [optionalName, bind_assoc]
  congr
  funext t
  congr
  funext found
  cases found <;> simp

theorem operation_eq_ok {m : Member} : operation ms depth toks = .ok (m, rest) ↔
    ∃ t r₁, type depth toks = .ok (t, r₁)
      ∧ ∃ name r₂, optionalName r₁ = .ok (name, r₂)
      ∧ ∃ as r₃, arguments depth r₂ = .ok (as, r₃)
      ∧ Takes r₃ (.punct ';') rest
      ∧ { kind := .operation, name, type := t, arguments := as, isStatic := ms.isStatic,
          specials := ms.specials } = m := by
  rw [operation_eq]
  simp

/-- The next tokens are the keyword and the punctuation mark. -/
def Announces (toks : List Located) (word : String) (c : Char) : Prop :=
  ∃ rest, Takes toks (.identifier word) rest ∧ ∃ later, Takes rest (.punct c) later

theorem announces_iff {word : String} {c : Char} : Announces toks word c ↔
    ((plain toks)[0]? == some (.identifier word) && (plain toks)[1]? == some (.punct c)) = true := by
  match toks with
  | [] => simp [Announces, Takes, plain]
  | [a] => simp [Announces, Takes, plain]
  | ⟨a, p⟩ :: ⟨b, q⟩ :: later => simp [Announces, Takes, plain]

/-- Whether a keyword and a punctuation mark come next. -/
def announces (word : String) (c : Char) : Parser Bool := do
  return (← wordAt 0 word) && (← punctAt 1 c)

@[simp] theorem announces_true {word : String} {c : Char} :
    announces word c toks = .ok (true, rest) ↔ toks = rest ∧ Announces toks word c := by
  rw [announces_iff]
  simp [announces, wordAt, punctAt, peek, plain]
  tauto

@[simp] theorem announces_false {word : String} {c : Char} :
    announces word c toks = .ok (false, rest) ↔ toks = rest ∧ ¬ Announces toks word c := by
  rw [announces_iff]
  simp [announces, wordAt, punctAt, peek, plain]

/-- The declarations of collections and their keywords. -/
def collections : List (MemberKind × String) :=
  [(.iterable, "iterable"), (.maplike, "maplike"), (.setlike, "setlike")]

theorem Announces.excludes {word : String} {c : Char} (h : Announces toks word c) (other : String)
    (differs : word ≠ other) :
    Lacks toks (.identifier other) ∧ ∀ c', ¬ Announces toks other c' := by
  obtain ⟨r, taken, -⟩ := h
  have lacks := taken.lacks (.identifier other) (by simpa using differs)
  exact ⟨lacks, fun c' ⟨_, taken', _⟩ => taken'.not_lacks lacks⟩

theorem ite_eq_ok {α : Type} {c : Prop} [Decidable c] {p q : Parser α} {a : α} :
    (if c then p else q) toks = .ok (a, rest) ↔
      (c ∧ p toks = .ok (a, rest)) ∨ (¬ c ∧ q toks = .ok (a, rest)) := by
  by_cases h : c <;> simp [h]

theorem modified_eq_ok {m : Member} : modified ms depth toks = .ok (m, rest) ↔
    (∃ r₁, Takes toks (.identifier "attribute") r₁ ∧ property ms depth r₁ = .ok (m, rest))
    ∨ (∃ c ∈ collections, Announces toks c.2 '<'
      ∧ collection c.1 c.2 ms depth (toks.drop 2) = .ok (m, rest))
    ∨ (Lacks toks (.identifier "attribute") ∧ (∀ c ∈ collections, ¬ Announces toks c.2 '<')
      ∧ operation ms depth toks = .ok (m, rest)) := by
  have same : ∀ keyword, startsCollection keyword = announces keyword '<' := fun _ => rfl
  rw [modified]
  simp only [bind_eq_ok, Bool.exists_bool, eatWord, eat_true, eat_false, same, announces_true,
    announces_false, skip_eq_ok, if_true, Bool.false_eq_true, if_false, and_assoc, exists_eq_left',
    exists_const, collections, List.mem_cons, List.not_mem_nil, or_false, exists_eq_or_imp,
    exists_eq_left, forall_eq_or_imp, forall_eq]
  constructor
  · rintro (⟨lacks, ⟨no₁, ⟨no₂, ⟨no₃, read⟩ | ⟨found, read⟩⟩ | ⟨found, read⟩⟩ | ⟨found, read⟩⟩ | read)
    · exact .inr (.inr ⟨lacks, no₁, no₂, no₃, read⟩)
    · exact .inr (.inl (.inr (.inr ⟨found, read⟩)))
    · exact .inr (.inl (.inr (.inl ⟨found, read⟩)))
    · exact .inr (.inl (.inl ⟨found, read⟩))
    · exact .inl read
  · -- The keywords differ, so the order in which they are looked for does not matter.
    rintro (read | (⟨found, read⟩ | ⟨found, read⟩ | ⟨found, read⟩) | ⟨lacks, no₁, no₂, no₃, read⟩)
    · exact .inr read
    · exact .inl ⟨(found.excludes _ (by decide)).1, .inr ⟨found, read⟩⟩
    · exact .inl ⟨(found.excludes _ (by decide)).1,
        .inl ⟨(found.excludes _ (by decide)).2 _, .inr ⟨found, read⟩⟩⟩
    · exact .inl ⟨(found.excludes _ (by decide)).1,
        .inl ⟨(found.excludes _ (by decide)).2 _,
          .inl ⟨(found.excludes _ (by decide)).2 _, .inr ⟨found, read⟩⟩⟩⟩
    · exact .inl ⟨lacks, .inl ⟨no₁, .inl ⟨no₂, .inl ⟨no₃, read⟩⟩⟩⟩

/-- The parser with its two-token conditions named. -/
theorem interfaceMember_eq (owner : String) : interfaceMember owner depth = (do
    if ← eatWord "const" then constant depth
    else if ← announces "constructor" '(' then
      skip 1
      constructorOf owner depth
    else if ← announces "stringifier" ';' then
      skip 2
      pure { kind := .stringifier, name := "", type := .named "DOMString" }
    else
      let ms ← modifiers
      modified ms depth) := by
  simp [interfaceMember, announces]

theorem interfaceMember_eq_ok {owner : String} {m : Member} :
    interfaceMember owner depth toks = .ok (m, rest) ↔
      (∃ r₁, Takes toks (.identifier "const") r₁ ∧ constant depth r₁ = .ok (m, rest))
      ∨ (Announces toks "constructor" '(' ∧ constructorOf owner depth (toks.drop 1) = .ok (m, rest))
      ∨ (Announces toks "stringifier" ';' ∧ toks.drop 2 = rest
        ∧ { kind := .stringifier, name := "", type := .named "DOMString" } = m)
      ∨ (Lacks toks (.identifier "const") ∧ ¬ Announces toks "constructor" '('
        ∧ ¬ Announces toks "stringifier" ';'
        ∧ modified (splitModifiers toks).1 depth (splitModifiers toks).2 = .ok (m, rest)) := by
  have split : ∀ {ms mid}, modifiers toks = .ok (ms, mid) ↔ splitModifiers toks = (ms, mid) := by
    simp [modifiers]
  rw [interfaceMember_eq]
  simp only [bind_eq_ok, Bool.exists_bool, eatWord, eat_true, eat_false, announces_true,
    announces_false, skip_eq_ok, pure_eq_ok, if_true, Bool.false_eq_true, if_false, and_assoc,
    exists_eq_left', exists_const, split]
  constructor
  · rintro (⟨lacks, ⟨no₁, ⟨no₂, ms, mid, split, read⟩ | ⟨found, read⟩⟩ | ⟨found, read⟩⟩ | read)
    · rw [split]
      exact .inr (.inr (.inr ⟨lacks, no₁, no₂, read⟩))
    · exact .inr (.inr (.inl ⟨found, read.symm⟩))
    · exact .inr (.inl ⟨found, read⟩)
    · exact .inl read
  · -- as above, what is found rules out what is looked for before it
    rintro (read | ⟨found, read⟩ | ⟨found, read⟩ | ⟨lacks, no₁, no₂, read⟩)
    · exact .inr read
    · exact .inl ⟨(found.excludes _ (by decide)).1, .inr ⟨found, read⟩⟩
    · exact .inl ⟨(found.excludes _ (by decide)).1,
        .inl ⟨(found.excludes _ (by decide)).2 _, .inr ⟨found, read.symm⟩⟩⟩
    · exact .inl ⟨lacks, .inl ⟨no₁, .inl ⟨no₂, _, _, rfl, read⟩⟩⟩

theorem member_eq_ok {kind : DefinitionKind} {owner : String} {m : Member} :
    member kind owner depth toks = .ok (m, rest) ↔
      ∃ outer r₁, attributes depth toks = .ok (outer, r₁)
        ∧ ∃ inner, (if kind = .dictionary then field depth else interfaceMember owner depth) r₁
            = .ok (inner, rest)
        ∧ { inner with attributes := outer ++ inner.attributes } = m := by
  rw [member]
  by_cases dictionary : kind = .dictionary <;> simp [dictionary]

theorem members_eq_ok {kind : DefinitionKind} {owner : String} {ms : List Member} :
    members kind owner (depth + 1) toks = .ok (ms, rest) ↔
      (Lacks toks (.punct '\x7d') ∧ ∃ first r₁, member kind owner depth toks = .ok (first, r₁)
        ∧ ∃ others, members kind owner depth r₁ = .ok (others, rest) ∧ first :: others = ms)
      ∨ (Takes toks (.punct '\x7d') rest ∧ [] = ms) := by
  rw [members]
  simp [eatPunct, and_assoc]

theorem enumValues_eq_ok {values : List String} :
    enumValues (depth + 1) toks = .ok (values, rest) ↔
      (∃ value r₁, Takes toks (.string value) r₁
        ∧ ((Lacks r₁ (.punct ',') ∧ Takes r₁ (.punct '\x7d') rest ∧ [value] = values)
          ∨ ∃ r₂, Takes r₁ (.punct ',') r₂
            ∧ ∃ others, enumValues depth r₂ = .ok (others, rest) ∧ value :: others = values))
      ∨ ([] = values ∧ Takes toks (.punct '\x7d') rest) := by
  rw [enumValues]
  match toks with
  | [] => simp [eatPunct, eat, Takes, next]
  | ⟨.string value, place⟩ :: later => simp [eatPunct, Takes, Lacks, plain, and_assoc]
  | ⟨.punct c, place⟩ :: later =>
    by_cases closed : c = '\x7d' <;> simp [eatPunct, Takes, Lacks, plain, closed]
  | ⟨.identifier _, place⟩ :: later | ⟨.number _, place⟩ :: later | ⟨.ellipsis, place⟩ :: later =>
    simp [eatPunct, Takes, Lacks, plain]

/-! ## Definitions -/

theorem body_eq_ok {kind : DefinitionKind} {d : Definition} :
    body kind depth toks = .ok (d, rest) ↔
      ∃ name r₁, Takes toks (.identifier name) r₁
        ∧ ∃ parent r₂, parentOption r₁ = .ok (parent, r₂)
        ∧ ∃ r₃, Takes r₂ (.punct '\x7b') r₃
        ∧ ∃ ms r₄, members kind name depth r₃ = .ok (ms, r₄)
        ∧ Takes r₄ (.punct ';') rest
        ∧ { kind, name, parent, members := ms } = d := by
  simp [body]

theorem parentOption_eq : parentOption = optionally (.punct ':') identifier := by
  rw [parentOption, optionally, eatPunct]
  simp

theorem callback_eq_ok {d : Definition} : callback depth toks = .ok (d, rest) ↔
    ∃ name r₁, Takes toks (.identifier name) r₁
      ∧ ∃ r₂, Takes r₁ (.punct '=') r₂
      ∧ ∃ t r₃, type depth r₂ = .ok (t, r₃)
      ∧ ∃ as r₄, arguments depth r₃ = .ok (as, r₄)
      ∧ Takes r₄ (.punct ';') rest
      ∧ { kind := .callback, name, type := some t, arguments := as } = d := by
  simp [callback]

theorem enumeration_eq_ok {d : Definition} : enumeration depth toks = .ok (d, rest) ↔
    ∃ name r₁, Takes toks (.identifier name) r₁
      ∧ ∃ r₂, Takes r₁ (.punct '\x7b') r₂
      ∧ ∃ values r₃, enumValues depth r₂ = .ok (values, r₃)
      ∧ Takes r₃ (.punct ';') rest
      ∧ { kind := .enum, name, values } = d := by
  simp [enumeration]

theorem typeAlias_eq_ok {d : Definition} : typeAlias depth toks = .ok (d, rest) ↔
    ∃ as r₁, attributes depth toks = .ok (as, r₁)
      ∧ ∃ t r₂, type depth r₁ = .ok (t, r₂)
      ∧ ∃ name r₃, Takes r₂ (.identifier name) r₃
      ∧ Takes r₃ (.punct ';') rest
      ∧ { kind := .typedef, name, type := some t } = d := by
  simp [typeAlias]

theorem partialBody_eq_ok {d : Definition} : partialBody depth toks = .ok (d, rest) ↔
    (∃ r₁, Takes toks (.identifier "interface") r₁ ∧ ∃ r₂, skipMixin r₁ = .ok ((), r₂)
      ∧ ∃ whole, body .interface depth r₂ = .ok (whole, rest)
      ∧ { whole with isPartial := true } = d)
    ∨ (∃ r₁, Takes toks (.identifier "dictionary") r₁
      ∧ ∃ whole, body .dictionary depth r₁ = .ok (whole, rest)
      ∧ { whole with isPartial := true } = d) := by
  rw [partialBody]
  simp only [bind_eq_ok, Bool.exists_bool, eatWord, eat_true, eat_false, pure_eq_ok, fail_ne_ok,
    if_true, Bool.false_eq_true, if_false, and_assoc, and_false, false_or, exists_eq_left', exists_const]
  constructor
  · rintro (⟨-, r, taken, whole, _, read, same, rfl⟩ | ⟨r, taken, u, r₂, skipped, whole, _, read, same, rfl⟩)
    · exact .inr ⟨r, taken, whole, read, same⟩
    · exact .inl ⟨r, taken, r₂, skipped, whole, read, same⟩
  · rintro (⟨r, taken, r₂, skipped, whole, read, same⟩ | ⟨r, taken, whole, read, same⟩)
    · exact .inr ⟨r, taken, (), r₂, skipped, whole, rest, read, same, rfl⟩
    · exact .inl ⟨taken.lacks _ (by decide), r, taken, whole, rest, read, same, rfl⟩

theorem identifierAt_total (k : Nat) (toks : List Located) :
    ∃ b, identifierAt k toks = .ok (b, toks)
      ∧ (b = true ↔ ∃ name, (plain toks)[k]? = some (.identifier name)) := by
  -- looking ahead never fails and never moves
  match found : toks[k]? with
  | some ⟨.identifier name, place⟩ =>
    exact ⟨true, by simp [identifierAt, peek, found], by simp [plain, found]⟩
  | none | some ⟨.number _, place⟩ | some ⟨.string _, place⟩ | some ⟨.punct _, place⟩
  | some ⟨.ellipsis, place⟩ =>
    exact ⟨false, by simp [identifierAt, peek, found], by simp [plain, found]⟩

theorem skipMixin_drop {u : Unit} (h : skipMixin toks = .ok (u, rest)) :
    ∃ k, toks.drop k = rest := by
  simp only [skipMixin, bind_eq_ok, wordAt_eq_ok, ite_eq_ok, skip_eq_ok, pure_eq_ok] at h
  obtain ⟨_, _, ⟨-, rfl⟩, _, r, looked, ⟨-, skipped⟩ | ⟨-, -, kept⟩⟩ := h
  all_goals
    obtain ⟨_, looked', -⟩ := identifierAt_total 1 toks
    rw [looked] at looked'
    cases looked'
  · exact ⟨1, skipped⟩
  · exact ⟨0, kept⟩

/-- A name with no name behind it is not left out. -/
theorem skipMixin_name {name : String} {later : List Located}
    (taken : Takes toks (.identifier name) later)
    (alone : ∀ other, Lacks later (.identifier other)) : skipMixin toks = .ok ((), toks) := by
  obtain ⟨b, looked, meaning⟩ := identifierAt_total 1 toks
  have none_behind : b = false := by
    rw [← Bool.not_eq_true, meaning, taken.plain]
    rintro ⟨other, found⟩
    exact alone other (by simpa [List.head?_eq_getElem?] using found)
  subst none_behind
  simp only [skipMixin, bind_eq_ok, wordAt_eq_ok]
  exact ⟨_, toks, ⟨rfl, rfl⟩, false, toks, looked, by simp⟩

theorem implementation_eq_ok {d : Definition} : implementation toks = .ok (d, rest) ↔
    ∃ name r₁, Takes toks (.identifier name) r₁
      ∧ ∃ implemented r₂, Takes (r₁.drop 1) (.identifier implemented) r₂
      ∧ Takes r₂ (.punct ';') rest
      ∧ { kind := .interface, name, isPartial := true, implements := some implemented } = d := by
  simp [implementation]

/-- A statement that an interface implements another, where one comes next. -/
def implementationStatement : Parser Definition := do
  if (← identifierAt 0) && ((← wordAt 1 "implements") || (← wordAt 1 "includes")) then
    implementation
  else
    fail .definition

theorem implementation_of_statement {d : Definition}
    (h : implementationStatement toks = .ok (d, rest)) : implementation toks = .ok (d, rest) := by
  simp only [implementationStatement, bind_eq_ok, wordAt_eq_ok, ite_eq_ok, fail_ne_ok, and_false,
    or_false] at h
  obtain ⟨b, looked, -⟩ := identifierAt_total 0 toks
  obtain ⟨_, r₁, looked', _, r₂, ⟨-, rfl⟩, _, r₃, ⟨-, rfl⟩, -, read⟩ := h
  rw [looked] at looked'
  cases looked'
  exact read

theorem bareDefinition_eq : bareDefinition depth = (do
    if ← eatWord "partial" then
      partialBody depth
    else if ← eatWord "callback" then
      if ← eatWord "interface" then body .callbackInterface depth else callback depth
    else if ← eatWord "interface" then
      skipMixin
      body .interface depth
    else if ← eatWord "dictionary" then
      body .dictionary depth
    else if ← eatWord "enum" then
      enumeration depth
    else if ← eatWord "typedef" then
      typeAlias depth
    else
      implementationStatement) :=
  rfl

/-- The words that begin a definition. -/
def keywords : List String :=
  ["partial", "callback", "interface", "dictionary", "enum", "typedef"]

theorem bareDefinition_eq_ok {d : Definition} : bareDefinition depth toks = .ok (d, rest) ↔
    (∃ r₁, Takes toks (.identifier "partial") r₁ ∧ partialBody depth r₁ = .ok (d, rest))
    ∨ (∃ r₁, Takes toks (.identifier "callback") r₁
      ∧ ((Lacks r₁ (.identifier "interface") ∧ callback depth r₁ = .ok (d, rest))
        ∨ ∃ r₂, Takes r₁ (.identifier "interface") r₂
          ∧ body .callbackInterface depth r₂ = .ok (d, rest)))
    ∨ (∃ r₁, Takes toks (.identifier "interface") r₁ ∧ ∃ r₂, skipMixin r₁ = .ok ((), r₂)
      ∧ body .interface depth r₂ = .ok (d, rest))
    ∨ (∃ r₁, Takes toks (.identifier "dictionary") r₁ ∧ body .dictionary depth r₁ = .ok (d, rest))
    ∨ (∃ r₁, Takes toks (.identifier "enum") r₁ ∧ enumeration depth r₁ = .ok (d, rest))
    ∨ (∃ r₁, Takes toks (.identifier "typedef") r₁ ∧ typeAlias depth r₁ = .ok (d, rest))
    ∨ ((∀ word ∈ keywords, Lacks toks (.identifier word))
      ∧ implementationStatement toks = .ok (d, rest)) := by
  rw [bareDefinition_eq]
  simp only [bind_eq_ok, Bool.exists_bool, eatWord, eat_true, eat_false,
    if_true, Bool.false_eq_true, if_false, and_assoc, exists_eq_left', keywords, List.forall_mem_cons]
  -- The keywords differ, so the order in which they are looked for does not matter.
  have other : ∀ {word r}, Takes toks (.identifier word) r →
      ∀ other, word ≠ other → Lacks toks (.identifier other) :=
    fun taken other differs => taken.lacks _ (by simpa using differs)
  constructor
  · grind
  · rintro (read | ⟨r, taken, read⟩ | ⟨r, taken, r₂, skipped, read⟩ | ⟨r, taken, read⟩ | ⟨r, taken, read⟩
      | ⟨r, taken, read⟩ | ⟨h₁, h₂, h₃, h₄, h₅, h₆, -, read⟩)
    · exact .inr read
    · exact .inl ⟨other taken _ (by decide), .inr ⟨r, taken, read⟩⟩
    · exact .inl ⟨other taken _ (by decide), .inl ⟨other taken _ (by decide),
        .inr ⟨r, taken, (), r₂, skipped, read⟩⟩⟩
    · exact .inl ⟨other taken _ (by decide), .inl ⟨other taken _ (by decide),
        .inl ⟨other taken _ (by decide), .inr ⟨r, taken, read⟩⟩⟩⟩
    · exact .inl ⟨other taken _ (by decide), .inl ⟨other taken _ (by decide),
        .inl ⟨other taken _ (by decide), .inl ⟨other taken _ (by decide), .inr ⟨r, taken, read⟩⟩⟩⟩⟩
    · exact .inl ⟨other taken _ (by decide), .inl ⟨other taken _ (by decide),
        .inl ⟨other taken _ (by decide), .inl ⟨other taken _ (by decide),
          .inl ⟨other taken _ (by decide), .inr ⟨r, taken, read⟩⟩⟩⟩⟩⟩
    · exact .inl ⟨h₁, .inl ⟨h₂, .inl ⟨h₃, .inl ⟨h₄, .inl ⟨h₅, .inl ⟨h₆, read⟩⟩⟩⟩⟩⟩

theorem definition_eq_ok {d : Definition} : definition depth toks = .ok (d, rest) ↔
    ∃ as r₁, attributes depth toks = .ok (as, r₁)
      ∧ ∃ bare, bareDefinition depth r₁ = .ok (bare, rest)
      ∧ { bare with attributes := as } = d := by
  simp [definition]

theorem definitions_eq_ok {ds : List Definition} :
    definitions (depth + 1) toks = .ok (ds, rest) ↔
      ([] = toks ∧ [] = ds ∧ [] = rest)
      ∨ (toks ≠ [] ∧ ∃ first r₁, definition depth toks = .ok (first, r₁)
        ∧ ∃ others, definitions depth r₁ = .ok (others, rest) ∧ first :: others = ds) := by
  cases toks with
  | nil => simp [definitions]
  | cons t later => simp [definitions]

end Grammar

theorem Schema.parse_eq_ok {text : String} {ds : List Definition} :
    Schema.parse text = .ok ds ↔
      ∃ toks, Token.lexFrom .start text.toList = .ok toks
        ∧ ∃ rest, Grammar.definitions (Grammar.depthFor toks) toks = .ok (ds, rest) := by
  rw [Schema.parse, Token.lex]
  cases Token.lexFrom .start text.toList with
  | error failure => simp
  | ok toks =>
    show Grammar.readTokens toks = _ ↔ _
    rw [Grammar.readTokens]
    cases ran : Grammar.definitions (Grammar.depthFor toks) toks with
    | error failure => simp [ran]
    | ok result => simp [ran, Prod.ext_iff]

end IdlBindings
