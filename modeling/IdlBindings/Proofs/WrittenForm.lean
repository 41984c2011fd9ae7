/-
# IdlBindings.Proofs.WrittenForm: a schema as a list of tokens.

The written form of a schema is a text.  Here it is cut into tokens, part by part, in the shape in which
the printer puts it together.  The one result is that the lexer does the same: where all parts of a
definition are well formed, its text spells its tokens.  Blanks play no part behind this point.
-/
import IdlBindings.Proofs.Printable
import IdlBindings.Schema.Printer
import Mathlib.Data.List.Forall2

namespace IdlBindings

open Token (isIdentifier isNumber isQuotable endsWord endsNumber Spells)

/-! ## Pieces -/

/-- Lists of tokens with a token between any two. -/
def separated (separator : Token) : List (List Token) → List Token
  | [] => []
  | first :: rest => first ++ rest.flatMap (separator :: ·)

/-- A token if the condition holds. -/
def tokenIf (condition : Bool) (token : Token) : List Token :=
  if condition then [token] else []

/-- Extended attributes in brackets; nothing if there are none. -/
def bracketedTokens (attributes : List (List Token)) : List Token :=
  if attributes.isEmpty then []
  else .punct '[' :: (separated (.punct ',') attributes ++ [.punct ']'])

/-! ## Tokens of types and values -/

namespace TypeExpr

mutual
/-- The tokens of a type. -/
def tokens : TypeExpr → List Token
  | named name => (words name).map .identifier
  | sequence element =>
    .identifier "sequence" :: .punct '<' :: (tokens element ++ [.punct '>'])
  | nullable inner => tokens inner ++ [.punct '?']
  | union members =>
    .punct '(' :: (separated (.identifier "or") (tokensList members) ++ [.punct ')'])
  | generic name arguments =>
    (words name).map .identifier
      ++ .punct '<' :: (separated (.punct ',') (tokensList arguments) ++ [.punct '>'])
/-- The tokens of each of several types. -/
def tokensList : List TypeExpr → List (List Token)
  | [] => []
  | t :: rest => tokens t :: tokensList rest
end

end TypeExpr

/-- The tokens of a default. -/
def DefaultValue.tokens (value : DefaultValue) : List Token :=
  match value.kind with
  | .string => [.string value.text]
  | .sequence => [.punct '[', .punct ']']
  | .dictionary => [.punct '\x7b', .punct '\x7d']
  | .null => [.identifier "null"]
  | .boolean => [.identifier value.text]
  | .number => if isNumber value.text then [.number value.text] else [.identifier value.text]

/-- The tokens of a default behind its equals sign. -/
def DefaultValue.tokensOption : Option DefaultValue → List Token
  | none => []
  | some value => .punct '=' :: value.tokens

/-- The tokens of the right side of an extended attribute. -/
def AttributeValue.tokens : AttributeValue → List Token
  | identifier name => [.identifier name]
  | identifiers names =>
    .punct '(' :: (separated (.punct ',') (names.map fun name => [.identifier name])
      ++ [.punct ')'])
  | string text => [.string text]
  | number text => [.number text]

/-- The tokens of the right side behind its equals sign. -/
def AttributeValue.tokensOption : Option AttributeValue → List Token
  | none => []
  | some value => .punct '=' :: value.tokens

/-! ## Tokens of arguments and extended attributes -/

namespace Argument

mutual
/-- The tokens of an argument. -/
def tokens : Argument → List Token
  | ⟨name, type, optional, variadic, defaultValue, attributes⟩ =>
    bracketedTokens (attributeTokens attributes) ++ (tokenIf optional (.identifier "optional")
      ++ (type.tokens ++ (tokenIf variadic .ellipsis
      ++ .identifier name :: DefaultValue.tokensOption defaultValue)))
/-- The tokens of each of several extended attributes. -/
def attributeTokens : List ExtendedAttribute → List (List Token)
  | [] => []
  | ⟨name, value, none⟩ :: rest =>
    (.identifier name :: AttributeValue.tokensOption value) :: attributeTokens rest
  | ⟨name, value, some arguments⟩ :: rest =>
    (.identifier name :: (AttributeValue.tokensOption value
      ++ .punct '(' :: (separated (.punct ',') (tokensList arguments) ++ [.punct ')'])))
      :: attributeTokens rest
/-- The tokens of each of several arguments. -/
def tokensList : List Argument → List (List Token)
  | [] => []
  | a :: rest => tokens a :: tokensList rest
end

/-- The tokens of an argument list behind its opening parenthesis. -/
def closingTokens (arguments : List Argument) : List Token :=
  separated (.punct ',') (tokensList arguments) ++ [.punct ')']

end Argument

/-! ## Tokens of members and definitions -/

/-- The tokens of a member between `static` and the semicolon. -/
def Member.bodyTokens (member : Member) : List Token :=
  match member.kind with
  | .field =>
    tokenIf member.required (.identifier "required") ++ (member.type.tokens
      ++ .identifier member.name :: DefaultValue.tokensOption member.defaultValue)
  | .property =>
    tokenIf member.readonly (.identifier "readonly")
      ++ .identifier "attribute" :: (member.type.tokens ++ [.identifier member.name])
  | .operation =>
    member.specials.map .identifier ++ (member.type.tokens
      ++ ((if member.name.isEmpty then [] else [.identifier member.name])
      ++ .punct '(' :: Argument.closingTokens member.arguments))
  | .constructor =>
    .identifier "constructor" :: .punct '(' :: Argument.closingTokens member.arguments
  | .const =>
    .identifier "const" :: (member.type.tokens
      ++ .identifier member.name :: DefaultValue.tokensOption member.defaultValue)
  | .iterable => collection "iterable"
  | .maplike => collection "maplike"
  | .setlike => collection "setlike"
  | .stringifier => [.identifier "stringifier"]
where
  /-- The tokens of an iterable, maplike or setlike declaration. -/
  collection (keyword : String) : List Token :=
    let key := match member.keyType with
      | some key => key.tokens ++ [.punct ',']
      | none => []
    tokenIf member.readonly (.identifier "readonly")
      ++ .identifier keyword :: .punct '<' :: (key ++ (member.type.tokens ++ [.punct '>']))

/-- The tokens of a member. -/
def Member.tokens (member : Member) : List Token :=
  bracketedTokens (Argument.attributeTokens member.attributes)
    ++ (tokenIf member.isStatic (.identifier "static") ++ (member.bodyTokens ++ [.punct ';']))

namespace Definition

/-- The tokens of a body behind its keywords. -/
def blockTokens (definition : Definition) : List Token :=
  let parent := match definition.parent with
    | some parent => [.punct ':', .identifier parent]
    | none => []
  .identifier definition.name :: (parent ++ .punct '\x7b'
    :: (definition.members.flatMap Member.tokens ++ [.punct '\x7d', .punct ';']))

/-- The tokens of a definition behind its extended attributes and `partial`, before the interface that
it implements. -/
def bodyTokens (definition : Definition) : List Token :=
  match definition.kind with
  | .enum =>
    .identifier "enum" :: .identifier definition.name :: .punct '\x7b'
      :: (separated (.punct ',') (definition.values.map fun value => [.string value])
      ++ [.punct '\x7d', .punct ';'])
  | .typedef =>
    .identifier "typedef" :: ((definition.type.getD (.named "any")).tokens
      ++ [.identifier definition.name, .punct ';'])
  | .callback =>
    .identifier "callback" :: .identifier definition.name :: .punct '='
      :: ((definition.type.getD (.named "undefined")).tokens
      ++ .punct '(' :: (Argument.closingTokens definition.arguments ++ [.punct ';']))
  | .interface => .identifier "interface" :: definition.blockTokens
  | .dictionary => .identifier "dictionary" :: definition.blockTokens
  | .callbackInterface =>
    .identifier "callback" :: .identifier "interface" :: definition.blockTokens

/-- The tokens of the statement that a definition implements another. -/
def implementsTokens (definition : Definition) : List Token :=
  match definition.implements with
  | some implemented =>
    [.identifier definition.name, .identifier "implements", .identifier implemented, .punct ';']
  | none => []

/-- The tokens of a definition. -/
def tokens (definition : Definition) : List Token :=
  bracketedTokens (Argument.attributeTokens definition.attributes)
    ++ (tokenIf definition.isPartial (.identifier "partial")
    ++ (definition.bodyTokens ++ definition.implementsTokens))

end Definition

/-! ## Spelling -/

namespace Token.Spells

variable {text : List Char} {ts : List Token}

theorem word (name : String) (h : isIdentifier name = true) (ends : endsWord text = true)
    (later : Spells text ts) : Spells (name.toList ++ text) (.identifier name :: ts) :=
  Spells.token (t := .identifier name) h ends later

theorem mark (c : Char) (h : punctuation.contains c = true) (later : Spells text ts) :
    Spells (c :: text) (.punct c :: ts) :=
  Spells.token (t := .punct c) h rfl later

theorem space (later : Spells text ts) : Spells (' ' :: text) ts :=
  Spells.blank (by decide) later

theorem newline (later : Spells text ts) : Spells ('\n' :: text) ts :=
  Spells.blank (by decide) later

theorem quote (value : String) (h : isQuotable value = true) (later : Spells text ts) :
    Spells ((quoted value).toList ++ text) (.string value :: ts) := by
  have := Spells.token (t := .string value) h rfl later
  simpa [quoted, written] using this

theorem wordIf (condition : Bool) (name spaced : String) (h : isIdentifier name = true)
    (blank : spaced.toList = name.toList ++ [' ']) (later : Spells text ts) :
    Spells ((wordIf condition spaced).toList ++ text)
      (tokenIf condition (.identifier name) ++ ts) := by
  cases condition with
  | false => exact later
  | true =>
    show Spells (spaced.toList ++ text) (.identifier name :: ts)
    rw [blank, List.append_assoc]
    exact word name h rfl (space later)

end Token.Spells

/-- Whether neither a word nor a number goes on into a text. -/
def endsItem (text : List Char) : Bool :=
  endsWord text && endsNumber text

/-- A text spells tokens in front of every text that `ends` it. -/
def Prints (ends : List Char → Bool) (text : String) (tokens : List Token) : Prop :=
  ∀ after rest, ends after = true → Spells after rest →
    Spells (text.toList ++ after) (tokens ++ rest)

/-- Texts with a separator between any two spell their tokens with the separator's token between. -/
theorem Prints.intercalate {ends : List Char → Bool} (separator : String) (token : Token)
    (spells : ∀ after rest, Spells after rest → Spells (separator.toList ++ after) (token :: rest))
    (stops : ∀ after, ends (separator.toList ++ after) = true)
    {texts : List String} {lists : List (List Token)}
    (each : List.Forall₂ (Prints ends) texts lists) :
    Prints ends (separator.intercalate texts) (separated token lists) := by
  induction each with
  | nil =>
    intro after rest _ later
    exact later
  | @cons text tokens texts lists first others ih =>
    cases others with
    | nil =>
      intro after rest stop later
      simpa [separated] using first after rest stop later
    | @cons next tokens' texts' lists' =>
      -- the first text ends where the separator starts, whatever the separator is followed by
      intro after rest stop later
      have tail := spells _ _ (ih after rest stop later)
      have whole := first _ _ (stops _) tail
      simpa [separated, String.intercalate_cons_cons] using whole

theorem Prints.comma {ends : List Char → Bool} (stops : ∀ after, ends (',' :: after) = true)
    {texts : List String} {lists : List (List Token)}
    (each : List.Forall₂ (Prints ends) texts lists) :
    Prints ends (", ".intercalate texts) (separated (.punct ',') lists) := by
  refine Prints.intercalate ", " (.punct ',') ?_ (fun after => stops (' ' :: after)) each
  intro after rest later
  exact .mark ',' (by decide) (.space later)

/-! ### Types -/

/-- What is found in a table is one of its entries. -/
theorem mem_of_lookup {α β : Type} [BEq α] [LawfulBEq α] {table : List (α × β)} {key : α} {entry : β}
    (found : table.lookup key = some entry) : (key, entry) ∈ table := by
  obtain ⟨before, behind, same, -⟩ := List.lookup_eq_some_iff.1 found
  rw [same]
  simp

namespace TypeExpr

/-- The name of several words is its words with blanks between. -/
theorem phrases_spaced : ∀ entry ∈ phrases,
    entry.2.all isIdentifier = true ∧ entry.1 = " ".intercalate entry.2 := by
  decide

theorem prints_spaced {words : List String} (h : words.all isIdentifier = true) :
    Prints endsWord (" ".intercalate words) (words.map .identifier) := by
  induction words with
  | nil =>
    intro after rest _ later
    exact later
  | cons word words ih =>
    obtain ⟨first, others⟩ := Bool.and_eq_true_iff.1 (List.all_cons ▸ h)
    intro after rest ends later
    cases words with
    | nil => simpa using Spells.word word first ends later
    | cons next words =>
      have tail := Spells.word word first rfl (.space (ih others after rest ends later))
      simpa [String.intercalate_cons_cons] using tail

theorem prints_words {name : String} (h : isTypeName name = true) :
    Prints endsWord name ((words name).map .identifier) := by
  cases found : phrases.lookup name with
  | none =>
    have identifier : isIdentifier name = true := by
      simp only [isTypeName, found, Option.isSome_none, Bool.false_or, Bool.and_eq_true] at h
      exact h.1.1
    intro after rest ends later
    simpa [words, found] using Spells.word name identifier ends later
  | some several =>
    obtain ⟨identifiers, spaced⟩ := phrases_spaced _ (mem_of_lookup found)
    have := prints_spaced identifiers
    rw [← spaced] at this
    simpa [words, found] using this

mutual
theorem prints_type : ∀ t : TypeExpr, t.isWellFormed = true → Prints endsWord t.print t.tokens
  | named name, h => by
    rw [isWellFormed] at h
    rw [print, tokens]
    exact prints_words h
  | sequence element, h => by
    rw [isWellFormed] at h
    intro after rest ends later
    have inner := prints_type element h ('>' :: after) _ rfl (.mark _ (by decide) later)
    have whole := Spells.word "sequence" (by decide) rfl (.mark '<' (by decide) inner)
    simpa [print, tokens] using whole
  | nullable inner, h => by
    rw [isWellFormed, Bool.and_eq_true] at h
    intro after rest ends later
    have := prints_type inner h.2 ('?' :: after) _ rfl (.mark _ (by decide) later)
    simpa [print, tokens] using this
  | union members, h => by
    rw [isWellFormed, Bool.and_eq_true] at h
    have several := Prints.intercalate " or " (.identifier "or")
      (fun after rest later => .space (.word "or" (by decide) rfl (.space later)))
      (fun _ => rfl) (prints_types members h.2)
    intro after rest ends later
    have := several (')' :: after) _ rfl (.mark _ (by decide) later)
    simpa [print, tokens] using Spells.mark '(' (by decide) this
  | generic name arguments, h => by
    simp only [isWellFormed, Bool.and_eq_true] at h
    obtain ⟨⟨⟨known, -⟩, -⟩, each⟩ := h
    have several := Prints.comma (fun _ => rfl) (prints_types arguments each)
    intro after rest ends later
    have inner := several ('>' :: after) _ rfl (.mark _ (by decide) later)
    have whole := prints_words known _ _ rfl (.mark '<' (by decide) inner)
    simpa [print, tokens] using whole
theorem prints_types : ∀ ts : List TypeExpr, areWellFormed ts = true →
    List.Forall₂ (Prints endsWord) (printList ts) (tokensList ts)
  | [], _ => by
    rw [printList, tokensList]
    exact .nil
  | t :: rest, h => by
    rw [areWellFormed, Bool.and_eq_true] at h
    rw [printList, tokensList]
    exact .cons (prints_type t h.1) (prints_types rest h.2)
end

end TypeExpr

/-! ### Values -/

theorem endsItem_word {text : List Char} (h : endsItem text = true) : endsWord text = true :=
  (Bool.and_eq_true_iff.1 h).1

theorem endsItem_number {text : List Char} (h : endsItem text = true) : endsNumber text = true :=
  (Bool.and_eq_true_iff.1 h).2

theorem prints_word {name : String} (h : isIdentifier name = true) :
    Prints endsItem name [.identifier name] := by
  intro after rest ends later
  exact .word name h (endsItem_word ends) later

theorem Prints.behind_word {name text : String} {ts : List Token} (named : isIdentifier name = true)
    (spells : Prints endsItem text ts)
    (stops : ∀ after, endsItem after = true → endsWord (text.toList ++ after) = true) :
    Prints endsItem (name ++ text) (.identifier name :: ts) := by
  intro after rest ends later
  simpa using Spells.word name named (stops after ends) (spells after rest ends later)

theorem prints_number {text : String} (h : isNumber text = true) :
    Prints endsItem text [.number text] := by
  intro after rest ends later
  exact Spells.token (t := .number text) h (endsItem_number ends) later

theorem prints_words_each {names : List String} (h : names.all isIdentifier = true) :
    List.Forall₂ (Prints endsItem) names (names.map fun name => [.identifier name]) := by
  induction names with
  | nil => exact .nil
  | cons name names ih =>
    rw [List.all_cons, Bool.and_eq_true] at h
    exact .cons (prints_word h.1) (ih h.2)

/-- The words among the numbers are identifiers. -/
theorem numberWords_identifiers : ∀ word ∈ DefaultValue.numberWords,
    isIdentifier word = true ∧ isNumber word = false := by
  decide

theorem DefaultValue.prints {value : DefaultValue} (h : value.isWellFormed = true) :
    Prints endsItem value.print value.tokens := by
  obtain ⟨kind, text⟩ := value
  cases kind with
  | number =>
    by_cases number : isNumber text = true
    · simpa [print, tokens, number] using prints_number number
    · have word : text ∈ numberWords := by simpa [isWellFormed, number] using h
      simpa [print, tokens, number] using prints_word (numberWords_identifiers text word).1
  | boolean =>
    have word : isIdentifier text = true := by
      rcases Bool.or_eq_true _ _ ▸ h with same | same
      all_goals
        obtain rfl := eq_of_beq same
        decide
    exact prints_word word
  | string =>
    intro after rest _ later
    exact .quote text h later
  | null =>
    have word : isIdentifier "null" = true := by decide
    exact prints_word word
  | sequence =>
    intro after rest _ later
    have marks := Spells.mark '[' (by decide) (.mark ']' (by decide) later)
    simpa [print, tokens] using marks
  | dictionary =>
    intro after rest _ later
    have marks := Spells.mark '\x7b' (by decide) (.mark '\x7d' (by decide) later)
    simpa [print, tokens] using marks

theorem DefaultValue.prints_option {value : Option DefaultValue}
    (h : value.all (·.isWellFormed) = true) :
    Prints endsItem (printOption value) (tokensOption value) := by
  intro after rest ends later
  cases value with
  | none => exact later
  | some value =>
    have := DefaultValue.prints (by simpa using h) after rest ends later
    simpa [printOption, tokensOption] using Spells.space (.mark '=' (by decide) (.space this))

/-- A name with its default. -/
theorem DefaultValue.prints_named {name : String} {value : Option DefaultValue}
    (named : isIdentifier name = true) (valued : value.all (·.isWellFormed) = true) :
    Prints endsItem (name ++ printOption value) (.identifier name :: tokensOption value) := by
  refine Prints.behind_word named (prints_option valued) fun after ends => ?_
  cases value with
  | none => exact endsItem_word ends
  | some value =>
    have chars : (printOption (some value)).toList = ' ' :: '=' :: ' ' :: value.print.toList := by
      simp [printOption]
    rw [chars]
    rfl

theorem AttributeValue.prints {value : AttributeValue} (h : value.isWellFormed = true) :
    Prints endsItem value.print value.tokens := by
  cases value with
  | identifier name => exact prints_word h
  | identifiers names =>
    rw [isWellFormed, Bool.and_eq_true] at h
    intro after rest ends later
    have inner := Prints.comma (fun _ => rfl) (prints_words_each h.2) (')' :: after) _ rfl
      (.mark _ (by decide) later)
    simpa [print, tokens] using Spells.mark '(' (by decide) inner
  | string text =>
    intro after rest _ later
    exact .quote text h later
  | number text => exact prints_number h

theorem AttributeValue.prints_option {value : Option AttributeValue}
    (h : value.all (·.isWellFormed) = true) :
    Prints endsItem (printOption value) (tokensOption value) := by
  intro after rest ends later
  cases value with
  | none => exact later
  | some value =>
    have := AttributeValue.prints (by simpa using h) after rest ends later
    simpa [printOption, tokensOption] using Spells.mark '=' (by decide) this

/-- The name of an extended attribute with its right side. -/
theorem AttributeValue.prints_named {name : String} {value : Option AttributeValue}
    (named : isIdentifier name = true) (valued : value.all (·.isWellFormed) = true) :
    Prints endsItem (name ++ printOption value) (.identifier name :: tokensOption value) := by
  refine Prints.behind_word named (prints_option valued) fun after ends => ?_
  cases value with
  | none => exact endsItem_word ends
  | some value =>
    have chars : (printOption (some value)).toList = '=' :: value.print.toList := by
      simp [printOption]
    rw [chars]
    rfl

/-! ### Arguments and extended attributes -/

theorem spells_bracketed (blank : String) {texts : List String} {lists : List (List Token)}
    {after : List Char} {rest : List Token}
    (skips : ∀ {text ts}, Spells text ts → Spells (blank.toList ++ text) ts)
    (each : List.Forall₂ (Prints endsItem) texts lists) (later : Spells after rest) :
    Spells ((bracketed blank texts).toList ++ after) (bracketedTokens lists ++ rest) := by
  cases each with
  | nil => exact later
  | @cons text tokens texts lists first others =>
    have inner := Prints.comma (fun _ => rfl) (.cons first others) _ _ rfl
      (.mark ']' (by decide) (skips later))
    simpa [bracketed, bracketedTokens] using Spells.mark '[' (by decide) inner

theorem spells_dots (variadic : Bool) {text : List Char} {ts : List Token} (later : Spells text ts) :
    Spells ((wordIf variadic "...").toList ++ text) (tokenIf variadic .ellipsis ++ ts) := by
  cases variadic with
  | false => exact later
  | true => exact Spells.token (t := .ellipsis) rfl rfl later

namespace Argument

mutual
theorem prints_argument : ∀ a : Argument, a.isWellFormed = true → Prints endsItem a.print a.tokens
  | ⟨name, type, optional, variadic, defaultValue, attributes⟩, h => by
    simp only [isWellFormed, Bool.and_eq_true] at h
    obtain ⟨⟨⟨named, typed⟩, defaulted⟩, attributed⟩ := h
    intro after rest ends later
    -- from the end to the start: each part is spelled in front of what is behind it
    have own := Spells.space (DefaultValue.prints_named named defaulted after rest ends later)
    have dotted := spells_dots variadic own
    have typing := TypeExpr.prints_type type typed _ _ (by cases variadic <;> rfl) dotted
    have whole := spells_bracketed " " Spells.space (prints_attributes attributes attributed)
      (.wordIf optional "optional" "optional " (by decide) rfl typing)
    simpa [print, tokens] using whole
theorem prints_attributes : ∀ as : List ExtendedAttribute, attributesWellFormed as = true →
    List.Forall₂ (Prints endsItem) (printAttributes as) (attributeTokens as)
  | [], _ => by
    rw [printAttributes, attributeTokens]
    exact .nil
  | ⟨name, value, none⟩ :: rest, h => by
    simp only [attributesWellFormed, Bool.and_eq_true] at h
    obtain ⟨⟨named, valued⟩, others⟩ := h
    rw [printAttributes, attributeTokens]
    refine .cons ?_ (prints_attributes rest others)
    exact AttributeValue.prints_named named valued
  | ⟨name, value, some arguments⟩ :: rest, h => by
    simp only [attributesWellFormed, Bool.and_eq_true] at h
    obtain ⟨⟨⟨named, valued⟩, listed⟩, others⟩ := h
    rw [printAttributes, attributeTokens]
    refine .cons ?_ (prints_attributes rest others)
    intro after rest ends later
    have closed := Prints.comma (fun _ => rfl) (prints_arguments arguments listed) _ _ rfl
      (.mark ')' (by decide) later)
    have whole := AttributeValue.prints_named named valued _ _ rfl (.mark '(' (by decide) closed)
    simpa using whole
theorem prints_arguments : ∀ as : List Argument, areWellFormed as = true →
    List.Forall₂ (Prints endsItem) (printList as) (tokensList as)
  | [], _ => by
    rw [printList, tokensList]
    exact .nil
  | a :: rest, h => by
    rw [areWellFormed, Bool.and_eq_true] at h
    rw [printList, tokensList]
    exact .cons (prints_argument a h.1) (prints_arguments rest h.2)
end

end Argument

/-! ### Members -/

theorem Argument.spells_parenthesized {arguments : List Argument} {after : List Char}
    {rest : List Token} (h : areWellFormed arguments = true) (later : Spells after rest) :
    Spells ((printParenthesized arguments).toList ++ after)
      (.punct '(' :: (closingTokens arguments ++ rest)) := by
  have closed := Prints.comma (fun _ => rfl) (prints_arguments arguments h) _ _ rfl
    (.mark ')' (by decide) later)
  simpa [printParenthesized, closingTokens] using Spells.mark '(' (by decide) closed

theorem Argument.endsWord_parenthesized (arguments : List Argument) (after : List Char) :
    endsWord ((printParenthesized arguments).toList ++ after) = true := by
  simp only [printParenthesized, String.toList_append, List.append_assoc]
  rfl

namespace Member

variable {member : Member} {after : List Char} {rest : List Token}

theorem spells_collection {keyword : String} (known : isIdentifier keyword = true)
    (typed : member.type.isWellFormed = true)
    (keyed : member.keyType.all (·.isWellFormed) = true) (later : Spells after rest) :
    Spells ((printBody.collection member keyword).toList ++ after)
      (bodyTokens.collection member keyword ++ rest) := by
  have value := TypeExpr.prints_type member.type typed ('>' :: after) _ rfl (.mark _ (by decide) later)
  cases key : member.keyType with
  | none =>
    have whole := Spells.wordIf member.readonly "readonly" "readonly " (by decide) rfl
      (.word keyword known rfl (.mark '<' (by decide) value))
    simpa [printBody.collection, bodyTokens.collection, key] using whole
  | some t =>
    have first := TypeExpr.prints_type t (by simpa [key] using keyed) (',' :: ' ' :: _) _ rfl
      (.mark _ (by decide) (.space value))
    have whole := Spells.wordIf member.readonly "readonly" "readonly " (by decide) rfl
      (.word keyword known rfl (.mark '<' (by decide) first))
    simpa [printBody.collection, bodyTokens.collection, key] using whole

/-- The special keywords in front of an operation. -/
theorem spells_specials {specials : List String}
    (h : specials.all Grammar.specialWords.contains = true) (later : Spells after rest) :
    Spells ((String.join (specials.map (· ++ " "))).toList ++ after)
      (specials.map .identifier ++ rest) := by
  have words : ∀ word ∈ Grammar.specialWords, isIdentifier word = true := by decide
  induction specials with
  | nil => exact later
  | cons special specials ih =>
    rw [List.all_cons, Bool.and_eq_true] at h
    have known := words special (by simpa using h.1)
    have := Spells.word special known rfl (.space (ih h.2))
    simpa [String.toList_join] using this

/-- The name of an operation, which may have none. -/
theorem spells_operationName (named : (member.name.isEmpty || isIdentifier member.name) = true)
    (stop : endsWord after = true) (later : Spells after rest) :
    Spells ((if member.name.isEmpty then "" else " " ++ member.name).toList ++ after)
      ((if member.name.isEmpty then [] else [.identifier member.name]) ++ rest) := by
  by_cases nameless : member.name.isEmpty = true
  · simpa [nameless] using later
  · have name : isIdentifier member.name = true := by simpa [nameless] using named
    have := Spells.space (.word member.name name stop later)
    simpa [nameless] using this

theorem endsWord_operationName (stop : endsWord after = true) :
    endsWord ((if member.name.isEmpty then "" else " " ++ member.name).toList ++ after) = true := by
  by_cases nameless : member.name.isEmpty = true
  · simpa [nameless] using stop
  · simp only [nameless, Bool.false_eq_true, if_false, String.toList_append, List.append_assoc]
    rfl

theorem spells_body (h : member.isWellFormed = true) (later : Spells after rest) :
    Spells (member.printBody.toList ++ ';' :: after)
      (member.bodyTokens ++ .punct ';' :: rest) := by
  have later := Spells.mark ';' (by decide) later
  rw [isWellFormed, Bool.and_eq_true] at h
  replace h := h.2
  -- as for arguments, every kind is put together from its semicolon backwards
  cases kind : member.kind with
  | field =>
    simp only [kind, Bool.and_eq_true] at h
    obtain ⟨⟨named, typed⟩, valued⟩ := h
    have own := Spells.space (DefaultValue.prints_named named valued _ _ rfl later)
    have typing := TypeExpr.prints_type _ typed _ _ rfl own
    have whole := Spells.wordIf member.required "required" "required " (by decide) rfl typing
    simpa [printBody, bodyTokens, kind] using whole
  | property =>
    simp only [kind, Bool.and_eq_true] at h
    have own := Spells.space (.word member.name h.1 rfl later)
    have typing := TypeExpr.prints_type _ h.2 _ _ rfl own
    have whole := Spells.wordIf member.readonly "readonly" "readonly " (by decide) rfl
      (.word "attribute" (by decide) rfl (.space typing))
    simpa [printBody, bodyTokens, kind] using whole
  | operation =>
    simp only [kind, Bool.and_eq_true] at h
    obtain ⟨⟨⟨named, typed⟩, special⟩, listed⟩ := h
    have behind := Argument.endsWord_parenthesized member.arguments (';' :: after)
    have own := spells_operationName named behind (Argument.spells_parenthesized listed later)
    have typing := TypeExpr.prints_type _ typed _ _ (endsWord_operationName behind) own
    have whole := spells_specials special typing
    simpa [printBody, bodyTokens, kind] using whole
  | constructor =>
    simp only [kind] at h
    have behind := Argument.endsWord_parenthesized member.arguments (';' :: after)
    have whole := Spells.word "constructor" (by decide) behind
      (Argument.spells_parenthesized h later)
    simpa [printBody, bodyTokens, kind] using whole
  | const =>
    simp only [kind, Bool.and_eq_true] at h
    obtain ⟨⟨named, typed⟩, valued⟩ := h
    -- a constant has a value, where a field may have one
    have valued : member.defaultValue.all (·.isWellFormed) = true := by
      cases value : member.defaultValue with
      | none => rfl
      | some value => simpa [value] using valued
    have own := Spells.space (DefaultValue.prints_named named valued _ _ rfl later)
    have typing := TypeExpr.prints_type _ typed _ _ rfl own
    have whole := Spells.word "const" (by decide) rfl (.space typing)
    simpa [printBody, bodyTokens, kind] using whole
  | iterable =>
    simp only [kind, Bool.and_eq_true] at h
    simpa [printBody, bodyTokens, kind] using spells_collection (by decide) h.1 h.2 later
  | maplike =>
    simp only [kind, Bool.and_eq_true] at h
    simpa [printBody, bodyTokens, kind] using spells_collection (by decide) h.1 h.2 later
  | setlike =>
    simp only [kind, Bool.and_eq_true] at h
    simpa [printBody, bodyTokens, kind] using spells_collection (by decide) h.1 h.2 later
  | stringifier =>
    simpa [printBody, bodyTokens, kind] using Spells.word "stringifier" (by decide) rfl later

theorem spells (h : member.isWellFormed = true) (later : Spells after rest) :
    Spells (member.print.toList ++ after) (member.tokens ++ rest) := by
  have attributed : Argument.attributesWellFormed member.attributes = true := by
    rw [isWellFormed, Bool.and_eq_true] at h
    exact h.1
  have body := spells_body h later
  have whole := spells_bracketed " " Spells.space (Argument.prints_attributes _ attributed)
    (.wordIf member.isStatic "static" "static " (by decide) rfl body)
  simpa [print, tokens] using whole

end Member

/-! ### Definitions -/

/-- A missing type is written as the name that stands for none. -/
theorem TypeExpr.isWellFormed_getD (name : String) {type : Option TypeExpr}
    (typed : type.all (·.isWellFormed) = true) (known : isTypeName name = true) :
    (type.getD (.named name)).isWellFormed = true := by
  cases type with
  | none => simpa [isWellFormed] using known
  | some t => simpa using typed

namespace Definition

variable {definition : Definition} {after : List Char} {rest : List Token}

theorem prints_values {values : List String} (h : values.all isQuotable = true) (indent : String)
    (skips : ∀ {text ts}, Spells text ts → Spells (indent.toList ++ text) ts) :
    List.Forall₂ (Prints fun _ => true) (values.map fun value => indent ++ quoted value)
      (values.map fun value => [.string value]) := by
  induction values with
  | nil => exact .nil
  | cons value values ih =>
    rw [List.all_cons, Bool.and_eq_true] at h
    refine .cons ?_ (ih h.2)
    intro after rest _ later
    simpa using skips (.quote value h.1 later)

/-- The values of an enumeration, one on each line. -/
theorem spells_values {values : List String} (h : values.all isQuotable = true)
    (later : Spells after rest) :
    Spells ((if (values.map fun value => "  " ++ quoted value).isEmpty then ""
        else ",\n".intercalate (values.map fun value => "  " ++ quoted value) ++ "\n").toList ++ after)
      (separated (.punct ',') (values.map fun value => [.string value]) ++ rest) := by
  have lines := Prints.intercalate ",\n" (.punct ',')
    (fun _ _ later => .mark ',' (by decide) (.newline later)) (fun _ => rfl)
    (prints_values h "  " fun later => .space (.space later))
  cases values with
  | nil => exact later
  | cons value values => simpa using lines _ _ rfl (Spells.newline later)

theorem spells_members {members : List Member} (h : members.all (·.isWellFormed) = true)
    (later : Spells after rest) :
    Spells ((String.join (members.map fun member => "  " ++ member.print ++ "\n")).toList ++ after)
      (members.flatMap Member.tokens ++ rest) := by
  induction members with
  | nil => exact later
  | cons member members ih =>
    rw [List.all_cons, Bool.and_eq_true] at h
    have line := Spells.space (.space (Member.spells h.1 (.newline (ih h.2))))
    simpa [String.toList_join] using line

/-- What stands behind the keywords of a body, whose members stand on lines. -/
theorem spells_block {lines : String} (named : isIdentifier definition.name = true)
    (inherits : definition.parent.all isIdentifier = true)
    (members : ∀ {after rest}, Spells after rest →
      Spells (lines.toList ++ after) (definition.members.flatMap Member.tokens ++ rest))
    (later : Spells after rest) :
    Spells ((definition.name ++ definition.parent.elim "" (" : " ++ ·) ++ " \x7b\n" ++ lines
        ++ "\x7d;").toList ++ after)
      (definition.blockTokens ++ rest) := by
  have closed := Spells.mark '\x7d' (by decide) (.mark ';' (by decide) later)
  have opened := Spells.space (.mark '\x7b' (by decide) (.newline (members closed)))
  cases parent : definition.parent with
  | none =>
    have whole := Spells.word definition.name named rfl opened
    simpa [blockTokens, parent] using whole
  | some name =>
    have known : isIdentifier name = true := by simpa [parent] using inherits
    have whole := Spells.word definition.name named rfl
      (.space (.mark ':' (by decide) (.space (.word name known rfl opened))))
    simpa [blockTokens, parent] using whole

theorem spells_body (h : definition.isWellFormed = true) (later : Spells after rest) :
    Spells (definition.printBody.toList ++ after) (definition.bodyTokens ++ rest) := by
  simp only [isWellFormed, Bool.and_eq_true] at h
  obtain ⟨⟨⟨⟨⟨⟨⟨named, inherits⟩, -⟩, members⟩, values⟩, -⟩, typed⟩, listed⟩ := h
  cases kind : definition.kind with
  | interface =>
    have whole := Spells.word "interface" (by decide) rfl
      (.space (spells_block named inherits (spells_members members) later))
    cases parent : definition.parent <;>
      simpa [printBody, bodyTokens, kind, parent, DefinitionKind.keyword] using whole
  | dictionary =>
    have whole := Spells.word "dictionary" (by decide) rfl
      (.space (spells_block named inherits (spells_members members) later))
    cases parent : definition.parent <;>
      simpa [printBody, bodyTokens, kind, parent, DefinitionKind.keyword] using whole
  | callbackInterface =>
    have whole := Spells.word "callback" (by decide) rfl (.space (.word "interface" (by decide) rfl
      (.space (spells_block named inherits (spells_members members) later))))
    cases parent : definition.parent <;>
      simpa [printBody, bodyTokens, kind, parent, DefinitionKind.keyword] using whole
  | enum =>
    have closed := Spells.mark '\x7d' (by decide) (.mark ';' (by decide) later)
    have whole := Spells.word "enum" (by decide) rfl (.space (.word definition.name named rfl
      (.space (.mark '\x7b' (by decide) (.newline (spells_values values closed))))))
    simpa [printBody, bodyTokens, kind] using whole
  | typedef =>
    have own := Spells.space (.word definition.name named rfl (.mark ';' (by decide) later))
    have aliased := TypeExpr.prints_type _ (TypeExpr.isWellFormed_getD "any" typed (by decide)) _ _ rfl own
    have whole := Spells.word "typedef" (by decide) rfl (.space aliased)
    simpa [printBody, bodyTokens, kind] using whole
  | callback =>
    have arguments := Spells.space
      (Argument.spells_parenthesized listed (.mark ';' (by decide) later))
    have returned := TypeExpr.prints_type _ (TypeExpr.isWellFormed_getD "undefined" typed (by decide)) _ _ rfl arguments
    have whole := Spells.word "callback" (by decide) rfl (.space (.word definition.name named rfl
      (.space (.mark '=' (by decide) (.space returned)))))
    simpa [printBody, bodyTokens, kind] using whole

theorem spells (h : definition.isWellFormed = true) (later : Spells after rest) :
    Spells (definition.print.toList ++ after) (definition.tokens ++ rest) := by
  have parts := h
  simp only [isWellFormed, Bool.and_eq_true] at parts
  obtain ⟨⟨⟨⟨⟨⟨⟨named, -⟩, implementing⟩, -⟩, -⟩, attributed⟩, -⟩, -⟩ := parts
  have before : ∀ {text ts}, Spells text ts →
      Spells ((bracketed "\n" (Argument.printAttributes definition.attributes)).toList
          ++ ((wordIf definition.isPartial "partial ").toList
          ++ (definition.printBody.toList ++ text)))
        (bracketedTokens (Argument.attributeTokens definition.attributes)
          ++ (tokenIf definition.isPartial (.identifier "partial")
          ++ (definition.bodyTokens ++ ts))) := by
    intro text ts later
    -- only here attributes are followed by a line break and not by a blank
    exact spells_bracketed "\n" Spells.newline (Argument.prints_attributes _ attributed)
      (.wordIf definition.isPartial "partial" "partial " (by decide) rfl (spells_body h later))
  cases implements : definition.implements with
  | none => simpa [print, tokens, implementsTokens, implements] using before later
  | some name =>
    have known : isIdentifier name = true := by simpa [implements] using implementing
    have statement := Spells.newline (.newline (.word definition.name named rfl (.space
      (.word "implements" (by decide) rfl (.space (.word name known rfl
      (.mark ';' (by decide) later)))))))
    simpa [print, tokens, implementsTokens, implements] using before statement

/-- The written form of a schema, one definition on each line, spells the tokens of its definitions. -/
theorem spells_schema {schema : List Definition} (h : ∀ d ∈ schema, d.isWellFormed = true)
    (later : Spells after rest) :
    Spells (("\n".intercalate (schema.map print)).toList ++ after)
      (schema.flatMap tokens ++ rest) := by
  induction schema with
  | nil => exact later
  | cons d schema ih =>
    have others : ∀ d ∈ schema, d.isWellFormed = true := fun d mem => h d (by simp [mem])
    have first := h d (by simp)
    cases schema with
    | nil => simpa using spells first later
    | cons e schema =>
      have := spells first (.newline (ih others))
      simpa [String.intercalate_cons_cons] using this

end Definition

end IdlBindings
