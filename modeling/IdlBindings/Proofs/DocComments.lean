/-
# IdlBindings.Proofs.DocComments: where the doc comments of a JavaScript module end.

Every definition is written into a doc comment, line by line: its name, the names it refers to, and the defaults of
its members.  A comment ends at the first mark that closes comments.  No text that is put between names has a part of
the mark where they meet, and numbers have no slash.  But a string holds what it likes, a default is quoted as if it
stood in code, and a rule of renaming makes names of any kind.  So the comment of a definition ends where it should
exactly if no name and no string default that it shows has the mark in it.  What is read from a text has no slash in
a name, so without rules of renaming it is the defaults alone that count.
-/
import IdlBindings.Proofs.DeclaredMembers
import IdlBindings.Proofs.KindInvariants
import IdlBindings.Proofs.NamePlaces
import IdlBindings.Proofs.OwnFiles

namespace IdlBindings

/-! ## Closing marks -/

/-- A text has the mark in it that closes a comment. -/
def Closes (text : String) : Prop :=
  ['*', '/'] <:+: text.toList

instance (text : String) : Decidable (Closes text) :=
  inferInstanceAs (Decidable (_ <:+: _))

/-- Where no star meets a slash, a mark stands on one side or on the other. -/
theorem closes_append {a b : String} (seam : a.toList.getLast? ≠ some '*' ∨ b.toList.head? ≠ some '/') :
    Closes (a ++ b) ↔ Closes a ∨ Closes b := by
  unfold Closes
  rw [String.toList_append, List.infix_append_iff]
  constructor
  · rintro (left | right | ⟨before, behind, split, ends, begins⟩)
    · exact .inl left
    · exact .inr right
    · -- A mark across the seam would be a star in front of it and a slash behind it.
      rcases before with - | ⟨star, - | ⟨slash, before⟩⟩
      · obtain rfl : ['*', '/'] = behind := split
        exact .inr begins.isInfix
      · obtain ⟨rfl, rfl⟩ : '*' = star ∧ ['/'] = behind := List.cons.inj split
        obtain ⟨front, ends⟩ := ends
        obtain ⟨back, begins⟩ := begins
        simp [← ends, ← begins] at seam
      · obtain ⟨rfl, rest⟩ : '*' = star ∧ ['/'] = slash :: (before ++ behind) := List.cons.inj split
        obtain ⟨rfl, others⟩ := List.cons.inj rest
        obtain ⟨rfl, rfl⟩ := List.append_eq_nil_iff.1 others.symm
        exact .inl ends.isInfix
  · rintro (left | right)
    · exact .inl left
    · exact .inr (.inl right)

theorem not_closes_of_slashless {text : String} (slashless : '/' ∉ text.toList) : ¬ Closes text :=
  fun closes => slashless (closes.subset (by simp))

/-- A text without slashes adds no mark behind another text. -/
theorem closes_append_slashless {a b : String} (slashless : '/' ∉ b.toList) : Closes (a ++ b) ↔ Closes a := by
  have seam : b.toList.head? ≠ some '/' := fun begins => slashless (List.mem_of_mem_head? begins)
  rw [closes_append (.inr seam), or_iff_left (not_closes_of_slashless slashless)]

/-- A text that adds no mark to what stands behind it. -/
def Neutral (text : String) : Prop :=
  '/' ∉ text.toList ∧ text.toList.getLast? ≠ some '*'

instance (text : String) : Decidable (Neutral text) :=
  inferInstanceAs (Decidable (_ ∧ _))

theorem closes_neutral_append {a b : String} (neutral : Neutral a) : Closes (a ++ b) ↔ Closes b := by
  rw [closes_append (.inl neutral.2), or_iff_right (not_closes_of_slashless neutral.1)]

/-- Text around another text adds no mark to it. -/
theorem closes_framed {before text behind : String} (neutral : Neutral before) (slashless : '/' ∉ behind.toList) :
    Closes (before ++ text ++ behind) ↔ Closes text := by
  rw [closes_append_slashless slashless, closes_neutral_append neutral]

/-- Text between two others keeps them apart. -/
theorem closes_divided {a between b : String} (neutral : Neutral between) (proper : between ≠ "") :
    Closes (a ++ between ++ b) ↔ Closes a ∨ Closes b := by
  have seam : (a ++ between).toList.getLast? ≠ some '*' := by
    have ends : between.toList.getLast? ≠ none := by simpa using proper
    obtain ⟨c, last⟩ := Option.ne_none_iff_exists'.1 ends
    rw [String.toList_append, List.getLast?_append, last]
    rw [Neutral, last] at neutral
    exact neutral.2
  rw [closes_append (.inl seam), closes_append_slashless neutral.1]

/-- One of several texts has the mark in it. -/
def SomeCloses (texts : List String) : Prop :=
  ∃ text ∈ texts, Closes text

@[simp] theorem someCloses_nil : SomeCloses [] ↔ False := by
  simp [SomeCloses]

@[simp] theorem someCloses_cons {text : String} {texts : List String} :
    SomeCloses (text :: texts) ↔ Closes text ∨ SomeCloses texts := by
  simp [SomeCloses]

@[simp] theorem someCloses_append {first second : List String} :
    SomeCloses (first ++ second) ↔ SomeCloses first ∨ SomeCloses second := by
  simp [SomeCloses, or_and_right, exists_or]

theorem someCloses_map {α : Type} {xs : List α} {f : α → String} :
    SomeCloses (xs.map f) ↔ ∃ x ∈ xs, Closes (f x) := by
  simp [SomeCloses]

theorem someCloses_flatMap {α : Type} {xs : List α} {f : α → List String} :
    SomeCloses (xs.flatMap f) ↔ ∃ x ∈ xs, SomeCloses (f x) := by
  simp only [SomeCloses, List.mem_flatMap]
  grind

theorem closes_intercalate {between : String} {items : List String} (neutral : Neutral between)
    (proper : between ≠ "") : Closes (between.intercalate items) ↔ SomeCloses items := by
  induction items with
  | nil => simpa using not_closes_of_slashless (by decide : '/' ∉ "".toList)
  | cons item items ih =>
    cases items with
    | nil => simp
    | cons second items =>
      rw [String.intercalate_cons_cons, closes_divided neutral proper, ih]
      simp only [someCloses_cons]

/-! ## Types -/

namespace TypeSpelling

theorem closes_nameOf (name : String) : Closes (javascript.nameOf name) ↔ Closes name := by
  unfold nameOf
  cases found : javascript.primitives.lookup name with
  | none => exact Iff.rfl
  | some word =>
    have words : ∀ entry ∈ scriptPrimitives, ¬ Closes entry.1 ∧ ¬ Closes entry.2 := by decide
    obtain ⟨plain, plain'⟩ := words _ (mem_of_lookup found)
    exact iff_of_false plain' plain

mutual
/-- The spelling of a type has a mark in it exactly if one of its names has. -/
theorem closes_spell : ∀ (t : TypeExpr) {text : String}, javascript.spell t = .ok text →
    (Closes text ↔ SomeCloses t.names)
  | .named name, text, spelled => by
    obtain rfl := Except.ok.inj spelled
    simp [TypeExpr.names, closes_nameOf]
  | .nullable inner, text, spelled => by
    obtain ⟨word, made, finished⟩ := bind_eq_ok.1 spelled
    obtain rfl := Except.ok.inj finished
    exact (closes_framed (by decide) (by decide)).trans (closes_spell inner made)
  | .sequence element, text, spelled => by
    obtain ⟨word, made, finished⟩ := bind_eq_ok.1 spelled
    obtain rfl := Except.ok.inj finished
    exact (closes_framed (by decide) (by decide)).trans (closes_spell element made)
  | .union [], text, spelled => by cases spelled
  | .union [t], text, spelled => by cases spelled
  | .union (t :: u :: v :: rest), text, spelled => by cases spelled
  | .union [first, second], text, spelled => by
    obtain ⟨word, made, spelled⟩ := bind_eq_ok.1 spelled
    obtain ⟨word', made', finished⟩ := bind_eq_ok.1 spelled
    obtain rfl := Except.ok.inj finished
    refine (closes_framed (by decide) (by decide)).trans ((closes_intercalate (by decide) (by decide)).trans ?_)
    simp [TypeExpr.names, TypeExpr.namesList, closes_spell first made, closes_spell second made']
  | .generic name arguments, text, spelled => by
    obtain ⟨words, made, finished⟩ := bind_eq_ok.1 spelled
    have listed : Closes (javascript.generic.wrap words) ↔ SomeCloses words :=
      (closes_framed (by decide) (by decide)).trans (closes_intercalate (by decide) (by decide))
    have seam : (javascript.generic.wrap words).toList.head? ≠ some '/' := by
      simp [Listing.wrap, javascript]
    rw [TypeExpr.names, someCloses_cons, ← closes_spellList arguments made]
    split at finished
    · next element array =>
      obtain rfl := Except.ok.inj finished
      have plain : ∀ word ∈ TypeExpr.arrayConstructors, ¬ Closes word := by decide
      rw [or_iff_right (plain name (List.contains_iff_mem.1 array))]
      refine (closes_framed (by decide) (by decide)).trans ?_
      simp
    · obtain rfl := Except.ok.inj finished
      rw [closes_append (.inr seam), closes_nameOf, listed]
theorem closes_spellList : ∀ (ts : List TypeExpr) {texts : List String}, javascript.spellList ts = .ok texts →
    (SomeCloses texts ↔ SomeCloses (TypeExpr.namesList ts))
  | [], texts, spelled => by
    obtain rfl := Except.ok.inj spelled
    rfl
  | t :: rest, texts, spelled => by
    obtain ⟨first, spelledFirst, spelled⟩ := bind_eq_ok.1 spelled
    obtain ⟨others, spelledOthers, finished⟩ := bind_eq_ok.1 spelled
    obtain rfl := Except.ok.inj finished
    rw [TypeExpr.namesList, someCloses_cons, someCloses_append, closes_spell t spelledFirst,
      closes_spellList rest spelledOthers]
end

/-- So has that of a value that may be left out. -/
theorem closes_spellOptional {type : TypeExpr} {required : Bool} {text : String}
    (spelled : javascript.spellOptional type required = .ok text) : Closes text ↔ SomeCloses type.names := by
  obtain ⟨word, made, finished⟩ := bind_eq_ok.1 spelled
  obtain rfl := Except.ok.inj finished
  rw [← closes_spell type made]
  split
  · exact closes_framed (by decide) (by decide)
  · exact Iff.rfl

end TypeSpelling

/-! ## Literals -/

theorem prefix_mark {c : Char} {text : List Char} : ['*', '/'] <+: c :: text ↔ c = '*' ∧ text.head? = some '/' := by
  rw [List.cons_prefix_cons, eq_comm]
  cases text with
  | nil => simp
  | cons d text => simp [List.cons_prefix_cons, eq_comm]

namespace LiteralSpelling

/-- Escaping puts backslashes in front of other characters than slashes. -/
theorem head?_escape (text : List Char) :
    (escape '\'' text).head? = some '/' ↔ text.head? = some '/' := by
  cases text with
  | nil => simp [escape]
  | cons c text =>
    rw [escape]
    split
    next special => rcases special with rfl | rfl <;> simp
    next => simp

theorem closes_escape (text : List Char) : ['*', '/'] <:+: escape '\'' text ↔ ['*', '/'] <:+: text := by
  induction text with
  | nil => simp [escape]
  | cons c text ih =>
    rw [escape]
    split
    next special =>
      rw [List.infix_cons_iff, List.infix_cons_iff, List.infix_cons_iff, prefix_mark, prefix_mark, prefix_mark,
        head?_escape, ih]
      rcases special with rfl | rfl <;> simp
    next =>
      rw [List.infix_cons_iff, List.infix_cons_iff, prefix_mark, prefix_mark, head?_escape, ih]

/-- A quoted string has a mark in it where the string has one. -/
theorem closes_string (text : String) : Closes (script.string text) ↔ Closes text := by
  have quoted : script.string text = "'" ++ String.ofList (escape '\'' text.toList) ++ "'" := by
    apply String.toList_injective
    simp [string, script]
  rw [quoted, closes_framed (by decide) (by decide)]
  unfold Closes
  rw [String.toList_ofList, closes_escape]

end LiteralSpelling

theorem Token.slashless_of_isNumber {text : String} (number : isNumber text = true) : '/' ∉ text.toList := by
  unfold isNumber at number
  split at number
  · cases number
  · next c rest chars =>
    rw [Bool.and_eq_true, List.isEmpty_iff] at number
    rw [chars]
    rintro (_ | ⟨_, slash⟩)
    · exact absurd number.1 (by simp [startsNumber])
    · exact absurd (breaksNumber_of_mem number.2 _ slash) (by decide)

/-- The default is a string with a mark in it that closes a comment. -/
def DefaultValue.Closing (value : DefaultValue) : Prop :=
  value.kind = .string ∧ Closes value.text

namespace JavaScript

variable {schema : List Definition} {options : RenderOptions}

/-- A default that is a string is quoted, whether it is the value of an enumeration or not. -/
theorem ofDefault_string {type : TypeExpr} {value : DefaultValue} {literal : String} (kind : value.kind = .string)
    (resolved : (⟨.javascript, schema, options⟩ : RenderContext).literals.ofDefault type value = .ok literal) :
    literal = LiteralSpelling.script.string value.text := by
  unfold Literals.ofDefault at resolved
  simp only [kind] at resolved
  split at resolved
  · unfold Literals.enumValue at resolved
    split at resolved
    · cases resolved
    · split at resolved
      · exact (Except.ok.inj resolved).symm
      · cases resolved
  · exact (Except.ok.inj resolved).symm

/-- Other defaults have no slash in their literals. -/
theorem ofDefault_slashless {type : TypeExpr} {value : DefaultValue} {literal : String}
    (good : value.isWellFormed = true) (other : value.kind ≠ .string)
    (resolved : (⟨.javascript, schema, options⟩ : RenderContext).literals.ofDefault type value = .ok literal) :
    '/' ∉ literal.toList := by
  unfold Literals.ofDefault Literals.ofKind at resolved
  unfold DefaultValue.isWellFormed at good
  cases kind : value.kind with
  | string => exact absurd kind other
  | number =>
    simp only [kind, Bool.or_eq_true, List.contains_iff_mem] at resolved good
    obtain rfl := Except.ok.inj resolved
    rcases good with number | word
    · exact Token.slashless_of_isNumber number
    · have plain : ∀ word ∈ DefaultValue.numberWords, '/' ∉ word.toList := by decide
      exact plain _ word
  | boolean =>
    simp only [kind] at resolved
    obtain rfl := Except.ok.inj resolved
    have plain : ∀ text, '/' ∉ (LiteralSpelling.script.boolean text).toList := by
      intro text
      unfold LiteralSpelling.boolean
      split <;> decide
    exact plain value.text
  | null =>
    simp only [kind] at resolved
    rw [← Except.ok.inj resolved]
    exact (by decide : '/' ∉ LiteralSpelling.script.nullText.toList)
  | sequence =>
    simp only [kind] at resolved
    rw [← Except.ok.inj resolved]
    exact (by decide : '/' ∉ LiteralSpelling.script.emptySequence.toList)
  | dictionary =>
    simp only [kind] at resolved
    rw [← Except.ok.inj resolved]
    exact (by decide : '/' ∉ LiteralSpelling.script.emptyDictionary.toList)

theorem closes_ofDefault {type : TypeExpr} {value : DefaultValue} {literal : String}
    (good : value.isWellFormed = true)
    (resolved : (⟨.javascript, schema, options⟩ : RenderContext).literals.ofDefault type value = .ok literal) :
    Closes literal ↔ value.Closing := by
  by_cases kind : value.kind = .string
  · rw [ofDefault_string kind resolved, LiteralSpelling.closes_string, DefaultValue.Closing, and_iff_right kind]
  · have plain := not_closes_of_slashless (ofDefault_slashless good kind resolved)
    exact iff_of_false plain fun closing => kind closing.1

end JavaScript

/-! ## Lines -/

namespace JavaScript

variable {schema : List Definition} {options : RenderOptions}

/-- A line with a tag, a type and a name. -/
theorem closes_tagged {tag : String} (neutral : Neutral tag) (type name : String) :
    Closes (tag ++ braced type ++ " " ++ name) ↔ Closes type ∨ Closes name := by
  rw [closes_divided (by decide) (by decide), closes_neutral_append neutral, braced,
    closes_framed (by decide) (by decide)]

/-- The line of an attribute, a constant or a field has a mark in it exactly if a name or the default has. -/
theorem closes_propertyLine {m : Member} {line ending : String}
    (good : ∀ value ∈ m.defaultValue, value.isWellFormed = true)
    (made : propertyLine ⟨.javascript, schema, options⟩ m = .ok line) (slashless : '/' ∉ ending.toList) :
    Closes (line ++ ending)
      ↔ SomeCloses (m.name :: m.type.names) ∨ ∃ value ∈ m.defaultValue, value.Closing := by
  obtain ⟨type, spelled, made⟩ := bind_eq_ok.1 made
  obtain ⟨resolved, resolution, made⟩ := bind_eq_ok.1 made
  obtain rfl := Except.ok.inj made
  have front : Closes ("@property " ++ braced type ++ " " ++ m.name) ↔ SomeCloses (m.name :: m.type.names) := by
    rw [closes_tagged (by decide), TypeSpelling.closes_spellOptional spelled, someCloses_cons, or_comm]
  rw [closes_append_slashless slashless, ← front]
  unfold RenderContext.memberDefault at resolution
  cases valued : m.defaultValue with
  | none =>
    rw [valued] at resolution
    obtain rfl := Except.ok.inj resolution
    simp
  | some value =>
    rw [valued] at resolution
    obtain ⟨literal, found, resolution⟩ := bind_eq_ok.1 resolution
    obtain rfl := Except.ok.inj resolution
    show Closes (_ ++ (" - Defaults to " ++ literal)) ↔ _
    rw [← String.append_assoc, closes_divided (by decide) (by decide), closes_ofDefault (good value valued) found]
    simp

/-- The type of a function has a mark in it exactly if the type of its result or of an argument has. -/
theorem closes_functionType {as : List Argument} {returned text : String}
    (made : functionType ⟨.javascript, schema, options⟩ as returned = .ok text) :
    Closes text ↔ Closes returned ∨ SomeCloses (as.flatMap (·.type.names)) := by
  obtain ⟨parameters, mapped, finished⟩ := bind_eq_ok.1 made
  obtain rfl := Except.ok.inj finished
  obtain ⟨types, rfl, each⟩ := exists_results_of_mapM mapped
  have parameter : ∀ a ∈ as, (Closes (if a.variadic then "..." ++ types a else types a)
      ↔ SomeCloses a.type.names) := by
    intro a inside
    obtain ⟨-, -, spelled⟩ := bind_eq_ok.1 (each a inside)
    rw [← TypeSpelling.closes_spellOptional spelled]
    split
    · exact closes_neutral_append (by decide)
    · exact Iff.rfl
  rw [closes_divided (by decide) (by decide), closes_neutral_append (by decide),
    closes_intercalate (by decide) (by decide), someCloses_map, someCloses_flatMap, or_comm]
  exact or_congr_right (exists_congr fun a => and_congr_right (parameter a))

/-- The names that the lines of an interface member show. -/
def memberNames (m : Member) : List String :=
  if m.kind = .property ∨ m.kind = .const then m.name :: m.type.names
  else if m.kind = .operation ∧ m.name.isEmpty = false then
    m.name :: (m.type.names ++ m.arguments.flatMap (·.type.names))
  else []

/-- The lines of an interface member show names, and the default of an attribute or a constant. -/
theorem closes_memberLines {m : Member} {lines : List String}
    (good : ∀ value ∈ m.defaultValue, value.isWellFormed = true)
    (made : memberLines ⟨.javascript, schema, options⟩ m = .ok lines) :
    SomeCloses lines ↔ SomeCloses (memberNames m)
      ∨ ((m.kind = .property ∨ m.kind = .const) ∧ ∃ value ∈ m.defaultValue, value.Closing) := by
  have ending : ∀ shown : Bool, '/' ∉ (if shown then " - Read-only" else "").toList := by decide
  have shows : ∀ {line : String}, (m.kind = .property ∨ m.kind = .const) →
      propertyLine ⟨.javascript, schema, options⟩ m = .ok line → ∀ shown : Bool,
      (SomeCloses [line ++ if shown then " - Read-only" else ""] ↔ SomeCloses (memberNames m)
        ∨ ((m.kind = .property ∨ m.kind = .const) ∧ ∃ value ∈ m.defaultValue, value.Closing)) := by
    intro line valued made shown
    rw [memberNames, if_pos valued, and_iff_right valued, ← closes_propertyLine good made (ending shown)]
    simp
  unfold memberLines at made
  split at made
  next kind =>
    obtain ⟨line, madeLine, finished⟩ := bind_eq_ok.1 made
    obtain rfl := Except.ok.inj finished
    exact shows (.inl kind) madeLine _
  next kind =>
    obtain ⟨line, madeLine, finished⟩ := bind_eq_ok.1 made
    obtain rfl := Except.ok.inj finished
    exact shows (.inr kind) madeLine _
  next kind named =>
    obtain ⟨returned, spelled, made⟩ := bind_eq_ok.1 made
    obtain ⟨type, madeType, finished⟩ := bind_eq_ok.1 made
    obtain rfl := Except.ok.inj finished
    have line : Closes ("@property " ++ braced type ++ " " ++ m.name)
        ↔ (SomeCloses m.type.names ∨ SomeCloses (m.arguments.flatMap (·.type.names))) ∨ Closes m.name := by
      rw [closes_tagged (by decide), closes_functionType madeType, TypeSpelling.closes_spell m.type spelled]
    rw [memberNames, if_neg (by simp [kind]), if_pos ⟨kind, named⟩, someCloses_cons, someCloses_nil, or_false, line]
    simp [kind, or_comm]
  next noProperty noConst noOperation =>
    obtain ⟨-, -, finished⟩ := bind_eq_ok.1 made
    obtain rfl := Except.ok.inj finished
    have other : ¬ (m.kind = .property ∨ m.kind = .const) := not_or.2 ⟨noProperty, noConst⟩
    rw [memberNames, if_neg other, if_neg fun operation => noOperation operation.1 operation.2]
    simp [other]

/-! ## Comments -/

/-- A comment is closed where it ends and nowhere before. -/
def ClosesAtEnd (comment : String) : Prop :=
  ∀ before behind, comment = before ++ "*/" ++ behind → behind = "\n"

/-- The lines of a comment, as they are written. -/
def body (lines : List String) : String :=
  String.join (lines.map fun line => " * " ++ line ++ "\n")

theorem closes_body (lines : List String) : Closes (body lines) ↔ SomeCloses lines := by
  induction lines with
  | nil => exact iff_of_false (not_closes_of_slashless (by decide)) (by simp)
  | cons line lines ih =>
    have split : body (line :: lines) = " * " ++ line ++ "\n" ++ body lines := by simp [body]
    have last : (" * " ++ line ++ "\n").toList.getLast? ≠ some '*' := by
      rw [String.toList_append, List.getLast?_append]
      simp
    rw [split, closes_append (.inl last), closes_framed (by decide) (by decide), ih, someCloses_cons]

/-- A doc comment is closed at its end alone exactly if no line closes it. -/
theorem closesAtEnd_docComment (lines : List String) :
    ClosesAtEnd (docComment lines) ↔ ¬ SomeCloses lines := by
  have whole : (docComment lines).toList = ("/**\n" ++ body lines).toList ++ [' ', '*', '/', '\n'] :=
    String.toList_append
  have opened : Closes ("/**\n" ++ body lines) ↔ SomeCloses lines := by
    rw [closes_append (.inl (by decide)), closes_body, or_iff_right (by decide)]
  rw [← opened]
  generalize "/**\n" ++ body lines = text at whole
  constructor
  · rintro ends ⟨before, behind, split⟩
    have late : String.ofList behind ++ " */\n" = "\n" := by
      apply ends (String.ofList before)
      apply String.toList_injective
      simp [whole, ← split]
    have longer := congrArg (·.toList.length) late
    simp at longer
  · intro plain before behind split
    have same := congrArg String.toList split
    rw [whole, String.toList_append, String.toList_append, List.append_assoc, List.append_eq_append_iff] at same
    -- The mark at the end is the only one that is not in the text in front of it.
    rcases same with ⟨more, -, rest⟩ | ⟨more, front, rest⟩
    · rcases more with - | ⟨blank, - | ⟨star, - | ⟨slash, - | ⟨newline, more⟩⟩⟩⟩
      · simp at rest
      · obtain ⟨-, last⟩ : blank = ' ' ∧ behind.toList = ['\n'] := by simpa using rest.symm
        apply String.toList_injective
        simpa using last
      · simp at rest
      · simp at rest
      · simp at rest
    · rcases more with - | ⟨star, - | ⟨slash, more⟩⟩
      · simp at rest
      · simp at rest
      · obtain ⟨rfl, rfl, -⟩ : '*' = star ∧ '/' = slash ∧ _ := by simpa using rest
        exact absurd ⟨before.toList, more, by simp [front]⟩ plain

/-! ## Blocks -/

/-- Whether the comment of a definition shows the default of a member: that of a dictionary does, and that of an
interface does for attributes and constants. -/
def showsDefault (d : Definition) (m : Member) : Bool :=
  match d.kind with
  | .dictionary => true
  | .interface | .callbackInterface => m.kind == .property || m.kind == .const
  | .enum | .typedef | .callback => false

/-- The names that the comment of a definition shows. -/
def shownNames (d : Definition) : List String :=
  match d.kind with
  | .dictionary => d.name :: (d.parent.toList ++ d.members.flatMap fun m => m.name :: m.type.names)
  | .interface | .callbackInterface => d.name :: (d.bases ++ d.members.flatMap memberNames)
  | .typedef => d.name :: d.type.toList.flatMap TypeExpr.names
  | .callback =>
    d.name :: (d.arguments.flatMap (fun a => a.name :: a.type.names) ++ d.type.toList.flatMap TypeExpr.names)
  | .enum => []

variable {d : Definition} {text : String}

theorem closes_callbackLines {lines : List String}
    (made : callbackLines ⟨.javascript, schema, options⟩ d = .ok lines) :
    SomeCloses lines ↔ SomeCloses (d.name :: (d.arguments.flatMap (fun a => a.name :: a.type.names)
      ++ d.type.toList.flatMap TypeExpr.names)) := by
  obtain ⟨parameters, mapped, made⟩ := bind_eq_ok.1 made
  obtain ⟨types, rfl, each⟩ := exists_results_of_mapM mapped
  have title : Closes ("@callback " ++ d.name) ↔ Closes d.name := closes_neutral_append (by decide)
  have parameter : SomeCloses (d.arguments.map fun a => "@param " ++ braced (types a) ++ " " ++ a.name)
      ↔ SomeCloses (d.arguments.flatMap fun a => a.name :: a.type.names) := by
    rw [someCloses_map, someCloses_flatMap]
    refine exists_congr fun a => and_congr_right fun inside => ?_
    obtain ⟨-, -, spelled⟩ := bind_eq_ok.1 (each a inside)
    rw [closes_tagged (by decide), TypeSpelling.closes_spellOptional spelled, someCloses_cons, or_comm]
  cases typed : d.type with
  | none =>
    rw [typed] at made
    obtain rfl := Except.ok.inj made
    simp [title, parameter]
  | some type =>
    rw [typed] at made
    obtain ⟨word, spelled, finished⟩ := bind_eq_ok.1 made
    obtain rfl := Except.ok.inj finished
    have returned : Closes ("@returns " ++ braced word) ↔ SomeCloses type.names := by
      rw [closes_neutral_append (by decide), braced, closes_framed (by decide) (by decide),
        TypeSpelling.closes_spell type spelled]
    simp [title, parameter, returned]

section

variable (good : ∀ m ∈ d.members, ∀ value ∈ m.defaultValue, value.isWellFormed = true)
include good

/-- Every member of a dictionary has a line. -/
theorem closes_fieldLines {lines : List String}
    (mapped : d.members.mapM (propertyLine ⟨.javascript, schema, options⟩) = .ok lines) :
    SomeCloses lines ↔ SomeCloses (d.members.flatMap fun m => m.name :: m.type.names)
      ∨ ∃ m ∈ d.members, ∃ value ∈ m.defaultValue, value.Closing := by
  obtain ⟨line, rfl, each⟩ := exists_map_of_mapM mapped
  have shown : ∀ m ∈ d.members, (Closes (line m)
      ↔ SomeCloses (m.name :: m.type.names) ∨ ∃ value ∈ m.defaultValue, value.Closing) := by
    intro m inside
    have closes := closes_propertyLine (good m inside) (each m inside) (by decide : '/' ∉ "".toList)
    rwa [String.append_empty] at closes
  rw [someCloses_map, someCloses_flatMap, ← exists_or]
  exact exists_congr fun m => (and_congr_right (shown m)).trans and_or_left

/-- The members of an interface have lines that show the defaults of attributes and constants. -/
theorem closes_interfaceLines {lists : List (List String)}
    (mapped : d.members.mapM (memberLines ⟨.javascript, schema, options⟩) = .ok lists) :
    SomeCloses lists.flatten ↔ SomeCloses (d.members.flatMap memberNames)
      ∨ ∃ m ∈ d.members, (m.kind = .property ∨ m.kind = .const) ∧ ∃ value ∈ m.defaultValue, value.Closing := by
  obtain ⟨lines, rfl, each⟩ := exists_map_of_mapM mapped
  rw [← List.flatMap_def, someCloses_flatMap, someCloses_flatMap, ← exists_or]
  refine exists_congr fun m => (and_congr_right fun inside => ?_).trans and_or_left
  exact closes_memberLines (good m inside) (each m inside)

/-- The text of a definition is a comment and, for enumerations, what stands behind it.  The comment has a mark in
it where a name or a default that it shows has one. -/
theorem block_eq_ok (made : block ⟨.javascript, schema, options⟩ d = .ok text) :
    ∃ lines tail, text = docComment lines ++ tail ∧ (d.kind ≠ .enum → tail = "")
      ∧ (SomeCloses lines ↔ SomeCloses (shownNames d)
        ∨ ∃ m ∈ d.members, showsDefault d m = true ∧ ∃ value ∈ m.defaultValue, value.Closing) := by
  have alone : ∀ lines : List String, docComment lines = docComment lines ++ "" := fun _ => String.append_empty.symm
  unfold block at made
  unfold shownNames showsDefault
  split at made
  next kind =>
    obtain rfl := Except.ok.inj made
    refine ⟨_, _, Target.javascript_enumObject .., by simp [kind], ?_⟩
    have plain : ¬ Closes ("@enum " ++ braced "string") := by decide
    simp [kind, plain]
  next kind =>
    obtain ⟨aliased, spelled, finished⟩ := bind_eq_ok.1 made
    obtain rfl := Except.ok.inj finished
    refine ⟨_, "", alone _, fun _ => rfl, ?_⟩
    have type : Closes aliased ↔ SomeCloses (d.type.toList.flatMap TypeExpr.names) := by
      unfold RenderContext.typeOr at spelled
      cases typed : d.type with
      | none =>
        rw [typed] at spelled
        obtain rfl := Except.ok.inj spelled
        simpa using (by decide : ¬ Closes "*")
      | some type =>
        rw [typed] at spelled
        simpa using TypeSpelling.closes_spell type spelled
    have line := closes_tagged (by decide : Neutral "@typedef ") aliased d.name
    simp [kind, line, type, or_comm]
  next kind =>
    obtain ⟨lines, madeLines, finished⟩ := bind_eq_ok.1 made
    obtain rfl := Except.ok.inj finished
    refine ⟨_, "", alone _, fun _ => rfl, ?_⟩
    simp only [kind, closes_callbackLines madeLines]
    simp
  next kind =>
    obtain ⟨fields, mapped, finished⟩ := bind_eq_ok.1 made
    obtain rfl := Except.ok.inj finished
    refine ⟨_, "", alone _, fun _ => rfl, ?_⟩
    have base : Closes (d.parent.getD "object") ↔ SomeCloses d.parent.toList := by
      cases d.parent with
      | none => simpa using (by decide : ¬ Closes "object")
      | some base => simp
    rw [someCloses_cons, closes_tagged (by decide), base, closes_fieldLines good mapped]
    simp only [kind, someCloses_cons, someCloses_append, true_and]
    tauto
  all_goals
    next kind =>
      obtain ⟨lists, mapped, finished⟩ := bind_eq_ok.1 made
      obtain rfl := Except.ok.inj finished
      refine ⟨_, "", alone _, fun _ => rfl, ?_⟩
      have title : Closes ("@interface " ++ d.name) ↔ Closes d.name := closes_neutral_append (by decide)
      have bases : SomeCloses (d.bases.map ("@extends " ++ ·)) ↔ SomeCloses d.bases := by
        rw [someCloses_map]
        exact exists_congr fun base => and_congr_right fun _ => closes_neutral_append (by decide)
      rw [List.cons_append, someCloses_cons, someCloses_append, title, bases, closes_interfaceLines good mapped]
      simp [kind, or_assoc]

end

end JavaScript

/-! ## What is read -/

theorem Token.slashless_of_isIdentifier {name : String} (identifier : isIdentifier name = true) : '/' ∉ name.toList := by
  unfold isIdentifier at identifier
  split at identifier
  · cases identifier
  · next c rest chars =>
    rw [Bool.and_eq_true, List.all_eq_true] at identifier
    rw [chars]
    rintro (_ | ⟨_, slash⟩)
    · exact absurd identifier.1 (by simp [startsIdentifier, show Text.isAlphabetic '/' = false by decide +kernel])
    · exact absurd (identifier.2 _ slash) (by decide +kernel)

/-- No name in a type has a slash in it. -/
def TypeExpr.Slashless (t : TypeExpr) : Prop :=
  ∀ name ∈ t.names, '/' ∉ name.toList

namespace TypeExpr

theorem slashless_of_isTypeName {name : String} (known : isTypeName name = true) : '/' ∉ name.toList := by
  simp only [isTypeName, Bool.or_eq_true, Bool.and_eq_true] at known
  rcases known with phrase | ⟨⟨identifier, -⟩, -⟩
  · obtain ⟨words, found⟩ := Option.isSome_iff_exists.1 phrase
    have plain : ∀ entry ∈ phrases, '/' ∉ entry.1.toList := by decide
    exact plain _ (mem_of_lookup found)
  · exact Token.slashless_of_isIdentifier identifier

mutual
theorem slashless_of_isWellFormed : ∀ t : TypeExpr, t.isWellFormed = true → t.Slashless
  | .named name, good => by
    rw [isWellFormed] at good
    simpa [Slashless, names] using slashless_of_isTypeName good
  | .sequence element, good => by
    rw [isWellFormed] at good
    exact slashless_of_isWellFormed element good
  | .nullable inner, good => by
    rw [isWellFormed, Bool.and_eq_true] at good
    exact slashless_of_isWellFormed inner good.2
  | .union members, good => by
    rw [isWellFormed, Bool.and_eq_true] at good
    exact slashless_of_areWellFormed members good.2
  | .generic name arguments, good => by
    simp only [isWellFormed, Bool.and_eq_true] at good
    rw [Slashless, names, List.forall_mem_cons]
    exact ⟨slashless_of_isTypeName good.1.1.1, slashless_of_areWellFormed arguments good.2⟩
theorem slashless_of_areWellFormed :
    ∀ ts : List TypeExpr, areWellFormed ts = true → ∀ name ∈ namesList ts, '/' ∉ name.toList
  | [], _ => by simp [namesList]
  | t :: rest, goods => by
    rw [areWellFormed, Bool.and_eq_true] at goods
    rw [namesList, List.forall_mem_append]
    exact ⟨slashless_of_isWellFormed t goods.1, slashless_of_areWellFormed rest goods.2⟩
end

end TypeExpr

/-- No name in an argument has a slash in it. -/
def Argument.Slashless (a : Argument) : Prop :=
  '/' ∉ a.name.toList ∧ a.type.Slashless

/-- No name that a doc comment may show of a member has a slash in it. -/
structure Member.Slashless (m : Member) : Prop where
  name : '/' ∉ m.name.toList
  type : m.type.Slashless
  arguments : ∀ a ∈ m.arguments, a.Slashless

/-- No name that a doc comment may show of a definition has a slash in it. -/
structure Definition.Slashless (d : Definition) : Prop where
  name : '/' ∉ d.name.toList
  bases : ∀ base ∈ d.bases, '/' ∉ base.toList
  type : ∀ t ∈ d.type, t.Slashless
  arguments : ∀ a ∈ d.arguments, a.Slashless
  members : ∀ m ∈ d.members, m.Slashless

theorem Member.Slashless.memberNames {m : Member} (plain : m.Slashless) :
    ∀ name ∈ JavaScript.memberNames m, '/' ∉ name.toList := by
  have own : ∀ name ∈ m.name :: m.type.names, '/' ∉ name.toList := List.forall_mem_cons.2 ⟨plain.name, plain.type⟩
  unfold JavaScript.memberNames
  split_ifs
  · exact own
  · rw [← List.cons_append, List.forall_mem_append]
    refine ⟨own, fun name inside => ?_⟩
    obtain ⟨a, listed, inside⟩ := List.mem_flatMap.1 inside
    exact (plain.arguments a listed).2 name inside
  · exact fun name inside => absurd inside List.not_mem_nil

theorem Definition.Slashless.shownNames {d : Definition} (plain : d.Slashless) :
    ∀ name ∈ JavaScript.shownNames d, '/' ∉ name.toList := by
  have type : ∀ name ∈ d.type.toList.flatMap TypeExpr.names, '/' ∉ name.toList := by
    intro name inside
    obtain ⟨t, typed, inside⟩ := List.mem_flatMap.1 inside
    exact plain.type t (Option.mem_toList.1 typed) name inside
  have members : ∀ name ∈ d.members.flatMap JavaScript.memberNames, '/' ∉ name.toList := by
    intro name inside
    obtain ⟨m, listed, inside⟩ := List.mem_flatMap.1 inside
    exact (plain.members m listed).memberNames name inside
  unfold JavaScript.shownNames
  cases d.kind with
  | dictionary =>
    refine List.forall_mem_cons.2 ⟨plain.name, List.forall_mem_append.2 ⟨fun base inherits => ?_, fun name inside => ?_⟩⟩
    · exact plain.bases base (List.mem_append_left _ inherits)
    · obtain ⟨m, listed, inside⟩ := List.mem_flatMap.1 inside
      rcases List.mem_cons.1 inside with rfl | inside
      · exact (plain.members m listed).name
      · exact (plain.members m listed).type name inside
  | interface | callbackInterface =>
    exact List.forall_mem_cons.2 ⟨plain.name, List.forall_mem_append.2 ⟨plain.bases, members⟩⟩
  | typedef => exact List.forall_mem_cons.2 ⟨plain.name, type⟩
  | callback =>
    refine List.forall_mem_cons.2 ⟨plain.name, List.forall_mem_append.2 ⟨fun name inside => ?_, type⟩⟩
    obtain ⟨a, listed, inside⟩ := List.mem_flatMap.1 inside
    rcases List.mem_cons.1 inside with rfl | inside
    · exact (plain.arguments a listed).1
    · exact (plain.arguments a listed).2 name inside
  | enum => exact fun name inside => absurd inside List.not_mem_nil

/-- The name of a member whose kind has no name of its own. -/
def MemberKind.title? : MemberKind → Option String
  | .constructor => some "constructor"
  | .iterable => some "iterable"
  | .maplike => some "maplike"
  | .setlike => some "setlike"
  | .stringifier => some ""
  | .field | .property | .operation | .const => none

namespace Grammar

open Token (Located)

theorem titled_member {kind : DefinitionKind} {owner : String} {depth : Nat} {toks rest : List Located} {m : Member}
    (ran : member kind owner depth toks = .ok (m, rest)) : ∀ title ∈ m.kind.title?, m.name = title := by
  obtain ⟨outer, r₁, -, inner, read, rfl⟩ := member_eq_ok.1 ran
  show ∀ title ∈ inner.kind.title?, inner.name = title
  rcases ite_eq_ok.1 read with ⟨-, read⟩ | ⟨-, read⟩
  · obtain ⟨required, r₁, -, as, r₂, -, t, r₃, -, name, r₄, -, value, r₅, -, -, rfl⟩ := field_eq_ok.1 read
    simp [MemberKind.title?]
  · rcases interfaceMember_eq_ok.1 read with ⟨r₁, -, read⟩ | ⟨-, read⟩ | ⟨-, -, rfl⟩ | ⟨-, -, -, read⟩
    · obtain ⟨t, r₁, -, name, r₂, -, r₃, -, value, r₄, -, -, rfl⟩ := constant_eq_ok.1 read
      simp [MemberKind.title?]
    · obtain ⟨as, r₁, -, -, rfl⟩ := constructorOf_eq_ok.1 read
      simp [MemberKind.title?]
    · simp [MemberKind.title?]
    · rcases modified_eq_ok.1 read with ⟨r₁, -, read⟩ | ⟨c, listed, -, read⟩ | ⟨-, -, read⟩
      · obtain ⟨t, r₁, -, name, r₂, -, -, rfl⟩ := property_eq_ok.1 read
        simp [MemberKind.title?]
      · obtain ⟨first, r₁, -, second, r₂, -, r₃, -, -, rfl⟩ := collection_eq_ok.1 read
        simp only [collections, List.mem_cons, List.not_mem_nil, or_false] at listed
        rcases listed with rfl | rfl | rfl <;> simp [MemberKind.title?]
      · obtain ⟨t, r₁, -, name, r₂, -, as, r₃, -, -, rfl⟩ := operation_eq_ok.1 read
        simp [MemberKind.title?]

end Grammar

theorem Argument.slashless_of_areWellFormed {as : List Argument} (good : areWellFormed as = true) :
    ∀ a ∈ as, a.Slashless := by
  intro a inside
  obtain ⟨named, typed, -⟩ := isWellFormed_iff.1 ((areWellFormed_iff as).1 good a inside)
  exact ⟨Token.slashless_of_isIdentifier named, TypeExpr.slashless_of_isWellFormed a.type typed⟩

theorem Member.slashless_of_kinded {m : Member} {kind : DefinitionKind} {owner : String}
    (good : m.isWellFormed = true) (kinded : m.Kinded kind owner) (titled : ∀ title ∈ m.kind.title?, m.name = title)
    (plainOwner : '/' ∉ owner.toList) : m.Slashless where
  name := by
    unfold isWellFormed at good
    cases known : m.kind with
    | constructor | iterable | maplike | setlike | stringifier =>
      rw [known] at titled
      rw [titled _ rfl]
      decide
    | field | property | const =>
      simp only [known, Bool.and_eq_true] at good
      exact Token.slashless_of_isIdentifier (by simp only [good])
    | operation =>
      simp only [known, Bool.and_eq_true, Bool.or_eq_true, String.isEmpty_iff] at good
      rcases good.2.1.1.1 with nameless | named
      · rw [nameless]
        decide
      · exact Token.slashless_of_isIdentifier named
  type := by
    by_cases constructed : m.kind = .constructor
    · rw [kinded.constructor constructed]
      simpa [TypeExpr.Slashless, TypeExpr.names] using plainOwner
    · exact TypeExpr.slashless_of_isWellFormed m.type (wellFormed_type good kinded constructed)
  arguments := Argument.slashless_of_areWellFormed (wellFormed_arguments good kinded)

/-- What is read from a text has no slash in it but in strings. -/
theorem Schema.slashless_of_parse {text : String} {ds : List Definition} (read : Schema.parse text = .ok ds) :
    ∀ d ∈ ds, d.Slashless := by
  intro d inside
  obtain ⟨toks, lexed, rest, ran⟩ := Schema.parse_eq_ok.1 read
  have titled := Grammar.forall_members_definitions Grammar.titled_member ran
  have kinded := (Grammar.kinded_definitions _ (Token.isWritable_of_lexFrom lexed) ran).1 d inside
  obtain ⟨named, parent, implements, members, -, -, type, arguments⟩ :=
    Definition.isWellFormed_iff.1 (Schema.parse_shape read d inside)
  have plainName := Token.slashless_of_isIdentifier named
  refine ⟨plainName, ?_, ?_, Argument.slashless_of_areWellFormed arguments, ?_⟩
  · intro base inherits
    apply Token.slashless_of_isIdentifier
    rcases List.mem_append.1 inherits with inherits | inherits
    · exact (Option.all_eq_true _ _).1 parent base (Option.mem_toList.1 inherits)
    · exact (Option.all_eq_true _ _).1 implements base (Option.mem_toList.1 inherits)
  · intro t typed
    rw [Option.mem_def.1 typed] at type
    exact t.slashless_of_isWellFormed type
  · intro m listed
    exact Member.slashless_of_kinded (members m listed) (kinded.each m listed) (titled d inside m listed) plainName

theorem Definition.Gathers.slashless {fragments : List Definition} {name : String} {d : Definition}
    (gathers : Gathers fragments name d) (each : ∀ f ∈ fragments, f.Slashless) : d.Slashless := by
  have members := gathers.forall_members fun f inside => (each f inside).members
  obtain ⟨first, others, split, rfl⟩ := gathers
  have inside : first ∈ fragments := by
    have listed : first ∈ first :: others := List.mem_cons_self ..
    rw [← split] at listed
    exact (List.mem_filter.1 listed).1
  have plain := each first inside
  exact ⟨plain.name, plain.bases, plain.type, plain.arguments, members⟩

theorem Schema.slashless_of_collected {settings : Settings} {fetched : List (Locator × Except FetchFault Document)}
    {collection : Collection} {enabled : Bool} {schema : List Definition}
    (collected : Collection.collect settings fetched = .ok collection) (unrenamed : settings.selection.renames = [])
    (merged : collection.registry.merge enabled = .ok schema) : ∀ d ∈ schema, d.Slashless := by
  intro d inside
  obtain ⟨name, gathers⟩ := gathers_of_collected collected merged inside
  refine gathers.slashless fun f kept => ?_
  obtain ⟨original, rfl, text, ds, read, listed⟩ := exists_parse_of_kept kept
  have same : settings.selection.rename original = original := by
    rw [Selection.rename, unrenamed]
    rfl
  rw [same]
  exact slashless_of_parse read original listed

/-- Renaming leaves defaults as they were read. -/
theorem Schema.wellFormed_defaults {settings : Settings} {fetched : List (Locator × Except FetchFault Document)}
    {collection : Collection} {enabled : Bool} {schema : List Definition}
    (collected : Collection.collect settings fetched = .ok collection)
    (merged : collection.registry.merge enabled = .ok schema) :
    ∀ d ∈ schema, ∀ m ∈ d.members, ∀ value ∈ m.defaultValue, value.isWellFormed = true := by
  refine forall_members_of_collected ?_ (fun _ _ good => good) collected merged
  intro text ds read d inside m listed
  obtain ⟨toks, lexed, rest, ran⟩ := Schema.parse_eq_ok.1 read
  have kinded := (Grammar.kinded_definitions _ (Token.isWritable_of_lexFrom lexed) ran).1 d inside
  obtain ⟨-, -, -, members, -⟩ := Definition.isWellFormed_iff.1 (Schema.parse_shape read d inside)
  exact Member.wellFormed_defaultValue (members m listed) (kinded.each m listed)

/-! ## Comments of a rendering -/

namespace Target

/-- The JavaScript module of documents that were read, collected and merged is a comment for each definition, and
for enumerations their objects behind it.  The comment of a definition is closed at its end and nowhere before
exactly if no name and no string default that it shows has the closing mark in it.  Without rules of renaming no
name has. -/
theorem doc_comments_close_at_end_iff {settings : Settings}
    {fetched : List (Locator × Except FetchFault Document)} {collection : Collection} {enabled : Bool}
    {schema : List Definition} {options : RenderOptions} {files : List SourceFile}
    (collected : Collection.collect settings fetched = .ok collection)
    (merged : collection.registry.merge enabled = .ok schema)
    (rendered : Target.javascript.render schema options = .ok files) :
    ∃ comment tail : Definition → String,
      files = [⟨options.bundle, "'use strict';\n" ++ String.join (schema.map fun d => "\n" ++ (comment d ++ tail d))
          ++ javascriptExports schema⟩]
        ∧ ∀ d ∈ schema, (∃ lines, comment d = JavaScript.docComment lines) ∧ (d.kind ≠ .enum → tail d = "")
          ∧ (JavaScript.ClosesAtEnd (comment d) ↔ (∀ name ∈ JavaScript.shownNames d, ¬ Closes name)
            ∧ ∀ m ∈ d.members, JavaScript.showsDefault d m = true →
              ∀ text, m.defaultValue = some ⟨.string, text⟩ → ¬ Closes text)
          ∧ (settings.selection.renames = [] → ∀ name ∈ JavaScript.shownNames d, ¬ Closes name) := by
  have good := Schema.wellFormed_defaults collected merged
  obtain ⟨text, rfl, each⟩ := javascript_text rendered
  choose! lines tail split tailless closes using
    fun d (inside : d ∈ schema) => JavaScript.block_eq_ok (good d inside) (each d inside)
  refine ⟨fun d => JavaScript.docComment (lines d), tail, ?_, ?_⟩
  · rw [List.map_congr_left fun d inside => congrArg ("\n" ++ ·) (split d inside)]
  · intro d inside
    refine ⟨⟨lines d, rfl⟩, tailless d inside, ?_, fun unrenamed name shown => ?_⟩
    · rw [JavaScript.closesAtEnd_docComment, closes d inside, not_or]
      refine and_congr (by simp [SomeCloses]) ⟨?_, ?_⟩
      · intro unmarked m listed shown text valued closing
        exact unmarked ⟨m, listed, shown, ⟨.string, text⟩, valued, rfl, closing⟩
      · rintro unmarked ⟨m, listed, shown, ⟨kind, text⟩, valued, rfl, closing⟩
        exact unmarked m listed shown text valued closing
    · have plain := Schema.slashless_of_collected collected unrenamed merged d inside
      exact not_closes_of_slashless (plain.shownNames name shown)

/-- A dictionary with a string default. -/
def filterDictionary (accept : String) : Definition :=
  { kind := .dictionary, name := "Filter",
    members := [{ kind := .field, name := "accept", type := .named "DOMString",
                  defaultValue := some ⟨.string, accept⟩ }] }

/-- The text of such a dictionary. -/
def filterDocument (accept : String) : Document :=
  ⟨.localPath "f", "dictionary Filter \x7b DOMString accept = \"" ++ accept ++ "\"; \x7d;"⟩

/-- A default with a star and a slash in it that do not meet. -/
theorem doc_comments_close_filter : ∃ collection files comment,
    Collection.collect {} [(.localPath "f", .ok (filterDocument "/ *"))] = .ok collection
      ∧ collection.registry.merge true = .ok [filterDictionary "/ *"]
      ∧ Target.javascript.render [filterDictionary "/ *"] {} = .ok files
      ∧ files = [⟨"bindings.js", "'use strict';\n\n" ++ comment⟩] ∧ JavaScript.ClosesAtEnd comment := by
  have read : Schema.parse (filterDocument "/ *").contents = .ok [filterDictionary "/ *"] := by decide +kernel
  obtain ⟨collection, collected, merged⟩ := collect_plain (filterDocument "/ *") [filterDictionary "/ *"] rfl read rfl
  obtain ⟨files, rendered⟩ : ∃ files, Target.javascript.render [filterDictionary "/ *"] {} = .ok files := ⟨_, rfl⟩
  obtain ⟨comment, tail, whole, each⟩ := doc_comments_close_at_end_iff collected merged rendered
  obtain ⟨-, alone, closes, unmarked⟩ := each _ (List.mem_singleton_self _)
  refine ⟨collection, files, comment (filterDictionary "/ *"), collected, merged, rendered, ?_,
    closes.2 ⟨unmarked rfl, ?_⟩⟩
  · have exports : javascriptExports [filterDictionary "/ *"] = "" := by decide
    have front : "'use strict';\n\n" = "'use strict';\n" ++ "\n" := by decide
    have lone : ∀ text : String, String.join [text] = text := fun text => by simp
    rw [whole, exports, front, List.map_singleton, lone, alone (by decide), String.append_empty, String.append_empty,
      String.append_assoc]
  · intro m listed _ text valued
    obtain rfl := List.mem_singleton.1 listed
    obtain rfl : "/ *" = text := congrArg DefaultValue.text (Option.some.inj valued)
    decide

/-- A default that closes the comment it is shown in. -/
theorem doc_comment_ends_in_default :
    Schema.parse (filterDocument "*/*").contents = .ok [filterDictionary "*/*"]
      ∧ Target.javascript.render [filterDictionary "*/*"] {} = .ok [⟨"bindings.js", "'use strict';\n\n/**\n"
        ++ " * @typedef \x7bobject\x7d Filter\n * @property \x7bstring=\x7d accept - Defaults to '*/*'\n */\n"⟩]
      ∧ ¬ JavaScript.ClosesAtEnd ("/**\n * @typedef \x7bobject\x7d Filter\n"
        ++ " * @property \x7bstring=\x7d accept - Defaults to '*/*'\n */\n") := by
  refine ⟨by decide +kernel, by decide +kernel, fun closes => ?_⟩
  have early := closes ("/**\n * @typedef \x7bobject\x7d Filter\n * @property \x7bstring=\x7d accept - Defaults to '")
    "*'\n */\n" (by decide)
  exact absurd early (by decide)

end Target

end IdlBindings
