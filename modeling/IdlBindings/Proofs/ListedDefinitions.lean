/-
# IdlBindings.Proofs.ListedDefinitions: a definition reads the same from its written form and from a list.

A definition without extended attributes can stand in a descriptive list: the title is its head, and its
values or members are the terms, without their semicolons.  The text that is read from such a list has other
blanks than the written form but the same tokens.  Titles and terms lose the whitespace at their ends, and
the head of a definition and the declaration of a member have none there.
-/
import IdlBindings.Proofs.DescriptiveLists
import IdlBindings.Proofs.ReadDefinitions

namespace IdlBindings

open Token (isIdentifier isNumber isQuotable Spells)

/-! ## Definitions in parts -/

/-- The written form of a member without its semicolon. -/
def Member.declaration (member : Member) : String :=
  bracketed " " (Argument.printAttributes member.attributes) ++ wordIf member.isStatic "static "
    ++ member.printBody

namespace Definition

/-- The written form of a definition without extended attributes, up to its semicolon or to its values,
members or arguments. -/
def head (definition : Definition) : String :=
  wordIf definition.isPartial "partial " ++
  match definition.kind with
  | .enum => "enum " ++ definition.name
  | .typedef => "typedef " ++ (definition.type.getD (.named "any")).print ++ " " ++ definition.name
  | .callback => "callback " ++ definition.name ++ " = " ++ (definition.type.getD (.named "undefined")).print
  | .interface | .dictionary | .callbackInterface =>
    definition.kind.keyword ++ " " ++ definition.name ++ definition.parent.elim "" (" : " ++ ·)

/-- What a definition holds, each part as it is written on its own. -/
def items (definition : Definition) : List String :=
  match definition.kind with
  | .enum => definition.values
  | .typedef => []
  | .callback => Argument.printList definition.arguments
  | .interface | .dictionary | .callbackInterface => definition.members.map Member.declaration

end Definition

/-! ## Whitespace at the ends -/

namespace Text

/-- A text begins with a character that is not whitespace. -/
def StartsSolid (text : String) : Prop :=
  text.toList.head?.any (fun c => !isWhitespace c) = true

/-- A text ends with a character that is not whitespace. -/
def EndsSolid (text : String) : Prop :=
  text.toList.reverse.head?.any (fun c => !isWhitespace c) = true

instance (text : String) : Decidable (StartsSolid text) :=
  inferInstanceAs (Decidable (_ = true))

instance (text : String) : Decidable (EndsSolid text) :=
  inferInstanceAs (Decidable (_ = true))

section

variable {a b : String}

theorem StartsSolid.append (starts : StartsSolid a) (b : String) : StartsSolid (a ++ b) := by
  rw [StartsSolid, String.toList_append]
  cases chars : a.toList with
  | nil => simp [StartsSolid, chars] at starts
  | cons c cs => simpa [StartsSolid, chars] using starts

theorem EndsSolid.append (a : String) (ends : EndsSolid b) : EndsSolid (a ++ b) := by
  rw [EndsSolid, String.toList_append, List.reverse_append]
  cases chars : b.toList.reverse with
  | nil => simp [EndsSolid, chars] at ends
  | cons c cs => simpa [EndsSolid, chars] using ends

theorem trim_of_solid (starts : StartsSolid a) (ends : EndsSolid a) : trim a.toList = a.toList := by
  have stays : ∀ {cs : List Char}, cs.head?.any (fun c => !isWhitespace c) = true → trimStart cs = cs := by
    intro cs solid
    cases cs with
    | nil => rfl
    | cons c cs => exact List.dropWhile_cons_of_neg (by simpa using solid)
  show (trimStart (trimStart a.toList).reverse).reverse = a.toList
  rw [stays starts, stays ends, List.reverse_reverse]

theorem solid_of_all {c : Char} {cs : List Char} (chars : a.toList = c :: cs)
    (solid : ∀ d ∈ c :: cs, isWhitespace d = false) : StartsSolid a ∧ EndsSolid a := by
  constructor
  · simp [StartsSolid, chars, solid c (List.mem_cons_self ..)]
  · rw [EndsSolid, chars, List.head?_reverse, List.getLast?_eq_some_getLast (List.cons_ne_nil c cs), Option.any_some,
      solid _ (List.getLast_mem _)]
    rfl

end

end Text

open Text (StartsSolid EndsSolid)

theorem Token.solid_identifier {name : String} (named : isIdentifier name = true) :
    StartsSolid name ∧ EndsSolid name := by
  unfold isIdentifier at named
  split at named
  · cases named
  · next c rest chars =>
    rw [Bool.and_eq_true, List.all_eq_true] at named
    refine Text.solid_of_all chars ?_
    rw [List.forall_mem_cons]
    exact ⟨(startsIdentifier_exclusive named.1).1, fun d inside => not_isWhitespace_of_continues (named.2 d inside)⟩

theorem Token.solid_number {text : String} (number : isNumber text = true) : StartsSolid text ∧ EndsSolid text := by
  unfold isNumber at number
  split at number
  · cases number
  · next c rest chars =>
    rw [Bool.and_eq_true, List.isEmpty_iff] at number
    refine Text.solid_of_all chars ?_
    rw [List.forall_mem_cons]
    refine ⟨(startsNumber_exclusive number.1).1, fun d inside => ?_⟩
    rw [← Bool.not_eq_true]
    intro blank
    have goes := breaksNumber_of_mem number.2 d inside
    rw [breaksNumber_of_isWhitespace blank] at goes
    cases goes

namespace TypeExpr

theorem solid_typeName {name : String} (known : isTypeName name = true) : StartsSolid name ∧ EndsSolid name := by
  have several : ∀ entry ∈ phrases, StartsSolid entry.1 ∧ EndsSolid entry.1 := by
    decide
  cases found : phrases.lookup name with
  | some words => exact several _ (mem_of_lookup found)
  | none =>
    simp only [isTypeName, found, Option.isSome_none, Bool.false_or, Bool.and_eq_true] at known
    exact Token.solid_identifier known.1.1

theorem solid_print (t : TypeExpr) (h : t.isWellFormed = true) : StartsSolid t.print ∧ EndsSolid t.print := by
  cases t with
  | named name =>
    rw [isWellFormed] at h
    rw [print]
    exact solid_typeName h
  | sequence element =>
    rw [print]
    exact ⟨(StartsSolid.append (by decide) _).append _, EndsSolid.append _ (by decide)⟩
  | nullable inner =>
    rw [isWellFormed, Bool.and_eq_true] at h
    rw [print]
    exact ⟨(solid_print inner h.2).1.append _, EndsSolid.append _ (by decide)⟩
  | union members =>
    rw [print]
    exact ⟨(StartsSolid.append (by decide) _).append _, EndsSolid.append _ (by decide)⟩
  | generic name arguments =>
    simp only [isWellFormed, Bool.and_eq_true] at h
    rw [print]
    exact ⟨(((solid_typeName h.1.1.1).1.append _).append _).append _, EndsSolid.append _ (by decide)⟩

end TypeExpr

theorem DefaultValue.endsSolid_print {value : DefaultValue} (h : value.isWellFormed = true) :
    EndsSolid value.print := by
  have words : ∀ word ∈ numberWords, EndsSolid word := by decide
  obtain ⟨kind, text⟩ := value
  cases kind with
  | number =>
    by_cases number : isNumber text = true
    · exact (Token.solid_number number).2
    · exact words text (by simpa [isWellFormed, number] using h)
  | boolean =>
    rcases Bool.or_eq_true _ _ ▸ h with same | same
    all_goals
      obtain rfl := eq_of_beq same
      decide
  | string => exact EndsSolid.append _ (by decide)
  | null => exact (by decide : EndsSolid "null")
  | sequence => exact (by decide : EndsSolid "[]")
  | dictionary => exact (by decide : EndsSolid "\x7b\x7d")

/-- A name with its default, which it may not have. -/
theorem DefaultValue.endsSolid_named (before : String) {name : String} {value : Option DefaultValue}
    (named : isIdentifier name = true) (valued : value.all (·.isWellFormed) = true) :
    EndsSolid (before ++ name ++ printOption value) := by
  cases value with
  | none =>
    rw [printOption, String.append_empty]
    exact EndsSolid.append _ (Token.solid_identifier named).2
  | some value => exact EndsSolid.append _ (EndsSolid.append _ (endsSolid_print (by simpa using valued)))

theorem Argument.endsSolid_parenthesized (arguments : List Argument) : EndsSolid (printParenthesized arguments) :=
  EndsSolid.append _ (by decide)

/-- A word that may be left out does not begin with whitespace. -/
theorem startsSolid_wordIf (condition : Bool) (word : String) {text : String} (word_starts : StartsSolid word)
    (starts : StartsSolid text) : StartsSolid (wordIf condition word ++ text) := by
  cases condition with
  | false => simpa [wordIf] using starts
  | true => exact StartsSolid.append word_starts _

theorem startsSolid_bracketed (after : String) (texts : List String) {text : String} (starts : StartsSolid text) :
    StartsSolid (bracketed after texts ++ text) := by
  unfold bracketed
  split
  · simpa using starts
  · exact (((StartsSolid.append (by decide) _).append _).append _).append _

namespace Member

variable {member : Member}

theorem solid_collection {keyword : String} (starts : StartsSolid keyword) :
    StartsSolid (printBody.collection member keyword) ∧ EndsSolid (printBody.collection member keyword) :=
  ⟨((((startsSolid_wordIf _ _ (by decide) starts).append _).append _).append _).append _,
    EndsSolid.append _ (by decide)⟩

theorem startsSolid_specials {specials : List String} {text : String}
    (h : specials.all Grammar.specialWords.contains = true) (starts : StartsSolid text) :
    StartsSolid (String.join (specials.map (· ++ " ")) ++ text) := by
  have words : ∀ word ∈ Grammar.specialWords, StartsSolid word := by decide
  cases specials with
  | nil => simpa using starts
  | cons special specials =>
    rw [List.all_cons, Bool.and_eq_true] at h
    rw [List.map_cons, String.join_cons]
    exact (((words special (by simpa using h.1)).append _).append _).append _

theorem solid_body (h : member.isWellFormed = true) : StartsSolid member.printBody ∧ EndsSolid member.printBody := by
  rw [isWellFormed, Bool.and_eq_true] at h
  replace h := h.2
  unfold printBody
  cases kind : member.kind with
  | field =>
    simp only [kind, Bool.and_eq_true] at h
    obtain ⟨⟨named, typed⟩, valued⟩ := h
    have starts := startsSolid_wordIf member.required "required " (by decide)
      (TypeExpr.solid_print _ typed).1
    exact ⟨((starts.append _).append _).append _, DefaultValue.endsSolid_named _ named valued⟩
  | property =>
    simp only [kind, Bool.and_eq_true] at h
    have starts := startsSolid_wordIf member.readonly "readonly " (by decide)
      (show StartsSolid "attribute " by decide)
    exact ⟨((starts.append _).append _).append _, EndsSolid.append _ (Token.solid_identifier h.1).2⟩
  | operation =>
    simp only [kind, Bool.and_eq_true] at h
    have starts := startsSolid_specials h.1.2 (TypeExpr.solid_print _ h.1.1.2).1
    exact ⟨(starts.append _).append _, EndsSolid.append _ (Argument.endsSolid_parenthesized _)⟩
  | constructor => exact ⟨StartsSolid.append (by decide) _, EndsSolid.append _ (Argument.endsSolid_parenthesized _)⟩
  | const =>
    simp only [kind, Bool.and_eq_true] at h
    obtain ⟨⟨named, typed⟩, valued⟩ := h
    have valued : member.defaultValue.all (·.isWellFormed) = true := by
      cases value : member.defaultValue with
      | none => rfl
      | some value => simpa [value] using valued
    exact ⟨(((StartsSolid.append (by decide) _).append _).append _).append _,
      DefaultValue.endsSolid_named _ named valued⟩
  | iterable | maplike | setlike => exact solid_collection (by decide)
  | stringifier => exact (by decide : StartsSolid "stringifier" ∧ EndsSolid "stringifier")

theorem trim_declaration (h : member.isWellFormed = true) :
    Text.trim member.declaration.toList = member.declaration.toList := by
  obtain ⟨starts, ends⟩ := solid_body h
  have starts := startsSolid_bracketed " " (Argument.printAttributes member.attributes)
    (startsSolid_wordIf member.isStatic "static " (by decide) starts)
  rw [← String.append_assoc] at starts
  exact Text.trim_of_solid starts (EndsSolid.append _ ends)

end Member

/-! ## The text of a list -/

theorem Markup.declarationText_block {title word : String} (items : List String)
    (listed : word ∈ ["partial ", "interface ", "dictionary ", "callback interface "])
    (begins : word.toList <+: title.toList) :
    declarationText title items
      = title ++ " \x7b\n" ++ "\n".intercalate (items.map fun member => "    " ++ member ++ ";") ++ "\n\x7d;" := by
  obtain ⟨rest, chars⟩ := begins
  simp only [List.mem_cons, List.not_mem_nil, or_false] at listed
  rcases listed with rfl | rfl | rfl | rfl
  all_goals
    simp only [declarationText, ← chars]
    rfl

theorem Markup.declarationText_enum (name : String) (items : List String) :
    declarationText ("enum " ++ name) items
      = "enum " ++ name ++ " \x7b\n" ++ ",\n".intercalate (items.map fun value => "    " ++ quoted value)
        ++ "\n\x7d;" := by
  have lines : (items.map fun value => "    \"" ++ value ++ "\"")
      = items.map fun value => "    " ++ quoted value := by
    refine List.map_congr_left fun value _ => ?_
    rw [quoted, ← String.append_assoc, ← String.append_assoc]
    rfl
  rw [← lines]
  simp only [declarationText, String.toList_append]
  rfl

theorem Markup.declarationText_typedef (aliased : String) (items : List String) :
    declarationText ("typedef " ++ aliased) items = "typedef " ++ aliased ++ ";" := by
  simp only [declarationText, String.toList_append]
  rfl

theorem Member.print_eq (member : Member) : member.print = member.declaration ++ ";" :=
  rfl

namespace Definition

variable {definition : Definition} {after : List Char} {rest : List Token}

theorem spells_declarations {members : List Member} (h : members.all (·.isWellFormed) = true)
    (later : Spells after rest) :
    Spells (("\n".intercalate (members.map fun member => "    " ++ member.declaration ++ ";")).toList ++ after)
      (members.flatMap Member.tokens ++ rest) := by
  have line : ∀ {member : Member}, member.isWellFormed = true → ∀ {after rest}, Spells after rest →
      Spells (("    " ++ member.declaration ++ ";").toList ++ after) (member.tokens ++ rest) := by
    intro member wf after rest later
    rw [String.append_assoc, ← Member.print_eq]
    simpa using Spells.space (.space (.space (.space (Member.spells wf later))))
  induction members with
  | nil => exact later
  | cons member members ih =>
    rw [List.all_cons, Bool.and_eq_true] at h
    cases members with
    | nil => simpa using line h.1 later
    | cons next members =>
      have := line h.1 (.newline (ih h.2))
      simpa [String.intercalate_cons_cons] using this

/-- The values of an enumeration that stands in a list. -/
theorem spells_listedValues {values : List String} (h : values.all isQuotable = true) (later : Spells after rest) :
    Spells ((",\n".intercalate (values.map fun value => "    " ++ quoted value)).toList ++ after)
      (separated (.punct ',') (values.map fun value => [.string value]) ++ rest) := by
  have each := prints_values h "    " fun later => .space (.space (.space (.space later)))
  exact Prints.intercalate ",\n" (.punct ',') (fun _ _ later => .mark ',' (by decide) (.newline later)) (fun _ => rfl)
    each after rest rfl later

theorem isPartial_of_shown (shown : definition.shown = definition) (interface : definition.kind ≠ .interface)
    (dictionary : definition.kind ≠ .dictionary) : definition.isPartial = false := by
  rw [← shown]
  unfold Definition.shown
  split
  all_goals simp_all

theorem implements_of_shown (shown : definition.shown = definition) : definition.implements = none := by
  rw [← shown]
  unfold Definition.shown
  split
  all_goals rfl

/-- The definitions that have members. -/
def hasBlock (definition : Definition) : Bool :=
  definition.kind matches .interface | .dictionary | .callbackInterface

theorem declarationText_head (block : definition.hasBlock = true) (items : List String) :
    Markup.declarationText definition.head items
      = definition.head ++ " \x7b\n" ++ "\n".intercalate (items.map fun member => "    " ++ member ++ ";")
        ++ "\n\x7d;" := by
  have begins : ∃ word ∈ ["partial ", "interface ", "dictionary ", "callback interface "],
      word.toList <+: definition.head.toList := by
    cases part : definition.isPartial with
    | true => exact ⟨"partial ", by simp, by simp [head, part, wordIf]⟩
    | false =>
      cases kind : definition.kind with
      | interface => exact ⟨"interface ", by simp, by simp [head, part, kind, wordIf, DefinitionKind.keyword]⟩
      | dictionary => exact ⟨"dictionary ", by simp, by simp [head, part, kind, wordIf, DefinitionKind.keyword]⟩
      | callbackInterface =>
        exact ⟨"callback interface ", by simp, by simp [head, part, kind, wordIf, DefinitionKind.keyword]⟩
      | enum | typedef | callback => simp [hasBlock, kind] at block
  obtain ⟨word, listed, begins⟩ := begins
  exact Markup.declarationText_block items listed begins

theorem spells_listedBlock (block : definition.hasBlock = true) (named : isIdentifier definition.name = true)
    (inherits : definition.parent.all isIdentifier = true)
    (members : definition.members.all (·.isWellFormed) = true) :
    Spells (Markup.declarationText definition.head definition.items).toList
      (tokenIf definition.isPartial (.identifier "partial") ++ (definition.bodyTokens ++ [])) := by
  have items : definition.items = definition.members.map Member.declaration := by
    unfold hasBlock at block
    unfold Definition.items
    split at block
    all_goals simp_all
  have lines : ∀ {after rest}, Spells after rest →
      Spells (("\n".intercalate (definition.members.map fun member => "    " ++ member.declaration ++ ";")
          ++ "\n").toList ++ after)
        (definition.members.flatMap Member.tokens ++ rest) := by
    intro after rest later
    simpa using spells_declarations members (.newline later)
  have body := spells_block named inherits lines .nil
  rw [declarationText_head block, items, List.map_map]
  have behind : ∀ {text ts}, Spells text ts →
      Spells ((wordIf definition.isPartial "partial ").toList ++ text)
        (tokenIf definition.isPartial (.identifier "partial") ++ ts) := fun later =>
    Spells.wordIf definition.isPartial "partial" "partial " (by decide) rfl later
  cases kind : definition.kind with
  | interface =>
    have whole := behind (.word "interface" (by decide) rfl (.space body))
    simpa [head, bodyTokens, kind, DefinitionKind.keyword, Function.comp_def] using whole
  | dictionary =>
    have whole := behind (.word "dictionary" (by decide) rfl (.space body))
    simpa [head, bodyTokens, kind, DefinitionKind.keyword, Function.comp_def] using whole
  | callbackInterface =>
    have whole := behind (.word "callback" (by decide) rfl (.space (.word "interface" (by decide) rfl (.space body))))
    simpa [head, bodyTokens, kind, DefinitionKind.keyword, Function.comp_def] using whole
  | enum | typedef | callback => simp [hasBlock, kind] at block

/-- The text of a list spells the tokens of its definition. -/
theorem spells_listed (printable : definition.isPrintable = true) (bare : definition.attributes = [])
    (kind : definition.kind ≠ .callback) :
    Spells (Markup.declarationText definition.head definition.items).toList definition.tokens := by
  obtain ⟨wf, shown, -⟩ := isPrintable_iff.1 printable
  simp only [isWellFormed, Bool.and_eq_true] at wf
  obtain ⟨⟨⟨⟨⟨⟨⟨named, inherits⟩, -⟩, members⟩, values⟩, -⟩, typed⟩, -⟩ := wf
  have tokens : definition.tokens
      = tokenIf definition.isPartial (.identifier "partial") ++ (definition.bodyTokens ++ []) := by
    rw [Definition.tokens, implementsTokens, implements_of_shown shown, bare]
    rfl
  rw [tokens]
  cases kind : definition.kind with
  | enum =>
    have whole := isPartial_of_shown shown (by simp [kind]) (by simp [kind])
    have title : definition.head = "enum " ++ definition.name := by simp [head, kind, whole, wordIf]
    have closed := Spells.newline (.mark '\x7d' (by decide) (.mark ';' (by decide) .nil))
    have text := Spells.word "enum" (by decide) rfl (.space (.word definition.name named rfl
      (.space (.mark '\x7b' (by decide) (.newline (spells_listedValues values closed))))))
    rw [title, Markup.declarationText_enum, whole]
    simpa [items, bodyTokens, kind, tokenIf] using text
  | typedef =>
    have whole := isPartial_of_shown shown (by simp [kind]) (by simp [kind])
    have title : definition.head
        = "typedef " ++ ((definition.type.getD (.named "any")).print ++ (" " ++ definition.name)) := by
      simp [head, kind, whole, wordIf, String.append_assoc]
    have own := Spells.space (.word definition.name named rfl (.mark ';' (by decide) .nil))
    have aliased := TypeExpr.prints_type _ (TypeExpr.isWellFormed_getD "any" typed (by decide)) _ _ rfl own
    have text := Spells.word "typedef" (by decide) rfl (.space aliased)
    rw [title, Markup.declarationText_typedef, whole]
    simpa [bodyTokens, kind, tokenIf] using text
  | callback => contradiction
  | interface | dictionary | callbackInterface =>
    exact spells_listedBlock (by simp [hasBlock, kind]) named inherits members

/-- The head of a definition has no whitespace at its ends. -/
theorem trim_head (wf : definition.isWellFormed = true) (kind : definition.kind ≠ .callback) :
    Text.trim definition.head.toList = definition.head.toList := by
  simp only [isWellFormed, Bool.and_eq_true] at wf
  obtain ⟨⟨⟨⟨⟨⟨⟨named, inherits⟩, -⟩, -⟩, -⟩, -⟩, -⟩, -⟩ := wf
  have name := (Token.solid_identifier named).2
  have parent : ∀ before, EndsSolid (before ++ definition.name ++ definition.parent.elim "" (" : " ++ ·)) := by
    intro before
    cases parent : definition.parent with
    | none => simpa using EndsSolid.append before name
    | some other =>
      have known : isIdentifier other = true := by simpa [parent] using inherits
      exact EndsSolid.append _ (EndsSolid.append _ (Token.solid_identifier known).2)
  have keyword : StartsSolid definition.kind.keyword := by cases definition.kind <;> decide
  have starts : ∀ {text}, StartsSolid text → StartsSolid (wordIf definition.isPartial "partial " ++ text) :=
    startsSolid_wordIf _ _ (by decide)
  unfold head
  split
  · exact Text.trim_of_solid (starts (StartsSolid.append (by decide) _))
      (EndsSolid.append _ (EndsSolid.append _ name))
  · exact Text.trim_of_solid (starts (((StartsSolid.append (by decide) _).append _).append _))
      (EndsSolid.append _ (EndsSolid.append _ name))
  · contradiction
  all_goals exact Text.trim_of_solid (starts (((keyword.append _).append _).append _)) (EndsSolid.append _ (parent _))

theorem trim_items (wf : definition.isWellFormed = true) (kind : definition.kind ≠ .callback)
    (values : ∀ value ∈ definition.values, Text.trim value.toList = value.toList) :
    ∀ item ∈ definition.items, Text.trim item.toList = item.toList := by
  simp only [isWellFormed, Bool.and_eq_true, List.all_eq_true] at wf
  obtain ⟨⟨⟨⟨⟨-, members⟩, -⟩, -⟩, -⟩, -⟩ := wf
  have declarations : ∀ item ∈ definition.members.map Member.declaration,
      Text.trim item.toList = item.toList := by
    rw [List.forall_mem_map]
    exact fun member inside => Member.trim_declaration (members member inside)
  unfold items
  split
  · exact values
  · simp
  · contradiction
  all_goals exact declarations

/-- The head is what a definition is written with up to its semicolon or its lines. -/
theorem print_eq_head (shown : definition.shown = definition) (bare : definition.attributes = [])
    (kind : definition.kind ≠ .callback) :
    definition.print = definition.head ++ ";"
      ∨ ∃ lines, definition.print = definition.head ++ " \x7b\n" ++ lines := by
  have print : definition.print = wordIf definition.isPartial "partial " ++ definition.printBody := by
    simp [Definition.print, implements_of_shown shown, bare, bracketed, Argument.printAttributes]
  cases kind : definition.kind with
  | typedef => exact .inl (by simp [print, printBody, head, kind, String.append_assoc])
  | callback => contradiction
  | enum =>
    refine .inr ⟨(if definition.values.isEmpty then ""
      else ",\n".intercalate (definition.values.map fun value => "  " ++ quoted value) ++ "\n") ++ "\x7d;", ?_⟩
    simp [print, printBody, head, kind, String.append_assoc]
  | interface | dictionary | callbackInterface =>
    refine .inr ⟨String.join (definition.members.map fun member => "  " ++ member.print ++ "\n") ++ "\x7d;", ?_⟩
    cases parent : definition.parent <;>
      simp [print, printBody, head, kind, parent, String.append_assoc]

/-- A definition reads the same from its written form and from a list.  The title of the list is the head of
the written form, each value or each member without its semicolon is a term, and all are written with their
reserved characters as references.  The list is then one fragment, and this is parsed as the definition. -/
theorem list_reads_back (numeric : Bool) {gap : String} (plain : '<' ∉ gap.toList)
    (printable : definition.isPrintable = true) (bare : definition.attributes = [])
    (kind : definition.kind ≠ .callback)
    (values : ∀ value ∈ definition.values, Text.trim value.toList = value.toList) :
    (definition.print = definition.head ++ ";"
      ∨ ∃ lines, definition.print = definition.head ++ " \x7b\n" ++ lines)
    ∧ ∃ text, Markup.fragments (Markup.descriptiveList numeric gap definition.head definition.items) = [.ok text]
      ∧ Schema.parse text = .ok [definition] := by
  obtain ⟨wf, shown, -⟩ := isPrintable_iff.1 printable
  refine ⟨print_eq_head shown bare kind, Markup.declarationText definition.head definition.items,
    Markup.fragments_descriptiveList numeric plain (trim_head wf kind) (trim_items wf kind values), ?_⟩
  refine Schema.parse_of_spells (by simpa using printable) ?_
  simpa using spells_listed printable bare kind

/-- An interface whose operation has a default that looks like the end of its term. -/
def taggedInterface : Definition :=
  { kind := .interface, name := "A", isPartial := true, parent := some "B"
    members := [{ kind := .operation, name := "f", type := .sequence (.named "long"), isStatic := true
                  arguments := [⟨"x", .named "DOMString", true, false, some ⟨.string, "</dt>&lt;"⟩, []⟩] }] }

theorem list_reads_back_tagged :
    taggedInterface.isPrintable = true
    ∧ Markup.descriptiveList true "\n" taggedInterface.head taggedInterface.items
      = "<dl class=\"idl\" title=\"partial interface A : B\">\n<dt>static sequence&lt;long&gt; f(optional DOMString"
        ++ " x = &quot;&lt;/dt&gt;&amp;lt;&quot;)</dt>\n</dl>"
    ∧ ∃ text, Markup.fragments (Markup.descriptiveList true "\n" taggedInterface.head taggedInterface.items)
        = [.ok text]
      ∧ Schema.parse text = .ok [taggedInterface] := by
  have printable : taggedInterface.isPrintable = true := by decide
  exact ⟨printable, by decide +kernel, (list_reads_back true (by decide) printable rfl (by decide) (by decide)).2⟩

end Definition

end IdlBindings
