/-
# IdlBindings.Proofs.ListedCallbacks: which callbacks can stand in a descriptive list.

The title of a list tells what its terms are.  A title that begins with `callback ` declares a callback, whose
arguments are the terms, unless it begins with `callback interface`: then the terms are members.  Nothing is
asked about what comes behind the second word.  So a callback whose name begins with `interface` gets braces
instead of parentheses, and such a text is refused.  Every other callback is read back from its list.
-/
import IdlBindings.Proofs.ListedDefinitions

namespace IdlBindings

open Token (isIdentifier Spells)
open Text (StartsSolid EndsSolid)

/-! ## Whitespace at the ends -/

/-- The written form of an argument has no whitespace at its ends. -/
theorem Argument.trim_print {a : Argument} (wf : a.isWellFormed = true) :
    Text.trim a.print.toList = a.print.toList := by
  obtain ⟨name, type, optional, variadic, value, attributes⟩ := a
  simp only [isWellFormed, Bool.and_eq_true] at wf
  obtain ⟨⟨⟨named, typed⟩, valued⟩, -⟩ := wf
  have starts := startsSolid_bracketed " " (printAttributes attributes)
    (startsSolid_wordIf optional "optional " (by decide) (TypeExpr.solid_print type typed).1)
  rw [← String.append_assoc] at starts
  rw [print]
  exact Text.trim_of_solid ((((starts.append _).append _).append _).append _) (DefaultValue.endsSolid_named _ named valued)

theorem Argument.printList_eq_map (as : List Argument) : printList as = as.map print := by
  induction as with
  | nil => rw [printList, List.map_nil]
  | cons a as ih => rw [printList, List.map_cons, ih]

/-! ## Titles -/

/-- The title of the list of a callback. -/
def callbackTitle (name : String) (returned : TypeExpr) : String :=
  "callback " ++ name ++ " = " ++ returned.print

theorem trim_callbackTitle (name : String) {returned : TypeExpr} (typed : returned.isWellFormed = true) :
    Text.trim (callbackTitle name returned).toList = (callbackTitle name returned).toList := by
  have starts : StartsSolid "callback " := by decide
  exact Text.trim_of_solid (((starts.append _).append _).append _)
    (EndsSolid.append _ (TypeExpr.solid_print returned typed).2)

/-- A word without blanks stands at the front of a text exactly if it stands at the front of its first word. -/
theorem prefix_append_blank {word name rest : List Char} (solid : ' ' ∉ word) :
    word <+: name ++ ' ' :: rest ↔ word <+: name := by
  constructor
  · intro begins
    rcases List.prefix_or_prefix_of_prefix begins (List.prefix_append name (' ' :: rest)) with within | longer
    · exact within
    · -- A longer word would go on with the blank.
      obtain ⟨more, rfl⟩ := longer
      rw [List.prefix_append_right_inj] at begins
      cases more with
      | nil => rw [List.append_nil]
      | cons c more =>
        obtain ⟨rfl, -⟩ := List.cons_prefix_cons.1 begins
        simp at solid
  · intro begins
    exact begins.trans (List.prefix_append ..)

theorem callbackTitle_announces_interface (name : String) (returned : TypeExpr) :
    "callback interface".toList <+: (callbackTitle name returned).toList ↔ "interface".toList <+: name.toList := by
  have title : (callbackTitle name returned).toList
      = "callback ".toList ++ (name.toList ++ ' ' :: ("= ".toList ++ returned.print.toList)) := by
    simp [callbackTitle]
  have word : "callback interface".toList = "callback ".toList ++ "interface".toList := rfl
  rw [title, word, List.prefix_append_right_inj]
  exact prefix_append_blank (by decide)

/-- What the list of a callback stands for depends on how the name begins. -/
theorem Markup.declarationText_callback (name : String) (returned : TypeExpr) (items : List String) :
    declarationText (callbackTitle name returned) items =
      if "interface".toList <+: name.toList then
        callbackTitle name returned ++ " \x7b\n"
          ++ "\n".intercalate (items.map fun member => "    " ++ member ++ ";") ++ "\n\x7d;"
      else callbackTitle name returned ++ "(" ++ ", ".intercalate items ++ ");" := by
  have chars : (callbackTitle name returned).toList
      = "callback ".toList ++ (name ++ " = " ++ returned.print).toList := by
    simp [callbackTitle]
  have first : "callback ".toList.isPrefixOf (callbackTitle name returned).toList = true := by
    rw [chars, List.isPrefixOf_iff_prefix]
    exact List.prefix_append ..
  have enum : "enum ".toList.isPrefixOf (callbackTitle name returned).toList = false := by
    rw [chars]
    rfl
  have typedef : "typedef ".toList.isPrefixOf (callbackTitle name returned).toList = false := by
    rw [chars]
    rfl
  have second : "callback interface".toList.isPrefixOf (callbackTitle name returned).toList
      = decide ("interface".toList <+: name.toList) := by
    rw [Bool.eq_iff_iff, List.isPrefixOf_iff_prefix, decide_eq_true_iff]
    exact callbackTitle_announces_interface name returned
  by_cases interface : "interface".toList <+: name.toList
  · simp only [declarationText, first, second, enum, typedef, interface, if_true]
    rfl
  · simp only [declarationText, first, second, interface, if_false]
    rfl

/-! ## Tokens -/

section

variable {name : String} {returned : TypeExpr} {arguments : List Argument}

/-- The tokens of a callback up to its arguments. -/
def callbackTokens (name : String) (returned : TypeExpr) : List Token :=
  .identifier "callback" :: .identifier name :: .punct '=' :: returned.tokens

theorem spells_callbackTitle (named : isIdentifier name = true) (typed : returned.isWellFormed = true)
    {after : List Char} {rest : List Token} (ends : Token.endsWord after = true) (later : Spells after rest) :
    Spells ((callbackTitle name returned).toList ++ after) (callbackTokens name returned ++ rest) := by
  have type := TypeExpr.prints_type returned typed after rest ends later
  have whole := Spells.word "callback" (by decide) rfl (.space (.word name named rfl
    (.space (.mark '=' (by decide) (.space type)))))
  simpa [callbackTitle, callbackTokens] using whole

theorem spells_callback (named : isIdentifier name = true) (typed : returned.isWellFormed = true)
    (wf : Argument.areWellFormed arguments = true) :
    Spells (callbackTitle name returned ++ "(" ++ ", ".intercalate (Argument.printList arguments) ++ ");").toList
      (callbackTokens name returned ++ .punct '(' :: (Argument.closingTokens arguments ++ [.punct ';'])) := by
  have behind := Argument.spells_parenthesized wf (.mark ';' (by decide) .nil)
  have ends := Argument.endsWord_parenthesized arguments [';']
  have whole := spells_callbackTitle named typed ends behind
  simpa [Argument.printParenthesized] using whole

/-- Arguments on lines like members have tokens too. -/
theorem exists_spells_lines (wf : Argument.areWellFormed arguments = true) {after : List Char} {rest : List Token}
    (later : Spells after rest) :
    ∃ tokens, Spells (("\n".intercalate ((Argument.printList arguments).map fun member => "    " ++ member ++ ";")).toList
      ++ after) tokens := by
  have line : ∀ {a : Argument}, a.isWellFormed = true → ∀ {after rest}, Spells after rest →
      Spells (("    " ++ a.print ++ ";").toList ++ after) (a.tokens ++ .punct ';' :: rest) := by
    intro a wf after rest later
    have argument := Argument.prints_argument a wf _ _ rfl (.mark ';' (by decide) later)
    simpa using Spells.space (.space (.space (.space argument)))
  induction arguments generalizing rest with
  | nil => exact ⟨rest, later⟩
  | cons a arguments ih =>
    rw [Argument.areWellFormed, Bool.and_eq_true] at wf
    cases arguments with
    | nil =>
      refine ⟨a.tokens ++ .punct ';' :: rest, ?_⟩
      simpa [Argument.printList] using line wf.1 later
    | cons next arguments =>
      obtain ⟨tokens, lines⟩ := ih wf.2 later
      refine ⟨a.tokens ++ .punct ';' :: tokens, ?_⟩
      have whole := line wf.1 (.newline lines)
      simpa [Argument.printList, String.intercalate_cons_cons] using whole

theorem exists_spells_braced (named : isIdentifier name = true) (typed : returned.isWellFormed = true)
    (wf : Argument.areWellFormed arguments = true) :
    ∃ more, Spells (callbackTitle name returned ++ " \x7b\n"
        ++ "\n".intercalate ((Argument.printList arguments).map fun member => "    " ++ member ++ ";")
        ++ "\n\x7d;").toList
      (callbackTokens name returned ++ .punct '\x7b' :: more) := by
  obtain ⟨more, lines⟩ := exists_spells_lines wf (.newline (.mark '\x7d' (by decide) (.mark ';' (by decide) .nil)))
  have whole := spells_callbackTitle named typed rfl (.space (.mark '\x7b' (by decide) (.newline lines)))
  refine ⟨more, ?_⟩
  simpa using whole

end

/-! ## Reading -/

namespace Grammar

open Token (Located plain)

variable {toks : List Located} {name : String} {returned : TypeExpr} {more : List Token}

/-- A callback with a brace in the place of its arguments is not read. -/
theorem callback_braced {r : List Located} {depth : Nat} {result : Definition × List Located}
    (typed : returned.isWellFormed = true) (deep : 2 * returned.tokens.length + 1 ≤ depth)
    (spelled : plain r = .identifier name :: .punct '=' :: (returned.tokens ++ .punct '\x7b' :: more)) :
    callback depth r ≠ .ok result := by
  intro read
  obtain ⟨d, rest⟩ := result
  obtain ⟨called, r₁, word, r₂, equals, t, r₃, first, as, r₄, second, -⟩ := callback_eq_ok.1 read
  rw [word.plain, equals.plain] at spelled
  have spelled : plain r₂ = returned.tokens ++ .punct '\x7b' :: more := (List.cons.inj (List.cons.inj spelled).2).2
  -- The type ends in front of the brace, and a parenthesis is looked for there.
  obtain ⟨r', ran, spelled⟩ := (readsType returned typed).type depth (.punct '\x7b' :: more) deep
    (stops_of_head rfl (by simp) (by simp) (by simp)) r₂ spelled
  rw [ran] at first
  cases first
  obtain ⟨r₅, opened, -⟩ := arguments_eq_ok.1 second
  rw [opened.plain] at spelled
  simp at spelled

theorem definitions_braced {result : List Definition × List Located} (typed : returned.isWellFormed = true)
    (other : name ≠ "interface") (spelled : plain toks = callbackTokens name returned ++ .punct '\x7b' :: more) :
    definitions (depthFor toks) toks ≠ .ok result := by
  intro read
  obtain ⟨ds, rest⟩ := result
  have deep := deep_enough spelled
  simp only [callbackTokens, List.length_append, List.length_cons] at deep
  obtain ⟨depth, same⟩ := Nat.exists_eq_add_of_le' (show 2 ≤ depthFor toks by omega)
  rw [same] at read deep
  obtain ⟨r₁, keyword, spelled⟩ := takes_of_plain (by simpa only [callbackTokens, List.cons_append] using spelled)
  have only : ∀ {word r}, Takes toks (.identifier word) r → word = "callback" ∧ r = r₁ := by
    rintro word r ⟨place, here⟩
    obtain ⟨place', rfl⟩ := keyword
    cases here
    exact ⟨rfl, rfl⟩
  rcases definitions_eq_ok.1 read with ⟨rfl, -⟩ | ⟨-, d, r, read, -⟩
  · obtain ⟨_, empty⟩ := keyword
    cases empty
  · obtain ⟨as, r', attributed, bare, read, -⟩ := definition_eq_ok.1 read
    rw [attributes_lacking (keyword.lacks _ (by simp)) (by omega)] at attributed
    cases attributed
    -- Of the ways in which a definition begins only that of a callback is left.
    rcases bareDefinition_eq_ok.1 read with ⟨r, begins, -⟩ | ⟨r, begins, ⟨-, read⟩ | ⟨r', begins', -⟩⟩
      | ⟨r, begins, -⟩ | ⟨r, begins, -⟩ | ⟨r, begins, -⟩ | ⟨r, begins, -⟩ | ⟨lacking, -⟩
    · exact absurd (only begins).1 (by decide)
    · obtain ⟨-, rfl⟩ := only begins
      exact callback_braced typed (by omega) spelled read
    · obtain ⟨-, rfl⟩ := only begins
      rw [begins'.plain] at spelled
      exact other (Token.identifier.inj (List.cons.inj spelled).1).symm
    · exact absurd (only begins).1 (by decide)
    · exact absurd (only begins).1 (by decide)
    · exact absurd (only begins).1 (by decide)
    · exact absurd (only begins).1 (by decide)
    · exact keyword.not_lacks (lacking "callback" (by simp [keywords]))

end Grammar

/-- A text that spells a callback with a brace in the place of its arguments is refused. -/
theorem Schema.parse_braced {text : String} {name : String} {returned : TypeExpr} {more : List Token}
    (typed : returned.isWellFormed = true) (other : name ≠ "interface")
    (spells : Spells text.toList (callbackTokens name returned ++ .punct '\x7b' :: more)) :
    ∃ error, Schema.parse text = .error error := by
  cases read : Schema.parse text with
  | error error => exact ⟨error, rfl⟩
  | ok ds =>
    obtain ⟨toks, lexed, spelled⟩ := spells .start
    obtain ⟨toks', lexed', rest, ran⟩ := Schema.parse_eq_ok.1 read
    rw [lexed] at lexed'
    cases lexed'
    exact absurd ran (Grammar.definitions_braced typed other spelled)

/-! ## Callbacks in lists -/

namespace Definition

variable {d : Definition}

/-- A callback that can be written has a type, and its name is not the keyword of an interface. -/
theorem callback_parts (printable : d.isPrintable = true) (kind : d.kind = .callback) :
    ∃ returned, d.type = some returned ∧ isIdentifier d.name = true ∧ d.name ≠ "interface"
      ∧ returned.isWellFormed = true ∧ Argument.areWellFormed d.arguments = true := by
  obtain ⟨wf, shown, clear, -⟩ := isPrintable_iff.1 printable
  simp only [isWellFormed, Bool.and_eq_true] at wf
  simp only [isUnambiguous, kind, Bool.and_eq_true, bne_iff_ne] at clear
  obtain ⟨⟨⟨⟨⟨⟨⟨named, -⟩, -⟩, -⟩, -⟩, -⟩, typed⟩, listed⟩ := wf
  have type : d.type = some (d.type.getD (.named "undefined")) := by
    have same := congrArg Definition.type shown
    simpa only [Definition.shown, kind] using same.symm
  refine ⟨_, type, named, clear.2, ?_, listed⟩
  rw [type] at typed
  exact typed

/-- A callback without extended attributes has the tokens up to its arguments, then those of its arguments. -/
theorem tokens_callback {returned : TypeExpr} (shown : d.shown = d) (kind : d.kind = .callback)
    (bare : d.attributes = []) (typed : d.type = some returned) :
    d.tokens = callbackTokens d.name returned
      ++ .punct '(' :: (Argument.closingTokens d.arguments ++ [.punct ';']) := by
  have whole := isPartial_of_shown shown (by simp [kind]) (by simp [kind])
  rw [tokens, implementsTokens, implements_of_shown shown, bare, whole]
  simp [bodyTokens, kind, typed, callbackTokens, bracketedTokens, Argument.attributeTokens, tokenIf]

/-- Which callbacks a descriptive list can hold.  The title of the list is `callback Name = Type`, and each
argument is a term, all written with their reserved characters as references.  The list is one fragment.  This
is parsed as the callback exactly if the name does not begin with `interface`.  If it does, the fragment is
refused. -/
theorem callback_list_reads_back_iff (numeric : Bool) {gap : String} (plain : '<' ∉ gap.toList)
    (printable : d.isPrintable = true) (bare : d.attributes = []) (kind : d.kind = .callback) :
    ∃ returned text, d.type = some returned
      ∧ Markup.fragments (Markup.descriptiveList numeric gap (callbackTitle d.name returned)
          (d.arguments.map Argument.print)) = [.ok text]
      ∧ (Schema.parse text = .ok [d] ↔ ¬ "interface".toList <+: d.name.toList)
      ∧ ("interface".toList <+: d.name.toList → ∃ error, Schema.parse text = .error error) := by
  obtain ⟨returned, type, named, other, typed, listed⟩ := callback_parts printable kind
  have each : ∀ item ∈ d.arguments.map Argument.print, Text.trim item.toList = item.toList := by
    rw [List.forall_mem_map]
    exact fun a inside => Argument.trim_print ((Argument.areWellFormed_iff _).1 listed a inside)
  refine ⟨returned, _, type,
    Markup.fragments_descriptiveList numeric plain (trim_callbackTitle d.name typed) each, ?_⟩
  rw [Markup.declarationText_callback, ← Argument.printList_eq_map]
  by_cases interface : "interface".toList <+: d.name.toList
  · -- The arguments come as lines between braces.  The text still has tokens, but is no callback.
    obtain ⟨more, braced⟩ := exists_spells_braced named typed listed
    obtain ⟨error, refused⟩ := Schema.parse_braced typed other braced
    rw [if_pos interface, refused]
    exact ⟨iff_of_false (by simp) (not_not_intro interface), fun _ => ⟨error, rfl⟩⟩
  · have shown := (isPrintable_iff.1 printable).2.1
    have spells := spells_callback named typed listed
    rw [← tokens_callback shown kind bare type] at spells
    rw [if_neg interface]
    refine ⟨iff_of_true ?_ interface, fun begins => absurd begins interface⟩
    exact Schema.parse_of_spells (by simpa using printable) (by simpa using spells)

/-- A callback whose name has `interface` in it, but not at its front. -/
def readyCallback : Definition :=
  { kind := .callback, name := "onInterfaceReady", type := some (.nullable (.sequence (.named "long")))
    arguments := [⟨"label", .named "DOMString", true, false, some ⟨.string, "</dt> & 'dt'"⟩, []⟩,
      ⟨"codes", .named "unsigned long", false, true, none, []⟩] }

theorem callback_list_reads_back_ready :
    readyCallback.isPrintable = true
    ∧ Markup.descriptiveList false "\n" (callbackTitle "onInterfaceReady" (.nullable (.sequence (.named "long"))))
        (readyCallback.arguments.map Argument.print)
      = "<dl class=\"idl\" title=\"callback onInterfaceReady = sequence&lt;long&gt;?\">\n<dt>optional DOMString label"
        ++ " = &quot;&lt;/dt&gt; &amp; &apos;dt&apos;&quot;</dt>\n<dt>unsigned long... codes</dt>\n</dl>"
    ∧ ∃ text, Markup.fragments (Markup.descriptiveList false "\n"
          (callbackTitle "onInterfaceReady" (.nullable (.sequence (.named "long"))))
          (readyCallback.arguments.map Argument.print)) = [.ok text]
      ∧ Schema.parse text = .ok [readyCallback] := by
  have printable : readyCallback.isPrintable = true := by decide
  refine ⟨printable, by decide +kernel, ?_⟩
  have plain : '<' ∉ "\n".toList := by decide
  obtain ⟨returned, text, typed, fragment, reads, -⟩ := callback_list_reads_back_iff false plain printable rfl rfl
  obtain rfl := Option.some.inj typed
  exact ⟨text, fragment, reads.2 (by decide)⟩

/-- A callback whose name begins with `interface`. -/
def interfaceCallback : Definition :=
  { kind := .callback, name := "interfaceReady", type := some (.named "void")
    arguments := [⟨"code", .named "long", false, false, none, []⟩] }

/-- The list of this callback is not read back: its argument is taken for a member. -/
theorem callback_list_loses_interfaceReady :
    interfaceCallback.isPrintable = true ∧ interfaceCallback.attributes = []
    ∧ Markup.fragments "<dl class=\"idl\" title=\"callback interfaceReady = void\"><dt>long code</dt></dl>"
      = [.ok "callback interfaceReady = void \x7b\n    long code;\n\x7d;"]
    ∧ Schema.parse "callback interfaceReady = void \x7b\n    long code;\n\x7d;" ≠ .ok [interfaceCallback] := by
  refine ⟨by decide, rfl, by decide +kernel, ?_⟩
  obtain ⟨more, braced⟩ := @exists_spells_braced "interfaceReady" (.named "void") interfaceCallback.arguments
    (by decide) (by decide) (by decide)
  obtain ⟨error, refused⟩ := Schema.parse_braced (by decide) (by decide) braced
  have same : "callback interfaceReady = void \x7b\n    long code;\n\x7d;" = callbackTitle "interfaceReady" (.named "void")
      ++ " \x7b\n" ++ "\n".intercalate ((Argument.printList interfaceCallback.arguments).map fun member =>
        "    " ++ member ++ ";") ++ "\n\x7d;" := by decide
  rw [same, refused]
  simp

end Definition

end IdlBindings
