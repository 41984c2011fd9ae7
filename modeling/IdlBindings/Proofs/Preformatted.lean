/-
# IdlBindings.Proofs.Preformatted: a schema reads the same on its own and in markup.

A text may stand in a document on its own, or in a preformatted element with its reserved characters
written as references.  Such an element has no opening angle bracket in its body, so the search for tags
finds its two ends and nothing between them; the body is decoded to the text.  A document that is not markup
by its name is not taken for markup if it can be parsed, since no definition begins with an angle bracket.
-/
import Mathlib
import IdlBindings.Proofs.Entities
import IdlBindings.Proofs.Unambiguous
import IdlBindings.Run.Document

namespace IdlBindings

namespace Markup

/-! ## Texts without tags -/

section

variable {before cs rest : List Char}

theorem openings_plain {c : Char} (plain : c ≠ '<') : openings (c :: cs) = openings cs := by
  rw [openings, if_neg plain]

theorem openings_bracket (fails : opening? cs = none) : openings ('<' :: cs) = openings cs := by
  rw [openings, if_pos rfl]
  split
  · next found => rw [fails] at found; cases found
  · rfl

theorem openings_tag {tag : Opening} (opens : opening? cs = some tag) :
    openings ('<' :: cs) = tag :: openings tag.rest := by
  rw [openings, if_pos rfl]
  split
  · next found => rw [opens] at found; cases found; rfl
  · next found => rw [opens] at found; cases found

/-- The search for tags passes over a text without brackets. -/
theorem openings_append (plain : '<' ∉ before) : openings (before ++ cs) = openings cs := by
  induction before with
  | nil => rfl
  | cons c before ih =>
    rw [List.mem_cons, not_or] at plain
    rw [List.cons_append, openings_plain (Ne.symm plain.1), ih plain.2]

theorem stripTags_of_plain (plain : '<' ∉ cs) : stripTags cs = cs := by
  induction cs with
  | nil => rw [stripTags]
  | cons c cs ih =>
    rw [List.mem_cons, not_or] at plain
    rw [stripTags, if_neg (Ne.symm plain.1), ih plain.2]

/-- The first place is behind a text in which no character begins a match. -/
theorem splitAt?_append {strip? : List Char → Option (List Char)} {behind : List Char}
    (passes : ∀ c ∈ before, ∀ cs, strip? (c :: cs) = none) (later : splitAt? strip? cs = some (behind, rest)) :
    splitAt? strip? (before ++ cs) = some (before ++ behind, rest) := by
  induction before with
  | nil => exact later
  | cons c before ih =>
    have first := passes c (List.mem_cons_self ..) (before ++ cs)
    have others := ih fun d inside => passes d (List.mem_cons_of_mem c inside)
    rw [List.cons_append, splitAt?, first]
    simp only [others, Option.map_some, List.cons_append]

theorem splitAt?_found {strip? : List Char → Option (List Char)} (found : strip? cs = some rest) :
    splitAt? strip? cs = some ([], rest) := by
  cases cs with
  | nil => rw [splitAt?, found]; rfl
  | cons c cs => rw [splitAt?, found]

end

/-- No other character is a bracket in small letters. -/
theorem toLower_ne_bracket {c : Char} (other : c ≠ '<') : c.toLower ≠ '<' := by
  unfold Char.toLower
  split
  · next large =>
    intro same
    have low : 65 ≤ c.val.toNat := large.1
    have high : c.val.toNat ≤ 90 := large.2
    have small : (c.val + 32).toNat = 60 := congrArg (fun d => d.val.toNat) same
    have shift : (32 : UInt32).toNat = 32 := rfl
    rw [UInt32.toNat_add, shift] at small
    omega
  · exact other

/-- What stands behind the closing tag of an element, if that is at the front of a text. -/
def closing? (name cs : List Char) : Option (List Char) :=
  if (cs.take (name.length + 2)).map Char.toLower = '<' :: '/' :: name then some (cs.drop (name.length + 2)) else none

theorem body?_eq (name cs : List Char) : body? name cs = (splitAt? (closing? name) cs).map (·.1) :=
  rfl

/-- The search for a closing tag lowers what it looks at.  This makes no bracket of another character. -/
theorem closing?_plain {c : Char} (name cs : List Char) (other : c ≠ '<') : closing? name (c :: cs) = none := by
  rw [closing?, if_neg]
  rw [List.take_succ_cons, List.map_cons, List.cons.injEq]
  exact fun same => toLower_ne_bracket other same.1

theorem closing?_tag {name : List Char} (small : name.map Char.toLower = name) (rest : List Char) :
    closing? name ('<' :: '/' :: name ++ rest) = some rest := by
  have length : ('<' :: '/' :: name).length = name.length + 2 := rfl
  rw [closing?, ← length, List.take_left, List.drop_left, if_pos]
  simp [small]

/-- The search for a closing tag passes over a text without brackets. -/
theorem splitAt?_closing {name before behind cs rest : List Char} (plain : '<' ∉ before)
    (later : splitAt? (closing? name) cs = some (behind, rest)) :
    splitAt? (closing? name) (before ++ cs) = some (before ++ behind, rest) := by
  refine splitAt?_append (fun c inside cs => ?_) later
  exact closing?_plain name cs fun same => plain (same ▸ inside)

/-- The body of an element ends at its closing tag if no bracket stands before it. -/
theorem body?_append (name : List Char) {before rest : List Char} (small : name.map Char.toLower = name)
    (plain : '<' ∉ before) : body? name (before ++ ('<' :: '/' :: name ++ rest)) = some before := by
  rw [body?_eq, splitAt?_closing plain (splitAt?_found (closing?_tag small rest)), List.append_nil]
  rfl

/-! ## Preformatted elements -/

/-- The element that holds a text. -/
def preformatted (numeric : Bool) (text : String) : List Char :=
  "<pre class=\"idl\">".toList ++ (escape numeric text.toList ++ "</pre>".toList)

/-- Markup that holds texts, each behind the separator that it comes with, and a separator at the end. -/
def preformattedMarkup (numeric : Bool) (pieces : List (String × String)) (last : String) : String :=
  String.ofList ((pieces.flatMap fun piece => piece.1.toList ++ preformatted numeric piece.2) ++ last.toList)

/-- The tag of an element that holds a text, with what comes behind it. -/
def preformattedTag (numeric : Bool) (text : String) (rest : List Char) : Opening :=
  ⟨"pre".toList, " class=\"idl\"".toList, escape numeric text.toList ++ ("</pre>".toList ++ rest)⟩

theorem opening?_pre (rest : List Char) :
    opening? ("pre class=\"idl\">".toList ++ rest) = some ⟨"pre".toList, " class=\"idl\"".toList, rest⟩ :=
  rfl

section

variable (numeric : Bool) (text : String) (rest : List Char)

/-- An element has one opening tag. -/
theorem openings_preformatted :
    openings (preformatted numeric text ++ rest) = preformattedTag numeric text rest :: openings rest := by
  have bracket : "<pre class=\"idl\">".toList = '<' :: "pre class=\"idl\">".toList := rfl
  have bracket' : "</pre>".toList = '<' :: "/pre>".toList := rfl
  have closes : opening? ("/pre>".toList ++ rest) = none := rfl
  have plain : '<' ∉ "/pre>".toList := by decide
  have behind : openings (escape numeric text.toList ++ ("</pre>".toList ++ rest)) = openings rest := by
    rw [openings_append (not_mem_escape numeric _), bracket', List.cons_append, openings_bracket closes,
      openings_append plain]
  show openings ("<pre class=\"idl\">".toList ++ (escape numeric text.toList ++ "</pre>".toList) ++ rest) = _
  rw [bracket, List.append_assoc, List.append_assoc, List.cons_append, openings_tag (opening?_pre _), behind]
  rfl

theorem isFragment_preformattedTag : isFragment (preformattedTag numeric text rest) = true :=
  rfl

theorem elementText_preformattedTag : elementText (preformattedTag numeric text rest) = .ok text := by
  have body : body? ['p', 'r', 'e'] (preformattedTag numeric text rest).rest = some (escape numeric text.toList) :=
    body?_append ['p', 'r', 'e'] rfl (not_mem_escape numeric _)
  have name : (preformattedTag numeric text rest).name.map Char.toLower = ['p', 'r', 'e'] := rfl
  have plain := not_mem_escape numeric text.toList
  simp [elementText, name, body, stripTags_of_plain plain, decodeEntities_escape]

end

/-- The fragments are the texts, in order. -/
theorem fragments_preformattedMarkup (numeric : Bool) {pieces : List (String × String)} {last : String}
    (plain : ∀ piece ∈ pieces, '<' ∉ piece.1.toList) (plainLast : '<' ∉ last.toList) :
    fragments (preformattedMarkup numeric pieces last) = pieces.map fun piece => .ok piece.2 := by
  rw [fragments, preformattedMarkup, String.toList_ofList]
  -- each tag keeps all that comes behind it, so the induction is on the pieces and not on the tags
  induction pieces with
  | nil =>
    have none : openings (last.toList ++ []) = [] := by rw [openings_append plainLast, openings]
    rw [List.append_nil] at none
    rw [List.flatMap_nil, List.nil_append, none]
    rfl
  | cons piece pieces ih =>
    have first := plain piece (List.mem_cons_self ..)
    have later := ih fun other inside => plain other (List.mem_cons_of_mem piece inside)
    rw [List.flatMap_cons, List.append_assoc, List.append_assoc, openings_append first, openings_preformatted,
      List.filter_cons_of_pos (isFragment_preformattedTag ..), List.map_cons, elementText_preformattedTag, later,
      List.map_cons]

end Markup

/-! ## What a schema begins with -/

namespace Grammar

theorem takes_of_not_lacks {toks : List Token.Located} {token : Token} (h : ¬ Lacks toks token) :
    ∃ rest, Takes toks token rest := by
  obtain ⟨tokens, first⟩ := List.head?_eq_some_iff.1 (not_not.1 h)
  obtain ⟨rest, taken, -⟩ := takes_of_plain first
  exact ⟨rest, taken⟩

/-- A definition begins with a bracket or with a word. -/
theorem definition_begins {depth : Nat} {toks rest : List Token.Located} {d : Definition}
    (h : definition depth toks = .ok (d, rest)) :
    ∃ r, Takes toks (.punct '[') r ∨ ∃ word, Takes toks (.identifier word) r := by
  obtain ⟨as, r₁, attributed, bare, read, -⟩ := definition_eq_ok.1 h
  by_cases lacks : Lacks toks (.punct '[')
  · obtain ⟨-, rfl⟩ := attributes_of_lacks lacks attributed
    rcases bareDefinition_eq_ok.1 read with ⟨r, taken, -⟩ | ⟨r, taken, -⟩ | ⟨r, taken, -⟩ | ⟨r, taken, -⟩
      | ⟨r, taken, -⟩ | ⟨r, taken, -⟩ | ⟨-, stated⟩
    on_goal 7 => obtain ⟨name, r, taken, -⟩ := implementation_eq_ok.1 (implementation_of_statement stated)
    all_goals exact ⟨r, .inr ⟨_, taken⟩⟩
  · obtain ⟨r, taken⟩ := takes_of_not_lacks lacks
    exact ⟨r, .inl taken⟩

/-- A schema that can be read has no tokens or begins with a definition. -/
theorem definitions_begin {depth : Nat} {toks rest : List Token.Located} {ds : List Definition}
    (h : definitions depth toks = .ok (ds, rest)) : Lacks toks (.punct '<') := by
  cases depth with
  | zero => cases h
  | succ depth =>
    rcases definitions_eq_ok.1 h with ⟨rfl, -⟩ | ⟨-, first, r₁, read, -⟩
    · simp [Lacks, Token.plain]
    · obtain ⟨r, taken | ⟨word, taken⟩⟩ := definition_begins read
      · exact taken.lacks _ (by decide)
      · exact taken.lacks _ (by simp)

end Grammar

/-- Whitespace at the front of a text is no token. -/
theorem Token.exists_lexFrom_trimStart (p : Position) (cs : List Char) :
    ∃ p', lexFrom p cs = lexFrom p' (Text.trimStart cs) := by
  induction cs generalizing p with
  | nil => exact ⟨p, rfl⟩
  | cons c cs ih =>
    rw [Text.trimStart, List.dropWhile_cons]
    split
    · next blank =>
      obtain ⟨p', same⟩ := ih (p.after [c])
      refine ⟨p', ?_⟩
      have cut : lexeme c cs = .ok ⟨none, [c], cs⟩ := by simp [lexeme, blank]
      rw [lexFrom_cons cut]
      show (lexFrom (p.after [c]) cs).map id = lexFrom p' (Text.trimStart cs)
      rw [Except.map_id, id, same]
    · exact ⟨p, rfl⟩

/-- A text that can be parsed does not begin with a tag. -/
theorem Schema.head_of_parse {text : String} {definitions : List Definition}
    (parsed : Schema.parse text = .ok definitions) : (Text.trimStart text.toList).head? ≠ some '<' := by
  intro bracket
  obtain ⟨behind, front⟩ := List.head?_eq_some_iff.1 bracket
  obtain ⟨toks, lexed, rest, read⟩ := Schema.parse_eq_ok.1 parsed
  obtain ⟨p, same⟩ := Token.exists_lexFrom_trimStart .start text.toList
  have cut : Token.lexeme '<' behind = .ok ⟨some (.punct '<'), ['<'], behind⟩ := rfl
  rw [same, front, Token.lexFrom_cons cut] at lexed
  cases later : Token.lexFrom (p.after ['<']) behind with
  | error fault => simp [later, Except.map] at lexed
  | ok others =>
    simp only [later, Except.map, Except.ok.injEq] at lexed
    exact Grammar.definitions_begin read (by rw [← lexed]; rfl)

/-! ## Documents -/

/-- A name ends as the names of markup do, up to the case of ASCII letters. -/
def NamesMarkup (name : String) : Prop :=
  ∃ ending, ending <:+ name.toList ∧ ending.map Char.toLower ∈ [".html".toList, ".htm".toList]

theorem Markup.isMarkup_iff {name contents : String} :
    isMarkup name contents = true ↔ NamesMarkup name ∨ (Text.trimStart contents.toList).head? = some '<' := by
  simp only [isMarkup, NamesMarkup, Bool.or_eq_true, List.isSuffixOf_iff_suffix, List.suffix_map_iff, beq_iff_eq,
    List.mem_cons, List.not_mem_nil, or_false]
  refine or_congr_left ⟨?_, ?_⟩
  · rintro (⟨ending, ends, same⟩ | ⟨ending, ends, same⟩)
    · exact ⟨ending, ends, .inl same.symm⟩
    · exact ⟨ending, ends, .inr same.symm⟩
  · rintro ⟨ending, ends, same | same⟩
    · exact .inl ⟨ending, ends, same.symm⟩
    · exact .inr ⟨ending, ends, same.symm⟩

theorem readFragment_eq (document text : String) :
    readFragment document text
      = (Schema.parse text).mapError fun error => ⟨.parse document error, some text⟩ := by
  unfold readFragment
  cases Schema.parse text <;> rfl

namespace Document

/-- Texts read the same on their own and in preformatted elements.  The fragments of markup that is made of
such elements and of separators without brackets are the texts as they were, whatever characters they have.
So a document of this markup gives what each text gives when it is parsed, in order.  A text that can be
parsed is a document of its own and gives its definitions, unless its name is that of markup. -/
theorem raw_preformatted_agree :
    (∀ (numeric : Bool) (pieces : List (String × String)) (last : String),
      (∀ piece ∈ pieces, '<' ∉ piece.1.toList) → '<' ∉ last.toList →
        Markup.fragments (Markup.preformattedMarkup numeric pieces last) = pieces.map (fun piece => .ok piece.2)
        ∧ ∀ locator : Locator, NamesMarkup locator.display →
          read ⟨locator, Markup.preformattedMarkup numeric pieces last⟩
            = pieces.map fun piece => (Schema.parse piece.2).mapError fun error =>
                ⟨.parse locator.display error, some piece.2⟩)
    ∧ ∀ (locator : Locator) (text : String) (definitions : List Definition), ¬ NamesMarkup locator.display →
        Schema.parse text = .ok definitions →
          isMarkup ⟨locator, text⟩ = false ∧ read ⟨locator, text⟩ = [.ok definitions] := by
  constructor
  · intro numeric pieces last plain plainLast
    have texts := Markup.fragments_preformattedMarkup numeric plain plainLast
    refine ⟨texts, fun locator named => ?_⟩
    have markup : isMarkup ⟨locator, Markup.preformattedMarkup numeric pieces last⟩ = true :=
      Markup.isMarkup_iff.2 (.inl named)
    rw [read, if_pos markup, texts, List.map_map]
    exact List.map_congr_left fun piece _ => readFragment_eq locator.display piece.2
  · intro locator text definitions unnamed parsed
    have raw : isMarkup ⟨locator, text⟩ = false := by
      rw [← Bool.not_eq_true, isMarkup, Markup.isMarkup_iff]
      exact not_or.2 ⟨unnamed, Schema.head_of_parse parsed⟩
    refine ⟨raw, ?_⟩
    rw [read, raw, if_neg Bool.false_ne_true, readFragment_eq, parsed]
    rfl

/-- An enumeration whose value has a reference in it, and a text that looks like the end of its element. -/
def quotedPieces : List (String × String) :=
  [("IDL: ", "enum A \x7b \"'&lt;\" \x7d;"), ("\n&", "</pre><pre class=\"idl\">")]

/-- No text is taken for markup: there are two fragments, and the value keeps its reference. -/
theorem raw_preformatted_agree_quotes :
    Markup.fragments (Markup.preformattedMarkup true quotedPieces ">")
      = [.ok "enum A \x7b \"'&lt;\" \x7d;", .ok "</pre><pre class=\"idl\">"]
    ∧ (read ⟨.localPath "a.HTM", Markup.preformattedMarkup true quotedPieces ">"⟩).head?
      = some (.ok [{ kind := .enum, name := "A", values := ["'&lt;"] }])
    ∧ read ⟨.localPath "a.idl", "enum A \x7b \"'&lt;\" \x7d;"⟩
      = [.ok [{ kind := .enum, name := "A", values := ["'&lt;"] }]] := by
  have parsed : Schema.parse "enum A \x7b \"'&lt;\" \x7d;"
      = .ok [{ kind := .enum, name := "A", values := ["'&lt;"] }] := by cbv
  have named : NamesMarkup "a.HTM" := ⟨".HTM".toList, ⟨"a".toList, rfl⟩, by decide⟩
  have unnamed : ¬ NamesMarkup "a.idl" := by
    intro named
    have markup : Markup.isMarkup "a.idl" "" = true := Markup.isMarkup_iff.2 (.inl named)
    exact absurd markup (by decide)
  obtain ⟨texts, markup⟩ := raw_preformatted_agree.1 true quotedPieces ">" (by decide) (by decide)
  refine ⟨texts, ?_, (raw_preformatted_agree.2 (.localPath "a.idl") _ _ unnamed parsed).2⟩
  rw [markup (.localPath "a.HTM") named, quotedPieces, List.map_cons, List.head?_cons, parsed]
  rfl

end Document

end IdlBindings
