/-
# IdlBindings.Proofs.DescriptiveLists: the fragment that a descriptive list holds.

The title and the terms of a list are written with their reserved characters as references.  So every
bracket of the list is one of its own tags, and of these only the first has a class: the list is one
fragment.  The title ends at its quote, a term at its closing tag and the body at that of the list.  What is
read is the title and the terms as they were, without the whitespace at their ends.
-/
import IdlBindings.Proofs.Preformatted

namespace IdlBindings

/-! ## Whitespace at the ends -/

/-- Whitespace at the front can be dropped before or after each character is put in another way, if only
the others are put in another way and none of them begins with whitespace then. -/
theorem Text.trimStart_flatMap {f : Char → List Char} (keeps : ∀ c, isWhitespace c = true → f c = [c])
    (solid : ∀ c, isWhitespace c = false → (f c).head?.any (fun d => !isWhitespace d) = true) (cs : List Char) :
    trimStart (cs.flatMap f) = (trimStart cs).flatMap f := by
  induction cs with
  | nil => rfl
  | cons c cs ih =>
    cases blank : isWhitespace c with
    | true =>
      rw [trimStart, trimStart, List.flatMap_cons, keeps c blank, List.singleton_append,
        List.dropWhile_cons_of_pos blank, List.dropWhile_cons_of_pos blank]
      exact ih
    | false =>
      have first := solid c blank
      have stays : trimStart (c :: cs) = c :: cs := List.dropWhile_cons_of_neg (by simp [blank])
      rw [stays, List.flatMap_cons]
      cases put : f c with
      | nil => simp [put] at first
      | cons d ds =>
        have first : isWhitespace d = false := by simpa [put] using first
        exact List.dropWhile_cons_of_neg (by simp [first])

namespace Markup

theorem escapeChar_whitespace (numeric : Bool) {c : Char} (blank : Text.isWhitespace c = true) :
    escapeChar numeric c = [c] := by
  have solid : reserved.all (fun c => !Text.isWhitespace c) = true := rfl
  refine escapeChar_plain numeric fun listed => ?_
  have := List.all_eq_true.1 solid c listed
  simp [blank] at this

/-- A character that is not whitespace is written without whitespace at either end. -/
theorem escapeChar_solid (numeric : Bool) {c : Char} (solid : Text.isWhitespace c = false) :
    (escapeChar numeric c).head?.any (fun d => !Text.isWhitespace d) = true
      ∧ (escapeChar numeric c).reverse.head?.any (fun d => !Text.isWhitespace d) = true := by
  have checked : reserved.all (fun c => (escapeChar numeric c).head?.any (fun d => !Text.isWhitespace d)
      && (escapeChar numeric c).reverse.head?.any (fun d => !Text.isWhitespace d)) = true := by
    cases numeric <;> rfl
  by_cases known : c ∈ reserved
  · simpa using List.all_eq_true.1 checked c known
  · rw [escapeChar_plain numeric known]
    simp [solid]

theorem trim_escape (numeric : Bool) (cs : List Char) :
    Text.trim (escape numeric cs) = escape numeric (Text.trim cs) := by
  have front : ∀ cs, Text.trimStart (escape numeric cs) = escape numeric (Text.trimStart cs) :=
    Text.trimStart_flatMap (fun _ => escapeChar_whitespace numeric) fun _ solid => (escapeChar_solid numeric solid).1
  have back : ∀ cs, Text.trimStart (cs.flatMap (List.reverse ∘ escapeChar numeric))
      = (Text.trimStart cs).flatMap (List.reverse ∘ escapeChar numeric) := by
    refine Text.trimStart_flatMap (fun c blank => ?_) fun _ solid => (escapeChar_solid numeric solid).2
    rw [Function.comp, escapeChar_whitespace numeric blank]
    rfl
  show (Text.trimStart (Text.trimStart (escape numeric cs)).reverse).reverse = _
  rw [front, escape, List.reverse_flatMap, back, List.reverse_flatMap]
  simp only [Function.comp_def, List.reverse_reverse]
  rfl

/-! ## Brackets and letters up to case -/

/-- No character of another case is an opening bracket. -/
theorem sameFold_bracket {c : Char} (other : c ≠ '<') : Text.sameFold '<' c = false := by
  have high : Text.foldRuns.all (fun run => decide (0x60 < run.target)) = true := by decide +kernel
  have bracket : Text.fold '<'.toNat = 0x3c := by decide +kernel
  have kept : Text.fold c.toNat ≠ 0x3c := by
    rw [Text.fold]
    cases mapped : Text.CaseRun.lookup Text.foldRuns c.toNat with
    | none =>
      intro same
      exact other (Char.toNat_inj.1 same)
    | some n =>
      obtain ⟨run, listed, image⟩ := List.exists_of_findSome?_eq_some mapped
      have := of_decide_eq_true (List.all_eq_true.1 high run listed)
      rw [Text.CaseRun.image?] at image
      split at image
      · cases image
        simp only [Option.getD_some]
        omega
      · cases image
  rw [Text.sameFold, bracket, Bool.or_eq_false_iff, beq_eq_false_iff_ne, beq_eq_false_iff_ne]
  exact ⟨Ne.symm other, Ne.symm kept⟩

section

variable {before behind cs rest : List Char}

theorem splitTagEnd?_append (plain : '>' ∉ before) :
    splitTagEnd? (before ++ '>' :: rest) = some (before, rest) := by
  have passes : ∀ c ∈ before, (c != '>') = true := by
    intro c inside
    rw [bne_iff_ne]
    rintro rfl
    exact plain inside
  have left : (before ++ '>' :: rest).dropWhile (· != '>') = '>' :: rest := by
    rw [List.dropWhile_append_of_pos passes]
    rfl
  have taken : (before ++ '>' :: rest).takeWhile (· != '>') = before := by
    rw [List.takeWhile_append_of_pos passes]
    exact List.append_nil before
  rw [splitTagEnd?, left, taken]

theorem splitAt?_cons {strip? : List Char → Option (List Char)} {c : Char} (passes : strip? (c :: cs) = none)
    (later : splitAt? strip? cs = some (behind, rest)) :
    splitAt? strip? (c :: cs) = some (c :: behind, rest) := by
  rw [splitAt?, passes]
  simp only [later, Option.map_some]

end

/-! ## The list -/

/-- The element that holds a term. -/
def termElement (numeric : Bool) (term : String) : List Char :=
  "<dt>".toList ++ (escape numeric term.toList ++ "</dt>".toList)

/-- The elements of the terms, with a gap around each. -/
def listBody (numeric : Bool) (gap : String) (items : List String) : List Char :=
  gap.toList ++ items.flatMap fun term => termElement numeric term ++ gap.toList

/-- The attributes of a list with a title. -/
def listAttributes (numeric : Bool) (title : String) : List Char :=
  " class=\"idl\" title=\"".toList ++ (escape numeric title.toList ++ ['"'])

/-- The element that holds a title and terms. -/
def descriptiveList (numeric : Bool) (gap title : String) (items : List String) : String :=
  String.ofList ("<dl".toList ++ (listAttributes numeric title
    ++ '>' :: (listBody numeric gap items ++ "</dl>".toList)))

/-- The tag of a list. -/
def listTag (numeric : Bool) (title : String) (rest : List Char) : Opening :=
  ⟨"dl".toList, listAttributes numeric title, rest⟩

section

variable (numeric : Bool) (title : String)

theorem opening?_list {attributes : List Char} (plain : '>' ∉ attributes) (cs : List Char) :
    opening? ('d' :: 'l' :: ' ' :: (attributes ++ '>' :: cs)) = some ⟨"dl".toList, ' ' :: attributes, cs⟩ := by
  have closes : splitTagEnd? (' ' :: (attributes ++ '>' :: cs)) = some (' ' :: attributes, cs) := by
    rw [← List.cons_append, splitTagEnd?_append]
    simp [plain]
  have letter : isTagLetter 'd' = true := rfl
  have name : ('l' :: ' ' :: (attributes ++ '>' :: cs)).takeWhile isTagChar = ['l'] := rfl
  have behind : ('l' :: ' ' :: (attributes ++ '>' :: cs)).dropWhile isTagChar = ' ' :: (attributes ++ '>' :: cs) :=
    rfl
  have ends : Text.isWord ' ' = false := rfl
  simp [opening?, letter, name, behind, ends, closes]

theorem isFragment_listTag (rest : List Char) : isFragment (listTag numeric title rest) = true :=
  rfl

theorem valueFrom?_found {name cs value : List Char} {bare : Bool} {c : Char}
    (found : valueAt? name bare (c :: cs) = some value) : valueFrom? name bare false (c :: cs) = some value := by
  rw [valueFrom?, if_neg Bool.false_ne_true, found]

theorem title?_listAttributes : title? (listAttributes numeric title) = some (escape numeric title.toList) := by
  have passes : ∀ c ∈ escape numeric title.toList, (c != '"') = true := by
    intro c inside
    rw [bne_iff_ne]
    rintro rfl
    exact not_mem_escape_of_reserved numeric title.toList (by decide) (by decide) inside
  have value : quotedValue? ('"' :: (escape numeric title.toList ++ ['"'])) = some (escape numeric title.toList) := by
    simp [quotedValue?, List.takeWhile_append_of_pos passes]
  have name : stripFold? "title".toList ("title=\"".toList ++ (escape numeric title.toList ++ ['"']))
      = some ('=' :: '"' :: (escape numeric title.toList ++ ['"'])) := rfl
  have equals : ∀ cs, Text.trimStart ('=' :: cs) = '=' :: cs := fun _ => rfl
  have quote : ∀ cs, Text.trimStart ('"' :: cs) = '"' :: cs := fun _ => rfl
  have found : valueAt? "title".toList false ("title=\"".toList ++ (escape numeric title.toList ++ ['"']))
      = some (escape numeric title.toList) := by
    simp only [valueAt?, name, equals, quote, value, Option.bind_eq_bind, Option.bind_some]
  have skips : title? (listAttributes numeric title)
      = valueFrom? "title".toList false false ("title=\"".toList ++ (escape numeric title.toList ++ ['"'])) :=
    rfl
  rw [skips]
  exact valueFrom?_found found

theorem termElement_append (term : String) (cs : List Char) :
    termElement numeric term ++ cs
      = '<' :: ("dt>".toList ++ (escape numeric term.toList ++ ("</dt>".toList ++ cs))) := by
  show "<dt>".toList ++ (escape numeric term.toList ++ "</dt>".toList) ++ cs = _
  rw [List.append_assoc, List.append_assoc]
  rfl

theorem openings_termElement (term : String) (cs : List Char) :
    (openings (termElement numeric term ++ cs)).filter isFragment = (openings cs).filter isFragment := by
  have opens : opening? ("dt>".toList ++ (escape numeric term.toList ++ ("</dt>".toList ++ cs)))
      = some ⟨"dt".toList, [], escape numeric term.toList ++ ("</dt>".toList ++ cs)⟩ := rfl
  have classless : ¬ isFragment ⟨"dt".toList, [], escape numeric term.toList ++ ("</dt>".toList ++ cs)⟩ = true :=
    Bool.false_ne_true
  have closes : opening? ("/dt>".toList ++ cs) = none := rfl
  have closed : openings ("</dt>".toList ++ cs) = openings cs := by
    show openings ('<' :: ("/dt>".toList ++ cs)) = openings cs
    rw [openings_bracket closes, openings_append (show '<' ∉ "/dt>".toList by decide)]
  rw [termElement_append, openings_tag opens, List.filter_cons_of_neg classless,
    openings_append (not_mem_escape numeric _), closed]

theorem term?_termElement (term : String) (cs : List Char) :
    term? ("dt>".toList ++ (escape numeric term.toList ++ ("</dt>".toList ++ cs)))
      = some (escape numeric term.toList, cs) := by
  have passes : ∀ c ∈ escape numeric term.toList, ∀ cs, stripFold? "</dt>".toList (c :: cs) = none := by
    intro c inside cs
    have other : c ≠ '<' := fun same => not_mem_escape numeric term.toList (same ▸ inside)
    show (if Text.sameFold '<' c then _ else none) = none
    rw [sameFold_bracket other]
    rfl
  have found : stripFold? "</dt>".toList ("</dt>".toList ++ cs) = some cs := rfl
  have contents := splitAt?_append passes (splitAt?_found found)
  rw [List.append_nil] at contents
  exact contents

theorem terms_termElement (term : String) (cs : List Char) :
    terms (termElement numeric term ++ cs) = escape numeric term.toList :: terms cs := by
  rw [termElement_append, terms, if_pos rfl]
  split
  · next found =>
    rw [term?_termElement] at found
    cases found
    rfl
  · next fails =>
    rw [term?_termElement] at fails
    cases fails

/-- The search for the end of the list passes over a term. -/
theorem splitAt?_termElement (term : String) {cs behind rest : List Char}
    (later : splitAt? (closing? ['d', 'l']) cs = some (behind, rest)) :
    splitAt? (closing? ['d', 'l']) (termElement numeric term ++ cs)
      = some (termElement numeric term ++ behind, rest) := by
  have closed : splitAt? (closing? ['d', 'l']) ("</dt>".toList ++ cs)
      = some ("</dt>".toList ++ behind, rest) :=
    splitAt?_cons rfl (splitAt?_closing (show '<' ∉ "/dt>".toList by decide) later)
  have contents := splitAt?_closing (not_mem_escape numeric term.toList) closed
  rw [termElement_append, termElement_append]
  exact splitAt?_cons rfl (splitAt?_closing (show '<' ∉ "dt>".toList by decide) contents)

theorem terms_append {before : List Char} (plain : '<' ∉ before) (cs : List Char) :
    terms (before ++ cs) = terms cs := by
  induction before with
  | nil => rfl
  | cons c before ih =>
    rw [List.mem_cons, not_or] at plain
    rw [List.cons_append, terms, if_neg (Ne.symm plain.1), ih plain.2]

end

section

variable (numeric : Bool) {gap : String} (plain : '<' ∉ gap.toList) (items : List String)

include plain

theorem openings_listBody (cs : List Char) :
    (openings (listBody numeric gap items ++ cs)).filter isFragment = (openings cs).filter isFragment := by
  rw [listBody, List.append_assoc, openings_append plain]
  induction items with
  | nil => rfl
  | cons term items ih =>
    rw [List.flatMap_cons, List.append_assoc, List.append_assoc, openings_termElement, openings_append plain, ih]

theorem terms_listBody : terms (listBody numeric gap items) = items.map fun term => escape numeric term.toList := by
  rw [listBody, terms_append plain]
  induction items with
  | nil => rw [List.flatMap_nil, terms, List.map_nil]
  | cons term items ih =>
    rw [List.flatMap_cons, List.append_assoc, terms_termElement, terms_append plain, ih, List.map_cons]

theorem body?_listBody (rest : List Char) :
    body? ['d', 'l'] (listBody numeric gap items ++ ("</dl".toList ++ rest)) = some (listBody numeric gap items) := by
  have ends : splitAt? (closing? ['d', 'l']) ("</dl".toList ++ rest) = some ([], rest) :=
    splitAt?_found (closing?_tag rfl rest)
  have elements : splitAt? (closing? ['d', 'l'])
      ((items.flatMap fun term => termElement numeric term ++ gap.toList) ++ ("</dl".toList ++ rest))
        = some (items.flatMap fun term => termElement numeric term ++ gap.toList, rest) := by
    induction items with
    | nil => exact ends
    | cons term items ih =>
      have first := splitAt?_termElement numeric term (splitAt?_closing plain ih)
      simpa only [List.flatMap_cons, List.append_assoc] using first
  rw [body?_eq, listBody, List.append_assoc, splitAt?_closing plain elements]
  rfl

theorem openings_descriptiveList (title : String) :
    (openings (descriptiveList numeric gap title items).toList).filter isFragment
      = [listTag numeric title (listBody numeric gap items ++ "</dl>".toList)] := by
  have inside : '>' ∉ "class=\"idl\" title=\"".toList ++ (escape numeric title.toList ++ ['"']) := by
    have title := not_mem_escape_of_reserved numeric title.toList (d := '>') (by decide) (by decide)
    simp [title]
  have opens : opening? ("dl".toList ++ (listAttributes numeric title
      ++ '>' :: (listBody numeric gap items ++ "</dl>".toList))) = some (listTag numeric title _) :=
    opening?_list inside _
  have chars : (descriptiveList numeric gap title items).toList
      = '<' :: ("dl".toList ++ (listAttributes numeric title
        ++ '>' :: (listBody numeric gap items ++ "</dl>".toList))) := String.toList_ofList
  have ends : openings "</dl>".toList = [] := by
    have closes : opening? "/dl>".toList = none := rfl
    show openings ('<' :: "/dl>".toList) = []
    rw [openings_bracket closes, ← List.append_nil "/dl>".toList, openings_append (by decide), openings]
  have behind : (openings (listBody numeric gap items ++ "</dl>".toList)).filter isFragment = [] := by
    rw [openings_listBody numeric plain, ends, List.filter_nil]
  rw [chars, openings_tag opens, List.filter_cons_of_pos (isFragment_listTag ..)]
  exact congrArg (_ :: ·) behind

theorem elementText_listTag {title : String} (trimmed : Text.trim title.toList = title.toList)
    (each : ∀ term ∈ items, Text.trim term.toList = term.toList) :
    elementText (listTag numeric title (listBody numeric gap items ++ "</dl>".toList))
      = .ok (declarationText title items) := by
  have body : body? ['d', 'l'] (listBody numeric gap items ++ "</dl>".toList) = some (listBody numeric gap items) :=
    body?_listBody numeric plain items ['>']
  have read : ∀ {text : String}, Text.trim text.toList = text.toList →
      String.ofList (decodeEntities (Text.trim (escape numeric text.toList))) = text := by
    intro text trimmed
    rw [trim_escape, trimmed, decodeEntities_escape, String.ofList_toList]
  have terms : (terms (listBody numeric gap items)).map (fun term =>
      String.ofList (decodeEntities (Text.trim (stripTags term)))) = items := by
    rw [terms_listBody numeric plain, List.map_map]
    have same : ∀ term ∈ items, ((fun term => String.ofList (decodeEntities (Text.trim (stripTags term))))
        ∘ fun term => escape numeric term.toList) term = id term := by
      intro term inside
      rw [Function.comp, stripTags_of_plain (not_mem_escape numeric _)]
      exact read (each term inside)
    rw [List.map_congr_left same, List.map_id]
  have text : listText (listAttributes numeric title) (listBody numeric gap items)
      = .ok (declarationText title items) := by
    rw [listText, title?_listAttributes]
    simp only [read trimmed, terms]
  have name : (listTag numeric title (listBody numeric gap items ++ "</dl>".toList)).name.map Char.toLower
      = ['d', 'l'] := rfl
  rw [elementText, name, if_pos (.inl rfl)]
  simp only [listTag, body, if_true, text]

end

/-- A list is one fragment: the text that its title and its terms stand for. -/
theorem fragments_descriptiveList (numeric : Bool) {gap title : String} {items : List String}
    (plain : '<' ∉ gap.toList) (trimmed : Text.trim title.toList = title.toList)
    (each : ∀ term ∈ items, Text.trim term.toList = term.toList) :
    fragments (descriptiveList numeric gap title items) = [.ok (declarationText title items)] := by
  rw [fragments, openings_descriptiveList numeric plain, List.map_singleton,
    elementText_listTag numeric plain items trimmed each]

end Markup

end IdlBindings
