/-
# IdlBindings.Proofs.Entities: character references are decoded once.

The references are decoded one kind after the other, each kind in the whole text.  A character that was
decoded stays in the text for the kinds that follow, but none of it is in their names, and the ampersand is
decoded last.  So the passes together do what a single pass does that never looks at its own output, and a
text in which the reserved characters are written as references comes out as it was.
-/
import IdlBindings.Markup.Fragment

namespace IdlBindings.Markup

/-! ## A single pass -/

/-- A text with its references decoded from left to right, each by the first kind that stands there. -/
def decodeOnce (references : List (List Char × Char)) (cs : List Char) : List Char :=
  match cs with
  | [] => []
  | c :: rest =>
    if c = '&' then
      match references.find? fun reference => reference.1.isPrefixOf rest with
      | some (name, decoded) => decoded :: decodeOnce references (rest.drop name.length)
      | none => c :: decodeOnce references rest
    else
      c :: decodeOnce references rest
termination_by cs.length
decreasing_by all_goals simp; try omega

section

variable {references : List (List Char × Char)} {c : Char} {name rest : List Char}

theorem decodeOnce_plain (plain : c ≠ '&') :
    decodeOnce references (c :: rest) = c :: decodeOnce references rest := by
  rw [decodeOnce, if_neg plain]

theorem decodeOnce_reference {decoded : Char}
    (found : references.find? (fun reference => reference.1.isPrefixOf rest) = some (name, decoded)) :
    decodeOnce references ('&' :: rest) = decoded :: decodeOnce references (rest.drop name.length) := by
  rw [decodeOnce, if_pos rfl, found]

theorem decodeOnce_named (name : List Char) {decoded : Char}
    (found : references.find? (fun reference => reference.1.isPrefixOf (name ++ rest)) = some (name, decoded)) :
    decodeOnce references ('&' :: (name ++ rest)) = decoded :: decodeOnce references rest := by
  rw [decodeOnce_reference found, List.drop_left]

theorem decodeOnce_ampersand
    (unknown : references.find? (fun reference => reference.1.isPrefixOf rest) = none) :
    decodeOnce references ('&' :: rest) = '&' :: decodeOnce references rest := by
  rw [decodeOnce, if_pos rfl, unknown]

theorem decodeOnce_nil (cs : List Char) : decodeOnce [] cs = cs := by
  induction cs with
  | nil => rw [decodeOnce]
  | cons c rest ih =>
    by_cases ampersand : c = '&'
    · rw [ampersand, decodeOnce_ampersand rfl, ih]
    · rw [decodeOnce_plain ampersand, ih]

/-- Where there is no ampersand nothing is decoded. -/
theorem decodeOnce_append (plain : '&' ∉ name) :
    decodeOnce references (name ++ rest) = name ++ decodeOnce references rest := by
  induction name with
  | nil => rfl
  | cons c name ih =>
    rw [List.mem_cons, not_or] at plain
    rw [List.cons_append, decodeOnce_plain (Ne.symm plain.1), ih plain.2, List.cons_append]

/-- What stands at the front of a decoded text stood there before, if none of it can have been decoded. -/
theorem prefix_of_decodeOnce (ampersand : '&' ∉ name) (decoded : ∀ reference ∈ references, reference.2 ∉ name)
    (front : name <+: decodeOnce references rest) : name <+: rest := by
  induction name generalizing rest with
  | nil => exact List.nil_prefix
  | cons a name ih =>
    rw [List.mem_cons, not_or] at ampersand
    have later : ∀ reference ∈ references, reference.2 ∉ name :=
      fun reference inside listed => decoded reference inside (List.mem_cons_of_mem a listed)
    cases rest with
    | nil =>
      rw [decodeOnce] at front
      exact front
    | cons c rest =>
      by_cases same : c = '&'
      · subst same
        cases found : references.find? fun reference => reference.1.isPrefixOf rest with
        | none =>
          rw [decodeOnce_ampersand found, List.cons_prefix_cons] at front
          exact absurd front.1.symm ampersand.1
        | some reference =>
          rw [decodeOnce_reference found, List.cons_prefix_cons] at front
          have listed := decoded reference (List.mem_of_find?_eq_some found)
          rw [← front.1] at listed
          exact absurd (List.mem_cons_self ..) listed
      · rw [decodeOnce_plain same, List.cons_prefix_cons] at front
        exact List.cons_prefix_cons.2 ⟨front.1, ih ampersand.2 later front.2⟩

end

/-! ## One kind after the other -/

section

variable {first c : Char} {others new rest : List Char}

theorem replaceText_plain (plain : c ≠ first) :
    replaceText first others new (c :: rest) = c :: replaceText first others new rest := by
  rw [replaceText, if_neg fun found => plain found.1]

theorem replaceText_other (absent : ¬ others <+: rest) :
    replaceText first others new (first :: rest) = first :: replaceText first others new rest := by
  rw [replaceText, if_neg fun found => absent (List.isPrefixOf_iff_prefix.1 found.2)]

theorem replaceText_found (first : Char) (others new rest : List Char) :
    replaceText first others new (first :: (others ++ rest)) = new ++ replaceText first others new rest := by
  have present : others.isPrefixOf (others ++ rest) = true := List.isPrefixOf_iff_prefix.2 (List.prefix_append ..)
  rw [replaceText, if_pos ⟨rfl, present⟩, List.drop_left]

end

/-- One more kind can be decoded in the pass or behind it. -/
theorem replaceText_decodeOnce {references : List (List Char × Char)} {name : List Char} {decoded : Char}
    (plain : '&' ∉ name) (apart : ∀ reference ∈ references, reference.2 ≠ '&' ∧ reference.2 ∉ name)
    (cs : List Char) :
    replaceText '&' name [decoded] (decodeOnce references cs) = decodeOnce (references ++ [(name, decoded)]) cs := by
  -- The induction follows the pass with the new kind, which jumps over the references that it decodes.
  fun_induction decodeOnce (references ++ [(name, decoded)]) cs with
  | case1 => simp [decodeOnce, replaceText]
  | case2 rest name' decoded' found ih =>
    rw [List.find?_append] at found
    cases known : references.find? fun reference => reference.1.isPrefixOf rest with
    | some reference =>
      rw [known, Option.some_or] at found
      cases found
      have decodes := apart _ (List.mem_of_find?_eq_some known)
      rw [decodeOnce_reference known, replaceText_plain decodes.1, ih]
    | none =>
      rw [known, Option.none_or] at found
      obtain ⟨rfl, rfl⟩ : name' = name ∧ decoded' = decoded := by simpa using List.mem_of_find?_eq_some found
      obtain ⟨behind, rfl⟩ : name' <+: rest := by simpa using List.find?_some found
      rw [List.drop_left] at ih
      rw [decodeOnce_ampersand known, decodeOnce_append plain, replaceText_found, List.drop_left, ih]
      rfl
  | case3 rest unknown ih =>
    rw [List.find?_append, Option.or_eq_none_iff] at unknown
    obtain ⟨known, absent⟩ := unknown
    have absent : ¬ name <+: rest := by simpa using absent
    rw [decodeOnce_ampersand known, replaceText_other, ih]
    exact fun front => absent (prefix_of_decodeOnce plain (fun reference inside => (apart reference inside).2) front)
  | case4 c rest other ih => rw [decodeOnce_plain other, replaceText_plain other, ih]

/-- Kinds of references that may be decoded in this order: no name has an ampersand or a character that an
earlier kind stands for, and only the last kind may stand for an ampersand. -/
def InOrder (references : List (List Char × Char)) : Prop :=
  (∀ reference ∈ references, '&' ∉ reference.1)
    ∧ references.Pairwise fun earlier later => earlier.2 ≠ '&' ∧ earlier.2 ∉ later.1

theorem foldl_replaceText (references later : List (List Char × Char)) (ordered : InOrder (references ++ later))
    (cs : List Char) :
    later.foldl (fun cs (name, c) => replaceText '&' name [c] cs) (decodeOnce references cs)
      = decodeOnce (references ++ later) cs := by
  induction later generalizing references with
  | nil => rw [List.append_nil, List.foldl_nil]
  | cons reference later ih =>
    obtain ⟨name, decoded⟩ := reference
    obtain ⟨plain, apart⟩ := ordered
    have earlier : ∀ other ∈ references, other.2 ≠ '&' ∧ other.2 ∉ name :=
      fun other inside => (List.pairwise_append.1 apart).2.2 other inside (name, decoded) (List.mem_cons_self ..)
    have split : references ++ (name, decoded) :: later = (references ++ [(name, decoded)]) ++ later := by simp
    rw [split] at plain apart ⊢
    have step : replaceText '&' name [decoded] (decodeOnce references cs)
        = decodeOnce (references ++ [(name, decoded)]) cs :=
      replaceText_decodeOnce (plain (name, decoded) (by simp)) earlier cs
    calc ((name, decoded) :: later).foldl (fun cs (name, c) => replaceText '&' name [c] cs) (decodeOnce references cs)
      _ = later.foldl (fun cs (name, c) => replaceText '&' name [c] cs)
            (replaceText '&' name [decoded] (decodeOnce references cs)) := rfl
      _ = decodeOnce ((references ++ [(name, decoded)]) ++ later) cs := by rw [step, ih _ ⟨plain, apart⟩]

theorem inOrder_entities : InOrder entities := by
  constructor <;> decide

/-- The passes together are one pass. -/
theorem decodeEntities_eq (cs : List Char) : decodeEntities cs = decodeOnce entities cs := by
  have passes : decodeEntities (decodeOnce [] cs) = decodeOnce entities cs :=
    foldl_replaceText [] entities inOrder_entities cs
  rwa [decodeOnce_nil] at passes

/-! ## The pass written out -/

/-- A text with its references decoded, each where it stands and without a second look at what comes out. -/
def decodeLeftToRight : List Char → List Char
  | '&' :: 'l' :: 't' :: ';' :: rest => '<' :: decodeLeftToRight rest
  | '&' :: 'g' :: 't' :: ';' :: rest => '>' :: decodeLeftToRight rest
  | '&' :: 'q' :: 'u' :: 'o' :: 't' :: ';' :: rest => '"' :: decodeLeftToRight rest
  | '&' :: '#' :: '3' :: '9' :: ';' :: rest => '\'' :: decodeLeftToRight rest
  | '&' :: 'a' :: 'p' :: 'o' :: 's' :: ';' :: rest => '\'' :: decodeLeftToRight rest
  | '&' :: 'n' :: 'b' :: 's' :: 'p' :: ';' :: rest => ' ' :: decodeLeftToRight rest
  | '&' :: 'a' :: 'm' :: 'p' :: ';' :: rest => '&' :: decodeLeftToRight rest
  | c :: rest => c :: decodeLeftToRight rest
  | [] => []

theorem decodeOnce_entities (cs : List Char) : decodeOnce entities cs = decodeLeftToRight cs := by
  fun_induction decodeLeftToRight cs with
  | case1 rest ih => exact (decodeOnce_named "lt;".toList rfl).trans (congrArg _ ih)
  | case2 rest ih => exact (decodeOnce_named "gt;".toList rfl).trans (congrArg _ ih)
  | case3 rest ih => exact (decodeOnce_named "quot;".toList rfl).trans (congrArg _ ih)
  | case4 rest ih => exact (decodeOnce_named "#39;".toList rfl).trans (congrArg _ ih)
  | case5 rest ih => exact (decodeOnce_named "apos;".toList rfl).trans (congrArg _ ih)
  | case6 rest ih => exact (decodeOnce_named "nbsp;".toList rfl).trans (congrArg _ ih)
  | case7 rest ih => exact (decodeOnce_named "amp;".toList rfl).trans (congrArg _ ih)
  | case8 c rest noLt noGt noQuot noNumber noApos noNbsp noAmp ih =>
    by_cases ampersand : c = '&'
    · subst ampersand
      -- A name behind the ampersand would have been one of the cases before this one.
      have unknown : entities.find? (fun reference => reference.1.isPrefixOf rest) = none := by
        rw [List.find?_eq_none]
        intro reference listed front
        obtain ⟨behind, rfl⟩ := List.isPrefixOf_iff_prefix.1 front
        simp only [entities, List.mem_cons, List.not_mem_nil, or_false] at listed
        rcases listed with rfl | rfl | rfl | rfl | rfl | rfl | rfl
        · exact noLt behind rfl rfl
        · exact noGt behind rfl rfl
        · exact noQuot behind rfl rfl
        · exact noNumber behind rfl rfl
        · exact noApos behind rfl rfl
        · exact noNbsp behind rfl rfl
        · exact noAmp behind rfl rfl
      rw [decodeOnce_ampersand unknown, ih]
    · rw [decodeOnce_plain ampersand, ih]
  | case9 => rw [decodeOnce]

/-! ## Reserved characters -/

/-- The characters that are written as references. -/
def reserved : List Char :=
  ['&', '<', '>', '"', '\'']

/-- A character as it is written in markup.  There are two ways to write an apostrophe, by its number or by
its name. -/
def escapeChar (numeric : Bool) (c : Char) : List Char :=
  if c = '&' then "&amp;".toList
  else if c = '<' then "&lt;".toList
  else if c = '>' then "&gt;".toList
  else if c = '"' then "&quot;".toList
  else if c = '\'' then if numeric then "&#39;".toList else "&apos;".toList
  else [c]

/-- A text as it is written in markup. -/
def escape (numeric : Bool) (cs : List Char) : List Char :=
  cs.flatMap (escapeChar numeric)

theorem escapeChar_plain (numeric : Bool) {c : Char} (plain : c ∉ reserved) : escapeChar numeric c = [c] := by
  simp only [reserved, List.mem_cons, List.not_mem_nil, or_false, not_or] at plain
  obtain ⟨ampersand, less, greater, quote, apostrophe⟩ := plain
  rw [escapeChar, if_neg ampersand, if_neg less, if_neg greater, if_neg quote, if_neg apostrophe]

/-- Of the reserved characters only the ampersand is in what is written. -/
theorem not_mem_escape_of_reserved (numeric : Bool) (cs : List Char) {d : Char} (listed : d ∈ reserved)
    (other : d ≠ '&') : d ∉ escape numeric cs := by
  have checked : reserved.all (fun c => reserved.all fun d => d == '&' || !(escapeChar numeric c).contains d)
      = true := by cases numeric <;> rfl
  intro inside
  obtain ⟨c, -, inside⟩ := List.mem_flatMap.1 inside
  by_cases known : c ∈ reserved
  · have written : d ∉ escapeChar numeric c := by
      simpa [other] using List.all_eq_true.1 (List.all_eq_true.1 checked c known) d listed
    exact written inside
  · rw [escapeChar_plain numeric known, List.mem_singleton] at inside
    exact known (inside ▸ listed)

theorem not_mem_escape (numeric : Bool) (cs : List Char) : '<' ∉ escape numeric cs :=
  not_mem_escape_of_reserved numeric cs (by decide) (by decide)

theorem decodeOnce_escapeChar (numeric : Bool) (c : Char) (rest : List Char) :
    decodeOnce entities (escapeChar numeric c ++ rest) = c :: decodeOnce entities rest := by
  by_cases known : c ∈ reserved
  · simp only [reserved, List.mem_cons, List.not_mem_nil, or_false] at known
    rcases known with rfl | rfl | rfl | rfl | rfl
    · exact decodeOnce_named "amp;".toList rfl
    · exact decodeOnce_named "lt;".toList rfl
    · exact decodeOnce_named "gt;".toList rfl
    · exact decodeOnce_named "quot;".toList rfl
    · cases numeric
      · exact decodeOnce_named "apos;".toList rfl
      · exact decodeOnce_named "#39;".toList rfl
  · rw [escapeChar_plain numeric known]
    exact decodeOnce_plain fun ampersand => known (by rw [ampersand]; decide)

/-- A text comes back from the way it is written. -/
theorem decodeEntities_escape (numeric : Bool) (cs : List Char) :
    decodeEntities (escape numeric cs) = cs := by
  rw [decodeEntities_eq]
  induction cs with
  | nil => rw [escape, List.flatMap_nil, decodeOnce]
  | cons c cs ih => rw [escape, List.flatMap_cons, decodeOnce_escapeChar, ← escape, ih]

/-- The passes do what a reader of references does who goes through the text once.  So every text comes back
from the way it is written, also one that looks like a reference itself. -/
theorem decodeEntities_single_pass (cs : List Char) :
    decodeEntities cs = decodeLeftToRight cs ∧ ∀ numeric, decodeEntities (escape numeric cs) = cs :=
  ⟨(decodeEntities_eq cs).trans (decodeOnce_entities cs), fun numeric => decodeEntities_escape numeric cs⟩

example : decodeLeftToRight "&amp;lt; &am&lt;p;".toList = "&lt; &am<p;".toList := rfl

end IdlBindings.Markup
