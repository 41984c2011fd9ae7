/-
# IdlBindings.Markup.Element: tags and their attributes.

Markup is scanned for opening tags; it is not checked to be well formed.  A tag ends at the first
closing angle bracket, wherever that stands.  Letters match up to case.
-/
import IdlBindings.Text.Basic
import IdlBindings.Text.Fold
import IdlBindings.Text.Word

namespace IdlBindings.Markup

/-! ## Scanning -/

/-- Splits off a text that matches up to case, if it stands at the front. -/
def stripFold? : List Char → List Char → Option (List Char)
  | [], cs => some cs
  | _ :: _, [] => none
  | p :: ps, c :: cs => if Text.sameFold p c then stripFold? ps cs else none

/-- Splits a text around the first place where `strip?` succeeds: what stands before it, and what is
left behind it. -/
def splitAt? (strip? : List Char → Option (List Char)) :
    List Char → Option (List Char × List Char)
  | [] => (strip? []).map fun rest => ([], rest)
  | c :: cs =>
    match strip? (c :: cs) with
    | some rest => some ([], rest)
    | none => (splitAt? strip? cs).map fun (before, rest) => (c :: before, rest)

/-- Splits a text around the first closing angle bracket. -/
def splitTagEnd? (cs : List Char) : Option (List Char × List Char) :=
  match cs.dropWhile (· != '>') with
  | _ :: rest => some (cs.takeWhile (· != '>'), rest)
  | [] => none

/-! ## Opening tags -/

/-- Whether a character is a letter from a to z up to case. -/
def isTagLetter (c : Char) : Bool :=
  let n := Text.fold c.toNat
  0x61 ≤ n && n ≤ 0x7a

/-- Whether a character may continue the name of a tag. -/
def isTagChar (c : Char) : Bool :=
  isTagLetter c || c.isDigit

/-- An opening tag: its name, its attributes as written, and the text behind it. -/
structure Opening where
  name : List Char
  attributes : List Char
  rest : List Char

/-- The opening tag at the front of a text, behind its angle bracket.  No word character may follow
the name. -/
def opening? (cs : List Char) : Option Opening :=
  match cs with
  | [] => none
  | c :: rest =>
    let behind := rest.dropWhile isTagChar
    if isTagLetter c && !behind.head?.any Text.isWord then
      (splitTagEnd? behind).map fun (attributes, rest') =>
        ⟨c :: rest.takeWhile isTagChar, attributes, rest'⟩
    else
      none

theorem length_splitTagEnd? {cs before rest : List Char}
    (h : splitTagEnd? cs = some (before, rest)) : rest.length < cs.length := by
  unfold splitTagEnd? at h
  split at h
  · next c tail found =>
    obtain ⟨-, rfl⟩ : _ ∧ tail = rest := by simpa using h
    have bound := (List.dropWhile_suffix (l := cs) (· != '>')).length_le
    rw [found] at bound
    simp at bound
    omega
  · simp at h

theorem length_opening? {cs : List Char} {tag : Opening} (h : opening? cs = some tag) :
    tag.rest.length < cs.length := by
  cases cs with
  | nil => simp [opening?] at h
  | cons c rest =>
    simp only [opening?] at h
    split at h
    · obtain ⟨⟨attributes, rest'⟩, found, rfl⟩ := Option.map_eq_some_iff.1 h
      have := length_splitTagEnd? found
      have bound := (List.dropWhile_suffix (l := rest) isTagChar).length_le
      simp
      omega
    · simp at h

/-- All opening tags of a text, in order.  The search goes on behind each. -/
def openings (cs : List Char) : List Opening :=
  match cs with
  | [] => []
  | c :: rest =>
    if c = '<' then
      match _h : opening? rest with
      | some tag => tag :: openings tag.rest
      | none => openings rest
    else
      openings rest
termination_by cs.length
decreasing_by
  · have := length_opening? _h
    simp
    omega
  · simp
  · simp

/-! ## Attributes -/

/-- A value in quotes at the front of a text, if the quote is closed. -/
def quotedValue? (cs : List Char) : Option (List Char) :=
  match cs with
  | q :: rest =>
    if (q = '"' ∨ q = '\'') ∧ rest.contains q then some (rest.takeWhile (· != q)) else none
  | [] => none

/-- A value without quotes at the front of a text: it ends at a blank. -/
def bareValue? (cs : List Char) : Option (List Char) :=
  match cs.takeWhile fun c => !Text.isWhitespace c && c != '>' with
  | [] => none
  | value => some value

/-- The value of an attribute that stands at the front of a text.  A value without quotes counts only
if `bare` is set. -/
def valueAt? (name : List Char) (bare : Bool) (cs : List Char) : Option (List Char) := do
  let rest ← stripFold? name cs
  match Text.trimStart rest with
  | '=' :: rest =>
    let value := Text.trimStart rest
    match quotedValue? value with
    | some text => some text
    | none => if bare then bareValue? value else none
  | _ => none

/-- The value of the first occurrence of an attribute with a value.  A name does not start inside a
word; `inWord` says whether a word character stands in front. -/
def valueFrom? (name : List Char) (bare inWord : Bool) : List Char → Option (List Char)
  | [] => none
  | c :: cs =>
    match if inWord then none else valueAt? name bare (c :: cs) with
    | some value => some value
    | none => valueFrom? name bare (Text.isWord c) cs

/-- The classes of an element. -/
def classes (attributes : List Char) : List (List Char) :=
  match valueFrom? "class".toList true false attributes with
  | some value => Text.words value
  | none => []

/-- The title of an element. -/
def title? (attributes : List Char) : Option (List Char) :=
  valueFrom? "title".toList false false attributes

/-! ## Bodies -/

/-- A text without its tags.  An opening angle bracket that is never closed stays. -/
def stripTags (cs : List Char) : List Char :=
  match cs with
  | [] => []
  | c :: rest =>
    if c = '<' then
      match _h : splitTagEnd? rest with
      | some (_, behind) => stripTags behind
      | none => c :: stripTags rest
    else
      c :: stripTags rest
termination_by cs.length
decreasing_by
  · have := length_splitTagEnd? _h
    simp
    omega
  · simp
  · simp

/-- The body of an element: the text up to the next closing tag of its name.  The name is in small
letters, and only ASCII letters match up to case. -/
def body? (name : List Char) (cs : List Char) : Option (List Char) :=
  let closing := '<' :: '/' :: name
  (splitAt? (fun cs =>
    if (cs.take closing.length).map Char.toLower = closing then some (cs.drop closing.length)
    else none) cs).map (·.1)

/-- The term at the front of a text, behind its angle bracket: its contents and the text behind its
closing tag. -/
def term? (cs : List Char) : Option (List Char × List Char) := do
  let behind ← stripFold? ['d', 't'] cs
  if behind.head?.any Text.isWord then none
  else
    let (_, rest) ← splitTagEnd? behind
    splitAt? (stripFold? "</dt>".toList) rest

theorem length_stripFold? {p cs rest : List Char} (h : stripFold? p cs = some rest) :
    rest.length + p.length = cs.length := by
  fun_induction stripFold? p cs with
  | case1 => simp_all
  | case2 => simp at h
  | case3 p ps c cs same ih =>
    have := ih h
    simp
    omega
  | case4 => simp at h

theorem length_splitAt? {strip? : List Char → Option (List Char)}
    (short : ∀ cs rest, strip? cs = some rest → rest.length ≤ cs.length)
    {cs before rest : List Char} (h : splitAt? strip? cs = some (before, rest)) :
    rest.length ≤ cs.length := by
  induction cs generalizing before with
  | nil =>
    obtain ⟨rest', found, same⟩ := Option.map_eq_some_iff.1 h
    obtain ⟨-, rfl⟩ : _ ∧ rest' = rest := by simpa using same
    exact short _ _ found
  | cons c cs ih =>
    rw [splitAt?] at h
    split at h
    · next found =>
      obtain ⟨-, rfl⟩ : _ ∧ _ = rest := by simpa using h
      exact short _ _ found
    · obtain ⟨⟨before', rest'⟩, found, same⟩ := Option.map_eq_some_iff.1 h
      obtain ⟨-, rfl⟩ : _ ∧ rest' = rest := by simpa using same
      have := ih found
      simp
      omega

theorem length_term? {cs text rest : List Char} (h : term? cs = some (text, rest)) :
    rest.length < cs.length := by
  simp only [term?, Option.bind_eq_bind] at h
  obtain ⟨behind, stripped, h⟩ := Option.bind_eq_some_iff.1 h
  split at h
  · simp at h
  · obtain ⟨⟨attributes, rest'⟩, found, h⟩ := Option.bind_eq_some_iff.1 h
    have first := length_stripFold? stripped
    have second := length_splitTagEnd? found
    have third : rest.length ≤ rest'.length := length_splitAt? (fun cs rest h => by
      have := length_stripFold? h
      omega) h
    omega

/-- The contents of all terms of a list, in order.  The search goes on behind each. -/
def terms (cs : List Char) : List (List Char) :=
  match cs with
  | [] => []
  | c :: rest =>
    if c = '<' then
      match _h : term? rest with
      | some (text, behind) => text :: terms behind
      | none => terms rest
    else
      terms rest
termination_by cs.length
decreasing_by
  · have := length_term? _h
    simp
    omega
  · simp
  · simp

end IdlBindings.Markup
