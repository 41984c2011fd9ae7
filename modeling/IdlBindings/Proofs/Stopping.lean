/-
# IdlBindings.Proofs.Stopping: a collection that stops at the first failure.

The settings say whether a failure is noted or ends the collection.  Both kinds of collection meet the same
outcomes in the same order.  As long as nothing fails they do the same, and where the one notes its first
warning the other stops, with the fault that the warning is about.
-/
import IdlBindings.Proofs.Collecting

namespace IdlBindings

/-- The document that a fault is about, if it is about one. -/
def RunFault.document? : RunFault → Option String
  | parse document _ | markup document _ | fetch document _ => some document
  | unmergeable _ | mapping _ | write _ _ | noInputs => none

/-- A warning is in the words of its fault and names its document. -/
theorem Warning.of_ofFault? {fault : RunFault} {unparsed : Option String} {warning : Warning}
    (noted : Warning.ofFault? fault unparsed = some warning) :
    fault.message = warning.message ∧ fault.document? = warning.document := by
  cases fault with
  | parse | markup | fetch =>
    cases noted
    exact ⟨rfl, rfl⟩
  | unmergeable | mapping | write | noInputs => cases noted

/-! ## The first failure -/

/-- A schema text that can be read. -/
def TextReads (text : Except Markup.MarkupFault String) : Prop :=
  ∃ schema definitions, text = .ok schema ∧ Schema.parse schema = .ok definitions

/-- A schema text that cannot be read, with its fault: there is no text, or it is not in the language. -/
inductive TextFails (document : String) : Except Markup.MarkupFault String → RunFault → Prop
  | markup (fault : Markup.MarkupFault) : TextFails document (.error fault) (.markup document fault)
  | parse {schema : String} {error : ParseError} (refused : Schema.parse schema = .error error) :
      TextFails document (.ok schema) (.parse document error)

namespace Fetched

/-- A document was fetched and all its texts can be read. -/
def Succeeds (fetched : Locator × Except FetchFault Document) : Prop :=
  ∃ document, fetched.2 = .ok document ∧ ∀ text ∈ document.texts, TextReads text

/-- The first fault of what was fetched: that nothing was, or that of the first text that cannot be
read. -/
inductive FirstFault : Locator × Except FetchFault Document → RunFault → Prop
  | unreachable (locator : Locator) (fault : FetchFault) :
      FirstFault (locator, .error fault) (.fetch locator.display fault)
  | unreadable {locator : Locator} {document : Document} {before after : List (Except Markup.MarkupFault String)}
      {text : Except Markup.MarkupFault String} {fault : RunFault}
      (split : document.texts = before ++ text :: after) (earlier : ∀ t ∈ before, TextReads t)
      (fails : TextFails document.locator.display text fault) :
      FirstFault (locator, .ok document) fault

end Fetched

/-- The fault that is met first when documents are read in order. -/
def EarliestFault (fetched : List (Locator × Except FetchFault Document)) (fault : RunFault) : Prop :=
  ∃ before item after, fetched = before ++ item :: after ∧ (∀ other ∈ before, Fetched.Succeeds other)
    ∧ Fetched.FirstFault item fault

theorem all_or_first {α : Type} (good : α → Prop) (xs : List α) :
    (∀ x ∈ xs, good x) ∨ ∃ before x after, xs = before ++ x :: after ∧ (∀ y ∈ before, good y) ∧ ¬ good x := by
  classical
  cases found : xs.find? fun x => !decide (good x) with
  | none => exact .inl (by simpa using found)
  | some x =>
    obtain ⟨bad, before, after, split, earlier⟩ := List.find?_eq_some_iff_append.1 found
    exact .inr ⟨before, x, after, split, by simpa using earlier, by simpa using bad⟩

theorem textFails_of_not_reads {text : Except Markup.MarkupFault String} (document : String)
    (unread : ¬ TextReads text) : ∃ fault, TextFails document text fault := by
  cases text with
  | error fault => exact ⟨_, .markup fault⟩
  | ok schema =>
    cases parsed : Schema.parse schema with
    | error error => exact ⟨_, .parse parsed⟩
    | ok definitions => exact absurd ⟨schema, definitions, rfl, parsed⟩ unread

/-! ## Outcomes -/

/-- An outcome that is no failure. -/
def Sound (outcome : Except FragmentFailure (List Definition)) : Prop :=
  ∃ definitions, outcome = .ok definitions

/-- The outcomes start with ones that are sound, and then comes a failure with this fault. -/
def BreaksWith (outcomes : List (Except FragmentFailure (List Definition))) (fault : RunFault) : Prop :=
  ∃ before unparsed after, outcomes = before ++ .error ⟨fault, unparsed⟩ :: after
    ∧ (∀ outcome ∈ before, Sound outcome)

theorem BreaksWith.append {outcomes : List (Except FragmentFailure (List Definition))} {fault : RunFault}
    (breaks : BreaksWith outcomes fault) {sound : List (Except FragmentFailure (List Definition))}
    (before : ∀ outcome ∈ sound, Sound outcome) (after : List (Except FragmentFailure (List Definition))) :
    BreaksWith (sound ++ outcomes ++ after) fault := by
  obtain ⟨first, unparsed, rest, rfl, earlier⟩ := breaks
  refine ⟨sound ++ first, unparsed, rest ++ after, by simp, ?_⟩
  intro outcome inside
  exact (List.mem_append.1 inside).elim (before outcome) (earlier outcome)

/-- How a schema text of a document comes out. -/
def textOutcome (document : String) : Except Markup.MarkupFault String → Except FragmentFailure (List Definition)
  | .ok schema => readFragment document schema
  | .error fault => .error ⟨.markup document fault, none⟩

theorem sound_of_reads {text : Except Markup.MarkupFault String} (document : String) (reads : TextReads text) :
    Sound (textOutcome document text) := by
  obtain ⟨schema, definitions, rfl, parsed⟩ := reads
  exact ⟨definitions, by simp [textOutcome, readFragment, parsed]⟩

theorem textOutcome_of_fails {document : String} {text : Except Markup.MarkupFault String} {fault : RunFault}
    (fails : TextFails document text fault) :
    ∃ unparsed, textOutcome document text = .error ⟨fault, unparsed⟩ := by
  cases fails with
  | markup fault => exact ⟨none, rfl⟩
  | @parse schema error refused => exact ⟨some schema, by simp [textOutcome, readFragment, refused]⟩

namespace Fetched

theorem outcomes_ok (locator : Locator) (document : Document) :
    outcomes (locator, .ok document) = document.texts.map (textOutcome document.locator.display) := by
  rw [outcomes, Document.read_eq]
  rfl

theorem sound_of_succeeds {fetched : Locator × Except FetchFault Document} (succeeds : Succeeds fetched) :
    ∀ outcome ∈ outcomes fetched, Sound outcome := by
  obtain ⟨locator, result⟩ := fetched
  obtain ⟨document, rfl, reads⟩ := succeeds
  rw [outcomes_ok, List.forall_mem_map]
  exact fun text listed => sound_of_reads _ (reads text listed)

theorem breaks_of_firstFault {fetched : Locator × Except FetchFault Document} {fault : RunFault}
    (first : FirstFault fetched fault) : BreaksWith (outcomes fetched) fault := by
  cases first with
  | unreachable locator fault => exact ⟨[], none, [], rfl, by simp⟩
  | @unreadable locator document before after text fault split earlier fails =>
    obtain ⟨unparsed, failed⟩ := textOutcome_of_fails fails
    rw [outcomes_ok, split, List.map_append, List.map_cons, failed]
    refine ⟨_, unparsed, _, rfl, ?_⟩
    rw [List.forall_mem_map]
    exact fun text listed => sound_of_reads _ (earlier text listed)

theorem firstFault_of_not_succeeds {fetched : Locator × Except FetchFault Document}
    (broken : ¬ Succeeds fetched) : ∃ fault, FirstFault fetched fault := by
  obtain ⟨locator, fault | document⟩ := fetched
  · exact ⟨_, .unreachable locator fault⟩
  · rcases all_or_first TextReads document.texts with all | ⟨before, text, after, split, earlier, unread⟩
    · exact absurd ⟨document, rfl, all⟩ broken
    · obtain ⟨fault, fails⟩ := textFails_of_not_reads document.locator.display unread
      exact ⟨fault, .unreadable split earlier fails⟩

end Fetched

theorem earliestFault_or_sound (fetched : List (Locator × Except FetchFault Document)) :
    (∀ outcome ∈ fetched.flatMap Fetched.outcomes, Sound outcome)
      ∨ ∃ fault, EarliestFault fetched fault := by
  rcases all_or_first Fetched.Succeeds fetched with all | ⟨before, item, after, split, earlier, broken⟩
  · left
    intro outcome inside
    obtain ⟨item, listed, inside⟩ := List.mem_flatMap.1 inside
    exact Fetched.sound_of_succeeds (all item listed) outcome inside
  · obtain ⟨fault, first⟩ := Fetched.firstFault_of_not_succeeds broken
    exact .inr ⟨fault, before, item, after, split, earlier, first⟩

theorem EarliestFault.breaks {fetched : List (Locator × Except FetchFault Document)} {fault : RunFault}
    (earliest : EarliestFault fetched fault) : BreaksWith (fetched.flatMap Fetched.outcomes) fault := by
  obtain ⟨before, item, after, rfl, earlier, first⟩ := earliest
  have sound : ∀ outcome ∈ before.flatMap Fetched.outcomes, Sound outcome := by
    intro outcome inside
    obtain ⟨other, listed, inside⟩ := List.mem_flatMap.1 inside
    exact Fetched.sound_of_succeeds (earlier other listed) outcome inside
  rw [List.flatMap_append, List.flatMap_cons, ← List.append_assoc]
  exact (Fetched.breaks_of_firstFault first).append sound _

/-! ## Strict collections -/

namespace Collection

variable {settings : Settings} {outcomes : List (Except FragmentFailure (List Definition))}

/-- What is sound is added, whatever the settings say about failures. -/
theorem foldlM_of_sound (settings : Settings) (collection : Collection)
    (sound : ∀ outcome ∈ outcomes, Sound outcome) :
    outcomes.foldlM (addFragment settings) collection
      = .ok (outcomes.foldl (after settings.selection) collection) := by
  induction outcomes generalizing collection with
  | nil => rfl
  | cons outcome outcomes ih =>
    rw [List.forall_mem_cons] at sound
    obtain ⟨⟨definitions, rfl⟩, sound⟩ := sound
    rw [List.foldlM_cons, List.foldl_cons, addFragment, foldl_add]
    exact ih _ sound

/-- A strict collection ends at a failure. -/
theorem addFragment_strict (strict : settings.bail = true) (collection : Collection) (failure : FragmentFailure) :
    addFragment settings collection (.error failure) = .error failure.fault := by
  simp [addFragment, recover, strict]

theorem foldlM_of_breaks {fault : RunFault} (strict : settings.bail = true) (breaks : BreaksWith outcomes fault)
    (collection : Collection) : outcomes.foldlM (addFragment settings) collection = .error fault := by
  obtain ⟨before, unparsed, after, rfl, sound⟩ := breaks
  rw [List.foldlM_append, foldlM_of_sound settings collection sound]
  show List.foldlM (addFragment settings) _ (.error ⟨fault, unparsed⟩ :: after) = _
  rw [List.foldlM_cons, addFragment_strict strict]
  rfl

theorem recoverable_outcomes (fetched : List (Locator × Except FetchFault Document)) :
    ∀ outcome ∈ fetched.flatMap Fetched.outcomes, Recoverable outcome := by
  intro outcome inside
  obtain ⟨item, -, inside⟩ := List.mem_flatMap.1 inside
  exact Fetched.recoverable inside

/-- A collection is there unless a failure ends it. -/
theorem exists_collect {fetched : List (Locator × Except FetchFault Document)} :
    (∃ collection, collect settings fetched = .ok collection)
      ↔ settings.bail = false ∨ ∀ outcome ∈ fetched.flatMap Fetched.outcomes, Sound outcome := by
  rw [collect_eq]
  cases mode : settings.bail with
  | false => exact ⟨fun _ => .inl rfl, fun _ => ⟨_, foldlM_addFragment mode (recoverable_outcomes fetched) {}⟩⟩
  | true =>
    rcases earliestFault_or_sound fetched with sound | ⟨fault, earliest⟩
    · exact ⟨fun _ => .inr sound, fun _ => ⟨_, foldlM_of_sound settings {} sound⟩⟩
    · have breaks := earliest.breaks
      constructor
      · rintro ⟨collection, collected⟩
        rw [foldlM_of_breaks mode breaks] at collected
        cases collected
      · rintro (⟨⟨⟩⟩ | sound)
        obtain ⟨before, unparsed, after, split, -⟩ := breaks
        obtain ⟨definitions, same⟩ := sound (.error ⟨fault, unparsed⟩) (by simp [split])
        cases same

theorem warnings_of_sound (sound : ∀ outcome ∈ outcomes, Sound outcome) :
    outcomes.filterMap outcomeWarning? = [] := by
  rw [List.filterMap_eq_nil_iff]
  intro outcome inside
  obtain ⟨definitions, rfl⟩ := sound outcome inside
  rfl

theorem warnings_of_breaks {fault : RunFault} (breaks : BreaksWith outcomes fault)
    (recoverable : ∀ outcome ∈ outcomes, Recoverable outcome) :
    ∃ first rest, outcomes.filterMap outcomeWarning? = first :: rest
      ∧ fault.message = first.message ∧ fault.document? = first.document := by
  obtain ⟨before, unparsed, after, rfl, sound⟩ := breaks
  have noted := Warning.isSome_ofFault? fault unparsed
  rw [recoverable (.error ⟨fault, unparsed⟩) (by simp) _ rfl, Option.isSome_iff_exists] at noted
  obtain ⟨warning, noted⟩ := noted
  have here : outcomeWarning? (.error ⟨fault, unparsed⟩) = some warning := noted
  refine ⟨warning, after.filterMap outcomeWarning?, ?_, Warning.of_ofFault? noted⟩
  rw [List.filterMap_append, warnings_of_sound sound, List.filterMap_cons_some here, List.nil_append]

theorem warnings_gathered (selection : Selection) (fetched : List (Locator × Except FetchFault Document)) :
    (gathered selection fetched).warnings
      = (fetched.flatMap Fetched.outcomes).filterMap outcomeWarning? := by
  rw [List.filterMap_flatMap]
  simp only [Fetched.warnings_eq]
  rfl

/-- Stopping at failures only changes when to stop.  If collecting without stopping gives no warning, then
stopping makes no difference.  Otherwise it ends with the fault that is met first, which has the words and
the document of the first warning. -/
theorem collect_stops (settings : Settings) (fetched : List (Locator × Except FetchFault Document)) :
    ∃ collection, collect { settings with bail := false } fetched = .ok collection
      ∧ match collection.warnings with
        | [] => ∃ collection', collect { settings with bail := true } fetched = .ok collection'
            ∧ collection'.registry = collection.registry ∧ collection'.dropped = collection.dropped
            ∧ collection'.warnings = []
        | first :: _ => ∃ fault, collect { settings with bail := true } fetched = .error fault
            ∧ EarliestFault fetched fault
            ∧ fault.message = first.message ∧ fault.document? = first.document := by
  refine ⟨gathered settings.selection fetched, collect_lenient settings fetched, ?_⟩
  rw [collect_eq, warnings_gathered]
  rcases earliestFault_or_sound fetched with sound | ⟨fault, earliest⟩
  · have quiet := warnings_of_sound sound
    rw [quiet]
    refine ⟨gathered settings.selection fetched, ?_, rfl, rfl, ?_⟩
    · rw [foldlM_of_sound _ _ sound, foldl_outcomes]
    · rw [warnings_gathered, quiet]
  · have breaks := earliest.breaks
    obtain ⟨first, rest, warned, words, document⟩ :=
      warnings_of_breaks breaks (recoverable_outcomes fetched)
    rw [warned]
    exact ⟨fault, foldlM_of_breaks rfl breaks {}, earliest, words, document⟩

end Collection

end IdlBindings
