/-
# IdlBindings.Proofs.Collecting: what a collection holds.

Documents are collected in loops: over what was fetched, over the fragments of a document, over the
definitions of a fragment.  Taken together they run over one list of outcomes, each of which is a list of
definitions or a failure.  A definition is dropped or put into the registry, a failure becomes a warning,
and neither touches what the others leave behind.  So all three parts of a collection can be said outright.
-/
import Mathlib
import IdlBindings.Proofs.Grouping
import IdlBindings.Proofs.TreeSteps
import IdlBindings.Run.Collection

namespace IdlBindings

/-! ## Selection -/

namespace Selection

variable {selection : Selection} {name : String}

/-- Whether a name is kept: it matches all patterns of the first list and none of the second. -/
def keeps (selection : Selection) (name : String) : Bool :=
  selection.only.all (·.isMatch name) && !selection.skip.any (·.isMatch name)

/-- Why a name is not kept: the first pattern of the first list that it does not match or, if it matches
all of them, the first pattern of the second list that it matches. -/
inductive Refuses (selection : Selection) (name : String) : DropReason → Prop
  | only {before after : List Pattern} {pattern : Pattern}
      (split : selection.only = before ++ pattern :: after)
      (earlier : ∀ p ∈ before, p.isMatch name = true) (fails : pattern.isMatch name = false) :
      Refuses selection name (.notMatchingOnly pattern.source)
  | skip {before after : List Pattern} {pattern : Pattern}
      (all : ∀ p ∈ selection.only, p.isMatch name = true)
      (split : selection.skip = before ++ pattern :: after)
      (earlier : ∀ p ∈ before, p.isMatch name = false) (found : pattern.isMatch name = true) :
      Refuses selection name (.matchedSkip pattern.source)

theorem dropReason?_eq_none : selection.dropReason? name = none ↔ selection.keeps name = true := by
  simp only [dropReason?, keeps]
  cases found : selection.only.find? fun pattern => !pattern.isMatch name with
  | none => simp_all
  | some pattern =>
    have fails := List.find?_some found
    have listed := List.mem_of_find?_eq_some found
    simp only [Bool.and_eq_true, List.all_eq_true, reduceCtorEq, false_iff, not_and]
    intro all
    simp [all pattern listed] at fails

theorem keeps_eq_false {reason : DropReason} (dropped : selection.dropReason? name = some reason) :
    selection.keeps name = false := by
  rw [← Bool.not_eq_true, ← dropReason?_eq_none, dropped]
  exact Option.some_ne_none reason

theorem refuses_of_dropReason? {reason : DropReason} (dropped : selection.dropReason? name = some reason) :
    selection.Refuses name reason := by
  rw [dropReason?] at dropped
  cases found : selection.only.find? fun pattern => !pattern.isMatch name with
  | some pattern =>
    rw [found] at dropped
    cases dropped
    obtain ⟨fails, before, after, split, earlier⟩ := List.find?_eq_some_iff_append.1 found
    exact .only split (by simpa using earlier) (by simpa using fails)
  | none =>
    rw [found, Option.map_eq_some_iff] at dropped
    obtain ⟨pattern, skipped, rfl⟩ := dropped
    obtain ⟨matched, before, after, split, earlier⟩ := List.find?_eq_some_iff_append.1 skipped
    exact .skip (by simpa using found) split (by simpa using earlier) matched

/-- The definitions that are kept, under their new names. -/
def kept (selection : Selection) (definitions : List Definition) : List Definition :=
  (definitions.filter fun d => selection.keeps d.name).map selection.rename

/-- The definitions that are dropped, with the reasons. -/
def droppedOf (selection : Selection) (definitions : List Definition) : List Dropped :=
  definitions.filterMap fun d => (selection.dropReason? d.name).map fun reason => ⟨d.name, reason⟩

theorem kept_append (selection : Selection) (ds ds' : List Definition) :
    selection.kept (ds ++ ds') = selection.kept ds ++ selection.kept ds' := by
  simp [kept]

theorem droppedOf_append (selection : Selection) (ds ds' : List Definition) :
    selection.droppedOf (ds ++ ds') = selection.droppedOf ds ++ selection.droppedOf ds' := by
  simp [droppedOf]

theorem refuses_droppedOf (selection : Selection) (definitions : List Definition) :
    List.Forall₂ (fun d (entry : Dropped) => entry.name = d.name ∧ selection.Refuses d.name entry.reason)
      (definitions.filter fun d => !selection.keeps d.name) (selection.droppedOf definitions) := by
  induction definitions with
  | nil => exact .nil
  | cons d definitions ih =>
    unfold droppedOf
    cases reason : selection.dropReason? d.name with
    | none =>
      have kept := dropReason?_eq_none.1 reason
      rw [List.filter_cons_of_neg (by simp [kept]), List.filterMap_cons_none (by simp [reason])]
      exact ih
    | some why =>
      have refused := keeps_eq_false reason
      rw [List.filter_cons_of_pos (by simp [refused]), List.filterMap_cons_some (by rw [reason]; rfl)]
      exact .cons ⟨rfl, refuses_of_dropReason? reason⟩ ih

end Selection

/-! ## What was fetched -/

/-- The schema texts of a document, in order. -/
def Document.texts (document : Document) : List (Except Markup.MarkupFault String) :=
  if document.isMarkup then Markup.fragments document.contents else [.ok document.contents]

/-- The definitions of a schema text; none if it cannot be read. -/
def textDefinitions : Except Markup.MarkupFault String → List Definition
  | .error _ => []
  | .ok text =>
    match Schema.parse text with
    | .ok definitions => definitions
    | .error _ => []

/-- The warning about a schema text that cannot be read. -/
def textWarning? (document : String) : Except Markup.MarkupFault String → Option Warning
  | .error fault =>
    some { message := "Unable to extract IDL from markup in " ++ document ++ ": " ++ fault.message
           document := some document, unparsed := none, kind := .unparsableMarkup }
  | .ok text =>
    match Schema.parse text with
    | .ok _ => none
    | .error error =>
      some { message := "Unable to parse IDL in " ++ document ++ ": " ++ error.message
             document := some document, unparsed := some text, kind := .unparsableDocument }

namespace Fetched

/-- The definitions in what was fetched: those of all texts that can be read. -/
def definitions : Locator × Except FetchFault Document → List Definition
  | (_, .error _) => []
  | (_, .ok document) => document.texts.flatMap textDefinitions

/-- The warnings about what was fetched: that it was not there, or one for each text that cannot be
read. -/
def warnings : Locator × Except FetchFault Document → List Warning
  | (locator, .error fault) =>
    [{ message := "Unable to source " ++ locator.display ++ ": " ++ fault.message
       document := some locator.display, unparsed := none, kind := .unreachableDocument }]
  | (_, .ok document) => document.texts.filterMap (textWarning? document.locator.display)

/-- The fragments of what was fetched.  If nothing was, that is the one failure. -/
def outcomes : Locator × Except FetchFault Document → List (Except FragmentFailure (List Definition))
  | (locator, .error fault) => [.error ⟨.fetch locator.display fault, none⟩]
  | (_, .ok document) => document.read

/-- Nothing of what was fetched can be read. -/
def Fails : Locator × Except FetchFault Document → Prop
  | (_, .error _) => True
  | (_, .ok document) => ∀ text ∈ document.texts, ∀ t, text = .ok t → ∃ error, Schema.parse t = .error error

theorem definitions_of_fails {fetched : Locator × Except FetchFault Document} (fails : Fails fetched) :
    definitions fetched = [] := by
  rcases fetched with ⟨locator, fault | document⟩
  · rfl
  · refine List.flatMap_eq_nil_iff.2 fun text inside => ?_
    cases text with
    | error fault => rfl
    | ok text =>
      obtain ⟨error, refused⟩ := fails (.ok text) inside text rfl
      simp [textDefinitions, refused]

end Fetched

/-! ## One outcome -/

theorem Warning.isSome_ofFault? (fault : RunFault) (unparsed : Option String) :
    (Warning.ofFault? fault unparsed).isSome = fault.isRecoverable := by
  cases fault <;> rfl

/-- The definitions of an outcome; a failure has none. -/
def outcomeDefinitions : Except FragmentFailure (List Definition) → List Definition
  | .ok definitions => definitions
  | .error _ => []

/-- The warning of an outcome, if it is a failure that a run can go on without. -/
def outcomeWarning? : Except FragmentFailure (List Definition) → Option Warning
  | .ok _ => none
  | .error failure => Warning.ofFault? failure.fault failure.unparsed

/-- A run can go on after an outcome. -/
def Recoverable (outcome : Except FragmentFailure (List Definition)) : Prop :=
  ∀ failure, outcome = .error failure → failure.fault.isRecoverable = true

namespace Document

/-- Reading a document goes through its texts. -/
theorem read_eq (document : Document) :
    document.read = document.texts.map fun text =>
      match text with
      | .ok text => readFragment document.locator.display text
      | .error fault => .error ⟨.markup document.locator.display fault, none⟩ := by
  rw [read, texts]
  split <;> rfl

end Document

namespace Fetched

theorem definitions_eq (fetched : Locator × Except FetchFault Document) :
    (outcomes fetched).flatMap outcomeDefinitions = definitions fetched := by
  rcases fetched with ⟨locator, fault | document⟩
  · rfl
  · rw [outcomes, definitions, Document.read_eq, List.flatMap_map]
    congr 1
    funext text
    cases text with
    | error fault => rfl
    | ok text =>
      simp only [readFragment, textDefinitions]
      cases Schema.parse text <;> rfl

theorem warnings_eq (fetched : Locator × Except FetchFault Document) :
    (outcomes fetched).filterMap outcomeWarning? = warnings fetched := by
  rcases fetched with ⟨locator, fault | document⟩
  · rfl
  · rw [outcomes, warnings, Document.read_eq, List.filterMap_map]
    congr 1
    funext text
    cases text with
    | error fault => rfl
    | ok text =>
      simp only [Function.comp, readFragment, textWarning?]
      cases Schema.parse text <;> rfl

theorem recoverable {fetched : Locator × Except FetchFault Document}
    {outcome : Except FragmentFailure (List Definition)} (inside : outcome ∈ outcomes fetched) :
    Recoverable outcome := by
  rcases fetched with ⟨locator, fault | document⟩
  · rw [List.mem_singleton.1 inside]
    rintro _ ⟨⟩
    rfl
  · rw [outcomes, Document.read_eq, List.mem_map] at inside
    obtain ⟨text, -, rfl⟩ := inside
    cases text with
    | error fault =>
      rintro _ ⟨⟩
      rfl
    | ok text =>
      intro failure failed
      simp only [readFragment] at failed
      cases read : Schema.parse text with
      | ok definitions => simp [read] at failed
      | error error =>
        rw [read] at failed
        cases failed
        rfl

end Fetched

/-! ## Steps and runs -/

namespace Collection

variable {settings : Settings} {collection collection' : Collection}

/-- A collection to which definitions and warnings were added. -/
def grow (selection : Selection) (collection : Collection) (definitions : List Definition)
    (warnings : List Warning) : Collection where
  registry := collection.registry.insertAll (selection.kept definitions)
  dropped := collection.dropped ++ selection.droppedOf definitions
  warnings := collection.warnings ++ warnings

/-- A failure adds to the warnings only. -/
theorem grow_warnings (selection : Selection) (collection : Collection) (warnings : List Warning) :
    collection.grow selection [] warnings
      = { collection with warnings := collection.warnings ++ warnings } := by
  simp [grow, Selection.kept, Selection.droppedOf, Registry.insertAll]

theorem grow_nil (selection : Selection) (collection : Collection) :
    collection.grow selection [] [] = collection := by
  rw [grow_warnings, List.append_nil]

theorem grow_grow (selection : Selection) (ds ds' : List Definition) (ws ws' : List Warning) :
    (collection.grow selection ds ws).grow selection ds' ws'
      = collection.grow selection (ds ++ ds') (ws ++ ws') := by
  simp [grow, Selection.kept_append, Selection.droppedOf_append, Registry.insertAll, List.foldl_append]

theorem add_eq (selection : Selection) (collection : Collection) (d : Definition) :
    add selection collection d = collection.grow selection [d] [] := by
  unfold add Selection.select
  cases reason : selection.dropReason? d.name with
  | none =>
    have known := Selection.dropReason?_eq_none.1 reason
    simp [grow, Selection.kept, Selection.droppedOf, Registry.insertAll, reason, known]
  | some why =>
    have refused := Selection.keeps_eq_false reason
    simp [grow, Selection.kept, Selection.droppedOf, Registry.insertAll, reason, refused]

theorem foldl_add (selection : Selection) (collection : Collection) (ds : List Definition) :
    ds.foldl (add selection) collection = collection.grow selection ds [] := by
  induction ds generalizing collection with
  | nil => exact (grow_nil ..).symm
  | cons d ds ih => rw [List.foldl_cons, ih, add_eq, grow_grow, List.singleton_append, List.nil_append]

/-- What one outcome adds. -/
def after (selection : Selection) (collection : Collection)
    (outcome : Except FragmentFailure (List Definition)) : Collection :=
  collection.grow selection (outcomeDefinitions outcome) (outcomeWarning? outcome).toList

theorem addFragment_eq_ok {outcome : Except FragmentFailure (List Definition)}
    (added : addFragment settings collection outcome = .ok collection') :
    collection' = collection.after settings.selection outcome := by
  cases outcome with
  | ok definitions =>
    rw [addFragment, foldl_add] at added
    exact (Except.ok.inj added).symm
  | error failure =>
    simp only [addFragment, recover] at added
    split at added
    next warning _ noted =>
      cases added
      rw [after, outcomeDefinitions, grow_warnings, outcomeWarning?, noted]
      rfl
    next => cases added

theorem addFragment_of_recoverable {outcome : Except FragmentFailure (List Definition)}
    (lenient : settings.bail = false) (recoverable : Recoverable outcome) :
    addFragment settings collection outcome = .ok (collection.after settings.selection outcome) := by
  cases outcome with
  | ok definitions =>
    rw [addFragment, foldl_add]
    rfl
  | error failure =>
    have noted := Warning.isSome_ofFault? failure.fault failure.unparsed
    rw [recoverable failure rfl, Option.isSome_iff_exists] at noted
    obtain ⟨warning, noted⟩ := noted
    rw [after, outcomeDefinitions, grow_warnings, outcomeWarning?]
    simp [addFragment, recover, lenient, noted]

theorem foldl_after (selection : Selection) (collection : Collection)
    (outcomes : List (Except FragmentFailure (List Definition))) :
    outcomes.foldl (after selection) collection
      = collection.grow selection (outcomes.flatMap outcomeDefinitions)
          (outcomes.filterMap outcomeWarning?) := by
  induction outcomes generalizing collection with
  | nil => exact (grow_nil ..).symm
  | cons outcome outcomes ih =>
    rw [List.foldl_cons, ih, after, grow_grow, List.flatMap_cons, List.filterMap_cons]
    cases outcomeWarning? outcome <;> rfl

theorem foldlM_addFragment_eq_ok {outcomes : List (Except FragmentFailure (List Definition))}
    (added : outcomes.foldlM (addFragment settings) collection = .ok collection') :
    collection' = outcomes.foldl (after settings.selection) collection := by
  induction outcomes generalizing collection with
  | nil => exact (Except.ok.inj added).symm
  | cons outcome outcomes ih =>
    rw [List.foldlM_cons] at added
    obtain ⟨next, first, added⟩ := bind_eq_ok.1 added
    rw [List.foldl_cons, ← addFragment_eq_ok first]
    exact ih added

theorem foldlM_addFragment {outcomes : List (Except FragmentFailure (List Definition))}
    (lenient : settings.bail = false) (recoverable : ∀ outcome ∈ outcomes, Recoverable outcome)
    (collection : Collection) :
    outcomes.foldlM (addFragment settings) collection
      = .ok (outcomes.foldl (after settings.selection) collection) := by
  induction outcomes generalizing collection with
  | nil => rfl
  | cons outcome outcomes ih =>
    rw [List.forall_mem_cons] at recoverable
    rw [List.foldlM_cons, addFragment_of_recoverable lenient recoverable.1, List.foldl_cons]
    exact ih recoverable.2 _

/-! ## Whole collections -/

/-- The loops over documents and over their fragments are one loop. -/
theorem collect_eq (settings : Settings) (fetched : List (Locator × Except FetchFault Document)) :
    collect settings fetched = (fetched.flatMap Fetched.outcomes).foldlM (addFragment settings) {} := by
  have one : ∀ collection item,
      addDocument settings collection item
        = (Fetched.outcomes item).foldlM (addFragment settings) collection := by
    intro collection item
    rcases item with ⟨locator, fault | document⟩
    · rw [Fetched.outcomes, List.foldlM_cons]
      exact (bind_pure _).symm
    · rfl
  unfold collect
  generalize ({} : Collection) = collection
  induction fetched generalizing collection with
  | nil => rfl
  | cons item fetched ih =>
    rw [List.foldlM_cons, List.flatMap_cons, List.foldlM_append, one]
    simp only [ih]

/-- What is collected from documents when no failure ends the collection. -/
def gathered (selection : Selection) (fetched : List (Locator × Except FetchFault Document)) : Collection where
  registry := .ofList (selection.kept (fetched.flatMap Fetched.definitions))
  dropped := selection.droppedOf (fetched.flatMap Fetched.definitions)
  warnings := fetched.flatMap Fetched.warnings

theorem foldl_outcomes (selection : Selection) (fetched : List (Locator × Except FetchFault Document)) :
    (fetched.flatMap Fetched.outcomes).foldl (after selection) {} = gathered selection fetched := by
  rw [foldl_after, List.flatMap_assoc, List.filterMap_flatMap]
  simp only [Fetched.definitions_eq, Fetched.warnings_eq]
  simp [grow, gathered, Registry.ofList]

theorem collect_eq_ok {fetched : List (Locator × Except FetchFault Document)}
    (collected : collect settings fetched = .ok collection) :
    collection = gathered settings.selection fetched := by
  rw [collect_eq] at collected
  rw [foldlM_addFragment_eq_ok collected, foldl_outcomes]

theorem collect_lenient (settings : Settings) (fetched : List (Locator × Except FetchFault Document)) :
    collect { settings with bail := false } fetched = .ok (gathered settings.selection fetched) := by
  rw [collect_eq, foldlM_addFragment rfl, foldl_outcomes]
  intro outcome inside
  obtain ⟨item, -, inside⟩ := List.mem_flatMap.1 inside
  exact Fetched.recoverable inside

/-- Collecting loses nothing and repeats nothing, and a failure costs no more than what failed.  If no
failure ends the collection, there is one warning for each document that could not be fetched and for each
text that could not be read, in order; of the definitions that were read, in order, those with a name that
is refused are listed with the reason, and the others are renamed and grouped.  A document that fails,
wherever it is put in, changes the warnings only. -/
theorem collect_exact (settings : Settings) (fetched : List (Locator × Except FetchFault Document)) :
    ∃ collection, collect { settings with bail := false } fetched = .ok collection
      ∧ collection.warnings = fetched.flatMap Fetched.warnings
      ∧ List.Forall₂
          (fun d (entry : Dropped) => entry.name = d.name ∧ settings.selection.Refuses d.name entry.reason)
          ((fetched.flatMap Fetched.definitions).filter fun d => !settings.selection.keeps d.name)
          collection.dropped
      ∧ collection.registry.groups
          = ((settings.selection.kept (fetched.flatMap Fetched.definitions)).map (·.name)).eraseDups.map
              (Registry.groupOf (settings.selection.kept (fetched.flatMap Fetched.definitions)))
      ∧ ∀ before item after, fetched = before ++ after → Fetched.Fails item →
          ∃ collection', collect { settings with bail := false } (before ++ item :: after) = .ok collection'
            ∧ collection'.registry = collection.registry ∧ collection'.dropped = collection.dropped
            ∧ collection'.warnings = before.flatMap Fetched.warnings ++ Fetched.warnings item
                ++ after.flatMap Fetched.warnings := by
  refine ⟨gathered settings.selection fetched, collect_lenient settings fetched, rfl,
    Selection.refuses_droppedOf .., Registry.groups_ofList _, ?_⟩
  rintro before item after rfl fails
  have nothing := Fetched.definitions_of_fails fails
  refine ⟨gathered settings.selection (before ++ item :: after), collect_lenient .., ?_, ?_, ?_⟩
  · simp [gathered, nothing]
  · simp [gathered, nothing]
  · simp [gathered]

/-- A document that is not there, one that can be read, and one that cannot. -/
def missingDocument : Locator × Except FetchFault Document :=
  (.remote "http://h/x", .error (.status 404))

def readableDocument : Locator × Except FetchFault Document :=
  (.localPath "a", .ok ⟨.localPath "a", "enum A \x7b \"r\" \x7d;"⟩)

def brokenDocument : Locator × Except FetchFault Document :=
  (.localPath "b", .ok ⟨.localPath "b", "interface"⟩)

/-- Between the other two the broken document adds its warning and changes nothing else. -/
theorem collect_exact_broken :
    Fetched.Fails brokenDocument
      ∧ ∃ collection collection', collect {} [missingDocument, readableDocument] = .ok collection
        ∧ collect {} [missingDocument, brokenDocument, readableDocument] = .ok collection'
        ∧ collection'.registry = collection.registry ∧ collection'.dropped = collection.dropped
        ∧ collection'.warnings =
          [{ message := "Unable to source http://h/x: server responded with status 404"
             document := some "http://h/x", unparsed := none, kind := .unreachableDocument },
           { message := "Unable to parse IDL in b: line 1, column 1: expected an identifier, found end of input"
             document := some "b", unparsed := some "interface", kind := .unparsableDocument }] := by
  have texts : Document.texts ⟨.localPath "b", "interface"⟩ = [.ok "interface"] := rfl
  have refused : Schema.parse "interface" = .error ⟨⟨1, 1⟩, .unmet .identifier none⟩ := by cbv
  have plain : Document.texts ⟨.localPath "a", "enum A \x7b \"r\" \x7d;"⟩
      = [.ok "enum A \x7b \"r\" \x7d;"] := rfl
  have read : Schema.parse "enum A \x7b \"r\" \x7d;"
      = .ok [{ kind := .enum, name := "A", values := ["r"] }] := by
    cbv
  have fails : Fetched.Fails brokenDocument := by
    intro text inside t same
    rw [texts, List.mem_singleton] at inside
    subst inside
    cases same
    exact ⟨_, refused⟩
  obtain ⟨collection, collected, -, -, -, inserting⟩ :=
    collect_exact {} [missingDocument, readableDocument]
  obtain ⟨collection', collected', registry, dropped, warnings⟩ :=
    inserting [missingDocument] brokenDocument [readableDocument] rfl fails
  refine ⟨fails, collection, collection', collected, collected', registry, dropped, ?_⟩
  rw [warnings]
  simp only [List.flatMap_singleton, Fetched.warnings, missingDocument, brokenDocument, readableDocument, texts,
    plain, List.filterMap_cons, List.filterMap_nil, textWarning?, refused, read]
  rfl

end Collection

end IdlBindings
