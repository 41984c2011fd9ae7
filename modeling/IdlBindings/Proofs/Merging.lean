/-
# IdlBindings.Proofs.Merging: what merging makes of fragments, at once and in stages.

Merging never fails unless it is switched off.  Each name gets one definition, in the order in which the
names first occur.  Absorbing a fragment is associative, and the names that stay are the same whether
fragments are grouped before or after they are put one behind the other.  So fragments may be merged
document by document, and what was merged may be merged again.
-/
import IdlBindings.Proofs.Grouping
import Mathlib.Data.List.Nodup

namespace IdlBindings

/-! ## Names in order of first occurrence -/

theorem eraseDups_of_nodup {names : List String} (distinct : names.Nodup) : names.eraseDups = names := by
  induction names with
  | nil => rfl
  | cons name names ih =>
    obtain ⟨apart, distinct⟩ := List.nodup_cons.1 distinct
    have others : names.filter (fun other => !other == name) = names := by
      rw [List.filter_eq_self]
      intro other inside
      simpa using ne_of_mem_of_not_mem inside apart
    rw [List.eraseDups_cons, others, ih distinct]

theorem eraseDups_append_eraseDups (names others : List String) :
    (names.eraseDups ++ others.eraseDups).eraseDups = (names ++ others).eraseDups := by
  induction others using List.reverseRecOn with
  | nil => simp [eraseDups_of_nodup (Registry.nodup_eraseDups names)]
  | append_singleton others other ih =>
    rw [Registry.eraseDups_concat others, ← List.append_assoc, Registry.eraseDups_concat, ← ih]
    split
    next known =>
      -- A name that is known to the second list is known to both together.
      have inside : other ∈ (names.eraseDups ++ others.eraseDups).eraseDups :=
        List.mem_eraseDups.2 (List.mem_append_right _ known)
      rw [if_pos inside]
    next => rw [← List.append_assoc, Registry.eraseDups_concat]

theorem find?_eraseDups (names : List String) (p : String → Bool) :
    names.eraseDups.find? p = names.find? p := by
  induction names using List.reverseRecOn with
  | nil => rfl
  | append_singleton names name ih =>
    rw [Registry.eraseDups_concat, List.find?_append, ← ih]
    split
    next known =>
      cases found : names.eraseDups.find? p with
      | some first => rfl
      | none =>
        have refused : p name = false := by simpa using List.find?_eq_none.1 found name known
        simp [refused]
    next => rw [List.find?_append]

/-! ## The fragments of one name -/

namespace Definition

theorem absorb_assoc (a b c : Definition) : (a.absorb b).absorb c = a.absorb (b.absorb c) := by
  simp [absorb, Bool.and_assoc]

instance : Std.Associative absorb := ⟨absorb_assoc⟩

/-- Fragments may be merged in two parts. -/
theorem merge?_append (fragments others : List Definition) :
    merge? ((merge? fragments).toList ++ (merge? others).toList) = merge? (fragments ++ others) := by
  cases fragments with
  | nil => cases others <;> rfl
  | cons first rest =>
    cases others with
    | nil => simp [merge?]
    | cons second rest' =>
      show some ((rest.foldl absorb first).absorb (rest'.foldl absorb second)) = _
      rw [List.cons_append, merge?, List.foldl_append, List.foldl_cons, List.foldl_assoc]

theorem foldl_absorb_eq (first : Definition) (others : List Definition) :
    others.foldl absorb first =
      { first with
        isPartial := (first :: others).all (·.isPartial)
        members := (first :: others).flatMap (·.members)
        values := (first :: others).flatMap (·.values) } := by
  induction others generalizing first with
  | nil => simp
  | cons second others ih =>
    rw [List.foldl_cons, ih]
    simp [absorb, Bool.and_assoc]

/-- A definition is made up of the fragments of a name: the first one says what it is, and all of them
add their members and values. -/
def Gathers (fragments : List Definition) (name : String) (d : Definition) : Prop :=
  ∃ first others, fragments.filter (·.name == name) = first :: others
    ∧ d = { first with
      isPartial := (first :: others).all (·.isPartial)
      members := (first :: others).flatMap (·.members)
      values := (first :: others).flatMap (·.values) }

theorem gathers_of_merge? {fragments : List Definition} {name : String} {d : Definition}
    (made : merge? (fragments.filter (·.name == name)) = some d) : Gathers fragments name d := by
  cases split : fragments.filter (·.name == name) with
  | nil => simp [split, merge?] at made
  | cons first others =>
    rw [split, merge?, foldl_absorb_eq] at made
    exact ⟨first, others, split, (Option.some.inj made).symm⟩

theorem name_of_merge? {fragments : List Definition} {d : Definition} {name : String}
    (made : merge? (fragments.filter (·.name == name)) = some d) : d.name = name := by
  obtain ⟨first, others, split, rfl⟩ := gathers_of_merge? made
  have inside : first ∈ fragments.filter (·.name == name) := by simp [split]
  simpa using (List.mem_filter.1 inside).2

end Definition

/-! ## All fragments -/

namespace Schema

/-- The definitions that fragments make up: one for each name. -/
def merged (fragments : List Definition) : List Definition :=
  (Registry.ofList fragments).groups.filterMap fun group => Definition.merge? group.fragments

theorem merge_enabled (fragments : List Definition) :
    (Registry.ofList fragments).merge true = .ok (merged fragments) := rfl

theorem merged_eq (fragments : List Definition) :
    merged fragments = (fragments.map (·.name)).eraseDups.filterMap fun name =>
      Definition.merge? (fragments.filter (·.name == name)) := by
  rw [merged, Registry.groups_ofList, List.filterMap_map]
  rfl

section

variable {f : String → Option Definition}

theorem forall₂_filterMap {names : List String} (known : ∀ name ∈ names, ∃ d, f name = some d) :
    List.Forall₂ (fun name d => f name = some d) names (names.filterMap f) := by
  induction names with
  | nil => exact .nil
  | cons name names ih =>
    rw [List.forall_mem_cons] at known
    obtain ⟨⟨d, found⟩, known⟩ := known
    rw [List.filterMap_cons_some found]
    exact .cons found (ih known)

theorem filter_name_filterMap (named : ∀ name d, f name = some d → d.name = name) {names : List String}
    (distinct : names.Nodup) (name : String) :
    (names.filterMap f).filter (·.name == name) = if name ∈ names then (f name).toList else [] := by
  induction names with
  | nil => rfl
  | cons other names ih =>
    obtain ⟨apart, distinct⟩ := List.nodup_cons.1 distinct
    have behind := ih distinct
    cases found : f other with
    | none =>
      rw [List.filterMap_cons_none found, behind]
      by_cases same : name = other
      · subst same
        simp [apart, found]
      · simp [same]
    | some d =>
      have called := named other d found
      rw [List.filterMap_cons_some found, List.filter_cons, behind, called]
      by_cases same : name = other
      · subst same
        simp [apart, found]
      · simp [same, Ne.symm same]

end

theorem merge?_merged (fragments : List Definition) :
    List.Forall₂ (fun name d => Definition.merge? (fragments.filter (·.name == name)) = some d)
      (fragments.map (·.name)).eraseDups (merged fragments) := by
  rw [merged_eq]
  exact forall₂_filterMap fun name known => Registry.merge?_groupOf (List.mem_eraseDups.1 known)

/-- Each name has one definition, in the order in which the names first occur. -/
theorem map_name_merged (fragments : List Definition) :
    (merged fragments).map (·.name) = (fragments.map (·.name)).eraseDups := by
  have called : List.Forall₂ (fun name d => name = d.name)
      (fragments.map (·.name)).eraseDups (merged fragments) :=
    (merge?_merged fragments).imp fun _ _ made => (Definition.name_of_merge? made).symm
  rw [← List.forall₂_map_right_iff, List.forall₂_eq_eq_eq] at called
  exact called.symm

theorem nodup_merged (fragments : List Definition) : ((merged fragments).map (·.name)).Nodup := by
  rw [map_name_merged]
  exact Registry.nodup_eraseDups _

/-- The definition of a name is merged from the fragments of that name. -/
theorem filter_name_merged (fragments : List Definition) (name : String) :
    (merged fragments).filter (·.name == name)
      = (Definition.merge? (fragments.filter (·.name == name))).toList := by
  rw [merged_eq, filter_name_filterMap (fun _ _ => Definition.name_of_merge?) (Registry.nodup_eraseDups _)]
  split
  next => rfl
  next unknown =>
    rw [Registry.filter_name_eq_nil fun inside => unknown (List.mem_eraseDups.2 inside)]
    rfl

theorem merged_append (xs ys : List Definition) :
    merged (merged xs ++ merged ys) = merged (xs ++ ys) := by
  have names : ((merged xs ++ merged ys).map (·.name)).eraseDups = ((xs ++ ys).map (·.name)).eraseDups := by
    rw [List.map_append, map_name_merged, map_name_merged, eraseDups_append_eraseDups, List.map_append]
  have each : ∀ name, Definition.merge? ((merged xs ++ merged ys).filter (·.name == name))
      = Definition.merge? ((xs ++ ys).filter (·.name == name)) := by
    intro name
    rw [List.filter_append, filter_name_merged, filter_name_merged, Definition.merge?_append,
      List.filter_append]
  rw [merged_eq, merged_eq (xs ++ ys), names]
  simp only [each]

theorem merged_merged (fragments : List Definition) : merged (merged fragments) = merged fragments := by
  have whole := merged_append fragments []
  have nothing : merged [] = [] := rfl
  rwa [nothing, List.append_nil, List.append_nil] at whole

theorem merged_flatten (documents : List (List Definition)) :
    merged (documents.map merged).flatten = merged documents.flatten := by
  induction documents with
  | nil => rfl
  | cons document documents ih =>
    calc merged (merged document ++ (documents.map merged).flatten)
        = merged (merged (merged document) ++ merged (documents.map merged).flatten) :=
          (merged_append ..).symm
      _ = merged (merged document ++ merged documents.flatten) := by rw [merged_merged, ih]
      _ = merged (document ++ documents.flatten) := merged_append ..

end Schema

/-- Merging in stages: fragments that were merged in parts, and merged again, give what they give when
they are merged at once. -/
theorem Registry.merge_in_stages (xs ys : List Definition) (documents : List (List Definition)) :
    (∀ fragments, (ofList fragments).merge true = .ok (Schema.merged fragments))
      ∧ Schema.merged (xs ++ ys) = Schema.merged (Schema.merged xs ++ Schema.merged ys)
      ∧ Schema.merged (Schema.merged xs) = Schema.merged xs
      ∧ Schema.merged documents.flatten = Schema.merged (documents.map Schema.merged).flatten :=
  ⟨Schema.merge_enabled, (Schema.merged_append xs ys).symm, Schema.merged_merged xs,
    (Schema.merged_flatten documents).symm⟩

/-! ## What merging gives -/

namespace Registry

theorem length_groupOf (fragments : List Definition) (name : String) :
    (groupOf fragments name).fragments.length = (fragments.map (·.name)).count name := by
  rw [groupOf, List.count, List.countP_map, List.countP_eq_length_filter]
  rfl

theorem count_ofList (fragments : List Definition) (name : String) :
    (ofList fragments).fragments.count name = (fragments.map (·.name)).count name := by
  rw [← length_groupOf, FragmentMap.count, ← get?, get?_ofList]
  split
  · rfl
  next unknown => rw [groupOf, filter_name_eq_nil unknown]; rfl

theorem counts_ofList (fragments : List Definition) :
    (ofList fragments).counts = (fragments.map (·.name)).eraseDups.map fun name =>
      (name, (fragments.map (·.name)).count name) := by
  simp only [counts, count_ofList, ← names_ofList, names]

theorem duplicates_ofList (fragments : List Definition) :
    (ofList fragments).duplicates
      = ((fragments.map (·.name)).eraseDups.filter fun name => 1 < (fragments.map (·.name)).count name).map
          fun name => (name, (fragments.map (·.name)).count name) := by
  rw [← names_ofList, duplicates, names]
  simp only [count_ofList]
  generalize (ofList fragments).order = order
  induction order with
  | nil => rfl
  | cons name order ih =>
    by_cases several : 1 < (fragments.map (·.name)).count name
    · simp only [List.filterMap_cons, List.filter_cons, gt_iff_lt, several, if_true, decide_true, List.map_cons, ih]
    · simp only [List.filterMap_cons, List.filter_cons, gt_iff_lt, several, if_false, decide_false, Bool.false_eq_true,
        ih]

theorem head?_duplicates (fragments : List Definition) :
    (ofList fragments).duplicates.head?
      = ((fragments.map (·.name)).find? fun name => 1 < (fragments.map (·.name)).count name).map
          fun name => (name, (fragments.map (·.name)).count name) := by
  rw [duplicates_ofList, List.head?_map, List.head?_filter, find?_eraseDups]

theorem merge_disabled (fragments : List Definition) :
    (ofList fragments).merge false
      = match (fragments.map (·.name)).find? fun name => 1 < (fragments.map (·.name)).count name with
        | some name => .error ⟨name, (fragments.map (·.name)).count name⟩
        | none => .ok (Schema.merged fragments) := by
  have first := head?_duplicates fragments
  unfold merge
  cases found : (fragments.map (·.name)).find? fun name => 1 < (fragments.map (·.name)).count name with
  | none =>
    rw [found, Option.map_none, List.head?_eq_none_iff] at first
    rw [first]
    rfl
  | some name =>
    rw [found, Option.map_some, List.head?_eq_some_iff] at first
    obtain ⟨others, split⟩ := first
    rw [split]

/-- Whatever is merged without being refused is the same, whether merging is on or off. -/
theorem merge_eq_ok {fragments schema : List Definition} {enabled : Bool}
    (ran : (ofList fragments).merge enabled = .ok schema) : schema = Schema.merged fragments := by
  cases enabled with
  | true => exact (Except.ok.inj ran).symm
  | false =>
    rw [merge_disabled] at ran
    split at ran
    · cases ran
    · exact (Except.ok.inj ran).symm

theorem filter_name_of_nodup {fragments : List Definition} (distinct : (fragments.map (·.name)).Nodup)
    {d : Definition} (inside : d ∈ fragments) : fragments.filter (·.name == d.name) = [d] := by
  induction fragments with
  | nil => cases inside
  | cons first others ih =>
    rw [List.map_cons, List.nodup_cons] at distinct
    obtain ⟨apart, distinct⟩ := distinct
    rw [List.filter_cons]
    rcases List.mem_cons.1 inside with rfl | inside
    · simp [Registry.filter_name_eq_nil apart]
    · have differs : first.name ≠ d.name := fun same => apart (same ▸ List.mem_map_of_mem inside)
      simp [differs, ih distinct inside]

theorem merged_of_nodup {fragments : List Definition} (distinct : (fragments.map (·.name)).Nodup) :
    Schema.merged fragments = fragments := by
  rw [Schema.merged_eq, eraseDups_of_nodup distinct, List.filterMap_map]
  have alone : ∀ d ∈ fragments,
      Definition.merge? (fragments.filter (·.name == d.name)) = some d := by
    intro d inside
    rw [filter_name_of_nodup distinct inside]
    rfl
  calc fragments.filterMap _ = fragments.filterMap some := List.filterMap_congr alone
    _ = fragments := List.filterMap_some

/-- The result of merging.  Where it is switched on, each name gets one definition, made up of all its
fragments.  Where it is off, fragments of different names stay as they are, and otherwise the first name
that occurs more than once is refused. -/
theorem merge_exact (fragments : List Definition) :
    (∃ schema, (ofList fragments).merge true = .ok schema
      ∧ List.Forall₂ (Definition.Gathers fragments) (fragments.map (·.name)).eraseDups schema)
    ∧ ((fragments.map (·.name)).Nodup → (ofList fragments).merge false = .ok fragments)
    ∧ (¬ (fragments.map (·.name)).Nodup → ∃ name,
      ((fragments.map (·.name)).find? fun name => 1 < (fragments.map (·.name)).count name) = some name
        ∧ (ofList fragments).merge false = .error ⟨name, (fragments.map (·.name)).count name⟩) := by
  refine ⟨⟨Schema.merged fragments, rfl, ?_⟩, ?_, ?_⟩
  · exact (Schema.merge?_merged fragments).imp fun _ _ => Definition.gathers_of_merge?
  · intro distinct
    have single : (fragments.map (·.name)).find? (fun name => 1 < (fragments.map (·.name)).count name)
        = none := by
      rw [List.find?_eq_none]
      intro name inside
      simp [List.nodup_iff_count_eq_one.1 distinct name inside]
    rw [merge_disabled, single, merged_of_nodup distinct]
  · intro repeats
    rw [merge_disabled]
    cases found : (fragments.map (·.name)).find? fun name => 1 < (fragments.map (·.name)).count name with
    | some name => exact ⟨name, rfl, rfl⟩
    | none =>
      refine absurd (List.nodup_iff_count_eq_one.2 fun name inside => ?_) repeats
      have single : (fragments.map (·.name)).count name ≤ 1 := by
        simpa using List.find?_eq_none.1 found name inside
      have some_one : 0 < (fragments.map (·.name)).count name := List.count_pos_iff.2 inside
      omega

/-- An interface and a dictionary of the same name, with another definition between them. -/
def interleaved : List Definition :=
  [{ kind := .interface, name := "A", isPartial := true,
     members := [{ kind := .property, name := "x", type := .named "long" }] },
   { kind := .enum, name := "B", values := ["r"] },
   { kind := .dictionary, name := "A", members := [{ kind := .field, name := "y", type := .named "long" }] }]

/-- Merging brings the two together in the place of the first.  Without it they are refused, and the two
definitions in front, which have different names, are not. -/
theorem merge_exact_interleaved :
    (∃ schema, (ofList interleaved).merge true = .ok schema
      ∧ List.Forall₂ (Definition.Gathers interleaved) ["A", "B"] schema)
    ∧ (ofList interleaved).merge false = .error ⟨"A", 2⟩
    ∧ (ofList (interleaved.take 2)).merge false = .ok (interleaved.take 2) := by
  obtain ⟨merged, -, refused⟩ := merge_exact interleaved
  refine ⟨merged, ?_, (merge_exact (interleaved.take 2)).2.1 (by decide)⟩
  obtain ⟨name, found, refused⟩ := refused (by decide)
  cases found
  exact refused

end Registry

end IdlBindings
