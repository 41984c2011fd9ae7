/-
# IdlBindings.Proofs.Grouping: what becomes of fragments that are grouped and merged.

A registry is built by inserting fragments one at a time.  Each insertion keeps the names and the map in
step, so no group is lost when groups are taken out of the map along the names.  The result has a closed
form: the names stand in the order in which they first occur, and the group of a name is the sublist of its
fragments.  A merged definition keeps everything of its first fragment but `isPartial`, and its members and values
start with those of that fragment.
-/
import IdlBindings.Proofs.ReadBack
import IdlBindings.Registry.Merge
import Mathlib.Data.List.Induction

namespace IdlBindings

/-! ## Maps -/

namespace FragmentMap

theorem ext {map map' : FragmentMap} (same : ∀ name, map.get? name = map'.get? name) : map = map' :=
  congrArg mk (funext same)

@[simp] theorem get?_set_self (map : FragmentMap) (name : String) (found : Option (List Definition)) :
    (map.set name found).get? name = found :=
  if_pos rfl

theorem get?_set_of_ne {map : FragmentMap} {name other : String} {found : Option (List Definition)}
    (differs : other ≠ name) : (map.set name found).get? other = map.get? other :=
  if_neg differs

theorem get?_push_eq_some {map : FragmentMap} {d : Definition} {name : String} {fragments : List Definition} :
    (map.push d).get? name = some fragments
      ↔ name = d.name ∧ (map.get? name).getD [] ++ [d] = fragments
        ∨ name ≠ d.name ∧ map.get? name = some fragments := by
  rw [push]
  by_cases same : name = d.name
  · subst same
    simp
  · simp [get?_set_of_ne same, same]

/-- Taking out a group leaves those of other names, so along different names all groups are found. -/
theorem takeGroups_eq {names : List String} (distinct : names.Nodup) (map : FragmentMap) :
    takeGroups names map = names.map fun name => ⟨name, (map.get? name).getD []⟩ := by
  induction names generalizing map with
  | nil => rfl
  | cons name names ih =>
    obtain ⟨apart, distinct⟩ := List.nodup_cons.1 distinct
    rw [takeGroups, ih distinct, List.map_cons]
    congr 1
    refine List.map_congr_left fun other inside => ?_
    rw [remove, get?_set_of_ne (ne_of_mem_of_not_mem inside apart)]

end FragmentMap

/-! ## Registries -/

namespace Registry

/-- The two parts of a registry are in step, and its groups are what they should be. -/
structure Consistent (registry : Registry) : Prop where
  distinct : registry.order.Nodup
  /-- The names are the keys of the map. -/
  keys : ∀ name, name ∈ registry.order ↔ registry.fragments.containsKey name = true
  nonempty : ∀ name fragments, registry.fragments.get? name = some fragments → fragments ≠ []
  own : ∀ name fragments, registry.fragments.get? name = some fragments → ∀ d ∈ fragments, d.name = name

theorem consistent_empty : empty.Consistent where
  distinct := List.nodup_nil
  keys name := by simp [empty, FragmentMap.empty, FragmentMap.containsKey]
  nonempty _ _ found := by cases found
  own _ _ found := by cases found

/-- A fragment keeps both parts in step: its name is added to the names exactly if it becomes a key. -/
theorem Consistent.insert {registry : Registry} (consistent : registry.Consistent) (d : Definition) :
    (registry.insert d).Consistent := by
  obtain ⟨distinct, keys, nonempty, own⟩ := consistent
  constructor
  case distinct =>
    rw [Registry.insert]
    split
    · exact distinct
    next fresh =>
      refine List.nodup_append.2 ⟨distinct, by simp, ?_⟩
      intro name listed other last same
      rw [List.mem_singleton.1 last] at same
      exact fresh ((keys _).1 (same ▸ listed))
  case keys =>
    intro name
    by_cases same : name = d.name
    · subst same
      have listed : d.name ∈ (registry.insert d).order := by
        rw [Registry.insert]
        split
        next known => exact (keys _).2 known
        next => exact List.mem_append_right _ (List.mem_singleton_self _)
      exact ⟨fun _ => by simp [Registry.insert, FragmentMap.push, FragmentMap.containsKey], fun _ => listed⟩
    · have kept : (registry.insert d).fragments.containsKey name = registry.fragments.containsKey name :=
        congrArg Option.isSome (FragmentMap.get?_set_of_ne same)
      rw [kept, ← keys, Registry.insert]
      split
      · rfl
      · simp [same]
  case nonempty =>
    intro name fragments found
    rcases FragmentMap.get?_push_eq_some.1 found with ⟨-, rfl⟩ | ⟨-, found⟩
    · simp
    · exact nonempty name fragments found
  case own =>
    intro name fragments found
    rcases FragmentMap.get?_push_eq_some.1 found with ⟨same, rfl⟩ | ⟨-, found⟩
    · intro f inside
      rcases List.mem_append.1 inside with before | last
      · cases known : registry.fragments.get? name with
        | none =>
          rw [known] at before
          cases before
        | some others =>
          rw [known] at before
          exact own name others known f before
      · rw [List.mem_singleton.1 last, same]
    · exact own name fragments found

theorem Consistent.insertAll {registry : Registry} (consistent : registry.Consistent) (fragments : List Definition) :
    (registry.insertAll fragments).Consistent := by
  induction fragments generalizing registry with
  | nil => exact consistent
  | cons d fragments ih => exact ih (consistent.insert d)

theorem consistent_ofList (fragments : List Definition) : (ofList fragments).Consistent :=
  consistent_empty.insertAll fragments

/-- The groups that are taken out of a registry are those of its names, and none is missing. -/
theorem Consistent.groups_eq {registry : Registry} (consistent : registry.Consistent) :
    registry.groups = registry.names.map fun name => ⟨name, (registry.get? name).getD []⟩ :=
  FragmentMap.takeGroups_eq consistent.distinct registry.fragments

/-! ## The registry of a list -/

/-- The fragments of a name among those of a list. -/
def groupOf (fragments : List Definition) (name : String) : Group :=
  ⟨name, fragments.filter (·.name == name)⟩

theorem ofList_append (xs ys : List Definition) : ofList (xs ++ ys) = (ofList xs).insertAll ys := by
  rw [ofList, insertAll, List.foldl_append]
  rfl

theorem ofList_concat (fragments : List Definition) (d : Definition) :
    ofList (fragments ++ [d]) = (ofList fragments).insert d :=
  ofList_append fragments [d]

theorem filter_name_eq_nil {fragments : List Definition} {name : String}
    (unknown : name ∉ fragments.map (·.name)) : fragments.filter (·.name == name) = [] := by
  rw [List.filter_eq_nil_iff]
  intro f inside same
  exact unknown (beq_iff_eq.1 same ▸ List.mem_map_of_mem inside)

theorem get?_ofList (fragments : List Definition) (name : String) :
    (ofList fragments).get? name
      = if name ∈ fragments.map (·.name) then some (fragments.filter (·.name == name)) else none := by
  induction fragments using List.reverseRecOn with
  | nil => rfl
  | append_singleton fragments d ih =>
    rw [ofList_concat, List.map_append, List.filter_append]
    by_cases same : name = d.name
    · subst same
      have before : ((ofList fragments).get? d.name).getD [] = fragments.filter (·.name == d.name) := by
        rw [ih]
        split
        · rfl
        next unknown => exact (filter_name_eq_nil unknown).symm
      rw [if_pos (by simp), ← before]
      simp only [List.filter_singleton, beq_self_eq_true]
      exact FragmentMap.get?_set_self ..
    · have others : ((ofList fragments).insert d).get? name = (ofList fragments).get? name :=
        FragmentMap.get?_set_of_ne same
      rw [others, ih]
      simp [same, Ne.symm same]

theorem eraseDups_concat (names : List String) (name : String) :
    (names ++ [name]).eraseDups
      = if name ∈ names.eraseDups then names.eraseDups else names.eraseDups ++ [name] := by
  rw [List.eraseDups_append]
  by_cases inside : name ∈ names <;>
    simp [List.removeAll, List.mem_eraseDups, List.eraseDups_cons, inside]

theorem names_ofList (fragments : List Definition) :
    (ofList fragments).names = (fragments.map (·.name)).eraseDups := by
  induction fragments using List.reverseRecOn with
  | nil => rfl
  | append_singleton fragments d ih =>
    rw [ofList_concat, List.map_append, List.map_singleton, eraseDups_concat, ← ih]
    show (if (ofList fragments).fragments.containsKey d.name then _ else _) = _
    simp only [← (consistent_ofList fragments).keys]
    rfl

theorem nodup_eraseDups (names : List String) : names.eraseDups.Nodup := by
  induction names using List.reverseRecOn with
  | nil => simp
  | append_singleton names name ih =>
    rw [eraseDups_concat]
    split
    · exact ih
    next absent =>
      refine List.nodup_append.2 ⟨ih, by simp, ?_⟩
      simpa using fun other inside => ne_of_mem_of_not_mem inside absent

theorem groups_ofList (fragments : List Definition) :
    (ofList fragments).groups = (fragments.map (·.name)).eraseDups.map (groupOf fragments) := by
  rw [(consistent_ofList fragments).groups_eq, names_ofList]
  refine List.map_congr_left fun name inside => ?_
  rw [get?_ofList, if_pos (List.mem_eraseDups.1 inside)]
  rfl

theorem merge?_groupOf {fragments : List Definition} {name : String}
    (known : name ∈ fragments.map (·.name)) :
    ∃ d, Definition.merge? (groupOf fragments name).fragments = some d := by
  obtain ⟨f, inside, rfl⟩ := List.mem_map.1 known
  have mem : f ∈ (groupOf fragments f.name).fragments := by simp [groupOf, inside]
  obtain ⟨first, others, split⟩ := List.exists_cons_of_ne_nil (List.ne_nil_of_mem mem)
  exact ⟨_, by rw [split, Definition.merge?]⟩

theorem merge_singleton (d : Definition) : (ofList [d]).merge true = .ok [d] := by
  have group : (ofList [d]).groups = [⟨d.name, [d]⟩] := by
    rw [groups_ofList, List.map_singleton, List.eraseDups_cons]
    simp [groupOf]
  simp [merge, group, Definition.merge?]

/-- A merged definition is made from fragments of its registry. -/
theorem mem_merge {fragments schema : List Definition} {d : Definition}
    (merged : (ofList fragments).merge true = .ok schema) (inside : d ∈ schema) :
    ∃ first others, d = others.foldl Definition.absorb first
      ∧ ∀ f ∈ first :: others, f ∈ fragments := by
  have closed : (ofList fragments).groups.filterMap (fun group => Definition.merge? group.fragments)
      = schema := by
    simpa [merge] using merged
  rw [← closed, groups_ofList, List.filterMap_map, List.mem_filterMap] at inside
  obtain ⟨name, -, made⟩ := inside
  have kept : ∀ f ∈ (groupOf fragments name).fragments, f ∈ fragments :=
    fun f inside => (List.mem_filter.1 inside).1
  change Definition.merge? (groupOf fragments name).fragments = some d at made
  cases split : (groupOf fragments name).fragments with
  | nil => simp [split, Definition.merge?] at made
  | cons first others =>
    rw [split] at made kept
    exact ⟨first, others, (Option.some.inj made).symm, kept⟩

/-- Fragments that merge into one definition all belong to it. -/
theorem merge?_of_merge_single {fragments : List Definition} {d : Definition}
    (merged : (ofList fragments).merge true = .ok [d]) : Definition.merge? fragments = some d := by
  have closed : (ofList fragments).groups.filterMap (fun group => Definition.merge? group.fragments)
      = [d] := by
    simpa [merge] using merged
  rw [groups_ofList, List.filterMap_map] at closed
  have known : ∀ name ∈ (fragments.map (·.name)).eraseDups,
      ∃ d, Definition.merge? (groupOf fragments name).fragments = some d :=
    fun name inside => merge?_groupOf (List.mem_eraseDups.1 inside)
  have listed : ∀ f ∈ fragments, f.name ∈ (fragments.map (·.name)).eraseDups :=
    fun f inside => List.mem_eraseDups.2 (List.mem_map_of_mem inside)
  -- Every name has a fragment, so there are as many merged definitions as names: one.
  generalize (fragments.map (·.name)).eraseDups = names at closed known listed
  match names with
  | [] => cases closed
  | [name] =>
    have all : fragments.filter (·.name == name) = fragments := by
      rw [List.filter_eq_self]
      intro f inside
      simpa using listed f inside
    obtain ⟨d', found⟩ := known name (by simp)
    have same : [d'] = [d] := by simpa [found] using closed
    rw [← List.singleton_inj.1 same, ← found, groupOf, all]
  | first :: second :: others =>
    obtain ⟨d₁, found₁⟩ := known first (by simp)
    obtain ⟨d₂, found₂⟩ := known second (by simp)
    simp [found₁, found₂] at closed

end Registry

/-! ## Merged definitions -/

namespace Definition

theorem absorb_wellFormed {d f : Definition} (h : d.isWellFormed = true) (hf : f.isWellFormed = true) :
    (d.absorb f).isWellFormed = true := by
  simp only [isWellFormed, absorb, Bool.and_eq_true, List.all_append] at h hf ⊢
  obtain ⟨⟨⟨⟨⟨⟨⟨named, parent⟩, implemented⟩, ms⟩, values⟩, attributes⟩, typed⟩, arguments⟩ := h
  obtain ⟨⟨⟨⟨⟨-, ms'⟩, values'⟩, -⟩, -⟩, -⟩ := hf
  exact ⟨⟨⟨⟨⟨⟨⟨named, parent⟩, implemented⟩, ms, ms'⟩, values, values'⟩, attributes⟩, typed⟩, arguments⟩

theorem absorb_begins {f d : Definition} (h : Grammar.Begins f d) (g : Definition) :
    Grammar.Begins f (d.absorb g) :=
  { kind := h.kind
    implements := h.implements
    attributes := h.attributes
    type := h.type
    arguments := h.arguments
    members := h.members.trans (List.prefix_append ..) }

theorem foldl_absorb {first : Definition} {others : List Definition} (d : Definition)
    (begins : Grammar.Begins first d) (wf : d.isWellFormed = true)
    (each : ∀ f ∈ others, f.isWellFormed = true) :
    Grammar.Begins first (others.foldl absorb d) ∧ (others.foldl absorb d).isWellFormed = true := by
  induction others generalizing d with
  | nil => exact ⟨begins, wf⟩
  | cons f others ih =>
    rw [List.forall_mem_cons] at each
    exact ih (d.absorb f) (absorb_begins begins f) (absorb_wellFormed wf each.1) each.2

end Definition

end IdlBindings
