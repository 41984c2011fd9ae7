/-
# IdlBindings.Proofs.Extending: what every registry keeps, however it was built.

A registry starts empty or from a list, takes fragments one at a time, and takes over all fragments of
another registry.  The last goes group by group and so changes the order of the fragments, but not the order
of those of one name, and not the order in which the names first occur.  A registry depends on nothing else,
so taking over the registry of a second list is putting the two lists one behind the other.  Each operation
keeps the names and the keys of the map in step, so they are in step in every registry.
-/
import IdlBindings.Proofs.Merging

namespace IdlBindings.Registry

/-! ## What a registry depends on -/

theorem ofList_congr {xs ys : List Definition}
    (names : (xs.map (·.name)).eraseDups = (ys.map (·.name)).eraseDups)
    (each : ∀ name, xs.filter (·.name == name) = ys.filter (·.name == name)) : ofList xs = ofList ys := by
  have order : (ofList xs).order = (ofList ys).order :=
    (names_ofList xs).trans (names.trans (names_ofList ys).symm)
  have known : ∀ name, name ∈ xs.map (·.name) ↔ name ∈ ys.map (·.name) := fun name => by
    rw [← List.mem_eraseDups, names, List.mem_eraseDups]
  have fragments : (ofList xs).fragments = (ofList ys).fragments := FragmentMap.ext fun name => by
    show (ofList xs).get? name = (ofList ys).get? name
    simp only [get?_ofList, known, each]
  calc ofList xs = ⟨(ofList xs).order, (ofList xs).fragments⟩ := rfl
    _ = ⟨(ofList ys).order, (ofList ys).fragments⟩ := by rw [order, fragments]

/-! ## All fragments, group by group -/

section

variable {f : String → List Definition}

theorem filter_name_flatMap (named : ∀ name, ∀ d ∈ f name, d.name = name) {names : List String}
    (distinct : names.Nodup) (name : String) :
    (names.flatMap f).filter (·.name == name) = if name ∈ names then f name else [] := by
  induction names with
  | nil => rfl
  | cons other names ih =>
    obtain ⟨apart, distinct⟩ := List.nodup_cons.1 distinct
    rw [List.flatMap_cons, List.filter_append, ih distinct]
    by_cases same : name = other
    · subst same
      have all : (f name).filter (·.name == name) = f name := by
        rw [List.filter_eq_self]
        intro d inside
        simpa using named name d inside
      simp [all, apart]
    · have none : (f other).filter (·.name == name) = [] := by
        rw [List.filter_eq_nil_iff]
        intro d inside
        simpa [named other d inside] using Ne.symm same
      simp [none, same]

theorem eraseDups_map_name (named : ∀ name, ∀ d ∈ f name, d.name = name) {name : String}
    (some_fragment : f name ≠ []) : ((f name).map (·.name)).eraseDups = [name] := by
  obtain ⟨first, others, split⟩ := List.exists_cons_of_ne_nil some_fragment
  have all : (f name).map (·.name) = List.replicate (f name).length name := by
    rw [List.eq_replicate_iff]
    refine ⟨List.length_map .., ?_⟩
    intro other inside
    obtain ⟨d, listed, rfl⟩ := List.mem_map.1 inside
    exact named name d listed
  have rest : (List.replicate others.length name).filter (fun other => !other == name) = [] := by
    rw [List.filter_eq_nil_iff]
    intro other inside
    simp [List.eq_of_mem_replicate inside]
  rw [all, split, List.length_cons, List.replicate_succ, List.eraseDups_cons, rest, List.eraseDups_nil]

/-- Groups that follow each other leave the order of the names as it is. -/
theorem eraseDups_flatMap (named : ∀ name, ∀ d ∈ f name, d.name = name) {names : List String}
    (distinct : names.Nodup) (known : ∀ name ∈ names, f name ≠ []) :
    ((names.flatMap f).map (·.name)).eraseDups = names := by
  induction names with
  | nil => rfl
  | cons name names ih =>
    obtain ⟨apart, later⟩ := List.nodup_cons.1 distinct
    rw [List.forall_mem_cons] at known
    rw [List.flatMap_cons, List.map_append, ← eraseDups_append_eraseDups, eraseDups_map_name named known.1,
      ih later known.2]
    exact eraseDups_of_nodup distinct

end

theorem toList_ofList (fragments : List Definition) :
    (ofList fragments).toList = (fragments.map (·.name)).eraseDups.flatMap fun name =>
      fragments.filter (·.name == name) := by
  rw [toList, groups_ofList, List.flatMap_map]
  rfl

theorem name_of_mem_filter (fragments : List Definition) (name : String) :
    ∀ d ∈ fragments.filter (·.name == name), d.name = name := by
  intro d inside
  simpa using (List.mem_filter.1 inside).2

theorem filter_name_ne_nil {fragments : List Definition} {name : String}
    (known : name ∈ fragments.map (·.name)) : fragments.filter (·.name == name) ≠ [] := by
  obtain ⟨d, inside, rfl⟩ := List.mem_map.1 known
  exact List.ne_nil_of_mem (List.mem_filter.2 ⟨inside, by simp⟩)

theorem filter_name_toList (fragments : List Definition) (name : String) :
    (ofList fragments).toList.filter (·.name == name) = fragments.filter (·.name == name) := by
  rw [toList_ofList, filter_name_flatMap (name_of_mem_filter fragments) (nodup_eraseDups _)]
  split
  next => rfl
  next unknown => exact (filter_name_eq_nil fun inside => unknown (List.mem_eraseDups.2 inside)).symm

theorem eraseDups_names_toList (fragments : List Definition) :
    ((ofList fragments).toList.map (·.name)).eraseDups = (fragments.map (·.name)).eraseDups := by
  rw [toList_ofList]
  exact eraseDups_flatMap (name_of_mem_filter fragments) (nodup_eraseDups _)
    fun name inside => filter_name_ne_nil (List.mem_eraseDups.1 inside)

/-- Taking over the registry of a list is inserting the fragments of the list. -/
theorem extend_ofList (xs ys : List Definition) : (ofList xs).extend (ofList ys) = ofList (xs ++ ys) := by
  rw [extend, ← ofList_append]
  refine ofList_congr ?_ fun name => ?_
  · rw [List.map_append, ← eraseDups_append_eraseDups, eraseDups_names_toList, eraseDups_append_eraseDups,
      List.map_append]
  · rw [List.filter_append, filter_name_toList, List.filter_append]

/-! ## Every registry -/

/-- The registries that can be built. -/
inductive Reachable : Registry → Prop
  | empty : Reachable .empty
  | ofList (fragments : List Definition) : Reachable (.ofList fragments)
  | insert {registry : Registry} (built : Reachable registry) (d : Definition) :
      Reachable (registry.insert d)
  | extend {registry other : Registry} (built : Reachable registry) (built' : Reachable other) :
      Reachable (registry.extend other)

/-- Every operation adds fragments one at a time, and each of them keeps the two parts in step. -/
theorem Reachable.consistent {registry : Registry} (built : Reachable registry) : registry.Consistent := by
  induction built with
  | empty => exact consistent_empty
  | ofList fragments => exact consistent_ofList fragments
  | insert _ d ih => exact ih.insert d
  | extend _ _ ih _ => exact ih.insertAll _

/-- Every registry is consistent: no name is listed twice, the names are exactly the keys of the map, no group is
empty, and a group holds fragments of its own name only.  So the groups that are taken out of the map along the
names are all that it has.  Taking over the registry of `ys` gives the registry of `xs ++ ys`, with the same names,
groups, numbers and duplicates.  The group of a name in the registry of a list is the part of the list that has the
name. -/
theorem reachable_consistent :
    (∀ registry, Reachable registry → registry.Consistent
      ∧ registry.groups = registry.names.map fun name => ⟨name, (registry.get? name).getD []⟩)
    ∧ (∀ xs ys, (ofList xs).extend (ofList ys) = ofList (xs ++ ys))
    ∧ ∀ fragments, (ofList fragments).names = (fragments.map (·.name)).eraseDups
      ∧ (∀ name, (ofList fragments).get? name
          = if name ∈ fragments.map (·.name) then some (fragments.filter (·.name == name)) else none)
      ∧ (ofList fragments).counts = (fragments.map (·.name)).eraseDups.map (fun name =>
          (name, (fragments.map (·.name)).count name))
      ∧ (ofList fragments).duplicates
        = ((fragments.map (·.name)).eraseDups.filter fun name => 1 < (fragments.map (·.name)).count name).map
            fun name => (name, (fragments.map (·.name)).count name) := by
  refine ⟨fun registry built => ⟨built.consistent, built.consistent.groups_eq⟩, extend_ofList, fun fragments => ?_⟩
  exact ⟨names_ofList fragments, get?_ofList fragments, counts_ofList fragments, duplicates_ofList fragments⟩

/-- A registry that takes over another in which the fragments of a name are not next to each other, and one
more fragment behind it. -/
def takenOver : Registry :=
  ((ofList [interleaved[1]]).extend (ofList interleaved)).insert interleaved[0]

theorem reachable_consistent_takenOver :
    Reachable takenOver ∧ takenOver.Consistent ∧ takenOver.names = ["B", "A"]
      ∧ takenOver.duplicates = [("B", 2), ("A", 3)] := by
  have built : Reachable takenOver := .insert (.extend (.ofList _) (.ofList _)) _
  exact ⟨built, (reachable_consistent.1 takenOver built).1, by decide, by decide⟩

end IdlBindings.Registry
