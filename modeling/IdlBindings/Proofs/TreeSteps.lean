/-
# IdlBindings.Proofs.TreeSteps: what one operation does to a tree of files.

A path *leads* to a location if a file can be written there through it.  Where a path leads depends on
the directories of a tree only, so it still leads there when directories are added and when files come
and go.  Each operation on a tree is taken apart once: the location it acts on, and what it puts there.
-/
import IdlBindings.Files.Tree

namespace IdlBindings

theorem bind_eq_ok {ε α β : Type} {x : Except ε α} {f : α → Except ε β} {b : β} :
    (x >>= f) = .ok b ↔ ∃ a, x = .ok a ∧ f a = .ok b := by
  cases x <;> simp [bind, Except.bind]

namespace FileTree

variable {tree tree' : FileTree} {path text : String} {location other : Location}

/-! ## Locations -/

theorem lookup_filter_self (entries : List (Location × FileEntry)) (location : Location) :
    (entries.filter fun entry => entry.1 != location).lookup location = none := by
  rw [List.lookup_eq_none_iff]
  intro entry kept
  have differs : entry.1 ≠ location := by simpa using (List.mem_filter.1 kept).2
  simpa using differs.symm

theorem lookup_filter_of_ne (entries : List (Location × FileEntry)) (differs : other ≠ location) :
    (entries.filter fun entry => entry.1 != location).lookup other = entries.lookup other := by
  induction entries with
  | nil => rfl
  | cons entry entries ih =>
    obtain ⟨key, value⟩ := entry
    by_cases same : key = location
    · subst same
      have miss : (other == key) = false := by simpa using differs
      simp [List.lookup_cons, miss, ih]
    · rw [List.filter_cons_of_pos (by simpa using same), List.lookup_cons, List.lookup_cons, ih]

theorem get?_nil (tree : FileTree) : tree.get? [] = some .directory := rfl

theorem get?_insert_self (tree : FileTree) (proper : location ≠ []) (entry : FileEntry) :
    (tree.insert location entry).get? location = some entry := by
  simp [get?, insert, proper]

theorem get?_insert_of_ne (tree : FileTree) (differs : other ≠ location) (entry : FileEntry) :
    (tree.insert location entry).get? other = tree.get? other := by
  have miss : (other == location) = false := by simpa using differs
  simp only [get?, insert, List.lookup_cons, miss, lookup_filter_of_ne _ differs]

theorem get?_erase_self (tree : FileTree) (proper : location ≠ []) :
    (tree.erase location).get? location = none := by
  simp only [get?, erase, if_neg proper, lookup_filter_self]

theorem get?_erase_of_ne (tree : FileTree) (differs : other ≠ location) :
    (tree.erase location).get? other = tree.get? other := by
  simp only [get?, erase, lookup_filter_of_ne _ differs]

/-- What the regular file at a location holds, if there is one. -/
def fileAt? (tree : FileTree) (location : Location) : Option FileContents :=
  match tree.get? location with
  | some (.file contents) => some contents
  | _ => none

theorem fileAt?_eq_some {contents : FileContents} :
    tree.fileAt? location = some contents ↔ tree.get? location = some (.file contents) := by
  rw [fileAt?]
  cases tree.get? location with
  | none => simp
  | some entry => cases entry <;> simp

theorem fileAt?_congr (same : tree'.get? location = tree.get? location) :
    tree'.fileAt? location = tree.fileAt? location := by
  rw [fileAt?, fileAt?, same]

/-! ## Where paths lead -/

/-- A file can be written to `location` through `path`. -/
def Leads (tree : FileTree) (path : String) (location : Location) : Prop :=
  ∃ base route, tree.approach path = .ok (base, route) ∧ isDots route.last = false
    ∧ route.slash = false ∧ ¬ route.last.utf8ByteSize > maxName ∧ base ++ [route.last] = location

theorem Leads.ne_nil (h : tree.Leads path location) : location ≠ [] := by
  obtain ⟨base, route, -, -, -, -, rfl⟩ := h
  simp

theorem Leads.unique (h : tree.Leads path location) (h' : tree.Leads path other) :
    location = other := by
  obtain ⟨base, route, approached, -, -, -, rfl⟩ := h
  obtain ⟨base', route', approached', -, -, -, rfl⟩ := h'
  rw [approached] at approached'
  cases approached'
  rfl

theorem step_eq_ok {name : String} : tree.step location name = .ok other ↔
    (name = "." ∧ location = other)
    ∨ (name = ".." ∧ location.dropLast = other)
    ∨ (isDots name = false ∧ ¬ name.utf8ByteSize > maxName
      ∧ tree.get? (location ++ [name]) = some .directory ∧ location ++ [name] = other) := by
  rw [step]
  by_cases dot : name = "."
  · simp [dot, isDots]
  by_cases dots : name = ".."
  · simp [dots, isDots]
  by_cases long : name.utf8ByteSize > maxName
  · simp [dot, dots, long]
  · simp only [dot, dots, long, if_false, false_and, false_or, isDots]
    cases tree.get? (location ++ [name]) with
    | none => simp
    | some entry => cases entry <;> simp [dot, dots]

theorem approach_eq_ok {base : Location} {way : Route} : tree.approach path = .ok (base, way) ↔
    route path = .ok way ∧ way.steps.foldlM tree.step [] = .ok base := by
  simp only [approach, bind_eq_ok]
  constructor
  · rintro ⟨found, routed, reached, walked, same⟩
    cases same
    exact ⟨routed, walked⟩
  · rintro ⟨routed, walked⟩
    exact ⟨way, routed, base, walked, rfl⟩

/-- Every directory of a tree is a directory of another. -/
def Keeps (tree tree' : FileTree) : Prop :=
  ∀ location, tree.get? location = some .directory → tree'.get? location = some .directory

theorem Keeps.step {name : String} (keeps : tree.Keeps tree')
    (taken : tree.step location name = .ok other) : tree'.step location name = .ok other := by
  rcases step_eq_ok.1 taken with dot | dots | ⟨proper, short, directory, same⟩
  · exact step_eq_ok.2 (.inl dot)
  · exact step_eq_ok.2 (.inr (.inl dots))
  · exact step_eq_ok.2 (.inr (.inr ⟨proper, short, keeps _ directory, same⟩))

theorem Keeps.steps (keeps : tree.Keeps tree') {names : List String} {start : Location}
    (walked : names.foldlM tree.step start = .ok other) : names.foldlM tree'.step start = .ok other := by
  induction names generalizing start with
  | nil => exact walked
  | cons name names ih =>
    rw [List.foldlM_cons, bind_eq_ok] at walked ⊢
    obtain ⟨next, taken, walked⟩ := walked
    exact ⟨next, keeps.step taken, ih walked⟩

/-- Paths lead where they did as long as no directory is lost. -/
theorem Leads.keeps (h : tree.Leads path location) (keeps : tree.Keeps tree') :
    tree'.Leads path location := by
  obtain ⟨base, way, approached, rest⟩ := h
  obtain ⟨routed, walked⟩ := approach_eq_ok.1 approached
  exact ⟨base, way, approach_eq_ok.2 ⟨routed, keeps.steps walked⟩, rest⟩

theorem Keeps.refl (tree : FileTree) : tree.Keeps tree :=
  fun _ directory => directory

theorem Keeps.trans {tree'' : FileTree} (first : tree.Keeps tree') (second : tree'.Keeps tree'') :
    tree.Keeps tree'' :=
  fun location directory => second location (first location directory)

/-- No directory is lost where something is put into a place that is no directory. -/
theorem Keeps.insert (free : tree.get? location ≠ some .directory) (entry : FileEntry) :
    tree.Keeps (tree.insert location entry) := by
  intro other directory
  rwa [get?_insert_of_ne]
  rintro rfl
  exact free directory

theorem Keeps.erase (free : tree.get? location ≠ some .directory) :
    tree.Keeps (tree.erase location) := by
  intro other directory
  rwa [get?_erase_of_ne]
  rintro rfl
  exact free directory

/-- Nothing becomes a directory where something is taken away. -/
theorem Keeps.of_erase (tree : FileTree) (proper : location ≠ []) : (tree.erase location).Keeps tree := by
  intro other directory
  by_cases same : other = location
  · subst same
    rw [get?_erase_self tree proper] at directory
    cases directory
  · rwa [get?_erase_of_ne tree same] at directory

/-! ## Operations -/

theorem write_eq_ok : tree.write path text = .ok tree' ↔
    ∃ location, tree.Leads path location ∧ tree.get? location ≠ some .directory
      ∧ tree.insert location (.file (.text text)) = tree' := by
  simp only [write, bind_eq_ok, Prod.exists]
  constructor
  · rintro ⟨base, way, approached, ran⟩
    -- The name, its length and what is there are checked in turn; each check that fails is a fault.
    split at ran
    · cases ran
    split at ran
    · cases ran
    split at ran
    · cases ran
    next proper short free =>
    simp only [Bool.or_eq_true, not_or, Bool.not_eq_true] at proper
    cases ran
    exact ⟨_, ⟨base, way, approached, proper.1, proper.2, short, rfl⟩, free, rfl⟩
  · rintro ⟨location, ⟨base, way, approached, proper, slash, short, rfl⟩, free, rfl⟩
    exact ⟨base, way, approached, by simp [proper, slash, short, free, pure, Except.pure]⟩

theorem makeDirectory_eq_ok (made : tree.makeDirectory path = .ok tree') :
    ∃ location, tree.get? location = none ∧ tree.insert location .directory = tree' := by
  simp only [makeDirectory, bind_eq_ok, Prod.exists] at made
  obtain ⟨base, way, -, ran⟩ := made
  split at ran
  · cases ran
  split at ran
  · cases ran
  split at ran
  · cases ran
  next free =>
  cases ran
  exact ⟨_, by simpa using free, rfl⟩

theorem remove_eq_ok : tree.remove path = .ok tree' ↔
    ∃ location contents, tree.Leads path location ∧ tree.get? location = some (.file contents)
      ∧ tree.erase location = tree' := by
  simp only [remove, bind_eq_ok, Prod.exists]
  constructor
  · rintro ⟨base, way, approached, ran⟩
    split at ran
    · cases ran
    split at ran
    · cases ran
    next proper short =>
    split at ran
    · cases ran
    · cases ran
    next contents found =>
    split at ran
    · cases ran
    next slash =>
    cases ran
    exact ⟨_, contents, ⟨base, way, approached, by simpa using proper, by simpa using slash, short, rfl⟩,
      found, rfl⟩
  · rintro ⟨location, contents, ⟨base, way, approached, proper, slash, short, rfl⟩, found, rfl⟩
    exact ⟨base, way, approached, by simp [proper, slash, short, found, pure, Except.pure]⟩

theorem read_of_leads (leads : tree.Leads path location)
    (found : tree.get? location = some (.file (.text text))) : tree.read path = .ok text := by
  obtain ⟨base, way, approached, proper, slash, short, rfl⟩ := leads
  simp only [read, bind_eq_ok, Prod.exists]
  exact ⟨base, way, approached, by simp [proper, slash, short, found, pure, Except.pure]⟩

end FileTree

end IdlBindings
