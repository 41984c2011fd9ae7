/-
# IdlBindings.Proofs.Writing: what is in a tree after files were written to it.

A file that is written changes one location, and makes directories on the way to it.  Files are written
one after another, so what a list of them does is a chain of such changes; if the chain breaks, every
location on it is emptied.  Nothing puts back what such a location held before the first change: files
that were overwritten are lost, and all others are as they were.
-/
import IdlBindings.Files.Disk
import IdlBindings.Proofs.TreeSteps

namespace IdlBindings

namespace FileTree

variable {tree mid tree' : FileTree} {path text : String} {location : Location}

/-! ## Making directories -/

/-- Directories were made, if anything was done at all. -/
structure Extends (tree tree' : FileTree) : Prop where
  keeps : tree.Keeps tree'
  files : ∀ location, tree'.fileAt? location = tree.fileAt? location

theorem Extends.refl (tree : FileTree) : tree.Extends tree :=
  ⟨Keeps.refl tree, fun _ => rfl⟩

theorem Extends.trans (first : tree.Extends mid) (second : mid.Extends tree') :
    tree.Extends tree' := by
  refine ⟨first.keeps.trans second.keeps, ?_⟩
  intro location
  rw [second.files, first.files]

theorem Extends.insert (free : tree.get? location = none) :
    tree.Extends (tree.insert location .directory) := by
  refine ⟨Keeps.insert (by simp [free]) _, ?_⟩
  intro other
  by_cases same : other = location
  · subst same
    have proper : other ≠ [] := by
      rintro rfl
      simp [get?_nil] at free
    simp only [fileAt?, get?_insert_self tree proper, free]
  · exact fileAt?_congr (get?_insert_of_ne tree same _)

/-- An action that makes directories and does nothing else. -/
def Grows {α : Type} (action : StateM FileTree α) : Prop :=
  ∀ tree : FileTree, tree.Extends (action tree).2

theorem Grows.pure {α : Type} (a : α) : Grows (pure a : StateM FileTree α) :=
  fun tree => Extends.refl tree

theorem Grows.bind {α β : Type} {action : StateM FileTree α} {next : α → StateM FileTree β}
    (first : Grows action) (second : ∀ a, Grows (next a)) : Grows (action >>= next) :=
  fun tree => (first tree).trans (second (action tree).1 (action tree).2)

theorem grows_makeDirectory (path : String) : Grows (Disk.ofTree.makeDirectory path) := by
  intro tree
  show tree.Extends (change (fun tree => tree.makeDirectory path) tree).2
  rw [change]
  split
  next tree' made =>
    obtain ⟨location, free, rfl⟩ := makeDirectory_eq_ok made
    exact Extends.insert free
  · exact Extends.refl tree

theorem grows_unlessDirectory (path : String) (result : Except FileFault Unit) :
    Grows (Disk.ofTree.unlessDirectory path result) := by
  rw [Disk.unlessDirectory.eq_def]
  cases result with
  | ok done => exact Grows.pure _
  | error fault =>
    -- Whether the directory is there by now is only looked up.
    refine Grows.bind (fun tree => Extends.refl tree) ?_
    intro there
    cases there <;> exact Grows.pure _

theorem grows_makeDirectoriesIn (steps : Nat) (path : String) :
    Grows (Disk.ofTree.makeDirectoriesIn steps path) := by
  induction steps generalizing path with
  | zero => exact Grows.pure _
  | succ steps ih =>
    rw [Disk.makeDirectoriesIn]
    split
    · exact Grows.pure _
    refine Grows.bind (grows_makeDirectory path) ?_
    intro result
    split
    · split
      · exact Grows.pure _
      next parent _ =>
      refine Grows.bind (ih parent) ?_
      intro made
      cases made with
      | error fault => exact Grows.pure _
      | ok done => exact Grows.bind (grows_makeDirectory path) (grows_unlessDirectory path)
    · exact grows_unlessDirectory path result

/-! ## Writing one file -/

/-- One file was written: its text is at a location that its path leads to, and other files are as
they were. -/
structure Puts (tree : FileTree) (path text : String) (tree' : FileTree) (location : Location) : Prop where
  keeps : tree.Keeps tree'
  leads : tree'.Leads path location
  found : tree'.fileAt? location = some (.text text)
  others : ∀ other, other ≠ location → tree'.fileAt? other = tree.fileAt? other

theorem Puts.of_write (extends' : tree.Extends mid) (ran : mid.write path text = .ok tree') :
    ∃ location, tree.Puts path text tree' location := by
  obtain ⟨location, leads, free, rfl⟩ := write_eq_ok.1 ran
  have keeps := Keeps.insert free (.file (.text text))
  refine ⟨location, extends'.keeps.trans keeps, leads.keeps keeps, ?_, ?_⟩
  · exact fileAt?_eq_some.2 (get?_insert_self mid leads.ne_nil _)
  · intro other differs
    rw [fileAt?_congr (get?_insert_of_ne mid differs _), extends'.files]

/-- What became of one file. -/
def WriteOutcome (tree : FileTree) (path text : String) :
    Except WriteFault Unit × FileTree → Prop
  | (.ok (), tree') => ∃ location, tree.Puts path text tree' location
  | (.error fault, tree') =>
    tree.Extends tree' ∧ (fault.path = path ∨ Path.parent? path = some fault.path)

theorem put_eq (path text : String) (tree : FileTree) :
    Disk.writeFile.put Disk.ofTree path text tree =
      match tree.write path text with
      | .ok tree' => (.ok (), tree')
      | .error fault => (.error ⟨path, fault⟩, tree) := by
  show (change (fun tree => tree.write path text) >>= _ : StateM FileTree _) tree = _
  cases ran : tree.write path text <;> simp [bind, StateT.bind, change, ran] <;> rfl

theorem put_outcome (grown : tree.Extends mid) (path text : String) :
    tree.WriteOutcome path text (Disk.writeFile.put Disk.ofTree path text mid) := by
  rw [put_eq]
  cases ran : mid.write path text with
  | ok tree' => exact Puts.of_write grown ran
  | error fault => exact ⟨grown, .inl rfl⟩

theorem writeFile_outcome (path text : String) (tree : FileTree) :
    tree.WriteOutcome path text (Disk.ofTree.writeFile path text tree) := by
  rw [Disk.writeFile]
  cases above : Path.parent? path with
  | none => exact put_outcome (Extends.refl tree) path text
  | some parent =>
    have grown := grows_makeDirectoriesIn (parent.length + 1) parent tree
    show tree.WriteOutcome path text ((Disk.ofTree.makeDirectories parent >>= _ : StateM FileTree _) tree)
    simp only [bind, StateT.bind, Disk.makeDirectories]
    revert grown
    rcases Disk.ofTree.makeDirectoriesIn (parent.length + 1) parent tree with ⟨result, mid⟩
    intro grown
    cases result with
    | error fault => exact ⟨grown, .inr above⟩
    | ok done => exact put_outcome grown path text

/-! ## Writing files one after another -/

/-- Files were written in order. -/
inductive Writes : FileTree → List (String × String) → FileTree → Prop
  | none (tree : FileTree) : Writes tree [] tree
  | file {tree mid tree' : FileTree} {path text : String} {location : Location}
      {rest : List (String × String)} (put : tree.Puts path text mid location)
      (others : Writes mid rest tree') : Writes tree ((path, text) :: rest) tree'

variable {files : List (String × String)}

theorem Writes.keeps (writes : tree.Writes files tree') : tree.Keeps tree' := by
  induction writes with
  | none tree => exact Keeps.refl tree
  | file put others ih => exact put.keeps.trans ih

theorem Writes.leads (writes : tree.Writes files tree') :
    ∀ file ∈ files, ∃ location, tree'.Leads file.1 location := by
  induction writes with
  | none tree => simp
  | file put others ih =>
    intro file mem
    rcases List.mem_cons.1 mem with rfl | mem
    · exact ⟨_, put.leads.keeps others.keeps⟩
    · exact ih file mem

/-- A location that none of the paths leads to is left alone. -/
theorem Writes.others (writes : tree.Writes files tree')
    (apart : ∀ file ∈ files, ¬ tree'.Leads file.1 location) :
    tree'.fileAt? location = tree.fileAt? location := by
  induction writes with
  | none tree => rfl
  | @file tree mid tree' path text reached rest put others ih =>
    obtain ⟨first, behind⟩ := List.forall_mem_cons.1 apart
    have differs : location ≠ reached := by
      rintro rfl
      exact first (put.leads.keeps others.keeps)
    rw [ih behind, put.others _ differs]

/-- Files whose paths lead to different locations are all there in the end. -/
theorem Writes.found (writes : tree.Writes files tree')
    (apart : files.Pairwise fun file file' =>
      ∀ location, tree'.Leads file.1 location → ¬ tree'.Leads file'.1 location) :
    ∀ file ∈ files, ∃ location, tree'.Leads file.1 location
      ∧ tree'.fileAt? location = some (.text file.2) := by
  induction writes with
  | none tree => simp
  | @file tree mid tree' path text reached rest put others ih =>
    obtain ⟨first, behind⟩ := List.pairwise_cons.1 apart
    have leads : tree'.Leads path reached := put.leads.keeps others.keeps
    intro file mem
    rcases List.mem_cons.1 mem with rfl | mem
    · -- What is written later goes elsewhere, so the text is still there.
      refine ⟨reached, leads, ?_⟩
      rw [others.others fun file' mem' => first file' mem' reached leads, put.found]
    · exact ih behind file mem

/-! ## Removing files -/

/-- Where any of the paths leads there is no file any more, and other files are as they were. -/
structure Removes (tree : FileTree) (paths : List String) (tree' : FileTree) : Prop where
  keeps : tree.Keeps tree'
  kept : tree'.Keeps tree
  gone : ∀ path ∈ paths, ∀ location, tree.Leads path location → tree'.fileAt? location = none
  others : ∀ location, (∀ path ∈ paths, ¬ tree.Leads path location) →
    tree'.fileAt? location = tree.fileAt? location

/-- What cannot be removed is no file. -/
theorem removes_one (path : String) (tree : FileTree) :
    tree.Removes [path] (Disk.ofTree.remove path tree).2 := by
  show tree.Removes [path] (change (fun tree => tree.remove path) tree).2
  cases ran : tree.remove path with
  | ok tree' =>
    have changed : (change (fun tree => tree.remove path) tree).2 = tree' := by simp only [change, ran]
    rw [changed]
    obtain ⟨location, contents, leads, found, rfl⟩ := remove_eq_ok.1 ran
    have file : tree.get? location ≠ some .directory := by simp [found]
    refine ⟨Keeps.erase file, Keeps.of_erase tree leads.ne_nil, ?_, ?_⟩
    · intro path' mem other leads'
      obtain rfl := List.mem_singleton.1 mem
      obtain rfl := leads.unique leads'
      rw [fileAt?, get?_erase_self tree leads.ne_nil]
    · intro other apart
      refine fileAt?_congr (get?_erase_of_ne tree ?_)
      rintro rfl
      exact apart path (List.mem_singleton_self path) leads
  | error fault =>
    have changed : (change (fun tree => tree.remove path) tree).2 = tree := by simp only [change, ran]
    rw [changed]
    -- A path that leads to a file can be removed, so this one leads to none.
    refine ⟨Keeps.refl tree, Keeps.refl tree, ?_, fun _ _ => rfl⟩
    intro path' mem location leads
    obtain rfl := List.mem_singleton.1 mem
    cases found : tree.fileAt? location with
    | none => rfl
    | some contents =>
      have removed := remove_eq_ok.2 ⟨location, contents, leads, fileAt?_eq_some.1 found, rfl⟩
      rw [ran] at removed
      cases removed

theorem Removes.cons {paths : List String} (first : tree.Removes [path] mid)
    (rest : mid.Removes paths tree') : tree.Removes (path :: paths) tree' := by
  have alone : ∀ location, ¬ tree.Leads path location → mid.fileAt? location = tree.fileAt? location := by
    intro location apart
    refine first.others location ?_
    intro path' mem
    rwa [List.mem_singleton.1 mem]
  refine ⟨first.keeps.trans rest.keeps, rest.kept.trans first.kept, ?_, ?_⟩
  · intro path' mem location leads
    by_cases later : ∃ path ∈ paths, mid.Leads path location
    · obtain ⟨path'', mem', leads'⟩ := later
      exact rest.gone path'' mem' location leads'
    · -- No later path leads here, so this is what the first one left.
      have apart : ∀ path ∈ paths, ¬ mid.Leads path location :=
        fun path'' mem' leads' => later ⟨path'', mem', leads'⟩
      rcases List.mem_cons.1 mem with rfl | mem
      · rw [rest.others location apart]
        exact first.gone path' (List.mem_singleton_self path') location leads
      · exact absurd (leads.keeps first.keeps) (apart path' mem)
  · intro location apart
    obtain ⟨here, behind⟩ := List.forall_mem_cons.1 apart
    rw [rest.others location fun path' mem leads => behind path' mem (leads.keeps first.kept),
      alone location here]

theorem removeAll_removes (paths : List String) (tree : FileTree) :
    tree.Removes paths (Disk.ofTree.removeAll paths tree).2 := by
  induction paths generalizing tree with
  | nil => exact ⟨Keeps.refl tree, Keeps.refl tree, by simp, fun _ _ => rfl⟩
  | cons path paths ih => exact (removes_one path tree).cons (ih _)

/-! ## All files or none -/

/-- What became of many files.  Behind the ones written stands the one that could not be. -/
def WritesOutcome (tree : FileTree) (written : List String) (files : List (String × String)) :
    Except WriteFault (List String) × FileTree → Prop
  | (.ok paths, tree') => paths = written ++ files.map (·.1) ∧ tree.Writes files tree'
  | (.error fault, tree') => ∃ done path text rest mid mid', files = done ++ (path, text) :: rest
    ∧ (fault.path = path ∨ Path.parent? path = some fault.path)
    ∧ tree.Writes done mid ∧ mid.Extends mid' ∧ mid'.Removes (written ++ done.map (·.1)) tree'

theorem writeAll_outcome (written : List String) (files : List (String × String)) (tree : FileTree) :
    tree.WritesOutcome written files (Disk.ofTree.writeAll written files tree) := by
  -- The paths written so far are an argument of the loop: they are what a later failure removes.
  induction files generalizing written tree with
  | nil => exact ⟨by simp, .none tree⟩
  | cons file rest ih =>
    obtain ⟨path, text⟩ := file
    show tree.WritesOutcome written _ ((Disk.ofTree.writeFile path text >>= _ : StateM FileTree _) tree)
    have outcome := writeFile_outcome path text tree
    simp only [bind, StateT.bind]
    revert outcome
    rcases Disk.ofTree.writeFile path text tree with ⟨result, mid⟩
    intro outcome
    cases result with
    | ok done =>
      obtain ⟨location, put⟩ := outcome
      have later := ih (written ++ [path]) mid
      show tree.WritesOutcome written _ (Disk.ofTree.writeAll (written ++ [path]) rest mid)
      revert later
      rcases Disk.ofTree.writeAll (written ++ [path]) rest mid with ⟨result, tree'⟩
      intro later
      cases result with
      | ok paths =>
        obtain ⟨rfl, writes⟩ := later
        exact ⟨by simp, .file put writes⟩
      | error fault =>
        obtain ⟨done, path', text', rest', last, grown, rfl, about, writes, extended, removed⟩ := later
        refine ⟨(path, text) :: done, path', text', rest', last, grown, rfl, about,
          .file put writes, extended, ?_⟩
        simpa using removed
    | error fault =>
      obtain ⟨grown, about⟩ := outcome
      refine ⟨[], path, text, rest, tree, mid, rfl, about, .none tree, grown, ?_⟩
      simpa using removeAll_removes written mid

/-- The files written so far were removed again, and other files are as they were. -/
structure RolledBack (tree : FileTree) (done : List (String × String)) (tree' : FileTree) : Prop where
  leads : ∀ file ∈ done, ∃ location, tree'.Leads file.1 location
  gone : ∀ file ∈ done, ∀ location, tree'.Leads file.1 location → tree'.fileAt? location = none
  others : ∀ location, (∀ file ∈ done, ¬ tree'.Leads file.1 location) →
    tree'.fileAt? location = tree.fileAt? location

variable {mid' : FileTree} {done : List (String × String)}

theorem Writes.rolledBack (writes : tree.Writes done mid) (grown : mid.Extends mid')
    (removed : mid'.Removes (done.map (·.1)) tree') : tree.RolledBack done tree' := by
  -- No directory comes or goes with a file, so paths lead to the same locations throughout.
  refine ⟨?_, ?_, ?_⟩
  · intro file mem
    obtain ⟨location, leads⟩ := writes.leads file mem
    exact ⟨location, (leads.keeps grown.keeps).keeps removed.keeps⟩
  · intro file mem location leads
    exact removed.gone file.1 (List.mem_map_of_mem mem) location (leads.keeps removed.kept)
  · intro location apart
    have untouched : ∀ file ∈ done, ¬ mid'.Leads file.1 location :=
      fun file mem leads => apart file mem (leads.keeps removed.keeps)
    calc tree'.fileAt? location = mid'.fileAt? location := removed.others location (by simpa using untouched)
      _ = mid.fileAt? location := grown.files location
      _ = tree.fileAt? location :=
          writes.others fun file mem leads => untouched file mem (leads.keeps grown.keeps)

/-- A removed file is as it was only if it was not there. -/
theorem RolledBack.same_iff (back : tree.RolledBack done tree') :
    (∀ location, tree'.fileAt? location = tree.fileAt? location) ↔
      ∀ file ∈ done, ∀ location, tree'.Leads file.1 location → tree.fileAt? location = none := by
  constructor
  · intro same file mem location leads
    rw [← same location, back.gone file mem location leads]
  · intro fresh location
    by_cases written : ∃ file ∈ done, tree'.Leads file.1 location
    · obtain ⟨file, mem, leads⟩ := written
      rw [back.gone file mem location leads, fresh file mem location leads]
    · exact back.others location fun file mem leads => written ⟨file, mem, leads⟩

end FileTree

/-- Where files cannot all be written, the ones written before the failure are removed and nothing is
put back.  So all files of the tree are as they were if and only if none of those was there before. -/
theorem Disk.writeAll_restores_iff {tree tree' : FileTree} {files : List (String × String)}
    {fault : WriteFault} (failed : Disk.ofTree.writeAll [] files tree = (.error fault, tree')) :
    ∃ done path text rest, files = done ++ (path, text) :: rest
      ∧ (fault.path = path ∨ Path.parent? path = some fault.path)
      ∧ tree.RolledBack done tree'
      ∧ ((∀ location, tree'.fileAt? location = tree.fileAt? location) ↔
          ∀ file ∈ done, ∀ location, tree'.Leads file.1 location → tree.fileAt? location = none) := by
  have outcome := FileTree.writeAll_outcome [] files tree
  rw [failed] at outcome
  obtain ⟨done, path, text, rest, mid, mid', split, about, writes, grown, removed⟩ := outcome
  have back : tree.RolledBack done tree' := writes.rolledBack grown removed
  exact ⟨done, path, text, rest, split, about, back, back.same_iff⟩

/-- A directory `d` and a file `a`. -/
def FileTree.occupied : FileTree :=
  ⟨[(["d"], .directory), (["a"], .file (.text "old"))]⟩

/-- A new file below a new directory is taken back when `d` cannot be written. -/
theorem Disk.writeAll_restores_occupied :
    Disk.ofTree.writeAll [] [("new/b", "x"), ("d", "y"), ("c", "z")] FileTree.occupied =
        (.error ⟨"d", .isDirectory⟩, FileTree.occupied.insert ["new"] .directory)
      ∧ ∃ done path text rest, [("new/b", "x"), ("d", "y"), ("c", "z")] = done ++ (path, text) :: rest
        ∧ ("d" = path ∨ Path.parent? path = some "d")
        ∧ FileTree.occupied.RolledBack done (FileTree.occupied.insert ["new"] .directory)
        ∧ ((∀ location, (FileTree.occupied.insert ["new"] .directory).fileAt? location
              = FileTree.occupied.fileAt? location) ↔
            ∀ file ∈ done, ∀ location,
              (FileTree.occupied.insert ["new"] .directory).Leads file.1 location →
              FileTree.occupied.fileAt? location = none) :=
  ⟨rfl, @Disk.writeAll_restores_iff _ _ _ ⟨"d", .isDirectory⟩ rfl⟩

/-- The file `a` is overwritten, `d` cannot be written, and `a` is removed. -/
theorem Disk.writeAll_loses_overwritten :
    ∃ fault tree', Disk.ofTree.writeAll [] [("./a", "new"), ("./d", "x")] FileTree.occupied =
        (.error fault, tree')
      ∧ FileTree.occupied.fileAt? ["a"] = some (.text "old") ∧ tree'.fileAt? ["a"] = none :=
  ⟨⟨"./d", .isDirectory⟩, ⟨[(["d"], .directory)]⟩, rfl, rfl, rfl⟩

end IdlBindings
