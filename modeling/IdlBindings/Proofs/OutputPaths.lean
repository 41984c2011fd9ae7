/-
# IdlBindings.Proofs.OutputPaths: where the files of a target are put.

The path of a file is made from the name of a definition in lower case, or is given by the options.
If there is no slash in these there is none in the path.  Joined to the output directory, such a path
adds one step to the way there, so different paths lead to different locations of one directory.
-/
import IdlBindings.Proofs.Rendering
import IdlBindings.Proofs.TreeSteps

namespace IdlBindings

/-! ## Lower case -/

namespace Text

theorem ofNat_ne_slash {n : Nat} (above : 0x2f < n) : Char.ofNat n ≠ '/' := by
  intro same
  by_cases valid : n.isValidChar
  · have character : Char.ofNat n = Char.ofNatAux n valid := dif_pos valid
    have code : n = 0x2f := congrArg Char.toNat (character.symm.trans same)
    omega
  · -- What is no character becomes the one with code zero.
    have zero : Char.ofNat n = Char.ofNat 0 := dif_neg valid
    rw [zero] at same
    exact absurd same (by decide)

theorem lookup_above {n image : Nat} (found : CaseRun.lookup lowerRuns n = some image) : 0x2f < image := by
  obtain ⟨run, mem, mapped⟩ := List.exists_of_findSome?_eq_some found
  have high : lowerRuns.all (0x2f < ·.target) = true := by decide +kernel
  have above : 0x2f < run.target := by simpa using List.all_eq_true.1 high run mem
  rw [CaseRun.image?] at mapped
  split at mapped
  · cases mapped
    omega
  · cases mapped

theorem toLower_ascii_slash : ∀ n < 128, (Char.ofNat n).toLower = '/' → Char.ofNat n = '/' := by
  decide

/-- A slash comes from a slash only. -/
theorem slash_of_mem_lowerChar {c : Char} (mem : '/' ∈ lowerChar c) : c = '/' := by
  rw [lowerChar] at mem
  split at mem
  next ascii =>
    have lower := List.mem_singleton.1 mem
    rw [← Char.ofNat_toNat c] at lower ⊢
    exact toLower_ascii_slash _ ascii lower.symm
  next above =>
    split at mem
    · exact absurd mem (by decide)
    · have image := List.mem_singleton.1 mem
      cases found : CaseRun.lookup lowerRuns c.toNat with
      | none =>
        rw [found] at image
        exact image.symm
      | some n =>
        rw [found] at image
        exact absurd image.symm (ofNat_ne_slash (lookup_above found))

theorem slash_of_mem_lowerAfter {before text : List Char} (mem : '/' ∈ lowerAfter before text) :
    '/' ∈ text := by
  induction text generalizing before with
  | nil => simp [lowerAfter] at mem
  | cons c rest ih =>
    rw [lowerAfter] at mem
    rcases List.mem_append.1 mem with here | later
    · split at here
      · -- A sigma has two lower-case forms, one of them at the end of a word.
        have image := List.mem_singleton.1 here
        refine absurd image.symm (ofNat_ne_slash ?_)
        split <;> decide
      · exact List.mem_cons.2 (.inl (slash_of_mem_lowerChar here).symm)
    · exact List.mem_cons_of_mem c (ih later)

theorem slash_of_mem_toLower {text : String} (mem : '/' ∈ (toLower text).toList) : '/' ∈ text.toList := by
  rw [toLower, String.toList_ofList] at mem
  exact slash_of_mem_lowerAfter mem

end Text

/-! ## Paths of candidates -/

theorem exists_of_mapM {α β ε : Type} {f : α → Except ε β} {xs : List α} {ys : List β}
    (mapped : xs.mapM f = .ok ys) : ∀ y ∈ ys, ∃ x ∈ xs, f x = .ok y := by
  induction xs generalizing ys with
  | nil =>
    cases mapped
    simp
  | cons x xs ih =>
    rw [List.mapM_cons, bind_eq_ok] at mapped
    obtain ⟨first, here, rest⟩ := mapped
    obtain ⟨others, later, same⟩ := bind_eq_ok.1 rest
    cases same
    intro y mem
    rcases List.mem_cons.1 mem with rfl | mem
    · exact ⟨x, List.mem_cons_self .., here⟩
    · obtain ⟨x', mem', made⟩ := ih later y mem
      exact ⟨x', List.mem_cons_of_mem x mem', made⟩

theorem slash_of_mem_append {a b : String} (mem : '/' ∈ (a ++ b).toList) :
    '/' ∈ a.toList ∨ '/' ∈ b.toList := by
  rwa [String.toList_append, List.mem_append] at mem

/-- No path of a target has a slash if no name has one and no option that paths are made from. -/
theorem Target.slashless_candidates {target : Target} {schema : List Definition} {options : RenderOptions}
    {files : List SourceFile} (made : target.candidates schema options = .ok files)
    (suffix : '/' ∉ options.suffix.toList) (bundle : '/' ∉ options.bundle.toList)
    (names : ∀ definition ∈ schema, '/' ∉ definition.name.toList) :
    ∀ file ∈ files, '/' ∉ file.path.toList := by
  -- All targets but one make paths from a name in lower case and an extension.
  have extended : ∀ definition ∈ schema, ∀ extension : String, '/' ∉ extension.toList →
      '/' ∉ (Text.toLower definition.name ++ extension).toList := by
    intro definition mem extension plain slash
    rcases slash_of_mem_append slash with name | rest
    · exact names definition mem (Text.slash_of_mem_toLower name)
    · exact plain rest
  intro file mem
  cases target with
  | cpp =>
    obtain ⟨groups, mapped, flat⟩ := bind_eq_ok.1 made
    cases flat
    obtain ⟨group, inside, mem⟩ := List.mem_flatten.1 mem
    obtain ⟨definition, known, ran⟩ := exists_of_mapM mapped group inside
    obtain ⟨header, -, ran⟩ := bind_eq_ok.1 ran
    obtain ⟨source, -, ran⟩ := bind_eq_ok.1 ran
    cases ran
    rcases List.mem_cons.1 mem with rfl | mem
    · exact extended definition known ".h" (by decide)
    · obtain rfl := List.mem_singleton.1 mem
      have dotted := extended definition known ("." ++ options.suffix) (by simpa using suffix)
      rwa [← String.append_assoc] at dotted
  | flow =>
    obtain ⟨definition, known, ran⟩ := exists_of_mapM made file mem
    obtain ⟨contents, -, ran⟩ := bind_eq_ok.1 ran
    cases ran
    exact extended definition known ".js" (by decide)
  | javascript =>
    obtain ⟨contents, -, ran⟩ := bind_eq_ok.1 made
    cases ran
    obtain rfl := List.mem_singleton.1 mem
    exact bundle
  | idl =>
    cases made
    rw [idlFiles, List.mem_mergeSort] at mem
    obtain ⟨definition, known, rfl⟩ := List.mem_map.1 mem
    exact extended definition known ".idl" (by decide)

/-! ## Joined paths -/

namespace Path

/-- The pieces before a name that is joined to a path. -/
def leading (base : String) : List (List Char) :=
  if base.isEmpty then []
  else if base.toList.getLast? = some '/' then (base.toList.splitOn '/').dropLast
  else base.toList.splitOn '/'

theorem splitOn_join (base : String) {name : String} (plain : '/' ∉ name.toList) :
    (join base name).toList.splitOn '/' = leading base ++ [name.toList] := by
  have relative : isAbsolute name = false := by
    rw [isAbsolute, beq_eq_false_iff_ne]
    intro head
    exact plain (List.mem_of_head? head)
  rw [join, leading, relative]
  by_cases none : base.isEmpty = true
  · have gone : base = "" := by simpa using none
    simp [gone, List.splitOn_eq_singleton plain]
  by_cases slash : base.toList.getLast? = some '/'
  · obtain ⟨front, shape⟩ := List.getLast?_eq_some_iff.1 slash
    simp [none, shape, List.splitOn_append_cons_self, List.splitOn_eq_singleton plain]
  · simp [none, slash, List.splitOn_append_cons_self, List.splitOn_eq_singleton plain]

theorem join_empty (base : String) :
    join base "" = "" ∨ (join base "").toList.getLast? = some '/' := by
  have relative : isAbsolute "" = false := rfl
  rw [join, relative]
  by_cases none : base.isEmpty = true
  · have gone : base = "" := by simpa using none
    left
    simp [gone]
  by_cases slash : base.toList.getLast? = some '/'
  · right
    simp [slash]
  · right
    simp [none, slash]

/-- The last component of a joined name is the name. -/
theorem getLast?_components_join (base : String) {name : String} (plain : '/' ∉ name.toList)
    (proper : name ≠ "") (named : FileTree.isDots name = false) :
    (components (join base name)).getLast? = some (.name name) := by
  have part : component? name.toList = some (.name name) := by
    simp only [FileTree.isDots, Bool.or_eq_false_iff, beq_eq_false_iff_ne, ne_eq] at named
    rw [component?, if_neg, if_neg, String.ofList_toList]
    · intro dots
      exact named.2 (String.toList_inj.1 dots)
    · rintro (empty | dot)
      · exact proper (String.toList_inj.1 empty)
      · exact named.1 (String.toList_inj.1 dot)
  rw [components, splitOn_join base plain, List.filterMap_append]
  simp [part, ← List.append_assoc]

end Path

namespace FileTree

variable {tree : FileTree} {out name : String} {location : Location}

theorem route_slash {path : String} {way : Route} (routed : route path = .ok way)
    (open' : way.slash = false) : path ≠ "" ∧ path.toList.getLast? ≠ some '/' := by
  rw [route] at routed
  split at routed
  · cases routed
  split at routed
  · cases routed
  next present =>
  split at routed
  · cases routed
  split at routed
  · cases routed
    exact ⟨by simpa using present, by simpa using open'⟩
  · cases routed
    cases open'

theorem route_last {path last : String} {pieces : List (List Char)} {way : Route}
    (split' : path.toList.splitOn '/' = pieces ++ [last.toList]) (proper : last ≠ "")
    (routed : route path = .ok way) : way.last = last := by
  have final : (((path.toList.splitOn '/').filter (!·.isEmpty)).map String.ofList).getLast? = some last := by
    have kept : [last.toList].filter (!·.isEmpty) = [last.toList] := by simpa using proper
    rw [split', List.filter_append, kept]
    simp
  rw [route] at routed
  split at routed
  · cases routed
  split at routed
  · cases routed
  split at routed
  · cases routed
  rw [final] at routed
  cases routed
  rfl

/-- A file behind a joined name has that name. -/
theorem Leads.joined (plain : '/' ∉ name.toList) (leads : tree.Leads (Path.join out name) location) :
    name ≠ "" ∧ isDots name = false ∧ ∃ base, base ++ [name] = location := by
  obtain ⟨base, way, approached, named, open', -, rfl⟩ := leads
  obtain ⟨routed, -⟩ := approach_eq_ok.1 approached
  have proper : name ≠ "" := by
    rintro rfl
    obtain ⟨present, ending⟩ := route_slash routed open'
    exact (Path.join_empty out).elim present ending
  obtain rfl := route_last (Path.splitOn_join out plain) proper routed
  exact ⟨proper, named, base, rfl⟩

/-- Names joined to one path lead to one location only if they are the same. -/
theorem Leads.joined_inj {name' : String} (plain : '/' ∉ name.toList) (plain' : '/' ∉ name'.toList)
    (leads : tree.Leads (Path.join out name) location)
    (leads' : tree.Leads (Path.join out name') location) : name = name' := by
  obtain ⟨-, -, base, rfl⟩ := leads.joined plain
  obtain ⟨-, -, base', same⟩ := leads'.joined plain'
  exact (List.append_singleton_inj.1 same).2.symm

end FileTree

end IdlBindings
