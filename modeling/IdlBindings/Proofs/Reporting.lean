/-
# IdlBindings.Proofs.Reporting: a report agrees with what was processed.

The numbers of a report come from three places: the registry counts fragments before they are merged, the
report looks these numbers up by name, and members and values are counted in the merged definitions.  They
agree.  Every name of a kept fragment is looked up with success, merging loses no member and no value, and
what was read is either kept or dropped.
-/
import Mathlib
import IdlBindings.Proofs.Reordering
import IdlBindings.Proofs.RunOutcome

namespace IdlBindings

/-! ## Numbers of fragments -/

theorem Selection.length_kept_add_dropped (selection : Selection) (definitions : List Definition) :
    (selection.kept definitions).length + (selection.droppedOf definitions).length = definitions.length := by
  rw [← (selection.refuses_droppedOf definitions).length_eq, kept, List.length_map]
  exact (List.length_eq_length_filter_add _).symm

/-- Each fragment is counted once, with its name. -/
theorem sum_count_names (names : List String) : (names.eraseDups.map names.count).sum = names.length := by
  have same : names.eraseDups.toFinset = names.toFinset := by
    ext name
    simp [List.mem_eraseDups]
  rw [← List.sum_toFinset _ (Registry.nodup_eraseDups names), same]
  exact List.sum_toFinset_count_eq_length names

theorem lookup_counts {names : List String} {count : String → Nat} {name : String} (known : name ∈ names) :
    (names.map fun name => (name, count name)).lookup name = some (count name) := by
  induction names with
  | nil => cases known
  | cons other names ih =>
    rw [List.map_cons, List.lookup_cons]
    by_cases same : name = other
    · subst same
      rw [beq_self_eq_true]
    · rw [beq_false_of_ne same]
      exact ih ((List.mem_cons.1 known).resolve_left same)

namespace Definition.Gathers

variable {fragments : List Definition} {name : String} {d : Definition}

theorem length_members (made : Gathers fragments name d) :
    d.members.length = ((fragments.filter (·.name == name)).map (·.members.length)).sum := by
  obtain ⟨first, others, split, rfl⟩ := made
  rw [split, List.length_flatMap]

theorem length_values (made : Gathers fragments name d) :
    d.values.length = ((fragments.filter (·.name == name)).map (·.values.length)).sum := by
  obtain ⟨first, others, split, rfl⟩ := made
  rw [split, List.length_flatMap]

end Definition.Gathers

/-! ## Reports -/

/-- A report agrees with the definitions that were read and with the fragments that were kept of them. -/
structure Report.Accounts (read kept : List Definition) (report : Report) : Prop where
  /-- Each name of a kept fragment has one entry, in the order in which the names first occur. -/
  names : report.definitions.map (·.name) = (kept.map (·.name)).eraseDups
  fragments : ∀ entry ∈ report.definitions, entry.fragments = (kept.filter (·.name == entry.name)).length
  members : ∀ entry ∈ report.definitions,
    entry.members = ((kept.filter (·.name == entry.name)).map (·.members.length)).sum
  values : ∀ entry ∈ report.definitions,
    entry.values = ((kept.filter (·.name == entry.name)).map (·.values.length)).sum
  merged : report.summary.merged
    = ((kept.map (·.name)).eraseDups.filter fun name => 1 < (kept.filter (·.name == name)).length).length
  /-- What was read is in an entry or was dropped. -/
  total : (report.definitions.map (·.fragments)).sum + report.summary.dropped = read.length

theorem Schema.mem_merged {fragments : List Definition} {d : Definition} (inside : d ∈ merged fragments) :
    d.name ∈ (fragments.map (·.name)).eraseDups ∧ Definition.Gathers fragments d.name d := by
  rw [merged_eq, List.mem_filterMap] at inside
  obtain ⟨name, known, made⟩ := inside
  obtain rfl := Definition.name_of_merge? made
  exact ⟨known, Definition.gathers_of_merge? made⟩

/-- An entry counts the fragments of its name. -/
theorem fragments_summary {kept : List Definition} {d : Definition} (inside : d ∈ Schema.merged kept) :
    (d.summary (Registry.ofList kept).counts).fragments = (kept.filter (·.name == d.name)).length := by
  have counted : (kept.map (·.name)).count d.name = (kept.filter (·.name == d.name)).length :=
    (Registry.length_groupOf kept d.name).symm
  rw [← counted, Definition.summary, Registry.counts_ofList, lookup_counts (Schema.mem_merged inside).1,
    Option.getD_some]

section

variable {read : List Definition} {selection : Selection} {result : RunResult}

theorem Report.Accounts.of_merged (definitions : result.definitions = Schema.merged (selection.kept read))
    (counts : result.fragmentCounts = (Registry.ofList (selection.kept read)).counts)
    (dropped : result.dropped = selection.droppedOf read) :
    result.report.Accounts read (selection.kept read) := by
  set kept := selection.kept read with kept_eq
  have entries : result.report.definitions
      = (Schema.merged kept).map (Definition.summary (Registry.ofList kept).counts) := by
    rw [← definitions, ← counts]
    rfl
  have names : result.report.definitions.map (·.name) = (kept.map (·.name)).eraseDups := by
    rw [entries, List.map_map]
    exact Schema.map_name_merged kept
  have fragments : ∀ entry ∈ result.report.definitions,
      entry.fragments = (kept.filter (·.name == entry.name)).length := by
    rw [entries, List.forall_mem_map]
    exact fun d inside => fragments_summary inside
  -- Two of the numbers go over all entries, and the names are known to be those of the fragments.
  have numbers : result.report.definitions.map (·.fragments)
      = (kept.map (·.name)).eraseDups.map fun name => (kept.filter (·.name == name)).length := by
    rw [← names, List.map_map]
    exact List.map_congr_left fragments
  refine ⟨names, fragments, ?_, ?_, ?_, ?_⟩
  · rw [entries, List.forall_mem_map]
    exact fun d inside => (Schema.mem_merged inside).2.length_members
  · rw [entries, List.forall_mem_map]
    exact fun d inside => (Schema.mem_merged inside).2.length_values
  · have merged : result.report.summary.merged
        = ((result.report.definitions.map (·.fragments)).filter fun number => 1 < number).length := by
      rw [List.filter_map, List.length_map]
      rfl
    rw [merged, numbers, List.filter_map, List.length_map]
    rfl
  · have all : (kept.map (·.name)).eraseDups.map (fun name => (kept.filter (·.name == name)).length)
        = (kept.map (·.name)).eraseDups.map (kept.map (·.name)).count :=
      List.map_congr_left fun name _ => Registry.length_groupOf kept name
    have skipped : result.report.summary.dropped = (selection.droppedOf read).length := by
      rw [← dropped]
      rfl
    rw [numbers, all, sum_count_names, List.length_map, skipped, kept_eq, selection.length_kept_add_dropped]

end

/-! ## Runs -/

/-- The result of a run that collected and rendered, and that wrote `files`. -/
def Collection.result (collection : Collection) (target : Target) (sources : List String) (rendering : Rendering)
    (files : List String) : RunResult :=
  { target, sources, files
    definitions := rendering.definitions
    fragmentCounts := collection.registry.counts
    dropped := collection.dropped
    warnings := collection.warnings }

section

variable {settings : Settings} {target : Target}

theorem Collection.report_result_accounts {fetched : List (Locator × Except FetchFault Document)}
    {collection : Collection} {rendering : Rendering} (collected : collect settings fetched = .ok collection)
    (rendered : collection.render settings target = .ok rendering) (sources files : List String) :
    (collection.result target sources rendering files).report.Accounts (fetched.flatMap Fetched.definitions)
      (keptFragments settings fetched) := by
  obtain rfl := collect_eq_ok collected
  have merged := Registry.merge_eq_ok (render_eq_ok_iff.1 rendered).1
  exact .of_merged merged rfl rfl

/-- A run that succeeds has collected what it fetched and has rendered it. -/
theorem generate_eq_ok {World : Type} {answer : String → StateM World Answer} {locators : List Locator}
    {world world' : World} {tree tree' : FileTree} {result : RunResult}
    (ran : generate Disk.ofTree.lift settings target locators (.ofWorld answer) world tree
      = ((.ok result, world'), tree')) :
    ∃ collection rendering,
      Collection.collect settings (fetchAll Disk.ofTree.lift (.ofWorld answer) locators world tree).1.1
        = .ok collection
      ∧ collection.render settings target = .ok rendering
      ∧ result = collection.result target (locators.map Locator.display) rendering result.files := by
  cases locators with
  | nil => cases ran
  | cons first rest =>
    rw [generate_eq] at ran
    simp only [] at ran
    cases collected : Collection.collect settings
        (fetchAll Disk.ofTree.lift (.ofWorld answer) (first :: rest) world tree).1.1 with
    | error fault =>
      rw [collected] at ran
      cases ran
    | ok collection =>
      simp only [collected] at ran
      cases rendered : collection.render settings target with
      | error fault =>
        simp only [rendered] at ran
        cases ran
      | ok rendering =>
        simp only [rendered] at ran
        split at ran
        next => cases ran
        next =>
          cases ran
          exact ⟨collection, rendering, rfl, rendered, rfl⟩

end

/-- The report of a run agrees with what was processed.  This holds of all that can be collected and rendered,
wherever its documents come from, and so of every run that succeeds, on any machine and with any network. -/
theorem report_accounts (settings : Settings) (target : Target) :
    (∀ fetched collection rendering sources files, Collection.collect settings fetched = .ok collection →
      collection.render settings target = .ok rendering →
        (collection.result target sources rendering files).report.Accounts (fetched.flatMap Fetched.definitions)
          (keptFragments settings fetched))
    ∧ ∀ (World : Type) (answer : String → StateM World Answer) locators world tree result world' tree',
        generate Disk.ofTree.lift settings target locators (.ofWorld answer) world tree
          = ((.ok result, world'), tree') →
        let fetched := (fetchAll Disk.ofTree.lift (.ofWorld answer) locators world tree).1.1
        result.report.Accounts (fetched.flatMap Fetched.definitions) (keptFragments settings fetched) := by
  refine ⟨fun _ _ _ sources files collected rendered =>
    Collection.report_result_accounts collected rendered sources files, ?_⟩
  intro World answer locators world tree result world' tree' ran
  obtain ⟨collection, rendering, collected, rendered, same⟩ := generate_eq_ok ran
  rw [same]
  exact Collection.report_result_accounts collected rendered _ _

/-- An enumeration in two fragments, with another one between them that is left out. -/
def splitSchema : String :=
  "enum A \x7b \"r\" \x7d; enum B \x7b \"s\" \x7d; enum A \x7b \"t\", \"u\" \x7d;"

def splitDefinitions : List Definition :=
  [{ kind := .enum, name := "A", values := ["r"] }, { kind := .enum, name := "B", values := ["s"] },
   { kind := .enum, name := "A", values := ["t", "u"] }]

def withoutB : Settings :=
  { selection := { skip := (Pattern.compile? "^B").toList }, out := "out" }

def FileTree.splitWorkspace : FileTree :=
  ⟨[(["s"], .file (.text splitSchema))]⟩

/-- The two fragments are one entry with three values, and the other one is counted as left out. -/
theorem report_accounts_split :
    ∃ result tree', generate Disk.ofTree.lift withoutB .flow [.localPath "s"] (.ofWorld answerOnce) 0
          FileTree.splitWorkspace = ((.ok result, 0), tree')
      ∧ result.report.Accounts splitDefinitions [splitDefinitions[0], splitDefinitions[2]]
      ∧ result.report.definitions = [⟨"A", .enum, 2, 0, 3⟩] ∧ result.report.summary.merged = 1
      ∧ result.report.summary.dropped = 1 := by
  have fetched : (fetchAll Disk.ofTree.lift (.ofWorld answerOnce) [.localPath "s"] 0 FileTree.splitWorkspace).1
      = ([(.localPath "s", .ok ⟨.localPath "s", splitSchema⟩)], 0) := rfl
  have plain : Document.isMarkup ⟨.localPath "s", splitSchema⟩ = false := rfl
  have parsed : Schema.parse splitSchema = .ok splitDefinitions := by cbv
  have read : Fetched.definitions (.localPath "s", .ok ⟨.localPath "s", splitSchema⟩) = splitDefinitions := by
    simp [Fetched.definitions, Document.texts, plain, textDefinitions, parsed]
  have kept : withoutB.selection.kept splitDefinitions = [splitDefinitions[0], splitDefinitions[2]] := by
    decide +kernel
  have dropped : withoutB.selection.droppedOf splitDefinitions = [⟨"B", .matchedSkip "^B"⟩] := by
    decide +kernel
  have collected : Collection.collect withoutB [(.localPath "s", .ok ⟨.localPath "s", splitSchema⟩)]
      = .ok ⟨.ofList [splitDefinitions[0], splitDefinitions[2]], [⟨"B", .matchedSkip "^B"⟩], []⟩ := by
    have warned : Fetched.warnings (.localPath "s", .ok ⟨.localPath "s", splitSchema⟩) = [] := by
      simp [Fetched.warnings, Document.texts, plain, textWarning?, parsed]
    have gathered := Collection.collect_lenient withoutB [(.localPath "s", .ok ⟨.localPath "s", splitSchema⟩)]
    rw [Collection.gathered, List.flatMap_singleton, List.flatMap_singleton, read, warned, kept, dropped] at gathered
    exact gathered
  have rendered : Collection.render
      ⟨.ofList [splitDefinitions[0], splitDefinitions[2]], [⟨"B", .matchedSkip "^B"⟩], []⟩ withoutB .flow
      = .ok ⟨[{ kind := .enum, name := "A", values := ["r", "t", "u"] }],
          [⟨"a.js", "// @flow\n\nexport type A = 'r' | 't' | 'u';\n"⟩]⟩ := rfl
  have wrote : ∃ tree', Disk.ofTree.writeAll []
      (Rendering.outputs ⟨[{ kind := .enum, name := "A", values := ["r", "t", "u"] }],
          [⟨"a.js", "// @flow\n\nexport type A = 'r' | 't' | 'u';\n"⟩]⟩ withoutB) FileTree.splitWorkspace
      = (.ok ["out/a.js"], tree') := by
    refine ⟨⟨[(["out", "a.js"], .file (.text "// @flow\n\nexport type A = 'r' | 't' | 'u';\n")),
      (["out"], .directory), (["s"], .file (.text splitSchema))]⟩, ?_⟩
    rfl
  obtain ⟨tree', wrote⟩ := wrote
  have ran : ∃ result, generate Disk.ofTree.lift withoutB .flow [.localPath "s"] (.ofWorld answerOnce) 0
        FileTree.splitWorkspace
      = ((.ok result, 0), tree') ∧ result.report.definitions = [⟨"A", .enum, 2, 0, 3⟩]
        ∧ result.report.summary.merged = 1 ∧ result.report.summary.dropped = 1 := by
    rw [generate_eq, fetched]
    simp only [collected, rendered, wrote]
    exact ⟨_, rfl, rfl, rfl, rfl⟩
  obtain ⟨result, ran, numbers⟩ := ran
  have accounts := (report_accounts withoutB .flow).2 _ _ _ _ _ result 0 tree' ran
  simp only [fetched] at accounts
  rw [keptFragments, List.flatMap_singleton, read, kept] at accounts
  exact ⟨result, tree', ran, accounts, numbers⟩

end IdlBindings
