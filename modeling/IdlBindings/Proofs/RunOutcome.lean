/-
# IdlBindings.Proofs.RunOutcome: what a whole run does to the files of a machine.

Documents are fetched, collected, merged and rendered before anything is written, so a run that fails
on the way there leaves the files alone.  A run that succeeds has written each rendered file below the
output directory: at paths that all differ, each with its contents, and no other file is touched.

A machine has a tree of files and a world that answers requests.  The answers may be anything, and may
depend on all requests before; what the world cannot do is change a file.  On the files themselves the
results assume what trees assume: there are no links, and the working directory is the root.
-/
import Mathlib
import IdlBindings.Proofs.OutputPaths
import IdlBindings.Proofs.Writing
import IdlBindings.Run.Generate

namespace IdlBindings

/-! ## Files where more than files can change -/

namespace Disk
variable {m n : Type → Type} [Monad m] [Monad n] [MonadLiftT m n] [LawfulMonadLiftT m n] (disk : Disk m)

theorem unlessDirectory_lift (path : String) (result : Except FileFault Unit) :
    (disk.lift : Disk n).unlessDirectory path result = liftM (disk.unlessDirectory path result) := by
  cases result with
  | ok => exact (liftM_pure _).symm
  | error fault =>
    simp only [unlessDirectory, liftM_bind]
    refine bind_congr fun found => ?_
    cases found <;> exact (liftM_pure _).symm

theorem makeDirectoriesIn_lift (steps : Nat) (path : String) :
    (disk.lift : Disk n).makeDirectoriesIn steps path = liftM (disk.makeDirectoriesIn steps path) := by
  induction steps generalizing path with
  | zero => exact (liftM_pure _).symm
  | succ steps ih =>
    simp only [makeDirectoriesIn]
    by_cases empty : path.isEmpty = true
    · rw [if_pos empty, if_pos empty, liftM_pure]
    rw [if_neg empty, if_neg empty, liftM_bind]
    refine bind_congr fun made => ?_
    split
    · cases Path.parent? path with
      | none => exact (liftM_pure _).symm
      | some parent =>
        simp only [ih, liftM_bind]
        refine bind_congr fun above => ?_
        cases above with
        | error fault => exact (liftM_pure _).symm
        | ok =>
          simp only [liftM_bind]
          exact bind_congr fun made => disk.unlessDirectory_lift path made
    · exact disk.unlessDirectory_lift path made

theorem put_lift (path text : String) :
    writeFile.put (disk.lift : Disk n) path text = liftM (writeFile.put disk path text) := by
  simp only [writeFile.put, liftM_bind]
  refine bind_congr fun wrote => ?_
  cases wrote <;> exact (liftM_pure _).symm

theorem writeFile_lift (path text : String) :
    (disk.lift : Disk n).writeFile path text = liftM (disk.writeFile path text) := by
  rw [writeFile, writeFile]
  cases Path.parent? path with
  | none => exact disk.put_lift path text
  | some parent =>
    simp only [makeDirectories, makeDirectoriesIn_lift, liftM_bind]
    refine bind_congr fun made => ?_
    cases made with
    | error fault => exact (liftM_pure _).symm
    | ok => exact disk.put_lift path text

theorem removeAll_lift (paths : List String) :
    (disk.lift : Disk n).removeAll paths = liftM (disk.removeAll paths) := by
  induction paths with
  | nil => exact (liftM_pure _).symm
  | cons path rest ih =>
    rw [removeAll, removeAll, liftM_bind, ih]
    rfl

theorem writeAll_lift (written : List String) (files : List (String × String)) :
    (disk.lift : Disk n).writeAll written files = liftM (disk.writeAll written files) := by
  induction files generalizing written with
  | nil => exact (liftM_pure _).symm
  | cons file rest ih =>
    simp only [writeAll, writeFile_lift, liftM_bind]
    refine bind_congr fun wrote => ?_
    cases wrote with
    | ok => exact ih (written ++ [file.1])
    | error fault => simp only [removeAll_lift, liftM_bind, liftM_pure]

end Disk

theorem writeRendering_lift {m n : Type → Type} [Monad m] [Monad n] [MonadLiftT m n] [LawfulMonadLiftT m n]
    (disk : Disk m) (settings : Settings) (rendering : Rendering) :
    writeRendering (disk.lift : Disk n) settings rendering = liftM (writeRendering disk settings rendering) := by
  simp only [writeRendering, Disk.writeAll_lift, liftM_bind]
  refine bind_congr fun wrote => ?_
  cases wrote <;> exact (liftM_pure _).symm

/-! ## Machines -/

/-- What is done on a machine: it may change the files, and a world beyond them. -/
abbrev Machine (World : Type) : Type → Type :=
  StateT World (StateM FileTree)

/-- A network that belongs to the world and does not reach the files. -/
def Network.ofWorld {World : Type} (answer : String → StateM World Answer) : Network (Machine World) where
  get url := fun world => pure (answer url world)

variable {settings : Settings} {target : Target} {locators : List Locator} {tree tree' : FileTree}
variable {World : Type} {answer : String → StateM World Answer}

/-! ## Before anything is written -/

theorem fetch_tree (answer : String → StateM World Answer) (locator : Locator) (world : World)
    (tree : FileTree) :
    (fetch Disk.ofTree.lift (.ofWorld answer) locator world tree).2 = tree := by
  cases locator with
  | localPath path =>
    show ((_ >>= _ : Machine World _) world tree).2 = tree
    simp only [bind, StateT.bind, Disk.lift, Disk.ofTree, liftM, monadLift, MonadLift.monadLift, StateT.lift]
    cases tree.read path <;> rfl
  | remote url =>
    show ((_ >>= _ : Machine World _) world tree).2 = tree
    simp only [bind, StateT.bind, Network.ofWorld, pure, StateT.pure]
    rcases answer url world with ⟨given, world'⟩
    simp only []
    cases given.text <;> rfl

/-- Fetching changes no file. -/
theorem fetchAll_tree (answer : String → StateM World Answer) (locators : List Locator) (world : World)
    (tree : FileTree) :
    (fetchAll Disk.ofTree.lift (.ofWorld answer) locators world tree).2 = tree := by
  induction locators generalizing world tree with
  | nil => rfl
  | cons locator rest ih =>
    have same := fetch_tree answer locator world tree
    rcases fetched : fetch Disk.ofTree.lift (.ofWorld answer) locator world tree with ⟨⟨document, world'⟩, reached⟩
    rw [fetched] at same
    obtain rfl : reached = tree := same
    show ((_ >>= _ : Machine World _) world reached).2 = reached
    simp only [bind, StateT.bind, fetched]
    exact ih world' reached

theorem Collection.render_eq_ok {collection : Collection} {rendering : Rendering}
    (ran : collection.render settings target = .ok rendering) :
    target.render rendering.definitions settings.options = .ok rendering.files := by
  obtain ⟨definitions, -, ran⟩ := bind_eq_ok.1 ran
  obtain ⟨files, rendered, ran⟩ := bind_eq_ok.1 ran
  cases ran
  cases made : target.render definitions settings.options with
  | error fault =>
    rw [made] at rendered
    cases rendered
  | ok files' =>
    rw [made] at rendered
    cases rendered
    rfl

/-- A run fetches, collects and renders, all on the files as they were, and then writes. -/
theorem generate_eq (first : Locator) (rest : List Locator) (world : World) (tree : FileTree) :
    generate Disk.ofTree.lift settings target (first :: rest) (.ofWorld answer) world tree =
      let fetched := (fetchAll Disk.ofTree.lift (.ofWorld answer) (first :: rest) world tree).1
      match Collection.collect settings fetched.1 with
      | .error fault => ((.error fault, fetched.2), tree)
      | .ok collection =>
        match collection.render settings target with
        | .error fault => ((.error fault, fetched.2), tree)
        | .ok rendering =>
          match Disk.ofTree.writeAll [] (rendering.outputs settings) tree with
          | (.error failure, tree') => ((.error (RunFault.ofWrite failure), fetched.2), tree')
          | (.ok files, tree') =>
            ((.ok {
              target
              sources := (first :: rest).map Locator.display
              definitions := rendering.definitions
              fragmentCounts := collection.registry.counts
              dropped := collection.dropped
              warnings := collection.warnings
              files }, fetched.2), tree') := by
  have same := fetchAll_tree answer (first :: rest) world tree
  show ((fetchAll Disk.ofTree.lift (.ofWorld answer) (first :: rest) >>= _ : Machine World _) world tree) = _
  simp only [bind, StateT.bind]
  revert same
  rcases fetchAll Disk.ofTree.lift (.ofWorld answer) (first :: rest) world tree with ⟨⟨fetched, world'⟩, reached⟩
  rintro rfl
  simp only []
  cases Collection.collect settings fetched with
  | error fault => rfl
  | ok collection =>
    simp only []
    cases collection.render settings target with
    | error fault => rfl
    | ok rendering =>
      simp only [writeRendering_lift]
      simp only [writeRendering, liftM, monadLift, MonadLift.monadLift, StateT.lift, bind, StateT.bind]
      rcases Disk.ofTree.writeAll [] (rendering.outputs settings) reached with ⟨result, tree'⟩
      cases result <;> rfl

/-- What became of a run: it failed before anything was written, or what was rendered was written. -/
def Ran (settings : Settings) (target : Target) (tree : FileTree) :
    Except RunFault RunResult → FileTree → Prop
  | .error fault, tree' => tree' = tree ∨ ∃ failure, fault = RunFault.ofWrite failure
  | .ok result, tree' => ∃ files, target.render result.definitions settings.options = .ok files
    ∧ Disk.ofTree.writeAll [] (Rendering.outputs ⟨result.definitions, files⟩ settings) tree =
        (.ok result.files, tree')

theorem ran_generate {result : Except RunFault RunResult} {world world' : World}
    (ran : generate Disk.ofTree.lift settings target locators (.ofWorld answer) world tree
      = ((result, world'), tree')) : Ran settings target tree result tree' := by
  cases locators with
  | nil =>
    cases ran
    exact .inl rfl
  | cons first rest =>
    rw [generate_eq] at ran
    simp only [] at ran
    cases collected : Collection.collect settings
        (fetchAll Disk.ofTree.lift (.ofWorld answer) (first :: rest) world tree).1.1 with
    | error fault =>
      rw [collected] at ran
      cases ran
      exact .inl rfl
    | ok collection =>
      simp only [collected] at ran
      cases rendered : collection.render settings target with
      | error fault =>
        rw [rendered] at ran
        cases ran
        exact .inl rfl
      | ok rendering =>
        have files := Collection.render_eq_ok rendered
        simp only [rendered] at ran
        rcases wrote : Disk.ofTree.writeAll [] (rendering.outputs settings) tree with ⟨written, tree₁⟩
        rw [wrote] at ran
        cases written with
        | error failure =>
          cases ran
          exact .inr ⟨failure, rfl⟩
        | ok paths =>
          cases ran
          exact ⟨rendering.files, files, wrote⟩

/-! ## What was written -/

/-- Files were put below a directory, at paths that all differ, and no other file was touched. -/
structure Delivered (out : String) (files : List SourceFile) (paths : List String)
    (tree tree' : FileTree) : Prop where
  paths_eq : paths = files.map fun file => Path.join out file.path
  apart : paths.Pairwise fun a b => Path.same a b = false
  found : ∀ file ∈ files, tree'.read (Path.join out file.path) = .ok file.contents
  others : ∀ location, (∀ path ∈ paths, ¬ tree'.Leads path location) →
    tree'.fileAt? location = tree.fileAt? location

variable {out : String} {files : List SourceFile}

theorem ne_of_not_same {a b : String} (apart : Path.same b a = false) : a ≠ b := by
  rintro rfl
  simp [Path.same] at apart

theorem not_same_join {name name' : String} {location location' : Location} (differs : name ≠ name')
    (plain : '/' ∉ name.toList) (plain' : '/' ∉ name'.toList)
    (leads : tree.Leads (Path.join out name) location)
    (leads' : tree.Leads (Path.join out name') location') :
    Path.same (Path.join out name) (Path.join out name') = false := by
  obtain ⟨proper, named, -⟩ := leads.joined plain
  obtain ⟨proper', named', -⟩ := leads'.joined plain'
  rw [Path.same, beq_eq_false_iff_ne]
  intro same
  -- The two paths would end in the same component.
  have last := congrArg List.getLast? same
  rw [Path.getLast?_components_join out plain proper named,
    Path.getLast?_components_join out plain' proper' named'] at last
  cases last
  exact differs rfl

/-- Files whose paths have no slash and all differ do not get in each other's way. -/
theorem Delivered.of_writes
    (writes : tree.Writes (files.map fun file => (Path.join out file.path, file.contents)) tree')
    (plain : ∀ file ∈ files, '/' ∉ file.path.toList)
    (apart : (files.map (·.path)).Pairwise fun a b => Path.same b a = false) :
    Delivered out files (files.map fun file => Path.join out file.path) tree tree' := by
  have reached : ∀ file ∈ files, ∃ location, tree'.Leads (Path.join out file.path) location :=
    fun file mem => writes.leads (Path.join out file.path, file.contents) (List.mem_map_of_mem mem)
  have apart := List.pairwise_map.1 apart
  -- No later write may hit the location of an earlier one.
  have elsewhere : (files.map fun file => (Path.join out file.path, file.contents)).Pairwise
      fun written written' =>
        ∀ location, tree'.Leads written.1 location → ¬ tree'.Leads written'.1 location := by
    refine List.pairwise_map.2 (apart.imp_of_mem ?_)
    intro file file' mem mem' different location leads leads'
    exact ne_of_not_same different (leads.joined_inj (plain file mem) (plain file' mem') leads')
  refine ⟨rfl, ?_, ?_, ?_⟩
  · refine List.pairwise_map.2 (apart.imp_of_mem ?_)
    intro file file' mem mem' different
    obtain ⟨location, leads⟩ := reached file mem
    obtain ⟨location', leads'⟩ := reached file' mem'
    exact not_same_join (ne_of_not_same different) (plain file mem) (plain file' mem') leads leads'
  · intro file mem
    obtain ⟨location, leads, found⟩ :=
      writes.found elsewhere (Path.join out file.path, file.contents) (List.mem_map_of_mem mem)
    exact FileTree.read_of_leads leads (FileTree.fileAt?_eq_some.1 found)
  · intro location away
    refine writes.others ?_
    intro written mem
    obtain ⟨file, inside, rfl⟩ := List.mem_map.1 mem
    exact away (Path.join out file.path) (List.mem_map_of_mem inside)

/-- A run that succeeds has put all that it rendered below the output directory, and has changed no
other file.  A run that fails before it writes has changed nothing.  This holds on every machine, whatever
answers its network gives; its files are a tree, so there are no links among them. -/
theorem generate_delivers {World : Type} (answer : String → StateM World Answer) (settings : Settings)
    (target : Target) (locators : List Locator) (world : World) (tree : FileTree) :
    (∀ result world' tree', generate Disk.ofTree.lift settings target locators (.ofWorld answer) world tree
        = ((.ok result, world'), tree') →
      '/' ∉ settings.options.suffix.toList → '/' ∉ settings.options.bundle.toList →
      (∀ definition ∈ result.definitions, '/' ∉ definition.name.toList) →
      ∃ files, target.render result.definitions settings.options = .ok files
        ∧ Delivered settings.out files result.files tree tree')
    ∧ ∀ fault world' tree', generate Disk.ofTree.lift settings target locators (.ofWorld answer) world tree
        = ((.error fault, world'), tree') →
      (∀ path message, fault ≠ .write path message) → tree' = tree := by
  constructor
  · intro result world' tree' ran suffix bundle names
    obtain ⟨files, rendered, wrote⟩ := ran_generate ran
    obtain ⟨made, apart⟩ := Target.render_eq_ok.1 rendered
    have written := FileTree.writeAll_outcome [] (Rendering.outputs ⟨result.definitions, files⟩ settings) tree
    rw [wrote] at written
    obtain ⟨paths, writes⟩ := written
    have delivered := Delivered.of_writes writes (target.slashless_candidates made suffix bundle names) apart
    refine ⟨files, rendered, ?_⟩
    rw [paths]
    simpa [Rendering.outputs, Function.comp_def] using delivered
  · intro fault world' tree' ran unwritten
    rcases ran_generate ran with same | ⟨failure, rfl⟩
    · exact same
    · exact absurd rfl (unwritten failure.path failure.fault.message)

/-- A schema on the disk and one on a server. -/
def hueSchema : String :=
  "enum A \x7b \"r\" \x7d;"

def toneSchema : String :=
  "enum B \x7b \"s\" \x7d;"

def enumDefinitions : List Definition :=
  [{ kind := .enum, name := "A", values := ["r"] }, { kind := .enum, name := "B", values := ["s"] }]

/-- A schema, a file of an earlier run and a file of someone's own. -/
def FileTree.workspace : FileTree :=
  ⟨[(["s"], .file (.text hueSchema)),
    (["out"], .directory),
    (["out", "a.js"], .file (.text "old")),
    (["out", "notes"], .file (.text "mine"))]⟩

/-- A server that answers the first request only. -/
def answerOnce (_ : String) : StateM Nat Answer := fun requests =>
  (if requests = 0 then .response 200 (.ok toneSchema) else .response 503 (.ok ""), requests + 1)

/-- The earlier file is replaced, a second one is added for the schema of the server, and nothing else
changes. -/
theorem generate_delivers_workspace :
    ∃ result tree', generate Disk.ofTree.lift { out := "out" } .flow [.localPath "s", .remote "http://h/t"]
          (.ofWorld answerOnce) 0 FileTree.workspace = ((.ok result, 1), tree')
      ∧ result.files = ["out/a.js", "out/b.js"]
      ∧ ∃ files, Target.flow.render result.definitions {} = .ok files
        ∧ Delivered "out" files result.files FileTree.workspace tree' := by
  have fetched : (fetchAll Disk.ofTree.lift (.ofWorld answerOnce) [.localPath "s", .remote "http://h/t"] 0
        FileTree.workspace).1
      = ([(.localPath "s", .ok ⟨.localPath "s", hueSchema⟩),
          (.remote "http://h/t", .ok ⟨.remote "http://h/t", toneSchema⟩)], 1) := rfl
  have plain : Document.isMarkup ⟨.localPath "s", hueSchema⟩ = false := rfl
  have plain' : Document.isMarkup ⟨.remote "http://h/t", toneSchema⟩ = false := rfl
  have parsed : Schema.parse hueSchema = .ok [{ kind := .enum, name := "A", values := ["r"] }] := by cbv
  have parsed' : Schema.parse toneSchema = .ok [{ kind := .enum, name := "B", values := ["s"] }] := by cbv
  have collected : Collection.collect { out := "out" } [(.localPath "s", .ok ⟨.localPath "s", hueSchema⟩),
        (.remote "http://h/t", .ok ⟨.remote "http://h/t", toneSchema⟩)]
      = .ok (enumDefinitions.foldl (Collection.add {}) {}) := by
    simp only [Collection.collect, List.foldlM_cons, Collection.addDocument, Document.read, plain, plain',
      readFragment, parsed, parsed']
    rfl
  have rendered : (enumDefinitions.foldl (Collection.add {}) {}).render { out := "out" } .flow
      = .ok ⟨enumDefinitions, [⟨"a.js", "// @flow\n\nexport type A = 'r';\n"⟩,
          ⟨"b.js", "// @flow\n\nexport type B = 's';\n"⟩]⟩ := rfl
  have wrote : ∃ tree', Disk.ofTree.writeAll []
      (Rendering.outputs ⟨enumDefinitions, [⟨"a.js", "// @flow\n\nexport type A = 'r';\n"⟩,
          ⟨"b.js", "// @flow\n\nexport type B = 's';\n"⟩]⟩ { out := "out" }) FileTree.workspace
      = (.ok ["out/a.js", "out/b.js"], tree') := by
    refine ⟨⟨[(["out", "b.js"], .file (.text "// @flow\n\nexport type B = 's';\n")),
      (["out", "a.js"], .file (.text "// @flow\n\nexport type A = 'r';\n")),
      (["s"], .file (.text hueSchema)), (["out"], .directory),
      (["out", "notes"], .file (.text "mine"))]⟩, ?_⟩
    rfl
  obtain ⟨tree', wrote⟩ := wrote
  have ran : ∃ result, generate Disk.ofTree.lift { out := "out" } .flow [.localPath "s", .remote "http://h/t"]
        (.ofWorld answerOnce) 0 FileTree.workspace
      = ((.ok result, 1), tree') ∧ result.definitions = enumDefinitions
        ∧ result.files = ["out/a.js", "out/b.js"] := by
    rw [generate_eq, fetched]
    simp only [collected, rendered, wrote]
    exact ⟨_, rfl, rfl, rfl⟩
  obtain ⟨result, ran, known, paths⟩ := ran
  have names : ∀ definition ∈ result.definitions, '/' ∉ definition.name.toList := by
    rw [known]
    decide
  exact ⟨result, tree', ran, paths,
    (generate_delivers answerOnce _ _ _ _ _).1 result 1 tree' ran (by decide) (by decide) names⟩

end IdlBindings
