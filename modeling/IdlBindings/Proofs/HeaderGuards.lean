/-
# IdlBindings.Proofs.HeaderGuards: which C++ headers have the same guard.

A header is written to a path in lower case, and its guard is in upper case.  The paths of a rendering all differ, but
the guards are not compared.  Upper case brings some characters together that lower case keeps apart: a sharp s becomes
two letters, and a dotless i the capital of the dotted one.  So the guards differ exactly if upper case tells all
names apart.  It does where each name can be read off its capitals, up to case, as it can if all characters are ASCII.
-/
import IdlBindings.Proofs.ConstantNames

namespace IdlBindings

/-! ## Lower case from upper case -/

namespace Text

/-- Whether the small letter of a character is that of its capitals.  A capital sigma has two small letters, and which
one is used depends on its place. -/
def foldsBack (c : Char) : Bool :=
  c.toNat != 0x3a3 && (upperChar c).flatMap lowerChar == lowerChar c

theorem foldsBack_ascii {c : Char} (ascii : c.toNat < 128) : foldsBack c = true := by
  rw [foldsBack, upperChar, if_pos ascii, List.flatMap_singleton, lowerChar, if_pos (toNat_toUpper_lt ascii),
    Char.toLower_toUpper_eq_toLower, lowerChar, if_pos ascii, beq_self_eq_true, Bool.and_true, bne_iff_ne]
  omega

/-- Without a capital sigma each character has its small letter wherever it stands. -/
theorem lowerAfter_eq_flatMap {before text : List Char} (plain : ∀ c ∈ text, c.toNat ≠ 0x3a3) :
    lowerAfter before text = text.flatMap lowerChar := by
  induction text generalizing before with
  | nil => rfl
  | cons c rest ih =>
    rw [List.forall_mem_cons] at plain
    rw [lowerAfter, ih plain.2, List.flatMap_cons]
    simp only [if_neg plain.1]

/-- The lower case of a text that folds back can be read off its upper case. -/
theorem toLower_eq_of_foldsBack {text : String} (folds : text.toList.all foldsBack = true) :
    toLower text = String.ofList ((toUpper text).toList.flatMap lowerChar) := by
  simp only [List.all_eq_true, foldsBack, Bool.and_eq_true, bne_iff_ne, beq_iff_eq] at folds
  rw [toLower, lowerAfter_eq_flatMap fun c inside => (folds c inside).1, toUpper, String.toList_ofList,
    List.flatMap_assoc, List.flatMap_congr fun c inside => (folds c inside).2]

end Text

/-! ## Guards of a rendering -/

namespace Target

variable {schema : List Definition} {options : RenderOptions} {files : List SourceFile}

theorem headerGuard_inj {d e : Definition} :
    Cpp.headerGuard d = Cpp.headerGuard e ↔ Text.toUpper d.name = Text.toUpper e.name := by
  rw [Cpp.headerGuard, Cpp.headerGuard, String.append_left_inj]

theorem paths_of_rendered {target : Target} (kind : target = .cpp ∨ target = .flow)
    (rendered : target.render schema options = .ok files) :
    files.map (·.path) = schema.flatMap (target.pathsOf options) := by
  obtain ⟨made, -⟩ := render_eq_ok.1 rendered
  obtain ⟨groups, grouped, rfl⟩ := candidates_grouped kind made
  exact paths_grouped grouped

/-- The header of a definition stands between its guards. -/
theorem header_guarded (rendered : Target.cpp.render schema options = .ok files) {d : Definition} (inside : d ∈ schema) :
    ∃ text, ⟨Cpp.headerOf d.name, "#ifndef " ++ Cpp.headerGuard d ++ "\n#define " ++ Cpp.headerGuard d ++ "\n\n" ++ text
      ++ "\n\n#endif  // " ++ Cpp.headerGuard d ++ "\n"⟩ ∈ files := by
  have links := (makes_filesOf (.inl rfl) rendered inside).links
  have among : ∀ file ∈ Target.cpp.filesOf options d files, file ∈ files :=
    fun file mem => (List.mem_filter.1 mem).1
  generalize Target.cpp.filesOf options d files = own at links among
  cases links with
  | @cpp declared functions declaration definitions =>
    have header := among _ (List.mem_cons_self ..)
    refine ⟨String.join (Cpp.systemHeaders.map fun name => "#include <" ++ name ++ ">\n")
      ++ "\n#include \"convert.h\"\n"
      ++ String.join (((⟨.cpp, schema, options⟩ : RenderContext).userTypes d).map Target.cpp.linkLine)
      ++ "\nnamespace " ++ options.scope ++ " \x7b\n\n" ++ declared ++ "\n\x7d  // namespace " ++ options.scope, ?_⟩
    simpa only [String.append_assoc] using header

/-- Definitions whose names are the same in lower case would have one header, so they are one definition. -/
theorem eq_of_toLower_eq (rendered : Target.cpp.render schema options = .ok files) {d e : Definition}
    (inside : d ∈ schema) (inside' : e ∈ schema) (same : Text.toLower d.name = Text.toLower e.name) : d = e := by
  by_contra differ
  have apart := pathsOf_apart (.inl rfl) rendered inside inside' differ _ (mainPath_mem (.inl rfl) options d) _
    (mainPath_mem (.inl rfl) options e)
  rw [mainPath, mainPath, Cpp.headerOf, Cpp.headerOf, same, Path.same_self] at apart
  cases apart

theorem guards_nodup_iff (rendered : Target.cpp.render schema options = .ok files) :
    (schema.map Cpp.headerGuard).Nodup ↔ ∀ d ∈ schema, ∀ e ∈ schema,
      Text.toUpper d.name = Text.toUpper e.name → Text.toLower d.name = Text.toLower e.name := by
  constructor
  · intro distinct d inside e inside' same
    rw [List.inj_on_of_nodup_map distinct inside inside' (headerGuard_inj.2 same)]
  · intro keeps
    -- Names that differ make definitions that differ, and one guard for two of them would mean one header for both.
    have distinct : schema.Nodup := (names_nodup_of_rendered (.inl rfl) rendered).of_map _
    refine distinct.map_on fun d inside e inside' same => ?_
    exact eq_of_toLower_eq rendered inside inside' (keeps d inside e inside' (headerGuard_inj.1 same))

/-- Each header of a rendering stands between its guards.  The guards all differ exactly if no two names that differ in
lower case are the same in upper case.  So they differ if all names fold back, and if all names are ASCII. -/
theorem header_guards_distinct_iff (rendered : Target.cpp.render schema options = .ok files) :
    (∀ d ∈ schema, ∃ text, ⟨Cpp.headerOf d.name, "#ifndef " ++ Cpp.headerGuard d ++ "\n#define " ++ Cpp.headerGuard d
        ++ "\n\n" ++ text ++ "\n\n#endif  // " ++ Cpp.headerGuard d ++ "\n"⟩ ∈ files)
      ∧ ((schema.map Cpp.headerGuard).Nodup ↔ ∀ d ∈ schema, ∀ e ∈ schema,
        Text.toUpper d.name = Text.toUpper e.name → Text.toLower d.name = Text.toLower e.name)
      ∧ ((∀ d ∈ schema, d.name.toList.all Text.foldsBack = true) → (schema.map Cpp.headerGuard).Nodup)
      ∧ ((∀ d ∈ schema, ∀ c ∈ d.name.toList, c.toNat < 128) → (schema.map Cpp.headerGuard).Nodup) := by
  have folding : (∀ d ∈ schema, d.name.toList.all Text.foldsBack = true) →
      (schema.map Cpp.headerGuard).Nodup := by
    intro folds
    refine (guards_nodup_iff rendered).2 fun d inside e inside' same => ?_
    rw [Text.toLower_eq_of_foldsBack (folds d inside), Text.toLower_eq_of_foldsBack (folds e inside'), same]
  refine ⟨fun d inside => header_guarded rendered inside, guards_nodup_iff rendered, folding, fun ascii => ?_⟩
  exact folding fun d inside => List.all_eq_true.2 fun c listed => Text.foldsBack_ascii (ascii d inside c listed)

/-- An interface without members. -/
def emptyInterface (name : String) : Definition :=
  { kind := .interface, name }

/-- A name with a letter that is not ASCII. -/
theorem header_guards_distinct_heights : ∃ files,
    Target.cpp.render [emptyInterface "Höhe", emptyInterface "Hohe"] {} = .ok files
      ∧ (∀ d ∈ [emptyInterface "Höhe", emptyInterface "Hohe"], d.name.toList.all Text.foldsBack = true)
      ∧ ([emptyInterface "Höhe", emptyInterface "Hohe"].map Cpp.headerGuard).Nodup := by
  obtain ⟨files, rendered⟩ : ∃ files,
      Target.cpp.render [emptyInterface "Höhe", emptyInterface "Hohe"] {} = .ok files := ⟨_, rfl⟩
  have folds : ∀ d ∈ [emptyInterface "Höhe", emptyInterface "Hohe"], d.name.toList.all Text.foldsBack = true := by
    decide +kernel
  obtain ⟨-, -, folding, -⟩ := header_guards_distinct_iff rendered
  exact ⟨files, rendered, folds, folding folds⟩

/-- A sharp s and two letters are kept apart in lower case only.  Both headers are written, and where both are included
the second one is left out. -/
theorem header_guards_clash_streets :
    Schema.parse "interface Straße \x7b\x7d; interface Strasse \x7b\x7d;"
        = .ok [emptyInterface "Straße", emptyInterface "Strasse"]
      ∧ (∃ files, Target.cpp.render [emptyInterface "Straße", emptyInterface "Strasse"] {} = .ok files
        ∧ files.map (·.path) = ["straße.h", "straße.cc", "strasse.h", "strasse.cc"])
      ∧ [emptyInterface "Straße", emptyInterface "Strasse"].map Cpp.headerGuard = ["STRASSE_H_", "STRASSE_H_"]
      ∧ ¬ ([emptyInterface "Straße", emptyInterface "Strasse"].map Cpp.headerGuard).Nodup := by
  obtain ⟨files, rendered⟩ : ∃ files,
      Target.cpp.render [emptyInterface "Straße", emptyInterface "Strasse"] {} = .ok files := ⟨_, rfl⟩
  refine ⟨by decide +kernel, ⟨files, rendered, ?_⟩, by decide +kernel, by decide +kernel⟩
  rw [paths_of_rendered (.inl rfl) rendered]
  decide +kernel

end Target

end IdlBindings
