/-
# IdlBindings.Proofs.RoundTrip: writing a schema and reading it again.

Main results.

* A list of definitions is read back from its written form exactly if each of them is printable.
* A file that the target `idl` writes for a definition is read and merged back into that definition
  exactly if the definition shows all it holds and no name in it is taken for a keyword.  Definitions
  that were read from a text are well formed, but they need not show everything: an attribute keeps its
  special keywords, and these are not written.
-/
import Mathlib
import IdlBindings.Proofs.Grouping
import IdlBindings.Proofs.Rendering

namespace IdlBindings

/-! ## Lists of definitions -/

/-- Writing and reading is the identity on the printable definitions and on no others. -/
theorem Schema.parse_print_iff (ds : List Definition) :
    Schema.parse ("\n".intercalate (ds.map Definition.print)) = .ok ds
      ↔ ∀ d ∈ ds, d.isPrintable = true := by
  have spells : (∀ d ∈ ds, d.isWellFormed = true) →
      Token.Spells ("\n".intercalate (ds.map Definition.print)).toList (ds.flatMap Definition.tokens) := by
    intro wf
    have whole := Definition.spells_schema wf .nil
    simpa only [List.append_nil] using whole
  constructor
  · intro read
    exact Schema.printable_of_parse (spells (Schema.parse_shape read)) read
  · intro printable
    exact Schema.parse_of_spells printable (spells fun d inside =>
      (Definition.isPrintable_iff.1 (printable d inside)).1)

/-! ## Files of single definitions -/

/-- A text is read, and its fragments are merged into the definitions of the schema. -/
def Schema.Canonical (text : String) (schema : List Definition) : Prop :=
  ∃ fragments, Schema.parse text = .ok fragments ∧ (Registry.ofList fragments).merge true = .ok schema

theorem Schema.Canonical.wellFormed {text : String} {schema : List Definition}
    (h : Schema.Canonical text schema) : ∀ d ∈ schema, d.isWellFormed = true := by
  obtain ⟨fragments, read, merged⟩ := h
  have each := Schema.parse_shape read
  intro d inside
  obtain ⟨first, others, rfl, kept⟩ := Registry.mem_merge merged inside
  rw [List.forall_mem_cons] at kept
  exact (Definition.foldl_absorb first (.refl first) (each first kept.1)
    fun f inside => each f (kept.2 f inside)).2

/-- The file of a definition is read and merged into it again exactly if the definition is printable. -/
theorem Schema.canonical_print_iff (d : Definition) :
    Schema.Canonical (d.print ++ "\n") [d] ↔ d.isPrintable = true := by
  have spells : d.isWellFormed = true →
      Token.Spells (d.print ++ "\n").toList ([d].flatMap Definition.tokens) := by
    intro wf
    simpa using Definition.spells wf (.newline .nil)
  constructor
  · rintro ⟨fragments, read, merged⟩
    have each := Schema.parse_shape read
    cases fragments with
    | nil => cases Registry.merge?_of_merge_single merged
    | cons first others =>
      -- The definition starts with its first fragment.  That one uses up all tokens, so it is the only one.
      have made : others.foldl Definition.absorb first = d := by
        simpa [Definition.merge?] using Registry.merge?_of_merge_single merged
      rw [List.forall_mem_cons] at each
      obtain ⟨begins, wf⟩ := Definition.foldl_absorb first (.refl first) each.1 each.2
      rw [made] at begins wf
      obtain ⟨toks, lexed, spelled⟩ := spells wf .start
      obtain ⟨toks', lexed', rest, ran⟩ := Schema.parse_eq_ok.1 read
      rw [lexed] at lexed'
      cases lexed'
      obtain ⟨restored, rfl⟩ := Grammar.first_restored wf begins (by simpa using spelled) ran
      cases made
      exact restored.isPrintable wf
  · intro printable
    have wf := (Definition.isPrintable_iff.1 printable).1
    exact ⟨[d], Schema.parse_of_spells (by simpa using printable) (spells wf),
      Registry.merge_singleton d⟩

/-- The file that the target `idl` writes for a definition. -/
def Definition.file (d : Definition) : SourceFile :=
  ⟨d.fileStem ++ ".idl", d.print ++ "\n"⟩

/-- What a text and its merged schema are extracted into: one file for each definition, which is read
and merged into this definition again exactly if it and its members show all they hold and are not
ambiguous. -/
theorem Schema.extraction_restores_iff {text : String} {schema : List Definition}
    {options : RenderOptions} {files : List SourceFile} (canonical : Schema.Canonical text schema)
    (rendered : Target.idl.render schema options = .ok files) :
    files.Perm (schema.map Definition.file)
      ∧ ∀ d ∈ schema, Schema.Canonical d.file.contents [d] ↔
          d.shown = d ∧ d.isUnambiguous = true
            ∧ ∀ m ∈ d.members, m.shown d.name = m ∧ m.fits d.kind = true ∧ m.isUnambiguous = true := by
  constructor
  · obtain ⟨candidates, -⟩ := Target.render_eq_ok.1 rendered
    have sorted : idlFiles schema = files := Except.ok.inj candidates
    rw [← sorted]
    exact List.mergeSort_perm ..
  · intro d inside
    have wf := canonical.wellFormed d inside
    have wf_members : ∀ m ∈ d.members, m.isWellFormed = true := by
      simp only [Definition.isWellFormed, Bool.and_eq_true] at wf
      exact List.all_eq_true.1 wf.1.1.1.1.2
    show Schema.Canonical (d.print ++ "\n") [d] ↔ _
    rw [Schema.canonical_print_iff, Definition.isPrintable_iff, and_iff_right wf]
    refine and_congr_right fun _ => and_congr_right fun _ => forall₂_congr fun m member => ?_
    rw [Member.isPrintable_iff, and_iff_right (wf_members m member)]

/-- An interface whose attribute has a special keyword. -/
def stringifierInterface : Definition :=
  { kind := .interface, name := "A"
    members := [{ kind := .property, name := "x", type := .named "DOMString",
                  specials := ["stringifier"] }] }

/-- An enumeration, of which nothing is hidden. -/
def colorEnum : Definition :=
  { kind := .enum, name := "Color", values := ["red", "dark blue"] }

/-- Of two extracted definitions the enumeration comes back and the interface does not. -/
theorem Schema.extraction_restores_colorEnum :
    Schema.Canonical
        "interface A \x7b stringifier attribute DOMString x; \x7d; enum Color \x7b \"red\", \"dark blue\" \x7d;"
        [stringifierInterface, colorEnum]
      ∧ Target.idl.render [stringifierInterface, colorEnum] {}
        = .ok [stringifierInterface.file, colorEnum.file]
      ∧ ¬ Schema.Canonical stringifierInterface.file.contents [stringifierInterface]
      ∧ Schema.Canonical colorEnum.file.contents [colorEnum] := by
  have canonical : Schema.Canonical
      "interface A \x7b stringifier attribute DOMString x; \x7d; enum Color \x7b \"red\", \"dark blue\" \x7d;"
      [stringifierInterface, colorEnum] :=
    ⟨[stringifierInterface, colorEnum], by cbv, by cbv⟩
  have rendered : Target.idl.render [stringifierInterface, colorEnum] {}
      = .ok [stringifierInterface.file, colorEnum.file] := by
    have first : stringifierInterface.file.path = "a.idl" := rfl
    have second : colorEnum.file.path = "color.idl" := rfl
    have ordered : (Path.compare "a.idl" "color.idl").isLE = true := rfl
    have apart : Path.same "color.idl" "a.idl" = false := rfl
    have sorted : [stringifierInterface.file, colorEnum.file].Pairwise fun a b =>
        (Path.compare a.path b.path).isLE = true := by
      simp [first, second, ordered]
    exact Target.render_eq_ok.2 ⟨congrArg Except.ok (List.mergeSort_of_pairwise sorted),
      by simp [first, second, apart]⟩
  have restores := (Schema.extraction_restores_iff canonical rendered).2
  refine ⟨canonical, rendered, ?_, ?_⟩
  · rw [restores stringifierInterface (by simp)]
    decide
  · rw [restores colorEnum (by simp)]
    decide

/-- Extraction is not lossless: the file of this interface, the only one of its text, is read as another
interface. -/
theorem Schema.extraction_loses_specials :
    Schema.Canonical "interface A \x7b stringifier attribute DOMString x; \x7d;" [stringifierInterface]
      ∧ Target.idl.render [stringifierInterface] {} = .ok [stringifierInterface.file]
      ∧ ¬ Schema.Canonical stringifierInterface.file.contents [stringifierInterface] := by
  have sorted : idlFiles [stringifierInterface] = [stringifierInterface.file] :=
    List.mergeSort_of_pairwise (List.pairwise_singleton ..)
  refine ⟨⟨[stringifierInterface], by cbv, rfl⟩,
    Target.render_eq_ok.2 ⟨congrArg Except.ok sorted, by simp⟩, ?_⟩
  show ¬ Schema.Canonical (stringifierInterface.print ++ "\n") [stringifierInterface]
  rw [Schema.canonical_print_iff]
  decide

end IdlBindings
