/-
# IdlBindings.Proofs.Rendering: what a successful rendering consists of.

A target first makes candidate files and then compares their paths.  A rendering succeeds exactly if
there are candidates and no two of them have the same path.
-/
import IdlBindings.Target.Render

namespace IdlBindings

theorem collision?_eq_none {earlier paths : List String} :
    collision? earlier paths = none ↔
      (∀ path ∈ paths, ∀ before ∈ earlier, Path.same path before = false)
        ∧ paths.Pairwise fun a b => Path.same b a = false := by
  induction paths generalizing earlier with
  | nil => simp [collision?]
  | cons path paths ih =>
    rw [collision?]
    by_cases known : earlier.any (Path.same path) = true
    · simp only [if_pos known, reduceCtorEq, false_iff, not_and]
      intro apart
      obtain ⟨before, inside, same⟩ := List.any_eq_true.1 known
      rw [apart path (List.mem_cons_self ..) before inside] at same
      cases same
    · rw [if_neg known, ih, List.pairwise_cons]
      simp only [List.any_eq_true, not_exists, not_and, Bool.not_eq_true] at known
      simp only [List.forall_mem_cons]
      constructor
      · rintro ⟨apart, pairwise⟩
        exact ⟨⟨known, fun path inside => (apart path inside).2⟩, fun path inside => (apart path inside).1,
          pairwise⟩
      · rintro ⟨⟨-, apart⟩, first, pairwise⟩
        exact ⟨fun path inside => ⟨first path inside, apart path inside⟩, pairwise⟩

theorem Target.render_eq_ok {target : Target} {schema : List Definition} {options : RenderOptions}
    {files : List SourceFile} :
    target.render schema options = .ok files ↔
      target.candidates schema options = .ok files
        ∧ (files.map (·.path)).Pairwise fun a b => Path.same b a = false := by
  rw [Target.render]
  cases target.candidates schema options with
  | error fault => simp [bind, Except.bind]
  | ok candidates =>
    simp only [bind, Except.bind, Except.ok.injEq]
    cases found : collision? [] (candidates.map (·.path)) with
    | none =>
      have apart := (collision?_eq_none.1 found).2
      constructor
      · intro same
        cases same
        exact ⟨rfl, apart⟩
      · rintro ⟨rfl, -⟩
        rfl
    | some path =>
      simp only [throw, throwThe, MonadExceptOf.throw, reduceCtorEq, false_iff, not_and]
      rintro rfl apart
      rw [collision?_eq_none.2 ⟨by simp, apart⟩] at found
      cases found

end IdlBindings
