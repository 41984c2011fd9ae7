/-
# IdlBindings.Proofs.LocalRendering: a definition is rendered from what it mentions.

While a definition is rendered, the schema is asked under many names: which of the mentioned ones are declared,
and for each default whether its type is an enumeration.  All these names are mentioned by the definition.  So
two schemas that agree on them, and that can both be rendered, give the definition the same files, whatever
else they declare.
-/
import IdlBindings.Proofs.OwnFiles
import IdlBindings.Proofs.References

namespace IdlBindings

/-! ## Results that agree -/

/-- Results are alike unless both are there and differ. -/
def Likeness.agreement : Likeness where
  Like x x' := ∀ a a', x = .ok a → x' = .ok a' → a = a'
  same x a a' found found' := Except.ok.inj (found.symm.trans found')
  bind := by
    intro α β x x' f f' first each b b' found found'
    obtain ⟨a, here, later⟩ := bind_eq_ok.1 found
    obtain ⟨a', here', later'⟩ := bind_eq_ok.1 found'
    obtain rfl := first a a' here here'
    exact each a b b' later later'

namespace Literals

variable (literals : Literals) {schema : List Definition}

/-- Which values an enumeration has tells whether there is a literal, and not which one. -/
theorem enumValue_agrees (enum value : String) :
    Likeness.agreement.Like (literals.enumValue enum value) ({ literals with schema }.enumValue enum value) := by
  intro text text' found found'
  unfold enumValue at found found'
  split at found
  · cases found
  · split at found'
    · cases found'
    · split_ifs at found found'
      exact Except.ok.inj (found.symm.trans found')

theorem ofDefault_agrees (type : TypeExpr) (value : DefaultValue)
    (same : Schema.isEnum literals.schema (type.baseName?.getD "") = Schema.isEnum schema (type.baseName?.getD "")) :
    Likeness.agreement.Like (literals.ofDefault type value) ({ literals with schema }.ofDefault type value) := by
  unfold ofDefault
  cases kind : value.kind with
  | number | boolean => exact Likeness.agreement.same _
  | string =>
    simp only [← same]
    split_ifs
    · exact literals.enumValue_agrees _ _
    · exact Likeness.agreement.same _
  | null | sequence | dictionary =>
    simp only [ofKind, kind]
    exact Likeness.agreement.same _

end Literals

/-! ## Schemas that agree on a name -/

/-- Two schemas agree on a name: both declare it or neither, and both as an enumeration or neither. -/
structure Schema.AgreeOn (schema schema' : List Definition) (name : String) : Prop where
  declared : (∃ e ∈ schema, e.name = name) ↔ ∃ e ∈ schema', e.name = name
  enumeration : (∃ e ∈ schema, e.kind = .enum ∧ e.name = name) ↔ ∃ e ∈ schema', e.kind = .enum ∧ e.name = name

namespace Schema.AgreeOn

variable {schema schema' : List Definition} {name : String}

/-- Schemas with the same definitions of a name agree on it. -/
theorem of_mem (same : ∀ e : Definition, e.name = name → (e ∈ schema ↔ e ∈ schema')) :
    AgreeOn schema schema' name where
  declared := by
    apply exists_congr
    intro e
    exact and_congr_left (same e)
  enumeration := by
    apply exists_congr
    intro e
    exact and_congr_left fun called => same e called.2

theorem declares_eq (agree : AgreeOn schema schema' name) : declares schema name = declares schema' name := by
  rw [Bool.eq_iff_iff, declares_iff, declares_iff]
  exact agree.declared

theorem isEnum_eq (agree : AgreeOn schema schema' name) : isEnum schema name = isEnum schema' name := by
  rw [Bool.eq_iff_iff, isEnum_iff, isEnum_iff]
  exact agree.enumeration

end Schema.AgreeOn

theorem Schema.isEnum_empty {schema : List Definition} (named : ∀ e ∈ schema, e.name ≠ "") :
    isEnum schema "" = false := by
  rw [← Bool.not_eq_true, isEnum_iff]
  rintro ⟨e, inside, -, called⟩
  exact named e inside called

/-! ## Rendering in two schemas -/

section

variable {context : RenderContext} {schema : List Definition} (named : ∀ e ∈ context.schema, e.name ≠ "")
  (named' : ∀ e ∈ schema, e.name ≠ "")
include named named'

/-- A default is looked up under a leaf of its type.  A type without a name is looked up under the empty
name, which nothing has. -/
theorem ofOption_agrees {type : TypeExpr} (agree : ∀ name, type.Leaf name → Schema.AgreeOn context.schema schema name)
    (value : Option DefaultValue) :
    Likeness.agreement.Like (context.literals.ofOption type value)
      ((context.within schema).literals.ofOption type value) := by
  have same : Schema.isEnum context.schema (type.baseName?.getD "") = Schema.isEnum schema (type.baseName?.getD "") := by
    cases base : type.baseName? with
    | none =>
      show Schema.isEnum context.schema "" = Schema.isEnum schema ""
      rw [Schema.isEnum_empty named, Schema.isEnum_empty named']
    | some name => exact (agree name (TypeExpr.leaf_of_baseName? base)).isEnum_eq
  cases value with
  | none => exact Likeness.agreement.same _
  | some value => exact Likeness.agreement.map some (context.literals.ofDefault_agrees type value same)

/-- Schemas that agree on all names that a definition mentions give it like answers. -/
theorem definitionAlike_of_agree {d : Definition}
    (agree : ∀ name, d.Mentions name → Schema.AgreeOn context.schema schema name) :
    DefinitionAlike .agreement context schema d where
  userTypes := by
    apply List.filter_congr
    intro name mem
    have mentions : d.Mentions name := Definition.mem_references.1 (mem_sortedSet.1 mem)
    show (_ && _ && Schema.declares schema name) = (_ && _ && Schema.declares context.schema name)
    rw [(agree name mentions).declares_eq]
    rfl
  arguments argument inside := by
    apply ofOption_agrees named named'
    intro name leaf
    exact agree name (.argument inside leaf)
  members member inside :=
    { value := by
        apply ofOption_agrees named named'
        intro name leaf
        exact agree name (.member inside leaf)
      arguments := by
        intro argument listed
        apply ofOption_agrees named named'
        intro name leaf
        exact agree name (.memberArgument inside listed leaf) }

end

/-- What is made of a definition is the same in two contexts that give like answers. -/
theorem Target.Makes.unique {target : Target} {schema schema' : List Definition} {options : RenderOptions}
    {d : Definition} {own own' : List SourceFile} (makes : Makes schema options d target own)
    (makes' : Makes schema' options d target own')
    (alike : DefinitionAlike .agreement ⟨target, schema, options⟩ schema' d) : own = own' := by
  cases makes with
  | cpp made =>
    cases makes' with
    | cpp made' => exact Cpp.like_definitionFiles alike _ _ made made'
  | flow made =>
    cases makes' with
    | flow made' => rw [Flow.like_definitionFile alike _ _ made made']

/-- C++ and Flow render locally.  Take two schemas without an empty name that both declare a definition and
both can be rendered with the same options.  If they agree on every name that the definition mentions, then the
definition has the same files in both.  So whatever is added, removed or edited among the definitions that it
does not mention leaves its files as they are. -/
theorem Target.rendering_local {target : Target} (kind : target = .cpp ∨ target = .flow) (options : RenderOptions)
    {d : Definition} {schema schema' : List Definition} {files files' : List SourceFile}
    (rendered : target.render schema options = .ok files) (rendered' : target.render schema' options = .ok files')
    (inside : d ∈ schema) (inside' : d ∈ schema') (named : ∀ e ∈ schema, e.name ≠ "")
    (named' : ∀ e ∈ schema', e.name ≠ "") :
    (target.filesOf options d files).map (·.path) = target.pathsOf options d
    ∧ ((∀ name, d.Mentions name → Schema.AgreeOn schema schema' name) →
        target.filesOf options d files = target.filesOf options d files')
    ∧ ((∀ e : Definition, d.Mentions e.name → (e ∈ schema ↔ e ∈ schema')) →
        target.filesOf options d files = target.filesOf options d files') := by
  have makes := makes_filesOf kind rendered inside
  have makes' := makes_filesOf kind rendered' inside'
  have agreeing : (∀ name, d.Mentions name → Schema.AgreeOn schema schema' name) →
      target.filesOf options d files = target.filesOf options d files' := by
    intro agree
    exact makes.unique makes' (definitionAlike_of_agree named named' agree)
  refine ⟨makes.paths, agreeing, ?_⟩
  intro same
  apply agreeing
  intro name mentions
  exact .of_mem fun e called => same e (called ▸ mentions)

/-- The enumeration with another value in front. -/
def widerEnum : Definition :=
  { hueEnum with values := ["g", "r"] }

def loneInterface : Definition :=
  { kind := .interface, name := "I" }

/-- The enumeration of a default gets a value, an interface is added, and the order is another one. -/
theorem Target.rendering_local_edited : ∃ files files',
    Target.cpp.render [hueEnum, paintDictionary] {} = .ok files
      ∧ Target.cpp.render [loneInterface, paintDictionary, widerEnum] {} = .ok files'
      ∧ (Target.cpp.filesOf {} paintDictionary files).map (·.path) = ["p.h", "p.cc"]
      ∧ Target.cpp.filesOf {} paintDictionary files = Target.cpp.filesOf {} paintDictionary files' := by
  obtain ⟨files, rendered⟩ : ∃ files, Target.cpp.render [hueEnum, paintDictionary] {} = .ok files := ⟨_, rfl⟩
  obtain ⟨files', rendered'⟩ : ∃ files',
      Target.cpp.render [loneInterface, paintDictionary, widerEnum] {} = .ok files' := ⟨_, rfl⟩
  have inside : paintDictionary ∈ [hueEnum, paintDictionary] := by simp
  have inside' : paintDictionary ∈ [loneInterface, paintDictionary, widerEnum] := by simp
  obtain ⟨paths, agreeing, -⟩ :=
    rendering_local (.inl rfl) {} rendered rendered' inside inside' (by decide) (by decide)
  refine ⟨files, files', rendered, rendered', paths, agreeing ?_⟩
  intro name mentions
  have only : paintDictionary.references = ["C"] := rfl
  obtain rfl : name = "C" := by
    rw [← Definition.mem_references, only] at mentions
    exact List.mem_singleton.1 mentions
  exact ⟨iff_of_true ⟨hueEnum, by simp, rfl⟩ ⟨widerEnum, by simp, rfl⟩,
    iff_of_true ⟨hueEnum, by simp, rfl, rfl⟩ ⟨widerEnum, by simp, rfl, rfl⟩⟩

end IdlBindings
