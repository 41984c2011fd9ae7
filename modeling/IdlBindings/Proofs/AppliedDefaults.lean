/-
# IdlBindings.Proofs.AppliedDefaults: where C++ applies the default of a dictionary member.

The constructor of a dictionary has a parameter for each member and stores it in a field.  A parameter that may
be left out is an `Optional`, and its field falls back to the default of the member.  Parameters of nullable
types and of sequences are never left out: they have an empty value of their own.  They are stored as they come,
so a default on such a member is resolved but not applied.
-/
import IdlBindings.Proofs.Links

namespace IdlBindings

/-! ## Parameters and fields of a constructor -/

namespace Cpp

variable {context : RenderContext} {member : Member} {text : String}

/-- The constructor of a dictionary, for the type of the parameter of each member and the value of its field. -/
def constructorText (d : Definition) (parameterType stored : Member → String) : String :=
  "\n" ++ d.name ++ "::" ++ d.name
    ++ "(" ++ ", ".intercalate (d.members.map fun m => parameterType m ++ " " ++ m.name) ++ ")"
    ++ match d.members with
      | [] => " \x7b\x7d\n"
      | members => "\n  : " ++ ",\n    ".intercalate (members.map fun m => "_" ++ m.name ++ "(" ++ stored m ++ ")")
          ++ " \x7b\x7d\n"

/-- A parameter that may be left out: neither required nor of a type that has an empty value of its own. -/
theorem isOmittable_iff {type : TypeExpr} {required : Bool} :
    TypeSpelling.isOmittable type required = true
      ↔ required = false ∧ type.isNullable = false ∧ type.isSequenceLike = false := by
  simp [TypeSpelling.isOmittable, and_assoc]

/-- The type of a parameter is that of the member, in `Optional` if it may be left out. -/
theorem spellMember_eq_ok (spelled : TypeSpelling.cpp.spellMember member = .ok text) :
    ∃ type, TypeSpelling.cpp.spell member.type = .ok type
      ∧ text = if member.required = false ∧ member.type.isNullable = false ∧ member.type.isSequenceLike = false
          then "Optional<" ++ type ++ ">" else type := by
  obtain ⟨type, spelledType, spelled⟩ := bind_eq_ok.1 spelled
  obtain rfl := Except.ok.inj spelled
  refine ⟨type, spelledType, ?_⟩
  simp only [isOmittable_iff]
  rfl

/-- A field falls back to the default of its member if the parameter may be left out.  It holds the parameter
otherwise, with or without a default. -/
theorem initializer_eq_ok (made : initializer context member = .ok text) :
    (member.defaultValue = none → text = member.name)
      ∧ ∀ value, member.defaultValue = some value → ∃ literal,
        context.literals.ofDefault member.type value = .ok literal
          ∧ text = if member.required = false ∧ member.type.isNullable = false ∧ member.type.isSequenceLike = false
              then member.name ++ ".value_or(" ++ literal ++ ")" else member.name := by
  obtain ⟨resolved, resolution, made⟩ := bind_eq_ok.1 made
  unfold RenderContext.memberDefault at resolution
  constructor
  · intro missing
    rw [missing] at resolution
    obtain rfl := Except.ok.inj resolution
    exact (Except.ok.inj made).symm
  · intro value present
    rw [present] at resolution
    obtain ⟨literal, found, resolution⟩ := bind_eq_ok.1 resolution
    obtain rfl := Except.ok.inj resolution
    refine ⟨literal, found, ?_⟩
    rw [← if_congr isOmittable_iff rfl rfl]
    dsimp only at made
    split_ifs at made ⊢ with omittable
    · exact (Except.ok.inj made).symm
    · exact (Except.ok.inj made).symm

/-- The functions of a dictionary begin with its constructor. -/
theorem dictionaryFunctions_eq_ok {d : Definition} (made : dictionaryFunctions context d = .ok text) :
    ∃ (parameterType stored : Member → String) (readers : String),
      text = constructorText d parameterType stored ++ readers
        ∧ ∀ m ∈ d.members, context.types.spellMember m = .ok (parameterType m)
          ∧ initializer context m = .ok (stored m) := by
  obtain ⟨parameters, madeParameters, made⟩ := bind_eq_ok.1 made
  obtain ⟨initializers, madeInitializers, made⟩ := bind_eq_ok.1 made
  obtain ⟨readers, -, made⟩ := bind_eq_ok.1 made
  obtain rfl := Except.ok.inj made
  obtain ⟨listed, mapped, madeParameters⟩ := bind_eq_ok.1 madeParameters
  obtain rfl := Except.ok.inj madeParameters
  obtain ⟨parameterType, rfl, spelled⟩ := exists_results_of_mapM mapped
  obtain ⟨stored, rfl, initialized⟩ := exists_results_of_mapM madeInitializers
  refine ⟨parameterType, stored, String.join readers, ?_, fun m inside => ⟨spelled m inside, initialized m inside⟩⟩
  unfold constructorText
  cases d.members with
  | nil => rfl
  | cons => rfl

end Cpp

/-! ## Dictionaries of a rendering -/

namespace Target

/-- In a rendering the constructor of each dictionary applies the default of every member whose parameter may be
left out, that is, every member that is neither required nor of a nullable type nor of a sequence type.  The
parameter of such a member is an `Optional`, and its field is what `value_or` gives with the literal of the
default.  All other fields hold the parameter itself, which has the plain type of the member. -/
theorem cpp_applies_defaults {schema : List Definition} {options : RenderOptions} {files : List SourceFile}
    {d : Definition} (rendered : Target.cpp.render schema options = .ok files) (inside : d ∈ schema)
    (kind : d.kind = .dictionary) :
    ∃ (parameterType stored : Member → String) (before behind : String),
      ⟨Text.toLower d.name ++ "." ++ options.suffix,
          before ++ Cpp.constructorText d parameterType stored ++ behind⟩ ∈ files
        ∧ ∀ m ∈ d.members,
          (∃ type, TypeSpelling.cpp.spell m.type = .ok type
            ∧ parameterType m = if m.required = false ∧ m.type.isNullable = false ∧ m.type.isSequenceLike = false
                then "Optional<" ++ type ++ ">" else type)
          ∧ (m.defaultValue = none → stored m = m.name)
          ∧ ∀ value, m.defaultValue = some value → ∃ literal,
            (⟨.cpp, schema, options⟩ : RenderContext).literals.ofDefault m.type value = .ok literal
              ∧ stored m = if m.required = false ∧ m.type.isNullable = false ∧ m.type.isSequenceLike = false
                  then m.name ++ ".value_or(" ++ literal ++ ")" else m.name := by
  obtain ⟨-, functions, -, made, -, before, behind, among⟩ := cpp_texts rendered inside
  rw [if_pos kind] at made
  obtain ⟨parameterType, stored, readers, rfl, each⟩ := Cpp.dictionaryFunctions_eq_ok made
  refine ⟨parameterType, stored, before, readers ++ behind, ?_, ?_⟩
  · simpa only [String.append_assoc] using among
  · intro m mem
    obtain ⟨spelled, initialized⟩ := each m mem
    exact ⟨Cpp.spellMember_eq_ok spelled, Cpp.initializer_eq_ok initialized⟩

/-- A width that may be left out. -/
def strokeWidth : Member :=
  { kind := .field, name := "width", type := .named "long", defaultValue := some ⟨.number, "1"⟩ }

/-- A label that may be null. -/
def strokeLabel : Member :=
  { kind := .field, name := "label", type := .nullable (.named "DOMString"), defaultValue := some ⟨.string, "none"⟩ }

/-- A dictionary of both. -/
def strokeDictionary : Definition :=
  { kind := .dictionary, name := "Stroke", members := [strokeWidth, strokeLabel] }

/-- The width falls back to its default, and the label is stored as it comes. -/
theorem cpp_applies_defaults_stroke :
    ∃ files, Target.cpp.render [strokeDictionary] {} = .ok files
      ∧ strokeDictionary ∈ [strokeDictionary] ∧ strokeDictionary.kind = .dictionary
      ∧ ∃ before behind, ⟨"stroke.cc", before
          ++ ("\nStroke::Stroke(Optional<int32_t> width, std::optional<std::string> label)"
            ++ "\n  : _width(width.value_or(1)),\n    _label(label) \x7b\x7d\n")
          ++ behind⟩ ∈ files := by
  obtain ⟨files, rendered⟩ : ∃ files, Target.cpp.render [strokeDictionary] {} = .ok files := ⟨_, rfl⟩
  obtain ⟨parameterType, stored, before, behind, among, each⟩ :=
    cpp_applies_defaults rendered (List.mem_singleton_self _) rfl
  obtain ⟨⟨type, spelled, typeOfWidth⟩, -, applied⟩ := each strokeWidth (by simp [strokeDictionary])
  obtain ⟨literal, found, storedWidth⟩ := applied _ rfl
  obtain ⟨⟨type', spelled', typeOfLabel⟩, -, applied'⟩ := each strokeLabel (by simp [strokeDictionary])
  obtain ⟨literal', -, storedLabel⟩ := applied' _ rfl
  replace storedLabel : stored strokeLabel = "label" := storedLabel.trans (if_neg (by decide))
  obtain rfl := Except.ok.inj spelled
  obtain rfl := Except.ok.inj spelled'
  obtain rfl := Except.ok.inj found
  have text : Cpp.constructorText strokeDictionary parameterType stored
      = "\nStroke::Stroke(Optional<int32_t> width, std::optional<std::string> label)"
          ++ "\n  : _width(width.value_or(1)),\n    _label(label) \x7b\x7d\n" := by
    simp only [Cpp.constructorText, strokeDictionary, List.map_cons, List.map_nil, typeOfWidth, typeOfLabel,
      storedWidth, storedLabel]
    decide
  rw [text] at among
  exact ⟨files, rendered, List.mem_singleton_self _, rfl, before, behind, among⟩

/-- A dictionary whose only member has a default and may be null. -/
def paintLabel : Definition :=
  { kind := .dictionary, name := "Paint", members := [strokeLabel] }

/-- The default of a nullable member has a literal, but the source file of its dictionary does not mention it. -/
theorem cpp_ignores_nullable_default :
    Schema.parse "dictionary Paint \x7b DOMString? label = \"none\"; \x7d;" = .ok [paintLabel]
      ∧ (⟨.cpp, [paintLabel], {}⟩ : RenderContext).memberDefault strokeLabel = .ok (some "\"none\"")
      ∧ ∃ files, Target.cpp.render [paintLabel] {} = .ok files
        ∧ ⟨"paint.cc", "#include \"paint.h\"\n\nnamespace idl \x7b\n"
            ++ "\nPaint::Paint(std::optional<std::string> label)\n  : _label(label) \x7b\x7d\n"
            ++ "\nstd::optional<std::string> Paint::label() const \x7b\n  return _label;\n\x7d\n"
            ++ "\n\x7d  // namespace idl\n"⟩ ∈ files := by
  exact ⟨by decide +kernel, by decide +kernel, _, rfl, by decide +kernel⟩

end Target

end IdlBindings
