/-
# IdlBindings.Proofs.Renaming: renaming keeps references and defaults.

The rules of renaming are applied one after the other to all names of a fragment.  That is one map over its
names, and it is the same map for all fragments.  So a reference goes where its definition goes.  Different
names may become one.  Then their definitions are merged, and values of an enumeration may end up among more
values, or in a definition that is no enumeration any more, but they are never lost.
-/
import IdlBindings.Proofs.CheckedPositions
import IdlBindings.Proofs.Merging
import IdlBindings.Selection

namespace IdlBindings

/-! ## Maps over names -/

namespace TypeExpr

mutual
theorem mapNames_id : ∀ t : TypeExpr, t.mapNames (fun name => name) = t
  | .named _ => rfl
  | .sequence element => by rw [mapNames, mapNames_id element]
  | .nullable inner => by rw [mapNames, mapNames_id inner]
  | .union members => by rw [mapNames, mapNamesList_id members]
  | .generic _ arguments => by rw [mapNames, mapNamesList_id arguments]
theorem mapNamesList_id : ∀ ts : List TypeExpr, mapNamesList (fun name => name) ts = ts
  | [] => rfl
  | t :: rest => by rw [mapNamesList, mapNames_id t, mapNamesList_id rest]
end

mutual
theorem mapNames_mapNames (f g : String → String) :
    ∀ t : TypeExpr, (t.mapNames f).mapNames g = t.mapNames fun name => g (f name)
  | .named _ => rfl
  | .sequence element => by rw [mapNames, mapNames, mapNames, mapNames_mapNames f g element]
  | .nullable inner => by rw [mapNames, mapNames, mapNames, mapNames_mapNames f g inner]
  | .union members => by rw [mapNames, mapNames, mapNames, mapNamesList_mapNamesList f g members]
  | .generic _ arguments => by rw [mapNames, mapNames, mapNames, mapNamesList_mapNamesList f g arguments]
theorem mapNamesList_mapNamesList (f g : String → String) :
    ∀ ts : List TypeExpr, mapNamesList g (mapNamesList f ts) = mapNamesList (fun name => g (f name)) ts
  | [] => rfl
  | t :: rest => by
    rw [mapNamesList, mapNamesList, mapNamesList, mapNames_mapNames f g t, mapNamesList_mapNamesList f g rest]
end

mutual
theorem references_mapNames (f : String → String) :
    ∀ t : TypeExpr, (t.mapNames f).references = t.references.map f
  | .named _ => rfl
  | .sequence element => by rw [mapNames, references, references, references_mapNames f element]
  | .nullable inner => by rw [mapNames, references, references, references_mapNames f inner]
  | .union members => by rw [mapNames, references, references, referencesList_mapNames f members]
  | .generic _ arguments => by rw [mapNames, references, references, referencesList_mapNames f arguments]
theorem referencesList_mapNames (f : String → String) :
    ∀ ts : List TypeExpr, referencesList (mapNamesList f ts) = (referencesList ts).map f
  | [] => rfl
  | t :: rest => by
    rw [mapNamesList, referencesList, referencesList, references_mapNames f t, referencesList_mapNames f rest,
      List.map_append]
end

theorem baseName?_mapNames (f : String → String) :
    ∀ t : TypeExpr, (t.mapNames f).baseName? = t.baseName?.map f
  | .named _ => rfl
  | .sequence _ => rfl
  | .nullable inner => by rw [mapNames, baseName?, baseName?, baseName?_mapNames f inner]
  | .union _ => rfl
  | .generic _ _ => rfl

end TypeExpr

namespace AttributeValue

theorem mapNames_id (value : AttributeValue) : value.mapNames (fun name => name) = value := by
  cases value <;> simp [mapNames]

theorem mapNames_mapNames (f g : String → String) (value : AttributeValue) :
    (value.mapNames f).mapNames g = value.mapNames fun name => g (f name) := by
  cases value <;> simp [mapNames]

end AttributeValue

namespace Argument

mutual
theorem mapNames_id : ∀ a : Argument, a.mapNames (fun name => name) = a
  | ⟨_, type, _, _, _, attributes⟩ => by
    rw [mapNames, type.mapNames_id, mapNamesAttributes_id attributes]
theorem mapNamesAttributes_id :
    ∀ as : List ExtendedAttribute, mapNamesAttributes (fun name => name) as = as
  | [] => rfl
  | ⟨_, value, none⟩ :: rest => by
    simp [mapNamesAttributes, AttributeValue.mapNames_id, mapNamesAttributes_id rest]
  | ⟨_, value, some arguments⟩ :: rest => by
    simp [mapNamesAttributes, AttributeValue.mapNames_id, mapNamesAttributes_id rest, mapNamesList_id arguments]
theorem mapNamesList_id : ∀ as : List Argument, mapNamesList (fun name => name) as = as
  | [] => rfl
  | a :: rest => by rw [mapNamesList, mapNames_id a, mapNamesList_id rest]
end

mutual
theorem mapNames_mapNames (f g : String → String) :
    ∀ a : Argument, (a.mapNames f).mapNames g = a.mapNames fun name => g (f name)
  | ⟨_, type, _, _, _, attributes⟩ => by
    rw [mapNames, mapNames, mapNames, type.mapNames_mapNames, mapNamesAttributes_mapNamesAttributes f g attributes]
theorem mapNamesAttributes_mapNamesAttributes (f g : String → String) :
    ∀ as : List ExtendedAttribute,
      mapNamesAttributes g (mapNamesAttributes f as) = mapNamesAttributes (fun name => g (f name)) as
  | [] => rfl
  | ⟨_, value, none⟩ :: rest => by
    simp [mapNamesAttributes, AttributeValue.mapNames_mapNames, mapNamesAttributes_mapNamesAttributes f g rest,
      Function.comp_def]
  | ⟨_, value, some arguments⟩ :: rest => by
    simp [mapNamesAttributes, AttributeValue.mapNames_mapNames, mapNamesAttributes_mapNamesAttributes f g rest,
      mapNamesList_mapNamesList f g arguments, Function.comp_def]
theorem mapNamesList_mapNamesList (f g : String → String) :
    ∀ as : List Argument, mapNamesList g (mapNamesList f as) = mapNamesList (fun name => g (f name)) as
  | [] => rfl
  | a :: rest => by
    rw [mapNamesList, mapNamesList, mapNamesList, mapNames_mapNames f g a, mapNamesList_mapNamesList f g rest]
end

end Argument

namespace Member

theorem mapNames_id (member : Member) : member.mapNames (fun name => name) = member := by
  simp [mapNames, TypeExpr.mapNames_id, Argument.mapNamesList_id, Argument.mapNamesAttributes_id]

theorem mapNames_mapNames (f g : String → String) (member : Member) :
    (member.mapNames f).mapNames g = member.mapNames fun name => g (f name) := by
  simp [mapNames, TypeExpr.mapNames_mapNames, Argument.mapNamesList_mapNamesList,
    Argument.mapNamesAttributes_mapNamesAttributes, Function.comp_def]

end Member

namespace Definition

theorem mapNames_id (d : Definition) : d.mapNames (fun name => name) = d := by
  simp [mapNames, TypeExpr.mapNames_id, Argument.mapNamesList_id, Argument.mapNamesAttributes_id,
    Member.mapNames_id]

theorem mapNames_mapNames (f g : String → String) (d : Definition) :
    (d.mapNames f).mapNames g = d.mapNames fun name => g (f name) := by
  simp [mapNames, TypeExpr.mapNames_mapNames, Argument.mapNamesList_mapNamesList,
    Argument.mapNamesAttributes_mapNamesAttributes, Member.mapNames_mapNames, Function.comp_def]

end Definition

/-! ## All rules at once -/

namespace Selection

/-- A name with all rules applied in order. -/
def renameName (selection : Selection) (name : String) : String :=
  selection.renames.foldl (fun name rule => rule.apply name) name

/-- Applying the rules one after the other is one map over the names. -/
theorem rename_eq (selection : Selection) (d : Definition) :
    selection.rename d = d.mapNames selection.renameName := by
  unfold rename renameName
  induction selection.renames generalizing d with
  | nil => exact d.mapNames_id.symm
  | cons rule rules ih =>
    rw [List.foldl_cons, ih, Definition.rename, Definition.mapNames_mapNames]
    rfl

end Selection

/-! ## References -/

namespace Argument

mutual
/-- The names that an argument refers to: in its type, and in the arguments of its extended attributes. -/
def mentions : Argument → List String
  | ⟨_, type, _, _, _, attributes⟩ => type.references ++ attributesMentions attributes
/-- The names that extended attributes refer to. -/
def attributesMentions : List ExtendedAttribute → List String
  | [] => []
  | ⟨_, _, none⟩ :: rest => attributesMentions rest
  | ⟨_, _, some arguments⟩ :: rest => listMentions arguments ++ attributesMentions rest
/-- The names that arguments refer to. -/
def listMentions : List Argument → List String
  | [] => []
  | a :: rest => mentions a ++ listMentions rest
end

mutual
theorem mentions_mapNames (f : String → String) : ∀ a : Argument, (a.mapNames f).mentions = a.mentions.map f
  | ⟨_, type, _, _, _, attributes⟩ => by
    rw [mapNames, mentions, mentions, type.references_mapNames, attributesMentions_mapNames f attributes,
      List.map_append]
theorem attributesMentions_mapNames (f : String → String) :
    ∀ as : List ExtendedAttribute, attributesMentions (mapNamesAttributes f as) = (attributesMentions as).map f
  | [] => rfl
  | ⟨_, _, none⟩ :: rest => by
    rw [mapNamesAttributes, attributesMentions, attributesMentions, attributesMentions_mapNames f rest]
  | ⟨_, _, some arguments⟩ :: rest => by
    rw [mapNamesAttributes, attributesMentions, attributesMentions, attributesMentions_mapNames f rest,
      listMentions_mapNames f arguments, List.map_append]
theorem listMentions_mapNames (f : String → String) :
    ∀ as : List Argument, listMentions (mapNamesList f as) = (listMentions as).map f
  | [] => rfl
  | a :: rest => by
    rw [mapNamesList, listMentions, listMentions, mentions_mapNames f a, listMentions_mapNames f rest,
      List.map_append]
end

end Argument

/-- The names that a member refers to. -/
def Member.mentions (member : Member) : List String :=
  member.type.references ++ member.keyType.toList.flatMap TypeExpr.references
    ++ Argument.listMentions member.arguments ++ Argument.attributesMentions member.attributes

/-- The names that a definition refers to: what it inherits from and implements, and every name in a type,
wherever that stands. -/
def Definition.mentions (d : Definition) : List String :=
  d.bases ++ d.type.toList.flatMap TypeExpr.references ++ Argument.listMentions d.arguments
    ++ d.members.flatMap Member.mentions ++ Argument.attributesMentions d.attributes

theorem referencesOf_mapNames (f : String → String) (type : Option TypeExpr) :
    (type.map (·.mapNames f)).toList.flatMap TypeExpr.references
      = (type.toList.flatMap TypeExpr.references).map f := by
  cases type <;> simp [TypeExpr.references_mapNames]

theorem Member.mentions_mapNames (f : String → String) (member : Member) :
    (member.mapNames f).mentions = member.mentions.map f := by
  simp only [mentions, mapNames, List.map_append, TypeExpr.references_mapNames, referencesOf_mapNames,
    Argument.listMentions_mapNames, Argument.attributesMentions_mapNames]

theorem Definition.bases_mapNames (f : String → String) (d : Definition) :
    (d.mapNames f).bases = d.bases.map f := by
  unfold bases mapNames
  cases d.parent <;> cases d.implements <;> rfl

/-- Where a definition referred to a name, it refers to the new name. -/
theorem Definition.mentions_mapNames (f : String → String) (d : Definition) :
    (d.mapNames f).mentions = d.mentions.map f := by
  have members : (d.members.map (·.mapNames f)).flatMap Member.mentions
      = (d.members.flatMap Member.mentions).map f := by
    simp only [List.flatMap_map, Member.mentions_mapNames, List.map_flatMap]
  rw [mentions, bases_mapNames]
  simp only [mapNames, mentions, List.map_append, members, referencesOf_mapNames,
    Argument.listMentions_mapNames, Argument.attributesMentions_mapNames]

/-! ## Names and values of a merged schema -/

namespace Schema

variable {fragments : List Definition}

theorem declares_merged {name : String} :
    declares (merged fragments) name = true ↔ name ∈ fragments.map (·.name) := by
  rw [← List.mem_eraseDups, ← map_name_merged]
  simp [declares]

/-- The values of a definition are those of its fragments. -/
theorem mem_values_merged {d : Definition} (inside : d ∈ merged fragments) {value : String} :
    value ∈ d.values ↔ ∃ f ∈ fragments, f.name = d.name ∧ value ∈ f.values := by
  rw [merged_eq, List.mem_filterMap] at inside
  obtain ⟨name, -, made⟩ := inside
  have called := Definition.name_of_merge? made
  obtain ⟨first, others, split, whole⟩ := Definition.gathers_of_merge? made
  have values : d.values = (first :: others).flatMap (·.values) := by rw [whole]
  rw [values, ← split, called]
  simp [and_assoc]

end Schema

/-! ## Renamed schemas -/

section

variable (selection : Selection) (fragments : List Definition)

theorem map_name_rename :
    (fragments.map selection.rename).map (·.name) = (fragments.map (·.name)).map selection.renameName := by
  simp only [List.map_map]
  refine List.map_congr_left fun d _ => ?_
  simp [Selection.rename_eq, Definition.mapNames]

theorem declares_rename {name : String} (known : Schema.declares (Schema.merged fragments) name = true) :
    Schema.declares (Schema.merged (fragments.map selection.rename)) (selection.renameName name) = true := by
  rw [Schema.declares_merged] at known ⊢
  rw [map_name_rename]
  exact List.mem_map_of_mem known

/-- A value of an enumeration is still a value, if the definition with the new name is an enumeration. -/
theorem mem_values_rename {d : Definition} (inside : d ∈ Schema.merged fragments) {value : String}
    (listed : value ∈ d.values) {values : List String}
    (known : Schema.enumValues? (Schema.merged (fragments.map selection.rename)) (selection.renameName d.name)
      = some values) : value ∈ values := by
  obtain ⟨f, original, called, listed⟩ := (Schema.mem_values_merged inside).1 listed
  obtain ⟨d', inside', -, called', rfl⟩ := (Schema.enumValues?_eq_some (Schema.nodup_merged _)).1 known
  refine (Schema.mem_values_merged inside').2 ⟨selection.rename f, List.mem_map_of_mem original, ?_, ?_⟩
  · rw [called', ← called, Selection.rename_eq]
    rfl
  · rw [Selection.rename_eq]
    exact listed

end

/-- A string that is among the values of the enumeration of its type, if there is one, has a literal. -/
theorem Literals.ofDefault_of_listed (literals : Literals) (type : TypeExpr) (value : String)
    (listed : ∀ values, Schema.enumValues? literals.schema (type.baseName?.getD "") = some values →
      value ∈ values) :
    ∃ text, literals.ofDefault type ⟨.string, value⟩ = .ok text := by
  unfold ofDefault
  simp only [Schema.isEnum, enumValue]
  cases known : Schema.enumValues? literals.schema (type.baseName?.getD "") with
  | none => exact ⟨_, rfl⟩
  | some values =>
    simp only [Option.isSome_some, if_true, List.contains_iff_mem.2 (listed values known)]
    split <;> exact ⟨_, rfl⟩

/-- Renaming never breaks references or defaults.  Fragments are merged as they are and after all rules of
renaming were applied to them.  A name that was defined is defined under its new name, so what a fragment
refers to is still there.  A member or an argument with a value of an enumeration as its default still has a
literal for it, in all ways of writing literals, even where the enumeration has become part of another
definition. -/
theorem renaming_keeps_references (selection : Selection) (fragments : List Definition) :
    ∃ before after, (Registry.ofList fragments).merge true = .ok before
      ∧ (Registry.ofList (fragments.map selection.rename)).merge true = .ok after
      ∧ (∀ d, selection.rename d = d.mapNames selection.renameName)
      ∧ (∀ name, Schema.declares before name = true → Schema.declares after (selection.renameName name) = true)
      ∧ (∀ f ∈ fragments, List.Forall₂
          (fun name name' => Schema.declares before name = true → Schema.declares after name' = true)
          f.mentions (selection.rename f).mentions)
      ∧ ∀ d ∈ before, d.kind = .enum → ∀ value ∈ d.values, ∀ literals : Literals, literals.schema = after →
          (∀ member : Member, member.type.baseName? = some d.name →
            member.defaultValue = some ⟨.string, value⟩ →
            ∃ text, literals.ofOption (member.mapNames selection.renameName).type
              (member.mapNames selection.renameName).defaultValue = .ok (some text))
          ∧ ∀ argument : Argument, argument.type.baseName? = some d.name →
            argument.defaultValue = some ⟨.string, value⟩ →
            ∃ text, literals.ofOption (argument.mapNames selection.renameName).type
              (argument.mapNames selection.renameName).defaultValue = .ok (some text) := by
  refine ⟨Schema.merged fragments, Schema.merged (fragments.map selection.rename), rfl, rfl,
    selection.rename_eq, fun name => declares_rename selection fragments, ?_, ?_⟩
  · intro f inside
    rw [selection.rename_eq, Definition.mentions_mapNames, List.forall₂_map_right_iff, List.forall₂_same]
    exact fun name _ => declares_rename selection fragments
  · intro d inside kind value listed literals known
    have literal : ∀ type : TypeExpr, type.baseName? = some d.name →
        ∃ text, literals.ofOption (type.mapNames selection.renameName) (some ⟨.string, value⟩)
          = .ok (some text) := by
      intro type named
      obtain ⟨text, made⟩ := literals.ofDefault_of_listed (type.mapNames selection.renameName) value (by
        rw [known, TypeExpr.baseName?_mapNames, named]
        exact fun values => mem_values_rename selection fragments inside listed)
      exact ⟨text, by rw [Literals.ofOption, made]; rfl⟩
    refine ⟨fun member named valued => ?_, fun argument named valued => ?_⟩
    · have kept : (member.mapNames selection.renameName).defaultValue = some ⟨.string, value⟩ := valued
      rw [kept]
      exact literal member.type named
    · obtain ⟨name, type, optional, variadic, defaultValue, attributes⟩ := argument
      cases valued
      exact literal type named

/-- Replaces the letter D by C. -/
def letterRule : RenameRule :=
  ⟨⟨"D", Pattern.Program.ofRegex (.literal ['D']), []⟩, "C"⟩

/-- Two enumerations, and a member with a value of the second as its default. -/
def twoEnums : List Definition :=
  [{ kind := .enum, name := "C", values := ["r"] }, { kind := .enum, name := "D", values := ["s"] },
   { kind := .dictionary, name := "P",
     members := [{ kind := .field, name := "d", type := .named "D", defaultValue := some ⟨.string, "s"⟩ }] }]

/-- The two enumerations become one that has all values, and the default is a value of it. -/
theorem renaming_keeps_references_collision :
    ∃ after, (Registry.ofList (twoEnums.map ({ renames := [letterRule] } : Selection).rename)).merge true = .ok after
      ∧ Schema.enumValues? after "C" = some ["r", "s"] ∧ Schema.declares after "D" = false
      ∧ ∃ text, ({ spelling := .cpp, schema := after } : Literals).ofOption (.named "C") (some ⟨.string, "s"⟩)
          = .ok (some text) := by
  obtain ⟨before, after, merged, merged', -, -, -, literal⟩ :=
    renaming_keeps_references { renames := [letterRule] } twoEnums
  cases merged
  cases merged'
  refine ⟨_, rfl, rfl, rfl, ?_⟩
  exact (literal { kind := .enum, name := "D", values := ["s"] } (.tail _ (.head _)) rfl "s" (.head _)
    { spelling := .cpp, schema := _ } rfl).1
    { kind := .field, name := "d", type := .named "D", defaultValue := some ⟨.string, "s"⟩ } rfl rfl

end IdlBindings
