/-
# IdlBindings.Proofs.NamePlaces: a definition is its shape, with names in their places.

`names` lists the names of a definition one after the other, through all its types, arguments and extended
attributes.  `SameShape` compares two definitions and passes over the names: kinds, flags, values and the
shapes of lists, options and types have to be the same.  Together they say everything about a definition.  So
there is one definition only that has the shape of a given one and other names in the places of its own, and
this is what renaming makes.
-/
import IdlBindings.Proofs.Renaming

namespace IdlBindings

/-! ## Shape and names together -/

section

variable {α : Type} {names : α → List String} {same : α → α → Prop}

/-- Among the values with the shape of `a` the names tell which one it is, and where in a longer list they
end. -/
def Determines (names : α → List String) (same : α → α → Prop) (a : α) : Prop :=
  ∀ ⦃b c more more'⦄, same a b → same a c → names b ++ more = names c ++ more' → b = c ∧ more = more'

theorem Determines.list {as : List α} (each : ∀ a ∈ as, Determines names same a) :
    Determines (List.flatMap names) (List.Forall₂ same) as := by
  induction as with
  | nil =>
    rintro _ _ more more' ⟨⟩ ⟨⟩ listed
    exact ⟨rfl, listed⟩
  | cons a as ih =>
    obtain ⟨here, later⟩ := List.forall_mem_cons.1 each
    rintro _ _ more more' (_ | ⟨shape, shapes⟩) (_ | ⟨shape', shapes'⟩) listed
    rw [List.flatMap_cons, List.flatMap_cons, List.append_assoc, List.append_assoc] at listed
    obtain ⟨rfl, listed₁⟩ := here shape shape' listed
    obtain ⟨rfl, listed₂⟩ := ih later shapes shapes' listed₁
    exact ⟨rfl, listed₂⟩

theorem Determines.option {o : Option α} (each : ∀ a ∈ o, Determines names same a) :
    Determines (fun o => o.toList.flatMap names) (Option.Rel same) o := by
  rintro _ _ more more' (shape | _) shape' listed
  · cases shape' with
    | some shape' =>
      simp only [Option.toList_some, List.flatMap_singleton] at listed
      obtain ⟨rfl, listed₁⟩ := each _ rfl shape shape' listed
      exact ⟨rfl, listed₁⟩
  · cases shape' with
    | none => exact ⟨rfl, listed⟩

/-- Of a name that may be missing the shape is whether it is there. -/
theorem determines_name (name : Option String) :
    Determines Option.toList (fun a b => b.isSome = a.isSome) name := by
  intro b c more more' shape shape' listed
  cases b <;> cases c <;> simp_all

end

/-! ## Types -/

namespace TypeExpr

mutual
/-- The names in a type from left to right, type constructors included. -/
def names : TypeExpr → List String
  | named name => [name]
  | sequence inner | nullable inner => names inner
  | union members => namesList members
  | generic name arguments => name :: namesList arguments
/-- The names in several types. -/
def namesList : List TypeExpr → List String
  | [] => []
  | t :: rest => names t ++ namesList rest
end

/-- Types that differ in names only. -/
inductive SameShape : TypeExpr → TypeExpr → Prop
  | named (name name' : String) : SameShape (named name) (named name')
  | sequence {t u : TypeExpr} : SameShape t u → SameShape (sequence t) (sequence u)
  | nullable {t u : TypeExpr} : SameShape t u → SameShape (nullable t) (nullable u)
  | union {ts us : List TypeExpr} : List.Forall₂ SameShape ts us → SameShape (union ts) (union us)
  | generic (name name' : String) {ts us : List TypeExpr} :
      List.Forall₂ SameShape ts us → SameShape (generic name ts) (generic name' us)

theorem namesList_eq (ts : List TypeExpr) : namesList ts = ts.flatMap names := by
  induction ts with
  | nil => rfl
  | cons t ts ih => rw [namesList, ih, List.flatMap_cons]

mutual
theorem names_mapNames (f : String → String) : ∀ t : TypeExpr, (t.mapNames f).names = t.names.map f
  | .named _ => rfl
  | .sequence element => by rw [mapNames, names, names, names_mapNames f element]
  | .nullable inner => by rw [mapNames, names, names, names_mapNames f inner]
  | .union members => by rw [mapNames, names, names, namesList_mapNames f members]
  | .generic _ arguments => by rw [mapNames, names, names, namesList_mapNames f arguments, List.map_cons]
theorem namesList_mapNames (f : String → String) :
    ∀ ts : List TypeExpr, namesList (mapNamesList f ts) = (namesList ts).map f
  | [] => rfl
  | t :: rest => by
    rw [mapNamesList, namesList, namesList, names_mapNames f t, namesList_mapNames f rest, List.map_append]
end

mutual
theorem sameShape_mapNames (f : String → String) : ∀ t : TypeExpr, t.SameShape (t.mapNames f)
  | .named name => .named name (f name)
  | .sequence element => .sequence (sameShape_mapNames f element)
  | .nullable inner => .nullable (sameShape_mapNames f inner)
  | .union members => .union (sameShapes_mapNames f members)
  | .generic name arguments => .generic name (f name) (sameShapes_mapNames f arguments)
theorem sameShapes_mapNames (f : String → String) :
    ∀ ts : List TypeExpr, List.Forall₂ SameShape ts (mapNamesList f ts)
  | [] => .nil
  | t :: rest => .cons (sameShape_mapNames f t) (sameShapes_mapNames f rest)
end

mutual
theorem determined : ∀ t : TypeExpr, Determines names SameShape t
  | .named name => by
    rintro _ _ more more' ⟨⟩ ⟨⟩ listed
    simpa [names] using listed
  | .sequence element => by
    intro b c more more' shape shape' listed
    cases shape with
    | sequence shape =>
      cases shape' with
      | sequence shape' =>
        obtain ⟨rfl, listed₁⟩ := determined element shape shape' listed
        exact ⟨rfl, listed₁⟩
  | .nullable inner => by
    intro b c more more' shape shape' listed
    cases shape with
    | nullable shape =>
      cases shape' with
      | nullable shape' =>
        obtain ⟨rfl, listed₁⟩ := determined inner shape shape' listed
        exact ⟨rfl, listed₁⟩
  | .union members => by
    intro b c more more' shape shape' listed
    cases shape with
    | union shapes =>
      cases shape' with
      | union shapes' =>
        rw [names, names, namesList_eq, namesList_eq] at listed
        obtain ⟨rfl, listed₁⟩ := Determines.list (determinedList members) shapes shapes' listed
        exact ⟨rfl, listed₁⟩
  | .generic name arguments => by
    intro b c more more' shape shape' listed
    cases shape with
    | generic _ _ shapes =>
      cases shape' with
      | generic _ _ shapes' =>
        rw [names, names, namesList_eq, namesList_eq, List.cons_append, List.cons_append, List.cons.injEq]
          at listed
        obtain ⟨rfl, listed₁⟩ := listed
        obtain ⟨rfl, listed₂⟩ := Determines.list (determinedList arguments) shapes shapes' listed₁
        exact ⟨rfl, listed₂⟩
theorem determinedList : ∀ ts : List TypeExpr, ∀ t ∈ ts, Determines names SameShape t
  | [] => fun _ inside => nomatch inside
  | t :: rest => List.forall_mem_cons.2 ⟨determined t, determinedList rest⟩
end

end TypeExpr

/-! ## Values of extended attributes -/

namespace AttributeValue

/-- The identifiers of a value; strings and numbers have none. -/
def names : AttributeValue → List String
  | identifier name => [name]
  | identifiers names => names
  | string _ | number _ => []

/-- Values that differ in identifiers only. -/
inductive SameShape : AttributeValue → AttributeValue → Prop
  | identifier (name name' : String) : SameShape (identifier name) (identifier name')
  | identifiers {names names' : List String} (length : names'.length = names.length) :
      SameShape (identifiers names) (identifiers names')
  | string (text : String) : SameShape (string text) (string text)
  | number (text : String) : SameShape (number text) (number text)

theorem names_mapNames (f : String → String) (value : AttributeValue) :
    (value.mapNames f).names = value.names.map f := by
  cases value <;> rfl

theorem sameShape_mapNames (f : String → String) : ∀ value : AttributeValue, value.SameShape (value.mapNames f)
  | identifier name => .identifier name (f name)
  | identifiers _ => .identifiers (List.length_map _)
  | string text => .string text
  | number text => .number text

theorem determined (value : AttributeValue) : Determines names SameShape value := by
  intro b c more more' shape shape' listed
  cases shape with
  | identifier =>
    cases shape'
    simpa [names] using listed
  | identifiers length =>
    cases shape' with
    | identifiers length' =>
      obtain ⟨rfl, rest⟩ := List.append_inj listed (length.trans length'.symm)
      exact ⟨rfl, rest⟩
  | string =>
    cases shape'
    exact ⟨rfl, listed⟩
  | number =>
    cases shape'
    exact ⟨rfl, listed⟩

end AttributeValue

/-! ## Arguments and extended attributes -/

namespace Argument

mutual
/-- The names in an argument: its own, those of its type, and those of its extended attributes. -/
def names : Argument → List String
  | ⟨name, type, _, _, _, attributes⟩ => name :: (type.names ++ attributesNames attributes)
/-- The names in extended attributes, with those in their arguments. -/
def attributesNames : List ExtendedAttribute → List String
  | [] => []
  | ⟨name, value, none⟩ :: rest =>
    name :: (value.toList.flatMap AttributeValue.names ++ attributesNames rest)
  | ⟨name, value, some arguments⟩ :: rest =>
    name :: (value.toList.flatMap AttributeValue.names ++ (listNames arguments ++ attributesNames rest))
/-- The names in several arguments. -/
def listNames : List Argument → List String
  | [] => []
  | a :: rest => names a ++ listNames rest
end

mutual
/-- Arguments that differ in names only. -/
inductive SameShape : Argument → Argument → Prop
  | mk (name name' : String) {type type' : TypeExpr} (types : type.SameShape type') (optional variadic : Bool)
      (defaultValue : Option DefaultValue) {attributes attributes' : List ExtendedAttribute}
      (inside : List.Forall₂ AttributeSameShape attributes attributes') :
      SameShape ⟨name, type, optional, variadic, defaultValue, attributes⟩
        ⟨name', type', optional, variadic, defaultValue, attributes'⟩
/-- Extended attributes that differ in names only. -/
inductive AttributeSameShape : ExtendedAttribute → ExtendedAttribute → Prop
  | plain (name name' : String) {value value' : Option AttributeValue}
      (values : Option.Rel AttributeValue.SameShape value value') :
      AttributeSameShape ⟨name, value, none⟩ ⟨name', value', none⟩
  | applied (name name' : String) {value value' : Option AttributeValue}
      (values : Option.Rel AttributeValue.SameShape value value') {arguments arguments' : List Argument}
      (inside : List.Forall₂ SameShape arguments arguments') :
      AttributeSameShape ⟨name, value, some arguments⟩ ⟨name', value', some arguments'⟩
end

theorem namesOf_value (f : String → String) (value : Option AttributeValue) :
    (value.map (·.mapNames f)).toList.flatMap AttributeValue.names
      = (value.toList.flatMap AttributeValue.names).map f := by
  cases value <;> simp [AttributeValue.names_mapNames]

mutual
theorem names_mapNames (f : String → String) : ∀ a : Argument, (a.mapNames f).names = a.names.map f
  | ⟨_, type, _, _, _, attributes⟩ => by
    rw [mapNames, names, names, type.names_mapNames, attributesNames_mapNames f attributes, List.map_cons,
      List.map_append]
theorem attributesNames_mapNames (f : String → String) :
    ∀ as : List ExtendedAttribute, attributesNames (mapNamesAttributes f as) = (attributesNames as).map f
  | [] => rfl
  | ⟨_, _, none⟩ :: rest => by
    rw [mapNamesAttributes, attributesNames, attributesNames, attributesNames_mapNames f rest, namesOf_value,
      List.map_cons, List.map_append]
  | ⟨_, _, some arguments⟩ :: rest => by
    rw [mapNamesAttributes, attributesNames, attributesNames, attributesNames_mapNames f rest, namesOf_value,
      listNames_mapNames f arguments, List.map_cons, List.map_append, List.map_append]
theorem listNames_mapNames (f : String → String) :
    ∀ as : List Argument, listNames (mapNamesList f as) = (listNames as).map f
  | [] => rfl
  | a :: rest => by
    rw [mapNamesList, listNames, listNames, names_mapNames f a, listNames_mapNames f rest, List.map_append]
end

theorem sameShape_value (f : String → String) (value : Option AttributeValue) :
    Option.Rel AttributeValue.SameShape value (value.map (·.mapNames f)) := by
  cases value with
  | none => exact .none
  | some value => exact .some (value.sameShape_mapNames f)

mutual
theorem sameShape_mapNames (f : String → String) : ∀ a : Argument, a.SameShape (a.mapNames f)
  | ⟨name, type, optional, variadic, defaultValue, attributes⟩ =>
    .mk name (f name) (type.sameShape_mapNames f) optional variadic defaultValue
      (attributesSameShape_mapNames f attributes)
theorem attributesSameShape_mapNames (f : String → String) :
    ∀ as : List ExtendedAttribute, List.Forall₂ AttributeSameShape as (mapNamesAttributes f as)
  | [] => .nil
  | ⟨name, value, none⟩ :: rest =>
    .cons (.plain name (f name) (sameShape_value f value)) (attributesSameShape_mapNames f rest)
  | ⟨name, value, some arguments⟩ :: rest =>
    .cons (.applied name (f name) (sameShape_value f value) (listSameShape_mapNames f arguments))
      (attributesSameShape_mapNames f rest)
theorem listSameShape_mapNames (f : String → String) :
    ∀ as : List Argument, List.Forall₂ SameShape as (mapNamesList f as)
  | [] => .nil
  | a :: rest => .cons (sameShape_mapNames f a) (listSameShape_mapNames f rest)
end

theorem determined_value (value : Option AttributeValue) :
    Determines (fun value => value.toList.flatMap AttributeValue.names)
      (Option.Rel AttributeValue.SameShape) value :=
  .option fun value _ => value.determined

mutual
theorem determined : ∀ a : Argument, Determines names SameShape a
  | ⟨name, type, optional, variadic, defaultValue, attributes⟩ => by
    intro b c more more' shape shape' listed
    cases shape with
    | mk _ _ types _ _ _ inside =>
      cases shape' with
      | mk _ _ types' _ _ _ inside' =>
        rw [names, names, List.cons_append, List.cons_append, List.cons.injEq, List.append_assoc,
          List.append_assoc] at listed
        obtain ⟨rfl, listed₁⟩ := listed
        obtain ⟨rfl, listed₂⟩ := type.determined types types' listed₁
        obtain ⟨rfl, listed₃⟩ := attributesDetermined attributes inside inside' listed₂
        exact ⟨rfl, listed₃⟩
theorem attributesDetermined : ∀ as : List ExtendedAttribute,
    Determines attributesNames (List.Forall₂ AttributeSameShape) as
  | [] => by
    rintro _ _ more more' ⟨⟩ ⟨⟩ listed
    exact ⟨rfl, listed⟩
  | ⟨name, value, none⟩ :: rest => by
    rintro _ _ more more' (_ | ⟨shape, shapes⟩) (_ | ⟨shape', shapes'⟩) listed
    cases shape with
    | plain _ _ values =>
      cases shape' with
      | plain _ _ values' =>
        rw [attributesNames, attributesNames, List.cons_append, List.cons_append, List.cons.injEq,
          List.append_assoc, List.append_assoc] at listed
        obtain ⟨rfl, listed₁⟩ := listed
        obtain ⟨rfl, listed₂⟩ := determined_value value values values' listed₁
        obtain ⟨rfl, listed₃⟩ := attributesDetermined rest shapes shapes' listed₂
        exact ⟨rfl, listed₃⟩
  | ⟨name, value, some arguments⟩ :: rest => by
    rintro _ _ more more' (_ | ⟨shape, shapes⟩) (_ | ⟨shape', shapes'⟩) listed
    cases shape with
    | applied _ _ values inside =>
      cases shape' with
      | applied _ _ values' inside' =>
        rw [attributesNames, attributesNames, List.cons_append, List.cons_append, List.cons.injEq,
          List.append_assoc, List.append_assoc, List.append_assoc, List.append_assoc] at listed
        obtain ⟨rfl, listed₁⟩ := listed
        obtain ⟨rfl, listed₂⟩ := determined_value value values values' listed₁
        obtain ⟨rfl, listed₃⟩ := listDetermined arguments inside inside' listed₂
        obtain ⟨rfl, listed₄⟩ := attributesDetermined rest shapes shapes' listed₃
        exact ⟨rfl, listed₄⟩
theorem listDetermined : ∀ as : List Argument, Determines listNames (List.Forall₂ SameShape) as
  | [] => by
    rintro _ _ more more' ⟨⟩ ⟨⟩ listed
    exact ⟨rfl, listed⟩
  | a :: rest => by
    rintro _ _ more more' (_ | ⟨shape, shapes⟩) (_ | ⟨shape', shapes'⟩) listed
    rw [listNames, listNames, List.append_assoc, List.append_assoc] at listed
    obtain ⟨rfl, listed₁⟩ := determined a shape shape' listed
    obtain ⟨rfl, listed₂⟩ := listDetermined rest shapes shapes' listed₁
    exact ⟨rfl, listed₂⟩
end

end Argument

/-! ## Members -/

/-- A type that may be missing: its names. -/
theorem namesOf_mapNames (f : String → String) (type : Option TypeExpr) :
    (type.map (·.mapNames f)).toList.flatMap TypeExpr.names = (type.toList.flatMap TypeExpr.names).map f := by
  cases type <;> simp [TypeExpr.names_mapNames]

theorem sameShapeOf_mapNames (f : String → String) (type : Option TypeExpr) :
    Option.Rel TypeExpr.SameShape type (type.map (·.mapNames f)) := by
  cases type with
  | none => exact .none
  | some type => exact .some (type.sameShape_mapNames f)

theorem determinedOf (type : Option TypeExpr) :
    Determines (fun type => type.toList.flatMap TypeExpr.names) (Option.Rel TypeExpr.SameShape) type :=
  .option fun type _ => type.determined

namespace Member

/-- The names in a member: its own, those of its types, arguments and extended attributes. -/
def names (member : Member) : List String :=
  member.name :: (member.type.names ++ (member.keyType.toList.flatMap TypeExpr.names
    ++ (Argument.listNames member.arguments ++ Argument.attributesNames member.attributes)))

/-- Members that differ in names only. -/
structure SameShape (member member' : Member) : Prop where
  kind : member'.kind = member.kind
  type : member.type.SameShape member'.type
  keyType : Option.Rel TypeExpr.SameShape member.keyType member'.keyType
  required : member'.required = member.required
  readonly : member'.readonly = member.readonly
  isStatic : member'.isStatic = member.isStatic
  specials : member'.specials = member.specials
  defaultValue : member'.defaultValue = member.defaultValue
  arguments : List.Forall₂ Argument.SameShape member.arguments member'.arguments
  attributes : List.Forall₂ Argument.AttributeSameShape member.attributes member'.attributes

theorem names_mapNames (f : String → String) (member : Member) :
    (member.mapNames f).names = member.names.map f := by
  simp only [names, mapNames, List.map_cons, List.map_append, TypeExpr.names_mapNames, namesOf_mapNames,
    Argument.listNames_mapNames, Argument.attributesNames_mapNames]

theorem sameShape_mapNames (f : String → String) (member : Member) : member.SameShape (member.mapNames f) where
  kind := rfl
  type := member.type.sameShape_mapNames f
  keyType := sameShapeOf_mapNames f member.keyType
  required := rfl
  readonly := rfl
  isStatic := rfl
  specials := rfl
  defaultValue := rfl
  arguments := Argument.listSameShape_mapNames f member.arguments
  attributes := Argument.attributesSameShape_mapNames f member.attributes

theorem determined (member : Member) : Determines names SameShape member := by
  intro b c more more' shape shape' listed
  simp only [names, List.cons_append, List.append_assoc, List.cons.injEq] at listed
  obtain ⟨name, listed⟩ := listed
  obtain ⟨type, listed⟩ := member.type.determined shape.type shape'.type listed
  obtain ⟨keyType, listed⟩ := determinedOf member.keyType shape.keyType shape'.keyType listed
  obtain ⟨arguments, listed⟩ := Argument.listDetermined member.arguments shape.arguments shape'.arguments listed
  obtain ⟨attributes, listed⟩ :=
    Argument.attributesDetermined member.attributes shape.attributes shape'.attributes listed
  refine ⟨?_, listed⟩
  obtain ⟨kind, -, -, required, readonly, isStatic, specials, defaultValue, -, -⟩ := shape
  obtain ⟨kind', -, -, required', readonly', isStatic', specials', defaultValue', -, -⟩ := shape'
  obtain ⟨⟩ := b
  obtain ⟨⟩ := c
  simp_all

end Member

/-! ## Definitions -/

namespace Definition

/-- The names in a definition: its own, what it inherits from and implements, and those of its members,
extended attributes, type and arguments. -/
def names (definition : Definition) : List String :=
  definition.name :: (definition.parent.toList ++ (definition.implements.toList
    ++ (definition.members.flatMap Member.names ++ (Argument.attributesNames definition.attributes
    ++ (definition.type.toList.flatMap TypeExpr.names ++ Argument.listNames definition.arguments)))))

/-- Definitions that differ in names only. -/
structure SameShape (definition definition' : Definition) : Prop where
  kind : definition'.kind = definition.kind
  isPartial : definition'.isPartial = definition.isPartial
  parent : definition'.parent.isSome = definition.parent.isSome
  implements : definition'.implements.isSome = definition.implements.isSome
  members : List.Forall₂ Member.SameShape definition.members definition'.members
  values : definition'.values = definition.values
  attributes : List.Forall₂ Argument.AttributeSameShape definition.attributes definition'.attributes
  type : Option.Rel TypeExpr.SameShape definition.type definition'.type
  arguments : List.Forall₂ Argument.SameShape definition.arguments definition'.arguments

theorem names_mapNames (f : String → String) (d : Definition) : (d.mapNames f).names = d.names.map f := by
  have name (name : Option String) : (name.map f).toList = name.toList.map f := by cases name <;> rfl
  have members : (d.members.map (·.mapNames f)).flatMap Member.names = (d.members.flatMap Member.names).map f := by
    simp only [List.flatMap_map, Member.names_mapNames, List.map_flatMap]
  simp only [names, mapNames, List.map_cons, List.map_append, name, members, namesOf_mapNames,
    Argument.listNames_mapNames, Argument.attributesNames_mapNames]

theorem sameShape_mapNames (f : String → String) (d : Definition) : d.SameShape (d.mapNames f) where
  kind := rfl
  isPartial := rfl
  parent := Option.isSome_map
  implements := Option.isSome_map
  members := List.forall₂_map_right_iff.2 (List.forall₂_same.2 fun member _ => member.sameShape_mapNames f)
  values := rfl
  attributes := Argument.attributesSameShape_mapNames f d.attributes
  type := sameShapeOf_mapNames f d.type
  arguments := Argument.listSameShape_mapNames f d.arguments

theorem determined (d : Definition) : Determines names SameShape d := by
  intro b c more more' shape shape' listed
  simp only [names, List.cons_append, List.append_assoc, List.cons.injEq] at listed
  obtain ⟨name, listed⟩ := listed
  obtain ⟨parent, listed⟩ := determines_name d.parent shape.parent shape'.parent listed
  obtain ⟨implements, listed⟩ := determines_name d.implements shape.implements shape'.implements listed
  obtain ⟨members, listed⟩ :=
    Determines.list (fun member _ => member.determined) shape.members shape'.members listed
  obtain ⟨attributes, listed⟩ :=
    Argument.attributesDetermined d.attributes shape.attributes shape'.attributes listed
  obtain ⟨type, listed⟩ := determinedOf d.type shape.type shape'.type listed
  obtain ⟨arguments, listed⟩ := Argument.listDetermined d.arguments shape.arguments shape'.arguments listed
  refine ⟨?_, listed⟩
  obtain ⟨kind, isPartial, -, -, -, values, -, -, -⟩ := shape
  obtain ⟨kind', isPartial', -, -, -, values', -, -, -⟩ := shape'
  obtain ⟨⟩ := b
  obtain ⟨⟩ := c
  simp_all

/-- One definition only has the shape of `d` and the mapped names in the places of its names. -/
theorem eq_mapNames_iff {d d' : Definition} {f : String → String} :
    d' = d.mapNames f ↔ d'.names = d.names.map f ∧ d.SameShape d' := by
  constructor
  · rintro rfl
    exact ⟨d.names_mapNames f, d.sameShape_mapNames f⟩
  · rintro ⟨listed, shape⟩
    rw [← d.names_mapNames f, ← List.append_nil d'.names, ← List.append_nil (d.mapNames f).names] at listed
    exact (d.determined shape (d.sameShape_mapNames f) listed).1

/-- A map that leaves all names alone leaves the definition alone. -/
theorem mapNames_of_fixed {d : Definition} {f : String → String} (fixed : ∀ name ∈ d.names, f name = name) :
    d.mapNames f = d := by
  symm
  rw [eq_mapNames_iff]
  constructor
  · rw [List.map_congr_left fixed, List.map_id']
  · have shape := d.sameShape_mapNames fun name => name
    rwa [d.mapNames_id] at shape

end Definition

/-! ## Rules -/

/-- A rule whose pattern does not match a name leaves it alone. -/
theorem RenameRule.apply_of_not_match {rule : RenameRule} {name : String}
    (unmatched : rule.pattern.isMatch name = false) : rule.apply name = name := by
  have none : Pattern.search rule.pattern.program name.toList 0 = none := by
    simpa [Pattern.isMatch] using unmatched
  have no_match : Pattern.allMatches rule.pattern.program name.toList = [] := by
    rw [Pattern.allMatches, Pattern.searchAll, none]
  rw [apply, Pattern.replaceAll, no_match]
  show String.ofList (name.toList.drop 0) = name
  rw [List.drop_zero, String.ofList_toList]

/-- Renaming is a map over the names of a definition that keeps its shape.  A rule makes of a definition the
one of the same shape whose list of names is mapped name by name, and no other.  So a rule that matches none
of the names changes nothing, and several rules in order are one map, by one rule after the other. -/
theorem Definition.rename_exact (d : Definition) :
    (∀ rule d', d' = d.rename rule ↔ d'.names = d.names.map rule.apply ∧ d.SameShape d')
      ∧ (∀ rule, (∀ name ∈ d.names, rule.pattern.isMatch name = false) → d.rename rule = d)
      ∧ ∀ selection : Selection, selection.rename d = d.mapNames selection.renameName
        ∧ ∀ d', d' = selection.rename d ↔ d'.names = d.names.map selection.renameName ∧ d.SameShape d' := by
  refine ⟨fun rule d' => eq_mapNames_iff, fun rule unmatched => ?_, fun selection => ?_⟩
  · exact mapNames_of_fixed fun name inside => RenameRule.apply_of_not_match (unmatched name inside)
  · have once := selection.rename_eq d
    refine ⟨once, fun d' => ?_⟩
    rw [once]
    exact eq_mapNames_iff

/-- An enumeration with the letter D in its values and texts, and not in its names. -/
def letteredEnum : Definition :=
  { kind := .enum, name := "A", values := ["D"]
    attributes := [⟨"X", some (.string "D"),
      some [⟨"y", .sequence (.named "Z"), false, false, some ⟨.string, "D"⟩, []⟩]⟩] }

/-- Texts are not names, at any depth: a rule for the letter finds none of them. -/
theorem Definition.rename_exact_texts :
    letteredEnum.names = ["A", "X", "y", "Z"]
      ∧ (∀ name ∈ letteredEnum.names, letterRule.pattern.isMatch name = false)
      ∧ letteredEnum.rename letterRule = letteredEnum := by
  have unmatched : ∀ name ∈ letteredEnum.names, letterRule.pattern.isMatch name = false := by decide
  exact ⟨by decide, unmatched, (Definition.rename_exact letteredEnum).2.1 letterRule unmatched⟩

end IdlBindings
