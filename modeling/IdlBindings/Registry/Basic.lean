/-
# IdlBindings.Registry.Basic: fragments grouped by name.

A registry keeps every fragment of every definition.  It has two parts: the names in the order in which
they were first seen, and a map from names to fragments, which has no order.  A name is added to the
first part when the second does not have it yet, and groups are taken out of the map along the names.
That the two parts stay in step is nowhere checked.

The map is given by what it finds under each name.  How it stores its keys is left out: no operation goes
through a map.
-/
import IdlBindings.Schema.Basic

namespace IdlBindings

/-- The fragments of one name. -/
structure Group where
  name : String
  fragments : List Definition

/-! ## Maps -/

/-- A map from names to fragments: what it finds under each name. -/
structure FragmentMap where
  get? : String → Option (List Definition)

namespace FragmentMap

/-- The map without keys. -/
def empty : FragmentMap := ⟨fun _ => none⟩

/-- Whether a name is a key. -/
def containsKey (map : FragmentMap) (name : String) : Bool :=
  (map.get? name).isSome

/-- The map with something else under a name. -/
def set (map : FragmentMap) (name : String) (found : Option (List Definition)) : FragmentMap :=
  ⟨fun other => if other = name then found else map.get? other⟩

/-- Adds a fragment behind those of its name, of which there may be none. -/
def push (map : FragmentMap) (definition : Definition) : FragmentMap :=
  map.set definition.name (some ((map.get? definition.name).getD [] ++ [definition]))

/-- Takes a name out. -/
def remove (map : FragmentMap) (name : String) : FragmentMap :=
  map.set name none

/-- How many fragments a name has; none if it is no key. -/
def count (map : FragmentMap) (name : String) : Nat :=
  ((map.get? name).map List.length).getD 0

/-- Takes out the groups of names, one after the other.  A name that is no key has an empty group. -/
def takeGroups : List String → FragmentMap → List Group
  | [], _ => []
  | name :: names, map => ⟨name, (map.get? name).getD []⟩ :: takeGroups names (map.remove name)

end FragmentMap

/-! ## Registries -/

/-- The names in the order of their first fragments, and the fragments of each name. -/
structure Registry where
  order : List String
  fragments : FragmentMap

namespace Registry

/-- No fragments. -/
def empty : Registry := ⟨[], .empty⟩

/-- Adds a fragment to the group of its name.  A new name comes last. -/
def insert (registry : Registry) (definition : Definition) : Registry where
  order :=
    if registry.fragments.containsKey definition.name then registry.order
    else registry.order ++ [definition.name]
  fragments := registry.fragments.push definition

/-- Adds fragments one after the other. -/
def insertAll (registry : Registry) (definitions : List Definition) : Registry :=
  definitions.foldl insert registry

/-- The registry of a list of fragments. -/
def ofList (definitions : List Definition) : Registry :=
  empty.insertAll definitions

/-- The groups, in the order of the names.  Each is taken out of the map. -/
def groups (registry : Registry) : List Group :=
  FragmentMap.takeGroups registry.order registry.fragments

/-- All fragments, group by group. -/
def toList (registry : Registry) : List Definition :=
  registry.groups.flatMap (·.fragments)

/-- Adds all fragments of another registry, group by group. -/
def extend (registry other : Registry) : Registry :=
  registry.insertAll other.toList

/-- The fragments of a name. -/
def get? (registry : Registry) (name : String) : Option (List Definition) :=
  registry.fragments.get? name

/-- The names, in the order of their first fragments. -/
def names (registry : Registry) : List String :=
  registry.order

/-- The number of names. -/
def size (registry : Registry) : Nat :=
  registry.order.length

/-- How many fragments each name has. -/
def counts (registry : Registry) : List (String × Nat) :=
  registry.order.map fun name => (name, registry.fragments.count name)

/-- The names with more than one fragment, with their numbers. -/
def duplicates (registry : Registry) : List (String × Nat) :=
  registry.order.filterMap fun name =>
    let count := registry.fragments.count name
    if count > 1 then some (name, count) else none

end Registry

end IdlBindings
