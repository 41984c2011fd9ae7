/-
# IdlBindings.Registry.Merge: one definition for each name.

The fragments of a name are folded from the left.  Members and enumeration values are put one behind
the other; a definition is partial only if all its fragments are; everything else comes from the
first fragment, whatever the later ones say.
-/
import IdlBindings.Registry.Basic

namespace IdlBindings

/-- A definition with a further fragment added to it. -/
def Definition.absorb (definition fragment : Definition) : Definition :=
  { definition with
    isPartial := definition.isPartial && fragment.isPartial
    members := definition.members ++ fragment.members
    values := definition.values ++ fragment.values }

/-- The definition that the fragments of one name make up; none if there are none. -/
def Definition.merge? : List Definition → Option Definition
  | [] => none
  | first :: rest => some (rest.foldl Definition.absorb first)

/-- A name with several fragments where merging is off. -/
structure Unmergeable where
  name : String
  fragments : Nat
  deriving DecidableEq

/-- The wording of the refusal. -/
def Unmergeable.message (refusal : Unmergeable) : String :=
  "Found " ++ toString refusal.fragments ++ " definitions named " ++ refusal.name
    ++ ", but merging is disabled"

/-- One definition for each name.  Where merging is off, the first name with several fragments is
refused. -/
def Registry.merge (registry : Registry) (enabled : Bool) :
    Except Unmergeable (List Definition) :=
  match enabled, registry.duplicates with
  | false, (name, count) :: _ => .error ⟨name, count⟩
  | _, _ => .ok (registry.groups.filterMap fun group => Definition.merge? group.fragments)

end IdlBindings
