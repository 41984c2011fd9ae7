/-
# IdlBindings.Proofs.PrintedTypes: the interface language spells types as they are written.

Types of the interface language are put into text in two ways: by the table of the target `idl`, as for
every other target, and by the printer of schemas.  The table has one form for sequences and arrays.  So it
gives what the printer gives for the type in which every array constructor on one type is a sequence, and a
reader of that text finds this other type.
-/
import IdlBindings.Proofs.ReadBack
import IdlBindings.Proofs.UnionArity

namespace IdlBindings

open Token (isIdentifier)

/-! ## Arrays as sequences -/

namespace TypeExpr

/-- A type constructor applied to types; if it is one for arrays and there is one type, a sequence. -/
def sequenceOrGeneric (name : String) : List TypeExpr → TypeExpr
  | [element] =>
    if name = "FrozenArray" ∨ name = "ObservableArray" ∨ name = "Array" then sequence element
    else generic name [element]
  | arguments => generic name arguments

mutual
/-- The type with sequences for arrays, at every depth. -/
def withSequences : TypeExpr → TypeExpr
  | named name => named name
  | sequence element => sequence (withSequences element)
  | nullable inner => nullable (withSequences inner)
  | union members => union (withSequencesList members)
  | generic name arguments => sequenceOrGeneric name (withSequencesList arguments)
/-- The same for several types. -/
def withSequencesList : List TypeExpr → List TypeExpr
  | [] => []
  | t :: rest => withSequences t :: withSequencesList rest
end

theorem contains_arrayConstructors {name : String} : arrayConstructors.contains name = true
    ↔ name = "FrozenArray" ∨ name = "ObservableArray" ∨ name = "Array" := by
  simp [arrayConstructors]

theorem sequenceOrGeneric_cases (name : String) (arguments : List TypeExpr) :
    (∃ element, arguments = [element] ∧ arrayConstructors.contains name = true
        ∧ sequenceOrGeneric name arguments = sequence element)
      ∨ ((∀ element, arguments = [element] → arrayConstructors.contains name = false)
        ∧ sequenceOrGeneric name arguments = generic name arguments) := by
  unfold sequenceOrGeneric
  split
  next element =>
    split
    next array => exact .inl ⟨element, rfl, contains_arrayConstructors.2 array, rfl⟩
    next other =>
      exact .inr ⟨fun _ _ => by rwa [← contains_arrayConstructors, Bool.not_eq_true] at other, rfl⟩
  next several => exact .inr ⟨fun element one => absurd one (several element), rfl⟩

/-! ## What stays the same -/

/-- The outermost level keeps what the grammar looks at. -/
theorem outermost_withSequences (t : TypeExpr) :
    t.withSequences.isNullable = t.isNullable ∧ t.withSequences.takesLong = t.takesLong := by
  cases t with
  | generic name arguments =>
    rw [withSequences]
    rcases sequenceOrGeneric_cases name (withSequencesList arguments) with ⟨_, -, -, same⟩ | ⟨-, same⟩
    · rw [same]
      exact ⟨rfl, rfl⟩
    · rw [same]
      exact ⟨rfl, rfl⟩
  | _ => exact ⟨rfl, rfl⟩

theorem isWellFormed_sequenceOrGeneric (name : String) (arguments : List TypeExpr) :
    (sequenceOrGeneric name arguments).isWellFormed = (generic name arguments).isWellFormed := by
  rcases sequenceOrGeneric_cases name arguments with ⟨element, rfl, array, same⟩ | ⟨-, same⟩
  · -- The array constructors are names of types, and none of them is `sequence`.
    have known : isTypeName name = true ∧ (name != "sequence") = true := by
      rcases contains_arrayConstructors.1 array with rfl | rfl | rfl <;> decide
    rw [same]
    simp [isWellFormed, areWellFormed, known]
  · rw [same]

theorem isEmpty_withSequencesList (ts : List TypeExpr) : (withSequencesList ts).isEmpty = ts.isEmpty := by
  cases ts <;> rfl

mutual
theorem isWellFormed_withSequences : ∀ t : TypeExpr, t.withSequences.isWellFormed = t.isWellFormed
  | named name => by rw [withSequences]
  | sequence element => by
    rw [withSequences, isWellFormed, isWellFormed, isWellFormed_withSequences element]
  | nullable inner => by
    rw [withSequences, isWellFormed, isWellFormed, isWellFormed_withSequences inner,
      (outermost_withSequences inner).1]
  | union members => by
    rw [withSequences, isWellFormed, isWellFormed, areWellFormed_withSequences members,
      isEmpty_withSequencesList]
  | generic name arguments => by
    rw [withSequences, isWellFormed_sequenceOrGeneric, isWellFormed, isWellFormed,
      areWellFormed_withSequences arguments, isEmpty_withSequencesList]
theorem areWellFormed_withSequences :
    ∀ ts : List TypeExpr, areWellFormed (withSequencesList ts) = areWellFormed ts
  | [] => by rw [withSequencesList]
  | t :: rest => by
    rw [withSequencesList, areWellFormed, areWellFormed, isWellFormed_withSequences t,
      areWellFormed_withSequences rest]
end

end TypeExpr

/-! ## The table and the printer -/

namespace TypeSpelling

open TypeExpr (withSequences withSequencesList sequenceOrGeneric_cases)

theorem printList_eq_singleton {ts : List TypeExpr} {text : String} (h : TypeExpr.printList ts = [text]) :
    ∃ t, ts = [t] ∧ t.print = text := by
  match ts, h with
  | [t], h => exact ⟨t, rfl, (List.cons.inj h).1⟩

/-- Once the arguments of a type constructor are spelled, the table writes a sequence where the printer is
given one. -/
theorem idl_generic (name : String) (ts : List TypeExpr) :
    (match TypeExpr.arrayConstructors.contains name, TypeExpr.printList ts with
      | true, [element] => pure (idl.sequence.wrap element)
      | _, arguments => pure (idl.nameOf name ++ idl.generic.wrap arguments) : Except MappingFault String)
      = .ok (TypeExpr.sequenceOrGeneric name ts).print := by
  rcases sequenceOrGeneric_cases name ts with ⟨element, rfl, array, same⟩ | ⟨other, same⟩
  · rw [same, array, TypeExpr.print]
    rfl
  · rw [same, TypeExpr.print]
    split
    next element array one =>
      -- One text is the text of one type, which the constructor would have made a sequence of.
      obtain ⟨t, rfl, -⟩ := printList_eq_singleton one
      rw [other t rfl] at array
      cases array
    next => simp [idl, nameOf, Listing.wrap, pure, Except.pure, String.append_assoc]

mutual
theorem spell_idl : ∀ t : TypeExpr, t.IsBinary → idl.spell t = .ok t.withSequences.print
  | .named name, _ => rfl
  | .sequence element, binary => by
    rw [spell, spell_idl element (binary.component (List.mem_singleton_self _)), withSequences, TypeExpr.print]
    rfl
  | .nullable inner, binary => by
    rw [spell, spell_idl inner (binary.component (List.mem_singleton_self _)), withSequences, TypeExpr.print]
    simp [idl, Wrapper.wrap, bind, Except.bind, pure, Except.pure]
  | .union [first, second], binary => by
    have first_binary : first.IsBinary := binary.component (List.mem_cons_self ..)
    have second_binary : second.IsBinary := binary.component (by simp [TypeExpr.components])
    rw [spell, spell_idl first first_binary, spell_idl second second_binary, withSequences, TypeExpr.print]
    rfl
  | .union [], binary | .union [_], binary | .union (_ :: _ :: _ :: _), binary =>
    absurd (binary _ .here) (by simp)
  | .generic name arguments, binary => by
    rw [spell, spellList_idl arguments fun t listed => binary.component listed, withSequences]
    exact idl_generic name (withSequencesList arguments)
theorem spellList_idl : ∀ ts : List TypeExpr, (∀ t ∈ ts, t.IsBinary) →
    idl.spellList ts = .ok (TypeExpr.printList (withSequencesList ts))
  | [], _ => rfl
  | t :: rest, binary => by
    rw [List.forall_mem_cons] at binary
    rw [spellList, spell_idl t binary.1, spellList_idl rest binary.2, withSequencesList, TypeExpr.printList]
    rfl
end

end TypeSpelling

/-! ## Reading the type again -/

/-- The definition of a name for a type. -/
def Definition.aliasOf (name : String) (t : TypeExpr) : Definition :=
  { kind := .typedef, name, type := some t }

theorem Definition.print_aliasOf (name : String) (t : TypeExpr) :
    (aliasOf name t).print = "typedef " ++ t.print ++ " " ++ name ++ ";" := by
  simp [aliasOf, print, printBody, Argument.printAttributes, bracketed, wordIf]

theorem Definition.isPrintable_aliasOf {name : String} {t : TypeExpr} : (aliasOf name t).isPrintable = true
    ↔ isIdentifier name = true ∧ t.isWellFormed = true ∧ (t.takesLong = false ∨ name ≠ "long") := by
  simp [isPrintable_iff, aliasOf, isWellFormed, shown, isUnambiguous, Argument.attributesWellFormed,
    Argument.areWellFormed, Argument.attributesUnambiguous, Argument.areUnambiguous, and_assoc]

/-- One definition alone is read back exactly if it is printable. -/
theorem Schema.parse_print_one (d : Definition) : Schema.parse d.print = .ok [d] ↔ d.isPrintable = true := by
  have spells : d.isWellFormed = true → Token.Spells d.print.toList ([d].flatMap Definition.tokens) := by
    intro wf
    simpa using Definition.spells wf .nil
  constructor
  · intro read
    have wf : d.isWellFormed = true := Schema.parse_shape read d (List.mem_singleton_self d)
    exact Schema.printable_of_parse (spells wf) read d (List.mem_singleton_self d)
  · intro printable
    exact Schema.parse_of_spells (by simpa using printable) (spells (Definition.isPrintable_iff.1 printable).1)

/-- A type whose unions are all of two types is spelled as the type with sequences for arrays is written.
Under every name the text is read as this type exactly if the type and the name can be written and the name
is not taken for the second word of `long long`. -/
theorem TypeSpelling.idl_spells_printed {t : TypeExpr} (binary : t.IsBinary) :
    ∃ text, idl.spell t = .ok text ∧ text = t.withSequences.print
      ∧ ∀ name, Schema.parse ("typedef " ++ text ++ " " ++ name ++ ";") = .ok [.aliasOf name t.withSequences]
        ↔ isIdentifier name = true ∧ t.isWellFormed = true ∧ (t.takesLong = false ∨ name ≠ "long") := by
  refine ⟨_, spell_idl t binary, rfl, fun name => ?_⟩
  rw [← Definition.print_aliasOf, Schema.parse_print_one, Definition.isPrintable_aliasOf,
    TypeExpr.isWellFormed_withSequences, (TypeExpr.outermost_withSequences t).2]

/-- Arrays below a union, one of them with two types. -/
def TypeExpr.arraysInUnion : TypeExpr :=
  nullable (generic "Promise" [union
    [generic "FrozenArray" [generic "Array" [named "unsigned long"]], generic "Array" [named "A", named "B"]]])

theorem TypeSpelling.idl_spells_printed_arrays :
    TypeExpr.arraysInUnion.IsBinary
      ∧ idl.spell TypeExpr.arraysInUnion
        = .ok "Promise<(sequence<sequence<unsigned long>> or Array<A, B>)>?"
      ∧ Schema.parse "typedef Promise<(sequence<sequence<unsigned long>> or Array<A, B>)>? T;"
        = .ok [.aliasOf "T" TypeExpr.arraysInUnion.withSequences] := by
  have binary : TypeExpr.arraysInUnion.IsBinary := by decide
  obtain ⟨text, spelled, rfl, reads⟩ := idl_spells_printed binary
  exact ⟨binary, spelled, (reads "T").2 ⟨by decide, by decide, .inr (by decide)⟩⟩

end IdlBindings
