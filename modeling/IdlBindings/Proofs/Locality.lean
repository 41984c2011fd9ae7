/-
# IdlBindings.Proofs.Locality: what the rendering of one definition takes from the others.

C++ and Flow render a definition in the context of a whole schema.  They ask the schema for two things only:
for the literals of defaults, and for which of the names that the definition mentions are declared.  So two
schemas that answer alike give renderings that are alike.  What alike means is left open: `Likeness` is any
way of comparing results that goes along with the steps of a function.
-/
import IdlBindings.Target.Render

namespace IdlBindings

/-! ## Results that are alike -/

/-- A way of comparing results: a result is like itself, and steps that are alike lead to results that are
alike. -/
structure Likeness where
  Like : {α : Type} → Except MappingFault α → Except MappingFault α → Prop
  same : ∀ {α : Type} (x : Except MappingFault α), Like x x
  bind : ∀ {α β : Type} {x x' : Except MappingFault α} {f f' : α → Except MappingFault β},
    Like x x' → (∀ a, Like (f a) (f' a)) → Like (x >>= f) (x' >>= f')

namespace Likeness

/-- Results are alike if they are equal. -/
def equality : Likeness where
  Like x x' := x = x'
  same _ := rfl
  bind := by
    rintro _ _ _ _ f f' rfl each
    rw [funext each]

variable (like : Likeness) {α β : Type} {x x' : Except MappingFault α}

theorem map (g : α → β) (first : like.Like x x') :
    like.Like (x >>= fun a => pure (g a)) (x' >>= fun a => pure (g a)) :=
  like.bind first fun _ => like.same _

theorem mapM {f f' : α → Except MappingFault β} {as : List α} (each : ∀ a ∈ as, like.Like (f a) (f' a)) :
    like.Like (as.mapM f) (as.mapM f') := by
  induction as with
  | nil => exact like.same _
  | cons a as ih =>
    rw [List.forall_mem_cons] at each
    rw [List.mapM_cons, List.mapM_cons]
    exact like.bind each.1 fun b => like.map (b :: ·) (ih each.2)

end Likeness

/-! ## Two schemas -/

/-- A context with another schema. -/
def RenderContext.within (context : RenderContext) (schema : List Definition) : RenderContext :=
  { context with schema }

/-- Arguments whose defaults come out alike in a context and with another schema. -/
def ArgumentsAlike (like : Likeness) (context : RenderContext) (schema : List Definition)
    (arguments : List Argument) : Prop :=
  ∀ argument ∈ arguments,
    like.Like (context.argumentDefault argument) ((context.within schema).argumentDefault argument)

/-- A member whose defaults come out alike. -/
structure MemberAlike (like : Likeness) (context : RenderContext) (schema : List Definition)
    (member : Member) : Prop where
  value : like.Like (context.memberDefault member) ((context.within schema).memberDefault member)
  arguments : ArgumentsAlike like context schema member.arguments

/-- A definition for which a context and the one with another schema have like answers. -/
structure DefinitionAlike (like : Likeness) (context : RenderContext) (schema : List Definition)
    (definition : Definition) : Prop where
  userTypes : (context.within schema).userTypes definition = context.userTypes definition
  arguments : ArgumentsAlike like context schema definition.arguments
  members : ∀ member ∈ definition.members, MemberAlike like context schema member

variable {like : Likeness} {context : RenderContext} {schema : List Definition}

namespace RenderContext

theorem like_parameter {argument : Argument}
    (value : like.Like (context.argumentDefault argument) ((context.within schema).argumentDefault argument)) :
    like.Like (context.parameter argument) ((context.within schema).parameter argument) :=
  like.bind value fun _ => like.same _

theorem like_parameters {arguments : List Argument} (alike : ArgumentsAlike like context schema arguments) :
    like.Like (context.parameters arguments) ((context.within schema).parameters arguments) :=
  like.mapM fun argument inside => like_parameter (alike argument inside)

/-- A member that is left out is only looked at. -/
theorem like_checkMember {member : Member} (alike : MemberAlike like context schema member) :
    like.Like
      (do context.checkMember member fun arguments => do
            let _ ← context.parameters arguments
            pure ()
          pure "")
      (do (context.within schema).checkMember member fun arguments => do
            let _ ← (context.within schema).parameters arguments
            pure ()
          pure "") := by
  have checked := like.map (fun _ => ()) (like_parameters alike.arguments)
  unfold checkMember
  refine like.map _ (like.bind (like.same _) fun _ => ?_)
  cases member.keyType with
  | none => exact checked
  | some key => exact like.bind (like.same _) fun _ => checked

end RenderContext

/-! ## C++ -/

namespace Cpp

theorem like_initializer {member : Member} (alike : MemberAlike like context schema member) :
    like.Like (initializer context member) (initializer (context.within schema) member) :=
  like.bind alike.value fun _ => like.same _

theorem like_dictionaryFunctions {definition : Definition}
    (alike : ∀ member ∈ definition.members, MemberAlike like context schema member) :
    like.Like (dictionaryFunctions context definition)
      (dictionaryFunctions (context.within schema) definition) := by
  -- Parameters and readers are made from types alone.
  refine like.bind (like.same _) fun parameters => like.bind ?_ fun initializers => like.same _
  exact like.mapM fun member inside => like.map _ (like_initializer (alike member inside))

theorem like_declaredParameters {arguments : List Argument}
    (alike : ArgumentsAlike like context schema arguments) :
    like.Like (declaredParameters context arguments) (declaredParameters (context.within schema) arguments) :=
  like.map _ (context.like_parameters alike)

theorem like_memberLines (definition : Definition) {member : Member}
    (alike : MemberAlike like context schema member) :
    like.Like (memberLines context definition member) (memberLines (context.within schema) definition member) := by
  unfold memberLines
  cases member.kind with
  | const => exact like.bind alike.value fun value => like.same _
  | property => exact like.same _
  | operation =>
    cases member.name.isEmpty with
    | true => exact context.like_checkMember alike
    | false =>
      exact like.bind (like.same _) fun returned =>
        like.bind (like_declaredParameters alike.arguments) fun parameters => like.same _
  | constructor => exact like.map _ (like_declaredParameters alike.arguments)
  | field | iterable | maplike | setlike | stringifier => exact context.like_checkMember alike

theorem like_declaration {definition : Definition} (alike : DefinitionAlike like context schema definition) :
    like.Like (declaration context definition) (declaration (context.within schema) definition) := by
  unfold declaration
  cases definition.kind with
  | enum | typedef | dictionary => exact like.same _
  | callback =>
    exact like.bind (like.same _) fun returned => like.map _ (context.like_parameters alike.arguments)
  | interface | callbackInterface =>
    exact like.map _ (like.mapM fun member inside => like_memberLines definition (alike.members member inside))

theorem like_header {definition : Definition} (alike : DefinitionAlike like context schema definition) :
    like.Like (header context definition) (header (context.within schema) definition) := by
  unfold header
  rw [alike.userTypes]
  exact like.map _ (like_declaration alike)

theorem like_source {definition : Definition} (alike : DefinitionAlike like context schema definition) :
    like.Like (source context definition) (source (context.within schema) definition) := by
  unfold source
  dsimp only
  split
  · exact like.map _ (like_dictionaryFunctions alike.members)
  · exact like.same _

theorem like_definitionFiles {definition : Definition} (alike : DefinitionAlike like context schema definition) :
    like.Like (definitionFiles context definition) (definitionFiles (context.within schema) definition) :=
  like.bind (like_header alike) fun _ => like.map _ (like_source alike)

end Cpp

/-! ## Flow -/

namespace Flow

theorem like_parameterList {arguments : List Argument}
    (alike : ArgumentsAlike like context schema arguments) :
    like.Like (parameterList context arguments) (parameterList (context.within schema) arguments) :=
  like.map _ (like.mapM fun argument inside => like.map _ (context.like_parameter (alike argument inside)))

theorem like_fieldLine {member : Member} (alike : MemberAlike like context schema member) :
    like.Like (fieldLine context member) (fieldLine (context.within schema) member) :=
  like.bind alike.value fun _ => like.same _

theorem like_memberLine {member : Member} (alike : MemberAlike like context schema member) :
    like.Like (memberLine context member) (memberLine (context.within schema) member) := by
  unfold memberLine
  cases member.kind with
  | property | const => exact like.bind alike.value fun value => like.same _
  | operation =>
    cases member.name.isEmpty with
    | true => exact context.like_checkMember alike
    | false => exact like.bind (like_parameterList alike.arguments) fun parameters => like.same _
  | constructor => exact like.map _ (like_parameterList alike.arguments)
  | stringifier => exact like.same _
  | field | iterable | maplike | setlike => exact context.like_checkMember alike

theorem like_declaration {definition : Definition} (alike : DefinitionAlike like context schema definition) :
    like.Like (declaration context definition) (declaration (context.within schema) definition) := by
  unfold declaration
  cases definition.kind with
  | enum | typedef => exact like.same _
  | callback =>
    exact like.bind (like.same _) fun returned => like.map _ (like_parameterList alike.arguments)
  | dictionary =>
    exact like.map _ (like.mapM fun member inside => like_fieldLine (alike.members member inside))
  | interface | callbackInterface =>
    exact like.map _ (like.mapM fun member inside => like_memberLine (alike.members member inside))

theorem like_definitionFile {definition : Definition} (alike : DefinitionAlike like context schema definition) :
    like.Like (definitionFile context definition) (definitionFile (context.within schema) definition) := by
  unfold definitionFile module
  rw [alike.userTypes]
  exact like.map _ (like.map _ (like_declaration alike))

end Flow

end IdlBindings
