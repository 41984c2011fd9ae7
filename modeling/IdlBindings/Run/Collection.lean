/-
# IdlBindings.Run.Collection: the fragments of many documents.

Documents are read in order.  What cannot be read becomes a warning, or ends the collection if the
settings say so.  What is read is selected, renamed and put into a registry.
-/
import IdlBindings.Run.Document
import IdlBindings.Settings.Basic

namespace IdlBindings

/-- A definition that was not kept. -/
structure Dropped where
  name : String
  reason : DropReason
  deriving DecidableEq

/-- What a warning is about. -/
inductive WarningKind where
  | unparsableDocument
  | unparsableMarkup
  | unreachableDocument
  deriving DecidableEq

/-- A fault that did not end the run. -/
structure Warning where
  message : String
  document : Option String
  /-- The schema text that could not be read. -/
  unparsed : Option String
  kind : WarningKind
  deriving DecidableEq

/-- The warning of a fault that a run can go on without. -/
def Warning.ofFault? (fault : RunFault) (unparsed : Option String) : Option Warning :=
  match fault with
  | .parse document _ => some ⟨fault.message, some document, unparsed, .unparsableDocument⟩
  | .markup document _ => some ⟨fault.message, some document, unparsed, .unparsableMarkup⟩
  | .fetch document _ => some ⟨fault.message, some document, unparsed, .unreachableDocument⟩
  | _ => none

/-- What has been collected. -/
structure Collection where
  registry : Registry := .empty
  dropped : List Dropped := []
  warnings : List Warning := []

namespace Collection

/-- Notes a fault as a warning, or fails with it. -/
def recover (bail : Bool) (collection : Collection) (fault : RunFault)
    (unparsed : Option String) : Except RunFault Collection :=
  match bail, Warning.ofFault? fault unparsed with
  | false, some warning =>
    .ok { collection with warnings := collection.warnings ++ [warning] }
  | _, _ => .error fault

/-- Adds a definition, unless it is dropped. -/
def add (selection : Selection) (collection : Collection) (definition : Definition) :
    Collection :=
  match selection.select definition with
  | .kept definition => { collection with registry := collection.registry.insert definition }
  | .dropped name reason => { collection with dropped := collection.dropped ++ [⟨name, reason⟩] }

/-- Adds what was read of a fragment. -/
def addFragment (settings : Settings) (collection : Collection)
    (fragment : Except FragmentFailure (List Definition)) : Except RunFault Collection :=
  match fragment with
  | .ok definitions => .ok (definitions.foldl (add settings.selection) collection)
  | .error failure => collection.recover settings.bail failure.fault failure.unparsed

/-- Adds what was fetched from a place. -/
def addDocument (settings : Settings) (collection : Collection)
    (fetched : Locator × Except FetchFault Document) : Except RunFault Collection :=
  match fetched with
  | (_, .ok document) => document.read.foldlM (addFragment settings) collection
  | (locator, .error fault) => collection.recover settings.bail (.fetch locator.display fault) none

/-- Collects documents in order. -/
def collect (settings : Settings) (fetched : List (Locator × Except FetchFault Document)) :
    Except RunFault Collection :=
  fetched.foldlM (addDocument settings) {}

end Collection

end IdlBindings
