/-
# IdlBindings.Run.Generate: from documents to files.

All documents are fetched before any is read.  Their definitions are collected, merged and rendered,
and nothing is written before all of it is rendered.

Files are on a disk and remote documents come from a network, both of which a run is given.  Nothing is
said of the way an answer came about: redirections, time limits and encodings are the network's affair.
Requests are made one after another, so what they all give is settled before the first document is read;
a network that answers by the order of requests covers every way to make them at the same time.
-/
import IdlBindings.Files.Disk
import IdlBindings.Report.Basic
import IdlBindings.Target.Render

namespace IdlBindings

/-- What is rendered for a collection. -/
structure Rendering where
  definitions : List Definition
  files : List SourceFile

/-- Merges and renders what was collected. -/
def Collection.render (collection : Collection) (settings : Settings) (target : Target) :
    Except RunFault Rendering := do
  let definitions ← (collection.registry.merge settings.merge).mapError RunFault.unmergeable
  let files ← (target.render definitions settings.options).mapError RunFault.mapping
  pure ⟨definitions, files⟩

/-- The files of a rendering with their paths below the output directory. -/
def Rendering.outputs (rendering : Rendering) (settings : Settings) : List (String × String) :=
  rendering.files.map fun file => (Path.join settings.out file.path, file.contents)

/-- A failed write as a fault of a run. -/
def RunFault.ofWrite (failure : WriteFault) : RunFault :=
  .write failure.path failure.fault.message

section

variable {m : Type → Type} [Monad m]

/-- Fetches a document, from the disk or from the network. -/
def fetch (disk : Disk m) (network : Network m) (locator : Locator) : m (Except FetchFault Document) := do
  match locator with
  | .localPath path =>
    match ← disk.read path with
    | .ok contents => pure (.ok ⟨locator, contents⟩)
    | .error fault => pure (.error (.io fault.message))
  | .remote url =>
    match (← network.get url).text with
    | .ok contents => pure (.ok ⟨locator, contents⟩)
    | .error fault => pure (.error fault)

/-- Fetches documents, each with where it is. -/
def fetchAll (disk : Disk m) (network : Network m) :
    List Locator → m (List (Locator × Except FetchFault Document))
  | [] => pure []
  | locator :: rest => do
    let document ← fetch disk network locator
    let others ← fetchAll disk network rest
    pure ((locator, document) :: others)

/-- Writes the files of a rendering. -/
def writeRendering (disk : Disk m) (settings : Settings) (rendering : Rendering) :
    m (Except RunFault (List String)) := do
  match ← disk.writeAll [] (rendering.outputs settings) with
  | .ok written => pure (.ok written)
  | .error failure => pure (.error (RunFault.ofWrite failure))

/-- Generates bindings from documents. -/
def generate (disk : Disk m) (settings : Settings) (target : Target) (locators : List Locator)
    (network : Network m := .offline) : m (Except RunFault RunResult) := do
  match locators with
  | [] => pure (.error .noInputs)
  | locators =>
    let fetched ← fetchAll disk network locators
    match Collection.collect settings fetched with
    | .error fault => pure (.error fault)
    | .ok collection =>
      match collection.render settings target with
      | .error fault => pure (.error fault)
      | .ok rendering =>
        match ← writeRendering disk settings rendering with
        | .error fault => pure (.error fault)
        | .ok files =>
          pure (.ok {
            target
            sources := locators.map Locator.display
            definitions := rendering.definitions
            fragmentCounts := collection.registry.counts
            dropped := collection.dropped
            warnings := collection.warnings
            files })

end

end IdlBindings
