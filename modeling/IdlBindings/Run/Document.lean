/-
# IdlBindings.Run.Document: where documents come from, what they hold and what can go wrong with them.
-/
import IdlBindings.Grammar.Definitions
import IdlBindings.Markup.Fragment
import IdlBindings.Registry.Merge
import IdlBindings.Target.TypeSpelling

namespace IdlBindings

/-! ## Locators and documents -/

/-- Where a document is. -/
inductive Locator where
  | localPath (path : String)
  | remote (url : String)
  deriving DecidableEq

namespace Locator

/-- A locator as given by a user: a web address or a path. -/
def ofString (text : String) : Locator :=
  if "http://".toList.isPrefixOf text.toList || "https://".toList.isPrefixOf text.toList then
    remote text
  else
    localPath text

/-- How a locator is shown. -/
def display : Locator → String
  | localPath path => path
  | remote url => url

end Locator

/-- A document with its text. -/
structure Document where
  locator : Locator
  contents : String

/-- Why a document could not be had. -/
inductive FetchFault where
  /-- The operating system's words. -/
  | io (message : String)
  /-- The words of the client that asked a server. -/
  | http (message : String)
  /-- The status of a server's answer. -/
  | status (code : Nat)
  | interrupted (message : String)
  deriving DecidableEq

/-- The wording of a fault. -/
def FetchFault.message : FetchFault → String
  | io message | http message => message
  | status code => "server responded with status " ++ toString code
  | interrupted message => "fetch task failed: " ++ message

/-! ## Networks -/

/-- What a request comes to. -/
inductive Answer where
  /-- A server's answer: its status, and its text or why that could not be had. -/
  | response (status : Nat) (text : Except String String)
  /-- There was no answer, in the words of the client. -/
  | failure (message : String)
  /-- The request was broken off. -/
  | interrupted (message : String)

/-- The text of an answer.  A status from 200 to 299 stands for success, and with any other the text does
not count. -/
def Answer.text : Answer → Except FetchFault String
  | response status text =>
    if 200 ≤ status ∧ status < 300 then text.mapError .http else .error (.status status)
  | failure message => .error (.http message)
  | interrupted message => .error (.interrupted message)

/-- Where requests are answered. -/
structure Network (m : Type → Type) where
  get : String → m Answer

/-- No network: every request fails. -/
def Network.offline {m : Type → Type} [Monad m] : Network m where
  get url := pure (.failure ("error sending request for url (" ++ url ++ ")"))

/-! ## What can go wrong in a run -/

/-- Why a run failed, or a part of it. -/
inductive RunFault where
  | parse (document : String) (error : ParseError)
  | markup (document : String) (fault : Markup.MarkupFault)
  | fetch (document : String) (fault : FetchFault)
  | unmergeable (refusal : Unmergeable)
  | mapping (fault : MappingFault)
  | write (path : String) (message : String)
  | noInputs
  deriving DecidableEq

namespace RunFault

/-- The wording of a fault. -/
def message : RunFault → String
  | parse document error => "Unable to parse IDL in " ++ document ++ ": " ++ error.message
  | markup document fault =>
    "Unable to extract IDL from markup in " ++ document ++ ": " ++ fault.message
  | fetch document fault => "Unable to source " ++ document ++ ": " ++ fault.message
  | unmergeable refusal => refusal.message
  | mapping fault => fault.message
  | write path message => "Failed to write " ++ path ++ ": " ++ message
  | noInputs => "No input documents were given"

/-- Whether a run can go on without what failed: the faults of single documents. -/
def isRecoverable : RunFault → Bool
  | parse _ _ | markup _ _ | fetch _ _ => true
  | unmergeable _ | mapping _ | write _ _ | noInputs => false

end RunFault

/-! ## The definitions of a document -/

/-- A fragment that could not be read, with its text if there was one. -/
structure FragmentFailure where
  fault : RunFault
  unparsed : Option String

/-- Reads a schema text of a document. -/
def readFragment (document text : String) : Except FragmentFailure (List Definition) :=
  match Schema.parse text with
  | .ok definitions => .ok definitions
  | .error error => .error ⟨.parse document error, some text⟩

namespace Document

/-- Whether a document is markup. -/
def isMarkup (document : Document) : Bool :=
  Markup.isMarkup document.locator.display document.contents

/-- The fragments of a document: one for a schema, one for each element for markup. -/
def read (document : Document) : List (Except FragmentFailure (List Definition)) :=
  let name := document.locator.display
  if document.isMarkup then
    (Markup.fragments document.contents).map fun fragment =>
      match fragment with
      | .ok text => readFragment name text
      | .error fault => .error ⟨.markup name fault, none⟩
  else
    [readFragment name document.contents]

end Document

end IdlBindings
