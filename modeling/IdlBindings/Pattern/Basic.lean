/-
# IdlBindings.Pattern.Basic: patterns over names.

A pattern is compiled once and then asked whether it matches somewhere in a text, or used to replace
every match.
-/
import IdlBindings.Pattern.Flags
import IdlBindings.Pattern.Reader
import IdlBindings.Pattern.Search
import IdlBindings.Pattern.Size
import IdlBindings.Pattern.Template

namespace IdlBindings

/-- A compiled pattern with its text. -/
structure Pattern where
  source : String
  program : Pattern.Program
  names : List (String × Nat)

namespace Pattern

/-- Compiles a pattern; nothing if it is not valid or too large. -/
def compile? (source : String) : Option Pattern := do
  let (expr, names) ← read? source
  let regex ← Regex.ofExpr? expr
  if regex.isAccepted then some ⟨source, Program.ofRegex regex, names⟩ else none

/-- Whether the pattern matches somewhere in a text. -/
def isMatch (pattern : Pattern) (text : String) : Bool :=
  (search pattern.program text.toList 0).isSome

/-- The text with the replacement put in for each match, the rest taken over from `offset` on. -/
def substitute (text : List Char) (replace : Match → List Char) (offset : Nat) :
    List Match → List Char
  | [] => text.drop offset
  | found :: rest =>
    (text.drop offset).take (found.start - offset) ++ replace found
      ++ substitute text replace found.stop rest

/-- The text with every match replaced. -/
def replaceAll (pattern : Pattern) (replacement text : String) : String :=
  let chars := text.toList
  let template := Template.read replacement
  let replace (found : Match) : List Char :=
    Template.expand (found.group? chars) (fun name => pattern.names.lookup name) template
  String.ofList (substitute chars replace 0 (allMatches pattern.program chars))

end Pattern

end IdlBindings
