/-
# IdlBindings.Markup.Fragment: the schema fragments in markup.

An element of the class `idl` holds a fragment.  A preformatted element holds the text itself.  A
descriptive list holds it in parts: its title declares a definition and its terms are the members,
values or arguments.  Other elements hold none that can be read.

The character references that occur in schemas are decoded one kind after the other, the ampersand last,
so that a decoded ampersand never starts a reference.
-/
import IdlBindings.Markup.Element

namespace IdlBindings.Markup

/-! ## Character references -/

/-- Puts `new` for every occurrence of a text that starts with `first` and goes on with `others`, from
left to right. -/
def replaceText (first : Char) (others new : List Char) (cs : List Char) : List Char :=
  match cs with
  | [] => []
  | c :: rest =>
    if c = first ∧ others.isPrefixOf rest then
      new ++ replaceText first others new (rest.drop others.length)
    else
      c :: replaceText first others new rest
termination_by cs.length
decreasing_by all_goals simp; try omega

/-- The character references, each behind its ampersand, with what they stand for, in the order in
which they are decoded. -/
def entities : List (List Char × Char) :=
  [("lt;".toList, '<'), ("gt;".toList, '>'), ("quot;".toList, '"'), ("#39;".toList, '\''),
   ("apos;".toList, '\''), ("nbsp;".toList, ' '), ("amp;".toList, '&')]

/-- A text with its character references decoded. -/
def decodeEntities (cs : List Char) : List Char :=
  entities.foldl (fun cs (name, c) => replaceText '&' name [c] cs) cs

/-! ## Fragments -/

/-- Why an element gives no fragment. -/
inductive MarkupFault where
  | unsupportedTag (name : String)
  | unterminated (name : String)
  | missingTitle
  deriving DecidableEq

/-- The wording of a fault. -/
def MarkupFault.message : MarkupFault → String
  | unsupportedTag name => "I don't know how to parse IDL from <" ++ name ++ "> tags"
  | unterminated name => "<" ++ name ++ "> element is never closed"
  | missingTitle => "<dl> element has no title"

/-- Whether a document is markup: by the end of its name, or because it starts with a tag. -/
def isMarkup (locator contents : String) : Bool :=
  let lowered := locator.toList.map Char.toLower
  ".html".toList.isSuffixOf lowered || ".htm".toList.isSuffixOf lowered
    || (Text.trimStart contents.toList).head? == some '<'

/-- The schema text of a title and the terms of its list. -/
def declarationText (title : String) (terms : List String) : String :=
  let startsWith (word : String) : Bool := word.toList.isPrefixOf title.toList
  let braces (body : String) : String := title ++ " \x7b\n" ++ body ++ "\n\x7d;"
  if startsWith "callback " && !startsWith "callback interface" then
    title ++ "(" ++ ", ".intercalate terms ++ ");"
  else if startsWith "enum " then
    braces (",\n".intercalate (terms.map fun value => "    \"" ++ value ++ "\""))
  else if startsWith "typedef " then
    title ++ ";"
  else
    braces ("\n".intercalate (terms.map fun member => "    " ++ member ++ ";"))

/-- The schema text of a descriptive list. -/
def listText (attributes body : List Char) : Except MarkupFault String :=
  match title? attributes with
  | none => .error .missingTitle
  | some title =>
    let title := String.ofList (decodeEntities (Text.trim title))
    let terms := (terms body).map fun term =>
      String.ofList (decodeEntities (Text.trim (stripTags term)))
    .ok (declarationText title terms)

/-- The schema text of an element of the class `idl`. -/
def elementText (tag : Opening) : Except MarkupFault String :=
  let name := tag.name.map Char.toLower
  if name = ['d', 'l'] ∨ name = ['p', 'r', 'e'] then
    match body? name tag.rest with
    | none => .error (.unterminated (String.ofList name))
    | some body =>
      if name = ['d', 'l'] then listText tag.attributes body
      else .ok (String.ofList (decodeEntities (stripTags body)))
  else
    .error (.unsupportedTag (String.ofList name))

/-- Whether an element holds a fragment. -/
def isFragment (tag : Opening) : Bool :=
  (classes tag.attributes).contains ['i', 'd', 'l']

/-- The schema texts in markup, in order.  An element that gives none does not keep the others from
being read. -/
def fragments (markup : String) : List (Except MarkupFault String) :=
  ((openings markup.toList).filter isFragment).map elementText

end IdlBindings.Markup
