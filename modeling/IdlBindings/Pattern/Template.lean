/-
# IdlBindings.Pattern.Template: replacement texts.

In a replacement a dollar sign refers to a group, by number or by name, with or without braces.  Two
dollar signs stand for one, and a dollar sign that no reference follows stands for itself.
-/

namespace IdlBindings.Pattern

/-- A piece of a replacement. -/
inductive TemplatePart where
  | text (c : Char)
  | number (index : Nat)
  | name (name : String)

namespace Template

/-- The characters of references without braces. -/
def isReferenceChar (c : Char) : Bool :=
  c.isAlphanum || c == '_'

/-- The number that a reference writes, if it is one: digits, with at most a plus sign in front. -/
def number? (reference : List Char) : Option Nat :=
  let digits := match reference with
    | '+' :: rest => rest
    | digits => digits
  if digits.isEmpty || !digits.all Char.isDigit then none
  else
    let value := digits.foldl (fun n c => n * 10 + (c.toNat - 0x30)) 0
    if value < Nat.pow 2 64 then some value else none

/-- A reference by number, or else by name. -/
def reference (text : List Char) : TemplatePart :=
  match number? text with
  | some index => .number index
  | none => .name (String.ofList text)

/-- A reference at the front of the text behind a dollar sign, with what follows it. -/
def splitReference? (rest : List Char) : Option (TemplatePart × List Char) :=
  match rest with
  | '\x7b' :: rest =>
    match rest.dropWhile (· != '\x7d') with
    | _ :: behind => some (reference (rest.takeWhile (· != '\x7d')), behind)
    | [] => none
  | rest =>
    match rest.takeWhile isReferenceChar with
    | [] => none
    | text => some (reference text, rest.dropWhile isReferenceChar)

/-- The pieces of a replacement. -/
def parts : Nat → List Char → List TemplatePart
  | 0, _ => []
  | _, [] => []
  | fuel + 1, '$' :: '$' :: rest => .text '$' :: parts fuel rest
  | fuel + 1, '$' :: rest =>
    match splitReference? rest with
    | some (part, rest) => part :: parts fuel rest
    | none => .text '$' :: parts fuel rest
  | fuel + 1, c :: rest => .text c :: parts fuel rest

/-- The pieces of a whole replacement. -/
def read (text : String) : List TemplatePart :=
  parts (text.length + 1) text.toList

/-- The text of a replacement, given the texts of the groups by number and the numbers of their
names.  A group that is not there gives nothing. -/
def expand (group? : Nat → Option (List Char)) (index? : String → Option Nat) :
    List TemplatePart → List Char
  | [] => []
  | .text c :: rest => c :: expand group? index? rest
  | .number index :: rest => (group? index).getD [] ++ expand group? index? rest
  | .name name :: rest => ((index? name).bind group?).getD [] ++ expand group? index? rest

end Template

end IdlBindings.Pattern
