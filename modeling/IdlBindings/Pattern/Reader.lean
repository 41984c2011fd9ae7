/-
# IdlBindings.Pattern.Reader: from the text of a pattern to its tree.

There is no look-around and no back-reference.  A closing brace or bracket stands for itself, an
opening one does not.  Blanks and comments are left out where the flag for that is on.
-/
import IdlBindings.Pattern.Expr
import IdlBindings.Pattern.Property
import IdlBindings.Text.Alphabetic

namespace IdlBindings.Pattern

/-! ## Input -/

/-- What is left of a pattern, whether blanks are left out, and the groups seen so far. -/
structure Input where
  rest : List Char
  ignoreSpace : Bool := false
  groups : Nat := 0
  names : List (String × Nat) := []

/-- Reads from the front of a pattern. -/
abbrev Reader := StateT Input Option

/-- Leaves out blanks, and comments up to the line end. -/
def skipSpace (rest : List Char) : List Char :=
  go false rest
where
  /-- Leaves out what is left, inside or outside a comment. -/
  go (inComment : Bool) : List Char → List Char
    | [] => []
    | c :: rest =>
      if inComment then go (c != '\n') rest
      else if Text.isWhitespace c then go false rest
      else if c == '#' then go true rest
      else c :: rest

namespace Reader

/-- The pattern is malformed. -/
def malformed {α : Type} : Reader α := fun _ => none

/-- The next character, without taking it. -/
def peek : Reader (Option Char) := do
  return (← get).rest.head?

/-- Leaves out blanks and comments where that is on. -/
def space : Reader Unit :=
  modify fun input =>
    if input.ignoreSpace then { input with rest := skipSpace input.rest } else input

/-- Takes one character. -/
def bump : Reader Unit :=
  modify fun input => { input with rest := input.rest.drop 1 }

/-- Takes one character and the space behind it. -/
def bumpSpace : Reader Unit := do
  bump
  space

/-- Takes a text if it comes next. -/
def eat (text : String) : Reader Bool := do
  let input ← get
  if text.toList.isPrefixOf input.rest then
    set { input with rest := input.rest.drop text.length }
    return true
  else
    return false

/-- The next character, which has to be there. -/
def char : Reader Char := do
  match ← peek with
  | some c => return c
  | none => malformed

end Reader

open Reader

/-! ## Escapes -/

/-- What a single character or an escape stands for. -/
inductive Primitive where
  | literal (c : LiteralChar)
  | anchor (kind : Anchor)
  | cls (set : ClassExpr)

/-- The character of a code point, if it is one. -/
def scalar? (n : Nat) : Option Char :=
  if n.isValidChar then some (Char.ofNat n) else none

/-- The character of hexadecimal digits. -/
def hexChar? (digits : List Char) : Option Char :=
  if digits.isEmpty then none else scalar? (Property.hexValue digits)

/-- Takes hexadecimal digits up to a closing brace, which is taken too. -/
def hexBraced : Nat → Reader (List Char)
  | 0 => malformed
  | fuel + 1 => do
    let c ← char
    if c == '\x7d' then
      bumpSpace
      return []
    else if (Text.hexDigit? c).isSome then
      bumpSpace
      let digits ← hexBraced fuel
      return c :: digits
    else
      malformed

/-- Takes a number of hexadecimal digits. -/
def hexDigits : Nat → Reader (List Char)
  | 0 => return []
  | count + 1 => do
    let c ← char
    if (Text.hexDigit? c).isSome then
      bumpSpace
      let digits ← hexDigits count
      return c :: digits
    else
      malformed

/-- A character by its code point, behind the letter of the escape. -/
def hexEscape (count : Nat) : Reader LiteralChar := do
  space
  let input ← get
  if (← char) == '\x7b' then
    bumpSpace
    match hexChar? (← hexBraced (input.rest.length + 1)) with
    | some c => return ⟨c, false⟩
    | none => malformed
  else
    match hexChar? (← hexDigits count) with
    | some c => return ⟨c, count == 2⟩
    | none => malformed

/-- Takes the text up to a closing brace, which is taken too. -/
def bracedName : Nat → Reader (List Char)
  | 0 => malformed
  | fuel + 1 => do
    let c ← char
    if c == '\x7d' then
      bump
      return []
    else
      bumpSpace
      let name ← bracedName fuel
      return c :: name

/-- A property, behind the letter of the escape. -/
def propertyEscape (negated : Bool) : Reader ClassExpr := do
  space
  let input ← get
  let c ← char
  if c == '\x7b' then
    bumpSpace
    let name ← bracedName (input.rest.length + 1)
    return .property name negated
  else if c == '\\' then
    malformed
  else
    bumpSpace
    return .property [c] negated

/-- The characters of the names of word boundaries. -/
def namesBoundary (c : Char) : Bool :=
  c.isAlpha || c == '-'

/-- Takes the name of a word boundary, behind the opening brace, with the closing brace. -/
def boundaryName : Nat → Reader (List Char)
  | 0 => malformed
  | fuel + 1 => do
    let c ← char
    if namesBoundary c then
      bumpSpace
      let name ← boundaryName fuel
      return c :: name
    else if c == '\x7d' then
      bump
      return []
    else
      malformed

/-- A word boundary, behind the letter of the escape.  A brace that no name follows starts a
repetition. -/
def boundaryEscape : Reader Anchor := do
  let input ← get
  if (← peek) == some '\x7b' then
    bumpSpace
    if namesBoundary (← char) then
      match String.ofList (← boundaryName (input.rest.length + 1)) with
      | "start" => return .wordStart
      | "end" => return .wordEnd
      | "start-half" => return .wordStartHalf
      | "end-half" => return .wordEndHalf
      | _ => malformed
    else
      set input
      return .wordBoundary
  else
    return .wordBoundary

/-- Whether a backslash in front of a character makes it stand for itself. -/
def isEscapable (c : Char) : Bool :=
  c.toNat < 128 && !c.isAlphanum && c != '<' && c != '>'

/-- An escape, behind the backslash. -/
def escape : Reader Primitive := do
  let c ← char
  bump
  let literal (n : Nat) : Reader Primitive := return .literal ⟨Char.ofNat n, false⟩
  match c with
  | 'x' => return .literal (← hexEscape 2)
  | 'u' => return .literal (← hexEscape 4)
  | 'U' => return .literal (← hexEscape 8)
  | 'p' => return .cls (← propertyEscape false)
  | 'P' => return .cls (← propertyEscape true)
  | 'd' => return .cls (.perl .digit false)
  | 'D' => return .cls (.perl .digit true)
  | 's' => return .cls (.perl .space false)
  | 'S' => return .cls (.perl .space true)
  | 'w' => return .cls (.perl .word false)
  | 'W' => return .cls (.perl .word true)
  | 'a' => literal 0x07
  | 'f' => literal 0x0c
  | 't' => literal 0x09
  | 'n' => literal 0x0a
  | 'r' => literal 0x0d
  | 'v' => literal 0x0b
  | 'A' => return .anchor .startText
  | 'z' => return .anchor .endText
  | 'b' => return .anchor (← boundaryEscape)
  | 'B' => return .anchor .notWordBoundary
  | '<' => return .anchor .wordStart
  | '>' => return .anchor .wordEnd
  | _ => if isEscapable c then return .literal ⟨c, false⟩ else malformed

/-! ## Classes in brackets -/

/-- The named classes of ASCII characters. -/
def asciiClasses : List (String × CharSet) :=
  [("alnum", [(0x30, 0x39), (0x41, 0x5a), (0x61, 0x7a)]), ("alpha", [(0x41, 0x5a), (0x61, 0x7a)]),
   ("ascii", [(0x00, 0x7f)]), ("blank", [(0x09, 0x09), (0x20, 0x20)]),
   ("cntrl", [(0x00, 0x1f), (0x7f, 0x7f)]), ("digit", [(0x30, 0x39)]), ("graph", [(0x21, 0x7e)]),
   ("lower", [(0x61, 0x7a)]), ("print", [(0x20, 0x7e)]),
   ("punct", [(0x21, 0x2f), (0x3a, 0x40), (0x5b, 0x60), (0x7b, 0x7e)]),
   ("space", CharSet.asciiSpace), ("upper", [(0x41, 0x5a)]), ("word", CharSet.asciiWord),
   ("xdigit", [(0x30, 0x39), (0x41, 0x46), (0x61, 0x66)])]

/-- A named class of ASCII characters at the front of a text, in its brackets and colons, with what
follows it. -/
def asciiClass? (rest : List Char) : Option (ClassExpr × List Char) :=
  match rest with
  | '[' :: ':' :: rest =>
    let (negated, rest) := match rest with
      | '^' :: rest => (true, rest)
      | rest => (false, rest)
    let name := rest.takeWhile (· != ':')
    match rest.dropWhile (· != ':') with
    | ':' :: ']' :: rest =>
      (asciiClasses.lookup (String.ofList name)).map fun set => (.ascii set negated, rest)
    | _ => none
  | _ => none

/-- A class of several items; a single item stands for itself. -/
def ClassExpr.ofItems : List ClassExpr → ClassExpr
  | [item] => item
  | items => .union items

/-- An item of a class: a character or an escape. -/
def classPrimitive : Reader Primitive := do
  let c ← char
  bump
  if c == '\\' then escape else return .literal ⟨c, false⟩

/-- The character that starts or ends a range. -/
def Primitive.toLiteral : Primitive → Reader LiteralChar
  | .literal c => return c
  | _ => malformed

/-- The item of a class that a primitive stands for. -/
def Primitive.toItem : Primitive → Reader ClassExpr
  | .literal c => return .literal c
  | .cls set => return set
  | .anchor _ => malformed

/-- The character that decides whether a hyphen in front of a text makes a range.  Where blanks are
left out it is the next one that is no blank, past at most one mark of a comment; the text of a
comment is not left out. -/
def rangeEnd? (ignoreSpace : Bool) (rest : List Char) : Option Char :=
  if ignoreSpace then
    let found := match rest.dropWhile Text.isWhitespace with
      | '#' :: comment => comment.dropWhile Text.isWhitespace
      | found => found
    if found.isEmpty then rest.head? else found.head?
  else
    rest.head?

/-- An item or a range of a class. -/
def classRange : Reader ClassExpr := do
  let first ← classPrimitive
  space
  let c ← char
  let input ← get
  let second := rangeEnd? input.ignoreSpace (input.rest.drop 1)
  if c != '-' || second == some ']' || second == some '-' then
    first.toItem
  else
    bumpSpace
    let _ ← char
    let last ← classPrimitive
    let first ← first.toLiteral
    let last ← last.toLiteral
    if first.char ≤ last.char then return .range first last else malformed

/-- Takes the hyphens at the start of a class. -/
def leadingHyphens : Nat → Reader (List ClassExpr)
  | 0 => malformed
  | fuel + 1 => do
    if (← char) == '-' then
      bumpSpace
      let items ← leadingHyphens fuel
      return .literal ⟨'-', false⟩ :: items
    else
      return []

/-- The start of a class behind its bracket: whether it is negated, and the items that only there are
not special. -/
def classStart : Reader (Bool × List ClassExpr) := do
  space
  let negated := (← char) == '^'
  if negated then bumpSpace
  let input ← get
  let hyphens ← leadingHyphens (input.rest.length + 1)
  if hyphens.isEmpty && (← char) == ']' then
    bumpSpace
    return (negated, [.literal ⟨']', false⟩])
  else
    return (negated, hyphens)

/-- An operation with its left side, waiting for the right side. -/
def combine (pending : Option (ClassExpr × SetOp)) (items : List ClassExpr) : ClassExpr :=
  match pending with
  | none => ClassExpr.ofItems items.reverse
  | some (left, op) => .binary op left (ClassExpr.ofItems items.reverse)

/-- The rest of a class up to its closing bracket, behind the reversed items. -/
def classRest (negated : Bool) :
    Nat → Option (ClassExpr × SetOp) → List ClassExpr → Reader ClassExpr
  | 0, _, _ => malformed
  | fuel + 1, pending, items => do
    space
    let input ← get
    match input.rest with
    | [] => malformed
    | '[' :: _ =>
      match asciiClass? input.rest with
      | some (item, rest) =>
        set { input with rest }
        classRest negated fuel pending (item :: items)
      | none =>
        bump
        let (innerNegated, innerItems) ← classStart
        let item ← classRest innerNegated fuel none innerItems.reverse
        classRest negated fuel pending (item :: items)
    | ']' :: _ =>
      bump
      return .bracketed negated (combine pending items)
    | '&' :: '&' :: rest =>
      set { input with rest }
      classRest negated fuel (some (combine pending items, .inter)) []
    | '-' :: '-' :: rest =>
      set { input with rest }
      classRest negated fuel (some (combine pending items, .diff)) []
    | '~' :: '~' :: rest =>
      set { input with rest }
      classRest negated fuel (some (combine pending items, .symmDiff)) []
    | _ =>
      let item ← classRange
      classRest negated fuel pending (item :: items)

/-- A class, behind its opening bracket. -/
def bracketClass : Reader ClassExpr := do
  let input ← get
  let (negated, items) ← classStart
  classRest negated (input.rest.length + 1) none items.reverse

/-! ## Repetitions -/

/-- Takes decimal digits with blanks around them. -/
def decimal : Reader Nat := do
  modify fun input => { input with rest := input.rest.dropWhile Text.isWhitespace }
  let input ← get
  let digits ← digitsFrom (input.rest.length + 1)
  if digits.isEmpty then malformed
  modify fun input => { input with rest := input.rest.dropWhile Text.isWhitespace }
  let value := digits.foldl (fun n c => n * 10 + (c.toNat - 0x30)) 0
  if value < Nat.pow 2 32 then return value else malformed
where
  /-- Takes digits, and the space behind each. -/
  digitsFrom : Nat → Reader (List Char)
    | 0 => malformed
    | fuel + 1 => do
      match ← peek with
      | some c =>
        if c.isDigit then
          bumpSpace
          let digits ← digitsFrom fuel
          return c :: digits
        else
          return []
      | none => return []

/-- The bounds of a counted repetition, behind the opening brace. -/
def bounds : Reader (Nat × Option Nat) := do
  space
  let least ← decimal
  if (← char) == ',' then
    bumpSpace
    if (← char) == '\x7d' then
      return (least, none)
    else
      let most ← decimal
      if least ≤ most then return (least, some most) else malformed
  else
    return (least, some least)

/-- Whether a repetition prefers few turns: a question mark behind it. -/
def isLazy : Reader Bool := do
  if (← peek) == some '?' then
    bump
    return true
  else
    return false

/-- A repetition mark, applied to the last of the reversed parts. -/
def repetition (parts : List Expr) : Reader (List Expr) := do
  match parts with
  | [] => malformed
  | last :: before =>
    if !last.isRepeatable then malformed
    let c ← char
    bump
    let (least, most) ← match c with
      | '?' => pure (0, some 1)
      | '*' => pure (0, none)
      | '+' => pure (1, none)
      | _ => do
        let found ← bounds
        if (← char) == '\x7d' then
          bumpSpace
          pure found
        else
          malformed
    let isLazy ← isLazy
    return .repeated last least most (!isLazy) :: before

/-! ## Groups -/

/-- The letters of the flags. -/
def flagOf? : Char → Option Flag
  | 'i' => some .ignoreCase
  | 'm' => some .multiLine
  | 's' => some .dotAll
  | 'U' => some .swapGreed
  | 'u' => some .unicode
  | 'R' => some .crlf
  | 'x' => some .ignoreSpace
  | _ => none

/-- Takes flags up to a colon or a closing parenthesis.  Each flag and the minus sign stand at most
once, and a flag follows the minus sign. -/
def flagList (negated : Bool) (change : FlagChange) : Nat → Reader FlagChange
  | 0 => malformed
  | fuel + 1 => do
    let c ← char
    if c == ':' || c == ')' then
      if negated && change.off.isEmpty then malformed else return change
    else if c == '-' then
      if negated then malformed
      bump
      flagList true change fuel
    else
      match flagOf? c with
      | none => malformed
      | some flag =>
        if change.on.contains flag || change.off.contains flag then malformed
        bump
        if negated then flagList negated { change with off := flag :: change.off } fuel
        else flagList negated { change with on := flag :: change.on } fuel

/-- Whether a character may stand in the name of a group. -/
def inGroupName (isFirst : Bool) (c : Char) : Bool :=
  c == '_' || (if isFirst then Text.isAlphabetic c
    else c == '.' || c == '[' || c == ']' || Text.isAlphanumeric c)

/-- The name of a group, behind its angle bracket. -/
def groupName : Reader String := do
  let input ← get
  let name := input.rest.takeWhile (· != '>')
  let isValid := match name with
    | [] => false
    | c :: rest => inGroupName true c && rest.all (inGroupName false)
  match input.rest.drop name.length with
  | '>' :: rest =>
    if !isValid || (input.names.lookup (String.ofList name)).isSome then malformed
    set { input with rest }
    return String.ofList name
  | _ => malformed

/-- What an opening parenthesis starts. -/
inductive GroupStart where
  | flags (change : FlagChange)
  | capture (index : Nat)
  | group (change : FlagChange)

/-- The number of the next group. -/
def nextGroup : Reader Nat := do
  let input ← get
  set { input with groups := input.groups + 1 }
  return input.groups + 1

/-- The start of a group, behind its parenthesis. -/
def groupStart : Reader GroupStart := do
  space
  let input ← get
  if ["?=", "?!", "?<=", "?<!"].any fun mark => mark.toList.isPrefixOf input.rest then malformed
  if (← eat "?P<") || (← eat "?<") then
    let index ← nextGroup
    let name ← groupName
    modify fun input => { input with names := (name, index) :: input.names }
    return .capture index
  else if ← eat "?" then
    let change ← flagList false {} (input.rest.length + 1)
    let c ← char
    bump
    if c == ')' then
      if change.on.isEmpty && change.off.isEmpty then malformed else return .flags change
    else
      return .group change
  else
    return .capture (← nextGroup)

/-! ## Alternatives -/

/-- The tree of reversed branches. -/
def ofBranches (branches : List Expr) : Expr :=
  match branches with
  | [branch] => branch
  | branches => .alternation branches.reverse

/-- The alternatives up to a closing parenthesis or the end, behind the reversed branches and the
reversed parts of the current one. -/
def alternatives : Nat → List Expr → List Expr → Reader Expr
  | 0, _, _ => malformed
  | fuel + 1, branches, parts => do
    space
    match ← peek with
    | none | some ')' => return ofBranches (Expr.ofParts parts.reverse :: branches)
    | some '|' =>
      bump
      alternatives fuel (Expr.ofParts parts.reverse :: branches) []
    | some '(' =>
      bump
      let before ← get
      match ← groupStart with
      | .flags change =>
        modify fun input =>
          { input with ignoreSpace := change.apply .ignoreSpace input.ignoreSpace }
        alternatives fuel branches (.flags change :: parts)
      | .capture index =>
        let sub ← alternatives fuel [] []
        closeGroup before
        alternatives fuel branches (.capture index sub :: parts)
      | .group change =>
        modify fun input =>
          { input with ignoreSpace := change.apply .ignoreSpace input.ignoreSpace }
        let sub ← alternatives fuel [] []
        closeGroup before
        alternatives fuel branches (.group change sub :: parts)
    | some '[' =>
      bump
      let set ← bracketClass
      alternatives fuel branches (.cls set :: parts)
    | some '?' | some '*' | some '+' | some '\x7b' =>
      let parts ← repetition parts
      alternatives fuel branches parts
    | some '\\' =>
      bump
      let part ← match ← escape with
        | .literal c => pure (Expr.literal c)
        | .anchor kind => pure (Expr.anchor kind)
        | .cls set => pure (Expr.cls set)
      alternatives fuel branches (part :: parts)
    | some '.' =>
      bump
      alternatives fuel branches (.dot :: parts)
    | some '^' =>
      bump
      alternatives fuel branches (.anchor .startLine :: parts)
    | some '$' =>
      bump
      alternatives fuel branches (.anchor .endLine :: parts)
    | some c =>
      bump
      alternatives fuel branches (.literal ⟨c, false⟩ :: parts)
where
  /-- Takes the closing parenthesis of a group, and goes back to the space setting in front of it. -/
  closeGroup (before : Input) : Reader Unit := do
    if (← char) == ')' then
      modify fun input =>
        { input with rest := input.rest.drop 1, ignoreSpace := before.ignoreSpace }
    else
      malformed

/-! ## Whole patterns -/

/-- How deeply a pattern may nest. -/
def nestLimit : Nat := 250

/-- The tree of a pattern, with the names of its groups; nothing if it is malformed. -/
def read? (text : String) : Option (Expr × List (String × Nat)) := do
  let chars := text.toList
  let (expr, input) ← (alternatives (chars.length + 1) [] []).run { rest := chars }
  if input.rest.isEmpty && expr.depth ≤ nestLimit then
    some (expr, input.names)
  else
    none

end IdlBindings.Pattern
