/-
# IdlBindings.Pattern.Flags: patterns under their flags.

A pattern becomes a regular expression once its flags are known at every place.  A pattern may still
be refused here: if it names an unknown property, or if it asks for bytes that are no characters.
Where a pattern is about bytes, all sets have ASCII characters only, so nothing can be negated there.
-/
import IdlBindings.Pattern.Property
import IdlBindings.Pattern.Regex

namespace IdlBindings.Pattern

/-- The settings in force at a place of a pattern. -/
structure Flags where
  ignoreCase : Bool := false
  multiLine : Bool := false
  dotAll : Bool := false
  swapGreed : Bool := false
  unicode : Bool := true
  crlf : Bool := false

/-- The settings after a change. -/
def Flags.apply (flags : Flags) (change : FlagChange) : Flags where
  ignoreCase := change.apply .ignoreCase flags.ignoreCase
  multiLine := change.apply .multiLine flags.multiLine
  dotAll := change.apply .dotAll flags.dotAll
  swapGreed := change.apply .swapGreed flags.swapGreed
  unicode := change.apply .unicode flags.unicode
  crlf := change.apply .crlf flags.crlf

namespace Flags

/-- The set with other cases added where case does not count. -/
def fold (flags : Flags) (set : CharSet) : CharSet :=
  if !flags.ignoreCase then set
  else if flags.unicode then set.closeFold
  else set.closeFoldAscii

/-- The set with other cases added, or its complement.  A set of bytes has no complement, which would
have bytes that are no characters. -/
def close? (flags : Flags) (negated : Bool) (set : CharSet) : Option CharSet :=
  let set := flags.fold set
  if !negated then some set
  else if flags.unicode then some set.complement
  else none

/-! ## Classes -/

/-- The character of a literal.  A byte above ASCII is no character. -/
def charOf? (flags : Flags) (c : LiteralChar) : Option Char :=
  if !flags.unicode && c.isByte && c.char.toNat ≥ 128 then none else some c.char

/-- The character of a literal in a class.  Where patterns are not about Unicode it is in ASCII. -/
def classChar? (flags : Flags) (c : LiteralChar) : Option Char :=
  if !flags.unicode && c.char.toNat ≥ 128 then none else some c.char

/-- The set of a class with a letter, which is closed under case. -/
def perlSet? (flags : Flags) (kind : PerlClass) (negated : Bool) : Option CharSet :=
  if flags.unicode then
    let set := match kind with
      | .digit => Property.categoryUnion ["nd"]
      | .space => CharSet.space
      | .word => CharSet.word
    some (if negated then set.complement else set)
  else if negated then
    none
  else
    some (match kind with
      | .digit => CharSet.asciiDigit
      | .space => CharSet.asciiSpace
      | .word => CharSet.asciiWord)

/-- Cuts a list in two around the first occurrence of a separator. -/
def cutAt? (separator : List Char) : List Char → Option (List Char × List Char)
  | [] => none
  | c :: rest =>
    if separator.isPrefixOf (c :: rest) then some ([], (c :: rest).drop separator.length)
    else (cutAt? separator rest).map fun (before, behind) => (c :: before, behind)

/-- The set of a property by the text that names it: a name, or a property with a value.  Says also
whether the set is meant to be negated. -/
def propertySet? (name : List Char) : Option (CharSet × Bool) :=
  match cutAt? ['!', '='] name with
  | some (property, value) => (Property.valued? property value).map (·, true)
  | none =>
    match cutAt? [':'] name with
    | some (property, value) => (Property.valued? property value).map (·, false)
    | none =>
      match cutAt? ['='] name with
      | some (property, value) => (Property.valued? property value).map (·, false)
      | none => (Property.named? name).map (·, false)

mutual
/-- The set of a class.  Other cases are added before a set is negated. -/
def classSet? (flags : Flags) : ClassExpr → Option CharSet
  | .literal c => (flags.classChar? c).map CharSet.single
  | .range first last => do
    let first ← flags.classChar? first
    let last ← flags.classChar? last
    some [(first.toNat, last.toNat)]
  | .perl kind negated => flags.perlSet? kind negated
  | .ascii set negated => flags.close? negated set
  | .property name negated => do
    let (set, isNegated) ← propertySet? name
    if flags.unicode then flags.close? (negated != isNegated) set else none
  | .union items => (classSets? flags items).map CharSet.normalize
  | .binary op left right => do
    let left ← classSet? flags left
    let right ← classSet? flags right
    let left := flags.fold left
    let right := flags.fold right
    some (match op with
      | .inter => left.inter right
      | .diff => left.diff right
      | .symmDiff => left.symmDiff right)
  | .bracketed negated set => do
    let set ← classSet? flags set
    flags.close? negated set
/-- The ranges of several classes. -/
def classSets? (flags : Flags) : List ClassExpr → Option CharSet
  | [] => some []
  | c :: rest => do
    let first ← classSet? flags c
    let others ← classSets? flags rest
    some (first ++ others)
end

/-! ## Patterns -/

/-- What a dot matches. -/
def dotSet? (flags : Flags) : Option CharSet :=
  if !flags.unicode then none
  else if flags.dotAll then some CharSet.all
  else if flags.crlf then some (CharSet.complement [(0x0a, 0x0a), (0x0d, 0x0d)])
  else some (CharSet.complement [(0x0a, 0x0a)])

/-- The condition of an anchor. -/
def lookOf (flags : Flags) : Anchor → Look
  | .startText => .startText
  | .endText => .endText
  | .startLine =>
    if !flags.multiLine then .startText else if flags.crlf then .startLineCrlf else .startLine
  | .endLine =>
    if !flags.multiLine then .endText else if flags.crlf then .endLineCrlf else .endLine
  | kind => .word kind (!flags.unicode)

mutual
/-- The expression of a pattern, with the flags in force behind it. -/
def resolve? (flags : Flags) : Expr → Option (Regex × Flags)
  | .empty => some (.empty, flags)
  | .flags change => some (.empty, flags.apply change)
  | .literal c => do
    let c ← flags.charOf? c
    some (.ofSet (flags.fold (CharSet.single c)) (!flags.unicode), flags)
  | .dot => do
    let set ← flags.dotSet?
    some (.ofSet set false, flags)
  | .anchor kind => some (.look (flags.lookOf kind), flags)
  | .cls set => do
    let set ← flags.classSet? set
    some (.ofSet set (!flags.unicode), flags)
  | .repeated sub least most greedy => do
    let (sub, flags') ← resolve? flags sub
    some (Regex.repetition sub least most (greedy != flags.swapGreed), flags')
  | .capture index sub => do
    let (sub, _) ← resolve? flags sub
    some (.capture index sub, flags)
  | .group change sub => do
    let (sub, _) ← resolve? (flags.apply change) sub
    some (sub, flags)
  | .alternation branches => do
    let (branches, flags) ← resolveList? flags branches
    some (Regex.choice branches, flags)
  | .concat parts => do
    let (parts, flags) ← resolveList? flags parts
    some (Regex.sequence parts, flags)
/-- The expressions of several patterns, each under the flags that the one before left. -/
def resolveList? (flags : Flags) : List Expr → Option (List Regex × Flags)
  | [] => some ([], flags)
  | e :: rest => do
    let (first, flags) ← resolve? flags e
    let (others, flags) ← resolveList? flags rest
    some (first :: others, flags)
end

end Flags

/-- The regular expression of a pattern, if it is accepted. -/
def Regex.ofExpr? (expr : Expr) : Option Regex :=
  (Flags.resolve? {} expr).map (·.1)

end IdlBindings.Pattern
