/-
# IdlBindings.Pattern.CharSet: sets of characters with their algebra.

A set is a list of ranges of code points in increasing order with gaps between them.  The ends of a
range are characters.  Between the last character in front of the surrogates and the first one behind
them there is no other character, and yet two ranges that meet there stay apart.
-/
import IdlBindings.Text.Basic
import IdlBindings.Text.Fold
import IdlBindings.Text.Word

namespace IdlBindings.Pattern

open Text (CharRanges)

/-- A set of code points. -/
abbrev CharSet := CharRanges

namespace CharSet

/-- The largest code point. -/
def top : Nat := 0x10ffff

/-- Every character. -/
def all : CharSet := [(0, top)]

/-- One character. -/
def single (c : Char) : CharSet := [(c.toNat, c.toNat)]

/-- The character of a set that has only one. -/
def single? : CharSet → Option Char
  | [(low, high)] => if low = high then some (Char.ofNat low) else none
  | _ => none

/-! ## Union -/

/-- The set of the range from `low` to `high` and of ranges that start no lower: ranges that overlap
or touch become one. -/
def coalesce (low high : Nat) : CharRanges → CharSet
  | [] => [(low, high)]
  | (low', high') :: rest =>
    if low' ≤ high + 1 then coalesce low (max high high') rest
    else (low, high) :: coalesce low' high' rest

/-- The set of any list of ranges. -/
def normalize (ranges : CharRanges) : CharSet :=
  match ranges.mergeSort fun a b => a.1 ≤ b.1 with
  | [] => []
  | (low, high) :: rest => coalesce low high rest

/-- What lies in either set. -/
def union (a b : CharSet) : CharSet :=
  normalize (a ++ b)

/-! ## Complement -/

/-- The code point of the next character. -/
def next (n : Nat) : Nat :=
  if n = 0xd7ff then 0xe000 else n + 1

/-- The code point of the previous character. -/
def previous (n : Nat) : Nat :=
  if n = 0xe000 then 0xd7ff else n - 1

/-- The gap between two characters of which the first ends a range and the second starts one.  If
there is no character between them the gap goes from the one to the other. -/
def gap (last first : Nat) : Nat × Nat :=
  (min (next last) (previous first), max (next last) (previous first))

/-- The gaps behind the end of a range. -/
def gapsAfter (last : Nat) : CharSet → CharSet
  | [] => if last < top then [(next last, top)] else []
  | (low, high) :: rest => gap last low :: gapsAfter high rest

/-- What does not lie in the set. -/
def complement : CharSet → CharSet
  | [] => all
  | (low, high) :: rest =>
    if 0 < low then (0, previous low) :: gapsAfter high rest else gapsAfter high rest

/-! ## Intersection and difference -/

/-- What lies in both sets. -/
def inter : CharSet → CharSet → CharSet
  | [], _ => []
  | _, [] => []
  | (low, high) :: a, (low', high') :: b =>
    let others :=
      if high < high' then inter a ((low', high') :: b) else inter ((low, high) :: a) b
    if max low low' ≤ min high high' then (max low low', min high high') :: others else others
termination_by a b => a.length + b.length

/-- What lies in the first set only. -/
def diff : CharSet → CharSet → CharSet
  | [], _ => []
  | a, [] => a
  | (low, high) :: a, (low', high') :: b =>
    if high' < low then diff ((low, high) :: a) b
    else if high < low' then (low, high) :: diff a ((low', high') :: b)
    else
      let front := if low < low' then [(low, previous low')] else []
      if high' < high then front ++ diff ((next high', high) :: a) b
      else front ++ diff a ((low', high') :: b)
termination_by a b => a.length + b.length

/-- What lies in exactly one of the sets. -/
def symmDiff (a b : CharSet) : CharSet :=
  diff (union a b) (inter a b)

/-! ## Case -/

/-- The set with all characters that differ from one of it in case only. -/
def closeFold (a : CharSet) : CharSet :=
  let forward := Text.foldPairs.filterMap fun (n, m) =>
    if CharRanges.holds n a then some (m, m) else none
  let a := union a forward
  let backward := Text.foldPairs.filterMap fun (n, m) =>
    if CharRanges.holds m a then some (n, n) else none
  union a backward

/-- The set with all ASCII letters that differ from one of it in case only. -/
def closeFoldAscii (a : CharSet) : CharSet :=
  let letters := (List.range 26).flatMap fun k =>
    (if CharRanges.holds (0x41 + k) a then [(0x61 + k, 0x61 + k)] else [])
      ++ (if CharRanges.holds (0x61 + k) a then [(0x41 + k, 0x41 + k)] else [])
  union a letters

/-- Whether the set has ASCII characters only. -/
def isAscii (a : CharSet) : Bool :=
  List.all a fun range => range.2 < 128

/-! ## Named sets -/

/-- ASCII letters, digits and the underscore. -/
def asciiWord : CharSet := [(0x30, 0x39), (0x41, 0x5a), (0x5f, 0x5f), (0x61, 0x7a)]

/-- Word characters. -/
def word : CharSet := asciiWord ++ Text.wordRanges

/-- Whitespace. -/
def space : CharSet := Text.whitespaceRanges

/-- The ASCII whitespace characters. -/
def asciiSpace : CharSet := [(0x09, 0x0d), (0x20, 0x20)]

/-- The ASCII digits. -/
def asciiDigit : CharSet := [(0x30, 0x39)]

end CharSet

end IdlBindings.Pattern
