/-
# IdlBindings.Text.Basic: tables of characters, whitespace and hexadecimal digits.

A character property of the Unicode standard is a short increasing list of inclusive ranges.  Its case
mappings are regular over long stretches: a block of capitals maps to the block of small letters at a
fixed distance, or capitals and small letters alternate, and a run says so in four numbers.  The larger
tables stand in the modules named for them.
-/

namespace IdlBindings.Text

/-! ## Sets of characters -/

/-- A set of code points: inclusive ranges in increasing order. -/
abbrev CharRanges := List (Nat × Nat)

namespace CharRanges

/-- Membership.  The search stops at the first range that starts above the code point. -/
def holds (n : Nat) : CharRanges → Bool
  | [] => false
  | (low, high) :: rest => if n < low then false else n ≤ high || holds n rest

/-- Membership of a character, by its code point. -/
def has (ranges : CharRanges) (c : Char) : Bool :=
  holds c.toNat ranges

end CharRanges

/-! ## Case mappings -/

/-- The mapping of `first`, `first + step`, up to `last`: `first` goes to `target` and every other
code point keeps its distance from `first`. -/
structure CaseRun where
  first : Nat
  last : Nat
  step : Nat
  target : Nat

namespace CaseRun

/-- The image of a code point, if the run maps it. -/
def image? (run : CaseRun) (n : Nat) : Option Nat :=
  if run.first ≤ n ∧ n ≤ run.last ∧ (n - run.first) % run.step = 0 then
    some (run.target + (n - run.first))
  else
    none

/-- All the pairs of a code point and its image. -/
def pairs (run : CaseRun) : List (Nat × Nat) :=
  (List.range ((run.last - run.first) / run.step + 1)).map fun k =>
    (run.first + k * run.step, run.target + k * run.step)

/-- The image under the first run that maps the code point. -/
def lookup (runs : List CaseRun) (n : Nat) : Option Nat :=
  runs.findSome? (image? · n)

end CaseRun

/-! ## Whitespace -/

/-- The code points with the property White_Space. -/
def whitespaceRanges : CharRanges :=
  [(0x9, 0xd), (0x20, 0x20), (0x85, 0x85), (0xa0, 0xa0), (0x1680, 0x1680), (0x2000, 0x200a),
   (0x2028, 0x2029), (0x202f, 0x202f), (0x205f, 0x205f), (0x3000, 0x3000)]

/-- Whether a character separates words: blank, tab, the line ends and the wide blanks. -/
def isWhitespace (c : Char) : Bool :=
  whitespaceRanges.has c

/-- The text without the whitespace at its front. -/
def trimStart (cs : List Char) : List Char :=
  cs.dropWhile isWhitespace

/-- The text without the whitespace at either end. -/
def trim (cs : List Char) : List Char :=
  ((trimStart cs).reverse.dropWhile isWhitespace).reverse

/-- The maximal runs of characters that are not whitespace, in order. -/
def words (cs : List Char) : List (List Char) :=
  (cs.splitOnP isWhitespace).filter (fun word => !word.isEmpty)

/-! ## Digits of base sixteen -/

/-- The value of a hexadecimal digit. -/
def hexDigit? (c : Char) : Option Nat :=
  if c.isDigit then some (c.toNat - 0x30)
  else if 'a' ≤ c ∧ c ≤ 'f' then some (c.toNat - 0x57)
  else if 'A' ≤ c ∧ c ≤ 'F' then some (c.toNat - 0x37)
  else none

/-- The value of hexadecimal digits, if all characters are such. -/
def hexNumber? (digits : List Char) : Option Nat :=
  digits.foldlM (fun value c => (hexDigit? c).map (value * 16 + ·)) 0

/-- The hexadecimal digit of a value below sixteen; `ten` is the letter that stands for ten. -/
def hexChar (ten : Char) (value : Nat) : Char :=
  if value < 10 then Char.ofNat (0x30 + value) else Char.ofNat (ten.toNat + (value - 10))

/-- The last hexadecimal digits of a value, as many as asked for. -/
def hexChars (ten : Char) (value : Nat) : Nat → List Char
  | 0 => []
  | count + 1 => hexChar ten (value / Nat.pow 16 count % 16) :: hexChars ten value count

end IdlBindings.Text
