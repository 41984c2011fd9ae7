/-
# IdlBindings.Text.ByteSequence: the bytes of characters.

A character is encoded in one to four bytes: the first one says how many there are, and each of the
others holds six bits.  The encodings of a range of characters are few rows of ranges of bytes, which
`byteSequences` gives in increasing order.
-/

namespace IdlBindings.Text

/-- Ranges of bytes, one after the other. -/
abbrev ByteSequence := List (Nat × Nat)

/-- The numbers from `low` to `high` as rows of digits to the base 64, with `count` digits behind the
first one.  Every number is spelled by exactly one row. -/
def digitRows : Nat → Nat → Nat → List ByteSequence
  | 0, low, high => [[(low, high)]]
  | count + 1, low, high =>
    let unit := Nat.pow 64 (count + 1)
    let first := low / unit
    let last := high / unit
    if first = last then
      (digitRows count (low % unit) (high % unit)).map ((first, first) :: ·)
    else
      -- A first or last digit that does not go with all digits behind it has rows of its own.
      let isWhole := low % unit = 0
      let isFull := high % unit = unit - 1
      let front := if isWhole then [] else
        (digitRows count (low % unit) (unit - 1)).map ((first, first) :: ·)
      let back := if isFull then [] else
        (digitRows count 0 (high % unit)).map ((last, last) :: ·)
      let start := if isWhole then first else first + 1
      let stop := if isFull then last else last - 1
      let middle := if start ≤ stop then
        [(start, stop) :: List.replicate (count + 1) (0, 63)] else []
      front ++ middle ++ back

/-- Characters that are encoded alike: their code points, the number of bytes behind the first one,
and what the first byte has on top of its bits. -/
structure EncodingBlock where
  low : Nat
  high : Nat
  tail : Nat
  mark : Nat

/-- The blocks of all characters.  There are no characters between the third and the fourth. -/
def encodingBlocks : List EncodingBlock :=
  [⟨0x0, 0x7f, 0, 0x00⟩, ⟨0x80, 0x7ff, 1, 0xc0⟩, ⟨0x800, 0xd7ff, 2, 0xe0⟩, ⟨0xe000, 0xffff, 2, 0xe0⟩,
   ⟨0x10000, 0x10ffff, 3, 0xf0⟩]

/-- The bytes of digits: the first one has a mark of its own. -/
def bytesOfDigits (mark : Nat) : ByteSequence → ByteSequence
  | [] => []
  | (low, high) :: rest =>
    (mark + low, mark + high) :: rest.map fun (low, high) => (0x80 + low, 0x80 + high)

/-- The rows of bytes that encode the characters from `low` to `high`. -/
def byteSequences (low high : Nat) : List ByteSequence :=
  encodingBlocks.flatMap fun block =>
    let low := max low block.low
    let high := min high block.high
    if low ≤ high then (digitRows block.tail low high).map (bytesOfDigits block.mark) else []

/-- The bytes of a character. -/
def charBytes (c : Char) : List Nat :=
  (byteSequences c.toNat c.toNat).flatMap fun bytes => bytes.map (·.1)

end IdlBindings.Text
