/-
# IdlBindings.Yaml.Number: texts that a reader takes for something else.

A plain text can be read as null, as a truth value or as a number.  Such a text is quoted when it is
meant as a text.  Numbers are decimal, with a fraction and an exponent, or integers of base sixteen,
eight or two.  A decimal number counts only if its nearest double is finite.
-/
import IdlBindings.Text.Basic

namespace IdlBindings.Yaml

/-! ## Words -/

/-- The words for nothing. -/
def nullWords : List String :=
  ["null", "Null", "NULL", "~"]

/-- The words for truth values. -/
def booleanWords : List (String × Bool) :=
  [("true", true), ("True", true), ("TRUE", true), ("false", false), ("False", false),
   ("FALSE", false)]

/-- The words for numbers that no decimal is. -/
def specialFloats : List String :=
  [".inf", ".Inf", ".INF", "+.inf", "+.Inf", "+.INF", "-.inf", "-.Inf", "-.INF",
   ".nan", ".NaN", ".NAN"]

/-! ## Digits -/

/-- The value of one or more digits of a base. -/
def valueOf? (base : Nat) (digits : List Char) : Option Nat :=
  if digits.isEmpty then none
  else
    digits.foldlM (fun value c => do
      let digit ← Text.hexDigit? c
      if digit < base then some (value * base + digit) else none) 0

/-! ## Integers of other bases -/

/-- The marks in front of an integer, with its base. -/
def baseMarks : List (Char × Nat) :=
  [('x', 16), ('o', 8), ('b', 2)]

/-- The value of an integer with a mark of its base. -/
def marked? : List Char → Option Nat
  | '0' :: mark :: digits => (baseMarks.lookup mark).bind fun base => valueOf? base digits
  | _ => none

/-- Whether a text is an integer of another base that fits into 128 bits. -/
def isMarkedInteger : List Char → Bool
  | '-' :: rest => (marked? rest).any (· ≤ Nat.pow 2 127)
  | '+' :: rest => (marked? rest).any (· < Nat.pow 2 128)
  | rest => (marked? rest).any (· < Nat.pow 2 128)

/-! ## Decimal numbers -/

/-- A decimal number: all its digits and the power of ten that they are multiplied by. -/
structure Decimal where
  digits : List Char
  exponent : Int

/-- The value of an exponent. -/
def exponent? : List Char → Option Int
  | [] => some 0
  | mark :: rest =>
    if mark = 'e' ∨ mark = 'E' then
      match rest with
      | '-' :: digits => (valueOf? 10 digits).map fun value => -(value : Int)
      | '+' :: digits => (valueOf? 10 digits).map fun value => (value : Int)
      | digits => (valueOf? 10 digits).map fun value => (value : Int)
    else none

/-- A decimal number without a sign. -/
def decimal? (cs : List Char) : Option Decimal :=
  let whole := cs.takeWhile Char.isDigit
  let rest := cs.dropWhile Char.isDigit
  let (fraction, rest) := match rest with
    | '.' :: rest => (rest.takeWhile Char.isDigit, rest.dropWhile Char.isDigit)
    | rest => ([], rest)
  if whole.isEmpty && fraction.isEmpty then none
  else (exponent? rest).map fun exponent => ⟨whole ++ fraction, exponent - fraction.length⟩

/-- The least number that a double rounds to infinity. -/
def overflow : Nat :=
  Nat.pow 2 1024 - Nat.pow 2 970

/-- Whether the nearest double is finite.  The number of digits decides unless it is close. -/
def Decimal.isFinite (decimal : Decimal) : Bool :=
  let digits := decimal.digits.dropWhile (· == '0')
  let size := digits.length + decimal.exponent
  if digits.isEmpty || size ≤ 308 then true
  else if size > 310 then false
  else
    let value := (valueOf? 10 digits).getD 0
    if decimal.exponent < 0 then value < overflow * Nat.pow 10 (-decimal.exponent).toNat
    else value * Nat.pow 10 decimal.exponent.toNat < overflow

/-- Whether a text is a finite decimal number. -/
def isDecimal : List Char → Bool
  | '-' :: rest => (decimal? rest).any Decimal.isFinite
  | '+' :: rest => (decimal? rest).any Decimal.isFinite
  | rest => (decimal? rest).any Decimal.isFinite

/-- Whether a text has only digits after its sign, more than one, and the first is a zero. -/
def isPaddedInteger (cs : List Char) : Bool :=
  let digits := match cs with
    | '-' :: rest => rest
    | '+' :: rest => rest
    | rest => rest
  match digits with
  | '0' :: c :: rest => (c :: rest).all Char.isDigit
  | _ => false

/-! ## Ambiguous texts -/

/-- Whether a plain text is not read as the text that it is. -/
def isAmbiguous (text : String) : Bool :=
  text.isEmpty || nullWords.contains text || (booleanWords.lookup text).isSome
    || specialFloats.contains text || isPaddedInteger text.toList || isMarkedInteger text.toList
    || isDecimal text.toList

end IdlBindings.Yaml
