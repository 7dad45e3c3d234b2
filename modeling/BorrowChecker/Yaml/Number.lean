import BorrowChecker.Yaml.Scalar

namespace BorrowChecker
namespace Yaml

/-!
Numbers as they are written in YAML texts.

Whole numbers are written in base two, eight, ten or sixteen and have to fit a
64-bit word.  Other numbers are written in decimal and rounded to the nearest
binary number of 53 significant bits, a tie going to the even neighbour.  The
rounding is done in exact arithmetic.
-/

/-- Split off a sign, and say whether it is negative. -/
def splitSign : List Char → Bool × List Char
  | '-' :: rest => (true, rest)
  | '+' :: rest => (false, rest)
  | rest => (false, rest)

def withSign (isNegative : Bool) (magnitude : Nat) : Int :=
  if isNegative then -(magnitude : Int) else magnitude

/-! ## Whole numbers -/

/-- The number that some digits write in a base. -/
def natural? (base : Nat) (digits : List Char) : Option Nat :=
  digits.foldlM (fun value c => do
    let digit ← hexDigit? c
    if digit < base then some (value * base + digit) else none) 0

/-- The number that is written by digits after the mark of their base.  Digits
after a zero without a mark are in base eight. -/
def markedNatural? : List Char → Option Nat
  | [] => none
  | '0' :: mark :: c :: rest =>
      match mark.toLower with
      | 'b' => natural? 2 (c :: rest)
      | 'o' => natural? 8 (c :: rest)
      | 'x' => natural? 16 (c :: rest)
      | _ => natural? 8 (mark :: c :: rest)
  | '0' :: rest => natural? 8 rest
  | digits => natural? 10 digits

def leastWord : Int := -9223372036854775808

def greatestWord : Int := 9223372036854775807

def greatestUnsigned : Nat := 18446744073709551615

def fitsSigned (number : Int) : Bool := decide (leastWord ≤ number ∧ number ≤ greatestWord)

def signed? (isNegative : Bool) (magnitude : Option Nat) : Option Int := do
  let number := withSign isNegative (← magnitude)
  if fitsSigned number then some number else none

/-- The whole number that is written with its base, if it fits a signed or,
without a sign, an unsigned word. -/
def integer? (text : List Char) : Option Int :=
  let (isNegative, digits) := splitSign text
  signed? isNegative (markedNatural? digits) <|> do
    let number ← markedNatural? text
    if number ≤ greatestUnsigned then some (number : Int) else none

/-- The number written after a base mark with a sign of its own. -/
def innerSigned? : List Char → Option Int
  | '0' :: mark :: rest =>
      let (isNegative, digits) := splitSign rest
      if digits.isEmpty then none
      else if mark = 'b' then signed? isNegative (natural? 2 digits)
      else if mark = 'o' then signed? isNegative (natural? 8 digits)
      else none
  | _ => none

/-! ## Decimal numbers -/

/-- A decimal number: `digits` times ten to the power `exponent`. -/
structure Decimal where
  isNegative : Bool
  digits : Nat
  exponent : Int
  deriving DecidableEq, Repr

/-- The exponent that follows the digits of a decimal number. -/
def decimalExponent? : List Char → Option Int
  | [] => some 0
  | c :: rest =>
      if c = 'e' || c = 'E' then
        let (isNegative, digits) := splitSign rest
        if digits.isEmpty then none else (natural? 10 digits).map (withSign isNegative)
      else none

/-- The digits after the point of a decimal number, if there is a point, and
what follows them. -/
def fractionDigits : List Char → List Char × List Char
  | '.' :: rest => rest.span Char.isDigit
  | rest => ([], rest)

/-- The decimal number that a text writes: digits, of which some may follow a
point, and possibly an exponent. -/
def decimal? (text : List Char) : Option Decimal := do
  let (isNegative, rest) := splitSign text
  let (whole, rest) := rest.span Char.isDigit
  let (fraction, rest) := fractionDigits rest
  if whole.isEmpty && fraction.isEmpty then none
  else
    let digits ← natural? 10 (whole ++ fraction)
    let exponent ← decimalExponent? rest
    return { isNegative, digits, exponent := exponent - fraction.length }

/-! ## Binary numbers -/

/-- A rounded number.  A finite one is `significand` times two to the power
`exponent`. -/
inductive Binary where
  | finite (isNegative : Bool) (significand : Nat) (exponent : Int)
  | infinite (isNegative : Bool)
  | undefined
  deriving DecidableEq, Repr

namespace Binary

/-- The quotient of two numbers, rounded to the nearest number and to the even
one of two that are equally near. -/
def roundedQuotient (numerator denominator : Nat) : Nat :=
  let quotient := numerator / denominator
  let twice := 2 * (numerator % denominator)
  if twice > denominator || (twice = denominator && quotient % 2 = 1) then quotient + 1
  else quotient

/-- A fraction divided by a power of two, as a fraction. -/
def scale (numerator denominator : Nat) (exponent : Int) : Nat × Nat :=
  if 0 ≤ exponent then (numerator, denominator <<< exponent.toNat)
  else (numerator <<< (-exponent).toNat, denominator)

/-- The exponent with which a positive fraction has 53 significant bits, or the
smallest exponent if that is larger. -/
def exponentOf (numerator denominator : Nat) : Int :=
  let guess : Int := (numerator.log2 : Int) - denominator.log2 - 53
  let (scaled, unit) := scale numerator denominator guess
  max (if unit <<< 53 ≤ scaled then guess + 1 else guess) (-1074)

/-- A positive fraction, rounded.  There is no result if it has more than 1024
binary places before the point. -/
def ofFraction? (isNegative : Bool) (numerator denominator : Nat) : Option Binary :=
  let exponent := exponentOf numerator denominator
  let (scaled, unit) := scale numerator denominator exponent
  let significand := roundedQuotient scaled unit
  if 1024 ≤ (significand <<< exponent.toNat).log2 then none
  else some (.finite isNegative significand exponent)

/-- A decimal number, rounded.  Numbers that are out of reach in either
direction are told by their number of digits, without computing them. -/
def ofDecimal? (decimal : Decimal) : Option Binary :=
  let magnitude : Int := (Nat.toDigits 10 decimal.digits).length + decimal.exponent
  if decimal.digits = 0 || magnitude < -330 then some (.finite decimal.isNegative 0 0)
  else if 310 < magnitude then none
  else if 0 ≤ decimal.exponent then
    ofFraction? decimal.isNegative (decimal.digits * Nat.pow 10 decimal.exponent.toNat) 1
  else ofFraction? decimal.isNegative decimal.digits (Nat.pow 10 (-decimal.exponent).toNat)

/-- A whole number, rounded.  There is no result if it is too large. -/
def ofInt? (number : Int) : Option Binary :=
  ofDecimal? { isNegative := decide (number < 0), digits := number.natAbs, exponent := 0 }

def truncated? : Binary → Option Int
  | finite isNegative significand exponent =>
      let (numerator, denominator) := scale significand 1 (-exponent)
      some (withSign isNegative (numerator / denominator))
  | infinite _ | undefined => none

/-- The signed 64-bit word a number is cut down to.  Numbers above the largest
word by more than rounding are refused; the other ones without a word of their
own become the least one. -/
def word? : Binary → Option Int
  | undefined | infinite false => none
  | infinite true => some leastWord
  | number => do
      let whole ← number.truncated?
      if greatestWord + 1 < whole then none
      else if fitsSigned whole then some whole
      else some leastWord

end Binary
end Yaml
end BorrowChecker
