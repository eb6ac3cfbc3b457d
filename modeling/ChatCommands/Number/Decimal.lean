/-
# Decimal text of binary numbers

Two ways of writing a finite binary number in decimal: with a fixed number of
places, rounded exactly from the binary value, and with as few significant
digits as suffice to read the same number back.
-/

import ChatCommands.Number.Binary64

namespace ChatCommands.Number

/-- The decimal digits of a natural, at least `width` of them. -/
def padded (width n : Nat) : String :=
  let digits := Nat.toDigits 10 n
  String.ofList (List.replicate (width - digits.length) '0' ++ digits)

/-- The integer part and the places of a count of units of the last place. -/
def pointed (places units : Nat) : String :=
  if places = 0 then toString units
  else toString (units / Nat.pow 10 places) ++ "." ++ padded places (units % Nat.pow 10 places)

namespace Binary64

/-- A finite number with a fixed number of places. The binary value is rounded
exactly; a tie goes to the even last digit. -/
def fixed (places : Nat) (x : Binary64) : String :=
  let text := pointed places (roundDiv (x.numerator * Nat.pow 10 places) x.denominator)
  if x.isNegative then "-" ++ text else text

/-! ## Fewest digits -/

/-- The position of the leading decimal digit of a positive quotient: the greatest
power of ten that does not exceed it. The search starts above the answer. -/
def leadingPower (num den : Nat) : Nat → Int → Int
  | 0, power => power
  | fuel + 1, power =>
    let reached : Bool :=
      if power ≥ 0 then den * Nat.pow 10 power.toNat ≤ num
      else den ≤ num * Nat.pow 10 (-power).toNat
    if reached then power else leadingPower num den fuel (power - 1)

/-- A positive number rounded to `count` significant digits, as a count of units
and the power of ten of one unit. -/
def roundedTo (x : Binary64) (leading : Int) (count : Nat) : Nat × Int :=
  let unit : Int := leading - (count : Int) + 1
  (roundDiv (x.numerator * Nat.pow 10 (-unit).toNat) (x.denominator * Nat.pow 10 unit.toNat), unit)

/-- The fewest significant digits, from `count` up, that read back as the same
number. Seventeen always do. -/
def fewestDigits (x : Binary64) (leading : Int) : Nat → Nat → Nat × Int
  | 0, count => roundedTo x leading count
  | fuel + 1, count =>
    let candidate := roundedTo x leading count
    if ofDecimal false candidate.1 candidate.2 = ofMagnitude false (x.bits.toNat % Nat.pow 2 63) then
      candidate
    else fewestDigits x leading fuel (count + 1)

/-- Units without their trailing zeros, with the power of ten adjusted. -/
def stripZeros : Nat → Nat × Int → Nat × Int
  | 0, decimal => decimal
  | fuel + 1, (units, power) =>
    if units ≠ 0 ∧ units % 10 = 0 then stripZeros fuel (units / 10, power + 1)
    else (units, power)

/-- Lay out significant digits: positional for moderate sizes, always with a
point, and in scientific form otherwise. -/
def layout (units : Nat) (power : Int) : String :=
  let digits := Nat.toDigits 10 units
  let point : Int := digits.length + power
  if 0 ≤ power ∧ point ≤ 16 then
    String.ofList (digits ++ List.replicate power.toNat '0') ++ ".0"
  else if 0 < point ∧ point ≤ 16 then
    String.ofList (digits.take point.toNat) ++ "." ++ String.ofList (digits.drop point.toNat)
  else if -5 < point ∧ point ≤ 0 then
    "0." ++ String.ofList (List.replicate (-point).toNat '0' ++ digits)
  else
    let fraction := if digits.length ≤ 1 then "" else "." ++ String.ofList (digits.drop 1)
    String.ofList (digits.take 1) ++ fraction ++ "e" ++ toString (point - 1)

/-- The shortest decimal text of a finite number that reads back as that number. -/
def shortest (x : Binary64) : String :=
  let sign := if x.isNegative then "-" else ""
  if x.isZero then sign ++ "0.0"
  else
    let leading := leadingPower x.numerator x.denominator 700 309
    let decimal := stripZeros 20 (fewestDigits x leading 16 1)
    sign ++ layout decimal.1 decimal.2

end Binary64

end ChatCommands.Number
