/-
# Binary floating-point numbers

The 64-bit binary interchange format as a word of bits, with its arithmetic done
exactly on natural numbers and rounded once: to the nearest number, and to the
one with the even significand when two are equally near. The machine's own
floating-point unit is not used, so every result can be settled by evaluation.
Powers are written with `Nat.pow`: a statement about them then means the same
whichever instance of the power operator is in scope.
-/

namespace ChatCommands.Number

/-- The quotient of two naturals, rounded to the nearest natural; a half goes to
the even neighbour. -/
def roundDiv (num den : Nat) : Nat :=
  let quotient := num / den
  let twice := 2 * (num % den)
  if twice < den then quotient
  else if twice = den ∧ quotient % 2 = 0 then quotient
  else quotient + 1

/-- A binary floating-point number, given by its 64 bits. -/
structure Binary64 where
  /-- Sign, eleven exponent bits and fifty-two fraction bits. -/
  bits : UInt64
deriving DecidableEq, Repr, Inhabited

namespace Binary64

/-! ## The parts of a number -/

/-- Whether the sign bit is set. -/
def isNegative (x : Binary64) : Bool := x.bits.toNat ≥ Nat.pow 2 63

/-- The eleven exponent bits. -/
def exponentBits (x : Binary64) : Nat := x.bits.toNat / Nat.pow 2 52 % Nat.pow 2 11

/-- The fifty-two fraction bits. -/
def fractionBits (x : Binary64) : Nat := x.bits.toNat % Nat.pow 2 52

/-- Whether the number is neither infinite nor undefined. -/
def isFinite (x : Binary64) : Bool := x.exponentBits < 2047

/-- Whether the bits stand for no number at all. -/
def isUndefined (x : Binary64) : Bool :=
  x.exponentBits = 2047 && x.fractionBits ≠ 0

/-- Whether a finite number is zero, of either sign. -/
def isZero (x : Binary64) : Bool := x.exponentBits = 0 && x.fractionBits = 0

/-- The significand of a finite number: its magnitude is `significand * 2 ^ scale`. -/
def significand (x : Binary64) : Nat :=
  if x.exponentBits = 0 then x.fractionBits else Nat.pow 2 52 + x.fractionBits

/-- The power of two that goes with `significand`. -/
def scale (x : Binary64) : Int :=
  if x.exponentBits = 0 then -1074 else (x.exponentBits : Int) - 1075

/-- The numerator of a finite number's magnitude. -/
def numerator (x : Binary64) : Nat := x.significand * Nat.pow 2 x.scale.toNat

/-- The denominator of a finite number's magnitude, a power of two. -/
def denominator (x : Binary64) : Nat := Nat.pow 2 (-x.scale).toNat

/-! ## Rounding -/

/-- The number with the given sign and the given bits for its magnitude. -/
def ofMagnitude (negative : Bool) (magnitude : Nat) : Binary64 :=
  ⟨UInt64.ofNat (if negative then magnitude + Nat.pow 2 63 else magnitude)⟩

/-- Positive or negative infinity. -/
def infinity (negative : Bool) : Binary64 := ofMagnitude negative (2047 * Nat.pow 2 52)

/-- The bits written for everything that is not a number. -/
def undefined : Binary64 := ⟨0x7FF8000000000000⟩

/-- Positive or negative zero. -/
def zero (negative : Bool) : Binary64 := ofMagnitude negative 0

/-- The power of two at which a positive quotient has a significand of at most
fifty-three bits, without going below the finest power the format has. -/
def quotientScale (num den : Nat) : Int :=
  let estimate : Int := (Nat.log2 num : Int) - Nat.log2 den - 52
  let isShort : Bool :=
    if estimate ≥ 0 then num < den * Nat.pow 2 52 * Nat.pow 2 estimate.toNat
    else num * Nat.pow 2 (-estimate).toNat < den * Nat.pow 2 52
  max (-1074) (if isShort then estimate - 1 else estimate)

/-- The number nearest to a quotient of naturals, with the given sign. A quotient
beyond the greatest finite number becomes infinite. -/
def ofRatio (negative : Bool) (num den : Nat) : Binary64 :=
  if num = 0 then zero negative
  else
    let power := quotientScale num den
    let rounded := roundDiv (num * Nat.pow 2 (-power).toNat) (den * Nat.pow 2 power.toNat)
    let magnitude :=
      if rounded < Nat.pow 2 52 then rounded
      else (power + 1075).toNat * Nat.pow 2 52 + (rounded - Nat.pow 2 52)
    if magnitude ≥ 2047 * Nat.pow 2 52 then infinity negative else ofMagnitude negative magnitude

/-- The number nearest to a natural. -/
def ofNat (n : Nat) : Binary64 := ofRatio false n 1

/-- The number nearest to an integer. -/
def ofInt (n : Int) : Binary64 := ofRatio (n < 0) n.natAbs 1

/-! ## Arithmetic on finite magnitudes -/

/-- The sum of two magnitudes, rounded once. -/
def addMagnitudes (x y : Binary64) : Binary64 :=
  ofRatio false (x.numerator * y.denominator + y.numerator * x.denominator)
    (x.denominator * y.denominator)

/-- The product of two magnitudes, rounded once. -/
def mulMagnitudes (x y : Binary64) : Binary64 :=
  ofRatio false (x.numerator * y.numerator) (x.denominator * y.denominator)

/-- The quotient of two magnitudes, rounded once; the divisor is not zero. -/
def divMagnitudes (x y : Binary64) : Binary64 :=
  ofRatio false (x.numerator * y.denominator) (x.denominator * y.numerator)

/-- The same magnitude with the other sign. -/
def negate (x : Binary64) : Binary64 :=
  ⟨UInt64.ofNat ((x.bits.toNat + Nat.pow 2 63) % Nat.pow 2 64)⟩

/-! ## Decimals -/

/-- How far a decimal may lie from one before it is certain to be zero or infinite. -/
def decimalReach : Nat := 400

/-- The number nearest to `digits * 10 ^ power`. A decimal far outside the format
is recognised by its length, before any power of ten is computed. -/
def ofDecimal (negative : Bool) (digits : Nat) (power : Int) : Binary64 :=
  let size : Int := (Nat.toDigits 10 digits).length + power
  if digits = 0 then zero negative
  else if size > decimalReach then infinity negative
  else if size < -decimalReach then zero negative
  else if power ≥ 0 then ofRatio negative (digits * Nat.pow 10 power.toNat) 1
  else ofRatio negative digits (Nat.pow 10 (-power).toNat)

/-! ## The bits as text -/

/-- The sixteen hexadecimal digits of the bits; all undefined numbers share one
spelling. -/
def toHex (x : Binary64) : String :=
  let code := if x.isUndefined then undefined.bits.toNat else x.bits.toNat
  let digits := Nat.toDigits 16 code
  String.ofList (List.replicate (16 - digits.length) '0' ++ digits)

end Binary64

end ChatCommands.Number
