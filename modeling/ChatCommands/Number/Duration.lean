/-
# Durations

A duration is a count of nanoseconds. Reports show it as a binary number of
seconds, computed from the whole seconds and the nanoseconds beyond them;
configuration gives it as one, which is rounded to the nearest nanosecond.
-/

import ChatCommands.Number.Decimal

namespace ChatCommands.Number

/-- A duration, counted in nanoseconds. -/
abbrev Duration := Nat

namespace Duration

/-- The nanoseconds of a second. -/
def perSecond : Nat := 1000000000

/-- A duration in seconds: the whole seconds and the fraction are rounded each, and
so is their sum. -/
def seconds (duration : Duration) : Binary64 :=
  Binary64.addMagnitudes (.ofNat (duration / perSecond))
    (Binary64.divMagnitudes (.ofNat (duration % perSecond)) (.ofNat perSecond))

/-- The greatest number of whole seconds, plus one. -/
def secondsBound : Nat := 18446744073709551616

/-- The duration nearest to a number of seconds, and to the even one of two. Of
numbers below zero, beyond reach or undefined there is no duration. -/
def ofSeconds? (seconds : Binary64) : Option Duration :=
  if !seconds.isFinite then none
  else if seconds.isNegative && !seconds.isZero then none
  else if seconds.numerator ≥ secondsBound * seconds.denominator then none
  else some (roundDiv (seconds.numerator * perSecond) seconds.denominator)

/-- A duration in seconds with a fixed number of places. -/
def text (places : Nat) (duration : Duration) : String := (seconds duration).fixed places

end Duration

end ChatCommands.Number
