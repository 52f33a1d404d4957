/-!
# Numbers of 53 bits

The numbers a machine word of 64 bits holds in binary: a whole number below 2^53 times a power of
two. A positive fraction is rounded to the nearest of them, a half to the one whose last bit is
zero.
-/

namespace ImportLookup

/-- The number `mantissa * 2 ^ exponent`. -/
structure Binary64 where
  mantissa : Nat
  exponent : Int
deriving DecidableEq, Repr

namespace Binary64

/-- The whole number nearest to a fraction, the even one of two. -/
def roundDiv (num den : Nat) : Nat :=
  let below := num / den
  let twice := 2 * (num % den)
  if den < twice || (twice = den && below % 2 = 1) then below + 1 else below

/-- The least exponent. -/
def minExponent : Int := -1074

/-- The greatest exponent of a finite number. -/
def maxExponent : Int := 971

/-- The fraction `num / den` divided by a power of two, as a fraction. -/
def scale (num den : Nat) (exponent : Int) : Nat × Nat :=
  if exponent < 0 then (num * Nat.pow 2 exponent.natAbs, den)
  else (num, den * Nat.pow 2 exponent.natAbs)

/-- The number nearest to the fraction `num / den`. -/
def nearest (num den : Nat) : Binary64 :=
  if num = 0 then ⟨0, 0⟩
  else
    let guess : Int := (Nat.log2 num : Int) - Nat.log2 den - 52
    let (n, d) := scale num den guess
    let exponent := max (if n < Nat.pow 2 52 * d then guess - 1 else guess) minExponent
    let (n, d) := scale num den exponent
    let mantissa := roundDiv n d
    if mantissa = Nat.pow 2 53 then ⟨Nat.pow 2 52, exponent + 1⟩ else ⟨mantissa, exponent⟩

/-- The number as a fraction. -/
def ratio (x : Binary64) : Nat × Nat := scale x.mantissa 1 (-x.exponent)

/-- The word that stands for a number with a sign; there is none for a number too great. -/
def bits? (negative : Bool) (x : Binary64) : Option UInt64 :=
  let sign : Nat := if negative then Nat.pow 2 63 else 0
  if x.mantissa < Nat.pow 2 52 then some (sign + x.mantissa).toUInt64
  else if maxExponent < x.exponent then none
  else some (sign + (x.exponent + 1075).toNat * Nat.pow 2 52 + (x.mantissa - Nat.pow 2 52)).toUInt64

/-- The word nearest to `digits * 10 ^ exponent`. What is far too small is zero, and what is too
great has none. -/
def ofDecimal? (negative : Bool) (digits : Nat) (exponent : Int) : Option UInt64 :=
  let size : Int := (Nat.toDigits 10 digits).length + exponent
  if digits = 0 || size < -400 then bits? negative ⟨0, 0⟩
  else if 400 < size then none
  else if exponent < 0 then bits? negative (nearest digits (Nat.pow 10 exponent.natAbs))
  else bits? negative (nearest (digits * Nat.pow 10 exponent.natAbs) 1)

end Binary64

end ImportLookup
