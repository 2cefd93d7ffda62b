/-!
# Double-precision numbers

A finite double is a sign, a whole number and a power of two. A decimal is read as the nearest
double, a tie going to the even one.
-/

namespace SqlAssist

/-- A double-precision number. A finite one is `mantissa * 2 ^ exponent` with the sign in front;
the mantissa has 53 bits unless the exponent is the least one. -/
inductive Binary64 where
  /-- A finite number, also zero. -/
  | finite (negative : Bool) (mantissa : Nat) (exponent : Int)
  /-- An infinity. -/
  | infinite (negative : Bool)
  /-- No number. -/
  | nan
  deriving DecidableEq, Repr

namespace Binary64

/-- The number of bits of a mantissa. -/
def mantissaBits : Nat := 53

/-- The least exponent of a finite number. -/
def minExponent : Int := -1074

/-- The greatest exponent of a finite number. -/
def maxExponent : Int := 971

/-- The zero with a sign. -/
def zero (negative : Bool) : Binary64 :=
  finite negative 0 minExponent

/-- The quotient rounded to the nearest whole number, a half going to the even one. -/
def roundDiv (num den : Nat) : Nat :=
  let q := num / den
  let r := num % den
  if 2 * r < den then q
  else if den < 2 * r then q + 1
  else if q % 2 = 0 then q else q + 1

/-- The fraction `num / den` divided by a power of two, as a fraction. -/
def scale (num den : Nat) (exponent : Int) : Nat × Nat :=
  if 0 ≤ exponent then (num, den * Nat.pow 2 exponent.toNat)
  else (num * Nat.pow 2 (-exponent).toNat, den)

/-- The double nearest to a positive fraction. -/
def ofFraction (negative : Bool) (num den : Nat) : Binary64 :=
  let guess : Int := (num.log2 : Int) - den.log2 - (mantissaBits - 1)
  let (n, d) := scale num den guess
  let guess := if n < d * Nat.pow 2 (mantissaBits - 1) then guess - 1 else guess
  let exponent := max guess minExponent
  let (n, d) := scale num den exponent
  let m := roundDiv n d
  let (m, exponent) :=
    if m = Nat.pow 2 mantissaBits then (Nat.pow 2 (mantissaBits - 1), exponent + 1)
    else (m, exponent)
  if exponent > maxExponent then infinite negative else finite negative m exponent

/-- The double nearest to `digits * 10 ^ power`, with a sign. Powers that are far out of range are
cut short. -/
def ofDecimal (negative : Bool) (digits : Nat) (power : Int) : Binary64 :=
  if digits = 0 then zero negative
  else
    let size : Int := (Nat.toDigits 10 digits).length + power
    if size > 400 then infinite negative
    else if size < -400 then zero negative
    else if 0 ≤ power then ofFraction negative (digits * Nat.pow 10 power.toNat) 1
    else ofFraction negative digits (Nat.pow 10 (-power).toNat)

/-- Neither positive nor negative. -/
def isZero : Binary64 → Bool
  | finite _ 0 _ => true
  | _ => false

end Binary64

end SqlAssist
