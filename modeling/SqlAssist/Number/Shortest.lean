import SqlAssist.Number.Binary64
import SqlAssist.Text.Basic

/-!
# The shortest text of a double

A double is written with the fewest digits that read back as it; of several such digit strings the
nearest is taken. Numbers from `1e-4` up to below `1e16` are written positionally.
-/

namespace SqlAssist.Binary64

/-- A positive number as an exact fraction. -/
def fraction (m : Nat) (e : Int) : Nat × Nat :=
  if 0 ≤ e then (m * Nat.pow 2 e.toNat, 1) else (m, Nat.pow 2 (-e).toNat)

/-- The ends of the interval of numbers that read as `m * 2 ^ e`, in quarters of the last place:
the lower end is nearer where the mantissa is the least with all its bits. -/
def interval (m : Nat) (e : Int) : Nat × Nat :=
  (if m = Nat.pow 2 (mantissaBits - 1) ∧ e > minExponent then 4 * m - 1 else 4 * m - 2,
    4 * m + 2)

/-- `k * 10 ^ p` reads as `m * 2 ^ e`. The ends of the interval do so when the mantissa is even. -/
def readsAs (m : Nat) (e : Int) (k : Nat) (p : Int) : Bool :=
  let (low, high) := interval m e
  let (num, den) := fraction 1 (e - 2)
  let left := (if 0 ≤ p then k * Nat.pow 10 p.toNat else k) * den
  let unit := num * (if 0 ≤ p then 1 else Nat.pow 10 (-p).toNat)
  if m % 2 = 0 then low * unit ≤ left && left ≤ high * unit
  else low * unit < left && left < high * unit

/-- The number of digits before the decimal point of `num / den`; not positive if it is below one
tenth. The search starts at `p` and takes at most `fuel` steps either way. -/
def pointOf (num den : Nat) : (fuel : Nat) → (p : Int) → Int
  | 0, p => p
  | fuel + 1, p =>
    let above :=
      if 0 ≤ p then num ≥ den * Nat.pow 10 p.toNat else num * Nat.pow 10 (-p).toNat ≥ den
    let below :=
      if 1 ≤ p then num < den * Nat.pow 10 (p - 1).toNat
      else num * Nat.pow 10 (1 - p).toNat < den
    if above then pointOf num den fuel (p + 1)
    else if below then pointOf num den fuel (p - 1)
    else p

/-- The digits and the power of ten for the given number of digits, if a decimal of that size reads
back. -/
def digitsAt? (m : Nat) (e : Int) (point : Int) (count : Nat) : Option (Nat × Int) :=
  let (num, den) := fraction m e
  let p := point - count
  let num' := if 0 ≤ p then num else num * Nat.pow 10 (-p).toNat
  let den' := if 0 ≤ p then den * Nat.pow 10 p.toNat else den
  let k := num' / den'
  let nearest := roundDiv num' den'
  if readsAs m e nearest p then some (nearest, p)
  else if readsAs m e k p then some (k, p)
  else if readsAs m e (k + 1) p then some (k + 1, p)
  else none

/-- The fewest digits that read back, with their power of ten; `left` more counts are tried. -/
def shortestFrom (m : Nat) (e : Int) (point : Int) : (left : Nat) → (count : Nat) → Nat × Int
  | 0, _ => (m, e)
  | left + 1, count =>
    match digitsAt? m e point count with
    | some d => d
    | none => shortestFrom m e point left (count + 1)

/-- The digits of a positive number and the place of its decimal point among them. -/
def shortest (m : Nat) (e : Int) : Text × Int :=
  let (num, den) := fraction m e
  let guess : Int := ((num.log2 : Int) - den.log2) * 3 / 10
  let (k, p) := shortestFrom m e (pointOf num den 200 guess) 17 1
  let digits := Nat.toDigits 10 k
  (Text.dropWhileEnd (· = '0') digits, digits.length + p)

/-- Digits with the decimal point at a place, which may lie outside of them. -/
def positional (digits : Text) (point : Int) : Text :=
  if point ≤ 0 then "0.".toList ++ List.replicate (-point).toNat '0' ++ digits
  else
    let n := point.toNat
    if digits.length ≤ n then digits ++ List.replicate (n - digits.length) '0' ++ ".0".toList
    else digits.take n ++ '.' :: digits.drop n

/-- Digits in scientific notation; the exponent has a sign and at least two digits. -/
def scientific (digits : Text) (point : Int) : Text :=
  let exponent := point - 1
  let size := Nat.toDigits 10 exponent.natAbs
  digits.take 1 ++ (if digits.length > 1 then '.' :: digits.drop 1 else [])
    ++ ['e', if exponent < 0 then '-' else '+']
    ++ (if size.length < 2 then '0' :: size else size)

/-- How the numbers that are not finite are spelt. -/
structure Spelling where
  /-- The infinity, without its sign. -/
  infinity : Text
  /-- The value that is no number. -/
  nan : Text

/-- The text of a number. -/
def toText (spelling : Spelling) : Binary64 → Text
  | nan => spelling.nan
  | infinite negative => (if negative then ['-'] else []) ++ spelling.infinity
  | finite negative m e =>
    (if negative then ['-'] else []) ++
      if m = 0 then "0.0".toList
      else
        let (digits, point) := shortest m e
        if -4 < point ∧ point ≤ 16 then positional digits point else scientific digits point

end SqlAssist.Binary64
