/-!
# Doubles

The finite doubles of one sign, as exact numbers `mantissa * 2 ^ exponent`. Every operation rounds
the exact result once, to the nearest double, a tie going to the even mantissa; a result past the
largest double is `none`.
-/

namespace QueryLint

/-- The double `mantissa * 2 ^ exponent`. The mantissa has at most 53 bits, and fewer only at the
least exponent. -/
structure Binary64 where
  mantissa : Nat
  exponent : Int
  deriving DecidableEq, Repr, Inhabited

namespace Binary64

/-- The exponent of the smallest doubles. -/
def leastExponent : Int := -1074

/-- The exponent of the largest doubles. -/
def greatestExponent : Int := 971

/-- The least mantissa with 53 bits, `2 ^ 52`. -/
def leastFullMantissa : Nat := 0x10000000000000

/-- The number zero. -/
def zero : Binary64 := ⟨0, leastExponent⟩

/-- The quotient of two numbers, rounded to the nearest integer, a tie to the even one. -/
def roundDiv (num den : Nat) : Nat :=
  let quotient := num / den
  let rest := 2 * (num % den)
  if rest < den then quotient
  else if rest = den then quotient + quotient % 2
  else quotient + 1

/-- The numerator of the exact value as a fraction. -/
def numerator (x : Binary64) : Nat := x.mantissa <<< x.exponent.toNat

/-- The denominator of the exact value as a fraction. -/
def denominator (x : Binary64) : Nat := 1 <<< (-x.exponent).toNat

/-- The quotient `num / den` in units of `2 ^ exponent`, rounded. -/
def scaledDiv (num den : Nat) (exponent : Int) : Nat :=
  roundDiv (num <<< (-exponent).toNat) (den <<< exponent.toNat)

/-- The exponent at which the quotient `num / den` has 53 bits, or the least one if that is greater.
-/
def exponentFor (num den : Nat) : Int :=
  let guess : Int := (num.log2 : Int) - (den.log2 : Int) - 52
  let whole := (num <<< (-guess).toNat) / (den <<< guess.toNat)
  max leastExponent (if whole < leastFullMantissa then guess - 1 else guess)

/-- The double nearest to `num / den`. -/
def ofRatio? (num den : Nat) : Option Binary64 :=
  if num = 0 then some zero
  else
    let exponent := exponentFor num den
    let mantissa := scaledDiv num den exponent
    let result : Binary64 :=
      if mantissa = 2 * leastFullMantissa then ⟨leastFullMantissa, exponent + 1⟩
      else ⟨mantissa, exponent⟩
    if result.exponent ≤ greatestExponent then some result else none

/-- The product of two doubles. -/
def mul? (x y : Binary64) : Option Binary64 :=
  ofRatio? (x.numerator * y.numerator) (x.denominator * y.denominator)

/-- The quotient of two doubles, the second of which is not zero. -/
def div? (x y : Binary64) : Option Binary64 :=
  ofRatio? (x.numerator * y.denominator) (x.denominator * y.numerator)

/-- The greatest power of ten that is a double. -/
def greatestTenPower : Nat := 308

/-- The double nearest to a power of ten. -/
def tenPower (power : Nat) : Binary64 :=
  (ofRatio? (Nat.pow 10 power) 1).getD zero

/-- A double divided by a power of ten, in at most two steps: what a third step would leave of a
double below `2 ^ 64` is zero. -/
def divTenPower (x : Binary64) (power : Nat) : Binary64 :=
  let step (y : Binary64) (n : Nat) := (y.div? (tenPower n)).getD zero
  if power ≤ greatestTenPower then step x power
  else if power ≤ 2 * greatestTenPower then
    step (step x greatestTenPower) (power - greatestTenPower)
  else zero

/-- The double that `significand * 10 ^ power` is read as: the double nearest to the significand,
times or divided by a power of ten. This takes two roundings, so the result need not be the nearest
double. -/
def ofDecimal? (significand : Nat) (power : Int) : Option Binary64 := do
  let x ← ofRatio? significand 1
  if significand = 0 then return zero
  else if power < 0 then return x.divTenPower (-power).toNat
  else if power ≤ greatestTenPower then x.mul? (tenPower power.toNat)
  else none

end Binary64

end QueryLint
