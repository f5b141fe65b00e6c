import QueryLint.Number.Binary64

/-!
# Decimal texts of doubles

`Decimal.shortest x` is a decimal with the fewest digits among those that are nearer to `x` than to
any other double, and the nearest of these to `x`. `Decimal.render` writes a decimal by its digits
alone while its point stands near them, and with an exponent of ten otherwise.
-/

namespace QueryLint

/-- The number `digits * 10 ^ power`. -/
structure Decimal where
  digits : Nat
  power : Int
  deriving DecidableEq, Repr, Inhabited

namespace Decimal

/-- A double with the two ends of the interval that rounds to it, in units of a quarter of the
distance to the next double. -/
structure Rounding where
  low : Nat
  value : Nat
  high : Nat
  /-- Whether the ends themselves round to the double. -/
  closed : Bool
  /-- The exponent of two of the unit. -/
  unit : Int
  deriving Repr

/-- The interval that rounds to a double. Below a power of two, doubles lie twice as dense. -/
def rounding (x : Binary64) : Rounding where
  low := 4 * x.mantissa -
    (if x.mantissa = Binary64.leastFullMantissa ∧ x.exponent ≠ Binary64.leastExponent then 1 else 2)
  value := 4 * x.mantissa
  high := 4 * x.mantissa + 2
  closed := x.mantissa % 2 == 0
  unit := x.exponent - 2

/-- The neighbour of a double among the multiples of `10 ^ power`, if one rounds to the double. With
`scale` units to `grid` parts, a multiple `n` stands at `n * grid` and a point `p` of the interval
at `p * scale`. -/
def onGrid? (x : Rounding) (power : Int) : Option Nat :=
  let scale := Nat.pow 10 (-power).toNat <<< x.unit.toNat
  let grid := Nat.pow 10 power.toNat <<< (-x.unit).toNat
  let value := x.value * scale
  let inside (n : Nat) : Bool :=
    if x.closed then x.low * scale ≤ n * grid && n * grid ≤ x.high * scale
    else x.low * scale < n * grid && n * grid < x.high * scale
  let below := value / grid
  let nearest := Binary64.roundDiv value grid
  let other := if nearest = below then below + 1 else below
  if inside nearest then some nearest else if inside other then some other else none

/-- An upper bound for the power of ten of the first digit: 2 ^ 10 is more than 10 ^ 3. -/
def powerBound (x : Binary64) : Int :=
  let bits : Int := x.exponent + x.mantissa.log2 + 1
  if 0 ≤ bits then bits * 30103 / 100000 + 2 else bits * 30102 / 100000 + 2

/-- The first of `count` grids, from `power` down, with a decimal that rounds to the double. -/
def firstOnGrid (x : Rounding) (power : Int) : Nat → Decimal
  | 0 => ⟨0, 0⟩
  | count + 1 =>
    match onGrid? x power with
    | some digits => if digits = 0 then firstOnGrid x (power - 1) count else ⟨digits, power⟩
    | none => firstOnGrid x (power - 1) count

/-- The shortest decimal that is read back as a double. Seventeen digits always suffice. -/
def shortest (x : Binary64) : Decimal :=
  if x.mantissa = 0 then ⟨0, 0⟩ else firstOnGrid (rounding x) (powerBound x) 24

/-- Which decimals are written without an exponent. -/
structure Extent where
  /-- The most digits before the point. -/
  whole : Nat
  /-- The most zeros between the point and the digits. -/
  zeros : Nat
  deriving DecidableEq, Repr

/-- Digits times a power of ten without an exponent, with at least one digit on each side of the
point. -/
def positional (digits : List Char) (power : Int) : List Char :=
  if 0 ≤ power then digits ++ List.replicate power.toNat '0' ++ ['.', '0']
  else
    let places := (-power).toNat
    let padded := List.replicate (places + 1 - digits.length) '0' ++ digits
    padded.take (padded.length - places) ++ '.' :: padded.drop (padded.length - places)

/-- Digits with the point after the first of them, if there are more, and the exponent of ten with
its sign. -/
def scientific (digits : List Char) (exponent : Int) : List Char :=
  digits.take 1 ++ (if digits.length ≤ 1 then [] else '.' :: digits.drop 1) ++
    'e' :: (if 0 ≤ exponent then '+' else '-') :: Nat.toDigits 10 exponent.natAbs

/-- The text of a decimal. The point stands `digits.length + power` places after the start of the
digits. -/
def render (extent : Extent) (x : Decimal) : String :=
  let digits := Nat.toDigits 10 x.digits
  let point : Int := digits.length + x.power
  String.ofList <|
    if -(extent.zeros : Int) ≤ point ∧ point ≤ extent.whole then positional digits x.power
    else scientific digits (point - 1)

end Decimal

end QueryLint
