/-!
# Decimal text of binary fractions

A finite binary64 number is shown by the fewest decimal digits that read back as that number;
of several such texts the nearest is taken, and of two equally near the one with an even last
digit. The digits are found with exact arithmetic on natural numbers: the numbers that round to
the given one form an interval, and a decimal grid is fine enough when a point next to the
number lies in it.
-/

namespace Deckwright.Json

/-- A positive rational number, or zero. -/
structure Ratio where
  /-- Numerator. -/
  num : Nat
  /-- Denominator, which is positive. -/
  den : Nat

namespace Ratio

/-- Order by value. -/
def le (a b : Ratio) : Bool := a.num * b.den ≤ b.num * a.den

/-- Strict order by value. -/
def lt (a b : Ratio) : Bool := a.num * b.den < b.num * a.den

/-- A natural number times a power of two, over four, so that half steps are whole. -/
def scaled (quarters : Nat) (exponent : Int) : Ratio :=
  if 0 ≤ exponent then ⟨quarters * Nat.pow 2 exponent.toNat, 4⟩
  else ⟨quarters, 4 * Nat.pow 2 (-exponent).toNat⟩

/-- A natural number times a power of ten. -/
def decimal (digits : Nat) (exponent : Int) : Ratio :=
  if 0 ≤ exponent then ⟨digits * Nat.pow 10 exponent.toNat, 1⟩
  else ⟨digits, Nat.pow 10 (-exponent).toNat⟩

end Ratio

/-- The numbers that round to one binary number: its value, the ends of the interval, and
whether the ends belong to it. -/
structure RoundingInterval where
  /-- Least number of the interval. -/
  lower : Ratio
  /-- The number itself. -/
  value : Ratio
  /-- Greatest number of the interval. -/
  upper : Ratio
  /-- The ends belong to the interval. -/
  closed : Bool

namespace RoundingInterval

/-- The interval of a positive finite binary64 number from its fraction and exponent fields. -/
def ofFields (exponentField fraction : Nat) : RoundingInterval :=
  let significand := if exponentField = 0 then fraction else fraction + Nat.pow 2 52
  let exponent : Int := (max exponentField 1 : Nat) - 1075
  let below := if fraction = 0 ∧ 1 < exponentField then 1 else 2
  { lower := .scaled (4 * significand - below) exponent
    value := .scaled (4 * significand) exponent
    upper := .scaled (4 * significand + 2) exponent
    closed := significand % 2 = 0 }

/-- The number is in the interval. -/
def contains (i : RoundingInterval) (r : Ratio) : Bool :=
  if i.closed then i.lower.le r && r.le i.upper else i.lower.lt r && r.lt i.upper

/-- The nearest point in the interval on the grid of multiples of a power of ten, if either
neighbour of the value lies in it. -/
def onGrid? (i : RoundingInterval) (exponent : Int) : Option Nat :=
  let scale := if 0 ≤ exponent then (i.value.num, i.value.den * Nat.pow 10 exponent.toNat)
    else (i.value.num * Nat.pow 10 (-exponent).toNat, i.value.den)
  let below := scale.1 / scale.2
  let twiceRest := 2 * (scale.1 % scale.2)
  let belowIn := below != 0 && i.contains (.decimal below exponent)
  let aboveIn := i.contains (.decimal (below + 1) exponent)
  if belowIn && aboveIn then
    if twiceRest < scale.2 || (twiceRest = scale.2 && below % 2 = 0) then some below
    else some (below + 1)
  else if belowIn then some below
  else if aboveIn then some (below + 1)
  else none

/-- The digits on the coarsest grid that has a point in the interval, going down from the given
exponent. -/
def shortest (i : RoundingInterval) : (fuel : Nat) → (exponent : Int) → Nat × Int
  | 0, exponent => (0, exponent)
  | fuel + 1, exponent =>
    match i.onGrid? exponent with
    | some digits => (digits, exponent)
    | none => i.shortest fuel (exponent - 1)

end RoundingInterval

/-- Greatest power of ten below the largest binary64 number. -/
def greatestExponent : Int := 308

/-- Number of powers of ten between the largest and the least positive binary64 number. -/
def exponentRange : Nat := 640

/-- How a decimal number is laid out. -/
structure DecimalLayout where
  /-- Least exponent of the first digit that is written with leading zeros. -/
  leastPositional : Int
  /-- Least exponent of the first digit that is written with an exponent again. -/
  endPositional : Int
  /-- Least number of digits of an exponent. -/
  exponentDigits : Nat

namespace DecimalLayout

/-- Write a positive number from its digits, without trailing zeros, and the exponent of the
last one. -/
def write (layout : DecimalLayout) (digits : List Char) (exponent : Int) : List Char :=
  let first := exponent + digits.length - 1
  if first < layout.leastPositional || layout.endPositional ≤ first then
    let power := Nat.toDigits 10 first.natAbs
    let mantissa := match digits with
      | d :: e :: rest => d :: '.' :: e :: rest
      | digits => digits
    mantissa ++ ['e', if 0 ≤ first then '+' else '-']
      ++ List.replicate (layout.exponentDigits - power.length) '0' ++ power
  else if 0 ≤ exponent then digits ++ List.replicate exponent.toNat '0' ++ ['.', '0']
  else if 0 ≤ first then
    let whole := first.toNat + 1
    digits.take whole ++ '.' :: digits.drop whole
  else '0' :: '.' :: List.replicate (-first - 1).toNat '0' ++ digits

end DecimalLayout

/-- Numbers in messages are positional from 0.00001 up to sixteen digits before the point, and
always show a point or an exponent. -/
def messageLayout : DecimalLayout := ⟨-5, 16, 2⟩

/-- Digits without the zeros at their end, and the exponent that goes with them. -/
def dropTrailingZeros (digits : List Char) (exponent : Int) : List Char × Int :=
  let zeros := (digits.reverse.takeWhile (· == '0')).length
  (digits.take (digits.length - zeros), exponent + zeros)

/-- The decimal text of a binary64 number. -/
def showFloat (x : Float) : String :=
  let bits := x.toBits.toNat
  let magnitude := bits % Nat.pow 2 63
  let sign := if bits = magnitude then [] else ['-']
  let body :=
    if magnitude = 0 then ['0', '.', '0']
    else
      let interval := RoundingInterval.ofFields (magnitude / Nat.pow 2 52)
        (magnitude % Nat.pow 2 52)
      let (digits, exponent) := interval.shortest exponentRange greatestExponent
      let (shown, exponent) := dropTrailingZeros (Nat.toDigits 10 digits) exponent
      messageLayout.write shown exponent
  String.ofList (sign ++ body)

end Deckwright.Json
