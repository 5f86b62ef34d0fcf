/-!
# Shortest decimal digits

A binary number `m · 2^q` stands for all reals that round to it. `shortest` finds the fewest decimal
digits that name one of them, and among those the nearest to the number itself. On each decimal grid
only the two neighbours of the number are candidates: if any grid point rounds to the number, one of
them does.

All arithmetic is exact, on natural numbers.
-/

namespace BankQuery.Number

/-- A positive binary number `mantissa · 2^exponent`. The numbers below it are half as far away when
`narrowBelow` holds. -/
structure Binary where
  mantissa : Nat
  exponent : Int
  narrowBelow : Bool

namespace Binary

/-- The number, four times over and times `2^k`, as a natural number, and the power of two to divide
by: the scale at which the borders of the interval are whole. -/
def scaled (b : Binary) : Nat × Nat × Nat × Nat :=
  let up := Nat.pow 2 b.exponent.toNat
  let down := 4 * Nat.pow 2 (-b.exponent).toNat
  let low := if b.narrowBelow then 4 * b.mantissa - 1 else 4 * b.mantissa - 2
  (low * up, 4 * b.mantissa * up, (4 * b.mantissa + 2) * up, down)

/-- Whether `numerator / denominator`, over the common denominator of `scaled`, rounds to the
number. A border rounds to the even mantissa. -/
def covers (b : Binary) (low high value : Nat) : Bool :=
  if b.mantissa % 2 == 0 then low ≤ value && value ≤ high else low < value && value < high

/-- Least `k` with `value < 10^k · unit`, searched upwards from `k`. -/
def magnitudeUp (value unit : Nat) : Nat → Nat → Nat
  | 0, k => k
  | n + 1, k => if value < Nat.pow 10 k * unit then k else magnitudeUp value unit n (k + 1)

/-- Greatest `k` with `value · 10^k < unit`, searched upwards from `k`. -/
def magnitudeDown (value unit : Nat) : Nat → Nat → Nat
  | 0, k => k
  | n + 1, k =>
    if value * Nat.pow 10 (k + 1) < unit then magnitudeDown value unit n (k + 1) else k

/-- The `k` with `10^(k-1) ≤ value / unit < 10^k`. -/
def magnitude (value unit : Nat) : Int :=
  if unit ≤ value then (magnitudeUp value unit 400 0 : Int)
  else -(magnitudeDown value unit 400 0 : Int)

/-- The grid neighbour with `count` digits that rounds to the number, the nearer of two. -/
def onGrid? (b : Binary) (count : Nat) : Option (Nat × Int) :=
  let (low, value, high, unit) := b.scaled
  let step := magnitude value unit - count
  let up := Nat.pow 10 step.toNat
  let down := Nat.pow 10 (-step).toNat
  -- a grid point `d` stands for `d · up · unit / down`
  let below := value * down / (up * unit)
  let lies (d : Nat) : Bool := b.covers (low * down) (high * down) (d * (up * unit))
  let gapBelow := value * down - below * (up * unit)
  let gapAbove := (below + 1) * (up * unit) - value * down
  match lies below, lies (below + 1) with
  | true, true =>
    if gapBelow < gapAbove || (gapBelow == gapAbove && below % 2 == 0) then some (below, step)
    else some (below + 1, step)
  | true, false => some (below, step)
  | false, true => some (below + 1, step)
  | false, false => none

def stripZeros : Nat → Nat × Int → Nat × Int
  | 0, d => d
  | n + 1, (digits, e) =>
    if digits % 10 == 0 && digits != 0 then stripZeros n (digits / 10, e + 1) else (digits, e)

/-- The number as `digits · 10^e` with the fewest digits, none of them a closing zero. -/
def shortest (b : Binary) : Nat × Int :=
  match (List.range 17).findSome? fun n => b.onGrid? (n + 1) with
  | some d => stripZeros 20 d
  | none => (0, 0)

end Binary

end BankQuery.Number
