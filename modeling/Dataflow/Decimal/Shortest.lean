import Dataflow.Decimal.Binary64
/-!
# Shortest decimals

`Binary64.shortest` finds the fewest decimal digits that read back to a number, and
among those the nearest ones. The reals that read back to a number form an interval
that ends half way to its neighbours; a decimal is tested against it exactly, over
natural numbers.
-/

namespace Dataflow.Binary64

/-- A decimal `digits · 10 ^ exponent`. -/
structure Decimal where
  digits : Nat
  exponent : Int
deriving DecidableEq

/-- The interval of the reals that read back to a positive finite number, in units of
a quarter of its last place: the ends, whether they belong to it, and the number itself. -/
structure Span where
  low : Nat
  value : Nat
  high : Nat
  closed : Bool
  /-- The power of two that the three are counted in. -/
  unit : Int

/-- The interval of `x`; below a power of two the neighbours stand twice as close. -/
def span (x : Binary64) : Span where
  low := if x.fraction = 0 ∧ 1 < x.exponentBits then 4 * x.significand - 1
    else 4 * x.significand - 2
  value := 4 * x.significand
  high := 4 * x.significand + 2
  closed := x.significand % 2 == 0
  unit := x.exponent - 2

/-- Compares `a · 2 ^ unit` with `d · 10 ^ k`. -/
def compareScaled (a : Nat) (unit : Int) (d : Nat) (k : Int) : Ordering :=
  compare ((a <<< unit.toNat) * Nat.pow 10 (-k).toNat)
    ((d <<< (-unit).toNat) * Nat.pow 10 k.toNat)

/-- Whether the decimal reads back to the number of the interval. -/
def Span.holds (s : Span) (d : Nat) (k : Int) : Bool :=
  match compareScaled s.low s.unit d k, compareScaled s.high s.unit d k with
  | .lt, .gt => true
  | .eq, .gt => s.closed
  | .lt, .eq => s.closed
  | _, _ => false

/-- The least `k` with `value < 10 ^ k`. -/
def Span.scale (s : Span) : Int :=
  let log10 : Int := (Nat.log2 s.value + s.unit) * 30103 / 100000
  let candidates := [log10 - 1, log10, log10 + 1, log10 + 2]
  (candidates.find? fun k => compareScaled s.value s.unit 1 k == .lt).getD (log10 + 3)

/-- The nearest decimal on the grid `10 ^ k` that reads back, if there is one. Of two
that are equally near the even one is taken. -/
def Span.onGrid (s : Span) (k : Int) : Option Nat :=
  let below := (s.value <<< s.unit.toNat) * Nat.pow 10 (-k).toNat /
    ((1 <<< (-s.unit).toNat) * Nat.pow 10 k.toNat)
  match s.holds below k, s.holds (below + 1) k with
  | true, false => some below
  | false, true => some (below + 1)
  | false, false => none
  | true, true =>
    match compareScaled (2 * s.value) s.unit (2 * below + 1) k with
    | .lt => some below
    | .gt => some (below + 1)
    | .eq => some (below + below % 2)

/-- Moves the zeros at the end of the digits into the exponent; `fuel` bounds their number. -/
def Decimal.strip : Nat → Decimal → Decimal
  | 0, d => d
  | fuel + 1, d =>
    if d.digits ≠ 0 ∧ d.digits % 10 = 0 then strip fuel ⟨d.digits / 10, d.exponent + 1⟩ else d

/-- The fewest digits that read back to the positive finite number `x`. -/
def shortest (x : Binary64) : Decimal :=
  let s := x.span
  let top := s.scale
  let grids := (List.range 17).map fun n : Nat => top - 1 - (n : Int)
  let found := grids.findSome? fun k => (s.onGrid k).map fun d => Decimal.mk d k
  Decimal.strip 400 (found.getD ⟨(s.value <<< s.unit.toNat) * Nat.pow 5 (-s.unit).toNat, min s.unit 0⟩)

example : (ofRatio false 1 10).shortest = ⟨1, -1⟩ := by decide +kernel
example : (ofNat 100).shortest = ⟨1, 2⟩ := by decide +kernel
example : (ofNat 0x10000000000000000).shortest = ⟨18446744073709552, 3⟩ := by decide +kernel
example : (Binary64.mk 1).shortest = ⟨5, -324⟩ := by decide +kernel

end Dataflow.Binary64
