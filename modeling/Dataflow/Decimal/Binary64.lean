/-!
# Binary floating-point numbers

A `Binary64` is a number of 53 significant bits, held by its bit pattern: one sign
bit, eleven bits of exponent and 52 bits of fraction. A finite one stands for
`± significand · 2 ^ exponent`. Products and quotients are computed exactly, over
natural numbers, and rounded once, to the nearest number and to the even one of two
that are equally near.
-/

namespace Dataflow

/-- A binary floating-point number, by its bit pattern. -/
structure Binary64 where
  bits : UInt64
deriving DecidableEq, Inhabited

namespace Binary64

/-- How many fractions there are: they have 52 bits. -/
def fractionCount : Nat := 0x10000000000000

/-- The bits of the greatest exponent, which no finite number has. -/
def lastExponent : Nat := 0x7FF

/-- The sign bit alone. -/
def signBit : Nat := 0x8000000000000000

/-- The eleven bits of the exponent. -/
def exponentBits (x : Binary64) : Nat := x.bits.toNat / fractionCount % (lastExponent + 1)

/-- The 52 bits of the fraction. -/
def fraction (x : Binary64) : Nat := x.bits.toNat % fractionCount

/-- Whether the sign bit is set. -/
def isNegative (x : Binary64) : Bool := signBit ≤ x.bits.toNat

/-- Whether the number is neither infinite nor undefined. -/
def isFinite (x : Binary64) : Bool := x.exponentBits != lastExponent

/-- The significand of a finite number. -/
def significand (x : Binary64) : Nat :=
  if x.exponentBits = 0 then x.fraction else fractionCount + x.fraction

/-- The power of two that the significand of a finite number counts in. -/
def exponent (x : Binary64) : Int :=
  if x.exponentBits = 0 then -1074 else (x.exponentBits : Int) - 1075

/-- The number with the given sign and the given 63 other bits. -/
def ofParts (negative : Bool) (magnitude : Nat) : Binary64 :=
  ⟨UInt64.ofNat ((if negative then signBit else 0) + magnitude)⟩

/-- The 63 bits of infinity. -/
def infiniteMagnitude : Nat := lastExponent * fractionCount

/-- `num / den` rounded to a whole number, a half going to the even neighbour. -/
def roundHalfEven (num den : Nat) : Nat :=
  let q := num / den
  let r := num % den
  if 2 * r < den then q
  else if den < 2 * r then q + 1
  else q + q % 2

/-- The number nearest to `num / den`, infinite when that is too large. -/
def ofRatio (negative : Bool) (num den : Nat) : Binary64 :=
  if num = 0 then ofParts negative 0
  else
    let estimate : Int := (Nat.log2 num : Int) - Nat.log2 den - 52
    let scaled (e : Int) : Nat × Nat :=
      if 0 ≤ e then (num, den <<< e.toNat) else (num <<< (-e).toNat, den)
    let (n, d) := scaled estimate
    let e := max (-1074) (if n < fractionCount * d then estimate - 1 else estimate)
    let (n, d) := scaled e
    let m := roundHalfEven n d
    let magnitude := m + (e + 1074).toNat * fractionCount
    ofParts negative (min magnitude infiniteMagnitude)

/-- The number nearest to a natural number. -/
def ofNat (n : Nat) : Binary64 := ofRatio false n 1

/-- The sign of a product or quotient. -/
def signOf (x y : Binary64) : Bool := x.isNegative != y.isNegative

/-- The product of two finite numbers, rounded. -/
def mul (x y : Binary64) : Binary64 :=
  let m := x.significand * y.significand
  let e := x.exponent + y.exponent
  if 0 ≤ e then ofRatio (signOf x y) (m <<< e.toNat) 1
  else ofRatio (signOf x y) m (1 <<< (-e).toNat)

/-- The quotient of a finite number by a finite number other than zero, rounded. -/
def div (x y : Binary64) : Binary64 :=
  let e := x.exponent - y.exponent
  if 0 ≤ e then ofRatio (signOf x y) (x.significand <<< e.toNat) y.significand
  else ofRatio (signOf x y) x.significand (y.significand <<< (-e).toNat)

/-- The number with the other sign. -/
def neg (x : Binary64) : Binary64 := ofParts (!x.isNegative) (x.bits.toNat % signBit)

example : (ofNat 1).bits = 0x3FF0000000000000 := by decide +kernel
example : (ofRatio false 1 10).bits = 0x3FB999999999999A := by decide +kernel
example : (ofRatio true 3 2).bits = 0xBFF8000000000000 := by decide +kernel
example : (ofNat 0x20000000000001).bits = (ofNat 0x20000000000000).bits := by decide +kernel
example : (ofRatio false 1 (1 <<< 1074)).bits = 1 := by decide +kernel

end Binary64

end Dataflow
