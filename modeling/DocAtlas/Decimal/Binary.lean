import DocAtlas.Power

/-!
Double precision numbers as `mantissa * 2 ^ exponent`, and the nearest of them to a quotient.
-/
namespace DocAtlas.Decimal

/-- A non-negative number `mantissa * 2 ^ exponent`. -/
structure Binary where
  mantissa : Nat
  exponent : Int
deriving DecidableEq

inductive Shape where
  | finite (negative : Bool) (size : Binary)
  | infinite (negative : Bool)
  | undefined
deriving DecidableEq

def shape (x : Float) : Shape :=
  let bits := x.toBits.toNat
  let negative := twoTo 63 ≤ bits
  let exponent : Nat := bits / twoTo 52 % twoTo 11
  let fraction := bits % twoTo 52
  if exponent = 2047 then (if fraction = 0 then .infinite negative else .undefined)
  else if exponent = 0 then .finite negative ⟨fraction, -1074⟩
  else .finite negative ⟨fraction + twoTo 52, (exponent : Int) - 1075⟩

def infinity (negative : Bool) : Float :=
  Float.ofBits (if negative then 0xFFF0000000000000 else 0x7FF0000000000000)

def undefinedNumber : Float := Float.ofBits 0x7FF8000000000000

/-- The quotient rounded to the nearest integer, a half to the even neighbour. -/
def roundHalfEven (num den : Nat) : Nat :=
  let q := num / den
  let twice := 2 * (num % den)
  if den < twice || (den == twice && q % 2 == 1) then q + 1 else q

/-- `num / den / 2 ^ e` as a quotient of natural numbers. -/
def scaled (num den : Nat) (e : Int) : Nat × Nat :=
  if 0 ≤ e then (num, den * twoTo e.toNat) else (num * twoTo (-e).toNat, den)

/-- The exponent that gives the quotient a mantissa of 53 binary digits, unless it is smaller than
any exponent. -/
def exponentFor (num den : Nat) : Int :=
  let guess := (num.log2 : Int) - (den.log2 : Int) - 53
  let parts := scaled num den guess
  max (if parts.1 < parts.2 * twoTo 53 then guess else guess + 1) (-1074)

/-- The bits of the double with the exponent `e` that is nearest to a quotient; `none` if it is too
large. -/
def bitsAt? (num den : Nat) (e : Int) : Option Nat :=
  let (n, d) := scaled num den e
  let m := roundHalfEven n d
  let (m, e) := if m = twoTo 53 then (twoTo 52, e + 1) else (m, e)
  if 971 < e then none
  else if m < twoTo 52 then some m
  else some ((e + 1075).toNat * twoTo 52 + (m - twoTo 52))

/-- The bits of the double nearest to a positive quotient; `none` if it is too large. -/
def nearestBits? (num den : Nat) : Option Nat := bitsAt? num den (exponentFor num den)

/-- The double nearest to a quotient, a tie going to the even mantissa. -/
def nearest? (negative : Bool) (num den : Nat) : Option Float :=
  let sign := if negative then twoTo 63 else 0
  if num = 0 then some (Float.ofBits (UInt64.ofNat sign))
  else (nearestBits? num den).map fun bits => Float.ofBits (UInt64.ofNat (sign + bits))

/-- As `nearest?`, with infinity for what is too large. -/
def nearest (negative : Bool) (num den : Nat) : Float :=
  (nearest? negative num den).getD (infinity negative)

/-- The nearest double to an integer, if it is in range. -/
def ofInt? (n : Int) : Option Float := nearest? (n < 0) n.natAbs 1

/-- The exact value of a finite double. -/
def toRat? (x : Float) : Option Rat :=
  match shape x with
  | .finite negative ⟨m, e⟩ =>
    let size := if 0 ≤ e then mkRat (m * twoTo e.toNat) 1 else mkRat m (twoTo (-e).toNat)
    some (if negative then -size else size)
  | _ => none

end DocAtlas.Decimal
