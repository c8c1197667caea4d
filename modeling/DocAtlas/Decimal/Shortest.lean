import DocAtlas.Decimal.Binary

/-!
The shortest decimal text of a double: the fewest digits that read back, and of those the nearest.
-/
namespace DocAtlas.Decimal

/-- The bounds of the reals that round to a double, as numerators over a common denominator. -/
structure Interval where
  low : Nat
  value : Nat
  high : Nat
  den : Nat
  closed : Bool

def Binary.interval (b : Binary) : Interval :=
  let closer := b.mantissa = twoTo 52 && -1074 < b.exponent
  let below := if closer then 1 else 2
  let up := if 0 ≤ b.exponent then twoTo b.exponent.toNat else 1
  let down := if 0 ≤ b.exponent then 1 else twoTo (-b.exponent).toNat
  ⟨(4 * b.mantissa - below) * up, 4 * b.mantissa * up, (4 * b.mantissa + 2) * up, 4 * down,
    b.mantissa % 2 == 0⟩

/-- Whether `n * 10 ^ e` lies in the interval. -/
def Interval.holds (i : Interval) (n : Nat) (e : Int) : Bool :=
  let up := if 0 ≤ e then tenTo e.toNat else 1
  let down := if 0 ≤ e then 1 else tenTo (-e).toNat
  let x := n * up * i.den
  if i.closed then i.low * down ≤ x && x ≤ i.high * down
  else i.low * down < x && x < i.high * down

/-- The neighbour of the value on the grid of multiples of `10 ^ e` that reads back, the nearer if
both do. -/
def Interval.onGrid? (i : Interval) (e : Int) : Option Nat :=
  let up := if 0 ≤ e then tenTo e.toNat else 1
  let down := if 0 ≤ e then 1 else tenTo (-e).toNat
  let num := i.value * down
  let den := i.den * up
  let n := num / den
  let nearer := roundHalfEven num den
  match i.holds n e, i.holds (n + 1) e with
  | true, true => some nearer
  | true, false => some n
  | false, true => some (n + 1)
  | false, false => none

def digitCount (n : Nat) : Nat := (Nat.toDigits 10 n).length

/-- The position of the leading digit of a positive quotient: the `k` with
`10 ^ k ≤ num / den < 10 ^ (k + 1)`. -/
def leading (num den : Nat) : Int :=
  if den ≤ num then (digitCount (num / den) : Int) - 1
  else
    let k := digitCount (den / num) - 1
    if num * tenTo k < den then -(k : Int) - 1 else -(k : Int)

/-- A positive double as digits and the exponent of the last digit. -/
def shortest (b : Binary) : Nat × Int :=
  let i := b.interval
  let top := leading i.value i.den
  let grids := (List.range 17).map fun (d : Nat) => top - (d : Int)
  match grids.findSome? fun e => (i.onGrid? e).map (·, e) with
  | some found => found
  | none => (i.value / i.den, 0)

/-- Digits without trailing zeros; each one dropped raises the exponent. -/
def stripZeros : Nat → Nat × Int → Nat × Int
  | 0, x => x
  | fuel + 1, (n, e) => if n % 10 = 0 && n != 0 then stripZeros fuel (n / 10, e + 1) else (n, e)

/-- How numbers are laid out: positional from `10 ^ -4` to before `10 ^ 16`, always with a fraction;
exponents have a sign and two digits. -/
def layout (n : Nat) (e : Int) : String :=
  let digits := toString n
  let point := (digits.length : Int) + e
  if -4 < point && point ≤ 16 then
    if point ≤ 0 then "0." ++ String.ofList (List.replicate (-point).toNat '0') ++ digits
    else if 0 ≤ e then digits ++ String.ofList (List.replicate e.toNat '0') ++ ".0"
    else
      String.ofList (digits.toList.take point.toNat) ++ "." ++
        String.ofList (digits.toList.drop point.toNat)
  else
    let power := point - 1
    let size := toString power.natAbs
    let size := if size.length < 2 then "0" ++ size else size
    let head := String.ofList (digits.toList.take 1)
    let tail := String.ofList (digits.toList.drop 1)
    let sign := if power < 0 then "-" else "+"
    head ++ (if tail.isEmpty then "" else "." ++ tail) ++ "e" ++ sign ++ size

def text (x : Float) : String :=
  match shape x with
  | .undefined => "nan"
  | .infinite negative => if negative then "-inf" else "inf"
  | .finite negative b =>
    let size :=
      if b.mantissa = 0 then "0.0"
      else
        let (n, e) := stripZeros 400 (shortest b)
        layout n e
    if negative then "-" ++ size else size

end DocAtlas.Decimal
