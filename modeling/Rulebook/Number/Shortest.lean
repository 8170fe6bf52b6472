import Rulebook.Number.Binary64

/-!
# The fewest digits that read back

The decimal of a finite number is the shortest one in the interval of reals that round to the number;
of two of that length, the nearer. An exact tie between the two is decided by the writer.
-/

namespace Rulebook

/-- Which of two equally near decimals is written. -/
inductive DigitTie where
  | up
  | even
  deriving DecidableEq, Repr

/-- `digits · 10 ^ exp10`, without trailing zeros. -/
structure Decimal where
  digits : Nat
  exp10 : Int
  deriving DecidableEq, Repr, Inhabited

namespace Decimal

/-- Moves trailing zeros of the digits into the exponent; looks at no more than `n` of them. -/
def strip : Nat → Nat → Int → Decimal
  | 0, d, e => ⟨d, e⟩
  | n + 1, d, e => if d % 10 = 0 then strip n (d / 10) (e + 1) else ⟨d, e⟩

/-- The reals that round to `mant · 2 ^ exp`, as numerators over `den`: lower end, the number,
upper end. The ends belong to it when the mantissa is even. -/
structure Interval where
  low : Nat
  mid : Nat
  high : Nat
  den : Nat
  closed : Bool

def Interval.of (mant : Nat) (exp : Int) : Interval :=
  let below := if mant = Nat.pow 2 52 ∧ Binary64.minExp < exp then 1 else 2
  let up := if 0 ≤ exp then Nat.pow 2 exp.toNat else 1
  let den := if 0 ≤ exp then 4 else 4 * Nat.pow 2 (-exp).toNat
  ⟨(4 * mant - below) * up, 4 * mant * up, (4 * mant + 2) * up, den, mant % 2 = 0⟩

/-- Whether `num / den` of the given scale lies in the interval. -/
def Interval.holds (i : Interval) (x : Nat) : Bool :=
  if i.closed then i.low ≤ x && x ≤ i.high else i.low < x && x < i.high

/-- The interval multiplied by `10 ^ (-grid)`: multiples of `10 ^ grid` become whole numbers. -/
def Interval.onGrid (i : Interval) (grid : Int) : Interval :=
  if 0 ≤ grid then { i with den := i.den * Nat.pow 10 grid.toNat }
  else
    let p := Nat.pow 10 (-grid).toNat
    { i with low := i.low * p, mid := i.mid * p, high := i.high * p }

/-- The multiple of `10 ^ grid` that stands for the number, if one of its two neighbours does. -/
def Interval.pick (i : Interval) (tie : DigitTie) (grid : Int) : Option Nat :=
  let g := i.onGrid grid
  let lower := g.mid / g.den
  let upper := lower + 1
  let rest := g.mid % g.den
  match g.holds (lower * g.den), g.holds (upper * g.den) with
  | true, false => some lower
  | false, true => some upper
  | false, false => none
  | true, true =>
    if 2 * rest < g.den then some lower
    else if g.den < 2 * rest then some upper
    else match tie with
      | .up => some upper
      | .even => some (if lower % 2 = 0 then lower else upper)

/-- The first of `n` grids, each ten times as fine as the one before, that holds a decimal. -/
def Interval.search (i : Interval) (tie : DigitTie) : Nat → Int → Decimal
  | 0, grid => ⟨0, grid⟩
  | n + 1, grid =>
    match i.pick tie grid with
    | some d => strip 20 d grid
    | none => i.search tie n (grid - 1)

/-- The shortest decimal that rounds to `mant · 2 ^ exp`, which is not zero. -/
def shortest (tie : DigitTie) (mant : Nat) (exp : Int) : Decimal :=
  let top : Int := ((mant.log2 : Int) + exp + 1) * 30103 / 100000 + 1
  (Interval.of mant exp).search tie 20 top

/-- The digits as characters, the first one not a zero. -/
def chars (d : Decimal) : List Char := Nat.toDigits 10 d.digits

/-- The exponent of the first digit: `d` is `x.xxx · 10 ^ d.magnitude`. -/
def magnitude (d : Decimal) : Int := d.exp10 + d.chars.length - 1

/-- Digits around a decimal point that stands after `point` of them: zeros are added at either end
where the digits do not reach the point. -/
def positional (digits : List Char) (point : Int) : List Char × List Char :=
  if point ≤ 0 then (['0'], List.replicate (-point).toNat '0' ++ digits)
  else
    let k := point.toNat
    (digits.take k ++ List.replicate (k - digits.length) '0', digits.drop k)

end Decimal

/-! ## Plain text -/

/-- The text of a number in messages: positional at every size, no point in a whole number. -/
def Binary64.plain : Binary64 → String
  | .nan => "NaN"
  | .infinite s => if s then "-inf" else "inf"
  | .finite s m e =>
    let sign := if s then "-" else ""
    if m = 0 then sign ++ "0"
    else
      let d := Decimal.shortest .up m e
      let (whole, frac) := Decimal.positional d.chars (d.magnitude + 1)
      let tail := if frac.isEmpty then "" else "." ++ String.ofList frac
      sign ++ String.ofList whole ++ tail

end Rulebook
