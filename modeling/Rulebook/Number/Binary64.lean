/-!
# Binary64 numbers

The numbers of the rule language and of documents, held exactly: a finite one is `± mant · 2 ^ exp`.
Nothing here goes through the machine's floating point, so every operation can be computed and
reasoned about on `Nat` and `Int`. `ofRatio` rounds a quotient to the nearest number, a tie to the
even mantissa; the other readings and operations round through it.
-/

namespace Rulebook

/-- A binary64 number. `ofRatio` builds finite ones with a mantissa below `2 ^ 53`. -/
inductive Binary64 where
  | nan
  | infinite (negative : Bool)
  | finite (negative : Bool) (mant : Nat) (exp : Int)
  deriving DecidableEq, Repr, Inhabited

namespace Binary64

/-- The exponent of the smallest positive number. -/
def minExp : Int := -1074

/-- The exponent of the largest numbers. -/
def maxExp : Int := 971

/-! ## Rounding -/

/-- `num / den` as a whole number, to the nearest, a tie to the even one. -/
def roundDiv (num den : Nat) : Nat :=
  let q := num / den
  let r := num % den
  if 2 * r < den then q
  else if den < 2 * r then q + 1
  else if q % 2 = 0 then q else q + 1

/-- Numerator and denominator of `num / (den · 2 ^ e)`. -/
def scaled (num den : Nat) (e : Int) : Nat × Nat :=
  if 0 ≤ e then (num, den * Nat.pow 2 e.toNat) else (num * Nat.pow 2 (-e).toNat, den)

/-- The exponent at which `num / den` has a mantissa of 53 bits, or `minExp` if it is smaller. -/
def exponentFor (num den : Nat) : Int :=
  let guess : Int := (num.log2 : Int) - (den.log2 : Int) - 53
  let (n, d) := scaled num den guess
  max minExp (if Nat.pow 2 53 ≤ n / d then guess + 1 else guess)

/-- The number nearest to `± num / den`, a tie to the even mantissa. -/
def ofRatio (negative : Bool) (num den : Nat) : Binary64 :=
  if num = 0 then .finite negative 0 minExp
  else
    let e := exponentFor num den
    let (n, d) := scaled num den e
    let m := roundDiv n d
    let (m, e) := if m = Nat.pow 2 53 then (Nat.pow 2 52, e + 1) else (m, e)
    if maxExp < e then .infinite negative else .finite negative m e

def zero : Binary64 := .finite false 0 minExp

def ofInt (n : Int) : Binary64 := ofRatio (n < 0) n.natAbs 1

/-- The number nearest to `± digits · 10 ^ exp10`. Magnitudes far outside the range are settled
by their number of digits alone. -/
def ofDecimal (negative : Bool) (digits : Nat) (exp10 : Int) : Binary64 :=
  if digits = 0 then .finite negative 0 minExp
  else
    let top : Int := (digits.log2 : Int) * 30103 / 100000 + exp10
    if 320 < top then .infinite negative
    else if top < -340 then .finite negative 0 minExp
    else if 0 ≤ exp10 then ofRatio negative (digits * Nat.pow 10 exp10.toNat) 1
    else ofRatio negative digits (Nat.pow 10 (-exp10).toNat)

/-! ## Value -/

/-- A finite number counted in units of `2 ^ minExp`. -/
def units (negative : Bool) (mant : Nat) (exp : Int) : Int :=
  let n : Int := mant * Nat.pow 2 (exp - minExp).toNat
  if negative then -n else n

/-- How many units make one. -/
def oneUnits : Nat := Nat.pow 2 1074

def isNan : Binary64 → Bool
  | nan => true
  | _ => false

def isFinite : Binary64 → Bool
  | finite .. => true
  | _ => false

/-- Numeric equality: the zeros are equal, and a nan differs from itself. -/
def eqv : Binary64 → Binary64 → Bool
  | infinite s, infinite t => s = t
  | finite s m e, finite t n f => units s m e = units t n f
  | _, _ => false

def lt : Binary64 → Binary64 → Bool
  | nan, _ => false
  | _, nan => false
  | infinite s, infinite t => s && !t
  | infinite s, finite .. => s
  | finite .., infinite t => !t
  | finite s m e, finite t n f => units s m e < units t n f

/-- A finite number without a fraction, as that whole number. -/
def toInt? : Binary64 → Option Int
  | finite s m e =>
    let u := units s m e
    if u % oneUnits = 0 then some (u / oneUnits) else none
  | _ => none

def isIntegral (x : Binary64) : Bool := x.toInt?.isSome

/-! ## Arithmetic -/

def neg : Binary64 → Binary64
  | nan => nan
  | infinite s => infinite !s
  | finite s m e => finite (!s) m e

/-- Product of two finite numbers, rounded. -/
def mul : Binary64 → Binary64 → Binary64
  | finite s m e, finite t n f =>
    let (num, den) := scaled (m * n) 1 (-(e + f))
    ofRatio (s != t) num den
  | infinite s, finite t n _ => if n = 0 then nan else infinite (s != t)
  | finite s m _, infinite t => if m = 0 then nan else infinite (s != t)
  | infinite s, infinite t => infinite (s != t)
  | _, _ => nan

/-- Quotient of two finite numbers, rounded. -/
def div : Binary64 → Binary64 → Binary64
  | finite s m e, finite t n f =>
    if n = 0 then (if m = 0 then nan else infinite (s != t))
    else
      let (num, den) := scaled m n (-(e - f))
      ofRatio (s != t) num den
  | infinite s, finite t _ _ => infinite (s != t)
  | finite s _ _, infinite t => finite (s != t) 0 minExp
  | _, _ => nan

end Binary64

end Rulebook
