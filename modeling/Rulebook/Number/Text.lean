import Rulebook.Number.Binary64

/-!
# Numbers written as text

A sign, digits with a point among them or not, and an exponent of ten; or the words for what is not
finite, in either case.
-/

namespace Rulebook.Binary64

/-- The whole number that digits write, if they are digits. -/
def natOfDigits? (cs : List Char) : Option Nat :=
  if cs.all Char.isDigit then some (cs.foldl (fun n c => n * 10 + (c.toNat - 48)) 0) else none

/-- Splits a sign off, and says whether it is a minus. -/
def splitSign : List Char → Bool × List Char
  | '-' :: cs => (true, cs)
  | '+' :: cs => (false, cs)
  | cs => (false, cs)

/-- The exponent after its mark; none is written as zero. -/
def exponentOf? : List Char → Option Int
  | [] => some 0
  | _ :: cs =>
    let (negative, digits) := splitSign cs
    if digits.isEmpty then none
    else (natOfDigits? digits).map fun n => if negative then -(n : Int) else n

def ofText? (text : String) : Option Binary64 :=
  let (negative, cs) := splitSign (text.toList.map Char.toLower)
  if cs = "inf".toList ∨ cs = "infinity".toList then some (.infinite negative)
  else if cs = "nan".toList then some .nan
  else
    let (mantissa, exponent) := cs.span (· != 'e')
    let (whole, frac) := mantissa.span (· != '.')
    let frac := frac.drop 1
    if whole.isEmpty && frac.isEmpty then none
    else do
      let digits ← natOfDigits? (whole ++ frac)
      let e ← exponentOf? exponent
      return ofDecimal negative digits (e - frac.length)

end Rulebook.Binary64
