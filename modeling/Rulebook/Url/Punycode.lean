/-!
# Characters beyond ASCII in ASCII

A label holds its ASCII characters, a dash, and then where the others stand: each is given by how far it
lies from the one before in the order of code points and places, as digits of a base that adapts.
-/

namespace Rulebook.Url.Punycode

/-- The value of a digit: letters, then figures. -/
def digit? (c : Char) : Option Nat :=
  if 'a' ≤ c ∧ c ≤ 'z' then some (c.toNat - 97)
  else if 'A' ≤ c ∧ c ≤ 'Z' then some (c.toNat - 65)
  else if c.isDigit then some (c.toNat - 48 + 26)
  else none

/-- The largest digit that ends a number, at the place that counts `k`. -/
def threshold (k bias : Nat) : Nat := min 26 (max 1 (k - bias))

def shrink (delta k : Nat) : Nat :=
  if 455 < delta then shrink (delta / 35) (k + 36) else k + 36 * delta / (delta + 38)
termination_by delta
decreasing_by exact Nat.div_lt_self (by omega) (by omega)

/-- The bias after a distance, when there are `points` characters. -/
def adapt (delta points : Nat) (first : Bool) : Nat :=
  let delta := if first then delta / 700 else delta / 2
  shrink (delta + delta / points) 0

/-- Reads a number, the digit of least weight first: the sum with `i`, and what follows. -/
def number? (bias : Nat) : List Char → (k w i : Nat) → Option (Nat × List Char)
  | [], _, _, _ => none
  | c :: rest, k, w, i =>
    match digit? c with
    | none => none
    | some d =>
      let t := threshold k bias
      let i := i + d * w
      if UInt32.size ≤ i then none
      else if d < t then some (i, rest)
      else number? bias rest (k + 36) (w * (36 - t)) i

theorem number?_length {bias : Nat} {cs rest : List Char} {k w i n : Nat}
    (h : number? bias cs k w i = some (n, rest)) : rest.length < cs.length := by
  fun_induction number? bias cs k w i with
  | case1 | case2 | case3 | case4 => simp_all
  | case5 => rename_i ih; exact Nat.lt_succ_of_lt (ih h)

/-- Inserts the characters that the digits say into `out`. -/
def insertAll (digits : List Char) (n i bias : Nat) (out : List Char) : Option (List Char) :=
  match digits with
  | [] => some out
  | d :: ds =>
    match _h : number? bias (d :: ds) 36 1 i with
    | none => none
    | some (j, rest) =>
      let points := out.length + 1
      let n := n + j / points
      let place := j % points
      if n.isValidChar then
        insertAll rest n (place + 1) (adapt (j - i) points (i = 0))
          (out.take place ++ Char.ofNat n :: out.drop place)
      else none
termination_by digits.length
decreasing_by exact number?_length _h

/-- The characters that a label stands for. -/
def decode (label : List Char) : Option (List Char) :=
  let tail := (label.reverse.takeWhile (· != '-')).reverse
  let basic := (label.take (label.length - tail.length)).dropLast
  insertAll tail 128 0 72 basic

end Rulebook.Url.Punycode
