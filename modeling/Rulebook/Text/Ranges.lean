/-!
# Sets of characters

White space is written out. Any other set is an increasing array of ranges of code points, which is written
in tables as numbers in base 36: the gap since the last range, then how many more characters the range has
than one, and so on.
-/

namespace Rulebook

/-- The Unicode property `White_Space`. -/
def isBlank (c : Char) : Bool :=
  let n := c.toNat
  (9 ≤ n && n ≤ 13) || n = 0x20 || n = 0x85 || n = 0xA0 || n = 0x1680 ||
    (0x2000 ≤ n && n ≤ 0x200A) || n = 0x2028 || n = 0x2029 || n = 0x202F || n = 0x205F || n = 0x3000

/-- Ranges `(first, last)` of code points, increasing and apart. -/
structure Ranges where
  spans : Array (Nat × Nat)
  deriving Inhabited

namespace Ranges

/-- The value of a digit in base 36, letters in lower case. -/
def digit36 (c : Char) : Nat :=
  if c.isDigit then c.toNat - 48 else c.toNat - 87

/-- The numbers of a text, in base 36 and separated by single blanks. -/
def numbers (text : String) : Array Nat :=
  let (out, last) := text.foldl
    (fun (out, n) c => if c = ' ' then (out.push n, 0) else (out, n * 36 + digit36 c))
    ((#[] : Array Nat), 0)
  if text.isEmpty then out else out.push last

/-- Pairs a gap with the length that follows it. -/
def ofGaps : List Nat → Nat → Array (Nat × Nat) → Array (Nat × Nat)
  | gap :: more :: rest, next, out =>
    let first := next + gap
    ofGaps rest (first + more + 1) (out.push (first, first + more))
  | _, _, out => out

/-- The set that is written over some lines, a number never broken between two. -/
def ofLines (lines : List String) : Ranges :=
  ⟨ofGaps (lines.flatMap fun line => (numbers line).toList) 0 #[]⟩

/-- Whether `n` lies in one of the ranges with index in `[lo, hi)`; halves the span at most `fuel`
times, and a span of `2 ^ fuel` ranges needs no more. -/
def search (spans : Array (Nat × Nat)) (n : Nat) : Nat → Nat → Nat → Bool
  | 0, _, _ => false
  | fuel + 1, lo, hi =>
    if lo < hi then
      let mid := (lo + hi) / 2
      match spans[mid]? with
      | some (first, last) =>
        if n < first then search spans n fuel lo mid
        else if last < n then search spans n fuel (mid + 1) hi
        else true
      | none => false
    else false

def holds (r : Ranges) (n : Nat) : Bool := search r.spans n (r.spans.size.log2 + 2) 0 r.spans.size

def has (r : Ranges) (c : Char) : Bool := r.holds c.toNat

end Ranges

end Rulebook
