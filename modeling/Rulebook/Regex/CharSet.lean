import Rulebook.Text.Ranges
import Rulebook.Unicode.CaseFold

/-!
# Sets of characters in regexes

Sets are increasing lists of spans of code points that are apart. All operations come from union and
complement.
-/

namespace Rulebook

structure CharSet where
  spans : List (Nat × Nat)
  deriving DecidableEq, Repr, Inhabited

namespace CharSet

/-- The last code point. -/
def top : Nat := 0x10FFFF

/-- Joins a span with those after it that it meets; the list is sorted by first code points. -/
def joinFrom (a b : Nat) : List (Nat × Nat) → List (Nat × Nat)
  | (c, d) :: rest => if c ≤ b + 1 then joinFrom a (max b d) rest else (a, b) :: joinFrom c d rest
  | [] => [(a, b)]

/-- Joins spans that meet; the list is sorted by first code points. -/
def join : List (Nat × Nat) → List (Nat × Nat)
  | (a, b) :: rest => joinFrom a b rest
  | [] => []

def ofSpans (spans : List (Nat × Nat)) : CharSet :=
  ⟨join (spans.mergeSort fun x y => x.1 < y.1 || (x.1 = y.1 && x.2 ≤ y.2))⟩

def empty : CharSet := ⟨[]⟩

def single (c : Char) : CharSet := ⟨[(c.toNat, c.toNat)]⟩

def range (a b : Nat) : CharSet := ⟨[(a, b)]⟩

def ofRanges (r : Ranges) : CharSet := ofSpans r.spans.toList

def union (s t : CharSet) : CharSet := ofSpans (s.spans ++ t.spans)

/-- The code points from `next` on that are in none of the spans. -/
def gaps (next : Nat) : List (Nat × Nat) → List (Nat × Nat)
  | (a, b) :: rest => if next < a then (next, a - 1) :: gaps (b + 1) rest else gaps (b + 1) rest
  | [] => if next ≤ top then [(next, top)] else []

def negate (s : CharSet) : CharSet := ⟨gaps 0 s.spans⟩

def inter (s t : CharSet) : CharSet := (s.negate.union t.negate).negate

def diff (s t : CharSet) : CharSet := s.inter t.negate

def symmDiff (s t : CharSet) : CharSet := (s.diff t).union (t.diff s)

def holds (s : CharSet) (n : Nat) : Bool := s.spans.any fun (a, b) => a ≤ n && n ≤ b

def toRanges (s : CharSet) : Ranges := ⟨s.spans.toArray⟩

/-- Whether a character outside ASCII is in the set. -/
def beyondAscii (s : CharSet) : Bool := s.spans.any fun (_, b) => 128 ≤ b

/-! ## Case -/

/-- Adds the characters that differ from a member in case only. -/
def foldCase (s : CharSet) : CharSet :=
  let r := s.toRanges
  let more := caseClasses.flatMap fun cls => if cls.any r.holds then cls.map fun n => (n, n) else []
  ofSpans (s.spans ++ more)

/-- The same within ASCII. -/
def foldAscii (s : CharSet) : CharSet :=
  let lower := s.inter (range 97 122)
  let upper := s.inter (range 65 90)
  ofSpans (s.spans ++ lower.spans.map (fun (a, b) => (a - 32, b - 32)) ++
    upper.spans.map fun (a, b) => (a + 32, b + 32))

end CharSet

end Rulebook
