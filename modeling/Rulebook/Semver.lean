import Rulebook.Unicode.Category

/-!
# Semantic versions

Three numbers, then after a dash the identifiers of a prerelease, then after a plus those of a build. A
number has no leading zero. After its first digit, and before the first letter or dash of a prerelease
identifier, any decimal digit counts, not only those of ASCII.
-/

namespace Rulebook

namespace Semver

def decimalDigits : Ranges := Category.charsOf [.decimalNumber]

/-- A letter, a digit or a dash of ASCII. -/
def isIdentChar (c : Char) : Bool := c.isAlphanum || c = '-'

def isNumber : List Char → Bool
  | ['0'] => true
  | c :: cs => '1' ≤ c && c ≤ '9' && cs.all decimalDigits.has
  | [] => false

/-- Digits, a letter or a dash, and more of them. -/
def isWord (cs : List Char) : Bool :=
  match cs.dropWhile decimalDigits.has with
  | c :: rest => (c.isAlpha || c = '-') && rest.all isIdentChar
  | [] => false

def isBuildIdent (cs : List Char) : Bool := !cs.isEmpty && cs.all isIdentChar

/-- The parts between dots. -/
def dotted (cs : List Char) : List (List Char) :=
  match cs with
  | [] => [[]]
  | c :: cs =>
    if c = '.' then [] :: dotted cs
    else
      match dotted cs with
      | [] => [[c]]
      | part :: parts => (c :: part) :: parts

/-- The text up to a mark, and what follows the mark if it is there. -/
def cutAt (mark : Char) (cs : List Char) : List Char × Option (List Char) :=
  match cs.dropWhile (· != mark) with
  | _ :: rest => (cs.takeWhile (· != mark), some rest)
  | [] => (cs, none)

/-- A version: the prerelease as it is written, if there is one. -/
structure Version where
  core : List (List Char)
  prerelease : Option (List Char)
  build : Option (List Char)
  deriving DecidableEq, Repr

def Version.ofChars? (cs : List Char) : Option Version :=
  let (front, build) := cutAt '+' cs
  let (core, prerelease) := cutAt '-' front
  let numbers := dotted core
  if numbers.length = 3 ∧ numbers.all isNumber ∧
      prerelease.all (fun p => (dotted p).all fun part => isNumber part || isWord part) ∧
      build.all (fun b => (dotted b).all isBuildIdent)
  then some ⟨numbers, prerelease, build⟩ else none

end Semver

end Rulebook
