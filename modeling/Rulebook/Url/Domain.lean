import Rulebook.Unicode.Category
import Rulebook.Url.DomainTable
import Rulebook.Url.Punycode

/-!
# International domain names

A name is brought to its canonical form: letters in lower case, compatibility forms replaced, what is
ignored left out. It is refused if it then holds a character that delimits a URL or that names may not
hold, or a label that starts with a mark or is not the right writing of what it stands for.
-/

namespace Rulebook.Url

/-- Characters of ASCII that no domain holds. -/
def isForbiddenInDomain (c : Char) : Bool :=
  c ≤ ' ' || c = '\x7f' || "%#/:<>?@[\\]^|".toList.contains c

/-- Characters that are replaced by nothing. -/
def isIgnored (c : Char) : Bool :=
  [0xAD, 0x34F, 0x180F, 0x200B, 0x2060, 0x2064, 0xFEFF].contains c.toNat ||
    (0x180B ≤ c.toNat && c.toNat ≤ 0x180D) || (0xFE00 ≤ c.toNat && c.toNat ≤ 0xFE0F) ||
    (0xE0100 ≤ c.toNat && c.toNat ≤ 0xE01EF) || (0x1BCA0 ≤ c.toNat && c.toNat ≤ 0x1BCA3)

def isJoiner (c : Char) : Bool := c = '\u200c' || c = '\u200d'

def hiddenChars : Ranges :=
  Category.charsOf [.control, .format, .unassigned, .privateUse, .surrogate, .spaceSeparator,
    .lineSeparator, .paragraphSeparator]

def markChars : Ranges := Category.charsOf [.nonspacingMark, .spacingMark, .enclosingMark]

def mappedChars : Ranges := .ofLines mappedLines

/-- Whether a name may hold a character beyond ASCII. -/
def isAllowed (c : Char) : Bool :=
  isJoiner c ||
    !(hiddenChars.has c || c = '\ufffc' || c = '\ufffd' || ('\u2ff0' ≤ c && c ≤ '\u2fff'))

/-- Runs of replacements: first and last character, and what the first one is replaced by. -/
def asciiFormsFrom (n next : Nat) (table : List Nat) : List (Nat × Nat × List Nat) :=
  match n, table with
  | n + 1, gap :: more :: size :: rest =>
    let first := next + gap
    (first, first + more, rest.take size) :: asciiFormsFrom n (first + more + 1) (rest.drop size)
  | _, _ => []

def asciiForms : List (Nat × Nat × List Nat) :=
  asciiFormsFrom 2000 0 (asciiFormLines.flatMap fun l => (Ranges.numbers l).toList)

/-- What a character is replaced by, as far as it matters: any other replacement is a letter too. -/
def canonical (c : Char) : List Char :=
  if c.toNat < 128 then [c.toLower]
  else if c = '\u3002' ∨ c = '\uff61' then ['.']
  else if isIgnored c then []
  else
    match asciiForms.find? fun (first, last, _) => first ≤ c.toNat && c.toNat ≤ last with
    | some (first, _, [x]) => [Char.ofNat (x + (c.toNat - first))]
    | some (_, _, xs) => xs.map Char.ofNat
    | none => [c]

/-- The labels between dots. -/
def labels (cs : List Char) : List (List Char) :=
  match cs with
  | [] => [[]]
  | c :: cs =>
    if c = '.' then [] :: labels cs
    else
      match labels cs with
      | [] => [[c]]
      | l :: ls => (c :: l) :: ls

/-- Whether the characters of a label may stand together. -/
def isPlainLabel (l : List Char) : Bool := !l.head?.any markChars.has

/-- Whether a label is one of a domain. One that starts with `xn--` has to be written as the
characters that it stands for would be. -/
def isLabel (l : List Char) : Bool :=
  match l with
  | 'x' :: 'n' :: '-' :: '-' :: rest =>
    rest.getLast? != some '-' &&
      (Punycode.decode rest).any fun cs =>
        isPlainLabel cs && cs.any (fun c => 128 ≤ c.toNat) && cs.all fun c =>
          if c.toNat < 128 then !isForbiddenInDomain c && c != '.' && !c.isUpper
          else isAllowed c && !isIgnored c && !mappedChars.has c
  | l => isPlainLabel l

/-- The canonical form of a name. -/
def domain? (name : List Char) : Option (List Char) :=
  let cs := name.flatMap canonical
  if cs.all (fun c => if c.toNat < 128 then !isForbiddenInDomain c else isAllowed c) &&
      (labels cs).all isLabel
  then some cs else none

end Rulebook.Url
