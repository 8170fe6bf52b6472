/-!
# What a regex pattern says

The tree of a pattern as it is written, before flags are applied.
-/

namespace Rulebook.Regex

/-- A flag that a pattern can set or clear. `swapGreed` has no effect on whether a text matches. -/
inductive Flag where
  | caseInsensitive | multiLine | dotAll | swapGreed | unicode | crlf | ignoreSpace
  deriving DecidableEq, Repr

/-- A letter of a flag group, or the sign after which flags are cleared. -/
inductive FlagItem where
  | negation
  | flag (f : Flag)
  deriving DecidableEq, Repr

inductive Perl where
  | digit | space | word
  deriving DecidableEq, Repr

inductive Assertion where
  | startLine | endLine | startText | endText
  | wordBoundary | notWordBoundary | wordStart | wordEnd | wordStartHalf | wordEndHalf
  deriving DecidableEq, Repr

/-- A property of characters as it is named. -/
inductive PropertyQuery where
  | letter (c : Char)
  | named (name : String)
  | valued (name value : String) (equal : Bool)
  deriving DecidableEq, Repr

/-- A literal, and whether it is written as a byte in hexadecimal. -/
structure Literal where
  char : Char
  isByte : Bool
  deriving DecidableEq, Repr

inductive SetOp where
  | inter | diff | symmDiff
  deriving DecidableEq, Repr

/-- What stands between the brackets of a class. -/
inductive ClassSet where
  | empty
  | literal (l : Literal)
  | range (first last : Literal)
  | ascii (negated : Bool) (name : String)
  | perl (negated : Bool) (kind : Perl)
  | property (negated : Bool) (query : PropertyQuery)
  | bracketed (negated : Bool) (set : ClassSet)
  | union (items : List ClassSet)
  | op (kind : SetOp) (lhs rhs : ClassSet)
  deriving Inhabited

inductive Syntax where
  | empty
  | flags (items : List FlagItem)
  | literal (l : Literal)
  | dot
  | assertion (a : Assertion)
  | perl (negated : Bool) (kind : Perl)
  | property (negated : Bool) (query : PropertyQuery)
  | cls (negated : Bool) (set : ClassSet)
  | repeated (body : Syntax) (min : Nat) (max : Option Nat)
  | group (flags : List FlagItem) (body : Syntax)
  | alternation (options : List Syntax)
  | concat (parts : List Syntax)
  deriving Inhabited

end Rulebook.Regex
