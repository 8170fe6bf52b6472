import Rulebook.Regex.Tree

/-! # Regexes -/

namespace Rulebook

/-- A regex keeps the pattern it was built from. -/
structure Regex where
  pattern : String
  tree : Regex.Tree
  deriving Inhabited

inductive RegexError where
  | malformed
  | tooLarge
  deriving DecidableEq, Repr

/-- The text of an error; why a pattern is malformed is not told. -/
def RegexError.message : RegexError → String
  | malformed => "regex parse error"
  | tooLarge => s!"Compiled regex exceeds size limit of {Regex.maxSize} bytes."

namespace Regex

/-- Builds the regex of a pattern under the flags of a literal. -/
def compile (pattern flags : String) : Except RegexError Regex :=
  let has := fun c : Char => flags.toList.contains c
  match Syntax.ofText pattern (has 'x') with
  | none => .error .malformed
  | some s =>
    match Tree.ofSyntax ⟨has 'i', has 'm', has 's', true, false⟩ s with
    | none => .error .malformed
    | some (t, _) => if t.size ≤ maxSize then .ok ⟨pattern, t⟩ else .error .tooLarge

/-- Whether the regex matches somewhere in a text. -/
def isMatch (r : Regex) (text : String) : Bool :=
  let cs := text.toList.toArray
  !(r.tree.ends cs (List.range (cs.size + 1))).isEmpty

end Regex

end Rulebook
