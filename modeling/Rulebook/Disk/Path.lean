/-!
# Paths as text

A path is text with slashes. Empty parts and parts that are a single dot do not count when its last
part is asked for.
-/

namespace Rulebook.Path

/-- The parts between slashes. -/
def parts (path : String) : List String := (path.splitOn "/")

/-- `rel` under `base`; one that starts with a slash stands by itself. -/
def join (base rel : String) : String :=
  if rel.startsWith "/" ∨ base.isEmpty then rel
  else if base.endsWith "/" then base ++ rel
  else base ++ "/" ++ rel

/-- The path without its last part: nothing for a single part, the root stays. -/
def parent (path : String) : String :=
  let root := path.startsWith "/"
  let parts := (parts path).filter (· != "")
  let parts := parts.take 1 ++ (parts.drop 1).filter (· != ".")
  (if root then "/" else "") ++ String.intercalate "/" parts.dropLast

/-- The last part, unless the path ends in two dots or has none. -/
def fileName (path : String) : Option String :=
  match ((parts path).filter fun p => p != "" && p != ".").getLast? with
  | some ".." => none
  | last => last

/-- A name before and after its last dot, if it has one that is not its first character. -/
def splitName (name : String) : Option (String × String) :=
  let cs := name.toList.reverse
  let after := cs.takeWhile (· != '.')
  match cs.drop after.length with
  | '.' :: before =>
    if before.isEmpty then none
    else some (String.ofList before.reverse, String.ofList after.reverse)
  | _ => none

def stem (path : String) : Option String :=
  (fileName path).map fun name => ((splitName name).map (·.1)).getD name

def extension (path : String) : Option String :=
  (fileName path).bind fun name => (splitName name).map (·.2)

end Rulebook.Path
