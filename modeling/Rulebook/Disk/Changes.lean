import Rulebook.Disk.Basic

/-!
# What changed on a disk

Commands only add files or give them other texts, so the files of the new disk tell what to write.
-/

namespace Rulebook

mutual

/-- The texts of the files under a node, each with its location. -/
def Node.texts : Location → Node → List (Location × String)
  | here, .file (some text) => [(here, text)]
  | here, .directory entries | here, .unlisted entries => Node.entryTexts here entries
  | _, _ => []

def Node.entryTexts : Location → List (String × Node) → List (Location × String)
  | _, [] => []
  | here, (name, n) :: rest => Node.texts (here ++ [name]) n ++ Node.entryTexts here rest

end

namespace Disk

/-- Whether a file with a text is at a location. -/
def hasText (d : Disk) (location : Location) (text : String) : Bool :=
  match d.root.at? location with
  | some (.file (some t)) => t = text
  | _ => false

/-- The files of a disk that an earlier one did not have, or not with their texts. -/
def changesFrom (new old : Disk) : List (Location × String) :=
  (Node.texts [] new.root).filter fun (location, text) => !old.hasText location text

/-- The path of a location from the root. -/
def pathOf (location : Location) : String := "/" ++ String.intercalate "/" location

end Disk

end Rulebook
