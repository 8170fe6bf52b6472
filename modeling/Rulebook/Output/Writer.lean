import Rulebook.Output.Format
import Rulebook.Text.Ranges

/-!
# What commands write

A writer turns what a command has to say into text. Messages are for people alone; a quiet writer leaves
out those that only tell of progress.
-/

namespace Rulebook

structure Writer where
  format : OutputFormat
  color : Bool
  quiet : Bool
  deriving DecidableEq, Repr, Inhabited

namespace Writer

def line (text : String) : String := text ++ "\n"

/-- Whether messages are written. -/
def speaks (w : Writer) : Bool := w.format = .human

def info (w : Writer) (message : String) : String :=
  if w.quiet || !w.speaks then ""
  else if w.color then line (Style.paint ⟨.blue, false⟩ "ℹ" ++ " " ++ message)
  else line ("INFO: " ++ message)

def success (w : Writer) (message : String) : String :=
  if w.quiet || !w.speaks then "" else line (Style.paintIf ⟨.green, false⟩ w.color message)

def warning (w : Writer) (message : String) : String :=
  if !w.speaks then ""
  else if w.color then line (Style.paint ⟨.yellow, false⟩ message)
  else line ("WARNING: " ++ message)

def error (w : Writer) (message : String) : String :=
  if !w.speaks then ""
  else if w.color then line (Style.paint ⟨.red, false⟩ message)
  else line ("ERROR: " ++ message)

def data (w : Writer) (v : Json) : String :=
  let text := w.format.render v
  if w.speaks then line text else text

/-- Names, one on a line, or as a sequence for programs. -/
def list (w : Writer) (names : List String) : String :=
  if w.speaks then String.join (names.map line) else w.data (.array (names.map .string))

/-- The text without the white space at its end. -/
def trimEnd (text : String) : String :=
  String.ofList (text.toList.reverse.dropWhile isBlank).reverse

def report (w : Writer) (r : Report) (most : Nat) : String :=
  line (trimEnd (r.text w.format most w.color))

end Writer

end Rulebook
