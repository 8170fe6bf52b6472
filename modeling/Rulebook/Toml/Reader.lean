import Rulebook.Toml.Table

/-!
# Reading TOML

A document is a sequence of lines: a header, a key with its value, a comment or nothing. A value may go on
over lines only inside of an array or between three quotes.
-/

namespace Rulebook.Toml

def isSpace (c : Char) : Bool := c = ' ' || c = '\t'

/-- Whether a character may stand in a comment or a text. -/
def isVisible (c : Char) : Bool := c = '\t' || (0x20 ≤ c.toNat && c.toNat ≠ 0x7F)

def skipSpace (cs : List Char) : List Char := cs.dropWhile isSpace

/-- Passes the end of a line, if one comes next. -/
def newline? : List Char → Option (List Char)
  | '\n' :: cs => some cs
  | '\r' :: '\n' :: cs => some cs
  | _ => none

/-- Passes a comment, if one comes next. -/
def skipComment : List Char → List Char
  | '#' :: cs => cs.dropWhile isVisible
  | cs => cs

/-- Passes blanks and a comment up to the end of the line, and the end. -/
def finishLine (cs : List Char) : Option (List Char) :=
  match skipComment (skipSpace cs) with
  | [] => some []
  | cs => newline? cs

/-- Passes blanks, comments and line ends; `n` bounds the lines. -/
def skipLines : (n : Nat) → List Char → List Char
  | 0, cs => cs
  | n + 1, cs =>
    let cs := skipComment (skipSpace cs)
    match newline? cs with
    | some cs => skipLines n cs
    | none => cs

/-! ## Texts -/

def hexValue? (cs : List Char) : Option Nat :=
  cs.foldlM (fun n x =>
    if x.isDigit then some (16 * n + (x.toNat - 48))
    else if 'a' ≤ x ∧ x ≤ 'f' then some (16 * n + (x.toNat - 87))
    else if 'A' ≤ x ∧ x ≤ 'F' then some (16 * n + (x.toNat - 55))
    else none) 0

/-- The character of an escape after its backslash. -/
def escape? (cs : List Char) : Option (Char × List Char) :=
  let coded (digits : Nat) (cs : List Char) : Option (Char × List Char) := do
    guard (digits ≤ cs.length)
    let n ← hexValue? (cs.take digits)
    guard n.isValidChar
    return (Char.ofNat n, cs.drop digits)
  match cs with
  | 'b' :: cs => some ('\x08', cs)
  | 't' :: cs => some ('\t', cs)
  | 'n' :: cs => some ('\n', cs)
  | 'f' :: cs => some ('\x0c', cs)
  | 'r' :: cs => some ('\r', cs)
  | '"' :: cs => some ('"', cs)
  | '\\' :: cs => some ('\\', cs)
  | 'u' :: cs => coded 4 cs
  | 'U' :: cs => coded 8 cs
  | _ => none

/-- The rest of a text of one line after its first quote. -/
def lineText (quote : Char) : (n : Nat) → List Char → Option (List Char × List Char)
  | 0, _ => none
  | _, [] => none
  | n + 1, c :: cs =>
    if c = quote then some ([], cs)
    else if quote = '"' && c = '\\' then
      (escape? cs).bind fun (x, cs) => (lineText quote n cs).map fun (xs, cs) => (x :: xs, cs)
    else if isVisible c then (lineText quote n cs).map fun (xs, cs) => (c :: xs, cs)
    else none

/-- Passes blanks and line ends after a backslash; at least one line has to end. -/
def joinLines (cs : List Char) : Option (List Char) :=
  (newline? (skipSpace cs)).map fun cs => cs.dropWhile fun c => isSpace c || c = '\n' || c = '\r'

/-- The rest of a text of several lines after its first three quotes. Before the last three there may be
two more that belong to the text. -/
def linesText (quote : Char) : (n : Nat) → List Char → Option (List Char × List Char)
  | 0, _ => none
  | _, [] => none
  | n + 1, c :: cs =>
    let more (xs cs : List Char) : Option (List Char × List Char) :=
      (linesText quote n cs).map fun (ys, cs) => (xs ++ ys, cs)
    if c = quote then
      let run := ((c :: cs).takeWhile (· = quote)).length
      if run < 3 then more [c] cs
      else if run ≤ 5 then some (List.replicate (run - 3) quote, (c :: cs).drop run)
      else none
    else if quote = '"' && c = '\\' then
      match joinLines cs with
      | some cs => more [] cs
      | none => (escape? cs).bind fun (x, cs) => more [x] cs
    else
      match newline? (c :: cs) with
      | some cs => more ['\n'] cs
      | none => if isVisible c then more [c] cs else none

/-- A text in quotes; one of several lines only if that is allowed. -/
def text? (multiline : Bool) (cs : List Char) : Option (String × List Char) :=
  match cs with
  | c :: rest =>
    if c ≠ '"' && c ≠ '\'' then none
    else
      let made : Option (List Char × List Char) :=
        if multiline && rest.take 2 = [c, c] then
          let body := rest.drop 2
          linesText c (body.length + 1) ((newline? body).getD body)
        else lineText c (rest.length + 1) rest
      made.map fun (xs, cs) => (String.ofList xs, cs)
  | [] => none

/-! ## Keys -/

def isBareChar (c : Char) : Bool := c.isAlphanum || c = '-' || c = '_'

def simpleKey? (cs : List Char) : Option (String × List Char) :=
  let bare := cs.takeWhile isBareChar
  if bare.isEmpty then text? false cs else some (String.ofList bare, cs.drop bare.length)

/-- How many parts a key may have, and how deep values may be nested, is less than this. -/
def maxDepth : Nat := 80

/-- The parts of a key, between which there are dots; `n` bounds their number. -/
def keyParts? : (n : Nat) → List Char → Option (List String × List Char)
  | 0, _ => none
  | n + 1, cs => do
    let (part, cs) ← simpleKey? (skipSpace cs)
    match skipSpace cs with
    | '.' :: cs =>
      let (parts, cs) ← keyParts? n cs
      return (part :: parts, cs)
    | cs => return ([part], cs)

def key? (cs : List Char) : Option (List String × List Char) := keyParts? (maxDepth - 1) cs

/-! ## Numbers and moments -/

/-- The digits of a number without the marks between them, each of which has a digit on both sides. -/
def bareDigits? (isDigit : Char → Bool) (cs : List Char) : Option (List Char) :=
  let rec go (afterDigit : Bool) : List Char → Option (List Char)
    | [] => if afterDigit then some [] else none
    | c :: cs =>
      if c = '_' then if afterDigit then go false cs else none
      else if isDigit c then (go true cs).map (c :: ·)
      else none
  go false cs

def baseDigits? (base : Nat) (cs : List Char) : Option Nat := do
  let value (c : Char) : Option Nat := (hexValue? [c]).filter (· < base)
  let digits ← bareDigits? (fun c => (value c).isSome) cs
  digits.foldlM (fun n c => (value c).map fun d => n * base + d) 0

/-- Digits of which the first is a zero only if it is the only one. -/
def decimal? (cs : List Char) : Option (List Char) :=
  (bareDigits? Char.isDigit cs).filter fun ds => ds.length = 1 || ds.head? ≠ some '0'

def unsign (cs : List Char) : List Char :=
  match cs with
  | '-' :: cs => cs
  | '+' :: cs => cs
  | cs => cs

def integer? (cs : List Char) : Option Int := do
  let n : Int ←
    match cs with
    | '0' :: 'x' :: cs => (baseDigits? 16 cs).map Int.ofNat
    | '0' :: 'o' :: cs => (baseDigits? 8 cs).map Int.ofNat
    | '0' :: 'b' :: cs => (baseDigits? 2 cs).map Int.ofNat
    | cs => do
      let digits ← decimal? (unsign cs)
      let size ← baseDigits? 10 digits
      pure (if cs.head? = some '-' then -(size : Int) else size)
  guard (Int64.minValue.toInt ≤ n && n ≤ Int64.maxValue.toInt)
  return n

/-- A number with a fraction, an exponent or both, or a word for one that is not finite. -/
def float? (cs : List Char) : Option Binary64 :=
  let negative := cs.head? = some '-'
  let size := unsign cs
  if size = "inf".toList then some (.infinite negative)
  else if size = "nan".toList then some .nan
  else do
    let (mantissa, exponent) := size.span fun c => c ≠ 'e' && c ≠ 'E'
    let (whole, frac) := mantissa.span (· ≠ '.')
    guard (!(frac.isEmpty && exponent.isEmpty))
    let whole ← decimal? whole
    let frac ← if frac.isEmpty then some [] else bareDigits? Char.isDigit (frac.drop 1)
    let exponent ←
      if exponent.isEmpty then some []
      else
        let e := exponent.drop 1
        let sign := if e.head? = some '-' then ['-'] else []
        (bareDigits? Char.isDigit (unsign e)).map fun ds => 'e' :: sign ++ ds
    let x ← Binary64.ofText? (String.ofList (whole ++ '.' :: frac ++ exponent))
    guard (negative || x ≠ .infinite false)
    return if negative then x.neg else x

/-- A number of digits that lies between two others. -/
def digits? (count low high : Nat) (cs : List Char) : Option (Nat × List Char) := do
  let ds := cs.take count
  guard (ds.length = count && ds.all Char.isDigit)
  let n := ds.foldl (fun n c => 10 * n + (c.toNat - 48)) 0
  guard (low ≤ n && n ≤ high)
  return (n, cs.drop count)

def expect? (c : Char) : List Char → Option (List Char)
  | x :: cs => if x = c then some cs else none
  | [] => none

/-- How many days a month has. -/
def daysOf (year month : Nat) : Nat :=
  let leap := year % 4 = 0 && (year % 100 ≠ 0 || year % 400 = 0)
  if month = 2 then if leap then 29 else 28
  else if [4, 6, 9, 11].contains month then 30 else 31

def date? (cs : List Char) : Option (List Char) := do
  let (year, cs) ← digits? 4 0 9999 cs
  let (month, cs) ← digits? 2 1 12 (← expect? '-' cs)
  let (_, cs) ← digits? 2 1 (daysOf year month) (← expect? '-' cs)
  return cs

def time? (cs : List Char) : Option (List Char) := do
  let (_, cs) ← digits? 2 0 23 cs
  let (_, cs) ← digits? 2 0 59 (← expect? ':' cs)
  let (_, cs) ← digits? 2 0 60 (← expect? ':' cs)
  match cs with
  | '.' :: rest =>
    let fraction := rest.takeWhile Char.isDigit
    return if fraction.isEmpty then cs else rest.drop fraction.length
  | cs => return cs

def offset? (cs : List Char) : Option (List Char) :=
  match cs with
  | c :: rest =>
    if c = 'Z' || c = 'z' then some rest
    else if c = '+' || c = '-' then do
      let (_, cs) ← digits? 2 0 23 rest
      let (_, cs) ← digits? 2 0 59 (← expect? ':' cs)
      return cs
    else none
  | [] => none

/-- Passes a date, a time or both. -/
def moment? (cs : List Char) : Option (List Char) :=
  match date? cs with
  | none => time? cs
  | some cs =>
    match cs with
    | c :: rest =>
      if c = 'T' || c = 't' || c = ' ' then
        match time? rest with
        | some cs => some ((offset? cs).getD cs)
        | none => some (c :: rest)
      else some (c :: rest)
    | [] => some []

/-- A value that is a word, a number or a moment. -/
def word? (cs : List Char) : Option (Value × List Char) :=
  match moment? cs with
  | some cs => some (.moment, cs)
  | none =>
    let word := cs.takeWhile fun c => c.isAlphanum || "+-_.".contains c
    let value :=
      if word = "true".toList then some (.bool true)
      else if word = "false".toList then some (.bool false)
      else ((float? word).map .float).or ((integer? word).map .int)
    value.map fun v => (v, cs.drop word.length)

/-! ## Values -/

mutual

/-- A value in which others may be nested `depth` deep; `n` bounds the work. -/
def value? : (n depth : Nat) → List Char → Option (Value × List Char)
  | 0, _, _ => none
  | n + 1, depth, cs =>
    match cs with
    | '[' :: cs =>
      match depth with
      | 0 => none
      | depth + 1 => (items? n depth cs).map fun (xs, cs) => (.array xs, cs)
    | '\x7b' :: cs =>
      match depth with
      | 0 => none
      | depth + 1 =>
        match skipSpace cs with
        | '\x7d' :: cs => some (.table .inline [], cs)
        | cs => (inline? n depth [] cs).map fun (es, cs) => (.table .inline es, cs)
    | cs =>
      match text? true cs with
      | some (s, cs) => some (.string s, cs)
      | none => if cs.head?.any fun c => c = '"' || c = '\'' then none else word? cs

/-- The items of an array up to its end; a comma may follow the last. -/
def items? : (n depth : Nat) → List Char → Option (List Value × List Char)
  | 0, _, _ => none
  | n + 1, depth, cs =>
    match skipLines (cs.length + 1) cs with
    | ']' :: cs => some ([], cs)
    | cs => do
      let (v, cs) ← value? n depth cs
      match skipLines (cs.length + 1) cs with
      | ',' :: cs =>
        let (vs, cs) ← items? n depth cs
        return (v :: vs, cs)
      | ']' :: cs => return ([v], cs)
      | _ => none

/-- The entries of an inline table from a key on, after others. -/
def inline? : (n depth : Nat) → Entries → List Char → Option (Entries × List Char)
  | 0, _, _, _ => none
  | n + 1, depth, got, cs => do
    let (path, cs) ← key? cs
    let (v, cs) ← value? n depth (skipSpace (← expect? '=' cs))
    let got ← got.add path.dropLast (← path.getLast?) v
    match skipSpace cs with
    | ',' :: cs => inline? n depth got cs
    | '\x7d' :: cs => return (got, cs)
    | _ => none

end

/-! ## Documents -/

/-- The path of a header and whether its name may be used again, after the first bracket. -/
def header? (cs : List Char) : Option ((List String × Bool) × List Char) := do
  let repeated := cs.head? = some '['
  let (path, cs) ← key? (if repeated then cs.drop 1 else cs)
  let cs ← expect? ']' cs
  let cs ← if repeated then expect? ']' cs else some cs
  return ((path, repeated), cs)

/-- Reads lines; `n` bounds their number. -/
def lines? : (n : Nat) → Draft → List Char → Option Draft
  | 0, _, _ => none
  | n + 1, d, cs => do
    match skipSpace cs with
    | [] => return d
    | '[' :: cs =>
      let ((path, repeated), cs) ← header? cs
      let d ← if repeated then d.startRepeated path else d.startTable path
      lines? n d (← finishLine cs)
    | c :: cs =>
      if c = '#' || (newline? (c :: cs)).isSome then lines? n d (← finishLine (c :: cs))
      else
        let (path, cs) ← key? (c :: cs)
        let cs ← expect? '=' cs
        let (v, cs) ← value? (cs.length + 1) (maxDepth - 1) (skipSpace cs)
        let d ← d.add path.dropLast (← path.getLast?) v
        lines? n d (← finishLine cs)

/-- The tables that a text holds. -/
def Entries.ofText? (text : String) : Option Entries :=
  let cs := match text.toList with
    | '\ufeff' :: cs => cs
    | cs => cs
  (lines? (cs.length + 1) .empty cs).bind Draft.finish

end Rulebook.Toml
