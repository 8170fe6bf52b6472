import Rulebook.Json.Basic

/-!
# Reading documents

Errors are placed by line and by bytes passed in the line: some at what was passed, most at the byte
that was looked at and not passed. `valueReader n` reads values that nest at most `n` arrays and
objects; each reader leaves fewer characters than it got, by which the loops end.

A number with a fraction or an exponent is read in two steps: digits are collected while they fit
64 bits, and the rounded whole is then scaled by a power of ten and rounded again.
-/

namespace Rulebook

namespace Json

/-! ## Errors -/

inductive Fault where
  | eofList | eofObject | eofString | eofValue
  | expectedColon | expectedListEnd | expectedObjectEnd | expectedIdent | expectedValue
  | invalidEscape | invalidNumber | numberRange
  | control | keyString | loneSurrogate | trailingComma | trailingChars | hexEnd | recursion
  deriving DecidableEq, Repr

def Fault.message : Fault → String
  | eofList => "EOF while parsing a list"
  | eofObject => "EOF while parsing an object"
  | eofString => "EOF while parsing a string"
  | eofValue => "EOF while parsing a value"
  | expectedColon => "expected `:`"
  | expectedListEnd => "expected `,` or `]`"
  | expectedObjectEnd => "expected `,` or `\x7d`"
  | expectedIdent => "expected ident"
  | expectedValue => "expected value"
  | invalidEscape => "invalid escape"
  | invalidNumber => "invalid number"
  | numberRange => "number out of range"
  | control => "control character (\\u0000-\\u001F) found while parsing a string"
  | keyString => "key must be a string"
  | loneSurrogate => "lone leading surrogate in hex escape"
  | trailingComma => "trailing comma"
  | trailingChars => "trailing characters"
  | hexEnd => "unexpected end of hex escape"
  | recursion => "recursion limit exceeded"

/-- A line, and how many of its bytes were passed. -/
structure Mark where
  line : Nat
  column : Nat
  deriving DecidableEq, Repr, Inhabited

namespace Mark

def start : Mark := ⟨1, 0⟩

def next (m : Mark) (c : Char) : Mark :=
  if c = '\n' then ⟨m.line + 1, 0⟩ else ⟨m.line, m.column + c.utf8Size⟩

/-- The mark one byte into what follows. -/
def peek (m : Mark) : List Char → Mark
  | [] => m
  | c :: _ => if c = '\n' then ⟨m.line + 1, 0⟩ else ⟨m.line, m.column + 1⟩

/-- The mark `n` bytes into what follows, if there are so many; it may stand inside a character. -/
def skip (m : Mark) : Nat → List Char → Option Mark
  | 0, _ => some m
  | _, [] => none
  | n + 1, c :: cs =>
    if n + 1 < c.utf8Size then some ⟨m.line, m.column + n + 1⟩
    else (m.next c).skip (n + 1 - c.utf8Size) cs

/-- The mark at the end of what follows. -/
def finish (m : Mark) (cs : List Char) : Mark := cs.foldl next m

end Mark

structure ReadError where
  fault : Fault
  mark : Mark
  deriving DecidableEq, Repr

def ReadError.message (e : ReadError) : String :=
  e.fault.message ++ s!" at line {e.mark.line} column {e.mark.column}"

/-- What was read, the characters that are left, and the mark there. -/
abbrev Reading (α : Type) := Except ReadError (α × List Char × Mark)

def failHere {α : Type} (f : Fault) (m : Mark) : Reading α := .error ⟨f, m⟩

def failPeek {α : Type} (f : Fault) (cs : List Char) (m : Mark) : Reading α := .error ⟨f, m.peek cs⟩

def isSpace (c : Char) : Bool := c = ' ' || c = '\n' || c = '\t' || c = '\r'

def skipSpace : List Char → Mark → List Char × Mark
  | c :: cs, m => if isSpace c then skipSpace cs (m.next c) else (c :: cs, m)
  | [], m => ([], m)

theorem skipSpace_length_le (cs : List Char) (m : Mark) :
    (skipSpace cs m).1.length ≤ cs.length := by
  induction cs generalizing m with
  | nil => exact Nat.le_refl _
  | cons c cs ih =>
    unfold skipSpace
    split
    · exact Nat.le_succ_of_le (ih (m.next c))
    · exact Nat.le_refl _

theorem length_le_of_skipSpace {cs rest : List Char} {m m' : Mark}
    (h : skipSpace cs m = (rest, m')) : rest.length ≤ cs.length := by
  have := skipSpace_length_le cs m
  rwa [h] at this

/-! ## Numbers -/

/-- The largest whole number that digits are collected in. -/
def maxDigits : Nat := UInt64.size - 1

/-- `10 ^ n`, rounded. -/
def powerOfTen (n : Nat) : Binary64 := .ofRatio false (Nat.pow 10 n) 1

/-- `whole · 10 ^ exp10`, rounded at each step: below `10 ^ -308` in steps of that size. -/
def scale (whole : Binary64) (exp10 : Int) : Nat → Option Binary64
  | 0 => some whole
  | fuel + 1 =>
    if exp10.natAbs ≤ 308 then
      if 0 ≤ exp10 then
        let x := whole.mul (powerOfTen exp10.natAbs)
        if x.isFinite then some x else none
      else some (whole.div (powerOfTen exp10.natAbs))
    else if whole.eqv .zero then some whole
    else if 0 ≤ exp10 then none
    else scale (whole.div (powerOfTen 308)) (exp10 + 308) fuel

/-- `± digits · 10 ^ exp10`, if it is in range. After three steps down every whole is zero. -/
def decimal (negative : Bool) (digits : Nat) (exp10 : Int) : Option Binary64 :=
  (scale (.ofInt digits) exp10 6).map fun x => if negative then x.neg else x

/-- Digits appended to `n` while they fit, then how many and which characters are left. -/
def collect (n : Nat) (count : Nat) : List Char → Nat × Nat × List Char
  | c :: cs =>
    if c.isDigit then
      let n' := n * 10 + (c.toNat - 48)
      if n' ≤ maxDigits then collect n' (count + 1) cs else (n, count, c :: cs)
    else (n, count, c :: cs)
  | [] => (n, count, [])

/-- Passes digits. Marks inside a number count characters, which are bytes there. -/
def passDigits (cs : List Char) (m : Mark) : List Char × Mark :=
  (cs.dropWhile Char.isDigit, ⟨m.line, m.column + (cs.takeWhile Char.isDigit).length⟩)

/-- Ends a number that has a fraction or an exponent. -/
def finishDecimal (negative : Bool) (digits : Nat) (exp10 : Int) (cs : List Char) (m : Mark) :
    Reading JsonNumber :=
  match decimal negative digits exp10 with
  | some x => .ok (.float x, cs, m)
  | none => failHere .numberRange m

/-- The sign of an exponent: whether it is negative. -/
def readExponentSign : List Char → Mark → Bool × List Char × Mark
  | '+' :: cs, m => (false, cs, ⟨m.line, m.column + 1⟩)
  | '-' :: cs, m => (true, cs, ⟨m.line, m.column + 1⟩)
  | cs, m => (false, cs, m)

/-- The largest magnitude of an exponent. -/
def maxExponent : Nat := Nat.pow 2 31 - 1

/-- The number whose exponent was cut off at `maxExponent`, after `taken` of its digits. -/
def hugeExponent (negative downward : Bool) (digits taken : Nat) (cs : List Char) (m : Mark) :
    Reading JsonNumber :=
  if digits ≠ 0 ∧ downward = false then failHere .numberRange ⟨m.line, m.column + taken⟩
  else
    let (rest, m) := passDigits cs m
    .ok (.float (.finite negative 0 Binary64.minExp), rest, m)

/-- The exponent's value, or how many digits it took to pass `maxExponent`. -/
def exponentValue (n taken : Nat) : List Char → Nat ⊕ Nat
  | c :: cs =>
    if c.isDigit then
      let n' := n * 10 + (c.toNat - 48)
      if n' ≤ maxExponent then exponentValue n' (taken + 1) cs else .inr (taken + 1)
    else .inl n
  | [] => .inl n

/-- An exponent and the end of its number; `cs` starts after the letter. -/
def readExponent (negative : Bool) (digits : Nat) (exp10 : Int) (cs : List Char) (m : Mark) :
    Reading JsonNumber :=
  let (downward, cs, m) := readExponentSign cs m
  match cs with
  | [] => failHere .eofValue m
  | c :: cs' =>
    if c.isDigit then
      match exponentValue 0 0 (c :: cs') with
      | .inr taken => hugeExponent negative downward digits taken (c :: cs') m
      | .inl n =>
        let (rest, m) := passDigits (c :: cs') m
        finishDecimal negative digits (if downward then exp10 - n else exp10 + n) rest m
    else failPeek .invalidNumber (c :: cs') m

/-- What may follow the digits of a number that is no whole one. -/
def readTail (negative : Bool) (digits : Nat) (exp10 : Int) (cs : List Char) (m : Mark) :
    Reading JsonNumber :=
  match cs with
  | 'e' :: rest | 'E' :: rest => readExponent negative digits exp10 rest ⟨m.line, m.column + 1⟩
  | cs => finishDecimal negative digits exp10 cs m

/-- A fraction and the end of its number; `cs` starts after the point. Digits that do not fit are
passed without effect. -/
def readFraction (negative : Bool) (digits : Nat) (exp10 : Int) (cs : List Char) (m : Mark) :
    Reading JsonNumber :=
  match cs with
  | [] => failPeek .eofValue [] m
  | c :: _ =>
    if c.isDigit then
      let (digits, count, _) := collect digits 0 cs
      let (rest, m) := passDigits cs m
      readTail negative digits (exp10 - count) rest m
    else failPeek .invalidNumber cs m

/-- A number, after its sign. -/
def readNumber (negative : Bool) (cs : List Char) (m : Mark) : Reading JsonNumber :=
  match cs with
  | [] => failHere .eofValue m
  | c :: cs' =>
    if c.isDigit then
      let zeroFirst := c = '0' ∧ (cs'.head?.any Char.isDigit) = true
      if zeroFirst then failPeek .invalidNumber cs' (m.next c)
      else
        let (digits, _, excess) := collect 0 0 cs
        let (rest, m) := passDigits cs m
        let dropped := (excess.takeWhile Char.isDigit).length
        match rest with
        | '.' :: rest => readFraction negative digits dropped rest ⟨m.line, m.column + 1⟩
        | rest =>
          if dropped = 0 ∧ rest.head? ≠ some 'e' ∧ rest.head? ≠ some 'E' then
            if negative = false then .ok (.int digits, rest, m)
            else if digits = 0 ∨ Nat.pow 2 63 < digits then .ok (.float (Binary64.ofInt digits).neg, rest, m)
            else .ok (.int (-digits), rest, m)
          else readTail negative digits dropped rest m
    else failPeek .invalidNumber (c :: cs') m

/-! ## Strings -/

/-- The value of a hexadecimal digit. -/
def hexDigit (c : Char) : Option Nat :=
  if c.isDigit then some (c.toNat - 48)
  else if 'a' ≤ c ∧ c ≤ 'f' then some (c.toNat - 87)
  else if 'A' ≤ c ∧ c ≤ 'F' then some (c.toNat - 55)
  else none

/-- Four hexadecimal digits. -/
def readHex (cs : List Char) (m : Mark) : Except ReadError Nat :=
  match m.skip 4 cs with
  | none => .error ⟨.eofString, m.finish cs⟩
  | some stop =>
    match cs with
    | w :: x :: y :: z :: _ =>
      match hexDigit w, hexDigit x, hexDigit y, hexDigit z with
      | some a, some b, some c, some d => .ok (((a * 16 + b) * 16 + c) * 16 + d)
      | _, _, _, _ => .error ⟨.invalidEscape, stop⟩
    | _ => .error ⟨.invalidEscape, stop⟩

/-- The mark after four digits. -/
def Mark.afterHex (m : Mark) : Mark := ⟨m.line, m.column + 4⟩

/-- What a backslash and `c` stand for. -/
def unescape : Char → Option Char
  | '"' => some '"'
  | '\\' => some '\\'
  | '/' => some '/'
  | 'b' => some '\x08'
  | 'f' => some '\x0c'
  | 'n' => some '\n'
  | 'r' => some '\r'
  | 't' => some '\t'
  | _ => none

/-- The second half of a character written as two surrogates: `\uXXXX` after the first. -/
def readLowHalf (high : Nat) (cs : List Char) (m : Mark) : Except ReadError Char :=
  match cs with
  | [] => .error ⟨.eofString, m⟩
  | '\\' :: cs =>
    match cs with
    | [] => .error ⟨.eofString, m.next '\\'⟩
    | 'u' :: cs => do
      let m := (m.next '\\').next 'u'
      let low ← readHex cs m
      if low < 0xDC00 ∨ 0xDFFF < low then .error ⟨.loneSurrogate, m.afterHex⟩
      else .ok (Char.ofNat (0x10000 + (high - 0xD800) * 0x400 + (low - 0xDC00)))
    | _ :: _ => .error ⟨.hexEnd, (m.next '\\').peek cs⟩
  | _ :: _ => .error ⟨.hexEnd, m.peek cs⟩

/-- The rest of a string whose quote was passed; `read` is what it holds so far, last first. -/
def readString : List Char → Mark → List Char → Reading String
  | [], m, _ => failHere .eofString m
  | c :: cs, m, read =>
    if c = '"' then .ok (String.ofList read.reverse, cs, m.next c)
    else if c = '\\' then
      match cs with
      | [] => failHere .eofString (m.next c)
      | e :: es =>
        if e = 'u' then
          let m := (m.next c).next e
          match readHex es m with
          | .error err => .error err
          | .ok n =>
            if 0xDC00 ≤ n ∧ n ≤ 0xDFFF then failHere .loneSurrogate m.afterHex
            else if n < 0xD800 ∨ 0xDFFF < n then
              match es with
              | _ :: _ :: _ :: _ :: rest => readString rest m.afterHex (Char.ofNat n :: read)
              | _ => failHere .eofString m
            else
              match readLowHalf n (es.drop 4) m.afterHex with
              | .error err => .error err
              | .ok ch =>
                match es with
                | _ :: _ :: _ :: _ :: _ :: _ :: _ :: _ :: _ :: _ :: rest =>
                  readString rest ⟨m.line, m.column + 10⟩ (ch :: read)
                | _ => failHere .eofString m
        else
          match unescape e with
          | some ch => readString es ((m.next c).next e) (ch :: read)
          | none => failPeek .invalidEscape (e :: es) (m.next c)
    else if c.toNat < 32 then failHere .control (m.next c)
    else readString cs (m.next c) (c :: read)

theorem readString_shrinks {cs rest : List Char} {m m' : Mark} {read : List Char} {s : String}
    (h : readString cs m read = .ok (s, rest, m')) : rest.length < cs.length := by
  fun_induction readString cs m read with
  | case2 => cases h; simp
  | case6 | case9 | case11 | case14 =>
    have := ‹_ → List.length _ < _› h
    simp only [List.length_cons] at *
    omega
  | _ => cases h

theorem finishDecimal_rest {negative : Bool} {digits : Nat} {exp10 : Int} {cs rest : List Char}
    {m m' : Mark} {n : JsonNumber}
    (h : finishDecimal negative digits exp10 cs m = .ok (n, rest, m')) : rest = cs := by
  unfold finishDecimal at h
  split at h <;> cases h
  rfl

theorem readExponentSign_length_le (cs : List Char) (m : Mark) :
    (readExponentSign cs m).2.1.length ≤ cs.length := by
  unfold readExponentSign
  split <;> simp

theorem readExponent_length_le {negative : Bool} {digits : Nat} {exp10 : Int} {cs rest : List Char}
    {m m' : Mark} {n : JsonNumber}
    (h : readExponent negative digits exp10 cs m = .ok (n, rest, m')) :
    rest.length ≤ cs.length := by
  have hs := readExponentSign_length_le cs m
  unfold readExponent at h
  dsimp only at h
  split at h
  · cases h
  · next c cs' hc =>
    rw [hc] at hs
    split at h
    · split at h
      · unfold hugeExponent at h
        split at h
        · cases h
        · cases h
          exact Nat.le_trans (List.dropWhile_sublist _).length_le hs
      · rw [finishDecimal_rest h]
        exact Nat.le_trans (List.dropWhile_sublist _).length_le hs
    · cases h

theorem readTail_length_le {negative : Bool} {digits : Nat} {exp10 : Int} {cs rest : List Char}
    {m m' : Mark} {n : JsonNumber}
    (h : readTail negative digits exp10 cs m = .ok (n, rest, m')) : rest.length ≤ cs.length := by
  unfold readTail at h
  split at h
  · have := readExponent_length_le h
    simp only [List.length_cons]
    omega
  · have := readExponent_length_le h
    simp only [List.length_cons]
    omega
  · exact Nat.le_of_eq (by rw [finishDecimal_rest h])

theorem readFraction_length_le {negative : Bool} {digits : Nat} {exp10 : Int}
    {cs rest : List Char} {m m' : Mark} {n : JsonNumber}
    (h : readFraction negative digits exp10 cs m = .ok (n, rest, m')) :
    rest.length ≤ cs.length := by
  unfold readFraction at h
  split at h
  · cases h
  · split at h
    · exact Nat.le_trans (readTail_length_le h) (List.dropWhile_sublist _).length_le
    · cases h

theorem readNumber_shrinks {negative : Bool} {cs rest : List Char} {m m' : Mark} {n : JsonNumber}
    (h : readNumber negative cs m = .ok (n, rest, m')) : rest.length < cs.length := by
  unfold readNumber at h
  split at h
  · cases h
  · next c cs' =>
    split at h
    · next hd =>
      have hp : (passDigits (c :: cs') m).1.length < (c :: cs').length := by
        simpa [passDigits, hd] using Nat.lt_succ_of_le (List.dropWhile_sublist _).length_le
      dsimp only at h
      split at h
      · cases h
      · split at h
        · next hr =>
          have := readFraction_length_le h
          rw [hr] at hp
          simp only [List.length_cons] at *
          omega
        · split at h
          · split at h
            · cases h; exact hp
            · split at h <;> cases h <;> exact hp
          · exact Nat.lt_of_le_of_lt (readTail_length_le h) hp
    · cases h

/-! ## Values -/

/-- A reader that takes at least one character. -/
structure Reader (α : Type) where
  run : List Char → Mark → Reading α
  shrinks : ∀ {cs rest : List Char} {m m' : Mark} {a : α},
    run cs m = .ok (a, rest, m') → rest.length < cs.length

/-- What ends a list of items, and the faults where it is missing. -/
structure Bracket where
  close : Char
  atEnd : Fault
  missing : Fault

def Bracket.array : Bracket := ⟨']', .eofList, .expectedListEnd⟩

def Bracket.object : Bracket := ⟨'\x7d', .eofObject, .expectedObjectEnd⟩

/-- Items separated by commas, at least one, up to the closing bracket; `read` are those before,
last first. -/
def readItems {α : Type} (b : Bracket) (item : Reader α) (cs : List Char) (m : Mark)
    (read : List α) : Reading (List α) :=
  match _h : item.run cs m with
  | .error e => .error e
  | .ok (a, rest, m₁) =>
    match _g : skipSpace rest m₁ with
    | ([], m₂) => failPeek b.atEnd [] m₂
    | (c :: cs', m₂) =>
      if c = b.close then .ok ((a :: read).reverse, cs', m₂.next c)
      else if c = ',' then
        match _k : skipSpace cs' (m₂.next c) with
        | ([], m₃) => failPeek .eofValue [] m₃
        | (d :: ds, m₃) =>
          if d = b.close then failPeek .trailingComma (d :: ds) m₃
          else readItems b item (d :: ds) m₃ (a :: read)
      else failPeek b.missing (c :: cs') m₂
termination_by cs.length
decreasing_by
  have h1 := item.shrinks _h
  have h2 := length_le_of_skipSpace _g
  have h3 := length_le_of_skipSpace _k
  simp only [List.length_cons] at *
  omega

theorem readItems_shrinks {α : Type} {b : Bracket} {item : Reader α} {cs rest : List Char}
    {m m' : Mark} {read items : List α}
    (h : readItems b item cs m read = .ok (items, rest, m')) : rest.length < cs.length := by
  fun_induction readItems b item cs m read with
  | case3 cs m read a r₁ m₁ ha cs' m₂ hg =>
    cases h
    have := item.shrinks ha
    have := length_le_of_skipSpace hg
    simp only [List.length_cons] at *
    omega
  | case6 cs m read a r₁ m₁ ha cs' m₂ d ds m₃ _ hg _ hk ih =>
    have := item.shrinks ha
    have := length_le_of_skipSpace hg
    have := length_le_of_skipSpace hk
    have := ih h
    simp only [List.length_cons] at *
    omega
  | _ => cases h

/-- The rest of a keyword. -/
def readWord : List Char → List Char → Mark → Reading Unit
  | [], cs, m => .ok ((), cs, m)
  | _ :: _, [], m => failHere .eofValue m
  | w :: ws, c :: cs, m =>
    if c = w then readWord ws cs (m.next c) else failPeek .expectedIdent (c :: cs) m

theorem readWord_length_le {ws cs rest : List Char} {m m' : Mark} {u : Unit}
    (h : readWord ws cs m = .ok (u, rest, m')) : rest.length ≤ cs.length := by
  fun_induction readWord ws cs m with
  | case1 => cases h; exact Nat.le_refl _
  | case3 ws cs m w ih =>
    have := ih h
    simp only [List.length_cons]
    omega
  | _ => cases h

theorem map_eq_ok {ε α β : Type} {f : α → β} {x : Except ε α} {b : β} :
    x.map f = .ok b ↔ ∃ a, x = .ok a ∧ f a = b := by
  cases x <;> simp [Except.map]

/-- One `"key": value` of an object. -/
def entryReader (value : Reader Json) : Reader (String × Json) where
  run cs m :=
    match skipSpace cs m with
    | ('"' :: cs, m) =>
      match readString cs (m.next '"') [] with
      | .error e => .error e
      | .ok (key, cs, m) =>
        match skipSpace cs m with
        | (':' :: cs, m) => (value.run cs (m.next ':')).map fun (v, rest) => ((key, v), rest)
        | ([], m) => failHere .eofObject m
        | (cs, m) => failPeek .expectedColon cs m
    | (cs, m) => failPeek .keyString cs m
  shrinks {cs rest m m' a} h := by
    split at h
    · next hq =>
      split at h
      · cases h
      · next hs =>
        split at h
        · next hc =>
          obtain ⟨⟨_, _, _⟩, hv, hr⟩ := map_eq_ok.1 h
          cases hr
          have := length_le_of_skipSpace hq
          have := readString_shrinks hs
          have := length_le_of_skipSpace hc
          have := value.shrinks hv
          simp only [List.length_cons] at *
          omega
        · cases h
        · cases h
    · cases h

/-- The items of a bracket that was passed, none if it closes at once. -/
def readBracket {α : Type} (b : Bracket) (item : Reader α) (cs : List Char) (m : Mark) :
    Reading (List α) :=
  match skipSpace cs m with
  | ([], m) => failPeek b.atEnd [] m
  | (c :: cs, m) =>
    if c = b.close then .ok ([], cs, m.next c) else readItems b item (c :: cs) m []

theorem readBracket_length_le {α : Type} {b : Bracket} {item : Reader α} {cs rest : List Char}
    {m m' : Mark} {items : List α} (h : readBracket b item cs m = .ok (items, rest, m')) :
    rest.length ≤ cs.length := by
  unfold readBracket at h
  split at h
  · cases h
  · next hs =>
    have := length_le_of_skipSpace hs
    split at h
    · cases h
      simp only [List.length_cons] at this
      omega
    · have := readItems_shrinks h
      omega

/-- A value that starts with `c`, after blanks; `inner` reads the values in it. -/
def readValue (inner : Option (Reader Json)) (c : Char) (cs : List Char) (m : Mark) : Reading Json :=
  match c, inner with
  | 'n', _ => (readWord ['u', 'l', 'l'] cs (m.next c)).map fun (_, rest) => (null, rest)
  | 't', _ => (readWord ['r', 'u', 'e'] cs (m.next c)).map fun (_, rest) => (bool true, rest)
  | 'f', _ => (readWord ['a', 'l', 's', 'e'] cs (m.next c)).map fun (_, rest) => (bool false, rest)
  | '"', _ => (readString cs (m.next c) []).map fun (s, rest) => (string s, rest)
  | '-', _ => (readNumber true cs (m.next c)).map fun (n, rest) => (number n, rest)
  | '[', some inner =>
    (readBracket .array inner cs (m.next c)).map fun (items, rest) => (array items, rest)
  | '\x7b', some inner =>
    (readBracket .object (entryReader inner) cs (m.next c)).map fun (entries, rest) =>
      (object (ofEntries entries), rest)
  | '[', none | '\x7b', none => failPeek .recursion (c :: cs) m
  | c, _ =>
    if c.isDigit then (readNumber false (c :: cs) m).map fun (n, rest) => (number n, rest)
    else failPeek .expectedValue (c :: cs) m

theorem readValue_length_le {inner : Option (Reader Json)} {c : Char} {cs rest : List Char}
    {m m' : Mark} {v : Json} (h : readValue inner c cs m = .ok (v, rest, m')) :
    rest.length ≤ cs.length := by
  unfold readValue at h
  split at h
  case h_8 | h_9 => cases h
  case h_10 =>
    split at h
    · obtain ⟨⟨_, _, _⟩, hv, hr⟩ := map_eq_ok.1 h
      cases hr
      have := readNumber_shrinks hv
      simp only [List.length_cons] at this
      omega
    · cases h
  all_goals
    obtain ⟨⟨_, _, _⟩, hv, hr⟩ := map_eq_ok.1 h
    cases hr
  case h_1 | h_2 | h_3 => exact readWord_length_le hv
  case h_4 => exact Nat.le_of_lt (readString_shrinks hv)
  case h_5 => exact Nat.le_of_lt (readNumber_shrinks hv)
  case h_6 | h_7 => exact readBracket_length_le hv

/-- A value after blanks. -/
def readerOver (inner : Option (Reader Json)) : Reader Json where
  run cs m :=
    match skipSpace cs m with
    | ([], m) => failPeek .eofValue [] m
    | (c :: cs, m) => readValue inner c cs m
  shrinks {cs rest m m' a} h := by
    split at h
    · cases h
    · next hs =>
      have := length_le_of_skipSpace hs
      have := readValue_length_le h
      simp only [List.length_cons] at *
      omega

def valueReader : Nat → Reader Json
  | 0 => readerOver none
  | n + 1 => readerOver (some (valueReader n))

/-- How deep arrays and objects may nest. -/
def maxNesting : Nat := 127

/-- The document that a text holds, with nothing but blanks around it. -/
def ofText (text : String) : Except ReadError Json :=
  match (valueReader maxNesting).run text.toList .start with
  | .error e => .error e
  | .ok (v, rest, m) =>
    match skipSpace rest m with
    | ([], _) => .ok v
    | (cs, m) => .error ⟨.trailingChars, m.peek cs⟩

end Json

end Rulebook
