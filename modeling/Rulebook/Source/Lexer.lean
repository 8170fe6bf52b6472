import Rulebook.Source.Cursor
import Rulebook.Source.SyntaxError
import Rulebook.Text.Ranges

/-!
# Reading tokens

Blanks and comments stand between tokens. There is no division, so a slash that opens no comment opens
a regex. Each reader goes forward along the text: its cursor follows the one it got, and the reader of
one token passes at least one character, by which `Tokens.ofText` ends.
-/

namespace Rulebook

abbrev Reading (α : Type) := Except SyntaxError (α × Cursor)

/-! ## Blanks and comments -/

/-- What the characters between two tokens belong to. -/
inductive Trivia where
  | blank
  | lineComment
  | blockComment (start : Position)

/-- Passes blanks and comments. -/
def skipTrivia : Trivia → List Char → Position → Except SyntaxError Cursor
  | .blank, '/' :: '/' :: cs, p => skipTrivia .lineComment cs ((p.next '/').next '/')
  | .blank, '/' :: '*' :: cs, p => skipTrivia (.blockComment p) cs ((p.next '/').next '*')
  | .blank, c :: cs, p => if isBlank c then skipTrivia .blank cs (p.next c) else .ok ⟨c :: cs, p⟩
  | .lineComment, c :: cs, p =>
    if c = '\n' then skipTrivia .blank cs (p.next c) else skipTrivia .lineComment cs (p.next c)
  | .blockComment _, '*' :: '/' :: cs, p => skipTrivia .blank cs ((p.next '*').next '/')
  | .blockComment start, c :: cs, p => skipTrivia (.blockComment start) cs (p.next c)
  | .blockComment start, [], _ => .error ⟨.openComment, start⟩
  | _, [], p => .ok ⟨[], p⟩

/-! ## Words and numbers -/

def isWordStart (c : Char) : Bool := c.isAlpha || c = '_'

def isWordChar (c : Char) : Bool := c.isAlphanum || c = '_'

def readWord (c : Cursor) : TokenKind × Cursor :=
  let (word, c) := c.span isWordChar
  (.ofWord word, c)

/-- A point belongs to a number only before a digit. -/
def readFraction (c : Cursor) : List Char × Cursor :=
  match c.rest with
  | '.' :: d :: _ => if d.isDigit then (c.drop 1).span Char.isDigit else ([], c)
  | _ => ([], c)

def readSign (c : Cursor) : Option Char × Cursor :=
  match c.rest with
  | '+' :: _ => (some '+', c.drop 1)
  | '-' :: _ => (some '-', c.drop 1)
  | _ => (none, c)

def readExponent (c : Cursor) : Reading (Option (Option Char × List Char)) :=
  match c.rest with
  | e :: _ =>
    if e = 'e' ∨ e = 'E' then
      let (sign, c) := readSign (c.drop 1)
      let (digits, c) := c.span Char.isDigit
      if digits.isEmpty then .error ⟨.exponentDigits, c.pos⟩ else .ok (some (sign, digits), c)
    else .ok (none, c)
  | [] => .ok (none, c)

def readNumber (c : Cursor) : Except SyntaxError (TokenKind × Cursor) := do
  let (whole, c) := c.span Char.isDigit
  let (frac, c) := readFraction c
  let (exp, c) ← readExponent c
  .ok (.number ⟨whole, frac, exp⟩, c)

/-! ## Strings -/

/-- The character that stands for `c` after a backslash. -/
def escapedAs : Char → Option Char
  | 'n' => some '\n'
  | 'r' => some '\r'
  | 't' => some '\t'
  | '\\' => some '\\'
  | '\'' => some '\''
  | '"' => some '"'
  | '/' => some '/'
  | _ => none

/-- The value of a hexadecimal digit. -/
def hexValue (c : Char) : Option Nat :=
  if c.isDigit then some (c.toNat - 48)
  else if 'a' ≤ c ∧ c ≤ 'f' then some (c.toNat - 87)
  else if 'A' ≤ c ∧ c ≤ 'F' then some (c.toNat - 55)
  else none

/-- The character of a code point, which is not a surrogate. -/
def scalar? (n : Nat) : Option Char :=
  if n.isValidChar then some (Char.ofNat n) else none

/-- The character that four hexadecimal digits write. -/
def readCodePoint (w x y z : Char) : Except SyntaxFault Char :=
  match hexValue w, hexValue x, hexValue y, hexValue z with
  | some a, some b, some c, some d =>
    match scalar? (((a * 16 + b) * 16 + c) * 16 + d) with
    | some ch => .ok ch
    | none => .error (.codePoint [w, x, y, z])
  | _, _, _, _ => .error .hexDigits

/-- The rest of a string that was opened by `quote` at `start`; `read` is what it holds so far,
last character first. -/
def readString (quote : Char) (start : Position) :
    List Char → Position → List Char → Reading TokenKind
  | [], _, _ => .error ⟨.openString, start⟩
  | c :: cs, p, read =>
    if c = '\n' then .error ⟨.openString, start⟩
    else if c = quote then .ok (.string (String.ofList read.reverse), ⟨cs, p.next c⟩)
    else if c = '\\' then
      match cs with
      | [] => .error ⟨.openString, start⟩
      | e :: es =>
        if e = 'u' then
          match es with
          | w :: x :: y :: z :: ds =>
            match readCodePoint w x y z with
            | .ok ch => readString quote start ds ((p.next c).after [e, w, x, y, z]) (ch :: read)
            | .error f => .error ⟨f, p.next c⟩
          | _ => .error ⟨.hexDigits, p.next c⟩
        else
          match escapedAs e with
          | some ch => readString quote start es ((p.next c).next e) (ch :: read)
          | none => .error ⟨.unknownEscape e, p.next c⟩
    else readString quote start cs (p.next c) (c :: read)

/-! ## Regexes -/

/-- The pattern of a regex that was opened at `start`, up to its closing slash; a slash in brackets
does not close it, and `\/` stands for a slash. -/
def readPattern (start : Position) :
    List Char → Position → (inClass : Bool) → List Char → Reading (List Char)
  | [], _, _, _ => .error ⟨.openRegex, start⟩
  | c :: cs, p, inClass, read =>
    if c = '\n' then .error ⟨.openRegex, start⟩
    else if c = '\\' then
      match cs with
      | [] => .error ⟨.openRegex, start⟩
      | e :: es =>
        readPattern start es ((p.next c).next e) inClass
          (if e = '/' then e :: read else e :: c :: read)
    else if c = '[' then readPattern start cs (p.next c) true (c :: read)
    else if c = ']' then readPattern start cs (p.next c) false (c :: read)
    else if c = '/' ∧ inClass = false then .ok (read.reverse, ⟨cs, p.next c⟩)
    else readPattern start cs (p.next c) inClass (c :: read)

def isRegexFlag (c : Char) : Bool := c = 'i' || c = 'm' || c = 's' || c = 'x'

def readFlags (c : Cursor) : Reading (List Char) :=
  let (flags, next) := c.span isRegexFlag
  match next.rest with
  | d :: _ => if d.isAlpha then .error ⟨.regexFlag d, next.pos⟩ else .ok (flags, next)
  | [] => .ok (flags, next)

def readRegex (start : Position) (c : Cursor) : Except SyntaxError (TokenKind × Cursor) := do
  let (pattern, c) ← readPattern start c.rest c.pos false []
  let (flags, c) ← readFlags c
  .ok (.regex (String.ofList pattern) (String.ofList flags), c)

/-! ## Tokens -/

/-- The token that one character makes. -/
def singleKind : Char → Option TokenKind
  | '(' => some .lparen
  | ')' => some .rparen
  | '[' => some .lbracket
  | ']' => some .rbracket
  | '\x7b' => some .lbrace
  | '\x7d' => some .rbrace
  | ',' => some .comma
  | ':' => some .colon
  | ';' => some .semi
  | '.' => some .dot
  | '-' => some .minus
  | _ => none

/-- The token that starts with `c`, which stands at `p` before `cs`. -/
def readToken (c : Char) (cs : List Char) (p : Position) : Reading TokenKind :=
  let next : Cursor := ⟨cs, p.next c⟩
  match singleKind c with
  | some kind => .ok (kind, next)
  | none =>
    if c = '=' then
      match cs with
      | '>' :: _ => .ok (.arrow, next.drop 1)
      | _ => .ok (.eq, next)
    else if c = '"' ∨ c = '\'' then readString c p cs (p.next c) []
    else if c = '/' then readRegex p next
    else if c.isDigit then readNumber ⟨c :: cs, p⟩
    else if isWordStart c then .ok (readWord ⟨c :: cs, p⟩)
    else .error ⟨.unexpectedChar c, p⟩

/-! ## Readers go forward -/

theorem skipTrivia_follows {t : Trivia} {cs : List Char} {p : Position} {c : Cursor}
    (h : skipTrivia t cs p = .ok c) : c.Follows ⟨cs, p⟩ := by
  fun_induction skipTrivia t cs p with
  | case1 cs p ih => exact (ih h).cons.cons
  | case2 cs p ih => exact (ih h).cons.cons
  | case3 d cs p _ _ _ ih => exact (ih h).cons
  | case4 => cases h; exact .refl _
  | case5 cs p ih => exact (ih h).cons
  | case6 d cs p _ ih => exact (ih h).cons
  | case7 cs p start ih => exact (ih h).cons.cons
  | case8 start d cs p _ ih => exact (ih h).cons
  | case9 => cases h
  | case10 => cases h; exact .refl _

theorem readFraction_follows (c : Cursor) : (readFraction c).2.Follows c := by
  unfold readFraction
  split
  · split
    · exact (Cursor.span_follows _ _).trans (c.drop_follows 1)
    · exact .refl c
  · exact .refl c

theorem readSign_follows (c : Cursor) : (readSign c).2.Follows c := by
  unfold readSign
  split
  · exact c.drop_follows 1
  · exact c.drop_follows 1
  · exact .refl c

theorem readExponent_follows {c d : Cursor} {e : Option (Option Char × List Char)}
    (h : readExponent c = .ok (e, d)) : d.Follows c := by
  unfold readExponent at h
  split at h
  · split at h
    · dsimp only at h
      split at h
      · cases h
      · cases h
        exact ((Cursor.span_follows _ _).trans (readSign_follows _)).trans (c.drop_follows 1)
    · cases h; exact .refl c
  · cases h; exact .refl c

theorem readNumber_follows {c d : Cursor} {k : TokenKind} (h : readNumber c = .ok (k, d)) :
    d.Follows (c.span Char.isDigit).2 := by
  unfold readNumber at h
  dsimp only [bind, Except.bind] at h
  split at h
  · cases h
  · cases h
    exact (readExponent_follows ‹_›).trans (readFraction_follows _)

theorem readString_follows {quote : Char} {start p : Position} {cs read : List Char}
    {k : TokenKind} {d : Cursor} (h : readString quote start cs p read = .ok (k, d)) :
    d.Follows ⟨cs, p⟩ := by
  fun_induction readString quote start cs p read with
  | case3 => cases h; exact ⟨[_], rfl, rfl⟩
  | case5 => exact (‹_ → Cursor.Follows _ _› h).cons.cons.cons.cons.cons.cons
  | case8 => exact (‹_ → Cursor.Follows _ _› h).cons.cons
  | case10 => exact (‹_ → Cursor.Follows _ _› h).cons
  | _ => cases h

theorem readPattern_follows {start p : Position} {cs read pattern : List Char} {inClass : Bool}
    {d : Cursor} (h : readPattern start cs p inClass read = .ok (pattern, d)) :
    d.Follows ⟨cs, p⟩ := by
  fun_induction readPattern start cs p inClass read with
  | case4 => exact (‹_ → Cursor.Follows _ _› h).cons.cons
  | case7 => cases h; exact ⟨[_], rfl, rfl⟩
  | case5 | case6 | case8 => exact (‹_ → Cursor.Follows _ _› h).cons
  | _ => cases h

theorem readFlags_follows {c d : Cursor} {flags : List Char} (h : readFlags c = .ok (flags, d)) :
    d.Follows c := by
  unfold readFlags at h
  dsimp only at h
  split at h
  · split at h
    · cases h
    · cases h; exact c.span_follows _
  · cases h; exact c.span_follows _

theorem readRegex_follows {start : Position} {c d : Cursor} {k : TokenKind}
    (h : readRegex start c = .ok (k, d)) : d.Follows c := by
  unfold readRegex at h
  dsimp only [bind, Except.bind] at h
  split at h
  · cases h
  · split at h
    · cases h
    · cases h
      exact (readFlags_follows ‹_›).trans (readPattern_follows ‹_›)

/-- A token takes at least its first character. -/
theorem readToken_follows {c : Char} {cs : List Char} {p : Position} {k : TokenKind} {d : Cursor}
    (h : readToken c cs p = .ok (k, d)) : d.Follows ⟨cs, p.next c⟩ := by
  unfold readToken at h
  dsimp only at h
  split at h
  · cases h; exact .refl _
  · split at h
    · split at h
      · cases h; exact Cursor.drop_follows _ 1
      · cases h; exact .refl _
    · split at h
      · exact readString_follows h
      · split at h
        · exact readRegex_follows h
        · split at h
          · exact (readNumber_follows h).trans (Cursor.span_cons_follows ‹_› _ _)
          · split at h
            · next hw =>
              cases h
              refine Cursor.span_cons_follows (f := isWordChar) ?_ _ _
              simp only [isWordStart, isWordChar, Char.isAlphanum, Bool.or_eq_true] at hw ⊢
              exact hw.elim (fun h => .inl (.inl h)) .inr
            · cases h

/-! ## A whole text -/

/-- The tokens from a cursor on, after those in `read`, last token first. -/
def tokensFrom (c : Cursor) (read : List Token) : Except SyntaxError Tokens :=
  match _h : skipTrivia .blank c.rest c.pos with
  | .error e => .error e
  | .ok ⟨[], p⟩ => .ok ⟨read.reverse, p⟩
  | .ok ⟨d :: ds, p⟩ =>
    match _g : readToken d ds p with
    | .error e => .error e
    | .ok (kind, next) => tokensFrom next (⟨kind, p, next.pos⟩ :: read)
termination_by c.rest.length
decreasing_by
  have h1 := (skipTrivia_follows _h).length_le
  have h2 := (readToken_follows _g).length_le
  simp only [List.length_cons] at h1 h2
  omega

/-- The tokens of a text. -/
def Tokens.ofText (text : String) : Except SyntaxError Tokens := tokensFrom (.start text) []

end Rulebook
