import Rulebook.Proofs.Lexing
import Rulebook.Proofs.Trivia

/-!
# Texts that go on in the next line

A line break ends no reader early that had read its characters to their end. So what is read from a text is read
from it as well where other lines stand before it and behind it, in a place that is moved by the bytes and the
lines before, and the tokens of the lines behind follow.
-/

namespace Rulebook

/-! ## Places -/

/-- The bytes and the lines of whole lines. -/
structure Shift where
  bytes : Nat
  lines : Nat

namespace Shift

def none : Shift := ⟨0, 0⟩

def ofText (text : String) : Shift := ⟨text.utf8ByteSize, text.toList.count '\n'⟩

end Shift

def Position.moved (d : Shift) (p : Position) : Position := ⟨p.offset + d.bytes, p.line + d.lines, p.column⟩

def Token.moved (d : Shift) (t : Token) : Token := ⟨t.kind, t.pos.moved d, t.stop.moved d⟩

def Trivia.moved (d : Shift) : Trivia → Trivia
  | .blank => .blank
  | .lineComment => .lineComment
  | .blockComment start => .blockComment (start.moved d)

section
variable (d : Shift)

@[simp] theorem Position.moved_none (p : Position) : p.moved .none = p := rfl

@[simp] theorem Token.moved_none : Token.moved .none = id := rfl

@[simp] theorem Token.kind_moved (t : Token) : (t.moved d).kind = t.kind := rfl

@[simp] theorem Position.next_moved (p : Position) (c : Char) : (p.moved d).next c = (p.next c).moved d := by
  unfold next moved
  split
  · simp only [Position.mk.injEq, and_true]
    omega
  · simp only [Position.mk.injEq, and_true]
    omega

@[simp] theorem Position.after_moved (p : Position) (cs : List Char) :
    (p.moved d).after cs = (p.after cs).moved d := by
  induction cs generalizing p with
  | nil => rfl
  | cons c cs ih => rw [after_cons, next_moved, ih, after_cons]

end

/-! ## Readers -/

/-- Nothing, or other lines. -/
def NextLines (us : List Char) : Prop := ∀ c ∈ us.head?, c = '\n'

theorem NextLines.nil : NextLines [] := nofun

theorem NextLines.cases {us : List Char} (h : NextLines us) : us = [] ∨ ∃ vs, us = '\n' :: vs := by
  cases us with
  | nil => exact .inl rfl
  | cons u us =>
    obtain rfl := h u rfl
    exact .inr ⟨us, rfl⟩

theorem NextLines.cons (us : List Char) : NextLines ('\n' :: us) := by
  rintro _ ⟨⟩
  rfl

namespace Cursor

/-- The same characters between other lines. -/
def within (d : Shift) (us : List Char) (c : Cursor) : Cursor := ⟨c.rest ++ us, c.pos.moved d⟩

variable {d : Shift} {us : List Char}

theorem drop_one_within (c : Char) (cs : List Char) (p : Position) :
    drop ⟨c :: (cs ++ us), p.moved d⟩ 1 = (drop ⟨c :: cs, p⟩ 1).within d us := by
  simp [drop, within]

theorem span_within (hus : NextLines us) {f : Char → Bool} (hf : f '\n' = false) (c : Cursor) :
    (c.within d us).span f = ((c.span f).1, (c.span f).2.within d us) := by
  obtain ⟨cs, p⟩ := c
  have hend : us.takeWhile f = [] ∧ us.dropWhile f = us := by
    obtain rfl | ⟨us, rfl⟩ := hus.cases
    · exact ⟨rfl, rfl⟩
    · simp [hf]
  have hcs : (cs ++ us).takeWhile f = cs.takeWhile f ∧ (cs ++ us).dropWhile f = cs.dropWhile f ++ us := by
    induction cs with
    | nil => exact hend
    | cons c cs ih =>
      by_cases hc : f c = true
      · simpa [hc] using ih
      · simp [hc]
  simp [span, within, hcs]

end Cursor

section
variable {d : Shift} {us : List Char}

theorem skipTrivia_next_lines (hus : NextLines us) {t : Trivia} {cs : List Char} {p : Position} {c : Cursor}
    (h : skipTrivia t cs p = .ok c) :
    skipTrivia (t.moved d) (cs ++ us) (p.moved d) = skipTrivia .blank (c.rest ++ us) (c.pos.moved d) := by
  fun_induction skipTrivia t cs p with
  | case1 cs p ih =>
    rw [← ih h, ← Position.next_moved, ← Position.next_moved]
    rfl
  | case2 cs p ih =>
    rw [← ih h, ← Position.next_moved, ← Position.next_moved]
    rfl
  | case3 c cs p _ _ hblank ih =>
    rw [← ih h, Trivia.moved, List.cons_append, skipTrivia_blank hblank, Position.next_moved]
  | case4 =>
    cases h
    rfl
  | case5 cs p ih =>
    rw [← ih h, ← Position.next_moved]
    rfl
  | case6 c cs p hbreak ih =>
    rw [← ih h, ← Position.next_moved]
    exact if_neg hbreak
  | case7 cs p start ih =>
    rw [← ih h, ← Position.next_moved, ← Position.next_moved]
    rfl
  | case8 start c cs p hopen ih =>
    have hcs : c = '*' → (cs ++ us).head? ≠ some '/' := by
      rintro rfl hhead
      cases cs with
      | nil =>
        have := hus '/' hhead
        contradiction
      | cons e cs =>
        obtain rfl : e = '/' := by simpa using hhead
        exact hopen cs rfl rfl
    rw [← ih h, Trivia.moved, List.cons_append, skipTrivia_blockComment_cons hcs, Position.next_moved]
  | case9 => cases h
  | case10 t p ht =>
    cases h
    -- A line comment at the end of a text ends with the line.
    cases t with
    | blockComment start => exact absurd rfl (ht start)
    | blank => rfl
    | lineComment =>
      rcases hus.cases with rfl | ⟨us, rfl⟩ <;> rfl

theorem Begins.next_lines (hus : NextLines us) {c : Char} {cs : List Char} (h : Begins c cs) :
    Begins c (cs ++ us) := by
  refine ⟨h.not_blank, fun hc => ?_⟩
  cases cs with
  | nil =>
    rcases hus.cases with rfl | ⟨us, rfl⟩ <;> simp
  | cons e cs => exact h.not_comment hc

/-! ## Words and numbers -/

theorem isDigit_newline : Char.isDigit '\n' = false := rfl

theorem readWord_within (hus : NextLines us) (c : Cursor) :
    readWord (c.within d us) = ((readWord c).1, (readWord c).2.within d us) := by
  rw [readWord, Cursor.span_within hus (by decide)]
  rfl

theorem readFraction_within (hus : NextLines us) (c : Cursor) :
    readFraction (c.within d us) = ((readFraction c).1, (readFraction c).2.within d us) := by
  obtain ⟨cs, p⟩ := c
  rcases cs with _ | ⟨c, _ | ⟨e, cs⟩⟩
  · rcases hus.cases with rfl | ⟨us, rfl⟩ <;> rfl
  · by_cases hc : c = '.'
    · subst hc
      rcases hus.cases with rfl | ⟨us, rfl⟩ <;> rfl
    · simp [readFraction, hc, Cursor.within]
  · by_cases hc : c = '.'
    · subst hc
      by_cases he : e.isDigit = true
      · simp only [readFraction, he, if_true]
        rw [← Cursor.span_within hus isDigit_newline, ← Cursor.drop_one_within]
        exact if_pos he
      · simp [readFraction, he, Cursor.within]
    · simp [readFraction, hc, Cursor.within]

theorem readSign_within (hus : NextLines us) (c : Cursor) :
    readSign (c.within d us) = ((readSign c).1, (readSign c).2.within d us) := by
  obtain ⟨cs, p⟩ := c
  rcases cs with _ | ⟨c, cs⟩
  · rcases hus.cases with rfl | ⟨us, rfl⟩ <;> rfl
  · by_cases hplus : c = '+'
    · subst hplus
      simp [readSign, Cursor.within, Cursor.drop]
    by_cases hminus : c = '-'
    · subst hminus
      simp [readSign, Cursor.within, Cursor.drop]
    · simp [readSign, hplus, hminus, Cursor.within]

theorem readExponent_within (hus : NextLines us) {c next : Cursor} {exp : Option (Option Char × List Char)}
    (h : readExponent c = .ok (exp, next)) : readExponent (c.within d us) = .ok (exp, next.within d us) := by
  obtain ⟨cs, p⟩ := c
  rcases cs with _ | ⟨e, cs⟩
  · cases h
    rcases hus.cases with rfl | ⟨us, rfl⟩ <;> rfl
  simp only [readExponent, Cursor.within, List.cons_append] at h ⊢
  split at h
  · rename_i he
    simp only [if_pos he, Cursor.drop_one_within, readSign_within hus, Cursor.span_within hus isDigit_newline]
    split at h
    · cases h
    · rename_i hdigits
      cases h
      rw [if_neg hdigits]
      rfl
  · rename_i he
    cases h
    rw [if_neg he]
    rfl

theorem readNumber_within (hus : NextLines us) {c next : Cursor} {kind : TokenKind}
    (h : readNumber c = .ok (kind, next)) : readNumber (c.within d us) = .ok (kind, next.within d us) := by
  unfold readNumber at h ⊢
  dsimp only [bind, Except.bind] at h ⊢
  rw [Cursor.span_within hus (by decide)]
  dsimp only
  rw [readFraction_within hus]
  split at h
  · cases h
  · rename_i hexponent
    cases h
    dsimp only
    rw [readExponent_within hus hexponent]

/-! ## Strings and regexes -/

theorem readString_within {quote : Char} {start p : Position} {cs read : List Char} {kind : TokenKind}
    {next : Cursor} (h : readString quote start cs p read = .ok (kind, next)) :
    readString quote (start.moved d) (cs ++ us) (p.moved d) read = .ok (kind, next.within d us) := by
  fun_induction readString quote start cs p read with
  | case3 p read cs hbreak =>
    cases h
    rw [readString.eq_def]
    simp [hbreak, Cursor.within]
  | case5 p read w x y z cs ch hchar hbreak hquote ih =>
    rw [← ih h, readString.eq_def]
    simp [hquote, hchar]
  | case8 p read e es hu ch hescaped hbreak hquote ih =>
    rw [← ih h, readString.eq_def]
    simp [hquote, hu, hescaped]
  | case10 c cs p read hbreak hquote hbackslash ih =>
    rw [← ih h, readString.eq_def]
    simp [hbreak, hquote, hbackslash]
  | _ => cases h

theorem readPattern_within {start p : Position} {cs read pattern : List Char} {inClass : Bool} {next : Cursor}
    (h : readPattern start cs p inClass read = .ok (pattern, next)) :
    readPattern (start.moved d) (cs ++ us) (p.moved d) inClass read = .ok (pattern, next.within d us) := by
  fun_induction readPattern start cs p inClass read with
  | case4 p inClass read e es hbreak ih =>
    rw [← ih h, readPattern.eq_def]
    simp
  | case7 c cs p inClass read hbreak hbackslash hopening hclosing hslash =>
    cases h
    rw [readPattern.eq_def]
    obtain ⟨rfl, rfl⟩ := hslash
    simp [Cursor.within]
  | case5 cs p inClass read hbreak hbackslash ih =>
    rw [← ih h, readPattern.eq_def]
    simp
  | case6 cs p inClass read hbreak hbackslash hopening ih =>
    rw [← ih h, readPattern.eq_def]
    simp
  | case8 c cs p inClass read hbreak hbackslash hopening hclosing hslash ih =>
    rw [← ih h, readPattern.eq_def]
    simp [hbreak, hbackslash, hopening, hclosing, hslash]
  | _ => cases h

theorem readFlags_within (hus : NextLines us) {c next : Cursor} {flags : List Char}
    (h : readFlags c = .ok (flags, next)) : readFlags (c.within d us) = .ok (flags, next.within d us) := by
  unfold readFlags at h ⊢
  rw [Cursor.span_within hus (by decide)]
  generalize c.span isRegexFlag = read at h ⊢
  obtain ⟨read, rest, p⟩ := read
  cases rest with
  | nil =>
    cases h
    rcases hus.cases with rfl | ⟨us, rfl⟩ <;> rfl
  | cons e rest =>
    dsimp only [Cursor.within, List.cons_append] at h ⊢
    split at h
    · cases h
    · rename_i he
      cases h
      rw [if_neg he]
      rfl

theorem readRegex_within (hus : NextLines us) {start : Position} {c next : Cursor} {kind : TokenKind}
    (h : readRegex start c = .ok (kind, next)) :
    readRegex (start.moved d) (c.within d us) = .ok (kind, next.within d us) := by
  unfold readRegex at h ⊢
  dsimp only [bind, Except.bind] at h ⊢
  split at h
  · cases h
  rename_i hpattern
  split at h
  · cases h
  rename_i hflags
  cases h
  dsimp only [Cursor.within]
  rw [readPattern_within hpattern]
  dsimp only
  rw [readFlags_within hus hflags]
  rfl

/-! ## Tokens -/

theorem readToken_within (hus : NextLines us) {c : Char} {cs : List Char} {p : Position} {kind : TokenKind}
    {next : Cursor} (h : readToken c cs p = .ok (kind, next)) :
    readToken c (cs ++ us) (p.moved d) = .ok (kind, next.within d us) := by
  unfold readToken at h ⊢
  dsimp only at h ⊢
  split at h
  · cases h
    rw [Position.next_moved]
    rfl
  split at h
  · rename_i heq
    rw [if_pos heq]
    rcases cs with _ | ⟨e, cs⟩
    -- What follows begins with a line break, which makes no arrow of the sign.
    · cases h
      rcases hus.cases with rfl | ⟨us, rfl⟩ <;> simp [Cursor.within]
    · by_cases he : e = '>'
      · subst he
        cases h
        simp [Cursor.within, Cursor.drop]
      · obtain ⟨rfl, rfl⟩ : TokenKind.eq = kind ∧ _ = next := by simpa [he] using h
        simp [he, Cursor.within]
  rename_i heq
  rw [if_neg heq]
  split at h
  · rename_i hquote
    rw [if_pos hquote, Position.next_moved]
    exact readString_within h
  rename_i hquote
  rw [if_neg hquote]
  split at h
  · rename_i hslash
    rw [if_pos hslash, Position.next_moved]
    exact readRegex_within hus h
  rename_i hslash
  rw [if_neg hslash]
  split at h
  · rename_i hdigit
    rw [if_pos hdigit]
    exact readNumber_within hus h
  rename_i hdigit
  rw [if_neg hdigit]
  split at h
  · rename_i hword
    rw [if_pos hword]
    have hwithin := readWord_within (d := d) hus ⟨c :: cs, p⟩
    cases h
    exact congrArg Except.ok hwithin
  · cases h

theorem Lexes.congr {c c' : Cursor} {ts : List Token} {stop : Position} (h : Lexes c ts stop)
    (hc : skipTrivia .blank c'.rest c'.pos = skipTrivia .blank c.rest c.pos) : Lexes c' ts stop := by
  cases h with
  | done htrivia => exact .done (hc.trans htrivia)
  | token htrivia htoken hrest => exact .token (hc.trans htrivia) htoken hrest

/-- The tokens of the lines behind follow those of the text. -/
theorem Lexes.within (hus : NextLines us) {c : Cursor} {ts more : List Token} {stop last : Position}
    (h : Lexes c ts stop) (hmore : Lexes ⟨us, stop.moved d⟩ more last) :
    Lexes (c.within d us) (ts.map (Token.moved d) ++ more) last := by
  induction h with
  | done htrivia => exact hmore.congr (skipTrivia_next_lines hus htrivia)
  | @token c next e es p stop kind ts htrivia htoken _ ih =>
    refine .token (p := p.moved d) ?_ (readToken_within hus htoken) (ih hmore)
    have hbegins : Begins e (es ++ us) := (begins_of_skipTrivia htrivia).next_lines hus
    exact (skipTrivia_next_lines hus htrivia).trans (hbegins.skipTrivia _)

end

end Rulebook
