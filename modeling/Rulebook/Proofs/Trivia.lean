import Mathlib.Data.List.Infix
import Rulebook.Source.Lexer

/-!
# Blanks and comments

Between two tokens may stand any number of blanks and of comments, each comment whole. They are passed, and
after them a token begins, or the text ends.
-/

namespace Rulebook

/-! ## Gaps -/

/-- A blank or a whole comment; a line comment has the end of its line. -/
inductive Piece where
  | blank (c : Char) (h : isBlank c = true)
  | line (body : List Char) (h : '\n' ∉ body)
  | block (body : List Char) (h : ¬ ['*', '/'] <:+: body)

def Piece.chars : Piece → List Char
  | blank c _ => [c]
  | line body _ => '/' :: '/' :: (body ++ ['\n'])
  | block body _ => '/' :: '*' :: (body ++ ['*', '/'])

/-- What stands between two tokens. -/
abbrev Gap := List Piece

def Gap.chars (gap : Gap) : List Char := gap.flatMap Piece.chars

theorem skipTrivia_cons {c : Char} {cs : List Char}
    (h : c = '/' → cs.head? ≠ some '/' ∧ cs.head? ≠ some '*') (p : Position) :
    skipTrivia .blank (c :: cs) p =
      if isBlank c = true then skipTrivia .blank cs (p.next c) else .ok ⟨c :: cs, p⟩ := by
  obtain ⟨t, ht⟩ : ∃ t, Trivia.blank = t := ⟨_, rfl⟩
  obtain ⟨all, hall⟩ : ∃ all, c :: cs = all := ⟨_, rfl⟩
  -- The cases are those of any text in any trivia; the equations leave those of this one.
  conv_lhs => rw [ht, hall]
  fun_cases skipTrivia t all p with
  | case1 =>
    cases hall
    exact absurd rfl (h rfl).1
  | case2 =>
    cases hall
    exact absurd rfl (h rfl).2
  | case3 =>
    cases hall
    rw [if_pos ‹_›]
  | case4 =>
    cases hall
    rw [if_neg ‹_›]
  | case10 => cases hall
  | _ => cases ht

theorem skipTrivia_blockComment_cons {c : Char} {cs : List Char} (h : c = '*' → cs.head? ≠ some '/')
    (start p : Position) :
    skipTrivia (.blockComment start) (c :: cs) p = skipTrivia (.blockComment start) cs (p.next c) := by
  obtain ⟨t, ht⟩ : ∃ t, Trivia.blockComment start = t := ⟨_, rfl⟩
  obtain ⟨all, hall⟩ : ∃ all, c :: cs = all := ⟨_, rfl⟩
  conv_lhs => rw [ht, hall]
  fun_cases skipTrivia t all p with
  | case7 =>
    cases hall
    exact absurd rfl (h rfl)
  | case8 =>
    cases hall
    cases ht
    rfl
  | case9 | case10 => cases hall
  | _ => cases ht

/-! ## Passing pieces -/

theorem skipTrivia_blank {c : Char} (h : isBlank c = true) (rest : List Char) (p : Position) :
    skipTrivia .blank (c :: rest) p = skipTrivia .blank rest (p.next c) := by
  have hslash : c ≠ '/' := by
    rintro rfl
    exact absurd h (by decide)
  rw [skipTrivia_cons fun hc => absurd hc hslash, if_pos h]

theorem skipTrivia_line {body : List Char} (h : '\n' ∉ body) (rest : List Char) (p : Position) :
    skipTrivia .lineComment (body ++ '\n' :: rest) p =
      skipTrivia .blank rest (p.after (body ++ ['\n'])) := by
  induction body generalizing p with
  | nil => rfl
  | cons c body ih =>
    rw [List.mem_cons, not_or] at h
    show (if c = '\n' then _ else skipTrivia .lineComment (body ++ '\n' :: rest) (p.next c)) = _
    rw [if_neg (Ne.symm h.1), ih h.2]
    rfl

theorem skipTrivia_block {body : List Char} (h : ¬ ['*', '/'] <:+: body) (start : Position)
    (rest : List Char) (p : Position) :
    skipTrivia (.blockComment start) (body ++ '*' :: '/' :: rest) p =
      skipTrivia .blank rest (p.after (body ++ ['*', '/'])) := by
  induction body generalizing p with
  | nil => rfl
  | cons c body ih =>
    -- The comment does not end within its body.
    have hopen : c = '*' → (body ++ '*' :: '/' :: rest).head? ≠ some '/' := by
      rintro rfl hhead
      cases body with
      | nil => simp at hhead
      | cons d body =>
        obtain rfl : d = '/' := by simpa using hhead
        exact h ⟨[], body, rfl⟩
    rw [List.cons_append, skipTrivia_blockComment_cons hopen, ih fun hinfix => h (List.infix_cons hinfix)]
    rfl

theorem skipTrivia_piece (x : Piece) (rest : List Char) (p : Position) :
    skipTrivia .blank (x.chars ++ rest) p = skipTrivia .blank rest (p.after x.chars) := by
  cases x with
  | blank c h => exact skipTrivia_blank h rest p
  | line body h =>
    rw [Piece.chars, List.cons_append, List.cons_append, List.append_assoc]
    exact skipTrivia_line h rest _
  | block body h =>
    rw [Piece.chars, List.cons_append, List.cons_append, List.append_assoc]
    exact skipTrivia_block h _ rest _

theorem skipTrivia_gap (gap : Gap) (rest : List Char) (p : Position) :
    skipTrivia .blank (gap.chars ++ rest) p = skipTrivia .blank rest (p.after gap.chars) := by
  induction gap generalizing p with
  | nil => rfl
  | cons x gap ih =>
    rw [Gap.chars, List.flatMap_cons, List.append_assoc, skipTrivia_piece, Position.after_append]
    exact ih _

/-! ## Where tokens begin and end -/

/-- A token ends here: the text ends, or a blank or a comment may follow. -/
def Stops (rest : List Char) : Prop := ∀ c ∈ rest.head?, isBlank c = true ∨ c = '/'

theorem Piece.stops (x : Piece) (rest : List Char) : Stops (x.chars ++ rest) := by
  cases x with
  | blank c h => simp [Stops, Piece.chars, h]
  | line | block => simp [Stops, Piece.chars]

/-- No blank and no comment begins with `d` before `ds`. -/
structure Begins (d : Char) (ds : List Char) : Prop where
  not_blank : isBlank d = false
  not_comment : d = '/' → ds.head? ≠ some '/' ∧ ds.head? ≠ some '*'

theorem begins_of_skipTrivia {t : Trivia} {cs ds : List Char} {d : Char} {p q : Position}
    (h : skipTrivia t cs p = .ok ⟨d :: ds, q⟩) : Begins d ds := by
  fun_induction skipTrivia t cs p with
  | case4 c cs p hline hblock hblank =>
    cases h
    refine ⟨by simpa using hblank, ?_⟩
    rintro rfl
    constructor
    · intro hhead
      obtain ⟨es, rfl⟩ := List.head?_eq_some_iff.1 hhead
      exact hline es rfl rfl
    · intro hhead
      obtain ⟨es, rfl⟩ := List.head?_eq_some_iff.1 hhead
      exact hblock es rfl rfl
  | case9 => cases h
  | case10 => cases h
  | _ => exact ‹_ → Begins d ds› h

theorem Begins.skipTrivia {d : Char} {ds : List Char} (h : Begins d ds) (p : Position) :
    skipTrivia .blank (d :: ds) p = .ok ⟨d :: ds, p⟩ := by
  rw [skipTrivia_cons h.not_comment, if_neg (by simp [h.not_blank])]

end Rulebook
