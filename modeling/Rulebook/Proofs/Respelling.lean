import Mathlib.Data.List.Forall2
import Mathlib.Data.String.Basic
import Rulebook.Proofs.Places
import Rulebook.Proofs.Spelling

/-!
# Texts that are written again

The tokens of a text may be written one after the other, with blanks and comments of any kind around them and
at least one between two of them. The new text has tokens of the same kinds.
-/

namespace Rulebook

/-- The characters of the text that a token was read from. -/
def Token.source (text : String) (t : Token) : List Char :=
  (String.Pos.Raw.extract text ⟨t.pos.offset⟩ ⟨t.stop.offset⟩).toList

/-- How a token of the text is written: a number by the characters that stand there. -/
def Token.spelling (text : String) (t : Token) : List Char :=
  t.kind.spelling (String.Pos.Raw.extract text ⟨t.pos.offset⟩ ⟨t.stop.offset⟩).toList

/-- Words with a gap after each, which is not empty where another word follows. -/
inductive Followed : List (List Char) → List Char → Prop
  | nil : Followed [] []
  | word (word : List Char) (gap : Gap) {words : List (List Char)} {cs : List Char}
      (hgap : words = [] ∨ gap ≠ []) (h : Followed words cs) :
      Followed (word :: words) (word ++ (gap.chars ++ cs))

/-- Words with gaps before, between and after them. -/
inductive Spaced (words : List (List Char)) : List Char → Prop
  | mk (before : Gap) {cs : List Char} (h : Followed words cs) : Spaced words (before.chars ++ cs)

/-! ## Reading words -/

/-- Behind a word of a spaced text a token may end. -/
theorem Followed.stops {words : List (List Char)} {cs : List Char} (h : Followed words cs) {gap : Gap}
    (hgap : words = [] ∨ gap ≠ []) : Stops (gap.chars ++ cs) := by
  cases gap with
  -- Only behind the last word the gap may be empty, and there the text ends.
  | nil =>
    obtain rfl : words = [] := hgap.resolve_right fun hne => hne rfl
    cases h
    exact nofun
  | cons x gap =>
    rw [Gap.chars, List.flatMap_cons, List.append_assoc]
    exact x.stops _

/-- Words that are each read as a token are read as these tokens, one after the other. -/
theorem Followed.lexes {words : List (List Char)} {cs : List Char} (h : Followed words cs)
    {kinds : List TokenKind} (hwords : List.Forall₂ Respells words kinds) (before : Gap) (p : Position) :
    ∃ ts stop, Lexes ⟨before.chars ++ cs, p⟩ ts stop ∧ ts.map Token.kind = kinds := by
  induction h generalizing kinds before p with
  | nil =>
    cases hwords
    refine ⟨[], p.after before.chars, .done ?_, rfl⟩
    exact skipTrivia_gap before [] p
  | word word gap hgap hfollowed ih =>
    cases hwords with
    | cons hword hwords =>
      obtain ⟨d, ds, rfl, hreads⟩ := hword
      obtain ⟨hbegins, htoken⟩ := hreads _ (hfollowed.stops hgap)
      obtain ⟨q, hq⟩ := htoken (p.after before.chars)
      obtain ⟨ts, stop, hrest, rfl⟩ := ih hwords gap q
      refine ⟨_, stop, .token ?_ hq hrest, rfl⟩
      exact (skipTrivia_gap before _ p).trans (hbegins.skipTrivia _)

/-! ## Spellings in a text -/

theorem extract_between (before source rest : List Char) :
    (String.Pos.Raw.extract (String.ofList (before ++ source ++ rest))
      ⟨(Position.start.after before).offset⟩
      ⟨((Position.start.after before).after source).offset⟩).toList = source := by
  have hoffset : ∀ cs, (Position.start.after cs).offset = String.utf8Len cs := by
    intro cs
    rw [Position.start_after]
    exact String.utf8ByteSize_ofList cs
  rw [← Position.after_append, hoffset, hoffset, String.utf8Len_append, String.extract_of_valid,
    String.toList_ofList]

/-- Every token of a text was read from its source and left what stands behind it. -/
theorem Lexes.reads {text : String} {c : Cursor} {ts : List Token} {stop : Position} (h : Lexes c ts stop)
    (hc : c.Follows (.start text)) :
    ∀ t ∈ ts, ∃ d ds next, readToken d ds t.pos = .ok (t.kind, next) ∧ Begins d ds ∧
      d :: ds = t.source text ++ next.rest ∧ t.stop = t.pos.after (t.source text) := by
  induction h with
  | done => exact nofun
  | @token c next d ds p stop kind ts htrivia htoken _ ih =>
    have hskip : Cursor.Follows ⟨d :: ds, p⟩ (.start text) := (skipTrivia_follows htrivia).trans hc
    have hnext : next.Follows ⟨d :: ds, p⟩ := (readToken_follows htoken).cons
    refine List.forall_mem_cons.2 ⟨?_, ih (hnext.trans hskip)⟩
    obtain ⟨before, htext, hp⟩ := hskip
    obtain ⟨source, hsource, hstop⟩ := hnext
    dsimp only [Cursor.start] at htext hp hsource hstop
    have hbetween : Token.source text ⟨kind, p, next.pos⟩ = source := by
      have h := extract_between before source next.rest
      rw [List.append_assoc, ← hsource, ← htext, String.ofList_toList, ← hp, ← hstop] at h
      exact h
    refine ⟨d, ds, next, htoken, begins_of_skipTrivia htrivia, ?_, ?_⟩
    · rw [hbetween]
      exact hsource
    · rw [hbetween]
      exact hstop

theorem Lexes.respells {text : String} {c : Cursor} {ts : List Token} {stop : Position}
    (h : Lexes c ts stop) (hc : c.Follows (.start text)) :
    ∀ t ∈ ts, Respells (t.spelling text) t.kind := by
  intro t ht
  obtain ⟨d, ds, next, htoken, hbegins, hsource, -⟩ := h.reads hc t ht
  exact respells_of_readToken hbegins htoken hsource

/-- A text whose tokens are those of another, written again with blanks and comments between them, is read as
tokens of the same kinds, up to its end. -/
theorem respelled_kinds {text : String} {ts : Tokens} (h : Tokens.ofText text = .ok ts) {cs : List Char}
    (hspaced : Spaced (ts.list.map (Token.spelling text)) cs) :
    ∃ us, Tokens.ofText (String.ofList cs) = .ok us ∧
      us.list.map Token.kind = ts.list.map Token.kind ∧ us.stop = .ofPrefix cs := by
  have hrespells := (Tokens.ofText_eq_ok.1 h).respells (.refl _)
  have hwords : List.Forall₂ Respells (ts.list.map (Token.spelling text)) (ts.list.map Token.kind) := by
    rw [List.forall₂_map_left_iff, List.forall₂_map_right_iff, List.forall₂_same]
    exact hrespells
  obtain ⟨before, hfollowed⟩ := hspaced
  obtain ⟨us, stop, hlexes, hkinds⟩ := hfollowed.lexes hwords before .start
  have hread : Tokens.ofText (String.ofList (before.chars ++ _)) = .ok ⟨us, stop⟩ :=
    Tokens.ofText_eq_ok.2 (by rwa [Cursor.start, String.toList_ofList])
  refine ⟨⟨us, stop⟩, hread, hkinds, ?_⟩
  rw [Tokens.stop_eq hread, String.toList_ofList]

/-- A text without blanks. -/
def denseText : String := "x-1.5E+2/[/]\\//i'\"\\u0041'"

/-- The same tokens with comments and blanks around them. -/
def spacedText : String := "/* * */x//\n- 1.5E+2\t/[\\/]\\//i/*/*/\"\\\"A\""

theorem respelled_kinds_spaced :
    ∃ ts, Tokens.ofText denseText = .ok ts ∧
      Spaced (ts.list.map (Token.spelling denseText)) spacedText.toList ∧
      ∃ us, Tokens.ofText (String.ofList spacedText.toList) = .ok us ∧
        us.list.map Token.kind = ts.list.map Token.kind ∧ us.stop = .ofPrefix spacedText.toList := by
  have hwords : (Tokens.ofText denseText).map (·.list.map (Token.spelling denseText)) =
      .ok [['x'], ['-'], "1.5E+2".toList, "/[\\/]\\//i".toList, "\"\\\"A\"".toList] := by
    decide +kernel
  cases hts : Tokens.ofText denseText with
  | error e =>
    rw [hts] at hwords
    cases hwords
  | ok ts =>
    rw [hts] at hwords
    have hspaced : Spaced (ts.list.map (Token.spelling denseText)) spacedText.toList := by
      rw [show ts.list.map (Token.spelling denseText) = _ from Except.ok.inj hwords]
      exact .mk [.block [' ', '*', ' '] (by decide)]
        (.word _ [.line [] nofun] (.inr nofun)
          (.word _ [.blank ' ' rfl] (.inr nofun)
            (.word _ [.blank '\t' rfl] (.inr nofun)
              (.word _ [.block ['/'] (by decide)] (.inr nofun)
                (.word _ [] (.inl rfl) .nil)))))
    exact ⟨ts, rfl, hspaced, respelled_kinds hts hspaced⟩

end Rulebook
