import Rulebook.Engine.Basic
import Rulebook.Proofs.Lexing
import Rulebook.Proofs.Origins
import Rulebook.Proofs.Texts

/-!
# Where errors and trees stand

A place is counted along the text while the text is read, one character at a time. Every place that a token,
an expression, a binding or an error has was reached in this way, so it tells how long some prefix of the
text is: its bytes, its lines and what its last line holds.
-/

namespace Rulebook

/-! ## Places of prefixes -/

namespace Position

/-- The place after a text. -/
def ofPrefix (before : List Char) : Position where
  offset := (String.ofList before).utf8ByteSize
  line := 1 + before.count '\n'
  column := 1 + (before.reverse.takeWhile (· ≠ '\n')).length

/-- A place that is the one after some prefix of the text. -/
def IsIn (text : String) (p : Position) : Prop := ∃ before, before <+: text.toList ∧ p = ofPrefix before

theorem next_ofPrefix (before : List Char) (c : Char) :
    (ofPrefix before).next c = ofPrefix (before ++ [c]) := by
  have hsize : (String.ofList before).utf8ByteSize + c.utf8Size =
      (String.ofList (before ++ [c])).utf8ByteSize := by
    rw [String.ofList_append, String.utf8ByteSize_append, ← String.utf8ByteSize_singleton,
      String.singleton_eq_ofList]
  unfold next ofPrefix
  split
  · rename_i h
    rw [mk.injEq]
    exact ⟨hsize, by simp [h, Nat.add_assoc], by simp [h]⟩
  · rename_i h
    rw [mk.injEq]
    exact ⟨hsize, by simp [h], by simp [h, Nat.add_assoc]⟩

theorem after_ofPrefix (before cs : List Char) :
    (ofPrefix before).after cs = ofPrefix (before ++ cs) := by
  induction cs generalizing before with
  | nil => simp
  | cons c cs ih => rw [after_cons, next_ofPrefix, ih, List.append_assoc, List.singleton_append]

theorem start_after (cs : List Char) : start.after cs = ofPrefix cs := after_ofPrefix [] cs

theorem offset_next (p : Position) (c : Char) : (p.next c).offset = p.offset + c.utf8Size := by
  unfold next
  split <;> rfl

theorem offset_lt_next (p : Position) (c : Char) : p.offset < (p.next c).offset := by
  have := c.utf8Size_pos
  rw [offset_next]
  omega

theorem offset_le_after (p : Position) (cs : List Char) : p.offset ≤ (p.after cs).offset := by
  induction cs generalizing p with
  | nil => exact Nat.le_refl _
  | cons c cs ih => exact Nat.le_of_lt (Nat.lt_of_lt_of_le (offset_lt_next p c) (ih (p.next c)))

end Position

namespace Cursor

variable {c d : Cursor} {p : Position}

/-- Reading on from `c` comes to `p`. -/
def Reaches (c : Cursor) (p : Position) : Prop := ∃ d : Cursor, d.Follows c ∧ d.pos = p

theorem reaches_pos (c : Cursor) : c.Reaches c.pos := ⟨c, .refl c, rfl⟩

theorem Follows.reaches (h : d.Follows c) : c.Reaches d.pos := ⟨d, h, rfl⟩

theorem Reaches.of_follows (hd : d.Reaches p) (h : d.Follows c) : c.Reaches p := by
  obtain ⟨e, he, rfl⟩ := hd
  exact (he.trans h).reaches

theorem Reaches.cons {ch : Char} {cs : List Char} {q : Position}
    (h : Reaches ⟨cs, q.next ch⟩ p) : Reaches ⟨ch :: cs, q⟩ p :=
  h.of_follows ⟨[ch], rfl, rfl⟩

theorem Reaches.isIn {text : String} (h : (start text).Reaches p) : p.IsIn text := by
  obtain ⟨d, ⟨passed, htext, hpos⟩, rfl⟩ := h
  exact ⟨passed, ⟨d.rest, htext.symm⟩, by rw [hpos]; exact Position.start_after passed⟩

theorem Follows.offset_le (h : d.Follows c) : c.pos.offset ≤ d.pos.offset := by
  obtain ⟨passed, -, hpos⟩ := h
  rw [hpos]
  exact Position.offset_le_after _ _

end Cursor

/-! ## Errors of the lexer -/

theorem skipTrivia_error {t : Trivia} {cs : List Char} {p : Position} {e : SyntaxError}
    (h : skipTrivia t cs p = .error e) :
    Cursor.Reaches ⟨cs, p⟩ e.pos ∨ t = .blockComment e.pos := by
  fun_induction skipTrivia t cs p with
  | case1 cs p ih => exact .inl ((ih h).resolve_right (by simp)).cons.cons
  | case2 cs p ih =>
    refine .inl ((ih h).elim (fun h => h.cons.cons) fun hstart => ?_)
    cases hstart
    exact Cursor.reaches_pos _
  | case3 d cs p _ _ _ ih => exact .inl ((ih h).resolve_right (by simp)).cons
  | case4 => cases h
  | case5 cs p ih => exact .inl ((ih h).resolve_right (by simp)).cons
  | case6 d cs p _ ih => exact .inl ((ih h).resolve_right (by simp)).cons
  | case7 cs p start ih => exact .inl ((ih h).resolve_right (by simp)).cons.cons
  | case8 start d cs p _ ih => exact (ih h).imp_left .cons
  | case9 => cases h; exact .inr rfl
  | case10 => cases h

theorem readExponent_error {c : Cursor} {e : SyntaxError} (h : readExponent c = .error e) :
    c.Reaches e.pos := by
  unfold readExponent at h
  split at h
  · split at h
    · dsimp only at h
      split at h <;> cases h
      exact (((Cursor.span_follows _ _).trans (readSign_follows _)).trans (c.drop_follows 1)).reaches
    · cases h
  · cases h

theorem readNumber_error {c : Cursor} {e : SyntaxError} (h : readNumber c = .error e) :
    c.Reaches e.pos := by
  unfold readNumber at h
  dsimp only [bind, Except.bind] at h
  split at h
  · cases h
    exact (readExponent_error ‹_›).of_follows
      ((readFraction_follows _).trans (c.span_follows Char.isDigit))
  · cases h

theorem readString_error {quote : Char} {start p : Position} {cs read : List Char} {e : SyntaxError}
    (h : readString quote start cs p read = .error e) :
    e.pos = start ∨ Cursor.Reaches ⟨cs, p⟩ e.pos := by
  fun_induction readString quote start cs p read with
  | case1 | case2 | case4 => cases h; exact .inl rfl
  | case3 => cases h
  | case5 => exact (‹_ → _ ∨ Cursor.Reaches _ _› h).imp_right fun h => h.cons.cons.cons.cons.cons.cons
  | case6 | case7 | case9 => cases h; exact .inr (Cursor.reaches_pos _).cons
  | case8 => exact (‹_ → _ ∨ Cursor.Reaches _ _› h).imp_right fun h => h.cons.cons
  | case10 => exact (‹_ → _ ∨ Cursor.Reaches _ _› h).imp_right fun h => h.cons

theorem readPattern_error {start p : Position} {cs read : List Char} {inClass : Bool} {e : SyntaxError}
    (h : readPattern start cs p inClass read = .error e) : e.pos = start := by
  fun_induction readPattern start cs p inClass read with
  | case1 | case2 | case3 => cases h; rfl
  | case7 => cases h
  | _ => exact ‹_ → e.pos = start› h

theorem readFlags_error {c : Cursor} {e : SyntaxError} (h : readFlags c = .error e) :
    c.Reaches e.pos := by
  unfold readFlags at h
  dsimp only at h
  split at h
  · split at h
    · cases h
      exact (c.span_follows isRegexFlag).reaches
    · cases h
  · cases h

theorem readRegex_error {start : Position} {c : Cursor} {e : SyntaxError}
    (h : readRegex start c = .error e) : e.pos = start ∨ c.Reaches e.pos := by
  unfold readRegex at h
  dsimp only [bind, Except.bind] at h
  split at h
  · cases h
    exact .inl (readPattern_error ‹_›)
  · split at h
    · cases h
      exact .inr ((readFlags_error ‹_›).of_follows (readPattern_follows ‹_›))
    · cases h

theorem readToken_error {c : Char} {cs : List Char} {p : Position} {e : SyntaxError}
    (h : readToken c cs p = .error e) : Cursor.Reaches ⟨c :: cs, p⟩ e.pos := by
  have hstart : Cursor.Reaches ⟨c :: cs, p⟩ p := Cursor.reaches_pos _
  unfold readToken at h
  dsimp only at h
  split at h
  · cases h
  · split at h
    · split at h <;> cases h
    · split at h
      · obtain hpos | hpos := readString_error h
        · exact hpos ▸ hstart
        · exact hpos.cons
      · split at h
        · obtain hpos | hpos := readRegex_error h
          · exact hpos ▸ hstart
          · exact hpos.cons
        · split at h
          · exact readNumber_error h
          · split at h <;> cases h
            exact hstart

theorem tokensFrom_error {c : Cursor} {read : List Token} {e : SyntaxError}
    (h : tokensFrom c read = .error e) : c.Reaches e.pos := by
  fun_induction tokensFrom c read with
  | case1 c read e' htrivia =>
    cases h
    exact (skipTrivia_error htrivia).resolve_right (by simp)
  | case2 => cases h
  | case3 c read d ds p htrivia e' htoken =>
    cases h
    exact (readToken_error htoken).of_follows (skipTrivia_follows htrivia)
  | case4 c read d ds p htrivia kind next htoken ih =>
    exact (ih h).of_follows ((readToken_follows htoken).cons.trans (skipTrivia_follows htrivia))

/-! ## Tokens -/

namespace Lexes

variable {c : Cursor} {ts : List Token} {stop : Position}

theorem stop_eq (h : Lexes c ts stop) : stop = c.pos.after c.rest := by
  induction h with
  | done htrivia =>
    obtain ⟨passed, hrest, hpos⟩ := skipTrivia_follows htrivia
    simp only [List.append_nil] at hpos hrest
    rw [hpos, hrest]
  | token htrivia htoken _ ih =>
    obtain ⟨passed, hrest, hpos⟩ :=
      (readToken_follows htoken).cons.trans (skipTrivia_follows htrivia)
    rw [ih, hrest, Position.after_append, hpos]

theorem reaches (h : Lexes c ts stop) : ∀ t ∈ ts, c.Reaches t.pos ∧ c.Reaches t.stop := by
  induction h with
  | done => simp
  | token htrivia htoken _ ih =>
    have hskip := skipTrivia_follows htrivia
    have hnext := (readToken_follows htoken).cons.trans hskip
    refine List.forall_mem_cons.2 ⟨⟨hskip.reaches, hnext.reaches⟩, fun t ht => ?_⟩
    exact ⟨(ih t ht).1.of_follows hnext, (ih t ht).2.of_follows hnext⟩

/-- Each token takes a character at least, so they stand one after the other, all before the end. -/
theorem offsets (h : Lexes c ts stop) :
    ts.Pairwise (fun t u => t.pos.offset < u.pos.offset) ∧
      ∀ t ∈ ts, c.pos.offset ≤ t.pos.offset ∧ t.pos.offset < stop.offset := by
  induction h with
  | done => simp
  | @token c next d ds p stop kind ts htrivia htoken hrest ih =>
    have hskip : c.pos.offset ≤ p.offset := (skipTrivia_follows htrivia).offset_le
    have hchar : p.offset < (p.next d).offset := Position.offset_lt_next p d
    have htaken : (p.next d).offset ≤ next.pos.offset := (readToken_follows htoken).offset_le
    have hstop : next.pos.offset ≤ stop.offset := by
      rw [hrest.stop_eq]
      exact Position.offset_le_after _ _
    refine ⟨List.pairwise_cons.2 ⟨fun u hu => ?_, ih.1⟩, List.forall_mem_cons.2 ⟨?_, fun u hu => ?_⟩⟩
    · have := ih.2 u hu
      show p.offset < _
      omega
    · show c.pos.offset ≤ p.offset ∧ p.offset < stop.offset
      omega
    · have := ih.2 u hu
      omega

end Lexes

section
variable {text : String} {ts : Tokens} (h : Tokens.ofText text = .ok ts)
include h

theorem Tokens.stop_eq : ts.stop = .ofPrefix text.toList := by
  rw [(Tokens.ofText_eq_ok.1 h).stop_eq]
  exact Position.start_after _

theorem Tokens.stop_offset : ts.stop.offset = text.utf8ByteSize := by
  rw [Tokens.stop_eq h]
  show (String.ofList text.toList).utf8ByteSize = text.utf8ByteSize
  rw [String.ofList_toList]

theorem Tokens.HasPlace.isIn {p : Position} (hp : ts.HasPlace p) : p.IsIn text := by
  obtain rfl | ⟨t, ht, rfl⟩ := hp
  · exact ⟨text.toList, List.prefix_refl _, Tokens.stop_eq h⟩
  · exact ((Tokens.ofText_eq_ok.1 h).reaches t ht).1.isIn

end

/-! ## Programs and errors -/

/-- Every expression of a statement, and the binding if it is one, stands in the text. -/
def Stmt.IsPlaced (text : String) (s : Stmt) : Prop :=
  s.body.Every (fun n => n.pos.IsIn text) ∧
    ∀ pos name value, s = .bind pos name value → pos.IsIn text

theorem Program.ofText_placed (text : String) :
    Yields (fun e => e.pos.IsIn text) (fun p => ∀ s ∈ p, s.IsPlaced text) (Program.ofText text) := by
  unfold Program.ofText
  cases hts : Tokens.ofText text with
  | error e => exact (tokensFrom_error hts).isIn
  | ok ts =>
    have hprogram := Program.ofTokens_standsIn ts
    show Yields _ _ (Program.ofTokens ts)
    cases hp : Program.ofTokens ts with
    | error e =>
      rw [hp] at hprogram
      exact Tokens.HasPlace.isIn hts hprogram
    | ok p =>
      rw [hp] at hprogram
      intro s hs
      obtain ⟨hbody, hbind⟩ := hprogram s hs
      refine ⟨fun n hn => ?_, fun pos name value heq => ?_⟩
      · obtain ⟨t, ht, hpos, -⟩ := hbody n hn
        exact Tokens.HasPlace.isIn hts (.inr ⟨t, ht, hpos⟩)
      · exact Tokens.HasPlace.isIn hts (.inr (hbind pos name value heq).1)

theorem Program.root_placed {text : String} {p : Program} (hp : ∀ s ∈ p, s.IsPlaced text)
    (registered : String → Bool) :
    Yields (SpecError.OfEval (EvalError.At fun n => n.pos.IsIn text))
      (Rule.Written (Expr.Every fun n => n.pos.IsIn text)) (p.root registered) := by
  refine (kept_written registered fun n => n.pos.IsIn text).root (fun s hs => (hp s hs).1) ?_
  intro pos name value hmem
  exact ⟨.null pos, (hp _ hmem).2 pos name value rfl, rfl, nofun⟩

theorem SpecError.OfEval.isIn {text : String} {e : SpecError} {p : Position}
    (h : e.OfEval (EvalError.At fun n => n.pos.IsIn text)) (hp : e.pos? = some p) : p.IsIn text := by
  obtain rfl | rfl | ⟨cause, ⟨n, hn, hpos, -⟩, rfl⟩ := h
  · cases hp
  · cases hp
  · cases hp
    exact hpos ▸ hn

/-- Tokens, trees and errors stand at places of the text; the tokens one after the other, all before its
end. -/
theorem places_genuine (r : Registry) (text : String) :
    (∀ ts, Tokens.ofText text = .ok ts →
      (∀ t ∈ ts.list, t.pos.IsIn text ∧ t.stop.IsIn text ∧ t.pos.offset < text.utf8ByteSize) ∧
      ts.list.Pairwise (fun t u => t.pos.offset < u.pos.offset) ∧
      ts.stop = .ofPrefix text.toList ∧ ts.stop.offset = text.utf8ByteSize) ∧
    (∀ p, Program.ofText text = .ok p → ∀ s ∈ p, s.IsPlaced text) ∧
    ∀ e p, r.load text = .error e → e.pos? = some p → p.IsIn text := by
  have hprogram := Program.ofText_placed text
  refine ⟨fun ts hts => ?_, fun p hp => ?_, fun e q he hq => ?_⟩
  · have hlexes := Tokens.ofText_eq_ok.1 hts
    have hstop := Tokens.stop_offset hts
    refine ⟨fun t ht => ?_, hlexes.offsets.1, Tokens.stop_eq hts, hstop⟩
    obtain ⟨hpos, hafter⟩ := hlexes.reaches t ht
    exact ⟨hpos.isIn, hafter.isIn, hstop ▸ (hlexes.offsets.2 t ht).2⟩
  · rw [hp] at hprogram
    exact hprogram
  · unfold Registry.load Rule.ofText at he
    split at he
    all_goals
      rename_i hparse
      rw [hparse] at hprogram
    · cases he
      cases hq
      exact hprogram
    · have hroot := Program.root_placed hprogram r.contains
      rw [he] at hroot
      exact hroot.isIn hq

/-- The error in a lambda's body stands behind a comment that holds a long character and a line break. -/
theorem places_genuine_lambda :
    ∃ e, Registry.standard.load "let f = (x) => /* ü\n */ y\nf('é')" = .error e ∧
      e.pos? = some ⟨25, 2, 5⟩ ∧
      Position.IsIn "let f = (x) => /* ü\n */ y\nf('é')" ⟨25, 2, 5⟩ := by
  have hload : (Registry.standard.load "let f = (x) => /* ü\n */ y\nf('é')").map (fun _ => ()) =
      .error (.eval "Unknown identifier 'y'" ⟨25, 2, 5⟩) := by decide +kernel
  cases he : Registry.standard.load "let f = (x) => /* ü\n */ y\nf('é')" with
  | ok rule =>
    rw [he] at hload
    cases hload
  | error e =>
    rw [he] at hload
    cases hload
    exact ⟨_, rfl, rfl, (places_genuine .standard _).2.2 _ _ he rfl⟩

end Rulebook
