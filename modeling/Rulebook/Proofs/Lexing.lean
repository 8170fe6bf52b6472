import Mathlib.Data.List.Basic
import Rulebook.Source.Lexer

/-!
# How texts are read as tokens

Tokens are read one after the other, each after the blanks and comments before it. Some texts make the same
tokens whatever stands after them, like those that end in a mark of one character. Put together, they make
their tokens one after the other.
-/

namespace Rulebook

/-- From a place on, tokens of these kinds are read up to the last characters. -/
def Makes (c : Cursor) (kinds : List TokenKind) (last : List Char) : Prop :=
  ∀ read, ∃ (ts : List Token) (q : Position), ts.map Token.kind = kinds ∧
    tokensFrom c read = tokensFrom ⟨last, q⟩ (ts.reverse ++ read)

/-- Wherever they stand, the characters make tokens of these kinds. -/
def Spells (cs : List Char) (kinds : List TokenKind) : Prop :=
  ∀ last p, Makes ⟨cs ++ last, p⟩ kinds last

theorem tokensFrom_end (p : Position) (read : List Token) :
    tokensFrom ⟨[], p⟩ read = .ok ⟨read.reverse, p⟩ := by
  rw [tokensFrom]
  rfl

theorem tokensFrom_token {c next : Cursor} {read : List Token} {d : Char} {ds : List Char}
    {p : Position} {kind : TokenKind} (htrivia : skipTrivia .blank c.rest c.pos = .ok ⟨d :: ds, p⟩)
    (htoken : readToken d ds p = .ok (kind, next)) :
    tokensFrom c read = tokensFrom next (⟨kind, p, next.pos⟩ :: read) := by
  rw [tokensFrom]
  split
  · rename_i h
    cases htrivia.symm.trans h
  · rename_i h
    cases htrivia.symm.trans h
  · rename_i h
    cases htrivia.symm.trans h
    split
    · rename_i h
      cases htoken.symm.trans h
    · rename_i h
      cases htoken.symm.trans h
      rfl

/-- From a place on, a text has these tokens, and it ends at `stop`. -/
inductive Lexes : Cursor → List Token → (stop : Position) → Prop
  | done {c : Cursor} {stop : Position} (htrivia : skipTrivia .blank c.rest c.pos = .ok ⟨[], stop⟩) :
      Lexes c [] stop
  | token {c next : Cursor} {d : Char} {ds : List Char} {p stop : Position} {kind : TokenKind}
      {ts : List Token} (htrivia : skipTrivia .blank c.rest c.pos = .ok ⟨d :: ds, p⟩)
      (htoken : readToken d ds p = .ok (kind, next)) (hrest : Lexes next ts stop) :
      Lexes c (⟨kind, p, next.pos⟩ :: ts) stop

theorem Lexes.tokensFrom {c : Cursor} {more : List Token} {stop : Position} (h : Lexes c more stop)
    (read : List Token) : tokensFrom c read = .ok ⟨read.reverse ++ more, stop⟩ := by
  induction h generalizing read with
  | @done c stop htrivia =>
    rw [Rulebook.tokensFrom]
    split <;> rename_i h <;> cases htrivia.symm.trans h
    simp
  | token htrivia htoken _ ih =>
    rw [tokensFrom_token htrivia htoken, ih]
    simp

theorem lexes_of_tokensFrom {c : Cursor} {read : List Token} {ts : Tokens}
    (h : tokensFrom c read = .ok ts) : ∃ more, ts.list = read.reverse ++ more ∧ Lexes c more ts.stop := by
  fun_induction tokensFrom c read with
  | case1 | case3 => cases h
  | case2 c read p htrivia =>
    cases h
    exact ⟨[], by simp, .done htrivia⟩
  | case4 c read d ds p htrivia kind next htoken ih =>
    obtain ⟨more, hlist, hmore⟩ := ih h
    exact ⟨⟨kind, p, next.pos⟩ :: more, by simpa using hlist, .token htrivia htoken hmore⟩

theorem Tokens.ofText_eq_ok {text : String} {ts : Tokens} :
    Tokens.ofText text = .ok ts ↔ Lexes (.start text) ts.list ts.stop := by
  refine ⟨fun h => ?_, fun h => h.tokensFrom []⟩
  obtain ⟨more, hlist, hmore⟩ := lexes_of_tokensFrom h
  rwa [hlist]

namespace Makes

variable {c next : Cursor} {kinds more : List TokenKind} {mid last : List Char}

theorem refl (p : Position) : Makes ⟨last, p⟩ [] last := fun _ => ⟨[], p, rfl, rfl⟩

theorem token {d : Char} {ds : List Char} {p : Position} {kind : TokenKind}
    (htrivia : skipTrivia .blank c.rest c.pos = .ok ⟨d :: ds, p⟩)
    (htoken : readToken d ds p = .ok (kind, next)) (h : Makes next kinds last) :
    Makes c (kind :: kinds) last := by
  intro read
  obtain ⟨ts, q, rfl, hts⟩ := h (⟨kind, p, next.pos⟩ :: read)
  exact ⟨⟨kind, p, next.pos⟩ :: ts, q, rfl, by
    rw [tokensFrom_token htrivia htoken, hts, List.reverse_cons, List.append_assoc,
      List.singleton_append]⟩

theorem trans (h : Makes c kinds mid) (g : ∀ p, Makes ⟨mid, p⟩ more last) :
    Makes c (kinds ++ more) last := by
  intro read
  obtain ⟨ts, q, rfl, hts⟩ := h read
  obtain ⟨us, q', rfl, hus⟩ := g q (ts.reverse ++ read)
  exact ⟨ts ++ us, q', List.map_append, by
    rw [hts, hus, List.reverse_append, List.append_assoc]⟩

end Makes

namespace Spells

variable {cs ds : List Char} {kinds more : List TokenKind}

theorem nil : Spells [] [] := fun _ p => .refl p

theorem append (h : Spells cs kinds) (g : Spells ds more) : Spells (cs ++ ds) (kinds ++ more) := by
  intro last p
  rw [List.append_assoc]
  exact (h _ p).trans fun q => g last q

theorem replicate (h : Spells cs kinds) (n : Nat) :
    Spells (List.replicate n cs).flatten (List.replicate n kinds).flatten := by
  induction n with
  | zero => exact nil
  | succ n ih =>
    rw [List.replicate_succ, List.replicate_succ, List.flatten_cons, List.flatten_cons]
    exact h.append ih

/-- A text of its own makes these tokens and no more. -/
theorem ofText (h : Spells cs kinds) :
    ∃ ts, Tokens.ofText (String.ofList cs) = .ok ts ∧ ts.list.map Token.kind = kinds := by
  obtain ⟨ts, q, hts, hall⟩ := h [] .start []
  refine ⟨⟨ts, q⟩, ?_, hts⟩
  rw [List.append_nil] at hall
  rw [Tokens.ofText, Cursor.start, String.toList_ofList, hall, tokensFrom_end, List.append_nil,
    List.reverse_reverse]

end Spells

/-! ## Marks -/

theorem skipTrivia_mark {c : Char} {kind : TokenKind} (h : singleKind c = some kind) (cs : List Char)
    (p : Position) : skipTrivia .blank (c :: cs) p = .ok ⟨c :: cs, p⟩ := by
  unfold singleKind at h
  split at h
  case h_12 => cases h
  all_goals rfl

theorem readToken_mark {c : Char} {kind : TokenKind} (h : singleKind c = some kind) (cs : List Char)
    (p : Position) : readToken c cs p = .ok (kind, ⟨cs, p.next c⟩) := by
  unfold readToken
  rw [h]

theorem spells_mark {c : Char} {kind : TokenKind} (h : singleKind c = some kind) :
    Spells [c] [kind] := fun last p =>
  .token (skipTrivia_mark h last p) (readToken_mark h last p) (.refl _)

theorem spells_marks {cs : List Char} {kinds : List TokenKind}
    (h : cs.map singleKind = kinds.map some) : Spells cs kinds := by
  induction cs generalizing kinds with
  | nil =>
    obtain rfl : kinds = [] := by simpa using h
    exact .nil
  | cons c cs ih =>
    cases kinds with
    | nil => simp at h
    | cons kind kinds =>
      simp only [List.map_cons, List.cons.injEq] at h
      exact (spells_mark h.1).append (ih h.2)

end Rulebook
