import Rulebook.Source.Position

/-!
# Reading along a text

A cursor is what is left of a text and the place where that starts. `d.Follows c` says that `d` is
reached from `c` by passing some characters, the place moved along with them.
-/

namespace Rulebook

structure Cursor where
  rest : List Char
  pos : Position
  deriving DecidableEq, Repr, Inhabited

namespace Cursor

def start (text : String) : Cursor := ⟨text.toList, .start⟩

/-- Passes the first `n` characters. -/
def drop (c : Cursor) (n : Nat) : Cursor := ⟨c.rest.drop n, c.pos.after (c.rest.take n)⟩

/-- The characters up to the first that fails `p`, and the cursor there. -/
def span (c : Cursor) (p : Char → Bool) : List Char × Cursor :=
  let passed := c.rest.takeWhile p
  (passed, ⟨c.rest.dropWhile p, c.pos.after passed⟩)

def Follows (d c : Cursor) : Prop := ∃ passed, c.rest = passed ++ d.rest ∧ d.pos = c.pos.after passed

theorem Follows.refl (c : Cursor) : c.Follows c := ⟨[], rfl, rfl⟩

theorem Follows.trans {e d c : Cursor} (h : e.Follows d) (g : d.Follows c) : e.Follows c := by
  obtain ⟨u, hu, pu⟩ := h
  obtain ⟨v, hv, pv⟩ := g
  exact ⟨v ++ u, by rw [hv, hu, List.append_assoc], by rw [pu, pv, Position.after_append]⟩

theorem Follows.cons {d : Cursor} {c : Char} {cs : List Char} {p : Position}
    (h : d.Follows ⟨cs, p.next c⟩) : d.Follows ⟨c :: cs, p⟩ := h.trans ⟨[c], rfl, rfl⟩

theorem drop_follows (c : Cursor) (n : Nat) : (c.drop n).Follows c :=
  ⟨c.rest.take n, (List.take_append_drop n c.rest).symm, rfl⟩

theorem Follows.length_le {d c : Cursor} (h : d.Follows c) : d.rest.length ≤ c.rest.length := by
  obtain ⟨u, hu, -⟩ := h
  simp [hu]

theorem span_follows (c : Cursor) (p : Char → Bool) : (c.span p).2.Follows c :=
  ⟨c.rest.takeWhile p, List.takeWhile_append_dropWhile.symm, rfl⟩

theorem span_cons_follows {f : Char → Bool} {c : Char} (hc : f c = true) (cs : List Char)
    (p : Position) : ((⟨c :: cs, p⟩ : Cursor).span f).2.Follows ⟨cs, p.next c⟩ := by
  have h : (⟨c :: cs, p⟩ : Cursor).span f =
      (c :: cs.takeWhile f, ⟨cs.dropWhile f, (p.next c).after (cs.takeWhile f)⟩) := by
    simp [span, hc]
  rw [h]
  exact ⟨cs.takeWhile f, List.takeWhile_append_dropWhile.symm, rfl⟩

end Cursor

end Rulebook
