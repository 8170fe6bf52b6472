import Mathlib.Data.List.Basic
import Rulebook.Proofs.Rendering
import Rulebook.Source.Parser

/-!
# Readers of known tokens

What each reader does with tokens of given kinds, whatever places they have. A list is read item by item,
and the first item that is nested too deeply ends the reading.
-/

namespace Rulebook

/-! ## Results under a condition -/

/-- A result as `Q` says if `c` holds, and the error that the nesting is too deep if not. -/
def Decides {α : Type} (c : Prop) (x : Except SyntaxError α) (Q : α → Prop) : Prop :=
  (c → ∃ a, x = .ok a ∧ Q a) ∧ (¬ c → ∃ pos, x = .error ⟨.tooDeep, pos⟩)

namespace Decides

variable {α β : Type} {c d : Prop} {x : Except SyntaxError α} {P : α → Prop} {Q : β → Prop}

theorem ok {a : α} (h : P a) : Decides True (.ok a) P :=
  ⟨fun _ => ⟨a, rfl, h⟩, fun hn => absurd trivial hn⟩

theorem tooDeep {pos : Position} : Decides False (.error ⟨.tooDeep, pos⟩) P :=
  ⟨nofun, fun _ => ⟨pos, rfl⟩⟩

theorem congr (h : Decides c x P) (hc : c ↔ d) : Decides d x P := by
  rwa [Decides, ← hc]

theorem mono {P' : α → Prop} (h : Decides c x P) (hP : ∀ a, P a → P' a) : Decides c x P' := by
  refine ⟨fun hc => ?_, h.2⟩
  obtain ⟨a, rfl, ha⟩ := h.1 hc
  exact ⟨a, rfl, hP a ha⟩

theorem map {f : α → β} (h : Decides c x fun a => Q (f a)) : Decides c (x.map f) Q := by
  refine ⟨fun hc => ?_, fun hc => ?_⟩
  · obtain ⟨a, rfl, ha⟩ := h.1 hc
    exact ⟨f a, rfl, ha⟩
  · obtain ⟨pos, rfl⟩ := h.2 hc
    exact ⟨pos, rfl⟩

theorem bind {f : α → Except SyntaxError β} (h : Decides c x P) (hf : ∀ a, P a → Decides d (f a) Q) :
    Decides (c ∧ d) (x.bind f) Q := by
  by_cases hc : c
  · obtain ⟨a, rfl, ha⟩ := h.1 hc
    exact (hf a ha).congr (by simp [hc])
  · obtain ⟨e, rfl⟩ := h.2 hc
    exact tooDeep.congr (by simp [hc])

end Decides

/-- Where no link follows, tokens of these kinds are taken if `c` holds, so that `f` of what is given is
`b`; they are too deep if not. -/
def Takes {α β : Type} (c : Prop) (run : List Token → Parse α) (f : α → β) (kinds : List TokenKind)
    (b : β) : Prop :=
  ∀ ts rest, ts.map Token.kind = kinds → startsLink rest = false →
    Decides c (run (ts ++ rest)) fun x => f x.1 = b ∧ x.2 = rest

/-! ## Single tokens -/

section
variable {stop : Position}

theorem expect_of_kind {t : Token} {kind : TokenKind} (h : t.kind = kind) (place : Place)
    (rest : List Token) : expect stop kind place (t :: rest) = .ok ((), rest) := by
  rw [expect, if_pos h]

theorem readKey_of_kind {t : Token} {key : String} (h : t.kind = .string key)
    (rest : List Token) : readKey stop (t :: rest) = .ok (key, rest) := by
  obtain ⟨kind, pos, after⟩ := t
  cases h
  rfl

theorem nextKind_of_map {ts rest : List Token} {k : TokenKind} {ks : List TokenKind}
    (h : ts.map Token.kind = k :: ks) : nextKind (ts ++ rest) = some k := by
  obtain ⟨t, us, rfl, rfl, -⟩ := List.map_eq_cons_iff.1 h
  rfl

/-- Where a list of items may end. -/
def TokenKind.closes : TokenKind → Bool
  | .rparen | .rbracket | .rbrace => true
  | _ => false

theorem TokenKind.ne_comma_of_closes {k : TokenKind} (h : k.closes = true) : k ≠ .comma := by
  rintro rfl
  cases h

theorem startsLink_of_closes {t : Token} {rest : List Token} (h : t.kind.closes = true) :
    startsLink (t :: rest) = false := by
  obtain ⟨kind, pos, after⟩ := t
  cases kind <;> first | rfl | cases h

theorem map_eq_enclosed {ts : List Token} {opening closing : TokenKind} {kinds : List TokenKind}
    (h : ts.map Token.kind = enclosed opening kinds closing) :
    ∃ t us t', ts = t :: us ++ [t'] ∧ t.kind = opening ∧ us.map Token.kind = kinds ∧
      t'.kind = closing := by
  obtain ⟨ts, us, rfl, hts, hus⟩ := List.map_eq_append_iff.1 h
  obtain ⟨t, ts, rfl, ht, hts⟩ := List.map_eq_cons_iff.1 hts
  obtain ⟨t', us, rfl, ht', hus⟩ := List.map_eq_cons_iff.1 hus
  obtain rfl := List.map_eq_nil_iff.1 hus
  exact ⟨t, ts, t', rfl, ht, hts, ht'⟩

/-! ## Lists -/

section
variable {α : Type} {close : TokenKind} {place : Place} {item : Reader α} {read : List α}

theorem readItems_nil {closing : Token} (hclosing : closing.kind = close) (rest : List Token) :
    readItems stop close place item (closing :: rest) read = .ok (read.reverse, rest) := by
  rw [readItems, if_pos (by simp [nextKind, hclosing])]
  rfl

theorem readItems_error {ts : List Token} {e : SyntaxError} (hts : nextKind ts ≠ some close)
    (hitem : item.run ts = .error e) : readItems stop close place item ts read = .error e := by
  rw [readItems, if_neg hts]
  split
  · rename_i herror
    cases hitem.symm.trans herror
    rfl
  · rename_i hrun
    cases hitem.symm.trans hrun

theorem readItems_comma {ts rest : List Token} {comma : Token} {a : α}
    (hts : nextKind ts ≠ some close) (hitem : item.run ts = .ok (a, comma :: rest))
    (hcomma : comma.kind = .comma) :
    readItems stop close place item ts read = readItems stop close place item rest (a :: read) := by
  obtain ⟨kind, pos, after⟩ := comma
  cases hcomma
  rw [readItems, if_neg hts]
  split
  · rename_i herror
    cases hitem.symm.trans herror
  · rename_i hrun
    cases hitem.symm.trans hrun
    rfl

theorem readItems_last {ts rest : List Token} {closing : Token} {a : α}
    (hts : nextKind ts ≠ some close) (hitem : item.run ts = .ok (a, closing :: rest))
    (hclosing : closing.kind = close) (hclose : close ≠ .comma) :
    readItems stop close place item ts read = .ok ((a :: read).reverse, rest) := by
  rw [readItems, if_neg hts]
  split
  · rename_i herror
    cases hitem.symm.trans herror
  · rename_i hrun
    cases hitem.symm.trans hrun
    split
    · rename_i hcomma _
      obtain ⟨rfl, -⟩ := List.cons.inj hcomma
      exact absurd hclosing.symm hclose
    · rw [expect_of_kind hclosing]

end

/-- Items are read one by one, up to the first that is too deep. -/
theorem readItems_takes {α β : Type} {close : TokenKind} (hclose : close.closes = true) (place : Place)
    {item : Reader α} {f : α → β} {render : α → List TokenKind} {c : α → Prop} {as : List α}
    (hitem : ∀ a ∈ as, Takes (c a) item.run f (render a) (f a))
    (hstart : ∀ a ∈ as, ∃ k ks, render a = k :: ks ∧ k.closes = false) {ts : List Token}
    (hts : ts.map Token.kind = [.comma].intercalate (as.map render)) {closing : Token}
    (hclosing : closing.kind = close) (rest : List Token) (read : List α) :
    Decides (∀ a ∈ as, c a) (readItems stop close place item (ts ++ closing :: rest) read)
      fun x => ∃ bs, x = (read.reverse ++ bs, rest) ∧ bs.map f = as.map f := by
  induction as generalizing ts read with
  | nil =>
    obtain rfl := List.map_eq_nil_iff.1 hts
    rw [List.nil_append, readItems_nil hclosing]
    exact (Decides.ok ⟨[], by simp, rfl⟩).congr (by simp)
  | cons a as ih =>
    rw [List.forall_mem_cons] at hitem hstart
    obtain ⟨k, ks, hk, hcloses⟩ := hstart.1
    have hne : ∀ us more, us.map Token.kind = render a → nextKind (us ++ more) ≠ some close := by
      rintro us more hus heq
      rw [nextKind_of_map (hus.trans hk)] at heq
      cases heq
      simp [hclose] at hcloses
    -- What stands after the item is the end of the list or a comma.
    obtain _ | ⟨a', as⟩ := as
    · have hkinds : ts.map Token.kind = render a := by simpa using hts
      have hlink : startsLink (closing :: rest) = false := startsLink_of_closes (hclosing ▸ hclose)
      obtain ⟨htaken, hrefused⟩ := hitem.1 ts (closing :: rest) hkinds hlink
      by_cases hc : c a
      · obtain ⟨⟨b, _⟩, hrun, hb, rfl⟩ := htaken hc
        rw [readItems_last (hne ts _ hkinds) hrun hclosing (TokenKind.ne_comma_of_closes hclose)]
        exact (Decides.ok ⟨[b], by simp, by simpa using hb⟩).congr (by simp [hc])
      · obtain ⟨e, hrun⟩ := hrefused hc
        rw [readItems_error (hne ts _ hkinds) hrun]
        exact Decides.tooDeep.congr (by simp [hc])
    · rw [List.map_cons, List.map_cons, List.intercalate_cons_cons, List.append_assoc,
        List.map_eq_append_iff] at hts
      obtain ⟨us, vs, rfl, hus, hvs⟩ := hts
      obtain ⟨comma, ws, rfl, hcomma, hws⟩ := List.map_eq_cons_iff.1 hvs
      have hlink : startsLink (comma :: (ws ++ closing :: rest)) = false := by
        simp [startsLink, nextKind, hcomma]
      obtain ⟨htaken, hrefused⟩ := hitem.1 us _ hus hlink
      rw [List.append_assoc, List.cons_append]
      by_cases hc : c a
      · obtain ⟨⟨b, _⟩, hrun, hb, rfl⟩ := htaken hc
        rw [readItems_comma (hne us _ hus) hrun hcomma]
        refine ((ih hitem.2 hstart.2 hws (b :: read)).mono ?_).congr (by simp [hc])
        rintro _ ⟨bs, rfl, hbs⟩
        exact ⟨b :: bs, by simp, by simp [hb, hbs]⟩
      · obtain ⟨e, hrun⟩ := hrefused hc
        rw [readItems_error (hne us _ hus) hrun]
        exact Decides.tooDeep.congr (by simp [hc])

/-! ## One level -/

section
variable {inner : Reader Expr} {below : Readers} {rest : List Token}

theorem readEntry_takes {value : Reader Expr} {c : Prop} {key : String} {e : Expr}
    (h : Takes c value.run Expr.bare e.render e.bare) :
    Takes c (readEntry stop value).run (fun entry => (entry.1, entry.2.bare)) (renderEntry (key, e))
      (key, e.bare) := by
  intro ts rest hts hrest
  obtain ⟨t, ts, rfl, ht, hts⟩ := List.map_eq_cons_iff.1 hts
  obtain ⟨colon, ts, rfl, hcolon, hts⟩ := List.map_eq_cons_iff.1 hts
  unfold readEntry
  dsimp only [List.cons_append]
  rw [readKey_of_kind ht]
  dsimp only
  rw [expect_of_kind hcolon]
  refine Decides.map ((h ts rest hts hrest).mono ?_)
  rintro ⟨e', _⟩ ⟨he, rfl⟩
  exact ⟨by rw [he], rfl⟩

theorem readPrimary_array {t : Token} (h : t.kind = .lbracket) (ts : List Token) :
    readPrimary stop inner (t :: ts) =
      (readItems stop .rbracket .array inner ts []).map fun (es, rest) =>
        (.array t.pos es, rest) := by
  obtain ⟨kind, pos, after⟩ := t
  cases h
  rfl

theorem readPrimary_object {t : Token} (h : t.kind = .lbrace) (ts : List Token) :
    readPrimary stop inner (t :: ts) =
      (readItems stop .rbrace .object (readEntry stop inner) ts []).map fun (es, rest) =>
        (.object t.pos es, rest) := by
  obtain ⟨kind, pos, after⟩ := t
  cases h
  rfl

theorem readPrimary_lambda {param : Option String} {ts : List Token}
    (hts : ts.map Token.kind = enclosed .lparen (param.toList.map .ident) .rparen) {arrow : Token}
    (harrow : arrow.kind = .arrow) (us : List Token) :
    ∃ pos, readPrimary stop inner (ts ++ arrow :: us) =
      (inner.run us).map fun (e, rest) => (.lambda pos param e, rest) := by
  obtain ⟨⟨_, pos, _⟩, ps, ⟨_, _, _⟩, rfl, ⟨⟩, hps, ⟨⟩⟩ := map_eq_enclosed hts
  obtain ⟨_, _, _⟩ := arrow
  cases harrow
  cases param with
  | none =>
    obtain rfl := List.map_eq_nil_iff.1 hps
    exact ⟨pos, rfl⟩
  | some name =>
    obtain ⟨⟨_, _, _⟩, _, rfl, ⟨⟩, hnil⟩ := List.map_eq_cons_iff.1 hps
    obtain rfl := List.map_eq_nil_iff.1 hnil
    exact ⟨pos, rfl⟩

/-- A parenthesis before a sign or another parenthesis opens no lambda. -/
theorem readPrimary_parens {t : Token} (h : t.kind = .lparen) {ts : List Token}
    (hts : nextKind ts = some .minus ∨ nextKind ts = some .lparen) :
    readPrimary stop inner (t :: ts) =
      (inner.run ts).bind fun (e, rest) =>
        (expect stop .rparen .parenthesis rest).map fun (_, rest) => (e, rest) := by
  obtain ⟨kind, pos, after⟩ := t
  cases h
  obtain _ | ⟨⟨kind, pos', after'⟩, ts⟩ := ts
  · cases hts <;> contradiction
  · obtain ⟨⟨⟩⟩ | ⟨⟨⟩⟩ := hts <;> (dsimp only [readPrimary]; cases inner.run _ <;> rfl)

/-- What is read where no sign is in front. -/
def readChain (stop : Position) (below : Readers) (ts : List Token) : Parse Expr :=
  (readPrimary stop below.expr ts).bind fun (e, rest) => below.links.run e rest

theorem expr_above_chain {ts : List Token} (h : nextKind ts ≠ some .minus) :
    (below.above stop).expr.run ts = readChain stop below ts := by
  unfold Readers.above readChain
  dsimp only
  split
  · exact absurd rfl h
  · cases readPrimary stop below.expr ts <;> rfl

theorem expr_above_minus {t : Token} (h : t.kind = .minus) (ts : List Token) :
    (below.above stop).expr.run (t :: ts) =
      (below.expr.run ts).map fun (e, rest) => (.neg t.pos e, rest) := by
  obtain ⟨kind, pos, after⟩ := t
  cases h
  rfl

theorem links_above_call {t : Token} (h : t.kind = .lparen) (e : Expr) (ts : List Token) :
    (below.above stop).links.run e (t :: ts) =
      (readItems stop .rparen .argumentList below.expr ts []).bind fun (args, rest) =>
        below.links.run (.call t.pos e args) rest := by
  obtain ⟨kind, pos, after⟩ := t
  cases h
  unfold Readers.above
  dsimp only
  cases readItems stop .rparen .argumentList below.expr ts [] <;> rfl

theorem links_above_member {dot name : Token} {s : String} (hdot : dot.kind = .dot)
    (hname : name.kind = .ident s) (e : Expr) (ts : List Token) :
    (below.above stop).links.run e (dot :: name :: ts) =
      below.links.run (.member dot.pos e s) ts := by
  obtain ⟨kind, pos, after⟩ := dot
  obtain ⟨kind, pos', after'⟩ := name
  cases hdot
  cases hname
  rfl

theorem links_above_index {t : Token} (h : t.kind = .lbracket) (e : Expr) (ts : List Token) :
    (below.above stop).links.run e (t :: ts) =
      (below.expr.run ts).bind fun (i, rest) =>
        (expect stop .rbracket .index rest).bind fun (_, rest) =>
          below.links.run (.index t.pos e i) rest := by
  obtain ⟨kind, pos, after⟩ := t
  cases h
  unfold Readers.above
  dsimp only
  cases below.expr.run ts with
  | error => rfl
  | ok out =>
    dsimp only [Except.bind]
    cases expect stop .rbracket .index out.2 <;> rfl

theorem links_done {n : Nat} (h : startsLink rest = false) (e : Expr) :
    (Readers.of stop n).links.run e rest = .ok (e, rest) := by
  cases n with
  | zero =>
    unfold Readers.of Readers.ground
    dsimp only
    rw [if_neg (by simp [h])]
  | succ n =>
    unfold Readers.of Readers.above
    dsimp only
    split
    · cases h
    · cases h
    · cases h
    · rfl

end

end

end Rulebook
