import Rulebook.Proofs.Grammar
import Rulebook.Proofs.NextLines
import Rulebook.Proofs.Places
import Rulebook.Proofs.Root
import Rulebook.Proofs.RoundTrip

/-!
# Programs one after the other

A reader stops at a token that it has seen and not at the end of what it was given, so tokens behind that one make
no difference to it. Where a program ends in a semicolon, nothing behind it can go on with its last statement: two
programs one after the other are the statements of the first and then those of the second, which stand
further down.
-/

namespace Rulebook

open Grammar

/-! ## Trees further down -/

section
variable (d : Shift)

mutual

def Expr.moved : Expr → Expr
  | .null p => .null (p.moved d)
  | .bool p b => .bool (p.moved d) b
  | .number p n => .number (p.moved d) n
  | .string p s => .string (p.moved d) s
  | .regex p pattern flags => .regex (p.moved d) pattern flags
  | .ident p name => .ident (p.moved d) name
  | .array p items => .array (p.moved d) (movedItems items)
  | .object p entries => .object (p.moved d) (movedEntries entries)
  | .lambda p param body => .lambda (p.moved d) param body.moved
  | .call p callee args => .call (p.moved d) callee.moved (movedItems args)
  | .member p object name => .member (p.moved d) object.moved name
  | .index p object subscript => .index (p.moved d) object.moved subscript.moved
  | .neg p operand => .neg (p.moved d) operand.moved

def movedItems : List Expr → List Expr
  | [] => []
  | e :: es => e.moved :: movedItems es

def movedEntries : List (String × Expr) → List (String × Expr)
  | [] => []
  | (key, e) :: rest => (key, e.moved) :: movedEntries rest

end

def Stmt.moved : Stmt → Stmt
  | .bind p name value => .bind (p.moved d) name (value.moved d)
  | .expr e => .expr (e.moved d)

theorem movedItems_eq_map (items : List Expr) : movedItems d items = items.map (Expr.moved d) := by
  induction items with
  | nil => rfl
  | cons e es ih => rw [movedItems, ih, List.map_cons]

theorem movedEntries_eq_map (entries : List (String × Expr)) :
    movedEntries d entries = entries.map fun e => (e.1, e.2.moved d) := by
  induction entries with
  | nil => rfl
  | cons e rest ih => rw [movedEntries, ih, List.map_cons]

end

@[simp] theorem Expr.moved_none (e : Expr) : e.moved .none = e := by
  have hitems : ∀ items : List Expr, (∀ e ∈ items, e.moved .none = e) → movedItems .none items = items := by
    intro items h
    rw [movedItems_eq_map, List.map_congr_left h, List.map_id']
  induction e using Expr.induct with
  | array p items h => simp [Expr.moved, hitems items h]
  | object p entries h =>
    have hentries : ∀ e ∈ entries, (e.1, e.2.moved .none) = e := fun e he => by rw [h e he]
    simp [Expr.moved, movedEntries_eq_map, List.map_congr_left hentries]
  | call p callee args h hargs => simp [Expr.moved, h, hitems args hargs]
  | _ => simp [Expr.moved, *]

@[simp] theorem Stmt.moved_none : Stmt.moved .none = id := by
  funext s
  cases s <;> simp [Stmt.moved]

/-! ## Readers -/

/-- Of tokens further down, with others behind them, the same is read if it ends before one of its own. -/
def ReadsOn {α : Type} (d : Shift) (us : List Token) (g : α → α) (run run' : List Token → Parse α) : Prop :=
  ∀ {ts rest : List Token} {a : α}, run ts = .ok (a, rest) → (rest = [] → us = []) →
    run' (ts.map (Token.moved d) ++ us) = .ok (g a, rest.map (Token.moved d) ++ us)

section
variable {d : Shift} {us ts rest : List Token} {stop stop' : Position}

theorem nextKind_moved (h : ts = [] → us = []) :
    nextKind (ts.map (Token.moved d) ++ us) = nextKind ts := by
  cases ts with
  | nil =>
    rw [h rfl]
    rfl
  | cons t ts => rfl

theorem nextKind_eq_some {kind : TokenKind} :
    nextKind ts = some kind ↔ ∃ p q more, ts = ⟨kind, p, q⟩ :: more := by
  constructor
  · intro h
    obtain _ | ⟨⟨_, p, q⟩, more⟩ := ts
    · cases h
    · cases h
      exact ⟨p, q, more, rfl⟩
  · rintro ⟨p, q, more, rfl⟩
    rfl

theorem nextKind_moved_of_shrinks (h : rest.length < ts.length) :
    nextKind (ts.map (Token.moved d) ++ us) = nextKind ts := by
  refine nextKind_moved ?_
  rintro rfl
  exact absurd h (Nat.not_lt_zero _)

theorem expect_moved {kind : TokenKind} {place : Place} {u : Unit} (h : expect stop kind place ts = .ok (u, rest)) :
    expect stop' kind place (ts.map (Token.moved d) ++ us) = .ok (u, rest.map (Token.moved d) ++ us) := by
  obtain ⟨t, rfl, ht⟩ := of_expect_ok h
  exact expect_of_kind (t := t.moved d) ht place _

theorem expectIdent_moved {place : Place} {name : String} (h : expectIdent stop place ts = .ok (name, rest)) :
    expectIdent stop' place (ts.map (Token.moved d) ++ us) = .ok (name, rest.map (Token.moved d) ++ us) := by
  obtain ⟨⟨_, _, _⟩, rfl, ⟨⟩⟩ := of_expectIdent_ok h
  rfl

theorem readKey_moved {key : String} (h : readKey stop ts = .ok (key, rest)) :
    readKey stop' (ts.map (Token.moved d) ++ us) = .ok (key, rest.map (Token.moved d) ++ us) := by
  obtain ⟨⟨_, _, _⟩, rfl, ⟨⟨⟩⟩ | ⟨⟨⟩⟩⟩ := of_readKey_ok h
  · rfl
  · rfl

/-! ## Lists -/

theorem readItems_moved {α : Type} {g : α → α} {item item' : Reader α} (hitem : ReadsOn d us g item.run item'.run)
    {close : TokenKind} {place : Place} {read items : List α}
    (h : readItems stop close place item ts read = .ok (items, rest)) :
    readItems stop' close place item' (ts.map (Token.moved d) ++ us) (read.map g) =
      .ok (items.map g, rest.map (Token.moved d) ++ us) := by
  fun_induction readItems stop close place item ts read with
  | case1 ts read hclose =>
    cases h
    obtain _ | ⟨t, ts⟩ := ts
    · cases hclose
    · have ht : (t.moved d).kind = close := Option.some.inj hclose
      rw [List.map_cons, List.cons_append, readItems_nil ht, List.map_reverse]
      rfl
  | case2 => cases h
  | case3 ts read hclose a pos after mid _ hrun ih =>
    have hts : nextKind (ts.map (Token.moved d) ++ us) = nextKind ts := nextKind_moved_of_shrinks (item.shrinks hrun)
    have hnext := hitem hrun (by simp)
    rw [readItems_comma (hts ▸ hclose) hnext rfl]
    exact ih h
  | case4 => cases h
  | case5 ts read hclose a mid hrun hcomma _ last hexpect =>
    cases h
    have hts : nextKind (ts.map (Token.moved d) ++ us) = nextKind ts := nextKind_moved_of_shrinks (item.shrinks hrun)
    obtain ⟨t, rfl, ht⟩ := of_expect_ok hexpect
    have hnext := hitem hrun (by simp)
    have hclosing : (t.moved d).kind = close := ht
    rw [readItems_last (hts ▸ hclose) hnext hclosing]
    · simp
    · rintro rfl
      obtain ⟨kind, p, q⟩ := t
      cases ht
      exact hcomma p q _ hrun rfl (HEq.refl _)

theorem readEntry_readsOn {value value' : Reader Expr} (hvalue : ReadsOn d us (Expr.moved d) value.run value'.run) :
    ReadsOn d us (fun entry => (entry.1, entry.2.moved d)) (readEntry stop value).run
      (readEntry stop' value').run := by
  intro ts rest a h hrest
  unfold readEntry at h ⊢
  dsimp only at h ⊢
  split at h
  · cases h
  rename_i hkey
  split at h
  · cases h
  rename_i hcolon
  obtain ⟨⟨e, _⟩, he, ⟨⟩⟩ := Except.map_eq_ok.1 h
  rw [readKey_moved hkey]
  dsimp only
  rw [expect_moved hcolon]
  dsimp only
  rw [hvalue he hrest]
  rfl

/-! ## Expressions -/

/-- The tokens behind a parenthesis make it that of a lambda. -/
def OpensLambda (ts : List Token) : Prop :=
  (ts.take 2).map Token.kind = [.rparen, .arrow] ∨
    ∃ name, (ts.take 3).map Token.kind = [.ident name, .rparen, .arrow]

theorem opensLambda_moved (h : 3 ≤ ts.length ∨ us = []) :
    OpensLambda (ts.map (Token.moved d) ++ us) ↔ OpensLambda ts := by
  have htake : ∀ n ≤ 3, ((ts.map (Token.moved d) ++ us).take n).map Token.kind = (ts.take n).map Token.kind := by
    intro n hn
    have htake : (ts.map (Token.moved d) ++ us).take n = (ts.take n).map (Token.moved d) := by
      obtain h | rfl := h
      · rw [List.take_append_of_le_length (by simp; omega), List.map_take]
      · rw [List.append_nil, List.map_take]
    rw [htake, List.map_map]
    rfl
  rw [OpensLambda, OpensLambda, htake 2 (by omega), htake 3 (by omega)]

theorem OpensLambda.cases (h : OpensLambda ts) :
    (∃ p q p' q' more, ts = ⟨.rparen, p, q⟩ :: ⟨.arrow, p', q'⟩ :: more) ∨
    (∃ name p q p' q' p₂ q₂ more, ts = ⟨.ident name, p, q⟩ :: ⟨.rparen, p', q'⟩ :: ⟨.arrow, p₂, q₂⟩ :: more) := by
  rcases h with h | ⟨name, h⟩
  · rcases ts with _ | ⟨⟨kind, p, q⟩, _ | ⟨⟨kind', p', q'⟩, more⟩⟩
    · cases h
    · cases h
    · cases h
      exact .inl ⟨p, q, p', q', more, rfl⟩
  · rcases ts with _ | ⟨⟨kind, p, q⟩, _ | ⟨⟨kind', p', q'⟩, _ | ⟨⟨kind₂, p₂, q₂⟩, more⟩⟩⟩
    · cases h
    · cases h
    · cases h
    · cases h
      exact .inr ⟨name, p, q, p', q', p₂, q₂, more, rfl⟩

theorem readPrimary_group {inner : Reader Expr} {t : Token} (h : t.kind = .lparen) (hts : ¬ OpensLambda ts) :
    readPrimary stop inner (t :: ts) =
      (inner.run ts).bind fun (e, rest) =>
        (expect stop .rparen .parenthesis rest).map fun (_, rest) => (e, rest) := by
  obtain ⟨kind, p, q⟩ := t
  cases h
  unfold readPrimary
  split
  case h_1 heq =>
    cases heq
    exact absurd (.inl rfl) hts
  case h_2 heq =>
    cases heq
    exact absurd (.inr ⟨_, rfl⟩) hts
  case h_12 heq =>
    cases heq
    cases inner.run _ <;> rfl
  case h_13 hgroup => exact absurd rfl (hgroup p q ts)
  all_goals
    rename_i heq
    cases heq

theorem readPrimary_readsOn {inner inner' : Reader Expr} (hinner : ReadsOn d us (Expr.moved d) inner.run inner'.run) :
    ReadsOn d us (Expr.moved d) (readPrimary stop inner) (readPrimary stop' inner') := by
  intro ts rest e h hrest
  unfold readPrimary at h
  split at h
  case h_1 p _ _ _ _ _ _ =>
    obtain ⟨⟨body, _⟩, hbody, ⟨⟩⟩ := Except.map_eq_ok.1 h
    exact congrArg (Except.map fun x => (Expr.lambda (p.moved d) none x.1, x.2)) (hinner hbody hrest)
  case h_2 p _ param _ _ _ _ _ _ _ =>
    obtain ⟨⟨body, _⟩, hbody, ⟨⟩⟩ := Except.map_eq_ok.1 h
    exact congrArg (Except.map fun x => (Expr.lambda (p.moved d) (some param) x.1, x.2)) (hinner hbody hrest)
  case h_10 p _ _ =>
    obtain ⟨⟨items, _⟩, hitems, ⟨⟩⟩ := Except.map_eq_ok.1 h
    rw [Expr.moved, movedItems_eq_map]
    exact congrArg (Except.map fun x => (Expr.array (p.moved d) x.1, x.2)) (readItems_moved hinner hitems)
  case h_11 p _ _ =>
    obtain ⟨⟨entries, _⟩, hentries, ⟨⟩⟩ := Except.map_eq_ok.1 h
    rw [Expr.moved, movedEntries_eq_map]
    exact congrArg (Except.map fun x => (Expr.object (p.moved d) x.1, x.2))
      (readItems_moved (readEntry_readsOn hinner) hentries)
  case h_12 p q more hnone hsome =>
    split at h
    · cases h
    rename_i mid hrun
    obtain ⟨⟨⟩, hclosing, ⟨⟩⟩ := Except.map_eq_ok.1 h
    obtain ⟨closing, rfl, -⟩ := of_expect_ok hclosing
    -- An expression and the parenthesis behind it: three tokens, if there is another.
    have hmore : 3 ≤ more.length ∨ us = [] := by
      have hshrinks := inner.shrinks hrun
      cases rest with
      | nil => exact .inr (hrest rfl)
      | cons t rest =>
        simp only [List.length_cons] at hshrinks
        exact .inl (by omega)
    have hgroup : ¬ OpensLambda more := by
      intro hopens
      obtain ⟨p, q, p', q', more, rfl⟩ | ⟨name, p, q, p', q', p₂, q₂, more, rfl⟩ := hopens.cases
      · exact hnone _ _ _ _ more rfl
      · exact hsome _ _ _ _ _ _ _ more rfl
    rw [List.map_cons, List.cons_append, readPrimary_group rfl (by rwa [opensLambda_moved hmore]),
      hinner hrun (by simp)]
    exact congrArg (Except.map fun x => (e.moved d, x.2)) (expect_moved hclosing)
  case h_13 => cases h
  all_goals
    cases h
    rfl

/-! ## Levels -/

theorem eq_nil_of_length_le {mid : List Token} (h : rest.length ≤ mid.length) (hrest : rest = [] → us = [])
    (hmid : mid = []) : us = [] := by
  subst hmid
  exact hrest (List.length_eq_zero_iff.1 (Nat.le_zero.1 h))

theorem links_moved_done {n : Nat} {e : Expr} (hlink : startsLink rest = false) (hrest : rest = [] → us = []) :
    (Readers.of stop' n).links.run (e.moved d) (rest.map (Token.moved d) ++ us) =
      .ok (e.moved d, rest.map (Token.moved d) ++ us) := by
  refine links_done ?_ _
  unfold startsLink at hlink ⊢
  rwa [nextKind_moved hrest]

section
variable {n : Nat}
  (hexpr : ReadsOn d us (Expr.moved d) (Readers.of stop n).expr.run (Readers.of stop' n).expr.run)
  (hlinks : ∀ e, ReadsOn d us (Expr.moved d) ((Readers.of stop n).links.run e)
    ((Readers.of stop' n).links.run (e.moved d)))
include hexpr hlinks

theorem expr_above_readsOn :
    ReadsOn d us (Expr.moved d) (Readers.of stop (n + 1)).expr.run (Readers.of stop' (n + 1)).expr.run := by
  intro ts rest e h hrest
  obtain ⟨minus, more, e', rfl, hminus, hrun, rfl⟩ | ⟨e', mid, hprimary, hrun⟩ := of_expr_above_ok h
  · refine (expr_above_minus (t := minus.moved d) hminus (more.map (Token.moved d) ++ us)).trans ?_
    rw [hexpr hrun hrest]
    rfl
  · have hminus : nextKind ts ≠ some .minus := by
      intro hkind
      obtain ⟨p, q, more, rfl⟩ := nextKind_eq_some.1 hkind
      cases hprimary
    rw [← nextKind_moved_of_shrinks (readPrimary_shrinks stop hprimary)] at hminus
    have hmid := eq_nil_of_length_le ((Readers.of stop n).links.keeps hrun) hrest
    refine (expr_above_chain hminus).trans ?_
    rw [readChain, readPrimary_readsOn hexpr hprimary hmid]
    exact hlinks e' hrun hrest

theorem links_above_readsOn (e : Expr) :
    ReadsOn d us (Expr.moved d) ((Readers.of stop (n + 1)).links.run e)
      ((Readers.of stop' (n + 1)).links.run (e.moved d)) := by
  intro ts rest e' h hrest
  unfold Readers.of Readers.above at h
  dsimp only at h
  split at h
  case h_1 p q more =>
    split at h
    · cases h
    rename_i args mid hargs
    have hnext := hlinks _ h hrest
    rw [Expr.moved, movedItems_eq_map] at hnext
    refine (links_above_call (t := ⟨.lparen, p.moved d, q.moved d⟩) rfl _ _).trans ?_
    rw [← hnext]
    exact congrArg (Except.bind · _) (readItems_moved hexpr hargs)
  case h_2 p q more =>
    split at h
    · cases h
    rename_i hname
    obtain ⟨name, rfl, hkind⟩ := of_expectIdent_ok hname
    have hdot : (Token.moved d ⟨.dot, p, q⟩).kind = .dot := rfl
    refine (links_above_member hdot ((Token.kind_moved d name).trans hkind) _ _).trans ?_
    exact hlinks _ h hrest
  case h_3 p q more =>
    split at h
    · cases h
    rename_i i mid hi
    split at h
    · cases h
    rename_i hclosing
    obtain ⟨closing, rfl, -⟩ := of_expect_ok hclosing
    refine (links_above_index (t := ⟨.lbracket, p.moved d, q.moved d⟩) rfl _
      (more.map (Token.moved d) ++ us)).trans ?_
    simp only [hexpr hi (by simp), Except.bind, expect_moved hclosing]
    exact hlinks _ h hrest
  case h_4 hcall hmember hindex =>
    cases h
    exact links_moved_done (startsLink_eq_false hcall hmember hindex) hrest

end

theorem readers_readOn (n : Nat) :
    ReadsOn d us (Expr.moved d) (Readers.of stop n).expr.run (Readers.of stop' n).expr.run ∧
      ∀ e, ReadsOn d us (Expr.moved d) ((Readers.of stop n).links.run e)
        ((Readers.of stop' n).links.run (e.moved d)) := by
  induction n with
  | zero =>
    refine ⟨nofun, fun e ts rest e' h hrest => ?_⟩
    obtain ⟨rfl, rfl, hlink⟩ := of_links_ground_ok h
    exact links_moved_done (n := 0) hlink hrest
  | succ n ih => exact ⟨expr_above_readsOn ih.1 ih.2, links_above_readsOn ih.1 ih.2⟩

/-! ## Statements -/

theorem readStmt_readsOn {expr expr' : Reader Expr} (hexpr : ReadsOn d us (Expr.moved d) expr.run expr'.run) :
    ReadsOn d us (Stmt.moved d) (readStmt stop expr) (readStmt stop' expr') := by
  intro ts rest s h hrest
  have hts : nextKind (ts.map (Token.moved d) ++ us) = nextKind ts :=
    nextKind_moved_of_shrinks (readStmt_shrinks stop h)
  by_cases hlet : nextKind ts = some .letWord
  · obtain ⟨p, q, more, rfl⟩ := nextKind_eq_some.1 hlet
    dsimp only [readStmt] at h
    split at h
    · cases h
    rename_i hname
    split at h
    · cases h
    rename_i heq
    obtain ⟨⟨e, _⟩, he, ⟨⟩⟩ := Except.map_eq_ok.1 h
    rw [List.map_cons, List.cons_append, Token.moved, readStmt, expectIdent_moved hname]
    dsimp only
    rw [expect_moved heq]
    dsimp only
    rw [hexpr he hrest]
    rfl
  · rw [readStmt_expr hlet] at h
    obtain ⟨⟨e, _⟩, he, ⟨⟩⟩ := Except.map_eq_ok.1 h
    rw [readStmt_expr (hts ▸ hlet), hexpr he hrest]
    rfl

theorem skipSemi_moved (hrest : rest = [] → us = []) :
    skipSemi (rest.map (Token.moved d) ++ us) = (skipSemi rest).map (Token.moved d) ++ us := by
  cases rest with
  | nil =>
    rw [hrest rfl]
    rfl
  | cons t rest =>
    obtain ⟨kind, p, q⟩ := t
    cases kind <;> rfl

/-! ## Where statements end -/

/-- The tokens of one statement. -/
def Semiless (ts : List Token) : Prop := ∀ t ∈ ts, t.kind ≠ .semi

section
variable {α : Type}

@[simp] theorem semiless_nil : Semiless [] := nofun

@[simp] theorem semiless_cons {t : Token} : Semiless (t :: ts) ↔ t.kind ≠ .semi ∧ Semiless ts :=
  List.forall_mem_cons

@[simp] theorem semiless_append : Semiless (ts ++ rest) ↔ Semiless ts ∧ Semiless rest := List.forall_mem_append

theorem semiless_items {as : List α} {Item : Phrase α} (hitem : ∀ ts a, Item ts a → Semiless ts)
    (h : Items Item ts as) : Semiless ts := by
  have hsequence : ∀ {us : List Token} {as : List α}, Sequence Item us as → Semiless us := by
    intro us as h
    induction h with
    | one h => exact hitem _ _ h
    | cons h hcomma _ ih => simp [hcomma, ih, hitem _ _ h]
  cases h with
  | none => exact semiless_nil
  | some h => exact hsequence h
  | trailing h hcomma => simp [hcomma, hsequence h]

end

theorem semiless_primary {e : Expr} (h : Primary (fun ts _ => Semiless ts) ts e) : Semiless ts := by
  have hentry : ∀ ts entry, Entry (fun ts _ => Semiless ts) ts entry → Semiless ts := by
    intro ts entry h
    cases h with
    | mk hkey hcolon h => 
      refine semiless_cons.2 ⟨?_, semiless_cons.2 ⟨by simp [hcolon], h⟩⟩
      obtain hkey | hkey := hkey <;> simp [hkey]
  cases h with
  | array hopening h hclosing =>
    simp [hopening, hclosing, semiless_items (fun _ _ => id) h]
  | object hopening h hclosing =>
    simp [hopening, hclosing, semiless_items hentry h]
  | lambda hopening hparam hclosing harrow h =>
    cases hparam <;> simp [*]
  | parens hopening h hclosing => simp [*]
  | _ => simp [*]

theorem semiless_link {f : Expr → Expr} (h : Link (fun ts _ => Semiless ts) ts f) : Semiless ts := by
  cases h with
  | call hopening h hclosing =>
    simp [hopening, hclosing, semiless_items (fun _ _ => id) h]
  | _ => simp [*]

theorem readers_semiless (n : Nat) :
    Reads (fun ts _ => Semiless ts) (Readers.of stop n).expr.run ∧
      ∀ e, Reads (fun ts _ => Semiless ts) ((Readers.of stop n).links.run e) := by
  induction n with
  | zero =>
    refine ⟨nofun, fun e ts e' rest h => ?_⟩
    obtain ⟨rfl, rfl, -⟩ := of_links_ground_ok h
    exact ⟨[], rfl, semiless_nil⟩
  | succ n ih =>
    -- No part of an expression is a semicolon, at any level.
    obtain ⟨hexpr, hlinks⟩ := ih
    refine ⟨fun {ts e rest} h => ?_, fun e ts e' rest h => ?_⟩
    · obtain ⟨minus, us, e', rfl, hminus, hrun, rfl⟩ | ⟨e', mid, hprimary, hrun⟩ := of_expr_above_ok h
      · obtain ⟨used, rfl, hused⟩ := hexpr hrun
        exact ⟨minus :: used, rfl, semiless_cons.2 ⟨by simp [hminus], hused⟩⟩
      · obtain ⟨used, rfl, hused⟩ := readPrimary_reads hexpr hprimary
        obtain ⟨more, rfl, hmore⟩ := hlinks e' hrun
        exact ⟨used ++ more, by simp, semiless_append.2 ⟨semiless_primary hused, hmore⟩⟩
    · obtain ⟨rfl, rfl, -⟩ | ⟨used, f, mid, rfl, hused, h⟩ := of_links_above_ok hexpr h
      · exact ⟨[], rfl, semiless_nil⟩
      · obtain ⟨more, rfl, hmore⟩ := hlinks (f e) h
        exact ⟨used ++ more, by simp, semiless_append.2 ⟨semiless_link hused, hmore⟩⟩

/-- A statement leaves the semicolon that is the last token. -/
theorem readStmt_leaves {n : Nat} {s : Stmt} {before : List Token} {semi : Token} (hsemi : semi.kind = .semi)
    (h : readStmt stop (Readers.of stop n).expr (before ++ [semi]) = .ok (s, rest)) :
    ∃ more, rest = more ++ [semi] := by
  obtain ⟨used, hts, hstmt⟩ := readStmt_reads (readers_semiless n).1 h
  have hused : Semiless used := by
    cases hstmt with
    | bind hword hname heq hvalue => simp [hword, hname, heq, hvalue]
    | expr hbody => exact hbody
  obtain rfl | ⟨more, t, rfl⟩ := rest.eq_nil_or_concat'
  · rw [List.append_nil] at hts
    exact absurd hsemi (hused semi (by simp [← hts]))
  · rw [← List.append_assoc] at hts
    obtain ⟨-, hlast⟩ := List.append_inj' hts rfl
    cases hlast
    exact ⟨more, rfl⟩

/-- The tokens are none, or the last is a semicolon. -/
def Closed (ts : List Token) : Prop := ts = [] ∨ ∃ before semi, ts = before ++ [semi] ∧ semi.kind = .semi

theorem closed_skipSemi {before : List Token} {semi : Token} (hsemi : semi.kind = .semi) :
    Closed (skipSemi (before ++ [semi])) := by
  cases before with
  | nil =>
    obtain ⟨_, _, _⟩ := semi
    cases hsemi
    exact .inl rfl
  | cons t before =>
    obtain hsame | ⟨_, -, hskip⟩ := skipSemi_cases (t :: before ++ [semi])
    · rw [hsame]
      exact .inr ⟨t :: before, semi, rfl, hsemi⟩
    · rw [← (List.cons.inj hskip).2]
      exact .inr ⟨before, semi, rfl, hsemi⟩

theorem readStmts_moved (stop' : Position) {n : Nat} {read : List Stmt} {p : Program} (hclosed : us = [] ∨ Closed ts)
    (h : readStmts stop (Readers.of stop n).expr ts read = .ok p) :
    ∃ more, p = read.reverse ++ more ∧ ∀ before,
      readStmts stop' (Readers.of stop' n).expr (ts.map (Token.moved d) ++ us) before =
        readStmts stop' (Readers.of stop' n).expr us ((more.map (Stmt.moved d)).reverse ++ before) := by
  fun_induction readStmts stop (Readers.of stop n).expr ts read with
  | case1 read =>
    cases h
    exact ⟨[], by simp, fun _ => rfl⟩
  | case2 => cases h
  | case3 read t ts s rest hstmt ih =>
    -- Where tokens follow, a statement leaves a semicolon, and what stands behind that is closed too.
    have hleft : us = [] ∨ rest ≠ [] ∧ Closed (skipSemi rest) := by
      refine hclosed.imp_right ?_
      rintro (hnil | ⟨before, semi, hts, hsemi⟩)
      · cases hnil
      · rw [hts] at hstmt
        obtain ⟨more, rfl⟩ := readStmt_leaves hsemi hstmt
        exact ⟨by simp, closed_skipSemi hsemi⟩
    have hrest : rest = [] → us = [] := fun hnil => hleft.resolve_right fun hne => hne.1 hnil
    have hexpr : ReadsOn d us (Expr.moved d) (Readers.of stop n).expr.run (Readers.of stop' n).expr.run :=
      (readers_readOn n).1
    obtain ⟨more, rfl, hmore⟩ := ih (hleft.imp_right And.right) h
    refine ⟨s :: more, by simp, fun before => ?_⟩
    rw [readStmts_cons (readStmt_readsOn hexpr hstmt hrest), skipSemi_moved hrest, hmore]
    simp

end

/-! ## Programs -/

theorem Program.ofTokens_append {ts us : Tokens} {p q : Program} (hclosed : Closed ts.list)
    (hp : Program.ofTokens ts = .ok p) (hq : Program.ofTokens us = .ok q) (d : Shift) (stop : Position) :
    Program.ofTokens ⟨ts.list ++ us.list.map (Token.moved d), stop⟩ = .ok (p ++ q.map (Stmt.moved d)) := by
  have hfollows : us.list.map (Token.moved d) = [] ∨ Closed ts.list := .inr hclosed
  have halone : ([] : List Token) = [] ∨ Closed us.list := .inl rfl
  obtain ⟨_, rfl, hfirst⟩ := readStmts_moved (d := .none) stop hfollows hp
  obtain ⟨_, rfl, hsecond⟩ := readStmts_moved (d := d) stop halone hq
  rw [Token.moved_none, Stmt.moved_none, List.map_id, List.map_id] at hfirst
  rw [List.append_nil] at hsecond
  rw [Program.ofTokens, hfirst, hsecond, readStmts]
  simp

theorem Position.next_line (text : String) :
    (ofPrefix text.toList).next '\n' = start.moved (.ofText (text ++ "\n")) := by
  have hoffset : String.ofList (text.toList ++ ['\n']) = text ++ "\n" := by
    rw [← String.toList_inj]
    simp
  rw [next_ofPrefix, ofPrefix, hoffset]
  simp [moved, start, Shift.ofText, Nat.add_comm]

/-- The tokens of a text and of another in the lines behind it. -/
theorem Tokens.ofText_append {p q : String} {ts us : Tokens} (hp : Tokens.ofText p = .ok ts)
    (hq : Tokens.ofText q = .ok us) :
    ∃ stop, Tokens.ofText (p ++ "\n" ++ q) =
      .ok ⟨ts.list ++ us.list.map (Token.moved (.ofText (p ++ "\n"))), stop⟩ := by
  have hstop := Tokens.stop_eq hp
  rw [Tokens.ofText_eq_ok] at hp hq
  have hsecond : Lexes ⟨'\n' :: q.toList, ts.stop⟩ (us.list.map (Token.moved (.ofText (p ++ "\n"))))
      (us.stop.moved (.ofText (p ++ "\n"))) := by
    have h := hq.within (d := .ofText (p ++ "\n")) .nil (.done rfl)
    rw [List.append_nil] at h
    refine h.congr ?_
    rw [hstop, skipTrivia_blank rfl, Position.next_line, Cursor.within, List.append_nil]
    rfl
  have hwhole := hp.within (d := .none) (.cons _) hsecond
  have hstart : (Cursor.start p).within .none ('\n' :: q.toList) = .start (p ++ "\n" ++ q) := by
    simp [Cursor.start, Cursor.within]
  rw [hstart, Token.moved_none, List.map_id] at hwhole
  exact ⟨_, Tokens.ofText_eq_ok.2 hwhole⟩

section
variable {registered : String → Bool} {p : Program}

theorem Program.sites_of_root {r : Rule} (h : p.root registered = .ok r) :
    p.Evaluates registered [] ∧ (p.sites registered []).findSome? (Site.rule? registered) = some r := by
  unfold Program.root at h
  split at h
  · cases h
  split at h
  · cases h
  · cases h
  · rename_i hrun
    cases h
    have hp : p.Evaluates registered [] := (evaluates_iff none).2 ⟨_, hrun⟩
    rw [(hp.runStmts none).1, Option.none_or] at hrun
    exact ⟨hp, Except.ok.inj hrun⟩

/-- What is added to a program does not replace its root. -/
theorem Program.root_append {q : Program} {whole first : Rule} (hwhole : (p ++ q).root registered = .ok whole)
    (hfirst : p.root registered = .ok first) : whole = first := by
  obtain ⟨hp, hsites⟩ := sites_of_root hfirst
  obtain ⟨-, hall⟩ := sites_of_root hwhole
  obtain ⟨after, happend⟩ := sites_append q hp
  rw [happend, List.findSome?_append, hsites] at hall
  exact (Option.some.inj hall).symm

end

/-- If two texts are programs and the first ends in a semicolon or has no tokens, then the first, a line break
and the second are a program too. Its statements are those of the first and then those of the second, all of whose
places are as many bytes and lines further on as stand before them. So where this and the first have a root,
they have the same. -/
theorem programs_concatenate {p q : String} {ts : Tokens} {a b : Program} (hts : Tokens.ofText p = .ok ts)
    (hclosed : Closed ts.list) (ha : Program.ofText p = .ok a) (hb : Program.ofText q = .ok b) :
    Program.ofText (p ++ "\n" ++ q) = .ok (a ++ b.map (Stmt.moved (.ofText (p ++ "\n")))) ∧
      ∀ (r : Registry) (whole first : Rule), r.load (p ++ "\n" ++ q) = .ok whole → r.load p = .ok first →
        whole = first := by
  have hprogram : Program.ofText (p ++ "\n" ++ q) = .ok (a ++ b.map (Stmt.moved (.ofText (p ++ "\n")))) := by
    cases hus : Tokens.ofText q with
    | error e =>
      rw [Program.ofText, hus] at hb
      cases hb
    | ok us =>
      obtain ⟨stop, hwhole⟩ := Tokens.ofText_append hts hus
      rw [Program.ofText, hts] at ha
      rw [Program.ofText, hus] at hb
      rw [Program.ofText, hwhole]
      exact Program.ofTokens_append hclosed ha hb _ stop
  refine ⟨hprogram, fun r whole first hwhole hfirst => ?_⟩
  rw [Registry.load, Rule.ofText, hprogram] at hwhole
  rw [Registry.load, Rule.ofText, ha] at hfirst
  exact Program.root_append hwhole hfirst

/-- The end of its line comment is the line break behind it. -/
def firstText : String := "Str(); // ü"

def secondText : String := "[Num(),\n-1] // é"

def firstTokens : Tokens :=
  ⟨[⟨.ident "Str", ⟨0, 1, 1⟩, ⟨3, 1, 4⟩⟩, ⟨.lparen, ⟨3, 1, 4⟩, ⟨4, 1, 5⟩⟩, ⟨.rparen, ⟨4, 1, 5⟩, ⟨5, 1, 6⟩⟩,
    ⟨.semi, ⟨5, 1, 6⟩, ⟨6, 1, 7⟩⟩], ⟨12, 1, 12⟩⟩

def firstProgram : Program := [.expr (.call ⟨3, 1, 4⟩ (.ident ⟨0, 1, 1⟩ "Str") [])]

theorem programs_concatenate_lines :
    Tokens.ofText firstText = .ok firstTokens ∧ Closed firstTokens.list ∧
      Program.ofText firstText = .ok firstProgram ∧
      ∃ second rule, Program.ofText secondText = .ok second ∧
        Program.ofText (firstText ++ "\n" ++ secondText) = .ok (firstProgram ++ second.map (Stmt.moved ⟨13, 1⟩)) ∧
        Registry.standard.load firstText = .ok rule ∧
        Registry.standard.load (firstText ++ "\n" ++ secondText) = .ok rule := by
  have hts : Tokens.ofText firstText = .ok firstTokens := by decide +kernel
  have hclosed : Closed firstTokens.list := .inr ⟨[_, _, _], _, rfl, rfl⟩
  have hfirst : Program.ofText firstText = .ok firstProgram := by
    rw [Program.ofText, hts]
    with_unfolding_all rfl
  have hsecond : (Program.ofText secondText).isOk = true := by decide +kernel
  have hload : (Registry.standard.load firstText).isOk = true := by decide +kernel
  have hloads : (Registry.standard.load (firstText ++ "\n" ++ secondText)).isOk = true := by decide +kernel
  cases hb : Program.ofText secondText with
  | error e =>
    rw [hb] at hsecond
    cases hsecond
  | ok second =>
    obtain ⟨hprogram, hroot⟩ := programs_concatenate hts hclosed hfirst hb
    cases hrule : Registry.standard.load firstText with
    | error e =>
      rw [hrule] at hload
      cases hload
    | ok rule =>
      cases hwhole : Registry.standard.load (firstText ++ "\n" ++ secondText) with
      | error e =>
        rw [hwhole] at hloads
        cases hloads
      | ok whole =>
        obtain rfl := hroot _ _ _ hwhole hrule
        exact ⟨hts, hclosed, hfirst, second, whole, rfl, hprogram, rfl, rfl⟩

end Rulebook
