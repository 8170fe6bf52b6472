import Mathlib.Data.List.Basic
import Rulebook.Proofs.Factories
import Rulebook.Proofs.SyntaxTrees
import Rulebook.Source.Parser

/-!
# Where trees come from

Every expression of a tree stands where one of the tokens stands, a name where its own token does, and
an error of the parser stands at a token too, or where the text ends.
-/

namespace Rulebook

/-- Where a token stands, or where the text ends. -/
def Tokens.HasPlace (all : Tokens) (p : Position) : Prop := p = all.stop ∨ ∃ t ∈ all.list, t.pos = p

/-- One of the tokens stands where the expression does, and is the name if the expression is one. -/
def Expr.StandsIn (all : Tokens) (e : Expr) : Prop :=
  ∃ t ∈ all.list, t.pos = e.pos ∧ ∀ pos name, e = .ident pos name → t.kind = .ident name

/-- So do the expressions of a statement, the word before a binding, and the name that it binds. -/
def Stmt.StandsIn (all : Tokens) (s : Stmt) : Prop :=
  s.body.Every (Expr.StandsIn all) ∧ ∀ pos name value, s = .bind pos name value →
    (∃ t ∈ all.list, t.pos = pos) ∧ ∃ t ∈ all.list, t.kind = .ident name

/-- Of tokens in `all`, what is given is as `P` says and what is left is in `all`; an error stands at a place of
`all`. -/
def ReadsIn {α : Type} (all : Tokens) (P : α → Prop) (run : List Token → Parse α) : Prop :=
  ∀ ⦃ts⦄, ts ⊆ all.list →
    Yields (fun e => all.HasPlace e.pos) (fun x => P x.1 ∧ x.2 ⊆ all.list) (run ts)

namespace ReadsIn

variable {α β : Type} {all : Tokens} {P : α → Prop} {run : List Token → Parse α} {ts rest : List Token}

theorem of_ok (h : ReadsIn all P run) (hts : ts ⊆ all.list) {a : α} (hrun : run ts = .ok (a, rest)) :
    P a ∧ rest ⊆ all.list := by
  have hyields := h hts
  rwa [hrun] at hyields

theorem of_error (h : ReadsIn all P run) (hts : ts ⊆ all.list) {e : SyntaxError}
    (hrun : run ts = .error e) : all.HasPlace e.pos := by
  have hyields := h hts
  rwa [hrun] at hyields

end ReadsIn

section
variable {all : Tokens} {ts rest : List Token}

/-! ## Single tokens -/

theorem hasPlace_nextPos (h : ts ⊆ all.list) : all.HasPlace (nextPos all.stop ts) := by
  cases ts with
  | nil => exact .inl rfl
  | cons t ts => exact .inr ⟨t, h List.mem_cons_self, rfl⟩

theorem expect_readsIn (kind : TokenKind) (place : Place) :
    ReadsIn all (fun _ => True) (expect all.stop kind place) := by
  intro ts hts
  unfold expect
  split
  · split
    · exact ⟨trivial, List.Subset.trans (List.subset_cons_self ..) hts⟩
    · exact hasPlace_nextPos hts
  · exact hasPlace_nextPos hts

theorem expectIdent_readsIn (place : Place) :
    ReadsIn all (fun name => ∃ t ∈ all.list, t.kind = .ident name) (expectIdent all.stop place) := by
  intro ts hts
  unfold expectIdent
  split
  · exact ⟨⟨_, hts List.mem_cons_self, rfl⟩, List.Subset.trans (List.subset_cons_self ..) hts⟩
  · exact hasPlace_nextPos hts

theorem readKey_readsIn : ReadsIn all (fun _ => True) (readKey all.stop) := by
  intro ts hts
  unfold readKey
  split
  · exact ⟨trivial, List.Subset.trans (List.subset_cons_self ..) hts⟩
  · exact ⟨trivial, List.Subset.trans (List.subset_cons_self ..) hts⟩
  · exact hasPlace_nextPos hts

/-! ## Lists -/

theorem readItems_readsIn {α : Type} {P : α → Prop} (close : TokenKind) (place : Place)
    {item : Reader α} (h : ReadsIn all P item.run) {read : List α} (hread : ∀ a ∈ read, P a)
    (hts : ts ⊆ all.list) :
    Yields (fun e => all.HasPlace e.pos) (fun x => (∀ a ∈ x.1, P a) ∧ x.2 ⊆ all.list)
      (readItems all.stop close place item ts read) := by
  fun_induction readItems all.stop close place item ts read with
  | case1 ts read =>
    exact ⟨by simpa using hread, List.Subset.trans (List.tail_sublist ts).subset hts⟩
  | case2 ts read _ e hrun => exact h.of_error hts hrun
  | case3 ts read _ a pos after rest _ hrun ih =>
    obtain ⟨ha, hrest⟩ := h.of_ok hts hrun
    exact ih (List.forall_mem_cons.2 ⟨ha, hread⟩) (List.Subset.trans (List.subset_cons_self ..) hrest)
  | case4 => exact (expect_readsIn close place).of_error (h.of_ok hts ‹_›).2 ‹_›
  | case5 ts read _ a mid hrun _ _ _ hexpect =>
    obtain ⟨ha, hmid⟩ := h.of_ok hts hrun
    refine ⟨?_, ((expect_readsIn close place).of_ok hmid hexpect).2⟩
    simpa [or_imp, forall_and] using ⟨hread, ha⟩

theorem readEntry_readsIn {P : Expr → Prop} {value : Reader Expr} (h : ReadsIn all P value.run) :
    ReadsIn all (fun entry => P entry.2) (readEntry all.stop value).run := by
  intro ts hts
  unfold readEntry
  dsimp only
  split
  · exact readKey_readsIn.of_error hts ‹_›
  obtain ⟨-, hts⟩ := readKey_readsIn.of_ok hts ‹_›
  split
  · exact (expect_readsIn ..).of_error hts ‹_›
  obtain ⟨-, hts⟩ := (expect_readsIn ..).of_ok hts ‹_›
  exact yields_map (h hts) fun _ he => he

/-! ## Expressions -/

theorem Expr.every_standsIn {e : Expr} {t : Token} (ht : t ∈ all.list) (hpos : t.pos = e.pos)
    (hname : ∀ pos name, e = .ident pos name → t.kind = .ident name)
    (hparts : ∀ part ∈ e.parts, part.Every (StandsIn all)) : e.Every (StandsIn all) :=
  Expr.every_iff.2 ⟨⟨t, ht, hpos, hname⟩, hparts⟩

theorem readPrimary_readsIn {inner : Reader Expr}
    (h : ReadsIn all (Expr.Every (Expr.StandsIn all)) inner.run) :
    ReadsIn all (Expr.Every (Expr.StandsIn all)) (readPrimary all.stop inner) := by
  intro ts hts
  unfold readPrimary
  split
  case h_13 => exact hasPlace_nextPos hts
  all_goals simp only [List.cons_subset] at hts
  case h_1 | h_2 =>
    refine yields_map (h (by simp [hts])) fun x hx => ⟨?_, hx.2⟩
    exact Expr.every_standsIn hts.1 rfl (by simp) (by simpa [Expr.parts] using hx.1)
  case h_10 =>
    refine yields_map (readItems_readsIn _ _ h (by simp) hts.2) fun x hx => ⟨?_, hx.2⟩
    exact Expr.every_standsIn hts.1 rfl (by simp) hx.1
  case h_11 =>
    refine yields_map (readItems_readsIn _ _ (readEntry_readsIn h) (by simp) hts.2)
      fun x hx => ⟨?_, hx.2⟩
    exact Expr.every_standsIn hts.1 rfl (by simp) (List.forall_mem_map.2 hx.1)
  case h_12 =>
    split
    · exact h.of_error hts.2 ‹_›
    obtain ⟨he, hrest⟩ := h.of_ok hts.2 ‹_›
    exact yields_map (expect_readsIn _ _ hrest) fun x hx => ⟨he, hx.2⟩
  case h_9 =>
    refine ⟨Expr.every_standsIn hts.1 rfl ?_ (by simp [Expr.parts]), hts.2⟩
    rintro _ _ ⟨⟩
    rfl
  all_goals exact ⟨Expr.every_standsIn hts.1 rfl (by simp) (by simp [Expr.parts]), hts.2⟩

/-- What links give is made of tokens in `all` if what stands before them is. -/
def LinksIn (all : Tokens) (links : LinkReader) : Prop :=
  ∀ ⦃e⦄, e.Every (Expr.StandsIn all) → ReadsIn all (Expr.Every (Expr.StandsIn all)) (links.run e)

section
variable {below : Readers} (hexpr : ReadsIn all (Expr.Every (Expr.StandsIn all)) below.expr.run)
  (hlinks : LinksIn all below.links)
include hexpr hlinks

theorem expr_above_readsIn :
    ReadsIn all (Expr.Every (Expr.StandsIn all)) (below.above all.stop).expr.run := by
  intro ts hts
  unfold Readers.above
  dsimp only
  split
  · rw [List.cons_subset] at hts
    refine yields_map (hexpr hts.2) fun x hx => ⟨?_, hx.2⟩
    exact Expr.every_standsIn hts.1 rfl (by simp) (by simpa [Expr.parts] using hx.1)
  · split
    · exact (readPrimary_readsIn hexpr).of_error hts ‹_›
    · obtain ⟨he, hrest⟩ := (readPrimary_readsIn hexpr).of_ok hts ‹_›
      exact hlinks he hrest

theorem links_above_readsIn : LinksIn all (below.above all.stop).links := by
  intro e he ts hts
  unfold Readers.above
  dsimp only
  split
  case h_4 => exact ⟨he, hts⟩
  all_goals rw [List.cons_subset] at hts
  · have hargs := readItems_readsIn .rparen .argumentList hexpr (List.forall_mem_nil _) hts.2
    split
    all_goals
      rename_i hrun
      rw [hrun] at hargs
    · exact hargs
    · refine hlinks ?_ hargs.2
      exact Expr.every_standsIn hts.1 rfl (by simp) (List.forall_mem_cons.2 ⟨he, hargs.1⟩)
  · split
    · exact (expectIdent_readsIn _).of_error hts.2 ‹_›
    obtain ⟨-, hrest⟩ := (expectIdent_readsIn _).of_ok hts.2 ‹_›
    refine hlinks ?_ hrest
    exact Expr.every_standsIn hts.1 rfl (by simp) (by simpa [Expr.parts] using he)
  · split
    · exact hexpr.of_error hts.2 ‹_›
    obtain ⟨hi, hmid⟩ := hexpr.of_ok hts.2 ‹_›
    split
    · exact (expect_readsIn ..).of_error hmid ‹_›
    obtain ⟨-, hrest⟩ := (expect_readsIn ..).of_ok hmid ‹_›
    refine hlinks ?_ hrest
    exact Expr.every_standsIn hts.1 rfl (by simp) (by simpa [Expr.parts] using ⟨he, hi⟩)

end

theorem readers_readIn (n : Nat) :
    ReadsIn all (Expr.Every (Expr.StandsIn all)) (Readers.of all.stop n).expr.run ∧
      LinksIn all (Readers.of all.stop n).links := by
  induction n with
  | zero =>
    refine ⟨fun ts hts => hasPlace_nextPos hts, fun e he ts hts => ?_⟩
    unfold Readers.of Readers.ground
    dsimp only
    split
    · exact hasPlace_nextPos hts
    · exact ⟨he, hts⟩
  | succ n ih => exact ⟨expr_above_readsIn ih.1 ih.2, links_above_readsIn ih.1 ih.2⟩

/-! ## Programs -/

theorem readStmt_readsIn {expr : Reader Expr}
    (h : ReadsIn all (Expr.Every (Expr.StandsIn all)) expr.run) :
    ReadsIn all (Stmt.StandsIn all) (readStmt all.stop expr) := by
  intro ts hts
  unfold readStmt
  split
  · rw [List.cons_subset] at hts
    split
    · exact (expectIdent_readsIn _).of_error hts.2 ‹_›
    obtain ⟨hname, hmid⟩ := (expectIdent_readsIn _).of_ok hts.2 ‹_›
    split
    · exact (expect_readsIn ..).of_error hmid ‹_›
    obtain ⟨-, hrest⟩ := (expect_readsIn ..).of_ok hmid ‹_›
    refine yields_map (h hrest) fun x hx => ⟨⟨hx.1, ?_⟩, hx.2⟩
    rintro _ _ _ ⟨⟩
    exact ⟨⟨_, hts.1, rfl⟩, hname⟩
  · exact yields_map (h hts) fun x hx => ⟨⟨hx.1, by simp⟩, hx.2⟩

theorem skipSemi_subset (ts : List Token) : skipSemi ts ⊆ ts := by
  unfold skipSemi
  split
  · exact List.subset_cons_self ..
  · exact List.Subset.refl _

theorem readStmts_readsIn {expr : Reader Expr}
    (h : ReadsIn all (Expr.Every (Expr.StandsIn all)) expr.run) {read : List Stmt}
    (hread : ∀ s ∈ read, s.StandsIn all) (hts : ts ⊆ all.list) :
    Yields (fun e => all.HasPlace e.pos) (fun p => ∀ s ∈ p, s.StandsIn all)
      (readStmts all.stop expr ts read) := by
  fun_induction readStmts all.stop expr ts read with
  | case1 read => exact fun s hs => hread s (List.mem_reverse.1 hs)
  | case2 read t ts e hstmt => exact (readStmt_readsIn h).of_error hts hstmt
  | case3 read t ts s rest hstmt ih =>
    obtain ⟨hs, hrest⟩ := (readStmt_readsIn h).of_ok hts hstmt
    exact ih (List.forall_mem_cons.2 ⟨hs, hread⟩) (List.Subset.trans (skipSemi_subset rest) hrest)

/-- A program is made of its tokens, and why tokens are no program is told at one of their places. -/
theorem Program.ofTokens_standsIn (all : Tokens) :
    Yields (fun e => all.HasPlace e.pos) (fun p => ∀ s ∈ p, s.StandsIn all)
      (Program.ofTokens all) :=
  readStmts_readsIn (readers_readIn maxDepth).1 (by simp) (List.Subset.refl _)

end

end Rulebook
