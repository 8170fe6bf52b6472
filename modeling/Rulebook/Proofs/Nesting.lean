import Mathlib.Algebra.Order.BigOperators.Group.Finset
import Mathlib.Order.Bounds.Basic
import Rulebook.Proofs.Grammar
import Rulebook.Proofs.Lexing
import Rulebook.Proofs.RoundTrip

/-!
# How deep trees may be

The levels that an expression takes are counted along the tokens, and the count of a chain is given back
where the chain ends. The links of a chain stand above all that was read before them, so a tree may be
deeper than there are levels: every level may add as many links as there are levels left, on top of
what is below. The sum of these is the greatest depth, and a text of brackets reaches it. Where a chain
ends at its first bracket, its links stand above nothing deep, and no tree is deeper than the levels.
-/

namespace Rulebook

open Grammar

/-! ## What one level adds -/

section
variable {d : Nat} {ts : List Token}

/-- Every item is made of some of the tokens. -/
theorem Grammar.Sequence.exists_infix {α : Type} {Item : Phrase α} {as : List α}
    (h : Sequence Item ts as) : ∀ a ∈ as, ∃ us, us <:+: ts ∧ Item us a := by
  induction h with
  | @one ts a ha =>
    rw [List.forall_mem_singleton]
    exact ⟨ts, List.infix_refl ts, ha⟩
  | @cons ts us comma a as ha _ _ ih =>
    refine List.forall_mem_cons.2 ⟨⟨ts, (List.prefix_append ..).isInfix, ha⟩, ?_⟩
    intro b hb
    obtain ⟨vs, hvs, hitem⟩ := ih b hb
    refine ⟨vs, hvs.trans ?_, hitem⟩
    exact ((List.suffix_cons comma us).trans (List.suffix_append ..)).isInfix

theorem Grammar.Items.exists_infix {α : Type} {Item : Phrase α} {as : List α}
    (h : Items Item ts as) : ∀ a ∈ as, ∃ us, us <:+: ts ∧ Item us a := by
  cases h with
  | none => simp
  | some h => exact h.exists_infix
  | trailing h _ =>
    intro a ha
    obtain ⟨us, hus, hitem⟩ := h.exists_infix a ha
    exact ⟨us, hus.trans (List.prefix_append ..).isInfix, hitem⟩

theorem infix_enclosed (opening closing : Token) : ts <:+: opening :: ts ++ [closing] :=
  ⟨[opening], [closing], rfl⟩

variable {P : Phrase Expr}

theorem Grammar.Items.depth_le {es : List Expr} (h : Items P ts es)
    (hP : ∀ us e, us <:+: ts → P us e → e.depth ≤ d) : depthOf es ≤ d := by
  refine depthOf_le_iff.2 fun e he => ?_
  obtain ⟨us, hus, hitem⟩ := h.exists_infix e he
  exact hP us e hus hitem

theorem Grammar.Primary.depth_le {e : Expr} (h : Primary P ts e)
    (hP : ∀ us e, us <:+: ts → P us e → e.depth ≤ d) : e.depth ≤ d + 1 := by
  cases h with
  | array _ h _ =>
    exact Nat.succ_le_succ (h.depth_le fun us e hus => hP us e (hus.trans (infix_enclosed ..)))
  | object _ h _ =>
    refine Nat.succ_le_succ (depthIn_le_iff.2 fun entry hentry => ?_)
    obtain ⟨us, hus, @⟨key, colon, name, vs, value, -, -, he⟩⟩ := h.exists_infix entry hentry
    have hvalue : vs <:+: key :: colon :: vs := (List.suffix_append [key, colon] vs).isInfix
    exact hP vs value (hvalue.trans (hus.trans (infix_enclosed ..))) he
  | @lambda opening closing arrow ts us param body _ _ _ _ h =>
    have hbody : us <:+: opening :: ts ++ closing :: arrow :: us :=
      ⟨opening :: ts ++ [closing, arrow], [], by simp⟩
    exact Nat.succ_le_succ (hP us body hbody h)
  | parens _ h _ => exact Nat.le_succ_of_le (hP _ _ (infix_enclosed ..) h)
  | _ => exact Nat.succ_le_succ (Nat.zero_le d)

theorem Grammar.Link.depth_le {f : Expr → Expr} (h : Link P ts f)
    (hP : ∀ us e, us <:+: ts → P us e → e.depth ≤ d) {e : Expr} : (f e).depth ≤ max e.depth d + 1 := by
  cases h with
  | call _ h _ =>
    refine Nat.succ_le_succ (max_le_max_left _ (h.depth_le fun us e hus => ?_))
    exact hP us e (hus.trans (infix_enclosed ..))
  | member => exact Nat.succ_le_succ (le_max_left ..)
  | index _ h _ => exact Nat.succ_le_succ (max_le_max_left _ (hP _ _ (infix_enclosed ..) h))

theorem Grammar.Statements.depth_le {p : Program} (h : Statements P ts p)
    (hP : ∀ us e, us <:+: ts → P us e → e.depth ≤ d) : ∀ s ∈ p, s.body.depth ≤ d := by
  have hstmt : ∀ {us s}, Statement P us s → us <:+: ts → s.body.depth ≤ d := by
    rintro _ _ (@⟨word, name, eq, s, us, e, -, -, -, he⟩ | he) hus
    · have hvalue : us <:+: word :: name :: eq :: us :=
        (List.suffix_append [word, name, eq] us).isInfix
      exact hP us e (hvalue.trans hus) he
    · exact hP _ _ hus he
  induction h with
  | nil => simp
  | @bare ts us s p hs _ ih =>
    refine List.forall_mem_cons.2 ⟨hstmt hs (List.prefix_append ..).isInfix, ih ?_ ?_⟩
    · exact fun vs e hvs => hP vs e (hvs.trans (List.suffix_append ..).isInfix)
    · exact fun hs hus => hstmt hs (hus.trans (List.suffix_append ..).isInfix)
  | @closed ts us semi s p hs _ _ ih =>
    have hrest : us <:+: ts ++ semi :: us :=
      ((List.suffix_cons semi us).trans (List.suffix_append ..)).isInfix
    refine List.forall_mem_cons.2 ⟨hstmt hs (List.prefix_append ..).isInfix, ih ?_ ?_⟩
    · exact fun vs e hvs => hP vs e (hvs.trans hrest)
    · exact fun hs hus => hstmt hs (hus.trans hrest)

end

/-! ## What all levels add -/

/-- The greatest depth of an expression that may take `n` levels. -/
def deepest : Nat → Nat
  | 0 => 0
  | n + 1 => deepest n + (n + 1)

section
variable {stop : Position}

theorem readers_depth_le (n : Nat) :
    Reads (fun _ e => e.depth ≤ deepest n) (Readers.of stop n).expr.run ∧
      ∀ {d e e' ts rest}, (Readers.of stop n).links.run e ts = .ok (e', rest) → e.depth ≤ d →
        deepest n ≤ d + n → e'.depth ≤ d + n := by
  induction n with
  | zero =>
    refine ⟨?_, ?_⟩
    · rintro ts e rest ⟨⟩
    · intro d e e' ts rest h hd _
      obtain ⟨rfl, -, -⟩ := of_links_ground_ok h
      exact hd
  | succ n ih =>
    obtain ⟨hexpr, hlinks⟩ := ih
    refine ⟨?_, ?_⟩
    · intro ts e rest h
      obtain ⟨used, hused, -⟩ := (readers_read (n + 1)).1 h
      refine ⟨used, hused, ?_⟩
      rw [deepest]
      obtain ⟨minus, us, e', rfl, -, hrun, rfl⟩ | ⟨e', mid, hprimary, hrun⟩ := of_expr_above_ok h
      · obtain ⟨-, -, hdepth⟩ := hexpr hrun
        show e'.depth + 1 ≤ deepest n + (n + 1)
        omega
      · -- A primary expression is one deeper than what is below, and each link adds one.
        obtain ⟨_, -, hdepth⟩ := readPrimary_reads hexpr hprimary
        have hchain := hlinks hrun (hdepth.depth_le fun _ _ _ h => h) (by omega)
        omega
    · intro d e e' ts rest h hd hdeepest
      rw [deepest] at hdeepest
      obtain ⟨rfl, -, -⟩ | ⟨used, f, mid, -, hused, hrun⟩ := of_links_above_ok hexpr h
      · omega
      · have hlink : (f e).depth ≤ d + 1 :=
          (hused.depth_le fun _ _ _ h => h).trans (Nat.succ_le_succ (max_le hd (by omega)))
        have hchain := hlinks hrun hlink (by omega)
        omega

end

theorem Program.ofText_eq_ok {text : String} {p : Program} :
    Program.ofText text = .ok p ↔ ∃ ts, Tokens.ofText text = .ok ts ∧ Program.ofTokens ts = .ok p := by
  unfold Program.ofText
  cases Tokens.ofText text <;> simp [Except.bind]

theorem Program.depth_le_deepest {ts : Tokens} {p : Program} (h : Program.ofTokens ts = .ok p) :
    ∀ s ∈ p, s.body.depth ≤ deepest maxDepth := by
  obtain ⟨more, rfl, hmore⟩ := readStmts_reads (readers_depth_le maxDepth).1 h
  exact hmore.depth_le fun _ _ _ h => h

/-! ## Chains that end at a bracket -/

/-- No link follows a closing bracket. -/
def ChainsEnd (ts : List Token) : Prop :=
  ts.IsChain fun t u => t.kind.closes = true → startsLink [u] = false

theorem ChainsEnd.of_infix {us ts : List Token} (h : ChainsEnd ts) (hus : us <:+: ts) : ChainsEnd us :=
  List.IsChain.infix h hus

theorem startsLink_append {us : List Token} (h : startsLink us = true) (rest : List Token) :
    startsLink (us ++ rest) = true := by
  cases us with
  | nil => cases h
  | cons u us => exact h

theorem ChainsEnd.not_closes {us vs : List Token} (h : ChainsEnd (us ++ vs))
    (hlink : startsLink vs = true) {t : Token} (ht : us.getLast? = some t) : t.kind.closes = false := by
  obtain _ | ⟨u, vs⟩ := vs
  · cases hlink
  have hnext := (List.isChain_append.1 h).2.2 t ht u rfl
  cases hcloses : t.kind.closes with
  | false => rfl
  | true => exact hlink.symm.trans (hnext hcloses)

section
variable {stop : Position} {P : Phrase Expr}

theorem readers_stop (n : Nat) :
    (∀ {ts e rest}, (Readers.of stop n).expr.run ts = .ok (e, rest) → startsLink rest = false) ∧
      ∀ {e ts e' rest}, (Readers.of stop n).links.run e ts = .ok (e', rest) →
        startsLink rest = false := by
  induction n with
  | zero =>
    refine ⟨?_, ?_⟩
    · rintro ts e rest ⟨⟩
    · intro e ts e' rest h
      exact (of_links_ground_ok h).2.2
  | succ n ih =>
    obtain ⟨hexpr, hlinks⟩ := ih
    refine ⟨?_, ?_⟩
    · intro ts e rest h
      obtain ⟨_, _, _, _, _, hrun, _⟩ | ⟨_, _, _, hrun⟩ := of_expr_above_ok h
      · exact hexpr hrun
      · exact hlinks hrun
    · intro e ts e' rest h
      obtain ⟨_, _, hrest⟩ | ⟨_, _, _, _, _, hrun⟩ := of_links_above_ok (readers_read n).1 h
      · exact hrest
      · exact hlinks hrun

/-- A primary expression is a leaf, or no link follows it, or it ends in a bracket. -/
theorem readPrimary_end {n : Nat} {ts rest : List Token} {e : Expr}
    (h : readPrimary stop (Readers.of stop n).expr ts = .ok (e, rest)) :
    e.depth = 1 ∨ startsLink rest = false ∨
      ∃ before t, ts = before ++ t :: rest ∧ t.kind.closes = true := by
  have hread : Reads Expression (Readers.of stop n).expr.run := (readers_read n).1
  unfold readPrimary at h
  split at h
  case h_1 | h_2 =>
    obtain ⟨⟨_, _⟩, hbody, ⟨⟩⟩ := Except.map_eq_ok.1 h
    exact .inr (.inl ((readers_stop n).1 hbody))
  case h_10 p q _ =>
    obtain ⟨⟨_, _⟩, hes, ⟨⟩⟩ := Except.map_eq_ok.1 h
    obtain ⟨used, closing, _, rfl, hclosing, -, -⟩ := readItems_reads hread hes
    exact .inr (.inr ⟨⟨.lbracket, p, q⟩ :: used, closing, rfl, by rw [hclosing]; rfl⟩)
  case h_11 p q _ =>
    obtain ⟨⟨_, _⟩, hes, ⟨⟩⟩ := Except.map_eq_ok.1 h
    obtain ⟨used, closing, _, rfl, hclosing, -, -⟩ := readItems_reads (readEntry_reads hread) hes
    exact .inr (.inr ⟨⟨.lbrace, p, q⟩ :: used, closing, rfl, by rw [hclosing]; rfl⟩)
  case h_12 p q _ _ _ =>
    split at h
    · cases h
    rename_i hrun
    obtain ⟨used, rfl, -⟩ := hread hrun
    obtain ⟨⟨⟩, hexpect, ⟨⟩⟩ := Except.map_eq_ok.1 h
    obtain ⟨closing, rfl, hclosing⟩ := of_expect_ok hexpect
    exact .inr (.inr ⟨⟨.lparen, p, q⟩ :: used, closing, rfl, by rw [hclosing]; rfl⟩)
  case h_13 => cases h
  all_goals cases h; exact .inl rfl

end

section
variable {P : Phrase Expr} {ts : List Token} {f : Expr → Expr}

theorem Grammar.Link.startsLink (h : Link P ts f) (rest : List Token) :
    startsLink (ts ++ rest) = true := by
  cases h with
  | call hopening => simp [Rulebook.startsLink, nextKind, hopening]
  | member hdot => simp [Rulebook.startsLink, nextKind, hdot]
  | index hopening => simp [Rulebook.startsLink, nextKind, hopening]

/-- A link holds nothing but a name, or ends in a bracket. -/
theorem Grammar.Link.end (h : Link P ts f) :
    (∀ e, (f e).depth = e.depth + 1) ∨ ∃ t, ts.getLast? = some t ∧ t.kind.closes = true := by
  cases h with
  | call _ _ hclosing => exact .inr ⟨_, List.getLast?_concat .., by rw [hclosing]; rfl⟩
  | member => exact .inl fun _ => rfl
  | index _ _ hclosing => exact .inr ⟨_, List.getLast?_concat .., by rw [hclosing]; rfl⟩

end

section
variable {stop : Position}

/-- Links between `e` and `e'` that add at most `n` levels where chains end at a bracket. -/
def LinksWithin (n : Nat) (e : Expr) (us : List Token) (e' : Expr) : Prop :=
  us = [] ∧ e' = e ∨ startsLink us = true ∧ (ChainsEnd us → e'.depth ≤ e.depth + n)

section
variable {n : Nat}
  (hexpr : Reads (fun us e => ChainsEnd us → e.depth ≤ n) (Readers.of stop n).expr.run)
  (hlinks : ∀ e, Reads (LinksWithin n e) ((Readers.of stop n).links.run e))
include hexpr hlinks

theorem expr_above_depth_le :
    Reads (fun us e => ChainsEnd us → e.depth ≤ n + 1) (Readers.of stop (n + 1)).expr.run := by
  intro ts e rest h
  obtain ⟨minus, us, e', rfl, -, hrun, rfl⟩ | ⟨e', mid, hprimary, hrun⟩ := of_expr_above_ok h
  · obtain ⟨used, rfl, hdepth⟩ := hexpr hrun
    refine ⟨minus :: used, rfl, fun hend => ?_⟩
    exact Nat.succ_le_succ (hdepth (hend.of_infix (List.suffix_cons ..).isInfix))
  · obtain ⟨used, rfl, hused⟩ := readPrimary_reads hexpr hprimary
    obtain ⟨more, rfl, hmore⟩ := hlinks e' hrun
    refine ⟨used ++ more, by simp, fun hend => ?_⟩
    have hdepth : e'.depth ≤ n + 1 := hused.depth_le fun us e hus he =>
      he (hend.of_infix (hus.trans (List.prefix_append ..).isInfix))
    obtain ⟨rfl, rfl⟩ | ⟨hlink, hchain⟩ := hmore
    · exact hdepth
    have hchain := hchain (hend.of_infix (List.suffix_append ..).isInfix)
    -- Links follow, so the primary expression is a leaf.
    obtain hleaf | hstop | ⟨before, t, hbefore, hcloses⟩ := readPrimary_end hprimary
    · omega
    · exact absurd hstop (by simp [startsLink_append hlink])
    · rw [List.append_cons] at hbefore
      obtain rfl := List.append_cancel_right hbefore
      exact absurd hcloses (by simp [hend.not_closes hlink List.getLast?_concat])

theorem links_above_depth_le (e : Expr) :
    Reads (LinksWithin (n + 1) e) ((Readers.of stop (n + 1)).links.run e) := by
  intro ts e' rest h
  obtain ⟨rfl, rfl, -⟩ | ⟨used, f, mid, rfl, hused, hrun⟩ := of_links_above_ok hexpr h
  · exact ⟨[], rfl, .inl ⟨rfl, rfl⟩⟩
  · obtain ⟨more, rfl, hmore⟩ := hlinks (f e) hrun
    refine ⟨used ++ more, by simp, .inr ⟨hused.startsLink more, fun hend => ?_⟩⟩
    have hdepth : (f e).depth ≤ max e.depth n + 1 := hused.depth_le fun us e hus he =>
      he (hend.of_infix (hus.trans (List.prefix_append ..).isInfix))
    have hpos := e.depth_pos
    obtain ⟨rfl, rfl⟩ | ⟨hlink, hchain⟩ := hmore
    · omega
    have hchain := hchain (hend.of_infix (List.suffix_append ..).isInfix)
    -- One more link follows, so this one holds no expression.
    obtain hmember | ⟨t, ht, hcloses⟩ := hused.end
    · rw [hmember] at hchain
      omega
    · exact absurd hcloses (by simp [hend.not_closes hlink ht])

end

/-- Where chains end at a bracket, no expression is deeper than its levels. -/
theorem readers_depth_le_of_chainsEnd (n : Nat) :
    Reads (fun us e => ChainsEnd us → e.depth ≤ n) (Readers.of stop n).expr.run ∧
      ∀ e, Reads (LinksWithin n e) ((Readers.of stop n).links.run e) := by
  induction n with
  | zero =>
    refine ⟨?_, ?_⟩
    · rintro ts e rest ⟨⟩
    · intro e ts e' rest h
      obtain ⟨rfl, rfl, -⟩ := of_links_ground_ok h
      exact ⟨[], rfl, .inl ⟨rfl, rfl⟩⟩
  | succ n ih => exact ⟨expr_above_depth_le ih.1 ih.2, links_above_depth_le ih.1 ih.2⟩

end

/-- Where no link follows a closing bracket, no expression of a program is deeper than there are levels. -/
theorem Program.depth_le_maxDepth {text : String} {ts : Tokens} {p : Program}
    (hts : Tokens.ofText text = .ok ts) (hend : ChainsEnd ts.list) (hp : Program.ofText text = .ok p) :
    ∀ s ∈ p, s.body.depth ≤ maxDepth := by
  obtain ⟨_, hsame, h⟩ := Program.ofText_eq_ok.1 hp
  cases hts.symm.trans hsame
  obtain ⟨more, rfl, hmore⟩ := readStmts_reads (readers_depth_le_of_chainsEnd maxDepth).1 h
  exact hmore.depth_le fun us e hus he => he (hend.of_infix hus)

def chainTokens : Tokens :=
  ⟨[.ident "a", .dot, .ident "b", .lparen, .lbracket, .number ⟨['1'], [], none⟩, .rbracket,
    .rparen].zipIdx.map fun (kind, i) => ⟨kind, ⟨i, 1, i + 1⟩, ⟨i + 1, 1, i + 2⟩⟩, ⟨8, 1, 9⟩⟩

def chainProgram : Program :=
  [.expr (.call ⟨3, 1, 4⟩ (.member ⟨1, 1, 2⟩ (.ident ⟨0, 1, 1⟩ "a") "b")
    [.array ⟨4, 1, 5⟩ [.number ⟨5, 1, 6⟩ ⟨['1'], [], none⟩]])]

theorem Program.depth_le_maxDepth_chain :
    Tokens.ofText "a.b([1])" = .ok chainTokens ∧ ChainsEnd chainTokens.list ∧
      Program.ofText "a.b([1])" = .ok chainProgram ∧ ∀ s ∈ chainProgram, s.body.depth ≤ maxDepth := by
  have htokens : Tokens.ofText "a.b([1])" = .ok chainTokens := by with_unfolding_all rfl
  have hprogram : Program.ofText "a.b([1])" = .ok chainProgram := by with_unfolding_all rfl
  have hend : ChainsEnd chainTokens.list := by
    unfold ChainsEnd
    decide
  exact ⟨htokens, hend, hprogram, Program.depth_le_maxDepth htokens hend hprogram⟩

/-! ## Stacks -/

/-- An expression with so many empty calls after it. -/
def Expr.called (e : Expr) : Nat → Expr
  | 0 => e
  | k + 1 => .call default (e.called k) []

/-- Arrays one in another, the one at each height called so many times. -/
def stacked (calls : Nat → Nat) : Nat → Expr
  | 0 => .array default []
  | n + 1 => (Expr.array default [stacked calls n]).called (calls (n + 1))

def stackedText (calls : Nat → Nat) : Nat → List Char
  | 0 => ['[', ']']
  | n + 1 => '[' :: stackedText calls n ++ ']' :: (List.replicate (calls (n + 1)) ['(', ')']).flatten

namespace Expr

variable {e : Expr}

theorem depth_called (k : Nat) : (e.called k).depth = e.depth + k := by
  induction k with
  | zero => rfl
  | succ k ih => rw [called, depth, depthOf, Nat.max_zero, ih, Nat.add_assoc]

theorem links_called (k : Nat) : (e.called k).links = e.links + k := by
  induction k with
  | zero => rfl
  | succ k ih => rw [called, links, ih, Nat.add_assoc]

theorem isOpen_called (h : e.isOpen = false) (k : Nat) : (e.called k).isOpen = false := by
  cases k with
  | zero => exact h
  | succ k => rfl

theorem rise_called_le (h : e.isOpen = false) {m : Nat} (hrise : e.rise ≤ m) {k : Nat}
    (hlinks : e.links + k ≤ m) : (e.called k).rise ≤ m := by
  induction k with
  | zero => exact hrise
  | succ k ih =>
    rw [called, rise, isOpen_called h, links_called, levelsOf, Nat.max_le]
    exact ⟨ih (by omega), by omega⟩

theorem render_called (h : e.isOpen = false) (k : Nat) :
    (e.called k).render = e.render ++ (List.replicate k [.lparen, .rparen]).flatten := by
  induction k with
  | zero => simp [called]
  | succ k ih =>
    rw [called, render, isOpen_called h, ih, List.replicate_succ', List.flatten_append]
    simp [enclosed, renderItems]

end Expr

section
variable {calls : Nat → Nat}

theorem depth_stacked (n : Nat) :
    (stacked calls n).depth = n + 1 + ∑ i ∈ Finset.range n, calls (i + 1) := by
  induction n with
  | zero => rfl
  | succ n ih =>
    rw [stacked, Expr.depth_called, Expr.depth, depthOf, depthOf, Nat.max_zero, ih,
      Finset.sum_range_succ]
    omega

theorem levels_stacked_le (hcalls : ∀ n, calls n ≤ n) (n : Nat) :
    (stacked calls n).levels ≤ n + 1 := by
  induction n with
  | zero => exact Nat.le_refl _
  | succ n ih =>
    refine Nat.succ_le_succ (Expr.rise_called_le rfl ?_ ?_)
    · rw [Expr.rise]
      exact levelsOf_le_iff.2 (by simpa using ih)
    · show 0 + calls (n + 1) ≤ n + 1
      rw [Nat.zero_add]
      exact hcalls (n + 1)

theorem map_stackedText (n : Nat) :
    (stackedText calls n).map singleKind = (stacked calls n).render.map some := by
  induction n with
  | zero => rfl
  | succ n ih =>
    rw [stacked, Expr.render_called rfl, stackedText]
    simp [Expr.render, renderItems, enclosed, singleKind, ih]

/-- A stack is read from its text, if no height has more calls than levels below it. -/
theorem exists_ofText_stackedText (hcalls : ∀ n, calls n ≤ n) {n : Nat} (hn : n < maxDepth) :
    ∃ p, Program.ofText (String.ofList (stackedText calls n ++ [';'])) = .ok p ∧
      ∃ s ∈ p, s.body.depth = n + 1 + ∑ i ∈ Finset.range n, calls (i + 1) := by
  have hmarks : (stackedText calls n ++ [';']).map singleKind =
      (Program.render [.expr (stacked calls n)]).map some := by
    simp [Program.render, Stmt.render, map_stackedText, singleKind]
  obtain ⟨ts, hts, hkinds⟩ := (spells_marks hmarks).ofText
  obtain ⟨p, hp, hbare⟩ := (Program.ofTokens_decides hkinds).1 (by
    simpa [Stmt.body] using (levels_stacked_le hcalls n).trans hn)
  refine ⟨p, Program.ofText_eq_ok.2 ⟨ts, hts, hp⟩, ?_⟩
  obtain ⟨s, hs, hbare⟩ : ∃ s ∈ p, s.bare = .expr (stacked calls n).bare := by
    rw [← List.mem_map]
    exact List.mem_of_mem_head? (congrArg List.head? hbare)
  refine ⟨s, hs, ?_⟩
  rw [← s.depth_body_bare, hbare, Stmt.body, Expr.depth_bare, depth_stacked]

end

theorem deepest_eq_sum (n : Nat) : deepest n = ∑ i ∈ Finset.range n, (i + 1) := by
  induction n with
  | zero => rfl
  | succ n ih => rw [deepest, Finset.sum_range_succ, ih]

/-- No text makes a deeper tree than the levels allow, and one makes a tree that deep. -/
theorem isGreatest_depth :
    IsGreatest {d | ∃ text p, Program.ofText text = .ok p ∧ ∃ s ∈ p, s.body.depth = d}
      (deepest maxDepth) := by
  refine ⟨?_, ?_⟩
  · -- One level holds the innermost array, and every other one array and as many calls as it can.
    obtain ⟨p, hp, s, hs, hdepth⟩ :=
      exists_ofText_stackedText Nat.le_refl (show 127 < maxDepth by decide)
    refine ⟨_, p, hp, s, hs, ?_⟩
    rw [hdepth, ← deepest_eq_sum]
    exact Nat.add_comm (127 + 1) (deepest 127)
  · rintro _ ⟨text, p, hp, s, hs, rfl⟩
    obtain ⟨ts, -, hts⟩ := Program.ofText_eq_ok.1 hp
    exact Program.depth_le_deepest hts s hs

example : deepest maxDepth = 8256 := rfl

/-- One call, of the outermost array. -/
def calledOnce (n : Nat) : Nat := if n = 127 then 1 else 0

/-- There are trees deeper than the levels, such as that of as many brackets with `();` after them. -/
theorem not_forall_depth_le_maxDepth :
    ¬ ∀ text p, Program.ofText text = .ok p → ∀ s ∈ p, s.body.depth ≤ maxDepth := by
  intro h
  have hcalls (n : Nat) : calledOnce n ≤ n := by
    unfold calledOnce
    split <;> omega
  obtain ⟨p, hp, s, hs, hdepth⟩ := exists_ofText_stackedText hcalls (show 127 < maxDepth by decide)
  have hle := h _ p hp s hs
  have hone : calledOnce (126 + 1) ≤ ∑ i ∈ Finset.range 127, calledOnce (i + 1) :=
    Finset.single_le_sum (f := fun i => calledOnce (i + 1)) (fun _ _ => Nat.zero_le _)
      (Finset.mem_range.2 (by decide))
  rw [hdepth, maxDepth] at hle
  rw [calledOnce, if_pos rfl] at hone
  omega

end Rulebook
