import Rulebook.Proofs.Readers

/-!
# Rendered programs are read back

The levels of a tree are what the readers count while they go over its tokens. If there are levels enough,
then the tree comes back, whatever places the tokens have, and if not, then it is refused.
-/

namespace Rulebook

section
variable {stop : Position}

/-! ## Expressions -/

/-- A rendered expression starts with no closing token and no `let`, and with a sign only if it is one. -/
theorem Expr.render_eq_cons (e : Expr) :
    ∃ k ks, e.render = k :: ks ∧ (k.closes = false ∧ k ≠ .letWord) ∧
      (e.isOpen = false → k ≠ .minus) := by
  have object : ∀ (e : Expr) (more : List TokenKind),
      (∃ k ks, e.render = k :: ks ∧ (k.closes = false ∧ k ≠ .letWord) ∧
        (e.isOpen = false → k ≠ .minus)) →
      ∃ k ks, e.renderObject ++ more = k :: ks ∧ (k.closes = false ∧ k ≠ .letWord) ∧
        k ≠ .minus := by
    rintro e more ⟨k, ks, hk, hstart, hminus⟩
    rw [renderObject]
    cases hopen : e.isOpen with
    | true => exact ⟨.lparen, _, rfl, ⟨rfl, nofun⟩, nofun⟩
    | false => exact ⟨k, ks ++ more, by simp [hk], hstart, hminus hopen⟩
  induction e using Expr.induct with
  | bool pos b => cases b <;> exact ⟨_, _, rfl, ⟨rfl, nofun⟩, nofun⟩
  | call pos callee args h _ =>
    obtain ⟨k, ks, hk, hstart, hminus⟩ := object callee _ h
    exact ⟨k, ks, hk, hstart, fun _ => hminus⟩
  | member pos e name h =>
    obtain ⟨k, ks, hk, hstart, hminus⟩ := object e _ h
    exact ⟨k, ks, hk, hstart, fun _ => hminus⟩
  | index pos e i h _ =>
    obtain ⟨k, ks, hk, hstart, hminus⟩ := object e _ h
    exact ⟨k, ks, hk, hstart, fun _ => hminus⟩
  | neg => exact ⟨.minus, _, rfl, ⟨rfl, nofun⟩, nofun⟩
  | _ => exact ⟨_, _, rfl, ⟨rfl, nofun⟩, nofun⟩

theorem Expr.closes_of_render (e : Expr) : ∃ k ks, e.render = k :: ks ∧ k.closes = false := by
  obtain ⟨k, ks, hk, ⟨hcloses, -⟩, -⟩ := e.render_eq_cons
  exact ⟨k, ks, hk, hcloses⟩

section
variable (stop)

/-- As an expression of its own, it is read back if there are levels enough. -/
def Expr.IsRead (e : Expr) : Prop :=
  ∀ n, Takes (e.levels ≤ n) (Readers.of stop n).expr.run Expr.bare e.render e.bare

/-- At the start of a chain, it is read back if there are levels enough, and the links after it are read
with those that its own leave. -/
def Expr.IsHead (e : Expr) : Prop :=
  ∀ n ts rest, ts.map Token.kind = e.renderObject →
    (e.objectRise ≤ n → ∃ e', e'.bare = e.bare ∧
      readChain stop (Readers.of stop n) (ts ++ rest) =
        (Readers.of stop (n - e.links)).links.run e' rest) ∧
    (¬ e.objectRise ≤ n → ∃ pos,
      readChain stop (Readers.of stop n) (ts ++ rest) = .error ⟨.tooDeep, pos⟩)

end

namespace Expr

theorem renderObject_of_closed {e : Expr} (h : e.isOpen = false) : e.renderObject = e.render := by
  simp [renderObject, h]

theorem objectRise_of_closed {e : Expr} (h : e.isOpen = false) : e.objectRise = e.rise := by
  simp [objectRise, h]

theorem renderObject_of_open {e : Expr} (h : e.isOpen = true) :
    e.renderObject = enclosed .lparen e.render .rparen := by
  simp [renderObject, h]

theorem objectRise_of_open {e : Expr} (h : e.isOpen = true) : e.objectRise = e.levels := by
  simp [objectRise, levels, h]

theorem isHead_of_primary {e : Expr} (hlinks : e.links = 0)
    (h : ∀ n ts rest, ts.map Token.kind = e.renderObject →
      Decides (e.objectRise ≤ n) (readPrimary stop (Readers.of stop n).expr (ts ++ rest))
        fun x => x.1.bare = e.bare ∧ x.2 = rest) : e.IsHead stop := by
  intro n ts rest hts
  obtain ⟨htaken, hrefused⟩ := h n ts rest hts
  unfold readChain
  refine ⟨fun hn => ?_, fun hn => ?_⟩
  · obtain ⟨⟨e', _⟩, hrun, hbare, rfl⟩ := htaken hn
    rw [hrun, hlinks]
    exact ⟨e', hbare, rfl⟩
  · obtain ⟨pos, hrun⟩ := hrefused hn
    rw [hrun]
    exact ⟨pos, rfl⟩

/-- One more link after an expression takes one level, and with that gone its own parts are read. -/
theorem IsHead.link {object e : Expr} (h : object.IsHead stop) (kinds : List TokenKind) (parts : Nat)
    (hrender : e.renderObject = object.renderObject ++ kinds) (hlinks : e.links = object.links + 1)
    (hrise : e.objectRise = max object.objectRise (object.links + 1 + parts))
    (hstart : ∀ ts rest, ts.map Token.kind = kinds → startsLink (ts ++ rest) = true)
    (hlink : ∀ n object' ts rest, object'.bare = object.bare → ts.map Token.kind = kinds →
      (parts ≤ n → ∃ e', e'.bare = e.bare ∧
        (Readers.of stop (n + 1)).links.run object' (ts ++ rest) =
          (Readers.of stop n).links.run e' rest) ∧
      (¬ parts ≤ n → ∃ pos,
        (Readers.of stop (n + 1)).links.run object' (ts ++ rest) = .error ⟨.tooDeep, pos⟩)) :
    e.IsHead stop := by
  intro n ts rest hts
  rw [hrender, List.map_eq_append_iff] at hts
  obtain ⟨us, vs, rfl, hus, hvs⟩ := hts
  obtain ⟨htaken, hrefused⟩ := h n us (vs ++ rest) hus
  rw [List.append_assoc, hrise, hlinks]
  by_cases hobject : object.objectRise ≤ n
  · obtain ⟨object', hbare, hchain⟩ := htaken hobject
    rw [hchain]
    obtain hnone | ⟨m, hm⟩ : n - object.links = 0 ∨ ∃ m, n - object.links = m + 1 := by
      cases n - object.links <;> simp
    · rw [hnone]
      -- No level is left, but a link follows.
      refine ⟨fun hn => by omega, fun _ => ?_⟩
      unfold Readers.of Readers.ground
      dsimp only
      rw [if_pos (hstart vs rest hvs)]
      exact ⟨_, rfl⟩
    · rw [hm, show n - (object.links + 1) = m by omega]
      obtain ⟨htaken, hrefused⟩ := hlink m object' vs rest hbare hvs
      exact ⟨fun hn => htaken (by omega), fun hn => hrefused (by omega)⟩
  · obtain ⟨pos, hchain⟩ := hrefused hobject
    exact ⟨fun hn => by omega, fun _ => ⟨pos, hchain⟩⟩

theorem IsHead.isRead {e : Expr} (h : e.IsHead stop) (hopen : e.isOpen = false) :
    e.IsRead stop := by
  intro n ts rest hts hrest
  obtain ⟨k, ks, hk, -, hminus⟩ := e.render_eq_cons
  obtain _ | n := n
  · exact Decides.tooDeep.congr (by simp [levels])
  have hnext : nextKind (ts ++ rest) ≠ some .minus := by
    rw [nextKind_of_map (hts.trans hk)]
    simpa using hminus hopen
  obtain ⟨htaken, hrefused⟩ := h n ts rest (renderObject_of_closed hopen ▸ hts)
  rw [objectRise_of_closed hopen] at htaken hrefused
  rw [Readers.of, expr_above_chain hnext, levels, Nat.add_le_add_iff_right]
  refine ⟨fun hn => ?_, hrefused⟩
  obtain ⟨e', hbare, hchain⟩ := htaken hn
  exact ⟨(e', rest), by rw [hchain, links_done hrest], hbare, rfl⟩

theorem IsRead.isHead {e : Expr} (h : e.IsRead stop) (hopen : e.isOpen = true) :
    e.IsHead stop := by
  have hlinks : e.links = 0 := by cases e <;> first | rfl | cases hopen
  have hstart : ∃ ks, e.render = .minus :: ks ∨ e.render = .lparen :: ks := by
    cases e <;> first | exact ⟨_, .inl rfl⟩ | exact ⟨_, .inr rfl⟩ | cases hopen
  refine isHead_of_primary hlinks fun n ts rest hts => ?_
  rw [renderObject_of_open hopen] at hts
  obtain ⟨t, us, t', rfl, ht, hus, ht'⟩ := map_eq_enclosed hts
  have hnext : nextKind (us ++ t' :: rest) = some .minus ∨ nextKind (us ++ t' :: rest) = some .lparen := by
    obtain ⟨ks, hks | hks⟩ := hstart
    · exact .inl (nextKind_of_map (hus.trans hks))
    · exact .inr (nextKind_of_map (hus.trans hks))
  rw [show t :: us ++ [t'] ++ rest = t :: (us ++ t' :: rest) by simp, readPrimary_parens ht hnext,
    objectRise_of_open hopen]
  have hrun := h n us (t' :: rest) hus (startsLink_of_closes (by rw [ht']; rfl))
  refine (hrun.bind (d := True) ?_).congr (by simp)
  rintro ⟨e', _⟩ ⟨hbare, rfl⟩
  dsimp only
  rw [expect_of_kind ht']
  exact .ok ⟨hbare, rfl⟩

theorem isRead_isHead_of_leaf {e : Expr} {k : TokenKind} (hrender : e.render = [k])
    (hopen : e.isOpen = false) (hlinks : e.links = 0) (hrise : e.rise = 0)
    (h : ∀ inner t rest, t.kind = k → ∃ e',
      readPrimary stop inner (t :: rest) = .ok (e', rest) ∧ e'.bare = e.bare) : e.IsRead stop ∧ e.IsHead stop := by
  have hhead : e.IsHead stop := by
    refine isHead_of_primary hlinks fun n ts rest hts => ?_
    rw [renderObject_of_closed hopen, hrender] at hts
    obtain ⟨t, us, rfl, ht, hus⟩ := List.map_eq_cons_iff.1 hts
    obtain rfl := List.map_eq_nil_iff.1 hus
    obtain ⟨e', hrun, hbare⟩ := h (Readers.of stop n).expr t rest ht
    rw [List.singleton_append, hrun, objectRise_of_closed hopen, hrise]
    exact (Decides.ok ⟨hbare, rfl⟩).congr (by simp)
  exact ⟨hhead.isRead hopen, hhead⟩

theorem isRead_isHead_array {pos : Position} {items : List Expr} (h : ∀ e ∈ items, e.IsRead stop) :
    (Expr.array pos items).IsRead stop ∧ (Expr.array pos items).IsHead stop := by
  have hhead : (Expr.array pos items).IsHead stop := by
    refine isHead_of_primary rfl fun n ts rest hts => ?_
    rw [renderObject_of_closed rfl, render, renderItems_eq_map] at hts
    obtain ⟨t, us, t', rfl, ht, hus, ht'⟩ := map_eq_enclosed hts
    rw [show t :: us ++ [t'] ++ rest = t :: (us ++ t' :: rest) by simp, readPrimary_array ht,
      objectRise_of_closed rfl, rise]
    refine Decides.map (((readItems_takes rfl .array (fun e he => h e he n)
      (fun e _ => e.closes_of_render) hus ht' rest []).mono ?_).congr levelsOf_le_iff.symm)
    rintro _ ⟨es, rfl, hes⟩
    exact ⟨by simp [bare, bareItems_eq_map, hes], rfl⟩
  exact ⟨hhead.isRead rfl, hhead⟩

theorem isRead_isHead_object {pos : Position} {entries : List (String × Expr)}
    (h : ∀ e ∈ entries, e.2.IsRead stop) :
    (Expr.object pos entries).IsRead stop ∧ (Expr.object pos entries).IsHead stop := by
  have hhead : (Expr.object pos entries).IsHead stop := by
    refine isHead_of_primary rfl fun n ts rest hts => ?_
    rw [renderObject_of_closed rfl, render, renderEntries_eq_map] at hts
    obtain ⟨t, us, t', rfl, ht, hus, ht'⟩ := map_eq_enclosed hts
    rw [show t :: us ++ [t'] ++ rest = t :: (us ++ t' :: rest) by simp, readPrimary_object ht,
      objectRise_of_closed rfl, rise]
    refine Decides.map (((readItems_takes rfl .object (fun e he => readEntry_takes (h e he n))
      (fun e _ => ⟨_, _, rfl, rfl⟩) hus ht' rest []).mono ?_).congr levelsIn_le_iff.symm)
    rintro _ ⟨es, rfl, hes⟩
    exact ⟨by simp [bare, bareEntries_eq_map, hes], rfl⟩
  exact ⟨hhead.isRead rfl, hhead⟩

theorem isRead_lambda {pos : Position} {param : Option String} {body : Expr} (h : body.IsRead stop) :
    (Expr.lambda pos param body).IsRead stop := by
  intro n ts rest hts hrest
  obtain _ | n := n
  · exact Decides.tooDeep.congr (by simp [levels])
  rw [render, List.map_eq_append_iff] at hts
  obtain ⟨us, vs, rfl, hus, hvs⟩ := hts
  obtain ⟨arrow, ws, rfl, harrow, hws⟩ := List.map_eq_cons_iff.1 hvs
  have hnext : nextKind (us ++ (arrow :: (ws ++ rest))) ≠ some .minus := by
    rw [nextKind_of_map hus]
    simp
  obtain ⟨pos', hrun⟩ : ∃ pos', readPrimary stop (Readers.of stop n).expr (us ++ arrow :: (ws ++ rest)) = _ :=
    readPrimary_lambda hus harrow (ws ++ rest)
  rw [List.append_assoc, List.cons_append, Readers.of, expr_above_chain hnext, readChain, hrun]
  refine (Decides.bind (d := True)
    (P := fun x => x.1.bare = (lambda pos param body).bare ∧ x.2 = rest)
    (Decides.map ((h n ws rest hws hrest).mono ?_)) ?_).congr (by simp [levels, rise])
  · rintro ⟨e', _⟩ ⟨hbare, rfl⟩
    exact ⟨by rw [bare, bare, hbare], rfl⟩
  · -- The body has taken every link, so none follows the lambda.
    rintro ⟨e', _⟩ ⟨hbare, rfl⟩
    dsimp only
    rw [links_done hrest]
    exact .ok ⟨hbare, rfl⟩

theorem isRead_neg {pos : Position} {operand : Expr} (h : operand.IsRead stop) :
    (Expr.neg pos operand).IsRead stop := by
  intro n ts rest hts hrest
  obtain _ | n := n
  · exact Decides.tooDeep.congr (by simp [levels])
  obtain ⟨t, us, rfl, ht, hus⟩ := List.map_eq_cons_iff.1 hts
  rw [List.cons_append, Readers.of, expr_above_minus ht, levels, Nat.add_le_add_iff_right]
  refine Decides.map ((h n us rest hus hrest).mono ?_)
  rintro ⟨e', _⟩ ⟨hbare, rfl⟩
  exact ⟨by rw [bare, bare, hbare], rfl⟩

theorem isHead_call {pos : Position} {callee : Expr} {args : List Expr} (h : callee.IsHead stop)
    (hargs : ∀ e ∈ args, e.IsRead stop) : (Expr.call pos callee args).IsHead stop := by
  refine h.link (enclosed .lparen ([.comma].intercalate (renderItems args)) .rparen) (levelsOf args)
    rfl rfl rfl ?_ ?_
  · intro ts rest hts
    rw [startsLink, nextKind_of_map hts]
  · intro n callee' ts rest hbare hts
    rw [renderItems_eq_map] at hts
    obtain ⟨t, us, t', rfl, ht, hus, ht'⟩ := map_eq_enclosed hts
    obtain ⟨htaken, hrefused⟩ := readItems_takes rfl .argumentList (fun e he => hargs e he n)
      (fun e _ => e.closes_of_render) hus ht' rest []
    rw [show t :: us ++ [t'] ++ rest = t :: (us ++ t' :: rest) by simp, Readers.of,
      links_above_call ht, levelsOf_le_iff]
    refine ⟨fun hn => ?_, fun hn => ?_⟩
    · obtain ⟨_, hrun, args', rfl, hargs'⟩ := htaken hn
      rw [hrun]
      exact ⟨_, by simp [bare, bareItems_eq_map, hbare, hargs'], rfl⟩
    · obtain ⟨pos, hrun⟩ := hrefused hn
      rw [hrun]
      exact ⟨pos, rfl⟩

theorem isHead_member {pos : Position} {object : Expr} {name : String} (h : object.IsHead stop) :
    (Expr.member pos object name).IsHead stop := by
  refine h.link [.dot, .ident name] 0 rfl rfl rfl ?_ ?_
  · intro ts rest hts
    rw [startsLink, nextKind_of_map hts]
  · intro n object' ts rest hbare hts
    obtain ⟨dot, us, rfl, hdot, hus⟩ := List.map_eq_cons_iff.1 hts
    obtain ⟨t, us, rfl, ht, hnil⟩ := List.map_eq_cons_iff.1 hus
    obtain rfl := List.map_eq_nil_iff.1 hnil
    refine ⟨fun _ => ?_, fun hn => absurd n.zero_le hn⟩
    exact ⟨_, by rw [bare, bare, hbare], links_above_member hdot ht object' rest⟩

theorem isHead_index {pos : Position} {object subscript : Expr} (h : object.IsHead stop)
    (hsubscript : subscript.IsRead stop) : (Expr.index pos object subscript).IsHead stop := by
  refine h.link (enclosed .lbracket subscript.render .rbracket) subscript.levels rfl rfl rfl ?_ ?_
  · intro ts rest hts
    rw [startsLink, nextKind_of_map hts]
  · intro n object' ts rest hbare hts
    obtain ⟨t, us, t', rfl, ht, hus, ht'⟩ := map_eq_enclosed hts
    obtain ⟨htaken, hrefused⟩ :=
      hsubscript n us (t' :: rest) hus (startsLink_of_closes (by rw [ht']; rfl))
    rw [show t :: us ++ [t'] ++ rest = t :: (us ++ t' :: rest) by simp, Readers.of,
      links_above_index ht]
    refine ⟨fun hn => ?_, fun hn => ?_⟩
    · obtain ⟨⟨i, _⟩, hrun, hi, rfl⟩ := htaken hn
      rw [hrun]
      dsimp only [Except.bind]
      rw [expect_of_kind ht']
      exact ⟨_, by rw [bare, bare, hbare, hi], rfl⟩
    · obtain ⟨pos, hrun⟩ := hrefused hn
      rw [hrun]
      exact ⟨pos, rfl⟩

/-- Every expression is read back from what it is rendered as, if there are levels enough. -/
theorem isRead_isHead (e : Expr) : e.IsRead stop ∧ e.IsHead stop := by
  induction e using Expr.induct with
  | array pos items h => exact isRead_isHead_array fun e he => (h e he).1
  | object pos entries h => exact isRead_isHead_object fun e he => (h e he).1
  | lambda pos param body h =>
    have hread : (Expr.lambda pos param body).IsRead stop := isRead_lambda h.1
    exact ⟨hread, hread.isHead rfl⟩
  | neg pos operand h =>
    have hread : (Expr.neg pos operand).IsRead stop := isRead_neg h.1
    exact ⟨hread, hread.isHead rfl⟩
  | call pos callee args h hargs =>
    have hhead : (Expr.call pos callee args).IsHead stop := isHead_call h.2 fun e he => (hargs e he).1
    exact ⟨hhead.isRead rfl, hhead⟩
  | member pos object name h =>
    have hhead : (Expr.member pos object name).IsHead stop := isHead_member h.2
    exact ⟨hhead.isRead rfl, hhead⟩
  | index pos object subscript h hsubscript =>
    have hhead : (Expr.index pos object subscript).IsHead stop := isHead_index h.2 hsubscript.1
    exact ⟨hhead.isRead rfl, hhead⟩
  | bool pos b =>
    cases b
    all_goals
      refine isRead_isHead_of_leaf rfl rfl rfl rfl ?_
      rintro inner ⟨_, _, _⟩ rest ⟨⟩
      exact ⟨_, rfl, rfl⟩
  | _ =>
    refine isRead_isHead_of_leaf rfl rfl rfl rfl ?_
    rintro inner ⟨_, _, _⟩ rest ⟨⟩
    exact ⟨_, rfl, rfl⟩

end Expr

/-! ## Programs -/

theorem readStmt_expr {expr : Reader Expr} {ts : List Token} (h : nextKind ts ≠ some .letWord) :
    readStmt stop expr ts = (expr.run ts).map fun (e, rest) => (.expr e, rest) := by
  unfold readStmt
  split
  · exact absurd rfl h
  · rfl

theorem readStmts_cons {expr : Reader Expr} {ts rest : List Token} {s : Stmt} {read : List Stmt}
    (h : readStmt stop expr ts = .ok (s, rest)) :
    readStmts stop expr ts read = readStmts stop expr (skipSemi rest) (s :: read) := by
  obtain _ | ⟨t, ts⟩ := ts
  · exact absurd (readStmt_shrinks stop h) (Nat.not_lt_zero _)
  rw [readStmts]
  split
  · rename_i herror
    cases h.symm.trans herror
  · rename_i hrun
    cases h.symm.trans hrun
    rfl

theorem readStmts_error {expr : Reader Expr} {ts : List Token} {e : SyntaxError} {read : List Stmt}
    (hts : ts ≠ []) (h : readStmt stop expr ts = .error e) :
    readStmts stop expr ts read = .error e := by
  obtain ⟨t, ts, rfl⟩ := List.exists_cons_of_ne_nil hts
  rw [readStmts]
  split
  · rename_i herror
    cases h.symm.trans herror
    rfl
  · rename_i hrun
    cases h.symm.trans hrun

/-- Up to its semicolon, the expression of a statement is read as one of its own. -/
theorem readBody_takes {e : Expr} {n : Nat} {us : List Token} {semi : Token}
    (hus : us.map Token.kind = e.render) (hsemi : semi.kind = .semi) (rest : List Token) :
    Decides (e.levels ≤ n) ((Readers.of stop n).expr.run (us ++ semi :: rest))
      fun x => x.1.bare = e.bare ∧ skipSemi x.2 = rest := by
  obtain ⟨_, _, _⟩ := semi
  cases hsemi
  refine (e.isRead_isHead.1 n us _ hus rfl).mono ?_
  rintro ⟨e', _⟩ ⟨hbare, rfl⟩
  exact ⟨hbare, rfl⟩

theorem readStmt_takes {s : Stmt} {n : Nat} {ts : List Token} (hts : ts.map Token.kind = s.render)
    (rest : List Token) :
    Decides (s.body.levels ≤ n) (readStmt stop (Readers.of stop n).expr (ts ++ rest))
      fun x => x.1.bare = s.bare ∧ skipSemi x.2 = rest := by
  cases s with
  | bind pos name value =>
    obtain ⟨⟨_, _, _⟩, ts₁, rfl, ⟨⟩, hts₁⟩ := List.map_eq_cons_iff.1 hts
    obtain ⟨⟨_, _, _⟩, ts₂, rfl, ⟨⟩, hts₂⟩ := List.map_eq_cons_iff.1 hts₁
    obtain ⟨⟨_, _, _⟩, ts₃, rfl, ⟨⟩, hts₃⟩ := List.map_eq_cons_iff.1 hts₂
    obtain ⟨us, vs, rfl, hus, hvs⟩ := List.map_eq_append_iff.1 hts₃
    obtain ⟨semi, vs, rfl, hsemi, hnil⟩ := List.map_eq_cons_iff.1 hvs
    obtain rfl := List.map_eq_nil_iff.1 hnil
    rw [show ∀ a b c : Token, a :: b :: c :: (us ++ [semi]) ++ rest =
      a :: b :: c :: (us ++ semi :: rest) by simp]
    refine Decides.map ((readBody_takes hus hsemi rest).mono ?_)
    rintro ⟨e', _⟩ ⟨hbare, hskip⟩
    exact ⟨by rw [Stmt.bare, Stmt.bare, hbare], hskip⟩
  | expr e =>
    obtain ⟨us, vs, rfl, hus, hvs⟩ := List.map_eq_append_iff.1 hts
    obtain ⟨semi, vs, rfl, hsemi, hnil⟩ := List.map_eq_cons_iff.1 hvs
    obtain rfl := List.map_eq_nil_iff.1 hnil
    rw [List.append_assoc, List.singleton_append, readStmt_expr]
    · refine Decides.map ((readBody_takes hus hsemi rest).mono ?_)
      rintro ⟨e', _⟩ ⟨hbare, hskip⟩
      exact ⟨by rw [Stmt.bare, Stmt.bare, hbare], hskip⟩
    -- What an expression is rendered as does not begin with the word of a binding.
    · obtain ⟨k, ks, hk, ⟨-, hlet⟩, -⟩ := e.render_eq_cons
      rw [nextKind_of_map (hus.trans hk)]
      simpa using hlet

theorem readStmts_takes {p : Program} {n : Nat} {ts : List Token}
    (hts : ts.map Token.kind = p.render) (read : List Stmt) :
    Decides (∀ s ∈ p, s.body.levels ≤ n) (readStmts stop (Readers.of stop n).expr ts read)
      fun q => ∃ more, q = read.reverse ++ more ∧ more.map Stmt.bare = p.map Stmt.bare := by
  induction p generalizing ts read with
  | nil =>
    obtain rfl := List.map_eq_nil_iff.1 hts
    rw [readStmts]
    exact (Decides.ok ⟨[], by simp, rfl⟩).congr (by simp)
  | cons s p ih =>
    obtain ⟨us, vs, rfl, hus, hvs⟩ := List.map_eq_append_iff.1 hts
    obtain ⟨htaken, hrefused⟩ := readStmt_takes hus vs
    by_cases hs : s.body.levels ≤ n
    · obtain ⟨⟨s', rest⟩, hrun, hbare, hskip⟩ := htaken hs
      obtain rfl : skipSemi rest = vs := hskip
      rw [readStmts_cons hrun]
      refine ((ih hvs (s' :: read)).mono ?_).congr (by simp [hs])
      rintro _ ⟨more, rfl, hmore⟩
      exact ⟨s' :: more, by simp, by simp [hbare, hmore]⟩
    · obtain ⟨pos, hrun⟩ := hrefused hs
      have hne : us ++ vs ≠ [] := by
        rintro hnil
        obtain ⟨rfl, -⟩ := List.append_eq_nil_iff.1 hnil
        cases s <;> simp [Stmt.render] at hus
      rw [readStmts_error hne hrun]
      exact Decides.tooDeep.congr (by simp [hs])

end

theorem Program.ofTokens_decides {p : Program} {ts : Tokens} (h : ts.list.map Token.kind = p.render) :
    Decides (∀ s ∈ p, s.body.levels ≤ maxDepth) (Program.ofTokens ts) fun q => q.bare = p.bare := by
  refine (readStmts_takes h []).mono ?_
  rintro q ⟨_, rfl, hbare⟩
  exact hbare

/-- The tokens that a program is rendered as make up that program again, up to places, if no statement
takes more than the levels there are; if one does, then they are refused for their nesting. -/
theorem Program.ofTokens_render {p : Program} {ts : Tokens} (h : ts.list.map Token.kind = p.render) :
    ((∀ s ∈ p, s.body.levels ≤ maxDepth) → ∃ q, Program.ofTokens ts = .ok q ∧ q.bare = p.bare) ∧
      (¬ (∀ s ∈ p, s.body.levels ≤ maxDepth) → ∃ pos, Program.ofTokens ts = .error ⟨.tooDeep, pos⟩) :=
  Program.ofTokens_decides h

/-- `let f = (x) => -x.y; (-f)(null)[[]];` -/
def signed : Program :=
  [.bind default "f"
    (.lambda default (some "x") (.neg default (.member default (.ident default "x") "y"))),
   .expr (.index default (.call default (.neg default (.ident default "f")) [.null default])
    (.array default []))]

theorem Program.ofTokens_render_signed :
    (∀ s ∈ signed, s.body.levels ≤ maxDepth) ∧
      ∃ q, Program.ofTokens ⟨signed.render.map (⟨·, default, default⟩), default⟩ = .ok q ∧
        q.bare = signed.bare := by
  have hlevels : ∀ s ∈ signed, s.body.levels ≤ maxDepth := by decide +kernel
  exact ⟨hlevels, (Program.ofTokens_render rfl).1 hlevels⟩

end Rulebook
