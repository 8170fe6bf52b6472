import Rulebook.Source.Parser

/-!
# The grammar of programs

Each kind of phrase says of which tokens a tree is made, places included. The phrases in an expression
are given in terms of the expressions inside, so that what a reader takes can be said of one level at a
time: a reader reads phrases if what it takes is one and what it gives is its tree.
-/

namespace Rulebook

/-- Tokens, and what they are as one phrase. -/
abbrev Phrase (α : Type) := List Token → α → Prop

namespace Grammar

/-! ## Lists -/

section
variable {α : Type} (Item : Phrase α)

/-- `item (',' item)*` -/
inductive Sequence : Phrase (List α)
  | one {ts : List Token} {a : α} (h : Item ts a) : Sequence ts [a]
  | cons {ts us : List Token} {comma : Token} {a : α} {as : List α} (h : Item ts a)
      (hcomma : comma.kind = .comma) (hrest : Sequence us as) :
      Sequence (ts ++ comma :: us) (a :: as)

/-- `(item (',' item)* ','?)?` -/
inductive Items : Phrase (List α)
  | none : Items [] []
  | some {ts : List Token} {as : List α} (h : Sequence Item ts as) : Items ts as
  | trailing {ts : List Token} {comma : Token} {as : List α} (h : Sequence Item ts as)
      (hcomma : comma.kind = .comma) : Items (ts ++ [comma]) as

end

/-! ## Expressions -/

section
variable (Inner : Phrase Expr)

/-- `key ':' expr`, where `key := IDENT | STRING` -/
inductive Entry : Phrase (String × Expr)
  | mk {key colon : Token} {name : String} {ts : List Token} {e : Expr}
      (hkey : key.kind = .ident name ∨ key.kind = .string name) (hcolon : colon.kind = .colon)
      (h : Inner ts e) : Entry (key :: colon :: ts) (name, e)

/-- `IDENT?` -/
inductive Param : Phrase (Option String)
  | none : Param [] none
  | some {t : Token} {name : String} (ht : t.kind = .ident name) : Param [t] (some name)

/-- `NUMBER | STRING | REGEX | 'true' | 'false' | 'null' | IDENT | array | object | lambda | '(' expr ')'`,
where `array := '[' (expr (',' expr)* ','?)? ']'`,
`object := '{' (key ':' expr (',' key ':' expr)* ','?)? '}'` and `lambda := '(' IDENT? ')' '=>' expr` -/
inductive Primary : Phrase Expr
  | number {t : Token} {n : Numeral} (ht : t.kind = .number n) : Primary [t] (.number t.pos n)
  | string {t : Token} {s : String} (ht : t.kind = .string s) : Primary [t] (.string t.pos s)
  | regex {t : Token} {pattern flags : String} (ht : t.kind = .regex pattern flags) :
      Primary [t] (.regex t.pos pattern flags)
  | trueWord {t : Token} (ht : t.kind = .trueWord) : Primary [t] (.bool t.pos true)
  | falseWord {t : Token} (ht : t.kind = .falseWord) : Primary [t] (.bool t.pos false)
  | nullWord {t : Token} (ht : t.kind = .nullWord) : Primary [t] (.null t.pos)
  | ident {t : Token} {name : String} (ht : t.kind = .ident name) : Primary [t] (.ident t.pos name)
  | array {opening closing : Token} {ts : List Token} {es : List Expr}
      (hopening : opening.kind = .lbracket) (h : Items Inner ts es)
      (hclosing : closing.kind = .rbracket) :
      Primary (opening :: ts ++ [closing]) (.array opening.pos es)
  | object {opening closing : Token} {ts : List Token} {es : List (String × Expr)}
      (hopening : opening.kind = .lbrace) (h : Items (Entry Inner) ts es)
      (hclosing : closing.kind = .rbrace) :
      Primary (opening :: ts ++ [closing]) (.object opening.pos es)
  | lambda {opening closing arrow : Token} {ts us : List Token} {param : Option String} {body : Expr}
      (hopening : opening.kind = .lparen) (hparam : Param ts param)
      (hclosing : closing.kind = .rparen) (harrow : arrow.kind = .arrow) (h : Inner us body) :
      Primary (opening :: ts ++ closing :: arrow :: us) (.lambda opening.pos param body)
  | parens {opening closing : Token} {ts : List Token} {e : Expr}
      (hopening : opening.kind = .lparen) (h : Inner ts e) (hclosing : closing.kind = .rparen) :
      Primary (opening :: ts ++ [closing]) e

/-- `'(' args? ')' | '.' IDENT | '[' expr ']'`, where `args := expr (',' expr)* ','?`: what it makes of
the expression before it. -/
inductive Link : Phrase (Expr → Expr)
  | call {opening closing : Token} {ts : List Token} {args : List Expr}
      (hopening : opening.kind = .lparen) (h : Items Inner ts args)
      (hclosing : closing.kind = .rparen) :
      Link (opening :: ts ++ [closing]) fun e => .call opening.pos e args
  | member {dot name : Token} {s : String} (hdot : dot.kind = .dot) (hname : name.kind = .ident s) :
      Link [dot, name] fun e => .member dot.pos e s
  | index {opening closing : Token} {ts : List Token} {i : Expr}
      (hopening : opening.kind = .lbracket) (h : Inner ts i)
      (hclosing : closing.kind = .rbracket) :
      Link (opening :: ts ++ [closing]) fun e => .index opening.pos e i

/-- `link*`, each applied to all before it. -/
inductive Links : Phrase (Expr → Expr)
  | nil : Links [] id
  | cons {ts us : List Token} {f g : Expr → Expr} (h : Link Inner ts f) (hrest : Links us g) :
      Links (ts ++ us) (g ∘ f)

end

/-- `expr := unary`, where `unary := '-' unary | primary link*` -/
inductive Expression : Phrase Expr
  | neg {minus : Token} {ts : List Token} {e : Expr} (hminus : minus.kind = .minus)
      (h : Expression ts e) : Expression (minus :: ts) (.neg minus.pos e)
  | chain {ts us : List Token} {e : Expr} {f : Expr → Expr} (h : Primary Expression ts e)
      (hlinks : Links Expression us f) : Expression (ts ++ us) (f e)

/-! ## Statements -/

section
variable (Inner : Phrase Expr)

/-- `'let' IDENT '=' expr | expr` -/
inductive Statement : Phrase Stmt
  | bind {word name eq : Token} {s : String} {ts : List Token} {e : Expr}
      (hword : word.kind = .letWord) (hname : name.kind = .ident s) (heq : eq.kind = .eq)
      (h : Inner ts e) : Statement (word :: name :: eq :: ts) (.bind word.pos s e)
  | expr {ts : List Token} {e : Expr} (h : Inner ts e) : Statement ts (.expr e)

/-- `(statement ';'?)*` -/
inductive Statements : Phrase Program
  | nil : Statements [] []
  | bare {ts us : List Token} {s : Stmt} {p : Program} (h : Statement Inner ts s)
      (hrest : Statements us p) : Statements (ts ++ us) (s :: p)
  | closed {ts us : List Token} {semi : Token} {s : Stmt} {p : Program} (h : Statement Inner ts s)
      (hsemi : semi.kind = .semi) (hrest : Statements us p) :
      Statements (ts ++ semi :: us) (s :: p)

end

theorem Items.cons {α : Type} {Item : Phrase α} {ts us : List Token} {comma : Token} {a : α}
    {as : List α} (h : Item ts a) (hcomma : comma.kind = .comma) (hrest : Items Item us as) :
    Items Item (ts ++ comma :: us) (a :: as) := by
  cases hrest with
  | none => exact .trailing (.one h) hcomma
  | some hrest => exact .some (.cons h hcomma hrest)
  | trailing hrest hlast =>
    rw [← List.cons_append, ← List.append_assoc]
    exact .trailing (.cons h hcomma hrest) hlast

end Grammar

open Grammar

/-- What is taken is a phrase, and what is given is its tree. -/
def Reads {α : Type} (P : Phrase α) (run : List Token → Parse α) : Prop :=
  ∀ {ts : List Token} {a : α} {rest : List Token}, run ts = .ok (a, rest) →
    ∃ used, ts = used ++ rest ∧ P used a

section
variable {stop : Position}

/-! ## Single tokens -/

theorem of_expect_ok {kind : TokenKind} {place : Place} {ts rest : List Token} {u : Unit}
    (h : expect stop kind place ts = .ok (u, rest)) : ∃ t, ts = t :: rest ∧ t.kind = kind := by
  unfold expect at h
  split at h
  · split at h
    · cases h
      exact ⟨_, rfl, ‹_›⟩
    · cases h
  · cases h

theorem of_expectIdent_ok {place : Place} {ts rest : List Token} {name : String}
    (h : expectIdent stop place ts = .ok (name, rest)) :
    ∃ t, ts = t :: rest ∧ t.kind = .ident name := by
  unfold expectIdent at h
  split at h
  · cases h
    exact ⟨_, rfl, rfl⟩
  · cases h

theorem of_readKey_ok {ts rest : List Token} {key : String}
    (h : readKey stop ts = .ok (key, rest)) :
    ∃ t, ts = t :: rest ∧ (t.kind = .ident key ∨ t.kind = .string key) := by
  unfold readKey at h
  split at h
  · cases h
    exact ⟨_, rfl, .inl rfl⟩
  · cases h
    exact ⟨_, rfl, .inr rfl⟩
  · cases h

/-! ## Lists -/

theorem readItems_reads {α : Type} {P : Phrase α} {item : Reader α} (hitem : Reads P item.run)
    {close : TokenKind} {place : Place} {ts rest : List Token} {read items : List α}
    (h : readItems stop close place item ts read = .ok (items, rest)) :
    ∃ used closing more, ts = used ++ closing :: rest ∧ closing.kind = close ∧
      items = read.reverse ++ more ∧ Items P used more := by
  fun_induction readItems stop close place item ts read with
  | case1 ts read hclose =>
    cases h
    obtain _ | ⟨t, ts⟩ := ts
    · cases hclose
    · exact ⟨[], t, [], rfl, Option.some.inj hclose, by simp, .none⟩
  | case2 => cases h
  | case3 ts read _ a pos after rest _ hrun ih =>
    obtain ⟨used, rfl, ha⟩ := hitem hrun
    obtain ⟨more, closing, as, rfl, hclosing, rfl, has⟩ := ih h
    exact ⟨used ++ ⟨.comma, pos, after⟩ :: more, closing, a :: as, by simp, hclosing, by simp,
      .cons ha rfl has⟩
  | case4 => cases h
  | case5 ts read _ a mid hrun _ _ _ hexpect =>
    cases h
    obtain ⟨used, rfl, ha⟩ := hitem hrun
    obtain ⟨closing, rfl, hclosing⟩ := of_expect_ok hexpect
    exact ⟨used, closing, [a], rfl, hclosing, by simp, .some (.one ha)⟩

variable {P : Phrase Expr}

theorem readEntry_reads {value : Reader Expr} (hvalue : Reads P value.run) :
    Reads (Entry P) (readEntry stop value).run := by
  intro ts a rest h
  unfold readEntry at h
  dsimp only at h
  split at h
  · cases h
  rename_i key mid hkey
  obtain ⟨t, rfl, ht⟩ := of_readKey_ok hkey
  split at h
  · cases h
  rename_i hexpect
  obtain ⟨colon, rfl, hcolon⟩ := of_expect_ok hexpect
  obtain ⟨⟨e, after⟩, he, ⟨⟩⟩ := Except.map_eq_ok.1 h
  obtain ⟨used, rfl, hused⟩ := hvalue he
  exact ⟨t :: colon :: used, rfl, .mk ht hcolon hused⟩

/-! ## Expressions -/

theorem readPrimary_reads {inner : Reader Expr} (hinner : Reads P inner.run) :
    Reads (Primary P) (readPrimary stop inner) := by
  intro ts e rest h
  unfold readPrimary at h
  split at h
  case h_1 p q p' q' p'' q'' _ =>
    obtain ⟨⟨body, mid⟩, hbody, ⟨⟩⟩ := Except.map_eq_ok.1 h
    obtain ⟨used, rfl, hused⟩ := hinner hbody
    exact ⟨⟨.lparen, p, q⟩ :: ⟨.rparen, p', q'⟩ :: ⟨.arrow, p'', q''⟩ :: used, rfl,
      .lambda rfl .none rfl rfl hused⟩
  case h_2 p q name p' q' p'' q'' p₃ q₃ _ =>
    obtain ⟨⟨body, mid⟩, hbody, ⟨⟩⟩ := Except.map_eq_ok.1 h
    obtain ⟨used, rfl, hused⟩ := hinner hbody
    exact ⟨⟨.lparen, p, q⟩ :: ⟨.ident name, p', q'⟩ :: ⟨.rparen, p'', q''⟩ :: ⟨.arrow, p₃, q₃⟩ :: used,
      rfl, .lambda rfl (.some rfl) rfl rfl hused⟩
  case h_10 p q _ =>
    obtain ⟨⟨es, mid⟩, hes, ⟨⟩⟩ := Except.map_eq_ok.1 h
    obtain ⟨used, closing, _, rfl, hclosing, rfl, hused⟩ := readItems_reads hinner hes
    exact ⟨⟨.lbracket, p, q⟩ :: used ++ [closing], by simp, .array rfl hused hclosing⟩
  case h_11 p q _ =>
    obtain ⟨⟨es, mid⟩, hes, ⟨⟩⟩ := Except.map_eq_ok.1 h
    obtain ⟨used, closing, _, rfl, hclosing, rfl, hused⟩ :=
      readItems_reads (readEntry_reads hinner) hes
    exact ⟨⟨.lbrace, p, q⟩ :: used ++ [closing], by simp, .object rfl hused hclosing⟩
  case h_12 p q _ _ _ =>
    split at h
    · cases h
    rename_i hrun
    obtain ⟨used, rfl, hused⟩ := hinner hrun
    obtain ⟨⟨⟩, hexpect, ⟨⟩⟩ := Except.map_eq_ok.1 h
    obtain ⟨closing, rfl, hclosing⟩ := of_expect_ok hexpect
    exact ⟨⟨.lparen, p, q⟩ :: used ++ [closing], by simp, .parens rfl hused hclosing⟩
  case h_13 => cases h
  case h_3 => cases h; exact ⟨[_], rfl, .number rfl⟩
  case h_4 => cases h; exact ⟨[_], rfl, .string rfl⟩
  case h_5 => cases h; exact ⟨[_], rfl, .regex rfl⟩
  case h_6 => cases h; exact ⟨[_], rfl, .trueWord rfl⟩
  case h_7 => cases h; exact ⟨[_], rfl, .falseWord rfl⟩
  case h_8 => cases h; exact ⟨[_], rfl, .nullWord rfl⟩
  case h_9 => cases h; exact ⟨[_], rfl, .ident rfl⟩

theorem startsLink_eq_false {ts : List Token} (hcall : ∀ p q us, ts ≠ ⟨.lparen, p, q⟩ :: us)
    (hmember : ∀ p q us, ts ≠ ⟨.dot, p, q⟩ :: us) (hindex : ∀ p q us, ts ≠ ⟨.lbracket, p, q⟩ :: us) :
    startsLink ts = false := by
  obtain _ | ⟨⟨kind, p, q⟩, us⟩ := ts
  · rfl
  · cases kind with
    | lparen => exact absurd rfl (hcall p q us)
    | dot => exact absurd rfl (hmember p q us)
    | lbracket => exact absurd rfl (hindex p q us)
    | _ => rfl

/-- No link follows an expression, or there is a first one, and then those of one level less. -/
theorem of_links_above_ok {below : Readers} (hbelow : Reads P below.expr.run) {e e' : Expr}
    {ts rest : List Token} (h : (below.above stop).links.run e ts = .ok (e', rest)) :
    (e' = e ∧ ts = rest ∧ startsLink rest = false) ∨
      ∃ used f mid, ts = used ++ mid ∧ Link P used f ∧ below.links.run (f e) mid = .ok (e', rest) := by
  unfold Readers.above at h
  dsimp only at h
  split at h
  case h_1 p q _ =>
    right
    split at h
    · cases h
    rename_i hargs
    obtain ⟨used, closing, _, rfl, hclosing, rfl, hused⟩ := readItems_reads hbelow hargs
    exact ⟨⟨.lparen, p, q⟩ :: used ++ [closing], _, _, by simp, .call rfl hused hclosing, h⟩
  case h_2 p q _ =>
    right
    split at h
    · cases h
    rename_i hname
    obtain ⟨t, rfl, ht⟩ := of_expectIdent_ok hname
    exact ⟨[⟨.dot, p, q⟩, t], _, _, rfl, .member rfl ht, h⟩
  case h_3 p q _ =>
    right
    split at h
    · cases h
    rename_i hi
    obtain ⟨used, rfl, hused⟩ := hbelow hi
    split at h
    · cases h
    rename_i hexpect
    obtain ⟨closing, rfl, hclosing⟩ := of_expect_ok hexpect
    exact ⟨⟨.lbracket, p, q⟩ :: used ++ [closing], _, _, by simp, .index rfl hused hclosing, h⟩
  case h_4 hcall hmember hindex =>
    cases h
    exact .inl ⟨rfl, rfl, startsLink_eq_false hcall hmember hindex⟩

/-- An expression has a sign in front, or is a primary one with links after it. -/
theorem of_expr_above_ok {below : Readers} {e : Expr} {ts rest : List Token}
    (h : (below.above stop).expr.run ts = .ok (e, rest)) :
    (∃ minus us e', ts = minus :: us ∧ minus.kind = .minus ∧ below.expr.run us = .ok (e', rest) ∧
      e = .neg minus.pos e') ∨
    ∃ e' mid, readPrimary stop below.expr ts = .ok (e', mid) ∧
      below.links.run e' mid = .ok (e, rest) := by
  unfold Readers.above at h
  dsimp only at h
  split at h
  · obtain ⟨⟨e', after⟩, he, ⟨⟩⟩ := Except.map_eq_ok.1 h
    exact .inl ⟨_, _, e', rfl, rfl, he, rfl⟩
  · split at h
    · cases h
    rename_i hprimary
    exact .inr ⟨_, _, hprimary, h⟩

theorem of_links_ground_ok {e e' : Expr} {ts rest : List Token}
    (h : (Readers.ground stop).links.run e ts = .ok (e', rest)) :
    e' = e ∧ ts = rest ∧ startsLink rest = false := by
  unfold Readers.ground at h
  dsimp only at h
  split at h
  · cases h
  · rename_i hlink
    cases h
    exact ⟨rfl, rfl, by simpa using hlink⟩

theorem readers_read (n : Nat) :
    Reads Expression (Readers.of stop n).expr.run ∧
      ∀ e, Reads (fun ts e' => ∃ f, Links Expression ts f ∧ e' = f e)
        ((Readers.of stop n).links.run e) := by
  induction n with
  | zero =>
    refine ⟨?_, ?_⟩
    · rintro ts e rest ⟨⟩
    · intro e ts e' rest h
      obtain ⟨rfl, rfl, -⟩ := of_links_ground_ok h
      exact ⟨[], rfl, id, .nil, rfl⟩
  | succ n ih =>
    obtain ⟨hexpr, hlinks⟩ := ih
    refine ⟨?_, ?_⟩
    · intro ts e rest h
      obtain ⟨minus, us, e', rfl, hminus, hrun, rfl⟩ | ⟨e', mid, hprimary, hrun⟩ :=
        of_expr_above_ok h
      · obtain ⟨used, rfl, hused⟩ := hexpr hrun
        exact ⟨minus :: used, rfl, .neg hminus hused⟩
      · obtain ⟨used, rfl, hused⟩ := readPrimary_reads hexpr hprimary
        obtain ⟨more, rfl, f, hmore, rfl⟩ := hlinks e' hrun
        exact ⟨used ++ more, by simp, .chain hused hmore⟩
    · intro e ts e' rest h
      obtain ⟨rfl, rfl, -⟩ | ⟨used, f, mid, rfl, hused, h⟩ := of_links_above_ok hexpr h
      · exact ⟨[], rfl, id, .nil, rfl⟩
      · obtain ⟨more, rfl, g, hmore, rfl⟩ := hlinks (f e) h
        exact ⟨used ++ more, by simp, g ∘ f, .cons hused hmore, rfl⟩

/-! ## Programs -/

theorem readStmt_reads {expr : Reader Expr} (hexpr : Reads P expr.run) :
    Reads (Statement P) (readStmt stop expr) := by
  intro ts s rest h
  unfold readStmt at h
  split at h
  case h_1 p q _ =>
    split at h
    · cases h
    rename_i hname
    obtain ⟨name, rfl, hident⟩ := of_expectIdent_ok hname
    split at h
    · cases h
    rename_i hexpect
    obtain ⟨eq, rfl, heq⟩ := of_expect_ok hexpect
    obtain ⟨⟨e, mid⟩, he, ⟨⟩⟩ := Except.map_eq_ok.1 h
    obtain ⟨used, rfl, hused⟩ := hexpr he
    exact ⟨⟨.letWord, p, q⟩ :: name :: eq :: used, rfl, .bind rfl hident heq hused⟩
  case h_2 =>
    obtain ⟨⟨e, mid⟩, he, ⟨⟩⟩ := Except.map_eq_ok.1 h
    obtain ⟨used, rfl, hused⟩ := hexpr he
    exact ⟨used, rfl, .expr hused⟩

theorem skipSemi_cases (ts : List Token) :
    skipSemi ts = ts ∨ ∃ semi, semi.kind = .semi ∧ ts = semi :: skipSemi ts := by
  unfold skipSemi
  split
  · exact .inr ⟨_, rfl, rfl⟩
  · exact .inl rfl

theorem readStmts_reads {expr : Reader Expr} (hexpr : Reads P expr.run) {ts : List Token}
    {read : List Stmt} {p : Program} (h : readStmts stop expr ts read = .ok p) :
    ∃ more, p = read.reverse ++ more ∧ Statements P ts more := by
  fun_induction readStmts stop expr ts read with
  | case1 read =>
    cases h
    exact ⟨[], by simp, .nil⟩
  | case2 => cases h
  | case3 read t ts s rest hstmt ih =>
    obtain ⟨used, hts, hs⟩ := readStmt_reads hexpr hstmt
    obtain ⟨more, rfl, hmore⟩ := ih h
    refine ⟨s :: more, by simp, ?_⟩
    rw [hts]
    obtain hsame | ⟨semi, hsemi, hrest⟩ := skipSemi_cases rest
    · rw [hsame] at hmore
      exact .bare hs hmore
    · rw [hrest]
      exact .closed hs hsemi hmore

end

/-- A program that is read is one of the grammar: its tokens from the first to the last make up its
statements as they stand. -/
theorem Program.ofTokens_derives {ts : Tokens} {p : Program} (h : Program.ofTokens ts = .ok p) :
    Statements Expression ts.list p := by
  obtain ⟨more, rfl, hmore⟩ := readStmts_reads (readers_read maxDepth).1 h
  exact hmore

/-- `let k = \x7b'a': 1, a: (x) => -x[0],\x7d; k.a(2)`, with every token at a place of its own. -/
def lookups : Tokens :=
  ⟨[.letWord, .ident "k", .eq, .lbrace, .string "a", .colon, .number ⟨['1'], [], none⟩, .comma,
    .ident "a", .colon, .lparen, .ident "x", .rparen, .arrow, .minus, .ident "x", .lbracket,
    .number ⟨['0'], [], none⟩, .rbracket, .comma, .rbrace, .semi, .ident "k", .dot, .ident "a",
    .lparen, .number ⟨['2'], [], none⟩, .rparen].zipIdx.map fun (kind, i) =>
      ⟨kind, ⟨i, 1, i + 1⟩, ⟨i + 1, 1, i + 2⟩⟩, ⟨28, 1, 29⟩⟩

def lookupsProgram : Program :=
  [.bind ⟨0, 1, 1⟩ "k" (.object ⟨3, 1, 4⟩
    [("a", .number ⟨6, 1, 7⟩ ⟨['1'], [], none⟩),
     ("a", .lambda ⟨10, 1, 11⟩ (some "x") (.neg ⟨14, 1, 15⟩
      (.index ⟨16, 1, 17⟩ (.ident ⟨15, 1, 16⟩ "x") (.number ⟨17, 1, 18⟩ ⟨['0'], [], none⟩))))]),
   .expr (.call ⟨25, 1, 26⟩ (.member ⟨23, 1, 24⟩ (.ident ⟨22, 1, 23⟩ "k") "a")
    [.number ⟨26, 1, 27⟩ ⟨['2'], [], none⟩])]

theorem Program.ofTokens_lookups : Program.ofTokens lookups = .ok lookupsProgram := by
  with_unfolding_all rfl

theorem Program.ofTokens_derives_lookups :
    Program.ofTokens lookups = .ok lookupsProgram ∧ Statements Expression lookups.list lookupsProgram :=
  ⟨Program.ofTokens_lookups, Program.ofTokens_derives Program.ofTokens_lookups⟩

end Rulebook
