import Rulebook.Source.Syntax
import Rulebook.Source.Lexer

/-!
# Reading programs

A program is read from its tokens by one function per construct. `Readers` holds the readers of nested
expressions and of the links after one; the readers of a level use those of the level below, and there
are `maxDepth` levels, so an expression takes one level and each link of a chain one more. A reader
leaves fewer tokens than it got, by which the loops over lists end.
-/

namespace Rulebook

/-- How deep expressions may nest. -/
def maxDepth : Nat := 128

/-- What was read, and the tokens that are left. -/
abbrev Parse (α : Type) := Except SyntaxError (α × List Token)

theorem Except.map_eq_ok {ε α β : Type} {f : α → β} {x : Except ε α} {b : β} :
    x.map f = .ok b ↔ ∃ a, x = .ok a ∧ f a = b := by
  cases x <;> simp [Except.map]

/-- A reader that takes at least one token. -/
structure Reader (α : Type) where
  run : List Token → Parse α
  shrinks : ∀ {ts rest : List Token} {a : α}, run ts = .ok (a, rest) → rest.length < ts.length

/-- A reader of what follows an expression, which may be nothing. -/
structure LinkReader where
  run : Expr → List Token → Parse Expr
  keeps : ∀ {e e' : Expr} {ts rest : List Token}, run e ts = .ok (e', rest) → rest.length ≤ ts.length

section
variable (stop : Position)

/-- The place of the next token, or the end of the text. -/
def nextPos : List Token → Position
  | t :: _ => t.pos
  | [] => stop

def nextKind (ts : List Token) : Option TokenKind := ts.head?.map (·.kind)

def failAt {α : Type} (fault : Option TokenKind → SyntaxFault) (ts : List Token) : Parse α :=
  .error ⟨fault (nextKind ts), nextPos stop ts⟩

/-- Passes a token that has to stand here. -/
def expect (kind : TokenKind) (place : Place) : List Token → Parse Unit
  | t :: ts => if t.kind = kind then .ok ((), ts) else failAt stop (.expected kind place) (t :: ts)
  | [] => failAt stop (.expected kind place) []

def expectIdent (place : Place) : List Token → Parse String
  | ⟨.ident name, _, _⟩ :: ts => .ok (name, ts)
  | ts => failAt stop (.expectedIdent place) ts

/-- The key of an entry, a word or a string. -/
def readKey : List Token → Parse String
  | ⟨.ident name, _, _⟩ :: ts => .ok (name, ts)
  | ⟨.string s, _, _⟩ :: ts => .ok (s, ts)
  | ts => failAt stop .expectedKey ts

variable {stop}

theorem expect_shrinks {kind : TokenKind} {place : Place} {ts rest : List Token} {u : Unit}
    (h : expect stop kind place ts = .ok (u, rest)) : rest.length < ts.length := by
  unfold expect at h
  split at h
  · split at h
    · cases h; simp
    · cases h
  · cases h

theorem expectIdent_shrinks {place : Place} {ts rest : List Token} {name : String}
    (h : expectIdent stop place ts = .ok (name, rest)) : rest.length < ts.length := by
  unfold expectIdent at h
  split at h
  · cases h; simp
  · cases h

theorem readKey_shrinks {ts rest : List Token} {key : String}
    (h : readKey stop ts = .ok (key, rest)) : rest.length < ts.length := by
  unfold readKey at h
  split at h
  · cases h; simp
  · cases h; simp
  · cases h

/-! ## Lists -/

variable (stop)

/-- Items up to `close`, separated by commas, the last of which may stand before `close`; `read` are
those before, last first. -/
def readItems {α : Type} (close : TokenKind) (place : Place) (item : Reader α) (ts : List Token)
    (read : List α) : Parse (List α) :=
  if nextKind ts = some close then .ok (read.reverse, ts.tail)
  else
    match _h : item.run ts with
    | .error e => .error e
    | .ok (a, rest) =>
      match rest with
      | ⟨.comma, _, _⟩ :: rest => readItems close place item rest (a :: read)
      | rest =>
        match expect stop close place rest with
        | .error e => .error e
        | .ok (_, rest) => .ok ((a :: read).reverse, rest)
termination_by ts.length
decreasing_by
  have := item.shrinks _h
  simp only [List.length_cons] at this
  omega

variable {stop}

theorem readItems_shrinks {α : Type} {close : TokenKind} {place : Place} {item : Reader α}
    {ts rest : List Token} {read items : List α}
    (h : readItems stop close place item ts read = .ok (items, rest)) :
    rest.length < ts.length := by
  fun_induction readItems stop close place item ts read with
  | case1 ts read hc =>
    cases h
    cases ts with
    | nil => simp [nextKind] at hc
    | cons => simp
  | case2 => cases h
  | case3 ts read _ a _ _ _ _ ha ih =>
    have := item.shrinks ha
    have := ih h
    simp only [List.length_cons] at *
    omega
  | case4 => cases h
  | case5 ts read _ a mid ha _ _ _ hx =>
    cases h
    have := item.shrinks ha
    have := expect_shrinks hx
    omega

variable (stop)

/-- One `key: value` of an object. -/
def readEntry (value : Reader Expr) : Reader (String × Expr) where
  run ts :=
    match readKey stop ts with
    | .error e => .error e
    | .ok (key, ts) =>
      match expect stop .colon .objectKey ts with
      | .error e => .error e
      | .ok (_, ts) => (value.run ts).map fun (e, ts) => ((key, e), ts)
  shrinks {ts rest a} h := by
    split at h
    · cases h
    · split at h
      · cases h
      · next hk _ _ _ hc =>
        have := readKey_shrinks hk
        have := expect_shrinks hc
        obtain ⟨⟨e, r⟩, he, hr⟩ := Except.map_eq_ok.1 h
        cases hr
        have := value.shrinks he
        omega

/-! ## Expressions -/

/-- The readers of expressions and of links that may take a number of levels. -/
structure Readers where
  expr : Reader Expr
  links : LinkReader

/-- An expression without a sign in front and without links after it; `inner` reads the expressions
in it. -/
def readPrimary (inner : Reader Expr) (ts : List Token) : Parse Expr :=
  match ts with
  | ⟨.lparen, pos, _⟩ :: ⟨.rparen, _, _⟩ :: ⟨.arrow, _, _⟩ :: rest =>
    (inner.run rest).map fun (e, rest) => (.lambda pos none e, rest)
  | ⟨.lparen, pos, _⟩ :: ⟨.ident param, _, _⟩ :: ⟨.rparen, _, _⟩ :: ⟨.arrow, _, _⟩ :: rest =>
    (inner.run rest).map fun (e, rest) => (.lambda pos (some param) e, rest)
  | ⟨.number n, pos, _⟩ :: rest => .ok (.number pos n, rest)
  | ⟨.string s, pos, _⟩ :: rest => .ok (.string pos s, rest)
  | ⟨.regex pattern flags, pos, _⟩ :: rest => .ok (.regex pos pattern flags, rest)
  | ⟨.trueWord, pos, _⟩ :: rest => .ok (.bool pos true, rest)
  | ⟨.falseWord, pos, _⟩ :: rest => .ok (.bool pos false, rest)
  | ⟨.nullWord, pos, _⟩ :: rest => .ok (.null pos, rest)
  | ⟨.ident name, pos, _⟩ :: rest => .ok (.ident pos name, rest)
  | ⟨.lbracket, pos, _⟩ :: rest =>
    (readItems stop .rbracket .array inner rest []).map fun (es, rest) => (.array pos es, rest)
  | ⟨.lbrace, pos, _⟩ :: rest =>
    (readItems stop .rbrace .object (readEntry stop inner) rest []).map fun (es, rest) =>
      (.object pos es, rest)
  | ⟨.lparen, _, _⟩ :: rest =>
    match inner.run rest with
    | .error e => .error e
    | .ok (e, rest) => (expect stop .rparen .parenthesis rest).map fun (_, rest) => (e, rest)
  | ts => failAt stop .unexpected ts

theorem readPrimary_shrinks {inner : Reader Expr} {ts rest : List Token} {e : Expr}
    (h : readPrimary stop inner ts = .ok (e, rest)) : rest.length < ts.length := by
  unfold readPrimary at h
  split at h
  case h_1 | h_2 =>
    obtain ⟨_, he, hr⟩ := Except.map_eq_ok.1 h
    cases hr
    have := inner.shrinks he
    simp only [List.length_cons]
    omega
  case h_10 | h_11 =>
    obtain ⟨_, he, hr⟩ := Except.map_eq_ok.1 h
    cases hr
    have := readItems_shrinks he
    simp only [List.length_cons]
    omega
  case h_12 =>
    split at h
    · cases h
    · next he =>
      obtain ⟨_, hx, hr⟩ := Except.map_eq_ok.1 h
      cases hr
      have := inner.shrinks he
      have := expect_shrinks hx
      simp only [List.length_cons]
      omega
  case h_13 => cases h
  all_goals cases h; simp

/-- The readers that may take one level more than `below`. -/
def Readers.above (below : Readers) : Readers where
  expr.run ts :=
    match ts with
    | ⟨.minus, pos, _⟩ :: rest => (below.expr.run rest).map fun (e, rest) => (.neg pos e, rest)
    | ts =>
      match readPrimary stop below.expr ts with
      | .error e => .error e
      | .ok (e, rest) => below.links.run e rest
  expr.shrinks {ts rest e} h := by
    split at h
    · obtain ⟨_, he, hr⟩ := Except.map_eq_ok.1 h
      cases hr
      have := below.expr.shrinks he
      simp only [List.length_cons]
      omega
    · split at h
      · cases h
      · next hp =>
        have := readPrimary_shrinks stop hp
        have := below.links.keeps h
        omega
  links.run e ts :=
    match ts with
    | ⟨.lparen, pos, _⟩ :: rest =>
      match readItems stop .rparen .argumentList below.expr rest [] with
      | .error e => .error e
      | .ok (args, rest) => below.links.run (.call pos e args) rest
    | ⟨.dot, pos, _⟩ :: rest =>
      match expectIdent stop .afterDot rest with
      | .error e => .error e
      | .ok (name, rest) => below.links.run (.member pos e name) rest
    | ⟨.lbracket, pos, _⟩ :: rest =>
      match below.expr.run rest with
      | .error e => .error e
      | .ok (i, rest) =>
        match expect stop .rbracket .index rest with
        | .error e => .error e
        | .ok (_, rest) => below.links.run (.index pos e i) rest
    | ts => .ok (e, ts)
  links.keeps {e e' ts rest} h := by
    split at h
    · split at h
      · cases h
      · next ha =>
        have := readItems_shrinks ha
        have := below.links.keeps h
        simp only [List.length_cons]
        omega
    · split at h
      · cases h
      · next ha =>
        have := expectIdent_shrinks ha
        have := below.links.keeps h
        simp only [List.length_cons]
        omega
    · split at h
      · cases h
      · next ha =>
        split at h
        · cases h
        · next hx =>
          have := below.expr.shrinks ha
          have := expect_shrinks hx
          have := below.links.keeps h
          simp only [List.length_cons]
          omega
    · cases h; simp

/-- Whether a call, a member or an index follows. -/
def startsLink (ts : List Token) : Bool :=
  match nextKind ts with
  | some .lparen | some .dot | some .lbracket => true
  | _ => false

/-- The readers that may take no level. -/
def Readers.ground : Readers where
  expr.run ts := failAt stop (fun _ => .tooDeep) ts
  expr.shrinks h := by cases h
  links.run e ts := if startsLink ts then failAt stop (fun _ => .tooDeep) ts else .ok (e, ts)
  links.keeps h := by
    split at h
    · cases h
    · cases h; simp

def Readers.of : Nat → Readers
  | 0 => Readers.ground stop
  | n + 1 => (Readers.of n).above stop

/-! ## Statements -/

def readStmt (expr : Reader Expr) (ts : List Token) : Parse Stmt :=
  match ts with
  | ⟨.letWord, pos, _⟩ :: rest =>
    match expectIdent stop .afterLet rest with
    | .error e => .error e
    | .ok (name, rest) =>
      match expect stop .eq .letBinding rest with
      | .error e => .error e
      | .ok (_, rest) => (expr.run rest).map fun (e, rest) => (.bind pos name e, rest)
  | ts => (expr.run ts).map fun (e, rest) => (.expr e, rest)

theorem readStmt_shrinks {expr : Reader Expr} {ts rest : List Token} {s : Stmt}
    (h : readStmt stop expr ts = .ok (s, rest)) : rest.length < ts.length := by
  unfold readStmt at h
  split at h
  · split at h
    · cases h
    · next hn =>
      split at h
      · cases h
      · next hx =>
        obtain ⟨_, he, hr⟩ := Except.map_eq_ok.1 h
        cases hr
        have := expectIdent_shrinks hn
        have := expect_shrinks hx
        have := expr.shrinks he
        simp only [List.length_cons]
        omega
  · obtain ⟨_, he, hr⟩ := Except.map_eq_ok.1 h
    cases hr
    exact expr.shrinks he

/-- A statement may end in a semicolon. -/
def skipSemi : List Token → List Token
  | ⟨.semi, _, _⟩ :: ts => ts
  | ts => ts

theorem length_skipSemi_le (ts : List Token) : (skipSemi ts).length ≤ ts.length := by
  unfold skipSemi
  split <;> simp

/-- The statements of some tokens, after those in `read`, last first. -/
def readStmts (expr : Reader Expr) (ts : List Token) (read : List Stmt) :
    Except SyntaxError Program :=
  match ts with
  | [] => .ok read.reverse
  | t :: ts =>
    match _h : readStmt stop expr (t :: ts) with
    | .error e => .error e
    | .ok (s, rest) => readStmts expr (skipSemi rest) (s :: read)
termination_by ts.length
decreasing_by exact Nat.lt_of_le_of_lt (length_skipSemi_le _) (readStmt_shrinks stop _h)

end

def Program.ofTokens (ts : Tokens) : Except SyntaxError Program :=
  readStmts ts.stop (Readers.of ts.stop maxDepth).expr ts.list []

def Program.ofText (text : String) : Except SyntaxError Program :=
  (Tokens.ofText text).bind Program.ofTokens

end Rulebook
