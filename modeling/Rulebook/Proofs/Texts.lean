import Rulebook.Proofs.Evaluation

/-!
# The texts of lambdas

A value may hold lambdas, and so may a rule, each with a text that is evaluated later. All of these texts
stood in the one that was evaluated before: what holds of a text and of its parts holds of the texts of all
lambdas in what it evaluates to, and of every expression at which the evaluation may stop.
-/

namespace Rulebook

section
variable (T : Expr → Prop)

mutual

/-- A rule whose lambdas, those in their scopes included, have texts as `T` says. -/
def Rule.Written : Rule → Prop
  | .object required optional => rulesWritten required ∧ rulesWritten optional
  | .oneOf options => rulesWritten options
  | .listOf item _ _ => item.Written
  | .not _ inner => inner.Written
  | .contains d => d.Written
  | .str .. | .num .. | .bool | .literal _ | .pattern _ | .host _ => True

def Descriptor.Written : Descriptor → Prop
  | .field _ _ value => ruleWritten? value
  | .file _ _ content => rulesWritten content
  | .directory _ required optional | .jsonFile _ required optional =>
    rulesWritten required ∧ rulesWritten optional
  | .package _ group => group.Written
  | .custom .. => True

def Group.Written : Group → Prop
  | .rules rules => rulesWritten rules
  | .lazy _ lambda => lambda.Written

def Lambda.Written : Lambda → Prop
  | .mk _ body scope => T body ∧ entriesWritten scope

def Value.Written : Value → Prop
  | .array items => valuesWritten items
  | .object entries => entriesWritten entries
  | .rule r => r.Written
  | .lambda l => l.Written
  | .null | .bool _ | .number _ | .string _ | .regex _ | .factory _ | .space _ => True

def rulesWritten : List Rule → Prop
  | [] => True
  | r :: rs => r.Written ∧ rulesWritten rs

def ruleWritten? : Option Rule → Prop
  | none => True
  | some r => r.Written

def valuesWritten : List Value → Prop
  | [] => True
  | v :: vs => v.Written ∧ valuesWritten vs

def entriesWritten : List (String × Value) → Prop
  | [] => True
  | (_, v) :: rest => v.Written ∧ entriesWritten rest

end

variable {T}

/-! ## The lists as all their members -/

theorem rulesWritten_iff {rules : List Rule} : rulesWritten T rules ↔ ∀ r ∈ rules, r.Written T := by
  induction rules with
  | nil => simp [rulesWritten]
  | cons r rs ih => simp [rulesWritten, ih]

theorem ruleWritten?_iff {rule : Option Rule} : ruleWritten? T rule ↔ ∀ r ∈ rule, r.Written T := by
  cases rule <;> simp [ruleWritten?]

theorem valuesWritten_iff {values : List Value} :
    valuesWritten T values ↔ ∀ v ∈ values, v.Written T := by
  induction values with
  | nil => simp [valuesWritten]
  | cons v vs ih => simp [valuesWritten, ih]

theorem entriesWritten_iff {entries : List (String × Value)} :
    entriesWritten T entries ↔ ∀ e ∈ entries, e.2.Written T := by
  induction entries with
  | nil => simp [entriesWritten]
  | cons e rest ih =>
    obtain ⟨k, v⟩ := e
    simp only [entriesWritten, ih, List.forall_mem_cons]

/-! ## Factories -/

theorem inherits_written : Inherits (Value.Written T) (Rule.Written T) where
  items h := valuesWritten_iff.1 h
  entries h := entriesWritten_iff.1 h
  rule h := h
  literal _ := trivial
  pattern _ := trivial
  object hr ho := ⟨rulesWritten_iff.2 hr, rulesWritten_iff.2 ho⟩

theorem Group.Made.written {group : Group} (h : group.Made (Value.Written T) (Rule.Written T)) :
    group.Written T := by
  cases group with
  | rules rs => exact rulesWritten_iff.2 h
  | lazy kind lambda => exact h

theorem Descriptor.Made.written {d : Descriptor} (h : d.Made (Value.Written T) (Rule.Written T)) :
    d.Written T := by
  cases d with
  | field key isOptional value => exact ruleWritten?_iff.2 h
  | file path ext content => exact rulesWritten_iff.2 h
  | directory path required optional | jsonFile path required optional =>
    exact ⟨rulesWritten_iff.2 h.1, rulesWritten_iff.2 h.2⟩
  | package name group => exact Group.Made.written h
  | custom kind params => exact h.elim

theorem Rule.Made.written {r : Rule} (h : r.Made (Value.Written T) (Rule.Written T)) :
    r.Written T := by
  cases r with
  | object required optional => exact ⟨rulesWritten_iff.2 h.1, rulesWritten_iff.2 h.2⟩
  | oneOf options => exact rulesWritten_iff.2 h
  | listOf item min max => exact h
  | not flavor inner => exact h
  | contains d => exact Descriptor.Made.written h
  | host rule => exact h.elim
  | str | num | bool | literal | pattern => trivial

theorem Factory.build_written (f : Factory) {args : List Value} (h : ∀ v ∈ args, v.Written T) :
    Gives (Rule.Written T) (f.build args) := by
  cases f with
  | builtin b =>
    exact fun r hr => (inherits_written.carries.build b h r hr).elim Rule.Made.written id
  | custom kind =>
    unfold Factory.build buildCustom
    refine gives_bind fun _ _ => ?_
    split
    · exact gives_pure.2 trivial
    · exact gives_bind fun params _ => gives_pure.2 trivial

/-! ## Evaluation -/

/-- An error at an expression as `P` says: if it is that a name is unknown, the expression is that
name. -/
def EvalError.At (P : Expr → Prop) (e : EvalError) : Prop :=
  ∃ n, P n ∧ n.pos = e.pos ∧ ∀ name, e.fault = .unknownIdent name → n = .ident e.pos name

theorem kept_written (registered : String → Bool) (P : Expr → Prop) :
    Kept registered (Value.Written (Expr.Every P)) (Rule.Written (Expr.Every P)) (Expr.Every P)
      (EvalError.At P) where
  inherits := inherits_written
  plain {v} h := by
    unfold Value.IsPlain at h
    split at h <;> trivial
  rule h := h
  array h := valuesWritten_iff.2 h
  object h := entriesWritten_iff.2 h
  lambda := by simp [Value.Written, Lambda.Written, entriesWritten_iff]
  build _ hargs := Factory.build_written _ hargs
  named {pos name v} _ h := by
    unfold global at h
    split at h
    · cases h
      trivial
    · cases h
      trivial
    · split at h
      · cases h
        trivial
      · split at h <;> cases h
        trivial
  part h hp := (Expr.every_iff.1 h).2 _ hp
  unknown h := ⟨_, (Expr.every_iff.1 h).1, rfl, by simp⟩
  fault h hne := ⟨_, (Expr.every_iff.1 h).1, rfl, fun name hname => absurd hname (hne name)⟩

end

end Rulebook
