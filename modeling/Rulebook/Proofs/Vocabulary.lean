import Rulebook.Rule.Basic

/-!
# What a rule is made of

Two parts of a rule are not of the language: rules that a host supplies as code, and the kinds of its
descriptors that are not structural. A vocabulary says which of them may occur, in a rule as it stands
and in the values from which its lambdas build more.
-/

namespace Rulebook

structure Vocabulary where
  hosts : HostRule → Prop
  kinds : String → Prop

/-- No rules of hosts, and any kinds. -/
def Vocabulary.plain : Vocabulary where
  hosts _ := False
  kinds _ := True

section
variable (w : Vocabulary)

mutual

/-- A rule whose parts are of a vocabulary. -/
def Rule.In : Rule → Prop
  | .object required optional => rulesIn required ∧ rulesIn optional
  | .oneOf options => rulesIn options
  | .listOf item _ _ => item.In
  | .not _ inner => inner.In
  | .contains d => d.In
  | .host rule => w.hosts rule
  | .str .. | .num .. | .bool | .literal _ | .pattern _ => True

def Descriptor.In : Descriptor → Prop
  | .field _ _ value => ruleIn? value
  | .file _ _ content => rulesIn content
  | .directory _ required optional | .jsonFile _ required optional =>
    rulesIn required ∧ rulesIn optional
  | .package _ group => group.In
  | .custom kind _ => w.kinds kind

def Group.In : Group → Prop
  | .rules rules => rulesIn rules
  | .lazy _ lambda => lambda.In

/-- A lambda may use what its scope holds. -/
def Lambda.In : Lambda → Prop
  | .mk _ _ scope => entriesIn scope

def Value.In : Value → Prop
  | .array items => valuesIn items
  | .object entries => entriesIn entries
  | .rule r => r.In
  | .factory (.custom kind) => w.kinds kind
  | .factory (.builtin _) => True
  | .lambda l => l.In
  | .null | .bool _ | .number _ | .string _ | .regex _ | .space _ => True

def rulesIn : List Rule → Prop
  | [] => True
  | r :: rs => r.In ∧ rulesIn rs

def ruleIn? : Option Rule → Prop
  | none => True
  | some r => r.In

def valuesIn : List Value → Prop
  | [] => True
  | v :: vs => v.In ∧ valuesIn vs

def entriesIn : List (String × Value) → Prop
  | [] => True
  | (_, v) :: rest => v.In ∧ entriesIn rest

end

/-! ## The lists as all their members -/

theorem rulesIn_iff (rules : List Rule) : rulesIn w rules ↔ ∀ r ∈ rules, r.In w := by
  induction rules with
  | nil => simp [rulesIn]
  | cons r rs ih => simp [rulesIn, ih]

theorem ruleIn?_iff (rule : Option Rule) : ruleIn? w rule ↔ ∀ r ∈ rule, r.In w := by
  cases rule <;> simp [ruleIn?]

theorem valuesIn_iff (values : List Value) : valuesIn w values ↔ ∀ v ∈ values, v.In w := by
  induction values with
  | nil => simp [valuesIn]
  | cons v vs ih => simp [valuesIn, ih]

theorem entriesIn_iff (entries : List (String × Value)) :
    entriesIn w entries ↔ ∀ e ∈ entries, e.2.In w := by
  induction entries with
  | nil => simp [entriesIn]
  | cons e rest ih =>
    obtain ⟨k, v⟩ := e
    simp only [entriesIn, ih, List.forall_mem_cons]

end

end Rulebook
