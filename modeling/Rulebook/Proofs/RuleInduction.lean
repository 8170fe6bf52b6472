import Rulebook.Rule.Basic

/-!
# Induction over rules

The types of rules, descriptors, groups and values are one nested family. A property of rules alone is
proved by cases on the rule, where each part may be assumed to have it; `Rule.parts` are the parts that
there are.
-/

namespace Rulebook

@[elab_as_elim]
theorem Rule.induct {P : Rule → Prop}
    (str : ∀ min max pattern, P (.str min max pattern))
    (num : ∀ min max integer, P (.num min max integer))
    (bool : P .bool)
    (literal : ∀ expected, P (.literal expected))
    (pattern : ∀ regex, P (.pattern regex))
    (object : ∀ required optional, (∀ r ∈ required, P r) → (∀ r ∈ optional, P r) →
      P (.object required optional))
    (oneOf : ∀ options, (∀ r ∈ options, P r) → P (.oneOf options))
    (listOf : ∀ item min max, P item → P (.listOf item min max))
    (not : ∀ flavor inner, P inner → P (.not flavor inner))
    (host : ∀ rule, P (.host rule))
    (field : ∀ key isOptional value, (∀ r ∈ value, P r) →
      P (.contains (.field key isOptional value)))
    (file : ∀ path ext content, (∀ r ∈ content, P r) → P (.contains (.file path ext content)))
    (directory : ∀ path required optional, (∀ r ∈ required, P r) → (∀ r ∈ optional, P r) →
      P (.contains (.directory path required optional)))
    (jsonFile : ∀ path required optional, (∀ r ∈ required, P r) → (∀ r ∈ optional, P r) →
      P (.contains (.jsonFile path required optional)))
    (rules : ∀ name rules, (∀ r ∈ rules, P r) → P (.contains (.package name (.rules rules))))
    (lazy : ∀ name kind lambda, P (.contains (.package name (.lazy kind lambda))))
    (custom : ∀ kind params, P (.contains (.custom kind params))) (rule : Rule) : P rule := by
  have part : ∀ r : Rule, sizeOf r < sizeOf rule → P r := fun r _ =>
    Rule.induct str num bool literal pattern object oneOf listOf not host field file directory jsonFile
      rules lazy custom r
  have parts : ∀ rules : List Rule, sizeOf rules < sizeOf rule → ∀ r ∈ rules, P r :=
    fun _ h r hr => part r (Nat.lt_trans (List.sizeOf_lt_of_mem hr) h)
  match rule with
  | .str .. => exact str ..
  | .num .. => exact num ..
  | .bool => exact bool
  | .literal _ => exact literal _
  | .pattern _ => exact pattern _
  | .object required optional =>
    have h := Rule.object.sizeOf_spec required optional
    exact object _ _ (parts required (by omega)) (parts optional (by omega))
  | .oneOf options =>
    have h := Rule.oneOf.sizeOf_spec options
    exact oneOf _ (parts options (by omega))
  | .listOf item min max =>
    have h := Rule.listOf.sizeOf_spec item min max
    exact listOf _ _ _ (part item (by omega))
  | .not flavor inner =>
    have h := Rule.not.sizeOf_spec flavor inner
    exact not _ _ (part inner (by omega))
  | .host _ => exact host _
  | .contains (.field _ _ none) => exact field _ _ _ (by simp)
  | .contains (.field key isOptional (some value)) =>
    have h := Rule.contains.sizeOf_spec (.field key isOptional (some value))
    have hfield := Descriptor.field.sizeOf_spec key isOptional (some value)
    have hsome := Option.some.sizeOf_spec value
    have hvalue : P value := part value (by omega)
    exact field _ _ _ (by simpa using hvalue)
  | .contains (.file path ext content) =>
    have h := Rule.contains.sizeOf_spec (.file path ext content)
    have hfile := Descriptor.file.sizeOf_spec path ext content
    exact file _ _ _ (parts content (by omega))
  | .contains (.directory path required optional) =>
    have h := Rule.contains.sizeOf_spec (.directory path required optional)
    have hdirectory := Descriptor.directory.sizeOf_spec path required optional
    exact directory _ _ _ (parts required (by omega)) (parts optional (by omega))
  | .contains (.jsonFile path required optional) =>
    have h := Rule.contains.sizeOf_spec (.jsonFile path required optional)
    have hjsonFile := Descriptor.jsonFile.sizeOf_spec path required optional
    exact jsonFile _ _ _ (parts required (by omega)) (parts optional (by omega))
  | .contains (.package name (.rules members)) =>
    have h := Rule.contains.sizeOf_spec (.package name (.rules members))
    have hpackage := Descriptor.package.sizeOf_spec name (.rules members)
    have hgroup := Group.rules.sizeOf_spec members
    exact rules _ _ (parts members (by omega))
  | .contains (.package _ (.lazy _ _)) => exact lazy ..
  | .contains (.custom _ _) => exact custom ..
termination_by sizeOf rule

namespace Rule

/-- The rules directly inside of a rule. -/
def parts : Rule → List Rule
  | object required optional | contains (.directory _ required optional)
  | contains (.jsonFile _ required optional) => required ++ optional
  | oneOf rules | contains (.file _ _ rules) | contains (.package _ (.rules rules)) => rules
  | listOf inner _ _ | not _ inner => [inner]
  | contains (.field _ _ value) => value.toList
  | str .. | num .. | bool | literal _ | pattern _ | host _ | contains (.package _ (.lazy ..))
  | contains (.custom ..) => []

end Rule

end Rulebook
