import Mathlib.Algebra.Ring.Parity
import Rulebook.Proofs.Reports
import Rulebook.Proofs.Unions

/-!
# Negations

A negation walks its rule in private and keeps of it only how the walk ends and whether it found an error.
So each of several negations around a rule turns the verdict of the one below it, none says more than that
it is violated itself, and a rule that cannot be walked cannot be walked under negations either.
-/

namespace Rulebook

namespace Negation

def code : Negation → String
  | is => Code.isNotFail
  | doesNotContain => Code.doesNotContainFail

/-- What is wrong where the rule that is negated holds. -/
def message (flavor : Negation) (inner : Rule) : String :=
  match flavor with
  | is => "Expected value not to satisfy " ++ inner.describe
  | doesNotContain => "Expected " ++ inner.describe ++ " not to be present"

end Negation

namespace Rule

/-- A rule under negations, the outermost first. -/
def negated (flavors : List Negation) (rule : Rule) : Rule := flavors.foldr not rule

/-- The issue of a violated negation. -/
def violation (flavor : Negation) (inner : Rule) (c : Context) : Issue :=
  ⟨.error, flavor.code, flavor.message inner, c.path⟩

section
variable {r : Registry} {c : Context}

/-! ## One negation -/

theorem validate_not (r : Registry) (flavor : Negation) (inner : Rule) (c : Context) :
    ((not flavor inner).check r).validate c =
      ((inner.check r).validate c).probe.bind fun clean =>
        .when clean (.issue c flavor.code (flavor.message inner)) := by
  cases flavor <;> rfl

theorem ending_not (r : Registry) (flavor : Negation) (inner : Rule) (c : Context) :
    (((not flavor inner).check r).validate c).ending = ((inner.check r).validate c).ending := by
  rw [validate_not]
  cases h : ((inner.check r).validate c).ending with
  | done a =>
    rw [Walk.probe_of_done h, Walk.done_bind]
    cases isClean ((inner.check r).validate c).issues <;> rfl
  | failed e => simp only [Walk.probe, Walk.bind, h]
  | crashed crash => simp only [Walk.probe, Walk.bind, h]

theorem issues_not {inner : Rule} (flavor : Negation)
    (hdone : ((inner.check r).validate c).ending = .done ()) :
    (((not flavor inner).check r).validate c).issues =
      if isClean ((inner.check r).validate c).issues then [violation flavor inner c] else [] := by
  rw [validate_not, Walk.probe_of_done hdone, Walk.done_bind]
  cases isClean ((inner.check r).validate c).issues <;> rfl

theorem isClean_not {inner : Rule} (flavor : Negation)
    (hdone : ((inner.check r).validate c).ending = .done ()) :
    isClean (((not flavor inner).check r).validate c).issues =
      !isClean ((inner.check r).validate c).issues := by
  rw [issues_not flavor hdone]
  cases isClean ((inner.check r).validate c).issues <;> rfl

/-! ## Negations in each other -/

theorem ending_negated (r : Registry) (flavors : List Negation) (rule : Rule) (c : Context) :
    (((rule.negated flavors).check r).validate c).ending = ((rule.check r).validate c).ending := by
  induction flavors with
  | nil => rfl
  | cons flavor flavors ih => exact (ending_not r flavor _ c).trans ih

theorem isClean_negated {rule : Rule} (flavors : List Negation)
    (hdone : ((rule.check r).validate c).ending = .done ()) :
    isClean (((rule.negated flavors).check r).validate c).issues =
      (isClean ((rule.check r).validate c).issues ^^ decide (Odd flavors.length)) := by
  induction flavors with
  | nil => simp [negated]
  | cons flavor flavors ih =>
    -- Each negation judges the walk below it, which has to end for that.
    have hinner : (((rule.negated flavors).check r).validate c).ending = .done () := by
      rw [ending_negated, hdone]
    change isClean (((not flavor (rule.negated flavors)).check r).validate c).issues = _
    rw [isClean_not flavor hinner, ih, List.length_cons, ← Bool.xor_not]
    simp only [Nat.odd_add_one, decide_not]

theorem issues_negated {rule : Rule} (outer : Negation) (inner : List Negation)
    (hdone : ((rule.check r).validate c).ending = .done ()) :
    (((rule.negated (outer :: inner)).check r).validate c).issues = [] ∨
      (((rule.negated (outer :: inner)).check r).validate c).issues =
        [violation outer (rule.negated inner) c] := by
  have hinner : (((rule.negated inner).check r).validate c).ending = .done () := by
    rw [ending_negated, hdone]
  change (((not outer (rule.negated inner)).check r).validate c).issues = [] ∨
    (((not outer (rule.negated inner)).check r).validate c).issues = _
  rw [issues_not outer hinner]
  split
  · exact .inr rfl
  · exact .inl rfl

end

end Rule

/-! ## Reports -/

namespace Walk

theorem report_of_done {w : Walk Unit} (h : w.ending = .done ()) :
    w.report = .ofIssues w.issues := by
  simp only [report, h]

/-- The report of a walk that failed is that of the failure, whatever was found before it. -/
theorem report_congr {w v : Walk Unit} (hending : w.ending = v.ending)
    (hdone : v.ending ≠ .done ()) : w.report = v.report := by
  unfold report
  rw [hending]
  cases h : v.ending with
  | done a => exact absurd h hdone
  | failed e => rfl
  | crashed crash => rfl

end Walk

namespace Registry

/-- How the report on a rule under negations, the outermost first, depends on that on the rule alone. -/
structure Negates (r : Registry) (rule : Rule) (outer : Negation) (inner : List Negation)
    (disk : Disk) (subject : Subject) : Prop where
  /-- If the rule alone can be walked, every negation turns the verdict, -/
  verdict : ((rule.check r).validate (.root disk subject)).ending = .done () →
    (r.validate (rule.negated (outer :: inner)) disk subject).ok =
      ((r.validate rule disk subject).ok ^^ decide (Odd (outer :: inner).length))
  /-- and nothing is reported, or that the outermost negation is violated. -/
  issues : ((rule.check r).validate (.root disk subject)).ending = .done () →
    (r.validate (rule.negated (outer :: inner)) disk subject).issues = [] ∨
      (r.validate (rule.negated (outer :: inner)) disk subject).issues =
        [⟨.error, outer.code, outer.message (rule.negated inner), []⟩]
  /-- If the walk of the rule fails, this is the report on either, -/
  failed : ∀ e, ((rule.check r).validate (.root disk subject)).ending = .failed e →
    r.validate (rule.negated (outer :: inner)) disk subject = .failure Code.engineError e.message ∧
      r.validate rule disk subject = .failure Code.engineError e.message
  /-- and so it is if code of a host crashes. -/
  crashed : ∀ crash, ((rule.check r).validate (.root disk subject)).ending = .crashed crash →
    r.validate (rule.negated (outer :: inner)) disk subject =
        .failure Code.executorCrash ("Rule crashed during validation: " ++ crash.text) ∧
      r.validate rule disk subject =
        .failure Code.executorCrash ("Rule crashed during validation: " ++ crash.text)

/-- Negations around a rule turn its verdict as often as there are negations, and leave its failures. -/
theorem validate_negated (r : Registry) (rule : Rule) (outer : Negation) (inner : List Negation)
    (disk : Disk) (subject : Subject) : r.Negates rule outer inner disk subject := by
  have hending := Rule.ending_negated r (outer :: inner) rule (.root disk subject)
  refine ⟨fun hdone => ?_, fun hdone => ?_, fun e he => ?_, fun crash hcrash => ?_⟩
  · unfold validate
    rw [Walk.report_of_done (hending.trans hdone), Walk.report_of_done hdone]
    exact Rule.isClean_negated (outer :: inner) hdone
  · unfold validate
    rw [Walk.report_of_done (hending.trans hdone)]
    exact Rule.issues_negated outer inner hdone
  · have hreport : r.validate rule disk subject = .failure Code.engineError e.message := by
      simp only [validate, Walk.report, he]
    refine ⟨?_, hreport⟩
    rw [← hreport]
    exact Walk.report_congr hending (by simp [he])
  · have hreport : r.validate rule disk subject =
        .failure Code.executorCrash ("Rule crashed during validation: " ++ crash.text) := by
      simp only [validate, Walk.report, hcrash]
    refine ⟨?_, hreport⟩
    rw [← hreport]
    exact Walk.report_congr hending (by simp [hcrash])

/-- A rule that only warns is violated under three negations, and the warning is gone. -/
theorem validate_negated_noted :
    ((Rule.contains (.custom "Noted" .null)).check (.withHosts Rule.notedHosts)).validate
        (.root default (.value .null)) = ⟨[⟨.warning, "noted", "just a note", []⟩], .done ()⟩ ∧
      ((withHosts Rule.notedHosts).validate
        ((Rule.contains (.custom "Noted" .null)).negated [.is, .doesNotContain, .is]) default
          (.value .null)).codes = [Code.isNotFail] := by
  have hwalk : ((Rule.contains (.custom "Noted" .null)).check (.withHosts Rule.notedHosts)).validate
      (.root default (.value .null)) = ⟨[⟨.warning, "noted", "just a note", []⟩], .done ()⟩ := by
    decide +kernel
  have hdone := congrArg Walk.ending hwalk
  have hnegates := validate_negated (.withHosts Rule.notedHosts)
    (.contains (.custom "Noted" .null)) .is [.doesNotContain, .is] default (.value .null)
  have hviolated : ((withHosts Rule.notedHosts).validate
      ((Rule.contains (.custom "Noted" .null)).negated [.is, .doesNotContain, .is]) default
        (.value .null)).ok = false := by
    rw [hnegates.verdict hdone]
    decide +kernel
  refine ⟨hwalk, ?_⟩
  rcases hnegates.issues hdone with hnone | hone
  · rw [validate, Walk.ok_report, ← validate, hnone] at hviolated
    cases hviolated
  · rw [Report.codes, hone]
    rfl

end Registry

end Rulebook
