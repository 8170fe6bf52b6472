import Rulebook.Proofs.SideBySide

/-!
# Warnings have no say

Two registries of the same kinds, with validators of hosts that differ only in the warnings they record:
so do the walks of every rule. Whether something is accepted, is there or has passed is asked of the errors
alone.
-/

namespace Rulebook

/-- Both end alike and find the same errors in the same order. -/
structure Walk.SameErrors {α : Type} (w w' : Walk α) : Prop where
  ending : w.ending = w'.ending
  errors : w.issues.filter Issue.isError = w'.issues.filter Issue.isError

theorem isClean_eq_isEmpty (issues : List Issue) :
    isClean issues = (issues.filter Issue.isError).isEmpty := by
  rw [Bool.eq_iff_iff]
  simp [isClean]

namespace Walk

theorem SameErrors.isClean_eq {α : Type} {w w' : Walk α} (h : w.SameErrors w') :
    isClean w.issues = isClean w'.issues := by
  rw [isClean_eq_isEmpty, h.errors, isClean_eq_isEmpty]

theorem SameErrors.bind {α β : Type} {w w' : Walk α} {f f' : α → Walk β} (h : w.SameErrors w')
    (hf : ∀ a, (f a).SameErrors (f' a)) : (w.bind f).SameErrors (w'.bind f') := by
  obtain ⟨issues, ending⟩ := w
  obtain ⟨issues', ending'⟩ := w'
  obtain ⟨rfl, herrors⟩ := h
  cases ending with
  | done a => exact ⟨(hf a).ending, by simp [Walk.bind, herrors, (hf a).errors]⟩
  | failed e => exact ⟨rfl, herrors⟩
  | crashed crash => exact ⟨rfl, herrors⟩

theorem SameErrors.probe {w w' : Walk Unit} (h : w.SameErrors w') : w.probe.SameErrors w'.probe := by
  unfold Walk.probe
  rw [h.isClean_eq, h.ending]
  exact ⟨rfl, rfl⟩

theorem alignment_sameErrors : Alignment 0 @SameErrors where
  refl _ := ⟨rfl, rfl⟩
  bind := SameErrors.bind
  probe := SameErrors.probe
  tooDeep := .inl rfl

theorem SameErrors.report {w w' : Walk Unit} (h : w.SameErrors w') :
    w.report.ok = w'.report.ok ∧ w.report.errors = w'.report.errors := by
  unfold Walk.report
  rw [← h.ending]
  cases w.ending with
  | done _ => exact ⟨h.isClean_eq, h.errors⟩
  | failed e => exact ⟨rfl, rfl⟩
  | crashed crash => exact ⟨rfl, rfl⟩

end Walk

namespace Registry

/-- The same kinds are registered, under validators that differ only in the warnings they record. -/
def SameButWarnings (r r' : Registry) : Prop := r.Tracks 0 @Walk.SameErrors r'

variable {r r' : Registry}

theorem SameButWarnings.load_eq (h : r.SameButWarnings r') (text : String) : r.load text = r'.load text := by
  unfold load
  rw [Alignment.contains_eq h]

/-- The walks of a rule that a text gives find the same errors. -/
theorem SameButWarnings.validate (h : r.SameButWarnings r') {text : String} {rule : Rule}
    (hload : r.load text = .ok rule) (c : Context) :
    ((rule.check r).validate c).SameErrors ((rule.check r').validate c) := by
  have hin : rule.In (.tracked 0 @Walk.SameErrors) := ofText_in (fun _ _ _ => trivial) text rule hload
  exact (Walk.alignment_sameErrors.check h maxGroups hin).validate c

/-- Whatever hosts warn of, a run comes to the same verdict by the same errors. -/
theorem warnings_have_no_say (h : r.SameButWarnings r') (text : String) (disk : Disk) (subject : Subject) :
    (r.run text disk subject).ok = (r'.run text disk subject).ok ∧
      (r.run text disk subject).errors = (r'.run text disk subject).errors := by
  unfold run
  rw [← h.load_eq]
  cases hload : r.load text with
  | error e => exact ⟨rfl, rfl⟩
  | ok rule => exact (h.validate hload (.root disk subject)).report

end Registry

/-- One validator, which accepts everything and may say so. -/
def notingHosts (aloud : Bool) : List (String × HostValidator) :=
  [("Noted", .probing fun _ c => .when aloud (.warning c "host.warn" "just a note"))]

theorem sameButWarnings_noting :
    (Registry.withHosts (notingHosts true)).SameButWarnings (.withHosts (notingHosts false)) := by
  refine Registry.tracks_standard.register "Noted" (.host fun d => ?_)
  refine Walk.alignment_sameErrors.ofValidate fun c => ?_
  exact ⟨rfl, rfl⟩

/-- The negation fails and the validator itself is taken, with a warning or without. -/
theorem warnings_have_no_say_noting :
    (Registry.withHosts (notingHosts true)).SameButWarnings (.withHosts (notingHosts false)) ∧
      ((Registry.withHosts (notingHosts false)).run "OneOf(Is.Not(Noted()), Noted())" default
        (.value .null)).issues = [] ∧
      ((Registry.withHosts (notingHosts true)).run "OneOf(Is.Not(Noted()), Noted())" default
        (.value .null)).ok = true := by
  have hquiet : (Registry.withHosts (notingHosts false)).run "OneOf(Is.Not(Noted()), Noted())" default
      (.value .null) = ⟨true, []⟩ := by
    decide +kernel
  have hsame := Registry.warnings_have_no_say sameButWarnings_noting "OneOf(Is.Not(Noted()), Noted())" default
    (.value .null)
  refine ⟨sameButWarnings_noting, by rw [hquiet], ?_⟩
  rw [hsame.1, hquiet]

end Rulebook
