import Rulebook.Proofs.Kinds

/-!
# What a report says of its run

The codes of a run that could not be done are those of no constraint. So where validators of hosts keep
to codes of their own, such a code is reported exactly if the run failed in its way, and then alone:
what was found before the failure is gone.
-/

namespace Rulebook

/-! ## Codes of runs that could not be done -/

namespace Code

/-- A code of a text that gives no rule. -/
def OfSpec (code : String) : Prop := "spec.".toList <+: code.toList

/-- A code of a run that could not be done. -/
def Reserved (code : String) : Prop := OfSpec code ∨ code = engineError ∨ code = executorCrash

instance : DecidablePred OfSpec := fun code =>
  inferInstanceAs (Decidable ("spec.".toList <+: code.toList))

instance : DecidablePred Reserved := fun _ => inferInstanceAs (Decidable (_ ∨ _))

theorem not_reserved_of_constraint : ∀ code ∈ constraints, ¬ Reserved code := by decide +kernel

theorem not_ofSpec_engineError : ¬ OfSpec engineError := by decide +kernel

theorem not_ofSpec_executorCrash : ¬ OfSpec executorCrash := by decide +kernel

end Code

theorem SpecError.ofSpec_code (e : SpecError) : Code.OfSpec e.code := by
  have hcodes : ∀ code ∈ [Code.specSyntaxError, Code.specCrash, Code.specEmpty, Code.specNoRoot],
      Code.OfSpec code := by
    decide +kernel
  cases e <;> exact hcodes _ (by simp [code])

/-! ## Hosts with codes of their own -/

/-- No walk of a check records a reserved code, whatever else it records and however it ends. -/
structure Check.Discreet (k : Check) : Prop where
  validate : ∀ c, ∀ i ∈ (k.validate c).issues, ¬ Code.Reserved i.code
  accepts : ∀ c, ∀ i ∈ (k.accepts c).issues, ¬ Code.Reserved i.code
  present : ∀ c, ∀ i ∈ (k.present c).issues, ¬ Code.Reserved i.code

/-- The validators of hosts are discreet on every descriptor. -/
def Registry.Discreet (r : Registry) : Prop :=
  ∀ kind v, r.validator? kind = some (.host v) → ∀ d, (v.check d).Discreet

/-- Codes that are not reserved, with nothing said about errors. -/
def Expectation.discreet : Expectation where
  issue _ i := ¬ Code.Reserved i.code
  silent _ i := ¬ Code.Reserved i.code
  error _ := True

theorem sound_discreet : Expectation.discreet.Sound where
  here _ code _ h := Code.not_reserved_of_constraint code h
  silent _ _ h := h
  descend _ _ _ _ h := h
  lambda _ _ := trivial
  url _ := trivial
  semver _ := trivial

theorem Check.Discreet.meets {k : Check} (h : k.Discreet) : k.Meets .discreet where
  validate c := ⟨h.validate c, fun _ _ => trivial, fun _ _ => trivial⟩
  accepts c := ⟨h.accepts c, fun _ _ => trivial, fun _ _ => trivial⟩
  present c := ⟨h.present c, fun _ _ => trivial, fun _ _ => trivial⟩

theorem fits_discreet {r : Registry} (hr : r.Discreet) : Expectation.discreet.Fits r .plain where
  sound := sound_discreet
  covers := covers_plain r.contains
  hosts _ h := h.elim
  foreign d _ := Registry.meets_foreign (fun _ => trivial) (fun kind v hv d => (hr kind v hv d).meets) d

/-- The walk of a loaded rule records no reserved code. -/
theorem not_reserved_of_load {r : Registry} (hr : r.Discreet) {text : String} {rule : Rule}
    (hload : r.load text = .ok rule) (c : Context) :
    ∀ i ∈ ((rule.check r).validate c).issues, ¬ Code.Reserved i.code := by
  have hin := ofText_in (covers_plain r.contains) text rule hload
  exact ((meets_check (fits_discreet hr) hin).validate c).issues

/-! ## Reports -/

/-- A report that is clear if and only if it has no errors, and that has a reserved code exactly where a
run went wrong in one of three ways, with nothing beside it. -/
structure Report.Tells (report : Report) (unloaded failed crashed : Prop) : Prop where
  ok : report.ok = true ↔ ∀ i ∈ report.issues, i.level ≠ .error
  unloaded : (∃ i ∈ report.issues, Code.OfSpec i.code) ↔ unloaded
  failed : (∃ i ∈ report.issues, i.code = Code.engineError) ↔ failed
  crashed : (∃ i ∈ report.issues, i.code = Code.executorCrash) ↔ crashed
  alone : ∀ i ∈ report.issues, Code.Reserved i.code →
    report.issues = [i] ∧ i.level = .error ∧ i.path = []

theorem Walk.ok_report (w : Walk Unit) : w.report.ok = isClean w.report.issues := by
  unfold report
  split <;> rfl

namespace Report

theorem ok_ofIssues (issues : List Issue) :
    (ofIssues issues).ok = true ↔ ∀ i ∈ issues, i.level ≠ .error := by
  simp [ofIssues, isClean, Issue.isError]

theorem tells_failure (code message : String) :
    (failure code message).Tells (Code.OfSpec code) (code = Code.engineError)
      (code = Code.executorCrash) where
  ok := ok_ofIssues _
  unloaded := by simp [failure, ofIssues]
  failed := by simp [failure, ofIssues]
  crashed := by simp [failure, ofIssues]
  alone i hi _ := by
    obtain rfl := List.mem_singleton.1 hi
    exact ⟨rfl, rfl, rfl⟩

theorem tells_ofIssues {issues : List Issue} (h : ∀ i ∈ issues, ¬ Code.Reserved i.code) :
    (ofIssues issues).Tells False False False where
  ok := ok_ofIssues _
  unloaded := ⟨fun ⟨i, hi, hcode⟩ => h i hi (.inl hcode), False.elim⟩
  failed := ⟨fun ⟨i, hi, hcode⟩ => h i hi (.inr (.inl hcode)), False.elim⟩
  crashed := ⟨fun ⟨i, hi, hcode⟩ => h i hi (.inr (.inr hcode)), False.elim⟩
  alone i hi hcode := absurd hcode (h i hi)

theorem Tells.congr {report : Report} {u f c u' f' c' : Prop} (h : report.Tells u f c)
    (hu : u ↔ u') (hf : f ↔ f') (hc : c ↔ c') : report.Tells u' f' c' where
  ok := h.ok
  unloaded := h.unloaded.trans hu
  failed := h.failed.trans hf
  crashed := h.crashed.trans hc
  alone := h.alone

theorem tells_report {w : Walk Unit} (h : ∀ i ∈ w.issues, ¬ Code.Reserved i.code) :
    w.report.Tells False (∃ e, w.ending = .failed e) (∃ crash, w.ending = .crashed crash) := by
  unfold Walk.report
  cases w.ending with
  | done a => exact (tells_ofIssues h).congr Iff.rfl (by simp) (by simp)
  | failed e =>
    refine (tells_failure _ _).congr ?_ (by simp) ?_
    · exact iff_false_intro Code.not_ofSpec_engineError
    · simp [Code.engineError, Code.executorCrash]
  | crashed crash =>
    refine (tells_failure _ _).congr ?_ ?_ (by simp)
    · exact iff_false_intro Code.not_ofSpec_executorCrash
    · simp [Code.engineError, Code.executorCrash]

theorem tells_specError (e : SpecError) : e.report.Tells True False False := by
  have hcode := e.ofSpec_code
  refine (tells_failure _ _).congr (iff_true_intro hcode) ?_ ?_
  · refine iff_false_intro fun he => ?_
    exact Code.not_ofSpec_engineError (he ▸ hcode)
  · refine iff_false_intro fun he => ?_
    exact Code.not_ofSpec_executorCrash (he ▸ hcode)

end Report

/-- With discreet hosts, a report says by a reserved code, and then by nothing else, that the text gives no
rule, that the walk of its rule failed or that it crashed; and it is clear exactly if no error is in it. -/
theorem run_tells {r : Registry} (hr : r.Discreet) (text : String) (disk : Disk) (subject : Subject) :
    (r.run text disk subject).Tells (∃ e, r.load text = .error e)
      (∃ rule e, r.load text = .ok rule ∧
        ((rule.check r).validate (.root disk subject)).ending = .failed e)
      (∃ rule crash, r.load text = .ok rule ∧
        ((rule.check r).validate (.root disk subject)).ending = .crashed crash) := by
  unfold Registry.run
  cases hload : r.load text with
  | error e => exact (Report.tells_specError e).congr (by simp) (by simp) (by simp)
  | ok rule =>
    have hcodes := not_reserved_of_load hr hload (.root disk subject)
    exact (Report.tells_report hcodes).congr (by simp) (by simp) (by simp)

/-- One validator, which crashes after it has found something. -/
def explodingHosts : List (String × HostValidator) :=
  [("Exploding", .ofValidate fun _ c => (Walk.issue c "partial" "before the crash").bind fun _ =>
    ⟨[], .crashed (.message "boom")⟩)]

theorem discreet_exploding : (Registry.withHosts explodingHosts).Discreet := by
  intro kind v hv d
  obtain ⟨-, rfl⟩ := Prod.mk.inj (List.mem_singleton.1 (Registry.mem_of_validator?_withHosts hv))
  have hcode : ¬ Code.Reserved "partial" := by
    decide +kernel
  exact ⟨fun c => by simpa [HostValidator.check, HostValidator.ofValidate, Walk.bind, Walk.issue],
    fun c => by simp [HostValidator.check, HostValidator.ofValidate, Walk.done],
    fun c => by simp [HostValidator.check, HostValidator.ofValidate, Walk.done]⟩

/-- A crash inside of a negation, which a union asks in private, is all that is reported. -/
theorem run_tells_exploding :
    (Registry.withHosts explodingHosts).Discreet ∧
      ∃ i, ((Registry.withHosts explodingHosts).run "OneOf(Str(), Is.Not(Exploding()))" default
        (.value .null)).issues = [i] ∧ i.code = Code.executorCrash ∧ i.path = [] := by
  have htells := run_tells discreet_exploding "OneOf(Str(), Is.Not(Exploding()))" default (.value .null)
  have hrun : ((Registry.withHosts explodingHosts).load
      "OneOf(Str(), Is.Not(Exploding()))").toOption.any (fun rule =>
        ((rule.check (.withHosts explodingHosts)).validate (.root default (.value .null))).ending =
          .crashed (.message "boom")) = true := by
    decide +kernel
  obtain ⟨rule, hload, hending⟩ := exists_ok_of_any hrun
  obtain ⟨i, hi, hcode⟩ := htells.crashed.2 ⟨rule, _, hload, of_decide_eq_true hending⟩
  obtain ⟨halone, -, hpath⟩ := htells.alone i hi (.inr (.inr hcode))
  exact ⟨discreet_exploding, i, halone, hcode, hpath⟩

end Rulebook
