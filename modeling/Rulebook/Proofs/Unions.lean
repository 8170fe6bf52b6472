import Rulebook.Proofs.Modes

/-!
# Unions

A union asks its options in turn whether they match and walks the first one that does. So it finds what
that option finds, and an error of its own only if there is none. An option that is neither a descriptor nor
code of a host matches if its own walk finds no error; a union of such options accepts what one of them
accepts, and a union among them may as well be written out.
-/

namespace Rulebook

namespace Walk

/-- A probe sees of a walk how it ends and whether it has found an error. -/
theorem probe_congr {w v : Walk Unit} (hending : w.ending = v.ending)
    (hclean : isClean w.issues = isClean v.issues) : w.probe = v.probe := by
  unfold probe
  rw [hending, hclean]

end Walk

/-! ## Options in turn -/

namespace Check

section
variable {α : Type} {f : α → Check} {options : List α} {c : Context} (names : List String)

/-- The walk that is left to do once options were asked: that of the first one that matches. -/
def chosen (names : List String) (f : α → Check) (options : List α) (c : Context) : Walk Unit :=
  match options.find? fun q => ((f q).accepts c).ending = .done true with
  | some q => (f q).validate c
  | none => noMatch names c

/-- Before the walk of the chosen option there is only what options recorded when they were asked. -/
theorem oneOf_of_answers (h : ∀ q ∈ options, ∃ b, ((f q).accepts c).ending = .done b) :
    ∃ asked, (∀ i ∈ asked, ∃ q ∈ options, i ∈ ((f q).accepts c).issues) ∧
      oneOf names (options.map f) c =
        ⟨asked ++ (chosen names f options c).issues, (chosen names f options c).ending⟩ := by
  induction options with
  | nil => exact ⟨[], by simp, rfl⟩
  | cons q options ih =>
    obtain ⟨b, hb⟩ := h q List.mem_cons_self
    rw [List.map_cons, oneOf, Walk.bind_of_done hb]
    cases b with
    -- The first that accepts is walked, and none behind it is asked.
    | true =>
      have hchosen : chosen names f (q :: options) c = (f q).validate c := by
        simp only [chosen, List.find?_cons, hb, decide_true]
      refine ⟨((f q).accepts c).issues, fun i hi => ⟨q, List.mem_cons_self, hi⟩, ?_⟩
      rw [hchosen]
      rfl
    | false =>
      have hchosen : chosen names f (q :: options) c = chosen names f options c := by
        simp [chosen, hb]
      obtain ⟨asked, hasked, hwalk⟩ := ih fun p hp => h p (List.mem_cons_of_mem q hp)
      refine ⟨((f q).accepts c).issues ++ asked, ?_, ?_⟩
      · intro i hi
        rcases List.mem_append.1 hi with hi | hi
        · exact ⟨q, List.mem_cons_self, hi⟩
        · obtain ⟨p, hp, hip⟩ := hasked i hi
          exact ⟨p, List.mem_cons_of_mem q hp, hip⟩
      · rw [hchosen, if_neg Bool.false_ne_true, hwalk, List.append_assoc]

theorem oneOf_of_silent (h : ∀ q ∈ options, ∃ b, ((f q).accepts c).ending = .done b)
    (hsilent : ∀ q ∈ options, ((f q).accepts c).issues = []) :
    oneOf names (options.map f) c = chosen names f options c := by
  obtain ⟨asked, hasked, hwalk⟩ := oneOf_of_answers names h
  have hnil : asked = [] := by
    refine List.eq_nil_iff_forall_not_mem.2 fun i hi => ?_
    obtain ⟨q, hq, hiq⟩ := hasked i hi
    rw [hsilent q hq] at hiq
    exact List.not_mem_nil hiq
  rw [hwalk, hnil]
  rfl

end

/-! ## Unions in unions -/

section
variable {names names' : List String} {c : Context}

/-- The names of the options only show in the message, which no probe sees. -/
theorem probe_oneOf_names (options : List Check) :
    (oneOf names options c).probe = (oneOf names' options c).probe := by
  have halike : (oneOf names options c).ending = (oneOf names' options c).ending ∧
      isClean (oneOf names options c).issues = isClean (oneOf names' options c).issues := by
    induction options with
    | nil => exact ⟨rfl, rfl⟩
    | cons k ks ih =>
      obtain ⟨hending, hclean⟩ := ih
      unfold oneOf
      cases hk : (k.accepts c).ending with
      | done b =>
        rw [Walk.bind_of_done hk, Walk.bind_of_done hk]
        cases b with
        | true => exact ⟨rfl, rfl⟩
        | false => simp [isClean_append, hending, hclean]
      | failed e => simp [Walk.bind, hk]
      | crashed crash => simp [Walk.bind, hk]
  exact Walk.probe_congr halike.1 halike.2

/-- A union whose options all match by their own walks may be replaced by these options. -/
theorem oneOf_nested {inner : List Check}
    (hinner : ∀ k ∈ inner, k.accepts c = (k.validate c).probe) (before after : List Check) :
    oneOf names (before ++ ofValidate (oneOf names' inner) :: after) c =
      oneOf names (before ++ inner ++ after) c := by
  induction before with
  | cons k before ih => rw [List.cons_append, List.cons_append, List.cons_append, oneOf, oneOf, ih]
  | nil =>
    rw [List.nil_append, List.nil_append, oneOf]
    change (oneOf names' inner c).probe.bind (fun yes =>
      if yes then oneOf names' inner c else oneOf names after c) = _
    induction inner with
    | nil => rfl
    | cons k inner ih =>
      have hrest := ih fun l hl => hinner l (List.mem_cons_of_mem k hl)
      rw [List.cons_append, oneOf, oneOf, hinner k List.mem_cons_self]
      -- The option is walked twice in the nested union, and the first time tells how the second goes.
      cases hk : (k.validate c).ending with
      | done a =>
        rw [Walk.probe_of_done hk]
        cases hclean : isClean (k.validate c).issues with
        | true => simp [Walk.probe_of_done hk, hclean]
        | false => simpa using hrest
      | failed e => simp [Walk.probe, Walk.bind, hk]
      | crashed crash => simp [Walk.probe, Walk.bind, hk]

end

end Check

/-! ## Unions of rules -/

namespace Rule

/-- A descriptor or code of a host, which has an answer of its own to whether it matches. -/
def AnswersItself : Rule → Prop
  | contains _ | host _ => True
  | _ => False

/-- The issue of a union that no option matches. -/
def noMatchIssue (options : List Rule) (c : Context) : Issue :=
  ⟨.error, Code.oneOfNoMatch,
    "Value does not match any of: " ++ String.intercalate ", " (options.map describe), c.path⟩

/-- The issues of the first option that matches, or else the one that none does. -/
def chosenIssues (r : Registry) (options : List Rule) (c : Context) : List Issue :=
  match options.find? fun q => ((q.check r).accepts c).ending = .done true with
  | some q => ((q.check r).validate c).issues
  | none => [noMatchIssue options c]

section
variable {r : Registry} {options : List Rule} {c : Context}

theorem validate_oneOf (r : Registry) (options : List Rule) :
    ((oneOf options).check r).validate =
      Check.oneOf (options.map describe) (options.map (·.check r)) := by
  unfold check
  rw [checkWith, checksWith_eq_map]
  rfl

theorem accepts_eq_probe {rule : Rule} (h : ¬ rule.AnswersItself) (r : Registry) (c : Context) :
    (rule.check r).accepts c = ((rule.check r).validate c).probe := by
  cases rule with
  | contains | host => exact absurd trivial h
  | not flavor inner => cases flavor <;> rfl
  | _ => rfl

theorem chosen_eq (hdone : ∀ q ∈ options, ((q.check r).validate c).ending = .done ()) :
    Check.chosen (options.map describe) (·.check r) options c =
      ⟨chosenIssues r options c, .done ()⟩ := by
  unfold Check.chosen chosenIssues
  cases hfirst : options.find? fun q => ((q.check r).accepts c).ending = .done true with
  | some q =>
    have hmem := List.mem_of_find?_eq_some hfirst
    rw [← hdone q hmem]
  | none => rfl

theorem accepts_iff_clean {rule : Rule} (h : ¬ rule.AnswersItself)
    (hdone : ((rule.check r).validate c).ending = .done ()) :
    ((rule.check r).accepts c).ending = .done true ↔
      isClean ((rule.check r).validate c).issues = true := by
  rw [accepts_eq_probe h, Walk.probe_of_done hdone]
  simp [Walk.done]

theorem isClean_chosenIssues (hplain : ∀ q ∈ options, ¬ q.AnswersItself)
    (hdone : ∀ q ∈ options, ((q.check r).validate c).ending = .done ()) :
    isClean (chosenIssues r options c) = true ↔
      ∃ q ∈ options, isClean ((q.check r).validate c).issues = true := by
  unfold chosenIssues
  split
  · rename_i q hq
    have hmem := List.mem_of_find?_eq_some hq
    have hyes : ((q.check r).accepts c).ending = .done true := by
      simpa using List.find?_some hq
    have hclean := (accepts_iff_clean (hplain q hmem) (hdone q hmem)).1 hyes
    exact ⟨fun _ => ⟨q, hmem, hclean⟩, fun _ => hclean⟩
  · rename_i hnone
    constructor
    · intro hclean
      cases hclean
    · rintro ⟨q, hq, hclean⟩
      have hyes := (accepts_iff_clean (hplain q hq) (hdone q hq)).2 hclean
      exact absurd hyes (by simpa using List.find?_eq_none.1 hnone q hq)

theorem chosenIssues_of_error (hplain : ∀ q ∈ options, ¬ q.AnswersItself)
    (hdone : ∀ q ∈ options, ((q.check r).validate c).ending = .done ())
    (h : isClean (chosenIssues r options c) = false) :
    chosenIssues r options c = [noMatchIssue options c] := by
  have hnone : options.find? (fun q => ((q.check r).accepts c).ending = .done true) = none := by
    rw [List.find?_eq_none]
    intro q hq hyes
    have hclean := (accepts_iff_clean (hplain q hq) (hdone q hq)).1 (by simpa using hyes)
    rw [(isClean_chosenIssues hplain hdone).2 ⟨q, hq, hclean⟩] at h
    exact Bool.noConfusion h
  unfold chosenIssues
  rw [hnone]

/-- A union of rules that are asked by their own walks may be written out where it is an option. -/
theorem accepts_oneOf_nested {inner : List Rule} (hinner : ∀ q ∈ inner, ¬ q.AnswersItself)
    (r : Registry) (before after : List Rule) (c : Context) :
    ((oneOf (before ++ oneOf inner :: after)).check r).accepts c =
      ((oneOf (before ++ inner ++ after)).check r).accepts c := by
  have hplain : ∀ options, ¬ (oneOf options).AnswersItself := fun _ => id
  rw [accepts_eq_probe (hplain _), accepts_eq_probe (hplain _), validate_oneOf, validate_oneOf]
  have hnested : (oneOf inner).check r = .ofValidate
      (Check.oneOf (inner.map describe) (inner.map (·.check r))) := by
    rw [← validate_oneOf]
    rfl
  have hchecks : ∀ k ∈ inner.map (·.check r), k.accepts c = (k.validate c).probe := by
    intro k hk
    obtain ⟨q, hq, rfl⟩ := List.mem_map.1 hk
    exact accepts_eq_probe (hinner q hq) r c
  have hwritten : Check.oneOf ((before ++ oneOf inner :: after).map describe)
      ((before ++ oneOf inner :: after).map (·.check r)) c =
      Check.oneOf ((before ++ oneOf inner :: after).map describe)
        ((before ++ inner ++ after).map (·.check r)) c := by
    rw [List.map_append, List.map_append, List.map_append, List.map_append, List.map_cons,
      List.map_cons, hnested, Check.oneOf_nested hchecks]
  rw [hwritten, Check.probe_oneOf_names]

/-! ## What a union finds -/

theorem validate_oneOf_of_silent
    (hanswers : ∀ q ∈ options, ∃ b, ((q.check r).accepts c).ending = .done b)
    (hdone : ∀ q ∈ options, ((q.check r).validate c).ending = .done ())
    (hsilent : ∀ q ∈ options, ((q.check r).accepts c).issues = []) :
    ((oneOf options).check r).validate c = ⟨chosenIssues r options c, .done ()⟩ := by
  rw [validate_oneOf, Check.oneOf_of_silent _ hanswers hsilent, chosen_eq hdone]

section
variable (hplain : ∀ q ∈ options, ¬ q.AnswersItself)
  (hdone : ∀ q ∈ options, ((q.check r).validate c).ending = .done ())
include hplain hdone

theorem validate_oneOf_of_plain :
    ((oneOf options).check r).validate c = ⟨chosenIssues r options c, .done ()⟩ := by
  have hasked : ∀ q ∈ options,
      (q.check r).accepts c = .done (isClean ((q.check r).validate c).issues) := by
    intro q hq
    rw [accepts_eq_probe (hplain q hq), Walk.probe_of_done (hdone q hq)]
  refine validate_oneOf_of_silent ?_ hdone ?_
  · intro q hq
    exact ⟨_, by rw [hasked q hq]; rfl⟩
  · intro q hq
    rw [hasked q hq]
    rfl

theorem accepts_oneOf_iff :
    (((oneOf options).check r).accepts c).ending = .done true ↔
      ∃ q ∈ options, ((q.check r).accepts c).ending = .done true := by
  have hunion := validate_oneOf_of_plain hplain hdone
  have hdoneUnion : (((oneOf options).check r).validate c).ending = .done () := by
    rw [hunion]
  have hplainUnion : ¬ (oneOf options).AnswersItself := id
  rw [accepts_iff_clean hplainUnion hdoneUnion, hunion, isClean_chosenIssues hplain hdone]
  constructor
  · rintro ⟨q, hq, hclean⟩
    exact ⟨q, hq, (accepts_iff_clean (hplain q hq) (hdone q hq)).2 hclean⟩
  · rintro ⟨q, hq, hyes⟩
    exact ⟨q, hq, (accepts_iff_clean (hplain q hq) (hdone q hq)).1 hyes⟩

end

/-- What a union finds in a context where its options can be asked and walked. -/
structure TakesFirst (r : Registry) (options : List Rule) (c : Context) : Prop where
  /-- If asking the options records nothing, as it should, it is exactly what the first one that matches
  finds. -/
  silent : (∀ q ∈ options, ((q.check r).accepts c).issues = []) →
    ((oneOf options).check r).validate c = ⟨chosenIssues r options c, .done ()⟩
  /-- Where hosts keep to their context, it does record nothing. -/
  tidy : r.Tidy → (∀ q ∈ options, q.Tidy) →
    ((oneOf options).check r).validate c = ⟨chosenIssues r options c, .done ()⟩
  /-- Whatever code of hosts records when it is asked comes first. -/
  asked : ∃ asked, (∀ i ∈ asked, ∃ q ∈ options, i ∈ ((q.check r).accepts c).issues) ∧
    ((oneOf options).check r).validate c = ⟨asked ++ chosenIssues r options c, .done ()⟩
  /-- A union of rules that are asked by their own walks has an error if each of them has one, -/
  errs : (∀ q ∈ options, ¬ q.AnswersItself) →
    (isClean (((oneOf options).check r).validate c).issues = false ↔
      ∀ q ∈ options, isClean ((q.check r).validate c).issues = false)
  /-- which is then all that is found. -/
  alone : (∀ q ∈ options, ¬ q.AnswersItself) →
    isClean (((oneOf options).check r).validate c).issues = false →
      (((oneOf options).check r).validate c).issues = [noMatchIssue options c]
  /-- So it accepts what one of them accepts, -/
  accepts : (∀ q ∈ options, ¬ q.AnswersItself) →
    ((((oneOf options).check r).accepts c).ending = .done true ↔
      ∃ q ∈ options, ((q.check r).accepts c).ending = .done true)
  /-- and some of them may as well stand in a union of their own. -/
  nested : ∀ before inner after, options = before ++ inner ++ after →
    (∀ q ∈ inner, ¬ q.AnswersItself) →
      ((oneOf (before ++ oneOf inner :: after)).check r).accepts c =
        ((oneOf options).check r).accepts c

end

/-- Where every option of a union can be asked and walked, the union finds what the first one that matches
finds, or else the one issue that none does. -/
theorem oneOf_takes_first {r : Registry} {options : List Rule} {c : Context}
    (hanswers : ∀ q ∈ options, ∃ b, ((q.check r).accepts c).ending = .done b)
    (hdone : ∀ q ∈ options, ((q.check r).validate c).ending = .done ()) :
    TakesFirst r options c where
  silent := validate_oneOf_of_silent hanswers hdone
  tidy hr hoptions :=
    validate_oneOf_of_silent hanswers hdone fun q hq => (tidy_check hr (hoptions q hq)).accepts c
  asked := by
    obtain ⟨asked, hasked, hwalk⟩ := Check.oneOf_of_answers (options.map describe) hanswers
    refine ⟨asked, hasked, ?_⟩
    rw [validate_oneOf, hwalk, chosen_eq hdone]
  errs hplain := by
    rw [validate_oneOf_of_plain hplain hdone]
    simp only [← Bool.not_eq_true, isClean_chosenIssues hplain hdone, not_exists, not_and]
  alone hplain herror := by
    rw [validate_oneOf_of_plain hplain hdone] at herror ⊢
    exact chosenIssues_of_error hplain hdone herror
  accepts hplain := accepts_oneOf_iff hplain hdone
  nested := by
    rintro before inner after rfl hinner
    exact accepts_oneOf_nested hinner r before after c

/-- A validator that only ever warns. -/
def notedHosts : List (String × HostValidator) :=
  [("Noted", .probing fun _ c => .warning c "noted" "just a note")]

/-- The items of an array are to be booleans, or else something that is noted. -/
def notedOptions : List Rule :=
  [listOf bool none none, listOf (contains (.custom "Noted" .null)) none none]

/-- What is wrong with the first option is not reported, and a warning does not speak against the second. -/
theorem oneOf_takes_first_noted :
    TakesFirst (.withHosts notedHosts) notedOptions (.root default (.value (.array [.null]))) ∧
      ((oneOf notedOptions).check (.withHosts notedHosts)).validate
        (.root default (.value (.array [.null]))) =
          ⟨[⟨.warning, "noted", "just a note", ["[0]"]⟩], .done ()⟩ := by
  have hplain : ∀ q ∈ notedOptions, ¬ q.AnswersItself := by
    simp [notedOptions, AnswersItself]
  have hdone : ∀ q ∈ notedOptions, ((q.check (.withHosts notedHosts)).validate
      (.root default (.value (.array [.null])))).ending = .done () := by
    decide +kernel
  have hanswers : ∀ q ∈ notedOptions, ∃ b, ((q.check (.withHosts notedHosts)).accepts
      (.root default (.value (.array [.null])))).ending = .done b := by
    intro q hq
    rw [accepts_eq_probe (hplain q hq), Walk.probe_of_done (hdone q hq)]
    exact ⟨_, rfl⟩
  have htakes := oneOf_takes_first hanswers hdone
  refine ⟨htakes, ?_⟩
  rw [htakes.silent (by decide +kernel)]
  decide +kernel

end Rule

end Rulebook
