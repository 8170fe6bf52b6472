import Rulebook.Proofs.Kinds

/-!
# Matching and reporting agree

A rule accepts what a walk finds no error in. Most rules accept by such a walk; those of entries and of
members only ask whether a part is there, which a walk that finds no error has found too. The one thing
it may pass over is an optional member that is missing.
-/

namespace Rulebook

/-- An optional field whose key is not in a document that is an object. -/
def Rule.IsMissingOption (c : Context) : Rule → Prop
  | .contains (.field key true _) =>
    ∀ members, c.json? = some (.object members) → (Json.object members).member? key = none
  | _ => False

/-- A rule that silently only asks whether a member or an entry is there. -/
def Rule.AsksForPart : Rule → Prop
  | .contains (.field ..) | .contains (.file ..) | .contains (.directory ..)
  | .contains (.jsonFile ..) => True
  | _ => False

/-! ## What a walk without errors has found -/

namespace Walk

variable {α β : Type} {w : Walk α}

theorem isClean_of_bind {f : α → Walk β} (h : isClean (w.bind f).issues = true) :
    isClean w.issues = true := by
  obtain ⟨issues, _ | _ | _⟩ := w
  · rw [bind, isClean_append, Bool.and_eq_true] at h
    exact h.1
  · exact h
  · exact h

theorem ending_probe {w : Walk Unit} {b : Bool} (h : w.probe.ending = .done b) :
    b = isClean w.issues := by
  unfold probe at h
  split at h
  · cases h
    rfl
  · cases h
  · cases h

end Walk

namespace Check

theorem hasMember_eq_false {key : String} {c : Context} :
    hasMember key c = false ↔
      ∀ members, c.json? = some (.object members) → (Json.object members).member? key = none := by
  unfold hasMember
  cases c.json? with
  | none => simp
  | some v =>
    cases v with
    | object members => simp
    | _ => simp [Json.member?]

theorem hasMember_of_clean {key : String} {isOptional : Bool} {c : Context}
    (h : isClean (openField key isOptional c).issues = true) :
    hasMember key c = true ∨ isOptional = true := by
  unfold openField at h
  split at h
  · rename_i members hjson
    split at h
    · rename_i v hv
      exact .inl (by simp [hasMember, hjson, hv])
    · cases isOptional with
      | true => exact .inr rfl
      | false => cases h
  · cases isOptional with
    | true => exact .inr rfl
    | false => cases h

theorem isFileAt_of_clean {path : String} {ext : Option String} {c : Context}
    (h : isClean (openFile path ext c).issues = true) : isFileAt path c = true := by
  unfold openFile at h
  split at h
  · cases h
  · rename_i child hchild
    dsimp only at h
    split at h
    · cases h
    · split at h
      · cases h
      · rename_i hfile
        simpa [isFileAt, hchild] using hfile

theorem isDirectoryAt_of_clean {path : Option String} {c : Context}
    (h : isClean (openDirectory path c).issues = true) : isDirectoryAt path c = true := by
  unfold openDirectory at h
  dsimp only at h
  split at h
  · cases h
  · rename_i child hchild
    split at h
    · cases h
    · split at h
      · cases h
      · rename_i hdir
        simpa [isDirectoryAt, hchild] using hdir

/-! ## The two modes of a check -/

/-- Without errors the answer is yes, unless what is asked for was left out. -/
def Agrees (k : Check) (c : Context) (leftOut : Prop) : Prop :=
  ∀ b, (k.accepts c).ending = .done b → isClean (k.validate c).issues = true →
    (b = false ↔ leftOut)

/-- The answer is yes exactly if a walk finds no error. -/
def AgreesFully (k : Check) (c : Context) : Prop :=
  ∀ b, (k.accepts c).ending = .done b → (b = true ↔ isClean (k.validate c).issues = true)

theorem agreesFully_ofValidate (validate : Context → Walk Unit) (c : Context) :
    (ofValidate validate).AgreesFully c := by
  intro b hb
  rw [Walk.ending_probe hb]
  rfl

theorem AgreesFully.agrees {k : Check} {c : Context} (h : k.AgreesFully c) : k.Agrees c False := by
  intro b hb hclean
  simp [(h b hb).2 hclean]

theorem agrees_field (key : String) (isOptional : Bool) (value : Option Check) (c : Context) :
    (field key isOptional value).Agrees c (isOptional = true ∧ hasMember key c = false) := by
  rintro b ⟨⟩ hclean
  have hfound := hasMember_of_clean (Walk.isClean_of_bind hclean)
  constructor
  · intro hmissing
    exact ⟨hfound.resolve_left (by simp [hmissing]), hmissing⟩
  · exact And.right

theorem agrees_file (path : String) (ext : Option String) (content : List Check) (c : Context) :
    (file path ext content).Agrees c False := by
  rintro b ⟨⟩ hclean
  simp [isFileAt_of_clean (Walk.isClean_of_bind hclean)]

theorem agrees_jsonFile (path : String) (required optional : List Check) (c : Context) :
    (jsonFile path required optional).Agrees c False := by
  rintro b ⟨⟩ hclean
  have hfile := Walk.isClean_of_bind (Walk.isClean_of_bind hclean)
  simp [isFileAt_of_clean hfile]

theorem agrees_directory (path : Option String) (required optional : List Check) (c : Context) :
    (directory path required optional).Agrees c False := by
  rintro b ⟨⟩ hclean
  simp [isDirectoryAt_of_clean (Walk.isClean_of_bind hclean)]

end Check

/-! ## The two modes of a rule -/

theorem Registry.route_standard_ne_host (d : Descriptor) (v : HostValidator) :
    standard.route d ≠ .host v := by
  unfold route lookup
  by_cases h : d.kind ∈ StandardKind.all.map StandardKind.name
  · obtain ⟨k, -, hk⟩ := List.mem_map.1 h
    rw [← hk, validator?_standard]
    dsimp only
    split <;> simp
  · rw [validator?_standard_none h]
    simp

theorem isMissingOption_field {key : String} {isOptional : Bool} {value : Option Rule} {c : Context} :
    (Rule.contains (.field key isOptional value)).IsMissingOption c ↔
      isOptional = true ∧ Check.hasMember key c = false := by
  rw [Check.hasMember_eq_false]
  cases isOptional <;> simp [Rule.IsMissingOption]

/-- The check of a rule that has no host's code at its root agrees, if it can be done. -/
theorem agrees_check {rule : Rule} (hhost : ∀ h, rule ≠ .host h) {c : Context}
    (hdone : ((rule.check .standard).validate c).ending = .done ()) :
    (rule.check .standard).Agrees c (rule.IsMissingOption c) ∧
      (¬ rule.AsksForPart → (rule.check .standard).AgreesFully c) := by
  have hprobing : ∀ validate, (Check.ofValidate validate).Agrees c False ∧
      (¬ False → (Check.ofValidate validate).AgreesFully c) := fun validate =>
    ⟨(Check.agreesFully_ofValidate validate c).agrees,
      fun _ => Check.agreesFully_ofValidate validate c⟩
  cases rule with
  | str | num | bool | literal | pattern | object | oneOf | listOf => exact hprobing _
  | not flavor inner => cases flavor <;> exact hprobing _
  | host h => exact absurd rfl (hhost h)
  | contains d =>
    cases hroute : Registry.standard.route d with
    | host v => exact absurd hroute (Registry.route_standard_ne_host d v)
    -- A refused descriptor has no walk that is done.
    | refused e =>
      unfold Rule.check Rule.checkWith Descriptor.checkWith at hdone
      rw [hroute] at hdone
      cases hdone
    | standard =>
      unfold Rule.check Rule.checkWith Descriptor.checkWith
      rw [hroute]
      cases d with
      | field key isOptional value =>
        rw [isMissingOption_field]
        exact ⟨Check.agrees_field key isOptional _ c, fun h => absurd trivial h⟩
      | file => exact ⟨Check.agrees_file _ _ _ c, fun h => absurd trivial h⟩
      | directory => exact ⟨Check.agrees_directory _ _ _ c, fun h => absurd trivial h⟩
      | jsonFile => exact ⟨Check.agrees_jsonFile _ _ _ c, fun h => absurd trivial h⟩
      | package | custom => exact hprobing _

/-- Where both walks of a rule without code of a host can be done, a rule in which no error is found is
accepted, the missing optional member apart, and a rule that asks for no part is accepted only then. -/
theorem modes_agree {rule : Rule} (hhost : ∀ h, rule ≠ .host h) {c : Context}
    (hdone : ((rule.check .standard).validate c).ending = .done ()) {b : Bool}
    (hanswer : ((rule.check .standard).accepts c).ending = .done b) :
    (isClean ((rule.check .standard).validate c).issues = true →
      (b = false ↔ rule.IsMissingOption c)) ∧
    (¬ rule.AsksForPart → (b = true ↔ isClean ((rule.check .standard).validate c).issues = true)) := by
  obtain ⟨hagrees, hfully⟩ := agrees_check hhost hdone
  exact ⟨hagrees b hanswer, fun h => hfully h b hanswer⟩

/-- An optional field of an empty object passes a walk and is not accepted. -/
theorem modes_agree_missing :
    ((Rule.contains (.field "a" true none)).check .standard).validate
        (.root default (.value (.object []))) = .done () ∧
      ((Rule.contains (.field "a" true none)).check .standard).accepts
        (.root default (.value (.object []))) = .done false ∧
      (Rule.contains (.field "a" true none)).IsMissingOption
        (.root default (.value (.object []))) := by
  have hvalidate : ((Rule.contains (.field "a" true none)).check .standard).validate
      (.root default (.value (.object []))) = .done () := by
    decide +kernel
  have haccepts : ((Rule.contains (.field "a" true none)).check .standard).accepts
      (.root default (.value (.object []))) = .done false := by
    decide +kernel
  have hagree := modes_agree (by simp) (congrArg Walk.ending hvalidate)
    (congrArg Walk.ending haccepts)
  exact ⟨hvalidate, haccepts, (hagree.1 (by rw [hvalidate]; rfl)).1 rfl⟩

end Rulebook
