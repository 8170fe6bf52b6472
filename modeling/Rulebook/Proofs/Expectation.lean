import Rulebook.Check.Entry
import Rulebook.Check.Leaf

/-!
# What walks may find and how they may fail

An expectation bounds what a walk records from a context on and with which errors it ends. If it admits
the issues and errors of the standard checks, wherever these descend to, and those of what a host
supplies, then the check of every rule meets it, with the rules that its lambdas build on the way.
-/

namespace Rulebook

/-- The codes of constraints that do not hold. -/
@[simp] def Code.constraints : List String :=
  [typeMismatch, strTooShort, strTooLong, strPatternMismatch, numNotInteger, numTooSmall, numTooLarge,
    literalMismatch, literalPatternMismatch, fieldMissing, fieldMissingParent, fileNoBase,
    fileNotFound, fileNotFile, fileWrongExt, jsonParseError, dirNoBase, dirNotFound, dirNotDir,
    bundleNotFound, bundleNameMismatch, bundleTypeMismatch, bundleInvalid, bundleOpenError, oneOfNoMatch,
    listTooShort, listTooLong, isNotFail, doesNotContainFail, urlInvalid, urlSchemeMismatch,
    semverInvalid, semverPrerelease]

/-- From a context to a part of what it looks at, or into a group at the same place. -/
inductive Context.Descends : Context → Context → Prop
  | item {c : Context} {items : List Json} {i : Nat} {v : Json} (hc : c.value = .array items)
      (hi : items[i]? = some v) : Descends c (c.child s!"[{i}]" (.value v))
  | member {c : Context} {members : List (String × Json)} {key : String} {v : Json}
      (hc : c.json? = some (.object members)) (hv : (Json.object members).member? key = some v) :
      Descends c (c.child key (.value v))
  | entry {c : Context} {base : String} (path : String) (hc : c.entry? = some base) :
      Descends c (c.child path (.path (Path.join base path)))
  | document {c : Context} {base : String} (v : Json) (hc : c.entry? = some base) :
      Descends c (c.withSubject (.value v))
  | group (c : Context) : Descends c c.enterGroup

structure Expectation where
  /-- What a walk that reports may record in a context. -/
  issue : Context → Issue → Prop
  /-- What may be recorded where a context is only asked about. -/
  silent : Context → Issue → Prop
  error : EngineError → Prop

namespace Expectation

/-- Whatever may be recorded in `d` may be recorded in `c`. -/
def Below (x : Expectation) (c d : Context) : Prop := ∀ i, x.issue d i → x.issue c i

/-- What the standard checks ask of an expectation. -/
structure Sound (x : Expectation) : Prop where
  here : ∀ c code message, code ∈ Code.constraints → x.issue c ⟨.error, code, message, c.path⟩
  silent : ∀ c i, x.silent c i → x.issue c i
  descend : ∀ c d, c.Descends d → x.Below c d
  lambda : ∀ kind message, x.error (.specGroup kind message)
  url : ∀ message, x.error (.invalidArgument "Url" message)
  semver : ∀ message, x.error (.invalidArgument "Semver" message)

end Expectation

/-! ## Walks -/

namespace Walk

variable {α β : Type} {I J : Issue → Prop} {E : EngineError → Prop} {A : α → Prop} {B : β → Prop}

/-- A walk that records, fails and answers only as said. -/
structure Meets (I : Issue → Prop) (E : EngineError → Prop) (A : α → Prop) (w : Walk α) : Prop where
  issues : ∀ i ∈ w.issues, I i
  errors : ∀ e, w.ending = .failed e → E e
  answers : ∀ a, w.ending = .done a → A a

theorem meets_done {a : α} (h : A a) : Meets I E A (done a) := by
  refine ⟨by simp [done], by simp [done], ?_⟩
  rintro b ⟨⟩
  exact h

theorem meets_fail {e : EngineError} (h : E e) : Meets I E A (fail e : Walk α) := by
  refine ⟨by simp [fail], ?_, by simp [fail]⟩
  rintro f ⟨⟩
  exact h

theorem meets_issue {c : Context} {code message : String}
    (h : I ⟨.error, code, message, c.path⟩) : Meets I E (fun _ => True) (issue c code message) :=
  ⟨by simpa [issue] using h, by simp [issue], by simp⟩

theorem meets_bind {w : Walk α} {f : α → Walk β} (hw : w.Meets I E A)
    (hf : ∀ a, A a → (f a).Meets I E B) : (w.bind f).Meets I E B := by
  obtain ⟨issues, ending⟩ := w
  cases ending with
  | done a =>
    have h := hf a (hw.answers a rfl)
    refine ⟨?_, h.errors, h.answers⟩
    intro i hi
    rcases List.mem_append.1 hi with hi | hi
    · exact hw.issues i hi
    · exact h.issues i hi
  | failed e => exact ⟨hw.issues, by simpa [bind] using hw.errors e rfl, by simp [bind]⟩
  | crashed c => exact ⟨hw.issues, by simp [bind], by simp [bind]⟩

theorem Meets.mono {w : Walk α} (hw : w.Meets I E A) (h : ∀ i, I i → J i) : w.Meets J E A :=
  ⟨fun i hi => h i (hw.issues i hi), hw.errors, hw.answers⟩

theorem meets_all {ws : List (Walk Unit)} (h : ∀ w ∈ ws, w.Meets I E fun _ => True) :
    (all ws).Meets I E fun _ => True := by
  induction ws with
  | nil => exact meets_done trivial
  | cons w ws ih =>
    refine meets_bind (h w List.mem_cons_self) fun _ _ => ?_
    exact ih fun v hv => h v (List.mem_cons_of_mem w hv)

theorem meets_when {b : Bool} {w : Walk Unit} (h : w.Meets I E fun _ => True) :
    (Walk.when b w).Meets I E fun _ => True := by
  unfold Walk.when
  split
  · exact h
  · exact meets_done trivial

theorem meets_stop {c : Context} {code message : String} {A : Option α → Prop}
    (h : I ⟨.error, code, message, c.path⟩) (hA : A none) : (stop c code message).Meets I E A :=
  meets_bind (meets_issue h) fun _ _ => meets_done hA

theorem meets_into {w : Walk (Option α)} {f : α → Walk Unit}
    (hw : w.Meets I E fun o => ∀ a ∈ o, A a) (hf : ∀ a, A a → (f a).Meets I E fun _ => True) :
    (w.into f).Meets I E fun _ => True := by
  refine meets_bind hw fun o ho => ?_
  cases o with
  | none => exact meets_done trivial
  | some a => exact hf a (ho a rfl)

theorem meets_probe {w : Walk Unit} (hw : w.Meets I E fun _ => True) :
    w.probe.Meets J E fun _ => True := by
  obtain ⟨issues, ending⟩ := w
  cases ending with
  | done a => exact meets_done trivial
  | failed e => exact meets_fail (hw.errors e rfl)
  | crashed c => exact ⟨by simp, by simp [probe], by simp⟩

end Walk

/-! ## Checks -/

/-- A walk from a context on is as expected. -/
abbrev Expectation.Admits (x : Expectation) (c : Context) (w : Walk Unit) : Prop :=
  w.Meets (x.issue c) x.error fun _ => True

namespace Check

/-- A check whose three walks are as expected. -/
structure Meets (x : Expectation) (k : Check) : Prop where
  validate : ∀ c, x.Admits c (k.validate c)
  accepts : ∀ c, (k.accepts c).Meets (x.silent c) x.error fun _ => True
  present : ∀ c, (k.present c).Meets (x.silent c) x.error fun _ => True

section
variable {x : Expectation}

theorem meets_ofValidate {validate : Context → Walk Unit}
    (h : ∀ c, x.Admits c (validate c)) : Meets x (ofValidate validate) :=
  ⟨h, fun c => Walk.meets_probe (h c), fun c => Walk.meets_probe (h c)⟩

theorem meets_failing {e : EngineError} (h : x.error e) : Meets x (failing e) :=
  ⟨fun _ => Walk.meets_fail h, fun _ => Walk.meets_fail h, fun _ => Walk.meets_fail h⟩

variable (hx : x.Sound)
include hx

theorem meets_issue {code : String} (hcode : code ∈ Code.constraints) (c : Context)
    (message : String) : x.Admits c (Walk.issue c code message) :=
  Walk.meets_issue (hx.here c code message hcode)

theorem meets_constraint {code : String} (hcode : code ∈ Code.constraints) (b : Bool) (c : Context)
    (message : String) : x.Admits c (.when b (.issue c code message)) :=
  Walk.meets_when (meets_issue hx hcode c message)

theorem meets_stop {α : Type} {A : Option α → Prop} {code : String}
    (hcode : code ∈ Code.constraints) (hA : A none) (c : Context) (message : String) :
    (Walk.stop c code message).Meets (x.issue c) x.error A :=
  Walk.meets_stop (hx.here c code message hcode) hA

/-! ### Single values -/

theorem meets_str (min max : Option Nat) (pattern : Option Regex) (c : Context) :
    x.Admits c (str min max pattern c) := by
  unfold str
  split
  · refine Walk.meets_all ?_
    simp only [List.forall_mem_cons, List.not_mem_nil, false_imp_iff, implies_true, and_true]
    exact ⟨meets_constraint hx (by simp) .., meets_constraint hx (by simp) ..,
      meets_constraint hx (by simp) ..⟩
  · exact meets_issue hx (by simp) ..

theorem meets_num (min max : Option Binary64) (integer : Bool) (c : Context) :
    x.Admits c (num min max integer c) := by
  unfold num number
  split
  · split
    · exact meets_issue hx (by simp) ..
    · refine Walk.meets_all ?_
      simp only [List.forall_mem_cons, List.not_mem_nil, false_imp_iff, implies_true, and_true]
      exact ⟨meets_constraint hx (by simp) .., meets_constraint hx (by simp) ..,
        meets_constraint hx (by simp) ..⟩
  · exact meets_issue hx (by simp) ..

theorem meets_bool (c : Context) : x.Admits c (bool c) := by
  unfold bool
  split
  · exact Walk.meets_done trivial
  · exact meets_issue hx (by simp) ..

theorem meets_literal (expected : Json) (c : Context) : x.Admits c (literal expected c) :=
  meets_constraint hx (by simp) ..

theorem meets_pattern (r : Regex) (c : Context) : x.Admits c (pattern r c) := by
  unfold pattern
  split
  · exact meets_constraint hx (by simp) ..
  · exact meets_issue hx (by simp) ..

theorem meets_url (params : Json) (c : Context) : x.Admits c (url params c) := by
  have hparams : ∀ e, schemesOf params = .error e → x.error e := by
    intro e he
    unfold schemesOf at he
    split at he
    · cases he
    · cases he
    · split at he
      · cases he
      · cases he
        exact hx.url _
    · cases he
      exact hx.url _
  unfold url
  split
  · rename_i e he
    exact Walk.meets_fail (hparams e he)
  · split
    · split
      · exact meets_issue hx (by simp) ..
      · exact meets_constraint hx (by simp) ..
    · exact meets_issue hx (by simp) ..

theorem meets_semver (params : Json) (c : Context) : x.Admits c (semver params c) := by
  have hparams : ∀ e, prereleasesOf params = .error e → x.error e := by
    intro e he
    unfold prereleasesOf at he
    split at he
    · cases he
    · cases he
    · cases he
    · cases he
      exact hx.semver _
  unfold semver
  split
  · rename_i e he
    exact Walk.meets_fail (hparams e he)
  · split
    · split
      · exact meets_issue hx (by simp) ..
      · exact meets_constraint hx (by simp) ..
    · exact meets_issue hx (by simp) ..

theorem meets_text (kind : String) (params : Json) (c : Context) :
    x.Admits c (text kind params c) := by
  unfold text
  split
  · exact meets_url hx params c
  · exact meets_semver hx params c

/-! ### Parts -/

omit hx in
theorem meets_each {checks : List Check} (h : ∀ k ∈ checks, k.Meets x) (c : Context) :
    x.Admits c (each checks c) := by
  refine Walk.meets_all fun w hw => ?_
  obtain ⟨k, hk, rfl⟩ := List.mem_map.1 hw
  exact (h k hk).validate c

theorem meets_eachPresent {checks : List Check} (h : ∀ k ∈ checks, k.Meets x) (c : Context) :
    x.Admits c (eachPresent checks c) := by
  induction checks with
  | nil => exact Walk.meets_done trivial
  | cons k ks ih =>
    have hk := h k List.mem_cons_self
    refine Walk.meets_bind ((hk.present c).mono (hx.silent c)) fun there _ => ?_
    refine Walk.meets_bind (Walk.meets_when (hk.validate c)) fun _ _ => ?_
    exact ih fun l hl => h l (List.mem_cons_of_mem k hl)

theorem meets_members {required optional : List Check} (hr : ∀ k ∈ required, k.Meets x)
    (ho : ∀ k ∈ optional, k.Meets x) (c : Context) :
    x.Admits c (members required optional c) :=
  Walk.meets_bind (meets_each hr c) fun _ _ => meets_eachPresent hx ho c

theorem meets_object {required optional : List Check} (hr : ∀ k ∈ required, k.Meets x)
    (ho : ∀ k ∈ optional, k.Meets x) (c : Context) :
    x.Admits c (object required optional c) := by
  refine Walk.meets_into (A := fun _ => True) ?_ fun _ _ => meets_members hx hr ho c
  unfold openObject
  split
  · exact Walk.meets_done (by simp)
  · exact meets_stop hx (by simp) (by simp) ..
  · exact meets_stop hx (by simp) (by simp) ..

theorem meets_oneOf (names : List String) {options : List Check} (h : ∀ k ∈ options, k.Meets x)
    (c : Context) : x.Admits c (oneOf names options c) := by
  induction options with
  | nil => exact meets_issue hx (by simp) ..
  | cons k ks ih =>
    have hk := h k List.mem_cons_self
    refine Walk.meets_bind ((hk.accepts c).mono (hx.silent c)) fun yes _ => ?_
    split
    · exact hk.validate c
    · exact ih fun l hl => h l (List.mem_cons_of_mem k hl)

theorem meets_itemsFrom {item : Check} (h : item.Meets x) {c : Context} {items : List Json}
    (hc : c.value = .array items) (i : Nat) : x.Admits c (itemsFrom item c i (items.drop i)) := by
  generalize hrest : items.drop i = rest
  induction rest generalizing i with
  | nil => exact Walk.meets_done trivial
  | cons v vs ih =>
    have hv : items[i]? = some v := by
      rw [← List.head?_drop, hrest, List.head?_cons]
    have hvs : items.drop (i + 1) = vs := by
      rw [← List.tail_drop, hrest, List.tail_cons]
    have hitem := (h.validate _).mono (hx.descend c _ (.item hc hv))
    exact Walk.meets_bind hitem fun _ _ => ih (i + 1) hvs

theorem meets_listOf {item : Check} (h : item.Meets x) (min max : Option Nat) (c : Context) :
    x.Admits c (listOf item min max c) := by
  refine Walk.meets_into (A := fun items => c.value = .array items) ?_ fun items hitems =>
    meets_itemsFrom hx h hitems 0
  unfold openList
  split
  · rename_i items hitems
    refine Walk.meets_bind (Walk.meets_all ?_) fun _ _ => Walk.meets_done (by simpa using hitems)
    simp only [List.forall_mem_cons, List.not_mem_nil, false_imp_iff, implies_true, and_true]
    exact ⟨meets_constraint hx (by simp) .., meets_constraint hx (by simp) ..⟩
  · exact meets_stop hx (by simp) (by simp) ..

theorem meets_negated {code : String} (hcode : code ∈ Code.constraints) (message : String)
    {inner : Check} (h : inner.Meets x) (c : Context) : x.Admits c (negated code message inner c) :=
  Walk.meets_bind (Walk.meets_probe (h.validate c)) fun _ _ =>
    meets_constraint hx hcode ..

/-! ### Descriptors -/

theorem meets_field (key : String) (isOptional : Bool) {value : Option Check}
    (h : ∀ k ∈ value, k.Meets x) : (field key isOptional value).Meets x := by
  refine ⟨fun c => ?_, fun _ => Walk.meets_done trivial, fun _ => Walk.meets_done trivial⟩
  refine Walk.meets_into (A := fun v => c.Descends (c.child key (.value v))) ?_ fun v hv => ?_
  · unfold openField
    split
    · rename_i members hjson
      split
      · rename_i v hv
        exact Walk.meets_done (by simpa using .member hjson hv)
      · exact Walk.meets_bind (meets_constraint hx (by simp) ..) fun _ _ =>
          Walk.meets_done (by simp)
    · exact Walk.meets_bind (meets_constraint hx (by simp) ..) fun _ _ =>
        Walk.meets_done (by simp)
  · cases value with
    | none => exact Walk.meets_done trivial
    | some k => exact ((h k rfl).validate _).mono (hx.descend c _ hv)

omit hx in
theorem descends_entryAt {path : String} {c d : Context} (h : entryAt path c = some d) :
    c.Descends d := by
  obtain ⟨base, hbase, rfl⟩ := Option.map_eq_some_iff.1 h
  exact .entry path hbase

theorem meets_openFile (path : String) (ext : Option String) (c : Context) :
    (openFile path ext c).Meets (x.issue c) x.error fun o => ∀ d ∈ o, entryAt path c = some d := by
  unfold openFile
  split
  · exact meets_stop hx (by simp) (by simp) ..
  · rename_i child hchild
    have hbelow := hx.descend c child (descends_entryAt hchild)
    dsimp only
    split
    · exact (meets_stop hx (by simp) (by simp) ..).mono hbelow
    · split
      · exact (meets_stop hx (by simp) (by simp) ..).mono hbelow
      · split
        · exact (meets_stop hx (by simp) (by simp) ..).mono hbelow
        · exact Walk.meets_done (by simpa using hchild)

omit hx in
theorem meets_ofFile (path : String) {validate : Context → Walk Unit}
    (h : ∀ c, x.Admits c (validate c)) : (ofFile path validate).Meets x :=
  ⟨h, fun _ => Walk.meets_done trivial, fun _ => Walk.meets_done trivial⟩

theorem meets_file (path : String) (ext : Option String) {content : List Check}
    (h : ∀ k ∈ content, k.Meets x) : (file path ext content).Meets x := by
  refine meets_ofFile path fun c => ?_
  refine Walk.meets_into (meets_openFile hx path ext c) fun d hd => ?_
  exact (meets_each h d).mono (hx.descend c d (descends_entryAt hd))

theorem meets_jsonFile (path : String) {required optional : List Check}
    (hr : ∀ k ∈ required, k.Meets x) (ho : ∀ k ∈ optional, k.Meets x) :
    (jsonFile path required optional).Meets x := by
  refine meets_ofFile path fun c => ?_
  refine Walk.meets_into (A := x.Below c) ?_ fun d hd => (meets_object hx hr ho d).mono hd
  refine Walk.meets_bind (meets_openFile hx path none c) fun o ho => ?_
  cases o with
  | none => exact Walk.meets_done (by simp)
  | some child =>
    obtain ⟨base, hbase, rfl⟩ := Option.map_eq_some_iff.1 (ho child rfl)
    have hbelow := hx.descend c _ (.entry path hbase)
    dsimp only
    split
    · exact (meets_stop hx (by simp) (by simp) ..).mono hbelow
    · refine Walk.meets_done ?_
      rintro d ⟨⟩ i hi
      exact hbelow i (hx.descend _ _ (.document _ rfl) i hi)

theorem meets_directory (path : Option String) {required optional : List Check}
    (hr : ∀ k ∈ required, k.Meets x) (ho : ∀ k ∈ optional, k.Meets x) :
    (directory path required optional).Meets x := by
  refine ⟨fun c => ?_, fun _ => Walk.meets_done trivial, fun _ => Walk.meets_done trivial⟩
  refine Walk.meets_into (A := x.Below c) ?_ fun d hd => (meets_members hx hr ho d).mono hd
  have hbelow : ∀ d ∈ directoryAt path c, x.Below c d := by
    intro d hd
    unfold directoryAt at hd
    split at hd
    · exact hx.descend c d (descends_entryAt hd)
    · obtain ⟨base, -, rfl⟩ := Option.map_eq_some_iff.1 hd
      exact fun _ hi => hi
  unfold openDirectory
  dsimp only
  split
  · exact meets_stop hx (by simp) (by simp) ..
  · rename_i child hchild
    split
    · exact (meets_stop hx (by simp) (by simp) ..).mono (hbelow child hchild)
    · split
      · exact (meets_stop hx (by simp) (by simp) ..).mono (hbelow child hchild)
      · exact Walk.meets_done (by simpa using hbelow child hchild)

omit hx in
theorem packageFault?_constraint {disk : Disk} {path code message : String}
    (h : packageFault? disk path = some (code, message)) : code ∈ Code.constraints := by
  unfold packageFault? at h
  split at h
  · cases h
    simp
  · split at h
    · cases h
      simp
    · split at h
      · cases h
        simp
      · obtain ⟨f, -, hfault⟩ := Option.map_eq_some_iff.1 h
        cases hfault
        simp

theorem meets_package (name : Option Regex) {group : Context → Walk Unit}
    (h : ∀ c, x.Admits c (group c)) (c : Context) : x.Admits c (package name group c) := by
  refine Walk.meets_into (A := fun _ => True) ?_ fun _ _ => h c
  unfold openPackage
  split
  · exact Walk.meets_done (by simp)
  · split
    · rename_i code message hfault
      exact meets_stop hx (packageFault?_constraint hfault) (by simp) ..
    · exact Walk.meets_bind (meets_constraint hx (by simp) ..) fun _ _ =>
        Walk.meets_done (by simp)

end

end Check

end Rulebook
