import Rulebook.Proofs.Visits

/-!
# Walks in other places

A walk looks neither at the path that led to its context nor at how many groups enclose it, until it
comes to a lambda group or to code of a host. So over the same subject in another place it ends the same
way and finds the same issues, under the path of that place.
-/

namespace Rulebook

/-- The issue as it is found below a path. -/
def Issue.under (p : List String) (i : Issue) : Issue := { i with path := p ++ i.path }

/-- The place of the same subject below a path, with `n` more groups around it. -/
def Context.moved (p : List String) (n : Nat) (c : Context) : Context :=
  { c with path := p ++ c.path, groupDepth := c.groupDepth + n }

namespace Context

variable (p : List String) (n : Nat) (c : Context)

@[simp] theorem value_moved : (c.moved p n).value = c.value := rfl

@[simp] theorem json?_moved : (c.moved p n).json? = c.json? := rfl

@[simp] theorem entry?_moved : entry? (c.moved p n) = c.entry? := rfl

@[simp] theorem disk_moved : (c.moved p n).disk = c.disk := rfl

@[simp] theorem child_moved (segment : String) (s : Subject) :
    (c.moved p n).child segment s = (c.child segment s).moved p n := by
  simp [child, moved]

end Context

/-! ## Walks -/

def Ending.map {α β : Type} (f : α → β) : Ending α → Ending β
  | done a => done (f a)
  | failed e => failed e
  | crashed c => crashed c

namespace Walk

variable {α β γ : Type}

/-- The same walk with another answer. -/
def map (f : α → β) (w : Walk α) : Walk β := ⟨w.issues, w.ending.map f⟩

/-- The same walk as it goes below a path. -/
def under (p : List String) (w : Walk α) : Walk α := ⟨w.issues.map (·.under p), w.ending⟩

section
variable (p : List String) (n : Nat)

@[simp] theorem under_done (a : α) : (done a).under p = done a := rfl

@[simp] theorem under_fail (e : EngineError) : (fail e : Walk α).under p = fail e := rfl

@[simp] theorem under_nil (w : Walk α) : w.under [] = w := by
  have hid : (Issue.under [] : Issue → Issue) = id := rfl
  simp [under, hid]

@[simp] theorem issue_moved (c : Context) (code message : String) :
    issue (c.moved p n) code message = (issue c code message).under p := rfl

theorem bind_under {w : Walk α} {f f' : α → Walk β}
    (h : ∀ a, w.ending = .done a → f' a = (f a).under p) :
    (w.under p).bind f' = (w.bind f).under p := by
  obtain ⟨issues, ending⟩ := w
  cases ending with
  | done a => simp [bind, under, h a rfl]
  | failed e => rfl
  | crashed c => rfl

@[simp] theorem stop_moved (c : Context) (code message : String) :
    (stop (c.moved p n) code message : Walk (Option α)) = (stop c code message).under p := rfl

@[simp] theorem when_under (b : Bool) (w : Walk Unit) :
    Walk.when b (w.under p) = (Walk.when b w).under p := by
  cases b <;> rfl

theorem all_under {f f' : α → Walk Unit} {xs : List α}
    (h : ∀ x, InTurn (fun y => (f y).ending = .done ()) xs x → f' x = (f x).under p) :
    all (xs.map f') = (all (xs.map f)).under p := by
  induction xs with
  | nil => rfl
  | cons x xs ih =>
    simp only [List.map_cons, all]
    rw [h x (.head x xs)]
    exact bind_under p fun _ hx => ih fun y hy => h y (.tail hx hy)

theorem all_map_under (ws : List (Walk Unit)) : all (ws.map (·.under p)) = (all ws).under p := by
  have h : all (ws.map (·.under p)) = (all (ws.map id)).under p := all_under p fun _ _ => rfl
  rwa [List.map_id] at h

theorem probe_under (w : Walk Unit) : (w.under p).probe = w.probe.under p := by
  have hclean : isClean (w.issues.map (·.under p)) = isClean w.issues := by
    simp only [isClean, List.any_map]
    rfl
  obtain ⟨issues, _ | _ | _⟩ := w
  · simp only [probe, under, hclean]
    rfl
  · rfl
  · rfl

theorem into_under {w : Walk (Option α)} {f f' : α → Walk Unit}
    (h : ∀ a, w.ending = .done (some a) → f' a = (f a).under p) :
    (w.under p).into f' = (w.into f).under p := by
  refine bind_under p fun o ho => ?_
  cases o with
  | none => rfl
  | some a => exact h a ho

theorem map_bind (w : Walk α) (g : α → β) (f : β → Walk γ) :
    (w.map g).bind f = w.bind fun a => f (g a) := by
  obtain ⟨issues, _ | _ | _⟩ := w <;> rfl

theorem map_into (w : Walk (Option α)) (g : α → β) (f : β → Walk Unit) :
    (w.map (Option.map g)).into f = w.into fun a => f (g a) := by
  obtain ⟨issues, (_ | _) | _ | _⟩ := w <;> rfl

theorem bind_map (w : Walk α) (f : α → Walk β) (g : β → γ) :
    (w.bind f).map g = w.bind fun a => (f a).map g := by
  obtain ⟨issues, _ | _ | _⟩ := w <;> rfl

end

end Walk

/-! ## Single values -/

namespace Check

variable (p : List String) (n : Nat) (c : Context)

theorem str_moved (min max : Option Nat) (pattern : Option Regex) :
    str min max pattern (c.moved p n) = (str min max pattern c).under p := by
  simp only [str, wrongType, Context.value_moved]
  split
  · rw [← Walk.all_map_under]
    simp
  · simp

theorem num_moved (min max : Option Binary64) (integer : Bool) :
    num min max integer (c.moved p n) = (num min max integer c).under p := by
  simp only [num, number, wrongType, Context.value_moved]
  split
  · split
    · simp
    · rw [← Walk.all_map_under]
      simp
  · simp

theorem bool_moved : bool (c.moved p n) = (bool c).under p := by
  simp only [bool, wrongType, Context.value_moved]
  split <;> simp

theorem literal_moved (expected : Json) :
    literal expected (c.moved p n) = (literal expected c).under p := by
  simp [literal]

theorem pattern_moved (r : Regex) : pattern r (c.moved p n) = (pattern r c).under p := by
  simp only [pattern, wrongType, Context.value_moved]
  split <;> simp

theorem url_moved (params : Json) : url params (c.moved p n) = (url params c).under p := by
  simp only [url, wrongType, Context.value_moved]
  split
  · simp
  · split
    · split <;> simp
    · simp

theorem semver_moved (params : Json) : semver params (c.moved p n) = (semver params c).under p := by
  simp only [semver, wrongType, Context.value_moved]
  split
  · simp
  · split
    · split <;> simp
    · simp

theorem text_moved (kind : String) (params : Json) :
    text kind params (c.moved p n) = (text kind params c).under p := by
  unfold text
  split
  · exact url_moved ..
  · exact semver_moved ..

/-! ## What is opened -/

theorem openObject_moved : openObject (c.moved p n) = (openObject c).under p := by
  simp only [openObject, Context.json?_moved]
  split <;> simp

theorem openList_moved (min max : Option Nat) :
    openList min max (c.moved p n) = (openList min max c).under p := by
  simp only [openList, Context.value_moved]
  split
  · rw [← Walk.bind_under p fun _ _ => rfl, ← Walk.all_map_under]
    simp
  · simp

theorem openField_moved (key : String) (isOptional : Bool) :
    openField key isOptional (c.moved p n) = (openField key isOptional c).under p := by
  simp only [openField, Context.json?_moved, Walk.issue_moved, Walk.when_under]
  split
  · split
    · rfl
    · exact Walk.bind_under p fun _ _ => rfl
  · exact Walk.bind_under p fun _ _ => rfl

theorem entryAt_moved (path : String) :
    entryAt path (c.moved p n) = (entryAt path c).map (·.moved p n) := by
  simp [entryAt, Function.comp_def]

theorem directoryAt_moved (path : Option String) :
    directoryAt path (c.moved p n) = (directoryAt path c).map (·.moved p n) := by
  cases path with
  | none => simp [directoryAt, Function.comp_def]
  | some path => exact entryAt_moved ..

@[simp] theorem isEntry_moved (sort : Disk → String → Bool) :
    isEntry sort (c.moved p n) = isEntry sort c := rfl

@[simp] theorem isFileAt_moved (path : String) : isFileAt path (c.moved p n) = isFileAt path c := by
  simp [isFileAt, entryAt_moved, Option.any_map]

@[simp] theorem isDirectoryAt_moved (path : Option String) :
    isDirectoryAt path (c.moved p n) = isDirectoryAt path c := by
  simp [isDirectoryAt, directoryAt_moved, Option.any_map]

@[simp] theorem isThere_moved (d : Option Context) :
    isThere (d.map (·.moved p n)) = isThere d := by
  cases d <;> rfl

theorem openFile_moved (path : String) (ext : Option String) :
    openFile path ext (c.moved p n) =
      ((openFile path ext c).under p).map (Option.map (·.moved p n)) := by
  simp only [openFile, entryAt_moved]
  cases entryAt path c with
  | none => rfl
  | some d =>
    simp only [Option.map_some, Walk.stop_moved, apply_ite (Walk.under p), apply_ite (Walk.map _)]
    rfl

theorem openDirectory_moved (path : Option String) :
    openDirectory path (c.moved p n) =
      ((openDirectory path c).under p).map (Option.map (·.moved p n)) := by
  simp only [openDirectory, directoryAt_moved]
  cases directoryAt path c with
  | none => rfl
  | some d =>
    simp only [Option.map_some, Walk.stop_moved, apply_ite (Walk.under p), apply_ite (Walk.map _)]
    rfl

theorem openPackage_moved (name : Option Regex) :
    openPackage name (c.moved p n) = (openPackage name c).under p := by
  simp only [openPackage, Context.entry?_moved, Context.disk_moved, Walk.issue_moved,
    Walk.when_under, Walk.stop_moved]
  split
  · rfl
  · split
    · rfl
    · exact Walk.bind_under p fun _ _ => rfl

theorem openDocument_moved (path : String) :
    openDocument path (c.moved p n) =
      ((openDocument path c).under p).map (Option.map (·.moved p n)) := by
  unfold openDocument
  rw [openFile_moved, Walk.map_bind, ← Walk.bind_under p fun _ _ => rfl, Walk.bind_map]
  congr 1
  funext o
  cases o with
  | none => rfl
  | some d =>
    have hdocument : documentOf path (d.moved p n) = documentOf path d := rfl
    simp only [Option.map_some, hdocument]
    split <;> rfl

end Check

/-! ## Visits -/

section
variable {groups groups' : GroupWalk} {p : List String} {n : Nat} {c : Context}

theorem Check.ifPresent_moved {k k' : Check} {d : Context} (hpresent : k'.present d = (k.present c).under p)
    (hvalidate : (k.present c).ending = .done true → k'.validate d = (k.validate c).under p) :
    k'.ifPresent d = (k.ifPresent c).under p := by
  unfold ifPresent
  rw [hpresent]
  refine Walk.bind_under p fun there hthere => ?_
  cases there with
  | false => rfl
  | true => exact hvalidate hthere

theorem Check.oneOf_moved {names : List String} {f f' : Rule → Check} {options : List Rule} {d : Context}
    (hnone : noMatch names d = (noMatch names c).under p)
    (h : ∀ rule, InTurn (fun q => ((f q).accepts c).ending = .done false) options rule →
      (f' rule).accepts d = ((f rule).accepts c).under p ∧
        (((f rule).accepts c).ending = .done true →
          (f' rule).validate d = ((f rule).validate c).under p)) :
    oneOf names (options.map f') d = (oneOf names (options.map f) c).under p := by
  induction options with
  | nil => exact hnone
  | cons rule options ih =>
    obtain ⟨haccepts, hvalidate⟩ := h rule (.head rule options)
    simp only [List.map_cons, oneOf]
    rw [haccepts]
    refine Walk.bind_under p fun yes hyes => ?_
    cases yes with
    | false => exact ih fun q hq => h q (.tail hyes hq)
    | true => exact hvalidate hyes

/-- What is neither a host's nor about a lambda group itself. -/
def Job.Own : Job → Prop
  | validate (.host _) | accepts (.host _) | present (.host _) | group .. | build .. => False
  | validate _ | accepts _ | present _ | each _ | eachPresent _ | members .. => True

namespace Job

theorem Own.not_host {rule : Rule}
    (h : (validate rule).Own ∨ (accepts rule).Own ∨ (present rule).Own) (g : HostRule) :
    rule ≠ .host g := by
  rintro rfl
  rcases h with h | h | h <;> exact h

theorem part_moved {rule : Rule} (hpart : rule.AsksForPart) :
    (accepts rule).walk groups' (c.moved p n) = ((accepts rule).walk groups c).under p ∧
      (present rule).walk groups' (c.moved p n) = ((present rule).walk groups c).under p := by
  obtain ⟨d, rfl⟩ : ∃ d, rule = .contains d := by
    cases rule with
    | contains d => exact ⟨d, rfl⟩
    | _ => exact hpart.elim
  cases d with
  | field =>
    simp only [walk, Rule.checkWith_field]
    exact ⟨rfl, rfl⟩
  | file => simp [walk, Rule.checkWith_file, Check.file, Check.ofFile, Check.entryAt_moved]
  | jsonFile => simp [walk, Rule.checkWith_jsonFile, Check.jsonFile, Check.ofFile, Check.entryAt_moved]
  | directory => simp [walk, Rule.checkWith_directory, Check.directory, Check.directoryAt_moved]
  | package | custom => exact hpart.elim

theorem asked_moved {rule : Rule} (hhost : ∀ g, rule ≠ .host g)
    (h : ¬ rule.AsksForPart → (validate rule).walk groups' (c.moved p n) =
      ((validate rule).walk groups c).under p) :
    (accepts rule).walk groups' (c.moved p n) = ((accepts rule).walk groups c).under p ∧
      (present rule).walk groups' (c.moved p n) = ((present rule).walk groups c).under p := by
  by_cases hpart : rule.AsksForPart
  · exact part_moved hpart
  · obtain ⟨haccepts, hpresent⟩ := walk_byWalk groups c hhost hpart
    obtain ⟨haccepts', hpresent'⟩ := walk_byWalk groups' (c.moved p n) hhost hpart
    rw [haccepts, hpresent, haccepts', hpresent', h hpart, Walk.probe_under]
    exact ⟨rfl, rfl⟩

theorem custom_moved (kind : String) (params : Json) :
    (validate (.contains (.custom kind params))).walk groups' (c.moved p n) =
      ((validate (.contains (.custom kind params))).walk groups c).under p := by
  obtain h | ⟨e, h⟩ := Rule.checkWith_custom kind params
  · rw [walk, walk, h, h]
    exact Check.text_moved ..
  · rw [walk, walk, h, h]
    rfl

/-- A part is checked alike in another place if what it asks for in there is. -/
theorem contains_moved (d : Descriptor)
    (h : ∀ w, Asks groups ⟨validate (.contains d), c⟩ w →
      w.job.walk groups' (w.context.moved p n) = (w.walk groups).under p) :
    (validate (.contains d)).walk groups' (c.moved p n) =
      ((validate (.contains d)).walk groups c).under p := by
  cases d with
  | field key isOptional value =>
    rw [walk_field, walk_field, Check.openField_moved]
    simp only [Context.child_moved]
    refine Walk.into_under p fun v hopen => ?_
    cases value with
    | none => rfl
    | some rule => exact h _ (.field hopen)
  | file path ext content =>
    rw [walk_file, walk_file, Check.openFile_moved, Walk.map_into]
    exact Walk.into_under p fun d hopen => h _ (.file hopen)
  | directory path required optional =>
    rw [walk_directory, walk_directory, Check.openDirectory_moved, Walk.map_into]
    exact Walk.into_under p fun d hopen => h _ (.directory hopen)
  | jsonFile path required optional =>
    rw [walk_jsonFile, walk_jsonFile, Check.openDocument_moved, Walk.map_into]
    exact Walk.into_under p fun d hopen => h _ (.jsonFile hopen)
  | package name group =>
    cases group with
    | rules rules =>
      rw [walk_rules, walk_rules, Check.openPackage_moved]
      exact Walk.into_under p fun _ hopen => h _ (.rules hopen)
    | «lazy» kind l =>
      rw [walk_lazy, walk_lazy, Check.openPackage_moved]
      exact Walk.into_under p fun _ hopen => h _ (.lazy hopen)
  | custom kind params => exact custom_moved kind params

theorem rule_moved {rule : Rule} (hhost : ∀ g, rule ≠ .host g)
    (h : ∀ w, Asks groups ⟨validate rule, c⟩ w →
      w.job.walk groups' (w.context.moved p n) = (w.walk groups).under p) :
    (validate rule).walk groups' (c.moved p n) = ((validate rule).walk groups c).under p := by
  cases rule with
  | str => exact Check.str_moved ..
  | num => exact Check.num_moved ..
  | bool => exact Check.bool_moved ..
  | literal => exact Check.literal_moved ..
  | pattern => exact Check.pattern_moved ..
  | host g => exact absurd rfl (hhost g)
  | object required optional =>
    rw [walk_object, walk_object, Check.openObject_moved]
    exact Walk.into_under p fun _ hopen => h _ (.object hopen)
  | oneOf options =>
    rw [walk_oneOf, walk_oneOf]
    refine Check.oneOf_moved rfl fun rule hturn => ⟨h _ (.option hturn), ?_⟩
    exact fun hyes => h _ (.choice hturn hyes)
  | listOf item min max =>
    rw [walk_listOf, walk_listOf, Check.openList_moved]
    simp only [Context.child_moved]
    refine Walk.into_under p fun items hopen => ?_
    exact Walk.all_under p fun v hturn => h _ (.item (Check.value_of_openList hopen) hturn)
  | not flavor inner =>
    obtain ⟨code, message, hwalk⟩ := walk_not flavor inner
    rw [hwalk, hwalk, h _ .negated, Walk.probe_under]
    exact Walk.bind_under p fun clean _ => by simp
  | contains d => exact contains_moved d h

/-- A job is done alike in another place if everything that it asks for is. -/
theorem walk_moved {job : Job} (hown : job.Own)
    (h : ∀ w, Asks groups ⟨job, c⟩ w →
      w.job.walk groups' (w.context.moved p n) = (w.walk groups).under p) :
    job.walk groups' (c.moved p n) = (job.walk groups c).under p := by
  cases job with
  | group | build => exact hown.elim
  | each rules =>
    rw [walk_each, walk_each]
    exact Walk.all_under p fun rule hturn => h _ (.each hturn)
  | eachPresent rules =>
    rw [walk_eachPresent, walk_eachPresent]
    refine Walk.all_under p fun rule hturn => ?_
    exact Check.ifPresent_moved (h _ (.present hturn)) fun hthere => h _ (.there hturn hthere)
  | members required optional =>
    rw [walk_members, walk_members, h _ .required]
    exact Walk.bind_under p fun _ hrequired => h _ (.optional hrequired)
  | validate rule => exact rule_moved (Own.not_host (.inl hown)) h
  | accepts rule =>
    have hhost := Own.not_host (.inr (.inl hown))
    exact (asked_moved hhost fun hpart => h _ (.acceptsByWalk hhost hpart)).1
  | present rule =>
    have hhost := Own.not_host (.inr (.inr hown))
    exact (asked_moved hhost fun hpart => h _ (.presentByWalk hhost hpart)).2

end Job

end

/-! ## Rules that are all there from the start -/

namespace Rule

/-- A rule that is neither a package with a lambda group nor code of a host. -/
def IsPlain : Rule → Prop
  | host _ | contains (.package _ (.lazy ..)) => False
  | _ => True

/-- A rule without lambda groups and code of hosts, at any depth. -/
inductive Eager : Rule → Prop
  | intro {rule : Rule} (hplain : rule.IsPlain) (hparts : ∀ part ∈ rule.parts, Eager part) : Eager rule

theorem Eager.plain {rule : Rule} (h : rule.Eager) : rule.IsPlain := by
  cases h
  assumption

theorem Eager.part {rule : Rule} (h : rule.Eager) : ∀ part ∈ rule.parts, part.Eager := by
  cases h
  assumption

end Rule

/-- A job on rules that are all there from the start. -/
def Job.Eager : Job → Prop
  | validate rule | accepts rule | present rule => rule.Eager
  | each rules | eachPresent rules => ∀ rule ∈ rules, rule.Eager
  | members required optional =>
    (∀ rule ∈ required, rule.Eager) ∧ ∀ rule ∈ optional, rule.Eager
  | group .. | build .. => False

theorem Job.Eager.own {job : Job} (h : job.Eager) : job.Own := by
  cases job with
  | validate rule | accepts rule | present rule =>
    cases rule with
    | host => exact h.plain.elim
    | _ => exact trivial
  | group | build => exact h
  | _ => exact trivial

theorem Asks.eager {groups : GroupWalk} {v w : Visit} (h : Asks groups v w) (hv : v.job.Eager) :
    w.job.Eager := by
  cases h with
  | each hturn | present hturn | there hturn => exact hv _ hturn.mem
  | required => exact hv.1
  | optional => exact hv.2
  | acceptsByWalk | presentByWalk => exact hv
  | object | directory =>
    have hparts := hv.part
    simpa [Rule.parts, Job.Eager, or_imp, forall_and] using hparts
  | option hturn | choice hturn => exact hv.part _ hturn.mem
  | item | negated | field => exact hv.part _ (by simp [Rule.parts])
  | file | rules => exact hv.part
  | jsonFile => exact .intro trivial hv.part
  | «lazy» => exact hv.plain.elim
  | enter | built => exact hv.elim

theorem Job.walk_moved_of_eager (groups : GroupWalk) (p : List String) (n : Nat) (v : Visit)
    (hv : v.job.Eager) :
    v.job.walk groups (v.context.moved p n) = (v.walk groups).under p := by
  -- An eager rule asks for eager ones only, so the walk never comes to a group.
  induction v using (wellFounded_asks groups).induction with
  | _ v ih => exact walk_moved hv.own fun w hasks => ih w hasks (hasks.eager hv)

/-! ## Lists -/

/-- The issues of a list with so many items. -/
def lengthIssues (min max : Option Nat) (length : Nat) : List Issue :=
  (if min.any (length < ·) then
    [⟨.error, Code.listTooShort, s!"List length {length} is less than minimum {min.getD 0}", []⟩]
  else []) ++
  (if max.any (· < length) then
    [⟨.error, Code.listTooLong, s!"List length {length} exceeds maximum {max.getD 0}", []⟩]
  else [])

theorem Check.openList_array {c : Context} {items : List Json} (hc : c.value = .array items)
    (min max : Option Nat) :
    openList min max c =
      ⟨(lengthIssues min max items.length).map (·.under c.path), .done (some items)⟩ := by
  simp only [openList, hc, lengthIssues, Walk.all, Walk.when]
  split <;> split <;> simp [Walk.bind, Walk.issue, Walk.done, Issue.under]

theorem Walk.all_of_done {ws : List (Walk Unit)} (h : ∀ w ∈ ws, w.ending = .done ()) :
    all ws = ⟨ws.flatMap (·.issues), .done ()⟩ := by
  induction ws with
  | nil => rfl
  | cons w ws ih =>
    have hw := h w List.mem_cons_self
    have hws := ih fun v hv => h v (List.mem_cons_of_mem w hv)
    simp [all, bind, hw, hws]

/-- A list on whose items no walk stops has the issues of its length, then those of each item in turn. -/
theorem Check.listOf_of_done (item : Check) (c : Context) {items : List Json}
    (hc : c.value = .array items) (min max : Option Nat)
    (hdone : ∀ v ∈ items.zipIdx,
      (item.validate (c.child s!"[{v.2}]" (.value v.1))).ending = .done ()) :
    listOf item min max c =
      ⟨(lengthIssues min max items.length).map (·.under c.path) ++
        items.zipIdx.flatMap fun v => (item.validate (c.child s!"[{v.2}]" (.value v.1))).issues,
      .done ()⟩ := by
  unfold listOf
  rw [openList_array hc, Walk.into, Walk.bind]
  dsimp only
  rw [itemsFrom_eq_all, Walk.all_of_done (List.forall_mem_map.2 hdone), List.flatMap_map]

/-- A rule that is all there from the start finds under the path of a place what it finds at the root. -/
theorem Rule.Eager.validate_eq_under {rule : Rule} (h : rule.Eager) (disk : Disk) (path : List String)
    (subject : Subject) (depth : Nat) :
    (rule.check .standard).validate ⟨disk, path, subject, depth⟩ =
      ((rule.check .standard).validate (.root disk subject)).under path := by
  have hwalk := Job.walk_moved_of_eager (groupWalk .standard maxGroups) path depth
    ⟨.validate rule, .root disk subject⟩ h
  have hplace : (Context.root disk subject).moved path depth = ⟨disk, path, subject, depth⟩ := by
    simp [Context.moved, Context.root]
  rw [hplace] at hwalk
  exact hwalk

/-- In every place, below every path and however many groups enclose it, a walk over a subject ends as it
does at the root and finds the same issues under the path of the place. So a list of items whose walks
come to an end has the issues of its length and then those of each item in turn, under its index. -/
theorem validate_moved {rule : Rule} (hrule : rule.Eager) (disk : Disk) :
    (∀ path subject depth, (rule.check .standard).validate ⟨disk, path, subject, depth⟩ =
      ((rule.check .standard).validate (.root disk subject)).under path) ∧
    ∀ min max items,
      (∀ v ∈ items, ((rule.check .standard).validate (.root disk (.value v))).ending = .done ()) →
      ∀ path depth, ((Rule.listOf rule min max).check .standard).validate
          ⟨disk, path, .value (.array items), depth⟩ =
        ⟨(lengthIssues min max items.length ++ items.zipIdx.flatMap fun v =>
            ((rule.check .standard).validate (.root disk (.value v.1))).issues.map
              (·.under [s!"[{v.2}]"])).map (·.under path), .done ()⟩ := by
  refine ⟨hrule.validate_eq_under disk, fun min max items hdone path depth => ?_⟩
  have hlist : (Rule.listOf rule min max).Eager := .intro trivial (by simpa [Rule.parts] using hrule)
  have hitem : ∀ v : Json × Nat, (rule.check .standard).validate
      ((Context.root disk (.value (.array items))).child s!"[{v.2}]" (.value v.1)) =
        ((rule.check .standard).validate (.root disk (.value v.1))).under [s!"[{v.2}]"] :=
    fun v => hrule.validate_eq_under disk _ _ _
  have hroot := Check.listOf_of_done (rule.check .standard) (.root disk (.value (.array items))) rfl
    min max fun v hv => by
      rw [hitem]
      exact hdone v.1 (List.fst_mem_of_mem_zipIdx hv)
  simp only [hitem] at hroot
  rw [hlist.validate_eq_under]
  have hpath : (Context.root disk (.value (.array items))).path = [] := rfl
  have hnil : ∀ issues : List Issue, issues.map (·.under []) = issues := fun _ => List.map_id _
  change (Check.listOf (rule.check .standard) min max (.root disk (.value (.array items)))).under path = _
  rw [hroot, hpath, hnil]
  rfl

/-- A list deep inside of a document, too short, with a member of the wrong type and one missing. -/
theorem validate_moved_short_list :
    (Rule.contains (.field "a" false (some .bool))).Eager ∧
      (((Rule.listOf (.contains (.field "a" false (some .bool))) (some 3) none).check .standard).validate
        ⟨default, ["b", "c"], .value (.array [.object [("a", .null)], .object []]), 40⟩).issues.map
          (fun i => (i.code, i.path)) =
        [(Code.listTooShort, ["b", "c"]), (Code.typeMismatch, ["b", "c", "[0]", "a"]),
          (Code.fieldMissing, ["b", "c", "[1]"])] := by
  have hrule : (Rule.contains (.field "a" false (some .bool))).Eager :=
    .intro trivial (by simpa [Rule.parts] using .intro trivial (by simp [Rule.parts]))
  have hdone : ∀ v ∈ [Json.object [("a", .null)], .object []],
      (((Rule.contains (.field "a" false (some .bool))).check .standard).validate
        (.root default (.value v))).ending = .done () := by
    decide +kernel
  refine ⟨hrule, ?_⟩
  rw [(validate_moved hrule default).2 (some 3) none _ hdone ["b", "c"] 40]
  decide +kernel

end Rulebook
