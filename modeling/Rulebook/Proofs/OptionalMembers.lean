import Rulebook.Proofs.Relocation

/-!
# Optional members

Whether an optional member counts is asked before it is walked, by a test of its own. For entries and
fields the test draws the line where the walk does: what it takes to be missing is what the walk reports as
missing and goes no further into. So the walk of optional members is that of required ones without the
reports on those that are not there.
-/

namespace Rulebook

namespace Code

/-- The codes of errors about parts that are not there. -/
def absences : List String := [fileNotFound, dirNotFound, fieldMissing, fieldMissingParent]

end Code

namespace Rule

/-- A part that is looked for and is not there: a key that no object has, or a path from a directory at
which there is not even a link. -/
def isAbsent (c : Context) : Rule → Bool
  | contains (.field key _ _) =>
    match c.json? with
    | some (.object members) => ((Json.object members).member? key).isNone
    | _ => true
  | contains (.file path _ _) | contains (.jsonFile path _ _) =>
    c.entry?.any fun base => !c.disk.exists? (Path.join base path)
  | contains (.directory path _ _) =>
    c.entry?.any fun base => !c.disk.exists? (path.elim base (Path.join base))
  | _ => false

def isOptionalField : Rule → Bool
  | contains (.field _ true _) => true
  | _ => false

end Rule

/-! ## Walks in turn -/

namespace Walk

variable {α : Type} (w : α → Walk Unit) {xs : List α} {p : α → Bool}

theorem all_when (p : α → Bool) (xs : List α) :
    all (xs.map fun x => when (p x) (w x)) = all ((xs.filter p).map w) := by
  induction xs with
  | nil => rfl
  | cons x xs ih =>
    rw [List.map_cons, all, ih]
    by_cases hp : p x = true
    · rw [List.filter_cons_of_pos hp, List.map_cons, all, when, if_pos hp]
    · rw [List.filter_cons_of_neg hp, when, if_neg hp, done_bind]

/-- Walks that would come to an end make no difference to how the others end. -/
theorem ending_all_filter (h : ∀ x ∈ xs, ¬ p x = true → (w x).ending = .done ()) :
    (all ((xs.filter p).map w)).ending = (all (xs.map w)).ending := by
  induction xs with
  | nil => rfl
  | cons x xs ih =>
    have hrest := ih fun y hy => h y (List.mem_cons_of_mem x hy)
    by_cases hp : p x = true
    · rw [List.filter_cons_of_pos hp, List.map_cons, List.map_cons, all, all]
      cases hx : (w x).ending with
      | done a => rw [bind_of_done hx, bind_of_done hx, hrest]
      | failed e => simp only [bind, hx]
      | crashed crash => simp only [bind, hx]
    · have hx := h x List.mem_cons_self hp
      rw [List.filter_cons_of_neg hp, List.map_cons, all, bind_of_done hx, hrest]

theorem done_of_all {ws : List (Walk Unit)} (h : (all ws).ending = .done ()) :
    ∀ v ∈ ws, v.ending = .done () := by
  induction ws with
  | nil => simp
  | cons v ws ih =>
    rw [all] at h
    cases hv : v.ending with
    | done a =>
      rw [bind_of_done hv] at h
      exact List.forall_mem_cons.2 ⟨hv, ih h⟩
    | failed e => simp [bind, hv] at h
    | crashed crash => simp [bind, hv] at h

end Walk

/-! ## Parts that are not there -/

namespace Walk

/-- Nothing is opened, which is reported as missing. -/
def StopsMissing {α : Type} (w : Walk (Option α)) : Prop :=
  ∃ (place : Context) (code message : String), code ∈ Code.absences ∧ w = .stop place code message

theorem StopsMissing.into {α : Type} {w : Walk (Option α)} (h : w.StopsMissing) (f : α → Walk Unit) :
    ∃ i, w.into f = ⟨[i], .done ()⟩ ∧ i.level = .error ∧ i.code ∈ Code.absences := by
  obtain ⟨place, code, message, hcode, rfl⟩ := h
  exact ⟨⟨.error, code, message, place.path⟩, rfl, rfl, hcode⟩

end Walk

namespace Check

section
variable {c : Context}

theorem isThere_entryAt (path : String) (c : Context) :
    isThere (entryAt path c) = !c.entry?.any fun base => !c.disk.exists? (Path.join base path) := by
  unfold isThere entryAt
  cases c.entry? with
  | none => rfl
  | some base => simp [isEntry, Context.child, Context.entry?]

theorem isThere_directoryAt (path : Option String) (c : Context) :
    isThere (directoryAt path c) =
      !c.entry?.any fun base => !c.disk.exists? (path.elim base (Path.join base)) := by
  cases path with
  | some path => exact isThere_entryAt path c
  | none =>
    unfold isThere directoryAt
    cases h : c.entry? with
    | none => rfl
    | some base => simp [isEntry, h]

theorem hasMember_eq_not_isAbsent (key : String) (isOptional : Bool) (value : Option Rule)
    (c : Context) :
    hasMember key c = !(Rule.contains (.field key isOptional value)).isAbsent c := by
  unfold hasMember Rule.isAbsent
  cases c.json? with
  | none => rfl
  | some v =>
    cases v with
    | object members => simp
    | _ => rfl

/-- Something can only be missing where there is a directory to start from. -/
theorem isThere_eq_false {place : Option Context} (h : isThere place = false) :
    ∃ child, place = some child ∧ (!isEntry Disk.exists? child) = true := by
  cases place with
  | none => cases h
  | some child =>
    rw [isThere, Option.all_some] at h
    exact ⟨child, rfl, by rw [h]; rfl⟩

theorem openFile_absent {path : String} (h : isThere (entryAt path c) = false)
    (ext : Option String) : (openFile path ext c).StopsMissing := by
  obtain ⟨child, hchild, hmissing⟩ := isThere_eq_false h
  unfold openFile
  rw [hchild]
  exact ⟨child, Code.fileNotFound, _, by simp [Code.absences], if_pos hmissing⟩

theorem openDocument_absent {path : String} (h : isThere (entryAt path c) = false) :
    (openDocument path c).StopsMissing := by
  obtain ⟨child, code, message, hcode, hfile⟩ := openFile_absent h none
  refine ⟨child, code, message, hcode, ?_⟩
  rw [openDocument, hfile]
  rfl

theorem openDirectory_absent {path : Option String} (h : isThere (directoryAt path c) = false) :
    (openDirectory path c).StopsMissing := by
  obtain ⟨child, hchild, hmissing⟩ := isThere_eq_false h
  unfold openDirectory
  rw [hchild]
  exact ⟨child, Code.dirNotFound, _, by simp [Code.absences], if_pos hmissing⟩

theorem openField_absent {key : String} (h : hasMember key c = false) :
    openField key true c = .done none ∧ (openField key false c).StopsMissing := by
  unfold openField
  rw [hasMember_eq_false] at h
  split
  · rename_i members hjson
    rw [h members hjson]
    exact ⟨rfl, c, Code.fieldMissing, _, by simp [Code.absences], rfl⟩
  · exact ⟨rfl, c, Code.fieldMissingParent, _, by simp [Code.absences], rfl⟩

end

end Check

/-! ## Members that are not there -/

namespace Rule

/-- All that a walk finds of a member is one error that it is not there, or nothing of an optional field. -/
structure FoundMissing (rule : Rule) (c : Context) : Prop where
  ending : ((rule.check .standard).validate c).ending = .done ()
  optional : rule.isOptionalField = true → ((rule.check .standard).validate c).issues = []
  required : rule.isOptionalField = false → ∃ i, ((rule.check .standard).validate c).issues = [i] ∧
    i.level = .error ∧ i.code ∈ Code.absences

section
variable {rule : Rule} {c : Context}

theorem foundMissing_of_stops {α : Type} {w : Walk (Option α)} (hstops : w.StopsMissing)
    {f : α → Walk Unit} (hwalk : (rule.check .standard).validate c = w.into f)
    (hfield : rule.isOptionalField = false) : rule.FoundMissing c := by
  obtain ⟨i, hinto, hlevel, hcode⟩ := hstops.into f
  rw [hinto] at hwalk
  refine ⟨by rw [hwalk], fun hoptional => ?_, fun _ => ⟨i, by rw [hwalk], hlevel, hcode⟩⟩
  rw [hfield] at hoptional
  cases hoptional

/-- The test of presence and the walk draw the line at the same place. -/
theorem present_of_part (hpart : rule.AsksForPart) (c : Context) :
    (rule.check .standard).present c = .done (!rule.isAbsent c) := by
  unfold check
  cases rule with
  | contains d =>
    cases d with
    | field key isOptional value =>
      rw [checkWith_field, ← Check.hasMember_eq_not_isAbsent]
      rfl
    | file path ext content =>
      rw [checkWith_file]
      exact congrArg Walk.done (Check.isThere_entryAt path c)
    | jsonFile path required optional =>
      rw [checkWith_jsonFile]
      exact congrArg Walk.done (Check.isThere_entryAt path c)
    | directory path required optional =>
      rw [checkWith_directory]
      exact congrArg Walk.done (Check.isThere_directoryAt path c)
    | package | custom => exact hpart.elim
  | _ => exact hpart.elim

theorem foundMissing_of_absent (hpart : rule.AsksForPart) (habsent : rule.isAbsent c = true) :
    rule.FoundMissing c := by
  cases rule with
  | contains d =>
    cases d with
    | field key isOptional value =>
      have hmissing : Check.hasMember key c = false :=
        (Check.hasMember_eq_not_isAbsent key isOptional value c).trans (congrArg Bool.not habsent)
      obtain ⟨hoptional, hstops⟩ := Check.openField_absent hmissing
      have hwalk : ((contains (.field key isOptional value)).check .standard).validate c =
          (Check.openField key isOptional c).into (Check.valueAt key
            (value.map (·.checkWith .standard (groupWalk .standard maxGroups))) c) := by
        rw [check, checkWith_field]
        rfl
      cases isOptional with
      | true =>
        rw [hoptional] at hwalk
        exact ⟨by rw [hwalk]; rfl, fun _ => by rw [hwalk]; rfl, nofun⟩
      | false => exact foundMissing_of_stops hstops hwalk rfl
    | file path ext content =>
      have hmissing : Check.isThere (Check.entryAt path c) = false :=
        (Check.isThere_entryAt path c).trans (congrArg Bool.not habsent)
      exact foundMissing_of_stops (Check.openFile_absent hmissing ext)
        (by rw [check, checkWith_file]; rfl) rfl
    | jsonFile path required optional =>
      have hmissing : Check.isThere (Check.entryAt path c) = false :=
        (Check.isThere_entryAt path c).trans (congrArg Bool.not habsent)
      exact foundMissing_of_stops (Check.openDocument_absent hmissing)
        (by rw [check, checkWith_jsonFile]; rfl) rfl
    | directory path required optional =>
      have hmissing : Check.isThere (Check.directoryAt path c) = false :=
        (Check.isThere_directoryAt path c).trans (congrArg Bool.not habsent)
      exact foundMissing_of_stops (Check.openDirectory_absent hmissing)
        (by rw [check, checkWith_directory]; rfl) rfl
    | package | custom => exact hpart.elim
  | _ => exact hpart.elim

end

end Rule

/-! ## Lists of members -/

/-- What a walk of a member finds. -/
def Rule.findings (c : Context) (rule : Rule) : List Issue := ((rule.check .standard).validate c).issues

section
variable {rules : List Rule} {c : Context}

/-- Walking optional members is walking those of them that are there. -/
theorem eachPresent_of_parts (hparts : ∀ q ∈ rules, q.AsksForPart) (c : Context) :
    Check.eachPresent (rules.map (·.check .standard)) c =
      Check.each ((rules.filter fun q => !q.isAbsent c).map (·.check .standard)) c := by
  have htest : ∀ q ∈ rules, (q.check .standard).ifPresent c =
      .when (!q.isAbsent c) ((q.check .standard).validate c) := by
    intro q hq
    rw [Check.ifPresent, Rule.present_of_part (hparts q hq), Walk.done_bind]
  rw [Check.eachPresent_eq_all, Check.each, List.map_map, List.map_map]
  exact (congrArg Walk.all (List.map_congr_left htest)).trans (Walk.all_when _ _ _)

theorem issues_each (h : (Check.each (rules.map (·.check .standard)) c).ending = .done ()) :
    (Check.each (rules.map (·.check .standard)) c).issues = rules.flatMap (·.findings c) := by
  rw [Check.each, List.map_map] at h ⊢
  rw [Walk.all_of_done (Walk.done_of_all h), List.flatMap_map]
  rfl

/-- How members are walked as optional ones, compared to the same members as required ones. -/
structure LeavesOutAbsent (rules : List Rule) (c : Context) : Prop where
  /-- Both walks end alike, -/
  ending : (Check.eachPresent (rules.map (·.check .standard)) c).ending =
    (Check.each (rules.map (·.check .standard)) c).ending
  /-- and where they come to an end the required members find what each finds, in turn, -/
  required : (Check.each (rules.map (·.check .standard)) c).ending = .done () →
    (Check.each (rules.map (·.check .standard)) c).issues = rules.flatMap (·.findings c)
  /-- and the optional ones what each that is there finds. -/
  optional : (Check.each (rules.map (·.check .standard)) c).ending = .done () →
    (Check.eachPresent (rules.map (·.check .standard)) c).issues =
      (rules.filter fun q => !q.isAbsent c).flatMap (·.findings c)
  /-- What is left out is one error that a member is not there, or nothing. -/
  absent : ∀ q ∈ rules, q.isAbsent c = true → q.FoundMissing c

/-- Entries and fields that are optional are walked as if they were required, those that are not there
left out. -/
theorem optional_leaves_out_absent (hparts : ∀ q ∈ rules, q.AsksForPart) (c : Context) :
    LeavesOutAbsent rules c := by
  have hmissing : ∀ q ∈ rules, q.isAbsent c = true → q.FoundMissing c := fun q hq =>
    Rule.foundMissing_of_absent (hparts q hq)
  have hending : (Check.eachPresent (rules.map (·.check .standard)) c).ending =
      (Check.each (rules.map (·.check .standard)) c).ending := by
    rw [eachPresent_of_parts hparts, Check.each, Check.each, List.map_map, List.map_map]
    refine Walk.ending_all_filter _ fun q hq habsent => (hmissing q hq ?_).ending
    simpa using habsent
  refine ⟨hending, issues_each, fun hdone => ?_, hmissing⟩
  rw [← hending] at hdone
  rw [eachPresent_of_parts hparts] at hdone ⊢
  exact issues_each hdone

end

/-- A directory with a text and a link that leads nowhere. -/
def looseDisk : Disk :=
  ⟨.directory [("n", .file (some "x")), ("l", .link "x")], []⟩

/-- A link that leads nowhere, a directory that is a text, a missing file and a field of no document. -/
def looseMembers : List Rule :=
  [.contains (.file "l" none []), .contains (.directory (some "n") [] []),
    .contains (.jsonFile "d" [] []), .contains (.field "k" false none)]

theorem joins_looseDisk :
    Path.join "/" "l" = "/l" ∧ Path.join "/" "n" = "/n" ∧ Path.join "/" "d" = "/d" := by
  decide +kernel

theorem entries_looseDisk :
    looseDisk.text? "/" = none ∧
      looseDisk.exists? "/l" = true ∧ looseDisk.isFile "/l" = false ∧
      looseDisk.exists? "/n" = true ∧ looseDisk.isDir "/n" = false ∧
      looseDisk.exists? "/d" = false := by
  have hparts : Path.parts "/" = ["", ""] ∧ Path.parts "/l" = ["", "l"] ∧ Path.parts "/n" = ["", "n"] ∧
      Path.parts "/d" = ["", "d"] ∧ Path.parts "x" = ["x"] := by
    simp +decide [Path.parts, String.splitOn, String.splitOnAux]
  simp +decide [Disk.text?, Disk.read, Disk.exists?, Disk.isFile, Disk.isDir, Disk.find, Disk.pathFault?,
    hparts, Disk.walk, Disk.startOf, looseDisk, Node.at?, Node.child?, List.lookup_cons, Disk.maxLinks]

/-- Each member finds one error, and none stops the walk. -/
theorem walks_looseMembers :
    (looseMembers.map (·.check .standard)).map (·.validate (.root looseDisk (.path "/"))) =
      [.issue ⟨looseDisk, ["l"], .path "/l", 0⟩ Code.fileNotFile "Path is not a file: l",
        .issue ⟨looseDisk, ["n"], .path "/n", 0⟩ Code.dirNotDir "Path is not a directory: n",
        .issue ⟨looseDisk, ["d"], .path "/d", 0⟩ Code.fileNotFound "File not found: d",
        .issue ⟨looseDisk, [], .path "/", 0⟩ Code.fieldMissingParent
          "Cannot check required field 'k': parent is not a JSON object"] := by
  simp [looseMembers, Rule.check, Rule.checkWith_file, Rule.checkWith_directory, Rule.checkWith_jsonFile,
    Rule.checkWith_field, Check.file, Check.directory, Check.jsonFile, Check.field, Check.ofFile,
    Check.openFile, Check.openDirectory, Check.openDocument, Check.openField, Check.entryAt,
    Check.directoryAt, Check.isEntry, Context.root, Context.child, Context.entry?, Context.json?,
    joins_looseDisk, entries_looseDisk, Walk.stop, Walk.into, Walk.bind, Walk.done, Walk.issue, Walk.when]

theorem present_looseMembers :
    looseMembers.filter (fun q => !q.isAbsent (.root looseDisk (.path "/"))) = looseMembers.take 2 := by
  simp [looseMembers, Rule.isAbsent, Context.root, Context.entry?, Context.json?, joins_looseDisk,
    entries_looseDisk]

/-- Only what is not there at all is passed over. -/
theorem optional_leaves_out_absent_loose :
    (∀ q ∈ looseMembers, q.AsksForPart) ∧
      LeavesOutAbsent looseMembers (.root looseDisk (.path "/")) ∧
      (Check.each (looseMembers.map (·.check .standard)) (.root looseDisk (.path "/"))).issues.map
          (·.code) =
        [Code.fileNotFile, Code.dirNotDir, Code.fileNotFound, Code.fieldMissingParent] ∧
      (Check.eachPresent (looseMembers.map (·.check .standard))
          (.root looseDisk (.path "/"))).issues.map (·.code) =
        [Code.fileNotFile, Code.dirNotDir] := by
  have hparts : ∀ q ∈ looseMembers, q.AsksForPart := by
    simp [looseMembers, Rule.AsksForPart]
  have hleaves := optional_leaves_out_absent hparts (.root looseDisk (.path "/"))
  have hdone : (Check.each (looseMembers.map (·.check .standard))
      (.root looseDisk (.path "/"))).ending = .done () := by
    rw [Check.each, walks_looseMembers]
    rfl
  have hfindings : looseMembers.map (·.findings (.root looseDisk (.path "/"))) =
      ((looseMembers.map (·.check .standard)).map (·.validate (.root looseDisk (.path "/")))).map
        (·.issues) := by
    simp [Rule.findings]
  rw [walks_looseMembers] at hfindings
  refine ⟨hparts, hleaves, ?_, ?_⟩
  · rw [hleaves.required hdone, List.flatMap_def, hfindings]
    rfl
  · rw [hleaves.optional hdone, present_looseMembers, List.flatMap_def, List.map_take, hfindings]
    rfl

end Rulebook
