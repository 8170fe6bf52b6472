import Rulebook.Proofs.ReadBack
import Rulebook.Proofs.Relocation

/-!
# One document in three places

A document is checked in memory, in a file that is opened for it, or in a file as the content of which its
rules are given. The first two are walks over the same value. The third looks at the file, so it is the same
only for what asks the file for its document: the members of an object.
-/

namespace Rulebook

/-! ## Files that can be read -/

namespace Disk

/-- A part that is a name leads to the entry of that name, or on through it. -/
theorem walk_name (d : Disk) (follow : Bool) (links : Nat) (dir : List String) {name : String}
    (rest : List String) (hempty : name ≠ "") (hdot : name ≠ ".") (hdots : name ≠ "..")
    (hname : ¬ maxName < name.utf8ByteSize) :
    d.walk follow links dir (name :: rest) =
      match d.root.at? (name :: dir).reverse with
      | none => .error .notFound
      | some (.directory _) | some (.unlisted _) => d.walk follow links (name :: dir) rest
      | some (.file text) =>
        if rest.isEmpty then .ok ((name :: dir).reverse, .file text) else .error .notDirectory
      | some (.link target) =>
        if rest.isEmpty && !follow then .ok ((name :: dir).reverse, .link target)
        else
          match links with
          | 0 => .error .tooManyLinks
          | links + 1 =>
            d.walk follow links (if target.startsWith "/" then [] else dir) (Path.parts target ++ rest) := by
  rw [walk, if_neg hname] <;> first | rfl | assumption

/-- Where a path leads somewhere if its last part is followed, something is there to follow. -/
theorem walk_unfollowed (d : Disk) (links : Nat) (dir parts : List String) {place : Location × Node}
    (h : d.walk true links dir parts = .ok place) : ∃ place', d.walk false links dir parts = .ok place' := by
  fun_induction Disk.walk d true links dir parts with
  | case1 | case2 =>
    rw [Disk.walk]
    exact ⟨place, h⟩
  | case3 _ _ _ ih | case4 _ _ _ ih | case5 _ _ _ ih =>
    rw [Disk.walk]
    exact ih h
  | case8 links dir name rest hempty hdot hdots hname _ hentry ih
  | case9 links dir name rest hempty hdot hdots hname _ hentry ih =>
    rw [walk_name d false links dir rest hempty hdot hdots hname, hentry]
    exact ih h
  | case10 links dir name rest hempty hdot hdots hname text hentry hrest =>
    rw [walk_name d false links dir rest hempty hdot hdots hname, hentry]
    exact ⟨_, if_pos hrest⟩
  | case14 dir name rest hempty hdot hdots hname target hentry hrest links ih =>
    rw [walk_name d false _ dir rest hempty hdot hdots hname, hentry]
    by_cases hlast : rest.isEmpty
    · exact ⟨_, if_pos (by simp [hlast])⟩
    · obtain ⟨place', h'⟩ := ih h
      exact ⟨place', (if_neg (by simp [hlast])).trans h'⟩
  | case12 _ _ _ _ _ _ _ _ _ _ hrest => simp at hrest
  | case6 | case7 | case11 | case13 => cases h

theorem exists_of_find {d : Disk} {path : String} {place : Location × Node}
    (h : d.find true path = .ok place) : d.exists? path = true := by
  unfold exists? find at *
  cases hfault : pathFault? path with
  | some f =>
    rw [hfault] at h
    cases h
  | none =>
    rw [hfault] at h
    obtain ⟨place', h'⟩ := d.walk_unfollowed _ _ _ h
    simp only [h']
    rfl

variable {d : Disk} {path text : String} (h : d.text? path = some text)
include h

theorem find_of_text : ∃ location, d.find true path = .ok (location, .file (some text)) := by
  unfold text? read at h
  cases hfind : d.find true path with
  | error f =>
    rw [hfind] at h
    cases h
  | ok place =>
    obtain ⟨location, n⟩ := place
    rw [hfind] at h
    rcases n with (_ | text') | _ | _ <;> cases h
    exact ⟨location, rfl⟩

theorem exists_of_text : d.exists? path = true := by
  obtain ⟨location, hfind⟩ := find_of_text h
  exact exists_of_find hfind

theorem isFile_of_text : d.isFile path = true := by
  obtain ⟨location, hfind⟩ := find_of_text h
  simp only [isFile, hfind]

end Disk

theorem Walk.bind_done (w : Walk Unit) : (w.bind fun _ => .done ()) = w := by
  obtain ⟨issues, ending⟩ := w
  cases ending with
  | done => simp [bind, done]
  | failed => rfl
  | crashed => rfl

namespace Check

section
variable {disk : Disk} {dir path text : String} (htext : disk.text? (Path.join dir path) = some text)
include htext

theorem openFile_of_text : openFile path none (.root disk (.path dir)) =
    .done (some ⟨disk, [path], .path (Path.join dir path), 0⟩) := by
  simp [openFile, entryAt, Context.root, Context.entry?, Context.child, isEntry, Disk.exists_of_text htext,
    Disk.isFile_of_text htext]

theorem openDocument_of_text {v : Json} (hdoc : Json.ofText text = .ok v) :
    openDocument path (.root disk (.path dir)) = .done (some ⟨disk, [path], .value v, 0⟩) := by
  unfold openDocument
  rw [openFile_of_text htext, Walk.done_bind]
  simp [documentOf, Context.value, htext, hdoc, Except.mapError, Context.withSubject]

end

/-! ## What asks for the document alone -/

/-- The walks of a check are the same over whatever holds the same document. -/
structure ReadsDocument (k : Check) : Prop where
  validate : ∀ c s, (c.withSubject s).json? = c.json? → k.validate (c.withSubject s) = k.validate c
  present : ∀ c s, (c.withSubject s).json? = c.json? → k.present (c.withSubject s) = k.present c

theorem readsDocument_field (key : String) (isOptional : Bool) (value : Option Check) :
    (Check.field key isOptional value).ReadsDocument where
  validate c s h := by
    simp only [field, openField, h]
    rfl
  present c s h := by
    simp only [field, hasMember, h]

variable {ks ls : List Check} {c : Context} {s : Subject} (h : (c.withSubject s).json? = c.json?)
include h

theorem each_withSubject (hks : ∀ k ∈ ks, k.ReadsDocument) : each ks (c.withSubject s) = each ks c :=
  congrArg Walk.all (List.map_congr_left fun k hk => (hks k hk).validate c s h)

theorem eachPresent_withSubject (hks : ∀ k ∈ ks, k.ReadsDocument) :
    eachPresent ks (c.withSubject s) = eachPresent ks c := by
  induction ks with
  | nil => rfl
  | cons k ks ih =>
    obtain ⟨hk, hks⟩ := List.forall_mem_cons.1 hks
    simp only [eachPresent, hk.present c s h, hk.validate c s h, ih hks]

theorem object_withSubject (hks : ∀ k ∈ ks, k.ReadsDocument) (hls : ∀ k ∈ ls, k.ReadsDocument) :
    object ks ls (c.withSubject s) = object ks ls c := by
  simp only [object, openObject, members, h, each_withSubject h hks, eachPresent_withSubject h hls]
  rfl

end Check

/-! ## Rules of a document -/

namespace Rule

/-- A descriptor of a member. -/
def IsField (rule : Rule) : Prop := ∃ key isOptional value, rule = .contains (.field key isOptional value)

theorem IsField.readsDocument (groups : GroupWalk) {rules : List Rule} (h : ∀ rule ∈ rules, rule.IsField) :
    ∀ k ∈ checksWith .standard groups rules, k.ReadsDocument := by
  rw [checksWith_eq_map]
  refine List.forall_mem_map.2 fun rule hrule => ?_
  obtain ⟨key, isOptional, value, rfl⟩ := h rule hrule
  rw [checkWith_field]
  exact Check.readsDocument_field ..

theorem eager_object {required optional : List Rule} (hrequired : ∀ rule ∈ required, rule.Eager)
    (hoptional : ∀ rule ∈ optional, rule.Eager) : (object required optional).Eager :=
  .intro trivial (by simpa [parts, or_imp, forall_and] using ⟨hrequired, hoptional⟩)

variable {required optional : List Rule} {disk : Disk} {dir path text : String} {v : Json}
  (htext : disk.text? (Path.join dir path) = some text) (hdoc : Json.ofText text = .ok v)
include htext hdoc

/-- A file that is opened for its document is walked as the document, below its path. -/
theorem validate_jsonFile (hrequired : ∀ rule ∈ required, rule.Eager)
    (hoptional : ∀ rule ∈ optional, rule.Eager) :
    ((contains (.jsonFile path required optional)).check .standard).validate (.root disk (.path dir)) =
      (((object required optional).check .standard).validate (.root disk (.value v))).under [path] := by
  have hwalk : ((contains (.jsonFile path required optional)).check .standard).validate
      (.root disk (.path dir)) =
        ((object required optional).check .standard).validate ⟨disk, [path], .value v, 0⟩ := by
    rw [check, checkWith_jsonFile]
    simp only [Check.jsonFile, Check.ofFile, Check.openDocument_of_text htext hdoc, Walk.into, Walk.done_bind]
    rfl
  rw [hwalk]
  exact (eager_object hrequired hoptional).validate_eq_under disk [path] (.value v) 0

/-- The members of a document may as well be asked for in the file. -/
theorem validate_file_object (hrequired : ∀ rule ∈ required, rule.IsField)
    (hoptional : ∀ rule ∈ optional, rule.IsField) :
    ((contains (.file path none [object required optional])).check .standard).validate
        (.root disk (.path dir)) =
      ((contains (.jsonFile path required optional)).check .standard).validate (.root disk (.path dir)) := by
  have hjson : (Context.withSubject ⟨disk, [path], .value v, 0⟩ (.path (Path.join dir path))).json? =
      some v := by
    simp [Context.withSubject, Context.json?, htext, hdoc, Except.toOption]
  have hobject := Check.object_withSubject (c := ⟨disk, [path], .value v, 0⟩) hjson
    (IsField.readsDocument (groupWalk .standard maxGroups) hrequired)
    (IsField.readsDocument (groupWalk .standard maxGroups) hoptional)
  rw [check, check, checkWith_file, checkWith_jsonFile]
  simp only [Check.file, Check.jsonFile, Check.ofFile, Check.openFile_of_text htext,
    Check.openDocument_of_text htext hdoc, Walk.into, Walk.done_bind]
  rw [← hobject]
  exact Walk.bind_done _

/-- A document is walked to the same end in memory and in a file that is opened for it. If that end is no
error, it has the same issues, below the path of the file, and so it has for the members of an object in a
file as whose content it is checked. -/
theorem documents_agree (hrequired : ∀ rule ∈ required, rule.Eager)
    (hoptional : ∀ rule ∈ optional, rule.Eager) :
    (((contains (.jsonFile path required optional)).check .standard).validate
        (.root disk (.path dir))).ending =
      (((object required optional).check .standard).validate (.root disk (.value v))).ending ∧
    ((((object required optional).check .standard).validate (.root disk (.value v))).ending = .done () →
      (Registry.standard.validate (contains (.jsonFile path required optional)) disk (.path dir)).issues =
          (Registry.standard.validate (object required optional) disk (.value v)).issues.map
            (·.under [path]) ∧
        ((∀ rule ∈ required ++ optional, rule.IsField) →
          (Registry.standard.validate (contains (.file path none [object required optional])) disk
              (.path dir)).issues =
            (Registry.standard.validate (object required optional) disk (.value v)).issues.map
              (·.under [path]))) := by
  have hjson := validate_jsonFile htext hdoc hrequired hoptional
  refine ⟨by rw [hjson]; rfl, fun hdone => ?_⟩
  have hissues : (Registry.standard.validate (contains (.jsonFile path required optional)) disk
      (.path dir)).issues =
        (Registry.standard.validate (object required optional) disk (.value v)).issues.map
          (·.under [path]) := by
    simp only [Registry.validate, hjson, Walk.report, Walk.under, hdone]
    rfl
  refine ⟨hissues, fun hfields => ?_⟩
  obtain ⟨hrequired', hoptional'⟩ := List.forall_mem_append.1 hfields
  rw [← hissues, Registry.validate, validate_file_object htext hdoc hrequired' hoptional',
    ← Registry.validate]

end Rule

/-- A directory with one document. -/
def memberDisk : Disk :=
  ⟨.directory [("d", .file (some "\x7b\"k\":null\x7d"))], []⟩

/-- One member is there, of the wrong type, and one is missing. -/
def memberRules : List Rule := [.contains (.field "k" false (some .bool)), .contains (.field "m" false none)]

theorem documents_agree_member :
    memberDisk.text? (Path.join "/" "d") = some "\x7b\"k\":null\x7d" ∧
      (∀ rule ∈ memberRules, rule.Eager) ∧
      ((Registry.standard.validate (.contains (.jsonFile "d" memberRules [])) memberDisk
        (.path "/")).issues.map fun i => (i.code, i.path)) =
        [(Code.typeMismatch, ["d", "k"]), (Code.fieldMissing, ["d"])] ∧
      ((Registry.standard.validate (.contains (.file "d" none [.object memberRules []])) memberDisk
        (.path "/")).issues.map fun i => (i.code, i.path)) =
        [(Code.typeMismatch, ["d", "k"]), (Code.fieldMissing, ["d"])] := by
  have hjoin : Path.join "/" "d" = "/d" := by decide +kernel
  have hparts : Path.parts "/d" = ["", "d"] := by
    simp +decide [Path.parts, String.splitOn, String.splitOnAux]
  have htext : memberDisk.text? (Path.join "/" "d") = some "\x7b\"k\":null\x7d" := by
    rw [hjoin, Disk.text?, Disk.read, Disk.find, hparts]
    simp +decide [Disk.pathFault?, Disk.walk, Disk.startOf, memberDisk, Node.at?, Node.child?]
  have hdoc : Json.ofText "\x7b\"k\":null\x7d" = .ok (.object [("k", .null)]) := by
    have hnumberless : (Json.object [("k", .null)]).Numberless Json.maxNesting :=
      List.forall_mem_singleton.2 trivial
    exact Json.ofText_text hnumberless
  have hbool : Rule.Eager .bool := .intro trivial (by simp [Rule.parts])
  have hrules : ∀ rule ∈ memberRules, rule.Eager := by
    simp only [memberRules, List.forall_mem_cons]
    exact ⟨.intro trivial (by simpa [Rule.parts]), .intro trivial (by simp [Rule.parts]), by simp⟩
  have hfields : ∀ rule ∈ memberRules ++ [], rule.IsField := by
    simp [memberRules, Rule.IsField]
  obtain ⟨-, hagree⟩ := Rule.documents_agree htext hdoc hrules (List.forall_mem_nil Rule.Eager)
  obtain ⟨hjson, hfile⟩ := hagree (by decide +kernel)
  refine ⟨htext, hrules, ?_, ?_⟩
  · rw [hjson]
    decide +kernel
  · rw [hfile hfields]
    decide +kernel

end Rulebook
