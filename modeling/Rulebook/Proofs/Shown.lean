import Rulebook.Output.Format
import Rulebook.Proofs.ReadBack

/-!
# Every format shows the same report

Programs and people are shown the same issues, and of the whole report whether it is ok. People are also told how
many issues they are not shown, and how many errors and warnings there are in all.
-/

namespace Rulebook

/-! ## What programs read -/

namespace Issue

/-- An issue as its document is read. -/
def document (i : Issue) : Json :=
  .object [("code", .string i.code), ("level", .string i.level.text), ("message", .string i.message),
    ("path", .array (i.path.map .string))]

theorem sorted_record (i : Issue) : i.record.sorted = i.document := by
  have hpath : (i.path.map Json.string).map Json.sorted = i.path.map .string := by
    rw [List.map_map]
    rfl
  simp only [record, Json.sorted, Json.sortedMembers, Json.sortedItems_eq_map, hpath]
  rfl

theorem mapM_read {α : Type} {read : Json → Reading α} {write : α → Json} (h : ∀ a, read (write a) = .ok a)
    (as : List α) : (as.map write).mapM read = .ok as := by
  induction as with
  | nil => rfl
  | cons a as ih =>
    rw [List.map_cons, List.mapM_cons, h, ih]
    rfl

theorem readLevel_text (l : Level) : readLevel (.string l.text) = .ok l := by cases l <;> rfl

theorem readText_string (s : String) : readText (.string s) = .ok s := rfl

theorem ofRecord_document (i : Issue) : ofRecord i.document = .ok i := by
  have hlevel := readLevel_text i.level
  have hpath : readList readText (.array (i.path.map .string)) = .ok i.path :=
    mapM_read readText_string i.path
  rw [document, ofRecord, Parts.ofMembers]
  simp only [List.foldlM_cons, List.foldlM_nil, Parts.add, hlevel, hpath, readText_string, Except.map]
  rfl

theorem listOfRecord_documents (issues : List Issue) :
    listOfRecord (.array (issues.map document)) = .ok issues := mapM_read ofRecord_document issues

end Issue

namespace Report

theorem sorted_record (r : Report) :
    r.record.sorted = .object [("issues", .array (r.issues.map Issue.document)), ("ok", .bool r.ok)] := by
  have hissues : (r.issues.map Issue.record).map Json.sorted = r.issues.map Issue.document := by
    rw [List.map_map]
    exact List.map_congr_left fun i _ => Issue.sorted_record i
  simp only [record, Json.sorted, Json.sortedMembers, Json.sortedItems_eq_map, hissues]
  rfl

theorem numberless_record (r : Report) (n : Nat) : r.record.Numberless (n + 4) := by
  simp [record, Json.Numberless, Issue.record]

/-- The first issues, or all of them where `most` is `0` or no less than their number. -/
def firstIssues (r : Report) (most : Nat) : List Issue :=
  if most = 0 ∨ r.issues.length ≤ most then r.issues else r.issues.take most

theorem shown_eq_firstIssues (r : Report) (most : Nat) : r.shown most = r.firstIssues most := by
  unfold shown firstIssues
  by_cases hall : most = 0
  · rw [if_pos hall, if_pos (.inl hall)]
  rw [if_neg hall]
  split
  · next hfew => exact List.take_of_length_le (hfew.resolve_left hall)
  · rfl

/-- A text is a document of whether a report is ok and of these issues, and of nothing else. -/
def ReadsAs (ok : Bool) (issues : List Issue) (text : String) : Prop :=
  ∃ items, Json.ofText text = .ok (.object [("issues", .array items), ("ok", .bool ok)]) ∧
    items = issues.map Issue.document ∧ Issue.listOfRecord (.array items) = .ok issues

theorem readsAs_record (r : Report) :
    ReadsAs r.ok r.issues r.record.text ∧ ReadsAs r.ok r.issues r.record.pretty := by
  have hsorted := r.sorted_record
  have hnumberless : r.record.Numberless Json.maxNesting := r.numberless_record 123
  have hread := Issue.listOfRecord_documents r.issues
  refine ⟨⟨_, ?_, rfl, hread⟩, ⟨_, ?_, rfl, hread⟩⟩
  · rw [Json.ofText_text hnumberless, hsorted]
  · rw [Json.ofText_pretty hnumberless, hsorted]

end Report

/-! ## What people read -/

/-- What a report says to people, piece by piece. -/
inductive Entry where
  | issue (i : Issue)
  | hidden (count : Nat)
  | blank
  | summary (ok : Bool) (errors warnings : Nat)

def Entry.text : Entry → String
  | issue i => i.level.text ++ " [" ++ i.code ++ "] " ++ i.place ++ ": " ++ i.message
  | hidden count => s!"  ... {count} more issue(s) not shown"
  | blank => ""
  | summary true _ warnings => if warnings = 0 then "✓ Passed" else s!"✓ Passed with {warnings} warning(s)"
  | summary false errors warnings => s!"✗ Failed: {errors} error(s), {warnings} warning(s)"

namespace Report

/-- The issues that are shown, how many are not, and a summary of all. -/
def entries (r : Report) (most : Nat) : List Entry :=
  (r.firstIssues most).map .issue ++
    (if most ≠ 0 ∧ most < r.issues.length then [.hidden (r.issues.length - most)] else []) ++
    (if r.issues = [] then [] else [.blank]) ++
    [.summary r.ok (r.issues.countP Issue.isError) (r.issues.countP fun i => !i.isError)]

theorem hidden_eq (r : Report) (most : Nat) :
    r.hidden most = if most ≠ 0 ∧ most < r.issues.length then r.issues.length - most else 0 := by
  unfold hidden shown
  by_cases hall : most = 0
  · rw [if_pos hall, if_neg (fun h => h.1 hall), Nat.sub_self]
  rw [if_neg hall, List.length_take]
  split <;> omega

theorem summary_eq (r : Report) :
    r.summary =
      (Entry.summary r.ok (r.issues.countP Issue.isError) (r.issues.countP fun i => !i.isError)).text := by
  rw [List.countP_eq_length_filter, List.countP_eq_length_filter]
  unfold summary
  cases r.ok <;> rfl

theorem lines_eq_entries (r : Report) (most : Nat) : r.lines most false = (r.entries most).map Entry.text := by
  have hissues : (r.shown most).map (Issue.line false) = ((r.firstIssues most).map Entry.issue).map Entry.text := by
    rw [shown_eq_firstIssues, List.map_map]
    exact List.map_congr_left fun i _ => rfl
  have hhidden : (if r.hidden most = 0 then [] else [s!"  ... {r.hidden most} more issue(s) not shown"]) =
      (if most ≠ 0 ∧ most < r.issues.length then [Entry.hidden (r.issues.length - most)] else []).map Entry.text := by
    rw [hidden_eq]
    split
    · next hcut =>
      rw [if_neg (by omega)]
      rfl
    · rfl
  have hblank : (if r.issues.isEmpty then [] else [""]) =
      (if r.issues = [] then [] else [Entry.blank]).map Entry.text := by
    cases r.issues <;> rfl
  unfold lines entries
  rw [hissues, hhidden, hblank, summary_eq, List.map_append, List.map_append, List.map_append]
  rfl

/-- Every format shows the same report. -/
theorem text_shows (r : Report) (most : Nat) (color : Bool) :
    ReadsAs r.ok (r.firstIssues most) (r.text .json most color) ∧
      ReadsAs r.ok (r.firstIssues most) (r.text .jsonPretty most color) ∧
      r.text .human most false = String.join ((r.entries most).map fun e => e.text ++ "\n") := by
  obtain ⟨hline, hpretty⟩ := readsAs_record { r with issues := r.firstIssues most }
  refine ⟨?_, ?_, ?_⟩
  · rw [text.eq_def, shown_eq_firstIssues]
    exact hline
  · rw [text.eq_def, shown_eq_firstIssues]
    exact hpretty
  · rw [text, lines_eq_entries, List.map_map]
    rfl

example :
    (ofIssues [⟨.warning, "style.readme", "README is short", []⟩,
      ⟨.error, Code.fileNotFound, "File not found: LICENSE", ["LICENSE"]⟩]).text .human 1 false =
      "warning [style.readme] (root): README is short\n  ... 1 more issue(s) not shown\n" ++
        "\n✗ Failed: 1 error(s), 1 warning(s)\n" := by
  decide +kernel

end Report

end Rulebook
