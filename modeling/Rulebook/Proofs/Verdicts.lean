import Rulebook.Command.Run
import Rulebook.Command.Usage
import Rulebook.Proofs.Reports

/-!
# The verdict of a check

How a check ends depends on the report and on whether it is to be strict. How the report is written, and
how much of it, makes no difference to that; and what keeps a check from having a report is never taken for
a verdict.
-/

namespace Rulebook

/-! ## Reports that pass -/

namespace Report

/-- No issue is an error, and if warnings count none is a warning either. -/
def Clear (r : Report) (strict : Bool) : Prop :=
  (∀ i ∈ r.issues, i.level ≠ .error) ∧ (strict = true → ∀ i ∈ r.issues, i.level ≠ .warning)

instance (r : Report) (strict : Bool) : Decidable (r.Clear strict) :=
  inferInstanceAs (Decidable (_ ∧ _))

theorem isEmpty_warnings (r : Report) :
    r.warnings.isEmpty = true ↔ ∀ i ∈ r.issues, i.level ≠ .warning := by
  have hlevel : ∀ i : Issue, i.isError = true ↔ i.level ≠ .warning := by
    intro i
    unfold Issue.isError
    cases i.level <;> simp
  rw [List.isEmpty_iff, warnings, List.filter_eq_nil_iff]
  simp only [Bool.not_eq_true', Bool.not_eq_false, hlevel]

/-- Where the flag of a report says whether there are errors, it passes if it is clear. -/
theorem passes_iff_clear {r : Report} (hok : r.ok = isClean r.issues) (strict : Bool) :
    r.passes strict = true ↔ r.Clear strict := by
  have herrors : r.ok = true ↔ ∀ i ∈ r.issues, i.level ≠ .error := by
    rw [hok]
    exact ok_ofIssues r.issues
  unfold passes Clear
  rw [Bool.and_eq_true, herrors, ← isEmpty_warnings]
  cases strict <;> simp

end Report

theorem Registry.ok_run (r : Registry) (text : String) (disk : Disk) (subject : Subject) :
    (r.run text disk subject).ok = isClean (r.run text disk subject).issues := by
  unfold run
  split
  · rfl
  · exact Walk.ok_report _

/-! ## The command -/

theorem CommandError.two_le_exitCode (e : CommandError) : 2 ≤ e.exitCode := by
  cases e <;> simp [exitCode]

namespace Command

/-- The code that a command exits with, whether it has a result or not. -/
def exitCode : Result Outcome → Nat
  | .ok o => o.exitCode
  | .error e => e.exitCode

/-- What a check reads: the text of the rule, and what it looks at. -/
structure Inputs (disk : Disk) (spec target : String) (data : Bool) (source : String)
    (subject : Subject) : Prop where
  spec : Config.readFile disk spec = .ok source
  target : subjectOf disk target data = .ok subject

section
variable {disk : Disk} {spec target : String} {data : Bool} {source : String} {subject : Subject}

theorem runCheck_of_inputs (h : Inputs disk spec target data source subject) (w : Writer)
    (c : Config) (strict : Bool) :
    ∃ o, runCheck w c disk spec target data strict = .ok o ∧
      o.passed =
        (Registry.standard.run source disk subject).passes (strict || c.validation.strict) ∧
      (w.format ≠ .human →
        o.output = w.report (Registry.standard.run source disk subject) c.validation.maxIssues) := by
  unfold runCheck
  rw [h.spec, h.target]
  refine ⟨_, rfl, rfl, fun hformat => ?_⟩
  -- Messages are for people only.
  have hspeaks : w.speaks = false := by
    simpa [Writer.speaks] using hformat
  simp [Writer.info, Writer.warning, hspeaks]

/-- What cannot be read stops every check in the same way. -/
theorem runCheck_of_no_inputs
    (h : ¬ ∃ source subject, Inputs disk spec target data source subject) :
    ∃ e, ∀ w c strict, runCheck w c disk spec target data strict = .error e := by
  unfold runCheck
  cases hspec : Config.readFile disk spec with
  | error e => exact ⟨e, fun _ _ _ => rfl⟩
  | ok source =>
    cases htarget : subjectOf disk target data with
    | error e => exact ⟨e, fun _ _ _ => rfl⟩
    | ok subject => exact absurd ⟨source, subject, hspec, htarget⟩ h

theorem exitCode_of_inputs (h : Inputs disk spec target data source subject) (w : Writer)
    (c : Config) (strict : Bool) :
    exitCode (runCheck w c disk spec target data strict) =
      if (Registry.standard.run source disk subject).Clear (strict || c.validation.strict) then 0
      else 1 := by
  obtain ⟨o, hrun, hpassed, -⟩ := runCheck_of_inputs h w c strict
  have hiff := Report.passes_iff_clear (Registry.ok_run .standard source disk subject)
    (strict || c.validation.strict)
  rw [hrun, exitCode, Outcome.exitCode, hpassed]
  simp only [hiff]

/-- The writer does not count, and of the configuration only whether it is strict. -/
theorem exitCode_runCheck_congr {w w' : Writer} {c c' : Config} {strict strict' : Bool}
    (hstrict : (strict || c.validation.strict) = (strict' || c'.validation.strict)) :
    exitCode (runCheck w c disk spec target data strict) =
      exitCode (runCheck w' c' disk spec target data strict') := by
  by_cases h : ∃ source subject, Inputs disk spec target data source subject
  · obtain ⟨source, subject, hinputs⟩ := h
    rw [exitCode_of_inputs hinputs, exitCode_of_inputs hinputs, hstrict]
  · obtain ⟨e, hrun⟩ := runCheck_of_no_inputs h
    rw [hrun, hrun]

end

/-- How a check ends, by a writer and under a configuration. -/
structure Judges (w : Writer) (c : Config) (disk : Disk) (spec target : String) (data strict : Bool) :
    Prop where
  /-- If all can be read, the code says whether the report, with all its issues, is clear; and for programs
  exactly the report is written. -/
  verdict : ∀ source subject, Inputs disk spec target data source subject →
    ∃ o, runCheck w c disk spec target data strict = .ok o ∧
      o.exitCode =
        (if (Registry.standard.run source disk subject).Clear (strict || c.validation.strict) then 0
        else 1) ∧
      (w.format ≠ .human → o.output = Writer.trimEnd ((Registry.standard.run source disk subject).text
        w.format c.validation.maxIssues w.color) ++ "\n")
  /-- If something cannot be read, the code is neither of the two. -/
  failure : (¬ ∃ source subject, Inputs disk spec target data source subject) →
    ∃ e, runCheck w c disk spec target data strict = .error e ∧ 2 ≤ e.exitCode

theorem judges_runCheck (w : Writer) (c : Config) (disk : Disk) (spec target : String)
    (data strict : Bool) : Judges w c disk spec target data strict where
  verdict source subject h := by
    have hcode := exitCode_of_inputs h w c strict
    obtain ⟨o, hrun, -, houtput⟩ := runCheck_of_inputs h w c strict
    rw [hrun] at hcode
    exact ⟨o, hrun, hcode, houtput⟩
  failure h := by
    obtain ⟨e, hrun⟩ := runCheck_of_no_inputs h
    exact ⟨e, hrun w c strict, e.two_le_exitCode⟩

end Command

/-! ## The process -/

namespace Invocation

/-- The disk once logging has started: a file for it is there from then on. -/
def started (i : Invocation) (c : Config) (disk : Disk) (env : Environment) : Disk :=
  match startLog (Logging.ofInvocation i c.logging env) disk with
  | .ok (disk, _) => disk
  | .error _ => disk

/-- A disk with a file to log to, if it can be made. -/
def withLogFile (file : Option String) (disk : Disk) : Disk :=
  match file with
  | none => disk
  | some path => ((disk.touch path).toOption).getD disk

section
variable {i : Invocation} {disk : Disk} {env : Environment} {c : Config}

theorem exec_of_error {e : CommandError} (hload : Config.load disk env i.config = .error e) :
    (i.exec disk env).code = e.exitCode := by
  unfold exec
  rw [hload]

/-- With a configuration the command decides, on the disk as it is by then. -/
theorem exec_of_load (hload : Config.load disk env i.config = .ok c) :
    (i.exec disk env).code =
        Command.exitCode (i.command.run ⟨i.format c, false, i.quiet⟩ c (i.started c disk env)) ∧
      ∀ o, i.command.run ⟨i.format c, false, i.quiet⟩ c (i.started c disk env) = .ok o →
        (i.exec disk env).output = o.output := by
  unfold exec started
  rw [hload]
  dsimp only
  cases startLog (Logging.ofInvocation i c.logging env) disk with
  | error e =>
    dsimp only
    cases i.command.run ⟨i.format c, false, i.quiet⟩ c disk with
    | error e => exact ⟨rfl, nofun⟩
    | ok o => exact ⟨rfl, fun _ h => by cases h; rfl⟩
  | ok log =>
    dsimp only
    cases i.command.run ⟨i.format c, false, i.quiet⟩ c log.1 with
    | error e => exact ⟨rfl, nofun⟩
    | ok o => exact ⟨rfl, fun _ h => by cases h; rfl⟩

theorem started_of_no_file (h : (Logging.ofInvocation i c.logging env).file = none) :
    i.started c disk env = disk := by
  unfold started startLog
  rw [h]
  cases LogFilter.ofText (Logging.ofInvocation i c.logging env).level with
  | error f => rfl
  | ok filter => rfl

/-- With a filter that can be read, the file to log to is all that makes a difference. -/
theorem started_of_filter
    (h : (LogFilter.ofText (Logging.ofInvocation i c.logging env).level).isOk = true) :
    i.started c disk env = withLogFile (Logging.ofInvocation i c.logging env).file disk := by
  unfold started startLog withLogFile
  cases hlevel : LogFilter.ofText (Logging.ofInvocation i c.logging env).level with
  | error f =>
    rw [hlevel] at h
    cases h
  | ok filter =>
    cases (Logging.ofInvocation i c.logging env).file with
    | none => rfl
    | some path =>
      dsimp only
      cases disk.touch path <;> rfl

end

/-- How a process that is to check ends. -/
structure Judged (i : Invocation) (disk : Disk) (env : Environment) (spec target : String)
    (data strict : Bool) : Prop where
  /-- With a configuration, and if all can be read, the code says whether the report is clear, and for
  programs exactly the report is written. -/
  verdict : ∀ c source subject, Config.load disk env i.config = .ok c →
    Command.Inputs (i.started c disk env) spec target data source subject →
      (i.exec disk env).code =
        (if (Registry.standard.run source (i.started c disk env) subject).Clear
          (strict || c.validation.strict) then 0 else 1) ∧
      (i.format c ≠ .human → (i.exec disk env).output =
        Writer.trimEnd ((Registry.standard.run source (i.started c disk env) subject).text (i.format c)
          c.validation.maxIssues false) ++ "\n")
  /-- Nothing else ends with one of these codes. -/
  failure : (¬ ∃ c source subject, Config.load disk env i.config = .ok c ∧
    Command.Inputs (i.started c disk env) spec target data source subject) →
      2 ≤ (i.exec disk env).code

theorem judged_exec {i : Invocation} {spec target : String} {data strict : Bool}
    (hi : i.command = .check spec target data strict) (disk : Disk) (env : Environment) :
    i.Judged disk env spec target data strict where
  verdict c source subject hload hinputs := by
    obtain ⟨hcode, houtput⟩ := exec_of_load hload
    have hjudges := Command.judges_runCheck ⟨i.format c, false, i.quiet⟩ c (i.started c disk env) spec
      target data strict
    obtain ⟨o, hrun, hexit, htext⟩ := hjudges.verdict source subject hinputs
    rw [hi, Command.run] at hcode houtput
    rw [hcode, houtput o hrun, hrun]
    exact ⟨hexit, htext⟩
  failure h := by
    cases hload : Config.load disk env i.config with
    | error e =>
      rw [exec_of_error hload]
      exact e.two_le_exitCode
    | ok c =>
      have hnone : ¬ ∃ source subject,
          Command.Inputs (i.started c disk env) spec target data source subject :=
        fun ⟨source, subject, hinputs⟩ => h ⟨c, source, subject, hload, hinputs⟩
      obtain ⟨e, hrun⟩ := Command.runCheck_of_no_inputs hnone
      rw [(exec_of_load hload).1, hi, Command.run, hrun]
      exact e.two_le_exitCode

end Invocation

theorem Usage.two_le_exitCode {u : Usage} (hhelp : u ≠ .help) (hversion : u ≠ .version) :
    2 ≤ u.exitCode := by
  cases u with
  | help => exact absurd rfl hhelp
  | version => exact absurd rfl hversion
  | _ => exact Nat.le_refl 2

/-! ## Verdicts -/

/-- How checks of a target against a spec end. -/
structure ChecksJudged (disk : Disk) (spec target : String) (data : Bool) : Prop where
  /-- The command, whoever is to read what it writes, -/
  command : ∀ w c strict, Command.Judges w c disk spec target data strict
  /-- exits alike for all writers and for all configurations that are as strict. -/
  alike : ∀ w w' c c' strict strict',
    (strict || c.validation.strict) = (strict' || c'.validation.strict) →
      Command.exitCode (Command.runCheck w c disk spec target data strict) =
        Command.exitCode (Command.runCheck w' c' disk spec target data strict')
  /-- So does the process, -/
  process : ∀ (i : Invocation) env strict, i.command = .check spec target data strict →
    i.Judged disk env spec target data strict
  /-- where both find the same disk once logging has started, -/
  processAlike : ∀ (i i' : Invocation) env env' c c' strict strict',
    i.command = .check spec target data strict → i'.command = .check spec target data strict' →
    Config.load disk env i.config = .ok c → Config.load disk env' i'.config = .ok c' →
    i.started c disk env = i'.started c' disk env' →
    (strict || c.validation.strict) = (strict' || c'.validation.strict) →
      (i.exec disk env).code = (i'.exec disk env').code
  /-- which is the disk as it was if there is no file to log to, -/
  still : ∀ (i : Invocation) c env, (Logging.ofInvocation i c.logging env).file = none →
    i.started c disk env = disk
  /-- and else the disk with this file, unless the filter cannot be read. -/
  logged : ∀ (i : Invocation) c env,
    (LogFilter.ofText (Logging.ofInvocation i c.logging env).level).isOk = true →
      i.started c disk env =
        Invocation.withLogFile (Logging.ofInvocation i c.logging env).file disk
  /-- A command line that is not understood has a code of its own. -/
  usage : ∀ words env u, Invocation.ofWords words env = .error u → u ≠ .help → u ≠ .version →
    2 ≤ u.exitCode

/-- A check exits with 0 if its report has no error and, where that counts, no warning, and with 1 if it has;
with any other code if there is no report. -/
theorem checks_judged (disk : Disk) (spec target : String) (data : Bool) :
    ChecksJudged disk spec target data where
  command w c strict := Command.judges_runCheck w c disk spec target data strict
  alike _ _ _ _ _ _ hstrict := Command.exitCode_runCheck_congr hstrict
  process i env _ hi := Invocation.judged_exec hi disk env
  processAlike i i' env env' c c' strict strict' hi hi' hload hload' hstarted hstrict := by
    rw [(Invocation.exec_of_load hload).1, (Invocation.exec_of_load hload').1, hi, hi', Command.run,
      Command.run, hstarted]
    exact Command.exitCode_runCheck_congr hstrict
  still _ _ _ h := Invocation.started_of_no_file h
  logged _ _ _ h := Invocation.started_of_filter h
  usage _ _ _ _ hhelp hversion := Usage.two_le_exitCode hhelp hversion

theorem Config.readFile_of_find {disk : Disk} {path : String} {location : Location} {text : String}
    (h : disk.find true path = .ok (location, .file (some text))) : readFile disk path = .ok text := by
  simp only [readFile, Disk.leads, Disk.read, h]
  rfl

/-- A rule for texts, a document that is a number, and a configuration that leaves all as it is. -/
def mismatchDisk : Disk :=
  ⟨.directory [("s", .file (some "Str()")), ("t", .file (some "1")), ("c", .file (some "{}"))], []⟩

theorem parts_mismatchDisk :
    Path.parts "s" = ["s"] ∧ Path.parts "t" = ["t"] ∧ Path.parts "c" = ["c"] := by
  simp +decide [Path.parts, String.splitOn, String.splitOnAux]

theorem find_mismatchDisk :
    mismatchDisk.find true "s" = .ok (["s"], .file (some "Str()")) ∧
      mismatchDisk.find true "t" = .ok (["t"], .file (some "1")) ∧
      mismatchDisk.find true "c" = .ok (["c"], .file (some "\x7b\x7d")) := by
  simp +decide [Disk.find, Disk.pathFault?, parts_mismatchDisk, Disk.walk, Disk.startOf, mismatchDisk,
    Node.at?, Node.child?, List.lookup_cons]

theorem format_mismatchDisk : DataFormat.ofPath "t" = .json ∧ DataFormat.ofPath "c" = .json := by
  simp +decide [DataFormat.ofPath, Path.extension, Path.fileName, Path.splitName, parts_mismatchDisk]

def mismatchCheck (output : Option OutputFormat) (quiet noColor : Bool) : Invocation :=
  ⟨0, quiet, some "c", output, noColor, .check "s" "t" true false⟩

/-- The document does not pass, in whatever format this is said and however little is to be said. -/
theorem checks_judged_mismatch :
    ((mismatchCheck none false false).exec mismatchDisk []).code = 1 ∧
      ((mismatchCheck (some .yaml) true true).exec mismatchDisk []).code = 1 := by
  have hjudged := checks_judged mismatchDisk "s" "t" true
  have hcode : ∀ output quiet noColor,
      ((mismatchCheck output quiet noColor).exec mismatchDisk []).code = 1 := by
    intro output quiet noColor
    obtain ⟨hs, ht, hc⟩ := find_mismatchDisk
    have hload : Config.load mismatchDisk [] (some "c") = .ok {} := by
      rw [Config.load, Config.ofFile, Config.readFile_of_find hc, format_mismatchDisk.2]
      rfl
    have htarget : Command.subjectOf mismatchDisk "t" true = .ok (.value (.number (.int 1))) := by
      rw [Command.subjectOf, if_pos rfl, Command.readDocument, Config.readFile_of_find ht,
        format_mismatchDisk.1]
      rfl
    have hinputs : Command.Inputs mismatchDisk "s" "t" true "Str()" (.value (.number (.int 1))) :=
      ⟨Config.readFile_of_find hs, htarget⟩
    have hstarted : (mismatchCheck output quiet noColor).started {} mismatchDisk [] = mismatchDisk := by
      refine hjudged.still _ _ _ ?_
      cases quiet <;> rfl
    rw [← hstarted] at hinputs
    have hprocess := hjudged.process (mismatchCheck output quiet noColor) [] false rfl
    rw [(hprocess.verdict {} _ _ hload hinputs).1, hstarted]
    decide +kernel
  exact ⟨hcode none false false, hcode (some .yaml) true true⟩

end Rulebook
