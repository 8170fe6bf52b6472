/-!
# Issues and reports

What a check finds is a list of issues in the order they were found. Only errors decide whether it
passed.
-/

namespace Rulebook

inductive Level where
  | warning
  | error
  deriving DecidableEq, Repr, Inhabited

def Level.text : Level → String
  | warning => "warning"
  | error => "error"

structure Issue where
  level : Level
  code : String
  message : String
  path : List String
  deriving DecidableEq, Repr, Inhabited

namespace Issue

def isError (i : Issue) : Bool := i.level = .error

/-- The path with slashes. -/
def place (i : Issue) : String := if i.path.isEmpty then "(root)" else String.intercalate "/" i.path

def text (i : Issue) : String :=
  i.level.text ++ " [" ++ i.code ++ "] at " ++ i.place ++ ": " ++ i.message

end Issue

/-- Whether a list has no errors. -/
def isClean (issues : List Issue) : Bool := !issues.any Issue.isError

theorem isClean_append (xs ys : List Issue) : isClean (xs ++ ys) = (isClean xs && isClean ys) := by
  simp [isClean]

structure Report where
  ok : Bool
  issues : List Issue
  deriving DecidableEq, Repr, Inhabited

namespace Report

def ofIssues (issues : List Issue) : Report := ⟨isClean issues, issues⟩

/-- The report of a check that could not be done, with one error and no path. -/
def failure (code message : String) : Report := ofIssues [⟨.error, code, message, []⟩]

def errors (r : Report) : List Issue := r.issues.filter Issue.isError

def warnings (r : Report) : List Issue := r.issues.filter fun i => !i.isError

def codes (r : Report) : List String := r.issues.map (·.code)

end Report

/-! ## Codes -/

namespace Code

def typeMismatch := "type.mismatch"
def strTooShort := "str.too_short"
def strTooLong := "str.too_long"
def strPatternMismatch := "str.pattern_mismatch"
def numNotInteger := "num.not_integer"
def numTooSmall := "num.too_small"
def numTooLarge := "num.too_large"
def literalMismatch := "literal.mismatch"
def literalPatternMismatch := "literal.pattern_mismatch"
def fieldMissing := "field.missing"
def fieldMissingParent := "field.missing.parent"
def fileNoBase := "file.no_base"
def fileNotFound := "file.not_found"
def fileNotFile := "file.not_file"
def fileWrongExt := "file.wrong_ext"
def jsonParseError := "json.parse_error"
def dirNoBase := "dir.no_base"
def dirNotFound := "dir.not_found"
def dirNotDir := "dir.not_dir"
def bundleNotFound := "bundle.not_found"
def bundleNameMismatch := "bundle.name_mismatch"
def bundleTypeMismatch := "bundle.type_mismatch"
def bundleInvalid := "bundle.invalid"
def bundleOpenError := "bundle.open_error"
def oneOfNoMatch := "oneof.no_match"
def listTooShort := "list.too_short"
def listTooLong := "list.too_long"
def isNotFail := "is.not.fail"
def doesNotContainFail := "does.not.contain.fail"
def urlInvalid := "url.invalid"
def urlSchemeMismatch := "url.scheme_mismatch"
def semverInvalid := "semver.invalid"
def semverPrerelease := "semver.prerelease"
def specSyntaxError := "spec.syntax_error"
def specCrash := "spec.crash"
def specEmpty := "spec.empty"
def specNoRoot := "spec.no_root"
def engineError := "engine.error"
def executorCrash := "executor.crash"

end Code

end Rulebook
