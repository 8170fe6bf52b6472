import Rulebook.Check.Walk
import Rulebook.Json.Printer
import Rulebook.Regex.Basic
import Rulebook.Semver
import Rulebook.Url.Basic

/-!
# Checks of a single value

Each looks at the value of a context and descends no further. A value of another type is one issue;
of the constraints on a value of the right type, every one that fails is an issue.
-/

namespace Rulebook.Check

/-- The issue of a value that is not what a check looks at. -/
def wrongType (c : Context) (expected : String) : Walk Unit :=
  .issue c Code.typeMismatch ("Expected " ++ expected ++ ", got " ++ c.value.typeName)

def str (min max : Option Nat) (pattern : Option Regex) (c : Context) : Walk Unit :=
  match c.value with
  | .string s =>
    .all [
      .when (min.any (s.length < ·)) <|
        .issue c Code.strTooShort s!"String length {s.length} is less than minimum {min.getD 0}",
      .when (max.any (· < s.length)) <|
        .issue c Code.strTooLong s!"String length {s.length} exceeds maximum {max.getD 0}",
      .when (pattern.any fun r => !r.isMatch s) <|
        .issue c Code.strPatternMismatch
          ("String does not match pattern " ++ (pattern.elim "" Regex.pattern))]
  | _ => wrongType c "string"

/-- Bounds and wholeness of a number; nan is none. -/
def number (min max : Option Binary64) (integer : Bool) (x : Binary64) (c : Context) : Walk Unit :=
  if x.isNan then .issue c Code.typeMismatch "Expected number, got NaN"
  else
    .all [
      .when (integer && !x.isIntegral) <|
        .issue c Code.numNotInteger ("Expected integer, got " ++ x.plain),
      .when (min.any x.lt) <|
        .issue c Code.numTooSmall
          ("Number " ++ x.plain ++ " is less than minimum " ++ min.elim "" Binary64.plain),
      .when (max.any fun m => m.lt x) <|
        .issue c Code.numTooLarge
          ("Number " ++ x.plain ++ " exceeds maximum " ++ max.elim "" Binary64.plain)]

def num (min max : Option Binary64) (integer : Bool) (c : Context) : Walk Unit :=
  match c.value with
  | .number n => number min max integer n.value c
  | _ => wrongType c "number"

def bool (c : Context) : Walk Unit :=
  match c.value with
  | .bool _ => .done ()
  | _ => wrongType c "boolean"

/-- Equality with what is expected: two numbers are compared by value, anything else as documents. -/
def agrees (expected : Json) (v : Json) : Bool :=
  match v, expected with
  | .number m, .number n => m.value.eqv n.value
  | v, expected => v.same expected

def literal (expected : Json) (c : Context) : Walk Unit :=
  .when (!agrees expected c.value) <|
    .issue c Code.literalMismatch ("Expected " ++ expected.text ++ ", got " ++ c.value.text)

def pattern (r : Regex) (c : Context) : Walk Unit :=
  match c.value with
  | .string s =>
    .when (!r.isMatch s) <|
      .issue c Code.literalPatternMismatch ("Value does not match pattern " ++ r.pattern)
  | _ => wrongType c "string for pattern match"

/-! ## Kinds of text with parameters -/

/-- The schemes that parameters allow, in lower case; any if they name none. -/
def schemesOf (params : Json) : Except EngineError (Option (List String)) :=
  match params.member? "schemes" with
  | none | some .null => .ok none
  | some (.array items) =>
    match items.mapM Json.asString? with
    | some schemes => .ok (some (schemes.map fun s => s.map Char.toLower))
    | none => .error (.invalidArgument "Url" "schemes must be strings")
  | some _ => .error (.invalidArgument "Url" "schemes must be an array")

def url (params : Json) (c : Context) : Walk Unit :=
  match schemesOf params with
  | .error e => .fail e
  | .ok schemes =>
    match c.value with
    | .string text =>
      match Url.schemeOf text with
      | .error f => .issue c Code.urlInvalid ("Invalid URL '" ++ text ++ "': " ++ f.message)
      | .ok scheme =>
        .when (schemes.any fun allowed => !allowed.contains scheme) <|
          .issue c Code.urlSchemeMismatch ("URL scheme '" ++ scheme ++ "' is not one of: " ++
            String.intercalate ", " (schemes.getD []))
    | _ => wrongType c "URL string"

/-- Whether parameters allow prereleases. -/
def prereleasesOf (params : Json) : Except EngineError Bool :=
  match params.member? "prerelease" with
  | none | some .null => .ok true
  | some (.bool b) => .ok b
  | some _ => .error (.invalidArgument "Semver" "prerelease must be a boolean")

def semver (params : Json) (c : Context) : Walk Unit :=
  match prereleasesOf params with
  | .error e => .fail e
  | .ok allowed =>
    match c.value with
    | .string text =>
      match Semver.Version.ofChars? text.toList with
      | none => .issue c Code.semverInvalid ("'" ++ text ++ "' is not a valid semantic version")
      | some version =>
        .when (!allowed && version.prerelease.isSome) <|
          .issue c Code.semverPrerelease ("Prerelease versions are not allowed (got '" ++
            String.ofList (version.prerelease.getD []) ++ "')")
    | _ => wrongType c "version string"

/-- The check of a text of either kind. -/
def text (kind : String) : Json → Context → Walk Unit := if kind = "Url" then url else semver

end Rulebook.Check
