import Rulebook.Url.Host

/-!
# URLs

Whether a text is an absolute URL, and its scheme. Only a host or a port can be wrong once there is a
scheme: paths, queries and fragments take any character. Tabs and line ends count nowhere, nor do
controls and blanks at either end.
-/

namespace Rulebook.Url

inductive SchemeKind where
  | file
  /-- Always with a host. -/
  | special
  | other
  deriving DecidableEq, Repr

def kindOf (scheme : String) : SchemeKind :=
  if scheme = "file" then .file
  else if ["http", "https", "ws", "wss", "ftp"].contains scheme then .special
  else .other

/-- The characters that count. -/
def significant (text : String) : List Char :=
  let cs := text.toList.dropWhile (· ≤ ' ')
  let cs := (cs.reverse.dropWhile (· ≤ ' ')).reverse
  cs.filter fun c => c != '\t' && c != '\n' && c != '\r'

def isSchemeChar (c : Char) : Bool := c.isAlphanum || c = '+' || c = '-' || c = '.'

/-- The scheme in lower case, and what follows its colon. -/
def scheme? (cs : List Char) : Option (String × List Char) :=
  let name := cs.takeWhile isSchemeChar
  match name.head?.any Char.isAlpha, cs.drop name.length with
  | true, ':' :: rest => some (String.ofList (name.map Char.toLower), rest)
  | _, _ => none

def isSlash (c : Char) : Bool := c = '/' || c = '\\'

/-- Whether a character ends the part with user, host and port. -/
def endsAuthority (kind : SchemeKind) (c : Char) : Bool :=
  c = '/' || c = '?' || c = '#' || (kind != .other && c = '\\')

/-- The user part up to the last at sign, if there is one, and what follows. -/
def splitUser (kind : SchemeKind) (cs : List Char) : Option (List Char) × List Char :=
  let authority := cs.takeWhile fun c => !endsAuthority kind c
  let host := (authority.reverse.takeWhile (· != '@')).reverse
  if host.length = authority.length then (none, cs)
  else
    let n := authority.length - host.length
    (some (authority.take (n - 1)), cs.drop n)

/-- A host, in which colons may stand between brackets, and what follows. -/
def spanHost (kind : SchemeKind) : (bracket : Bool) → List Char → List Char × List Char
  | _, [] => ([], [])
  | bracket, c :: cs =>
    if (c = ':' && !bracket) || endsAuthority kind c then ([], c :: cs)
    else
      let (host, rest) := spanHost kind (if c = '[' then true else if c = ']' then false else bracket) cs
      (c :: host, rest)

def maxPort : Nat := 65535

/-- Reads a port after what has been read of it. -/
def portFault? : Nat → List Char → Option Fault
  | _, [] => none
  | n, c :: cs =>
    if c.isDigit then
      let n := n * 10 + (c.toNat - 48)
      if maxPort < n then some .badPort else portFault? n cs
    else if isSlash c || c = '?' || c = '#' then none
    else some .badPort

def hostFault? (kind : SchemeKind) (user : Option (List Char)) (host rest : List Char) : Option Fault :=
  match kind, host with
  | .other, [] =>
    if rest.head? = some ':' ∨ user.any (fun u => !u.isEmpty && u != [':']) then some .emptyHost else none
  | _, [] => some .emptyHost
  | .other, host => otherFault? host
  | _, host => domainFault? host

/-- What is wrong with user, host and port, if anything. -/
def authorityFault? (kind : SchemeKind) (cs : List Char) : Option Fault :=
  let (user, cs) := splitUser kind cs
  if user = some [] ∧ cs.head?.any (endsAuthority kind) then some .emptyHost
  else
    let (host, rest) := spanHost kind false cs
    match hostFault? kind user host rest with
    | some f => some f
    | none =>
      match rest with
      | ':' :: port => portFault? 0 port
      | _ => none

def isDriveLetter : List Char → Bool
  | [c, d] => c.isAlpha && (d = ':' || d = '|')
  | _ => false

/-- What is wrong after the scheme of a file, if anything. -/
def fileFault? : List Char → Option Fault
  | a :: b :: rest =>
    if isSlash a && isSlash b then
      let host := rest.takeWhile fun c => !endsAuthority .file c
      if host.isEmpty || isDriveLetter host then none else domainFault? host
    else none
  | _ => none

/-- The scheme of an absolute URL, or why a text is none. -/
def schemeOf (text : String) : Except Fault String :=
  match scheme? (significant text) with
  | none => .error .noBase
  | some (scheme, rest) =>
    let fault := match kindOf scheme with
      | .file => fileFault? rest
      | .special => authorityFault? .special (rest.dropWhile isSlash)
      | .other =>
        match rest with
        | '/' :: '/' :: rest => authorityFault? .other rest
        | _ => none
    match fault with
    | some f => .error f
    | none => .ok scheme

end Rulebook.Url
