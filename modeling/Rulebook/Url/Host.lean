import Rulebook.Url.Domain

/-!
# Hosts of URLs

A host is an address of six or four parts or a name. The names of special schemes are those of domains;
other schemes take any text without the characters that delimit a URL.
-/

namespace Rulebook.Url

inductive Fault where
  | emptyHost | badDomain | badPort | badIpv4 | badIpv6 | badHostChar | noBase
  deriving DecidableEq, Repr

def Fault.message : Fault → String
  | emptyHost => "empty host"
  | badDomain => "invalid international domain name"
  | badPort => "invalid port number"
  | badIpv4 => "invalid IPv4 address"
  | badIpv6 => "invalid IPv6 address"
  | badHostChar => "invalid domain character"
  | noBase => "relative URL without a base"

def hexValue (c : Char) : Option Nat :=
  if c.isDigit then some (c.toNat - 48)
  else if 'a' ≤ c ∧ c ≤ 'f' then some (c.toNat - 87)
  else if 'A' ≤ c ∧ c ≤ 'F' then some (c.toNat - 55)
  else none

/-! ## Four parts -/

/-- A part of an address: its value, or none if it does not fit 32 bits. A part may be octal or
hexadecimal. -/
def ipv4Number? (cs : List Char) : Option (Option Nat) :=
  let (radix, digits) := match cs with
    | '0' :: 'x' :: rest | '0' :: 'X' :: rest => (16, rest)
    | '0' :: d :: rest => (8, d :: rest)
    | cs => (10, cs)
  if cs.isEmpty then none
  else if digits.all fun c => (hexValue c).any (· < radix) then
    let n := digits.foldl (fun n c => n * radix + (hexValue c).getD 0) 0
    some (if n < UInt32.size then some n else none)
  else none

/-- Whether the last part of a name is a number, so that the name has to be an address. -/
def endsInNumber (name : List Char) : Bool :=
  let parts := (labels name).reverse
  let last := match parts with
    | [] :: last :: _ => some last
    | [[]] => none
    | last :: _ => some last
    | [] => none
  last.any fun l => (!l.isEmpty && l.all Char.isDigit) || (ipv4Number? l).isSome

def isIpv4 (name : List Char) : Bool :=
  let parts := labels name
  let parts := if parts.getLast? = some [] then parts.dropLast else parts
  match parts.mapM fun p => (ipv4Number? p).join with
  | none => false
  | some numbers =>
    match numbers.getLast? with
    | none => false
    | some last =>
      numbers.length ≤ 4 && last < Nat.pow 256 (5 - numbers.length) && numbers.dropLast.all (· ≤ 255)

/-! ## Six parts -/

/-- Decimal parts between dots, without leading zeros, each below 256; `seen` came before. -/
def isDottedTail : Nat → List Char → Bool
  | seen, cs =>
    let parts := labels cs
    seen = 0 && parts.length = 4 && parts.all fun p =>
      match p with
      | [] => false
      | ['0'] => true
      | '0' :: _ => false
      | p => p.all Char.isDigit && p.length ≤ 3 &&
          p.foldl (fun n c => n * 10 + (c.toNat - 48)) 0 ≤ 255

/-- Up to `n` hexadecimal digits, and what follows. -/
def hexPrefix : Nat → List Char → Nat × List Char
  | n + 1, c :: cs =>
    if (hexValue c).isSome then
      let (k, rest) := hexPrefix n cs
      (k + 1, rest)
    else (0, c :: cs)
  | _, cs => (0, cs)

theorem hexPrefix_length_le (n : Nat) (cs : List Char) : (hexPrefix n cs).2.length ≤ cs.length := by
  fun_induction hexPrefix n cs <;> simp_all
  omega

/-- The pieces from `piece` on; a gap has been seen or not. -/
def ipv6Pieces (piece : Nat) (gap : Bool) (cs : List Char) : Bool :=
  match cs with
  | [] => gap || piece = 8
  | c :: cs' =>
    if piece = 8 then false
    else if c = ':' then !gap && ipv6Pieces (piece + 1) true cs'
    else
      match _h : hexPrefix 4 (c :: cs') with
      | (_, []) => gap || piece + 1 = 8
      | (0, _ :: _) => false
      | (_ + 1, '.' :: _) =>
        piece ≤ 6 && isDottedTail 0 (c :: cs') && (gap || piece + 2 = 8)
      | (_ + 1, ':' :: rest) => !rest.isEmpty && ipv6Pieces (piece + 1) gap rest
      | (_ + 1, _ :: _) => false
termination_by cs.length
decreasing_by
  · simp
  · have hle := hexPrefix_length_le 4 (c :: cs')
    rw [_h] at hle
    exact hle

def isIpv6 (cs : List Char) : Bool :=
  match cs with
  | ':' :: ':' :: rest => ipv6Pieces 1 true rest
  | ':' :: _ => false
  | cs => 2 ≤ cs.length && ipv6Pieces 0 false cs

/-! ## Names -/

/-- The bytes of a text in which a percent sign and two hexadecimal digits stand for a byte. -/
def percentDecoded : List Char → List UInt8
  | '%' :: a :: b :: rest =>
    match hexValue a, hexValue b with
    | some x, some y => UInt8.ofNat (16 * x + y) :: percentDecoded rest
    | _, _ => 37 :: percentDecoded (a :: b :: rest)
  | c :: rest => c.toString.toUTF8.toList ++ percentDecoded rest
  | [] => []

def bracketed? : List Char → Option (Option (List Char))
  | '[' :: rest => some (if rest.getLast? = some ']' then some rest.dropLast else none)
  | _ => none

/-- Why a text is not the host of a URL with a special scheme, if it is not. -/
def domainFault? (host : List Char) : Option Fault :=
  match bracketed? host with
  | some inner => if inner.any isIpv6 then none else some .badIpv6
  | none =>
    match (String.fromUTF8? (percentDecoded host).toByteArray).bind fun s => domain? s.toList with
    | none => some .badDomain
    | some [] => some .emptyHost
    | some name => if endsInNumber name && !isIpv4 name then some .badIpv4 else none

/-- Characters that no host holds. -/
def isForbiddenInHost (c : Char) : Bool := "\x00\t\n\r #/:<>?@[\\]^|".toList.contains c

/-- Why a text is not the host of any other URL, if it is not. -/
def otherFault? (host : List Char) : Option Fault :=
  match bracketed? host with
  | some inner => if inner.any isIpv6 then none else some .badIpv6
  | none => if host.any isForbiddenInHost then some .badHostChar else none

end Rulebook.Url
