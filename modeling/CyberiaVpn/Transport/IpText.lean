import Mathlib.Algebra.Group.Nat.Defs
import CyberiaVpn.Transport.Types

/-!
# Reading IP addresses

`str::parse::<IpAddr>` as the standard library documents it. A quad has
four decimal octets without leading zeros. An IPv6 address has eight
groups of up to four hexadecimal digits, `::` stands for at least one zero
group, and a quad may stand for the last two groups. A reader returns what
it read and the rest of the text; one that fails has consumed nothing, so
the caller goes on from where it was.
-/

namespace CyberiaVpn.Transport

/-- `char::to_digit` for a radix up to sixteen. -/
def digitValue (radix : Nat) (c : Char) : Option Nat :=
  let value :=
    if '0' ≤ c ∧ c ≤ '9' then c.toNat - '0'.toNat
    else if 'a' ≤ c ∧ c ≤ 'f' then c.toNat - 'a'.toNat + 10
    else if 'A' ≤ c ∧ c ≤ 'F' then c.toNat - 'A'.toNat + 10
    else radix
  if value < radix then some value else none

namespace IpAddr

def readNumber (radix maxDigits limit : Nat) (allowZeroPrefix : Bool) (text : List Char) :
    Option (Nat × List Char) :=
  let digits := text.takeWhile fun c => (digitValue radix c).isSome
  let value := digits.foldl (fun n c => n * radix + (digitValue radix c).getD 0) 0
  if digits = [] ∨ maxDigits < digits.length then none
  else if !allowZeroPrefix && digits.head? == some '0' && 1 < digits.length then none
  else if value < limit then some (value, text.drop digits.length)
  else none

/-- The separator stands before every element but the first. -/
def readSeparator {α : Type} (separator : Char) (first : Bool)
    (inner : List Char → Option (α × List Char)) (text : List Char) : Option (α × List Char) :=
  if first then inner text
  else
    match text with
    | c :: rest => if c = separator then inner rest else none
    | [] => none

def readIpv4Addr (text : List Char) : Option (BitVec 32 × List Char) := do
  let octet := readNumber 10 3 256 false
  let (a, text) ← readSeparator '.' true octet text
  let (b, text) ← readSeparator '.' false octet text
  let (c, text) ← readSeparator '.' false octet text
  let (d, text) ← readSeparator '.' false octet text
  return (BitVec.ofNat 32 (((a * 256 + b) * 256 + c) * 256 + d), text)

/-- Up to so many groups; the flag says that the last two were a quad,
which needs two free places. -/
def readGroups : Nat → Bool → List Char → List Nat × Bool × List Char
  | 0, _, text => ([], false, text)
  | left + 1, first, text =>
      match if left = 0 then none else readSeparator ':' first readIpv4Addr text with
      | some (bits, rest) => ([bits.toNat / 65536, bits.toNat % 65536], true, rest)
      | none =>
          match readSeparator ':' first (readNumber 16 4 65536 true) text with
          | some (group, rest) =>
              let (groups, quad, rest) := readGroups left false rest
              (group :: groups, quad, rest)
          | none => ([], false, text)

def ofSegments (segs : List Nat) : BitVec 128 :=
  BitVec.ofNat 128 (segs.foldl (fun n segment => n * 65536 + segment) 0)

def readIpv6Addr (text : List Char) : Option (BitVec 128 × List Char) :=
  let (head, quad, rest) := readGroups 8 true text
  if head.length = 8 then some (ofSegments head, rest)
  else if quad then none
  else
    match rest with
    | ':' :: ':' :: rest =>
        let (tail, _, rest) := readGroups (8 - (head.length + 1)) true rest
        let zeros := List.replicate (8 - head.length - tail.length) 0
        some (ofSegments (head ++ zeros ++ tail), rest)
    | _ => none

/-- The whole text is one address. -/
def parse (text : String) : Option IpAddr :=
  match readIpv4Addr text.toList with
  | some (bits, rest) => if rest = [] then some (v4 bits) else none
  | none =>
      match readIpv6Addr text.toList with
      | some (bits, []) => some (v6 bits)
      | _ => none

example : parse "203.0.113.9" = some (v4 0xcb007109#32) := by decide
example : parse "10.0.0.01" = none := by decide
example : parse "2001:db8::ffff:10.0.0.1" = some (v6 0x20010db8000000000000ffff0a000001#128) := by
  decide

end IpAddr

end CyberiaVpn.Transport
