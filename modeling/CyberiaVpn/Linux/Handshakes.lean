import Mathlib.Algebra.Group.Nat.Defs
import Mathlib.Data.List.Basic

/-!
# Reading `wg show <interface> latest-handshakes`

The two parsers at the end of `core/transport/src/linux.rs`, over the
bytes a command printed. `latestHandshake` skips the lines it cannot
read; `nodeHandshakes` gives up on the first one.
-/

namespace CyberiaVpn.Linux

/-- `MAXIMUM_HANDSHAKE_AGE_SECONDS`. -/
def maximumHandshakeAgeSeconds : Nat := 180

def isContinuation (b : UInt8) : Bool := 0x80 ≤ b && b ≤ 0xbf

/-- `std::str::from_utf8` succeeds. -/
def utf8Valid : List UInt8 → Bool
  | [] => true
  | b :: rest =>
      if b < 0x80 then utf8Valid rest
      else
        match rest with
        | c :: rest =>
            if 0xc2 ≤ b && b ≤ 0xdf then isContinuation c && utf8Valid rest
            else
              match rest with
              | d :: rest =>
                  if b == 0xe0 then 0xa0 ≤ c && c ≤ 0xbf && isContinuation d && utf8Valid rest
                  else if b == 0xed then
                    0x80 ≤ c && c ≤ 0x9f && isContinuation d && utf8Valid rest
                  else if 0xe1 ≤ b && b ≤ 0xef then
                    isContinuation c && isContinuation d && utf8Valid rest
                  else
                    match rest with
                    | e :: rest =>
                        isContinuation d && isContinuation e && utf8Valid rest &&
                          ((b == 0xf0 && 0x90 ≤ c && c ≤ 0xbf) ||
                            (0xf1 ≤ b && b ≤ 0xf3 && isContinuation c) ||
                            (b == 0xf4 && 0x80 ≤ c && c ≤ 0x8f))
                    | [] => false
              | [] => false
        | [] => false

/-- `str::lines`. A carriage return before the newline stays: the words of
a line do not see it. -/
def lines (text : List UInt8) : List (List UInt8) :=
  let pieces := text.splitOn 10
  if pieces.getLast? = some [] then pieces.dropLast else pieces

def isAsciiWhitespace (b : UInt8) : Bool :=
  b == 9 || b == 10 || b == 12 || b == 13 || b == 32

/-- `split_ascii_whitespace`. -/
def words (line : List UInt8) : List (List UInt8) :=
  (line.splitOnP isAsciiWhitespace).filter (· ≠ [])

def isDigit (b : UInt8) : Bool := 48 ≤ b && b ≤ 57

/-- `u64::from_str`: decimal digits with an optional plus sign, in range. -/
def parseU64 (word : List UInt8) : Option Nat :=
  let digits := if word.head? = some 43 then word.tail else word
  if digits ≠ [] ∧ digits.all isDigit then
    let n := digits.foldl (fun n b => 10 * n + (b.toNat - 48)) 0
    if n < 2 ^ 64 then some n else none
  else none

def latestHandshake (output : List UInt8) : Option Nat :=
  if utf8Valid output then
    let stamps := (lines output).filterMap fun line => (words line)[1]? >>= parseU64
    stamps.max?.filter (· ≠ 0)
  else none

/-- Whether a node's peer counts as recently seen. -/
def recentHandshake (now timestamp : Nat) : Bool :=
  timestamp ≠ 0 && timestamp ≤ now && now - timestamp ≤ maximumHandshakeAgeSeconds

/-- One line: a key, a timestamp, nothing else. -/
def handshakeLine (line : List UInt8) : Option Nat :=
  match words line with
  | [_, stamp] => parseU64 stamp
  | _ => none

/-- `(observed, recent)`. -/
def nodeHandshakes (now : Nat) (output : List UInt8) : Option (Nat × Nat) :=
  if utf8Valid output then do
    let stamps ← (lines output).mapM handshakeLine
    return (stamps.length, (stamps.filter (recentHandshake now)).length)
  else none

end CyberiaVpn.Linux
