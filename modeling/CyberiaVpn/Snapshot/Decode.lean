import CyberiaVpn.Codec.JsonStore
import CyberiaVpn.Codec.Rfc3339Reader
import CyberiaVpn.Codec.Spaces
import CyberiaVpn.Snapshot.Store

/-!
# Decoding snapshots

`Decode` of `services/control-api/internal/snapshot/file.go`: one JSON
value and nothing after it. `null` is refused before it is read, because
`encoding/json` would leave the variable as it is.

Timestamps that are not exactly in the format of RFC 3339 go to
`time.Parse`, which is a parameter.
-/

namespace CyberiaVpn.Snapshot

open Codec Codec.Json
open Control (Text Time)

inductive DecodeError where
  | null
  | json (error : Json.DecodeError)
  | trailing
  deriving DecidableEq

def decode {σ : Type} (T : Target σ) (data : Text) : Except DecodeError σ :=
  if trimSpace data = Json.null then .error .null
  else
    match Json.decode T data with
    | .error e => .error (.json e)
    | .ok (value, rest) => if skipSpace rest = [] then .ok value else .error .trailing

/-- The messages, those of `encoding/json` in short. -/
def DecodeError.message : DecodeError → String
  | .null => "null snapshot"
  | .json (.read .invalid) => "invalid character"
  | .json (.read .short) => "unexpected EOF"
  | .json (.read .deep) => "exceeded max depth"
  | .json .unmarshal => "json: cannot unmarshal"
  | .trailing => "trailing snapshot data"

/-- An instant of `time.Time`. -/
def instant (read : Int × Nat) : Option Time :=
  if h : (-(2 ^ 63) ≤ read.1 ∧ read.1 < 2 ^ 63) ∧ read.2 < 10 ^ 9 then
    some ⟨read.1, read.2, h.1, h.2⟩
  else none

theorem zero_sec_range : -(2 ^ 63) ≤ (0 : Int) ∧ (0 : Int) < 2 ^ 63 :=
  ⟨by decide, by decide⟩

theorem zero_nsec_lt : (0 : Nat) < 10 ^ 9 := by decide

/-- `Time.UnmarshalJSON` takes a string as it was written, without
unquoting it. -/
def time (parse : Text → Option Time) : Target Time where
  zero := ⟨0, 0, zero_sec_range, zero_nsec_lt⟩
  store
    | .null, old => some old
    | .string inside, _ => ((Rfc3339.parse inside).bind instant).or (parse inside)
    | _, _ => none

theorem time_store (parse : Text → Option Time) {offset : Int} {t : Time} {text : Text}
    (htext : Rfc3339.timestamp offset t.sec t.nsec = .ok text) (hoffset : 60 ∣ offset) (old : Time) :
    (time parse).store (.string text) old = some t := by
  have hparse := Rfc3339.parse_timestamp htext t.nsec_lt
  rw [Int.tdiv_mul_cancel hoffset, Int.sub_self, Int.add_zero] at hparse
  simp only [time, hparse, Option.bind_some, instant, dif_pos (And.intro t.sec_range t.nsec_lt),
    Option.some_or]

/-- A text of an object and nothing else. -/
theorem decode_object {σ : Type} {T : Target σ} {members : List (String × List UInt8)} {s : σ}
    (h : Restores T 10000 (object members) s) : decode T (object members) = .ok s := by
  obtain ⟨value, hreads, hstore⟩ := h
  rw [object_eq] at hreads ⊢
  generalize commas (members.map member) = inside at hreads
  have htrim : trimSpace (123 :: (inside ++ [125])) = 123 :: (inside ++ [125]) :=
    trimSpace_visible (by decide) (by decide)
  have hnull : 123 :: (inside ++ [125]) ≠ Json.null := fun h => by
    have hhead : some 123 = Json.null.head? := congrArg List.head? h
    exact absurd hhead (by decide)
  rw [decode, htrim, if_neg hnull, Json.decode, read_of_reads hreads]
  dsimp only
  rw [hstore]
  rfl

end CyberiaVpn.Snapshot
