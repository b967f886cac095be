import CyberiaVpn.Effects.Arith
import CyberiaVpn.Linux.NodeRuns
import CyberiaVpn.Linux.Words

/-!
# The word of a peer's key

`encode_key` as the source runs it: the key in chunks of three bytes, the
last one shorter, and each character looked up in the alphabet by an index
that panics past the end. No index is past the end, and the text is the
key in base64.
-/

namespace CyberiaVpn.Linux.Checked

open Effects Transport Codec

/-- A slice at an index. -/
def get {α : Type} (xs : List α) (index : Nat) : Except (Fault Empty) α :=
  match xs[index]? with
  | some x => .ok x
  | none => .error .panic

/-- `key.chunks(3)`. -/
def chunks : List UInt8 → List (List UInt8)
  | [] => []
  | a :: b :: c :: rest => [a, b, c] :: chunks rest
  | short => [short]

/-- `ALPHABET[index as usize]`. -/
def base64Char (index : UInt8) : Except (Fault Empty) Char :=
  get base64Alphabet index.toNat

def encodeChunk (chunk : List UInt8) : Except (Fault Empty) (List Char) := do
  let first ← get chunk 0
  let second := chunk[1]?.getD 0
  let third := chunk[2]?.getD 0
  let c₁ ← base64Char (first >>> 2)
  let c₂ ← base64Char (((first &&& 3) <<< 4) ||| (second >>> 4))
  let c₃ ← if 1 < chunk.length then base64Char (((second &&& 15) <<< 2) ||| (third >>> 6))
    else pure '='
  let c₄ ← if 2 < chunk.length then base64Char (third &&& 63) else pure '='
  return [c₁, c₂, c₃, c₄]

def encodeKey (key : Key) : Except (Fault Empty) String := do
  let output ← (chunks key.toList).mapM encodeChunk
  return String.ofList output.flatten

/-- An index of six bits has its symbol. -/
theorem base64Char_eq {index : UInt8} {n : Nat} (h : index.toNat = n) (hn : n < 64) :
    base64Char index = .ok (Base64.symbol n) := by
  have hlt : n < base64Alphabet.length := hn
  rw [base64Char, h, get, List.getElem?_eq_getElem hlt, Base64.symbol]
  exact congrArg Except.ok (List.getD_eq_getElem base64Alphabet '=' hlt).symm

/-- A round of the loop, where missing bytes count as zeros. -/
theorem encodeChunk_eq (chunk : List UInt8) {a b c : UInt8} (ha : chunk[0]? = some a)
    (hb : chunk[1]?.getD 0 = b) (hc : chunk[2]?.getD 0 = c) :
    encodeChunk chunk = .ok
      [Base64.symbol (Base64.group a b c / 262144), Base64.symbol (Base64.group a b c / 4096 % 64),
        if 1 < chunk.length then Base64.symbol (Base64.group a b c / 64 % 64) else '=',
        if 2 < chunk.length then Base64.symbol (Base64.group a b c % 64) else '='] := by
  have hlt := Base64.group_lt a b c
  rw [encodeChunk]
  simp only [get, ha, hb, hc]
  rw [bind_eq_ok]
  simp only [Except.ok.injEq, exists_eq_left', base64Char_eq (toNat_first a b c) (by omega),
    base64Char_eq (toNat_second a b c) (by omega), base64Char_eq (toNat_third a b c) (by omega),
    base64Char_eq (toNat_fourth a b c) (by omega)]
  split <;> split <;> rfl

/-- The loop as a whole. -/
theorem mapM_encodeChunk (bytes : List UInt8) :
    ∃ output, (chunks bytes).mapM encodeChunk = .ok output ∧
      output.flatten = Base64.encode bytes := by
  fun_induction Base64.encode bytes with
  | case1 a b c rest ih =>
      obtain ⟨output, houtput, hflat⟩ := ih
      have hchunk := encodeChunk_eq [a, b, c] rfl rfl rfl
      refine ⟨?piece :: output, ?map, ?flat⟩
      case map =>
        rw [chunks, List.mapM_cons, hchunk, houtput]
        rfl
      case flat =>
        rw [List.flatten_cons, hflat]
        rfl
  | case2 a b =>
      have hchunk := encodeChunk_eq [a, b] rfl rfl rfl
      exact ⟨[_], by rw [show chunks [a, b] = [[a, b]] from rfl, List.mapM_cons, hchunk]; rfl, rfl⟩
  | case3 a =>
      have hchunk := encodeChunk_eq [a] rfl rfl rfl
      exact ⟨[_], by rw [show chunks [a] = [[a]] from rfl, List.mapM_cons, hchunk]; rfl, rfl⟩
  | case4 => exact ⟨[], rfl, rfl⟩

/-- The text of a key that `encode_key` gives: no index panics, and the
characters are those of the standard. -/
theorem encodeKey_eq (key : Key) : encodeKey key = .ok (Linux.encodeKey key) := by
  obtain ⟨output, houtput, hflat⟩ := mapM_encodeChunk key.toList
  rw [encodeKey, houtput, Linux.encodeKey, encodeChunks_eq_encode, ← hflat]
  rfl

theorem toList_encodeKey (key : Key) : (Linux.encodeKey key).toList = Base64.encode key.toList := by
  rw [Linux.encodeKey, encodeChunks_eq_encode, String.toList_ofList]

/-- **A key's word is its base64.** It has 44 characters of which the last
one is the only padding, and decodes to the key; so no other key has it.
It is the word after `peer` in every command of `add_peer`. -/
theorem encodeKey_standard (key : Key) :
    ∃ text : String, encodeKey key = .ok text ∧
      text.toList = Base64.encode key.toList ∧ text.toList.length = 44 ∧
      (∃ symbols, '=' ∉ symbols ∧ text.toList = symbols ++ ['=']) ∧
      Base64.decode text.toList = some key.toList ∧
      (∀ other, encodeKey other = .ok text → other = key) ∧
      ∀ peer n w, peer.publicKey = key → ∀ e ∈ (LinuxWireGuardNode.addPeer peer n w).trace,
        ∃ interface rest ok,
          e.effect = .command ⟨n.tools.wg, "set" :: interface :: "peer" :: text :: rest⟩ ok := by
  refine ⟨Linux.encodeKey key, encodeKey_eq key, toList_encodeKey key, ?_, ?_, ?_, ?_, ?_⟩
  · rw [toList_encodeKey, Base64.length_encode, Vector.length_toList]
  · obtain ⟨symbols, hsymbols, heq⟩ := Base64.encode_padding key.toList
    rw [Vector.length_toList] at heq
    refine ⟨symbols, fun hpad => absurd (hsymbols _ hpad) (by decide), ?_⟩
    rw [toList_encodeKey, heq]
    rfl
  · rw [toList_encodeKey, Base64.decode_encode]
  · intro other hother
    rw [encodeKey_eq] at hother
    exact encodeKey_inj (Except.ok.inj hother)
  · rintro peer n w rfl
    exact (LinuxWireGuardNode.sat_addPeer peer).1

end CyberiaVpn.Linux.Checked
