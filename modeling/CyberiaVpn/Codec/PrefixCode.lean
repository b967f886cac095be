import Mathlib.Algebra.Group.Nat.Defs
import Mathlib.Data.List.Basic

/-!
# Prefix codes

Messages that are signed are built by appending one encoded value after
another, with nothing in between. What makes such a concatenation
unambiguous is that each piece is a prefix code: from a text that starts
with an encoding, the value and the rest of the text are determined.

The constructors here are the usual ones: fixed-width big-endian numbers,
byte strings behind their length, and lists behind their count. Nothing
here knows what is encoded.
-/

namespace CyberiaVpn.Codec

variable {α β γ : Type}

/-- On values in `S`, an encoding followed by anything determines both the
value and what follows. -/
def PrefixCode (S : α → Prop) (f : α → List β) : Prop :=
  ∀ ⦃a b : α⦄ ⦃r s : List β⦄, S a → S b → f a ++ r = f b ++ s → a = b ∧ r = s

theorem PrefixCode.inj {S : α → Prop} {f : α → List β} (h : PrefixCode S f) {a b : α}
    (ha : S a) (hb : S b) (heq : f a = f b) : a = b :=
  (h (r := []) (s := []) ha hb (by rw [heq])).1

theorem prefixCode_of_length {S : α → Prop} {f : α → List β} {n : Nat}
    (hlen : ∀ a, S a → (f a).length = n) (hinj : ∀ a b, S a → S b → f a = f b → a = b) :
    PrefixCode S f := by
  intro a b r s ha hb heq
  obtain ⟨hab, hrs⟩ := List.append_inj heq ((hlen a ha).trans (hlen b hb).symm)
  exact ⟨hinj a b ha hb hab, hrs⟩

/-- Encoding through an injective view of the value. -/
theorem PrefixCode.comp {S : α → Prop} {T : γ → Prop} {f : α → List β} {g : γ → α}
    (h : PrefixCode S f) (hg : ∀ a, T a → S (g a))
    (hinj : ∀ a b, T a → T b → g a = g b → a = b) : PrefixCode T fun a => f (g a) := by
  intro a b r s ha hb heq
  obtain ⟨hab, hrs⟩ := h (hg a ha) (hg b hb) heq
  exact ⟨hinj a b ha hb hab, hrs⟩

/-- One value after another. -/
theorem PrefixCode.append {S : α → Prop} {T : γ → Prop} {f : α → List β} {g : γ → List β}
    (hf : PrefixCode S f) (hg : PrefixCode T g) :
    PrefixCode (fun x : α × γ => S x.1 ∧ T x.2) fun x => f x.1 ++ g x.2 := by
  rintro ⟨a, c⟩ ⟨b, d⟩ r s ⟨ha, hc⟩ ⟨hb, hd⟩ heq
  dsimp only at heq ha hb hc hd
  rw [List.append_assoc, List.append_assoc] at heq
  obtain ⟨rfl, hrest⟩ := hf ha hb heq
  obtain ⟨rfl, rfl⟩ := hg hc hd hrest
  exact ⟨rfl, rfl⟩

/-! ## Numbers -/

/-- The low `w` bytes of `n`, most significant first. -/
def bigEndian : Nat → Nat → List UInt8
  | 0, _ => []
  | w + 1, n => bigEndian w (n / 256) ++ [UInt8.ofNat n]

@[simp] theorem length_bigEndian : ∀ w n, (bigEndian w n).length = w
  | 0, _ => rfl
  | w + 1, n => by simp [bigEndian, length_bigEndian w]

theorem bigEndian_inj : ∀ {w m n : Nat}, m < 256 ^ w → n < 256 ^ w →
    bigEndian w m = bigEndian w n → m = n
  | 0, m, n, hm, hn, _ => by omega
  | w + 1, m, n, hm, hn, heq => by
      rw [bigEndian, bigEndian] at heq
      obtain ⟨hhigh, hlow⟩ := List.append_inj heq (by simp)
      rw [Nat.pow_succ] at hm hn
      have hdiv : m / 256 = n / 256 :=
        bigEndian_inj (by omega) (by omega) hhigh
      have hmod : m % 256 = n % 256 := by
        have h := congrArg UInt8.toNat (List.head_eq_of_cons_eq hlow)
        simpa using h
      omega

theorem prefixCode_bigEndian (w : Nat) : PrefixCode (· < 256 ^ w) (bigEndian w) :=
  prefixCode_of_length (fun _ _ => length_bigEndian w _) fun _ _ hm hn => bigEndian_inj hm hn

/-! ## Byte strings and lists -/

/-- A byte string behind its length in `w` bytes. -/
def field (w : Nat) (bytes : List UInt8) : List UInt8 := bigEndian w bytes.length ++ bytes

theorem prefixCode_field (w : Nat) :
    PrefixCode (fun bytes : List UInt8 => bytes.length < 256 ^ w) (field w) := by
  intro a b r s ha hb heq
  rw [field, field, List.append_assoc, List.append_assoc] at heq
  obtain ⟨hlen, heq⟩ := prefixCode_bigEndian w ha hb heq
  exact List.append_inj heq hlen

/-- A list behind its count in `w` bytes. -/
def counted (w : Nat) (f : α → List UInt8) (xs : List α) : List UInt8 :=
  bigEndian w xs.length ++ xs.flatMap f

/-- With the count known, the elements are read one by one. -/
theorem prefixCode_flatMap {S : α → Prop} {f : α → List UInt8} (h : PrefixCode S f) :
    ∀ {xs ys : List α} {r s : List UInt8}, (∀ x ∈ xs, S x) → (∀ y ∈ ys, S y) →
      xs.length = ys.length → xs.flatMap f ++ r = ys.flatMap f ++ s → xs = ys ∧ r = s
  | [], [], _, _, _, _, _, heq => ⟨rfl, heq⟩
  | x :: xs, y :: ys, r, s, hxs, hys, hlen, heq => by
      rw [List.flatMap_cons, List.flatMap_cons, List.append_assoc, List.append_assoc] at heq
      obtain ⟨rfl, hrest⟩ :=
        h (hxs x (List.mem_cons_self ..)) (hys y (List.mem_cons_self ..)) heq
      obtain ⟨rfl, rfl⟩ := prefixCode_flatMap h (fun z hz => hxs z (List.mem_cons_of_mem _ hz))
        (fun z hz => hys z (List.mem_cons_of_mem _ hz)) (Nat.succ.inj hlen) hrest
      exact ⟨rfl, rfl⟩

theorem prefixCode_counted (w : Nat) {S : α → Prop} {f : α → List UInt8} (h : PrefixCode S f) :
    PrefixCode (fun xs : List α => xs.length < 256 ^ w ∧ ∀ x ∈ xs, S x) (counted w f) := by
  rintro xs ys r s ⟨hx, hxs⟩ ⟨hy, hys⟩ heq
  rw [counted, counted, List.append_assoc, List.append_assoc] at heq
  obtain ⟨hlen, heq⟩ := prefixCode_bigEndian w hx hy heq
  exact prefixCode_flatMap h hxs hys hlen heq

end CyberiaVpn.Codec
