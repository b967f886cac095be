import CyberiaVpn.Killswitch.State
import CyberiaVpn.Nft.Ruleset
import CyberiaVpn.Transport.IpRoundTrip
import CyberiaVpn.Transport.Prefix

/-!
# Addresses and interface names in nft input

The rule texts of the kill switch and of the node gateway write an address
or a prefix after `ip` or `ip6`, and an interface name between quotes.
`readNetwork` reads an address back as the prefix of full length. What the
programs display is one word, a name that passed either of the two
interface checks is one quoted token, and both are read back as they were.
-/

namespace CyberiaVpn.Linux

open Transport
open Nft (Family Token)

def family (a : IpAddr) : Family := if a.isIpv4 then .ip else .ip6

/-- An address, or a prefix no longer than the family allows. -/
def readNetwork (f : Family) (text : String) : Option AllowedIp :=
  match text.toList.splitOn '/' with
  | [address] => do
      let a ← IpAddr.parse (String.ofList address)
      if family a = f then some ⟨a, UInt8.ofNat a.width⟩ else none
  | [address, length] => do
      let a ← IpAddr.parse (String.ofList address)
      let p ← Nft.readNat length
      if family a = f ∧ p ≤ a.width then some ⟨a, UInt8.ofNat p⟩ else none
  | _ => none

/-- The keyword before an address is that of its family. -/
def familyWord (a : IpAddr) : String := if a.isIpv4 then "ip" else "ip6"

theorem parseField_saddr {a : IpAddr} {text : String} :
    Nft.parseField readNetwork (familyWord a) "saddr" text =
      (readNetwork (family a) text).map .saddr := by
  cases a <;> rfl

theorem parseField_daddr {a : IpAddr} {text : String} :
    Nft.parseField readNetwork (familyWord a) "daddr" text =
      (readNetwork (family a) text).map .daddr := by
  cases a <;> rfl

theorem wellFormed_familyWord (a : IpAddr) : (Token.word (familyWord a)).wellFormed = true := by
  cases a with
  | v4 bits => exact (by decide : (Token.word "ip").wellFormed = true)
  | v6 bits => exact (by decide : (Token.word "ip6").wellFormed = true)

/-! ## Words -/

theorem isWordChar_digitChar : ∀ d < 16, Nft.isWordChar (Nat.digitChar d) = true := by decide

theorem isWordChar_display {a : IpAddr} {c : Char} (hc : c ∈ a.display.toList) :
    Nft.isWordChar c = true :=
  IpAddr.forall_mem_display (P := fun c => Nft.isWordChar c = true) rfl rfl isWordChar_digitChar hc

theorem isWordChar_toDigits {n : Nat} {c : Char} (hc : c ∈ Nat.toDigits 10 n) :
    Nft.isWordChar c = true :=
  IpAddr.forall_mem_toDigits (P := fun c => Nft.isWordChar c = true) isWordChar_digitChar
    (Or.inl rfl) hc

theorem display_ne_nil (a : IpAddr) : a.display.toList ≠ [] := by
  intro hnil
  have hempty : a.display = "" := String.toList_inj.mp hnil
  have hparse := a.parse_display
  rw [hempty] at hparse
  cases hparse

theorem wellFormed_display (a : IpAddr) : (Token.word a.display).wellFormed = true := by
  simp only [Token.wellFormed, Bool.and_eq_true, Bool.not_eq_true', List.isEmpty_eq_false_iff,
    List.all_eq_true]
  exact ⟨display_ne_nil a, fun c hc => isWordChar_display hc⟩

theorem wellFormed_network (n : AllowedIp) : (Token.word n.display).wellFormed = true := by
  simp only [Token.wellFormed, Bool.and_eq_true, Bool.not_eq_true', List.isEmpty_eq_false_iff,
    List.all_eq_true, n.toList_display, List.mem_append, List.mem_cons]
  refine ⟨List.append_ne_nil_of_left_ne_nil (display_ne_nil n.network) _, ?_⟩
  rintro c (hc | rfl | hc)
  · exact isWordChar_display hc
  · rfl
  · exact isWordChar_toDigits hc

theorem wellFormed_port (port : UInt16) : (Token.word (toString port)).wellFormed = true := by
  have hdigits : (toString port).toList = Nat.toDigits 10 port.toNat := Nat.toList_repr
  simp only [Token.wellFormed, Bool.and_eq_true, Bool.not_eq_true', List.isEmpty_eq_false_iff,
    List.all_eq_true, hdigits]
  exact ⟨Nat.toDigits_ne_nil, fun c hc => isWordChar_toDigits hc⟩

/-! ## Reading back -/

theorem slash_notMem_display (a : IpAddr) : '/' ∉ a.display.toList := fun hmem =>
  (IpAddr.ipChar_display hmem).ne (Or.inr rfl) rfl

theorem readNetwork_address (a : IpAddr) :
    readNetwork (family a) a.display = some ⟨a, UInt8.ofNat a.width⟩ := by
  rw [readNetwork, List.splitOn_eq_singleton (slash_notMem_display a)]
  simp only [String.ofList_toList, a.parse_display, Option.bind_eq_bind, Option.bind_some, if_true]

theorem readNetwork_network {n : AllowedIp} (h : n.prefixLength.toNat ≤ n.network.width) :
    readNetwork (family n.network) n.display = some n := by
  have hslash : '/' ∉ Nat.toDigits 10 n.prefixLength.toNat := fun hmem =>
    (IpAddr.ipChar_toDigits (Or.inl rfl) hmem).ne (Or.inr rfl) rfl
  have hlength : Nft.readNat (Nat.toDigits 10 n.prefixLength.toNat) = some n.prefixLength.toNat := by
    rw [← Nat.toList_repr]
    exact Nft.readNat_repr _
  rw [readNetwork, n.toList_display,
    List.splitOn_append_cons_self_of_not_mem (slash_notMem_display n.network),
    List.splitOn_eq_singleton hslash]
  simp only [String.ofList_toList, n.network.parse_display, hlength, Option.bind_eq_bind,
    Option.bind_some, h, and_self, if_true, UInt8.ofNat_toNat]

/-! ## Interface names -/

/-- The characters both interface checks leave over. -/
def isInterfaceChar (c : Char) : Bool := c.isAlphanum || c == '-' || c == '_' || c == '.'

theorem isInterfaceChar_of_validInterface {i : String} (h : Killswitch.validInterface i = true) :
    i.toList.all isInterfaceChar = true := by
  simp only [Killswitch.validInterface, Bool.and_eq_true] at h
  exact h.2

/-- The transport's check is the narrower one. -/
theorem validInterface_of_transport {i : String} (h : Transport.validInterface i = true) :
    Killswitch.validInterface i = true := by
  simp only [Transport.validInterface, Bool.and_eq_true, decide_eq_true_iff, List.all_eq_true] at h
  obtain ⟨⟨hne, hsize⟩, hchars⟩ := h
  simp only [Killswitch.validInterface, Bool.and_eq_true, decide_eq_true_iff, List.all_eq_true]
  refine ⟨⟨hne, by omega⟩, fun c hc => ?_⟩
  have hchar := hchars c hc
  simp only [Bool.or_eq_true] at hchar ⊢
  tauto

theorem isInterfaceChar_of_transport {i : String} (h : Transport.validInterface i = true) :
    i.toList.all isInterfaceChar = true :=
  isInterfaceChar_of_validInterface (validInterface_of_transport h)

theorem wellFormed_interface {i : String} (h : i.toList.all isInterfaceChar = true) :
    (Token.quoted i).wellFormed = true := by
  rw [Token.wellFormed, List.all_eq_true] at *
  intro c hc
  have hne : ∀ d, isInterfaceChar d = false → c ≠ d := by
    rintro d hd rfl
    rw [h c hc] at hd
    cases hd
  have hquote := hne '"' (by decide)
  have hnewline := hne '\n' (by decide)
  simp [Nft.isNameChar, hquote, hnewline]

/-- Such a name has no wildcard in it. -/
theorem nameMatches_interface {i name : String} (h : i.toList.all isInterfaceChar = true) :
    Nft.nameMatches i name = true ↔ name = i :=
  Nft.nameMatches_iff fun hmem => by
    have hstar := List.all_eq_true.mp h '*' hmem
    exact absurd hstar (by decide)

end CyberiaVpn.Linux
