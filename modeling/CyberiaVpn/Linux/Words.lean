import CyberiaVpn.Codec.Base64
import CyberiaVpn.Linux.Backend
import CyberiaVpn.Transport.IpRoundTrip

/-!
# Words that identify what they name

The backends speak to `wg` in words: a peer is its base64 key, its routes
are one word with commas. Nothing is lost on the way. Two keys have
different words, and the word of a list of routes splits into the words of
the routes.
-/

namespace CyberiaVpn.Linux

open Transport Codec

/-! ## Keys -/

section Indices

/-! The shifts and masks of `encode_key` cut a group of three bytes into
four numbers of six bits. -/

variable (a b c : UInt8)

theorem toNat_shiftRight (k : Nat) (hk : k < 8) : (a >>> UInt8.ofNat k).toNat = a.toNat / 2 ^ k := by
  rw [UInt8.toNat_shiftRight, UInt8.toNat_ofNat', Nat.mod_eq_of_lt (by omega : k < 2 ^ 8),
    Nat.mod_eq_of_lt hk, Nat.shiftRight_eq_div_pow]

theorem toNat_shift_three : ((a &&& 3) <<< 4).toNat = (a.toNat % 4) <<< 4 := by
  have hmask : (a &&& 3).toNat = a.toNat % 4 := Nat.and_two_pow_sub_one_eq_mod a.toNat 2
  rw [UInt8.toNat_shiftLeft, hmask, Nat.shiftLeft_eq, Nat.shiftLeft_eq]
  simp only [show (4 : UInt8).toNat % 8 = 4 from rfl]
  omega

theorem toNat_shift_fifteen : ((a &&& 15) <<< 2).toNat = (a.toNat % 16) <<< 2 := by
  have hmask : (a &&& 15).toNat = a.toNat % 16 := Nat.and_two_pow_sub_one_eq_mod a.toNat 4
  rw [UInt8.toNat_shiftLeft, hmask, Nat.shiftLeft_eq, Nat.shiftLeft_eq]
  simp only [show (2 : UInt8).toNat % 8 = 2 from rfl]
  omega

theorem toNat_first : (a >>> 2).toNat = Base64.group a b c / 262144 := by
  have hb := b.toNat_lt
  have hc := c.toNat_lt
  have hshift : (a >>> 2).toNat = a.toNat / 4 := toNat_shiftRight a 2 (by decide)
  rw [hshift, Base64.group]
  omega

/-- Two bits of one byte, four of the next. -/
theorem toNat_second :
    (((a &&& 3) <<< 4) ||| (b >>> 4)).toNat = Base64.group a b c / 4096 % 64 := by
  have hb := b.toNat_lt
  have hc := c.toNat_lt
  have hlow : (b >>> 4).toNat = b.toNat / 16 := toNat_shiftRight b 4 (by decide)
  rw [UInt8.toNat_or, toNat_shift_three, hlow,
    ← Nat.shiftLeft_add_eq_or_of_lt (by omega), Nat.shiftLeft_eq, Base64.group]
  omega

/-- Four bits of one byte, two of the next. -/
theorem toNat_third :
    (((b &&& 15) <<< 2) ||| (c >>> 6)).toNat = Base64.group a b c / 64 % 64 := by
  have hc := c.toNat_lt
  have hlow : (c >>> 6).toNat = c.toNat / 64 := toNat_shiftRight c 6 (by decide)
  rw [UInt8.toNat_or, toNat_shift_fifteen, hlow,
    ← Nat.shiftLeft_add_eq_or_of_lt (by omega), Nat.shiftLeft_eq, Base64.group]
  omega

theorem toNat_fourth : (c &&& 63).toNat = Base64.group a b c % 64 := by
  have hmask : (c &&& 63).toNat = c.toNat % 64 := Nat.and_two_pow_sub_one_eq_mod c.toNat 6
  rw [hmask, Base64.group]
  omega

end Indices

theorem base64Char_eq_symbol {i : UInt8} {n : Nat} (h : i.toNat = n) :
    base64Char i = Base64.symbol n :=
  h ▸ rfl

theorem encodeChunks_eq_encode (bytes : List UInt8) : encodeChunks bytes = Base64.encode bytes := by
  fun_induction Base64.encode bytes with
  | case1 a b c rest ih =>
      rw [encodeChunks, ih, base64Char_eq_symbol (toNat_first a b c),
        base64Char_eq_symbol (toNat_second a b c), base64Char_eq_symbol (toNat_third a b c),
        base64Char_eq_symbol (toNat_fourth a b c)]
  | case2 a b =>
      have hthird : ((b &&& 15) <<< 2).toNat = Base64.group a b 0 / 64 % 64 := by
        rw [← toNat_third]
        simp
      rw [encodeChunks, base64Char_eq_symbol (toNat_first a b 0),
        base64Char_eq_symbol (toNat_second a b 0), base64Char_eq_symbol hthird]
  | case3 a =>
      have hsecond : ((a &&& 3) <<< 4).toNat = Base64.group a 0 0 / 4096 % 64 := by
        rw [← toNat_second]
        simp
      rw [encodeChunks, base64Char_eq_symbol (toNat_first a 0 0), base64Char_eq_symbol hsecond]
  | case4 => rfl

theorem encodeKey_inj {k k' : Key} (h : encodeKey k = encodeKey k') : k = k' := by
  have hchars : encodeChunks k.toList = encodeChunks k'.toList := String.ofList_injective h
  rw [encodeChunks_eq_encode, encodeChunks_eq_encode] at hchars
  exact Vector.toList_inj.mp (Base64.encode_inj hchars)

/-! ## Routes -/

theorem splitComma_joinComma {words : List String} (hne : words ≠ [])
    (hcomma : ∀ word ∈ words, ',' ∉ word.toList) : splitComma (joinComma words) = words := by
  have hsplit : (List.intercalate [','] (words.map String.toList)).splitOn ',' =
      words.map String.toList := by
    refine List.splitOn_intercalate ',' (fun l hl => ?_) (by simpa using hne)
    obtain ⟨word, hword, rfl⟩ := List.mem_map.mp hl
    exact hcomma word hword
  rw [splitComma, joinComma, String.toList_ofList, hsplit, List.map_map]
  exact (List.map_congr_left fun word _ => String.ofList_toList).trans (List.map_id _)

/-- What `wg` takes as the allowed IPs of a peer with these routes. -/
theorem splitComma_routes {routes : List AllowedIp} (hne : routes ≠ []) :
    splitComma (joinComma (routes.map AllowedIp.display)) = routes.map AllowedIp.display := by
  refine splitComma_joinComma (by simpa using hne) fun word hword => ?_
  obtain ⟨route, -, rfl⟩ := List.mem_map.mp hword
  exact route.comma_notMem_display

end CyberiaVpn.Linux
