import EspAvb.AvbUtils
import EspAvb.Lib.Octets

/-!
# The field codec

`int_to_octets` writes an integer big-endian, and `octets_to_uint` reads its value back at every width
but one: a single octet is returned before the loop has taken it in.
-/

namespace EspAvb

open Octets

/-! ### Reading -/

theorem toNat_shiftLeft_octet (b : UInt8) {k : Nat} (hk : k < 8) :
    (b.toUInt64 <<< UInt64.ofNat (8 * k)).toNat = b.toNat <<< (8 * k) := by
  have hsize : (UInt64.ofNat (8 * k)).toNat = 8 * k := UInt64.toNat_ofNat_of_lt' (by
    change 8 * k < 2 ^ 64
    omega)
  have hb := b.toNat_lt
  have hpow : 2 ^ (8 * k) ≤ 2 ^ 56 := Nat.pow_le_pow_right (by norm_num) (by omega)
  rw [UInt64.toNat_shiftLeft, hsize, UInt8.toNat_toUInt64, Nat.mod_eq_of_lt (by omega : 8 * k < 64),
    Nat.mod_eq_of_lt]
  rw [Nat.shiftLeft_eq]
  calc
    b.toNat * 2 ^ (8 * k) < 2 ^ 8 * 2 ^ (8 * k) := by
      apply Nat.mul_lt_mul_of_pos_right hb
      positivity
    _ ≤ 2 ^ 8 * 2 ^ 56 := Nat.mul_le_mul_left _ hpow
    _ = 2 ^ 64 := by norm_num

/-- Each turn puts an octet below those before it. -/
theorem toNat_octetsLoop {buffer : Buf} {size i : Nat} (hlen : buffer.length = size)
    (hsize : size ≤ 8) (hi : i ≤ size) :
    (octetsLoop buffer size i).toNat = value (buffer.take i) * 256 ^ (size - i) := by
  induction i with
  | zero => simp [octetsLoop]
  | succ i ih =>
      have htake : buffer.take (i + 1) = buffer.take i ++ [buffer.getD i 0] := by
        rw [List.take_add_one, List.getD_eq_getElem?_getD, List.getElem?_eq_getElem (by omega)]
        rfl
      have hpow : (256 : Nat) ^ (size - i) = 2 ^ (8 * (size - i)) := by
        rw [show (256 : Nat) = 2 ^ 8 by norm_num, ← pow_mul]
      have hlow : (256 : Nat) ^ (size - (i + 1)) = 2 ^ (8 * (size - 1 - i)) := by
        rw [show (256 : Nat) = 2 ^ 8 by norm_num, ← pow_mul, show size - (i + 1) = size - 1 - i by omega]
      have hfit : (buffer.getD i 0).toNat <<< (8 * (size - 1 - i)) < 2 ^ (8 * (size - i)) := by
        have hb := (buffer.getD i 0).toNat_lt
        rw [Nat.shiftLeft_eq, show 8 * (size - i) = 8 + 8 * (size - 1 - i) by omega, pow_add]
        apply Nat.mul_lt_mul_of_pos_right hb
        positivity
      rw [octetsLoop, UInt64.toNat_or, ih (by omega), toNat_shiftLeft_octet _ (by omega), hpow,
        ← Nat.shiftLeft_eq, ← Nat.shiftLeft_add_eq_or_of_lt hfit, htake, value_append, value_singleton,
        List.length_singleton, hlow, Nat.shiftLeft_eq, Nat.shiftLeft_eq,
        show 8 * (size - i) = 8 + 8 * (size - 1 - i) by omega, pow_add]
      ring

theorem toNat_octetsToUint {buffer : Buf} {size : Nat} (hlen : buffer.length = size)
    (htwo : 2 ≤ size) (height : size ≤ 8) : (octetsToUint buffer size).toNat = value buffer := by
  have hloop := toNat_octetsLoop hlen height le_rfl
  rw [List.take_of_length_le hlen.le, Nat.sub_self, pow_zero, Nat.mul_one] at hloop
  have hlt := value_lt buffer
  rw [hlen] at hlt
  unfold octetsToUint
  rw [if_neg (by omega), if_neg (by omega)]
  dsimp only
  split_ifs with h2 h4
  · subst h2
    rw [UInt16.toNat_toUInt64, UInt64.toNat_toUInt16, hloop]
    exact Nat.mod_eq_of_lt hlt
  · have hle : (256 : Nat) ^ size ≤ 256 ^ 4 := Nat.pow_le_pow_right (by norm_num) h4
    rw [UInt32.toNat_toUInt64, UInt64.toNat_toUInt32, hloop]
    exact Nat.mod_eq_of_lt (hlt.trans_le hle)
  · exact hloop

theorem octetsToUint_one (buffer : Buf) : octetsToUint buffer 1 = 0 := rfl

/-! ### Writing -/

theorem length_swapOctets (size i : Nat) (buffer : Buf) :
    (swapOctets size i buffer).length = buffer.length := by
  simp [swapOctets]

theorem length_reverseLoop (size i : Nat) (buffer : Buf) :
    (reverseLoop size i buffer).length = buffer.length := by
  induction i with
  | zero => rfl
  | succ i ih => rw [reverseLoop, length_swapOctets, ih]

/-- After `i` turns the `i` octets at either end are exchanged. -/
theorem reverseLoop_getD {buffer : Buf} {size i : Nat} (hlen : buffer.length = size)
    (hi : i ≤ size / 2) {j : Nat} (hj : j < size) :
    (reverseLoop size i buffer).getD j 0 =
      if j < i ∨ size - 1 - j < i then buffer.getD (size - 1 - j) 0 else buffer.getD j 0 := by
  induction i generalizing j with
  | zero =>
      rw [if_neg (by omega)]
      rfl
  | succ i ih =>
      have hlength := length_reverseLoop size i buffer
      have hget (k : Nat) (hk : k < size) := ih (by omega) hk
      rw [reverseLoop, swapOctets]
      by_cases hhigh : j = size - 1 - i
      · rw [hhigh, List.getD_eq_getElem?_getD,
          List.getElem?_set_self (by rw [List.length_set]; omega), Option.getD_some,
          hget i (by omega), if_neg (by omega), if_pos (by omega),
          show size - 1 - (size - 1 - i) = i by omega]
      · by_cases hlow : j = i
        · rw [hlow, List.getD_eq_getElem?_getD, List.getElem?_set_ne (by omega),
            List.getElem?_set_self (by omega), Option.getD_some, hget (size - 1 - i) (by omega),
            if_neg (by omega), if_pos (by omega)]
        · rw [List.getD_eq_getElem?_getD, List.getElem?_set_ne (by omega),
            List.getElem?_set_ne (by omega), ← List.getD_eq_getElem?_getD, hget j hj]
          exact if_congr (by omega) rfl rfl

theorem reverseOctets_eq {buffer : Buf} {size : Nat} (hlen : buffer.length = size) :
    reverseOctets buffer size = buffer.reverse := by
  unfold reverseOctets
  split_ifs with hone
  · obtain rfl | ⟨b, rfl⟩ : buffer = [] ∨ ∃ b, buffer = [b] := by
      cases buffer with
      | nil => exact Or.inl rfl
      | cons b rest =>
          right
          have hrest : rest = [] := List.eq_nil_of_length_eq_zero (by
            rw [List.length_cons] at hlen
            omega)
          exact ⟨b, by rw [hrest]⟩
    · rfl
    · rfl
  · have hlength := length_reverseLoop size (size / 2) buffer
    apply List.ext_getElem (by rw [hlength, List.length_reverse])
    intro j hj hj'
    rw [List.length_reverse] at hj'
    have hget := reverseLoop_getD hlen le_rfl (j := j) (by omega)
    rw [List.getD_eq_getElem _ _ hj] at hget
    rw [hget, List.getElem_reverse]
    split_ifs with hswapped
    · rw [List.getD_eq_getElem _ _ (by omega)]
      congr 1
      omega
    · -- the middle octet of an odd width stays
      rw [List.getD_eq_getElem _ _ (by omega)]
      congr 1
      omega

/-- The octets of a number, least significant first. -/
theorem reverse_map_digit (n k : Nat) :
    ((List.range n).map fun i => UInt8.ofNat (k / 256 ^ i)).reverse = digits n k := by
  induction n generalizing k with
  | zero => rfl
  | succ n ih =>
      have hmod : UInt8.ofNat (k / 256 ^ 0) = UInt8.ofNat (k % 256) := by
        apply UInt8.toNat_inj.mp
        simp
      rw [List.range_succ_eq_map, List.map_cons, List.reverse_cons, digits, List.map_map, hmod, ← ih]
      congr 2
      apply List.map_congr_left
      intro i _
      simp only [Function.comp_apply, Nat.succ_eq_add_one]
      rw [pow_succ', Nat.div_div_eq_div_mul]

theorem memoryOctet_eq (v : UInt64) {i : Nat} (hi : i < 8) :
    (v >>> UInt64.ofNat (8 * i)).toUInt8 = UInt8.ofNat (v.toNat / 256 ^ i) := by
  have hsize : (UInt64.ofNat (8 * i)).toNat = 8 * i := UInt64.toNat_ofNat_of_lt' (by
    change 8 * i < 2 ^ 64
    omega)
  apply UInt8.toNat_inj.mp
  rw [UInt64.toNat_toUInt8, UInt64.toNat_shiftRight, hsize, UInt8.toNat_ofNat',
    Nat.mod_eq_of_lt (by omega : 8 * i < 64), Nat.shiftRight_eq_div_pow, pow_mul]
  norm_num

theorem intToOctets_eq {size : Nat} (height : size ≤ 8) (v : UInt64) :
    intToOctets v size = digits size v.toNat := by
  have hmemory : (memoryOctets v).take size =
      (List.range size).map fun i => UInt8.ofNat (v.toNat / 256 ^ i) := by
    rw [memoryOctets, ← List.map_take, List.take_range, min_eq_left height]
    apply List.map_congr_left
    intro i hi
    exact memoryOctet_eq v (by have := List.mem_range.mp hi; omega)
  have hlen : ((memoryOctets v).take size).length = size := by
    rw [hmemory, List.length_map, List.length_range]
  rw [intToOctets, reverseOctets_eq hlen, hmemory, reverse_map_digit]

/-! ### The pair -/

/-- The codec is exact at a width for a string of octets with the value `bs` and for an integer `v`
that the width holds, each unless it is a single octet other than 0. -/
theorem octet_codec_iff {size : Nat} (hone : 1 ≤ size) (height : size ≤ 8) :
    (∀ bs : Octets size, ((octetsToUint bs.bytes size).toNat = bs.toNat ↔ size ≠ 1 ∨ bs.toNat = 0) ∧
      (intToOctets (octetsToUint bs.bytes size) size = bs.bytes ↔ size ≠ 1 ∨ bs.toNat = 0)) ∧
    ∀ v : UInt64, v.toNat < 256 ^ size →
      (octetsToUint (intToOctets v size) size = v ↔ size ≠ 1 ∨ v = 0) := by
  obtain rfl | htwo : size = 1 ∨ 2 ≤ size := by omega
  · refine ⟨fun bs => ⟨?_, ?_⟩, fun v _ => ?_⟩
    · rw [octetsToUint_one]
      simp [eq_comm]
    · rw [octetsToUint_one, intToOctets_eq height]
      constructor
      · intro h
        right
        rw [Octets.toNat, ← h, value_digits]
        rfl
      · rintro (h | h)
        · exact absurd rfl h
        · apply value_injective
          · rw [length_digits, bs.length_eq]
          · rw [value_digits]
            exact h.symm
    · rw [octetsToUint_one]
      simp [eq_comm]
  · have hread (bs : Octets size) : (octetsToUint bs.bytes size).toNat = bs.toNat :=
      toNat_octetsToUint bs.length_eq htwo height
    have hne : size ≠ 1 := by omega
    refine ⟨fun bs => ⟨?_, ?_⟩, fun v hv => ?_⟩
    · exact iff_of_true (hread bs) (Or.inl hne)
    · refine iff_of_true ?_ (Or.inl hne)
      rw [intToOctets_eq height, hread]
      exact congrArg Octets.bytes (ofNat_toNat bs)
    · refine iff_of_true ?_ (Or.inl hne)
      apply UInt64.toNat_inj.mp
      rw [intToOctets_eq height, toNat_octetsToUint (length_digits size _) htwo height, value_digits,
        Nat.mod_eq_of_lt hv]

theorem octet_codec_two :
    octetsToUint (intToOctets 0x1234 2) 2 = 0x1234 ↔ 2 ≠ 1 ∨ (0x1234 : UInt64) = 0 :=
  (octet_codec_iff (by decide : 1 ≤ 2) (by decide)).2 0x1234 (by decide)

/-- One octet, 5, reads as 0. -/
theorem octets_to_uint_one_reads_zero :
    (octetsToUint [5] 1).toNat ≠ value [5] ∧ octetsToUint (intToOctets 5 1) 1 ≠ 5 ∧
      intToOctets (octetsToUint [5] 1) 1 ≠ [5] := by
  decide

end EspAvb
