import EspAvb.Lib.StrideWalk
import EspAvb.Maap

/-!
# The addresses a device tries

The addresses of a stream walk the dynamic pool by the stride of `maap_generate_addr`. The stride is
coprime to the size of the pool, and up to the wrap of the counter the seed does not overflow.
-/

namespace EspAvb

open Octets

def maapPoolFirst : Nat := 0x91E0F0000000
def maapPoolLast : Nat := 0x91E0F000FDFF

/-- The dynamic pool. -/
def MaapInPool (addr : EthAddr) : Prop := maapPoolFirst ≤ addr.toNat ∧ addr.toNat ≤ maapPoolLast

/-- What `maap_generate_addr` starts from, before the strides. -/
def maapSeed (mac : EthAddr) (streamIndex : Nat) : Nat :=
  let octet := fun i => (mac.bytes.getD i 0).toUInt32
  ((((octet 2 ^^^ octet 3) <<< 8) ||| octet 4) <<< 8 ||| octet 5).toNat + streamIndex

/-- Shifting in one octet more. -/
theorem shift_or_lt {x : UInt32} (b : UInt8) {k : Nat} (hk : k ≤ 16) (hx : x.toNat < 2 ^ k) :
    (x <<< 8 ||| b.toUInt32).toNat < 2 ^ (k + 8) := by
  have hb := b.toNat_lt
  have hshift : (x <<< 8).toNat < 2 ^ (k + 8) := by
    rw [UInt32.toNat_shiftLeft]
    refine lt_of_le_of_lt (Nat.mod_le _ _) ?_
    rw [show (8 : UInt32).toNat % 32 = 8 by rfl, Nat.shiftLeft_eq, pow_add]
    exact Nat.mul_lt_mul_of_pos_right hx (by positivity)
  rw [UInt32.toNat_or]
  apply Nat.or_lt_two_pow hshift
  rw [UInt8.toNat_toUInt32]
  exact hb.trans_le (Nat.pow_le_pow_right (by norm_num) (by omega))

theorem maapSeed_lt (mac : EthAddr) (streamIndex : Nat) :
    maapSeed mac streamIndex < 2 ^ 24 + streamIndex := by
  apply Nat.add_lt_add_right
  apply shift_or_lt _ (k := 16) le_rfl
  apply shift_or_lt _ (k := 8) (by norm_num)
  rw [UInt32.toNat_xor]
  apply Nat.xor_lt_two_pow
  all_goals
    rw [UInt8.toNat_toUInt32]
    exact UInt8.toNat_lt _

/-- The address at an offset of the pool. -/
def maapPoolAddr (offset : Nat) : EthAddr :=
  ⟨[0x91, 0xe0, 0xf0, 0x00, UInt8.ofNat (offset / 256), UInt8.ofNat offset], rfl⟩

theorem toNat_maapPoolAddr {offset : Nat} (h : offset < 65536) :
    (maapPoolAddr offset).toNat = maapPoolFirst + offset := by
  have hhigh : offset / 256 % 256 = offset / 256 := Nat.mod_eq_of_lt (by omega)
  simp only [maapPoolAddr, Octets.toNat, Octets.value, List.foldl_cons, List.foldl_nil,
    UInt8.toNat_ofNat', maapPoolFirst, UInt8.reduceToNat]
  omega

theorem maapInPool_iff (addr : EthAddr) :
    MaapInPool addr ↔ ∃ offset < 65024, addr = maapPoolAddr offset := by
  constructor
  · rintro ⟨hfirst, hlast⟩
    refine ⟨addr.toNat - maapPoolFirst, ?_, ?_⟩
    · simp only [maapPoolFirst, maapPoolLast] at hfirst hlast ⊢
      omega
    · apply toNat_injective
      rw [toNat_maapPoolAddr]
      · omega
      · simp only [maapPoolFirst, maapPoolLast] at hfirst hlast ⊢
        omega
  · rintro ⟨offset, hoffset, rfl⟩
    rw [MaapInPool, toNat_maapPoolAddr (by omega)]
    simp only [maapPoolFirst, maapPoolLast]
    omega

theorem maapPoolAddr_injective {offset offset' : Nat} (h : offset < 65536) (h' : offset' < 65536)
    (heq : maapPoolAddr offset = maapPoolAddr offset') : offset = offset' := by
  have hnat := congrArg Octets.toNat heq
  rw [toNat_maapPoolAddr h, toNat_maapPoolAddr h'] at hnat
  omega

/-- The 32-bit sum that picks the offset. -/
def maapSum (mac : EthAddr) (count : UInt16) (streamIndex : Nat) : UInt32 :=
  let octet := fun i => (mac.bytes.getD i 0).toUInt32
  ((((octet 2 ^^^ octet 3) <<< 8) ||| octet 4) <<< 8 ||| octet 5) + UInt32.ofNat streamIndex +
    count.toUInt32 * 0x0101

/-- The seed, the index and the strides do not overflow. -/
theorem toNat_maapSum (mac : EthAddr) (count : UInt16) {streamIndex : Nat}
    (hindex : streamIndex < 2 ^ 31) :
    (maapSum mac count streamIndex).toNat = maapSeed mac streamIndex + count.toNat * 257 := by
  have hcount := count.toNat_lt
  have hseed := maapSeed_lt mac streamIndex
  have hindex32 : (UInt32.ofNat streamIndex).toNat = streamIndex := by
    rw [UInt32.toNat_ofNat']
    exact Nat.mod_eq_of_lt (by omega)
  have hstride : (count.toUInt32 * 0x0101).toNat = count.toNat * 257 := by
    rw [UInt32.toNat_mul, UInt16.toNat_toUInt32, show (0x0101 : UInt32).toNat = 257 by rfl]
    exact Nat.mod_eq_of_lt (by omega)
  rw [maapSeed] at hseed ⊢
  rw [maapSum]
  dsimp only at hseed ⊢
  rw [UInt32.toNat_add, UInt32.toNat_add, hindex32, hstride, Nat.mod_add_mod]
  exact Nat.mod_eq_of_lt (by omega)

theorem maapOffset_high {offset : UInt32} (h : offset.toNat < 65536) :
    (offset.toUInt16 >>> 8).toUInt8 = UInt8.ofNat (offset.toNat / 256) := by
  apply UInt8.toNat_inj.mp
  rw [UInt16.toNat_toUInt8, UInt16.toNat_shiftRight, UInt32.toNat_toUInt16, UInt8.toNat_ofNat',
    show (8 : UInt16).toNat % 16 = 8 by rfl, Nat.shiftRight_eq_div_pow, Nat.mod_eq_of_lt h]

theorem maapOffset_low {offset : UInt32} (h : offset.toNat < 65536) :
    offset.toUInt16.toUInt8 = UInt8.ofNat offset.toNat := by
  apply UInt8.toNat_inj.mp
  rw [UInt16.toNat_toUInt8, UInt32.toNat_toUInt16, UInt8.toNat_ofNat', Nat.mod_eq_of_lt h]

/-- Each address is a place of the walk. -/
theorem maapGenerateAddr_eq (mac : EthAddr) (count : UInt16) {streamIndex : Nat}
    (hindex : streamIndex < 2 ^ 31) : maapGenerateAddr mac count streamIndex =
      maapPoolAddr (StrideWalk.place 257 65024 (maapSeed mac streamIndex) count.toNat) := by
  have hoffset : (maapSum mac count streamIndex % MAAP_POOL_SIZE).toNat =
      StrideWalk.place 257 65024 (maapSeed mac streamIndex) count.toNat := by
    rw [UInt32.toNat_mod, toNat_maapSum mac count hindex, StrideWalk.place,
      show MAAP_POOL_SIZE.toNat = 65024 by rfl]
  have hlt : (maapSum mac count streamIndex % MAAP_POOL_SIZE).toNat < 65536 := by
    rw [hoffset]
    exact (StrideWalk.place_lt (by norm_num) _ _).trans (by norm_num)
  rw [← hoffset]
  apply Octets.ext
  change [_, _, _, _, ((maapSum mac count streamIndex % MAAP_POOL_SIZE).toUInt16 >>> 8).toUInt8,
    (maapSum mac count streamIndex % MAAP_POOL_SIZE).toUInt16.toUInt8] = [_, _, _, _, _, _]
  rw [maapOffset_high hlt, maapOffset_low hlt]

/-- Every address tried is in the pool, less than a round of counts apart no two are the same, and a
round of counts before the counter wraps tries the whole pool. -/
theorem maap_visits_pool (mac : EthAddr) {streamIndex : Nat} (hindex : streamIndex < 2 ^ 31) :
    (∀ count, MaapInPool (maapGenerateAddr mac count streamIndex)) ∧
      (∀ i j : UInt16, i < j → j.toNat < i.toNat + 65024 →
        maapGenerateAddr mac i streamIndex ≠ maapGenerateAddr mac j streamIndex) ∧
      ∀ start : UInt16, start.toNat + 65024 ≤ 65536 → ∀ addr, MaapInPool addr →
        ∃ i < 65024, maapGenerateAddr mac (start + UInt16.ofNat i) streamIndex = addr := by
  have hcoprime : Nat.Coprime 257 65024 := by norm_num
  have hplace (seed count : Nat) : StrideWalk.place 257 65024 seed count < 65024 :=
    StrideWalk.place_lt (by norm_num) seed count
  refine ⟨fun count => ?_, fun i j hlt hround heq => ?_, fun start hstart addr haddr => ?_⟩
  · rw [maapGenerateAddr_eq mac count hindex, maapInPool_iff]
    exact ⟨_, hplace _ _, rfl⟩
  · rw [maapGenerateAddr_eq mac i hindex, maapGenerateAddr_eq mac j hindex] at heq
    have hi := hplace (maapSeed mac streamIndex) i.toNat
    have hj := hplace (maapSeed mac streamIndex) j.toNat
    exact StrideWalk.place_ne hcoprime (maapSeed mac streamIndex) (UInt16.lt_iff_toNat_lt.mp hlt) hround
      (maapPoolAddr_injective (by omega) (by omega) heq)
  · obtain ⟨offset, hoffset, rfl⟩ := (maapInPool_iff addr).mp haddr
    obtain ⟨i, hi, hvisit⟩ :=
      StrideWalk.exists_place hcoprime (maapSeed mac streamIndex) start.toNat hoffset
    refine ⟨i, hi, ?_⟩
    have hcount : (start + UInt16.ofNat i).toNat = start.toNat + i := by
      rw [UInt16.toNat_add, UInt16.toNat_ofNat', Nat.mod_eq_of_lt (a := i) (by omega)]
      exact Nat.mod_eq_of_lt (by omega)
    rw [maapGenerateAddr_eq mac _ hindex, hcount, hvisit]

/-- The last count of a round does not come back to the first address. -/
theorem maap_visits_pool_first :
    maapGenerateAddr (.zero 6) 0 0 ≠ maapGenerateAddr (.zero 6) 65023 0 :=
  (maap_visits_pool (.zero 6) (by norm_num : 0 < 2 ^ 31)).2.1 0 65023 (by decide) (by decide)

end EspAvb
