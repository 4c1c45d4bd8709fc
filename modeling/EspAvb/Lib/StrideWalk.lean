import Mathlib.Data.Finset.Card
import Mathlib.Tactic

/-!
# A walk by a stride

Steps of a fixed stride around a circle of places. A stride coprime to the number of places comes to
every one of them before it comes to one again.
-/

namespace StrideWalk

variable {stride size : Nat}

/-- The place after `count` steps from `seed`. -/
def place (stride size seed count : Nat) : Nat := (seed + count * stride) % size

theorem place_lt (h : 0 < size) (seed count : Nat) : place stride size seed count < size :=
  Nat.mod_lt _ h

/-- Less than a round apart, two places differ. -/
theorem place_ne (hcoprime : Nat.Coprime stride size) (seed : Nat) {i j : Nat} (hlt : i < j)
    (hround : j < i + size) : place stride size seed i ≠ place stride size seed j := by
  intro heq
  have hmod : i * stride ≡ j * stride [MOD size] := Nat.ModEq.add_left_cancel' seed heq
  have hcount : i ≡ j [MOD size] := Nat.ModEq.cancel_right_of_coprime hcoprime.symm hmod
  have hdvd : size ∣ j - i := (Nat.modEq_iff_dvd' hlt.le).mp hcount
  have hle := Nat.le_of_dvd (by omega) hdvd
  omega

/-- One round comes to every place. -/
theorem exists_place (hcoprime : Nat.Coprime stride size) (seed start : Nat) {p : Nat} (hp : p < size) :
    ∃ i < size, place stride size seed (start + i) = p := by
  have hmaps : ∀ i ∈ Finset.range size,
      place stride size seed (start + i) ∈ Finset.range size := by
    intro i _
    exact Finset.mem_range.mpr (place_lt (Nat.zero_lt_of_lt hp) _ _)
  have hinj : Set.InjOn (fun i => place stride size seed (start + i)) (Finset.range size) := by
    intro i hi j hj heq
    rw [Finset.coe_range, Set.mem_Iio] at hi hj
    by_contra hne
    rcases Nat.lt_or_gt_of_ne hne with hlt | hgt
    · exact place_ne hcoprime seed (by omega : start + i < start + j) (by omega) heq
    · exact place_ne hcoprime seed (by omega : start + j < start + i) (by omega) heq.symm
  obtain ⟨i, hi, hplace⟩ :=
    Finset.surjOn_of_injOn_of_card_le _ hmaps hinj le_rfl (Finset.mem_range.mpr hp)
  exact ⟨i, Finset.mem_range.mp hi, hplace⟩

end StrideWalk
