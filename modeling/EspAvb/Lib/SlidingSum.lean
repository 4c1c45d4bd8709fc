import Mathlib.Algebra.BigOperators.Intervals
import Mathlib.Data.Nat.ModEq
import Mathlib.Tactic

/-!
# A sum over the last entries

A ring of cells with a running sum: an entry takes the place of the one that leaves. The sum is that of
the last entries, as many as the ring has cells, and never less than what is taken off it.
-/

open Finset

structure SlidingSum where
  cells : Nat → Nat
  pos : Nat
  sum : Nat

namespace SlidingSum

def empty : SlidingSum := { cells := fun _ => 0, pos := 0, sum := 0 }

def push (len : Nat) (s : SlidingSum) (entry : Nat) : SlidingSum :=
  { cells := Function.update s.cells s.pos entry
    pos := if len ≤ s.pos + 1 then 0 else s.pos + 1
    sum := s.sum - s.cells s.pos + entry }

/-- After the entries of a sequence before `n`. -/
structure Follows (len : Nat) (entries : Nat → Nat) (n : Nat) (s : SlidingSum) : Prop where
  pos : s.pos = n % len
  held : ∀ i, n - len ≤ i → i < n → s.cells (i % len) = entries i
  unused : ∀ cell, n ≤ cell → s.cells cell = 0
  sum : s.sum = ∑ i ∈ Ico (n - len) n, entries i

variable {len : Nat} {entries : Nat → Nat} {n : Nat} {s : SlidingSum}

theorem follows_empty : Follows len entries 0 empty where
  pos := (Nat.zero_mod len).symm
  held := fun i _ h => absurd h (Nat.not_lt_zero i)
  unused := fun _ _ => rfl
  sum := by simp [empty]

/-- What leaves a full ring is its oldest entry. -/
theorem Follows.leaving (h : Follows len entries n s) (hlen : 0 < len) :
    s.cells s.pos = if len ≤ n then entries (n - len) else 0 := by
  rw [h.pos]
  split
  · rename_i hfull
    rw [Nat.mod_eq_sub_mod hfull]
    exact h.held _ le_rfl (by omega)
  · rename_i hfree
    rw [Nat.mod_eq_of_lt (by omega)]
    exact h.unused n le_rfl

theorem Follows.leaving_le (h : Follows len entries n s) (hlen : 0 < len) :
    s.cells s.pos ≤ s.sum := by
  rw [h.leaving hlen, h.sum]
  split
  · rename_i hfull
    have hmem : n - len ∈ Ico (n - len) n := mem_Ico.mpr ⟨le_rfl, by omega⟩
    exact single_le_sum_of_canonicallyOrdered hmem
  · exact Nat.zero_le _

theorem sum_slide (entries : Nat → Nat) (hlen : 0 < len) (n : Nat) :
    (∑ i ∈ Ico (n - len) n, entries i) + entries n
      = (if len ≤ n then entries (n - len) else 0)
        + ∑ i ∈ Ico (n + 1 - len) (n + 1), entries i := by
  rw [← sum_Ico_succ_top (Nat.sub_le n len)]
  split
  · rename_i hfull
    rw [sum_eq_sum_Ico_succ_bot (by omega), show n - len + 1 = n + 1 - len by omega]
  · rename_i hfree
    rw [show n - len = n + 1 - len by omega, Nat.zero_add]

theorem mod_ne_of_near {i : Nat} (hlt : i < n) (hnear : n < i + len) : i % len ≠ n % len := by
  intro heq
  have hdvd : len ∣ n - i := (Nat.modEq_iff_dvd' hlt.le).mp heq
  have := Nat.le_of_dvd (by omega) hdvd
  omega

theorem Follows.push (h : Follows len entries n s) (hlen : 0 < len) :
    Follows len entries (n + 1) (s.push len (entries n)) where
  pos := by
    have hlt := Nat.mod_lt n hlen
    rw [SlidingSum.push, h.pos, ← Nat.mod_add_mod n len 1]
    dsimp only
    split
    · rw [show n % len + 1 = len by omega, Nat.mod_self]
    · exact (Nat.mod_eq_of_lt (by omega)).symm
  held := fun i hlow hlt => by
    rw [SlidingSum.push, h.pos]
    dsimp only
    rcases Nat.eq_or_lt_of_le (Nat.le_of_lt_succ hlt) with rfl | hold
    · exact Function.update_self _ _ _
    · rw [Function.update_of_ne (mod_ne_of_near hold (by omega))]
      exact h.held i (by omega) hold
  unused := fun cell hcell => by
    have hle := Nat.mod_le n len
    rw [SlidingSum.push, h.pos]
    dsimp only
    rw [Function.update_of_ne (by omega)]
    exact h.unused cell (by omega)
  sum := by
    have hslide := sum_slide entries hlen n
    have hle := h.leaving_le hlen
    rw [h.leaving hlen, h.sum] at hle
    rw [SlidingSum.push]
    dsimp only
    rw [h.leaving hlen, h.sum]
    omega

end SlidingSum
