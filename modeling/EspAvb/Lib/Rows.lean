import EspAvb.Lib.RingCells

/-!
# Rows of one length

A list of rows of one length laid end to end: where an item of a row lies, and when a ring holds them.
-/

namespace Rows

open RingCells

variable {β : Type*} {rows : List (List β)} {n : Nat}

theorem length_flatten (h : ∀ row ∈ rows, row.length = n) : rows.flatten.length = rows.length * n := by
  induction rows with
  | nil => exact (Nat.zero_mul n).symm
  | cons row rest ih =>
      rw [List.flatten_cons, List.length_append, h row List.mem_cons_self,
        ih fun row' hrow => h row' (List.mem_cons_of_mem _ hrow), List.length_cons]
      ring

theorem getElem?_flatten (h : ∀ row ∈ rows, row.length = n) (s : Nat) {i : Nat} (hi : i < n) :
    rows.flatten[s * n + i]? = rows[s]?.bind fun row => row[i]? := by
  induction rows generalizing s with
  | nil => rfl
  | cons row rest ih =>
      have hlen := h row List.mem_cons_self
      rw [List.flatten_cons]
      cases s with
      | zero =>
          rw [Nat.zero_mul, Nat.zero_add, List.getElem?_append_left (by omega)]
          rfl
      | succ s =>
          have hindex : (s + 1) * n + i = row.length + (s * n + i) := by
            rw [hlen]
            ring
          rw [hindex, List.getElem?_append_right (Nat.le_add_right _ _), Nat.add_sub_cancel_left,
            ih (fun row' hrow => h row' (List.mem_cons_of_mem _ hrow)) s]
          rfl

theorem holdsAt_append {cap : Nat} {cells : Nat → β} {pos : Nat} {front back : List β}
    (hfront : HoldsAt cap cells pos front) (hback : HoldsAt cap cells (pos + front.length) back) :
    HoldsAt cap cells pos (front ++ back) := by
  intro i hi
  rcases Nat.lt_or_ge i front.length with hin | hout
  · rw [List.getElem_append_left hin]
    exact hfront i hin
  · rw [List.length_append] at hi
    have hcell := hback (i - front.length) (by omega)
    rw [Nat.add_assoc, Nat.add_sub_cancel' hout] at hcell
    rw [List.getElem_append_right hout]
    exact hcell

theorem holdsAt_flatten {cap : Nat} {cells : Nat → β} {pos : Nat}
    (h : ∀ row ∈ rows, row.length = n)
    (hrows : ∀ s (hs : s < rows.length), HoldsAt cap cells (pos + s * n) rows[s]) :
    HoldsAt cap cells pos rows.flatten := by
  induction rows generalizing pos with
  | nil => exact fun i hi => absurd hi (Nat.not_lt_zero i)
  | cons row rest ih =>
      rw [List.flatten_cons]
      apply holdsAt_append
      · have hfirst := hrows 0 (Nat.zero_lt_succ _)
        rwa [Nat.zero_mul, Nat.add_zero] at hfirst
      · rw [h row List.mem_cons_self]
        apply ih fun row' hrow => h row' (List.mem_cons_of_mem _ hrow)
        intro s hs
        have hnext := hrows (s + 1) (Nat.succ_lt_succ hs)
        rwa [show pos + (s + 1) * n = pos + n + s * n by ring] at hnext

end Rows
