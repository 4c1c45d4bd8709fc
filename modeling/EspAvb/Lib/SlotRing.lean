import Mathlib.Tactic

/-!
# A ring of slots

A queue held in the cells of an array of fixed depth: the cells from the head on, wrapping around.
Beside it the ring of the last few times something happened, from which the next may be held apart.
-/

namespace SlotRing

variable {α : Type*}

/-- The `count` cells from `head` on, oldest first. -/
def contents (cell : Nat → α) (depth head count : Nat) : List α :=
  (List.range count).map fun k => cell ((head + k) % depth)

/-- Two places less than a round apart are two cells. -/
theorem slot_ne {depth head j k : Nat} (hlt : j < k) (hround : k < j + depth) :
    (head + j) % depth ≠ (head + k) % depth := by
  intro heq
  have hdvd : depth ∣ head + k - (head + j) := (Nat.modEq_iff_dvd' (by omega)).mp heq
  have hle := Nat.le_of_dvd (by omega) hdvd
  omega

theorem contents_congr {cell cell' : Nat → α} {depth head count : Nat}
    (h : ∀ k < count, cell' ((head + k) % depth) = cell ((head + k) % depth)) :
    contents cell' depth head count = contents cell depth head count := by
  apply List.map_congr_left
  intro k hk
  exact h k (List.mem_range.mp hk)

theorem contents_push {depth head count : Nat} (cell : Nat → α) (x : α) (h : count < depth) :
    contents (Function.update cell ((head + count) % depth) x) depth head (count + 1) =
      contents cell depth head count ++ [x] := by
  rw [contents, List.range_succ, List.map_append, List.map_singleton, Function.update_self]
  congr 1
  apply List.map_congr_left
  intro k hk
  have hlt := List.mem_range.mp hk
  have hround : count < k + depth := by omega
  exact Function.update_of_ne (slot_ne hlt hround) x cell

theorem contents_pop (cell : Nat → α) (depth head count : Nat) :
    contents cell depth head (count + 1) =
      cell (head % depth) :: contents cell depth ((head + 1) % depth) count := by
  rw [contents, List.range_succ_eq_map, List.map_cons, List.map_map, Nat.add_zero]
  congr 1
  apply List.map_congr_left
  intro k _
  have hplace : (head + (k + 1)) % depth = ((head + 1) % depth + k) % depth := by
    rw [Nat.mod_add_mod]
    congr 1
    omega
  simp only [Function.comp_apply, hplace]

/-! ### The age of a cell -/

/-- How many writes ago cell `k` was written, when cell `head` is written next. -/
def age (depth head k : Nat) : Nat := (head + depth - 1 - k) % depth

theorem age_lt {depth head k : Nat} (hk : k < depth) : age depth head k < depth :=
  Nat.mod_lt _ (Nat.zero_lt_of_lt hk)

theorem age_written {depth head : Nat} (h : head < depth) :
    age depth ((head + 1) % depth) head = 0 := by
  unfold age
  rcases Nat.lt_or_ge (head + 1) depth with hlt | hge
  · rw [Nat.mod_eq_of_lt hlt, show head + 1 + depth - 1 - head = depth by omega, Nat.mod_self]
  · rw [show head + 1 = depth by omega, Nat.mod_self, show 0 + depth - 1 - head = 0 by omega,
      Nat.zero_mod]

theorem age_other {depth head k : Nat} (hhead : head < depth) (hk : k < depth) (hne : k ≠ head) :
    age depth ((head + 1) % depth) k = age depth head k + 1 := by
  unfold age
  rcases Nat.lt_or_gt_of_ne hne with hlt | hgt
  · have hold : (head + depth - 1 - k) % depth = head - 1 - k := by
      rw [show head + depth - 1 - k = head - 1 - k + depth by omega, Nat.add_mod_right,
        Nat.mod_eq_of_lt (by omega)]
    rw [hold]
    rcases Nat.lt_or_ge (head + 1) depth with hnext | hnext
    · rw [Nat.mod_eq_of_lt hnext, show head + 1 + depth - 1 - k = head - k + depth by omega,
        Nat.add_mod_right, Nat.mod_eq_of_lt (by omega)]
      omega
    · rw [show head + 1 = depth by omega, Nat.mod_self, Nat.mod_eq_of_lt (by omega)]
      omega
  · rw [Nat.mod_eq_of_lt (a := head + 1) (by omega),
      Nat.mod_eq_of_lt (a := head + depth - 1 - k) (by omega),
      Nat.mod_eq_of_lt (a := head + 1 + depth - 1 - k) (by omega)]
    omega

/-! ### The last times -/

/-- Any two of the times `window` places apart are `interval` apart. -/
def Spaced (window interval : Nat) (times : List Nat) : Prop :=
  ∀ k t t', times[k]? = some t → times[k + window]? = some t' → t + interval ≤ t'

/-- The ring holds the last `window` of the times, as far as they still matter at `clock`. -/
def Recorded (window interval clock : Nat) (last : Nat → Nat) (idx : Nat) (times : List Nat) : Prop :=
  ∀ j < window, ∀ k t, k + window = times.length + j → times[k]? = some t →
    t ≤ last ((idx + j) % window) ∨ t + interval ≤ clock

variable {window interval clock : Nat} {last : Nat → Nat} {idx : Nat} {times : List Nat}

theorem Recorded.mono (h : Recorded window interval clock last idx times) {clock' : Nat}
    (hle : clock ≤ clock') : Recorded window interval clock' last idx times := by
  intro j hj k t hk ht
  obtain hring | hold := h j hj k t hk ht
  · exact Or.inl hring
  · exact Or.inr (hold.trans hle)

theorem Recorded.of_old (h : ∀ t ∈ times, t + interval ≤ clock) (window : Nat) (last : Nat → Nat)
    (idx : Nat) : Recorded window interval clock last idx times :=
  fun _ _ _ t _ ht => Or.inr (h t (List.mem_of_getElem? ht))

theorem Spaced.of_append {rest : List Nat} (h : Spaced window interval (times ++ rest)) :
    Spaced window interval times := by
  intro k t t' ht ht'
  have hk := (List.getElem?_eq_some_iff.mp ht).1
  have hk' := (List.getElem?_eq_some_iff.mp ht').1
  apply h k t t'
  · rw [List.getElem?_append_left hk]
    exact ht
  · rw [List.getElem?_append_left hk']
    exact ht'

/-- A time one interval after the oldest of the ring keeps the times apart. -/
theorem Spaced.push (hspaced : Spaced window interval times)
    (hrecorded : Recorded window interval clock last idx times) (hidx : idx < window)
    (hturn : last idx + interval ≤ clock) : Spaced window interval (times ++ [clock]) := by
  intro k t t' ht ht'
  have hbound := (List.getElem?_eq_some_iff.mp ht').1
  rw [List.length_append, List.length_singleton] at hbound
  rw [List.getElem?_append_left (by omega)] at ht
  by_cases hnew : k + window < times.length
  · rw [List.getElem?_append_left hnew] at ht'
    exact hspaced k t t' ht ht'
  · have hlast : k + window = times.length := by omega
    rw [hlast, List.getElem?_concat_length] at ht'
    cases ht'
    obtain hring | hold := hrecorded 0 (by omega) k t hlast ht
    · rw [Nat.add_zero, Nat.mod_eq_of_lt hidx] at hring
      omega
    · exact hold

theorem Recorded.push (hrecorded : Recorded window interval clock last idx times)
    (hidx : idx < window) :
    Recorded window interval clock (Function.update last idx clock) ((idx + 1) % window)
      (times ++ [clock]) := by
  intro j hj k t hk ht
  rw [List.length_append, List.length_singleton] at hk
  rw [Nat.mod_add_mod]
  by_cases hnew : j + 1 < window
  · have hplace : (idx + 1 + j) % window ≠ idx := by
      have hne := @slot_ne window idx 0 (j + 1) (by omega) (by omega)
      rw [Nat.add_zero, Nat.mod_eq_of_lt hidx] at hne
      rw [show idx + 1 + j = idx + (j + 1) by omega]
      exact hne.symm
    rw [List.getElem?_append_left (by omega)] at ht
    rw [Function.update_of_ne hplace, show idx + 1 + j = idx + (j + 1) by omega]
    exact hrecorded (j + 1) hnew k t (by omega) ht
  · have hround : (idx + 1 + j) % window = idx := by
      rw [show idx + 1 + j = idx + window by omega, Nat.add_mod_right, Nat.mod_eq_of_lt hidx]
    have hlast : k = times.length := by omega
    rw [hlast, List.getElem?_concat_length] at ht
    cases ht
    rw [hround, Function.update_self]
    exact Or.inl le_rfl

/-- Once every entry of the ring is an interval old, so is every time. -/
theorem Recorded.old (hrecorded : Recorded window interval clock last idx times)
    (hsorted : times.Pairwise (· ≤ ·)) (hpos : 0 < window)
    (hring : ∀ j < window, last j + interval ≤ clock) : ∀ t ∈ times, t + interval ≤ clock := by
  induction times using List.reverseRecOn with
  | nil => simp
  | append_singleton rest newest _ =>
      have hnewest : newest + interval ≤ clock := by
        have hplace : (idx + (window - 1)) % window < window := Nat.mod_lt _ hpos
        obtain hle | hold := hrecorded (window - 1) (by omega) rest.length newest
          (by rw [List.length_append, List.length_singleton]; omega) List.getElem?_concat_length
        · have := hring _ hplace
          omega
        · exact hold
      intro t ht
      obtain hmem | hmem := List.mem_append.mp ht
      · have hle := (List.pairwise_append.mp hsorted).2.2 t hmem newest (List.mem_singleton.mpr rfl)
        omega
      · rw [List.mem_singleton.mp hmem]
        exact hnewest

end SlotRing
