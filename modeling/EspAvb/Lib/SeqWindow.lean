import Mathlib.Data.BitVec
import Mathlib.Tactic

/-!
# Wrapping sequence numbers in a window

Sequence numbers of `w` bits are compared by the signed value of their difference. Near one another
they behave like integers; `unwrap` gives every number of a list its place on the integer line,
each taken nearest to the one before it.
-/

namespace SeqWindow

variable {w : Nat}

/-- How far `s` is ahead of `e`, negative when it is behind. -/
def ahead (s e : BitVec w) : Int := (s - e).toInt

@[simp]
theorem ahead_self (s : BitVec w) : ahead s s = 0 := by
  simp [ahead]

theorem ahead_eq_zero {s e : BitVec w} : ahead s e = 0 ↔ s = e := by
  constructor
  · intro h
    have hzero : s - e = 0#w := BitVec.toInt_inj.mp (by rw [← ahead, h, BitVec.toInt_zero])
    exact BitVec.sub_eq_iff_eq_add.mp hzero |>.trans (BitVec.zero_add e)
  · rintro rfl
    exact ahead_self s

/-- Seen from another number of the window, distances subtract. -/
theorem ahead_sub {s e l : BitVec w} (hlo : -2 ^ w ≤ 2 * (ahead s e - ahead l e))
    (hhi : 2 * (ahead s e - ahead l e) < 2 ^ w) : ahead s l = ahead s e - ahead l e := by
  have hsplit : s - l = (s - e) - (l - e) := (sub_sub_sub_cancel_right s l e).symm
  rw [ahead, hsplit, BitVec.toInt_sub]
  simp only [ahead] at hlo hhi ⊢
  apply Int.bmod_eq_of_le_mul_two
  · push_cast
    omega
  · push_cast
    omega

theorem ahead_succ_self (hw : 1 < w) (e : BitVec w) : ahead (e + 1) e = 1 := by
  rw [ahead, BitVec.add_comm, BitVec.add_sub_cancel]
  exact BitVec.toInt_one hw

theorem ahead_lt (s e : BitVec w) : 2 * ahead s e < 2 ^ w := BitVec.two_mul_toInt_lt

theorem le_ahead (s e : BitVec w) : -2 ^ w ≤ 2 * ahead s e := BitVec.le_two_mul_toInt

/-- A number past `e` is one less past the successor of `e`. -/
theorem ahead_succ (hw : 1 < w) {s e : BitVec w} (h : 0 < ahead s e) :
    ahead s (e + 1) = ahead s e - 1 := by
  have hone := ahead_succ_self hw e
  have hlt := ahead_lt s e
  have hpos : (0 : Int) < 2 ^ w := by positivity
  rw [ahead_sub, hone]
  · omega
  · omega

theorem ahead_self_succ (hw : 1 < w) (e : BitVec w) : ahead e (e + 1) = -1 := by
  have hneg : e - (e + 1) = -1#w := by
    ring_nf
    rfl
  have hone : (1#w).toInt = 1 := BitVec.toInt_one hw
  rw [ahead, hneg, BitVec.toInt_neg, hone]
  apply Int.bmod_eq_of_le_mul_two
  · have : (2 : Int) ≤ 2 ^ w := by
      calc
        (2 : Int) = 2 ^ 1 := by norm_num
        _ ≤ 2 ^ w := pow_le_pow_right₀ (by norm_num) hw.le
    push_cast
    omega
  · have : (0 : Int) < 2 ^ w := by positivity
    push_cast
    omega

theorem ahead_add_one (hw : 1 < w) {s e : BitVec w} (h : 2 * (ahead s e + 1) < 2 ^ w) :
    ahead (s + 1) e = ahead s e + 1 := by
  have hsplit : s + 1 - e = (s - e) + 1 := by
    ring
  have hone : (1 : BitVec w).toInt = 1 := BitVec.toInt_one hw
  have hlo := le_ahead s e
  rw [ahead, hsplit, BitVec.toInt_add, hone, ← ahead]
  apply Int.bmod_eq_of_le_mul_two
  · push_cast
    omega
  · push_cast
    omega

/-- Seen from the number before, everything is one further ahead. -/
theorem ahead_of_succ (hw : 1 < w) {s e : BitVec w} (h : 2 * (ahead s (e + 1) + 1) < 2 ^ w) :
    ahead s e = ahead s (e + 1) + 1 := by
  have hself := ahead_self_succ hw e
  have hlo := le_ahead s (e + 1)
  rw [ahead_sub (e := e + 1), hself]
  · ring
  · omega
  · omega

/-- The numbers from `e` on, in sequence. -/
def consecutive (e : BitVec w) : Nat → List (BitVec w)
  | 0 => []
  | n + 1 => e :: consecutive (e + 1) n

theorem mem_consecutive {s e : BitVec w} {n : Nat} :
    s ∈ consecutive e n ↔ ∃ k < n, s = e + (k : BitVec w) := by
  induction n generalizing e with
  | zero => simp [consecutive]
  | succ n ih =>
      rw [consecutive, List.mem_cons, ih]
      constructor
      · rintro (rfl | ⟨k, hk, rfl⟩)
        · exact ⟨0, by omega, by simp⟩
        · refine ⟨k + 1, by omega, ?_⟩
          push_cast
          ring
      · rintro ⟨k, hk, rfl⟩
        cases k with
        | zero => simp
        | succ k =>
            refine Or.inr ⟨k, by omega, ?_⟩
            push_cast
            ring

/-- A number at or past `e` and outside a run from `e` on is at or past the end of that run. -/
theorem ahead_of_notMem_consecutive (hw : 1 < w) {s e : BitVec w} {n : Nat}
    (hmem : s ∉ consecutive e n) (h : 0 ≤ ahead s e) :
    0 ≤ ahead s (e + (n : BitVec w)) ∧ ahead s (e + (n : BitVec w)) = ahead s e - n := by
  induction n generalizing e with
  | zero => simpa using h
  | succ n ih =>
      rw [consecutive, List.mem_cons, not_or] at hmem
      have hne := mt ahead_eq_zero.mp hmem.1
      have hsucc : ahead s (e + 1) = ahead s e - 1 := ahead_succ hw (by omega)
      have hsum : e + ((n + 1 : ℕ) : BitVec w) = e + 1 + (n : BitVec w) := by
        push_cast
        ring
      obtain ⟨hnonneg, heq⟩ := ih hmem.2 (by omega)
      rw [hsum]
      push_cast
      exact ⟨hnonneg, by omega⟩

/-- The place of every number on the integer line, each taken nearest to the one before. -/
def unwrapFrom (place : Int) (last : BitVec w) : List (BitVec w) → List Int
  | [] => []
  | s :: rest => (place + ahead s last) :: unwrapFrom (place + ahead s last) s rest

def unwrap : List (BitVec w) → List Int
  | [] => []
  | s :: rest => s.toInt :: unwrapFrom s.toInt s rest

theorem ofInt_unwrapFrom {place : Int} {last : BitVec w} (h : BitVec.ofInt w place = last)
    (l : List (BitVec w)) : (unwrapFrom place last l).map (BitVec.ofInt w) = l := by
  induction l generalizing place last with
  | nil => rfl
  | cons s rest ih =>
      have hplace : BitVec.ofInt w (place + ahead s last) = s := by
        rw [BitVec.ofInt_add, h, ahead, BitVec.ofInt_toInt, BitVec.add_comm, BitVec.sub_add_cancel]
      rw [unwrapFrom, List.map_cons, hplace, ih hplace]

/-- A place has the number it was given to. -/
theorem ofInt_unwrap (l : List (BitVec w)) : (unwrap l).map (BitVec.ofInt w) = l := by
  cases l with
  | nil => rfl
  | cons s rest =>
      rw [unwrap, List.map_cons, BitVec.ofInt_toInt, ofInt_unwrapFrom (BitVec.ofInt_toInt)]

/-- The second number is past the first. -/
def Before (a b : BitVec w) : Prop := 0 < ahead b a

instance (a b : BitVec w) : Decidable (Before a b) := inferInstanceAs (Decidable (0 < ahead b a))

theorem before_succ (hw : 1 < w) (e : BitVec w) : Before e (e + 1) := by
  rw [Before, ahead_succ_self hw]
  exact Int.one_pos

/-- A run that starts past the end of a list continues it. -/
theorem isChain_append_consecutive (hw : 1 < w) {l : List (BitVec w)} (hl : l.IsChain Before)
    {e : BitVec w} (h : ∀ s ∈ l.getLast?, Before s e) (n : Nat) :
    (l ++ consecutive e n).IsChain Before := by
  induction n generalizing l e with
  | zero => simpa [consecutive] using hl
  | succ n ih =>
      rw [consecutive, List.append_cons]
      apply ih
      · refine List.isChain_append.mpr ⟨hl, List.isChain_singleton e, ?_⟩
        rintro s hs y hy
        obtain rfl : e = y := by simpa using hy
        exact h s hs
      · rintro s hs
        obtain rfl : e = s := by simpa using hs
        exact before_succ hw e

theorem getLast_consecutive {e s : BitVec w} {n : Nat} (h : s ∈ (consecutive e n).getLast?) :
    s + 1 = e + (n : BitVec w) := by
  induction n generalizing e with
  | zero => simp [consecutive] at h
  | succ n ih =>
      cases n with
      | zero =>
          obtain rfl : e = s := by simpa [consecutive] using h
          simp
      | succ n =>
          rw [ih (e := e + 1) (by simpa [consecutive] using h)]
          push_cast
          ring

theorem unwrapFrom_pairwise_iff (place : Int) (last : BitVec w) (l : List (BitVec w)) :
    (place :: unwrapFrom place last l).Pairwise (· < ·) ↔ (last :: l).IsChain Before := by
  rw [← List.isChain_iff_pairwise]
  induction l generalizing place last with
  | nil => simp [unwrapFrom]
  | cons s rest ih =>
      rw [unwrapFrom, List.isChain_cons_cons, List.isChain_cons_cons, ih]
      apply and_congr_left'
      rw [Before]
      omega

/-- The places increase when every number is past the one before it. -/
theorem unwrap_pairwise_iff (l : List (BitVec w)) :
    (unwrap l).Pairwise (· < ·) ↔ l.IsChain Before := by
  cases l with
  | nil => simp [unwrap]
  | cons s rest => exact unwrapFrom_pairwise_iff s.toInt s rest

end SeqWindow
