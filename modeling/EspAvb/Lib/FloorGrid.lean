import Mathlib.Tactic

/-!
# The floor grid

The points `⌊n · a / b⌋` of a clock that ticks `b` times in `a` units. Going on by a fixed number of
ticks takes a whole step and a remainder that is carried over; the grid is entered at the first tick
that is not before a given time. Both stay on it whatever `a` and `b` are.
-/

namespace FloorGrid

variable (a b : Nat)

/-- Tick `n` in whole units. -/
def time (n : Nat) : Nat := n * a / b

/-- What tick `n` is past its whole units, in `b`-ths. -/
def rest (n : Nat) : Nat := n * a % b

theorem time_mul_add_rest (n : Nat) : b * time a b n + rest a b n = n * a := Nat.div_add_mod _ _

theorem rest_lt (hb : 0 < b) (n : Nat) : rest a b n < b := Nat.mod_lt _ hb

/-- A whole part and a rest below `b` are those of a tick if they add up to it. -/
theorem eq_of_mul_add (hb : 0 < b) {n whole part : Nat} (hpart : part < b)
    (h : b * whole + part = n * a) : whole = time a b n ∧ part = rest a b n := by
  obtain ⟨htime, hrest⟩ := (Nat.div_mod_unique hb).mpr ⟨(Nat.add_comm _ _).trans h, hpart⟩
  exact ⟨htime.symm, hrest.symm⟩

/-! ### Going on -/

/-- The rests of two ticks do not fill a unit: whole parts and rests add up. -/
theorem advance_of_lt {n k : Nat} (h : rest a b n + rest a b k < b) :
    time a b (n + k) = time a b n + time a b k ∧
      rest a b (n + k) = rest a b n + rest a b k := by
  have hb : 0 < b := by omega
  have hsum : b * (time a b n + time a b k) + (rest a b n + rest a b k) = (n + k) * a := by
    calc b * (time a b n + time a b k) + (rest a b n + rest a b k)
        = (b * time a b n + rest a b n) + (b * time a b k + rest a b k) := by ring
      _ = n * a + k * a := by rw [time_mul_add_rest, time_mul_add_rest]
      _ = (n + k) * a := by ring
  obtain ⟨htime, hrest⟩ := eq_of_mul_add a b hb h hsum
  exact ⟨htime.symm, hrest.symm⟩

/-- They do fill one: it is carried into the whole part. -/
theorem advance_of_le (hb : 0 < b) {n k : Nat} (h : b ≤ rest a b n + rest a b k) :
    time a b (n + k) = time a b n + time a b k + 1 ∧
      rest a b (n + k) = rest a b n + rest a b k - b := by
  have hn := rest_lt a b hb n
  have hk := rest_lt a b hb k
  have hsum : b * (time a b n + time a b k + 1) + (rest a b n + rest a b k - b) = (n + k) * a := by
    calc b * (time a b n + time a b k + 1) + (rest a b n + rest a b k - b)
        = b * (time a b n + time a b k) + (b + (rest a b n + rest a b k - b)) := by ring
      _ = b * (time a b n + time a b k) + (rest a b n + rest a b k) := by
          rw [Nat.add_sub_cancel' h]
      _ = (b * time a b n + rest a b n) + (b * time a b k + rest a b k) := by ring
      _ = n * a + k * a := by rw [time_mul_add_rest, time_mul_add_rest]
      _ = (n + k) * a := by ring
  obtain ⟨htime, hrest⟩ := eq_of_mul_add a b hb (by omega) hsum
  exact ⟨htime.symm, hrest.symm⟩

/-! ### Entering the grid -/

/-- Whole turns of `b` ticks are whole units: only the ticks of the last turn are divided. -/
theorem time_eq_turns (hb : 0 < b) (n : Nat) :
    time a b n = n / b * a + n % b * a / b ∧ rest a b n = n % b * a % b := by
  have hsum : b * (n / b * a + n % b * a / b) + n % b * a % b = n * a := by
    calc b * (n / b * a + n % b * a / b) + n % b * a % b
        = b * (n / b) * a + (b * (n % b * a / b) + n % b * a % b) := by ring
      _ = b * (n / b) * a + n % b * a := by rw [Nat.div_add_mod]
      _ = (b * (n / b) + n % b) * a := by ring
      _ = n * a := by rw [Nat.div_add_mod]
  obtain ⟨htime, hrest⟩ := eq_of_mul_add a b hb (Nat.mod_lt _ hb) hsum
  exact ⟨htime.symm, hrest.symm⟩

/-- The first tick at or after `t`, with the units of `t` taken apart from its turns. -/
def firstTick (t : Nat) : Nat := t / a * b + (t % a * b + (a - 1)) / a

theorem firstTick_range (ha : 0 < a) (t : Nat) :
    t * b ≤ firstTick a b t * a ∧ firstTick a b t * a < t * b + a := by
  have hceil := Nat.div_add_mod (t % a * b + (a - 1)) a
  have hlt := Nat.mod_lt (t % a * b + (a - 1)) ha
  have ht : t * b = t / a * b * a + t % a * b := by
    calc t * b = (a * (t / a) + t % a) * b := by rw [Nat.div_add_mod]
      _ = t / a * b * a + t % a * b := by ring
  have htick : firstTick a b t * a
      = t / a * b * a + a * ((t % a * b + (a - 1)) / a) := by
    unfold firstTick
    ring
  omega

theorem le_time_firstTick (ha : 0 < a) (hb : 0 < b) (t : Nat) :
    t ≤ time a b (firstTick a b t) := by
  rw [time, Nat.le_div_iff_mul_le hb]
  exact (firstTick_range a b ha t).1

/-- It is less than one period after `t`. -/
theorem time_firstTick_lt (ha : 0 < a) (hb : 0 < b) (t : Nat) :
    (time a b (firstTick a b t) - t) * b < a := by
  have hfloor := time_mul_add_rest a b (firstTick a b t)
  have hrange := firstTick_range a b ha t
  have hle := le_time_firstTick a b ha hb t
  have hmul : (time a b (firstTick a b t) - t) * b
      = b * time a b (firstTick a b t) - t * b := by
    rw [Nat.sub_mul, Nat.mul_comm b]
  omega

end FloorGrid
