import EspAvb.Lib.RingCells

/-!
# A ring that a tape is written round

A writer puts a tape of items into a ring, a reader follows it. Positions count along the tape; the
item at position `pos` lies in cell `pos % cap` until the tape has come round to that cell again.
-/

namespace RingTape

open RingCells

variable {β : Type*} {cap : Nat}

/-! ### Slices of the tape -/

/-- The `count` items of the tape from position `pos` on. -/
def slice (tape : List β) (pos count : Nat) : List β := (tape.drop pos).take count

@[simp]
theorem slice_zero (tape : List β) (pos : Nat) : slice tape pos 0 = [] := rfl

theorem length_slice {tape : List β} {pos count : Nat} (h : pos + count ≤ tape.length) :
    (slice tape pos count).length = count := by
  rw [slice, List.length_take, List.length_drop]
  omega

/-- What is written later does not change a slice. -/
theorem slice_append {tape : List β} {pos count : Nat} (h : pos + count ≤ tape.length)
    (later : List β) : slice (tape ++ later) pos count = slice tape pos count := by
  have hdrop : count ≤ (tape.drop pos).length := by
    rw [List.length_drop]
    omega
  rw [slice, slice, List.drop_append_of_le_length (by omega), List.take_append_of_le_length hdrop]

theorem slice_add (tape : List β) (pos m n : Nat) :
    slice tape pos (m + n) = slice tape pos m ++ slice tape (pos + m) n := by
  rw [slice, slice, slice, List.take_add, List.drop_drop]

theorem slice_succ {tape : List β} {pos count : Nat} (h : pos + count < tape.length) :
    slice tape pos (count + 1) = slice tape pos count ++ [tape[pos + count]] := by
  have hone : slice tape (pos + count) 1 = [tape[pos + count]] := by
    rw [slice, List.drop_eq_getElem_cons h]
    rfl
  rw [slice_add, hone]

/-! ### The writer -/

/-- The cells hold the tape from position `low` on. -/
def Holds (cap : Nat) (cells : Nat → β) (tape : List β) (low : Nat) : Prop :=
  ∀ pos (h : pos < tape.length), low ≤ pos → cells (pos % cap) = tape[pos]

theorem Holds.mono {cells : Nat → β} {tape : List β} {low low' : Nat} (h : Holds cap cells tape low)
    (hle : low ≤ low') : Holds cap cells tape low' :=
  fun pos hpos hlow => h pos hpos (hle.trans hlow)

/-- Items are written behind the tape, of which the first `taken` come to belong to it. -/
theorem Holds.store {cells : Nat → β} {tape : List β} {low : Nat} (h : Holds cap cells tape low)
    {items : List β} (hfit : items.length ≤ cap) (hlow : tape.length + items.length ≤ low + cap)
    (taken : Nat) :
    Holds cap (store cap cells tape.length items) (tape ++ items.take taken) low := by
  intro pos hpos hlowpos
  rcases Nat.lt_or_ge pos tape.length with hold | hnew
  · have hkept : Outside cap tape.length items.length (pos % cap) :=
      outside_of_lt hold (by omega)
    rw [store_of_outside _ hkept, List.getElem_append_left hold]
    exact h pos hold hlowpos
  · obtain ⟨i, rfl⟩ := Nat.exists_eq_add_of_le hnew
    rw [List.length_append, List.length_take] at hpos
    rw [store_at _ hfit (by omega), List.getElem_append_right hnew, List.getElem_take]
    simp only [Nat.add_sub_cancel_left]

/-! ### Copies of memory -/

/-- The items copied over the cells from `pos` on. -/
def blit (cells : Nat → β) (pos : Nat) (items : List β) : Nat → β := fun cell =>
  if h : pos ≤ cell ∧ cell - pos < items.length then items.get ⟨cell - pos, h.2⟩ else cells cell

theorem blit_inside (cells : Nat → β) {pos cell : Nat} {items : List β} (hle : pos ≤ cell)
    (hlt : cell - pos < items.length) : blit cells pos items cell = items[cell - pos] :=
  dif_pos ⟨hle, hlt⟩

theorem blit_outside (cells : Nat → β) {pos cell : Nat} {items : List β}
    (h : cell < pos ∨ pos + items.length ≤ cell) : blit cells pos items cell = cells cell :=
  dif_neg (by omega)

theorem store_beyond (cells : Nat → β) (pos : Nat) {items : List β} {cell : Nat} (hcap : 0 < cap)
    (h : cap ≤ cell) : store cap cells pos items cell = cells cell :=
  store_of_outside _ fun i _ heq => by
    have := Nat.mod_lt (pos + i) hcap
    omega

/-- Positions of one cell are interchangeable. -/
theorem store_congr (cells : Nat → β) {pos pos' : Nat} (items : List β) (h : pos % cap = pos' % cap) :
    store cap cells pos items = store cap cells pos' items := by
  induction items generalizing cells pos pos' with
  | nil => rfl
  | cons item items ih =>
      have hnext : (pos + 1) % cap = (pos' + 1) % cap := by
        rw [Nat.add_mod, h, ← Nat.add_mod]
      rw [store, store, h, ih _ hnext]

/-- A copy into a ring in two parts, up to its end and on from its front. -/
theorem blit_wrap (cells : Nat → β) {pos : Nat} {items : List β} (hpos : pos < cap)
    (hfit : items.length ≤ cap) :
    blit (blit cells pos (items.take (cap - pos))) 0 (items.drop (cap - pos))
      = store cap cells pos items := by
  funext cell
  have hmod : pos % cap = pos := Nat.mod_eq_of_lt hpos
  rcases Nat.lt_or_ge cell cap with hin | hout
  · rcases Nat.lt_or_ge cell pos with hfront | hback
    · have hcell : (pos + (cell + (cap - pos))) % cap = cell := by
        rw [show pos + (cell + (cap - pos)) = cell + cap by omega, Nat.add_mod_right,
          Nat.mod_eq_of_lt hin]
      rcases Nat.lt_or_ge (cell + (cap - pos)) items.length with hwritten | hkept
      · have hat : store cap cells pos items cell = items[cell + (cap - pos)] := by
          rw [← store_at cells hfit hwritten, hcell]
        rw [hat, blit_inside _ (Nat.zero_le cell) (by rw [List.length_drop]; omega),
          List.getElem_drop]
        simp only [Nat.sub_zero, Nat.add_comm]
      · have houtside : Outside cap pos items.length cell := by
          rw [← hcell]
          exact outside_of_le (by omega) (by omega)
        rw [store_of_outside _ houtside,
          blit_outside _ (by rw [List.length_drop]; omega), blit_outside _ (Or.inl hfront)]
    · have hcell : (pos + (cell - pos)) % cap = cell := by
        rw [Nat.add_sub_cancel' hback, Nat.mod_eq_of_lt hin]
      have hsecond : 0 + (items.drop (cap - pos)).length ≤ cell := by
        rw [List.length_drop]
        omega
      rw [blit_outside _ (Or.inr hsecond)]
      rcases Nat.lt_or_ge (cell - pos) items.length with hwritten | hkept
      · have hat : store cap cells pos items cell = items[cell - pos] := by
          rw [← store_at cells hfit hwritten, hcell]
        rw [hat, blit_inside _ hback (by rw [List.length_take]; omega), List.getElem_take]
      · have houtside : Outside cap pos items.length cell := by
          rw [← hcell]
          exact outside_of_le (by omega) (by omega)
        rw [store_of_outside _ houtside,
          blit_outside _ (by rw [List.length_take]; omega)]
  · rw [store_beyond _ _ (by omega) hout, blit_outside _ (by rw [List.length_drop]; omega),
      blit_outside _ (by rw [List.length_take]; omega)]

/-- A copy that does not reach the end of the ring. -/
theorem blit_eq_store (cells : Nat → β) {pos : Nat} {items : List β} (hpos : pos < cap)
    (hfit : pos + items.length ≤ cap) : blit cells pos items = store cap cells pos items := by
  have hdrop : items.drop (cap - pos) = [] := List.drop_eq_nil_of_le (by omega)
  have htake : items.take (cap - pos) = items := List.take_of_length_le (by omega)
  have hwrap := blit_wrap cells hpos (by omega : items.length ≤ cap)
  rw [hdrop, htake] at hwrap
  rw [← hwrap]
  funext cell
  exact (blit_outside _ (Or.inr (Nat.zero_le cell))).symm

/-- A write position that is taken back by a turn when it reaches the end. -/
theorem wrap_mod {pos count : Nat} (hpos : pos < cap) (hcount : count ≤ cap) :
    (if cap ≤ pos + count then pos + count - cap else pos + count) = (pos + count) % cap := by
  split
  · rw [Nat.mod_eq_sub_mod (by omega), Nat.mod_eq_of_lt (by omega)]
  · rw [Nat.mod_eq_of_lt (by omega)]

/-- The cell of item `i` of a copy in two parts out of a ring. -/
def wrapAt (cap pos i : Nat) : Nat := if i < cap - pos then pos + i else i - (cap - pos)

theorem wrapAt_mod {pos i : Nat} (hpos : pos < cap) (hi : i < cap) :
    wrapAt cap pos i = (pos + i) % cap := by
  unfold wrapAt
  split
  · rw [Nat.mod_eq_of_lt (by omega)]
  · rw [show pos + i = i - (cap - pos) + cap by omega, Nat.add_mod_right,
      Nat.mod_eq_of_lt (by omega)]

end RingTape
