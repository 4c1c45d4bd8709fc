import Mathlib.Tactic

/-!
# Cells of a ring

Positions of a ring count up without end; position `pos` is kept in cell `pos % cap`. A list stored
from a position on is found again there, and the cells of positions up to one turn behind it stay.
-/

namespace RingCells

variable {β : Type*} {cap : Nat}

/-- `items` in the cells from position `pos` on. -/
def store (cap : Nat) (cells : Nat → β) (pos : Nat) : List β → (Nat → β)
  | [] => cells
  | b :: rest => store cap (Function.update cells (pos % cap) b) (pos + 1) rest

/-- The cell is none of the `count` that follow `pos`. -/
def Outside (cap pos count cell : Nat) : Prop := ∀ i < count, cell ≠ (pos + i) % cap

theorem Outside.mono {pos count cell pos' count' : Nat} (h : Outside cap pos count cell)
    (hlow : pos ≤ pos') (hhigh : pos' + count' ≤ pos + count) : Outside cap pos' count' cell := by
  intro i hi
  have := h (pos' - pos + i) (by omega)
  rwa [show pos + (pos' - pos + i) = pos' + i by omega] at this

/-- Two positions less than a turn apart have different cells. -/
theorem cell_ne {i j : Nat} (hlt : i < j) (hnear : j < i + cap) : i % cap ≠ j % cap := by
  intro heq
  have hdvd : cap ∣ j - i := (Nat.modEq_iff_dvd' hlt.le).1 heq
  have := Nat.le_of_dvd (by omega) hdvd
  omega

theorem outside_of_lt {pos count p : Nat} (hlow : p < pos) (hnear : pos + count ≤ p + cap) :
    Outside cap pos count (p % cap) := by
  intro i hi
  exact cell_ne (by omega) (by omega)

theorem outside_of_le {pos count p : Nat} (hlow : pos + count ≤ p) (hnear : p < pos + cap) :
    Outside cap pos count (p % cap) := by
  intro i hi heq
  exact cell_ne (show pos + i < p by omega) (by omega) heq.symm

theorem store_of_outside (cells : Nat → β) {pos : Nat} {items : List β} {cell : Nat}
    (h : Outside cap pos items.length cell) : store cap cells pos items cell = cells cell := by
  induction items generalizing cells pos with
  | nil => rfl
  | cons b rest ih =>
      have hrest : Outside cap (pos + 1) rest.length cell := by
        refine h.mono (by omega) ?_
        simp only [List.length_cons]
        omega
      have hne : cell ≠ pos % cap := h 0 (by simp)
      rw [store, ih _ hrest, Function.update_of_ne hne]

theorem store_at (cells : Nat → β) {pos : Nat} {items : List β} (hfit : items.length ≤ cap) {i : Nat}
    (hi : i < items.length) : store cap cells pos items ((pos + i) % cap) = items[i] := by
  induction items generalizing cells pos i with
  | nil => exact absurd hi (Nat.not_lt_zero i)
  | cons b rest ih =>
      simp only [List.length_cons] at hfit hi
      cases i with
      | zero =>
          have hout : Outside cap (pos + 1) rest.length (pos % cap) :=
            outside_of_lt (Nat.lt_succ_self pos) (by omega)
          change store cap (Function.update cells (pos % cap) b) (pos + 1) rest (pos % cap) = b
          rw [store_of_outside _ hout, Function.update_self]
      | succ i =>
          rw [store, show pos + (i + 1) = pos + 1 + i by omega, ih _ (by omega) (by omega),
            List.getElem_cons_succ]

/-- Two fillings agree but for the `count` cells that follow `pos`. -/
def AgreeOutside (cap pos count : Nat) (cells cells' : Nat → β) : Prop :=
  ∀ cell, Outside cap pos count cell → cells' cell = cells cell

theorem AgreeOutside.refl (pos count : Nat) (cells : Nat → β) :
    AgreeOutside cap pos count cells cells := fun _ _ => rfl

theorem AgreeOutside.trans {pos count : Nat} {a b c : Nat → β} (h : AgreeOutside cap pos count a b)
    (h' : AgreeOutside cap pos count b c) : AgreeOutside cap pos count a c :=
  fun cell hout => (h' cell hout).trans (h cell hout)

theorem AgreeOutside.mono {pos count pos' count' : Nat} {a b : Nat → β}
    (h : AgreeOutside cap pos' count' a b) (hlow : pos ≤ pos') (hhigh : pos' + count' ≤ pos + count) :
    AgreeOutside cap pos count a b :=
  fun cell hout => h cell (hout.mono hlow hhigh)

theorem agreeOutside_store (cells : Nat → β) (pos : Nat) (items : List β) :
    AgreeOutside cap pos items.length cells (store cap cells pos items) :=
  fun _ hout => store_of_outside cells hout

theorem store_append (cells : Nat → β) (pos : Nat) (front back : List β) :
    store cap cells pos (front ++ back) = store cap (store cap cells pos front) (pos + front.length) back := by
  induction front generalizing cells pos with
  | nil => rfl
  | cons b rest ih =>
      rw [List.cons_append, store, ih, store, List.length_cons,
        show pos + 1 + rest.length = pos + (rest.length + 1) by omega]

/-- The cells from position `pos` on hold the list. -/
def HoldsAt (cap : Nat) (cells : Nat → β) (pos : Nat) (items : List β) : Prop :=
  ∀ i (hi : i < items.length), cells ((pos + i) % cap) = items[i]

theorem holdsAt_store (cells : Nat → β) (pos : Nat) {items : List β} (hfit : items.length ≤ cap) :
    HoldsAt cap (store cap cells pos items) pos items :=
  fun _ hi => store_at cells hfit hi

/-- Positions of one cell are interchangeable. -/
theorem HoldsAt.congr {cells : Nat → β} {pos pos' : Nat} {items : List β}
    (h : HoldsAt cap cells pos items) (hpos : pos % cap = pos' % cap) :
    HoldsAt cap cells pos' items := by
  intro i hi
  rw [← h i hi, Nat.add_mod pos' i, ← hpos, ← Nat.add_mod]

theorem Outside.congr {pos pos' count cell : Nat} (h : Outside cap pos count cell)
    (hpos : pos % cap = pos' % cap) : Outside cap pos' count cell := by
  intro i hi
  rw [Nat.add_mod pos' i, ← hpos, ← Nat.add_mod]
  exact h i hi

theorem AgreeOutside.congr {pos pos' count : Nat} {a b : Nat → β}
    (h : AgreeOutside cap pos count a b) (hpos : pos % cap = pos' % cap) :
    AgreeOutside cap pos' count a b :=
  fun cell hout => h cell (hout.congr hpos.symm)

/-- What is held behind the changed cells, or before them, is still held. -/
theorem HoldsAt.of_agreeOutside {a b : Nat → β} {pos count p : Nat} {items : List β}
    (h : HoldsAt cap a p items) (hagree : AgreeOutside cap pos count a b)
    (hout : ∀ i < items.length, Outside cap pos count ((p + i) % cap)) : HoldsAt cap b p items := by
  intro i hi
  rw [hagree _ (hout i hi), h i hi]

theorem HoldsAt.append {cells : Nat → β} {pos : Nat} {front back : List β}
    (h : HoldsAt cap cells pos (front ++ back)) :
    HoldsAt cap cells pos front ∧ HoldsAt cap cells (pos + front.length) back := by
  constructor
  · intro i hi
    rw [h i (by rw [List.length_append]; omega), List.getElem_append_left hi]
  · intro i hi
    rw [Nat.add_assoc, h (front.length + i) (by rw [List.length_append]; omega),
      List.getElem_append_right (Nat.le_add_right _ _)]
    simp

end RingCells
