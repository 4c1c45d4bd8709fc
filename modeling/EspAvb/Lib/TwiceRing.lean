import Mathlib.Tactic

/-!
# A ring written twice

A ring of `size` cells with a copy of it behind it: an item goes to its cell and to the cell one
turn on. The newest `size` items then lie in one stretch, from the cell the next item goes to.
-/

namespace TwiceRing

variable {β : Type*} (size : Nat)

def write (cells : Nat → β) (pos : Nat) (item : β) : Nat → β :=
  Function.update (Function.update cells pos item) (pos + size) item

/-- Where the item after the one at `pos` goes. -/
def next (pos : Nat) : Nat := if pos + 1 = size then 0 else pos + 1

/-- The ring holds what was written, `recent` with the newest item first. -/
structure Holds (cells : Nat → β) (pos : Nat) (recent : List β) : Prop where
  pos_lt : pos < size
  twice : ∀ cell < size, cells (cell + size) = cells cell
  stretch : ∀ age < size, ∀ item, recent[age]? = some item →
    cells (pos + (size - 1 - age)) = item

variable {size}

theorem write_at (cells : Nat → β) {pos cell : Nat} (item : β) (h : cell = pos ∨ cell = pos + size) :
    write size cells pos item cell = item := by
  unfold write
  by_cases hcopy : cell = pos + size
  · rw [hcopy, Function.update_self]
  · rw [Function.update_of_ne hcopy, h.resolve_right hcopy, Function.update_self]

theorem write_of_ne (cells : Nat → β) {pos cell : Nat} (item : β) (hcell : cell ≠ pos)
    (hcopy : cell ≠ pos + size) : write size cells pos item cell = cells cell := by
  rw [write, Function.update_of_ne hcopy, Function.update_of_ne hcell]

theorem next_lt {pos : Nat} (h : pos < size) : next size pos < size := by
  unfold next
  split <;> omega

theorem write_twice {cells : Nat → β} {pos : Nat} (hpos : pos < size)
    (h : ∀ cell < size, cells (cell + size) = cells cell) (item : β) :
    ∀ cell < size, write size cells pos item (cell + size) = write size cells pos item cell := by
  intro cell hcell
  by_cases heq : cell = pos
  · rw [write_at cells item (Or.inr (congrArg (· + size) heq)), write_at cells item (Or.inl heq)]
  · rw [write_of_ne cells item (by omega) (by omega), write_of_ne cells item heq (by omega)]
    exact h cell hcell

/-- Every item is one place older, and the cell it is in comes one cell earlier in the stretch: it is
the same one, or its copy when the ring starts over. -/
theorem Holds.write {cells : Nat → β} {pos : Nat} {recent : List β}
    (h : Holds size cells pos recent) (item : β) :
    Holds size (write size cells pos item) (next size pos) (item :: recent) := by
  have hpos := h.pos_lt
  refine ⟨next_lt hpos, write_twice hpos h.twice item, ?_⟩
  intro age hage old hold
  cases age with
  | zero =>
      rw [List.getElem?_cons_zero, Option.some_inj] at hold
      rw [← hold]
      apply write_at
      unfold next
      split <;> omega
  | succ age =>
      rw [List.getElem?_cons_succ] at hold
      have hcell := h.stretch age (by omega) old hold
      unfold next
      by_cases hturn : pos + 1 = size
      · have hcopy : pos + (size - 1 - age) = pos - (age + 1) + size := by omega
        rw [hcopy, h.twice _ (by omega)] at hcell
        rw [if_pos hturn, write_of_ne cells item (by omega) (by omega), ← hcell]
        congr 1
        omega
      · rw [if_neg hturn, write_of_ne cells item (by omega) (by omega), ← hcell]
        congr 1
        omega

end TwiceRing
