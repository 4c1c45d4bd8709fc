import Mathlib.Tactic

/-!
# Computations that log their reads

A `Traced` value comes with the positions of the memory that were read to compute it. The memory is
a function on all positions, so a read past the end of what was received has a value too; that no
such read takes place is `Within`.
-/

universe u

structure Traced (α : Type u) where
  value : α
  reads : List Nat

namespace Traced

variable {α β : Type u}

instance : Monad Traced where
  pure a := ⟨a, []⟩
  bind t f := ⟨(f t.value).value, t.reads ++ (f t.value).reads⟩

@[simp]
theorem value_pure (a : α) : (pure a : Traced α).value = a := rfl

@[simp]
theorem reads_pure (a : α) : (pure a : Traced α).reads = [] := rfl

@[simp]
theorem value_bind (t : Traced α) (f : α → Traced β) : (t >>= f).value = (f t.value).value := rfl

@[simp]
theorem reads_bind (t : Traced α) (f : α → Traced β) :
    (t >>= f).reads = t.reads ++ (f t.value).reads := rfl

/-- One octet of the memory. -/
def octet {γ : Type} (memory : Nat → γ) (i : Nat) : Traced γ := ⟨memory i, [i]⟩

/-- `count` octets from `start` on. -/
def octets {γ : Type} (memory : Nat → γ) (start count : Nat) : Traced (List γ) :=
  ⟨(List.range count).map fun i => memory (start + i), (List.range count).map (start + ·)⟩

@[simp]
theorem value_octet {γ : Type} (memory : Nat → γ) (i : Nat) : (octet memory i).value = memory i :=
  rfl

/-- Nothing at or beyond `len` is read. -/
def Within (len : Nat) (t : Traced α) : Prop := ∀ i ∈ t.reads, i < len

variable {len : Nat}

theorem within_pure (a : α) : Within len (pure a : Traced α) := by
  intro i hi
  cases hi

theorem within_octet {γ : Type} {memory : Nat → γ} {i : Nat} (h : i < len) :
    Within len (octet memory i) := by
  intro j hj
  obtain rfl := List.mem_singleton.1 hj
  exact h

theorem within_octets {γ : Type} {memory : Nat → γ} {start count : Nat} (h : start + count ≤ len) :
    Within len (octets memory start count) := by
  intro j hj
  obtain ⟨i, hi, rfl⟩ := List.mem_map.1 hj
  have := List.mem_range.1 hi
  omega

/-- The second part is only looked at for the value that the first one has. -/
theorem Within.bind {t : Traced α} {f : α → Traced β} (ht : Within len t)
    (hf : Within len (f t.value)) : Within len (t >>= f) := by
  intro i hi
  rcases List.mem_append.1 hi with hi | hi
  · exact ht i hi
  · exact hf i hi

theorem within_ite {c : Prop} [Decidable c] {t s : Traced α} (ht : c → Within len t)
    (hs : ¬ c → Within len s) : Within len (if c then t else s) := by
  split
  · exact ht ‹_›
  · exact hs ‹_›

end Traced
