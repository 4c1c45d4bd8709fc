import Mathlib.Tactic

/-!
# Walking a list from its back

A loop that visits a list from its last element to its first, rewriting the element in place or
closing the gap it leaves, sees every element once although the list shrinks under it: what it
leaves is the list's `filterMap`.
-/

namespace WalkBack

variable {α : Type*} (f : α → Option α)

/-- The walk over the first `n` elements. -/
def walk : Nat → List α → List α
  | 0, l => l
  | n + 1, l =>
      match l[n]? with
      | none => walk n l
      | some a =>
          match f a with
          | none => walk n (l.eraseIdx n)
          | some b => walk n (l.set n b)

theorem walk_append (first rest : List α) :
    walk f first.length (first ++ rest) = first.filterMap f ++ rest := by
  induction first using List.reverseRecOn generalizing rest with
  | nil => rfl
  | append_singleton first a ih =>
      have hassoc : first ++ [a] ++ rest = first ++ a :: rest := by simp
      rw [hassoc, List.length_append, List.length_singleton, List.filterMap_append]
      have hget : (first ++ a :: rest)[first.length]? = some a := by simp
      simp only [walk, hget]
      cases hf : f a with
      | none =>
          have herase : (first ++ a :: rest).eraseIdx first.length = first ++ rest := by
            simp [List.eraseIdx_append_of_length_le]
          simp [hf, herase, ih]
      | some b =>
          have hset : (first ++ a :: rest).set first.length b = first ++ b :: rest := by simp
          simp [hf, hset, ih]

theorem walk_eq_filterMap (l : List α) : walk f l.length l = l.filterMap f := by
  simpa using walk_append f l []

theorem length_walk_le (l : List α) : (walk f l.length l).length ≤ l.length := by
  rw [walk_eq_filterMap]
  exact List.length_filterMap_le f l

end WalkBack
