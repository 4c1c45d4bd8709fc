import EspAvb.Lib.WalkBack

/-!
# Arrays filled from the front

An array of `n` cells holds a list in its first cells and a blank in every other. Writing, appending,
closing a gap and walking back over the cells in use are done on the array and keep it so: each is
the list's own operation.
-/

namespace PackedArray

variable {α : Type*} {blank : α} {n : Nat} {l : List α} {i : Nat}

/-- The array that holds `l`. -/
def pack (blank : α) (n : Nat) (l : List α) : List α := l ++ List.replicate (n - l.length) blank

/-- `k` cells from `i` on each take the value of the next. -/
def shiftDown (blank : α) : Nat → Nat → List α → List α
  | _, 0, a => a
  | i, k + 1, a => shiftDown blank (i + 1) k (a.set i (a.getD (i + 1) blank))

theorem length_pack (h : l.length ≤ n) : (pack blank n l).length = n := by
  simp [pack]
  omega

theorem length_shiftDown (i k : Nat) (a : List α) : (shiftDown blank i k a).length = a.length := by
  induction k generalizing i a with
  | zero => rfl
  | succ k ih => simp [shiftDown, ih]

@[simp]
theorem take_pack : (pack blank n l).take l.length = l := List.take_left

theorem getD_pack (i : Nat) : (pack blank n l).getD i blank = l.getD i blank := by
  simp only [pack, List.getD_eq_getElem?_getD, List.getElem?_append]
  split_ifs with hi
  · rfl
  · rw [List.getElem?_eq_none (l := l) (by omega), List.getElem?_replicate]
    split_ifs <;> rfl

theorem drop_pack : (pack blank n l).drop l.length = List.replicate (n - l.length) blank :=
  List.drop_left

theorem modify_pack (f : α → α) (hi : i < l.length) :
    (pack blank n l).modify i f = pack blank n (l.modify i f) := by
  apply List.ext_getElem?
  intro j
  simp only [pack, List.getElem?_modify, List.getElem?_append, List.length_modify]
  split_ifs with hij hj
  · rfl
  · omega
  all_goals simp

theorem append_pack (f : α → α) (h : l.length < n) :
    (pack blank n l).modify l.length f = pack blank n (l ++ [f blank]) := by
  obtain ⟨k, hk⟩ : ∃ k, n - l.length = k + 1 := ⟨n - l.length - 1, by omega⟩
  have hk' : n - (l ++ [f blank]).length = k := by
    rw [List.length_append, List.length_singleton]
    omega
  rw [pack, pack, hk, hk', List.replicate_succ, List.append_assoc, List.modify_eq_set_getElem?]
  simp

theorem shiftDown_append (first : List α) (a : α) (rest tail : List α) :
    ∃ last, shiftDown blank first.length rest.length (first ++ a :: (rest ++ tail)) =
      first ++ rest ++ last :: tail := by
  induction rest generalizing first a with
  | nil => exact ⟨a, by simp [shiftDown]⟩
  | cons b rest ih =>
      obtain ⟨last, hlast⟩ := ih (first ++ [b]) b
      refine ⟨last, ?_⟩
      have hmoved : (first ++ a :: (b :: rest ++ tail)).set first.length b =
          first ++ [b] ++ b :: (rest ++ tail) := by
        simp
      have hnext : (first ++ a :: (b :: rest ++ tail)).getD (first.length + 1) blank = b := by
        simp
      rw [List.length_cons, shiftDown, hnext, hmoved]
      simpa using hlast

/-- The cells behind a gap move down and the last cell in use is blanked. -/
theorem remove_pack (hi : i < l.length) (hn : l.length ≤ n) :
    (shiftDown blank i (l.length - 1 - i) (pack blank n l)).set (l.length - 1) blank =
      pack blank n (l.eraseIdx i) := by
  obtain ⟨first, a, rest, rfl, rfl⟩ : ∃ first a rest, l = first ++ a :: rest ∧ first.length = i :=
    ⟨l.take i, l[i], l.drop (i + 1), by simp, by simp; omega⟩
  have hrest : (first ++ a :: rest).length - 1 - first.length = rest.length := by simp
  have hlast : (first ++ a :: rest).length - 1 = (first ++ rest).length := by simp
  obtain ⟨last, hshift⟩ := @shiftDown_append α blank first a rest
    (List.replicate (n - (first ++ a :: rest).length) blank)
  have hfree : n - (first ++ rest).length = n - (first ++ a :: rest).length + 1 := by
    simp at hn ⊢
    omega
  have herase : (first ++ a :: rest).eraseIdx first.length = first ++ rest := by
    simp [List.eraseIdx_append_of_length_le]
  rw [hrest, hlast, herase, pack, pack, List.append_assoc, List.cons_append, hshift, hfree,
    List.replicate_succ]
  simp

/-! ### Walking back -/

variable {σ : Type*}

/-- The visits of `k - 1` down to `0`. -/
def walkDown (visit : Nat → σ → σ) : Nat → σ → σ
  | 0, s => s
  | k + 1, s => walkDown visit k (visit k s)

/-- Visits that rewrite their cell or close its gap walk the list that the state holds. -/
theorem walkDown_holds {visit : Nat → σ → σ} {f : α → Option α} (Holds : σ → List α → Prop)
    (hvisit : ∀ (s : σ) (l : List α) (k : Nat) (hk : k < l.length), Holds s l →
      Holds (visit k s) ((f l[k]).elim (l.eraseIdx k) (l.set k))) {s : σ} {k : Nat}
    (hs : Holds s l) (hk : k ≤ l.length) :
    Holds (walkDown visit k s) (WalkBack.walk f k l) := by
  induction k generalizing s l with
  | zero => exact hs
  | succ k ih =>
      have hkl : k < l.length := hk
      have hnext := hvisit s l k hkl hs
      simp only [walkDown, WalkBack.walk, List.getElem?_eq_getElem hkl]
      cases hf : f l[k] with
      | none =>
          rw [hf] at hnext
          apply ih hnext
          rw [Option.elim_none, List.length_eraseIdx_of_lt hkl]
          omega
      | some b =>
          rw [hf] at hnext
          apply ih hnext
          simpa using hkl.le

end PackedArray
