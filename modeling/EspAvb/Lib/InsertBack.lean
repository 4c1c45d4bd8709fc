import Mathlib.Data.List.DropRight
import Mathlib.Tactic

/-!
# Insertion from the back

An insertion sort that walks back from the end of the sorted part past the elements with a greater
key leaves the elements it was given, in the order of their keys.
-/

namespace InsertBack

variable {ι κ : Type*} [LinearOrder κ] (key : ι → κ)

/-- `a` behind the last element whose key is not greater. -/
def insert (l : List ι) (a : ι) : List ι :=
  let later := fun b => decide (key a < key b)
  l.rdropWhile later ++ a :: l.rtakeWhile later

def Sorted (l : List ι) : Prop := l.Pairwise fun a b => key a ≤ key b

@[simp]
theorem insert_nil (a : ι) : insert key [] a = [a] := rfl

theorem insert_concat_of_lt {a b : ι} (l : List ι) (h : key a < key b) :
    insert key (l ++ [b]) a = insert key l a ++ [b] := by
  simp [insert, h]

theorem insert_concat_of_le {a b : ι} (l : List ι) (h : key b ≤ key a) :
    insert key (l ++ [b]) a = l ++ [b, a] := by
  simp [insert, not_lt.mpr h]

theorem insert_perm (l : List ι) (a : ι) : (insert key l a).Perm (a :: l) := by
  unfold insert
  refine List.perm_middle.trans (.cons a ?_)
  rw [List.rdropWhile_append_rtakeWhile]

theorem mem_insert {l : List ι} {a b : ι} : b ∈ insert key l a ↔ b = a ∨ b ∈ l :=
  (insert_perm key l a).mem_iff.trans List.mem_cons

theorem insert_sorted {l : List ι} (h : Sorted key l) (a : ι) : Sorted key (insert key l a) := by
  induction l using List.reverseRecOn with
  | nil => simp [Sorted]
  | append_singleton l b ih =>
      obtain ⟨hl, -, hlast⟩ := List.pairwise_append.mp h
      have hlb : ∀ c ∈ l, key c ≤ key b := fun c hc => hlast c hc b List.mem_cons_self
      by_cases hab : key a < key b
      · rw [insert_concat_of_lt key l hab]
        refine List.pairwise_append.mpr ⟨ih hl, List.pairwise_singleton _ _, ?_⟩
        intro c hc d hd
        rw [List.mem_singleton.mp hd]
        rcases (mem_insert key).mp hc with rfl | hc
        · exact hab.le
        · exact hlb c hc
      · have hba : key b ≤ key a := not_lt.mp hab
        rw [insert_concat_of_le key l hba]
        refine List.pairwise_append.mpr ⟨hl, by simpa using hba, ?_⟩
        intro c hc d hd
        rcases List.mem_pair.mp hd with rfl | rfl
        · exact hlb c hc
        · exact (hlb c hc).trans hba

/-! ### The sort -/

theorem foldl_insert_perm (l sorted : List ι) : (l.foldl (insert key) sorted).Perm (l ++ sorted) := by
  induction l generalizing sorted with
  | nil => exact .refl _
  | cons a l ih =>
      rw [List.foldl_cons, List.cons_append]
      calc l.foldl (insert key) (insert key sorted a)
        _ |>.Perm (l ++ insert key sorted a) := ih _
        _ |>.Perm (l ++ a :: sorted) := (insert_perm key sorted a).append_left l
        _ |>.Perm (a :: (l ++ sorted)) := List.perm_middle

theorem foldl_insert_sorted (l : List ι) {sorted : List ι} (h : Sorted key sorted) :
    Sorted key (l.foldl (insert key) sorted) := by
  induction l generalizing sorted with
  | nil => exact h
  | cons a l ih => exact ih (insert_sorted key h a)

theorem sort_perm (l : List ι) : (l.foldl (insert key) []).Perm l := by
  simpa using foldl_insert_perm key l []

theorem sort_sorted (l : List ι) : Sorted key (l.foldl (insert key) []) :=
  foldl_insert_sorted key l List.Pairwise.nil

end InsertBack
