import Mathlib.Tactic

/-!
# A log read back by rank

Records of a log carry what they are about, a rank and a value. Reading the log keeps, for each
subject, the value of the highest rank met so far, the later one of two equal ranks. Where no two
records of a subject share a rank, the order of the log does not matter.
-/

namespace RankedLog

variable {κ α : Type*} [DecidableEq κ]

/-- What a record is about, its rank and its value. -/
abbrev Record (κ α : Type*) := κ × Nat × α

def keep (best : κ → Nat × α) (r : Record κ α) : κ → Nat × α :=
  if (best r.1).1 ≤ r.2.1 then Function.update best r.1 r.2 else best

def newest (best : κ → Nat × α) (log : List (Record κ α)) : κ → Nat × α := log.foldl keep best

theorem keep_le (best : κ → Nat × α) (r : Record κ α) (k : κ) : (best k).1 ≤ (keep best r k).1 := by
  unfold keep
  split
  case isTrue h =>
    by_cases hk : k = r.1
    · subst hk
      simpa using h
    · simp [hk]
  case isFalse => exact le_rfl

theorem keep_ge (best : κ → Nat × α) (r : Record κ α) : r.2.1 ≤ (keep best r r.1).1 := by
  unfold keep
  split
  case isTrue => simp
  case isFalse h => exact (not_le.mp h).le

theorem keep_eq_or (best : κ → Nat × α) (r : Record κ α) (k : κ) :
    keep best r k = best k ∨ (k, keep best r k) = r := by
  unfold keep
  split
  case isTrue =>
    by_cases hk : k = r.1
    · subst hk
      right
      simp
    · left
      simp [hk]
  case isFalse => exact Or.inl rfl

theorem newest_le (best : κ → Nat × α) (log : List (Record κ α)) (k : κ) :
    (best k).1 ≤ (newest best log k).1 := by
  induction log generalizing best with
  | nil => exact le_rfl
  | cons r log ih => exact (keep_le best r k).trans (ih (keep best r))

theorem newest_ge {best : κ → Nat × α} {log : List (Record κ α)} {r : Record κ α} (hr : r ∈ log) :
    r.2.1 ≤ (newest best log r.1).1 := by
  induction log generalizing best with
  | nil => cases hr
  | cons r' log ih =>
      rcases List.mem_cons.mp hr with rfl | hr
      · exact (keep_ge best r).trans (newest_le (keep best r) log r.1)
      · exact ih hr

theorem newest_eq_or_mem (best : κ → Nat × α) (log : List (Record κ α)) (k : κ) :
    newest best log k = best k ∨ (k, newest best log k) ∈ log := by
  induction log generalizing best with
  | nil => exact Or.inl rfl
  | cons r log ih =>
      rcases ih (keep best r) with h | h
      · rcases keep_eq_or best r k with hk | hk
        · exact Or.inl (h.trans hk)
        · right
          change (k, newest (keep best r) log k) ∈ r :: log
          rw [h, hk]
          exact List.mem_cons_self
      · exact Or.inr (List.mem_cons_of_mem r h)

end RankedLog
