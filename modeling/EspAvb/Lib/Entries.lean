import Mathlib.Tactic

/-!
# Counted sequences of entries

A buffer holds entries one behind the other; the reader knows their number and takes one entry off
the front at a time, up to the first that does not parse.
-/

namespace Entries

variable {α β : Type*}

def parseMany (parse : List β → Option (α × List β)) : Nat → List β → List α
  | 0, _ => []
  | n + 1, buf =>
      match parse buf with
      | none => []
      | some (a, rest) => a :: parseMany parse n rest

/-- Entries that each parse off the front of a buffer parse off it one after the other. -/
theorem parseMany_flatMap {parse : List β → Option (α × List β)} {write : α → List β} {entries : List α}
    (h : ∀ a ∈ entries, ∀ rest, parse (write a ++ rest) = some (a, rest)) (rest : List β) :
    parseMany parse entries.length (entries.flatMap write ++ rest) = entries := by
  induction entries with
  | nil => rfl
  | cons a entries ih =>
      have hfirst := h a List.mem_cons_self (entries.flatMap write ++ rest)
      have hrest := ih fun b hb => h b (List.mem_cons_of_mem a hb)
      rw [List.flatMap_cons, List.append_assoc, List.length_cons, parseMany, hfirst]
      simp only [hrest]

end Entries
