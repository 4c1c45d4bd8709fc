import Mathlib.Tactic

/-!
# Tables of a fixed number of slots

A table has `n` slots, each empty or holding an entry. It is searched from the first slot on, and a
new entry goes into the first empty slot or, when there is none, over the first entry that may be
given up.
-/

abbrev SlotTable (α : Type*) (n : Nat) := Fin n → Option α

namespace SlotTable

variable {α : Type*} {n : Nat}

def find (q : α → Bool) (t : SlotTable α n) : Option (Fin n) :=
  Fin.find? fun i => (t i).any q

def free (t : SlotTable α n) : Option (Fin n) :=
  Fin.find? fun i => (t i).isNone

def set (t : SlotTable α n) (i : Fin n) (e : Option α) : SlotTable α n := Function.update t i e

@[simp]
theorem set_same (t : SlotTable α n) (i : Fin n) (e : Option α) : t.set i e i = e := by
  simp [set]

theorem set_other (t : SlotTable α n) {i j : Fin n} (e : Option α) (h : j ≠ i) :
    t.set i e j = t j := by
  simp [set, h]

@[simp]
theorem set_set (t : SlotTable α n) (i : Fin n) (e e' : Option α) :
    (t.set i e).set i e' = t.set i e' := by
  simp [set]

theorem set_apply (t : SlotTable α n) (i j : Fin n) (e : Option α) :
    t.set i e j = if j = i then e else t j := by
  simp [set, Function.update_apply]

/-- The slot a new entry gets: the first empty one, else the first whose entry may be given up. -/
def place (reusable : α → Bool) (t : SlotTable α n) : Option (Fin n) :=
  t.free.or (t.find reusable)

/-- The slot of the entry sought, inserted as `fresh` where the table did not have it. -/
def findOrInsert (q reusable : α → Bool) (fresh : α) (t : SlotTable α n) :
    Option (Fin n × SlotTable α n) :=
  match t.find q with
  | some i => some (i, t)
  | none => (t.place reusable).map fun i => (i, t.set i (some fresh))

theorem find_eq_some {q : α → Bool} {t : SlotTable α n} {i : Fin n} (h : t.find q = some i) :
    ∃ e, t i = some e ∧ q e = true := by
  have hq := (Fin.find?_eq_some_iff.mp h).1
  exact (Option.any_eq_true q (t i)).mp hq

theorem find_eq_none {q : α → Bool} {t : SlotTable α n} :
    t.find q = none ↔ ∀ i e, t i = some e → q e = false := by
  rw [find, Fin.find?_eq_none_iff]
  constructor
  · intro h i e he
    simpa [he] using h i
  · intro h i
    cases hi : t i with
    | none => rfl
    | some e => simpa using h i e hi

theorem find_isSome {q : α → Bool} {t : SlotTable α n} {i : Fin n} {e : α} (he : t i = some e)
    (hq : q e = true) : ∃ j, t.find q = some j := by
  cases h : t.find q with
  | some j => exact ⟨j, rfl⟩
  | none =>
      have hfalse := find_eq_none.mp h i e he
      rw [hq] at hfalse
      cases hfalse

theorem place_eq_none {reusable : α → Bool} {t : SlotTable α n} :
    t.place reusable = none ↔ ∀ i, ∃ e, t i = some e ∧ reusable e = false := by
  rw [place, Option.or_eq_none_iff, free, Fin.find?_eq_none_iff, find_eq_none]
  constructor
  · rintro ⟨hfull, hkept⟩ i
    cases hi : t i with
    | none => simpa [hi] using hfull i
    | some e => exact ⟨e, rfl, hkept i e hi⟩
  · intro h
    constructor
    · intro i
      obtain ⟨e, he, -⟩ := h i
      simp [he]
    · intro i e he
      obtain ⟨e', he', hkept⟩ := h i
      rw [he] at he'
      cases he'
      exact hkept

theorem place_eq_some {reusable : α → Bool} {t : SlotTable α n} {i : Fin n}
    (h : t.place reusable = some i) : t i = none ∨ ∃ e, t i = some e ∧ reusable e = true := by
  rw [place, Option.or_eq_some_iff] at h
  obtain hfree | ⟨-, hreuse⟩ := h
  · left
    simpa using (Fin.find?_eq_some_iff.mp hfree).1
  · exact Or.inr (find_eq_some hreuse)

theorem findOrInsert_eq_none {q reusable : α → Bool} {fresh : α} {t : SlotTable α n} :
    t.findOrInsert q reusable fresh = none
      ↔ t.find q = none ∧ ∀ i, ∃ e, t i = some e ∧ reusable e = false := by
  rw [← place_eq_none]
  cases h : t.find q <;> simp [findOrInsert, h]

/-- The three outcomes of `findOrInsert`, each with the search results it comes from. -/
theorem findOrInsert_outcome (q reusable : α → Bool) (fresh : α) (t : SlotTable α n) :
    (∃ i e, t.find q = some i ∧ t i = some e ∧ t.findOrInsert q reusable fresh = some (i, t))
      ∨ (∃ i, t.find q = none ∧ t.place reusable = some i
          ∧ t.findOrInsert q reusable fresh = some (i, t.set i (some fresh)))
      ∨ (t.find q = none ∧ t.place reusable = none ∧ t.findOrInsert q reusable fresh = none) := by
  cases hfind : t.find q with
  | some i =>
      obtain ⟨e, he, -⟩ := find_eq_some hfind
      exact Or.inl ⟨i, e, rfl, he, by simp [findOrInsert, hfind]⟩
  | none =>
      cases hplace : t.place reusable with
      | some i => exact Or.inr (Or.inl ⟨i, rfl, rfl, by simp [findOrInsert, hfind, hplace]⟩)
      | none => exact Or.inr (Or.inr ⟨rfl, rfl, by simp [findOrInsert, hfind, hplace]⟩)

/-! ### The entry found -/

def lookup (q : α → Bool) (t : SlotTable α n) : Option α := (t.find q).bind t

theorem lookup_of_find {q : α → Bool} {t : SlotTable α n} {i : Fin n} (h : t.find q = some i) :
    t.lookup q = t i := by
  simp [lookup, h]

theorem lookup_eq_some {q : α → Bool} {t : SlotTable α n} {e : α} (h : t.lookup q = some e) :
    ∃ i, t.find q = some i ∧ t i = some e ∧ q e = true := by
  rw [lookup, Option.bind_eq_some_iff] at h
  obtain ⟨i, hfind, hi⟩ := h
  obtain ⟨e', he', hq⟩ := find_eq_some hfind
  rw [hi] at he'
  cases he'
  exact ⟨i, hfind, hi, hq⟩

theorem lookup_eq_none {q : α → Bool} {t : SlotTable α n} :
    t.lookup q = none ↔ t.find q = none := by
  constructor
  · intro h
    cases hfind : t.find q with
    | none => rfl
    | some i =>
        obtain ⟨e, he, -⟩ := find_eq_some hfind
        rw [lookup_of_find hfind, he] at h
        cases h
  · intro h
    simp [lookup, h]

/-- A search that finds slot `i`, or nothing, finds slot `i` once a match is written there. -/
theorem find_set_match {q : α → Bool} {t : SlotTable α n} {i : Fin n} {e : α}
    (h : t.find q = some i ∨ t.find q = none) (hq : q e = true) :
    (t.set i (some e)).find q = some i := by
  rw [find, Fin.find?_eq_some_iff]
  constructor
  · simpa using hq
  · intro j hj
    rw [set_other t (some e) (Fin.ne_of_lt hj)]
    obtain hfind | hfind := h
    · exact (Fin.find?_eq_some_iff.mp hfind).2 j hj
    · exact Fin.find?_eq_none_iff.mp hfind j

theorem lookup_set_match {q : α → Bool} {t : SlotTable α n} {i : Fin n} {e : α}
    (h : t.find q = some i ∨ t.find q = none) (hq : q e = true) :
    (t.set i (some e)).lookup q = some e := by
  rw [lookup_of_find (find_set_match h hq), set_same]

/-- Writing a slot that neither held nor gets a match leaves the search as it was. -/
theorem lookup_set_other {q : α → Bool} {t : SlotTable α n} {i : Fin n} {e : Option α}
    (hold : (t i).any q = false) (hnew : e.any q = false) : (t.set i e).lookup q = t.lookup q := by
  have hslot : ∀ j, (t.set i e j).any q = (t j).any q := by
    intro j
    by_cases hj : j = i
    · subst hj
      rw [set_same, hold, hnew]
    · rw [set_other t e hj]
  have hfind : (t.set i e).find q = t.find q := by
    simp only [find, hslot]
  cases h : t.find q with
  | none => rw [lookup_eq_none.mpr (hfind.trans h), lookup_eq_none.mpr h]
  | some j =>
      rw [lookup_of_find (hfind.trans h), lookup_of_find h, set_other]
      rintro rfl
      obtain ⟨e', he', hq⟩ := find_eq_some h
      rw [he', Option.any_some, hq] at hold
      cases hold

/-! ### Tables without two entries of one key -/

variable {κ : Type*}

def KeysUnique (key : α → κ) (t : SlotTable α n) : Prop :=
  ∀ i j e e', t i = some e → t j = some e' → key e = key e' → i = j

theorem keysUnique_empty (key : α → κ) : KeysUnique key (fun _ : Fin n => (none : Option α)) := by
  intro i j e e' he
  cases he

/-- Rewriting an entry under its own key keeps the keys unique. -/
theorem KeysUnique.set_key {key : α → κ} {t : SlotTable α n} (h : KeysUnique key t) {i : Fin n}
    {e e' : α} (he : t i = some e) (hkey : key e' = key e) : KeysUnique key (t.set i (some e')) := by
  intro j k a b ha hb hab
  rw [set_apply] at ha hb
  split at ha <;> split at hb
  · rename_i hj hk
    exact hj.trans hk.symm
  · rename_i hj hk
    cases ha
    exact hj.trans (h i k e b he hb (hkey.symm.trans hab))
  · rename_i hj hk
    cases hb
    exact (h j i a e ha he (hab.trans hkey)).trans hk.symm
  · exact h j k a b ha hb hab

theorem KeysUnique.set_new {key : α → κ} {t : SlotTable α n} (h : KeysUnique key t) {i : Fin n}
    {e' : α} (hnew : ∀ j e, t j = some e → key e ≠ key e') : KeysUnique key (t.set i (some e')) := by
  intro j k a b ha hb hab
  rw [set_apply] at ha hb
  split at ha <;> split at hb
  · rename_i hj hk
    exact hj.trans hk.symm
  · cases ha
    exact absurd hab.symm (hnew k b hb)
  · cases hb
    exact absurd hab (hnew j a ha)
  · exact h j k a b ha hb hab

theorem KeysUnique.set_none {key : α → κ} {t : SlotTable α n} (h : KeysUnique key t) (i : Fin n) :
    KeysUnique key (t.set i none) := by
  intro j k a b ha hb hab
  rw [set_apply] at ha hb
  split at ha
  · cases ha
  · split at hb
    · cases hb
    · exact h j k a b ha hb hab

/-- Entries that each stay in their slot under their key, or go, keep the keys unique. -/
theorem KeysUnique.of_origin {key : α → κ} {t t' : SlotTable α n} (h : KeysUnique key t)
    (horigin : ∀ i e', t' i = some e' → ∃ e, t i = some e ∧ key e' = key e) :
    KeysUnique key t' := by
  intro i j a b ha hb hab
  obtain ⟨e, he, hkey⟩ := horigin i a ha
  obtain ⟨e', he', hkey'⟩ := horigin j b hb
  exact h i j e e' he he' (hkey.symm.trans (hab.trans hkey'))

/-- With unique keys the search finds the one entry of its key. -/
theorem KeysUnique.find_eq {key : α → κ} {t : SlotTable α n} (h : KeysUnique key t) {q : α → Bool}
    {k : κ} (hq : ∀ e, q e = true ↔ key e = k) {i : Fin n} {e : α} (he : t i = some e)
    (hkey : key e = k) : t.find q = some i := by
  obtain ⟨j, hj⟩ := find_isSome he ((hq e).mpr hkey)
  obtain ⟨e', he', hqe'⟩ := find_eq_some hj
  rw [hj, h j i e' e he' he (((hq e').mp hqe').trans hkey.symm)]

/-! ### Rewriting entries in place -/

/-- The same slots are empty, and every entry is related to the one it was. -/
def Pointwise (R : α → α → Prop) (t t' : SlotTable α n) : Prop := ∀ i, Option.Rel R (t i) (t' i)

theorem Pointwise.of_set {R : α → α → Prop} (hrefl : ∀ e, R e e) {t : SlotTable α n} {i : Fin n}
    {e e' : α} (he : t i = some e) (h : R e e') : Pointwise R t (t.set i (some e')) := by
  intro j
  by_cases hj : j = i
  · subst hj
    rw [set_same, he]
    exact Option.Rel.some h
  · rw [set_other t _ hj]
    cases t j with
    | none => exact Option.Rel.none
    | some a => exact Option.Rel.some (hrefl a)

theorem Pointwise.mono {R Q : α → α → Prop} (hle : ∀ e e', R e e' → Q e e')
    {t t' : SlotTable α n} (h : Pointwise R t t') : Pointwise Q t t' := by
  intro i
  have hi := h i
  revert hi
  generalize t i = a, t' i = b
  intro hi
  cases hi with
  | none => exact Option.Rel.none
  | some hr => exact Option.Rel.some (hle _ _ hr)

theorem Pointwise.of_map {R : α → α → Prop} (t : SlotTable α n) {f : Fin n → α → α}
    (h : ∀ i e, t i = some e → R e (f i e)) : Pointwise R t fun i => (t i).map (f i) := by
  intro i
  dsimp only
  cases hi : t i with
  | none => exact Option.Rel.none
  | some e => exact Option.Rel.some (h i e hi)

theorem Pointwise.origin {R : α → α → Prop} {t t' : SlotTable α n} (h : Pointwise R t t')
    {i : Fin n} {e' : α} (he' : t' i = some e') : ∃ e, t i = some e ∧ R e e' := by
  have hi := h i
  rw [he'] at hi
  cases ht : t i with
  | none =>
      rw [ht] at hi
      cases hi
  | some e =>
      rw [ht] at hi
      cases hi with
      | some hr => exact ⟨e, rfl, hr⟩

/-! ### First hits -/

/-- A search along a list ordered by `r` ends at the hit no other hit precedes. -/
theorem findSome?_eq_some_iff {ι β : Type*} {r : ι → ι → Prop} (hr : ∀ a b, r a b → ¬ r b a)
    {l : List ι} (hl : l.Pairwise r) {f : ι → Option β} {b : β} :
    l.findSome? f = some b ↔ ∃ a ∈ l, f a = some b ∧ ∀ a' ∈ l, r a' a → f a' = none := by
  induction l with
  | nil => simp
  | cons x rest ih =>
      obtain ⟨hx, hrest⟩ := List.pairwise_cons.mp hl
      rw [List.findSome?_cons]
      cases hfx : f x with
      | some c =>
          constructor
          · intro h
            refine ⟨x, List.mem_cons_self, hfx.trans h, ?_⟩
            intro a' ha' hbefore
            obtain rfl | hmem := List.mem_cons.mp ha'
            · exact absurd hbefore (hr a' a' hbefore)
            · exact absurd hbefore (hr x a' (hx a' hmem))
          · rintro ⟨a, ha, hfa, hfirst⟩
            obtain rfl | hmem := List.mem_cons.mp ha
            · exact hfx.symm.trans hfa
            · have hnone := hfirst x List.mem_cons_self (hx a hmem)
              rw [hfx] at hnone
              cases hnone
      | none =>
          rw [ih hrest]
          constructor
          · rintro ⟨a, ha, hfa, hfirst⟩
            refine ⟨a, List.mem_cons_of_mem x ha, hfa, ?_⟩
            intro a' ha' hbefore
            obtain rfl | hmem := List.mem_cons.mp ha'
            · exact hfx
            · exact hfirst a' hmem hbefore
          · rintro ⟨a, ha, hfa, hfirst⟩
            obtain rfl | hmem := List.mem_cons.mp ha
            · rw [hfx] at hfa
              cases hfa
            · exact ⟨a, hmem, hfa, fun a' ha' => hfirst a' (List.mem_cons_of_mem x ha')⟩

/-! ### Sums over the entries -/

/-- Writing one slot moves a sum over the table by that slot's change. -/
theorem sum_set (t : SlotTable α n) (weight : Option α → Nat) (i : Fin n) (e : Option α) :
    (∑ j, weight (t.set i e j)) + weight (t i) = (∑ j, weight (t j)) + weight e := by
  rw [← Finset.add_sum_erase Finset.univ (fun j => weight (t.set i e j)) (Finset.mem_univ i),
    ← Finset.add_sum_erase Finset.univ (fun j => weight (t j)) (Finset.mem_univ i)]
  have hrest : ∑ j ∈ Finset.univ.erase i, weight (t.set i e j)
      = ∑ j ∈ Finset.univ.erase i, weight (t j) := by
    apply Finset.sum_congr rfl
    intro j hj
    rw [set_other t e (Finset.ne_of_mem_erase hj)]
  simp only [set_same, hrest]
  omega

/-! ### Free slots -/

theorem free_eq_none {t : SlotTable α n} : t.free = none ↔ ∀ i, t i ≠ none := by
  simp [free, Option.isSome_iff_ne_none]

theorem free_eq_some {t : SlotTable α n} {i : Fin n} (h : t.free = some i) : t i = none := by
  simpa using (Fin.find?_eq_some_iff.mp h).1

/-- The slots that are free: the room for new entries. -/
def freeCount (t : SlotTable α n) : Nat := ∑ i, if (t i).isNone then 1 else 0

theorem free_of_freeCount_pos {t : SlotTable α n} (h : 0 < t.freeCount) : t.free ≠ none := by
  rw [Ne, free_eq_none]
  intro hfull
  have hzero : t.freeCount = 0 := by
    apply Finset.sum_eq_zero
    intro i hi
    simp [hfull i]
  omega

theorem freeCount_set (t : SlotTable α n) (i : Fin n) (e : α) :
    (t.set i (some e)).freeCount + (if (t i).isNone then 1 else 0) = t.freeCount :=
  sum_set t (fun o => if o.isNone then 1 else 0) i (some e)

end SlotTable
