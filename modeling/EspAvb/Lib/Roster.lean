import Mathlib.Data.Finset.Card
import Mathlib.Data.List.Nodup
import Mathlib.Tactic

/-!
# Rosters

A roster keeps what each of those present last said of itself, in the order in which they came, and has
room for a fixed number of them: who comes to a full one takes the place of the first. It never keeps a
word that was changed or withdrawn, and keeps everyone present as long as they were never too many.
-/

namespace Roster

variable {κ α : Type*} [DecidableEq κ] (key : α → κ) (cap : Nat)

def enter (a : α) (roster : List α) : List α :=
  match roster.findIdx? fun b => key b = key a with
  | some i => roster.set i a
  | none => if roster.length < cap then roster ++ [a] else roster.drop 1 ++ [a]

def leave (k : κ) (roster : List α) : List α :=
  match roster.findIdx? fun b => key b = k with
  | some i => roster.eraseIdx i
  | none => roster

def find? (k : κ) (roster : List α) : Option α := roster.find? fun b => key b = k

variable (κ α) in
/-- Someone says what it is, or that it goes, or the word is about no one. -/
inductive Notice where
  | here (a : α)
  | gone (k : κ)
  | other

def Notice.About (k : κ) : Notice κ α → Prop
  | here a => key a = k
  | gone k' => k' = k
  | other => False

def note (notice : Notice κ α) (roster : List α) : List α :=
  match notice with
  | .here a => enter key cap a roster
  | .gone k => leave key k roster
  | .other => roster

/-- The roster before notice `n`. -/
def before (notices : Nat → Notice κ α) : Nat → List α
  | 0 => []
  | n + 1 => note key cap (notices n) (before notices n)

/-- Those present before notice `n`. -/
def present (notices : Nat → Notice κ α) : Nat → Finset κ
  | 0 => ∅
  | n + 1 =>
      match notices n with
      | .here a => insert (key a) (present notices n)
      | .gone k => (present notices n).erase k
      | .other => present notices n

/-! ### One notice -/

variable {key cap} {roster : List α} {a b : α} {k : κ}

theorem split_of_findIdx? {p : α → Bool} {i : Nat} (h : roster.findIdx? p = some i) :
    ∃ front b back, roster = front ++ b :: back ∧ front.length = i ∧ p b = true := by
  obtain ⟨hi, hb, -⟩ := List.findIdx?_eq_some_iff_getElem.mp h
  refine ⟨roster.take i, roster[i], roster.drop (i + 1), ?_, List.length_take_of_le hi.le, hb⟩
  rw [List.getElem_cons_drop, List.take_append_drop]

/-- What coming does: the word of one who is kept is replaced, anyone else is put last. -/
theorem enter_cases (a : α) (roster : List α) :
    (∃ front b back, roster = front ++ b :: back ∧ key b = key a ∧
      enter key cap a roster = front ++ a :: back) ∨
    (key a ∉ roster.map key ∧
      enter key cap a roster = (if roster.length < cap then roster else roster.drop 1) ++ [a]) := by
  unfold enter
  cases h : roster.findIdx? fun b => key b = key a with
  | some i =>
      obtain ⟨front, b, back, rfl, rfl, hb⟩ := split_of_findIdx? h
      exact .inl ⟨front, b, back, rfl, of_decide_eq_true hb, by simp⟩
  | none =>
      refine .inr ⟨fun hin => ?_, (apply_ite (· ++ [a]) _ _ _).symm⟩
      obtain ⟨b, hb, heq⟩ := List.mem_map.mp hin
      have hnot := List.findIdx?_eq_none_iff.mp h b hb
      exact absurd heq (of_decide_eq_false hnot)

theorem leave_cases (k : κ) (roster : List α) :
    (∃ front b back, roster = front ++ b :: back ∧ key b = k ∧
      leave key k roster = front ++ back) ∨
    (k ∉ roster.map key ∧ leave key k roster = roster) := by
  unfold leave
  cases h : roster.findIdx? fun b => key b = k with
  | some i =>
      obtain ⟨front, b, back, rfl, rfl, hb⟩ := split_of_findIdx? h
      refine .inl ⟨front, b, back, rfl, of_decide_eq_true hb, ?_⟩
      dsimp only
      rw [List.eraseIdx_append_of_length_le le_rfl, Nat.sub_self]
      rfl
  | none =>
      refine .inr ⟨fun hin => ?_, rfl⟩
      obtain ⟨b, hb, heq⟩ := List.mem_map.mp hin
      have hnot := List.findIdx?_eq_none_iff.mp h b hb
      exact absurd heq (of_decide_eq_false hnot)

omit [DecidableEq κ] in
theorem nodup_split {front back : List α} : ((front ++ b :: back).map key).Nodup ↔
    key b ∉ (front ++ back).map key ∧ ((front ++ back).map key).Nodup := by
  rw [List.map_append, List.map_cons, List.nodup_middle, List.nodup_cons, ← List.map_append]

theorem mem_enter_self : a ∈ enter key cap a roster := by
  obtain ⟨front, b, back, -, -, h⟩ | ⟨-, h⟩ := @enter_cases _ _ _ key cap a roster
  · rw [h]
    exact List.mem_append_right _ List.mem_cons_self
  · rw [h]
    exact List.mem_append_right _ List.mem_cons_self

theorem kept_sublist : (if roster.length < cap then roster else roster.drop 1).Sublist roster := by
  split
  · exact List.Sublist.refl _
  · exact List.drop_sublist 1 roster

theorem nodup_enter (h : (roster.map key).Nodup) : ((enter key cap a roster).map key).Nodup := by
  obtain ⟨front, b, back, rfl, hb, henter⟩ | ⟨hnew, henter⟩ := @enter_cases _ _ _ key cap a roster
  · rw [henter]
    simpa only [List.map_append, List.map_cons, hb] using h
  · rw [henter, List.map_append]
    have hkept : List.Sublist _ (roster.map key) := (@kept_sublist _ cap roster).map key
    exact (h.sublist hkept).append (List.nodup_singleton _)
      (List.disjoint_singleton.mpr fun hin => hnew (hkept.subset hin))

theorem length_enter (hcap : 0 < cap) (h : roster.length ≤ cap) :
    (enter key cap a roster).length ≤ cap := by
  obtain ⟨front, b, back, rfl, -, henter⟩ | ⟨-, henter⟩ := @enter_cases _ _ _ key cap a roster
  · rw [henter]
    simpa using h
  · rw [henter, List.length_append, List.length_singleton]
    split
    · omega
    · rw [List.length_drop]
      omega

theorem mem_enter (hnodup : (roster.map key).Nodup) (h : b ∈ enter key cap a roster) :
    b = a ∨ b ∈ roster ∧ key b ≠ key a := by
  obtain ⟨front, c, back, rfl, hc, henter⟩ | ⟨hnew, henter⟩ := @enter_cases _ _ _ key cap a roster
  · rw [henter] at h
    rw [nodup_split] at hnodup
    rcases List.mem_cons.mp (List.perm_middle.mem_iff.mp h) with rfl | hin
    · exact .inl rfl
    · refine .inr ⟨List.perm_middle.mem_iff.mpr (List.mem_cons_of_mem _ hin), fun heq => ?_⟩
      exact hnodup.1 (List.mem_map.mpr ⟨b, hin, heq.trans hc.symm⟩)
  · rw [henter, List.mem_append, List.mem_singleton] at h
    rcases h with hin | rfl
    · have hold := kept_sublist.subset hin
      exact .inr ⟨hold, fun heq => hnew (List.mem_map.mpr ⟨b, hold, heq⟩)⟩
    · exact .inl rfl

theorem nodup_leave (h : (roster.map key).Nodup) : ((leave key k roster).map key).Nodup := by
  obtain ⟨front, b, back, rfl, -, hleave⟩ | ⟨-, hleave⟩ := @leave_cases _ _ _ key k roster
  · rw [hleave]
    exact (nodup_split.mp h).2
  · rw [hleave]
    exact h

theorem length_leave : (leave key k roster).length ≤ roster.length := by
  obtain ⟨front, b, back, rfl, -, hleave⟩ | ⟨-, hleave⟩ := @leave_cases _ _ _ key k roster
  · rw [hleave]
    simp
  · rw [hleave]

theorem mem_leave (hnodup : (roster.map key).Nodup) (h : b ∈ leave key k roster) :
    b ∈ roster ∧ key b ≠ k := by
  obtain ⟨front, c, back, rfl, hc, hleave⟩ | ⟨hnew, hleave⟩ := @leave_cases _ _ _ key k roster
  · rw [hleave] at h
    rw [nodup_split] at hnodup
    refine ⟨List.perm_middle.mem_iff.mpr (List.mem_cons_of_mem _ h), fun heq => ?_⟩
    exact hnodup.1 (List.mem_map.mpr ⟨b, h, heq.trans hc.symm⟩)
  · rw [hleave] at h
    exact ⟨h, fun heq => hnew (List.mem_map.mpr ⟨b, h, heq⟩)⟩

theorem note_here_if (p : Prop) [Decidable p] :
    note key cap (if p then .here a else .other) roster = if p then enter key cap a roster else roster := by
  split <;> rfl

theorem find?_isSome : (find? key k roster).isSome = true ↔ k ∈ roster.map key := by
  simp [find?]

theorem find?_mem (h : find? key k roster = some a) : a ∈ roster ∧ key a = k :=
  ⟨List.mem_of_find?_eq_some h, by simpa using List.find?_some h⟩

theorem find?_of_mem (hnodup : (roster.map key).Nodup) (h : a ∈ roster) :
    find? key (key a) roster = some a := by
  have hfound : (find? key (key a) roster).isSome = true := find?_isSome.mpr (List.mem_map_of_mem h)
  obtain ⟨b, hb⟩ := Option.isSome_iff_exists.mp hfound
  obtain ⟨hmem, hkey⟩ := find?_mem hb
  rw [hb, List.inj_on_of_nodup_map hnodup hmem h hkey]

/-! ### Runs -/

variable {notices : Nat → Notice κ α} {n : Nat}

/-- The last word about the key of `a` before notice `n` is `a`. -/
def Said (key : α → κ) (notices : Nat → Notice κ α) (n : Nat) (a : α) : Prop :=
  ∃ m < n, notices m = .here a ∧ ∀ i, m < i → i < n → ¬ (notices i).About key (key a)

omit [DecidableEq κ] in
theorem said_self (h : notices n = .here a) : Said key notices (n + 1) a :=
  ⟨n, n.lt_succ_self, h, fun i hi hi' => absurd hi' (by omega)⟩

omit [DecidableEq κ] in
theorem Said.succ (h : Said key notices n a) (hother : ¬ (notices n).About key (key a)) :
    Said key notices (n + 1) a := by
  obtain ⟨m, hm, hhere, hlast⟩ := h
  refine ⟨m, by omega, hhere, fun i hi hi' => ?_⟩
  rcases Nat.lt_succ_iff_lt_or_eq.mp hi' with hlt | rfl
  · exact hlast i hi hlt
  · exact hother

variable (key cap notices) in
/-- No key twice, no more than there is room for, and of each key its last word. -/
structure Sound (n : Nat) (roster : List α) : Prop where
  nodup : (roster.map key).Nodup
  size : roster.length ≤ cap
  said : ∀ a ∈ roster, Said key notices n a

theorem Sound.note (hcap : 0 < cap) (h : Sound key cap notices n roster) :
    Sound key cap notices (n + 1) (note key cap (notices n) roster) := by
  cases hn : notices n with
  | here a =>
      refine ⟨nodup_enter h.nodup, length_enter hcap h.size, fun b hb => ?_⟩
      rcases mem_enter h.nodup hb with rfl | ⟨hold, hne⟩
      · exact said_self hn
      · exact (h.said b hold).succ (by rw [hn]; exact Ne.symm hne)
  | gone k =>
      refine ⟨nodup_leave h.nodup, length_leave.trans h.size, fun b hb => ?_⟩
      obtain ⟨hold, hne⟩ := mem_leave h.nodup hb
      exact (h.said b hold).succ (by rw [hn]; exact Ne.symm hne)
  | other => exact ⟨h.nodup, h.size, fun b hb => (h.said b hb).succ (by rw [hn]; exact id)⟩

theorem sound (hcap : 0 < cap) (n : Nat) : Sound key cap notices n (before key cap notices n) := by
  induction n with
  | zero => exact ⟨List.nodup_nil, Nat.zero_le _, fun a ha => absurd ha List.not_mem_nil⟩
  | succ n ih => exact ih.note hcap

/-- Everyone present is kept while there was always room for those present. -/
theorem keys_eq_present (hcap : 0 < cap) (n : Nat)
    (hfew : ∀ m ≤ n, (present key notices m).card ≤ cap) :
    ((before key cap notices n).map key).toFinset = present key notices n := by
  induction n with
  | zero => rfl
  | succ n ih =>
      have hsound : Sound key cap notices n (before key cap notices n) := sound hcap n
      have hkeys := ih fun m hm => hfew m (by omega)
      have hroom := hfew (n + 1) le_rfl
      rw [before]
      rw [present] at hroom ⊢
      generalize before key cap notices n = roster at hsound hkeys
      cases hn : notices n with
      | here a =>
          rw [hn] at hroom
          dsimp only at hroom ⊢
          obtain ⟨front, b, back, rfl, hb, henter⟩ | ⟨hnew, henter⟩ :=
            @enter_cases _ _ _ key cap a roster
          · rw [Roster.note, henter, ← hkeys, Finset.insert_eq_of_mem]
            · simp only [List.map_append, List.map_cons, hb]
            · simp [hb]
          · have hcard : roster.length = (present key notices n).card := by
              rw [← hkeys, List.toFinset_card_of_nodup hsound.nodup, List.length_map]
            rw [← hkeys, Finset.card_insert_of_notMem (by simpa using hnew), hkeys] at hroom
            rw [Roster.note, henter, if_pos (by omega), List.map_append, List.toFinset_append, hkeys]
            simp
      | gone k =>
          obtain ⟨front, b, back, rfl, hb, hleave⟩ | ⟨hnew, hleave⟩ := @leave_cases _ _ _ key k roster
          · have hgone : k ∉ (front ++ back).map key := hb ▸ (nodup_split.mp hsound.nodup).1
            rw [Roster.note, hleave, ← hkeys]
            ext k'
            simp only [List.map_append, List.map_cons, List.mem_toFinset, Finset.mem_erase,
              List.mem_append, List.mem_cons] at hgone ⊢
            constructor
            · exact fun hin => ⟨fun heq => hgone (heq ▸ hin), hin.imp_right .inr⟩
            · rintro ⟨hne, hin | rfl | hin⟩
              · exact .inl hin
              · exact absurd hb hne
              · exact .inr hin
          · have hnot : k ∉ (roster.map key).toFinset := by rwa [List.mem_toFinset]
            rw [Roster.note, hleave, ← hkeys]
            exact (Finset.erase_eq_of_notMem hnot).symm
      | other => exact hkeys

end Roster
