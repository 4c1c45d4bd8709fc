import Mathlib.Tactic

/-!
# Sharing out a budget

Copies of something each cost a part of a budget and have a place in a line. Over the budget the
last in line that hold a part give it up, one after the other; then the first in line that hold none
get one as long as it fits. Both are loops over a list of the copies that look for one copy, change
its flag and keep a running sum.
-/

namespace BudgetShare

variable {κ : Type*} [DecidableEq κ]

/-- What the copies flagged by `held` cost together. -/
def total (copies : List κ) (cost : κ → Nat) (held : κ → Bool) : Nat :=
  ((copies.filter held).map cost).sum

/-- What the flagged copies up to a place in line cost together. -/
def totalUpTo (copies : List κ) (order cost : κ → Nat) (held : κ → Bool) (n : Nat) : Nat :=
  total copies cost fun d => held d && order d ≤ n

/-- The flags and their running sum. -/
structure Shared (κ : Type*) where
  held : κ → Bool
  committed : Nat

namespace Shared

def drop (cost : κ → Nat) (s : Shared κ) (c : κ) : Shared κ :=
  { held := Function.update s.held c false, committed := s.committed - cost c }

def take (cost : κ → Nat) (s : Shared κ) (c : κ) : Shared κ :=
  { held := Function.update s.held c true, committed := s.committed + cost c }

end Shared

section

variable (copies : List κ) (order cost : κ → Nat) (budget : Nat)

/-- The scan for the last in line, the later one on ties. -/
def last (eligible : κ → Bool) : Option κ :=
  copies.foldl (fun best c => if eligible c ∧ best.elim 0 order ≤ order c then some c else best) none

/-- The scan for the first in line before `bound`, the earlier one on ties. -/
def first (bound : Nat) (eligible : κ → Bool) : Option κ :=
  copies.foldl (fun best c => if eligible c ∧ order c < best.elim bound order then some c else best)
    none

/-- Copies give up their part until the rest fits or none is left that may. -/
def release (releasable : κ → Bool) : Nat → Shared κ → Shared κ
  | 0, s => s
  | n + 1, s =>
      if s.committed ≤ budget then s
      else
        match last copies order fun c => s.held c && releasable c with
        | none => s
        | some c => release releasable n (s.drop cost c)

def fits (s : Shared κ) (c : κ) : Bool := s.committed + cost c ≤ budget

/-- Copies get their part until none is left that may and fits. -/
def grant (bound : Nat) (admissible : κ → Bool) : Nat → Shared κ → Shared κ
  | 0, s => s
  | n + 1, s =>
      match first copies order bound fun c => !s.held c && admissible c && fits cost budget s c with
      | none => s
      | some c => grant bound admissible n (s.take cost c)

/-- Both loops, each as often as there are copies. -/
def share (releasable : κ → Bool) (bound : Nat) (admissible held : κ → Bool) : Shared κ :=
  grant copies order cost budget bound admissible copies.length
    (release copies order cost budget releasable copies.length
      { held, committed := total copies cost held })

end

/-! ### The scans -/

section

variable (copies : List κ) (order : κ → Nat) (eligible : κ → Bool)

/-- What a scan for the last in line is to find. -/
def IsLast : Option κ → Prop
  | none => ∀ d ∈ copies, ¬ eligible d
  | some c => c ∈ copies ∧ eligible c ∧ ∀ d ∈ copies, eligible d → order d ≤ order c

/-- What a scan for the first in line before `bound` is to find. -/
def IsFirst (bound : Nat) : Option κ → Prop
  | none => ∀ d ∈ copies, eligible d → bound ≤ order d
  | some c => c ∈ copies ∧ eligible c

omit [DecidableEq κ] in
theorem isLast_last : IsLast copies order eligible (last copies order eligible) := by
  induction copies using List.reverseRecOn with
  | nil => simp [IsLast, last]
  | append_singleton l a ih =>
      have hstep : last (l ++ [a]) order eligible =
          if eligible a ∧ (last l order eligible).elim 0 order ≤ order a then some a
          else last l order eligible := by
        rw [last, List.foldl_append]
        rfl
      rw [hstep]
      cases hbest : last l order eligible with
      | none =>
          rw [hbest] at ih
          by_cases ha : eligible a
          · rw [if_pos ⟨ha, Nat.zero_le _⟩]
            refine ⟨by simp, ha, ?_⟩
            intro d hd hel
            rcases List.mem_append.mp hd with hd | hd
            · exact absurd hel (ih d hd)
            · rw [List.mem_singleton.mp hd]
          · rw [if_neg fun h => ha h.1]
            intro d hd
            rcases List.mem_append.mp hd with hd | hd
            · exact ih d hd
            · rwa [List.mem_singleton.mp hd]
      | some b =>
          rw [hbest] at ih
          obtain ⟨hb, hbel, hmax⟩ := ih
          by_cases ha : eligible a ∧ order b ≤ order a
          · rw [Option.elim_some, if_pos ha]
            refine ⟨by simp, ha.1, ?_⟩
            intro d hd hel
            rcases List.mem_append.mp hd with hd | hd
            · exact (hmax d hd hel).trans ha.2
            · rw [List.mem_singleton.mp hd]
          · rw [Option.elim_some, if_neg ha]
            refine ⟨List.mem_append_left _ hb, hbel, ?_⟩
            intro d hd hel
            rcases List.mem_append.mp hd with hd | hd
            · exact hmax d hd hel
            · rw [List.mem_singleton.mp hd] at hel ⊢
              exact (Nat.lt_of_not_le fun hle => ha ⟨hel, hle⟩).le

omit [DecidableEq κ] in
theorem isFirst_first (bound : Nat) :
    IsFirst copies order eligible bound (first copies order bound eligible) := by
  induction copies using List.reverseRecOn with
  | nil => simp [IsFirst, first]
  | append_singleton l a ih =>
      have hstep : first (l ++ [a]) order bound eligible =
          if eligible a ∧ order a < (first l order bound eligible).elim bound order then some a
          else first l order bound eligible := by
        rw [first, List.foldl_append]
        rfl
      rw [hstep]
      cases hbest : first l order bound eligible with
      | none =>
          rw [hbest] at ih
          by_cases ha : eligible a ∧ order a < bound
          · rw [Option.elim_none, if_pos ha]
            exact ⟨by simp, ha.1⟩
          · rw [Option.elim_none, if_neg ha]
            intro d hd hel
            rcases List.mem_append.mp hd with hd | hd
            · exact ih d hd hel
            · rw [List.mem_singleton.mp hd] at hel ⊢
              exact Nat.le_of_not_lt fun hlt => ha ⟨hel, hlt⟩
      | some b =>
          rw [hbest] at ih
          by_cases ha : eligible a ∧ order a < order b
          · rw [Option.elim_some, if_pos ha]
            exact ⟨by simp, ha.1⟩
          · rw [Option.elim_some, if_neg ha]
            exact ⟨List.mem_append_left _ ih.1, ih.2⟩

end

/-! ### The running sum -/

section

variable {copies : List κ} {order cost : κ → Nat} {budget : Nat}

variable (cost) in
theorem total_update_true (hnodup : copies.Nodup) {held : κ → Bool} {c : κ} (hc : c ∈ copies)
    (hfree : held c = false) :
    total copies cost (Function.update held c true) = total copies cost held + cost c := by
  induction copies with
  | nil => simp at hc
  | cons a l ih =>
      obtain ⟨hnotMem, hnodup⟩ := List.nodup_cons.mp hnodup
      by_cases ha : a = c
      · subst ha
        have hrest : l.filter (Function.update held a true) = l.filter held := by
          apply List.filter_congr
          intro d hd
          have hne : d ≠ a := fun h => hnotMem (h ▸ hd)
          rw [Function.update_of_ne hne]
        simp [total, hrest, hfree, Nat.add_comm]
      · have hl : c ∈ l := (List.mem_cons.mp hc).resolve_left fun h => ha h.symm
        have ih := ih hnodup hl
        simp only [total] at ih
        by_cases hheld : held a
        · simp [total, Function.update_of_ne ha, hheld, ih, Nat.add_assoc]
        · simp [total, Function.update_of_ne ha, hheld, ih]

variable (cost) in
theorem total_update_false (hnodup : copies.Nodup) {held : κ → Bool} {c : κ} (hc : c ∈ copies)
    (hheld : held c = true) :
    total copies cost (Function.update held c false) + cost c = total copies cost held := by
  have hback : Function.update (Function.update held c false) c true = held := by
    simp [← hheld]
  rw [← total_update_true cost hnodup hc (by simp), hback]

omit [DecidableEq κ] in
theorem countP_eq_total (held : κ → Bool) : copies.countP held = total copies (fun _ => 1) held := by
  simp [total, List.countP_eq_length_filter]

omit [DecidableEq κ] in
theorem total_eq_zero {held : κ → Bool} (hnone : ∀ c ∈ copies, ¬ held c) :
    total copies cost held = 0 := by
  rw [total, List.filter_eq_nil_iff.mpr hnone, List.map_nil, List.sum_nil]

omit [DecidableEq κ] in
theorem total_flatMap {ι : Type*} (l : List ι) (part : ι → List κ) (cost : κ → Nat)
    (held : κ → Bool) :
    total (l.flatMap part) cost held = (l.map fun i => total (part i) cost held).sum := by
  induction l with
  | nil => rfl
  | cons i l ih =>
      rw [List.map_cons, List.sum_cons, ← ih]
      simp [total]

omit [DecidableEq κ] in
theorem total_const {cost : κ → Nat} {held : κ → Bool} {n : Nat} (h : ∀ c ∈ copies, cost c = n) :
    total copies cost held = copies.countP held * n := by
  have hmap : (copies.filter held).map cost = List.replicate (copies.filter held).length n := by
    apply List.eq_replicate_iff.mpr
    refine ⟨by simp, ?_⟩
    intro x hx
    obtain ⟨c, hc, rfl⟩ := List.mem_map.mp hx
    exact h c (List.mem_of_mem_filter hc)
  rw [total, hmap, List.sum_replicate, smul_eq_mul, List.countP_eq_length_filter]

omit [DecidableEq κ] in
theorem total_mono {held held' : κ → Bool} (hle : ∀ c ∈ copies, held c → held' c) :
    total copies cost held ≤ total copies cost held' := by
  have hsub : copies.filter held = (copies.filter held').filter held := by
    rw [List.filter_filter]
    apply List.filter_congr
    intro c hc
    cases h : held c with
    | false => simp
    | true => simp [hle c hc h]
  rw [total, hsub]
  exact (List.filter_sublist.map cost).sum_le_sum fun _ _ => Nat.zero_le _

/-- The running sum is what the flagged copies cost. -/
def Counted (copies : List κ) (cost : κ → Nat) (s : Shared κ) : Prop :=
  s.committed = total copies cost s.held

omit [DecidableEq κ] in
theorem totalUpTo_le (held : κ → Bool) (n : Nat) :
    totalUpTo copies order cost held n ≤ total copies cost held := by
  apply total_mono
  intro c _ h
  exact (Bool.and_eq_true_iff.mp h).1

theorem counted_drop (hnodup : copies.Nodup) {s : Shared κ} {c : κ} (hc : c ∈ copies)
    (hheld : s.held c = true) (h : Counted copies cost s) :
    Counted copies cost (s.drop cost c) := by
  have := total_update_false cost hnodup hc hheld
  simp only [Counted, Shared.drop] at h ⊢
  omega

theorem counted_take (hnodup : copies.Nodup) {s : Shared κ} {c : κ} (hc : c ∈ copies)
    (hfree : s.held c = false) (h : Counted copies cost s) :
    Counted copies cost (s.take cost c) := by
  have := total_update_true cost hnodup hc hfree
  simp only [Counted, Shared.take] at h ⊢
  omega

/-! ### The loops -/

variable (order budget) in
/-- What the release loop leaves, when every flagged copy may be released: the rest fits, nothing is
flagged anew, and a copy stays flagged with which those before it fit. -/
theorem release_spec (hnodup : copies.Nodup) (releasable : κ → Bool) (n : Nat) {s : Shared κ}
    (hcounted : Counted copies cost s) (hreleasable : ∀ c ∈ copies, s.held c → releasable c)
    (hfuel : copies.countP s.held ≤ n) :
    let s' := release copies order cost budget releasable n s
    Counted copies cost s' ∧ s'.committed ≤ budget ∧ (∀ c, s'.held c → s.held c) ∧
      ∀ c ∈ copies, s.held c → totalUpTo copies order cost s.held (order c) ≤ budget → s'.held c := by
  induction n generalizing s with
  | zero =>
      have hnone : ∀ c ∈ copies, ¬ s.held c := by
        rwa [Nat.le_zero, List.countP_eq_zero] at hfuel
      have hzero : s.committed = 0 := hcounted.trans (total_eq_zero hnone)
      refine ⟨hcounted, ?_, fun c hc => hc, fun c _ hc _ => hc⟩
      rw [release, hzero]
      exact Nat.zero_le _
  | succ n ih =>
      by_cases hfits : s.committed ≤ budget
      · simp only [release, hfits, if_true]
        exact ⟨hcounted, trivial, fun c hc => hc, fun c _ hc _ => hc⟩
      · simp only [release, hfits, if_false]
        have hscan := isLast_last copies order fun c => s.held c && releasable c
        cases hlast : last copies order fun c => s.held c && releasable c with
        | none =>
            -- nothing is flagged, so nothing is committed
            rw [hlast] at hscan
            have hnone : ∀ d ∈ copies, ¬ s.held d := by
              intro d hd hheld
              exact hscan d hd (by simp [hheld, hreleasable d hd hheld])
            have hzero : s.committed = 0 := hcounted.trans (total_eq_zero hnone)
            omega
        | some e =>
            rw [hlast] at hscan
            obtain ⟨he, heligible, hmax⟩ := hscan
            have hheld : s.held e = true := (Bool.and_eq_true_iff.mp heligible).1
            have hsub : ∀ c, (s.drop cost e).held c → s.held c := by
              intro c hc
              by_cases hce : c = e
              · exact hce ▸ hheld
              · simpa [Shared.drop, Function.update_of_ne hce] using hc
            have hcount : copies.countP (s.drop cost e).held < copies.countP s.held := by
              rw [countP_eq_total, countP_eq_total, ← total_update_false _ hnodup he hheld]
              exact Nat.lt_succ_self _
            obtain ⟨hcounted', hbudget, hold, hkeep⟩ := ih (counted_drop hnodup he hheld hcounted)
              (fun c hc h => hreleasable c hc (hsub c h)) (by omega)
            refine ⟨hcounted', hbudget, fun c hc => hsub c (hold c hc), ?_⟩
            intro c hc hheldc hupTo
            have hne : c ≠ e := by
              rintro rfl
              -- the last in line goes only when what is up to it, everything, does not fit
              have hall : total copies cost s.held ≤ totalUpTo copies order cost s.held (order c) := by
                apply total_mono
                intro d hd hheldd
                simp [hheldd, hmax d hd (by simp [hheldd, hreleasable d hd hheldd])]
              simp only [Counted] at hcounted
              omega
            apply hkeep c hc
            · simpa [Shared.drop, Function.update_of_ne hne] using hheldc
            · refine le_trans (total_mono ?_) hupTo
              intro d _ hd
              obtain ⟨hd, hle⟩ := Bool.and_eq_true_iff.mp hd
              simp [hsub d hd, hle]

variable (order budget) in
/-- What the admission loop leaves: what was flagged stays so, the rest still fits, and a copy that
may be admitted is left out only when it no longer fits. -/
theorem grant_spec (hnodup : copies.Nodup) (bound : Nat) (admissible : κ → Bool) (n : Nat)
    {s : Shared κ} (hcounted : Counted copies cost s) (hbudget : s.committed ≤ budget)
    (hfuel : (copies.countP fun c => !s.held c) ≤ n) :
    let s' := grant copies order cost budget bound admissible n s
    Counted copies cost s' ∧ s'.committed ≤ budget ∧ (∀ c, s.held c → s'.held c) ∧
      ∀ c ∈ copies, ¬ s'.held c → admissible c → order c < bound → budget < s'.committed + cost c := by
  induction n generalizing s with
  | zero =>
      refine ⟨hcounted, hbudget, fun c hc => hc, ?_⟩
      intro c hc hfree
      rw [Nat.le_zero, List.countP_eq_zero] at hfuel
      exact absurd (by simpa [grant] using hfree) (hfuel c hc)
  | succ n ih =>
      have hscan := isFirst_first copies order
        (fun c => !s.held c && admissible c && fits cost budget s c) bound
      cases hfirst : first copies order bound
          (fun c => !s.held c && admissible c && fits cost budget s c) with
      | none =>
          rw [hfirst] at hscan
          simp only [grant, hfirst]
          refine ⟨hcounted, hbudget, fun c hc => hc, ?_⟩
          intro c hc hfree hadm hlt
          by_contra hfits
          have hle := hscan c hc (by simp [hfree, hadm, fits, Nat.le_of_not_lt hfits])
          omega
      | some e =>
          rw [hfirst] at hscan
          obtain ⟨he, heligible⟩ := hscan
          obtain ⟨hfreeAdm, hfits⟩ := Bool.and_eq_true_iff.mp heligible
          have hfree : s.held e = false := by
            simpa using (Bool.and_eq_true_iff.mp hfreeAdm).1
          have hgrow : ∀ c, s.held c → (s.take cost e).held c := by
            intro c hc
            have hne : c ≠ e := by
              rintro rfl
              simp [hfree] at hc
            simpa [Shared.take, Function.update_of_ne hne] using hc
          have hcount : (copies.countP fun c => !(s.take cost e).held c) <
              copies.countP fun c => !s.held c := by
            have hflip : (fun c => !(s.take cost e).held c) =
                Function.update (fun c => !s.held c) e false := by
              funext c
              by_cases hce : c = e
              · simp [hce, Shared.take]
              · simp [Shared.take, Function.update_of_ne hce]
            have hdrop : copies.countP (Function.update (fun c => !s.held c) e false) + 1 =
                copies.countP fun c => !s.held c := by
              rw [countP_eq_total, countP_eq_total]
              exact total_update_false (fun _ => 1) hnodup he (by simp [hfree])
            rw [hflip]
            omega
          simp only [grant, hfirst]
          obtain ⟨hcounted', hbudget', hold, hfull⟩ := ih (counted_take hnodup he hfree hcounted)
            (by simpa [fits, Shared.take] using hfits) (by omega)
          exact ⟨hcounted', hbudget', fun c hc => hold c (hgrow c hc), hfull⟩

variable (copies order cost budget) in
theorem share_spec (hnodup : copies.Nodup) (releasable : κ → Bool) (bound : Nat)
    (admissible held : κ → Bool) (hreleasable : ∀ c ∈ copies, held c → releasable c) :
    let s := share copies order cost budget releasable bound admissible held
    total copies cost s.held ≤ budget ∧
      (∀ c ∈ copies, held c → totalUpTo copies order cost held (order c) ≤ budget → s.held c) ∧
      ∀ c ∈ copies, ¬ s.held c → admissible c → order c < bound →
        budget < total copies cost s.held + cost c := by
  intro s
  have hstart : Counted copies cost ⟨held, total copies cost held⟩ := rfl
  obtain ⟨hcounted, hbudget, -, hkeep⟩ := release_spec order budget hnodup releasable copies.length
    hstart hreleasable List.countP_le_length
  obtain ⟨hcounted', hbudget', hgrow, hfull⟩ := grant_spec order budget hnodup bound admissible
    copies.length hcounted hbudget List.countP_le_length
  have htotal : s.committed = total copies cost s.held := hcounted'
  refine ⟨htotal ▸ hbudget', ?_, ?_⟩
  · intro c hc hheld hupTo
    exact hgrow c (hkeep c hc hheld hupTo)
  · intro c hc hfree hadm hlt
    exact htotal ▸ hfull c hc hfree hadm hlt

end

end BudgetShare
