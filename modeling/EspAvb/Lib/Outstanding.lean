import Mathlib.Tactic

/-!
# A list of outstanding requests

Requests wait in a list until an answer or their expiry ends them. Ending one removes the first that
carries its tag, which is the right one only if no other carries that tag before it. These are the
conditions under which an answer, and a sweep over the expired, remove what they are to remove and
nothing else.
-/

namespace Outstanding

variable {α : Type*}

/-- Removing the first with the tag takes out exactly the answered ones, of which there is at most
one, when the first with the tag is answered. -/
theorem eraseP_eq_filter_iff {tagged answered : α → Bool} (htag : ∀ a, answered a → tagged a)
    {requests : List α} (hone : requests.countP answered ≤ 1) :
    requests.eraseP tagged = requests.filter (!answered ·) ↔
      ∀ a, requests.find? tagged = some a → answered a := by
  induction requests with
  | nil => simp
  | cons a rest ih =>
      cases htagged : tagged a with
      | true =>
          cases hanswered : answered a with
          | true =>
              have hnone : ∀ b ∈ rest, answered b = false := by
                have hrest : rest.countP answered = 0 := by
                  rw [List.countP_cons_of_pos hanswered] at hone
                  omega
                simpa [List.countP_eq_zero] using hrest
              have hkeep : rest.filter (!answered ·) = rest :=
                List.filter_eq_self.mpr fun b hb => by simp [hnone b hb]
              simp [htagged, hanswered, hkeep]
          | false =>
              have hne : rest ≠ a :: rest.filter (!answered ·) := by
                intro heq
                have hcount := congrArg (List.countP (!answered ·)) heq
                rw [List.countP_cons_of_pos (by simp [hanswered]), List.countP_filter] at hcount
                simp only [Bool.and_self] at hcount
                omega
              simp [htagged, hanswered, hne]
      | false =>
          have hanswered : answered a = false := by
            cases h : answered a with
            | true => rw [htag a h] at htagged; cases htagged
            | false => rfl
          rw [List.countP_cons_of_neg (by simp [hanswered])] at hone
          simp [htagged, hanswered, ih hone]

/-! ### Sweeping out the expired -/

variable (expired : α → Bool) (tag : α → α → Bool)

/-- From index `i` on: an expired request is ended by its tag, and the index stays; any other is
passed. -/
def sweepFrom : Nat → Nat → List α → List α
  | 0, _, requests => requests
  | rounds + 1, i, requests =>
      match requests[i]? with
      | none => requests
      | some a =>
          if expired a then sweepFrom rounds i (requests.eraseP (tag a))
          else sweepFrom rounds (i + 1) requests

theorem sweepFrom_sublist (rounds i : Nat) (requests : List α) :
    (sweepFrom expired tag rounds i requests).Sublist requests := by
  induction rounds generalizing i requests with
  | zero => exact List.Sublist.refl requests
  | succ rounds ih =>
      unfold sweepFrom
      split
      · exact List.Sublist.refl requests
      · split_ifs
        · exact (ih i _).trans List.eraseP_sublist
        · exact ih (i + 1) requests

variable {expired tag}

/-- No live request with an expired one's tag waits before it. -/
def SweepsClean (expired : α → Bool) (tag : α → α → Bool) (requests : List α) : Prop :=
  requests.Pairwise fun a b => expired b → tag b a → expired a

instance (requests : List α) : Decidable (SweepsClean expired tag requests) :=
  inferInstanceAs (Decidable (List.Pairwise _ _))

theorem countP_eraseP_lt {p q : α → Bool} {requests : List α} {a : α}
    (hfirst : requests.find? p = some a) (ha : q a) :
    (requests.eraseP p).countP q < requests.countP q := by
  induction requests with
  | nil => cases hfirst
  | cons b rest ih =>
      cases hb : p b with
      | true =>
          rw [List.find?_cons_of_pos hb, Option.some.injEq] at hfirst
          subst hfirst
          rw [List.eraseP_cons_of_pos hb, List.countP_cons_of_pos ha]
          exact Nat.lt_succ_self _
      | false =>
          have hneg : ¬p b = true := by simp [hb]
          rw [List.find?_cons_of_neg hneg] at hfirst
          rw [List.eraseP_cons_of_neg hneg, List.countP_cons, List.countP_cons]
          exact Nat.add_lt_add_right (ih hfirst) _

variable (expired tag) in
/-- The sweep past a live prefix. -/
theorem sweepFrom_eq_filter_iff_of_prefix (htag : ∀ a, tag a a) (rest : List α) :
    ∀ (live : List α) (rounds : Nat), rest.length ≤ rounds → (∀ a ∈ live, expired a = false) →
      (sweepFrom expired tag rounds live.length (live ++ rest) = live ++ rest.filter (!expired ·) ↔
        (∀ b ∈ rest, expired b → ∀ a ∈ live, tag b a = false) ∧ SweepsClean expired tag rest) := by
  induction rest with
  | nil =>
      intro live rounds _ _
      cases rounds <;> simp [sweepFrom, SweepsClean]
  | cons b rest ih =>
      intro live rounds hrounds hlive
      obtain ⟨rounds, rfl⟩ : ∃ k, rounds = k + 1 := ⟨rounds - 1, by simp at hrounds; omega⟩
      have hrounds : rest.length ≤ rounds := by simpa using hrounds
      have hat : (live ++ b :: rest)[live.length]? = some b := by simp
      unfold sweepFrom
      rw [hat]
      dsimp only
      cases hb : expired b with
      | false =>
          have hshift : live ++ b :: rest = (live ++ [b]) ++ rest := by simp
          have hlen : live.length + 1 = (live ++ [b]).length := by simp
          have hlive' : ∀ a ∈ live ++ [b], expired a = false := by
            intro a ha
            rcases List.mem_append.mp ha with h | h
            · exact hlive a h
            · rw [List.mem_singleton.mp h]
              exact hb
          rw [if_neg Bool.false_ne_true, hshift, hlen,
            show live ++ List.filter (!expired ·) (b :: rest) =
              (live ++ [b]) ++ rest.filter (!expired ·) by simp [hb], ih _ _ hrounds hlive']
          simp only [SweepsClean, List.pairwise_cons, List.mem_append, List.mem_cons]
          constructor
          · rintro ⟨hbefore, hclean⟩
            refine ⟨?_, ?_, hclean⟩
            · rintro c (rfl | hc) hexpired a ha
              · rw [hb] at hexpired
                cases hexpired
              · exact hbefore c hc hexpired a (Or.inl ha)
            · intro c hc hexpired htagged
              rw [hbefore c hc hexpired b (Or.inr (by simp))] at htagged
              cases htagged
          · rintro ⟨hbefore, hhead, hclean⟩
            refine ⟨?_, hclean⟩
            rintro c hc hexpired a (ha | ha)
            · exact hbefore c (Or.inr hc) hexpired a ha
            · have hab : a = b := by simpa using ha
              subst hab
              by_contra htagged
              have hlate := hhead c hc hexpired (by simpa using htagged)
              rw [hb] at hlate
              cases hlate
      | true =>
          rw [if_pos rfl]
          by_cases hclash : ∃ a ∈ live, tag b a = true
          · -- a live request is ended: the sweep cannot come out with all of them
            obtain ⟨a, ha, htagged⟩ := hclash
            obtain ⟨first, hfirst⟩ : ∃ c, live.find? (tag b) = some c :=
              Option.isSome_iff_exists.mp (List.find?_isSome.mpr ⟨a, ha, htagged⟩)
            have hlost : ((live ++ b :: rest).eraseP (tag b)).countP (!expired ·) <
                (live ++ b :: rest).countP (!expired ·) :=
              countP_eraseP_lt (a := first) (by simp [hfirst])
                (by simp [hlive first (List.mem_of_find?_eq_some hfirst)])
            constructor
            · intro heq
              have hsub : (live ++ (b :: rest).filter (!expired ·)).countP (!expired ·) ≤
                  ((live ++ b :: rest).eraseP (tag b)).countP (!expired ·) := by
                rw [← heq]
                exact (sweepFrom_sublist expired tag rounds live.length _).countP_le
              have hsame : (live ++ (b :: rest).filter (!expired ·)).countP (!expired ·) =
                  (live ++ b :: rest).countP (!expired ·) := by
                rw [List.countP_append, List.countP_append, List.countP_filter]
                simp
              omega
            · rintro ⟨hbefore, -⟩
              rw [hbefore b List.mem_cons_self hb a ha] at htagged
              cases htagged
          · push Not at hclash
            have herase : (live ++ b :: rest).eraseP (tag b) = live ++ rest := by
              rw [List.eraseP_append_right _ hclash, List.eraseP_cons_of_pos (htag b)]
            have hfilter : (b :: rest).filter (!expired ·) = rest.filter (!expired ·) := by
              simp [hb]
            rw [herase, hfilter, ih live rounds hrounds hlive]
            simp only [SweepsClean, List.pairwise_cons, List.mem_cons]
            constructor
            · rintro ⟨hbefore, hclean⟩
              refine ⟨?_, fun _ _ _ _ => hb, hclean⟩
              rintro c (rfl | hc) hexpired a ha
              · simpa using hclash a ha
              · exact hbefore c hc hexpired a ha
            · rintro ⟨hbefore, -, hclean⟩
              exact ⟨fun c hc => hbefore c (Or.inr hc), hclean⟩

/-- A sweep takes out exactly the expired when, and only when, the list sweeps clean. -/
theorem sweep_eq_filter_iff (htag : ∀ a, tag a a) (requests : List α) :
    sweepFrom expired tag requests.length 0 requests = requests.filter (!expired ·) ↔
      SweepsClean expired tag requests := by
  have h := sweepFrom_eq_filter_iff_of_prefix expired tag htag requests [] requests.length
    (Nat.le_refl _) (by simp)
  simpa using h

end Outstanding
