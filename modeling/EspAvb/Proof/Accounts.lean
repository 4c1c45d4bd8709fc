import EspAvb.Proof.Tables

/-!
# What a table sums up to

The aggregates of the admission are kept beside the entries they count. A sum over all entries of all
ports moves with one slot at a time, and a write that keeps accounts keeps every sum.
-/

namespace EspAvb

open Relation

variable {cfg : Config}

/-! ### Sums over the talker entries -/

/-- The weight of a slot; an empty one weighs nothing. -/
def slotWeight (weight : MsrpTalkerEntry cfg → Nat) (slot : Option (MsrpTalkerEntry cfg)) : Nat :=
  (slot.map weight).getD 0

/-- A weight summed over every talker entry of every port. -/
def talkerSum (weight : MsrpTalkerEntry cfg → Nat) (s : AvbState cfg) : Nat :=
  ∑ p, ∑ i, slotWeight weight (s.talkers p i)

section Sums

variable {weight : MsrpTalkerEntry cfg → Nat} {s s' : AvbState cfg}

theorem talkerSum_congr (h : ∀ p i, slotWeight weight (s'.talkers p i)
    = slotWeight weight (s.talkers p i)) : talkerSum weight s' = talkerSum weight s := by
  unfold talkerSum
  exact Finset.sum_congr rfl fun p _ => Finset.sum_congr rfl fun i _ => h p i

theorem talkerSum_mono {weight' : MsrpTalkerEntry cfg → Nat}
    (h : ∀ p i e, s.talkers p i = some e → weight e ≤ weight' e) :
    talkerSum weight s ≤ talkerSum weight' s := by
  refine Finset.sum_le_sum fun p _ => Finset.sum_le_sum fun i _ => ?_
  cases he : s.talkers p i with
  | none => exact le_refl _
  | some e => exact h p i e he

theorem talkerSum_add (weight weight' : MsrpTalkerEntry cfg → Nat) :
    talkerSum (fun e => weight e + weight' e) s = talkerSum weight s + talkerSum weight' s := by
  unfold talkerSum
  rw [← Finset.sum_add_distrib]
  refine Finset.sum_congr rfl fun p _ => ?_
  rw [← Finset.sum_add_distrib]
  refine Finset.sum_congr rfl fun i _ => ?_
  cases s.talkers p i <;> rfl

/-- Writing one slot moves the sum by that slot's change. -/
theorem talkerSum_setTalker (weight : MsrpTalkerEntry cfg → Nat) (s : AvbState cfg) (p : cfg.Port) (i : TalkerRef cfg) (e : Option (MsrpTalkerEntry cfg)) :
    talkerSum weight (s.setTalker p i e) + slotWeight weight (s.talkers p i)
      = talkerSum weight s + slotWeight weight e := by
  unfold talkerSum
  rw [← Finset.add_sum_erase _ _ (Finset.mem_univ p), ← Finset.add_sum_erase _ _ (Finset.mem_univ p)]
  have hrest : ∀ q ∈ Finset.univ.erase p, (∑ j, slotWeight weight ((s.setTalker p i e).talkers q j))
      = ∑ j, slotWeight weight (s.talkers q j) := by
    intro q hq
    rw [setTalker_talkers, if_neg (Finset.ne_of_mem_erase hq)]
  have hport := SlotTable.sum_set (s.talkers p) (slotWeight weight) i e
  rw [Finset.sum_congr rfl hrest]
  simp only [setTalker_talkers, if_pos]
  omega

theorem talkerSum_modifyTalker {p : cfg.Port} {i : TalkerRef cfg} {e : MsrpTalkerEntry cfg}
    (he : s.talkers p i = some e) (f : MsrpTalkerEntry cfg → MsrpTalkerEntry cfg) :
    talkerSum weight (s.modifyTalker p i f) + weight e = talkerSum weight s + weight (f e) := by
  have hset : talkerSum weight (s.modifyTalker p i f) + _ = _ :=
    talkerSum_setTalker weight s p i ((s.talkers p i).map f)
  rwa [he] at hset

end Sums

/-! ### Writes and sums -/

/-- A weight that reads an entry's account alone. -/
structure AccountWeight (weight : MsrpTalkerEntry cfg → Nat) : Prop where
  account : ∀ e e', e'.account = e.account → weight e' = weight e
  fresh : ∀ streamId attrType, weight (.fresh streamId attrType) = 0

section Writes

variable {P : cfg.Port → Prop} {R : Prop} {weight : MsrpTalkerEntry cfg → Nat} {s s' : AvbState cfg}

/-- Taking a slot away from its entry takes the entry's weight out of the sum. -/
theorem talkerSum_replace {p : cfg.Port} {i : TalkerRef cfg} {e : Option (MsrpTalkerEntry cfg)}
    (hnew : slotWeight weight e = 0) :
    talkerSum weight (s.setTalker p i e) ≤ talkerSum weight s
      ∧ (slotWeight weight (s.talkers p i) = 0 →
          talkerSum weight (s.setTalker p i e) = talkerSum weight s) := by
  have hset := talkerSum_setTalker weight s p i e
  omega

/-- A write raises no sum, and lowers one only by an idle entry it takes away. -/
theorem TableWrite.sums (hweight : AccountWeight weight) (h : TableWrite P R s s') :
    talkerSum weight s' ≤ talkerSum weight s
      ∧ ((∀ p i e, P p → s.talkers p i = some e → mrpSmIdle e.sm = true → weight e = 0) →
          talkerSum weight s' = talkerSum weight s) := by
  have heq : talkerSum weight s' = talkerSum weight s →
      talkerSum weight s' ≤ talkerSum weight s
      ∧ ((∀ p i e, P p → s.talkers p i = some e → mrpSmIdle e.sm = true → weight e = 0) →
          talkerSum weight s' = talkerSum weight s) :=
    fun h => ⟨h.le, fun _ => h⟩
  have hset : ∀ {s1 : AvbState cfg} {p : cfg.Port} {i : TalkerRef cfg} {e e' : MsrpTalkerEntry cfg},
      s1.talkers = s.talkers → s.talkers p i = some e → e'.account = e.account →
      talkerSum weight (s1.setTalker p i (some e')) = talkerSum weight s := by
    intro s1 p i e e' htalkers he haccount
    have hsame : talkerSum weight s1 = talkerSum weight s :=
      talkerSum_congr fun q j => by rw [htalkers]
    have hmove := talkerSum_setTalker weight s1 p i (some e')
    have hentry := hweight.account e e' haccount
    rw [htalkers, he] at hmove
    simp only [slotWeight, Option.map_some, Option.getD_some] at hmove
    omega
  cases h with
  | frame h =>
      apply heq
      exact talkerSum_congr fun q j => by rw [h.talkers]
  | @talkers p t hport h =>
      apply heq
      apply talkerSum_congr
      intro q j
      by_cases hq : q = p
      · subst hq
        simp only [Function.update_self]
        have hslot := h j
        revert hslot
        generalize s.talkers q j = a, t j = b
        intro hslot
        cases hslot with
        | none => rfl
        | some hwrite => exact hweight.account _ _ hwrite.account
      · simp only [Function.update_of_ne hq]
  | receiveTalker _ hport he haccount hsm => exact heq (hset rfl he haccount)
  | withdrawTalker hport he haccount hsm => exact heq (hset rfl he haccount)
  | leaveTalker hport he haccount hsm => exact heq (hset rfl he haccount)
  | resetTalker hport he hlogged haccount hsm => exact heq (hset rfl he haccount)
  | @insertTalker p i streamId attrType hport hplace hnew =>
      obtain ⟨hle, hsame⟩ := talkerSum_replace (s := s) (p := p) (i := i)
        (e := some (.fresh streamId attrType)) (hweight.fresh streamId attrType)
      refine ⟨hle, fun hidle => hsame ?_⟩
      obtain hnone | ⟨e, he, hreuse⟩ := hplace
      · rw [hnone]
        rfl
      · rw [he]
        exact hidle p i e hport he (msrpTalkerReusable_iff.mp hreuse).1
  | @dropTalker p i e hport he hidle =>
      obtain ⟨hle, hsame⟩ := talkerSum_replace (s := s) (p := p) (i := i) (e := none) rfl
      refine ⟨hle, fun hweightless => hsame ?_⟩
      rw [he]
      exact hweightless p i e hport he hidle
  | _ => exact heq rfl

/-- Every entry after a write has the account it had, or none: it is fresh. A write takes the Registrar
to MT only for a new value, and writes that down. -/
theorem TableWrite.origin (h : TableWrite P R s s') {p : cfg.Port} {i : TalkerRef cfg}
    {e' : MsrpTalkerEntry cfg} (he' : s'.talkers p i = some e') :
    (∃ e, s.talkers p i = some e ∧ e'.account = e.account
        ∧ (e'.sm.registrar = .MT → e.sm.registrar = .MT
          ∨ ∃ logged, .valueReset p logged ∈ s'.log ∧ logged.account = e.account))
      ∨ ∃ streamId attrType, e' = .fresh streamId attrType := by
  -- a set slot holds the new entry, every other one what it held
  have hset : ∀ {s1 : AvbState cfg} {q : cfg.Port} {j : TalkerRef cfg} {e new : MsrpTalkerEntry cfg},
      s1.talkers = s.talkers → s.talkers q j = some e → new.account = e.account →
      (new.sm.registrar = .MT → e.sm.registrar = .MT
        ∨ ∃ logged, .valueReset q logged ∈ s'.log ∧ logged.account = e.account) →
      (s1.setTalker q j (some new)).talkers p i = some e' →
      ∃ e, s.talkers p i = some e ∧ e'.account = e.account
        ∧ (e'.sm.registrar = .MT → e.sm.registrar = .MT
          ∨ ∃ logged, .valueReset p logged ∈ s'.log ∧ logged.account = e.account) := by
    intro s1 q j e new htalkers he haccount hregistrar hslot
    rw [setTalker_apply] at hslot
    split at hslot
    · rename_i hkey
      obtain ⟨rfl, rfl⟩ := hkey
      cases hslot
      exact ⟨e, he, haccount, hregistrar⟩
    · rw [htalkers] at hslot
      exact ⟨e', hslot, rfl, Or.inl⟩
  cases h with
  | frame h =>
      rw [h.talkers] at he'
      exact Or.inl ⟨e', he', rfl, Or.inl⟩
  | @talkers q t hport h =>
      left
      by_cases hp : p = q
      · subst hp
        simp only [Function.update_self] at he'
        obtain ⟨e, he, hwrite⟩ := h.origin he'
        exact ⟨e, he, hwrite.account, fun hmt => Or.inl (hwrite.sm.registrar hmt)⟩
      · simp only [Function.update_of_ne hp] at he'
        exact ⟨e', he', rfl, Or.inl⟩
  | receiveTalker _ hport he haccount hsm =>
      exact Or.inl (hset rfl he haccount (fun hmt => Or.inl (hsm.registrar hmt)) he')
  | withdrawTalker hport he haccount hsm =>
      refine Or.inl (hset rfl he haccount ?_ he')
      intro hmt
      rw [hsm, mrpWithdrawStep_registrar] at hmt
      exact Or.inl hmt
  | leaveTalker hport he haccount hsm =>
      refine Or.inl (hset rfl he haccount ?_ he')
      intro hmt
      rw [hsm] at hmt
      exact Or.inl (mrpSmStep_rLv_mt hmt)
  | @resetTalker q j e logged new hport he hlogged haccount hsm =>
      refine Or.inl (hset rfl he haccount ?_ he')
      intro hmt
      exact Or.inr ⟨logged, List.mem_cons_self, hlogged⟩
  | @insertTalker q j streamId attrType hport hplace hnew =>
      rw [setTalker_apply] at he'
      split at he'
      · cases he'
        exact Or.inr ⟨streamId, attrType, rfl⟩
      · exact Or.inl ⟨e', he', rfl, Or.inl⟩
  | @dropTalker q j e hport he hidle =>
      rw [setTalker_apply] at he'
      split at he'
      · cases he'
      · exact Or.inl ⟨e', he', rfl, Or.inl⟩
  | _ => exact Or.inl ⟨e', he', rfl, Or.inl⟩

theorem TableWrite.admission (h : TableWrite P R s s') : s'.admission = s.admission := by
  cases h with
  | frame h => exact h.admission
  | _ => rfl

end Writes

/-! ### Reservations -/

section Reserve

variable {s : AvbState cfg} {p y : cfg.Port} {i : TalkerRef cfg} {e : MsrpTalkerEntry cfg}

theorem setAdmitted_admission (s : AvbState cfg) (y y' : cfg.Port) (cls cls' : AvbSrClass)
    (bps : UInt32) : (s.setAdmitted y cls bps).admission y' cls'
      = if y' = y ∧ cls' = cls then { s.admission y cls with admittedBps := bps }
        else s.admission y' cls' := by
  unfold AvbState.setAdmitted
  dsimp only
  by_cases hy : y' = y
  · subst hy
    rw [Function.update_self]
    by_cases hcls : cls' = cls
    · subst hcls
      rw [Function.update_self, if_pos ⟨rfl, rfl⟩]
    · rw [Function.update_of_ne hcls, if_neg (fun h => hcls h.2)]
  · rw [Function.update_of_ne hy, if_neg (fun h => hy h.1)]

/-- What a release gives back: the entry's own reservation, as far as the aggregate reaches. -/
theorem releaseAdmission_admission (he : s.talkers p i = some e) (y' : cfg.Port)
    (cls : AvbSrClass) :
    ((msrpReleaseAdmission s p (some i) y).admission y' cls).admittedBps.toNat
        = (s.admission y' cls).admittedBps.toNat
          - (if y' = y ∧ cls = e.admittedClass y then (e.admittedBps y).toNat else 0)
      ∧ ((msrpReleaseAdmission s p (some i) y).admission y' cls).capBps
        = (s.admission y' cls).capBps := by
  by_cases hzero : e.admittedBps y = 0
  · have hsame : (msrpReleaseAdmission s p (some i) y).admission = s.admission := by
      simp only [msrpReleaseAdmission, he, if_pos hzero]
      rfl
    rw [hsame, hzero]
    exact ⟨by simp, rfl⟩
  · have hsame : (msrpReleaseAdmission s p (some i) y).admission
        = (avbSrpAdmissionRelease s y (e.admittedClass y) (e.admittedBps y)).admission := by
      simp only [msrpReleaseAdmission, he, if_neg hzero]
      rfl
    rw [hsame]
    unfold avbSrpAdmissionRelease
    dsimp only
    rw [setAdmitted_admission]
    by_cases hkey : y' = y ∧ cls = e.admittedClass y
    · obtain ⟨rfl, rfl⟩ := hkey
      simp only [and_self, if_true]
      refine ⟨?_, trivial⟩
      split
      · rename_i hlt
        rw [UInt32.toNat_sub_of_le _ _ (UInt32.le_of_lt hlt)]
      · rename_i hle
        have hle' : (s.admission y' (e.admittedClass y')).admittedBps.toNat
            ≤ (e.admittedBps y').toNat := UInt32.not_lt.mp hle
        simp only [UInt32.toNat_zero]
        omega
    · rw [if_neg hkey, if_neg hkey]
      exact ⟨rfl, rfl⟩

theorem releaseAdmission_talkers (he : s.talkers p i = some e) :
    (msrpReleaseAdmission s p (some i) y).talkers
      = (s.setTalker p i (some (e.release y))).talkers := by
  unfold msrpReleaseAdmission
  simp only [he]
  split <;> rfl

theorem releaseAdmission_empty (he : s.talkers p i = none) :
    msrpReleaseAdmission s p (some i) y = s := by
  simp only [msrpReleaseAdmission, he]

/-- The two ways a request is granted: it was held already, or the class takes it. -/
theorem msrpRequest_granted {info : TalkerAdvInfo} {s' : AvbState cfg}
    (h : msrpRequest s p i y info = (true, s')) :
    let cls := avbSrClassOf info.priority
    let bps := tspecBps cls info.tspecMaxFrameSize.toNat info.tspecMaxFrameInterval.toNat
    let r := msrpReleaseAdmission s p (some i) y
    ∃ e, s.talkers p i = some e
      ∧ ((s' = s ∧ e.admittedBps y = bps ∧ e.admittedClass y = cls)
        ∨ ((r.admission y cls).admittedBps + bps ≤ (r.admission y cls).capBps
          ∧ s' = (r.setAdmitted y cls ((r.admission y cls).admittedBps + bps)).setTalker p i
              (some ((e.release y).reserve y cls bps)))) := by
  intro cls bps r
  unfold msrpRequest msrpUpdateAdmission at h
  dsimp only at h
  cases he : s.talkers p i with
  | none => simp only [he, Prod.mk.injEq, Bool.false_eq_true, false_and] at h
  | some e =>
      refine ⟨e, rfl, ?_⟩
      simp only [he] at h
      split at h
      · rename_i hheld
        cases h
        exact Or.inl ⟨rfl, hheld.1, hheld.2.2⟩
      · right
        have hslot : r.talkers p i = some (e.release y) := by
          rw [releaseAdmission_talkers he]
          simp
        split at h
        · cases h
        · rename_i s1 hasked
          cases h
          unfold avbSrpAdmissionTryAdmit at hasked
          dsimp only at hasked
          split at hasked
          · cases hasked
          · split at hasked
            · cases hasked
            · rename_i hfits
              cases hasked
              refine ⟨UInt32.not_lt.mp hfits, ?_⟩
              have hslot' : (AvbState.setAdmitted r y cls
                  ((r.admission y cls).admittedBps + bps)).talkers p i = some (e.release y) := hslot
              rw [AvbState.modifyTalker, hslot', Option.map_some]

end Reserve

end EspAvb
