import EspAvb.Proof.Budget

/-!
# No reservation is lost, counted twice or given back twice

The aggregate of a class on a port is the sum of what the entries hold there. Between a change of a
Registrar and the end of its callback one entry may hold a reservation without a registration; for
every other entry, and for that one once the callback is over, reservations go with registrations.
-/

namespace EspAvb

open Relation

variable {cfg : Config}

/-! ### The invariant -/

/-- Where a reservation may be held, and where the snapshot of a propagation. -/
structure EntryPlaced (p : cfg.Port) (e : MsrpTalkerEntry cfg) : Prop where
  reserved : ∀ y, e.admittedBps y ≠ 0 → e.attrType ≠ .talkerFailed ∧ y ≠ p
    ∧ cfg.bridged y = true ∧ ¬ (cfg.wifiUnicastStreams = true ∧ cfg.wifi y = true)
  propagated : e.lastPropagatedPriority ≠ 0 → cfg.roleBridge = true ∧ cfg.bridged p = true

/-- What is reserved was propagated, and what was propagated is registered. -/
structure EntrySound (e : MsrpTalkerEntry cfg) : Prop where
  reserved : ∀ y, e.admittedBps y ≠ 0 → e.lastPropagatedPriority ≠ 0
  propagated : e.lastPropagatedPriority ≠ 0 → e.sm.registrar ≠ .MT

/-- The accounts balance; `open?` is the slot whose callback is under way. -/
structure Balanced (open? : Option (cfg.Port × TalkerRef cfg)) (s : AvbState cfg) : Prop where
  sum : ∀ y cls, talkerSum (MsrpTalkerEntry.classBps y cls) s
    = (s.admission y cls).admittedBps.toNat
  placed : ∀ p i e, s.talkers p i = some e → EntryPlaced p e
  sound : ∀ p i e, s.talkers p i = some e → open? ≠ some (p, i) → EntrySound e

/-- What the accounting asks of a step: a new value for no propagated registration, and no grant at
priority 0 or over a sum that wraps. -/
def MsrpLog.keepsBalance : MsrpLog cfg → Bool
  | .valueReset _ e => e.lastPropagatedPriority = 0
  | .admitted _ info before =>
      info.priority ≠ 0
        ∧ (before (avbSrClassOf info.priority)).admittedBps.toNat
            + (tspecBps (avbSrClassOf info.priority) info.tspecMaxFrameSize.toNat
              info.tspecMaxFrameInterval.toNat).toNat < 2 ^ 32
  | _ => true

def LogKeepsBalance (s : AvbState cfg) : Prop := ∀ entry ∈ s.log, entry.keepsBalance = true

theorem balanced_init (lite : Bool) : Balanced none (.init cfg lite) where
  sum y cls := by simp [talkerSum, AvbState.init, slotWeight, avbSrpAdmissionInit]
  placed _ _ _ he := by cases he
  sound _ _ _ he := by cases he

theorem EntryPlaced.of_account {p : cfg.Port} {e e' : MsrpTalkerEntry cfg} (h : EntryPlaced p e)
    (haccount : e'.account = e.account) : EntryPlaced p e' := by
  simp only [MsrpTalkerEntry.account, MsrpTalkerEntry.key, Prod.mk.injEq] at haccount
  obtain ⟨⟨-, htype⟩, hpriority, hbps, -, -⟩ := haccount
  constructor
  · intro y hy
    rw [htype]
    rw [hbps] at hy
    exact h.reserved y hy
  · rw [hpriority]
    exact h.propagated

theorem entryPlaced_fresh (p : cfg.Port) (streamId : UniqueId) (attrType : MsrpAttrType) :
    EntryPlaced p (.fresh streamId attrType) :=
  ⟨fun _ h => absurd rfl h, fun h => absurd rfl h⟩

theorem entrySound_fresh (streamId : UniqueId) (attrType : MsrpAttrType) :
    EntrySound (.fresh streamId attrType : MsrpTalkerEntry cfg) :=
  ⟨fun _ h => absurd rfl h, fun h => absurd rfl h⟩

theorem EntrySound.unregistered {e : MsrpTalkerEntry cfg} (h : EntrySound e)
    (hmt : e.sm.registrar = .MT) : e.lastPropagatedPriority = 0 ∧ ∀ y, e.admittedBps y = 0 := by
  have hpriority : e.lastPropagatedPriority = 0 := by
    by_contra hne
    exact h.propagated hne hmt
  refine ⟨hpriority, ?_⟩
  intro y
  by_contra hne
  exact h.reserved y hne hpriority

/-! ### Writes -/

section Writes

variable {P : cfg.Port → Prop} {s s' : AvbState cfg} {open? : Option (cfg.Port × TalkerRef cfg)}

/-- A write outside the port of the open slot keeps the balance. -/
theorem Balanced.write {R : Prop} (hs : Balanced open? s) (h : TableWrite P R s s')
    (hopen : ∀ p i, open? = some (p, i) → ¬ P p) (hlog : LogKeepsBalance s') :
    Balanced open? s' where
  sum y cls := by
    rw [(h.sums (classBps_weight y cls)).2, h.admission]
    · exact hs.sum y cls
    · intro p i e hport he hidle
      have hsound := hs.sound p i e he fun hp => hopen p i hp hport
      have hbps := (hsound.unregistered (mrpSmIdle_iff.mp hidle).1).2 y
      simp [MsrpTalkerEntry.classBps, hbps]
  placed p i e' he' := by
    obtain ⟨e, he, haccount, -⟩ | ⟨streamId, attrType, rfl⟩ := h.origin he'
    · exact (hs.placed p i e he).of_account haccount
    · exact entryPlaced_fresh p streamId attrType
  sound p i e' he' hclosed := by
    obtain ⟨e, he, haccount, hregistrar⟩ | ⟨streamId, attrType, rfl⟩ := h.origin he'
    · have hsound := hs.sound p i e he hclosed
      simp only [MsrpTalkerEntry.account, Prod.mk.injEq] at haccount
      obtain ⟨-, hpriority, hbps, -, -⟩ := haccount
      constructor
      · rw [hbps, hpriority]
        exact hsound.reserved
      · rw [hpriority]
        intro hne hmt
        obtain hmt' | ⟨logged, hmem, hlogged⟩ := hregistrar hmt
        · exact hsound.propagated hne hmt'
        · have hzero := hlog _ hmem
          simp only [MsrpLog.keepsBalance, decide_eq_true_eq] at hzero
          simp only [MsrpTalkerEntry.account, Prod.mk.injEq] at hlogged
          exact hne (hlogged.2.1.symm.trans hzero)
    · exact entrySound_fresh streamId attrType

theorem Writes.log_subset (h : Writes P s s') : s.log ⊆ s'.log := h.changes.mode.2.2

theorem Balanced.writes (hs : Balanced open? s) (h : Writes P s s')
    (hopen : ∀ p i, open? = some (p, i) → ¬ P p) (hlog : LogKeepsBalance s') :
    Balanced open? s' := by
  induction h with
  | refl => exact hs
  | tail hfirst hlast ih =>
      refine Balanced.write (ih ?_) hlast hopen hlog
      intro entry hentry
      exact hlog entry (Writes.log_subset (.single hlast) hentry)

end Writes

/-! ### Reservations of the open slot -/

section Reserve

variable {s : AvbState cfg} {p y : cfg.Port} {i : TalkerRef cfg} {e : MsrpTalkerEntry cfg}

theorem release_placed (h : EntryPlaced p e) (y : cfg.Port) : EntryPlaced p (e.release y) := by
  refine ⟨?_, h.propagated⟩
  intro y' hy'
  apply h.reserved y'
  intro hzero
  apply hy'
  unfold MsrpTalkerEntry.release
  by_cases hy : y' = y
  · subst hy
    simp
  · simpa [hy] using hzero

/-- A release takes as much from the aggregate as from the entries. -/
theorem Balanced.release (hs : Balanced (some (p, i)) s) (y : cfg.Port) :
    Balanced (some (p, i)) (msrpReleaseAdmission s p (some i) y) := by
  cases he : s.talkers p i with
  | none =>
      rw [releaseAdmission_empty he]
      exact hs
  | some e =>
      have hadmission := releaseAdmission_admission (y := y) he
      have htalkers := releaseAdmission_talkers (y := y) he
      constructor
      · intro y' cls
        have hsame : talkerSum (MsrpTalkerEntry.classBps y' cls) (msrpReleaseAdmission s p (some i) y)
            = talkerSum (MsrpTalkerEntry.classBps y' cls) (s.setTalker p i (some (e.release y))) :=
          talkerSum_congr fun q j => by rw [htalkers]
        have hset := talkerSum_setTalker (MsrpTalkerEntry.classBps y' cls) s p i
          (some (e.release y))
        have hbefore := hs.sum y' cls
        rw [he] at hset
        simp only [slotWeight, Option.map_some, Option.getD_some, release_classBps] at hset
        rw [hsame, (hadmission y' cls).1]
        unfold MsrpTalkerEntry.classBps at hset hbefore ⊢
        by_cases hy : y' = y
        · subst hy
          by_cases hcls : cls = e.admittedClass y'
          · subst hcls
            simp only [and_self, if_true] at hset ⊢
            omega
          · simp only [hcls, Ne.symm hcls, and_false, if_false, if_true] at hset ⊢
            omega
        · simp only [hy, false_and, if_false] at hset ⊢
          omega
      · intro q j a ha
        rw [htalkers, setTalker_apply] at ha
        split at ha
        · rename_i hkey
          obtain ⟨rfl, rfl⟩ := hkey
          cases ha
          exact release_placed (hs.placed _ _ e he) y
        · exact hs.placed q j a ha
      · intro q j a ha hclosed
        rw [htalkers, setTalker_apply, if_neg] at ha
        · exact hs.sound q j a ha hclosed
        · rintro ⟨rfl, rfl⟩
          exact hclosed rfl

theorem grant_bps (e : MsrpTalkerEntry cfg) (y y' : cfg.Port) (info : TalkerAdvInfo) :
    (e.grant y info).admittedBps y' = if y' = y then
        tspecBps (avbSrClassOf info.priority) info.tspecMaxFrameSize.toNat
          info.tspecMaxFrameInterval.toNat
      else e.admittedBps y' := by
  unfold MsrpTalkerEntry.grant MsrpTalkerEntry.noteTspec MsrpTalkerEntry.reserve
  by_cases hy : y' = y
  · subst hy
    simp
  · simp [hy]

/-- A grant adds as much to the aggregate as to the entries, unless the sum wraps. -/
theorem Balanced.grant (hs : Balanced (some (p, i)) s) (he : s.talkers p i = some e)
    (hnone : e.admittedBps y = 0) {info : TalkerAdvInfo} (htype : e.attrType ≠ .talkerFailed)
    (hy : y ≠ p) (hbridged : cfg.bridged y = true)
    (hwifi : ¬ (cfg.wifiUnicastStreams = true ∧ cfg.wifi y = true))
    (hnowrap : (s.admission y (avbSrClassOf info.priority)).admittedBps.toNat
      + (tspecBps (avbSrClassOf info.priority) info.tspecMaxFrameSize.toNat
        info.tspecMaxFrameInterval.toNat).toNat < 2 ^ 32) :
    Balanced (some (p, i)) ((s.setAdmitted y (avbSrClassOf info.priority)
      ((s.admission y (avbSrClassOf info.priority)).admittedBps
        + tspecBps (avbSrClassOf info.priority) info.tspecMaxFrameSize.toNat
          info.tspecMaxFrameInterval.toNat)).setTalker p i (some (e.grant y info))) := by
  set cls := avbSrClassOf info.priority with hcls
  set bps := tspecBps cls info.tspecMaxFrameSize.toNat info.tspecMaxFrameInterval.toNat with hbps
  have hsum := UInt32.toNat_add (s.admission y cls).admittedBps bps
  rw [Nat.mod_eq_of_lt hnowrap] at hsum
  constructor
  · intro y' cls'
    have hset := talkerSum_setTalker (MsrpTalkerEntry.classBps y' cls') (s.setAdmitted y cls ((s.admission y cls).admittedBps + bps)) p i (some (e.grant y info))
    have hsame : talkerSum (MsrpTalkerEntry.classBps y' cls')
        (s.setAdmitted y cls ((s.admission y cls).admittedBps + bps))
          = talkerSum (MsrpTalkerEntry.classBps y' cls') s := talkerSum_congr fun _ _ => rfl
    have hslot : (s.setAdmitted y cls ((s.admission y cls).admittedBps + bps)).talkers p i = some e :=
      he
    rw [hslot, hsame] at hset
    have hbefore := hs.sum y' cls'
    have hagg : ((s.setAdmitted y cls ((s.admission y cls).admittedBps + bps)).setTalker p i
        (some (e.grant y info))).admission y' cls' = if y' = y ∧ cls' = cls then
          { s.admission y cls with admittedBps := (s.admission y cls).admittedBps + bps }
        else s.admission y' cls' := setAdmitted_admission s y y' cls cls' _
    rw [hagg]
    simp only [slotWeight, Option.map_some, Option.getD_some, MsrpTalkerEntry.classBps,
      grant_admittedClass, grant_bps] at hset hbefore ⊢
    by_cases hy' : y' = y
    · subst hy'
      rw [hnone] at hset
      by_cases hc : cls' = cls
      · subst hc
        simp only [← hcls, ← hbps, and_self, if_true, UInt32.toNat_zero, ite_self] at hset ⊢
        omega
      · have hc' : avbSrClassOf info.priority ≠ cls' := fun h => hc (h.symm.trans hcls.symm)
        simp only [hc, hc', and_false, if_true, if_false, UInt32.toNat_zero, ite_self] at hset ⊢
        omega
    · simp only [hy', false_and, if_false] at hset ⊢
      omega
  · intro q j a ha
    rw [setTalker_apply] at ha
    split at ha
    · rename_i hkey
      obtain ⟨rfl, rfl⟩ := hkey
      cases ha
      have hplaced := hs.placed _ _ e he
      refine ⟨?_, hplaced.propagated⟩
      intro y' hy'
      rw [grant_bps] at hy'
      split at hy'
      · rename_i hyy
        rw [hyy]
        exact ⟨htype, hy, hbridged, hwifi⟩
      · exact hplaced.reserved y' hy'
    · exact hs.placed q j a ha
  · intro q j a ha hclosed
    rw [setTalker_apply, if_neg] at ha
    · exact hs.sound q j a ha hclosed
    · rintro ⟨rfl, rfl⟩
      exact hclosed rfl

/-- Rewriting the open slot without touching its reservations. -/
theorem Balanced.set_entry {s' : AvbState cfg} (hs : Balanced (some (p, i)) s)
    (he : s.talkers p i = some e) (e' : MsrpTalkerEntry cfg)
    (htalkers : s'.talkers = (s.setTalker p i (some e')).talkers)
    (hadmission : s'.admission = s.admission) (hbps : e'.admittedBps = e.admittedBps)
    (hclass : e'.admittedClass = e.admittedClass) (hplaced : EntryPlaced p e') :
    Balanced (some (p, i)) s' where
  sum y cls := by
    have hset := talkerSum_setTalker (MsrpTalkerEntry.classBps y cls) s p i
      (some e')
    have hsame : talkerSum (MsrpTalkerEntry.classBps y cls) s'
        = talkerSum (MsrpTalkerEntry.classBps y cls) (s.setTalker p i (some e')) :=
      talkerSum_congr fun q j => by rw [htalkers]
    have hbefore := hs.sum y cls
    have hweight : e'.classBps y cls = e.classBps y cls := by
      simp only [MsrpTalkerEntry.classBps, hbps, hclass]
    rw [he] at hset
    simp only [slotWeight, Option.map_some, Option.getD_some, hweight] at hset
    rw [hsame, hadmission]
    omega
  placed q j a ha := by
    rw [htalkers, setTalker_apply] at ha
    split at ha
    · rename_i hkey
      obtain ⟨rfl, rfl⟩ := hkey
      cases ha
      exact hplaced
    · exact hs.placed q j a ha
  sound q j a ha hclosed := by
    rw [htalkers, setTalker_apply, if_neg] at ha
    · exact hs.sound q j a ha hclosed
    · rintro ⟨rfl, rfl⟩
      exact hclosed rfl

end Reserve

/-! ### The callback -/

/-- The open slot during its callback: its key, its state machines and its snapshot stay, and it holds
reservations toward ports of `R` only. -/
structure Ingress (p : cfg.Port) (i : TalkerRef cfg) (k : UniqueId × MsrpAttrType) (sm : MrpSm)
    (priority : BitVec 3) (R : cfg.Port → Prop) (s : AvbState cfg) : Prop where
  balanced : Balanced (some (p, i)) s
  entry : ∃ e, s.talkers p i = some e ∧ e.key = k ∧ e.sm = sm ∧ e.lastPropagatedPriority = priority
    ∧ ∀ y, e.admittedBps y ≠ 0 → R y

section Callback

variable {p y : cfg.Port} {i : TalkerRef cfg} {k : UniqueId × MsrpAttrType} {sm : MrpSm}
  {priority : BitVec 3} {R : cfg.Port → Prop} {s s' : AvbState cfg}

theorem Ingress.mono {R' : cfg.Port → Prop} (h : Ingress p i k sm priority R s)
    (hle : ∀ y, R y → R' y) : Ingress p i k sm priority R' s := by
  obtain ⟨e, he, hkey, hsm, hpriority, hR⟩ := h.entry
  exact ⟨h.balanced, e, he, hkey, hsm, hpriority, fun y hy => hle y (hR y hy)⟩

theorem Ingress.writes (h : Ingress p i k sm priority R s) (hwrites : Writes (· ≠ p) s s')
    (hlog : LogKeepsBalance s') : Ingress p i k sm priority R s' := by
  have htable : s'.talkers p = s.talkers p := hwrites.talkers_same
  refine ⟨h.balanced.writes hwrites ?_ hlog, ?_⟩
  · rintro q j hqj hne
    cases hqj
    exact hne rfl
  · rw [htable]
    exact h.entry

/-- A port the entry cannot hold a reservation toward. -/
theorem Ingress.without (h : Ingress p i k sm priority R s)
    (hno : k.2 = .talkerFailed ∨ (cfg.wifiUnicastStreams = true ∧ cfg.wifi y = true)
      ∨ y = p ∨ cfg.bridged y = false) :
    Ingress p i k sm priority (fun y' => R y' ∧ y' ≠ y) s := by
  obtain ⟨e, he, hkey, hsm, hpriority, hR⟩ := h.entry
  refine ⟨h.balanced, e, he, hkey, hsm, hpriority, ?_⟩
  intro y' hy'
  refine ⟨hR y' hy', ?_⟩
  rintro rfl
  obtain ⟨htype, hport, hbridged, hwifi⟩ := (h.balanced.placed p i e he).reserved y' hy'
  obtain hno | hno | hno | hno := hno
  · rw [← hkey] at hno
    exact htype hno
  · exact hwifi hno
  · exact hport hno
  · rw [hno] at hbridged
    cases hbridged

theorem Ingress.release (h : Ingress p i k sm priority R s) (y : cfg.Port) :
    Ingress p i k sm priority (fun y' => R y' ∧ y' ≠ y) (msrpReleaseAdmission s p (some i) y) := by
  obtain ⟨e, he, hkey, hsm, hpriority, hR⟩ := h.entry
  refine ⟨h.balanced.release y, e.release y, ?_, hkey, hsm, hpriority, ?_⟩
  · rw [releaseAdmission_talkers he, setTalker_apply, if_pos ⟨rfl, rfl⟩]
  · intro y' hy'
    by_cases hyy : y' = y
    · subst hyy
      simp [MsrpTalkerEntry.release] at hy'
    · simp only [MsrpTalkerEntry.release, Function.update_of_ne hyy] at hy'
      exact ⟨hR y' hy', hyy⟩

/-- The reservation toward one port after a request: held at a priority other than 0, or none. -/
theorem Ingress.mapAdmit (h : Ingress p i k sm priority R s) (hy : y ≠ p)
    (hbridged : cfg.bridged y = true)
    (hwifi : ¬ (cfg.wifiUnicastStreams = true ∧ cfg.wifi y = true)) (htype : k.2 ≠ .talkerFailed)
    (info : TalkerAdvInfo) (hlog : LogKeepsBalance (msrpMapAdmit s p y (some i) info)) :
    Ingress p i k sm priority (fun y' => (R y' ∧ y' ≠ y) ∨ info.priority ≠ 0)
      (msrpMapAdmit s p y (some i) info) := by
  rcases hrequest : msrpRequest s p i y info with ⟨granted, s1⟩
  have hrequest' := hrequest
  unfold msrpRequest at hrequest'
  unfold msrpMapAdmit at hlog ⊢
  dsimp only at hlog ⊢
  rw [hrequest'] at hlog ⊢
  cases granted with
  | false =>
      rw [msrpRequest_refused s hrequest] at hlog ⊢
      refine ((h.release y).writes (writes_mapDeclareFailed (P := (· ≠ p)) (y := y) _ hy _ _ _)
        hlog).mono ?_
      exact fun y' => Or.inl
  | true =>
      have hdeclare : Writes (· ≠ p) (msrpGranted s s1 p i y info)
          (msrpMapDeclareAdvertise (msrpGranted s s1 p i y info) y info) :=
        writes_mapDeclareAdvertise (P := (· ≠ p)) (y := y) _ hy _
      have hlogged : LogKeepsBalance (msrpGranted s s1 p i y info) :=
        fun entry hentry => hlog entry (Writes.log_subset hdeclare hentry)
      refine Ingress.writes ?_ hdeclare hlog
      set r := msrpReleaseAdmission s p (some i) y with hr
      have hroom := hlogged (.admitted y info (r.admission y)) List.mem_cons_self
      simp only [MsrpLog.keepsBalance, decide_eq_true_eq] at hroom
      obtain ⟨e, he, hkey, hsm, hpriority, hR⟩ := h.entry
      have htype' : e.attrType ≠ .talkerFailed := by
        rw [← hkey] at htype
        exact htype
      obtain ⟨e1, he1, ⟨rfl, hheld, -⟩ | ⟨-, hs1⟩⟩ := msrpRequest_granted hrequest
      · -- held already
        have hslot : (msrpGranted s1 s1 p i y info).talkers = (s1.setTalker p i
            (some (e.noteTspec y (avbSrClassOf info.priority) info.tspecMaxFrameSize.toNat
              info.tspecMaxFrameInterval.toNat))).talkers := by
          unfold msrpGranted AvbState.modifyTalker
          rw [addLog_talkers, he]
          rfl
        have hplaced := h.balanced.placed p i e he
        refine ⟨h.balanced.set_entry he _ hslot rfl rfl rfl ⟨hplaced.reserved, hplaced.propagated⟩,
          e.noteTspec y (avbSrClassOf info.priority) info.tspecMaxFrameSize.toNat
            info.tspecMaxFrameInterval.toNat, ?_, hkey, hsm, hpriority, fun _ _ => Or.inr hroom.1⟩
        rw [hslot, setTalker_apply, if_pos ⟨rfl, rfl⟩]
      · have hreleased := h.release y
        rw [← hr] at hreleased
        have hslot : r.talkers p i = some (e.release y) := by
          rw [hr, releaseAdmission_talkers he, setTalker_apply, if_pos ⟨rfl, rfl⟩]
        have hgrant := hreleased.balanced.grant hslot (by simp [MsrpTalkerEntry.release]) htype' hy
          hbridged hwifi hroom.2
        have hstate : msrpGranted s s1 p i y info = ((r.setAdmitted y
            (avbSrClassOf info.priority) ((r.admission y (avbSrClassOf info.priority)).admittedBps
              + tspecBps (avbSrClassOf info.priority) info.tspecMaxFrameSize.toNat
                info.tspecMaxFrameInterval.toNat)).setTalker p i
                  (some ((e.release y).grant y info))).addLog
                    (.admitted y info (r.admission y)) := by
          rw [he] at he1
          cases he1
          rw [hs1]
          simp [msrpGranted, AvbState.modifyTalker, AvbState.setTalker, AvbState.addLog,
            MsrpTalkerEntry.grant, hr]
        rw [hstate]
        refine ⟨⟨hgrant.sum, hgrant.placed, hgrant.sound⟩, (e.release y).grant y info, ?_, hkey, hsm,
          hpriority, fun _ _ => Or.inr hroom.1⟩
        rw [addLog_talkers, setTalker_apply, if_pos ⟨rfl, rfl⟩]

theorem Ingress.mapDeclare (h : Ingress p i k sm priority R s) (hy : y ≠ p)
    (hbridged : cfg.bridged y = true) {isFailed : Bool} (htype : isFailed = true ↔ k.2 = .talkerFailed)
    (wire : MsrpTalkerMessage) (hlog : LogKeepsBalance (msrpMapDeclare s p y (some i) isFailed wire)) :
    Ingress p i k sm priority (fun y' => (R y' ∧ y' ≠ y) ∨ wire.info.priority ≠ 0)
      (msrpMapDeclare s p y (some i) isFailed wire) := by
  have hfailed : ∀ {s1 : AvbState cfg} {code : UInt8} {srcBridgeId : Option (Octets 8)},
      Ingress p i k sm priority (fun y' => R y' ∧ y' ≠ y) s1 →
      LogKeepsBalance (msrpMapDeclareFailed s1 y wire.info code srcBridgeId) →
      Ingress p i k sm priority (fun y' => (R y' ∧ y' ≠ y) ∨ wire.info.priority ≠ 0)
        (msrpMapDeclareFailed s1 y wire.info code srcBridgeId) :=
    fun h1 hlog1 => (h1.writes (writes_mapDeclareFailed (P := (· ≠ p)) (y := y) _ hy _ _ _)
      hlog1).mono fun _ => Or.inl
  unfold msrpMapDeclare at hlog ⊢
  dsimp only at hlog ⊢
  by_cases hfail : isFailed = true
  · rw [if_pos hfail] at hlog ⊢
    exact hfailed (h.without (Or.inl (htype.mp hfail))) hlog
  rw [if_neg hfail] at hlog ⊢
  split at hlog
  · rename_i hclass
    rw [if_pos hclass]
    exact hfailed (h.release y) hlog
  · rename_i hclass
    rw [if_neg hclass]
    split at hlog
    · rename_i hwifi
      rw [if_pos hwifi]
      have hwithout := h.without (y := y) (Or.inr (Or.inl hwifi))
      split at hlog
      · rename_i hrefused
        rw [if_pos hrefused]
        exact hfailed hwithout hlog
      · rename_i hrefused
        rw [if_neg hrefused]
        exact (hwithout.writes (writes_mapDeclareAdvertise (P := (· ≠ p)) (y := y) _ hy _)
          hlog).mono fun _ => Or.inl
    · rename_i hwifi
      rw [if_neg hwifi]
      exact h.mapAdmit hy hbridged hwifi (fun heq => hfail (htype.mpr heq)) _ hlog

/-- One egress port's turn: toward that port a reservation stays only if it was asked for anew. -/
theorem Ingress.mapEgress (h : Ingress p i k sm priority R s) (y : cfg.Port) {work : MsrpMapWork}
    (hwork : work.release = true ∨ work.admitDeclare = true ∨ ∀ y, ¬ R y) {isFailed : Bool}
    (htype : isFailed = true ↔ k.2 = .talkerFailed) (wire : MsrpTalkerMessage)
    (hlog : LogKeepsBalance (msrpMapEgress work p (some i) isFailed wire s y)) :
    Ingress p i k sm priority
      (fun y' => (R y' ∧ y' ≠ y) ∨ (work.admitDeclare = true ∧ wire.info.priority ≠ 0))
      (msrpMapEgress work p (some i) isFailed wire s y) := by
  unfold msrpMapEgress at hlog ⊢
  by_cases hturn : y = p ∨ cfg.bridged y = false
  · rw [if_pos hturn]
    exact (h.without (Or.inr (Or.inr hturn))).mono fun _ => Or.inl
  rw [if_neg hturn] at hlog ⊢
  dsimp only at hlog ⊢
  have hy : y ≠ p := fun hyp => hturn (Or.inl hyp)
  have hbridged : cfg.bridged y = true := by
    cases hb : cfg.bridged y with
    | true => rfl
    | false => exact absurd (Or.inr hb) hturn
  -- released, or no reservation to release
  set s1 := if work.release then msrpReleaseAdmission s p (some i) y else s with hs1
  set s2 := if work.withdraw then mrpWithdrawTalker s1 y wire.info.streamId else s1 with hs2
  have hwithdraw : Writes (· ≠ p) s1 s2 := by
    rw [hs2]
    split
    · exact writes_withdrawTalker (P := (· ≠ p)) (p := y) s1 hy _
    · exact .refl
  have hrelease : Ingress p i k sm priority
      (fun y' => R y' ∧ (work.release = true → y' ≠ y)) s1 := by
    rw [hs1]
    split
    · exact (h.release y).mono fun y' hR => ⟨hR.1, fun _ => hR.2⟩
    · rename_i hno
      exact h.mono fun y' hR => ⟨hR, fun hyes => absurd hyes hno⟩
  by_cases hasked : work.admitDeclare = true
  · rw [if_pos hasked] at hlog ⊢
    have hlog2 : LogKeepsBalance s2 := fun entry hentry =>
      hlog entry ((mapWrites_mapDeclare s2 hy _ _ _).changes.mode.2.2 hentry)
    refine ((hrelease.writes hwithdraw hlog2).mapDeclare hy hbridged htype wire hlog).mono ?_
    rintro y' (⟨⟨hR, -⟩, hne⟩ | hpriority)
    · exact Or.inl ⟨hR, hne⟩
    · exact Or.inr ⟨hasked, hpriority⟩
  · rw [if_neg hasked] at hlog ⊢
    refine (hrelease.writes hwithdraw hlog).mono ?_
    rintro y' ⟨hR, hne⟩
    obtain hwork | hwork | hwork := hwork
    · exact Or.inl ⟨hR, hne hwork⟩
    · exact absurd hwork hasked
    · exact absurd hR (hwork y')

theorem Ingress.forPorts {work : MsrpMapWork} {isFailed : Bool}
    (htype : isFailed = true ↔ k.2 = .talkerFailed) (wire : MsrpTalkerMessage)
    (h : Ingress p i k sm priority R s)
    (hwork : work.release = true ∨ work.admitDeclare = true ∨ ∀ y, ¬ R y)
    (hlog : LogKeepsBalance (EspAvb.forPorts (msrpMapEgress work p (some i) isFailed wire) s)) :
    Ingress p i k sm priority (fun _ => work.admitDeclare = true ∧ wire.info.priority ≠ 0)
      (EspAvb.forPorts (msrpMapEgress work p (some i) isFailed wire) s) := by
  -- after the turns of `l`, toward them only what was asked for anew
  have hloop : ∀ (l : List cfg.Port) (R : cfg.Port → Prop) (s : AvbState cfg),
      Ingress p i k sm priority R s →
      (work.release = true ∨ work.admitDeclare = true ∨ ∀ y, ¬ R y) →
      LogKeepsBalance (l.foldl (msrpMapEgress work p (some i) isFailed wire) s) →
      Ingress p i k sm priority
        (fun y => (R y ∧ y ∉ l) ∨ (work.admitDeclare = true ∧ wire.info.priority ≠ 0))
        (l.foldl (msrpMapEgress work p (some i) isFailed wire) s) := by
    intro l
    induction l with
    | nil =>
        intro R s h hwork hlog
        exact h.mono fun y hR => Or.inl ⟨hR, List.not_mem_nil⟩
    | cons x l ih =>
        intro R s h hwork hlog
        rw [List.foldl_cons] at hlog ⊢
        have hlog1 : LogKeepsBalance (msrpMapEgress work p (some i) isFailed wire s x) := by
          intro entry hentry
          have hrest : MapWrites p (msrpMapEgress work p (some i) isFailed wire s x)
              (l.foldl (msrpMapEgress work p (some i) isFailed wire)
                (msrpMapEgress work p (some i) isFailed wire s x)) :=
            reflTransGen_foldl id (fun s y => mapWrites_mapEgress s work (some i) isFailed wire) l _
          exact hlog entry (hrest.changes.mode.2.2 hentry)
        have hturn := h.mapEgress x hwork htype wire hlog1
        refine (ih _ _ hturn ?_ hlog).mono ?_
        · obtain hwork | hwork | hwork := hwork
          · exact Or.inl hwork
          · exact Or.inr (Or.inl hwork)
          · by_cases hasked : work.admitDeclare = true
            · exact Or.inr (Or.inl hasked)
            · right
              right
              rintro y (⟨hR, -⟩ | hnew)
              · exact hwork y hR
              · exact hasked hnew.1
        · rintro y (⟨⟨hR, hne⟩ | hnew, hmem⟩ | hnew)
          · exact Or.inl ⟨hR, by simp [hne, hmem]⟩
          · exact Or.inr hnew
          · exact Or.inr hnew
  refine (hloop _ R s h hwork hlog).mono ?_
  rintro y (⟨-, hmem⟩ | hnew)
  · exact absurd (List.mem_finRange y) hmem
  · exact hnew

/-- The callback is over: a slot that is sound again closes. -/
theorem Balanced.close (h : Balanced (some (p, i)) s)
    (hsound : ∀ e, s.talkers p i = some e → EntrySound e) : Balanced none s where
  sum := h.sum
  placed := h.placed
  sound q j e he _ := by
    by_cases hkey : (p, i) = (q, j)
    · cases hkey
      exact hsound e he
    · exact h.sound q j e he fun heq => hkey (Option.some.inj heq)

/-- What the edge and the entry promise each other before the callback. -/
def EdgeFits (tr : MrpRegTransition) (sm : MrpSm) (priority : BitVec 3) : Prop :=
  match tr with
  | .register => sm.registrar ≠ .MT
  | .none => priority ≠ 0 → sm.registrar ≠ .MT
  | .deregister => True

/-- An entry that was never propagated needs no callback. -/
theorem Ingress.close_unpropagated (h : Ingress p i k sm priority R s)
    (hR : ∀ y, R y → priority ≠ 0) (hno : cfg.roleBridge = false ∨ cfg.bridged p = false) :
    Balanced none s ∧ ∃ e, s.talkers p i = some e ∧ e.key = k ∧ e.sm = sm
      ∧ e.lastPropagatedPriority = 0 := by
  obtain ⟨e, he, hkey, hsm, hpriority, hRe⟩ := h.entry
  have hzero : e.lastPropagatedPriority = 0 := by
    by_contra hne
    obtain ⟨hrole, hbridged⟩ := (h.balanced.placed p i e he).propagated hne
    obtain hno | hno := hno
    · rw [hrole] at hno
      cases hno
    · rw [hbridged] at hno
      cases hno
  refine ⟨h.balanced.close ?_, e, he, hkey, hsm, hzero⟩
  intro a ha
  rw [he] at ha
  cases ha
  constructor
  · intro y hy
    rw [hpriority]
    exact hR y (hRe y hy)
  · intro hne
    exact absurd hzero hne

/-- Reservations are the Advertise's only. -/
theorem Ingress.advertise (h : Ingress p i k sm priority R s) :
    Ingress p i k sm priority (fun y => R y ∧ k.2 ≠ .talkerFailed) s := by
  obtain ⟨e, he, hkey, hsm, hpriority, hR⟩ := h.entry
  refine ⟨h.balanced, e, he, hkey, hsm, hpriority, ?_⟩
  intro y hy
  refine ⟨hR y hy, ?_⟩
  rw [← hkey]
  exact ((h.balanced.placed p i e he).reserved y hy).1

theorem msrpMapWork_admits {tr : MrpRegTransition} {isFailed : Bool} {oldPriority : BitVec 3}
    {oldMfs oldMfi : Nat} {info : TalkerAdvInfo}
    (h : (msrpMapWork tr isFailed oldPriority oldMfs oldMfi info).admitDeclare = true) :
    tr = .register ∨ (tr = .none ∧ oldPriority ≠ 0) := by
  cases tr with
  | register => exact Or.inl rfl
  | deregister => cases h
  | none =>
      refine Or.inr ⟨rfl, ?_⟩
      rintro rfl
      simp [msrpMapWork] at h

theorem msrpMapWork_releases {tr : MrpRegTransition} {isFailed : Bool} {oldPriority : BitVec 3}
    {oldMfs oldMfi : Nat} {info : TalkerAdvInfo}
    (hwork : ¬ (tr = .none
      ∧ (msrpMapWork tr isFailed oldPriority oldMfs oldMfi info).admitDeclare = false))
    (hpriority : oldPriority ≠ 0) (hfailed : isFailed = false) :
    (msrpMapWork tr isFailed oldPriority oldMfs oldMfi info).release = true
      ∨ (msrpMapWork tr isFailed oldPriority oldMfs oldMfi info).admitDeclare = true := by
  cases tr with
  | register => exact Or.inr rfl
  | deregister =>
      exact Or.inl (decide_eq_true ⟨hpriority, hfailed⟩)
  | none =>
      right
      by_contra hno
      exact hwork ⟨rfl, by simpa using hno⟩

/-- What the slot is after the callback: sound, and after a deregistration without a snapshot. -/
theorem Ingress.mapTalker {streamId : UniqueId} {attrType : MsrpAttrType} {tr : MrpRegTransition}
    {wire : MsrpTalkerMessage} (hstream : wire.info.streamId = streamId)
    (h : Ingress p i (streamId, attrType) sm priority (fun _ => priority ≠ 0) s)
    (hfind : msrpTalkerFind s p streamId attrType = some i) (hrole : cfg.roleBridge = true)
    (hedge : EdgeFits tr sm priority) (hlog : LogKeepsBalance (msrpMapTalker s p attrType wire tr)) :
    Balanced none (msrpMapTalker s p attrType wire tr)
      ∧ ∃ e, (msrpMapTalker s p attrType wire tr).talkers p i = some e
        ∧ e.key = (streamId, attrType) ∧ e.sm = sm
        ∧ (tr = .deregister → e.lastPropagatedPriority = 0) := by
  subst hstream
  unfold msrpMapTalker at hlog ⊢
  by_cases hbridged : cfg.bridged p = false
  · rw [if_pos hbridged]
    obtain ⟨hbalanced, e, he, hkey, hsm, hzero⟩ :=
      h.close_unpropagated (fun _ => id) (Or.inr hbridged)
    exact ⟨hbalanced, e, he, hkey, hsm, fun _ => hzero⟩
  have hbridged' : cfg.bridged p = true := by simpa using hbridged
  rw [if_neg hbridged] at hlog ⊢
  obtain ⟨e, he, hkey, hsm, hpriority, hR⟩ := h.entry
  simp only [hfind, Option.bind_some, he, Option.map_some, Option.getD_some, hpriority] at hlog ⊢
  set work := msrpMapWork tr (decide (attrType = .talkerFailed)) priority e.lastPropagatedMfs
    e.lastPropagatedMfi wire.info with hwork
  by_cases hidle : tr = .none ∧ work.admitDeclare = false
  · -- nothing to propagate
    rw [if_pos hidle]
    refine ⟨h.balanced.close ?_, e, he, hkey, hsm, ?_⟩
    · intro a ha
      rw [he] at ha
      cases ha
      rw [hidle.1] at hedge
      constructor
      · intro y hy
        rw [hpriority]
        exact hR y hy
      · rw [hpriority, hsm]
        exact hedge
    · rw [hidle.1]
      intro hne
      cases hne
  rw [if_neg hidle] at hlog ⊢
  have htype : decide (attrType = .talkerFailed) = true ↔ attrType = .talkerFailed :=
    decide_eq_true_iff
  have hturns : work.release = true ∨ work.admitDeclare = true
      ∨ ∀ y : cfg.Port, ¬ ((fun _ => priority ≠ 0 ∧ attrType ≠ .talkerFailed) y) := by
    by_cases hheld : priority ≠ 0 ∧ attrType ≠ .talkerFailed
    · have hfailed : decide (attrType = .talkerFailed) = false := decide_eq_false hheld.2
      obtain hrelease | hasked := msrpMapWork_releases hidle hheld.1 hfailed
      · exact Or.inl hrelease
      · exact Or.inr (Or.inl hasked)
    · exact Or.inr (Or.inr fun _ => hheld)
  set s1 := EspAvb.forPorts (msrpMapEgress work p (some i) (decide (attrType = .talkerFailed)) wire) s
    with hs1
  have hports := h.advertise.forPorts htype wire hturns hlog
  rw [← hs1] at hports
  obtain ⟨e1, he1, hkey1, hsm1, hpriority1, hR1⟩ := hports.entry
  have hslot : (s1.modifyTalker p i (msrpMapSnapshot work wire.info)).talkers
      = (s1.setTalker p i (some (msrpMapSnapshot work wire.info e1))).talkers := by
    rw [AvbState.modifyTalker, he1, Option.map_some]
  obtain ⟨hbps, hclass, -⟩ := msrpMapSnapshot_account work wire.info e1
  have hplaced1 := hports.balanced.placed p i e1 he1
  have hplaced : EntryPlaced p (msrpMapSnapshot work wire.info e1) := by
    refine ⟨?_, fun _ => ⟨hrole, hbridged'⟩⟩
    intro y hy
    rw [hbps] at hy
    have htype1 : (msrpMapSnapshot work wire.info e1).attrType = e1.attrType := by
      unfold msrpMapSnapshot
      split
      · rfl
      · split <;> rfl
    rw [htype1]
    exact hplaced1.reserved y hy
  have hbalanced := hports.balanced.set_entry he1 _ hslot rfl hbps hclass hplaced
  have hat : (s1.modifyTalker p i (msrpMapSnapshot work wire.info)).talkers p i
      = some (msrpMapSnapshot work wire.info e1) := by
    rw [hslot, setTalker_apply, if_pos ⟨rfl, rfl⟩]
  have hsnapshot : (msrpMapSnapshot work wire.info e1).lastPropagatedPriority
      = if work.admitDeclare then wire.info.priority
        else if work.withdraw then 0 else e1.lastPropagatedPriority := by
    unfold msrpMapSnapshot
    split
    · rfl
    · split <;> rfl
  have hsm' : (msrpMapSnapshot work wire.info e1).sm = e1.sm := by
    unfold msrpMapSnapshot
    split
    · rfl
    · split <;> rfl
  have hkey' : (msrpMapSnapshot work wire.info e1).key = e1.key := by
    unfold msrpMapSnapshot
    split
    · rfl
    · split <;> rfl
  refine ⟨hbalanced.close ?_, _, hat, hkey'.trans hkey1, hsm'.trans hsm1, ?_⟩
  · intro a ha
    rw [hat] at ha
    cases ha
    constructor
    · intro y hy
      rw [hbps] at hy
      obtain ⟨hasked, hpr⟩ := hR1 y hy
      rw [hsnapshot, if_pos hasked]
      exact hpr
    · intro hne
      rw [hsm', hsm1]
      by_cases hasked : work.admitDeclare = true
      · obtain htr | ⟨htr, hold⟩ := msrpMapWork_admits hasked
        · rw [htr] at hedge
          exact hedge
        · rw [htr] at hedge
          exact hedge hold
      · rw [hsnapshot, if_neg hasked] at hne
        cases htr : tr with
        | register =>
            rw [hwork, htr] at hasked
            exact absurd rfl hasked
        | none => exact absurd ⟨htr, by simpa using hasked⟩ hidle
        | deregister =>
            rw [hwork, htr] at hne
            exact absurd rfl hne
  · intro htr
    rw [hsnapshot, hwork, htr]
    rfl

theorem Ingress.onTalkerRegistrarChange {streamId : UniqueId} {attrType : MsrpAttrType}
    {tr : MrpRegTransition} {wire : MsrpTalkerMessage} (hstream : wire.info.streamId = streamId)
    (h : Ingress p i (streamId, attrType) sm priority (fun _ => priority ≠ 0) s)
    (hkeys : (s.talkers p).KeysUnique MsrpTalkerEntry.key) (hedge : EdgeFits tr sm priority)
    (hlog : LogKeepsBalance (mrpOnTalkerRegistrarChange s p attrType wire tr)) :
    Balanced none (mrpOnTalkerRegistrarChange s p attrType wire tr)
      ∧ ∃ e, (mrpOnTalkerRegistrarChange s p attrType wire tr).talkers p i = some e
        ∧ e.key = (streamId, attrType) ∧ e.sm = sm
        ∧ (tr = .deregister → e.lastPropagatedPriority = 0) := by
  unfold mrpOnTalkerRegistrarChange at hlog ⊢
  dsimp only at hlog ⊢
  have hinput := writes_talkerInputStream (P := (· ≠ p)) s p attrType wire tr
  set s1 := mrpTalkerInputStream s p attrType wire tr with hs1
  have htable : s1.talkers p = s.talkers p := hinput.talkers_same
  by_cases hrole : cfg.roleBridge = true
  · rw [if_pos hrole] at hlog ⊢
    have hlog1 : LogKeepsBalance s1 := fun entry hentry =>
      hlog entry ((mapWrites_mapTalker s1 attrType wire tr).changes.mode.2.2 hentry)
    have h1 := h.writes hinput hlog1
    obtain ⟨e, he, hkey, -⟩ := h1.entry
    have hfind : msrpTalkerFind s1 p streamId attrType = some i := by
      rw [htable] at he
      unfold msrpTalkerFind
      rw [htable]
      exact hkeys.find_eq (fun _ => talkerIs_iff) he hkey
    exact h1.mapTalker hstream hfind hrole hedge hlog
  · rw [if_neg hrole] at hlog ⊢
    obtain ⟨hbalanced, e, he, hkey, hsm, hzero⟩ := (h.writes hinput hlog).close_unpropagated
      (fun _ => id) (Or.inl (by simpa using hrole))
    exact ⟨hbalanced, e, he, hkey, hsm, fun _ => hzero⟩

end Callback

/-! ### Moves -/

section Moves

variable {p : cfg.Port} {i : TalkerRef cfg} {s s' : AvbState cfg} {e : MsrpTalkerEntry cfg}

/-- Opening a slot that is sound. -/
theorem Balanced.openSlot (h : Balanced none s) (he : s.talkers p i = some e) :
    Ingress p i e.key e.sm e.lastPropagatedPriority (fun _ => e.lastPropagatedPriority ≠ 0) s := by
  have hsound := h.sound p i e he (by simp)
  exact ⟨⟨h.sum, h.placed, fun q j a ha _ => h.sound q j a ha (by simp)⟩, e, he, rfl, rfl, rfl,
    fun y hy => hsound.reserved y hy⟩

/-- The callback of an attribute without an entry has nothing to pass on. -/
theorem writes_callbackAbsent {attrType : MsrpAttrType} {wire : MsrpTalkerMessage}
    (hfind : msrpTalkerFind s p wire.info.streamId attrType = none) :
    Writes (· ≠ p) s (mrpOnTalkerRegistrarChange s p attrType wire .none) := by
  have hinput := writes_talkerInputStream (P := (· ≠ p)) s p attrType wire .none
  have hfind1 : msrpTalkerFind (mrpTalkerInputStream s p attrType wire .none) p wire.info.streamId
      attrType = none := by
    rw [← hfind]
    unfold msrpTalkerFind
    rw [hinput.talkers_same]
  unfold mrpOnTalkerRegistrarChange
  dsimp only
  split
  · unfold msrpMapTalker
    split
    · exact hinput
    · simp only [hfind1]
      exact hinput
  · exact hinput

theorem AvbMove.balanced (h : AvbMove s s') (hok : TablesOk s) (hs : Balanced none s)
    (hlog : LogKeepsBalance s') : Balanced none s' := by
  cases h with
  | write h => exact hs.write h (fun _ _ hno => absurd hno (by simp)) hlog
  | @callback p attrType wire tr h =>
      cases hat : talkerAt s p wire.info.streamId attrType with
      | none =>
          have htr : tr = .none := h.resolve_right (by simp [hat])
          subst htr
          exact hs.writes (writes_callbackAbsent (SlotTable.lookup_eq_none.mp hat)) (by simp) hlog
      | some e =>
          obtain ⟨i, hfind, hi, hq⟩ := SlotTable.lookup_eq_some hat
          have hopen := hs.openSlot hi
          rw [talkerIs_iff.mp hq] at hopen
          refine (hopen.onTalkerRegistrarChange rfl (hok.talkerKeys p) ?_ hlog).1
          have hsound := hs.sound p i e hi (by simp)
          cases tr with
          | register =>
              obtain ⟨e', he', hregister⟩ := h.resolve_left (by simp)
              rw [hat] at he'
              cases he'
              intro hmt
              rw [hregister rfl] at hmt
              cases hmt
          | none => exact hsound.propagated
          | deregister => trivial
  | @expire p i e sm he hregistrar happlicant hpending =>
      set s1 := (s.setTalker p i (some { e with sm })).addLog (.unregistered p e.sm) with hs1
      have hopen := hs.openSlot he
      have hslot : s1.talkers p i = some { e with sm } := by
        rw [hs1, addLog_talkers, setTalker_apply, if_pos ⟨rfl, rfl⟩]
      have hplaced := hs.placed p i e he
      have hbalanced : Balanced (some (p, i)) s1 := hopen.balanced.set_entry he
        { e with sm } rfl rfl rfl rfl ⟨hplaced.reserved, hplaced.propagated⟩
      have hsound := hs.sound p i e he (by simp)
      have hingress : Ingress p i (e.wire.info.streamId, e.attrType) sm e.lastPropagatedPriority
          (fun _ => e.lastPropagatedPriority ≠ 0) s1 :=
        ⟨hbalanced, { e with sm }, hslot, rfl, rfl, rfl, fun y hy => hsound.reserved y hy⟩
      have hkeys : (s1.talkers p).KeysUnique MsrpTalkerEntry.key := by
        rw [hs1, addLog_talkers, setTalker_talkers, if_pos rfl]
        exact (hok.talkerKeys p).set_key he rfl
      have hedge : EdgeFits .deregister sm e.lastPropagatedPriority := trivial
      exact (hingress.onTalkerRegistrarChange rfl hkeys hedge hlog).1
  | @evict p i e he =>
      unfold msrpTalkerEvict at hlog ⊢
      dsimp only at hlog ⊢
      have hedge : EdgeFits .deregister e.sm e.lastPropagatedPriority := trivial
      set s1 := mrpOnTalkerRegistrarChange s p e.attrType e.wire .deregister with hs1
      have hlog1 : LogKeepsBalance s1 := by
        intro entry hentry
        apply hlog entry
        split
        · exact hentry
        · exact List.mem_cons_of_mem _ hentry
      obtain ⟨hbalanced, e1, he1, hkey, hsm, hzero⟩ :=
        (hs.openSlot he).onTalkerRegistrarChange rfl (hok.talkerKeys p) hedge hlog1
      rw [← hs1] at hbalanced he1
      simp only [he1]
      have hopen := hbalanced.openSlot he1
      have hplaced := hbalanced.placed p i e1 he1
      have hset : Balanced (some (p, i)) ((s1.setTalker p i (some { e1 with
          sm := { e1.sm with registrar := .MT } })).addLog (.unregistered p e1.sm)) :=
        hopen.balanced.set_entry he1 { e1 with sm := { e1.sm with registrar := .MT } } rfl rfl rfl
          rfl ⟨hplaced.reserved, hplaced.propagated⟩
      refine hset.close ?_
      intro a ha
      rw [addLog_talkers, setTalker_apply, if_pos ⟨rfl, rfl⟩] at ha
      cases ha
      have hsound := hbalanced.sound p i e1 he1 (by simp)
      exact ⟨hsound.reserved, fun hne => absurd (hzero rfl) hne⟩
  | unregister he hregistrar happlicant hpending =>
      exact ⟨fun y cls => (talkerSum_congr fun _ _ => rfl).trans (hs.sum y cls), hs.placed, hs.sound⟩

end Moves

/-! ### Over a run -/

/-- In a run that meets what the accounting asks of it, every aggregate is the sum of what the entries
hold, and what is held is registered. -/
theorem reservations_balance {lite : Bool} {events : List (AvbEvent cfg)}
    (hlog : LogKeepsBalance (avbRun lite events)) :
    (∀ y cls, ((avbRun lite events).admission y cls).admittedBps.toNat
        = ∑ p, ∑ i, slotWeight (MsrpTalkerEntry.classBps y cls) ((avbRun lite events).talkers p i))
      ∧ ∀ p i e, (avbRun lite events).talkers p i = some e → ∀ y, e.admittedBps y ≠ 0 →
          e.sm.registrar = .IN ∨ e.sm.registrar = .LV := by
  have hinv : TablesOk (avbRun lite events) ∧ Balanced none (avbRun lite events) := by
    refine avbRun_invariant_of_moves (I := fun s => TablesOk s ∧ Balanced none s)
      (Q := fun entry => entry.keepsBalance = true) ?_ ?_ ⟨tablesOk_init lite, balanced_init lite⟩ hlog
    · rintro s s' hmove hlog' ⟨hok, hs⟩
      exact ⟨hok.changes hmove.changes, hmove.balanced hok hs hlog'⟩
    · rintro s lite' - ⟨hok, hs⟩
      refine ⟨⟨hok.talkerKeys, hok.listenerKeys, hok.domainKeys, hok.talkerSent, hok.listenerSent,
        hok.domainSent⟩, ?_⟩
      exact ⟨fun y cls => (talkerSum_congr fun _ _ => rfl).trans (hs.sum y cls), hs.placed, hs.sound⟩
  refine ⟨fun y cls => (hinv.2.sum y cls).symm, ?_⟩
  intro p i e he y hy
  have hsound := hinv.2.sound p i e he (by simp)
  have hne := hsound.propagated (hsound.reserved y hy)
  cases hregistrar : e.sm.registrar with
  | IN => exact Or.inl rfl
  | LV => exact Or.inr rfl
  | MT => exact absurd hregistrar hne

/-- A talker that registers and leaves again gives back what it held. -/
theorem reservations_balance_visit :
    let s := avbRun false [.receive (bridgePort 0) none (talkerValue (.ofNat 8 1) 3 224 1),
      .receive (bridgePort 0) none (talkerValue (.ofNat 8 2) 2 224 1), .elapse 2000000,
      .leaveTimers (bridgePort 0)]
    (∀ y cls, (s.admission y cls).admittedBps.toNat
        = ∑ p, ∑ i, slotWeight (MsrpTalkerEntry.classBps y cls) (s.talkers p i))
      ∧ ∀ p i e, s.talkers p i = some e → ∀ y, e.admittedBps y ≠ 0 →
          e.sm.registrar = .IN ∨ e.sm.registrar = .LV := by
  apply reservations_balance
  unfold LogKeepsBalance
  decide +kernel

/-- A local declaration of a stream the port has registered resets the Registrar over the reservation:
it stays in the aggregate and in an entry nobody registers. -/
theorem reset_strands_reservation :
    let s := avbRun false [.receive (bridgePort 0) none (talkerValue (.ofNat 8 1) 3 224 1),
      .declareTalkerAdvertise (bridgePort 0) (.ofNat 8 1) (.ofNat 6 0x91e0f0000001) (.zero 2) 300 1
        false]
    ∃ i, (s.talkers (bridgePort 0) i).any
      (fun e => e.admittedBps (bridgePort 1) ≠ 0 ∧ e.sm.registrar = .MT) = true := by
  refine ⟨⟨0, by decide⟩, ?_⟩
  decide +kernel

end EspAvb
