import EspAvb.Proof.Accounts

/-!
# The admitted bandwidth of a port

What is admitted toward a port, in exact arithmetic and over both SR classes, against three quarters
of its link. The code computes a request and its class's sum modulo 2^32 and gives each class the
whole budget, so the bound is one on the grants: that each of them, taken exactly, fits on top of
both aggregates.
-/

namespace EspAvb

open Relation

variable {cfg : Config}

/-! ### Exact bandwidths -/

/-- Bits a second of a TSpec, framing included. -/
def tspecExactBps (cls : AvbSrClass) (mfs mfi : Nat) : Nat := (mfs + 42) * mfi * cls.intervals * 8

def MsrpTalkerEntry.exactBps (e : MsrpTalkerEntry cfg) (y : cfg.Port) : Nat :=
  match e.admittedTspec y with
  | some (cls, mfs, mfi) => tspecExactBps cls mfs mfi
  | none => 0

/-- What an entry's reservation toward port `y` adds to class `cls`. -/
def MsrpTalkerEntry.classBps (y : cfg.Port) (cls : AvbSrClass) (e : MsrpTalkerEntry cfg) : Nat :=
  if e.admittedClass y = cls then (e.admittedBps y).toNat else 0

/-- The exact bandwidth of the streams admitted toward port `y`. -/
def exactAdmittedBps (s : AvbState cfg) (y : cfg.Port) : Nat :=
  talkerSum (fun e => e.exactBps y) s

def TalkerAdvInfo.exactBps (info : TalkerAdvInfo) : Nat :=
  tspecExactBps (avbSrClassOf info.priority) info.tspecMaxFrameSize.toNat
    info.tspecMaxFrameInterval.toNat

/-- A grant whose exact request fits under the cap, on top of what both classes have admitted. -/
def MsrpLog.fitsBudget : MsrpLog cfg → Bool
  | .admitted _ info before =>
      (before .classA).admittedBps.toNat + (before .classB).admittedBps.toNat + info.exactBps
        ≤ (before (avbSrClassOf info.priority)).capBps.toNat
  | _ => true

def GrantsFitBudget (s : AvbState cfg) : Prop := ∀ entry ∈ s.log, entry.fitsBudget = true

/-- A request below 2^32 is computed as it is. -/
theorem tspecBps_toNat {cls : AvbSrClass} {mfs mfi : Nat} (h : tspecExactBps cls mfs mfi < 2 ^ 32) :
    (tspecBps cls mfs mfi).toNat = tspecExactBps cls mfs mfi := by
  have hmod : (tspecBps cls mfs mfi).toNat = tspecExactBps cls mfs mfi % 2 ^ 32 := by
    unfold tspecBps tspecExactBps
    simp [UInt32.toNat_mul, UInt32.toNat_add, Nat.mul_mod, Nat.add_mod]
  rw [hmod, Nat.mod_eq_of_lt h]

theorem classBps_weight (y : cfg.Port) (cls : AvbSrClass) :
    AccountWeight (MsrpTalkerEntry.classBps y cls) where
  account e e' h := by
    simp only [MsrpTalkerEntry.account, Prod.mk.injEq] at h
    unfold MsrpTalkerEntry.classBps
    rw [h.2.2.1, h.2.2.2.1]
  fresh streamId attrType := by
    unfold MsrpTalkerEntry.classBps MsrpTalkerEntry.fresh
    simp

/-! ### The invariant -/

structure WithinBudget (s : AvbState cfg) : Prop where
  exact : ∀ p i e y, s.talkers p i = some e → e.exactBps y ≤ (e.admittedBps y).toNat
  aggregate : ∀ y cls, talkerSum (MsrpTalkerEntry.classBps y cls) s
    ≤ (s.admission y cls).admittedBps.toNat
  shared : ∀ y, (s.admission y .classA).admittedBps.toNat
      + (s.admission y .classB).admittedBps.toNat
    ≤ (avbSrpAdmissionInit (cfg.port y).linkSpeedMbps).capBps.toNat
  cap : ∀ y cls, (s.admission y cls).capBps
    = (avbSrpAdmissionInit (cfg.port y).linkSpeedMbps).capBps

theorem withinBudget_init (lite : Bool) : WithinBudget (.init cfg lite) where
  exact _ _ _ _ he := by cases he
  aggregate y cls := by simp [talkerSum, AvbState.init, slotWeight]
  shared y := by simp [AvbState.init, avbSrpAdmissionInit]
  cap y cls := rfl

theorem exactBps_account {e e' : MsrpTalkerEntry cfg} (h : e'.account = e.account) (y : cfg.Port) :
    e'.exactBps y = e.exactBps y ∧ e'.admittedBps = e.admittedBps := by
  simp only [MsrpTalkerEntry.account, Prod.mk.injEq] at h
  unfold MsrpTalkerEntry.exactBps
  rw [h.2.2.2.2, h.2.2.1]
  exact ⟨rfl, rfl⟩

/-- Changes that keep the aggregates, and every entry's account or its freshness. -/
theorem WithinBudget.of_accounts {s s' : AvbState cfg} (hs : WithinBudget s)
    (hadmission : s'.admission = s.admission)
    (hsum : ∀ y cls, talkerSum (MsrpTalkerEntry.classBps y cls) s'
      ≤ talkerSum (MsrpTalkerEntry.classBps y cls) s)
    (horigin : ∀ p i e', s'.talkers p i = some e' →
      (∃ e, s.talkers p i = some e ∧ e'.account = e.account)
        ∨ ∃ streamId attrType, e' = .fresh streamId attrType) : WithinBudget s' where
  exact p i e' y he' := by
    obtain ⟨e, he, haccount⟩ | ⟨streamId, attrType, rfl⟩ := horigin p i e' he'
    · obtain ⟨hexact, hbps⟩ := exactBps_account haccount y
      rw [hexact, hbps]
      exact hs.exact p i e y he
    · simp [MsrpTalkerEntry.exactBps, MsrpTalkerEntry.fresh]
  aggregate y cls := by
    rw [hadmission]
    exact (hsum y cls).trans (hs.aggregate y cls)
  shared y := by
    rw [hadmission]
    exact hs.shared y
  cap y cls := by
    rw [hadmission]
    exact hs.cap y cls

theorem release_classBps (e : MsrpTalkerEntry cfg) (y y' : cfg.Port) (cls : AvbSrClass) :
    (e.release y).classBps y' cls = if y' = y then 0 else e.classBps y' cls := by
  unfold MsrpTalkerEntry.classBps MsrpTalkerEntry.release
  by_cases hy : y' = y
  · subst hy
    simp
  · simp [hy]

theorem release_exactBps (e : MsrpTalkerEntry cfg) (y y' : cfg.Port) :
    (e.release y).exactBps y' = if y' = y then 0 else e.exactBps y' := by
  unfold MsrpTalkerEntry.exactBps MsrpTalkerEntry.release
  by_cases hy : y' = y
  · subst hy
    simp
  · simp [hy]

/-- Giving a reservation back lowers the class's sum and its aggregate alike. -/
theorem WithinBudget.release {s : AvbState cfg} (hs : WithinBudget s) (p : cfg.Port)
    (i : TalkerRef cfg) (y : cfg.Port) : WithinBudget (msrpReleaseAdmission s p (some i) y) := by
  cases he : s.talkers p i with
  | none =>
      rw [releaseAdmission_empty he]
      exact hs
  | some e =>
      have hadmission := releaseAdmission_admission (y := y) he
      have htalkers := releaseAdmission_talkers (y := y) he
      constructor
      · intro q j e' y' he'
        rw [htalkers, setTalker_apply] at he'
        split at he'
        · cases he'
          rw [release_exactBps]
          by_cases hy : y' = y
          · simp [hy]
          · simpa [hy, MsrpTalkerEntry.release] using hs.exact p i e y' he
        · exact hs.exact q j e' y' he'
      · intro y' cls
        have hsame : talkerSum (MsrpTalkerEntry.classBps y' cls) (msrpReleaseAdmission s p (some i) y)
            = talkerSum (MsrpTalkerEntry.classBps y' cls) (s.setTalker p i (some (e.release y))) :=
          talkerSum_congr fun q j => by rw [htalkers]
        have hset := talkerSum_setTalker (MsrpTalkerEntry.classBps y' cls) s p i
          (some (e.release y))
        have hbefore := hs.aggregate y' cls
        rw [he] at hset
        simp only [slotWeight, Option.map_some, Option.getD_some, release_classBps] at hset
        rw [hsame, (hadmission y' cls).1]
        unfold MsrpTalkerEntry.classBps at hset hbefore ⊢
        by_cases hy : y' = y
        · subst hy
          by_cases hcls : cls = e.admittedClass y'
          · subst hcls
            simp only [and_self, if_true] at hset ⊢
            omega
          · simp only [hcls, Ne.symm hcls, and_false, if_false, if_true] at hset ⊢
            omega
        · simp only [hy, false_and, if_false] at hset ⊢
          omega
      · intro y'
        rw [(hadmission y' .classA).1, (hadmission y' .classB).1]
        have := hs.shared y'
        omega
      · intro y' cls
        rw [(hadmission y' cls).2]
        exact hs.cap y' cls

/-- The entry of a fresh grant. -/
def MsrpTalkerEntry.grant (e : MsrpTalkerEntry cfg) (y : cfg.Port) (info : TalkerAdvInfo) :
    MsrpTalkerEntry cfg :=
  let cls := avbSrClassOf info.priority
  let mfs := info.tspecMaxFrameSize.toNat
  let mfi := info.tspecMaxFrameInterval.toNat
  (e.reserve y cls (tspecBps cls mfs mfi)).noteTspec y cls mfs mfi

theorem grant_exactBps (e : MsrpTalkerEntry cfg) (y y' : cfg.Port) (info : TalkerAdvInfo) :
    (e.grant y info).exactBps y' = if y' = y then info.exactBps else e.exactBps y' := by
  unfold MsrpTalkerEntry.exactBps MsrpTalkerEntry.grant MsrpTalkerEntry.noteTspec
    MsrpTalkerEntry.reserve
  by_cases hy : y' = y
  · subst hy
    simp [TalkerAdvInfo.exactBps]
  · simp [hy]

theorem grant_admittedBps (e : MsrpTalkerEntry cfg) (y y' : cfg.Port) {info : TalkerAdvInfo}
    (hfits : info.exactBps < 2 ^ 32) : ((e.grant y info).admittedBps y').toNat
      = if y' = y then info.exactBps else (e.admittedBps y').toNat := by
  unfold MsrpTalkerEntry.grant MsrpTalkerEntry.noteTspec MsrpTalkerEntry.reserve
  by_cases hy : y' = y
  · subst hy
    simp only [Function.update_self, if_true]
    exact tspecBps_toNat hfits
  · simp [hy]

theorem grant_admittedClass (e : MsrpTalkerEntry cfg) (y y' : cfg.Port) (info : TalkerAdvInfo) :
    (e.grant y info).admittedClass y'
      = if y' = y then avbSrClassOf info.priority else e.admittedClass y' := by
  unfold MsrpTalkerEntry.grant MsrpTalkerEntry.noteTspec MsrpTalkerEntry.reserve
  by_cases hy : y' = y
  · subst hy
    simp
  · simp [hy]

/-- A grant that fits adds the same to the class's sum, to its aggregate and to what is admitted. -/
theorem WithinBudget.grant {r : AvbState cfg} (hr : WithinBudget r) {p y : cfg.Port}
    {i : TalkerRef cfg} {e : MsrpTalkerEntry cfg} (he : r.talkers p i = some e)
    (hnone : e.admittedBps y = 0) {info : TalkerAdvInfo}
    (hfits : (r.admission y .classA).admittedBps.toNat + (r.admission y .classB).admittedBps.toNat
      + info.exactBps ≤ (r.admission y (avbSrClassOf info.priority)).capBps.toNat)
    {bps : UInt32} (hbps : bps.toNat
      = (r.admission y (avbSrClassOf info.priority)).admittedBps.toNat + info.exactBps) :
    WithinBudget ((r.setAdmitted y (avbSrClassOf info.priority) bps).setTalker p i
      (some (e.grant y info))) := by
  have hsmall : info.exactBps < 2 ^ 32 := by
    have := (r.admission y (avbSrClassOf info.priority)).capBps.toNat_lt
    omega
  set s' := (r.setAdmitted y (avbSrClassOf info.priority) bps).setTalker p i
    (some (e.grant y info)) with hs'
  have hadmission : ∀ y' cls, s'.admission y' cls
      = if y' = y ∧ cls = avbSrClassOf info.priority then
          { r.admission y (avbSrClassOf info.priority) with admittedBps := bps }
        else r.admission y' cls :=
    fun y' cls => setAdmitted_admission r y y' (avbSrClassOf info.priority) cls bps
  have hcap : ∀ y' cls, (s'.admission y' cls).capBps = (r.admission y' cls).capBps := by
    intro y' cls
    rw [hadmission]
    split
    · rename_i hkey
      rw [hkey.1, hkey.2]
    · rfl
  have hagg : ∀ y' cls, (s'.admission y' cls).admittedBps.toNat
      = (r.admission y' cls).admittedBps.toNat
        + if y' = y ∧ cls = avbSrClassOf info.priority then info.exactBps else 0 := by
    intro y' cls
    rw [hadmission]
    split
    · rename_i hkey
      rw [hkey.1, hkey.2, ← hbps]
    · rfl
  constructor
  · intro q j e' y' he'
    have hslot := setTalker_apply (r.setAdmitted y (avbSrClassOf info.priority) bps) p q i j
      (some (e.grant y info))
    rw [← hs', he'] at hslot
    split at hslot
    · cases hslot
      rw [grant_exactBps, grant_admittedBps e y y' hsmall]
      split
      · exact le_refl _
      · exact hr.exact p i e y' he
    · exact hr.exact q j e' y' hslot.symm
  · intro y' cls
    have hset := talkerSum_setTalker (MsrpTalkerEntry.classBps y' cls) (r.setAdmitted y (avbSrClassOf info.priority) bps) p i (some (e.grant y info))
    have hsame : talkerSum (MsrpTalkerEntry.classBps y' cls)
        (r.setAdmitted y (avbSrClassOf info.priority) bps)
          = talkerSum (MsrpTalkerEntry.classBps y' cls) r := talkerSum_congr fun _ _ => rfl
    have hslot : (r.setAdmitted y (avbSrClassOf info.priority) bps).talkers p i = some e := he
    rw [← hs', hslot, hsame] at hset
    have hbefore := hr.aggregate y' cls
    simp only [slotWeight, Option.map_some, Option.getD_some, MsrpTalkerEntry.classBps,
      grant_admittedClass, grant_admittedBps e y y' hsmall] at hset hbefore ⊢
    rw [hagg]
    by_cases hy : y' = y
    · subst hy
      rw [hnone] at hset
      by_cases hcls : cls = avbSrClassOf info.priority
      · subst hcls
        simp only [and_self, if_true, UInt32.toNat_zero, ite_self] at hset ⊢
        omega
      · simp only [hcls, Ne.symm hcls, and_false, if_true, if_false, UInt32.toNat_zero,
          ite_self] at hset ⊢
        omega
    · simp only [hy, false_and, if_false] at hset ⊢
      omega
  · intro y'
    have hbudget := hr.shared y'
    have hrcap := congrArg UInt32.toNat (hr.cap y (avbSrClassOf info.priority))
    rw [hagg, hagg]
    by_cases hy : y' = y
    · subst hy
      cases hcls : avbSrClassOf info.priority with
      | classA =>
          rw [hcls] at hfits hrcap
          simp only [true_and, reduceCtorEq, if_true, if_false]
          omega
      | classB =>
          rw [hcls] at hfits hrcap
          simp only [true_and, reduceCtorEq, if_true, if_false]
          omega
    · simp only [hy, false_and, if_false]
      omega
  · intro y' cls
    rw [hcap]
    exact hr.cap y' cls

/-- Rewriting an entry without touching its reservations. -/
theorem WithinBudget.set_entry {s s' : AvbState cfg} (hs : WithinBudget s) {p : cfg.Port}
    {i : TalkerRef cfg} {e : MsrpTalkerEntry cfg} (he : s.talkers p i = some e)
    (e' : MsrpTalkerEntry cfg) (htalkers : s'.talkers = (s.setTalker p i (some e')).talkers)
    (hadmission : s'.admission = s.admission) (hbps : e'.admittedBps = e.admittedBps)
    (hclass : e'.admittedClass = e.admittedClass)
    (hexact : ∀ y, e'.exactBps y ≤ (e.admittedBps y).toNat) : WithinBudget s' where
  exact q j a y ha := by
    rw [htalkers, setTalker_apply] at ha
    split at ha
    · cases ha
      rw [hbps]
      exact hexact y
    · exact hs.exact q j a y ha
  aggregate y cls := by
    have hset := talkerSum_setTalker (MsrpTalkerEntry.classBps y cls) s p i
      (some e')
    have hsame : talkerSum (MsrpTalkerEntry.classBps y cls) s'
        = talkerSum (MsrpTalkerEntry.classBps y cls) (s.setTalker p i (some e')) :=
      talkerSum_congr fun q j => by rw [htalkers]
    have hbefore := hs.aggregate y cls
    have hweight : e'.classBps y cls = e.classBps y cls := by
      simp only [MsrpTalkerEntry.classBps, hbps, hclass]
    rw [he] at hset
    simp only [slotWeight, Option.map_some, Option.getD_some, hweight] at hset
    rw [hsame, hadmission]
    omega
  shared y := by
    rw [hadmission]
    exact hs.shared y
  cap y cls := by
    rw [hadmission]
    exact hs.cap y cls

theorem noteTspec_exactBps (e : MsrpTalkerEntry cfg) (y y' : cfg.Port) (info : TalkerAdvInfo) :
    (e.noteTspec y (avbSrClassOf info.priority) info.tspecMaxFrameSize.toNat
      info.tspecMaxFrameInterval.toNat).exactBps y'
        = if y' = y then info.exactBps else e.exactBps y' := by
  unfold MsrpTalkerEntry.exactBps MsrpTalkerEntry.noteTspec
  by_cases hy : y' = y
  · subst hy
    simp [TalkerAdvInfo.exactBps]
  · simp [hy]

theorem msrpGranted_withinBudget {s s' : AvbState cfg} (hs : WithinBudget s) {p y : cfg.Port}
    {i : TalkerRef cfg} {info : TalkerAdvInfo} (h : msrpRequest s p i y info = (true, s'))
    (hfits : GrantsFitBudget (msrpGranted s s' p i y info)) :
    WithinBudget (msrpGranted s s' p i y info) := by
  set r := msrpReleaseAdmission s p (some i) y with hr
  have hroom : (MsrpLog.admitted y info (r.admission y)).fitsBudget = true :=
    hfits (.admitted y info (r.admission y)) List.mem_cons_self
  simp only [MsrpLog.fitsBudget, decide_eq_true_eq] at hroom
  have hsmall : info.exactBps < 2 ^ 32 := by
    have := (r.admission y (avbSrClassOf info.priority)).capBps.toNat_lt
    omega
  have hbps : (tspecBps (avbSrClassOf info.priority) info.tspecMaxFrameSize.toNat
      info.tspecMaxFrameInterval.toNat).toNat = info.exactBps := tspecBps_toNat hsmall
  obtain ⟨e, he, ⟨rfl, hheld, hclass⟩ | ⟨hcap, hs'⟩⟩ := msrpRequest_granted h
  · -- the same reservation is kept, and the TSpec it stands for is noted
    refine hs.set_entry he (e.noteTspec y (avbSrClassOf info.priority)
      info.tspecMaxFrameSize.toNat info.tspecMaxFrameInterval.toNat) ?_ rfl rfl rfl ?_
    · unfold msrpGranted AvbState.modifyTalker
      rw [addLog_talkers, he]
      rfl
    · intro y'
      rw [noteTspec_exactBps]
      split
      · rename_i hy
        rw [hy, hheld, hbps]
      · exact hs.exact p i e y' he
  · have hslot : r.talkers p i = some (e.release y) := by
      rw [hr, releaseAdmission_talkers he, setTalker_apply, if_pos ⟨rfl, rfl⟩]
    have hreleased : (e.release y).admittedBps y = 0 := by
      simp [MsrpTalkerEntry.release]
    have hsum := UInt32.toNat_add (r.admission y (avbSrClassOf info.priority)).admittedBps
      (tspecBps (avbSrClassOf info.priority) info.tspecMaxFrameSize.toNat
        info.tspecMaxFrameInterval.toNat)
    have hnowrap : (r.admission y (avbSrClassOf info.priority)).admittedBps.toNat + info.exactBps
        < 2 ^ 32 := by
      have := (r.admission y (avbSrClassOf info.priority)).capBps.toNat_lt
      cases hcls : avbSrClassOf info.priority <;> rw [hcls] at hroom this <;> omega
    rw [hbps, Nat.mod_eq_of_lt hnowrap] at hsum
    have hgrant := (hs.release p i y).grant hslot hreleased hroom hsum
    have hstate : msrpGranted s s' p i y info = ((r.setAdmitted y
        (avbSrClassOf info.priority) ((r.admission y (avbSrClassOf info.priority)).admittedBps
          + tspecBps (avbSrClassOf info.priority) info.tspecMaxFrameSize.toNat
            info.tspecMaxFrameInterval.toNat)).setTalker p i
              (some ((e.release y).grant y info))).addLog (.admitted y info (r.admission y)) := by
      rw [hs']
      simp [msrpGranted, AvbState.modifyTalker, AvbState.setTalker, AvbState.addLog,
        MsrpTalkerEntry.grant, hr]
    rw [hstate]
    exact hgrant.of_accounts rfl (fun _ _ => (talkerSum_congr fun _ _ => rfl).le)
      fun q j a ha => Or.inl ⟨a, ha, rfl⟩

theorem msrpMapSnapshot_account (work : MsrpMapWork) (info : TalkerAdvInfo)
    (e : MsrpTalkerEntry cfg) :
    (msrpMapSnapshot work info e).admittedBps = e.admittedBps
      ∧ (msrpMapSnapshot work info e).admittedClass = e.admittedClass
      ∧ (msrpMapSnapshot work info e).admittedTspec = e.admittedTspec := by
  unfold msrpMapSnapshot
  split
  · exact ⟨rfl, rfl, rfl⟩
  · split <;> exact ⟨rfl, rfl, rfl⟩

theorem Reservation.withinBudget {s s' : AvbState cfg} (h : Reservation s s')
    (hs : WithinBudget s) (hfits : GrantsFitBudget s') : WithinBudget s' := by
  cases h with
  | release p i y => exact hs.release p i y
  | grant h => exact msrpGranted_withinBudget hs h hfits
  | snapshot p i work info =>
      cases he : s.talkers p i with
      | none =>
          rw [AvbState.modifyTalker, he, Option.map_none, setTalker_eq_self s he]
          exact hs
      | some e =>
          obtain ⟨hbps, hclass, htspec⟩ := msrpMapSnapshot_account work info e
          refine hs.set_entry he (msrpMapSnapshot work info e) ?_ rfl hbps hclass ?_
          · rw [AvbState.modifyTalker, he, Option.map_some]
          · intro y
            rw [MsrpTalkerEntry.exactBps, htspec]
            exact hs.exact p i e y he

theorem AvbChange.withinBudget {s s' : AvbState cfg} (h : AvbChange s s') (hs : WithinBudget s)
    (hfits : GrantsFitBudget s') : WithinBudget s' := by
  cases h with
  | write h =>
      exact hs.of_accounts h.admission (fun y cls => (h.sums (classBps_weight y cls)).1)
        fun p i e' he' => (h.origin he').imp_left fun ⟨e, he, haccount, _⟩ => ⟨e, he, haccount⟩
  | reservation h => exact h.withinBudget hs hfits
  | unregister h =>
      cases h with
      | @talker p i e sm he hregistrar happlicant hpending =>
          exact hs.set_entry he { e with sm } rfl rfl rfl rfl fun y => hs.exact p i e y he
      | listener he hregistrar happlicant hpending =>
          exact hs.of_accounts rfl (fun _ _ => (talkerSum_congr fun _ _ => rfl).le)
            fun q j a ha => Or.inl ⟨a, ha, rfl⟩

/-! ### Over a run -/

theorem withinBudget_avbRun {lite : Bool} {events : List (AvbEvent cfg)}
    (hfits : GrantsFitBudget (avbRun lite events)) : WithinBudget (avbRun lite events) := by
  refine avbRun_invariant (fun s s' h hlog hs => h.withinBudget hs hlog) ?_
    (withinBudget_init lite) hfits
  intro s lite' _ hs
  exact hs.of_accounts rfl (fun _ _ => (talkerSum_congr fun _ _ => rfl).le)
    fun q j a ha => Or.inl ⟨a, ha, rfl⟩

/-- The cap, computed modulo 2^32, is at most three quarters of the link. -/
theorem capBps_le (linkSpeedMbps : UInt32) : (avbSrpAdmissionInit linkSpeedMbps).capBps.toNat
    ≤ linkSpeedMbps.toNat * 1000000 * 3 / 4 := by
  unfold avbSrpAdmissionInit
  simp only [UInt32.toNat_div, UInt32.toNat_mul]
  have hrate := Nat.mod_le (linkSpeedMbps.toNat * (1000000 : UInt32).toNat) (2 ^ 32)
  have hcap := Nat.mod_le
    (linkSpeedMbps.toNat * (1000000 : UInt32).toNat % 2 ^ 32 * (3 : UInt32).toNat) (2 ^ 32)
  calc _ ≤ linkSpeedMbps.toNat * (1000000 : UInt32).toNat % 2 ^ 32 * (3 : UInt32).toNat
          / (4 : UInt32).toNat := Nat.div_le_div_right hcap
    _ ≤ linkSpeedMbps.toNat * (1000000 : UInt32).toNat * (3 : UInt32).toNat
          / (4 : UInt32).toNat := Nat.div_le_div_right (Nat.mul_le_mul_right _ hrate)

theorem WithinBudget.exactAdmitted_le {s : AvbState cfg} (h : WithinBudget s) (y : cfg.Port) :
    exactAdmittedBps s y ≤ (cfg.port y).linkSpeedMbps.toNat * 1000000 * 3 / 4 := by
  have hentries : exactAdmittedBps s y
      ≤ talkerSum (fun e => e.classBps y .classA + e.classBps y .classB) s := by
    apply talkerSum_mono
    intro p i e he
    refine (h.exact p i e y he).trans (le_of_eq ?_)
    unfold MsrpTalkerEntry.classBps
    cases e.admittedClass y <;> simp
  calc exactAdmittedBps s y
      ≤ talkerSum (fun e => e.classBps y .classA + e.classBps y .classB) s := hentries
    _ = talkerSum (MsrpTalkerEntry.classBps y .classA) s
        + talkerSum (MsrpTalkerEntry.classBps y .classB) s := talkerSum_add _ _
    _ ≤ (s.admission y .classA).admittedBps.toNat + (s.admission y .classB).admittedBps.toNat :=
        Nat.add_le_add (h.aggregate y .classA) (h.aggregate y .classB)
    _ ≤ (avbSrpAdmissionInit (cfg.port y).linkSpeedMbps).capBps.toNat := h.shared y
    _ ≤ (cfg.port y).linkSpeedMbps.toNat * 1000000 * 3 / 4 := capBps_le _

/-- In a run whose grants, taken exactly, fit on top of both aggregates, what is admitted toward a
port stays within three quarters of its link. -/
theorem exactAdmitted_within_budget {lite : Bool} {events : List (AvbEvent cfg)}
    (hfits : GrantsFitBudget (avbRun lite events)) (y : cfg.Port) :
    exactAdmittedBps (avbRun lite events) y
      ≤ (cfg.port y).linkSpeedMbps.toNat * 1000000 * 3 / 4 :=
  (withinBudget_avbRun hfits).exactAdmitted_le y

def bridgePort (i : Fin 2) : (wiredBridge 2).Port := i

theorem exactAdmitted_within_budget_stereo :
    exactAdmittedBps (avbRun false [.receive (bridgePort 0) none
        (talkerValue (.ofNat 8 1) 3 224 1)]) (bridgePort 1)
      ≤ ((wiredBridge 2).port (bridgePort 1)).linkSpeedMbps.toNat * 1000000 * 3 / 4 := by
  apply exactAdmitted_within_budget
  unfold GrantsFitBudget
  decide +kernel

/-- 2048 frames of 4054 octets an interval multiply to 0 modulo 2^32, and are admitted. -/
theorem wrapped_request_admitted :
    ((wiredBridge 2).port (bridgePort 1)).linkSpeedMbps.toNat * 1000000 * 3 / 4
      < exactAdmittedBps (avbRun false [.receive (bridgePort 0) none
          (talkerValue (.ofNat 8 1) 3 4054 2048)]) (bridgePort 1) := by
  decide +kernel

end EspAvb
