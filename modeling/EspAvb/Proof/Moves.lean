import EspAvb.Proof.Steps

/-!
# Callbacks, reservations and the end of a registration

The talker callback of a port writes the other ports' tables and changes reservations. A registration
changes hands next to its callback; the two together are one move, and every step is a chain of
moves.
-/

namespace EspAvb

open Relation

variable {cfg : Config}

/-! ### Reservations and ended registrations -/

/-- A grant of the admission: the reservation, its log entry, and what was asked for. -/
def msrpGranted (s s' : AvbState cfg) (p : cfg.Port) (i : TalkerRef cfg) (y : cfg.Port)
    (info : TalkerAdvInfo) : AvbState cfg :=
  (s'.addLog (.admitted y info ((msrpReleaseAdmission s p (some i) y).admission y))).modifyTalker p i
    (·.noteTspec y (avbSrClassOf info.priority) info.tspecMaxFrameSize.toNat
      info.tspecMaxFrameInterval.toNat)

/-- The reservation a talker's value asks for. -/
def msrpRequest (s : AvbState cfg) (p : cfg.Port) (i : TalkerRef cfg) (y : cfg.Port)
    (info : TalkerAdvInfo) : Bool × AvbState cfg :=
  msrpUpdateAdmission s p (some i) y (avbSrClassOf info.priority)
    (tspecBps (avbSrClassOf info.priority) info.tspecMaxFrameSize.toNat
      info.tspecMaxFrameInterval.toNat)

/-- A change of a reservation, or of what the MAP notes to have propagated. -/
inductive Reservation : AvbState cfg → AvbState cfg → Prop where
  | release (s : AvbState cfg) (p : cfg.Port) (i : TalkerRef cfg) (y : cfg.Port) :
      Reservation s (msrpReleaseAdmission s p (some i) y)
  | grant {s s' : AvbState cfg} {p : cfg.Port} {i : TalkerRef cfg} {y : cfg.Port}
      {info : TalkerAdvInfo} (h : msrpRequest s p i y info = (true, s')) :
      Reservation s (msrpGranted s s' p i y info)
  | snapshot (s : AvbState cfg) (p : cfg.Port) (i : TalkerRef cfg) (work : MsrpMapWork)
      (info : TalkerAdvInfo) : Reservation s (s.modifyTalker p i (msrpMapSnapshot work info))

/-! ### Reservations leave keys and state machines alone -/

/-- The tables up to what the accounting writes. -/
structure SameEntries (s s' : AvbState cfg) : Prop where
  talkers : ∀ q i, (s'.talkers q i).map (fun e => (e.key, e.sm))
    = (s.talkers q i).map (fun e => (e.key, e.sm))
  listeners : s'.listeners = s.listeners
  domains : s'.domains = s.domains
  avbLite : s'.avbLite = s.avbLite
  mrpLite : s'.mrpLite = s.mrpLite
  log : s.log ⊆ s'.log

theorem SameEntries.refl (s : AvbState cfg) : SameEntries s s :=
  ⟨fun _ _ => rfl, rfl, rfl, rfl, rfl, List.Subset.refl s.log⟩

theorem SameEntries.trans {s s' s'' : AvbState cfg} (h : SameEntries s s')
    (h' : SameEntries s' s'') : SameEntries s s'' where
  talkers q i := (h'.talkers q i).trans (h.talkers q i)
  listeners := h'.listeners.trans h.listeners
  domains := h'.domains.trans h.domains
  avbLite := h'.avbLite.trans h.avbLite
  mrpLite := h'.mrpLite.trans h.mrpLite
  log := List.Subset.trans h.log h'.log

theorem SameTables.sameEntries {s s' : AvbState cfg} (h : SameTables s s') : SameEntries s s' where
  talkers q i := by rw [h.talkers]
  listeners := h.listeners
  domains := h.domains
  avbLite := h.avbLite
  mrpLite := h.mrpLite
  log := h.log

theorem sameEntries_setTalker {s : AvbState cfg} {p : cfg.Port} {i : TalkerRef cfg}
    {e e' : MsrpTalkerEntry cfg} (he : s.talkers p i = some e) (hkey : e'.key = e.key)
    (hsm : e'.sm = e.sm) : SameEntries s (s.setTalker p i (some e')) := by
  refine ⟨?_, rfl, rfl, rfl, rfl, List.Subset.refl s.log⟩
  intro q j
  rw [setTalker_talkers]
  split
  · rename_i hq
    subst hq
    rw [SlotTable.set_apply]
    split
    · rename_i hj
      rw [hj, he, Option.map_some, Option.map_some, hkey, hsm]
    · rfl
  · rfl

theorem sameEntries_modifyTalker {s : AvbState cfg} {p : cfg.Port} {i : TalkerRef cfg}
    {f : MsrpTalkerEntry cfg → MsrpTalkerEntry cfg} (hkey : ∀ e, (f e).key = e.key)
    (hsm : ∀ e, (f e).sm = e.sm) : SameEntries s (s.modifyTalker p i f) := by
  unfold AvbState.modifyTalker
  cases he : s.talkers p i with
  | none =>
      rw [Option.map_none, setTalker_eq_self s he]
      exact .refl s
  | some e => exact sameEntries_setTalker he (hkey e) (hsm e)

theorem sameEntries_setAdmitted (s : AvbState cfg) (y : cfg.Port) (cls : AvbSrClass)
    (bps : UInt32) : SameEntries s (s.setAdmitted y cls bps) :=
  ⟨fun _ _ => rfl, rfl, rfl, rfl, rfl, List.Subset.refl s.log⟩

theorem sameEntries_releaseAdmission (s : AvbState cfg) (p : cfg.Port)
    (ingress : Option (TalkerRef cfg)) (y : cfg.Port) :
    SameEntries s (msrpReleaseAdmission s p ingress y) := by
  unfold msrpReleaseAdmission
  split
  · exact .refl s
  · rename_i i
    split
    · exact .refl s
    · rename_i e he
      dsimp only
      split
      · exact sameEntries_setTalker he rfl rfl
      · exact (sameEntries_setAdmitted s y _ _).trans (sameEntries_setTalker (e := e) he rfl rfl)

theorem sameEntries_request {s s' : AvbState cfg} {p : cfg.Port} {i : TalkerRef cfg} {y : cfg.Port}
    {info : TalkerAdvInfo} {granted : Bool} (h : msrpRequest s p i y info = (granted, s')) :
    SameEntries s s' := by
  unfold msrpRequest msrpUpdateAdmission at h
  dsimp only at h
  have hrelease := sameEntries_releaseAdmission s p (some i) y
  split at h
  · cases h
    exact .refl s
  · split at h
    · cases h
      exact .refl s
    · split at h
      · cases h
        exact hrelease
      · rename_i s1 hasked
        cases h
        have hadmitted : SameEntries (msrpReleaseAdmission s p (some i) y) s1 := by
          unfold avbSrpAdmissionTryAdmit at hasked
          dsimp only at hasked
          split at hasked
          · cases hasked
          · split at hasked
            · cases hasked
            · cases hasked
              exact sameEntries_setAdmitted _ _ _ _
        exact (hrelease.trans hadmitted).trans
          (sameEntries_modifyTalker (fun _ => rfl) (fun _ => rfl))

theorem Reservation.sameEntries {s s' : AvbState cfg} (h : Reservation s s') : SameEntries s s' := by
  cases h with
  | release p i y => exact sameEntries_releaseAdmission s p (some i) y
  | grant h =>
      exact ((sameEntries_request h).trans (sameTables_addLog _).sameEntries).trans
        (sameEntries_modifyTalker (fun _ => rfl) (fun _ => rfl))
  | snapshot p i work info =>
      apply sameEntries_modifyTalker
      · intro e
        unfold msrpMapSnapshot
        split
        · rfl
        · split <;> rfl
      · intro e
        unfold msrpMapSnapshot
        split
        · rfl
        · split <;> rfl

/-! ### The callback of a talker -/

/-- A write of the callback of port `p`. -/
inductive MapWrite (p : cfg.Port) : AvbState cfg → AvbState cfg → Prop where
  | write {s s' : AvbState cfg} (h : TableWrite (· ≠ p) False s s') : MapWrite p s s'
  | reservation {s s' : AvbState cfg} (h : Reservation s s') : MapWrite p s s'

abbrev MapWrites (p : cfg.Port) (s s' : AvbState cfg) : Prop := ReflTransGen (MapWrite p) s s'

theorem Writes.mapWrites {p : cfg.Port} {s s' : AvbState cfg} (h : Writes (· ≠ p) s s') :
    MapWrites p s s' :=
  ReflTransGen.mono (fun _ _ hwrite => .write hwrite) s s' h

section Map

variable (s : AvbState cfg) {p y : cfg.Port}

theorem mapWrites_releaseAdmission (ingress : Option (TalkerRef cfg)) :
    MapWrites p s (msrpReleaseAdmission s p ingress y) := by
  cases ingress with
  | none => exact .refl
  | some i => exact .single (.reservation (.release s p i y))

/-- A request that is not granted has given back what was held. -/
theorem msrpRequest_refused {i : TalkerRef cfg} {info : TalkerAdvInfo} {s' : AvbState cfg}
    (h : msrpRequest s p i y info = (false, s')) :
    s' = msrpReleaseAdmission s p (some i) y := by
  unfold msrpRequest msrpUpdateAdmission at h
  dsimp only at h
  split at h
  · rename_i hnone
    cases h
    simp only [msrpReleaseAdmission, hnone]
  · split at h
    · cases h
    · split at h
      · cases h
        rfl
      · cases h

theorem mapWrites_mapAdmit (hy : y ≠ p) (ingress : Option (TalkerRef cfg)) (info : TalkerAdvInfo) :
    MapWrites p s (msrpMapAdmit s p y ingress info) := by
  cases ingress with
  | none => exact (writes_mapDeclareFailed (P := (· ≠ p)) s hy _ _ _).mapWrites
  | some i =>
      rcases hrequest : msrpRequest s p i y info with ⟨granted, s'⟩
      have hrequest' := hrequest
      unfold msrpRequest at hrequest'
      unfold msrpMapAdmit
      dsimp only
      rw [hrequest']
      cases granted with
      | true =>
          have hgrant : MapWrites p s (msrpGranted s s' p i y info) :=
            .single (.reservation (.grant hrequest))
          exact hgrant.trans
            (writes_mapDeclareAdvertise (P := (· ≠ p)) _ hy _).mapWrites
      | false =>
          have hrelease : MapWrites p s s' := by
            rw [msrpRequest_refused s hrequest]
            exact .single (.reservation (.release s p i y))
          exact hrelease.trans
            (writes_mapDeclareFailed (P := (· ≠ p)) _ hy _ _ _).mapWrites

theorem mapWrites_mapDeclare (hy : y ≠ p) (ingress : Option (TalkerRef cfg)) (isFailed : Bool)
    (wire : MsrpTalkerMessage) : MapWrites p s (msrpMapDeclare s p y ingress isFailed wire) := by
  have hfailed : ∀ (s : AvbState cfg) code srcBridgeId,
      MapWrites p s (msrpMapDeclareFailed s y wire.info code srcBridgeId) :=
    fun s _ _ => (writes_mapDeclareFailed (P := (· ≠ p)) s hy _ _ _).mapWrites
  unfold msrpMapDeclare
  dsimp only
  split
  · exact hfailed s _ _
  · split
    · exact (mapWrites_releaseAdmission s ingress).trans (hfailed _ _ _)
    · split
      · split
        · exact hfailed s _ _
        · exact (writes_mapDeclareAdvertise (P := (· ≠ p)) s hy _).mapWrites
      · exact mapWrites_mapAdmit s hy ingress _

theorem mapWrites_mapEgress (work : MsrpMapWork) (ingress : Option (TalkerRef cfg)) (isFailed : Bool)
    (wire : MsrpTalkerMessage) : MapWrites p s (msrpMapEgress work p ingress isFailed wire s y) := by
  unfold msrpMapEgress
  split
  · exact .refl
  · rename_i hturn
    have hy : y ≠ p := fun hyp => hturn (Or.inl hyp)
    dsimp only
    have hrelease : MapWrites p s (if work.release then msrpReleaseAdmission s p ingress y else s) := by
      split
      · exact mapWrites_releaseAdmission s ingress
      · exact .refl
    have hwithdraw : ∀ s : AvbState cfg,
        MapWrites p s (if work.withdraw then mrpWithdrawTalker s y wire.info.streamId else s) := by
      intro s
      split
      · exact (writes_withdrawTalker (P := (· ≠ p)) s hy _).mapWrites
      · exact .refl
    have hdeclare : ∀ s : AvbState cfg,
        MapWrites p s (if work.admitDeclare then msrpMapDeclare s p y ingress isFailed wire else s) := by
      intro s
      split
      · exact mapWrites_mapDeclare s hy ingress isFailed wire
      · exact .refl
    exact (hrelease.trans (hwithdraw _)).trans (hdeclare _)

theorem mapWrites_mapTalker (attrType : MsrpAttrType) (wire : MsrpTalkerMessage)
    (tr : MrpRegTransition) : MapWrites p s (msrpMapTalker s p attrType wire tr) := by
  unfold msrpMapTalker
  split
  · exact .refl
  · dsimp only
    split
    · exact .refl
    · have hports : ∀ (work : MsrpMapWork) (ingress : Option (TalkerRef cfg)) (isFailed : Bool),
          MapWrites p s (forPorts (msrpMapEgress work p ingress isFailed wire) s) :=
        fun work ingress isFailed =>
          reflTransGen_foldl id (fun s y => mapWrites_mapEgress s work ingress isFailed wire) _ s
      split
      · exact (hports _ _ _).tail (.reservation (.snapshot _ p _ _ _))
      · exact hports _ _ _

theorem mapWrites_onTalkerRegistrarChange (attrType : MsrpAttrType) (wire : MsrpTalkerMessage)
    (tr : MrpRegTransition) : MapWrites p s (mrpOnTalkerRegistrarChange s p attrType wire tr) := by
  have hinput := (writes_talkerInputStream (P := (· ≠ p)) s p attrType wire tr).mapWrites
  unfold mrpOnTalkerRegistrarChange
  dsimp only
  split
  · exact hinput.trans (mapWrites_mapTalker _ attrType wire tr)
  · exact hinput

end Map

/-- A write outside the talker table of port `p` leaves it as it was. -/
theorem TableWrite.talkers_other {P : cfg.Port → Prop} {R : Prop} {s s' : AvbState cfg}
    (h : TableWrite P R s s') {p : cfg.Port} (hp : ¬ P p) : s'.talkers p = s.talkers p := by
  have hne : ∀ {q : cfg.Port}, P q → p ≠ q := by
    rintro q hq rfl
    exact hp hq
  cases h with
  | frame h => rw [h.talkers]
  | talkers hport h => exact Function.update_of_ne (hne hport) _ _
  | receiveTalker _ hport | withdrawTalker hport | leaveTalker hport | resetTalker hport
      | insertTalker hport | dropTalker hport => exact Function.update_of_ne (hne hport) _ _
  | _ => rfl

theorem Writes.talkers_same {p : cfg.Port} {s s' : AvbState cfg} (h : Writes (· ≠ p) s s') :
    s'.talkers p = s.talkers p := by
  induction h with
  | refl => rfl
  | tail _ hlast ih => rw [hlast.talkers_other (fun hne => hne rfl), ih]

/-- The callback of port `p` keeps its own entries up to what the accounting writes. -/
theorem MapWrites.entries {p : cfg.Port} {s s' : AvbState cfg} (h : MapWrites p s s')
    (i : TalkerRef cfg) : (s'.talkers p i).map (fun e => (e.key, e.sm))
      = (s.talkers p i).map (fun e => (e.key, e.sm)) := by
  induction h with
  | refl => rfl
  | tail _ hwrite ih =>
      rw [← ih]
      cases hwrite with
      | write h => rw [h.talkers_other (fun hne => hne rfl)]
      | reservation h => exact h.sameEntries.talkers p i

/-! ### Every change -/

/-- The Registrar leaves for MT, under the Applicant as it stands. -/
inductive Unregister : AvbState cfg → AvbState cfg → Prop where
  | talker {s : AvbState cfg} {p : cfg.Port} {i : TalkerRef cfg} {e : MsrpTalkerEntry cfg}
      {sm : MrpSm} (he : s.talkers p i = some e) (hregistrar : sm.registrar = .MT)
      (happlicant : sm.applicant = e.sm.applicant) (hpending : sm.pendingTx = e.sm.pendingTx) :
      Unregister s ((s.setTalker p i (some { e with sm })).addLog (.unregistered p e.sm))
  | listener {s : AvbState cfg} {p : cfg.Port} {i : ListenerRef cfg} {e : MsrpListenerEntry}
      {sm : MrpSm} (he : s.listeners p i = some e) (hregistrar : sm.registrar = .MT)
      (happlicant : sm.applicant = e.sm.applicant) (hpending : sm.pendingTx = e.sm.pendingTx) :
      Unregister s ((s.setListener p i (some { e with sm })).addLog (.unregistered p e.sm))

inductive AvbChange : AvbState cfg → AvbState cfg → Prop where
  | write {s s' : AvbState cfg} (h : TableWrite (fun _ => True) True s s') : AvbChange s s'
  | reservation {s s' : AvbState cfg} (h : Reservation s s') : AvbChange s s'
  | unregister {s s' : AvbState cfg} (h : Unregister s s') : AvbChange s s'

abbrev Changes (s s' : AvbState cfg) : Prop := ReflTransGen AvbChange s s'

theorem MapWrites.changes {p : cfg.Port} {s s' : AvbState cfg} (h : MapWrites p s s') :
    Changes s s' := by
  refine ReflTransGen.mono ?_ s s' h
  intro a b hab
  cases hab with
  | write h => exact .write (h.mono (fun _ _ => trivial) False.elim)
  | reservation h => exact .reservation h

theorem Writes.changes {P : cfg.Port → Prop} {s s' : AvbState cfg} (h : Writes P s s') :
    Changes s s' :=
  ReflTransGen.mono (fun _ _ hwrite => .write (hwrite.mono (fun _ _ => trivial) False.elim)) s s' h

/-! ### Moves

A registration changes hands with its callback, so the accounting is looked at from one callback to
the next.
-/

/-- The registration of a talker ends, then the callback. -/
def msrpTalkerExpire (s : AvbState cfg) (p : cfg.Port) (i : TalkerRef cfg)
    (e : MsrpTalkerEntry cfg) (sm : MrpSm) : AvbState cfg :=
  mrpOnTalkerRegistrarChange ((s.setTalker p i (some { e with sm })).addLog (.unregistered p e.sm))
    p e.attrType e.wire .deregister

/-- The callback, then the registration of the talker ends. -/
def msrpTalkerEvict (s : AvbState cfg) (p : cfg.Port) (i : TalkerRef cfg)
    (e : MsrpTalkerEntry cfg) : AvbState cfg :=
  let s := mrpOnTalkerRegistrarChange s p e.attrType e.wire .deregister
  match s.talkers p i with
  | none => s
  | some e =>
      (s.setTalker p i (some { e with sm := { e.sm with registrar := .MT } })).addLog
        (.unregistered p e.sm)

/-- What a step is made of, with each callback next to the change of the Registrar it tells of. -/
inductive AvbMove : AvbState cfg → AvbState cfg → Prop where
  | write {s s' : AvbState cfg} (h : TableWrite (fun _ => True) True s s') : AvbMove s s'
  | callback {s : AvbState cfg} {p : cfg.Port} {attrType : MsrpAttrType} {wire : MsrpTalkerMessage}
      {tr : MrpRegTransition}
      (h : tr = .none ∨ ∃ e, talkerAt s p wire.info.streamId attrType = some e
        ∧ (tr = .register → e.sm.registrar = .IN)) :
      AvbMove s (mrpOnTalkerRegistrarChange s p attrType wire tr)
  | expire {s : AvbState cfg} {p : cfg.Port} {i : TalkerRef cfg} {e : MsrpTalkerEntry cfg}
      {sm : MrpSm} (he : s.talkers p i = some e) (hregistrar : sm.registrar = .MT)
      (happlicant : sm.applicant = e.sm.applicant) (hpending : sm.pendingTx = e.sm.pendingTx) :
      AvbMove s (msrpTalkerExpire s p i e sm)
  | evict {s : AvbState cfg} {p : cfg.Port} {i : TalkerRef cfg} {e : MsrpTalkerEntry cfg}
      (he : s.talkers p i = some e) : AvbMove s (msrpTalkerEvict s p i e)
  | unregister {s : AvbState cfg} {p : cfg.Port} {i : ListenerRef cfg} {e : MsrpListenerEntry}
      {sm : MrpSm} (he : s.listeners p i = some e) (hregistrar : sm.registrar = .MT)
      (happlicant : sm.applicant = e.sm.applicant) (hpending : sm.pendingTx = e.sm.pendingTx) :
      AvbMove s ((s.setListener p i (some { e with sm })).addLog (.unregistered p e.sm))

abbrev Moves (s s' : AvbState cfg) : Prop := ReflTransGen AvbMove s s'

theorem Writes.moves {P : cfg.Port → Prop} {s s' : AvbState cfg} (h : Writes P s s') : Moves s s' :=
  ReflTransGen.mono (fun _ _ hwrite => .write (hwrite.mono (fun _ _ => trivial) False.elim)) s s' h

theorem AvbMove.changes {s s' : AvbState cfg} (h : AvbMove s s') : Changes s s' := by
  cases h with
  | write h => exact .single (.write h)
  | callback h => exact (mapWrites_onTalkerRegistrarChange _ _ _ _).changes
  | expire he hregistrar happlicant hpending =>
      have hend := Unregister.talker he hregistrar happlicant hpending
      exact (ReflTransGen.single (.unregister hend)).trans
        ((mapWrites_onTalkerRegistrarChange _ _ _ _).changes)
  | @evict p i e he =>
      unfold msrpTalkerEvict
      dsimp only
      refine (mapWrites_onTalkerRegistrarChange s (p := p) e.attrType e.wire
        .deregister).changes.trans ?_
      split
      · exact .refl
      · rename_i e' he'
        exact .single (.unregister (.talker he' rfl rfl rfl))
  | unregister he hregistrar happlicant hpending =>
      exact .single (.unregister (.listener he hregistrar happlicant hpending))

theorem Moves.changes {s s' : AvbState cfg} (h : Moves s s') : Changes s s' := by
  induction h with
  | refl => exact .refl
  | tail _ hmove ih => exact ih.trans hmove.changes

section Moves

variable (s : AvbState cfg) {p : cfg.Port}

/-- A displaced twin is evicted. -/
theorem msrpDisplaceTwin_eq (streamId : UniqueId) (attrType : MsrpAttrType) :
    msrpDisplaceTwin s p streamId attrType = s
      ∨ ∃ i e, s.talkers p i = some e ∧ e.key = (streamId, attrType.twin)
          ∧ msrpDisplaceTwin s p streamId attrType = msrpTalkerEvict s p i e := by
  unfold msrpDisplaceTwin
  split
  · exact Or.inl rfl
  · rename_i i hfind
    split
    · exact Or.inl rfl
    · rename_i twin htwin
      split
      · exact Or.inl rfl
      · obtain ⟨e, he, hq⟩ := SlotTable.find_eq_some hfind
        rw [htwin] at he
        cases he
        have hkey := talkerIs_iff.mp hq
        have htype : attrType.twin = twin.attrType := (congrArg Prod.snd hkey).symm
        rw [htype]
        exact Or.inr ⟨i, twin, htwin, hkey.trans (by rw [htype]), rfl⟩

theorem moves_displaceTwin (streamId : UniqueId) (attrType : MsrpAttrType) :
    Moves s (msrpDisplaceTwin s p streamId attrType) := by
  obtain h | ⟨i, e, he, -, h⟩ := msrpDisplaceTwin_eq s (p := p) streamId attrType
  · rw [h]
  · rw [h]
    exact .single (.evict he)

theorem any_talkerIs (streamId : UniqueId) (attrType : MsrpAttrType)
    (slot : Option (MsrpTalkerEntry cfg)) : slot.any (talkerIs streamId attrType)
      = decide (slot.map (·.key) = some (streamId, attrType)) := by
  cases slot with
  | none => rfl
  | some e =>
      rw [Option.any_some, Option.map_some, Bool.eq_iff_iff, talkerIs_iff]
      simp

/-- Searches see the keys alone. -/
theorem msrpTalkerFind_congr {s s' : AvbState cfg}
    (h : ∀ j, (s'.talkers p j).map (·.key) = (s.talkers p j).map (·.key)) (streamId : UniqueId)
    (attrType : MsrpAttrType) :
    msrpTalkerFind s' p streamId attrType = msrpTalkerFind s p streamId attrType := by
  simp only [msrpTalkerFind, SlotTable.find, any_talkerIs, h]

/-- An eviction keeps the port's entries but for the evicted one's Registrar. -/
theorem msrpTalkerEvict_entries {i : TalkerRef cfg} {e : MsrpTalkerEntry cfg}
    (he : s.talkers p i = some e) (j : TalkerRef cfg) :
    ((msrpTalkerEvict s p i e).talkers p j).map (fun e => (e.key, e.sm))
      = (s.talkers p j).map fun e =>
          (e.key, if j = i then { e.sm with registrar := .MT } else e.sm) := by
  have hentries := (mapWrites_onTalkerRegistrarChange s (p := p) e.attrType e.wire
    .deregister).entries
  unfold msrpTalkerEvict
  dsimp only
  generalize mrpOnTalkerRegistrarChange s p e.attrType e.wire .deregister = s1 at hentries ⊢
  have hi := hentries i
  rw [he, Option.map_some, Option.map_eq_some_iff] at hi
  obtain ⟨e', he', hsame⟩ := hi
  obtain ⟨hkey, hsm⟩ := Prod.mk.inj hsame
  simp only [he', addLog_talkers, setTalker_talkers, if_pos]
  by_cases hj : j = i
  · subst hj
    rw [SlotTable.set_same, he, Option.map_some, Option.map_some, if_pos rfl, ← hkey, ← hsm]
    rfl
  · rw [SlotTable.set_other _ _ hj, hentries j]
    simp only [if_neg hj]

/-- A received talker attribute: the value is taken in, and displaces its twin. -/
theorem msrpRxTalkerAttr_eq (attrType : MsrpAttrType) (wire : MsrpTalkerMessage)
    (srcAddr : Option EthAddr) :
    (msrpRxTalkerAttr s p attrType wire srcAddr).2 = msrpRxTalkerTake s p attrType wire srcAddr
      ∨ (msrpRxTalkerAttr s p attrType wire srcAddr).2
        = msrpDisplaceTwin (msrpRxTalkerTake s p attrType wire srcAddr) p wire.info.streamId
            attrType := by
  unfold msrpRxTalkerAttr msrpRxTalkerTake
  cases hinsert : msrpTalkerFindOrInsert s p wire.info.streamId attrType with
  | none => exact Or.inl rfl
  | some found =>
      obtain ⟨i, s1⟩ := found
      cases he : s1.talkers p i with
      | none => simp only [he, true_or]
      | some e =>
          simp only [he]
          split
          · exact Or.inr rfl
          · exact Or.inl rfl

theorem MsrpAttrType.twin_ne (attrType : MsrpAttrType) : attrType.twin ≠ attrType := by
  cases attrType <;> decide

/-- Displacing the twin leaves the state machines of the attribute itself as they were. -/
theorem msrpDisplaceTwin_talkerAt (streamId : UniqueId) (attrType : MsrpAttrType) :
    (talkerAt (msrpDisplaceTwin s p streamId attrType) p streamId attrType).map (·.sm)
      = (talkerAt s p streamId attrType).map (·.sm) := by
  obtain h | ⟨i, twin, htwin, hkey, h⟩ := msrpDisplaceTwin_eq s (p := p) streamId attrType
  · rw [h]
  rw [h]
  have hentries := msrpTalkerEvict_entries s htwin
  have hkeys : ∀ j, ((msrpTalkerEvict s p i twin).talkers p j).map (·.key)
      = (s.talkers p j).map (·.key) := by
    intro j
    have hj := congrArg (Option.map Prod.fst) (hentries j)
    simpa only [Option.map_map, Function.comp_def] using hj
  have hfind := msrpTalkerFind_congr hkeys streamId attrType
  unfold msrpTalkerFind at hfind
  cases hslot : (s.talkers p).find (talkerIs streamId attrType) with
  | none =>
      rw [hslot] at hfind
      simp [talkerAt, SlotTable.lookup, hfind, hslot]
  | some j =>
      rw [hslot] at hfind
      obtain ⟨e, he, hq⟩ := SlotTable.find_eq_some hslot
      have hj : j ≠ i := by
        rintro rfl
        rw [htwin] at he
        cases he
        have htypes := congrArg Prod.snd ((talkerIs_iff.mp hq).symm.trans hkey)
        exact MsrpAttrType.twin_ne attrType htypes.symm
      have hsm := congrArg (Option.map Prod.snd) (hentries j)
      simp only [Option.map_map, Function.comp_def, if_neg hj] at hsm
      rw [talkerAt, talkerAt, SlotTable.lookup_of_find hfind, SlotTable.lookup_of_find hslot]
      exact hsm

/-- An edge the callback of a received attribute is told of has come to its entry. -/
theorem msrpRxTalkerAttr_edge (attrType : MsrpAttrType) (wire : MsrpTalkerMessage)
    (srcAddr : Option EthAddr) : (msrpRxTalkerAttr s p attrType wire srcAddr).1 = .none
      ∨ ∃ e, talkerAt (msrpRxTalkerAttr s p attrType wire srcAddr).2 p wire.info.streamId attrType
          = some e
        ∧ ((msrpRxTalkerAttr s p attrType wire srcAddr).1 = .register → e.sm.registrar = .IN) := by
  unfold msrpRxTalkerAttr
  cases hinsert : msrpTalkerFindOrInsert s p wire.info.streamId attrType with
  | none => exact Or.inl rfl
  | some found =>
      right
      obtain ⟨i, s1⟩ := found
      obtain ⟨-, e0, he0, hkey⟩ := writes_talkerFindOrInsert (P := fun _ => True) trivial hinsert
      simp only [he0]
      have hkey' : (msrpTalkerReceive s1.nowUs wire srcAddr e0).key
          = (wire.info.streamId, attrType) := by
        unfold msrpTalkerReceive MsrpTalkerEntry.key
        dsimp only
        split
        · exact hkey
        · rw [show e0.attrType = attrType from congrArg Prod.snd hkey]
      have htable : ((msrpLogPeerLeft s1 p wire.event e0.sm).setTalker p i
          (some (msrpTalkerReceive s1.nowUs wire srcAddr e0))).talkers p
            = (s1.talkers p).set i (some (msrpTalkerReceive s1.nowUs wire srcAddr e0)) := by
        unfold msrpLogPeerLeft
        split <;> simp
      have hfind : (s1.talkers p).find (talkerIs wire.info.streamId attrType) = some i := by
        obtain ⟨j, e1, hfind, -, hout⟩ | ⟨j, hfind, -, hout⟩ | ⟨-, -, hout⟩ :=
          msrpTalkerFindOrInsert_outcome s p wire.info.streamId attrType
        · rw [hinsert] at hout
          cases hout
          exact hfind
        · rw [hinsert] at hout
          cases hout
          rw [setTalker_talkers, if_pos rfl]
          exact SlotTable.find_set_match (Or.inr hfind) (talkerIs_iff.mpr rfl)
        · rw [hinsert] at hout
          cases hout
      have hat : talkerAt ((msrpLogPeerLeft s1 p wire.event e0.sm).setTalker p i
          (some (msrpTalkerReceive s1.nowUs wire srcAddr e0))) p wire.info.streamId attrType
            = some (msrpTalkerReceive s1.nowUs wire srcAddr e0) := by
        rw [talkerAt, htable]
        exact SlotTable.lookup_set_match (Or.inl hfind) (talkerIs_iff.mpr hkey')
      have hin : mrpRegTransition e0.sm.registrar
          (msrpTalkerReceive s1.nowUs wire srcAddr e0).sm.registrar = .register →
          (msrpTalkerReceive s1.nowUs wire srcAddr e0).sm.registrar = .IN := by
        generalize (msrpTalkerReceive s1.nowUs wire srcAddr e0).sm.registrar = after
        unfold mrpRegTransition
        cases e0.sm.registrar <;> cases after <;> simp
      split
      · have hsm := msrpDisplaceTwin_talkerAt ((msrpLogPeerLeft s1 p wire.event e0.sm).setTalker p i
          (some (msrpTalkerReceive s1.nowUs wire srcAddr e0))) (p := p) wire.info.streamId attrType
        rw [hat, Option.map_some, Option.map_eq_some_iff] at hsm
        obtain ⟨e, he, hsame⟩ := hsm
        refine ⟨e, he, ?_⟩
        rw [hsame]
        exact hin
      · exact ⟨_, hat, hin⟩

theorem moves_rxTalker (attrType : MsrpAttrType) (wire : MsrpTalkerMessage)
    (srcAddr : Option EthAddr) : Moves s (msrpRxTalker s p attrType wire srcAddr) := by
  have htake : Moves s (msrpRxTalkerTake s p attrType wire srcAddr) :=
    ReflTransGen.mono (fun _ _ hwrite => .write hwrite) _ _
      (writes_rxTalkerTake s (P := fun _ => True) trivial attrType wire srcAddr)
  have hattr : Moves s (msrpRxTalkerAttr s p attrType wire srcAddr).2 := by
    obtain h | h := msrpRxTalkerAttr_eq s (p := p) attrType wire srcAddr
    · rw [h]
      exact htake
    · rw [h]
      exact htake.trans (moves_displaceTwin _ _ _)
  unfold msrpRxTalker
  exact (hattr.tail (.callback (msrpRxTalkerAttr_edge s attrType wire srcAddr))).trans
    (writes_wifiAfterDeclaration (P := fun _ => True) _ fun _ => trivial).moves

/-! ### LeaveTimers and idle timeouts -/

theorem leaveTimer_idle {sm : MrpSm} (h : sm.registrar ≠ .LV) (nowUs : Nat) :
    mrpSmStep nowUs sm .leaveTimer = sm := by
  simp [mrpSmStep, mrpApplicantStep, mrpApplicantNext, mrpApplicantTx, mrpRegistrarStep, h]

theorem leaveTimer_expires {sm : MrpSm} (h : sm.registrar = .LV) (nowUs : Nat) :
    mrpSmStep nowUs sm .leaveTimer = { sm with registrar := .MT, leaveTimerUs := 0 } := by
  simp [mrpSmStep, mrpApplicantStep, mrpApplicantNext, mrpApplicantTx, mrpRegistrarStep, h]

theorem leaveTimerTransition_idle (registrar : MrpRegistrarState) (h : registrar ≠ .LV) :
    mrpLeaveTimerTransition registrar registrar = .none := by
  cases registrar with
  | LV => exact absurd rfl h
  | _ => rfl

theorem moves_leaveTimerTalker (i : TalkerRef cfg) : Moves s (mrpLeaveTimerTalker p s i) := by
  unfold mrpLeaveTimerTalker
  split
  · exact .refl
  · rename_i e he
    split
    · dsimp only
      by_cases hlv : e.sm.registrar = .LV
      · have htr : mrpLeaveTimerTransition e.sm.registrar .MT = .deregister := by
          rw [hlv]
          rfl
        rw [leaveTimer_expires hlv, htr, if_neg (by decide)]
        exact .single (.expire he rfl rfl rfl)
      · rw [leaveTimer_idle hlv, leaveTimerTransition_idle _ hlv, if_pos rfl,
          setTalker_eq_self s he]
    · exact .refl

theorem moves_leaveTimerListener (i : ListenerRef cfg) :
    Moves s (mrpLeaveTimerListener p s i) := by
  unfold mrpLeaveTimerListener
  split
  · exact .refl
  · rename_i e he
    split
    · dsimp only
      by_cases hlv : e.sm.registrar = .LV
      · have hend : Moves s ((s.setListener p i
            (some { e with sm := { e.sm with registrar := .MT, leaveTimerUs := 0 } })).addLog
              (.unregistered p e.sm)) :=
          .single (.unregister he rfl rfl rfl)
        have htr : mrpLeaveTimerTransition e.sm.registrar .MT = .deregister := by
          rw [hlv]
          rfl
        rw [leaveTimer_expires hlv, htr, if_neg (by decide)]
        exact hend.trans
          (writes_onListenerRegistrarChange (P := fun _ => True) _ _ _ _ _).moves
      · rw [leaveTimer_idle hlv, leaveTimerTransition_idle _ hlv, if_pos rfl,
          setListener_eq_self s he]
    · exact .refl

theorem moves_leaveTimerDomain (i : DomainRef) : Moves s (mrpLeaveTimerDomain p s i) := by
  unfold mrpLeaveTimerDomain
  split
  · exact .refl
  · rename_i e he
    split
    · have hpending : (mrpSmStep s.nowUs e.sm .leaveTimer).pendingTx = e.sm.pendingTx := by
        simp [mrpSmStep, mrpApplicantStep, mrpApplicantTx]
      have hwrite : Writes (fun _ => True) s
          (s.setDomain p i (some { e with sm := mrpSmStep s.nowUs e.sm .leaveTimer })) :=
        writes_setDomain he ⟨rfl, fun hnone => hpending.trans hnone, fun h => h.step s.nowUs _⟩
      exact Writes.moves (hwrite.trans (writes_onDomainRegistrarChange _ _ _ _))
    · exact .refl

theorem moves_idleTimeoutTalker (i : TalkerRef cfg) :
    Moves s (mrpIdleTimeoutTalker p s i) := by
  unfold mrpIdleTimeoutTalker
  split
  · exact .refl
  · rename_i e he
    split
    · exact .single (.expire he rfl rfl rfl)
    · exact .refl

theorem moves_idleTimeoutListener (i : ListenerRef cfg) :
    Moves s (mrpIdleTimeoutListener p s i) := by
  unfold mrpIdleTimeoutListener
  split
  · exact .refl
  · rename_i e he
    split
    · have hend : Moves s ((s.setListener p i
          (some { e with sm := { e.sm with registrar := .MT } })).addLog
            (.unregistered p e.sm)) :=
        .single (.unregister he rfl rfl rfl)
      exact hend.trans (writes_onListenerRegistrarChange (P := fun _ => True) _ _ _ _ _).moves
    · exact .refl

theorem moves_portDispatchLeaveTimers : Moves s (mrpPortDispatchLeaveTimers s p) := by
  unfold mrpPortDispatchLeaveTimers
  dsimp only
  have hloop : ∀ {ι : Type} (step : AvbState cfg → ι → AvbState cfg),
      (∀ s x, Moves s (step s x)) → ∀ (l : List ι) s, Moves s (l.foldl step s) :=
    fun step h l s => reflTransGen_foldl id h l s
  have htalkers := hloop (mrpLeaveTimerTalker p) fun s i => moves_leaveTimerTalker s i
  have hlisteners := hloop (mrpLeaveTimerListener p) fun s i => moves_leaveTimerListener s i
  have hdomains := hloop (mrpLeaveTimerDomain p) fun s i => moves_leaveTimerDomain s i
  have hidleTalkers := hloop (mrpIdleTimeoutTalker p) fun s i => moves_idleTimeoutTalker s i
  have hidleListeners := hloop (mrpIdleTimeoutListener p) fun s i => moves_idleTimeoutListener s i
  refine ((htalkers (List.finRange _) s).trans ?_).trans ((hlisteners _ _).trans (hdomains _ _))
  split
  · exact (hidleTalkers _ _).trans (hidleListeners _ _)
  · exact .refl

/-! ### Steps -/

theorem moves_dispatch (srcAddr : Option EthAddr) (d : MsrpDispatch)
    (h : s.avbLite = true → d.isValue = true) : Moves s (msrpDispatch p srcAddr s d) := by
  cases d with
  | leaveAll attrType =>
      have hlite : s.avbLite = false := by
        cases hl : s.avbLite with
        | false => rfl
        | true => exact absurd (h hl) (by simp [MsrpDispatch.isValue])
      exact (writes_dispatchLeaveall (P := fun _ => True) s trivial hlite attrType).moves
  | talker attrType wire => exact moves_rxTalker s attrType wire srcAddr
  | listener wire =>
      exact (writes_rxListener (P := fun _ => True) s (fun _ => trivial) wire srcAddr).moves
  | domain wire => exact (writes_rxDomain (P := fun _ => True) s wire).moves

/-- Every step but the change of mode is a chain of moves. -/
theorem moves_avbStep (ev : AvbEvent cfg) (hmode : ∀ lite, ev ≠ .setAvbLite lite) :
    Moves s (avbStep s ev) := by
  cases ev with
  | elapse dtUs =>
      have hframe : SameTables s (avbStep s (.elapse dtUs)) :=
        ⟨rfl, rfl, rfl, rfl, rfl, rfl, List.Subset.refl s.log⟩
      exact (writes_frame (P := fun _ => True) hframe).moves
  | receive p srcAddr d =>
      unfold avbStep
      dsimp only
      split
      · exact .refl
      · rename_i hvalue
        apply moves_dispatch
        intro hlite
        by_contra hnot
        exact hvalue ⟨hlite, by simpa using hnot⟩
  | joinTimer p => exact (writes_txFlushPort (P := fun _ => True) s trivial).moves
  | periodicTimer p =>
      unfold avbStep
      dsimp only
      split
      · exact .refl
      · exact (writes_portDispatchPeriodic (P := fun _ => True) s trivial).moves
  | leaveallTimer p apEmpty => exact (writes_leaveallTimer (P := fun _ => True) s trivial apEmpty).moves
  | leaveTimers p => exact moves_portDispatchLeaveTimers s
  | releaseHeld p => exact (writes_talkerReleaseHeld (P := fun _ => True) s trivial).moves
  | liteFlush p =>
      unfold avbStep
      dsimp only
      split
      · exact (writes_liteFlush (P := fun _ => True) s trivial).moves
      · exact .refl
  | declareTalkerAdvertise p streamId da vlanId mfs mfi classB =>
      exact (writes_declareTalkerAdvertise (P := fun _ => True) s trivial _ _ _ _ _ _).moves
  | declareTalkerFailed p streamId da vlanId mfs mfi code classB srcBridgeId =>
      exact (writes_declareTalkerFailed (P := fun _ => True) s trivial _ _ _ _ _ _ _ _).moves
  | declareListener p streamId decl =>
      exact (writes_declareListener (P := fun _ => True) s _ _).moves
  | declareDomain p srClassId srClassPriority srClassVid =>
      exact (writes_declareDomain (P := fun _ => True) s _ _ _).moves
  | withdrawTalker p streamId => exact (writes_withdrawTalker (P := fun _ => True) s trivial _).moves
  | withdrawListener p streamId => exact (writes_withdrawListener (P := fun _ => True) s _).moves
  | setTalkerLatency p streamId =>
      exact (writes_patchEgressAccumulatedLatency (P := fun _ => True) s trivial _ _ _).moves
  | forgetTalker p streamId => exact (writes_talkerForget (P := fun _ => True) s trivial _).moves
  | bindInputStream i stream =>
      have hframe : SameTables s (avbStep s (.bindInputStream i stream)) :=
        ⟨rfl, rfl, rfl, rfl, rfl, rfl, List.Subset.refl s.log⟩
      exact (writes_frame (P := fun _ => True) hframe).moves
  | setAvbLite lite => exact absurd rfl (hmode lite)

theorem changes_avbStep (ev : AvbEvent cfg) (hmode : ∀ lite, ev ≠ .setAvbLite lite) :
    Changes s (avbStep s ev) :=
  (moves_avbStep s ev hmode).changes

end Moves

end EspAvb
