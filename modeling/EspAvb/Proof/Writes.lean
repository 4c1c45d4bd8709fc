import Mathlib.Logic.Relation
import EspAvb.System

/-!
# What the handlers write

Every handler is a chain of writes to the tables of three kinds: a write that keeps registrations and
reservations as they are, a change of a reservation, and the end of a registration. What each kind of
write keeps, every run keeps.
-/

namespace EspAvb

open Relation

variable {cfg : Config}

/-! ### Writes to the state machines -/

/-- A write to the state machines of an entry, other than a Leave and the end of a registration. -/
inductive SmWrite (lite : Bool) (nowUs : Nat) : MrpSm → MrpSm → Prop where
  | declare (sm : MrpSm) {ev : MrpEvent} (h : ev = .new ∨ ev = .join) :
      SmWrite lite nowUs sm (mrpApplicantStep sm ev)
  | periodic (sm : MrpSm) : SmWrite lite nowUs sm (mrpApplicantStep sm .periodic)
  | flush (sm : MrpSm) {ev : MrpEvent} (h : ev = .tx ∨ ev = .txLA) :
      SmWrite lite nowUs sm (mrpFlushSm sm ev).1
  | unsent (sm : MrpSm) : SmWrite lite nowUs sm { sm with pendingTx := .none }
  | again (sm : MrpSm) {a : MrpApplicantState} (h : a = .VP ∨ a = .VN) :
      SmWrite lite nowUs sm { sm with applicant := a }
  | peer (sm : MrpSm) {ev : MrpEvent}
      (h : ev ∈ [MrpEvent.rNew, .rJoinIn, .rIn, .rJoinMt, .rMt]) :
      SmWrite lite nowUs sm (mrpSmStep nowUs sm ev)
  | leaveAll (sm : MrpSm) (h : lite = false) : SmWrite lite nowUs sm (mrpSmStep nowUs sm .rLA)
  | selfLeave (sm : MrpSm) : SmWrite lite nowUs sm (mrpSelfLeaveSm nowUs sm)
  | redeclare (sm : MrpSm) (h : mrpApplicantDeclaring sm.applicant = true) :
      SmWrite lite nowUs sm (mrpApplicantStep sm .rLA)

abbrev SmWrites (lite : Bool) (nowUs : Nat) := ReflTransGen (SmWrite lite nowUs)

theorem SmWrites.pendingTx {lite : Bool} {nowUs : Nat} {sm sm' : MrpSm}
    (h : SmWrites lite nowUs sm sm') (hnone : sm.pendingTx = .none) : sm'.pendingTx = .none := by
  induction h with
  | refl => exact hnone
  | tail _ hwrite ih =>
      cases hwrite with
      | declare h => obtain rfl | rfl := h <;> exact ih
      | periodic => exact ih
      | flush h => rfl
      | unsent => rfl
      | again h => exact ih
      | peer h =>
          simp only [List.mem_cons, List.not_mem_nil, or_false] at h
          obtain rfl | rfl | rfl | rfl | rfl := h <;>
            simpa [mrpSmStep, mrpApplicantStep, mrpApplicantTx] using ih
      | leaveAll h => simpa [mrpSmStep, mrpApplicantStep, mrpApplicantTx] using ih
      | selfLeave =>
          unfold mrpSelfLeaveSm
          split
          · simpa using ih
          · exact ih
      | redeclare h => exact ih

/-- No such write ends a registration. -/
theorem SmWrites.registrar {lite : Bool} {nowUs : Nat} {sm sm' : MrpSm}
    (h : SmWrites lite nowUs sm sm') (hmt : sm'.registrar = .MT) : sm.registrar = .MT := by
  induction h with
  | refl => exact hmt
  | @tail b c _ hwrite ih =>
      apply ih
      revert hmt
      cases hwrite with
      | declare h => exact id
      | periodic => exact id
      | flush h => exact id
      | unsent => exact id
      | again h => exact id
      | peer h =>
          simp only [List.mem_cons, List.not_mem_nil, or_false] at h
          obtain rfl | rfl | rfl | rfl | rfl := h <;> simp [mrpSmStep, mrpRegistrarStep]
      | leaveAll h => cases hb : b.registrar <;> simp [mrpSmStep, mrpRegistrarStep, hb]
      | selfLeave => cases hb : b.registrar <;> simp [mrpSelfLeaveSm, mrpRegistrarStep, hb]
      | redeclare h => exact id

/-- The LeaveTimer runs exactly while the Registrar is LV. -/
def MrpSm.TimerOk (sm : MrpSm) : Prop := sm.leaveTimerUs ≠ 0 ↔ sm.registrar = .LV

theorem timerOk_fresh : MrpSm.fresh.TimerOk := by simp [MrpSm.TimerOk, MrpSm.fresh]

theorem MrpSm.TimerOk.registrarStep {sm : MrpSm} (h : sm.TimerOk) (nowUs : Nat) (ev : MrpEvent) :
    (mrpRegistrarStep nowUs sm ev).TimerOk := by
  unfold mrpRegistrarStep
  split
  case h_5 | h_6 =>
    split_ifs
    · simp [TimerOk, mrpLeaveTimerUs]
    · exact h
  case h_7 =>
    split_ifs
    · simp [TimerOk]
    · exact h
  case h_8 => exact h
  all_goals simp [TimerOk]

/-- Every event keeps the timer in step with the Registrar. -/
theorem MrpSm.TimerOk.step {sm : MrpSm} (h : sm.TimerOk) (nowUs : Nat) (ev : MrpEvent) :
    (mrpSmStep nowUs sm ev).TimerOk := by
  have happlied : (mrpApplicantStep sm ev).TimerOk := h
  exact happlied.registrarStep nowUs ev

/-- None of the writes lets the timer run without the Registrar, or the other way round. -/
theorem SmWrites.timer {lite : Bool} {nowUs : Nat} {sm sm' : MrpSm}
    (h : SmWrites lite nowUs sm sm') (hok : sm.TimerOk) : sm'.TimerOk := by
  induction h with
  | refl => exact hok
  | @tail b c _ hwrite ih =>
      cases hwrite with
      | declare | periodic | flush | unsent | again | redeclare => exact ih
      | peer h => exact ih.step nowUs _
      | leaveAll h => exact ih.step nowUs .rLA
      | selfLeave =>
          unfold mrpSelfLeaveSm
          split
          · rename_i hin
            simp [MrpSm.TimerOk, mrpRegistrarStep, hin, mrpStationSelfLeaveUs]
          · exact ih

/-! ### Writes to the entries -/

/-- What the admission accounting reads of an entry. -/
def MsrpTalkerEntry.account (e : MsrpTalkerEntry cfg) :
    (UniqueId × MsrpAttrType) × BitVec 3 × (cfg.Port → UInt32) × (cfg.Port → AvbSrClass)
      × (cfg.Port → Option (AvbSrClass × Nat × Nat)) :=
  (e.key, e.lastPropagatedPriority, e.admittedBps, e.admittedClass, e.admittedTspec)

/-- A write to a talker entry that registers no peer. -/
structure TalkerWrite (s : AvbState cfg) (e e' : MsrpTalkerEntry cfg) : Prop where
  account : e'.account = e.account
  sm : SmWrites s.avbLite s.nowUs e.sm e'.sm
  begins : e'.sm.registrar ≠ .MT → e.sm.registrar ≠ .MT

structure ListenerWrite (s : AvbState cfg) (e e' : MsrpListenerEntry) : Prop where
  key : e'.key = e.key
  sm : SmWrites s.avbLite s.nowUs e.sm e'.sm

structure DomainWrite (e e' : MsrpDomainEntry) : Prop where
  key : e'.key = e.key
  pendingTx : e.sm.pendingTx = .none → e'.sm.pendingTx = .none
  timer : e.sm.TimerOk → e'.sm.TimerOk

/-- Writes outside the three tables and the admission accounts. -/
structure SameTables (s s' : AvbState cfg) : Prop where
  talkers : s'.talkers = s.talkers
  listeners : s'.listeners = s.listeners
  domains : s'.domains = s.domains
  admission : s'.admission = s.admission
  avbLite : s'.avbLite = s.avbLite
  mrpLite : s'.mrpLite = s.mrpLite
  log : s.log ⊆ s'.log

/-- One write. `P` holds of the ports whose talker table may be written, `R` is whether a talker may
be registered. -/
inductive TableWrite (P : cfg.Port → Prop) (R : Prop) : AvbState cfg → AvbState cfg → Prop where
  | frame {s s' : AvbState cfg} (h : SameTables s s') : TableWrite P R s s'
  | talkers {s : AvbState cfg} {p : cfg.Port}
      {t : SlotTable (MsrpTalkerEntry cfg) cfg.talkerTableSize} (hport : P p)
      (h : (s.talkers p).Pointwise (TalkerWrite s) t) :
      TableWrite P R s { s with talkers := Function.update s.talkers p t }
  | receiveTalker {s : AvbState cfg} {p : cfg.Port} {i : TalkerRef cfg} {e e' : MsrpTalkerEntry cfg}
      (hreceive : R) (hport : P p) (he : s.talkers p i = some e) (haccount : e'.account = e.account)
      (hsm : SmWrites s.avbLite s.nowUs e.sm e'.sm) :
      TableWrite P R s (s.setTalker p i (some e'))
  | withdrawTalker {s : AvbState cfg} {p : cfg.Port} {i : TalkerRef cfg}
      {e e' : MsrpTalkerEntry cfg} (hport : P p) (he : s.talkers p i = some e)
      (haccount : e'.account = e.account) (hsm : e'.sm = mrpWithdrawStep s.mrpLite e.sm) :
      TableWrite P R s ((s.addLog (.withdrawn p e.sm)).setTalker p i (some e'))
  | leaveTalker {s : AvbState cfg} {p : cfg.Port} {i : TalkerRef cfg} {e e' : MsrpTalkerEntry cfg}
      (hport : P p) (he : s.talkers p i = some e) (haccount : e'.account = e.account)
      (hsm : e'.sm = mrpSmStep s.nowUs e.sm .rLv) :
      TableWrite P R s ((s.addLog (.peerLeft p e.sm)).setTalker p i (some e'))
  | resetTalker {s : AvbState cfg} {p : cfg.Port} {i : TalkerRef cfg}
      {e logged e' : MsrpTalkerEntry cfg} (hport : P p) (he : s.talkers p i = some e)
      (hlogged : logged.account = e.account) (haccount : e'.account = e.account)
      (hsm : e'.sm = mrpSmResetForNewValue) :
      TableWrite P R s ((s.addLog (.valueReset p logged)).setTalker p i (some e'))
  | insertTalker {s : AvbState cfg} {p : cfg.Port} {i : TalkerRef cfg} {streamId : UniqueId}
      {attrType : MsrpAttrType} (hport : P p)
      (hplace : s.talkers p i = none ∨ ∃ e, s.talkers p i = some e ∧ msrpTalkerReusable e = true)
      (hnew : msrpTalkerFind s p streamId attrType = none) :
      TableWrite P R s (s.setTalker p i (some (.fresh streamId attrType)))
  | dropTalker {s : AvbState cfg} {p : cfg.Port} {i : TalkerRef cfg} {e : MsrpTalkerEntry cfg}
      (hport : P p) (he : s.talkers p i = some e) (hidle : mrpSmIdle e.sm = true) :
      TableWrite P R s (s.setTalker p i none)
  | listeners {s : AvbState cfg} {p : cfg.Port}
      {t : SlotTable MsrpListenerEntry cfg.listenerTableSize}
      (h : (s.listeners p).Pointwise (ListenerWrite s) t) :
      TableWrite P R s { s with listeners := Function.update s.listeners p t }
  | withdrawListener {s : AvbState cfg} {p : cfg.Port} {i : ListenerRef cfg}
      {e e' : MsrpListenerEntry} (he : s.listeners p i = some e) (hkey : e'.key = e.key)
      (hsm : e'.sm = mrpWithdrawStep s.mrpLite e.sm) :
      TableWrite P R s ((s.addLog (.withdrawn p e.sm)).setListener p i (some e'))
  | leaveListener {s : AvbState cfg} {p : cfg.Port} {i : ListenerRef cfg}
      {e e' : MsrpListenerEntry} (he : s.listeners p i = some e) (hkey : e'.key = e.key)
      (hsm : e'.sm = mrpSmStep s.nowUs e.sm .rLv) :
      TableWrite P R s ((s.addLog (.peerLeft p e.sm)).setListener p i (some e'))
  | insertListener {s : AvbState cfg} {p : cfg.Port} {i : ListenerRef cfg} {streamId : UniqueId}
      (hnew : msrpListenerFind s p streamId = none) :
      TableWrite P R s (s.setListener p i (some (.fresh streamId)))
  | domains {s : AvbState cfg} {p : cfg.Port} {t : SlotTable MsrpDomainEntry msrpDomainTableSize}
      (h : (s.domains p).Pointwise DomainWrite t) :
      TableWrite P R s { s with domains := Function.update s.domains p t }
  | insertDomain {s : AvbState cfg} {p : cfg.Port} {i : DomainRef} {srClassId : UInt8}
      (hnew : (s.domains p).find (fun e => e.wire.srClassId = srClassId) = none) :
      TableWrite P R s (s.setDomain p i (some (.fresh srClassId)))

/-- A chain of writes that register no talker. -/
abbrev Writes (P : cfg.Port → Prop) (s s' : AvbState cfg) : Prop :=
  ReflTransGen (TableWrite P False) s s'

/-! ### One write of each kind -/

section Single

variable {P : cfg.Port → Prop} {s : AvbState cfg} {p : cfg.Port}

theorem TalkerWrite.refl (e : MsrpTalkerEntry cfg) : TalkerWrite s e e := ⟨rfl, .refl, id⟩

theorem ListenerWrite.refl (e : MsrpListenerEntry) : ListenerWrite s e e := ⟨rfl, .refl⟩

theorem DomainWrite.refl (e : MsrpDomainEntry) : DomainWrite e e := ⟨rfl, id, id⟩

theorem writes_frame {s' : AvbState cfg} (h : SameTables s s') : Writes P s s' :=
  .single (.frame h)

theorem writes_setTalker (hport : P p) {i : TalkerRef cfg} {e e' : MsrpTalkerEntry cfg}
    (he : s.talkers p i = some e) (h : TalkerWrite s e e') :
    Writes P s (s.setTalker p i (some e')) :=
  .single (.talkers hport (SlotTable.Pointwise.of_set TalkerWrite.refl he h))

theorem writes_setListener {i : ListenerRef cfg} {e e' : MsrpListenerEntry}
    (he : s.listeners p i = some e) (h : ListenerWrite s e e') :
    Writes P s (s.setListener p i (some e')) :=
  .single (.listeners (SlotTable.Pointwise.of_set ListenerWrite.refl he h))

theorem writes_setDomain {i : DomainRef} {e e' : MsrpDomainEntry}
    (he : s.domains p i = some e) (h : DomainWrite e e') :
    Writes P s (s.setDomain p i (some e')) :=
  .single (.domains (SlotTable.Pointwise.of_set DomainWrite.refl he h))

theorem sameTables_addLog (entry : MsrpLog cfg) : SameTables s (s.addLog entry) :=
  ⟨rfl, rfl, rfl, rfl, rfl, rfl, List.subset_cons_self entry s.log⟩

theorem sameTables_sendAttr (cvuDest : Option EthAddr) (msg : MsrpMessage) :
    SameTables s (mrpSendAttr s p cvuDest msg) := by
  unfold mrpSendAttr
  split
  · split
    · exact ⟨rfl, rfl, rfl, rfl, rfl, rfl, List.Subset.refl s.log⟩
    · exact sameTables_addLog _
  · exact sameTables_addLog _

theorem TableWrite.mono {Q : cfg.Port → Prop} {R R' : Prop} (hle : ∀ p, P p → Q p) (hR : R → R')
    {s' : AvbState cfg} (h : TableWrite P R s s') : TableWrite Q R' s s' := by
  cases h with
  | frame h => exact .frame h
  | talkers hp h => exact .talkers (hle _ hp) h
  | receiveTalker hr hp he ha hs => exact .receiveTalker (hR hr) (hle _ hp) he ha hs
  | withdrawTalker hp he ha hs => exact .withdrawTalker (hle _ hp) he ha hs
  | leaveTalker hp he ha hs => exact .leaveTalker (hle _ hp) he ha hs
  | resetTalker hp he hl ha hs => exact .resetTalker (hle _ hp) he hl ha hs
  | insertTalker hp hplace hnew => exact .insertTalker (hle _ hp) hplace hnew
  | dropTalker hp he hidle => exact .dropTalker (hle _ hp) he hidle
  | listeners h => exact .listeners h
  | withdrawListener he hk hs => exact .withdrawListener he hk hs
  | leaveListener he hk hs => exact .leaveListener he hk hs
  | insertListener hnew => exact .insertListener hnew
  | domains h => exact .domains h
  | insertDomain hnew => exact .insertDomain hnew

theorem Writes.mono {Q : cfg.Port → Prop} (hle : ∀ p, P p → Q p) {s' : AvbState cfg}
    (h : Writes P s s') : Writes Q s s' :=
  ReflTransGen.mono (fun _ _ hwrite => hwrite.mono hle id) s s' h

/-- Finding or inserting a talker leads to an entry of its key. -/
theorem writes_talkerFindOrInsert (hport : P p) {streamId : UniqueId}
    {attrType : MsrpAttrType} {i : TalkerRef cfg} {s' : AvbState cfg}
    (h : msrpTalkerFindOrInsert s p streamId attrType = some (i, s')) :
    Writes P s s' ∧ ∃ e, s'.talkers p i = some e ∧ e.key = (streamId, attrType) := by
  obtain ⟨j, e, hfind, he, hout⟩ | ⟨j, hfind, hplace, hout⟩ | ⟨-, -, hout⟩ :=
    msrpTalkerFindOrInsert_outcome s p streamId attrType
  · rw [hout] at h
    cases h
    obtain ⟨e', he', hq⟩ := SlotTable.find_eq_some hfind
    rw [he] at he'
    cases he'
    exact ⟨.refl, e, he, talkerIs_iff.mp hq⟩
  · rw [hout] at h
    cases h
    refine ⟨.single (.insertTalker hport (SlotTable.place_eq_some hplace) hfind),
      .fresh streamId attrType, ?_, rfl⟩
    simp
  · rw [hout] at h
    cases h

theorem writes_listenerFindOrInsert {streamId : UniqueId} {i : ListenerRef cfg}
    {s' : AvbState cfg} (h : msrpListenerFindOrInsert s p streamId = some (i, s')) :
    Writes P s s' ∧ ∃ e, s'.listeners p i = some e ∧ e.key = streamId := by
  obtain ⟨j, e, hfind, he, hout⟩ | ⟨j, hfind, hplace, hout⟩ | ⟨-, -, hout⟩ :=
    msrpListenerFindOrInsert_outcome s p streamId
  · rw [hout] at h
    cases h
    obtain ⟨e', he', hq⟩ := SlotTable.find_eq_some hfind
    rw [he] at he'
    cases he'
    exact ⟨.refl, e, he, listenerIs_iff.mp hq⟩
  · rw [hout] at h
    cases h
    refine ⟨.single (.insertListener hfind), .fresh streamId, ?_, rfl⟩
    simp
  · rw [hout] at h
    cases h

theorem writes_domainFindOrInsert {srClassId : UInt8} {i : DomainRef} {s' : AvbState cfg}
    (h : msrpDomainFindOrInsert s p srClassId = some (i, s')) :
    Writes P s s' ∧ ∃ e, s'.domains p i = some e ∧ e.key = srClassId := by
  obtain ⟨j, e, hfind, he, hout⟩ | ⟨j, hfind, hplace, hout⟩ | ⟨-, -, hout⟩ :=
    (s.domains p).findOrInsert_outcome (fun e => e.wire.srClassId = srClassId) (fun _ => false)
      (MsrpDomainEntry.fresh srClassId)
  · rw [msrpDomainFindOrInsert, hout] at h
    cases h
    obtain ⟨e', he', hq⟩ := SlotTable.find_eq_some hfind
    rw [he] at he'
    cases he'
    simp only [Function.update_eq_self]
    exact ⟨.refl, e, he, of_decide_eq_true hq⟩
  · rw [msrpDomainFindOrInsert, hout] at h
    cases h
    refine ⟨.single (.insertDomain hfind), .fresh srClassId, ?_, rfl⟩
    simp
  · rw [msrpDomainFindOrInsert, hout] at h
    cases h

end Single

/-! ### Declarations and withdrawals -/

section Declare

variable {P : cfg.Port → Prop} (s : AvbState cfg) {p : cfg.Port}

theorem smWrites_declareEvent (lite : Bool) (nowUs : Nat) (sm : MrpSm) :
    SmWrites lite nowUs sm (mrpApplicantStep sm (mrpDeclareEvent sm)) := by
  apply ReflTransGen.single
  apply SmWrite.declare
  unfold mrpDeclareEvent
  split
  · exact Or.inl rfl
  · exact Or.inl rfl
  · exact Or.inl rfl
  · exact Or.inl rfl
  · exact Or.inr rfl

/-- A new value of the same stream is no matter to the account. -/
theorem account_wire (e : MsrpTalkerEntry cfg) {wire : MsrpTalkerMessage}
    (h : wire.info.streamId = e.wire.info.streamId) : { e with wire }.account = e.account := by
  simp only [MsrpTalkerEntry.account, MsrpTalkerEntry.key, h]

theorem mrpTalkerDeclare_write (s' : AvbState cfg) (before : MrpApplicantState)
    (fresh : MsrpTalkerMessage) (e : MsrpTalkerEntry cfg)
    (hkey : fresh.info.streamId = e.wire.info.streamId) :
    TalkerWrite s' e (mrpTalkerDeclare s p before fresh e) := by
  have haccount := account_wire e hkey
  unfold mrpTalkerDeclare
  split
  · split
    · exact ⟨haccount, smWrites_declareEvent _ _ e.sm, id⟩
    · exact ⟨rfl, .refl, id⟩
  · exact ⟨haccount, smWrites_declareEvent _ _ e.sm, id⟩

/-- A new value in fresh state machines. -/
theorem mrpTalkerTakeValue_changed {e : MsrpTalkerEntry cfg} {fresh : MsrpTalkerMessage}
    (hne : e.wire.info ≠ fresh.info) (hkey : fresh.info.streamId = e.wire.info.streamId) :
    (mrpTalkerTakeValue s p e fresh).account = e.account
      ∧ (mrpTalkerTakeValue s p e fresh).sm = mrpSmResetForNewValue
      ∧ (mrpTalkerTakeValue s p e fresh).wire = fresh := by
  have haccount := account_wire e hkey
  unfold mrpTalkerTakeValue
  rw [if_neg hne]
  split
  · exact ⟨haccount, rfl, rfl⟩
  · split <;> exact ⟨haccount, rfl, rfl⟩

theorem mrpTalkerLeaveOldValue_changed {e : MsrpTalkerEntry cfg} {fresh : MsrpTalkerMessage}
    (hne : e.wire.info ≠ fresh.info) :
    ∃ s1, Writes P s s1 ∧ s1.talkers = s.talkers
      ∧ mrpTalkerLeaveOldValue s p e fresh = s1.addLog (.valueReset p e) := by
  unfold mrpTalkerLeaveOldValue
  rw [if_neg hne]
  split
  · have h1 := sameTables_sendAttr (s := s) (p := p) none
      (.talker e.attrType false { e.wire with event := intTo3pe mrpAttrEventLv 0 0 })
    have h2 := sameTables_sendAttr (s := mrpTxTalkerValueLeave s p e) (p := p) none
      (.talker e.attrType false { e.wire with event := intTo3pe mrpAttrEventLv 0 0 })
    exact ⟨_, (writes_frame h1).trans (writes_frame h2), h2.talkers.trans h1.talkers, rfl⟩
  · exact ⟨s, .refl, rfl, rfl⟩

theorem writes_declareTalkerAdvertise (hport : P p) (streamId : UniqueId)
    (streamDestAddr : EthAddr) (vlanId : Octets 2) (maxFrameSize maxIntervalFrames : Nat)
    (classB : Bool) :
    Writes P s (mrpDeclareTalkerAdvertise s p streamId streamDestAddr vlanId maxFrameSize
      maxIntervalFrames classB) := by
  unfold mrpDeclareTalkerAdvertise
  split
  · exact .refl
  · rename_i i s1 hinsert
    obtain ⟨hwrites, e0, he0, hkey0⟩ := writes_talkerFindOrInsert hport hinsert
    refine hwrites.trans ?_
    simp only [he0]
    set e : MsrpTalkerEntry cfg := { e0 with locallyOriginated := true } with he
    set fresh := mrpTalkerCandidate s1 e streamId streamDestAddr vlanId maxFrameSize
      maxIntervalFrames classB with hfresh
    have hstream : fresh.info.streamId = e.wire.info.streamId :=
      (congrArg Prod.fst hkey0).symm
    by_cases hsame : e.wire.info = fresh.info
    · have hleave : mrpTalkerLeaveOldValue s1 p e fresh = s1 := by
        rw [mrpTalkerLeaveOldValue, if_pos hsame]
      have htake : mrpTalkerTakeValue s1 p e fresh = e := by
        rw [mrpTalkerTakeValue, if_pos hsame]
      rw [hleave, htake]
      apply writes_setTalker hport he0
      have hdeclare := mrpTalkerDeclare_write s1 (p := p) s1 e.sm.applicant fresh e hstream
      exact ⟨hdeclare.account, hdeclare.sm, hdeclare.begins⟩
    · obtain ⟨haccount, hsm, hwire⟩ := mrpTalkerTakeValue_changed s1 (p := p) hsame hstream
      obtain ⟨s2, hs2, htalkers, hleave⟩ :=
        mrpTalkerLeaveOldValue_changed (P := P) s1 (p := p) hsame
      rw [hleave]
      refine hs2.trans ?_
      -- the old value leaves, the new one gets fresh state machines, then its declaration
      have hslot : s2.talkers p i = some e0 := by
        rw [htalkers]
        exact he0
      have hreset : TableWrite P False s2 ((s2.addLog (.valueReset p e)).setTalker p i
          (some (mrpTalkerTakeValue s1 p e fresh))) :=
        .resetTalker hport hslot rfl haccount hsm
      have hdeclare := writes_setTalker hport
        (s := (s2.addLog (.valueReset p e)).setTalker p i
          (some (mrpTalkerTakeValue s1 p e fresh))) (p := p) (i := i)
        (e := mrpTalkerTakeValue s1 p e fresh) (by simp)
        (mrpTalkerDeclare_write s1 (p := p) _ e.sm.applicant fresh _ (by rw [hwire]))
      rw [setTalker_setTalker] at hdeclare
      exact (ReflTransGen.single hreset).trans hdeclare

theorem writes_talkerReleaseHeld (hport : P p) : Writes P s (mrpTalkerReleaseHeld s p) := by
  refine .single (.talkers hport (SlotTable.Pointwise.of_map _ ?_))
  intro i e he
  unfold mrpTalkerReleaseEntry
  split
  · exact ⟨rfl, smWrites_declareEvent _ _ e.sm, id⟩
  · exact TalkerWrite.refl e

theorem setTalker_eq_self {i : TalkerRef cfg} {e : Option (MsrpTalkerEntry cfg)}
    (h : s.talkers p i = e) : s.setTalker p i e = s := by
  rw [AvbState.setTalker, ← h, SlotTable.set, Function.update_eq_self, Function.update_eq_self]

theorem setListener_eq_self {i : ListenerRef cfg} {e : Option MsrpListenerEntry}
    (h : s.listeners p i = e) : s.setListener p i e = s := by
  rw [AvbState.setListener, ← h, SlotTable.set, Function.update_eq_self, Function.update_eq_self]

theorem writes_dropTalker (hport : P p) {i : TalkerRef cfg}
    (hidle : ∀ e, s.talkers p i = some e → mrpSmIdle e.sm = true) : Writes P s (s.setTalker p i none) := by
  cases he : s.talkers p i with
  | some e => exact .single (.dropTalker hport he (hidle e he))
  | none => rw [setTalker_eq_self s he]

theorem writes_talkerForget (hport : P p) (streamId : UniqueId) :
    Writes P s (mrpTalkerForget s p streamId).1 := by
  simp only [mrpTalkerForget]
  split
  · rename_i hidle
    have hof : ∀ ref : Option (TalkerRef cfg),
        ((ref.bind (s.talkers p)).map fun e => mrpSmIdle e.sm).getD true = true →
        ∀ i, ref = some i → ∀ e, s.talkers p i = some e → mrpSmIdle e.sm = true := by
      rintro ref href i rfl e he
      simpa [he] using href
    have hadvertise := hof _ hidle.1
    have hfailed := hof _ hidle.2
    cases hadv : msrpTalkerFind s p streamId .talkerAdvertise with
    | none =>
        cases hfail : msrpTalkerFind s p streamId .talkerFailed with
        | none => exact .refl
        | some j => exact writes_dropTalker s hport (hfailed j hfail)
    | some i =>
        have hfirst : Writes P s (s.setTalker p i none) :=
          writes_dropTalker s hport (hadvertise i hadv)
        cases hfail : msrpTalkerFind s p streamId .talkerFailed with
        | none => exact hfirst
        | some j =>
            refine hfirst.trans (writes_dropTalker _ hport ?_)
            intro e he
            rw [setTalker_talkers, if_pos rfl, SlotTable.set_apply] at he
            split at he
            · cases he
            · exact hfailed j hfail e he
  · exact .refl

theorem writes_modifyTalker (hport : P p) {i : TalkerRef cfg}
    {f : MsrpTalkerEntry cfg → MsrpTalkerEntry cfg}
    (h : ∀ e, s.talkers p i = some e → TalkerWrite s e (f e)) :
    Writes P s (s.modifyTalker p i f) := by
  unfold AvbState.modifyTalker
  cases he : s.talkers p i with
  | some e => exact writes_setTalker hport he (h e he)
  | none => rw [Option.map_none, setTalker_eq_self s he]

theorem writes_declareTalkerFailed (hport : P p) (streamId : UniqueId)
    (streamDestAddr : EthAddr) (vlanId : Octets 2) (maxFrameSize maxIntervalFrames : Nat)
    (failureCode : UInt8) (classB : Bool) (srcBridgeId : Option (Octets 8)) :
    Writes P s (mrpDeclareTalkerFailed s p streamId streamDestAddr vlanId maxFrameSize
      maxIntervalFrames failureCode classB srcBridgeId) := by
  unfold mrpDeclareTalkerFailed
  split
  · exact .refl
  · rename_i i s1 hinsert
    obtain ⟨hwrites, e, he, hkey⟩ := writes_talkerFindOrInsert hport hinsert
    refine hwrites.trans (writes_modifyTalker s1 hport ?_)
    intro e' he'
    rw [he] at he'
    cases he'
    have hstream : streamId = e.wire.info.streamId := (congrArg Prod.fst hkey).symm
    exact ⟨account_wire e hstream, smWrites_declareEvent _ _ e.sm, id⟩

theorem writes_patchEgressAccumulatedLatency (hport : P p) (streamId : UniqueId)
    (attrType : MsrpAttrType) (totalNs : Nat) :
    Writes P s (mrpPatchEgressAccumulatedLatency s p streamId attrType totalNs) := by
  unfold mrpPatchEgressAccumulatedLatency
  split
  · exact .refl
  · apply writes_modifyTalker s hport
    intro e he
    exact ⟨rfl, .refl, id⟩

theorem writes_withdrawTalkerType (hport : P p) (streamId : UniqueId) (attrType : MsrpAttrType)
    (f : MsrpTalkerEntry cfg → MsrpTalkerEntry cfg) (haccount : ∀ e, (f e).account = e.account)
    (hsm : ∀ e, (f e).sm = mrpWithdrawStep s.mrpLite e.sm) :
    Writes P s (mrpWithdrawTalkerType s p streamId attrType f) := by
  unfold mrpWithdrawTalkerType
  split
  · exact .refl
  · split
    · exact .refl
    · rename_i i _ e he
      exact .single (.withdrawTalker hport he (haccount e) (hsm e))

theorem withdrawTalkerType_mrpLite (streamId : UniqueId) (attrType : MsrpAttrType)
    (f : MsrpTalkerEntry cfg → MsrpTalkerEntry cfg) :
    (mrpWithdrawTalkerType s p streamId attrType f).mrpLite = s.mrpLite := by
  unfold mrpWithdrawTalkerType
  split
  · rfl
  · split <;> rfl

theorem writes_withdrawTalker (hport : P p) (streamId : UniqueId) :
    Writes P s (mrpWithdrawTalker s p streamId) := by
  unfold mrpWithdrawTalker
  refine (writes_withdrawTalkerType s hport streamId .talkerAdvertise _ ?_ ?_).trans
    (writes_withdrawTalkerType _ hport streamId .talkerFailed _ ?_ ?_)
  · intro e
    rfl
  · intro e
    rfl
  · intro e
    rfl
  · intro e
    rfl

theorem mrpListenerDeclare_write (s' : AvbState cfg) (decl : MsrpListenerEvent)
    (e : MsrpListenerEntry) : ListenerWrite s' e (mrpListenerDeclare s decl e) := by
  have hstep : SmWrites s'.avbLite s'.nowUs e.sm
      (mrpApplicantStep e.sm (mrpListenerDeclareEvent s decl e)) := by
    unfold mrpListenerDeclareEvent
    split
    · exact .single (.declare e.sm (Or.inl rfl))
    · exact smWrites_declareEvent _ _ e.sm
  unfold mrpListenerDeclare
  dsimp only
  split
  · exact ⟨rfl, hstep.tail (.again _ (Or.inl rfl))⟩
  · split
    · exact ⟨rfl, hstep.tail (.again _ (Or.inr rfl))⟩
    · exact ⟨rfl, hstep⟩

theorem writes_declareListener (streamId : UniqueId) (decl : MsrpListenerEvent) :
    Writes P s (mrpDeclareListener s p streamId decl) := by
  unfold mrpDeclareListener
  split
  · exact .refl
  · rename_i i s1 hinsert
    obtain ⟨hwrites, e, he, -⟩ := writes_listenerFindOrInsert (P := P) hinsert
    refine hwrites.trans ?_
    rw [AvbState.modifyListener, he]
    exact writes_setListener he (mrpListenerDeclare_write s1 s1 decl e)

theorem writes_withdrawListener (streamId : UniqueId) :
    Writes P s (mrpWithdrawListener s p streamId) := by
  unfold mrpWithdrawListener
  split
  · exact .refl
  · split
    · exact .refl
    · rename_i i _ e he
      exact .single (.withdrawListener he rfl rfl)

theorem writes_declareDomain (srClassId srClassPriority : UInt8) (srClassVid : Octets 2) :
    Writes P s (mrpDeclareDomain s p srClassId srClassPriority srClassVid) := by
  unfold mrpDeclareDomain
  split
  · exact .refl
  · rename_i i s1 hinsert
    obtain ⟨hwrites, e, he, hkey⟩ := writes_domainFindOrInsert (P := P) hinsert
    refine hwrites.trans ?_
    rw [AvbState.modifyDomain, he]
    have hsm := smWrites_declareEvent s1.avbLite s1.nowUs e.sm
    exact writes_setDomain he ⟨hkey.symm, hsm.pendingTx, hsm.timer⟩

end Declare

end EspAvb
