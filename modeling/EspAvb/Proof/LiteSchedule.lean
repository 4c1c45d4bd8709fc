import EspAvb.LiteSchedule
import EspAvb.System

/-!
# Sends and withdrawals in AVB Lite

A declaration that is new or changed puts its Applicant in VN or VP with the next send due, the first
flush sends it and the one JoinTime later sends it again, unless something takes the Applicant out of
turn: a peer's JoinIn, a change that leaves a later send time in place, a change that the Applicant
does not see. A withdrawal sends its Lv from LA, and VP, AP and QP do not lead there.
-/

namespace EspAvb

open Machine MrpApplicantState

variable {cfg : Config}

/-! ### The Applicant -/

/-- Applicants with a send to come for what is declared. -/
def MrpApplicantState.anxious (a : MrpApplicantState) : Prop := a = VN ∨ a = VP ∨ a = AN ∨ a = AA

/-- Events that a peer's attribute has. -/
def MrpEvent.ofPeer (ev : MrpEvent) : Prop :=
  ev = .rNew ∨ ev = .rJoinIn ∨ ev = .rIn ∨ ev = .rJoinMt ∨ ev = .rMt ∨ ev = .rLv

theorem firstEvent_ofPeer (event : UInt8) : (firstEvent event).ofPeer := by
  unfold firstEvent mrp3peToEvent MrpEvent.ofPeer
  split <;> simp

/-- A peer that says it has heard takes a send away. -/
def MrpApplicantState.suppressedBy (a : MrpApplicantState) (ev : MrpEvent) : Prop :=
  (ev = .rJoinIn ∧ (a = VP ∨ a = AA)) ∨ (ev = .rIn ∧ a = AA)

theorem ofPeer_next_fresh {a : MrpApplicantState} {ev : MrpEvent} (hpeer : ev.ofPeer)
    (hfresh : a = VN ∨ a = VP) (hheard : ¬ a.suppressedBy ev) : mrpApplicantNext a ev = a := by
  obtain rfl | rfl := hfresh <;>
    obtain rfl | rfl | rfl | rfl | rfl | rfl := hpeer <;>
      simp_all [mrpApplicantNext, suppressedBy]

theorem ofPeer_next_anxious {a : MrpApplicantState} {ev : MrpEvent} (hpeer : ev.ofPeer)
    (hanxious : a.anxious) (hheard : ¬ a.suppressedBy ev) :
    (mrpApplicantNext a ev).anxious ∧ (mrpApplicantNext a ev = a
      ∨ mrpApplicantNext a ev = VN ∨ mrpApplicantNext a ev = VP) := by
  obtain rfl | rfl | rfl | rfl := hanxious <;>
    obtain rfl | rfl | rfl | rfl | rfl | rfl := hpeer <;>
      simp_all [mrpApplicantNext, suppressedBy, anxious]

theorem ofPeer_next_declaring {a : MrpApplicantState} {ev : MrpEvent} (hpeer : ev.ofPeer)
    (hdeclaring : mrpApplicantDeclaring a = true) :
    mrpApplicantDeclaring (mrpApplicantNext a ev) = true := by
  obtain rfl | rfl | rfl | rfl | rfl | rfl := hpeer <;> cases a <;>
    simp_all [mrpApplicantNext, mrpApplicantDeclaring]

/-- Applicants that neither declare nor have anything to send. -/
def MrpApplicantState.silent (a : MrpApplicantState) : Prop := a = VO ∨ a = AO ∨ a = QO ∨ a = LO

theorem ofPeer_next_silent {a : MrpApplicantState} {ev : MrpEvent} (hpeer : ev.ofPeer)
    (hsilent : a.silent) : (mrpApplicantNext a ev).silent := by
  obtain rfl | rfl | rfl | rfl := hsilent <;>
    obtain rfl | rfl | rfl | rfl | rfl | rfl := hpeer <;> simp [mrpApplicantNext, silent]

theorem silent_not_willSend {a : MrpApplicantState} (h : a.silent) :
    mrpApplicantWillSend a = false := by
  obtain rfl | rfl | rfl | rfl := h <;> rfl

theorem silent_not_declaring {a : MrpApplicantState} (h : a.silent) :
    mrpApplicantDeclaring a = false := by
  obtain rfl | rfl | rfl | rfl := h <;> rfl

theorem anxious_willSend {a : MrpApplicantState} (h : a.anxious) :
    mrpApplicantWillSend a = true := by
  obtain rfl | rfl | rfl | rfl := h <;> rfl

theorem anxious_declaring {a : MrpApplicantState} (h : a.anxious) :
    mrpApplicantDeclaring a = true := by
  obtain rfl | rfl | rfl | rfl := h <;> rfl

/-! ### One entry -/

namespace LiteEntry

variable {entry : LiteEntry cfg}

@[simp]
theorem schedule_sm (sm : MrpSm) (next : Nat) : (entry.schedule sm next).sm = sm := by
  cases entry <;> rfl

@[simp]
theorem schedule_nextTxUs (sm : MrpSm) (next : Nat) : (entry.schedule sm next).nextTxUs = next := by
  cases entry <;> rfl

@[simp]
theorem schedule_value (sm : MrpSm) (next : Nat) : (entry.schedule sm next).value = entry.value := by
  cases entry <;> rfl

@[simp]
theorem schedule_originated (sm : MrpSm) (next : Nat) :
    (entry.schedule sm next).originated = entry.originated := by
  cases entry <;> rfl

theorem message_plain (pe : Nat) : (entry.message pe).plain = entry.value := by
  cases entry with
  | talker e =>
      simp only [value, message]
      cases e.attrType <;> rfl
  | listener e => rfl

theorem message_event (pe : Nat) : (entry.message pe).event = intTo3pe pe 0 0 := by
  cases entry <;> rfl

theorem flush_wait {nowUs : Nat}
    (h : mrpApplicantWillSend entry.applicant = false ∨ nowUs < entry.nextTxUs) :
    entry.flush nowUs
      = (entry.schedule { entry.sm with pendingTx := .none } entry.nextTxUs, none) := by
  unfold flush mrpLiteEntryDue
  rw [if_pos (show mrpApplicantWillSend entry.sm.applicant = false ∨ nowUs < entry.nextTxUs from h)]
  rfl

/-- What a flush sends when it is due: the value, with an Lv just where the Applicant is leaving. -/
theorem flush_due {nowUs : Nat} (hwill : mrpApplicantWillSend entry.applicant = true)
    (hdue : entry.nextTxUs ≤ nowUs) :
    ∃ sm msg, entry.flush nowUs = (entry.schedule sm (nowUs + mrpLiteJoinTimeUs), some msg)
      ∧ sm.applicant = mrpApplicantNext entry.applicant .tx ∧ msg.plain = entry.value
      ∧ (msg.isLv = true ↔ entry.applicant = LA) := by
  have hpe : ∃ pe, (mrpFlushSm entry.sm .tx).2 = some pe
      ∧ (intTo3pe pe 0 0 = intTo3pe mrpAttrEventLv 0 0 ↔ entry.applicant = LA) := by
    unfold applicant at hwill ⊢
    cases happlicant : entry.sm.applicant <;> rw [happlicant] at hwill <;>
      first
      | exact absurd hwill (by decide)
      | simp only [mrpFlushSm, mrpApplicantStep, happlicant, mrpApplicantTx, Option.getD_some,
          mrpResolve3pe, Option.some.injEq, exists_eq_left', reduceCtorEq, iff_false, iff_true]
        try split
        all_goals decide
  obtain ⟨pe, hpe, hlv⟩ := hpe
  refine ⟨(mrpFlushSm entry.sm .tx).1, entry.message pe, ?_, rfl, message_plain pe, ?_⟩
  · unfold flush mrpLiteEntryDue
    rw [if_neg (by simp only [applicant] at hwill; simp [hwill, hdue])]
    dsimp only
    rw [hpe]
    rfl
  · rw [MsrpMessage.isLv, message_event]
    simpa using hlv

theorem redeclare_applicant (nowUs : Nat) :
    (entry.redeclare nowUs).applicant
      = if entry.originated = true ∧ entry.declaring = true then
          mrpApplicantNext entry.applicant .rLA
        else entry.applicant := by
  unfold redeclare mrpLiteRedeclareSm
  by_cases horiginated : entry.originated = true
  · rw [if_pos horiginated]
    cases hdeclaring : mrpApplicantDeclaring entry.sm.applicant <;>
      simp [declaring, applicant, horiginated, hdeclaring]
  · simp [horiginated]

theorem redeclare_nextTxUs (nowUs : Nat) :
    (entry.redeclare nowUs).nextTxUs
      = if (entry.redeclare nowUs).applicant = entry.applicant then entry.nextTxUs else nowUs := by
  rw [redeclare_applicant]
  unfold redeclare mrpLiteRedeclareSm mrpLiteNoteLocal
  by_cases horiginated : entry.originated = true
  · rw [if_pos horiginated]
    unfold declaring applicant
    cases happlicant : entry.sm.applicant <;>
      simp [horiginated, happlicant, mrpApplicantDeclaring, mrpApplicantNext,
        mrpApplicantWillSend]
  · simp [horiginated]

theorem redeclare_value (nowUs : Nat) : (entry.redeclare nowUs).value = entry.value := by
  unfold redeclare
  split <;> simp

theorem redeclare_originated (nowUs : Nat) :
    (entry.redeclare nowUs).originated = entry.originated := by
  unfold redeclare
  split <;> simp

theorem hears_ofPeer {msg : MsrpMessage} {ev : MrpEvent} (h : entry.hears msg = some ev) :
    ev.ofPeer := by
  cases entry with
  | talker e =>
      cases msg with
      | talker attrType leaveAll wire =>
          simp only [hears] at h
          split at h
          · obtain rfl := Option.some.inj h
            exact firstEvent_ofPeer _
          · cases h
      | listener leaveAll wire => cases h
      | domain leaveAll wire => cases h
  | listener e =>
      cases msg with
      | talker attrType leaveAll wire => cases h
      | listener leaveAll wire =>
          simp only [hears] at h
          split at h
          · obtain rfl := Option.some.inj h
            exact firstEvent_ofPeer _
          · cases h
      | domain leaveAll wire => cases h

/-- A peer's attribute steps the Applicant; it leaves the send time and our own value alone. -/
theorem receive_spec {msg : MsrpMessage} {ev : MrpEvent} (h : entry.hears msg = some ev)
    (nowUs : Nat) (srcAddr : Option EthAddr) :
    (entry.receive nowUs srcAddr msg).applicant = mrpApplicantNext entry.applicant ev
      ∧ (entry.receive nowUs srcAddr msg).nextTxUs = entry.nextTxUs
      ∧ (entry.receive nowUs srcAddr msg).originated = entry.originated
      ∧ (entry.originated = true →
        (entry.receive nowUs srcAddr msg).value = entry.value) := by
  cases entry with
  | talker e =>
      cases msg with
      | talker attrType leaveAll wire =>
          simp only [hears] at h
          split at h
          · obtain rfl := Option.some.inj h
            refine ⟨?_, rfl, rfl, fun horiginated => ?_⟩
            · simp [receive, applicant, sm, msrpTalkerReceive]
            · simp only [originated] at horiginated
              simp [receive, value, message, msrpTalkerReceive, horiginated]
          · cases h
      | listener leaveAll wire => cases h
      | domain leaveAll wire => cases h
  | listener e =>
      cases msg with
      | talker attrType leaveAll wire => cases h
      | listener leaveAll wire =>
          simp only [hears] at h
          split at h
          case isTrue hstream =>
            obtain rfl := Option.some.inj h
            refine ⟨?_, rfl, rfl, fun _ => ?_⟩
            · simp [receive, applicant, sm, msrpListenerReceive]
            · simp [receive, value, message, msrpListenerReceive, MsrpMessage.plain, hstream]
          case isFalse => cases h
      | domain leaveAll wire => cases h

theorem withdraw_applicant {s : AvbState cfg} (hlite : s.mrpLite = true) :
    (entry.withdraw s).applicant = (mrpWithdrawStep true entry.sm).applicant := by
  cases entry with
  | talker e =>
      simp only [withdraw, applicant, sm, mrpTalkerWithdraw, hlite]
      split <;> rfl
  | listener e => simp only [withdraw, applicant, sm, mrpListenerWithdraw, hlite]

theorem withdraw_nextTxUs {s : AvbState cfg} :
    (entry.withdraw s).nextTxUs
      = mrpLiteNoteLocal s.nowUs (entry.withdraw s).sm entry.applicant entry.nextTxUs := by
  cases entry with
  | talker e =>
      simp only [withdraw, applicant, sm, nextTxUs, mrpTalkerWithdraw]
      split <;> rfl
  | listener e => rfl

/-! ### A declare call -/

theorem next_declare (sm : MrpSm) :
    mrpApplicantNext sm.applicant (mrpDeclareEvent sm)
      = if mrpApplicantDeclaring sm.applicant = true then sm.applicant
        else if sm.applicant = LA then VP else VN := by
  unfold mrpDeclareEvent
  cases sm.applicant <;> rfl

/-- In AVB Lite a changed Advertise is a new declaration; one that is not waits for a hold-off from
before, or steps. -/
theorem declareAdvertise_cases {s : AvbState cfg} (hlite : s.avbLite = true) (p : cfg.Port)
    (e : MsrpTalkerEntry cfg) (call : LiteDeclare) :
    (e.wire.info ≠ (talkerWire s e call).info ∧
      (declareAdvertise s p e call).sm = mrpApplicantStep .fresh .new
        ∧ (declareAdvertise s p e call).liteNextTxUs = s.nowUs
        ∧ (declareAdvertise s p e call).wire = talkerWire s e call)
    ∨ (e.wire.info = (talkerWire s e call).info ∧ e.redeclareAfterUs ≠ 0
        ∧ mrpValueChangeHoldoffOver s p e s.nowUs = false
        ∧ (declareAdvertise s p e call).sm = e.sm
        ∧ (declareAdvertise s p e call).liteNextTxUs = e.liteNextTxUs
        ∧ (declareAdvertise s p e call).wire = e.wire)
    ∨ (e.wire.info = (talkerWire s e call).info
        ∧ (declareAdvertise s p e call).sm = mrpApplicantStep e.sm (mrpDeclareEvent e.sm)
        ∧ (declareAdvertise s p e call).liteNextTxUs
          = mrpLiteNoteLocal s.nowUs (mrpApplicantStep e.sm (mrpDeclareEvent e.sm)) e.sm.applicant
            e.liteNextTxUs
        ∧ (declareAdvertise s p e call).wire = talkerWire s e call) := by
  have hwire : talkerWire s { e with locallyOriginated := true } call = talkerWire s e call := by
    cases call <;> rfl
  have hover : mrpValueChangeHoldoffOver s p { e with locallyOriginated := true } s.nowUs
      = mrpValueChangeHoldoffOver s p e s.nowUs := rfl
  unfold declareAdvertise
  dsimp only
  rw [hwire]
  unfold mrpTalkerTakeValue
  dsimp only
  by_cases hinfo : e.wire.info = (talkerWire s e call).info
  · rw [if_pos hinfo]
    unfold mrpTalkerDeclare
    dsimp only
    rw [hover]
    by_cases hheld : e.redeclareAfterUs ≠ 0
    · rw [if_pos hheld]
      cases hends : mrpValueChangeHoldoffOver s p e s.nowUs with
      | false => exact Or.inr (Or.inl ⟨hinfo, hheld, rfl, rfl, rfl, rfl⟩)
      | true => exact Or.inr (Or.inr ⟨hinfo, rfl, rfl, rfl⟩)
    · rw [if_neg hheld]
      exact Or.inr (Or.inr ⟨hinfo, rfl, rfl, rfl⟩)
  · rw [if_neg hinfo, if_pos hlite]
    refine Or.inl ⟨hinfo, rfl, ?_, rfl⟩
    unfold mrpTalkerDeclare
    rw [if_neg (by simp)]
    simp only [mrpTalkerStepDeclare, mrpLiteNoteLocal, ite_self]

theorem mrpListenerDeclare_event {s : AvbState cfg} (hlite : s.avbLite = true)
    (decl : MsrpListenerEvent) (e : MsrpListenerEntry) :
    mrpListenerDeclareEvent s decl e = mrpDeclareEvent e.sm := by
  unfold mrpListenerDeclareEvent
  rw [if_neg (by simp [hlite])]

/-- A changed type from a quiet or anxious Applicant is sent like a new declaration. -/
theorem listenerDeclare_changed {s : AvbState cfg} (hlite : s.avbLite = true)
    {decl : MsrpListenerEvent} {e : MsrpListenerEntry}
    (hnew : mrpApplicantDeclaring e.sm.applicant = false ∨ e.declEvent ≠ decl)
    (hdue : e.sm.applicant = VN ∨ e.sm.applicant = VP → e.liteNextTxUs ≤ s.nowUs) :
    ((mrpListenerDeclare s decl e).sm.applicant = VN
        ∨ (mrpListenerDeclare s decl e).sm.applicant = VP)
      ∧ (mrpListenerDeclare s decl e).liteNextTxUs ≤ s.nowUs := by
  obtain ⟨sm, hsm, hnext⟩ : ∃ sm, mrpApplicantStep e.sm (mrpDeclareEvent e.sm) = sm
      ∧ sm.applicant = if mrpApplicantDeclaring e.sm.applicant = true then e.sm.applicant
        else if e.sm.applicant = LA then VP else VN := ⟨_, rfl, next_declare e.sm⟩
  unfold mrpListenerDeclare mrpLiteNoteLocal
  rw [mrpListenerDeclare_event hlite, hsm]
  dsimp only
  by_cases hdecl : e.declEvent = decl
  · have hsilent := hnew.resolve_right (not_not_intro hdecl)
    revert hsilent hdue hnext
    cases e.sm.applicant <;>
      simp +contextual [mrpApplicantDeclaring, hdecl, mrpApplicantWillSend]
  · revert hdue hnext
    cases e.sm.applicant <;>
      simp +contextual [mrpApplicantDeclaring, hdecl, hlite, mrpApplicantWillSend]

theorem listenerDeclare_same {s : AvbState cfg} (hlite : s.avbLite = true)
    {e : MsrpListenerEntry} (hdeclaring : mrpApplicantDeclaring e.sm.applicant = true) :
    (mrpListenerDeclare s e.declEvent e).sm.applicant = e.sm.applicant
      ∧ (mrpListenerDeclare s e.declEvent e).liteNextTxUs = e.liteNextTxUs := by
  have hnext := next_declare e.sm
  rw [if_pos hdeclaring] at hnext
  unfold mrpListenerDeclare mrpLiteNoteLocal
  rw [mrpListenerDeclare_event hlite]
  simp [hnext]

@[simp]
theorem mrpListenerDeclare_wire (s : AvbState cfg) (decl : MsrpListenerEvent)
    (e : MsrpListenerEntry) : (mrpListenerDeclare s decl e).wire = e.wire := by
  unfold mrpListenerDeclare
  dsimp only
  split
  · rfl
  · split <;> rfl

@[simp]
theorem mrpListenerDeclare_declEvent (s : AvbState cfg) (decl : MsrpListenerEvent)
    (e : MsrpListenerEntry) : (mrpListenerDeclare s decl e).declEvent = decl := by
  unfold mrpListenerDeclare
  dsimp only
  split
  · rfl
  · split <;> rfl

/-- What a call must find for its declaration to be on its way at once. -/
def takesAtOnce (s : AvbState cfg) (p : cfg.Port) : LiteEntry cfg → LiteDeclare → Prop
  | talker e, .advertise da vlan mfs mfi classB =>
      e.wire.info = (talkerWire s e (.advertise da vlan mfs mfi classB)).info →
        e.redeclareAfterUs ≠ 0 → mrpValueChangeHoldoffOver s p e s.nowUs = true
  | talker e, .failed _ _ _ _ _ _ _ =>
      mrpApplicantDeclaring e.sm.applicant = true →
        (e.sm.applicant = VN ∨ e.sm.applicant = VP) ∧ e.liteNextTxUs ≤ s.nowUs
  | listener e, .listener _ =>
      e.sm.applicant = VN ∨ e.sm.applicant = VP → e.liteNextTxUs ≤ s.nowUs
  | _, _ => True

theorem value_talker_advertise {e : MsrpTalkerEntry cfg} (h : e.attrType = .talkerAdvertise) :
    (talker e).value
      = .talker .talkerAdvertise false { MsrpTalkerMessage.zero with info := e.wire.info } := by
  simp only [value, message, h, MsrpMessage.plain]

theorem value_talker_failed {e : MsrpTalkerEntry cfg} (h : e.attrType = .talkerFailed) :
    (talker e).value = .talker .talkerFailed false { e.wire with event := 0 } := by
  simp only [value, message, h, MsrpMessage.plain]

theorem declareAdvertise_attrType (s : AvbState cfg) (p : cfg.Port) (e : MsrpTalkerEntry cfg)
    (call : LiteDeclare) : (declareAdvertise s p e call).attrType = e.attrType
      ∧ (declareAdvertise s p e call).locallyOriginated = true := by
  unfold declareAdvertise mrpTalkerDeclare mrpTalkerTakeValue
  dsimp only
  repeat' split
  all_goals exact ⟨rfl, rfl⟩

theorem stepDeclare_new (nowUs : Nat) {e : MsrpTalkerEntry cfg}
    (hnew : mrpApplicantDeclaring e.sm.applicant = false) :
    ((mrpTalkerStepDeclare nowUs e.sm.applicant e).sm.applicant = VN
        ∨ (mrpTalkerStepDeclare nowUs e.sm.applicant e).sm.applicant = VP)
      ∧ (mrpTalkerStepDeclare nowUs e.sm.applicant e).liteNextTxUs = nowUs := by
  have hnext := next_declare e.sm
  rw [hnew] at hnext
  simp only [mrpTalkerStepDeclare, mrpLiteNoteLocal, mrpApplicantStep_applicant, hnext]
  revert hnew
  cases e.sm.applicant <;> simp [mrpApplicantDeclaring, mrpApplicantWillSend]

theorem stepDeclare_same (nowUs : Nat) {e : MsrpTalkerEntry cfg}
    (hdeclaring : mrpApplicantDeclaring e.sm.applicant = true) :
    (mrpTalkerStepDeclare nowUs e.sm.applicant e).sm.applicant = e.sm.applicant
      ∧ (mrpTalkerStepDeclare nowUs e.sm.applicant e).liteNextTxUs = e.liteNextTxUs := by
  have hnext := next_declare e.sm
  rw [if_pos hdeclaring] at hnext
  simp [mrpTalkerStepDeclare, mrpLiteNoteLocal, hnext]

/-- A new or changed declaration leaves the Applicant with both of its sends to make, the first at
once. -/
theorem declare_new {s : AvbState cfg} (hlite : s.avbLite = true) {p : cfg.Port}
    {call : LiteDeclare} {v : MsrpMessage} (hasked : entry.asked s call = some v)
    (hnew : entry.declaring = false ∨ entry.value ≠ v) (htakes : entry.takesAtOnce s p call) :
    ((entry.declare s p call).applicant = VN ∨ (entry.declare s p call).applicant = VP)
      ∧ (entry.declare s p call).nextTxUs ≤ s.nowUs ∧ (entry.declare s p call).value = v
      ∧ (entry.declare s p call).originated = true := by
  cases entry with
  | talker e =>
      cases call with
      | advertise da vlan mfs mfi classB =>
          simp only [asked] at hasked
          split at hasked
          case isTrue htype =>
            obtain rfl := Option.some.inj hasked
            obtain ⟨htype', horiginated⟩ :=
              declareAdvertise_attrType s p e (.advertise da vlan mfs mfi classB)
            have hcases := declareAdvertise_cases hlite p e (.advertise da vlan mfs mfi classB)
            simp only [takesAtOnce] at htakes
            simp only [declaring, applicant, sm, value_talker_advertise htype] at hnew
            simp only [declare, if_pos htype, applicant, sm, nextTxUs, originated]
            rw [value_talker_advertise (htype'.trans htype)]
            rcases hcases with ⟨hinfo, hsm, hnext, hwire⟩ | ⟨hinfo, hheld, hover, -⟩
              | ⟨hinfo, hsm, hnext, hwire⟩
            · exact ⟨Or.inl (by rw [hsm]; rfl), hnext.le, by rw [hwire]; rfl, horiginated⟩
            · rw [htakes hinfo hheld] at hover
              cases hover
            · have hsilent : mrpApplicantDeclaring e.sm.applicant = false := by
                refine hnew.resolve_right (not_not_intro ?_)
                rw [hinfo]
                rfl
              obtain ⟨hstate, hdue⟩ := stepDeclare_new s.nowUs hsilent
              rw [hsm, hnext, hwire]
              exact ⟨hstate, hdue.le, rfl, horiginated⟩
          case isFalse => cases hasked
      | failed da vlan mfs mfi code classB srcBridgeId =>
          simp only [asked] at hasked
          split at hasked
          case isTrue htype =>
            obtain rfl := Option.some.inj hasked
            simp only [takesAtOnce] at htakes
            simp only [declare, if_pos htype]
            generalize LiteDeclare.failed da vlan mfs mfi code classB srcBridgeId = call at hnew ⊢
            have hvalue : (talker (declareFailed s e call)).value
                = (MsrpMessage.talker .talkerFailed false (talkerWire s e call)).plain := by
              rw [value_talker_failed (by exact htype)]
              rfl
            refine ⟨?_, ?_, hvalue, rfl⟩
            · cases hdeclaring : mrpApplicantDeclaring e.sm.applicant with
              | false => exact (stepDeclare_new s.nowUs
                  (e := { e with locallyOriginated := true, wire := talkerWire s e call })
                  hdeclaring).1
              | true =>
                  have hsame := (stepDeclare_same s.nowUs
                    (e := { e with locallyOriginated := true, wire := talkerWire s e call })
                    hdeclaring).1
                  rw [applicant, sm, declareFailed, hsame]
                  exact (htakes hdeclaring).1
            · cases hdeclaring : mrpApplicantDeclaring e.sm.applicant with
              | false => exact (stepDeclare_new s.nowUs
                  (e := { e with locallyOriginated := true, wire := talkerWire s e call })
                  hdeclaring).2.le
              | true =>
                  have hsame := (stepDeclare_same s.nowUs
                    (e := { e with locallyOriginated := true, wire := talkerWire s e call })
                    hdeclaring).2
                  rw [nextTxUs, declareFailed, hsame]
                  exact (htakes hdeclaring).2
          case isFalse => cases hasked
      | listener decl => cases hasked
  | listener e =>
      cases call with
      | advertise da vlan mfs mfi classB => cases hasked
      | failed da vlan mfs mfi code classB srcBridgeId => cases hasked
      | listener decl =>
          obtain rfl := Option.some.inj hasked
          have hchanged : mrpApplicantDeclaring e.sm.applicant = false ∨ e.declEvent ≠ decl := by
            refine hnew.imp_right fun hvalue hdecl => hvalue ?_
            rw [← hdecl]
            rfl
          obtain ⟨hstate, hdue⟩ := listenerDeclare_changed hlite hchanged htakes
          refine ⟨hstate, hdue, ?_, rfl⟩
          simp [declare, value, message, MsrpMessage.plain, intTo3pe]

theorem talker_plain_inj {attrType : MsrpAttrType} {e : MsrpTalkerEntry cfg} {s : AvbState cfg}
    {call : LiteDeclare} (h : attrType = .talkerAdvertise)
    (hvalue : (MsrpMessage.talker .talkerAdvertise false
        { MsrpTalkerMessage.zero with info := e.wire.info })
      = (MsrpMessage.talker attrType false (talkerWire s e call)).plain) :
    e.wire.info = (talkerWire s e call).info := by
  subst h
  simp only [MsrpMessage.plain, MsrpMessage.talker.injEq, true_and] at hvalue
  exact (MsrpTalkerMessage.mk.inj hvalue).1

/-- A call for what is declared already changes no state of the entry that a flush looks at. -/
theorem declare_same {s : AvbState cfg} (hlite : s.avbLite = true) {p : cfg.Port}
    {call : LiteDeclare}
    (hsame : ∀ v, entry.asked s call = some v → entry.declaring = true ∧ entry.value = v) :
    (entry.declare s p call).applicant = entry.applicant
      ∧ (entry.declare s p call).nextTxUs = entry.nextTxUs
      ∧ (entry.declare s p call).value = entry.value
      ∧ (entry.originated = true → (entry.declare s p call).originated = true) := by
  cases entry with
  | talker e =>
      cases call with
      | advertise da vlan mfs mfi classB =>
          simp only [declare]
          split
          case isTrue htype =>
            simp only [asked, if_pos htype] at hsame
            obtain ⟨hdeclaring, hvalue⟩ := hsame _ rfl
            obtain ⟨htype', horiginated⟩ :=
              declareAdvertise_attrType s p e (.advertise da vlan mfs mfi classB)
            have hcases := declareAdvertise_cases hlite p e (.advertise da vlan mfs mfi classB)
            simp only [declaring, applicant, sm] at hdeclaring
            rw [value_talker_advertise htype] at hvalue
            rw [value_talker_advertise (htype'.trans htype), value_talker_advertise htype]
            simp only [applicant, sm, nextTxUs, originated]
            rcases hcases with ⟨hinfo, -⟩ | ⟨-, -, -, hsm, hnext, hwire⟩
              | ⟨hinfo, hsm, hnext, hwire⟩
            · exact absurd (talker_plain_inj rfl hvalue) hinfo
            · exact ⟨by rw [hsm], hnext, by rw [hwire], fun _ => horiginated⟩
            · obtain ⟨hstate, hdue⟩ := stepDeclare_same s.nowUs hdeclaring
              refine ⟨?_, hnext.trans hdue, by rw [hwire, hinfo], fun _ => horiginated⟩
              rw [hsm]
              exact hstate
          case isFalse => exact ⟨rfl, rfl, rfl, id⟩
      | failed da vlan mfs mfi code classB srcBridgeId =>
          simp only [declare]
          split
          case isTrue htype =>
            simp only [asked, if_pos htype] at hsame
            obtain ⟨hdeclaring, hvalue⟩ := hsame _ rfl
            generalize LiteDeclare.failed da vlan mfs mfi code classB srcBridgeId = call at hvalue ⊢
            obtain ⟨hstate, hdue⟩ := stepDeclare_same s.nowUs
              (e := { e with locallyOriginated := true, wire := talkerWire s e call }) hdeclaring
            refine ⟨hstate, hdue, ?_, fun _ => rfl⟩
            rw [hvalue, value_talker_failed (by exact htype)]
            rfl
          case isFalse => exact ⟨rfl, rfl, rfl, id⟩
      | listener decl => exact ⟨rfl, rfl, rfl, id⟩
  | listener e =>
      cases call with
      | advertise da vlan mfs mfi classB => exact ⟨rfl, rfl, rfl, id⟩
      | failed da vlan mfs mfi code classB srcBridgeId => exact ⟨rfl, rfl, rfl, id⟩
      | listener decl =>
          obtain ⟨hdeclaring, hvalue⟩ := hsame _ rfl
          have hdecl : e.declEvent = decl := by
            simp only [value, message, MsrpMessage.plain, MsrpMessage.listener.injEq,
              MsrpListenerMessage.mk.injEq] at hvalue
            exact hvalue.2.2.2
          subst hdecl
          obtain ⟨hstate, hdue⟩ := listenerDeclare_same hlite hdeclaring
          refine ⟨hstate, hdue, ?_, fun _ => rfl⟩
          simp [declare, value, message, MsrpMessage.plain]

/-- After a call the entry is declared, or the call had no effect on its Applicant. -/
theorem declare_declaring {s : AvbState cfg} (hlite : s.avbLite = true) (p : cfg.Port)
    (call : LiteDeclare) :
    (entry.declare s p call).declaring = true
      ∨ ((entry.declare s p call).applicant = entry.applicant
        ∧ (entry.declare s p call).nextTxUs = entry.nextTxUs) := by
  have hstep : ∀ sm : MrpSm,
      mrpApplicantDeclaring (mrpApplicantNext sm.applicant (mrpDeclareEvent sm)) = true := by
    intro sm
    rw [next_declare]
    cases sm.applicant <;> rfl
  cases entry with
  | talker e =>
      cases call with
      | advertise da vlan mfs mfi classB =>
          simp only [declare]
          split
          · rcases declareAdvertise_cases hlite p e (.advertise da vlan mfs mfi classB)
              with ⟨-, hsm, -⟩ | ⟨-, -, -, hsm, hnext, -⟩ | ⟨-, hsm, -⟩
            · refine Or.inl ?_
              rw [declaring, applicant, sm, hsm]
              rfl
            · exact Or.inr ⟨by rw [applicant, sm, hsm]; rfl, hnext⟩
            · refine Or.inl ?_
              rw [declaring, applicant, sm, hsm]
              exact hstep e.sm
          · exact Or.inr ⟨rfl, rfl⟩
      | failed da vlan mfs mfi code classB srcBridgeId =>
          simp only [declare]
          split
          · exact Or.inl (hstep e.sm)
          · exact Or.inr ⟨rfl, rfl⟩
      | listener decl => exact Or.inr ⟨rfl, rfl⟩
  | listener e =>
      cases call with
      | advertise da vlan mfs mfi classB => exact Or.inr ⟨rfl, rfl⟩
      | failed da vlan mfs mfi code classB srcBridgeId => exact Or.inr ⟨rfl, rfl⟩
      | listener decl =>
          refine Or.inl ?_
          have hnext := hstep e.sm
          simp only [declare, declaring, applicant, sm, mrpListenerDeclare]
          rw [mrpListenerDeclare_event hlite]
          split
          · rfl
          · split
            · rfl
            · exact hnext

end LiteEntry

/-! ### Runs -/

namespace LiteEntryEvent

def isFlush : LiteEntryEvent cfg → Bool
  | flush => true
  | _ => false

def isRedeclareAll : LiteEntryEvent cfg → Bool
  | redeclareAll => true
  | _ => false

def isDeclare : LiteEntryEvent cfg → Bool
  | declare _ _ _ => true
  | _ => false

end LiteEntryEvent

/-- `v` goes out, as a declaration. -/
def LiteSend.Declares (send : LiteSend) (v : MsrpMessage) : Prop :=
  send.msg.plain = v ∧ send.msg.isLv = false

namespace LiteRun

variable {st : LiteRun cfg} {e : LiteEntryEvent cfg}

/-- The declaration is neither changed nor withdrawn. -/
def Quiet (st : LiteRun cfg) : LiteEntryEvent cfg → Prop
  | .withdraw _ => False
  | .declare s _ call => st.newOrChanged s call = false
  | _ => True

/-- Nothing takes the Applicant out of turn: a withdrawal of what is out does not meet VP, AP or QP,
a call meets an entry that takes it at once, and no peer says for us what is still to be sent. -/
def Kept (st : LiteRun cfg) : LiteEntryEvent cfg → Prop
  | .withdraw _ => st.out = true →
      st.entry.applicant ≠ VP ∧ st.entry.applicant ≠ AP ∧ st.entry.applicant ≠ QP
  | .declare s p call => st.newOrChanged s call = true → st.entry.takesAtOnce (st.at s) p call
  | .peer msg _ => st.owes ≠ .nothing →
      ∀ ev, st.entry.hears msg = some ev → ¬ st.entry.applicant.suppressedBy ev
  | _ => True

theorem flush_waits (h : mrpApplicantWillSend st.entry.applicant = false
    ∨ st.nowUs < st.entry.nextTxUs) :
    st.flush = { st with
      entry := st.entry.schedule { st.entry.sm with pendingTx := .none } st.entry.nextTxUs } := by
  unfold flush
  rw [LiteEntry.flush_wait h]

theorem flush_sends (hwill : mrpApplicantWillSend st.entry.applicant = true)
    (hdue : st.entry.nextTxUs ≤ st.nowUs) :
    ∃ sm msg, st.flush = { st with
        entry := st.entry.schedule sm (st.nowUs + mrpLiteJoinTimeUs)
        sent := st.sent ++ [⟨st.nowUs, msg⟩]
        owes := owesAfter st.owes st.nowUs }
      ∧ sm.applicant = mrpApplicantNext st.entry.applicant .tx ∧ msg.plain = st.entry.value
      ∧ (msg.isLv = true ↔ st.entry.applicant = LA) := by
  obtain ⟨sm, msg, hflush, hnext, hplain, hlv⟩ := LiteEntry.flush_due hwill hdue
  refine ⟨sm, msg, ?_, hnext, hplain, hlv⟩
  unfold flush
  rw [hflush]

/-! ### Withdrawals -/

/-- A declaration that is out is still declared, or on its way out. -/
def OutKept (st : LiteRun cfg) : Prop :=
  st.out = true → st.entry.declaring = true
    ∨ (st.entry.applicant = LA ∧ st.entry.nextTxUs ≤ st.nowUs)

theorem out_concat (st : LiteRun cfg) (entry : LiteEntry cfg) (send : LiteSend)
    (owes : LiteOwes) :
    ({ st with entry, sent := st.sent ++ [send], owes } : LiteRun cfg).out = !send.msg.isLv := by
  simp [out]

theorem next_tx_declaring {a : MrpApplicantState} (hwill : mrpApplicantWillSend a = true)
    (hla : a ≠ LA) : mrpApplicantDeclaring (mrpApplicantNext a .tx) = true := by
  revert hwill hla
  cases a <;> simp [mrpApplicantWillSend, mrpApplicantNext, mrpApplicantDeclaring]

theorem withdraw_leaves {sm : MrpSm} (hdeclaring : mrpApplicantDeclaring sm.applicant = true)
    (hkept : sm.applicant ≠ VP ∧ sm.applicant ≠ AP ∧ sm.applicant ≠ QP) :
    (mrpWithdrawStep true sm).applicant = LA := by
  obtain ⟨hvp, hap, hqp⟩ := hkept
  unfold mrpWithdrawStep
  cases happlicant : sm.applicant <;> rw [happlicant] at hdeclaring <;>
    simp_all [mrpApplicantNext, mrpApplicantDeclaring]

/-- What is withdrawn while it is out goes to LA, to be sent at once. -/
theorem OutKept.withdraw (hinv : st.OutKept) (hout : st.out = true) {s : AvbState cfg}
    (hkept : st.Kept (.withdraw s)) :
    (st.step (.withdraw s)).entry.applicant = LA
      ∧ (st.step (.withdraw s)).entry.nextTxUs ≤ st.nowUs := by
  have happlicant := @LiteEntry.withdraw_applicant cfg st.entry (st.at s) rfl
  have hnext := @LiteEntry.withdraw_nextTxUs cfg st.entry (st.at s)
  have hla : (st.entry.withdraw (st.at s)).applicant = LA := by
    rw [happlicant]
    rcases hinv hout with hdeclaring | ⟨hla, -⟩
    · exact withdraw_leaves hdeclaring (hkept hout)
    · have : st.entry.sm.applicant = LA := hla
      simp [mrpWithdrawStep, this, mrpApplicantNext]
  refine ⟨hla, ?_⟩
  change (st.entry.withdraw (st.at s)).nextTxUs ≤ st.nowUs
  rw [hnext, mrpLiteNoteLocal]
  split
  · exact le_rfl
  case isFalse hsame =>
    have hla' : (st.entry.withdraw (st.at s)).sm.applicant = LA := hla
    rw [hla'] at hsame
    have hbefore : st.entry.applicant = LA := by
      by_contra hne
      exact hsame ⟨fun h => hne h.symm, rfl⟩
    rcases hinv hout with hdeclaring | ⟨-, hdue⟩
    · rw [LiteEntry.declaring, hbefore] at hdeclaring
      cases hdeclaring
    · exact hdue

theorem OutKept.step (hinv : st.OutKept) (hkept : st.Kept e) : (st.step e).OutKept := by
  cases e with
  | elapse us =>
      intro hout
      exact (hinv hout).imp_right fun h => ⟨h.1, h.2.trans (Nat.le_add_right _ _)⟩
  | declare s p call =>
      intro hout
      rcases @LiteEntry.declare_declaring cfg st.entry (st.at s) rfl p call
        with hdeclaring | ⟨hsame, hnext⟩
      · exact Or.inl hdeclaring
      · rcases hinv hout with hdeclaring | ⟨hla, hdue⟩
        · refine Or.inl ?_
          change (st.entry.declare (st.at s) p call).declaring = true
          rw [LiteEntry.declaring, hsame]
          exact hdeclaring
        · exact Or.inr ⟨hsame.trans hla, hnext.trans_le hdue⟩
  | withdraw s => exact fun hout => Or.inr (hinv.withdraw hout hkept)
  | redeclareAll =>
      intro hout
      have happlicant := @LiteEntry.redeclare_applicant cfg st.entry st.nowUs
      have hnext := @LiteEntry.redeclare_nextTxUs cfg st.entry st.nowUs
      rcases hinv hout with hdeclaring | ⟨hla, hdue⟩
      · refine Or.inl ?_
        change (st.entry.redeclare st.nowUs).declaring = true
        rw [LiteEntry.declaring, happlicant]
        split
        · unfold LiteEntry.declaring at hdeclaring
          revert hdeclaring
          cases st.entry.applicant <;> simp [mrpApplicantNext, mrpApplicantDeclaring]
        · exact hdeclaring
      · have hsame : (st.entry.redeclare st.nowUs).applicant = st.entry.applicant := by
          rw [happlicant, if_neg]
          rintro ⟨-, hdeclaring⟩
          rw [LiteEntry.declaring, hla] at hdeclaring
          cases hdeclaring
        rw [if_pos hsame] at hnext
        exact Or.inr ⟨hsame.trans hla, hnext.trans_le hdue⟩
  | peer msg srcAddr =>
      simp only [LiteRun.step]
      cases hhears : st.entry.hears msg with
      | none => simpa using hinv
      | some ev =>
          intro hout
          obtain ⟨happlicant, hnext, -⟩ :=
            LiteEntry.receive_spec hhears st.nowUs srcAddr
          have hpeer := LiteEntry.hears_ofPeer hhears
          rcases hinv hout with hdeclaring | ⟨hla, hdue⟩
          · refine Or.inl ?_
            change (st.entry.receive st.nowUs srcAddr msg).declaring = true
            rw [LiteEntry.declaring, happlicant]
            exact ofPeer_next_declaring hpeer hdeclaring
          · refine Or.inr ⟨happlicant.trans ?_, hnext.trans_le hdue⟩
            rw [hla]
            obtain rfl | rfl | rfl | rfl | rfl | rfl := hpeer <;> rfl
  | flush =>
      intro hout
      by_cases hdue : mrpApplicantWillSend st.entry.applicant = true
          ∧ st.entry.nextTxUs ≤ st.nowUs
      · obtain ⟨sm, msg, hflush, hnext, -, hlv⟩ := flush_sends hdue.1 hdue.2
        simp only [LiteRun.step] at hout ⊢
        rw [hflush] at hout ⊢
        rw [out_concat] at hout
        have hnot : st.entry.applicant ≠ LA := fun hla => by
          rw [hlv.2 hla] at hout
          cases hout
        refine Or.inl ?_
        simp only [LiteEntry.declaring, LiteEntry.applicant, LiteEntry.schedule_sm, hnext]
        exact next_tx_declaring hdue.1 hnot
      · have hwaits : mrpApplicantWillSend st.entry.applicant = false
            ∨ st.nowUs < st.entry.nextTxUs := by
          by_contra hneither
          rw [not_or] at hneither
          exact hdue ⟨by simpa using hneither.1, not_lt.1 hneither.2⟩
        simp only [LiteRun.step] at hout ⊢
        rw [flush_waits hwaits] at hout ⊢
        have hthen := hinv hout
        simpa [LiteEntry.declaring, LiteEntry.applicant] using hthen

/-- An Lv waits for the next flush. -/
def Leaving (st : LiteRun cfg) : Prop :=
  st.entry.applicant = LA ∧ st.entry.nextTxUs ≤ st.nowUs

theorem silent_step (hsilent : st.entry.applicant.silent) (hnot : e.isDeclare = false) :
    (st.step e).entry.applicant.silent ∧ (st.step e).sent = st.sent := by
  cases e with
  | elapse us => exact ⟨hsilent, rfl⟩
  | declare s p call => cases hnot
  | withdraw s =>
      refine ⟨?_, rfl⟩
      have happlicant := @LiteEntry.withdraw_applicant cfg st.entry (st.at s) rfl
      change (st.entry.withdraw (st.at s)).applicant.silent
      rw [happlicant]
      obtain h | h | h | h := hsilent <;> unfold LiteEntry.applicant at h <;>
        simp [mrpWithdrawStep, h, mrpApplicantNext, silent]
  | redeclareAll =>
      refine ⟨?_, rfl⟩
      change (st.entry.redeclare st.nowUs).applicant.silent
      rw [LiteEntry.redeclare_applicant, LiteEntry.declaring, silent_not_declaring hsilent,
        if_neg (by simp)]
      exact hsilent
  | peer msg srcAddr =>
      simp only [LiteRun.step]
      cases hhears : st.entry.hears msg with
      | none => exact ⟨hsilent, rfl⟩
      | some ev =>
          refine ⟨?_, rfl⟩
          obtain ⟨happlicant, -⟩ := LiteEntry.receive_spec hhears st.nowUs srcAddr
          change (st.entry.receive st.nowUs srcAddr msg).applicant.silent
          rw [happlicant]
          exact ofPeer_next_silent (LiteEntry.hears_ofPeer hhears) hsilent
  | flush =>
      simp only [LiteRun.step]
      rw [flush_waits (Or.inl (silent_not_willSend hsilent))]
      refine ⟨?_, rfl⟩
      simpa [LiteEntry.applicant] using hsilent

theorem silent_run {events : List (LiteEntryEvent cfg)} (hsilent : st.entry.applicant.silent)
    (hnot : ∀ e ∈ events, e.isDeclare = false) : (run step st events).sent = st.sent := by
  induction events generalizing st with
  | nil => rfl
  | cons e events ih =>
      obtain ⟨hsilent', hsent⟩ := silent_step hsilent (hnot e List.mem_cons_self)
      rw [run_cons, ih hsilent' fun e' hmem => hnot e' (List.mem_cons_of_mem _ hmem), hsent]

theorem Leaving.step (hleaving : st.Leaving) (hnot : e.isDeclare = false)
    (hwait : e.isFlush = false) : (st.step e).Leaving ∧ (st.step e).sent = st.sent := by
  obtain ⟨hla, hdue⟩ := hleaving
  cases e with
  | elapse us => exact ⟨⟨hla, hdue.trans (Nat.le_add_right _ _)⟩, rfl⟩
  | declare s p call => cases hnot
  | withdraw s =>
      refine ⟨?_, rfl⟩
      have happlicant := @LiteEntry.withdraw_applicant cfg st.entry (st.at s) rfl
      have hnext := @LiteEntry.withdraw_nextTxUs cfg st.entry (st.at s)
      have hsm : st.entry.sm.applicant = LA := hla
      have hstays : (st.entry.withdraw (st.at s)).applicant = LA := by
        rw [happlicant]
        simp [mrpWithdrawStep, hsm, mrpApplicantNext]
      refine ⟨hstays, ?_⟩
      change (st.entry.withdraw (st.at s)).nextTxUs ≤ st.nowUs
      rw [hnext, mrpLiteNoteLocal, if_neg]
      · exact hdue
      · rintro ⟨hne, -⟩
        exact hne (hstays.trans hla.symm)
  | redeclareAll =>
      refine ⟨?_, rfl⟩
      have hsame : (st.entry.redeclare st.nowUs).applicant = st.entry.applicant := by
        rw [LiteEntry.redeclare_applicant, LiteEntry.declaring, hla, if_neg]
        rintro ⟨-, hdeclaring⟩
        cases hdeclaring
      have hnext := @LiteEntry.redeclare_nextTxUs cfg st.entry st.nowUs
      rw [if_pos hsame] at hnext
      exact ⟨hsame.trans hla, hnext.trans_le hdue⟩
  | peer msg srcAddr =>
      simp only [LiteRun.step]
      cases hhears : st.entry.hears msg with
      | none => exact ⟨⟨hla, hdue⟩, rfl⟩
      | some ev =>
          refine ⟨?_, rfl⟩
          obtain ⟨happlicant, hnext, -⟩ := LiteEntry.receive_spec hhears st.nowUs srcAddr
          refine ⟨happlicant.trans ?_, hnext.trans_le hdue⟩
          rw [hla]
          obtain rfl | rfl | rfl | rfl | rfl | rfl := LiteEntry.hears_ofPeer hhears <;> rfl
  | flush => cases hwait

theorem Leaving.flush (hleaving : st.Leaving) :
    st.flush.entry.applicant.silent
      ∧ ∃ leave : LiteSend, leave.msg.isLv = true ∧ st.flush.sent = st.sent ++ [leave] := by
  obtain ⟨hla, hdue⟩ := hleaving
  obtain ⟨sm, msg, hflush, hnext, -, hlv⟩ := flush_sends (by rw [hla]; rfl) hdue
  rw [hflush]
  refine ⟨Or.inl ?_, ⟨st.nowUs, msg⟩, hlv.2 hla, rfl⟩
  simp only [LiteEntry.applicant, LiteEntry.schedule_sm, hnext]
  rw [show st.entry.sm.applicant = LA from hla]
  rfl

/-- From LA on there is one Lv and nothing else, at the first flush. -/
theorem leaving_run {events : List (LiteEntryEvent cfg)} (hleaving : st.Leaving)
    (hnot : ∀ e ∈ events, e.isDeclare = false) :
    ∃ leaves, (run step st events).sent = st.sent ++ leaves
      ∧ leaves.length = (if events.any (·.isFlush) then 1 else 0)
      ∧ ∀ leave ∈ leaves, leave.msg.isLv = true := by
  induction events generalizing st with
  | nil => exact ⟨[], by simp, rfl, by simp⟩
  | cons e events ih =>
      have hrest : ∀ e' ∈ events, e'.isDeclare = false :=
        fun e' hmem => hnot e' (List.mem_cons_of_mem _ hmem)
      cases hflush : e.isFlush with
      | false =>
          obtain ⟨hleaving', hsent⟩ := hleaving.step (hnot e List.mem_cons_self) hflush
          obtain ⟨leaves, hrun, hlength, hlv⟩ := ih hleaving' hrest
          refine ⟨leaves, ?_, ?_, hlv⟩
          · rw [run_cons, hrun, hsent]
          · rw [hlength, List.any_cons, hflush, Bool.false_or]
      | true =>
          have hstep : st.step e = st.flush := by
            cases e <;> first | rfl | cases hflush
          obtain ⟨hsilent, leave, hlv, hsent⟩ := hleaving.flush
          refine ⟨[leave], ?_, ?_, ?_⟩
          · rw [run_cons, hstep, silent_run hsilent hrest, hsent]
          · rw [List.any_cons, hflush, Bool.true_or]
            rfl
          · intro leave' hmem
            rw [List.mem_singleton.1 hmem]
            exact hlv

/-! ### New and changed declarations -/

/-- The entry declares `v`, and has a send of it to make for a call that was new or changed. -/
structure Owing (st : LiteRun cfg) (v : MsrpMessage) : Prop where
  value : st.entry.value = v
  originated : st.entry.originated = true
  anxious : st.entry.applicant.anxious
  owes : st.owes ≠ .nothing

/-- What a step other than a flush does to a declaration that is neither changed nor withdrawn: the
Applicant may start over, and the next send may come to be at once when everything is redeclared. -/
structure Undisturbed (st st' : LiteRun cfg) (redeclared : Prop) : Prop where
  value : st'.entry.value = st.entry.value
  originated : st'.entry.originated = true
  applicant : st'.entry.applicant = st.entry.applicant ∨ st'.entry.applicant = VN
    ∨ st'.entry.applicant = VP
  fresh : st.entry.applicant = VN ∨ st.entry.applicant = VP →
    st'.entry.nextTxUs = st.entry.nextTxUs
  next : st'.entry.nextTxUs = st.entry.nextTxUs
    ∨ (redeclared ∧ st'.entry.nextTxUs = st'.nowUs
      ∧ (st'.entry.applicant = VN ∨ st'.entry.applicant = VP))
  sent : st'.sent = st.sent
  owes : st'.owes = st.owes
  later : st.nowUs ≤ st'.nowUs

theorem Owing.undisturbed {v : MsrpMessage} (howing : st.Owing v) (hquiet : st.Quiet e)
    (hkept : st.Kept e) (hwait : e.isFlush = false) :
    Undisturbed st (st.step e) (e.isRedeclareAll = true) := by
  obtain ⟨hvalue, horiginated, hanxious, howes⟩ := howing
  cases e with
  | elapse us =>
      exact ⟨rfl, horiginated, Or.inl rfl, fun _ => rfl, Or.inl rfl, rfl, rfl,
        Nat.le_add_right _ _⟩
  | declare s p call =>
      have hsame : ∀ v, st.entry.asked (st.at s) call = some v →
          st.entry.declaring = true ∧ st.entry.value = v := by
        intro v hasked
        have hnot : st.newOrChanged s call = false := hquiet
        unfold newOrChanged at hnot
        rw [hasked] at hnot
        simpa using hnot
      obtain ⟨happlicant, hnext, hval, horig⟩ :=
        @LiteEntry.declare_same cfg st.entry (st.at s) rfl p call hsame
      have howes' : (st.step (.declare s p call)).owes = st.owes := by
        have hnot : st.newOrChanged s call = false := hquiet
        simp only [LiteRun.step, hnot, Bool.false_eq_true, if_false]
      exact ⟨hval, horig horiginated, Or.inl happlicant, fun _ => hnext, Or.inl hnext, rfl, howes',
        le_rfl⟩
  | withdraw s => exact hquiet.elim
  | redeclareAll =>
      have happlicant := @LiteEntry.redeclare_applicant cfg st.entry st.nowUs
      have hnext := @LiteEntry.redeclare_nextTxUs cfg st.entry st.nowUs
      rw [if_pos ⟨horiginated, anxious_declaring hanxious⟩] at happlicant
      have hfresh : (st.entry.redeclare st.nowUs).applicant = VN
          ∨ (st.entry.redeclare st.nowUs).applicant = VP := by
        rw [happlicant]
        obtain h | h | h | h := hanxious <;> rw [h] <;> simp [mrpApplicantNext]
      refine ⟨LiteEntry.redeclare_value st.nowUs,
        (LiteEntry.redeclare_originated st.nowUs).trans horiginated, Or.inr hfresh, ?_, ?_, rfl, rfl,
        le_rfl⟩
      · intro hbefore
        refine hnext.trans (if_pos ?_)
        rw [happlicant]
        obtain h | h := hbefore <;> rw [h] <;> rfl
      · by_cases hsame : (st.entry.redeclare st.nowUs).applicant = st.entry.applicant
        · exact Or.inl (hnext.trans (if_pos hsame))
        · exact Or.inr ⟨rfl, hnext.trans (if_neg hsame), hfresh⟩
  | peer msg srcAddr =>
      cases hhears : st.entry.hears msg with
      | none =>
          have hstep : st.step (.peer msg srcAddr) = st := by
            simp only [LiteRun.step, hhears, Option.isSome_none, Bool.false_eq_true, if_false]
          rw [hstep]
          exact ⟨rfl, horiginated, Or.inl rfl, fun _ => rfl, Or.inl rfl, rfl, rfl, le_rfl⟩
      | some ev =>
          have hstep : st.step (.peer msg srcAddr)
              = { st with entry := st.entry.receive st.nowUs srcAddr msg } := by
            simp only [LiteRun.step, hhears, Option.isSome_some, if_true]
          obtain ⟨happlicant, hnext, horig, hval⟩ :=
            LiteEntry.receive_spec hhears st.nowUs srcAddr
          obtain ⟨-, hthen⟩ := ofPeer_next_anxious (LiteEntry.hears_ofPeer hhears) hanxious
            (hkept howes ev hhears)
          rw [hstep]
          refine ⟨hval horiginated, horig.trans horiginated, ?_, fun _ => hnext, Or.inl hnext, rfl,
            rfl, le_rfl⟩
          change (st.entry.receive st.nowUs srcAddr msg).applicant = _ ∨ _
          rw [happlicant]
          exact hthen
  | flush => cases hwait

theorem Undisturbed.owing {st' : LiteRun cfg} {redeclared : Prop} {v : MsrpMessage}
    (h : Undisturbed st st' redeclared) (howing : st.Owing v) : st'.Owing v := by
  refine ⟨h.value.trans howing.value, h.originated, ?_, h.owes ▸ howing.owes⟩
  rcases h.applicant with hsame | hvn | hvp
  · exact hsame ▸ howing.anxious
  · exact Or.inl hvn
  · exact Or.inr (Or.inl hvp)

/-- Both sends are to come, the first at the next flush. -/
structure Awaiting (st : LiteRun cfg) (v : MsrpMessage) : Prop extends Owing st v where
  fresh : st.entry.applicant = VN ∨ st.entry.applicant = VP
  due : st.entry.nextTxUs ≤ st.nowUs
  both : st.owes = .both

/-- The second send is to come; the first was at `firstUs`. An earlier send than `JoinTime` later can
only be that of a redeclaration, and it puts the next one off by as much again. -/
structure Pausing (st : LiteRun cfg) (v : MsrpMessage) (firstUs : Nat) : Prop
    extends Owing st v where
  again : st.owes = .again firstUs
  later : firstUs ≤ st.nowUs
  paused : st.entry.applicant = AN ∨ st.entry.applicant = AA →
    firstUs + mrpLiteJoinTimeUs ≤ st.entry.nextTxUs
  soon : st.entry.nextTxUs ≤ st.nowUs
    ∨ st.entry.nextTxUs ≤ firstUs + 2 * mrpLiteJoinTimeUs

def SentAgain (st : LiteRun cfg) (v : MsrpMessage) (firstUs : Nat) : Prop :=
  ∃ again ∈ st.sent, again.Declares v ∧ firstUs + mrpLiteJoinTimeUs ≤ again.atUs

theorem Awaiting.step {v : MsrpMessage} (h : st.Awaiting v) (hquiet : st.Quiet e)
    (hkept : st.Kept e) (hwait : e.isFlush = false) :
    (st.step e).Awaiting v ∧ (st.step e).sent = st.sent := by
  have hsame := h.toOwing.undisturbed hquiet hkept hwait
  refine ⟨{ toOwing := hsame.owing h.toOwing, fresh := ?_, due := ?_, both := ?_ }, hsame.sent⟩
  · rcases hsame.applicant with happlicant | hfresh
    · exact happlicant ▸ h.fresh
    · exact hfresh
  · rw [hsame.fresh h.fresh]
    exact h.due.trans hsame.later
  · rw [hsame.owes, h.both]

theorem awaiting_run {v : MsrpMessage} {events : List (LiteEntryEvent cfg)} (h : st.Awaiting v)
    (hquiet : RunMeets Quiet LiteRun.step st events) (hkept : RunMeets Kept LiteRun.step st events)
    (hwait : ∀ e ∈ events, e.isFlush = false) :
    (run LiteRun.step st events).Awaiting v
      ∧ (run LiteRun.step st events).sent = st.sent := by
  induction events generalizing st with
  | nil => exact ⟨h, rfl⟩
  | cons e events ih =>
      obtain ⟨hnext, hsent⟩ := h.step hquiet.1 hkept.1 (hwait e List.mem_cons_self)
      obtain ⟨hrun, hsent'⟩ :=
        ih hnext hquiet.2 hkept.2 fun e' hmem => hwait e' (List.mem_cons_of_mem _ hmem)
      exact ⟨hrun, hsent'.trans hsent⟩

theorem Owing.flush_sends {v : MsrpMessage} (h : st.Owing v) (hdue : st.entry.nextTxUs ≤ st.nowUs) :
    ∃ send : LiteSend, send.Declares v ∧ send.atUs = st.nowUs
      ∧ st.flush.sent = st.sent ++ [send]
      ∧ st.flush.owes = owesAfter st.owes st.nowUs ∧ st.flush.nowUs = st.nowUs
      ∧ st.flush.entry.value = v ∧ st.flush.entry.originated = true
      ∧ st.flush.entry.applicant = mrpApplicantNext st.entry.applicant .tx
      ∧ st.flush.entry.nextTxUs = st.nowUs + mrpLiteJoinTimeUs := by
  obtain ⟨sm, msg, hflush, hnext, hplain, hlv⟩ :=
    LiteRun.flush_sends (anxious_willSend h.anxious) hdue
  have hnot : msg.isLv = false := by
    rw [Bool.eq_false_iff]
    intro hyes
    have hla := hlv.1 hyes
    obtain ha | ha | ha | ha := h.anxious <;> rw [ha] at hla <;> cases hla
  rw [hflush]
  refine ⟨⟨st.nowUs, msg⟩, ⟨hplain.trans h.value, hnot⟩, rfl, rfl, rfl, rfl, ?_, ?_, ?_, ?_⟩
  · simpa using h.value
  · simpa using h.originated
  · simpa [LiteEntry.applicant] using hnext
  · simp

/-- The first flush sends the declaration, and the pause begins. -/
theorem Awaiting.flush {v : MsrpMessage} (h : st.Awaiting v) :
    st.flush.Pausing v st.nowUs
      ∧ st.flush.entry.nextTxUs = st.nowUs + mrpLiteJoinTimeUs ∧ st.flush.nowUs = st.nowUs
      ∧ ∃ first : LiteSend, first.Declares v ∧ first.atUs = st.nowUs
        ∧ st.flush.sent = st.sent ++ [first] := by
  obtain ⟨first, hdeclares, hat, hsent, howes, hnow, hvalue, horiginated, happlicant, hnext⟩ :=
    h.toOwing.flush_sends h.due
  rw [h.both] at howes
  have hstate : st.flush.entry.applicant = AN ∨ st.flush.entry.applicant = AA := by
    rw [happlicant]
    obtain ha | ha := h.fresh <;> rw [ha] <;> simp [mrpApplicantNext]
  refine ⟨⟨⟨hvalue, horiginated, Or.inr (Or.inr hstate), ?_⟩, howes, hnow.ge, ?_, Or.inr ?_⟩, hnext,
    hnow, first, hdeclares, hat, hsent⟩
  · rw [howes]
    simp [owesAfter]
  · intro _
    rw [hnext]
  · rw [hnext]
    omega

theorem Pausing.disturb {v : MsrpMessage} {firstUs : Nat} (h : st.Pausing v firstUs)
    (hquiet : st.Quiet e) (hkept : st.Kept e) (hwait : e.isFlush = false) :
    (st.step e).Pausing v firstUs ∧ (st.step e).sent = st.sent ∧ st.nowUs ≤ (st.step e).nowUs
      ∧ (e.isRedeclareAll = false → (st.step e).entry.nextTxUs = st.entry.nextTxUs) := by
  have hsame := h.toOwing.undisturbed hquiet hkept hwait
  have hlater := hsame.later
  refine ⟨{ toOwing := hsame.owing h.toOwing, again := ?_, later := ?_, paused := ?_, soon := ?_ },
    hsame.sent, hlater, ?_⟩
  · rw [hsame.owes, h.again]
  · exact h.later.trans hlater
  · intro hpaused
    rcases hsame.next with hnext | ⟨-, -, hfresh⟩
    · rw [hnext]
      refine h.paused ?_
      rcases hsame.applicant with heq | hvn | hvp
      · rwa [heq] at hpaused
      · rw [hvn] at hpaused
        simp at hpaused
      · rw [hvp] at hpaused
        simp at hpaused
    · rcases hfresh with hvn | hvp
      · rw [hvn] at hpaused
        simp at hpaused
      · rw [hvp] at hpaused
        simp at hpaused
  · rcases hsame.next with hnext | ⟨-, hnext, -⟩
    · rw [hnext]
      exact h.soon.imp_left fun hdue => hdue.trans hlater
    · exact Or.inl hnext.le
  · intro hnot
    rcases hsame.next with hnext | ⟨hyes, -⟩
    · exact hnext
    · rw [hnot] at hyes
      cases hyes

/-- A flush that sends before JoinTime is over leaves the second send to come. -/
theorem Pausing.flush {v : MsrpMessage} {firstUs : Nat} (h : st.Pausing v firstUs) :
    st.flush.nowUs = st.nowUs ∧
    ((st.nowUs < st.entry.nextTxUs ∧ st.flush.Pausing v firstUs ∧ st.flush.sent = st.sent
        ∧ st.flush.entry.nextTxUs = st.entry.nextTxUs)
      ∨ (st.entry.nextTxUs ≤ st.nowUs ∧ st.nowUs < firstUs + mrpLiteJoinTimeUs
        ∧ st.flush.Pausing v firstUs)
      ∨ (st.entry.nextTxUs ≤ st.nowUs ∧ firstUs + mrpLiteJoinTimeUs ≤ st.nowUs
        ∧ ∃ again : LiteSend, again.Declares v ∧ again.atUs = st.nowUs
          ∧ st.flush.sent = st.sent ++ [again])) := by
  rcases lt_or_ge st.nowUs st.entry.nextTxUs with hwait | hdue
  · have hflush := flush_waits (Or.inr hwait)
    refine ⟨by rw [hflush], Or.inl ⟨hwait, ?_, by rw [hflush], by rw [hflush]; simp⟩⟩
    rw [hflush]
    exact ⟨⟨by simpa using h.value, by simpa using h.originated,
      by simpa [LiteEntry.applicant] using h.anxious, h.owes⟩, h.again, h.later,
      by simpa [LiteEntry.applicant] using h.paused, by simpa using h.soon⟩
  · obtain ⟨again, hdeclares, hat, hsent, howes, hnow, hvalue, horiginated, happlicant, hnext⟩ :=
      h.toOwing.flush_sends hdue
    rw [h.again, owesAfter] at howes
    refine ⟨hnow, Or.inr ?_⟩
    rcases lt_or_ge st.nowUs (firstUs + mrpLiteJoinTimeUs) with hearly | hlate
    · rw [if_neg (not_le.2 hearly)] at howes
      have hfresh : st.entry.applicant = VN ∨ st.entry.applicant = VP := by
        rcases h.anxious with ha | ha | ha | ha
        · exact Or.inl ha
        · exact Or.inr ha
        · have := h.paused (Or.inl ha)
          omega
        · have := h.paused (Or.inr ha)
          omega
      have hstate : st.flush.entry.applicant = AN ∨ st.flush.entry.applicant = AA := by
        rw [happlicant]
        obtain ha | ha := hfresh <;> rw [ha] <;> simp [mrpApplicantNext]
      have hlater := h.later
      refine Or.inl ⟨hdue, hearly, ⟨⟨hvalue, horiginated, Or.inr (Or.inr hstate), ?_⟩, howes, ?_, ?_,
        Or.inr ?_⟩⟩
      · rw [howes]
        simp
      · rw [hnow]
        exact hlater
      · intro _
        rw [hnext]
        omega
      · rw [hnext]
        omega
    · exact Or.inr ⟨hdue, hlate, again, hdeclares, hat, hsent⟩

theorem sent_grows (st : LiteRun cfg) (e : LiteEntryEvent cfg) :
    st.sent <+: (st.step e).sent := by
  cases e with
  | elapse us | declare s p call | withdraw s | redeclareAll => exact List.prefix_rfl
  | peer msg srcAddr =>
      simp only [LiteRun.step]
      split <;> exact List.prefix_rfl
  | flush =>
      simp only [LiteRun.step, LiteRun.flush]
      split
      · exact List.prefix_rfl
      · exact List.prefix_append _ _

theorem nowUs_mono (st : LiteRun cfg) (e : LiteEntryEvent cfg) :
    st.nowUs ≤ (st.step e).nowUs := by
  cases e with
  | elapse us => exact Nat.le_add_right _ _
  | declare s p call | withdraw s | redeclareAll => exact le_rfl
  | peer msg srcAddr =>
      simp only [LiteRun.step]
      split <;> exact le_rfl
  | flush =>
      simp only [LiteRun.step, LiteRun.flush]
      split <;> exact le_rfl

theorem SentAgain.step {v : MsrpMessage} {firstUs : Nat} (h : st.SentAgain v firstUs)
    (e : LiteEntryEvent cfg) : (st.step e).SentAgain v firstUs := by
  obtain ⟨again, hmem, hdeclares, hat⟩ := h
  exact ⟨again, (sent_grows st e).subset hmem, hdeclares, hat⟩

theorem sentAgain_flush {v : MsrpMessage} {firstUs : Nat} {again : LiteSend}
    (hdeclares : again.Declares v) (hat : again.atUs = st.nowUs)
    (hsent : st.flush.sent = st.sent ++ [again])
    (hlate : firstUs + mrpLiteJoinTimeUs ≤ st.nowUs) : st.flush.SentAgain v firstUs := by
  refine ⟨again, ?_, hdeclares, hat ▸ hlate⟩
  rw [hsent]
  exact List.mem_append_right _ List.mem_cons_self

/-- However often everything is redeclared, the second send comes. -/
theorem pausing_step {v : MsrpMessage} {firstUs : Nat}
    (h : st.Pausing v firstUs ∨ st.SentAgain v firstUs) (hquiet : st.Quiet e) (hkept : st.Kept e) :
    (st.step e).Pausing v firstUs ∨ (st.step e).SentAgain v firstUs := by
  rcases h with hpausing | hagain
  · cases hflush : e.isFlush with
    | false => exact Or.inl (hpausing.disturb hquiet hkept hflush).1
    | true =>
        have hstep : st.step e = st.flush := by
          cases e <;> first | rfl | cases hflush
        rw [hstep]
        obtain ⟨-, ⟨-, hstill, -⟩ | ⟨-, -, hstill⟩ | ⟨-, hlate, again, hdeclares, hat, hsent⟩⟩ :=
          hpausing.flush
        · exact Or.inl hstill
        · exact Or.inl hstill
        · exact Or.inr (sentAgain_flush hdeclares hat hsent hlate)
  · exact Or.inr (hagain.step e)

/-- Without a redeclaration the second send is at the first flush that is JoinTime later, and there
is none before. -/
def OnTime (st : LiteRun cfg) (v : MsrpMessage) (firstUs : Nat) (before : List LiteSend) : Prop :=
  (st.Pausing v firstUs ∧ st.entry.nextTxUs = firstUs + mrpLiteJoinTimeUs ∧ st.sent = before)
    ∨ (before.length < st.sent.length ∧ firstUs + mrpLiteJoinTimeUs ≤ st.nowUs)

theorem onTime_step {v : MsrpMessage} {firstUs : Nat} {before : List LiteSend}
    (h : st.OnTime v firstUs before) (hquiet : st.Quiet e) (hkept : st.Kept e)
    (hnot : e.isRedeclareAll = false) : (st.step e).OnTime v firstUs before := by
  rcases h with ⟨hpausing, hnext, hsent⟩ | ⟨hmore, hlate⟩
  · cases hflush : e.isFlush with
    | false =>
        obtain ⟨hpausing', hsent', -, hnext'⟩ := hpausing.disturb hquiet hkept hflush
        exact Or.inl ⟨hpausing', (hnext' hnot).trans hnext, hsent'.trans hsent⟩
    | true =>
        have hstep : st.step e = st.flush := by
          cases e <;> first | rfl | cases hflush
        rw [hstep]
        obtain ⟨hnow, ⟨-, hstill, hsent', hnext'⟩ | ⟨hdue, hearly, -⟩
          | ⟨-, hlate, again, -, -, hsent'⟩⟩ := hpausing.flush
        · exact Or.inl ⟨hstill, hnext'.trans hnext, hsent'.trans hsent⟩
        · omega
        · refine Or.inr ⟨?_, hnow.symm ▸ hlate⟩
          rw [hsent', hsent, List.length_append, List.length_singleton]
          omega
  · exact Or.inr ⟨hmore.trans_le (sent_grows st e).length_le, hlate.trans (nowUs_mono st e)⟩

/-! ### The schedule -/

/-- After a withdrawal of what is out the flushes send one Lv and nothing else. -/
def LeavesOnce (st : LiteRun cfg) (events : List (LiteEntryEvent cfg)) : Prop :=
  ∀ pre s post, events = pre ++ .withdraw s :: post →
    (run LiteRun.step st pre).out = true → (∀ e ∈ post, e.isDeclare = false) →
    ∃ leaves, (run LiteRun.step st events).sent = (run LiteRun.step st pre).sent ++ leaves
      ∧ leaves.length = (if post.any (·.isFlush) then 1 else 0)
      ∧ ∀ leave ∈ leaves, leave.msg.isLv = true

/-- The send of `v` again, behind a first one at `firstUs`, where `more` and a flush follow. Twice
JoinTime is for a redeclaration in between, which sends early and puts the next send off. -/
def GoesOutAgain (st : LiteRun cfg) (more : List (LiteEntryEvent cfg)) (v : MsrpMessage)
    (firstUs : Nat) : Prop :=
  let last := run LiteRun.step st more
  (firstUs + 2 * mrpLiteJoinTimeUs ≤ last.nowUs → last.flush.SentAgain v firstUs)
    ∧ ((∀ e ∈ more, e.isRedeclareAll = false) →
      (last.nowUs < firstUs + mrpLiteJoinTimeUs → last.flush.sent = st.sent)
      ∧ (firstUs + mrpLiteJoinTimeUs ≤ last.nowUs → last.sent = st.sent →
        ∃ again : LiteSend, again.Declares v ∧ again.atUs = last.nowUs
          ∧ last.flush.sent = st.sent ++ [again]))

/-- A new or changed declaration goes out at the first flush, and once more. -/
def GoesOutTwice (st : LiteRun cfg) (events : List (LiteEntryEvent cfg)) : Prop :=
  ∀ pre s p call post, events = pre ++ .declare s p call :: post →
    let before := run LiteRun.step st pre
    before.newOrChanged s call = true →
    RunMeets Quiet LiteRun.step (before.step (.declare s p call)) post →
    ∀ mid rest, post = mid ++ .flush :: rest → (∀ e ∈ mid, e.isFlush = false) →
    let at1 := run LiteRun.step (before.step (.declare s p call)) mid
    ∃ v first, before.entry.asked (before.at s) call = some v
      ∧ LiteSend.Declares first v ∧ first.atUs = at1.nowUs
      ∧ at1.flush.sent = before.sent ++ [first]
      ∧ ∀ more rest', rest = more ++ .flush :: rest' → at1.flush.GoesOutAgain more v at1.nowUs

theorem outKept_run {events : List (LiteEntryEvent cfg)} (hinv : st.OutKept)
    (hkept : RunMeets Kept LiteRun.step st events) : (run LiteRun.step st events).OutKept :=
  hkept.invariant OutKept (fun _ _ hstep h => h.step hstep) hinv

theorem leavesOnce {events : List (LiteEntryEvent cfg)} (hinv : st.OutKept)
    (hkept : RunMeets Kept LiteRun.step st events) : st.LeavesOnce events := by
  intro pre s post hevents hout hnot
  subst hevents
  have hbefore : (run LiteRun.step st pre).OutKept := outKept_run hinv hkept.of_append_left
  have hstep := (RunMeets.of_append hkept).1
  have hleaving : ((run LiteRun.step st pre).step (.withdraw s)).Leaving :=
    hbefore.withdraw hout hstep
  obtain ⟨leaves, hsent, hlength, hlv⟩ := leaving_run hleaving hnot
  exact ⟨leaves, by rw [run_append, run_cons, hsent]; rfl, hlength, hlv⟩

theorem goesOutAgain {v : MsrpMessage} {firstUs : Nat} {more : List (LiteEntryEvent cfg)}
    (h : st.Pausing v firstUs) (hnext : st.entry.nextTxUs = firstUs + mrpLiteJoinTimeUs)
    (hquiet : RunMeets Quiet LiteRun.step st more) (hkept : RunMeets Kept LiteRun.step st more) :
    st.GoesOutAgain more v firstUs := by
  have hboth : RunMeets (fun st e => Quiet st e ∧ Kept st e) LiteRun.step st more :=
    hquiet.and hkept
  refine ⟨fun hlate => ?_, fun hnone => ?_⟩
  · have hlast := hboth.invariant (fun st => st.Pausing v firstUs ∨ st.SentAgain v firstUs)
      (fun _ _ hstep hst => pausing_step hst hstep.1 hstep.2) (Or.inl h)
    rcases hlast with hpausing | hagain
    · obtain ⟨-, ⟨hwait, -⟩ | ⟨-, hearly, -⟩ | ⟨-, hlate', again, hdeclares, hat, hsent⟩⟩ :=
        hpausing.flush
      · have := hpausing.soon
        omega
      · omega
      · exact sentAgain_flush hdeclares hat hsent hlate'
    · exact hagain.step .flush
  · have hlast : (run LiteRun.step st more).OnTime v firstUs st.sent := by
      have hstart : st.OnTime v firstUs st.sent := Or.inl ⟨h, hnext, rfl⟩
      generalize st.sent = before at hstart
      clear h hnext hquiet hkept
      induction more generalizing st with
      | nil => exact hstart
      | cons e more ih =>
          exact ih hboth.2 (fun e' hmem => hnone e' (List.mem_cons_of_mem _ hmem))
            (onTime_step hstart hboth.1.1 hboth.1.2 (hnone e List.mem_cons_self))
    refine ⟨fun hearly => ?_, fun hlate hsame => ?_⟩
    · rcases hlast with ⟨hpausing, hnext', hsent⟩ | ⟨-, hlate⟩
      · rw [flush_waits (Or.inr (hearly.trans_eq hnext'.symm))]
        exact hsent
      · omega
    · rcases hlast with ⟨hpausing, hnext', hsent⟩ | ⟨hmore, -⟩
      · obtain ⟨-, ⟨hwait, -⟩ | ⟨-, hearly, -⟩ | ⟨-, -, again, hdeclares, hat, hsent'⟩⟩ :=
          hpausing.flush
        · omega
        · omega
        · exact ⟨again, hdeclares, hat, hsent'.trans (by rw [hsent])⟩
      · rw [hsame] at hmore
        exact absurd hmore (lt_irrefl _)

theorem declare_awaits {s : AvbState cfg} {p : cfg.Port} {call : LiteDeclare}
    (hnew : st.newOrChanged s call = true) (hkept : st.Kept (.declare s p call)) :
    ∃ v, st.entry.asked (st.at s) call = some v ∧ (st.step (.declare s p call)).Awaiting v := by
  have htakes := hkept hnew
  have hnew' := hnew
  unfold newOrChanged at hnew'
  cases hasked : st.entry.asked (st.at s) call with
  | none =>
      rw [hasked] at hnew'
      cases hnew'
  | some v =>
      rw [hasked] at hnew'
      have hchange : st.entry.declaring = false ∨ st.entry.value ≠ v := by simpa using hnew'
      obtain ⟨hfresh, hdue, hvalue, horiginated⟩ :=
        LiteEntry.declare_new (s := st.at s) rfl hasked hchange htakes
      have howes : (st.step (.declare s p call)).owes = .both := by
        simp only [LiteRun.step, hnew, if_true]
      refine ⟨v, rfl, ⟨⟨hvalue, horiginated, ?_, ?_⟩, hfresh, hdue, howes⟩⟩
      · rcases hfresh with hvn | hvp
        · exact Or.inl hvn
        · exact Or.inr (Or.inl hvp)
      · rw [howes]
        simp

theorem goesOutTwice {events : List (LiteEntryEvent cfg)}
    (hkept : RunMeets Kept LiteRun.step st events) : st.GoesOutTwice events := by
  intro pre s p call post hevents before hnew hquiet mid rest hpost hmid at1
  subst hevents hpost
  have hkept' := RunMeets.of_append hkept
  obtain ⟨v, hasked, hawaits⟩ := declare_awaits hnew hkept'.1
  obtain ⟨hat1, hsent⟩ := awaiting_run hawaits hquiet.of_append_left hkept'.2.of_append_left
    hmid
  obtain ⟨hpausing, hnext, hnow, first, hdeclares, hfirst, hflush⟩ := hat1.flush
  refine ⟨v, first, hasked, hdeclares, hfirst, hflush.trans (by rw [hsent]; rfl), ?_⟩
  rintro more rest' rfl
  have hquiet' := (RunMeets.of_append hquiet).2
  have hkept'' := (RunMeets.of_append hkept'.2).2
  exact goesOutAgain hpausing hnext hquiet'.of_append_left hkept''.of_append_left

/-- In every run whose steps leave the Applicants their turn, from any entry that AVB Lite starts
with. -/
theorem lite_schedule_kept (nowUs : Nat) (entry : LiteEntry cfg)
    (events : List (LiteEntryEvent cfg))
    (hkept : RunMeets Kept LiteRun.step (.start nowUs entry) events) :
    (start nowUs entry).LeavesOnce events ∧ (start nowUs entry).GoesOutTwice events :=
  ⟨leavesOnce (fun hout => by cases hout) hkept, goesOutTwice hkept⟩

/-! ### A listener that connects and leaves -/

def listenerStart : LiteRun wiredEndpoint := start 0 (.listener (.fresh (.zero 8)))

def declareListener (decl : MsrpListenerEvent) : LiteEntryEvent wiredEndpoint :=
  .declare (.init wiredEndpoint true) ⟨0, by decide⟩ (.listener decl)

/-- Both sends of a first declaration, JoinTime apart. -/
def listenerConnects : List (LiteEntryEvent wiredEndpoint) :=
  [declareListener .ready, .flush, .elapse mrpLiteJoinTimeUs, .flush]

theorem lite_schedule_listener :
    listenerStart.LeavesOnce
        (listenerConnects ++ [.withdraw (.init wiredEndpoint true), .flush])
      ∧ listenerStart.GoesOutTwice
        (listenerConnects ++ [.withdraw (.init wiredEndpoint true), .flush]) :=
  lite_schedule_kept 0 (.listener (.fresh (.zero 8))) _
    ⟨fun _ _ => le_rfl, trivial, trivial, trivial, fun _ => by decide, trivial, trivial⟩

/-- A type that changes takes QA to VP; the withdrawal that comes before its first send takes that to
VO, and the declaration that was sent twice stays with the peer. -/
theorem changed_then_withdrawn_unsent :
    ¬ listenerStart.LeavesOnce
      (listenerConnects ++ [declareListener .askingFailed, .withdraw (.init wiredEndpoint true),
        .flush]) := by
  intro h
  obtain ⟨leaves, hsent, hlength, -⟩ :=
    h (listenerConnects ++ [declareListener .askingFailed]) (.init wiredEndpoint true) [.flush] rfl
      (by decide) (by simp [LiteEntryEvent.isDeclare])
  have hcount := congrArg List.length hsent
  rw [List.length_append, hlength] at hcount
  revert hcount
  decide

end LiteRun

end EspAvb
