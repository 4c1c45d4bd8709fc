import EspAvb.Proof.Flush

/-!
# When a full table refuses a new attribute

A slot is given up only in VO, so an entry nobody registers or declares must find its way there. Six
paths end a registration and step the Registrar alone: whatever the Applicant observed before, it
observes still. What follows is which ends lead back to VO, and that a table none of whose entries
ended otherwise refuses only for live ones.
-/

namespace EspAvb

open Relation

variable {cfg : Config}

/-! ### Live and dead entries -/

/-- Registered by a peer, declared here, or with an Lv to send. -/
def MrpSm.live (sm : MrpSm) : Bool :=
  sm.registrar ≠ .MT ∨ mrpApplicantDeclaring sm.applicant ∨ sm.applicant = .LA

/-- Live, held back after a value change, or within a hold-off that has not ended. -/
def MsrpTalkerEntry.live (s : AvbState cfg) (p : cfg.Port) (e : MsrpTalkerEntry cfg) : Bool :=
  e.sm.live ∨ e.redeclareAfterUs ≠ 0 ∧ (e.declareHeld ∨ mrpValueChangeHoldoffOver s p e s.nowUs = false)

/-- The hold-off ended, and no declaration waits for it: nothing clears the stamp any more. -/
def MsrpTalkerEntry.staleHoldoff (s : AvbState cfg) (p : cfg.Port) (e : MsrpTalkerEntry cfg) : Bool :=
  e.redeclareAfterUs ≠ 0 ∧ e.declareHeld = false ∧ mrpValueChangeHoldoffOver s p e s.nowUs = true

/-- LO outside AVB Lite: the leave of an observer, which the next `tx!` takes to VO. -/
def MrpSm.leavesAtFlush (lite : Bool) (sm : MrpSm) : Bool := lite = false ∧ sm.applicant = .LO

/-- An observer state that no `tx!` leaves. In AVB Lite no `tx!` comes to an entry in LO. -/
def MrpApplicantState.stuck (lite : Bool) (a : MrpApplicantState) : Bool :=
  a = .AO ∨ a = .QO ∨ lite ∧ a = .LO

/-- Whether what was written down leaves its entry a way back to VO. -/
def MsrpLog.waysOut (lite : Bool) : MsrpLog cfg → Bool
  | .unregistered _ sm => sm.applicant.stuck lite = false
  | .withdrawn _ sm =>
      sm.registrar = .MT →
        sm.applicant ≠ .AP ∧ sm.applicant ≠ .QP ∧ (lite = true → sm.applicant ≠ .VO)
  | .peerLeft _ sm => lite = true → sm.registrar = .MT → sm.applicant ≠ .VO
  | _ => true

/-- What those ends keep: an entry without a registration is on a way back to VO. -/
def MrpSm.waysOut (lite : Bool) (sm : MrpSm) : Prop :=
  sm.registrar = .MT → sm.applicant.stuck lite = false

theorem waysOut_fresh (lite : Bool) : MrpSm.fresh.waysOut lite := by
  intro _
  cases lite <;> rfl

/-- An Applicant step that leads from no state with a way out to one without. -/
theorem waysOut_applicantStep {lite : Bool} {sm : MrpSm} {ev : MrpEvent}
    (hstep : sm.applicant.stuck lite = false →
      (mrpApplicantNext sm.applicant ev).stuck lite = false) (h : sm.waysOut lite) :
    (mrpApplicantStep sm ev).waysOut lite :=
  fun hregistrar => hstep (h hregistrar)

theorem SmWrite.waysOut {lite : Bool} {nowUs : Nat} {sm sm' : MrpSm}
    (hwrite : SmWrite lite nowUs sm sm') (h : sm.waysOut lite) : sm'.waysOut lite := by
  cases hwrite with
  | declare hev =>
      apply waysOut_applicantStep _ h
      obtain rfl | rfl := hev
      · intro _
        cases lite <;> rfl
      · cases sm.applicant <;> cases lite <;> decide
  | periodic =>
      apply waysOut_applicantStep _ h
      cases sm.applicant <;> cases lite <;> decide
  | flush hev =>
      intro hregistrar
      have hbefore := h hregistrar
      revert hbefore
      rw [mrpFlushSm_applicant]
      obtain rfl | rfl := hev <;> cases sm.applicant <;> cases lite <;> decide
  | unsent => exact h
  | again ha =>
      intro _
      obtain rfl | rfl := ha <;> cases lite <;> rfl
  | peer hev =>
      simp only [List.mem_cons, List.not_mem_nil, or_false] at hev
      obtain rfl | rfl | rfl | rfl | rfl := hev
      · intro hregistrar
        cases hregistrar
      · intro hregistrar
        cases hregistrar
      · intro hregistrar
        cases hregistrar
      · intro hregistrar
        cases hregistrar
      · apply waysOut_applicantStep _ h
        cases sm.applicant <;> cases lite <;> decide
  | leaveAll hlite =>
      intro _
      rw [mrpSmStep_applicant, hlite]
      cases sm.applicant <;> rfl
  | selfLeave =>
      unfold mrpSelfLeaveSm
      split
      · rename_i hin
        intro hregistrar
        simp [mrpRegistrarStep, hin] at hregistrar
      · exact h
  | redeclare hdeclaring =>
      intro _
      revert hdeclaring
      rw [mrpApplicantStep_applicant]
      cases sm.applicant <;> cases lite <;> decide

/-- A withdrawal from a state with a way out, other than the passive ones and, in AVB Lite, VO. -/
theorem stuck_withdraw {lite : Bool} {sm : MrpSm} (hstuck : sm.applicant.stuck lite = false)
    (hap : sm.applicant ≠ .AP) (hqp : sm.applicant ≠ .QP)
    (hvo : lite = true → sm.applicant ≠ .VO) :
    (mrpWithdrawStep lite sm).applicant.stuck lite = false := by
  obtain ⟨applicant, registrar, leaveTimerUs, pendingTx⟩ := sm
  revert hstuck hap hqp hvo
  cases applicant <;> cases lite <;> simp [mrpWithdrawStep, mrpApplicantNext,
    MrpApplicantState.stuck]

/-- A change whose ends are all written down, and leave a way out, keeps the ways out. -/
theorem SmChange.waysOut {lite : Bool} {s s' : AvbState cfg} {p : cfg.Port} {sm sm' : MrpSm}
    (havb : s.avbLite = lite) (hmrp : s.mrpLite = lite)
    (hlog : ∀ entry ∈ s'.log, entry.waysOut lite) (hchange : SmChange s s' p sm sm')
    (h : sm.waysOut lite) : sm'.waysOut lite := by
  cases hchange with
  | writes hwrites =>
      rw [havb] at hwrites
      induction hwrites with
      | refl => exact h
      | tail _ hwrite ih => exact hwrite.waysOut ih
  | withdrawn hmem =>
      have hend := hlog _ hmem
      simp only [MsrpLog.waysOut, decide_eq_true_eq] at hend
      rw [hmrp]
      intro hregistrar
      rw [mrpWithdrawStep_registrar] at hregistrar
      obtain ⟨hap, hqp, hvo⟩ := hend hregistrar
      exact stuck_withdraw (h hregistrar) hap hqp hvo
  | left hmem =>
      have hend := hlog _ hmem
      simp only [MsrpLog.waysOut, decide_eq_true_eq] at hend
      intro hregistrar
      have hbefore : sm.registrar = .MT := mrpSmStep_rLv_mt hregistrar
      have hstuck := h hbefore
      have hvo := fun hlite => hend hlite hbefore
      rw [mrpSmStep_applicant]
      revert hstuck hvo
      cases sm.applicant <;> cases lite <;> decide
  | reset => exact waysOut_fresh lite
  | unregistered hmem hregistrar happlicant hpending =>
      have hend := hlog _ hmem
      intro _
      rw [happlicant]
      simpa [MsrpLog.waysOut] using hend

/-! ### Over a run -/

/-- Every end written down so far left a way out. -/
def EndsWithWaysOut (lite : Bool) (s : AvbState cfg) : Prop :=
  ∀ entry ∈ s.log, entry.waysOut lite = true

structure WaysOut (lite : Bool) (s : AvbState cfg) : Prop where
  avbLite : s.avbLite = lite
  mrpLite : s.mrpLite = lite
  talkers : ∀ p i e, s.talkers p i = some e → e.sm.waysOut lite
  listeners : ∀ p i e, s.listeners p i = some e → e.sm.waysOut lite

theorem waysOut_init (lite : Bool) : WaysOut lite (.init cfg lite) where
  avbLite := rfl
  mrpLite := rfl
  talkers _ _ _ he := by cases he
  listeners _ _ _ he := by cases he

theorem WaysOut.change {lite : Bool} {s s' : AvbState cfg} (h : WaysOut lite s)
    (hchange : AvbChange s s') (hends : EndsWithWaysOut lite s') : WaysOut lite s' where
  avbLite := hchange.mode.1.trans h.avbLite
  mrpLite := hchange.mode.2.1.trans h.mrpLite
  talkers p := (hchange.talkers p).forall_sm (waysOut_fresh lite)
    (fun _ _ hsm => hsm.waysOut h.avbLite h.mrpLite hends) (h.talkers p)
  listeners p := (hchange.listeners p).forall_sm (waysOut_fresh lite)
    (fun _ _ hsm => hsm.waysOut h.avbLite h.mrpLite hends) (h.listeners p)

theorem waysOut_avbRun {lite : Bool} {events : List (AvbEvent cfg)}
    (hmode : ∀ ev ∈ events, ∀ lite', ev ≠ .setAvbLite lite')
    (hends : EndsWithWaysOut lite (avbRun lite events)) : WaysOut lite (avbRun lite events) := by
  refine avbRun_invariant (fun s s' h hlog hs => hs.change h hlog) ?_ (waysOut_init lite) hends
  intro s lite' hmem
  exact absurd rfl (hmode _ hmem lite')

/-! ### What a refusal means -/

/-- An entry on a way out that is not live: idle, or in LO with its leave ahead. -/
theorem live_or_idle {lite : Bool} {sm : MrpSm} (hway : sm.waysOut lite)
    (hsent : sm.pendingTx = .none) :
    sm.live = true ∨ sm.leavesAtFlush lite = true ∨ mrpSmIdle sm = true := by
  by_cases hregistrar : sm.registrar = .MT
  · have hstuck := hway hregistrar
    revert hstuck
    simp only [MrpSm.live, MrpSm.leavesAtFlush, mrpSmIdle, hregistrar, hsent]
    cases sm.applicant <;> cases lite <;> decide
  · left
    simp [MrpSm.live, hregistrar]

theorem applicantNext_flush {txEv : MrpEvent} (hev : txEv = .tx ∨ txEv = .txLA)
    (applicant : MrpApplicantState) : mrpApplicantNext applicant txEv ≠ .LO := by
  obtain rfl | rfl := hev <;> cases applicant <;> decide

/-- A turn in a flush leaves no LO behind. -/
theorem live_or_idle_of_flush {lite : Bool} {sm : MrpSm} {txEv : MrpEvent}
    (hev : txEv = .tx ∨ txEv = .txLA) (hway : sm.waysOut lite) :
    (mrpFlushSm sm txEv).1.live = true ∨ mrpSmIdle (mrpFlushSm sm txEv).1 = true := by
  have hwrite : SmWrite lite 0 sm (mrpFlushSm sm txEv).1 := .flush sm hev
  obtain hlive | hleaves | hidle := live_or_idle (hwrite.waysOut hway) rfl
  · exact Or.inl hlive
  · have hlo : mrpApplicantNext sm.applicant txEv = .LO := (of_decide_eq_true hleaves).2
    exact absurd hlo (applicantNext_flush hev sm.applicant)
  · exact Or.inr hidle

/-- Every slot holds an entry of the given kinds, whenever the port's tables refuse a new one. -/
def RefusesOnly (talker : MsrpTalkerEntry cfg → Prop) (listener : MsrpListenerEntry → Prop)
    (s : AvbState cfg) (p : cfg.Port) : Prop :=
  (∀ streamId attrType, msrpTalkerFindOrInsert s p streamId attrType = none →
      ∀ i, ∃ e, s.talkers p i = some e ∧ talker e)
    ∧ ∀ streamId, msrpListenerFindOrInsert s p streamId = none →
        ∀ i, ∃ e, s.listeners p i = some e ∧ listener e

theorem refusesOnly_of_reusable {talker : MsrpTalkerEntry cfg → Prop}
    {listener : MsrpListenerEntry → Prop} {s : AvbState cfg} {p : cfg.Port}
    (htalker : ∀ i e, s.talkers p i = some e → talker e ∨ msrpTalkerReusable e = true)
    (hlistener : ∀ i e, s.listeners p i = some e → listener e ∨ msrpListenerReusable e = true) :
    RefusesOnly talker listener s p := by
  constructor
  · intro streamId attrType hnone i
    rw [msrpTalkerFindOrInsert, Option.map_eq_none_iff, SlotTable.findOrInsert_eq_none] at hnone
    obtain ⟨e, he, hkept⟩ := hnone.2 i
    refine ⟨e, he, (htalker i e he).resolve_right ?_⟩
    rw [hkept]
    exact Bool.false_ne_true
  · intro streamId hnone i
    rw [msrpListenerFindOrInsert, Option.map_eq_none_iff, SlotTable.findOrInsert_eq_none] at hnone
    obtain ⟨e, he, hkept⟩ := hnone.2 i
    refine ⟨e, he, (hlistener i e he).resolve_right ?_⟩
    rw [hkept]
    exact Bool.false_ne_true

/-- An idle talker entry is live for its hold-off, or it is reusable. -/
theorem talker_live_or_reusable {s : AvbState cfg} {p : cfg.Port} {e : MsrpTalkerEntry cfg}
    (hidle : mrpSmIdle e.sm = true) (hstamp : e.staleHoldoff s p = false) :
    e.live s p = true ∨ msrpTalkerReusable e = true := by
  by_cases hstamped : e.redeclareAfterUs = 0
  · exact Or.inr (msrpTalkerReusable_iff.mpr ⟨hidle, hstamped⟩)
  · left
    simp only [MsrpTalkerEntry.staleHoldoff, decide_eq_false_iff_not, not_and,
      Bool.not_eq_true] at hstamp
    simp only [MsrpTalkerEntry.live, decide_eq_true_eq]
    right
    refine ⟨hstamped, ?_⟩
    cases hheld : e.declareHeld with
    | true => exact Or.inl rfl
    | false => exact Or.inr (hstamp hstamped hheld)

/-- Tables whose entries all have a way out: what is neither live nor reusable is in LO. -/
theorem WaysOut.refusesOnly {lite : Bool} {s : AvbState cfg} (hway : WaysOut lite s)
    (hok : TablesOk s) {p : cfg.Port}
    (hstamp : ∀ i e, s.talkers p i = some e → e.staleHoldoff s p = false) :
    RefusesOnly (fun e => e.live s p = true ∨ e.sm.leavesAtFlush lite = true)
      (fun e => e.sm.live = true ∨ e.sm.leavesAtFlush lite = true) s p := by
  apply refusesOnly_of_reusable
  · intro i e he
    obtain hlive | hleaves | hidle := live_or_idle (hway.talkers p i e he) (hok.talkerSent p i e he)
    · exact Or.inl (Or.inl (by simp [MsrpTalkerEntry.live, hlive]))
    · exact Or.inl (Or.inr hleaves)
    · obtain h | h := talker_live_or_reusable hidle (hstamp i e he)
      · exact Or.inl (Or.inl h)
      · exact Or.inr h
  · intro i e he
    obtain hlive | hleaves | hidle :=
      live_or_idle (hway.listeners p i e he) (hok.listenerSent p i e he)
    · exact Or.inl (Or.inl hlive)
    · exact Or.inl (Or.inr hleaves)
    · exact Or.inr hidle

/-- The tables after a flush: in AVB Lite as they were, else every entry after its turn. -/
theorem WaysOut.flushed {lite : Bool} {s : AvbState cfg} (hway : WaysOut lite s) (hok : TablesOk s)
    (p : cfg.Port) :
    (∀ i e', (mrpTxFlushPort s p).talkers p i = some e' → ∃ e, s.talkers p i = some e
        ∧ e' = { e with sm := e'.sm } ∧ (e'.sm.live = true ∨ mrpSmIdle e'.sm = true))
      ∧ ∀ i e', (mrpTxFlushPort s p).listeners p i = some e' →
          e'.sm.live = true ∨ mrpSmIdle e'.sm = true := by
  cases hlite : s.avbLite with
  | true =>
      -- nothing leaves LO here, and nothing with a way out is in it
      obtain ⟨htalkers, hlisteners⟩ := mrpTxFlushPort_lite s p hlite
      have hnever : ∀ sm : MrpSm, sm.leavesAtFlush lite = false := by
        intro sm
        rw [← hway.avbLite, hlite]
        simp [MrpSm.leavesAtFlush]
      rw [htalkers, hlisteners]
      constructor
      · intro i e he
        have hstate := live_or_idle (hway.talkers p i e he) (hok.talkerSent p i e he)
        rw [hnever] at hstate
        exact ⟨e, he, rfl, by simpa using hstate⟩
      · intro i e he
        have hstate := live_or_idle (hway.listeners p i e he) (hok.listenerSent p i e he)
        rw [hnever] at hstate
        simpa using hstate
  | false =>
      constructor
      · intro i e' he'
        rw [mrpTxFlushPort_talkers s p hlite, Option.map_eq_some_iff] at he'
        obtain ⟨e, he, rfl⟩ := he'
        exact ⟨e, he, rfl, live_or_idle_of_flush (flushEvent_tx s p) (hway.talkers p i e he)⟩
      · intro i e' he'
        rw [mrpTxFlushPort_listeners s p hlite, Option.map_eq_some_iff] at he'
        obtain ⟨e, he, rfl⟩ := he'
        exact live_or_idle_of_flush (flushEvent_tx s p) (hway.listeners p i e he)

theorem staleHoldoff_flush (s : AvbState cfg) (p : cfg.Port) (e : MsrpTalkerEntry cfg) (sm : MrpSm) :
    MsrpTalkerEntry.staleHoldoff (mrpTxFlushPort s p) p { e with sm } = e.staleHoldoff s p := by
  have hclock := mrpTxFlushPort_clock s p
  simp only [AvbState.clock, Prod.mk.injEq] at hclock
  obtain ⟨hnow, hcount, hus⟩ := hclock
  simp only [MsrpTalkerEntry.staleHoldoff, mrpValueChangeHoldoffOver, hnow, hcount, hus]
  exact decide_eq_decide.mpr Iff.rfl

/-- In a run in one mode whose ends all leave a way out, a port without stale hold-offs refuses a new
attribute only for live entries, and for those that wait for the flush; after the flush whatever is
not live can be reused, and a refusal is for live entries alone. -/
theorem refused_only_when_live {lite : Bool} {events : List (AvbEvent cfg)} {p : cfg.Port}
    (hmode : ∀ ev ∈ events, ∀ lite', ev ≠ .setAvbLite lite')
    (hends : EndsWithWaysOut lite (avbRun lite events))
    (hstamp : ∀ i e, (avbRun lite events).talkers p i = some e →
      e.staleHoldoff (avbRun lite events) p = false) :
    let s := avbRun lite events
    let s' := mrpTxFlushPort s p
    RefusesOnly (fun e => e.live s p = true ∨ e.sm.leavesAtFlush lite = true)
        (fun e => e.sm.live = true ∨ e.sm.leavesAtFlush lite = true) s p
      ∧ (∀ i e, s'.talkers p i = some e → e.live s' p = true ∨ msrpTalkerReusable e = true)
      ∧ (∀ i e, s'.listeners p i = some e → e.sm.live = true ∨ msrpListenerReusable e = true)
      ∧ RefusesOnly (fun e => e.live s' p = true) (fun e => e.sm.live = true) s' p := by
  intro s s'
  have hway : WaysOut lite s := waysOut_avbRun hmode hends
  have hok : TablesOk s := tablesOk_avbRun lite events
  obtain ⟨htalkers, hlisteners⟩ := hway.flushed hok p
  have htalker : ∀ i e, s'.talkers p i = some e →
      e.live s' p = true ∨ msrpTalkerReusable e = true := by
    intro i e he
    obtain ⟨before, hbefore, heq, hlive | hidle⟩ := htalkers i e he
    · left
      simp [MsrpTalkerEntry.live, hlive]
    · apply talker_live_or_reusable hidle
      rw [heq]
      exact (staleHoldoff_flush s p before e.sm).trans (hstamp i before hbefore)
  exact ⟨hway.refusesOnly hok hstamp, htalker, hlisteners,
    refusesOnly_of_reusable htalker hlisteners⟩

/-- A listener that joins and leaves again. -/
def visit (p : cfg.Port) (streamId : UniqueId) : List (AvbEvent cfg) :=
  [.receive p none (.listener { streamId, event := intTo3pe 3 0 0, declaration := .ready }),
    .receive p none (.listener { streamId, event := intTo3pe 5 0 0, declaration := .ready })]

def endpointPort : wiredEndpoint.Port := ⟨0, Nat.one_pos⟩

/-- Outside AVB Lite a listener that left is let go: here with one visit. -/
theorem refused_only_when_live_after_visit :
    let s := avbRun false (visit endpointPort (.ofNat 8 1) ++
      [.joinTimer endpointPort, .elapse 2000000, .leaveTimers endpointPort])
    RefusesOnly (fun e => e.live (mrpTxFlushPort s endpointPort) endpointPort = true)
      (fun e => e.sm.live = true) (mrpTxFlushPort s endpointPort) endpointPort := by
  refine (refused_only_when_live ?_ ?_ ?_).2.2.2
  · intro ev hev lite'
    simp only [visit, List.mem_append, List.mem_cons, List.not_mem_nil, or_false] at hev
    obtain (rfl | rfl) | rfl | rfl | rfl := hev <;> nofun
  · unfold EndsWithWaysOut
    decide +kernel
  · have hempty : ∀ i, ((avbRun false (visit endpointPort (.ofNat 8 1) ++
        [.joinTimer endpointPort, .elapse 2000000, .leaveTimers endpointPort])).talkers
          endpointPort i).isNone = true := by
      decide +kernel
    intro i e he
    have hi := hempty i
    rw [he] at hi
    cases hi

/-- In AVB Lite every listener that left keeps its slot: after 32 visits the flush does not free a
slot for the next one. -/
theorem lite_visits_fill_table :
    let s := avbRun true ((List.range 32).flatMap (fun k => visit endpointPort (.ofNat 8 (k + 1)))
      ++ [.elapse 2000000, .leaveTimers endpointPort])
    (msrpListenerFindOrInsert (mrpTxFlushPort s endpointPort) endpointPort (.ofNat 8 33)).isNone
      ∧ ∀ i, ((mrpTxFlushPort s endpointPort).listeners endpointPort i).any
          (fun e => e.sm.live = false) = true := by
  decide +kernel

end EspAvb
