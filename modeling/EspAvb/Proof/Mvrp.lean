import EspAvb.Mvrp
import EspAvb.System

/-!
# MVRP on the wire

The handler steps the VLAN of FirstValue whatever NumberOfValues says: a pure LeaveAll, which has no
event octet, applies the first octet of its EndMark as one.
-/

namespace EspAvb

variable {cfg : Config}

/-! ## Slots -/

theorem vlanFindOrInsert_eq_none (s : MvrpState cfg) (p : cfg.Port) (vlanId : VlanId) :
    s.mvrpVlanFindOrInsert p vlanId = none ↔
      ∀ i, ∃ e, s.vlans p i = some e ∧ e.vlanId ≠ vlanId := by
  rw [MvrpState.mvrpVlanFindOrInsert]
  constructor
  · intro h
    obtain ⟨i, e, -, hi, hsome⟩ | ⟨i, -, -, hsome⟩ | ⟨hfind, hplace, -⟩ :=
      SlotTable.findOrInsert_outcome (vlanIs vlanId) (fun _ => false)
        { vlanId, sm := .fresh } (s.vlans p)
    · rw [hsome] at h
      simp [hi] at h
    · rw [hsome] at h
      simp at h
    · intro i
      obtain ⟨e, hi, -⟩ := SlotTable.place_eq_none.mp hplace i
      have hother := SlotTable.find_eq_none.mp hfind i e hi
      exact ⟨e, hi, of_decide_eq_false hother⟩
  · intro h
    rw [SlotTable.findOrInsert_eq_none.mpr]
    · rfl
    · refine ⟨SlotTable.find_eq_none.mpr ?_, ?_⟩
      · intro i e hi
        obtain ⟨e', hi', hne⟩ := h i
        rw [hi] at hi'
        cases hi'
        exact decide_eq_false hne
      · intro i
        obtain ⟨e, hi, -⟩ := h i
        exact ⟨e, hi, rfl⟩

/-- What is found is of the VLAN sought. -/
theorem vlanFindOrInsert_vlanId {s : MvrpState cfg} {p : cfg.Port} {vlanId : VlanId}
    {i : Fin mvrpVlanTableSize} {e : MvrpVlanEntry}
    (h : s.mvrpVlanFindOrInsert p vlanId = some (i, e)) : e.vlanId = vlanId := by
  rw [MvrpState.mvrpVlanFindOrInsert] at h
  obtain ⟨j, e', hfind, hj, hsome⟩ | ⟨j, -, -, hsome⟩ | ⟨-, -, hnone⟩ :=
    SlotTable.findOrInsert_outcome (vlanIs vlanId) (fun _ => false)
      { vlanId, sm := .fresh } (s.vlans p)
  · rw [hsome] at h
    simp only [Option.bind_some, hj, Option.map_some, Option.some.injEq, Prod.mk.injEq] at h
    obtain ⟨-, rfl⟩ := h
    obtain ⟨e'', hj', hvlan⟩ := SlotTable.find_eq_some hfind
    rw [hj] at hj'
    cases hj'
    exact of_decide_eq_true hvlan
  · rw [hsome] at h
    simp only [Option.bind_some, SlotTable.set_same, Option.map_some, Option.some.injEq,
      Prod.mk.injEq] at h
    obtain ⟨-, rfl⟩ := h
    rfl
  · rw [hnone] at h
    cases h

theorem leaveall_vlans (s : MvrpState cfg) (p : cfg.Port) (i : Fin mvrpVlanTableSize) :
    (s.mvrpDispatchLeaveall p).vlans p i =
      (s.vlans p i).map fun e => { e with sm := mrpSmStep s.nowUs e.sm .rLA } := by
  simp only [MvrpState.mvrpDispatchLeaveall, Function.update_self]

theorem leaveall_other (s : MvrpState cfg) {p q : cfg.Port} (h : q ≠ p) :
    (s.mvrpDispatchLeaveall p).vlans q = s.vlans q := Function.update_of_ne h _ _

/-- A LeaveAll takes no slot and frees none. -/
theorem vlanFindOrInsert_leaveall (s : MvrpState cfg) (p : cfg.Port) (vlanId : VlanId) :
    (s.mvrpDispatchLeaveall p).mvrpVlanFindOrInsert p vlanId = none ↔
      s.mvrpVlanFindOrInsert p vlanId = none := by
  rw [vlanFindOrInsert_eq_none, vlanFindOrInsert_eq_none]
  refine forall_congr' fun i => ?_
  rw [leaveall_vlans]
  cases s.vlans p i with
  | none => simp
  | some e => simp

/-! ## Propagation -/

theorem declareVlan_other (s : MvrpState cfg) {p q : cfg.Port} (vlanId : VlanId) (h : q ≠ p) :
    (s.mrpDeclareVlan p vlanId).vlans q = s.vlans q := by
  rw [MvrpState.mrpDeclareVlan]
  split
  · rfl
  · exact Function.update_of_ne h _ _

theorem withdrawVlan_other (s : MvrpState cfg) {p q : cfg.Port} (vlanId : VlanId) (h : q ≠ p) :
    (s.mrpWithdrawVlan p vlanId).vlans q = s.vlans q := by
  rw [MvrpState.mrpWithdrawVlan]
  split
  · rfl
  · split
    · rfl
    · exact Function.update_of_ne h _ _

/-- What a registration on a port does, it does on the others. -/
theorem onVlanRegistrarChange_own (s : MvrpState cfg) (p : cfg.Port) (vlanId : VlanId)
    (tr : MrpRegTransition) : (s.mrpOnVlanRegistrarChange p vlanId tr).vlans p = s.vlans p := by
  rw [MvrpState.mrpOnVlanRegistrarChange]
  split
  · refine @List.foldlRecOn _ _ (fun after : MvrpState cfg => after.vlans p = s.vlans p) _ _ _ rfl ?_
    intro after hafter y _
    split
    · exact hafter
    · rename_i hother
      have hne : p ≠ y := fun heq => hother (Or.inl heq.symm)
      split
      · rw [declareVlan_other after vlanId hne, hafter]
      · rw [withdrawVlan_other after vlanId hne, hafter]
  · rfl

/-! ## What an MRPDU asks for -/

/-- The LeaveAll flag of an MRPDU of VLAN identifiers. -/
def MvrpVlanIdMessage.LeaveAll (msg : MvrpVlanIdMessage) : Prop :=
  msg.attrType = mvrpAttrTypeVlanIdentifier ∧ msg.vecHead / 0x2000 % 2 = 1

instance (msg : MvrpVlanIdMessage) : Decidable msg.LeaveAll := inferInstanceAs (Decidable (_ ∧ _))

/-- The LeaveAll goes to every valid entry exactly where the flag says so, an event goes to the VLAN
of FirstValue where there is one value, and an MRPDU of no value registers no VLAN, inserts no entry
and leaves the other ports alone. -/
structure MvrpHandled (s : MvrpState cfg) (p : cfg.Port) (msg : MvrpVlanIdMessage) : Prop where
  leaveAll : ((mrpRxMvrp s p msg).2.filter fun call => call.2 = .rLA) =
    if msg.LeaveAll then s.leaveallCalls p else []
  event : ∀ call ∈ (mrpRxMvrp s p msg).2, call.2 ≠ .rLA → msg.numVals = 1 ∧
    ∃ e, (mrpRxMvrp s p msg).1.vlans p call.1 = some e ∧ e.vlanId = msg.vlanId
  noValue : msg.numVals = 0 →
    (∀ q ≠ p, (mrpRxMvrp s p msg).1.vlans q = s.vlans q) ∧
      (∀ i, ((mrpRxMvrp s p msg).1.vlans p i).isSome = (s.vlans p i).isSome) ∧
      ∀ i e', (mrpRxMvrp s p msg).1.vlans p i = some e' → e'.sm.registrar = .IN →
        ∃ e, s.vlans p i = some e ∧ e.vlanId = e'.vlanId ∧ e.sm.registrar = .IN

/-- No reserved LeaveAllEvent meets a valid entry, and where NumberOfValues is not 1 the table has no
slot for the VLAN of FirstValue. -/
structure MvrpReadsRight (s : MvrpState cfg) (p : cfg.Port) (msg : MvrpVlanIdMessage) : Prop where
  flag : msg.leaveallField ≠ 0 → msg.leaveallField % 2 = 1 ∨ ∀ i, s.vlans p i = none
  value : msg.numVals = 1 ∨ s.mvrpVlanFindOrInsert p msg.vlanId = none

theorem mrp3peToEvent_ne_rLA (value : Nat) : mrp3peToEvent value ≠ .rLA := by
  rw [mrp3peToEvent.eq_def]
  split <;> simp

theorem leaveallField_flag (msg : MvrpVlanIdMessage) :
    msg.leaveallField % 2 = msg.vecHead / 0x2000 % 2 := by
  rw [MvrpVlanIdMessage.leaveallField]
  omega

theorem leaveallCalls_rLA (s : MvrpState cfg) (p : cfg.Port) :
    ∀ call ∈ s.leaveallCalls p, call.2 = .rLA := by
  intro call hcall
  rw [MvrpState.leaveallCalls, List.mem_map] at hcall
  obtain ⟨i, -, rfl⟩ := hcall
  rfl

theorem leaveallCalls_nil {s : MvrpState cfg} {p : cfg.Port} :
    s.leaveallCalls p = [] ↔ ∀ i, s.vlans p i = none := by
  rw [MvrpState.leaveallCalls, List.map_eq_nil_iff, List.filter_eq_nil_iff]
  simp

/-- The handler, where the MRPDU is one of VLAN identifiers: the LeaveAll, then the event on whatever
slot the VLAN has or gets. -/
theorem mrpRxMvrp_cases (s : MvrpState cfg) (p : cfg.Port) {msg : MvrpVlanIdMessage}
    (htype : msg.attrType = mvrpAttrTypeVlanIdentifier) :
    let after := if msg.leaveallField ≠ 0 then s.mvrpDispatchLeaveall p else s
    let calls := if msg.leaveallField ≠ 0 then s.leaveallCalls p else []
    s.mvrpVlanFindOrInsert p msg.vlanId = none ∧ mrpRxMvrp s p msg = (after, calls) ∨
      s.mvrpVlanFindOrInsert p msg.vlanId ≠ none ∧ ∃ i ev, ev ≠ MrpEvent.rLA ∧
        (mrpRxMvrp s p msg).2 = calls ++ [(i, ev)] ∧
        ∃ e, (mrpRxMvrp s p msg).1.vlans p i = some e ∧ e.vlanId = msg.vlanId := by
  intro after calls
  have hroom : after.mvrpVlanFindOrInsert p msg.vlanId = none ↔
      s.mvrpVlanFindOrInsert p msg.vlanId = none := by
    by_cases hfield : msg.leaveallField ≠ 0
    · simp only [after, if_pos hfield]
      exact vlanFindOrInsert_leaveall s p msg.vlanId
    · simp only [after, if_neg hfield]
  have hrx : mrpRxMvrp s p msg =
      (after.mvrpVlanFindOrInsert p msg.vlanId).elim (after, calls) fun found =>
        let ev := mrp3peToEvent (threePeToInt msg.attrEvent).1
        let stepped := { found.2 with sm := mrpSmStep after.nowUs found.2.sm ev }
        let tr := mrpRegTransition found.2.sm.registrar stepped.sm.registrar
        (if tr = .none then after.setVlan p found.1 stepped
          else (after.setVlan p found.1 stepped).mrpOnVlanRegistrarChange p msg.vlanId tr,
          calls ++ [(found.1, ev)]) := by
    unfold mrpRxMvrp
    rw [if_neg (not_not.mpr htype)]
    generalize hfind : after.mvrpVlanFindOrInsert p msg.vlanId = found
    dsimp only
    rw [hfind]
    cases found <;> rfl
  cases hfound : after.mvrpVlanFindOrInsert p msg.vlanId with
  | none =>
      rw [hfound] at hrx
      exact Or.inl ⟨hroom.mp hfound, hrx⟩
  | some found =>
      obtain ⟨i, e⟩ := found
      right
      rw [hfound, Option.elim_some] at hrx
      have hvlan := vlanFindOrInsert_vlanId hfound
      refine ⟨fun hnone => ?_, i, _, mrp3peToEvent_ne_rLA (threePeToInt msg.attrEvent).1, ?_,
        { e with sm := mrpSmStep after.nowUs e.sm (mrp3peToEvent (threePeToInt msg.attrEvent).1) },
        ?_, hvlan⟩
      · rw [hroom.mpr hnone] at hfound
        cases hfound
      · rw [hrx]
      · rw [hrx]
        simp only
        split
        · simp [MvrpState.setVlan]
        · rw [onVlanRegistrarChange_own]
          simp [MvrpState.setVlan]

/-- A LeaveAll ends registrations, and starts none. -/
theorem leaveall_registrar {s : MvrpState cfg} {p : cfg.Port} {i : Fin mvrpVlanTableSize}
    {e' : MvrpVlanEntry} (h : (s.mvrpDispatchLeaveall p).vlans p i = some e') :
    e'.sm.registrar ≠ .IN := by
  rw [leaveall_vlans] at h
  cases hi : s.vlans p i with
  | none =>
      rw [hi] at h
      cases h
  | some e =>
      rw [hi] at h
      cases h
      simp only [mrpSmStep]
      generalize mrpApplicantStep e.sm .rLA = sm
      simp only [mrpRegistrarStep]
      by_cases hin : sm.registrar = .IN ∨ sm.registrar = .LV
      · rw [if_pos hin]
        simp
      · rw [if_neg hin]
        exact fun heq => hin (Or.inl heq)

theorem mvrp_handled_iff (s : MvrpState cfg) (p : cfg.Port) (msg : MvrpVlanIdMessage) :
    MvrpHandled s p msg ↔
      msg.attrType ≠ mvrpAttrTypeVlanIdentifier ∨ MvrpReadsRight s p msg := by
  by_cases htype : msg.attrType = mvrpAttrTypeVlanIdentifier
  · have hflag : msg.LeaveAll ↔ msg.leaveallField % 2 = 1 := by
      rw [MvrpVlanIdMessage.LeaveAll, leaveallField_flag]
      exact and_iff_right htype
    have hfilter : (if msg.leaveallField ≠ 0 then s.leaveallCalls p else []).filter
        (fun call => decide (call.2 = .rLA)) =
        if msg.leaveallField ≠ 0 then s.leaveallCalls p else [] := by
      rw [List.filter_eq_self]
      intro call hcall
      split at hcall
      · exact decide_eq_true (leaveallCalls_rLA s p call hcall)
      · cases hcall
    have hcalls : (if msg.leaveallField ≠ 0 then s.leaveallCalls p else []) =
        (if msg.LeaveAll then s.leaveallCalls p else []) ↔
        (msg.leaveallField ≠ 0 → msg.leaveallField % 2 = 1 ∨ ∀ i, s.vlans p i = none) := by
      rw [← leaveallCalls_nil]
      by_cases hfield : msg.leaveallField ≠ 0
      · by_cases hodd : msg.leaveallField % 2 = 1
        · simp [hfield, hflag, hodd]
        · simp [hfield, hflag, hodd]
      · have heven : ¬msg.leaveallField % 2 = 1 := by omega
        simp [hfield, hflag, heven]
    have hcases := mrpRxMvrp_cases s p htype
    simp only at hcases
    constructor
    · intro h
      right
      obtain ⟨hnone, hrx⟩ | ⟨-, i, ev, hev, hsteps, -⟩ := hcases
      · have hleave := h.leaveAll
        rw [hrx, hfilter] at hleave
        exact ⟨hcalls.mp hleave, Or.inr hnone⟩
      · have hleave := h.leaveAll
        rw [hsteps, List.filter_append, hfilter,
          List.filter_cons_of_neg (by simpa using hev), List.filter_nil, List.append_nil] at hleave
        refine ⟨hcalls.mp hleave, Or.inl ?_⟩
        exact (h.event (i, ev) (by rw [hsteps]; simp) hev).1
    · rintro (hother | h)
      · exact absurd htype hother
      · obtain ⟨-, hrx⟩ | ⟨hroom, i, ev, hev, hsteps, hentry⟩ := hcases
        · refine ⟨?_, ?_, fun _ => ?_⟩
          · rw [hrx, hfilter]
            exact hcalls.mpr h.flag
          · intro call hcall hne
            rw [hrx] at hcall
            simp only at hcall
            split at hcall
            · exact absurd (leaveallCalls_rLA s p call hcall) hne
            · cases hcall
          · rw [hrx]
            simp only
            split
            · refine ⟨fun q hq => leaveall_other s hq, fun i => ?_, fun i e he hin => ?_⟩
              · rw [leaveall_vlans, Option.isSome_map]
              · exact absurd hin (leaveall_registrar he)
            · exact ⟨fun _ _ => rfl, fun _ => rfl, fun i e he hin => ⟨e, he, rfl, hin⟩⟩
        · have hone : msg.numVals = 1 := h.value.resolve_right hroom
          refine ⟨?_, ?_, fun hzero => ?_⟩
          · rw [hsteps, List.filter_append, hfilter,
              List.filter_cons_of_neg (by simpa using hev), List.filter_nil, List.append_nil]
            exact hcalls.mpr h.flag
          · intro call hcall hne
            rw [hsteps] at hcall
            obtain hleave | hevent := List.mem_append.mp hcall
            · split at hleave
              · exact absurd (leaveallCalls_rLA s p call hleave) hne
              · cases hleave
            · rw [List.mem_singleton.mp hevent]
              exact ⟨hone, hentry⟩
          · rw [hone] at hzero
            cases hzero
  · refine iff_of_true ?_ (Or.inl htype)
    have hnone : mrpRxMvrp s p msg = (s, []) := by
      rw [mrpRxMvrp, if_pos htype]
    refine ⟨?_, ?_, ?_⟩
    · rw [hnone, if_neg (fun hflag => htype hflag.1)]
      rfl
    · rw [hnone]
      intro call hcall
      cases hcall
    · intro _
      rw [hnone]
      exact ⟨fun _ _ => rfl, fun _ => rfl, fun i e he hin => ⟨e, he, rfl, hin⟩⟩

/-- A pure LeaveAll as a switch sends it: LeaveAll, no value, VLAN 2, EndMarks. -/
def pureLeaveAll : MvrpVlanIdMessage := .read [0, 1, 2, 0x20, 0, 0, 2, 0, 0, 0, 0]

/-- Received on the first port of a bridge that knows no VLAN, it registers VLAN 2 there and has the
other port declare it. -/
theorem pure_leaveall_registers :
    let s : MvrpState (wiredBridge 2) :=
      { nowUs := 0, vlans := fun _ _ => none, joinTimer := fun _ => false }
    ¬MvrpHandled s ⟨0, by decide⟩ pureLeaveAll ∧
      ((mrpRxMvrp s ⟨0, by decide⟩ pureLeaveAll).1.vlans ⟨0, by decide⟩ ⟨0, by decide⟩).map
        (fun e => e.sm.registrar) = some .IN ∧
      ((mrpRxMvrp s ⟨0, by decide⟩ pureLeaveAll).1.vlans ⟨1, by decide⟩ ⟨0, by decide⟩).map
        (fun e => e.sm.applicant) = some .VN := by
  intro s
  refine ⟨fun h => ?_, by decide +kernel, by decide +kernel⟩
  have hnone := (h.noValue (by decide)).2.1 ⟨0, by decide⟩
  revert hnone
  decide +kernel

end EspAvb
