import EspAvb.Proof.Maap

/-!
# MAAP messages that name a range

A peer's message names a range of addresses by its start and count. `avb_process_maap` compares an
address with the start alone.
-/

namespace EspAvb

variable {k : Nat}

/-- The address lies in the range the message names. -/
def MaapMessage.Covers (msg : MaapMessage) (addr : EthAddr) : Prop :=
  msg.reqStartAddr.toNat ≤ addr.toNat ∧ addr.toNat < msg.reqStartAddr.toNat + msg.reqCount.toNat

instance (msg : MaapMessage) (addr : EthAddr) : Decidable (msg.Covers addr) :=
  inferInstanceAs (Decidable (_ ∧ _))

/-- The same message about one address. -/
def MaapMessage.single (msg : MaapMessage) (addr : EthAddr) : MaapMessage :=
  { msg with reqStartAddr := addr, reqCount := 1 }

/-- A probe of an address acquired is answered, an announce or a defend of an address in use is
treated as one of that address alone, and a message about none of the device's addresses changes
none of its streams. -/
structure MaapRangeHandled (now : Nat) (msg : MaapMessage) (d : MaapDevice k) : Prop where
  defended : ∀ i, msg.Covers (d.maap i).acquiredAddr → msg.msgType = .probe →
    (d.maap i).state = .defend → ∃ answer ∈ (avbProcessMaap now msg d).2,
      answer.msgType = .defend ∧ answer.conflStartAddr = (d.maap i).acquiredAddr
  yields : ∀ i, msg.Covers (d.maap i).acquiredAddr → msg.msgType ≠ .probe →
    (avbProcessMaap now msg d).1.maap i =
      (maapProcessStream d.internalMacAddr i now (msg.single (d.maap i).acquiredAddr) (d.maap i)).1
  untouched : (∀ i, ¬msg.Covers (d.maap i).acquiredAddr) →
    ∀ i, (avbProcessMaap now msg d).1.maap i = d.maap i

/-- The state in which a stream answers a message about its address, or yields to it. -/
def MaapMsgType.concerns : MaapMsgType → MaapState
  | .probe => .defend
  | .defend => .probe
  | .announce => .defend

/-- The state in which a message about its address changes a stream. -/
def MaapMsgType.changes : MaapMsgType → MaapState
  | .probe => .probe
  | .defend => .probe
  | .announce => .defend

/-- The range reaches past its start to no stream it concerns, and an empty range starts at no
stream it would change. -/
structure MaapStartDecides (msg : MaapMessage) (d : MaapDevice k) : Prop where
  start : ∀ i, msg.Covers (d.maap i).acquiredAddr → (d.maap i).acquiredAddr ≠ msg.reqStartAddr →
    (d.maap i).state ≠ msg.msgType.concerns
  empty : msg.reqCount = 0 → ∀ i, (d.maap i).acquiredAddr = msg.reqStartAddr →
    (d.maap i).state ≠ msg.msgType.changes

theorem maapReselect_ne (mac : EthAddr) (i now : Nat) (m : MaapStreamState) :
    (maapReselect mac i now m).reselectCount ≠ m.reselectCount := by
  have hone : m.reselectCount + 1 ≠ m.reselectCount := by
    intro h
    have := congrArg UInt16.toBitVec h
    simp at this
  exact hone

theorem maapProcessStream_other {mac : EthAddr} {i now : Nat} {msg : MaapMessage}
    {m : MaapStreamState} (h : m.acquiredAddr ≠ msg.reqStartAddr) :
    maapProcessStream mac i now msg m = (m, []) := by
  rw [maapProcessStream, if_pos h]

/-- A stream whose address the message starts at changes in just the state the message changes. -/
theorem maapProcessStream_changes (mac : EthAddr) (i now : Nat) {msg : MaapMessage}
    {m : MaapStreamState} (h : m.acquiredAddr = msg.reqStartAddr) :
    (maapProcessStream mac i now msg m).1 = m ↔ m.state ≠ msg.msgType.changes := by
  have hne := maapReselect_ne mac i now m
  rw [maapProcessStream, if_neg (not_not.mpr h)]
  cases htype : msg.msgType <;> cases hstate : m.state <;>
    simp only [MaapMsgType.changes, ne_eq, reduceCtorEq, not_false_eq_true, not_true_eq_false,
      iff_false]
  all_goals
    intro heq
    have hcount := congrArg MaapStreamState.reselectCount heq
    exact hne hcount

/-- Only the start is looked at: the message about that address alone is processed the same. -/
theorem maapProcessStream_single {mac : EthAddr} {i now : Nat} {msg : MaapMessage}
    {m : MaapStreamState} (h : m.acquiredAddr = msg.reqStartAddr) :
    maapProcessStream mac i now (msg.single m.acquiredAddr) m = maapProcessStream mac i now msg m := by
  have hself : ¬m.acquiredAddr ≠ (msg.single m.acquiredAddr).reqStartAddr := fun hne => hne rfl
  rw [maapProcessStream, maapProcessStream, if_neg hself, if_neg (not_not.mpr h)]
  simp only [MaapMessage.single, h]

theorem covers_start {msg : MaapMessage} {addr : EthAddr} (h : addr = msg.reqStartAddr) :
    msg.Covers addr ↔ msg.reqCount ≠ 0 := by
  have hzero : msg.reqCount = 0 ↔ msg.reqCount.toNat = 0 := by
    constructor
    · intro hcount
      rw [hcount]
      rfl
    · exact fun hcount => UInt16.toNat_inj.mp hcount
  rw [MaapMessage.Covers, h, ne_eq, hzero]
  omega

theorem avbProcessMaap_maap (now : Nat) (msg : MaapMessage) (d : MaapDevice k) (i : Fin k) :
    (avbProcessMaap now msg d).1.maap i =
      (maapProcessStream d.internalMacAddr i now msg (d.maap i)).1 := rfl

theorem mem_avbProcessMaap {now : Nat} {msg answer : MaapMessage} {d : MaapDevice k} :
    answer ∈ (avbProcessMaap now msg d).2 ↔
      ∃ i : Fin k, answer ∈ (maapProcessStream d.internalMacAddr i now msg (d.maap i)).2 := by
  simp only [avbProcessMaap, MaapDevice.forStreams, List.mem_flatMap, List.mem_finRange, true_and]

/-- What a device answers names the start of the range. -/
theorem conflStartAddr_of_mem {mac : EthAddr} {i now : Nat} {msg answer : MaapMessage}
    {m : MaapStreamState} (h : answer ∈ (maapProcessStream mac i now msg m).2) :
    answer.conflStartAddr = msg.reqStartAddr := by
  rw [maapProcessStream] at h
  split at h
  · cases h
  · rename_i hstart
    split at h
    · rw [List.mem_singleton.mp h]
      exact not_not.mp hstart
    all_goals cases h

theorem maap_range_handled_iff (now : Nat) (msg : MaapMessage) (d : MaapDevice k) :
    MaapRangeHandled now msg d ↔ MaapStartDecides msg d := by
  constructor
  · intro h
    refine ⟨?_, ?_⟩
    · intro i hcovers hstart hstate
      cases htype : msg.msgType with
      | probe =>
          rw [htype] at hstate
          obtain ⟨answer, hmem, -, haddr⟩ := h.defended i hcovers htype hstate
          obtain ⟨j, hj⟩ := mem_avbProcessMaap.mp hmem
          exact hstart (haddr.symm.trans (conflStartAddr_of_mem hj))
      | _ =>
          have hyields := h.yields i hcovers (by rw [htype]; simp)
          rw [avbProcessMaap_maap, maapProcessStream_other hstart] at hyields
          have hchanges := (@maapProcessStream_changes d.internalMacAddr i now
            (msg.single (d.maap i).acquiredAddr) (d.maap i) rfl).mp hyields.symm
          rw [htype] at hstate
          simp only [MaapMessage.single, htype] at hchanges
          exact hchanges hstate
    · intro hcount i hstart
      have hnone : ∀ j, ¬msg.Covers (d.maap j).acquiredAddr := by
        intro j hcovers
        have hlt := hcovers.2
        rw [hcount] at hlt
        have hle := hcovers.1
        have hzero : (0 : UInt16).toNat = 0 := rfl
        omega
      have hsame := h.untouched hnone i
      rw [avbProcessMaap_maap] at hsame
      exact (maapProcessStream_changes d.internalMacAddr i now hstart).mp hsame
  · intro h
    refine ⟨?_, ?_, ?_⟩
    · intro i hcovers htype hstate
      have hstart : (d.maap i).acquiredAddr = msg.reqStartAddr := by
        by_contra hne
        apply h.start i hcovers hne
        rw [hstate, htype]
        rfl
      have hanswer : ∃ answer ∈ (maapProcessStream d.internalMacAddr i now msg (d.maap i)).2,
          answer.msgType = .defend ∧ answer.conflStartAddr = (d.maap i).acquiredAddr := by
        rw [maapProcessStream, if_neg (not_not.mpr hstart), htype, hstate]
        exact ⟨_, List.mem_singleton_self _, rfl, rfl⟩
      obtain ⟨answer, hmem, hdefend⟩ := hanswer
      exact ⟨answer, mem_avbProcessMaap.mpr ⟨i, hmem⟩, hdefend⟩
    · intro i hcovers htype
      rw [avbProcessMaap_maap]
      by_cases hstart : (d.maap i).acquiredAddr = msg.reqStartAddr
      · rw [maapProcessStream_single hstart]
      · rw [maapProcessStream_other hstart]
        have hstate := h.start i hcovers hstart
        have hchanges : (d.maap i).state ≠ (msg.single (d.maap i).acquiredAddr).msgType.changes := by
          simp only [MaapMessage.single]
          cases htype' : msg.msgType with
          | probe => exact absurd htype' htype
          | _ =>
              rw [htype'] at hstate
              exact hstate
        exact ((maapProcessStream_changes d.internalMacAddr i now rfl).mpr hchanges).symm
    · intro hnone i
      rw [avbProcessMaap_maap]
      by_cases hstart : (d.maap i).acquiredAddr = msg.reqStartAddr
      · have hcount : msg.reqCount = 0 := by
          by_contra hne
          exact hnone i ((covers_start hstart).mpr hne)
        exact (maapProcessStream_changes d.internalMacAddr i now hstart).mpr (h.empty hcount i hstart)
      · rw [maapProcessStream_other hstart]

/-- A device that has acquired the second address of the range a peer probes. -/
def secondOfRange : MaapDevice 1 :=
  { internalMacAddr := .zero 6
    maap := fun _ =>
      { state := .defend, acquiredAddr := .ofNat 6 0x91e0f0000011, probeCount := 0, timerExpiryUs := 0
        acquired := true, reselectCount := 0 }
    streamDestAddr := fun _ => .ofNat 6 0x91e0f0000011 }

theorem range_probe_not_defended :
    ¬MaapRangeHandled 0
      { msgType := .probe, reqStartAddr := .ofNat 6 0x91e0f0000010, reqCount := 2
        conflStartAddr := .zero 6, conflCount := 0 } secondOfRange := by
  intro h
  obtain ⟨answer, hmem, -⟩ := h.defended 0 (by decide) rfl rfl
  revert hmem
  decide +revert

end EspAvb
