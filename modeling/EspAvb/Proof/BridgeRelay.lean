import EspAvb.Proof.BridgeControl
import EspAvb.Proof.StationPacing

/-!
# From side to side

Every frame that leaves the bridge came in on its other side, once, and differs from what came in at
most in its destination; PTP, MSRP and MVRP stay on their side, and Class A off Wi-Fi. The frames of a
reserved stream of a station cross the bridge in order and none is lost: those on the wire, those in
the pacer's queue and the one in the worker's hand are what came in, each with the destination its
talker advertised.
-/

namespace EspAvb

/-! ## The pacers as a stage -/

/-- The frame at hand, until a pacer has accepted it. -/
def ForwardPc.offered : ForwardPc → List Buf
  | .lookup frame => [frame.octets]
  | .configure frame _ => [frame.octets]
  | .offer frame _ => [frame.octets]
  | .transmitHead frame _ _ _ => [frame.octets]
  | .headDone frame _ => [frame.octets]
  | _ => []

namespace StationPacers

/-- The frame that a step gives back, for want of a pacer. -/
def returned (s s' : StationPacers) : List Buf :=
  if s.forward.looksUp && s'.forward.isIdle then s.forward.offered else []

/-- What a step of the pacers transmits and accepts. A frame given back has no pacer. -/
structure Moved (s s' : StationPacers) (sent : List PacedFrame) (taken : List Buf) : Prop where
  transmitted : s'.transmitted = s.transmitted ++ sent
  accepted : s'.accepted = s.accepted ++ taken
  offered : s.forward.offered = taken ++ returned s s' ++ s'.forward.offered
  unpaced : returned s s' ≠ [] → sent = [] ∧ taken = [] ∧
    ∀ f ∈ returned s s', ∀ i, (s.pacers i).valid = true → (s.pacers i).streamId ≠ streamIdOf f

theorem returned_of_not_looksUp {s s' : StationPacers} (h : s.forward.looksUp = false) :
    returned s s' = [] := by
  rw [returned, h]
  rfl

theorem returned_of_not_idle {s s' : StationPacers} (h : s'.forward.isIdle = false) :
    returned s s' = [] := by
  rw [returned, h, Bool.and_false]
  rfl

/-- A step with nothing accepted or given back. -/
theorem Moved.quiet {s s' : StationPacers} {sent : List PacedFrame}
    (htransmitted : s'.transmitted = s.transmitted ++ sent) (haccepted : s'.accepted = s.accepted)
    (hoffered : s'.forward.offered = s.forward.offered) (hnone : returned s s' = []) :
    Moved s s' sent [] := by
  refine ⟨htransmitted, ?_, ?_, fun hback => absurd hnone hback⟩
  · rw [haccepted, List.append_nil]
  · rw [hnone, hoffered]
    rfl

theorem drainStep_transmitted (s : StationPacers) (armed : Bool) (pc : DrainPc) :
    ∃ sent, (s.drainStep armed pc).1.transmitted = s.transmitted ++ sent := by
  cases pc with
  | enter =>
      rw [drainStep]
      split <;> exact ⟨[], (List.append_nil _).symm⟩
  | scan nowNs =>
      rw [drainStep]
      split <;> exact ⟨[], (List.append_nil _).symm⟩
  | arm earliestNs =>
      rw [drainStep]
      split <;> exact ⟨[], (List.append_nil _).symm⟩
  | transmit i slot len nowNs => exact ⟨_, rfl⟩
  | read => exact ⟨[], (List.append_nil _).symm⟩
  | done i => exact ⟨[], (List.append_nil _).symm⟩

theorem lookupStep_moved {s : StationPacers} {frame : StationFrame} (hpc : s.forward = .lookup frame)
    (mallocOk : Bool) : Moved s (s.lookupStep frame mallocOk) [] [] := by
  have hback : ∀ s', s'.transmitted = s.transmitted → s'.accepted = s.accepted →
      s'.forward = .idle → s.find? (streamIdOf frame.octets) = .none → Moved s s' [] [] := by
    intro s' htransmitted haccepted hidle hfind
    have hreturned : returned s s' = [frame.octets] := by
      rw [returned, hpc, hidle]
      rfl
    refine ⟨?_, ?_, ?_, fun _ => ⟨rfl, rfl, ?_⟩⟩
    · rw [htransmitted, List.append_nil]
    · rw [haccepted, List.append_nil]
    · rw [hreturned, hpc, hidle]
      rfl
    · rw [hreturned]
      intro f hf i
      rw [List.mem_singleton.mp hf]
      exact find?_none hfind i
  have hgo : ∀ s' i, s'.transmitted = s.transmitted → s'.accepted = s.accepted →
      s'.forward = .configure frame i → Moved s s' [] [] := by
    intro s' i htransmitted haccepted hconfigure
    have hnone : returned s s' = [] := returned_of_not_idle (by rw [hconfigure]; rfl)
    refine ⟨?_, ?_, ?_, fun hback => absurd hnone hback⟩
    · rw [htransmitted, List.append_nil]
    · rw [haccepted, List.append_nil]
    · rw [hnone, hpc, hconfigure]
      rfl
  rw [lookupStep]
  split
  · exact hgo _ _ rfl rfl rfl
  · rename_i hfind
    split
    · split
      · exact hgo _ _ rfl rfl rfl
      · exact hback _ rfl rfl rfl hfind
    · exact hback _ rfl rfl rfl hfind

theorem offerStep_moved {s : StationPacers} {frame : StationFrame} {i : PacerIndex}
    (hpc : s.forward = .offer frame i) :
    Moved s (s.offerStep frame i) [] [frame.octets] ∨ Moved s (s.offerStep frame i) [] [] := by
  have hlooks : s.forward.looksUp = false := by
    rw [hpc]
    rfl
  have htake : ∀ s' : StationPacers, s'.transmitted = s.transmitted →
      s'.accepted = s.accepted ++ [frame.octets] → s'.forward.offered = [] →
      Moved s s' [] [frame.octets] := by
    intro s' htransmitted haccepted hoffered
    have hnone : returned s s' = [] := returned_of_not_looksUp hlooks
    refine ⟨?_, haccepted, ?_, fun hback => absurd hnone hback⟩
    · rw [htransmitted, List.append_nil]
    · rw [hnone, hoffered, hpc]
      rfl
  simp only [offerStep]
  split
  · exact .inl (htake _ rfl rfl rfl)
  · split
    · exact .inl (htake _ rfl rfl rfl)
    · split
      · refine .inr (.quiet (List.append_nil _).symm rfl ?_ (returned_of_not_looksUp hlooks))
        rw [hpc]
        rfl
      · exact .inl (htake _ rfl rfl rfl)

/-- A step of the pacers' own, not an arrival. -/
def own : PacerEvent → Bool
  | .arrive _ _ _ _ => false
  | _ => true

theorem pacerStep_moved (s : StationPacers) {e : PacerEvent} (he : own e = true) :
    ∃ sent taken, Moved s (pacerStep s e) sent taken := by
  have hquiet : ∀ {s' : StationPacers} {sent}, s'.transmitted = s.transmitted ++ sent →
      s'.accepted = s.accepted → s'.forward = s.forward → ∃ sent taken, Moved s s' sent taken := by
    intro s' sent htransmitted haccepted hforward
    have hnone : returned s s' = [] := by
      cases hpc : s.forward with
      | lookup frame => exact returned_of_not_idle (by rw [hforward, hpc]; rfl)
      | _ => exact returned_of_not_looksUp (by rw [hpc]; rfl)
    exact ⟨sent, [], .quiet htransmitted haccepted (congrArg ForwardPc.offered hforward) hnone⟩
  cases e with
  | arrive octets egressPort maxIntervalFrames up => cases he
  | pass us => exact hquiet (List.append_nil _).symm rfl rfl
  | alarm =>
      simp only [pacerStep, alarm]
      split
      · split <;> exact hquiet (List.append_nil _).symm rfl rfl
      · exact hquiet (List.append_nil _).symm rfl rfl
  | task armed =>
      simp only [pacerStep, taskStep]
      split
      · split <;> exact hquiet (List.append_nil _).symm rfl rfl
      · obtain ⟨sent, hsent⟩ := s.drainStep_transmitted armed ‹_›
        obtain ⟨haccepted, hforward, -⟩ := s.drainStep_accepted armed ‹_›
        exact hquiet hsent haccepted hforward
  | forward ok =>
      simp only [pacerStep, forwardStep]
      cases hpc : s.forward with
      | idle => exact hquiet (List.append_nil _).symm rfl rfl
      | lookup frame => exact ⟨[], [], lookupStep_moved hpc ok⟩
      | configure frame i =>
          refine ⟨[], [], .quiet (List.append_nil _).symm rfl ?_ ?_⟩
          · rw [hpc]
            rfl
          · exact returned_of_not_looksUp (by rw [hpc]; rfl)
      | offer frame i =>
          rcases offerStep_moved hpc with htaken | hagain
          · exact ⟨_, _, htaken⟩
          · exact ⟨_, _, hagain⟩
      | transmitHead frame i slot len =>
          refine ⟨_, [], .quiet rfl rfl ?_ ?_⟩
          · rw [hpc]
            rfl
          · exact returned_of_not_looksUp (by rw [hpc]; rfl)
      | headDone frame i =>
          refine ⟨[], [], .quiet (List.append_nil _).symm rfl ?_ ?_⟩
          · rw [hpc]
            rfl
          · exact returned_of_not_looksUp (by rw [hpc]; rfl)
      | transmitOwn frame i =>
          refine ⟨_, [], .quiet rfl rfl ?_ ?_⟩
          · rw [hpc]
            rfl
          · exact returned_of_not_looksUp (by rw [hpc]; rfl)
      | ownDone i =>
          refine ⟨[], [], .quiet (List.append_nil _).symm rfl ?_ ?_⟩
          · rw [hpc]
            rfl
          · exact returned_of_not_looksUp (by rw [hpc]; rfl)
      | drain pc =>
          obtain ⟨sent, hsent⟩ := s.drainStep_transmitted ok pc
          obtain ⟨haccepted, -⟩ := s.drainStep_accepted ok pc
          refine ⟨sent, [], .quiet hsent haccepted ?_ ?_⟩
          · rw [hpc]
            simp only [setForward]
            cases (s.drainStep ok pc).2 <;> rfl
          · exact returned_of_not_looksUp (by rw [hpc]; rfl)

theorem idle_stays {s : StationPacers} (h : s.forward.isIdle = true) {e : PacerEvent}
    (he : own e = true) : (pacerStep s e).forward.isIdle = true := by
  have hidle : s.forward = .idle := by
    cases hpc : s.forward <;> rw [hpc] at h <;> first | rfl | cases h
  cases e with
  | arrive octets egressPort maxIntervalFrames up => cases he
  | pass us => exact h
  | forward ok =>
      rw [pacerStep, forwardStep, hidle]
      exact h
  | task armed =>
      rw [pacerStep, taskStep]
      split
      · split <;> exact h
      · simp only [(s.drainStep_accepted armed _).2.1]
        exact h
  | alarm =>
      rw [pacerStep, StationPacers.alarm]
      split
      · split <;> exact h
      · exact h

/-- Everything goes out on Ethernet, and no pacer is in use before the set-up. -/
structure Wired (s : StationPacers) : Prop where
  pacers : ∀ i, (s.pacers i).egressPort = 0
  frame : ∀ frame, s.forward.frame? = some frame → frame.egressPort = 0
  sent : ∀ paced ∈ s.transmitted, paced.egressPort = 0
  up : s.initOk ≠ some true → s.forward.isIdle = true ∧ ∀ i, (s.pacers i).valid = false

namespace Wired

variable {s : StationPacers}

theorem init : Wired .init where
  pacers _ := rfl
  frame _ h := by cases h
  sent _ h := by cases h
  up _ := ⟨rfl, fun _ => rfl⟩

theorem setPacer (h : ∀ i, (s.pacers i).egressPort = 0) {i : PacerIndex} {pacer : StationPacer}
    (hpacer : pacer.egressPort = 0) : ∀ j, ((s.setPacer i pacer).pacers j).egressPort = 0 := by
  intro j
  simp only [StationPacers.setPacer]
  by_cases hj : j = i
  · subst hj
    rw [Function.update_self]
    exact hpacer
  · rw [Function.update_of_ne hj]
    exact h j

theorem append {paced : List PacedFrame} (h : ∀ paced ∈ s.transmitted, paced.egressPort = 0)
    (hnew : ∀ p ∈ paced, p.egressPort = 0) :
    ∀ p ∈ s.transmitted ++ paced, p.egressPort = 0 := by
  intro p hp
  rcases List.mem_append.mp hp with hold | hadded
  · exact h p hold
  · exact hnew p hadded

theorem drainStep (h : Wired s) (armed : Bool) (pc : DrainPc) :
    (∀ i, ((s.drainStep armed pc).1.pacers i).egressPort = 0) ∧
      (∀ paced ∈ (s.drainStep armed pc).1.transmitted, paced.egressPort = 0) ∧
      (s.drainStep armed pc).1.initOk = s.initOk ∧
      ∀ i, ((s.drainStep armed pc).1.pacers i).valid = (s.pacers i).valid := by
  have hports : ∀ i, ((s.drainStep armed pc).1.pacers i).egressPort = 0 := fun i =>
    (@drainStep_field _ StationPacer.egressPort (fun _ _ => rfl) (fun _ => rfl) s armed pc
      i).trans (h.pacers i)
  have hvalid : ∀ i, ((s.drainStep armed pc).1.pacers i).valid = (s.pacers i).valid := fun i =>
    @drainStep_field _ StationPacer.valid (fun _ _ => rfl) (fun _ => rfl) s armed pc i
  refine ⟨hports, ?_, ?_, hvalid⟩
  · cases pc with
    | transmit i slot len nowNs =>
        refine append h.sent fun p hp => ?_
        rw [List.mem_singleton.mp hp]
        exact h.pacers i
    | enter =>
        rw [StationPacers.drainStep]
        split <;> exact h.sent
    | scan nowNs =>
        rw [StationPacers.drainStep]
        split <;> exact h.sent
    | arm earliestNs =>
        rw [StationPacers.drainStep]
        split <;> exact h.sent
    | read => exact h.sent
    | done i => exact h.sent
  · cases pc with
    | enter =>
        rw [StationPacers.drainStep]
        split <;> rfl
    | scan nowNs =>
        rw [StationPacers.drainStep]
        split <;> rfl
    | arm earliestNs =>
        rw [StationPacers.drainStep]
        split <;> rfl
    | _ => rfl

theorem forwardStep (h : Wired s) (ok : Bool) : Wired (s.forwardStep ok) := by
  have hbusy : s.forward.isIdle = false → s.initOk = some true := by
    intro hidle
    by_contra hnot
    rw [(h.up hnot).1] at hidle
    cases hidle
  rw [StationPacers.forwardStep]
  cases hpc : s.forward with
  | idle => exact h
  | lookup frame =>
      have hport : frame.egressPort = 0 := h.frame frame (by rw [hpc]; rfl)
      have hup : s.initOk = some true := hbusy (by rw [hpc]; rfl)
      simp only [StationPacers.lookupStep]
      split
      · refine ⟨h.pacers, ?_, h.sent, fun hnot => absurd hup hnot⟩
        rintro _ ⟨⟩
        exact hport
      · split
        · split
          · refine ⟨setPacer h.pacers (h.pacers _), ?_, h.sent, fun hnot => absurd hup hnot⟩
            rintro _ ⟨⟩
            exact hport
          · exact ⟨setPacer h.pacers (h.pacers _), (fun _ hf => by cases hf), h.sent,
              fun hnot => absurd hup hnot⟩
        · exact ⟨h.pacers, (fun _ hf => by cases hf), h.sent, fun hnot => absurd hup hnot⟩
  | configure frame i =>
      have hport : frame.egressPort = 0 := h.frame frame (by rw [hpc]; rfl)
      have hup : s.initOk = some true := hbusy (by rw [hpc]; rfl)
      refine ⟨setPacer h.pacers ?_, ?_, h.sent, fun hnot => absurd hup hnot⟩
      · rw [StationPacer.configure]
        split <;> exact hport
      · rintro _ ⟨⟩
        exact hport
  | offer frame i =>
      have hport : frame.egressPort = 0 := h.frame frame (by rw [hpc]; rfl)
      have hup : s.initOk = some true := hbusy (by rw [hpc]; rfl)
      simp only [StationPacers.offerStep]
      have hpacer := h.pacers i
      split
      · refine ⟨setPacer h.pacers hpacer, ?_, h.sent, fun hnot => absurd hup hnot⟩
        rintro _ ⟨⟩
        exact hport
      · split
        · exact ⟨setPacer h.pacers hpacer, (fun _ hf => by cases hf), h.sent,
            fun hnot => absurd hup hnot⟩
        · split
          · refine ⟨setPacer h.pacers hpacer, ?_, h.sent, fun hnot => absurd hup hnot⟩
            rintro _ ⟨⟩
            exact hport
          · refine ⟨setPacer h.pacers hpacer, ?_, h.sent, fun hnot => absurd hup hnot⟩
            rintro _ ⟨⟩
            exact hport
  | transmitHead frame i slot len =>
      have hport : frame.egressPort = 0 := h.frame frame (by rw [hpc]; rfl)
      have hup : s.initOk = some true := hbusy (by rw [hpc]; rfl)
      refine ⟨h.pacers, ?_, append h.sent fun p hp => ?_, fun hnot => absurd hup hnot⟩
      · rintro _ ⟨⟩
        exact hport
      · rw [List.mem_singleton.mp hp]
        exact hport
  | headDone frame i =>
      have hport : frame.egressPort = 0 := h.frame frame (by rw [hpc]; rfl)
      have hup : s.initOk = some true := hbusy (by rw [hpc]; rfl)
      refine ⟨setPacer h.pacers (h.pacers i), ?_, h.sent, fun hnot => absurd hup hnot⟩
      rintro _ ⟨⟩
      exact hport
  | transmitOwn frame i =>
      have hport : frame.egressPort = 0 := h.frame frame (by rw [hpc]; rfl)
      have hup : s.initOk = some true := hbusy (by rw [hpc]; rfl)
      refine ⟨h.pacers, (fun _ hf => by cases hf), append h.sent fun p hp => ?_,
        fun hnot => absurd hup hnot⟩
      rw [List.mem_singleton.mp hp]
      exact hport
  | ownDone i =>
      have hup : s.initOk = some true := hbusy (by rw [hpc]; rfl)
      exact ⟨setPacer h.pacers (h.pacers i), (fun _ hf => by cases hf), h.sent,
        fun hnot => absurd hup hnot⟩
  | drain pc =>
      have hup : s.initOk = some true := hbusy (by rw [hpc]; rfl)
      obtain ⟨hports, hsent, hinit, -⟩ := h.drainStep ok pc
      refine ⟨hports, ?_, hsent, fun hnot => absurd (hinit.trans hup) hnot⟩
      intro frame hf
      simp only [StationPacers.setForward] at hf
      cases hnext : (s.drainStep ok pc).2 with
      | none =>
          rw [hnext] at hf
          cases hf
      | some pc' =>
          rw [hnext] at hf
          cases hf

theorem taskStep (h : Wired s) (armed : Bool) : Wired (s.taskStep armed) := by
  rw [StationPacers.taskStep]
  cases htask : s.task with
  | none =>
      simp only
      split
      · exact ⟨h.pacers, h.frame, h.sent, h.up⟩
      · exact h
  | some pc =>
      obtain ⟨hports, hsent, hinit, hvalid⟩ := h.drainStep armed pc
      obtain ⟨-, hforward, -⟩ := s.drainStep_accepted armed pc
      refine ⟨hports, ?_, hsent, ?_⟩
      · simp only [hforward]
        exact h.frame
      · simp only [hforward, hinit, hvalid]
        exact h.up

theorem step (h : Wired s) {e : PacerEvent} (he : own e = true) : Wired (pacerStep s e) := by
  cases e with
  | arrive octets egressPort maxIntervalFrames up => cases he
  | pass us => exact ⟨h.pacers, h.frame, h.sent, h.up⟩
  | forward ok => exact h.forwardStep ok
  | task armed => exact h.taskStep armed
  | alarm =>
      simp only [pacerStep, StationPacers.alarm]
      split
      · split
        · exact ⟨h.pacers, h.frame, h.sent, h.up⟩
        · exact h
      · exact h

/-- A frame for Ethernet comes in. The pacers take it up, unless it is no stream data, has no TSpec
or the pacers cannot be set up. -/
theorem arrive (h : Wired s) (hidle : s.forward.isIdle = true) (octets : List UInt8)
    (maxIntervalFrames : Option Nat) (up : Bool) :
    let s' := s.arrive octets 0 maxIntervalFrames up
    Wired s' ∧ s'.transmitted = s.transmitted ∧ s'.accepted = s.accepted ∧
      s'.pacers = s.pacers ∧
      (s'.forward.offered = [octets] ∧ isStationStream octets = true ∧ s'.forward.isIdle = false ∨
        s'.forward = s.forward ∧ (isStationStream octets = true → maxIntervalFrames ≠ none →
          ∀ i, (s.pacers i).valid = false)) := by
  have hforward : s.forward = .idle := by
    cases hpc : s.forward <;> rw [hpc] at hidle <;> first | rfl | cases hidle
  simp only
  unfold StationPacers.arrive
  rw [hforward]
  cases maxIntervalFrames with
  | none => exact ⟨h, rfl, rfl, rfl, .inr ⟨hforward, fun _ hno => absurd rfl hno⟩⟩
  | some frames =>
      simp only
      split
      · rename_i hstream
        split
        · rename_i hok
          refine ⟨⟨h.pacers, ?_, h.sent, fun hnot => ?_⟩, rfl, rfl, rfl, .inl ⟨rfl, hstream, rfl⟩⟩
          · rintro _ ⟨⟩
            rfl
          · simp only [StationPacers.setForward] at hnot
            rw [hok] at hnot
            exact absurd rfl hnot
        · rename_i hok
          have hdown : s.initOk ≠ some true := by
            intro hup
            rw [hup] at hok
            exact hok rfl
          refine ⟨⟨h.pacers, ?_, h.sent, fun _ => ⟨?_, (h.up hdown).2⟩⟩, rfl, rfl, rfl,
            .inr ⟨rfl, fun _ _ => (h.up hdown).2⟩⟩
          · exact fun _ hf => by cases hf
          · rfl
      · rename_i hnot
        exact ⟨h, rfl, rfl, rfl, .inr ⟨hforward, fun hstream => absurd hstream hnot⟩⟩

end Wired

end StationPacers

namespace BridgeRx

open StationPacers

variable {cfg : Config}

theorem offered_of_isIdle {pc : ForwardPc} (h : pc.isIdle = true) :
    pc.offered = [] ∧ pc.looksUp = false := by
  cases pc <;> first | exact ⟨rfl, rfl⟩ | cases h

/-- The worker's hand is full while it is with the pacers, which hold nothing but stream data. -/
structure Ready (s : BridgeRx cfg) : Prop where
  wired : s.pacers.Wired
  hand : s.hand = none → s.pacers.forward.isIdle = true
  held : ∀ f ∈ s.pacers.forward.offered, s.hand = some f
  streams : ∀ f ∈ s.pacers.accepted ++ s.pacers.forward.offered,
    Buf.etherType f = etherTypeVlan ∧ isStationStream f = true

/-- What a step brings across to Ethernet: `new` comes in, the pacers take `taken` and send `sent`,
and `direct` passes them by. -/
structure Crossed (s s' : BridgeRx cfg) (new direct : List Buf) (sent : List PacedFrame)
    (taken : List Buf) : Prop where
  transmitted : s'.pacers.transmitted = s.pacers.transmitted ++ sent
  accepted : s'.pacers.accepted = s.pacers.accepted ++ taken
  toEth : s'.toEth = s.toEth ++ sent.map PacedFrame.octets ++ direct
  offered : s.pacers.forward.offered ++ new = taken ++ direct ++ s'.pacers.forward.offered
  alone : direct ≠ [] → sent = [] ∧ taken = []
  unpaced : ∀ f ∈ direct, f.etherType = etherTypeVlan → isStationStream f = true →
    (f ∈ new → s.stationTspec f ≠ none) →
      ∀ i, (s.pacers.pacers i).valid = true → (s.pacers.pacers i).streamId ≠ streamIdOf f

/-- The pacers stay or make a step of theirs. -/
def PacersStep (s s' : BridgeRx cfg) (e : BridgeEvent cfg) : Prop :=
  s'.pacers = s.pacers ∨ ∃ pe, s'.pacers = pacerStep s.pacers pe ∧
    ∀ ok, pe = .forward ok → e = .forward ok

/-- What comes in of a step. -/
def image (s : BridgeRx cfg) : BridgeEvent cfg → List Buf
  | .wifi frame _ => if s.idle ∧ frame.passes then [s.restored frame] else []
  | _ => []

theorem foldl_forward_eth (h : cfg.TwoPorts) {paced : List PacedFrame}
    (heth : ∀ p ∈ paced, p.egressPort = 0) (s : BridgeRx cfg) :
    paced.foldl (fun s paced => s.avbBridgeForward paced.egressPort paced.octets) s =
      { s with toEth := s.toEth ++ paced.map PacedFrame.octets } := by
  induction paced generalizing s with
  | nil => rw [List.foldl_nil, List.map_nil, List.append_nil]
  | cons frame paced ih =>
      rw [List.foldl_cons, heth frame List.mem_cons_self, h.forward_eth,
        ih fun p hp => heth p (List.mem_cons_of_mem frame hp)]
      simp only [List.map_cons, List.append_assoc, List.singleton_append]

/-- A step in which nothing crosses. -/
theorem Ready.still {s s' : BridgeRx cfg} (hready : s.Ready) (hpacers : s'.pacers = s.pacers)
    (hhand : s'.hand = s.hand) (heth : s'.toEth = s.toEth) :
    Crossed s s' [] [] [] [] ∧ s'.Ready := by
  constructor
  · refine ⟨?_, ?_, ?_, ?_, fun hno => absurd rfl hno, fun _ hf => by cases hf⟩
    · rw [hpacers, List.append_nil]
    · rw [hpacers, List.append_nil]
    · rw [heth, List.map_nil, List.append_nil, List.append_nil]
    · rw [hpacers, List.append_nil]
      rfl
  · refine ⟨?_, ?_, ?_, ?_⟩
    · rw [hpacers]
      exact hready.wired
    · rw [hpacers, hhand]
      exact hready.hand
    · rw [hpacers, hhand]
      exact hready.held
    · rw [hpacers]
      exact hready.streams

theorem Ready.pacer (h : cfg.TwoPorts) {s : BridgeRx cfg} (hready : s.Ready) {e : PacerEvent}
    (he : own e = true) :
    ∃ direct sent taken, Crossed s (s.pacer e) [] direct sent taken ∧ (s.pacer e).Ready ∧
      (s.pacer e).pacers = pacerStep s.pacers e ∧ (s.pacer e).fromEth = s.fromEth ∧
      (s.pacer e).toWifi = s.toWifi := by
  obtain ⟨sent, taken, hmoved⟩ := pacerStep_moved s.pacers he
  have hwired := hready.wired.step he
  have hnew : (pacerStep s.pacers e).transmitted.drop s.pacers.transmitted.length = sent := by
    rw [hmoved.transmitted, List.drop_left]
  have heth : ∀ p ∈ sent, p.egressPort = 0 := by
    intro p hp
    apply hwired.sent
    rw [hmoved.transmitted]
    exact List.mem_append_right _ hp
  have hin : ∀ f ∈ (pacerStep s.pacers e).forward.offered, f ∈ s.pacers.forward.offered := by
    intro f hf
    rw [hmoved.offered]
    exact List.mem_append_right _ hf
  have hstreams : ∀ f ∈ (pacerStep s.pacers e).accepted ++ (pacerStep s.pacers e).forward.offered,
      Buf.etherType f = etherTypeVlan ∧ isStationStream f = true := by
    intro f hf
    apply hready.streams
    rw [hmoved.accepted, List.append_assoc] at hf
    rcases List.mem_append.mp hf with hold | hrest
    · exact List.mem_append_left _ hold
    · apply List.mem_append_right
      rw [hmoved.offered]
      rcases List.mem_append.mp hrest with htaken | hoffered
      · exact List.mem_append_left _ (List.mem_append_left _ htaken)
      · exact List.mem_append_right _ hoffered
  -- the worker's hand, and what it forwards past the pacers
  have hresult : ∃ hand, s.pacer e =
        { s with
          pacers := pacerStep s.pacers e
          hand
          toEth := s.toEth ++ sent.map PacedFrame.octets ++
            returned s.pacers (pacerStep s.pacers e) } ∧
      (hand = none → (pacerStep s.pacers e).forward.isIdle = true) ∧
      ∀ f ∈ (pacerStep s.pacers e).forward.offered, hand = some f := by
    unfold BridgeRx.pacer
    dsimp only
    rw [hnew, foldl_forward_eth h heth]
    cases hhand : s.hand with
    | none =>
        obtain ⟨hnothing, hlooks⟩ := offered_of_isIdle (hready.hand hhand)
        have hnone := @returned_of_not_looksUp _ (pacerStep s.pacers e) hlooks
        refine ⟨none, ?_, fun _ => idle_stays (hready.hand hhand) he, ?_⟩
        · rw [hnone, List.append_nil]
        · intro f hf
          have hmem := hin f hf
          rw [hnothing] at hmem
          cases hmem
    | some frame =>
        cases hidle : (pacerStep s.pacers e).forward.isIdle with
        | false =>
            refine ⟨some frame, ?_, (fun hno => by cases hno), ?_⟩
            · rw [returned_of_not_idle hidle, List.append_nil]
              rfl
            · intro f hf
              rw [← hhand]
              exact hready.held f (hin f hf)
        | true =>
            refine ⟨none, ?_, fun _ => rfl, ?_⟩
            · cases hlooks : s.pacers.forward.looksUp with
              | false =>
                  rw [returned_of_not_looksUp hlooks, List.append_nil]
                  rfl
              | true =>
                  have hback : returned s.pacers (pacerStep s.pacers e) = [frame] := by
                    rw [returned, hlooks, hidle]
                    cases hpc : s.pacers.forward with
                    | lookup f =>
                        have hf := hready.held f.octets (by rw [hpc]; exact List.mem_cons_self)
                        rw [hhand] at hf
                        cases hf
                        rfl
                    | _ =>
                        rw [hpc] at hlooks
                        cases hlooks
                  simp only [Bool.and_self, if_true]
                  rw [h.forward_eth, hback]
            · intro f hf
              rw [(offered_of_isIdle hidle).1] at hf
              cases hf
  obtain ⟨hand, heq, hhand, hheld⟩ := hresult
  refine ⟨returned s.pacers (pacerStep s.pacers e), sent, taken, ?_, ?_, ?_, ?_, ?_⟩
  · rw [heq]
    refine ⟨hmoved.transmitted, hmoved.accepted, rfl, ?_, ?_, ?_⟩
    · rw [List.append_nil]
      exact hmoved.offered
    · exact fun hback => ⟨(hmoved.unpaced hback).1, (hmoved.unpaced hback).2.1⟩
    · intro f hf _ _ _
      exact (hmoved.unpaced (List.ne_nil_of_mem hf)).2.2 f hf
  · rw [heq]
    exact ⟨hwired, hhand, hheld, hstreams⟩
  all_goals rw [heq]

theorem image_kept {s : BridgeRx cfg} {frame : Buf} {up : Bool}
    (h : s.idle = false ∨ frame.passes = false) : s.image (.wifi frame up) = [] := by
  rw [image, if_neg]
  rintro ⟨hidle, hpasses⟩
  rcases h with h | h
  · rw [hidle] at h
    cases h
  · rw [hpasses] at h
    cases h

theorem Ready.wifi (h : cfg.TwoPorts) {s : BridgeRx cfg} (hready : s.Ready) (frame : Buf) (up : Bool) :
    let e : BridgeEvent cfg := .wifi frame up
    ∃ direct sent taken, Crossed s (bridgeStep s e) (s.image e) direct sent taken ∧
      (bridgeStep s e).Ready ∧ PacersStep s (bridgeStep s e) e := by
  intro e
  simp only [e, bridgeStep]
  cases hidle : s.idle with
  | false =>
      rw [image_kept (.inl hidle)]
      obtain ⟨hcrossed, hready'⟩ := hready.still rfl rfl rfl
      exact ⟨[], [], [], hcrossed, hready', .inl rfl⟩
  | true =>
      simp only [if_true]
      have hforward : s.pacers.forward.isIdle = true := by
        rw [idle, Bool.and_eq_true] at hidle
        exact hidle.2
      have hnothing : s.pacers.forward.offered = [] := (offered_of_isIdle hforward).1
      set t : BridgeRx cfg := { s with fromWifi := s.fromWifi ++ [(s.nowUs, frame)] } with ht
      have hnew : frame.passes = true → s.image (.wifi frame up) = [s.restored frame] := fun hpasses => by
        rw [image, if_pos ⟨hidle, hpasses⟩]
      rcases t.receive_wifi h frame up with ⟨hnot, ctrlRx, heq⟩ | ⟨hpasses, htag, heq⟩ |
        ⟨hpasses, htype, heq⟩
      · rw [image_kept (.inr hnot), heq]
        obtain ⟨hcrossed, hready'⟩ :=
          @Ready.still cfg s { t with ctrlRx } hready rfl rfl rfl
        exact ⟨[], [], [], hcrossed, hready', .inl rfl⟩
      · rw [hnew hpasses, heq]
        have himage : t.restored frame = s.restored frame := rfl
        rw [himage]
        set f := s.restored frame with hf
        obtain ⟨hwired, htransmitted, haccepted, hpacers, hcases⟩ :=
          hready.wired.arrive hforward f (s.stationTspec f) up
        have hvlan : f.etherType = etherTypeVlan := by rw [hf, etherType_restored, htag]
        have hstep : ∀ s' : BridgeRx cfg,
            s'.pacers = s.pacers.arrive f 0 (s.stationTspec f) up → PacersStep s s' (.wifi frame up) :=
          fun s' heq => .inr ⟨.arrive f 0 (s.stationTspec f) up, heq, fun _ hno => by cases hno⟩
        rw [offer]
        dsimp only
        have htspec : t.stationTspec f = s.stationTspec f := rfl
        rw [htspec]
        rcases hcases with ⟨hoffered, hstream, hbusy⟩ | ⟨hsame, hunpaced⟩
        · rw [if_neg (by rw [hbusy]; exact Bool.false_ne_true)]
          refine ⟨[], [], [], ⟨?_, ?_, ?_, ?_, fun hno => absurd rfl hno, fun _ hno => by cases hno⟩,
            ⟨hwired, (fun hno => by cases hno), ?_, ?_⟩, hstep _ rfl⟩
          · rw [List.append_nil]
            exact htransmitted
          · rw [List.append_nil]
            exact haccepted
          · rw [List.map_nil, List.append_nil, List.append_nil]
          · rw [hnothing]
            exact hoffered.symm
          · intro f' hf'
            rw [hoffered, List.mem_singleton] at hf'
            rw [hf']
          · intro f' hf'
            rw [haccepted, hoffered] at hf'
            rcases List.mem_append.mp hf' with hold | hnewest
            · exact hready.streams f' (List.mem_append_left _ hold)
            · rw [List.mem_singleton.mp hnewest]
              exact ⟨hvlan, hstream⟩
        · rw [if_pos (by rw [hsame]; exact hforward), h.forward_eth]
          have hnone : (s.pacers.arrive f 0 (s.stationTspec f) up).forward.offered = [] := by
            rw [hsame]
            exact hnothing
          refine ⟨[f], [], [], ⟨?_, ?_, ?_, ?_, fun _ => ⟨rfl, rfl⟩, ?_⟩, ⟨hwired, ?_, ?_, ?_⟩,
            hstep _ rfl⟩
          · rw [List.append_nil]
            exact htransmitted
          · rw [List.append_nil]
            exact haccepted
          · rw [List.map_nil, List.append_nil]
          · rw [hnothing, hnone]
            rfl
          · intro f' hf' _ hstream htspec i
            rw [List.mem_singleton.mp hf'] at hstream htspec
            intro hvalid
            rw [hunpaced hstream (htspec List.mem_cons_self) i] at hvalid
            cases hvalid
          · intro _
            rw [hsame]
            exact hforward
          · rw [hnone]
            exact fun _ hno => by cases hno
          · rw [haccepted, hnone, List.append_nil]
            exact fun f' hf' => hready.streams f' (List.mem_append_left _ hf')
      · rw [hnew hpasses, heq]
        have hsame : s.restored frame = frame := by
          rcases s.restored_cases frame with hsame | ⟨htag, -⟩
          · exact hsame
          · exact absurd htag htype
        rw [hsame]
        refine ⟨[frame], [], [], ⟨?_, ?_, ?_, ?_, fun _ => ⟨rfl, rfl⟩, ?_⟩,
          ⟨hready.wired, hready.hand, hready.held, hready.streams⟩, .inl rfl⟩
        · exact (List.append_nil _).symm
        · exact (List.append_nil _).symm
        · rw [List.map_nil, List.append_nil]
        · have hoffered : s.pacers.forward.offered = [] := hnothing
          simp only [ht, hoffered]
          rfl
        · intro f hf htag
          rw [List.mem_singleton.mp hf] at htag
          exact absurd htag htype

theorem Ready.step (h : cfg.TwoPorts) {s : BridgeRx cfg} (hready : s.Ready) (e : BridgeEvent cfg) :
    ∃ direct sent taken, Crossed s (bridgeStep s e) (s.image e) direct sent taken ∧
      (bridgeStep s e).Ready ∧ PacersStep s (bridgeStep s e) e := by
  have hstill : ∀ {s' : BridgeRx cfg}, s'.pacers = s.pacers → s'.hand = s.hand →
      s'.toEth = s.toEth → ∃ direct sent taken, Crossed s s' [] direct sent taken ∧ s'.Ready ∧
        PacersStep s s' e := by
    intro s' hpacers hhand heth
    obtain ⟨hcrossed, hready'⟩ := hready.still hpacers hhand heth
    exact ⟨[], [], [], hcrossed, hready', .inl hpacers⟩
  have hpacer : ∀ {pe : PacerEvent}, own pe = true → (∀ ok, pe = .forward ok → e = .forward ok) →
      ∃ direct sent taken, Crossed s (s.pacer pe) [] direct sent taken ∧ (s.pacer pe).Ready ∧
        PacersStep s (s.pacer pe) e := by
    intro pe hown hforward
    obtain ⟨direct, sent, taken, hcrossed, hready', heq, -⟩ := hready.pacer h hown
    exact ⟨direct, sent, taken, hcrossed, hready', .inr ⟨pe, heq, hforward⟩⟩
  cases e with
  | mrp next => exact hstill rfl rfl rfl
  | recvCtrl => exact hstill rfl rfl rfl
  | wifi frame up => exact hready.wifi h frame up
  | pass us => exact hpacer rfl fun _ hno => by cases hno
  | forward ok => exact hpacer rfl fun _ heq => by cases heq; rfl
  | task armed => exact hpacer rfl fun _ hno => by cases hno
  | alarm => exact hpacer rfl fun _ hno => by cases hno
  | emac frame room bundled =>
      simp only [bridgeStep]
      set t : BridgeRx cfg := { s with fromEth := s.fromEth ++ [frame] } with ht
      rcases t.receive_eth h frame room bundled with ⟨-, ctrlRx, heq⟩ |
        ⟨-, -, -, image, -, heq | heq⟩ | ⟨-, -, heq⟩
      all_goals
        rw [heq]
        exact hstill rfl rfl rfl

/-! ## Runs -/

def NoOverflow (s : BridgeRx cfg) : BridgeEvent cfg → Prop
  | .forward ok => s.pacers.NoOverflow (.forward ok)
  | _ => True

instance NoOverflow.decidable (s : BridgeRx cfg) (e : BridgeEvent cfg) : Decidable (s.NoOverflow e) :=
  match e with
  | .forward ok => inferInstanceAs (Decidable (s.pacers.NoOverflow (.forward ok)))
  | .mrp _ | .emac _ _ _ | .wifi _ _ | .pass _ | .task _ | .alarm | .recvCtrl =>
      inferInstanceAs (Decidable True)

/-- The frames of a stream. -/
def isStream (streamId : List UInt8) (frame : Buf) : Bool :=
  decide (frame.etherType = etherTypeVlan) && isStationStream frame && ofStream streamId frame

/-- `images` have come in: first those that a pacer accepted or that passed the pacers by, then the one
at hand. Of each the wire has as many as came through, less those that the pacers still owe. -/
structure Relays (s : BridgeRx cfg) (images : List Buf) : Prop where
  inv : PacersInv s.pacers
  calm : PacersCalm s.pacers
  ready : s.Ready
  entered : ∃ entered, images = entered ++ s.pacers.forward.offered ∧
    ∀ f, entered.count f + s.pacers.sent.count f = s.toEth.count f + s.pacers.accepted.count f

theorem Relays.init (lite : Bool) : Relays (init cfg lite) [] where
  inv := .init
  calm := .init
  ready := ⟨.init, fun _ => rfl, (fun _ hf => by cases hf), fun _ hf => by cases hf⟩
  entered := ⟨[], rfl, fun _ => rfl⟩

theorem sent_of_transmitted {s s' : StationPacers} {sent : List PacedFrame}
    (h : s'.transmitted = s.transmitted ++ sent) : s'.sent = s.sent ++ sent.map PacedFrame.octets := by
  rw [StationPacers.sent, h, List.map_append, StationPacers.sent]

theorem Relays.step (h : cfg.TwoPorts) {s : BridgeRx cfg} {images : List Buf}
    (hrelays : Relays s images) (e : BridgeEvent cfg) (hroom : s.NoOverflow e) :
    Relays (bridgeStep s e) (images ++ s.image e) := by
  obtain ⟨direct, sent, taken, hcrossed, hready, hpacers⟩ := hrelays.ready.step h e
  obtain ⟨entered, himages, hcount⟩ := hrelays.entered
  have hboth : PacersInv (bridgeStep s e).pacers ∧ PacersCalm (bridgeStep s e).pacers := by
    rcases hpacers with hsame | ⟨pe, hstep, hforward⟩
    · rw [hsame]
      exact ⟨hrelays.inv, hrelays.calm⟩
    · have hpe : s.pacers.NoOverflow pe := by
        cases pe with
        | forward ok =>
            rw [hforward ok rfl] at hroom
            exact hroom
        | _ => trivial
      rw [hstep]
      exact ⟨hrelays.inv.step pe (hrelays.calm.oneInFlight hrelays.inv pe hpe),
        hrelays.calm.step pe hpe⟩
  refine ⟨hboth.1, hboth.2, hready, entered ++ taken ++ direct, ?_, ?_⟩
  · calc images ++ s.image e = entered ++ (s.pacers.forward.offered ++ s.image e) := by
          rw [himages, List.append_assoc]
      _ = entered ++ (taken ++ direct ++ (bridgeStep s e).pacers.forward.offered) := by
          rw [hcrossed.offered]
      _ = entered ++ taken ++ direct ++ (bridgeStep s e).pacers.forward.offered := by
          simp only [List.append_assoc]
  · intro f
    have hf := hcount f
    rw [sent_of_transmitted hcrossed.transmitted, hcrossed.accepted, hcrossed.toEth]
    simp only [List.count_append]
    omega

/-- What the pacers owe of a stream: the frame in flight, then the queue. -/
def waiting (s : StationPacers) (streamId : List UInt8) : List Buf :=
  match s.find? streamId with
  | some i => (s.pacers i).owed i s.forward.hand (taskHand s.task)
  | none => []

theorem accepted_eq {s : StationPacers} (h : PacersInv s) (streamId : List UInt8) :
    s.accepted.filter (ofStream streamId) =
      s.sent.filter (ofStream streamId) ++ waiting s streamId := by
  rw [waiting]
  cases hfind : s.find? streamId with
  | some i =>
      obtain ⟨hvalid, hstream⟩ := find?_spec hfind
      have hkept := h.kept.kept i hvalid
      rwa [hstream] at hkept
  | none =>
      rw [List.append_nil]
      exact h.kept.gone streamId (find?_none hfind)

theorem waiting_unpaced {s : StationPacers} {streamId : List UInt8}
    (h : ∀ i, (s.pacers i).valid = true → (s.pacers i).streamId ≠ streamId) :
    waiting s streamId = [] := by
  rw [waiting]
  cases hfind : s.find? streamId with
  | some i =>
      obtain ⟨hvalid, hstream⟩ := find?_spec hfind
      exact absurd hstream (h i hvalid)
  | none => rfl

/-- The pacers send nothing twice. -/
theorem count_sent_le {s : StationPacers} (h : PacersInv s) (f : Buf) :
    s.sent.count f ≤ s.accepted.count f := by
  have hself : ofStream (streamIdOf f) f = true := decide_eq_true rfl
  have hcount := congrArg (List.count f) (accepted_eq h (streamIdOf f))
  rw [List.count_append, List.count_filter hself, List.count_filter hself] at hcount
  omega

theorem mem_accepted_of_sent {s : StationPacers} (h : PacersInv s) {f : Buf} (hf : f ∈ s.sent) :
    f ∈ s.accepted := by
  have hpos := List.count_pos_iff.mpr hf
  exact List.count_pos_iff.mp (hpos.trans_le (count_sent_le h f))

/-- The wire has of each image at most what came in of it. -/
theorem Relays.toEth_subperm {s : BridgeRx cfg} {images : List Buf} (h : Relays s images) :
    s.toEth.Subperm images := by
  obtain ⟨entered, himages, hcount⟩ := h.entered
  rw [List.subperm_ext_iff]
  intro f _
  have hf := hcount f
  have hle := count_sent_le h.inv f
  rw [himages, List.count_append]
  omega

/-! ### The frames on either side -/

/-- What leaves differs from what came in at most in the destination of a tagged frame. -/
structure Relayed (received sent : Buf) : Prop where
  passes : received.passes = true
  same : sent = received ∨
    received.etherType = etherTypeVlan ∧ ∃ da, sent = received.readdress da

/-- The frame of a record of the Wi-Fi side that is no copy. -/
def relayed? : WifiTx → Option Buf
  | .frame octets => some octets
  | .bundled octets => some octets
  | .copy _ => none

/-- What the worker takes in of a step. -/
def arrival (s : BridgeRx cfg) : BridgeEvent cfg → List Buf
  | .wifi frame _ => if s.idle then [frame] else []
  | _ => []

def heardFrames (s : BridgeRx cfg) : List Buf := s.fromWifi.map Prod.snd

theorem heardFrames_step (h : cfg.TwoPorts) (s : BridgeRx cfg) (e : BridgeEvent cfg) :
    (bridgeStep s e).heardFrames = s.heardFrames ++ s.arrival e := by
  have hsame : ∀ {s' : BridgeRx cfg}, s'.fromWifi = s.fromWifi →
      s'.heardFrames = s.heardFrames ++ [] := by
    intro s' heq
    rw [heardFrames, heq, List.append_nil]
    rfl
  cases e with
  | mrp next => exact hsame rfl
  | recvCtrl => exact hsame rfl
  | pass us => exact hsame (heard_pacer s _).fromWifi
  | forward ok => exact hsame (heard_pacer s _).fromWifi
  | task armed => exact hsame (heard_pacer s _).fromWifi
  | alarm => exact hsame (heard_pacer s _).fromWifi
  | emac frame room bundled => exact hsame (emac_heard h s frame room bundled).2.1
  | wifi frame up =>
      rw [bridgeStep, arrival]
      split
      · set t : BridgeRx cfg := { s with fromWifi := s.fromWifi ++ [(s.nowUs, frame)] } with ht
        have hfrom : t.heardFrames = s.heardFrames ++ [frame] := by
          rw [heardFrames, ht, List.map_append]
          rfl
        rw [← hfrom]
        rcases t.receive_wifi h frame up with ⟨-, ctrlRx, heq⟩ | ⟨-, -, heq⟩ | ⟨-, -, heq⟩
        · rw [heq]
          rfl
        · rw [heq, heardFrames, (heard_offer t 0 (t.restored frame) up).fromWifi]
          rfl
        · rw [heq]
          rfl
      · exact hsame rfl

theorem Relayed.image {s : BridgeRx cfg} {e : BridgeEvent cfg} :
    ∃ received, received.Sublist (s.arrival e) ∧ List.Forall₂ Relayed received (s.image e) := by
  cases e with
  | wifi frame up =>
      rw [arrival, BridgeRx.image]
      by_cases hin : s.idle = true ∧ frame.passes = true
      · rw [if_pos hin, if_pos hin.1]
        exact ⟨[frame], .refl _, .cons ⟨hin.2, s.restored_cases frame⟩ .nil⟩
      · rw [if_neg hin]
        exact ⟨[], List.nil_sublist _, .nil⟩
  | _ => exact ⟨[], .refl _, .nil⟩

/-- No step but the arrival of a frame from Ethernet sends anything to Wi-Fi. -/
theorem Ready.toWifi (h : cfg.TwoPorts) {s : BridgeRx cfg} (hready : s.Ready) {e : BridgeEvent cfg}
    (he : ∀ frame room bundled, e ≠ .emac frame room bundled) :
    (bridgeStep s e).fromEth = s.fromEth ∧ (bridgeStep s e).toWifi = s.toWifi := by
  have hpacer : ∀ {pe : PacerEvent}, own pe = true →
      (s.pacer pe).fromEth = s.fromEth ∧ (s.pacer pe).toWifi = s.toWifi := by
    intro pe hown
    obtain ⟨-, -, -, -, -, -, hsame⟩ := hready.pacer h hown
    exact hsame
  cases e with
  | mrp next => exact ⟨rfl, rfl⟩
  | recvCtrl => exact ⟨rfl, rfl⟩
  | pass us => exact hpacer rfl
  | forward ok => exact hpacer rfl
  | task armed => exact hpacer rfl
  | alarm => exact hpacer rfl
  | emac frame room bundled => exact absurd rfl (he frame room bundled)
  | wifi frame up =>
      rw [bridgeStep]
      split
      · set t : BridgeRx cfg := { s with fromWifi := s.fromWifi ++ [(s.nowUs, frame)] } with ht
        rcases t.receive_wifi h frame up with ⟨-, ctrlRx, heq⟩ | ⟨-, -, heq⟩ | ⟨-, -, heq⟩
        · rw [heq]
          exact ⟨rfl, rfl⟩
        · rw [heq, offer]
          dsimp only
          split
          · rw [h.forward_eth]
            exact ⟨rfl, rfl⟩
          · exact ⟨rfl, rfl⟩
        · rw [heq]
          exact ⟨rfl, rfl⟩
      · exact ⟨rfl, rfl⟩

/-- What went to Wi-Fi came from Ethernet, in order and once each, and no Class A with it. -/
def WifiSide (s : BridgeRx cfg) : Prop :=
  ∃ received, received.Sublist s.fromEth ∧
    List.Forall₂ (fun r f => Relayed r f ∧ ClassAKept cfg r) received (s.toWifi.filterMap relayed?)

theorem WifiSide.step (h : cfg.TwoPorts) {s : BridgeRx cfg} (hready : s.Ready) (hside : s.WifiSide)
    (e : BridgeEvent cfg) : (bridgeStep s e).WifiSide := by
  by_cases hemac : ∀ frame room bundled, e ≠ .emac frame room bundled
  · obtain ⟨hfrom, hto⟩ := hready.toWifi h hemac
    rw [WifiSide, hfrom, hto]
    exact hside
  · push Not at hemac
    obtain ⟨frame, room, bundled, rfl⟩ := hemac
    obtain ⟨received, hsub, hall⟩ := hside
    simp only [bridgeStep]
    set t : BridgeRx cfg := { s with fromEth := s.fromEth ++ [frame] } with ht
    have hgoes : ∀ image, Relayed frame image → ClassAKept cfg frame →
        ∃ received, received.Sublist t.fromEth ∧
          List.Forall₂ (fun r f => Relayed r f ∧ ClassAKept cfg r) received
            (s.toWifi.filterMap relayed? ++ [image]) := by
      intro image hrelayed hclass
      exact ⟨received ++ [frame], hsub.append (.refl _),
        List.rel_append hall (.cons ⟨hrelayed, hclass⟩ .nil)⟩
    rcases t.receive_eth h frame room bundled with ⟨-, ctrlRx, heq⟩ |
      ⟨hpasses, htag, hclass, image, himage, hsent⟩ | ⟨hpasses, hclass, heq⟩
    · rw [heq]
      exact ⟨received, hsub.trans (List.sublist_append_left _ _), hall⟩
    · have hrelayed : Relayed frame image := by
        refine ⟨hpasses, ?_⟩
        rcases himage with hsame | hreaddressed
        · exact .inl hsame
        · exact .inr ⟨htag, hreaddressed⟩
      have hgoes := hgoes image hrelayed hclass
      rcases hsent with heq | heq
      · rw [heq, WifiSide, List.filterMap_append]
        exact hgoes
      · rw [heq, WifiSide, List.filterMap_append]
        exact hgoes
    · have hgoes := hgoes frame ⟨hpasses, .inl rfl⟩ hclass
      rw [heq, WifiSide, List.filterMap_append, List.filterMap_append]
      have hcopies : List.filterMap relayed? ((t.acmpCopy? frame).map WifiTx.copy).toList = [] := by
        cases t.acmpCopy? frame <;> rfl
      rw [hcopies, List.append_nil]
      exact hgoes

end BridgeRx

open BridgeRx in
/-- In any run, what leaves toward Wi-Fi is what came in from Ethernet, in order and once each, and the
other way what leaves is what came in, once each, as long as no pacer's queue overflows. It differs from
what came in at most in the destination of a tagged frame; PTP, MSRP and MVRP stay on their side, and
Class A stays off Wi-Fi unless it is let on. -/
theorem bridge_isolates {cfg : Config} (h : cfg.TwoPorts) (lite : Bool)
    (events : List (BridgeEvent cfg)) :
    let s := Machine.run bridgeStep (init cfg lite) events
    (∃ received, received.Sublist s.fromEth ∧
      List.Forall₂ (fun r f => Relayed r f ∧ ClassAKept cfg r) received
        (s.toWifi.filterMap relayed?)) ∧
    (Machine.RunMeets NoOverflow bridgeStep (init cfg lite) events →
      ∃ received images, received.Sublist s.heardFrames ∧ List.Forall₂ Relayed received images ∧
        s.toEth.Subperm images) := by
  intro s
  constructor
  · have hside := Machine.run_invariant (fun s : BridgeRx cfg => s.Ready ∧ s.WifiSide)
      (fun s e hs => ⟨(hs.1.step h e).choose_spec.choose_spec.choose_spec.2.1, hs.2.step h hs.1 e⟩)
      ⟨(Relays.init lite).ready, [], .refl _, .nil⟩ events
    exact hside.2
  · intro hroom
    have hrelays := hroom.invariant
      (fun s : BridgeRx cfg => ∃ received images, received.Sublist s.heardFrames ∧
        List.Forall₂ Relayed received images ∧ Relays s images)
      (fun s e he hs => by
        obtain ⟨received, images, hsub, hall, hrelays⟩ := hs
        obtain ⟨more, hmore, hmoreAll⟩ := @Relayed.image cfg s e
        refine ⟨received ++ more, images ++ s.image e, ?_, List.rel_append hall hmoreAll,
          hrelays.step h e he⟩
        rw [heardFrames_step h]
        exact hsub.append hmore)
      ⟨[], [], .refl _, .nil, .init lite⟩
    obtain ⟨received, images, hsub, hall, hrelays⟩ := hrelays
    exact ⟨received, images, hsub, hall, hrelays.toEth_subperm⟩

/-! ## A station's stream -/

namespace BridgeRx

variable {cfg : Config}

/-- A frame of the stream comes individually addressed, while its Talker Advertise is registered and
names the destination `da`. -/
def Steady (streamId : List UInt8) (da : EthAddr) (s : BridgeRx cfg) : BridgeEvent cfg → Prop
  | .wifi frame _ => isStream streamId frame = true → frame.isGroup = false ∧
      s.stationTspec frame ≠ none ∧
      msrpWifiUcastLookupStream s.mrp (Octets.read 8 (frame.drop 22)) = some da
  | _ => True

instance Steady.decidable (streamId : List UInt8) (da : EthAddr) (s : BridgeRx cfg)
    (e : BridgeEvent cfg) : Decidable (Steady streamId da s e) :=
  match e with
  | .wifi frame _ => inferInstanceAs (Decidable (isStream streamId frame = true → _ ∧ _ ∧ _))
  | .mrp _ | .emac _ _ _ | .pass _ | .forward _ | .task _ | .alarm | .recvCtrl =>
      inferInstanceAs (Decidable True)

theorem isStream_spec {streamId : List UInt8} {frame : Buf} (h : isStream streamId frame = true) :
    frame.etherType = etherTypeVlan ∧ isStationStream frame = true ∧ streamIdOf frame = streamId := by
  rw [isStream, Bool.and_eq_true, Bool.and_eq_true] at h
  exact ⟨of_decide_eq_true h.1.1, h.1.2, of_decide_eq_true h.2⟩

theorem isStationStream_spec {frame : Buf} (h : isStationStream frame = true) :
    30 ≤ frame.length ∧ octetAt frame 16 = 0x22 ∧ octetAt frame 17 = 0xf0 := by
  rw [isStationStream, decide_eq_true_eq] at h
  exact ⟨h.1, h.2.2.1, h.2.2.2.1⟩

theorem length_readdress {frame : Buf} (da : EthAddr) (h : 6 ≤ frame.length) :
    (frame.readdress da).length = frame.length := by
  rw [Buf.readdress, List.length_append, da.length_eq, List.length_drop]
  omega

theorem isStream_readdress {streamId : List UInt8} {frame : Buf} (da : EthAddr)
    (h : 6 ≤ frame.length) : isStream streamId (frame.readdress da) = isStream streamId frame := by
  have hat : ∀ i, octetAt (frame.readdress da) (6 + i) = octetAt frame (6 + i) :=
    Buf.octetAt_readdress frame da
  have hid : streamIdOf (frame.readdress da) = streamIdOf frame :=
    congrArg (List.take 8) (Buf.drop_readdress frame da 16)
  rw [isStream, isStream, isStationStream, isStationStream, ofStream, ofStream,
    Buf.etherType_readdress, length_readdress da h, hat 10, hat 11, hat 12, hat 13, hid]

theorem passes_of_isStream {streamId : List UInt8} {frame : Buf}
    (h : isStream streamId frame = true) : frame.passes = true := by
  obtain ⟨htag, hstream, -⟩ := isStream_spec h
  obtain ⟨hlen, hhigh, hlow⟩ := isStationStream_spec hstream
  have huntag : untagPtp frame = frame := by
    rw [untagPtp, if_neg]
    rintro ⟨-, -, hptp, -⟩
    rw [hhigh] at hptp
    cases hptp
  have hlong : ethHeaderLen ≤ frame.length := by
    rw [ethHeaderLen]
    omega
  rw [Buf.passes, huntag, Buf.terminated, htag, decide_eq_true hlong]
  rfl

/-- What comes in of the stream, with the destination its talker advertised. -/
theorem image_isStream {s : BridgeRx cfg} {e : BridgeEvent cfg} {streamId : List UInt8} {da : EthAddr}
    (hunicast : cfg.wifiUnicastStreams = true) (hsteady : Steady streamId da s e) :
    (s.image e).filter (isStream streamId) =
      ((s.arrival e).filter (isStream streamId)).map (Buf.readdress · da) := by
  cases e with
  | wifi frame up =>
      rw [image, arrival]
      cases hstream : isStream streamId frame with
      | true =>
          obtain ⟨hgroup, -, hlookup⟩ := hsteady hstream
          obtain ⟨htag, hstation, -⟩ := isStream_spec hstream
          obtain ⟨hlen, hhigh, hlow⟩ := isStationStream_spec hstation
          have hrestored : s.restored frame = frame.readdress da := by
            rw [restored, if_pos ⟨hunicast, htag, hlen, hhigh, hlow, by rw [hgroup]; rfl⟩, hlookup]
            rfl
          have hsame := @isStream_readdress streamId frame da (by omega)
          by_cases hidle : s.idle = true
          · rw [if_pos ⟨hidle, passes_of_isStream hstream⟩, if_pos hidle, hrestored]
            simp only [List.filter_cons, hsame, hstream, if_true, List.filter_nil, List.map_cons,
              List.map_nil]
          · rw [if_neg fun hin => hidle hin.1, if_neg hidle]
            rfl
      | false =>
          have hnot : (if s.idle = true then [frame] else []).filter (isStream streamId) = [] := by
            split
            · simp only [List.filter_cons, hstream, Bool.false_eq_true, if_false, List.filter_nil]
            · rfl
          rw [hnot]
          split
          · rename_i hin
            have hlen := Buf.length_of_passes hin.2
            have hrestored : isStream streamId (s.restored frame) = false := by
              rcases s.restored_cases frame with heq | ⟨-, da', heq⟩
              · rw [heq, hstream]
              · rw [heq, isStream_readdress da' (by simp only [ethHeaderLen] at hlen; omega), hstream]
            simp only [List.filter_cons, hrestored, Bool.false_eq_true, if_false, List.filter_nil,
              List.map_nil]
          · rfl
  | _ => rfl

/-- The frames of the stream that have come past the worker's hand are those on the wire and those that
its pacer owes. -/
def StreamKept (streamId : List UInt8) (s : BridgeRx cfg) (images : List Buf) : Prop :=
  ∃ entered, images = entered ++ s.pacers.forward.offered ∧
    entered.filter (isStream streamId) =
      s.toEth.filter (isStream streamId) ++ waiting s.pacers streamId

/-- Of frames that are stream data all, those of a stream are told by its ID. -/
theorem filter_isStream {frames : List Buf} (streamId : List UInt8)
    (h : ∀ f ∈ frames, Buf.etherType f = etherTypeVlan ∧ isStationStream f = true) :
    frames.filter (isStream streamId) = frames.filter (ofStream streamId) := by
  refine List.filter_congr fun f hf => ?_
  obtain ⟨htag, hstation⟩ := h f hf
  rw [isStream, htag, hstation]
  rfl

theorem tspec_of_image {s : BridgeRx cfg} {e : BridgeEvent cfg} {streamId : List UInt8} {da : EthAddr}
    (hsteady : Steady streamId da s e) {f : Buf} (hf : f ∈ s.image e)
    (hstream : isStream streamId f = true) : s.stationTspec f ≠ none := by
  cases e with
  | wifi frame up =>
      rw [image] at hf
      split at hf
      · rename_i hin
        have hlen := Buf.length_of_passes hin.2
        rw [List.mem_singleton.mp hf] at hstream ⊢
        rcases s.restored_cases frame with heq | ⟨-, da', heq⟩
        · rw [heq] at hstream ⊢
          exact (hsteady hstream).2.1
        · rw [heq, isStream_readdress da' (by simp only [ethHeaderLen] at hlen; omega)] at hstream
          have hdrop : (frame.readdress da').drop 22 = frame.drop 22 := Buf.drop_readdress frame da' 16
          rw [heq, stationTspec, hdrop]
          exact (hsteady hstream).2.1
      · cases hf
  | _ => cases hf

theorem StreamKept.step (h : cfg.TwoPorts) {s : BridgeRx cfg} {images : List Buf}
    {streamId : List UInt8} {da : EthAddr} (hrelays : Relays s images)
    (hkept : StreamKept streamId s images) (e : BridgeEvent cfg) (hroom : s.NoOverflow e)
    (hsteady : Steady streamId da s e) :
    StreamKept streamId (bridgeStep s e) (images ++ s.image e) := by
  have hrelays' := hrelays.step h e hroom
  obtain ⟨direct, sent, taken, hcrossed, hready, -⟩ := hrelays.ready.step h e
  obtain ⟨entered, himages, hentered⟩ := hkept
  refine ⟨entered ++ taken ++ direct, ?_, ?_⟩
  · calc images ++ s.image e = entered ++ (s.pacers.forward.offered ++ s.image e) := by
          rw [himages, List.append_assoc]
      _ = entered ++ (taken ++ direct ++ (bridgeStep s e).pacers.forward.offered) := by
          rw [hcrossed.offered]
      _ = entered ++ taken ++ direct ++ (bridgeStep s e).pacers.forward.offered := by
          simp only [List.append_assoc]
  · have hold := accepted_eq hrelays.inv streamId
    have hnew := accepted_eq hrelays'.inv streamId
    rw [hcrossed.accepted, sent_of_transmitted hcrossed.transmitted, List.filter_append,
      List.filter_append, hold, List.append_assoc, List.append_assoc] at hnew
    have hmoves : waiting s.pacers streamId ++ taken.filter (ofStream streamId) =
        (sent.map PacedFrame.octets).filter (ofStream streamId) ++
          waiting (bridgeStep s e).pacers streamId := List.append_cancel_left hnew
    have htaken : taken.filter (isStream streamId) = taken.filter (ofStream streamId) := by
      refine filter_isStream streamId fun f hf => hready.streams f ?_
      rw [hcrossed.accepted]
      exact List.mem_append_left _ (List.mem_append_right _ hf)
    have hsent : (sent.map PacedFrame.octets).filter (isStream streamId) =
        (sent.map PacedFrame.octets).filter (ofStream streamId) := by
      refine filter_isStream streamId fun f hf => hready.streams f (List.mem_append_left _ ?_)
      apply mem_accepted_of_sent hrelays'.inv
      rw [sent_of_transmitted hcrossed.transmitted]
      exact List.mem_append_right _ hf
    -- a frame of the stream that passes the pacers by finds nothing of it there
    have hdirect : waiting (bridgeStep s e).pacers streamId ++ direct.filter (isStream streamId) =
        direct.filter (isStream streamId) ++ waiting (bridgeStep s e).pacers streamId := by
      cases hpast : direct.filter (isStream streamId) with
      | nil => rw [List.append_nil, List.nil_append]
      | cons f rest =>
          have hmem : f ∈ direct.filter (isStream streamId) := by
            rw [hpast]
            exact List.mem_cons_self
          obtain ⟨hf, hstream⟩ := List.mem_filter.mp hmem
          obtain ⟨htag, hstation, hid⟩ := isStream_spec hstream
          have hnone : waiting s.pacers streamId = [] := by
            refine waiting_unpaced fun i hvalid => ?_
            rw [← hid]
            exact hcrossed.unpaced f hf htag hstation
              (fun himage => tspec_of_image hsteady himage hstream) i hvalid
          obtain ⟨hnosent, hnotaken⟩ := hcrossed.alone (List.ne_nil_of_mem hf)
          rw [hnosent, hnotaken, hnone] at hmoves
          have hempty : waiting (bridgeStep s e).pacers streamId = [] := hmoves.symm
          rw [hempty, List.append_nil, List.nil_append]
    calc (entered ++ taken ++ direct).filter (isStream streamId) =
          s.toEth.filter (isStream streamId) ++ (waiting s.pacers streamId ++
            taken.filter (ofStream streamId)) ++ direct.filter (isStream streamId) := by
          rw [List.filter_append, List.filter_append, hentered, htaken, List.append_assoc _ _ (List.filter _ taken)]
      _ = s.toEth.filter (isStream streamId) ++
            (sent.map PacedFrame.octets).filter (ofStream streamId) ++
            (waiting (bridgeStep s e).pacers streamId ++ direct.filter (isStream streamId)) := by
          rw [hmoves]
          simp only [List.append_assoc]
      _ = (bridgeStep s e).toEth.filter (isStream streamId) ++
            waiting (bridgeStep s e).pacers streamId := by
          rw [hdirect, hcrossed.toEth, List.filter_append, List.filter_append, hsent]
          simp only [List.append_assoc]

end BridgeRx

open BridgeRx in
/-- A reserved stream of a station crosses the bridge whole and in order. In every run in which no
pacer's queue overflows, the frames of the stream on the Ethernet wire, then those its pacer owes, then
the one in the worker's hand are the frames of the stream that came in, each with the destination that
its talker advertised. -/
theorem station_stream_crosses {cfg : Config} (h : cfg.TwoPorts)
    (hunicast : cfg.wifiUnicastStreams = true) (lite : Bool) (streamId : List UInt8) (da : EthAddr)
    (events : List (BridgeEvent cfg))
    (hroom : Machine.RunMeets NoOverflow bridgeStep (BridgeRx.init cfg lite) events)
    (hsteady :
      Machine.RunMeets (BridgeRx.Steady streamId da) bridgeStep (BridgeRx.init cfg lite) events) :
    let s := Machine.run bridgeStep (BridgeRx.init cfg lite) events
    s.toEth.filter (isStream streamId) ++ waiting s.pacers streamId ++
        s.pacers.forward.offered.filter (isStream streamId) =
      (s.heardFrames.filter (isStream streamId)).map (Buf.readdress · da) := by
  intro s
  have hrun := (hroom.and hsteady).invariant
    (fun s : BridgeRx cfg =>
      ∃ images, Relays s images ∧ BridgeRx.StreamKept streamId s images ∧
      images.filter (isStream streamId) =
        (s.heardFrames.filter (isStream streamId)).map (Buf.readdress · da))
    (fun s e he hs => by
      obtain ⟨images, hrelays, hkept, hfilter⟩ := hs
      refine ⟨images ++ s.image e, hrelays.step h e he.1, hkept.step h hrelays e he.1 he.2, ?_⟩
      rw [heardFrames_step h, List.filter_append, List.filter_append, List.map_append, hfilter,
        image_isStream hunicast he.2])
    ⟨[], .init lite, ⟨[], rfl, rfl⟩, rfl⟩
  obtain ⟨images, -, ⟨entered, himages, hentered⟩, hfilter⟩ := hrun
  rw [← hfilter, himages, List.filter_append, hentered]

/-! ### A run -/

/-- A wireless talker of stream 1 is registered, and the tables of the data plane are made. -/
def stationReserved : AvbState wifiBridge :=
  let wifi : wifiBridge.Port := ⟨1, Nat.one_lt_two⟩
  let info : TalkerAdvInfo :=
    { TalkerAdvInfo.zero with
      streamId := .ofNat 8 1
      streamDestAddr := .ofNat 6 0x91e0f0000001
      tspecMaxFrameSize := .ofNat 2 64
      tspecMaxFrameInterval := .ofNat 2 1
      priority := 2 }
  let talker : MsrpDispatch :=
    .talker .talkerAdvertise { MsrpTalkerMessage.zero with info, event := intTo3pe 3 0 0 }
  msrpWifiUcastRefresh (avbRun false [.receive wifi (some (.ofNat 6 0x0c)) talker]) (some wifi)

/-- A Class B frame of stream 1 as the station sends it, told apart by its sequence number. -/
def uplinkFrame (sequence : UInt8) : Buf :=
  [0x02, 0, 0, 0, 0, 0x0a, 0x00, 0, 0, 0, 0, 0x0c, 0x81, 0x00, 0x40, 0x02, 0x22, 0xf0, 0x02, 0x80,
    sequence, 0, 0, 0, 0, 0, 0, 0, 0, 1, 0, 0]

/-- The first frame finds no queue and goes past the pacers, the second straight through its pacer, and
the third waits there. An ARP frame and an MSRP frame come from the wire. -/
def uplinkRun : List (BridgeEvent wifiBridge) :=
  [.pass 1000, .mrp stationReserved, .wifi (uplinkFrame 0) true, .forward true,
      .emac (List.replicate 12 0xff ++ [0x08, 0x06, 0]) true false, .wifi (uplinkFrame 1) true] ++
    List.replicate 9 (.forward true) ++
    [.emac (List.replicate 12 0xff ++ [0x22, 0xea, 0]) true false, .wifi (uplinkFrame 2) true] ++
    List.replicate 4 (.forward true)

theorem station_stream_crosses_uplinkRun :
    let s := Machine.run bridgeStep (BridgeRx.init wifiBridge false) uplinkRun
    let da : EthAddr := .ofNat 6 0x91e0f0000001
    s.toEth = [(uplinkFrame 0).readdress da, (uplinkFrame 1).readdress da] ∧
      s.toEth.filter (BridgeRx.isStream (Octets.ofNat 8 1).bytes) ++
          BridgeRx.waiting s.pacers (Octets.ofNat 8 1).bytes ++
          s.pacers.forward.offered.filter (BridgeRx.isStream (Octets.ofNat 8 1).bytes) =
        [(uplinkFrame 0).readdress da, (uplinkFrame 1).readdress da,
          (uplinkFrame 2).readdress da] := by
  intro s da
  have hcrosses := station_stream_crosses wifiBridge_twoPorts rfl false (Octets.ofNat 8 1).bytes da
    uplinkRun (by decide +kernel) (by decide +kernel)
  have hheard : s.heardFrames.filter (BridgeRx.isStream (Octets.ofNat 8 1).bytes) =
      [uplinkFrame 0, uplinkFrame 1, uplinkFrame 2] := by decide +kernel
  refine ⟨by decide +kernel, ?_⟩
  rw [hcrosses, hheard]
  rfl

theorem bridge_isolates_uplinkRun :
    let s := Machine.run bridgeStep (BridgeRx.init wifiBridge false) uplinkRun
    s.toEth.length = 2 ∧ s.toWifi.length = 1 ∧
    (∃ received, received.Sublist s.fromEth ∧
      List.Forall₂ (fun r f => BridgeRx.Relayed r f ∧ BridgeRx.ClassAKept wifiBridge r) received
        (s.toWifi.filterMap BridgeRx.relayed?)) ∧
    ∃ received images, received.Sublist s.heardFrames ∧
      List.Forall₂ BridgeRx.Relayed received images ∧ s.toEth.Subperm images := by
  intro s
  obtain ⟨htoWifi, htoEth⟩ := bridge_isolates wifiBridge_twoPorts false uplinkRun
  exact ⟨by decide +kernel, by decide +kernel, htoWifi, htoEth (by decide +kernel)⟩

end EspAvb
