import EspAvb.Proof.StationPacer

/-!
# The station pacer keeps a stream's frames apart

The send times of a stream, with the time noted for a frame in flight, are spaced by the stream's
interval as long as each frame goes out at the time that was noted for it.
-/

namespace EspAvb

/-! ## Send times -/

/-- The time noted for a frame that is to be transmitted. -/
def PacerHand.noted (j : PacerIndex) : PacerHand → List Nat
  | .slot i _ _ nowNs => if i = j then [nowNs] else []
  | .own i _ nowNs => if i = j then [nowNs] else []
  | _ => []

namespace PacerHand

@[simp]
theorem noted_free (j : PacerIndex) : PacerHand.free.noted j = [] := rfl

@[simp]
theorem noted_landing (i j : PacerIndex) : (PacerHand.landing i).noted j = [] := rfl

@[simp]
theorem noted_slot_self (i : PacerIndex) (place len nowNs : Nat) :
    (PacerHand.slot i place len nowNs).noted i = [nowNs] := if_pos rfl

@[simp]
theorem noted_own_self (i : PacerIndex) (frame : List UInt8) (nowNs : Nat) :
    (PacerHand.own i frame nowNs).noted i = [nowNs] := if_pos rfl

theorem noted_of_not_flying {hand : PacerHand} {j : PacerIndex} (h : hand.flying j = false) :
    hand.noted j = [] := by
  cases hand with
  | slot i place len nowNs => exact if_neg (of_decide_eq_false h)
  | own i frame nowNs => exact if_neg (of_decide_eq_false h)
  | _ => rfl

end PacerHand

def streamTimes (streamId : List UInt8) (transmitted : List PacedFrame) : List Nat :=
  (transmitted.filter fun frame => ofStream streamId frame.octets).map PacedFrame.timeNs

@[simp]
theorem streamTimes_nil (streamId : List UInt8) : streamTimes streamId [] = [] := rfl

theorem streamTimes_append (streamId : List UInt8) (first second : List PacedFrame) :
    streamTimes streamId (first ++ second) = streamTimes streamId first ++ streamTimes streamId second := by
  rw [streamTimes, List.filter_append, List.map_append, streamTimes, streamTimes]

theorem streamTimes_single {streamId : List UInt8} {frame : PacedFrame}
    (h : streamIdOf frame.octets = streamId) : streamTimes streamId [frame] = [frame.timeNs] := by
  simp [streamTimes, ofStream, h]

theorem streamTimes_other {streamId streamId' : List UInt8} {frames : List PacedFrame}
    (h : ∀ frame ∈ frames, streamIdOf frame.octets = streamId') (hne : streamId' ≠ streamId) :
    streamTimes streamId frames = [] := by
  rw [streamTimes, List.filter_eq_nil_iff.mpr, List.map_nil]
  intro frame hframe hstream
  exact hne ((h frame hframe).symm.trans (of_decide_eq_true hstream))

/-! ## One stream -/

section Stream

variable {streamId : List UInt8} {interval window clock : Nat}

/-- The times are apart, and the pacer's history holds the last of them; an entry just taken over has
no history, and needs none. -/
structure StreamPaced (interval window clock : Nat) (pacer : StationPacer) (times : List Nat) :
    Prop where
  spaced : SlotRing.Spaced window interval times
  sorted : times.Pairwise (· ≤ ·)
  past : ∀ t ∈ times, t ≤ clock
  history :
    (pacer.maxFrames = window ∧ pacer.intervalNs = interval ∧ pacer.sentIdx < window ∧
      SlotRing.Recorded window interval clock pacer.sentNs pacer.sentIdx times) ∨
    (pacer.maxFrames = 0 ∧ pacer.count = 0 ∧ ∀ t ∈ times, t + interval ≤ clock)

theorem StreamPaced.mono {pacer : StationPacer} {times : List Nat}
    (h : StreamPaced interval window clock pacer times) {clock' : Nat} (hle : clock ≤ clock') :
    StreamPaced interval window clock' pacer times :=
  { spaced := h.spaced
    sorted := h.sorted
    past := fun t ht => (h.past t ht).trans hle
    history := h.history.imp
      (fun ⟨hframes, hinterval, hidx, hrecorded⟩ =>
        ⟨hframes, hinterval, hidx, hrecorded.mono hle⟩)
      fun ⟨hframes, hcount, hold⟩ => ⟨hframes, hcount, fun t ht => (hold t ht).trans hle⟩ }

/-- A frame sent in its turn. -/
theorem StreamPaced.note {pacer : StationPacer} {times : List Nat}
    (h : StreamPaced interval window clock pacer times) (hframes : pacer.maxFrames ≠ 0)
    (hturn : stationPacerNextNs pacer ≤ clock) {pacer' : StationPacer}
    (hpacer : pacer'.maxFrames = pacer.maxFrames ∧ pacer'.intervalNs = pacer.intervalNs ∧
      pacer'.sentNs = Function.update pacer.sentNs pacer.sentIdx clock ∧
      pacer'.sentIdx = (pacer.sentIdx + 1) % pacer.maxFrames) :
    StreamPaced interval window clock pacer' (times ++ [clock]) := by
  obtain ⟨hwindow, hinterval, hidx, hrecorded⟩ | ⟨hzero, -⟩ := h.history
  · obtain ⟨hframes', hinterval', hsent', hidx'⟩ := hpacer
    rw [stationPacerNextNs, hinterval] at hturn
    refine ⟨h.spaced.push hrecorded hidx hturn, ?_, ?_, Or.inl ⟨?_, ?_, ?_, ?_⟩⟩
    · refine List.pairwise_append.mpr ⟨h.sorted, List.pairwise_singleton _ _, ?_⟩
      intro t ht t' ht'
      rw [List.mem_singleton.mp ht']
      exact h.past t ht
    · intro t ht
      obtain hmem | hmem := List.mem_append.mp ht
      · exact h.past t hmem
      · exact (List.mem_singleton.mp hmem).le
    · rw [hframes', hwindow]
    · rw [hinterval', hinterval]
    · rw [hidx', hwindow]
      exact Nat.mod_lt _ (by omega)
    · rw [hsent', hidx', hwindow]
      exact hrecorded.push hidx
  · exact absurd hzero hframes

/-- What the pacers hold of one stream's history. -/
structure PacedKept (streamId : List UInt8) (interval window clock : Nat)
    (pacers : PacerIndex → StationPacer) (transmitted : List PacedFrame) (hand other : PacerHand) :
    Prop where
  live : ∀ i, (pacers i).valid = true → (pacers i).streamId = streamId →
    StreamPaced interval window clock (pacers i)
      (streamTimes streamId transmitted ++ (hand.noted i ++ other.noted i))
  gone : (∀ i, (pacers i).valid = true → (pacers i).streamId ≠ streamId) →
    SlotRing.Spaced window interval (streamTimes streamId transmitted) ∧
      (streamTimes streamId transmitted).Pairwise (· ≤ ·) ∧
      ∀ t ∈ streamTimes streamId transmitted, t + interval ≤ clock

namespace PacedKept

variable {pacers : PacerIndex → StationPacer} {transmitted : List PacedFrame}
  {accepted sent : List (List UInt8)} {hand other : PacerHand} {i : PacerIndex}

theorem swap (h : PacedKept streamId interval window clock pacers transmitted hand other)
    (hkept : PacersKept pacers accepted sent hand other) :
    PacedKept streamId interval window clock pacers transmitted other hand := by
  refine ⟨?_, h.gone⟩
  intro i hvalid hstream
  have hlive := h.live i hvalid hstream
  cases hfly : hand.flying i with
  | false =>
      rw [PacerHand.noted_of_not_flying hfly, List.nil_append] at hlive
      rw [PacerHand.noted_of_not_flying hfly, List.append_nil]
      exact hlive
  | true =>
      have hother := ((hkept.ok i).other_free hfly).1
      rw [PacerHand.noted_of_not_flying hother, List.append_nil] at hlive
      rw [PacerHand.noted_of_not_flying hother, List.nil_append]
      exact hlive

/-- One pacer changes, with what is in one hand and what goes out of its stream. -/
theorem move (h : PacedKept streamId interval window clock pacers transmitted hand other)
    (hkept : PacersKept pacers accepted sent hand other) {pacer : StationPacer} {hand' : PacerHand}
    {frames : List PacedFrame} (hhand : hand.At i)
    (hhand' : hand'.At i) (hvalid : (pacers i).valid = true) (hvalid' : pacer.valid = true)
    (hstream : pacer.streamId = (pacers i).streamId)
    (hframes : ∀ frame ∈ frames, streamIdOf frame.octets = (pacers i).streamId)
    (hpaced : (pacers i).streamId = streamId →
      StreamPaced interval window clock (pacers i)
        (streamTimes streamId transmitted ++ (hand.noted i ++ other.noted i)) →
      StreamPaced interval window clock pacer
        (streamTimes streamId transmitted ++ streamTimes streamId frames ++
          (hand'.noted i ++ other.noted i))) :
    PacedKept streamId interval window clock (Function.update pacers i pacer) (transmitted ++ frames)
      hand' other := by
  refine ⟨?_, ?_⟩
  · intro j hj hjstream
    by_cases hji : j = i
    · subst hji
      rw [Function.update_self] at hj hjstream ⊢
      rw [hstream] at hjstream
      rw [streamTimes_append]
      exact hpaced hjstream (h.live j hvalid hjstream)
    · rw [Function.update_of_ne hji] at hj hjstream ⊢
      have hlive := h.live j hj hjstream
      rw [PacerHand.noted_of_not_flying (hhand j hji)] at hlive
      rw [PacerHand.noted_of_not_flying (hhand' j hji), streamTimes_append]
      have hne : (pacers i).streamId ≠ streamId := fun hsame =>
        hji (hkept.unique j i hj hvalid (hjstream.trans hsame.symm))
      rw [streamTimes_other hframes hne, List.append_nil]
      exact hlive
  · intro hnone
    have hne : (pacers i).streamId ≠ streamId := by
      have hi := hnone i
      rw [Function.update_self, hstream] at hi
      exact hi hvalid'
    rw [streamTimes_append, streamTimes_other hframes hne, List.append_nil]
    apply h.gone
    intro j hj
    by_cases hji : j = i
    · rw [hji]
      exact hne
    · have hold := hnone j
      rw [Function.update_of_ne hji] at hold
      exact hold hj

theorem mono (h : PacedKept streamId interval window clock pacers transmitted hand other)
    {clock' : Nat} (hle : clock ≤ clock') :
    PacedKept streamId interval window clock' pacers transmitted hand other := by
  refine ⟨fun i hvalid hstream => (h.live i hvalid hstream).mono hle, fun hnone => ?_⟩
  obtain ⟨hspaced, hsorted, hold⟩ := h.gone hnone
  exact ⟨hspaced, hsorted, fun t ht => (hold t ht).trans hle⟩

/-- A send is decided on, at the time it is decided. -/
theorem note (h : PacedKept streamId interval window clock pacers transmitted .free other)
    (hkept : PacersKept pacers accepted sent .free other) {pacer : StationPacer} {hand' : PacerHand}
    (hhand' : hand'.At i) (hnoted : hand'.noted i = [clock]) (hvalid : (pacers i).valid = true)
    (hcalm : (pacers i).inFlight = 0)
    (hframes : (pacers i).streamId = streamId → (pacers i).maxFrames ≠ 0)
    (hturn : stationPacerNextNs (pacers i) ≤ clock)
    (hpacer : pacer.valid = true ∧ pacer.streamId = (pacers i).streamId ∧
      pacer.maxFrames = (pacers i).maxFrames ∧ pacer.intervalNs = (pacers i).intervalNs ∧
      pacer.sentNs = Function.update (pacers i).sentNs (pacers i).sentIdx clock ∧
      pacer.sentIdx = ((pacers i).sentIdx + 1) % (pacers i).maxFrames) :
    PacedKept streamId interval window clock (Function.update pacers i pacer) transmitted hand'
      other := by
  obtain ⟨hvalid', hstream', hnote⟩ := hpacer
  have hother := ((hkept.ok i).not_flying hcalm).2
  have hmove := @move streamId interval window clock pacers transmitted accepted sent .free other i h
    hkept pacer hand' [] PacersKept.at_free hhand' hvalid hvalid' hstream' (by simp) ?_
  · rw [List.append_nil] at hmove
    exact hmove
  · intro hstream hlive
    rw [PacerHand.noted_free, PacerHand.noted_of_not_flying hother, List.append_nil,
      List.append_nil] at hlive
    rw [hnoted, PacerHand.noted_of_not_flying hother, List.append_nil, streamTimes_nil,
      List.append_nil]
    exact hlive.note (hframes hstream) hturn hnote

/-- What is in the hand goes out at the time noted for it. -/
theorem transmit (h : PacedKept streamId interval window clock pacers transmitted hand other)
    (hkept : PacersKept pacers accepted sent hand other) {frame : PacedFrame} (hhand : hand.At i)
    (hfly : hand.flying i = true) (hoctets : hand.octets (pacers i) i = [frame.octets])
    (hnoted : hand.noted i = [frame.timeNs]) :
    PacedKept streamId interval window clock pacers (transmitted ++ [frame]) (.landing i) other := by
  have hvalid := hkept.valid_of_flying hfly
  have hother := ((hkept.ok i).other_free hfly).1
  have hstream : streamIdOf frame.octets = (pacers i).streamId := by
    apply hkept.streamIdOf_owed hvalid
    rw [StationPacer.owed, hoctets]
    exact List.mem_append_left _ (List.mem_append_left _ (List.mem_singleton.mpr rfl))
  have hmove := @move streamId interval window clock pacers transmitted accepted sent hand other i h
    hkept (pacers i) (.landing i) [frame] hhand PacersKept.at_landing hvalid hvalid rfl
    (by simpa using hstream) ?_
  · rw [Function.update_eq_self] at hmove
    exact hmove
  · intro hsame hlive
    rw [hnoted, PacerHand.noted_of_not_flying hother, List.append_nil] at hlive
    rw [PacerHand.noted_landing, PacerHand.noted_of_not_flying hother, List.append_nil,
      List.append_nil, streamTimes_single (hstream.trans hsame)]
    exact hlive

/-- A pacer whose stream keeps its history. -/
theorem refresh (h : PacedKept streamId interval window clock pacers transmitted hand other)
    (hkept : PacersKept pacers accepted sent hand other) {pacer : StationPacer} {hand' : PacerHand}
    (hhand : hand.At i) (hhand' : hand'.At i) (hnoted : hand.noted i = hand'.noted i)
    (hvalid : (pacers i).valid = true) (hvalid' : pacer.valid = true)
    (hstream : pacer.streamId = (pacers i).streamId)
    (hpaced : (pacers i).streamId = streamId → ∀ times,
      StreamPaced interval window clock (pacers i) times →
      StreamPaced interval window clock pacer times) :
    PacedKept streamId interval window clock (Function.update pacers i pacer) transmitted hand'
      other := by
  have hmove := @move streamId interval window clock pacers transmitted accepted sent hand other i h
    hkept pacer hand' [] hhand hhand' hvalid hvalid' hstream (by simp) ?_
  · rw [List.append_nil] at hmove
    exact hmove
  · intro hsame hlive
    rw [← hnoted, streamTimes_nil, List.append_nil]
    exact hpaced hsame _ hlive

/-- An entry is taken over. -/
theorem claim (h : PacedKept streamId interval window clock pacers transmitted hand other)
    (hkept : PacersKept pacers accepted sent hand other) {newId : List UInt8}
    (hspare : (pacers i).valid = false ∨ (pacers i).count = 0 ∧ (pacers i).inFlight = 0)
    (hfresh : ∀ j, (pacers j).valid = true → (pacers j).streamId ≠ newId) (hwindow : 0 < window)
    (hold : (pacers i).valid = true → ∀ j < window,
      (pacers i).sentNs j + (pacers i).intervalNs ≤ clock) :
    PacedKept streamId interval window clock
      (Function.update pacers i ((pacers i).claim newId)) transmitted hand other := by
  have hidle : (pacers i).count = 0 ∧ (pacers i).inFlight = 0 :=
    hspare.elim (hkept.ok i).unused id
  obtain ⟨hhand, hother⟩ := (hkept.ok i).not_flying hidle.2
  have hgone : (pacers i).streamId = streamId ∧ (pacers i).valid = true ∨
      (∀ j, (pacers j).valid = true → (pacers j).streamId ≠ streamId) →
      SlotRing.Spaced window interval (streamTimes streamId transmitted) ∧
        (streamTimes streamId transmitted).Pairwise (· ≤ ·) ∧
        ∀ t ∈ streamTimes streamId transmitted, t + interval ≤ clock := by
    rintro (⟨hstream, hvalid⟩ | hnone)
    · have hlive := h.live i hvalid hstream
      rw [PacerHand.noted_of_not_flying hhand, PacerHand.noted_of_not_flying hother,
        List.append_nil, List.append_nil] at hlive
      refine ⟨hlive.spaced, hlive.sorted, ?_⟩
      obtain ⟨-, hinterval, -, hrecorded⟩ | ⟨-, -, hsettled⟩ := hlive.history
      · apply hrecorded.old hlive.sorted hwindow
        intro j hj
        rw [← hinterval]
        exact hold hvalid j hj
      · exact hsettled
    · exact h.gone hnone
  refine ⟨?_, ?_⟩
  · intro j hj hjstream
    by_cases hji : j = i
    · subst hji
      rw [Function.update_self] at hjstream ⊢
      obtain ⟨hspaced, hsorted, hsettled⟩ := hgone (Or.inr fun k hk => by
        rw [← hjstream]
        exact hfresh k hk)
      rw [PacerHand.noted_of_not_flying hhand, PacerHand.noted_of_not_flying hother,
        List.append_nil, List.append_nil]
      exact
        { spaced := hspaced
          sorted := hsorted
          past := fun t ht => (Nat.le_add_right t interval).trans (hsettled t ht)
          history := Or.inr ⟨rfl, rfl, hsettled⟩ }
    · rw [Function.update_of_ne hji] at hj hjstream ⊢
      exact h.live j hj hjstream
  · intro hnone
    apply hgone
    by_cases howner : (pacers i).valid = true ∧ (pacers i).streamId = streamId
    · exact Or.inl ⟨howner.2, howner.1⟩
    · refine Or.inr fun j hj heq => ?_
      by_cases hji : j = i
      · subst hji
        exact howner ⟨hj, heq⟩
      · have hne := hnone j
        rw [Function.update_of_ne hji] at hne
        exact hne hj heq

end PacedKept

end Stream

/-! ## The conditions -/

namespace StationPacers

/-- The offered frame goes straight through. -/
def Passes (s : StationPacers) (frame : StationFrame) (i : PacerIndex) : Prop :=
  (s.pacers i).count = 0 ∧ (s.pacers i).inFlight = 0 ∧ s.draining = false ∧
    stationPacerNextNs (s.pacers i) ≤ frame.nowUs * 1000

instance (s : StationPacers) (frame : StationFrame) (i : PacerIndex) : Decidable (s.Passes frame i) :=
  inferInstanceAs (Decidable (_ ∧ _ ∧ _ ∧ _))

def drainNotes (s : StationPacers) : DrainPc → Option Nat
  | .scan nowNs => (s.due? nowNs).map fun _ => nowNs
  | .transmit _ _ _ nowNs => some nowNs
  | _ => .none

/-- The time noted for the frame that the step decides to send in its turn, or transmits. -/
def notes (s : StationPacers) : PacerEvent → Option Nat
  | .forward _ =>
      match s.forward with
      | .offer frame i => if s.Passes frame i then some (frame.nowUs * 1000) else .none
      | .transmitHead frame _ _ _ => some (frame.nowUs * 1000)
      | .transmitOwn frame _ => some (frame.nowUs * 1000)
      | .drain pc => s.drainNotes pc
      | _ => .none
  | .task _ => s.task.bind s.drainNotes
  | _ => .none

/-- A frame is sent, and goes out, at the time noted for it. -/
def Prompt (s : StationPacers) (e : PacerEvent) : Prop := ∀ t, s.notes e = some t → t = s.nowNs

/-- An entry is taken over only an interval after its last send. -/
def TakesOverOld (s : StationPacers) : PacerEvent → Prop
  | .forward _ =>
      match s.forward with
      | .lookup frame => ∀ i, s.find? (streamIdOf frame.octets) = .none →
          s.spare? frame.nowUs = some i → (s.pacers i).valid = true → ∀ j < stationPacerMaxFrames,
            (s.pacers i).sentNs j + (s.pacers i).intervalNs ≤ frame.nowUs * 1000
      | _ => True
  | _ => True

/-- The stream's queue does not overflow, and its interval and MaxIntervalFrames are these. -/
structure Steady (streamId : List UInt8) (interval maxIntervalFrames : Nat) (s : StationPacers)
    (e : PacerEvent) : Prop where
  noOverflow : ∀ ok, e = .forward ok → ∀ i, s.overflows s.forward = some i →
    (s.pacers i).streamId ≠ streamId
  arrivals : ∀ octets egressPort frames up, e = .arrive octets egressPort (some frames) up →
    streamIdOf octets = streamId →
      streamIntervalNs octets = interval ∧ honouredFrames frames = honouredFrames maxIntervalFrames

end StationPacers

/-- The frame the forwarding context is at. -/
def ForwardPc.frame? : ForwardPc → Option StationFrame
  | .lookup frame => some frame
  | pc => pc.bound.map Prod.fst

/-- The frame whose values its pacer has taken on. -/
def ForwardPc.configured : ForwardPc → Option (StationFrame × PacerIndex)
  | .offer frame i => some (frame, i)
  | .transmitHead frame i _ _ => some (frame, i)
  | .headDone frame i => some (frame, i)
  | _ => .none

theorem honouredFrames_bounds (frames : Nat) :
    0 < honouredFrames frames ∧ honouredFrames frames ≤ stationPacerMaxFrames := by
  rw [honouredFrames, stationPacerMaxFrames]
  split <;> omega

section Pacing

variable {streamId : List UInt8} {interval maxIntervalFrames : Nat}

structure PacingInv (streamId : List UInt8) (interval maxIntervalFrames : Nat) (s : StationPacers) :
    Prop where
  paced : PacedKept streamId interval (honouredFrames maxIntervalFrames) s.nowNs s.pacers
    s.transmitted s.forward.hand (taskHand s.task)
  frame : ∀ frame, s.forward.frame? = some frame → frame.nowUs ≤ s.clockUs ∧ 0 < frame.maxFrames ∧
    (streamIdOf frame.octets = streamId →
      streamIntervalNs frame.octets = interval ∧ frame.maxFrames = honouredFrames maxIntervalFrames)
  configured : ∀ frame i, s.forward.configured = some (frame, i) →
    (s.pacers i).maxFrames = frame.maxFrames

theorem StreamPaced.frames_ne_zero {window clock : Nat} {pacer : StationPacer} {times : List Nat}
    (h : StreamPaced interval window clock pacer times) (hcount : 0 < pacer.count) :
    pacer.maxFrames ≠ 0 := by
  obtain ⟨hframes, -, hidx, -⟩ | ⟨-, hnone, -⟩ := h.history
  · omega
  · omega

theorem StreamPaced.configure {window clock : Nat} {pacer : StationPacer} {times : List Nat}
    (h : StreamPaced interval window clock pacer times) (hwindow : 0 < window)
    (egressPort nowUs : Nat) :
    StreamPaced interval window clock (pacer.configure egressPort interval window nowUs) times := by
  refine ⟨h.spaced, h.sorted, h.past, Or.inl ?_⟩
  obtain ⟨hframes, hinterval, hidx, hrecorded⟩ | ⟨hzero, hcount, hold⟩ := h.history
  · rw [StationPacer.configure]
    simp only [hframes, ne_eq, not_true_eq_false, if_false]
    exact ⟨trivial, trivial, hidx, hrecorded⟩
  · have hne : (0 : Nat) ≠ window := by omega
    rw [StationPacer.configure]
    simp only [hzero, ne_eq, hne, not_false_eq_true, if_true]
    exact ⟨trivial, trivial, hwindow, SlotRing.Recorded.of_old hold window _ _⟩

/-- One step of a drain, whichever context drains. -/
theorem StationPacers.drainStep_paced {s : StationPacers} {pc : DrainPc} {other : PacerHand}
    (armed : Bool) {window : Nat}
    (h : PacedKept streamId interval window s.nowNs s.pacers s.transmitted pc.hand other)
    (hkept : PacersKept s.pacers s.accepted s.sent pc.hand other)
    (hcalm : ∀ i, s.drainTakes pc = some i → (s.pacers i).inFlight = 0)
    (hprompt : ∀ t, s.drainNotes pc = some t → t = s.nowNs) :
    PacedKept streamId interval window s.nowNs (s.drainStep armed pc).1.pacers
      (s.drainStep armed pc).1.transmitted (taskHand (s.drainStep armed pc).2) other := by
  cases pc with
  | scan nowNs =>
      simp only [drainTakes] at hcalm
      simp only [drainNotes] at hprompt
      simp only [drainStep]
      cases hdue : s.due? nowNs with
      | some i =>
          obtain ⟨hvalid, hcount, hturn⟩ := due?_spec hdue
          have hnow := hprompt nowNs (by rw [hdue]; rfl)
          subst hnow
          refine h.note hkept PacersKept.at_slot (PacerHand.noted_slot_self _ _ _ _) hvalid
            (hcalm i hdue) ?_ hturn ⟨hvalid, rfl, rfl, rfl, rfl, rfl⟩
          intro hstream
          exact (h.live i hvalid hstream).frames_ne_zero hcount
      | none =>
          cases hearliest : s.earliestNs <;> exact h
  | transmit i slot len nowNs =>
      have hnow := hprompt nowNs rfl
      exact @PacedKept.transmit streamId interval window s.nowNs s.pacers s.transmitted _ _ _ other i h
        hkept { egressPort := _, octets := _, timeNs := s.nowNs } PacersKept.at_slot
        (by simp [DrainPc.hand]) (by simp [DrainPc.hand]) (by simp [DrainPc.hand, hnow])
  | done i =>
      have hvalid := hkept.valid_of_flying (i := i) (by simp [DrainPc.hand])
      exact h.refresh hkept PacersKept.at_landing PacersKept.at_free rfl hvalid hvalid rfl
        fun _ _ hpaced => ⟨hpaced.spaced, hpaced.sorted, hpaced.past, hpaced.history⟩
  | enter =>
      simp only [drainStep]
      split <;> exact h
  | read => exact h
  | arm earliestNs =>
      simp only [drainStep]
      split <;> exact h

namespace PacingInv

variable {s : StationPacers}

theorem init : PacingInv streamId interval maxIntervalFrames .init :=
  { paced :=
      { live := fun _ h => by cases h
        gone := fun _ =>
          ⟨fun _ _ _ h _ => (by cases h), List.Pairwise.nil, fun _ h => (by cases h)⟩ }
    frame := fun _ h => by cases h
    configured := fun _ _ h => by cases h }

theorem lookupStep (h : PacingInv streamId interval maxIntervalFrames s) (hinv : PacersInv s)
    {frame : StationFrame} (hpc : s.forward = .lookup frame) (ok : Bool)
    (hold : s.TakesOverOld (.forward ok)) :
    PacingInv streamId interval maxIntervalFrames (s.lookupStep frame ok) := by
  have hpaced := h.paced
  have hkept := hinv.kept
  have hframe := h.frame frame (by rw [hpc]; rfl)
  rw [hpc] at hpaced hkept
  simp only [StationPacers.TakesOverOld, hpc] at hold
  rw [StationPacers.lookupStep]
  split
  · refine ⟨hpaced, ?_, fun _ _ hconf => (by cases hconf)⟩
    intro frame' hframe'
    cases hframe'
    exact hframe
  · rename_i hfind
    split
    · rename_i i hspare
      have hspare' := StationPacers.spare?_spec hspare
      split
      · refine ⟨?_, ?_, fun _ _ hconf => (by cases hconf)⟩
        · refine hpaced.claim hkept hspare' (StationPacers.find?_none hfind)
            (honouredFrames_bounds maxIntervalFrames).1 ?_
          intro hvalid j hj
          have hbound := (honouredFrames_bounds maxIntervalFrames).2
          have hentry := hold i hfind hspare hvalid j (hj.trans_le hbound)
          exact hentry.trans (Nat.mul_le_mul_right 1000 hframe.1)
        · intro frame' hframe'
          cases hframe'
          exact hframe
      · refine ⟨?_, fun _ hframe' => (by cases hframe'), fun _ _ hconf => (by cases hconf)⟩
        by_cases hvalid : (s.pacers i).valid = true
        · exact hpaced.refresh hkept PacersKept.at_free PacersKept.at_free rfl hvalid hvalid rfl
            fun _ _ hlive => ⟨hlive.spaced, hlive.sorted, hlive.past, hlive.history⟩
        · refine ⟨?_, ?_⟩
          · intro j hj hstream
            have hji : j ≠ i := by
              rintro rfl
              simp only [StationPacers.setForward, StationPacers.setPacer,
                Function.update_self] at hj
              exact hvalid hj
            simp only [StationPacers.setForward, StationPacers.setPacer,
              Function.update_of_ne hji] at hj hstream ⊢
            exact hpaced.live j hj hstream
          · intro hnone
            apply hpaced.gone
            intro j hj
            have hji : j ≠ i := by
              rintro rfl
              exact hvalid hj
            have hne := hnone j
            simp only [StationPacers.setForward, StationPacers.setPacer,
              Function.update_of_ne hji] at hne
            exact hne hj
    · exact ⟨hpaced, fun _ hframe' => (by cases hframe'), fun _ _ hconf => (by cases hconf)⟩

theorem offerStep (h : PacingInv streamId interval maxIntervalFrames s) (hinv : PacersInv s)
    {frame : StationFrame} {i : PacerIndex} (hpc : s.forward = .offer frame i) {ok : Bool}
    (hprompt : s.Prompt (.forward ok)) (hsteady : s.Steady streamId interval maxIntervalFrames
      (.forward ok)) :
    PacingInv streamId interval maxIntervalFrames (s.offerStep frame i) := by
  have hpaced := h.paced
  have hkept := hinv.kept
  have hframe := h.frame frame (by rw [hpc]; rfl)
  have hconf := h.configured frame i (by rw [hpc]; rfl)
  have hoverflow := hsteady.noOverflow ok rfl
  obtain ⟨hvalid, hstream⟩ := hinv.bound frame i (by rw [hpc]; rfl)
  rw [hpc] at hpaced hkept hoverflow
  simp only [StationPacers.overflows] at hoverflow
  simp only [StationPacers.Prompt, StationPacers.notes, hpc] at hprompt
  rw [StationPacers.offerStep]
  by_cases hpass : s.Passes frame i
  · have hnow := hprompt _ (if_pos hpass)
    have hturn := hpass.2.2.2
    rw [hnow] at hturn
    simp only [if_pos (show (s.pacers i).count = 0 ∧ (s.pacers i).inFlight = 0 ∧
      s.draining = false ∧ stationPacerNextNs (s.pacers i) ≤ frame.nowUs * 1000 from hpass)]
    refine ⟨?_, ?_, fun _ _ hconf' => (by cases hconf')⟩
    · simp only [StationPacers.accept, StationPacers.setForward, StationPacers.setPacer,
        ForwardPc.hand, StationPacers.nowNs] at hnow hturn ⊢
      rw [hnow]
      refine hpaced.note hkept PacersKept.at_own (PacerHand.noted_own_self _ _ _) hvalid hpass.2.1 ?_
        hturn ⟨hvalid, rfl, rfl, rfl, rfl, rfl⟩
      intro _
      rw [hconf]
      exact hframe.2.1.ne'
    · intro frame' hframe'
      cases hframe'
      exact hframe
  · have hpass' : ¬((s.pacers i).count = 0 ∧ (s.pacers i).inFlight = 0 ∧ s.draining = false ∧
        stationPacerNextNs (s.pacers i) ≤ frame.nowUs * 1000) := hpass
    by_cases hroom : (s.pacers i).count + (s.pacers i).inFlight < stationPacerDepth
    · simp only [if_neg hpass', if_pos hroom]
      refine ⟨?_, fun _ hframe' => (by cases hframe'), fun _ _ hconf' => (by cases hconf')⟩
      refine hpaced.refresh hkept PacersKept.at_free PacersKept.at_free rfl hvalid hvalid rfl ?_
      intro _ times hlive
      refine ⟨hlive.spaced, hlive.sorted, hlive.past, ?_⟩
      obtain hlive' | ⟨hzero, -⟩ := hlive.history
      · exact Or.inl hlive'
      · rw [hconf] at hzero
        exact absurd hzero hframe.2.1.ne'
    · by_cases hfull : 0 < (s.pacers i).count
      · simp only [if_neg hpass', if_neg hroom, if_pos hfull] at hoverflow ⊢
        have hother := hoverflow i rfl
        refine ⟨?_, ?_, ?_⟩
        · have hmove := @PacedKept.move streamId interval (honouredFrames maxIntervalFrames) s.nowNs
            s.pacers s.transmitted _ _ _ _ i hpaced hkept
            ((s.pacers i).takeHead (frame.nowUs * 1000))
            (.slot i (s.pacers i).head ((s.pacers i).len (s.pacers i).head) (frame.nowUs * 1000)) []
            PacersKept.at_free PacersKept.at_slot hvalid hvalid rfl (by simp)
            (fun hsame => absurd hsame hother)
          rw [List.append_nil] at hmove
          exact hmove
        · intro frame' hframe'
          cases hframe'
          exact hframe
        · intro frame' i' hconf'
          cases hconf'
          simp only [StationPacers.setForward, StationPacers.setPacer, Function.update_self]
          exact hconf
      · have hone := (hkept.ok i).calm
        have hdepth : 1 < stationPacerDepth := by decide
        omega

theorem forwardStep (h : PacingInv streamId interval maxIntervalFrames s) (hinv : PacersInv s)
    (ok : Bool) (hcalm : s.OneInFlight (.forward ok)) (hprompt : s.Prompt (.forward ok))
    (hold : s.TakesOverOld (.forward ok))
    (hsteady : s.Steady streamId interval maxIntervalFrames (.forward ok)) :
    PacingInv streamId interval maxIntervalFrames (s.forwardStep ok) := by
  have hpaced := h.paced
  have hkept := hinv.kept
  have hframe := h.frame
  have hconf := h.configured
  have hbound := hinv.bound
  have hnotes := hprompt
  simp only [StationPacers.Prompt, StationPacers.notes] at hnotes
  simp only [StationPacers.OneInFlight, StationPacers.takes] at hcalm
  rw [StationPacers.forwardStep]
  cases hpc : s.forward with
  | idle => exact h
  | lookup frame => exact h.lookupStep hinv hpc ok hold
  | configure frame i =>
      rw [hpc] at hpaced hkept hframe hbound
      obtain ⟨hvalid, hstream⟩ := hbound frame i rfl
      obtain ⟨hclock, hpos, hvalues⟩ := hframe frame rfl
      have hfields : ∀ pacer : StationPacer, ∀ port interval frames us,
          (pacer.configure port interval frames us).valid = pacer.valid ∧
          (pacer.configure port interval frames us).streamId = pacer.streamId ∧
          (pacer.configure port interval frames us).maxFrames = frames := by
        intro pacer port interval frames us
        rw [StationPacer.configure]
        by_cases hsame : pacer.maxFrames = frames
        · rw [if_neg (fun hne => hne hsame)]
          exact ⟨rfl, rfl, hsame⟩
        · rw [if_pos hsame]
          exact ⟨rfl, rfl, rfl⟩
      obtain ⟨hv, hs, hm⟩ := hfields (s.pacers i) frame.egressPort (streamIntervalNs frame.octets)
        frame.maxFrames frame.nowUs
      refine ⟨?_, ?_, ?_⟩
      · refine hpaced.refresh hkept PacersKept.at_free PacersKept.at_free rfl hvalid
          (hv.trans hvalid) hs ?_
        intro hsame times hlive
        obtain ⟨hinterval, hframes⟩ := hvalues (hstream.trans hsame)
        rw [hinterval, hframes]
        exact hlive.configure (honouredFrames_bounds maxIntervalFrames).1 _ _
      · intro frame' hframe'
        cases hframe'
        exact ⟨hclock, hpos, hvalues⟩
      · intro frame' i' hconf'
        cases hconf'
        simp only [StationPacers.setForward, StationPacers.setPacer, Function.update_self]
        exact hm
  | offer frame i => exact h.offerStep hinv hpc hprompt hsteady
  | transmitHead frame i slot len =>
      rw [hpc] at hpaced hkept hframe hconf hnotes
      have hnow := hnotes _ rfl
      refine ⟨?_, ?_, ?_⟩
      · exact @PacedKept.transmit streamId interval _ s.nowNs s.pacers s.transmitted _ _ _ _ i
          hpaced hkept { egressPort := _, octets := _, timeNs := s.nowNs } PacersKept.at_slot
          (by simp [ForwardPc.hand]) (by simp [ForwardPc.hand]) (by simp [ForwardPc.hand, hnow])
      · intro frame' hframe'
        cases hframe'
        exact hframe frame rfl
      · intro frame' i' hconf'
        cases hconf'
        exact hconf frame i rfl
  | headDone frame i =>
      rw [hpc] at hpaced hkept hframe hconf hbound
      obtain ⟨hvalid, -⟩ := hbound frame i rfl
      refine ⟨?_, ?_, ?_⟩
      · exact hpaced.refresh hkept PacersKept.at_landing PacersKept.at_free rfl hvalid hvalid rfl
          fun _ _ hlive => ⟨hlive.spaced, hlive.sorted, hlive.past, hlive.history⟩
      · intro frame' hframe'
        cases hframe'
        exact hframe frame rfl
      · intro frame' i' hconf'
        cases hconf'
        simp only [StationPacers.setForward, StationPacers.setPacer, Function.update_self]
        exact hconf frame i rfl
  | transmitOwn frame i =>
      rw [hpc] at hpaced hkept hnotes
      have hnow := hnotes _ rfl
      refine ⟨?_, fun _ hframe' => (by cases hframe'), fun _ _ hconf' => (by cases hconf')⟩
      exact @PacedKept.transmit streamId interval _ s.nowNs s.pacers s.transmitted _ _ _ _ i
        hpaced hkept { egressPort := _, octets := _, timeNs := s.nowNs } PacersKept.at_own
        (by simp [ForwardPc.hand]) (by simp [ForwardPc.hand]) (by simp [ForwardPc.hand, hnow])
  | ownDone i =>
      rw [hpc] at hpaced hkept
      have hvalid := hkept.valid_of_flying (i := i) (by simp [ForwardPc.hand])
      refine ⟨?_, fun _ hframe' => (by cases hframe'), fun _ _ hconf' => (by cases hconf')⟩
      exact hpaced.refresh hkept PacersKept.at_landing PacersKept.at_free rfl hvalid hvalid rfl
        fun _ _ hlive => ⟨hlive.spaced, hlive.sorted, hlive.past, hlive.history⟩
  | drain pc =>
      rw [hpc] at hpaced hkept hcalm hnotes
      have hstep := StationPacers.drainStep_paced ok hpaced hkept hcalm hnotes
      obtain ⟨-, -, htask, hclock⟩ := s.drainStep_accepted ok pc
      have hnow : (s.drainStep ok pc).1.nowNs = s.nowNs := by
        rw [StationPacers.nowNs, hclock, StationPacers.nowNs]
      simp only
      rw [← htask, ← hnow] at hstep
      cases hnext : (s.drainStep ok pc).2 with
      | none =>
          rw [hnext] at hstep
          exact ⟨hstep, fun _ hframe' => (by cases hframe'), fun _ _ hconf' => (by cases hconf')⟩
      | some pc' =>
          rw [hnext] at hstep
          exact ⟨hstep, fun _ hframe' => (by cases hframe'), fun _ _ hconf' => (by cases hconf')⟩

theorem taskStep (h : PacingInv streamId interval maxIntervalFrames s) (hinv : PacersInv s)
    (armed : Bool) (hcalm : s.OneInFlight (.task armed)) (hprompt : s.Prompt (.task armed)) :
    PacingInv streamId interval maxIntervalFrames (s.taskStep armed) := by
  have hpaced := h.paced
  have hkept := hinv.kept
  simp only [StationPacers.Prompt, StationPacers.notes] at hprompt
  simp only [StationPacers.OneInFlight, StationPacers.takes] at hcalm
  rw [StationPacers.taskStep]
  cases htask : s.task with
  | none =>
      rw [htask] at hpaced
      simp only
      split
      · exact ⟨hpaced, h.frame, h.configured⟩
      · exact h
  | some pc =>
      rw [htask] at hpaced hkept hcalm hprompt
      have hstep := StationPacers.drainStep_paced armed (hpaced.swap hkept) hkept.swap hcalm hprompt
      have hkept' := (StationPacers.drainStep_kept armed hkept.swap hcalm)
      obtain ⟨-, hforward, -, hclock⟩ := s.drainStep_accepted armed pc
      have hnow : (s.drainStep armed pc).1.nowNs = s.nowNs := by
        rw [StationPacers.nowNs, hclock, StationPacers.nowNs]
      refine ⟨?_, ?_, ?_⟩
      · have hswap := hstep.swap hkept'
        rw [← hforward, ← hnow] at hswap
        exact hswap
      · intro frame hframe
        simp only [hforward] at hframe
        simp only [hclock]
        exact h.frame frame hframe
      · intro frame i hconf
        simp only [hforward] at hconf
        have hfield := @StationPacers.drainStep_field _ StationPacer.maxFrames (fun _ _ => rfl)
          (fun _ => rfl) s armed pc i
        exact hfield.trans (h.configured frame i hconf)

theorem arrive (h : PacingInv streamId interval maxIntervalFrames s) {octets : List UInt8}
    {egressPort : Nat} {frames : Option Nat} {up : Bool}
    (hsteady : s.Steady streamId interval maxIntervalFrames (.arrive octets egressPort frames up)) :
    PacingInv streamId interval maxIntervalFrames (s.arrive octets egressPort frames up) := by
  have hpaced := h.paced
  unfold StationPacers.arrive
  split
  · rename_i frames' hidle
    rw [hidle] at hpaced
    split
    · simp only
      split
      · refine ⟨hpaced, ?_, fun _ _ hconf => (by cases hconf)⟩
        intro frame hframe
        cases hframe
        exact ⟨le_rfl, (honouredFrames_bounds frames').1,
          fun hstream => hsteady.arrivals octets egressPort frames' up rfl hstream⟩
      · exact ⟨h.paced, h.frame, h.configured⟩
    · exact h
  · exact h

theorem step (h : PacingInv streamId interval maxIntervalFrames s) (hinv : PacersInv s)
    (e : PacerEvent) (hcalm : s.OneInFlight e) (hprompt : s.Prompt e) (hold : s.TakesOverOld e)
    (hsteady : s.Steady streamId interval maxIntervalFrames e) :
    PacingInv streamId interval maxIntervalFrames (pacerStep s e) := by
  cases e with
  | pass us =>
      have hle : s.nowNs ≤ (s.clockUs + us) * 1000 :=
        Nat.mul_le_mul_right 1000 (Nat.le_add_right _ _)
      refine ⟨h.paced.mono hle, ?_, h.configured⟩
      intro frame hframe
      obtain ⟨hclock, hvalues⟩ := h.frame frame hframe
      exact ⟨hclock.trans (Nat.le_add_right _ _), hvalues⟩
  | arrive octets egressPort frames up => exact h.arrive hsteady
  | forward ok => exact h.forwardStep hinv ok hcalm hprompt hold hsteady
  | task armed => exact h.taskStep hinv armed hcalm hprompt
  | alarm =>
      rw [pacerStep, StationPacers.alarm]
      split
      · split
        · exact ⟨h.paced, h.frame, h.configured⟩
        · exact h
      · exact h

/-- Sent times alone, without what is in flight. -/
theorem spaced (h : PacingInv streamId interval maxIntervalFrames s) :
    SlotRing.Spaced (honouredFrames maxIntervalFrames) interval
      (streamTimes streamId s.transmitted) := by
  by_cases hlive : ∃ i, (s.pacers i).valid = true ∧ (s.pacers i).streamId = streamId
  · obtain ⟨i, hvalid, hstream⟩ := hlive
    exact (h.paced.live i hvalid hstream).spaced.of_append
  · exact (h.paced.gone fun i hvalid hstream => hlive ⟨i, hvalid, hstream⟩).1

end PacingInv

end Pacing

/-! ## Runs -/

open StationPacers in
/-- Every run in which a head is taken only while nothing of its stream is in flight, which is every
run in which no queue overflows: the frames accepted of a stream are those transmitted, with their own
octets, in order and once each, then the one in flight, then the queue; none waits with no drain to
come; and the transmits of a stream that stays as it is are spaced, as long as each goes out at the
time noted for it and no entry changes hands within an interval of its last send. -/
theorem station_pacer_in_order (events : List PacerEvent) :
    (Machine.RunMeets NoOverflow pacerStep .init events →
      Machine.RunMeets OneInFlight pacerStep .init events) ∧
    (Machine.RunMeets OneInFlight pacerStep .init events →
      let s := Machine.run pacerStep .init events
      (∀ i, (s.pacers i).valid = true →
        s.accepted.filter (ofStream (s.pacers i).streamId) =
          s.sent.filter (ofStream (s.pacers i).streamId) ++
            (s.pacers i).owed i s.forward.hand (taskHand s.task)) ∧
      (∀ streamId, (∀ i, (s.pacers i).valid = true → (s.pacers i).streamId ≠ streamId) →
        s.accepted.filter (ofStream streamId) = s.sent.filter (ofStream streamId)) ∧
      (Machine.RunMeets Arms pacerStep .init events → s.Attended) ∧
      ∀ streamId interval maxIntervalFrames,
        Machine.RunMeets (fun s e => s.Prompt e ∧ s.TakesOverOld e ∧
          s.Steady streamId interval maxIntervalFrames e) pacerStep .init events →
        SlotRing.Spaced (honouredFrames maxIntervalFrames) interval
          (streamTimes streamId s.transmitted)) := by
  refine ⟨oneInFlight_of_noOverflow PacersCalm.init PacersInv.init, fun hone => ?_⟩
  have hinv : PacersInv (Machine.run pacerStep .init events) :=
    hone.invariant PacersInv (fun s e he h => h.step e he) PacersInv.init
  refine ⟨hinv.kept.kept, hinv.kept.gone, fun harms => ?_, ?_⟩
  · have hattended := harms.invariant (fun s => DrainHeld s ∧ s.Attended)
      (fun s e he h => ⟨h.1.step e, h.2.step h.1 e he⟩)
      ⟨PacersCalm.init.toDrainHeld, fun ⟨_, hvalid, _⟩ => by cases hvalid⟩
    exact hattended.2
  · intro streamId interval maxIntervalFrames hsteady
    have hboth : ∀ s events, PacersInv s → PacingInv streamId interval maxIntervalFrames s →
        Machine.RunMeets OneInFlight pacerStep s events →
        Machine.RunMeets (fun s e => s.Prompt e ∧ s.TakesOverOld e ∧
          s.Steady streamId interval maxIntervalFrames e) pacerStep s events →
        PacingInv streamId interval maxIntervalFrames (Machine.run pacerStep s events) := by
      intro s events
      induction events generalizing s with
      | nil => exact fun _ hpacing _ _ => hpacing
      | cons e events ih =>
          rintro hinv hpacing ⟨hcalm, hcalms⟩ ⟨⟨hprompt, hold, hsteady⟩, hrest⟩
          exact ih _ (hinv.step e hcalm) (hpacing.step hinv e hcalm hprompt hold hsteady) hcalms hrest
    exact (hboth _ events PacersInv.init PacingInv.init hone hsteady).spaced

/-! ### The conditions, computed -/

namespace StationPacers

instance NoOverflow.decidable (s : StationPacers) (e : PacerEvent) : Decidable (s.NoOverflow e) :=
  match e with
  | .forward _ => inferInstanceAs (Decidable (_ = _))
  | .pass _ | .arrive _ _ _ _ | .task _ | .alarm => inferInstanceAs (Decidable True)

instance Prompt.decidable (s : StationPacers) (e : PacerEvent) : Decidable (s.Prompt e) :=
  inferInstanceAs (Decidable (∀ t ∈ s.notes e, t = s.nowNs))

theorem takesOverOld_iff (s : StationPacers) (ok : Bool) :
    s.TakesOverOld (.forward ok) ↔ ∀ frame ∈ (match s.forward with
        | .lookup frame => some frame
        | _ => Option.none), s.find? (streamIdOf frame.octets) = .none →
      ∀ i ∈ s.spare? frame.nowUs, (s.pacers i).valid = true → ∀ j < stationPacerMaxFrames,
        (s.pacers i).sentNs j + (s.pacers i).intervalNs ≤ frame.nowUs * 1000 := by
  rw [TakesOverOld]
  cases s.forward with
  | lookup frame =>
      constructor
      · rintro h frame' hframe hnone i hi
        cases hframe
        exact h i hnone hi
      · intro h i hnone hi
        exact h frame rfl hnone i hi
  | _ => simp

instance TakesOverOld.decidable (s : StationPacers) (e : PacerEvent) :
    Decidable (s.TakesOverOld e) :=
  match e with
  | .forward ok => decidable_of_iff' _ (takesOverOld_iff s ok)
  | .pass _ | .arrive _ _ _ _ | .task _ | .alarm => inferInstanceAs (Decidable True)

theorem steady_forward_iff (streamId : List UInt8) (interval maxIntervalFrames : Nat)
    (s : StationPacers) (ok : Bool) : s.Steady streamId interval maxIntervalFrames (.forward ok) ↔
      ∀ i ∈ s.overflows s.forward, (s.pacers i).streamId ≠ streamId :=
  ⟨fun h i hi => h.noOverflow ok rfl i hi,
    fun h => ⟨fun _ _ i hi => h i hi, fun _ _ _ _ he => (by cases he)⟩⟩

theorem steady_arrive_iff (streamId : List UInt8) (interval maxIntervalFrames : Nat)
    (s : StationPacers) (octets : List UInt8) (egressPort : Nat) (frames : Option Nat) (up : Bool) :
    s.Steady streamId interval maxIntervalFrames (.arrive octets egressPort frames up) ↔
      ∀ n ∈ frames, streamIdOf octets = streamId →
        streamIntervalNs octets = interval ∧ honouredFrames n = honouredFrames maxIntervalFrames := by
  constructor
  · rintro h n rfl
    exact h.arrivals octets egressPort n up rfl
  · intro h
    refine ⟨fun _ he => (by cases he), ?_⟩
    rintro _ _ n _ he
    cases he
    exact h n rfl

theorem steady_other {streamId : List UInt8} {interval maxIntervalFrames : Nat} {s : StationPacers}
    {e : PacerEvent} (hforward : ∀ ok, e ≠ .forward ok)
    (harrive : ∀ octets egressPort frames up, e ≠ .arrive octets egressPort frames up) :
    s.Steady streamId interval maxIntervalFrames e :=
  ⟨fun ok he => absurd he (hforward ok), fun octets egressPort frames up he =>
    absurd he (harrive octets egressPort (some frames) up)⟩

instance Steady.decidable (streamId : List UInt8) (interval maxIntervalFrames : Nat)
    (s : StationPacers) (e : PacerEvent) :
    Decidable (s.Steady streamId interval maxIntervalFrames e) :=
  match e with
  | .forward ok => decidable_of_iff' _ (steady_forward_iff streamId interval maxIntervalFrames s ok)
  | .arrive octets egressPort frames up =>
      decidable_of_iff' _
        (steady_arrive_iff streamId interval maxIntervalFrames s octets egressPort frames up)
  | .pass _ => isTrue (steady_other (by simp) (by simp))
  | .task _ => isTrue (steady_other (by simp) (by simp))
  | .alarm => isTrue (steady_other (by simp) (by simp))

/-- Where a context is about to arm the timer. -/
def arming : PacerEvent → StationPacers → Option (Nat × Bool)
  | .forward ok, s =>
      match s.forward with
      | .drain (.arm t) => some (t, ok)
      | _ => .none
  | .task armed, s =>
      match s.task with
      | some (.arm t) => some (t, armed)
      | _ => .none
  | _, _ => .none

theorem arms_iff (s : StationPacers) (e : PacerEvent) : s.Arms e ↔ ∀ arm ∈ arming e s, arm.2 = true := by
  cases e with
  | forward ok =>
      simp only [Arms, arming]
      split <;> simp_all
  | task armed =>
      simp only [Arms, arming]
      split <;> simp_all
  | _ => simp [Arms, arming]

instance Arms.decidable (s : StationPacers) (e : PacerEvent) : Decidable (s.Arms e) :=
  decidable_of_iff' _ (arms_iff s e)

end StationPacers

/-! ### Runs on one stream -/

/-- A class A frame of a stream, told apart by its last octet. -/
def stationFrame (n : Nat) : List UInt8 :=
  List.replicate 14 0 ++ [0x60, 2, 0x22, 0xf0, 2, 0x80, 0, 0] ++ List.replicate 8 1 ++ [UInt8.ofNat n]

def stationArrival (n steps : Nat) : List PacerEvent :=
  .arrive (stationFrame n) 0 (some 1) true :: List.replicate steps (.forward true)

/-- Two frames 125 us apart, each straight through. -/
def spacedRun : List PacerEvent :=
  .pass 125 :: stationArrival 0 1 ++ stationArrival 0 9 ++ .pass 125 :: stationArrival 1 9

theorem station_pacer_in_order_spacedRun :
    let s := Machine.run pacerStep .init spacedRun
    (Machine.RunMeets StationPacers.OneInFlight pacerStep .init spacedRun ∧
      s.accepted = [stationFrame 0, stationFrame 1]) ∧ s.Attended ∧
      (∀ i, (s.pacers i).valid = true →
        s.accepted.filter (ofStream (s.pacers i).streamId) =
          s.sent.filter (ofStream (s.pacers i).streamId) ++
            (s.pacers i).owed i s.forward.hand (taskHand s.task)) ∧
      SlotRing.Spaced 1 125000 (streamTimes (List.replicate 8 1) s.transmitted) := by
  have hone := (station_pacer_in_order spacedRun).1 (by decide +kernel)
  obtain ⟨hkept, -, hattended, hspaced⟩ := (station_pacer_in_order spacedRun).2 hone
  exact ⟨⟨hone, by decide +kernel⟩, hattended (by decide +kernel), hkept,
    hspaced (List.replicate 8 1) 125000 1 (by decide +kernel)⟩

/-- The first frame is let by while its stream's queue is allocated. The second is queued, and the
timer set for it; the task takes it and is preempted before it transmits. The queue fills, and the
frame that finds it full sends the head on. -/
def fullQueueRun : List PacerEvent :=
  stationArrival 0 1 ++ stationArrival 0 7 ++ [.pass 125, .alarm] ++ List.replicate 4 (.task true) ++
    (List.range 63).flatMap (fun n => stationArrival (n + 1) 4) ++ stationArrival 64 7 ++ [.task true]

/-- Two frames are queued. The task decides to send the first and transmits it 115 us later; the
second leaves in its turn. -/
def lateTransmitRun : List PacerEvent :=
  stationArrival 0 1 ++ stationArrival 0 7 ++ stationArrival 1 7 ++ [.pass 125, .alarm] ++
    List.replicate 4 (.task true) ++ [.pass 115] ++ List.replicate 2 (.task true) ++ [.pass 10] ++
    List.replicate 3 (.task true)

set_option maxRecDepth 20000 in
/-- The second frame overtakes the first, whose slot is overwritten before it is read: the newest goes
out in its place, and the first is in no queue any more. And a frame that is transmitted late
has the next one 10 us behind it, in a stream of one frame each 125 us. -/
theorem station_pacer_reorders :
    ((Machine.run pacerStep .init fullQueueRun).accepted.take 2 = [stationFrame 0, stationFrame 1] ∧
      (Machine.run pacerStep .init fullQueueRun).sent = [stationFrame 1, stationFrame 64] ∧
      ∀ i, stationFrame 0 ∉ ((Machine.run pacerStep .init fullQueueRun).pacers i).queue) ∧
    (Machine.run pacerStep .init lateTransmitRun).transmitted =
      [{ egressPort := 0, octets := stationFrame 0, timeNs := 240000 },
        { egressPort := 0, octets := stationFrame 1, timeNs := 250000 }] := by
  decide +kernel

end EspAvb
