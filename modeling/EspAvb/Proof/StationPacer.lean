import EspAvb.StationPacer

/-!
# The station pacer loses, doubles and reorders nothing

What a context has taken off a queue and not yet transmitted is in its hand. While at most one frame
of a stream is in flight, the frames accepted of a stream are those transmitted, then the one in
flight, then the queue. The full queue breaks that: its head leaves early, while the other context may
have an earlier frame in its hand.
-/

namespace EspAvb

/-! ## Hands -/

/-- What a context has in flight: a slot it will read, a frame of its own, or one already transmitted
and still counted. -/
inductive PacerHand where
  | free
  | slot (i : PacerIndex) (slot len nowNs : Nat)
  | own (i : PacerIndex) (octets : List UInt8) (nowNs : Nat)
  | landing (i : PacerIndex)

namespace PacerHand

def flying : PacerHand → PacerIndex → Bool
  | .free, _ => false
  | .slot i _ _ _, j => i = j
  | .own i _ _, j => i = j
  | .landing i, j => i = j

/-- The octets that are to be transmitted. -/
def octets (pacer : StationPacer) (j : PacerIndex) : PacerHand → List (List UInt8)
  | .slot i place len _ => if i = j then [pacer.frame place len] else []
  | .own i octets _ => if i = j then [octets] else []
  | _ => []

@[simp]
theorem flying_free (j : PacerIndex) : PacerHand.free.flying j = false := rfl

@[simp]
theorem flying_slot (i j : PacerIndex) (place len nowNs : Nat) :
    (PacerHand.slot i place len nowNs).flying j = decide (i = j) := rfl

@[simp]
theorem flying_own (i j : PacerIndex) (frame : List UInt8) (nowNs : Nat) :
    (PacerHand.own i frame nowNs).flying j = decide (i = j) := rfl

@[simp]
theorem flying_landing (i j : PacerIndex) : (PacerHand.landing i).flying j = decide (i = j) := rfl

@[simp]
theorem octets_free (pacer : StationPacer) (j : PacerIndex) : PacerHand.free.octets pacer j = [] :=
  rfl

@[simp]
theorem octets_landing (pacer : StationPacer) (i j : PacerIndex) :
    (PacerHand.landing i).octets pacer j = [] := rfl

@[simp]
theorem octets_slot_self (pacer : StationPacer) (i : PacerIndex) (place len nowNs : Nat) :
    (PacerHand.slot i place len nowNs).octets pacer i = [pacer.frame place len] := if_pos rfl

@[simp]
theorem octets_own_self (pacer : StationPacer) (i : PacerIndex) (frame : List UInt8) (nowNs : Nat) :
    (PacerHand.own i frame nowNs).octets pacer i = [frame] := if_pos rfl

def At (i : PacerIndex) (hand : PacerHand) : Prop := ∀ j ≠ i, hand.flying j = false

theorem octets_of_not_flying {hand : PacerHand} {j : PacerIndex} (h : hand.flying j = false)
    (pacer : StationPacer) : hand.octets pacer j = [] := by
  cases hand with
  | slot i slot len nowNs =>
      simp only [flying, decide_eq_false_iff_not] at h
      exact if_neg h
  | own i octets nowNs =>
      simp only [flying, decide_eq_false_iff_not] at h
      exact if_neg h
  | _ => rfl

end PacerHand

def DrainPc.hand : DrainPc → PacerHand
  | .transmit i slot len nowNs => .slot i slot len nowNs
  | .done i => .landing i
  | _ => .free

def ForwardPc.hand : ForwardPc → PacerHand
  | .transmitHead frame i slot len => .slot i slot len (frame.nowUs * 1000)
  | .headDone _ i => .landing i
  | .transmitOwn frame i => .own i frame.octets (frame.nowUs * 1000)
  | .ownDone i => .landing i
  | .drain pc => pc.hand
  | _ => .free

def taskHand (task : Option DrainPc) : PacerHand := task.elim .free DrainPc.hand

/-! ## One pacer -/

/-- The queue, oldest first. -/
def StationPacer.queue (pacer : StationPacer) : List (List UInt8) :=
  SlotRing.contents (fun slot => pacer.frame slot (pacer.len slot)) stationPacerDepth pacer.head
    pacer.count

/-- What the pacer still owes: what is in flight, then the queue. -/
def StationPacer.owed (pacer : StationPacer) (i : PacerIndex) (hand other : PacerHand) :
    List (List UInt8) :=
  hand.octets pacer i ++ other.octets pacer i ++ pacer.queue

/-- A pacer with at most one frame in flight, the one last taken off its queue. -/
structure StationPacer.Ok (pacer : StationPacer) (i : PacerIndex) (hand other : PacerHand) :
    Prop where
  inFlight : pacer.inFlight = (hand.flying i).toNat + (other.flying i).toNat
  calm : pacer.inFlight ≤ 1
  room : pacer.count + pacer.inFlight ≤ stationPacerDepth
  head : pacer.head < stationPacerDepth
  place : ∀ slot len nowNs, hand = .slot i slot len nowNs ∨ other = .slot i slot len nowNs →
    slot = (pacer.head + (stationPacerDepth - 1)) % stationPacerDepth
  unused : pacer.valid = false → pacer.count = 0 ∧ pacer.inFlight = 0

namespace StationPacer

variable {pacer : StationPacer} {i : PacerIndex} {hand other : PacerHand}

theorem Ok.swap (h : pacer.Ok i hand other) : pacer.Ok i other hand :=
  { inFlight := by rw [h.inFlight, Nat.add_comm]
    calm := h.calm
    room := h.room
    head := h.head
    place := fun slot len nowNs hslot => h.place slot len nowNs hslot.symm
    unused := h.unused }

/-- A pacer with nothing in flight is in no hand. -/
theorem Ok.not_flying (h : pacer.Ok i hand other) (hnone : pacer.inFlight = 0) :
    hand.flying i = false ∧ other.flying i = false := by
  have hcount := h.inFlight
  rw [hnone] at hcount
  cases hhand : hand.flying i with
  | true =>
      rw [hhand, Bool.toNat_true] at hcount
      omega
  | false =>
      cases hother : other.flying i with
      | true =>
          rw [hother, Bool.toNat_true] at hcount
          omega
      | false => exact ⟨rfl, rfl⟩

theorem Ok.other_free (h : pacer.Ok i hand other) (hfly : hand.flying i = true) :
    other.flying i = false ∧ pacer.inFlight = 1 := by
  have hcount := h.inFlight
  have hcalm := h.calm
  rw [hfly] at hcount
  cases hother : other.flying i with
  | false => exact ⟨rfl, by rw [hcount, hother]; rfl⟩
  | true =>
      rw [hother] at hcount
      simp only [Bool.toNat_true] at hcount
      omega

theorem owed_of_not_flying (hhand : hand.flying i = false) (hother : other.flying i = false) :
    pacer.owed i hand other = pacer.queue := by
  rw [owed, PacerHand.octets_of_not_flying hhand, PacerHand.octets_of_not_flying hother,
    List.nil_append, List.nil_append]

theorem owed_swap (h : pacer.Ok i hand other) :
    pacer.owed i hand other = pacer.owed i other hand := by
  cases hfly : hand.flying i with
  | false =>
      rw [owed, owed, PacerHand.octets_of_not_flying hfly, List.nil_append, List.append_nil]
  | true =>
      have hother := (h.other_free hfly).1
      rw [owed, owed, PacerHand.octets_of_not_flying hother, List.nil_append, List.append_nil]

theorem queue_nil (h : pacer.count = 0) : pacer.queue = [] := by
  rw [queue, h]
  rfl

/-- What the head is taken from, as the transmit will read it. -/
theorem queue_takeHead (nowNs : Nat) (h : 0 < pacer.count) (hhead : pacer.head < stationPacerDepth) :
    pacer.queue =
      pacer.frame pacer.head (pacer.len pacer.head) :: (pacer.takeHead nowNs).queue := by
  obtain ⟨count, hcount⟩ : ∃ count, pacer.count = count + 1 := ⟨pacer.count - 1, by omega⟩
  rw [queue, hcount, SlotRing.contents_pop, Nat.mod_eq_of_lt hhead]
  congr 1
  simp only [takeHead, stationPacerNoteSend, queue, frame, hcount, Nat.add_sub_cancel]

theorem frame_enqueue (octets : List UInt8) :
    (fun slot => (pacer.enqueue octets).frame slot ((pacer.enqueue octets).len slot)) =
      Function.update (fun slot => pacer.frame slot (pacer.len slot))
        ((pacer.head + pacer.count) % stationPacerDepth) octets := by
  funext slot
  simp only [enqueue, frame]
  by_cases h : slot = (pacer.head + pacer.count) % stationPacerDepth
  · rw [h, Function.update_self, Function.update_self, Function.update_self, List.take_left]
  · rw [Function.update_of_ne h, Function.update_of_ne h, Function.update_of_ne h]

theorem queue_enqueue (octets : List UInt8) (h : pacer.count < stationPacerDepth) :
    (pacer.enqueue octets).queue = pacer.queue ++ [octets] := by
  rw [queue, frame_enqueue]
  exact SlotRing.contents_push _ octets h

/-- The slot written is not the one in flight. -/
theorem octets_enqueue (octets : List UInt8) (h : pacer.Ok i hand other) (hfly : hand.flying i = true)
    (hroom : pacer.count + pacer.inFlight < stationPacerDepth) :
    hand.octets (pacer.enqueue octets) i = hand.octets pacer i := by
  cases hand with
  | slot j slot len nowNs =>
      simp only [PacerHand.flying, decide_eq_true_eq] at hfly
      subst hfly
      have hinFlight := (h.other_free (by simp [PacerHand.flying])).2
      have hplace := h.place slot len nowNs (Or.inl rfl)
      have hne : slot ≠ (pacer.head + pacer.count) % stationPacerDepth := by
        rw [hplace]
        exact (SlotRing.slot_ne (by omega) (by omega)).symm
      simp only [PacerHand.octets, if_true, frame, enqueue, Function.update_of_ne hne]
  | _ => rfl

end StationPacer

/-! ## All pacers -/

def ofStream (streamId octets : List UInt8) : Bool := streamIdOf octets = streamId

/-- Each pacer has at most one frame in flight, and what was accepted of its stream is what was sent,
then what it owes. -/
structure PacersKept (pacers : PacerIndex → StationPacer) (accepted sent : List (List UInt8))
    (hand other : PacerHand) : Prop where
  ok : ∀ i, (pacers i).Ok i hand other
  unique : ∀ i j, (pacers i).valid = true → (pacers j).valid = true →
    (pacers i).streamId = (pacers j).streamId → i = j
  kept : ∀ i, (pacers i).valid = true →
    accepted.filter (ofStream (pacers i).streamId) =
      sent.filter (ofStream (pacers i).streamId) ++ (pacers i).owed i hand other
  gone : ∀ streamId, (∀ i, (pacers i).valid = true → (pacers i).streamId ≠ streamId) →
    accepted.filter (ofStream streamId) = sent.filter (ofStream streamId)

theorem filter_ofStream_self {streamId : List UInt8} {xs : List (List UInt8)}
    (h : ∀ x ∈ xs, streamIdOf x = streamId) : xs.filter (ofStream streamId) = xs :=
  List.filter_eq_self.mpr fun x hx => decide_eq_true (h x hx)

theorem filter_ofStream_other {streamId streamId' : List UInt8} {xs : List (List UInt8)}
    (h : ∀ x ∈ xs, streamIdOf x = streamId) (hne : streamId ≠ streamId') :
    xs.filter (ofStream streamId') = [] := by
  rw [List.filter_eq_nil_iff]
  intro x hx hstream
  exact hne ((h x hx).symm.trans (of_decide_eq_true hstream))

namespace PacersKept

variable {pacers : PacerIndex → StationPacer} {accepted sent : List (List UInt8)}
  {hand other : PacerHand} {i : PacerIndex}

theorem swap (h : PacersKept pacers accepted sent hand other) :
    PacersKept pacers accepted sent other hand :=
  { ok := fun i => (h.ok i).swap
    unique := h.unique
    kept := fun i hvalid => by
      rw [← StationPacer.owed_swap (h.ok i)]
      exact h.kept i hvalid
    gone := h.gone }

theorem streamIdOf_owed (h : PacersKept pacers accepted sent hand other)
    (hvalid : (pacers i).valid = true) :
    ∀ x ∈ (pacers i).owed i hand other, streamIdOf x = (pacers i).streamId := by
  intro x hx
  have hmem : x ∈ accepted.filter (ofStream (pacers i).streamId) := by
    rw [h.kept i hvalid]
    exact List.mem_append_right _ hx
  exact of_decide_eq_true (List.mem_filter.mp hmem).2

theorem valid_of_flying (h : PacersKept pacers accepted sent hand other)
    (hfly : hand.flying i = true) : (pacers i).valid = true := by
  by_contra hvalid
  have hunused := ((h.ok i).unused (Bool.eq_false_iff.mpr hvalid)).2
  have hone := ((h.ok i).other_free hfly).2
  omega

/-- One pacer changes, with what is in one hand: what it owed, and what is accepted, is what is sent
now, and what it owes now. -/
theorem move (h : PacersKept pacers accepted sent hand other) {pacer : StationPacer}
    {hand' : PacerHand} {xs ys : List (List UInt8)} (hhand : hand.At i) (hhand' : hand'.At i)
    (hvalid : (pacers i).valid = true) (hvalid' : pacer.valid = true)
    (hstream : pacer.streamId = (pacers i).streamId) (hok : pacer.Ok i hand' other)
    (hxs : ∀ x ∈ xs, streamIdOf x = (pacers i).streamId)
    (hbalance : (pacers i).owed i hand other ++ xs = ys ++ pacer.owed i hand' other) :
    PacersKept (Function.update pacers i pacer) (accepted ++ xs) (sent ++ ys) hand' other := by
  have hsame : ∀ j, (Function.update pacers i pacer j).valid = (pacers j).valid ∧
      (Function.update pacers i pacer j).streamId = (pacers j).streamId := by
    intro j
    by_cases hj : j = i
    · subst hj
      rw [Function.update_self, hvalid, hvalid', hstream]
      exact ⟨rfl, rfl⟩
    · rw [Function.update_of_ne hj]
      exact ⟨rfl, rfl⟩
  have hys : ∀ y ∈ ys, streamIdOf y = (pacers i).streamId := by
    intro y hy
    have hmem : y ∈ (pacers i).owed i hand other ++ xs := by
      rw [hbalance]
      exact List.mem_append_left _ hy
    obtain howed | hnew := List.mem_append.mp hmem
    · exact h.streamIdOf_owed hvalid y howed
    · exact hxs y hnew
  have hothers : ∀ streamId, (pacers i).streamId ≠ streamId →
      (accepted ++ xs).filter (ofStream streamId) = accepted.filter (ofStream streamId) ∧
        (sent ++ ys).filter (ofStream streamId) = sent.filter (ofStream streamId) := by
    intro streamId hne
    rw [List.filter_append, List.filter_append, filter_ofStream_other hxs hne,
      filter_ofStream_other hys hne, List.append_nil, List.append_nil]
    exact ⟨rfl, rfl⟩
  refine ⟨?_, ?_, ?_, ?_⟩
  · intro j
    by_cases hj : j = i
    · subst hj
      rw [Function.update_self]
      exact hok
    · rw [Function.update_of_ne hj]
      have hold := h.ok j
      refine ⟨?_, hold.calm, hold.room, hold.head, ?_, hold.unused⟩
      · rw [hold.inFlight, hhand j hj, hhand' j hj]
      · rintro slot len nowNs (hslot | hslot)
        · have hfly := hhand' j hj
          rw [hslot] at hfly
          simp at hfly
        · exact hold.place slot len nowNs (Or.inr hslot)
  · intro j k hj hk heq
    rw [(hsame j).1] at hj
    rw [(hsame k).1] at hk
    rw [(hsame j).2, (hsame k).2] at heq
    exact h.unique j k hj hk heq
  · intro j hj
    rw [(hsame j).1] at hj
    rw [(hsame j).2]
    by_cases hji : j = i
    · subst hji
      rw [Function.update_self, List.filter_append, List.filter_append, filter_ofStream_self hxs,
        filter_ofStream_self hys, h.kept j hj, List.append_assoc, List.append_assoc, hbalance]
    · have hne : (pacers i).streamId ≠ (pacers j).streamId :=
        fun heq => hji (h.unique j i hj hvalid heq.symm)
      rw [Function.update_of_ne hji, (hothers _ hne).1, (hothers _ hne).2, h.kept j hj]
      rw [StationPacer.owed, StationPacer.owed,
        PacerHand.octets_of_not_flying (hhand j hji),
        PacerHand.octets_of_not_flying (hhand' j hji)]
  · intro streamId hnone
    have hne : (pacers i).streamId ≠ streamId := by
      rw [← (hsame i).2]
      exact hnone i ((hsame i).1.trans hvalid)
    rw [(hothers _ hne).1, (hothers _ hne).2]
    apply h.gone
    intro j hj
    rw [← (hsame j).2]
    exact hnone j ((hsame j).1.trans hj)

theorem at_free : PacerHand.free.At i := fun _ _ => rfl

theorem at_slot {place len nowNs : Nat} : (PacerHand.slot i place len nowNs).At i :=
  fun _ hj => decide_eq_false (Ne.symm hj)

theorem at_own {octets : List UInt8} {nowNs : Nat} : (PacerHand.own i octets nowNs).At i :=
  fun _ hj => decide_eq_false (Ne.symm hj)

theorem at_landing : (PacerHand.landing i).At i := fun _ hj => decide_eq_false (Ne.symm hj)

/-- The head is taken into a free hand, nothing of the stream being in flight. -/
theorem takeHead (h : PacersKept pacers accepted sent .free other) (nowNs : Nat)
    (hvalid : (pacers i).valid = true) (hcount : 0 < (pacers i).count)
    (hcalm : (pacers i).inFlight = 0) :
    PacersKept (Function.update pacers i ((pacers i).takeHead nowNs)) accepted sent
      (.slot i (pacers i).head ((pacers i).len (pacers i).head) nowNs) other := by
  have hold := h.ok i
  have hother := (hold.not_flying hcalm).2
  have hroom := hold.room
  have hmove := @move pacers accepted sent .free other i h ((pacers i).takeHead nowNs)
    (.slot i (pacers i).head ((pacers i).len (pacers i).head) nowNs) [] [] at_free at_slot hvalid
    hvalid rfl ?_ (by simp) ?_
  · rw [List.append_nil, List.append_nil] at hmove
    exact hmove
  · refine ⟨?_, ?_, ?_, ?_, ?_, ?_⟩
    · simp [StationPacer.takeHead, stationPacerNoteSend, hother, hcalm]
    · simp [StationPacer.takeHead, stationPacerNoteSend, hcalm]
    · simp only [StationPacer.takeHead, stationPacerNoteSend]
      omega
    · exact Nat.mod_lt _ (by decide)
    · rintro slot len nowNs (hslot | hslot)
      · simp only [PacerHand.slot.injEq] at hslot
        obtain ⟨-, rfl, -, -⟩ := hslot
        have hhead := hold.head
        simp only [StationPacer.takeHead, stationPacerNoteSend, stationPacerDepth] at hhead ⊢
        omega
      · rw [hslot] at hother
        simp at hother
    · intro hnot
      exact absurd (hnot.symm.trans hvalid) (by simp)
  · rw [List.append_nil, List.nil_append, StationPacer.owed_of_not_flying rfl hother,
      StationPacer.queue_takeHead nowNs hcount hold.head]
    rw [StationPacer.owed, PacerHand.octets_of_not_flying hother, PacerHand.octets_slot_self,
      List.append_nil, List.singleton_append]
    rfl

/-- What is in the hand goes out. -/
theorem transmit (h : PacersKept pacers accepted sent hand other) {octets : List UInt8}
    (hhand : hand.At i) (hfly : hand.flying i = true)
    (hoctets : hand.octets (pacers i) i = [octets]) :
    PacersKept pacers accepted (sent ++ [octets]) (.landing i) other := by
  have hold := h.ok i
  have hmove := @move pacers accepted sent hand other i h (pacers i) (.landing i) [] [octets] hhand
    at_landing (h.valid_of_flying hfly) (h.valid_of_flying hfly) rfl ?_ (by simp) ?_
  · rw [List.append_nil, Function.update_eq_self] at hmove
    exact hmove
  · refine ⟨?_, hold.calm, hold.room, hold.head, ?_, hold.unused⟩
    · rw [hold.inFlight, hfly]
      simp
    · rintro slot len nowNs (hslot | hslot)
      · cases hslot
      · exact hold.place slot len nowNs (Or.inr hslot)
  · rw [List.append_nil, StationPacer.owed, hoctets, StationPacer.owed]
    rfl

theorem landed (h : PacersKept pacers accepted sent (.landing i) other) :
    PacersKept (Function.update pacers i (pacers i).landed) accepted sent .free other := by
  have hold := h.ok i
  have hfly : (PacerHand.landing i).flying i = true := decide_eq_true rfl
  obtain ⟨hother, hone⟩ := hold.other_free hfly
  have hvalid := h.valid_of_flying hfly
  have hmove := @move pacers accepted sent (.landing i) other i h (pacers i).landed .free [] []
    at_landing at_free hvalid hvalid rfl ?_ (by simp) ?_
  · rw [List.append_nil, List.append_nil] at hmove
    exact hmove
  · have hroom := hold.room
    refine ⟨?_, ?_, ?_, hold.head, ?_, ?_⟩
    · simp [StationPacer.landed, hother, hone]
    · simp [StationPacer.landed, hone]
    · simp only [StationPacer.landed]
      omega
    · rintro slot len nowNs (hslot | hslot)
      · cases hslot
      · rw [hslot] at hother
        simp at hother
    · intro hnot
      exact absurd (hnot.symm.trans hvalid) (by simp)
  · rw [List.append_nil, List.nil_append]
    rfl

/-- A frame goes straight through: the queue is empty and nothing is in flight. -/
theorem passThrough (h : PacersKept pacers accepted sent .free other) {octets : List UInt8}
    {pacer : StationPacer} (nowNs : Nat) (hvalid : (pacers i).valid = true)
    (hstream : streamIdOf octets = (pacers i).streamId) (hcount : (pacers i).count = 0)
    (hcalm : (pacers i).inFlight = 0)
    (hpacer : pacer = { (pacers i) with
      inFlight := (pacers i).inFlight + 1, sentNs := pacer.sentNs, sentIdx := pacer.sentIdx }) :
    PacersKept (Function.update pacers i pacer) (accepted ++ [octets]) sent
      (.own i octets nowNs) other := by
  have hold := h.ok i
  have hother := (hold.not_flying hcalm).2
  have hfields : pacer.inFlight = 1 ∧ pacer.count = 0 ∧ pacer.head = (pacers i).head ∧
      pacer.valid = true ∧ pacer.streamId = (pacers i).streamId := by
    rw [hpacer]
    exact ⟨by simp [hcalm], hcount, rfl, hvalid, rfl⟩
  obtain ⟨hinFlight, hempty, hhead, hvalid', hstream'⟩ := hfields
  have hmove := @move pacers accepted sent .free other i h pacer (.own i octets nowNs) [octets] []
    at_free at_own hvalid hvalid' hstream' ?_ (by simpa using hstream) ?_
  · rw [List.append_nil] at hmove
    exact hmove
  · refine ⟨?_, hinFlight.le, ?_, ?_, ?_, ?_⟩
    · simp [hother, hinFlight]
    · rw [hinFlight, hempty]
      decide
    · rw [hhead]
      exact hold.head
    · rintro slot len nowNs (hslot | hslot)
      · cases hslot
      · rw [hslot] at hother
        simp at hother
    · intro hnot
      exact absurd (hnot.symm.trans hvalid') (by simp)
  · rw [StationPacer.owed_of_not_flying rfl hother, StationPacer.queue_nil hcount,
      List.nil_append, List.nil_append, StationPacer.owed,
      PacerHand.octets_of_not_flying hother, StationPacer.queue_nil hempty]
    simp

theorem enqueue (h : PacersKept pacers accepted sent .free other) {octets : List UInt8}
    (hvalid : (pacers i).valid = true) (hstream : streamIdOf octets = (pacers i).streamId)
    (hroom : (pacers i).count + (pacers i).inFlight < stationPacerDepth) :
    PacersKept (Function.update pacers i ((pacers i).enqueue octets)) (accepted ++ [octets]) sent
      .free other := by
  have hold := h.ok i
  have hmove := @move pacers accepted sent .free other i h ((pacers i).enqueue octets) .free
    [octets] [] at_free at_free hvalid hvalid rfl ?_ (by simpa using hstream) ?_
  · rw [List.append_nil] at hmove
    exact hmove
  · refine ⟨hold.inFlight, hold.calm, ?_, hold.head, hold.place, ?_⟩
    · simp only [StationPacer.enqueue]
      omega
    · intro hnot
      exact absurd (hnot.symm.trans hvalid) (by simp)
  · have hother : other.octets ((pacers i).enqueue octets) i = other.octets (pacers i) i := by
      cases hfly : other.flying i with
      | true => exact StationPacer.octets_enqueue octets hold.swap hfly hroom
      | false =>
          rw [PacerHand.octets_of_not_flying hfly, PacerHand.octets_of_not_flying hfly]
    rw [List.nil_append, StationPacer.owed, StationPacer.owed, hother,
      StationPacer.queue_enqueue octets (by omega)]
    simp

/-- A pacer whose queue, slots and stream stay as they are. -/
theorem refresh (h : PacersKept pacers accepted sent hand other) {pacer : StationPacer}
    (hvalid : pacer.valid = (pacers i).valid) (hstream : pacer.streamId = (pacers i).streamId)
    (hhead : pacer.head = (pacers i).head) (hcount : pacer.count = (pacers i).count)
    (hinFlight : pacer.inFlight = (pacers i).inFlight) (hlen : pacer.len = (pacers i).len)
    (hslot : pacer.slot = (pacers i).slot) :
    PacersKept (Function.update pacers i pacer) accepted sent hand other := by
  have hoctets : ∀ hand : PacerHand, hand.octets pacer i = hand.octets (pacers i) i := by
    intro hand
    cases hand <;> simp only [PacerHand.octets, StationPacer.frame, hslot]
  have howed : pacer.owed i hand other = (pacers i).owed i hand other := by
    simp only [StationPacer.owed, hoctets, StationPacer.queue, StationPacer.frame, hslot, hlen, hhead,
      hcount]
  have hsame : ∀ j, (Function.update pacers i pacer j).valid = (pacers j).valid ∧
      (Function.update pacers i pacer j).streamId = (pacers j).streamId ∧
      (Function.update pacers i pacer j).owed j hand other = (pacers j).owed j hand other := by
    intro j
    by_cases hj : j = i
    · subst hj
      rw [Function.update_self]
      exact ⟨hvalid, hstream, howed⟩
    · rw [Function.update_of_ne hj]
      exact ⟨rfl, rfl, rfl⟩
  refine ⟨?_, ?_, ?_, ?_⟩
  · intro j
    by_cases hj : j = i
    · subst hj
      rw [Function.update_self]
      have hold := h.ok j
      exact
        { inFlight := hinFlight.trans hold.inFlight
          calm := hinFlight.trans_le hold.calm
          room := by rw [hcount, hinFlight]; exact hold.room
          head := hhead.trans_lt hold.head
          place := by rw [hhead]; exact hold.place
          unused := by rw [hvalid, hcount, hinFlight]; exact hold.unused }
    · rw [Function.update_of_ne hj]
      exact h.ok j
  · intro j k
    rw [(hsame j).1, (hsame k).1, (hsame j).2.1, (hsame k).2.1]
    exact h.unique j k
  · intro j
    rw [(hsame j).1, (hsame j).2.1, (hsame j).2.2]
    exact h.kept j
  · intro streamId hnone
    apply h.gone
    intro j hj
    rw [← (hsame j).2.1]
    exact hnone j ((hsame j).1.trans hj)

/-- An entry taken over is owed nothing, and the stream it is taken over for owed nothing either. -/
theorem claim (h : PacersKept pacers accepted sent hand other) {streamId : List UInt8}
    (hspare : (pacers i).valid = false ∨ (pacers i).count = 0 ∧ (pacers i).inFlight = 0)
    (hfresh : ∀ j, (pacers j).valid = true → (pacers j).streamId ≠ streamId) :
    PacersKept (Function.update pacers i ((pacers i).claim streamId)) accepted sent hand other := by
  have hold := h.ok i
  have hidle : (pacers i).count = 0 ∧ (pacers i).inFlight = 0 := hspare.elim hold.unused id
  obtain ⟨hhand, hother⟩ := hold.not_flying hidle.2
  have hnoSlot : ∀ hand : PacerHand, hand.flying i = false → ∀ slot len nowNs,
      hand ≠ .slot i slot len nowNs := by
    rintro hand hfly slot len nowNs rfl
    simp at hfly
  have hnew : ∀ j, (Function.update pacers i ((pacers i).claim streamId) j).valid = true →
      j = i ∧ (Function.update pacers i ((pacers i).claim streamId) j).streamId = streamId ∨
      j ≠ i ∧ Function.update pacers i ((pacers i).claim streamId) j = pacers j ∧
        (pacers j).streamId ≠ streamId := by
    intro j hj
    by_cases hji : j = i
    · subst hji
      exact Or.inl ⟨rfl, by rw [Function.update_self]; rfl⟩
    · rw [Function.update_of_ne hji] at hj ⊢
      exact Or.inr ⟨hji, rfl, hfresh j hj⟩
  refine ⟨?_, ?_, ?_, ?_⟩
  · intro j
    by_cases hj : j = i
    · subst hj
      rw [Function.update_self]
      exact
        { inFlight := hold.inFlight
          calm := hold.calm
          room := by
            have hroom := hold.room
            simp only [StationPacer.claim]
            omega
          head := Nat.zero_lt_succ 63
          place := fun slot len nowNs hslot =>
            hslot.elim (fun heq => absurd heq (hnoSlot hand hhand slot len nowNs))
              fun heq => absurd heq (hnoSlot other hother slot len nowNs)
          unused := fun _ => ⟨rfl, hidle.2⟩ }
    · rw [Function.update_of_ne hj]
      exact h.ok j
  · intro j k hj hk heq
    obtain ⟨hji, hjs⟩ | ⟨hji, hjp, hjs⟩ := hnew j hj <;>
      obtain ⟨hki, hks⟩ | ⟨hki, hkp, hks⟩ := hnew k hk
    · rw [hji, hki]
    · rw [hjs, hkp] at heq
      exact absurd heq.symm hks
    · rw [hks, hjp] at heq
      exact absurd heq hjs
    · rw [hjp, hkp] at heq
      rw [hjp] at hj
      rw [hkp] at hk
      exact h.unique j k hj hk heq
  · intro j hj
    obtain ⟨rfl, hjs⟩ | ⟨hji, hjp, -⟩ := hnew j hj
    · rw [hjs, Function.update_self, h.gone streamId hfresh,
        StationPacer.owed_of_not_flying hhand hother, StationPacer.queue_nil rfl, List.append_nil]
    · rw [hjp] at hj ⊢
      exact h.kept j hj
  · intro streamId' hnone
    by_cases howner : (pacers i).valid = true ∧ (pacers i).streamId = streamId'
    · obtain ⟨hvalid, rfl⟩ := howner
      rw [h.kept i hvalid, StationPacer.owed_of_not_flying hhand hother,
        StationPacer.queue_nil hidle.1, List.append_nil]
    · apply h.gone
      intro j hj
      by_cases hji : j = i
      · subst hji
        exact fun heq => howner ⟨hj, heq⟩
      · have hne := hnone j
        rw [Function.update_of_ne hji] at hne
        exact hne hj

end PacersKept

/-! ## Steps of either context -/

namespace StationPacers

/-- The pacer whose head the drain takes in this step. -/
def drainTakes (s : StationPacers) : DrainPc → Option PacerIndex
  | .scan nowNs => s.due? nowNs
  | _ => .none

/-- The pacer whose head the forwarding context takes, early, because the queue is full. -/
def overflows (s : StationPacers) : ForwardPc → Option PacerIndex
  | .offer frame i =>
      if (s.pacers i).count = 0 ∧ (s.pacers i).inFlight = 0 ∧ s.draining = false ∧
          stationPacerNextNs (s.pacers i) ≤ frame.nowUs * 1000 then .none
      else if (s.pacers i).count + (s.pacers i).inFlight < stationPacerDepth then .none
      else if 0 < (s.pacers i).count then some i
      else .none
  | _ => .none

/-- The pacer whose head a step takes off its queue. -/
def takes (s : StationPacers) : PacerEvent → Option PacerIndex
  | .forward _ =>
      match s.forward with
      | .drain pc => s.drainTakes pc
      | pc => s.overflows pc
  | .task _ => s.task.bind s.drainTakes
  | _ => .none

/-- A head is taken only while nothing of its stream is in flight. -/
def OneInFlight (s : StationPacers) (e : PacerEvent) : Prop :=
  ∀ i, s.takes e = some i → (s.pacers i).inFlight = 0

def sent (s : StationPacers) : List (List UInt8) := s.transmitted.map PacedFrame.octets

theorem sent_transmit (s : StationPacers) (egressPort : Nat) (octets : List UInt8) :
    (s.transmit egressPort octets).sent = s.sent ++ [octets] := by
  rw [sent, transmit, List.map_append, List.map_singleton, sent]

theorem due?_spec {s : StationPacers} {nowNs : Nat} {i : PacerIndex} (h : s.due? nowNs = some i) :
    (s.pacers i).valid = true ∧ 0 < (s.pacers i).count ∧ stationPacerNextNs (s.pacers i) ≤ nowNs := by
  have hfound := List.find?_some h
  simpa [Bool.and_eq_true, and_assoc] using hfound

theorem drainStep_accepted (s : StationPacers) (armed : Bool) (pc : DrainPc) :
    (s.drainStep armed pc).1.accepted = s.accepted ∧ (s.drainStep armed pc).1.forward = s.forward ∧
      (s.drainStep armed pc).1.task = s.task ∧ (s.drainStep armed pc).1.clockUs = s.clockUs := by
  cases pc with
  | enter =>
      rw [drainStep]
      split <;> exact ⟨rfl, rfl, rfl, rfl⟩
  | scan nowNs =>
      rw [drainStep]
      split <;> exact ⟨rfl, rfl, rfl, rfl⟩
  | arm earliestNs =>
      rw [drainStep]
      split <;> exact ⟨rfl, rfl, rfl, rfl⟩
  | _ => exact ⟨rfl, rfl, rfl, rfl⟩

/-- What neither taking a head nor landing a frame changes of a pacer, no drain changes. -/
theorem drainStep_field {α : Type*} {field : StationPacer → α}
    (htake : ∀ pacer nowNs, field (StationPacer.takeHead pacer nowNs) = field pacer)
    (hland : ∀ pacer, field (StationPacer.landed pacer) = field pacer) (s : StationPacers)
    (armed : Bool) (pc : DrainPc) (j : PacerIndex) :
    field ((s.drainStep armed pc).1.pacers j) = field (s.pacers j) := by
  have hupdate : ∀ i pacer, field pacer = field (s.pacers i) →
      field (Function.update s.pacers i pacer j) = field (s.pacers j) := by
    intro i pacer hfield
    by_cases hj : j = i
    · subst hj
      rw [Function.update_self]
      exact hfield
    · rw [Function.update_of_ne hj]
  cases pc with
  | enter =>
      rw [drainStep]
      split <;> rfl
  | scan nowNs =>
      rw [drainStep]
      split
      · exact hupdate _ _ (htake _ _)
      · rfl
  | done i => exact hupdate i _ (hland _)
  | arm earliestNs =>
      rw [drainStep]
      split <;> rfl
  | _ => rfl

/-- One step of a drain, whichever context drains. -/
theorem drainStep_kept {s : StationPacers} {pc : DrainPc} {other : PacerHand} (armed : Bool)
    (h : PacersKept s.pacers s.accepted s.sent pc.hand other)
    (hcalm : ∀ i, s.drainTakes pc = some i → (s.pacers i).inFlight = 0) :
    PacersKept (s.drainStep armed pc).1.pacers (s.drainStep armed pc).1.accepted
      (s.drainStep armed pc).1.sent (taskHand (s.drainStep armed pc).2) other := by
  cases pc with
  | scan nowNs =>
      simp only [drainTakes] at hcalm
      simp only [drainStep]
      cases hdue : s.due? nowNs with
      | some i =>
          obtain ⟨hvalid, hcount, -⟩ := due?_spec hdue
          exact h.takeHead nowNs hvalid hcount (hcalm i hdue)
      | none =>
          cases hearliest : s.earliestNs <;> exact h
  | transmit i slot len nowNs =>
      have hsent := @PacersKept.transmit _ _ _ _ other i h ((s.pacers i).frame slot len)
        PacersKept.at_slot (by simp [DrainPc.hand]) (by simp [DrainPc.hand])
      simp only [drainStep]
      rw [sent_transmit]
      exact hsent
  | done i => exact h.landed
  | enter =>
      simp only [drainStep]
      split <;> exact h
  | read => exact h
  | arm earliestNs =>
      simp only [drainStep]
      split <;> exact h

theorem find?_spec {s : StationPacers} {streamId : List UInt8} {i : PacerIndex}
    (h : s.find? streamId = some i) :
    (s.pacers i).valid = true ∧ (s.pacers i).streamId = streamId := by
  have hfound := List.find?_some h
  simpa [Bool.and_eq_true] using hfound

theorem find?_none {s : StationPacers} {streamId : List UInt8} (h : s.find? streamId = .none) :
    ∀ j, (s.pacers j).valid = true → (s.pacers j).streamId ≠ streamId := by
  intro j hvalid heq
  have hnot := List.find?_eq_none.mp h j (List.mem_finRange j)
  simp [hvalid, heq] at hnot

theorem spare?_spec {s : StationPacers} {nowUs : Nat} {i : PacerIndex} (h : s.spare? nowUs = some i) :
    (s.pacers i).valid = false ∨ (s.pacers i).count = 0 ∧ (s.pacers i).inFlight = 0 := by
  have hfound := List.find?_some h
  simp only [Bool.or_eq_true, Bool.not_eq_true', Bool.and_eq_true, decide_eq_true_eq] at hfound
  exact hfound.imp id And.left

end StationPacers

/-- The frame the forwarding context is at, with its pacer. -/
def ForwardPc.bound : ForwardPc → Option (StationFrame × PacerIndex)
  | .configure frame i => some (frame, i)
  | .offer frame i => some (frame, i)
  | .transmitHead frame i _ _ => some (frame, i)
  | .headDone frame i => some (frame, i)
  | .transmitOwn frame i => some (frame, i)
  | _ => .none

/-- The frame at hand is of its pacer's stream. -/
def StationPacers.Bound (s : StationPacers) (frame : StationFrame) (i : PacerIndex) : Prop :=
  (s.pacers i).valid = true ∧ streamIdOf frame.octets = (s.pacers i).streamId

structure PacersInv (s : StationPacers) : Prop where
  kept : PacersKept s.pacers s.accepted s.sent s.forward.hand (taskHand s.task)
  bound : ∀ frame i, s.forward.bound = some (frame, i) → s.Bound frame i

namespace PacersInv

variable {s : StationPacers}

theorem init : PacersInv .init :=
  { kept :=
      { ok := fun i =>
          { inFlight := rfl
            calm := Nat.zero_le 1
            room := Nat.zero_le _
            head := Nat.zero_lt_succ 63
            place := by rintro slot len nowNs (h | h) <;> cases h
            unused := fun _ => ⟨rfl, rfl⟩ }
        unique := fun _ _ h => by cases h
        kept := fun _ h => by cases h
        gone := fun _ _ => rfl }
    bound := fun _ _ h => by cases h }

theorem lookupStep (h : PacersInv s) {frame : StationFrame} (hpc : s.forward = .lookup frame)
    (mallocOk : Bool) : PacersInv (s.lookupStep frame mallocOk) := by
  have hkept := h.kept
  rw [hpc] at hkept
  rw [StationPacers.lookupStep]
  split
  · rename_i i hfind
    obtain ⟨hvalid, hstream⟩ := StationPacers.find?_spec hfind
    refine ⟨hkept, ?_⟩
    intro frame' i' hbound
    cases hbound
    exact ⟨hvalid, hstream.symm⟩
  · rename_i hfind
    split
    · rename_i i hspare
      split
      · refine ⟨hkept.claim (StationPacers.spare?_spec hspare) (StationPacers.find?_none hfind), ?_⟩
        intro frame' i' hbound
        cases hbound
        simp only [StationPacers.Bound, StationPacers.setForward, StationPacers.setPacer,
          Function.update_self]
        exact ⟨rfl, rfl⟩
      · exact ⟨hkept.refresh rfl rfl rfl rfl rfl rfl rfl, fun _ _ hbound => by cases hbound⟩
    · exact ⟨hkept, fun _ _ hbound => by cases hbound⟩

theorem offerStep (h : PacersInv s) {frame : StationFrame} {i : PacerIndex}
    (hpc : s.forward = .offer frame i)
    (hcalm : ∀ i', s.overflows s.forward = some i' → (s.pacers i').inFlight = 0) :
    PacersInv (s.offerStep frame i) := by
  have hkept := h.kept
  rw [hpc] at hkept hcalm
  obtain ⟨hvalid, hstream⟩ := h.bound frame i (by rw [hpc]; rfl)
  have hone := (hkept.ok i).calm
  simp only [StationPacers.overflows] at hcalm
  rw [StationPacers.offerStep]
  by_cases hpass : (s.pacers i).count = 0 ∧ (s.pacers i).inFlight = 0 ∧ s.draining = false ∧
      stationPacerNextNs (s.pacers i) ≤ frame.nowUs * 1000
  · simp only [if_pos hpass]
    refine ⟨hkept.passThrough _ hvalid hstream hpass.1 hpass.2.1 rfl, ?_⟩
    intro frame' i' hbound
    cases hbound
    simp only [StationPacers.Bound, StationPacers.setForward, StationPacers.setPacer,
      StationPacers.accept, Function.update_self]
    exact ⟨hvalid, hstream⟩
  · by_cases hroom : (s.pacers i).count + (s.pacers i).inFlight < stationPacerDepth
    · simp only [if_neg hpass, if_pos hroom]
      exact ⟨hkept.enqueue hvalid hstream hroom, fun _ _ hbound => by cases hbound⟩
    · by_cases hfull : 0 < (s.pacers i).count
      · simp only [if_neg hpass, if_neg hroom, if_pos hfull] at hcalm ⊢
        refine ⟨hkept.takeHead _ hvalid hfull (hcalm i rfl), ?_⟩
        intro frame' i' hbound
        cases hbound
        simp only [StationPacers.Bound, StationPacers.setForward, StationPacers.setPacer,
          Function.update_self]
        exact ⟨hvalid, hstream⟩
      · -- a queue of none leaves room for the one that may be in flight
        have hdepth : 1 < stationPacerDepth := by decide
        omega

theorem forwardStep (h : PacersInv s) (ok : Bool) (hcalm : s.OneInFlight (.forward ok)) :
    PacersInv (s.forwardStep ok) := by
  have hkept := h.kept
  have hbound := h.bound
  rw [StationPacers.forwardStep]
  simp only [StationPacers.OneInFlight, StationPacers.takes] at hcalm
  cases hpc : s.forward with
  | idle => exact h
  | lookup frame => exact h.lookupStep hpc ok
  | configure frame i =>
      rw [hpc] at hkept hbound
      obtain ⟨hvalid, hstream⟩ := hbound frame i rfl
      have hfields : ∀ pacer : StationPacer, ∀ port interval frames us,
          (pacer.configure port interval frames us).valid = pacer.valid ∧
          (pacer.configure port interval frames us).streamId = pacer.streamId ∧
          (pacer.configure port interval frames us).head = pacer.head ∧
          (pacer.configure port interval frames us).count = pacer.count ∧
          (pacer.configure port interval frames us).inFlight = pacer.inFlight ∧
          (pacer.configure port interval frames us).len = pacer.len ∧
          (pacer.configure port interval frames us).slot = pacer.slot := by
        intro pacer port interval frames us
        rw [StationPacer.configure]
        split <;> exact ⟨rfl, rfl, rfl, rfl, rfl, rfl, rfl⟩
      obtain ⟨hv, hs, hh, hc, hi, hl, hsl⟩ := hfields (s.pacers i) frame.egressPort
        (streamIntervalNs frame.octets) frame.maxFrames frame.nowUs
      refine ⟨hkept.refresh hv hs hh hc hi hl hsl, ?_⟩
      intro frame' i' hbound'
      cases hbound'
      simp only [StationPacers.Bound, StationPacers.setForward, StationPacers.setPacer,
        Function.update_self, hv, hs]
      exact ⟨hvalid, hstream⟩
  | offer frame i =>
      rw [hpc] at hcalm
      exact h.offerStep hpc (by rw [hpc]; exact hcalm)
  | transmitHead frame i slot len =>
      rw [hpc] at hkept hbound
      have hsent := @PacersKept.transmit _ _ _ _ _ i hkept ((s.pacers i).frame slot len)
        PacersKept.at_slot (by simp [ForwardPc.hand]) (by simp [ForwardPc.hand])
      rw [← StationPacers.sent_transmit s frame.egressPort] at hsent
      refine ⟨hsent, ?_⟩
      intro frame' i' hbound'
      cases hbound'
      exact hbound frame i rfl
  | headDone frame i =>
      rw [hpc] at hkept hbound
      refine ⟨hkept.landed, ?_⟩
      intro frame' i' hbound'
      cases hbound'
      simp only [StationPacers.Bound, StationPacers.setForward, StationPacers.setPacer,
        Function.update_self]
      exact hbound frame i rfl
  | transmitOwn frame i =>
      rw [hpc] at hkept
      have hsent := @PacersKept.transmit _ _ _ _ _ i hkept frame.octets PacersKept.at_own
        (by simp [ForwardPc.hand]) (by simp [ForwardPc.hand])
      rw [← StationPacers.sent_transmit s frame.egressPort] at hsent
      exact ⟨hsent, fun _ _ hbound' => by cases hbound'⟩
  | ownDone i =>
      rw [hpc] at hkept
      exact ⟨hkept.landed, fun _ _ hbound' => by cases hbound'⟩
  | drain pc =>
      rw [hpc] at hkept hcalm
      have hstep := StationPacers.drainStep_kept ok hkept hcalm
      obtain ⟨-, -, htask, -⟩ := s.drainStep_accepted ok pc
      simp only
      rw [← htask] at hstep
      cases hnext : (s.drainStep ok pc).2 with
      | none =>
          rw [hnext] at hstep
          exact ⟨hstep, fun _ _ hbound' => by cases hbound'⟩
      | some pc' =>
          rw [hnext] at hstep
          exact ⟨hstep, fun _ _ hbound' => by cases hbound'⟩

theorem taskStep (h : PacersInv s) (armed : Bool) (hcalm : s.OneInFlight (.task armed)) :
    PacersInv (s.taskStep armed) := by
  have hkept := h.kept
  rw [StationPacers.taskStep]
  simp only [StationPacers.OneInFlight, StationPacers.takes] at hcalm
  cases htask : s.task with
  | none =>
      rw [htask] at hkept
      simp only
      split
      · exact ⟨hkept, h.bound⟩
      · exact h
  | some pc =>
      rw [htask] at hkept hcalm
      have hstep := (StationPacers.drainStep_kept armed hkept.swap hcalm).swap
      obtain ⟨-, hforward, -, -⟩ := s.drainStep_accepted armed pc
      refine ⟨?_, ?_⟩
      · simp only [hforward]
        exact hstep
      · intro frame i hbound
        simp only [hforward] at hbound
        obtain ⟨hvalid, hstream⟩ := h.bound frame i hbound
        have hv := @StationPacers.drainStep_field _ StationPacer.valid (fun _ _ => rfl)
          (fun _ => rfl) s armed pc i
        have hs := @StationPacers.drainStep_field _ StationPacer.streamId (fun _ _ => rfl)
          (fun _ => rfl) s armed pc i
        exact ⟨hv.trans hvalid, hstream.trans hs.symm⟩

theorem arrive (h : PacersInv s) (octets : List UInt8) (egressPort : Nat)
    (maxIntervalFrames : Option Nat) (up : Bool) :
    PacersInv (s.arrive octets egressPort maxIntervalFrames up) := by
  have hkept := h.kept
  unfold StationPacers.arrive
  split
  · rename_i hidle
    rw [hidle] at hkept
    split
    · simp only
      split
      · exact ⟨hkept, fun _ _ hbound => by cases hbound⟩
      · refine ⟨?_, ?_⟩
        · simp only [hidle]
          exact hkept
        · simp only [hidle]
          exact fun _ _ hbound => by cases hbound
    · exact h
  · exact h

theorem step (h : PacersInv s) (e : PacerEvent) (hcalm : s.OneInFlight e) :
    PacersInv (pacerStep s e) := by
  cases e with
  | pass us => exact ⟨h.kept, h.bound⟩
  | arrive octets egressPort maxIntervalFrames up =>
      exact h.arrive octets egressPort maxIntervalFrames up
  | forward ok => exact h.forwardStep ok hcalm
  | task armed => exact h.taskStep armed hcalm
  | alarm =>
      rw [pacerStep, StationPacers.alarm]
      split
      · split
        · exact ⟨h.kept, h.bound⟩
        · exact h
      · exact h

end PacersInv

/-! ## Without overflow -/

def DrainPc.holds : DrainPc → Bool
  | .enter => false
  | .arm _ => false
  | _ => true

def ForwardPc.holds : ForwardPc → Bool
  | .drain pc => pc.holds
  | _ => false

def taskHolds (task : Option DrainPc) : Bool := task.elim false DrainPc.holds

/-- The pacer past whose queue the forwarding context sends a frame. -/
def ForwardPc.passing : ForwardPc → Option PacerIndex
  | .transmitOwn _ i => some i
  | .ownDone i => some i
  | _ => .none

def ForwardPc.early : ForwardPc → Bool
  | .transmitHead _ _ _ _ => true
  | .headDone _ _ => true
  | _ => false

/-- One context drains at a time. -/
structure DrainHeld (s : StationPacers) : Prop where
  draining : s.draining = (s.forward.holds || taskHolds s.task)
  exclusive : s.forward.holds = false ∨ taskHolds s.task = false

/-- No head has left early, and a frame sent past a queue finds it empty. -/
structure PacersCalm (s : StationPacers) : Prop extends DrainHeld s where
  inTurn : s.forward.early = false
  passing : ∀ i, s.forward.passing = some i → (s.pacers i).count = 0

def StationPacers.NoOverflow (s : StationPacers) : PacerEvent → Prop
  | .forward _ => s.overflows s.forward = .none
  | _ => True

theorem DrainPc.hand_of_not_holds {pc : DrainPc} (h : pc.holds = false) : pc.hand = .free := by
  cases pc <;> simp_all [DrainPc.holds, DrainPc.hand]

theorem taskHand_of_not_holds {task : Option DrainPc} (h : taskHolds task = false) :
    taskHand task = .free := by
  cases task with
  | none => rfl
  | some pc => exact DrainPc.hand_of_not_holds h

namespace DrainHeld

variable {s : StationPacers}

/-- The drain is taken by one context and given back by it. -/
theorem drainStep_draining {pc : DrainPc} {held : Bool} (armed : Bool)
    (hdraining : s.draining = (pc.holds || held)) (hexclusive : pc.holds = false ∨ held = false) :
    (s.drainStep armed pc).1.draining = (taskHolds (s.drainStep armed pc).2 || held) ∧
      (taskHolds (s.drainStep armed pc).2 = false ∨ held = false) := by
  cases pc with
  | enter =>
      simp only [DrainPc.holds, Bool.false_or] at hdraining
      rw [StationPacers.drainStep]
      split
      · exact ⟨hdraining, Or.inl rfl⟩
      · rename_i hfree
        have hheld : held = false := by
          rw [← hdraining]
          exact Bool.eq_false_iff.mpr hfree
        exact ⟨rfl, Or.inr hheld⟩
  | scan nowNs =>
      have hheld : held = false := by simpa [DrainPc.holds] using hexclusive
      rw [StationPacers.drainStep]
      split
      · exact ⟨hdraining, Or.inr hheld⟩
      · cases hearliest : s.earliestNs with
        | none => exact ⟨hheld.symm, Or.inr hheld⟩
        | some earliestNs => exact ⟨hheld.symm, Or.inr hheld⟩
  | arm earliestNs =>
      rw [StationPacers.drainStep]
      split <;> exact ⟨hdraining, Or.inl rfl⟩
  | _ => exact ⟨hdraining, hexclusive⟩

theorem of_forward (h : DrainHeld s) {s' : StationPacers} (hforward : s.forward.holds = false)
    (hforward' : s'.forward.holds = false) (hdraining : s'.draining = s.draining)
    (htask : s'.task = s.task) : DrainHeld s' := by
  have hold := h.draining
  rw [hforward] at hold
  exact ⟨by rw [hdraining, hforward', htask, hold], Or.inl hforward'⟩

theorem forwardStep (h : DrainHeld s) (ok : Bool) : DrainHeld (s.forwardStep ok) := by
  rw [StationPacers.forwardStep]
  cases hpc : s.forward with
  | idle => exact h
  | lookup frame =>
      have hfree : s.forward.holds = false := by rw [hpc]; rfl
      simp only [StationPacers.lookupStep]
      split
      · exact h.of_forward hfree rfl rfl rfl
      · split
        · split <;> exact h.of_forward hfree rfl rfl rfl
        · exact h.of_forward hfree rfl rfl rfl
  | offer frame i =>
      have hfree : s.forward.holds = false := by rw [hpc]; rfl
      simp only [StationPacers.offerStep]
      split
      · exact h.of_forward hfree rfl rfl rfl
      · split
        · exact h.of_forward hfree rfl rfl rfl
        · split <;> exact h.of_forward hfree rfl rfl rfl
  | drain pc =>
      have hdraining := h.draining
      have hexclusive := h.exclusive
      rw [hpc] at hdraining hexclusive
      obtain ⟨hdraining', hexclusive'⟩ := drainStep_draining ok hdraining hexclusive
      obtain ⟨-, -, htask, -⟩ := s.drainStep_accepted ok pc
      rw [← htask] at hdraining' hexclusive'
      simp only
      cases hnext : (s.drainStep ok pc).2 with
      | none =>
          rw [hnext] at hdraining' hexclusive'
          exact ⟨hdraining', hexclusive'⟩
      | some pc' =>
          rw [hnext] at hdraining' hexclusive'
          exact ⟨hdraining', hexclusive'⟩
  | _ =>
      have hfree : s.forward.holds = false := by rw [hpc]; rfl
      exact h.of_forward hfree rfl rfl rfl

theorem taskStep (h : DrainHeld s) (armed : Bool) : DrainHeld (s.taskStep armed) := by
  have hdraining := h.draining
  have hexclusive := h.exclusive
  rw [StationPacers.taskStep]
  cases htask : s.task with
  | none =>
      rw [htask] at hdraining
      simp only
      split
      · exact ⟨hdraining, Or.inr rfl⟩
      · exact h
  | some pc =>
      rw [htask, Bool.or_comm] at hdraining
      rw [htask] at hexclusive
      obtain ⟨hdraining', hexclusive'⟩ := drainStep_draining armed hdraining hexclusive.symm
      obtain ⟨-, hforward, -, -⟩ := s.drainStep_accepted armed pc
      rw [Bool.or_comm, ← hforward] at hdraining'
      rw [← hforward] at hexclusive'
      exact ⟨hdraining', hexclusive'.symm⟩

theorem step (h : DrainHeld s) (e : PacerEvent) : DrainHeld (pacerStep s e) := by
  cases e with
  | pass us => exact ⟨h.draining, h.exclusive⟩
  | arrive octets egressPort maxIntervalFrames up =>
      rw [pacerStep]
      unfold StationPacers.arrive
      split
      · rename_i hidle
        have hfree : s.forward.holds = false := by rw [hidle]; rfl
        split
        · simp only
          split <;> exact h.of_forward hfree (by first | rfl | exact hfree) rfl rfl
        · exact h
      · exact h
  | forward ok => exact h.forwardStep ok
  | task armed => exact h.taskStep armed
  | alarm =>
      rw [pacerStep, StationPacers.alarm]
      split
      · split
        · exact ⟨h.draining, h.exclusive⟩
        · exact h
      · exact h

end DrainHeld

namespace PacersCalm

variable {s : StationPacers}

theorem of_held (h : DrainHeld s) (hcalm : s.forward.early = false ∧
    ∀ i, s.forward.passing = some i → (s.pacers i).count = 0) : PacersCalm s :=
  ⟨h, hcalm.1, hcalm.2⟩

theorem oneInFlight (h : PacersCalm s) (hinv : PacersInv s) (e : PacerEvent)
    (hroom : s.NoOverflow e) : s.OneInFlight e := by
  intro i htakes
  rw [(hinv.kept.ok i).inFlight]
  cases e with
  | forward ok =>
      simp only [StationPacers.takes] at htakes
      simp only [StationPacers.NoOverflow] at hroom
      cases hpc : s.forward with
      | drain pc =>
          rw [hpc] at htakes
          have hscan : pc.holds = true ∧ pc.hand = .free := by
            cases pc <;> simp_all [StationPacers.drainTakes, DrainPc.holds, DrainPc.hand]
          have htask : taskHolds s.task = false := by
            have hexclusive := h.exclusive
            rw [hpc] at hexclusive
            simpa [ForwardPc.holds, hscan.1] using hexclusive
          rw [taskHand_of_not_holds htask]
          simp [ForwardPc.hand, hscan.2]
      | _ =>
          rw [hpc] at htakes hroom
          simp only [hroom] at htakes
          cases htakes
  | task armed =>
      simp only [StationPacers.takes] at htakes
      cases htask : s.task with
      | none =>
          rw [htask] at htakes
          cases htakes
      | some pc =>
          rw [htask] at htakes
          simp only [Option.bind_some] at htakes
          cases pc with
          | scan nowNs =>
              simp only [StationPacers.drainTakes] at htakes
              obtain ⟨-, hcount, -⟩ := StationPacers.due?_spec htakes
              have hforward : s.forward.hand.flying i = false := by
                have hexclusive := h.exclusive
                rw [htask] at hexclusive
                simp only [taskHolds, Option.elim, DrainPc.holds, Bool.true_eq_false, or_false]
                  at hexclusive
                have hinTurn := h.inTurn
                have hpassing := h.passing
                cases hpc : s.forward with
                | drain pc =>
                    rw [hpc] at hexclusive
                    simp only [ForwardPc.hand, DrainPc.hand_of_not_holds hexclusive,
                      PacerHand.flying_free]
                | transmitOwn frame k =>
                    rw [hpc] at hpassing
                    have hempty := hpassing k rfl
                    simp only [ForwardPc.hand, PacerHand.flying_own, decide_eq_false_iff_not]
                    rintro rfl
                    omega
                | ownDone k =>
                    rw [hpc] at hpassing
                    have hempty := hpassing k rfl
                    simp only [ForwardPc.hand, PacerHand.flying_landing, decide_eq_false_iff_not]
                    rintro rfl
                    omega
                | transmitHead frame k slot len =>
                    rw [hpc] at hinTurn
                    cases hinTurn
                | headDone frame k =>
                    rw [hpc] at hinTurn
                    cases hinTurn
                | _ => rfl
              rw [hforward]
              rfl
          | _ => cases htakes
  | _ => cases htakes

theorem init : PacersCalm .init :=
  { draining := rfl
    exclusive := Or.inl rfl
    inTurn := rfl
    passing := fun _ h => by cases h }

theorem drainStep_count (armed : Bool) (pc : DrainPc) {j : PacerIndex}
    (h : (s.pacers j).count = 0) : ((s.drainStep armed pc).1.pacers j).count = 0 := by
  have hupdate : ∀ i pacer, (pacer.count ≤ (s.pacers i).count) →
      (Function.update s.pacers i pacer j).count = 0 := by
    intro i pacer hle
    by_cases hj : j = i
    · subst hj
      rw [Function.update_self]
      omega
    · rw [Function.update_of_ne hj]
      exact h
  cases pc with
  | enter =>
      rw [StationPacers.drainStep]
      split <;> exact h
  | scan nowNs =>
      rw [StationPacers.drainStep]
      split
      · exact hupdate _ _ (Nat.sub_le _ _)
      · exact h
  | done i => exact hupdate i _ le_rfl
  | arm earliestNs =>
      rw [StationPacers.drainStep]
      split <;> exact h
  | _ => exact h

theorem forwardStep (h : PacersCalm s) (ok : Bool) (hroom : s.NoOverflow (.forward ok)) :
    PacersCalm (s.forwardStep ok) := by
  refine of_held (h.toDrainHeld.forwardStep ok) ?_
  have hpassing := h.passing
  have hinTurn := h.inTurn
  simp only [StationPacers.NoOverflow] at hroom
  rw [StationPacers.forwardStep]
  cases hpc : s.forward with
  | idle => exact ⟨hinTurn, hpassing⟩
  | lookup frame =>
      simp only [StationPacers.lookupStep]
      split
      · exact ⟨rfl, fun _ hpass => by cases hpass⟩
      · split
        · split <;> exact ⟨rfl, fun _ hpass => by cases hpass⟩
        · exact ⟨rfl, fun _ hpass => by cases hpass⟩
  | configure frame i => exact ⟨rfl, fun _ hpass => by cases hpass⟩
  | offer frame i =>
      rw [hpc] at hroom
      simp only [StationPacers.overflows] at hroom
      simp only [StationPacers.offerStep]
      split
      · rename_i hpass
        refine ⟨rfl, fun i' hpassed => ?_⟩
        cases hpassed
        simp only [StationPacers.setForward, StationPacers.accept, StationPacers.setPacer,
          Function.update_self]
        exact hpass.1
      · rename_i hpass
        rw [if_neg hpass] at hroom
        split
        · exact ⟨rfl, fun _ hpassed => by cases hpassed⟩
        · rename_i hfull
          rw [if_neg hfull] at hroom
          split
          · rename_i hcount
            rw [if_pos hcount] at hroom
            cases hroom
          · rename_i hcount
            refine ⟨rfl, fun i' hpassed => ?_⟩
            cases hpassed
            simp only [StationPacers.setForward, StationPacers.accept, StationPacers.setPacer,
              Function.update_self]
            omega
  | transmitHead frame i slot len =>
      rw [hpc] at hinTurn
      cases hinTurn
  | headDone frame i =>
      rw [hpc] at hinTurn
      cases hinTurn
  | transmitOwn frame i =>
      rw [hpc] at hpassing
      refine ⟨rfl, fun i' hpassed => ?_⟩
      cases hpassed
      exact hpassing i rfl
  | ownDone i => exact ⟨rfl, fun _ hpassed => by cases hpassed⟩
  | drain pc =>
      simp only
      cases hnext : (s.drainStep ok pc).2 with
      | none => exact ⟨rfl, fun _ hpassed => by cases hpassed⟩
      | some pc' => exact ⟨rfl, fun _ hpassed => by cases hpassed⟩

theorem taskStep (h : PacersCalm s) (armed : Bool) : PacersCalm (s.taskStep armed) := by
  refine of_held (h.toDrainHeld.taskStep armed) ?_
  rw [StationPacers.taskStep]
  cases htask : s.task with
  | none =>
      simp only
      split <;> exact ⟨h.inTurn, h.passing⟩
  | some pc =>
      obtain ⟨-, hforward, -, -⟩ := s.drainStep_accepted armed pc
      refine ⟨?_, ?_⟩
      · simp only [hforward]
        exact h.inTurn
      · intro i hpass
        simp only [hforward] at hpass
        exact drainStep_count armed pc (h.passing i hpass)

theorem step (h : PacersCalm s) (e : PacerEvent) (hroom : s.NoOverflow e) :
    PacersCalm (pacerStep s e) := by
  cases e with
  | pass us => exact of_held (h.toDrainHeld.step (.pass us)) ⟨h.inTurn, h.passing⟩
  | arrive octets egressPort maxIntervalFrames up =>
      refine of_held (h.toDrainHeld.step (.arrive octets egressPort maxIntervalFrames up)) ?_
      rw [pacerStep]
      unfold StationPacers.arrive
      split
      · split
        · simp only
          split
          · exact ⟨rfl, fun _ hpass => by cases hpass⟩
          · exact ⟨h.inTurn, h.passing⟩
        · exact ⟨h.inTurn, h.passing⟩
      · exact ⟨h.inTurn, h.passing⟩
  | forward ok => exact h.forwardStep ok hroom
  | task armed => exact h.taskStep armed
  | alarm =>
      refine of_held (h.toDrainHeld.step .alarm) ?_
      rw [pacerStep, StationPacers.alarm]
      split
      · split <;> exact ⟨h.inTurn, h.passing⟩
      · exact ⟨h.inTurn, h.passing⟩

end PacersCalm

/-- Where no queue overflows, one frame of a stream is in flight at a time. -/
theorem oneInFlight_of_noOverflow {s : StationPacers} (hcalm : PacersCalm s) (hinv : PacersInv s)
    {events : List PacerEvent}
    (h : Machine.RunMeets StationPacers.NoOverflow pacerStep s events) :
    Machine.RunMeets StationPacers.OneInFlight pacerStep s events := by
  induction events generalizing s with
  | nil => exact trivial
  | cons e events ih =>
      obtain ⟨hfirst, hrest⟩ := h
      have hone := hcalm.oneInFlight hinv e hfirst
      exact ⟨hone, ih (hcalm.step e hfirst) (hinv.step e hone) hrest⟩

/-! ## Nothing is left waiting -/

namespace StationPacers

def Waiting (s : StationPacers) : Prop :=
  ∃ i, (s.pacers i).valid = true ∧ 0 < (s.pacers i).count

end StationPacers

def ForwardPc.willDrain : ForwardPc → Bool
  | .idle => false
  | .lookup _ => false
  | _ => true

namespace StationPacers

/-- While a frame waits, a context drains or is about to, or the pacer task will be woken. -/
def Attended (s : StationPacers) : Prop :=
  s.Waiting → s.forward.willDrain = true ∨ s.task.isSome = true ∨ s.alarmUs.isSome = true ∨
    s.notified = true

/-- Arming the timer succeeds. -/
def Arms (s : StationPacers) : PacerEvent → Prop
  | .forward ok => ∀ t, s.forward = .drain (.arm t) → ok = true
  | .task armed => ∀ t, s.task = some (.arm t) → armed = true
  | _ => True

theorem not_waiting_of_earliestNs {s : StationPacers} (h : s.earliestNs = .none) : ¬s.Waiting := by
  rintro ⟨i, hvalid, hcount⟩
  rw [earliestNs, List.min?_eq_none_iff, List.map_eq_nil_iff, List.filter_eq_nil_iff] at h
  have hnot := h i (List.mem_finRange i)
  simp [hvalid, hcount] at hnot

/-- Where a drain ends, the other context holds it, nothing waits, or the timer is set. -/
theorem drainStep_ends {s : StationPacers} {pc : DrainPc} {held armed : Bool}
    (hdraining : s.draining = (pc.holds || held)) (harm : ∀ t, pc = .arm t → armed = true)
    (hend : (s.drainStep armed pc).2 = .none) :
    held = true ∨ ¬(s.drainStep armed pc).1.Waiting ∨
      (s.drainStep armed pc).1.alarmUs.isSome = true := by
  cases pc with
  | enter =>
      rw [drainStep] at hend
      split at hend
      · rename_i hbusy
        rw [hbusy] at hdraining
        exact Or.inl hdraining.symm
      · cases hend
  | scan nowNs =>
      rw [drainStep] at hend ⊢
      cases hdue : s.due? nowNs with
      | some i =>
          rw [hdue] at hend
          cases hend
      | none =>
          rw [hdue] at hend
          simp only [Option.map_eq_none_iff] at hend
          exact Or.inr (Or.inl (not_waiting_of_earliestNs hend))
  | arm earliestNs =>
      rw [drainStep, harm earliestNs rfl]
      exact Or.inr (Or.inr rfl)
  | _ => cases hend

end StationPacers

namespace StationPacers.Attended

variable {s : StationPacers}

theorem forwardStep (h : s.Attended) (hheld : DrainHeld s) (ok : Bool) (harm : s.Arms (.forward ok)) :
    (s.forwardStep ok).Attended := by
  rw [StationPacers.forwardStep]
  cases hpc : s.forward with
  | idle => exact h
  | lookup frame =>
      simp only [StationPacers.lookupStep]
      split
      · exact fun _ => Or.inl rfl
      · split
        · rename_i i hspare
          split
          · exact fun _ => Or.inl rfl
          · rintro ⟨j, hvalid, hcount⟩
            have hwaiting : s.Waiting := by
              by_cases hji : j = i
              · subst hji
                simp only [StationPacers.setForward, StationPacers.setPacer,
                  Function.update_self] at hvalid hcount
                exact ⟨j, hvalid, hcount⟩
              · simp only [StationPacers.setForward, StationPacers.setPacer,
                  Function.update_of_ne hji] at hvalid hcount
                exact ⟨j, hvalid, hcount⟩
            have hold := h hwaiting
            rw [hpc] at hold
            exact hold
        · intro hwaiting
          have hold := h hwaiting
          rw [hpc] at hold
          exact hold
  | offer frame i =>
      simp only [StationPacers.offerStep]
      split
      · exact fun _ => Or.inl rfl
      · split
        · exact fun _ => Or.inl rfl
        · split <;> exact fun _ => Or.inl rfl
  | drain pc =>
      have hdraining := hheld.draining
      rw [hpc] at hdraining
      simp only
      intro hwaiting
      cases hnext : (s.drainStep ok pc).2 with
      | some pc' =>
          left
          rfl
      | none =>
          obtain ⟨-, -, htask, -⟩ := s.drainStep_accepted ok pc
          obtain hother | hidle | halarm := StationPacers.drainStep_ends hdraining
            (fun t hpc' => harm t (by rw [hpc, hpc'])) hnext
          · right; left
            simp only [StationPacers.setForward, htask]
            cases htask' : s.task with
            | none =>
                rw [htask'] at hother
                cases hother
            | some pc' => rfl
          · exact absurd hwaiting hidle
          · right; right; left
            exact halarm
  | _ => exact fun _ => Or.inl rfl

theorem taskStep (h : s.Attended) (hheld : DrainHeld s) (armed : Bool)
    (harm : s.Arms (.task armed)) : (s.taskStep armed).Attended := by
  rw [StationPacers.taskStep]
  cases htask : s.task with
  | none =>
      simp only
      split
      · exact fun _ => Or.inr (Or.inl rfl)
      · exact h
  | some pc =>
      have hdraining := hheld.draining
      rw [htask, Bool.or_comm] at hdraining
      intro hwaiting
      cases hnext : (s.drainStep armed pc).2 with
      | some pc' =>
          right; left
          simp only [hnext, Option.isSome_some]
      | none =>
          obtain ⟨-, hforward, -, -⟩ := s.drainStep_accepted armed pc
          obtain hother | hidle | halarm := StationPacers.drainStep_ends hdraining
            (fun t hpc => harm t (by rw [htask, hpc])) hnext
          · left
            simp only [hforward]
            cases hpc : s.forward with
            | drain pc' => rfl
            | _ =>
                rw [hpc] at hother
                cases hother
          · exact absurd hwaiting hidle
          · right; right; left
            exact halarm

theorem step (h : s.Attended) (hheld : DrainHeld s) (e : PacerEvent) (harm : s.Arms e) :
    (pacerStep s e).Attended := by
  cases e with
  | pass us => exact h
  | arrive octets egressPort maxIntervalFrames up =>
      rw [pacerStep]
      unfold StationPacers.arrive
      split
      · rename_i hidle
        split
        · simp only
          split
          · intro hwaiting
            have hold := h hwaiting
            rw [hidle] at hold
            exact hold
          · exact h
        · exact h
      · exact h
  | forward ok => exact h.forwardStep hheld ok harm
  | task armed => exact h.taskStep hheld armed harm
  | alarm =>
      rw [pacerStep, StationPacers.alarm]
      split
      · split
        · exact fun _ => Or.inr (Or.inr (Or.inr rfl))
        · exact h
      · exact h

end StationPacers.Attended

end EspAvb
