import EspAvb.Proof.TimestampMarks
import EspAvb.Proof.Timeline
import EspAvb.TalkerClock

/-!
# The 61883-6 timestamps of a run

The media clock has a time for every data block: a block is a sample period after the one before it,
and between two packets the rate correction comes in. The talker moves its timestamp on by a packet
before it stamps that packet, so the stamp is that of a timeline whose packets are each as long as
the first.
-/

namespace EspAvb

open Traced

/-! ### What the packets say -/

def RxFrame.dbc (frame : RxFrame) : Nat := (frame.octet 27).toNat

def RxFrame.tv (frame : RxFrame) : Prop := frame.octet 1 &&& 0x01 ≠ 0

def RxFrame.avtpTimestamp (frame : RxFrame) : UInt32 :=
  UInt32.ofNat (Octets.value (octets frame.octet 12 4).value)

/-! ### The media clock -/

/-- The media clock between two packets: the blocks sent, the time of the next one in Q16
nanoseconds, how often the time was set, and what was corrected. -/
structure MediaClock where
  blocks : Nat
  nextQ16 : Int
  anchors : Nat
  correctedQ16 : Int

namespace MediaClock

variable (turn : Am824Turn) (clock : MediaClock)

/-- The time of the first block of the next packet. -/
def startQ16 : Int :=
  match turn.reanchor with
  | none => clock.nextQ16 + turn.correction.tsRateCorrQ16
  | some schedGptp => schedGptp.toNat * 65536

def next (pacing : Am824Pacing) (spp : Nat) : MediaClock :=
  { blocks := clock.blocks + spp
    nextQ16 := clock.startQ16 turn + spp * pacing.timeline.nsPerSampleQ16
    anchors := match turn.reanchor with | none => clock.anchors | some _ => clock.anchors + 1
    correctedQ16 := clock.correctedQ16 + turn.correction.tsRateCorrQ16 }

/-- The first packet is to be stamped with the time of its first block. -/
def start (pacing : Am824Pacing) (avtpMediaTs : UInt32) : MediaClock :=
  { blocks := 0
    nextQ16 := avtpMediaTs.toNat * 65536
      + pacing.timeline.sppBase * pacing.timeline.nsPerSampleQ16
    anchors := 0
    correctedQ16 := 0 }

end MediaClock

/-- A packet, the blocks sent before it and the media clock's time of its first block. -/
structure Am824Sent where
  frame : RxFrame
  spp : Nat
  blocks : Nat
  startQ16 : Int
  anchors : Nat
  correctedQ16 : Int

/-- The packets of a run. -/
def am824Sent (pacing : Am824Pacing) : Am824Loop → MediaClock → List Am824Turn → List Am824Sent
  | _, _, [] => []
  | st, clock, turn :: turns =>
      let packet := st.packet pacing turn
      let after := clock.next turn pacing packet.spp
      { frame := am824Frame pacing.toAm824Params st.talker packet
        spp := packet.spp
        blocks := clock.blocks
        startQ16 := clock.startQ16 turn
        anchors := after.anchors
        correctedQ16 := after.correctedQ16 } :: am824Sent pacing (st.next pacing turn) after turns

/-- The blocks of a packet at a multiple of the interval, counted over the stream. -/
def boundaries (pacing : Am824Pacing) (blocks : Nat) : Set Nat :=
  {i | pacing.sytInterval ∣ blocks + i}

/-- The rounding of both sums and of up to 31 sample periods, in Q16 nanoseconds. -/
def stampRounding : Int := 18 * 65536

/-- The 61883-6 rule for one packet. -/
structure Am824Stamped (pacing : Am824Pacing) (s : Am824Sent) : Prop where
  dbc : s.frame.dbc = s.blocks % 256
  tv : s.frame.tv ↔ ∃ i < s.spp, i ∈ boundaries pacing s.blocks
  stamp : s.frame.tv → ∀ i, IsLeast (boundaries pacing s.blocks) i →
    ∃ t : Int, s.frame.avtpTimestamp = UInt32.ofInt t + pacing.presentationTimeOffsetNs ∧
      |65536 * t - (s.startQ16 + i * pacing.timeline.nsPerSampleQ16)| ≤ stampRounding

/-- From one stamped block to a later one, the timestamp goes on by the blocks between them. -/
def Am824Advances (pacing : Am824Pacing) (a b : Am824Sent) : Prop :=
  a.frame.tv → b.frame.tv → a.anchors = b.anchors →
    ∀ i j, IsLeast (boundaries pacing a.blocks) i → IsLeast (boundaries pacing b.blocks) j →
      ∃ d : Int, b.frame.avtpTimestamp = a.frame.avtpTimestamp + UInt32.ofInt d ∧
        |65536 * d - (((b.blocks + j : Nat) - (a.blocks + i : Nat) : Int)
            * pacing.timeline.nsPerSampleQ16 + (b.correctedQ16 - a.correctedQ16))|
          ≤ 2 * stampRounding

/-- The rule over a run. -/
def Am824Rule (pacing : Am824Pacing) (nextSendTime : Int) (avtpMediaTs : UInt32)
    (turns : List Am824Turn) : Prop :=
  let sent := am824Sent pacing (.start nextSendTime avtpMediaTs) (.start pacing avtpMediaTs) turns
  (∀ s ∈ sent, Am824Stamped pacing s) ∧ sent.Pairwise (Am824Advances pacing)

/-! ### One packet -/

section Packet

variable (params : Am824Params) (st : Am824Talker) (pkt : Am824Packet)

theorem am824Frame_dbc : (am824Frame params st pkt).dbc = st.dbc.toNat % 256 := by
  have hoctet : (am824Frame params st pkt).octet 27 = UInt8.ofNat st.dbc.toNat := by
    simp only [am824Frame, if_pos (show 27 < 32 by norm_num), am824Header, List.append_assoc]
    rw [List.getD_append_right _ _ _ _ (by simp), List.getD_append_right _ _ _ _ (by
      simp [params.streamId_length])]
    simp [params.streamId_length]
  rw [RxFrame.dbc, hoctet, UInt8.toNat_ofNat']

theorem sytInterval_cases :
    params.sytInterval = 8 ∨ params.sytInterval = 16 ∨ params.sytInterval = 32 := by
  unfold Am824Params.sytInterval
  split
  · exact Or.inl rfl
  · split
    · exact Or.inr (Or.inl rfl)
    · exact Or.inr (Or.inr rfl)

/-- The counter wraps at a multiple of the interval, so it finds the boundary of the stream. -/
theorem isLeast_boundaryOffset (pacing : Am824Pacing) {dbc : UInt16} {blocks : Nat}
    (h : dbc.toNat = blocks % 65536) :
    IsLeast (boundaries pacing blocks) (boundaryOffset pacing.toAm824Params dbc) := by
  unfold boundaries boundaryOffset
  rw [h]
  constructor
  · rw [Set.mem_ofPred_eq, Nat.dvd_iff_mod_eq_zero]
    obtain hsyt | hsyt | hsyt := sytInterval_cases pacing.toAm824Params <;> rw [hsyt] <;> omega
  · intro i hi
    rw [Set.mem_ofPred_eq, Nat.dvd_iff_mod_eq_zero] at hi
    obtain hsyt | hsyt | hsyt := sytInterval_cases pacing.toAm824Params <;>
      rw [hsyt] at hi ⊢ <;> omega

theorem am824Frame_tv : (am824Frame params st pkt).tv ↔ boundaryOffset params st.dbc < pkt.spp := by
  rw [RxFrame.tv, am824Frame_flags, am824Stamp]
  by_cases hle : pkt.spp ≤ boundaryOffset params st.dbc
  · rw [if_pos hle]
    exact iff_of_false Bool.false_ne_true (Nat.not_lt.mpr hle)
  · rw [if_neg hle]
    exact iff_of_true rfl (Nat.not_le.mp hle)

theorem am824Frame_avtpTimestamp (h : (am824Frame params st pkt).tv) :
    (am824Frame params st pkt).avtpTimestamp
      = pkt.avtpMediaTs + params.presentationTimeOffsetNs
        + UInt32.ofNat (boundaryOffset params st.dbc * params.nsPerSample) := by
  rw [RxFrame.avtpTimestamp, am824Frame_timestamp, am824Stamp]
  rw [if_neg (Nat.not_le.mpr ((am824Frame_tv params st pkt).mp h))]

/-- The whole-nanosecond sample period is within half a nanosecond of the Q16 one. -/
theorem nsPerSample_near (pacing : Am824Pacing) :
    |(65536 * pacing.nsPerSample : Int) - pacing.timeline.nsPerSampleQ16| ≤ 32769 := by
  have hrates : ∀ sfc, |(65536 * ((1000000000 + cipSfcToSampleRate sfc / 2)
        / cipSfcToSampleRate sfc : Nat) : Int)
      - (1000000000 * 65536 / cipSfcToSampleRate sfc : Nat)| ≤ 32769 := by
    intro sfc
    unfold cipSfcToSampleRate
    split <;> decide
  exact hrates _

end Packet

/-! ### The timeline against the media clock -/

/-- Between two turns the timeline is behind the media clock by `ahead` sample periods, what is
carried over and less than a nanosecond that a re-anchor left. -/
structure Am824Loop.Tracks (pacing : Am824Pacing) (ahead : Nat) (st : Am824Loop)
    (clock : MediaClock) : Prop where
  inRange : CarriesInRange st.timeline
  acc_lt : st.timeline.sppAcc < pacing.timeline.sppDen
  dbc : st.talker.dbc.toNat = clock.blocks % 65536
  time : ∃ t slack : Int, st.timeline.avtpMediaTs = UInt32.ofInt t ∧ 0 ≤ slack ∧ slack < 65536 ∧
    65536 * t + st.timeline.tsBaseFracQ16 + st.timeline.tsRateFracQ16
      = clock.nextQ16 - ahead * pacing.timeline.nsPerSampleQ16 + slack

variable {pacing : Am824Pacing}

theorem uint32_ofInt_toNat (a : UInt32) : UInt32.ofInt a.toNat = a := by
  rw [uint32_ofInt_natCast, UInt32.ofNat_toNat]

theorem am824_start_tracks (nextSendTime : Int) (avtpMediaTs : UInt32) :
    (Am824Loop.start nextSendTime avtpMediaTs).Tracks pacing pacing.timeline.sppBase
      (.start pacing avtpMediaTs) where
  inRange := by constructor <;> simp [Am824Loop.start, TimelineState.start]
  acc_lt := sppDen_pos pacing.timeline
  dbc := rfl
  time := by
    refine ⟨avtpMediaTs.toNat, 0, (uint32_ofInt_toNat avtpMediaTs).symm, le_refl 0, by decide, ?_⟩
    simp only [Am824Loop.start, TimelineState.start, MediaClock.start]
    push_cast
    ring

/-- What a packet does to the media timestamp, whatever the cadence does. -/
structure MediaStep (params : TimelineParams) (c : CadenceCorrection) (st st' : TimelineState) :
    Prop where
  inRange : CarriesInRange st'
  acc_lt : st'.sppAcc < params.sppDen
  ts : st'.avtpMediaTs = st.avtpMediaTs + UInt32.ofInt (st'.rateTsNs - st.rateTsNs)
  sum : st'.rateTsNs * 65536 + st'.tsBaseFracQ16 + st'.tsRateFracQ16
    = st.rateTsNs * 65536 + st.tsBaseFracQ16 + st.tsRateFracQ16
      + ((timelineSpp params st.sppAcc).1 * params.nsPerSampleQ16 : Nat) + c.tsRateCorrQ16

theorem timelineStep_media {params : TimelineParams} {st : TimelineState} (h : CarriesInRange st)
    (hacc : st.sppAcc < params.sppDen) (c : CadenceCorrection) :
    MediaStep params c st (timelineStep params st c) := by
  obtain ⟨-, hfill, hfill', hcarry, hcarry'⟩ := @cadence_books params c st h
  have hrange : CarriesInRange (timelineCadence params c st) :=
    ⟨⟨hfill, hfill'⟩, ⟨hcarry, hcarry'⟩, h.base, h.rate⟩
  obtain ⟨hsum, hbase, hrate, hrate', hts⟩ :=
    @media_books params c (timelineCadence params c st) hrange
  exact ⟨⟨⟨hfill, hfill'⟩, ⟨hcarry, hcarry'⟩, hbase, ⟨hrate, hrate'⟩⟩, (spp_books params hacc).2, hts,
    hsum⟩

theorem dbc_sent {dbc : UInt16} {blocks : Nat} (h : dbc.toNat = blocks % 65536) (spp : Nat) :
    (dbc + UInt16.ofNat spp).toNat = (blocks + spp) % 65536 := by
  rw [UInt16.toNat_add, UInt16.toNat_ofNat', h]
  omega

/-- A turn that goes on from the last one. -/
theorem tracks_next {ahead : Nat} {st : Am824Loop} {clock : MediaClock}
    (h : st.Tracks pacing ahead clock) {turn : Am824Turn} (hgoes : turn.reanchor = none) :
    (st.next pacing turn).Tracks pacing ahead
      (clock.next turn pacing (st.packet pacing turn).spp) := by
  have hstep := timelineStep_media h.inRange h.acc_lt turn.correction
  have hclock : st.clock pacing turn = timelineStep pacing.timeline st.timeline turn.correction := by
    rw [Am824Loop.clock, hgoes]
  have hstart : clock.startQ16 turn = clock.nextQ16 + turn.correction.tsRateCorrQ16 := by
    rw [MediaClock.startQ16, hgoes]
  obtain ⟨t, slack, ht, hslack, hslack', htime⟩ := h.time
  rw [← hclock] at hstep
  refine ⟨hstep.inRange, hstep.acc_lt, dbc_sent h.dbc _,
    t + ((st.clock pacing turn).rateTsNs - st.timeline.rateTsNs), slack, ?_, hslack, hslack', ?_⟩
  · rw [UInt32.ofInt_add, ← ht]
    exact hstep.ts
  · have hsum := hstep.sum
    rw [Am824Loop.next, MediaClock.next, hstart, Am824Loop.packet]
    dsimp only
    push_cast at hsum
    linarith

/-- A turn that sets the time: from then on the packets are as long as this one. -/
theorem tracks_reanchor {ahead : Nat} {st : Am824Loop} {clock : MediaClock}
    (h : st.Tracks pacing ahead clock) {turn : Am824Turn} {schedGptp : UInt32}
    (hset : turn.reanchor = some schedGptp) :
    (st.next pacing turn).Tracks pacing (st.packet pacing turn).spp
      (clock.next turn pacing (st.packet pacing turn).spp) := by
  have hstep := timelineStep_media h.inRange h.acc_lt turn.correction
  have hclock : st.clock pacing turn
      = { timelineStep pacing.timeline st.timeline turn.correction with
          avtpMediaTs := schedGptp, tsRateFracQ16 := 0 } := by
    rw [Am824Loop.clock, hset]
  have hstart : clock.startQ16 turn = schedGptp.toNat * 65536 := by
    rw [MediaClock.startQ16, hset]
  obtain ⟨hfill, hcarry, hbase, -⟩ := hstep.inRange
  refine ⟨?_, ?_, dbc_sent h.dbc _, schedGptp.toNat,
    (timelineStep pacing.timeline st.timeline turn.correction).tsBaseFracQ16, ?_, ?_, ?_, ?_⟩
  · rw [Am824Loop.next, hclock]
    exact ⟨hfill, hcarry, hbase, le_refl 0, (by decide : (0 : Int) < 65536)⟩
  · rw [Am824Loop.next, hclock]
    exact hstep.acc_lt
  · rw [Am824Loop.next, hclock, uint32_ofInt_toNat]
  · exact Int.natCast_nonneg _
  · exact_mod_cast hbase
  · rw [Am824Loop.next, hclock, MediaClock.next, hstart]
    dsimp only
    ring

/-- The timestamp a packet starts from is off by what it is longer than `ahead`. -/
theorem packet_time {ahead : Nat} {st : Am824Loop} {clock : MediaClock} {turn : Am824Turn}
    (h : (st.next pacing turn).Tracks pacing ahead
      (clock.next turn pacing (st.packet pacing turn).spp)) :
    ∃ t : Int, (st.packet pacing turn).avtpMediaTs = UInt32.ofInt t ∧
      |65536 * t - (clock.startQ16 turn + ((st.packet pacing turn).spp - ahead)
        * pacing.timeline.nsPerSampleQ16)| < 2 * 65536 := by
  obtain ⟨t, slack, ht, hslack, hslack', htime⟩ := h.time
  have hbase := h.inRange.base
  obtain ⟨hrate, hrate'⟩ := h.inRange.rate
  refine ⟨t, ht, ?_⟩
  have hend : (clock.next turn pacing (st.packet pacing turn).spp).nextQ16
      = clock.startQ16 turn
        + (st.packet pacing turn).spp * pacing.timeline.nsPerSampleQ16 := rfl
  rw [hend] at htime
  rw [sub_mul, abs_lt]
  constructor <;> linarith

/-- What is said of one packet when it starts `shift` past its time. -/
structure StampedBy (pacing : Am824Pacing) (shift : Int) (s : Am824Sent) : Prop where
  dbc : s.frame.dbc = s.blocks % 256
  tv : s.frame.tv ↔ ∃ i < s.spp, i ∈ boundaries pacing s.blocks
  stamp : s.frame.tv → ∀ i, IsLeast (boundaries pacing s.blocks) i →
    ∃ t : Int, s.frame.avtpTimestamp = UInt32.ofInt t + pacing.presentationTimeOffsetNs ∧
      |65536 * t - (s.startQ16 + shift + i * pacing.timeline.nsPerSampleQ16)| ≤ stampRounding

theorem stampedBy_zero_iff {s : Am824Sent} : StampedBy pacing 0 s ↔ Am824Stamped pacing s := by
  constructor
  · rintro ⟨hdbc, htv, hstamp⟩
    exact ⟨hdbc, htv, by simpa only [add_zero] using hstamp⟩
  · rintro ⟨hdbc, htv, hstamp⟩
    exact ⟨hdbc, htv, by simpa only [add_zero] using hstamp⟩

/-- The first packet of a run. -/
def sentFirst (pacing : Am824Pacing) (st : Am824Loop) (clock : MediaClock) (turn : Am824Turn) :
    Am824Sent :=
  let packet := st.packet pacing turn
  let after := clock.next turn pacing packet.spp
  { frame := am824Frame pacing.toAm824Params st.talker packet
    spp := packet.spp
    blocks := clock.blocks
    startQ16 := clock.startQ16 turn
    anchors := after.anchors
    correctedQ16 := after.correctedQ16 }

theorem am824Sent_cons (st : Am824Loop) (clock : MediaClock) (turn : Am824Turn)
    (turns : List Am824Turn) :
    am824Sent pacing st clock (turn :: turns) = sentFirst pacing st clock turn ::
      am824Sent pacing (st.next pacing turn) (clock.next turn pacing (st.packet pacing turn).spp)
        turns := rfl

theorem sentFirst_stampedBy {ahead : Nat} {st : Am824Loop} {clock : MediaClock} {turn : Am824Turn}
    (hdbc : st.talker.dbc.toNat = clock.blocks % 65536)
    (h : (st.next pacing turn).Tracks pacing ahead
      (clock.next turn pacing (st.packet pacing turn).spp)) :
    StampedBy pacing (((st.packet pacing turn).spp - ahead) * pacing.timeline.nsPerSampleQ16)
      (sentFirst pacing st clock turn) := by
  have hleast := isLeast_boundaryOffset pacing hdbc
  have htv : (sentFirst pacing st clock turn).frame.tv ↔ _ :=
    am824Frame_tv pacing.toAm824Params st.talker (st.packet pacing turn)
  constructor
  · calc (sentFirst pacing st clock turn).frame.dbc
        = st.talker.dbc.toNat % 256 := am824Frame_dbc _ _ _
      _ = clock.blocks % 65536 % 256 := by rw [hdbc]
      _ = clock.blocks % 256 := by omega
  · rw [htv]
    constructor
    · intro hlt
      exact ⟨_, hlt, hleast.1⟩
    · rintro ⟨i, hi, hmem⟩
      exact lt_of_le_of_lt (hleast.2 hmem) hi
  · intro hvalid i hi
    obtain ⟨t, ht, hnear⟩ := packet_time h
    have hi' := hi.unique hleast
    have hoffset := boundaryOffset_lt pacing.toAm824Params st.talker.dbc
    rw [← hi'] at hoffset
    refine ⟨t + i * pacing.nsPerSample, ?_, ?_⟩
    · calc (sentFirst pacing st clock turn).frame.avtpTimestamp
          = (st.packet pacing turn).avtpMediaTs + pacing.presentationTimeOffsetNs
            + UInt32.ofNat (i * pacing.nsPerSample) := by
              rw [hi']
              exact am824Frame_avtpTimestamp _ _ _ hvalid
        _ = UInt32.ofInt (t + i * pacing.nsPerSample) + pacing.presentationTimeOffsetNs := by
              rw [ht, UInt32.ofInt_add, ← Nat.cast_mul, uint32_ofInt_natCast, UInt32.add_assoc,
                UInt32.add_comm pacing.presentationTimeOffsetNs, ← UInt32.add_assoc]
    · have hperiod := nsPerSample_near pacing
      have hblock : |(i : Int) * (65536 * pacing.nsPerSample - pacing.timeline.nsPerSampleQ16)|
          ≤ 31 * 32769 := by
        rw [abs_mul, Nat.abs_cast]
        exact mul_le_mul (by omega) hperiod (abs_nonneg _) (by decide)
      rw [abs_le] at hblock ⊢
      rw [abs_lt] at hnear
      unfold stampRounding
      change _ ≤ 65536 * (t + i * pacing.nsPerSample) - (clock.startQ16 turn + _ + _) ∧
        65536 * (t + i * pacing.nsPerSample) - (clock.startQ16 turn + _ + _) ≤ _
      constructor <;> linarith

/-! ### A run -/

theorem spp_of_whole {params : TimelineParams} (hwhole : params.sppRem = 0) {sppAcc : Nat}
    (hacc : sppAcc < params.sppDen) : (timelineSpp params sppAcc).1 = params.sppBase := by
  unfold timelineSpp
  rw [hwhole, Nat.add_zero, if_neg (Nat.not_le.mpr hacc)]

/-- As long as the time is not set, the packets are measured against the nominal length; where all
are of that length it may be. -/
theorem sent_stampedBy {turns : List Am824Turn}
    (hturns : ∀ turn ∈ turns, turn.reanchor = none ∨ pacing.timeline.sppRem = 0)
    {st : Am824Loop} {clock : MediaClock} (h : st.Tracks pacing pacing.timeline.sppBase clock) :
    ∀ s ∈ am824Sent pacing st clock turns,
      StampedBy pacing ((s.spp - pacing.timeline.sppBase) * pacing.timeline.nsPerSampleQ16) s := by
  induction turns generalizing st clock with
  | nil =>
      intro s hs
      cases hs
  | cons turn turns ih =>
      have hnext : (st.next pacing turn).Tracks pacing pacing.timeline.sppBase
          (clock.next turn pacing (st.packet pacing turn).spp) := by
        rcases hset : turn.reanchor with _ | schedGptp
        · exact tracks_next h hset
        · have hwhole := (hturns turn List.mem_cons_self).resolve_left (by rw [hset]; simp)
          have hspp : (st.packet pacing turn).spp = pacing.timeline.sppBase :=
            spp_of_whole hwhole h.acc_lt
          have hreanchor := tracks_reanchor h hset
          rwa [hspp] at hreanchor ⊢
      intro s hs
      rw [am824Sent_cons] at hs
      rcases List.mem_cons.mp hs with rfl | hs
      · exact sentFirst_stampedBy h.dbc hnext
      · refine ih ?_ hnext s hs
        intro turn' hturn'
        exact hturns turn' (List.mem_cons_of_mem _ hturn')

/-- Until the time is set again, the media clock goes on by blocks and corrections. -/
theorem sent_start {turns : List Am824Turn} (st : Am824Loop) (clock : MediaClock) :
    ∀ s ∈ am824Sent pacing st clock turns, clock.anchors ≤ s.anchors ∧
      (s.anchors = clock.anchors → s.startQ16 = clock.nextQ16
        + ((s.blocks : Int) - clock.blocks) * pacing.timeline.nsPerSampleQ16
        + (s.correctedQ16 - clock.correctedQ16)) := by
  induction turns generalizing st clock with
  | nil =>
      intro s hs
      cases hs
  | cons turn turns ih =>
      intro s hs
      rw [am824Sent_cons] at hs
      rcases hset : turn.reanchor with _ | schedGptp
      · have hanchors : (clock.next turn pacing (st.packet pacing turn).spp).anchors
            = clock.anchors := by
          rw [MediaClock.next, hset]
        have hstart : clock.startQ16 turn = clock.nextQ16 + turn.correction.tsRateCorrQ16 := by
          rw [MediaClock.startQ16, hset]
        rcases List.mem_cons.mp hs with rfl | hs
        · refine ⟨hanchors.ge, fun _ => ?_⟩
          change clock.startQ16 turn = _ + ((clock.blocks : Int) - clock.blocks) * _
            + (clock.correctedQ16 + turn.correction.tsRateCorrQ16 - clock.correctedQ16)
          rw [hstart]
          ring
        · obtain ⟨hle, heq⟩ := ih _ _ s hs
          rw [hanchors] at hle heq
          refine ⟨hle, fun hsame => ?_⟩
          rw [heq hsame]
          simp only [MediaClock.next]
          rw [hstart]
          push_cast
          ring
      · have hanchors : (clock.next turn pacing (st.packet pacing turn).spp).anchors
            = clock.anchors + 1 := by
          rw [MediaClock.next, hset]
        rcases List.mem_cons.mp hs with rfl | hs
        · change clock.anchors ≤ (clock.next turn pacing (st.packet pacing turn).spp).anchors ∧ _
          refine ⟨by omega, fun hsame => ?_⟩
          change (clock.next turn pacing (st.packet pacing turn).spp).anchors = _ at hsame
          omega
        · obtain ⟨hle, -⟩ := ih _ _ s hs
          exact ⟨by omega, fun hsame => by omega⟩

theorem am824Advances_of_stamped {a b : Am824Sent} (ha : Am824Stamped pacing a)
    (hb : Am824Stamped pacing b)
    (hstart : a.anchors = b.anchors → b.startQ16 = a.startQ16
      + ((b.blocks : Int) - a.blocks) * pacing.timeline.nsPerSampleQ16
      + (b.correctedQ16 - a.correctedQ16)) : Am824Advances pacing a b := by
  intro hatv hbtv hanchors i j hi hj
  obtain ⟨t, ht, htnear⟩ := ha.stamp hatv i hi
  obtain ⟨u, hu, hunear⟩ := hb.stamp hbtv j hj
  refine ⟨u - t, ?_, ?_⟩
  · rw [hu, ht, UInt32.add_assoc, UInt32.add_comm pacing.presentationTimeOffsetNs,
      ← UInt32.add_assoc, ← UInt32.ofInt_add, add_sub_cancel]
  · rw [hstart hanchors] at hunear
    rw [abs_le] at htnear hunear ⊢
    push_cast
    constructor <;> linarith

theorem sent_pairwise {turns : List Am824Turn} {st : Am824Loop} {clock : MediaClock}
    (h : ∀ s ∈ am824Sent pacing st clock turns, Am824Stamped pacing s) :
    (am824Sent pacing st clock turns).Pairwise (Am824Advances pacing) := by
  induction turns generalizing st clock with
  | nil => exact List.Pairwise.nil
  | cons turn turns ih =>
      rw [am824Sent_cons] at h ⊢
      refine List.Pairwise.cons ?_ (ih fun s hs => h s (List.mem_cons_of_mem _ hs))
      intro b hb
      apply am824Advances_of_stamped (h _ List.mem_cons_self) (h b (List.mem_cons_of_mem _ hb))
      intro hanchors
      have hstart := (sent_start _ _ b hb).2 hanchors.symm
      rw [hstart]
      simp only [MediaClock.next, sentFirst]
      push_cast
      ring

/-! ### Where the packets are not all as long -/

/-- The lengths of the packets, each with the blocks before it. -/
def packetBlocks (params : TimelineParams) : Nat → Nat → Nat → List (Nat × Nat)
  | 0, _, _ => []
  | n + 1, sppAcc, blocks =>
      let (spp, sppAcc) := timelineSpp params sppAcc
      (spp, blocks) :: packetBlocks params n sppAcc (blocks + spp)

theorem sppAcc_next (st : Am824Loop) (turn : Am824Turn) :
    (st.next pacing turn).timeline.sppAcc
      = (timelineSpp pacing.timeline st.timeline.sppAcc).2 := by
  rw [Am824Loop.next, Am824Loop.clock]
  cases turn.reanchor <;> rfl

theorem sent_blocks (pacing : Am824Pacing) (turns : List Am824Turn) (st : Am824Loop) (clock : MediaClock) :
    (am824Sent pacing st clock turns).map (fun s => (s.spp, s.blocks))
      = packetBlocks pacing.timeline turns.length st.timeline.sppAcc clock.blocks := by
  induction turns generalizing st clock with
  | nil => rfl
  | cons turn turns ih =>
      rw [am824Sent_cons, List.map_cons, ih, sppAcc_next]
      rfl

theorem uint32_ofInt_inj {t u : Int} (h : UInt32.ofInt t = UInt32.ofInt u) :
    (2 ^ 32 : Int) ∣ t - u := by
  have hnat := congrArg UInt32.toNat h
  simp only [UInt32.ofInt, UInt32.toNat_ofNat'] at hnat
  omega

theorem nsPerSampleQ16_range (pacing : Am824Pacing) :
    5208 * 65536 ≤ pacing.timeline.nsPerSampleQ16 ∧
      pacing.timeline.nsPerSampleQ16 ≤ 31250 * 65536 := by
  obtain ⟨hlow, hhigh⟩ := cipSfcToSampleRate_range (pacing.cipSfc.toNat % 8)
  change 5208 * 65536 ≤ 1000000000 * 65536 / cipSfcToSampleRate _ ∧
    1000000000 * 65536 / cipSfcToSampleRate _ ≤ 31250 * 65536
  constructor
  · rw [Nat.le_div_iff_mul_le (by omega)]
    omega
  · apply Nat.div_le_of_le_mul
    omega

/-- A packet that starts a sample period past its time is not stamped as it should be. -/
theorem not_stamped_of_shift {s : Am824Sent}
    (h : StampedBy pacing pacing.timeline.nsPerSampleQ16 s) (htv : s.frame.tv) :
    ¬ Am824Stamped pacing s := by
  intro hstamped
  classical
  obtain ⟨i, -, hi⟩ := h.tv.mp htv
  obtain ⟨least, hleast⟩ : ∃ least, IsLeast (boundaries pacing s.blocks) least :=
    ⟨Nat.find ⟨i, hi⟩, Nat.find_spec ⟨i, hi⟩, fun _ hj => Nat.find_le hj⟩
  obtain ⟨t, ht, htnear⟩ := h.stamp htv least hleast
  obtain ⟨u, hu, hunear⟩ := hstamped.stamp htv least hleast
  have hsame : UInt32.ofInt t = UInt32.ofInt u := 
    (UInt32.add_left_inj _).mp (ht.symm.trans hu)
  obtain ⟨k, hk⟩ := uint32_ofInt_inj hsame
  obtain ⟨hlow, hhigh⟩ := nsPerSampleQ16_range pacing
  unfold stampRounding at htnear hunear
  rw [abs_le] at htnear hunear
  generalize (least : Int) * pacing.timeline.nsPerSampleQ16 = within at htnear hunear
  omega

theorem sched_le_none : |(0 : Int)| ≤ 1000 * nsQ16 := by decide

theorem fill_le_none : |(0 : Int)| ≤ 50 * nsQ16 := by decide

theorem rate_le_none : |(0 : Int)| ≤ 75 * nsQ16 := by decide

/-- A turn without correction. -/
def plainTurn : Am824Turn :=
  { correction :=
      { schedNsAdjQ16 := 0, fillAdjQ16 := 0, tsRateCorrQ16 := 0, sched_le := sched_le_none,
        fill_le := fill_le_none, rate_le := rate_le_none }
    reanchor := none
    mr := false
    tu := false
    audio := fun _ => 0 }

/-- A packet of one block more, with a boundary in it. -/
def HasLonger (params : TimelineParams) (syt n : Nat) : Prop :=
  ∃ p ∈ packetBlocks params n 0 0, p.1 = params.sppBase + 1 ∧ ∃ i < p.1, syt ∣ p.2 + i

instance (params : TimelineParams) (syt n : Nat) : Decidable (HasLonger params syt n) :=
  inferInstanceAs (Decidable (∃ p ∈ packetBlocks params n 0 0, _ ∧ ∃ i < p.1, syt ∣ p.2 + i))

theorem not_rule_of_longer (nextSendTime : Int) (avtpMediaTs : UInt32) {n : Nat}
    (h : HasLonger pacing.timeline pacing.sytInterval n) :
    ¬ Am824Rule pacing nextSendTime avtpMediaTs (List.replicate n plainTurn) := by
  intro hrule
  have hblocks := sent_blocks pacing (List.replicate n plainTurn)
    (.start nextSendTime avtpMediaTs) (.start pacing avtpMediaTs)
  rw [List.length_replicate] at hblocks
  obtain ⟨p, hp, hlonger, hboundary⟩ := h
  change p ∈ packetBlocks pacing.timeline n
    (Am824Loop.start nextSendTime avtpMediaTs).timeline.sppAcc
    (MediaClock.start pacing avtpMediaTs).blocks at hp
  rw [← hblocks] at hp
  obtain ⟨s, hs, rfl⟩ := List.mem_map.mp hp
  have hshift := sent_stampedBy (fun turn hturn => Or.inl (by
    rw [List.eq_of_mem_replicate hturn, plainTurn])) (am824_start_tracks nextSendTime avtpMediaTs)
    s hs
  dsimp only at hlonger hboundary
  have hone : ((s.spp : Int) - pacing.timeline.sppBase) * pacing.timeline.nsPerSampleQ16
      = pacing.timeline.nsPerSampleQ16 := by
    rw [hlonger]
    push_cast
    ring
  rw [hone] at hshift
  exact not_stamped_of_shift hshift (hshift.tv.mpr hboundary) (hrule.1 s hs)

theorem cipSfcToSampleRate_mem (sfc : Nat) :
    cipSfcToSampleRate sfc ∈ [32000, 44100, 48000, 88200, 96000, 176400, 192000] := by
  unfold cipSfcToSampleRate
  split <;> decide

theorem longer_of_rate {sampleRate interval : Nat}
    (hrate : sampleRate ∈ [32000, 44100, 48000, 88200, 96000, 176400, 192000])
    (hinterval : interval = 125 ∨ interval = 250) (hpos : 0 < sampleRate)
    (hlt : sampleRate < 2 ^ 31)
    (hrem : TimelineParams.sppRem ⟨sampleRate, interval, hpos, hlt, hinterval⟩ ≠ 0) :
    HasLonger ⟨sampleRate, interval, hpos, hlt, hinterval⟩
      (if sampleRate ≤ 48000 then 8 else if sampleRate ≤ 96000 then 16 else 32) 40 := by
  revert hpos hlt hrem hinterval
  simp only [List.mem_cons, List.not_mem_nil, or_false] at hrate
  intro hinterval
  rcases hrate with rfl | rfl | rfl | rfl | rfl | rfl | rfl <;>
    rcases hinterval with rfl | rfl <;> decide

/-- At every rate that is not whole a boundary falls into a longer packet within 40 packets. -/
theorem longer_of_fraction (hrem : pacing.timeline.sppRem ≠ 0) :
    HasLonger pacing.timeline pacing.sytInterval 40 :=
  longer_of_rate (cipSfcToSampleRate_mem _) pacing.interval_eq _ _ hrem

theorem packetBlocks_whole {params : TimelineParams} (hwhole : params.sppRem = 0) (n : Nat)
    {sppAcc : Nat} (hacc : sppAcc < params.sppDen) (blocks : Nat) :
    ∀ p ∈ packetBlocks params n sppAcc blocks, p.1 = params.sppBase := by
  induction n generalizing sppAcc blocks with
  | zero =>
      intro p hp
      cases hp
  | succ n ih =>
      intro p hp
      rcases List.mem_cons.mp hp with rfl | hp
      · exact spp_of_whole hwhole hacc
      · exact ih (spp_books params hacc).2 _ p hp

/-- The rule holds over every run exactly at the rates whose packets are all as long. -/
theorem am824_rule_iff (pacing : Am824Pacing) :
    (∀ nextSendTime avtpMediaTs turns, Am824Rule pacing nextSendTime avtpMediaTs turns)
      ↔ pacing.timeline.sppRem = 0 := by
  constructor
  · intro hrule
    by_contra hrem
    exact not_rule_of_longer 0 0 (longer_of_fraction hrem) (hrule 0 0 _)
  · intro hwhole nextSendTime avtpMediaTs turns
    have hblocks := sent_blocks pacing turns (.start nextSendTime avtpMediaTs)
      (.start pacing avtpMediaTs)
    have hstamped : ∀ s ∈ am824Sent pacing (.start nextSendTime avtpMediaTs)
        (.start pacing avtpMediaTs) turns, Am824Stamped pacing s := by
      intro s hs
      have hby := sent_stampedBy (fun _ _ => Or.inr hwhole)
        (am824_start_tracks nextSendTime avtpMediaTs) s hs
      have hmem : (s.spp, s.blocks) ∈ packetBlocks pacing.timeline turns.length 0 0 := by
        change _ ∈ packetBlocks _ _ (Am824Loop.start nextSendTime avtpMediaTs).timeline.sppAcc
          (MediaClock.start pacing avtpMediaTs).blocks
        rw [← hblocks]
        exact List.mem_map_of_mem hs
      have hspp : s.spp = pacing.timeline.sppBase :=
        packetBlocks_whole hwhole _ (sppDen_pos _) 0 _ hmem
      rw [hspp, sub_self, zero_mul] at hby
      exact stampedBy_zero_iff.mp hby
    exact ⟨hstamped, sent_pairwise hstamped⟩

theorem interval_classA : 125 = 125 ∨ 125 = 250 := Or.inl rfl

/-- 44.1 kHz in Class A: packets of 5 and 6 blocks in turn. -/
def classA44k1 : Am824Pacing :=
  { streamId := [0, 0, 0, 0, 0, 0, 0, 0]
    streamId_length := rfl
    cipSfc := 1
    dbs := 2
    presentationTimeOffsetNs := 2000000
    cipSyt := false
    interval := 125
    interval_eq := interval_classA }

/-- The second boundary lies in a packet of 6 blocks and is stamped 9 periods after the first. -/
theorem am824_rule_44k1 : ¬ Am824Rule classA44k1 0 0 [plainTurn, plainTurn] :=
  not_rule_of_longer (n := 2) 0 0 (by decide)

end EspAvb
