import EspAvb.Lib.ReadTrace
import EspAvb.Lib.Octets
import EspAvb.Lib.RingCells
import EspAvb.LiteTransport

/-!
# Stream reception

`avtp.c`, `avb_stream_rx_handler`: a stream frame is parsed, lost time is concealed, the audio goes
into the jitter ring as two 24-in-32 slots a frame, and the presentation marker and the gate anchor
are taken. The frame is the octets from `avtp_data` on, of which `len` were received.

The pitch search of the concealment works on floats and is a parameter. Counters that only
diagnostics print, and what is credited to the media clock, are left out.
-/

namespace EspAvb

open Traced RingCells

def avtpStreamDataPerMsg : Nat := 1024

structure RxFrame where
  octet : Nat → UInt8
  len : Nat

/-! ### The jitter ring -/

/-- `jitter_ring_t`: head and tail count on without end, modulo 2^32. -/
structure JitterRing where
  capacity : Nat
  buf : Nat → UInt8
  head : UInt32
  tail : UInt32
  power : ∃ k < 32, capacity = 2 ^ k
  fill_le : (head - tail).toNat ≤ capacity

def JitterRing.readable (r : JitterRing) : Nat := (r.head - r.tail).toNat

def JitterRing.writable (r : JitterRing) : Nat := r.capacity - r.readable

theorem JitterRing.capacity_le (r : JitterRing) : r.capacity ≤ 2 ^ 31 := by
  obtain ⟨k, hk, hcap⟩ := r.power
  rw [hcap]
  exact Nat.pow_le_pow_right (by norm_num) (by omega)

theorem JitterRing.toNat_push (r : JitterRing) {n : Nat} (h : n ≤ r.writable) :
    (r.head + UInt32.ofNat n - r.tail).toNat = r.readable + n := by
  have hcap := r.capacity_le
  have hfill := r.fill_le
  have hmove : r.head + UInt32.ofNat n - r.tail = (r.head - r.tail) + UInt32.ofNat n := by
    rw [UInt32.sub_eq_add_neg, UInt32.sub_eq_add_neg, UInt32.add_assoc, UInt32.add_assoc,
      UInt32.add_comm (UInt32.ofNat n)]
  have hsize : UInt32.size = 2 ^ 32 := rfl
  simp only [JitterRing.writable, JitterRing.readable] at h ⊢
  rw [hmove, UInt32.toNat_add, UInt32.toNat_ofNat_of_lt' (by omega), Nat.mod_eq_of_lt (by omega)]

/-- The head is published `n` octets on, over a buffer that holds them. -/
def JitterRing.push (r : JitterRing) (buf : Nat → UInt8) (n : Nat) (h : n ≤ r.writable) :
    JitterRing :=
  { r with
    buf
    head := r.head + UInt32.ofNat n
    fill_le := by
      have hfill := r.fill_le
      rw [r.toNat_push h]
      simp only [JitterRing.writable, JitterRing.readable] at h ⊢
      omega }

/-- A 24-bit sample, big-endian, and the 32-bit slot that it is put into. -/
def sampleOfOctets (hi mid lo : UInt8) : Int :=
  (hi.toNat * 2 ^ 16 + mid.toNat * 2 ^ 8 + lo.toNat : Int).bmod (2 ^ 24)

def slotOfSample (sample : Int) : List UInt8 :=
  let sample := if sample > 0x7fffff then 0x7fffff else if sample < -0x800000 then -0x800000 else sample
  [UInt8.ofInt (sample / 2 ^ 16), UInt8.ofInt (sample / 2 ^ 8), UInt8.ofInt sample, 0]

def ringSampleGet (cap : Nat) (buf : Nat → UInt8) (pos : Nat) : Int :=
  sampleOfOctets (buf (pos % cap)) (buf ((pos + 1) % cap)) (buf ((pos + 2) % cap))

def ringSamplePut (cap : Nat) (buf : Nat → UInt8) (pos : Nat) (sample : Int) : Nat → UInt8 :=
  store cap buf pos (slotOfSample sample)

/-! ### Loss concealment -/

def concealFrameBytes : Nat := 8
def concealFadeFrames : Nat := 960
def concealCrossfadeFrames : Nat := 48
def concealFadeRecipQ22 : Nat := 2 ^ 22 / concealFadeFrames
def concealCrossfadeRecipQ20 : Nat := 2 ^ 20 / concealCrossfadeFrames

/-- The period repeated through the last insert, and the crossfade owed to the audio after it. -/
structure ConcealState where
  concealSrc : UInt32 := 0
  concealProduced : Nat := 0
  concealPeriod : Nat := 0
  concealCrossfade : Nat := 0
  concealRepeatHead : UInt32 := 0

/-- `stream_conceal_sample`: one repetition sample, `produced` frames after the insert began. -/
def streamConcealSample (c : ConcealState) (cap : Nat) (buf : Nat → UInt8) (produced ch : Nat) : Int :=
  if concealFadeFrames ≤ produced then 0
  else
    let sample := ringSampleGet cap buf
      (c.concealSrc.toNat + produced % c.concealPeriod * concealFrameBytes + ch * 4)
    let gainQ16 : Nat := (concealFadeFrames - produced) * concealFadeRecipQ22 / 2 ^ 6
    sample * gainQ16 / 2 ^ 16

/-- The repetition of the first `frames` frames of an insert at `head`. -/
def concealRepeat (c : ConcealState) (cap : Nat) (head : Nat) (buf : Nat → UInt8) :
    Nat → (Nat → UInt8)
  | 0 => buf
  | frame + 1 =>
      let buf := concealRepeat c cap head buf frame
      let left := ringSamplePut cap buf (head + frame * concealFrameBytes)
        (streamConcealSample c cap buf frame 0)
      ringSamplePut cap left (head + frame * concealFrameBytes + 4)
        (streamConcealSample c cap left frame 1)

/-- What `stream_conceal_fill` takes from elsewhere: the switch `s_conceal_repeat`, and the result of
the pitch search. -/
structure ConcealParams where
  concealRepeat : Bool
  concealPeriod : Nat → (Nat → UInt8) → UInt32 → Nat

/-- `stream_conceal_fill`: `fillBytes` of concealment at the head, not yet published. An insert that
starts within one fade of the last repetition is silence. -/
def streamConcealFill (p : ConcealParams) (c : ConcealState) (r : JitterRing) (fillBytes : Nat) :
    ConcealState × (Nat → UInt8) :=
  let frames := fillBytes / concealFrameBytes
  let head := r.head.toNat
  if p.concealRepeat = true
      ∧ concealFadeFrames * concealFrameBytes ≤ (r.head - c.concealRepeatHead).toNat then
    let period := p.concealPeriod r.capacity r.buf r.head
    let repeated := min frames concealFadeFrames
    let c : ConcealState :=
      { concealRepeatHead := r.head
        concealPeriod := period
        concealSrc := r.head - UInt32.ofNat (period * concealFrameBytes)
        concealProduced := frames
        concealCrossfade := if frames < concealFadeFrames then concealCrossfadeFrames else 0 }
    let buf := concealRepeat c r.capacity head r.buf repeated
    (c, store r.capacity buf (head + repeated * concealFrameBytes)
      (List.replicate (fillBytes - repeated * concealFrameBytes) 0))
  else
    ({ c with concealPeriod := 0, concealCrossfade := 0 },
      store r.capacity r.buf head (List.replicate fillBytes 0))

/-- One frame of the crossfade, with `crossfade` frames of it still owed. -/
def concealMix (crossfade : Nat) (real repeated : Int) : Int :=
  let realShare := UInt32.ofInt (concealCrossfadeFrames - crossfade + 1)
  let realQ16 := (realShare * UInt32.ofNat concealCrossfadeRecipQ20) >>> 4
  ((real * realQ16.toNat + repeated * (65536 - realQ16 : UInt32).toNat) / 2 ^ 16).bmod (2 ^ 32)

def concealCrossfadeSlot (c : ConcealState) (cap : Nat) (buf : Nat → UInt8) (pos ch : Nat) :
    Nat → UInt8 :=
  ringSamplePut cap buf (pos + ch * 4)
    (concealMix c.concealCrossfade (ringSampleGet cap buf (pos + ch * 4))
      (streamConcealSample c cap buf c.concealProduced ch))

/-- `stream_conceal_after_write`: the frames from position `pos` on are crossfaded into the
repetition, `frames` of them or as many as are owed. -/
def streamConcealAfterWrite (cap : Nat) : Nat → Nat → ConcealState → (Nat → UInt8) →
    ConcealState × (Nat → UInt8)
  | 0, _, c, buf => (c, buf)
  | frames + 1, pos, c, buf =>
      if 0 < c.concealCrossfade ∧ c.concealPeriod ≠ 0 then
        let buf := concealCrossfadeSlot c cap buf pos 0
        let buf := concealCrossfadeSlot c cap buf pos 1
        streamConcealAfterWrite cap frames (pos + concealFrameBytes)
          { c with
            concealProduced := c.concealProduced + 1
            concealCrossfade := c.concealCrossfade - 1 } buf
      else (c, buf)

/-! ### The handler -/

structure PtMarker where
  pos : UInt32
  pt : UInt32
  deriving DecidableEq, Repr

def streamPtMarkers : Nat := 1024

/-- `stream_rx_ctx_t`, with the `input_map` of the state that it points to. -/
structure StreamRxCtx where
  expectedStreamId : List UInt8
  rateCheckPending : Bool
  expectedSubtype : UInt8
  expectedRateCode : UInt8
  inputMap : Nat → UInt16
  seqNumValid : Bool
  lastSeqNum : UInt8
  diagCaptured : Bool
  diagFirstAudio : List UInt8
  ring : JitterRing
  conceal : ConcealState
  standingDepthQ4 : UInt32
  standingDepthSamples : UInt32
  standingDepthHold : UInt32
  ringBytesPerSec : UInt32
  extraLatencyNs : UInt32
  outputDelayNs : UInt32
  learnedLatencyNs : UInt32
  drainLocked : Bool
  diagGateMode : UInt8
  gateArmed : Bool
  gateAvtpTs : UInt32
  gateArmUs : Int
  ptUnarmedArrivals : UInt32
  ptMarkers : Nat → PtMarker
  ptMarkerCount : UInt32
  lastPacketUs : Int
  pktCount : UInt32

/-- The clocks as the handler reads them; there is no PTP time while `ptpd_now` fails. -/
structure RxClock where
  pauseNowUs : Int
  ptpNow : Option UInt32
  armNowUs : Int
  stashNowUs : Int

/-- Where the audio of a frame lies and how it is laid out. -/
structure PcmLayout where
  channels : Nat
  samples : Nat
  start : Nat
  len : Nat

def PcmLayout.total (layout : PcmLayout) : Nat := layout.samples * 8

/-- The gap before this frame; a duplicate or late frame is not taken. -/
def rxSequence (ctx : StreamRxCtx) (seqNum : UInt8) : Option (StreamRxCtx × Nat) :=
  let expected := ctx.lastSeqNum + 1
  let lost := if ctx.seqNumValid = true ∧ seqNum ≠ expected then (seqNum - expected).toNat else 0
  if 250 ≤ lost then none else some ({ ctx with lastSeqNum := seqNum, seqNumValid := true }, lost)

/-- The rate code of the format: AAF nsr or 61883 SFC. -/
def rxRateCode (frame : RxFrame) (subtype : UInt8) : Traced UInt8 :=
  if subtype.toNat = avtpSubtypeAaf then do
    let nsr ← octet frame.octet 17
    pure ((nsr >>> 4) &&& 0x0f)
  else if 29 < frame.len then do
    let sfc ← octet frame.octet 29
    pure (sfc &&& 0x07)
  else pure 0xff

def rxRateCheck (ctx : StreamRxCtx) (frame : RxFrame) (subtype : UInt8) :
    Traced (Option StreamRxCtx) :=
  if ctx.rateCheckPending then do
    let rateCode ← rxRateCode frame subtype
    if subtype ≠ ctx.expectedSubtype ∨ rateCode ≠ ctx.expectedRateCode then pure none
    else pure (some { ctx with rateCheckPending := false })
  else pure (some ctx)

def rxParse (frame : RxFrame) (subtype : UInt8) : Traced (Option PcmLayout) :=
  if subtype.toNat = avtpSubtypeAaf then do
    let streamDataLen ← octets frame.octet 20 2
    let streamDataLen := Octets.value streamDataLen
    if streamDataLen = 0 ∨ avtpStreamDataPerMsg < streamDataLen then pure none
    else do
      let chanPerFrame ← octet frame.octet 18
      let channels := if chanPerFrame = 0 then 8 else chanPerFrame.toNat
      pure (some ⟨channels, streamDataLen / (channels * 4), 24, streamDataLen⟩)
  else if subtype.toNat = avtpSubtype61883 then do
    let streamDataLen ← octets frame.octet 20 2
    let streamDataLen := Octets.value streamDataLen
    if streamDataLen ≤ 8 then pure none
    else do
      let dbs ← octet frame.octet 25
      let channels := if dbs = 0 then 8 else dbs.toNat
      pure (some ⟨channels, (streamDataLen - 8) / (channels * 4), 32, streamDataLen - 8⟩)
  else pure none

def rxDiagCapture (ctx : StreamRxCtx) (frame : RxFrame) (layout : PcmLayout) : Traced StreamRxCtx :=
  if ctx.diagCaptured then pure ctx
  else do
    let audio ← octets frame.octet layout.start (min layout.len 8)
    pure { ctx with diagCaptured := true, diagFirstAudio := audio }

def standingDepthMinSamples : UInt32 := 64
def standingDepthHoldPackets : UInt32 := 256

/-- The pause before this frame; the clock is read only when a loss was seen or the ring is empty. -/
def rxPauseUs (ctx : StreamRxCtx) (clock : RxClock) (lost : Nat) : Int :=
  if ctx.drainLocked = true ∧ ctx.lastPacketUs ≠ 0 ∧ (0 < lost ∨ ctx.ring.readable = 0) then
    clock.pauseNowUs - ctx.lastPacketUs
  else 0

/-- Silence after a long pause, sized so that the frame plays at its presentation time. -/
def rxAlignedFill (ctx : StreamRxCtx) (pktTs now32 : UInt32) : Nat :=
  let lead := (pktTs + ctx.extraLatencyNs - ctx.outputDelayNs + ctx.learnedLatencyNs
    - now32).toInt32.toInt
  if -400000000 < lead ∧ lead < 400000000 ∧ 0 < lead then
    (lead.toNat * ctx.ringBytesPerSec.toNat / 1000000000 - ctx.ring.readable) / 8 * 8
  else 0

/-- The lost packets of a short pause, bounded by what the pause can have cost. -/
def rxResidueFill (ctx : StreamRxCtx) (pauseUs : Int) (total lost : Nat) : Nat :=
  if 0 < pauseUs ∧ 0 < ctx.ringBytesPerSec then
    min lost (pauseUs.toNat * ctx.ringBytesPerSec.toNat / (total * 1000000) + 16) * total
  else lost * total

/-- An insert refills the ring to its standing depth and no further. -/
def rxStandingCap (ctx : StreamRxCtx) (pauseUs : Int) (fillBytes : Nat) : Nat :=
  if 0 < fillBytes ∧ standingDepthMinSamples ≤ ctx.standingDepthSamples then
    let pauseBytes :=
      if 0 < pauseUs then pauseUs.toNat * ctx.ringBytesPerSec.toNat % 2 ^ 64 / 1000000 else 0
    let ceiling := ctx.standingDepthQ4.toNat / 16 + ctx.ringBytesPerSec.toNat / 1000 + pauseBytes
    min fillBytes ((ceiling - ctx.ring.readable) / 8 * 8)
  else fillBytes

/-- The lost time by outage class: after a long pause from presentation time or not at all, else
from the packets lost. -/
def rxLostTime (ctx : StreamRxCtx) (frame : RxFrame) (clock : RxClock) (flags : UInt8)
    (total lost : Nat) : Traced Nat :=
  if 10000 < rxPauseUs ctx clock lost then
    if ctx.diagGateMode = 1 ∧ flags &&& 0x01 ≠ 0 then
      match clock.ptpNow with
      | none => pure 0
      | some now32 => do
          let pktTs ← octets frame.octet 12 4
          pure (rxAlignedFill ctx (UInt32.ofNat (Octets.value pktTs)) now32)
    else pure 0
  else if 0 < lost ∧ lost < 200 then
    pure (rxResidueFill ctx (rxPauseUs ctx clock lost) total lost)
  else pure 0

def rxFillBytes (ctx : StreamRxCtx) (frame : RxFrame) (clock : RxClock) (total lost : Nat) :
    Traced Nat :=
  if ctx.drainLocked then do
    let flags ← octet frame.octet 1
    if flags &&& 0x08 = 0 ∧ (0 < lost ∨ 10000 < rxPauseUs ctx clock lost) then do
      let fillBytes ← rxLostTime ctx frame clock flags total lost
      pure (rxStandingCap ctx (rxPauseUs ctx clock lost) fillBytes)
    else pure 0
  else pure 0

/-- The concealment insert, made only where the frame behind it fits too. -/
def rxConceal (p : ConcealParams) (ctx : StreamRxCtx) (total fillBytes : Nat) : StreamRxCtx :=
  if h : 0 < fillBytes ∧ fillBytes + total ≤ ctx.ring.writable then
    let (conceal, buf) := streamConcealFill p ctx.conceal ctx.ring fillBytes
    { ctx with conceal, ring := ctx.ring.push buf fillBytes (by omega) }
  else ctx

def rxStandingDepth (ctx : StreamRxCtx) (lost : Nat) : StreamRxCtx :=
  if ctx.drainLocked = false then { ctx with standingDepthSamples := 0 }
  else if 0 < lost then { ctx with standingDepthHold := standingDepthHoldPackets }
  else if 0 < ctx.standingDepthHold then { ctx with standingDepthHold := ctx.standingDepthHold - 1 }
  else
    let sampleQ4 := UInt32.ofNat ctx.ring.readable <<< 4
    { ctx with
      standingDepthQ4 :=
        if ctx.standingDepthSamples = 0 then sampleQ4
        else (ctx.standingDepthQ4.toInt32
          + ((sampleQ4.toInt32 - ctx.standingDepthQ4.toInt32) >>> 6)).toUInt32
      standingDepthSamples :=
        if ctx.standingDepthSamples < standingDepthMinSamples then ctx.standingDepthSamples + 1
        else ctx.standingDepthSamples }

/-- The slot of one frame that plays stream channel `srcCh`: the three sample octets, which AM824
keeps behind a label, and the pad. -/
def rxSlot (frame : RxFrame) (subtype : UInt8) (layout : PcmLayout) (s srcCh : Nat) :
    Traced (List UInt8) :=
  let srcOffset := if srcCh < layout.channels then (s * layout.channels + srcCh) * 4 else layout.len
  let label := if subtype.toNat = avtpSubtypeAaf then 0 else 1
  if srcOffset + label + 2 < layout.len then do
    let sample ← octets frame.octet (layout.start + srcOffset + label) 3
    pure (sample ++ [0])
  else pure [0, 0, 0, 0]

/-- The first `count` frames of the packet, from ring position `head` on. -/
def rxFrames (ctx : StreamRxCtx) (frame : RxFrame) (subtype : UInt8) (layout : PcmLayout) :
    Nat → Traced (Nat → UInt8)
  | 0 => pure ctx.ring.buf
  | s + 1 => do
      let buf ← rxFrames ctx frame subtype layout s
      let left ← rxSlot frame subtype layout s (ctx.inputMap 0).toNat
      let right ← rxSlot frame subtype layout s (ctx.inputMap 1).toNat
      let pos := ctx.ring.head.toNat + s * 8
      pure (store ctx.ring.capacity (store ctx.ring.capacity buf pos left) (pos + 4) right)

/-- The packet is written behind the head and published. -/
def rxStore (ctx : StreamRxCtx) (frame : RxFrame) (subtype : UInt8) (layout : PcmLayout)
    (h : layout.total ≤ ctx.ring.writable) : Traced StreamRxCtx := do
  let buf ← rxFrames ctx frame subtype layout layout.samples
  let (conceal, buf) := streamConcealAfterWrite ctx.ring.capacity layout.samples
    ctx.ring.head.toNat ctx.conceal buf
  pure { ctx with conceal, ring := ctx.ring.push buf layout.total h }

/-- The marker of a packet whose timestamp is valid: the position its first byte is written to. -/
def rxMark (ctx : StreamRxCtx) (frame : RxFrame) (pos : UInt32) : Traced StreamRxCtx := do
  let flags ← octet frame.octet 1
  if flags &&& 0x01 ≠ 0 then do
    let avtpTs ← octets frame.octet 12 4
    let marker := ctx.ptMarkerCount.toNat % streamPtMarkers
    pure
      { ctx with
        ptMarkers := Function.update ctx.ptMarkers marker ⟨pos, UInt32.ofNat (Octets.value avtpTs)⟩
        ptMarkerCount := ctx.ptMarkerCount + 1 }
  else pure ctx

/-- The gate anchor: the first packet into an empty ring, unless its timestamp is uncertain. -/
def rxAnchor (ctx : StreamRxCtx) (frame : RxFrame) (clock : RxClock) (preFill : Nat) :
    Traced StreamRxCtx :=
  if preFill = 0 ∧ ctx.gateArmed = false then do
    let tu ← octet frame.octet 3
    if tu &&& 0x01 ≠ 0 then pure { ctx with ptUnarmedArrivals := ctx.ptUnarmedArrivals + 1 }
    else do
      let avtpTs ← octets frame.octet 12 4
      pure
        { ctx with
          gateArmed := true
          gateAvtpTs := UInt32.ofNat (Octets.value avtpTs)
          gateArmUs := clock.armNowUs }
  else pure ctx

/-- Every 8 packets the arrival is kept for the pause measurement. -/
def rxStash (ctx : StreamRxCtx) (frame : RxFrame) (clock : RxClock) : Traced StreamRxCtx :=
  if (ctx.pktCount + 1) &&& 0x7 = 0 then do
    let _ ← octets frame.octet 12 4
    pure { ctx with pktCount := ctx.pktCount + 1, lastPacketUs := clock.stashNowUs }
  else pure { ctx with pktCount := ctx.pktCount + 1 }

/-- The ring write of a packet, once the concealment before it is in. -/
def rxWrite (ctx : StreamRxCtx) (frame : RxFrame) (clock : RxClock) (subtype : UInt8)
    (layout : PcmLayout) : Traced StreamRxCtx :=
  if h : layout.total ≤ ctx.ring.writable then do
    let preFill := ctx.ring.readable
    let pos := ctx.ring.head
    let ctx ← rxStore ctx frame subtype layout h
    let ctx ← rxMark ctx frame pos
    rxAnchor ctx frame clock preFill
  else pure ctx

def rxAudio (p : ConcealParams) (ctx : StreamRxCtx) (frame : RxFrame) (clock : RxClock)
    (subtype : UInt8) (layout : PcmLayout) (lost : Nat) : Traced StreamRxCtx := do
  let ctx ← rxDiagCapture ctx frame layout
  let fillBytes ← rxFillBytes ctx frame clock layout.total lost
  let ctx := rxStandingDepth (rxConceal p ctx layout.total fillBytes) lost
  let ctx ← rxWrite ctx frame clock subtype layout
  rxStash ctx frame clock

def avbStreamRxHandler (p : ConcealParams) (ctx : StreamRxCtx) (frame : RxFrame) (clock : RxClock) :
    Traced StreamRxCtx :=
  if frame.len < 24 then pure ctx
  else do
    let streamId ← octets frame.octet 4 8
    if streamId ≠ ctx.expectedStreamId then pure ctx
    else do
      let seqNum ← octet frame.octet 2
      match rxSequence ctx seqNum with
      | none => pure ctx
      | some (ctx, lost) => do
          let _tu ← octet frame.octet 3
          let subtype ← octet frame.octet 0
          let subtype := subtype &&& 0x7f
          let checked ← rxRateCheck ctx frame subtype
          match checked with
          | none => pure ctx
          | some ctx => do
              let parsed ← rxParse frame subtype
              match parsed with
              | none => pure ctx
              | some layout =>
                  if layout.samples = 0 then pure ctx
                  else rxAudio p ctx frame clock subtype layout lost

end EspAvb
