import EspAvb.AvbSrc
import EspAvb.StreamRx

/-!
# The drain

`avtp.c`, from the jitter ring to the DAC: a pass of `stream_in_drain_body` locks playout at the gate
or, once it is locked, trims surplus latency, slips frames, converts to the DAC's rate, and hands the
I2S DMA what it takes.

What the gate and the phase loops decide, from clocks, counters of the DMA and floats, is an input of
the pass, and so is how many frames the DMA has room for at each write. A pass and the packet handler
do not overlap. `phase_slipped`, an int32, is kept as its 32 bits.
-/

namespace EspAvb

/-! ### The ring's tail -/

namespace JitterRing

variable (r : JitterRing)

theorem toNat_advance {n : Nat} (h : n ≤ r.readable) :
    (r.head - (r.tail + UInt32.ofNat n)).toNat = r.readable - n := by
  have hlt := (r.head - r.tail).toNat_lt
  have hn : (UInt32.ofNat n).toNat = n := UInt32.toNat_ofNat_of_lt' (h.trans_lt hlt)
  have hmove : r.head - (r.tail + UInt32.ofNat n) = r.head - r.tail - UInt32.ofNat n := by
    grind
  rw [hmove, UInt32.toNat_sub_of_le _ _ (UInt32.le_iff_toNat_le.mpr (hn.le.trans h)), hn, readable]

theorem toNat_retreat {n : Nat} (h : n ≤ r.writable) :
    (r.head - (r.tail - UInt32.ofNat n)).toNat = r.readable + n := by
  have hmove : r.head - (r.tail - UInt32.ofNat n) = r.head + UInt32.ofNat n - r.tail := by
    grind
  rw [hmove]
  exact r.toNat_push h

/-- The tail moves `n` octets on. -/
def advance (n : Nat) (h : n ≤ r.readable) : JitterRing :=
  { r with
    tail := r.tail + UInt32.ofNat n
    fill_le := by
      rw [r.toNat_advance h]
      exact (Nat.sub_le _ _).trans r.fill_le }

theorem retreat_fill_le {n : Nat} (h : n ≤ r.writable) :
    (r.head - (r.tail - UInt32.ofNat n)).toNat ≤ r.capacity := by
  have hfill := r.fill_le
  rw [r.toNat_retreat h]
  simp only [writable, readable] at h ⊢
  omega

/-- The tail moves `n` octets back, over a buffer that has them. -/
def retreat (buf : Nat → UInt8) (n : Nat) (h : n ≤ r.writable) : JitterRing :=
  { r with
    buf
    tail := r.tail - UInt32.ofNat n
    fill_le := r.retreat_fill_le h }

/-- The tail moves to the head. -/
def flush : JitterRing := r.advance r.readable le_rfl

/-- `count` octets from the tail on. -/
def peek (count : Nat) : List UInt8 :=
  (List.range count).map fun i => r.buf ((r.tail.toNat + i) % r.capacity)

end JitterRing

/-! ### The context -/

def streamFrameBytes : Nat := 8
def streamTrimCrossfadeUs : Nat := 2000
def streamSlipFadeUs : Nat := 10000
def drainMaxBytes : Nat := 4096

/-- The size of a DMA buffer, the trim's window and margin, the converter's table and block. -/
structure DrainConfig where
  unitFrames : Nat
  unitFrames_pos : 0 < unitFrames
  windowS : Nat
  marginUs : Int
  table : Nat → Int
  srcMaxFrames : Nat

def DrainConfig.unit (cfg : DrainConfig) : Nat := cfg.unitFrames * streamFrameBytes

/-- `stream_rx_ctx_t`, what the drain has of it beside the packet handler. `dma` are the octets handed
to the DMA since the lock, `produced` counts those that the converter made since. -/
structure StreamDrain where
  rx : StreamRxCtx
  trimWindowStartUs : Int
  trimMinAheadUs : Int
  slipDir : Int
  slipFrames : Nat
  slipDone : Nat
  slipPos : UInt32
  slipPrev : Nat → Int
  phaseLockPos : UInt32
  phaseTrimmed : UInt32
  phaseSlipped : UInt32
  srcOut : Bool
  src : AvbSrc
  srcPrimed : Bool
  srcPending : List UInt8
  srcTrimBytes : UInt32
  dma : List UInt8
  produced : Nat

namespace StreamDrain

variable (cfg : DrainConfig) (ctx : StreamDrain)

abbrev ring : JitterRing := ctx.rx.ring

def setRing (r : JitterRing) : StreamDrain := { ctx with rx := { ctx.rx with ring := r } }

def bytesPerSec : Nat := ctx.rx.ringBytesPerSec.toNat

/-- `stream_in_phase_lock` -/
def streamInPhaseLock : StreamDrain :=
  { ctx with
    phaseLockPos := ctx.ring.tail
    phaseTrimmed := 0
    trimWindowStartUs := 0
    phaseSlipped := 0
    slipDir := 0
    src := if ctx.srcOut then avbSrcInit else ctx.src
    srcPrimed := if ctx.srcOut then false else ctx.srcPrimed
    srcPending := if ctx.srcOut then [] else ctx.srcPending
    srcTrimBytes := if ctx.srcOut then 0 else ctx.srcTrimBytes
    dma := []
    produced := 0 }

/-! ### Trims -/

/-- One slot of the crossfade, its outgoing sample at `pos`. -/
def trimCrossfadeSlot (cap frames frame surplus pos : Nat) (buf : Nat → UInt8) : Nat → UInt8 :=
  let inShare : Int := frame + 1
  let outShare : Int := frames + 1 - inShare
  ringSamplePut cap buf (pos + surplus)
    ((ringSampleGet cap buf pos * outShare + ringSampleGet cap buf (pos + surplus) * inShare).tdiv
      (frames + 1))

/-- The loop of `stream_trim_crossfade`, backwards, with `left` frames of it to go. -/
def trimCrossfadeLoop (cap frames tail surplus : Nat) : Nat → (Nat → UInt8) → (Nat → UInt8)
  | 0, buf => buf
  | frame + 1, buf =>
      let pos := tail + frame * streamFrameBytes
      let buf := trimCrossfadeSlot cap frames frame surplus pos buf
      let buf := trimCrossfadeSlot cap frames frame surplus (pos + 4) buf
      trimCrossfadeLoop cap frames tail surplus frame buf

/-- `stream_trim_crossfade` -/
def streamTrimCrossfade (surplus after : Nat) : Nat → UInt8 :=
  let frames := min (ctx.bytesPerSec * streamTrimCrossfadeUs / 1000000 / streamFrameBytes)
    (after / streamFrameBytes)
  trimCrossfadeLoop ctx.ring.capacity frames ctx.ring.tail.toNat surplus frames ctx.ring.buf

/-- The surplus that `stream_in_trim_latency` takes, in whole DMA buffers. -/
def trimBytes (surplusUs : Int) : Nat :=
  let surplus := surplusUs.toNat * ctx.bytesPerSec / 1000000 % 2 ^ 32
  let surplus := if ctx.srcOut then surplus else min surplus ctx.ring.readable
  surplus - surplus % cfg.unit

theorem trimBytes_le (surplusUs : Int) (h : ctx.srcOut = false) :
    ctx.trimBytes cfg surplusUs ≤ ctx.ring.readable := by
  simp only [trimBytes, h, Bool.false_eq_true, if_false]
  exact (Nat.sub_le _ _).trans (min_le_right _ _)

/-- The end of `stream_in_trim_latency`: the converter's walks take the surplus, or a splice does. -/
def trim (surplusUs : Int) : StreamDrain :=
  let surplus := ctx.trimBytes cfg surplusUs
  if surplus = 0 then ctx
  else if h : ctx.srcOut = false then
    let buf := ctx.streamTrimCrossfade surplus (ctx.ring.readable - surplus)
    { ctx.setRing { ctx.ring.advance surplus (ctx.trimBytes_le cfg surplusUs h) with buf } with
      phaseTrimmed := ctx.phaseTrimmed + UInt32.ofNat surplus }
  else
    { ctx with
      src := avbSrcOwe ctx.src (surplus / streamFrameBytes : Nat)
      srcTrimBytes := ctx.srcTrimBytes + UInt32.ofNat surplus }

/-- `stream_in_trim_latency` -/
def streamInTrimLatency (nowUs phaseNs aheadUs : Int) : StreamDrain :=
  if ctx.rx.diagGateMode ≠ 1 ∨ ctx.slipDir ≠ 0 ∨ ctx.srcTrimBytes ≠ 0 ∨ cfg.windowS = 0 then ctx
  else
    let started := ctx.trimWindowStartUs ≠ 0
    let minAhead := if ¬started ∨ aheadUs < ctx.trimMinAheadUs then aheadUs else ctx.trimMinAheadUs
    if ¬started then { ctx with trimMinAheadUs := minAhead, trimWindowStartUs := nowUs }
    else if nowUs - ctx.trimWindowStartUs < cfg.windowS * 1000000 then
      { ctx with trimMinAheadUs := minAhead }
    else
      let surplusUs := min (minAhead - cfg.marginUs) (phaseNs.tdiv 1000)
      let ctx := { ctx with trimWindowStartUs := nowUs, trimMinAheadUs := aheadUs }
      if surplusUs < 1000 then ctx else ctx.trim cfg surplusUs

/-! ### Slips -/

/-- `stream_in_slip_frame` -/
def streamInSlipFrame (drop : Bool) : StreamDrain :=
  if ctx.slipDir ≠ 0 ∨ ctx.bytesPerSec = 0 then ctx
  else
    { ctx with
      slipFrames := max 1 (ctx.bytesPerSec * streamSlipFadeUs / 1000000 / streamFrameBytes)
      slipDone := 0
      slipPos := ctx.ring.tail
      slipPrev := fun _ => 0
      slipDir := if drop then 1 else -1 }

/-- A frame's sample faded by `done` frames of the slip, with the frame behind it for a drop or the
original frame before it for a repeat. -/
def slipBlend (drop : Bool) (frames done : Nat) (current neighbour : Int) : Int :=
  if drop then
    (current * ((frames : Int) - done) + neighbour * (done + 1)).tdiv (frames + 1)
  else (current * ((frames : Int) - done) + neighbour * done).tdiv frames

/-- One channel of one frame of the fade. -/
def slipFadeSlot (ch : Nat) (buf : Nat → UInt8) : Nat → UInt8 :=
  let cap := ctx.ring.capacity
  let pos := ctx.slipPos.toNat + ch * 4
  let drop : Bool := 0 < ctx.slipDir
  let neighbour :=
    if drop then ringSampleGet cap buf (pos + streamFrameBytes) else ctx.slipPrev ch
  ringSamplePut cap buf pos
    (slipBlend drop ctx.slipFrames ctx.slipDone (ringSampleGet cap buf pos) neighbour)

/-- One turn of the loop of `stream_in_slip_fade`. -/
def slipFadeFrame : StreamDrain :=
  let left := ctx.slipFadeSlot 0 ctx.ring.buf
  let original := fun ch =>
    ringSampleGet ctx.ring.capacity (if ch = 0 then ctx.ring.buf else left) (ctx.slipPos.toNat + ch * 4)
  { ctx.setRing { ctx.ring with buf := ctx.slipFadeSlot 1 left } with
    slipPos := ctx.slipPos + UInt32.ofNat streamFrameBytes
    slipDone := ctx.slipDone + 1
    slipPrev := if 0 < ctx.slipDir then ctx.slipPrev else original }

/-- The loop of `stream_in_slip_fade`, with `left` frames of the slip to go. -/
def slipFadeLoop : Nat → StreamDrain → StreamDrain
  | 0, ctx => ctx
  | left + 1, ctx =>
      let need := if 0 < ctx.slipDir then 2 * streamFrameBytes else streamFrameBytes
      if (ctx.ring.head - ctx.slipPos).toInt32.toInt < need then ctx
      else slipFadeLoop left ctx.slipFadeFrame

/-- `stream_in_slip_fade` -/
def streamInSlipFade : StreamDrain :=
  if ctx.slipDir = 0 then ctx
  else if (ctx.slipPos - ctx.ring.tail).toInt32 < 0 then { ctx with slipDir := 0 }
  else slipFadeLoop (ctx.slipFrames - ctx.slipDone) ctx

/-- `stream_in_slip_cap` -/
def streamInSlipCap (toRead : Nat) : Nat :=
  if ctx.slipDir = 0 then toRead
  else
    let faded := (ctx.slipPos - ctx.ring.tail).toNat
    if ctx.slipDone = ctx.slipFrames then min toRead faded
    else if faded < toRead then faded - faded % cfg.unit
    else toRead

theorem streamInSlipCap_le (toRead : Nat) : ctx.streamInSlipCap cfg toRead ≤ toRead := by
  unfold streamInSlipCap
  dsimp only
  split_ifs <;> omega

/-- `stream_in_slip_land` -/
def streamInSlipLand : StreamDrain :=
  if ctx.slipDir = 0 ∨ ctx.slipDone ≠ ctx.slipFrames ∨ ctx.ring.tail ≠ ctx.slipPos then ctx
  else if 0 < ctx.slipDir then
    if h : streamFrameBytes ≤ ctx.ring.readable then
      { ctx.setRing (ctx.ring.advance streamFrameBytes h) with
        phaseSlipped := ctx.phaseSlipped + UInt32.ofNat streamFrameBytes
        slipDir := 0 }
    else ctx
  else
    if h : 1024 ≤ ctx.ring.writable then
      let pos := (ctx.ring.tail - UInt32.ofNat streamFrameBytes).toNat
      let left := ringSamplePut ctx.ring.capacity ctx.ring.buf pos (ctx.slipPrev 0)
      let buf := ringSamplePut ctx.ring.capacity left (pos + 4) (ctx.slipPrev 1)
      { ctx.setRing (ctx.ring.retreat buf streamFrameBytes (by
          simp only [streamFrameBytes]
          omega)) with
        phaseSlipped := ctx.phaseSlipped - UInt32.ofNat streamFrameBytes
        slipDir := 0 }
    else ctx

end StreamDrain

/-! ### One pass -/

/-- What the gate does in a pass: nothing, drop its anchor, keep the ring flushed, or start playout,
late by `errNs` on a presentation time. -/
inductive GateDecision where
  | hold
  | reject
  | flush
  | start (ptMode : Bool) (errNs : Nat)

/-- A phase sample, and what the loops that hold the phase make of it. -/
structure PhaseTick where
  nowUs : Int
  phaseNs : Int
  aheadUs : Int
  heldSlip : Option Bool
  residualFrames : Nat

/-- `room` are the frames that the DMA takes at each write; `starved` that no packet came for 65 ms. -/
structure DrainTurn where
  gate : GateDecision
  regate : Bool
  tick : Option PhaseTick
  rateSlip : Option Bool
  rateQ32 : Int
  room : List Nat
  starved : Bool

namespace StreamDrain

variable (cfg : DrainConfig) (ctx : StreamDrain)

/-- The slip that a loop asks for; a converting drain never slips. -/
def slipAsked (slip : Option Bool) : StreamDrain :=
  match slip with
  | some drop => if ctx.srcOut then ctx else ctx.streamInSlipFrame drop
  | none => ctx

/-- What `stream_in_lock_residual` has the converter walk out. -/
def lockResidual (frames : Nat) : StreamDrain :=
  if ctx.srcOut = true ∧ ctx.srcTrimBytes = 0 ∧ 0 < frames then
    { ctx with
      src := avbSrcOwe ctx.src frames
      srcTrimBytes := ctx.srcTrimBytes + UInt32.ofNat (frames * streamFrameBytes) }
  else ctx

/-- `stream_in_phase_tick`, when a sample is due. -/
def streamInPhaseTick (tick : PhaseTick) : StreamDrain :=
  ((ctx.slipAsked tick.heldSlip).lockResidual tick.residualFrames).streamInTrimLatency cfg tick.nowUs
    tick.phaseNs tick.aheadUs

/-- `stream_in_drain_empty` -/
def streamInDrainEmpty (starved : Bool) : StreamDrain :=
  if starved then
    { ctx with rx := { ctx.rx with ring := ctx.ring.flush, drainLocked := false, gateArmed := false } }
  else ctx

/-! #### The converter -/

/-- The slots of the ring frame at position `pos`. -/
def ringFrame (r : JitterRing) (pos : Nat) : SrcFrame :=
  let octet := fun i => r.buf ((pos + i) % r.capacity)
  [⟨octet 0, octet 1, octet 2, octet 3⟩, ⟨octet 4, octet 5, octet 6, octet 7⟩]

def frameOctets (frame : SrcFrame) : List UInt8 :=
  frame.flatMap fun slot => [slot.msb, slot.mid, slot.lsb, slot.pad]

def srcLayout : SrcLayout := ⟨2, 2⟩

/-- Half the converter's window. -/
def srcHalf : Nat := avbSrcTaps / 2 * streamFrameBytes

/-- The largest block of at most `units` DMA buffers whose inputs are there, with those inputs. -/
def convertFit (rateQ32 : Int) : Nat → Option { block : Nat × Nat // block.2 * streamFrameBytes ≤ ctx.ring.readable }
  | 0 => none
  | units + 1 =>
      let outFrames := (units + 1) * cfg.unitFrames
      let inFrames := avbSrcInputs ctx.src outFrames rateQ32
      if h : inFrames * streamFrameBytes ≤ ctx.ring.readable then some ⟨(outFrames, inFrames), h⟩
      else convertFit rateQ32 units

/-- The part of the frames a block took that a trim was waiting for. -/
def srcTrimmed (inFrames outFrames : Nat) : Nat :=
  min ((inFrames - outFrames) * streamFrameBytes) ctx.srcTrimBytes.toNat

/-- `stream_in_convert_block` -/
def streamInConvertBlock (rateQ32 : Int) : Option StreamDrain :=
  let outBytes := min (ctx.ring.readable - streamFrameBytes) (cfg.srcMaxFrames * streamFrameBytes)
  (ctx.convertFit cfg rateQ32 (outBytes / cfg.unit)).map fun block =>
    let outFrames := block.val.1
    let inFrames := block.val.2
    let input := (List.range inFrames).map fun i =>
      ringFrame ctx.ring (ctx.ring.tail.toNat + i * streamFrameBytes)
    let run := avbSrcRun cfg.table srcLayout ctx.src input outFrames rateQ32
    let taken := ((inFrames : Int) - outFrames) * streamFrameBytes
    let trimmed := ctx.srcTrimmed inFrames outFrames
    let srcTrimBytes := ctx.srcTrimBytes - UInt32.ofNat trimmed
    { ctx.setRing (ctx.ring.advance (inFrames * streamFrameBytes) block.property) with
      src := run.src
      phaseTrimmed := ctx.phaseTrimmed + UInt32.ofNat trimmed
      -- a rate walk and a trim walk of one block may cancel, and then nothing more is seen taken
      srcTrimBytes := if run.src.pos.extra = 0 ∧ run.src.pos.walkLeft = 0 then 0 else srcTrimBytes
      phaseSlipped := ctx.phaseSlipped + UInt32.ofInt (taken - trimmed)
      srcPending := run.out.flatMap frameOctets
      produced := ctx.produced + outFrames * streamFrameBytes }

/-- What is pending goes to the DMA as far as there is room. -/
def writePending (room : Nat) : StreamDrain :=
  let count := room * streamFrameBytes
  { ctx with
    srcPending := ctx.srcPending.drop count
    dma := ctx.dma ++ ctx.srcPending.take count }

/-- The loop of `stream_in_write_converted`: blocks are converted and written until the DMA is full or
too little has arrived. -/
def convertLoop (rateQ32 : Int) : List Nat → StreamDrain → StreamDrain
  | [], ctx =>
      if ctx.srcPending = [] then (ctx.streamInConvertBlock cfg rateQ32).getD ctx else ctx
  | room :: rooms, ctx =>
      match if ctx.srcPending = [] then ctx.streamInConvertBlock cfg rateQ32 else some ctx with
      | none => ctx
      | some ctx =>
          let ctx := ctx.writePending room
          if ctx.srcPending = [] then convertLoop rateQ32 rooms ctx else ctx

/-- `stream_in_write_converted` -/
def streamInWriteConverted (pass : DrainTurn) : StreamDrain :=
  if ctx.srcPrimed then ctx.convertLoop cfg pass.rateQ32 pass.room
  else if h : srcHalf + cfg.unit ≤ ctx.ring.readable then
    let start := (ctx.ring.tail - UInt32.ofNat srcHalf).toNat
    let input := fun i : Fin avbSrcTaps => ringFrame ctx.ring (start + i * streamFrameBytes)
    let ctx :=
      { ctx.setRing (ctx.ring.advance srcHalf (by omega)) with
        src := avbSrcPrime ctx.src input srcLayout.slots
        srcPrimed := true }
    ctx.convertLoop cfg pass.rateQ32 pass.room
  else ctx

/-! #### The ring as it is -/

/-- What the two writes take of `toRead` octets from the tail on, split where the ring wraps. -/
def dmaTakes (toRead : Nat) (room : List Nat) : Nat :=
  let first := min toRead (ctx.ring.capacity - ctx.ring.tail.toNat % ctx.ring.capacity)
  let w1 := min first (room.getD 0 0 * streamFrameBytes)
  if w1 = first then w1 + min (toRead - first) (room.getD 1 0 * streamFrameBytes) else w1

theorem dmaTakes_le (toRead : Nat) (room : List Nat) : ctx.dmaTakes toRead room ≤ toRead := by
  unfold dmaTakes
  dsimp only
  split_ifs <;> omega

/-- The whole DMA buffers of one pass. -/
def drainUnits : Nat :=
  let toRead := min ctx.ring.readable drainMaxBytes
  toRead - toRead % cfg.unit

def drainRead : Nat := ctx.streamInSlipCap cfg (ctx.drainUnits cfg)

theorem drainRead_le : ctx.drainRead cfg ≤ ctx.ring.readable :=
  (ctx.streamInSlipCap_le cfg _).trans ((Nat.sub_le _ _).trans (min_le_left _ _))

/-- The zero-copy write. -/
def drainRing (pass : DrainTurn) : StreamDrain :=
  let written := ctx.dmaTakes (ctx.drainRead cfg) pass.room
  { ctx.setRing (ctx.ring.advance written ((ctx.dmaTakes_le _ _).trans (ctx.drainRead_le cfg))) with
    dma := ctx.dma ++ ctx.ring.peek written }

/-! #### The whole pass -/

/-- A locked pass from the landing of a slip on. -/
def drainWrite (pass : DrainTurn) : StreamDrain :=
  let ctx := ctx.streamInSlipLand.streamInSlipFade
  if ctx.ring.readable < cfg.unit then ctx.streamInDrainEmpty pass.starved
  else if ctx.drainUnits cfg = 0 then ctx
  else if ctx.srcOut then
    let after := ctx.streamInWriteConverted cfg pass
    if after.dma.length = ctx.dma.length ∧ after.srcPending = [] then
      after.streamInDrainEmpty pass.starved
    else after
  else if ctx.drainRead cfg = 0 then ctx
  else (ctx.drainRing cfg pass).streamInSlipLand

/-- A locked pass. -/
def drainLockedPass (pass : DrainTurn) : StreamDrain :=
  if pass.regate = true ∧ ctx.rx.diagGateMode = 2 then
    { ctx with rx := { ctx.rx with drainLocked := false, gateArmed := false } }
  else
    let ctx := match pass.tick with
      | some tick => ctx.streamInPhaseTick cfg tick
      | none => ctx
    (ctx.slipAsked pass.rateSlip).drainWrite cfg pass

/-- The audio that a presentation lock skips, whole frames of what is buffered. -/
def lateBytes (ptMode : Bool) (errNs : Nat) : Nat :=
  let late := if ptMode then min (errNs * ctx.bytesPerSec / 1000000000 % 2 ^ 32) ctx.ring.readable else 0
  late - late % streamFrameBytes

theorem lateBytes_le (ptMode : Bool) (errNs : Nat) :
    ctx.lateBytes ptMode errNs ≤ ctx.ring.readable := by
  unfold lateBytes
  dsimp only
  split_ifs <;> omega

/-- Playout starts. -/
def drainStart (ptMode : Bool) (errNs : Nat) : StreamDrain :=
  let ring := ctx.ring.advance (ctx.lateBytes ptMode errNs) (ctx.lateBytes_le ptMode errNs)
  let rx := { ctx.rx with ring, drainLocked := true, diagGateMode := if ptMode then 1 else 2 }
  { ctx with rx }.streamInPhaseLock

/-- `stream_in_drain_body` -/
def streamInDrainBody (pass : DrainTurn) : StreamDrain :=
  if ctx.rx.drainLocked then ctx.drainLockedPass cfg pass
  else
    match pass.gate with
    | .hold => ctx
    | .reject => { ctx with rx := { ctx.rx with gateArmed := false } }
    | .flush => ctx.setRing ctx.ring.flush
    | .start ptMode errNs =>
        if ctx.ring.readable = 0 then ctx
        else (ctx.drainStart ptMode errNs).drainLockedPass cfg pass

end StreamDrain

/-! ### Runs -/

inductive PlayEvent where
  | packet (frame : RxFrame) (clock : RxClock)
  | pass (pass : DrainTurn)

def playStep (p : ConcealParams) (cfg : DrainConfig) (ctx : StreamDrain) : PlayEvent → StreamDrain
  | .packet frame clock => { ctx with rx := (avbStreamRxHandler p ctx.rx frame clock).value }
  | .pass pass => ctx.streamInDrainBody cfg pass

/-- The context of a stream that starts: an empty ring, nothing locked. -/
def startStreamIn (rx : StreamRxCtx) (srcOut : Bool) : StreamDrain :=
  { rx := { rx with
      ring := { rx.ring with head := 0, tail := 0, fill_le := Nat.zero_le _ }
      drainLocked := false }
    trimWindowStartUs := 0, trimMinAheadUs := 0
    slipDir := 0, slipFrames := 0, slipDone := 0, slipPos := 0, slipPrev := fun _ => 0
    phaseLockPos := 0, phaseTrimmed := 0, phaseSlipped := 0
    srcOut, src := avbSrcInit, srcPrimed := false, srcPending := [], srcTrimBytes := 0
    dma := [], produced := 0 }

end EspAvb
