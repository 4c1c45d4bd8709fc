import EspAvb.Proof.AudioFrame

/-!
# Audio from talker to listener

While packets arrive in order, in time and with room in the ring, what the listener's codec is handed is
the talker's audio: each frame of each packet once and in order, in either wire format.
-/

namespace EspAvb

open Traced RingCells Rows Machine

/-! ### The queue -/

/-- What is found behind the head has been queued. -/
theorem RingAppended.queue_eq {r r' : JitterRing} {items : List UInt8}
    (h : RingAppended r r' items.length)
    (hitems : HoldsAt r.capacity r'.buf r.head.toNat items) : r'.queue = r.queue ++ items := by
  rw [← h.queue]
  congr 1
  apply List.ext_getElem?
  intro i
  rw [List.getElem?_drop, JitterRing.queue, JitterRing.getElem?_peek, h.readable]
  by_cases hi : i < items.length
  · have hcell : (r'.tail.toNat + (r.readable + i)) % r'.capacity
        = (r.head.toNat + i) % r.capacity := by
      rw [h.tail, h.capacity, r.head_mod, Nat.add_assoc]
    rw [if_pos (by omega), List.getElem?_eq_getElem hi, ← hitems i hi, hcell]
  · rw [if_neg (by omega), List.getElem?_eq_none (by omega)]

/-! ### A packet that is taken -/

section

variable {ctx : StreamRxCtx} {frame : RxFrame} {clock : RxClock}

/-- What the checks of a packet read of the listener. -/
def StreamRxCtx.link (ctx : StreamRxCtx) :
    List UInt8 × (Bool × UInt8 × UInt8) × Bool × UInt8 :=
  (ctx.expectedStreamId, (ctx.rateCheckPending, ctx.expectedSubtype, ctx.expectedRateCode),
    ctx.seqNumValid, ctx.lastSeqNum)

theorem link_rxDiagCapture (layout : PcmLayout) :
    (rxDiagCapture ctx frame layout).value.link = ctx.link := by
  unfold rxDiagCapture
  split <;> rfl

theorem link_rxStandingDepth (lost : Nat) : (rxStandingDepth ctx lost).link = ctx.link := by
  unfold rxStandingDepth
  split
  · rfl
  · split
    · rfl
    · split <;> rfl

theorem link_rxWrite (subtype : UInt8) (layout : PcmLayout) :
    (rxWrite ctx frame clock subtype layout).value.link = ctx.link := by
  have hmark : ∀ (ctx : StreamRxCtx) pos, (rxMark ctx frame pos).value.link = ctx.link := by
    intro ctx pos
    unfold rxMark
    rw [value_bind]
    split <;> rfl
  have hanchor : ∀ (ctx : StreamRxCtx) preFill,
      (rxAnchor ctx frame clock preFill).value.link = ctx.link := by
    intro ctx preFill
    unfold rxAnchor
    split
    · rw [value_bind]
      split <;> rfl
    · rfl
  unfold rxWrite
  split
  · simp only [value_bind, hanchor, hmark]
    rfl
  · rfl

theorem link_rxStash : (rxStash ctx frame clock).value.link = ctx.link := by
  unfold rxStash
  split <;> rfl

theorem rxPauseUs_rxDiagCapture (layout : PcmLayout) (lost : Nat) :
    rxPauseUs (rxDiagCapture ctx frame layout).value clock lost = rxPauseUs ctx clock lost := by
  unfold rxDiagCapture
  split <;> rfl

/-- Without a loss or a pause nothing is inserted. -/
theorem rxFillBytes_quiet (hpause : rxPauseUs ctx clock 0 ≤ 10000) (total : Nat) :
    (rxFillBytes ctx frame clock total 0).value = 0 := by
  unfold rxFillBytes
  split
  · rw [value_bind, if_neg (by omega)]
    rfl
  · rfl

theorem streamConcealAfterWrite_unowed {c : ConcealState} (h : c.owed = 0) (cap frames pos : Nat)
    (buf : Nat → UInt8) : streamConcealAfterWrite cap frames pos c buf = (c, buf) := by
  cases frames with
  | zero => rfl
  | succ frames =>
      refine if_neg fun ⟨hcrossfade, hperiod⟩ => ?_
      rw [ConcealState.owed, if_neg hperiod] at h
      omega

/-- A packet in its turn, with room for it: its slots are queued, and nothing else is. -/
structure Taken (ctx after : StreamRxCtx) (frame : RxFrame) (subtype : UInt8) (layout : PcmLayout) :
    Prop where
  conceal : after.conceal = ctx.conceal
  inputMap : after.inputMap = ctx.inputMap
  appended : RingAppended ctx.ring after.ring layout.total
  slots : ∀ s < layout.samples, ∀ ch < 2,
    HoldsAt ctx.ring.capacity after.ring.buf (ctx.ring.head.toNat + s * 8 + ch * 4)
      (wireSlot ctx.inputMap frame subtype layout s ch)

theorem rxStore_taken {subtype : UInt8} {layout : PcmLayout} (hsound : layout.Sound frame)
    (hfit : layout.total ≤ ctx.ring.writable) (howed : ctx.conceal.owed = 0) :
    Taken ctx (rxStore ctx frame subtype layout hfit).value frame subtype layout := by
  obtain ⟨happended, hslots⟩ := rxStore_spec subtype hsound hfit
  refine ⟨?_, rfl, happended, fun s hs ch hch => ?_⟩
  · exact congrArg Prod.fst (streamConcealAfterWrite_unowed howed _ _ _ _)
  · obtain ⟨slot, hwritten, hheld⟩ := hslots s hs ch hch
    rw [SlotWritten, if_neg (by omega)] at hwritten
    exact hwritten ▸ hheld

theorem Taken.congr {ctx' after after' : StreamRxCtx} {subtype : UInt8} {layout : PcmLayout}
    (h : Taken ctx after frame subtype layout) (hbefore : ctx.audio = ctx'.audio)
    (hafter : after'.audio = after.audio) : Taken ctx' after' frame subtype layout := by
  have hring := StreamRxCtx.ring_of_audio hbefore
  have hmap := StreamRxCtx.inputMap_of_audio hbefore
  have hring' := StreamRxCtx.ring_of_audio hafter
  exact
    { conceal := (StreamRxCtx.conceal_of_audio hafter).trans
        (h.conceal.trans (StreamRxCtx.conceal_of_audio hbefore))
      inputMap := (StreamRxCtx.inputMap_of_audio hafter).trans (h.inputMap.trans hmap)
      appended := by
        rw [← hring, hring']
        exact h.appended
      slots := by
        rw [← hring, ← hmap, hring']
        exact h.slots }

theorem rxAudio_taken (p : ConcealParams) {subtype : UInt8} {layout : PcmLayout}
    (hsound : layout.Sound frame) (hpause : rxPauseUs ctx clock 0 ≤ 10000)
    (hfit : layout.total ≤ ctx.ring.writable) (howed : ctx.conceal.owed = 0) :
    (rxAudio p ctx frame clock subtype layout 0).value.link = ctx.link ∧
      Taken ctx (rxAudio p ctx frame clock subtype layout 0).value frame subtype layout := by
  have haudio := audio_rxDiagCapture ctx frame layout
  have hlink := @link_rxDiagCapture ctx frame layout
  have hquiet := @rxFillBytes_quiet _ frame _
    ((@rxPauseUs_rxDiagCapture ctx frame clock layout 0).trans_le hpause) layout.total
  generalize hcaptured : (rxDiagCapture ctx frame layout).value = captured at haudio hlink hquiet
  have hnone : rxConceal p captured layout.total 0 = captured := dif_neg (by omega)
  have hready : (rxStandingDepth captured 0).audio = ctx.audio :=
    (audio_rxStandingDepth captured 0).trans haudio
  have hreadyLink : (rxStandingDepth captured 0).link = ctx.link :=
    (link_rxStandingDepth 0).trans hlink
  have hout : (rxAudio p ctx frame clock subtype layout 0).value
      = (rxStash (rxWrite (rxStandingDepth captured 0) frame clock subtype layout).value frame
        clock).value := by
    simp only [rxAudio, value_bind, hcaptured, hquiet, hnone]
  generalize rxStandingDepth captured 0 = ready at hready hreadyLink hout
  have hfit' : layout.total ≤ ready.ring.writable := by
    rw [StreamRxCtx.ring_of_audio hready]
    exact hfit
  have howed' : ready.conceal.owed = 0 := by
    rw [StreamRxCtx.conceal_of_audio hready]
    exact howed
  rw [hout]
  refine ⟨link_rxStash.trans ((link_rxWrite subtype layout).trans hreadyLink), ?_⟩
  apply (@rxStore_taken ready frame subtype layout hsound hfit' howed').congr hready
  rw [audio_rxStash, rxWrite, dif_pos hfit']
  simp only [value_bind, audio_rxAnchor, audio_rxMark]

theorem rxSequence_next {seqNum : UInt8}
    (h : ctx.seqNumValid = true → ctx.lastSeqNum + 1 = seqNum) :
    rxSequence ctx seqNum = some ({ ctx with lastSeqNum := seqNum, seqNumValid := true }, 0) := by
  have hlost : (if ctx.seqNumValid = true ∧ seqNum ≠ ctx.lastSeqNum + 1 then
      (seqNum - (ctx.lastSeqNum + 1)).toNat else 0) = 0 := if_neg fun ⟨hvalid, hne⟩ =>
    hne (h hvalid).symm
  unfold rxSequence
  dsimp only
  rw [hlost]
  rfl

theorem rxRateCheck_meets {subtype rateCode : UInt8}
    (hrate : (rxRateCode frame subtype).value = rateCode)
    (h : ctx.rateCheckPending = true →
      ctx.expectedSubtype = subtype ∧ ctx.expectedRateCode = rateCode) :
    (rxRateCheck ctx frame subtype).value = some { ctx with rateCheckPending := false } := by
  unfold rxRateCheck
  split
  · rename_i hpending
    obtain ⟨hsubtype, hcode⟩ := h hpending
    rw [value_bind, hrate, if_neg (by rw [hsubtype, hcode]; simp)]
    rfl
  · rename_i hdone
    have hfalse : ctx.rateCheckPending = false := Bool.eq_false_of_not_eq_true hdone
    have hsame : { ctx with rateCheckPending := false } = ctx := by rw [← hfalse]
    rw [value_pure, hsame]

/-- A packet that passes every check. -/
theorem avbStreamRxHandler_passed {p : ConcealParams} {sequenced checked : StreamRxCtx}
    {layout : PcmLayout} {lost : Nat} (hlen : 24 ≤ frame.len)
    (hid : (octets frame.octet 4 8).value = ctx.expectedStreamId)
    (hsequence : rxSequence ctx (frame.octet 2) = some (sequenced, lost))
    (hcheck : (rxRateCheck sequenced frame frame.subtype).value = some checked)
    (hparse : (rxParse frame frame.subtype).value = some layout) (hsamples : layout.samples ≠ 0) :
    (avbStreamRxHandler p ctx frame clock).value
      = (rxAudio p checked frame clock frame.subtype layout lost).value := by
  have hsubtype : frame.octet 0 &&& 0x7f = frame.subtype := rfl
  rw [avbStreamRxHandler, if_neg (Nat.not_lt.mpr hlen), value_bind, if_neg (fun hne => hne hid),
    value_bind, value_octet, hsequence]
  simp only [value_bind, value_octet, hsubtype, hcheck, hparse]
  rw [if_neg hsamples]

end

/-! ### The listener of a stream -/

/-- The listener is set up for the stream, waits for packet `seqNum`, and owes no crossfade. -/
structure Awaits (cfg : LinkConfig) (seqNum : UInt8) (rx : StreamRxCtx) : Prop where
  streamId : rx.expectedStreamId = cfg.am824.streamId
  seq : rx.seqNumValid = true → rx.lastSeqNum + 1 = seqNum
  format : rx.rateCheckPending = true →
    rx.expectedSubtype = cfg.subtype ∧ rx.expectedRateCode = cfg.rateCode
  owed : rx.conceal.owed = 0

variable {cfg : LinkConfig} {rx : StreamRxCtx} {frame : RxFrame} {seqNum : UInt8}
  {frames : List SrcFrame}

/-- A packet of the stream goes into the ring as the frames it carries. -/
theorem Carries.received (h : Carries cfg frame seqNum frames) (hawaits : Awaits cfg seqNum rx)
    (hsome : 0 < frames.length) (p : ConcealParams) {clock : RxClock}
    (hpause : rxPauseUs rx clock 0 ≤ 10000) (hroom : frames.length * 8 ≤ rx.ring.writable) :
    let after := (avbStreamRxHandler p rx frame clock).value
    Awaits cfg (seqNum + 1) after ∧ after.inputMap = rx.inputMap ∧
      after.ring.queue = rx.ring.queue ++ heard rx.inputMap frames := by
  intro after
  obtain ⟨layout, hparse, hsamples, hslots⟩ := h.audio
  set started : StreamRxCtx :=
    { rx with lastSeqNum := seqNum, seqNumValid := true, rateCheckPending := false }
  have hsequence := rxSequence_next hawaits.seq
  have hcheck : (rxRateCheck { rx with lastSeqNum := seqNum, seqNumValid := true } frame
      cfg.subtype).value = some started := rxRateCheck_meets h.rate hawaits.format
  rw [← h.seq] at hsequence
  rw [← h.subtype] at hparse
  have hafter : after = (rxAudio p started frame clock frame.subtype layout 0).value :=
    avbStreamRxHandler_passed h.len (h.streamId.trans hawaits.streamId.symm) hsequence
      (by rw [h.seq, h.subtype]; exact hcheck) hparse (by omega)
  have htotal : layout.total = frames.length * 8 := by rw [PcmLayout.total, hsamples]
  obtain ⟨hlink, htaken⟩ := @rxAudio_taken started frame clock p frame.subtype layout
    (rxParse_sound hparse) hpause (htotal.trans_le hroom) hawaits.owed
  rw [← hafter] at hlink htaken
  simp only [StreamRxCtx.link, Prod.mk.injEq] at hlink
  obtain ⟨hid, ⟨hpending, hexpected, hcode⟩, hvalid, hlast⟩ := hlink
  refine ⟨⟨hid.trans hawaits.streamId, fun _ => by rw [hlast], fun hdue => ?_, ?_⟩,
    htaken.inputMap, ?_⟩
  · rw [hpending] at hdue
    cases hdue
  · rw [htaken.conceal]
    exact hawaits.owed
  · have hrows : ∀ row ∈ frames.map (heardFrame rx.inputMap), row.length = 8 := by
      intro row hrow
      obtain ⟨f, -, rfl⟩ := List.mem_map.mp hrow
      exact length_heardFrame rx.inputMap f
    have hlength : (heard rx.inputMap frames).length = layout.total := by
      rw [heard, length_flatten hrows, List.length_map, htotal]
    apply RingAppended.queue_eq
    · rw [hlength]
      exact htaken.appended
    · apply holdsAt_flatten hrows
      intro s hs
      rw [List.length_map] at hs
      rw [List.getElem_map, heardFrame, ← hslots _ s hs 0, ← hslots _ s hs 1, ← h.subtype]
      apply holdsAt_append
      · exact htaken.slots s (hsamples.symm ▸ hs) 0 Nat.two_pos
      · rw [length_wireSlot]
        exact htaken.slots s (hsamples.symm ▸ hs) 1 Nat.one_lt_two

/-! ### The playout -/

namespace StreamDrain

variable {ctx : StreamDrain}

/-- A steady pass takes from the ring and leaves the rest of the listener as it is. -/
theorem rx_of_pass (h : Steady ctx) {drain : DrainConfig} {turn : DrainTurn}
    (hturn : SteadyPass drain turn) :
    ∃ r, (ctx.streamInDrainBody drain turn).rx = { ctx.rx with ring := r } := by
  have hempty : ctx.streamInDrainEmpty turn.starved = ctx :=
    if_neg fun hon => Bool.false_ne_true (hturn.starved.symm.trans hon)
  have hfade : ctx.streamInSlipFade = ctx := if_pos h.slipless
  rw [streamInDrainBody_steady h hturn]
  unfold drainWrite
  rw [slipLand_steady h, hfade]
  dsimp only
  rw [hempty]
  split
  · exact ⟨ctx.rx.ring, rfl⟩
  split
  · exact ⟨ctx.rx.ring, rfl⟩
  split
  · rename_i hout
    exact absurd (h.direct.symm.trans hout) Bool.false_ne_true
  split
  · exact ⟨ctx.rx.ring, rfl⟩
  · have hdrained : Steady (ctx.drainRing drain turn) := ⟨h.locked, h.direct, h.slipless⟩
    rw [slipLand_steady hdrained]
    exact ⟨_, rfl⟩

end StreamDrain

theorem Awaits.ring (h : Awaits cfg seqNum rx) (r : JitterRing) :
    Awaits cfg seqNum { rx with ring := r } :=
  { streamId := h.streamId, seq := h.seq, format := h.format, owed := h.owed }

/-! ### The link -/

namespace AudioLink

/-- The packets on the wire, from number `first` up to but not `next`, and the audio they carry. -/
inductive OnWire (cfg : LinkConfig) (next : UInt8) :
    UInt8 → List RxFrame → List (List SrcFrame) → Prop where
  | nil : OnWire cfg next next [] []
  | cons {first : UInt8} {frame : RxFrame} {frames : List SrcFrame} {wire : List RxFrame}
      {rest : List (List SrcFrame)} (hcarries : Carries cfg frame first frames)
      (hsome : 0 < frames.length) (hrest : OnWire cfg next (first + 1) wire rest) :
      OnWire cfg next first (frame :: wire) (frames :: rest)

theorem OnWire.concat {next first : UInt8} {wire : List RxFrame} {pending : List (List SrcFrame)}
    (h : OnWire cfg next first wire pending) (hcarries : Carries cfg frame next frames)
    (hsome : 0 < frames.length) :
    OnWire cfg (next + 1) first (wire ++ [frame]) (pending ++ [frames]) := by
  induction h with
  | nil => exact .cons hcarries hsome .nil
  | cons hfirst hlong _ ih => exact .cons hfirst hlong ih

theorem OnWire.length_eq {next first : UInt8} {wire : List RxFrame}
    {pending : List (List SrcFrame)} (h : OnWire cfg next first wire pending) :
    pending.length = wire.length := by
  induction h with
  | nil => rfl
  | cons _ _ _ ih => exact congrArg (· + 1) ih

/-- The audio of the packets sent in a run, each as its frames. -/
def packets (cfg : LinkConfig) : AudioLink → List MediaEvent → List (List SrcFrame)
  | _, [] => []
  | s, .packet input stamp :: events =>
      s.audio.payload cfg.media input :: packets cfg (s.step cfg (.packet input stamp)) events
  | s, .deliver clock :: events => packets cfg (s.step cfg (.deliver clock)) events
  | s, .pass turn :: events => packets cfg (s.step cfg (.pass turn)) events

/-- What the ring needs for the next packet on the wire. -/
def nextTotal (s : AudioLink) : Nat :=
  match s.wire with
  | [] => 0
  | frame :: _ => ((rxParse frame frame.subtype).value.map PcmLayout.total).getD 0

/-- A packet has the octets of its frames and fits; one that arrives finds room and no pause behind it;
the drain neither trims nor slips. -/
def Smooth (cfg : LinkConfig) (s : AudioLink) : MediaEvent → Prop
  | .packet input _ =>
      (cfg.media.resample = false → input.octets.length = input.spp * i2sFrameBytes) ∧
        FitsPacket cfg input.spp
  | .deliver clock =>
      rxPauseUs s.playout.rx clock 0 ≤ 10000 ∧ s.nextTotal ≤ s.playout.ring.writable
  | .pass turn => SteadyPass cfg.drain turn

/-- Between two steps: the listener waits for the first packet on the wire and plays steadily. -/
structure Linked (cfg : LinkConfig) (s : AudioLink) (pending : List (List SrcFrame)) : Prop where
  steady : Steady s.playout
  wire : ∃ first, Awaits cfg first s.playout.rx ∧ OnWire cfg s.seqNum first s.wire pending

theorem Linked.packet {s : AudioLink} {pending : List (List SrcFrame)} (h : Linked cfg s pending)
    (hcfg : cfg.Wired) {input : TalkerInput} (stamp : PacketStamp)
    (hsmooth : Smooth cfg s (.packet input stamp)) :
    Linked cfg (s.step cfg (.packet input stamp))
      (pending ++ [s.audio.payload cfg.media input]) := by
  obtain ⟨first, hawaits, hwire⟩ := h.wire
  obtain ⟨hlength, hrows⟩ :=
    TalkerAudio.length_payload cfg.media hcfg.channels hcfg.lut s.audio hsmooth.1
  have hfit : FitsPacket cfg (s.audio.payload cfg.media input).length := by
    rw [hlength]
    exact hsmooth.2
  have hcarries := frameOf_carries hcfg s stamp hrows hfit
  rw [← TalkerAudio.fill_octets cfg.media hcfg.channels, hlength] at hcarries
  exact
    { steady := h.steady
      wire := ⟨first, hawaits, hwire.concat hcarries hfit.1⟩ }

theorem Linked.deliver {s : AudioLink} {frames : List SrcFrame} {pending : List (List SrcFrame)}
    (h : Linked cfg s (frames :: pending)) {clock : RxClock}
    (hsmooth : Smooth cfg s (.deliver clock)) :
    let s' := s.step cfg (.deliver clock)
    Linked cfg s' pending ∧ s'.playout.rx.inputMap = s.playout.rx.inputMap ∧
      s'.playout.dma ++ s'.playout.ring.queue
        = s.playout.dma ++ s.playout.ring.queue ++ heard s.playout.rx.inputMap frames := by
  obtain ⟨first, hawaits, hwire⟩ := h.wire
  obtain ⟨hpause, hroom⟩ := hsmooth
  intro s'
  cases hqueued : s.wire with
  | nil =>
      rw [hqueued] at hwire
      cases hwire
  | cons frame wire =>
      rw [hqueued] at hwire
      cases hwire with
      | cons hcarries hsome hrest =>
          obtain ⟨layout, hparse, hsamples, -⟩ := hcarries.audio
          rw [← hcarries.subtype] at hparse
          have hneeds : s.nextTotal = frames.length * 8 := by
            rw [nextTotal, hqueued]
            dsimp only
            rw [hparse, Option.map_some, Option.getD_some, PcmLayout.total, hsamples]
          obtain ⟨hnext, hmap, hheard⟩ := hcarries.received hawaits hsome cfg.conceal hpause
            (hneeds ▸ hroom)
          have hlocked := (avbStreamRxHandler_appends cfg.conceal s.playout.rx frame clock).1
          have hstep : s' = { s with
              wire
              playout := playStep cfg.conceal cfg.drain s.playout (.packet frame clock) } := by
            simp only [s', step, hqueued]
          rw [hstep]
          refine ⟨⟨⟨hlocked.trans h.steady.locked, h.steady.direct, h.steady.slipless⟩, first + 1,
            hnext, hrest⟩, hmap, ?_⟩
          rw [List.append_assoc]
          exact congrArg (s.playout.dma ++ ·) hheard

theorem Linked.pass {s : AudioLink} {pending : List (List SrcFrame)} (h : Linked cfg s pending)
    {turn : DrainTurn} (hsmooth : Smooth cfg s (.pass turn)) :
    let s' := s.step cfg (.pass turn)
    Linked cfg s' pending ∧ s'.playout.rx.inputMap = s.playout.rx.inputMap ∧
      s'.playout.dma ++ s'.playout.ring.queue = s.playout.dma ++ s.playout.ring.queue := by
  obtain ⟨first, hawaits, hwire⟩ := h.wire
  obtain ⟨hsteady, hhanded⟩ := pass_steady h.steady hsmooth
  obtain ⟨r, hrx⟩ := StreamDrain.rx_of_pass h.steady hsmooth
  intro s'
  have hkept : s'.playout.rx = { s.playout.rx with ring := r } := hrx
  refine ⟨⟨hsteady, first, ?_, hwire⟩, ?_, hhanded⟩
  · rw [hkept]
    exact hawaits.ring r
  · rw [hkept]

/-- What is still on the wire is the end of what was sent; the rest is in the ring or with the DMA. -/
theorem Linked.run {s : AudioLink} {pending : List (List SrcFrame)} (h : Linked cfg s pending)
    (hcfg : cfg.Wired) {events : List MediaEvent} (hsmooth : RunMeets (Smooth cfg) (step cfg) s events) :
    let s' := Machine.run (step cfg) s events
    ∃ done rest, pending ++ packets cfg s events = done ++ rest ∧ rest.length = s'.wire.length ∧
      s'.playout.dma ++ s'.playout.ring.queue
        = s.playout.dma ++ s.playout.ring.queue ++ heard s.playout.rx.inputMap done.flatten := by
  induction events generalizing s pending with
  | nil =>
      obtain ⟨first, -, hwire⟩ := h.wire
      exact ⟨[], pending, List.append_nil _, hwire.length_eq, (List.append_nil _).symm⟩
  | cons event events ih =>
      obtain ⟨hevent, hrest⟩ := hsmooth
      cases event with
      | packet input stamp =>
          obtain ⟨done, rest, hsplit, hwire, hheard⟩ := ih (h.packet hcfg stamp hevent) hrest
          rw [List.append_assoc] at hsplit
          exact ⟨done, rest, hsplit, hwire, hheard⟩
      | deliver clock =>
          cases pending with
          | nil =>
              obtain ⟨first, hawaits, hwire⟩ := h.wire
              have hempty : s.wire = [] := List.eq_nil_of_length_eq_zero hwire.length_eq.symm
              have hsame : s.step cfg (.deliver clock) = s := by
                simp only [step, hempty]
              rw [hsame] at hrest
              have hkept := ih h hrest
              simpa only [packets, run_cons, hsame] using hkept
          | cons frames pending =>
              obtain ⟨hlinked, hmap, harrived⟩ := h.deliver hevent
              obtain ⟨done, rest, hsplit, hwire, hheard⟩ := ih hlinked hrest
              refine ⟨frames :: done, rest, congrArg (frames :: ·) hsplit, hwire, ?_⟩
              rw [run_cons, hheard, harrived, hmap, List.flatten_cons, heard_append]
              simp only [List.append_assoc]
      | pass turn =>
          obtain ⟨hlinked, hmap, hhanded⟩ := h.pass hevent
          obtain ⟨done, rest, hsplit, hwire, hheard⟩ := ih hlinked hrest
          refine ⟨done, rest, hsplit, hwire, ?_⟩
          rw [run_cons, hheard, hhanded, hmap]

end AudioLink

end EspAvb
