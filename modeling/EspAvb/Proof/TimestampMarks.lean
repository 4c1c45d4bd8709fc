import EspAvb.Am824Stream
import EspAvb.Proof.StreamRx

/-!
# What an AM824 timestamp marks

The talker stamps the frame at the SYT_INTERVAL boundary of a packet, wherever in the packet that
falls. The listener takes the stamp for the first frame that it stores.
-/

namespace EspAvb

open Traced RingCells

/-! ### The two sides of a stamp -/

theorem value_stamp (ts : UInt32) :
    Octets.value [(ts >>> 24).toUInt8, (ts >>> 16).toUInt8, (ts >>> 8).toUInt8, ts.toUInt8]
      = ts.toNat := by
  have hts : ts.toNat < 2 ^ 32 := ts.toNat_lt
  simp only [Octets.value, List.foldl_cons, List.foldl_nil, UInt32.toNat_toUInt8, UInt32.toNat_shiftRight,
    UInt32.reduceToNat, Nat.shiftRight_eq_div_pow, Nat.reduceMod, Nat.reducePow]
  omega

variable (params : Am824Params) (st : Am824Talker) (pkt : Am824Packet)

/-- The header octet by octet, with the stream ID in the place of its eight octets. -/
theorem am824Frame_head {i : Nat} (hi : i < 4) :
    (am824Frame params st pkt).octet i
      = [0x00, 0x80 ||| (if pkt.mr then 0x08 else 0)
            ||| (if (am824Stamp params st.dbc pkt).1 then 0x01 else 0), st.seqNum,
          if pkt.tu then 0x01 else 0x00].getD i 0 := by
  simp only [am824Frame, if_pos (show i < 32 by omega), am824Header, List.append_assoc]
  rw [List.getD_append _ _ _ _ (by simpa using hi)]

theorem am824Frame_stamp {i : Nat} (hi : i < 4) :
    (am824Frame params st pkt).octet (12 + i)
      = [((am824Stamp params st.dbc pkt).2 >>> 24).toUInt8,
          ((am824Stamp params st.dbc pkt).2 >>> 16).toUInt8,
          ((am824Stamp params st.dbc pkt).2 >>> 8).toUInt8,
          (am824Stamp params st.dbc pkt).2.toUInt8].getD i 0 := by
  simp only [am824Frame, if_pos (show 12 + i < 32 by omega), am824Header, List.append_assoc]
  rw [List.getD_append_right _ _ _ _ (by
    simp only [List.length_cons, List.length_nil]
    omega), List.getD_append_right _ _ _ _ (by
    simp only [List.length_cons, List.length_nil, params.streamId_length]
    omega), List.getD_append _ _ _ _ (by
    simp only [List.length_cons, List.length_nil, params.streamId_length]
    omega)]
  simp only [List.length_cons, List.length_nil, params.streamId_length]
  congr 1
  omega

theorem am824Frame_flags : (am824Frame params st pkt).octet 1 &&& 0x01 ≠ 0
    ↔ (am824Stamp params st.dbc pkt).1 = true := by
  rw [am824Frame_head params st pkt (by norm_num)]
  simp only [List.getD_cons_succ, List.getD_cons_zero]
  cases pkt.mr <;> cases (am824Stamp params st.dbc pkt).1 <;> decide

theorem am824Frame_tu : (am824Frame params st pkt).octet 3 &&& 0x01 ≠ 0 ↔ pkt.tu = true := by
  rw [am824Frame_head params st pkt (by norm_num)]
  simp only [List.getD_cons_succ, List.getD_cons_zero]
  cases pkt.tu <;> decide

theorem am824Frame_timestamp :
    UInt32.ofNat (Octets.value (octets (am824Frame params st pkt).octet 12 4).value)
      = (am824Stamp params st.dbc pkt).2 := by
  have hoctets : (octets (am824Frame params st pkt).octet 12 4).value
      = [((am824Stamp params st.dbc pkt).2 >>> 24).toUInt8,
          ((am824Stamp params st.dbc pkt).2 >>> 16).toUInt8,
          ((am824Stamp params st.dbc pkt).2 >>> 8).toUInt8,
          (am824Stamp params st.dbc pkt).2.toUInt8] := by
    have hrange : List.range 4 = [0, 1, 2, 3] := rfl
    simp only [octets, hrange, List.map_cons, List.map_nil]
    rw [am824Frame_stamp params st pkt (show 0 < 4 by norm_num),
      am824Frame_stamp params st pkt (show 1 < 4 by norm_num),
      am824Frame_stamp params st pkt (show 2 < 4 by norm_num),
      am824Frame_stamp params st pkt (show 3 < 4 by norm_num)]
    rfl
  rw [hoctets, value_stamp, UInt32.ofNat_toNat]

/-! ### The rates -/

theorem nsPerSample_range : 5000 ≤ params.nsPerSample ∧ params.nsPerSample ≤ 32000 := by
  obtain ⟨hlow, hhigh⟩ := cipSfcToSampleRate_range (params.cipSfc.toNat % 8)
  unfold Am824Params.nsPerSample Am824Params.sampleRate
  constructor
  · rw [Nat.le_div_iff_mul_le (by omega)]
    omega
  · rw [Nat.div_le_iff_le_mul_add_pred (by omega)]
    omega

theorem boundaryOffset_lt (dbc : UInt16) : boundaryOffset params dbc < 32 := by
  have hpos : 0 < params.sytInterval ∧ params.sytInterval ≤ 32 := by
    unfold Am824Params.sytInterval
    split
    · omega
    · split <;> omega
  have := Nat.mod_lt (params.sytInterval - dbc.toNat % params.sytInterval) hpos.1
  unfold boundaryOffset
  omega

/-! ### Records -/

/-- The marker that a step recorded, if any. -/
def recordedMarker (before after : StreamRxCtx) : Option PtMarker :=
  if after.ptMarkerCount = before.ptMarkerCount then none
  else some (after.ptMarkers (before.ptMarkerCount.toNat % streamPtMarkers))

/-- The gate anchor that a step armed, if any: it is about the drain's next octet, at the tail. -/
def armedAnchor (before after : StreamRxCtx) : Option PtMarker :=
  if before.gateArmed = false ∧ after.gateArmed = true then some ⟨after.ring.tail, after.gateAvtpTs⟩
  else none

/-- The presentation time of frame `i` of a packet, on the media timeline. -/
def frameTime (i : Nat) : UInt32 :=
  pkt.avtpMediaTs + params.presentationTimeOffsetNs
    + UInt32.ofNat (i * 1000000000 / params.sampleRate)

/-- `ns_per_sample` is rounded by at most half a nanosecond, and 31 frames lie before a boundary. -/
def timelineRoundingNs : Nat := 16

def NearTime (a b : UInt32) : Prop := (a - b).toInt32.toInt.natAbs ≤ timelineRoundingNs

instance (a b : UInt32) : Decidable (NearTime a b) := inferInstanceAs (Decidable (_ ≤ _))

/-- The position is that of a frame of the packet just stored, and the time is that frame's. -/
def MarksFrame (layout : PcmLayout) (after : StreamRxCtx) (m : PtMarker) : Prop :=
  ∃ i < layout.samples, m.pos + UInt32.ofNat (8 * (layout.samples - i)) = after.ring.head
    ∧ NearTime m.pt (frameTime params pkt i)

/-- Every marker recorded and every anchor armed in a step is of a packet with a valid timestamp, and
pairs a ring position with the time of the frame that is stored there. -/
def RecordsTrue (p : ConcealParams) (s : StreamLink) (e : LinkEvent) : Prop :=
  let after := (linkStep params p s e).listener
  ∀ m, m ∈ recordedMarker s.listener after ∨ m ∈ armedAnchor s.listener after →
    match e with
    | .delivered pkt _ => (am824Stamp params s.talker.dbc pkt).1 = true
        ∧ ∃ layout, (rxParse (am824Frame params s.talker pkt)
            (am824Frame params s.talker pkt).subtype).value = some layout
          ∧ MarksFrame params pkt layout after m
    | _ => False

/-- The context and the layout with which a frame reaches the ring write, if it does. -/
def rxReady (p : ConcealParams) (ctx : StreamRxCtx) (frame : RxFrame) (clock : RxClock) :
    Option (StreamRxCtx × PcmLayout) :=
  if frame.len < 24 ∨ (octets frame.octet 4 8).value ≠ ctx.expectedStreamId then none
  else
    (rxSequence ctx (frame.octet 2)).bind fun (ctx, lost) =>
      (rxRateCheck ctx frame frame.subtype).value.bind fun ctx =>
        (rxParse frame frame.subtype).value.bind fun layout =>
          if layout.samples = 0 then none
          else
            let ctx := (rxDiagCapture ctx frame layout).value
            let fillBytes := (rxFillBytes ctx frame clock layout.total lost).value
            some (rxStandingDepth (rxConceal p ctx layout.total fillBytes) lost, layout)

/-- A packet that is written to the ring starts at a SYT_INTERVAL boundary if it is stamped, and does
not find the ring empty and the gate unarmed if it is not, unless its time is uncertain anyway. -/
def StampTaken (dbc : UInt16) (gateArmed : Bool) : Option (StreamRxCtx × PcmLayout) → Prop
  | none => True
  | some (ready, layout) => layout.total ≤ ready.ring.writable →
      if (am824Stamp params dbc pkt).1 then boundaryOffset params dbc = 0
      else ready.ring.readable = 0 → gateArmed = false → pkt.tu = true

instance (dbc : UInt16) (gateArmed : Bool) (taken : Option (StreamRxCtx × PcmLayout)) :
    Decidable (StampTaken params pkt dbc gateArmed taken) :=
  match taken with
  | none => inferInstanceAs (Decidable True)
  | some (_, _) => inferInstanceAs (Decidable (_ → ite _ _ _))

def StampsFirstFrame (p : ConcealParams) (s : StreamLink) : LinkEvent → Prop
  | .delivered pkt clock => StampTaken params pkt s.talker.dbc s.listener.gateArmed
      (rxReady p s.listener (am824Frame params s.talker pkt) clock)
  | _ => True

instance (p : ConcealParams) (s : StreamLink) (e : LinkEvent) :
    Decidable (StampsFirstFrame params p s e) :=
  match e with
  | .delivered _ _ => inferInstanceAs (Decidable (StampTaken _ _ _ _ _))
  | .lost _ => inferInstanceAs (Decidable True)
  | .drain _ => inferInstanceAs (Decidable True)

/-! ### The handler around the ring write -/

/-- What the drain takes the presentation time from. -/
def StreamRxCtx.marks (ctx : StreamRxCtx) : (Nat → PtMarker) × UInt32 × Bool × UInt32 × UInt32 :=
  (ctx.ptMarkers, ctx.ptMarkerCount, ctx.gateArmed, ctx.gateAvtpTs, ctx.ring.tail)

theorem marks_rxSequence {ctx ctx' : StreamRxCtx} {seqNum : UInt8} {lost : Nat}
    (h : rxSequence ctx seqNum = some (ctx', lost)) : ctx'.marks = ctx.marks := by
  unfold rxSequence at h
  dsimp only at h
  split_ifs at h
  all_goals
    obtain ⟨rfl, -⟩ := Prod.mk.inj (Option.some.inj h)
    rfl

theorem marks_rxRateCheck {ctx ctx' : StreamRxCtx} {frame : RxFrame} {subtype : UInt8}
    (h : (rxRateCheck ctx frame subtype).value = some ctx') : ctx'.marks = ctx.marks := by
  unfold rxRateCheck at h
  split at h
  · rw [value_bind] at h
    split at h
    · cases h
    · cases h
      rfl
  · cases h
    rfl

theorem marks_rxDiagCapture (ctx : StreamRxCtx) (frame : RxFrame) (layout : PcmLayout) :
    (rxDiagCapture ctx frame layout).value.marks = ctx.marks := by
  unfold rxDiagCapture
  split <;> rfl

theorem marks_rxStandingDepth (ctx : StreamRxCtx) (lost : Nat) :
    (rxStandingDepth ctx lost).marks = ctx.marks := by
  unfold rxStandingDepth
  split
  · rfl
  · split
    · rfl
    · split <;> rfl

theorem marks_rxConceal (p : ConcealParams) (ctx : StreamRxCtx) (total fillBytes : Nat) :
    (rxConceal p ctx total fillBytes).marks = ctx.marks := by
  unfold rxConceal
  split <;> rfl

theorem marks_rxStash (ctx : StreamRxCtx) (frame : RxFrame) (clock : RxClock) :
    (rxStash ctx frame clock).value.marks = ctx.marks := by
  unfold rxStash
  split <;> rfl

theorem rxReady_spec {p : ConcealParams} {ctx ready : StreamRxCtx} {frame : RxFrame}
    {clock : RxClock} {layout : PcmLayout} (h : rxReady p ctx frame clock = some (ready, layout)) :
    ready.marks = ctx.marks ∧ 0 < layout.samples
      ∧ (rxParse frame frame.subtype).value = some layout
      ∧ (avbStreamRxHandler p ctx frame clock).value
        = (rxStash (rxWrite ready frame clock frame.subtype layout).value frame clock).value := by
  unfold rxReady at h
  split at h
  case isTrue => cases h
  case isFalse hfilter =>
    obtain ⟨hlen, hid⟩ := not_or.1 hfilter
    obtain ⟨⟨sequenced, lost⟩, hsequence, h⟩ := Option.bind_eq_some_iff.1 h
    obtain ⟨checked, hcheck, h⟩ := Option.bind_eq_some_iff.1 h
    obtain ⟨parsed, hparse, h⟩ := Option.bind_eq_some_iff.1 h
    dsimp only at h hcheck
    split at h
    case isTrue => cases h
    case isFalse hsamples =>
      obtain ⟨rfl, rfl⟩ := Prod.mk.inj (Option.some.inj h)
      refine ⟨?_, Nat.pos_of_ne_zero hsamples, hparse, ?_⟩
      · rw [marks_rxStandingDepth, marks_rxConceal, marks_rxDiagCapture, marks_rxRateCheck hcheck,
          marks_rxSequence hsequence]
      · rw [avbStreamRxHandler, if_neg hlen, value_bind, if_neg hid, value_bind, value_octet,
          hsequence]
        simp only [value_bind, value_octet]
        rw [RxFrame.subtype] at hcheck hparse
        rw [hcheck, value_bind, hparse]
        dsimp only
        rw [if_neg hsamples]
        rfl

theorem rxReady_none {p : ConcealParams} {ctx : StreamRxCtx} {frame : RxFrame} {clock : RxClock}
    (h : rxReady p ctx frame clock = none) :
    (avbStreamRxHandler p ctx frame clock).value.marks = ctx.marks := by
  unfold avbStreamRxHandler
  split
  case isTrue => rfl
  case isFalse hlen =>
    rw [value_bind]
    split
    case isTrue => rfl
    case isFalse hid =>
      rw [rxReady, if_neg (not_or.2 ⟨hlen, hid⟩)] at h
      rw [value_bind, value_octet]
      split
      case h_1 => rfl
      case h_2 sequenced lost hsequence =>
        rw [hsequence, Option.bind_some] at h
        dsimp only at h
        simp only [value_bind, value_octet]
        split
        case h_1 => exact marks_rxSequence hsequence
        case h_2 checked hcheck =>
          have hmarks := (marks_rxRateCheck hcheck).trans (marks_rxSequence hsequence)
          rw [RxFrame.subtype, hcheck, Option.bind_some] at h
          rw [value_bind]
          split
          case h_1 => exact hmarks
          case h_2 layout hparse =>
            rw [hparse, Option.bind_some] at h
            split
            case isTrue => exact hmarks
            case isFalse hsamples =>
              rw [if_neg hsamples] at h
              cases h

theorem marks_rxMark (ctx : StreamRxCtx) (frame : RxFrame) (pos : UInt32) :
    (rxMark ctx frame pos).value.marks
      = (if frame.octet 1 &&& 0x01 ≠ 0 then
          Function.update ctx.ptMarkers (ctx.ptMarkerCount.toNat % streamPtMarkers)
            ⟨pos, UInt32.ofNat (Octets.value (octets frame.octet 12 4).value)⟩ else ctx.ptMarkers,
        if frame.octet 1 &&& 0x01 ≠ 0 then ctx.ptMarkerCount + 1 else ctx.ptMarkerCount,
        ctx.gateArmed, ctx.gateAvtpTs, ctx.ring.tail) := by
  unfold rxMark
  rw [value_bind, value_octet]
  by_cases htv : frame.octet 1 &&& 0x01 ≠ 0
  · rw [if_pos htv, if_pos htv, if_pos htv]
    rfl
  · rw [if_neg htv, if_neg htv, if_neg htv]
    rfl

/-- The packet finds the ring empty and the gate unarmed, and its time is certain. -/
def ArmsGate (gateArmed : Bool) (frame : RxFrame) (preFill : Nat) : Prop :=
  preFill = 0 ∧ gateArmed = false ∧ ¬ frame.octet 3 &&& 0x01 ≠ 0

instance (gateArmed : Bool) (frame : RxFrame) (preFill : Nat) :
    Decidable (ArmsGate gateArmed frame preFill) := inferInstanceAs (Decidable (_ ∧ _ ∧ _))

theorem marks_rxAnchor (ctx : StreamRxCtx) (frame : RxFrame) (clock : RxClock) (preFill : Nat) :
    (rxAnchor ctx frame clock preFill).value.marks
      = (ctx.ptMarkers, ctx.ptMarkerCount,
        if ArmsGate ctx.gateArmed frame preFill then true else ctx.gateArmed,
        if ArmsGate ctx.gateArmed frame preFill then
          UInt32.ofNat (Octets.value (octets frame.octet 12 4).value) else ctx.gateAvtpTs,
        ctx.ring.tail) := by
  unfold rxAnchor
  by_cases hempty : preFill = 0 ∧ ctx.gateArmed = false
  · rw [if_pos hempty, value_bind, value_octet]
    by_cases htu : frame.octet 3 &&& 0x01 ≠ 0
    · have harms : ¬ ArmsGate ctx.gateArmed frame preFill := fun h => h.2.2 htu
      rw [if_pos htu, if_neg harms, if_neg harms]
      rfl
    · have harms : ArmsGate ctx.gateArmed frame preFill := ⟨hempty.1, hempty.2, htu⟩
      rw [if_neg htu, if_pos harms, if_pos harms]
      rfl
  · have harms : ¬ ArmsGate ctx.gateArmed frame preFill := fun h => hempty ⟨h.1, h.2.1⟩
    rw [if_neg hempty, if_neg harms, if_neg harms]
    rfl

/-- What a packet that fits records: one pair of the head and the timestamp, as a marker if the
timestamp is valid, as the anchor if it arms the gate. -/
theorem marks_rxWrite {ready : StreamRxCtx} {frame : RxFrame} (clock : RxClock) {subtype : UInt8}
    {layout : PcmLayout} (hfit : layout.total ≤ ready.ring.writable) :
    (rxWrite ready frame clock subtype layout).value.marks
      = (if frame.octet 1 &&& 0x01 ≠ 0 then
          Function.update ready.ptMarkers (ready.ptMarkerCount.toNat % streamPtMarkers)
            ⟨ready.ring.head, UInt32.ofNat (Octets.value (octets frame.octet 12 4).value)⟩
          else ready.ptMarkers,
        if frame.octet 1 &&& 0x01 ≠ 0 then ready.ptMarkerCount + 1 else ready.ptMarkerCount,
        if ArmsGate ready.gateArmed frame ready.ring.readable then true else ready.gateArmed,
        if ArmsGate ready.gateArmed frame ready.ring.readable then
          UInt32.ofNat (Octets.value (octets frame.octet 12 4).value) else ready.gateAvtpTs,
        ready.ring.tail) := by
  rw [rxWrite, dif_pos hfit]
  simp only [value_bind]
  have hmark := marks_rxMark (rxStore ready frame subtype layout hfit).value frame ready.ring.head
  simp only [StreamRxCtx.marks, Prod.mk.injEq] at hmark
  obtain ⟨hmarkers, hcount, harmed, hts, htail⟩ := hmark
  rw [marks_rxAnchor, hmarkers, hcount, harmed, hts, htail]
  rfl

theorem head_rxWrite {ready : StreamRxCtx} {frame : RxFrame} {clock : RxClock} {subtype : UInt8}
    {layout : PcmLayout} (hfit : layout.total ≤ ready.ring.writable) :
    (rxStash (rxWrite ready frame clock subtype layout).value frame clock).value.ring.head
      = ready.ring.head + UInt32.ofNat layout.total := by
  rw [StreamRxCtx.ring_of_audio (audio_rxStash _ _ _), ring_rxWrite hfit]
  rfl

/-! ### The stamp against the frame it is taken for -/

theorem toInt_toInt32_ofNat {n : Nat} (h : n < 2 ^ 31) : (UInt32.ofNat n).toInt32.toInt = n := by
  have htoNat : (UInt32.ofNat n).toBitVec.toNat = n := UInt32.toNat_ofNat_of_lt' (by
    have hsize : UInt32.size = 2 ^ 32 := rfl
    omega)
  change (UInt32.ofNat n).toBitVec.toInt = n
  rw [BitVec.toInt_eq_toNat_of_lt (by rw [htoNat]; omega), htoNat]

/-- The stamp is the time of the packet's first frame just when that frame is at the boundary. -/
theorem nearTime_stamp_iff {dbc : UInt16} (htv : (am824Stamp params dbc pkt).1 = true) :
    NearTime (am824Stamp params dbc pkt).2 (frameTime params pkt 0)
      ↔ boundaryOffset params dbc = 0 := by
  have hstamp : (am824Stamp params dbc pkt).2 = pkt.avtpMediaTs + params.presentationTimeOffsetNs
      + UInt32.ofNat (boundaryOffset params dbc * params.nsPerSample) := by
    unfold am824Stamp at htv ⊢
    dsimp only at htv ⊢
    split at htv
    · cases htv
    · rw [if_neg ‹_›]
  have hfirst : frameTime params pkt 0
      = pkt.avtpMediaTs + params.presentationTimeOffsetNs := by
    rw [frameTime, Nat.zero_mul, Nat.zero_div]
    exact UInt32.add_zero _
  obtain ⟨hlow, hhigh⟩ := nsPerSample_range params
  have hk := boundaryOffset_lt params dbc
  have hbound : boundaryOffset params dbc * params.nsPerSample ≤ 32 * 32000 :=
    Nat.mul_le_mul hk.le hhigh
  rw [NearTime, hstamp, hfirst, UInt32.add_comm _ (UInt32.ofNat _), UInt32.add_sub_cancel,
    toInt_toInt32_ofNat (by omega), Int.natAbs_natCast, timelineRoundingNs]
  constructor
  · intro hnear
    by_contra hne
    have hone : 1 * params.nsPerSample ≤ boundaryOffset params dbc * params.nsPerSample :=
      Nat.mul_le_mul_right _ (Nat.pos_of_ne_zero hne)
    omega
  · intro hzero
    rw [hzero, Nat.zero_mul]
    omega

/-- The position that is recorded is the first frame's and no other's. -/
theorem marksFrame_iff {layout : PcmLayout} {after : StreamRxCtx} {head : UInt32} (ts : UInt32)
    (hsamples : 0 < layout.samples) (hsmall : layout.total ≤ 2 ^ 31)
    (hhead : after.ring.head = head + UInt32.ofNat layout.total) :
    MarksFrame params pkt layout after ⟨head, ts⟩ ↔ NearTime ts (frameTime params pkt 0) := by
  have hsize : UInt32.size = 2 ^ 32 := rfl
  constructor
  · rintro ⟨i, hi, hpos, hnear⟩
    rw [hhead] at hpos
    have hoffset := congrArg UInt32.toNat ((UInt32.add_right_inj head).1 hpos)
    simp only [PcmLayout.total] at hsmall hoffset
    rw [UInt32.toNat_ofNat_of_lt' (by omega), UInt32.toNat_ofNat_of_lt' (by omega)] at hoffset
    obtain rfl : i = 0 := by omega
    exact hnear
  · intro hnear
    refine ⟨0, hsamples, ?_, hnear⟩
    rw [hhead, PcmLayout.total, Nat.sub_zero, Nat.mul_comm]

/-! ### One step -/

theorem not_recorded_of_marks {before after : StreamRxCtx} (h : after.marks = before.marks)
    (m : PtMarker) : ¬ (m ∈ recordedMarker before after ∨ m ∈ armedAnchor before after) := by
  simp only [StreamRxCtx.marks, Prod.mk.injEq] at h
  obtain ⟨-, hcount, harmed, -, -⟩ := h
  rintro (hm | hm)
  · rw [recordedMarker, if_pos hcount] at hm
    cases hm
  · rw [armedAnchor, harmed, if_neg (by rintro ⟨hfalse, htrue⟩; rw [hfalse] at htrue; cases htrue)]
      at hm
    cases hm

theorem JitterRing.tail_of_empty {r : JitterRing} (h : r.readable = 0) : r.tail = r.head := by
  have hzero : r.head - r.tail = 0 := UInt32.toNat_inj.1 h
  calc
    r.tail = r.tail + (r.head - r.tail) := by rw [hzero, UInt32.add_zero]
    _ = r.head := by rw [UInt32.add_comm, UInt32.sub_add_cancel]

/-- All that a packet records is the pair of the head and its timestamp. -/
theorem recorded_iff {before ready after : StreamRxCtx} {frame : RxFrame} {clock : RxClock}
    {subtype : UInt8} {layout : PcmLayout} (hfit : layout.total ≤ ready.ring.writable)
    (hready : ready.marks = before.marks)
    (hafter : after.marks = (rxWrite ready frame clock subtype layout).value.marks) (m : PtMarker) :
    m ∈ recordedMarker before after ∨ m ∈ armedAnchor before after
      ↔ m = ⟨ready.ring.head, UInt32.ofNat (Octets.value (octets frame.octet 12 4).value)⟩
        ∧ (frame.octet 1 &&& 0x01 ≠ 0 ∨ ArmsGate before.gateArmed frame ready.ring.readable) := by
  rw [marks_rxWrite clock hfit] at hafter
  simp only [StreamRxCtx.marks, Prod.mk.injEq] at hready hafter
  obtain ⟨-, hcount, harmed, -, -⟩ := hready
  obtain ⟨hmarkers', hcount', harmed', hts', htail'⟩ := hafter
  rw [hcount] at hmarkers' hcount'
  rw [harmed] at harmed' hts'
  have hmarker : m ∈ recordedMarker before after
      ↔ m = ⟨ready.ring.head, UInt32.ofNat (Octets.value (octets frame.octet 12 4).value)⟩
        ∧ frame.octet 1 &&& 0x01 ≠ 0 := by
    by_cases htv : frame.octet 1 &&& 0x01 ≠ 0
    · rw [if_pos htv] at hcount' hmarkers'
      have hmoved : after.ptMarkerCount ≠ before.ptMarkerCount := by
        rw [hcount']
        intro heq
        exact absurd (UInt32.add_eq_left.1 heq) (by decide)
      rw [recordedMarker, if_neg hmoved, hmarkers', Function.update_self, Option.mem_some_iff]
      exact ⟨fun h => ⟨h.symm, htv⟩, fun h => h.1.symm⟩
    · rw [if_neg htv] at hcount'
      rw [recordedMarker, if_pos hcount']
      exact ⟨(fun h => nomatch h), fun h => absurd h.2 htv⟩
  have hanchor : m ∈ armedAnchor before after
      ↔ m = ⟨ready.ring.head, UInt32.ofNat (Octets.value (octets frame.octet 12 4).value)⟩
        ∧ ArmsGate before.gateArmed frame ready.ring.readable := by
    by_cases harms : ArmsGate before.gateArmed frame ready.ring.readable
    · rw [if_pos harms] at harmed' hts'
      rw [armedAnchor, if_pos ⟨harms.2.1, harmed'⟩, htail', hts',
        JitterRing.tail_of_empty harms.1, Option.mem_some_iff]
      exact ⟨fun h => ⟨h.symm, harms⟩, fun h => h.1.symm⟩
    · rw [if_neg harms] at harmed'
      have hidle : ¬ (before.gateArmed = false ∧ after.gateArmed = true) := by
        rintro ⟨hfalse, htrue⟩
        rw [harmed', hfalse] at htrue
        cases htrue
      rw [armedAnchor, if_neg hidle]
      exact ⟨(fun h => nomatch h), fun h => absurd h.2 harms⟩
  rw [hmarker, hanchor, ← and_or_left]

theorem recordsTrue_delivered_iff (p : ConcealParams) (s : StreamLink) (clock : RxClock) :
    RecordsTrue params p s (.delivered pkt clock)
      ↔ StampsFirstFrame params p s (.delivered pkt clock) := by
  unfold RecordsTrue StampsFirstFrame
  dsimp only [linkStep]
  cases hready : rxReady p s.listener (am824Frame params s.talker pkt) clock with
  | none => exact ⟨fun _ => trivial, fun _ m hm =>
      absurd hm (not_recorded_of_marks (rxReady_none hready) m)⟩
  | some taken =>
      obtain ⟨ready, layout⟩ := taken
      obtain ⟨hmarks, hsamples, hparse, hout⟩ := rxReady_spec hready
      dsimp only [StampTaken]
      have hstash := marks_rxStash (rxWrite ready (am824Frame params s.talker pkt) clock
        (am824Frame params s.talker pkt).subtype layout).value (am824Frame params s.talker pkt) clock
      by_cases hfit : layout.total ≤ ready.ring.writable
      · have hhead := @head_rxWrite ready (am824Frame params s.talker pkt) clock
          (am824Frame params s.talker pkt).subtype layout hfit
        rw [← hout] at hhead hstash
        have hsmall : layout.total ≤ 2 ^ 31 := by
          have := ready.ring.capacity_le
          simp only [JitterRing.writable] at hfit
          omega
        have hrecorded := recorded_iff hfit hmarks hstash
        simp only [am824Frame_timestamp] at hrecorded
        have hmarksFrame : ∀ layout', (rxParse (am824Frame params s.talker pkt)
            (am824Frame params s.talker pkt).subtype).value = some layout' → layout' = layout :=
          fun _ h => Option.some.inj (h.symm.trans hparse)
        have hframe := marksFrame_iff params pkt (am824Stamp params s.talker.dbc pkt).2 hsamples
          hsmall hhead
        by_cases htv : (am824Stamp params s.talker.dbc pkt).1 = true
        · rw [if_pos htv]
          rw [nearTime_stamp_iff params pkt htv] at hframe
          constructor
          · intro htrue _
            obtain ⟨-, layout', hlayout, hmark⟩ := htrue _ ((hrecorded _).2
              ⟨rfl, .inl ((am824Frame_flags params s.talker pkt).2 htv)⟩)
            rw [hmarksFrame layout' hlayout] at hmark
            exact hframe.1 hmark
          · intro hboundary m hm
            obtain ⟨rfl, -⟩ := (hrecorded m).1 hm
            exact ⟨htv, layout, hparse, hframe.2 (hboundary hfit)⟩
        · rw [if_neg htv]
          constructor
          · intro htrue _ hempty harmed
            by_contra htu
            refine htv (htrue _ ((hrecorded _).2 ⟨rfl, .inr ⟨hempty, harmed, ?_⟩⟩)).1
            rwa [am824Frame_tu]
          · intro hquiet m hm
            obtain ⟨-, hflag | ⟨hempty, harmed, htu⟩⟩ := (hrecorded m).1 hm
            · exact absurd ((am824Frame_flags params s.talker pkt).1 hflag) htv
            · rw [am824Frame_tu] at htu
              exact absurd (hquiet hfit hempty harmed) htu
      · have hkept : (avbStreamRxHandler p s.listener (am824Frame params s.talker pkt)
            clock).value.marks = s.listener.marks := by
          rw [hout, hstash, rxWrite, dif_neg hfit, value_pure, hmarks]
        exact ⟨fun _ h => absurd h hfit, fun _ m hm =>
          absurd hm (not_recorded_of_marks hkept m)⟩

theorem recordsTrue_iff (p : ConcealParams) (s : StreamLink) (e : LinkEvent) :
    RecordsTrue params p s e ↔ StampsFirstFrame params p s e := by
  cases e with
  | delivered pkt clock => exact recordsTrue_delivered_iff params pkt p s clock
  | lost pkt => exact ⟨fun _ => trivial, fun _ m hm => not_recorded_of_marks rfl m hm⟩
  | drain pass =>
      refine ⟨fun _ => trivial, ?_⟩
      rintro - m (hm | hm)
      · have hnone : recordedMarker s.listener (linkStep params p s (.drain pass)).listener = none :=
          if_pos rfl
        rw [hnone] at hm
        cases hm
      · -- the drain disarms the gate and never arms it
        have hidle : ¬ (s.listener.gateArmed = false
            ∧ (s.listener.gateArmed && !pass.disarm) = true) := by
          rintro ⟨hfalse, htrue⟩
          rw [hfalse, Bool.false_and] at htrue
          cases htrue
        have hnone : armedAnchor s.listener (linkStep params p s (.drain pass)).listener = none :=
          if_neg hidle
        rw [hnone] at hm
        cases hm

/-- A 48 kHz stereo stream. -/
def stereo48k : Am824Params :=
  { streamId := List.replicate 8 0
    streamId_length := rfl
    cipSfc := 2
    dbs := 2
    presentationTimeOffsetNs := 2000000
    cipSyt := false }

/-- One packet of it at Class A, from a media time on. -/
def sixFrames (avtpMediaTs : UInt32) : Am824Packet := ⟨6, avtpMediaTs, false, false, fun _ => 0⟩

/-- The stream as it starts, and a listener that has heard nothing yet. -/
def freshLink : StreamLink :=
  { talker := ⟨0, 0⟩
    listener := { crossfadingCtx with
      seqNumValid := false
      conceal := {}
      drainLocked := false
      gateArmed := false
      expectedSubtype := 0
      ring :=
        { capacity := 65536
          buf := fun _ => 0
          head := 0
          tail := 0
          power := ⟨16, by decide, rfl⟩
          fill_le := by decide } } }

end EspAvb
