import EspAvb.AudioLink
import EspAvb.Lib.Rows
import EspAvb.Proof.AvbSrc
import EspAvb.Proof.SlipGuard
import EspAvb.Proof.StreamDrain
import EspAvb.Proof.TimestampMarks

/-!
# The frame between talker and listener

What a packet of the talker carries, and what the listener makes of it: in either wire format each slot
of each frame comes back as the 24 bits it was.
-/

namespace EspAvb

open Traced RingCells Rows

/-! ### The audio of a packet -/

/-- The frames that the microphone's packets carry, a slot for each channel. -/
def micFrames (channels : Nat) : MicDsp → List SrcFrame → List SrcFrame
  | _, [] => []
  | dsp, frame :: rest =>
      ((micDspBe24 dsp frame).2 :: List.replicate (channels - 1) .zero)
        :: micFrames channels (micDspBe24 dsp frame).1 rest

theorem i2s24ToMono_octets (octets : SrcSlot → List UInt8) {channels : Nat}
    (hchannels : 0 < channels) (frames : List SrcFrame) (dsp : MicDsp) :
    (i2s24ToMono octets channels frames dsp).2
      = ((micFrames channels dsp frames).flatten.map octets).flatten := by
  obtain ⟨n, rfl⟩ := Nat.exists_eq_succ_of_ne_zero hchannels.ne'
  induction frames generalizing dsp with
  | nil => rfl
  | cons frame rest ih =>
      calc (i2s24ToMono octets (n + 1) (frame :: rest) dsp).2
          = octets (micDspBe24 dsp frame).2 ++ (List.replicate n (octets .zero)).flatten
              ++ (i2s24ToMono octets (n + 1) rest (micDspBe24 dsp frame).1).2 := rfl
        _ = ((micFrames (n + 1) dsp (frame :: rest)).flatten.map octets).flatten := by
            rw [ih]
            simp [micFrames]

theorem length_micFrames {channels : Nat} (hchannels : 0 < channels) (dsp : MicDsp)
    (frames : List SrcFrame) :
    (micFrames channels dsp frames).length = frames.length ∧
      ∀ frame ∈ micFrames channels dsp frames, frame.length = channels := by
  induction frames generalizing dsp with
  | nil => exact ⟨rfl, fun _ h => by cases h⟩
  | cons frame rest ih =>
      obtain ⟨hlen, hall⟩ := ih (micDspBe24 dsp frame).1
      refine ⟨congrArg (· + 1) hlen, fun frame' hmem => ?_⟩
      rcases List.mem_cons.mp hmem with rfl | hrest
      · rw [List.length_cons, List.length_replicate]
        omega
      · exact hall frame' hrest

theorem length_copySineFromLut {lut : Nat → SrcFrame} {channels : Nat}
    (hlut : ∀ pos, (lut pos).length = channels) (lutSamples n pos : Nat) :
    (copySineFromLut lut lutSamples n pos).2.length = n ∧
      ∀ frame ∈ (copySineFromLut lut lutSamples n pos).2, frame.length = channels := by
  induction n generalizing pos with
  | zero => exact ⟨rfl, fun _ h => by cases h⟩
  | succ n ih =>
      obtain ⟨hlen, hall⟩ := ih ((pos + 1) % lutSamples)
      refine ⟨congrArg (· + 1) hlen, fun frame hmem => ?_⟩
      rcases List.mem_cons.mp hmem with rfl | hrest
      · exact hlut pos
      · exact hall frame hrest

theorem length_framesOf {octets : List UInt8} {n : Nat} (h : octets.length = n * i2sFrameBytes) :
    (framesOf octets).length = n := by
  rw [i2sFrameBytes] at h
  induction n generalizing octets with
  | zero =>
      rw [List.eq_nil_of_length_eq_zero (h.trans (Nat.zero_mul 8))]
      rfl
  | succ n ih =>
      rcases octets with _ | ⟨a, _ | ⟨b, _ | ⟨c, _ | ⟨d, _ | ⟨e, _ | ⟨f, _ | ⟨g, _ | ⟨i, rest⟩⟩⟩⟩⟩⟩⟩⟩
      all_goals simp only [List.length_cons, List.length_nil] at h
      all_goals try omega
      rw [framesOf, List.length_cons, ih (by omega)]

theorem length_srcRunFrames (table : Nat → Int) (layout : SrcLayout) (input : List SrcFrame)
    (rateQ32 : Int) (n : Nat) (run : SrcRun) :
    ((srcRunFrame table layout input rateQ32)^[n] run).out.length = run.out.length + n := by
  induction n generalizing run with
  | zero => rfl
  | succ n ih =>
      have hone : (srcRunFrame table layout input rateQ32 run).out.length = run.out.length + 1 := by
        rw [srcRunFrame]
        dsimp only
        rw [List.length_append, srcTake_out, List.length_singleton]
      rw [Function.iterate_succ_apply, ih, hone]
      omega

namespace TalkerAudio

variable (cfg : TalkerMedia)

/-- The frames of a packet, a slot for each channel. -/
def payload (st : TalkerAudio) (input : TalkerInput) : List SrcFrame :=
  if cfg.useSineWave ∨ input.testTone then
    (copySineFromLut cfg.lut cfg.lutSamples input.spp st.lutPos).2
  else micFrames cfg.params.channels (st.guarded cfg input).dsp (st.taken cfg input).2

theorem fill_octets (hchannels : 0 < cfg.params.channels) (st : TalkerAudio) (input : TalkerInput) :
    (st.fill cfg input).2 = ((st.payload cfg input).flatten.map cfg.wireOctets).flatten := by
  cases hsine : cfg.useSineWave with
  | true =>
      rw [fill, if_pos hsine, sine_eq, payload, if_pos (Or.inl hsine)]
      rfl
  | false =>
      have hlut := (guarded_kept cfg st input).2.1
      rw [fill_eq cfg hsine]
      cases htone : input.testTone with
      | true =>
          have hpayload : st.payload cfg input = _ := if_pos (Or.inr htone)
          rw [hpayload, ← hlut]
          rfl
      | false =>
          have hpayload : st.payload cfg input = _ := if_neg (by simp [hsine, htone])
          rw [hpayload, ← i2s24ToMono_octets _ hchannels]
          rfl

/-- A packet has the frames that it is said to have, each with a slot for each channel. -/
theorem length_payload (hchannels : 0 < cfg.params.channels)
    (hlut : ∀ pos, (cfg.lut pos).length = cfg.params.channels) (st : TalkerAudio)
    {input : TalkerInput}
    (hinput : cfg.resample = false → input.octets.length = input.spp * i2sFrameBytes) :
    (st.payload cfg input).length = input.spp ∧
      ∀ frame ∈ st.payload cfg input, frame.length = cfg.params.channels := by
  have htaken : (st.taken cfg input).2.length = input.spp := by
    unfold taken convert
    cases hresample : cfg.resample with
    | true =>
        rw [if_pos rfl, avbSrcRun]
        exact (length_srcRunFrames _ _ _ _ _ _).trans (Nat.zero_add _)
    | false => exact length_framesOf (hinput hresample)
  unfold payload
  split
  · exact length_copySineFromLut hlut _ _ _
  · rw [← htaken]
    exact length_micFrames hchannels _ _

end TalkerAudio

theorem length_wireOctets (cfg : TalkerMedia) (slot : SrcSlot) : (cfg.wireOctets slot).length = 4 := by
  unfold TalkerMedia.wireOctets
  split <;> rfl

/-- Where the octets of a slot are in a packet's audio. -/
theorem audio_octet (cfg : TalkerMedia) {frames : List SrcFrame} {channels : Nat}
    (hframes : ∀ frame ∈ frames, frame.length = channels) {s c j : Nat} (hs : s < frames.length)
    (hc : c < frames[s].length) (hj : j < 4) :
    (frames.flatten.map cfg.wireOctets).flatten.getD ((s * channels + c) * 4 + j) 0
      = (cfg.wireOctets (frames[s][c])).getD j 0 := by
  have hrow := hframes _ (List.getElem_mem hs)
  have hslot : frames.flatten[s * channels + c]? = some frames[s][c] := by
    rw [getElem?_flatten hframes s (by omega), List.getElem?_eq_getElem hs]
    exact List.getElem?_eq_getElem hc
  have hwire : ∀ octets ∈ frames.flatten.map cfg.wireOctets, octets.length = 4 := by
    intro octets hmem
    obtain ⟨slot, -, rfl⟩ := List.mem_map.mp hmem
    exact length_wireOctets cfg slot
  rw [List.getD_eq_getElem?_getD, getElem?_flatten hwire _ hj, List.getElem?_map, hslot,
    List.getD_eq_getElem?_getD]
  rfl

/-! ### The headers -/

section

variable (cfg : LinkConfig) (seqNum : UInt8) (dbc : UInt16) (pkt : Am824Packet)

/-- A header of a stream: four octets, the stream's ID and the rest. -/
theorem header_octets {octet : Nat → UInt8} {n : Nat} {front id rest : List UInt8}
    (h : ∀ i < n, octet i = (front ++ (id ++ rest)).getD i 0) (hfront : front.length = 4)
    (hid : id.length = 8) :
    (∀ i < 4, i < n → octet i = front.getD i 0) ∧
      (∀ i < 8, 4 + i < n → octet (4 + i) = id.getD i 0) ∧
      ∀ i, 12 + i < n → octet (12 + i) = rest.getD i 0 := by
  refine ⟨fun i hi hn => ?_, fun i hi hn => ?_, fun i hn => ?_⟩
  · rw [h i hn, List.getD_append _ _ _ _ (by omega)]
  · rw [h _ hn, List.getD_append_right _ _ _ _ (by omega), List.getD_append _ _ _ _ (by omega),
      hfront, Nat.add_sub_cancel_left]
  · rw [h _ hn, List.getD_append_right _ _ _ _ (by omega),
      List.getD_append_right _ _ _ _ (by omega), hfront, hid, show 12 + i - 4 - 8 = i by omega]

theorem value_octets_id {octet : Nat → UInt8} {id : List UInt8} (hid : id.length = 8)
    (h : ∀ i < 8, octet (4 + i) = id.getD i 0) : (octets octet 4 8).value = id := by
  apply List.ext_getElem
  · rw [hid]
    exact (List.length_map _).trans List.length_range
  · intro i hi hi'
    rw [← List.getD_eq_getElem _ 0 hi', ← h i (by omega)]
    simp [octets]

theorem value_length {n : Nat} (h : n < 65536) :
    Octets.value [UInt8.ofNat (n / 256), UInt8.ofNat n] = n := by
  simp only [Octets.value, List.foldl_cons, List.foldl_nil, UInt8.toNat_ofNat']
  omega

/-- Whether the header is one of the stream, and what it says of the audio. -/
structure Headed (frame : RxFrame) (kind rateCode : UInt8) (sdl : Nat) : Prop where
  streamId : (octets frame.octet 4 8).value = cfg.am824.streamId
  seq : frame.octet 2 = seqNum
  subtype : frame.subtype = kind
  rate : (rxRateCode frame kind).value = rateCode
  length : (octets frame.octet 20 2).value = [UInt8.ofNat (sdl / 256), UInt8.ofNat sdl]

theorem octets_two (octet : Nat → UInt8) (i : Nat) :
    (octets octet i 2).value = [octet i, octet (i + 1)] := rfl

theorem am824_headed :
    Headed cfg seqNum (am824Frame cfg.am824 { seqNum, dbc } pkt) 0x00 (cfg.am824.cipSfc &&& 0x07)
        (8 + pkt.spp * cfg.am824.dbs.toNat * 4) ∧
      (am824Frame cfg.am824 { seqNum, dbc } pkt).octet 25 = cfg.am824.dbs := by
  have hoctet : ∀ i < 32, (am824Frame cfg.am824 { seqNum, dbc } pkt).octet i
      = (am824Header cfg.am824 { seqNum, dbc } pkt).getD i 0 := fun i hi => if_pos hi
  simp only [am824Header, List.append_assoc] at hoctet
  obtain ⟨hfront, hid, hrest⟩ := header_octets hoctet rfl cfg.am824.streamId_length
  refine ⟨⟨value_octets_id cfg.am824.streamId_length fun i hi => ?_, ?_, ?_, ?_, ?_⟩, ?_⟩
  · exact hid i hi (by omega)
  · exact hfront 2 (by norm_num) (by norm_num)
  · rw [RxFrame.subtype, hfront 0 (by norm_num) (by norm_num), List.getD_cons_zero]
    decide
  · have hlong : 29 < (am824Frame cfg.am824 { seqNum, dbc } pkt).len := by
      simp only [am824Frame]
      omega
    have hsfc : (am824Frame cfg.am824 { seqNum, dbc } pkt).octet 29 = cfg.am824.cipSfc &&& 0x07 :=
      hrest 17 (by norm_num)
    rw [rxRateCode, if_neg (by decide), if_pos hlong, value_bind, value_octet, value_pure, hsfc,
      UInt8.and_assoc]
    rfl
  · rw [octets_two]
    exact congrArg₂ (fun hi lo => [hi, lo]) (hrest 8 (by norm_num))
      (hrest 9 (by norm_num))
  · exact hrest 13 (by norm_num)

theorem sampleRateToAafCode_nibble (rate : Nat) :
    ((sampleRateToAafCode rate &&& 0x0f) <<< 4 >>> 4) &&& 0x0f = sampleRateToAafCode rate := by
  unfold sampleRateToAafCode
  split <;> rfl

theorem aaf_headed :
    Headed cfg seqNum (aafFrame cfg seqNum pkt) 0x02
        (sampleRateToAafCode cfg.media.params.sampleRate)
        (pkt.spp * cfg.media.params.channels * 4) ∧
      (aafFrame cfg seqNum pkt).octet 18 = UInt8.ofNat cfg.media.params.channels := by
  have hoctet : ∀ i < 24, (aafFrame cfg seqNum pkt).octet i
      = (aafHeader cfg seqNum pkt).getD i 0 := fun i hi => if_pos hi
  simp only [aafHeader, List.append_assoc] at hoctet
  obtain ⟨hfront, hid, hrest⟩ := header_octets hoctet rfl cfg.am824.streamId_length
  refine ⟨⟨value_octets_id cfg.am824.streamId_length fun i hi => ?_, ?_, ?_, ?_, ?_⟩, ?_⟩
  · exact hid i hi (by omega)
  · exact hfront 2 (by norm_num) (by norm_num)
  · rw [RxFrame.subtype, hfront 0 (by norm_num) (by norm_num), List.getD_cons_zero]
    decide
  · have hnsr : (aafFrame cfg seqNum pkt).octet 17
        = (sampleRateToAafCode cfg.media.params.sampleRate &&& 0x0f) <<< 4 :=
      hrest 5 (by norm_num)
    rw [rxRateCode, if_pos (by decide), value_bind, value_octet, value_pure, hnsr]
    exact sampleRateToAafCode_nibble _
  · rw [octets_two]
    exact congrArg₂ (fun hi lo => [hi, lo]) (hrest 8 (by norm_num))
      (hrest 9 (by norm_num))
  · exact hrest 6 (by norm_num)

end

/-! ### What the listener hears -/

/-- The ring's slot `ch` of a frame: the 24 bits of the channel that is mapped to it, or silence. -/
def heardSlot (inputMap : Nat → UInt16) (frame : SrcFrame) (ch : Nat) : List UInt8 :=
  match frame[(inputMap ch).toNat]? with
  | some slot => [slot.msb, slot.mid, slot.lsb, 0]
  | none => [0, 0, 0, 0]

def heardFrame (inputMap : Nat → UInt16) (frame : SrcFrame) : List UInt8 :=
  heardSlot inputMap frame 0 ++ heardSlot inputMap frame 1

def heard (inputMap : Nat → UInt16) (frames : List SrcFrame) : List UInt8 :=
  (frames.map (heardFrame inputMap)).flatten

theorem length_heardSlot (inputMap : Nat → UInt16) (frame : SrcFrame) (ch : Nat) :
    (heardSlot inputMap frame ch).length = 4 := by
  unfold heardSlot
  split <;> rfl

theorem length_heardFrame (inputMap : Nat → UInt16) (frame : SrcFrame) :
    (heardFrame inputMap frame).length = 8 := by
  rw [heardFrame, List.length_append, length_heardSlot, length_heardSlot]

theorem heard_append (inputMap : Nat → UInt16) (first second : List SrcFrame) :
    heard inputMap (first ++ second) = heard inputMap first ++ heard inputMap second := by
  rw [heard, List.map_append, List.flatten_append, heard, heard]

/-- The subtype and the rate code of a stream's packets. -/
def LinkConfig.subtype (cfg : LinkConfig) : UInt8 := if cfg.media.isAm824 then 0x00 else 0x02

def LinkConfig.rateCode (cfg : LinkConfig) : UInt8 :=
  if cfg.media.isAm824 then cfg.am824.cipSfc &&& 0x07
  else sampleRateToAafCode cfg.media.params.sampleRate

/-- The fields that hold a number of channels have room for it, and the tone's table is for it. -/
structure LinkConfig.Wired (cfg : LinkConfig) : Prop where
  channels : 0 < cfg.media.params.channels
  channels_lt : cfg.media.params.channels < 256
  dbs : cfg.am824.dbs.toNat = cfg.media.params.channels
  lut : ∀ pos, (cfg.media.lut pos).length = cfg.media.params.channels

/-- A frame of the stream with the audio `frames`. -/
structure Carries (cfg : LinkConfig) (frame : RxFrame) (seqNum : UInt8) (frames : List SrcFrame) :
    Prop where
  len : 24 ≤ frame.len
  streamId : (octets frame.octet 4 8).value = cfg.am824.streamId
  seq : frame.octet 2 = seqNum
  subtype : frame.subtype = cfg.subtype
  rate : (rxRateCode frame cfg.subtype).value = cfg.rateCode
  audio : ∃ layout, (rxParse frame cfg.subtype).value = some layout ∧
    layout.samples = frames.length ∧ ∀ inputMap s (hs : s < frames.length) ch,
      wireSlot inputMap frame cfg.subtype layout s ch = heardSlot inputMap frames[s] ch

/-- What fits the length field, and the handler's bound on AAF audio. -/
def FitsPacket (cfg : LinkConfig) (spp : Nat) : Prop :=
  let audio := spp * cfg.media.params.channels * 4
  0 < spp ∧ if cfg.media.isAm824 then 8 + audio < 65536 else audio ≤ avtpStreamDataPerMsg

section

variable {cfg : LinkConfig} {frame : RxFrame} {frames : List SrcFrame} {channels : Nat}

/-- The octets of a slot on the wire behind those of its label. -/
theorem wireOctets_slot (cfg : LinkConfig) (slot : SrcSlot) (j : Nat) (hj : j < 3) :
    (cfg.media.wireOctets slot).getD (j + if cfg.subtype.toNat = avtpSubtypeAaf then 0 else 1) 0
      = [slot.msb, slot.mid, slot.lsb].getD j 0 := by
  unfold TalkerMedia.wireOctets LinkConfig.subtype
  split
  · rw [if_neg (by decide)]
    rfl
  · rw [if_pos (by decide)]
    obtain rfl | rfl | rfl : j = 0 ∨ j = 1 ∨ j = 2 := by omega
    · rfl
    · rfl
    · rfl

/-- The slots of a packet whose audio begins at `start`. -/
theorem wireSlot_eq {layout : PcmLayout} (hchannels : layout.channels = channels)
    (hframes : ∀ f ∈ frames, f.length = channels)
    (haudio : ∀ i, frame.octet (layout.start + i)
      = (frames.flatten.map cfg.media.wireOctets).flatten.getD i 0)
    (inputMap : Nat → UInt16) {s : Nat} (hs : s < frames.length) (ch : Nat) :
    wireSlot inputMap frame cfg.subtype layout s ch = heardSlot inputMap frames[s] ch := by
  have hrow := hframes _ (List.getElem_mem hs)
  unfold wireSlot heardSlot
  dsimp only
  by_cases hch : (inputMap ch).toNat < channels
  · have hc : (inputMap ch).toNat < frames[s].length := hrow.symm ▸ hch
    have hoctet : ∀ j < 3, frame.octet (layout.start
        + (s * layout.channels + (inputMap ch).toNat) * 4
        + (if cfg.subtype.toNat = avtpSubtypeAaf then 0 else 1) + j)
        = [(frames[s][(inputMap ch).toNat]).msb, (frames[s][(inputMap ch).toNat]).mid,
          (frames[s][(inputMap ch).toNat]).lsb].getD j 0 := by
      intro j hj
      have hlabel : (if cfg.subtype.toNat = avtpSubtypeAaf then 0 else 1) ≤ 1 := by
        split <;> omega
      rw [← wireOctets_slot cfg _ j hj, ← audio_octet cfg.media hframes hs hc (by omega), ← haudio,
        hchannels]
      congr 1
      omega
    rw [List.getElem?_eq_getElem hc, if_pos (hchannels.symm ▸ hch)]
    dsimp only
    rw [hoctet 1 (by norm_num), hoctet 2 (by norm_num)]
    have hfirst := hoctet 0 (by norm_num)
    rw [Nat.add_zero] at hfirst
    rw [hfirst]
    rfl
  · rw [List.getElem?_eq_none (by omega), if_neg (by omega)]

/-- The frame that is sent carries its audio to the listener. -/
theorem frameOf_carries (hcfg : cfg.Wired) (s : AudioLink) (stamp : PacketStamp)
    (hframes : ∀ f ∈ frames, f.length = cfg.media.params.channels)
    (hfit : FitsPacket cfg frames.length) :
    Carries cfg (s.frameOf cfg (frames.flatten.map cfg.media.wireOctets).flatten frames.length stamp)
      s.seqNum frames := by
  obtain ⟨hsome, hroom⟩ := hfit
  have hchannels := hcfg.channels
  have hlt := hcfg.channels_lt
  have hdbs := hcfg.dbs
  have hpos : 0 < frames.length * cfg.media.params.channels * 4 := by positivity
  have hcount : frames.length * cfg.media.params.channels * 4 / (cfg.media.params.channels * 4)
      = frames.length := by
    rw [Nat.mul_assoc]
    exact Nat.mul_div_cancel _ (by omega)
  unfold AudioLink.frameOf
  dsimp only
  cases hkind : cfg.media.isAm824 with
  | true =>
      rw [hkind, if_pos rfl] at hroom
      have hsubtype : cfg.subtype = 0x00 := by rw [LinkConfig.subtype, hkind, if_pos rfl]
      have hrate : cfg.rateCode = cfg.am824.cipSfc &&& 0x07 := by
        rw [LinkConfig.rateCode, hkind, if_pos rfl]
      rw [if_pos rfl]
      obtain ⟨hheaded, hoctet⟩ := am824_headed cfg s.seqNum s.dbc
        { spp := frames.length, avtpMediaTs := stamp.avtpMediaTs, mr := stamp.mr, tu := stamp.tu,
          audio := fun i => (frames.flatten.map cfg.media.wireOctets).flatten.getD i 0 }
      generalize hframe : am824Frame cfg.am824 _ _ = frame at hheaded hoctet ⊢
      have hlength : Octets.value (octets frame.octet 20 2).value
          = 8 + frames.length * cfg.media.params.channels * 4 := by
        rw [hheaded.length, hdbs]
        exact value_length hroom
      have hdbsne : frame.octet 25 ≠ 0 := fun hzero => by
        rw [hoctet] at hzero
        rw [hzero] at hdbs
        exact absurd hdbs.symm hchannels.ne'
      refine
        { len := by rw [← hframe, am824Frame]; dsimp only; omega
          streamId := hheaded.streamId, seq := hheaded.seq
          subtype := hheaded.subtype.trans hsubtype.symm
          rate := by rw [hsubtype, hrate]; exact hheaded.rate
          audio := ?_ }
      refine ⟨⟨cfg.media.params.channels, frames.length, 32,
        frames.length * cfg.media.params.channels * 4⟩, ?_, rfl, fun inputMap n hn ch => ?_⟩
      · rw [hsubtype, rxParse, if_neg (by decide), if_pos (by decide), value_bind]
        dsimp only
        rw [hlength, if_neg (by omega), value_bind, value_octet, value_pure, if_neg hdbsne, hoctet,
          hdbs, Nat.add_sub_cancel_left, hcount]
      · apply wireSlot_eq rfl hframes _ inputMap hn ch
        intro i
        rw [← hframe, am824Frame]
        dsimp only
        rw [if_neg (by omega), Nat.add_sub_cancel_left]
  | false =>
      rw [hkind, if_neg Bool.false_ne_true] at hroom
      have hsubtype : cfg.subtype = 0x02 := by
        rw [LinkConfig.subtype, hkind, if_neg Bool.false_ne_true]
      have hrate : cfg.rateCode = sampleRateToAafCode cfg.media.params.sampleRate := by
        rw [LinkConfig.rateCode, hkind, if_neg Bool.false_ne_true]
      rw [if_neg Bool.false_ne_true]
      obtain ⟨hheaded, hoctet⟩ := aaf_headed cfg s.seqNum
        { spp := frames.length, avtpMediaTs := stamp.avtpMediaTs, mr := stamp.mr, tu := stamp.tu,
          audio := fun i => (frames.flatten.map cfg.media.wireOctets).flatten.getD i 0 }
      generalize hframe : aafFrame cfg _ _ = frame at hheaded hoctet ⊢
      have hbound : avtpStreamDataPerMsg = 1024 := rfl
      have hlength : Octets.value (octets frame.octet 20 2).value
          = frames.length * cfg.media.params.channels * 4 := by
        have hsmall : frames.length * cfg.media.params.channels * 4 < 65536 := by omega
        rw [hheaded.length]
        exact value_length hsmall
      have hcode : (UInt8.ofNat cfg.media.params.channels).toNat = cfg.media.params.channels := by
        rw [UInt8.toNat_ofNat']
        omega
      have hchan : frame.octet 18 ≠ 0 := fun hzero => by
        rw [hoctet] at hzero
        rw [hzero] at hcode
        exact absurd hcode.symm hchannels.ne'
      refine
        { len := by rw [← hframe, aafFrame]; dsimp only; omega
          streamId := hheaded.streamId, seq := hheaded.seq
          subtype := hheaded.subtype.trans hsubtype.symm
          rate := by rw [hsubtype, hrate]; exact hheaded.rate
          audio := ?_ }
      refine ⟨⟨cfg.media.params.channels, frames.length, 24,
        frames.length * cfg.media.params.channels * 4⟩, ?_, rfl, fun inputMap n hn ch => ?_⟩
      · rw [hsubtype, rxParse, if_pos (by decide), value_bind]
        dsimp only
        rw [hlength, if_neg (by omega), value_bind, value_octet, value_pure, if_neg hchan, hoctet,
          hcode, hcount]
      · apply wireSlot_eq rfl hframes _ inputMap hn ch
        intro i
        rw [← hframe, aafFrame]
        dsimp only
        rw [if_neg (by omega), Nat.add_sub_cancel_left]

end

end EspAvb
