import EspAvb.Proof.StreamFormat
import EspAvb.StreamOut

/-!
# The reservation covers the stream

The TSpec and the packets are computed from the format apart from each other. For every format of
the list both come to the samples of the longest packet, and to the packets of a class interval
rounded up.
-/

namespace EspAvb

/-! ### What a reservation is to cover -/

/-- The samples of the longest packet. -/
def StreamOutParams.sppMax (params : StreamOutParams) : Nat :=
  params.sppBase + if params.sppRem = 0 then 0 else 1

/-- The longest packet of a stream. -/
def streamOutMaxLen (stream : AvbTalkerStream) : Nat :=
  if formatSubtype stream.streamFormat = avtpSubtypeCrf then avbCrfPduLen
  else (avbStreamOutParams stream).avtpduLen (avbStreamOutParams stream).sppMax

def classIntervalUs (stream : AvbTalkerStream) : Nat := if stream.classB then 250 else 125

/-- The packets that may start in one class interval. -/
def streamOutIntervalFrames (stream : AvbTalkerStream) : Nat :=
  (classIntervalUs stream + streamOutPeriodUs stream - 1) / streamOutPeriodUs stream

/-- A reservation as it is meant: neither value is cut off by its 16 bits. -/
structure Reserved (lite : LiteConfig) (stream : AvbTalkerStream) : Prop where
  covers : ∀ n, ∀ len ∈ streamOutLens stream n, len ≤ avbComputeTspecMaxFrameSize stream
  frameSize_eq : avbComputeTspecMaxFrameSize stream = streamOutMaxLen stream
  keeps_up : classIntervalUs stream
    ≤ avbComputeTspecMaxIntervalFrames lite stream * streamOutPeriodUs stream
  frames_eq : avbComputeTspecMaxIntervalFrames lite stream
    = streamOutIntervalFrames stream * if lite.roleEndpointWireless then 2 else 1
  frameSize_pos : 0 < avbComputeTspecMaxFrameSize stream
  frames_pos : 0 < avbComputeTspecMaxIntervalFrames lite stream

/-! ### The packets -/

section Packets

variable {params : StreamOutParams}

theorem thisSpp_le {sppAcc : Nat} (hacc : sppAcc < params.sppDen) :
    (params.thisSpp sppAcc).1 ≤ params.sppMax ∧ (params.thisSpp sppAcc).2 < params.sppDen := by
  have hrem : params.sppRem < params.sppDen := Nat.mod_lt _ (by omega)
  unfold StreamOutParams.thisSpp StreamOutParams.sppMax
  dsimp only
  by_cases hturn : params.sppDen ≤ sppAcc + params.sppRem
  · rw [if_pos hturn, if_neg (by omega)]
    exact ⟨le_refl _, by dsimp only; omega⟩
  · rw [if_neg hturn]
    exact ⟨Nat.le_add_right _ _, by dsimp only; omega⟩

theorem avtpduLen_mono {spp spp' : Nat} (h : spp ≤ spp') :
    params.avtpduLen spp ≤ params.avtpduLen spp' := by
  unfold StreamOutParams.avtpduLen
  have := Nat.mul_le_mul_right params.channels h
  omega

theorem avtpduLens_le (n : Nat) {sppAcc : Nat} (hacc : sppAcc < params.sppDen) :
    ∀ len ∈ params.avtpduLens n sppAcc, len ≤ params.avtpduLen params.sppMax := by
  induction n generalizing sppAcc with
  | zero =>
      intro len hlen
      cases hlen
  | succ n ih =>
      obtain ⟨hspp, hnext⟩ := thisSpp_le hacc
      intro len hlen
      rcases List.mem_cons.mp hlen with rfl | hlen
      · exact avtpduLen_mono hspp
      · exact ih hnext len hlen

/-- The longest packet is one interval's samples rounded up. -/
theorem sppMax_eq (hden : 0 < params.sppDen) :
    params.sppMax = (params.sampleRate + params.sppDen - 1) / params.sppDen := by
  have hdiv := Nat.div_add_mod params.sampleRate params.sppDen
  have hrem : params.sppRem < params.sppDen := Nat.mod_lt _ hden
  unfold StreamOutParams.sppMax StreamOutParams.sppBase
  have hsplit : params.sampleRate + params.sppDen - 1
      = params.sppDen * (params.sampleRate / params.sppDen) + (params.sppRem + params.sppDen - 1) := by
    unfold StreamOutParams.sppRem at hrem ⊢
    omega
  rw [hsplit, Nat.mul_add_div hden]
  congr 1
  by_cases hzero : params.sppRem = 0
  · rw [if_pos hzero, Nat.div_eq_of_lt (by omega)]
  · rw [if_neg hzero]
    symm
    rw [Nat.div_eq_iff hden]
    omega

end Packets

/-! ### The formats of the list -/

/-- An AM824 format of the list. -/
structure IsListedAm824 (cfg : AudioConfig) (f : Octets 8) : Prop where
  subtype : formatSubtype f = avtpSubtype61883
  channels : formatOctet f 3 = cfg.channelsPerStream % 256

/-- The samples per frame of the list at each rate: Milan's cadence, and that of Class B. -/
def aafCadences : List (Nat × Nat) :=
  [(44100, 6), (48000, 6), (48000, 12), (88200, 12), (96000, 12), (96000, 24), (192000, 24),
    (192000, 48)]

/-- An AAF format of the list. -/
structure IsListedAaf (f : Octets 8) : Prop where
  subtype : formatSubtype f = avtpSubtypeAaf
  bitDepth : formatOctet f 3 = 32 ∨ formatOctet f 3 = 24
  cadence : (aafCodeToSampleRate (formatOctet f 1 % 16), formatSamplesPerFrame f) ∈ aafCadences
  channels_pos : 0 < formatOctet f 4 * 4 + formatOctet f 5 / 64
  payload_le : formatSamplesPerFrame f * (formatOctet f 4 * 4 + formatOctet f 5 / 64) * 4
    ≤ avbAafMaxPayload

def IsListed (cfg : AudioConfig) (f : Octets 8) : Prop := IsListedAm824 cfg f ∨ IsListedAaf f

theorem isListed_am824Format (cfg : AudioConfig) (sfc : Nat) :
    IsListed cfg (am824Format sfc cfg.channelsPerStream) := by
  refine Or.inl ⟨rfl, ?_⟩
  exact UInt8.toNat_ofNat'

theorem formatOctet_aafFormat (bitDepth rate : Nat) {channels samples : Nat} (hchannels : channels < 64)
    (hsamples : samples < 64) :
    formatOctet (aafFormat bitDepth rate channels samples) 4 * 4
        + formatOctet (aafFormat bitDepth rate channels samples) 5 / 64 = channels ∧
      formatSamplesPerFrame (aafFormat bitDepth rate channels samples) = samples := by
  have h4 : formatOctet (aafFormat bitDepth rate channels samples) 4 = channels / 4 % 256 :=
    UInt8.toNat_ofNat'
  have h5 : formatOctet (aafFormat bitDepth rate channels samples) 5
      = (samples / 16 % 64 + channels % 4 * 64) % 256 := UInt8.toNat_ofNat'
  have h6 : formatOctet (aafFormat bitDepth rate channels samples) 6 = samples % 16 * 16 % 256 :=
    UInt8.toNat_ofNat'
  unfold formatSamplesPerFrame
  rw [h4, h5, h6]
  constructor <;> omega

theorem isListed_aafFormat {cfg : AudioConfig} {bitDepth hz channels samples : Nat}
    (hdepth : bitDepth = 32 ∨ bitDepth = 24) (hcadence : (hz, samples) ∈ aafCadences)
    (hchannels : 0 < channels) (hpayload : samples * channels * 4 ≤ avbAafMaxPayload) :
    IsListed cfg (aafFormat bitDepth (avbAafRateFromHz hz) channels samples) := by
  have hsamples : 6 ≤ samples ∧ samples ≤ 48 := by
    simp only [aafCadences, List.mem_cons, Prod.mk.injEq, List.not_mem_nil, or_false] at hcadence
    omega
  have hfew : channels < 64 := by
    unfold avbAafMaxPayload at hpayload
    by_contra hmany
    have := Nat.mul_le_mul hsamples.1 (Nat.not_lt.mp hmany)
    omega
  have hsmall : samples < 64 := by omega
  obtain ⟨hch, hspf⟩ := formatOctet_aafFormat bitDepth (avbAafRateFromHz hz) hfew hsmall
  have hrate : aafCodeToSampleRate (formatOctet (aafFormat bitDepth (avbAafRateFromHz hz) channels
      samples) 1 % 16) = hz := by
    simp only [aafCadences, List.mem_cons, Prod.mk.injEq, List.not_mem_nil, or_false] at hcadence
    rcases hcadence with ⟨rfl, -⟩ | ⟨rfl, -⟩ | ⟨rfl, -⟩ | ⟨rfl, -⟩ | ⟨rfl, -⟩ | ⟨rfl, -⟩ |
      ⟨rfl, -⟩ | ⟨rfl, -⟩ <;> rfl
  refine Or.inr ⟨rfl, ?_, ?_, ?_, ?_⟩
  · rcases hdepth with rfl | rfl
    · exact Or.inl rfl
    · exact Or.inr rfl
  · rw [hrate, hspf]
    exact hcadence
  · rw [hch]
    exact hchannels
  · rw [hch, hspf]
    exact hpayload

def AllListed (cfg : AudioConfig) (formats : List (Octets 8)) : Prop :=
  ∀ f ∈ formats, IsListed cfg f

theorem AllListed.append {cfg : AudioConfig} {formats : List (Octets 8)} {f : Octets 8}
    (h : AllListed cfg formats) (hf : IsListed cfg f) : AllListed cfg (formats ++ [f]) := by
  intro g hg
  rcases List.mem_append.mp hg with hg | hg
  · exact h g hg
  · rw [List.mem_singleton.mp hg]
    exact hf

variable {cfg : AudioConfig}

theorem cadence_listed {hz : Nat} (hhz : hz ∈ [44100, 48000, 88200, 96000, 192000]) {samples : Nat}
    (h : samples ∈ [avbSamplesPerFrameFromHz hz, avbClassBSamplesPerFrame hz]) (hpos : samples ≠ 0) :
    (hz, samples) ∈ aafCadences := by
  simp only [List.mem_cons, List.not_mem_nil, or_false] at hhz h
  rcases hhz with rfl | rfl | rfl | rfl | rfl <;> rcases h with rfl | rfl <;> revert hpos <;> decide

theorem avbAddAafFormat_listed {bitDepth hz channels samples : Nat}
    (hdepth : bitDepth = 32 ∨ bitDepth = 24) (hhz : hz ∈ [44100, 48000, 88200, 96000, 192000])
    (hchannels : channels ≠ 0)
    (hsamples : samples ∈ [avbSamplesPerFrameFromHz hz, avbClassBSamplesPerFrame hz])
    {formats : List (Octets 8)} (h : AllListed cfg formats) :
    AllListed cfg (avbAddAafFormat bitDepth hz channels samples formats) := by
  rw [avbAddAafFormat]
  by_cases hskip : samples = 0 ∨ aemMaxNumFormats ≤ formats.length ∨
      avbAafMaxPayload < samples * channels * 4
  · rw [if_pos hskip]
    exact h
  · rw [if_neg hskip]
    push Not at hskip
    obtain ⟨hzero, -, hpayload⟩ := hskip
    exact h.append (isListed_aafFormat hdepth (cadence_listed hhz hsamples hzero)
      (Nat.pos_of_ne_zero hchannels) hpayload)

theorem avbAddRateFormats_listed {hz : Nat} (hhz : hz ∈ [44100, 48000, 88200, 96000, 192000])
    {formats : List (Octets 8)} (h : AllListed cfg formats) :
    AllListed cfg (avbAddRateFormats cfg.channelsPerStream formats hz) := by
  rw [avbAddRateFormats]
  split
  · exact h
  · refine List.foldlRecOn _ _ (h.append (isListed_am824Format cfg _)) fun formats h shape hshape => ?_
    obtain ⟨channels, hchannels, hcadence⟩ := List.mem_flatMap.mp hshape
    obtain ⟨samples, hsamples, rfl⟩ := List.mem_map.mp hcadence
    have hnonzero : channels ≠ 0 := by simpa using (List.mem_filter.mp hchannels).2
    apply avbAddAafFormat_listed (Or.inr rfl) hhz hnonzero hsamples
    exact avbAddAafFormat_listed (Or.inl rfl) hhz hnonzero hsamples h

theorem supportedFormats_listed : AllListed cfg cfg.supportedFormats :=
  List.foldlRecOn _ _ (fun _ hf => absurd hf List.not_mem_nil)
    fun _ h _ hhz => avbAddRateFormats_listed (supportedSampleRates_known hhz) h

/-- The UT flag is not read here either. -/
theorem IsListed.sameButUpto {requested listed : Octets 8} (h : IsListed cfg listed)
    (hsame : avbAm824SameButUpto requested listed = true) : IsListedAm824 cfg requested := by
  simp only [avbAm824SameButUpto, Bool.and_eq_true, decide_eq_true_eq, List.all_eq_true,
    List.mem_range] at hsame
  obtain ⟨hsubtype, hoctets⟩ := hsame
  have hfirst : formatOctet requested 0 = formatOctet listed 0 := hoctets 0 (by decide)
  have hfourth : formatOctet requested 3 = formatOctet listed 3 := hoctets 3 (by decide)
  rcases h with hlisted | hlisted
  · exact ⟨hsubtype, hfourth.trans hlisted.channels⟩
  · have hnone := hlisted.subtype
    rw [formatSubtype, ← hfirst, ← formatSubtype, hsubtype] at hnone
    cases hnone

theorem formatSupported_listed {index : UInt16} {rate : Nat} {f : Octets 8}
    (h : cfg.formatSupported true index rate f = true) :
    f = avbCrfFormatForRate rate ∨ IsListed cfg f := by
  rw [AudioConfig.formatSupported] at h
  cases hcrf : cfg.isCrf true index with
  | true =>
      rw [hcrf, if_pos rfl, decide_eq_true_eq] at h
      exact Or.inl h
  | false =>
      rw [hcrf] at h
      simp only [Bool.false_eq_true, if_false, List.any_eq_true, Bool.or_eq_true,
        decide_eq_true_eq] at h
      obtain ⟨listed, hmem, rfl | hupto⟩ := h
      · exact Or.inr (supportedFormats_listed f hmem)
      · exact Or.inr (Or.inl ((supportedFormats_listed listed hmem).sameButUpto hupto))

/-! ### The reservation for each kind of format -/

section

variable {lite : LiteConfig} {stream : AvbTalkerStream}

/-- The two values, once they are computed, are a reservation. -/
theorem reserved_of_eq (hsize : avbComputeTspecMaxFrameSize stream = streamOutMaxLen stream)
    (hframes : avbComputeTspecMaxIntervalFrames lite stream
      = streamOutIntervalFrames stream * if lite.roleEndpointWireless then 2 else 1)
    (hpos : 0 < streamOutMaxLen stream) (hperiod : 0 < streamOutPeriodUs stream)
    (hlens : ∀ n, ∀ len ∈ streamOutLens stream n, len ≤ streamOutMaxLen stream) :
    Reserved lite stream where
  covers := by rw [hsize]; exact hlens
  frameSize_eq := hsize
  keeps_up := by
    have hclass : 0 < classIntervalUs stream := by unfold classIntervalUs; split <;> decide
    have hceil : classIntervalUs stream
        ≤ streamOutIntervalFrames stream * streamOutPeriodUs stream := by
      unfold streamOutIntervalFrames
      have hdiv := Nat.div_add_mod (classIntervalUs stream + streamOutPeriodUs stream - 1)
        (streamOutPeriodUs stream)
      have hmod := Nat.mod_lt (classIntervalUs stream + streamOutPeriodUs stream - 1) hperiod
      rw [Nat.mul_comm]
      omega
    have hone : 1 ≤ if lite.roleEndpointWireless then 2 else 1 := by split <;> decide
    calc classIntervalUs stream
        ≤ streamOutIntervalFrames stream * streamOutPeriodUs stream := hceil
      _ ≤ streamOutIntervalFrames stream * streamOutPeriodUs stream
          * if lite.roleEndpointWireless then 2 else 1 := Nat.le_mul_of_pos_right _ hone
      _ = avbComputeTspecMaxIntervalFrames lite stream * streamOutPeriodUs stream := by
          rw [hframes, Nat.mul_right_comm]
  frames_eq := hframes
  frameSize_pos := hsize ▸ hpos
  frames_pos := by
    have hclass : 0 < classIntervalUs stream := by unfold classIntervalUs; split <;> decide
    have hone : 0 < if lite.roleEndpointWireless then 2 else 1 := by split <;> decide
    rw [hframes]
    apply Nat.mul_pos _ hone
    unfold streamOutIntervalFrames
    exact Nat.div_pos (by omega) hperiod

/-- Only AAF frames are counted against the class. -/
theorem intervalFrames_of_not_aaf (h : formatSubtype stream.streamFormat ≠ avtpSubtypeAaf) :
    avbComputeTspecMaxIntervalFrames lite stream = if lite.roleEndpointWireless then 2 else 1 := by
  rw [avbComputeTspecMaxIntervalFrames]
  dsimp only
  rw [if_neg fun haaf : formatSubtype stream.streamFormat = avtpSubtypeAaf ∧ _ => h haaf.1]
  cases lite.roleEndpointWireless <;> rfl

theorem reserved_crf {rate : Nat} (hfmt : stream.streamFormat = avbCrfFormatForRate rate) :
    Reserved lite stream := by
  have hsubtype : formatSubtype stream.streamFormat = avtpSubtypeCrf := by rw [hfmt]; rfl
  have hmax : streamOutMaxLen stream = avbCrfPduLen := by rw [streamOutMaxLen, if_pos hsubtype]
  have hperiod : streamOutPeriodUs stream = avbCrfPeriodUs := by
    rw [streamOutPeriodUs, if_pos hsubtype]
  apply reserved_of_eq
  · rw [hmax, avbComputeTspecMaxFrameSize, if_pos hsubtype, avbCrfPduLen]
  · have haaf : formatSubtype stream.streamFormat ≠ avtpSubtypeAaf := by rw [hsubtype]; decide
    have hone : streamOutIntervalFrames stream = 1 := by
      rw [streamOutIntervalFrames, hperiod, classIntervalUs]
      cases stream.classB <;> rfl
    rw [intervalFrames_of_not_aaf haaf, hone, Nat.one_mul]
  · rw [hmax]
    decide
  · rw [hperiod]
    decide
  · intro n len hlen
    rw [streamOutLens, if_pos hsubtype] at hlen
    rw [List.eq_of_mem_replicate hlen, hmax]

theorem streamOutMaxLen_audio (h : formatSubtype stream.streamFormat ≠ avtpSubtypeCrf) :
    streamOutMaxLen stream
      = (avbStreamOutParams stream).avtpduLen (avbStreamOutParams stream).sppMax := by
  rw [streamOutMaxLen, if_neg h]

theorem streamOutLens_le (h : formatSubtype stream.streamFormat ≠ avtpSubtypeCrf)
    (hden : 0 < (avbStreamOutParams stream).sppDen) (n : Nat) :
    ∀ len ∈ streamOutLens stream n, len ≤ streamOutMaxLen stream := by
  rw [streamOutLens, if_neg h, streamOutMaxLen_audio h]
  exact avtpduLens_le n hden

theorem reserved_am824 (hlisted : IsListedAm824 cfg stream.streamFormat)
    (hchannels : 0 < cfg.channelsPerStream % 256) : Reserved lite stream := by
  have hsubtype := hlisted.subtype
  have hcrf : formatSubtype stream.streamFormat ≠ avtpSubtypeCrf := by rw [hsubtype]; decide
  have haaf : formatSubtype stream.streamFormat ≠ avtpSubtypeAaf := by rw [hsubtype]; decide
  have hinterval : (avbStreamOutParams stream).interval = classIntervalUs stream := by
    simp only [avbStreamOutParams, haaf, false_and, if_false]
    rfl
  have hclass : classIntervalUs stream = 125 ∨ classIntervalUs stream = 250 := by
    unfold classIntervalUs
    cases stream.classB
    · exact Or.inl rfl
    · exact Or.inr rfl
  have hden : (avbStreamOutParams stream).sppDen = 1000000 / classIntervalUs stream := by
    rw [StreamOutParams.sppDen, hinterval]
  have hdenPos : 4000 ≤ (avbStreamOutParams stream).sppDen := by
    rw [hden]
    rcases hclass with h | h
    · rw [h]
      decide
    · rw [h]
  have hperiod : streamOutPeriodUs stream = classIntervalUs stream := by
    rw [streamOutPeriodUs, if_neg hcrf, hinterval]
  have hrate := cipSfcToSampleRate_range (formatOctet stream.streamFormat 2 % 8)
  generalize hsampleRate : cipSfcToSampleRate (formatOctet stream.streamFormat 2 % 8) = sampleRate
    at hrate
  have hoctet := hlisted.channels
  have hparams : (avbStreamOutParams stream).formatSubtype = avtpSubtype61883 ∧
      (avbStreamOutParams stream).channels = formatOctet stream.streamFormat 3 ∧
      (avbStreamOutParams stream).sampleRate = sampleRate := by
    simp [avbStreamOutParams, hsubtype, hsampleRate]
  have hspp : (sampleRate + (avbStreamOutParams stream).sppDen - 1)
      / (avbStreamOutParams stream).sppDen ≤ 48 := by
    rw [Nat.div_le_iff_le_mul_add_pred (by omega)]
    have := Nat.mul_le_mul_left 48 hdenPos
    omega
  apply reserved_of_eq
  · have hmax : streamOutMaxLen stream = 24 + 8
        + (sampleRate + (avbStreamOutParams stream).sppDen - 1) / (avbStreamOutParams stream).sppDen
          * formatOctet stream.streamFormat 3 * 4 := by
      rw [streamOutMaxLen_audio hcrf, sppMax_eq (by omega), StreamOutParams.avtpduLen, hparams.1,
        hparams.2.1, hparams.2.2, if_pos rfl, txAvtpHdrLen, txCipHdrLen]
    have hsize : avbComputeTspecMaxFrameSize stream = (24 + 8
        + (sampleRate + (avbStreamOutParams stream).sppDen - 1) / (avbStreamOutParams stream).sppDen
          * formatOctet stream.streamFormat 3 * 4) % 65536 := by
      have hrunning : ¬ (formatOctet stream.streamFormat 3 = 0 ∨ sampleRate = 0) := by omega
      simp only [avbComputeTspecMaxFrameSize, hsubtype, beq_self_eq_true, if_true, Bool.true_or,
        Bool.not_true, Bool.false_and, Bool.false_eq_true, if_false, hsampleRate, if_neg hrunning]
      rw [if_neg (by decide), hden]
      rfl
    rw [hsize, hmax]
    apply Nat.mod_eq_of_lt
    have hbytes := Nat.mul_le_mul hspp (show formatOctet stream.streamFormat 3 ≤ 255 by omega)
    omega
  · have hone : streamOutIntervalFrames stream = 1 := by
      rw [streamOutIntervalFrames, hperiod]
      rcases hclass with h | h <;> rw [h]
    rw [intervalFrames_of_not_aaf haaf, hone, Nat.one_mul]
  · rw [streamOutMaxLen_audio hcrf]
    exact Nat.lt_of_lt_of_le (by decide) (Nat.le_add_right_of_le (Nat.le_add_right _ _))
  · rw [hperiod]
    rcases hclass with h | h <;> rw [h] <;> decide
  · exact streamOutLens_le hcrf (by omega)

/-- The interval a cadence is sent at. -/
def cadenceInterval (cadence : Nat × Nat) : Nat :=
  if (cadence.1 + 7999) / 8000 < cadence.2 then 250 else 125

/-- At every cadence of the list the longest packet has the format's samples. -/
theorem cadence_sppMax {cadence : Nat × Nat} (h : cadence ∈ aafCadences) :
    (cadence.1 + 1000000 / cadenceInterval cadence - 1) / (1000000 / cadenceInterval cadence)
      = cadence.2 := by
  revert cadence
  decide

/-- A class interval's frames, counted in samples and in time. -/
theorem cadence_frames {cadence : Nat × Nat} (h : cadence ∈ aafCadences) :
    ∀ classInterval ∈ [125, 250],
      max 1 ((cadence.1 * classInterval / 1000000 + cadence.2 - 1) / cadence.2)
        = (classInterval + cadenceInterval cadence - 1) / cadenceInterval cadence := by
  revert cadence
  decide

theorem reserved_aaf (hlisted : IsListedAaf stream.streamFormat) : Reserved lite stream := by
  have hsubtype := hlisted.subtype
  have hcrf : formatSubtype stream.streamFormat ≠ avtpSubtypeCrf := by rw [hsubtype]; decide
  have ham824 : (formatSubtype stream.streamFormat == avtpSubtype61883) = false := by
    rw [hsubtype]
    decide
  have hcadence := hlisted.cadence
  have hpayload := hlisted.payload_le
  have hchannels := hlisted.channels_pos
  generalize hsampleRate : aafCodeToSampleRate (formatOctet stream.streamFormat 1 % 16) = sampleRate
    at hcadence
  generalize hspf : formatSamplesPerFrame stream.streamFormat = spf at hcadence hpayload
  generalize hchannelsEq : formatOctet stream.streamFormat 4 * 4
    + formatOctet stream.streamFormat 5 / 64 = channels at hchannels hpayload
  have hrange : 44100 ≤ sampleRate ∧ 6 ≤ spf := by
    simp only [aafCadences, List.mem_cons, Prod.mk.injEq, List.not_mem_nil, or_false] at hcadence
    omega
  have hinterval : cadenceInterval (sampleRate, spf) = 125 ∨
      cadenceInterval (sampleRate, spf) = 250 := by
    unfold cadenceInterval
    split
    · exact Or.inr rfl
    · exact Or.inl rfl
  have hparams : avbStreamOutParams stream =
      { formatSubtype := avtpSubtypeAaf, channels, bitDepth := formatOctet stream.streamFormat 3,
        sampleRate, interval := cadenceInterval (sampleRate, spf) } := by
    have hspf0 : spf ≠ 0 := by omega
    have hown : formatSubtype stream.streamFormat = avtpSubtypeAaf ∧ spf ≠ 0 := ⟨hsubtype, hspf0⟩
    simp only [avbStreamOutParams, ham824, Bool.false_eq_true, if_false, hsampleRate, hspf,
      hchannelsEq, if_pos hown, cadenceInterval]
    rw [hsubtype]
  have hden : 0 < (avbStreamOutParams stream).sppDen := by
    rw [hparams]
    rcases hinterval with h | h <;> simp [StreamOutParams.sppDen, h]
  have hmax : streamOutMaxLen stream = 24 + spf * channels * 4 := by
    rw [streamOutMaxLen_audio hcrf, sppMax_eq hden, hparams]
    simp only [StreamOutParams.sppDen, cadence_sppMax hcadence]
    rfl
  have hperiod : streamOutPeriodUs stream = cadenceInterval (sampleRate, spf) := by
    rw [streamOutPeriodUs, if_neg hcrf, hparams]
  apply reserved_of_eq
  · have hbytes : (if (false || formatOctet stream.streamFormat 3 == 24) = true then 4
        else formatOctet stream.streamFormat 3 / 8) = 4 := by
      rcases hlisted.bitDepth with h | h <;> rw [h] <;> rfl
    have hrunning : ¬ (channels = 0 ∨ sampleRate = 0) := by omega
    have hspfPos : (!false && decide (0 < spf)) = true := by simpa using by omega
    simp only [avbComputeTspecMaxFrameSize, ham824, Bool.false_eq_true, if_false, hbytes,
      hsampleRate, hspf, hchannelsEq, if_neg hcrf, if_neg hrunning, hspfPos, if_true, hmax]
    apply Nat.mod_eq_of_lt
    unfold avbAafMaxPayload at hpayload
    omega
  · have hclass : classIntervalUs stream ∈ [125, 250] := by
      unfold classIntervalUs
      cases stream.classB <;> decide
    have hframes := cadence_frames hcadence _ hclass
    have hcounted : formatSubtype stream.streamFormat = avtpSubtypeAaf ∧ sampleRate ≠ 0 ∧ spf ≠ 0 :=
      ⟨hsubtype, by omega, by omega⟩
    rw [streamOutIntervalFrames, hperiod, ← hframes, avbComputeTspecMaxIntervalFrames]
    have hfew : max 1 ((sampleRate * classIntervalUs stream / 1000000 + spf - 1) / spf) ≤ 2 := by
      have hframes' := hframes
      dsimp only at hframes'
      simp only [List.mem_cons, List.not_mem_nil, or_false] at hclass
      rw [hframes']
      rcases hclass with hc | hc <;> rcases hinterval with hi | hi <;> rw [hc, hi] <;> decide
    simp only [hsampleRate, hspf, if_pos hcounted]
    rw [← classIntervalUs]
    generalize max 1 ((sampleRate * classIntervalUs stream / 1000000 + spf - 1) / spf) = frames
      at hfew
    cases lite.roleEndpointWireless
    · exact (Nat.mod_eq_of_lt (by omega : frames < 65536)).trans (Nat.mul_one frames).symm
    · exact Nat.mod_eq_of_lt (by omega : frames * 2 < 65536)
  · rw [hmax]
    omega
  · rw [hperiod]
    rcases hinterval with h | h <;> rw [h] <;> decide
  · exact streamOutLens_le hcrf hden

end

/-- An output stream of the wired talker. -/
def outputWith (fmt : Octets 8) (classB : Bool) : AvbTalkerStream :=
  { AvbTalkerStream.blank (.zero 8) with streamFormat := fmt, classB }

end EspAvb
