import EspAvb.StreamFormat

/-!
# One sample rate

Every listed format is AM824 or AAF, so a supported format asks for the rate it names. From there
each command either answers and changes nothing, or leaves the streams it moves at the entity's rate.
-/

namespace EspAvb

/-! ## Rates of formats -/

/-- AM824 or AAF: the formats that name an audio rate. -/
def IsAudioFormat (f : Octets 8) : Prop :=
  formatSubtype f = avtpSubtype61883 ∨ formatSubtype f = avtpSubtypeAaf

theorem planRates_known (codec : CodecType) {hz : Nat} (h : hz ∈ codec.planRates) :
    hz ∈ [44100, 48000, 88200, 96000, 192000] := by
  cases codec <;> simp only [CodecType.planRates, List.mem_cons, List.not_mem_nil, or_false] at h ⊢ <;> omega

theorem am824Format_rate {hz : Nat} (h : hz ∈ [44100, 48000, 88200, 96000, 192000])
    (channels : Nat) : avbStreamFormatRateHz (am824Format (avbCipSfcFromHz hz) channels) = hz := by
  simp only [List.mem_cons, List.not_mem_nil, or_false] at h
  rcases h with rfl | rfl | rfl | rfl | rfl <;> rfl

theorem aafFormat_rate {hz : Nat} (h : hz ∈ [44100, 48000, 88200, 96000, 192000])
    (bitDepth channels samples : Nat) :
    avbStreamFormatRateHz (aafFormat bitDepth (avbAafRateFromHz hz) channels samples) = hz := by
  simp only [List.mem_cons, List.not_mem_nil, or_false] at h
  rcases h with rfl | rfl | rfl | rfl | rfl <;> rfl

theorem am824Format_audio (sfc channels : Nat) : IsAudioFormat (am824Format sfc channels) :=
  Or.inl rfl

theorem aafFormat_audio (bitDepth rate channels samples : Nat) :
    IsAudioFormat (aafFormat bitDepth rate channels samples) :=
  Or.inr rfl

/-- A list that every appended format keeps audio. -/
def AllAudio (formats : List (Octets 8)) : Prop := ∀ f ∈ formats, IsAudioFormat f

theorem AllAudio.append {formats : List (Octets 8)} {f : Octets 8} (h : AllAudio formats)
    (hf : IsAudioFormat f) : AllAudio (formats ++ [f]) := by
  intro g hg
  rcases List.mem_append.mp hg with hg | hg
  · exact h g hg
  · rw [List.mem_singleton.mp hg]
    exact hf

theorem avbAddAafFormat_audio (bitDepth hz channels samples : Nat) {formats : List (Octets 8)}
    (h : AllAudio formats) : AllAudio (avbAddAafFormat bitDepth hz channels samples formats) := by
  rw [avbAddAafFormat]
  split
  · exact h
  · exact h.append (aafFormat_audio _ _ _ _)

theorem avbAddRateFormats_audio (channels hz : Nat) {formats : List (Octets 8)}
    (h : AllAudio formats) : AllAudio (avbAddRateFormats channels formats hz) := by
  rw [avbAddRateFormats]
  split
  · exact h
  · refine List.foldlRecOn _ _ (h.append (am824Format_audio _ _)) fun formats h shape _ => ?_
    exact avbAddAafFormat_audio _ _ _ _ (avbAddAafFormat_audio _ _ _ _ h)

variable {cfg : AudioConfig}

theorem supportedFormats_audio : AllAudio cfg.supportedFormats :=
  List.foldlRecOn _ _ (fun _ hf => absurd hf List.not_mem_nil)
    fun _ h hz _ => avbAddRateFormats_audio _ hz h

/-- The UT flag is not read by the rate. -/
theorem sameButUpto_audio {requested listed : Octets 8}
    (h : avbAm824SameButUpto requested listed = true) : IsAudioFormat requested := by
  simp only [avbAm824SameButUpto, Bool.and_eq_true, decide_eq_true_eq] at h
  exact Or.inl h.1

theorem formatSupported_audio {isOutput : Bool} {index : UInt16} {rate : Nat} {f : Octets 8}
    (hcrf : cfg.isCrf isOutput index = false)
    (h : cfg.formatSupported isOutput index rate f = true) : IsAudioFormat f := by
  rw [AudioConfig.formatSupported, hcrf] at h
  simp only [Bool.false_eq_true, if_false, List.any_eq_true, Bool.or_eq_true, decide_eq_true_eq] at h
  obtain ⟨listed, hmem, rfl | hupto⟩ := h
  · exact supportedFormats_audio f hmem
  · exact sameButUpto_audio hupto

/-- The rate a supported audio format asks for is the one it names. -/
theorem formatRateHz_eq {isOutput : Bool} {index : UInt16} {rate : Nat} {f : Octets 8}
    (hcrf : cfg.isCrf isOutput index = false)
    (h : cfg.formatSupported isOutput index rate f = true) :
    cfg.formatRateHz isOutput index rate f = avbStreamFormatRateHz f := by
  rw [AudioConfig.formatRateHz, h, hcrf, avbStreamFormatRateHz]
  simp only [Bool.not_false, Bool.and_self, if_true]
  rcases formatSupported_audio hcrf h with hsub | hsub
  · rw [if_pos hsub, if_pos hsub]
  · rw [hsub]
    rfl

theorem familyAtRate_rate {f g : Octets 8} {rate : Nat} (h : cfg.familyAtRate f rate = some g) :
    avbStreamFormatRateHz g = rate := by
  have hfound := List.find?_some h
  simp only [Bool.and_eq_true, decide_eq_true_eq] at hfound
  exact hfound.1

theorem formatAtRate_rate {isOutput : Bool} {index : UInt16} {f g : Octets 8} {rate : Nat}
    (hcrf : cfg.isCrf isOutput index = false) (h : cfg.formatAtRate isOutput index f rate = some g) :
    avbStreamFormatRateHz g = rate := by
  rw [AudioConfig.formatAtRate, hcrf, if_neg (by simp)] at h
  split at h
  · rename_i hsame
    rw [← Option.some.inj h]
    exact hsame
  · exact familyAtRate_rate h

theorem formatAtRate_crf {isOutput : Bool} {index : UInt16} {f g : Octets 8} {rate : Nat}
    (hcrf : cfg.isCrf isOutput index = true) (h : cfg.formatAtRate isOutput index f rate = some g) :
    g = avbCrfFormatForRate rate := by
  rw [AudioConfig.formatAtRate, hcrf, if_pos rfl] at h
  exact (Option.some.inj h).symm

theorem supportedSampleRates_known {hz : Nat} (h : hz ∈ cfg.supportedSampleRates) :
    hz ∈ [44100, 48000, 88200, 96000, 192000] := by
  simp only [AudioConfig.supportedSampleRates, List.mem_filter, decide_eq_true_eq] at h
  exact planRates_known cfg.codec h.2.1

theorem defaultFormat_rate {hz : Nat} (h : hz ∈ cfg.supportedSampleRates) :
    avbStreamFormatRateHz (defaultFormat cfg hz) = hz := by
  have hknown := supportedSampleRates_known h
  rw [defaultFormat]
  split
  · exact am824Format_rate hknown _
  · exact aafFormat_rate hknown _ _ _

/-! ## Formats in a state -/

variable {s s' : EntityState}

theorem formatOf_setFormat (s : EntityState) (key key' : StreamKey) (f : Octets 8) :
    (s.setFormat key f).formatOf key' = if key' = key then f else s.formatOf key' := by
  cases key with
  | input u =>
      cases key' with
      | input u' =>
          simp only [EntityState.setFormat, EntityState.formatOf, EntityState.setInput,
            AcmpState.setStream, Function.update_apply, StreamKey.input.injEq]
          split_ifs <;> rfl
      | output u' => rfl
  | output u =>
      cases key' with
      | input u' => rfl
      | output u' =>
          simp only [EntityState.setFormat, EntityState.formatOf, EntityState.setOutput,
            TalkerState.setStream, Function.update_apply, StreamKey.output.injEq]
          split_ifs <;> rfl

@[simp]
theorem sampleRate_setFormat (s : EntityState) (key : StreamKey) (f : Octets 8) :
    (s.setFormat key f).sampleRate = s.sampleRate := by
  cases key <;> rfl

/-- The rate and every format are as before. -/
structure SameFormats (s s' : EntityState) : Prop where
  rate : s'.sampleRate = s.sampleRate
  format : ∀ key, s'.formatOf key = s.formatOf key

theorem SameFormats.refl (s : EntityState) : SameFormats s s := ⟨rfl, fun _ => rfl⟩

theorem SameFormats.trans {s₁ : EntityState} (h : SameFormats s s₁) (h' : SameFormats s₁ s') :
    SameFormats s s' :=
  ⟨h'.rate.trans h.rate, fun key => (h'.format key).trans (h.format key)⟩

theorem sameFormats_effect (s : EntityState) (e : AecpEffect) : SameFormats s (s.effect e) :=
  ⟨rfl, fun key => by cases key <;> rfl⟩

theorem sameFormats_effectIf (s : EntityState) (c : Bool) (e : AecpEffect) :
    SameFormats s (s.effectIf c e) := by
  cases c with
  | false => exact SameFormats.refl s
  | true => exact sameFormats_effect s e

variable (env : EntityEnv)

theorem sameFormats_respond (s : EntityState) (status : AecpStatus) (value : AemValue) :
    SameFormats s (aecpRespond env s status value) :=
  sameFormats_effectIf s _ _

theorem sameFormats_persistInput (ecfg : EntityConfig) (s : EntityState) (index : UInt16) :
    SameFormats s (persistInput ecfg s index) :=
  ⟨rfl, fun key => by cases key <;> rfl⟩

theorem sameFormats_persistOutput (s : EntityState) (index : UInt16) :
    SameFormats s (persistOutput s index) :=
  ⟨rfl, fun key => by cases key <;> rfl⟩

/-- A stream put back with its own format. -/
theorem sameFormats_setOutput (s : EntityState) (u : Fin avbMaxNumOutputStreams)
    {stream : AvbTalkerStream} (h : stream.streamFormat = (s.talker.outputStreams u).streamFormat) :
    SameFormats s (s.setOutput u stream) := by
  refine ⟨rfl, fun key => ?_⟩
  cases key with
  | input u' => rfl
  | output u' =>
      simp only [EntityState.formatOf, EntityState.setOutput, TalkerState.setStream,
        Function.update_apply]
      split_ifs with hu
      · rw [h, hu]
      · rfl

theorem sameFormats_class (s : EntityState) (u : Fin avbMaxNumOutputStreams) :
    SameFormats s (avbOutputStreamClassFromFormat env s u) := by
  rw [avbOutputStreamClassFromFormat]
  dsimp only
  split
  · exact SameFormats.refl s
  · exact sameFormats_setOutput s u rfl

/-- A talker whose streams keep their formats. -/
theorem sameFormats_talker {talker : TalkerState}
    (h : ∀ u, (talker.outputStreams u).streamFormat = (s.talker.outputStreams u).streamFormat) :
    SameFormats s { s with talker } := by
  refine ⟨rfl, fun key => ?_⟩
  cases key with
  | input u => rfl
  | output u => exact h u

theorem renewId_formats (tenv : TalkerEnv) (t : TalkerState) (u : Fin avbMaxNumOutputStreams)
    (except : Option Nat) (u' : Fin avbMaxNumOutputStreams) :
    ((avbOutputStreamRenewId tenv t u except).outputStreams u').streamFormat =
      (t.outputStreams u').streamFormat := by
  simp only [avbOutputStreamRenewId]
  split
  · rfl
  · split
    · rfl
    · simp only [TalkerState.setStream, TalkerState.effect, Function.update_apply]
      split_ifs with hu
      · rw [hu]
      · rfl

theorem sameFormats_declareNow (ecfg : EntityConfig) (s : EntityState)
    (u : Fin avbMaxNumOutputStreams) : SameFormats s (declareNow ecfg env s u) := by
  refine sameFormats_talker fun u' => ?_
  rw [avbOutputStreamDeclareNow]
  split
  · rfl
  · simp only [avbDeclareOutputStream, TalkerState.effect]
    split
    · exact renewId_formats env.talker s.talker u none u'
    · rfl

/-- A walk over the streams, each turn of which keeps the formats. -/
theorem sameFormats_foldl {α : Type*} {f : EntityState → α → EntityState}
    (h : ∀ s a, SameFormats s (f s a)) (l : List α) (s : EntityState) :
    SameFormats s (l.foldl f s) := by
  induction l generalizing s with
  | nil => exact SameFormats.refl s
  | cons a l ih => exact (h s a).trans (ih (f s a))

theorem sameFormats_declareOutputs (ecfg : EntityConfig) (s : EntityState) :
    SameFormats s (declareOutputs ecfg env s) := by
  refine sameFormats_foldl (fun s u => ?_) _ s
  split
  · exact SameFormats.refl s
  · exact sameFormats_declareNow env ecfg s u

theorem sameFormats_announceRate (ecfg : EntityConfig) (s : EntityState) :
    SameFormats s (announceRate ecfg s) := by
  rw [announceRate]
  refine SameFormats.trans (sameFormats_foldl (fun s u => ?_) _ s)
    (sameFormats_foldl (fun s u => ?_) _ _)
  · split
    · exact SameFormats.refl s
    · exact (sameFormats_effect s _).trans (sameFormats_persistInput ecfg _ _)
  · split
    · exact SameFormats.refl s
    · exact (sameFormats_effect s _).trans (sameFormats_persistOutput _ _)

/-! ## Setting formats -/

theorem StreamKey.mem_all (key : StreamKey) : key ∈ StreamKey.all := by
  cases key with
  | input u => exact List.mem_append_left _ (List.mem_map_of_mem (List.mem_finRange u))
  | output u => exact List.mem_append_right _ (List.mem_map_of_mem (List.mem_finRange u))

theorem StreamKey.nodup_all : StreamKey.all.Nodup := by decide

/-- A walk over any of the streams. -/
theorem foldl_setFormat (given : StreamKey → Option (Octets 8)) (l : List StreamKey)
    (s : EntityState) :
    let s' := l.foldl (fun s key =>
      match given key with
      | some f => s.setFormat key f
      | none => s) s
    s'.sampleRate = s.sampleRate ∧
      ∀ key, s'.formatOf key = if key ∈ l then (given key).getD (s.formatOf key) else s.formatOf key := by
  induction l generalizing s with
  | nil => exact ⟨rfl, fun key => by simp⟩
  | cons key l ih =>
      obtain ⟨hrate, hformat⟩ := ih (match given key with
        | some f => s.setFormat key f
        | none => s)
      refine ⟨hrate.trans ?_, fun key' => (hformat key').trans ?_⟩
      · cases given key with
        | none => rfl
        | some f => exact sampleRate_setFormat s key f
      · by_cases hkey : key' = key
        · subst hkey
          cases hgiven : given key' with
          | none => simp
          | some f => simp [formatOf_setFormat]
        · cases given key with
          | none => simp [hkey]
          | some f => simp [formatOf_setFormat, hkey]

@[simp]
theorem sampleRate_setFormats (s : EntityState) (given : StreamKey → Option (Octets 8)) :
    (s.setFormats given).sampleRate = s.sampleRate :=
  (foldl_setFormat given StreamKey.all s).1

@[simp]
theorem formatOf_setFormats (s : EntityState) (given : StreamKey → Option (Octets 8))
    (key : StreamKey) : (s.setFormats given).formatOf key = (given key).getD (s.formatOf key) := by
  have hformat := (foldl_setFormat given StreamKey.all s).2 key
  rw [if_pos key.mem_all] at hformat
  exact hformat

theorem sameFormats_keepFormats (s s' : EntityState) : SameFormats s (s.keepFormats s') :=
  ⟨by simp [EntityState.keepFormats], fun key => by simp [EntityState.keepFormats]⟩

/-! ## The commands -/

/-- The command is refused: the answer says so, and nothing else happens. -/
def CommandRefused (env : EntityEnv) (s s' : EntityState) : Prop :=
  ∃ status value, status ≠ AecpStatus.success ∧ s' = aecpRespond env s status value

theorem streamFormatRefusal_ne_success {ecfg : EntityConfig} {isOutput running : Bool}
    {index : UInt16} {f : Octets 8} {status : AecpStatus}
    (h : streamFormatRefusal ecfg env s isOutput index running f = some status) :
    status ≠ .success := by
  simp only [streamFormatRefusal] at h
  split_ifs at h <;> simp_all <;> (rw [← h]; decide)

theorem streamFormatRefusal_none {isOutput running : Bool} {index : UInt16} {f : Octets 8}
    (h : streamFormatRefusal cfg.aecp env s isOutput index running f = none) :
    cfg.formatSupported isOutput index s.sampleRate f = true := by
  simp only [streamFormatRefusal] at h
  split_ifs at h with hrun hsupp
  all_goals simpa [AudioConfig.aecp] using hsupp

/-- A stream takes a format the entity supports, and the entity the rate of that format. -/
structure FormatTaken (cfg : AudioConfig) (s s' : EntityState) (key : StreamKey) (f : Octets 8) :
    Prop where
  has : cfg.has key = true
  supported : cfg.formatSupported key.isOutput key.index s.sampleRate f = true
  rate : s'.sampleRate = cfg.formatRateHz key.isOutput key.index s.sampleRate f
  format : ∀ key', s'.formatOf key' = if key' = key then f else s.formatOf key'

theorem FormatTaken.of_same {s₁ : EntityState} {key : StreamKey} {f : Octets 8}
    (h : FormatTaken cfg s s₁ key f) (hsame : SameFormats s₁ s') : FormatTaken cfg s s' key f :=
  ⟨h.has, h.supported, hsame.rate.trans h.rate, fun key' => (hsame.format key').trans (h.format key')⟩

theorem takeFormatRate_sampleRate (ecfg : EntityConfig) (s : EntityState) (isOutput : Bool)
    (index : UInt16) (f : Octets 8) :
    (takeFormatRate ecfg s isOutput index f).sampleRate =
      ecfg.formatRateHz isOutput index s.sampleRate f := by
  rw [takeFormatRate]
  split
  · exact Eq.symm ‹_›
  · rfl

theorem takeFormatRate_formatOf (ecfg : EntityConfig) (s : EntityState) (isOutput : Bool)
    (index : UInt16) (f : Octets 8) (key : StreamKey) :
    (takeFormatRate ecfg s isOutput index f).formatOf key = s.formatOf key := by
  rw [takeFormatRate]
  split
  · rfl
  · cases key <;> rfl

theorem takeFormatRate_listener (ecfg : EntityConfig) (s : EntityState) (isOutput : Bool)
    (index : UInt16) (f : Octets 8) :
    (takeFormatRate ecfg s isOutput index f).listener = s.listener := by
  rw [takeFormatRate]
  split <;> rfl

/-- The rate is taken, and then the format put in. -/
theorem formatTaken_set {key : StreamKey} {f : Octets 8} (hhas : cfg.has key = true)
    (hsupp : cfg.formatSupported key.isOutput key.index s.sampleRate f = true) :
    FormatTaken cfg s
      ((takeFormatRate cfg.aecp s key.isOutput key.index f).setFormat key f) key f := by
  refine ⟨hhas, hsupp, ?_, fun key' => ?_⟩
  · rw [sampleRate_setFormat, takeFormatRate_sampleRate]
    rfl
  · rw [formatOf_setFormat, takeFormatRate_formatOf]

theorem sameFormats_setOutputFormat (ecfg : EntityConfig) (s : EntityState)
    (u : Fin avbMaxNumOutputStreams) (f : Octets 8) :
    SameFormats (s.setFormat (.output u) f) (setOutputFormat ecfg env s u f) := by
  simp only [setOutputFormat]
  have hclass : SameFormats (s.setFormat (.output u) f)
      (if avbOutputFormatClass f ≠ avbOutputFormatClass (s.talker.outputStreams u).streamFormat then
        avbOutputStreamClassFromFormat env (s.setFormat (.output u) f) u
      else s.setFormat (.output u) f) := by
    split
    · exact sameFormats_class env _ u
    · exact SameFormats.refl _
  split
  · exact hclass
  · exact hclass.trans (sameFormats_declareNow env ecfg _ u)

theorem index_of_inputDescriptor {index : UInt16} {u : Fin avbMaxNumInputStreams}
    (h : inputDescriptor cfg.aecp index = some u) :
    cfg.has (.input u) = true ∧ (StreamKey.input u).index = index := by
  simp only [inputDescriptor, inputSlot, Option.filter_eq_some_iff, decide_eq_true_eq] at h
  obtain ⟨hslot, hlt⟩ := h
  split at hslot
  · rw [← Option.some.inj hslot] at hlt ⊢
    exact ⟨decide_eq_true hlt, by simp [StreamKey.index, StreamKey.slot]⟩
  · cases hslot

theorem index_of_talkerUid {index : UInt16} {u : Fin avbMaxNumOutputStreams}
    (h : talkerUid cfg.aecp.talker index = some u) :
    cfg.has (.output u) = true ∧ (StreamKey.output u).index = index := by
  simp only [talkerUid, outputSlot, Option.filter_eq_some_iff, decide_eq_true_eq] at h
  obtain ⟨hslot, hlt⟩ := h
  split at hslot
  · rw [← Option.some.inj hslot] at hlt ⊢
    exact ⟨decide_eq_true hlt, by simp [StreamKey.index, StreamKey.slot]⟩
  · cases hslot

/-- SET_STREAM_FORMAT is all or nothing. -/
theorem setStreamFormat_outcome (s : EntityState) (descriptorType descriptorIndex : UInt16)
    (f : Octets 8) :
    let s' := avbProcessAecpCmdSetStreamFormat cfg.aecp env s descriptorType descriptorIndex f
    CommandRefused env s s' ∨ ∃ key, FormatTaken cfg s s' key f := by
  intro s'
  simp only [s', avbProcessAecpCmdSetStreamFormat]
  have hmissing : CommandRefused env s (aecpRespond env s .noSuchDescriptor (.format f)) :=
    ⟨_, _, by decide, rfl⟩
  split
  · split
    · exact Or.inl hmissing
    · rename_i u hu
      obtain ⟨hhas, hindex⟩ := index_of_talkerUid hu
      split
      · rename_i status hstatus
        exact Or.inl ⟨status, _, streamFormatRefusal_ne_success env hstatus, rfl⟩
      · rename_i hnone
        have hsupp := streamFormatRefusal_none env hnone
        rw [← hindex] at hsupp ⊢
        refine Or.inr ⟨.output u, (formatTaken_set hhas hsupp).of_same ?_⟩
        exact ((sameFormats_setOutputFormat env _ _ u f).trans (sameFormats_respond env _ _ _)).trans
          ((sameFormats_effectIf _ _ _).trans (sameFormats_persistOutput _ _))
  · split
    · split
      · exact Or.inl hmissing
      · rename_i u hu
        obtain ⟨hhas, hindex⟩ := index_of_inputDescriptor hu
        split
        · rename_i status hstatus
          exact Or.inl ⟨status, _, streamFormatRefusal_ne_success env hstatus, rfl⟩
        · rename_i hnone
          have hsupp := streamFormatRefusal_none env hnone
          rw [← hindex] at hsupp ⊢
          refine Or.inr ⟨.input u, (formatTaken_set hhas hsupp).of_same ?_⟩
          rw [← takeFormatRate_listener cfg.aecp s false (StreamKey.input u).index f]
          exact (sameFormats_respond env _ _ _).trans
            ((sameFormats_effectIf _ _ _).trans (sameFormats_persistInput _ _ _))
    · exact Or.inl hmissing

/-- A stream takes its format at the rate, if it has one. -/
def atRate (cfg : AudioConfig) (rate : Nat) (s : EntityState) (key : StreamKey) : Option EntityState :=
  if cfg.has key then
    (cfg.formatAtRate key.isOutput key.index (s.formatOf key) rate).map (s.setFormat key)
  else some s

theorem inputAtRate_eq (rate : Nat) :
    inputAtRate cfg.aecp rate = fun s u => atRate cfg rate s (.input u) := by
  funext s u
  rw [inputAtRate, atRate]
  by_cases hhas : u.val < cfg.aecp.acmp.numInputStreams
  · have hkey : cfg.has (.input u) = true := decide_eq_true hhas
    rw [if_pos hkey, if_neg (Nat.not_le.mpr hhas)]
    rfl
  · have hkey : ¬ cfg.has (.input u) = true := fun h => hhas (of_decide_eq_true h)
    rw [if_neg hkey, if_pos (Nat.not_lt.mp hhas)]

theorem outputAtRate_eq (rate : Nat) :
    outputAtRate cfg.aecp rate = fun s u => atRate cfg rate s (.output u) := by
  funext s u
  rw [outputAtRate, atRate]
  by_cases hhas : u.val < cfg.aecp.talker.numOutputStreams
  · have hkey : cfg.has (.output u) = true := decide_eq_true hhas
    rw [if_pos hkey, if_neg (Nat.not_le.mpr hhas)]
    rfl
  · have hkey : ¬ cfg.has (.output u) = true := fun h => hhas (of_decide_eq_true h)
    rw [if_neg hkey, if_pos (Nat.not_lt.mp hhas)]

theorem streamsAtRate_eq (s : EntityState) (rate : Nat) :
    streamsAtRate cfg.aecp s rate = StreamKey.all.foldlM (atRate cfg rate) s := by
  rw [streamsAtRate, inputAtRate_eq, outputAtRate_eq, StreamKey.all, List.foldlM_append,
    List.foldlM_map]
  simp only [List.foldlM_map]
  rfl

/-- The streams of a list have moved to the rate, and the others stand. -/
structure MovedToRate (cfg : AudioConfig) (rate : Nat) (l : List StreamKey) (s s' : EntityState) :
    Prop where
  rate_eq : s'.sampleRate = s.sampleRate
  moved : ∀ key ∈ l, cfg.has key = true →
    cfg.formatAtRate key.isOutput key.index (s.formatOf key) rate = some (s'.formatOf key)
  stood : ∀ key, ¬ (key ∈ l ∧ cfg.has key = true) → s'.formatOf key = s.formatOf key

theorem atRate_moved {rate : Nat} {key : StreamKey} (h : atRate cfg rate s key = some s') :
    MovedToRate cfg rate [key] s s' := by
  rw [atRate] at h
  split at h
  · rename_i hhas
    obtain ⟨f, hf, rfl⟩ := Option.map_eq_some_iff.mp h
    refine ⟨sampleRate_setFormat s key f, fun key' hmem _ => ?_, fun key' hkey => ?_⟩
    · rw [List.mem_singleton.mp hmem, hf, formatOf_setFormat, if_pos rfl]
    · rw [formatOf_setFormat, if_neg]
      rintro rfl
      exact hkey ⟨List.mem_singleton_self key', hhas⟩
  · rename_i hhas
    rw [← Option.some.inj h]
    refine ⟨rfl, fun key' hmem hhas' => ?_, fun _ _ => rfl⟩
    rw [List.mem_singleton.mp hmem] at hhas'
    exact absurd hhas' hhas

/-- The walk over distinct streams. -/
theorem foldlM_atRate {rate : Nat} {l : List StreamKey} (hnodup : l.Nodup)
    (h : l.foldlM (atRate cfg rate) s = some s') : MovedToRate cfg rate l s s' := by
  induction l generalizing s with
  | nil =>
      rw [← Option.some.inj h]
      exact ⟨rfl, fun _ hmem => absurd hmem List.not_mem_nil, fun _ _ => rfl⟩
  | cons key l ih =>
      obtain ⟨hnew, hnodup⟩ := List.nodup_cons.mp hnodup
      rw [List.foldlM_cons] at h
      obtain ⟨s₁, hfirst, hrest⟩ := Option.bind_eq_some_iff.mp h
      have hone := atRate_moved hfirst
      have htail := ih hnodup hrest
      refine ⟨htail.rate_eq.trans hone.rate_eq, fun key' hmem hhas => ?_, fun key' hkey => ?_⟩
      · rcases List.mem_cons.mp hmem with rfl | hmem
        · rw [htail.stood key' (fun hin => hnew hin.1)]
          exact hone.moved key' (List.mem_singleton_self key') hhas
        · have hne : key' ≠ key := fun heq => hnew (heq ▸ hmem)
          rw [← hone.stood key' (fun hin => hne (List.mem_singleton.mp hin.1))]
          exact htail.moved key' hmem hhas
      · rw [htail.stood key' (fun hin => hkey ⟨List.mem_cons_of_mem key hin.1, hin.2⟩)]
        refine hone.stood key' fun hin => hkey ⟨?_, hin.2⟩
        rw [List.mem_singleton.mp hin.1]
        exact List.mem_cons_self

/-- Every stream has taken its format at the rate, and the entity the rate. -/
structure RateTaken (cfg : AudioConfig) (s s' : EntityState) (rate : Nat) : Prop where
  rate_eq : s'.sampleRate = rate
  format : ∀ key, cfg.has key = true →
    cfg.formatAtRate key.isOutput key.index (s.formatOf key) rate = some (s'.formatOf key)

/-- SAMPLING_RATE is all or nothing: where one stream has no format at the rate, nothing moves. -/
theorem samplingRate_outcome (s : EntityState) (isSet : Bool)
    (descriptorType descriptorIndex : UInt16) (rate : Nat) :
    let s' := avbProcessAecpCmdSamplingRate cfg.aecp env s isSet descriptorType descriptorIndex rate
    CommandRefused env s s' ∨
      ((isSet = false ∨ rate = s.sampleRate) ∧
        s' = aecpRespond env s .success (.number s.sampleRate)) ∨
      RateTaken cfg s s' rate := by
  intro s'
  have hrefused : ∀ status value, status ≠ AecpStatus.success →
      CommandRefused env s (aecpRespond env s status value) := fun status value h =>
    ⟨status, value, h, rfl⟩
  simp only [s', avbProcessAecpCmdSamplingRate]
  split
  · exact Or.inl (hrefused _ _ (by decide))
  split
  · rename_i hsame
    simp only [Bool.or_eq_true, Bool.not_eq_eq_eq_not, Bool.not_true, beq_iff_eq] at hsame
    exact Or.inr (Or.inl ⟨hsame, rfl⟩)
  split
  · exact Or.inl (hrefused _ _ (by decide))
  split
  · exact Or.inl (hrefused _ _ (by decide))
  split
  · exact Or.inl (hrefused _ _ (by decide))
  · rename_i moved hmoved
    split
    · exact Or.inl (hrefused _ _ (by decide))
    · rw [streamsAtRate_eq] at hmoved
      have hwalk := foldlM_atRate StreamKey.nodup_all hmoved
      have hsame : SameFormats (EntityState.effect { moved with sampleRate := rate } .saveRate)
          (announceRate cfg.aecp ((aecpRespond env (declareOutputs cfg.aecp env
            (EntityState.effect { moved with sampleRate := rate } .saveRate)) .success
              (.number rate)).effect .unsolNotify)) :=
        ((sameFormats_declareOutputs env _ _).trans (sameFormats_respond env _ _ _)).trans
          ((sameFormats_effect _ _).trans (sameFormats_announceRate _ _))
      refine Or.inr (Or.inr ⟨hsame.rate, fun key hhas => ?_⟩)
      rw [hsame.format key, hwalk.moved key key.mem_all hhas]
      cases key <;> rfl

/-! ## Boot -/

/-- Every CRF stream has the one CRF format. -/
def CrfFixed (cfg : AudioConfig) (s : EntityState) : Prop :=
  ∀ key, cfg.has key = true → cfg.isCrf key.isOutput key.index = true →
    s.formatOf key = avbCrfFormatForRate s.sampleRate

/-- Every audio stream's format names the entity's rate. -/
def AtRate (cfg : AudioConfig) (s : EntityState) : Prop :=
  ∀ key, cfg.audio key = true → avbStreamFormatRateHz (s.formatOf key) = s.sampleRate

theorem audio_iff (key : StreamKey) :
    cfg.audio key = true ↔ cfg.has key = true ∧ cfg.isCrf key.isOutput key.index = false := by
  simp [AudioConfig.audio]

theorem SameFormats.crfFixed (h : SameFormats s s') (hs : CrfFixed cfg s) : CrfFixed cfg s' := by
  intro key hhas hcrf
  rw [h.format key, hs key hhas hcrf]
  rfl

theorem SameFormats.atRate (h : SameFormats s s') (hs : AtRate cfg s) : AtRate cfg s' := by
  intro key haudio
  rw [h.format key, h.rate]
  exact hs key haudio

theorem initialRate_mem {first : Nat} (h : cfg.supportedSampleRates.head? = some first) :
    initialRate cfg first ∈ cfg.supportedSampleRates := by
  rw [initialRate]
  split
  · assumption
  · exact List.mem_of_head? h

theorem avbInitializeFormats_spec (h : avbInitializeFormats cfg s = some s') :
    CrfFixed cfg s' ∧ AtRate cfg s' := by
  obtain ⟨first, hfirst, rfl⟩ := Option.map_eq_some_iff.mp h
  refine ⟨fun key hhas hcrf => ?_, fun key haudio => ?_⟩
  · rw [formatOf_setFormats, initialFormat, hhas, hcrf]
    rfl
  · obtain ⟨hhas, hcrf⟩ := (audio_iff key).mp haudio
    rw [formatOf_setFormats, sampleRate_setFormats, initialFormat, hhas, hcrf]
    exact defaultFormat_rate (initialRate_mem hfirst)

theorem normalize_crf {rate : Nat} {key : StreamKey} {f g : Octets 8}
    (hcrf : cfg.isCrf key.isOutput key.index = true)
    (h : avbPersistNormalize cfg rate key f = some g) : g = avbCrfFormatForRate rate := by
  rw [avbPersistNormalize] at h
  split at h
  · cases h
  · rename_i husable
    rw [← Option.some.inj h]
    simp only [Bool.or_eq_true, decide_eq_true_eq, Bool.not_eq_eq_eq_not, Bool.not_true, not_or,
      Bool.not_eq_false] at husable
    have hsupp := husable.2
    rw [AudioConfig.formatSupported, hcrf] at hsupp
    exact of_decide_eq_true hsupp

theorem normalize_rate {rate : Nat} {key : StreamKey} {f g : Octets 8}
    (henum : rateEnumerable cfg rate = true) (hcrf : cfg.isCrf key.isOutput key.index = false)
    (h : avbPersistNormalize cfg rate key f = some g) : avbStreamFormatRateHz g = rate := by
  rw [avbPersistNormalize] at h
  split at h
  · cases h
  · rw [hcrf, if_neg (by simp)] at h
    split at h
    · rename_i hsame
      rw [← Option.some.inj h]
      exact hsame
    · split at h
      · rename_i candidate hfamily
        rw [← Option.some.inj h]
        exact familyAtRate_rate hfamily
      · cases h

theorem sampleRate_avbPersistApply (s : EntityState) (record : StreamKey → Octets 8) :
    (avbPersistApply cfg s record).sampleRate = s.sampleRate :=
  sampleRate_setFormats s _

theorem sampleRate_applyAll (records : List (StreamKey → Octets 8)) (s : EntityState) :
    (records.foldl (avbPersistApply cfg) s).sampleRate = s.sampleRate := by
  induction records generalizing s with
  | nil => rfl
  | cons record records ih => rw [List.foldl_cons, ih, sampleRate_avbPersistApply]

theorem avbPersistApply_crf (record : StreamKey → Octets 8) (h : CrfFixed cfg s) :
    CrfFixed cfg (avbPersistApply cfg s record) := by
  intro key hhas hcrf
  rw [avbPersistApply, formatOf_setFormats]
  cases hnorm : avbPersistNormalize cfg s.sampleRate key (record key) with
  | none => exact h key hhas hcrf
  | some f => exact (normalize_crf hcrf hnorm).trans rfl

/-- After its records, an audio stream is at the rate where it was before or where one of them is
usable. -/
theorem applyAll_rate {key : StreamKey} (hcrf : cfg.isCrf key.isOutput key.index = false)
    (records : List (StreamKey → Octets 8)) (s : EntityState)
    (henum : rateEnumerable cfg s.sampleRate = true)
    (h : avbStreamFormatRateHz (s.formatOf key) = s.sampleRate ∨ ∃ record ∈ records,
      (avbPersistNormalize cfg s.sampleRate key (record key)).isSome = true) :
    avbStreamFormatRateHz ((records.foldl (avbPersistApply cfg) s).formatOf key) = s.sampleRate := by
  induction records generalizing s with
  | nil =>
      rcases h with h | ⟨record, hmem, -⟩
      · exact h
      · exact absurd hmem List.not_mem_nil
  | cons record records ih =>
      have hrate := @sampleRate_avbPersistApply cfg s record
      rw [List.foldl_cons, ← hrate]
      refine ih _ (by rw [hrate]; exact henum) ?_
      rw [hrate]
      cases hnorm : avbPersistNormalize cfg s.sampleRate key (record key) with
      | some f =>
          have hformat : (avbPersistApply cfg s record).formatOf key = f := by
            rw [avbPersistApply, formatOf_setFormats, hnorm]
            rfl
          rw [hformat]
          exact Or.inl (normalize_rate henum hcrf hnorm)
      | none =>
          have hformat : (avbPersistApply cfg s record).formatOf key = s.formatOf key := by
            rw [avbPersistApply, formatOf_setFormats, hnorm]
            rfl
          rw [hformat]
          rcases h with h | ⟨usable, hmem, hsome⟩
          · exact Or.inl h
          · rcases List.mem_cons.mp hmem with rfl | hmem
            · rw [hnorm] at hsome
              exact absurd hsome (by simp)
            · exact Or.inr ⟨usable, hmem, hsome⟩

theorem restoreRate_format (store : AudioStore) (s : EntityState) (key : StreamKey) :
    (avbPersistRestoreRate cfg store s).formatOf key = s.formatOf key := by
  rw [avbPersistRestoreRate]
  split
  · rfl
  · split
    · cases key <;> rfl
    · rfl

theorem avbPersistLoad_crf (store : AudioStore) (h : CrfFixed cfg s) :
    CrfFixed cfg (avbPersistLoadFormats cfg store s) := by
  refine List.foldlRecOn _ _ (fun key hhas hcrf => ?_) fun s h record _ => avbPersistApply_crf record h
  rw [restoreRate_format, h key hhas hcrf]
  rfl

theorem avbPersistLoad_rate (store : AudioStore) (h : AtRate cfg s)
    (hserves : store.Serves cfg s (avbPersistLoadFormats cfg store s)) :
    AtRate cfg (avbPersistLoadFormats cfg store s) := by
  intro key haudio
  obtain ⟨hhas, hcrf⟩ := (audio_iff key).mp haudio
  obtain ⟨henum, hsame⟩ := hserves
  simp only [avbPersistLoadFormats, sampleRate_applyAll] at henum hsame ⊢
  refine applyAll_rate hcrf store.records _ henum ?_
  rw [restoreRate_format]
  rcases hsame with hsame | husable
  · rw [hsame]
    exact Or.inl (h key haudio)
  · exact Or.inr (husable key haudio)

/-! ## Runs -/

theorem audioStep_crf (e : AudioEvent) (h : CrfFixed cfg s) : CrfFixed cfg (audioStep cfg s e) := by
  cases e with
  | setStreamFormat env descriptorType descriptorIndex f =>
      rcases @setStreamFormat_outcome cfg env s descriptorType descriptorIndex f with
        ⟨status, value, -, heq⟩ | ⟨key, htaken⟩
      · rw [audioStep, heq]
        exact (sameFormats_respond env s status value).crfFixed h
      · intro key' hhas hcrf
        rw [audioStep, htaken.format key']
        split
        · rename_i hkey
          subst hkey
          have hsupp := htaken.supported
          rw [AudioConfig.formatSupported, hcrf] at hsupp
          exact of_decide_eq_true hsupp
        · exact h key' hhas hcrf
  | samplingRate env isSet descriptorType descriptorIndex rate =>
      rcases @samplingRate_outcome cfg env s isSet descriptorType descriptorIndex rate with
        ⟨status, value, -, heq⟩ | ⟨-, heq⟩ | htaken
      · rw [audioStep, heq]
        exact (sameFormats_respond env s status value).crfFixed h
      · rw [audioStep, heq]
        exact (sameFormats_respond env s _ _).crfFixed h
      · intro key hhas hcrf
        exact (formatAtRate_crf hcrf (htaken.format key hhas)).trans rfl
  | other s' => exact (sameFormats_keepFormats s s').crfFixed h

theorem audioStep_rate (e : AudioEvent) (hkeeps : ¬ setsAnotherRate cfg s e) (h : AtRate cfg s) :
    AtRate cfg (audioStep cfg s e) := by
  cases e with
  | setStreamFormat env descriptorType descriptorIndex f =>
      rcases @setStreamFormat_outcome cfg env s descriptorType descriptorIndex f with
        ⟨status, value, -, heq⟩ | ⟨key, htaken⟩
      · rw [audioStep, heq]
        exact (sameFormats_respond env s status value).atRate h
      · have hrate := not_not.mp hkeeps
        intro key' haudio
        rw [audioStep, htaken.format key']
        split
        · rename_i hkey
          subst hkey
          rw [htaken.rate]
          exact (formatRateHz_eq ((audio_iff key').mp haudio).2 htaken.supported).symm
        · rw [audioStep] at hrate
          rw [hrate]
          exact h key' haudio
  | samplingRate env isSet descriptorType descriptorIndex rate =>
      rcases @samplingRate_outcome cfg env s isSet descriptorType descriptorIndex rate with
        ⟨status, value, -, heq⟩ | ⟨-, heq⟩ | htaken
      · rw [audioStep, heq]
        exact (sameFormats_respond env s status value).atRate h
      · rw [audioStep, heq]
        exact (sameFormats_respond env s _ _).atRate h
      · intro key haudio
        obtain ⟨hhas, hcrf⟩ := (audio_iff key).mp haudio
        rw [audioStep, htaken.rate_eq]
        exact formatAtRate_rate hcrf (htaken.format key hhas)
  | other s' => exact (sameFormats_keepFormats s s').atRate h

/-- From any boot, over any run of the two commands and of whatever else leaves formats and rate
alone: the CRF streams have the one CRF format; every audio stream is at the entity's rate as long
as the store served the rate it restored and no SET_STREAM_FORMAT has set another; a refused command
changes nothing; and a SET_SAMPLING_RATE moves every stream, or changes nothing. -/
theorem one_sample_rate (cfg : AudioConfig) (store : AudioStore) (s built : EntityState)
    (hbuilt : avbInitializeFormats cfg s = some built) (events : List AudioEvent) :
    let booted := avbPersistLoadFormats cfg store built
    let st := Machine.run (audioStep cfg) booted events
    (∀ key, cfg.has key = true → cfg.isCrf key.isOutput key.index = true →
      st.formatOf key = avbCrfFormatForRate st.sampleRate) ∧
    (store.Serves cfg built booted →
      Machine.RunMeets (fun s e => ¬ setsAnotherRate cfg s e) (audioStep cfg) booted events →
      ∀ key, cfg.audio key = true → avbStreamFormatRateHz (st.formatOf key) = st.sampleRate) ∧
    (∀ env descriptorType descriptorIndex f,
      let st' := audioStep cfg st (.setStreamFormat env descriptorType descriptorIndex f)
      CommandRefused env st st' ∨ ∃ key, FormatTaken cfg st st' key f) ∧
    (∀ env isSet descriptorType descriptorIndex rate,
      let st' := audioStep cfg st (.samplingRate env isSet descriptorType descriptorIndex rate)
      CommandRefused env st st' ∨
        ((isSet = false ∨ rate = st.sampleRate) ∧
          st' = aecpRespond env st .success (.number st.sampleRate)) ∨
        RateTaken cfg st st' rate) := by
  intro booted st
  obtain ⟨hcrf, hrate⟩ := avbInitializeFormats_spec hbuilt
  refine ⟨?_, fun hserves hmeets => ?_, fun env dt di f => ?_, fun env isSet dt di rate => ?_⟩
  · exact Machine.run_invariant (CrfFixed cfg) (fun _ e h => audioStep_crf e h)
      (avbPersistLoad_crf store hcrf) events
  · exact hmeets.invariant (AtRate cfg) (fun _ e hkeeps h => audioStep_rate e hkeeps h)
      (avbPersistLoad_rate store hrate hserves)
  · exact setStreamFormat_outcome env st dt di f
  · exact samplingRate_outcome env st isSet dt di rate

def audioOut : StreamKey := .output ⟨0, Nat.two_pos⟩

def crfIn : StreamKey := .input ⟨1, by decide⟩

/-- Boot with nothing saved, and a SET_SAMPLING_RATE and a SET_STREAM_FORMAT that stay at 96 kHz. -/
theorem one_sample_rate_96k : ∃ built, avbInitializeFormats wiredAudio .blank = some built ∧
    let booted := avbPersistLoadFormats wiredAudio .empty built
    let st := Machine.run (audioStep wiredAudio) booted
      [.samplingRate (.at 0) true aemDescTypeAudioUnit 0 96000,
        .setStreamFormat (.at 0) aemDescTypeStreamOutput 0 (am824Format 4 8)]
    wiredAudio.audio audioOut = true ∧ st.sampleRate = 96000 ∧
      st.formatOf audioOut = am824Format 4 8 ∧
      avbStreamFormatRateHz (st.formatOf audioOut) = st.sampleRate := by
  refine ⟨_, rfl, by decide +kernel, by decide +kernel, by decide +kernel, ?_⟩
  have h := one_sample_rate wiredAudio .empty .blank _ rfl
    [.samplingRate (.at 0) true aemDescTypeAudioUnit 0 96000,
      .setStreamFormat (.at 0) aemDescTypeStreamOutput 0 (am824Format 4 8)]
  exact h.2.1 ⟨by decide +kernel, Or.inl (by decide +kernel)⟩
    ⟨fun hf => hf, fun hne => hne (by decide +kernel), trivial⟩ _ (by decide +kernel)

/-- The CRF input keeps its 48 kHz while the entity runs at 96 kHz. -/
theorem one_sample_rate_crf : ∃ built, avbInitializeFormats wiredAudio .blank = some built ∧
    let booted := avbPersistLoadFormats wiredAudio .empty built
    let st := Machine.run (audioStep wiredAudio) booted
      [.samplingRate (.at 0) true aemDescTypeAudioUnit 0 96000]
    wiredAudio.has crfIn = true ∧ wiredAudio.isCrf false 1 = true ∧ st.sampleRate = 96000 ∧
      crfBaseFrequency (st.formatOf crfIn) = 48000 :=
  ⟨_, rfl, by decide +kernel, by decide +kernel, by decide +kernel, by decide +kernel⟩

end EspAvb
