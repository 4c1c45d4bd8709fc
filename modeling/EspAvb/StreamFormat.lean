import EspAvb.Aecp
import EspAvb.LiteTransport

/-!
# Stream formats and the sample rate

The entity has one operating sample rate, and each of its streams a format that names a rate. Boot
builds the lists of formats from the rates of the codec (`avb.c`), and the store may put the entity
back on another rate. The two commands that change formats are the AECP model's, with the parameters
for formats filled in here.
-/

namespace EspAvb

/-! ## Rates and their codes -/

def avbCipSfcFromHz : Nat → Nat
  | 32000 => 0
  | 44100 => 1
  | 48000 => 2
  | 88200 => 3
  | 96000 => 4
  | 176400 => 5
  | 192000 => 6
  | _ => 2

def avbAafRateFromHz : Nat → Nat
  | 8000 => 1
  | 16000 => 2
  | 24000 => 10
  | 32000 => 3
  | 44100 => 4
  | 48000 => 5
  | 88200 => 6
  | 96000 => 7
  | 176400 => 8
  | 192000 => 9
  | _ => 5

def avbSamplesPerFrameFromHz : Nat → Nat
  | 88200 => 12
  | 96000 => 12
  | 176400 => 24
  | 192000 => 24
  | _ => 6

/-- Class B's own cadence, zero outside the 48 kHz family. -/
def avbClassBSamplesPerFrame : Nat → Nat
  | 48000 => 12
  | 96000 => 24
  | 192000 => 48
  | _ => 0

/-! ## Formats -/

/-- `AVB_DEFAULT_FORMAT_AM824` -/
def am824Format (sfc channels : Nat) : Octets 8 :=
  ⟨[0, 0xa0, UInt8.ofNat (sfc % 8), UInt8.ofNat channels, 0x40, 0, UInt8.ofNat channels, 0], rfl⟩

/-- `AVB_DEFAULT_FORMAT_AAF`, with the samples of a frame written in. -/
def aafFormat (bitDepth rate channels samplesPerFrame : Nat) : Octets 8 :=
  ⟨[2, UInt8.ofNat (rate % 16), 0x02, UInt8.ofNat bitDepth, UInt8.ofNat (channels / 4),
    UInt8.ofNat (samplesPerFrame / 16 % 64 + channels % 4 * 64),
    UInt8.ofNat (samplesPerFrame % 16 * 16), 0], rfl⟩

/-- `avb_crf_format_for_rate`. The rate is ignored: the media clock is the 48 kHz one at 500
timestamps a second, whatever the audio runs at. -/
def avbCrfFormatForRate (_rate : Nat) : Octets 8 :=
  ⟨[0x04, 0x10, 0x60, 0x01, 0x00, 0x00, 0xbb, 0x80], rfl⟩

/-- The base frequency of a CRF format, in Hz. -/
def crfBaseFrequency (f : Octets 8) : Nat :=
  formatOctet f 4 % 32 * 2 ^ 24 + formatOctet f 5 * 2 ^ 16 + formatOctet f 6 * 2 ^ 8 + formatOctet f 7

/-- Zero for a format that is neither AM824 nor AAF. -/
def avbStreamFormatRateHz (f : Octets 8) : Nat :=
  if formatSubtype f = avtpSubtype61883 then cipSfcToSampleRate (formatOctet f 2 % 8)
  else if formatSubtype f = avtpSubtypeAaf then aafCodeToSampleRate (formatOctet f 1 % 16)
  else 0

/-- Octet `i` without the UT flag of an AM824 format. -/
def octetButUpto (f : Octets 8) (i : Nat) : Nat :=
  if i = 4 then formatOctet f 4 - formatOctet f 4 / 32 % 2 * 32 else formatOctet f i

/-- The two are AM824 and differ only in the UT flag. -/
def avbAm824SameButUpto (requested listed : Octets 8) : Bool :=
  formatSubtype requested = avtpSubtype61883 &&
    (List.range 8).all fun i => octetButUpto requested i = octetButUpto listed i

def classBCadence (f : Octets 8) : Bool :=
  formatSamplesPerFrame f = avbClassBSamplesPerFrame (aafCodeToSampleRate (formatOctet f 1 % 16))

/-- Two formats of one family differ only in rate. -/
def avbStreamFormatsSameFamily (one other : Octets 8) : Bool :=
  if formatSubtype one ≠ formatSubtype other then false
  else if formatSubtype one = avtpSubtype61883 then formatOctet one 3 = formatOctet other 3
  else if formatSubtype one ≠ avtpSubtypeAaf then false
  else
    formatOctet one 2 = formatOctet other 2 && formatOctet one 3 = formatOctet other 3 &&
      formatOctet one 4 = formatOctet other 4 &&
      formatOctet one 5 / 64 = formatOctet other 5 / 64 && classBCadence one = classBCadence other

def aemMaxNumFormats : Nat := 35
def avbAafMaxPayload : Nat := 1500 - 24

/-- `avb_add_aaf_format` -/
def avbAddAafFormat (bitDepth hz channels samplesPerFrame : Nat) (formats : List (Octets 8)) :
    List (Octets 8) :=
  if samplesPerFrame = 0 ∨ aemMaxNumFormats ≤ formats.length ∨
      avbAafMaxPayload < samplesPerFrame * channels * 4 then formats
  else formats ++ [aafFormat bitDepth (avbAafRateFromHz hz) channels samplesPerFrame]

/-- What one rate adds to the list: AM824, and AAF at each channel count and cadence, 32-bit and
24-in-32. -/
def avbAddRateFormats (channelsPerStream : Nat) (formats : List (Octets 8)) (hz : Nat) :
    List (Octets 8) :=
  if aemMaxNumFormats ≤ formats.length then formats
  else
    let channelCounts := [channelsPerStream, if 2 < channelsPerStream then 2 else 0].filter (· ≠ 0)
    let cadences := [avbSamplesPerFrameFromHz hz, avbClassBSamplesPerFrame hz]
    let shapes := channelCounts.flatMap fun channels => cadences.map fun cadence => (channels, cadence)
    shapes.foldl (fun formats shape =>
        avbAddAafFormat 24 hz shape.1 shape.2 (avbAddAafFormat 32 hz shape.1 shape.2 formats))
      (formats ++ [am824Format (avbCipSfcFromHz hz) channelsPerStream])

def avbBuildAudioFormats (sampleRates : List Nat) (channelsPerStream : Nat) : List (Octets 8) :=
  sampleRates.foldl (avbAddRateFormats channelsPerStream) []

/-! ## The entity's formats -/

inductive CodecType where
  | es8311 | es8388 | es8389
  deriving DecidableEq, Repr

/-- The rates of the codec's clock plan. -/
def CodecType.planRates : CodecType → List Nat
  | .es8311 => [48000, 96000]
  | .es8388 => [48000, 96000]
  | .es8389 => [44100, 48000, 88200, 96000, 192000]

/-- The audio part of the configuration, with the media of port 0. `runnable` says which rates of the
clock plan the chip runs. -/
structure AudioConfig where
  entity : EntityConfig
  wifi : Bool
  am824Default : Bool
  channelsPerStream : Nat
  allowedSampleRates : List Nat
  codec : CodecType
  runnable : Nat → Bool
  defaultSampleRate : Nat

namespace AudioConfig

variable (cfg : AudioConfig)

/-- The codec's rates that the configuration allows, in the configuration's order. -/
def supportedSampleRates : List Nat :=
  cfg.allowedSampleRates.filter fun hz => hz ∈ cfg.codec.planRates ∧ cfg.runnable hz

/-- `supported_formats_in` and `supported_formats_out`, built alike. -/
def supportedFormats : List (Octets 8) :=
  avbBuildAudioFormats cfg.supportedSampleRates cfg.channelsPerStream

def avbGetCrfOutputIndex : UInt16 := 1

def isCrf (isOutput : Bool) (index : UInt16) : Bool :=
  index = if isOutput then avbGetCrfOutputIndex else avbGetCrfInputIndex cfg.entity

/-- `format_supported` of SET_STREAM_FORMAT. -/
def formatSupported (isOutput : Bool) (index : UInt16) (rate : Nat) (f : Octets 8) : Bool :=
  if cfg.isCrf isOutput index then f = avbCrfFormatForRate rate
  else cfg.supportedFormats.any fun listed => f = listed || avbAm824SameButUpto f listed

/-- `new_rate` of SET_STREAM_FORMAT. -/
def formatRateHz (isOutput : Bool) (index : UInt16) (rate : Nat) (f : Octets 8) : Nat :=
  if cfg.formatSupported isOutput index rate f && !cfg.isCrf isOutput index then
    if formatSubtype f = avtpSubtype61883 then cipSfcToSampleRate (formatOctet f 2 % 8)
    else aafCodeToSampleRate (formatOctet f 1 % 16)
  else rate

/-- The first listed format of the family at the rate. -/
def familyAtRate (f : Octets 8) (rate : Nat) : Option (Octets 8) :=
  cfg.supportedFormats.find? fun candidate =>
    avbStreamFormatRateHz candidate = rate && avbStreamFormatsSameFamily f candidate

/-- `avb_stream_format_at_rate` -/
def formatAtRate (isOutput : Bool) (index : UInt16) (f : Octets 8) (rate : Nat) : Option (Octets 8) :=
  if cfg.isCrf isOutput index then some (avbCrfFormatForRate rate)
  else if avbStreamFormatRateHz f = rate then some f
  else cfg.familyAtRate f rate

/-- The commands' configuration. -/
def aecp : EntityConfig :=
  { cfg.entity with
    supportedSampleRates := cfg.supportedSampleRates
    formatSupported := cfg.formatSupported
    formatRateHz := cfg.formatRateHz
    formatAtRate := cfg.formatAtRate }

def numStreams (isOutput : Bool) : Nat :=
  if isOutput then cfg.entity.talker.numOutputStreams else cfg.entity.acmp.numInputStreams

end AudioConfig

/-- A stream of the entity. -/
inductive StreamKey where
  | input (u : Fin avbMaxNumInputStreams)
  | output (u : Fin avbMaxNumOutputStreams)
  deriving DecidableEq, Repr

namespace StreamKey

def isOutput : StreamKey → Bool
  | input _ => false
  | output _ => true

def slot : StreamKey → Nat
  | input u => u.val
  | output u => u.val

def index (key : StreamKey) : UInt16 := UInt16.ofNat key.slot

def all : List StreamKey :=
  (List.finRange avbMaxNumInputStreams).map input ++ (List.finRange avbMaxNumOutputStreams).map output

end StreamKey

namespace EntityState

def formatOf (s : EntityState) : StreamKey → Octets 8
  | .input u => (s.listener.inputStreams u).streamFormat
  | .output u => (s.talker.outputStreams u).streamFormat

def setFormat (s : EntityState) (key : StreamKey) (f : Octets 8) : EntityState :=
  match key with
  | .input u => s.setInput u { s.listener.inputStreams u with streamFormat := f }
  | .output u => s.setOutput u { s.talker.outputStreams u with streamFormat := f }

/-- Each stream takes the format it is given, if it is given one. -/
def setFormats (s : EntityState) (given : StreamKey → Option (Octets 8)) : EntityState :=
  StreamKey.all.foldl (fun s key =>
    match given key with
    | some f => s.setFormat key f
    | none => s) s

end EntityState

variable (cfg : AudioConfig)

def AudioConfig.has (key : StreamKey) : Bool := key.slot < cfg.numStreams key.isOutput

/-- An audio stream of the entity. -/
def AudioConfig.audio (key : StreamKey) : Bool :=
  cfg.has key && !cfg.isCrf key.isOutput key.index

/-! ## Boot -/

/-- The format `avb_initialize_state` gives every audio stream. -/
def defaultFormat (rate : Nat) : Octets 8 :=
  if cfg.am824Default then am824Format (avbCipSfcFromHz rate) cfg.channelsPerStream
  else
    let samples :=
      if cfg.wifi && avbClassBSamplesPerFrame rate ≠ 0 then avbClassBSamplesPerFrame rate
      else avbSamplesPerFrameFromHz rate
    aafFormat 24 (avbAafRateFromHz rate) cfg.channelsPerStream samples

def initialFormat (rate : Nat) (key : StreamKey) : Option (Octets 8) :=
  if !cfg.has key then none
  else if cfg.isCrf key.isOutput key.index then some (avbCrfFormatForRate rate)
  else some (defaultFormat cfg rate)

/-- The rate of `avb_initialize_state`: the configured one, where it is supported. -/
def initialRate (first : Nat) : Nat :=
  if cfg.defaultSampleRate ∈ cfg.supportedSampleRates then cfg.defaultSampleRate else first

/-- The formats and the rate of `avb_initialize_state`, in a state that is otherwise arbitrary; none
where it fails. -/
def avbInitializeFormats (s : EntityState) : Option EntityState :=
  cfg.supportedSampleRates.head?.map fun first =>
    EntityState.setFormats { s with sampleRate := initialRate cfg first }
      (initialFormat cfg (initialRate cfg first))

/-- What the store holds: the rate, with whether the hardware takes it, and the formats of each
record `avb_persist_apply` is called with. -/
structure AudioStore where
  rate : Option Nat
  setRateOk : Bool
  records : List (StreamKey → Octets 8)

/-- `avb_persist_restore_rate` -/
def avbPersistRestoreRate (store : AudioStore) (s : EntityState) : EntityState :=
  match store.rate with
  | none => s
  | some rate =>
      if rate ∈ cfg.supportedSampleRates ∧ store.setRateOk then { s with sampleRate := rate } else s

/-- The list of formats has one at the rate. -/
def rateEnumerable (rate : Nat) : Bool :=
  cfg.supportedFormats.any fun candidate => avbStreamFormatRateHz candidate = rate

/-- `avb_persist_normalize_stream_format`; none for a format that is unusable. -/
def avbPersistNormalize (rate : Nat) (key : StreamKey) (f : Octets 8) : Option (Octets 8) :=
  if f = .zero 8 || !cfg.has key || !cfg.formatSupported key.isOutput key.index rate f then none
  else if cfg.isCrf key.isOutput key.index then some f
  else if avbStreamFormatRateHz f = rate then some f
  else
    match cfg.familyAtRate f rate with
    | some candidate => some candidate
    -- a rate that the list does not have leaves the format as it is
    | none => if rateEnumerable cfg rate then none else some f

/-- The formats of `avb_persist_apply`: an unusable one leaves the stream's as it is. -/
def avbPersistApply (s : EntityState) (record : StreamKey → Octets 8) : EntityState :=
  s.setFormats fun key => avbPersistNormalize cfg s.sampleRate key (record key)

/-- The formats and the rate of `avb_persist_load`. -/
def avbPersistLoadFormats (store : AudioStore) (s : EntityState) : EntityState :=
  store.records.foldl (avbPersistApply cfg) (avbPersistRestoreRate cfg store s)

def audioBoot (store : AudioStore) (s : EntityState) : Option EntityState :=
  (avbInitializeFormats cfg s).map (avbPersistLoadFormats cfg store)

/-! ## Runs -/

inductive AudioEvent where
  | setStreamFormat (env : EntityEnv) (descriptorType descriptorIndex : UInt16) (format : Octets 8)
  | samplingRate (env : EntityEnv) (isSet : Bool) (descriptorType descriptorIndex : UInt16)
      (rate : Nat)
  /-- Whatever else happens: everything but the formats and the rate may change. -/
  | other (s : EntityState)

/-- The formats and the rate of one state in another. -/
def EntityState.keepFormats (s s' : EntityState) : EntityState :=
  EntityState.setFormats { s' with sampleRate := s.sampleRate } fun key => some (s.formatOf key)

def audioStep (s : EntityState) : AudioEvent → EntityState
  | .setStreamFormat env descriptorType descriptorIndex format =>
      avbProcessAecpCmdSetStreamFormat cfg.aecp env s descriptorType descriptorIndex format
  | .samplingRate env isSet descriptorType descriptorIndex rate =>
      avbProcessAecpCmdSamplingRate cfg.aecp env s isSet descriptorType descriptorIndex rate
  | .other s' => s.keepFormats s'

/-- A SET_STREAM_FORMAT that takes the entity to another rate. It moves its own stream only. -/
def setsAnotherRate (s : EntityState) : AudioEvent → Prop
  | .setStreamFormat env descriptorType descriptorIndex format =>
      (audioStep cfg s (.setStreamFormat env descriptorType descriptorIndex format)).sampleRate ≠
        s.sampleRate
  | _ => False

/-- The store serves the rate it restores: the list of formats has that rate, and where it is not
the rate of the build each audio stream has a usable record. -/
def AudioStore.Serves (store : AudioStore) (built booted : EntityState) : Prop :=
  rateEnumerable cfg booted.sampleRate = true ∧
    (booted.sampleRate = built.sampleRate ∨ ∀ key, cfg.audio key = true →
      ∃ record ∈ store.records,
        (avbPersistNormalize cfg booted.sampleRate key (record key)).isSome = true)

/-- A wired talker and listener with eight channels a stream. -/
def wiredAudio : AudioConfig where
  entity := plainEntity
  wifi := false
  am824Default := false
  channelsPerStream := 8
  allowedSampleRates := [44100, 48000, 88200, 96000, 192000]
  codec := .es8389
  runnable := fun _ => true
  defaultSampleRate := 48000

/-- Nothing has been saved. -/
def AudioStore.empty : AudioStore := ⟨none, true, []⟩

end EspAvb
