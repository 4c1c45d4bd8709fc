import EspAvb.StreamFormat

/-!
# The audio map of the input port

The port has one cluster, and each of its channels plays a channel of the audio input or none. A
mapping is checked against the format of the input when it is added or removed (`atdecc.c`), and the
map is saved and put back as it was stored (`avb.c`).
-/

namespace EspAvb

/-- `avb_stream_format_channels` -/
def avbStreamFormatChannels (f : Octets 8) : Nat :=
  if formatSubtype f = avtpSubtype61883 then formatOctet f 3
  else if formatSubtype f = avtpSubtypeAaf then formatOctet f 4 * 4 + formatOctet f 5 / 64
  else 0

/-- The configuration whose mappings are checked against the formats' channels. -/
def AudioConfig.withChannels (cfg : AudioConfig) : AudioConfig :=
  { cfg with entity := { cfg.entity with formatChannels := avbStreamFormatChannels } }

variable (cfg : AudioConfig)

/-- The audio input, unless the entity has none: a CRF input alone stands first. -/
def audioIn : StreamKey := .input ⟨0, Nat.two_pos⟩

/-- `avb_process_aecp_cmd_get_audio_map`: the one map of the port is map 0. -/
def avbProcessAecpCmdGetAudioMap (s : EntityState)
    (descriptorType descriptorIndex mapIndex : UInt16) : AecpStatus × List AemAudioMapping :=
  let status := avbAudioMapPortStatus cfg.withChannels.aecp descriptorType descriptorIndex
  if status ≠ .success then (status, [])
  else if mapIndex ≠ 0 then (.badArguments, [])
  else (.success, avbFillInputMappings s.inputMap fun channel =>
    s.inputMap channel != avbInputMapUnmapped)

/-! ## Boot -/

/-- The map of `avb_initialize_state`: each cluster channel plays the channel of its index. -/
def initialInputMap (channel : Fin avbInputClusterChannels) : UInt16 :=
  if cfg.entity.listener || cfg.entity.talker.talker then UInt16.ofNat channel.val else 0

/-- `avb_persist_restore_input_map`: what is stored is taken as it is. -/
def avbPersistRestoreInputMap (stored : Option (Fin avbInputClusterChannels → UInt16))
    (s : EntityState) : EntityState :=
  { s with inputMap := stored.getD (initialInputMap cfg) }

/-- Boot, from what `avb_initialize_state` has built. -/
def mapBoot (store : AudioStore) (stored : Option (Fin avbInputClusterChannels → UInt16))
    (built : EntityState) : EntityState :=
  avbPersistRestoreInputMap cfg stored (avbPersistLoadFormats cfg store built)

/-! ## Runs -/

inductive MapEvent where
  | audioMappings (env : EntityEnv) (add : Bool) (descriptorType descriptorIndex : UInt16)
      (numberOfMappings : Nat) (mappings : List AemAudioMapping)
  | setStreamFormat (env : EntityEnv) (descriptorType descriptorIndex : UInt16) (format : Octets 8)
  | samplingRate (env : EntityEnv) (isSet : Bool) (descriptorType descriptorIndex : UInt16)
      (rate : Nat)
  /-- Whatever else happens: everything but the formats, the rate and the map may change. -/
  | other (s : EntityState)

def mapStep (s : EntityState) : MapEvent → EntityState
  | .audioMappings env add descriptorType descriptorIndex numberOfMappings mappings =>
      avbProcessAecpCmdAudioMappings cfg.withChannels.aecp env s add descriptorType descriptorIndex
        numberOfMappings mappings
  | .setStreamFormat env descriptorType descriptorIndex format =>
      avbProcessAecpCmdSetStreamFormat cfg.withChannels.aecp env s descriptorType descriptorIndex
        format
  | .samplingRate env isSet descriptorType descriptorIndex rate =>
      avbProcessAecpCmdSamplingRate cfg.withChannels.aecp env s isSet descriptorType descriptorIndex
        rate
  | .other s' => { s.keepFormats s' with inputMap := s.inputMap }

/-- The audio input is given a format that the entity takes. -/
def TakesInputFormat (env : EntityEnv) (s : EntityState) (descriptorType descriptorIndex : UInt16)
    (format : Octets 8) : Prop :=
  descriptorType = aemDescTypeStreamInput ∧ descriptorIndex = 0 ∧
    0 < cfg.entity.acmp.numInputStreams ∧
    streamFormatRefusal cfg.withChannels.aecp env s false 0
      (s.listener.inputStreams ⟨0, Nat.two_pos⟩).connected format = none

/-- The format has every channel the map names. -/
def MapWithin (map : Fin avbInputClusterChannels → UInt16) (format : Octets 8) : Prop :=
  ∀ channel, map channel = avbInputMapUnmapped ∨ (map channel).toNat < avbStreamFormatChannels format

/-- A format that the audio input takes has every channel the map names. -/
def FormatKeepsMap (s : EntityState) (ev : MapEvent) : Prop :=
  ∀ env descriptorType descriptorIndex format,
    ev = .setStreamFormat env descriptorType descriptorIndex format →
    TakesInputFormat cfg env s descriptorType descriptorIndex format → MapWithin s.inputMap format

/-- Nothing is mapped, or the entity has an audio input with every channel the map names. -/
def MapFits (s : EntityState) : Prop :=
  (∀ channel, s.inputMap channel = avbInputMapUnmapped) ∨
    (cfg.audio audioIn = true ∧ MapWithin s.inputMap (s.formatOf audioIn))

end EspAvb
