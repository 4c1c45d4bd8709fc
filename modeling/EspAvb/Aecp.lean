import EspAvb.Talker

/-!
# The entity and its AECP commands

`avb_process_aecp` (`atdecc.c`): the AEM commands and the Milan vendor-unique ones, with the lock and
the acquisition that keep a controller to itself. The AEM commands that change state are refused to
any other controller in one place, before their handlers; the vendor-unique commands and the
commands about the lock and the acquisition do not pass there. Commands that only read are one
command here, `AemCommand.other`.
-/

namespace EspAvb

def avbLockTimeoutUs : Nat := 60 * 1000000
def avbInputClusterChannels : Nat := 2
def avbInputMapUnmapped : UInt16 := 0xffff
def avbAemMaxMsgMappings : Nat := 62

def aemDescTypeEntity : UInt16 := 0x0000
def aemDescTypeAudioUnit : UInt16 := 0x0002
def aemDescTypeStreamOutput : UInt16 := 0x0006
def aemDescTypeAvbInterface : UInt16 := 0x0009
def aemDescTypeStreamPortInput : UInt16 := 0x000e
def aemDescTypeStreamPortOutput : UInt16 := 0x000f
def aemDescTypeControl : UInt16 := 0x001a
def aemDescTypeClockDomain : UInt16 := 0x0024

/-- The names of `descriptor_names` that a command can reach. -/
inductive AvbName where
  | entity | group | avbInterface
  | streamInput (u : Fin avbMaxNumInputStreams)
  | streamOutput (u : Fin avbMaxNumOutputStreams)
  | control (index : Fin 4)
  deriving DecidableEq, Repr

structure AemAudioMapping where
  streamIndex : UInt16
  streamChannel : UInt16
  clusterOffset : UInt16
  clusterChannel : UInt16
  deriving DecidableEq, Repr

inductive AemCommand where
  | acquireEntity (release : Bool) (ownerId : UniqueId)
  | lockEntity (descriptorType : UInt16) (unlock : Bool)
  | setConfiguration (configurationIndex : UInt16)
  | streaming (start : Bool) (descriptorType descriptorIndex : UInt16)
  | audioMappings (add : Bool) (descriptorType descriptorIndex : UInt16) (numberOfMappings : Nat)
      (mappings : List AemAudioMapping)
  | setStreamFormat (descriptorType descriptorIndex : UInt16) (streamFormat : Octets 8)
  | setClockSource (descriptorType descriptorIndex clockSourceIndex : UInt16)
  | samplingRate (isSet : Bool) (descriptorType descriptorIndex : UInt16) (samplingRate : Nat)
  | maxTransitTime (isSet : Bool) (descriptorType descriptorIndex : UInt16) (maxTransitTime : Nat)
  | setName (descriptorType descriptorIndex nameIndex : UInt16) (name : Octets 64)
  | setControl (descriptorIndex : UInt16) (values : Octets 2)
  | other
  deriving DecidableEq, Repr

structure MvuMediaClockRefInfo where
  set : Bool
  clockDomainIndex : UInt16
  flags : UInt8
  userMcrPrio : UInt8
  mediaClockDomainName : Octets 64
  deriving DecidableEq, Repr

/-- An AECP command to this entity. -/
inductive AecpCommand where
  | aem (controllerEntityId : UniqueId) (cmd : AemCommand)
  | mvuBindStream (cmd : MvuBindStream)
  | mvuUnbindStream (cmd : MvuUnbindStream)
  | mvuMediaClockRefInfo (controllerEntityId : UniqueId) (cmd : MvuMediaClockRefInfo)
  deriving DecidableEq, Repr

def AecpCommand.controllerEntityId : AecpCommand → UniqueId
  | .aem controllerEntityId _ => controllerEntityId
  | .mvuBindStream cmd => cmd.controllerEntityId
  | .mvuUnbindStream cmd => cmd.controllerEntityId
  | .mvuMediaClockRefInfo controllerEntityId _ => controllerEntityId

/-- The descriptors, the codec and the stream formats this entity is built with. -/
structure EntityConfig where
  acmp : AcmpConfig
  talker : TalkerConfig
  listener : Bool
  supportedSampleRates : List Nat
  /-- Whether an input (`false`) or output (`true`) takes a format at the running rate. -/
  formatSupported : Bool → UInt16 → Nat → Octets 8 → Bool
  /-- The rate a format runs the codec at; the CRF streams follow the running rate. -/
  formatRateHz : Bool → UInt16 → Nat → Octets 8 → Nat
  /-- `avb_stream_format_at_rate` -/
  formatAtRate : Bool → UInt16 → Octets 8 → Nat → Option (Octets 8)
  /-- `avb_stream_format_channels` -/
  formatChannels : Octets 8 → Nat
  /-- `avb_codec_quantize_tenth_db`, for the volume (`false`) and the microphone gain (`true`). -/
  quantizeTenthDb : Bool → Int → Int
  entityId_eq : talker.entityId = acmp.entityId

/-- What an AEM response carries back. -/
inductive AemValue where
  | nothing
  | holder (entityId : UniqueId)
  | number (value : Nat)
  | format (streamFormat : Octets 8)
  | name (name : Octets 64)
  | level (tenthDb : Int)
  | mediaClockRef (userMcrPrio : UInt8) (domainName : Octets 64)
  deriving DecidableEq, Repr

inductive AecpEffect where
  | response (status : AecpStatus) (value : AemValue)
  | unsolNotify
  /-- The unsolicited REMOVE_AUDIO_MAPPINGS of an addition. -/
  | mappingsRemoved (mappings : List AemAudioMapping)
  | saveRate
  | saveInputMap
  | requestSave
  deriving DecidableEq, Repr

structure EntityState where
  listener : AcmpState
  talker : TalkerState
  /-- `config.default_sample_rate` -/
  sampleRate : Nat
  descriptorNames : AvbName → Octets 64
  ctrlIdentify : UInt8
  ctrlSpeakerVolTenthDb : Int
  ctrlMicGainTenthDb : Int
  inputMap : Fin avbInputClusterChannels → UInt16
  activeClockSourceIndex : UInt16
  mcrUserPrio : UInt8
  mcrDomainName : Octets 64
  /-- What the journal holds of each input stream from before this boot. -/
  savedInputs : UInt16 → Option InputStreamRecord
  effects : List AecpEffect

structure EntityEnv where
  acmp : AcmpEnv
  talker : TalkerEnv
  /-- `avb_net_send_to` takes the response. -/
  aecpSends : Bool
  /-- `avb_audio_set_rate` -/
  audioSetRate : Nat → Bool
  /-- `avb_crf_stream_valid` -/
  crfStreamValid : Bool

namespace EntityState

def effect (s : EntityState) (e : AecpEffect) : EntityState := { s with effects := s.effects ++ [e] }

def effectIf (s : EntityState) (c : Bool) (e : AecpEffect) : EntityState :=
  if c then s.effect e else s

def holders (s : EntityState) : EntityHolders := s.listener.holders

def setHolders (s : EntityState) (holders : EntityHolders) : EntityState :=
  { s with listener := { s.listener with holders } }

def setInput (s : EntityState) (u : Fin avbMaxNumInputStreams) (stream : AcmpListenerStream) :
    EntityState :=
  { s with listener := s.listener.setStream u stream }

def setOutput (s : EntityState) (u : Fin avbMaxNumOutputStreams) (stream : AvbTalkerStream) :
    EntityState :=
  { s with talker := s.talker.setStream u stream }

end EntityState

section

variable (cfg : EntityConfig) (env : EntityEnv)

def aecpRespond (s : EntityState) (status : AecpStatus) (value : AemValue) : EntityState :=
  s.effectIf env.aecpSends (.response status value)

/-- The input stream an index names. -/
def inputDescriptor (index : UInt16) : Option (Fin avbMaxNumInputStreams) :=
  (inputSlot index).filter fun u => u.val < cfg.acmp.numInputStreams

def outputRunning (s : EntityState) : Bool :=
  (List.finRange avbMaxNumOutputStreams).any fun u =>
    u.val < cfg.talker.numOutputStreams && (s.talker.outputStreams u).streaming

def inputConnected (s : EntityState) : Bool :=
  (List.finRange avbMaxNumInputStreams).any fun u =>
    u.val < cfg.acmp.numInputStreams && (s.listener.inputStreams u).connected

def persistInput (s : EntityState) (index : UInt16) : EntityState :=
  { s with listener := avbPersistAppendInputStream cfg.acmp s.listener index }

def persistOutput (s : EntityState) (index : UInt16) : EntityState :=
  { s with talker := s.talker.effect (.persistOutputStream index) }

def declareNow (s : EntityState) (u : Fin avbMaxNumOutputStreams) : EntityState :=
  { s with talker := avbOutputStreamDeclareNow cfg.talker env.talker s.talker u none }

/-! ### The acquisition and the lock -/

/-- `avb_process_aecp_cmd_acquire_entity`. Milan refuses it; elsewhere it is done once the response
is out, whoever holds the entity. -/
def avbProcessAecpCmdAcquireEntity (s : EntityState) (controllerEntityId : UniqueId)
    (release : Bool) (ownerId : UniqueId) : EntityState :=
  let refused := cfg.talker.milanCompliant
  let owner := if release || refused then ownerId else controllerEntityId
  let s := aecpRespond env s (if refused then .notSupported else .success) (.holder owner)
  if refused || !env.aecpSends then s
  else
    let wasAcquired := s.holders.acquired
    let s :=
      if release then s.setHolders { s.holders with acquired := false }
      else s.setHolders { s.holders with acquired := true, acquiredBy := controllerEntityId }
    s.effectIf (wasAcquired != s.holders.acquired) .unsolNotify

/-- `avb_process_aecp_cmd_lock_entity`. Only the owner unlocks or locks again. -/
def avbProcessAecpCmdLockEntity (s : EntityState) (controllerEntityId : UniqueId)
    (descriptorType : UInt16) (unlock : Bool) : EntityState :=
  let held := s.holders
  if descriptorType ≠ aemDescTypeEntity then
    aecpRespond env s .notSupported (.holder held.lockedBy)
  else if held.locked && held.lockedBy != controllerEntityId then
    aecpRespond env s .entityLocked (.holder held.lockedBy)
  else
    let s :=
      if unlock then s.setHolders { held with locked := false, lockedBy := .zero 8 }
      else
        s.setHolders { held with
          locked := true
          lockedBy := controllerEntityId
          lockExpiresUs := env.talker.nowUs + avbLockTimeoutUs }
    let s := aecpRespond env s .success (.holder s.holders.lockedBy)
    s.effectIf (held.locked != s.holders.locked) .unsolNotify

/-! ### The commands behind the gate -/

/-- `avb_process_aecp_cmd_set_configuration`. There is one configuration. -/
def avbProcessAecpCmdSetConfiguration (s : EntityState) (configurationIndex : UInt16) :
    EntityState :=
  let bound := (List.finRange avbMaxNumInputStreams).any fun u =>
    u.val < cfg.acmp.numInputStreams && (s.listener.inputStreams u).talkerId != .zero 8
  let status : AecpStatus :=
    if outputRunning cfg s || bound then .streamIsRunning
    else if configurationIndex ≠ 0 then .noSuchDescriptor
    else .success
  aecpRespond env s status (.number 0)

/-- `avb_process_aecp_cmd_streaming`: whether a bound input is started, the state BIND_STREAM sets
with STREAMING_WAIT. -/
def avbProcessAecpCmdStreaming (s : EntityState) (start : Bool)
    (descriptorType descriptorIndex : UInt16) : EntityState :=
  if descriptorType = aemDescTypeStreamOutput ∧ (talkerUid cfg.talker descriptorIndex).isSome then
    aecpRespond env s .notSupported .nothing
  else if descriptorType ≠ aemDescTypeStreamInput then
    aecpRespond env s .noSuchDescriptor .nothing
  else
    match inputDescriptor cfg descriptorIndex with
    | none => aecpRespond env s .noSuchDescriptor .nothing
    | some u =>
        let stream := s.listener.inputStreams u
        if stream.talkerId != .zero 8 && stream.streamingWait == start then
          let s := aecpRespond env (s.setInput u { stream with streamingWait := !start }) .success
            .nothing
          persistInput cfg (s.effect .unsolNotify) descriptorIndex
        else aecpRespond env s .success .nothing

/-- `avb_audio_map_port_status` -/
def avbAudioMapPortStatus (descriptorType descriptorIndex : UInt16) : AecpStatus :=
  if descriptorIndex ≠ 0 then .noSuchDescriptor
  else if descriptorType = aemDescTypeStreamPortInput then .success
  else if descriptorType = aemDescTypeStreamPortOutput ∧ cfg.talker.talker then .notSupported
  else .noSuchDescriptor

/-- `avb_get_crf_input_index` -/
def avbGetCrfInputIndex : UInt16 := if cfg.listener then cfg.acmp.crfInputIndex else 0

/-- `avb_input_mapping_valid`: the cluster channel a valid mapping names. -/
def avbInputMappingValid (s : EntityState) (mapping : AemAudioMapping) :
    Option (Fin avbInputClusterChannels) :=
  if mapping.streamIndex ≠ 0 ∨ cfg.acmp.numInputStreams = 0 ∨ avbGetCrfInputIndex cfg = 0 then none
  else if mapping.clusterOffset ≠ 0 then none
  else if cfg.formatChannels (s.listener.inputStreams ⟨0, by decide⟩).streamFormat ≤
      mapping.streamChannel.toNat then none
  else if h : mapping.clusterChannel.toNat < avbInputClusterChannels then
    some ⟨mapping.clusterChannel.toNat, h⟩
  else none

/-- The maps a mapping command builds up: the one to be, and what it has named itself. -/
structure AudioMapPass where
  next : Fin avbInputClusterChannels → UInt16
  named : Fin avbInputClusterChannels → UInt16

/-- One mapping of a command; `none` refuses the whole command. -/
def audioMappingStep (s : EntityState) (add : Bool) (pass : AudioMapPass)
    (mapping : AemAudioMapping) : Option AudioMapPass :=
  match avbInputMappingValid cfg s mapping with
  | none => none
  | some channel =>
      let source := mapping.streamChannel
      if add then
        if pass.named channel != avbInputMapUnmapped && pass.named channel != source then none
        else
          some
            { next := Function.update pass.next channel source
              named := Function.update pass.named channel source }
      else if s.inputMap channel ≠ source then none
      else some { pass with next := Function.update pass.next channel avbInputMapUnmapped }

/-- `avb_fill_input_mapping`, for each cluster channel of a kind, in order. -/
def avbFillInputMappings (map : Fin avbInputClusterChannels → UInt16)
    (kind : Fin avbInputClusterChannels → Bool) : List AemAudioMapping :=
  ((List.finRange avbInputClusterChannels).filter kind).map fun channel =>
    { streamIndex := 0, streamChannel := map channel, clusterOffset := 0,
      clusterChannel := UInt16.ofNat channel.val }

/-- The mappings that an addition takes the cluster channel of. -/
def replacedMappings (s : EntityState) (next : Fin avbInputClusterChannels → UInt16) :
    List AemAudioMapping :=
  avbFillInputMappings s.inputMap fun channel =>
    s.inputMap channel != avbInputMapUnmapped && next channel != s.inputMap channel

/-- `avb_process_aecp_cmd_audio_mappings`, all or none. A mapping an addition replaces is announced
as removed first. -/
def avbProcessAecpCmdAudioMappings (s : EntityState) (add : Bool)
    (descriptorType descriptorIndex : UInt16) (numberOfMappings : Nat)
    (mappings : List AemAudioMapping) : EntityState :=
  let status := avbAudioMapPortStatus cfg descriptorType descriptorIndex
  if status ≠ .success then aecpRespond env s status .nothing
  else if avbAemMaxMsgMappings < numberOfMappings ∨ mappings.length < numberOfMappings then
    aecpRespond env s .badArguments .nothing
  else
    match (mappings.take numberOfMappings).foldlM (audioMappingStep cfg s add)
        { next := s.inputMap, named := fun _ => avbInputMapUnmapped } with
    | none => aecpRespond env s .badArguments .nothing
    | some pass =>
        if pass.next = s.inputMap then aecpRespond env s .success .nothing
        else
          let replaced := replacedMappings s pass.next
          let s := s.effectIf (add && !replaced.isEmpty) (.mappingsRemoved replaced)
          let s := aecpRespond env { s with inputMap := pass.next } .success .nothing
          (s.effect .unsolNotify).effect .saveInputMap

/-- `avb_output_stream_class_from_format` -/
def avbOutputStreamClassFromFormat (s : EntityState) (u : Fin avbMaxNumOutputStreams) :
    EntityState :=
  let stream := s.talker.outputStreams u
  match avbOutputFormatClass stream.streamFormat with
  | none => s
  | some classB =>
      let vlanId := (env.talker.msrpMappings[if classB then 1 else 0]?).getD stream.vlanId
      s.setOutput u { stream with classB, vlanId }

/-- Why a format is not set, with whether the stream itself runs. -/
def streamFormatRefusal (s : EntityState) (isOutput : Bool) (descriptorIndex : UInt16)
    (running : Bool) (streamFormat : Octets 8) : Option AecpStatus :=
  let rate := cfg.formatRateHz isOutput descriptorIndex s.sampleRate streamFormat
  if running then some .streamIsRunning
  else if !cfg.formatSupported isOutput descriptorIndex s.sampleRate streamFormat then
    some .badArguments
  else if rate ≠ s.sampleRate ∧ (outputRunning cfg s || inputConnected cfg s) then
    some .streamIsRunning
  else if rate ≠ s.sampleRate ∧ !env.audioSetRate rate then some .entityMisbehaving
  else none

/-- A rate that a format brings is saved before the stream's record. -/
def takeFormatRate (s : EntityState) (isOutput : Bool) (descriptorIndex : UInt16)
    (streamFormat : Octets 8) : EntityState :=
  let rate := cfg.formatRateHz isOutput descriptorIndex s.sampleRate streamFormat
  if rate = s.sampleRate then s else EntityState.effect { s with sampleRate := rate } .saveRate

def setOutputFormat (s : EntityState) (u : Fin avbMaxNumOutputStreams) (streamFormat : Octets 8) :
    EntityState :=
  let stream := s.talker.outputStreams u
  let classBefore := avbOutputFormatClass stream.streamFormat
  let s := s.setOutput u { stream with streamFormat }
  -- the class follows the frame interval only when that is another one
  let s :=
    if avbOutputFormatClass streamFormat ≠ classBefore then avbOutputStreamClassFromFormat env s u
    else s
  if stream.streamFormat = streamFormat then s else declareNow cfg env s u

/-- `avb_process_aecp_cmd_set_stream_format` -/
def avbProcessAecpCmdSetStreamFormat (s : EntityState) (descriptorType descriptorIndex : UInt16)
    (streamFormat : Octets 8) : EntityState :=
  if descriptorType = aemDescTypeStreamOutput then
    match talkerUid cfg.talker descriptorIndex with
    | none => aecpRespond env s .noSuchDescriptor (.format streamFormat)
    | some u =>
        let stream := s.talker.outputStreams u
        match streamFormatRefusal cfg env s true descriptorIndex stream.streaming streamFormat with
        | some status => aecpRespond env s status (.format stream.streamFormat)
        | none =>
            let s := setOutputFormat cfg env
              (takeFormatRate cfg s true descriptorIndex streamFormat) u streamFormat
            let s := aecpRespond env s .success (.format streamFormat)
            persistOutput (s.effectIf (stream.streamFormat != streamFormat) .unsolNotify)
              descriptorIndex
  else if descriptorType = aemDescTypeStreamInput then
    match inputDescriptor cfg descriptorIndex with
    | none => aecpRespond env s .noSuchDescriptor (.format streamFormat)
    | some u =>
        let stream := s.listener.inputStreams u
        match streamFormatRefusal cfg env s false descriptorIndex stream.connected streamFormat with
        | some status => aecpRespond env s status (.format stream.streamFormat)
        | none =>
            let s := (takeFormatRate cfg s false descriptorIndex streamFormat).setInput u
              { stream with streamFormat }
            let s := aecpRespond env s .success (.format streamFormat)
            persistInput cfg (s.effectIf (stream.streamFormat != streamFormat) .unsolNotify)
              descriptorIndex
  else aecpRespond env s .noSuchDescriptor (.format streamFormat)

/-- `avb_process_aecp_cmd_set_clock_source`. The CRF source is there once its input plays. -/
def avbProcessAecpCmdSetClockSource (s : EntityState)
    (descriptorType descriptorIndex clockSourceIndex : UInt16) : EntityState :=
  let crfPlays := (inputSlot (avbGetCrfInputIndex cfg)).any fun u =>
    (s.listener.inputStreams u).connected && env.crfStreamValid
  let changed := clockSourceIndex != s.activeClockSourceIndex
  let value := AemValue.number clockSourceIndex.toNat
  if descriptorType ≠ aemDescTypeClockDomain ∨ descriptorIndex ≠ 0 then
    aecpRespond env s .noSuchDescriptor value
  else if 1 < clockSourceIndex then aecpRespond env s .badArguments value
  else if changed && outputRunning cfg s then aecpRespond env s .streamIsRunning value
  else if clockSourceIndex = 1 ∧ !crfPlays then aecpRespond env s .notSupported value
  else
    let s : EntityState := { s with activeClockSourceIndex := clockSourceIndex }
    (aecpRespond env (s.effect .requestSave) .success value).effectIf changed .unsolNotify

/-- An input's format at another rate, in `s`. -/
def inputAtRate (rate : Nat) (s : EntityState) (u : Fin avbMaxNumInputStreams) :
    Option EntityState :=
  let stream := s.listener.inputStreams u
  if cfg.acmp.numInputStreams ≤ u.val then some s
  else
    (cfg.formatAtRate false (UInt16.ofNat u.val) stream.streamFormat rate).map fun streamFormat =>
      s.setInput u { stream with streamFormat }

def outputAtRate (rate : Nat) (s : EntityState) (u : Fin avbMaxNumOutputStreams) :
    Option EntityState :=
  let stream := s.talker.outputStreams u
  if cfg.talker.numOutputStreams ≤ u.val then some s
  else
    (cfg.formatAtRate true (UInt16.ofNat u.val) stream.streamFormat rate).map fun streamFormat =>
      s.setOutput u { stream with streamFormat }

/-- Every stream has to have its format at the new rate before anything changes. -/
def streamsAtRate (s : EntityState) (rate : Nat) : Option EntityState :=
  ((List.finRange avbMaxNumInputStreams).foldlM (inputAtRate cfg rate) s).bind
    ((List.finRange avbMaxNumOutputStreams).foldlM (outputAtRate cfg rate))

/-- What follows a change of rate, for each configured stream. -/
def announceRate (s : EntityState) : EntityState :=
  let s := (List.finRange avbMaxNumInputStreams).foldl
    (fun s u =>
      if cfg.acmp.numInputStreams ≤ u.val then s
      else persistInput cfg (s.effect .unsolNotify) (UInt16.ofNat u.val)) s
  (List.finRange avbMaxNumOutputStreams).foldl
    (fun s u =>
      if cfg.talker.numOutputStreams ≤ u.val then s
      else persistOutput (s.effect .unsolNotify) (UInt16.ofNat u.val)) s

def declareOutputs (s : EntityState) : EntityState :=
  (List.finRange avbMaxNumOutputStreams).foldl
    (fun s u => if cfg.talker.numOutputStreams ≤ u.val then s else declareNow cfg env s u) s

/-- `avb_process_aecp_cmd_sampling_rate`, set and get. -/
def avbProcessAecpCmdSamplingRate (s : EntityState) (isSet : Bool)
    (descriptorType descriptorIndex : UInt16) (samplingRate : Nat) : EntityState :=
  if descriptorType ≠ aemDescTypeAudioUnit ∨ descriptorIndex ≠ 0 then
    aecpRespond env s .noSuchDescriptor (.number s.sampleRate)
  else if !isSet || samplingRate == s.sampleRate then
    aecpRespond env s .success (.number s.sampleRate)
  else if samplingRate ∉ cfg.supportedSampleRates then
    aecpRespond env s .badArguments (.number s.sampleRate)
  else if outputRunning cfg s || inputConnected cfg s then
    aecpRespond env s .streamIsRunning (.number s.sampleRate)
  else
    match streamsAtRate cfg s samplingRate with
    | none => aecpRespond env s .notSupported (.number s.sampleRate)
    | some moved =>
        if !env.audioSetRate samplingRate then
          aecpRespond env s .entityMisbehaving (.number s.sampleRate)
        else
          let s := EntityState.effect { moved with sampleRate := samplingRate } .saveRate
          let s := aecpRespond env (declareOutputs cfg env s) .success (.number samplingRate)
          announceRate cfg (s.effect .unsolNotify)

/-- `avb_process_aecp_cmd_get_max_transit_time`, set and get, with a check of the holders of its own
behind the gate's. -/
def avbProcessAecpCmdGetMaxTransitTime (s : EntityState) (controllerEntityId : UniqueId)
    (isSet : Bool) (descriptorType descriptorIndex : UInt16) (maxTransitTime : Nat) : EntityState :=
  match talkerUid cfg.talker descriptorIndex with
  | none => aecpRespond env s .noSuchDescriptor (.number 0)
  | some u =>
      let stream := s.talker.outputStreams u
      let current := AemValue.number stream.presentationTimeOffsetNs.toNat
      if descriptorType ≠ aemDescTypeStreamOutput then
        aecpRespond env s .noSuchDescriptor current
      else if !isSet then aecpRespond env s .success current
      else if stream.streaming then aecpRespond env s .streamIsRunning current
      else if 0x7fffffff < maxTransitTime then aecpRespond env s .badArguments current
      else if s.holders.locked && s.holders.lockedBy != controllerEntityId then
        aecpRespond env s .entityLocked current
      else if s.holders.acquired && s.holders.acquiredBy != controllerEntityId then
        aecpRespond env s .entityAcquired current
      else
        let presentationTimeOffsetNs := UInt32.ofNat maxTransitTime
        let s := persistOutput (s.setOutput u { stream with presentationTimeOffsetNs })
          descriptorIndex
        (aecpRespond env s .success (.number maxTransitTime)).effectIf
          (stream.presentationTimeOffsetNs != presentationTimeOffsetNs) .unsolNotify

/-- `avb_resolve_name_ptr` -/
def avbResolveNamePtr (descriptorType descriptorIndex nameIndex : UInt16) : Option AvbName :=
  if descriptorType = aemDescTypeEntity then
    if nameIndex = 0 then some .entity else if nameIndex = 1 then some .group else none
  else if nameIndex ≠ 0 then none
  else if descriptorType = aemDescTypeAvbInterface then some .avbInterface
  else if descriptorType = aemDescTypeStreamInput then
    (inputSlot descriptorIndex).map .streamInput
  else if descriptorType = aemDescTypeStreamOutput then
    (outputSlot descriptorIndex).map .streamOutput
  else if descriptorType = aemDescTypeControl then
    if h : descriptorIndex.toNat < 4 then some (.control ⟨descriptorIndex.toNat, h⟩) else none
  else none

/-- `avb_process_aecp_cmd_set_name` -/
def avbProcessAecpCmdSetName (s : EntityState)
    (descriptorType descriptorIndex nameIndex : UInt16) (name : Octets 64) : EntityState :=
  match avbResolveNamePtr descriptorType descriptorIndex nameIndex with
  | none => aecpRespond env s .notImplemented (.name name)
  | some target =>
      let changed := s.descriptorNames target != name
      let s : EntityState :=
        { s with descriptorNames := Function.update s.descriptorNames target name }
      (aecpRespond env (s.effect .requestSave) .success (.name name)).effectIf changed .unsolNotify

/-- The level of a SET_CONTROL, a signed number of tenths of a decibel. -/
def controlLevel (values : Octets 2) : Int :=
  let raw : Int := values.toNat
  if raw < 0x8000 then raw else raw - 0x10000

/-- `avb_process_aecp_cmd_set_control`: identify, speaker volume, microphone gain, test tone. -/
def avbProcessAecpCmdSetControl (s : EntityState) (descriptorIndex : UInt16) (values : Octets 2) :
    EntityState :=
  let value := values.bytes.getD 0 0
  if descriptorIndex = 0 then
    (aecpRespond env { s with ctrlIdentify := value } .success (.number value.toNat)).effectIf
      (s.ctrlIdentify != value) .unsolNotify
  else if descriptorIndex = 1 then
    if !cfg.listener then aecpRespond env s .notSupported (.level (controlLevel values))
    else
      let level := cfg.quantizeTenthDb false (controlLevel values)
      let changed := s.ctrlSpeakerVolTenthDb != level
      let s := EntityState.effect { s with ctrlSpeakerVolTenthDb := level } .requestSave
      (aecpRespond env s .success (.level level)).effectIf changed .unsolNotify
  else if descriptorIndex = 2 then
    if !cfg.talker.talker then aecpRespond env s .notSupported (.level (controlLevel values))
    else
      let level := cfg.quantizeTenthDb true (controlLevel values)
      let changed := s.ctrlMicGainTenthDb != level
      let s := EntityState.effect { s with ctrlMicGainTenthDb := level } .requestSave
      (aecpRespond env s .success (.level level)).effectIf changed .unsolNotify
  else if descriptorIndex = 3 then
    if !cfg.talker.talker then aecpRespond env s .notSupported (.number value.toNat)
    else
      let on := value != 0 && avbTalkerAudioStreaming cfg.talker s.talker
      let changed := s.talker.ctrlTestTone != on
      let s : EntityState := { s with talker := { s.talker with ctrlTestTone := on } }
      (aecpRespond env s .success (.number (if on then 255 else 0))).effectIf changed .unsolNotify
  else aecpRespond env s .noSuchDescriptor .nothing

/-! ### The vendor-unique commands -/

/-- `avb_process_aecp_cmd_mvu_media_clock_ref_info`: flag 0x01 is the priority's, 0x02 the name's. -/
def avbProcessAecpCmdMvuMediaClockRefInfo (s : EntityState) (cmd : MvuMediaClockRefInfo) :
    EntityState :=
  if cmd.clockDomainIndex ≠ 0 then aecpRespond env s .noSuchDescriptor .nothing
  else
    let mcrUserPrio :=
      if cmd.set && cmd.flags &&& 0x01 != 0 then cmd.userMcrPrio else s.mcrUserPrio
    let mcrDomainName :=
      if cmd.set && cmd.flags &&& 0x02 != 0 then cmd.mediaClockDomainName else s.mcrDomainName
    let changed := s.mcrUserPrio != mcrUserPrio || s.mcrDomainName != mcrDomainName
    (aecpRespond env { s with mcrUserPrio, mcrDomainName } .success
      (.mediaClockRef mcrUserPrio mcrDomainName)).effectIf changed .unsolNotify

/-! ### Dispatch -/

/-- `avb_aem_command_changes_state` -/
def avbAemCommandChangesState : AemCommand → Bool
  | .setStreamFormat .. | .setClockSource .. | .samplingRate true .. | .setConfiguration ..
  | .streaming .. | .audioMappings .. | .maxTransitTime true .. | .setName .. | .setControl .. =>
      true
  | _ => false

def aemHandler (s : EntityState) (controllerEntityId : UniqueId) : AemCommand → EntityState
  | .acquireEntity release ownerId =>
      avbProcessAecpCmdAcquireEntity cfg env s controllerEntityId release ownerId
  | .lockEntity type unlock => avbProcessAecpCmdLockEntity env s controllerEntityId type unlock
  | .setConfiguration index => avbProcessAecpCmdSetConfiguration cfg env s index
  | .streaming start type index => avbProcessAecpCmdStreaming cfg env s start type index
  | .audioMappings add type index number mappings =>
      avbProcessAecpCmdAudioMappings cfg env s add type index number mappings
  | .setStreamFormat type index format => avbProcessAecpCmdSetStreamFormat cfg env s type index format
  | .setClockSource type index source => avbProcessAecpCmdSetClockSource cfg env s type index source
  | .samplingRate isSet type index rate =>
      avbProcessAecpCmdSamplingRate cfg env s isSet type index rate
  | .maxTransitTime isSet type index ns =>
      avbProcessAecpCmdGetMaxTransitTime cfg env s controllerEntityId isSet type index ns
  | .setName type index nameIndex name => avbProcessAecpCmdSetName env s type index nameIndex name
  | .setControl index values => avbProcessAecpCmdSetControl cfg env s index values
  | .other => s

/-- `avb_process_aecp`, the commands. -/
def avbProcessAecp (s : EntityState) : AecpCommand → EntityState
  | .aem controllerEntityId cmd =>
      if avbAemCommandChangesState cmd && avbAcquiredOrLockedByOther s.holders controllerEntityId then
        aecpRespond env s (if s.holders.acquired then .entityAcquired else .entityLocked) .nothing
      else aemHandler cfg env s controllerEntityId cmd
  | .mvuBindStream cmd =>
      { s with listener := avbProcessAecpCmdMvuBindStream cfg.acmp env.acmp s.listener cmd }
  | .mvuUnbindStream cmd =>
      { s with listener := avbProcessAecpCmdMvuUnbindStream cfg.acmp env.acmp s.listener cmd }
  | .mvuMediaClockRefInfo _ cmd => avbProcessAecpCmdMvuMediaClockRefInfo env s cmd

/-- `avb_process_acmp`, both sides. -/
def entityAcmp (s : EntityState) (msg : AcmpMessage) : EntityState :=
  { s with
    listener := avbProcessAcmp cfg.acmp env.acmp s.listener msg
    talker := avbProcessAcmpTalker cfg.talker env.talker s.holders s.talker msg }

/-- `avb_unsol_lock_tick` -/
def avbUnsolLockTick (s : EntityState) : EntityState :=
  if !s.holders.locked || env.talker.nowUs < s.holders.lockExpiresUs then s
  else (s.setHolders { s.holders with locked := false, lockedBy := .zero 8 }).effect .unsolNotify

end

/-! ### Runs -/

/-- What reaches the entity, in any order: commands and responses, the timers of its two sides, what
MSRP and MAAP tell its talker, and the tick that ends a lock. -/
inductive EntityEvent where
  | aecp (env : EntityEnv) (cmd : AecpCommand)
  | acmp (env : EntityEnv) (msg : AcmpMessage)
  | inflightTimeouts (env : EntityEnv)
  | fastConnect (env : EntityEnv) (u : Fin avbMaxNumInputStreams)
  | demote (u : Fin avbMaxNumInputStreams)
  | mrpListener (env : EntityEnv) (streamId : UniqueId) (leaving : Bool) (decl : MsrpListenerEvent)
      (tr : MrpRegTransition) (srcAddr : Option EthAddr)
  | destAddr (u : Fin avbMaxNumOutputStreams) (addr : EthAddr)
  | lockTick (env : EntityEnv)

def entityStep (cfg : EntityConfig) (s : EntityState) : EntityEvent → EntityState
  | .aecp env cmd => avbProcessAecp cfg env s cmd
  | .acmp env msg => entityAcmp cfg env s msg
  | .inflightTimeouts env =>
      { s with listener := avbProcessInflightTimeouts cfg.acmp env.acmp s.listener }
  | .fastConnect env u => { s with listener := fastConnectTurn cfg.acmp env.acmp s.listener u }
  | .demote u => { s with listener := demoteStream s.listener u }
  | .mrpListener env streamId leaving decl tr srcAddr =>
      { s with
        talker := mrpOnListenerRegistrarChangeTalker cfg.talker env.talker s.talker streamId leaving
          decl tr srcAddr }
  | .destAddr u addr => s.setOutput u { s.talker.outputStreams u with streamDestAddr := addr }
  | .lockTick env => avbUnsolLockTick env s

/-- A plain AVB end station with two inputs and one output, whose formats all run at 48 kHz. -/
def plainEntity : EntityConfig :=
  { acmp := twoInputs
    talker := plainTalker
    listener := true
    supportedSampleRates := [48000]
    formatSupported := fun _ _ _ _ => true
    formatRateHz := fun _ _ _ _ => 48000
    formatAtRate := fun _ _ streamFormat _ => some streamFormat
    formatChannels := fun _ => 2
    quantizeTenthDb := fun _ level => level
    entityId_eq := rfl }

/-- After bring-up with nothing saved. -/
def EntityState.blank : EntityState :=
  { listener := .blank
    talker := .blank false
    sampleRate := 48000
    descriptorNames := fun _ => .zero 64
    ctrlIdentify := 0
    ctrlSpeakerVolTenthDb := 0
    ctrlMicGainTenthDb := 0
    inputMap := fun channel => UInt16.ofNat channel.val
    activeClockSourceIndex := 0
    mcrUserPrio := 192
    mcrDomainName := .zero 64
    savedInputs := fun _ => none
    effects := [] }

/-- Everything that is sent leaves, and the codec takes every rate. -/
def EntityEnv.at (us : Nat) : EntityEnv :=
  { acmp := .at (us / 1000), talker := .at us, aecpSends := true, audioSetRate := fun _ => true
    crfStreamValid := true }

end EspAvb
