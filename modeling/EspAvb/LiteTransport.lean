import EspAvb.Lib.BudgetShare
import EspAvb.MsrpMap
import EspAvb.Talker
import Mathlib.Data.List.DropRight

/-!
# The stream transport of AVB Lite

`avb.c`, `avb_lite_update_stream_tx_addrs` and what it calls: once a main loop turn each output
stream's listeners are put in line, the egress budget is shared out among their copies, and the
addresses the frames go to are published. With more listeners than a stream may serve one by one it
escalates to its multicast address, where a controller has allowed that. The switch between gPTP and
AVB Lite is here too.

The seqlock around `tx_da` and the log are left out; a pass writes the addresses in one step.
-/

namespace EspAvb

def avbLiteListenerIdleUs : Nat := 16 * 1000 * 1000
def avbLiteJoinTimeUs : Nat := 200 * 1000
def avbLiteSlotHoldUs : Nat := 3 * 1000 * 1000
def avbLiteStartRetryUs : Nat := 1000 * 1000
def insufficientBridgeResources : UInt8 := 2

structure LiteConfig extends TalkerConfig where
  avbLiteCompliant : Bool
  /-- `CONFIG_ESP_AVB_LITE_UNICAST_FANOUT` -/
  unicastFanout : Nat
  /-- `CONFIG_ESP_AVB_WIFI_UNICAST_STREAMS` -/
  wifiUnicastStreams : Bool
  /-- `CONFIG_ESP_AVB_ROLE_ENDPOINT_WIRELESS` -/
  roleEndpointWireless : Bool
  liteMediaVlanId : UInt16
  classAVlanId : UInt16
  classBVlanId : UInt16

/-- What a turn of the main loop reads besides the talker's own state. -/
structure LiteEnv extends TalkerEnv where
  linkSpeedMbps : Nat
  /-- `LITE_CONFIG_FLAG_ESCALATION_ALLOWED` of `lite_config_flags`. -/
  escalationFlag : Bool
  /-- `esp_wifi_sta_get_ap_info` -/
  apBssid : Option EthAddr

/-- `liteOrderSeq` is the last stamp given to a listener; `refusals` is what each stream last passed
to `mrp_lite_sync_refusals`. -/
structure LiteState where
  talker : TalkerState
  liteOrderSeq : UInt32
  bssid : Option EthAddr
  refusals : Fin avbMaxNumOutputStreams → List (EthAddr × UInt8)

/-- `avb_lite_plan_s` -/
structure LitePlan where
  order : List Nat
  readyCandidates : Nat
  escalationAllowed : Bool
  copyBps : Nat
  declarationChanged : Bool

/-! ### The cost of a copy -/

/-- `cip_sfc_to_sample_rate` -/
def cipSfcToSampleRate : Nat → Nat
  | 0 => 32000
  | 1 => 44100
  | 2 => 48000
  | 3 => 88200
  | 4 => 96000
  | 5 => 176400
  | 6 => 192000
  | _ => 48000

theorem cipSfcToSampleRate_range (sfc : Nat) :
    32000 ≤ cipSfcToSampleRate sfc ∧ cipSfcToSampleRate sfc ≤ 192000 := by
  unfold cipSfcToSampleRate
  split <;> omega

def avtpSubtype61883 : Nat := 0x00
def avbCrfTsPerPdu : Nat := 1

def formatSamplesPerFrame (fmt : Octets 8) : Nat :=
  formatOctet fmt 5 % 64 * 16 + formatOctet fmt 6 / 16

/-- `avb_compute_tspec_max_frame_size` -/
def avbComputeTspecMaxFrameSize (stream : AvbTalkerStream) : Nat :=
  let fmt := stream.streamFormat
  let intervalUs := if stream.classB then 250 else 125
  let am824 := formatSubtype fmt == avtpSubtype61883
  if formatSubtype fmt = avtpSubtypeCrf then 20 + avbCrfTsPerPdu * 8
  else
    let channels :=
      if am824 then formatOctet fmt 3 else formatOctet fmt 4 * 4 + formatOctet fmt 5 / 64
    let bytesPerSample := if am824 || formatOctet fmt 3 == 24 then 4 else formatOctet fmt 3 / 8
    let sampleRate :=
      if am824 then cipSfcToSampleRate (formatOctet fmt 2 % 8)
      else aafCodeToSampleRate (formatOctet fmt 1 % 16)
    let avtpHdr := if am824 then 24 + 8 else 24
    if channels = 0 ∨ sampleRate = 0 then 0
    else
      let intervalsPerSecond := 1000000 / intervalUs
      let rounded := (sampleRate + intervalsPerSecond - 1) / intervalsPerSecond
      let samplesPerPacket :=
        if !am824 && 0 < formatSamplesPerFrame fmt then formatSamplesPerFrame fmt else rounded
      (avtpHdr + samplesPerPacket * channels * bytesPerSample) % 65536

/-- `avb_compute_tspec_max_interval_frames` -/
def avbComputeTspecMaxIntervalFrames (cfg : LiteConfig) (stream : AvbTalkerStream) : Nat :=
  let fmt := stream.streamFormat
  let sampleRate := aafCodeToSampleRate (formatOctet fmt 1 % 16)
  let formatSpf := formatSamplesPerFrame fmt
  let frames :=
    if formatSubtype fmt = avtpSubtypeAaf ∧ sampleRate ≠ 0 ∧ formatSpf ≠ 0 then
      let classSamples := sampleRate * (if stream.classB then 250 else 125) / 1000000
      max 1 ((classSamples + formatSpf - 1) / formatSpf)
    else 1
  (if cfg.roleEndpointWireless then frames * 2 else frames) % 65536

/-- `avb_stream_out_copy_bps` -/
def avbStreamOutCopyBps (cfg : LiteConfig) (stream : AvbTalkerStream) : Nat :=
  avbTspecCopyBps (avbComputeTspecMaxFrameSize stream)
    (avbComputeTspecMaxIntervalFrames cfg stream) stream.classB

/-! ### Listeners in line -/

namespace TalkerListener

def ready (row : TalkerListener) : Bool := row.msrpReady || row.acmpConnected

/-- The place is kept after a withdrawn refusal. -/
def holding (nowUs : Nat) (row : TalkerListener) : Bool :=
  row.liteHoldUntilUs != 0 && nowUs < row.liteHoldUntilUs

/-- The listener asks for the stream and has an address to send a copy to. -/
def asks (nowUs : Nat) (row : TalkerListener) : Bool :=
  row.macAddr != .zero 6 && (row.ready || row.liteRefused || row.holding nowUs)

/-- What a silent listener's row comes to. A row without a clock gets one. -/
def ageIdle (nowUs : Nat) (row : TalkerListener) : Option TalkerListener :=
  if row.lastSeenUs = 0 then some { row with lastSeenUs := nowUs }
  else if avbLiteListenerIdleUs < nowUs - row.lastSeenUs then none
  else some row

def leaveLine (row : TalkerListener) : TalkerListener :=
  { row with liteOrder := 0, liteRefused := false, liteAdmitted := false, liteHoldUntilUs := 0 }

end TalkerListener

/-- Rows that ask and have no place get the next stamp, the others leave the line. -/
def liteStampRows (nowUs : Nat) : UInt32 → List TalkerListener → UInt32 × List TalkerListener
  | seq, [] => (seq, [])
  | seq, row :: rows =>
      if !row.asks nowUs then
        let (last, rest) := liteStampRows nowUs seq rows
        (last, row.leaveLine :: rest)
      else if row.liteOrder = 0 then
        let (last, rest) := liteStampRows nowUs (seq + 1) rows
        (last, { row with liteOrder := seq + 1 } :: rest)
      else
        let (last, rest) := liteStampRows nowUs seq rows
        (last, row :: rest)

def rowAt (rows : List TalkerListener) (j : Nat) : TalkerListener := (rows[j]?).getD .zero

/-- Row `j` goes in front of the rows stamped later than it. -/
def liteInsert (rows : List TalkerListener) (order : List Nat) (j : Nat) : List Nat :=
  let later := fun i => (rowAt rows j).liteOrder < (rowAt rows i).liteOrder
  order.rdropWhile later ++ j :: order.rtakeWhile later

/-- The rows that ask, in the order they first did. -/
def liteOrder (nowUs : Nat) (rows : List TalkerListener) : List Nat :=
  ((List.range rows.length).filter fun j => (rowAt rows j).asks nowUs).foldl (liteInsert rows) []

/-! ### Planning -/

/-- The multicast address is declared before frames move to it, and no longer once they need not. -/
def liteEscalate (nowUs : Nat) (wantMulticast : Bool) (stream : AvbTalkerStream) :
    AvbTalkerStream :=
  if wantMulticast && !stream.liteDeclaredMulticast then
    { stream with
      liteDeclaredMulticast := true, liteMulticastTxAtUs := nowUs + avbLiteJoinTimeUs }
  else if !wantMulticast && stream.liteDeclaredMulticast then
    { stream with liteDeclaredMulticast := false, liteTxMulticast := false }
  else stream

def liteMoveFrames (nowUs : Nat) (stream : AvbTalkerStream) : AvbTalkerStream :=
  if stream.liteDeclaredMulticast && !stream.liteTxMulticast &&
      stream.liteMulticastTxAtUs ≤ nowUs then
    { stream with liteTxMulticast := true }
  else stream

/-- The rows of a stream changed with their index in view. -/
def ListenerRows.mapIdx (t : ListenerRows) (f : Nat → TalkerListener → TalkerListener) :
    ListenerRows :=
  ⟨t.rows.mapIdx f, by simpa using t.length_le⟩

/-- One kind of copy at a time holds a place in the budget. -/
def liteOneKind (fanout : Nat) (order : List Nat) (stream : AvbTalkerStream) : AvbTalkerStream :=
  let unadmitted := if stream.liteTxMulticast then order else order.drop fanout
  { stream with
    liteMulticastAdmitted := stream.liteTxMulticast && stream.liteMulticastAdmitted
    listeners := stream.listeners.mapIdx fun j row =>
      if j ∈ unadmitted then { row with liteAdmitted := false } else row }

theorem length_liteStampRows (nowUs : Nat) (seq : UInt32) (rows : List TalkerListener) :
    (liteStampRows nowUs seq rows).2.length = rows.length := by
  induction rows generalizing seq with
  | nil => rfl
  | cons row rows ih => simp only [liteStampRows]; split_ifs <;> simp [ih]

/-- The listener rows of a stream in a pass: the silent ones gone, the others stamped. -/
def liteLineUp (nowUs : Nat) (seq : UInt32) (t : ListenerRows) : UInt32 × ListenerRows :=
  let aged := t.walkBack (TalkerListener.ageIdle nowUs)
  let stamped := liteStampRows nowUs seq aged.rows
  (stamped.1, ⟨stamped.2, (length_liteStampRows nowUs seq aged.rows).trans_le aged.length_le⟩)

section

variable (cfg : LiteConfig) (env : LiteEnv)

def liteEscalationAllowed (stream : AvbTalkerStream) : Bool :=
  env.escalationFlag && cfg.port0Medium != .wifiFtm && stream.streamDestAddr != .zero 6

/-- `avb_lite_plan_stream`, for one stream and the last stamp given. -/
def avbLitePlanStream (seq : UInt32) (stream : AvbTalkerStream) :
    UInt32 × AvbTalkerStream × LitePlan :=
  let lined := liteLineUp env.nowUs seq stream.listeners
  let rows := lined.2.rows
  let order := liteOrder env.nowUs rows
  let readyCandidates := order.countP fun j => (rowAt rows j).ready
  let escalationAllowed := liteEscalationAllowed cfg env stream
  let wantMulticast : Bool := escalationAllowed && cfg.unicastFanout < readyCandidates
  let moved := liteMoveFrames env.nowUs (liteEscalate env.nowUs wantMulticast stream)
  (lined.1, liteOneKind cfg.unicastFanout order { moved with listeners := lined.2 },
    { order, readyCandidates, escalationAllowed
      copyBps := avbStreamOutCopyBps cfg stream
      declarationChanged := wantMulticast != stream.liteDeclaredMulticast })

def LiteConfig.streams : List (Fin avbMaxNumOutputStreams) :=
  (List.finRange avbMaxNumOutputStreams).filter fun u => u.val < cfg.numOutputStreams

/-- The streams as planned so far. A stream without a plan is not in AVB Lite. -/
structure LitePlanning where
  seq : UInt32
  streams : Fin avbMaxNumOutputStreams → AvbTalkerStream
  plans : Fin avbMaxNumOutputStreams → Option LitePlan

def litePlanNext (p : LitePlanning) (u : Fin avbMaxNumOutputStreams) : LitePlanning :=
  let (seq, stream, plan) := avbLitePlanStream cfg env p.seq (p.streams u)
  { seq
    streams := Function.update p.streams u stream
    plans := Function.update p.plans u (some plan) }

def litePlanAll (s : LiteState) : LitePlanning :=
  cfg.streams.foldl (litePlanNext cfg env)
    { seq := s.liteOrderSeq, streams := s.talker.outputStreams, plans := fun _ => none }

end

/-! ### Sharing out the egress budget -/

/-- The copy of one listener row, or the multicast copy of a stream. -/
structure LiteCopy where
  stream : Fin avbMaxNumOutputStreams
  row : Option Nat
  deriving DecidableEq, Repr

def uint32Max : Nat := 0xffffffff

namespace LitePlanning

variable (p : LitePlanning)

/-- The copies of a stream that may hold a place in the budget. -/
def copiesOf (fanout : Nat) (u : Fin avbMaxNumOutputStreams) : List LiteCopy :=
  match p.plans u with
  | none => []
  | some plan =>
      if (p.streams u).liteTxMulticast then [⟨u, none⟩]
      else (plan.order.take fanout).map fun j => ⟨u, some j⟩

def copies (cfg : LiteConfig) : List LiteCopy :=
  cfg.streams.flatMap (p.copiesOf cfg.unicastFanout)

/-- `avb_lite_plan_first_order` -/
def firstOrder (u : Fin avbMaxNumOutputStreams) : Nat :=
  match (p.plans u).bind (·.order.head?) with
  | none => uint32Max
  | some j => (rowAt (p.streams u).listeners.rows j).liteOrder.toNat

def copyOrder (c : LiteCopy) : Nat :=
  match c.row with
  | none => p.firstOrder c.stream
  | some j => (rowAt (p.streams c.stream).listeners.rows j).liteOrder.toNat

def copyBps (c : LiteCopy) : Nat := (p.plans c.stream).elim 0 (·.copyBps)

def copyHeld (c : LiteCopy) : Bool :=
  match c.row with
  | none => (p.streams c.stream).liteMulticastAdmitted
  | some j => (rowAt (p.streams c.stream).listeners.rows j).liteAdmitted

/-- A multicast copy nobody stands in line for is not looked at. -/
def copyReleasable (c : LiteCopy) : Bool := c.row.isSome || p.copyOrder c != uint32Max

def copyAdmissible (c : LiteCopy) : Bool :=
  c.row.isSome || (p.plans c.stream).any (0 < ·.readyCandidates)

/-- The flags written back to the rows and the streams. -/
def setHeld (held : LiteCopy → Bool) : LitePlanning :=
  { p with streams := fun u =>
      let stream := p.streams u
      { stream with
        liteMulticastAdmitted := held ⟨u, none⟩
        listeners := stream.listeners.mapIdx fun j row =>
          { row with liteAdmitted := held ⟨u, some j⟩ } } }

end LitePlanning

def liteBudgetBps (env : LiteEnv) : Nat := env.linkSpeedMbps * 1000000 * 3 / 4

/-- `avb_lite_admit_copies` -/
def avbLiteAdmitCopies (cfg : LiteConfig) (env : LiteEnv) (p : LitePlanning) : LitePlanning :=
  p.setHeld (BudgetShare.share (p.copies cfg) p.copyOrder p.copyBps (liteBudgetBps env)
    p.copyReleasable uint32Max p.copyAdmissible p.copyHeld).held

/-! ### Publishing -/

section

variable (cfg : LiteConfig) (env : LiteEnv)

/-- The failure code of the candidate at place `k`. -/
def liteFailureCode (plan : LitePlan) (stream : AvbTalkerStream) (k : Nat) (row : TalkerListener) :
    UInt8 :=
  if stream.liteTxMulticast then
    if stream.liteMulticastAdmitted then noFailure else insufficientBandwidth
  else if cfg.unicastFanout ≤ k then
    if plan.escalationAllowed then noFailure else insufficientBridgeResources
  else if row.liteAdmitted then noFailure
  else insufficientBandwidth

/-- A refused candidate is told, one no longer refused keeps its place for a while. -/
def litePublishRow (code : UInt8) (row : TalkerListener) : TalkerListener :=
  if code ≠ noFailure then { row with liteRefused := true, liteHoldUntilUs := 0 }
  else if row.liteRefused then
    { row with liteRefused := false, liteHoldUntilUs := env.nowUs + avbLiteSlotHoldUs }
  else row

/-- The candidates of a stream, each with its place in line and its failure code. -/
def liteCandidates (plan : LitePlan) (stream : AvbTalkerStream) :
    List (TalkerListener × Nat × UInt8) :=
  plan.order.zipIdx.map fun (j, k) =>
    let row := rowAt stream.listeners.rows j
    (row, k, liteFailureCode cfg plan stream k row)

def liteRefusedOf (plan : LitePlan) (stream : AvbTalkerStream) : List (EthAddr × UInt8) :=
  ((liteCandidates cfg plan stream).filter fun (_, _, code) => code != noFailure).map
    fun (row, _, code) => (row.macAddr, code)

/-- The addresses of the unicast copies. -/
def liteDas (plan : LitePlan) (stream : AvbTalkerStream) : List EthAddr :=
  ((liteCandidates cfg plan stream).filter fun (row, k, code) =>
    code == noFailure && !stream.liteTxMulticast && k < cfg.unicastFanout && row.ready).map
    fun (row, _, _) => row.macAddr

def litePublishRows (plan : LitePlan) (stream : AvbTalkerStream) : AvbTalkerStream :=
  { stream with listeners := stream.listeners.mapIdx fun j row =>
      match plan.order.findIdx? (· == j) with
      | none => row
      | some k => litePublishRow env (liteFailureCode cfg plan stream k row) row }

/-- `avb_lite_publish_tx_addrs` -/
def avbLitePublishTxAddrs (s : TalkerState) (u : Fin avbMaxNumOutputStreams)
    (das : List EthAddr) : TalkerState :=
  s.setStream u { s.outputStreams u with txDa := das }

/-- A stream runs while somebody is served. It starts with its addresses published. -/
def liteRunStream (s : TalkerState) (u : Fin avbMaxNumOutputStreams) (serving : Bool)
    (das : List EthAddr) : TalkerState :=
  let stream := s.outputStreams u
  if !serving && stream.streaming then avbStopStreamOut cfg.toTalkerConfig s u
  else if serving && !stream.streaming && stream.liteStartRetryUs ≤ env.nowUs then
    let s := s.setStream u { stream with liteStartRetryUs := env.nowUs + avbLiteStartRetryUs }
    avbStartStreamOut env.toTalkerEnv (avbLitePublishTxAddrs s u das) u
  else s

def liteServing (plan : LitePlan) (stream : AvbTalkerStream) : Bool :=
  if stream.liteTxMulticast then stream.liteMulticastAdmitted && 0 < plan.readyCandidates
  else !(liteDas cfg plan stream).isEmpty

/-- The turn of a planned stream in the publish loop. A unicast stream that serves nobody keeps its
last addresses. -/
def litePublishStream (s : LiteState) (u : Fin avbMaxNumOutputStreams) (plan : LitePlan) :
    LiteState :=
  let planned := s.talker.outputStreams u
  let das := liteDas cfg plan planned
  let talker := s.talker.setStream u (litePublishRows cfg env plan planned)
  let talker := liteRunStream cfg env talker u (liteServing cfg plan planned) das
  let talker :=
    if planned.liteTxMulticast || !das.isEmpty then avbLitePublishTxAddrs talker u das else talker
  let talker :=
    if plan.declarationChanged then
      avbDeclareOutputStream cfg.toTalkerConfig env.toTalkerEnv talker u none
    else talker
  { s with
    talker
    refusals := Function.update s.refusals u (liteRefusedOf cfg plan planned) }

/-- The carrier address of a wireless talker: the BSSID, locally administered. -/
def wifiCarrierDa (bssid : EthAddr) : EthAddr :=
  ⟨bssid.bytes.set 0 (bssid.bytes.getD 0 0 ||| 0x02), by simpa using bssid.length_eq⟩

/-- The turn of a stream without a plan. -/
def litePublishUnplanned (wifiPort : Bool) (s : LiteState) (u : Fin avbMaxNumOutputStreams) :
    LiteState :=
  let bssid := if wifiPort then env.apBssid.or s.bssid else s.bssid
  let das := if wifiPort then (bssid.map wifiCarrierDa).toList else []
  { s with bssid, talker := avbLitePublishTxAddrs s.talker u das }

def LiteConfig.wifiPort : Bool := cfg.wifiUnicastStreams && cfg.port0Medium == .wifiFtm

/-- What is planned and admitted before anything is published. -/
def litePlanned (s : LiteState) : LitePlanning :=
  if s.talker.avbLite && !cfg.wifiPort then avbLiteAdmitCopies cfg env (litePlanAll cfg env s)
  else { seq := s.liteOrderSeq, streams := s.talker.outputStreams, plans := fun _ => none }

def litePublishNext (plans : Fin avbMaxNumOutputStreams → Option LitePlan) (s : LiteState)
    (u : Fin avbMaxNumOutputStreams) : LiteState :=
  match plans u with
  | none => litePublishUnplanned env cfg.wifiPort s u
  | some plan => litePublishStream cfg env s u plan

/-- `avb_lite_update_stream_tx_addrs` -/
def avbLiteUpdateStreamTxAddrs (s : LiteState) : LiteState :=
  if !cfg.talker then s
  else
    let p := litePlanned cfg env s
    cfg.streams.foldl (litePublishNext cfg env p.plans)
      { s with liteOrderSeq := p.seq, talker := { s.talker with outputStreams := p.streams } }

end

/-! ### The switch between gPTP and AVB Lite -/

section

variable (cfg : LiteConfig) (env : LiteEnv)

/-- `avb_apply_media_vlan`, the output streams. -/
def avbApplyMediaVlan (s : TalkerState) : TalkerState :=
  { s with outputStreams := fun u =>
      let stream := s.outputStreams u
      if u.val < cfg.numOutputStreams then
        { stream with
          vlanId :=
            if s.avbLite then cfg.liteMediaVlanId
            else if stream.classB then cfg.classBVlanId
            else cfg.classAVlanId }
      else stream }

def liteForgetEscalation (s : TalkerState) : TalkerState :=
  { s with outputStreams := fun u =>
      let stream := s.outputStreams u
      if u.val < cfg.numOutputStreams then
        { stream with
          liteDeclaredMulticast := false, liteTxMulticast := false, liteMulticastAdmitted := false }
      else stream }

/-- The Lite value of every stream that has an ID. -/
def liteDeclareAll (s : TalkerState) : TalkerState :=
  cfg.streams.foldl
    (fun s u =>
      if (s.outputStreams u).streamId = .zero 8 then s
      else avbDeclareOutputStream cfg.toTalkerConfig env.toTalkerEnv s u none) s

/-- `avb_update_avb_lite_from_ptp`, what it does to the talker. -/
def avbUpdateAvbLiteFromPtp (standardProfile : Bool) (s : LiteState) : LiteState :=
  let avbLite := cfg.avbLiteCompliant && standardProfile
  if s.talker.avbLite = avbLite then s
  else
    let talker := liteForgetEscalation cfg (avbApplyMediaVlan cfg { s.talker with avbLite })
    { s with talker := if avbLite && cfg.talker then liteDeclareAll cfg env talker else talker }

end

/-! ### Runs -/

/-- A format or a class is set by a controller, the rate or a listener; a stream is declared anew at
a steady pace. -/
inductive LiteEvent where
  | pass (env : LiteEnv)
  | talker (e : TalkerEvent)
  | format (u : Fin avbMaxNumOutputStreams) (streamFormat : Octets 8) (classB : Bool)
      (vlanId : UInt16)
  | declare (env : LiteEnv) (u : Fin avbMaxNumOutputStreams)
  | ptp (env : LiteEnv) (standardProfile : Bool)

def liteStep (cfg : LiteConfig) (s : LiteState) : LiteEvent → LiteState
  | .pass env => avbLiteUpdateStreamTxAddrs cfg env s
  | .talker e => { s with talker := talkerStep cfg.toTalkerConfig s.talker e }
  | .format u streamFormat classB vlanId =>
      { s with
        talker := s.talker.setStream u
          { s.talker.outputStreams u with streamFormat, classB, vlanId } }
  | .declare env u =>
      { s with
        talker :=
          avbOutputStreamDeclareNow cfg.toTalkerConfig env.toTalkerEnv s.talker u none }
  | .ptp env standardProfile => avbUpdateAvbLiteFromPtp cfg env standardProfile s

def LiteState.blank : LiteState :=
  { talker := .blank false, liteOrderSeq := 0, bssid := none, refusals := fun _ => [] }

/-- A talker with one stream output that serves two listeners one by one. -/
def plainLite : LiteConfig :=
  { plainTalker with
    avbLiteCompliant := true
    unicastFanout := 2
    wifiUnicastStreams := false
    roleEndpointWireless := false
    liteMediaVlanId := 2
    classAVlanId := 2
    classBVlanId := 3 }

/-- A link of 100 Mb/s with escalation allowed. -/
def LiteEnv.at (us : Nat) : LiteEnv :=
  { TalkerEnv.at us with linkSpeedMbps := 100, escalationFlag := true, apBssid := none }

end EspAvb
