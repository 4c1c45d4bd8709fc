import EspAvb.MsrpDeclare

/-!
# Admission and attribute propagation

`mrp.c` §6a callbacks and the admission table at its end: what a registration means to the end
station's input streams, and how a bridge passes talkers, listeners and domains on from port to
port. Of the listener callback only the bridge's half is here; the end station's half drives the
output streams and touches no MSRP table.
-/

namespace EspAvb

variable {cfg : Config}

/-- A loop over the ports. -/
def forPorts (step : AvbState cfg → cfg.Port → AvbState cfg) (s : AvbState cfg) : AvbState cfg :=
  (List.finRange cfg.numPorts).foldl step s

/-! ### Admission -/

def avbSrpAdmissionLinkRateBps (s : AvbState cfg) (p : cfg.Port) : UInt32 :=
  (s.admission p .classA).linkRateBps

def AvbState.setAdmitted (s : AvbState cfg) (p : cfg.Port) (cls : AvbSrClass) (bps : UInt32) :
    AvbState cfg :=
  { s with
    admission := Function.update s.admission p
      (Function.update (s.admission p) cls { s.admission p cls with admittedBps := bps }) }

/-- Admits where the class's aggregate stays within its cap; the sum is taken modulo 2^32. -/
def avbSrpAdmissionTryAdmit (s : AvbState cfg) (p : cfg.Port) (cls : AvbSrClass)
    (requestBps : UInt32) : Option (AvbState cfg) :=
  let e := s.admission p cls
  if e.capBps = 0 then none
  else if e.capBps < e.admittedBps + requestBps then none
  else some (s.setAdmitted p cls (e.admittedBps + requestBps))

def avbSrpAdmissionRelease (s : AvbState cfg) (p : cfg.Port) (cls : AvbSrClass)
    (requestBps : UInt32) : AvbState cfg :=
  let e := s.admission p cls
  s.setAdmitted p cls
    (if requestBps < e.admittedBps then e.admittedBps - requestBps else 0)

def MsrpTalkerEntry.release (e : MsrpTalkerEntry cfg) (y : cfg.Port) : MsrpTalkerEntry cfg :=
  { e with
    admittedBps := Function.update e.admittedBps y 0
    admittedTspec := Function.update e.admittedTspec y none }

def MsrpTalkerEntry.reserve (e : MsrpTalkerEntry cfg) (y : cfg.Port) (cls : AvbSrClass)
    (bps : UInt32) : MsrpTalkerEntry cfg :=
  { e with
    admittedBps := Function.update e.admittedBps y bps
    admittedClass := Function.update e.admittedClass y cls }

def MsrpTalkerEntry.noteTspec (e : MsrpTalkerEntry cfg) (y : cfg.Port) (cls : AvbSrClass)
    (mfs mfi : Nat) : MsrpTalkerEntry cfg :=
  { e with admittedTspec := Function.update e.admittedTspec y (some (cls, mfs, mfi)) }

/-- Gives back what the ingress entry in slot `i` of port `p` holds toward port `y`. -/
def msrpReleaseAdmission (s : AvbState cfg) (p : cfg.Port) (ingress : Option (TalkerRef cfg))
    (y : cfg.Port) : AvbState cfg :=
  match ingress with
  | none => s
  | some i =>
      match s.talkers p i with
      | none => s
      | some e =>
          let released :=
            if e.admittedBps y = 0 then s
            else avbSrpAdmissionRelease s y (e.admittedClass y) (e.admittedBps y)
          released.setTalker p i (some (e.release y))

/-- True with the new state when the request is granted. -/
def msrpUpdateAdmission (s : AvbState cfg) (p : cfg.Port) (ingress : Option (TalkerRef cfg))
    (y : cfg.Port) (cls : AvbSrClass) (bps : UInt32) : Bool × AvbState cfg :=
  match ingress with
  | none => (false, s)
  | some i =>
      match s.talkers p i with
      | none => (false, s)
      | some e =>
          if e.admittedBps y = bps ∧ bps ≠ 0 ∧ e.admittedClass y = cls then (true, s)
          else
            let s := msrpReleaseAdmission s p ingress y
            match avbSrpAdmissionTryAdmit s y cls bps with
            | none => (false, s)
            | some s => (true, s.modifyTalker p i (·.reserve y cls bps))

/-! ### Talker attributes -/

/-- Class A goes toward Wi-Fi only with the opt-in and 12000 deliverable frames a second. -/
def msrpWifiClassAAllowed (cfg : Config) : Bool :=
  cfg.roleBridge ∧ cfg.wifiUnicastStreams ∧ cfg.allowClassAOverWifi
    ∧ 12000 ≤ cfg.wifiDeliverableFrames

def msrpWifiAdmissionRefused (s : AvbState cfg) (streamId : UniqueId) : Bool :=
  (s.wifiAdmission.find fun a => a.refused ∧ a.streamId = streamId).isSome

/-- The bridge's own share of the latency toward a port, in nanoseconds. -/
def avbPortForwardingLatencyNs (port : AvbPort) : UInt32 :=
  if port.medium = .wifiFtm then 500000 + 30000
  else 12000000 / (if port.linkSpeedMbps = 0 then 100 else port.linkSpeedMbps) + 30000

def avbSrClassOf (priority : BitVec 3) : AvbSrClass := if priority = 3 then .classA else .classB

def AvbSrClass.intervals : AvbSrClass → Nat
  | .classA => 8000
  | .classB => 4000

/-- Bits a second of a TSpec, framing included, as the code computes it: modulo 2^32. -/
def tspecBps (cls : AvbSrClass) (mfs mfi : Nat) : UInt32 :=
  (UInt32.ofNat mfs + 42) * UInt32.ofNat mfi * UInt32.ofNat cls.intervals * 8

/-- What MAP has to do on the egress ports. -/
structure MsrpMapWork where
  release : Bool
  withdraw : Bool
  admitDeclare : Bool
  deriving DecidableEq, Repr

/-- Edges propagate; so does a value that changed since the last propagation. -/
def msrpMapWork (tr : MrpRegTransition) (isFailed : Bool) (oldPriority : BitVec 3)
    (oldMfs oldMfi : Nat) (info : TalkerAdvInfo) : MsrpMapWork :=
  match tr with
  | .register => { release := false, withdraw := false, admitDeclare := true }
  | .deregister =>
      { release := oldPriority ≠ 0 ∧ isFailed = false, withdraw := true, admitDeclare := false }
  | .none =>
      let priorityChanged := oldPriority ≠ 0 ∧ oldPriority ≠ info.priority
      let tspecChanged := oldPriority ≠ 0 ∧ isFailed = false
        ∧ (oldMfs ≠ info.tspecMaxFrameSize.toNat ∨ oldMfi ≠ info.tspecMaxFrameInterval.toNat)
      if priorityChanged ∨ tspecChanged then
        { release := isFailed = false, withdraw := true, admitDeclare := true }
      else { release := false, withdraw := false, admitDeclare := false }

/-- Declares a received talker toward port `y` as Failed with the given code. -/
def msrpMapDeclareFailed (s : AvbState cfg) (y : cfg.Port) (info : TalkerAdvInfo) (code : UInt8)
    (srcBridgeId : Option (Octets 8)) : AvbState cfg :=
  let latency := UInt32.ofNat info.accumulatedLatency.toNat
    + avbPortForwardingLatencyNs (cfg.port y)
  mrpPatchEgressAccumulatedLatency
    (mrpDeclareTalkerFailed s y info.streamId info.streamDestAddr info.vlanId
      info.tspecMaxFrameSize.toNat info.tspecMaxFrameInterval.toNat code
      (avbSrClassOf info.priority = .classB) srcBridgeId)
    y info.streamId .talkerFailed latency.toNat

/-- Declares a received talker toward port `y` as Advertise. -/
def msrpMapDeclareAdvertise (s : AvbState cfg) (y : cfg.Port) (info : TalkerAdvInfo) :
    AvbState cfg :=
  let latency := UInt32.ofNat info.accumulatedLatency.toNat
    + avbPortForwardingLatencyNs (cfg.port y)
  mrpPatchEgressAccumulatedLatency
    (mrpDeclareTalkerAdvertise s y info.streamId info.streamDestAddr info.vlanId
      info.tspecMaxFrameSize.toNat info.tspecMaxFrameInterval.toNat
      (avbSrClassOf info.priority = .classB))
    y info.streamId .talkerAdvertise latency.toNat

/-- The reservation of a stream toward port `y`, and its declaration as admitted or refused. -/
def msrpMapAdmit (s : AvbState cfg) (p y : cfg.Port) (ingress : Option (TalkerRef cfg))
    (info : TalkerAdvInfo) : AvbState cfg :=
  let cls := avbSrClassOf info.priority
  let mfs := info.tspecMaxFrameSize.toNat
  let mfi := info.tspecMaxFrameInterval.toNat
  match msrpUpdateAdmission s p ingress y cls (tspecBps cls mfs mfi) with
  | (true, s') =>
      let before := (msrpReleaseAdmission s p ingress y).admission y
      let s' := s'.addLog (.admitted y info before)
      let s' :=
        match ingress with
        | some i => s'.modifyTalker p i (·.noteTspec y cls mfs mfi)
        | none => s'
      msrpMapDeclareAdvertise s' y info
  | (false, s') => msrpMapDeclareFailed s' y info insufficientBandwidthForTrafficClass none

/-- One egress port's declaration of a talker registered on port `p`. -/
def msrpMapDeclare (s : AvbState cfg) (p y : cfg.Port) (ingress : Option (TalkerRef cfg))
    (isFailed : Bool) (wire : MsrpTalkerMessage) : AvbState cfg :=
  let info := wire.info
  if isFailed then
    -- a failure is passed on with the upstream bridge's code and identity
    msrpMapDeclareFailed s y info wire.failureCode (some wire.failureBridgeId)
  else if cfg.wifi y ∧ avbSrClassOf info.priority = .classA ∧ msrpWifiClassAAllowed cfg = false then
    msrpMapDeclareFailed (msrpReleaseAdmission s p ingress y) y info
      insufficientBandwidthForTrafficClass none
  else if cfg.wifiUnicastStreams ∧ cfg.wifi y then
    -- the Wi-Fi port admits when a station's Listener comes
    if msrpWifiAdmissionRefused s info.streamId then
      msrpMapDeclareFailed s y info insufficientBandwidth none
    else msrpMapDeclareAdvertise s y info
  else msrpMapAdmit s p y ingress info

/-- The body of the loop over egress ports. -/
def msrpMapEgress (work : MsrpMapWork) (p : cfg.Port) (ingress : Option (TalkerRef cfg))
    (isFailed : Bool) (wire : MsrpTalkerMessage) (s : AvbState cfg) (y : cfg.Port) :
    AvbState cfg :=
  if y = p ∨ cfg.bridged y = false then s
  else
    let s := if work.release then msrpReleaseAdmission s p ingress y else s
    let s := if work.withdraw then mrpWithdrawTalker s y wire.info.streamId else s
    if work.admitDeclare then msrpMapDeclare s p y ingress isFailed wire else s

/-- The snapshot that tells the next reception whether the value changed. -/
def msrpMapSnapshot (work : MsrpMapWork) (info : TalkerAdvInfo) (e : MsrpTalkerEntry cfg) :
    MsrpTalkerEntry cfg :=
  if work.admitDeclare then
    { e with
      lastPropagatedPriority := info.priority
      lastPropagatedMfs := info.tspecMaxFrameSize.toNat
      lastPropagatedMfi := info.tspecMaxFrameInterval.toNat }
  else if work.withdraw then
    { e with lastPropagatedPriority := 0, lastPropagatedMfs := 0, lastPropagatedMfi := 0 }
  else e

/-- The bridge's half of `mrp_on_talker_registrar_change`. -/
def msrpMapTalker (s : AvbState cfg) (p : cfg.Port) (attrType : MsrpAttrType)
    (wire : MsrpTalkerMessage) (tr : MrpRegTransition) : AvbState cfg :=
  if cfg.bridged p = false then s
  else
    let isFailed : Bool := attrType = .talkerFailed
    let ingress := msrpTalkerFind s p wire.info.streamId attrType
    let old := ingress.bind (s.talkers p)
    let work := msrpMapWork tr isFailed
      ((old.map (·.lastPropagatedPriority)).getD 0)
      ((old.map (·.lastPropagatedMfs)).getD 0)
      ((old.map (·.lastPropagatedMfi)).getD 0) wire.info
    if tr = .none ∧ work.admitDeclare = false then s
    else
      let s := forPorts (msrpMapEgress work p ingress isFailed wire) s
      match ingress with
      | some i => s.modifyTalker p i (msrpMapSnapshot work wire.info)
      | none => s

/-! ### The end station's input streams -/

def Config.port0 (cfg : Config) : Option cfg.Port :=
  if h : 0 < cfg.numPorts then some ⟨0, h⟩ else none

/-- `avb_input_stream_decl_event`: Ready Failed on a failure, Ready once connected and advertised. -/
def avbInputStreamDeclEvent (s : AvbState cfg) (stream : AvbListenerStream) : MsrpListenerEvent :=
  match cfg.port0 with
  | none => .askingFailed
  | some p =>
      if (mrpTalkerFailedActive s p stream.streamId).any (· ≠ noFailure) then .readyFailed
      else if stream.connected ∧ mrpTalkerAdvertiseActive s p stream.streamId then .ready
      else .askingFailed

/-- `avb_tspec_copy_bps`, in 64 bits. -/
def avbTspecCopyBps (mfs mfi : Nat) (classB : Bool) : Nat :=
  (mfs + 42) * mfi * (if classB then 4000 else 8000) * 8

/-- What the streams below `index` that are Ready take, and `index` itself. -/
def avbReadyBps (s : AvbState cfg) (earlier : List MsrpListenerEvent) (index : Nat) : Nat :=
  ((List.finRange avbMaxNumInputStreams).map fun j =>
    let other := s.inputStreams j
    if index < j.val ∨ s.numInputStreams ≤ j.val then 0
    else if j.val ≠ index ∧ earlier[j.val]? ≠ some .ready then 0
    else
      match cfg.port0.bind (mrpTalkerAdvertiseTspec s · other.streamId) with
      | none => 0
      | some (mfs, mfi) => avbTspecCopyBps mfs (if mfi = 0 then 1 else mfi) other.classB).sum

/-- `avb_listener_decl_event` for one stream, given the events of the streams before it. -/
def avbListenerDeclEventAfter (s : AvbState cfg) (earlier : List MsrpListenerEvent)
    (stream : AvbListenerStream) (index : Nat) : MsrpListenerEvent :=
  let decl := avbInputStreamDeclEvent s stream
  if s.avbLite = false then decl
  else if decl = .readyFailed then .askingFailed
  else if decl ≠ .ready then decl
  else
    let linkMbps := (cfg.port0.map fun p => (cfg.port p).linkSpeedMbps.toNat).getD 0
    if linkMbps * 1000000 * 3 / 4 < avbReadyBps s earlier index then .askingFailed else decl

/-- The events of all input streams, lower-numbered ones first. -/
def avbListenerDeclEvents (s : AvbState cfg) : List MsrpListenerEvent :=
  (List.finRange avbMaxNumInputStreams).foldl
    (fun earlier i =>
      earlier ++ [avbListenerDeclEventAfter s earlier (s.inputStreams i) i.val]) []

def avbListenerDeclEvent (s : AvbState cfg) (index : Fin avbMaxNumInputStreams) :
    MsrpListenerEvent :=
  (avbListenerDeclEvents s)[index.val]?.getD .askingFailed

/-- What a received talker attribute writes into the input stream bound to it. -/
def avbInputStreamNote (s : AvbState cfg) (p : cfg.Port) (isFailed : Bool)
    (wire : MsrpTalkerMessage) (tr : MrpRegTransition) (stream : AvbListenerStream) :
    AvbListenerStream :=
  let code :=
    if isFailed then (if tr = .deregister then noFailure else wire.failureCode)
    else if s.avbLite = false ∨ mrpTalkerFailedActive s p wire.info.streamId = none then noFailure
    else stream.msrpFailureCode
  { stream with
    msrpAccumulatedLatency := wire.info.accumulatedLatency
    msrpFailureCode := code }

/-- The endpoint half of `mrp_on_talker_registrar_change`: the bound input stream follows the
attribute, and an end station declares its listener anew on an edge. -/
def mrpTalkerInputStream (s : AvbState cfg) (p : cfg.Port) (attrType : MsrpAttrType)
    (wire : MsrpTalkerMessage) (tr : MrpRegTransition) : AvbState cfg :=
  if wire.info.streamId = .zero 8 then s
  else
    match Fin.find? fun i => (s.inputStreams i).streamId = wire.info.streamId with
    | none => s
    | some i =>
        let stream :=
          avbInputStreamNote s p (attrType = .talkerFailed) wire tr (s.inputStreams i)
        let s := { s with inputStreams := Function.update s.inputStreams i stream }
        if cfg.roleBridge = false ∧ tr ≠ .none ∧ stream.connected then
          mrpDeclareListener s p stream.streamId (avbListenerDeclEvent s i)
        else s

def mrpOnTalkerRegistrarChange (s : AvbState cfg) (p : cfg.Port) (attrType : MsrpAttrType)
    (wire : MsrpTalkerMessage) (tr : MrpRegTransition) : AvbState cfg :=
  let s := mrpTalkerInputStream s p attrType wire tr
  if cfg.roleBridge then msrpMapTalker s p attrType wire tr else s

/-! ### Listener and domain attributes -/

/-- The declaration a port contributes to a merge: registered, and not refused toward Wi-Fi. -/
def msrpMergeDecl (s : AvbState cfg) (streamId : UniqueId) (p : cfg.Port) :
    Option MsrpListenerEvent :=
  match listenerAt s p streamId with
  | none => none
  | some e =>
      if e.sm.registrar ≠ .IN then none
      else if cfg.wifiUnicastStreams ∧ s.wifiAdmissionPort = some p ∧ e.peerDecl ≠ .ignore
          ∧ msrpWifiAdmissionRefused s streamId then
        some .askingFailed
      else some e.peerDecl

/-- `msrp_merge_listener_decls`: the declarations of every port but one, merged. -/
def msrpMergeListenerDecls (s : AvbState cfg) (excludePort : cfg.Port) (streamId : UniqueId) :
    Option MsrpListenerEvent :=
  let heard (decl : MsrpListenerEvent) : Bool :=
    (List.finRange cfg.numPorts).any fun p =>
      p ≠ excludePort ∧ msrpMergeDecl s streamId p = some decl
  let anyReady := heard .ready
  let anyAsking := heard .askingFailed
  let anyReadyFailed := heard .readyFailed
  if anyReady = false ∧ anyAsking = false ∧ anyReadyFailed = false then none
  else if anyReadyFailed ∨ (anyReady ∧ anyAsking) then some .readyFailed
  else if anyReady then some .ready
  else some .askingFailed

/-- One egress port's turn in `msrp_propagate_listener`. -/
def msrpPropagateListenerTo (p : cfg.Port) (streamId : UniqueId) (s : AvbState cfg)
    (y : cfg.Port) : AvbState cfg :=
  if y = p ∨ cfg.bridged y = false then s
  else
    let egress := listenerAt s y streamId
    let currentlyDeclaring := egress.any fun e => e.sm.applicant ≠ .VO
    match msrpMergeListenerDecls s y streamId with
    | none => if currentlyDeclaring then mrpWithdrawListener s y streamId else s
    | some merged =>
        if currentlyDeclaring = false ∨ egress.any (fun e => e.declEvent ≠ merged) then
          mrpDeclareListener s y streamId merged
        else s

def msrpPropagateListener (s : AvbState cfg) (p : cfg.Port) (streamId : UniqueId) :
    AvbState cfg :=
  forPorts (msrpPropagateListenerTo p streamId) s

def mrpOnListenerRegistrarChange (s : AvbState cfg) (p : cfg.Port) (streamId : UniqueId)
    (tr : MrpRegTransition) (peerDeclChanged : Bool) : AvbState cfg :=
  if cfg.roleBridge ∧ (tr ≠ .none ∨ peerDeclChanged) ∧ cfg.bridged p then
    msrpPropagateListener s p streamId
  else s

/-- A domain is passed on when it registers and never withdrawn. -/
def mrpOnDomainRegistrarChange (s : AvbState cfg) (p : cfg.Port) (wire : MsrpDomainMessage)
    (tr : MrpRegTransition) : AvbState cfg :=
  if cfg.roleBridge ∧ tr = .register ∧ cfg.bridged p then
    forPorts (fun s y =>
      if y = p ∨ cfg.bridged y = false then s
      else mrpDeclareDomain s y wire.srClassId wire.srClassPriority wire.srClassVid) s
  else s

end EspAvb
