import EspAvb.MsrpMap

/-!
# The Wi-Fi port: unicast re-addressing and admission

`mrp.c`, the blocks under `CONFIG_ESP_AVB_WIFI_UNICAST_STREAMS`. The re-addressing table is a join
of the Listener declarations on the Wi-Fi port with the Talker entries of every port, rebuilt after
every declaration; the writes that spare the data plane a half-built table are one step here.
Admission on the port is decided stream by stream, by frames and by bandwidth.
-/

namespace EspAvb

variable {cfg : Config}

def EthAddr.isGroup (da : EthAddr) : Bool := (da.bytes.getD 0 0).toNat % 2 = 1

def EthAddr.last (da : EthAddr) : UInt8 := da.bytes.getD 5 0

/-! ### Re-addressing -/

def msrpWifiUcastLookupDa (s : AvbState cfg) (da : EthAddr) : Option EthAddr :=
  match (s.ucastIdx da.last).bind s.ucast with
  | none => none
  | some e => if e.da = da then some e.sta else none

def msrpWifiUcastLookupStream (s : AvbState cfg) (streamId : UniqueId) : Option EthAddr :=
  (s.restoreTbl.lookup fun e => e.streamId = streamId).map (·.da)

/-- The destination of the first talker entry for the stream, whichever port and type it is of. -/
def msrpWifiUcastTalkerDa (s : AvbState cfg) (streamId : UniqueId) : Option EthAddr :=
  ((List.finRange cfg.numPorts).findSome? fun p =>
    (s.talkers p).lookup fun e => e.wire.info.streamId = streamId).map
      (·.wire.info.streamDestAddr)

/-- The row a listener entry of the Wi-Fi port contributes, if any. -/
def msrpWifiUcastRow (s : AvbState cfg) (le : MsrpListenerEntry) : Option AvbWifiUcastEntry :=
  if le.peerDecl ≠ .ready ∧ le.peerDecl ≠ .readyFailed then none
  else if cfg.roleBridge ∧ msrpWifiAdmissionRefused s le.wire.streamId then none
  else if le.peerMac = .zero 6 then none
  else
    match msrpWifiUcastTalkerDa s le.wire.streamId with
    | none => none
    | some da =>
        if da.isGroup then some { da, sta := le.peerMac, streamId := le.wire.streamId } else none

/-- The tables under construction: rows so far, the rows and the index of their last octets. -/
structure WifiUcastNext (cfg : Config) where
  n : Nat
  ucast : SlotTable AvbWifiUcastEntry cfg.listenerTableSize
  idx : UInt8 → Option (Fin cfg.listenerTableSize)

/-- The last writer of an index entry wins; the lookup compares the whole address. -/
def WifiUcastNext.add (next : WifiUcastNext cfg) (row : AvbWifiUcastEntry) : WifiUcastNext cfg :=
  if h : next.n < cfg.listenerTableSize then
    { n := next.n + 1
      ucast := next.ucast.set ⟨next.n, h⟩ (some row)
      idx := Function.update next.idx row.da.last (some ⟨next.n, h⟩) }
  else next

def msrpWifiUcastBuild (s : AvbState cfg) (w : cfg.Port) : WifiUcastNext cfg :=
  (List.finRange cfg.listenerTableSize).foldl
    (fun next li =>
      match (s.listeners w li).bind (msrpWifiUcastRow s) with
      | none => next
      | some row => next.add row)
    { n := 0, ucast := fun _ => none, idx := fun _ => none }

/-- Group addressed talkers of the Wi-Fi port, by slot. -/
def msrpWifiRestoreBuild (s : AvbState cfg) (w : cfg.Port) :
    SlotTable AvbWifiRestoreEntry cfg.talkerTableSize := fun ti =>
  (s.talkers w ti).bind fun te =>
    if te.wire.info.streamDestAddr.isGroup then
      some { streamId := te.wire.info.streamId, da := te.wire.info.streamDestAddr }
    else none

def msrpWifiUcastRefresh (s : AvbState cfg) (wifiPort : Option cfg.Port) : AvbState cfg :=
  match wifiPort with
  | none => { s with ucast := fun _ => none, ucastIdx := fun _ => none, restoreTbl := fun _ => none }
  | some w =>
      let next := msrpWifiUcastBuild s w
      { s with
        ucast := next.ucast
        ucastIdx := next.idx
        restoreTbl := msrpWifiRestoreBuild s w }

def Config.wifiPort (cfg : Config) : Option cfg.Port :=
  Fin.find? fun p => cfg.wifi p

/-! ### Admission -/

def msrpWifiFrameBudget (cfg : Config) : UInt32 := cfg.wifiDeliverableFrames * 3 / 4

/-- The registered Talker Advertise for a stream on the first port other than the Wi-Fi one. -/
def msrpWifiUpstreamTalker (s : AvbState cfg) (w : cfg.Port) (streamId : UniqueId) :
    Option (MsrpTalkerEntry cfg) :=
  match (List.finRange cfg.numPorts).find? fun p =>
    p ≠ w ∧ mrpTalkerAdvertiseActive s p streamId with
  | none => none
  | some p => talkerAt s p streamId .talkerAdvertise

/-- Declares a stream toward the Wi-Fi port anew, as Talker Failed when refused. -/
def msrpWifiAdmissionDeclare (s : AvbState cfg) (w : cfg.Port) (talker : MsrpTalkerEntry cfg)
    (refused : Bool) : AvbState cfg :=
  let info := talker.wire.info
  let s := mrpWithdrawTalker s w info.streamId
  if refused then msrpMapDeclareFailed s w info insufficientBandwidth none
  else msrpMapDeclareAdvertise s w info

def AvbState.setWifiAdmission (s : AvbState cfg) (i : Fin cfg.listenerTableSize)
    (a : Option AvbWifiAdmission) : AvbState cfg :=
  { s with wifiAdmission := s.wifiAdmission.set i a }

/-- Notes that a station wants the stream of one listener entry, with what it costs. -/
def msrpWifiAdmissionWant (w : cfg.Port) (s : AvbState cfg) (li : Fin cfg.listenerTableSize) :
    AvbState cfg :=
  match s.listeners w li with
  | none => s
  | some le =>
      if le.peerDecl = .ignore ∨ (le.sm.registrar ≠ .IN ∧ le.sm.registrar ≠ .LV) then s
      else
        match msrpWifiUpstreamTalker s w le.wire.streamId with
        | none => s
        | some talker =>
            let info := talker.wire.info
            let cls := avbSrClassOf info.priority
            if cls = .classA ∧ msrpWifiClassAAllowed cfg = false then s
            else
              let mfs := info.tspecMaxFrameSize.toNat
              let mfi :=
                if info.tspecMaxFrameInterval.toNat = 0 then 1
                else info.tspecMaxFrameInterval.toNat
              let slot := (s.wifiAdmission.find fun a => a.streamId = le.wire.streamId).or
                s.wifiAdmission.free
              match slot with
              | none => s
              | some i =>
                  let held := (s.wifiAdmission i).getD
                    { wanted := false, refused := true, refusalDeclared := false,
                      streamId := le.wire.streamId, framesPerS := 0, bps := 0 }
                  s.setWifiAdmission i
                    (some { held with
                      wanted := true
                      framesPerS := UInt32.ofNat mfi * UInt32.ofNat cls.intervals
                      bps := tspecBps cls mfs mfi })

/-- The loop over the admission table: what is committed so far, and whether anything changed. -/
structure WifiAdmissionPass (cfg : Config) where
  state : AvbState cfg
  frames : UInt32
  bps : Nat
  decided : Bool

def msrpWifiAdmissionDecide (w : cfg.Port) (pass : WifiAdmissionPass cfg)
    (i : Fin cfg.listenerTableSize) : WifiAdmissionPass cfg :=
  let s := pass.state
  match s.wifiAdmission i with
  | none => pass
  | some a =>
      let talker := msrpWifiUpstreamTalker s w a.streamId
      if a.wanted = false then
        -- no station wants it any more: a refusal is lifted so that a later one can try again
        let s := match talker with
          | some t => if a.refusalDeclared then msrpWifiAdmissionDeclare s w t false else s
          | none => s
        { pass with state := s.setWifiAdmission i none }
      else
        match talker with
        | none => pass
        | some t =>
            if a.refused = false then pass
            else if pass.frames + a.framesPerS ≤ msrpWifiFrameBudget cfg
                ∧ pass.bps + a.bps.toNat ≤ (avbSrpAdmissionLinkRateBps s w).toNat * 3 / 4 then
              let s := s.setWifiAdmission i (some { a with refused := false })
              let s := if a.refusalDeclared then msrpWifiAdmissionDeclare s w t false else s
              let s := s.setWifiAdmission i
                (some { a with refused := false, refusalDeclared := false })
              { state := msrpPropagateListener s w a.streamId
                frames := pass.frames + a.framesPerS
                bps := pass.bps + a.bps.toNat
                decided := true }
            else if a.refusalDeclared = false then
              let s := msrpWifiAdmissionDeclare s w t true
              let s := s.setWifiAdmission i (some { a with refusalDeclared := true })
              -- the stream's stations count as Asking Failed upstream from now on
              { pass with state := msrpPropagateListener s w a.streamId, decided := true }
            else pass

/-- What the admitted streams that are still wanted hold. -/
def msrpWifiAdmissionCommitted (s : AvbState cfg) : UInt32 × Nat :=
  (List.finRange cfg.listenerTableSize).foldl
    (fun (frames, bps) i =>
      match s.wifiAdmission i with
      | some a => if a.wanted ∧ a.refused = false then (frames + a.framesPerS, bps + a.bps.toNat)
          else (frames, bps)
      | none => (frames, bps))
    (0, 0)

def msrpWifiAdmissionUpdate (s : AvbState cfg) (wifiPort : Option cfg.Port) : AvbState cfg :=
  match wifiPort with
  | none => s
  | some w =>
      let s := { s with
        wifiAdmissionPort := some w
        wifiAdmission := fun i => (s.wifiAdmission i).map fun a => { a with wanted := false } }
      let s := (List.finRange cfg.listenerTableSize).foldl (msrpWifiAdmissionWant w) s
      let committed := msrpWifiAdmissionCommitted s
      let pass := (List.finRange cfg.listenerTableSize).foldl (msrpWifiAdmissionDecide w)
        { state := s, frames := committed.1, bps := committed.2, decided := false }
      let s := { pass.state with wifiFramesCommitted := pass.frames }
      if pass.decided then msrpWifiUcastRefresh s (some w) else s

/-- What follows every received talker or listener attribute. -/
def msrpWifiAfterDeclaration (s : AvbState cfg) : AvbState cfg :=
  if cfg.wifiUnicastStreams then
    let s := msrpWifiUcastRefresh s cfg.wifiPort
    if cfg.roleBridge then msrpWifiAdmissionUpdate s cfg.wifiPort else s
  else s

end EspAvb
