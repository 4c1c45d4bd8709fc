import EspAvb.MsrpWifi

/-!
# Receiving MSRP

`mrp.c` §6a: `mrp_rx_msrp` walks a received MRPDU and hands on, attribute by attribute, what it
finds. The walk is written over an arbitrary handler, and `mrpRxMsrp` is the walk with the handlers
of the tables. The JoinTimer a LeaveAll arms is left to the run, where it may fire at any time.
-/

namespace EspAvb

variable {cfg : Config}

/-! ### One attribute -/

/-- LeaveAll for one attribute type; those of Talker Advertise are counted for the hold-off. -/
def msrpDispatchLeaveall (s : AvbState cfg) (p : cfg.Port) (attrType : MsrpAttrType) :
    AvbState cfg :=
  match attrType with
  | .talkerAdvertise | .talkerFailed =>
      let s :=
        if attrType = .talkerAdvertise then
          { s with
            talkerLeaveallCount :=
              Function.update s.talkerLeaveallCount p (s.talkerLeaveallCount p + 1)
            talkerLeaveallUs := Function.update s.talkerLeaveallUs p s.nowUs }
        else s
      { s with
        talkers := Function.update s.talkers p fun i => (s.talkers p i).map fun e =>
          if e.attrType = attrType then { e with sm := mrpSmStep s.nowUs e.sm .rLA } else e }
  | .listener =>
      { s with
        listeners := Function.update s.listeners p fun i => (s.listeners p i).map fun e =>
          { e with sm := mrpSmStep s.nowUs e.sm .rLA } }
  | .domain =>
      { s with
        domains := Function.update s.domains p fun i => (s.domains p i).map fun e =>
          { e with sm := mrpSmStep s.nowUs e.sm .rLA } }

def firstEvent (event : UInt8) : MrpEvent := mrp3peToEvent (threePeToInt event).1

/-- Writes down the entry that an Lv of its peer finds. -/
def msrpLogPeerLeft (s : AvbState cfg) (p : cfg.Port) (event : UInt8) (sm : MrpSm) : AvbState cfg :=
  if firstEvent event = .rLv then s.addLog (.peerLeft p sm) else s

/-- A received talker value as its entry takes it: the value of a declaration of our own stays. -/
def msrpTalkerReceive (nowUs : Nat) (wire : MsrpTalkerMessage) (srcAddr : Option EthAddr)
    (e : MsrpTalkerEntry cfg) : MsrpTalkerEntry cfg :=
  { e with
    wire := if e.locallyOriginated then e.wire else wire
    lastRefreshUs := nowUs
    srcMac := srcAddr.getD e.srcMac
    sm := mrpSmStep nowUs e.sm (firstEvent wire.event) }

def MsrpAttrType.twin : MsrpAttrType → MsrpAttrType
  | .talkerFailed => .talkerAdvertise
  | _ => .talkerFailed

/-- Advertise and Failed are alternate declarations: registering one displaces the other. -/
def msrpDisplaceTwin (s : AvbState cfg) (p : cfg.Port) (streamId : UniqueId)
    (attrType : MsrpAttrType) : AvbState cfg :=
  match msrpTalkerFind s p streamId attrType.twin with
  | none => s
  | some i =>
      match s.talkers p i with
      | none => s
      | some twin =>
          if twin.sm.registrar = .MT then s
          else
            let s := mrpOnTalkerRegistrarChange s p attrType.twin twin.wire .deregister
            match s.talkers p i with
            | none => s
            | some twin =>
                (s.setTalker p i
                  (some { twin with sm := { twin.sm with registrar := .MT } })).addLog
                    (.unregistered p twin.sm)

def msrpRxTalkerAttr (s : AvbState cfg) (p : cfg.Port) (attrType : MsrpAttrType)
    (wire : MsrpTalkerMessage) (srcAddr : Option EthAddr) : MrpRegTransition × AvbState cfg :=
  match msrpTalkerFindOrInsert s p wire.info.streamId attrType with
  | none => (.none, s)
  | some (i, s) =>
      match s.talkers p i with
      | none => (.none, s)
      | some e =>
          let e' := msrpTalkerReceive s.nowUs wire srcAddr e
          let s := (msrpLogPeerLeft s p wire.event e.sm).setTalker p i (some e')
          let trans := mrpRegTransition e.sm.registrar e'.sm.registrar
          -- AVB Lite keeps both: a talker refuses one listener with a unicast Talker Failed
          if s.avbLite = false ∧ (e'.sm.registrar = .IN ∨ e'.sm.registrar = .LV) then
            (trans, msrpDisplaceTwin s p wire.info.streamId attrType)
          else (trans, s)

def msrpListenerReceive (nowUs : Nat) (wire : MsrpListenerMessage) (srcAddr : Option EthAddr)
    (e : MsrpListenerEntry) : MsrpListenerEntry :=
  { e with
    wire := wire
    peerMac := srcAddr.getD e.peerMac
    lastRefreshUs := nowUs
    sm := mrpSmStep nowUs e.sm (firstEvent wire.event)
    peerDecl := wire.declaration }

/-- The Registrar edge, whether the peer's declaration changed, and the new state. -/
def msrpRxListenerAttr (s : AvbState cfg) (p : cfg.Port) (wire : MsrpListenerMessage)
    (srcAddr : Option EthAddr) : MrpRegTransition × Bool × AvbState cfg :=
  match msrpListenerFindOrInsert s p wire.streamId with
  | none => (.none, false, s)
  | some (i, s) =>
      match s.listeners p i with
      | none => (.none, false, s)
      | some e =>
          let e' := msrpListenerReceive s.nowUs wire srcAddr e
          (mrpRegTransition e.sm.registrar e'.sm.registrar, e.peerDecl ≠ wire.declaration,
            (msrpLogPeerLeft s p wire.event e.sm).setListener p i (some e'))

def msrpRxDomainAttr (s : AvbState cfg) (p : cfg.Port) (wire : MsrpDomainMessage) :
    MrpRegTransition × AvbState cfg :=
  match msrpDomainFindOrInsert s p wire.srClassId with
  | none => (.none, s)
  | some (i, s) =>
      match s.domains p i with
      | none => (.none, s)
      | some e =>
          let sm := mrpSmStep s.nowUs e.sm (firstEvent wire.event)
          (mrpRegTransition e.sm.registrar sm.registrar,
            s.setDomain p i (some { wire, sm }))

def msrpRxTalker (s : AvbState cfg) (p : cfg.Port) (attrType : MsrpAttrType)
    (wire : MsrpTalkerMessage) (srcAddr : Option EthAddr) : AvbState cfg :=
  let (tr, s) := msrpRxTalkerAttr s p attrType wire srcAddr
  msrpWifiAfterDeclaration (mrpOnTalkerRegistrarChange s p attrType wire tr)

def msrpRxListener (s : AvbState cfg) (p : cfg.Port) (wire : MsrpListenerMessage)
    (srcAddr : Option EthAddr) : AvbState cfg :=
  let (tr, changed, s) := msrpRxListenerAttr s p wire srcAddr
  msrpWifiAfterDeclaration (mrpOnListenerRegistrarChange s p wire.streamId tr changed)

def msrpRxDomain (s : AvbState cfg) (p : cfg.Port) (wire : MsrpDomainMessage) : AvbState cfg :=
  let (tr, s) := msrpRxDomainAttr s p wire
  mrpOnDomainRegistrarChange s p wire tr

/-- What the walk over an MRPDU hands on. -/
inductive MsrpDispatch where
  | leaveAll (attrType : MsrpAttrType)
  | talker (attrType : MsrpAttrType) (wire : MsrpTalkerMessage)
  | listener (wire : MsrpListenerMessage)
  | domain (wire : MsrpDomainMessage)
  deriving DecidableEq, Repr

def MsrpDispatch.isValue : MsrpDispatch → Bool
  | .leaveAll _ => false
  | _ => true

def msrpDispatch (p : cfg.Port) (srcAddr : Option EthAddr) (s : AvbState cfg) :
    MsrpDispatch → AvbState cfg
  | .leaveAll attrType => msrpDispatchLeaveall s p attrType
  | .talker attrType wire => msrpRxTalker s p attrType wire srcAddr
  | .listener wire => msrpRxListener s p wire srcAddr
  | .domain wire => msrpRxDomain s p wire

/-! ### The walk over an MRPDU -/

def MsrpAttrType.ofCode : Nat → Option MsrpAttrType
  | 1 => some .talkerAdvertise
  | 2 => some .talkerFailed
  | 3 => some .listener
  | 4 => some .domain
  | _ => none

def msrpFirstValueLen : MsrpAttrType → Nat
  | .talkerAdvertise => 25
  | .talkerFailed => 34
  | .listener => 8
  | .domain => 4

def avbMaxMsgLen : Nat := 600
def msrpRxMaxValues : Nat := 64

/-- `msrp_be_add` from the last octet on: the carry runs until nothing is left to add. -/
def msrpBeAddRev : List UInt8 → Nat → List UInt8
  | [], _ => []
  | b :: rest, add =>
      if add = 0 then b :: rest
      else
        let sum := b.toNat + add % 256
        UInt8.ofNat sum :: msrpBeAddRev rest (add / 256 + sum / 256)

@[simp]
theorem length_msrpBeAddRev (bytes : List UInt8) (add : Nat) :
    (msrpBeAddRev bytes add).length = bytes.length := by
  induction bytes generalizing add with
  | nil => rfl
  | cons b rest ih =>
      rw [msrpBeAddRev]
      split
      · rfl
      · simp [ih]

def msrpBeAdd {n : Nat} (a : Octets n) (add : Nat) : Octets n :=
  ⟨(msrpBeAddRev a.bytes.reverse add).reverse, by simp [a.length_eq]⟩

def octetAt (raw : List UInt8) (i : Nat) : Nat := (raw.getD i 0).toNat

/-- The 25 octets of a talker's FirstValue. -/
def readTalkerAdvInfo (buf : List UInt8) : TalkerAdvInfo :=
  let bits := BitVec.ofNat 8 (octetAt buf 20)
  { streamId := .read 8 buf
    streamDestAddr := .read 6 (buf.drop 8)
    vlanId := .read 2 (buf.drop 14)
    tspecMaxFrameSize := .read 2 (buf.drop 16)
    tspecMaxFrameInterval := .read 2 (buf.drop 18)
    reserved := bits.extractLsb' 0 4
    rank := bits.extractLsb' 4 1
    priority := bits.extractLsb' 5 3
    accumulatedLatency := .read 4 (buf.drop 21) }

/-- Value `v` of a vector whose FirstValue starts at `fv`: FirstValue plus `v`, and the event. -/
def msrpRxValue (raw : List UInt8) (attrType : MsrpAttrType) (fv numVals v : Nat) :
    Option MsrpDispatch :=
  let pe3 := fv + msrpFirstValueLen attrType
  let pe4 := pe3 + (numVals + 2) / 3
  let (e1, e2, e3) := threePeToInt (raw.getD (pe3 + v / 3) 0)
  let ev := if v % 3 = 0 then e1 else if v % 3 = 1 then e2 else e3
  let event := intTo3pe ev 0 0
  let buf := raw.drop fv
  match attrType with
  | .domain =>
      -- packed domain values are not expected: the first only
      if 0 < v then none
      else some (.domain
        { srClassId := raw.getD fv 0
          srClassPriority := raw.getD (fv + 1) 0
          srClassVid := .read 2 (buf.drop 2)
          event })
  | .talkerAdvertise | .talkerFailed =>
      let info := readTalkerAdvInfo buf
      let info := { info with
        streamId := msrpBeAdd info.streamId v
        streamDestAddr := msrpBeAdd info.streamDestAddr v }
      if attrType = .talkerAdvertise then
        some (.talker attrType { MsrpTalkerMessage.zero with info, event })
      else
        some (.talker attrType
          { info
            failureBridgeId := .read 8 (buf.drop 25)
            failureCode := raw.getD (fv + 33) 0
            event })
  | .listener =>
      let d4 := octetAt raw (pe4 + v / 4)
      some (.listener
        { streamId := msrpBeAdd (.read 8 buf) v
          event
          declaration := .ofCode (d4 / 2 ^ (6 - 2 * (v % 4)) % 4) })

section Walk

variable {σ : Type*} (dispatch : σ → MsrpDispatch → σ)

/-- The values of one vector, at most `msrpRxMaxValues` of them. -/
def msrpRxValues (raw : List UInt8) (attrType : MsrpAttrType) (fv numVals : Nat) (s : σ) : σ :=
  (List.range (min numVals msrpRxMaxValues)).foldl
    (fun s v =>
      match msrpRxValue raw attrType fv numVals v with
      | none => s
      | some d => dispatch s d) s

def msrpVectorLen (attrType : MsrpAttrType) (numVals : Nat) : Nat :=
  2 + msrpFirstValueLen attrType + (numVals + 2) / 3
    + (if attrType = .listener then (numVals + 3) / 4 else 0)

theorem two_le_msrpVectorLen (attrType : MsrpAttrType) (numVals : Nat) :
    2 ≤ msrpVectorLen attrType numVals := by
  unfold msrpVectorLen
  omega

/-- The vectors of one message from `voff` to `listEnd`. `leaveallTypes` are the attribute types
whose LeaveAll has been handed on; AVB Lite hands on none. -/
def msrpRxVectors (lite : Bool) (raw : List UInt8) (attrType : MsrpAttrType) (listEnd voff : Nat)
    (leaveallTypes : List MsrpAttrType) (s : σ) : List MsrpAttrType × σ :=
  if voff + 2 ≤ listEnd then
    let vh := octetAt raw voff * 256 + octetAt raw (voff + 1)
    if vh = 0 then (leaveallTypes, s)
    else
      let leaveall := vh / 0x2000 % 2 = 1
      let numVals := vh % 0x2000
      let vecLen := msrpVectorLen attrType numVals
      if listEnd < voff + vecLen then (leaveallTypes, s)
      else
        let fires : Bool := leaveall ∧ lite = false ∧ attrType ∉ leaveallTypes
        let s := if fires then dispatch s (.leaveAll attrType) else s
        let leaveallTypes := if fires then attrType :: leaveallTypes else leaveallTypes
        -- a pure LeaveAll has no values to decode
        let s := if numVals = 0 then s
          else msrpRxValues dispatch raw attrType (voff + 2) numVals s
        msrpRxVectors lite raw attrType listEnd (voff + vecLen) leaveallTypes s
  else (leaveallTypes, s)
termination_by listEnd - voff
decreasing_by
  have := two_le_msrpVectorLen attrType
    ((octetAt raw voff * 256 + octetAt raw (voff + 1)) % 0x2000)
  omega

/-- The messages from `offset` on. One of an unknown type is stepped over. -/
def msrpRxMessages (lite : Bool) (raw : List UInt8) (offset : Nat)
    (leaveallTypes : List MsrpAttrType) (s : σ) : σ :=
  if offset + 4 ≤ raw.length then
    if octetAt raw offset = 0 then s
    else
      let listLen := octetAt raw (offset + 2) * 256 + octetAt raw (offset + 3)
      let listEnd := offset + 4 + listLen
      if raw.length < listEnd then s
      else
        match MsrpAttrType.ofCode (octetAt raw offset) with
        | none => msrpRxMessages lite raw listEnd leaveallTypes s
        | some attrType =>
            let (leaveallTypes, s) :=
              msrpRxVectors dispatch lite raw attrType listEnd (offset + 4) leaveallTypes s
            msrpRxMessages lite raw listEnd leaveallTypes s
  else s
termination_by raw.length - offset

/-- The walk over a received MRPDU: what follows the ProtocolVersion, up to the buffer's end. -/
def mrpRxWalk (lite : Bool) (pdu : List UInt8) (s : σ) : σ :=
  msrpRxMessages dispatch lite ((pdu.drop 1).take (avbMaxMsgLen - 1)) 0 [] s

end Walk

def mrpRxMsrp (s : AvbState cfg) (p : cfg.Port) (pdu : List UInt8) (srcAddr : Option EthAddr) :
    AvbState cfg :=
  mrpRxWalk (msrpDispatch p srcAddr) s.avbLite pdu s

end EspAvb
