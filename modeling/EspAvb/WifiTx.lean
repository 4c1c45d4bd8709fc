import EspAvb.WifiBundle
import EspAvb.WifiReorder

/-!
# Bundlers and their histories

`avbnet.c`, the two senders of the Wi-Fi hop: the bridge bundles the streams of each of its stations,
a station its own streams for the bridge. Each has a table of slots, one for a stream, and keeps the
last bundles of a slot for the NACKs of the receiver. A call takes no time and is not interrupted.
-/

namespace EspAvb

/-- `wifi_bundle_hist_t` or `wifi_tx_hist_t`, with its octets in `hist_buf`. -/
structure WifiHist where
  seq : BitVec 16
  len : Nat
  sentUs : Nat
  /-- The last retransmission, 0 for none. -/
  retxUs : Nat
  octets : Buf

def WifiHist.zero : WifiHist := ⟨0, 0, 0, 0, []⟩

/-- `wifi_bundle_slot_t` or `wifi_tx_bundle_t`, with the times at which the frames of its open bundle
were added. -/
structure WifiTxSlot (κ : Type) where
  valid : Bool
  key : κ
  bundle : WifiBundleSlot
  addedUs : List Nat
  hasBuf : Bool
  hasHist : Bool
  hist : Nat → WifiHist
  histNext : Nat
  lastUs : Nat

/-- A bundle that was closed, numbered and, unless the hosted queue had no room, given to the driver. -/
structure WifiSent (κ : Type) where
  key : κ
  seq : BitVec 16
  octets : Buf
  addedUs : List Nat
  atUs : Nat
  given : Bool

structure WifiResent (κ : Type) where
  key : κ
  seq : BitVec 16
  octets : Buf

/-- The outcomes of the bundles that NACKs asked for. -/
structure WifiRetxStats where
  requested : UInt32
  retx : UInt32
  late : UInt32
  spaced : UInt32
  evicted : UInt32
  noSlot : UInt32
  noRoom : UInt32
  txFail : UInt32
  deriving DecidableEq

/-- A bundler with `n` slots, each with the last `m` of its bundles. -/
structure WifiTxTable (κ : Type) (n m : Nat) where
  nowUs : Nat
  slots : Fin n → WifiTxSlot κ
  sent : List (WifiSent κ)
  resent : List (WifiResent κ)
  stats : WifiRetxStats

def wifiBundleFlagRetx : UInt8 := 0x01
def wifiBundleIdleUs : Nat := 1000000
/-- Age limit for a NACK that carries no waiting time. -/
def wifiRetxMaxAgeUs : Nat := 18000
def wifiRetxSpacingUs : Nat := 12000
def wifiNackTripUs : Int := 2000

/-- What the send functions fill into the bundle. -/
def wifiBundleOut (slot : WifiBundleSlot) : Buf :=
  let hi := UInt8.ofBitVec (slot.seq.extractLsb' 8 8)
  let lo := UInt8.ofBitVec (slot.seq.extractLsb' 0 8)
  (((slot.buf.set (wifiBundleAvtp + 2) lo).set 34 hi).set 35 lo).set 36 (UInt8.ofNat slot.count)

namespace WifiTxSlot

variable {κ : Type} (s : WifiTxSlot κ) (m : Nat)

/-- The entry that `send` writes to the history. -/
def sentHist (nowUs : Nat) : WifiHist :=
  { seq := s.bundle.seq, len := (wifiBundleOut s.bundle).length % 2 ^ 16, sentUs := nowUs, retxUs := 0
    octets := wifiBundleOut s.bundle }

/-- `wifi_bundle_send` and `wifi_tx_bundle_send`; a station makes its history here. -/
def send (histAlloc : Bool) (nowUs : Nat) : WifiTxSlot κ :=
  let s := { s with hasHist := s.hasHist || histAlloc }
  { s with
    bundle := wifiBundleSend s.bundle
    addedUs := []
    hist := if s.hasHist then Function.update s.hist s.histNext (s.sentHist nowUs) else s.hist
    histNext := if s.hasHist then (s.histNext + 1) % m else s.histNext }

/-- The end of both add functions, short of sending a full bundle. -/
def put (cfg : WifiBundleConfig) (nowUs : Nat) (frame : Buf) : WifiTxSlot κ :=
  let s :=
    if s.bundle.count = 0 then
      { s with bundle.buf := wifiBundleBegin cfg frame, bundle.firstUs := nowUs, addedUs := [] }
    else s
  { s with
    bundle.buf := s.bundle.buf ++ wifiBundlePut cfg s.bundle.buf (frame.drop wifiBundleAvtp)
    bundle.count := s.bundle.count + 1
    addedUs := s.addedUs ++ [nowUs] }

/-- The slot is taken over for another stream. -/
def claim (key : κ) : WifiTxSlot κ :=
  { s with valid := true, key, bundle.count := 0, addedUs := [], hist := fun _ => .zero, histNext := 0 }

/-- A partial bundle that is left behind. -/
def discard : WifiTxSlot κ := { s with bundle.count := 0, addedUs := [] }

end WifiTxSlot

namespace WifiTxTable

variable {κ : Type} {n m : Nat} (b : WifiTxTable κ n m)

def setSlot (i : Fin n) (s : WifiTxSlot κ) : WifiTxTable κ n m :=
  { b with slots := Function.update b.slots i s }

/-- A slot's bundle is sent, if it has one. -/
def send (histAlloc given : Bool) (i : Fin n) : WifiTxTable κ n m :=
  let s := b.slots i
  if s.bundle.count = 0 then b
  else
    { b.setSlot i (s.send m histAlloc b.nowUs) with
      sent := b.sent ++
        [{ key := s.key, seq := s.bundle.seq, octets := wifiBundleOut s.bundle, addedUs := s.addedUs
           atUs := b.nowUs, given }] }

/-- The end of both add functions: a bundle with all its frames is sent. -/
def append (cfg : WifiBundleConfig) (histAlloc given : Bool) (i : Fin n) (frame : Buf) :
    WifiTxTable κ n m :=
  let b := b.setSlot i ((b.slots i).put cfg b.nowUs frame)
  if cfg.frames ≤ (b.slots i).bundle.count then b.send histAlloc given i else b

/-! ### Retransmission -/

inductive RetxOutcome where
  | evicted
  | late
  | spaced
  | resend (k : Nat)
  deriving DecidableEq

/-- What the history says to a bundle that a NACK asks for; a `budgetUs` of 0 is unknown. -/
def retxOutcome (i : Fin n) (budgetUs nowUs : Nat) (want : BitVec 16) : RetxOutcome :=
  let hist := (b.slots i).hist
  match (List.range m).find? fun k => (hist k).len ≠ 0 ∧ (hist k).seq = want with
  | none => .evicted
  | some k =>
      if (if budgetUs = 0 then (hist k).sentUs + wifiRetxMaxAgeUs < nowUs
          else (budgetUs : Int) - wifiNackTripUs < wifiRetxMinBudgetUs) then .late
      else if (hist k).retxUs ≠ 0 ∧ nowUs < (hist k).retxUs + wifiRetxSpacingUs then .spaced
      else .resend k

/-- The entry's retransmission is dated before the copy is tried. -/
def retxMark (i : Fin n) (k nowUs : Nat) : WifiTxTable κ n m :=
  let s := b.slots i
  b.setSlot i { s with hist := Function.update s.hist k { s.hist k with retxUs := nowUs } }

/-- The copy of entry `k`, flagged, is given to the driver. -/
def retxSend (i : Fin n) (k : Nat) : WifiTxTable κ n m :=
  let s := b.slots i
  { b with
    resent := b.resent ++
      [{ key := s.key, seq := (s.hist k).seq
         octets := ((s.hist k).octets.take (s.hist k).len).modify 37 (· ||| wifiBundleFlagRetx) }] }

def count (f : WifiRetxStats → WifiRetxStats) : WifiTxTable κ n m := { b with stats := f b.stats }

end WifiTxTable

/-! ## The bridge -/

/-- `WIFI_BUNDLE_SLOTS` and `WIFI_BUNDLE_HISTORY`; a slot is for a station and a stream. -/
abbrev WifiBridge := WifiTxTable (Buf × Buf) 8 48

/-- What an add function reads around it: whether the hosted queue has room for a slot's bundle, and
whether memory is there. -/
structure WifiTxEnv (n : Nat) where
  given : Fin n → Bool
  bufAlloc : Bool
  histAlloc : Bool

/-- The bundler's slots so far, the slot of the stream and a spare one. -/
structure WifiScan where
  bridge : WifiBridge
  slot : Option (Fin 8)
  spare : Option (Fin 8)

namespace WifiBridge

variable (cfg : WifiBundleConfig) (env : WifiTxEnv 8)

/-- One turn of the loop of `wifi_bundle_add`. -/
def scanSlot (key : Buf × Buf) (c : WifiScan) (i : Fin 8) : WifiScan :=
  let candidate := c.bridge.slots i
  let b :=
    if candidate.valid ∧ candidate.bundle.count > 0 ∧
        candidate.bundle.firstUs + wifiBundleMaxAgeUs < c.bridge.nowUs then
      c.bridge.send false (env.given i) i
    else c.bridge
  let candidate := b.slots i
  if candidate.valid ∧ candidate.key = key then { c with bridge := b, slot := some i }
  else if c.spare = none ∧ (¬candidate.valid ∨ candidate.bundle.count = 0 ∧
      candidate.bundle.firstUs + wifiBundleIdleUs < b.nowUs) then
    { c with bridge := b, spare := some i }
  else { c with bridge := b }

/-- A frame for the bundle of slot `i`. -/
def addTo (b : WifiBridge) (i : Fin 8) (frame : Buf) : WifiBridge :=
  let s := b.slots i
  let entryLen := wifiBundleEntryCost cfg s.bundle.buf s.bundle.count (frame.drop wifiBundleAvtp)
  let b :=
    if s.bundle.count > 0 ∧ wifiBundleFillBytes < s.bundle.buf.length + entryLen then
      b.send false (env.given i) i
    else b
  b.append cfg false (env.given i) i frame

/-- `wifi_bundle_add` -/
def wifiBundleAdd (b : WifiBridge) (frame : Buf) : WifiBridge :=
  if ¬wifiBundleTakes cfg frame then b
  else
    let key := (frame.slice 0 6, frame.slice 22 8)
    let c := (List.finRange 8).foldl (scanSlot env key) ⟨b, none, none⟩
    match c.slot, c.spare with
    | some i, _ => addTo cfg env c.bridge i frame
    | none, none => c.bridge
    | none, some i =>
        let s := c.bridge.slots i
        if ¬s.hasBuf ∧ ¬env.bufAlloc then c.bridge
        else
          let s := { s with hasBuf := true, hasHist := s.hasHist || env.histAlloc }
          addTo cfg env (c.bridge.setSlot i (s.claim key)) i frame

end WifiBridge

/-- What `wifi_nack_handle` reads around it, for each bundle the NACK asks for. -/
structure WifiNackEnv where
  retxBuf : Bool
  nowUs : Nat → Nat
  room : Nat → Bool
  txOk : Nat → Bool

/-- The fields of a NACK frame. -/
def nackFirst (nack : Buf) : BitVec 16 :=
  BitVec.ofNat 16 ((nack.getD 30 0).toNat * 256 + (nack.getD 31 0).toNat)

def nackCount (nack : Buf) : Nat := (nack.getD 32 0).toNat

def nackBudgetUs (nack : Buf) : Nat :=
  ((nack.getD 33 0).toNat * 256 + (nack.getD 34 0).toNat) * 100

namespace WifiBridge

/-- The loop of `wifi_nack_handle` over the bundles asked for, `left` of them. -/
def nackLoop (env : WifiNackEnv) (i : Fin 8) (first : BitVec 16) (budgetUs count : Nat) :
    Nat → WifiBridge → WifiBridge
  | 0, b => b
  | left + 1, b =>
      let j := count - (left + 1)
      let next := nackLoop env i first budgetUs count left
      match b.retxOutcome i budgetUs (env.nowUs j) (first + BitVec.ofNat 16 j) with
      | .evicted => next (b.count fun st => { st with evicted := st.evicted + 1 })
      | .late => next (b.count fun st => { st with late := st.late + 1 })
      | .spaced => next (b.count fun st => { st with spaced := st.spaced + 1 })
      | .resend k =>
          let b := b.retxMark i k (env.nowUs j)
          if ¬env.room j then
            b.count fun st => { st with noRoom := st.noRoom + UInt32.ofNat (left + 1) }
          else
            next ((b.retxSend i k).count fun st =>
              if env.txOk j then { st with retx := st.retx + 1 }
              else { st with txFail := st.txFail + 1 })

/-- `wifi_nack_handle` -/
def wifiNackHandle (env : WifiNackEnv) (b : WifiBridge) (nack : Buf) : WifiBridge :=
  let count := nackCount nack
  let asked := UInt32.ofNat count
  let b := b.count fun st => { st with requested := st.requested + asked }
  if ¬env.retxBuf then b.count fun st => { st with noRoom := st.noRoom + asked }
  else
    let key := (nack.slice 6 6, nack.slice 18 8)
    match (List.finRange 8).find? fun i =>
      (b.slots i).valid ∧ (b.slots i).hasHist ∧ (b.slots i).key = key with
    | some i => nackLoop env i (nackFirst nack) (nackBudgetUs nack) count count b
    | none => b.count fun st => { st with noSlot := st.noSlot + asked }

end WifiBridge

/-! ## A station -/

/-- `WIFI_TX_BUNDLE_SLOTS` and `WIFI_TX_HISTORY`; a slot is for a stream. -/
abbrev WifiStation := WifiTxTable Buf 2 10

namespace WifiStation

variable (cfg : WifiBundleConfig) (env : WifiTxEnv 2)

/-- The slot of a stream, or one that it can take over. -/
def slotFor (b : WifiStation) (streamId : Buf) : Option (Fin 2 × WifiStation) :=
  match (List.finRange 2).find? fun i => (b.slots i).valid ∧ (b.slots i).key = streamId with
  | some i => some (i, b)
  | none =>
      ((List.finRange 2).find? fun i =>
        ¬(b.slots i).valid ∨ (b.slots i).lastUs + wifiBundleIdleUs < b.nowUs).map fun i =>
          (i, b.setSlot i ((b.slots i).claim streamId))

/-- `wifi_tx_bundle_add`. `env.bufAlloc` is that the table of slots is there or can be made. -/
def wifiTxBundleAdd (b : WifiStation) (frame : Buf) : WifiStation :=
  if ¬(frame.getD 12 0 = 0x81 ∧ frame.getD 13 0 = 0x00 ∧ wifiBundleTakes cfg frame) ∨
      ¬env.bufAlloc then b
  else
    match slotFor b (frame.slice 22 8) with
    | none => b
    | some (i, b) =>
        let s := { b.slots i with lastUs := b.nowUs }
        let s :=
          if s.bundle.count > 0 ∧ s.bundle.firstUs + wifiTxBundleStaleUs < b.nowUs then s.discard else s
        let b := b.setSlot i s
        let entryLen := wifiBundleEntryCost cfg s.bundle.buf s.bundle.count (frame.drop wifiBundleAvtp)
        let b :=
          if s.bundle.count > 0 ∧ (wifiBundleFillBytes < s.bundle.buf.length + entryLen ∨
              s.bundle.firstUs + wifiTxBundleMaxAgeUs < b.nowUs) then
            b.send env.histAlloc true i
          else b
        b.append cfg env.histAlloc true i frame

/-- The loop of `wifi_tx_nack_handle` over the bundles asked for, `left` of them. -/
def nackLoop (env : WifiNackEnv) (i : Fin 2) (first : BitVec 16) (budgetUs count : Nat) :
    Nat → WifiStation → WifiStation
  | 0, b => b
  | left + 1, b =>
      let j := count - (left + 1)
      let next := nackLoop env i first budgetUs count left
      match b.retxOutcome i budgetUs (env.nowUs j) (first + BitVec.ofNat 16 j) with
      | .evicted => next (b.count fun st => { st with evicted := st.evicted + 1 })
      | .late => next (b.count fun st => { st with late := st.late + 1 })
      | .spaced => next b
      | .resend k =>
          next (((b.retxMark i k (env.nowUs j)).retxSend i k).count fun st =>
            if env.txOk j then { st with retx := st.retx + 1 } else st)

/-- `wifi_tx_nack_handle`, once there is a table of slots. -/
def wifiTxNackHandle (env : WifiNackEnv) (b : WifiStation) (nack : Buf) : WifiStation :=
  if ¬env.retxBuf then b
  else
    let count := nackCount nack
    match (List.finRange 2).find? fun i =>
      (b.slots i).valid ∧ (b.slots i).hasHist ∧ (b.slots i).key = nack.slice 18 8 with
    | some i => nackLoop env i (nackFirst nack) (nackBudgetUs nack) count count b
    | none => b

end WifiStation

/-! ## Runs -/

/-- `waitUs` after the event before, a stream frame, a NACK, or a look at the bundle under way. -/
inductive WifiTxEvent (n : Nat) where
  | frame (waitUs : Nat) (env : WifiTxEnv n) (octets : Buf)
  | nack (waitUs : Nat) (env : WifiNackEnv) (octets : Buf)
  | poll (waitUs : Nat)

def WifiTxTable.wait {κ : Type} {n m : Nat} (b : WifiTxTable κ n m) (waitUs : Nat) :
    WifiTxTable κ n m :=
  { b with nowUs := b.nowUs + waitUs }

def wifiBridgeStep (cfg : WifiBundleConfig) (b : WifiBridge) : WifiTxEvent 8 → WifiBridge
  | .frame waitUs env octets => WifiBridge.wifiBundleAdd cfg env (b.wait waitUs) octets
  | .nack waitUs env octets => WifiBridge.wifiNackHandle env (b.wait waitUs) octets
  | .poll waitUs => b.wait waitUs

def wifiStationStep (cfg : WifiBundleConfig) (b : WifiStation) : WifiTxEvent 2 → WifiStation
  | .frame waitUs env octets => WifiStation.wifiTxBundleAdd cfg env (b.wait waitUs) octets
  | .nack waitUs env octets => WifiStation.wifiTxNackHandle env (b.wait waitUs) octets
  | .poll waitUs => b.wait waitUs

def WifiTxSlot.blank {κ : Type} (key : κ) : WifiTxSlot κ :=
  { valid := false, key, bundle := .blank 0, addedUs := [], hasBuf := false, hasHist := false
    hist := fun _ => .zero, histNext := 0, lastUs := 0 }

def WifiTxTable.blank {κ : Type} (n m : Nat) (key : κ) : WifiTxTable κ n m :=
  { nowUs := 0, slots := fun _ => .blank key, sent := [], resent := []
    stats := ⟨0, 0, 0, 0, 0, 0, 0, 0⟩ }

end EspAvb
