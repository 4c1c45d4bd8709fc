import EspAvb.Lib.Octets
import EspAvb.Lib.ReadTrace
import EspAvb.WifiBundle
import EspAvb.WifiReorder

/-!
# Unpacking of Wi-Fi bundles

`avbnet.c`: `avb_unified_rx_cb_inner` hands a bundle to `wifi_bundle_receive`, that one hands it or
the bundles it holds to `wifi_bundle_split`, and this hands each frame it takes out to
`avb_unified_rx_cb_inner` again. The calls that are still to return stand on a stack. Buffers are
blocks of the heap; every access is made through the block, and one that falls outside of it, or
meets a freed block, is remembered in `bad`.

The NACKs themselves and the counters are left out.
-/

namespace EspAvb

open Traced SeqWindow

abbrev BufId := Nat

/-- `wifi_held_bundle_t` -/
structure WifiHeld where
  seq : BitVec 16
  buf : BufId

def wifiRxStreams : Nat := 4

/-- `wifi_bundle_rx_t` -/
structure WifiRxEntry where
  valid : Bool
  seeded : Bool
  streamId : Buf
  lastRxUs : Int
  expected : BitVec 16
  nackNext : BitVec 16
  deadlineUs : Int
  lastNackUs : Int
  held : List WifiHeld

def WifiRxEntry.blank : WifiRxEntry := ⟨false, false, [], 0, 0, 0, 0, 0, []⟩

/-- A call that is still to be made or to go on. -/
inductive WifiCall where
  /-- `avb_unified_rx_cb_inner(NULL, buf, ...)` -/
  | inner (buf : BufId)
  | receive (buf : BufId)
  | split (buf : BufId)
  /-- the loop of a split, with the octets that the buffer had when it began -/
  | entries (compact : Bool) (buf : BufId) (off left : Nat) (begun : Buf)
  /-- `wifi_bundle_receive` behind the split of the bundle that was next -/
  | accepted (entry : Fin wifiRxStreams) (nowUs : Int)
  /-- `wifi_bundle_drain` behind the split of a held bundle -/
  | drained (entry : Fin wifiRxStreams) (nowUs : Int)

structure WifiUnpack where
  blocks : BufId → Option Buf
  streams : Fin wifiRxStreams → WifiRxEntry
  calls : List WifiCall
  delivered : List Buf
  bad : Bool

/-- What one step takes from outside: the clock, the hold time it works out from the presentation
time of the earliest held frame, and the block `malloc` would give. -/
structure WifiRxOracle where
  nowUs : Int
  holdUntilUs : Option UInt32 → Int
  block : Option BufId

namespace WifiUnpack

variable (o : WifiRxOracle) (c : WifiUnpack)

/-- A computation that reads one buffer, of the length that was received. -/
def look {α : Type} (buf : BufId) (t : (Nat → UInt8) → Nat → Traced α) : α × WifiUnpack :=
  match c.blocks buf with
  | none => ((t (fun _ => 0) 0).value, { c with bad := true })
  | some octets =>
      let read := t (fun i => octets.getD i 0) octets.length
      (read.value, { c with bad := c.bad || read.reads.any (octets.length ≤ ·) })

def free (buf : BufId) : WifiUnpack :=
  { c with
    blocks := Function.update c.blocks buf none
    bad := c.bad || (c.blocks buf).isNone }

/-- `malloc` and the copy into the new block; a block in use is never given out. -/
def alloc (content : Buf) : Option (BufId × WifiUnpack) :=
  match o.block with
  | none => none
  | some id =>
      if c.blocks id = none then
        some (id, { c with blocks := Function.update c.blocks id (some content) })
      else none

def call (calls : List WifiCall) : WifiUnpack := { c with calls := calls ++ c.calls }

def setEntry (ix : Fin wifiRxStreams) (rx : WifiRxEntry) : WifiUnpack :=
  { c with streams := Function.update c.streams ix rx }

end WifiUnpack

/-! ### What is read of a frame -/

def wifiBundleIsAt (mem : Nat → UInt8) (len : Nat) : Traced Bool :=
  if len < wifiBundleEntries then pure false
  else do
    let ethertype ← octets mem 12 2
    let inner ← octets mem 16 2
    let subtype ← octet mem wifiBundleAvtp
    let tag ← octets mem 30 4
    pure (decide (ethertype = [0x81, 0x00] ∧ inner = [0x22, 0xf0] ∧ subtype = wifiBundleSubtype
      ∧ tag = wifiBundleTag))

def wifiNackAvtp : Nat := 14
/-- "AVBN" -/
def wifiNackTag : Buf := [0x41, 0x56, 0x42, 0x4e]

def wifiNackIsAt (mem : Nat → UInt8) (len : Nat) : Traced Bool :=
  if len < wifiNackAvtp + 19 then pure false
  else do
    let ethertype ← octets mem 12 2
    let subtype ← octet mem wifiNackAvtp
    let tag ← octets mem 26 4
    pure (decide (ethertype = [0x22, 0xf0] ∧ subtype = wifiBundleSubtype ∧ tag = wifiNackTag))

/-- A PTP frame with a priority tag. -/
def ptpTaggedAt (mem : Nat → UInt8) (len : Nat) : Traced Bool :=
  if len < 18 then pure false
  else do
    let ethertype ← octets mem 12 2
    let inner ← octets mem 16 2
    pure (decide (ethertype = [0x81, 0x00] ∧ inner = [0x88, 0xf7]))

inductive WifiRxKind where
  | dropped
  | bundle
  | other

/-- How `avb_unified_rx_cb_inner` takes a frame of the Wi-Fi side. -/
def wifiRxKindAt (mem : Nat → UInt8) (len : Nat) : Traced WifiRxKind :=
  if len < 14 then pure .dropped
  else do
    let ptp ← ptpTaggedAt mem len
    if ptp then pure .other
    else do
      let bundle ← wifiBundleIsAt mem len
      if bundle then pure .bundle
      else do
        let nack ← wifiNackIsAt mem len
        pure (if nack then .dropped else .other)

structure WifiBundleHead where
  seq : BitVec 16
  streamId : Buf

def wifiBundleHeadAt (mem : Nat → UInt8) (_len : Nat) : Traced WifiBundleHead := do
  let hi ← octet mem 34
  let lo ← octet mem 35
  let streamId ← octets mem 22 8
  let _peer ← octets mem 6 6
  pure ⟨hi.toBitVec ++ lo.toBitVec, streamId⟩

/-- The flags of a bundle, where a retransmission is counted. -/
def wifiBundleFlagsAt (mem : Nat → UInt8) (_len : Nat) : Traced UInt8 := octet mem 37

/-- `wifi_bundle_first_pts` -/
def wifiBundleFirstPtsAt (mem : Nat → UInt8) (len : Nat) : Traced (Option UInt32) := do
  let flags ← octet mem 37
  let avtp := if flags &&& wifiBundleFlagCompact ≠ 0 then wifiBundleEntries else wifiBundleEntries + 2
  let stamp :=
    if flags &&& wifiBundleFlagCompact ≠ 0 then wifiBundleEntries + wifiCompactHeader + 2
    else wifiBundleEntries + 2 + 12
  let need :=
    if flags &&& wifiBundleFlagCompact ≠ 0 then wifiBundleEntries + wifiCompactHeader + wifiCompactFixed
    else wifiBundleEntries + 2 + 16
  if len < need then pure none
  else do
    let tv ← octet mem (avtp + 1)
    if tv &&& 0x01 = 0 then pure none
    else do
      let pts ← octets mem stamp 4
      pure (some (UInt32.ofNat (Octets.value pts)))

/-- The entry of a plain bundle at `off`: the frame in it and where the next one is. -/
def wifiPlainEntryAt (mem : Nat → UInt8) (len off : Nat) : Traced (Option (Buf × Nat)) :=
  if len < off + 2 then pure none
  else do
    let hi ← octet mem off
    let lo ← octet mem (off + 1)
    let avtpLen := hi.toNat * 256 + lo.toNat
    if avtpLen < 12 ∨ len < off + 2 + avtpLen then pure none
    else do
      let head ← octets mem 0 wifiBundleAvtp
      let avtp ← octets mem (off + 2) avtpLen
      pure (some (head ++ avtp, off + 2 + avtpLen))

/-- The header of an entry is its own or the template's. -/
def wifiEntryHeaderAt (mem : Nat → UInt8) (off : Nat) (own : Bool) : Traced Buf :=
  octets mem (if own then off + wifiCompactFixed else wifiBundleEntries) wifiCompactHeader

def wifiEntryPayloadAt (mem : Nat → UInt8) (src payloadLen : Nat) (packed : Bool) : Traced Buf :=
  if packed then do
    let samples ← octets mem src (payloadLen / 4 * 3)
    pure (unpackSamples samples)
  else octets mem src payloadLen

/-- The entry of a compact bundle at `off`. -/
def wifiCompactEntryAt (mem : Nat → UInt8) (len off : Nat) : Traced (Option (Buf × Nat)) :=
  if len < off + wifiCompactFixed then pure none
  else do
    let flags ← octet mem off
    let hi ← octet mem (off + 6)
    let lo ← octet mem (off + 7)
    let payloadLen := hi.toNat * 256 + lo.toNat
    let entryLen := wifiCompactEntryLen flags (wifiCompactHeader + payloadLen)
    let own := flags &&& wifiCompactOwnHeader != 0
    let packed := flags &&& wifiCompactPacked != 0
    if len < off + entryLen ∨ (packed = true ∧ payloadLen % 4 ≠ 0) then pure none
    else do
      let head ← octets mem 0 wifiBundleAvtp
      let header ← wifiEntryHeaderAt mem off own
      let seqNum ← octet mem (off + 1)
      let avtpTs ← octets mem (off + 2) 4
      let src := off + wifiCompactFixed + if own then wifiCompactHeader else 0
      let payload ← wifiEntryPayloadAt mem src payloadLen packed
      pure (some (head ++ header.take 2 ++ [seqNum] ++ Buf.slice header 3 9 ++ avtpTs
        ++ header.drop 16 ++ payload, off + entryLen))

def wifiEntryAt (compact : Bool) (off : Nat) (mem : Nat → UInt8) (len : Nat) :
    Traced (Option (Buf × Nat)) :=
  if compact then wifiCompactEntryAt mem len off else wifiPlainEntryAt mem len off

/-- Count and form of a bundle. -/
def wifiSplitHeadAt (mem : Nat → UInt8) (len : Nat) : Traced (Nat × Bool) := do
  let count ← octet mem 36
  let flags ← octet mem 37
  pure (count.toNat, decide (flags &&& wifiBundleFlagCompact ≠ 0
    ∧ wifiBundleEntries + wifiCompactHeader ≤ len))

/-! ### The held bundles -/

/-- The place of the held bundle with this number; the last one found counts. -/
def heldNext (seq : BitVec 16) : List WifiHeld → Option Nat
  | [] => none
  | h :: rest =>
      match heldNext seq rest with
      | some i => some (i + 1)
      | none => if h.seq = seq then some 0 else none

/-- The held bundle that comes first. -/
def lowestHeld : List WifiHeld → Option WifiHeld
  | [] => none
  | h :: rest => some (rest.foldl (fun lowest h => if ahead h.seq lowest.seq < 0 then h else lowest) h)

/-- The NACK state once a bundle is held: each newly missing bundle once, else the oldest gap again. -/
def WifiRxEntry.nacked (rx : WifiRxEntry) (nowUs : Int) (seq : BitVec 16) : WifiRxEntry :=
  let nackNext := if ahead rx.nackNext rx.expected < 0 then rx.expected else rx.nackNext
  let asks := wifiRetxMinBudgetUs ≤ rx.deadlineUs - nowUs
    ∧ (0 < ahead seq nackNext ∨ wifiNackRepeatUs ≤ nowUs - rx.lastNackUs)
  { rx with
    lastNackUs := if asks then nowUs else rx.lastNackUs
    nackNext := if 0 < ahead (seq + 1) nackNext then seq + 1 else nackNext }

def WifiRxEntry.stale (rx : WifiRxEntry) (nowUs : Int) : Prop :=
  rx.held ≠ [] ∧ rx.deadlineUs ≠ 0 ∧ wifiBundleStaleUs < nowUs - rx.deadlineUs

instance (rx : WifiRxEntry) (nowUs : Int) : Decidable (rx.stale nowUs) :=
  match h : rx.held with
  | [] => .isFalse fun hstale => hstale.1 h
  | _ :: _ => decidable_of_iff (rx.deadlineUs ≠ 0 ∧ wifiBundleStaleUs < nowUs - rx.deadlineUs)
      ⟨fun hlate => ⟨by rw [h]; simp, hlate⟩, fun hstale => hstale.2⟩

namespace WifiUnpack

variable (o : WifiRxOracle) (c : WifiUnpack)

/-- `wifi_bundle_hold_until`; the time that is left is worked out from what the earliest frame says. -/
def holdUntil (ix : Fin wifiRxStreams) : Int × WifiUnpack :=
  match lowestHeld (c.streams ix).held with
  | none => (o.holdUntilUs none, c)
  | some lowest =>
      let (pts, c) := c.look lowest.buf wifiBundleFirstPtsAt
      (o.holdUntilUs pts, c)

/-- The held bundle that is next leaves the table. -/
def drainTake (ix : Fin wifiRxStreams) : Option (WifiHeld × WifiUnpack) :=
  let rx := c.streams ix
  match heldNext rx.expected rx.held with
  | none => none
  | some i => rx.held[i]?.map fun h => (h, c.setEntry ix { rx with held := swapRemove rx.held i })

/-- A held bundle is handed on; the drain goes on behind it. -/
def drainSplit (ix : Fin wifiRxStreams) (nowUs : Int) (h : WifiHeld) : WifiUnpack :=
  (c.look h.buf wifiBundleFlagsAt).2.call [.split h.buf, .drained ix nowUs]

/-- The gap is given up, when the hold time has run out. -/
def drainGiveUp (ix : Fin wifiRxStreams) (lowest : WifiHeld) : WifiUnpack :=
  let c := c.setEntry ix { c.streams ix with expected := lowest.seq }
  let (deadlineUs, c) := c.holdUntil o ix
  c.setEntry ix { c.streams ix with deadlineUs }

/-- The loop of `wifi_bundle_drain` up to the next bundle that it hands on; a gap that is given up is
gone in its next turn. -/
def drain (ix : Fin wifiRxStreams) (nowUs : Int) : WifiUnpack :=
  match c.drainTake ix with
  | some (h, c) => c.drainSplit ix nowUs h
  | none =>
      match lowestHeld (c.streams ix).held with
      | none => c.setEntry ix { c.streams ix with deadlineUs := 0 }
      | some lowest =>
          if nowUs < (c.streams ix).deadlineUs then c
          else
            let c := c.drainGiveUp o ix lowest
            match c.drainTake ix with
            | some (h, c) => c.drainSplit ix nowUs h
            | none => c

/-- The entry of a stream; a free one, or one gone quiet with nothing held, is taken over. -/
def entryFor (streamId : Buf) (nowUs : Int) : Option (Fin wifiRxStreams × WifiRxEntry) :=
  match (List.finRange wifiRxStreams).find? fun ix =>
      (c.streams ix).valid ∧ (c.streams ix).streamId = streamId with
  | some ix => some (ix, { c.streams ix with lastRxUs := nowUs })
  | none =>
      ((List.finRange wifiRxStreams).find? fun ix =>
          ¬ (c.streams ix).valid
            ∨ ((c.streams ix).held.isEmpty ∧ 1000000 < nowUs - (c.streams ix).lastRxUs)).map
        fun ix => (ix, { WifiRxEntry.blank with valid := true, streamId, lastRxUs := nowUs })

/-- Start over: what is held is dropped. -/
def restart (ix : Fin wifiRxStreams) (seq : BitVec 16) : WifiUnpack :=
  let rx := c.streams ix
  let c := rx.held.foldl (fun c h => c.free h.buf) c
  c.setEntry ix
    { rx with held := [], deadlineUs := 0, expected := seq, nackNext := seq, seeded := true }

/-- The bundle is held past a gap. -/
def hold (ix : Fin wifiRxStreams) (nowUs : Int) (buf : BufId) (seq : BitVec 16) : WifiUnpack :=
  let rx := c.streams ix
  let c := c.setEntry ix { rx with held := rx.held ++ [⟨seq, buf⟩] }
  let (deadlineUs, c) := if rx.deadlineUs = 0 then c.holdUntil o ix else (rx.deadlineUs, c)
  c.setEntry ix ({ c.streams ix with deadlineUs }.nacked nowUs seq)

/-- `wifi_bundle_receive` once the entry is found and started over if it must be. -/
def place (ix : Fin wifiRxStreams) (nowUs : Int) (buf : BufId) (seq : BitVec 16) : WifiUnpack :=
  let rx := c.streams ix
  if ahead seq rx.expected < 0 then c.free buf
  else if ahead seq rx.expected = 0 then
    (c.look buf wifiBundleFlagsAt).2.call [.split buf, .accepted ix nowUs]
  else if rx.held.any (·.seq = seq) then (c.free buf).drain o ix nowUs
  else if wifiBundleHold ≤ rx.held.length then
    -- Hold is full: give up on the gap now, then place this bundle.
    ((c.setEntry ix { rx with deadlineUs := nowUs }).call [.receive buf]).drain o ix nowUs
  else (c.hold o ix nowUs buf seq).drain o ix nowUs

def receive (buf : BufId) : WifiUnpack :=
  let (head, c) := c.look buf wifiBundleHeadAt
  match c.entryFor head.streamId o.nowUs with
  | none => c.call [.split buf]
  | some (ix, rx) =>
      let c := c.setEntry ix rx
      let c :=
        if rx.seeded = false ∨ rx.stale o.nowUs ∨ 64 < ahead head.seq rx.expected
            ∨ ahead head.seq rx.expected < -64 then c.restart ix head.seq
        else c
      c.place o ix o.nowUs buf head.seq

def split (buf : BufId) : WifiUnpack :=
  let ((count, compact), c) := c.look buf wifiSplitHeadAt
  let off := if compact then wifiBundleEntries + wifiCompactHeader else wifiBundleEntries
  c.call [.entries compact buf off count ((c.blocks buf).getD [])]

/-- One turn of the loop of a split: the frame of the entry goes back to where frames come in. -/
def entry (compact : Bool) (buf : BufId) (off left : Nat) (begun : Buf) : WifiUnpack :=
  match left with
  | 0 => c.free buf
  | left + 1 =>
      let (found, c) := c.look buf (wifiEntryAt compact off)
      let c := { c with bad := c.bad || decide (c.blocks buf ≠ some begun) }
      match found with
      | none => c.free buf
      | some (frame, next) =>
          match c.alloc o frame with
          | none => c.free buf
          | some (id, c) => c.call [.inner id, .entries compact buf next left begun]

/-- A frame is dropped, taken for a bundle, or handed on to the rest of the receive path, which frees
it whenever it likes. -/
def inner (buf : BufId) : WifiUnpack :=
  let (kind, c) := c.look buf wifiRxKindAt
  match kind with
  | .dropped => c.free buf
  | .bundle => c.call [.receive buf]
  | .other => { c.free buf with delivered := c.delivered ++ [(c.blocks buf).getD []] }

def accepted (ix : Fin wifiRxStreams) (nowUs : Int) : WifiUnpack :=
  let rx := c.streams ix
  let expected := rx.expected + 1
  let nackNext := if 0 < ahead expected rx.nackNext then expected else rx.nackNext
  (c.setEntry ix { rx with expected, nackNext }).drain o ix nowUs

def drained (ix : Fin wifiRxStreams) (nowUs : Int) : WifiUnpack :=
  let rx := c.streams ix
  let c := c.setEntry ix { rx with expected := rx.expected + 1 }
  let (deadlineUs, c) := if rx.held.isEmpty then (0, c) else c.holdUntil o ix
  (c.setEntry ix { c.streams ix with deadlineUs }).drain o ix nowUs

def enter : WifiCall → WifiUnpack
  | .inner buf => c.inner buf
  | .receive buf => c.receive o buf
  | .split buf => c.split buf
  | .entries compact buf off left begun => c.entry o compact buf off left begun
  | .accepted ix nowUs => c.accepted o ix nowUs
  | .drained ix nowUs => c.drained o ix nowUs

/-- The call on top of the stack goes on. -/
def step : WifiUnpack :=
  match c.calls with
  | [] => c
  | next :: rest => { c with calls := rest }.enter o next

/-- `wifi_bundle_poll`, for one entry -/
def poll (ix : Fin wifiRxStreams) (nowUs : Int) : WifiUnpack :=
  let rx := c.streams ix
  if rx.valid ∧ rx.held.isEmpty = false ∧ rx.deadlineUs ≤ nowUs then c.drain o ix nowUs else c

/-- A frame is in a block of its own when it gets here. -/
def arrive (buf : BufId) (frame : Buf) : WifiUnpack :=
  if c.blocks buf = none then
    { c with blocks := Function.update c.blocks buf (some frame) }.call [.inner buf]
  else c

end WifiUnpack

/-- Frames and timer wait for the calls to return. -/
inductive WifiUnpackEvent where
  | arrive (buf : BufId) (frame : Buf)
  | poll (o : WifiRxOracle) (entry : Fin wifiRxStreams) (nowUs : Int)
  | goOn (o : WifiRxOracle)

namespace WifiUnpack

def event (c : WifiUnpack) : WifiUnpackEvent → WifiUnpack
  | .arrive buf frame => if c.calls.isEmpty then c.arrive buf frame else c
  | .poll o ix nowUs => if c.calls.isEmpty then poll o c ix nowUs else c
  | .goOn o => step o c

/-- Nothing received yet. -/
def blank : WifiUnpack := ⟨fun _ => none, fun _ => .blank, [], [], false⟩

end WifiUnpack

end EspAvb
