import EspAvb.Lib.Entries
import EspAvb.Lib.Machine

/-!
# Wi-Fi bundles

`avbnet.c`, the bundles of the Wi-Fi hop: several stream frames of one stream in one Wi-Fi frame,
plain or compact, and optionally inside an IPv4 header for the video access category. A buffer is
the list of its octets up to its length; of the slots a bundler has, this is the one of the stream.
Allocations succeed.
-/

namespace EspAvb

abbrev Buf := List UInt8

def wifiBundleSubtype : UInt8 := 0x7f
/-- AVTP header offset in the frame: Ethernet, VLAN and ethertype are before it. -/
def wifiBundleAvtp : Nat := 18
def wifiBundleEntries : Nat := 38
def wifiBundleMaxBytes : Nat := 1500
def wifiBundleFlagCompact : UInt8 := 0x02
def wifiViHeaderLen : Nat := 22
def wifiViIpProtocol : UInt8 := 253
def wifiBundleFillBytes : Nat := wifiBundleMaxBytes - wifiViHeaderLen
/-- "AVBW" -/
def wifiBundleTag : Buf := [0x41, 0x56, 0x42, 0x57]
def wifiCompactHeader : Nat := 24
def wifiCompactFixed : Nat := 8
def wifiCompactPacked : UInt8 := 0x01
def wifiCompactOwnHeader : UInt8 := 0x02
/-- The bridge sends a partial bundle this old with the next frame of any stream. -/
def wifiBundleMaxAgeUs : Nat := 2000
def wifiTxBundleMaxAgeUs : Nat := 2000
/-- A partial bundle this old was left when its stream stopped. -/
def wifiTxBundleStaleUs : Nat := 200000

/-- `CONFIG_ESP_AVB_WIFI_BUNDLE_COMPACT` and `CONFIG_ESP_AVB_WIFI_BUNDLE_FRAMES` -/
structure WifiBundleConfig where
  compact : Bool
  frames : Nat
  two_le_frames : 2 ≤ frames
  frames_le : frames ≤ 16

/-- `len` octets from `start` on. -/
def Buf.slice (buf : Buf) (start len : Nat) : Buf := (buf.drop start).take len

/-- A 16-bit length, most significant octet first. -/
def lenOctets (len : Nat) : Buf := [UInt8.ofNat (len / 256), UInt8.ofNat len]

/-! ## The video access category -/

def wifiViSum : Buf → UInt32
  | hi :: lo :: rest => (hi.toUInt32 <<< 8 ||| lo.toUInt32) + wifiViSum rest
  | _ => 0

/-- The IPv4 header in front of `len - 12` octets, before its checksum is filled in. -/
def wifiViIpHeader (ipLen : Nat) (checksum : Buf) : Buf :=
  [0x45, 0xa0] ++ lenOctets ipLen ++ [0x41, 0x56, 0x40, 0, 1, wifiViIpProtocol] ++ checksum ++
    List.replicate 8 0

def wifiViChecksum (ipLen : Nat) : Buf :=
  let sum : UInt32 := wifiViSum (wifiViIpHeader ipLen [0, 0])
  let sum : UInt32 := (sum &&& (0xffff : UInt32)) + (sum >>> (16 : UInt32))
  let sum : UInt32 := (sum &&& (0xffff : UInt32)) + (sum >>> (16 : UInt32))
  [(~~~sum >>> (8 : UInt32)).toUInt8, (~~~sum).toUInt8]

/-- `wifi_tx_bundle_frame`: what goes on the air. `wrap` is the switch together with the buffer the
wrapped frame needs. -/
def wifiTxBundleFrame (wrap : Bool) (frame : Buf) : Buf :=
  if ¬ wrap ∨ frame.length < 14 ∨ wifiBundleMaxBytes < frame.length then frame
  else
    let ipLen := frame.length - 12 + wifiViHeaderLen - 2
    frame.take 12 ++ [0x08, 0x00] ++ wifiViIpHeader ipLen (wifiViChecksum ipLen) ++ frame.drop 12

def wifiViUnwrap (buf : Buf) : Buf :=
  if buf.length < 12 + wifiViHeaderLen + 4 ∨ buf.getD 12 0 ≠ 0x08 ∨ buf.getD 13 0 ≠ 0x00 ∨
      buf.getD 14 0 ≠ 0x45 ∨ buf.getD 23 0 ≠ wifiViIpProtocol ∨ buf.getD 18 0 ≠ 0x41 ∨
      buf.getD 19 0 ≠ 0x56 then buf
  else buf.take 12 ++ buf.drop (12 + wifiViHeaderLen)

/-! ## Compact entries -/

/-- The octets the packed form leaves out, or-ed together. -/
def lowOctets : Buf → UInt8
  | _ :: _ :: _ :: low :: rest => low ||| lowOctets rest
  | _ => 0

def packSamples : Buf → Buf
  | a :: b :: c :: _ :: rest => a :: b :: c :: packSamples rest
  | _ => []

def unpackSamples : Buf → Buf
  | a :: b :: c :: rest => a :: b :: c :: 0 :: unpackSamples rest
  | _ => []

def wifiCompactFlags (tmpl avtp : Buf) : UInt8 :=
  let own := avtp.length < wifiCompactHeader ∨ tmpl.getD 0 0 ≠ avtp.getD 0 0 ∨
    tmpl.getD 1 0 ≠ avtp.getD 1 0 ∨ tmpl.slice 3 9 ≠ avtp.slice 3 9 ∨
    tmpl.slice 16 8 ≠ avtp.slice 16 8
  let payload := avtp.drop wifiCompactHeader
  -- AAF, INT_32BIT samples
  let packed := wifiCompactHeader ≤ avtp.length ∧ avtp.getD 0 0 = 0x02 ∧ avtp.getD 16 0 = 0x02 ∧
    payload.length % 4 = 0 ∧ lowOctets payload = 0
  (if own then wifiCompactOwnHeader else 0) ||| (if packed then wifiCompactPacked else 0)

def wifiCompactEntryLen (flags : UInt8) (avtpLen : Nat) : Nat :=
  let payloadLen := avtpLen - wifiCompactHeader
  wifiCompactFixed + (if flags &&& wifiCompactOwnHeader ≠ 0 then wifiCompactHeader else 0) +
    (if flags &&& wifiCompactPacked ≠ 0 then payloadLen / 4 * 3 else payloadLen)

def wifiCompactPut (flags : UInt8) (avtp : Buf) : Buf :=
  let payload := avtp.drop wifiCompactHeader
  [flags, avtp.getD 2 0] ++ avtp.slice 12 4 ++ lenOctets payload.length ++
    (if flags &&& wifiCompactOwnHeader ≠ 0 then avtp.take wifiCompactHeader else []) ++
    (if flags &&& wifiCompactPacked ≠ 0 then packSamples payload else payload)

/-- One turn of `wifi_bundle_split_compact`: the AVTPDU of the entry in front and what follows it. -/
def wifiCompactEntry (tmpl entry : Buf) : Option (Buf × Buf) :=
  if entry.length < wifiCompactFixed then none
  else
    let flags := entry.getD 0 0
    let payloadLen := (entry.getD 6 0).toNat * 256 + (entry.getD 7 0).toNat
    let entryLen := wifiCompactEntryLen flags (wifiCompactHeader + payloadLen)
    if entry.length < entryLen ∨ (flags &&& wifiCompactPacked ≠ 0 ∧ payloadLen % 4 ≠ 0) then none
    else
      let src := entry.drop wifiCompactFixed
      let header : Buf := if flags &&& wifiCompactOwnHeader ≠ 0 then src.take wifiCompactHeader else tmpl
      let src := if flags &&& wifiCompactOwnHeader ≠ 0 then src.drop wifiCompactHeader else src
      let payload :=
        if flags &&& wifiCompactPacked ≠ 0 then unpackSamples (src.take (payloadLen / 4 * 3))
        else src.take payloadLen
      let header := header.take 2 ++ [entry.getD 1 0] ++ Buf.slice header 3 9 ++ Buf.slice entry 2 4 ++
        header.drop 16
      some (header ++ payload, entry.drop entryLen)

/-- One turn of the loop of `wifi_bundle_split`. -/
def wifiPlainEntry (entry : Buf) : Option (Buf × Buf) :=
  if entry.length < 2 then none
  else
    let avtpLen := (entry.getD 0 0).toNat * 256 + (entry.getD 1 0).toNat
    let src := entry.drop 2
    if avtpLen < 12 ∨ src.length < avtpLen then none
    else some (src.take avtpLen, src.drop avtpLen)

/-! ## Bundles -/

def wifiBundleIs (buf : Buf) : Prop :=
  wifiBundleEntries ≤ buf.length ∧ buf.getD 12 0 = 0x81 ∧ buf.getD 13 0 = 0x00 ∧
    buf.getD 16 0 = 0x22 ∧ buf.getD 17 0 = 0xf0 ∧ buf.getD wifiBundleAvtp 0 = wifiBundleSubtype ∧
    buf.slice 30 4 = wifiBundleTag

instance (buf : Buf) : Decidable (wifiBundleIs buf) := inferInstanceAs (Decidable (_ ∧ _))

/-- `wifi_bundle_split`: the frames handed on, in order. -/
def wifiBundleSplit (buf : Buf) : List Buf :=
  let count := (buf.getD 36 0).toNat
  let body := buf.drop wifiBundleEntries
  let avtps :=
    if buf.getD 37 0 &&& wifiBundleFlagCompact ≠ 0 ∧
        wifiBundleEntries + wifiCompactHeader ≤ buf.length then
      Entries.parseMany (wifiCompactEntry (body.take wifiCompactHeader)) count
        (body.drop wifiCompactHeader)
    else Entries.parseMany wifiPlainEntry count body
  avtps.map (buf.take wifiBundleAvtp ++ ·)

/-- What the receive path makes of a frame from the air: its frames, when it is a bundle. -/
def wifiBundleRx (wire : Buf) : List Buf :=
  let buf := wifiViUnwrap wire
  if wifiBundleIs buf then wifiBundleSplit buf else []

variable (cfg : WifiBundleConfig)

def wifiBundleMinAvtp : Nat := if cfg.compact then wifiCompactHeader else 12

def wifiBundleFirstCost (avtpLen : Nat) : Nat :=
  if cfg.compact then wifiBundleEntries + wifiCompactHeader + wifiCompactFixed + avtpLen
  else wifiBundleEntries + 2 + avtpLen

def wifiBundleEntryCost (buf : Buf) (count : Nat) (avtp : Buf) : Nat :=
  if cfg.compact then
    if count ≠ 0 then
      wifiCompactEntryLen (wifiCompactFlags (buf.slice wifiBundleEntries wifiCompactHeader) avtp)
        avtp.length
    else 0
  else 2 + avtp.length

def wifiBundleBegin (frame : Buf) : Buf :=
  frame.take wifiBundleAvtp ++ [wifiBundleSubtype, 0x80, 0, 0] ++ frame.slice 22 8 ++
    wifiBundleTag ++ [0, 0, 0, if cfg.compact then wifiBundleFlagCompact else 0] ++
    (if cfg.compact then frame.slice wifiBundleAvtp wifiCompactHeader else [])

/-- The octets `wifi_bundle_put` adds at the end of `buf`. -/
def wifiBundlePut (buf avtp : Buf) : Buf :=
  if cfg.compact then
    wifiCompactPut (wifiCompactFlags (buf.slice wifiBundleEntries wifiCompactHeader) avtp) avtp
  else lenOctets avtp.length ++ avtp

/-- `wifi_bundle_slot_t` or `wifi_tx_bundle_t`, with the bundles given to `wifi_tx_bundle_frame`. -/
structure WifiBundleSlot where
  seq : BitVec 16
  count : Nat
  firstUs : Nat
  buf : Buf
  sent : List Buf

/-- `wifi_bundle_send` and `wifi_tx_bundle_send`: the sequence number and the count are filled in. -/
def wifiBundleSend (slot : WifiBundleSlot) : WifiBundleSlot :=
  if slot.count = 0 then slot
  else
    let hi := UInt8.ofBitVec (slot.seq.extractLsb' 8 8)
    let lo := UInt8.ofBitVec (slot.seq.extractLsb' 0 8)
    let out := (((slot.buf.set (wifiBundleAvtp + 2) lo).set 34 hi).set 35 lo).set 36
      (UInt8.ofNat slot.count)
    { slot with seq := slot.seq + 1, count := 0, buf := [], sent := slot.sent ++ [out] }

/-- A frame that is bundled at all. -/
def wifiBundleTakes (frame : Buf) : Prop :=
  wifiBundleAvtp + wifiBundleMinAvtp cfg ≤ frame.length ∧ frame.getD 16 0 = 0x22 ∧
    frame.getD 17 0 = 0xf0 ∧ frame.getD 18 0 &&& 0x80 = 0 ∧ frame.getD 19 0 &&& 0x80 ≠ 0 ∧
    wifiBundleFirstCost cfg (frame.length - wifiBundleAvtp) ≤ wifiBundleFillBytes

instance (frame : Buf) : Decidable (wifiBundleTakes cfg frame) :=
  inferInstanceAs (Decidable (_ ∧ _))

/-- The end both bundlers share: the frame opens a bundle where none is open and is put into it, and
a bundle with all its frames is sent. -/
def wifiBundleAppend (nowUs : Nat) (slot : WifiBundleSlot) (frame : Buf) : WifiBundleSlot :=
  let slot : WifiBundleSlot :=
    if slot.count = 0 then { slot with buf := wifiBundleBegin cfg frame, firstUs := nowUs } else slot
  let slot : WifiBundleSlot := { slot with
    buf := slot.buf ++ wifiBundlePut cfg slot.buf (frame.drop wifiBundleAvtp)
    count := slot.count + 1 }
  if cfg.frames ≤ slot.count then wifiBundleSend slot else slot

/-- `wifi_bundle_add`, on the bridge; nothing when the frame is not bundled. -/
def wifiBundleAdd (nowUs : Nat) (slot : WifiBundleSlot) (frame : Buf) : Option WifiBundleSlot :=
  if wifiBundleTakes cfg frame then
    let slot :=
      if slot.count > 0 ∧ slot.firstUs + wifiBundleMaxAgeUs < nowUs then wifiBundleSend slot
      else slot
    let entryLen := wifiBundleEntryCost cfg slot.buf slot.count (frame.drop wifiBundleAvtp)
    let slot :=
      if slot.count > 0 ∧ wifiBundleFillBytes < slot.buf.length + entryLen then wifiBundleSend slot
      else slot
    some (wifiBundleAppend cfg nowUs slot frame)
  else none

/-- The partial bundle a stopped stream left is not sent. -/
def WifiBundleSlot.stale (slot : WifiBundleSlot) (nowUs : Nat) : Prop :=
  slot.count > 0 ∧ slot.firstUs + wifiTxBundleStaleUs < nowUs

instance WifiBundleSlot.decidableStale (slot : WifiBundleSlot) (nowUs : Nat) :
    Decidable (slot.stale nowUs) :=
  inferInstanceAs (Decidable (_ ∧ _))

/-- `wifi_tx_bundle_add`, on a station. -/
def wifiTxBundleAdd (nowUs : Nat) (slot : WifiBundleSlot) (frame : Buf) : Option WifiBundleSlot :=
  if frame.getD 12 0 = 0x81 ∧ frame.getD 13 0 = 0x00 ∧ wifiBundleTakes cfg frame then
    let slot : WifiBundleSlot := if slot.stale nowUs then { slot with count := 0 } else slot
    let entryLen := wifiBundleEntryCost cfg slot.buf slot.count (frame.drop wifiBundleAvtp)
    let slot :=
      if slot.count > 0 ∧ (wifiBundleFillBytes < slot.buf.length + entryLen ∨
          slot.firstUs + wifiTxBundleMaxAgeUs < nowUs) then wifiBundleSend slot
      else slot
    some (wifiBundleAppend cfg nowUs slot frame)
  else none

def WifiBundleSlot.blank (seq : BitVec 16) : WifiBundleSlot where
  seq := seq
  count := 0
  firstUs := 0
  buf := []
  sent := []

end EspAvb
