import EspAvb.Lib.Machine
import EspAvb.Lib.SeqWindow

/-!
# Receive order of Wi-Fi bundles

`avbnet.c`, the receive side of the Wi-Fi hop: bundles of one stream are handed on in sequence, held
past a gap while a retransmission may still arrive, and given up on when the hold time runs out.
The table of streams is left out; this is one entry of it, with one stream in it.
-/

namespace EspAvb

open SeqWindow

def wifiBundleHold : Nat := 32
/-- Held this long past their deadline, bundles belong to a stopped run. -/
def wifiBundleStaleUs : Int := 200000
def wifiNackRepeatUs : Int := 15000
/-- Below this a copy cannot cross the hop and still be played. -/
def wifiRetxMinBudgetUs : Int := 3000
def wifiHoldMinUs : Int := 1000

/-- `CONFIG_ESP_AVB_WIFI_RETX_HOLD_MAX_US` -/
structure WifiRxConfig where
  holdMaxUs : Int
  holdMin_le : wifiHoldMinUs ≤ holdMaxUs

/-- `wifi_held_bundle_t` -/
structure WifiBundle where
  seq : BitVec 16
  buf : List UInt8
  deriving DecidableEq, Repr

structure WifiNack where
  first : BitVec 16
  count : Int
  budgetUs : Int

/-- `wifi_bundle_rx_t`, with the bundles handed to `wifi_bundle_split` and the NACKs asked for. -/
structure WifiBundleRx where
  seeded : Bool
  expected : BitVec 16
  nackNext : BitVec 16
  deadlineUs : Int
  lastNackUs : Int
  held : List WifiBundle
  delivered : List WifiBundle
  nacks : List WifiNack

/-- What one call reads: the clock, and how long the bundles held may wait, from the audio queued at
the listener or from their presentation time, when that is known. -/
structure WifiRxEnv where
  nowUs : Nat
  budgetUs : List WifiBundle → Option Int

variable (cfg : WifiRxConfig) (env : WifiRxEnv)

/-- `wifi_bundle_hold_until` -/
def wifiBundleHoldUntil (held : List WifiBundle) : Int :=
  let budgetUs := (env.budgetUs held).getD cfg.holdMaxUs
  let budgetUs := if budgetUs < wifiHoldMinUs then wifiHoldMinUs else budgetUs
  let budgetUs := if cfg.holdMaxUs < budgetUs then cfg.holdMaxUs else budgetUs
  env.nowUs + budgetUs

/-- The place of the bundle with this number; the last one found counts. -/
def heldIndex (seq : BitVec 16) : List WifiBundle → Option Nat
  | [] => none
  | h :: rest =>
      match heldIndex seq rest with
      | some i => some (i + 1)
      | none => if h.seq = seq then some 0 else none

def heldLowest (held : List WifiBundle) : Option (BitVec 16) :=
  held.foldl (fun lowest h =>
    match lowest with
    | none => some h.seq
    | some l => if ahead h.seq l < 0 then some h.seq else some l) none

/-- `held[i] = held[--held_count]` -/
def swapRemove {α : Type*} (l : List α) (i : Nat) : List α :=
  match l.getLast? with
  | none => l
  | some last => (l.set i last).dropLast

/-- `wifi_bundle_split` of a bundle whose turn it is. -/
def WifiBundleRx.deliver (rx : WifiBundleRx) (b : WifiBundle) : WifiBundleRx :=
  { rx with delivered := rx.delivered ++ [b], expected := rx.expected + 1 }

/-- The held bundle that is next leaves the table; the rest waits anew. -/
def WifiBundleRx.handOn (rx : WifiBundleRx) (i : Nat) (h : WifiBundle) : WifiBundleRx :=
  let held := swapRemove rx.held i
  { rx.deliver h with
    held := held
    deadlineUs := if held = [] then 0 else wifiBundleHoldUntil cfg env held }

def WifiBundleRx.giveUp (rx : WifiBundleRx) (lowest : BitVec 16) : WifiBundleRx :=
  { rx with expected := lowest, deadlineUs := wifiBundleHoldUntil cfg env rx.held }

/-- The loop of `wifi_bundle_drain`. Every second turn at the latest hands a bundle on. -/
def wifiBundleDrainLoop : Nat → WifiBundleRx → WifiBundleRx
  | 0, rx => rx
  | fuel + 1, rx =>
      match heldIndex rx.expected rx.held with
      | some i =>
          match rx.held[i]? with
          | some h => wifiBundleDrainLoop fuel (rx.handOn cfg env i h)
          | none => rx
      | none =>
          match heldLowest rx.held with
          | some lowest =>
              if env.nowUs < rx.deadlineUs then rx
              else wifiBundleDrainLoop fuel (rx.giveUp cfg env lowest)
          | none => { rx with deadlineUs := 0 }

def wifiBundleDrain (rx : WifiBundleRx) : WifiBundleRx :=
  wifiBundleDrainLoop cfg env (2 * rx.held.length + 1) rx

def WifiBundleRx.stale (rx : WifiBundleRx) (nowUs : Nat) : Prop :=
  rx.held ≠ [] ∧ rx.deadlineUs ≠ 0 ∧ wifiBundleStaleUs < nowUs - rx.deadlineUs

instance (rx : WifiBundleRx) (nowUs : Nat) : Decidable (rx.stale nowUs) :=
  inferInstanceAs (Decidable (_ ∧ _ ∧ _))

/-- First bundle, or the sender restarted: start over. -/
def WifiBundleRx.restart (rx : WifiBundleRx) (seq : BitVec 16) : WifiBundleRx :=
  { rx with held := [], deadlineUs := 0, expected := seq, nackNext := seq, seeded := true }

/-- The NACK of a bundle just held: each newly missing bundle once, else the oldest gap again. -/
def WifiBundleRx.nack (rx : WifiBundleRx) (seq : BitVec 16) : WifiBundleRx :=
  let nackNext := if ahead rx.nackNext rx.expected < 0 then rx.expected else rx.nackNext
  let budgetUs := rx.deadlineUs - env.nowUs
  let rx : WifiBundleRx :=
    if 0 < ahead seq nackNext then
      if wifiRetxMinBudgetUs ≤ budgetUs then
        { rx with
          lastNackUs := env.nowUs
          nacks := rx.nacks ++ [⟨nackNext, ahead seq nackNext, budgetUs⟩] }
      else rx
    else if wifiNackRepeatUs ≤ env.nowUs - rx.lastNackUs ∧ wifiRetxMinBudgetUs ≤ budgetUs then
      { rx with
        lastNackUs := env.nowUs
        nacks := rx.nacks ++ [⟨rx.expected, 1, budgetUs⟩] }
    else rx
  { rx with nackNext := if 0 < ahead (seq + 1) nackNext then seq + 1 else nackNext }

/-- The bundle is held past a gap. -/
def WifiBundleRx.hold (rx : WifiBundleRx) (b : WifiBundle) : WifiBundleRx :=
  let rx := { rx with held := rx.held ++ [b] }
  let rx : WifiBundleRx :=
    if rx.deadlineUs = 0 then { rx with deadlineUs := wifiBundleHoldUntil cfg env rx.held } else rx
  rx.nack env b.seq

/-- The bundle is the next one. -/
def WifiBundleRx.accept (rx : WifiBundleRx) (b : WifiBundle) : WifiBundleRx :=
  let rx := rx.deliver b
  if 0 < ahead rx.expected rx.nackNext then { rx with nackNext := rx.expected } else rx

/-- The entry a bundle is placed in: started over where that is called for. -/
def WifiBundleRx.opened (rx : WifiBundleRx) (seq : BitVec 16) : WifiBundleRx :=
  if ¬ rx.seeded ∨ rx.stale env.nowUs ∨ 64 < ahead seq rx.expected ∨ ahead seq rx.expected < -64
  then rx.restart seq else rx

/-- `wifi_bundle_receive` after the entry is found, both times on one reading of the clock. It calls
itself once, with room made. -/
def wifiBundlePlace : Nat → WifiBundleRx → WifiBundle → WifiBundleRx
  | 0, rx, _ => rx
  | depth + 1, rx, b =>
      let rx := rx.opened env b.seq
      if ahead b.seq rx.expected < 0 then rx
      else if ahead b.seq rx.expected = 0 then wifiBundleDrain cfg env (rx.accept b)
      else if rx.held.any (·.seq = b.seq) then wifiBundleDrain cfg env rx
      else if wifiBundleHold ≤ rx.held.length then
        -- Hold is full: give up on the gap now, then place this bundle.
        wifiBundlePlace depth (wifiBundleDrain cfg env { rx with deadlineUs := env.nowUs }) b
      else wifiBundleDrain cfg env (rx.hold cfg env b)

/-- A bundle's sequence number stands in octets 34 and 35. -/
def WifiBundle.ofBuf (buf : List UInt8) : WifiBundle where
  seq := (buf.getD 34 0).toBitVec ++ (buf.getD 35 0).toBitVec
  buf := buf

def wifiBundleReceive (rx : WifiBundleRx) (buf : List UInt8) : WifiBundleRx :=
  wifiBundlePlace cfg env 2 rx (.ofBuf buf)

def wifiBundlePoll (rx : WifiBundleRx) : WifiBundleRx :=
  if rx.held ≠ [] ∧ rx.deadlineUs ≤ env.nowUs then wifiBundleDrain cfg env rx else rx

inductive WifiRxEvent where
  | receive (env : WifiRxEnv) (buf : List UInt8)
  | poll (env : WifiRxEnv)

def wifiRxStep (rx : WifiBundleRx) : WifiRxEvent → WifiBundleRx
  | .receive env buf => wifiBundleReceive cfg env rx buf
  | .poll env => wifiBundlePoll cfg env rx

def WifiBundleRx.blank : WifiBundleRx where
  seeded := false
  expected := 0
  nackNext := 0
  deadlineUs := 0
  lastNackUs := 0
  held := []
  delivered := []
  nacks := []

end EspAvb
