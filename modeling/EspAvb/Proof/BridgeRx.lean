import EspAvb.BridgeRx
import EspAvb.Lib.Machine

/-!
# What the bridge does with one frame

With Ethernet as port 0 and Wi-Fi as port 1, a frame is kept from the other side, or it goes there: as
it is, or re-addressed where it has a tag. A frame of the Wi-Fi side with a tag goes by the pacers.
-/

namespace EspAvb

/-- A bridge's ports: Ethernet is port 0 and Wi-Fi port 1. -/
structure Config.TwoPorts (cfg : Config) : Prop where
  numPorts : cfg.numPorts = 2
  eth : ∀ p : cfg.Port, p.val = 0 → (cfg.port p).medium = .ethHwts
  wifi : ∀ p : cfg.Port, p.val = 1 → (cfg.port p).medium = .wifiFtm

namespace Config.TwoPorts

variable {cfg : Config}

theorem wifiPort (h : cfg.TwoPorts) : ∃ p, cfg.wifiPort = some p ∧ p.val = 1 := by
  have hnum := h.numPorts
  have hone : 1 < cfg.numPorts := by omega
  have hwifi : cfg.wifi ⟨1, hone⟩ = true := decide_eq_true (h.wifi ⟨1, hone⟩ rfl)
  cases hfind : cfg.wifiPort with
  | none =>
      have hnone := Fin.find?_eq_none_iff.mp hfind ⟨1, hone⟩
      rw [hwifi] at hnone
      cases hnone
  | some p =>
      refine ⟨p, rfl, ?_⟩
      have hp : cfg.wifi p = true := Fin.eq_true_of_find?_eq_some hfind
      have hlt := p.isLt
      by_contra hne
      have hzero : p.val = 0 := by omega
      rw [Config.wifi, h.eth p hzero] at hp
      cases hp

theorem onWifi (h : cfg.TwoPorts) (port : Nat) : BridgeRx.onWifi cfg port = decide (port = 1) := by
  obtain ⟨p, hp, hval⟩ := h.wifiPort
  rw [BridgeRx.onWifi, hp, Option.map_some, hval]
  simp only [Option.some.injEq, eq_comm]

theorem egressEth (h : cfg.TwoPorts) : BridgeRx.egressEth cfg 0 = true := by
  have hnum := h.numPorts
  have hzero : 0 < cfg.numPorts := by omega
  rw [BridgeRx.egressEth, dif_pos hzero, Config.wifi, h.eth ⟨0, hzero⟩ rfl]
  rfl

theorem forward_eth (h : cfg.TwoPorts) (s : BridgeRx cfg) (frame : Buf) :
    s.avbBridgeForward 0 frame = { s with toEth := s.toEth ++ [frame] } := by
  have hnum := h.numPorts
  have hzero : 0 < cfg.numPorts := by omega
  rw [BridgeRx.avbBridgeForward, dif_pos hzero, h.eth ⟨0, hzero⟩ rfl]

theorem forward_wifi (h : cfg.TwoPorts) (s : BridgeRx cfg) (frame : Buf) :
    s.avbBridgeForward 1 frame = { s with toWifi := s.toWifi ++ [.frame frame] } := by
  have hnum := h.numPorts
  have hone : 1 < cfg.numPorts := by omega
  rw [BridgeRx.avbBridgeForward, dif_pos hone, h.wifi ⟨1, hone⟩ rfl]

end Config.TwoPorts

/-! ## Frames -/

namespace Buf

/-- A frame that the bridge ends itself: PTP, MSRP or MVRP. -/
def terminated (frame : Buf) : Bool :=
  frame.etherType = etherTypePtp ∨ frame.etherType = etherTypeMsrp ∨ frame.etherType = etherTypeMvrp

/-- A frame meant for the other side. -/
def passes (frame : Buf) : Bool :=
  decide (ethHeaderLen ≤ frame.length) && !(untagPtp frame).terminated

theorem untagPtp_cases (frame : Buf) :
    untagPtp frame = frame ∨ (untagPtp frame).etherType = etherTypePtp := by
  rw [untagPtp]
  split
  · rename_i htag
    obtain ⟨-, hlen, hhigh, hlow⟩ := htag
    right
    have hat : ∀ i, octetAt (frame.take 12 ++ frame.drop 16) (12 + i) = octetAt frame (16 + i) := by
      intro i
      have htake : (frame.take 12).length = 12 := by
        rw [List.length_take]
        simp only [ethHeaderLen] at hlen
        omega
      rw [octetAt, octetAt, List.getD_append_right _ _ _ _ (by omega), htake,
        Nat.add_sub_cancel_left, List.getD_eq_getElem?_getD, List.getElem?_drop,
        List.getD_eq_getElem?_getD]
    have hfirst := hat 0
    have hsecond := hat 1
    rw [Buf.etherType, hfirst, hsecond, hhigh, hlow]
    rfl
  · exact .inl rfl

theorem untag_of_passes {frame : Buf} (h : frame.passes = true) : untagPtp frame = frame := by
  rcases untagPtp_cases frame with heq | hptp
  · exact heq
  · rw [passes, terminated, hptp] at h
    simp at h

theorem length_of_passes {frame : Buf} (h : frame.passes = true) : ethHeaderLen ≤ frame.length := by
  rw [passes, Bool.and_eq_true] at h
  exact of_decide_eq_true h.1

theorem not_terminated_of_passes {frame : Buf} (h : frame.passes = true) :
    frame.terminated = false := by
  have huntag := untag_of_passes h
  rw [passes, Bool.and_eq_true, huntag] at h
  simpa using h.2

@[simp]
theorem drop_readdress (frame : Buf) (da : EthAddr) (k : Nat) :
    (frame.readdress da).drop (6 + k) = frame.drop (6 + k) := by
  rw [readdress, Octets.drop_append_of_le _ _ (Nat.le_add_right 6 k), List.drop_drop,
    Nat.add_sub_cancel_left]

theorem octetAt_readdress (frame : Buf) (da : EthAddr) (i : Nat) :
    octetAt (frame.readdress da) (6 + i) = octetAt frame (6 + i) := by
  have hdrop := congrArg (·.getD i 0) (drop_readdress frame da 0)
  simp only [Nat.add_zero, List.getD_eq_getElem?_getD, List.getElem?_drop] at hdrop
  rw [octetAt, octetAt, List.getD_eq_getElem?_getD, List.getD_eq_getElem?_getD, hdrop]

theorem etherType_readdress (frame : Buf) (da : EthAddr) :
    (frame.readdress da).etherType = frame.etherType := by
  have hhigh := octetAt_readdress frame da 6
  have hlow := octetAt_readdress frame da 7
  rw [etherType, etherType, hhigh, hlow]

/-- The ADP frames from which the bridge learns. -/
def isAdp (frame : Buf) : Bool :=
  decide (ethHeaderLen < frame.length) && decide (frame.etherType = etherTypeAvtp) &&
    decide (octetAt frame ethHeaderLen = avtpSubtypeAdp)

/-- The ACMP frames of which a copy may be due. -/
def isGroupAcmp (frame : Buf) : Bool :=
  decide (ethHeaderLen + acmpMessageLen ≤ frame.length) &&
    decide (frame.etherType = etherTypeAvtp) &&
    decide (octetAt frame ethHeaderLen = avtpSubtypeAcmp) && frame.isGroup

end Buf

namespace BridgeRx

variable {cfg : Config}

theorem classify_terminated {ingressPort : Nat} {frame : Buf} (h : frame.terminated = true) :
    (avbBridgeClassify cfg ingressPort frame.etherType frame.vlanPcp).verdict = .terminate := by
  rw [avbBridgeClassify, if_pos (of_decide_eq_true h)]

/-- A frame from the Wi-Fi side is never dropped. -/
theorem classify_wifi {frame : Buf} (h : frame.terminated = false) :
    (avbBridgeClassify cfg 1 frame.etherType frame.vlanPcp).verdict = .bridge ∧
      (avbBridgeClassify cfg 1 frame.etherType frame.vlanPcp).egressPort = 0 := by
  simp only [avbBridgeClassify, if_neg (of_decide_eq_false h), one_ne_zero, if_false, zero_ne_one,
    false_and]
  split
  · exact ⟨rfl, rfl⟩
  · split
    · split
      · exact ⟨rfl, rfl⟩
      · split <;> exact ⟨rfl, rfl⟩
    · exact ⟨rfl, rfl⟩

theorem classify_eth {frame : Buf} (h : frame.terminated = false)
    (hvlan : frame.etherType = etherTypeVlan →
      frame.vlanPcp ≠ (cfg.msrpMappingPriority ⟨0, Nat.two_pos⟩).toNat ∨
      cfg.allowClassAOverWifi = true) :
    (avbBridgeClassify cfg 0 frame.etherType frame.vlanPcp).verdict = .bridge ∧
      (avbBridgeClassify cfg 0 frame.etherType frame.vlanPcp).egressPort = 1 := by
  rw [avbBridgeClassify, if_neg (of_decide_eq_false h)]
  split
  · exact ⟨rfl, rfl⟩
  · split
    · rename_i htag
      split
      · rename_i hclass
        rcases hvlan htag with hnot | hallow
        · exact absurd hclass hnot
        · rw [if_neg fun hdrop => hdrop.2 hallow]
          exact ⟨rfl, rfl⟩
      · split <;> exact ⟨rfl, rfl⟩
    · exact ⟨rfl, rfl⟩

/-- What a frame of the Wi-Fi side becomes. -/
def restored (s : BridgeRx cfg) (frame : Buf) : Buf :=
  if cfg.wifiUnicastStreams ∧ frame.etherType = etherTypeVlan ∧ 30 ≤ frame.length ∧
      octetAt frame 16 = 0x22 ∧ octetAt frame 17 = 0xf0 ∧ !frame.isGroup then
    ((msrpWifiUcastLookupStream s.mrp (Octets.read 8 (frame.drop 22))).map frame.readdress).getD frame
  else frame

theorem restored_cases (s : BridgeRx cfg) (frame : Buf) :
    s.restored frame = frame ∨
      frame.etherType = etherTypeVlan ∧ ∃ da, s.restored frame = frame.readdress da := by
  rw [restored]
  split
  · rename_i hunicast
    cases msrpWifiUcastLookupStream s.mrp (Octets.read 8 (frame.drop 22)) with
    | none => exact .inl rfl
    | some da => exact .inr ⟨hunicast.2.1, da, rfl⟩
  · exact .inl rfl

theorem etherType_restored (s : BridgeRx cfg) (frame : Buf) :
    (s.restored frame).etherType = frame.etherType := by
  rcases s.restored_cases frame with heq | ⟨-, da, heq⟩
  · rw [heq]
  · rw [heq, Buf.etherType_readdress]

theorem control_spec (s : BridgeRx cfg) (fromWifi : Bool) (frame : Buf) :
    ∃ ctrlRx, s.control fromWifi frame = { s with ctrlRx } := by
  have hsend : ∀ pkt, ∃ ctrlRx, s.ctrlSend pkt = { s with ctrlRx } := by
    intro pkt
    rw [ctrlSend]
    split
    · exact ⟨_, rfl⟩
    · exact ⟨s.ctrlRx, rfl⟩
  have hsame : ∃ ctrlRx, s = { s with ctrlRx } := ⟨s.ctrlRx, rfl⟩
  dsimp only [control]
  generalize (if fromWifi = true then cfg.wifiPort else cfg.ethPort) = ingress
  generalize (if frame.etherType = etherTypeMsrp then some CtrlProtocol.msrp
    else if frame.etherType = etherTypeMvrp then some CtrlProtocol.mvrp else none) = protocol
  cases protocol <;> cases ingress
  case some.some => exact hsend _
  all_goals exact hsame

/-- What a frame of the Wi-Fi side does to the table of entities. -/
def heard (s : BridgeRx cfg) (frame : Buf) : WifiEntities :=
  if frame.isAdp then avbWifiEntityLearn s.entities s.nowUs frame else s.entities

/-- The copy of a frame of the Ethernet side, if one is due. -/
def acmpCopy? (s : BridgeRx cfg) (frame : Buf) : Option Buf :=
  if frame.isGroupAcmp then
    ((acmpTargetEntityId frame).bind (avbWifiEntityStation s.entities s.nowUs)).map frame.readdress
  else none

theorem wifiControl_wifi (h : cfg.TwoPorts) (s : BridgeRx cfg) {frame : Buf}
    (havtp : frame.etherType = etherTypeAvtp) :
    s.avbBridgeWifiControl 1 0 frame = { s with entities := s.heard frame } := by
  rw [avbBridgeWifiControl, h.onWifi, h.onWifi]
  by_cases hlen : frame.length ≤ ethHeaderLen
  · have hadp : frame.isAdp = false := by
      rw [Buf.isAdp, decide_eq_false (not_lt.mpr hlen)]
      rfl
    rw [if_pos hlen, heard, hadp]
    rfl
  · rw [if_neg hlen]
    have hlong : ethHeaderLen < frame.length := not_le.mp hlen
    by_cases hsub : octetAt frame ethHeaderLen = avtpSubtypeAdp
    · have hadp : frame.isAdp = true := by
        rw [Buf.isAdp, decide_eq_true hlong, decide_eq_true havtp, decide_eq_true hsub]
        rfl
      rw [if_pos ⟨hsub, rfl⟩, heard, if_pos hadp]
    · have hadp : frame.isAdp = false := by
        rw [Buf.isAdp, decide_eq_false hsub, Bool.and_false]
      rw [if_neg fun hand => hsub hand.1, if_pos (.inr (.inl rfl)), heard, hadp]
      rfl

theorem wifiControl_eth (h : cfg.TwoPorts) (s : BridgeRx cfg) {frame : Buf}
    (havtp : frame.etherType = etherTypeAvtp) :
    s.avbBridgeWifiControl 0 1 frame =
      { s with toWifi := s.toWifi ++ ((s.acmpCopy? frame).map WifiTx.copy).toList } := by
  rw [avbBridgeWifiControl, h.onWifi, h.onWifi]
  have hnone : frame.isGroupAcmp = false → s =
      { s with toWifi := s.toWifi ++ ((s.acmpCopy? frame).map WifiTx.copy).toList } := by
    intro hnot
    rw [acmpCopy?, hnot]
    simp
  by_cases hlen : frame.length ≤ ethHeaderLen
  · rw [if_pos hlen]
    apply hnone
    rw [Buf.isGroupAcmp, decide_eq_false (by simp only [acmpMessageLen]; omega)]
    rfl
  · rw [if_neg hlen, if_neg fun hin => by cases hin.2]
    split
    · rename_i hnot
      apply hnone
      rw [Buf.isGroupAcmp]
      rcases hnot with hsub | hport | hshort | hgroup
      · rw [decide_eq_false hsub, Bool.and_false, Bool.false_and]
      · cases hport
      · rw [decide_eq_false (not_le.mpr hshort)]
        rfl
      · rw [(Bool.not_eq_true' _).mp hgroup, Bool.and_false]
    · rename_i hall
      rw [not_or, not_or, not_or] at hall
      obtain ⟨hsub, -, hlong, hgroup⟩ := hall
      have hacmp : frame.isGroupAcmp = true := by
        rw [Buf.isGroupAcmp, decide_eq_true (not_lt.mp hlong), decide_eq_true havtp,
          decide_eq_true (not_not.mp hsub)]
        simpa using hgroup
      rw [acmpCopy?, if_pos hacmp]
      cases (acmpTargetEntityId frame).bind (avbWifiEntityStation s.entities s.nowUs) with
      | none => simp
      | some station => rfl

/-- A frame of the Wi-Fi side is kept, is offered to the pacers or goes to Ethernet. -/
theorem receive_wifi (h : cfg.TwoPorts) (s : BridgeRx cfg) (frame : Buf) (up : Bool) :
    let s' := s.receive true frame true false up
    (frame.passes = false ∧ ∃ ctrlRx, s' = { s with ctrlRx }) ∨
    (frame.passes = true ∧ frame.etherType = etherTypeVlan ∧ s' = s.offer 0 (s.restored frame) up) ∨
    (frame.passes = true ∧ frame.etherType ≠ etherTypeVlan ∧
      s' = { s with toEth := s.toEth ++ [frame], entities := s.heard frame }) := by
  simp only [receive, Bool.true_eq_false, false_and, if_false]
  cases hpasses : frame.passes with
  | false =>
      refine .inl ⟨rfl, ?_⟩
      split
      · exact ⟨s.ctrlRx, rfl⟩
      · rename_i hlen
        have hend : (untagPtp frame).terminated = true := by
          rw [Buf.passes, decide_eq_true (not_lt.mp hlen), Bool.true_and] at hpasses
          simpa using hpasses
        rw [dispatch]
        simp only [if_true, classify_terminated hend]
        exact control_spec ..
  | true =>
      right
      have hlen := Buf.length_of_passes hpasses
      obtain ⟨hverdict, hegress⟩ := @classify_wifi cfg _ (Buf.not_terminated_of_passes hpasses)
      have hrestore : s.restore (avbBridgeClassify cfg 1 frame.etherType frame.vlanPcp) true frame =
          s.restored frame := by
        rw [restore, hverdict, restored]
        simp only [true_and]
      rw [if_neg (not_lt.mpr hlen), Buf.untag_of_passes hpasses, dispatch]
      simp only [if_true, hrestore, hverdict, hegress, h.egressEth, s.etherType_restored]
      by_cases hvlan : frame.etherType = etherTypeVlan
      · left
        rw [if_pos ⟨trivial, hvlan, trivial⟩]
        exact ⟨trivial, hvlan, rfl⟩
      · right
        have hsame : s.restored frame = frame := by
          rcases s.restored_cases frame with heq | ⟨htag, -⟩
          · exact heq
          · exact absurd htag hvlan
        refine ⟨trivial, hvlan, ?_⟩
        rw [if_neg fun htag => hvlan htag.2.1, hsame]
        rw [h.forward_eth]
        split
        · rename_i havtp
          rw [wifiControl_wifi h _ havtp]
          rfl
        · rename_i hother
          rw [heard, Buf.isAdp, decide_eq_false hother, Bool.and_false, Bool.false_and]
          rfl

/-- Class A stays off Wi-Fi, unless it is let on. -/
def ClassAKept (cfg : Config) (frame : Buf) : Prop :=
  cfg.allowClassAOverWifi = true ∨ frame.etherType ≠ etherTypeVlan ∨
    frame.vlanPcp ≠ (cfg.msrpMappingPriority ⟨0, Nat.two_pos⟩).toNat

theorem emacStream_spec (s : BridgeRx cfg) {frame : Buf} (room bundled : Bool)
    (htag : frame.etherType = etherTypeVlan) (hlen : 16 ≤ frame.length) :
    let s' := s.emacStream frame room bundled
    s' = s ∨ ClassAKept cfg frame ∧ ∃ image, (image = frame ∨ ∃ da, image = frame.readdress da) ∧
      (s' = { s with toWifi := s.toWifi ++ [.frame image] } ∨
        s' = { s with toWifi := s.toWifi ++ [.bundled image] }) := by
  simp only
  rw [emacStream]
  split
  · exact .inl rfl
  · rename_i hclass
    have hkept : ClassAKept cfg frame := by
      rw [ClassAKept, Buf.vlanPcp, if_pos ⟨htag, hlen⟩]
      by_cases hallow : cfg.allowClassAOverWifi = true
      · exact .inl hallow
      · exact .inr (.inr fun hpcp => hclass ⟨hallow, hpcp⟩)
    dsimp only
    generalize (if cfg.wifiUnicastStreams = true then
      msrpWifiUcastLookupDa s.mrp (Octets.read 6 frame) else none) = ucastDa
    have himage : (ucastDa.map frame.readdress).getD frame = frame ∨
        ∃ da, (ucastDa.map frame.readdress).getD frame = frame.readdress da := by
      cases ucastDa with
      | none => exact .inl rfl
      | some da => exact .inr ⟨da, rfl⟩
    split
    · exact .inr ⟨hkept, _, himage, .inr rfl⟩
    · split
      · exact .inr ⟨hkept, _, himage, .inl rfl⟩
      · exact .inl rfl

/-- A frame of the Ethernet side is kept, goes to Wi-Fi as stream data, perhaps re-addressed, or goes
there as it is, with a copy where one is due. -/
theorem receive_eth (h : cfg.TwoPorts) (s : BridgeRx cfg) (frame : Buf) (room bundled : Bool) :
    let s' := s.receive false frame room bundled false
    ((frame.passes = false ∨ frame.etherType = etherTypeVlan) ∧ ∃ ctrlRx, s' = { s with ctrlRx }) ∨
    (frame.passes = true ∧ frame.etherType = etherTypeVlan ∧ ClassAKept cfg frame ∧
      ∃ image, (image = frame ∨ ∃ da, image = frame.readdress da) ∧
        (s' = { s with toWifi := s.toWifi ++ [.frame image] } ∨
          s' = { s with toWifi := s.toWifi ++ [.bundled image] })) ∨
    (frame.passes = true ∧ ClassAKept cfg frame ∧
      s' = { s with
        toWifi := s.toWifi ++ [.frame frame] ++ ((s.acmpCopy? frame).map WifiTx.copy).toList }) := by
  simp only [receive, true_and]
  cases hpasses : frame.passes with
  | false =>
      refine .inl ⟨.inl rfl, ?_⟩
      split
      · exact ⟨s.ctrlRx, rfl⟩
      · rename_i hlen
        have hend : (untagPtp frame).terminated = true := by
          rw [Buf.passes, decide_eq_true (not_lt.mp hlen), Bool.true_and] at hpasses
          simpa using hpasses
        rw [if_neg fun htag => by
          rw [Buf.terminated, htag.1] at hend
          cases hend]
        rw [dispatch]
        simp only [Bool.false_eq_true, if_false, classify_terminated hend]
        exact control_spec ..
  | true =>
      have hlen := Buf.length_of_passes hpasses
      have hgoes := Buf.not_terminated_of_passes hpasses
      rw [if_neg (not_lt.mpr hlen), Buf.untag_of_passes hpasses]
      by_cases hstream : frame.etherType = etherTypeVlan ∧ 16 ≤ frame.length
      · rw [if_pos hstream]
        rcases s.emacStream_spec room bundled hstream.1 hstream.2 with hsame | ⟨hkept, image, hrest⟩
        · exact .inl ⟨.inr hstream.1, s.ctrlRx, hsame⟩
        · exact .inr (.inl ⟨rfl, hstream.1, hkept, image, hrest⟩)
      · rw [if_neg hstream, dispatch]
        by_cases hkept : ClassAKept cfg frame
        · obtain ⟨hverdict, hegress⟩ := @classify_eth cfg _ hgoes fun htag => by
            rcases hkept with hallow | htype | hpcp
            · exact .inr hallow
            · exact absurd htag htype
            · exact .inl hpcp
          have hrestore : ∀ d, s.restore d false frame = frame := by
            intro d
            rw [restore, if_neg]
            rintro ⟨-, -, hside, -⟩
            cases hside
          simp only [Bool.false_eq_true, if_false, hrestore, hverdict, hegress, false_and]
          refine .inr (.inr ⟨trivial, hkept, ?_⟩)
          rw [h.forward_wifi]
          split
          · rename_i havtp
            rw [wifiControl_eth h _ havtp]
            rfl
          · rename_i hother
            have hno : s.acmpCopy? frame = none := by
              rw [acmpCopy?, Buf.isGroupAcmp, decide_eq_false hother, Bool.and_false,
                Bool.false_and, Bool.false_and]
              rfl
            rw [hno, Option.map_none, Option.toList_none, List.append_nil]
        · rw [ClassAKept, not_or, not_or, not_not, not_not] at hkept
          obtain ⟨hallow, htag, hpcp⟩ := hkept
          refine .inl ⟨.inr htag, s.ctrlRx, ?_⟩
          have hdrop : (avbBridgeClassify cfg 0 frame.etherType frame.vlanPcp).verdict = .drop := by
            rw [avbBridgeClassify, if_neg (of_decide_eq_false hgoes), htag, if_neg (by decide),
              if_pos rfl, if_pos hpcp, if_pos ⟨rfl, hallow⟩]
          simp only [Bool.false_eq_true, if_false, hdrop]

end BridgeRx

end EspAvb
