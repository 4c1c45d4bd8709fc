import EspAvb.WifiUnpack
import EspAvb.Proof.WifiReorder

/-!
# Unpacking ends and stays inside

A frame that comes out of a bundle has fewer octets other than zero behind its Ethernet header than
the bundle has: what is unpacked is padded with zeros only, the bundle's own subtype does not go
along, and no octet goes twice into one frame. With this number every call has a cost that covers
the calls it leads to, and a held bundle has the cost of its split in store.

Every buffer has one owner: a call that is still to go on, or a place in a hold table.
-/

namespace EspAvb

open Traced SeqWindow Machine

/-! ### Reads -/

section Reads

variable {mem : Nat → UInt8} {len : Nat}

theorem within_wifiBundleIsAt : Within len (wifiBundleIsAt mem len) := by
  refine within_ite (fun _ => within_pure _) (fun hlen => ?_)
  simp only [wifiBundleEntries] at hlen
  refine (within_octets (by omega)).bind ((within_octets (by omega)).bind ?_)
  refine (within_octet (by simp only [wifiBundleAvtp]; omega)).bind ?_
  exact (within_octets (by omega)).bind (within_pure _)

theorem within_wifiNackIsAt : Within len (wifiNackIsAt mem len) := by
  refine within_ite (fun _ => within_pure _) (fun hlen => ?_)
  simp only [wifiNackAvtp] at hlen
  refine (within_octets (by omega)).bind ?_
  refine (within_octet (by simp only [wifiNackAvtp]; omega)).bind ?_
  exact (within_octets (by omega)).bind (within_pure _)

theorem within_ptpTaggedAt : Within len (ptpTaggedAt mem len) := by
  refine within_ite (fun _ => within_pure _) (fun hlen => ?_)
  refine (within_octets (by omega)).bind ?_
  exact (within_octets (by omega)).bind (within_pure _)

theorem within_wifiRxKindAt : Within len (wifiRxKindAt mem len) := by
  refine within_ite (fun _ => within_pure _) (fun _ => within_ptpTaggedAt.bind ?_)
  refine within_ite (fun _ => within_pure _) (fun _ => within_wifiBundleIsAt.bind ?_)
  exact within_ite (fun _ => within_pure _)
    (fun _ => within_wifiNackIsAt.bind (within_pure _))

theorem within_wifiBundleHeadAt (hlen : wifiBundleEntries ≤ len) :
    Within len (wifiBundleHeadAt mem len) := by
  simp only [wifiBundleEntries] at hlen
  refine (within_octet (by omega)).bind ((within_octet (by omega)).bind ?_)
  exact (within_octets (by omega)).bind ((within_octets (by omega)).bind (within_pure _))

theorem within_wifiBundleFlagsAt (hlen : wifiBundleEntries ≤ len) :
    Within len (wifiBundleFlagsAt mem len) := by
  simp only [wifiBundleEntries] at hlen
  exact within_octet (by omega)

theorem within_wifiBundleFirstPtsAt (hlen : wifiBundleEntries ≤ len) :
    Within len (wifiBundleFirstPtsAt mem len) := by
  simp only [wifiBundleEntries] at hlen
  refine (within_octet (by omega)).bind (within_ite (fun _ => within_pure _) (fun hneed => ?_))
  simp only [wifiBundleEntries, wifiCompactHeader, wifiCompactFixed] at hneed
  refine (within_octet ?_).bind (within_ite (fun _ => within_pure _) (fun _ => ?_))
  · simp only [wifiBundleEntries]
    split at hneed <;> simp_all <;> omega
  · refine (within_octets ?_).bind (within_pure _)
    simp only [wifiBundleEntries, wifiCompactHeader]
    split at hneed <;> simp_all <;> omega

theorem within_wifiSplitHeadAt (hlen : wifiBundleEntries ≤ len) :
    Within len (wifiSplitHeadAt mem len) := by
  simp only [wifiBundleEntries] at hlen
  exact (within_octet (by omega)).bind ((within_octet (by omega)).bind (within_pure _))

theorem within_wifiPlainEntryAt {off : Nat} (hlen : wifiBundleEntries ≤ len) :
    Within len (wifiPlainEntryAt mem len off) := by
  simp only [wifiBundleEntries] at hlen
  refine within_ite (fun _ => within_pure _) (fun hoff => ?_)
  refine (within_octet (by omega)).bind ((within_octet (by omega)).bind ?_)
  refine within_ite (fun _ => within_pure _) (fun hfits => ?_)
  refine (within_octets (by simp only [wifiBundleAvtp]; omega)).bind ?_
  exact (within_octets (by omega)).bind (within_pure _)

/-- What an entry takes: its fixed part, a header of its own, and the payload as it is packed. -/
theorem wifiCompactEntryLen_eq (flags : UInt8) (payloadLen : Nat) :
    wifiCompactEntryLen flags (wifiCompactHeader + payloadLen)
      = wifiCompactFixed
        + (if (flags &&& wifiCompactOwnHeader != 0) = true then wifiCompactHeader else 0)
        + (if (flags &&& wifiCompactPacked != 0) = true then payloadLen / 4 * 3
          else payloadLen) := by
  simp only [wifiCompactEntryLen, Nat.add_sub_cancel_left, bne_iff_ne]

theorem within_wifiCompactEntryAt {off : Nat}
    (hlen : wifiBundleEntries + wifiCompactHeader ≤ len) :
    Within len (wifiCompactEntryAt mem len off) := by
  simp only [wifiBundleEntries, wifiCompactHeader] at hlen
  refine within_ite (fun _ => within_pure _) (fun hoff => ?_)
  simp only [wifiCompactFixed] at hoff
  refine (within_octet (by omega)).bind ((within_octet (by omega)).bind ?_)
  refine (within_octet (by omega)).bind (within_ite (fun _ => within_pure _) (fun hfits => ?_))
  rw [wifiCompactEntryLen_eq] at hfits
  simp only [wifiCompactFixed, wifiCompactHeader] at hfits
  refine (within_octets (by simp only [wifiBundleAvtp]; omega)).bind ?_
  refine Within.bind (within_octets ?_) ?_
  · simp only [wifiBundleEntries, wifiCompactHeader, wifiCompactFixed]
    split
    · rw [if_pos ‹_›] at hfits
      omega
    · omega
  · refine (within_octet (by omega)).bind ((within_octets (by omega)).bind ?_)
    refine Within.bind ?_ (within_pure _)
    unfold wifiEntryPayloadAt
    simp only [wifiCompactFixed, wifiCompactHeader]
    refine within_ite (fun hpacked => (within_octets ?_).bind (within_pure _))
      (fun hpacked => within_octets ?_)
    · rw [if_pos hpacked] at hfits
      omega
    · rw [if_neg hpacked] at hfits
      omega

theorem within_wifiEntryAt {compact : Bool} {off : Nat} (hlen : wifiBundleEntries ≤ len)
    (hcompact : compact = true → wifiBundleEntries + wifiCompactHeader ≤ len) :
    Within len (wifiEntryAt compact off mem len) :=
  within_ite (fun h => within_wifiCompactEntryAt (hcompact h))
    (fun _ => within_wifiPlainEntryAt hlen)

end Reads

/-! ### What is in an entry -/

/-- The octets other than zero. -/
def nonzero (l : Buf) : Nat := l.countP (· ≠ 0)

@[simp]
theorem nonzero_append (a b : Buf) : nonzero (a ++ b) = nonzero a + nonzero b :=
  List.countP_append

theorem nonzero_sublist {a b : Buf} (h : a.Sublist b) : nonzero a ≤ nonzero b :=
  h.countP_le

/-- Unpacked samples have zeros only where they were not packed. -/
theorem nonzero_unpackSamples (l : Buf) : nonzero (unpackSamples l) ≤ nonzero l := by
  fun_induction unpackSamples l with
  | case1 hi mid lo rest ih =>
      have hrest : nonzero (hi :: mid :: lo :: 0 :: unpackSamples rest)
          = nonzero [hi, mid, lo] + nonzero (unpackSamples rest) := by
        rw [show hi :: mid :: lo :: 0 :: unpackSamples rest
          = [hi, mid, lo] ++ ([0] ++ unpackSamples rest) from rfl, nonzero_append, nonzero_append]
        simp [nonzero]
      rw [hrest, show hi :: mid :: lo :: rest = [hi, mid, lo] ++ rest from rfl, nonzero_append]
      omega
  | case2 => simp [nonzero]

/-- The number of them among the `count` octets from `start` on. -/
def nonzeroAt (mem : Nat → UInt8) (start count : Nat) : Nat := nonzero (octets mem start count).value

section Entries

variable {mem : Nat → UInt8}

theorem nonzeroAt_add (start n m : Nat) :
    nonzeroAt mem start (n + m) = nonzeroAt mem start n + nonzeroAt mem (start + n) m := by
  have hsplit : (octets mem start (n + m)).value
      = (octets mem start n).value ++ (octets mem (start + n) m).value := by
    simp only [octets, List.range_add, List.map_append, List.map_map]
    congr 2
    funext i
    simp only [Function.comp_apply, Nat.add_assoc]
  rw [nonzeroAt, hsplit, nonzero_append]
  rfl

theorem nonzeroAt_inside {start count a n : Nat} (hlow : start ≤ a)
    (hhigh : a + n ≤ start + count) : nonzeroAt mem a n ≤ nonzeroAt mem start count := by
  obtain ⟨before, rfl⟩ := Nat.exists_eq_add_of_le hlow
  obtain ⟨behind, hbehind⟩ := Nat.exists_eq_add_of_le (show before + n ≤ count by omega)
  rw [hbehind, nonzeroAt_add, nonzeroAt_add]
  omega

/-- What a frame weighs: its octets other than zero behind the Ethernet and VLAN headers. -/
def weight (b : Buf) : Nat := nonzero (b.drop wifiBundleAvtp)

theorem drop_eq_octets (b : Buf) (start : Nat) :
    b.drop start = (octets (fun i => b.getD i 0) start (b.length - start)).value := by
  apply List.ext_getElem
  · simp [octets]
  · intro i hi _
    have hin : start + i < b.length := by
      rw [List.length_drop] at hi
      omega
    simp [octets, List.getElem?_eq_getElem hin]

theorem weight_eq {b : Buf} (hlen : wifiBundleEntries ≤ b.length) :
    weight b = nonzeroAt (fun i => b.getD i 0) 18 20
      + nonzeroAt (fun i => b.getD i 0) 38 (b.length - 38) := by
  simp only [wifiBundleEntries] at hlen
  rw [weight, wifiBundleAvtp, drop_eq_octets, ← nonzeroAt_add 18 20 (b.length - 38)]
  rw [show b.length - 18 = 20 + (b.length - 38) by omega]
  rfl

/-- The subtype of a bundle counts, and stays behind. -/
theorem weight_bundle {b : Buf} (h : wifiBundleIs b) :
    nonzeroAt (fun i => b.getD i 0) 38 (b.length - 38) < weight b := by
  obtain ⟨hlen, -, -, -, -, hsubtype, -⟩ := h
  have hone : 1 ≤ nonzeroAt (fun i => b.getD i 0) 18 1 := by
    have hvalue : (octets (fun i => b.getD i 0) 18 1).value = [wifiBundleSubtype] := by
      rw [← hsubtype]
      rfl
    rw [nonzeroAt, hvalue]
    decide
  have hhead : nonzeroAt (fun i => b.getD i 0) 18 1 ≤ nonzeroAt (fun i => b.getD i 0) 18 20 :=
    nonzeroAt_inside le_rfl (by omega)
  rw [weight_eq hlen]
  omega

theorem weight_plain {len off next : Nat} {frame : Buf} (hoff : 38 ≤ off)
    (h : (wifiPlainEntryAt mem len off).value = some (frame, next)) :
    weight frame ≤ nonzeroAt mem 38 (len - 38) ∧ off ≤ next := by
  unfold wifiPlainEntryAt at h
  split at h
  · cases h
  · rw [value_bind, value_bind] at h
    dsimp only [value_octet] at h
    split at h
    · cases h
    · obtain ⟨rfl, rfl⟩ := Prod.mk.inj (Option.some.inj h)
      refine ⟨?_, by omega⟩
      have hdrop : weight ((octets mem 0 wifiBundleAvtp).value
          ++ (octets mem (off + 2) ((mem off).toNat * 256 + (mem (off + 1)).toNat)).value)
          = nonzeroAt mem (off + 2) ((mem off).toNat * 256 + (mem (off + 1)).toNat) := by
        rw [weight, List.drop_left' (by simp [octets])]
        rfl
      rw [hdrop]
      exact nonzeroAt_inside (by omega) (by omega)

/-- The payload that is unpacked weighs what the entry holds of it. -/
theorem nonzero_payload (src payloadLen : Nat) (packed : Bool) :
    nonzero (wifiEntryPayloadAt mem src payloadLen packed).value
      ≤ nonzeroAt mem src (if packed = true then payloadLen / 4 * 3 else payloadLen) := by
  unfold wifiEntryPayloadAt
  cases packed with
  | false => exact le_rfl
  | true => exact nonzero_unpackSamples _

/-- The parts of the header that are kept, and those that the entry gives. -/
theorem nonzero_header (h : Nat) :
    nonzero ((octets mem h 24).value.take 2) + nonzero (Buf.slice (octets mem h 24).value 3 9)
      + nonzero ((octets mem h 24).value.drop 16) ≤ nonzeroAt mem h 24 := by
  have htake : (octets mem h 24).value.take 2 = (octets mem h 2).value := rfl
  have hslice : Buf.slice (octets mem h 24).value 3 9 = (octets mem (h + 3) 9).value := rfl
  have hdrop : (octets mem h 24).value.drop 16 = (octets mem (h + 16) 8).value := rfl
  rw [htake, hslice, hdrop]
  have hfirst := @nonzeroAt_add mem h 2 22
  have hsecond := @nonzeroAt_add mem (h + 2) 1 21
  have hthird := @nonzeroAt_add mem (h + 3) 9 12
  have hfourth := @nonzeroAt_add mem (h + 12) 4 8
  simp only [nonzeroAt, Nat.add_assoc, Nat.reduceAdd] at hfirst hsecond hthird hfourth ⊢
  omega

theorem weight_compact {len off next : Nat} {frame : Buf} (hoff : 62 ≤ off)
    (h : (wifiCompactEntryAt mem len off).value = some (frame, next)) :
    weight frame ≤ nonzeroAt mem 38 (len - 38) ∧ off ≤ next := by
  unfold wifiCompactEntryAt at h
  split at h
  · cases h
  · rw [value_bind, value_bind, value_bind] at h
    dsimp only [value_octet] at h
    split at h
    · cases h
    case isFalse hfits =>
      rw [wifiCompactEntryLen_eq] at hfits
      obtain ⟨rfl, rfl⟩ := Prod.mk.inj (Option.some.inj h)
      refine ⟨?_, by omega⟩
      generalize (mem off &&& wifiCompactOwnHeader != 0) = own at hfits ⊢
      generalize (mem off &&& wifiCompactPacked != 0) = packed at hfits ⊢
      generalize (mem (off + 6)).toNat * 256 + (mem (off + 7)).toNat = payloadLen at hfits ⊢
      simp only [List.append_assoc]
      rw [weight, List.drop_left' (by simp [octets])]
      simp only [nonzero_append]
      have hseq : nonzero [mem (off + 1)] = nonzeroAt mem (off + 1) 1 := rfl
      have hts : nonzero (octets mem (off + 2) 4).value = nonzeroAt mem (off + 2) 4 := rfl
      have hpayload := @nonzero_payload mem
        (off + wifiCompactFixed + if own then wifiCompactHeader else 0) payloadLen packed
      have hfixed := @nonzeroAt_add mem (off + 1) 1 4
      rw [value_octet, hseq, hts]
      unfold wifiEntryHeaderAt
      cases own with
      | false =>
          have hheader := @nonzero_header mem 38
          simp only [wifiCompactFixed, wifiCompactHeader, Bool.false_eq_true, if_false, Nat.add_zero,
            wifiBundleEntries] at hfits hpayload hheader ⊢
          have htemplate := @nonzeroAt_add mem 38 24 (len - 62)
          have hrest := @nonzeroAt_add mem (off + 1) 7
            (if packed = true then payloadLen / 4 * 3 else payloadLen)
          have hin : nonzeroAt mem (off + 1)
              (7 + if packed = true then payloadLen / 4 * 3 else payloadLen)
              ≤ nonzeroAt mem 62 (len - 62) := nonzeroAt_inside (by omega) (by omega)
          have hhead : nonzeroAt mem (off + 1) 5 ≤ nonzeroAt mem (off + 1) 7 :=
            nonzeroAt_inside le_rfl (by omega)
          rw [show 24 + (len - 62) = len - 38 by omega] at htemplate
          simp only [Nat.add_assoc, Nat.reduceAdd] at hfixed hrest htemplate hpayload hheader hin ⊢
          omega
      | true =>
          have hheader := @nonzero_header mem (off + 8)
          simp only [wifiCompactFixed, wifiCompactHeader, if_true] at hfits hpayload hheader ⊢
          have hrest := @nonzeroAt_add mem (off + 1) 31
            (if packed = true then payloadLen / 4 * 3 else payloadLen)
          have hown := @nonzeroAt_add mem (off + 1) 7 24
          have hin : nonzeroAt mem (off + 1)
              (31 + if packed = true then payloadLen / 4 * 3 else payloadLen)
              ≤ nonzeroAt mem 38 (len - 38) := nonzeroAt_inside (by omega) (by omega)
          have hhead : nonzeroAt mem (off + 1) 5 ≤ nonzeroAt mem (off + 1) 7 :=
            nonzeroAt_inside le_rfl (by omega)
          simp only [Nat.add_assoc, Nat.reduceAdd] at hfixed hrest hown hpayload hheader hin ⊢
          omega

end Entries

/-! ### Owners and costs -/

def WifiCall.owns : WifiCall → List BufId
  | .inner buf | .receive buf | .split buf | .entries _ buf _ _ _ => [buf]
  | .accepted _ _ | .drained _ _ => []

/-- The block holds a whole bundle. -/
def HoldsBundle (blocks : BufId → Option Buf) (buf : BufId) : Prop :=
  ∃ b, blocks buf = some b ∧ wifiBundleIs b

/-- What a call that is still to go on relies on. A split finds its bundle as it was when it began. -/
def WifiCall.Ok (blocks : BufId → Option Buf) : WifiCall → Prop
  | .inner buf => ∃ b, blocks buf = some b
  | .receive buf | .split buf => HoldsBundle blocks buf
  | .entries compact buf off left begun => blocks buf = some begun ∧ wifiBundleIs begun
      ∧ (compact = true → 62 ≤ off ∧ wifiBundleEntries + wifiCompactHeader ≤ begun.length)
      ∧ 38 ≤ off ∧ left ≤ 255
  | .accepted _ _ | .drained _ _ => True

def weightOf (blocks : BufId → Option Buf) (buf : BufId) : Nat :=
  match blocks buf with
  | none => 0
  | some b => weight b

/-- A split hands on at most 255 frames, each of them lighter than the bundle. -/
def splitCost : Nat → Nat
  | 0 => 2
  | w + 1 => 255 * (splitCost w + 5) + 2

theorem splitCost_mono {w w' : Nat} (h : w ≤ w') : splitCost w ≤ splitCost w' := by
  induction h with
  | refl => exact le_rfl
  | step _ ih =>
      rw [splitCost]
      omega

def WifiCall.cost (blocks : BufId → Option Buf) : WifiCall → Nat
  | .inner buf => splitCost (weightOf blocks buf) + 4
  | .receive buf => splitCost (weightOf blocks buf) + 3
  | .split buf => splitCost (weightOf blocks buf)
  | .entries _ buf _ left _ => left * (splitCost (weightOf blocks buf - 1) + 5) + 1
  | .accepted _ _ | .drained _ _ => 1

/-- A held bundle is worth its split and the drain that comes for it. -/
def heldCost (blocks : BufId → Option Buf) (h : WifiHeld) : Nat :=
  splitCost (weightOf blocks h.buf) + 2

namespace WifiUnpack

/-- How many calls and hold tables have this buffer. -/
def owners (c : WifiUnpack) (id : BufId) : Nat :=
  (c.calls.flatMap WifiCall.owns).count id
    + ∑ ix, ((c.streams ix).held.map WifiHeld.buf).count id

def cost (c : WifiUnpack) : Nat :=
  (c.calls.map (WifiCall.cost c.blocks)).sum
    + ∑ ix, ((c.streams ix).held.map (heldCost c.blocks)).sum

/-- Every buffer has one owner and is in use; `loose` are those that the running step has. -/
structure Sound (c : WifiUnpack) (loose : List BufId) : Prop where
  single : ∀ id, loose.count id + c.owners id ≤ 1
  live : ∀ id ∈ loose, ∃ b, c.blocks id = some b
  held : ∀ ix, ∀ h ∈ (c.streams ix).held, HoldsBundle c.blocks h.buf
  room : ∀ ix, (c.streams ix).held.length ≤ wifiBundleHold
  calls : ∀ call ∈ c.calls, call.Ok c.blocks
  good : c.bad = false

end WifiUnpack

theorem sum_update (f : WifiRxEntry → Nat) (streams : Fin wifiRxStreams → WifiRxEntry)
    (ix : Fin wifiRxStreams) (rx : WifiRxEntry) :
    ∑ i, f (Function.update streams ix rx i) + f (streams ix) = ∑ i, f (streams i) + f rx := by
  have hothers : ∑ i ∈ Finset.univ.erase ix, f (Function.update streams ix rx i)
      = ∑ i ∈ Finset.univ.erase ix, f (streams i) := by
    refine Finset.sum_congr rfl fun i hi => ?_
    rw [Function.update_of_ne (Finset.ne_of_mem_erase hi)]
  rw [← Finset.add_sum_erase _ _ (Finset.mem_univ ix), hothers, Function.update_self,
    ← Finset.add_sum_erase _ (fun i => f (streams i)) (Finset.mem_univ ix)]
  omega

namespace WifiUnpack

variable {c : WifiUnpack} {loose : List BufId}

theorem mem_owns_pos {calls : List WifiCall} {call : WifiCall} {id : BufId} (hmem : call ∈ calls)
    (hid : id ∈ call.owns) : 0 < (calls.flatMap WifiCall.owns).count id :=
  List.count_pos_iff.2 (List.mem_flatMap.2 ⟨call, hmem, hid⟩)

theorem held_owned {ix : Fin wifiRxStreams} {h : WifiHeld} (hmem : h ∈ (c.streams ix).held) :
    0 < ∑ i, ((c.streams i).held.map WifiHeld.buf).count h.buf := by
  have hpos : 0 < ((c.streams ix).held.map WifiHeld.buf).count h.buf :=
    List.count_pos_iff.2 (List.mem_map_of_mem hmem)
  exact lt_of_lt_of_le hpos (Finset.single_le_sum
    (f := fun i => ((c.streams i).held.map WifiHeld.buf).count h.buf)
    (fun _ _ => Nat.zero_le _) (Finset.mem_univ ix))

theorem weightOf_congr {blocks blocks' : BufId → Option Buf} {id : BufId}
    (h : blocks' id = blocks id) : weightOf blocks' id = weightOf blocks id := by
  simp only [weightOf, h]

theorem WifiCall.ok_congr {blocks blocks' : BufId → Option Buf} {call : WifiCall}
    (h : ∀ id ∈ call.owns, blocks' id = blocks id) (hok : call.Ok blocks) : call.Ok blocks' := by
  cases call with
  | inner buf | receive buf | split buf | entries compact buf off left begun =>
      have hbuf := h buf (List.mem_singleton_self buf)
      simpa only [WifiCall.Ok, HoldsBundle, hbuf] using hok
  | accepted ix nowUs | drained ix nowUs => trivial

theorem WifiCall.cost_congr {blocks blocks' : BufId → Option Buf} {call : WifiCall}
    (h : ∀ id ∈ call.owns, blocks' id = blocks id) :
    WifiCall.cost blocks' call = WifiCall.cost blocks call := by
  cases call with
  | inner buf | receive buf | split buf | entries compact buf off left begun =>
      simp only [WifiCall.cost, weightOf_congr (h buf (List.mem_singleton_self buf))]
  | accepted ix nowUs | drained ix nowUs => rfl

/-- Blocks that nobody owns may change. -/
theorem cost_of_blocks (blocks : BufId → Option Buf)
    (h : ∀ id, c.owners id ≠ 0 → blocks id = c.blocks id) :
    ({ c with blocks } : WifiUnpack).cost = c.cost := by
  have hcalls : c.calls.map (WifiCall.cost blocks) = c.calls.map (WifiCall.cost c.blocks) := by
    refine List.map_congr_left fun call hmem => WifiCall.cost_congr fun id hid => h id ?_
    have := mem_owns_pos hmem hid
    unfold owners
    omega
  have hheld : ∀ ix, (c.streams ix).held.map (heldCost blocks)
      = (c.streams ix).held.map (heldCost c.blocks) := by
    intro ix
    refine List.map_congr_left fun held hmem => ?_
    have hpos := held_owned hmem
    have hsame := h held.buf (by unfold owners; omega)
    simp only [heldCost, weightOf_congr hsame]
  simp only [cost, hcalls, hheld]

theorem Sound.of_blocks (hs : c.Sound loose) (blocks : BufId → Option Buf)
    (h : ∀ id, loose.count id + c.owners id ≠ 0 → blocks id = c.blocks id) :
    ({ c with blocks } : WifiUnpack).Sound loose := by
  refine ⟨hs.single, ?_, ?_, hs.room, ?_, hs.good⟩
  · intro id hid
    have := List.count_pos_iff.2 hid
    change ∃ b, blocks id = some b
    rw [h id (by omega)]
    exact hs.live id hid
  · intro ix held hmem
    have hpos := held_owned (c := c) hmem
    have hsame := h held.buf (by unfold owners; omega)
    simpa only [HoldsBundle, hsame] using hs.held ix held hmem
  · intro call hmem
    refine WifiCall.ok_congr (fun id hid => h id ?_) (hs.calls call hmem)
    have hpos : 0 < (c.calls.flatMap WifiCall.owns).count id := mem_owns_pos hmem hid
    unfold owners
    omega

/-! ### The operations -/

/-- A read inside a block changes nothing. -/
theorem look_eq {α : Type} {buf : BufId} {b : Buf} {t : (Nat → UInt8) → Nat → Traced α}
    (hblock : c.blocks buf = some b)
    (hwithin : Within b.length (t (fun i => b.getD i 0) b.length)) :
    c.look buf t = ((t (fun i => b.getD i 0) b.length).value, c) := by
  have hnone : (t (fun i => b.getD i 0) b.length).reads.any (b.length ≤ ·) = false := by
    rw [List.any_eq_false]
    intro i hi
    simpa using hwithin i hi
  simp only [look, hblock, hnone, Bool.or_false]

theorem Sound.free {buf : BufId} (hs : c.Sound (buf :: loose)) : (c.free buf).Sound loose := by
  have hsingle : ∀ id, id = buf → loose.count id + c.owners id = 0 := by
    rintro id rfl
    have := hs.single id
    rw [List.count_cons_self] at this
    omega
  have hrest : c.Sound loose :=
    ⟨fun id => le_trans (Nat.add_le_add_right (List.count_le_count_cons ..) _) (hs.single id),
      fun id hid => hs.live id (List.mem_cons_of_mem _ hid), hs.held, hs.room, hs.calls, hs.good⟩
  have hblocks := hrest.of_blocks (Function.update c.blocks buf none) (by
    intro id hid
    rw [Function.update_of_ne]
    rintro rfl
    exact hid (hsingle id rfl))
  obtain ⟨b, hb⟩ := hs.live buf List.mem_cons_self
  refine ⟨hblocks.single, hblocks.live, hblocks.held, hblocks.room, hblocks.calls, ?_⟩
  simp only [WifiUnpack.free, hb, hs.good, Option.isNone_some, Bool.or_false]

theorem Sound.cost_free {buf : BufId} (hs : c.Sound (buf :: loose)) :
    (c.free buf).cost = c.cost := by
  have hsame := @cost_of_blocks c (Function.update c.blocks buf none) (by
    intro id hid
    rw [Function.update_of_ne]
    rintro rfl
    have := hs.single id
    rw [List.count_cons_self] at this
    omega)
  exact hsame

theorem Sound.call {calls : List WifiCall}
    (hs : c.Sound (calls.flatMap WifiCall.owns ++ loose)) (hok : ∀ call ∈ calls, call.Ok c.blocks) :
    (c.call calls).Sound loose := by
  refine ⟨?_, ?_, hs.held, hs.room, ?_, hs.good⟩
  · intro id
    have := hs.single id
    simp only [owners, WifiUnpack.call, List.flatMap_append, List.count_append] at this ⊢
    omega
  · exact fun id hid => hs.live id (List.mem_append_right _ hid)
  · intro call hmem
    rcases List.mem_append.1 hmem with h | h
    · exact hok call h
    · exact hs.calls call h

theorem cost_call (calls : List WifiCall) :
    (c.call calls).cost = (calls.map (WifiCall.cost c.blocks)).sum + c.cost := by
  simp only [cost, WifiUnpack.call, List.map_append, List.sum_append, Nat.add_assoc]

/-- An entry whose hold table changes hands bundles over to the running step, or takes them. -/
theorem Sound.setEntry {loose' : List BufId} (hs : c.Sound loose) (ix : Fin wifiRxStreams)
    {rx : WifiRxEntry}
    (hcount : ∀ id, loose'.count id + (rx.held.map WifiHeld.buf).count id
      ≤ loose.count id + ((c.streams ix).held.map WifiHeld.buf).count id)
    (hlive : ∀ id ∈ loose', ∃ b, c.blocks id = some b)
    (hheld : ∀ h ∈ rx.held, HoldsBundle c.blocks h.buf)
    (hroom : rx.held.length ≤ wifiBundleHold) : (c.setEntry ix rx).Sound loose' := by
  refine ⟨?_, hlive, ?_, ?_, hs.calls, hs.good⟩
  · intro id
    have hsum := sum_update (fun rx => (rx.held.map WifiHeld.buf).count id) c.streams ix rx
    have hsingle := hs.single id
    have hid := hcount id
    simp only [owners, WifiUnpack.setEntry] at hsingle ⊢
    omega
  · intro i h hmem
    simp only [WifiUnpack.setEntry] at hmem
    by_cases hi : i = ix
    · subst hi
      rw [Function.update_self] at hmem
      exact hheld h hmem
    · rw [Function.update_of_ne hi] at hmem
      exact hs.held i h hmem
  · intro i
    simp only [WifiUnpack.setEntry]
    by_cases hi : i = ix
    · subst hi
      rw [Function.update_self]
      exact hroom
    · rw [Function.update_of_ne hi]
      exact hs.room i

theorem cost_setEntry (ix : Fin wifiRxStreams) (rx : WifiRxEntry) :
    (c.setEntry ix rx).cost + ((c.streams ix).held.map (heldCost c.blocks)).sum
      = c.cost + (rx.held.map (heldCost c.blocks)).sum := by
  have hsum := sum_update (fun rx => (rx.held.map (heldCost c.blocks)).sum) c.streams ix rx
  simp only [cost, WifiUnpack.setEntry]
  omega

/-- Fields of an entry other than its hold table are free to change. -/
theorem Sound.setEntry_same (hs : c.Sound loose) (ix : Fin wifiRxStreams) (rx : WifiRxEntry)
    (h : rx.held = (c.streams ix).held) : (c.setEntry ix rx).Sound loose :=
  hs.setEntry ix (fun _ => by rw [h]) hs.live (fun held hmem => hs.held ix held (h ▸ hmem))
    (h ▸ hs.room ix)

theorem cost_setEntry_same (ix : Fin wifiRxStreams) (rx : WifiRxEntry)
    (h : rx.held = (c.streams ix).held) : (c.setEntry ix rx).cost = c.cost := by
  have hcost := cost_setEntry (c := c) ix rx
  rw [h] at hcost
  omega

/-- What is owned is in use. -/
theorem Sound.owned_live (hs : c.Sound loose) {id : BufId}
    (howned : loose.count id + c.owners id ≠ 0) : ∃ b, c.blocks id = some b := by
  by_cases hloose : id ∈ loose
  · exact hs.live id hloose
  · rw [List.count_eq_zero_of_not_mem hloose, owners] at howned
    by_cases hcalls : (c.calls.flatMap WifiCall.owns).count id = 0
    · have hsum : ∑ ix, ((c.streams ix).held.map WifiHeld.buf).count id ≠ 0 := by omega
      obtain ⟨ix, -, hix⟩ := Finset.exists_ne_zero_of_sum_ne_zero hsum
      obtain ⟨h, hmem, rfl⟩ := List.mem_map.1 (List.count_pos_iff.1 (Nat.pos_of_ne_zero hix))
      obtain ⟨b, hb, -⟩ := hs.held ix h hmem
      exact ⟨b, hb⟩
    · obtain ⟨call, hmem, hid⟩ :=
        List.mem_flatMap.1 (List.count_pos_iff.1 (Nat.pos_of_ne_zero hcalls))
      have hok := hs.calls call hmem
      cases call with
      | inner buf =>
          obtain rfl := List.mem_singleton.1 hid
          exact hok
      | receive buf | split buf =>
          obtain rfl := List.mem_singleton.1 hid
          obtain ⟨b, hb, -⟩ := hok
          exact ⟨b, hb⟩
      | entries compact buf off left begun =>
          obtain rfl := List.mem_singleton.1 hid
          exact ⟨begun, hok.1⟩
      | accepted ix nowUs | drained ix nowUs => cases hid

/-- A new block is nobody's. -/
theorem Sound.fresh (hs : c.Sound loose) {id : BufId} (hfree : c.blocks id = none) (content : Buf) :
    ({ c with blocks := Function.update c.blocks id (some content) } : WifiUnpack).Sound
        (id :: loose)
      ∧ ({ c with blocks := Function.update c.blocks id (some content) } : WifiUnpack).cost
        = c.cost := by
  have hnone : loose.count id + c.owners id = 0 := by
    by_contra howned
    obtain ⟨b, hb⟩ := hs.owned_live howned
    rw [hb] at hfree
    cases hfree
  have hsame : ∀ id', loose.count id' + c.owners id' ≠ 0 →
      Function.update c.blocks id (some content) id' = c.blocks id' := by
    intro id' howned
    rw [Function.update_of_ne]
    rintro rfl
    exact howned hnone
  have hblocks := hs.of_blocks _ hsame
  refine ⟨⟨?_, ?_, hblocks.held, hblocks.room, hblocks.calls, hblocks.good⟩,
    cost_of_blocks _ fun id' howned => hsame id' (by omega)⟩
  · intro id'
    have hsingle := hblocks.single id'
    by_cases hid : id = id'
    · subst hid
      rw [List.count_cons_self]
      change loose.count id + 1 + c.owners id ≤ 1
      omega
    · rw [List.count_cons_of_ne hid]
      exact hsingle
  · intro id' hmem
    rcases List.mem_cons.1 hmem with rfl | hmem
    · exact ⟨content, Function.update_self ..⟩
    · exact hblocks.live id' hmem

theorem Sound.alloc {o : WifiRxOracle} {content : Buf} {id : BufId} {c' : WifiUnpack}
    (hs : c.Sound loose) (halloc : c.alloc o content = some (id, c')) :
    c'.Sound (id :: loose) ∧ c'.cost = c.cost ∧ c'.blocks id = some content
      ∧ ∀ other, c.blocks other ≠ none → c'.blocks other = c.blocks other := by
  unfold WifiUnpack.alloc at halloc
  split at halloc
  · cases halloc
  · split at halloc
    case isTrue hfree =>
      obtain ⟨rfl, rfl⟩ := Prod.mk.inj (Option.some.inj halloc)
      obtain ⟨hsound, hcost⟩ := hs.fresh hfree content
      refine ⟨hsound, hcost, Function.update_self .., fun other hused => ?_⟩
      refine Function.update_of_ne ?_ _ _
      rintro rfl
      exact hused hfree
    case isFalse => cases halloc

/-! ### The drain -/

theorem heldNext_lt {seq : BitVec 16} {held : List WifiHeld} {i : Nat}
    (h : heldNext seq held = some i) : i < held.length := by
  induction held generalizing i with
  | nil => cases h
  | cons b rest ih =>
      rw [heldNext] at h
      cases hrest : heldNext seq rest with
      | some j =>
          rw [hrest] at h
          obtain rfl : j + 1 = i := by simpa using h
          exact Nat.succ_lt_succ (ih hrest)
      | none =>
          rw [hrest] at h
          dsimp only at h
          split_ifs at h with hseq
          obtain rfl : 0 = i := by simpa using h
          exact Nat.succ_pos _

theorem heldNext_of_mem {held : List WifiHeld} {h : WifiHeld} (hmem : h ∈ held) :
    ∃ i, heldNext h.seq held = some i := by
  induction held with
  | nil => cases hmem
  | cons b rest ih =>
      rw [heldNext]
      cases hrest : heldNext h.seq rest with
      | some j => exact ⟨j + 1, rfl⟩
      | none =>
          rcases List.mem_cons.1 hmem with rfl | hin
          · exact ⟨0, by simp⟩
          · obtain ⟨i, hi⟩ := ih hin
            rw [hrest] at hi
            cases hi

theorem lowestHeld_mem {held : List WifiHeld} {h : WifiHeld} (hlow : lowestHeld held = some h) :
    h ∈ held := by
  cases held with
  | nil => cases hlow
  | cons b rest =>
      have hfold : ∀ (l : List WifiHeld) (first : WifiHeld),
          l.foldl (fun lowest h => if ahead h.seq lowest.seq < 0 then h else lowest) first
            ∈ first :: l := by
        intro l
        induction l with
        | nil => simp
        | cons x xs ih =>
            intro first
            rw [List.foldl_cons]
            have hmem := ih (if ahead x.seq first.seq < 0 then x else first)
            split at hmem
            · rw [if_pos ‹_›]
              exact List.mem_cons_of_mem _ hmem
            · rw [if_neg ‹_›]
              rcases List.mem_cons.1 hmem with heq | hin
              · rw [heq]
                exact List.mem_cons_self
              · exact List.mem_cons_of_mem _ (List.mem_cons_of_mem _ hin)
      obtain rfl := Option.some.inj hlow
      exact hfold rest b

theorem lowestHeld_none {held : List WifiHeld} (hlow : lowestHeld held = none) : held = [] := by
  cases held with
  | nil => rfl
  | cons b rest => cases hlow

variable (o : WifiRxOracle) (ix : Fin wifiRxStreams)

theorem Sound.holdUntil (hs : c.Sound loose) : ∃ t, c.holdUntil o ix = (t, c) := by
  unfold WifiUnpack.holdUntil
  cases hlow : lowestHeld (c.streams ix).held with
  | none => exact ⟨_, rfl⟩
  | some lowest =>
      obtain ⟨b, hb, hbundle⟩ := hs.held ix lowest (lowestHeld_mem hlow)
      dsimp only
      rw [look_eq hb (within_wifiBundleFirstPtsAt hbundle.1)]
      exact ⟨_, rfl⟩

/-- The bundle that leaves the table is loose, and what it had in store is there to be spent. -/
theorem Sound.drainTake {ix : Fin wifiRxStreams} {h : WifiHeld} {c' : WifiUnpack} (hs : c.Sound loose)
    (htake : c.drainTake ix = some (h, c')) :
    c'.Sound (h.buf :: loose) ∧ HoldsBundle c'.blocks h.buf
      ∧ c'.cost + heldCost c'.blocks h = c.cost := by
  unfold WifiUnpack.drainTake at htake
  dsimp only at htake
  cases hnext : heldNext (c.streams ix).expected (c.streams ix).held with
  | none =>
      rw [hnext] at htake
      cases htake
  | some i =>
      have hi := heldNext_lt hnext
      rw [hnext] at htake
      dsimp only at htake
      rw [List.getElem?_eq_getElem hi] at htake
      obtain ⟨rfl, rfl⟩ := Prod.mk.inj (Option.some.inj htake)
      have hperm := swapRemove_perm (c.streams ix).held hi
      have hbundle := hs.held ix _ (List.getElem_mem hi)
      refine ⟨hs.setEntry ix ?_ ?_ ?_ ?_, hbundle, ?_⟩
      · intro id
        have hcount := (hperm.map WifiHeld.buf).count_eq id
        rw [List.map_cons, List.count_cons] at hcount
        rw [List.count_cons]
        dsimp only
        omega
      · intro id hmem
        rcases List.mem_cons.1 hmem with rfl | hin
        · obtain ⟨b, hb, -⟩ := hbundle
          exact ⟨b, hb⟩
        · exact hs.live id hin
      · intro held hmem
        exact hs.held ix held (hperm.subset (List.mem_cons_of_mem _ hmem))
      · have hlength := hperm.length_eq
        have hroom := hs.room ix
        rw [List.length_cons] at hlength
        dsimp only
        omega
      · have hcost := cost_setEntry (c := c) ix
          { c.streams ix with held := swapRemove (c.streams ix).held i }
        have hsum := (hperm.map (heldCost c.blocks)).sum_eq
        rw [List.map_cons, List.sum_cons] at hsum
        change _ + heldCost c.blocks _ = _
        dsimp only at hcost
        omega

theorem Sound.drainSplit (nowUs : Int) {h : WifiHeld} (hs : c.Sound (h.buf :: loose))
    (hbundle : HoldsBundle c.blocks h.buf) :
    (c.drainSplit ix nowUs h).Sound loose
      ∧ (c.drainSplit ix nowUs h).cost + 1 = c.cost + heldCost c.blocks h := by
  obtain ⟨b, hb, hb'⟩ := hbundle
  unfold WifiUnpack.drainSplit
  rw [look_eq hb (within_wifiBundleFlagsAt hb'.1)]
  refine ⟨hs.call ?_, ?_⟩
  · intro call hmem
    rcases List.mem_cons.1 hmem with rfl | hmem
    · exact ⟨b, hb, hb'⟩
    · obtain rfl := List.mem_singleton.1 hmem
      trivial
  · rw [cost_call]
    simp only [List.map_cons, List.map_nil, List.sum_cons, List.sum_nil, WifiCall.cost, heldCost]
    omega

theorem Sound.drainGiveUp (hs : c.Sound loose) (lowest : WifiHeld) :
    (c.drainGiveUp o ix lowest).Sound loose ∧ (c.drainGiveUp o ix lowest).cost = c.cost
      ∧ ((c.drainGiveUp o ix lowest).streams ix).held = (c.streams ix).held
      ∧ ((c.drainGiveUp o ix lowest).streams ix).expected = lowest.seq := by
  have hset := hs.setEntry_same ix { c.streams ix with expected := lowest.seq } rfl
  have hcost := cost_setEntry_same ix { c.streams ix with expected := lowest.seq } rfl
  obtain ⟨t, ht⟩ := hset.holdUntil o ix
  unfold WifiUnpack.drainGiveUp
  dsimp only
  rw [ht]
  refine ⟨hset.setEntry_same ix _ rfl, ?_, ?_, ?_⟩
  · rw [cost_setEntry_same ix _ (by rfl), hcost]
  · simp only [WifiUnpack.setEntry, Function.update_self]
  · simp only [WifiUnpack.setEntry, Function.update_self]

/-- A drain leaves things as they are or hands one bundle on, and the latter when it is overdue. -/
theorem Sound.drain (nowUs : Int) (hs : c.Sound loose) :
    (c.drain o ix nowUs).Sound loose ∧ (c.drain o ix nowUs).cost ≤ c.cost
      ∧ ((c.streams ix).held ≠ [] → (c.streams ix).deadlineUs ≤ nowUs →
        (c.drain o ix nowUs).cost < c.cost) := by
  unfold WifiUnpack.drain
  cases htake : c.drainTake ix with
  | some taken =>
      obtain ⟨h, c'⟩ := taken
      obtain ⟨hs', hbundle, hcost⟩ := hs.drainTake htake
      obtain ⟨hsound, hsplit⟩ := hs'.drainSplit ix nowUs hbundle
      exact ⟨hsound, by dsimp only; omega, fun _ _ => by dsimp only; omega⟩
  | none =>
      cases hlow : lowestHeld (c.streams ix).held with
      | none =>
          refine ⟨hs.setEntry_same ix _ rfl, (cost_setEntry_same ix _ (by rfl)).le,
            fun hheld _ => ?_⟩
          exact absurd (lowestHeld_none hlow) hheld
      | some lowest =>
          dsimp only
          by_cases hdue : nowUs < (c.streams ix).deadlineUs
          · rw [if_pos hdue]
            exact ⟨hs, le_rfl, fun _ hlate => absurd hdue (not_lt.2 hlate)⟩
          · rw [if_neg hdue]
            obtain ⟨hgiven, hcost, hheld, hseq⟩ := hs.drainGiveUp o ix lowest
            cases hagain : (c.drainGiveUp o ix lowest).drainTake ix with
            | some taken =>
                obtain ⟨h, c'⟩ := taken
                obtain ⟨hs', hbundle, htaken⟩ := hgiven.drainTake hagain
                obtain ⟨hsound, hsplit⟩ := hs'.drainSplit ix nowUs hbundle
                exact ⟨hsound, by dsimp only; omega, fun _ _ => by dsimp only; omega⟩
            | none =>
                -- the bundle that comes first is the one that is expected now
                obtain ⟨i, hi⟩ := heldNext_of_mem (lowestHeld_mem hlow)
                have hlt := heldNext_lt hi
                unfold WifiUnpack.drainTake at hagain
                simp only [hheld, hseq, hi, List.getElem?_eq_getElem hlt] at hagain
                cases hagain

/-! ### A bundle comes in -/

theorem cost_setEntry_nil {rx : WifiRxEntry} (h : rx.held = []) :
    (c.setEntry ix rx).cost ≤ c.cost := by
  have hcost := cost_setEntry (c := c) ix rx
  rw [h, List.map_nil, List.sum_nil] at hcost
  omega

theorem cost_setEntry_concat {rx : WifiRxEntry} {h : WifiHeld}
    (hheld : rx.held = (c.streams ix).held ++ [h]) :
    (c.setEntry ix rx).cost = c.cost + heldCost c.blocks h := by
  have hcost := cost_setEntry (c := c) ix rx
  rw [hheld, List.map_append, List.sum_append, List.map_singleton, List.sum_singleton] at hcost
  omega

/-- Freeing what has been taken out of a table leaves every other block alone. -/
theorem Sound.free_all {dropped : List WifiHeld}
    (hs : c.Sound (dropped.map WifiHeld.buf ++ loose)) :
    (dropped.foldl (fun c h => c.free h.buf) c).Sound loose
      ∧ (dropped.foldl (fun c h => c.free h.buf) c).cost = c.cost
      ∧ ∀ id ∈ loose, (dropped.foldl (fun c h => c.free h.buf) c).blocks id = c.blocks id := by
  induction dropped generalizing c with
  | nil => exact ⟨hs, rfl, fun _ _ => rfl⟩
  | cons h rest ih =>
      rw [List.map_cons, List.cons_append] at hs
      obtain ⟨hsound, hcost, hsame⟩ := ih hs.free
      refine ⟨hsound, hcost.trans hs.cost_free, fun id hid => (hsame id hid).trans ?_⟩
      have hsingle := hs.single h.buf
      rw [List.count_cons_self, List.count_append] at hsingle
      have hne : id ≠ h.buf := by
        rintro rfl
        have := List.count_pos_iff.2 hid
        omega
      exact Function.update_of_ne hne _ _

theorem foldl_free_setEntry (dropped : List WifiHeld) (rx : WifiRxEntry) :
    (dropped.foldl (fun c h => c.free h.buf) c).setEntry ix rx
      = dropped.foldl (fun c h => c.free h.buf) (c.setEntry ix rx) := by
  induction dropped generalizing c with
  | nil => rfl
  | cons h rest ih => exact ih

theorem Sound.restart (hs : c.Sound loose) (seq : BitVec 16) :
    (c.restart ix seq).Sound loose ∧ (c.restart ix seq).cost ≤ c.cost
      ∧ ∀ id ∈ loose, (c.restart ix seq).blocks id = c.blocks id := by
  unfold WifiUnpack.restart
  dsimp only
  rw [foldl_free_setEntry]
  have hset : (c.setEntry ix { c.streams ix with
      held := [], deadlineUs := 0, expected := seq, nackNext := seq, seeded := true }).Sound
        ((c.streams ix).held.map WifiHeld.buf ++ loose) := by
    refine hs.setEntry ix ?_ ?_ ?_ ?_
    · intro id
      rw [List.count_append, List.map_nil, List.count_nil]
      omega
    · intro id hid
      rcases List.mem_append.1 hid with hid | hid
      · obtain ⟨h, hmem, rfl⟩ := List.mem_map.1 hid
        obtain ⟨b, hb, -⟩ := hs.held ix h hmem
        exact ⟨b, hb⟩
      · exact hs.live id hid
    · intro h hmem
      cases hmem
    · exact Nat.zero_le _
  obtain ⟨hsound, hcost, hsame⟩ := hset.free_all
  exact ⟨hsound, hcost.trans_le (cost_setEntry_nil ix rfl), hsame⟩

/-- A bundle that is held has what it costs in store. -/
theorem Sound.hold {buf : BufId} (nowUs : Int) (seq : BitVec 16) (hs : c.Sound (buf :: loose))
    (hbundle : HoldsBundle c.blocks buf) (hroom : (c.streams ix).held.length < wifiBundleHold) :
    (c.hold o ix nowUs buf seq).Sound loose
      ∧ (c.hold o ix nowUs buf seq).cost = c.cost + splitCost (weightOf c.blocks buf) + 2 := by
  have hset : (c.setEntry ix { c.streams ix with
      held := (c.streams ix).held ++ [⟨seq, buf⟩] }).Sound loose := by
    refine hs.setEntry ix ?_ ?_ ?_ ?_
    · intro id
      rw [List.map_append, List.count_append, List.count_cons]
      simp only [List.map_cons, List.map_nil, List.count_cons, List.count_nil]
      omega
    · exact fun id hid => hs.live id (List.mem_cons_of_mem _ hid)
    · intro h hmem
      rcases List.mem_append.1 hmem with hmem | hmem
      · exact hs.held ix h hmem
      · obtain rfl := List.mem_singleton.1 hmem
        exact hbundle
    · rw [List.length_append, List.length_singleton]
      exact hroom
  unfold WifiUnpack.hold
  dsimp only
  split
  · obtain ⟨t, ht⟩ := hset.holdUntil o ix
    rw [ht]
    refine ⟨hset.setEntry_same ix _ rfl, ?_⟩
    rw [cost_setEntry_same ix _ (by rfl), cost_setEntry_concat ix (by rfl), heldCost,
      Nat.add_assoc]
  · refine ⟨hset.setEntry_same ix _ rfl, ?_⟩
    rw [cost_setEntry_same ix _ (by rfl), cost_setEntry_concat ix (by rfl), heldCost,
      Nat.add_assoc]

theorem Sound.place {buf : BufId} (nowUs : Int) (seq : BitVec 16) (hs : c.Sound (buf :: loose))
    (hbundle : HoldsBundle c.blocks buf) :
    (c.place o ix nowUs buf seq).Sound loose
      ∧ (c.place o ix nowUs buf seq).cost
        < c.cost + splitCost (weightOf c.blocks buf) + 3 := by
  have hfree := hs.cost_free
  unfold WifiUnpack.place
  dsimp only
  split
  · exact ⟨hs.free, by omega⟩
  · split
    · obtain ⟨b, hb, hb'⟩ := hbundle
      rw [look_eq hb (within_wifiBundleFlagsAt hb'.1)]
      refine ⟨hs.call ?_, ?_⟩
      · intro call hmem
        rcases List.mem_cons.1 hmem with rfl | hmem
        · exact ⟨b, hb, hb'⟩
        · obtain rfl := List.mem_singleton.1 hmem
          trivial
      · rw [cost_call]
        simp only [List.map_cons, List.map_nil, List.sum_cons, List.sum_nil, WifiCall.cost]
        omega
    · split
      · obtain ⟨hsound, hcost, -⟩ := hs.free.drain o ix nowUs
        exact ⟨hsound, by omega⟩
      · split
        case isTrue hfull =>
          -- the table is full, so the drain has something to hand on before the bundle comes again
          have hset := hs.setEntry_same ix { c.streams ix with deadlineUs := nowUs } rfl
          have hcost := cost_setEntry_same ix { c.streams ix with deadlineUs := nowUs } rfl
          have hcall : ((c.setEntry ix { c.streams ix with deadlineUs := nowUs }).call
              [.receive buf]).Sound loose := by
            refine hset.call ?_
            intro call hmem
            obtain rfl := List.mem_singleton.1 hmem
            exact hbundle
          obtain ⟨hsound, -, hless⟩ := hcall.drain o ix nowUs
          refine ⟨hsound, lt_of_lt_of_le (hless ?_ ?_) ?_⟩
          · simp only [WifiUnpack.call, WifiUnpack.setEntry, Function.update_self]
            rintro hnil
            rw [hnil] at hfull
            exact absurd hfull (by decide)
          · simp only [WifiUnpack.call, WifiUnpack.setEntry, Function.update_self]
            exact le_rfl
          · rw [cost_call, hcost]
            simp only [List.map_cons, List.map_nil, List.sum_cons, List.sum_nil, WifiCall.cost,
              WifiUnpack.setEntry]
            omega
        case isFalse hroom =>
          obtain ⟨hheld, hcost⟩ := hs.hold o ix nowUs seq hbundle (not_le.1 hroom)
          obtain ⟨hsound, hle, -⟩ := hheld.drain o ix nowUs
          exact ⟨hsound, by omega⟩

/-- An entry that is taken over holds nothing more than it did. -/
theorem entryFor_held {streamId : Buf} {nowUs : Int} {ix : Fin wifiRxStreams} {rx : WifiRxEntry}
    (h : c.entryFor streamId nowUs = some (ix, rx)) :
    rx.held = (c.streams ix).held ∨ rx.held = [] := by
  unfold WifiUnpack.entryFor at h
  split at h
  · obtain ⟨rfl, rfl⟩ := Prod.mk.inj (Option.some.inj h)
    exact Or.inl rfl
  · obtain ⟨i, -, heq⟩ := Option.map_eq_some_iff.1 h
    obtain ⟨rfl, rfl⟩ := Prod.mk.inj heq
    exact Or.inr rfl

theorem Sound.setEntry_found (hs : c.Sound loose) {rx : WifiRxEntry}
    (h : rx.held = (c.streams ix).held ∨ rx.held = []) :
    (c.setEntry ix rx).Sound loose ∧ (c.setEntry ix rx).cost ≤ c.cost := by
  rcases h with hsame | hnil
  · exact ⟨hs.setEntry_same ix rx hsame, (cost_setEntry_same ix rx hsame).le⟩
  · refine ⟨hs.setEntry ix ?_ hs.live ?_ ?_, cost_setEntry_nil ix hnil⟩
    · intro id
      rw [hnil, List.map_nil, List.count_nil]
      omega
    · rw [hnil]
      simp
    · rw [hnil]
      exact Nat.zero_le _

theorem Sound.receive {buf : BufId} (hs : c.Sound (buf :: loose))
    (hbundle : HoldsBundle c.blocks buf) :
    (c.receive o buf).Sound loose
      ∧ (c.receive o buf).cost < c.cost + splitCost (weightOf c.blocks buf) + 3 := by
  have hblock := hbundle
  obtain ⟨b, hb, hb'⟩ := hblock
  unfold WifiUnpack.receive
  rw [look_eq hb (within_wifiBundleHeadAt hb'.1)]
  dsimp only
  cases hentry : c.entryFor (wifiBundleHeadAt (fun i => b.getD i 0) b.length).value.streamId
      o.nowUs with
  | none =>
      refine ⟨hs.call ?_, ?_⟩
      · intro call hmem
        obtain rfl := List.mem_singleton.1 hmem
        exact hbundle
      · dsimp only
        rw [cost_call]
        simp only [List.map_cons, List.map_nil, List.sum_cons, List.sum_nil, WifiCall.cost]
        omega
  | some found =>
      obtain ⟨ix, rx⟩ := found
      dsimp only
      obtain ⟨hset, hcost⟩ := hs.setEntry_found ix (entryFor_held hentry)
      split
      · obtain ⟨hrestart, hless, hsame⟩ := hset.restart ix
          (wifiBundleHeadAt (fun i => b.getD i 0) b.length).value.seq
        have hbuf := hsame buf List.mem_cons_self
        obtain ⟨hsound, hplace⟩ := hrestart.place o ix o.nowUs
          (wifiBundleHeadAt (fun i => b.getD i 0) b.length).value.seq ⟨b, hbuf.trans hb, hb'⟩
        rw [weightOf_congr hbuf] at hplace
        change _ < _ + splitCost (weightOf c.blocks buf) + 3 at hplace
        exact ⟨hsound, by omega⟩
      · obtain ⟨hsound, hplace⟩ := hset.place o ix o.nowUs
          (wifiBundleHeadAt (fun i => b.getD i 0) b.length).value.seq ⟨b, hb, hb'⟩
        change _ < _ + splitCost (weightOf c.blocks buf) + 3 at hplace
        exact ⟨hsound, by omega⟩

/-! ### A bundle is split -/

theorem slice_eq_octets {b : Buf} {start n : Nat} (h : start + n ≤ b.length) :
    b.slice start n = (octets (fun i => b.getD i 0) start n).value := by
  apply List.ext_getElem
  · simp only [Buf.slice, octets, List.length_take, List.length_drop, List.length_map,
      List.length_range]
    omega
  · intro i hi _
    simp only [Buf.slice, List.length_take, List.length_drop] at hi
    have hin : start + i < b.length := by omega
    simp [Buf.slice, octets, List.getElem?_eq_getElem hin]

theorem wifiBundleIs_of_kind {b : Buf}
    (h : (wifiRxKindAt (fun i => b.getD i 0) b.length).value = .bundle) : wifiBundleIs b := by
  unfold wifiRxKindAt at h
  split at h
  · cases h
  · rw [value_bind] at h
    split at h
    · cases h
    · rw [value_bind] at h
      split at h
      case isTrue hbundle =>
        unfold wifiBundleIsAt at hbundle
        split at hbundle
        · cases hbundle
        case isFalse hlen =>
          obtain ⟨houter, hinner, hsubtype, htag⟩ := of_decide_eq_true hbundle
          obtain ⟨hfirst, hsecond⟩ := List.cons.inj houter
          obtain ⟨hthird, hfourth⟩ := List.cons.inj hinner
          refine ⟨not_lt.1 hlen, hfirst, (List.cons.inj hsecond).1, hthird,
            (List.cons.inj hfourth).1, hsubtype, ?_⟩
          simp only [wifiBundleEntries] at hlen
          exact (slice_eq_octets (by omega)).trans htag
      case isFalse =>
        rw [value_bind] at h
        dsimp only [value_pure] at h
        split at h <;> cases h

theorem Sound.split {buf : BufId} (hs : c.Sound (buf :: loose))
    (hbundle : HoldsBundle c.blocks buf) :
    (c.split buf).Sound loose
      ∧ (c.split buf).cost < c.cost + splitCost (weightOf c.blocks buf) := by
  obtain ⟨b, hb, hb'⟩ := hbundle
  have hcount := UInt8.toNat_lt (b.getD 36 0)
  have hhead : (wifiSplitHeadAt (fun i => b.getD i 0) b.length).value = ((b.getD 36 0).toNat,
      decide (b.getD 37 0 &&& wifiBundleFlagCompact ≠ 0
        ∧ wifiBundleEntries + wifiCompactHeader ≤ b.length)) := rfl
  unfold WifiUnpack.split
  rw [look_eq hb (within_wifiSplitHeadAt hb'.1), hhead]
  dsimp only
  rw [hb, Option.getD_some]
  refine ⟨hs.call ?_, ?_⟩
  · intro call hmem
    obtain rfl := List.mem_singleton.1 hmem
    refine ⟨hb, hb', fun hcompact => ?_, ?_, ?_⟩
    · rw [if_pos hcompact]
      exact ⟨le_rfl, (of_decide_eq_true hcompact).2⟩
    · split <;> decide
    · omega
  · rw [cost_call]
    have hweight : 0 < weight b := Nat.zero_lt_of_lt (weight_bundle hb')
    obtain ⟨w, hw⟩ := Nat.exists_eq_add_of_lt hweight
    have hbuf : weightOf c.blocks buf = w + 1 := by
      rw [weightOf, hb]
      dsimp only
      omega
    have hturns : (b.getD 36 0).toNat * (splitCost w + 5) ≤ 255 * (splitCost w + 5) :=
      Nat.mul_le_mul_right _ (by omega)
    simp only [List.map_cons, List.map_nil, List.sum_cons, List.sum_nil, WifiCall.cost, hbuf,
      Nat.add_sub_cancel, splitCost]
    omega

/-- The frame of an entry is lighter than the bundle it comes from. -/
theorem weight_entry {begun : Buf} {compact : Bool} {off next : Nat} {frame : Buf}
    (hbundle : wifiBundleIs begun) (hcompact : compact = true → 62 ≤ off) (hoff : 38 ≤ off)
    (h : (wifiEntryAt compact off (fun i => begun.getD i 0) begun.length).value
      = some (frame, next)) : weight frame < weight begun ∧ off ≤ next := by
  have hlight := weight_bundle hbundle
  unfold wifiEntryAt at h
  split at h
  case isTrue hyes =>
    obtain ⟨hle, hnext⟩ := weight_compact (hcompact hyes) h
    exact ⟨by omega, hnext⟩
  case isFalse =>
    obtain ⟨hle, hnext⟩ := weight_plain hoff h
    exact ⟨by omega, hnext⟩

theorem Sound.entry {compact : Bool} {buf : BufId} {off left : Nat} {begun : Buf}
    (hs : c.Sound [buf]) (hok : (WifiCall.entries compact buf off left begun).Ok c.blocks) :
    (c.entry o compact buf off left begun).Sound []
      ∧ (c.entry o compact buf off left begun).cost
        < c.cost + (WifiCall.entries compact buf off left begun).cost c.blocks := by
  obtain ⟨hb, hbundle, hcompact, hoff, hleft⟩ := hok
  have hfree := hs.cost_free
  unfold WifiUnpack.entry
  cases left with
  | zero =>
      simp only [WifiCall.cost]
      exact ⟨hs.free, by omega⟩
  | succ left =>
      have hkept : ({ c with bad := c.bad || decide (c.blocks buf ≠ some begun) } : WifiUnpack)
          = c := by
        simp only [hb, ne_eq, not_true_eq_false, decide_false, Bool.or_false]
      dsimp only
      rw [look_eq hb (within_wifiEntryAt hbundle.1 fun h => (hcompact h).2)]
      dsimp only
      rw [hkept]
      cases hfound : (wifiEntryAt compact off (fun i => begun.getD i 0) begun.length).value with
      | none =>
          simp only [WifiCall.cost]
          exact ⟨hs.free, by omega⟩
      | some found =>
          obtain ⟨frame, next⟩ := found
          obtain ⟨hlight, hnext⟩ := weight_entry hbundle (fun h => (hcompact h).1) hoff hfound
          dsimp only
          cases halloc : c.alloc o frame with
          | none =>
              simp only [WifiCall.cost]
              exact ⟨hs.free, by omega⟩
          | some taken =>
              obtain ⟨id, c'⟩ := taken
              obtain ⟨hsound, hcost, hframe, hkeeps⟩ := hs.alloc halloc
              have hbegun : c'.blocks buf = some begun := by rw [hkeeps buf (by simp [hb]), hb]
              refine ⟨hsound.call ?_, ?_⟩
              · intro call hmem
                rcases List.mem_cons.1 hmem with rfl | hmem
                · exact ⟨frame, hframe⟩
                · obtain rfl := List.mem_singleton.1 hmem
                  exact ⟨hbegun, hbundle,
                    fun h => ⟨(hcompact h).1.trans hnext, (hcompact h).2⟩, hoff.trans hnext,
                    by omega⟩
              · have hmono : splitCost (weight frame) ≤ splitCost (weight begun - 1) :=
                  splitCost_mono (by omega)
                dsimp only
                rw [cost_call]
                simp only [List.map_cons, List.map_nil, List.sum_cons, List.sum_nil, WifiCall.cost,
                  weightOf, hframe, hbegun, hb, Nat.add_mul]
                omega

theorem Sound.inner {buf : BufId} (hs : c.Sound (buf :: loose)) :
    (c.inner buf).Sound loose
      ∧ (c.inner buf).cost < c.cost + splitCost (weightOf c.blocks buf) + 4 := by
  obtain ⟨b, hb⟩ := hs.live buf List.mem_cons_self
  have hfree := hs.free
  have hcost := hs.cost_free
  unfold WifiUnpack.inner
  rw [look_eq hb within_wifiRxKindAt]
  dsimp only
  cases hkind : (wifiRxKindAt (fun i => b.getD i 0) b.length).value with
  | dropped => exact ⟨hfree, by dsimp only; omega⟩
  | bundle =>
      refine ⟨hs.call ?_, ?_⟩
      · intro call hmem
        obtain rfl := List.mem_singleton.1 hmem
        exact ⟨b, hb, wifiBundleIs_of_kind hkind⟩
      · dsimp only
        rw [cost_call]
        simp only [List.map_cons, List.map_nil, List.sum_cons, List.sum_nil, WifiCall.cost]
        omega
  | other =>
      refine ⟨⟨hfree.single, hfree.live, hfree.held, hfree.room, hfree.calls, hfree.good⟩, ?_⟩
      change (c.free buf).cost < _
      omega

theorem Sound.accepted (nowUs : Int) (hs : c.Sound loose) :
    (c.accepted o ix nowUs).Sound loose ∧ (c.accepted o ix nowUs).cost ≤ c.cost := by
  unfold WifiUnpack.accepted
  dsimp only
  generalize hrx : ({ c.streams ix with
    expected := (c.streams ix).expected + 1
    nackNext := if 0 < ahead ((c.streams ix).expected + 1) (c.streams ix).nackNext then
      (c.streams ix).expected + 1 else (c.streams ix).nackNext } : WifiRxEntry) = rx
  have hsame : rx.held = (c.streams ix).held := by rw [← hrx]
  obtain ⟨hsound, hcost, -⟩ := (hs.setEntry_same ix rx hsame).drain o ix nowUs
  exact ⟨hsound, hcost.trans (cost_setEntry_same ix rx hsame).le⟩

theorem Sound.drained (nowUs : Int) (hs : c.Sound loose) :
    (c.drained o ix nowUs).Sound loose ∧ (c.drained o ix nowUs).cost ≤ c.cost := by
  have hset := hs.setEntry_same ix
    { c.streams ix with expected := (c.streams ix).expected + 1 } rfl
  have hcost := cost_setEntry_same ix
    { c.streams ix with expected := (c.streams ix).expected + 1 } rfl
  have hagain : ∀ t, ∀ c', c' = c.setEntry ix
      { c.streams ix with expected := (c.streams ix).expected + 1 } →
      ((c'.setEntry ix { c'.streams ix with deadlineUs := t }).drain o ix nowUs).Sound loose
        ∧ ((c'.setEntry ix { c'.streams ix with deadlineUs := t }).drain o ix nowUs).cost
          ≤ c.cost := by
    rintro t c' rfl
    generalize hrx : ({ ((c.setEntry ix
      { c.streams ix with expected := (c.streams ix).expected + 1 }).streams ix) with
        deadlineUs := t } : WifiRxEntry) = rx
    have hsame : rx.held = ((c.setEntry ix
        { c.streams ix with expected := (c.streams ix).expected + 1 }).streams ix).held := by
      rw [← hrx]
    obtain ⟨hsound, hle, -⟩ := (hset.setEntry_same ix rx hsame).drain o ix nowUs
    exact ⟨hsound, hle.trans ((cost_setEntry_same ix rx hsame).trans hcost).le⟩
  obtain ⟨t, ht⟩ := hset.holdUntil o ix
  unfold WifiUnpack.drained
  dsimp only
  split
  · exact hagain _ _ rfl
  · rw [ht]
    exact hagain _ _ rfl

/-! ### Steps and runs -/

theorem Sound.enter {next : WifiCall} (hs : c.Sound next.owns) (hok : next.Ok c.blocks) :
    (c.enter o next).Sound [] ∧ (c.enter o next).cost < c.cost + next.cost c.blocks := by
  cases next with
  | inner buf => exact Sound.inner hs
  | receive buf => exact Sound.receive o hs hok
  | split buf => exact Sound.split hs hok
  | entries compact buf off left begun => exact Sound.entry o hs hok
  | accepted ix nowUs =>
      obtain ⟨hsound, hcost⟩ := Sound.accepted o ix nowUs hs
      exact ⟨hsound, Nat.lt_succ_of_le hcost⟩
  | drained ix nowUs =>
      obtain ⟨hsound, hcost⟩ := Sound.drained o ix nowUs hs
      exact ⟨hsound, Nat.lt_succ_of_le hcost⟩

theorem Sound.pop {next : WifiCall} {rest : List WifiCall} (hs : c.Sound [])
    (hcalls : c.calls = next :: rest) :
    ({ c with calls := rest } : WifiUnpack).Sound next.owns
      ∧ c.cost = next.cost c.blocks + ({ c with calls := rest } : WifiUnpack).cost := by
  have hok := hs.calls
  rw [hcalls] at hok
  refine ⟨⟨?_, ?_, hs.held, hs.room, fun call hmem => hok call (List.mem_cons_of_mem _ hmem),
    hs.good⟩, ?_⟩
  · intro id
    have hsingle := hs.single id
    simp only [owners, hcalls, List.flatMap_cons, List.count_append, List.count_nil] at hsingle ⊢
    omega
  · intro id hid
    refine hs.owned_live ?_
    have := List.count_pos_iff.2 hid
    simp only [owners, hcalls, List.flatMap_cons, List.count_append]
    omega
  · simp only [cost, hcalls, List.map_cons, List.sum_cons]
    omega

/-- The step lemma: with a call on the stack, the cost falls. -/
theorem Sound.step (hs : c.Sound []) :
    (WifiUnpack.step o c).Sound []
      ∧ (c.calls = [] ∨ (WifiUnpack.step o c).cost < c.cost) := by
  unfold WifiUnpack.step
  cases hcalls : c.calls with
  | nil => exact ⟨hs, Or.inl rfl⟩
  | cons next rest =>
      obtain ⟨hpop, hcost⟩ := hs.pop hcalls
      have hok : next.Ok c.blocks := hs.calls next (hcalls ▸ List.mem_cons_self)
      obtain ⟨hsound, hless⟩ := hpop.enter o hok
      refine ⟨hsound, Or.inr ?_⟩
      change _ < _ + next.cost c.blocks at hless
      dsimp only
      omega

theorem Sound.event (hs : c.Sound []) (e : WifiUnpackEvent) : (c.event e).Sound [] := by
  cases e with
  | arrive buf frame =>
      simp only [WifiUnpack.event, WifiUnpack.arrive]
      split
      · split
        case isTrue hfree =>
          refine (hs.fresh hfree frame).1.call ?_
          intro call hmem
          obtain rfl := List.mem_singleton.1 hmem
          exact ⟨frame, Function.update_self ..⟩
        case isFalse => exact hs
      · exact hs
  | poll o ix nowUs =>
      simp only [WifiUnpack.event, WifiUnpack.poll]
      split
      · split
        · exact (hs.drain o ix nowUs).1
        · exact hs
      · exact hs
  | goOn o => exact (hs.step o).1

theorem blank_sound : blank.Sound [] := by
  refine ⟨?_, ?_, ?_, ?_, ?_, rfl⟩
  · intro id
    simp [owners, blank, WifiRxEntry.blank]
  · intro id hid
    cases hid
  · intro ix h hmem
    cases hmem
  · intro ix
    exact Nat.zero_le _
  · intro call hmem
    cases hmem

/-- Whatever frames come in and whenever the timer runs, from hold tables whose bundles are blocks of
their own, nothing outside of a frame or in a freed block is read; and whatever the clock says and
`malloc` gives, the calls come to an end. -/
theorem unpack_ends_inside {c : WifiUnpack} (hc : c.Sound []) (events : List WifiUnpackEvent) :
    (run WifiUnpack.event c events).bad = false
      ∧ ∃ n, ∀ os : List WifiRxOracle, n ≤ os.length →
        (run WifiUnpack.event (run WifiUnpack.event c events) (os.map .goOn)).calls = [] := by
  have hinv : (run WifiUnpack.event c events).Sound [] :=
    run_invariant (fun c => Sound c []) (fun _ e hs => hs.event e) hc events
  refine ⟨hinv.good, (run WifiUnpack.event c events).cost + 1, fun os hlong => ?_⟩
  have hrests : ∀ c : WifiUnpack, ∀ o, c.calls = [] → (WifiUnpack.step o c).calls = [] := by
    intro c o hcalls
    rw [WifiUnpack.step, hcalls]
    exact hcalls
  have hmap : ∀ c : WifiUnpack, run WifiUnpack.event c (os.map .goOn)
      = run (fun c o => WifiUnpack.step o c) c os := fun c => List.foldl_map
  rw [hmap]
  exact run_rests (fun c => Sound c []) (fun c => c.calls = []) WifiUnpack.cost
    (fun _ o hs => (hs.step o).1) hrests (fun _ o hs => (hs.step o).2) hinv hlong

/-- A bundle whose one entry is a bundle again, with the same sequence number. -/
def bundleInBundle : Buf :=
  let header := [0x02, 0, 0, 0, 0, 1, 0x02, 0, 0, 0, 0, 2, 0x81, 0x00, 0x60, 0x02, 0x22, 0xf0]
  let avtp := [0x7f, 0x80, 0, 0, 2, 0, 0, 0, 0, 2, 0, 1, 0x41, 0x56, 0x42, 0x57, 0, 5]
  header ++ avtp ++ [1, 0] ++ [0, 20] ++ avtp ++ [0, 0]

theorem unpack_ends_inside_nested :
    (run WifiUnpack.event blank [.arrive 0 bundleInBundle]).bad = false
      ∧ ∃ n, ∀ os : List WifiRxOracle, n ≤ os.length →
        (run WifiUnpack.event (run WifiUnpack.event blank [.arrive 0 bundleInBundle])
          (os.map .goOn)).calls = [] :=
  unpack_ends_inside blank_sound [.arrive 0 bundleInBundle]

-- both bundles are counted: the one inside took the place of the one around it
example : ((run WifiUnpack.event blank (.arrive 0 bundleInBundle
      :: List.replicate 11 (.goOn ⟨0, fun _ => 0, some 1⟩))).streams ⟨0, by decide⟩).expected = 7 := by
  decide

end WifiUnpack

end EspAvb
