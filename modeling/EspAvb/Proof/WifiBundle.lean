import EspAvb.WifiBundle
import Mathlib.Data.List.GetD

/-!
# Bundles carry their frames

The entry of a bundle parses back to the AVTPDU it was made of, whatever follows it; so a bundle
splits into the frames put into it, and the wrapper does not change it.
-/

namespace EspAvb

/-! ## Octets of a buffer -/

theorem slice_append_drop (buf : Buf) (start len : Nat) :
    buf.slice start len ++ buf.drop (start + len) = buf.drop start := by
  rw [Buf.slice, ← List.drop_drop]
  exact List.take_append_drop len (buf.drop start)

theorem lenOctets_toNat {len : Nat} (h : len < 65536) :
    (UInt8.ofNat (len / 256)).toNat * 256 + (UInt8.ofNat len).toNat = len := by
  simp only [UInt8.toNat_ofNat']
  omega

theorem unpackSamples_packSamples :
    ∀ {payload : Buf}, payload.length % 4 = 0 → lowOctets payload = 0 →
      unpackSamples (packSamples payload) = payload
  | [], _, _ => rfl
  | [_], h, _ => by simp at h
  | [_, _], h, _ => by simp at h
  | [_, _, _], h, _ => by simp at h
  | a :: b :: c :: low :: rest, h, hlow => by
      have hlen : rest.length % 4 = 0 := by
        simp only [List.length_cons] at h
        omega
      obtain ⟨hzero, hrest⟩ := UInt8.or_eq_zero_iff.mp hlow
      rw [packSamples, unpackSamples, unpackSamples_packSamples hlen hrest, hzero]

theorem length_packSamples : ∀ payload : Buf, (packSamples payload).length = payload.length / 4 * 3
  | [] => rfl
  | [_] => by simp [packSamples]
  | [_, _] => by simp [packSamples]
  | [_, _, _] => by simp [packSamples]
  | a :: b :: c :: low :: rest => by
      simp only [packSamples, List.length_cons, length_packSamples rest]
      omega

theorem length_slice {buf : Buf} {start len : Nat} (h : start + len ≤ buf.length) :
    (buf.slice start len).length = len := by
  rw [Buf.slice, List.length_take, List.length_drop]
  omega

theorem take_two {buf : Buf} (h : 2 ≤ buf.length) : buf.take 2 = [buf.getD 0 0, buf.getD 1 0] := by
  match buf, h with
  | a :: b :: rest, _ => rfl

theorem getD_cons_drop {buf : Buf} {i : Nat} (h : i < buf.length) :
    buf.getD i 0 :: buf.drop (i + 1) = buf.drop i := by
  rw [List.getD_eq_getElem?_getD, List.getElem?_eq_getElem h, Option.getD_some]
  exact List.getElem_cons_drop h

/-! ## Entries -/

theorem wifiCompactFlags_own (tmpl avtp : Buf) :
    wifiCompactFlags tmpl avtp &&& wifiCompactOwnHeader = 0 →
      tmpl.getD 0 0 = avtp.getD 0 0 ∧ tmpl.getD 1 0 = avtp.getD 1 0 ∧
        tmpl.slice 3 9 = avtp.slice 3 9 ∧ tmpl.slice 16 8 = avtp.slice 16 8 := by
  intro hflag
  by_contra hdiff
  have hown : avtp.length < wifiCompactHeader ∨ tmpl.getD 0 0 ≠ avtp.getD 0 0 ∨
      tmpl.getD 1 0 ≠ avtp.getD 1 0 ∨ tmpl.slice 3 9 ≠ avtp.slice 3 9 ∨
      tmpl.slice 16 8 ≠ avtp.slice 16 8 := by
    tauto
  simp only [wifiCompactFlags, if_pos hown] at hflag
  revert hflag
  split_ifs <;> decide

theorem wifiCompactFlags_packed (tmpl avtp : Buf) :
    wifiCompactFlags tmpl avtp &&& wifiCompactPacked ≠ 0 →
      (avtp.drop wifiCompactHeader).length % 4 = 0 ∧ lowOctets (avtp.drop wifiCompactHeader) = 0 := by
  intro hflag
  by_contra hnot
  have hpacked : ¬ (wifiCompactHeader ≤ avtp.length ∧ avtp.getD 0 0 = 0x02 ∧
      avtp.getD 16 0 = 0x02 ∧ (avtp.drop wifiCompactHeader).length % 4 = 0 ∧
      lowOctets (avtp.drop wifiCompactHeader) = 0) := by
    tauto
  simp only [wifiCompactFlags, if_neg hpacked] at hflag
  revert hflag
  split_ifs <;> decide

/-- A header that agrees outside the sequence number and the timestamp gives the AVTPDU's own. -/
theorem header_rebuilt {avtp header : Buf} (h : wifiCompactHeader ≤ avtp.length)
    (hfirst : header.take 2 = avtp.take 2) (hmid : header.slice 3 9 = avtp.slice 3 9)
    (hend : header.drop 16 = avtp.slice 16 8) :
    header.take 2 ++ [avtp.getD 2 0] ++ header.slice 3 9 ++ avtp.slice 12 4 ++ header.drop 16 =
      avtp.take wifiCompactHeader := by
  apply (List.append_left_inj (avtp.drop wifiCompactHeader)).mp
  rw [hfirst, hmid, hend, List.take_append_drop]
  simp only [wifiCompactHeader] at h ⊢
  calc
    avtp.take 2 ++ [avtp.getD 2 0] ++ avtp.slice 3 9 ++ avtp.slice 12 4 ++ avtp.slice 16 8 ++
        avtp.drop 24 = avtp.take 2 ++ (avtp.getD 2 0 :: avtp.drop 3) := by
      rw [← slice_append_drop avtp 3 9, ← slice_append_drop avtp 12 4, ← slice_append_drop avtp 16 8]
      simp only [List.append_assoc, List.cons_append, List.nil_append]
    _ = avtp := by
      rw [getD_cons_drop (by omega), List.take_append_drop]

theorem length_wifiCompactPut {flags : UInt8} {avtp : Buf} (h : wifiCompactHeader ≤ avtp.length) :
    (wifiCompactPut flags avtp).length = wifiCompactEntryLen flags avtp.length := by
  have hslice : (avtp.slice 12 4).length = 4 := length_slice (by rw [wifiCompactHeader] at h; omega)
  simp only [wifiCompactPut, wifiCompactEntryLen, List.length_append, hslice, lenOctets,
    List.length_cons, List.length_nil, wifiCompactFixed]
  split_ifs <;> simp [length_packSamples, List.length_take] <;> omega

theorem wifiCompactEntryLen_le {flags : UInt8} {avtpLen : Nat} (h : wifiCompactHeader ≤ avtpLen) :
    wifiCompactEntryLen flags avtpLen ≤ wifiCompactFixed + avtpLen := by
  simp only [wifiCompactEntryLen]
  split_ifs <;> omega

theorem exists_of_length_four {buf : Buf} (h : buf.length = 4) : ∃ a b c d, buf = [a, b, c, d] := by
  match buf, h with
  | [a, b, c, d], _ => exact ⟨a, b, c, d, rfl⟩

/-- The header a compact entry is rebuilt from, and what is left of the entry behind it. -/
theorem wifiCompactHeader_read {tmpl avtp rest : Buf} {flags : UInt8}
    (htmpl : tmpl.length = wifiCompactHeader) (h : wifiCompactHeader ≤ avtp.length)
    (hflags : flags = wifiCompactFlags tmpl avtp) :
    let own := if flags &&& wifiCompactOwnHeader ≠ 0 then avtp.take wifiCompactHeader else []
    let header :=
      if flags &&& wifiCompactOwnHeader ≠ 0 then (own ++ rest).take wifiCompactHeader else tmpl
    (if flags &&& wifiCompactOwnHeader ≠ 0 then (own ++ rest).drop wifiCompactHeader
      else own ++ rest) = rest ∧
    header.take 2 = avtp.take 2 ∧ Buf.slice header 3 9 = avtp.slice 3 9 ∧
      header.drop 16 = avtp.slice 16 8 := by
  intro own header
  rw [wifiCompactHeader] at h htmpl
  by_cases hown : flags &&& wifiCompactOwnHeader ≠ 0
  · have hlen : (avtp.take 24).length = 24 := by
      rw [List.length_take]
      omega
    simp only [header, own, if_pos hown, wifiCompactHeader, Buf.slice]
    rw [List.take_left' hlen, List.drop_left' hlen]
    refine ⟨rfl, ?_, ?_, ?_⟩
    · rw [List.take_take]
      rfl
    · rw [List.drop_take, List.take_take]
      rfl
    · rw [List.drop_take]
  · simp only [header, own, if_neg hown, List.nil_append, true_and]
    obtain ⟨h0, h1, hmid, hend⟩ := wifiCompactFlags_own tmpl avtp (by rw [← hflags]; tauto)
    refine ⟨?_, hmid, ?_⟩
    · rw [take_two (by omega), take_two (by omega), h0, h1]
    · rw [← hend, Buf.slice, List.take_of_length_le]
      rw [List.length_drop]
      omega

theorem wifiCompactEntry_put {tmpl avtp : Buf} (htmpl : tmpl.length = wifiCompactHeader)
    (h : wifiCompactHeader ≤ avtp.length) (hlen : avtp.length < 65536) (rest : Buf) :
    wifiCompactEntry tmpl (wifiCompactPut (wifiCompactFlags tmpl avtp) avtp ++ rest) =
      some (avtp, rest) := by
  have hputLen := @length_wifiCompactPut (wifiCompactFlags tmpl avtp) avtp h
  have hpacked := wifiCompactFlags_packed tmpl avtp
  have hread := fun rest => @wifiCompactHeader_read tmpl avtp rest _ htmpl h rfl
  generalize wifiCompactFlags tmpl avtp = flags at hputLen hpacked hread ⊢
  obtain ⟨t0, t1, t2, t3, hstamp⟩ := exists_of_length_four
    (@length_slice avtp 12 4 (by rw [wifiCompactHeader] at h; omega))
  have hn : (avtp.drop wifiCompactHeader).length = avtp.length - wifiCompactHeader := List.length_drop
  have hsum : wifiCompactHeader + (avtp.drop wifiCompactHeader).length = avtp.length := by
    omega
  have hrebuilt := fun header => @header_rebuilt avtp header h
  rw [hstamp] at hrebuilt
  have hdrop : (wifiCompactPut flags avtp ++ rest).drop (wifiCompactEntryLen flags avtp.length) = rest :=
    List.drop_left' hputLen
  have hlenAll : (wifiCompactPut flags avtp ++ rest).length =
      wifiCompactEntryLen flags avtp.length + rest.length := by
    rw [List.length_append, hputLen]
  have hoct := @lenOctets_toNat (avtp.drop wifiCompactHeader).length (by omega)
  generalize hown : (if flags &&& wifiCompactOwnHeader ≠ 0 then avtp.take wifiCompactHeader else []) =
    own at hread
  generalize hsamples : (if flags &&& wifiCompactPacked ≠ 0 then
    packSamples (avtp.drop wifiCompactHeader) else avtp.drop wifiCompactHeader) = samples
  have hput : wifiCompactPut flags avtp ++ rest =
      flags :: avtp.getD 2 0 :: t0 :: t1 :: t2 :: t3 ::
        UInt8.ofNat ((avtp.drop wifiCompactHeader).length / 256) ::
        UInt8.ofNat (avtp.drop wifiCompactHeader).length :: (own ++ (samples ++ rest)) := by
    simp only [wifiCompactPut, hstamp, hown, hsamples, lenOctets, List.cons_append, List.nil_append,
      List.append_assoc]
  have hsamplesRead : (if flags &&& wifiCompactPacked ≠ 0 then
      unpackSamples ((samples ++ rest).take ((avtp.drop wifiCompactHeader).length / 4 * 3))
      else (samples ++ rest).take (avtp.drop wifiCompactHeader).length) =
      avtp.drop wifiCompactHeader := by
    subst hsamples
    split_ifs with hp
    · rw [List.take_left' (length_packSamples _)]
      exact unpackSamples_packSamples (hpacked hp).1 (hpacked hp).2
    · rw [List.take_left' rfl]
  obtain ⟨hsrc, hfirst, hmid, hend⟩ := hread (samples ++ rest)
  rw [hput] at hdrop hlenAll ⊢
  rw [wifiCompactEntry, if_neg (by simp [wifiCompactFixed])]
  simp only [List.getD_cons_zero, List.getD_cons_succ, hoct, hsum]
  rw [if_neg, hdrop]
  · simp only [wifiCompactFixed, List.drop_succ_cons, List.drop_zero, Buf.slice, hsrc,
      hsamplesRead, List.take_succ_cons, List.take_zero]
    have heq := hrebuilt _ hfirst hmid hend
    simp only [Buf.slice] at heq
    rw [heq, List.take_append_drop]
  · rw [not_or, not_and_not_right]
    exact ⟨by omega, fun hp => (hpacked hp).1⟩

theorem wifiPlainEntry_put {avtp : Buf} (h : 12 ≤ avtp.length) (hlen : avtp.length < 65536)
    (rest : Buf) : wifiPlainEntry (lenOctets avtp.length ++ avtp ++ rest) = some (avtp, rest) := by
  have hoct := @lenOctets_toNat avtp.length hlen
  rw [wifiPlainEntry, if_neg (by simp [lenOctets])]
  simp only [lenOctets, List.cons_append, List.nil_append, List.getD_cons_zero, List.getD_cons_succ,
    hoct, List.drop_succ_cons, List.drop_zero]
  rw [if_neg, List.take_left' rfl, List.drop_left' rfl]
  rw [List.length_append]
  omega

/-! ## The wrapper -/

theorem wifiViUnwrap_txFrame {buf : Buf} (wrap : Bool) (hlo : wifiBundleEntries ≤ buf.length)
    (hvlan : buf.getD 12 0 = 0x81) : wifiViUnwrap (wifiTxBundleFrame wrap buf) = buf := by
  rw [wifiBundleEntries] at hlo
  rw [wifiTxBundleFrame]
  split_ifs with hraw
  · rw [wifiViUnwrap, if_pos]
    rw [hvlan]
    simp
  · have hlen : (buf.take 12).length = 12 := by
      rw [List.length_take]
      omega
    have hchecksum : ∀ n, ∃ a b, wifiViChecksum n = [a, b] := fun n => ⟨_, _, rfl⟩
    generalize buf.length - 12 + wifiViHeaderLen - 2 = ipLen
    obtain ⟨a, b, hab⟩ := hchecksum ipLen
    rw [wifiViUnwrap, if_neg]
    · simp only [List.append_assoc]
      rw [List.take_left' hlen, List.drop_append, hlen,
        List.drop_eq_nil_of_le (by rw [hlen, wifiViHeaderLen]; omega), hab]
      exact List.take_append_drop 12 buf
    · have hget : ∀ k, (buf.take 12 ++ [0x08, 0x00] ++ wifiViIpHeader ipLen (wifiViChecksum ipLen) ++
          buf.drop 12).getD (12 + k) 0 =
          (([0x08, 0x00] : Buf) ++ wifiViIpHeader ipLen (wifiViChecksum ipLen) ++ buf.drop 12).getD k 0 := by
        intro k
        rw [List.append_assoc, List.append_assoc, List.getD_append_right _ _ _ _ (by omega), hlen,
          Nat.add_sub_cancel_left, List.append_assoc]
      have h0 := hget 0
      have h1 := hget 1
      have h2 := hget 2
      have h6 := hget 6
      have h7 := hget 7
      have h11 := hget 11
      simp only [Nat.reduceAdd] at h0 h1 h2 h6 h7 h11
      rw [h0, h1, h2, h6, h7, h11, hab]
      simp [wifiViIpHeader, lenOctets, wifiViIpProtocol, wifiViHeaderLen, hlen]
      omega

/-! ## The form of a bundle -/

/-- The 18 octets the frames of a stream share: addresses, VLAN tag, ethertype. -/
structure StreamHeader where
  octets : Buf
  length_eq : octets.length = wifiBundleAvtp
  vlan : octets.getD 12 0 = 0x81 ∧ octets.getD 13 0 = 0x00

def bundleOctets (header sid : Buf) (seqLo hi lo count flags : UInt8) (body : Buf) : Buf :=
  header ++ ([wifiBundleSubtype, 0x80, seqLo, 0] ++ (sid ++
    (wifiBundleTag ++ ([hi, lo, count, flags] ++ body))))

section Form

variable {header sid body : Buf} {seqLo hi lo count flags : UInt8}

theorem length_bundleOctets (hheader : header.length = wifiBundleAvtp) (hsid : sid.length = 8) :
    (bundleOctets header sid seqLo hi lo count flags body).length =
      wifiBundleEntries + body.length := by
  simp only [bundleOctets, List.length_append, hheader, hsid, wifiBundleTag, List.length_cons,
    List.length_nil, wifiBundleAvtp, wifiBundleEntries]
  omega

theorem bundleOctets_getD_header (hheader : header.length = wifiBundleAvtp) {i : Nat}
    (h : i < wifiBundleAvtp) :
    (bundleOctets header sid seqLo hi lo count flags body).getD i 0 = header.getD i 0 := by
  exact List.getD_append _ _ _ _ (by rw [hheader]; exact h)

/-- Past the stream ID, from octet 30 on. -/
theorem bundleOctets_drop (hheader : header.length = wifiBundleAvtp) (hsid : sid.length = 8) :
    (bundleOctets header sid seqLo hi lo count flags body).drop 30 =
      wifiBundleTag ++ ([hi, lo, count, flags] ++ body) := by
  have hsplit : 30 = wifiBundleAvtp + (4 + 8) := rfl
  rw [hsplit, ← List.drop_drop, ← List.drop_drop, bundleOctets, List.drop_left' hheader,
    List.drop_left' (by simp), List.drop_left' hsid]

theorem bundleOctets_getD_past (hheader : header.length = wifiBundleAvtp) (hsid : sid.length = 8)
    (k : Nat) :
    (bundleOctets header sid seqLo hi lo count flags body).getD (30 + k) 0 =
      (wifiBundleTag ++ ([hi, lo, count, flags] ++ body)).getD k 0 := by
  have hdrop := @bundleOctets_drop header sid body seqLo hi lo count flags hheader hsid
  rw [← hdrop, List.getD_eq_getElem?_getD, List.getD_eq_getElem?_getD, List.getElem?_drop]

theorem bundleOctets_sent (hheader : header.length = wifiBundleAvtp) (hsid : sid.length = 8)
    (seqLo' hi' lo' count' : UInt8) :
    ((((bundleOctets header sid seqLo hi lo count flags body).set (wifiBundleAvtp + 2) seqLo').set
      34 hi').set 35 lo').set 36 count' =
      bundleOctets header sid seqLo' hi' lo' count' flags body := by
  simp [bundleOctets, wifiBundleAvtp, hheader, hsid, wifiBundleTag]

theorem wifiBundleIs_bundleOctets (hheader : header.length = wifiBundleAvtp) (hsid : sid.length = 8)
    (hvlan : header.getD 12 0 = 0x81 ∧ header.getD 13 0 = 0x00)
    (htype : header.getD 16 0 = 0x22 ∧ header.getD 17 0 = 0xf0) :
    wifiBundleIs (bundleOctets header sid seqLo hi lo count flags body) := by
  refine ⟨by rw [length_bundleOctets hheader hsid]; omega, ?_, ?_, ?_, ?_, ?_, ?_⟩
  · rw [bundleOctets_getD_header hheader (by decide)]
    exact hvlan.1
  · rw [bundleOctets_getD_header hheader (by decide)]
    exact hvlan.2
  · rw [bundleOctets_getD_header hheader (by decide)]
    exact htype.1
  · rw [bundleOctets_getD_header hheader (by decide)]
    exact htype.2
  · rw [bundleOctets, List.getD_append_right _ _ _ _ (by rw [hheader]), hheader, Nat.sub_self]
    rfl
  · rw [Buf.slice, bundleOctets_drop hheader hsid]
    rfl

end Form

/-- The entry of an AVTPDU; the template counts in the compact form only. -/
def bundleEntry (cfg : WifiBundleConfig) (tmpl avtp : Buf) : Buf :=
  if cfg.compact then wifiCompactPut (wifiCompactFlags tmpl avtp) avtp
  else lenOctets avtp.length ++ avtp

def bundleFlags (cfg : WifiBundleConfig) : UInt8 := if cfg.compact then wifiBundleFlagCompact else 0

/-- An AVTPDU that fits a bundle. -/
structure FitsBundle (cfg : WifiBundleConfig) (avtp : Buf) : Prop where
  min : wifiBundleMinAvtp cfg ≤ avtp.length
  max : wifiBundleFirstCost cfg avtp.length ≤ wifiBundleFillBytes

theorem FitsBundle.bounds {cfg : WifiBundleConfig} {avtp : Buf} (h : FitsBundle cfg avtp) :
    12 ≤ avtp.length ∧ avtp.length < 65536 ∧ (cfg.compact = true → wifiCompactHeader ≤ avtp.length) := by
  have hmin := h.min
  have hmax := h.max
  simp only [wifiBundleMinAvtp, wifiBundleFirstCost, wifiBundleFillBytes, wifiBundleMaxBytes,
    wifiViHeaderLen, wifiBundleEntries, wifiCompactHeader, wifiCompactFixed] at hmin hmax ⊢
  split_ifs at hmin hmax with hcompact
  · exact ⟨by omega, by omega, fun _ => hmin⟩
  · exact ⟨hmin, by omega, fun h => absurd h hcompact⟩

/-- A bundle splits into the frames whose entries it holds. -/
theorem wifiBundleSplit_bundleOctets {cfg : WifiBundleConfig} {header sid tmpl : Buf}
    {seqLo hi lo : UInt8} {avtps : List Buf} (hheader : header.length = wifiBundleAvtp)
    (hsid : sid.length = 8) (htmpl : tmpl.length = if cfg.compact then wifiCompactHeader else 0)
    (hfits : ∀ avtp ∈ avtps, FitsBundle cfg avtp) (hcount : avtps.length < 256) :
    wifiBundleSplit (bundleOctets header sid seqLo hi lo (UInt8.ofNat avtps.length)
      (bundleFlags cfg) (tmpl ++ avtps.flatMap (bundleEntry cfg tmpl))) =
      avtps.map (header ++ ·) := by
  have hget := fun k => @bundleOctets_getD_past header sid
    (tmpl ++ avtps.flatMap (bundleEntry cfg tmpl)) seqLo hi lo (UInt8.ofNat avtps.length)
    (bundleFlags cfg) hheader hsid k
  have hdrop := @bundleOctets_drop header sid
    (tmpl ++ avtps.flatMap (bundleEntry cfg tmpl)) seqLo hi lo (UInt8.ofNat avtps.length)
    (bundleFlags cfg) hheader hsid
  have hlen := @length_bundleOctets header sid
    (tmpl ++ avtps.flatMap (bundleEntry cfg tmpl)) seqLo hi lo (UInt8.ofNat avtps.length)
    (bundleFlags cfg) hheader hsid
  have htake : (bundleOctets header sid seqLo hi lo (UInt8.ofNat avtps.length) (bundleFlags cfg)
      (tmpl ++ avtps.flatMap (bundleEntry cfg tmpl))).take wifiBundleAvtp = header :=
    List.take_left' hheader
  generalize bundleOctets header sid seqLo hi lo (UInt8.ofNat avtps.length) (bundleFlags cfg)
    (tmpl ++ avtps.flatMap (bundleEntry cfg tmpl)) = buf at hget hdrop hlen htake ⊢
  have hbody : buf.drop wifiBundleEntries = tmpl ++ avtps.flatMap (bundleEntry cfg tmpl) := by
    rw [wifiBundleEntries, show 38 = 30 + 8 from rfl, ← List.drop_drop, hdrop]
    rfl
  have hcountRead : (buf.getD 36 0).toNat = avtps.length := by
    rw [show 36 = 30 + 6 from rfl, hget 6]
    simp only [wifiBundleTag, List.cons_append, List.nil_append, List.getD_cons_succ,
      List.getD_cons_zero, UInt8.toNat_ofNat']
    omega
  have hflags : buf.getD 37 0 = bundleFlags cfg := by
    rw [show 37 = 30 + 7 from rfl, hget 7]
    rfl
  rw [wifiBundleSplit]
  simp only [hcountRead, hbody, hflags, htake]
  congr 1
  cases hcompact : cfg.compact with
  | true =>
      rw [hcompact, if_pos rfl] at htmpl
      rw [if_pos]
      · rw [List.take_left' htmpl, List.drop_left' htmpl]
        have hparse := @Entries.parseMany_flatMap _ _ (wifiCompactEntry tmpl) (bundleEntry cfg tmpl)
          avtps ?_ []
        · simpa using hparse
        · intro avtp hmem rest
          obtain ⟨-, hlt, hmin⟩ := (hfits avtp hmem).bounds
          rw [bundleEntry, if_pos hcompact]
          exact wifiCompactEntry_put htmpl (hmin hcompact) hlt rest
      · refine ⟨by rw [bundleFlags, if_pos hcompact]; decide, ?_⟩
        rw [hlen, List.length_append, htmpl]
        omega
  | false =>
      have hnil : tmpl = [] := by
        rw [hcompact] at htmpl
        exact List.eq_nil_of_length_eq_zero htmpl
      rw [if_neg]
      · have hparse := @Entries.parseMany_flatMap _ _ wifiPlainEntry (bundleEntry cfg tmpl) avtps
          ?_ []
        · simpa [hnil] using hparse
        · intro avtp hmem rest
          obtain ⟨hmin, hlt, -⟩ := (hfits avtp hmem).bounds
          rw [bundleEntry, hcompact]
          exact wifiPlainEntry_put hmin hlt rest
      · rw [bundleFlags, hcompact]
        simp

/-! ## Bundlers -/

variable {cfg : WifiBundleConfig} {header : StreamHeader}

/-- A bundle of the stream that is being filled. -/
structure BundleForm (cfg : WifiBundleConfig) (header : StreamHeader) (buf : Buf)
    (avtps : List Buf) : Prop where
  octets : ∃ sid tmpl, sid.length = 8 ∧
    tmpl.length = (if cfg.compact then wifiCompactHeader else 0) ∧
    buf = bundleOctets header.octets sid 0 0 0 0 (bundleFlags cfg)
      (tmpl ++ avtps.flatMap (bundleEntry cfg tmpl))
  ethertype : header.octets.getD 16 0 = 0x22 ∧ header.octets.getD 17 0 = 0xf0
  fits : ∀ avtp ∈ avtps, FitsBundle cfg avtp

theorem slice_template {header sid tmpl rest : Buf} {flags : UInt8}
    (hheader : header.length = wifiBundleAvtp) (hsid : sid.length = 8)
    (htmpl : tmpl.length = wifiCompactHeader) :
    (bundleOctets header sid 0 0 0 0 flags (tmpl ++ rest)).slice wifiBundleEntries
      wifiCompactHeader = tmpl := by
  rw [Buf.slice, wifiBundleEntries, show 38 = 30 + 8 from rfl, ← List.drop_drop,
    bundleOctets_drop hheader hsid]
  exact List.take_left' htmpl

/-- One more AVTPDU behind the others. -/
theorem BundleForm.put {buf avtp : Buf} {avtps : List Buf} (h : BundleForm cfg header buf avtps)
    (hfits : FitsBundle cfg avtp) :
    BundleForm cfg header (buf ++ wifiBundlePut cfg buf avtp) (avtps ++ [avtp]) := by
  obtain ⟨sid, tmpl, hsid, htmpl, hbuf⟩ := h.octets
  have hput : wifiBundlePut cfg buf avtp = bundleEntry cfg tmpl avtp := by
    rw [wifiBundlePut, bundleEntry]
    split_ifs with hcompact
    · rw [if_pos hcompact] at htmpl
      rw [hbuf, slice_template header.length_eq hsid htmpl]
    · rfl
  refine ⟨⟨sid, tmpl, hsid, htmpl, ?_⟩, h.ethertype, ?_⟩
  · rw [hput, hbuf]
    simp [bundleOctets]
  · intro a ha
    rcases List.mem_append.mp ha with ha | ha
    · exact h.fits a ha
    · rw [List.mem_singleton.mp ha]
      exact hfits

theorem BundleForm.length_put {buf avtp : Buf} {avtps : List Buf}
    (h : BundleForm cfg header buf avtps) (hfits : FitsBundle cfg avtp) {count : Nat}
    (hcount : count ≠ 0) :
    (buf ++ wifiBundlePut cfg buf avtp).length =
      buf.length + wifiBundleEntryCost cfg buf count avtp := by
  obtain ⟨sid, tmpl, hsid, htmpl, hbuf⟩ := h.octets
  rw [List.length_append, wifiBundlePut, wifiBundleEntryCost]
  split_ifs with hcompact
  · rw [length_wifiCompactPut (hfits.bounds.2.2 hcompact)]
  · simp [lenOctets]
    omega

theorem frame_slice (header : StreamHeader) (avtp : Buf) (k n : Nat) :
    (header.octets ++ avtp).slice (wifiBundleAvtp + k) n = avtp.slice k n := by
  rw [Buf.slice, Buf.slice, ← List.drop_drop, List.drop_left' header.length_eq]

theorem wifiBundleBegin_form {avtp : Buf} (hfits : FitsBundle cfg avtp)
    (htype : header.octets.getD 16 0 = 0x22 ∧ header.octets.getD 17 0 = 0xf0) :
    BundleForm cfg header (wifiBundleBegin cfg (header.octets ++ avtp)) [] := by
  obtain ⟨hmin, -, hcompact⟩ := hfits.bounds
  refine ⟨⟨avtp.slice 4 8, if cfg.compact then avtp.take wifiCompactHeader else [], ?_, ?_, ?_⟩,
    htype, by simp⟩
  · exact length_slice (by omega)
  · split_ifs with hc
    · rw [List.length_take]
      exact Nat.min_eq_left (hcompact hc)
    · rfl
  · have htmpl := frame_slice header avtp 0 wifiCompactHeader
    have hsid := frame_slice header avtp 4 8
    simp only [Nat.add_zero] at htmpl
    rw [wifiBundleBegin, List.take_left' header.length_eq, htmpl, show 22 = wifiBundleAvtp + 4 from rfl,
      hsid]
    simp [bundleOctets, bundleFlags, Buf.slice]

theorem length_begin_put {avtp : Buf} (hfits : FitsBundle cfg avtp)
    (htype : header.octets.getD 16 0 = 0x22 ∧ header.octets.getD 17 0 = 0xf0) :
    (wifiBundleBegin cfg (header.octets ++ avtp) ++
      wifiBundlePut cfg (wifiBundleBegin cfg (header.octets ++ avtp)) avtp).length ≤
      wifiBundleFillBytes := by
  have hform := @wifiBundleBegin_form cfg header avtp hfits htype
  have hmax := hfits.max
  rw [hform.length_put hfits one_ne_zero, wifiBundleEntryCost]
  obtain ⟨sid, tmpl, hsid, htmpl, hbuf⟩ := hform.octets
  rw [hbuf, length_bundleOctets header.length_eq hsid]
  rw [wifiBundleFirstCost] at hmax
  rw [List.flatMap_nil, List.append_nil, htmpl]
  by_cases hcompact : cfg.compact = true
  · have hle := fun flags => @wifiCompactEntryLen_le flags avtp.length (hfits.bounds.2.2 hcompact)
    simp only [if_pos hcompact, if_pos one_ne_zero] at hmax ⊢
    exact le_trans (Nat.add_le_add_left (hle _) _) (by omega)
  · simp only [if_neg hcompact] at hmax ⊢
    omega

/-- A bundle that is sent: recognised on receipt, small enough, and not changed by the wrapper. -/
structure GoodBundle (buf : Buf) : Prop where
  is : wifiBundleIs buf
  fits : buf.length ≤ wifiBundleFillBytes

theorem GoodBundle.received {buf : Buf} (h : GoodBundle buf) (wrap : Bool) :
    wifiBundleRx (wifiTxBundleFrame wrap buf) = wifiBundleSplit buf := by
  rw [wifiBundleRx, wifiViUnwrap_txFrame wrap h.is.1 h.is.2.1, if_pos h.is]

/-- The bundles sent and the one being filled hold the frames `frames`, in order. -/
structure Bundled (cfg : WifiBundleConfig) (header : StreamHeader) (slot : WifiBundleSlot)
    (frames : List Buf) : Prop where
  sent : ∀ buf ∈ slot.sent, GoodBundle buf
  few : slot.count ≤ cfg.frames
  filling : ∃ avtps, slot.count = avtps.length ∧
    frames = slot.sent.flatMap wifiBundleSplit ++ avtps.map (header.octets ++ ·) ∧
    (avtps ≠ [] → BundleForm cfg header slot.buf avtps ∧ slot.buf.length ≤ wifiBundleFillBytes)

theorem Bundled.blank (seq : BitVec 16) : Bundled cfg header (.blank seq) [] where
  sent := by simp [WifiBundleSlot.blank]
  few := by simp [WifiBundleSlot.blank]
  filling := ⟨[], by simp [WifiBundleSlot.blank]⟩

theorem wifiBundleSend_count (slot : WifiBundleSlot) : (wifiBundleSend slot).count = 0 := by
  rw [wifiBundleSend]
  split_ifs with hcount
  · exact hcount
  · rfl

theorem Bundled.send {slot : WifiBundleSlot} {frames : List Buf}
    (h : Bundled cfg header slot frames) : Bundled cfg header (wifiBundleSend slot) frames := by
  rw [wifiBundleSend]
  split_ifs with hcount
  · exact h
  · obtain ⟨avtps, hlen, hframes, hform⟩ := h.filling
    have hne : avtps ≠ [] := by
      rintro rfl
      exact hcount hlen
    obtain ⟨hform, hfit⟩ := hform hne
    obtain ⟨sid, tmpl, hsid, htmpl, hbuf⟩ := hform.octets
    have hsmall : avtps.length < 256 := by
      have := h.few
      have := cfg.frames_le
      omega
    have hcount' : slot.count = avtps.length := hlen
    refine ⟨?_, Nat.zero_le _, [], rfl, ?_, fun hnil => absurd rfl hnil⟩
    · intro buf hmem
      rcases List.mem_append.mp hmem with hmem | hmem
      · exact h.sent buf hmem
      · rw [List.mem_singleton.mp hmem, hbuf, bundleOctets_sent header.length_eq hsid]
        refine ⟨wifiBundleIs_bundleOctets header.length_eq hsid header.vlan hform.ethertype, ?_⟩
        rw [length_bundleOctets header.length_eq hsid]
        rw [hbuf, length_bundleOctets header.length_eq hsid] at hfit
        exact hfit
    · rw [List.flatMap_append, hframes, List.flatMap_cons, List.flatMap_nil, hbuf, hcount',
        bundleOctets_sent header.length_eq hsid,
        wifiBundleSplit_bundleOctets header.length_eq hsid htmpl hform.fits hsmall]
      simp

/-- A frame is put into the bundle being filled, or opens one. -/
theorem Bundled.append {slot : WifiBundleSlot} {frames : List Buf} {avtp : Buf} {nowUs : Nat}
    (h : Bundled cfg header slot frames) (hfits : FitsBundle cfg avtp)
    (htype : header.octets.getD 16 0 = 0x22 ∧ header.octets.getD 17 0 = 0xf0)
    (hfew : slot.count < cfg.frames)
    (hroom : slot.count ≠ 0 →
      slot.buf.length + wifiBundleEntryCost cfg slot.buf slot.count avtp ≤ wifiBundleFillBytes) :
    Bundled cfg header (wifiBundleAppend cfg nowUs slot (header.octets ++ avtp))
        (frames ++ [header.octets ++ avtp]) ∧
      (wifiBundleAppend cfg nowUs slot (header.octets ++ avtp)).count < cfg.frames := by
  obtain ⟨avtps, hlen, hframes, hform⟩ := h.filling
  have havtp : (header.octets ++ avtp).drop wifiBundleAvtp = avtp := List.drop_left' header.length_eq
  let opened : WifiBundleSlot :=
    if slot.count = 0 then
      { slot with buf := wifiBundleBegin cfg (header.octets ++ avtp), firstUs := nowUs }
    else slot
  let filled : WifiBundleSlot := { opened with
    buf := opened.buf ++ wifiBundlePut cfg opened.buf avtp
    count := opened.count + 1 }
  have hopened : opened.sent = slot.sent ∧ opened.count = slot.count := by
    simp only [opened]
    split_ifs <;> exact ⟨rfl, rfl⟩
  have hform' : BundleForm cfg header filled.buf (avtps ++ [avtp]) ∧
      filled.buf.length ≤ wifiBundleFillBytes := by
    simp only [filled, opened]
    split_ifs with hcount
    · have hnil : avtps = [] := List.eq_nil_of_length_eq_zero (by omega)
      rw [hnil]
      exact ⟨(wifiBundleBegin_form hfits htype).put hfits, length_begin_put hfits htype⟩
    · have hne : avtps ≠ [] := by
        rintro rfl
        exact hcount hlen
      refine ⟨(hform hne).1.put hfits, ?_⟩
      rw [(hform hne).1.length_put hfits hcount]
      exact hroom hcount
  have hfilled : Bundled cfg header filled (frames ++ [header.octets ++ avtp]) := by
    refine ⟨?_, ?_, avtps ++ [avtp], ?_, ?_, fun _ => hform'⟩
    · intro buf hmem
      exact h.sent buf (hopened.1 ▸ hmem)
    · simp only [filled, hopened.2]
      omega
    · simp [filled, hopened.2, hlen]
    · simp [filled, hopened.1, hframes]
  have happend : wifiBundleAppend cfg nowUs slot (header.octets ++ avtp) =
      if cfg.frames ≤ filled.count then wifiBundleSend filled else filled := by
    simp only [wifiBundleAppend, havtp, filled, opened]
  rw [happend]
  have htwo := cfg.two_le_frames
  split_ifs with hfull
  · refine ⟨hfilled.send, ?_⟩
    rw [wifiBundleSend_count]
    omega
  · exact ⟨hfilled, by omega⟩

theorem wifiBundleTakes_fits {avtp : Buf} (h : wifiBundleTakes cfg (header.octets ++ avtp)) :
    FitsBundle cfg avtp ∧ header.octets.getD 16 0 = 0x22 ∧ header.octets.getD 17 0 = 0xf0 := by
  obtain ⟨hmin, h16, h17, -, -, hmax⟩ := h
  have hlen := header.length_eq
  rw [List.getD_append _ _ _ _ (by rw [hlen]; decide)] at h16 h17
  rw [List.length_append, hlen] at hmin hmax
  rw [Nat.add_sub_cancel_left] at hmax
  exact ⟨⟨by omega, hmax⟩, h16, h17⟩

theorem Bundled.send_if {slot : WifiBundleSlot} {frames : List Buf} (p : Prop) [Decidable p]
    (h : Bundled cfg header slot frames) :
    Bundled cfg header (if p then wifiBundleSend slot else slot) frames := by
  split_ifs
  · exact h.send
  · exact h

theorem count_send_if {slot : WifiBundleSlot} (p : Prop) [Decidable p]
    (h : slot.count < cfg.frames) : (if p then wifiBundleSend slot else slot).count < cfg.frames := by
  split_ifs
  · rw [wifiBundleSend_count]
    omega
  · exact h

/-- What fits is put; what does not is preceded by a send. -/
theorem send_if_room {slot : WifiBundleSlot} {n : Nat} {p : Prop} [Decidable p]
    (hp : slot.count > 0 → wifiBundleFillBytes < slot.buf.length + n → p)
    (h : (if p then wifiBundleSend slot else slot).count ≠ 0) :
    (if p then wifiBundleSend slot else slot) = slot ∧
      slot.buf.length + n ≤ wifiBundleFillBytes := by
  split_ifs at h ⊢ with hnow
  · exact absurd (wifiBundleSend_count slot) h
  · refine ⟨rfl, ?_⟩
    by_contra hfull
    exact hnow (hp (Nat.pos_of_ne_zero h) (by omega))

/-- The end of both bundlers: a send where room is called for, then the frame is put. -/
theorem Bundled.send_append {slot : WifiBundleSlot} {frames : List Buf} {avtp : Buf} {nowUs : Nat}
    {p : Prop} [Decidable p] (h : Bundled cfg header slot frames)
    (hfew : slot.count < cfg.frames) (htakes : wifiBundleTakes cfg (header.octets ++ avtp))
    (hp : slot.count > 0 → wifiBundleFillBytes <
      slot.buf.length + wifiBundleEntryCost cfg slot.buf slot.count avtp → p) :
    let slot' := wifiBundleAppend cfg nowUs (if p then wifiBundleSend slot else slot)
      (header.octets ++ avtp)
    Bundled cfg header slot' (frames ++ [header.octets ++ avtp]) ∧ slot'.count < cfg.frames := by
  obtain ⟨hfits, htype⟩ := wifiBundleTakes_fits htakes
  apply (h.send_if p).append hfits htype (count_send_if p hfew)
  intro hcount
  obtain ⟨heq, hroom⟩ := send_if_room hp hcount
  rw [heq]
  exact hroom

theorem wifiBundleAdd_bundled {slot slot' : WifiBundleSlot} {frames : List Buf} {avtp : Buf}
    {nowUs : Nat} (h : Bundled cfg header slot frames) (hfew : slot.count < cfg.frames)
    (hadd : wifiBundleAdd cfg nowUs slot (header.octets ++ avtp) = some slot') :
    Bundled cfg header slot' (frames ++ [header.octets ++ avtp]) ∧ slot'.count < cfg.frames := by
  have htakes : wifiBundleTakes cfg (header.octets ++ avtp) := by
    by_contra hnot
    simp [wifiBundleAdd, hnot] at hadd
  have havtp : (header.octets ++ avtp).drop wifiBundleAvtp = avtp := List.drop_left' header.length_eq
  rw [wifiBundleAdd, if_pos htakes] at hadd
  simp only [havtp, Option.some.injEq] at hadd
  subst hadd
  exact (h.send_if _).send_append (count_send_if _ hfew) htakes fun hpos hfull => ⟨hpos, hfull⟩

/-- Dropping the partial bundle drops its frames, and no others. -/
theorem Bundled.drop {slot : WifiBundleSlot} {frames : List Buf}
    (h : Bundled cfg header slot frames) :
    Bundled cfg header { slot with count := 0 } (frames.take (frames.length - slot.count)) := by
  obtain ⟨avtps, hlen, hframes, -⟩ := h.filling
  refine ⟨h.sent, Nat.zero_le _, [], rfl, ?_, fun hnil => absurd rfl hnil⟩
  rw [hframes, hlen, List.length_append, List.length_map, Nat.add_sub_cancel]
  simp

theorem wifiTxBundleAdd_bundled {slot slot' : WifiBundleSlot} {frames : List Buf} {avtp : Buf}
    {nowUs : Nat} (h : Bundled cfg header slot frames) (hfew : slot.count < cfg.frames)
    (hadd : wifiTxBundleAdd cfg nowUs slot (header.octets ++ avtp) = some slot') :
    Bundled cfg header slot' ((if slot.stale nowUs then frames.take (frames.length - slot.count)
      else frames) ++ [header.octets ++ avtp]) ∧ slot'.count < cfg.frames := by
  have htakes : (header.octets ++ avtp).getD 12 0 = 0x81 ∧ (header.octets ++ avtp).getD 13 0 = 0x00 ∧
      wifiBundleTakes cfg (header.octets ++ avtp) := by
    by_contra hnot
    rw [wifiTxBundleAdd, if_neg hnot] at hadd
    exact absurd hadd (by simp)
  have havtp : (header.octets ++ avtp).drop wifiBundleAvtp = avtp := List.drop_left' header.length_eq
  have hdropped : Bundled cfg header (if slot.stale nowUs then { slot with count := 0 } else slot)
        (if slot.stale nowUs then frames.take (frames.length - slot.count) else frames) ∧
      (if slot.stale nowUs then { slot with count := 0 } else slot).count < cfg.frames := by
    split_ifs with hstale
    · have htwo := cfg.two_le_frames
      exact ⟨h.drop, by dsimp only; omega⟩
    · exact ⟨h, hfew⟩
  rw [wifiTxBundleAdd, if_pos htakes] at hadd
  simp only [havtp, Option.some.injEq] at hadd
  subst hadd
  exact hdropped.1.send_append hdropped.2 htakes.2.2 fun hpos hfull => ⟨hpos, Or.inl hfull⟩

/-! ## Runs -/

/-- The bridge bundles for its stations, a station for the bridge. -/
inductive WifiBundler where
  | bridge | station
  deriving DecidableEq

def WifiBundler.add (who : WifiBundler) (cfg : WifiBundleConfig) (nowUs : Nat)
    (slot : WifiBundleSlot) (frame : Buf) : Option WifiBundleSlot :=
  match who with
  | .bridge => wifiBundleAdd cfg nowUs slot frame
  | .station => wifiTxBundleAdd cfg nowUs slot frame

/-- `accepted` is every frame the bundler took; `kept` is those of them it has not dropped with the
partial bundle of a stopped stream. -/
structure WifiBundlerRun where
  slot : WifiBundleSlot
  accepted : List Buf
  kept : List Buf

def wifiBundlerStep (who : WifiBundler) (cfg : WifiBundleConfig) (header : StreamHeader)
    (run : WifiBundlerRun) (arrival : Nat × Buf) : WifiBundlerRun :=
  match who.add cfg arrival.1 run.slot (header.octets ++ arrival.2) with
  | none => run
  | some slot =>
      let kept :=
        if who = .station ∧ run.slot.stale arrival.1 then
          run.kept.take (run.kept.length - run.slot.count)
        else run.kept
      { slot := slot
        accepted := run.accepted ++ [header.octets ++ arrival.2]
        kept := kept ++ [header.octets ++ arrival.2] }

def wifiBundlerRun (who : WifiBundler) (cfg : WifiBundleConfig) (header : StreamHeader)
    (seq : BitVec 16) (arrivals : List (Nat × Buf)) : WifiBundlerRun :=
  Machine.run (wifiBundlerStep who cfg header) ⟨.blank seq, [], []⟩ arrivals

/-- Every bundle of the run, the last one sent as it stands. -/
def WifiBundlerRun.bundles (run : WifiBundlerRun) : List Buf := (wifiBundleSend run.slot).sent

/-- What the receiver hands on when bundle `i` was wrapped if `wrap i`. -/
def wifiHandedOn (wrap : Nat → Bool) (bundles : List Buf) : List Buf :=
  (bundles.mapIdx fun i b => wifiTxBundleFrame (wrap i) b).flatMap wifiBundleRx

theorem wifiHandedOn_eq {bundles : List Buf} (h : ∀ b ∈ bundles, GoodBundle b) (wrap : Nat → Bool) :
    wifiHandedOn wrap bundles = bundles.flatMap wifiBundleSplit := by
  induction bundles generalizing wrap with
  | nil => rfl
  | cons b rest ih =>
      have hrest := ih (fun c hc => h c (List.mem_cons_of_mem b hc)) fun i => wrap (i + 1)
      rw [wifiHandedOn] at hrest ⊢
      rw [List.mapIdx_cons, List.flatMap_cons, List.flatMap_cons, hrest,
        (h b List.mem_cons_self).received]

theorem wifiBundlerStep_bundled (who : WifiBundler) (run : WifiBundlerRun) (arrival : Nat × Buf)
    (h : Bundled cfg header run.slot run.kept ∧ run.slot.count < cfg.frames) :
    Bundled cfg header (wifiBundlerStep who cfg header run arrival).slot
        (wifiBundlerStep who cfg header run arrival).kept ∧
      (wifiBundlerStep who cfg header run arrival).slot.count < cfg.frames := by
  rw [wifiBundlerStep]
  cases hadd : who.add cfg arrival.1 run.slot (header.octets ++ arrival.2) with
  | none => exact h
  | some slot =>
      cases who with
      | bridge => exact wifiBundleAdd_bundled h.1 h.2 hadd
      | station =>
          have hstep := wifiTxBundleAdd_bundled h.1 h.2 hadd
          simpa only [true_and] using hstep

/-- The receiver hands on the frames the bundler accepted, octet for octet and in order, but for the
partial bundles a station dropped because their stream had stopped; no bundle is too long. -/
theorem wifi_bundle_round_trip (who : WifiBundler) (cfg : WifiBundleConfig) (header : StreamHeader)
    (seq : BitVec 16) (arrivals : List (Nat × Buf)) (wrap : Nat → Bool) :
    let run := wifiBundlerRun who cfg header seq arrivals
    wifiHandedOn wrap run.bundles = run.kept ∧ run.kept.Sublist run.accepted ∧
      (who = .bridge → run.kept = run.accepted) ∧
      ∀ b ∈ run.bundles, b.length ≤ wifiBundleFillBytes := by
  intro run
  have htwo := cfg.two_le_frames
  have hbundled : Bundled cfg header run.slot run.kept ∧ run.slot.count < cfg.frames := by
    apply Machine.run_invariant fun run : WifiBundlerRun =>
      Bundled cfg header run.slot run.kept ∧ run.slot.count < cfg.frames
    · exact wifiBundlerStep_bundled who
    · refine ⟨Bundled.blank seq, ?_⟩
      simp only [WifiBundleSlot.blank]
      omega
  have hsent := hbundled.1.send
  obtain ⟨avtps, hlen, hframes, -⟩ := hsent.filling
  have hnil : avtps = [] := by
    rw [wifiBundleSend_count] at hlen
    exact List.eq_nil_of_length_eq_zero hlen.symm
  refine ⟨?_, ?_, ?_, fun b hb => (hsent.sent b hb).fits⟩
  · calc
      wifiHandedOn wrap run.bundles = run.bundles.flatMap wifiBundleSplit :=
        wifiHandedOn_eq hsent.sent wrap
      _ = run.kept := by
        rw [hframes, hnil, List.map_nil, List.append_nil]
        rfl
  · apply Machine.run_invariant fun run : WifiBundlerRun => run.kept.Sublist run.accepted
    · intro run arrival hkept
      rw [wifiBundlerStep]
      split
      · exact hkept
      · apply List.Sublist.append_right
        split_ifs
        · exact (List.take_sublist _ _).trans hkept
        · exact hkept
    · exact List.Sublist.refl _
  · rintro rfl
    apply Machine.run_invariant fun run : WifiBundlerRun => run.kept = run.accepted
    · intro run arrival hkept
      rw [wifiBundlerStep]
      split
      · exact hkept
      · simp [hkept]
    · rfl

/-- A station whose stream stops with one frame in its bundle never sends that frame. -/
theorem wifi_bundle_stale_dropped :
    ¬ ∀ (who : WifiBundler) (cfg : WifiBundleConfig) (header : StreamHeader) (seq : BitVec 16)
      (arrivals : List (Nat × Buf)) (wrap : Nat → Bool),
      wifiHandedOn wrap (wifiBundlerRun who cfg header seq arrivals).bundles =
        (wifiBundlerRun who cfg header seq arrivals).accepted := by
  intro h
  let header : StreamHeader :=
    ⟨List.replicate 12 0 ++ [0x81, 0, 0x60, 2, 0x22, 0xf0], by decide, by decide⟩
  let avtp (seq : UInt8) : Buf := [0x02, 0x81, seq] ++ List.replicate 21 0
  have hrun := h .station ⟨true, 8, by decide, by decide⟩ header 0
    [(0, avtp 0), (300000, avtp 1)] fun _ => false
  revert hrun
  decide +kernel

end EspAvb
