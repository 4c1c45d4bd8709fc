import EspAvb.Lib.SlotRing
import EspAvb.Proof.WifiBundle
import EspAvb.WifiTx

/-!
# What a history gives back

A bundle resent for a NACK is the bundle last sent with that sequence number for that stream. The slots
in use have different keys; the history of a slot holds its last bundles, and as they are numbered one
after the other and are far fewer than the numbers, no two of them have one number.
-/

namespace EspAvb

open SlotRing

variable {κ : Type} {n m : Nat}

theorem length_wifiBundleOut (slot : WifiBundleSlot) :
    (wifiBundleOut slot).length = slot.buf.length := by
  simp [wifiBundleOut]

theorem wifiBundleSend_seq {slot : WifiBundleSlot} (h : slot.count ≠ 0) :
    (wifiBundleSend slot).seq = slot.seq + 1 := by
  rw [wifiBundleSend, if_neg h]

/-! ### Filling a bundle -/

theorem length_wifiBundlePut {cfg : WifiBundleConfig} {buf avtp : Buf} (hfits : FitsBundle cfg avtp)
    {count : Nat} (hcount : count ≠ 0) :
    (wifiBundlePut cfg buf avtp).length = wifiBundleEntryCost cfg buf count avtp := by
  rw [wifiBundlePut, wifiBundleEntryCost]
  split_ifs with hcompact
  · rw [length_wifiCompactPut (hfits.bounds.2.2 hcompact)]
  · simp [lenOctets]
    omega

/-- A frame that is bundled at all fits a bundle of its own. -/
theorem length_wifiBundleBegin_put {cfg : WifiBundleConfig} {frame : Buf}
    (h : wifiBundleTakes cfg frame) :
    FitsBundle cfg (frame.drop wifiBundleAvtp) ∧
      (wifiBundleBegin cfg frame ++
        wifiBundlePut cfg (wifiBundleBegin cfg frame) (frame.drop wifiBundleAvtp)).length ≤
      wifiBundleFillBytes := by
  obtain ⟨hmin, -, -, -, -, hmax⟩ := h
  have havtp : (frame.drop wifiBundleAvtp).length = frame.length - wifiBundleAvtp :=
    List.length_drop
  have hfits : FitsBundle cfg (frame.drop wifiBundleAvtp) := by
    constructor
    · rw [havtp]
      omega
    · rwa [havtp]
  refine ⟨hfits, ?_⟩
  obtain ⟨htwelve, -, hheader⟩ := hfits.bounds
  rw [havtp] at htwelve hheader
  have hbegin : (wifiBundleBegin cfg frame).length =
      wifiBundleEntries + if cfg.compact then wifiCompactHeader else 0 := by
    have htake : (frame.take wifiBundleAvtp).length = wifiBundleAvtp := by
      rw [List.length_take]
      omega
    have hid : (frame.slice 22 8).length = 8 := length_slice (by
      rw [wifiBundleAvtp] at htwelve
      omega)
    simp only [wifiBundleBegin, List.length_append, htake, hid]
    split_ifs with hcompact
    · rw [length_slice (by have := hheader hcompact; omega)]
      rfl
    · rfl
  rw [List.length_append, hbegin, length_wifiBundlePut hfits one_ne_zero, wifiBundleEntryCost]
  rw [wifiBundleFirstCost] at hmax
  by_cases hcompact : cfg.compact = true
  · have hle := fun flags => @wifiCompactEntryLen_le flags _ (hfits.bounds.2.2 hcompact)
    simp only [if_pos hcompact, if_pos one_ne_zero] at hmax ⊢
    refine le_trans (Nat.add_le_add_left (hle _) _) ?_
    rw [havtp]
    omega
  · simp only [if_neg hcompact] at hmax ⊢
    rw [havtp]
    omega

namespace WifiTxSlot

variable {s : WifiTxSlot κ} {cfg : WifiBundleConfig} {nowUs : Nat} {frame : Buf}

theorem put_same : (s.put cfg nowUs frame).valid = s.valid ∧ (s.put cfg nowUs frame).key = s.key ∧
    (s.put cfg nowUs frame).hist = s.hist ∧ (s.put cfg nowUs frame).histNext = s.histNext ∧
    (s.put cfg nowUs frame).hasHist = s.hasHist ∧
    (s.put cfg nowUs frame).bundle.seq = s.bundle.seq := by
  unfold put
  split_ifs <;> exact ⟨rfl, rfl, rfl, rfl, rfl, rfl⟩

/-- A bundle takes a frame that it has room for. -/
theorem put_fits (htakes : wifiBundleTakes cfg frame)
    (hroom : s.bundle.count ≠ 0 → s.bundle.buf.length +
      wifiBundleEntryCost cfg s.bundle.buf s.bundle.count (frame.drop wifiBundleAvtp) ≤
        wifiBundleFillBytes) :
    (s.put cfg nowUs frame).bundle.buf.length ≤ wifiBundleFillBytes := by
  obtain ⟨hfits, hfirst⟩ := length_wifiBundleBegin_put htakes
  unfold put
  by_cases hcount : s.bundle.count = 0
  · rw [if_pos hcount]
    exact hfirst
  · rw [if_neg hcount]
    dsimp only
    rw [List.length_append, length_wifiBundlePut hfits hcount]
    exact hroom hcount

end WifiTxSlot

namespace WifiTxTable

variable {b : WifiTxTable κ n m} {i : Fin n}

@[simp]
theorem setSlot_same (s : WifiTxSlot κ) : (b.setSlot i s).slots i = s := Function.update_self ..

theorem setSlot_other (s : WifiTxSlot κ) {j : Fin n} (h : j ≠ i) :
    (b.setSlot i s).slots j = b.slots j := Function.update_of_ne h ..

theorem send_of_empty (h : (b.slots i).bundle.count = 0) (histAlloc given : Bool) :
    b.send histAlloc given i = b := if_pos h

theorem send_same (histAlloc given : Bool) : ((b.send histAlloc given i).slots i).bundle =
    wifiBundleSend (b.slots i).bundle ∧
    ((b.send histAlloc given i).slots i).valid = (b.slots i).valid ∧
    ((b.send histAlloc given i).slots i).key = (b.slots i).key := by
  unfold send
  by_cases hcount : (b.slots i).bundle.count = 0
  · rw [if_pos hcount, wifiBundleSend, if_pos hcount]
    exact ⟨rfl, rfl, rfl⟩
  · rw [if_neg hcount]
    simp [WifiTxSlot.send]

theorem send_other (histAlloc given : Bool) {j : Fin n} (h : j ≠ i) :
    (b.send histAlloc given i).slots j = b.slots j := by
  unfold send
  dsimp only
  split_ifs
  · rfl
  · exact setSlot_other _ h

theorem send_keeps (histAlloc given : Bool) (j : Fin n) :
    ((b.send histAlloc given i).slots j).valid = (b.slots j).valid ∧
      ((b.send histAlloc given i).slots j).key = (b.slots j).key := by
  by_cases hj : j = i
  · rw [hj]
    exact (send_same histAlloc given).2
  · rw [send_other _ _ hj]
    exact ⟨rfl, rfl⟩

end WifiTxTable

/-! ### Histories -/

variable [DecidableEq κ]

/-- The bundle last sent with a sequence number for a stream. -/
def lastSent (sent : List (WifiSent κ)) (key : κ) (seq : BitVec 16) : Option (WifiSent κ) :=
  (sent.filter fun r => r.key = key ∧ r.seq = seq).getLast?

theorem lastSent_append (sent : List (WifiSent κ)) (r : WifiSent κ) (key : κ) (seq : BitVec 16) :
    lastSent (sent ++ [r]) key seq =
      if r.key = key ∧ r.seq = seq then some r else lastSent sent key seq := by
  unfold lastSent
  rw [List.filter_append]
  split_ifs with h <;> simp [h]

/-- The history of a slot beside all that was sent. -/
structure HistSound (m : Nat) (sent : List (WifiSent κ)) (s : WifiTxSlot κ) : Prop where
  next_lt : s.histNext < m
  empty : s.hasHist = false → ∀ k < m, (s.hist k).len = 0
  numbered : ∀ k < m, (s.hist k).len ≠ 0 →
    (s.hist k).seq + BitVec.ofNat 16 (age m s.histNext k + 1) = s.bundle.seq
  kept : ∀ k < m, (s.hist k).len ≠ 0 → ∃ r, lastSent sent s.key (s.hist k).seq = some r ∧
    (s.hist k).octets.take (s.hist k).len = r.octets

namespace HistSound

variable {sent : List (WifiSent κ)} {s s' : WifiTxSlot κ}

theorem congr (h : HistSound m sent s) (hkey : s'.key = s.key) (hseq : s'.bundle.seq = s.bundle.seq)
    (hhas : s'.hasHist = s.hasHist) (hnext : s'.histNext = s.histNext)
    (hhist : ∀ k, (s'.hist k).seq = (s.hist k).seq ∧ (s'.hist k).len = (s.hist k).len ∧
      (s'.hist k).octets = (s.hist k).octets) : HistSound m sent s' where
  next_lt := by rw [hnext]; exact h.next_lt
  empty he k hk := by
    rw [(hhist k).2.1]
    exact h.empty (hhas ▸ he) k hk
  numbered k hk hlen := by
    rw [(hhist k).2.1] at hlen
    rw [(hhist k).1, hnext, hseq]
    exact h.numbered k hk hlen
  kept k hk hlen := by
    rw [(hhist k).2.1] at hlen
    rw [(hhist k).1, (hhist k).2.1, (hhist k).2.2, hkey]
    exact h.kept k hk hlen

/-- What is sent for another stream leaves a history as it is. -/
theorem sent_other (h : HistSound m sent s) {r : WifiSent κ} (hr : r.key ≠ s.key) :
    HistSound m (sent ++ [r]) s := by
  refine ⟨h.next_lt, h.empty, h.numbered, fun k hk hlen => ?_⟩
  obtain ⟨r', hr', hoctets⟩ := h.kept k hk hlen
  refine ⟨r', ?_, hoctets⟩
  rw [lastSent_append, if_neg fun hsame => hr hsame.1, hr']

theorem claimed (s : WifiTxSlot κ) (key : κ) (hm : 0 < m) : HistSound m sent (s.claim key) where
  next_lt := hm
  empty _ _ _ := rfl
  numbered _ _ hlen := absurd rfl hlen
  kept _ _ hlen := absurd rfl hlen

/-- The number a bundle is sent with is none of those the history has. -/
theorem seq_ne (h : HistSound m sent s) (hm : m < 65536) {k : Nat} (hk : k < m)
    (hlen : (s.hist k).len ≠ 0) : (s.hist k).seq ≠ s.bundle.seq := by
  intro heq
  have hnumbered := h.numbered k hk hlen
  rw [heq] at hnumbered
  have hnone : BitVec.ofNat 16 (age m s.histNext k + 1) = 0 := by simpa using hnumbered
  have hage := @age_lt m s.histNext k hk
  have hzero := congrArg BitVec.toNat hnone
  rw [BitVec.toNat_ofNat, Nat.mod_eq_of_lt (by omega)] at hzero
  simp at hzero

end HistSound

/-- The history of a slot that sends. -/
theorem HistSound.send {sent : List (WifiSent κ)} {s : WifiTxSlot κ} (h : HistSound m sent s)
    (hm : m < 65536) (hcount : s.bundle.count ≠ 0) (hfits : s.bundle.buf.length < 65536)
    (histAlloc : Bool) (nowUs : Nat) {r : WifiSent κ} (hkey : r.key = s.key)
    (hseq : r.seq = s.bundle.seq) (hoctets : r.octets = wifiBundleOut s.bundle) :
    HistSound m (sent ++ [r]) (s.send m histAlloc nowUs) := by
  have hnext := h.next_lt
  have hlast : lastSent (sent ++ [r]) s.key s.bundle.seq = some r := by
    rw [lastSent_append, if_pos ⟨hkey, hseq⟩]
  have hlen : (s.sentHist nowUs).octets.take (s.sentHist nowUs).len = r.octets := by
    rw [hoctets]
    apply List.take_of_length_le
    simp only [WifiTxSlot.sentHist, length_wifiBundleOut]
    rw [Nat.mod_eq_of_lt (b := 2 ^ 16) hfits]
  by_cases hhas : (s.hasHist || histAlloc) = true
  · refine ⟨?_, fun he => ?_, fun k hk hne => ?_, fun k hk hne => ?_⟩
    all_goals simp only [WifiTxSlot.send, hhas, if_true] at *
    · exact Nat.mod_lt _ (Nat.zero_lt_of_lt hnext)
    · cases he
    · rw [wifiBundleSend_seq hcount]
      by_cases hwritten : k = s.histNext
      · rw [hwritten, Function.update_self, age_written hnext]
        rfl
      · rw [Function.update_of_ne hwritten] at hne ⊢
        rw [age_other hnext hk hwritten, BitVec.ofNat_add _ 1, ← BitVec.add_assoc,
          h.numbered k hk hne]
        rfl
    · by_cases hwritten : k = s.histNext
      · rw [hwritten, Function.update_self]
        exact ⟨r, hlast, hlen⟩
      · rw [Function.update_of_ne hwritten] at hne ⊢
        obtain ⟨r', hr', hsame⟩ := h.kept k hk hne
        refine ⟨r', ?_, hsame⟩
        rw [lastSent_append, if_neg, hr']
        rintro ⟨-, hnumber⟩
        exact h.seq_ne hm hk hne (hnumber.symm.trans hseq)
  · have hnone := h.empty (by simp_all)
    refine ⟨?_, ?_, ?_, ?_⟩
    all_goals simp only [WifiTxSlot.send, Bool.not_eq_true] at hhas ⊢
    all_goals simp only [hhas, Bool.false_eq_true, if_false]
    · exact hnext
    · exact fun _ => hnone
    · exact fun k hk hne => absurd (hnone k hk) hne
    · exact fun k hk hne => absurd (hnone k hk) hne

/-! ### Tables -/

/-- Slots in use have different keys and sound histories, and no bundle is too long. -/
structure WifiTxTable.Sound (b : WifiTxTable κ n m) : Prop where
  keys : ∀ i j, (b.slots i).valid → (b.slots j).valid → (b.slots i).key = (b.slots j).key → i = j
  hist : ∀ i, (b.slots i).valid → HistSound m b.sent (b.slots i)
  fits : ∀ i, (b.slots i).bundle.count ≠ 0 →
    (b.slots i).bundle.buf.length ≤ wifiBundleFillBytes

namespace WifiTxTable

variable {b : WifiTxTable κ n m} {i : Fin n}

namespace Sound

theorem setSlot (h : b.Sound) {s : WifiTxSlot κ}
    (hkeys : s.valid → ∀ j ≠ i, (b.slots j).valid → (b.slots j).key ≠ s.key)
    (hhist : s.valid → HistSound m b.sent s)
    (hfits : s.bundle.count ≠ 0 → s.bundle.buf.length ≤ wifiBundleFillBytes) :
    (b.setSlot i s).Sound where
  keys j k hj hk hjk := by
    by_cases hji : j = i <;> by_cases hki : k = i
    · rw [hji, hki]
    · rw [hji, setSlot_same] at hj hjk
      rw [setSlot_other s hki] at hk hjk
      exact absurd hjk.symm (hkeys hj k hki hk)
    · rw [hki, setSlot_same] at hk hjk
      rw [setSlot_other s hji] at hj hjk
      exact absurd hjk (hkeys hk j hji hj)
    · rw [setSlot_other s hji] at hj hjk
      rw [setSlot_other s hki] at hk hjk
      exact h.keys j k hj hk hjk
  hist j hj := by
    by_cases hji : j = i
    · rw [hji, setSlot_same] at hj ⊢
      exact hhist hj
    · rw [setSlot_other s hji] at hj ⊢
      exact h.hist j hj
  fits j hj := by
    by_cases hji : j = i
    · rw [hji, setSlot_same] at hj ⊢
      exact hfits hj
    · rw [setSlot_other s hji] at hj ⊢
      exact h.fits j hj

/-- A slot that stays with its stream. -/
theorem setSlot_kept (h : b.Sound) {s : WifiTxSlot κ} (hvalid : s.valid = (b.slots i).valid)
    (hkey : s.key = (b.slots i).key)
    (hhist : s.valid → HistSound m b.sent s)
    (hfits : s.bundle.count ≠ 0 → s.bundle.buf.length ≤ wifiBundleFillBytes) :
    (b.setSlot i s).Sound := by
  refine h.setSlot (fun hs j hji hj hsame => hji ?_) hhist hfits
  rw [hvalid] at hs
  rw [hkey] at hsame
  exact h.keys j i hj hs hsame

/-- A send leaves the other histories alone, as their streams are others. -/
theorem send (h : b.Sound) (hm : m < 65536) (hv : (b.slots i).valid) (histAlloc given : Bool) :
    (b.send histAlloc given i).Sound := by
  by_cases hcount : (b.slots i).bundle.count = 0
  · rw [send_of_empty hcount]
    exact h
  have hfits : (b.slots i).bundle.buf.length < 65536 := by
    have := h.fits i hcount
    simp only [wifiBundleFillBytes, wifiBundleMaxBytes, wifiViHeaderLen] at this
    omega
  refine ⟨fun j k hj hk hjk => ?_, fun j hj => ?_, fun j hj => ?_⟩
  · rw [(send_keeps _ _ j).1] at hj
    rw [(send_keeps _ _ k).1] at hk
    rw [(send_keeps _ _ j).2, (send_keeps _ _ k).2] at hjk
    exact h.keys j k hj hk hjk
  · unfold WifiTxTable.send at hj ⊢
    rw [if_neg hcount] at hj ⊢
    dsimp only at hj ⊢
    by_cases hji : j = i
    · rw [hji, setSlot_same]
      exact (h.hist i hv).send hm hcount hfits _ _ rfl rfl rfl
    · rw [setSlot_other _ hji] at hj ⊢
      apply (h.hist j hj).sent_other
      exact fun hsame => hji (h.keys j i hj hv hsame.symm)
  · by_cases hji : j = i
    · rw [hji, (send_same _ _).1, wifiBundleSend_count] at hj
      exact absurd rfl hj
    · rw [send_other _ _ hji] at hj ⊢
      exact h.fits j hj

theorem append (h : b.Sound) (hm : m < 65536) (hv : (b.slots i).valid) {cfg : WifiBundleConfig}
    {frame : Buf} (htakes : wifiBundleTakes cfg frame)
    (hroom : (b.slots i).bundle.count ≠ 0 → (b.slots i).bundle.buf.length +
      wifiBundleEntryCost cfg (b.slots i).bundle.buf (b.slots i).bundle.count
        (frame.drop wifiBundleAvtp) ≤ wifiBundleFillBytes) (histAlloc given : Bool) :
    (b.append cfg histAlloc given i frame).Sound := by
  obtain ⟨hvalid, hkey, hhist, hnext, hhas, hseq⟩ :=
    @WifiTxSlot.put_same κ (b.slots i) cfg b.nowUs frame
  have hput : (b.setSlot i ((b.slots i).put cfg b.nowUs frame)).Sound := by
    apply h.setSlot_kept hvalid hkey
    · intro hs
      apply (h.hist i hv).congr hkey hseq hhas hnext
      rw [hhist]
      exact fun _ => ⟨rfl, rfl, rfl⟩
    · exact fun _ => WifiTxSlot.put_fits htakes hroom
  unfold WifiTxTable.append
  dsimp only
  split_ifs
  · apply hput.send hm
    rw [setSlot_same, hvalid]
    exact hv
  · exact hput

/-- A slot taken over has a key that no other has, and an empty history. -/
theorem claim (h : b.Sound) (hm : 0 < m) {key : κ}
    (hfresh : ∀ j, (b.slots j).valid → (b.slots j).key ≠ key) {s : WifiTxSlot κ} :
    (b.setSlot i (s.claim key)).Sound := by
  apply h.setSlot
  · exact fun _ j _ hj => hfresh j hj
  · exact fun _ => HistSound.claimed s key hm
  · exact fun hcount => absurd rfl hcount

theorem congr {b' : WifiTxTable κ n m} (h : b.Sound) (hslots : b'.slots = b.slots)
    (hsent : b'.sent = b.sent) : b'.Sound := by
  refine ⟨?_, ?_, ?_⟩
  · rw [hslots]
    exact h.keys
  · rw [hslots, hsent]
    exact h.hist
  · rw [hslots]
    exact h.fits

theorem wait (h : b.Sound) (waitUs : Nat) : (b.wait waitUs).Sound := h.congr rfl rfl

theorem blank (n m : Nat) (key : κ) : (WifiTxTable.blank n m key).Sound where
  keys _ _ hi := by cases hi
  hist _ hi := by cases hi
  fits _ hcount := absurd rfl hcount

end Sound

end WifiTxTable

/-! ### The bridge -/

namespace WifiBridge

variable {cfg : WifiBundleConfig} {env : WifiTxEnv 8}

/-- The scan after the slots `seen`, from the bridge `b`. -/
structure Scanned (b : WifiBridge) (key : Buf × Buf) (seen : List (Fin 8)) (c : WifiScan) : Prop where
  sound : c.bridge.Sound
  same : ∀ i, (c.bridge.slots i).valid = (b.slots i).valid ∧ (c.bridge.slots i).key = (b.slots i).key
  found : ∀ i, c.slot = some i → (b.slots i).valid = true ∧ (b.slots i).key = key
  missed : c.slot = none → ∀ i ∈ seen, (b.slots i).valid = true → (b.slots i).key ≠ key

theorem Scanned.step {b : WifiBridge} {key : Buf × Buf} {seen : List (Fin 8)} {c : WifiScan}
    (h : Scanned b key seen c) (i : Fin 8) : Scanned b key (seen ++ [i]) (scanSlot env key c i) := by
  -- the bridge after a stale bundle of the slot is sent
  obtain ⟨b', hb'⟩ : ∃ b', b' =
      if (c.bridge.slots i).valid ∧ (c.bridge.slots i).bundle.count > 0 ∧
          (c.bridge.slots i).bundle.firstUs + wifiBundleMaxAgeUs < c.bridge.nowUs then
        c.bridge.send false (env.given i) i
      else c.bridge := ⟨_, rfl⟩
  have hsound : b'.Sound := by
    rw [hb']
    split_ifs with hstale
    · exact h.sound.send (by decide) hstale.1 _ _
    · exact h.sound
  have hsame : ∀ j, (b'.slots j).valid = (b.slots j).valid ∧
      (b'.slots j).key = (b.slots j).key := by
    intro j
    rw [← (h.same j).1, ← (h.same j).2, hb']
    split_ifs
    · exact WifiTxTable.send_keeps _ _ j
    · exact ⟨rfl, rfl⟩
  unfold scanSlot
  dsimp only
  rw [← hb']
  split_ifs with hmatch
  · rw [(hsame i).1, (hsame i).2] at hmatch
    refine ⟨hsound, hsame, fun j hj => ?_, fun hnone => ?_⟩
    · cases hj
      exact hmatch
    · cases hnone
  all_goals
    refine ⟨hsound, hsame, h.found, fun hnone j hj hvalid hkey => ?_⟩
    obtain hold | hnew := List.mem_append.mp hj
    · exact h.missed hnone j hold hvalid hkey
    · rw [List.mem_singleton.mp hnew, ← (hsame i).1] at hvalid
      rw [List.mem_singleton.mp hnew, ← (hsame i).2] at hkey
      exact hmatch ⟨hvalid, hkey⟩

theorem scanned {b : WifiBridge} (h : b.Sound) (key : Buf × Buf) (seen : List (Fin 8)) :
    Scanned b key seen (seen.foldl (scanSlot env key) ⟨b, none, none⟩) := by
  induction seen using List.reverseRecOn with
  | nil => exact ⟨h, fun _ => ⟨rfl, rfl⟩, nofun, fun _ _ hmem => absurd hmem List.not_mem_nil⟩
  | append_singleton seen i ih =>
      rw [List.foldl_append]
      exact ih.step i

theorem addTo_sound {b : WifiBridge} (h : b.Sound) {i : Fin 8} (hv : (b.slots i).valid)
    {frame : Buf} (htakes : wifiBundleTakes cfg frame) : (addTo cfg env b i frame).Sound := by
  unfold addTo
  dsimp only
  split_ifs with hfull
  · apply (h.send (by decide) hv _ _).append (by decide) _ htakes
    · intro hcount
      rw [(WifiTxTable.send_same _ _).1, wifiBundleSend_count] at hcount
      exact absurd rfl hcount
    · rw [(WifiTxTable.send_same _ _).2.1]
      exact hv
  · apply h.append (by decide) hv htakes
    intro hcount
    by_contra hover
    exact hfull ⟨Nat.pos_of_ne_zero hcount, not_le.mp hover⟩

/-- What becomes of a frame once the slots were looked at. -/
theorem wifiBundleAdd_cases {b : WifiBridge} {frame : Buf} (htakes : wifiBundleTakes cfg frame)
    {c : WifiScan} (hc : c =
      (List.finRange 8).foldl (scanSlot env (frame.slice 0 6, frame.slice 22 8)) ⟨b, none, none⟩) :
    (∃ i, c.slot = some i ∧ wifiBundleAdd cfg env b frame = addTo cfg env c.bridge i frame) ∨
      wifiBundleAdd cfg env b frame = c.bridge ∨
      ∃ (i : Fin 8) (s : WifiTxSlot (Buf × Buf)), c.slot = none ∧ wifiBundleAdd cfg env b frame =
        addTo cfg env (c.bridge.setSlot i (s.claim (frame.slice 0 6, frame.slice 22 8))) i frame := by
  unfold wifiBundleAdd
  rw [if_neg (not_not_intro htakes)]
  dsimp only
  rw [← hc]
  obtain ⟨b', slot, spare⟩ := c
  cases slot with
  | some i => exact Or.inl ⟨i, rfl, rfl⟩
  | none =>
      right
      cases spare with
      | none => exact Or.inl rfl
      | some i =>
          dsimp only
          split_ifs
          · exact Or.inl rfl
          · exact Or.inr ⟨i, _, rfl, rfl⟩

theorem wifiBundleAdd_sound {b : WifiBridge} (h : b.Sound) (frame : Buf) :
    (wifiBundleAdd cfg env b frame).Sound := by
  by_cases htakes : wifiBundleTakes cfg frame
  · obtain ⟨c, hc⟩ : ∃ c, c = (List.finRange 8).foldl
        (scanSlot env (frame.slice 0 6, frame.slice 22 8)) ⟨b, none, none⟩ := ⟨_, rfl⟩
    have hscan : Scanned b _ (List.finRange 8) c := hc ▸ scanned h _ _
    obtain ⟨i, hslot, heq⟩ | heq | ⟨i, s, hslot, heq⟩ := wifiBundleAdd_cases htakes hc
    · rw [heq]
      apply addTo_sound hscan.sound _ htakes
      rw [(hscan.same i).1]
      exact (hscan.found i hslot).1
    · rw [heq]
      exact hscan.sound
    · rw [heq]
      apply addTo_sound _ _ htakes
      · apply hscan.sound.claim (by decide)
        intro j hj
        rw [(hscan.same j).1] at hj
        rw [(hscan.same j).2]
        exact hscan.missed hslot j (List.mem_finRange j) hj
      · rw [WifiTxTable.setSlot_same]
        rfl
  · unfold wifiBundleAdd
    rw [if_pos htakes]
    exact h

end WifiBridge

/-! ### A station -/

namespace WifiStation

variable {cfg : WifiBundleConfig} {env : WifiTxEnv 2}

theorem slotFor_sound {b : WifiStation} (h : b.Sound) {streamId : Buf} {i : Fin 2} {b' : WifiStation}
    (hslot : slotFor b streamId = some (i, b')) : b'.Sound ∧ (b'.slots i).valid := by
  unfold slotFor at hslot
  cases hfound : (List.finRange 2).find? fun i => (b.slots i).valid ∧ (b.slots i).key = streamId with
  | some j =>
      rw [hfound] at hslot
      cases hslot
      have hmatch := List.find?_some hfound
      rw [decide_eq_true_iff] at hmatch
      exact ⟨h, hmatch.1⟩
  | none =>
      rw [hfound] at hslot
      obtain ⟨j, -, hj⟩ := Option.map_eq_some_iff.mp hslot
      cases hj
      refine ⟨h.claim (by decide) fun k hk hkey => ?_, ?_⟩
      · have hnone := List.find?_eq_none.mp hfound k (List.mem_finRange k)
        rw [decide_eq_true_iff] at hnone
        exact hnone ⟨hk, hkey⟩
      · rw [WifiTxTable.setSlot_same]
        rfl

theorem wifiTxBundleAdd_sound {b : WifiStation} (h : b.Sound) (frame : Buf) :
    (wifiTxBundleAdd cfg env b frame).Sound := by
  unfold wifiTxBundleAdd
  by_cases hskip : ¬(frame.getD 12 0 = 0x81 ∧ frame.getD 13 0 = 0x00 ∧ wifiBundleTakes cfg frame) ∨
      ¬env.bufAlloc
  · rw [if_pos hskip]
    exact h
  rw [if_neg hskip]
  have htakes : wifiBundleTakes cfg frame := (not_not.mp (not_or.mp hskip).1).2.2
  cases hslot : slotFor b (frame.slice 22 8) with
  | none => exact h
  | some found =>
      obtain ⟨i, b'⟩ := found
      obtain ⟨hsound, hv⟩ := slotFor_sound h hslot
      dsimp only
      -- the slot with its stale frames left out
      obtain ⟨s, hs⟩ : ∃ s, s =
          if (b'.slots i).bundle.count > 0 ∧
              (b'.slots i).bundle.firstUs + wifiTxBundleStaleUs < b'.nowUs then
            ({ b'.slots i with lastUs := b'.nowUs } : WifiTxSlot Buf).discard
          else { b'.slots i with lastUs := b'.nowUs } := ⟨_, rfl⟩
      rw [← hs]
      have hkept : s.valid = (b'.slots i).valid ∧ s.key = (b'.slots i).key ∧
          s.bundle.seq = (b'.slots i).bundle.seq ∧ s.hasHist = (b'.slots i).hasHist ∧
          s.histNext = (b'.slots i).histNext ∧ s.hist = (b'.slots i).hist ∧
          s.bundle.buf = (b'.slots i).bundle.buf ∧
          (s.bundle.count ≠ 0 → (b'.slots i).bundle.count ≠ 0) := by
        rw [hs]
        split_ifs
        · exact ⟨rfl, rfl, rfl, rfl, rfl, rfl, rfl, fun hcount => absurd rfl hcount⟩
        · exact ⟨rfl, rfl, rfl, rfl, rfl, rfl, rfl, id⟩
      obtain ⟨hvalid, hkey, hseq, hhas, hnext, hhist, hbuf, hcount⟩ := hkept
      have hset : (b'.setSlot i s).Sound := by
        apply hsound.setSlot_kept hvalid hkey
        · intro _
          apply (hsound.hist i hv).congr hkey hseq hhas hnext
          rw [hhist]
          exact fun _ => ⟨rfl, rfl, rfl⟩
        · intro hne
          rw [hbuf]
          exact hsound.fits i (hcount hne)
      have hsv : ((b'.setSlot i s).slots i).valid := by
        rw [WifiTxTable.setSlot_same, hvalid]
        exact hv
      split_ifs with hfull
      · apply (hset.send (by decide) hsv _ _).append (by decide) _ htakes
        · intro hne
          rw [(WifiTxTable.send_same _ _).1, wifiBundleSend_count] at hne
          exact absurd rfl hne
        · rw [(WifiTxTable.send_same _ _).2.1]
          exact hsv
      · apply hset.append (by decide) hsv htakes
        rw [WifiTxTable.setSlot_same]
        intro hne
        by_contra hover
        exact hfull ⟨Nat.pos_of_ne_zero hne, Or.inl (not_le.mp hover)⟩

end WifiStation

end EspAvb
