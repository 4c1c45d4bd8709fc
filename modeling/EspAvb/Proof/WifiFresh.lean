import EspAvb.Proof.WifiRetx

/-!
# How old a bundle is when it is sent

Both bundlers close a bundle before a frame that comes more than 2 ms after its first, so the frames of
a bundle lie close together. A station discards what a stream left behind when it stopped; the bridge
sends it, however old, when the next frame of any stream comes.
-/

namespace EspAvb

variable {κ : Type} {n m : Nat}

/-! ### Ages -/

/-- The frames of a bundle came within the age limit of a partial bundle. -/
def WifiSent.Together (r : WifiSent κ) : Prop :=
  ∀ t ∈ r.addedUs, ∀ t' ∈ r.addedUs, t' ≤ t + wifiBundleMaxAgeUs

/-- No frame of the bundle was added longer than `limitUs` ago. -/
def WifiSent.Within (limitUs : Nat) (r : WifiSent κ) : Prop := ∀ t ∈ r.addedUs, r.atUs ≤ t + limitUs

instance (r : WifiSent κ) : Decidable r.Together := inferInstanceAs (Decidable (∀ _ ∈ _, _))

instance (limitUs : Nat) (r : WifiSent κ) : Decidable (r.Within limitUs) :=
  inferInstanceAs (Decidable (∀ _ ∈ _, _))

/-- The frames of an open bundle, the first of which opened it. -/
def WifiTxSlot.Timed (s : WifiTxSlot κ) : Prop :=
  s.bundle.count ≠ 0 → s.bundle.firstUs ∈ s.addedUs ∧
    ∀ t ∈ s.addedUs, s.bundle.firstUs ≤ t ∧ t ≤ s.bundle.firstUs + wifiBundleMaxAgeUs

/-- A slot's bundle was opened at most `limitUs` ago, if it has one. -/
def WifiTxSlot.Opened (limitUs nowUs : Nat) (s : WifiTxSlot κ) : Prop :=
  s.bundle.count ≠ 0 → nowUs ≤ s.bundle.firstUs + limitUs

theorem WifiTxSlot.timed_of_empty {s : WifiTxSlot κ} (h : s.bundle.count = 0) : s.Timed :=
  fun hcount => absurd h hcount

theorem WifiTxSlot.Timed.put {s : WifiTxSlot κ} {nowUs : Nat} (h : s.Timed)
    (hopened : s.Opened wifiBundleMaxAgeUs nowUs) (hnow : ∀ t ∈ s.addedUs, t ≤ nowUs)
    (cfg : WifiBundleConfig) (frame : Buf) :
    (s.put cfg nowUs frame).Timed ∧ (s.put cfg nowUs frame).Opened wifiBundleMaxAgeUs nowUs := by
  unfold WifiTxSlot.put
  by_cases hcount : s.bundle.count = 0
  · rw [if_pos hcount]
    refine ⟨fun _ => ⟨List.mem_singleton.mpr rfl, fun t ht => ?_⟩, fun _ => Nat.le_add_right _ _⟩
    rw [List.mem_singleton.mp ht]
    exact ⟨le_rfl, Nat.le_add_right _ _⟩
  · rw [if_neg hcount]
    obtain ⟨hfirst, hadded⟩ := h hcount
    refine ⟨fun _ => ⟨List.mem_append_left _ hfirst, fun t ht => ?_⟩, fun _ => hopened hcount⟩
    obtain hold | hnew := List.mem_append.mp ht
    · exact hadded t hold
    · rw [List.mem_singleton.mp hnew]
      exact ⟨hnow _ hfirst, hopened hcount⟩

namespace WifiTxTable

variable {b b' b'' : WifiTxTable κ n m} {i : Fin n}

/-- The record of slot `i`'s bundle. -/
def sentRecord (b : WifiTxTable κ n m) (given : Bool) (i : Fin n) : WifiSent κ :=
  { key := (b.slots i).key, seq := (b.slots i).bundle.seq, octets := wifiBundleOut (b.slots i).bundle
    addedUs := (b.slots i).addedUs, atUs := b.nowUs, given }

/-- Every open bundle has its times, none of which is to come. -/
structure Timed (b : WifiTxTable κ n m) : Prop where
  slot : ∀ i, (b.slots i).Timed
  past : ∀ i, ∀ t ∈ (b.slots i).addedUs, t ≤ b.nowUs

/-- What is sent between two states at one time. -/
structure Sends (Q : WifiSent κ → Prop) (b b' : WifiTxTable κ n m) : Prop where
  timed : b'.Timed
  now : b'.nowUs = b.nowUs
  sent : ∃ records, b'.sent = b.sent ++ records ∧ ∀ r ∈ records, Q r

namespace Sends

variable {Q Q' : WifiSent κ → Prop}

theorem refl (h : b.Timed) : Sends Q b b := ⟨h, rfl, [], (List.append_nil _).symm, nofun⟩

theorem trans (h : Sends Q b b') (h' : Sends Q b' b'') : Sends Q b b'' := by
  obtain ⟨first, hfirst, hq⟩ := h.sent
  obtain ⟨rest, hrest, hq'⟩ := h'.sent
  refine ⟨h'.timed, h'.now.trans h.now, first ++ rest, ?_, fun r hr => ?_⟩
  · rw [hrest, hfirst, List.append_assoc]
  · obtain hmem | hmem := List.mem_append.mp hr
    · exact hq r hmem
    · exact hq' r hmem

theorem mono (h : Sends Q b b') (hQ : ∀ r, Q r → Q' r) : Sends Q' b b' := by
  obtain ⟨records, hrecords, hq⟩ := h.sent
  exact ⟨h.timed, h.now, records, hrecords, fun r hr => hQ r (hq r hr)⟩

end Sends

theorem Timed.setSlot (h : b.Timed) {s : WifiTxSlot κ} (hs : s.Timed)
    (hpast : ∀ t ∈ s.addedUs, t ≤ b.nowUs) : (b.setSlot i s).Timed := by
  constructor
  all_goals
    intro j
    by_cases hj : j = i
  · rw [hj, setSlot_same]
    exact hs
  · rw [setSlot_other s hj]
    exact h.slot j
  · rw [hj, setSlot_same]
    exact hpast
  · rw [setSlot_other s hj]
    exact h.past j

theorem send_sent (hcount : (b.slots i).bundle.count ≠ 0) (histAlloc given : Bool) :
    (b.send histAlloc given i).sent = b.sent ++ [b.sentRecord given i] := by
  unfold send
  rw [if_neg hcount]
  rfl

theorem send_now (histAlloc given : Bool) : (b.send histAlloc given i).nowUs = b.nowUs := by
  unfold send
  dsimp only
  split_ifs <;> rfl

theorem send_added (histAlloc given : Bool) {t : Nat}
    (ht : t ∈ ((b.send histAlloc given i).slots i).addedUs) : t ∈ (b.slots i).addedUs := by
  unfold send at ht
  dsimp only at ht
  split_ifs at ht
  · exact ht
  · rw [setSlot_same] at ht
    cases ht

theorem send_sends (h : b.Timed) {Q : WifiSent κ → Prop} (histAlloc given : Bool)
    (hQ : (b.slots i).bundle.count ≠ 0 → Q (b.sentRecord given i)) :
    Sends Q b (b.send histAlloc given i) := by
  by_cases hcount : (b.slots i).bundle.count = 0
  · rw [send_of_empty hcount]
    exact .refl h
  · refine ⟨⟨fun j => ?_, fun j t ht => ?_⟩, send_now _ _, _, send_sent hcount _ _, fun r hr => ?_⟩
    · by_cases hj : j = i
      · rw [hj]
        apply WifiTxSlot.timed_of_empty
        rw [(send_same _ _).1, wifiBundleSend_count]
      · rw [send_other _ _ hj]
        exact h.slot j
    · rw [send_now]
      by_cases hj : j = i
      · rw [hj] at ht
        exact h.past i t (send_added _ _ ht)
      · rw [send_other _ _ hj] at ht
        exact h.past j t ht
    · rw [List.mem_singleton.mp hr]
      exact hQ hcount

theorem Timed.together (h : b.Timed) (hcount : (b.slots i).bundle.count ≠ 0) (given : Bool) :
    (b.sentRecord given i).Together := by
  intro t ht t' ht'
  have hfirst := ((h.slot i hcount).2 t ht).1
  have hlast := ((h.slot i hcount).2 t' ht').2
  omega

/-- The first frame decides how old a bundle is. -/
theorem Timed.within_iff (h : b.Timed) (hcount : (b.slots i).bundle.count ≠ 0) (given : Bool)
    (limitUs : Nat) : (b.sentRecord given i).Within limitUs ↔
      b.nowUs ≤ (b.slots i).bundle.firstUs + limitUs := by
  constructor
  · intro hwithin
    exact hwithin _ (h.slot i hcount).1
  · intro hle t ht
    exact hle.trans (Nat.add_le_add_right ((h.slot i hcount).2 t ht).1 _)

theorem append_sends (h : b.Timed) (hopened : (b.slots i).Opened wifiBundleMaxAgeUs b.nowUs)
    (cfg : WifiBundleConfig) (histAlloc given : Bool) (frame : Buf) :
    Sends (fun r => r.Together ∧ r.Within wifiBundleMaxAgeUs) b
      (b.append cfg histAlloc given i frame) := by
  obtain ⟨htimed, hstill⟩ := (h.slot i).put hopened (h.past i) cfg frame
  have hpast : ∀ t ∈ ((b.slots i).put cfg b.nowUs frame).addedUs, t ≤ b.nowUs := by
    intro t ht
    unfold WifiTxSlot.put at ht
    by_cases hcount : (b.slots i).bundle.count = 0
    · rw [if_pos hcount] at ht
      exact (List.mem_singleton.mp ht).le
    · rw [if_neg hcount] at ht
      obtain hold | hnew := List.mem_append.mp ht
      · exact h.past i t hold
      · exact (List.mem_singleton.mp hnew).le
  have hput : Sends (fun r => r.Together ∧ r.Within wifiBundleMaxAgeUs) b
      (b.setSlot i ((b.slots i).put cfg b.nowUs frame)) :=
    ⟨h.setSlot htimed hpast, rfl, [], (List.append_nil _).symm, nofun⟩
  unfold append
  dsimp only
  split_ifs
  · apply hput.trans
    apply send_sends hput.timed
    intro hcount
    refine ⟨hput.timed.together hcount _, (hput.timed.within_iff hcount _ _).mpr ?_⟩
    rw [setSlot_same] at hcount ⊢
    exact hstill hcount
  · exact hput

theorem Timed.congr (h : b.Timed) (hnow : b'.nowUs = b.nowUs) (hslots : ∀ j,
    (b'.slots j).bundle = (b.slots j).bundle ∧ (b'.slots j).addedUs = (b.slots j).addedUs) :
    b'.Timed := by
  refine ⟨fun j => ?_, fun j t ht => ?_⟩
  · unfold WifiTxSlot.Timed
    rw [(hslots j).1, (hslots j).2]
    exact h.slot j
  · rw [(hslots j).2] at ht
    rw [hnow]
    exact h.past j t ht

theorem Timed.wait (h : b.Timed) (waitUs : Nat) : (b.wait waitUs).Timed :=
  ⟨h.slot, fun i t ht => Nat.le_add_right_of_le (h.past i t ht)⟩

theorem Timed.blank (n m : Nat) (key : κ) : (WifiTxTable.blank n m key).Timed :=
  ⟨fun _ hcount => absurd rfl hcount, fun _ _ ht => absurd ht List.not_mem_nil⟩

end WifiTxTable

/-! ### The bridge -/

namespace WifiBridge

variable {cfg : WifiBundleConfig} {env : WifiTxEnv 8}

/-- A slot with a partial bundle that the scan sends. -/
def Stale (b : WifiBridge) (i : Fin 8) : Prop :=
  (b.slots i).valid ∧ (b.slots i).bundle.count > 0 ∧
    (b.slots i).bundle.firstUs + wifiBundleMaxAgeUs < b.nowUs

instance (b : WifiBridge) (i : Fin 8) : Decidable (b.Stale i) := inferInstanceAs (Decidable (_ ∧ _))

theorem scanSlot_bridge (key : Buf × Buf) (c : WifiScan) (i : Fin 8) :
    (scanSlot env key c i).bridge =
      if c.bridge.Stale i then c.bridge.send false (env.given i) i else c.bridge := by
  unfold scanSlot
  dsimp only
  by_cases hstale : c.bridge.Stale i
  · rw [if_pos hstale]
    unfold Stale at hstale
    rw [if_pos hstale]
    split_ifs <;> rfl
  · rw [if_neg hstale]
    unfold Stale at hstale
    rw [if_neg hstale]
    split_ifs <;> rfl

/-- The scan after the slots `seen`, from the bridge `b`: the stale bundles are sent, in their order. -/
structure Swept (env : WifiTxEnv 8) (b : WifiBridge) (seen : List (Fin 8)) (c : WifiScan) : Prop where
  timed : c.bridge.Timed
  now : c.bridge.nowUs = b.nowUs
  rest : ∀ i, i ∉ seen → c.bridge.slots i = b.slots i
  opened : ∀ i ∈ seen, (c.bridge.slots i).valid →
    (c.bridge.slots i).Opened wifiBundleMaxAgeUs b.nowUs
  sent : c.bridge.sent = b.sent ++
    (seen.filter fun i => b.Stale i).map fun i => b.sentRecord (env.given i) i

theorem Swept.step {b : WifiBridge} {seen : List (Fin 8)} {c : WifiScan} (h : Swept env b seen c)
    {i : Fin 8} (hi : i ∉ seen) (key : Buf × Buf) :
    Swept env b (seen ++ [i]) (scanSlot env key c i) := by
  have hslot := h.rest i hi
  have hstale : c.bridge.Stale i ↔ b.Stale i := by
    unfold Stale
    rw [hslot, h.now]
  by_cases hsend : b.Stale i
  · have hcount : (c.bridge.slots i).bundle.count ≠ 0 := (hstale.mpr hsend).2.1.ne'
    have hbridge : (scanSlot env key c i).bridge = c.bridge.send false (env.given i) i := by
      rw [scanSlot_bridge, if_pos (hstale.mpr hsend)]
    have hsends := WifiTxTable.send_sends h.timed (Q := fun _ => True) false (env.given i)
      (i := i) fun _ => trivial
    constructor
    all_goals rw [hbridge]
    · exact hsends.timed
    · exact hsends.now.trans h.now
    · intro j hj
      rw [List.mem_append, List.mem_singleton, not_or] at hj
      rw [WifiTxTable.send_other _ _ hj.2]
      exact h.rest j hj.1
    · intro j hj hv
      by_cases hji : j = i
      · intro hne
        rw [hji, (WifiTxTable.send_same _ _).1, wifiBundleSend_count] at hne
        exact absurd rfl hne
      · rw [WifiTxTable.send_other _ _ hji] at hv ⊢
        obtain hold | hnew := List.mem_append.mp hj
        · exact h.opened j hold hv
        · exact absurd (List.mem_singleton.mp hnew) hji
    · have hrecord : c.bridge.sentRecord (env.given i) i = b.sentRecord (env.given i) i := by
        unfold WifiTxTable.sentRecord
        rw [hslot, h.now]
      rw [WifiTxTable.send_sent hcount, h.sent, List.filter_append, List.map_append,
        List.append_assoc, hrecord]
      congr 2
      simp [hsend]
  · have hbridge : (scanSlot env key c i).bridge = c.bridge := by
      rw [scanSlot_bridge, if_neg (mt hstale.mp hsend)]
    constructor
    all_goals rw [hbridge]
    · exact h.timed
    · exact h.now
    · intro j hj
      rw [List.mem_append, not_or] at hj
      exact h.rest j hj.1
    · intro j hj hv
      obtain hold | hnew := List.mem_append.mp hj
      · exact h.opened j hold hv
      · rw [List.mem_singleton.mp hnew] at hv ⊢
        rw [hslot] at hv ⊢
        intro hcount
        by_contra hold
        exact hsend ⟨hv, Nat.pos_of_ne_zero hcount, not_le.mp hold⟩
    · rw [h.sent, List.filter_append]
      simp [hsend]

theorem swept {b : WifiBridge} (h : b.Timed) (key : Buf × Buf) {seen : List (Fin 8)}
    (hnodup : seen.Nodup) : Swept env b seen (seen.foldl (scanSlot env key) ⟨b, none, none⟩) := by
  induction seen using List.reverseRecOn with
  | nil => exact ⟨h, rfl, fun _ _ => rfl, nofun, (List.append_nil _).symm⟩
  | append_singleton seen i ih =>
      rw [List.nodup_append] at hnodup
      rw [List.foldl_append]
      apply (ih hnodup.1).step
      intro hi
      exact hnodup.2.2 i hi i (List.mem_singleton.mpr rfl) rfl

theorem addTo_sends {b : WifiBridge} (h : b.Timed) {i : Fin 8}
    (hopened : (b.slots i).Opened wifiBundleMaxAgeUs b.nowUs) (frame : Buf) :
    WifiTxTable.Sends (fun r => r.Together ∧ r.Within wifiBundleMaxAgeUs) b
      (addTo cfg env b i frame) := by
  unfold addTo
  dsimp only
  split_ifs with hfull
  · have hsend := @WifiTxTable.send_sends _ _ _ b i h
      (fun r => r.Together ∧ r.Within wifiBundleMaxAgeUs) false (env.given i) fun hcount =>
        ⟨h.together hcount _, (h.within_iff hcount _ _).mpr (hopened hcount)⟩
    apply hsend.trans
    apply WifiTxTable.append_sends hsend.timed
    intro hne
    rw [(WifiTxTable.send_same _ _).1, wifiBundleSend_count] at hne
    exact absurd rfl hne
  · exact WifiTxTable.append_sends h hopened _ _ _ _

/-- What a frame makes the bridge send: the stale bundles, and then none that is. -/
theorem wifiBundleAdd_sent {b : WifiBridge} (h : b.Timed) (hsound : b.Sound) {frame : Buf}
    (htakes : wifiBundleTakes cfg frame) :
    (wifiBundleAdd cfg env b frame).Timed ∧
      ∃ records, (wifiBundleAdd cfg env b frame).sent = b.sent ++
          (((List.finRange 8).filter fun i => b.Stale i).map fun i => b.sentRecord (env.given i) i) ++
            records ∧
        ∀ r ∈ records, r.Together ∧ r.Within wifiBundleMaxAgeUs := by
  obtain ⟨c, hc⟩ : ∃ c, c = (List.finRange 8).foldl
      (scanSlot env (frame.slice 0 6, frame.slice 22 8)) ⟨b, none, none⟩ := ⟨_, rfl⟩
  have hswept : Swept env b (List.finRange 8) c := hc ▸ swept h _ (List.nodup_finRange 8)
  have hscan : Scanned b _ (List.finRange 8) c := hc ▸ scanned hsound _ _
  rw [← hswept.sent]
  obtain ⟨i, hslot, heq⟩ | heq | ⟨i, s, -, heq⟩ := wifiBundleAdd_cases htakes hc
  · rw [heq]
    have hsends := @addTo_sends cfg env _ hswept.timed i (by
      rw [hswept.now]
      exact hswept.opened i (List.mem_finRange i)
        ((hscan.same i).1.trans (hscan.found i hslot).1)) frame
    exact ⟨hsends.timed, hsends.sent⟩
  · rw [heq]
    exact ⟨hswept.timed, [], (List.append_nil _).symm, nofun⟩
  · rw [heq]
    have hclaimed : (c.bridge.setSlot i
        (s.claim (frame.slice 0 6, frame.slice 22 8))).Timed :=
      hswept.timed.setSlot (WifiTxSlot.timed_of_empty rfl) (fun _ ht => absurd ht List.not_mem_nil)
    have hsends := @addTo_sends cfg env _ hclaimed i (by
      rw [WifiTxTable.setSlot_same]
      exact fun hcount => absurd rfl hcount) frame
    exact ⟨hsends.timed, hsends.sent⟩

end WifiBridge

/-! ### A station -/

namespace WifiStation

variable {cfg : WifiBundleConfig} {env : WifiTxEnv 2}

theorem slotFor_sends {b : WifiStation} (h : b.Timed) {streamId : Buf} {i : Fin 2} {b' : WifiStation}
    (hslot : slotFor b streamId = some (i, b')) (Q : WifiSent Buf → Prop) :
    WifiTxTable.Sends Q b b' := by
  unfold slotFor at hslot
  cases hfound : (List.finRange 2).find? fun i => (b.slots i).valid ∧ (b.slots i).key = streamId with
  | some j =>
      rw [hfound] at hslot
      cases hslot
      exact .refl h
  | none =>
      rw [hfound] at hslot
      obtain ⟨j, -, hj⟩ := Option.map_eq_some_iff.mp hslot
      cases hj
      refine ⟨h.setSlot ?_ ?_, rfl, [], (List.append_nil _).symm, nofun⟩
      · exact WifiTxSlot.timed_of_empty rfl
      · exact fun _ ht => absurd ht List.not_mem_nil

/-- A station sends a bundle left open, once it is too old to fill and not yet stale. -/
theorem wifiTxBundleAdd_sends {b : WifiStation} (h : b.Timed) (frame : Buf) :
    WifiTxTable.Sends (fun r => r.Together ∧ r.Within wifiTxBundleStaleUs) b
      (wifiTxBundleAdd cfg env b frame) := by
  unfold wifiTxBundleAdd
  by_cases hskip : ¬(frame.getD 12 0 = 0x81 ∧ frame.getD 13 0 = 0x00 ∧ wifiBundleTakes cfg frame) ∨
      ¬env.bufAlloc
  · rw [if_pos hskip]
    exact .refl h
  rw [if_neg hskip]
  cases hslot : slotFor b (frame.slice 22 8) with
  | none => exact .refl h
  | some found =>
      obtain ⟨i, b'⟩ := found
      have hclaim := slotFor_sends h hslot fun r => r.Together ∧ r.Within wifiTxBundleStaleUs
      apply hclaim.trans
      dsimp only
      obtain ⟨s, hs⟩ : ∃ s, s =
          if (b'.slots i).bundle.count > 0 ∧
              (b'.slots i).bundle.firstUs + wifiTxBundleStaleUs < b'.nowUs then
            ({ b'.slots i with lastUs := b'.nowUs } : WifiTxSlot Buf).discard
          else { b'.slots i with lastUs := b'.nowUs } := ⟨_, rfl⟩
      rw [← hs]
      have hkept : s.Timed ∧ s.Opened wifiTxBundleStaleUs b'.nowUs ∧
          ∀ t ∈ s.addedUs, t ≤ b'.nowUs := by
        rw [hs]
        split_ifs with hstale
        · exact ⟨WifiTxSlot.timed_of_empty rfl, fun hcount => absurd rfl hcount,
            fun _ ht => absurd ht List.not_mem_nil⟩
        · refine ⟨hclaim.timed.slot i, fun hcount => ?_, hclaim.timed.past i⟩
          by_contra hold
          exact hstale ⟨Nat.pos_of_ne_zero hcount, not_le.mp hold⟩
      obtain ⟨htimed, hopened, hpast⟩ := hkept
      have hset : WifiTxTable.Sends (fun r => r.Together ∧ r.Within wifiTxBundleStaleUs) b'
          (b'.setSlot i s) :=
        ⟨hclaim.timed.setSlot htimed hpast, rfl, [], (List.append_nil _).symm, nofun⟩
      have happend {b'' : WifiStation} (hsends : WifiTxTable.Sends
          (fun r => r.Together ∧ r.Within wifiTxBundleStaleUs) b' b'')
          (hyoung : (b''.slots i).Opened wifiBundleMaxAgeUs b''.nowUs) :
          WifiTxTable.Sends (fun r => r.Together ∧ r.Within wifiTxBundleStaleUs) b'
            (b''.append cfg env.histAlloc true i frame) := by
        apply hsends.trans
        apply (WifiTxTable.append_sends hsends.timed hyoung cfg env.histAlloc true frame).mono
        rintro r ⟨htogether, hwithin⟩
        refine ⟨htogether, fun t ht => (hwithin t ht).trans (Nat.add_le_add_left ?_ t)⟩
        decide
      split_ifs with hfull
      · apply happend
        · apply hset.trans
          apply WifiTxTable.send_sends hset.timed
          intro hcount
          refine ⟨hset.timed.together hcount _, (hset.timed.within_iff hcount _ _).mpr ?_⟩
          rw [WifiTxTable.setSlot_same] at hcount ⊢
          exact hopened hcount
        · intro hne
          rw [(WifiTxTable.send_same _ _).1, wifiBundleSend_count] at hne
          exact absurd rfl hne
      · apply happend hset
        rw [WifiTxTable.setSlot_same]
        intro hcount
        by_contra hold
        exact hfull ⟨Nat.pos_of_ne_zero hcount, Or.inr (not_le.mp hold)⟩

end WifiStation

/-! ### Runs -/

/-- The bundles that an event makes a bundler send. -/
def WifiTxTable.newlySent (b b' : WifiTxTable κ n m) : List (WifiSent κ) :=
  b'.sent.drop b.sent.length

theorem WifiTxTable.newlySent_of_append {b b' : WifiTxTable κ n m} {records : List (WifiSent κ)}
    (h : b'.sent = b.sent ++ records) : b.newlySent b' = records := by
  rw [newlySent, h, List.drop_left]

/-- The driver is given no bundle with a frame older than the stale limit, and no bundle has frames of
before and after a pause. -/
def WifiTxFresh (b b' : WifiTxTable κ n m) : Prop :=
  ∀ r ∈ b.newlySent b', (r.given → r.Within wifiTxBundleStaleUs) ∧ r.Together

instance (b b' : WifiTxTable κ n m) : Decidable (WifiTxFresh b b') :=
  inferInstanceAs (Decidable (∀ _ ∈ _, _))

/-- A frame finds no partial bundle past the stale limit that the hosted queue has room for. -/
def wifiBridgeInTime (cfg : WifiBundleConfig) (b : WifiBridge) : WifiTxEvent 8 → Prop
  | .frame waitUs env octets => wifiBundleTakes cfg octets → ∀ i, env.given i → (b.slots i).valid →
      (b.slots i).Opened wifiTxBundleStaleUs (b.nowUs + waitUs)
  | _ => True

theorem WifiBridge.fresh_iff {cfg : WifiBundleConfig} {b : WifiBridge} (h : b.Timed)
    (hsound : b.Sound) (e : WifiTxEvent 8) :
    WifiTxFresh b (wifiBridgeStep cfg b e) ↔ wifiBridgeInTime cfg b e := by
  have hnone {b' : WifiBridge} (heq : b'.sent = b.sent) : WifiTxFresh b b' := by
    intro r hr
    rw [WifiTxTable.newlySent_of_append (heq.trans (List.append_nil _).symm)] at hr
    cases hr
  cases e with
  | frame waitUs env frame =>
      by_cases htakes : wifiBundleTakes cfg frame
      · obtain ⟨-, records, hsent, hyoung⟩ :=
          @wifiBundleAdd_sent cfg env _ (h.wait waitUs) (hsound.wait waitUs) _ htakes
        rw [List.append_assoc] at hsent
        have hnew : b.newlySent (wifiBridgeStep cfg b (.frame waitUs env frame)) = _ :=
          WifiTxTable.newlySent_of_append (b := b.wait waitUs) hsent
        constructor
        · intro hfresh _ i hgiven hv hcount
          by_contra hold
          have hstale : Stale (b.wait waitUs) i := by
            refine ⟨hv, Nat.pos_of_ne_zero hcount, ?_⟩
            exact lt_of_le_of_lt (Nat.add_le_add_left (by decide) _) (not_le.mp hold)
          have hmem : (b.wait waitUs).sentRecord (env.given i) i ∈ b.newlySent
              (wifiBridgeStep cfg b (.frame waitUs env frame)) := by
            rw [hnew]
            apply List.mem_append_left
            apply List.mem_map_of_mem (f := fun i => (b.wait waitUs).sentRecord (env.given i) i)
            exact List.mem_filter.mpr ⟨List.mem_finRange i, decide_eq_true hstale⟩
          have hwithin := (hfresh _ hmem).1 hgiven
          rw [(h.wait waitUs).within_iff hcount] at hwithin
          exact hold hwithin
        · intro htime r hr
          rw [hnew] at hr
          obtain hold | hr := List.mem_append.mp hr
          · obtain ⟨i, hi, hrecord⟩ := List.mem_map.mp hold
            have hstale := of_decide_eq_true (List.mem_filter.mp hi).2
            have hcount := hstale.2.1.ne'
            rw [← hrecord]
            refine ⟨fun hgiven => ?_, (h.wait waitUs).together hcount _⟩
            rw [(h.wait waitUs).within_iff hcount]
            exact htime htakes i hgiven hstale.1 hcount
          · obtain ⟨htogether, hwithin⟩ := hyoung r hr
            refine ⟨fun _ t ht => (hwithin t ht).trans (Nat.add_le_add_left ?_ t), htogether⟩
            decide
      · refine iff_of_true (hnone ?_) fun hbundled => absurd hbundled htakes
        rw [wifiBridgeStep, wifiBundleAdd, if_pos htakes]
        rfl
  | nack waitUs env nack =>
      exact iff_of_true (hnone (wifiNackHandle_resent (hsound.wait waitUs) env nack).sent) trivial
  | poll waitUs => exact iff_of_true (hnone rfl) trivial

theorem WifiBridge.step_timed {cfg : WifiBundleConfig} {b : WifiBridge} (h : b.Timed)
    (hsound : b.Sound) (e : WifiTxEvent 8) : WifiTxTable.Timed (wifiBridgeStep cfg b e) := by
  cases e with
  | frame waitUs env frame =>
      by_cases htakes : wifiBundleTakes cfg frame
      · exact (wifiBundleAdd_sent (h.wait waitUs) (hsound.wait waitUs) htakes).1
      · rw [wifiBridgeStep, wifiBundleAdd, if_pos htakes]
        exact h.wait waitUs
  | nack waitUs env nack =>
      have hresent := wifiNackHandle_resent (hsound.wait waitUs) env nack
      exact (h.wait waitUs).congr hresent.now fun j => (hresent.slots j).2.2
  | poll waitUs => exact h.wait waitUs

theorem WifiStation.step_fresh {cfg : WifiBundleConfig} {b : WifiStation} (h : b.Timed)
    (hsound : b.Sound) (e : WifiTxEvent 2) :
    WifiTxTable.Timed (wifiStationStep cfg b e) ∧ WifiTxFresh b (wifiStationStep cfg b e) := by
  have hsends {b' : WifiStation} {waitUs : Nat} (hb' : WifiTxTable.Sends
      (fun r => r.Together ∧ r.Within wifiTxBundleStaleUs) (b.wait waitUs) b') :
      WifiTxTable.Timed b' ∧ WifiTxFresh b b' := by
    obtain ⟨records, hsent, hrecords⟩ := hb'.sent
    refine ⟨hb'.timed, fun r hr => ?_⟩
    rw [WifiTxTable.newlySent_of_append (b := b) hsent] at hr
    exact ⟨fun _ => (hrecords r hr).2, (hrecords r hr).1⟩
  cases e with
  | frame waitUs env frame => exact hsends (wifiTxBundleAdd_sends (h.wait waitUs) frame)
  | nack waitUs env nack =>
      have hresent := wifiTxNackHandle_resent (hsound.wait waitUs) env nack
      have htimed := (h.wait waitUs).congr hresent.now fun j => (hresent.slots j).2.2
      exact hsends ⟨htimed, hresent.now, [], hresent.sent.trans (List.append_nil _).symm, nofun⟩
  | poll waitUs => exact hsends (.refl (h.wait waitUs))

/-- The bridge's bundles are fresh in exactly the runs in which no frame finds a partial bundle past
the limit that the station has; the station's are fresh in every run. -/
theorem wifi_bundles_fresh_iff (cfg : WifiBundleConfig) (bridgeKey : Buf × Buf) (stationKey : Buf)
    (bridgeEvents : List (WifiTxEvent 8)) (stationEvents : List (WifiTxEvent 2)) :
    (Machine.RunMeets (fun b e => WifiTxFresh b (wifiBridgeStep cfg b e)) (wifiBridgeStep cfg)
        (.blank 8 48 bridgeKey) bridgeEvents ↔
      Machine.RunMeets (wifiBridgeInTime cfg) (wifiBridgeStep cfg) (.blank 8 48 bridgeKey)
        bridgeEvents) ∧
    Machine.RunMeets (fun b e => WifiTxFresh b (wifiStationStep cfg b e)) (wifiStationStep cfg)
      (.blank 2 10 stationKey) stationEvents := by
  constructor
  · apply Machine.RunMeets.iff_of_invariant fun b : WifiBridge => b.Timed ∧ b.Sound
    · exact fun b e hb => WifiBridge.fresh_iff hb.1 hb.2 e
    · exact fun b e _ hb => ⟨WifiBridge.step_timed hb.1 hb.2 e, (WifiBridge.step_sound hb.2 e).1⟩
    · exact ⟨.blank 8 48 bridgeKey, .blank 8 48 bridgeKey⟩
  · apply Machine.RunMeets.of_invariant fun b : WifiStation => b.Timed ∧ b.Sound
    · exact fun b e hb =>
        ⟨(WifiStation.step_fresh hb.1 hb.2 e).1, (WifiStation.step_sound hb.2 e).1⟩
    · exact fun b e hb => (WifiStation.step_fresh hb.1 hb.2 e).2
    · exact ⟨.blank 2 10 stationKey, .blank 2 10 stationKey⟩

def pausedFrame : Buf :=
  List.replicate 12 0 ++ [0x81, 0, 0, 0, 0x22, 0xf0, 0, 0x80] ++ List.replicate 40 0

/-- A stream that pauses for 5 s with a frame in its bundle: the frame goes out as it resumes. -/
theorem wifi_bridge_sends_stale_bundle :
    ¬Machine.RunMeets (fun b e => WifiTxFresh b
        (wifiBridgeStep ⟨false, 6, by decide, by decide⟩ b e))
      (wifiBridgeStep ⟨false, 6, by decide, by decide⟩) (.blank 8 48 ([], []))
      [.frame 0 ⟨fun _ => true, true, true⟩ pausedFrame,
        .frame 5000000 ⟨fun _ => true, true, true⟩ pausedFrame] := by
  decide +kernel

end EspAvb
