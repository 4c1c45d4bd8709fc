import EspAvb.Proof.WifiTx

/-!
# What a NACK brings back

A bundle resent for a NACK is the bundle last sent with its number for the stream and the station of
the NACK, and on the bridge every bundle asked for is counted once.
-/

namespace EspAvb

variable {κ : Type} {n m : Nat}

/-! ### Retransmissions -/

/-- What a NACK asks for is resent as it was last sent, and nothing is resent otherwise. -/
def WifiRetxExact [DecidableEq κ] (nackKey : Buf → κ) (b b' : WifiTxTable κ n m) :
    WifiTxEvent n → Prop
  | .nack _ _ nack => ∃ copies, b'.resent = b.resent ++ copies ∧ ∀ r ∈ copies,
      r.key = nackKey nack ∧ (∃ j < nackCount nack, r.seq = nackFirst nack + BitVec.ofNat 16 j) ∧
        ∃ sent, lastSent b.sent r.key r.seq = some sent ∧
          r.octets = sent.octets.modify 37 (· ||| wifiBundleFlagRetx)
  | _ => b'.resent = b.resent

/-- Every bundle that NACKs asked for had one outcome. -/
def WifiRetxStats.Balanced (st : WifiRetxStats) : Prop :=
  st.requested = st.retx + st.late + st.spaced + st.evicted + st.noSlot + st.noRoom + st.txFail

instance (st : WifiRetxStats) : Decidable st.Balanced := inferInstanceAs (Decidable (_ = _))

namespace WifiTxTable

variable {b : WifiTxTable κ n m} {i : Fin n}

/-- What only NACKs change. -/
def retx (b : WifiTxTable κ n m) : List (WifiResent κ) × WifiRetxStats := (b.resent, b.stats)

@[simp]
theorem setSlot_retx (s : WifiTxSlot κ) : (b.setSlot i s).retx = b.retx := rfl

@[simp]
theorem send_retx (histAlloc given : Bool) : (b.send histAlloc given i).retx = b.retx := by
  unfold send
  dsimp only
  split_ifs <;> rfl

@[simp]
theorem append_retx (cfg : WifiBundleConfig) (histAlloc given : Bool) (frame : Buf) :
    (b.append cfg histAlloc given i frame).retx = b.retx := by
  unfold append
  dsimp only
  split_ifs
  · rw [send_retx, setSlot_retx]
  · rw [setSlot_retx]

/-- An entry that is resent is one of the history with the number asked for. -/
theorem retxOutcome_resend {budgetUs nowUs : Nat} {want : BitVec 16} {k : Nat}
    (h : b.retxOutcome i budgetUs nowUs want = .resend k) :
    k < m ∧ ((b.slots i).hist k).len ≠ 0 ∧ ((b.slots i).hist k).seq = want := by
  unfold retxOutcome at h
  dsimp only at h
  cases hfound : (List.range m).find? fun k =>
      ((b.slots i).hist k).len ≠ 0 ∧ ((b.slots i).hist k).seq = want with
  | none =>
      rw [hfound] at h
      cases h
  | some j =>
      rw [hfound] at h
      have hmatch := List.find?_some hfound
      rw [decide_eq_true_iff] at hmatch
      dsimp only at h
      split_ifs at h <;> cases h
      all_goals exact ⟨List.mem_range.mp (List.mem_of_find?_eq_some hfound), hmatch⟩

variable [DecidableEq κ]

theorem Sound.retxMark (h : b.Sound) (k nowUs : Nat) : (b.retxMark i k nowUs).Sound := by
  unfold WifiTxTable.retxMark
  dsimp only
  apply h.setSlot_kept (i := i)
  · rfl
  · rfl
  · intro hv
    refine HistSound.congr (h.hist i hv) rfl rfl rfl rfl fun j => ?_
    dsimp only
    by_cases hj : j = k
    · rw [hj, Function.update_self]
      exact ⟨rfl, rfl, rfl⟩
    · rw [Function.update_of_ne hj]
      exact ⟨rfl, rfl, rfl⟩
  · exact h.fits i

/-- What a NACK for a stream has resent since `b`, all else being as it was. -/
structure Resent (key : κ) (wanted : BitVec 16 → Prop) (b b' : WifiTxTable κ n m) : Prop where
  sound : b'.Sound
  now : b'.nowUs = b.nowUs
  sent : b'.sent = b.sent
  slots : ∀ j, (b'.slots j).valid = (b.slots j).valid ∧ (b'.slots j).key = (b.slots j).key ∧
    (b'.slots j).bundle = (b.slots j).bundle ∧ (b'.slots j).addedUs = (b.slots j).addedUs
  copies : ∃ copies, b'.resent = b.resent ++ copies ∧ ∀ r ∈ copies,
    r.key = key ∧ wanted r.seq ∧ ∃ sent, lastSent b.sent r.key r.seq = some sent ∧
      r.octets = sent.octets.modify 37 (· ||| wifiBundleFlagRetx)

namespace Resent

variable {key : κ} {wanted : BitVec 16 → Prop} {b' b'' : WifiTxTable κ n m}

theorem count (h : b.Sound) (f : WifiRetxStats → WifiRetxStats) : Resent key wanted b (b.count f) :=
  ⟨h.congr rfl rfl, rfl, rfl, fun _ => ⟨rfl, rfl, rfl, rfl⟩, [], (List.append_nil _).symm, nofun⟩

theorem refl (h : b.Sound) : Resent key wanted b b := count h id

theorem trans (h : Resent key wanted b b') (h' : Resent key wanted b' b'') :
    Resent key wanted b b'' := by
  obtain ⟨first, hfirst, hexact⟩ := h.copies
  obtain ⟨rest, hrest, hexact'⟩ := h'.copies
  refine ⟨h'.sound, h'.now.trans h.now, h'.sent.trans h.sent, fun j => ?_, first ++ rest, ?_,
    fun r hr => ?_⟩
  · obtain ⟨hvalid, hkey, hbundle, hadded⟩ := h.slots j
    rw [← hvalid, ← hkey, ← hbundle, ← hadded]
    exact h'.slots j
  · rw [hrest, hfirst, List.append_assoc]
  · obtain hmem | hmem := List.mem_append.mp hr
    · exact hexact r hmem
    · have hr' := hexact' r hmem
      rw [h.sent] at hr'
      exact hr'

theorem mark (h : b.Sound) (k nowUs : Nat) : Resent key wanted b (b.retxMark i k nowUs) := by
  refine ⟨h.retxMark k nowUs, rfl, rfl, fun j => ?_, [], (List.append_nil _).symm, nofun⟩
  unfold retxMark
  by_cases hj : j = i
  · rw [hj, setSlot_same]
    exact ⟨rfl, rfl, rfl, rfl⟩
  · rw [setSlot_other _ hj]
    exact ⟨rfl, rfl, rfl, rfl⟩

theorem resend (h : b.Sound) (hv : (b.slots i).valid) (hkey : (b.slots i).key = key) {k : Nat}
    (hk : k < m) (hlen : ((b.slots i).hist k).len ≠ 0)
    (hwanted : wanted ((b.slots i).hist k).seq) : Resent key wanted b (b.retxSend i k) := by
  obtain ⟨sent, hsent, hoctets⟩ := (h.hist i hv).kept k hk hlen
  refine ⟨h.congr rfl rfl, rfl, rfl, fun _ => ⟨rfl, rfl, rfl, rfl⟩, _, rfl, fun r hr => ?_⟩
  rw [List.mem_singleton.mp hr]
  refine ⟨hkey, hwanted, sent, hsent, ?_⟩
  rw [hoctets]

/-- One bundle asked for, that the history has. -/
theorem mark_resend (h : b.Sound) (hv : (b.slots i).valid) (hkey : (b.slots i).key = key)
    {budgetUs nowUs : Nat} {want : BitVec 16} {k : Nat}
    (houtcome : b.retxOutcome i budgetUs nowUs want = .resend k) (hwanted : wanted want) :
    Resent key wanted b ((b.retxMark i k nowUs).retxSend i k) := by
  obtain ⟨hk, hlen, hseq⟩ := retxOutcome_resend houtcome
  have hmark := @mark κ n m b i _ key wanted h k nowUs
  apply hmark.trans
  have hmarked : (((b.retxMark i k nowUs).slots i).hist k).len = ((b.slots i).hist k).len ∧
      (((b.retxMark i k nowUs).slots i).hist k).seq = ((b.slots i).hist k).seq := by
    unfold retxMark
    rw [setSlot_same]
    dsimp only
    rw [Function.update_self]
    exact ⟨rfl, rfl⟩
  apply resend hmark.sound _ _ hk
  · rw [hmarked.1]
    exact hlen
  · rw [hmarked.2, hseq]
    exact hwanted
  · rw [(hmark.slots i).1]
    exact hv
  · rw [(hmark.slots i).2.1]
    exact hkey

end Resent

end WifiTxTable

/-! ### The bridge -/

/-- The outcomes counted so far. -/
def WifiRetxStats.counted (st : WifiRetxStats) : UInt32 :=
  st.retx + st.late + st.spaced + st.evicted + st.noSlot + st.noRoom + st.txFail

namespace WifiBridge

variable {cfg : WifiBundleConfig}

/-- The numbers a NACK for `count` bundles asks for. -/
def Wanted (first : BitVec 16) (count : Nat) (seq : BitVec 16) : Prop :=
  ∃ j < count, seq = first + BitVec.ofNat 16 j

theorem nackLoop_resent {env : WifiNackEnv} {i : Fin 8} {first : BitVec 16} {budgetUs count left : Nat}
    (hleft : left ≤ count) {b : WifiBridge} (h : b.Sound) (hv : (b.slots i).valid) {key : Buf × Buf}
    (hkey : (b.slots i).key = key) :
    WifiTxTable.Resent key (Wanted first count) b (nackLoop env i first budgetUs count left b) := by
  induction left generalizing b with
  | zero => exact WifiTxTable.Resent.refl h
  | succ left ih =>
      have hgo {b'} (hb' : WifiTxTable.Resent key (Wanted first count) b b') :
          WifiTxTable.Resent key (Wanted first count) b
            (nackLoop env i first budgetUs count left b') := by
        apply hb'.trans
        apply ih (by omega) hb'.sound
        · rw [(hb'.slots i).1]
          exact hv
        · rw [(hb'.slots i).2.1]
          exact hkey
      rw [nackLoop]
      cases houtcome : b.retxOutcome i budgetUs (env.nowUs (count - (left + 1)))
        (first + BitVec.ofNat 16 (count - (left + 1))) with
      | evicted => exact hgo (.count h _)
      | late => exact hgo (.count h _)
      | spaced => exact hgo (.count h _)
      | resend k =>
          have hresend : WifiTxTable.Resent key (Wanted first count) b _ :=
            .mark_resend h hv hkey houtcome ⟨count - (left + 1), by omega, rfl⟩
          dsimp only
          by_cases hroom : env.room (count - (left + 1)) = true
          · rw [if_neg (not_not_intro hroom)]
            exact hgo (hresend.trans (.count hresend.sound _))
          · rw [if_pos hroom]
            have hmark : WifiTxTable.Resent key (Wanted first count) b
                (b.retxMark i k (env.nowUs (count - (left + 1)))) := .mark h k _
            exact hmark.trans (.count hmark.sound _)

/-- Every turn of the loop counts one bundle, or all that are left. -/
theorem nackLoop_counted (env : WifiNackEnv) (i : Fin 8) (first : BitVec 16) (budgetUs count left : Nat)
    (b : WifiBridge) :
    (nackLoop env i first budgetUs count left b).stats.requested = b.stats.requested ∧
      (nackLoop env i first budgetUs count left b).stats.counted =
        b.stats.counted + UInt32.ofNat left := by
  induction left generalizing b with
  | zero => exact ⟨rfl, (UInt32.add_zero _).symm⟩
  | succ left ih =>
      have hgo {b' : WifiBridge} (hrequested : b'.stats.requested = b.stats.requested)
          (hcounted : b'.stats.counted = b.stats.counted + 1) :
          (nackLoop env i first budgetUs count left b').stats.requested = b.stats.requested ∧
            (nackLoop env i first budgetUs count left b').stats.counted =
              b.stats.counted + UInt32.ofNat (left + 1) := by
        refine ⟨(ih b').1.trans hrequested, ?_⟩
        rw [(ih b').2, hcounted, UInt32.ofNat_add, UInt32.add_assoc, UInt32.add_comm 1]
        rfl
      rw [nackLoop]
      cases b.retxOutcome i budgetUs (env.nowUs (count - (left + 1)))
        (first + BitVec.ofNat 16 (count - (left + 1))) with
      | evicted =>
          refine hgo rfl ?_
          simp only [WifiTxTable.count, WifiRetxStats.counted]
          ac_rfl
      | late =>
          refine hgo rfl ?_
          simp only [WifiTxTable.count, WifiRetxStats.counted]
          ac_rfl
      | spaced =>
          refine hgo rfl ?_
          simp only [WifiTxTable.count, WifiRetxStats.counted]
          ac_rfl
      | resend k =>
          dsimp only
          by_cases hroom : env.room (count - (left + 1)) = true
          · rw [if_neg (not_not_intro hroom)]
            apply hgo
            · simp only [WifiTxTable.count]
              split_ifs <;> rfl
            · simp only [WifiTxTable.count, WifiRetxStats.counted]
              split_ifs
              · simp only [WifiTxTable.retxSend, WifiTxTable.retxMark, WifiTxTable.setSlot]
                ac_rfl
              · simp only [WifiTxTable.retxSend, WifiTxTable.retxMark, WifiTxTable.setSlot]
                ac_rfl
          · rw [if_pos hroom]
            refine ⟨rfl, ?_⟩
            simp only [WifiTxTable.count, WifiRetxStats.counted, WifiTxTable.retxMark,
              WifiTxTable.setSlot]
            ac_rfl

theorem wifiBundleAdd_retx {env : WifiTxEnv 8} (b : WifiBridge) (frame : Buf) :
    (wifiBundleAdd cfg env b frame).retx = b.retx := by
  by_cases htakes : wifiBundleTakes cfg frame
  · obtain ⟨c, hc⟩ : ∃ c, c = (List.finRange 8).foldl
        (scanSlot env (frame.slice 0 6, frame.slice 22 8)) ⟨b, none, none⟩ := ⟨_, rfl⟩
    have hscan : c.bridge.retx = b.retx := by
      rw [hc]
      generalize List.finRange 8 = seen
      induction seen using List.reverseRecOn with
      | nil => rfl
      | append_singleton seen i ih =>
          rw [List.foldl_append, ← ih]
          generalize seen.foldl _ _ = c
          simp only [List.foldl_cons, List.foldl_nil, scanSlot]
          split_ifs
          all_goals first
            | rfl
            | exact WifiTxTable.send_retx _ _
    have haddTo (b : WifiBridge) (i : Fin 8) : (addTo cfg env b i frame).retx = b.retx := by
      unfold addTo
      dsimp only
      split_ifs
      · rw [WifiTxTable.append_retx, WifiTxTable.send_retx]
      · rw [WifiTxTable.append_retx]
    obtain ⟨i, -, heq⟩ | heq | ⟨i, s, -, heq⟩ := wifiBundleAdd_cases htakes hc
    · rw [heq, haddTo, hscan]
    · rw [heq, hscan]
    · rw [heq, haddTo, WifiTxTable.setSlot_retx, hscan]
  · unfold wifiBundleAdd
    rw [if_pos htakes]

/-- The station and the stream of a NACK. -/
def nackKey (nack : Buf) : Buf × Buf := (nack.slice 6 6, nack.slice 18 8)

theorem wifiNackHandle_resent {b : WifiBridge} (h : b.Sound) (env : WifiNackEnv) (nack : Buf) :
    WifiTxTable.Resent (nackKey nack) (Wanted (nackFirst nack) (nackCount nack)) b
      (wifiNackHandle env b nack) := by
  have hcount (f : WifiRetxStats → WifiRetxStats) : WifiTxTable.Resent (nackKey nack)
      (Wanted (nackFirst nack) (nackCount nack)) b (b.count f) := .count h f
  unfold wifiNackHandle
  dsimp only
  split_ifs
  · cases hfound : (List.finRange 8).find? _ with
    | none => exact (hcount _).trans (.count (hcount _).sound _)
    | some i =>
        have hmatch := List.find?_some hfound
        rw [decide_eq_true_iff] at hmatch
        apply (hcount _).trans
        exact nackLoop_resent le_rfl (hcount _).sound hmatch.1 hmatch.2.2
  · exact (hcount _).trans (.count (hcount _).sound _)

/-- A NACK asks for so many bundles and counts as many outcomes. -/
theorem wifiNackHandle_balanced (env : WifiNackEnv) {b : WifiBridge} (h : b.stats.Balanced)
    (nack : Buf) : (wifiNackHandle env b nack).stats.Balanced := by
  have hasked {st : WifiRetxStats} (hrequested :
      st.requested = b.stats.requested + UInt32.ofNat (nackCount nack))
      (hcounted : st.counted = b.stats.counted + UInt32.ofNat (nackCount nack)) : st.Balanced := by
    have heq : b.stats.requested = b.stats.counted := h
    exact (hrequested.trans (congrArg (· + _) heq)).trans hcounted.symm
  unfold wifiNackHandle
  dsimp only
  split_ifs
  · cases (List.finRange 8).find? _ with
    | none =>
        refine hasked rfl ?_
        simp only [WifiTxTable.count, WifiRetxStats.counted]
        ac_rfl
    | some i =>
        obtain ⟨hrequested, hcounted⟩ := nackLoop_counted env i (nackFirst nack) (nackBudgetUs nack)
          (nackCount nack) (nackCount nack)
          (b.count fun st => { st with requested := st.requested + UInt32.ofNat (nackCount nack) })
        exact hasked hrequested hcounted
  · refine hasked rfl ?_
    simp only [WifiTxTable.count, WifiRetxStats.counted]
    ac_rfl

theorem step_sound {b : WifiBridge} (h : b.Sound) (e : WifiTxEvent 8) :
    WifiTxTable.Sound (wifiBridgeStep cfg b e) ∧ WifiRetxExact nackKey b (wifiBridgeStep cfg b e) e := by
  cases e with
  | frame waitUs env frame =>
      refine ⟨wifiBundleAdd_sound (h.wait waitUs) frame, ?_⟩
      exact congrArg Prod.fst (wifiBundleAdd_retx (b.wait waitUs) frame)
  | nack waitUs env nack =>
      have hresent := wifiNackHandle_resent (h.wait waitUs) env nack
      exact ⟨hresent.sound, hresent.copies⟩
  | poll waitUs => exact ⟨h.wait waitUs, rfl⟩

theorem step_balanced {b : WifiBridge} (h : b.stats.Balanced) (e : WifiTxEvent 8) :
    (wifiBridgeStep cfg b e).stats.Balanced := by
  cases e with
  | frame waitUs env frame =>
      have hstats : (wifiBundleAdd cfg env (b.wait waitUs) frame).stats = b.stats :=
        congrArg Prod.snd (wifiBundleAdd_retx (b.wait waitUs) frame)
      rw [wifiBridgeStep, hstats]
      exact h
  | nack waitUs env nack => exact wifiNackHandle_balanced env (b := b.wait waitUs) h nack
  | poll waitUs => exact h

end WifiBridge

/-! ### A station -/

namespace WifiStation

variable {cfg : WifiBundleConfig}

theorem nackLoop_resent {env : WifiNackEnv} {i : Fin 2} {first : BitVec 16} {budgetUs count left : Nat}
    (hleft : left ≤ count) {b : WifiStation} (h : b.Sound) (hv : (b.slots i).valid) {key : Buf}
    (hkey : (b.slots i).key = key) :
    WifiTxTable.Resent key (WifiBridge.Wanted first count) b
      (nackLoop env i first budgetUs count left b) := by
  induction left generalizing b with
  | zero => exact WifiTxTable.Resent.refl h
  | succ left ih =>
      have hgo {b'} (hb' : WifiTxTable.Resent key (WifiBridge.Wanted first count) b b') :
          WifiTxTable.Resent key (WifiBridge.Wanted first count) b
            (nackLoop env i first budgetUs count left b') := by
        apply hb'.trans
        apply ih (by omega) hb'.sound
        · rw [(hb'.slots i).1]
          exact hv
        · rw [(hb'.slots i).2.1]
          exact hkey
      rw [nackLoop]
      cases houtcome : b.retxOutcome i budgetUs (env.nowUs (count - (left + 1)))
        (first + BitVec.ofNat 16 (count - (left + 1))) with
      | evicted => exact hgo (.count h _)
      | late => exact hgo (.count h _)
      | spaced => exact hgo (.refl h)
      | resend k =>
          have hresend : WifiTxTable.Resent key (WifiBridge.Wanted first count) b _ :=
            .mark_resend h hv hkey houtcome ⟨count - (left + 1), by omega, rfl⟩
          exact hgo (hresend.trans (.count hresend.sound _))

theorem wifiTxBundleAdd_retx {env : WifiTxEnv 2} (b : WifiStation) (frame : Buf) :
    (wifiTxBundleAdd cfg env b frame).retx = b.retx := by
  unfold wifiTxBundleAdd
  by_cases hskip : ¬(frame.getD 12 0 = 0x81 ∧ frame.getD 13 0 = 0x00 ∧ wifiBundleTakes cfg frame) ∨
      ¬env.bufAlloc
  · rw [if_pos hskip]
  rw [if_neg hskip]
  cases hslot : slotFor b (frame.slice 22 8) with
  | none => rfl
  | some found =>
      obtain ⟨i, b'⟩ := found
      have hclaimed : b'.retx = b.retx := by
        unfold slotFor at hslot
        cases hfound : (List.finRange 2).find? fun i =>
            (b.slots i).valid ∧ (b.slots i).key = frame.slice 22 8 with
        | some j =>
            rw [hfound] at hslot
            cases hslot
            rfl
        | none =>
            rw [hfound] at hslot
            obtain ⟨j, -, hj⟩ := Option.map_eq_some_iff.mp hslot
            cases hj
            rfl
      dsimp only
      split_ifs <;>
        simp only [WifiTxTable.append_retx, WifiTxTable.send_retx, WifiTxTable.setSlot_retx, hclaimed]

/-- The stream of a NACK. -/
def nackKey (nack : Buf) : Buf := nack.slice 18 8

theorem wifiTxNackHandle_resent {b : WifiStation} (h : b.Sound) (env : WifiNackEnv) (nack : Buf) :
    WifiTxTable.Resent (nackKey nack) (WifiBridge.Wanted (nackFirst nack) (nackCount nack)) b
      (wifiTxNackHandle env b nack) := by
  unfold wifiTxNackHandle
  dsimp only
  split_ifs
  · cases hfound : (List.finRange 2).find? _ with
    | none => exact .refl h
    | some i =>
        have hmatch := List.find?_some hfound
        rw [decide_eq_true_iff] at hmatch
        exact nackLoop_resent le_rfl h hmatch.1 hmatch.2.2
  · exact .refl h

theorem step_sound {b : WifiStation} (h : b.Sound) (e : WifiTxEvent 2) :
    WifiTxTable.Sound (wifiStationStep cfg b e) ∧
      WifiRetxExact nackKey b (wifiStationStep cfg b e) e := by
  cases e with
  | frame waitUs env frame =>
      refine ⟨wifiTxBundleAdd_sound (h.wait waitUs) frame, ?_⟩
      exact congrArg Prod.fst (wifiTxBundleAdd_retx (b.wait waitUs) frame)
  | nack waitUs env nack =>
      have hresent := wifiTxNackHandle_resent (h.wait waitUs) env nack
      exact ⟨hresent.sound, hresent.copies⟩
  | poll waitUs => exact ⟨h.wait waitUs, rfl⟩

end WifiStation

/-- In every run of either bundler a NACK brings back the bundle last sent with each number, flagged,
and the bridge's counters add up. -/
theorem wifi_retx_exact (cfg : WifiBundleConfig) (bridgeKey : Buf × Buf) (stationKey : Buf)
    (bridgeEvents : List (WifiTxEvent 8)) (stationEvents : List (WifiTxEvent 2)) :
    Machine.RunMeets (fun b e => WifiRetxExact WifiBridge.nackKey b (wifiBridgeStep cfg b e) e ∧
        (wifiBridgeStep cfg b e).stats.Balanced) (wifiBridgeStep cfg) (.blank 8 48 bridgeKey)
        bridgeEvents ∧
      Machine.RunMeets (fun b e => WifiRetxExact WifiStation.nackKey b (wifiStationStep cfg b e) e)
        (wifiStationStep cfg) (.blank 2 10 stationKey) stationEvents := by
  constructor
  · apply Machine.RunMeets.of_invariant fun b : WifiBridge => b.Sound ∧ b.stats.Balanced
    · rintro b e ⟨hsound, hbalanced⟩
      exact ⟨(WifiBridge.step_sound hsound e).1, WifiBridge.step_balanced hbalanced e⟩
    · rintro b e ⟨hsound, hbalanced⟩
      exact ⟨(WifiBridge.step_sound hsound e).2, WifiBridge.step_balanced hbalanced e⟩
    · exact ⟨.blank 8 48 bridgeKey, rfl⟩
  · apply Machine.RunMeets.of_invariant WifiTxTable.Sound
    · exact fun b e hsound => (WifiStation.step_sound hsound e).1
    · exact fun b e hsound => (WifiStation.step_sound hsound e).2
    · exact .blank 2 10 stationKey

end EspAvb
