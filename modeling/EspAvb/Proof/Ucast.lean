import EspAvb.System

/-!
# Unicast re-addressing on the Wi-Fi port

What a lookup finds after a rebuild of the join, and when the station it finds is one that the
registered declarations send the address to.
-/

namespace EspAvb

variable {cfg : Config}

/-! ### The join -/

/-- The row the listener entry in slot `li` of the Wi-Fi port contributes. -/
def ucastRowAt (s : AvbState cfg) (w : cfg.Port) (li : ListenerRef cfg) :
    Option AvbWifiUcastEntry :=
  (s.listeners w li).bind (msrpWifiUcastRow s)

/-- One slot's turn in the join. -/
def ucastStep (s : AvbState cfg) (w : cfg.Port) (next : WifiUcastNext cfg) (li : ListenerRef cfg) :
    WifiUcastNext cfg :=
  match ucastRowAt s w li with
  | none => next
  | some row => next.add row

/-- The join over the slots of `done`: the index leads to the last row with its last octet. -/
structure UcastJoin (s : AvbState cfg) (w : cfg.Port) (done : List (ListenerRef cfg))
    (next : WifiUcastNext cfg) : Prop where
  count : next.n ≤ done.length
  used : ∀ o j, next.idx o = some j → j.val < next.n
  serves : ∀ o, (next.idx o).bind next.ucast
    = done.reverse.findSome? fun li => (ucastRowAt s w li).filter (·.da.last = o)

theorem UcastJoin.add {s : AvbState cfg} {w : cfg.Port} {done : List (ListenerRef cfg)}
    {next : WifiUcastNext cfg} (h : UcastJoin s w done next) {li : ListenerRef cfg}
    {row : AvbWifiUcastEntry} (hrow : ucastRowAt s w li = some row)
    (hroom : done.length < cfg.listenerTableSize) : UcastJoin s w (done ++ [li]) (next.add row) := by
  have hn : next.n < cfg.listenerTableSize := Nat.lt_of_le_of_lt h.count hroom
  rw [WifiUcastNext.add, dif_pos hn]
  constructor
  · have := h.count
    rw [List.length_append, List.length_singleton]
    dsimp only
    omega
  · intro o j hj
    dsimp only at hj ⊢
    rw [Function.update_apply] at hj
    split at hj
    · cases hj
      exact Nat.lt_succ_self next.n
    · exact Nat.lt_succ_of_lt (h.used o j hj)
  · intro o
    rw [List.reverse_append, List.reverse_singleton, List.singleton_append, List.findSome?_cons,
      hrow]
    dsimp only
    by_cases ho : row.da.last = o
    · subst ho
      rw [Function.update_self, Option.bind_some, SlotTable.set_same, Option.filter_some,
        if_pos (by simp)]
    · have hother : next.idx o = none ∨ ∃ j, next.idx o = some j := by
        cases next.idx o with
        | none => exact Or.inl rfl
        | some j => exact Or.inr ⟨j, rfl⟩
      rw [Function.update_of_ne (Ne.symm ho), Option.filter_some, if_neg (by simpa using ho),
        ← h.serves o]
      obtain hnone | ⟨j, hj⟩ := hother
      · rw [hnone]
        rfl
      · have hne : j ≠ ⟨next.n, hn⟩ := Fin.ne_of_val_ne (Nat.ne_of_lt (h.used o j hj))
        rw [hj, Option.bind_some, Option.bind_some, SlotTable.set_other _ _ hne]

theorem ucastJoin_foldl (s : AvbState cfg) (w : cfg.Port) (rest done : List (ListenerRef cfg))
    (hroom : (done ++ rest).length ≤ cfg.listenerTableSize) {next : WifiUcastNext cfg}
    (h : UcastJoin s w done next) :
    UcastJoin s w (done ++ rest) (rest.foldl (ucastStep s w) next) := by
  induction rest generalizing done next with
  | nil => simpa using h
  | cons li rest ih =>
      have hsplit : done ++ li :: rest = (done ++ [li]) ++ rest := by simp
      rw [hsplit] at hroom ⊢
      rw [List.foldl_cons]
      apply ih (done ++ [li]) hroom
      unfold ucastStep
      cases hrow : ucastRowAt s w li with
      | some row =>
          apply h.add hrow
          simp at hroom
          omega
      | none =>
          constructor
          · have := h.count
            simp
            omega
          · exact h.used
          · intro o
            rw [h.serves o]
            simp [hrow]

theorem msrpWifiUcastBuild_join (s : AvbState cfg) (w : cfg.Port) :
    UcastJoin s w (List.finRange cfg.listenerTableSize) (msrpWifiUcastBuild s w) := by
  have hempty : UcastJoin s w []
      { n := 0, ucast := fun _ => none, idx := fun _ => none } := by
    constructor
    · exact Nat.le_refl 0
    · intro o j hj
      cases hj
    · intro o
      rfl
  exact ucastJoin_foldl s w (List.finRange cfg.listenerTableSize) [] (by simp) hempty

/-- What a lookup finds: the last row with the address's last octet, if it is of that address. -/
theorem msrpWifiUcastLookupDa_refresh (s : AvbState cfg) (w : cfg.Port) (da sta : EthAddr) :
    msrpWifiUcastLookupDa (msrpWifiUcastRefresh s (some w)) da = some sta
      ↔ ∃ li row, ucastRowAt s w li = some row ∧ row.da = da ∧ row.sta = sta
        ∧ ∀ lj > li, ∀ row', ucastRowAt s w lj = some row' → row'.da.last ≠ da.last := by
  have hserves := (msrpWifiUcastBuild_join s w).serves da.last
  have hfind : ∀ row, (List.finRange cfg.listenerTableSize).reverse.findSome?
        (fun li => (ucastRowAt s w li).filter (·.da.last = da.last)) = some row
      ↔ ∃ li, ucastRowAt s w li = some row ∧ row.da.last = da.last
        ∧ ∀ lj > li, ∀ row', ucastRowAt s w lj = some row' → row'.da.last ≠ da.last := by
    intro row
    rw [@SlotTable.findSome?_eq_some_iff _ _ (fun a b : ListenerRef cfg => b < a)
      (fun a b => lt_asymm) (List.finRange cfg.listenerTableSize).reverse
      (List.pairwise_reverse.mpr (List.pairwise_lt_finRange _))]
    simp only [List.mem_reverse, List.mem_finRange, true_and, forall_const,
      Option.filter_eq_some_iff, Option.filter_eq_none_iff, decide_eq_true_eq, and_assoc]
  have hlookup : msrpWifiUcastLookupDa (msrpWifiUcastRefresh s (some w)) da = some sta
      ↔ ∃ row, (List.finRange cfg.listenerTableSize).reverse.findSome?
        (fun li => (ucastRowAt s w li).filter (·.da.last = da.last)) = some row
          ∧ row.da = da ∧ row.sta = sta := by
    simp only [msrpWifiUcastLookupDa, msrpWifiUcastRefresh, hserves]
    split
    · rename_i hnone
      simp [hnone]
    · rename_i row hrow
      simp [hrow]
  rw [hlookup]
  constructor
  · rintro ⟨row, hrow, hda, hsta⟩
    obtain ⟨li, hli, -, hlast⟩ := (hfind row).mp hrow
    exact ⟨li, row, hli, hda, hsta, hlast⟩
  · rintro ⟨li, row, hli, hda, hsta, hlast⟩
    exact ⟨row, (hfind row).mpr ⟨li, hli, by rw [hda], hlast⟩, hda, hsta⟩

/-! ### Rows and registered declarations -/

/-- The first talker entry of a stream, in port and slot order. -/
def FirstTalker (s : AvbState cfg) (streamId : UniqueId) (te : MsrpTalkerEntry cfg) : Prop :=
  let isOf (e : MsrpTalkerEntry cfg) : Bool := e.wire.info.streamId = streamId
  ∃ p, (s.talkers p).lookup isOf = some te ∧ ∀ p' < p, (s.talkers p').lookup isOf = none

theorem msrpWifiUcastTalkerDa_eq_some (s : AvbState cfg) (streamId : UniqueId) (da : EthAddr) :
    msrpWifiUcastTalkerDa s streamId = some da
      ↔ ∃ te, FirstTalker s streamId te ∧ te.wire.info.streamDestAddr = da := by
  unfold msrpWifiUcastTalkerDa FirstTalker
  rw [Option.map_eq_some_iff]
  simp only [SlotTable.findSome?_eq_some_iff (fun a b => lt_asymm)
    (List.pairwise_lt_finRange cfg.numPorts), List.mem_finRange, true_and, forall_const]

/-- A listener entry of the Wi-Fi port, and its stream's first talker entry, that make a row. -/
structure UcastServed (s : AvbState cfg) (le : MsrpListenerEntry) (te : MsrpTalkerEntry cfg) :
    Prop where
  wanted : le.peerDecl = .ready ∨ le.peerDecl = .readyFailed
  admitted : ¬ (cfg.roleBridge = true ∧ msrpWifiAdmissionRefused s le.wire.streamId = true)
  located : le.peerMac ≠ .zero 6
  talker : FirstTalker s le.wire.streamId te
  group : te.wire.info.streamDestAddr.isGroup = true

theorem msrpWifiUcastRow_eq_some (s : AvbState cfg) (le : MsrpListenerEntry)
    (row : AvbWifiUcastEntry) :
    msrpWifiUcastRow s le = some row ↔ ∃ te, UcastServed s le te
      ∧ row = ⟨te.wire.info.streamDestAddr, le.peerMac, le.wire.streamId⟩ := by
  unfold msrpWifiUcastRow
  constructor
  · intro h
    split at h
    · cases h
    · rename_i hwanted
      split at h
      · cases h
      · rename_i hadmitted
        split at h
        · cases h
        · rename_i hlocated
          split at h
          · cases h
          · rename_i da hda
            obtain ⟨te, htalker, rfl⟩ := (msrpWifiUcastTalkerDa_eq_some s _ da).mp hda
            split at h
            · rename_i hgroup
              cases h
              refine ⟨te, ⟨?_, hadmitted, hlocated, htalker, hgroup⟩, rfl⟩
              by_contra hnot
              exact hwanted (not_or.mp hnot)
            · cases h
  · rintro ⟨te, hserved, rfl⟩
    have hwanted : ¬ (le.peerDecl ≠ .ready ∧ le.peerDecl ≠ .readyFailed) :=
      fun h => hserved.wanted.elim h.1 h.2
    have hda := (msrpWifiUcastTalkerDa_eq_some s le.wire.streamId _).mpr ⟨te, hserved.talker, rfl⟩
    rw [if_neg hwanted, if_neg hserved.admitted, if_neg hserved.located, hda]
    simp only [hserved.group, if_true]

/-- What keeps a listener declaration alive toward `da`: it is registered, its stream was not
refused, and a registered talker declares `da` for that stream. -/
structure UcastLive (s : AvbState cfg) (le : MsrpListenerEntry) (da : EthAddr) : Prop where
  registered : le.sm.registrar = .IN ∨ le.sm.registrar = .LV
  admitted : msrpWifiAdmissionRefused s le.wire.streamId = false
  talker : ∃ p i te, s.talkers p i = some te ∧ te.wire.info.streamId = le.wire.streamId
    ∧ (te.sm.registrar = .IN ∨ te.sm.registrar = .LV) ∧ te.wire.info.streamDestAddr = da

/-- The station `sta` asks, by a declaration registered on the Wi-Fi port, for a stream whose
registered talker sends to the group address `da`. -/
def UcastWanted (s : AvbState cfg) (w : cfg.Port) (da sta : EthAddr) : Prop :=
  da.isGroup = true ∧ ∃ li le, s.listeners w li = some le ∧ le.peerMac = sta
    ∧ (le.peerDecl = .ready ∨ le.peerDecl = .readyFailed) ∧ UcastLive s le da

/-- The row of slot `li` is in the join and no later row has its last octet. -/
def UcastInForce (s : AvbState cfg) (w : cfg.Port) (li : ListenerRef cfg) (le : MsrpListenerEntry)
    (te : MsrpTalkerEntry cfg) : Prop :=
  s.listeners w li = some le ∧ UcastServed s le te
    ∧ ∀ lj > li, ∀ le' te', s.listeners w lj = some le' → UcastServed s le' te' →
      te'.wire.info.streamDestAddr.last ≠ te.wire.info.streamDestAddr.last

theorem lookupDa_refresh_iff_inForce (s : AvbState cfg) (w : cfg.Port) (da sta : EthAddr) :
    msrpWifiUcastLookupDa (msrpWifiUcastRefresh s (some w)) da = some sta
      ↔ ∃ li le te, UcastInForce s w li le te ∧ te.wire.info.streamDestAddr = da
        ∧ le.peerMac = sta := by
  have hrow : ∀ li row, ucastRowAt s w li = some row ↔ ∃ le, s.listeners w li = some le
      ∧ ∃ te, UcastServed s le te
        ∧ row = ⟨te.wire.info.streamDestAddr, le.peerMac, le.wire.streamId⟩ := by
    intro li row
    rw [ucastRowAt, Option.bind_eq_some_iff]
    simp only [msrpWifiUcastRow_eq_some]
  rw [msrpWifiUcastLookupDa_refresh]
  constructor
  · rintro ⟨li, row, hli, hda, hsta, hlast⟩
    obtain ⟨le, hle, te, hserved, rfl⟩ := (hrow li row).mp hli
    refine ⟨li, le, te, ⟨hle, hserved, ?_⟩, hda, hsta⟩
    intro lj hlt le' te' hle' hserved'
    have hne := hlast lj hlt _ ((hrow lj _).mpr ⟨le', hle', te', hserved', rfl⟩)
    rwa [← hda] at hne
  · rintro ⟨li, le, te, ⟨hle, hserved, hlast⟩, hda, hsta⟩
    refine ⟨li, _, (hrow li _).mpr ⟨le, hle, te, hserved, rfl⟩, hda, hsta, ?_⟩
    intro lj hlt row' hlj
    obtain ⟨le', hle', te', hserved', rfl⟩ := (hrow lj row').mp hlj
    rw [← hda]
    exact hlast lj hlt le' te' hle' hserved'

/-- **Soundness of re-addressing.** After a refresh every station found is one that a registered
declaration sends the address to, exactly when each row in force is of a live declaration or of a
station that wants the same address by another one. The join asks neither the listener entry nor the
talker entry for its Registrar, so that a declaration that has left goes on serving. -/
theorem ucast_refresh_sound_iff (s : AvbState cfg) (w : cfg.Port) :
    (∀ da sta, msrpWifiUcastLookupDa (msrpWifiUcastRefresh s (some w)) da = some sta →
        UcastWanted s w da sta)
      ↔ ∀ li le te, UcastInForce s w li le te →
        UcastLive s le te.wire.info.streamDestAddr
          ∨ ∃ lj ≠ li, ∃ le', s.listeners w lj = some le' ∧ le'.peerMac = le.peerMac
            ∧ (le'.peerDecl = .ready ∨ le'.peerDecl = .readyFailed)
            ∧ UcastLive s le' te.wire.info.streamDestAddr := by
  constructor
  · intro hsound li le te hforce
    have hfound := (lookupDa_refresh_iff_inForce s w _ _).mpr ⟨li, le, te, hforce, rfl, rfl⟩
    obtain ⟨-, lj, le', hle', hmac, hwanted, hlive⟩ := hsound _ _ hfound
    by_cases hj : lj = li
    · subst hj
      left
      obtain rfl : le = le' := Option.some.inj (hforce.1.symm.trans hle')
      exact hlive
    · exact Or.inr ⟨lj, hj, le', hle', hmac, hwanted, hlive⟩
  · intro hbacked da sta hfound
    obtain ⟨li, le, te, hforce, rfl, rfl⟩ := (lookupDa_refresh_iff_inForce s w da sta).mp hfound
    refine ⟨hforce.2.1.group, ?_⟩
    obtain hlive | ⟨lj, -, le', hle', hmac, hwanted, hlive⟩ := hbacked li le te hforce
    · exact ⟨li, le, hforce.1, rfl, hforce.2.1.wanted, hlive⟩
    · exact ⟨lj, le', hle', hmac, hwanted, hlive⟩

/-- A bridge of a gigabit Ethernet port and an access point with unicast streams. -/
def wifiBridge : Config :=
  { wiredBridge 2 with
    wifiUnicastStreams := true
    port := fun p =>
      if p.val = 0 then
        { medium := .ethHwts, type := .bridged, wifiMode := .none, linkSpeedMbps := 1000 }
      else { medium := .wifiFtm, type := .bridged, wifiMode := .ap, linkSpeedMbps := 100 } }

/-- A Class B talker on the wire and a station that joins it, leaves it, and is gone a LeaveTime
later; then the talker refreshes. -/
def stationLeavesRun : List (AvbEvent wifiBridge) :=
  let wired : wifiBridge.Port := ⟨0, Nat.two_pos⟩
  let wifi : wifiBridge.Port := ⟨1, Nat.one_lt_two⟩
  let info : TalkerAdvInfo :=
    { TalkerAdvInfo.zero with
      streamId := .ofNat 8 1
      streamDestAddr := .ofNat 6 0x91e0f0000001
      tspecMaxFrameSize := .ofNat 2 64
      tspecMaxFrameInterval := .ofNat 2 1
      priority := 2 }
  let talker : MsrpDispatch :=
    .talker .talkerAdvertise
      { MsrpTalkerMessage.zero with info, event := intTo3pe 3 0 0 }
  [.receive wired (some (.ofNat 6 0x0a)) talker,
    .receive wifi (some (.ofNat 6 0x0c)) (listenerValue (.ofNat 8 1) 3 .ready),
    .receive wifi (some (.ofNat 6 0x0c)) (listenerValue (.ofNat 8 1) 5 .ready),
    .elapse 2000000, .leaveTimers wifi,
    .receive wired (some (.ofNat 6 0x0a)) talker]

/-- The station is still sent a stream that it left. -/
theorem left_station_still_served :
    let s := avbRun false stationLeavesRun
    let da : EthAddr := .ofNat 6 0x91e0f0000001
    let sta : EthAddr := .ofNat 6 0x0c
    msrpWifiUcastLookupDa (msrpWifiUcastRefresh s (some (1 : Fin 2))) da = some sta
      ∧ ¬ UcastWanted s (1 : Fin 2) da sta := by
  constructor
  · decide +kernel
  · rintro ⟨-, li, le, hle, -, -, hlive⟩
    have hgone : ∀ li, ((avbRun false stationLeavesRun).listeners (1 : Fin 2) li).all
        (fun le => le.sm.registrar = .MT) = true := by decide +kernel
    have hmt := hgone li
    rw [hle, Option.all_some, decide_eq_true_eq] at hmt
    obtain h | h := hlive.registered
    · rw [hmt] at h
      cases h
    · rw [hmt] at h
      cases h

end EspAvb
