import EspAvb.Proof.BridgeRx
import EspAvb.Proof.StationPacer
import EspAvb.Proof.Ucast

/-!
# ACMP toward the stations

The bridge learns from the ADP frames of the Wi-Fi side which station runs which entity, in a table
of leases, and follows every group addressed ACMP message toward the Wi-Fi side with a copy to the
station of the entity it is for. In any run a copy goes where the entity's last ADP frame says, and as
long as the entities heard of at any time fit the table, a copy goes out whenever that frame still
stands.
-/

namespace EspAvb

open LeaseTable

namespace BridgeRx

variable {cfg : Config}

/-- What a frame heard on the Wi-Fi side announces. -/
def adpOf? (heardUs : Nat) (frame : Buf) : Option (Notice UniqueId EthAddr) :=
  if frame.isAdp then adpNotice? heardUs frame else none

def notices (s : BridgeRx cfg) : List (Notice UniqueId EthAddr) :=
  s.fromWifi.filterMap fun heard => adpOf? heard.1 heard.2

def copy? : WifiTx → Option Buf
  | .copy octets => some octets
  | _ => none

/-- The copies given to the Wi-Fi driver. -/
def copies (s : BridgeRx cfg) : List Buf := s.toWifi.filterMap copy?

/-- The station that the notices heard so far name for an ACMP frame. -/
def acmpStation? (s : BridgeRx cfg) (frame : Buf) : Option EthAddr :=
  if frame.isGroupAcmp then (acmpTargetEntityId frame).bind (standing s.notices s.nowUs) else none

/-- An announcement finds room: with it, no more entities are announced than the table has rows. -/
def HasRoom (s : BridgeRx cfg) : BridgeEvent cfg → Prop
  | .wifi frame _ => ∀ notice ∈ adpOf? s.nowUs frame,
      (insert notice.key (standingKeys s.notices s.nowUs)).card ≤ avbWifiEntityTableSize
  | _ => True

instance HasRoom.decidable (s : BridgeRx cfg) (e : BridgeEvent cfg) : Decidable (s.HasRoom e) :=
  match e with
  | .wifi frame _ => inferInstanceAs (Decidable (∀ notice ∈ adpOf? s.nowUs frame, _ ≤ _))
  | .mrp _ | .emac _ _ _ | .pass _ | .forward _ | .task _ | .alarm | .recvCtrl =>
      inferInstanceAs (Decidable True)

theorem passes_of_avtp {frame : Buf} (hlen : ethHeaderLen ≤ frame.length)
    (havtp : frame.etherType = etherTypeAvtp) :
    frame.passes = true ∧ frame.etherType ≠ etherTypeVlan := by
  have hnot : frame.etherType ≠ etherTypeVlan := by
    rw [havtp]
    decide
  refine ⟨?_, hnot⟩
  have huntag : untagPtp frame = frame := by
    rw [untagPtp, if_neg fun htag => hnot htag.1]
  rw [Buf.passes, huntag, Buf.terminated, havtp, decide_eq_true hlen]
  rfl

theorem passes_of_isAdp {frame : Buf} (h : frame.isAdp = true) :
    frame.passes = true ∧ frame.etherType ≠ etherTypeVlan := by
  rw [Buf.isAdp, Bool.and_eq_true, Bool.and_eq_true] at h
  have hlen : ethHeaderLen < frame.length := of_decide_eq_true h.1.1
  exact passes_of_avtp hlen.le (of_decide_eq_true h.1.2)

theorem passes_of_isGroupAcmp {frame : Buf} (h : frame.isGroupAcmp = true) :
    frame.passes = true ∧ frame.etherType ≠ etherTypeVlan := by
  rw [Buf.isGroupAcmp, Bool.and_eq_true, Bool.and_eq_true, Bool.and_eq_true] at h
  have hlen : ethHeaderLen + acmpMessageLen ≤ frame.length := of_decide_eq_true h.1.1.1
  exact passes_of_avtp (Nat.le_of_add_right_le hlen) (of_decide_eq_true h.1.1.2)

/-- What a step leaves of the table, the frames heard and the clock. -/
structure Heard (s s' : BridgeRx cfg) : Prop where
  entities : s'.entities = s.entities
  fromWifi : s'.fromWifi = s.fromWifi
  clock : s.nowUs ≤ s'.nowUs
  copies : s'.copies = s.copies

theorem Heard.trans {s s' s'' : BridgeRx cfg} (h : Heard s s') (h' : Heard s' s'') : Heard s s'' where
  entities := h'.entities.trans h.entities
  fromWifi := h'.fromWifi.trans h.fromWifi
  clock := h.clock.trans h'.clock
  copies := h'.copies.trans h.copies

theorem heard_forward (s : BridgeRx cfg) (egressPort : Nat) (frame : Buf) :
    Heard s (s.avbBridgeForward egressPort frame) := by
  rw [avbBridgeForward]
  split
  · split
    · exact ⟨rfl, rfl, le_rfl, rfl⟩
    · refine ⟨rfl, rfl, le_rfl, ?_⟩
      rw [copies, List.filterMap_append]
      exact List.append_nil _
  · exact ⟨rfl, rfl, le_rfl, rfl⟩

theorem heard_foldl (paced : List PacedFrame) (s : BridgeRx cfg) :
    Heard s (paced.foldl (fun s paced => s.avbBridgeForward paced.egressPort paced.octets) s) := by
  induction paced generalizing s with
  | nil => exact ⟨rfl, rfl, le_rfl, rfl⟩
  | cons frame paced ih => exact (heard_forward s frame.egressPort frame.octets).trans (ih _)

theorem arrive_clockUs (s : StationPacers) (octets : List UInt8) (egressPort : Nat)
    (maxIntervalFrames : Option Nat) (up : Bool) :
    (s.arrive octets egressPort maxIntervalFrames up).clockUs = s.clockUs := by
  unfold StationPacers.arrive
  split
  · split
    · simp only
      split <;> rfl
    · rfl
  · rfl

theorem pacerStep_clockUs (s : StationPacers) (e : PacerEvent) :
    s.clockUs ≤ (pacerStep s e).clockUs := by
  cases e with
  | pass us => exact Nat.le_add_right _ _
  | arrive octets egressPort maxIntervalFrames up => exact (arrive_clockUs ..).ge
  | forward ok =>
      simp only [pacerStep, StationPacers.forwardStep]
      split
      · exact le_rfl
      · simp only [StationPacers.lookupStep]
        split
        · exact le_rfl
        · split
          · split <;> exact le_rfl
          · exact le_rfl
      · exact le_rfl
      · simp only [StationPacers.offerStep]
        split
        · exact le_rfl
        · split
          · exact le_rfl
          · split <;> exact le_rfl
      · exact le_rfl
      · exact le_rfl
      · exact le_rfl
      · exact le_rfl
      · exact (s.drainStep_accepted ok _).2.2.2.ge
  | task armed =>
      simp only [pacerStep, StationPacers.taskStep]
      split
      · split <;> exact le_rfl
      · exact (s.drainStep_accepted armed _).2.2.2.ge
  | alarm =>
      simp only [pacerStep, StationPacers.alarm]
      split
      · split <;> exact le_rfl
      · exact le_rfl

theorem heard_pacer (s : BridgeRx cfg) (e : PacerEvent) : Heard s (s.pacer e) := by
  have hstep : Heard s { s with pacers := pacerStep s.pacers e } :=
    ⟨rfl, rfl, pacerStep_clockUs s.pacers e, rfl⟩
  have hsent := hstep.trans (heard_foldl ((pacerStep s.pacers e).transmitted.drop
    s.pacers.transmitted.length) _)
  unfold pacer
  dsimp only
  split
  · exact hsent
  · split
    · have hhand : ∀ s' : BridgeRx cfg, Heard s' { s' with hand := none } :=
        fun _ => ⟨rfl, rfl, le_rfl, rfl⟩
      split
      · exact (hsent.trans (hhand _)).trans (heard_forward _ _ _)
      · exact hsent.trans (hhand _)
    · exact hsent

theorem heard_offer (s : BridgeRx cfg) (egressPort : Nat) (frame : Buf) (up : Bool) :
    Heard s (s.offer egressPort frame up) := by
  have harrive : Heard s
      { s with pacers := s.pacers.arrive frame egressPort (s.stationTspec frame) up } :=
    ⟨rfl, rfl, (arrive_clockUs ..).ge, rfl⟩
  rw [offer]
  dsimp only
  split
  · exact harrive.trans (heard_forward _ _ _)
  · exact harrive.trans ⟨rfl, rfl, le_rfl, rfl⟩

/-- A group addressed ACMP message goes out first, and then its copy. -/
theorem emac_groupAcmp (h : cfg.TwoPorts) (s : BridgeRx cfg) {frame : Buf}
    (hacmp : frame.isGroupAcmp = true) (room bundled : Bool) :
    (bridgeStep s (.emac frame room bundled)).toWifi =
      s.toWifi ++ [.frame frame] ++ ((s.acmpCopy? frame).map WifiTx.copy).toList := by
  simp only [bridgeStep]
  set t : BridgeRx cfg := { s with fromEth := s.fromEth ++ [frame] } with ht
  obtain ⟨hpasses, htype⟩ := passes_of_isGroupAcmp hacmp
  rcases t.receive_eth h frame room bundled with ⟨hnot, -⟩ | ⟨-, htag, -⟩ | ⟨-, -, heq⟩
  · rcases hnot with hnot | htag
    · rw [hpasses] at hnot
      cases hnot
    · exact absurd htag htype
  · exact absurd htag htype
  · rw [heq]
    rfl

theorem emac_heard (h : cfg.TwoPorts) (s : BridgeRx cfg) (frame : Buf) (room bundled : Bool) :
    let s' := bridgeStep s (.emac frame room bundled)
    s'.entities = s.entities ∧ s'.fromWifi = s.fromWifi ∧ s'.nowUs = s.nowUs ∧
      s'.copies = s.copies ++ (s.acmpCopy? frame).toList := by
  simp only [bridgeStep]
  set t : BridgeRx cfg := { s with fromEth := s.fromEth ++ [frame] } with ht
  have hnocopy : frame.passes = false ∨ frame.etherType = etherTypeVlan →
      s.acmpCopy? frame = none := by
    intro hnot
    rw [acmpCopy?]
    cases hacmp : frame.isGroupAcmp with
    | false => rfl
    | true =>
        obtain ⟨hpasses, htype⟩ := passes_of_isGroupAcmp hacmp
        rcases hnot with hnot | htag
        · rw [hpasses] at hnot
          cases hnot
        · exact absurd htag htype
  rcases t.receive_eth h frame room bundled with ⟨hnot, ctrlRx, heq⟩ |
    ⟨-, htag, -, image, -, heq | heq⟩ | ⟨-, -, heq⟩
  · rw [heq, hnocopy hnot]
    exact ⟨rfl, rfl, rfl, (List.append_nil _).symm⟩
  · rw [heq, hnocopy (.inr htag), copies, List.filterMap_append]
    exact ⟨rfl, rfl, rfl, rfl⟩
  · rw [heq, hnocopy (.inr htag), copies, List.filterMap_append]
    exact ⟨rfl, rfl, rfl, rfl⟩
  · rw [heq, copies, List.filterMap_append, List.filterMap_append]
    refine ⟨rfl, rfl, rfl, ?_⟩
    have hsame : t.acmpCopy? frame = s.acmpCopy? frame := rfl
    have hframe : List.filterMap copy? t.toWifi ++ List.filterMap copy? [.frame frame] =
        s.copies := List.append_nil _
    rw [hsame, hframe]
    cases s.acmpCopy? frame <;> rfl

/-- Only a frame of the Wi-Fi side is learned from, and only a frame of the Ethernet side is
copied. -/
theorem bridgeStep_heard (h : cfg.TwoPorts) (s : BridgeRx cfg) (e : BridgeEvent cfg) :
    Heard s (bridgeStep s e) ∨
    (∃ frame up, e = .wifi frame up ∧ (bridgeStep s e).entities = s.heard frame ∧
      (bridgeStep s e).fromWifi = s.fromWifi ++ [(s.nowUs, frame)] ∧
      s.nowUs ≤ (bridgeStep s e).nowUs ∧ (bridgeStep s e).copies = s.copies) ∨
    ∃ frame room bundled, e = .emac frame room bundled ∧ (bridgeStep s e).entities = s.entities ∧
      (bridgeStep s e).fromWifi = s.fromWifi ∧ (bridgeStep s e).nowUs = s.nowUs ∧
      (bridgeStep s e).copies = s.copies ++ (s.acmpCopy? frame).toList := by
  cases e with
  | mrp next => exact .inl ⟨rfl, rfl, le_rfl, rfl⟩
  | recvCtrl => exact .inl ⟨rfl, rfl, le_rfl, rfl⟩
  | pass us => exact .inl (heard_pacer s _)
  | forward ok => exact .inl (heard_pacer s _)
  | task armed => exact .inl (heard_pacer s _)
  | alarm => exact .inl (heard_pacer s _)
  | wifi frame up =>
      rw [bridgeStep]
      split
      · right; left
        refine ⟨frame, up, rfl, ?_⟩
        set t : BridgeRx cfg := { s with fromWifi := s.fromWifi ++ [(s.nowUs, frame)] } with ht
        have hunheard : frame.passes = false ∨ frame.etherType = etherTypeVlan →
            s.heard frame = s.entities := by
          intro hnot
          rw [heard]
          cases hadp : frame.isAdp with
          | false => rfl
          | true =>
              obtain ⟨hpasses, htype⟩ := passes_of_isAdp hadp
              rcases hnot with hnot | htag
              · rw [hpasses] at hnot
                cases hnot
              · exact absurd htag htype
        rcases t.receive_wifi h frame up with ⟨hnot, ctrlRx, heq⟩ | ⟨-, htag, heq⟩ | ⟨-, -, heq⟩
        · rw [heq]
          exact ⟨(hunheard (.inl hnot)).symm, rfl, le_rfl, rfl⟩
        · obtain ⟨hentities, hfrom, hclock, hcopies⟩ := heard_offer t 0 (t.restored frame) up
          rw [heq]
          exact ⟨hentities.trans (hunheard (.inr htag)).symm, hfrom, hclock, hcopies⟩
        · rw [heq]
          exact ⟨rfl, rfl, le_rfl, rfl⟩
      · exact .inl ⟨rfl, rfl, le_rfl, rfl⟩
  | emac frame room bundled => exact .inr (.inr ⟨frame, room, bundled, rfl, emac_heard h s ..⟩)

/-! ## Runs -/

/-- The table says what was heard. -/
def Sound (s : BridgeRx cfg) : Prop := Faithful s.entities s.notices

/-- It says all of it that stands. -/
def Complete (s : BridgeRx cfg) : Prop := Sound s ∧ Covers s.entities s.notices s.nowUs

theorem notices_append {s s' : BridgeRx cfg} {frame : Buf}
    (h : s'.fromWifi = s.fromWifi ++ [(s.nowUs, frame)]) :
    s'.notices = s.notices ++ (adpOf? s.nowUs frame).toList := by
  rw [notices, h, List.filterMap_append]
  cases hadp : adpOf? s.nowUs frame <;> simp [notices, hadp]

/-- What is heard is what the frame announces. -/
theorem heard_eq (s : BridgeRx cfg) (frame : Buf) :
    s.heard frame = (adpOf? s.nowUs frame).elim s.entities (note s.entities) := by
  rw [heard, adpOf?]
  split
  · rw [avbWifiEntityLearn]
    cases adpNotice? s.nowUs frame <;> rfl
  · rfl

theorem Sound.step (h : cfg.TwoPorts) {s : BridgeRx cfg} (hsound : s.Sound) (e : BridgeEvent cfg) :
    (bridgeStep s e).Sound := by
  rw [Sound] at hsound ⊢
  rcases bridgeStep_heard h s e with hheard | ⟨frame, up, -, hentities, hfrom, -, -⟩ |
    ⟨frame, room, bundled, -, hentities, hfrom, -, -⟩
  · rw [notices, hheard.entities, hheard.fromWifi]
    exact hsound
  · rw [hentities, notices_append hfrom, heard_eq]
    cases adpOf? s.nowUs frame with
    | none => rwa [Option.toList_none, List.append_nil]
    | some notice => exact hsound.note notice
  · rw [notices, hentities, hfrom]
    exact hsound

theorem Complete.step (h : cfg.TwoPorts) {s : BridgeRx cfg} (hcomplete : s.Complete)
    (e : BridgeEvent cfg) (hroom : s.HasRoom e) : (bridgeStep s e).Complete := by
  obtain ⟨hsound, hcovers⟩ := hcomplete
  refine ⟨hsound.step h e, ?_⟩
  rcases bridgeStep_heard h s e with hheard | ⟨frame, up, rfl, hentities, hfrom, hclock, -⟩ |
    ⟨frame, room, bundled, -, hentities, hfrom, hclock, -⟩
  · rw [notices, hheard.entities, hheard.fromWifi]
    exact hcovers.mono hheard.clock
  · refine Covers.mono ?_ hclock
    rw [hentities, notices_append hfrom, heard_eq]
    cases hadp : adpOf? s.nowUs frame with
    | none => rwa [Option.toList_none, List.append_nil]
    | some notice => exact hcovers.note hsound notice fun _ => hroom notice hadp
  · rw [notices, hentities, hfrom, hclock]
    exact hcovers

theorem sound_init (lite : Bool) : (init cfg lite).Sound := Faithful.free fun _ => rfl

theorem complete_init (lite : Bool) : (init cfg lite).Complete := by
  refine ⟨sound_init lite, ?_⟩
  intro entity hstands
  obtain ⟨value, expires, hsaid, -⟩ := mem_standingKeys.mp hstands
  cases hsaid

theorem acmpCopy?_sound {s : BridgeRx cfg} (h : s.Sound) {frame copy : Buf}
    (hcopy : s.acmpCopy? frame = some copy) :
    ∃ station, s.acmpStation? frame = some station ∧ copy = frame.readdress station := by
  rw [acmpCopy?] at hcopy
  rw [acmpStation?]
  split at hcopy
  · rename_i hacmp
    obtain ⟨station, hstation, rfl⟩ := Option.map_eq_some_iff.mp hcopy
    obtain ⟨entity, hentity, hread⟩ := Option.bind_eq_some_iff.mp hstation
    refine ⟨station, ?_, rfl⟩
    rw [if_pos hacmp, hentity]
    exact Faithful.read?_sound h hread
  · cases hcopy

theorem acmpCopy?_complete {s : BridgeRx cfg} (h : s.Complete) (frame : Buf) :
    s.acmpCopy? frame = (s.acmpStation? frame).map frame.readdress := by
  obtain ⟨hsound, hcovers⟩ := h
  rw [acmpCopy?, acmpStation?]
  split
  · have hread : avbWifiEntityStation s.entities s.nowUs = standing s.notices s.nowUs := by
      funext entity
      exact hcovers.read?_eq hsound entity
    rw [hread]
  · rfl

end BridgeRx

open BridgeRx in
/-- In any run of the bridge, a copy of an ACMP message goes to the station that the last ADP frame
heard from its entity names, while that frame still stands; and where every announcement has found
room, a group addressed message goes out with its copy whenever there is such a station. -/
theorem acmp_copies_follow_adp {cfg : Config} (h : cfg.TwoPorts) (lite : Bool)
    (events : List (BridgeEvent cfg)) (e : BridgeEvent cfg) :
    let s := Machine.run bridgeStep (init cfg lite) events
    (∃ added, (bridgeStep s e).copies = s.copies ++ added ∧ ∀ copy ∈ added,
      ∃ frame room bundled station, e = .emac frame room bundled ∧
        s.acmpStation? frame = some station ∧ copy = frame.readdress station) ∧
    (Machine.RunMeets HasRoom bridgeStep (init cfg lite) events →
      ∀ frame room bundled, frame.isGroupAcmp = true → e = .emac frame room bundled →
        (bridgeStep s e).toWifi = s.toWifi ++ [.frame frame] ++
          ((s.acmpStation? frame).map fun station => .copy (frame.readdress station)).toList) := by
  intro s
  have hsound : s.Sound :=
    Machine.run_invariant Sound (fun s e hs => hs.step h e) (sound_init lite) events
  constructor
  · rcases bridgeStep_heard h s e with hheard | ⟨-, -, -, -, -, -, hcopies⟩ |
      ⟨frame, room, bundled, rfl, -, -, -, hcopies⟩
    · exact ⟨[], by rw [hheard.copies, List.append_nil], fun _ hmem => by cases hmem⟩
    · exact ⟨[], by rw [hcopies, List.append_nil], fun _ hmem => by cases hmem⟩
    · refine ⟨_, hcopies, ?_⟩
      intro copy hmem
      obtain ⟨station, hstation, hcopy⟩ := acmpCopy?_sound hsound (Option.mem_toList.mp hmem)
      exact ⟨frame, room, bundled, station, rfl, hstation, hcopy⟩
  · intro hroom frame room bundled hacmp he
    have hcomplete : s.Complete :=
      hroom.invariant Complete (fun s e he hs => hs.step h e he) (complete_init lite)
    rw [he, emac_groupAcmp h s hacmp, acmpCopy?_complete hcomplete, Option.map_map]
    rfl

theorem wifiBridge_twoPorts : wifiBridge.TwoPorts where
  numPorts := rfl
  eth _ hp := congrArg AvbPort.medium (if_pos hp)
  wifi _ hp := congrArg AvbPort.medium (if_neg (by omega))

/-- ENTITY_AVAILABLE, valid for 62 s. -/
def adpAvailable (station : EthAddr) (entityId : UniqueId) : Buf :=
  [0x91, 0xe0, 0xf0, 0x01, 0x00, 0x00] ++ station.bytes ++ [0x22, 0xf0, 0xfa, 0x00, 0xf8, 0x38] ++
    entityId.bytes ++ List.replicate 56 0

/-- CONNECT_RX_COMMAND -/
def acmpConnectRx (listener : UniqueId) : Buf :=
  [0x91, 0xe0, 0xf0, 0x01, 0x00, 0x00, 0x02, 0, 0, 0, 0, 0x0a, 0x22, 0xf0, 0xfc, 0x06, 0x00, 0x2c] ++
    List.replicate 24 0 ++ listener.bytes ++ List.replicate 20 0

/-- Some 60 seconds after it spoke, an entity still gets its own copy. -/
theorem acmp_copies_follow_adp_minute :
    let events : List (BridgeEvent wifiBridge) :=
      [.pass 1, .wifi (adpAvailable (.ofNat 6 0x0c) (.ofNat 8 7)) true, .pass 60000000]
    let s := Machine.run bridgeStep (BridgeRx.init wifiBridge false) events
    (bridgeStep s (.emac (acmpConnectRx (.ofNat 8 7)) true false)).toWifi =
      [.frame (acmpConnectRx (.ofNat 8 7)),
        .copy ((acmpConnectRx (.ofNat 8 7)).readdress (.ofNat 6 0x0c))] := by
  intro events s
  have hroom : Machine.RunMeets BridgeRx.HasRoom bridgeStep (BridgeRx.init wifiBridge false) events := by
    decide +kernel
  have hstation : s.acmpStation? (acmpConnectRx (.ofNat 8 7)) = some (.ofNat 6 0x0c) := by
    decide +kernel
  have hnone : s.toWifi = [] := by decide +kernel
  have hsent := (acmp_copies_follow_adp wifiBridge_twoPorts false events
    (.emac (acmpConnectRx (.ofNat 8 7)) true false)).2 hroom _ _ _ (by decide +kernel) rfl
  rw [hsent, hstation, hnone]
  rfl

end EspAvb
