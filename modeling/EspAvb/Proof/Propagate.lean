import EspAvb.System

/-!
# What listener propagation leaves on the other ports

`msrp_propagate_listener` visits each bridged port once. Until a port's turn its table is untouched
and the merge for it does not move; its turn declares or withdraws; afterwards nothing touches it
again. So the outcome on a port is decided by the state the callback started from.
-/

namespace EspAvb

variable {cfg : Config}

/-! ### One declaration, one withdrawal -/

theorem mrpListenerDeclare_wire (s : AvbState cfg) (decl : MsrpListenerEvent)
    (e : MsrpListenerEntry) : (mrpListenerDeclare s decl e).wire = e.wire := by
  simp only [mrpListenerDeclare]
  split
  · rfl
  · split <;> rfl

theorem mrpListenerDeclare_peerDecl (s : AvbState cfg) (decl : MsrpListenerEvent)
    (e : MsrpListenerEntry) : (mrpListenerDeclare s decl e).peerDecl = e.peerDecl := by
  simp only [mrpListenerDeclare]
  split
  · rfl
  · split <;> rfl

theorem mrpListenerDeclare_registrar (s : AvbState cfg) (decl : MsrpListenerEvent)
    (e : MsrpListenerEntry) : (mrpListenerDeclare s decl e).sm.registrar = e.sm.registrar := by
  simp only [mrpListenerDeclare]
  split
  · rfl
  · split <;> rfl

theorem mrpListenerDeclare_declEvent (s : AvbState cfg) (decl : MsrpListenerEvent)
    (e : MsrpListenerEntry) : (mrpListenerDeclare s decl e).declEvent = decl := by
  simp only [mrpListenerDeclare]
  split
  · rfl
  · split <;> rfl

theorem applicantNext_new_declaring (a : MrpApplicantState) :
    mrpApplicantDeclaring (mrpApplicantNext a .new) = true := rfl

theorem applicantNext_declareEvent_declaring (sm : MrpSm) :
    mrpApplicantDeclaring (mrpApplicantNext sm.applicant (mrpDeclareEvent sm)) = true := by
  cases h : sm.applicant <;> simp [mrpDeclareEvent, h, mrpApplicantNext, mrpApplicantDeclaring]

/-- Whatever state the Applicant was in, a declared listener is being declared. -/
theorem mrpListenerDeclare_declaring (s : AvbState cfg) (decl : MsrpListenerEvent)
    (e : MsrpListenerEntry) :
    mrpApplicantDeclaring (mrpListenerDeclare s decl e).sm.applicant = true := by
  simp only [mrpListenerDeclare]
  split
  · rfl
  · split
    · rfl
    · simp only [mrpApplicantStep_applicant, mrpListenerDeclareEvent]
      split
      · exact applicantNext_new_declaring _
      · exact applicantNext_declareEvent_declaring _

/-- Whatever state the Applicant was in, a withdrawn listener is not being declared. -/
theorem mrpWithdrawStep_not_declaring (lite : Bool) (sm : MrpSm) :
    mrpApplicantDeclaring (mrpWithdrawStep lite sm).applicant = false := by
  unfold mrpWithdrawStep
  dsimp only
  split
  · rfl
  · cases h : sm.applicant <;> simp [mrpApplicantNext, h, mrpApplicantDeclaring]

/-! ### Where a declaration lands -/

theorem listenerAt_match {s : AvbState cfg} {p : cfg.Port} {streamId : UniqueId}
    {e : MsrpListenerEntry} (h : listenerAt s p streamId = some e) : e.wire.streamId = streamId := by
  obtain ⟨i, -, -, hq⟩ := SlotTable.lookup_eq_some h
  exact listenerIs_iff.mp hq

/-- The three things a declaration can do: rewrite the stream's entry, insert one or, with no room,
nothing. -/
theorem mrpDeclareListener_outcome (s : AvbState cfg) (p : cfg.Port) (streamId : UniqueId)
    (decl : MsrpListenerEvent) :
    (∃ i e, msrpListenerFind s p streamId = some i ∧ s.listeners p i = some e
        ∧ mrpDeclareListener s p streamId decl
            = s.setListener p i (some (mrpListenerDeclare s decl e)))
      ∨ (∃ i, msrpListenerFind s p streamId = none
          ∧ (s.listeners p).place msrpListenerReusable = some i
          ∧ mrpDeclareListener s p streamId decl
              = s.setListener p i (some (mrpListenerDeclare s decl (.fresh streamId))))
      ∨ (msrpListenerFind s p streamId = none
          ∧ (s.listeners p).place msrpListenerReusable = none
          ∧ mrpDeclareListener s p streamId decl = s) := by
  obtain ⟨i, e, hfind, hi, h⟩ | ⟨i, hfind, hplace, h⟩ | ⟨hfind, hplace, h⟩ :=
    msrpListenerFindOrInsert_outcome s p streamId
  · left
    refine ⟨i, e, hfind, hi, ?_⟩
    rw [mrpDeclareListener, h]
    simp [AvbState.modifyListener, hi]
  · right
    left
    refine ⟨i, hfind, hplace, ?_⟩
    rw [mrpDeclareListener, h]
    simp [AvbState.modifyListener]
    rfl
  · right
    right
    refine ⟨hfind, hplace, ?_⟩
    rw [mrpDeclareListener, h]

theorem listenerAt_setListener_match {s : AvbState cfg} {p : cfg.Port} {streamId : UniqueId}
    {i : ListenerRef cfg} {e : MsrpListenerEntry}
    (h : msrpListenerFind s p streamId = some i ∨ msrpListenerFind s p streamId = none)
    (he : e.wire.streamId = streamId) :
    listenerAt (s.setListener p i (some e)) p streamId = some e := by
  rw [listenerAt, setListener_listeners, if_pos rfl]
  exact SlotTable.lookup_set_match h (listenerIs_iff.mpr he)

theorem listenerAt_setListener_other (s : AvbState cfg) {p q : cfg.Port} (streamId : UniqueId)
    (i : ListenerRef cfg) (e : Option MsrpListenerEntry) (h : q ≠ p) :
    listenerAt (s.setListener p i e) q streamId = listenerAt s q streamId := by
  rw [listenerAt, setListener_listeners, if_neg h, listenerAt]

theorem listenerAt_of_find {s : AvbState cfg} {p : cfg.Port} {streamId : UniqueId}
    {i : ListenerRef cfg} (h : msrpListenerFind s p streamId = some i) :
    listenerAt s p streamId = s.listeners p i :=
  SlotTable.lookup_of_find h

theorem listenerAt_eq_none {s : AvbState cfg} {p : cfg.Port} {streamId : UniqueId} :
    listenerAt s p streamId = none ↔ msrpListenerFind s p streamId = none :=
  SlotTable.lookup_eq_none

/-- A port has room for a new stream while some slot is empty or idle. -/
def ListenerRoom (s : AvbState cfg) (p : cfg.Port) : Prop :=
  (s.listeners p).place msrpListenerReusable ≠ none

/-- Declaring a listener leaves its stream declared as asked, if the table has it or has room. -/
theorem listenerAt_declareListener {s : AvbState cfg} {p : cfg.Port} {streamId : UniqueId}
    (decl : MsrpListenerEvent) (hroom : listenerAt s p streamId ≠ none ∨ ListenerRoom s p) :
    ∃ e, listenerAt (mrpDeclareListener s p streamId decl) p streamId = some e
      ∧ mrpApplicantDeclaring e.sm.applicant = true ∧ e.declEvent = decl := by
  obtain ⟨i, e, hfind, hi, h⟩ | ⟨i, hfind, hplace, h⟩ | ⟨hfind, hplace, -⟩ :=
    mrpDeclareListener_outcome s p streamId decl
  · have hkey : e.wire.streamId = streamId :=
      listenerAt_match ((listenerAt_of_find hfind).trans hi)
    refine ⟨mrpListenerDeclare s decl e, ?_, mrpListenerDeclare_declaring s decl e,
      mrpListenerDeclare_declEvent s decl e⟩
    rw [h]
    apply listenerAt_setListener_match (Or.inl hfind)
    rw [mrpListenerDeclare_wire, hkey]
  · refine ⟨mrpListenerDeclare s decl (.fresh streamId), ?_, mrpListenerDeclare_declaring s decl _,
      mrpListenerDeclare_declEvent s decl _⟩
    rw [h]
    apply listenerAt_setListener_match (Or.inr hfind)
    rw [mrpListenerDeclare_wire]
    rfl
  · obtain hat | hroom := hroom
    · exact absurd (listenerAt_eq_none.mpr hfind) hat
    · exact absurd hplace hroom

theorem mrpDeclareListener_full {s : AvbState cfg} {p : cfg.Port} {streamId : UniqueId}
    (decl : MsrpListenerEvent) (hat : listenerAt s p streamId = none) (hroom : ¬ ListenerRoom s p) :
    mrpDeclareListener s p streamId decl = s := by
  obtain ⟨i, e, hfind, hi, -⟩ | ⟨i, -, hplace, -⟩ | ⟨-, -, h⟩ :=
    mrpDeclareListener_outcome s p streamId decl
  · rw [listenerAt_of_find hfind, hi] at hat
    cases hat
  · exact absurd (by simp [ListenerRoom, hplace]) hroom
  · exact h

theorem listenerAt_withdrawListener (s : AvbState cfg) (p : cfg.Port) (streamId : UniqueId) :
    listenerAt (mrpWithdrawListener s p streamId) p streamId
      = (listenerAt s p streamId).map (mrpListenerWithdraw s) := by
  unfold mrpWithdrawListener
  cases hfind : msrpListenerFind s p streamId with
  | none => simp [listenerAt_eq_none.mpr hfind]
  | some i =>
      obtain ⟨e, hi, hq⟩ := SlotTable.find_eq_some hfind
      rw [listenerAt_of_find hfind, hi]
      simp only [hi]
      apply listenerAt_setListener_match (Or.inl hfind)
      exact listenerIs_iff.mp hq

/-! ### What a port's turn leaves alone -/

/-- `s'` differs from `s` in the listener table of port `y` only, and there neither in what is
registered for the stream nor in what its peer declared. -/
structure OnlyDeclared (y : cfg.Port) (streamId : UniqueId) (s s' : AvbState cfg) : Prop where
  others : ∀ q ≠ y, s'.listeners q = s.listeners q
  merged : ∀ q, msrpMergeDecl s' streamId q = msrpMergeDecl s streamId q

theorem OnlyDeclared.refl (y : cfg.Port) (streamId : UniqueId) (s : AvbState cfg) :
    OnlyDeclared y streamId s s :=
  ⟨fun _ _ => rfl, fun _ => rfl⟩

/-- What a port contributes to a merge depends on its entry's Registrar and peer declaration. -/
theorem msrpMergeDecl_setListener (s : AvbState cfg) {y : cfg.Port} {streamId : UniqueId}
    {i : ListenerRef cfg} {e : MsrpListenerEntry}
    (hfind : msrpListenerFind s y streamId = some i ∨ msrpListenerFind s y streamId = none)
    (hkey : e.wire.streamId = streamId)
    (hsame : ∀ old, listenerAt s y streamId = some old →
      e.sm.registrar = old.sm.registrar ∧ e.peerDecl = old.peerDecl)
    (hnew : listenerAt s y streamId = none → e.sm.registrar = .MT) (q : cfg.Port) :
    msrpMergeDecl (s.setListener y i (some e)) streamId q = msrpMergeDecl s streamId q := by
  by_cases hq : q = y
  · subst hq
    have hat := listenerAt_setListener_match hfind hkey
    unfold msrpMergeDecl
    rw [hat]
    cases hold : listenerAt s q streamId with
    | none => simp [hnew hold]
    | some old =>
        obtain ⟨hreg, hpeer⟩ := hsame old hold
        simp only [hreg, hpeer]
        rfl
  · unfold msrpMergeDecl
    rw [listenerAt_setListener_other s streamId i (some e) hq]
    rfl

theorem onlyDeclared_declareListener (s : AvbState cfg) (y : cfg.Port) (streamId : UniqueId)
    (decl : MsrpListenerEvent) :
    OnlyDeclared y streamId s (mrpDeclareListener s y streamId decl) := by
  obtain ⟨i, e, hfind, hi, h⟩ | ⟨i, hfind, -, h⟩ | ⟨-, -, h⟩ :=
    mrpDeclareListener_outcome s y streamId decl
  · have hat : listenerAt s y streamId = some e := (listenerAt_of_find hfind).trans hi
    rw [h]
    constructor
    · intro q hq
      rw [setListener_listeners, if_neg hq]
    · apply msrpMergeDecl_setListener s (Or.inl hfind)
      · rw [mrpListenerDeclare_wire, listenerAt_match hat]
      · intro old hold
        rw [hat] at hold
        cases hold
        exact ⟨mrpListenerDeclare_registrar s decl e, mrpListenerDeclare_peerDecl s decl e⟩
      · intro hnone
        rw [hat] at hnone
        cases hnone
  · have hat := listenerAt_eq_none.mpr hfind
    rw [h]
    constructor
    · intro q hq
      rw [setListener_listeners, if_neg hq]
    · apply msrpMergeDecl_setListener s (Or.inr hfind)
      · rw [mrpListenerDeclare_wire]
        rfl
      · intro old hold
        rw [hat] at hold
        cases hold
      · intro _
        rw [mrpListenerDeclare_registrar]
        rfl
  · rw [h]
    exact OnlyDeclared.refl y streamId s

theorem onlyDeclared_withdrawListener (s : AvbState cfg) (y : cfg.Port) (streamId : UniqueId) :
    OnlyDeclared y streamId s (mrpWithdrawListener s y streamId) := by
  unfold mrpWithdrawListener
  cases hfind : msrpListenerFind s y streamId with
  | none => exact OnlyDeclared.refl y streamId s
  | some i =>
      obtain ⟨e, hi, hq⟩ := SlotTable.find_eq_some hfind
      have hat : listenerAt s y streamId = some e := (listenerAt_of_find hfind).trans hi
      simp only [hi]
      constructor
      · intro q hq'
        rw [setListener_listeners, if_neg hq', addLog_listeners]
      · apply msrpMergeDecl_setListener s (Or.inl hfind)
        · exact listenerIs_iff.mp hq
        · intro old hold
          rw [hat] at hold
          cases hold
          exact ⟨mrpWithdrawStep_registrar s.mrpLite e.sm, rfl⟩
        · intro hnone
          rw [hat] at hnone
          cases hnone

theorem onlyDeclared_propagateTo (p : cfg.Port) (streamId : UniqueId) (s : AvbState cfg)
    (y : cfg.Port) : OnlyDeclared y streamId s (msrpPropagateListenerTo p streamId s y) := by
  unfold msrpPropagateListenerTo
  split
  · exact OnlyDeclared.refl y streamId s
  · dsimp only
    split
    · split
      · exact onlyDeclared_withdrawListener s y streamId
      · exact OnlyDeclared.refl y streamId s
    · split
      · exact onlyDeclared_declareListener s y streamId _
      · exact OnlyDeclared.refl y streamId s

theorem msrpMergeListenerDecls_congr {s s' : AvbState cfg} {streamId : UniqueId}
    (h : ∀ q, msrpMergeDecl s' streamId q = msrpMergeDecl s streamId q) (y : cfg.Port) :
    msrpMergeListenerDecls s' y streamId = msrpMergeListenerDecls s y streamId := by
  unfold msrpMergeListenerDecls
  simp only [h]

/-! ### The outcome on a port -/

/-- What propagation owes port `y`: the merged declaration standing there, or none when no port has
anything to merge. -/
def ListenerPropagated (s : AvbState cfg) (y : cfg.Port) (streamId : UniqueId) : Prop :=
  match msrpMergeListenerDecls s y streamId with
  | some merged => ∃ e, listenerAt s y streamId = some e
      ∧ mrpApplicantDeclaring e.sm.applicant = true ∧ e.declEvent = merged
  | none => ∀ e, listenerAt s y streamId = some e → mrpApplicantDeclaring e.sm.applicant = false

/-- When it does: the declaration to make is seen as one to make. An entry that stores the merged
declaration must be declaring it or be in VO, and a stream without an entry needs room for one. -/
def PropagationSeen (s : AvbState cfg) (y : cfg.Port) (streamId : UniqueId) : Prop :=
  match msrpMergeListenerDecls s y streamId, listenerAt s y streamId with
  | none, _ => True
  | some _, none => ListenerRoom s y
  | some merged, some e =>
      e.declEvent ≠ merged ∨ e.sm.applicant = .VO ∨ mrpApplicantDeclaring e.sm.applicant = true

theorem mergeListenerDecls_propagateTo (p : cfg.Port) (streamId : UniqueId) (s : AvbState cfg)
    (y y' : cfg.Port) :
    msrpMergeListenerDecls (msrpPropagateListenerTo p streamId s y') y streamId
      = msrpMergeListenerDecls s y streamId :=
  msrpMergeListenerDecls_congr (onlyDeclared_propagateTo p streamId s y').merged y

/-- A port's own turn. -/
theorem listenerPropagated_turn {p y : cfg.Port} (hy : y ≠ p) (hbridged : cfg.bridged y = true)
    (streamId : UniqueId) (s : AvbState cfg) :
    ListenerPropagated (msrpPropagateListenerTo p streamId s y) y streamId
      ↔ PropagationSeen s y streamId := by
  unfold ListenerPropagated
  rw [mergeListenerDecls_propagateTo]
  unfold PropagationSeen msrpPropagateListenerTo
  rw [if_neg (by simp [hy, hbridged])]
  cases hmerge : msrpMergeListenerDecls s y streamId with
  | none =>
      simp only [iff_true]
      intro e he
      split at he
      · rw [listenerAt_withdrawListener, Option.map_eq_some_iff] at he
        obtain ⟨old, -, rfl⟩ := he
        exact mrpWithdrawStep_not_declaring s.mrpLite old.sm
      · rename_i hvo
        simp only [he, Option.any_some, decide_eq_true_eq, not_not] at hvo
        rw [hvo]
        rfl
  | some merged =>
      cases hat : listenerAt s y streamId with
      | none =>
          simp only [Option.any_none, true_or, if_true]
          by_cases hroom : ListenerRoom s y
          · exact iff_of_true (listenerAt_declareListener merged (Or.inr hroom)) hroom
          · rw [mrpDeclareListener_full merged hat hroom, hat]
            simp [hroom]
      | some old =>
          simp only [Option.any_some, decide_not, Bool.not_eq_eq_eq_not, Bool.not_false,
            Bool.not_true, decide_eq_true_eq, decide_eq_false_iff_not]
          by_cases hsends : old.sm.applicant = .VO ∨ old.declEvent ≠ merged
          · rw [if_pos hsends]
            have hseen : listenerAt s y streamId ≠ none := by simp [hat]
            apply iff_of_true (listenerAt_declareListener merged (Or.inl hseen))
            obtain hvo | hchanged := hsends
            · exact Or.inr (Or.inl hvo)
            · exact Or.inl hchanged
          · rw [if_neg hsends, hat]
            push Not at hsends
            obtain ⟨hvo, hsame⟩ := hsends
            simp [hvo, hsame]

/-- The same on a port after the whole loop: the other ports' turns change neither its table nor
its merge. -/
theorem listenerPropagated_iff {p y : cfg.Port} (hy : y ≠ p) (hbridged : cfg.bridged y = true)
    (streamId : UniqueId) (s : AvbState cfg) :
    ListenerPropagated (msrpPropagateListener s p streamId) y streamId
      ↔ PropagationSeen s y streamId := by
  have hother : ∀ s' : AvbState cfg, ∀ y' ≠ y,
      ListenerPropagated (msrpPropagateListenerTo p streamId s' y') y streamId
          = ListenerPropagated s' y streamId
        ∧ PropagationSeen (msrpPropagateListenerTo p streamId s' y') y streamId
          = PropagationSeen s' y streamId := by
    intro s' y' hne
    have htable := (onlyDeclared_propagateTo p streamId s' y').others y hne.symm
    have hmerge := mergeListenerDecls_propagateTo p streamId s' y y'
    constructor
    · unfold ListenerPropagated listenerAt
      rw [hmerge, htable]
    · unfold PropagationSeen ListenerRoom listenerAt
      rw [hmerge, htable]
  apply Machine.run_once (fun s' => PropagationSeen s' y streamId = PropagationSeen s y streamId)
    (fun s' => ListenerPropagated s' y streamId ↔ PropagationSeen s y streamId)
    (List.mem_finRange y) (List.nodup_finRange cfg.numPorts)
  · intro s' y' hne hs'
    rw [(hother s' y' hne).2, hs']
  · intro s' hs'
    rw [listenerPropagated_turn hy hbridged, hs']
  · intro s' y' hne hs'
    rw [(hother s' y' hne).1]
    exact hs'
  · rfl

/-- **Propagation of a listener.** After the callback for an edge or a changed declaration, whatever
the run before it, every other bridged port declares the merged declaration, or nothing where the
merge is empty, exactly when the declaration to make is seen as one to make on each of them. It is
not where the egress Applicant is leaving or observing (LA, LO, AO, QO) under the same declaration:
the code asks whether the Applicant is in VO. -/
theorem listener_callback_propagates_iff (hbridge : cfg.roleBridge = true) (s : AvbState cfg)
    {p : cfg.Port} (hp : cfg.bridged p = true) (streamId : UniqueId) {tr : MrpRegTransition}
    {peerDeclChanged : Bool} (hedge : tr ≠ .none ∨ peerDeclChanged = true) :
    (∀ y ≠ p, cfg.bridged y = true →
        ListenerPropagated (mrpOnListenerRegistrarChange s p streamId tr peerDeclChanged) y streamId)
      ↔ ∀ y ≠ p, cfg.bridged y = true → PropagationSeen s y streamId := by
  unfold mrpOnListenerRegistrarChange
  rw [if_pos ⟨hbridge, hedge, hp⟩]
  constructor
  · intro h y hy hbridged
    exact (listenerPropagated_iff hy hbridged streamId s).mp (h y hy hbridged)
  · intro h y hy hbridged
    exact (listenerPropagated_iff hy hbridged streamId s).mpr (h y hy hbridged)

theorem listener_callback_propagates_iff_empty :
    (∀ y : (wiredBridge 2).Port, y ≠ (0 : Fin 2) → (wiredBridge 2).bridged y = true →
        ListenerPropagated
          (mrpOnListenerRegistrarChange (avbRun false ([] : List (AvbEvent (wiredBridge 2))))
            (0 : Fin 2) (.ofNat 8 1) .register false) y (.ofNat 8 1))
      ↔ ∀ y : (wiredBridge 2).Port, y ≠ (0 : Fin 2) → (wiredBridge 2).bridged y = true →
        PropagationSeen (avbRun false ([] : List (AvbEvent (wiredBridge 2)))) y (.ofNat 8 1) :=
  @listener_callback_propagates_iff (wiredBridge 2) rfl (avbRun false []) (0 : Fin 2) rfl
    (.ofNat 8 1) .register false (Or.inl (by decide))

/-- A listener joins on port 0, its declaration goes out on port 1, and it leaves and joins again
before port 1 sends anything. -/
def rejoinRun : List (AvbEvent (wiredBridge 2)) :=
  let p0 : (wiredBridge 2).Port := ⟨0, Nat.two_pos⟩
  let p1 : (wiredBridge 2).Port := ⟨1, Nat.one_lt_two⟩
  let mac : Option EthAddr := some (.ofNat 6 0x0a)
  [.receive p0 mac (listenerValue (.ofNat 8 1) 3 .ready), .joinTimer p1, .joinTimer p1,
    .receive p0 mac (listenerValue (.ofNat 8 1) 5 .ready),
    .receive p0 mac (listenerValue (.ofNat 8 1) 3 .ready)]

/-- The registration is back, and port 1 is left withdrawing it. -/
theorem rejoin_left_undeclared :
    ¬ ListenerPropagated (avbRun false rejoinRun) (1 : Fin 2) (.ofNat 8 1) := by
  have hmerge : msrpMergeListenerDecls (avbRun false rejoinRun) (1 : Fin 2) (.ofNat 8 1)
      = some .ready := by decide +kernel
  have hleaving : (listenerAt (avbRun false rejoinRun) (1 : Fin 2) (.ofNat 8 1)).map
      (·.sm.applicant) = some .LA := by decide +kernel
  unfold ListenerPropagated
  rw [hmerge]
  rintro ⟨e, he, hdeclaring, -⟩
  rw [he, Option.map_some, Option.some.injEq] at hleaving
  rw [hleaving] at hdeclaring
  cases hdeclaring

end EspAvb
