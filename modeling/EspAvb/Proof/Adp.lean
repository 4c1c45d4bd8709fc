import EspAvb.Adp
import EspAvb.Proof.Listener

/-!
# Discovery

Each table of `avb_process_adp` is a roster of those that announced themselves in its role. So a lookup
answers with the last announcement or not at all, and a listener probes a talker only while that talker
is there.
-/

namespace EspAvb

open Roster

/-! ### The tables as rosters -/

/-- How many entities the table of a type has room for. -/
def AvbEntityType.room : AvbEntityType → Nat
  | talker => avbMaxNumTalkers
  | listener => avbMaxNumListeners
  | controller => avbMaxNumControllers

theorem AvbEntityType.room_pos (type : AvbEntityType) : 0 < type.room := by
  cases type <;> decide

def AdpMessage.announces (msg : AdpMessage) : AvbEntityType → Bool
  | .talker => msg.talkerImplemented && msg.audioSource
  | .listener => msg.listenerImplemented && msg.audioSink
  | .controller => msg.controllerImplemented

/-- What an event says about the entities of one type. A controller's departure is not noticed. -/
def AdpEvent.notice (type : AvbEntityType) : AdpEvent → Notice UniqueId AvbEntity
  | .adp msg srcAddr =>
      match msg.msgType with
      | .entityAvailable =>
          if msg.announces type then
            .here { entityId := msg.entityId, modelId := msg.modelId, macAddr := srcAddr }
          else .other
      | .entityDeparting => if type = .controller then .other else .gone msg.entityId
      | .entityDiscover => .other
  | .acmp _ => .other

def adpNotices (events : Nat → AdpEvent) (type : AvbEntityType) (n : Nat) :
    Notice UniqueId AvbEntity := (events n).notice type

namespace AdpState

variable {cfg : AdpConfig} {acmp : AcmpState} {events : Nat → AdpEvent} {n : Nat} {s : AdpState}
  {type : AvbEntityType} {entityId : UniqueId} {entity : AvbEntity}

theorem table_step (event : AdpEvent) : (step cfg s event).table type =
    note AvbEntity.entityId type.room (event.notice type) (s.table type) := by
  cases event with
  | acmp event => cases type <;> rfl
  | adp msg srcAddr =>
      rw [step, avbProcessAdp, AdpEvent.notice]
      cases msg.msgType with
      | entityAvailable =>
          cases type <;> exact (note_here_if _).symm
      | entityDeparting => cases type <;> rfl
      | entityDiscover => rfl

theorem table_before : (before cfg acmp events n).table type =
    Roster.before AvbEntity.entityId type.room (adpNotices events type) n := by
  induction n with
  | zero => cases type <;> rfl
  | succ n ih => rw [before, table_step, ih, Roster.before, adpNotices]

theorem table_sound : Sound AvbEntity.entityId type.room (adpNotices events type) n
    ((before cfg acmp events n).table type) := by
  rw [table_before]
  exact sound type.room_pos n

theorem find_eq : avbFindEntityById s entityId type = find? AvbEntity.entityId entityId (s.table type) := by
  cases type <;> rfl

theorem said_of_find (h : avbFindEntityById (before cfg acmp events n) entityId type = some entity) :
    entity.entityId = entityId ∧ Said AvbEntity.entityId (adpNotices events type) n entity := by
  rw [find_eq] at h
  obtain ⟨hmem, hid⟩ := find?_mem h
  exact ⟨hid, table_sound.said entity hmem⟩

/-- An entity is found right after it announces itself. -/
theorem find_of_announced (h : (events n).notice type = .here entity) :
    avbFindEntityById (before cfg acmp events (n + 1)) entity.entityId type = some entity := by
  have hsound : Sound AvbEntity.entityId type.room (adpNotices events type) (n + 1) _ :=
    @table_sound cfg acmp events (n + 1) type
  rw [find_eq]
  refine find?_of_mem hsound.nodup ?_
  rw [before, table_step, h]
  exact mem_enter_self

theorem find_isSome_iff
    (hfew : ∀ m ≤ n, (present AvbEntity.entityId (adpNotices events type) m).card ≤ type.room) :
    (avbFindEntityById (before cfg acmp events n) entityId type).isSome = true ↔
      entityId ∈ present AvbEntity.entityId (adpNotices events type) n := by
  rw [find_eq, find?_isSome, table_before, ← keys_eq_present type.room_pos n hfew, List.mem_toFinset]

end AdpState

/-! ### Departures and probes -/

section

variable (cfg : AdpConfig) (talkerId : UniqueId)

/-- What a departure makes of one stream. -/
def demotedStream (u : Fin avbMaxNumInputStreams) (stream : AcmpListenerStream) : AcmpListenerStream :=
  if u.val < cfg.numInputStreams ∧ stream.talkerId = talkerId ∧ stream.connected ∧
      stream.provisional = false then
    { stream with provisional := true, demoteRefUs := 0 }
  else stream

theorem demoteTurn_inputStreams (s : AcmpState) (u : Fin avbMaxNumInputStreams) :
    (if u.val < cfg.numInputStreams ∧ (s.inputStreams u).talkerId = talkerId then demoteStream s u
      else s).inputStreams =
      Function.update s.inputStreams u (demotedStream cfg talkerId u (s.inputStreams u)) := by
  unfold demotedStream demoteStream
  by_cases hbound : u.val < cfg.numInputStreams ∧ (s.inputStreams u).talkerId = talkerId
  · rw [if_pos hbound]
    by_cases hplays : (s.inputStreams u).connected = true ∧ (s.inputStreams u).provisional = false
    · rw [if_pos (by simp [hplays]), if_pos ⟨hbound.1, hbound.2, hplays⟩]
      rfl
    · rw [if_neg (by simpa using hplays), if_neg fun h => hplays h.2.2, Function.update_eq_self]
  · rw [if_neg hbound, if_neg fun h => hbound ⟨h.1, h.2.1⟩, Function.update_eq_self]

theorem foldl_demoteTurn {l : List (Fin avbMaxNumInputStreams)} (hnodup : l.Nodup) (s : AcmpState)
    (v : Fin avbMaxNumInputStreams) :
    (l.foldl (fun s u =>
      if u.val < cfg.numInputStreams ∧ (s.inputStreams u).talkerId = talkerId then demoteStream s u
      else s) s).inputStreams v =
      if v ∈ l then demotedStream cfg talkerId v (s.inputStreams v) else s.inputStreams v := by
  induction l generalizing s with
  | nil => rfl
  | cons u l ih =>
      rw [List.nodup_cons] at hnodup
      rw [List.foldl_cons, ih hnodup.2, demoteTurn_inputStreams]
      by_cases hv : v = u
      · subst hv
        rw [if_neg hnodup.1, if_pos List.mem_cons_self, Function.update_self]
      · rw [Function.update_of_ne hv]
        simp only [List.mem_cons, hv, false_or]

theorem adpDemote_inputStreams (s : AcmpState) (u : Fin avbMaxNumInputStreams) :
    (adpDemote cfg talkerId s).inputStreams u = demotedStream cfg talkerId u (s.inputStreams u) := by
  rw [adpDemote, foldl_demoteTurn cfg talkerId (List.nodup_finRange _), if_pos (List.mem_finRange u)]

theorem foldl_demoteTurn_run (l : List (Fin avbMaxNumInputStreams)) (s : AcmpState) :
    ∃ run : List AcmpEvent,
      l.foldl (fun s u =>
        if u.val < cfg.numInputStreams ∧ (s.inputStreams u).talkerId = talkerId then demoteStream s u
        else s) s = Machine.run (acmpStep cfg.toAcmpConfig) s run := by
  induction l generalizing s with
  | nil => exact ⟨[], rfl⟩
  | cons u l ih =>
      rw [List.foldl_cons]
      split
      · obtain ⟨run, hrun⟩ := ih (demoteStream s u)
        exact ⟨.demote u :: run, hrun⟩
      · exact ih s

end

/-- What the listener goes through is a run of its own. -/
theorem AdpState.acmp_run (cfg : AdpConfig) (acmp : AcmpState) (events : Nat → AdpEvent) (n : Nat) :
    ∃ run : List AcmpEvent,
      (before cfg acmp events n).acmp = Machine.run (acmpStep cfg.toAcmpConfig) acmp run := by
  induction n with
  | zero => exact ⟨[], rfl⟩
  | succ n ih =>
      obtain ⟨run, hrun⟩ := ih
      have hturn : ∃ turn : List AcmpEvent, (step cfg (before cfg acmp events n) (events n)).acmp =
          Machine.run (acmpStep cfg.toAcmpConfig) (before cfg acmp events n).acmp turn := by
        cases events n with
        | acmp event => exact ⟨[event.discovering _], rfl⟩
        | adp msg srcAddr =>
            rw [step, avbProcessAdp]
            cases msg.msgType with
            | entityAvailable => exact ⟨[], rfl⟩
            | entityDiscover => exact ⟨[], rfl⟩
            | entityDeparting =>
                dsimp only
                split
                · exact foldl_demoteTurn_run cfg msg.entityId _ _
                · exact ⟨[], rfl⟩
      obtain ⟨turn, hturn⟩ := hturn
      refine ⟨run ++ turn, ?_⟩
      rw [before, hturn, hrun, Machine.run_append]

/-- No probe of a talker that is not known. -/
theorem fastConnectTurn_unknown (cfg : AcmpConfig) (env : AcmpEnv) (s : AcmpState)
    (u : Fin avbMaxNumInputStreams) (h : env.discovered (s.inputStreams u).talkerId = false) :
    (fastConnectTurn cfg env s u).effects = s.effects := by
  rw [fastConnectTurn]
  split_ifs
  · rfl
  · rfl
  · rw [avbFastConnectListener, if_pos (by simp [AcmpState.setStream, h])]
    rfl

open AdpState in
/-- Over any run of ADP messages and events of the listener, for each of the three tables: no entity is in
it twice and it has no more than its room; a lookup answers with the last announcement of the entity, with
no departure since; it finds whoever has just announced itself; and while those present never needed more
room, it finds exactly those present. A departing talker's streams, and no others, turn provisional, so
that they probe again; and a probe goes out only to a talker that announced itself and did not depart
since. The listener's state is one that its own events lead to. -/
theorem adp_discovery (cfg : AdpConfig) (acmp : AcmpState) (events : Nat → AdpEvent) (n : Nat) :
    let s := before cfg acmp events n
    let next := before cfg acmp events (n + 1)
    (∀ type,
      ((s.table type).map AvbEntity.entityId).Nodup ∧ (s.table type).length ≤ type.room ∧
      (∀ entityId entity, avbFindEntityById s entityId type = some entity →
        entity.entityId = entityId ∧ Said AvbEntity.entityId (adpNotices events type) n entity) ∧
      (∀ entity, (events n).notice type = .here entity →
        avbFindEntityById next entity.entityId type = some entity) ∧
      ((∀ m ≤ n, (present AvbEntity.entityId (adpNotices events type) m).card ≤ type.room) →
        ∀ entityId, (avbFindEntityById s entityId type).isSome = true ↔
          entityId ∈ present AvbEntity.entityId (adpNotices events type) n)) ∧
    (∀ msg srcAddr, events n = .adp msg srcAddr → msg.msgType = .entityDeparting →
      cfg.fastConnect = true → cfg.listener = true → ∀ u,
        next.acmp.inputStreams u = demotedStream cfg msg.entityId u (s.acmp.inputStreams u)) ∧
    (∀ env u, events n = .acmp (.fastConnect env u) → next.acmp.effects ≠ s.acmp.effects →
      ∃ entity, entity.entityId = (s.acmp.inputStreams u).talkerId ∧
        Said AvbEntity.entityId (adpNotices events .talker) n entity) ∧
    ∃ run : List AcmpEvent, s.acmp = Machine.run (acmpStep cfg.toAcmpConfig) acmp run := by
  intro s next
  refine ⟨fun type => ?_, fun msg srcAddr hevent hdeparts hfast hlistens u => ?_,
    fun env u hevent hprobe => ?_, acmp_run cfg acmp events n⟩
  · have hsound : Sound _ _ _ _ (s.table type) := table_sound
    exact ⟨hsound.nodup, hsound.size, fun _ _ => said_of_find, fun _ => find_of_announced,
      fun hfew _ => find_isSome_iff hfew⟩
  · have hnext : next.acmp = adpDemote cfg msg.entityId s.acmp := by
      simp only [next, AdpState.before, hevent, step, avbProcessAdp, hdeparts, hfast, hlistens, Bool.and_self,
        if_true]
      rfl
    rw [hnext, adpDemote_inputStreams]
  · have hnext : next.acmp = fastConnectTurn cfg.toAcmpConfig { env with discovered := s.discovered }
        s.acmp u := by
      simp only [next, AdpState.before, hevent]
      rfl
    have hknown : s.discovered (s.acmp.inputStreams u).talkerId = true := by
      by_contra hunknown
      refine hprobe ?_
      rw [hnext, fastConnectTurn_unknown _ _ _ _ (Bool.eq_false_iff.mpr hunknown)]
    obtain ⟨entity, hfind⟩ := Option.isSome_iff_exists.mp hknown
    exact ⟨entity, said_of_find hfind⟩

def probedInput : Fin avbMaxNumInputStreams := ⟨0, Nat.two_pos⟩

def probedTalker : UniqueId := .ofNat 8 5

def probedConfig : AdpConfig := { twoInputs with listener := true, fastConnect := true }

/-- After bring-up with a saved binding. -/
def probedStreams : AcmpState :=
  AcmpState.blank.setStream probedInput { AcmpListenerStream.zero with talkerId := probedTalker }

def probedAvailable : AdpMessage :=
  { msgType := .entityAvailable, entityId := probedTalker, modelId := .zero 8
    talkerImplemented := true, audioSource := true, listenerImplemented := false, audioSink := false
    controllerImplemented := false }

/-- A turn of the fast connect every five seconds; after the first one the talker announces itself. -/
def probedEvents (n : Nat) : AdpEvent :=
  if n = 1 then .adp probedAvailable (.zero 6)
  else .acmp (.fastConnect (.at (5000 * (n + 1))) probedInput)

open AdpState in
/-- The first turn finds no talker; the next one probes the talker that has announced itself. -/
theorem adp_discovery_probe :
    (before probedConfig probedStreams probedEvents 1).acmp.effects = [] ∧
      (before probedConfig probedStreams probedEvents 3).acmp.effects ≠ [] ∧
      ∃ entity, entity.entityId = probedTalker ∧
        Said AvbEntity.entityId (adpNotices probedEvents .talker) 2 entity := by
  have hsilent : (before probedConfig probedStreams probedEvents 2).acmp.effects = [] := by decide
  have hprobe : (before probedConfig probedStreams probedEvents 3).acmp.effects ≠ [] := by decide
  have hbound : ((before probedConfig probedStreams probedEvents 2).acmp.inputStreams
      probedInput).talkerId = probedTalker := by decide
  obtain ⟨entity, hid, hsaid⟩ := (adp_discovery probedConfig probedStreams probedEvents 2).2.2.1
    (.at 15000) probedInput rfl (hsilent ▸ hprobe)
  exact ⟨by decide, hprobe, entity, hid.trans hbound, hsaid⟩

end EspAvb
