import EspAvb.Unsol

/-!
# What the registry of controllers keeps

The table never holds a controller twice nor more than its capacity. The notifications of one kind
to a controller count up from its registration on, because every path that sends one writes its
counter in the same step. A monitor keeps for each controller when it last registered and which
checks it has not answered since it was last heard; it says why an entry may go.
-/

namespace EspAvb

variable {cfg : UnsolConfig} {env : UnsolEnv} {s : UnsolState} {key : ControllerKey}
variable {kind : UnsolKind} {entries : List UnsolController} {entry entry' : UnsolController}

/-! ### What is observed -/

/-- The sequence IDs of one kind sent to a controller since it last registered. -/
def seqIdsSent (key : ControllerKey) (kind : UnsolKind) (effects : List UnsolEffect) :
    List UInt16 :=
  effects.foldl
    (fun ids e =>
      match e with
      | .registered k => if k = key then [] else ids
      | .notification k κ seqId => if k = key ∧ κ = kind then ids ++ [seqId] else ids
      | .check _ _ => ids) []

/-- `0, 1, 2, ..` modulo 2^16. -/
def Consecutive (ids : List UInt16) : Prop := ids = (List.range ids.length).map UInt16.ofNat

/-- `unanswered` holds the times of the checks since a controller was last heard, the latest first. -/
structure UnsolMonitor where
  registeredUs : ControllerKey → Nat
  timeLimited : ControllerKey → Bool
  unanswered : ControllerKey → List Nat

def UnsolMonitor.blank : UnsolMonitor :=
  { registeredUs := fun _ => 0, timeLimited := fun _ => false, unanswered := fun _ => [] }

def UnsolMonitor.heard (m : UnsolMonitor) (key : ControllerKey) : UnsolMonitor :=
  { m with unanswered := Function.update m.unanswered key [] }

/-- The controller whose check a response answers. One that could answer two is nobody's. -/
def answeredBy (s : UnsolState) (entityId : UniqueId) (seqId : UInt16) : Option ControllerKey :=
  match s.controllers.filter (·.awaits entityId seqId) with
  | [entry] => some entry.key
  | _ => none

def isCheckOf (key : ControllerKey) : UnsolEffect → Bool
  | .check k _ => k = key
  | _ => false

def UnsolMonitor.step (s : UnsolState) (sent : List UnsolEffect) (m : UnsolMonitor) :
    UnsolEvent → UnsolMonitor
  | .register env key timeLimited =>
      { m.heard key with
        registeredUs := Function.update m.registeredUs key env.nowUs
        timeLimited := Function.update m.timeLimited key timeLimited }
  | .heard _ key => m.heard key
  | .replied _ entityId seqId => (answeredBy s entityId seqId).elim m m.heard
  | .tick env =>
      { m with unanswered := fun key =>
          if sent.any (isCheckOf key) then env.nowUs :: m.unanswered key else m.unanswered key }
  | .deregister _ => m
  | .notify .. => m

def watchedUnsolStep (cfg : UnsolConfig) (w : UnsolState × UnsolMonitor) (e : UnsolEvent) :
    UnsolState × UnsolMonitor :=
  let s' := unsolStep cfg w.1 e
  (s', w.2.step w.1 (s'.effects.drop w.1.effects.length) e)

def UnsolConfig.replyUs (cfg : UnsolConfig) : Nat :=
  if cfg.wifi then unsolReplyWifiUs else unsolReplyWiredUs

/-- Its time-limited registration is over. -/
def RegistrationLapsed (m : UnsolMonitor) (key : ControllerKey) (nowUs : Nat) : Prop :=
  m.timeLimited key ∧ m.registeredUs key + unsolTimeLimitUs ≤ nowUs

/-- Two checks in a row went unanswered for the time a reply may take. -/
def LeftTwoChecks (cfg : UnsolConfig) (m : UnsolMonitor) (key : ControllerKey) (nowUs : Nat) :
    Prop :=
  ∃ first second rest, m.unanswered key = second :: first :: rest ∧
    first + cfg.replyUs ≤ second ∧ second + cfg.replyUs ≤ nowUs

/-- Why a controller may leave the table. -/
def RemovedFor (cfg : UnsolConfig) (m : UnsolMonitor) (key : ControllerKey) : UnsolEvent → Prop
  | .deregister k => k = key
  | .tick env => RegistrationLapsed m key env.nowUs ∨ LeftTwoChecks cfg m key env.nowUs
  | _ => False

/-! ### Entries in place -/

theorem map_modifyController {β : Type*} {g : UnsolController → β}
    {f : UnsolController → UnsolController} (hf : ∀ entry, g (f entry) = g entry) :
    (modifyController key f entries).map g = entries.map g := by
  induction entries with
  | nil => rfl
  | cons entry rest ih =>
      unfold modifyController
      split_ifs
      · simp [hf]
      · simp [ih]

theorem mem_modifyController {f : UnsolController → UnsolController}
    (hnodup : (entries.map (·.key)).Nodup) (h : entry' ∈ modifyController key f entries) :
    (∃ entry ∈ entries, entry.key = key ∧ entry' = f entry) ∨
      entry' ∈ entries ∧ entry'.key ≠ key := by
  induction entries with
  | nil => cases h
  | cons entry rest ih =>
      obtain ⟨hnotMem, hnodup⟩ := List.nodup_cons.mp hnodup
      unfold modifyController at h
      split_ifs at h with hkey
      · rcases List.mem_cons.mp h with rfl | h
        · exact Or.inl ⟨entry, List.mem_cons_self, hkey, rfl⟩
        · refine Or.inr ⟨List.mem_cons_of_mem entry h, ?_⟩
          intro heq
          exact hnotMem (List.mem_map.mpr ⟨entry', h, heq.trans hkey.symm⟩)
      · rcases List.mem_cons.mp h with rfl | h
        · exact Or.inr ⟨List.mem_cons_self, hkey⟩
        · rcases ih hnodup h with ⟨e, he, hekey, heq⟩ | ⟨hmem, hne⟩
          · exact Or.inl ⟨e, List.mem_cons_of_mem entry he, hekey, heq⟩
          · exact Or.inr ⟨List.mem_cons_of_mem entry hmem, hne⟩

theorem map_key_map {f : UnsolController → UnsolController} (hf : ∀ entry, (f entry).key = entry.key)
    (entries : List UnsolController) : (entries.map f).map (·.key) = entries.map (·.key) := by
  rw [List.map_map]
  exact List.map_congr_left fun entry _ => hf entry

/-- A reply rearms one entry, the first that awaits it. -/
theorem mem_rearmAwaiting {entityId : UniqueId} {seqId : UInt16}
    (hnodup : (entries.map (·.key)).Nodup) (h : entry' ∈ rearmAwaiting env entityId seqId entries) :
    (∃ entry ∈ entries, entry.awaits entityId seqId ∧ entry' = entry.rearm env) ∨
      entry' ∈ entries ∧ ∀ entry, entries.filter (·.awaits entityId seqId) = [entry] →
        entry.key ≠ entry'.key := by
  induction entries with
  | nil => cases h
  | cons head rest ih =>
      obtain ⟨hnotMem, hnodup⟩ := List.nodup_cons.mp hnodup
      unfold rearmAwaiting at h
      split_ifs at h with hawaits
      · rcases List.mem_cons.mp h with rfl | h
        · exact Or.inl ⟨head, List.mem_cons_self, hawaits, rfl⟩
        · refine Or.inr ⟨List.mem_cons_of_mem head h, ?_⟩
          intro entry hone
          rw [List.filter_cons_of_pos hawaits] at hone
          obtain ⟨rfl, -⟩ := List.cons.inj hone
          intro heq
          exact hnotMem (List.mem_map.mpr ⟨entry', h, heq.symm⟩)
      · rcases List.mem_cons.mp h with rfl | h
        · refine Or.inr ⟨List.mem_cons_self, ?_⟩
          intro entry hone heq
          rw [List.filter_cons_of_neg hawaits] at hone
          have hmem : entry ∈ rest := List.mem_of_mem_filter (hone ▸ List.mem_singleton_self entry)
          exact hnotMem (List.mem_map.mpr ⟨entry, hmem, heq⟩)
        · rcases ih hnodup h with ⟨e, he, hea, heq⟩ | ⟨hmem, hne⟩
          · exact Or.inl ⟨e, List.mem_cons_of_mem head he, hea, heq⟩
          · refine Or.inr ⟨List.mem_cons_of_mem head hmem, ?_⟩
            rwa [List.filter_cons_of_neg hawaits]

theorem map_rearmAwaiting {β : Type*} {g : UnsolController → β} {entityId : UniqueId}
    {seqId : UInt16} (hg : ∀ entry, g (entry.rearm env) = g entry) :
    (rearmAwaiting env entityId seqId entries).map g = entries.map g := by
  induction entries with
  | nil => rfl
  | cons entry rest ih =>
      unfold rearmAwaiting
      split_ifs
      · simp [hg]
      · simp [ih]

/-! ### Counting -/

/-- The sequence IDs of one kind a step sends to a controller. -/
def sentIn (key : ControllerKey) (kind : UnsolKind) (effects : List UnsolEffect) : List UInt16 :=
  effects.filterMap fun
    | .notification k κ seqId => if k = key ∧ κ = kind then some seqId else none
    | _ => none

theorem seqIdsSent_append {old new : List UnsolEffect} (hnew : ∀ k, .registered k ∉ new) :
    seqIdsSent key kind (old ++ new) = seqIdsSent key kind old ++ sentIn key kind new := by
  induction new using List.reverseRecOn with
  | nil => simp [sentIn]
  | append_singleton new e ih =>
      have ih := ih fun k hk => hnew k (List.mem_append_left _ hk)
      have hlast : sentIn key kind (new ++ [e]) = sentIn key kind new ++ sentIn key kind [e] :=
        List.filterMap_append
      rw [← List.append_assoc, hlast, ← List.append_assoc, ← ih]
      unfold seqIdsSent
      rw [List.foldl_append]
      cases e with
      | registered k => exact absurd (by simp) (hnew k)
      | check k seqId => simp [sentIn]
      | notification k κ seqId =>
          by_cases hkey : k = key ∧ κ = kind
          · simp [hkey, sentIn]
          · simp [hkey, sentIn]

theorem Consecutive.append {ids : List UInt16} (h : Consecutive ids) :
    Consecutive (ids ++ [UInt16.ofNat ids.length]) := by
  unfold Consecutive at h ⊢
  rw [List.length_append, List.length_singleton, List.range_succ, List.map_append, ← h]
  rfl

theorem Consecutive.nil : Consecutive [] := rfl

/-- The counters are where the log is. -/
structure Counted (s : UnsolState) : Prop where
  consecutive : ∀ key kind, Consecutive (seqIdsSent key kind s.effects)
  counter : ∀ entry ∈ s.controllers, ∀ kind,
    entry.seqIds kind = UInt16.ofNat (seqIdsSent entry.key kind s.effects).length

/-- What sends to some entries by their counters, and leaves entries with the counters moved on. -/
theorem Counted.send {new : List UnsolEffect} {aecpSeqId : UInt16} (h : Counted s)
    (hnew : ∀ k, .registered k ∉ new)
    (hsent : ∀ key kind, sentIn key kind new = [] ∨
      ∃ entry ∈ s.controllers, entry.key = key ∧ sentIn key kind new = [entry.seqIds kind])
    (hkept : ∀ entry' ∈ entries, ∃ entry ∈ s.controllers, entry.key = entry'.key ∧
      ∀ kind, entry'.seqIds kind =
        entry.seqIds kind + UInt16.ofNat (sentIn entry.key kind new).length) :
    Counted { controllers := entries, aecpSeqId, effects := s.effects ++ new } where
  consecutive key kind := by
    rw [seqIdsSent_append hnew]
    rcases hsent key kind with hnone | ⟨entry, hentry, rfl, hone⟩
    · rw [hnone, List.append_nil]
      exact h.consecutive key kind
    · rw [hone, h.counter entry hentry kind]
      exact (h.consecutive entry.key kind).append
  counter entry' hentry' kind := by
    obtain ⟨entry, hentry, hkey, hseq⟩ := hkept entry' hentry'
    rw [seqIdsSent_append hnew, List.length_append, hseq kind, h.counter entry hentry kind, hkey,
      UInt16.ofNat_add]

theorem Counted.of_same {s' : UnsolState} (h : Counted s) (heffects : s'.effects = s.effects)
    (hkept : ∀ entry' ∈ s'.controllers, ∃ entry ∈ s.controllers,
      entry.key = entry'.key ∧ entry'.seqIds = entry.seqIds) : Counted s' where
  consecutive key kind := heffects ▸ h.consecutive key kind
  counter entry' hentry' kind := by
    obtain ⟨entry, hentry, hkey, hseq⟩ := hkept entry' hentry'
    rw [hseq, heffects, ← hkey]
    exact h.counter entry hentry kind

/-! ### The two loops -/

theorem notifyEntries_fst (kind : UnsolKind) (requester : Option (UniqueId × Option EthAddr))
    (entries : List UnsolController) :
    (notifyEntries kind requester entries).1 =
      entries.map fun entry =>
        if isRequester requester entry.key then entry else entry.sent kind := by
  induction entries with
  | nil => rfl
  | cons entry rest ih =>
      unfold notifyEntries
      dsimp only
      split_ifs with hreq
      · simp [ih, hreq]
      · simp [ih, hreq]

theorem notifyEntries_not_registered {kind : UnsolKind}
    {requester : Option (UniqueId × Option EthAddr)} :
    .registered key ∉ (notifyEntries kind requester entries).2 := by
  induction entries with
  | nil => exact List.not_mem_nil
  | cons entry rest ih =>
      unfold notifyEntries
      dsimp only
      split_ifs
      · exact ih
      · simpa using ih

theorem sentIn_notifyEntries_of_notMem {kind κ : UnsolKind}
    {requester : Option (UniqueId × Option EthAddr)} (hkey : key ∉ entries.map (·.key)) :
    sentIn key κ (notifyEntries kind requester entries).2 = [] := by
  induction entries with
  | nil => rfl
  | cons entry rest ih =>
      rw [List.map_cons, List.mem_cons, not_or] at hkey
      unfold notifyEntries
      dsimp only
      split_ifs
      · exact ih hkey.2
      · simpa [sentIn, Ne.symm hkey.1] using ih hkey.2

theorem sentIn_notifyEntries {kind κ : UnsolKind}
    {requester : Option (UniqueId × Option EthAddr)} (hnodup : (entries.map (·.key)).Nodup)
    (hentry : entry ∈ entries) :
    sentIn entry.key κ (notifyEntries kind requester entries).2 =
      if isRequester requester entry.key = false ∧ κ = kind then [entry.seqIds κ] else [] := by
  induction entries with
  | nil => cases hentry
  | cons head rest ih =>
      obtain ⟨hnotMem, hnodup⟩ := List.nodup_cons.mp hnodup
      unfold notifyEntries
      dsimp only
      rcases List.mem_cons.mp hentry with rfl | hrest
      · have hnone : sentIn entry.key κ (notifyEntries kind requester rest).2 = [] :=
          sentIn_notifyEntries_of_notMem hnotMem
        split_ifs with hreq hsent hsent
        · simp [hreq] at hsent
        · exact hnone
        · obtain ⟨-, rfl⟩ := hsent
          simpa [sentIn] using hnone
        · have hκ : kind ≠ κ := fun h => hsent ⟨by simpa using hreq, h.symm⟩
          simpa [sentIn, hκ] using hnone
      · have hne : head.key ≠ entry.key := fun h =>
          hnotMem (List.mem_map.mpr ⟨entry, hrest, h.symm⟩)
        rw [← ih hnodup hrest]
        by_cases hreq : isRequester requester head.key
        · simp [hreq]
        · simp [hreq, sentIn, hne]

/-- What the tick makes of an entry that stays: nothing, or a check that was due is sent. -/
inductive Ticked (cfg : UnsolConfig) (env : UnsolEnv) (effects : List UnsolEffect)
    (entry : UnsolController) : UnsolController → Prop where
  | idle (hnone : effects.any (isCheckOf entry.key) = false) : Ticked cfg env effects entry entry
  | checked (aecpSeqId : UInt16) (hdue : entry.checkDue cfg env)
      (hcheck : effects.any (isCheckOf entry.key)) :
      Ticked cfg env effects entry (avbUnsolSendCheck cfg env aecpSeqId entry).1

variable {aecpSeqId : UInt16}

/-- The effects in front concern other controllers. -/
theorem Ticked.cons {effects : List UnsolEffect} (h : Ticked cfg env effects entry entry')
    {e : UnsolEffect} (he : isCheckOf entry.key e = false) :
    Ticked cfg env (e :: effects) entry entry' := by
  cases h with
  | idle hnone => exact .idle (by simp [he, hnone])
  | checked aecpSeqId hdue hcheck => exact .checked aecpSeqId hdue (by simp [hcheck])

theorem Ticked.key_eq {effects : List UnsolEffect} (h : Ticked cfg env effects entry entry') :
    entry'.key = entry.key := by
  cases h <;> rfl

theorem Ticked.seqIds_eq {effects : List UnsolEffect} (h : Ticked cfg env effects entry entry') :
    entry'.seqIds = entry.seqIds := by
  cases h <;> rfl

theorem tickEntries_keys : (((tickEntries cfg env aecpSeqId entries).1).map (·.key)).Sublist
    (entries.map (·.key)) := by
  induction entries generalizing aecpSeqId with
  | nil => exact List.Sublist.refl _
  | cons entry rest ih =>
      unfold tickEntries
      dsimp only
      split_ifs
      · exact ih.cons _
      · exact ih.cons_cons _
      · exact ih.cons_cons _

theorem tickEntries_effects_mem {e : UnsolEffect}
    (he : e ∈ (tickEntries cfg env aecpSeqId entries).2.2) :
    (∃ k seqId, e = .check k seqId ∧ k ∈ entries.map (·.key)) ∨
      ∃ k kind seqId, e = .notification k kind seqId ∧ k ∈ entries.map (·.key) := by
  induction entries generalizing aecpSeqId with
  | nil => cases he
  | cons entry rest ih =>
      have hrest : ∀ {aecpSeqId'}, e ∈ (tickEntries cfg env aecpSeqId' rest).2.2 →
          (∃ k seqId, e = .check k seqId ∧ k ∈ (entry :: rest).map (·.key)) ∨
            ∃ k kind seqId, e = .notification k kind seqId ∧ k ∈ (entry :: rest).map (·.key) := by
        intro aecpSeqId' hmem
        rcases ih hmem with ⟨k, seqId, heq, hk⟩ | ⟨k, kind, seqId, heq, hk⟩
        · exact Or.inl ⟨k, seqId, heq, List.mem_cons_of_mem _ hk⟩
        · exact Or.inr ⟨k, kind, seqId, heq, List.mem_cons_of_mem _ hk⟩
      unfold tickEntries at he
      dsimp only at he
      split_ifs at he
      · rcases List.mem_cons.mp he with rfl | hmem
        · exact Or.inr ⟨_, _, _, rfl, by simp⟩
        · exact hrest hmem
      · rcases List.mem_cons.mp he with rfl | hmem
        · exact Or.inl ⟨_, _, rfl, by simp⟩
        · exact hrest hmem
      · exact hrest he

theorem tickEntries_no_check (hkey : key ∉ entries.map (·.key)) :
    (tickEntries cfg env aecpSeqId entries).2.2.any (isCheckOf key) = false := by
  rw [List.any_eq_false]
  intro e he
  rcases tickEntries_effects_mem he with ⟨k, seqId, rfl, hk⟩ | ⟨k, kind, seqId, rfl, hk⟩
  · have hne : k ≠ key := fun h => hkey (h ▸ hk)
    simpa [isCheckOf] using hne
  · simp [isCheckOf]

theorem tickEntries_sentIn_of_notMem (hkey : key ∉ entries.map (·.key)) :
    sentIn key kind (tickEntries cfg env aecpSeqId entries).2.2 = [] := by
  rw [sentIn, List.filterMap_eq_nil_iff]
  intro e he
  rcases tickEntries_effects_mem he with ⟨k, seqId, rfl, hk⟩ | ⟨k, κ, seqId, rfl, hk⟩
  · rfl
  · have hne : k ≠ key := fun h => hkey (h ▸ hk)
    simp [hne]

/-- Where an entry of the table goes in a tick: out, as lapsed or departed, or on. -/
inductive TickedTo (cfg : UnsolConfig) (env : UnsolEnv) (entry : UnsolController)
    (left : List UnsolController) (effects : List UnsolEffect) : Prop where
  | out (hgone : entry.key ∉ left.map (·.key))
      (hwhy : entry.lapsed env.nowUs || entry.departed cfg env)
      (hsent : ∀ kind, sentIn entry.key kind effects =
        if kind = .aem then [entry.seqIds .aem] else [])
  | on (entry' : UnsolController) (hleft : entry' ∈ left)
      (hticked : Ticked cfg env effects entry entry')
      (hsent : ∀ kind, sentIn entry.key kind effects = [])

/-- The tick of another entry in front. -/
theorem TickedTo.cons {left left' : List UnsolController} {effects : List UnsolEffect}
    {e : UnsolEffect} (h : TickedTo cfg env entry left effects)
    (hleft : ∀ x ∈ left, x ∈ left') (hback : ∀ x ∈ left', x ∈ left ∨ x.key ≠ entry.key)
    (hcheck : isCheckOf entry.key e = false) (hnone : ∀ kind, sentIn entry.key kind [e] = []) :
    TickedTo cfg env entry left' (e :: effects) := by
  have hcons : ∀ kind, sentIn entry.key kind (e :: effects) = sentIn entry.key kind effects := by
    intro kind
    have happ : sentIn entry.key kind (e :: effects) =
        sentIn entry.key kind [e] ++ sentIn entry.key kind effects :=
      List.filterMap_append (l := [e])
    rw [happ, hnone kind, List.nil_append]
  cases h with
  | out hgone hwhy hsent =>
      refine .out ?_ hwhy fun kind => (hcons kind).trans (hsent kind)
      intro hmem
      obtain ⟨x, hx, hkey⟩ := List.mem_map.mp hmem
      rcases hback x hx with hx | hne
      · exact hgone (List.mem_map.mpr ⟨x, hx, hkey⟩)
      · exact hne hkey
  | on entry' hmem hticked hsent =>
      exact .on entry' (hleft entry' hmem) (hticked.cons hcheck)
        fun kind => (hcons kind).trans (hsent kind)

theorem tickEntries_spec (hnodup : (entries.map (·.key)).Nodup) (hentry : entry ∈ entries) :
    TickedTo cfg env entry (tickEntries cfg env aecpSeqId entries).1
      (tickEntries cfg env aecpSeqId entries).2.2 := by
  induction entries generalizing aecpSeqId with
  | nil => cases hentry
  | cons head rest ih =>
      obtain ⟨hnotMem, hnodup⟩ := List.nodup_cons.mp hnodup
      have hnone : ∀ {aecpSeqId' : UInt16} {kind : UnsolKind},
          sentIn head.key kind (tickEntries cfg env aecpSeqId' rest).2.2 = [] :=
        tickEntries_sentIn_of_notMem hnotMem
      have hgone : ∀ {aecpSeqId' : UInt16},
          head.key ∉ (tickEntries cfg env aecpSeqId' rest).1.map (·.key) :=
        fun h => hnotMem (tickEntries_keys.subset h)
      unfold tickEntries
      dsimp only
      rcases List.mem_cons.mp hentry with rfl | hrest
      · split_ifs with hout hdue
        · refine .out hgone hout fun kind => ?_
          by_cases hkind : kind = .aem
          · subst hkind
            simpa [sentIn] using hnone
          · simpa [sentIn, hkind, Ne.symm hkind] using hnone
        · refine .on _ List.mem_cons_self (.checked aecpSeqId hdue ?_) fun kind => ?_
          · simp [isCheckOf, avbUnsolSendCheck]
          · simpa [sentIn, avbUnsolSendCheck] using hnone
        · refine .on _ List.mem_cons_self (.idle (tickEntries_no_check hnotMem)) fun kind => hnone
      · have hne : head.key ≠ entry.key := fun h =>
          hnotMem (List.mem_map.mpr ⟨entry, hrest, h.symm⟩)
        split_ifs with hout hdue
        · apply (ih hnodup hrest).cons (fun _ h => h) fun _ h => Or.inl h
          · rfl
          · simp [sentIn, hne]
        · refine (ih hnodup hrest).cons (fun _ h => List.mem_cons_of_mem _ h) ?_ ?_ ?_
          · intro x hx
            rcases List.mem_cons.mp hx with rfl | hx
            · exact Or.inr hne
            · exact Or.inl hx
          · simp [isCheckOf, avbUnsolSendCheck, hne]
          · simp [sentIn, avbUnsolSendCheck]
        · have hto : TickedTo cfg env entry (tickEntries cfg env aecpSeqId rest).1
              (tickEntries cfg env aecpSeqId rest).2.2 := ih hnodup hrest
          rcases hto with ⟨hgone', hwhy, hsent⟩ | ⟨entry', hleft, hticked, hsent⟩
          · refine .out ?_ hwhy hsent
            rw [List.map_cons, List.mem_cons, not_or]
            exact ⟨hne.symm, hgone'⟩
          · exact .on entry' (List.mem_cons_of_mem _ hleft) hticked hsent

theorem mem_tickEntries (hnodup : (entries.map (·.key)).Nodup)
    (h : entry' ∈ (tickEntries cfg env aecpSeqId entries).1) :
    ∃ entry ∈ entries, Ticked cfg env (tickEntries cfg env aecpSeqId entries).2.2 entry entry' ∧
      ∀ kind, sentIn entry.key kind (tickEntries cfg env aecpSeqId entries).2.2 = [] := by
  have hkey : entry'.key ∈ (tickEntries cfg env aecpSeqId entries).1.map (·.key) :=
    List.mem_map_of_mem h
  obtain ⟨entry, hentry, heq⟩ := List.mem_map.mp (tickEntries_keys.subset hkey)
  have hto : TickedTo cfg env entry (tickEntries cfg env aecpSeqId entries).1
      (tickEntries cfg env aecpSeqId entries).2.2 := tickEntries_spec hnodup hentry
  rcases hto with ⟨hgone, -, -⟩ | ⟨entry'', hleft, hticked, hsent⟩
  · exact absurd (heq ▸ hkey) hgone
  · have hsame : entry'' = entry' :=
      List.inj_on_of_nodup_map (hnodup.sublist tickEntries_keys) hleft h
        (hticked.key_eq.trans heq)
    exact ⟨entry, hentry, hsame ▸ hticked, hsent⟩

theorem keys_notify {msgLen : Nat} {requester : Option (UniqueId × Option EthAddr)} :
    (avbUnsolNotify s msgLen kind requester).keys = s.keys := by
  unfold avbUnsolNotify
  split_ifs
  · rfl
  · unfold UnsolState.keys
    dsimp only
    rw [notifyEntries_fst]
    apply map_key_map
    intro entry
    split_ifs <;> rfl

theorem mem_keys_register {k : ControllerKey} {timeLimited : Bool} (h : key ∈ s.keys) :
    key ∈ (avbUnsolRegister env s k timeLimited).keys := by
  unfold avbUnsolRegister
  split_ifs
  · have hkeys : (modifyController k (.renew env timeLimited) s.controllers).map (·.key) = s.keys :=
      map_modifyController fun _ => rfl
    exact (congrArg (key ∈ ·) hkeys).mpr h
  · have hkeys := map_key_map (f := fun entry : UnsolController =>
        if entry.replyDueUs = 0 then { entry with checkDueUs := env.nowUs } else entry)
      (fun entry => by split_ifs <;> rfl) s.controllers
    exact (congrArg (key ∈ ·) hkeys).mpr h
  · unfold UnsolState.keys
    rw [List.map_append]
    exact List.mem_append_left _ h

/-! ### The invariant -/

/-- An entry as the monitor sees it. -/
structure Tracked (cfg : UnsolConfig) (m : UnsolMonitor) (entry : UnsolController) : Prop where
  timeLimited : entry.timeLimited = m.timeLimited entry.key
  expires : entry.expiresUs = m.registeredUs entry.key + unsolTimeLimitUs
  idle : entry.replyDueUs = 0 → entry.checksSent = 0
  waiting : entry.replyDueUs ≠ 0 → 0 < entry.checksSent ∧
    ∃ last rest, m.unanswered entry.key = last :: rest ∧ entry.replyDueUs = last + cfg.replyUs ∧
      (2 ≤ entry.checksSent → ∃ first rest', rest = first :: rest' ∧ first + cfg.replyUs ≤ last)

structure UnsolKept (cfg : UnsolConfig) (w : UnsolState × UnsolMonitor) : Prop where
  nodup : w.1.keys.Nodup
  length_le : w.1.controllers.length ≤ avbMaxUnsolControllers
  counted : Counted w.1
  tracked : ∀ entry ∈ w.1.controllers, Tracked cfg w.2 entry

variable {m : UnsolMonitor} {w : UnsolState × UnsolMonitor}

theorem replyUs_pos (cfg : UnsolConfig) : 0 < cfg.replyUs := by
  unfold UnsolConfig.replyUs
  split_ifs <;> decide

theorem UnsolKept.blank (cfg : UnsolConfig) (aecpSeqId : UInt16) :
    UnsolKept cfg (.blank aecpSeqId, .blank) where
  nodup := List.nodup_nil
  length_le := Nat.zero_le _
  counted := ⟨fun _ _ => Consecutive.nil, by simp [UnsolState.blank]⟩
  tracked := by simp [UnsolState.blank]

theorem Tracked.of_unanswered {m' : UnsolMonitor} (h : Tracked cfg m entry)
    (hlimited : m'.timeLimited entry.key = m.timeLimited entry.key)
    (hregistered : m'.registeredUs entry.key = m.registeredUs entry.key)
    (hunanswered : m'.unanswered entry.key = m.unanswered entry.key) : Tracked cfg m' entry where
  timeLimited := hlimited ▸ h.timeLimited
  expires := hregistered ▸ h.expires
  idle := h.idle
  waiting := hunanswered ▸ h.waiting

/-- An entry rearmed, whatever the monitor thinks of its checks. -/
theorem Tracked.rearm {m' : UnsolMonitor}
    (hlimited : entry.timeLimited = m'.timeLimited entry.key)
    (hexpires : entry.expiresUs = m'.registeredUs entry.key + unsolTimeLimitUs) :
    Tracked cfg m' (entry.rearm env) where
  timeLimited := hlimited
  expires := hexpires
  idle _ := rfl
  waiting h := absurd rfl h

theorem Tracked.heard_of_ne (h : Tracked cfg m entry) (hne : entry.key ≠ key) :
    Tracked cfg (m.heard key) entry :=
  h.of_unanswered rfl rfl (Function.update_of_ne hne _ _)

/-- A check that was due has been sent. -/
theorem Tracked.check {m' : UnsolMonitor} (h : Tracked cfg m entry)
    (hdue : entry.checkDue cfg env) (hlimited : m'.timeLimited = m.timeLimited)
    (hregistered : m'.registeredUs = m.registeredUs)
    (hunanswered : m'.unanswered entry.key = env.nowUs :: m.unanswered entry.key) :
    Tracked cfg m' (avbUnsolSendCheck cfg env aecpSeqId entry).1 where
  timeLimited := by
    rw [hlimited]
    exact h.timeLimited
  expires := by
    rw [hregistered]
    exact h.expires
  idle hzero := by
    have hpos := replyUs_pos cfg
    have hreply : env.nowUs + cfg.replyUs = 0 := hzero
    omega
  waiting _ := by
    refine ⟨Nat.succ_pos _, env.nowUs, m.unanswered entry.key, hunanswered, rfl, ?_⟩
    intro htwo
    have hsent : 1 ≤ entry.checksSent := Nat.le_of_succ_le_succ htwo
    have hpending : entry.replyDueUs ≠ 0 := by
      intro hzero
      rw [h.idle hzero] at hsent
      exact absurd hsent (by decide)
    obtain ⟨-, last, rest, hlist, hreply, -⟩ := h.waiting hpending
    refine ⟨last, rest, hlist, ?_⟩
    -- the retry waits for the time of the first reply to be over
    have hover : entry.replyDueUs ≤ env.nowUs := by
      simp only [UnsolController.checkDue, hpending, ne_eq, not_false_eq_true, if_true,
        Bool.and_eq_true, decide_eq_true_eq] at hdue
      exact hdue.2.1
    omega

/-- Steps that send nothing and change entries in place. -/
theorem UnsolKept.inPlace {s' : UnsolState} {m' : UnsolMonitor} (h : UnsolKept cfg w)
    (hkeys : s'.keys = w.1.keys) (heffects : s'.effects = w.1.effects)
    (hkept : ∀ entry' ∈ s'.controllers, ∃ entry ∈ w.1.controllers,
      entry.key = entry'.key ∧ entry'.seqIds = entry.seqIds)
    (htracked : ∀ entry' ∈ s'.controllers, Tracked cfg m' entry') : UnsolKept cfg (s', m') where
  nodup := hkeys ▸ h.nodup
  length_le := by
    have hlen : s'.controllers.length = w.1.controllers.length := by
      simpa [UnsolState.keys] using congrArg List.length hkeys
    exact hlen.trans_le h.length_le
  counted := h.counted.of_same heffects hkept
  tracked := htracked

theorem UnsolKept.heard (h : UnsolKept cfg w) (env : UnsolEnv) (key : ControllerKey) :
    UnsolKept cfg (avbUnsolHeard env w.1 key, w.2.heard key) := by
  apply h.inPlace
  · exact map_modifyController fun _ => rfl
  · rfl
  · intro entry' hentry'
    rcases mem_modifyController h.nodup hentry' with ⟨entry, hentry, -, rfl⟩ | ⟨hentry, -⟩
    · exact ⟨entry, hentry, rfl, rfl⟩
    · exact ⟨entry', hentry, rfl, rfl⟩
  · intro entry' hentry'
    rcases mem_modifyController h.nodup hentry' with ⟨entry, hentry, hkey, rfl⟩ | ⟨hentry, hne⟩
    · exact .rearm (h.tracked entry hentry).timeLimited (h.tracked entry hentry).expires
    · exact (h.tracked entry' hentry).heard_of_ne hne

theorem UnsolKept.replied (h : UnsolKept cfg w) (env : UnsolEnv) (entityId : UniqueId)
    (seqId : UInt16) :
    UnsolKept cfg (avbUnsolControllerReplied env w.1 entityId seqId,
      (answeredBy w.1 entityId seqId).elim w.2 w.2.heard) := by
  apply h.inPlace
  · exact map_rearmAwaiting fun _ => rfl
  · rfl
  · intro entry' hentry'
    rcases mem_rearmAwaiting h.nodup hentry' with ⟨entry, hentry, -, rfl⟩ | ⟨hentry, -⟩
    · exact ⟨entry, hentry, rfl, rfl⟩
    · exact ⟨entry', hentry, rfl, rfl⟩
  · intro entry' hentry'
    have hmonitor : ∀ m', m' = (answeredBy w.1 entityId seqId).elim w.2 w.2.heard →
        m'.timeLimited = w.2.timeLimited ∧ m'.registeredUs = w.2.registeredUs := by
      rintro m' rfl
      cases answeredBy w.1 entityId seqId with
      | none => exact ⟨rfl, rfl⟩
      | some key => exact ⟨rfl, rfl⟩
    obtain ⟨hlimited, hregistered⟩ := hmonitor _ rfl
    rcases mem_rearmAwaiting h.nodup hentry' with ⟨entry, hentry, -, rfl⟩ | ⟨hentry, hother⟩
    · apply Tracked.rearm
      · rw [hlimited]
        exact (h.tracked entry hentry).timeLimited
      · rw [hregistered]
        exact (h.tracked entry hentry).expires
    · have hold := h.tracked entry' hentry
      unfold answeredBy
      split
      · rename_i entry hone
        exact hold.heard_of_ne (Ne.symm (hother entry hone))
      · exact hold

theorem UnsolKept.register (h : UnsolKept cfg w) (env : UnsolEnv) (key : ControllerKey)
    (timeLimited : Bool) (sent : List UnsolEffect) :
    UnsolKept cfg (avbUnsolRegister env w.1 key timeLimited,
      w.2.step w.1 sent (.register env key timeLimited)) := by
  have hother : ∀ entry : UnsolController, Tracked cfg w.2 entry → entry.key ≠ key →
      Tracked cfg (w.2.step w.1 sent (.register env key timeLimited)) entry := by
    intro entry hentry hne
    exact hentry.of_unanswered (Function.update_of_ne hne _ _) (Function.update_of_ne hne _ _)
      (Function.update_of_ne hne _ _)
  have hrenewed : ∀ entry : UnsolController, entry.key = key →
      Tracked cfg (w.2.step w.1 sent (.register env key timeLimited))
        (entry.renew env timeLimited) := by
    intro entry hkey
    apply Tracked.rearm
    · simp [UnsolMonitor.step, hkey]
    · simp [UnsolMonitor.step, hkey]
  unfold avbUnsolRegister
  split_ifs with hmem hfull
  · apply h.inPlace
    · exact map_modifyController fun _ => rfl
    · rfl
    · intro entry' hentry'
      rcases mem_modifyController h.nodup hentry' with ⟨entry, hentry, -, rfl⟩ | ⟨hentry, -⟩
      · exact ⟨entry, hentry, rfl, rfl⟩
      · exact ⟨entry', hentry, rfl, rfl⟩
    · intro entry' hentry'
      rcases mem_modifyController h.nodup hentry' with ⟨entry, -, hkey, rfl⟩ | ⟨hentry, hne⟩
      · exact hrenewed entry hkey
      · exact hother entry' (h.tracked entry' hentry) hne
  · -- a full table: only the times of the next checks change
    have hentries : ∀ entry' ∈ w.1.controllers.map (fun entry : UnsolController =>
        if entry.replyDueUs = 0 then { entry with checkDueUs := env.nowUs } else entry),
        ∃ entry ∈ w.1.controllers, entry' = { entry with checkDueUs := entry'.checkDueUs } := by
      intro entry' hentry'
      obtain ⟨entry, hentry, rfl⟩ := List.mem_map.mp hentry'
      refine ⟨entry, hentry, ?_⟩
      split_ifs <;> rfl
    apply h.inPlace
    · apply map_key_map
      intro entry
      split_ifs <;> rfl
    · rfl
    · intro entry' hentry'
      obtain ⟨entry, hentry, heq⟩ := hentries entry' hentry'
      rw [heq]
      exact ⟨entry, hentry, rfl, rfl⟩
    · intro entry' hentry'
      obtain ⟨entry, hentry, heq⟩ := hentries entry' hentry'
      have hne : entry.key ≠ key := fun hkey => hmem (hkey ▸ List.mem_map_of_mem hentry)
      have hold := hother entry (h.tracked entry hentry) hne
      rw [heq]
      exact ⟨hold.timeLimited, hold.expires, hold.idle, hold.waiting⟩
  · have hother' : ∀ entry ∈ w.1.controllers, entry.key ≠ key := fun entry hentry hkey =>
      hmem (hkey ▸ List.mem_map_of_mem hentry)
    have hids : ∀ k kind, seqIdsSent k kind (w.1.effects ++ [.registered key]) =
        if key = k then [] else seqIdsSent k kind w.1.effects := by
      intro k kind
      unfold seqIdsSent
      rw [List.foldl_append]
      rfl
    refine ⟨?_, ?_, ⟨?_, ?_⟩, ?_⟩
    · have hkeys : (w.1.controllers ++ [(UnsolController.fresh key).renew env timeLimited]).map
          (·.key) = w.1.keys ++ [key] := by
        simp [UnsolState.keys, UnsolController.renew, UnsolController.rearm, UnsolController.fresh]
      show ((w.1.controllers ++ [(UnsolController.fresh key).renew env timeLimited]).map
          (·.key)).Nodup
      rw [hkeys]
      exact List.nodup_append.mpr ⟨h.nodup, List.nodup_singleton key, by
        intro k hk k' hk' heq
        rw [List.mem_singleton] at hk'
        exact hmem (hk' ▸ heq ▸ hk)⟩
    · simp only [List.length_append, List.length_singleton]
      omega
    · intro k kind
      rw [hids]
      split_ifs
      · exact Consecutive.nil
      · exact h.counted.consecutive k kind
    · intro entry' hentry' kind
      rw [hids]
      rcases List.mem_append.mp hentry' with hold | hnew
      · rw [if_neg (hother' entry' hold).symm]
        exact h.counted.counter entry' hold kind
      · obtain rfl := List.mem_singleton.mp hnew
        have hkey : key = ((UnsolController.fresh key).renew env timeLimited).key := rfl
        rw [if_pos hkey]
        rfl
    · intro entry' hentry'
      rcases List.mem_append.mp hentry' with hold | hnew
      · exact hother entry' (h.tracked entry' hold) (hother' entry' hold)
      · obtain rfl := List.mem_singleton.mp hnew
        exact hrenewed _ rfl

theorem UnsolKept.deregister (h : UnsolKept cfg w) (key : ControllerKey) :
    UnsolKept cfg (avbUnsolDeregister w.1 key, w.2) where
  nodup := h.nodup.sublist (List.eraseP_sublist.map _)
  length_le := (List.length_eraseP_le).trans h.length_le
  counted := h.counted.of_same rfl fun entry' hentry' =>
    ⟨entry', List.mem_of_mem_eraseP hentry', rfl, rfl⟩
  tracked entry hentry := h.tracked entry (List.mem_of_mem_eraseP hentry)

theorem UnsolKept.notify (h : UnsolKept cfg w) (msgLen : Nat) (kind : UnsolKind)
    (requester : Option (UniqueId × Option EthAddr)) :
    UnsolKept cfg (avbUnsolNotify w.1 msgLen kind requester, w.2) := by
  unfold avbUnsolNotify
  split_ifs
  · exact h
  · dsimp only
    rw [notifyEntries_fst]
    have hfrom : ∀ entry' ∈ w.1.controllers.map (fun entry : UnsolController =>
        if isRequester requester entry.key then entry else entry.sent kind),
        ∃ entry ∈ w.1.controllers, entry.key = entry'.key ∧
          entry' = if isRequester requester entry.key then entry else entry.sent kind := by
      intro entry' hentry'
      obtain ⟨entry, hentry, rfl⟩ := List.mem_map.mp hentry'
      refine ⟨entry, hentry, ?_, rfl⟩
      split_ifs <;> rfl
    refine ⟨?_, ?_, ?_, ?_⟩
    · have hkeys : (w.1.controllers.map fun entry : UnsolController =>
          if isRequester requester entry.key then entry else entry.sent kind).map (·.key) =
            w.1.keys := by
        apply map_key_map
        intro entry
        split_ifs <;> rfl
      exact (congrArg List.Nodup hkeys).mpr h.nodup
    · simpa using h.length_le
    · apply h.counted.send
      · exact fun k => notifyEntries_not_registered
      · intro k κ
        by_cases hk : k ∈ w.1.keys
        · obtain ⟨entry, hentry, rfl⟩ := List.mem_map.mp hk
          rw [sentIn_notifyEntries h.nodup hentry]
          split_ifs
          · exact Or.inr ⟨entry, hentry, rfl, rfl⟩
          · exact Or.inl rfl
        · exact Or.inl (sentIn_notifyEntries_of_notMem hk)
      · intro entry' hentry'
        obtain ⟨entry, hentry, hkey, rfl⟩ := hfrom entry' hentry'
        refine ⟨entry, hentry, hkey, fun κ => ?_⟩
        rw [sentIn_notifyEntries h.nodup hentry]
        by_cases hreq : isRequester requester entry.key
        · simp [hreq]
        · by_cases hκ : κ = kind
          · subst hκ
            simp [hreq, UnsolController.sent]
          · simp [hreq, hκ, UnsolController.sent]
    · intro entry' hentry'
      obtain ⟨entry, hentry, -, rfl⟩ := hfrom entry' hentry'
      have hold := h.tracked entry hentry
      split_ifs
      · exact hold
      · exact ⟨hold.timeLimited, hold.expires, hold.idle, hold.waiting⟩

theorem UnsolKept.tick (h : UnsolKept cfg w) (env : UnsolEnv) :
    let s' := avbUnsolRegistrationsTick cfg env w.1
    UnsolKept cfg (s', w.2.step w.1 (s'.effects.drop w.1.effects.length) (.tick env)) := by
  have hdrop : (avbUnsolRegistrationsTick cfg env w.1).effects.drop w.1.effects.length =
      (tickEntries cfg env w.1.aecpSeqId w.1.controllers).2.2 :=
    List.drop_left
  dsimp only
  rw [hdrop]
  refine ⟨h.nodup.sublist tickEntries_keys, ?_, ?_, ?_⟩
  · have hlen : (tickEntries cfg env w.1.aecpSeqId w.1.controllers).1.length ≤
        w.1.controllers.length := by
      have hsub : ((tickEntries cfg env w.1.aecpSeqId w.1.controllers).1.map (·.key)).Sublist
          (w.1.controllers.map (·.key)) := tickEntries_keys
      simpa using hsub.length_le
    exact hlen.trans h.length_le
  · apply h.counted.send
    · intro k hk
      rcases tickEntries_effects_mem hk with ⟨_, _, heq, -⟩ | ⟨_, _, _, heq, -⟩
      · cases heq
      · cases heq
    · intro k kind
      by_cases hk : k ∈ w.1.keys
      · obtain ⟨entry, hentry, rfl⟩ := List.mem_map.mp hk
        rcases tickEntries_spec h.nodup hentry with ⟨-, -, hsent⟩ | ⟨entry', -, -, hsent⟩
        · rw [hsent kind]
          split_ifs with hkind
          · exact Or.inr ⟨entry, hentry, rfl, by rw [hkind]⟩
          · exact Or.inl rfl
        · exact Or.inl (hsent kind)
      · exact Or.inl (tickEntries_sentIn_of_notMem hk)
    · intro entry' hentry'
      obtain ⟨entry, hentry, hticked, hsent⟩ := mem_tickEntries h.nodup hentry'
      refine ⟨entry, hentry, hticked.key_eq.symm, fun kind => ?_⟩
      rw [hsent kind, hticked.seqIds_eq]
      simp
  · intro entry' hentry'
    obtain ⟨entry, hentry, hticked, -⟩ := mem_tickEntries h.nodup hentry'
    have hold := h.tracked entry hentry
    cases hticked with
    | idle hnone =>
        refine hold.of_unanswered rfl rfl ?_
        simp only [UnsolMonitor.step, hnone, Bool.false_eq_true, if_false]
    | checked aecpSeqId hdue hcheck =>
        refine hold.check hdue rfl rfl ?_
        simp only [UnsolMonitor.step, hcheck, if_true]

theorem watchedUnsolStep_kept (h : UnsolKept cfg w) (e : UnsolEvent) :
    UnsolKept cfg (watchedUnsolStep cfg w e) := by
  cases e with
  | register env key timeLimited => exact h.register env key timeLimited _
  | deregister key => exact h.deregister key
  | heard env key => exact h.heard env key
  | replied env entityId seqId => exact h.replied env entityId seqId
  | notify msgLen kind requester => exact h.notify msgLen kind requester
  | tick env => exact h.tick env

/-- A departed entry in the monitor's terms. -/
theorem Tracked.leftTwoChecks (h : Tracked cfg m entry) (hgone : entry.departed cfg env) :
    LeftTwoChecks cfg m entry.key env.nowUs := by
  simp only [UnsolController.departed, Bool.and_eq_true, bne_iff_ne, ne_eq,
    decide_eq_true_eq] at hgone
  obtain ⟨⟨⟨-, hpending⟩, hover⟩, htwo⟩ := hgone
  obtain ⟨-, second, rest, hlist, hreply, hfirst⟩ := h.waiting hpending
  obtain ⟨first, rest', rfl, hspaced⟩ := hfirst htwo
  exact ⟨first, second, rest', hlist, hspaced, hreply ▸ hover⟩

theorem Tracked.registrationLapsed (h : Tracked cfg m entry) (hgone : entry.lapsed env.nowUs) :
    RegistrationLapsed m entry.key env.nowUs := by
  simp only [UnsolController.lapsed, Bool.and_eq_true, decide_eq_true_eq] at hgone
  exact ⟨h.timeLimited ▸ hgone.1, h.expires ▸ hgone.2⟩

/-- An entry leaves the table in one step for one of the three reasons. -/
theorem UnsolKept.removedFor (h : UnsolKept cfg w) (e : UnsolEvent) (hkey : key ∈ w.1.keys)
    (hgone : key ∉ (unsolStep cfg w.1 e).keys) : RemovedFor cfg w.2 key e := by
  cases e with
  | heard env k =>
      have hkeys : (avbUnsolHeard env w.1 k).keys = w.1.keys := map_modifyController fun _ => rfl
      exact absurd (hkeys ▸ hkey) hgone
  | replied env entityId seqId =>
      have hkeys : (avbUnsolControllerReplied env w.1 entityId seqId).keys = w.1.keys :=
        map_rearmAwaiting fun _ => rfl
      exact absurd (hkeys ▸ hkey) hgone
  | register env k timeLimited => exact absurd (mem_keys_register hkey) hgone
  | notify msgLen kind requester =>
      have hkeys : (avbUnsolNotify w.1 msgLen kind requester).keys = w.1.keys := keys_notify
      exact absurd (hkeys ▸ hkey) hgone
  | deregister k =>
      by_contra hne
      obtain ⟨entry, hentry, rfl⟩ := List.mem_map.mp hkey
      apply hgone
      have hstay : entry ∈ w.1.controllers.eraseP (·.key = k) := by
        apply (List.mem_eraseP_of_neg _).mpr hentry
        simpa using Ne.symm hne
      exact List.mem_map_of_mem hstay
  | tick env =>
      obtain ⟨entry, hentry, rfl⟩ := List.mem_map.mp hkey
      rcases tickEntries_spec h.nodup hentry with ⟨-, hwhy, -⟩ | ⟨entry', hleft, hticked, -⟩
      · rcases Bool.or_eq_true_iff.mp hwhy with hlapsed | hdeparted
        · exact Or.inl ((h.tracked entry hentry).registrationLapsed hlapsed)
        · exact Or.inr ((h.tracked entry hentry).leftTwoChecks hdeparted)
      · exact absurd (hticked.key_eq ▸ List.mem_map_of_mem hleft) hgone

/-- The registry over every run: no controller twice, never more than the table holds, sequence IDs
counting up from each registration, and nobody removed but for one of the three reasons. -/
theorem unsol_registry (cfg : UnsolConfig) (aecpSeqId : UInt16) (events : List UnsolEvent) :
    let w := Machine.run (watchedUnsolStep cfg) (.blank aecpSeqId, .blank) events
    w.1.keys.Nodup ∧ w.1.controllers.length ≤ avbMaxUnsolControllers ∧
      (∀ key kind, Consecutive (seqIdsSent key kind w.1.effects)) ∧
      ∀ e, ∀ key ∈ w.1.keys, key ∉ (unsolStep cfg w.1 e).keys → RemovedFor cfg w.2 key e := by
  intro w
  have hkept : UnsolKept cfg w :=
    Machine.run_invariant (UnsolKept cfg) (fun _ e h => watchedUnsolStep_kept h e)
      (.blank cfg aecpSeqId) events
  exact ⟨hkept.nodup, hkept.length_le, hkept.counted.consecutive,
    fun e key hkey hgone => hkept.removedFor e hkey hgone⟩

end EspAvb
