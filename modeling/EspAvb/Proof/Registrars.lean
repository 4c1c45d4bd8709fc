import EspAvb.Proof.Mvrp
import EspAvb.Proof.Tables

/-!
# Registrars and their LeaveTimers

A LeaveTimer runs exactly while its Registrar is LV, and outside AVB Lite a stream is registered on a
port by Talker Advertise or by Talker Failed, not by both. Two steps break this: a value that displaces
a twin in LV takes the twin's Registrar to MT and forgets the timer, and leaving AVB Lite keeps what
AVB Lite let register twice.
-/

namespace EspAvb

open Relation

variable {cfg : Config}

/-- The LeaveTimer of every entry runs exactly while its Registrar is LV. -/
structure TimersOk (s : AvbState cfg) : Prop where
  talkers : ∀ p i e, s.talkers p i = some e → e.sm.TimerOk
  listeners : ∀ p i e, s.listeners p i = some e → e.sm.TimerOk
  domains : ∀ p i e, s.domains p i = some e → e.sm.TimerOk

/-- At most one of a port's two entries of stream `streamId` is registered. -/
def Alternates (s : AvbState cfg) (p : cfg.Port) (streamId : UniqueId) : Prop :=
  ∀ i j e twin, s.talkers p i = some e → s.talkers p j = some twin →
    e.key = (streamId, .talkerAdvertise) → twin.key = (streamId, .talkerFailed) →
    e.sm.registrar = .MT ∨ twin.sm.registrar = .MT

structure RegistrarsOk (s : AvbState cfg) : Prop where
  timers : TimersOk s
  alternates : s.avbLite = false → ∀ p streamId, Alternates s p streamId

/-! ### Steps that register no talker -/

/-- Every talker entry after is unregistered or one from before that no peer has registered since, and
no timer has come apart from its Registrar. -/
structure Quiet (s s' : AvbState cfg) : Prop where
  talkers : ∀ p i e', s'.talkers p i = some e' → (e'.sm.registrar = .MT ∧ e'.sm.TimerOk)
    ∨ ∃ e, s.talkers p i = some e ∧ e'.key = e.key
        ∧ (e'.sm.registrar ≠ .MT → e.sm.registrar ≠ .MT) ∧ (e.sm.TimerOk → e'.sm.TimerOk)
  listeners : ∀ p i e', s'.listeners p i = some e' → e'.sm.TimerOk
    ∨ ∃ e, s.listeners p i = some e ∧ (e.sm.TimerOk → e'.sm.TimerOk)
  domains : ∀ p i e', s'.domains p i = some e' → e'.sm.TimerOk
    ∨ ∃ e, s.domains p i = some e ∧ (e.sm.TimerOk → e'.sm.TimerOk)
  avbLite : s'.avbLite = s.avbLite

namespace Quiet

variable {s s' s'' : AvbState cfg}

theorem refl (s : AvbState cfg) : Quiet s s where
  talkers _ _ e' he' := Or.inr ⟨e', he', rfl, id, id⟩
  listeners _ _ e' he' := Or.inr ⟨e', he', id⟩
  domains _ _ e' he' := Or.inr ⟨e', he', id⟩
  avbLite := rfl

theorem trans (h : Quiet s s') (h' : Quiet s' s'') : Quiet s s'' where
  talkers p i e'' he'' := by
    rcases h'.talkers p i e'' he'' with hnew | ⟨e', he', hkey', hbegins', htimer'⟩
    · exact Or.inl hnew
    · rcases h.talkers p i e' he' with ⟨hmt, hok⟩ | ⟨e, he, hkey, hbegins, htimer⟩
      · refine Or.inl ⟨?_, htimer' hok⟩
        by_contra hregistered
        exact hbegins' hregistered hmt
      · exact Or.inr ⟨e, he, hkey'.trans hkey, hbegins ∘ hbegins', htimer' ∘ htimer⟩
  listeners p i e'' he'' := by
    rcases h'.listeners p i e'' he'' with hnew | ⟨e', he', htimer'⟩
    · exact Or.inl hnew
    · rcases h.listeners p i e' he' with hok | ⟨e, he, htimer⟩
      · exact Or.inl (htimer' hok)
      · exact Or.inr ⟨e, he, fun hok => htimer' (htimer hok)⟩
  domains p i e'' he'' := by
    rcases h'.domains p i e'' he'' with hnew | ⟨e', he', htimer'⟩
    · exact Or.inl hnew
    · rcases h.domains p i e' he' with hok | ⟨e, he, htimer⟩
      · exact Or.inl (htimer' hok)
      · exact Or.inr ⟨e, he, fun hok => htimer' (htimer hok)⟩
  avbLite := h'.avbLite.trans h.avbLite

theorem of_chain {r : AvbState cfg → AvbState cfg → Prop} (hr : ∀ a b, r a b → Quiet a b)
    (h : ReflTransGen r s s') : Quiet s s' := by
  induction h with
  | refl => exact .refl _
  | tail _ hlast ih => exact ih.trans (hr _ _ hlast)

theorem timersOk (h : Quiet s s') (hs : TimersOk s) : TimersOk s' where
  talkers p i e' he' := by
    rcases h.talkers p i e' he' with ⟨-, hok⟩ | ⟨e, he, -, -, htimer⟩
    · exact hok
    · exact htimer (hs.talkers p i e he)
  listeners p i e' he' := by
    rcases h.listeners p i e' he' with hok | ⟨e, he, htimer⟩
    · exact hok
    · exact htimer (hs.listeners p i e he)
  domains p i e' he' := by
    rcases h.domains p i e' he' with hok | ⟨e, he, htimer⟩
    · exact hok
    · exact htimer (hs.domains p i e he)

theorem alternates (h : Quiet s s') {p : cfg.Port} {streamId : UniqueId}
    (hs : Alternates s p streamId) : Alternates s' p streamId := by
  intro i j e' twin' he' htwin' hkey htwinKey
  rcases h.talkers p i e' he' with ⟨hmt, -⟩ | ⟨e, he, hsame, hbegins, -⟩
  · exact Or.inl hmt
  rcases h.talkers p j twin' htwin' with ⟨hmt, -⟩ | ⟨twin, htwin, htwinSame, htwinBegins, -⟩
  · exact Or.inr hmt
  by_contra hboth
  rw [not_or] at hboth
  rcases hs i j e twin he htwin (hsame ▸ hkey) (htwinSame ▸ htwinKey) with hmt | hmt
  · exact hbegins hboth.1 hmt
  · exact htwinBegins hboth.2 hmt

theorem registrarsOk (h : Quiet s s') (hs : RegistrarsOk s) : RegistrarsOk s' where
  timers := h.timersOk hs.timers
  alternates hlite p streamId := h.alternates (hs.alternates (h.avbLite ▸ hlite) p streamId)

/-- One talker slot is written. -/
theorem setTalker {p : cfg.Port} {i : TalkerRef cfg} {slot : Option (MsrpTalkerEntry cfg)}
    (hslot : ∀ e', slot = some e' → (e'.sm.registrar = .MT ∧ e'.sm.TimerOk)
      ∨ ∃ e, s.talkers p i = some e ∧ e'.key = e.key
          ∧ (e'.sm.registrar ≠ .MT → e.sm.registrar ≠ .MT) ∧ (e.sm.TimerOk → e'.sm.TimerOk)) :
    Quiet s (s.setTalker p i slot) where
  talkers q j e' he' := by
    rw [setTalker_apply] at he'
    split at he'
    · rename_i heq
      obtain ⟨rfl, rfl⟩ := heq
      exact hslot e' he'
    · exact Or.inr ⟨e', he', rfl, id, id⟩
  listeners _ _ e' he' := Or.inr ⟨e', he', id⟩
  domains _ _ e' he' := Or.inr ⟨e', he', id⟩
  avbLite := rfl

end Quiet

section Writes

variable {s s' : AvbState cfg}

theorem MsrpTalkerEntry.key_of_account {e e' : MsrpTalkerEntry cfg} (h : e'.account = e.account) :
    e'.key = e.key :=
  congrArg Prod.fst h

theorem withdrawStep_timer {lite : Bool} {sm : MrpSm} (h : sm.TimerOk) :
    (mrpWithdrawStep lite sm).TimerOk := by
  unfold mrpWithdrawStep
  split <;> exact h

/-- A Leave registers nobody. -/
theorem smStep_rLv_begins (nowUs : Nat) (sm : MrpSm)
    (h : (mrpSmStep nowUs sm .rLv).registrar ≠ .MT) : sm.registrar ≠ .MT := by
  intro hmt
  exact h (by simp [mrpSmStep, mrpRegistrarStep, hmt])

theorem quiet_talkers {p : cfg.Port} {t : SlotTable (MsrpTalkerEntry cfg) cfg.talkerTableSize}
    (h : (s.talkers p).Pointwise (TalkerWrite s) t) :
    Quiet s { s with talkers := Function.update s.talkers p t } where
  talkers q i e' he' := by
    dsimp only at he'
    by_cases hq : q = p
    · subst hq
      rw [Function.update_self] at he'
      obtain ⟨e, he, hwrite⟩ := h.origin he'
      exact Or.inr ⟨e, he, MsrpTalkerEntry.key_of_account hwrite.account, hwrite.begins,
        hwrite.sm.timer⟩
    · rw [Function.update_of_ne hq] at he'
      exact Or.inr ⟨e', he', rfl, id, id⟩
  listeners _ _ e' he' := Or.inr ⟨e', he', id⟩
  domains _ _ e' he' := Or.inr ⟨e', he', id⟩
  avbLite := rfl

theorem quiet_listeners {p : cfg.Port} {t : SlotTable MsrpListenerEntry cfg.listenerTableSize}
    (h : ∀ i e', t i = some e' → e'.sm.TimerOk
      ∨ ∃ e, s.listeners p i = some e ∧ (e.sm.TimerOk → e'.sm.TimerOk)) :
    Quiet s { s with listeners := Function.update s.listeners p t } where
  talkers _ _ e' he' := Or.inr ⟨e', he', rfl, id, id⟩
  listeners q i e' he' := by
    dsimp only at he'
    by_cases hq : q = p
    · subst hq
      rw [Function.update_self] at he'
      exact h i e' he'
    · rw [Function.update_of_ne hq] at he'
      exact Or.inr ⟨e', he', id⟩
  domains _ _ e' he' := Or.inr ⟨e', he', id⟩
  avbLite := rfl

theorem quiet_domains {p : cfg.Port} {t : SlotTable MsrpDomainEntry msrpDomainTableSize}
    (h : ∀ i e', t i = some e' → e'.sm.TimerOk
      ∨ ∃ e, s.domains p i = some e ∧ (e.sm.TimerOk → e'.sm.TimerOk)) :
    Quiet s { s with domains := Function.update s.domains p t } where
  talkers _ _ e' he' := Or.inr ⟨e', he', rfl, id, id⟩
  listeners _ _ e' he' := Or.inr ⟨e', he', id⟩
  domains q i e' he' := by
    dsimp only at he'
    by_cases hq : q = p
    · subst hq
      rw [Function.update_self] at he'
      exact h i e' he'
    · rw [Function.update_of_ne hq] at he'
      exact Or.inr ⟨e', he', id⟩
  avbLite := rfl

/-- A listener slot takes an entry whose timer is in order if that of the entry before was. -/
theorem quiet_setListener {p : cfg.Port} {i : ListenerRef cfg} {e' : MsrpListenerEntry}
    (h : e'.sm.TimerOk ∨ ∃ e, s.listeners p i = some e ∧ (e.sm.TimerOk → e'.sm.TimerOk)) :
    Quiet s (s.setListener p i (some e')) := by
  apply quiet_listeners
  intro j e'' he''
  rw [SlotTable.set_apply] at he''
  split at he''
  · rename_i heq
    cases he''
    rw [heq]
    exact h
  · exact Or.inr ⟨e'', he'', id⟩

theorem quiet_addLog (entry : MsrpLog cfg) : Quiet s (s.addLog entry) where
  talkers _ _ e' he' := Or.inr ⟨e', he', rfl, id, id⟩
  listeners _ _ e' he' := Or.inr ⟨e', he', id⟩
  domains _ _ e' he' := Or.inr ⟨e', he', id⟩
  avbLite := rfl

theorem quiet_write {P : cfg.Port → Prop} (h : TableWrite P False s s') : Quiet s s' := by
  cases h with
  | frame h =>
      exact
        { talkers := fun _ _ e' he' => Or.inr ⟨e', h.talkers ▸ he', rfl, id, id⟩
          listeners := fun _ _ e' he' => Or.inr ⟨e', h.listeners ▸ he', id⟩
          domains := fun _ _ e' he' => Or.inr ⟨e', h.domains ▸ he', id⟩
          avbLite := h.avbLite }
  | talkers hport h => exact quiet_talkers h
  | receiveTalker hreceive => exact hreceive.elim
  | withdrawTalker hport he haccount hsm =>
      refine (quiet_addLog _).trans (.setTalker ?_)
      rintro _ ⟨⟩
      refine Or.inr ⟨_, he, MsrpTalkerEntry.key_of_account haccount, ?_, ?_⟩
      · rw [hsm, mrpWithdrawStep_registrar]
        exact id
      · rw [hsm]
        exact withdrawStep_timer
  | leaveTalker hport he haccount hsm =>
      refine (quiet_addLog _).trans (.setTalker ?_)
      rintro _ ⟨⟩
      refine Or.inr ⟨_, he, MsrpTalkerEntry.key_of_account haccount, ?_, ?_⟩
      · rw [hsm]
        exact smStep_rLv_begins _ _
      · rw [hsm]
        exact fun hok => hok.step _ _
  | resetTalker hport he hlogged haccount hsm =>
      refine (quiet_addLog _).trans (.setTalker ?_)
      rintro _ ⟨⟩
      rw [hsm]
      exact Or.inl ⟨rfl, timerOk_fresh⟩
  | insertTalker hport hplace hnew =>
      refine .setTalker ?_
      rintro _ ⟨⟩
      exact Or.inl ⟨rfl, timerOk_fresh⟩
  | dropTalker hport he hidle =>
      refine .setTalker ?_
      intro e' he'
      cases he'
  | listeners h =>
      apply quiet_listeners
      intro i e' he'
      obtain ⟨e, he, hwrite⟩ := h.origin he'
      exact Or.inr ⟨e, he, hwrite.sm.timer⟩
  | withdrawListener he hkey hsm =>
      refine (quiet_addLog _).trans (quiet_setListener (Or.inr ⟨_, he, ?_⟩))
      rw [hsm]
      exact withdrawStep_timer
  | leaveListener he hkey hsm =>
      refine (quiet_addLog _).trans (quiet_setListener (Or.inr ⟨_, he, ?_⟩))
      rw [hsm]
      exact fun hok => hok.step _ _
  | insertListener hnew => exact quiet_setListener (Or.inl timerOk_fresh)
  | domains h =>
      apply quiet_domains
      intro i e' he'
      obtain ⟨e, he, hwrite⟩ := h.origin he'
      exact Or.inr ⟨e, he, hwrite.timer⟩
  | insertDomain hnew =>
      apply quiet_domains
      intro j e' he'
      rw [SlotTable.set_apply] at he'
      split at he'
      · cases he'
        exact Or.inl timerOk_fresh
      · exact Or.inr ⟨e', he', id⟩

theorem Writes.quiet {P : cfg.Port → Prop} (h : Writes P s s') : Quiet s s' :=
  .of_chain (fun _ _ => quiet_write) h

theorem SameEntries.quiet (h : SameEntries s s') : Quiet s s' where
  talkers p i e' he' := by
    have hsame := h.talkers p i
    rw [he', Option.map_some, eq_comm, Option.map_eq_some_iff] at hsame
    obtain ⟨e, he, hpair⟩ := hsame
    obtain ⟨hkey, hsm⟩ := Prod.mk.inj hpair
    rw [← hsm]
    exact Or.inr ⟨e, he, hkey.symm, id, id⟩
  listeners _ _ e' he' := Or.inr ⟨e', h.listeners ▸ he', id⟩
  domains _ _ e' he' := Or.inr ⟨e', h.domains ▸ he', id⟩
  avbLite := h.avbLite

theorem MapWrites.quiet {p : cfg.Port} (h : MapWrites p s s') : Quiet s s' := by
  refine .of_chain ?_ h
  intro a b hab
  cases hab with
  | write h => exact quiet_write h
  | reservation h => exact h.sameEntries.quiet

end Writes

/-! ### Timers and idle timeouts -/

section Timers

variable (s : AvbState cfg) {p : cfg.Port}

/-- A registration that ends outside LV had no timer running. -/
theorem timerOk_unregister {sm : MrpSm} (hlv : sm.registrar ≠ .LV) (hok : sm.TimerOk) :
    { sm with registrar := .MT }.TimerOk := by
  have hidle : sm.leaveTimerUs = 0 := by
    by_contra hrunning
    exact hlv (hok.mp hrunning)
  simp [MrpSm.TimerOk, hidle]

theorem quiet_leaveTimerTalker (i : TalkerRef cfg) : Quiet s (mrpLeaveTimerTalker p s i) := by
  unfold mrpLeaveTimerTalker
  split
  · exact .refl s
  · rename_i e he
    split
    · dsimp only
      have hset : Quiet s
          (s.setTalker p i (some { e with sm := mrpSmStep s.nowUs e.sm .leaveTimer })) := by
        refine .setTalker ?_
        rintro _ ⟨⟩
        refine Or.inr ⟨e, he, rfl, ?_, fun hok => hok.step s.nowUs _⟩
        intro hregistered hmt
        exact hregistered (by simp [mrpSmStep, mrpRegistrarStep, hmt])
      split
      · exact hset
      · exact hset.trans ((quiet_addLog _).trans
          (mapWrites_onTalkerRegistrarChange _ _ _ _).quiet)
    · exact .refl s

theorem quiet_leaveTimerListener (i : ListenerRef cfg) :
    Quiet s (mrpLeaveTimerListener p s i) := by
  unfold mrpLeaveTimerListener
  split
  · exact .refl s
  · rename_i e he
    split
    · dsimp only
      have hset : Quiet s
          (s.setListener p i (some { e with sm := mrpSmStep s.nowUs e.sm .leaveTimer })) :=
        quiet_setListener (Or.inr ⟨e, he, fun hok => hok.step s.nowUs _⟩)
      split
      · exact hset
      · exact hset.trans ((quiet_addLog _).trans
          (writes_onListenerRegistrarChange (P := fun _ => True) _ _ _ _ _).quiet)
    · exact .refl s

theorem quiet_leaveTimerDomain (i : DomainRef) : Quiet s (mrpLeaveTimerDomain p s i) := by
  unfold mrpLeaveTimerDomain
  split
  · exact .refl s
  · rename_i e he
    split
    · have hpending : (mrpSmStep s.nowUs e.sm .leaveTimer).pendingTx = e.sm.pendingTx := by
        simp [mrpSmStep, mrpApplicantStep, mrpApplicantTx]
      have hset : Writes (fun _ => True) s
          (s.setDomain p i (some { e with sm := mrpSmStep s.nowUs e.sm .leaveTimer })) :=
        writes_setDomain he ⟨rfl, fun hnone => hpending.trans hnone, fun h => h.step s.nowUs _⟩
      exact Writes.quiet (hset.trans (writes_onDomainRegistrarChange _ _ _ _))
    · exact .refl s

theorem registrar_of_cvuIdle {sm : MrpSm} {lastRefreshUs nowUs : Nat}
    (h : mrpCvuIdle sm lastRefreshUs nowUs = true) : sm.registrar ≠ .LV := by
  simp only [mrpCvuIdle, decide_eq_true_eq] at h
  simp [h.1]

theorem quiet_idleTimeoutTalker (i : TalkerRef cfg) : Quiet s (mrpIdleTimeoutTalker p s i) := by
  unfold mrpIdleTimeoutTalker
  split
  · exact .refl s
  · rename_i e he
    split
    · rename_i hidle
      have hset : Quiet s
          (s.setTalker p i (some { e with sm := { e.sm with registrar := .MT } })) := by
        refine .setTalker ?_
        rintro _ ⟨⟩
        refine Or.inr ⟨e, he, rfl, ?_, timerOk_unregister (registrar_of_cvuIdle hidle)⟩
        intro hregistered
        exact absurd rfl hregistered
      exact hset.trans ((quiet_addLog _).trans (mapWrites_onTalkerRegistrarChange _ _ _ _).quiet)
    · exact .refl s

theorem quiet_idleTimeoutListener (i : ListenerRef cfg) :
    Quiet s (mrpIdleTimeoutListener p s i) := by
  unfold mrpIdleTimeoutListener
  split
  · exact .refl s
  · rename_i e he
    split
    · rename_i hidle
      have hset : Quiet s
          (s.setListener p i (some { e with sm := { e.sm with registrar := .MT } })) :=
        quiet_setListener (Or.inr ⟨e, he, timerOk_unregister (registrar_of_cvuIdle hidle)⟩)
      exact hset.trans ((quiet_addLog _).trans
        (writes_onListenerRegistrarChange (P := fun _ => True) _ _ _ _ _).quiet)
    · exact .refl s

theorem quiet_portDispatchLeaveTimers : Quiet s (mrpPortDispatchLeaveTimers s p) := by
  unfold mrpPortDispatchLeaveTimers
  dsimp only
  have hloop : ∀ {ι : Type} (step : AvbState cfg → ι → AvbState cfg),
      (∀ s x, Quiet s (step s x)) → ∀ (l : List ι) s, Quiet s (l.foldl step s) := by
    intro ι step hstep l
    induction l with
    | nil => exact .refl
    | cons x l ih => exact fun s => (hstep s x).trans (ih _)
  have htalkers := hloop (mrpLeaveTimerTalker p) fun s i => quiet_leaveTimerTalker s i
  have hlisteners := hloop (mrpLeaveTimerListener p) fun s i => quiet_leaveTimerListener s i
  have hdomains := hloop (mrpLeaveTimerDomain p) fun s i => quiet_leaveTimerDomain s i
  have hidleTalkers := hloop (mrpIdleTimeoutTalker p) fun s i => quiet_idleTimeoutTalker s i
  have hidleListeners := hloop (mrpIdleTimeoutListener p) fun s i => quiet_idleTimeoutListener s i
  refine ((htalkers (List.finRange _) s).trans ?_).trans ((hlisteners _ _).trans (hdomains _ _))
  split
  · exact (hidleTalkers _ _).trans (hidleListeners _ _)
  · exact .refl _

end Timers

/-! ### A received talker value -/

section Receive

variable {s : AvbState cfg} {p : cfg.Port} {streamId : UniqueId} {attrType : MsrpAttrType}

/-- A displacement whose twin is not in LV. -/
theorem quiet_displaceTwin (h : ∀ j twin, s.talkers p j = some twin →
    twin.key = (streamId, attrType.twin) → twin.sm.registrar ≠ .LV) :
    Quiet s (msrpDisplaceTwin s p streamId attrType) := by
  obtain hsame | ⟨i, e, he, hkey, hevict⟩ := msrpDisplaceTwin_eq s (p := p) streamId attrType
  · rw [hsame]
    exact .refl s
  · rw [hevict]
    have hwrites := mapWrites_onTalkerRegistrarChange s (p := p) e.attrType e.wire .deregister
    have hentry := hwrites.entries i
    unfold msrpTalkerEvict
    dsimp only
    refine hwrites.quiet.trans ?_
    split
    · exact .refl _
    · rename_i e' he'
      rw [he, he', Option.map_some, Option.map_some, Option.some.injEq, Prod.mk.injEq] at hentry
      have hlv : e'.sm.registrar ≠ .LV := by
        rw [hentry.2]
        exact h i e he hkey
      have hset : Quiet (mrpOnTalkerRegistrarChange s p e.attrType e.wire .deregister)
          ((mrpOnTalkerRegistrarChange s p e.attrType e.wire .deregister).setTalker p i
            (some { e' with sm := { e'.sm with registrar := .MT } })) := by
        refine .setTalker ?_
        rintro _ ⟨⟩
        refine Or.inr ⟨e', he', rfl, ?_, timerOk_unregister hlv⟩
        intro hregistered
        exact absurd rfl hregistered
      exact hset.trans (quiet_addLog _)

/-- After a displacement no twin is registered. -/
theorem displaceTwin_mt (hkeys : (s.talkers p).KeysUnique MsrpTalkerEntry.key) {j : TalkerRef cfg}
    {twin : MsrpTalkerEntry cfg}
    (htwin : (msrpDisplaceTwin s p streamId attrType).talkers p j = some twin)
    (hkey : twin.key = (streamId, attrType.twin)) : twin.sm.registrar = .MT := by
  cases hfind : msrpTalkerFind s p streamId attrType.twin with
  | none =>
      have hsame : msrpDisplaceTwin s p streamId attrType = s := by
        unfold msrpDisplaceTwin
        rw [hfind]
      rw [hsame] at htwin
      have habsent := SlotTable.find_eq_none.mp hfind j twin htwin
      exact absurd (talkerIs_iff.mpr hkey) (by simp [habsent])
  | some i =>
      obtain ⟨e, he, hq⟩ := SlotTable.find_eq_some hfind
      have hekey := talkerIs_iff.mp hq
      by_cases hmt : e.sm.registrar = .MT
      · have hsame : msrpDisplaceTwin s p streamId attrType = s := by
          unfold msrpDisplaceTwin
          simp only [hfind, he, if_pos hmt]
        rw [hsame] at htwin
        have hji := hkeys j i twin e htwin he (hkey.trans hekey.symm)
        rw [hji, he] at htwin
        cases htwin
        exact hmt
      · have htype : attrType.twin = e.attrType := (congrArg Prod.snd hekey).symm
        have hevict : msrpDisplaceTwin s p streamId attrType = msrpTalkerEvict s p i e := by
          unfold msrpDisplaceTwin msrpTalkerEvict
          simp only [hfind, he, if_neg hmt]
          exact htype ▸ rfl
        rw [hevict] at htwin
        have hentry := msrpTalkerEvict_entries s he j
        rw [htwin, Option.map_some, eq_comm, Option.map_eq_some_iff] at hentry
        obtain ⟨e', he', hpair⟩ := hentry
        obtain ⟨hkey', hsm⟩ := Prod.mk.inj hpair
        have hji := hkeys j i e' e he' he (hkey'.trans (hkey.trans hekey.symm))
        rw [if_pos hji] at hsm
        rw [← hsm]

/-- Finding or inserting writes no slot but the one it gives. -/
theorem talkerFindOrInsert_other {i : TalkerRef cfg} {s' : AvbState cfg}
    (h : msrpTalkerFindOrInsert s p streamId attrType = some (i, s')) :
    s'.nowUs = s.nowUs ∧ ∀ j, j ≠ i → s'.talkers p j = s.talkers p j := by
  obtain ⟨k, e, -, -, hout⟩ | ⟨k, -, -, hout⟩ | ⟨-, -, hout⟩ :=
    msrpTalkerFindOrInsert_outcome s p streamId attrType
  · rw [hout] at h
    cases h
    exact ⟨rfl, fun _ _ => rfl⟩
  · rw [hout] at h
    cases h
    refine ⟨rfl, fun j hj => ?_⟩
    rw [setTalker_apply, if_neg fun hboth => hj hboth.2]
  · rw [hout] at h
    cases h

/-- A received value leaves its own entry registered and finds the entry's twin in LV. -/
def DisplacesLeaving (s : AvbState cfg) (p : cfg.Port) (attrType : MsrpAttrType)
    (wire : MsrpTalkerMessage) : Prop :=
  s.avbLite = false
    ∧ (∃ i s' e, msrpTalkerFindOrInsert s p wire.info.streamId attrType = some (i, s')
        ∧ s'.talkers p i = some e
        ∧ (mrpSmStep s.nowUs e.sm (firstEvent wire.event)).registrar ≠ .MT)
    ∧ ∃ j twin, s.talkers p j = some twin ∧ twin.key = (wire.info.streamId, attrType.twin)
        ∧ twin.sm.registrar = .LV

theorem msrpLogPeerLeft_quiet (event : UInt8) (sm : MrpSm) :
    Quiet s (msrpLogPeerLeft s p event sm) := by
  unfold msrpLogPeerLeft
  split
  · exact quiet_addLog _
  · exact .refl s

/-- A write to one talker slot keeps the timers if the entry written is in order. -/
theorem TimersOk.setTalker {i : TalkerRef cfg} {e : MsrpTalkerEntry cfg} (h : TimersOk s)
    (he : e.sm.TimerOk) : TimersOk (s.setTalker p i (some e)) where
  talkers q j e' he' := by
    rw [setTalker_apply] at he'
    split at he'
    · cases he'
      exact he
    · exact h.talkers q j e' he'
  listeners := h.listeners
  domains := h.domains

/-- A write to an entry is no matter to other streams and other ports. -/
theorem Alternates.setTalker {i : TalkerRef cfg} {e : MsrpTalkerEntry cfg} {q : cfg.Port}
    {streamId : UniqueId} (h : Alternates s q streamId)
    (hother : q = p → e.key ≠ (streamId, .talkerAdvertise) ∧ e.key ≠ (streamId, .talkerFailed)) :
    Alternates (s.setTalker p i (some e)) q streamId := by
  have hslot : ∀ {j : TalkerRef cfg} {a : MsrpTalkerEntry cfg},
      (s.setTalker p i (some e)).talkers q j = some a → a.key = (streamId, .talkerAdvertise)
        ∨ a.key = (streamId, .talkerFailed) → s.talkers q j = some a := by
    intro j a ha hkey
    rw [setTalker_apply] at ha
    split at ha
    · rename_i heq
      cases ha
      obtain ⟨hadvertise, hfailed⟩ := hother heq.1
      exact (hkey.elim hadvertise hfailed).elim
    · exact ha
  intro j k a twin ha htwin hkey htwinKey
  exact h j k a twin (hslot ha (Or.inl hkey)) (hslot htwin (Or.inr htwinKey)) hkey htwinKey

theorem RegistrarsOk.rxTalkerAttr (hs : RegistrarsOk s) (hok : TablesOk s)
    {wire : MsrpTalkerMessage} {srcAddr : Option EthAddr}
    (hclean : ¬ DisplacesLeaving s p attrType wire) :
    RegistrarsOk (msrpRxTalkerAttr s p attrType wire srcAddr).2 := by
  have htaken : TablesOk (msrpRxTalkerTake s p attrType wire srcAddr) := by
    have htake : Moves s (msrpRxTalkerTake s p attrType wire srcAddr) :=
      ReflTransGen.mono (fun _ _ hwrite => .write hwrite) _ _
        (writes_rxTalkerTake s (P := fun _ => True) trivial attrType wire srcAddr)
    exact hok.changes htake.changes
  have hkeys := htaken.talkerKeys p
  unfold msrpRxTalkerTake at hkeys
  unfold msrpRxTalkerAttr
  cases hinsert : msrpTalkerFindOrInsert s p wire.info.streamId attrType with
  | none => exact hs
  | some found =>
      obtain ⟨i, s1⟩ := found
      obtain ⟨hwrites, e, he, hkey⟩ := writes_talkerFindOrInsert (P := fun _ => True) trivial hinsert
      have hs1 : RegistrarsOk s1 := hwrites.quiet.registrarsOk hs
      have hlite1 : s1.avbLite = s.avbLite := hwrites.quiet.avbLite
      obtain ⟨hnow1, hsame1⟩ := talkerFindOrInsert_other hinsert
      simp only [hinsert, he] at hkeys ⊢
      set e' := msrpTalkerReceive s1.nowUs wire srcAddr e with he'
      have hkey' : e'.key = (wire.info.streamId, attrType) := by
        have hstream : e.wire.info.streamId = wire.info.streamId := congrArg Prod.fst hkey
        rw [← hkey, he', msrpTalkerReceive, MsrpTalkerEntry.key, MsrpTalkerEntry.key]
        dsimp only
        split
        · rfl
        · rw [hstream]
      have hok' : e'.sm.TimerOk := (hs1.timers.talkers p i e he).step s1.nowUs _
      have hlog := msrpLogPeerLeft_quiet (s := s1) (p := p) wire.event e.sm
      set s2 := (msrpLogPeerLeft s1 p wire.event e.sm).setTalker p i (some e') with hs2
      have hslot : ∀ j, s2.talkers p j = if j = i then some e' else s1.talkers p j := by
        have htalkers : (msrpLogPeerLeft s1 p wire.event e.sm).talkers = s1.talkers := by
          unfold msrpLogPeerLeft
          split <;> rfl
        intro j
        rw [hs2, setTalker_apply, htalkers]
        simp only [true_and]
      have htimers : TimersOk s2 := (hlog.timersOk hs1.timers).setTalker hok'
      have hlite2 : s2.avbLite = s1.avbLite := hlog.avbLite
      have hothers : ∀ q streamId, (q = p → streamId ≠ wire.info.streamId) → s2.avbLite = false →
          Alternates s2 q streamId := by
        intro q streamId hother hlite
        refine (hlog.alternates (hs1.alternates (hlite2 ▸ hlite) q streamId)).setTalker ?_
        intro hq
        have hne := hother hq
        rw [hkey']
        constructor <;>
        · intro heq
          exact hne (congrArg Prod.fst heq).symm
      split
      · -- the value stays registered, its twin goes
        rename_i hregistered
        have htwin : ∀ j twin, s2.talkers p j = some twin →
            twin.key = (wire.info.streamId, attrType.twin) → twin.sm.registrar ≠ .LV := by
          intro j twin hj htwinKey hlv
          have hji : j ≠ i := by
            rintro rfl
            rw [hslot, if_pos rfl] at hj
            cases hj
            exact MsrpAttrType.twin_ne attrType (congrArg Prod.snd (htwinKey.symm.trans hkey'))
          rw [hslot, if_neg hji, hsame1 j hji] at hj
          refine hclean ⟨hlite1 ▸ hlite2 ▸ hregistered.1, ⟨i, s1, e, hinsert, he, ?_⟩, j, twin, hj,
            htwinKey, hlv⟩
          rw [← hnow1]
          intro hmt
          have hmt' : e'.sm.registrar = .MT := hmt
          rw [hmt'] at hregistered
          simp at hregistered
        have hquiet := quiet_displaceTwin htwin
        refine ⟨hquiet.timersOk htimers, fun hlite q streamId => ?_⟩
        by_cases hother : q = p → streamId ≠ wire.info.streamId
        · exact hquiet.alternates (hothers q streamId hother (hquiet.avbLite ▸ hlite))
        · rw [Classical.not_imp, not_not] at hother
          obtain ⟨rfl, rfl⟩ := hother
          intro j k a twin ha hk hakey htwinKey
          cases hattr : attrType with
          | talkerFailed => exact Or.inl (displaceTwin_mt hkeys ha (by rw [hattr]; exact hakey))
          | talkerAdvertise | listener | domain =>
              exact Or.inr (displaceTwin_mt hkeys hk (by rw [hattr]; exact htwinKey))
      · rename_i hkept
        refine ⟨htimers, fun hlite q streamId => ?_⟩
        by_cases hother : q = p → streamId ≠ wire.info.streamId
        · exact hothers q streamId hother hlite
        · rw [Classical.not_imp, not_not] at hother
          obtain ⟨rfl, rfl⟩ := hother
          have hmt : e'.sm.registrar = .MT := by
            cases hregistrar : e'.sm.registrar with
            | MT => rfl
            | IN => exact absurd ⟨hlite, Or.inl hregistrar⟩ hkept
            | LV => exact absurd ⟨hlite, Or.inr hregistrar⟩ hkept
          intro j k a twin ha hk hakey htwinKey
          -- both from before, or one is the entry the value left unregistered
          rw [hslot] at ha hk
          split at ha
          · cases ha
            exact Or.inl hmt
          · split at hk
            · cases hk
              exact Or.inr hmt
            · exact hs1.alternates (hlite2 ▸ hlite) q wire.info.streamId j k a twin ha hk hakey
                htwinKey

end Receive

/-! ### Runs -/

section Runs

variable {s : AvbState cfg}

/-- What keeps a step from breaking the registrars: no received value displaces a twin in LV, and AVB
Lite is left with no stream registered twice on a port. -/
def KeepsRegistrars (s : AvbState cfg) (ev : AvbEvent cfg) : Prop :=
  (∀ p srcAddr attrType wire, ev = .receive p srcAddr (.talker attrType wire) →
      ¬ DisplacesLeaving s p attrType wire)
    ∧ (ev = .setAvbLite false → ∀ p streamId, Alternates s p streamId)

theorem RegistrarsOk.rxTalker (hs : RegistrarsOk s) (hok : TablesOk s) {p : cfg.Port}
    {attrType : MsrpAttrType} {wire : MsrpTalkerMessage} {srcAddr : Option EthAddr}
    (hclean : ¬ DisplacesLeaving s p attrType wire) :
    RegistrarsOk (msrpRxTalker s p attrType wire srcAddr) := by
  have hattr : RegistrarsOk (msrpRxTalkerAttr s p attrType wire srcAddr).2 :=
    hs.rxTalkerAttr hok hclean
  unfold msrpRxTalker
  revert hattr
  rcases msrpRxTalkerAttr s p attrType wire srcAddr with ⟨tr, s1⟩
  intro hattr
  have hcallback := (mapWrites_onTalkerRegistrarChange s1 (p := p) attrType wire tr).quiet
  have hwifi := (writes_wifiAfterDeclaration (P := fun _ => True)
    (mrpOnTalkerRegistrarChange s1 p attrType wire tr) fun _ => trivial).quiet
  exact (hcallback.trans hwifi).registrarsOk hattr

theorem RegistrarsOk.setLite (hs : RegistrarsOk s) (lite : Bool)
    (h : lite = false → ∀ p streamId, Alternates s p streamId) :
    RegistrarsOk (avbSetLite s lite) := by
  have hset : RegistrarsOk { s with avbLite := lite, mrpLite := lite } :=
    { timers := ⟨hs.timers.talkers, hs.timers.listeners, hs.timers.domains⟩
      alternates := h }
  unfold avbSetLite
  dsimp only
  split
  · exact (writes_liteRedeclareAll (P := fun _ => True) _ trivial).quiet.registrarsOk hset
  · exact hset

theorem RegistrarsOk.step (hs : RegistrarsOk s) (hok : TablesOk s) {ev : AvbEvent cfg}
    (hkeeps : KeepsRegistrars s ev) : RegistrarsOk (avbStep s ev) := by
  have hframe : ∀ s' : AvbState cfg, SameTables s s' → RegistrarsOk s' := fun s' h =>
    (writes_frame (P := fun _ => True) h).quiet.registrarsOk hs
  have hwrites : ∀ s' : AvbState cfg, Writes (fun _ => True) s s' → RegistrarsOk s' := fun s' h =>
    h.quiet.registrarsOk hs
  cases ev with
  | elapse dtUs => exact hframe _ ⟨rfl, rfl, rfl, rfl, rfl, rfl, List.Subset.refl s.log⟩
  | receive p srcAddr d =>
      unfold avbStep
      dsimp only
      split
      · exact hs
      · rename_i hvalue
        cases d with
        | leaveAll attrType =>
            have hlite : s.avbLite = false := by
              cases hl : s.avbLite with
              | false => rfl
              | true => exact absurd ⟨hl, rfl⟩ hvalue
            exact hwrites _ (writes_dispatchLeaveall s trivial hlite attrType)
        | talker attrType wire => exact hs.rxTalker hok (hkeeps.1 p srcAddr attrType wire rfl)
        | listener wire => exact hwrites _ (writes_rxListener s (fun _ => trivial) wire srcAddr)
        | domain wire => exact hwrites _ (writes_rxDomain s wire)
  | joinTimer p => exact hwrites _ (writes_txFlushPort s trivial)
  | periodicTimer p =>
      unfold avbStep
      dsimp only
      split
      · exact hs
      · exact hwrites _ (writes_portDispatchPeriodic s trivial)
  | leaveallTimer p apEmpty => exact hwrites _ (writes_leaveallTimer s trivial apEmpty)
  | leaveTimers p => exact (quiet_portDispatchLeaveTimers s).registrarsOk hs
  | releaseHeld p => exact hwrites _ (writes_talkerReleaseHeld s trivial)
  | liteFlush p =>
      unfold avbStep
      dsimp only
      split
      · exact hwrites _ (writes_liteFlush s trivial)
      · exact hs
  | declareTalkerAdvertise p streamId da vlanId mfs mfi classB =>
      exact hwrites _ (writes_declareTalkerAdvertise s trivial _ _ _ _ _ _)
  | declareTalkerFailed p streamId da vlanId mfs mfi code classB srcBridgeId =>
      exact hwrites _ (writes_declareTalkerFailed s trivial _ _ _ _ _ _ _ _)
  | declareListener p streamId decl => exact hwrites _ (writes_declareListener s _ _)
  | declareDomain p srClassId srClassPriority srClassVid =>
      exact hwrites _ (writes_declareDomain s _ _ _)
  | withdrawTalker p streamId => exact hwrites _ (writes_withdrawTalker s trivial _)
  | withdrawListener p streamId => exact hwrites _ (writes_withdrawListener s _)
  | setTalkerLatency p streamId =>
      exact hwrites _ (writes_patchEgressAccumulatedLatency s trivial _ _ _)
  | forgetTalker p streamId => exact hwrites _ (writes_talkerForget s trivial _)
  | bindInputStream i stream => exact hframe _ ⟨rfl, rfl, rfl, rfl, rfl, rfl, List.Subset.refl s.log⟩
  | setAvbLite lite =>
      refine hs.setLite lite fun hlite => hkeeps.2 ?_
      rw [hlite]

theorem registrarsOk_init (lite : Bool) : RegistrarsOk (.init cfg lite) where
  timers :=
    { talkers := fun _ _ _ he => by cases he
      listeners := fun _ _ _ he => by cases he
      domains := fun _ _ _ he => by cases he }
  alternates _ _ _ _ _ _ _ he := by cases he

end Runs

/-! ### VLANs -/

def VlanTimersOk (s : MvrpState cfg) : Prop := ∀ p i e, s.vlans p i = some e → e.sm.TimerOk

namespace VlanTimersOk

variable {s : MvrpState cfg}

theorem setVlan (h : VlanTimersOk s) {p : cfg.Port} {i : Fin mvrpVlanTableSize} {e : MvrpVlanEntry}
    (he : e.sm.TimerOk) : VlanTimersOk (s.setVlan p i e) := by
  intro q j e' he'
  unfold MvrpState.setVlan at he'
  dsimp only at he'
  by_cases hq : q = p
  · subst hq
    rw [Function.update_self, SlotTable.set_apply] at he'
    split at he'
    · cases he'
      exact he
    · exact h q j e' he'
  · rw [Function.update_of_ne hq] at he'
    exact h q j e' he'

theorem mapSm (h : VlanTimersOk s) (p : cfg.Port) {f : MrpSm → MrpSm}
    (hf : ∀ sm : MrpSm, sm.TimerOk → (f sm).TimerOk) : VlanTimersOk (s.mapSm p f) := by
  intro q j e' he'
  unfold MvrpState.mapSm at he'
  dsimp only at he'
  by_cases hq : q = p
  · subst hq
    rw [Function.update_self, Option.map_eq_some_iff] at he'
    obtain ⟨e, he, rfl⟩ := he'
    exact hf e.sm (h q j e he)
  · rw [Function.update_of_ne hq] at he'
    exact h q j e' he'

/-- The VLAN sought is in order, found or new. -/
theorem findOrInsert (h : VlanTimersOk s) {p : cfg.Port} {vlanId : VlanId}
    {i : Fin mvrpVlanTableSize} {e : MvrpVlanEntry}
    (hfound : s.mvrpVlanFindOrInsert p vlanId = some (i, e)) : e.sm.TimerOk := by
  rw [MvrpState.mvrpVlanFindOrInsert] at hfound
  obtain ⟨j, e', -, hj, hsome⟩ | ⟨j, -, -, hsome⟩ | ⟨-, -, hnone⟩ :=
    SlotTable.findOrInsert_outcome (vlanIs vlanId) (fun _ => false)
      { vlanId, sm := .fresh } (s.vlans p)
  · rw [hsome] at hfound
    simp only [Option.bind_some, hj, Option.map_some, Option.some.injEq, Prod.mk.injEq] at hfound
    obtain ⟨-, rfl⟩ := hfound
    exact h p j e' hj
  · rw [hsome] at hfound
    simp only [Option.bind_some, SlotTable.set_same, Option.map_some, Option.some.injEq,
      Prod.mk.injEq] at hfound
    obtain ⟨-, rfl⟩ := hfound
    exact timerOk_fresh
  · rw [hnone] at hfound
    simp at hfound

theorem declareVlan (h : VlanTimersOk s) (p : cfg.Port) (vlanId : VlanId) :
    VlanTimersOk (s.mrpDeclareVlan p vlanId) := by
  unfold MvrpState.mrpDeclareVlan
  split
  · exact h
  · rename_i i e hfound
    have he : (mrpApplicantStep e.sm (mrpDeclareEvent e.sm)).TimerOk := h.findOrInsert hfound
    exact h.setVlan he

theorem withdrawVlan (h : VlanTimersOk s) (p : cfg.Port) (vlanId : VlanId) :
    VlanTimersOk (s.mrpWithdrawVlan p vlanId) := by
  unfold MvrpState.mrpWithdrawVlan
  split
  · exact h
  · split
    · exact h
    · rename_i i _ _ e he
      have hsm : (mrpApplicantStep e.sm .lv).TimerOk := h p i e he
      exact h.setVlan hsm

theorem onVlanRegistrarChange (h : VlanTimersOk s) (p : cfg.Port) (vlanId : VlanId)
    (tr : MrpRegTransition) : VlanTimersOk (s.mrpOnVlanRegistrarChange p vlanId tr) := by
  unfold MvrpState.mrpOnVlanRegistrarChange
  split
  · generalize List.finRange cfg.numPorts = ports
    induction ports generalizing s with
    | nil => exact h
    | cons y ports ih =>
        rw [List.foldl_cons]
        apply ih
        split
        · exact h
        · split
          · exact h.declareVlan y vlanId
          · exact h.withdrawVlan y vlanId
  · exact h

theorem rxMvrp (h : VlanTimersOk s) (p : cfg.Port) (msg : MvrpVlanIdMessage) :
    VlanTimersOk (mrpRxMvrp s p msg).1 := by
  unfold mrpRxMvrp
  split
  · exact h
  · dsimp only
    set s1 := if msg.leaveallField ≠ 0 then s.mvrpDispatchLeaveall p else s with hs1
    have h1 : VlanTimersOk s1 := by
      rw [hs1]
      split
      · exact h.mapSm p fun sm hok => hok.step s.nowUs .rLA
      · exact h
    split
    · exact h1
    · rename_i i e hfound
      have hset : VlanTimersOk (s1.setVlan p i
          { e with sm := mrpSmStep s1.nowUs e.sm (mrp3peToEvent (threePeToInt msg.attrEvent).1) }) :=
        h1.setVlan ((h1.findOrInsert hfound).step _ _)
      dsimp only
      split
      · exact hset
      · exact hset.onVlanRegistrarChange p msg.vlanId _

theorem step (h : VlanTimersOk s) (ev : MvrpEvent cfg) : VlanTimersOk (mvrpStep s ev) := by
  cases ev with
  | elapse dtUs => exact h
  | receive p msg => exact h.rxMvrp p msg
  | declare p vlanId => exact h.declareVlan p vlanId
  | withdraw p vlanId => exact h.withdrawVlan p vlanId
  | leaveTimers p =>
      unfold mvrpStep MvrpState.mrpPortDispatchLeaveTimers
      apply h.mapSm
      intro sm hok
      split
      · exact hok.step s.nowUs .leaveTimer
      · exact hok
  | periodicTimer p =>
      unfold mvrpStep MvrpState.mrpPortDispatchPeriodic
      apply h.mapSm
      exact fun _ hok => hok
  | joinTimer p txEv =>
      unfold mvrpStep MvrpState.mrpTxFlushMvrp
      apply h.mapSm
      exact fun _ hok => hok

end VlanTimersOk

/-! ### The result -/

/-- In every state of a run whose steps keep the registrars, a LeaveTimer runs exactly in LV and,
outside AVB Lite, a port has a stream registered by one of its two attributes at most. The VLANs of a
run of their own always keep their timers. -/
theorem registrars_hold {lite : Bool} {events : List (AvbEvent cfg)}
    (hkeeps : Machine.RunMeets KeepsRegistrars avbStep (.init cfg lite) events)
    (vlanEvents : List (MvrpEvent cfg)) :
    RegistrarsOk (avbRun lite events)
      ∧ VlanTimersOk (Machine.run mvrpStep (.init cfg) vlanEvents) := by
  have htables : TablesOk (AvbState.init cfg lite) := tablesOk_init lite
  have hboth : TablesOk (avbRun lite events) ∧ RegistrarsOk (avbRun lite events) :=
    hkeeps.invariant (fun s : AvbState cfg => TablesOk s ∧ RegistrarsOk s)
      (fun s ev hev hs => ⟨hs.1.step ev, hs.2.step hs.1 hev⟩) ⟨htables, registrarsOk_init lite⟩
  refine ⟨hboth.2, ?_⟩
  refine Machine.run_invariant (fun s : MvrpState cfg => VlanTimersOk s) (fun _ ev h => h.step ev) ?_
    vlanEvents
  intro p i e he
  cases he

/-- A received talker value of stream `n`, joining. -/
def joinValue (attrType : MsrpAttrType) (n : Nat) : MsrpDispatch :=
  .talker attrType
    { MsrpTalkerMessage.zero with
      info := { TalkerAdvInfo.zero with streamId := .ofNat 8 n }
      event := intTo3pe 1 0 0 }

/-- A twin that is registered goes with its timer idle. -/
theorem registrars_hold_displaced :
    let p : wiredEndpoint.Port := ⟨0, Nat.one_pos⟩
    RegistrarsOk (avbRun false [.receive p none (joinValue .talkerFailed 1),
        .receive p none (joinValue .talkerAdvertise 1)])
      ∧ VlanTimersOk (Machine.run mvrpStep (.init wiredEndpoint) []) := by
  intro p
  have hkeeps : Machine.RunMeets KeepsRegistrars avbStep (.init wiredEndpoint false)
      [.receive p none (joinValue .talkerFailed 1),
        .receive p none (joinValue .talkerAdvertise 1)] := by
    refine ⟨⟨?_, ?_⟩, ⟨?_, ?_⟩, trivial⟩
    · rintro q srcAddr attrType wire ⟨⟩ ⟨-, -, j, twin, htwin, -, -⟩
      cases htwin
    · rintro ⟨⟩
    · rintro q srcAddr attrType wire ⟨⟩ ⟨-, -, j, twin, htwin, -, hlv⟩
      have hnone : ∀ j, ((avbStep (.init wiredEndpoint false)
          (.receive p none (joinValue .talkerFailed 1))).talkers p j).any
            (fun e => e.sm.registrar = .LV) = false := by
        decide +kernel
      have hslot := hnone j
      rw [htwin, Option.any_some, decide_eq_false_iff_not] at hslot
      exact hslot hlv
    · rintro ⟨⟩
  exact registrars_hold hkeeps []

/-- Talker Failed is registered, a LeaveAll takes it to LV, and a Talker Advertise displaces it. -/
def displacedRun : List (AvbEvent wiredEndpoint) :=
  let p : wiredEndpoint.Port := ⟨0, Nat.one_pos⟩
  [.receive p none (joinValue .talkerFailed 1), .receive p none (.leaveAll .talkerFailed),
    .receive p none (joinValue .talkerAdvertise 1)]

/-- The displaced Talker Failed is in MT with its timer set. -/
theorem displaced_timer_runs : ¬ RegistrarsOk (avbRun false displacedRun) := by
  intro h
  let p : wiredEndpoint.Port := ⟨0, Nat.one_pos⟩
  have hdead : ∃ i, ((avbRun false displacedRun).talkers p i).any
      (fun e => e.sm.leaveTimerUs ≠ 0 ∧ e.sm.registrar = .MT) = true := by
    decide +kernel
  obtain ⟨i, hany⟩ := hdead
  rw [Option.any_eq_true] at hany
  obtain ⟨e, he, hdead⟩ := hany
  rw [decide_eq_true_eq] at hdead
  have hlv := (h.timers.talkers p i e he).mp hdead.1
  rw [hdead.2] at hlv
  cases hlv

end EspAvb
