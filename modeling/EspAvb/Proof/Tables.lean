import EspAvb.Proof.Moves

/-!
# What every run keeps of the tables

A change reaches a table in one of three ways: entry by entry under their keys, a new entry for a key
the table does not have, or a slot given up. From that: no two entries of one key, nothing left to
send between steps, and which dead entries a table can hold.
-/

namespace EspAvb

open Relation

variable {cfg : Config}

/-! ### A change, table by table -/

/-- `R` relates the state machines of an entry before and after. -/
inductive TableChange {α κ : Type*} {n : Nat} (key : α → κ) (sm : α → MrpSm)
    (R : MrpSm → MrpSm → Prop) (t t' : SlotTable α n) : Prop where
  | entries (h : t.Pointwise (fun e e' => key e' = key e ∧ R (sm e) (sm e')) t')
  | insert {i : Fin n} {e : α} (hsm : sm e = .fresh) (hnew : ∀ j e', t j = some e' → key e' ≠ key e)
      (ht : t' = t.set i (some e))
  | drop {i : Fin n} (ht : t' = t.set i none)

namespace TableChange

variable {α κ : Type*} {n : Nat} {key : α → κ} {sm : α → MrpSm} {R : MrpSm → MrpSm → Prop}
  {t t' : SlotTable α n}

theorem refl (hrefl : ∀ m, R m m) (t : SlotTable α n) : TableChange key sm R t t := by
  apply TableChange.entries
  intro i
  cases t i with
  | none => exact Option.Rel.none
  | some e => exact Option.Rel.some ⟨rfl, hrefl (sm e)⟩

theorem set (hrefl : ∀ m, R m m) {i : Fin n} {e e' : α} (he : t i = some e)
    (hkey : key e' = key e) (hsm : R (sm e) (sm e')) :
    TableChange key sm R t (t.set i (some e')) :=
  .entries (SlotTable.Pointwise.of_set (fun a => ⟨rfl, hrefl (sm a)⟩) he ⟨hkey, hsm⟩)

theorem keysUnique (h : TableChange key sm R t t') (hkeys : t.KeysUnique key) :
    t'.KeysUnique key := by
  cases h with
  | entries h =>
      intro i j e e' he he' heq
      obtain ⟨a, ha, hak, -⟩ := h.origin he
      obtain ⟨b, hb, hbk, -⟩ := h.origin he'
      exact hkeys i j a b ha hb (by rw [← hak, ← hbk, heq])
  | insert hsm hnew ht =>
      rw [ht]
      exact hkeys.set_new hnew
  | drop ht =>
      rw [ht]
      exact hkeys.set_none _

/-- A property of state machines that fresh ones have and changes keep. -/
theorem forall_sm (h : TableChange key sm R t t') {Q : MrpSm → Prop} (hfresh : Q .fresh)
    (hR : ∀ m m', R m m' → Q m → Q m') (hQ : ∀ i e, t i = some e → Q (sm e)) :
    ∀ i e, t' i = some e → Q (sm e) := by
  intro i e he
  cases h with
  | entries h =>
      obtain ⟨a, ha, -, hRa⟩ := h.origin he
      exact hR _ _ hRa (hQ i a ha)
  | insert hsm hnew ht =>
      rw [ht, SlotTable.set_apply] at he
      split at he
      · cases he
        rw [hsm]
        exact hfresh
      · exact hQ i e he
  | drop ht =>
      rw [ht, SlotTable.set_apply] at he
      split at he
      · cases he
      · exact hQ i e he

end TableChange

/-- What a change does to the state machines of a talker or listener entry of port `p`. -/
inductive SmChange (s s' : AvbState cfg) (p : cfg.Port) : MrpSm → MrpSm → Prop where
  | writes {sm sm' : MrpSm} (h : SmWrites s.avbLite s.nowUs sm sm') : SmChange s s' p sm sm'
  | withdrawn {sm : MrpSm} (hlog : .withdrawn p sm ∈ s'.log) :
      SmChange s s' p sm (mrpWithdrawStep s.mrpLite sm)
  | left {sm : MrpSm} (hlog : .peerLeft p sm ∈ s'.log) :
      SmChange s s' p sm (mrpSmStep s.nowUs sm .rLv)
  | reset (sm : MrpSm) : SmChange s s' p sm mrpSmResetForNewValue
  | unregistered {sm sm' : MrpSm} (hlog : .unregistered p sm ∈ s'.log)
      (hregistrar : sm'.registrar = .MT) (happlicant : sm'.applicant = sm.applicant)
      (hpending : sm'.pendingTx = sm.pendingTx) : SmChange s s' p sm sm'

theorem SmChange.refl (s s' : AvbState cfg) (p : cfg.Port) (sm : MrpSm) : SmChange s s' p sm sm :=
  .writes .refl

/-- What a change does to the domains' state machines. -/
def SmQuiet (sm sm' : MrpSm) : Prop := sm.pendingTx = .none → sm'.pendingTx = .none

section Change

variable {s s' : AvbState cfg}

/-- One port's table changes, the others stay. -/
theorem tableChange_update {α κ : Type*} {n : Nat} {key : α → κ} {sm : α → MrpSm}
    {R : cfg.Port → MrpSm → MrpSm → Prop} (hrefl : ∀ q m, R q m m) {t : cfg.Port → SlotTable α n}
    {p : cfg.Port} {t' : SlotTable α n} (h : TableChange key sm (R p) (t p) t') (q : cfg.Port) :
    TableChange key sm (R q) (t q) (Function.update t p t' q) := by
  by_cases hq : q = p
  · subst hq
    rw [Function.update_self]
    exact h
  · rw [Function.update_of_ne hq]
    exact .refl (hrefl q) (t q)

end Change

/-! ### Every change -/

theorem AvbChange.mode {s s' : AvbState cfg} (h : AvbChange s s') :
    s'.avbLite = s.avbLite ∧ s'.mrpLite = s.mrpLite ∧ s.log ⊆ s'.log := by
  cases h with
  | write h =>
      cases h with
      | frame h => exact ⟨h.avbLite, h.mrpLite, h.log⟩
      | withdrawTalker | leaveTalker | resetTalker | withdrawListener | leaveListener =>
          exact ⟨rfl, rfl, List.subset_cons_self _ s.log⟩
      | _ => exact ⟨rfl, rfl, List.Subset.refl s.log⟩
  | reservation h => exact ⟨h.sameEntries.avbLite, h.sameEntries.mrpLite, h.sameEntries.log⟩
  | unregister h =>
      cases h with
      | talker => exact ⟨rfl, rfl, List.subset_cons_self _ s.log⟩
      | listener => exact ⟨rfl, rfl, List.subset_cons_self _ s.log⟩

theorem Changes.mode {s s' : AvbState cfg} (h : Changes s s') :
    s'.avbLite = s.avbLite ∧ s'.mrpLite = s.mrpLite ∧ s.log ⊆ s'.log := by
  induction h with
  | refl => exact ⟨rfl, rfl, List.Subset.refl s.log⟩
  | tail _ hchange ih =>
      obtain ⟨h1, h2, h3⟩ := hchange.mode
      exact ⟨h1.trans ih.1, h2.trans ih.2.1, List.Subset.trans ih.2.2 h3⟩

theorem AvbChange.talkers {s s' : AvbState cfg} (h : AvbChange s s') (q : cfg.Port) :
    TableChange MsrpTalkerEntry.key MsrpTalkerEntry.sm (SmChange s s' q) (s.talkers q)
      (s'.talkers q) := by
  have hrefl : ∀ q m, SmChange s s' q m m := fun q m => SmChange.refl s s' q m
  have hset : ∀ {p : cfg.Port} {i : TalkerRef cfg} {e e' : MsrpTalkerEntry cfg},
      s.talkers p i = some e → e'.key = e.key → SmChange s s' p e.sm e'.sm →
      TableChange MsrpTalkerEntry.key MsrpTalkerEntry.sm (SmChange s s' q) (s.talkers q)
        (Function.update s.talkers p ((s.talkers p).set i (some e')) q) :=
    fun he hkey hsm => tableChange_update hrefl (.set (hrefl _) he hkey hsm) q
  cases h with
  | write h =>
      cases h with
      | frame h =>
          rw [h.talkers]
          exact .refl (hrefl q) _
      | talkers hport h =>
          refine tableChange_update hrefl (.entries (h.mono ?_)) q
          intro e e' hwrite
          exact ⟨congrArg Prod.fst hwrite.account, .writes hwrite.sm⟩
      | receiveTalker _ hport he haccount hsm =>
          exact hset he (congrArg Prod.fst haccount) (.writes hsm)
      | withdrawTalker hport he haccount hsm =>
          apply hset he (congrArg Prod.fst haccount)
          rw [hsm]
          exact .withdrawn List.mem_cons_self
      | leaveTalker hport he haccount hsm =>
          apply hset he (congrArg Prod.fst haccount)
          rw [hsm]
          exact .left List.mem_cons_self
      | resetTalker hport he hlogged haccount hsm =>
          apply hset he (congrArg Prod.fst haccount)
          rw [hsm]
          exact .reset _
      | @insertTalker p i streamId attrType hport hplace hnew =>
          have hkeys : ∀ j e', s.talkers p j = some e' →
              e'.key ≠ (MsrpTalkerEntry.fresh streamId attrType : MsrpTalkerEntry cfg).key := by
            intro j e' he' hkey
            have hno := SlotTable.find_eq_none.mp hnew j e' he'
            have hyes : talkerIs streamId attrType e' = true := talkerIs_iff.mpr hkey
            rw [hyes] at hno
            cases hno
          have hinsert : TableChange MsrpTalkerEntry.key MsrpTalkerEntry.sm
              (SmChange s (s.setTalker p i (some (.fresh streamId attrType))) p) (s.talkers p)
              ((s.talkers p).set i (some (.fresh streamId attrType))) := .insert rfl hkeys rfl
          exact tableChange_update hrefl hinsert q
      | dropTalker hport he hidle => exact tableChange_update hrefl (.drop rfl) q
      | listeners | withdrawListener | leaveListener | insertListener | domains | insertDomain =>
          exact .refl (hrefl q) _
  | reservation h =>
      refine .entries ?_
      intro i
      have hi := h.sameEntries.talkers q i
      cases he : s.talkers q i with
      | none =>
          rw [he] at hi
          rw [Option.map_eq_none_iff.mp hi]
          exact Option.Rel.none
      | some e =>
          rw [he] at hi
          obtain ⟨e', he', heq⟩ := Option.map_eq_some_iff.mp hi
          rw [he']
          have hsm : e'.sm = e.sm := congrArg Prod.snd heq
          refine Option.Rel.some ⟨congrArg Prod.fst heq, ?_⟩
          rw [hsm]
          exact hrefl q e.sm
  | unregister h =>
      cases h with
      | talker he hregistrar happlicant hpending =>
          exact hset he rfl (.unregistered List.mem_cons_self hregistrar happlicant hpending)
      | listener => exact .refl (hrefl q) _

theorem AvbChange.listeners {s s' : AvbState cfg} (h : AvbChange s s') (q : cfg.Port) :
    TableChange MsrpListenerEntry.key MsrpListenerEntry.sm (SmChange s s' q) (s.listeners q)
      (s'.listeners q) := by
  have hrefl : ∀ q m, SmChange s s' q m m := fun q m => SmChange.refl s s' q m
  have hset : ∀ {p : cfg.Port} {i : ListenerRef cfg} {e e' : MsrpListenerEntry},
      s.listeners p i = some e → e'.key = e.key → SmChange s s' p e.sm e'.sm →
      TableChange MsrpListenerEntry.key MsrpListenerEntry.sm (SmChange s s' q) (s.listeners q)
        (Function.update s.listeners p ((s.listeners p).set i (some e')) q) :=
    fun he hkey hsm => tableChange_update hrefl (.set (hrefl _) he hkey hsm) q
  cases h with
  | write h =>
      cases h with
      | frame h =>
          rw [h.listeners]
          exact .refl (hrefl q) _
      | listeners h =>
          refine tableChange_update hrefl (.entries (h.mono ?_)) q
          intro e e' hwrite
          exact ⟨hwrite.key, .writes hwrite.sm⟩
      | withdrawListener he hkey hsm =>
          apply hset he hkey
          rw [hsm]
          exact .withdrawn List.mem_cons_self
      | leaveListener he hkey hsm =>
          apply hset he hkey
          rw [hsm]
          exact .left List.mem_cons_self
      | @insertListener p i streamId hnew =>
          have hkeys : ∀ j e', s.listeners p j = some e' →
              e'.key ≠ (MsrpListenerEntry.fresh streamId).key := by
            intro j e' he' hkey
            have hno := SlotTable.find_eq_none.mp hnew j e' he'
            have hyes : listenerIs streamId e' = true := listenerIs_iff.mpr hkey
            rw [hyes] at hno
            cases hno
          have hinsert : TableChange MsrpListenerEntry.key MsrpListenerEntry.sm
              (SmChange s (s.setListener p i (some (.fresh streamId))) p) (s.listeners p)
              ((s.listeners p).set i (some (.fresh streamId))) := .insert rfl hkeys rfl
          exact tableChange_update hrefl hinsert q
      | talkers | receiveTalker | withdrawTalker | leaveTalker | resetTalker | insertTalker | dropTalker
          | domains | insertDomain => exact .refl (hrefl q) _
  | reservation h =>
      rw [h.sameEntries.listeners]
      exact .refl (hrefl q) _
  | unregister h =>
      cases h with
      | listener he hregistrar happlicant hpending =>
          exact hset he rfl (.unregistered List.mem_cons_self hregistrar happlicant hpending)
      | talker => exact .refl (hrefl q) _

theorem AvbChange.domains {s s' : AvbState cfg} (h : AvbChange s s') (q : cfg.Port) :
    TableChange MsrpDomainEntry.key MsrpDomainEntry.sm SmQuiet (s.domains q) (s'.domains q) := by
  have hrefl : ∀ (_ : cfg.Port) (m : MrpSm), SmQuiet m m := fun _ _ => id
  cases h with
  | write h =>
      cases h with
      | frame h =>
          rw [h.domains]
          exact .refl (hrefl q) _
      | domains h =>
          refine tableChange_update hrefl (.entries (h.mono ?_)) q
          intro e e' hwrite
          exact ⟨hwrite.key, hwrite.pendingTx⟩
      | @insertDomain p i srClassId hnew =>
          have hkeys : ∀ j e', s.domains p j = some e' →
              e'.key ≠ (MsrpDomainEntry.fresh srClassId).key := by
            intro j e' he' hkey
            have hno := SlotTable.find_eq_none.mp hnew j e' he'
            exact absurd hkey (of_decide_eq_false hno)
          have hinsert : TableChange MsrpDomainEntry.key MsrpDomainEntry.sm SmQuiet (s.domains p)
              ((s.domains p).set i (some (.fresh srClassId))) := .insert rfl hkeys rfl
          exact tableChange_update hrefl hinsert q
      | talkers | receiveTalker | withdrawTalker | leaveTalker | resetTalker | insertTalker | dropTalker
          | listeners | withdrawListener | leaveListener | insertListener => exact .refl (hrefl q) _
  | reservation h =>
      rw [h.sameEntries.domains]
      exact .refl (hrefl q) _
  | unregister h => cases h <;> exact .refl (hrefl q) _

/-! ### Keys, and nothing left to send -/

structure TablesOk (s : AvbState cfg) : Prop where
  talkerKeys : ∀ p, (s.talkers p).KeysUnique MsrpTalkerEntry.key
  listenerKeys : ∀ p, (s.listeners p).KeysUnique MsrpListenerEntry.key
  domainKeys : ∀ p, (s.domains p).KeysUnique MsrpDomainEntry.key
  talkerSent : ∀ p i e, s.talkers p i = some e → e.sm.pendingTx = .none
  listenerSent : ∀ p i e, s.listeners p i = some e → e.sm.pendingTx = .none
  domainSent : ∀ p i e, s.domains p i = some e → e.sm.pendingTx = .none

theorem tablesOk_init (lite : Bool) : TablesOk (.init cfg lite) where
  talkerKeys _ := SlotTable.keysUnique_empty _
  listenerKeys _ := SlotTable.keysUnique_empty _
  domainKeys _ := SlotTable.keysUnique_empty _
  talkerSent _ _ _ he := by cases he
  listenerSent _ _ _ he := by cases he
  domainSent _ _ _ he := by cases he

theorem mrpSmStep_rLv_pendingTx (nowUs : Nat) (sm : MrpSm) :
    (mrpSmStep nowUs sm .rLv).pendingTx = sm.pendingTx := by
  simp [mrpSmStep, mrpApplicantStep, mrpApplicantTx]

theorem mrpSmStep_rLv_mt {nowUs : Nat} {sm : MrpSm} (h : (mrpSmStep nowUs sm .rLv).registrar = .MT) :
    sm.registrar = .MT := by
  cases hregistrar : sm.registrar with
  | MT => rfl
  | IN | LV => simp [mrpSmStep, mrpRegistrarStep, hregistrar] at h

theorem SmChange.pendingTx {s s' : AvbState cfg} {p : cfg.Port} {sm sm' : MrpSm}
    (h : SmChange s s' p sm sm') (hnone : sm.pendingTx = .none) : sm'.pendingTx = .none := by
  cases h with
  | writes h => exact h.pendingTx hnone
  | withdrawn hlog => rw [mrpWithdrawStep_pendingTx, hnone]
  | left hlog => rw [mrpSmStep_rLv_pendingTx, hnone]
  | reset => rfl
  | unregistered hlog hregistrar happlicant hpending => rw [hpending, hnone]

theorem TablesOk.change {s s' : AvbState cfg} (hok : TablesOk s) (h : AvbChange s s') :
    TablesOk s' where
  talkerKeys p := (h.talkers p).keysUnique (hok.talkerKeys p)
  listenerKeys p := (h.listeners p).keysUnique (hok.listenerKeys p)
  domainKeys p := (h.domains p).keysUnique (hok.domainKeys p)
  talkerSent p := (h.talkers p).forall_sm (Q := fun sm => sm.pendingTx = .none) rfl
    (fun _ _ hsm => hsm.pendingTx) (hok.talkerSent p)
  listenerSent p := (h.listeners p).forall_sm (Q := fun sm => sm.pendingTx = .none) rfl
    (fun _ _ hsm => hsm.pendingTx) (hok.listenerSent p)
  domainSent p := (h.domains p).forall_sm (Q := fun sm => sm.pendingTx = .none) rfl
    (fun _ _ hsm => hsm) (hok.domainSent p)

theorem TablesOk.changes {s s' : AvbState cfg} (hok : TablesOk s) (h : Changes s s') :
    TablesOk s' := by
  induction h with
  | refl => exact hok
  | tail _ hchange ih => exact ih.change hchange

theorem moves_setLite (s : AvbState cfg) (lite : Bool) :
    Moves { s with avbLite := lite, mrpLite := lite } (avbStep s (.setAvbLite lite)) := by
  unfold avbStep avbSetLite
  dsimp only
  split
  · exact (writes_liteRedeclareAll (P := fun _ => True) _ trivial).moves
  · exact .refl

theorem TablesOk.step {s : AvbState cfg} (hok : TablesOk s) (ev : AvbEvent cfg) :
    TablesOk (avbStep s ev) := by
  by_cases hmode : ∀ lite, ev ≠ .setAvbLite lite
  · exact hok.changes (changes_avbStep s ev hmode)
  · push Not at hmode
    obtain ⟨lite, rfl⟩ := hmode
    have hset : TablesOk { s with avbLite := lite, mrpLite := lite } :=
      ⟨hok.talkerKeys, hok.listenerKeys, hok.domainKeys, hok.talkerSent, hok.listenerSent,
        hok.domainSent⟩
    exact hset.changes (moves_setLite s lite).changes

/-- In every state a run reaches, a key has at most one entry and nothing waits to be sent. -/
theorem tablesOk_avbRun (lite : Bool) (events : List (AvbEvent cfg)) :
    TablesOk (avbRun lite events) :=
  Machine.run_invariant TablesOk (fun _ ev hok => hok.step ev) (tablesOk_init lite) events

/-! ### Invariants of the runs with a given log -/

theorem AvbMove.log {s s' : AvbState cfg} (h : AvbMove s s') : s.log ⊆ s'.log :=
  h.changes.mode.2.2

section Invariant

variable {I : AvbState cfg → Prop} {Q : MsrpLog cfg → Prop}

/-- A step keeps what its moves keep, as far as the log holds what they ask of it. -/
theorem Moves.invariant (hmove : ∀ s s', AvbMove s s' → (∀ entry ∈ s'.log, Q entry) → I s → I s')
    {s s' : AvbState cfg} (h : Moves s s') (hlog : ∀ entry ∈ s'.log, Q entry) (hs : I s) :
    I s' := by
  induction h with
  | refl => exact hs
  | tail _ hlast ih =>
      apply hmove _ _ hlast hlog
      exact ih fun entry hentry => hlog entry (hlast.log hentry)

theorem Changes.invariant
    (hchange : ∀ s s', AvbChange s s' → (∀ entry ∈ s'.log, Q entry) → I s → I s')
    {s s' : AvbState cfg} (h : Changes s s') (hlog : ∀ entry ∈ s'.log, Q entry) (hs : I s) :
    I s' := by
  induction h with
  | refl => exact hs
  | tail _ hlast ih =>
      apply hchange _ _ hlast hlog
      exact ih fun entry hentry => hlog entry (hlast.mode.2.2 hentry)

theorem avbStep_log (s : AvbState cfg) (ev : AvbEvent cfg) : s.log ⊆ (avbStep s ev).log := by
  by_cases hmode : ∀ lite, ev ≠ .setAvbLite lite
  · exact (changes_avbStep s ev hmode).mode.2.2
  · push Not at hmode
    obtain ⟨lite, rfl⟩ := hmode
    exact (moves_setLite s lite).changes.mode.2.2

/-- What the moves keep under a condition on the log, a run keeps whose log meets it. -/
theorem avbRun_invariant_of_moves {lite : Bool} {events : List (AvbEvent cfg)}
    (hmove : ∀ s s', AvbMove s s' → (∀ entry ∈ s'.log, Q entry) → I s → I s')
    (hmode : ∀ s lite', .setAvbLite lite' ∈ events → I s →
      I { s with avbLite := lite', mrpLite := lite' })
    (hinit : I (.init cfg lite)) (hlog : ∀ entry ∈ (avbRun lite events).log, Q entry) :
    I (avbRun lite events) := by
  suffices h : (∀ entry ∈ (avbRun lite events).log, Q entry) → I (avbRun lite events) from h hlog
  apply Machine.run_invariant_of_forall_mem fun s => (∀ entry ∈ s.log, Q entry) → I s
  · intro s ev hev ih hlog'
    have hs := ih fun entry hentry => hlog' entry (avbStep_log s ev hentry)
    by_cases hkept : ∀ lite, ev ≠ .setAvbLite lite
    · exact (moves_avbStep s ev hkept).invariant hmove hlog' hs
    · push Not at hkept
      obtain ⟨lite', rfl⟩ := hkept
      exact (moves_setLite s lite').invariant hmove hlog' (hmode s lite' hev hs)
  · intro _
    exact hinit

theorem avbRun_invariant {lite : Bool} {events : List (AvbEvent cfg)}
    (hchange : ∀ s s', AvbChange s s' → (∀ entry ∈ s'.log, Q entry) → I s → I s')
    (hmode : ∀ s lite', .setAvbLite lite' ∈ events → I s →
      I { s with avbLite := lite', mrpLite := lite' })
    (hinit : I (.init cfg lite)) (hlog : ∀ entry ∈ (avbRun lite events).log, Q entry) :
    I (avbRun lite events) :=
  avbRun_invariant_of_moves (fun _ _ hmove => hmove.changes.invariant hchange) hmode hinit hlog

end Invariant

end EspAvb
