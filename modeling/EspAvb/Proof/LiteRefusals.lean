import EspAvb.LiteRefusals
import EspAvb.Proof.Propagate
import EspAvb.System

/-!
# What a call of `mrp_lite_sync_refusals` does

A call leaves every refusal it lists declared with the value it asks for, and none other of its
stream. The second scan is a fold over the list, so each listed listener is followed from its own
turn to the end of the list; a listener is listed once, and no later turn touches its entry.

A refusal withdrawn in VP goes to VO and says nothing. It is in VP once the LeaveAll timer has it
declared again, or when it is listed again before its Lv went out.
-/

namespace EspAvb

open Machine

variable {cfg : Config}

/-! ### One entry -/

theorem mrpApplicantNext_declares (a : MrpApplicantState) (sm : MrpSm) (h : sm.applicant = a) :
    mrpApplicantDeclaring (mrpApplicantNext a (mrpDeclareEvent sm)) = true := by
  subst h
  unfold mrpDeclareEvent
  cases sm.applicant <;> rfl

/-- The entry refuses the listener as the call asks for it. -/
structure Refuses (s : AvbState cfg) (call : RefusalCall) (refused : EthAddr × UInt8)
    (e : MsrpLiteRefusalEntry) : Prop where
  key : e.key = (call.streamId, refused.1)
  info : e.wire.info = (mrpLiteRefusalCandidate s call refused.2).info
  code : e.wire.failureCode = refused.2
  declaring : mrpApplicantDeclaring e.sm.applicant = true

theorem declare_declaring (nowUs : Nat) (e : MsrpLiteRefusalEntry) :
    mrpApplicantDeclaring (mrpLiteRefusalDeclare nowUs e).sm.applicant = true :=
  mrpApplicantNext_declares e.sm.applicant e.sm rfl

theorem renew_refuses {s : AvbState cfg} {call : RefusalCall} {refused : EthAddr × UInt8}
    {e : MsrpLiteRefusalEntry} (nowUs : Nat) (hkey : e.key = (call.streamId, refused.1)) :
    Refuses s call refused
      (mrpLiteRefusalRenew nowUs (mrpLiteRefusalCandidate s call refused.2) e) := by
  have hkey' := @mrpLiteRefusalRenew_key nowUs (mrpLiteRefusalCandidate s call refused.2) e
    (congrArg Prod.fst hkey).symm
  unfold mrpLiteRefusalRenew at hkey' ⊢
  split
  · rename_i hchanged
    rw [if_pos hchanged] at hkey'
    exact ⟨hkey'.trans hkey, rfl, rfl, declare_declaring nowUs _⟩
  · rename_i hsame
    simp only [not_or, not_not] at hsame
    split
    · rename_i hdeclaring
      exact ⟨hkey, hsame.1, hsame.2, hdeclaring⟩
    · exact ⟨hkey, hsame.1, hsame.2, declare_declaring nowUs e⟩

theorem renew_of_refuses {s : AvbState cfg} {call : RefusalCall} {refused : EthAddr × UInt8}
    {e : MsrpLiteRefusalEntry} (nowUs : Nat) (h : Refuses s call refused e) :
    mrpLiteRefusalRenew nowUs (mrpLiteRefusalCandidate s call refused.2) e = e := by
  have hsame : ¬ (e.wire.info ≠ (mrpLiteRefusalCandidate s call refused.2).info
      ∨ e.wire.failureCode ≠ (mrpLiteRefusalCandidate s call refused.2).failureCode) := by
    rintro (hinfo | hcode)
    · exact hinfo h.info
    · exact hcode h.code
  rw [mrpLiteRefusalRenew, if_neg hsame, if_pos h.declaring]

theorem fresh_refuses (s : AvbState cfg) (call : RefusalCall) (refused : EthAddr × UInt8) :
    Refuses s call refused
      (mrpLiteRefusalDeclare s.nowUs
        { listenerMac := refused.1, wire := mrpLiteRefusalCandidate s call refused.2, sm := .fresh,
          liteNextTxUs := 0 }) :=
  ⟨rfl, rfl, rfl, declare_declaring s.nowUs _⟩

/-! ### One turn of the second scan -/

def Absent (t : RefusalTable) (key : UniqueId × EthAddr) : Prop := ∀ i e, t i = some e → e.key ≠ key

theorem find_eq_none_iff {t : RefusalTable} {streamId : UniqueId} {mac : EthAddr} :
    mrpLiteRefusalFind t streamId mac = none ↔ Absent t (streamId, mac) := by
  simp [mrpLiteRefusalFind, SlotTable.find_eq_none, Absent]

/-- The three outcomes of one turn: the listener's entry rewritten, a new entry in a free slot, or
no room for it. -/
theorem refuse_outcome (s : AvbState cfg) (call : RefusalCall) (t : RefusalTable)
    (refused : EthAddr × UInt8) :
    (∃ i e e', t i = some e ∧ e.key = (call.streamId, refused.1) ∧ Refuses s call refused e'
        ∧ e' = mrpLiteRefusalRenew s.nowUs (mrpLiteRefusalCandidate s call refused.2) e
        ∧ mrpLiteRefuse s call t refused = t.set i (some e'))
      ∨ (∃ i e', t i = none ∧ Absent t (call.streamId, refused.1) ∧ Refuses s call refused e'
        ∧ e' = mrpLiteRefusalDeclare s.nowUs
          { listenerMac := refused.1, wire := mrpLiteRefusalCandidate s call refused.2,
            sm := .fresh, liteNextTxUs := 0 }
        ∧ mrpLiteRefuse s call t refused = t.set i (some e'))
      ∨ (t.free = none ∧ Absent t (call.streamId, refused.1)
        ∧ mrpLiteRefuse s call t refused = t) := by
  cases hfind : mrpLiteRefusalFind t call.streamId refused.1 with
  | some i =>
      obtain ⟨e, he, hq⟩ := SlotTable.find_eq_some hfind
      have hkey : e.key = (call.streamId, refused.1) := by simpa using hq
      have heq : mrpLiteRefuse s call t refused
          = t.set i (some (mrpLiteRefusalRenew s.nowUs
            (mrpLiteRefusalCandidate s call refused.2) e)) := by
        unfold mrpLiteRefuse
        simp only [hfind, he]
      exact Or.inl ⟨i, e, _, he, hkey, renew_refuses s.nowUs hkey, rfl, heq⟩
  | none =>
      have habsent := find_eq_none_iff.mp hfind
      cases hfree : t.free with
      | some i =>
          have heq : mrpLiteRefuse s call t refused
              = t.set i (some (mrpLiteRefusalDeclare s.nowUs
                { listenerMac := refused.1, wire := mrpLiteRefusalCandidate s call refused.2,
                  sm := .fresh, liteNextTxUs := 0 })) := by
            unfold mrpLiteRefuse
            simp only [hfind, hfree]
          exact Or.inr (Or.inl ⟨i, _, SlotTable.free_eq_some hfree, habsent,
            fresh_refuses s call refused, rfl, heq⟩)
      | none =>
          have heq : mrpLiteRefuse s call t refused = t := by
            unfold mrpLiteRefuse
            simp only [hfind, hfree]
          exact Or.inr (Or.inr ⟨rfl, habsent, heq⟩)

theorem refuse_unique {s : AvbState cfg} {call : RefusalCall} {t : RefusalTable}
    (refused : EthAddr × UInt8) (h : t.KeysUnique MsrpLiteRefusalEntry.key) :
    (mrpLiteRefuse s call t refused).KeysUnique MsrpLiteRefusalEntry.key := by
  obtain ⟨i, e, e', he, hkey, hrefuses, -, heq⟩ | ⟨i, e', -, habsent, hrefuses, -, heq⟩
    | ⟨-, -, heq⟩ := refuse_outcome s call t refused
  · rw [heq]
    exact h.set_key he (hrefuses.key.trans hkey.symm)
  · rw [heq]
    apply h.set_new
    intro j e he
    rw [hrefuses.key]
    exact habsent j e he
  · rw [heq]
    exact h

/-- A turn leaves the entries of every other key where they are. -/
theorem refuse_other {s : AvbState cfg} {call : RefusalCall} {t : RefusalTable}
    {refused : EthAddr × UInt8} {i : Fin msrpLiteRefusalTableSize} {e : MsrpLiteRefusalEntry}
    (he : t i = some e) (hkey : e.key ≠ (call.streamId, refused.1)) :
    mrpLiteRefuse s call t refused i = some e := by
  obtain ⟨j, ej, e', hj, hkeyj, -, -, heq⟩ | ⟨j, e', hj, -, -, -, heq⟩ | ⟨-, -, heq⟩ :=
    refuse_outcome s call t refused
  · rw [heq, SlotTable.set_other]
    · exact he
    · rintro rfl
      rw [he] at hj
      cases hj
      exact hkey hkeyj
  · rw [heq, SlotTable.set_other]
    · exact he
    · rintro rfl
      rw [he] at hj
      cases hj
  · rw [heq]
    exact he

/-- An entry a turn leaves was there before or is the listener's. -/
theorem refuse_origin {s : AvbState cfg} {call : RefusalCall} {t : RefusalTable}
    {refused : EthAddr × UInt8} {i : Fin msrpLiteRefusalTableSize} {e : MsrpLiteRefusalEntry}
    (he : mrpLiteRefuse s call t refused i = some e) :
    t i = some e ∨ e.key = (call.streamId, refused.1) := by
  obtain ⟨j, ej, e', -, -, hrefuses, -, heq⟩ | ⟨j, e', -, -, hrefuses, -, heq⟩ | ⟨-, -, heq⟩ :=
    refuse_outcome s call t refused
  · rw [heq, SlotTable.set_apply] at he
    split at he
    · cases he
      exact Or.inr hrefuses.key
    · exact Or.inl he
  · rw [heq, SlotTable.set_apply] at he
    split at he
    · cases he
      exact Or.inr hrefuses.key
    · exact Or.inl he
  · rw [heq] at he
    exact Or.inl he

theorem refuse_serves (s : AvbState cfg) (call : RefusalCall) (t : RefusalTable)
    (refused : EthAddr × UInt8) :
    (∃ i e, mrpLiteRefuse s call t refused i = some e ∧ Refuses s call refused e)
      ∨ (Absent (mrpLiteRefuse s call t refused) (call.streamId, refused.1)
        ∧ (mrpLiteRefuse s call t refused).free = none) := by
  obtain ⟨i, e, e', -, -, hrefuses, -, heq⟩ | ⟨i, e', -, -, hrefuses, -, heq⟩
    | ⟨hfree, habsent, heq⟩ := refuse_outcome s call t refused
  · exact Or.inl ⟨i, e', by rw [heq, SlotTable.set_same], hrefuses⟩
  · exact Or.inl ⟨i, e', by rw [heq, SlotTable.set_same], hrefuses⟩
  · rw [heq]
    exact Or.inr ⟨habsent, hfree⟩

theorem refuse_room {s : AvbState cfg} {call : RefusalCall} {t : RefusalTable}
    {refused : EthAddr × UInt8} (h : Absent t (call.streamId, refused.1) → t.free ≠ none) :
    ∃ i e, mrpLiteRefuse s call t refused i = some e ∧ Refuses s call refused e := by
  obtain ⟨i, e, e', -, -, hrefuses, -, heq⟩ | ⟨i, e', -, -, hrefuses, -, heq⟩
    | ⟨hfree, habsent, -⟩ := refuse_outcome s call t refused
  · exact ⟨i, e', by rw [heq, SlotTable.set_same], hrefuses⟩
  · exact ⟨i, e', by rw [heq, SlotTable.set_same], hrefuses⟩
  · exact absurd hfree (h habsent)

theorem refuse_full {s : AvbState cfg} {call : RefusalCall} {t : RefusalTable}
    (refused : EthAddr × UInt8) (h : t.free = none) :
    (mrpLiteRefuse s call t refused).free = none := by
  obtain ⟨i, e, e', -, -, -, -, heq⟩ | ⟨i, e', hi, -, -, -, -⟩ | ⟨-, -, heq⟩ :=
    refuse_outcome s call t refused
  · rw [heq, SlotTable.free_eq_none]
    intro j
    rw [SlotTable.set_apply]
    split
    · simp
    · exact SlotTable.free_eq_none.mp h j
  · exact absurd hi (SlotTable.free_eq_none.mp h i)
  · rw [heq]
    exact h

/-! ### The whole second scan -/

section scan

variable {s : AvbState cfg} {call : RefusalCall}

theorem scan_unique (l : List (EthAddr × UInt8)) {t : RefusalTable}
    (h : t.KeysUnique MsrpLiteRefusalEntry.key) :
    (l.foldl (mrpLiteRefuse s call) t).KeysUnique MsrpLiteRefusalEntry.key := by
  induction l generalizing t with
  | nil => exact h
  | cons refused rest ih => exact ih (refuse_unique refused h)

theorem scan_other {l : List (EthAddr × UInt8)} {t : RefusalTable}
    {i : Fin msrpLiteRefusalTableSize} {e : MsrpLiteRefusalEntry} (he : t i = some e)
    (hkey : ∀ refused ∈ l, e.key ≠ (call.streamId, refused.1)) :
    l.foldl (mrpLiteRefuse s call) t i = some e := by
  induction l generalizing t with
  | nil => exact he
  | cons refused rest ih =>
      apply ih (refuse_other he (hkey refused List.mem_cons_self))
      intro r hr
      exact hkey r (List.mem_cons_of_mem refused hr)

theorem scan_origin {l : List (EthAddr × UInt8)} {t : RefusalTable}
    {i : Fin msrpLiteRefusalTableSize} {e : MsrpLiteRefusalEntry}
    (he : l.foldl (mrpLiteRefuse s call) t i = some e) :
    t i = some e ∨ ∃ refused ∈ l, e.key = (call.streamId, refused.1) := by
  induction l generalizing t with
  | nil => exact Or.inl he
  | cons refused rest ih =>
      obtain hstep | ⟨r, hr, hkey⟩ := ih he
      · obtain hold | hkey := refuse_origin hstep
        · exact Or.inl hold
        · exact Or.inr ⟨refused, List.mem_cons_self, hkey⟩
      · exact Or.inr ⟨r, List.mem_cons_of_mem refused hr, hkey⟩

theorem scan_full (l : List (EthAddr × UInt8)) {t : RefusalTable} (h : t.free = none) :
    (l.foldl (mrpLiteRefuse s call) t).free = none := by
  induction l generalizing t with
  | nil => exact h
  | cons refused rest ih => exact ih (refuse_full refused h)

/-- What one turn did for its listener stands to the end of the list. -/
theorem scan_serves {l : List (EthAddr × UInt8)} (hdistinct : (l.map Prod.fst).Nodup)
    (t : RefusalTable) {refused : EthAddr × UInt8} (hmem : refused ∈ l) :
    (∃ i e, l.foldl (mrpLiteRefuse s call) t i = some e ∧ Refuses s call refused e)
      ∨ (Absent (l.foldl (mrpLiteRefuse s call) t) (call.streamId, refused.1)
        ∧ (l.foldl (mrpLiteRefuse s call) t).free = none) := by
  induction l generalizing t with
  | nil => cases hmem
  | cons first rest ih =>
      rw [List.map_cons, List.nodup_cons] at hdistinct
      obtain ⟨hfirst, hrest⟩ := hdistinct
      obtain rfl | hmem := List.mem_cons.mp hmem
      · have hother : ∀ r ∈ rest, (call.streamId, refused.1) ≠ (call.streamId, r.1) := by
          intro r hr heq
          apply hfirst
          rw [(Prod.mk.inj heq).2]
          exact List.mem_map_of_mem hr
        rw [List.foldl_cons]
        obtain ⟨i, e, he, hrefuses⟩ | ⟨habsent, hfree⟩ := refuse_serves s call t refused
        · left
          refine ⟨i, e, scan_other he ?_, hrefuses⟩
          intro r hr
          rw [hrefuses.key]
          exact hother r hr
        · right
          constructor
          · intro i e he hkey
            obtain hold | ⟨r, hr, hkey'⟩ := scan_origin he
            · exact habsent i e hold hkey
            · exact hother r hr (hkey.symm.trans hkey')
          · exact scan_full rest hfree
      · exact ih hrest (mrpLiteRefuse s call t first) hmem

/-- The listeners of a list that have no entry yet. -/
def missing (t : RefusalTable) (streamId : UniqueId) (l : List (EthAddr × UInt8)) :
    List (EthAddr × UInt8) :=
  l.filter fun refused => mrpLiteRefusalFind t streamId refused.1 = none

theorem refuse_missing_other {t : RefusalTable} {refused r : EthAddr × UInt8}
    (hne : r.1 ≠ refused.1) :
    mrpLiteRefusalFind (mrpLiteRefuse s call t refused) call.streamId r.1 = none
      ↔ mrpLiteRefusalFind t call.streamId r.1 = none := by
  rw [find_eq_none_iff, find_eq_none_iff]
  have hkey : (call.streamId, r.1) ≠ (call.streamId, refused.1) := by
    intro h
    exact hne (Prod.mk.inj h).2
  constructor
  · intro habsent i e he heq
    exact habsent i e (refuse_other he (heq ▸ hkey)) heq
  · intro habsent i e he heq
    obtain hold | hrefused := refuse_origin he
    · exact habsent i e hold heq
    · exact hkey (heq.symm.trans hrefused)

/-- With room for the new ones no listener is left out. -/
theorem scan_room {l : List (EthAddr × UInt8)} (hdistinct : (l.map Prod.fst).Nodup)
    {t : RefusalTable} (hroom : (missing t call.streamId l).length ≤ t.freeCount)
    {refused : EthAddr × UInt8} (hmem : refused ∈ l) :
    ∃ i e, l.foldl (mrpLiteRefuse s call) t i = some e ∧ Refuses s call refused e := by
  induction l generalizing t with
  | nil => cases hmem
  | cons first rest ih =>
      have hnodup := List.nodup_cons.mp hdistinct
      have hrest : missing (mrpLiteRefuse s call t first) call.streamId rest
          = missing t call.streamId rest := by
        apply List.filter_congr
        intro r hr
        rw [decide_eq_decide]
        apply refuse_missing_other
        intro heq
        exact hnodup.1 (heq ▸ List.mem_map_of_mem hr)
      have hfirst : (missing t call.streamId (first :: rest)).length
          = (missing t call.streamId rest).length
            + if mrpLiteRefusalFind t call.streamId first.1 = none then 1 else 0 := by
        unfold missing
        rw [List.filter_cons]
        split <;> simp_all
      have hlater : (missing (mrpLiteRefuse s call t first) call.streamId rest).length
          ≤ (mrpLiteRefuse s call t first).freeCount := by
        rw [hrest]
        obtain ⟨i, e, e', he, hkey, -, -, heq⟩ | ⟨i, e', hi, habsent, -, -, heq⟩
          | ⟨hfree, habsent, heq⟩ := refuse_outcome s call t first
        · have hcount := SlotTable.freeCount_set t i e'
          rw [he] at hcount
          rw [heq]
          simp only [Option.isNone_some, Bool.false_eq_true, if_false] at hcount
          omega
        · have hcount := SlotTable.freeCount_set t i e'
          rw [if_pos (find_eq_none_iff.mpr habsent)] at hfirst
          rw [hi] at hcount
          rw [heq]
          simp only [Option.isNone_none, if_true] at hcount
          omega
        · rw [if_pos (find_eq_none_iff.mpr habsent)] at hfirst
          exact absurd hfree (SlotTable.free_of_freeCount_pos (by omega))
      obtain rfl | hmem := List.mem_cons.mp hmem
      · have hturn : ∃ i e, mrpLiteRefuse s call t refused i = some e
            ∧ Refuses s call refused e := by
          apply refuse_room
          intro habsent
          rw [if_pos (find_eq_none_iff.mpr habsent)] at hfirst
          exact SlotTable.free_of_freeCount_pos (by omega)
        obtain ⟨i, e, he, hrefuses⟩ := hturn
        rw [List.foldl_cons]
        refine ⟨i, e, scan_other he ?_, hrefuses⟩
        intro r hr heq
        rw [hrefuses.key] at heq
        exact hnodup.1 ((Prod.mk.inj heq).2 ▸ List.mem_map_of_mem hr)
      · exact ih hnodup.2 hlater hmem

end scan

/-! ### A second call -/

/-- The table a call leaves: what it lists is declared or has no room, and nothing else of the stream
is declared. -/
structure Synced (s : AvbState cfg) (call : RefusalCall) (t : RefusalTable) : Prop where
  unique : t.KeysUnique MsrpLiteRefusalEntry.key
  kept : ∀ i e, t i = some e → mrpLiteRefusalKeep s call e = e
  served : ∀ refused ∈ call.refused,
    (∃ i e, t i = some e ∧ Refuses s call refused e)
      ∨ (Absent t (call.streamId, refused.1) ∧ t.free = none)

theorem keep_not_declaring {s : AvbState cfg} {call : RefusalCall} {e : MsrpLiteRefusalEntry}
    (hstream : e.wire.info.streamId = call.streamId) (hunlisted : e.listenerMac ∉ call.macs) :
    mrpApplicantDeclaring (mrpLiteRefusalKeep s call e).sm.applicant = false := by
  by_cases hdeclaring : mrpApplicantDeclaring e.sm.applicant = true
  · rw [mrpLiteRefusalKeep, if_pos ⟨hstream, hunlisted, hdeclaring⟩]
    exact mrpWithdrawStep_not_declaring s.mrpLite e.sm
  · have hkept : mrpLiteRefusalKeep s call e = e := by
      rw [mrpLiteRefusalKeep, if_neg]
      rintro ⟨-, -, h⟩
      exact hdeclaring h
    rw [hkept]
    simpa using hdeclaring

theorem keep_of_not_declaring {s : AvbState cfg} {call : RefusalCall} {e : MsrpLiteRefusalEntry}
    (h : e.wire.info.streamId = call.streamId → e.listenerMac ∉ call.macs →
      mrpApplicantDeclaring e.sm.applicant = false) : mrpLiteRefusalKeep s call e = e := by
  rw [mrpLiteRefusalKeep, if_neg]
  rintro ⟨hstream, hunlisted, hdeclaring⟩
  rw [h hstream hunlisted] at hdeclaring
  cases hdeclaring

theorem refuse_of_synced {s : AvbState cfg} {call : RefusalCall} {t : RefusalTable}
    (h : Synced s call t) {refused : EthAddr × UInt8} (hmem : refused ∈ call.refused) :
    mrpLiteRefuse s call t refused = t := by
  obtain ⟨i, e, he, hrefuses⟩ | ⟨habsent, hfree⟩ := h.served refused hmem
  · obtain ⟨j, ej, e', hj, hkey, -, hrenew, heq⟩ | ⟨j, e', -, habsent, -, -, -⟩
      | ⟨-, habsent, -⟩ := refuse_outcome s call t refused
    · have hij := h.unique j i ej e hj he (hkey.trans hrefuses.key.symm)
      subst hij
      rw [he] at hj
      cases hj
      rw [renew_of_refuses s.nowUs hrefuses] at hrenew
      rw [heq, hrenew, ← he]
      exact Function.update_eq_self j t
    · exact absurd hrefuses.key (habsent i e he)
    · exact absurd hrefuses.key (habsent i e he)
  · obtain ⟨j, ej, e', hj, hkey, -, -, -⟩ | ⟨j, e', hj, -, -, -, -⟩ | ⟨-, -, heq⟩ :=
      refuse_outcome s call t refused
    · exact absurd hkey (habsent j ej hj)
    · exact absurd hj (SlotTable.free_eq_none.mp hfree j)
    · exact heq

theorem sync_of_synced {s : AvbState cfg} {call : RefusalCall} {t : RefusalTable}
    (h : Synced s call t) : mrpLiteSyncRefusals s call t = t := by
  have hfirst : (fun i => (t i).map (mrpLiteRefusalKeep s call)) = t := by
    funext i
    cases hi : t i with
    | none => rfl
    | some e => rw [Option.map_some, h.kept i e hi]
  have hsecond : ∀ l : List (EthAddr × UInt8), (∀ refused ∈ l, refused ∈ call.refused) →
      l.foldl (mrpLiteRefuse s call) t = t := by
    intro l
    induction l with
    | nil => exact fun _ => rfl
    | cons refused rest ih =>
        intro hmem
        rw [List.foldl_cons, refuse_of_synced h (hmem refused List.mem_cons_self)]
        exact ih fun r hr => hmem r (List.mem_cons_of_mem refused hr)
  rw [mrpLiteSyncRefusals, hfirst]
  exact hsecond call.refused fun _ hmem => hmem

/-! ### The whole call -/

section call

variable {s : AvbState cfg} {call : RefusalCall} {t : RefusalTable}

theorem first_unique (h : t.KeysUnique MsrpLiteRefusalEntry.key) :
    SlotTable.KeysUnique MsrpLiteRefusalEntry.key fun i =>
      (t i).map (mrpLiteRefusalKeep s call) := by
  apply h.of_origin
  intro i e' he'
  obtain ⟨e, he, rfl⟩ := Option.map_eq_some_iff.mp he'
  exact ⟨e, he, mrpLiteRefusalKeep_key s call e⟩

theorem sync_unique (h : t.KeysUnique MsrpLiteRefusalEntry.key) :
    (mrpLiteSyncRefusals s call t).KeysUnique MsrpLiteRefusalEntry.key :=
  scan_unique call.refused (first_unique h)

theorem sync_origin {i : Fin msrpLiteRefusalTableSize} {e : MsrpLiteRefusalEntry}
    (he : mrpLiteSyncRefusals s call t i = some e) :
    (∃ e₀, t i = some e₀ ∧ e = mrpLiteRefusalKeep s call e₀)
      ∨ ∃ refused ∈ call.refused, e.key = (call.streamId, refused.1) := by
  obtain hold | hlisted := scan_origin he
  · left
    obtain ⟨e₀, he₀, heq⟩ := Option.map_eq_some_iff.mp hold
    exact ⟨e₀, he₀, heq.symm⟩
  · exact Or.inr hlisted

/-- An entry that is not one of the listed listeners' sees the first scan only. -/
theorem sync_unlisted {i : Fin msrpLiteRefusalTableSize} {e : MsrpLiteRefusalEntry}
    (he : t i = some e) (hkey : e.wire.info.streamId = call.streamId → e.listenerMac ∉ call.macs) :
    mrpLiteSyncRefusals s call t i = some (mrpLiteRefusalKeep s call e) := by
  apply scan_other
  · rw [he, Option.map_some]
  · intro refused hmem heq
    rw [mrpLiteRefusalKeep_key] at heq
    obtain ⟨hstream, hmac⟩ := Prod.mk.inj heq
    apply hkey hstream
    rw [hmac]
    exact List.mem_map_of_mem hmem

theorem sync_declaring_listed {i : Fin msrpLiteRefusalTableSize} {e : MsrpLiteRefusalEntry}
    (he : mrpLiteSyncRefusals s call t i = some e) (hstream : e.wire.info.streamId = call.streamId)
    (hdeclaring : mrpApplicantDeclaring e.sm.applicant = true) : e.listenerMac ∈ call.macs := by
  by_contra hunlisted
  obtain ⟨e₀, -, rfl⟩ | ⟨refused, hmem, hkey⟩ := sync_origin he
  · have hkey := mrpLiteRefusalKeep_key s call e₀
    obtain ⟨hstream₀, hmac₀⟩ := Prod.mk.inj hkey
    rw [hstream₀] at hstream
    rw [hmac₀] at hunlisted
    rw [keep_not_declaring hstream hunlisted] at hdeclaring
    cases hdeclaring
  · rw [(Prod.mk.inj hkey).2] at hunlisted
    exact hunlisted (List.mem_map_of_mem hmem)

theorem sync_synced (h : t.KeysUnique MsrpLiteRefusalEntry.key) :
    Synced s call (mrpLiteSyncRefusals s call t) := by
  refine ⟨sync_unique h, ?_, fun refused hmem => scan_serves call.distinct _ hmem⟩
  intro i e he
  apply keep_of_not_declaring
  intro hstream hunlisted
  by_contra hdeclaring
  exact hunlisted (sync_declaring_listed he hstream (by simpa using hdeclaring))

theorem sync_other_stream {i : Fin msrpLiteRefusalTableSize} {e : MsrpLiteRefusalEntry}
    (hstream : e.wire.info.streamId ≠ call.streamId) :
    mrpLiteSyncRefusals s call t i = some e ↔ t i = some e := by
  constructor
  · intro he
    obtain ⟨e₀, he₀, rfl⟩ | ⟨refused, -, hkey⟩ := sync_origin he
    · rw [(Prod.mk.inj (mrpLiteRefusalKeep_key s call e₀)).1] at hstream
      rw [keep_of_not_declaring fun h => absurd h hstream]
      exact he₀
    · exact absurd (Prod.mk.inj hkey).1 hstream
  · intro he
    have hkept : mrpLiteRefusalKeep s call e = e :=
      keep_of_not_declaring fun h => absurd h hstream
    rw [sync_unlisted he fun h => absurd h hstream, hkept]

theorem missing_first (l : List (EthAddr × UInt8)) :
    missing (fun i => (t i).map (mrpLiteRefusalKeep s call)) call.streamId l
      = missing t call.streamId l := by
  apply List.filter_congr
  intro refused hmem
  rw [decide_eq_decide, find_eq_none_iff, find_eq_none_iff]
  constructor
  · intro h i e he
    rw [← mrpLiteRefusalKeep_key s call e]
    exact h i _ (by simp [he])
  · intro h i e he
    obtain ⟨e₀, he₀, rfl⟩ := Option.map_eq_some_iff.mp he
    rw [mrpLiteRefusalKeep_key]
    exact h i e₀ he₀

theorem freeCount_first :
    SlotTable.freeCount (fun i => (t i).map (mrpLiteRefusalKeep s call)) = t.freeCount := by
  unfold SlotTable.freeCount
  apply Finset.sum_congr rfl
  intro i hi
  rw [Option.isNone_map]

theorem sync_room (hroom : (missing t call.streamId call.refused).length ≤ t.freeCount)
    {refused : EthAddr × UInt8} (hmem : refused ∈ call.refused) :
    ∃ i e, mrpLiteSyncRefusals s call t i = some e ∧ Refuses s call refused e := by
  apply scan_room call.distinct
  · rw [missing_first, freeCount_first]
    exact hroom
  · exact hmem

end call

/-! ### Every state of a run -/

/-- What every entry keeps: no passive or observing Applicant state but VP and VO, and an Lv to send
is due. -/
structure RefusalOk (nowUs : Nat) (e : MsrpLiteRefusalEntry) : Prop where
  states : e.sm.applicant ∈ [MrpApplicantState.VN, .AN, .AA, .QA, .VP, .LA, .VO]
  due : e.sm.applicant = .LA → e.liteNextTxUs ≤ nowUs

/-- A withdrawal leads to the Lv, but from VP to silence. -/
theorem mrpWithdrawStep_lite {sm : MrpSm}
    (hstates : sm.applicant ∈ [MrpApplicantState.VN, .AN, .AA, .QA, .VP, .LA, .VO])
    (hdeclaring : mrpApplicantDeclaring sm.applicant = true) :
    (mrpWithdrawStep true sm).applicant = if sm.applicant = .VP then .VO else .LA := by
  unfold mrpWithdrawStep
  dsimp only
  revert hstates hdeclaring
  cases happlicant : sm.applicant <;>
    simp [mrpApplicantDeclaring, mrpApplicantNext, happlicant]

theorem withdraw_ok {s : AvbState cfg} {e : MsrpLiteRefusalEntry} (hlite : s.mrpLite = true)
    (h : RefusalOk s.nowUs e) (hdeclaring : mrpApplicantDeclaring e.sm.applicant = true) :
    RefusalOk s.nowUs (mrpLiteRefusalWithdraw s e) := by
  have hnext := mrpWithdrawStep_lite h.states hdeclaring
  rw [← hlite] at hnext
  constructor
  · unfold mrpLiteRefusalWithdraw
    dsimp only
    rw [hnext]
    split <;> simp
  · intro hla
    have hmoved : (mrpWithdrawStep s.mrpLite e.sm).applicant ≠ e.sm.applicant := by
      intro hsame
      have hbefore : e.sm.applicant = .LA := hsame.symm.trans hla
      rw [hbefore] at hdeclaring
      cases hdeclaring
    have hwill : mrpApplicantWillSend (mrpWithdrawStep s.mrpLite e.sm).applicant = true := by
      have hla' : (mrpWithdrawStep s.mrpLite e.sm).applicant = .LA := hla
      rw [hla']
      rfl
    have hdue : (mrpLiteRefusalWithdraw s e).liteNextTxUs = s.nowUs := by
      unfold mrpLiteRefusalWithdraw mrpLiteNoteLocal
      dsimp only
      rw [if_pos ⟨hmoved, hwill⟩]
    exact hdue.le

theorem keep_ok {s : AvbState cfg} {call : RefusalCall} {e : MsrpLiteRefusalEntry}
    (hlite : s.mrpLite = true) (h : RefusalOk s.nowUs e) :
    RefusalOk s.nowUs (mrpLiteRefusalKeep s call e) := by
  unfold mrpLiteRefusalKeep
  split
  · rename_i hdrop
    exact withdraw_ok hlite h hdrop.2.2
  · exact h

theorem declare_ok {nowUs : Nat} {e : MsrpLiteRefusalEntry}
    (hstates : e.sm.applicant ∈ [MrpApplicantState.VN, .AN, .AA, .QA, .VP, .LA, .VO]) :
    RefusalOk nowUs (mrpLiteRefusalDeclare nowUs e) := by
  have hnext : (mrpLiteRefusalDeclare nowUs e).sm.applicant
      ∈ [MrpApplicantState.VN, .AN, .AA, .QA, .VP] := by
    revert hstates
    simp only [mrpLiteRefusalDeclare, mrpApplicantStep_applicant, mrpDeclareEvent]
    cases e.sm.applicant <;> simp [mrpApplicantNext]
  constructor
  · revert hnext
    generalize (mrpLiteRefusalDeclare nowUs e).sm.applicant = a
    cases a <;> simp
  · intro hla
    rw [hla] at hnext
    simp at hnext

theorem renew_ok {nowUs : Nat} {candidate : MsrpTalkerMessage} {e : MsrpLiteRefusalEntry}
    (h : RefusalOk nowUs e) : RefusalOk nowUs (mrpLiteRefusalRenew nowUs candidate e) := by
  unfold mrpLiteRefusalRenew
  split
  · exact declare_ok (by simp [mrpSmResetForNewValue, MrpSm.fresh])
  · split
    · exact h
    · exact declare_ok h.states

theorem scan_ok {s : AvbState cfg} {call : RefusalCall} (l : List (EthAddr × UInt8))
    {t : RefusalTable} (h : ∀ i e, t i = some e → RefusalOk s.nowUs e) :
    ∀ i e, l.foldl (mrpLiteRefuse s call) t i = some e → RefusalOk s.nowUs e := by
  induction l generalizing t with
  | nil => exact h
  | cons refused rest ih =>
      apply ih
      intro i e he
      obtain ⟨j, ej, e', hj, -, -, hrenew, heq⟩ | ⟨j, e', -, -, -, hfresh, heq⟩ | ⟨-, -, heq⟩ :=
        refuse_outcome s call t refused
      · rw [heq, SlotTable.set_apply] at he
        split at he
        · cases he
          rw [hrenew]
          exact renew_ok (h j ej hj)
        · exact h i e he
      · rw [heq, SlotTable.set_apply] at he
        split at he
        · cases he
          rw [hfresh]
          exact declare_ok (by simp [MrpSm.fresh])
        · exact h i e he
      · rw [heq] at he
        exact h i e he

theorem redeclare_ok {nowUs : Nat} {e : MsrpLiteRefusalEntry} (h : RefusalOk nowUs e) :
    RefusalOk nowUs
      { e with
        sm := (mrpLiteRedeclareSm e.sm e.liteNextTxUs nowUs).1
        liteNextTxUs := (mrpLiteRedeclareSm e.sm e.liteNextTxUs nowUs).2 } := by
  obtain ⟨hstates, hdue⟩ := h
  unfold mrpLiteRedeclareSm
  split
  · exact ⟨hstates, hdue⟩
  · rename_i hdeclaring
    revert hstates hdeclaring
    simp only [Bool.not_eq_false]
    intro hstates hdeclaring
    have hnext : mrpApplicantNext e.sm.applicant .rLA ∈ [MrpApplicantState.VN, .VP] := by
      revert hstates hdeclaring
      cases e.sm.applicant <;> simp [mrpApplicantDeclaring, mrpApplicantNext]
    constructor
    · revert hnext
      dsimp only [mrpApplicantStep_applicant]
      generalize mrpApplicantNext e.sm.applicant .rLA = a
      cases a <;> simp
    · dsimp only [mrpApplicantStep_applicant]
      intro hla
      rw [hla] at hnext
      simp at hnext

theorem flushRefusal_wait {nowUs : Nat} {e : MsrpLiteRefusalEntry}
    (h : mrpApplicantWillSend e.sm.applicant = false ∨ nowUs < e.liteNextTxUs) :
    mrpLiteFlushRefusal nowUs e
      = (if mrpApplicantDeclaring e.sm.applicant = false ∧ e.sm.applicant ≠ .LA then none
          else some { e with sm := { e.sm with pendingTx := .none } }, none) := by
  unfold mrpLiteFlushRefusal mrpLiteEntryDue
  rw [if_pos h]
  rfl

theorem flushRefusal_send {nowUs : Nat} {e : MsrpLiteRefusalEntry}
    (hwill : mrpApplicantWillSend e.sm.applicant = true) (hdue : e.liteNextTxUs ≤ nowUs) :
    mrpLiteFlushRefusal nowUs e
      = (if mrpApplicantDeclaring (mrpApplicantNext e.sm.applicant .tx) = false
            ∧ mrpApplicantNext e.sm.applicant .tx ≠ .LA then none
          else some { e with
            sm := (mrpFlushSm e.sm .tx).1, liteNextTxUs := nowUs + mrpLiteJoinTimeUs },
        (mrpFlushSm e.sm .tx).2.map (mrpTxFlushRefusal nowUs e)) := by
  unfold mrpLiteFlushRefusal mrpLiteEntryDue
  rw [if_neg (by simp [hwill, hdue])]
  rfl

theorem flush_ok {nowUs : Nat} {e e' : MsrpLiteRefusalEntry} (h : RefusalOk nowUs e)
    (he' : (mrpLiteFlushRefusal nowUs e).1 = some e') : RefusalOk nowUs e' := by
  by_cases hsends : mrpApplicantWillSend e.sm.applicant = true ∧ e.liteNextTxUs ≤ nowUs
  · rw [flushRefusal_send hsends.1 hsends.2] at he'
    have hnext : mrpApplicantNext e.sm.applicant .tx
        ∈ [MrpApplicantState.AN, .AA, .QA, .VO] := by
      have hwill := hsends.1
      have hstates := h.states
      revert hstates hwill
      cases e.sm.applicant <;> simp [mrpApplicantWillSend, mrpApplicantNext]
    dsimp only at he'
    split at he'
    · cases he'
    · cases he'
      constructor
      · revert hnext
        dsimp only [mrpFlushSm_applicant]
        generalize mrpApplicantNext e.sm.applicant .tx = a
        cases a <;> simp
      · dsimp only [mrpFlushSm_applicant]
        intro hla
        rw [hla] at hnext
        simp at hnext
  · rw [not_and_or, not_le, Bool.not_eq_true] at hsends
    rw [flushRefusal_wait hsends] at he'
    dsimp only at he'
    split at he'
    · cases he'
    · cases he'
      exact ⟨h.states, h.due⟩

theorem flush_key {nowUs : Nat} {e e' : MsrpLiteRefusalEntry}
    (he' : (mrpLiteFlushRefusal nowUs e).1 = some e') : e'.key = e.key := by
  unfold mrpLiteFlushRefusal at he'
  dsimp only at he'
  split at he'
  · cases he'
  · cases he'
    rfl

structure RefusalInv (st : RefusalState) : Prop where
  unique : st.refusals.KeysUnique MsrpLiteRefusalEntry.key
  ok : ∀ i e, st.refusals i = some e → RefusalOk st.nowUs e

theorem redeclare_inv {nowUs : Nat} {t : RefusalTable}
    (hunique : t.KeysUnique MsrpLiteRefusalEntry.key)
    (hok : ∀ i e, t i = some e → RefusalOk nowUs e) :
    (mrpLiteRedeclareRefusals nowUs t).KeysUnique MsrpLiteRefusalEntry.key
      ∧ ∀ i e, mrpLiteRedeclareRefusals nowUs t i = some e → RefusalOk nowUs e := by
  constructor
  · apply hunique.of_origin
    intro i e' he'
    obtain ⟨e, he, rfl⟩ := Option.map_eq_some_iff.mp he'
    exact ⟨e, he, rfl⟩
  · intro i e' he'
    obtain ⟨e, he, rfl⟩ := Option.map_eq_some_iff.mp he'
    exact redeclare_ok (hok i e he)

theorem refusalStep_inv (st : RefusalState) (ev : RefusalEvent cfg) (h : RefusalInv st) :
    RefusalInv (refusalStep st ev) := by
  obtain ⟨hunique, hok⟩ := h
  cases ev with
  | elapse us =>
      refine ⟨hunique, ?_⟩
      intro i e he
      obtain ⟨hstates, hdue⟩ := hok i e he
      exact ⟨hstates, fun hla => Nat.le_add_right_of_le (hdue hla)⟩
  | transport lite =>
      unfold refusalStep
      dsimp only
      split
      · exact ⟨hunique, hok⟩
      · split
        · obtain ⟨hunique', hok'⟩ := redeclare_inv hunique hok
          exact ⟨hunique', hok'⟩
        · refine ⟨SlotTable.keysUnique_empty _, ?_⟩
          intro i e he
          cases he
  | sync s call =>
      unfold refusalStep
      dsimp only
      split
      · rename_i hlite
        refine ⟨sync_unique hunique, ?_⟩
        apply scan_ok
        intro i e he
        obtain ⟨e₀, he₀, rfl⟩ := Option.map_eq_some_iff.mp he
        exact keep_ok hlite (hok i e₀ he₀)
      · exact ⟨hunique, hok⟩
  | flush =>
      unfold refusalStep
      dsimp only
      split
      · constructor
        · apply hunique.of_origin
          intro i e' he'
          obtain ⟨e, he, hflush⟩ := Option.bind_eq_some_iff.mp he'
          exact ⟨e, he, flush_key hflush⟩
        · intro i e' he'
          obtain ⟨e, he, hflush⟩ := Option.bind_eq_some_iff.mp he'
          exact flush_ok (hok i e he) hflush
      · exact ⟨hunique, hok⟩
  | leaveAllTimer =>
      unfold refusalStep
      dsimp only
      split
      · obtain ⟨hunique', hok'⟩ := redeclare_inv hunique hok
        exact ⟨hunique', hok'⟩
      · exact ⟨hunique, hok⟩

theorem refusalInv_run (events : List (RefusalEvent cfg)) :
    RefusalInv (run refusalStep RefusalState.init events) := by
  apply run_invariant RefusalInv refusalStep_inv
  refine ⟨SlotTable.keysUnique_empty _, ?_⟩
  intro i e he
  cases he

/-! ### What the next flush sends -/

/-- Where only one member of a list yields anything, that is all the list yields. -/
theorem filterMap_of_single {α β : Type*} {l : List α} (hnodup : l.Nodup) {a : α} (hmem : a ∈ l)
    {f : α → Option β} (hother : ∀ b ∈ l, b ≠ a → f b = none) : l.filterMap f = (f a).toList := by
  obtain ⟨first, second, rfl⟩ := List.append_of_mem hmem
  have hnone : ∀ part : List α, (∀ b ∈ part, f b = none) → part.filterMap f = [] := by
    intro part hpart
    exact List.filterMap_eq_nil_iff.mpr hpart
  have hfirst : ∀ b ∈ first, f b = none := by
    intro b hb
    apply hother b (List.mem_append_left _ hb)
    rintro rfl
    exact List.disjoint_of_nodup_append hnodup hb List.mem_cons_self
  have hsecond : ∀ b ∈ second, f b = none := by
    intro b hb
    apply hother b (List.mem_append_right _ (List.mem_cons_of_mem a hb))
    rintro rfl
    exact (List.nodup_cons.mp hnodup.of_append_right).1 hb
  rw [List.filterMap_append, List.filterMap_cons, hnone first hfirst, hnone second hsecond]
  cases f a <;> rfl

theorem flushRefusal_sent_key {nowUs : Nat} {e : MsrpLiteRefusalEntry} {m : RefusalSend}
    (h : (mrpLiteFlushRefusal nowUs e).2 = some m) : m.key = e.key := by
  unfold mrpLiteFlushRefusal at h
  obtain ⟨pe, -, rfl⟩ := Option.map_eq_some_iff.mp h
  rfl

/-- What a flush sends under one key is what the entry of that key sends. -/
theorem flush_sends {t : RefusalTable} (hunique : t.KeysUnique MsrpLiteRefusalEntry.key)
    (nowUs : Nat) {i : Fin msrpLiteRefusalTableSize} {e : MsrpLiteRefusalEntry} (he : t i = some e) :
    (mrpLiteFlushRefusals nowUs t).2.filter (fun m => m.key = e.key)
      = (mrpLiteFlushRefusal nowUs e).2.toList := by
  unfold mrpLiteFlushRefusals
  dsimp only
  rw [List.filter_filterMap, @filterMap_of_single _ _ _ (List.nodup_finRange _) i
    (List.mem_finRange i)]
  · rw [he]
    cases hsent : (mrpLiteFlushRefusal nowUs e).2 with
    | none => simp [hsent]
    | some m => simp [hsent, flushRefusal_sent_key hsent]
  · intro j hmem hj
    cases hslot : t j with
    | none => rfl
    | some e' =>
        rw [Option.bind_some, Option.filter_eq_none_iff]
        intro m hm
        rw [flushRefusal_sent_key hm]
        intro hkey
        exact hj (hunique j i e' e hslot he (by simpa using hkey))

theorem flush_leaving {nowUs : Nat} {e : MsrpLiteRefusalEntry} (hla : e.sm.applicant = .LA)
    (hdue : e.liteNextTxUs ≤ nowUs) :
    mrpLiteFlushRefusal nowUs e = (none, some (mrpTxFlushRefusal nowUs e mrpAttrEventLv)) := by
  rw [flushRefusal_send (by rw [hla]; rfl) hdue, hla]
  simp [mrpFlushSm, mrpApplicantStep, mrpApplicantTx, mrpApplicantNext, mrpApplicantDeclaring,
    mrpResolve3pe, mrpAttrEventLv, hla]

theorem flush_observing {nowUs : Nat} {e : MsrpLiteRefusalEntry} (hvo : e.sm.applicant = .VO) :
    mrpLiteFlushRefusal nowUs e = (none, none) := by
  rw [flushRefusal_wait (Or.inl (by rw [hvo]; rfl)), hvo]
  rfl

/-! ### The calls of a run -/

/-- A refusal of this key went out, and no Lv since. -/
def sentSinceLv (sent : List RefusalSend) (key : UniqueId × EthAddr) : Bool :=
  ((sent.filter fun m => m.key = key).getLast?).any fun m => !m.isLv

/-- A refusal of the stream, no longer listed, that a listener still holds. -/
def Dropped (st : RefusalState) (call : RefusalCall) (e : MsrpLiteRefusalEntry) : Prop :=
  e.wire.info.streamId = call.streamId ∧ e.listenerMac ∉ call.macs
    ∧ sentSinceLv st.sent e.key = true

/-- The next flush, however late, sends one Lv under the entry's key and gives its slot up. -/
def LeavesOnce (st : RefusalState) (i : Fin msrpLiteRefusalTableSize) (e : MsrpLiteRefusalEntry) :
    Prop :=
  ∀ us, (∃ m, (mrpLiteFlushRefusals (st.nowUs + us) st.refusals).2.filter (fun m => m.key = e.key)
      = [m] ∧ m.isLv = true)
    ∧ (mrpLiteFlushRefusals (st.nowUs + us) st.refusals).1 i = none

/-- What a call from `st` leaves, as it is meant. -/
structure SyncMeets (st : RefusalState) (s : AvbState cfg) (call : RefusalCall) : Prop where
  /-- With room for the new ones the declared refusals of the stream are the ones listed. -/
  listed : (missing st.refusals call.streamId call.refused).length ≤ st.refusals.freeCount →
    (∀ refused ∈ call.refused, ∃! i, ∃ e, (refusalStep st (.sync s call)).refusals i = some e
        ∧ Refuses (st.at s) call refused e)
      ∧ ∀ i e, (refusalStep st (.sync s call)).refusals i = some e →
        e.wire.info.streamId = call.streamId → mrpApplicantDeclaring e.sm.applicant = true →
        e.listenerMac ∈ call.macs
  frame : ∀ i e, e.wire.info.streamId ≠ call.streamId →
    ((refusalStep st (.sync s call)).refusals i = some e ↔ st.refusals i = some e)
  leaves : ∀ i e, st.refusals i = some e → Dropped st call e →
    LeavesOnce (refusalStep st (.sync s call)) i e
  again : ∀ us, (run refusalStep st [.sync s call, .elapse us, .sync s call]).refusals
    = (refusalStep st (.sync s call)).refusals

theorem refusalStep_sync {st : RefusalState} (hlite : st.lite = true) (s : AvbState cfg)
    (call : RefusalCall) :
    refusalStep st (.sync s call)
      = { st with refusals := mrpLiteSyncRefusals (st.at s) call st.refusals } := by
  unfold refusalStep
  dsimp only
  rw [if_pos hlite]

theorem sync_again {st : RefusalState} (hinv : RefusalInv st) (hlite : st.lite = true)
    (s : AvbState cfg) (call : RefusalCall) (us : Nat) :
    (run refusalStep st [.sync s call, .elapse us, .sync s call]).refusals
      = (refusalStep st (.sync s call)).refusals := by
  have hsynced : Synced (st.at s) call (mrpLiteSyncRefusals (st.at s) call st.refusals) :=
    sync_synced hinv.unique
  rw [run_cons, run_cons, run_cons, run_nil, refusalStep_sync hlite s call]
  -- The clock is not part of what an entry is compared with.
  have hsynced' : Synced ({ st.at s with nowUs := st.nowUs + us }) call
      (mrpLiteSyncRefusals (st.at s) call st.refusals) := by
    refine ⟨hsynced.unique, ?_, ?_⟩
    · intro i e he
      apply keep_of_not_declaring
      intro hstream hunlisted
      rw [← hsynced.kept i e he]
      exact keep_not_declaring hstream hunlisted
    · intro refused hmem
      obtain ⟨i, e, he, hkey, hinfo, hcode, hdeclaring⟩ | hfull := hsynced.served refused hmem
      · exact Or.inl ⟨i, e, he, ⟨hkey, hinfo, hcode, hdeclaring⟩⟩
      · exact Or.inr hfull
  unfold refusalStep
  dsimp only
  rw [if_pos hlite]
  exact sync_of_synced hsynced'

/-- What a dropped refusal becomes: leaving with its Lv due, or silent. -/
theorem sync_dropped {st : RefusalState} (hinv : RefusalInv st) (hlite : st.lite = true)
    {s : AvbState cfg} {call : RefusalCall} {i : Fin msrpLiteRefusalTableSize}
    {e : MsrpLiteRefusalEntry} (he : st.refusals i = some e)
    (hstream : e.wire.info.streamId = call.streamId) (hunlisted : e.listenerMac ∉ call.macs) :
    ∃ e', (refusalStep st (.sync s call)).refusals i = some e' ∧ e'.key = e.key
      ∧ if e.sm.applicant = .VP ∨ e.sm.applicant = .VO then e'.sm.applicant = .VO
        else e'.sm.applicant = .LA ∧ e'.liteNextTxUs ≤ st.nowUs := by
  have hslot := sync_unlisted (s := st.at s) he fun _ => hunlisted
  have hok := hinv.ok i e he
  have hok' : RefusalOk st.nowUs (mrpLiteRefusalKeep (st.at s) call e) :=
    keep_ok (s := st.at s) hlite hok
  refine ⟨mrpLiteRefusalKeep (st.at s) call e, ?_, mrpLiteRefusalKeep_key _ _ _, ?_⟩
  · rw [refusalStep_sync hlite s call]
    exact hslot
  by_cases hdeclaring : mrpApplicantDeclaring e.sm.applicant = true
  · have hnext : (mrpLiteRefusalKeep (st.at s) call e).sm.applicant
        = if e.sm.applicant = .VP then .VO else .LA := by
      rw [mrpLiteRefusalKeep, if_pos ⟨hstream, hunlisted, hdeclaring⟩]
      have hstep := mrpWithdrawStep_lite hok.states hdeclaring
      rw [← hlite] at hstep
      exact hstep
    have hvo : e.sm.applicant ≠ .VO := by
      intro h
      rw [h] at hdeclaring
      cases hdeclaring
    by_cases hvp : e.sm.applicant = .VP
    · rw [if_pos (Or.inl hvp), hnext, if_pos hvp]
    · rw [if_neg hvp] at hnext
      rw [if_neg (by simp [hvp, hvo])]
      exact ⟨hnext, hok'.due hnext⟩
  · have hkept : mrpLiteRefusalKeep (st.at s) call e = e :=
      keep_of_not_declaring fun _ _ => by simpa using hdeclaring
    rw [hkept]
    have hstates := hok.states
    have hdue := hok.due
    revert hstates hdeclaring hdue
    cases e.sm.applicant <;> simp [mrpApplicantDeclaring]

/-- A call does all of it, but for the refusals it drops in VP: those, and what an earlier call
dropped so, go without an Lv. -/
theorem lite_refusals_synced_iff (events : List (RefusalEvent cfg)) (s : AvbState cfg)
    (call : RefusalCall) (hlite : (run refusalStep RefusalState.init events).lite = true) :
    SyncMeets (run refusalStep RefusalState.init events) s call
      ↔ ∀ i e, (run refusalStep RefusalState.init events).refusals i = some e →
        Dropped (run refusalStep RefusalState.init events) call e →
        e.sm.applicant ≠ .VP ∧ e.sm.applicant ≠ .VO := by
  have hinv := refusalInv_run events
  generalize run refusalStep RefusalState.init events = st at hinv hlite ⊢
  have hstep := refusalStep_sync hlite s call
  have hunique : (refusalStep st (.sync s call)).refusals.KeysUnique MsrpLiteRefusalEntry.key := by
    rw [hstep]
    exact sync_unique hinv.unique
  constructor
  · intro hmeets i e he hdropped
    obtain ⟨e', he', hkey, hnext⟩ := sync_dropped (s := s) hinv hlite he hdropped.1 hdropped.2.1
    rw [← not_or]
    intro hsilent
    rw [if_pos hsilent] at hnext
    obtain ⟨⟨m, hsent, -⟩, -⟩ := hmeets.leaves i e he hdropped 0
    rw [← hkey, flush_sends hunique _ he', flush_observing hnext] at hsent
    cases hsent
  · intro hloud
    refine ⟨?_, ?_, ?_, sync_again hinv hlite s call⟩
    · intro hroom
      rw [hstep] at hunique ⊢
      constructor
      · intro refused hmem
        obtain ⟨i, e, he, hrefuses⟩ := sync_room (s := st.at s) hroom hmem
        refine ⟨i, ⟨e, he, hrefuses⟩, ?_⟩
        rintro j ⟨e', he', hrefuses'⟩
        exact hunique j i e' e he' he (hrefuses'.key.trans hrefuses.key.symm)
      · exact fun i e he => sync_declaring_listed he
    · intro i e hstream
      rw [hstep]
      exact sync_other_stream hstream
    · intro i e he hdropped us
      obtain ⟨e', he', hkey, hnext⟩ := sync_dropped (s := s) hinv hlite he hdropped.1 hdropped.2.1
      obtain ⟨hvp, hvo⟩ := hloud i e he hdropped
      rw [if_neg (by simp [hvp, hvo])] at hnext
      have hnow : (refusalStep st (.sync s call)).nowUs = st.nowUs := by
        rw [hstep]
      have hflush := @flush_leaving (st.nowUs + us) e' hnext.1 (Nat.le_add_right_of_le hnext.2)
      rw [hnow]
      constructor
      · refine ⟨mrpTxFlushRefusal (st.nowUs + us) e' mrpAttrEventLv, ?_, rfl⟩
        rw [← hkey, flush_sends hunique _ he', hflush]
        rfl
      · unfold mrpLiteFlushRefusals
        dsimp only
        rw [he', Option.bind_some, hflush]

/-! ### A refusal that stays with its listener -/

def oneRefusal : RefusalCall :=
  { streamId := .ofNat 8 1
    refused := [(.ofNat 6 7, insufficientBandwidth)]
    distinct := by decide
    declaredDa := .zero 6
    vlanId := .ofNat 2 2
    maxFrameSize := 224
    maxIntervalFrames := 1
    classB := false }

def noRefusal : RefusalCall := { oneRefusal with refused := [], distinct := by decide }

/-- Refused, sent twice, then declared anew by the LeaveAll timer. -/
def redeclaredRun : List (RefusalEvent wiredEndpoint) :=
  [.transport true, .sync (AvbState.init wiredEndpoint true) oneRefusal, .flush, .elapse 200000,
    .flush, .leaveAllTimer]

def redeclaredRefusal : MsrpLiteRefusalEntry :=
  { listenerMac := .ofNat 6 7
    wire := mrpLiteRefusalCandidate (AvbState.init wiredEndpoint true) oneRefusal
      insufficientBandwidth
    sm := { MrpSm.fresh with applicant := .VP }
    liteNextTxUs := 200000 }

set_option maxRecDepth 20000 in
/-- The talker serves the listener again, and the listener is never told. -/
theorem lite_refusal_dropped_silently :
    ¬ ∀ (events : List (RefusalEvent wiredEndpoint)) (s : AvbState wiredEndpoint)
      (call : RefusalCall), (run refusalStep RefusalState.init events).lite = true →
      SyncMeets (run refusalStep RefusalState.init events) s call := by
  intro h
  have hmeets := h redeclaredRun (AvbState.init wiredEndpoint true) noRefusal
    (by unfold redeclaredRun; decide +kernel)
  have he : (run refusalStep RefusalState.init redeclaredRun).refusals ⟨0, by decide⟩
      = some redeclaredRefusal := by
    unfold redeclaredRun
    decide +kernel
  have hdropped : Dropped (run refusalStep RefusalState.init redeclaredRun) noRefusal
      redeclaredRefusal := by
    unfold redeclaredRun
    exact ⟨by decide +kernel, by decide +kernel, by decide +kernel⟩
  obtain ⟨⟨m, hsent, -⟩, -⟩ := hmeets.leaves ⟨0, by decide⟩ redeclaredRefusal he hdropped 0
  have hsilent : (mrpLiteFlushRefusals
      ((refusalStep (run refusalStep RefusalState.init redeclaredRun)
        (.sync (AvbState.init wiredEndpoint true) noRefusal)).nowUs + 0)
      (refusalStep (run refusalStep RefusalState.init redeclaredRun)
        (.sync (AvbState.init wiredEndpoint true) noRefusal)).refusals).2.filter
        (fun m => m.key = redeclaredRefusal.key) = [] := by
    unfold redeclaredRun
    decide +kernel
  rw [hsilent] at hsent
  cases hsent

def sentOnceRun : List (RefusalEvent wiredEndpoint) :=
  [.transport true, .sync (AvbState.init wiredEndpoint true) oneRefusal, .flush]

set_option maxRecDepth 20000 in
/-- Dropped between its first two sends a refusal gets its Lv. -/
theorem lite_refusals_synced_sentOnce :
    SyncMeets (run refusalStep RefusalState.init sentOnceRun) (AvbState.init wiredEndpoint true)
      noRefusal := by
  refine (lite_refusals_synced_iff sentOnceRun _ _ (by unfold sentOnceRun; decide +kernel)).mpr ?_
  have hstates : ∀ i, ((run refusalStep RefusalState.init sentOnceRun).refusals i).all
      (fun e => e.sm.applicant = .AN) = true := by
    unfold sentOnceRun
    decide +kernel
  intro i e he hdropped
  have hstate := hstates i
  rw [he] at hstate
  have han : e.sm.applicant = .AN := by simpa using hstate
  rw [han]
  exact ⟨by decide, by decide⟩

end EspAvb
