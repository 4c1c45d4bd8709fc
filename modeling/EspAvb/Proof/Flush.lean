import EspAvb.Proof.Tables

/-!
# What a JoinTimer flush leaves in the tables

Each slot gets its turn once: its state machines take `tx!` or `txLA!`, nothing else of the entry
moves, and what the turn sends goes to the log.
-/

namespace EspAvb

variable {cfg : Config}

/-- A loop in which each slot has one turn that touches no other slot. -/
theorem foldl_finRange_slot {σ β : Type*} {n : Nat} (step : σ → Fin n → σ) (get : σ → Fin n → β)
    (f : β → β) (hself : ∀ s i, get (step s i) i = f (get s i))
    (hother : ∀ s i j, j ≠ i → get (step s i) j = get s j) (s : σ) (i : Fin n) :
    get ((List.finRange n).foldl step s) i = f (get s i) := by
  apply Machine.run_once (fun s' => get s' i = get s i) (fun s' => get s' i = f (get s i))
    (List.mem_finRange i) (List.nodup_finRange n)
  · intro s' j hj hs'
    rw [hother s' j i hj.symm, hs']
  · intro s' hs'
    rw [hself, hs']
  · intro s' j hj hs'
    rw [hother s' j i hj.symm, hs']
  · rfl

/-- What a loop keeps. -/
theorem foldl_keeps {σ ι β : Type*} (step : σ → ι → σ) (get : σ → β)
    (h : ∀ s i, get (step s i) = get s) (l : List ι) (s : σ) : get (l.foldl step s) = get s := by
  induction l generalizing s with
  | nil => rfl
  | cons i l ih => rw [List.foldl_cons, ih, h]

def flushEvent (s : AvbState cfg) (p : cfg.Port) : MrpEvent :=
  if s.mrpLeaveallTxPending p then .txLA else .tx

theorem flushEvent_tx (s : AvbState cfg) (p : cfg.Port) :
    flushEvent s p = .tx ∨ flushEvent s p = .txLA := by
  unfold flushEvent
  split
  · exact Or.inr rfl
  · exact Or.inl rfl

def MsrpTalkerEntry.flush (txEv : MrpEvent) (e : MsrpTalkerEntry cfg) : MsrpTalkerEntry cfg :=
  { e with sm := (mrpFlushSm e.sm txEv).1 }

def MsrpListenerEntry.flush (txEv : MrpEvent) (e : MsrpListenerEntry) : MsrpListenerEntry :=
  { e with sm := (mrpFlushSm e.sm txEv).1 }

def MsrpDomainEntry.flush (txEv : MrpEvent) (e : MsrpDomainEntry) : MsrpDomainEntry :=
  { e with sm := (mrpFlushSm e.sm txEv).1 }

/-- What a hold-off is measured against. -/
def AvbState.clock (s : AvbState cfg) : Nat × (cfg.Port → UInt32) × (cfg.Port → Nat) :=
  (s.nowUs, s.talkerLeaveallCount, s.talkerLeaveallUs)

theorem mrpSendAttr_clock (s : AvbState cfg) (p : cfg.Port) (cvuDest : Option EthAddr)
    (msg : MsrpMessage) : (mrpSendAttr s p cvuDest msg).clock = s.clock := by
  unfold mrpSendAttr
  split
  · split <;> rfl
  · rfl

section Slots

variable {p : cfg.Port} {txEv : MrpEvent} (pass : FlushPass cfg)

/-- A talker slot's turn: the slot, and the state around it. -/
theorem mrpTxFlushTalkerSlot_state (i : TalkerRef cfg) :
    SameTables (pass.state.setTalker p i ((pass.state.talkers p i).map (·.flush txEv)))
      (mrpTxFlushTalkerSlot p txEv pass i).state := by
  unfold mrpTxFlushTalkerSlot
  split
  · rename_i he
    rw [he, Option.map_none, setTalker_eq_self pass.state he]
    exact ⟨rfl, rfl, rfl, rfl, rfl, rfl, List.Subset.refl _⟩
  · rename_i e he
    rw [he]
    dsimp only
    split
    · exact ⟨rfl, rfl, rfl, rfl, rfl, rfl, List.Subset.refl _⟩
    · exact sameTables_sendAttr none _

theorem mrpTxFlushListenerSlot_state (i : ListenerRef cfg) :
    SameTables (pass.state.setListener p i ((pass.state.listeners p i).map (·.flush txEv)))
      (mrpTxFlushListenerSlot p txEv pass i).state := by
  unfold mrpTxFlushListenerSlot
  split
  · rename_i he
    rw [he, Option.map_none, setListener_eq_self pass.state he]
    exact ⟨rfl, rfl, rfl, rfl, rfl, rfl, List.Subset.refl _⟩
  · rename_i e he
    rw [he]
    dsimp only
    split
    · exact ⟨rfl, rfl, rfl, rfl, rfl, rfl, List.Subset.refl _⟩
    · exact sameTables_sendAttr _ _

theorem mrpTxFlushDomainSlot_state (i : DomainRef) :
    SameTables (pass.state.setDomain p i ((pass.state.domains p i).map (·.flush txEv)))
      (mrpTxFlushDomainSlot p txEv pass i).state := by
  unfold mrpTxFlushDomainSlot
  split
  · rename_i he
    have hsame : pass.state.setDomain p i none = pass.state := by
      rw [AvbState.setDomain, ← he, SlotTable.set, Function.update_eq_self,
        Function.update_eq_self]
    rw [he, Option.map_none, hsame]
    exact ⟨rfl, rfl, rfl, rfl, rfl, rfl, List.Subset.refl _⟩
  · rename_i e he
    rw [he]
    dsimp only
    split
    · exact ⟨rfl, rfl, rfl, rfl, rfl, rfl, List.Subset.refl _⟩
    · exact sameTables_sendAttr none _

theorem mrpTxFlushTalkerSlot_clock (i : TalkerRef cfg) :
    (mrpTxFlushTalkerSlot p txEv pass i).state.clock = pass.state.clock := by
  unfold mrpTxFlushTalkerSlot
  split
  · rfl
  · dsimp only
    split
    · rfl
    · exact mrpSendAttr_clock _ p none _

theorem mrpTxFlushListenerSlot_clock (i : ListenerRef cfg) :
    (mrpTxFlushListenerSlot p txEv pass i).state.clock = pass.state.clock := by
  unfold mrpTxFlushListenerSlot
  split
  · rfl
  · dsimp only
    split
    · rfl
    · exact mrpSendAttr_clock _ p _ _

theorem mrpTxFlushDomainSlot_clock (i : DomainRef) :
    (mrpTxFlushDomainSlot p txEv pass i).state.clock = pass.state.clock := by
  unfold mrpTxFlushDomainSlot
  split
  · rfl
  · dsimp only
    split
    · rfl
    · exact mrpSendAttr_clock _ p none _

end Slots

section Port

variable (s : AvbState cfg) (p : cfg.Port)

/-- The flush outside AVB Lite, table by table. -/
def flushStart : FlushPass cfg :=
  { state := s, leaveallTypes := if s.mrpLeaveallTxPending p then allAttrTypes else [] }

def flushTalkers : FlushPass cfg :=
  (List.finRange cfg.talkerTableSize).foldl (mrpTxFlushTalkerSlot p (flushEvent s p))
    (flushStart s p)

def flushListeners : FlushPass cfg :=
  (List.finRange cfg.listenerTableSize).foldl (mrpTxFlushListenerSlot p (flushEvent s p))
    (flushTalkers s p)

def flushDomains : FlushPass cfg :=
  (List.finRange msrpDomainTableSize).foldl (mrpTxFlushDomainSlot p (flushEvent s p))
    (flushListeners s p)

theorem mrpTxFlushPort_eq (hlite : s.avbLite = false) :
    mrpTxFlushPort s p = { (flushDomains s p).state with
      mrpLeaveallTxPending :=
        Function.update (flushDomains s p).state.mrpLeaveallTxPending p false } := by
  unfold mrpTxFlushPort flushDomains flushListeners flushTalkers flushStart flushEvent
  simp only [hlite, Bool.false_eq_true, if_false]

theorem mrpTxFlushPort_talkers (hlite : s.avbLite = false) (i : TalkerRef cfg) :
    (mrpTxFlushPort s p).talkers p i = (s.talkers p i).map (·.flush (flushEvent s p)) := by
  have hslot : (flushTalkers s p).state.talkers p i
      = (s.talkers p i).map (·.flush (flushEvent s p)) := by
    refine foldl_finRange_slot (mrpTxFlushTalkerSlot p (flushEvent s p))
      (fun pass i => pass.state.talkers p i) (Option.map (·.flush (flushEvent s p))) ?_ ?_
      (flushStart s p) i
    · intro pass j
      rw [(mrpTxFlushTalkerSlot_state pass j).talkers]
      simp
    · intro pass j k hk
      rw [(mrpTxFlushTalkerSlot_state pass j).talkers]
      simp [SlotTable.set_other _ _ hk]
  have hlisteners : (flushListeners s p).state.talkers = (flushTalkers s p).state.talkers :=
    foldl_keeps (mrpTxFlushListenerSlot p (flushEvent s p)) (fun pass => pass.state.talkers)
      (fun pass j => (mrpTxFlushListenerSlot_state pass j).talkers) _ _
  have hdomains : (flushDomains s p).state.talkers = (flushListeners s p).state.talkers :=
    foldl_keeps (mrpTxFlushDomainSlot p (flushEvent s p)) (fun pass => pass.state.talkers)
      (fun pass j => (mrpTxFlushDomainSlot_state pass j).talkers) _ _
  rw [mrpTxFlushPort_eq s p hlite]
  dsimp only
  rw [hdomains, hlisteners, hslot]

theorem mrpTxFlushPort_listeners (hlite : s.avbLite = false) (i : ListenerRef cfg) :
    (mrpTxFlushPort s p).listeners p i = (s.listeners p i).map (·.flush (flushEvent s p)) := by
  have htalkers : (flushTalkers s p).state.listeners = s.listeners :=
    foldl_keeps (mrpTxFlushTalkerSlot p (flushEvent s p)) (fun pass => pass.state.listeners)
      (fun pass j => (mrpTxFlushTalkerSlot_state pass j).listeners) _ _
  have hslot : (flushListeners s p).state.listeners p i
      = ((flushTalkers s p).state.listeners p i).map (·.flush (flushEvent s p)) := by
    refine foldl_finRange_slot (mrpTxFlushListenerSlot p (flushEvent s p))
      (fun pass i => pass.state.listeners p i) (Option.map (·.flush (flushEvent s p))) ?_ ?_
      (flushTalkers s p) i
    · intro pass j
      rw [(mrpTxFlushListenerSlot_state pass j).listeners]
      simp
    · intro pass j k hk
      rw [(mrpTxFlushListenerSlot_state pass j).listeners]
      simp [SlotTable.set_other _ _ hk]
  have hdomains : (flushDomains s p).state.listeners = (flushListeners s p).state.listeners :=
    foldl_keeps (mrpTxFlushDomainSlot p (flushEvent s p)) (fun pass => pass.state.listeners)
      (fun pass j => (mrpTxFlushDomainSlot_state pass j).listeners) _ _
  rw [mrpTxFlushPort_eq s p hlite]
  dsimp only
  rw [hdomains, hslot, htalkers]

/-- In AVB Lite the flush leaves talkers and listeners to their own schedule. -/
theorem mrpTxFlushPort_lite (hlite : s.avbLite = true) :
    (mrpTxFlushPort s p).talkers = s.talkers ∧ (mrpTxFlushPort s p).listeners = s.listeners := by
  unfold mrpTxFlushPort
  simp only [hlite, if_true]
  constructor
  · exact foldl_keeps (mrpTxFlushDomainSlot p _) (fun pass => pass.state.talkers)
      (fun pass j => (mrpTxFlushDomainSlot_state pass j).talkers) _ _
  · exact foldl_keeps (mrpTxFlushDomainSlot p _) (fun pass => pass.state.listeners)
      (fun pass j => (mrpTxFlushDomainSlot_state pass j).listeners) _ _

theorem mrpTxFlushPort_clock : (mrpTxFlushPort s p).clock = s.clock := by
  have htalkers := foldl_keeps (mrpTxFlushTalkerSlot p (flushEvent s p))
    (fun pass => pass.state.clock) fun pass i => mrpTxFlushTalkerSlot_clock pass i
  have hlisteners := foldl_keeps (mrpTxFlushListenerSlot p (flushEvent s p))
    (fun pass => pass.state.clock) fun pass i => mrpTxFlushListenerSlot_clock pass i
  have hdomains := foldl_keeps (mrpTxFlushDomainSlot p (flushEvent s p))
    (fun pass => pass.state.clock) fun pass i => mrpTxFlushDomainSlot_clock pass i
  cases hlite : s.avbLite with
  | false =>
      rw [mrpTxFlushPort_eq s p hlite]
      exact (hdomains _ _).trans ((hlisteners _ _).trans (htalkers _ _))
  | true =>
      unfold mrpTxFlushPort
      simp only [hlite, if_true]
      exact hdomains _ _

end Port

end EspAvb
