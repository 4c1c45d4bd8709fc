import EspAvb.Msrp

/-!
# Finding and inserting table entries

`mrp.c` §6. A pointer to an entry is the index of its slot; it is read and written through the
state, as other handlers may have written the slot in between.
-/

namespace EspAvb

variable {cfg : Config}

abbrev TalkerRef (cfg : Config) := Fin cfg.talkerTableSize
abbrev ListenerRef (cfg : Config) := Fin cfg.listenerTableSize
abbrev DomainRef := Fin msrpDomainTableSize

namespace AvbState

def setTalker (s : AvbState cfg) (p : cfg.Port) (i : TalkerRef cfg)
    (e : Option (MsrpTalkerEntry cfg)) : AvbState cfg :=
  { s with talkers := Function.update s.talkers p ((s.talkers p).set i e) }

def modifyTalker (s : AvbState cfg) (p : cfg.Port) (i : TalkerRef cfg)
    (f : MsrpTalkerEntry cfg → MsrpTalkerEntry cfg) : AvbState cfg :=
  s.setTalker p i ((s.talkers p i).map f)

def setListener (s : AvbState cfg) (p : cfg.Port) (i : ListenerRef cfg)
    (e : Option MsrpListenerEntry) : AvbState cfg :=
  { s with listeners := Function.update s.listeners p ((s.listeners p).set i e) }

def modifyListener (s : AvbState cfg) (p : cfg.Port) (i : ListenerRef cfg)
    (f : MsrpListenerEntry → MsrpListenerEntry) : AvbState cfg :=
  s.setListener p i ((s.listeners p i).map f)

def setDomain (s : AvbState cfg) (p : cfg.Port) (i : DomainRef) (e : Option MsrpDomainEntry) :
    AvbState cfg :=
  { s with domains := Function.update s.domains p ((s.domains p).set i e) }

def modifyDomain (s : AvbState cfg) (p : cfg.Port) (i : DomainRef)
    (f : MsrpDomainEntry → MsrpDomainEntry) : AvbState cfg :=
  s.setDomain p i ((s.domains p i).map f)

def addLog (s : AvbState cfg) (entry : MsrpLog cfg) : AvbState cfg :=
  { s with log := entry :: s.log }

end AvbState

/-! ### Talkers -/

def talkerIs (streamId : UniqueId) (attrType : MsrpAttrType) (e : MsrpTalkerEntry cfg) : Bool :=
  e.attrType = attrType ∧ e.wire.info.streamId = streamId

def msrpTalkerFind (s : AvbState cfg) (p : cfg.Port) (streamId : UniqueId)
    (attrType : MsrpAttrType) : Option (TalkerRef cfg) :=
  (s.talkers p).find (talkerIs streamId attrType)

/-- The entry `msrpTalkerFind` points to. -/
def talkerAt (s : AvbState cfg) (p : cfg.Port) (streamId : UniqueId) (attrType : MsrpAttrType) :
    Option (MsrpTalkerEntry cfg) :=
  (s.talkers p).lookup (talkerIs streamId attrType)

/-- A full table gives up an idle entry, unless a declaration held off after a value change still
owns it. -/
def msrpTalkerReusable (e : MsrpTalkerEntry cfg) : Bool :=
  mrpSmIdle e.sm ∧ e.redeclareAfterUs = 0

def msrpTalkerFindOrInsert (s : AvbState cfg) (p : cfg.Port) (streamId : UniqueId)
    (attrType : MsrpAttrType) : Option (TalkerRef cfg × AvbState cfg) :=
  ((s.talkers p).findOrInsert (talkerIs streamId attrType) msrpTalkerReusable
      (MsrpTalkerEntry.fresh streamId attrType)).map
    fun (i, table) => (i, { s with talkers := Function.update s.talkers p table })

def mrpTalkerAdvertiseActive (s : AvbState cfg) (p : cfg.Port) (streamId : UniqueId) : Bool :=
  match talkerAt s p streamId .talkerAdvertise with
  | some e => e.sm.registrar = .IN ∨ e.sm.registrar = .LV
  | none => false

/-- MaxFrameSize and MaxIntervalFrames of an active Talker Advertise. -/
def mrpTalkerAdvertiseTspec (s : AvbState cfg) (p : cfg.Port) (streamId : UniqueId) :
    Option (Nat × Nat) :=
  if mrpTalkerAdvertiseActive s p streamId then
    (talkerAt s p streamId .talkerAdvertise).map fun e =>
      (e.wire.info.tspecMaxFrameSize.toNat, e.wire.info.tspecMaxFrameInterval.toNat)
  else none

/-- The failure code of a registered Talker Failed. In AVB Lite an Lv ends it at once. -/
def mrpTalkerFailedActive (s : AvbState cfg) (p : cfg.Port) (streamId : UniqueId) : Option UInt8 :=
  match talkerAt s p streamId .talkerFailed with
  | some e =>
      if e.sm.registrar = .IN ∨ (s.mrpLite = false ∧ e.sm.registrar = .LV) then
        some e.wire.failureCode
      else none
  | none => none

/-! ### Listeners and domains -/

def listenerIs (streamId : UniqueId) (e : MsrpListenerEntry) : Bool := e.wire.streamId = streamId

def msrpListenerFind (s : AvbState cfg) (p : cfg.Port) (streamId : UniqueId) :
    Option (ListenerRef cfg) :=
  (s.listeners p).find (listenerIs streamId)

/-- The entry `msrpListenerFind` points to. -/
def listenerAt (s : AvbState cfg) (p : cfg.Port) (streamId : UniqueId) :
    Option MsrpListenerEntry :=
  (s.listeners p).lookup (listenerIs streamId)

def msrpListenerReusable (e : MsrpListenerEntry) : Bool := mrpSmIdle e.sm

def msrpListenerFindOrInsert (s : AvbState cfg) (p : cfg.Port) (streamId : UniqueId) :
    Option (ListenerRef cfg × AvbState cfg) :=
  ((s.listeners p).findOrInsert (listenerIs streamId) msrpListenerReusable
      (MsrpListenerEntry.fresh streamId)).map
    fun (i, table) => (i, { s with listeners := Function.update s.listeners p table })

/-- Only an empty slot takes a new domain. -/
def msrpDomainFindOrInsert (s : AvbState cfg) (p : cfg.Port) (srClassId : UInt8) :
    Option (DomainRef × AvbState cfg) :=
  ((s.domains p).findOrInsert (fun e => e.wire.srClassId = srClassId) (fun _ => false)
      (MsrpDomainEntry.fresh srClassId)).map
    fun (i, table) => (i, { s with domains := Function.update s.domains p table })

/-! ### Reading what was written -/

@[simp]
theorem setTalker_talkers (s : AvbState cfg) (p q : cfg.Port) (i : TalkerRef cfg)
    (e : Option (MsrpTalkerEntry cfg)) :
    (s.setTalker p i e).talkers q = if q = p then (s.talkers p).set i e else s.talkers q := by
  simp [AvbState.setTalker, Function.update_apply]

theorem setTalker_apply (s : AvbState cfg) (p q : cfg.Port) (i j : TalkerRef cfg)
    (e : Option (MsrpTalkerEntry cfg)) : (s.setTalker p i e).talkers q j
      = if q = p ∧ j = i then e else s.talkers q j := by
  rw [setTalker_talkers]
  by_cases hq : q = p
  · subst hq
    simp [SlotTable.set_apply]
  · simp [hq]

@[simp]
theorem setListener_listeners (s : AvbState cfg) (p q : cfg.Port) (i : ListenerRef cfg)
    (e : Option MsrpListenerEntry) :
    (s.setListener p i e).listeners q
      = if q = p then (s.listeners p).set i e else s.listeners q := by
  simp [AvbState.setListener, Function.update_apply]

@[simp]
theorem setDomain_domains (s : AvbState cfg) (p q : cfg.Port) (i : DomainRef)
    (e : Option MsrpDomainEntry) :
    (s.setDomain p i e).domains q = if q = p then (s.domains p).set i e else s.domains q := by
  simp [AvbState.setDomain, Function.update_apply]

@[simp]
theorem addLog_talkers (s : AvbState cfg) (entry : MsrpLog cfg) :
    (s.addLog entry).talkers = s.talkers := rfl

@[simp]
theorem addLog_listeners (s : AvbState cfg) (entry : MsrpLog cfg) :
    (s.addLog entry).listeners = s.listeners := rfl

@[simp]
theorem setTalker_setTalker (s : AvbState cfg) (p : cfg.Port) (i : TalkerRef cfg)
    (e e' : Option (MsrpTalkerEntry cfg)) :
    (s.setTalker p i e).setTalker p i e' = s.setTalker p i e' := by
  simp [AvbState.setTalker]

@[simp]
theorem setListener_setListener (s : AvbState cfg) (p : cfg.Port) (i : ListenerRef cfg)
    (e e' : Option MsrpListenerEntry) :
    (s.setListener p i e).setListener p i e' = s.setListener p i e' := by
  simp [AvbState.setListener]

@[simp]
theorem talkerIs_iff {streamId : UniqueId} {attrType : MsrpAttrType} {e : MsrpTalkerEntry cfg} :
    talkerIs streamId attrType e = true ↔ e.key = (streamId, attrType) := by
  simp only [talkerIs, MsrpTalkerEntry.key, decide_eq_true_eq, Prod.mk.injEq]
  exact and_comm

@[simp]
theorem listenerIs_iff {streamId : UniqueId} {e : MsrpListenerEntry} :
    listenerIs streamId e = true ↔ e.wire.streamId = streamId := by
  simp [listenerIs]

@[simp]
theorem msrpTalkerReusable_iff {e : MsrpTalkerEntry cfg} :
    msrpTalkerReusable e = true ↔ mrpSmIdle e.sm = true ∧ e.redeclareAfterUs = 0 := by
  simp [msrpTalkerReusable]

/-! ### What finding or inserting does -/

theorem msrpTalkerFindOrInsert_outcome (s : AvbState cfg) (p : cfg.Port) (streamId : UniqueId)
    (attrType : MsrpAttrType) :
    (∃ i e, msrpTalkerFind s p streamId attrType = some i ∧ s.talkers p i = some e
        ∧ msrpTalkerFindOrInsert s p streamId attrType = some (i, s))
      ∨ (∃ i, msrpTalkerFind s p streamId attrType = none
          ∧ (s.talkers p).place msrpTalkerReusable = some i
          ∧ msrpTalkerFindOrInsert s p streamId attrType
              = some (i, s.setTalker p i (some (.fresh streamId attrType))))
      ∨ (msrpTalkerFind s p streamId attrType = none
          ∧ (s.talkers p).place msrpTalkerReusable = none
          ∧ msrpTalkerFindOrInsert s p streamId attrType = none) := by
  obtain ⟨i, e, hfind, hi, h⟩ | ⟨i, hfind, hplace, h⟩ | ⟨hfind, hplace, h⟩ :=
    (s.talkers p).findOrInsert_outcome (talkerIs streamId attrType) msrpTalkerReusable
      (MsrpTalkerEntry.fresh streamId attrType)
  · left
    refine ⟨i, e, hfind, hi, ?_⟩
    rw [msrpTalkerFindOrInsert, h]
    simp
  · right
    left
    refine ⟨i, hfind, hplace, ?_⟩
    rw [msrpTalkerFindOrInsert, h]
    rfl
  · right
    right
    refine ⟨hfind, hplace, ?_⟩
    rw [msrpTalkerFindOrInsert, h]
    rfl

theorem msrpListenerFindOrInsert_outcome (s : AvbState cfg) (p : cfg.Port)
    (streamId : UniqueId) :
    (∃ i e, msrpListenerFind s p streamId = some i ∧ s.listeners p i = some e
        ∧ msrpListenerFindOrInsert s p streamId = some (i, s))
      ∨ (∃ i, msrpListenerFind s p streamId = none
          ∧ (s.listeners p).place msrpListenerReusable = some i
          ∧ msrpListenerFindOrInsert s p streamId
              = some (i, s.setListener p i (some (.fresh streamId))))
      ∨ (msrpListenerFind s p streamId = none
          ∧ (s.listeners p).place msrpListenerReusable = none
          ∧ msrpListenerFindOrInsert s p streamId = none) := by
  obtain ⟨i, e, hfind, hi, h⟩ | ⟨i, hfind, hplace, h⟩ | ⟨hfind, hplace, h⟩ :=
    (s.listeners p).findOrInsert_outcome (listenerIs streamId) msrpListenerReusable
      (MsrpListenerEntry.fresh streamId)
  · left
    refine ⟨i, e, hfind, hi, ?_⟩
    rw [msrpListenerFindOrInsert, h]
    simp
  · right
    left
    refine ⟨i, hfind, hplace, ?_⟩
    rw [msrpListenerFindOrInsert, h]
    rfl
  · right
    right
    refine ⟨hfind, hplace, ?_⟩
    rw [msrpListenerFindOrInsert, h]
    rfl

end EspAvb
