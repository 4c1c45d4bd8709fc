import EspAvb.Journal
import EspAvb.StreamFormat

/-!
# Boot restore of the streams

`avb_persist_load` (`avb.c`) applies the snapshot to the streams, and then the snapshot with the
journal's records laid over it. Each apply checks a stream's saved format against the entity and, where
it takes the format, restores the binding beside it.
-/

namespace EspAvb

/-! ## What is saved -/

/-- The field at a place of a blob; past its end the struct is zero. -/
def blobField (n : Nat) (blob : NvsBlob) (place : Nat) : Octets n := Octets.read n (blob.drop place)

/-- `avb_persist_input_stream_s` -/
def inputStreamAt (blob : NvsBlob) (place : Nat) : InputStreamRecord :=
  { talkerId := blobField 8 blob place
    talkerUid := UInt16.ofNat (blobField 2 blob (place + 8)).toNat
    controllerId := blobField 8 blob (place + 10)
    streamFormat := blobField 8 blob (place + 18)
    connected := blob.getD (place + 26) 0 ≠ 0
    streamingWait := blob.getD (place + 27) 0 ≠ 0
    classB := blob.getD (place + 28) 0 ≠ 0 }

/-- `avb_persist_output_stream_s` -/
structure OutputStreamRecord where
  streamFormat : Octets 8
  presentationTimeOffsetNs : UInt32
  deriving DecidableEq, Repr

/-- The number is in the order of the processor, least significant octet first. -/
def outputStreamAt (blob : NvsBlob) (place : Nat) : OutputStreamRecord :=
  { streamFormat := blobField 8 blob place
    presentationTimeOffsetNs :=
      UInt32.ofNat (Octets.value (blobField 4 blob (place + 8)).bytes.reverse) }

/-- The part of `avb_persistent_data_s` that the streams come from. -/
structure PersistStreams where
  version : UInt8
  inputs : Fin 8 → InputStreamRecord
  outputs : Fin 8 → OutputStreamRecord

def AVB_PERSIST_INPUTS_AT : Nat := 1028
def AVB_PERSIST_OUTPUTS_AT : Nat := 1268

def persistStreams (snapshot : NvsBlob) : PersistStreams :=
  { version := snapshot.headD 0
    inputs := fun i => inputStreamAt snapshot (AVB_PERSIST_INPUTS_AT + 30 * i.val)
    outputs := fun i => outputStreamAt snapshot (AVB_PERSIST_OUTPUTS_AT + 12 * i.val) }

/-- The records of the journal put over the snapshot. -/
def PersistStreams.replay (p : PersistStreams) (restored : JournalStream → Option NvsBlob) :
    PersistStreams :=
  { p with
    inputs := fun i => ((restored ⟨true, i⟩).map (inputStreamAt · 0)).getD (p.inputs i)
    outputs := fun i => ((restored ⟨false, i⟩).map (outputStreamAt · 0)).getD (p.outputs i) }

/-- The entry of a stream; the entity has fewer streams than there are entries. -/
def journalIndex (index : Nat) : Fin 8 := ⟨index % 8, Nat.mod_lt index (Nat.succ_pos 7)⟩

/-! ## The registry -/

/-- `s_devices`: the factory MAC of a board and the first address of its run. -/
def sDevices : List (Octets 6 × Octets 6) :=
  [(.ofNat 6 0xe8f60ae09220, .ofNat 6 0x8c1f6436c110),
    (.ofNat 6 0xe8f60ae816f5, .ofNat 6 0x8c1f6436c120),
    (.ofNat 6 0xe8f60ae09721, .ofNat 6 0x8c1f6436c130),
    (.ofNat 6 0xe8f60ae09720, .ofNat 6 0x8c1f6436c140),
    (.ofNat 6 0xfc012cfdfe80, .ofNat 6 0x8c1f6436c150),
    (.ofNat 6 0x80f1b2d2caa9, .ofNat 6 0x8c1f6436c160)]

/-- `avb_registry_translate_entity_id` -/
def avbRegistryTranslateEntityId (entityId : UniqueId) : UniqueId :=
  if entityId.bytes.getD 6 0 ≠ 0 ∨ entityId.bytes.getD 7 0 ≠ 0 then entityId
  else
    match sDevices.find? fun device => device.1.bytes = entityId.bytes.take 6 with
    | none => entityId
    | some device => Octets.read 8 (device.2.bytes ++ entityId.bytes.drop 6)

/-! ## Applying -/

variable (cfg : AudioConfig)

def restoreBinding (src : InputStreamRecord) (dst : AcmpListenerStream) : AcmpListenerStream :=
  { dst with
    talkerId := avbRegistryTranslateEntityId src.talkerId
    talkerUid := src.talkerUid
    controllerId := src.controllerId
    streamingWait := src.streamingWait
    classB := src.classB }

/-- One input of `avb_persist_apply`. A format that is unusable leaves the stream as it is, binding
and all, unless the entry names no talker and no format either. -/
def applyInputStream (rate : Nat) (u : Fin avbMaxNumInputStreams) (src : InputStreamRecord)
    (dst : AcmpListenerStream) : AcmpListenerStream :=
  match avbPersistNormalize cfg rate (.input u) src.streamFormat with
  | some streamFormat => restoreBinding src { dst with streamFormat }
  | none =>
      if src.streamFormat ≠ .zero 8 ∨ src.talkerId ≠ .zero 8 then dst else restoreBinding src dst

/-- A snapshot before version 3 saved zero for an offset it did not have. -/
def applyOutputStream (rate : Nat) (version : UInt8) (u : Fin avbMaxNumOutputStreams)
    (src : OutputStreamRecord) (dst : AvbTalkerStream) : AvbTalkerStream :=
  let dst :=
    match avbPersistNormalize cfg rate (.output u) src.streamFormat with
    | some streamFormat => { dst with streamFormat }
    | none => dst
  if version < 3 ∧ src.presentationTimeOffsetNs = 0 then dst
  else if src.presentationTimeOffsetNs ≤ 0x7fffffff then
    { dst with presentationTimeOffsetNs := src.presentationTimeOffsetNs }
  else dst

/-- The streams of `avb_persist_apply`. -/
def applyStreams (p : PersistStreams) (s : EntityState) : EntityState :=
  { s with
    listener := { s.listener with
      inputStreams := fun u =>
        if cfg.has (.input u) then
          applyInputStream cfg s.sampleRate u (p.inputs (journalIndex u.val))
            (s.listener.inputStreams u)
        else s.listener.inputStreams u }
    talker := { s.talker with
      outputStreams := fun u =>
        if cfg.has (.output u) then
          applyOutputStream cfg s.sampleRate p.version u (p.outputs (journalIndex u.val))
            (s.talker.outputStreams u)
        else s.talker.outputStreams u } }

/-- The journal as it is read at boot. -/
def journalAtBoot (listing : NvsListing) (nvs : Nvs) : JournalStream → Option NvsBlob :=
  (avbPersistReplayStreamJournal ⟨listing, cfg.numStreams false, cfg.numStreams true⟩
    { seq := 0, nvs, restored := fun _ => none }).restored

/-- The streams of `avb_persist_load`, in a state that has its rate. -/
def loadStreams (listing : NvsListing) (nvs : Nvs) (s : EntityState) : EntityState :=
  match nvs.blobs.lookup AVB_NVS_KEY with
  | none => s
  | some snapshot =>
      if snapshotUsable nvs.blobs then
        let p := persistStreams snapshot
        applyStreams cfg (p.replay (journalAtBoot cfg listing nvs)) (applyStreams cfg p s)
      else s

/-! ## What the journal says -/

/-- The entries of the journal about a stream, in the order of the listing. -/
def streamEntries (entries : List NvsEntry) (stream : JournalStream) : List (Nat × NvsBlob) :=
  entries.filterMap fun entry =>
    (avbPersistParseStreamJournalKey entry.1).bind fun parsed =>
      if parsed.1 = stream then some (parsed.2, entry.2) else none

/-- A readable record has the length of one. -/
def ReadableRecord (entry : Nat × NvsBlob) : Prop := entry.2.length = JOURNAL_RECORD_LEN

/-- The record is the newest readable one, the last listed of those with its number; `later` are the
entries listed after it. -/
def IsNewestRecord (entries : List (Nat × NvsBlob)) (seq : Nat) (record : NvsBlob)
    (later : List (Nat × NvsBlob)) : Prop :=
  ReadableRecord (seq, record) ∧ ∃ earlier, entries = earlier ++ (seq, record) :: later ∧
    (∀ entry ∈ earlier, ReadableRecord entry → entry.1 ≤ seq) ∧
    ∀ entry ∈ later, ReadableRecord entry → entry.1 < seq

/-- A record with the shorter blobs laid over it that are listed after it under a number as high: the
read of such a blob has overwritten the start of the buffer by the time its length is checked. -/
def laidOver (seq : Nat) (record : NvsBlob) (later : List (Nat × NvsBlob)) : NvsBlob :=
  later.foldl (fun buffer entry =>
    if seq ≤ entry.1 ∧ entry.2.length ≤ buffer.length then
      entry.2 ++ buffer.drop entry.2.length
    else buffer) record

/-- The saved format is one the stream can take at the rate, or there is neither a format nor a
talker. -/
def EntryUsable (rate : Nat) (u : Fin avbMaxNumInputStreams) (src : InputStreamRecord) : Prop :=
  (avbPersistNormalize cfg rate (.input u) src.streamFormat).isSome = true ∨
    (src.streamFormat = .zero 8 ∧ src.talkerId = .zero 8)

instance (rate : Nat) (u : Fin avbMaxNumInputStreams) (src : InputStreamRecord) :
    Decidable (EntryUsable cfg rate u src) :=
  inferInstanceAs (Decidable (_ ∨ _))

/-- A binding: the talker, its stream and the controller. -/
abbrev SavedBinding := UniqueId × UInt16 × UniqueId

def AcmpListenerStream.savedBinding (stream : AcmpListenerStream) : SavedBinding :=
  (stream.talkerId, stream.talkerUid, stream.controllerId)

/-- The binding a saved entry names, at the registered address of its talker. -/
def InputStreamRecord.savedBinding (src : InputStreamRecord) : SavedBinding :=
  (avbRegistryTranslateEntityId src.talkerId, src.talkerUid, src.controllerId)

/-- A binding names no talker. -/
def SavedBinding.Empty (binding : SavedBinding) : Prop := binding.1 = .zero 8

instance (binding : SavedBinding) : Decidable binding.Empty := inferInstanceAs (Decidable (_ = _))

end EspAvb
