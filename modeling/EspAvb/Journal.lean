import EspAvb.Lib.Machine
import EspAvb.Lib.RankedLog
import Mathlib.Data.List.AList

/-!
# The stream journal in flash

`avb.c`, the journal of stream bindings: one NVS blob for each change of a stream, under a key that
holds the direction, the index and a sequence number. The namespace is a key/value store whose
successful writes are durable at once, so `nvs_commit` has nothing left to do; each opening for
writing and each write takes its result from a script.
-/

namespace EspAvb

inductive EspErr where
  | ok
  | invalidArg
  | nvsNotFound
  | nvsNotEnoughSpace
  | fail
  deriving DecidableEq, Repr

abbrev NvsKey := List Char

abbrev NvsBlob := List UInt8

abbrev NvsEntry := Σ _ : NvsKey, NvsBlob

abbrev NvsBlobs := AList fun _ : NvsKey => NvsBlob

/-! ### The namespace -/

inductive NvsWrite where
  | setBlob (key : NvsKey) (value : NvsBlob)
  | eraseKey (key : NvsKey)
  deriving DecidableEq

def NvsWrite.apply (blobs : NvsBlobs) : NvsWrite → NvsBlobs
  | .setBlob key value => blobs.insert key value
  | .eraseKey key => blobs.erase key

/-- The blobs, the results of the coming calls (`ok` past the end of the script) and the writes
carried out so far. -/
structure Nvs where
  blobs : NvsBlobs
  results : List EspErr
  writes : List NvsWrite

def Nvs.call (nvs : Nvs) : EspErr × Nvs :=
  (nvs.results.headD .ok, { nvs with results := nvs.results.tail })

/-- `nvs_open(AVB_NVS_NAMESPACE, NVS_READWRITE, &handle)`. -/
def nvsOpen (nvs : Nvs) : EspErr × Nvs := nvs.call

def Nvs.write (nvs : Nvs) (w : NvsWrite) : EspErr × Nvs :=
  match nvs.call with
  | (.ok, nvs) => (.ok, { nvs with blobs := w.apply nvs.blobs, writes := nvs.writes ++ [w] })
  | refused => refused

def nvsSetBlob (nvs : Nvs) (key : NvsKey) (value : NvsBlob) : EspErr × Nvs :=
  nvs.write (.setBlob key value)

def nvsEraseKey (nvs : Nvs) (key : NvsKey) : EspErr × Nvs :=
  if key ∈ nvs.blobs then nvs.write (.eraseKey key) else (.nvsNotFound, nvs)

/-- Reads a blob into a buffer: the length read and the buffer after it. A longer blob is refused,
a shorter one leaves the end of the buffer as it was. -/
def nvsGetBlob (value buffer : NvsBlob) : Option (Nat × NvsBlob) :=
  if value.length ≤ buffer.length then some (value.length, value ++ buffer.drop value.length)
  else none

/-- The order in which an iterator lists the blobs is the store's own. -/
structure NvsListing where
  order : NvsBlobs → List NvsEntry
  perm : ∀ blobs, (order blobs).Perm blobs.entries

/-! ### Keys -/

structure JournalStream where
  input : Bool
  index : Fin 8
  deriving DecidableEq

def AVB_PERSIST_MAX_STREAMS : Nat := 8

/-- `%0*lx`, the low digits of a longer number. -/
def hexDigits : Nat → Nat → List Char
  | 0, _ => []
  | width + 1, n => hexDigits width (n / 16) ++ [Nat.digitChar (n % 16)]

def hexDigitValue (c : Char) : Option Nat :=
  if '0' ≤ c ∧ c ≤ '9' then some (c.toNat - 48)
  else if 'a' ≤ c ∧ c ≤ 'f' then some (c.toNat - 87)
  else if 'A' ≤ c ∧ c ≤ 'F' then some (c.toNat - 55)
  else none

def isSpace (c : Char) : Bool :=
  c = ' ' ∨ (9 ≤ c.toNat ∧ c.toNat ≤ 13)

def strtoulSign : List Char → Bool × List Char
  | '-' :: rest => (true, rest)
  | '+' :: rest => (false, rest)
  | rest => (false, rest)

/-- The digits of a hexadecimal number after an optional `0x`. -/
def strtoulHexDigits : List Char → List Char
  | '0' :: x :: c :: rest =>
      if (x = 'x' ∨ x = 'X') ∧ (hexDigitValue c).isSome then c :: rest else '0' :: x :: c :: rest
  | s => s

/-- `strtoul(s, &end, 16)` on a 32-bit `unsigned long`: the value, and `*end == '\\0'`. -/
def strtoulHex (s : List Char) : Nat × Bool :=
  let (negative, s) := strtoulSign (s.dropWhile isSpace)
  let digits := (strtoulHexDigits s).takeWhile fun c => (hexDigitValue c).isSome
  let rest := (strtoulHexDigits s).dropWhile fun c => (hexDigitValue c).isSome
  let value := digits.foldl (fun v c => 16 * v + (hexDigitValue c).getD 0) 0
  if digits = [] then (0, s = [])
  else if 2 ^ 32 ≤ value then (2 ^ 32 - 1, rest = [])
  else if negative then ((2 ^ 32 - value) % 2 ^ 32, rest = [])
  else (value, rest = [])

/-- `snprintf(key, "%s%1x%06lx", input ? "si" : "so", index, seq)`, for `seq` of 24 bits. -/
def streamJournalKey (stream : JournalStream) (seq : Nat) : NvsKey :=
  's' :: (if stream.input then 'i' else 'o') :: Nat.digitChar stream.index :: hexDigits 6 seq

def avbPersistParseStreamJournalKey (key : NvsKey) : Option (JournalStream × Nat) :=
  if key.length ≠ 9 then none
  else
    match key with
    | 's' :: dir :: idx :: digits =>
        if dir ≠ 'i' ∧ dir ≠ 'o' then none
        else if h : '0' ≤ idx ∧ idx ≤ '7' then
          let (seq, ended) := strtoulHex digits
          if ended then some (⟨dir = 'i', Fin.ofNat 8 (idx.toNat - 48)⟩, seq) else none
        else none
    | _ => none

/-! ### Reading the journal -/

def JOURNAL_RECORD_LEN : Nat := 32

/-- For each stream the highest sequence number read and the record buffer. -/
abbrev JournalScan := JournalStream → Nat × NvsBlob

def JournalScan.init : JournalScan := fun _ => (0, List.replicate JOURNAL_RECORD_LEN 0)

/-- One entry of the iteration. Replay takes a record of the exact length only (`exact`), though a
shorter blob has overwritten the buffer by then; compaction takes any that was read. -/
def JournalScan.visit (exact : Bool) (scan : JournalScan) (entry : NvsEntry) : JournalScan :=
  match avbPersistParseStreamJournalKey entry.1 with
  | none => scan
  | some (stream, seq) =>
      if (scan stream).1 ≤ seq then
        match nvsGetBlob entry.2 (scan stream).2 with
        | none => scan
        | some (len, buffer) =>
            Function.update scan stream
              (if exact ∧ len ≠ JOURNAL_RECORD_LEN then (scan stream).1 else seq, buffer)
      else scan

def journalScan (exact : Bool) (entries : List NvsEntry) : JournalScan :=
  entries.foldl (JournalScan.visit exact) .init

/-- The record a stream has after the scan; sequence number 0 reads as no record. -/
def JournalScan.record (scan : JournalScan) (stream : JournalStream) : Option NvsBlob :=
  if (scan stream).1 = 0 then none else some (scan stream).2

/-- The largest sequence number of any journal key, from `seq` on. -/
def journalMaxSeq (entries : List NvsEntry) (seq : Nat) : Nat :=
  entries.foldl (fun seq entry =>
    match avbPersistParseStreamJournalKey entry.1 with
    | none => seq
    | some (_, s) => max s seq) seq

/-! ### Compaction -/

structure PersistConfig where
  listing : NvsListing
  numInputStreams : Nat
  numOutputStreams : Nat

variable (cfg : PersistConfig)

def JournalStream.all : List JournalStream :=
  (List.finRange 8).map (⟨true, ·⟩) ++ (List.finRange 8).map (⟨false, ·⟩)

/-- `++s_persist_journal_seq` of a 32-bit counter. -/
def nextJournalSeq (seq : Nat) : Nat := (seq + 1) % 2 ^ 32

/-- The 24 bits of the counter that go into a key. -/
def journalSeqBits (seq : Nat) : Nat := seq % 2 ^ 24

def isJournalEntry (entry : NvsEntry) : Bool :=
  (avbPersistParseStreamJournalKey entry.1).isSome

/-- Pass 2: erases the first journal key of the listing until none is left or an erase fails. -/
def eraseStreamJournal : Nat → Nvs → Nvs
  | 0, nvs => nvs
  | fuel + 1, nvs =>
      match (cfg.listing.order nvs.blobs).find? isJournalEntry with
      | none => nvs
      | some victim =>
          match nvsEraseKey nvs victim.1 with
          | (.ok, nvs) => eraseStreamJournal fuel nvs
          | (_, nvs) => nvs

/-- Pass 3, one stream: its record goes back under a fresh sequence number; a write that fails is
passed over. -/
def rewriteRecord (scan : JournalScan) (st : Nat × Nvs) (stream : JournalStream) : Nat × Nvs :=
  match scan.record stream with
  | none => st
  | some record =>
      let seq := nextJournalSeq st.1
      (seq, (nvsSetBlob st.2 (streamJournalKey stream (journalSeqBits seq)) record).2)

/-- The three passes. Each turn of the erase loop takes one entry away, so their number is fuel
enough. -/
def compactionPasses (nvs : Nvs) : Nat × Nvs :=
  let scan := journalScan false (cfg.listing.order nvs.blobs)
  let erased := eraseStreamJournal cfg nvs.blobs.entries.length nvs
  JournalStream.all.foldl (rewriteRecord scan) (0, erased)

/-- Also returns the counter, which the third pass starts over. -/
def avbPersistCompactStreamJournal (seq : Nat) (nvs : Nvs) : EspErr × Nat × Nvs :=
  let handle := nvsOpen nvs
  if handle.1 ≠ .ok then (handle.1, seq, handle.2) else (.ok, compactionPasses cfg handle.2)

/-! ### The journal in a running device -/

/-- `s_persist_journal_seq`, the namespace, and the records the last replay put over the snapshot. -/
structure JournalState where
  seq : Nat
  nvs : Nvs
  restored : JournalStream → Option NvsBlob

/-- One attempt: `++s_persist_journal_seq` and the record under its key. -/
def appendUnderNextSeq (st : JournalState) (stream : JournalStream) (record : NvsBlob) :
    EspErr × JournalState :=
  let seq := nextJournalSeq st.seq
  let (err, nvs) := nvsSetBlob st.nvs (streamJournalKey stream (journalSeqBits seq)) record
  (err, { st with seq, nvs })

def JournalState.opened (st : JournalState) : JournalState := { st with nvs := (nvsOpen st.nvs).2 }

def JournalState.compacted (st : JournalState) : JournalState :=
  let (seq, nvs) := (avbPersistCompactStreamJournal cfg st.seq st.nvs).2
  { st with seq, nvs }

/-- A full namespace is compacted to one live record per stream, and the append tried once more. -/
def avbPersistAppendStreamRecord (st : JournalState) (input : Bool) (index : Nat)
    (record : NvsBlob) : EspErr × JournalState :=
  if h : index < 8 ∧ record.length = JOURNAL_RECORD_LEN then
    let stream : JournalStream := ⟨input, ⟨index, h.1⟩⟩
    if (nvsOpen st.nvs).1 ≠ .ok then ((nvsOpen st.nvs).1, st.opened)
    else
      let first := appendUnderNextSeq st.opened stream record
      if first.1 ≠ .nvsNotEnoughSpace then first
      else if (avbPersistCompactStreamJournal cfg first.2.seq first.2.nvs).1 ≠ .ok then
        (first.1, first.2.compacted cfg)
      else if (nvsOpen (first.2.compacted cfg).nvs).1 ≠ .ok then
        (first.1, (first.2.compacted cfg).opened)
      else appendUnderNextSeq (first.2.compacted cfg).opened stream record
  else (.invalidArg, st)

/-- The streams the entity has. -/
def PersistConfig.hasStream (stream : JournalStream) : Bool :=
  stream.index < if stream.input then cfg.numInputStreams else cfg.numOutputStreams

def avbPersistReplayStreamJournal (st : JournalState) : JournalState :=
  let entries := cfg.listing.order st.nvs.blobs
  let scan := journalScan true entries
  let restored := fun stream => if cfg.hasStream stream then scan.record stream else none
  let (_, seq, nvs) := avbPersistCompactStreamJournal cfg (journalMaxSeq entries st.seq) st.nvs
  { seq, nvs, restored }

def AVB_NVS_KEY : NvsKey := ['p', 'e', 'r', 's', 'i', 's', 't']

def AVB_NVS_INPUT_MAP_KEY : NvsKey := ['i', 'm', 'a', 'p']

def AVB_PERSIST_VERSION : UInt8 := 6

/-- `sizeof(avb_persistent_data_s)`. -/
def AVB_PERSIST_SIZE : Nat := 1396

/-- The snapshot is there, not longer than the struct and of a version this firmware reads. -/
def snapshotUsable (blobs : NvsBlobs) : Bool :=
  match blobs.lookup AVB_NVS_KEY with
  | none => false
  | some snapshot =>
      snapshot.length ≤ AVB_PERSIST_SIZE ∧ 2 ≤ snapshot.headD 0 ∧
        snapshot.headD 0 ≤ AVB_PERSIST_VERSION

/-- `avb_persist_save`, with the gathered struct after its version. -/
def avbPersistSave (nvs : Nvs) (gathered : NvsBlob) : EspErr × Nvs :=
  match nvsOpen nvs with
  | (.ok, nvs) => nvsSetBlob nvs AVB_NVS_KEY (AVB_PERSIST_VERSION :: gathered)
  | refused => refused

def avbPersistWriteInputMap (nvs : Nvs) (map : NvsBlob) : EspErr × Nvs :=
  match nvsOpen nvs with
  | (.ok, nvs) => nvsSetBlob nvs AVB_NVS_INPUT_MAP_KEY map
  | refused => refused

/-- The journal's part of `avb_persist_load` at boot. Without a usable snapshot nothing is replayed,
and the counter stays 0. -/
def avbPersistLoad (nvs : Nvs) (gathered : NvsBlob) : JournalState :=
  let st : JournalState := { seq := 0, nvs, restored := fun _ => none }
  if snapshotUsable nvs.blobs then avbPersistReplayStreamJournal cfg st
  else { st with nvs := (avbPersistSave nvs gathered).2 }

/-- What happens to the journal. `results` are the results of the event's calls. -/
inductive JournalEvent where
  | append (input : Bool) (index : Nat) (record : NvsBlob) (results : List EspErr)
  | compact (results : List EspErr)
  | boot (gathered : NvsBlob) (results : List EspErr)
  | saveSnapshot (gathered : NvsBlob) (results : List EspErr)
  | saveInputMap (map : NvsBlob) (results : List EspErr)
  /-- Another firmware version ran: its snapshot, or none. -/
  | foreignSnapshot (snapshot : Option NvsBlob)

def JournalState.script (st : JournalState) (results : List EspErr) : JournalState :=
  { st with nvs := { st.nvs with results } }

/-- The code an event's function returns, and the state after it. -/
def journalEvent (st : JournalState) : JournalEvent → EspErr × JournalState
  | .append input index record results =>
      avbPersistAppendStreamRecord cfg (st.script results) input index record
  | .compact results =>
      let st := st.script results
      ((avbPersistCompactStreamJournal cfg st.seq st.nvs).1, st.compacted cfg)
  | .boot gathered results => (.ok, avbPersistLoad cfg (st.script results).nvs gathered)
  | .saveSnapshot gathered results =>
      (.ok, { st with nvs := (avbPersistSave (st.script results).nvs gathered).2 })
  | .saveInputMap map results =>
      (.ok, { st with nvs := (avbPersistWriteInputMap (st.script results).nvs map).2 })
  | .foreignSnapshot (some snapshot) =>
      (.ok, { st with nvs := { st.nvs with blobs := st.nvs.blobs.insert AVB_NVS_KEY snapshot } })
  | .foreignSnapshot none =>
      (.ok, { st with nvs := { st.nvs with blobs := st.nvs.blobs.erase AVB_NVS_KEY } })

end EspAvb
