import EspAvb.Journal
import Mathlib.Data.List.TakeWhile

/-!
# What the journal holds

A journal key reads back as the stream and the sequence number it was made of. In a namespace whose
journal keys all were made so, over records of the right length, reading the journal gives each
stream its record of the highest sequence number, in whatever order the store lists its blobs.
-/

namespace EspAvb

/-! ### Keys -/

def IsHexDigit (c : Char) : Prop := ∃ d < 16, c = Nat.digitChar d

theorem isHexDigit_spec {c : Char} (h : IsHexDigit c) :
    isSpace c = false ∧ c ≠ '-' ∧ c ≠ '+' ∧ c ≠ 'x' ∧ c ≠ 'X' ∧ (hexDigitValue c).isSome := by
  obtain ⟨d, hd, rfl⟩ := h
  interval_cases d <;> decide

theorem hexDigitValue_digitChar {d : Nat} (hd : d < 16) :
    hexDigitValue (Nat.digitChar d) = some d := by
  interval_cases d <;> decide

@[simp]
theorem length_hexDigits (width n : Nat) : (hexDigits width n).length = width := by
  induction width generalizing n with
  | zero => rfl
  | succ width ih => simp [hexDigits, ih]

theorem isHexDigit_of_mem {width n : Nat} {c : Char} (h : c ∈ hexDigits width n) :
    IsHexDigit c := by
  induction width generalizing n with
  | zero => cases h
  | succ width ih =>
      rcases List.mem_append.mp h with h | h
      · exact ih h
      · rw [List.mem_singleton.mp h]
        exact ⟨n % 16, Nat.mod_lt n (by norm_num), rfl⟩

/-- The number the digits spell, as `strtoul` adds it up. -/
theorem foldl_hexDigits (width n v : Nat) :
    (hexDigits width n).foldl (fun v c => 16 * v + (hexDigitValue c).getD 0) v
      = v * 16 ^ width + n % 16 ^ width := by
  induction width generalizing n v with
  | zero => simp [hexDigits, Nat.mod_one]
  | succ width ih =>
      have hdigit := hexDigitValue_digitChar (Nat.mod_lt n (by norm_num : 0 < 16))
      have hsplit : n % 16 ^ (width + 1) = n % 16 + 16 * (n / 16 % 16 ^ width) := by
        rw [pow_succ, mul_comm (16 ^ width) 16, Nat.mod_mul]
      rw [hexDigits, List.foldl_append, ih, List.foldl_cons, List.foldl_nil, hdigit, hsplit, pow_succ]
      simp only [Option.getD_some]
      ring

/-- Digits alone, not starting with `0x`, are read whole. -/
theorem strtoulHex_digits {s : List Char} (hne : s ≠ []) (hs : ∀ c ∈ s, IsHexDigit c)
    (hlt : s.foldl (fun v c => 16 * v + (hexDigitValue c).getD 0) 0 < 2 ^ 32) :
    strtoulHex s = (s.foldl (fun v c => 16 * v + (hexDigitValue c).getD 0) 0, true) := by
  have hdigit : ∀ c ∈ s, (hexDigitValue c).isSome = true := fun c hc =>
    (isHexDigit_spec (hs c hc)).2.2.2.2.2
  have htake : s.takeWhile (fun c => (hexDigitValue c).isSome) = s :=
    List.takeWhile_eq_self_iff.mpr hdigit
  have hdrop : s.dropWhile (fun c => (hexDigitValue c).isSome) = [] :=
    List.dropWhile_eq_nil_iff.mpr hdigit
  have hspace : s.dropWhile isSpace = s := by
    cases s with
    | nil => rfl
    | cons c s =>
        have hc := (isHexDigit_spec (hs c List.mem_cons_self)).1
        simp [hc]
  have hplain : strtoulHexDigits s = s := by
    match s, hs with
    | [], _ => rfl
    | [_], _ => unfold strtoulHexDigits; split <;> simp_all
    | [_, _], _ => unfold strtoulHexDigits; split <;> simp_all
    | a :: x :: c :: rest, hs =>
        obtain ⟨-, -, -, hx, hX, -⟩ := isHexDigit_spec (hs x (by simp))
        unfold strtoulHexDigits
        split
        · rename_i heq
          obtain ⟨rfl, rfl, rfl, rfl⟩ : a = '0' ∧ x = _ ∧ c = _ ∧ rest = _ := by simpa using heq
          simp [hx, hX]
        · rfl
  have hsign : strtoulSign s = (false, s) := by
    cases s with
    | nil => rfl
    | cons c s =>
        obtain ⟨-, hminus, hplus, -⟩ := isHexDigit_spec (hs c List.mem_cons_self)
        unfold strtoulSign
        split <;> simp_all
  unfold strtoulHex
  simp only [hspace, hsign, hplain, htake, hdrop]
  rw [if_neg hne, if_neg (not_le.mpr hlt)]
  simp

theorem digitChar_index (i : Fin 8) : ('0' ≤ Nat.digitChar i ∧ Nat.digitChar i ≤ '7') ∧
    Fin.ofNat 8 ((Nat.digitChar i).toNat - 48) = i := by
  revert i
  decide

/-- The round trip of a key: 24 bits of the sequence number come back. -/
theorem parse_streamJournalKey (stream : JournalStream) (seq : Nat) :
    avbPersistParseStreamJournalKey (streamJournalKey stream seq) = some (stream, seq % 2 ^ 24) := by
  have hvalue : (hexDigits 6 seq).foldl (fun v c => 16 * v + (hexDigitValue c).getD 0) 0
      = seq % 2 ^ 24 := by
    rw [foldl_hexDigits]
    norm_num
  have hlt : seq % 2 ^ 24 < 2 ^ 32 := (Nat.mod_lt seq (by norm_num)).trans (by norm_num)
  have hread : strtoulHex (hexDigits 6 seq) = (seq % 2 ^ 24, true) := by
    rw [strtoulHex_digits (by simp [← List.length_eq_zero_iff]) (fun c => isHexDigit_of_mem)
      (by rwa [hvalue]), hvalue]
  obtain ⟨hidx, hback⟩ := digitChar_index stream.index
  unfold avbPersistParseStreamJournalKey streamJournalKey
  obtain ⟨input, index⟩ := stream
  cases input <;> simp_all

theorem streamJournalKey_inj {x y : JournalStream} {s t : Nat} (hs : s < 2 ^ 24) (ht : t < 2 ^ 24)
    (h : streamJournalKey x s = streamJournalKey y t) : x = y ∧ s = t := by
  have hparse := congrArg avbPersistParseStreamJournalKey h
  rw [parse_streamJournalKey, parse_streamJournalKey, Nat.mod_eq_of_lt hs, Nat.mod_eq_of_lt ht]
    at hparse
  simpa using hparse

/-! ### Well-formed namespaces -/

/-- Every key that reads as a journal key was made by `streamJournalKey`, over a record of the
journal's length. -/
def JournalWellFormed (blobs : NvsBlobs) : Prop :=
  ∀ key value, blobs.lookup key = some value →
    ∀ stream seq, avbPersistParseStreamJournalKey key = some (stream, seq) →
      key = streamJournalKey stream seq ∧ value.length = JOURNAL_RECORD_LEN

/-- The journal holds this record of the stream. -/
def Recorded (blobs : NvsBlobs) (stream : JournalStream) (seq : Nat) (record : NvsBlob) : Prop :=
  seq < 2 ^ 24 ∧ blobs.lookup (streamJournalKey stream seq) = some record

/-- The stream's record, as the journal ought to be read. -/
def IsNewest (blobs : NvsBlobs) (stream : JournalStream) : Option NvsBlob → Prop
  | none => ∀ seq record, Recorded blobs stream seq record → seq = 0
  | some record => ∃ seq, seq ≠ 0 ∧ Recorded blobs stream seq record ∧
      ∀ seq' record', Recorded blobs stream seq' record' → seq' ≤ seq

section Blobs

variable {blobs : NvsBlobs} {x y : JournalStream} {s t : Nat} {b c : NvsBlob}

theorem Recorded.unique (h : Recorded blobs x s b) (h' : Recorded blobs x s c) : b = c :=
  Option.some.inj (h.2.symm.trans h'.2)

theorem Recorded.length (hwf : JournalWellFormed blobs) (h : Recorded blobs x s b) :
    b.length = JOURNAL_RECORD_LEN := by
  refine (hwf _ _ h.2 x s ?_).2
  rw [parse_streamJournalKey, Nat.mod_eq_of_lt h.1]

theorem IsNewest.unique {r r' : Option NvsBlob} (h : IsNewest blobs x r) (h' : IsNewest blobs x r') :
    r = r' := by
  match r, r', h, h' with
  | none, none, _, _ => rfl
  | none, some b, h, ⟨s, hs, hrec, _⟩ => exact absurd (h s b hrec) hs
  | some b, none, ⟨s, hs, hrec, _⟩, h' => exact absurd (h' s b hrec) hs
  | some b, some c, ⟨s, _, hb, hmax⟩, ⟨t, _, hc, hmax'⟩ =>
      obtain rfl : s = t := le_antisymm (hmax' s b hb) (hmax t c hc)
      rw [hb.unique hc]

theorem IsNewest.congr {blobs' : NvsBlobs}
    (h : ∀ s b, Recorded blobs' x s b ↔ Recorded blobs x s b) {r : Option NvsBlob} :
    IsNewest blobs' x r ↔ IsNewest blobs x r := by
  cases r <;> simp only [IsNewest, h]

/-! ### Reading -/

/-- The journal records among the entries of a listing. -/
def journalRecords (entries : List NvsEntry) : List (RankedLog.Record JournalStream NvsBlob) :=
  entries.filterMap fun entry =>
    (avbPersistParseStreamJournalKey entry.1).map fun (stream, seq) => (stream, seq, entry.2)

theorem mem_order_iff (order : NvsListing) {key : NvsKey} :
    ⟨key, b⟩ ∈ order.order blobs ↔ blobs.lookup key = some b := by
  rw [(order.perm blobs).mem_iff]
  exact AList.mem_lookup_iff.symm

theorem mem_journalRecords_iff (hwf : JournalWellFormed blobs) (order : NvsListing) :
    (x, s, b) ∈ journalRecords (order.order blobs) ↔ Recorded blobs x s b := by
  unfold journalRecords
  rw [List.mem_filterMap]
  constructor
  · rintro ⟨⟨key, value⟩, hmem, heq⟩
    have hlookup := (mem_order_iff order).mp hmem
    cases hparse : avbPersistParseStreamJournalKey key with
    | none => simp [hparse] at heq
    | some parsed =>
        obtain ⟨stream, seq⟩ := parsed
        obtain ⟨rfl, rfl, rfl⟩ : stream = x ∧ seq = s ∧ value = b := by simpa [hparse] using heq
        obtain ⟨rfl, -⟩ := hwf key value hlookup stream seq hparse
        refine ⟨?_, hlookup⟩
        rw [parse_streamJournalKey] at hparse
        have hmod : seq % 2 ^ 24 = seq := by simpa using hparse
        rw [← hmod]
        exact Nat.mod_lt seq (by norm_num)
  · rintro ⟨hs, hlookup⟩
    refine ⟨⟨streamJournalKey x s, b⟩, (mem_order_iff order).mpr hlookup, ?_⟩
    have hmod : s % 2 ^ 24 = s := Nat.mod_eq_of_lt hs
    simp only [parse_streamJournalKey, hmod, Option.map_some]

/-- Over entries of the right length both readers of the journal keep the highest sequence
number. -/
theorem foldl_visit_eq_newest (exact : Bool) {entries : List NvsEntry} {scan : JournalScan}
    (hentries : ∀ entry ∈ entries, (avbPersistParseStreamJournalKey entry.1).isSome →
      entry.2.length = JOURNAL_RECORD_LEN)
    (hscan : ∀ stream, (scan stream).2.length = JOURNAL_RECORD_LEN) :
    entries.foldl (JournalScan.visit exact) scan = RankedLog.newest scan (journalRecords entries) := by
  induction entries generalizing scan with
  | nil => rfl
  | cons entry entries ih =>
      obtain ⟨key, value⟩ := entry
      have hrest := fun e he => hentries e (List.mem_cons_of_mem _ he)
      rw [List.foldl_cons]
      cases hparse : avbPersistParseStreamJournalKey key with
      | none =>
          have hvisit : scan.visit exact ⟨key, value⟩ = scan := by simp [JournalScan.visit, hparse]
          rw [hvisit, ih hrest hscan]
          simp [journalRecords, hparse]
      | some parsed =>
          obtain ⟨stream, seq⟩ := parsed
          have hlen : value.length = JOURNAL_RECORD_LEN :=
            hentries ⟨key, value⟩ List.mem_cons_self (by simp [hparse])
          have hvisit : scan.visit exact ⟨key, value⟩ = RankedLog.keep scan (stream, seq, value) := by
            have hdrop : (scan stream).2.drop JOURNAL_RECORD_LEN = [] :=
              List.drop_eq_nil_of_le (hscan stream).le
            simp only [JournalScan.visit, hparse, RankedLog.keep, nvsGetBlob, hlen, hscan stream, hdrop]
            simp
          have hkept : ∀ x, (RankedLog.keep scan (stream, seq, value) x).2.length
              = JOURNAL_RECORD_LEN := by
            intro x
            rcases RankedLog.keep_eq_or scan (stream, seq, value) x with h | h
            · rw [h, hscan]
            · obtain ⟨-, hvalue⟩ := Prod.mk.inj h
              rw [hvalue]
              exact hlen
          rw [hvisit, ih hrest hkept]
          simp [journalRecords, hparse, RankedLog.newest]

/-- What reading the journal gives a stream. -/
theorem isNewest_journalScan (hwf : JournalWellFormed blobs) (order : NvsListing) (exact : Bool)
    (x : JournalStream) : IsNewest blobs x ((journalScan exact (order.order blobs)).record x) := by
  have hentries : ∀ entry ∈ order.order blobs, (avbPersistParseStreamJournalKey entry.1).isSome →
      entry.2.length = JOURNAL_RECORD_LEN := by
    rintro ⟨key, value⟩ hmem hsome
    obtain ⟨⟨stream, seq⟩, hparse⟩ := Option.isSome_iff_exists.mp hsome
    exact (hwf key value ((mem_order_iff order).mp hmem) stream seq hparse).2
  have hscan : journalScan exact (order.order blobs)
      = RankedLog.newest JournalScan.init (journalRecords (order.order blobs)) :=
    foldl_visit_eq_newest exact hentries fun _ => List.length_replicate
  rw [hscan]
  unfold JournalScan.record
  split
  case isTrue hzero =>
    intro s b hrec
    have hge : s ≤ (RankedLog.newest JournalScan.init (journalRecords (order.order blobs)) x).1 :=
      RankedLog.newest_ge ((mem_journalRecords_iff hwf order).mpr hrec)
    exact Nat.le_zero.mp (hge.trans hzero.le)
  case isFalse hne =>
    refine ⟨_, hne, ?_, ?_⟩
    · rcases RankedLog.newest_eq_or_mem JournalScan.init (journalRecords (order.order blobs)) x
        with h | h
      · rw [h] at hne
        exact absurd rfl hne
      · exact (mem_journalRecords_iff hwf order).mp h
    · intro s b hrec
      exact RankedLog.newest_ge ((mem_journalRecords_iff hwf order).mpr hrec)

theorem record_eq_iff (hwf : JournalWellFormed blobs) (order : NvsListing) (exact : Bool)
    (x : JournalStream) (r : Option NvsBlob) :
    (journalScan exact (order.order blobs)).record x = r ↔ IsNewest blobs x r := by
  constructor
  · rintro rfl
    exact isNewest_journalScan hwf order exact x
  · exact (isNewest_journalScan hwf order exact x).unique

/-! ### Writing -/

theorem JournalWellFormed.insert_record (hwf : JournalWellFormed blobs)
    (hb : b.length = JOURNAL_RECORD_LEN) (hs : s < 2 ^ 24) :
    JournalWellFormed (blobs.insert (streamJournalKey x s) b) := by
  intro key value hlookup stream seq hparse
  by_cases hkey : key = streamJournalKey x s
  · subst hkey
    rw [parse_streamJournalKey, Nat.mod_eq_of_lt hs] at hparse
    rw [AList.lookup_insert] at hlookup
    obtain ⟨rfl, rfl⟩ : x = stream ∧ s = seq := by simpa using hparse
    obtain rfl : b = value := by simpa using hlookup
    exact ⟨rfl, hb⟩
  · rw [AList.lookup_insert_ne hkey] at hlookup
    exact hwf key value hlookup stream seq hparse

theorem JournalWellFormed.insert_other (hwf : JournalWellFormed blobs) {key : NvsKey}
    (hkey : avbPersistParseStreamJournalKey key = none) :
    JournalWellFormed (blobs.insert key b) := by
  intro key' value hlookup stream seq hparse
  by_cases heq : key' = key
  · subst heq
    rw [hkey] at hparse
    cases hparse
  · rw [AList.lookup_insert_ne heq] at hlookup
    exact hwf key' value hlookup stream seq hparse

theorem JournalWellFormed.erase (hwf : JournalWellFormed blobs) (key : NvsKey) :
    JournalWellFormed (blobs.erase key) := by
  intro key' value hlookup stream seq hparse
  by_cases heq : key' = key
  · subst heq
    rw [AList.lookup_erase] at hlookup
    cases hlookup
  · rw [AList.lookup_erase_ne heq] at hlookup
    exact hwf key' value hlookup stream seq hparse

theorem recorded_insert_same (hs : s < 2 ^ 24) :
    Recorded (blobs.insert (streamJournalKey x s) b) x s c ↔ c = b := by
  simp only [Recorded, AList.lookup_insert, Option.some.injEq]
  exact ⟨fun h => h.2.symm, fun h => ⟨hs, h.symm⟩⟩

theorem recorded_insert_ne (hs : s < 2 ^ 24) (hne : ¬(x = y ∧ t = s)) :
    Recorded (blobs.insert (streamJournalKey y s) b) x t c ↔ Recorded blobs x t c := by
  refine and_congr_right fun ht => ?_
  rw [AList.lookup_insert_ne]
  intro hkey
  exact hne (streamJournalKey_inj ht hs hkey)

theorem streamJournalKey_ne {key : NvsKey} (hkey : avbPersistParseStreamJournalKey key = none) :
    streamJournalKey x s ≠ key := by
  rintro rfl
  rw [parse_streamJournalKey] at hkey
  cases hkey

theorem recorded_insert_other {key : NvsKey} (hkey : avbPersistParseStreamJournalKey key = none) :
    Recorded (blobs.insert key b) x s c ↔ Recorded blobs x s c := by
  unfold Recorded
  rw [AList.lookup_insert_ne (streamJournalKey_ne hkey)]

theorem recorded_erase_other {key : NvsKey} (hkey : avbPersistParseStreamJournalKey key = none) :
    Recorded (blobs.erase key) x s c ↔ Recorded blobs x s c := by
  unfold Recorded
  rw [AList.lookup_erase_ne (streamJournalKey_ne hkey)]

theorem Recorded.of_erase {key : NvsKey} (h : Recorded (blobs.erase key) x s b) :
    Recorded blobs x s b := by
  refine ⟨h.1, ?_⟩
  by_cases hkey : streamJournalKey x s = key
  · rw [← hkey, Recorded, AList.lookup_erase] at h
    cases h.2
  · rw [← AList.lookup_erase_ne hkey]
    exact h.2

/-- A record under a sequence number that no record of its stream exceeds becomes the stream's
record; number 0 reads as none. -/
theorem isNewest_insert (hs : s < 2 ^ 24) (hne : s ≠ 0)
    (htop : ∀ t c, Recorded blobs x t c → t ≤ s) :
    IsNewest (blobs.insert (streamJournalKey x s) b) x (some b) := by
  refine ⟨s, hne, (recorded_insert_same hs).mpr rfl, ?_⟩
  intro t c hrec
  by_cases ht : t = s
  · exact ht.le
  · exact htop t c ((recorded_insert_ne hs fun h => ht h.2).mp hrec)

theorem isNewest_insert_other (hs : s < 2 ^ 24) (hne : x ≠ y) {r : Option NvsBlob} :
    IsNewest (blobs.insert (streamJournalKey y s) b) x r ↔ IsNewest blobs x r :=
  IsNewest.congr fun _ _ => recorded_insert_ne hs fun h => hne h.1

end Blobs

end EspAvb
