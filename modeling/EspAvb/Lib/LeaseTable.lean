import Mathlib.Tactic

/-!
# Tables of leases

A table with a fixed number of rows keeps, for each key, the value its owner announced and the time at
which the announcement runs out. An announcement of a key without a row takes the row that runs out
first; a withdrawal frees the row of its key. A table answers a key as its last notice says, or not at
all; and as long as the keys announced at any time fit the rows, it answers every key so.
-/

namespace LeaseTable

/-- A row runs out at `expires`, which is zero for a free one. -/
structure Lease (κ ν : Type*) where
  key : κ
  value : ν
  expires : Nat

/-- What the owner of a key says: a value and when it runs out, or that it is gone. -/
structure Notice (κ ν : Type*) where
  key : κ
  lease : Option (ν × Nat)

variable {κ ν : Type*} [DecidableEq κ] {n : Nat}

/-- The row of a key. -/
def row? (rows : Fin n → Lease κ ν) (key : κ) : Option (Fin n) :=
  (List.finRange n).find? fun i => (rows i).expires ≠ 0 ∧ (rows i).key = key

/-- The first of the rows that run out first. -/
def soonest [NeZero n] (rows : Fin n → Lease κ ν) : Fin n :=
  (List.finRange n).foldl
    (fun oldest i => if (rows i).expires < (rows oldest).expires then i else oldest) 0

def note [NeZero n] (rows : Fin n → Lease κ ν) (notice : Notice κ ν) : Fin n → Lease κ ν :=
  match notice.lease with
  | some (value, expires) =>
      Function.update rows ((row? rows notice.key).getD (soonest rows))
        ⟨notice.key, value, expires⟩
  | none =>
      match row? rows notice.key with
      | some i => Function.update rows i { rows i with expires := 0 }
      | none => rows

def read? (rows : Fin n → Lease κ ν) (now : Nat) (key : κ) : Option ν :=
  ((List.finRange n).find? fun i => now < (rows i).expires ∧ (rows i).key = key).map
    fun i => (rows i).value

/-! ## What the notices say -/

/-- What the last notice of each key says. -/
def said (notices : List (Notice κ ν)) : κ → Option (ν × Nat) :=
  notices.foldl (fun word notice => Function.update word notice.key notice.lease) fun _ => none

/-- The value a key stands for at a time. -/
def standing (notices : List (Notice κ ν)) (now : Nat) (key : κ) : Option ν :=
  ((said notices key).filter fun lease => now < lease.2).map Prod.fst

def standingKeys (notices : List (Notice κ ν)) (now : Nat) : Finset κ :=
  {key ∈ (notices.map Notice.key).toFinset | (standing notices now key).isSome}

theorem said_append (notices : List (Notice κ ν)) (notice : Notice κ ν) :
    said (notices ++ [notice]) = Function.update (said notices) notice.key notice.lease := by
  rw [said, List.foldl_append]
  rfl

theorem said_none_of_unheard {notices : List (Notice κ ν)} {key : κ}
    (h : key ∉ notices.map Notice.key) : said notices key = none := by
  induction notices using List.reverseRecOn with
  | nil => rfl
  | append_singleton notices notice ih =>
      rw [List.map_append, List.map_singleton, List.mem_append, List.mem_singleton, not_or] at h
      rw [said_append, Function.update_of_ne h.2]
      exact ih h.1

theorem standing_eq_some {notices : List (Notice κ ν)} {now : Nat} {key : κ} {value : ν} :
    standing notices now key = some value ↔
      ∃ expires, said notices key = some (value, expires) ∧ now < expires := by
  rw [standing]
  constructor
  · intro h
    obtain ⟨⟨value', expires⟩, hfilter, rfl⟩ := Option.map_eq_some_iff.mp h
    obtain ⟨hsaid, hlive⟩ := Option.filter_eq_some_iff.mp hfilter
    exact ⟨expires, hsaid, of_decide_eq_true hlive⟩
  · rintro ⟨expires, hsaid, hlive⟩
    rw [hsaid, Option.filter_some, if_pos (decide_eq_true hlive), Option.map_some]

theorem mem_standingKeys {notices : List (Notice κ ν)} {now : Nat} {key : κ} :
    key ∈ standingKeys notices now ↔
      ∃ value expires, said notices key = some (value, expires) ∧ now < expires := by
  rw [standingKeys, Finset.mem_filter, List.mem_toFinset, Option.isSome_iff_exists]
  constructor
  · rintro ⟨-, value, hvalue⟩
    exact ⟨value, standing_eq_some.mp hvalue⟩
  · rintro ⟨value, expires, hsaid, hlive⟩
    refine ⟨?_, value, standing_eq_some.mpr ⟨expires, hsaid, hlive⟩⟩
    by_contra hunheard
    rw [said_none_of_unheard hunheard] at hsaid
    cases hsaid

/-! ## The rows -/

theorem row?_some {rows : Fin n → Lease κ ν} {key : κ} {i : Fin n} (h : row? rows key = some i) :
    (rows i).expires ≠ 0 ∧ (rows i).key = key := by
  have hfound := List.find?_some h
  exact of_decide_eq_true hfound

theorem row?_none {rows : Fin n → Lease κ ν} {key : κ} (h : row? rows key = none) (i : Fin n)
    (hused : (rows i).expires ≠ 0) : (rows i).key ≠ key := by
  intro hkey
  have hnot := List.find?_eq_none.mp h i (List.mem_finRange i)
  exact hnot (decide_eq_true ⟨hused, hkey⟩)

omit [DecidableEq κ] in
theorem foldl_soonest_le (rows : Fin n → Lease κ ν) (is : List (Fin n)) (start : Fin n) :
    let last := is.foldl
      (fun oldest i => if (rows i).expires < (rows oldest).expires then i else oldest) start
    (rows last).expires ≤ (rows start).expires ∧
      ∀ i ∈ is, (rows last).expires ≤ (rows i).expires := by
  induction is generalizing start with
  | nil => exact ⟨le_rfl, fun _ h => nomatch h⟩
  | cons i is ih =>
      rw [List.foldl_cons]
      obtain ⟨hstart, hrest⟩ := ih (if (rows i).expires < (rows start).expires then i else start)
      split at hstart <;> split at hrest <;> first | contradiction | skip
      · rename_i hlt _
        simp only [if_pos hlt]
        refine ⟨by omega, ?_⟩
        rintro j (_ | ⟨_, hj⟩)
        · exact hstart
        · exact hrest j hj
      · rename_i hge _
        simp only [if_neg hge]
        refine ⟨hstart, ?_⟩
        rintro j (_ | ⟨_, hj⟩)
        · omega
        · exact hrest j hj

omit [DecidableEq κ] in
theorem soonest_le [NeZero n] (rows : Fin n → Lease κ ν) (i : Fin n) :
    (rows (soonest rows)).expires ≤ (rows i).expires :=
  (foldl_soonest_le rows (List.finRange n) 0).2 i (List.mem_finRange i)

/-- Every row in use says what the last notice of its key says, and no key has two. -/
structure Faithful (rows : Fin n → Lease κ ν) (notices : List (Notice κ ν)) : Prop where
  told : ∀ i, (rows i).expires ≠ 0 →
    said notices (rows i).key = some ((rows i).value, (rows i).expires)
  unique : ∀ i j, (rows i).expires ≠ 0 → (rows j).expires ≠ 0 → (rows i).key = (rows j).key → i = j

namespace Faithful

variable {rows : Fin n → Lease κ ν} {notices : List (Notice κ ν)}

theorem free (h : ∀ i, (rows i).expires = 0) : Faithful rows [] where
  told i hused := absurd (h i) hused
  unique i _ hused := absurd (h i) hused

/-- A row rewritten for a key that no other row has. -/
theorem rewrite (h : Faithful rows notices) {key : κ} {lease : Option (ν × Nat)} {i : Fin n}
    {row : Lease κ ν} (hrow : row.expires ≠ 0 → row.key = key ∧ lease = some (row.value, row.expires))
    (hothers : ∀ j ≠ i, (rows j).expires ≠ 0 → (rows j).key ≠ key) :
    Faithful (Function.update rows i row) (notices ++ [⟨key, lease⟩]) := by
  constructor
  · intro j hused
    rw [said_append]
    by_cases hj : j = i
    · subst hj
      rw [Function.update_self] at hused ⊢
      obtain ⟨hkey, hlease⟩ := hrow hused
      rw [hkey, Function.update_self, hlease]
    · rw [Function.update_of_ne hj] at hused ⊢
      rw [Function.update_of_ne (hothers j hj hused)]
      exact h.told j hused
  · intro j k hj hk hkeys
    by_cases hji : j = i <;> by_cases hki : k = i
    · exact hji.trans hki.symm
    · subst hji
      rw [Function.update_self] at hj hkeys
      rw [Function.update_of_ne hki] at hk hkeys
      exact absurd (hkeys.symm.trans (hrow hj).1) (hothers k hki hk)
    · subst hki
      rw [Function.update_self] at hk hkeys
      rw [Function.update_of_ne hji] at hj hkeys
      exact absurd (hkeys.trans (hrow hk).1) (hothers j hji hj)
    · rw [Function.update_of_ne hji] at hj hkeys
      rw [Function.update_of_ne hki] at hk hkeys
      exact h.unique j k hj hk hkeys

theorem note [NeZero n] (h : Faithful rows notices) (notice : Notice κ ν) :
    Faithful (LeaseTable.note rows notice) (notices ++ [notice]) := by
  obtain ⟨key, lease⟩ := notice
  have hothers : ∀ i, row? rows key = some i → ∀ j ≠ i, (rows j).expires ≠ 0 → (rows j).key ≠ key := by
    intro i hrow j hj hused hkey
    obtain ⟨hi, hikey⟩ := row?_some hrow
    exact hj (h.unique j i hused hi (hkey.trans hikey.symm))
  cases lease with
  | some lease =>
      refine h.rewrite (fun _ => ⟨rfl, rfl⟩) ?_
      cases hrow : row? rows key with
      | some i => exact hothers i hrow
      | none => exact fun j _ => row?_none hrow j
  | none =>
      rw [LeaseTable.note]
      cases hrow : row? rows key with
      | some i => exact h.rewrite (fun hused => absurd rfl hused) (hothers i hrow)
      | none =>
          refine ⟨fun i hused => ?_, h.unique⟩
          rw [said_append, Function.update_of_ne (row?_none hrow i hused)]
          exact h.told i hused

/-- An answer is the one that stands. -/
theorem read?_sound (h : Faithful rows notices) {now : Nat} {key : κ} {value : ν}
    (hread : read? rows now key = some value) : standing notices now key = some value := by
  obtain ⟨i, hfind, rfl⟩ := Option.map_eq_some_iff.mp hread
  have hfound := List.find?_some hfind
  obtain ⟨hlive, hkey⟩ := of_decide_eq_true hfound
  have htold := h.told i (by omega)
  rw [hkey] at htold
  exact standing_eq_some.mpr ⟨_, htold, hlive⟩

/-- A table without a row for a key has, where the keys fit, a row that has run out. -/
theorem soonest_runOut [NeZero n] (h : Faithful rows notices) {now : Nat} {key : κ} (hrow : row? rows key = none)
    (hroom : (insert key (standingKeys notices now)).card ≤ n) :
    (rows (soonest rows)).expires ≤ now := by
  by_contra hlive
  rw [not_le] at hlive
  have hall : ∀ i, now < (rows i).expires := fun i => hlive.trans_le (soonest_le rows i)
  have hused : ∀ i, (rows i).expires ≠ 0 := fun i => by have := hall i; omega
  have hsub : insert key (Finset.univ.image fun i => (rows i).key) ⊆
      insert key (standingKeys notices now) := by
    refine Finset.insert_subset_insert key fun k hk => ?_
    obtain ⟨i, -, rfl⟩ := Finset.mem_image.mp hk
    exact mem_standingKeys.mpr ⟨_, _, h.told i (hused i), hall i⟩
  have hnot : key ∉ Finset.univ.image fun i => (rows i).key := by
    intro hk
    obtain ⟨i, -, hi⟩ := Finset.mem_image.mp hk
    exact row?_none hrow i (hused i) hi
  have hcard : (Finset.univ.image fun i => (rows i).key).card = n := by
    rw [Finset.card_image_of_injective _ fun i j hij => h.unique i j (hused i) (hused j) hij,
      Finset.card_univ, Fintype.card_fin]
  have hle := Finset.card_le_card hsub
  rw [Finset.card_insert_of_notMem hnot, hcard] at hle
  omega

end Faithful

/-- Every key that stands at a time has its row. -/
def Covers (rows : Fin n → Lease κ ν) (notices : List (Notice κ ν)) (now : Nat) : Prop :=
  ∀ key ∈ standingKeys notices now, ∃ i, (rows i).expires ≠ 0 ∧ (rows i).key = key

namespace Covers

variable {rows : Fin n → Lease κ ν} {notices : List (Notice κ ν)} {now : Nat}

theorem mono (h : Covers rows notices now) {later : Nat} (hlater : now ≤ later) :
    Covers rows notices later := by
  intro key hkey
  obtain ⟨value, expires, hsaid, hlive⟩ := mem_standingKeys.mp hkey
  exact h key (mem_standingKeys.mpr ⟨value, expires, hsaid, hlater.trans_lt hlive⟩)

/-- A row rewritten for a key, whose old key stands no more or is the same. -/
theorem rewrite (h : Covers rows notices now) {key : κ} {lease : Option (ν × Nat)} {i : Fin n}
    {row : Lease κ ν} (hrow : ∀ value expires, lease = some (value, expires) → now < expires →
      row.expires ≠ 0 ∧ row.key = key)
    (hold : (rows i).key ∈ standingKeys notices now → (rows i).expires ≠ 0 → (rows i).key = key) :
    Covers (Function.update rows i row) (notices ++ [⟨key, lease⟩]) now := by
  intro k hk
  obtain ⟨value, expires, hsaid, hlive⟩ := mem_standingKeys.mp hk
  rw [said_append] at hsaid
  by_cases hkey : k = key
  · subst hkey
    rw [Function.update_self] at hsaid
    refine ⟨i, ?_⟩
    rw [Function.update_self]
    exact hrow value expires hsaid hlive
  · rw [Function.update_of_ne hkey] at hsaid
    have hstood := mem_standingKeys.mpr ⟨value, expires, hsaid, hlive⟩
    obtain ⟨j, hused, rfl⟩ := h k hstood
    have hj : j ≠ i := by
      rintro rfl
      exact hkey (hold hstood hused)
    exact ⟨j, by rwa [Function.update_of_ne hj], by rw [Function.update_of_ne hj]⟩

theorem note [NeZero n] (h : Covers rows notices now) (hfaithful : Faithful rows notices) (notice : Notice κ ν)
    (hroom : notice.lease ≠ none → (insert notice.key (standingKeys notices now)).card ≤ n) :
    Covers (LeaseTable.note rows notice) (notices ++ [notice]) now := by
  obtain ⟨key, lease⟩ := notice
  cases lease with
  | some lease =>
      refine h.rewrite (fun value expires heq hlive => ?_) ?_
      · cases heq
        exact ⟨Nat.ne_of_gt (Nat.zero_lt_of_lt hlive), rfl⟩
      · cases hrow : row? rows key with
        | some i => exact fun _ _ => (row?_some hrow).2
        | none =>
            have hout := hfaithful.soonest_runOut hrow (hroom (Option.some_ne_none lease))
            intro hstands hused
            obtain ⟨value, expires, hsaid, hlive⟩ := mem_standingKeys.mp hstands
            rw [Option.getD_none] at hsaid hused
            rw [hfaithful.told _ hused] at hsaid
            cases hsaid
            omega
  | none =>
      rw [LeaseTable.note]
      cases hrow : row? rows key with
      | some i => exact h.rewrite (fun _ _ heq => nomatch heq) fun _ _ => (row?_some hrow).2
      | none =>
          intro k hk
          obtain ⟨value, expires, hsaid, hlive⟩ := mem_standingKeys.mp hk
          rw [said_append] at hsaid
          have hkey : k ≠ key := by
            rintro rfl
            rw [Function.update_self] at hsaid
            cases hsaid
          rw [Function.update_of_ne hkey] at hsaid
          exact h k (mem_standingKeys.mpr ⟨value, expires, hsaid, hlive⟩)

/-- A table that covers what stands answers every key with it. -/
theorem read?_eq (h : Covers rows notices now) (hfaithful : Faithful rows notices) (key : κ) :
    read? rows now key = standing notices now key := by
  cases hstands : standing notices now key with
  | none =>
      cases hread : read? rows now key with
      | none => rfl
      | some value =>
          rw [hfaithful.read?_sound hread] at hstands
          cases hstands
  | some value =>
      obtain ⟨expires, hsaid, hlive⟩ := standing_eq_some.mp hstands
      obtain ⟨i, hused, rfl⟩ := h key (mem_standingKeys.mpr ⟨value, expires, hsaid, hlive⟩)
      rw [hfaithful.told i hused] at hsaid
      have hfound : (read? rows now (rows i).key).isSome := by
        rw [read?, Option.isSome_map, List.find?_isSome]
        refine ⟨i, List.mem_finRange i, decide_eq_true ⟨?_, rfl⟩⟩
        cases hsaid
        exact hlive
      obtain ⟨value', hread⟩ := Option.isSome_iff_exists.mp hfound
      have hvalue := hfaithful.read?_sound hread
      rw [hstands] at hvalue
      rw [hread, hvalue]

end Covers

end LeaseTable
