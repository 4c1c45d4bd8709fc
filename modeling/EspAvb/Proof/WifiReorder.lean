import EspAvb.WifiReorder

/-!
# The receive order of Wi-Fi bundles

One turn of the drain either hands the next bundle on or gives the gap up, and after a hand-on the
hold time is running again, so a drain gives up at most once and what it hands on is consecutive.
-/

namespace EspAvb

open SeqWindow

theorem swapRemove_perm {α : Type*} (l : List α) {i : Nat} (h : i < l.length) :
    (l[i] :: swapRemove l i).Perm l := by
  obtain rfl | ⟨init, last, rfl⟩ := l.eq_nil_or_concat'
  · exact absurd h (Nat.not_lt_zero i)
  · rw [swapRemove, List.getLast?_concat]
    simp only [List.length_append, List.length_singleton] at h
    have hlast : (last :: init).Perm (init ++ [last]) := (List.perm_append_singleton last init).symm
    rcases Nat.lt_succ_iff_lt_or_eq.mp h with hlt | rfl
    · simp only [List.set_append_left _ _ hlt, List.dropLast_concat, List.getElem_append_left hlt]
      calc
        (init[i] :: init.set i last).Perm (init[i] :: last :: init.eraseIdx i) :=
          (List.set_perm_cons_eraseIdx hlt last).cons init[i]
        List.Perm _ (last :: init[i] :: init.eraseIdx i) := List.Perm.swap last init[i] _
        List.Perm _ (last :: init) := (List.getElem_cons_eraseIdx_perm hlt).cons last
        List.Perm _ (init ++ [last]) := hlast
    · simp only [List.getElem_concat_length, List.set_append_right _ _ (le_refl _), Nat.sub_self,
        List.set_cons_zero, List.dropLast_concat]
      exact hlast

theorem heldIndex_some {seq : BitVec 16} {held : List WifiBundle} {i : Nat}
    (h : heldIndex seq held = some i) : ∃ b, held[i]? = some b ∧ b.seq = seq := by
  induction held generalizing i with
  | nil => simp [heldIndex] at h
  | cons b rest ih =>
      rw [heldIndex] at h
      cases hrest : heldIndex seq rest with
      | some j =>
          rw [hrest] at h
          obtain rfl : j + 1 = i := by simpa using h
          simpa using ih hrest
      | none =>
          rw [hrest] at h
          dsimp only at h
          split_ifs at h with hseq
          obtain rfl : 0 = i := by simpa using h
          exact ⟨b, rfl, hseq⟩

theorem heldIndex_none {seq : BitVec 16} {held : List WifiBundle}
    (h : heldIndex seq held = none) : ∀ b ∈ held, b.seq ≠ seq := by
  induction held with
  | nil => simp
  | cons b rest ih =>
      rw [heldIndex] at h
      cases hrest : heldIndex seq rest with
      | some j => simp [hrest] at h
      | none =>
          rw [hrest] at h
          dsimp only at h
          split_ifs at h with hseq
          intro b' hb'
          rcases List.mem_cons.mp hb' with rfl | hmem
          · exact hseq
          · exact ih hrest b' hmem

theorem heldLowest_concat (held : List WifiBundle) (b : WifiBundle) :
    heldLowest (held ++ [b]) =
      match heldLowest held with
      | none => some b.seq
      | some l => if ahead b.seq l < 0 then some b.seq else some l := by
  rw [heldLowest, List.foldl_append]
  rfl

theorem heldLowest_none {held : List WifiBundle} : heldLowest held = none ↔ held = [] := by
  obtain rfl | ⟨init, b, rfl⟩ := held.eq_nil_or_concat'
  · simp [heldLowest]
  · rw [heldLowest_concat]
    split
    · simp
    · split_ifs <;> simp

/-- Nothing held within the window precedes the lowest. -/
theorem heldLowest_some {held : List WifiBundle} {e l : BitVec 16}
    (hwin : ∀ h ∈ held, 0 ≤ ahead h.seq e ∧ ahead h.seq e ≤ 64) (h : heldLowest held = some l) :
    (∃ b ∈ held, b.seq = l) ∧ ∀ b ∈ held, ahead l e ≤ ahead b.seq e := by
  induction held using List.reverseRecOn generalizing l with
  | nil => simp [heldLowest] at h
  | append_singleton held b ih =>
      have hwin' : ∀ h ∈ held, 0 ≤ ahead h.seq e ∧ ahead h.seq e ≤ 64 := by
        intro h hmem
        exact hwin h (List.mem_append_left _ hmem)
      have hb := hwin b (by simp)
      rw [heldLowest_concat] at h
      cases hlow : heldLowest held with
      | none =>
          rw [hlow] at h
          rw [heldLowest_none] at hlow
          subst hlow
          obtain rfl : b.seq = l := by simpa using h
          simp
      | some m =>
          rw [hlow] at h
          obtain ⟨⟨c, hc, rfl⟩, hleast⟩ := ih hwin' hlow
          have hcw := hwin' c hc
          have hdiff : ahead b.seq c.seq = ahead b.seq e - ahead c.seq e := by
            apply ahead_sub <;> omega
          dsimp only at h
          split_ifs at h with hlt
          · obtain rfl : b.seq = l := by simpa using h
            refine ⟨⟨b, by simp, rfl⟩, ?_⟩
            intro d hd
            rcases List.mem_append.mp hd with hd | hd
            · have := hleast d hd
              omega
            · rw [List.mem_singleton.mp hd]
          · obtain rfl : c.seq = l := by simpa using h
            refine ⟨⟨c, by simp [hc], rfl⟩, ?_⟩
            intro d hd
            rcases List.mem_append.mp hd with hd | hd
            · exact hleast d hd
            · obtain rfl : d = b := by simpa using hd
              omega

variable {cfg : WifiRxConfig} {env : WifiRxEnv}

theorem nowUs_lt_holdUntil (held : List WifiBundle) :
    (env.nowUs : Int) < wifiBundleHoldUntil cfg env held := by
  have hmin := cfg.holdMin_le
  simp only [wifiBundleHoldUntil, wifiHoldMinUs] at hmin ⊢
  split_ifs <;> omega

/-- What the drain works on: a started entry with nothing behind the bundle expected next. -/
structure WifiBundleRx.Drainable (rx : WifiBundleRx) : Prop where
  seeded : rx.seeded = true
  handed : rx.delivered ≠ []
  last : ∀ d ∈ rx.delivered.getLast?, d.seq + 1 = rx.expected
  ordered : (rx.delivered.map (·.seq)).IsChain Before
  window : ∀ h ∈ rx.held, 0 ≤ ahead h.seq rx.expected ∧ ahead h.seq rx.expected ≤ 64
  nodup : (rx.held.map (·.seq)).Nodup
  room : rx.held.length ≤ wifiBundleHold

/-- From `start` on, the bundles `ds` were handed on and the rest waits for the next one. -/
structure HandedOn (env : WifiRxEnv) (start : BitVec 16) (rx rx' : WifiBundleRx)
    (ds : List WifiBundle) : Prop where
  seeded : rx'.seeded = rx.seeded
  delivered : rx'.delivered = rx.delivered ++ ds
  seqs : ds.map (·.seq) = consecutive start ds.length
  expected : rx'.expected = start + (ds.length : BitVec 16)
  perm : (ds ++ rx'.held).Perm rx.held
  window : ∀ h ∈ rx'.held, 0 < ahead h.seq rx'.expected ∧ ahead h.seq rx'.expected ≤ 64
  settled : rx'.held = [] ∧ rx'.deadlineUs = 0 ∨ rx'.held ≠ [] ∧ env.nowUs < rx'.deadlineUs

/-- While the hold time runs, the bundles next in sequence are handed on and no gap is given up. -/
theorem drainLoop_patient {rx : WifiBundleRx} {fuel : Nat} (hfuel : rx.held.length < fuel)
    (hpatient : rx.held = [] ∨ (env.nowUs : Int) < rx.deadlineUs ∨
      ∃ b ∈ rx.held, b.seq = rx.expected)
    (hwin : ∀ h ∈ rx.held, 0 ≤ ahead h.seq rx.expected ∧ ahead h.seq rx.expected ≤ 64)
    (hnodup : (rx.held.map (·.seq)).Nodup) :
    ∃ ds, HandedOn env rx.expected rx (wifiBundleDrainLoop cfg env fuel rx) ds ∧
      ((∃ b ∈ rx.held, b.seq = rx.expected) → ds ≠ []) := by
  induction fuel generalizing rx with
  | zero => exact absurd hfuel (Nat.not_lt_zero _)
  | succ fuel ih =>
      rw [wifiBundleDrainLoop]
      cases hnext : heldIndex rx.expected rx.held with
      | none =>
          have hahead : ∀ h ∈ rx.held, 0 < ahead h.seq rx.expected := by
            intro h hmem
            have hne := mt ahead_eq_zero.mp (heldIndex_none hnext h hmem)
            have := (hwin h hmem).1
            omega
          cases hlow : heldLowest rx.held with
          | none =>
              rw [heldLowest_none] at hlow
              refine ⟨[], ⟨rfl, by simp, rfl, by simp, by simp, by simp [hlow], Or.inl ⟨hlow, rfl⟩⟩, ?_⟩
              simp [hlow]
          | some l =>
              have hheld : rx.held ≠ [] := by
                rw [Ne, ← heldLowest_none, hlow]
                simp
              have hnotNext : ¬ ∃ b ∈ rx.held, b.seq = rx.expected := by
                rintro ⟨b, hb, hseq⟩
                exact heldIndex_none hnext b hb hseq
              have hlt := (hpatient.resolve_left hheld).resolve_right hnotNext
              dsimp only
              rw [if_pos hlt]
              refine ⟨[], ⟨rfl, by simp, rfl, by simp, by simp,
                fun h hmem => ⟨hahead h hmem, (hwin h hmem).2⟩, Or.inr ⟨hheld, hlt⟩⟩, ?_⟩
              exact fun h => absurd h hnotNext
      | some i =>
          obtain ⟨b, hb, hseq⟩ := heldIndex_some hnext
          obtain ⟨hi, rfl⟩ := List.getElem?_eq_some_iff.mp hb
          have hperm := swapRemove_perm rx.held hi
          have hmem : ∀ h ∈ swapRemove rx.held i, h ∈ rx.held := by
            intro h hmem
            exact hperm.mem_iff.mp (List.mem_cons_of_mem _ hmem)
          have hnodup' : (rx.held[i].seq :: (swapRemove rx.held i).map (·.seq)).Nodup := by
            rw [← List.map_cons, (hperm.map WifiBundle.seq).nodup_iff]
            exact hnodup
          obtain ⟨hfresh, hnodup'⟩ := List.nodup_cons.mp hnodup'
          have hlen := hperm.length_eq
          simp only [List.length_cons] at hlen
          have hwin' : ∀ h ∈ swapRemove rx.held i,
              0 ≤ ahead h.seq (rx.expected + 1) ∧ ahead h.seq (rx.expected + 1) ≤ 64 := by
            intro h hh
            have hne : h.seq ≠ rx.expected := by
              rintro heq
              exact hfresh (List.mem_map.mpr ⟨h, hh, heq.trans hseq.symm⟩)
            have hne' := mt ahead_eq_zero.mp hne
            obtain ⟨hlo, hhi⟩ := hwin h (hmem h hh)
            rw [ahead_succ (by decide) (by omega)]
            omega
          have hpatient' : (rx.handOn cfg env i rx.held[i]).held = [] ∨
              (env.nowUs : Int) < (rx.handOn cfg env i rx.held[i]).deadlineUs ∨
              ∃ b ∈ (rx.handOn cfg env i rx.held[i]).held,
                b.seq = (rx.handOn cfg env i rx.held[i]).expected := by
            simp only [WifiBundleRx.handOn]
            split_ifs with hnil
            · exact Or.inl hnil
            · exact Or.inr (Or.inl (nowUs_lt_holdUntil _))
          have hlen' : (swapRemove rx.held i).length < fuel := by
            omega
          obtain ⟨ds, hds, -⟩ := @ih (rx.handOn cfg env i rx.held[i]) hlen' hpatient' hwin' hnodup'
          simp only [hb]
          refine ⟨rx.held[i] :: ds,
            ⟨hds.seeded, ?_, ?_, ?_, ?_, hds.window, hds.settled⟩, fun _ => List.cons_ne_nil _ _⟩
          · rw [hds.delivered]
            simp [WifiBundleRx.handOn, WifiBundleRx.deliver]
          · have := hds.seqs
            simp only [WifiBundleRx.handOn, WifiBundleRx.deliver] at this
            simp [consecutive, this, hseq]
          · rw [hds.expected]
            simp only [WifiBundleRx.handOn, WifiBundleRx.deliver, List.length_cons, Nat.cast_add,
              Nat.cast_one]
            ring
          · exact (hds.perm.cons rx.held[i]).trans hperm

/-- The gap before `start` was given up: `start` is the lowest bundle held. -/
structure GaveUp (env : WifiRxEnv) (start : BitVec 16) (rx : WifiBundleRx) : Prop where
  expired : rx.deadlineUs ≤ env.nowUs
  gap : ∀ h ∈ rx.held, h.seq ≠ rx.expected
  held : ∃ b ∈ rx.held, b.seq = start
  lowest : ∀ h ∈ rx.held, ahead start rx.expected ≤ ahead h.seq rx.expected

theorem drain_spec {rx : WifiBundleRx}
    (hwin : ∀ h ∈ rx.held, 0 ≤ ahead h.seq rx.expected ∧ ahead h.seq rx.expected ≤ 64)
    (hnodup : (rx.held.map (·.seq)).Nodup) :
    ∃ start ds, HandedOn env start rx (wifiBundleDrain cfg env rx) ds ∧
      (rx.held ≠ [] → rx.deadlineUs ≤ env.nowUs → ds ≠ []) ∧
      (start = rx.expected ∨ GaveUp env start rx) := by
  by_cases hpatient : rx.held = [] ∨ (env.nowUs : Int) < rx.deadlineUs ∨
      ∃ b ∈ rx.held, b.seq = rx.expected
  · obtain ⟨ds, hds, hne⟩ : ∃ ds, HandedOn env rx.expected rx (wifiBundleDrain cfg env rx) ds ∧ _ :=
      drainLoop_patient (by omega) hpatient hwin hnodup
    refine ⟨rx.expected, ds, hds, ?_, Or.inl rfl⟩
    intro hheld hexpired
    exact hne ((hpatient.resolve_left hheld).resolve_left (by omega))
  · obtain ⟨hheld, hexpired, hgap⟩ : rx.held ≠ [] ∧ ¬ (env.nowUs : Int) < rx.deadlineUs ∧
        ∀ b ∈ rx.held, b.seq ≠ rx.expected := by
      simpa only [not_or, not_exists, not_and] using hpatient
    have hnext : heldIndex rx.expected rx.held = none := by
      cases hnext : heldIndex rx.expected rx.held with
      | none => rfl
      | some i =>
          obtain ⟨b, hb, hseq⟩ := heldIndex_some hnext
          exact absurd hseq (hgap b (List.mem_of_getElem? hb))
    cases hlow : heldLowest rx.held with
    | none => exact absurd (heldLowest_none.mp hlow) hheld
    | some l =>
        obtain ⟨hl, hleast⟩ := heldLowest_some hwin hlow
        obtain ⟨b, hb, hbl⟩ := hl
        have hlw := hwin b hb
        rw [hbl] at hlw
        have hwin' : ∀ h ∈ rx.held, 0 ≤ ahead h.seq l ∧ ahead h.seq l ≤ 64 := by
          intro h hmem
          have hle := hleast h hmem
          have hhw := hwin h hmem
          rw [ahead_sub (e := rx.expected) (by omega) (by omega)]
          omega
        have hlen := List.length_pos_iff.mpr hheld
        have hlen' : (rx.giveUp cfg env l).held.length < 2 * rx.held.length := by
          simp only [WifiBundleRx.giveUp]
          omega
        obtain ⟨ds, hds, hne⟩ :=
          @drainLoop_patient cfg env (rx.giveUp cfg env l) _ hlen' (Or.inr (Or.inr ⟨b, hb, hbl⟩))
            hwin' hnodup
        have hloop : wifiBundleDrain cfg env rx =
            wifiBundleDrainLoop cfg env (2 * rx.held.length) (rx.giveUp cfg env l) := by
          rw [wifiBundleDrain, wifiBundleDrainLoop, hnext]
          simp only [hlow, if_neg hexpired]
        rw [hloop]
        refine ⟨l, ds, ⟨hds.seeded, hds.delivered, hds.seqs, hds.expected, hds.perm, hds.window,
          hds.settled⟩, fun _ _ => hne ⟨b, hb, hbl⟩,
          Or.inr ⟨by omega, hgap, ⟨b, hb, hbl⟩, hleast⟩⟩

/-- `rx'` handed on or still holds what `rx` held and what arrived, and nothing else. -/
def Carried (rx rx' : WifiBundleRx) (arrived : List WifiBundle) : Prop :=
  ∃ ds, rx'.delivered = rx.delivered ++ ds ∧ (ds ++ rx'.held).Perm (rx.held ++ arrived)

theorem Carried.trans {rx rx₁ rx₂ : WifiBundleRx} {as bs : List WifiBundle}
    (h₁ : Carried rx rx₁ as) (h₂ : Carried rx₁ rx₂ bs) : Carried rx rx₂ (as ++ bs) := by
  obtain ⟨ds, hds, hperm⟩ := h₁
  obtain ⟨ds', hds', hperm'⟩ := h₂
  refine ⟨ds ++ ds', by rw [hds', hds, List.append_assoc], ?_⟩
  calc
    (ds ++ ds' ++ rx₂.held).Perm (ds ++ (rx₁.held ++ bs)) := by
      rw [List.append_assoc]
      exact hperm'.append_left ds
    List.Perm _ (rx.held ++ as ++ bs) := by
      rw [← List.append_assoc]
      exact hperm.append_right bs
    List.Perm _ (rx.held ++ (as ++ bs)) := by
      rw [List.append_assoc]

/-- What holds between calls. -/
structure WifiBundleRx.Sound (rx : WifiBundleRx) : Prop where
  started : rx.seeded = true → rx.Drainable
  unstarted : rx.seeded = false → rx.held = [] ∧ rx.delivered = []
  past : ∀ h ∈ rx.held, 0 < ahead h.seq rx.expected
  deadline : rx.deadlineUs ≠ 0 ↔ rx.held ≠ []

theorem WifiBundleRx.Sound.blank : WifiBundleRx.blank.Sound where
  started := by simp [WifiBundleRx.blank]
  unstarted := by simp [WifiBundleRx.blank]
  past := by simp [WifiBundleRx.blank]
  deadline := by simp [WifiBundleRx.blank]

/-- The last bundle handed on lies right before the one expected. -/
theorem WifiBundleRx.Drainable.ahead_last {rx : WifiBundleRx} (hd : rx.Drainable) {d : WifiBundle}
    (hlast : d ∈ rx.delivered.getLast?) {s : BitVec 16} (h : ahead s rx.expected ≤ 64) :
    ahead s d.seq = ahead s rx.expected + 1 := by
  have hexpected := hd.last d hlast
  rw [← hexpected] at h ⊢
  exact ahead_of_succ (by decide) (by omega)

theorem HandedOn.drainable {start : BitVec 16} {rx rx' : WifiBundleRx} {ds : List WifiBundle}
    (h : HandedOn env start rx rx' ds) (hd : rx.Drainable)
    (hstart : 0 ≤ ahead start rx.expected ∧ ahead start rx.expected ≤ 64)
    (hempty : ds = [] → start = rx.expected) : rx'.Drainable where
  seeded := h.seeded.trans hd.seeded
  handed := by
    rw [h.delivered]
    exact List.append_ne_nil_of_left_ne_nil hd.handed ds
  last := by
    intro d hlast
    rw [h.delivered] at hlast
    rcases List.eq_nil_or_concat' ds with rfl | ⟨init, b, rfl⟩
    · rw [h.expected, hempty rfl, hd.last d (by simpa using hlast)]
      simp
    · obtain rfl : b = d := by simpa [← List.append_assoc] using hlast
      rw [h.expected]
      apply getLast_consecutive
      rw [← h.seqs]
      simp
  ordered := by
    rw [h.delivered, List.map_append, h.seqs]
    apply isChain_append_consecutive (by decide) hd.ordered
    intro s hs
    rw [List.getLast?_map] at hs
    obtain ⟨d, hlast, rfl⟩ := Option.mem_map.mp hs
    rw [Before, hd.ahead_last hlast hstart.2]
    omega
  window := fun b hb => ⟨(h.window b hb).1.le, (h.window b hb).2⟩
  nodup := by
    have hsub : (rx'.held).Sublist (ds ++ rx'.held) := List.sublist_append_right ds rx'.held
    exact (((h.perm.map WifiBundle.seq).nodup_iff).mpr hd.nodup).sublist (hsub.map WifiBundle.seq)
  room := by
    have hlen := h.perm.length_eq
    rw [List.length_append] at hlen
    have := hd.room
    omega

theorem HandedOn.sound {start : BitVec 16} {rx rx' : WifiBundleRx} {ds : List WifiBundle}
    (h : HandedOn env start rx rx' ds) (hd : rx'.Drainable) : rx'.Sound where
  started := fun _ => hd
  unstarted := by simp [hd.seeded]
  past := fun b hb => (h.window b hb).1
  deadline := by
    rcases h.settled with ⟨hheld, hzero⟩ | ⟨hheld, hlt⟩
    · simp [hheld, hzero]
    · simp only [hheld, ne_eq, not_false_eq_true, iff_true]
      omega

/-- A drain keeps the entry in order and loses nothing; what it leaves held is not stale. -/
theorem drain_keeps {rx : WifiBundleRx} (hd : rx.Drainable) :
    (wifiBundleDrain cfg env rx).Sound ∧ (wifiBundleDrain cfg env rx).seeded = true ∧
      Carried rx (wifiBundleDrain cfg env rx) [] := by
  obtain ⟨start, ds, hds, hne, hstart⟩ := @drain_spec cfg env rx hd.window hd.nodup
  have hwin : 0 ≤ ahead start rx.expected ∧ ahead start rx.expected ≤ 64 := by
    rcases hstart with rfl | hgave
    · simp
    · obtain ⟨b, hb, rfl⟩ := hgave.held
      exact hd.window b hb
  have hempty : ds = [] → start = rx.expected := by
    intro hnil
    refine hstart.resolve_right fun hgave => ?_
    obtain ⟨b, hb, -⟩ := hgave.held
    exact hne (List.ne_nil_of_mem hb) hgave.expired hnil
  have hd' := hds.drainable hd hwin hempty
  exact ⟨hds.sound hd', hd'.seeded, ds, hds.delivered, by simpa using hds.perm⟩

theorem not_stale_drain {rx : WifiBundleRx} (hd : rx.Drainable) :
    ¬ (wifiBundleDrain cfg env rx).stale env.nowUs := by
  obtain ⟨start, ds, hds, -, -⟩ := @drain_spec cfg env rx hd.window hd.nodup
  rintro ⟨hheld, -, hlate⟩
  rcases hds.settled with ⟨hnil, -⟩ | ⟨-, hlt⟩
  · exact hheld hnil
  · simp only [wifiBundleStaleUs] at hlate
    omega

/-- A full hold is forced open at the lowest bundle held. -/
theorem drain_forced {rx : WifiBundleRx} (hd : rx.Drainable)
    (hpast : ∀ h ∈ rx.held, 0 < ahead h.seq rx.expected) (hheld : rx.held ≠ [])
    (hexpired : rx.deadlineUs ≤ env.nowUs) :
    ∃ start ds, HandedOn env start rx (wifiBundleDrain cfg env rx) ds ∧ ds ≠ [] ∧
      GaveUp env start rx := by
  obtain ⟨start, ds, hds, hne, hstart⟩ := @drain_spec cfg env rx hd.window hd.nodup
  have hdsne := hne hheld hexpired
  refine ⟨start, ds, hds, hdsne, hstart.resolve_left ?_⟩
  rintro rfl
  obtain ⟨d, ds', rfl⟩ := List.exists_cons_of_ne_nil hdsne
  have hseq : d.seq = rx.expected := by
    have hseqs := hds.seqs
    rw [List.map_cons, List.length_cons, consecutive] at hseqs
    exact (List.cons.inj hseqs).1
  have hmem : d ∈ rx.held := hds.perm.mem_iff.mp (by simp)
  have hlt := hpast d hmem
  rw [hseq, ahead_self] at hlt
  omega

/-- Where a bundle that arrived at a full hold finds itself once room is made: still ahead, unless
it precedes everything held. -/
theorem ahead_of_forced {start seq : BitVec 16} {rx rx' : WifiBundleRx} {ds : List WifiBundle}
    (h : HandedOn env start rx rx' ds) (hds : ds ≠ []) (hgave : GaveUp env start rx)
    (hd : rx.Drainable) (hseq : 0 < ahead seq rx.expected ∧ ahead seq rx.expected ≤ 64)
    (hfresh : ∀ b ∈ rx.held, b.seq ≠ seq) :
    ((∃ b ∈ rx.held, ahead b.seq rx.expected < ahead seq rx.expected) →
      0 ≤ ahead seq rx'.expected ∧ ahead seq rx'.expected ≤ 64) ∧
    ((∀ b ∈ rx.held, ahead seq rx.expected < ahead b.seq rx.expected) →
      -64 ≤ ahead seq rx'.expected ∧ ahead seq rx'.expected < 0) := by
  obtain ⟨c, hc, rfl⟩ := hgave.held
  have hcw := hd.window c hc
  have hdiff : ahead seq c.seq = ahead seq rx.expected - ahead c.seq rx.expected := by
    apply ahead_sub <;> omega
  constructor
  · rintro ⟨b, hb, hlt⟩
    have hle := hgave.lowest b hb
    have hnotMem : seq ∉ consecutive c.seq ds.length := by
      rw [← h.seqs]
      intro hmem
      obtain ⟨d, hdmem, rfl⟩ := List.mem_map.mp hmem
      exact hfresh d (h.perm.mem_iff.mp (List.mem_append_left _ hdmem)) rfl
    obtain ⟨hlo, heq⟩ := ahead_of_notMem_consecutive (by decide) hnotMem (by omega)
    rw [h.expected]
    omega
  · intro hfirst
    obtain ⟨init, d, rfl⟩ : ∃ init d, ds = init ++ [d] :=
      (List.eq_nil_or_concat' ds).resolve_left hds
    have hlast : d.seq + 1 = rx'.expected := by
      rw [h.expected]
      apply getLast_consecutive
      rw [← h.seqs]
      simp
    have hdmem : d ∈ rx.held := h.perm.mem_iff.mp (by simp)
    have hdw := hd.window d hdmem
    have hlt := hfirst d hdmem
    have hone : ahead (d.seq + 1) rx.expected = ahead d.seq rx.expected + 1 :=
      ahead_add_one (by decide) (by omega)
    rw [← hlast, ahead_sub (e := rx.expected) (by omega) (by omega)]
    omega

theorem WifiBundleRx.accept_drainable {rx : WifiBundleRx} {b : WifiBundle} (hd : rx.Drainable)
    (hpast : ∀ h ∈ rx.held, 0 < ahead h.seq rx.expected) (hseq : b.seq = rx.expected) :
    (rx.accept b).Drainable ∧ Carried rx (rx.accept b) [b] := by
  have hdeliver : (rx.deliver b).Drainable := by
    refine ⟨hd.seeded, by simp [WifiBundleRx.deliver], ?_, ?_, ?_, hd.nodup, hd.room⟩
    · intro d hlast
      obtain rfl : b = d := by simpa [WifiBundleRx.deliver] using hlast
      rw [hseq]
      rfl
    · have hchain := isChain_append_consecutive (by decide) hd.ordered (e := b.seq) ?_ 1
      · simpa [WifiBundleRx.deliver, consecutive] using hchain
      · intro s hs
        rw [List.getLast?_map] at hs
        obtain ⟨d, hlast, rfl⟩ := Option.mem_map.mp hs
        rw [Before, hd.ahead_last hlast (by rw [hseq, ahead_self]; omega), hseq, ahead_self]
        omega
    · intro h hmem
      have hlt := hpast h hmem
      have hle := (hd.window h hmem).2
      simp only [WifiBundleRx.deliver]
      rw [ahead_succ (by decide) hlt]
      omega
  have hcarried : Carried rx (rx.deliver b) [b] :=
    ⟨[b], rfl, (List.perm_append_singleton b rx.held).symm⟩
  simp only [WifiBundleRx.accept]
  split_ifs
  · exact ⟨⟨hdeliver.seeded, hdeliver.handed, hdeliver.last, hdeliver.ordered, hdeliver.window,
      hdeliver.nodup, hdeliver.room⟩, hcarried⟩
  · exact ⟨hdeliver, hcarried⟩

theorem WifiBundleRx.held_nack (rx : WifiBundleRx) (seq : BitVec 16) :
    (rx.nack env seq).held = rx.held ∧ (rx.nack env seq).delivered = rx.delivered ∧
      (rx.nack env seq).expected = rx.expected ∧ (rx.nack env seq).seeded = rx.seeded := by
  simp only [WifiBundleRx.nack]
  split_ifs <;> exact ⟨rfl, rfl, rfl, rfl⟩

theorem WifiBundleRx.held_hold (cfg : WifiRxConfig) (env : WifiRxEnv) (rx : WifiBundleRx) (b : WifiBundle) :
    (rx.hold cfg env b).held = rx.held ++ [b] ∧ (rx.hold cfg env b).delivered = rx.delivered ∧
      (rx.hold cfg env b).expected = rx.expected ∧ (rx.hold cfg env b).seeded = rx.seeded := by
  simp only [WifiBundleRx.hold]
  split_ifs
  · exact held_nack _ _
  · exact held_nack _ _

theorem WifiBundleRx.hold_drainable {rx : WifiBundleRx} {b : WifiBundle} (hd : rx.Drainable)
    (hseq : 0 ≤ ahead b.seq rx.expected ∧ ahead b.seq rx.expected ≤ 64)
    (hfresh : ∀ h ∈ rx.held, h.seq ≠ b.seq) (hroom : rx.held.length < wifiBundleHold) :
    (rx.hold cfg env b).Drainable ∧ Carried rx (rx.hold cfg env b) [b] := by
  obtain ⟨hheld, hdelivered, hexpected, hseeded⟩ := rx.held_hold cfg env b
  refine ⟨⟨?_, ?_, ?_, ?_, ?_, ?_, ?_⟩, [], by simp [hdelivered], by simp [hheld]⟩
  · rw [hseeded, hd.seeded]
  · rw [hdelivered]
    exact hd.handed
  · rw [hdelivered, hexpected]
    exact hd.last
  · rw [hdelivered]
    exact hd.ordered
  · rw [hheld, hexpected]
    intro h hmem
    rcases List.mem_append.mp hmem with hmem | hmem
    · exact hd.window h hmem
    · rw [List.mem_singleton.mp hmem]
      exact hseq
  · rw [hheld, List.map_append]
    apply List.Nodup.append hd.nodup (by simp)
    intro s hs hb
    obtain ⟨h, hmem, rfl⟩ := List.mem_map.mp hs
    exact hfresh h hmem (by simpa using hb)
  · rw [hheld, List.length_append, List.length_singleton]
    exact hroom

/-- A bundle that is the next one, or new and past it with room left, is handed on or held. -/
theorem place_keeps {rx : WifiBundleRx} {b : WifiBundle} {depth : Nat} (hs : rx.Sound)
    (hseeded : rx.seeded = true) (hfreshStale : ¬ rx.stale env.nowUs)
    (hseq : 0 ≤ ahead b.seq rx.expected ∧ ahead b.seq rx.expected ≤ 64)
    (hfresh : ∀ h ∈ rx.held, h.seq ≠ b.seq)
    (hroom : rx.held.length < wifiBundleHold ∨ ahead b.seq rx.expected = 0) :
    (wifiBundlePlace cfg env (depth + 1) rx b).Sound ∧
      Carried rx (wifiBundlePlace cfg env (depth + 1) rx b) [b] := by
  have hd := hs.started hseeded
  have hopened : rx.opened env b.seq = rx := by
    rw [WifiBundleRx.opened, if_neg]
    simp only [hseeded, hfreshStale, not_true_eq_false, false_or]
    omega
  have hany : ¬ rx.held.any (·.seq = b.seq) = true := by
    simpa using hfresh
  rw [wifiBundlePlace]
  simp only [hopened]
  rw [if_neg (by omega)]
  split_ifs with hzero hfull
  · obtain ⟨hd', hc⟩ := WifiBundleRx.accept_drainable hd hs.past (ahead_eq_zero.mp hzero)
    obtain ⟨hs', -, hc'⟩ := @drain_keeps cfg env _ hd'
    exact ⟨hs', hc.trans hc'⟩
  · omega
  · obtain ⟨hd', hc⟩ :=
      @WifiBundleRx.hold_drainable cfg env _ _ hd hseq hfresh (hroom.resolve_right hzero)
    obtain ⟨hs', -, hc'⟩ := @drain_keeps cfg env _ hd'
    exact ⟨hs', hc.trans hc'⟩

/-- The bundles handed on lie in sequence, each place past the one before. -/
def WifiBundleRx.InOrder (rx : WifiBundleRx) : Prop :=
  (unwrap (rx.delivered.map (·.seq))).Pairwise (· < ·)

/-- A duplicate of a bundle held, or not past the last bundle handed on. -/
def WifiBundleRx.Late (rx : WifiBundleRx) (seq : BitVec 16) : Prop :=
  (∃ h ∈ rx.held, h.seq = seq) ∨ ∃ d ∈ rx.delivered.getLast?, ahead seq d.seq ≤ 0

/-- What was handed on since `rx`. -/
def WifiBundleRx.since (rx rx' : WifiBundleRx) : List WifiBundle :=
  rx'.delivered.drop rx.delivered.length

/-- One call keeps the order and accounts for every bundle that arrived or was held; those held may
be gone only when they were stale. -/
structure RxLawful (rx rx' : WifiBundleRx) (arrived : List WifiBundle) (stale : Prop) : Prop where
  inOrder : rx'.InOrder
  deadline : rx'.deadlineUs ≠ 0 ↔ rx'.held ≠ []
  room : rx'.held.length ≤ wifiBundleHold
  appends : rx.delivered <+: rx'.delivered
  arrivals : ∀ b ∈ arrived, b ∈ rx.since rx' ∨ b ∈ rx'.held ∨ rx.Late b.seq
  kept : ∀ h ∈ rx.held, h ∈ rx.since rx' ∨ h ∈ rx'.held ∨ stale
  genuine : ∀ d ∈ rx.since rx' ++ rx'.held, d ∈ rx.held ++ arrived

def wifiRxLawful (cfg : WifiRxConfig) (rx : WifiBundleRx) : WifiRxEvent → Prop
  | .receive env buf =>
      RxLawful rx (wifiBundleReceive cfg env rx buf) [.ofBuf buf] (rx.stale env.nowUs)
  | .poll env => RxLawful rx (wifiBundlePoll cfg env rx) [] False

/-- The sequence number stays within 64 of the next one expected. -/
def wifiRxInWindow (rx : WifiBundleRx) : WifiRxEvent → Prop
  | .receive _ buf =>
      rx.seeded = true → -64 ≤ ahead (WifiBundle.ofBuf buf).seq rx.expected ∧
        ahead (WifiBundle.ofBuf buf).seq rx.expected ≤ 64
  | .poll _ => True

/-- A bundle that finds the run held stale is not behind the next one expected, and a new bundle
that finds the hold full is not the one missing in front of all that is held. -/
def wifiRxPlaceable (rx : WifiBundleRx) : WifiRxEvent → Prop
  | .receive env buf =>
      let seq := (WifiBundle.ofBuf buf).seq
      (rx.stale env.nowUs → 0 ≤ ahead seq rx.expected) ∧
        (¬ rx.stale env.nowUs → rx.held.length = wifiBundleHold → 0 < ahead seq rx.expected →
          (∀ h ∈ rx.held, h.seq ≠ seq) →
          ∃ h ∈ rx.held, ahead h.seq rx.expected < ahead seq rx.expected)
  | .poll _ => True

theorem WifiBundleRx.Sound.inOrder {rx : WifiBundleRx} (hs : rx.Sound) : rx.InOrder := by
  rw [InOrder, unwrap_pairwise_iff]
  cases hseeded : rx.seeded with
  | true => exact (hs.started hseeded).ordered
  | false => simp [(hs.unstarted hseeded).2]

theorem WifiBundleRx.Sound.room {rx : WifiBundleRx} (hs : rx.Sound) :
    rx.held.length ≤ wifiBundleHold := by
  cases hseeded : rx.seeded with
  | true => exact (hs.started hseeded).room
  | false => simp [(hs.unstarted hseeded).1]

theorem since_eq {rx rx' : WifiBundleRx} {ds : List WifiBundle}
    (h : rx'.delivered = rx.delivered ++ ds) : rx.since rx' = ds := by
  rw [WifiBundleRx.since, h, List.drop_left]

theorem Carried.lawful {rx rx' : WifiBundleRx} {arrived placed : List WifiBundle} {stale : Prop}
    (h : Carried rx rx' placed) (hs : rx'.Sound) (hplaced : ∀ b ∈ placed, b ∈ arrived)
    (harrived : ∀ b ∈ arrived, b ∈ placed ∨ rx.Late b.seq) : RxLawful rx rx' arrived stale := by
  obtain ⟨ds, hds, hperm⟩ := h
  have hsince := since_eq hds
  have hmem : ∀ b, b ∈ rx.held ++ placed → b ∈ ds ∨ b ∈ rx'.held := by
    intro b hb
    exact List.mem_append.mp (hperm.mem_iff.mpr hb)
  refine ⟨hs.inOrder, hs.deadline, hs.room, ⟨ds, hds.symm⟩, ?_, ?_, ?_⟩
  · intro b hb
    rw [hsince]
    rcases harrived b hb with hb | hlate
    · rcases hmem b (List.mem_append_right _ hb) with hb | hb
      · exact Or.inl hb
      · exact Or.inr (Or.inl hb)
    · exact Or.inr (Or.inr hlate)
  · intro b hb
    rw [hsince]
    rcases hmem b (List.mem_append_left _ hb) with hb | hb
    · exact Or.inl hb
    · exact Or.inr (Or.inl hb)
  · intro b hb
    rw [hsince] at hb
    rcases List.mem_append.mp (hperm.mem_iff.mp hb) with hb | hb
    · exact List.mem_append_left _ hb
    · exact List.mem_append_right _ (hplaced b hb)

theorem Carried.refl (rx : WifiBundleRx) : Carried rx rx [] :=
  ⟨[], by simp, by simp⟩

/-- Started over, the entry hands the bundle on at once, and nothing else. -/
theorem place_restart {rx : WifiBundleRx} {b : WifiBundle} {depth : Nat}
    (hopened : rx.opened env b.seq = rx.restart b.seq) :
    wifiBundlePlace cfg env (depth + 1) rx b = wifiBundleDrain cfg env ((rx.restart b.seq).accept b) := by
  have hzero : ahead b.seq (rx.restart b.seq).expected = 0 := ahead_self b.seq
  rw [wifiBundlePlace]
  simp only [hopened, hzero, lt_self_iff_false, if_false, if_true]

theorem restart_accept_delivered (rx : WifiBundleRx) (b : WifiBundle) :
    ((rx.restart b.seq).accept b).delivered = rx.delivered ++ [b] ∧
      ((rx.restart b.seq).accept b).held = [] := by
  simp only [WifiBundleRx.accept]
  split_ifs <;> exact ⟨rfl, rfl⟩

theorem restart_accept_drainable {rx : WifiBundleRx} {b : WifiBundle}
    (hordered : ((rx.delivered ++ [b]).map (·.seq)).IsChain Before) :
    ((rx.restart b.seq).accept b).Drainable := by
  obtain ⟨hdelivered, hheld⟩ := restart_accept_delivered rx b
  refine ⟨?_, by simp [hdelivered], ?_, by rw [hdelivered]; exact hordered, by simp [hheld],
    by simp [hheld], by simp [hheld]⟩
  · simp only [WifiBundleRx.accept]
    split_ifs <;> rfl
  · intro d hlast
    obtain rfl : b = d := by simpa [hdelivered] using hlast
    simp only [WifiBundleRx.accept]
    split_ifs <;> rfl

theorem drain_nil {rx : WifiBundleRx} (h : rx.held = []) :
    wifiBundleDrain cfg env rx = { rx with deadlineUs := 0 } := by
  simp [wifiBundleDrain, wifiBundleDrainLoop, h, heldIndex, heldLowest]

/-- A restart keeps the order exactly when the bundle lies past what was handed on. -/
theorem restart_lawful {rx : WifiBundleRx} {b : WifiBundle} {depth : Nat}
    (hopened : rx.opened env b.seq = rx.restart b.seq)
    (hgone : rx.held = [] ∨ rx.stale env.nowUs) :
    (RxLawful rx (wifiBundlePlace cfg env (depth + 1) rx b) [b] (rx.stale env.nowUs) ↔
      ((rx.delivered ++ [b]).map (·.seq)).IsChain Before) ∧
    (((rx.delivered ++ [b]).map (·.seq)).IsChain Before →
      (wifiBundlePlace cfg env (depth + 1) rx b).Sound) := by
  obtain ⟨hdelivered, hheld⟩ := restart_accept_delivered rx b
  rw [place_restart hopened]
  have hsound : ((rx.delivered ++ [b]).map (·.seq)).IsChain Before →
      (wifiBundleDrain cfg env ((rx.restart b.seq).accept b)).Sound :=
    fun hchain => (drain_keeps (restart_accept_drainable hchain)).1
  rw [drain_nil hheld] at hsound ⊢
  refine ⟨⟨?_, ?_⟩, hsound⟩
  · intro hlawful
    have hordered := hlawful.inOrder
    rw [WifiBundleRx.InOrder, unwrap_pairwise_iff] at hordered
    simpa only [hdelivered] using hordered
  · intro hchain
    have hs := hsound hchain
    have hsince := since_eq hdelivered
    simp only [WifiBundleRx.since] at hsince
    refine ⟨hs.inOrder, hs.deadline, hs.room, ⟨[b], hdelivered.symm⟩, ?_, ?_, ?_⟩
    · intro c hc
      left
      rw [WifiBundleRx.since, hsince]
      exact hc
    · intro c hc
      rcases hgone with hnil | hstale
      · simp [hnil] at hc
      · exact Or.inr (Or.inr hstale)
    · intro d hd
      simp only [WifiBundleRx.since, hsince, hheld, List.append_nil] at hd
      exact List.mem_append_right _ hd

/-- The bundle missing in front of a full hold is dropped by the very call that forces the hold
open. -/
theorem place_lost {rx : WifiBundleRx} {b : WifiBundle} (hs : rx.Sound)
    (hseeded : rx.seeded = true) (hopened : rx.opened env b.seq = rx)
    (hseq : 0 < ahead b.seq rx.expected ∧ ahead b.seq rx.expected ≤ 64)
    (hfresh : ∀ h ∈ rx.held, h.seq ≠ b.seq) (hfull : rx.held.length = wifiBundleHold) :
    let forced := wifiBundleDrain cfg env { rx with deadlineUs := env.nowUs }
    forced.Sound ∧ Carried rx forced [] ∧
    ((∃ h ∈ rx.held, ahead h.seq rx.expected < ahead b.seq rx.expected) →
      (wifiBundlePlace cfg env 2 rx b).Sound ∧ Carried rx (wifiBundlePlace cfg env 2 rx b) [b]) ∧
    ((∀ h ∈ rx.held, ahead b.seq rx.expected < ahead h.seq rx.expected) →
      wifiBundlePlace cfg env 2 rx b = forced) := by
  intro forced
  have hd := hs.started hseeded
  have hd' : ({ rx with deadlineUs := env.nowUs } : WifiBundleRx).Drainable :=
    ⟨hd.seeded, hd.handed, hd.last, hd.ordered, hd.window, hd.nodup, hd.room⟩
  have hheld : rx.held ≠ [] := by
    intro hnil
    simp [hnil, wifiBundleHold] at hfull
  obtain ⟨hs', hseeded', hcarried⟩ := @drain_keeps cfg env _ hd'
  obtain ⟨start, ds, hds, hne, hgave⟩ := @drain_forced cfg env _ hd' hs.past hheld (le_refl _)
  obtain ⟨hafter, hbefore⟩ := ahead_of_forced hds hne hgave hd' hseq hfresh
  have hplace : wifiBundlePlace cfg env 2 rx b = wifiBundlePlace cfg env 1 forced b := by
    have hany : ¬ rx.held.any (·.seq = b.seq) = true := by
      simpa using hfresh
    rw [wifiBundlePlace]
    simp only [hopened]
    rw [if_neg (by omega), if_neg (by omega), if_neg hany, if_pos hfull.ge]
  have hstale : ¬ forced.stale env.nowUs := not_stale_drain hd'
  rw [hplace]
  refine ⟨hs', hcarried, ?_, ?_⟩
  · intro hlower
    have hfresh' : ∀ h ∈ forced.held, h.seq ≠ b.seq := by
      intro h hmem
      exact hfresh h (hds.perm.mem_iff.mp (List.mem_append_right _ hmem))
    have hroom : forced.held.length < wifiBundleHold := by
      have hlen : (ds ++ forced.held).length = rx.held.length := hds.perm.length_eq
      have hpos := List.length_pos_iff.mpr hne
      rw [List.length_append] at hlen
      omega
    obtain ⟨hs'', hcarried'⟩ :=
      @place_keeps cfg env forced b 0 hs' hseeded' hstale (hafter hlower) hfresh' (Or.inl hroom)
    exact ⟨hs'', hcarried.trans hcarried'⟩
  · intro hfirst
    have hbehind := hbefore hfirst
    have hopened' : forced.opened env b.seq = forced := by
      rw [WifiBundleRx.opened, if_neg]
      simp only [hseeded', hstale, not_true_eq_false, false_or, forced]
      omega
    rw [wifiBundlePlace]
    simp only [hopened']
    rw [if_pos hbehind.2]

/-- A bundle that is new and not behind the next one expected. -/
theorem fresh_lawful_iff {rx : WifiBundleRx} {b d : WifiBundle} (hs : rx.Sound)
    (hseeded : rx.seeded = true) (hstale : ¬ rx.stale env.nowUs)
    (hopened : rx.opened env b.seq = rx)
    (hseq : 0 ≤ ahead b.seq rx.expected ∧ ahead b.seq rx.expected ≤ 64)
    (hfresh : ∀ h ∈ rx.held, h.seq ≠ b.seq)
    (hahead : ahead b.seq d.seq = ahead b.seq rx.expected + 1)
    (hlast : rx.delivered.getLast? = some d) :
    let placeable := (rx.stale env.nowUs → 0 ≤ ahead b.seq rx.expected) ∧
      (¬ rx.stale env.nowUs → rx.held.length = wifiBundleHold → 0 < ahead b.seq rx.expected →
        (∀ h ∈ rx.held, h.seq ≠ b.seq) →
        ∃ h ∈ rx.held, ahead h.seq rx.expected < ahead b.seq rx.expected)
    (RxLawful rx (wifiBundlePlace cfg env 2 rx b) [b] (rx.stale env.nowUs) ↔ placeable) ∧
      (placeable → (wifiBundlePlace cfg env 2 rx b).Sound) := by
  intro placeable
  have hplaced : (wifiBundlePlace cfg env 2 rx b).Sound →
      Carried rx (wifiBundlePlace cfg env 2 rx b) [b] →
      RxLawful rx (wifiBundlePlace cfg env 2 rx b) [b] (rx.stale env.nowUs) :=
    fun hs' hcarried => hcarried.lawful hs' (fun _ h => h) (fun _ h => Or.inl h)
  by_cases hfull : rx.held.length = wifiBundleHold ∧ 0 < ahead b.seq rx.expected
  · obtain ⟨hs', hcarried, hafter, hbefore⟩ :=
      @place_lost cfg env rx b hs hseeded hopened ⟨hfull.2, hseq.2⟩ hfresh hfull.1
    by_cases hlower : ∃ h ∈ rx.held, ahead h.seq rx.expected < ahead b.seq rx.expected
    · obtain ⟨hs'', hcarried'⟩ := hafter hlower
      exact ⟨⟨fun _ => ⟨fun h => absurd h hstale, fun _ _ _ _ => hlower⟩,
        fun _ => hplaced hs'' hcarried'⟩, fun _ => hs''⟩
    · have hnot : ¬ placeable := fun h => hlower (h.2 hstale hfull.1 hfull.2 hfresh)
      refine ⟨⟨fun hlawful => ?_, fun h => absurd h hnot⟩, fun h => absurd h hnot⟩
      have hfirst : ∀ h ∈ rx.held, ahead b.seq rx.expected < ahead h.seq rx.expected := by
        intro h hmem
        have hge : ¬ ahead h.seq rx.expected < ahead b.seq rx.expected := fun hlt =>
          hlower ⟨h, hmem, hlt⟩
        have hne : ahead h.seq rx.expected ≠ ahead b.seq rx.expected := by
          intro heq
          have hw := (hs.started hseeded).window h hmem
          have hzero : ahead h.seq b.seq = 0 := by
            rw [ahead_sub (e := rx.expected) (by omega) (by omega)]
            omega
          exact hfresh h hmem (ahead_eq_zero.mp hzero)
        omega
      rw [hbefore hfirst] at hlawful
      obtain ⟨ds, hds, hperm⟩ := hcarried
      have hsince := since_eq hds
      have hnotHeld : b ∉ rx.held := fun hmem => hfresh b hmem rfl
      rw [List.append_nil] at hperm
      rcases hlawful.arrivals b (by simp) with hb | hb | hlate
      · rw [hsince] at hb
        exact absurd (hperm.mem_iff.mp (List.mem_append_left _ hb)) hnotHeld
      · exact absurd (hperm.mem_iff.mp (List.mem_append_right _ hb)) hnotHeld
      · rcases hlate with ⟨h, hmem, heq⟩ | ⟨c, hc, hle⟩
        · exact absurd heq (hfresh h hmem)
        · obtain rfl : d = c := by simpa [hlast] using hc
          omega
  · have hroom : rx.held.length < wifiBundleHold ∨ ahead b.seq rx.expected = 0 := by
      have := hs.room
      omega
    obtain ⟨hs', hcarried⟩ : (wifiBundlePlace cfg env 2 rx b).Sound ∧
        Carried rx (wifiBundlePlace cfg env 2 rx b) [b] :=
      place_keeps hs hseeded hstale hseq hfresh hroom
    exact ⟨⟨fun _ => ⟨fun h => absurd h hstale, fun _ h hpos => absurd ⟨h, hpos⟩ hfull⟩,
      fun _ => hplaced hs' hcarried⟩, fun _ => hs'⟩

theorem receive_lawful_iff {rx : WifiBundleRx} {buf : List UInt8} (hs : rx.Sound)
    (hwin : wifiRxInWindow rx (.receive env buf)) :
    (wifiRxLawful cfg rx (.receive env buf) ↔ wifiRxPlaceable rx (.receive env buf)) ∧
      (wifiRxPlaceable rx (.receive env buf) → (wifiBundleReceive cfg env rx buf).Sound) := by
  simp only [wifiRxLawful, wifiRxPlaceable, wifiBundleReceive, wifiRxInWindow] at hwin ⊢
  generalize WifiBundle.ofBuf buf = b at hwin ⊢
  cases hseeded : rx.seeded with
  | false =>
      obtain ⟨hheld, hdelivered⟩ := hs.unstarted hseeded
      have hopened : rx.opened env b.seq = rx.restart b.seq := by
        simp [WifiBundleRx.opened, hseeded]
      have hstale : ¬ rx.stale env.nowUs := fun h => h.1 hheld
      obtain ⟨hiff, hsound⟩ :=
        @restart_lawful cfg env rx b 1 hopened (Or.inl hheld)
      have hchain : ((rx.delivered ++ [b]).map (·.seq)).IsChain Before := by
        simp [hdelivered]
      refine ⟨⟨fun _ => ⟨fun h => absurd h hstale, ?_⟩, fun _ => hiff.mpr hchain⟩,
        fun _ => hsound hchain⟩
      intro _ hfull
      simp [hheld, wifiBundleHold] at hfull
  | true =>
      have hd := hs.started hseeded
      have hwin := hwin hseeded
      by_cases hstale : rx.stale env.nowUs
      · have hopened : rx.opened env b.seq = rx.restart b.seq := by
          simp [WifiBundleRx.opened, hstale]
        obtain ⟨hiff, hsound⟩ := @restart_lawful cfg env rx b 1 hopened (Or.inr hstale)
        have hchain : ((rx.delivered ++ [b]).map (·.seq)).IsChain Before ↔
            0 ≤ ahead b.seq rx.expected := by
          obtain ⟨d, hlast⟩ := Option.ne_none_iff_exists'.mp
            (mt List.getLast?_eq_none_iff.mp hd.handed)
          rw [List.map_append, List.isChain_append]
          have hahead := hd.ahead_last hlast hwin.2
          simp only [hd.ordered, List.map_cons, List.map_nil, List.isChain_singleton, true_and,
            List.getLast?_map, hlast, Option.map_some, Option.mem_some_iff, List.head?_cons,
            forall_eq', Before, hahead]
          omega
        rw [hiff, hchain]
        exact ⟨⟨fun h => ⟨fun _ => h, fun hn => absurd hstale hn⟩, fun h => h.1 hstale⟩,
          fun h => hsound (hchain.mpr (h.1 hstale))⟩
      · have hopened : rx.opened env b.seq = rx := by
          rw [WifiBundleRx.opened, if_neg]
          simp only [hseeded, hstale, not_true_eq_false, false_or]
          omega
        obtain ⟨d, hlast⟩ := Option.ne_none_iff_exists'.mp
          (mt List.getLast?_eq_none_iff.mp hd.handed)
        have hahead := hd.ahead_last hlast hwin.2
        by_cases hbehind : ahead b.seq rx.expected < 0
        · have hplace : wifiBundlePlace cfg env 2 rx b = rx := by
            rw [wifiBundlePlace]
            simp only [hopened]
            rw [if_pos hbehind]
          rw [hplace]
          refine ⟨⟨fun _ => ⟨fun h => absurd h hstale, fun _ _ hpos => by omega⟩, fun _ => ?_⟩,
            fun _ => hs⟩
          refine (Carried.refl rx).lawful hs (by simp) ?_
          intro c hc
          obtain rfl : c = b := by simpa using hc
          exact Or.inr (Or.inr ⟨d, hlast, by omega⟩)
        · by_cases hdup : ∃ h ∈ rx.held, h.seq = b.seq
          · have hpos : 0 < ahead b.seq rx.expected := by
              obtain ⟨h, hmem, heq⟩ := hdup
              rw [← heq]
              exact hs.past h hmem
            have hplace : wifiBundlePlace cfg env 2 rx b = wifiBundleDrain cfg env rx := by
              rw [wifiBundlePlace]
              simp only [hopened]
              rw [if_neg hbehind, if_neg (by omega), if_pos (by simpa using hdup)]
            obtain ⟨hs', -, hcarried⟩ := @drain_keeps cfg env _ hd
            rw [hplace]
            refine ⟨⟨fun _ => ⟨fun h => absurd h hstale, fun _ _ _ hfresh => ?_⟩, fun _ => ?_⟩,
              fun _ => hs'⟩
            · obtain ⟨h, hmem, heq⟩ := hdup
              exact absurd heq (hfresh h hmem)
            · refine hcarried.lawful hs' (by simp) ?_
              intro c hc
              obtain rfl : c = b := by simpa using hc
              exact Or.inr (Or.inl hdup)
          · have hfresh : ∀ h ∈ rx.held, h.seq ≠ b.seq := by
              simpa using hdup
            exact fresh_lawful_iff hs hseeded hstale hopened ⟨by omega, hwin.2⟩ hfresh hahead hlast

theorem poll_lawful {rx : WifiBundleRx} (hs : rx.Sound) :
    wifiRxLawful cfg rx (.poll env) ∧ (wifiBundlePoll cfg env rx).Sound := by
  simp only [wifiRxLawful, wifiBundlePoll]
  split_ifs with hdue
  · have hseeded : rx.seeded = true := by
      by_contra hnot
      exact hdue.1 (hs.unstarted (by simpa using hnot)).1
    obtain ⟨hs', -, hcarried⟩ := @drain_keeps cfg env _ (hs.started hseeded)
    exact ⟨hcarried.lawful hs' (by simp) (by simp), hs'⟩
  · exact ⟨(Carried.refl rx).lawful hs (by simp) (by simp), hs⟩

theorem wifiRxStep_lawful_iff (rx : WifiBundleRx) (e : WifiRxEvent) (hs : rx.Sound)
    (hwin : wifiRxInWindow rx e) :
    (wifiRxLawful cfg rx e ↔ wifiRxPlaceable rx e) ∧
      (wifiRxPlaceable rx e → (wifiRxStep cfg rx e).Sound) := by
  cases e with
  | receive env buf => exact receive_lawful_iff hs hwin
  | poll env =>
      obtain ⟨hlawful, hs'⟩ := @poll_lawful cfg env rx hs
      exact ⟨⟨fun _ => trivial, fun _ => hlawful⟩, fun _ => hs'⟩

/-- Over every run inside the window, the bundles are handed on in order, none twice, and none is
lost, exactly as long as every bundle that arrives is placeable. -/
theorem wifi_rx_order (cfg : WifiRxConfig) (events : List WifiRxEvent) :
    Machine.RunMeets (fun rx e => wifiRxInWindow rx e ∧ wifiRxLawful cfg rx e) (wifiRxStep cfg)
        .blank events ↔
      Machine.RunMeets (fun rx e => wifiRxInWindow rx e ∧ wifiRxPlaceable rx e) (wifiRxStep cfg)
        .blank events := by
  apply Machine.RunMeets.iff_of_invariant WifiBundleRx.Sound
  · intro rx e hs
    exact and_congr_right fun hwin => (wifiRxStep_lawful_iff rx e hs hwin).1
  · rintro rx e ⟨hwin, hplaceable⟩ hs
    exact (wifiRxStep_lawful_iff rx e hs hwin).2 hplaceable
  · exact WifiBundleRx.Sound.blank

instance (rx : WifiBundleRx) (e : WifiRxEvent) : Decidable (wifiRxInWindow rx e) :=
  match e with
  | .receive _ _ => inferInstanceAs (Decidable (_ → _ ∧ _))
  | .poll _ => inferInstanceAs (Decidable True)

def wifiRxArrival (seq : UInt8) : WifiRxEvent :=
  .receive ⟨1000, fun _ => Option.none⟩ (List.replicate 35 0 ++ [seq])

/-- Bundles 1 and 2 are missing, and bundles 3 to 34 fill the hold. -/
def wifiRxFull : List WifiRxEvent :=
  wifiRxArrival 0 :: (List.range 32).map fun i => wifiRxArrival (UInt8.ofNat (i + 3))

/-- Then bundle 2 arrives: the hold is forced open in front of bundle 3, and bundle 2 is freed. -/
theorem wifi_rx_order_lost :
    ¬ ∀ (cfg : WifiRxConfig) (events : List WifiRxEvent),
      Machine.RunMeets wifiRxInWindow (wifiRxStep cfg) .blank events →
      Machine.RunMeets (wifiRxLawful cfg) (wifiRxStep cfg) .blank events := by
  intro h
  have hrun := h ⟨40000, by decide⟩ (wifiRxFull ++ [wifiRxArrival 2]) (by decide +kernel)
  have hlawful := hrun.of_append.1
  rcases hlawful.arrivals _ (List.mem_singleton_self _) with hsince | hheld | hlate | ⟨d, hd, hle⟩
  · revert hsince
    decide +kernel
  · revert hheld
    decide +kernel
  · revert hlate
    decide +kernel
  · revert d
    decide +kernel

end EspAvb
