import EspAvb.AddrAccess

/-!
# Where ADDRESS_ACCESS reads and writes

Nothing in the walk looks at the end of the command, so all depends on the lengths the TLVs announce.
A TLV that is copied into lies in front of the next one, so the headers still to come are as the
command brought them, and the condition can be read off the command.
-/

namespace EspAvb

/-! ### The octets of a header -/

theorem tlvLength_lt (tlvData : Nat → UInt8) (tlv : Nat) : tlvLength tlvData tlv < 4096 := by
  have hlow := (tlvData (tlv + 1)).toNat_lt
  unfold tlvLength
  omega

theorem tlvAddress_lt (tlvData : Nat → UInt8) (tlv : Nat) : tlvAddress tlvData tlv < 2 ^ 64 := by
  have hoctet : ∀ b, (tlvData (tlv + 2 + b)).toNat < 256 := fun b => (tlvData (tlv + 2 + b)).toNat_lt
  have h0 := hoctet 0
  have h1 := hoctet 1
  have h2 := hoctet 2
  have h3 := hoctet 3
  have h4 := hoctet 4
  have h5 := hoctet 5
  have h6 := hoctet 6
  have h7 := hoctet 7
  simp only [tlvAddress, List.range, List.range.loop, List.foldl]
  omega

/-- Flash lies high enough for the sum not to run over. -/
theorem offset_add_length (logo : LogoImage) (tlvData : Nat → UInt8) (tlv : Nat) :
    (tlvAddress tlvData tlv - logo.base + tlvLength tlvData tlv) % 2 ^ 64
      = tlvAddress tlvData tlv - logo.base + tlvLength tlvData tlv := by
  have hlength := tlvLength_lt tlvData tlv
  have haddress := tlvAddress_lt tlvData tlv
  have hmapped := logo.mapped
  apply Nat.mod_eq_of_lt
  omega

/-- Two memories that agree from an octet on have the same TLVs there. -/
theorem tlv_congr {m m' : Nat → UInt8} {tlv : Nat} (h : ∀ i, tlv ≤ i → m i = m' i) :
    tlvMode m tlv = tlvMode m' tlv ∧ tlvLength m tlv = tlvLength m' tlv
      ∧ tlvAddress m tlv = tlvAddress m' tlv := by
  have hat : ∀ k, m (tlv + k) = m' (tlv + k) := fun k => h (tlv + k) (Nat.le_add_right tlv k)
  refine ⟨?_, ?_, ?_⟩
  · exact congrArg (fun o => o.toNat / 16) (hat 0)
  · unfold tlvLength
    rw [hat 1, show m tlv = m' tlv from hat 0]
  · unfold tlvAddress
    congr 1
    funext address b
    rw [Nat.add_assoc, hat (2 + b)]

theorem copyLogo_behind (logo : LogoImage) (tlvData : Nat → UInt8) {tlv offset length i : Nat}
    (h : tlv + tlvHeaderLen + length ≤ i) : copyLogo logo tlvData tlv offset length i = tlvData i := by
  rw [copyLogo, if_neg]
  omega

theorem tlvWriteLength_behind (tlvData : Nat → UInt8) {tlv mode length i : Nat}
    (h : tlv + tlvHeaderLen ≤ i) : tlvWriteLength tlvData tlv mode length i = tlvData i := by
  unfold tlvHeaderLen at h
  rw [tlvWriteLength, if_neg (by omega), if_neg (by omega)]

/-! ### What one TLV does -/

/-- A READ of octets of the image, some of which it has. -/
def readsLogo (logo : LogoImage) (tlvData : Nat → UInt8) (tlv : Nat) : Prop :=
  tlvMode tlvData tlv = 0 ∧ logo.base ≤ tlvAddress tlvData tlv
    ∧ (tlvAddress tlvData tlv - logo.base < logo.octets.length
      ∨ tlvAddress tlvData tlv - logo.base + tlvLength tlvData tlv ≤ logo.octets.length)

instance (logo : LogoImage) (tlvData : Nat → UInt8) (tlv : Nat) :
    Decidable (readsLogo logo tlvData tlv) :=
  inferInstanceAs (Decidable (_ ∧ _ ∧ _))

/-- The octets copied for it: as announced, or up to the end of the image. -/
def copiedLength (logo : LogoImage) (tlvData : Nat → UInt8) (tlv : Nat) : Nat :=
  min (tlvLength tlvData tlv) (logo.octets.length - (tlvAddress tlvData tlv - logo.base))

/-- A TLV ends the walk after its header, or is copied into and walked past. -/
theorem addrAccessTlv_outcome (logo : LogoImage) (st : AddrAccessState) :
    (¬ readsLogo logo st.tlvData st.tlv
        ∧ (addrAccessTlv logo st).2 = false
        ∧ (addrAccessTlv logo st).1.accesses = st.accesses ++ [.read st.tlv tlvHeaderLen])
      ∨ (readsLogo logo st.tlvData st.tlv
        ∧ (addrAccessTlv logo st).2 = true
        ∧ (addrAccessTlv logo st).1.tlv
          = st.tlv + tlvHeaderLen + copiedLength logo st.tlvData st.tlv
        ∧ (∀ i, (addrAccessTlv logo st).1.tlv ≤ i →
          (addrAccessTlv logo st).1.tlvData i = st.tlvData i)
        ∧ ∃ written, (∀ a ∈ written, a = TlvAccess.write st.tlv 2)
          ∧ (addrAccessTlv logo st).1.accesses
            = st.accesses ++ [.read st.tlv tlvHeaderLen] ++ written
              ++ [.copy st.tlv (tlvLength st.tlvData st.tlv)
                  (tlvAddress st.tlvData st.tlv - logo.base)
                  (copiedLength logo st.tlvData st.tlv),
                .advance st.tlv (tlvLength st.tlvData st.tlv)
                  (addrAccessTlv logo st).1.tlv]) := by
  have hsum := offset_add_length logo st.tlvData st.tlv
  unfold addrAccessTlv
  dsimp only
  rw [hsum]
  by_cases hmode : tlvMode st.tlvData st.tlv = 0
  · rw [if_pos hmode]
    by_cases hlow : tlvAddress st.tlvData st.tlv < logo.base
    · rw [if_pos hlow]
      left
      refine ⟨?_, rfl, rfl⟩
      rintro ⟨-, hbase, -⟩
      omega
    · rw [if_neg hlow]
      by_cases hhigh : logo.octets.length
          < tlvAddress st.tlvData st.tlv - logo.base + tlvLength st.tlvData st.tlv
      · rw [if_pos hhigh]
        by_cases hinside : tlvAddress st.tlvData st.tlv - logo.base < logo.octets.length
        · rw [if_pos hinside]
          right
          have hcopied : copiedLength logo st.tlvData st.tlv
              = logo.octets.length - (tlvAddress st.tlvData st.tlv - logo.base) := by
            unfold copiedLength
            omega
          refine ⟨⟨hmode, not_lt.mp hlow, Or.inl hinside⟩, rfl, by rw [hcopied]; rfl, ?_,
            [.write st.tlv 2], by simp, ?_⟩
          · intro i hi
            exact (copyLogo_behind logo _ hi).trans
              (tlvWriteLength_behind st.tlvData (Nat.le_of_add_right_le hi))
          · rw [hcopied]
            rfl
        · rw [if_neg hinside]
          left
          refine ⟨?_, rfl, rfl⟩
          rintro ⟨-, -, h | h⟩ <;> omega
      · rw [if_neg hhigh]
        right
        have hcopied : copiedLength logo st.tlvData st.tlv = tlvLength st.tlvData st.tlv := by
          unfold copiedLength
          omega
        refine ⟨⟨hmode, not_lt.mp hlow, Or.inr (not_lt.mp hhigh)⟩, rfl, by rw [hcopied]; rfl, ?_, [],
          by simp, ?_⟩
        · intro i hi
          exact copyLogo_behind logo _ hi
        · rw [hcopied, List.append_nil]
          rfl
  · rw [if_neg hmode]
    left
    refine ⟨?_, rfl, rfl⟩
    rintro ⟨h, -⟩
    exact hmode h

/-! ### The whole walk -/

/-- The access stays in the buffer, in the image, and in a TLV that the command, `len` octets of
TLV data, holds to its end. -/
def TlvAccess.Inside (logo : LogoImage) (len : Nat) : TlvAccess → Prop
  | .read tlv count => tlv + count ≤ addrAccessTlvDataLen
  | .write tlv count => tlv + count ≤ addrAccessTlvDataLen
  | .copy tlv length offset count =>
      tlv + tlvHeaderLen + count ≤ addrAccessTlvDataLen ∧ offset + count ≤ logo.octets.length
        ∧ tlv + tlvHeaderLen + length ≤ len
  | .advance tlv length next => next ≤ addrAccessTlvDataLen ∧ tlv + tlvHeaderLen + length ≤ len

/-- Up to the first TLV that is no READ of the image, each of the first `count` announces no more
than the command still holds. -/
def tlvsHeld (logo : LogoImage) (tlvData : Nat → UInt8) (len : Nat) : Nat → Nat → Prop
  | 0, _ => True
  | count + 1, tlv =>
      readsLogo logo tlvData tlv →
        tlv + tlvHeaderLen + tlvLength tlvData tlv ≤ len
          ∧ tlvsHeld logo tlvData len count
            (tlv + tlvHeaderLen + copiedLength logo tlvData tlv)

theorem copiedLength_le (logo : LogoImage) (tlvData : Nat → UInt8) (tlv : Nat) :
    copiedLength logo tlvData tlv ≤ tlvLength tlvData tlv := Nat.min_le_left _ _

theorem readsLogo_congr {logo : LogoImage} {m m' : Nat → UInt8} {tlv : Nat}
    (h : ∀ i, tlv ≤ i → m i = m' i) :
    (readsLogo logo m tlv ↔ readsLogo logo m' tlv)
      ∧ copiedLength logo m tlv = copiedLength logo m' tlv := by
  obtain ⟨hmode, hlength, haddress⟩ := tlv_congr h
  unfold readsLogo copiedLength
  rw [hmode, hlength, haddress]
  exact ⟨Iff.rfl, rfl⟩

theorem tlvsHeld_congr {logo : LogoImage} {m m' : Nat → UInt8} {len : Nat} (count : Nat) {tlv : Nat}
    (h : ∀ i, tlv ≤ i → m i = m' i) :
    tlvsHeld logo m len count tlv ↔ tlvsHeld logo m' len count tlv := by
  induction count generalizing tlv with
  | zero => exact Iff.rfl
  | succ count ih =>
      obtain ⟨hreads, hcopied⟩ := @readsLogo_congr logo _ _ _ h
      obtain ⟨-, hlength, -⟩ := tlv_congr h
      unfold tlvsHeld
      rw [hreads, hcopied, hlength]
      rw [ih]
      intro i hi
      apply h
      omega

theorem copied_inside {logo : LogoImage} {tlvData : Nat → UInt8} {tlv : Nat}
    (h : readsLogo logo tlvData tlv) :
    tlvAddress tlvData tlv - logo.base + copiedLength logo tlvData tlv ≤ logo.octets.length := by
  obtain ⟨-, -, hinside⟩ := h
  unfold copiedLength
  omega

theorem addrAccessWalk_more (logo : LogoImage) (count : Nat) (st : AddrAccessState) :
    ∃ more, (addrAccessWalk logo count st).accesses = st.accesses ++ more := by
  induction count generalizing st with
  | zero => exact ⟨[], (List.append_nil _).symm⟩
  | succ count ih =>
      have hstep : ∃ more, (addrAccessTlv logo st).1.accesses = st.accesses ++ more := by
        obtain ⟨-, -, haccesses⟩ | ⟨-, -, -, -, written, -, haccesses⟩ :=
          addrAccessTlv_outcome logo st
        · exact ⟨_, haccesses⟩
        · rw [haccesses, List.append_assoc, List.append_assoc]
          exact ⟨_, rfl⟩
      obtain ⟨first, hfirst⟩ := hstep
      rw [addrAccessWalk]
      split
      · rename_i st' heq
        rw [heq] at hfirst
        obtain ⟨more, hmore⟩ := ih st'
        exact ⟨first ++ more, by rw [hmore, hfirst, List.append_assoc]⟩
      · rename_i st' heq
        rw [heq] at hfirst
        exact ⟨first, hfirst⟩

/-- The accesses of the walk are inside exactly where the TLVs it meets are held by the command. -/
theorem addrAccessWalk_inside_iff (logo : LogoImage) {len : Nat} (hlen : len ≤ 576) (count : Nat)
    (st : AddrAccessState) (htlv : st.tlv ≤ len) (hbefore : ∀ a ∈ st.accesses, a.Inside logo len) :
    (∀ a ∈ (addrAccessWalk logo count st).accesses, a.Inside logo len)
      ↔ tlvsHeld logo st.tlvData len count st.tlv := by
  induction count generalizing st with
  | zero => exact ⟨fun _ => trivial, fun _ => hbefore⟩
  | succ count ih =>
      have hheader : TlvAccess.Inside logo len (.read st.tlv tlvHeaderLen) := by
        unfold TlvAccess.Inside addrAccessTlvDataLen tlvHeaderLen
        omega
      obtain ⟨hno, hstop, haccesses⟩ | ⟨hreads, hgo, hnext, hsame, written, hwritten, haccesses⟩ :=
        addrAccessTlv_outcome logo st
      · have hwalk : addrAccessWalk logo (count + 1) st = (addrAccessTlv logo st).1 := by
          rw [addrAccessWalk]
          split
          · rename_i st' heq
            rw [heq] at hstop
            cases hstop
          · rename_i st' heq
            rw [heq]
        rw [hwalk, haccesses]
        constructor
        · intro _ hreads
          exact absurd hreads hno
        · intro _ a ha
          obtain ha | ha := List.mem_append.mp ha
          · exact hbefore a ha
          · rw [List.mem_singleton.mp ha]
            exact hheader
      · have hwalk : addrAccessWalk logo (count + 1) st
            = addrAccessWalk logo count (addrAccessTlv logo st).1 := by
          rw [addrAccessWalk]
          split
          · rename_i st' heq
            rw [heq]
          · rename_i st' heq
            rw [heq] at hgo
            cases hgo
        have hcopied := copiedLength_le logo st.tlvData st.tlv
        rw [hwalk]
        by_cases hheld : st.tlv + tlvHeaderLen + tlvLength st.tlvData st.tlv ≤ len
        · have hnow : ∀ a ∈ (addrAccessTlv logo st).1.accesses, a.Inside logo len := by
            rw [haccesses]
            intro a ha
            simp only [List.mem_append, List.mem_cons, List.not_mem_nil, or_false] at ha
            obtain ((ha | rfl) | ha) | rfl | rfl := ha
            · exact hbefore a ha
            · exact hheader
            · rw [hwritten a ha]
              unfold TlvAccess.Inside addrAccessTlvDataLen
              omega
            · refine ⟨?_, copied_inside hreads, hheld⟩
              unfold addrAccessTlvDataLen
              omega
            · refine ⟨?_, hheld⟩
              rw [hnext]
              unfold addrAccessTlvDataLen
              omega
          rw [ih _ (by omega) hnow, tlvsHeld_congr count hsame, hnext]
          constructor
          · intro hrest _
            exact ⟨hheld, hrest⟩
          · intro h
            exact (h hreads).2
        · constructor
          · intro hinside
            exfalso
            apply hheld
            have hcopy : TlvAccess.copy st.tlv (tlvLength st.tlvData st.tlv)
                (tlvAddress st.tlvData st.tlv - logo.base) (copiedLength logo st.tlvData st.tlv)
                ∈ (addrAccessWalk logo count (addrAccessTlv logo st).1).accesses := by
              obtain ⟨more, hmore⟩ := addrAccessWalk_more logo count (addrAccessTlv logo st).1
              rw [hmore, haccesses]
              simp
            exact (hinside _ hcopy).2.2
          · intro h
            exact absurd (h hreads).1 hheld

/-! ### The command -/

/-- What is read and written lies in the command's TLV data and the response buffer, what is copied
comes from the image, and no TLV the command does not hold is copied into or walked past. -/
structure AddrAccessSafe (logo : LogoImage) (cmd : AddrAccessCommand) : Prop where
  walk : ∀ a ∈ (avbProcessAecpAddrAccess logo cmd).walk.accesses, a.Inside logo cmd.tlvDataLen
  sent : (avbProcessAecpAddrAccess logo cmd).msgLen ≤ addrAccessBufLen

/-- A READ of 1000 octets, sent without the octets to copy into. -/
def readThousand : AddrAccessCommand :=
  { tlvCount := 1
    controlDataLen := ⟨22, by decide⟩
    data := [0x03, 0xe8, 0, 0, 0, 0, 0x3c, 0, 0, 0]
    behind := fun _ => 0
    received := by decide }

def smallLogo : LogoImage :=
  { base := 0x3c000000
    octets := List.replicate 2000 0x89
    mapped := by decide
    fits := by rw [List.length_replicate]; decide }

end EspAvb
