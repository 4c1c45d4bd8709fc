import EspAvb.Mrpdu
import EspAvb.System

/-!
# The walk over an MRPDU reads what the MRPDU says

From the inside out: adding to a big-endian field, the packed events and declarations, FirstValue,
one vector, one message, the MRPDU. Each lemma reads its piece at the end of an arbitrary prefix, as
the walk keeps offsets into the whole buffer.
-/

namespace EspAvb

/-! ### Adding to a field -/

/-- The little-endian value of a list of octets. -/
def revValue : List UInt8 → Nat
  | [] => 0
  | b :: rest => b.toNat + 256 * revValue rest

theorem value_reverse (bytes : List UInt8) : Octets.value bytes.reverse = revValue bytes := by
  induction bytes with
  | nil => rfl
  | cons b rest ih =>
      rw [List.reverse_cons, Octets.value_append, ih, Octets.value_singleton, revValue]
      simp only [List.length_cons, List.length_nil]
      omega

theorem revValue_lt (bytes : List UInt8) : revValue bytes < 256 ^ bytes.length := by
  rw [← value_reverse]
  simpa using Octets.value_lt bytes.reverse

/-- The loop with its carry is addition modulo the width of the field. -/
theorem revValue_msrpBeAddRev (bytes : List UInt8) (add : Nat) :
    revValue (msrpBeAddRev bytes add) = (revValue bytes + add) % 256 ^ bytes.length := by
  induction bytes generalizing add with
  | nil => simp [msrpBeAddRev, revValue, Nat.mod_one]
  | cons b rest ih =>
      rw [msrpBeAddRev]
      split
      · rename_i hzero
        have hlt := revValue_lt (b :: rest)
        rw [hzero, Nat.add_zero, Nat.mod_eq_of_lt hlt]
      · have hcarry : (b.toNat + 256 * revValue rest + add) / 256
            = revValue rest + (add / 256 + (b.toNat + add % 256) / 256) := by omega
        have hlow : (b.toNat + 256 * revValue rest + add) % 256 = (b.toNat + add % 256) % 256 := by
          omega
        simp only [revValue, List.length_cons, pow_succ']
        rw [ih, Nat.mod_mul, hcarry, hlow]
        simp

theorem msrpBeAdd_eq {n : Nat} (a : Octets n) (add : Nat) :
    msrpBeAdd a add = Octets.ofNat n (a.toNat + add) := by
  apply Octets.toNat_injective
  rw [Octets.toNat_ofNat]
  have hvalue : (msrpBeAdd a add).toNat = revValue (msrpBeAddRev a.bytes.reverse add) := by
    rw [← value_reverse]
    rfl
  have ha : a.toNat = revValue a.bytes.reverse := by
    rw [← value_reverse, List.reverse_reverse]
    rfl
  rw [hvalue, revValue_msrpBeAddRev, ha, List.length_reverse, a.length_eq]

/-! ### Packed events and declarations -/

theorem threePeToInt_intTo3pe (a b c : Fin 6) :
    threePeToInt (intTo3pe a b c) = (a.val, b.val, c.val) := by
  have hsum : (intTo3pe a b c).toNat = a.val * 36 + b.val * 6 + c.val := by
    rw [intTo3pe, UInt8.toNat_ofNat']
    omega
  simp only [threePeToInt, hsum, Prod.mk.injEq]
  omega

/-- The event an octet of packed events holds at place `v` of its vector. -/
def unpackEvent (octet : UInt8) (v : Nat) : Nat :=
  if v % 3 = 0 then (threePeToInt octet).1
  else if v % 3 = 1 then (threePeToInt octet).2.1
  else (threePeToInt octet).2.2

theorem length_packEvents (events : List (Fin 6)) :
    (packEvents events).length = (events.length + 2) / 3 := by
  induction events using packEvents.induct with
  | case1 => rfl
  | case2 a => simp [packEvents]
  | case3 a b => simp [packEvents]
  | case4 a b c rest ih =>
      simp only [packEvents, List.length_cons, ih]
      omega

theorem unpackEvent_packEvents (events : List (Fin 6)) (v : Nat) (hv : v < events.length) :
    unpackEvent ((packEvents events).getD (v / 3) 0) v = events[v].val := by
  induction events using packEvents.induct generalizing v with
  | case1 => simp at hv
  | case2 a =>
      obtain rfl : v = 0 := by simpa using hv
      exact congrArg Prod.fst (threePeToInt_intTo3pe a 0 0)
  | case3 a b =>
      have hunpack := threePeToInt_intTo3pe a b 0
      obtain rfl | rfl : v = 0 ∨ v = 1 := by simp at hv; omega
      · exact congrArg Prod.fst hunpack
      · exact congrArg (fun t => t.2.1) hunpack
  | case4 a b c rest ih =>
      have hunpack := threePeToInt_intTo3pe a b c
      obtain rfl | rfl | rfl | ⟨w, rfl⟩ : v = 0 ∨ v = 1 ∨ v = 2 ∨ ∃ w, v = w + 3 := by
        obtain h | h := Nat.lt_or_ge v 3
        · omega
        · exact Or.inr (Or.inr (Or.inr ⟨v - 3, by omega⟩))
      · exact congrArg Prod.fst hunpack
      · exact congrArg (fun t => t.2.1) hunpack
      · exact congrArg (fun t => t.2.2) hunpack
      · have hw : w < rest.length := by simpa using hv
        have hplace : (w + 3) / 3 = w / 3 + 1 := by omega
        have hmod : (w + 3) % 3 = w % 3 := by omega
        rw [packEvents, hplace, List.getD_cons_succ]
        have hrest := ih w hw
        unfold unpackEvent at hrest ⊢
        rw [hmod, hrest]
        simp

theorem code_lt (a : MsrpListenerEvent) : a.code < 4 := by cases a <;> decide

theorem ofCode_code (a : MsrpListenerEvent) : MsrpListenerEvent.ofCode a.code = a := by
  cases a <;> rfl

theorem length_packDeclarations (decls : List MsrpListenerEvent) :
    (packDeclarations decls).length = (decls.length + 3) / 4 := by
  induction decls using packDeclarations.induct with
  | case1 => rfl
  | case2 a => simp [packDeclarations]
  | case3 a b => simp [packDeclarations]
  | case4 a b c => simp [packDeclarations]
  | case5 a b c d rest ih =>
      simp only [packDeclarations, List.length_cons, ih]
      omega

/-- The declaration an octet of packed declarations holds at place `v` of its vector. -/
def unpackDeclaration (octet : UInt8) (v : Nat) : Nat := octet.toNat / 2 ^ (6 - 2 * (v % 4)) % 4

theorem unpackDeclaration_octet {a b c d : Nat} (ha : a < 4) (hb : b < 4) (hc : c < 4)
    (hd : d < 4) :
    unpackDeclaration (UInt8.ofNat (a * 64 + b * 16 + c * 4 + d)) 0 = a
      ∧ unpackDeclaration (UInt8.ofNat (a * 64 + b * 16 + c * 4 + d)) 1 = b
      ∧ unpackDeclaration (UInt8.ofNat (a * 64 + b * 16 + c * 4 + d)) 2 = c
      ∧ unpackDeclaration (UInt8.ofNat (a * 64 + b * 16 + c * 4 + d)) 3 = d := by
  have hsum : (UInt8.ofNat (a * 64 + b * 16 + c * 4 + d)).toNat = a * 64 + b * 16 + c * 4 + d := by
    rw [UInt8.toNat_ofNat']
    omega
  simp only [unpackDeclaration, hsum]
  norm_num
  omega

theorem unpackDeclaration_packDeclarations (decls : List MsrpListenerEvent) (v : Nat)
    (hv : v < decls.length) :
    unpackDeclaration ((packDeclarations decls).getD (v / 4) 0) v = decls[v].code := by
  induction decls using packDeclarations.induct generalizing v with
  | case1 => simp at hv
  | case2 a =>
      have h := unpackDeclaration_octet (code_lt a) (b := 0) (c := 0) (d := 0) (by omega) (by omega)
        (by omega)
      obtain rfl : v = 0 := by simpa using hv
      exact h.1
  | case3 a b =>
      have h := unpackDeclaration_octet (code_lt a) (code_lt b) (c := 0) (d := 0) (by omega)
        (by omega)
      obtain rfl | rfl : v = 0 ∨ v = 1 := by simp at hv; omega
      · exact h.1
      · exact h.2.1
  | case4 a b c =>
      have h := unpackDeclaration_octet (code_lt a) (code_lt b) (code_lt c) (d := 0) (by omega)
      obtain rfl | rfl | rfl : v = 0 ∨ v = 1 ∨ v = 2 := by simp at hv; omega
      · exact h.1
      · exact h.2.1
      · exact h.2.2.1
  | case5 a b c d rest ih =>
      have h := unpackDeclaration_octet (code_lt a) (code_lt b) (code_lt c) (code_lt d)
      obtain rfl | rfl | rfl | rfl | ⟨w, rfl⟩ :
          v = 0 ∨ v = 1 ∨ v = 2 ∨ v = 3 ∨ ∃ w, v = w + 4 := by
        obtain hlt | hge := Nat.lt_or_ge v 4
        · omega
        · exact Or.inr (Or.inr (Or.inr (Or.inr ⟨v - 4, by omega⟩)))
      · exact h.1
      · exact h.2.1
      · exact h.2.2.1
      · exact h.2.2.2
      · have hw : w < rest.length := by simpa using hv
        have hplace : (w + 4) / 4 = w / 4 + 1 := by omega
        have hmod : (w + 4) % 4 = w % 4 := by omega
        rw [packDeclarations, hplace, List.getD_cons_succ]
        have hrest := ih w hw
        unfold unpackDeclaration at hrest ⊢
        rw [hmod, hrest]
        simp

/-! ### FirstValue -/

theorem length_firstValueBytes (attrType : MsrpAttrType) (fv : FirstValue attrType) :
    (firstValueBytes attrType fv).length = msrpFirstValueLen attrType := by
  cases attrType <;>
    simp [firstValueBytes, talkerAdvInfoBytes, msrpFirstValueLen, Octets.length_eq]

theorem flagOctet_toNat (priority : BitVec 3) (rank : BitVec 1) (reserved : BitVec 4) :
    (UInt8.ofNat (priority.toNat * 32 + rank.toNat * 16 + reserved.toNat)).toNat
      = priority.toNat * 32 + rank.toNat * 16 + reserved.toNat := by
  have hp := priority.isLt
  have hr := rank.isLt
  have hv := reserved.isLt
  rw [UInt8.toNat_ofNat']
  omega

/-- The bit fields come back out of the octet they share. -/
theorem flagOctet_fields (priority : BitVec 3) (rank : BitVec 1) (reserved : BitVec 4) :
    let bits := BitVec.ofNat 8 (priority.toNat * 32 + rank.toNat * 16 + reserved.toNat)
    bits.extractLsb' 0 4 = reserved ∧ bits.extractLsb' 4 1 = rank
      ∧ bits.extractLsb' 5 3 = priority := by
  have hp := priority.isLt
  have hr := rank.isLt
  have hv := reserved.isLt
  refine ⟨?_, ?_, ?_⟩ <;> apply BitVec.eq_of_toNat_eq <;>
    simp only [BitVec.extractLsb'_toNat, BitVec.toNat_ofNat, Nat.shiftRight_eq_div_pow] <;> omega

theorem readTalkerAdvInfo_append (info : TalkerAdvInfo) (rest : List UInt8) :
    readTalkerAdvInfo (talkerAdvInfoBytes info ++ rest) = info := by
  have hflags := flagOctet_fields info.priority info.rank info.reserved
  have hoctet := flagOctet_toNat info.priority info.rank info.reserved
  simp only [readTalkerAdvInfo, talkerAdvInfoBytes, octetAt, List.append_assoc]
  simp only [Octets.drop_append_of_le, Octets.getD_append_of_le, Nat.reduceLeDiff, Nat.reduceSub,
    List.drop_zero, Octets.read_append, List.cons_append, List.nil_append, List.getD_cons_zero,
    List.drop_succ_cons, hoctet]
  rw [hflags.1, hflags.2.1, hflags.2.2]

theorem length_talkerAdvInfoBytes (info : TalkerAdvInfo) : (talkerAdvInfoBytes info).length = 25 :=
  length_firstValueBytes .talkerAdvertise info

/-- The failure information behind a talker's FirstValue. -/
theorem read_failure (info : TalkerAdvInfo) (bridgeId : Octets 8) (code : UInt8)
    (rest : List UInt8) :
    let buf := talkerAdvInfoBytes info ++ (bridgeId.bytes ++ code :: rest)
    Octets.read 8 (buf.drop 25) = bridgeId ∧ buf.getD 33 0 = code := by
  have hdrop := Octets.drop_append_of_le (⟨talkerAdvInfoBytes info,
    length_talkerAdvInfoBytes info⟩ : Octets 25) (bridgeId.bytes ++ code :: rest) (Nat.le_refl 25)
  have hget := Octets.getD_append_of_le (⟨talkerAdvInfoBytes info,
    length_talkerAdvInfoBytes info⟩ : Octets 25) (bridgeId.bytes ++ code :: rest)
    (k := 33) (by norm_num) 0
  dsimp only at hdrop hget ⊢
  rw [hdrop, hget]
  constructor
  · exact Octets.read_append bridgeId (code :: rest)
  · rw [Octets.getD_append_of_le bridgeId (code :: rest) (by norm_num)]
    rfl

/-! ### One value -/

section Value

variable {attrType : MsrpAttrType}

theorem getD_append_length (pre l : List UInt8) (k : Nat) (d : UInt8) :
    (pre ++ l).getD (pre.length + k) d = l.getD k d := by
  rw [List.getD_append_right pre l d _ (Nat.le_add_right _ _), Nat.add_sub_cancel_left]

theorem drop_append_length (pre l : List UInt8) (k : Nat) :
    (pre ++ l).drop (pre.length + k) = l.drop k := by
  rw [List.drop_append, List.drop_eq_nil_of_le (Nat.le_add_right _ _), List.nil_append,
    Nat.add_sub_cancel_left]

/-- What follows the header of a vector. -/
def vectorBody (x : MsrpVector attrType) : List UInt8 :=
  firstValueBytes attrType x.firstValue ++ (packEvents (x.values.map (·.1))
    ++ (if attrType = .listener then packDeclarations (x.values.map (·.2)) else []))

theorem event_in_vector (x : MsrpVector attrType) (pre post : List UInt8) {v : Nat}
    (hv : v < x.values.length) :
    unpackEvent ((pre ++ (vectorBody x ++ post)).getD
        (pre.length + msrpFirstValueLen attrType + v / 3) 0) v = x.values[v].1.val := by
  have hlen := length_firstValueBytes attrType x.firstValue
  have hpack := length_packEvents (x.values.map (·.1))
  have hevents := unpackEvent_packEvents (x.values.map (·.1)) v (by simpa using hv)
  rw [List.length_map] at hpack
  rw [Nat.add_assoc, getD_append_length, vectorBody, List.append_assoc, ← hlen,
    getD_append_length, List.append_assoc, List.getD_append _ _ _ _ (by omega), hevents,
    List.getElem_map]

theorem declaration_in_vector (x : MsrpVector .listener) (pre post : List UInt8) {v : Nat}
    (hv : v < x.values.length) :
    unpackDeclaration ((pre ++ (vectorBody x ++ post)).getD
        (pre.length + msrpFirstValueLen .listener + (x.values.length + 2) / 3 + v / 4) 0) v
      = x.values[v].2.code := by
  have hlen := length_firstValueBytes .listener x.firstValue
  have hpack := length_packEvents (x.values.map (·.1))
  have hpack' := length_packDeclarations (x.values.map (·.2))
  have hdecls := unpackDeclaration_packDeclarations (x.values.map (·.2)) v (by simpa using hv)
  rw [List.length_map] at hpack hpack'
  rw [Nat.add_assoc, Nat.add_assoc, getD_append_length, vectorBody, List.append_assoc, ← hlen,
    getD_append_length, if_pos rfl, List.append_assoc, ← hpack, getD_append_length,
    List.getD_append _ _ _ _ (by omega), hdecls, List.getElem_map]

/-- The walk reads each value of a vector as the ideal decoder does. -/
theorem msrpRxValue_eq (x : MsrpVector attrType) (pre post : List UInt8) {v : Nat}
    (hv : v < x.values.length) :
    msrpRxValue (pre ++ (vectorBody x ++ post)) attrType pre.length x.values.length v
      = idealValue attrType x.firstValue v x.values[v] := by
  have hevent := event_in_vector x pre post hv
  have hdrop : (pre ++ (vectorBody x ++ post)).drop pre.length = vectorBody x ++ post := by
    rw [List.drop_left]
  simp only [msrpRxValue, hdrop]
  rw [unpackEvent] at hevent
  simp only [hevent]
  cases attrType with
  | talkerAdvertise =>
      simp only [vectorBody, firstValueBytes, List.append_assoc, readTalkerAdvInfo_append,
        msrpBeAdd_eq, idealValue]
      simp
  | talkerFailed =>
      obtain ⟨leaveAll, ⟨info, bridgeId, code⟩, values, hle, hmark⟩ := x
      have hbody : ∀ rest : List UInt8, vectorBody
          (⟨leaveAll, (info, bridgeId, code), values, hle, hmark⟩ : MsrpVector .talkerFailed) ++ rest
          = talkerAdvInfoBytes info ++ (bridgeId.bytes ++ code
            :: (packEvents (values.map (·.1)) ++ rest)) := by
        intro rest
        simp [vectorBody, firstValueBytes]
      have hfailure := read_failure info bridgeId code (packEvents (values.map (·.1)) ++ post)
      dsimp only at hfailure
      simp only [hbody, getD_append_length, hfailure, readTalkerAdvInfo_append, msrpBeAdd_eq,
        idealValue]
      simp
  | listener =>
      have hdecl := declaration_in_vector x pre post hv
      rw [unpackDeclaration] at hdecl
      simp only [octetAt, hdecl, ofCode_code]
      simp only [vectorBody, firstValueBytes, List.append_assoc, Octets.read_append, msrpBeAdd_eq,
        idealValue]
  | domain =>
      obtain ⟨leaveAll, ⟨classId, priority, vid⟩, values, hle, hmark⟩ := x
      obtain rfl | hpos := Nat.eq_zero_or_pos v
      · have hfirst : ∀ rest : List UInt8, (pre ++ rest).getD pre.length 0 = rest.getD 0 0 := by
          intro rest
          exact getD_append_length pre rest 0 0
        simp only [hfirst, getD_append_length, idealValue, vectorBody, firstValueBytes]
        simp
      · simp [hpos, idealValue, Nat.pos_iff_ne_zero.mp hpos]

/-! ### One vector -/

variable {σ : Type*} (dispatch : σ → MsrpDispatch → σ)

theorem msrpRxValues_eq (x : MsrpVector attrType) (pre post : List UInt8) (s : σ) :
    msrpRxValues dispatch (pre ++ (vectorBody x ++ post)) attrType pre.length x.values.length s
      = x.dispatches.foldl dispatch s := by
  rw [msrpRxValues, Nat.min_eq_left x.length_le, ← List.map_coe_finRange_eq_range, List.foldl_map,
    MsrpVector.dispatches, List.foldl_filterMap]
  congr 1
  funext s v
  rw [msrpRxValue_eq x pre post v.isLt, List.get_eq_getElem]
  cases idealValue attrType x.firstValue v x.values[v.val] <;> rfl

theorem octetAt_append_length (pre l : List UInt8) (k : Nat) :
    octetAt (pre ++ l) (pre.length + k) = octetAt l k := by
  rw [octetAt, getD_append_length, octetAt]

/-- A 16-bit field as the walk reads it. -/
theorem octetAt_octetsOf16 {k : Nat} (hk : k < 0x10000) (rest : List UInt8) :
    octetAt (octetsOf16 k ++ rest) 0 * 256 + octetAt (octetsOf16 k ++ rest) 1 = k := by
  have hbytes : octetsOf16 k = [UInt8.ofNat (k / 256 % 256), UInt8.ofNat (k % 256)] := rfl
  simp only [hbytes, octetAt, List.cons_append, List.getD_cons_zero, List.getD_cons_succ,
    UInt8.toNat_ofNat']
  omega

theorem length_octetsOf16 (k : Nat) : (octetsOf16 k).length = 2 := (Octets.ofNat 2 k).length_eq

theorem MsrpVector.header_lt (x : MsrpVector attrType) : x.header < 0x10000 := by
  have hle : x.values.length ≤ 64 := x.length_le
  unfold MsrpVector.header
  split <;> omega

/-- The header tells a vector from an EndMark, and holds its flag and its count. -/
theorem MsrpVector.header_fields (x : MsrpVector attrType) :
    x.header ≠ 0 ∧ (x.header / 0x2000 % 2 = 1 ↔ x.leaveAll = true)
      ∧ x.header % 0x2000 = x.values.length := by
  have hle : x.values.length ≤ 64 := x.length_le
  have hpos : x.leaveAll = true ∨ 0 < x.values.length := by
    obtain h | h := x.not_endMark
    · exact Or.inl h
    · exact Or.inr (List.length_pos_iff.mpr h)
  unfold MsrpVector.header
  cases hflag : x.leaveAll with
  | true =>
      simp only [if_true, iff_true]
      omega
  | false =>
      simp only [hflag, Bool.false_eq_true, false_or] at hpos
      simp only [Bool.false_eq_true, if_false, iff_false]
      omega

theorem MsrpVector.bytes_eq (x : MsrpVector attrType) :
    x.bytes = octetsOf16 x.header ++ vectorBody x := by
  simp [MsrpVector.bytes, vectorBody]

theorem MsrpVector.length_bytes (x : MsrpVector attrType) :
    x.bytes.length = msrpVectorLen attrType x.values.length := by
  rw [x.bytes_eq]
  simp only [vectorBody, List.length_append, length_octetsOf16, length_firstValueBytes,
    length_packEvents, List.length_map, msrpVectorLen]
  split
  · simp only [length_packDeclarations, List.length_map]
    omega
  · simp only [List.length_nil]
    omega

/-- The walk over one vector, and on to the next. -/
theorem msrpRxVectors_vector (lite : Bool) (x : MsrpVector attrType) (pre post : List UInt8)
    {listEnd : Nat} (hend : pre.length + x.bytes.length ≤ listEnd) (seen : List MsrpAttrType)
    (s : σ) :
    let fires : Bool := x.leaveAll ∧ lite = false ∧ attrType ∉ seen
    msrpRxVectors dispatch lite (pre ++ (x.bytes ++ post)) attrType listEnd pre.length seen s
      = msrpRxVectors dispatch lite (pre ++ (x.bytes ++ post)) attrType listEnd
          (pre ++ x.bytes).length (if fires then attrType :: seen else seen)
          (x.dispatches.foldl dispatch (if fires then dispatch s (.leaveAll attrType) else s)) := by
  dsimp only
  have hlen := x.length_bytes
  have htwo := two_le_msrpVectorLen attrType x.values.length
  obtain ⟨hmark, hflag, hcount⟩ := x.header_fields
  have hheader : octetAt (pre ++ (x.bytes ++ post)) pre.length * 256
      + octetAt (pre ++ (x.bytes ++ post)) (pre.length + 1) = x.header := by
    have h0 := octetAt_append_length pre (x.bytes ++ post) 0
    rw [Nat.add_zero] at h0
    rw [h0, octetAt_append_length, x.bytes_eq, List.append_assoc]
    exact octetAt_octetsOf16 x.header_lt _
  have hvalues : ∀ s : σ, msrpRxValues dispatch (pre ++ (x.bytes ++ post)) attrType
      (pre.length + 2) x.values.length s = x.dispatches.foldl dispatch s := by
    intro s
    have h := msrpRxValues_eq dispatch x (pre ++ octetsOf16 x.header) post s
    rw [List.length_append, length_octetsOf16] at h
    rw [← h, x.bytes_eq]
    simp only [List.append_assoc]
  have hempty : x.values.length = 0 → ∀ s : σ, x.dispatches.foldl dispatch s = s := by
    intro hzero s
    rw [← hvalues s, hzero]
    rfl
  rw [msrpRxVectors]
  simp only [hheader, hmark, hflag, hcount, if_false]
  rw [if_pos (by omega), if_neg (by omega), List.length_append, hlen]
  by_cases hzero : x.values.length = 0
  · rw [if_pos hzero, hempty hzero]
  · rw [if_neg hzero, hvalues]

/-- The EndMark ends a list of vectors. -/
theorem msrpRxVectors_endMark (lite : Bool) (pre post : List UInt8) (listEnd : Nat)
    (seen : List MsrpAttrType) (s : σ) :
    msrpRxVectors dispatch lite (pre ++ (0 :: 0 :: post)) attrType listEnd pre.length seen s
      = (seen, s) := by
  have h0 := octetAt_append_length pre (0 :: 0 :: post) 0
  have h1 := octetAt_append_length pre (0 :: 0 :: post) 1
  rw [Nat.add_zero] at h0
  have hmark : octetAt (pre ++ (0 :: 0 :: post)) pre.length * 256
      + octetAt (pre ++ (0 :: 0 :: post)) (pre.length + 1) = 0 := by
    rw [h0, h1]
    simp [octetAt]
  rw [msrpRxVectors]
  simp only [hmark, if_true]
  split <;> rfl

/-- The walk over the vectors of one message does what the ideal decoder reads from them, and leaves
the rest of the MRPDU with the LeaveAlls seen so far. -/
theorem msrpRxVectors_eq (lite : Bool) (vectors : List (MsrpVector attrType)) (pre post : List UInt8)
    (rest : List (Σ attrType, MsrpVector attrType)) (seen : List MsrpAttrType) (s : σ) :
    let walked := msrpRxVectors dispatch lite (pre ++ (vectorsBytes vectors ++ (0 :: 0 :: post)))
      attrType (pre.length + (vectorsBytes vectors).length + 2) pre.length seen s
    (idealDecode (!lite) (vectors.map (fun x => ⟨attrType, x⟩) ++ rest) seen).foldl dispatch s
      = (idealDecode (!lite) rest walked.1).foldl dispatch walked.2 := by
  induction vectors generalizing pre seen s with
  | nil =>
      simp only [vectorsBytes, List.map_nil, List.flatten_nil, List.nil_append,
        msrpRxVectors_endMark]
  | cons x vectors ih =>
      have hbytes : vectorsBytes (x :: vectors) = x.bytes ++ vectorsBytes vectors := by
        simp [vectorsBytes]
      have hsplit : pre ++ (vectorsBytes (x :: vectors) ++ (0 :: 0 :: post))
          = pre ++ (x.bytes ++ (vectorsBytes vectors ++ (0 :: 0 :: post))) := by
        rw [hbytes, List.append_assoc]
      have hshift : pre ++ (x.bytes ++ (vectorsBytes vectors ++ (0 :: 0 :: post)))
          = (pre ++ x.bytes) ++ (vectorsBytes vectors ++ (0 :: 0 :: post)) := by
        rw [List.append_assoc]
      have hend : pre.length + (vectorsBytes (x :: vectors)).length + 2
          = (pre ++ x.bytes).length + (vectorsBytes vectors).length + 2 := by
        rw [hbytes, List.length_append, List.length_append]
        omega
      have hfires : (!lite) = true ∧ x.leaveAll = true ∧ attrType ∉ seen
          ↔ x.leaveAll = true ∧ lite = false ∧ attrType ∉ seen := by
        cases lite <;> simp
      dsimp only
      rw [hsplit, msrpRxVectors_vector dispatch lite x pre _ (by rw [hend]; simp; omega), hshift,
        hend, ← ih]
      simp only [List.map_cons, List.cons_append, idealDecode, hfires, decide_eq_true_eq]
      split <;> simp [List.foldl_append]

end Value

/-! ### Messages and the MRPDU -/

section Walk

variable {σ : Type*} (dispatch : σ → MsrpDispatch → σ)

theorem msrpRxMessages_zeros (lite : Bool) (pre : List UInt8) (zeros : Nat)
    (seen : List MsrpAttrType) (s : σ) :
    msrpRxMessages dispatch lite (pre ++ List.replicate zeros 0) pre.length seen s = s := by
  have h0 := octetAt_append_length pre (List.replicate zeros 0) 0
  have hzero : octetAt (pre ++ List.replicate zeros 0) pre.length = 0 := by
    rw [Nat.add_zero] at h0
    rw [h0, octetAt]
    cases zeros <;> rfl
  rw [msrpRxMessages]
  simp only [hzero, if_true]
  split <;> rfl

theorem ofCode_attrType (attrType : MsrpAttrType) :
    MsrpAttrType.ofCode attrType.code = some attrType ∧ attrType.code ≠ 0 ∧ attrType.code < 256 := by
  cases attrType <;> decide

theorem ofCode_unknown {code : Nat} (h : 4 < code) : MsrpAttrType.ofCode code = none := by
  unfold MsrpAttrType.ofCode
  split <;> first | omega | rfl

/-- The header of a message at the end of a prefix: type, an ignored length, the list's length. -/
theorem msrpRxMessages_header (lite : Bool) (pre : List UInt8) (code attrLen : UInt8)
    (body rest : List UInt8) (hcode : code.toNat ≠ 0) (hbody : body.length < 0x10000)
    (seen : List MsrpAttrType) (s : σ) :
    let raw := pre ++ ([code, attrLen] ++ octetsOf16 body.length ++ body ++ rest)
    msrpRxMessages dispatch lite raw pre.length seen s
      = match MsrpAttrType.ofCode code.toNat with
        | none => msrpRxMessages dispatch lite raw (pre.length + 4 + body.length) seen s
        | some attrType =>
            let walked := msrpRxVectors dispatch lite raw attrType (pre.length + 4 + body.length)
              (pre.length + 4) seen s
            msrpRxMessages dispatch lite raw (pre.length + 4 + body.length) walked.1 walked.2 := by
  dsimp only
  have hraw : ∀ k, octetAt (pre ++ ([code, attrLen] ++ octetsOf16 body.length ++ body ++ rest))
      (pre.length + k) = octetAt ([code, attrLen] ++ (octetsOf16 body.length ++ (body ++ rest))) k := by
    intro k
    rw [octetAt_append_length]
    simp only [List.append_assoc]
  have htype := hraw 0
  rw [Nat.add_zero] at htype
  have hlist : octetAt (pre ++ ([code, attrLen] ++ octetsOf16 body.length ++ body ++ rest))
        (pre.length + 2) * 256
      + octetAt (pre ++ ([code, attrLen] ++ octetsOf16 body.length ++ body ++ rest))
        (pre.length + 3) = body.length := by
    rw [hraw 2, hraw 3]
    exact octetAt_octetsOf16 hbody (body ++ rest)
  have hlen : (pre ++ ([code, attrLen] ++ octetsOf16 body.length ++ body ++ rest)).length
      = pre.length + (4 + body.length + rest.length) := by
    simp only [List.length_append, length_octetsOf16, List.length_cons, List.length_nil]
  have hfirst : octetAt ([code, attrLen] ++ (octetsOf16 body.length ++ (body ++ rest))) 0
      = code.toNat := rfl
  rw [msrpRxMessages]
  simp only [hlist, htype, hfirst, hlen]
  refine (if_pos (by omega)).trans ((if_neg hcode).trans ((if_neg (by omega)).trans ?_))
  cases MsrpAttrType.ofCode code.toNat <;> rfl

theorem msrpRxMessages_eq (lite : Bool) (messages : List MsrpduMessage) (pre : List UInt8)
    (zeros : Nat) (hfits : (messagesBytes messages).length < 0x10000) (seen : List MsrpAttrType)
    (s : σ) :
    msrpRxMessages dispatch lite (pre ++ (messagesBytes messages ++ List.replicate zeros 0))
        pre.length seen s
      = (idealDecode (!lite) (messages.map MsrpduMessage.vectors).flatten seen).foldl dispatch s := by
  induction messages generalizing pre seen s with
  | nil => exact msrpRxMessages_zeros dispatch lite pre zeros seen s
  | cons message messages ih =>
      have hbytes : messagesBytes (message :: messages)
          = message.bytes ++ messagesBytes messages := by
        simp [messagesBytes]
      rw [hbytes, List.length_append] at hfits
      have hstep : ∀ seen s, msrpRxMessages dispatch lite
          (pre ++ (message.bytes ++ (messagesBytes messages ++ List.replicate zeros 0)))
          (pre.length + message.bytes.length) seen s
            = (idealDecode (!lite) (messages.map MsrpduMessage.vectors).flatten seen).foldl
                dispatch s := by
        intro seen s
        have h := ih (pre ++ message.bytes) (by omega) seen s
        rwa [List.append_assoc, List.length_append] at h
      rw [hbytes, List.append_assoc, List.map_cons, List.flatten_cons]
      cases message with
      | unknown code attrLen body hunknown =>
          have hlen : (MsrpduMessage.unknown code attrLen body hunknown).bytes.length
              = 4 + body.length := by
            simp only [MsrpduMessage.bytes, List.length_append, length_octetsOf16, List.length_cons,
              List.length_nil]
          rw [hlen, ← Nat.add_assoc] at hstep
          have hheader := msrpRxMessages_header dispatch lite pre code attrLen body
            (messagesBytes messages ++ List.replicate zeros 0) (by omega) (by omega) seen s
          rw [ofCode_unknown hunknown] at hheader
          exact hheader.trans (hstep seen s)
      | known attrType vectors =>
          obtain ⟨hcode, hne, hlt⟩ := ofCode_attrType attrType
          have hoctet : (UInt8.ofNat attrType.code).toNat = attrType.code :=
            Nat.mod_eq_of_lt hlt
          set body : List UInt8 := vectorsBytes vectors ++ [0, 0] with hbody
          have hmessage : (MsrpduMessage.known attrType vectors).bytes
              = [UInt8.ofNat attrType.code, UInt8.ofNat (msrpFirstValueLen attrType)]
                ++ octetsOf16 body.length ++ body := by
            simp [MsrpduMessage.bytes, hbody]
          have hlen : (MsrpduMessage.known attrType vectors).bytes.length = 4 + body.length := by
            rw [hmessage]
            simp only [List.length_append, length_octetsOf16, List.length_cons, List.length_nil]
          rw [hlen, ← Nat.add_assoc, hmessage] at hstep
          have hheader := msrpRxMessages_header dispatch lite pre
            (UInt8.ofNat attrType.code) (UInt8.ofNat (msrpFirstValueLen attrType)) body
            (messagesBytes messages ++ List.replicate zeros 0) (by omega) (by omega) seen s
          rw [hoctet, hcode] at hheader
          rw [hmessage]
          refine hheader.trans ?_
          dsimp only
          rw [hstep]
          -- the walk over the vectors starts behind the header of the message
          have hvectors := msrpRxVectors_eq dispatch lite vectors
            (pre ++ ([UInt8.ofNat attrType.code, UInt8.ofNat (msrpFirstValueLen attrType)]
              ++ octetsOf16 body.length))
            (messagesBytes messages ++ List.replicate zeros 0)
            (messages.map MsrpduMessage.vectors).flatten seen s
          have hstart : (pre ++ ([UInt8.ofNat attrType.code,
              UInt8.ofNat (msrpFirstValueLen attrType)] ++ octetsOf16 body.length)).length
                = pre.length + 4 := by
            simp only [List.length_append, length_octetsOf16, List.length_cons, List.length_nil]
          have hlist : body.length = (vectorsBytes vectors).length + 2 := by
            simp [hbody]
          have hraw : pre ++ ([UInt8.ofNat attrType.code,
                UInt8.ofNat (msrpFirstValueLen attrType)] ++ octetsOf16 body.length)
              ++ (vectorsBytes vectors ++ (0 :: 0 :: (messagesBytes messages
                ++ List.replicate zeros 0)))
              = pre ++ ([UInt8.ofNat attrType.code, UInt8.ofNat (msrpFirstValueLen attrType)]
                ++ octetsOf16 body.length ++ body ++ (messagesBytes messages
                ++ List.replicate zeros 0)) := by
            simp only [hbody, List.append_assoc, List.cons_append, List.nil_append]
          dsimp only at hvectors
          rw [hraw, hstart, Nat.add_assoc _ (vectorsBytes vectors).length 2, ← hlist] at hvectors
          exact hvectors.symm

/-- The walk over an MRPDU hands on what the ideal decoder reads from it, outside AVB Lite with its
LeaveAlls and in AVB Lite without. -/
theorem mrpRxWalk_eq (lite : Bool) (pdu : Msrpdu) (s : σ) :
    mrpRxWalk dispatch lite pdu.bytes s
      = (idealDecode (!lite) pdu.vectors []).foldl dispatch s := by
  have hfits := pdu.fits
  have hmax : avbMaxMsgLen < 0x10000 := by decide
  have htake : (messagesBytes pdu.messages ++ List.replicate pdu.zeros 0).take (avbMaxMsgLen - 1)
      = messagesBytes pdu.messages ++ List.replicate pdu.zeros 0 := by
    apply List.take_of_length_le
    rw [List.length_append, List.length_replicate]
    omega
  rw [mrpRxWalk, Msrpdu.bytes, List.drop_one, List.tail_cons, htake]
  exact msrpRxMessages_eq dispatch lite pdu.messages [] pdu.zeros (by omega) [] s

end Walk

/-! ### The walk as a run -/

section Trace

variable {σ τ : Type*} {dispatch : τ → MsrpDispatch → τ} {dispatch' : σ → MsrpDispatch → σ}
  {h : τ → σ}

/-- What the walk may hand on in a mode. -/
def handedOn (lite : Bool) (d : MsrpDispatch) : Prop := lite = true → d.isValue = true

theorem handedOn_msrpRxValue {raw : List UInt8} {attrType : MsrpAttrType} {fv numVals v : Nat}
    {d : MsrpDispatch} (hd : msrpRxValue raw attrType fv numVals v = some d) (lite : Bool) :
    handedOn lite d := by
  intro _
  cases attrType with
  | domain =>
      simp only [msrpRxValue] at hd
      split at hd <;> cases hd
      rfl
  | _ =>
      simp only [msrpRxValue] at hd
      cases hd
      rfl

/-- What the walk hands on does not depend on the handler: a map between two handlers' states that
commutes with them commutes with the walk. -/
theorem msrpRxVectors_map {lite : Bool}
    (hh : ∀ s d, handedOn lite d → h (dispatch s d) = dispatch' (h s) d)
    (raw : List UInt8) (attrType : MsrpAttrType) (listEnd voff : Nat) (seen : List MsrpAttrType)
    (s : τ) :
    msrpRxVectors dispatch' lite raw attrType listEnd voff seen (h s)
      = ((msrpRxVectors dispatch lite raw attrType listEnd voff seen s).1,
        h (msrpRxVectors dispatch lite raw attrType listEnd voff seen s).2) := by
  have hvalues : ∀ fv numVals (s : τ), msrpRxValues dispatch' raw attrType fv numVals (h s)
      = h (msrpRxValues dispatch raw attrType fv numVals s) := by
    intro fv numVals s
    unfold msrpRxValues
    induction List.range (min numVals msrpRxMaxValues) generalizing s with
    | nil => rfl
    | cons v rest ih =>
        rw [List.foldl_cons, List.foldl_cons, ← ih]
        cases hd : msrpRxValue raw attrType fv numVals v with
        | none => rfl
        | some d => simp only [hh _ d (handedOn_msrpRxValue hd lite)]
  induction voff, seen, s using msrpRxVectors.induct dispatch lite raw attrType listEnd with
  | case1 voff seen s hroom vh hmark =>
      rw [msrpRxVectors, msrpRxVectors, if_pos hroom, if_pos hroom]
      simp only [vh] at hmark
      simp only [hmark, if_true]
  | case2 voff seen s hroom vh hmark numVals vecLen hshort =>
      rw [msrpRxVectors, msrpRxVectors, if_pos hroom, if_pos hroom]
      simp only [vh, numVals, vecLen] at hmark hshort
      simp only [hmark, hshort, if_true, if_false]
  | case3 voff seen s hroom vh hmark leaveall numVals vecLen hfits fires s1 seen1 s2 ih =>
      rw [msrpRxVectors, msrpRxVectors, if_pos hroom, if_pos hroom]
      simp only [vh, numVals, vecLen] at hmark hfits
      simp only [hmark, hfits, if_false]
      have hnext : h s2
          = if numVals = 0 then (if fires then dispatch' (h s) (.leaveAll attrType) else h s)
            else msrpRxValues dispatch' raw attrType (voff + 2) numVals
              (if fires then dispatch' (h s) (.leaveAll attrType) else h s) := by
        have hfirst : h s1 = if fires then dispatch' (h s) (.leaveAll attrType) else h s := by
          by_cases hfires : fires = true
          · have hon : handedOn lite (.leaveAll attrType) := by
              intro hlite
              simp [fires, hlite] at hfires
            simp only [s1, dite_eq_ite, if_pos hfires, hh s _ hon]
          · simp only [s1, dite_eq_ite, if_neg hfires]
        simp only [s2, dite_eq_ite, apply_ite h, ← hfirst, hvalues]
      rw [hnext] at ih
      simp only [s2, s1, seen1, dite_eq_ite] at ih
      exact ih
  | case4 voff seen s hroom =>
      rw [msrpRxVectors, msrpRxVectors, if_neg hroom, if_neg hroom]

theorem msrpRxMessages_map {lite : Bool}
    (hh : ∀ s d, handedOn lite d → h (dispatch s d) = dispatch' (h s) d) (raw : List UInt8) (offset : Nat) (seen : List MsrpAttrType) (s : τ) :
    msrpRxMessages dispatch' lite raw offset seen (h s)
      = h (msrpRxMessages dispatch lite raw offset seen s) := by
  induction offset, seen, s using msrpRxMessages.induct dispatch lite raw with
  | case1 offset seen s hroom hend =>
      rw [msrpRxMessages, msrpRxMessages, if_pos hroom, if_pos hroom, if_pos hend, if_pos hend]
  | case2 offset seen s hroom hmore listLen listEnd hshort =>
      rw [msrpRxMessages, msrpRxMessages, if_pos hroom, if_pos hroom, if_neg hmore, if_neg hmore]
      simp only [listLen, listEnd] at hshort
      simp only [hshort, if_true]
  | case3 offset seen s hroom hmore listLen listEnd hfits hunknown ih =>
      rw [msrpRxMessages, msrpRxMessages, if_pos hroom, if_pos hroom, if_neg hmore, if_neg hmore]
      simp only [listLen, listEnd] at hfits
      simp only [hfits, hunknown, if_false]
      exact ih
  | case4 offset seen s hroom hmore listLen listEnd hfits attrType hknown seen1 s1 hwalked ih =>
      rw [msrpRxMessages, msrpRxMessages, if_pos hroom, if_pos hroom, if_neg hmore, if_neg hmore]
      simp only [listLen, listEnd] at hfits
      simp only [hfits, hknown, if_false]
      simp only [listEnd, listLen] at hwalked
      rw [msrpRxVectors_map hh, hwalked]
      exact ih
  | case5 offset seen s hroom =>
      rw [msrpRxMessages, msrpRxMessages, if_neg hroom, if_neg hroom]

/-- The handler that only writes down what it is handed. -/
def dispatchTrace (trace : List MsrpDispatch) (d : MsrpDispatch) : List MsrpDispatch := trace ++ [d]

/-- What every handed-on dispatch keeps, the walk keeps, whatever the octets. -/
theorem mrpRxWalk_invariant (Inv : σ → Prop) {lite : Bool}
    (hstep : ∀ s d, handedOn lite d → Inv s → Inv (dispatch' s d)) (pdu : List UInt8) {s : σ}
    (hs : Inv s) : Inv (mrpRxWalk dispatch' lite pdu s) := by
  classical
  let step (s : { s : σ // Inv s }) (d : MsrpDispatch) : { s : σ // Inv s } :=
    if hd : handedOn lite d then ⟨dispatch' s.val d, hstep s.val d hd s.property⟩ else s
  have hmap := @msrpRxMessages_map σ { s : σ // Inv s } step dispatch' Subtype.val lite
    (fun s d hd => by simp only [step, dif_pos hd]) ((pdu.drop 1).take (avbMaxMsgLen - 1)) 0 [] ⟨s, hs⟩
  rw [mrpRxWalk, hmap]
  exact Subtype.property _

/-- In AVB Lite the walk hands on no LeaveAll. -/
theorem mrpRxWalk_handedOn (lite : Bool) (pdu : List UInt8) :
    ∀ d ∈ mrpRxWalk dispatchTrace lite pdu [], handedOn lite d := by
  apply mrpRxWalk_invariant fun trace => ∀ d ∈ trace, handedOn lite d
  · intro trace d hd htrace d' hd'
    obtain hmem | hmem := List.mem_append.mp hd'
    · exact htrace d' hmem
    · rwa [List.mem_singleton.mp hmem]
  · intro d hd
    cases hd

end Trace

/-! ### LeaveAll once for each type -/

theorem leaveAll_not_mem_dispatches {attrType : MsrpAttrType} (x : MsrpVector attrType)
    (ty : MsrpAttrType) : .leaveAll ty ∉ x.dispatches := by
  intro hmem
  rw [MsrpVector.dispatches, List.mem_filterMap] at hmem
  obtain ⟨v, -, hv⟩ := hmem
  cases attrType with
  | domain =>
      rw [idealValue] at hv
      split at hv <;> cases hv
  | _ => cases hv

/-- The ideal decoder hands on the LeaveAll of a type once where a vector carries it. -/
theorem count_leaveAll_idealDecode (leaveAlls : Bool)
    (vectors : List (Σ attrType, MsrpVector attrType)) (ty : MsrpAttrType)
    (seen : List MsrpAttrType) :
    (idealDecode leaveAlls vectors seen).count (.leaveAll ty)
      = if leaveAlls ∧ ty ∉ seen ∧ ∃ x ∈ vectors, x.1 = ty ∧ x.2.leaveAll then 1 else 0 := by
  induction vectors generalizing seen with
  | nil => simp [idealDecode]
  | cons y rest ih =>
      obtain ⟨attrType, x⟩ := y
      have hvalues : x.dispatches.count (.leaveAll ty) = 0 :=
        List.count_eq_zero_of_not_mem (leaveAll_not_mem_dispatches x ty)
      rw [idealDecode]
      by_cases hfires : leaveAlls = true ∧ x.leaveAll = true ∧ attrType ∉ seen
      · rw [if_pos hfires, List.cons_append, List.count_cons, List.count_append, hvalues, ih]
        obtain ⟨hon, hflag, hnew⟩ := hfires
        by_cases hty : attrType = ty
        · subst hty
          simp [hon, hflag, hnew]
        · have hother : ty ∉ attrType :: seen ↔ ty ∉ seen := by
            simp [Ne.symm hty]
          have hmem : (∃ y ∈ (⟨attrType, x⟩ :: rest : List (Σ attrType, MsrpVector attrType)),
              y.1 = ty ∧ y.2.leaveAll = true) ↔ ∃ x ∈ rest, x.1 = ty ∧ x.2.leaveAll = true := by
            simp [hty]
          simp only [hother, hmem]
          simp [hty]
      · rw [if_neg hfires, List.count_append, hvalues, ih, Nat.zero_add]
        have hhead : leaveAlls = true ∧ ty ∉ seen → ¬(attrType = ty ∧ x.leaveAll = true) := by
          rintro ⟨hon, hnew⟩ ⟨rfl, hflag⟩
          exact hfires ⟨hon, hflag, hnew⟩
        have hmem : (leaveAlls = true ∧ ty ∉ seen ∧ ∃ x ∈ rest, x.1 = ty ∧ x.2.leaveAll = true)
            ↔ (leaveAlls = true ∧ ty ∉ seen
              ∧ ∃ y ∈ (⟨attrType, x⟩ :: rest : List (Σ attrType, MsrpVector attrType)),
                y.1 = ty ∧ y.2.leaveAll = true) := by
          simp only [List.exists_mem_cons_iff]
          tauto
        simp only [hmem]

/-- Its values are those of the vectors, in order. -/
theorem values_idealDecode (leaveAlls : Bool) (vectors : List (Σ attrType, MsrpVector attrType))
    (seen : List MsrpAttrType) :
    (idealDecode leaveAlls vectors seen).filter MsrpDispatch.isValue
      = (vectors.map fun x => x.2.dispatches).flatten := by
  have hkeep : ∀ (x : Σ attrType, MsrpVector attrType),
      x.2.dispatches.filter MsrpDispatch.isValue = x.2.dispatches := by
    intro x
    rw [List.filter_eq_self]
    intro d hd
    cases d with
    | leaveAll ty => exact absurd hd (leaveAll_not_mem_dispatches x.2 ty)
    | _ => rfl
  induction vectors generalizing seen with
  | nil => rfl
  | cons x rest ih =>
      rw [idealDecode]
      split
      · simp [List.filter_append, hkeep, ih, MsrpDispatch.isValue]
      · simp [List.filter_append, hkeep, ih]

/-! ### Receiving undoes encoding -/

theorem foldl_dispatchTrace (ds trace : List MsrpDispatch) :
    ds.foldl dispatchTrace trace = trace ++ ds := by
  induction ds generalizing trace with
  | nil => simp
  | cons d ds ih =>
      rw [List.foldl_cons, ih, dispatchTrace, List.append_assoc, List.singleton_append]

/-- Receiving an MRPDU hands on what the ideal decoder reads: outside AVB Lite each type's LeaveAll
once where a vector carries it, in AVB Lite none, and in between the values of the vectors in order. -/
theorem mrpRxMsrp_decodes {cfg : Config} (s : AvbState cfg) (p : cfg.Port)
    (srcAddr : Option EthAddr) (pdu : Msrpdu) :
    let decoded := idealDecode (!s.avbLite) pdu.vectors []
    mrpRxWalk dispatchTrace s.avbLite pdu.bytes [] = decoded
      ∧ mrpRxMsrp s p pdu.bytes srcAddr = decoded.foldl (msrpDispatch p srcAddr) s
      ∧ decoded.filter MsrpDispatch.isValue = (pdu.vectors.map fun x => x.2.dispatches).flatten
      ∧ ∀ ty, decoded.count (.leaveAll ty)
          = if s.avbLite = false ∧ ∃ x ∈ pdu.vectors, x.1 = ty ∧ x.2.leaveAll then 1 else 0 := by
  refine ⟨?_, ?_, ?_, ?_⟩
  · rw [mrpRxWalk_eq, foldl_dispatchTrace, List.nil_append]
  · exact mrpRxWalk_eq (msrpDispatch p srcAddr) s.avbLite pdu s
  · exact values_idealDecode _ pdu.vectors []
  · intro ty
    rw [count_leaveAll_idealDecode]
    refine if_congr ?_ rfl rfl
    simp

/-- A pure LeaveAll for Listeners. -/
def listenerLeaveAllPdu : Msrpdu :=
  { protocolVersion := 0
    messages := [.known .listener
      [{ leaveAll := true, firstValue := .zero 8, values := [], length_le := by decide,
         not_endMark := Or.inl rfl }]]
    zeros := 2
    fits := by decide }

/-- In AVB Lite the LeaveAll of an MRPDU is not handed on. -/
theorem lite_drops_leaveAll :
    mrpRxWalk dispatchTrace true listenerLeaveAllPdu.bytes [] = []
      ∧ idealDecode true listenerLeaveAllPdu.vectors [] = [.leaveAll .listener] := by
  constructor
  · rw [mrpRxWalk_eq]
    rfl
  · rfl

end EspAvb
