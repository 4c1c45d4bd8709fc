import EspAvb.Cvu
import EspAvb.Proof.Receive

/-!
# The CVU transport is native MSRP

The envelope drops the EndMark of the attribute and puts it back as zeros, and the walk over an MRPDU
reads nothing but zeros past the attribute in either form. What comes out of an arbitrary CVU message
is one message of one attribute type, and the walk over it hands on that type only.
-/

namespace EspAvb

/-! ## Zeros behind an MRPDU -/

variable {raw : List UInt8}

theorem getD_zeros (raw : List UInt8) (zeros i : Nat) :
    (raw ++ List.replicate zeros 0).getD i 0 = raw.getD i 0 := by
  rw [List.getD_eq_getElem?_getD, List.getD_eq_getElem?_getD]
  by_cases h : i < raw.length
  · rw [List.getElem?_append_left h]
  · rw [List.getElem?_append_right (Nat.not_lt.mp h), List.getElem?_replicate,
      List.getElem?_eq_none (Nat.not_lt.mp h)]
    split <;> rfl

theorem octetAt_zeros (raw : List UInt8) (zeros i : Nat) :
    octetAt (raw ++ List.replicate zeros 0) i = octetAt raw i := by
  rw [octetAt, getD_zeros, octetAt]

/-- A field is the octets at its place, as far as there are any. -/
theorem read_bytes (n : Nat) (buf : List UInt8) :
    (Octets.read n buf).bytes = (List.range n).map fun i => buf.getD i 0 := by
  apply List.ext_getElem
  · simp [(Octets.read n buf).length_eq]
  · intro i hi _
    rw [(Octets.read n buf).length_eq] at hi
    simp only [Octets.read, List.getElem_take, List.getElem_map, List.getElem_range]
    rw [List.getD_eq_getElem?_getD]
    by_cases h : i < buf.length
    · rw [List.getElem_append_left h, List.getElem?_eq_getElem h]
      rfl
    · rw [List.getElem_append_right (Nat.not_lt.mp h), List.getElem_replicate,
        List.getElem?_eq_none (Nat.not_lt.mp h)]
      rfl

/-- Two buffers with the same octets read the same. -/
theorem read_congr {buf buf' : List UInt8} (h : ∀ i, buf'.getD i 0 = buf.getD i 0) (n : Nat) :
    Octets.read n buf' = Octets.read n buf := by
  ext1
  rw [read_bytes, read_bytes]
  exact List.map_congr_left fun i _ => h i

theorem getD_drop_congr {buf buf' : List UInt8} (h : ∀ i, buf'.getD i 0 = buf.getD i 0) (k i : Nat) :
    (buf'.drop k).getD i 0 = (buf.drop k).getD i 0 := by
  have hdrop : ∀ l : List UInt8, (l.drop k).getD i 0 = l.getD (k + i) 0 := by
    intro l
    rw [List.getD_eq_getElem?_getD, List.getElem?_drop, List.getD_eq_getElem?_getD]
  rw [hdrop, hdrop]
  exact h (k + i)

theorem readTalkerAdvInfo_congr {buf buf' : List UInt8} (h : ∀ i, buf'.getD i 0 = buf.getD i 0) :
    readTalkerAdvInfo buf' = readTalkerAdvInfo buf := by
  have hdrop := fun k n => read_congr (getD_drop_congr h k) n
  have hoctet : octetAt buf' 20 = octetAt buf 20 := by rw [octetAt, h, octetAt]
  rw [readTalkerAdvInfo, readTalkerAdvInfo, hoctet, read_congr h]
  simp only [hdrop]

theorem msrpRxValue_congr {raw' : List UInt8} (h : ∀ i, raw'.getD i 0 = raw.getD i 0)
    (attrType : MsrpAttrType) (fv numVals v : Nat) :
    msrpRxValue raw' attrType fv numVals v = msrpRxValue raw attrType fv numVals v := by
  have hfields := fun k n => read_congr (getD_drop_congr (getD_drop_congr h fv) k) n
  have hfirst := fun n => read_congr (getD_drop_congr h fv) n
  have hinfo := readTalkerAdvInfo_congr (getD_drop_congr h fv)
  cases attrType <;> simp only [msrpRxValue, h, hfields, hfirst, hinfo, octetAt]

section Walk

variable {σ : Type*} {dispatch : σ → MsrpDispatch → σ}

theorem msrpRxVectors_congr {raw' : List UInt8} (h : ∀ i, raw'.getD i 0 = raw.getD i 0)
    (lite : Bool) (attrType : MsrpAttrType) (listEnd voff : Nat) (seen : List MsrpAttrType) (s : σ) :
    msrpRxVectors dispatch lite raw' attrType listEnd voff seen s =
      msrpRxVectors dispatch lite raw attrType listEnd voff seen s := by
  have hoctet : ∀ i, octetAt raw' i = octetAt raw i := fun i => by rw [octetAt, h, octetAt]
  have hvalues : ∀ fv numVals, msrpRxValues dispatch raw' attrType fv numVals =
      msrpRxValues dispatch raw attrType fv numVals := by
    intro fv numVals
    funext s
    simp only [msrpRxValues, msrpRxValue_congr h]
  induction voff, seen, s using msrpRxVectors.induct dispatch lite raw attrType listEnd with
  | case1 voff seen s hroom vh hmark =>
      simp only [vh] at hmark
      rw [msrpRxVectors, msrpRxVectors, if_pos hroom, if_pos hroom]
      simp only [hoctet, hmark, if_true]
  | case2 voff seen s hroom vh hmark numVals vecLen hshort =>
      simp only [vh, numVals, vecLen] at hmark hshort
      rw [msrpRxVectors, msrpRxVectors, if_pos hroom, if_pos hroom]
      simp only [hoctet, hmark, hshort, if_true, if_false]
  | case3 voff seen s hroom vh hmark leaveall numVals vecLen hfits fires s1 seen1 s2 ih =>
      simp only [vh, numVals, vecLen] at hmark hfits
      rw [msrpRxVectors, msrpRxVectors, if_pos hroom, if_pos hroom]
      simp only [hoctet, hvalues, hmark, hfits, if_false]
      exact ih
  | case4 voff seen s hroom =>
      rw [msrpRxVectors, msrpRxVectors, if_neg hroom, if_neg hroom]

/-- One message fills the octets before the zeros: the walk reads its vectors and stops. -/
theorem msrpRxMessages_single (lite : Bool) {attrType : MsrpAttrType} (zeros : Nat) (s : σ)
    (htype : MsrpAttrType.ofCode (octetAt raw 0) = some attrType)
    (hlength : raw.length = octetAt raw 2 * 256 + octetAt raw 3 + 4) :
    msrpRxMessages dispatch lite (raw ++ List.replicate zeros 0) 0 [] s =
      (msrpRxVectors dispatch lite raw attrType raw.length 4 [] s).2 := by
  have hcode : octetAt raw 0 ≠ 0 := by
    intro hzero
    rw [hzero] at htype
    cases htype
  have hend : 0 + 4 + (octetAt raw 2 * 256 + octetAt raw 3) = raw.length := by omega
  rw [msrpRxMessages]
  simp only [octetAt_zeros, Nat.zero_add, List.length_append, List.length_replicate]
  rw [if_pos (by omega), if_neg hcode, if_neg (by omega), htype]
  simp only [Nat.zero_add] at hend
  simp only [hend, msrpRxVectors_congr (getD_zeros raw zeros)]
  exact msrpRxMessages_zeros dispatch lite raw zeros _ _

theorem mrpRxWalk_single (lite : Bool) {attrType : MsrpAttrType} (zeros : Nat) (s : σ)
    (htype : MsrpAttrType.ofCode (octetAt raw 0) = some attrType)
    (hlength : raw.length = octetAt raw 2 * 256 + octetAt raw 3 + 4)
    (hfits : raw.length + zeros < avbMaxMsgLen) :
    mrpRxWalk dispatch lite (0 :: (raw ++ List.replicate zeros 0)) s =
      (msrpRxVectors dispatch lite raw attrType raw.length 4 [] s).2 := by
  rw [mrpRxWalk, List.drop_one, List.tail_cons, List.take_of_length_le]
  · exact msrpRxMessages_single lite zeros s htype hlength
  · rw [List.length_append, List.length_replicate]
    omega

/-! ## One attribute type -/

def MsrpDispatch.ofType : MsrpDispatch → MsrpAttrType
  | .leaveAll attrType => attrType
  | .talker attrType _ => attrType
  | .listener _ => .listener
  | .domain _ => .domain

theorem msrpRxValue_ofType {attrType : MsrpAttrType} {fv numVals v : Nat} {d : MsrpDispatch}
    (h : msrpRxValue raw attrType fv numVals v = some d) :
    d.ofType = attrType ∧ d.isValue = true := by
  cases attrType with
  | domain =>
      simp only [msrpRxValue] at h
      split at h <;> cases h
      exact ⟨rfl, rfl⟩
  | _ =>
      simp only [msrpRxValue] at h
      cases h
      exact ⟨rfl, rfl⟩

/-- What the vectors of one message hand on: the values of its type, with its LeaveAll outside AVB
Lite. -/
theorem msrpRxVectors_invariant (Inv : σ → Prop) {lite : Bool} {attrType : MsrpAttrType}
    (hvalue : ∀ s d, d.ofType = attrType → d.isValue = true → Inv s → Inv (dispatch s d))
    (hleave : ∀ s, lite = false → Inv s → Inv (dispatch s (.leaveAll attrType)))
    (listEnd voff : Nat) (seen : List MsrpAttrType) {s : σ} (hs : Inv s) :
    Inv (msrpRxVectors dispatch lite raw attrType listEnd voff seen s).2 := by
  have hvalues : ∀ fv numVals s, Inv s → Inv (msrpRxValues dispatch raw attrType fv numVals s) := by
    intro fv numVals s hs
    refine List.foldlRecOn _ _ hs fun s hs v _ => ?_
    cases hd : msrpRxValue raw attrType fv numVals v with
    | none => exact hs
    | some d => exact hvalue s d (msrpRxValue_ofType hd).1 (msrpRxValue_ofType hd).2 hs
  induction voff, seen, s using msrpRxVectors.induct dispatch lite raw attrType listEnd with
  | case1 voff seen s hroom vh hmark =>
      simp only [vh] at hmark
      rw [msrpRxVectors, if_pos hroom]
      simp only [hmark, if_true]
      exact hs
  | case2 voff seen s hroom vh hmark numVals vecLen hshort =>
      simp only [vh, numVals, vecLen] at hmark hshort
      rw [msrpRxVectors, if_pos hroom]
      simp only [hmark, hshort, if_true, if_false]
      exact hs
  | case3 voff seen s hroom vh hmark leaveall numVals vecLen hfits fires s1 seen1 s2 ih =>
      have hs1 : Inv s1 := by
        simp only [s1, dite_eq_ite]
        split
        · rename_i hfires
          simp only [fires, decide_eq_true_eq] at hfires
          exact hleave s hfires.2.1 hs
        · exact hs
      have hs2 : Inv s2 := by
        simp only [s2, dite_eq_ite]
        split
        · exact hs1
        · exact hvalues _ _ _ hs1
      have hrest := ih hs2
      simp only [vh, numVals, vecLen] at hmark hfits
      rw [msrpRxVectors, if_pos hroom]
      simp only [hmark, hfits, if_false]
      simp only [s2, s1, seen1, dite_eq_ite] at hrest
      exact hrest
  | case4 voff seen s hroom =>
      rw [msrpRxVectors, if_neg hroom]
      exact hs

end Walk

/-! ## The envelope -/

theorem length_attr (msg : MsrpMessage) : msg.attr.length = msrpAttrListLen msg.attrType + 2 := by
  have hbytes : msg.attrBytes.length + 4 = msrpAttrListLen msg.attrType := by
    rcases msg with ⟨attrType, leaveAll, wire⟩ | ⟨leaveAll, wire⟩ | ⟨leaveAll, wire⟩
    · cases attrType <;>
        simp [MsrpMessage.attrBytes, MsrpMessage.attrType, msrpAttrListLen,
          length_talkerAdvInfoBytes, Octets.length_eq]
    · simp [MsrpMessage.attrBytes, MsrpMessage.attrType, msrpAttrListLen, Octets.length_eq]
    · simp [MsrpMessage.attrBytes, MsrpMessage.attrType, msrpAttrListLen, Octets.length_eq]
  simp only [MsrpMessage.attr, List.length_append, List.length_cons, List.length_nil,
    length_octetsOf16]
  omega

theorem msrpAttrListLen_le (attrType : MsrpAttrType) :
    9 ≤ msrpAttrListLen attrType ∧ msrpAttrListLen attrType ≤ 39 := by
  cases attrType <;> decide

/-- The header of an attribute, whatever follows it. -/
theorem attr_header (msg : MsrpMessage) (rest : List UInt8) :
    MsrpAttrType.ofCode (octetAt (msg.attr ++ rest) 0) = some msg.attrType ∧
      octetAt (msg.attr ++ rest) 2 * 256 + octetAt (msg.attr ++ rest) 3 =
        msrpAttrListLen msg.attrType := by
  obtain ⟨hcode, -, hlt⟩ := ofCode_attrType msg.attrType
  have hbound := msrpAttrListLen_le msg.attrType
  constructor
  · have hoctet : octetAt (msg.attr ++ rest) 0 = msg.attrType.code := by
      rw [MsrpMessage.attr]
      exact Nat.mod_eq_of_lt hlt
    rw [hoctet]
    exact hcode
  · have hlen := octetAt_octetsOf16 (k := msrpAttrListLen msg.attrType) (by omega)
      ([if msg.leaveAll then 0x20 else 0, 1] ++ msg.attrBytes ++ rest)
    simp only [MsrpMessage.attr, List.append_assoc, octetAt, List.cons_append, List.nil_append,
      List.getD_cons_succ] at hlen ⊢
    exact hlen

theorem receiveInto_bytes (old : Octets avbMaxMsgLen) {frame : List UInt8}
    (h : frame.length ≤ avbMaxMsgLen) :
    (receiveInto old frame).bytes = frame ++ old.bytes.drop frame.length := by
  refine List.take_of_length_le ?_
  rw [List.length_append, List.length_drop, old.length_eq]
  omega

/-- What the envelope copies of the caller's struct: the attribute, without what lies behind it. -/
theorem cvu_bytes (entityId : UniqueId) (seqId : Octets 2) (junk : List UInt8) (msg : MsrpMessage) :
    ∃ head : List UInt8, msg.cvu entityId seqId junk = head ++ (msg.attr ++ [0, 0]) ∧
      head.length = aecpCvuCommonLen ∧
      octetAt head 2 % 8 * 256 + octetAt head 3 + avtpCdlPreambleLen =
        aecpCvuCommonLen + 4 + msrpAttrListLen msg.attrType := by
  have hbound := msrpAttrListLen_le msg.attrType
  have hlen := length_attr msg
  have htake : (msg.attr ++ junk).take (4 + msrpAttrListLen msg.attrType - 2) = msg.attr := by
    rw [show 4 + msrpAttrListLen msg.attrType - 2 = msg.attr.length by omega, List.take_left]
  refine ⟨_, by rw [MsrpMessage.cvu, avbSendCvuSrpAttr, htake, List.append_assoc], ?_, ?_⟩
  · simp [Octets.length_eq, aecpCvuCommonLen, cvuProtocolId]
  · simp only [octetAt, List.cons_append, List.append_assoc, List.getD_cons_succ,
      List.getD_cons_zero, UInt8.toNat_ofNat', aecpCvuCommonLen, avtpCdlPreambleLen]
    omega

/-- The receiver takes out the attribute, EndMark and all, whatever the buffer held before. -/
theorem cvuAttr_receiveInto (old : Octets avbMaxMsgLen) (entityId : UniqueId) (seqId : Octets 2)
    (junk : List UInt8) (msg : MsrpMessage) :
    cvuAttr (receiveInto old (msg.cvu entityId seqId junk)) =
      if msg.attrType = .domain then none else some (msg.attrType, msg.attr ++ [0, 0]) := by
  obtain ⟨head, hcvu, hhead, hcdl⟩ := cvu_bytes entityId seqId junk msg
  have hbound := msrpAttrListLen_le msg.attrType
  have hlen := length_attr msg
  have hframe : (head ++ (msg.attr ++ [0, 0])).length =
      aecpCvuCommonLen + 4 + msrpAttrListLen msg.attrType := by
    simp only [List.length_append, List.length_cons, List.length_nil]
    omega
  have hmax : aecpCvuCommonLen + 43 ≤ avbMaxMsgLen := by decide
  generalize hrest : old.bytes.drop (head ++ (msg.attr ++ [0, 0])).length = rest
  have hbytes : (receiveInto old (msg.cvu entityId seqId junk)).bytes =
      head ++ (msg.attr ++ ([0, 0] ++ rest)) := by
    rw [hcvu, receiveInto_bytes old (by omega), hrest]
    simp only [List.append_assoc]
  have hpayload : (receiveInto old (msg.cvu entityId seqId junk)).bytes.drop aecpCvuCommonLen =
      msg.attr ++ ([0, 0] ++ rest) := by
    rw [hbytes, ← hhead, List.drop_left]
  have hoctet : ∀ i < aecpCvuCommonLen,
      octetAt (receiveInto old (msg.cvu entityId seqId junk)).bytes i = octetAt head i := by
    intro i hi
    rw [hbytes, octetAt, octetAt, List.getD_append _ _ _ _ (by omega)]
  have hmsgLen : avbAecpMsgLen (receiveInto old (msg.cvu entityId seqId junk)) =
      aecpCvuCommonLen + 4 + msrpAttrListLen msg.attrType := by
    rw [avbAecpMsgLen, hoctet 2 (by decide), hoctet 3 (by decide)]
    omega
  obtain ⟨htype, hlist⟩ := attr_header msg ([0, 0] ++ rest)
  have htaken : (msg.attr ++ ([0, 0] ++ rest)).take (msrpAttrListLen msg.attrType + 4) =
      msg.attr ++ [0, 0] := by
    rw [← List.append_assoc, List.take_left']
    simp only [List.length_append, List.length_cons, List.length_nil]
    omega
  simp only [cvuAttr, hpayload, hmsgLen, hlist, htype, htaken]
  rw [if_neg (by simp only [msrpAttrHeaderLen]; omega),
    if_neg (by simp only [msrpAttrHeaderLen, msrpMessagesRawLen]; omega)]
  cases msg.attrType <;> rfl

theorem mrpdu_eq (msg : MsrpMessage) :
    msg.mrpdu = 0 :: (msg.attr ++ [0, 0] ++ List.replicate 2 0) := by
  simp [MsrpMessage.mrpdu, MsrpMessage.attr]

/-- Whatever the handlers do, the walk hands them the same calls in the same order. -/
theorem mrpRxWalk_attr {σ : Type*} (dispatch : σ → MsrpDispatch → σ) (lite : Bool)
    (msg : MsrpMessage) (s : σ) :
    mrpRxWalk dispatch lite (0 :: (msg.attr ++ [0, 0])) s = mrpRxWalk dispatch lite msg.mrpdu s := by
  obtain ⟨htype, hlist⟩ := attr_header msg [0, 0]
  have hbound := msrpAttrListLen_le msg.attrType
  have hlen := length_attr msg
  have hlength : (msg.attr ++ [0, 0]).length =
      octetAt (msg.attr ++ [0, 0]) 2 * 256 + octetAt (msg.attr ++ [0, 0]) 3 + 4 := by
    rw [hlist, List.length_append, List.length_cons, List.length_cons, List.length_nil]
    omega
  have hmax : 45 < avbMaxMsgLen := by decide
  have hnative := @mrpRxWalk_single _ _ dispatch lite _ 2 s htype hlength (by omega)
  have hcvu := @mrpRxWalk_single _ _ dispatch lite _ 0 s htype hlength (by omega)
  rw [List.replicate_zero, List.append_nil] at hcvu
  rw [hcvu, mrpdu_eq, hnative]

/-! ## What is handed on -/

/-- The calls that a CVU message leads to. -/
def cvuTrace (lite : Bool) (msg : Octets avbMaxMsgLen) : List MsrpDispatch :=
  match cvuAttr msg with
  | none => []
  | some (_, attr) => mrpRxWalk dispatchTrace lite (0 :: attr) []

theorem mrpRxMsrp_trace (s : AvbState cfg) (p : cfg.Port) (pdu : List UInt8)
    (srcAddr : Option EthAddr) :
    mrpRxMsrp s p pdu srcAddr =
      (mrpRxWalk dispatchTrace s.avbLite pdu []).foldl (msrpDispatch p srcAddr) s := by
  have hstep : ∀ (trace : List MsrpDispatch) d, handedOn s.avbLite d →
      (dispatchTrace trace d).foldl (msrpDispatch p srcAddr) s =
        msrpDispatch p srcAddr (trace.foldl (msrpDispatch p srcAddr) s) d := by
    intro trace d _
    rw [dispatchTrace, List.foldl_append, List.foldl_cons, List.foldl_nil]
  rw [mrpRxMsrp, mrpRxWalk, mrpRxWalk]
  generalize (pdu.drop 1).take (avbMaxMsgLen - 1) = raw
  exact @msrpRxMessages_map _ _ dispatchTrace (msrpDispatch p srcAddr)
    (fun trace => trace.foldl (msrpDispatch p srcAddr) s) s.avbLite hstep raw 0 [] []

theorem avbProcessAecpCmdCvuSrp_trace (hport : 0 < cfg.numPorts) (s : AvbState cfg)
    (msg : Octets avbMaxMsgLen) (srcAddr : Option EthAddr) :
    avbProcessAecpCmdCvuSrp s msg srcAddr =
      (cvuTrace s.avbLite msg).foldl (msrpDispatch ⟨0, hport⟩ srcAddr) s := by
  rw [avbProcessAecpCmdCvuSrp, cvuTrace]
  cases cvuAttr msg with
  | none => rfl
  | some found =>
      simp only [mrpRxMsrpPort0, dif_pos hport]
      exact mrpRxMsrp_trace s ⟨0, hport⟩ _ srcAddr

/-- A well-formed CVU message holds one message of a talker or listener type, as long as its list
length says. -/
theorem cvuAttr_wellFormed {msg : Octets avbMaxMsgLen} {attrType : MsrpAttrType} {attr : List UInt8}
    (h : cvuAttr msg = some (attrType, attr)) :
    attrType ≠ .domain ∧ MsrpAttrType.ofCode (octetAt attr 0) = some attrType ∧
      attr.length = octetAt attr 2 * 256 + octetAt attr 3 + 4 ∧
      attr.length ≤ msrpMessagesRawLen := by
  have hmax : aecpCvuCommonLen + msrpMessagesRawLen ≤ avbMaxMsgLen := by decide
  generalize hpayload : msg.bytes.drop aecpCvuCommonLen = payload
  have hroom : msrpMessagesRawLen ≤ payload.length := by
    rw [← hpayload, List.length_drop, msg.length_eq]
    omega
  simp only [cvuAttr, hpayload] at h
  obtain ⟨attrSize, hsize⟩ : ∃ attrSize, octetAt payload 2 * 256 + octetAt payload 3 + 4 = attrSize :=
    ⟨_, rfl⟩
  simp only [hsize] at h
  split at h
  · cases h
  · split at h
    · cases h
    · rename_i hfits
      simp only [not_or, not_lt] at hfits
      obtain ⟨hheader, -, hraw⟩ := hfits
      have hoctet : ∀ i < msrpAttrHeaderLen,
          octetAt (payload.take attrSize) i = octetAt payload i := by
        intro i hi
        rw [octetAt, octetAt, List.getD_eq_getElem?_getD, List.getElem?_take_of_lt (by omega),
          List.getD_eq_getElem?_getD]
      have hlength : (payload.take attrSize).length = attrSize := by
        rw [List.length_take]
        omega
      cases htype : MsrpAttrType.ofCode (octetAt payload 0) with
      | none => simp [htype] at h
      | some found =>
          rw [htype] at h
          cases found <;> simp only [Option.some.injEq, Prod.mk.injEq, reduceCtorEq] at h
          all_goals
            obtain ⟨rfl, rfl⟩ := h
            refine ⟨by simp, ?_, ?_, ?_⟩
            · rw [hoctet 0 (by decide), htype]
            · rw [hoctet 2 (by decide), hoctet 3 (by decide), hlength, hsize]
            · rw [hlength]
              exact hraw

/-- One type's calls, and in AVB Lite values only. -/
theorem cvuTrace_ofType (lite : Bool) (msg : Octets avbMaxMsgLen) :
    ∃ attrType, attrType ≠ MsrpAttrType.domain ∧
      ∀ d ∈ cvuTrace lite msg, d.ofType = attrType ∧ (lite = true → d.isValue = true) := by
  rw [cvuTrace]
  cases h : cvuAttr msg with
  | none => exact ⟨.listener, by simp, by simp⟩
  | some found =>
      obtain ⟨attrType, attr⟩ := found
      obtain ⟨htalkerOrListener, htype, hlength, hraw⟩ := cvuAttr_wellFormed h
      refine ⟨attrType, htalkerOrListener, fun d hd => ⟨?_, ?_⟩⟩
      · have hmax : msrpMessagesRawLen + 0 < avbMaxMsgLen := by decide
        have hwalk := @mrpRxWalk_single _ _ dispatchTrace lite _ 0 ([] : List MsrpDispatch) htype
          hlength (by omega)
        rw [List.replicate_zero, List.append_nil] at hwalk
        simp only [hwalk] at hd
        have hall := @msrpRxVectors_invariant attr _ dispatchTrace
          (fun trace => ∀ d ∈ trace, d.ofType = attrType) lite attrType
          (fun trace d hd _ htrace d' hd' => by
            obtain hmem | hmem := List.mem_append.mp hd'
            · exact htrace d' hmem
            · rw [List.mem_singleton.mp hmem, hd])
          (fun trace _ htrace d' hd' => by
            obtain hmem | hmem := List.mem_append.mp hd'
            · exact htrace d' hmem
            · rw [List.mem_singleton.mp hmem]
              rfl)
          attr.length 4 [] [] (by simp)
        exact hall d hd
      · exact mrpRxWalk_handedOn lite (0 :: attr) d hd

/-! ## The transport -/

/-- What `mrp_send_attr` sends of a talker or listener attribute in AVB Lite makes the receiver's
handlers run as from the native MRPDU on port 0, and so leaves the same tables. Any CVU message at
all hands on nothing but attributes of one talker or listener type, joined outside AVB Lite by that
type's LeaveAll, and a message that hands on nothing changes nothing. -/
theorem cvu_transport (cfg : Config) (s : AvbState cfg) (srcAddr : Option EthAddr) :
    (∀ (old : Octets avbMaxMsgLen) (entityId : UniqueId) (seqId : Octets 2) (junk : List UInt8)
        (msg : MsrpMessage), msg.attrType ≠ .domain →
      cvuTrace s.avbLite (receiveInto old (msg.cvu entityId seqId junk)) =
          mrpRxWalk dispatchTrace s.avbLite msg.mrpdu [] ∧
        avbProcessAecpCmdCvuSrp s (receiveInto old (msg.cvu entityId seqId junk)) srcAddr =
          mrpRxMsrpPort0 s msg.mrpdu srcAddr) ∧
      ∀ msg : Octets avbMaxMsgLen,
        (∃ attrType, attrType ≠ MsrpAttrType.domain ∧
          ∀ d ∈ cvuTrace s.avbLite msg, d.ofType = attrType ∧
            (s.avbLite = true → d.isValue = true)) ∧
        (∀ hport : 0 < cfg.numPorts, avbProcessAecpCmdCvuSrp s msg srcAddr =
          (cvuTrace s.avbLite msg).foldl (msrpDispatch ⟨0, hport⟩ srcAddr) s) ∧
        (cvuTrace s.avbLite msg = [] → avbProcessAecpCmdCvuSrp s msg srcAddr = s) := by
  constructor
  · intro old entityId seqId junk msg htype
    have hattr := cvuAttr_receiveInto old entityId seqId junk msg
    rw [if_neg htype] at hattr
    rw [cvuTrace, avbProcessAecpCmdCvuSrp, hattr]
    refine ⟨mrpRxWalk_attr dispatchTrace s.avbLite msg [], ?_⟩
    simp only [mrpRxMsrpPort0, mrpRxMsrp]
    split
    · exact mrpRxWalk_attr _ s.avbLite msg s
    · rfl
  · intro msg
    refine ⟨cvuTrace_ofType s.avbLite msg, ?_, ?_⟩
    · exact fun hport => avbProcessAecpCmdCvuSrp_trace hport s msg srcAddr
    · intro hnone
      by_cases hport : 0 < cfg.numPorts
      · rw [avbProcessAecpCmdCvuSrp_trace hport, hnone, List.foldl_nil]
      · rw [avbProcessAecpCmdCvuSrp]
        cases cvuAttr msg with
        | none => rfl
        | some found => exact dif_neg hport

/-- The listener attribute of an end station, over a struct whose tail is not zero. -/
theorem cvu_transport_listener :
    let s : AvbState wiredEndpoint := .init wiredEndpoint true
    let msg : MsrpMessage :=
      .listener false
        { streamId := .ofNat 8 7, event := intTo3pe 1 0 0, declaration := .ready }
    avbProcessAecpCmdCvuSrp s (receiveInto (.zero avbMaxMsgLen)
        (msg.cvu (.ofNat 8 1) (.zero 2) [9, 9])) Option.none =
      mrpRxMsrpPort0 s msg.mrpdu Option.none :=
  ((cvu_transport wiredEndpoint _ _).1 _ _ _ _ _ (by decide)).2

theorem leaveAll_not_endMark : true = true ∨ ([] : List (Fin 6 × MsrpListenerEvent)) ≠ [] := Or.inl rfl

/-- A pure LeaveAll for Talker Advertises. -/
def talkerLeaveAllPdu : Msrpdu :=
  { protocolVersion := 0
    messages := [.known .talkerAdvertise
      [{ leaveAll := true, firstValue := TalkerAdvInfo.zero, values := [],
         length_le := Nat.zero_le msrpRxMaxValues, not_endMark := leaveAll_not_endMark }]]
    zeros := 0
    fits := by decide }

/-- Its message in a CVU envelope. -/
def cvuLeaveAll : Octets avbMaxMsgLen :=
  receiveInto (.zero avbMaxMsgLen)
    (avbSendCvuSrpAttr (.zero 8) (.zero 2) (talkerLeaveAllPdu.bytes.drop 1) 29)

theorem cvuAttr_cvuLeaveAll :
    cvuAttr cvuLeaveAll = some (.talkerAdvertise, talkerLeaveAllPdu.bytes.drop 1) := by
  decide +kernel

/-- Outside AVB Lite a CVU message without a value is not without effect: its LeaveAll is handed
on. -/
theorem cvu_leaveAll_outside_lite :
    let s : AvbState wiredEndpoint := .init wiredEndpoint false
    (∀ d ∈ cvuTrace s.avbLite cvuLeaveAll, d.isValue = false) ∧
      avbProcessAecpCmdCvuSrp s cvuLeaveAll Option.none ≠ s := by
  have htrace : cvuTrace false cvuLeaveAll = [.leaveAll .talkerAdvertise] := by
    rw [cvuTrace, cvuAttr_cvuLeaveAll]
    exact mrpRxWalk_eq dispatchTrace false talkerLeaveAllPdu []
  intro s
  have hlite : s.avbLite = false := rfl
  have hport : 0 < wiredEndpoint.numPorts := by decide
  rw [avbProcessAecpCmdCvuSrp_trace hport, hlite, htrace]
  constructor
  · intro d hd
    rw [List.mem_singleton.mp hd]
    rfl
  · intro hsame
    have hcount := congrArg (fun s => s.talkerLeaveallCount ⟨0, hport⟩) hsame
    simp [msrpDispatch, msrpDispatchLeaveall] at hcount

end EspAvb
