import EspAvb.MsrpTx

/-!
# What an MSRPDU says

An MSRPDU as a value: messages of known and unknown types, each known one a list of vectors. Its
octets, and what an ideal decoder reads from it. Nothing here is code; the parser and the sender of
`mrp.c` are compared with it.
-/

namespace EspAvb

/-- FirstValue of a vector, by attribute type. -/
abbrev FirstValue : MsrpAttrType → Type
  | .talkerAdvertise => TalkerAdvInfo
  | .talkerFailed => TalkerAdvInfo × Octets 8 × UInt8
  | .listener => UniqueId
  | .domain => UInt8 × UInt8 × Octets 2

/-- A vector: a LeaveAll flag, FirstValue, and an event for each value, with a declaration that only
a Listener vector carries. A vector header of zero would be an EndMark. -/
structure MsrpVector (attrType : MsrpAttrType) where
  leaveAll : Bool
  firstValue : FirstValue attrType
  values : List (Fin 6 × MsrpListenerEvent)
  length_le : values.length ≤ msrpRxMaxValues
  not_endMark : leaveAll = true ∨ values ≠ []

inductive MsrpduMessage where
  | known (attrType : MsrpAttrType) (vectors : List (MsrpVector attrType))
  | unknown (attrType attrLen : UInt8) (body : List UInt8) (unknown : 4 < attrType.toNat)

/-! ### Octets -/

/-- Three events an octet, base 6; missing ones count as zero. -/
def packEvents : List (Fin 6) → List UInt8
  | [] => []
  | [a] => [intTo3pe a 0 0]
  | [a, b] => [intTo3pe a b 0]
  | a :: b :: c :: rest => intTo3pe a b c :: packEvents rest

/-- Four declarations an octet, the first in the top bits. -/
def packDeclarations : List MsrpListenerEvent → List UInt8
  | [] => []
  | [a] => [UInt8.ofNat (a.code * 64)]
  | [a, b] => [UInt8.ofNat (a.code * 64 + b.code * 16)]
  | [a, b, c] => [UInt8.ofNat (a.code * 64 + b.code * 16 + c.code * 4)]
  | a :: b :: c :: d :: rest =>
      UInt8.ofNat (a.code * 64 + b.code * 16 + c.code * 4 + d.code) :: packDeclarations rest

def firstValueBytes : (attrType : MsrpAttrType) → FirstValue attrType → List UInt8
  | .talkerAdvertise, info => talkerAdvInfoBytes info
  | .talkerFailed, (info, bridgeId, code) => talkerAdvInfoBytes info ++ bridgeId.bytes ++ [code]
  | .listener, streamId => streamId.bytes
  | .domain, (classId, priority, vid) => [classId, priority] ++ vid.bytes

variable {attrType : MsrpAttrType}

def MsrpVector.header (x : MsrpVector attrType) : Nat :=
  (if x.leaveAll then 0x2000 else 0) + x.values.length

def MsrpVector.bytes (x : MsrpVector attrType) : List UInt8 :=
  octetsOf16 x.header ++ firstValueBytes attrType x.firstValue
    ++ packEvents (x.values.map (·.1))
    ++ (if attrType = .listener then packDeclarations (x.values.map (·.2)) else [])

def vectorsBytes (vectors : List (MsrpVector attrType)) : List UInt8 :=
  (vectors.map MsrpVector.bytes).flatten

def MsrpduMessage.bytes : MsrpduMessage → List UInt8
  | .known attrType vectors =>
      [UInt8.ofNat attrType.code, UInt8.ofNat (msrpFirstValueLen attrType)]
        ++ octetsOf16 ((vectorsBytes vectors).length + 2) ++ vectorsBytes vectors ++ [0, 0]
  | .unknown attrType attrLen body _ => [attrType, attrLen] ++ octetsOf16 body.length ++ body

def messagesBytes (messages : List MsrpduMessage) : List UInt8 :=
  (messages.map MsrpduMessage.bytes).flatten

/-- The EndMark of an MRPDU and the padding of a short frame are zeros at its end; with none, the
end of the frame ends it. -/
structure Msrpdu where
  protocolVersion : UInt8
  messages : List MsrpduMessage
  zeros : Nat
  fits : 1 + (messagesBytes messages).length + zeros ≤ avbMaxMsgLen

def Msrpdu.bytes (pdu : Msrpdu) : List UInt8 :=
  pdu.protocolVersion :: (messagesBytes pdu.messages ++ List.replicate pdu.zeros 0)

/-! ### The ideal decoder -/

/-- Value `v` of a vector: FirstValue with the stream and its destination moved on by `v`. -/
def idealValue : (attrType : MsrpAttrType) → FirstValue attrType → Nat →
    Fin 6 × MsrpListenerEvent → Option MsrpDispatch
  | .talkerAdvertise, info, v, (event, _) =>
      some (.talker .talkerAdvertise
        { MsrpTalkerMessage.zero with
          info := { info with
            streamId := .ofNat 8 (info.streamId.toNat + v)
            streamDestAddr := .ofNat 6 (info.streamDestAddr.toNat + v) }
          event := intTo3pe event 0 0 })
  | .talkerFailed, (info, failureBridgeId, failureCode), v, (event, _) =>
      some (.talker .talkerFailed
        { info := { info with
            streamId := .ofNat 8 (info.streamId.toNat + v)
            streamDestAddr := .ofNat 6 (info.streamDestAddr.toNat + v) }
          failureBridgeId
          failureCode
          event := intTo3pe event 0 0 })
  | .listener, streamId, v, (event, declaration) =>
      some (.listener
        { streamId := .ofNat 8 (streamId.toNat + v), event := intTo3pe event 0 0, declaration })
  | .domain, (srClassId, srClassPriority, srClassVid), v, (event, _) =>
      if v = 0 then
        some (.domain { srClassId, srClassPriority, srClassVid, event := intTo3pe event 0 0 })
      else none

def MsrpVector.dispatches (x : MsrpVector attrType) : List MsrpDispatch :=
  (List.finRange x.values.length).filterMap fun v : Fin x.values.length =>
    idealValue attrType x.firstValue v (x.values.get v)

/-- The vectors of an MRPDU in order, those of unknown messages skipped. -/
def MsrpduMessage.vectors : MsrpduMessage → List (Σ attrType, MsrpVector attrType)
  | .known attrType vectors => vectors.map fun x => ⟨attrType, x⟩
  | .unknown _ _ _ _ => []

def Msrpdu.vectors (pdu : Msrpdu) : List (Σ attrType, MsrpVector attrType) :=
  (pdu.messages.map MsrpduMessage.vectors).flatten

/-- Each attribute type's LeaveAll once, before the values of the first vector that carries it.
`leaveAlls` says whether they are handed on, `seen` which types have had theirs. -/
def idealDecode (leaveAlls : Bool) :
    List (Σ attrType, MsrpVector attrType) → List MsrpAttrType → List MsrpDispatch
  | [], _ => []
  | ⟨attrType, x⟩ :: rest, seen =>
      if leaveAlls ∧ x.leaveAll ∧ attrType ∉ seen then
        .leaveAll attrType :: x.dispatches ++ idealDecode leaveAlls rest (attrType :: seen)
      else x.dispatches ++ idealDecode leaveAlls rest seen

end EspAvb
