import EspAvb.MsrpTx

/-!
# The CVU transport of AVB Lite

`avb_send_cvu_srp_attr` wraps an MSRP attribute in an AECP vendor-unique message, and
`avb_process_aecp_cmd_cvu_srp` takes it out again and hands it to the walk over an MRPDU
(`atdecc.c`). A received message lies in the receive buffer, whose octets past it are an earlier
message's.
-/

namespace EspAvb

variable {cfg : Config}

def avtpSubtypeAecp : UInt8 := 0xfb
def aecpMsgTypeVendorUniqueCommand : UInt8 := 6
def avtpCdlPreambleLen : Nat := 12
/-- `sizeof(aecp_cvu_common_s)`: header, target, controller, sequence, protocol, command type. -/
def aecpCvuCommonLen : Nat := 29
/-- `sizeof(msrp_attr_header_s)` -/
def msrpAttrHeaderLen : Nat := 6
/-- `sizeof(messages_raw)` -/
def msrpMessagesRawLen : Nat := 200
def cvuProtocolId : List UInt8 := [0x8c, 0x1f, 0x64, 0x36, 0xc0, 0x02]

/-! ## Sending -/

/-- The attribute as the caller's struct holds it, header and values, up to the EndMark. -/
def MsrpMessage.attr (msg : MsrpMessage) : List UInt8 :=
  [UInt8.ofNat msg.attrType.code, UInt8.ofNat (msrpFirstValueLen msg.attrType)]
    ++ octetsOf16 (msrpAttrListLen msg.attrType)
    ++ [if msg.leaveAll then 0x20 else 0, 1] ++ msg.attrBytes

/-- The message of `avb_send_cvu_srp_attr`, for a struct of which the EndMark is not copied: the
zeroed message supplies it. -/
def avbSendCvuSrpAttr (entityId : UniqueId) (seqId : Octets 2) (attr : List UInt8)
    (attrListLen : Nat) : List UInt8 :=
  let cdl := aecpCvuCommonLen + 4 + attrListLen - avtpCdlPreambleLen
  [avtpSubtypeAecp, aecpMsgTypeVendorUniqueCommand, UInt8.ofNat (cdl / 256 % 8), UInt8.ofNat cdl]
    ++ (Octets.zero 8).bytes ++ entityId.bytes ++ seqId.bytes ++ cvuProtocolId ++ [attr.getD 0 0]
    ++ attr.take (4 + attrListLen - 2) ++ [0, 0]

/-- What `mrp_send_attr` sends of a declaration in AVB Lite, from a struct that goes on behind the
attribute with whatever was last received into it. -/
def MsrpMessage.cvu (entityId : UniqueId) (seqId : Octets 2) (junk : List UInt8) (msg : MsrpMessage) :
    List UInt8 :=
  avbSendCvuSrpAttr entityId seqId (msg.attr ++ junk) (msrpAttrListLen msg.attrType)

/-! ## Receiving -/

/-- A frame received into a buffer that still holds an earlier one. -/
def receiveInto (old : Octets avbMaxMsgLen) (frame : List UInt8) : Octets avbMaxMsgLen :=
  ⟨(frame ++ old.bytes.drop frame.length).take avbMaxMsgLen, by
    rw [List.length_take, List.length_append, List.length_drop, old.length_eq]
    omega⟩

/-- `avb_aecp_msg_len` -/
def avbAecpMsgLen (msg : Octets avbMaxMsgLen) : Nat :=
  avtpCdlPreambleLen + (octetAt msg.bytes 2 % 8 * 256 + octetAt msg.bytes 3)

/-- The attribute of a CVU message; none where the message is malformed, or of another type than
Talker Advertise, Talker Failed and Listener. -/
def cvuAttr (msg : Octets avbMaxMsgLen) : Option (MsrpAttrType × List UInt8) :=
  let payload := msg.bytes.drop aecpCvuCommonLen
  let attrSize := octetAt payload 2 * 256 + octetAt payload 3 + 4
  if avbAecpMsgLen msg < aecpCvuCommonLen + msrpAttrHeaderLen then none
  else if attrSize < msrpAttrHeaderLen ∨ avbAecpMsgLen msg - aecpCvuCommonLen < attrSize ∨
      msrpMessagesRawLen < attrSize then none
  else
    match MsrpAttrType.ofCode (octetAt payload 0) with
    | none => none
    | some .domain => none
    | some attrType => some (attrType, payload.take attrSize)

/-- `mrp_rx_msrp` on port 0. -/
def mrpRxMsrpPort0 (s : AvbState cfg) (pdu : List UInt8) (srcAddr : Option EthAddr) : AvbState cfg :=
  if h : 0 < cfg.numPorts then mrpRxMsrp s ⟨0, h⟩ pdu srcAddr else s

/-- `avb_process_aecp_cmd_cvu_srp` -/
def avbProcessAecpCmdCvuSrp (s : AvbState cfg) (msg : Octets avbMaxMsgLen)
    (srcAddr : Option EthAddr) : AvbState cfg :=
  match cvuAttr msg with
  | none => s
  | some (_, attr) => mrpRxMsrpPort0 s (0 :: attr) srcAddr

end EspAvb
