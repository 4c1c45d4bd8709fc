import EspAvb.Mrp
import EspAvb.Msrp
import EspAvb.Lib.Machine
import EspAvb.Proof.Applicant
import EspAvb.MsrpDeclare
import EspAvb.MsrpMap
import EspAvb.MsrpWifi
import EspAvb.MsrpRx
import EspAvb.MsrpTx
import EspAvb.System
import EspAvb.Proof.Propagate
import EspAvb.Mrpdu
import EspAvb.Proof.Receive
import EspAvb.Proof.Ucast
import EspAvb.Proof.Writes
import EspAvb.Proof.Steps
import EspAvb.Proof.Tables
import EspAvb.Proof.Flush
import EspAvb.Proof.Reuse
import EspAvb.Proof.Accounts
import EspAvb.Proof.Budget
import EspAvb.Proof.Balance
import EspAvb.Journal
import EspAvb.Proof.Journal
import EspAvb.Proof.Durability
import EspAvb.Lib.Broadcast
import EspAvb.Maap
import EspAvb.Acmp
import EspAvb.Proof.Listener
import EspAvb.Proof.Maap
import EspAvb.Proof.Binding
import EspAvb.Lib.Outstanding
import EspAvb.Proof.Inflight
import EspAvb.Lib.WalkBack
import EspAvb.Talker
import EspAvb.Proof.RunState
import EspAvb.Aecp
import EspAvb.Proof.Exclusive
import EspAvb.Lib.BudgetShare
import EspAvb.LiteTransport
import EspAvb.Proof.LiteFrame
import EspAvb.Proof.Unsol
import EspAvb.Lib.SeqWindow
import EspAvb.WifiReorder
import EspAvb.Proof.WifiReorder
import EspAvb.Lib.Entries
import EspAvb.WifiBundle
import EspAvb.Proof.WifiBundle
import EspAvb.Pll
import EspAvb.Proof.Pll
import EspAvb.StreamFormat
import EspAvb.Proof.StreamFormat
import EspAvb.Cvu
import EspAvb.Proof.Cvu
import EspAvb.Lib.SlotRing
import EspAvb.StationPacer
import EspAvb.Proof.StationPacer
import EspAvb.Proof.StationPacing
import EspAvb.Mvrp
import EspAvb.Proof.MaapRange
import EspAvb.AddrAccess
import EspAvb.Proof.AddrAccess
import EspAvb.Proof.PllRate
import EspAvb.Proof.Timeline
import EspAvb.Timeline
import EspAvb.LiteRefusals
import EspAvb.Proof.LiteRefusals
import EspAvb.Proof.Mvrp
import EspAvb.Lib.ReadTrace
import EspAvb.Lib.RingCells
import EspAvb.StreamRx
import EspAvb.Proof.StreamRx
import EspAvb.Am824Stream
import EspAvb.Proof.TimestampMarks
import EspAvb.WifiUnpack
import EspAvb.Proof.WifiUnpack
import EspAvb.LiteSchedule
import EspAvb.Proof.LiteSchedule
import EspAvb.CrfOut
import EspAvb.Lib.FloorGrid
import EspAvb.Proof.CrfOut
import EspAvb.AvbSrc
import EspAvb.Proof.AvbSrc
import EspAvb.TalkerClock
import EspAvb.Proof.TalkerClock
import EspAvb.Proof.StreamOut
import EspAvb.Lib.PackedArray
import EspAvb.TalkerRows
import EspAvb.Proof.TalkerRows
import EspAvb.Proof.WifiTx
import EspAvb.Proof.WifiRetx
import EspAvb.Proof.WifiFresh
import EspAvb.StreamDrain
import EspAvb.Proof.StreamDrain
import EspAvb.AvbUtils
import EspAvb.Proof.AvbUtils
import EspAvb.Lib.StrideWalk
import EspAvb.Proof.MaapPool
import EspAvb.Fqtss
import EspAvb.Proof.Fqtss
import EspAvb.Proof.ValueChange
import EspAvb.Proof.Registrars
import EspAvb.AudioRate
import EspAvb.Proof.AudioRate
import EspAvb.AudioMap
import EspAvb.Proof.AudioMap
import EspAvb.Restore
import EspAvb.Proof.Restore
import EspAvb.Renewal
import EspAvb.Proof.Renewal
import EspAvb.Lib.InsertBack
import EspAvb.Proof.LiteLine
import EspAvb.Proof.LiteAdmission
import EspAvb.Proof.LiteEscalation
import EspAvb.Persist
import EspAvb.Proof.Deferral
import EspAvb.Proof.Persist
import EspAvb.Proof.SnapshotTask
import EspAvb.Lib.LeaseTable
import EspAvb.BridgeRx
import EspAvb.Proof.BridgeRx
import EspAvb.Proof.BridgeControl
import EspAvb.Proof.BridgeRelay
import EspAvb.Lib.RingTape
import EspAvb.TalkerCapture
import EspAvb.Proof.TalkerCapture
import EspAvb.Lib.SlidingSum
import EspAvb.TalkerAudio
import EspAvb.Proof.SlipGuard
import EspAvb.Proof.SlipMute
import EspAvb.Lib.Rows
import EspAvb.AudioLink
import EspAvb.Proof.AudioFrame
import EspAvb.Proof.AudioLink
import EspAvb.AcmpCopies
import EspAvb.Proof.AcmpCopies
import EspAvb.Lib.Roster
import EspAvb.Adp
import EspAvb.Proof.Adp
