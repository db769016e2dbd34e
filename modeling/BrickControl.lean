import BrickControl.Main
import BrickControl.Request.Reader
import BrickControl.Proofs.Framing
import BrickControl.Proofs.LineReading
import BrickControl.Proofs.LineWriting
import BrickControl.Proofs.Operations
import BrickControl.Proofs.Sessions
import BrickControl.Proofs.Interchange
import BrickControl.Proofs.ReplyFormat
import BrickControl.Proofs.ReplyMatching
import BrickControl.Proofs.BrokenReads
import BrickControl.Proofs.WiredSessions
import BrickControl.Proofs.CounterReuse
import BrickControl.Proofs.PacketForm
import BrickControl.Proofs.Loopback
import BrickControl.Proofs.ParamForm
import BrickControl.Proofs.RequestForm
import BrickControl.Proofs.RecordedSessions
import BrickControl.Proofs.WireContents
import BrickControl.Proofs.Readings
import BrickControl.Proofs.AcceptedLines
import BrickControl.Proofs.TaskActions
import BrickControl.Proofs.TaskFaults
import BrickControl.Proofs.ParamStreams
import BrickControl.Proofs.ReceivedFrames
import BrickControl.Proofs.ReplyQueues
import BrickControl.Proofs.ShiftedCounters
import BrickControl.Proofs.BoundedWaits
import BrickControl.Proofs.OutputLetters
import BrickControl.Proofs.LedStatuses
import BrickControl.Proofs.HexDumps
import BrickControl.Proofs.FloatSlots
import BrickControl.Proofs.RecorderHistory
import BrickControl.Proofs.WireLog
import BrickControl.Proofs.DryRuns
import BrickControl.Proofs.ShortestConstants
import BrickControl.Proofs.SensorNames
