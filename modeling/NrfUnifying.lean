import NrfUnifying.Lib.Bytes
import NrfUnifying.Lib.Numerals
import NrfUnifying.Lib.Lines
import NrfUnifying.Lib.Flash
import NrfUnifying.Lib.AppendLog
import NrfUnifying.Lib.Crc
import NrfUnifying.Lib.SectorWriter
import NrfUnifying.Lib.Runs
import NrfUnifying.Lib.Service
import NrfUnifying.Lib.Unreliable
import NrfUnifying.Lib.Keyboard
import NrfUnifying.Lib.Framing
import NrfUnifying.Lib.Transfers
import NrfUnifying.Lib.Simulation
import NrfUnifying.Lib.CutLog
import NrfUnifying.Lib.Deadlines
import NrfUnifying.Storage.Pages
import NrfUnifying.Storage.Refinement
import NrfUnifying.Storage.PowerLoss
import NrfUnifying.Storage.DirtyPages
import NrfUnifying.Storage.Discipline
import NrfUnifying.Storage.Cuts
import NrfUnifying.Storage.Outages
import NrfUnifying.Ota.UartOta
import NrfUnifying.Ota.CommitSafety
import NrfUnifying.Ota.BurstErrors
import NrfUnifying.Ota.AppendOnly
import NrfUnifying.Ota.Errors
import NrfUnifying.Ota.Delivery
import NrfUnifying.Ota.Updater
import NrfUnifying.Ota.Acknowledged
import NrfUnifying.Ota.Journal
import NrfUnifying.Serial.Session
import NrfUnifying.Serial.Staging
import NrfUnifying.Serial.Lines
import NrfUnifying.Serial.CdcUpload
import NrfUnifying.Serial.Journal
import NrfUnifying.Radio.EsbRadio
import NrfUnifying.Radio.AckPayload
import NrfUnifying.Radio.Device
import NrfUnifying.Radio.Format
import NrfUnifying.Radio.WriteNumber
import NrfUnifying.Radio.Commands
import NrfUnifying.Radio.Effects
import NrfUnifying.Radio.Worker
import NrfUnifying.Radio.BootMargin
import NrfUnifying.Radio.Counter
import NrfUnifying.Radio.Pairing
import NrfUnifying.Radio.Tuning
import NrfUnifying.Radio.FailedPair
import NrfUnifying.Radio.LinkUp
import NrfUnifying.Radio.Replies
import NrfUnifying.Uart.Link
import NrfUnifying.Uart.Reference
import NrfUnifying.Uart.Agreement
import NrfUnifying.Uart.RoundTrip
import NrfUnifying.Uart.Smoke
import NrfUnifying.Uart.Diagnosis
import NrfUnifying.Radio.ReplyBounds
import NrfUnifying.Radio.Keymap
import NrfUnifying.Radio.Typing
import NrfUnifying.Radio.KeyState
import NrfUnifying.Radio.Outages
import NrfUnifying.Radio.Unmarked
import NrfUnifying.Tasks.System
import NrfUnifying.Tasks.Moves
import NrfUnifying.Tasks.Segments
import NrfUnifying.Tasks.Changes
import NrfUnifying.Tasks.Admission
import NrfUnifying.Tasks.AllUp
import NrfUnifying.Tasks.Service
import NrfUnifying.Tasks.Replies
import NrfUnifying.Tasks.Rounds
import NrfUnifying.Tasks.CdcView
import NrfUnifying.Tasks.Handshake
import NrfUnifying.Tasks.Orderly
import NrfUnifying.Tasks.Exchange
import NrfUnifying.Tasks.Lines
import NrfUnifying.Tasks.OneWriter
import NrfUnifying.Tasks.Wire
import NrfUnifying.Tasks.Peer
import NrfUnifying.Tasks.Packets
import NrfUnifying.Tasks.Wakeups
import NrfUnifying.Tasks.Timing
import NrfUnifying.Tools.Port
import NrfUnifying.Tools.CdcDfu
import NrfUnifying.Tools.Unifying
