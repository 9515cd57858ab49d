import AvbAes3.TxSlots
import AvbAes3.Gptp
import AvbAes3.GptpRun
import AvbAes3.ServoLock
import AvbAes3.TimeBase
import AvbAes3.PdelayExchange
import AvbAes3.EgressStamp
import AvbAes3.Aaf
import AvbAes3.Acmp
import AvbAes3.BindingCoherence
import AvbAes3.ListenerReservation
import AvbAes3.SlowPath
import AvbAes3.TalkerConnections
import AvbAes3.TalkerStream
import AvbAes3.LeaveAll
import AvbAes3.TalkerAnswers
import AvbAes3.ConnectAnswers
import AvbAes3.PendingBinds
import AvbAes3.LearnedDomain
import AvbAes3.TalkerRegistrar
import AvbAes3.OneVlan
import AvbAes3.ClockWrites
import AvbAes3.CrfPaths
import AvbAes3.ClockSteps
import AvbAes3.Arbitration
import AvbAes3.StaleWatchdog
import AvbAes3.BindBacklog
import AvbAes3.ClockSource
import AvbAes3.TwoStepPair
import AvbAes3.DacFifo
import AvbAes3.ChannelPairs
import AvbAes3.GatewareFrame
import AvbAes3.UsbAudio
import AvbAes3.I2sTx
import AvbAes3.CrfFrames
import AvbAes3.GptpReceived
import AvbAes3.ListenerSide
import AvbAes3.AecpFrames
import AvbAes3.PushPoll
import AvbAes3.RxState
import AvbAes3.LearnedFacts
import AvbAes3.AecpWrites
import AvbAes3.AecpResponses
import AvbAes3.AecpReceived
import AvbAes3.AecpLeaks
import AvbAes3.AvdeccLeaks
import AvbAes3.AvtpExtractor
import AvbAes3.AvtpExtraction
import AvbAes3.AafPaths
import AvbAes3.CounterBalance
import AvbAes3.OtherEntities
import AvbAes3.MsrpRoundTrip
import AvbAes3.UnsolTable
import AvbAes3.Registrations
import AvbAes3.LockEarned
import AvbAes3.PathDelay
import AvbAes3.Descriptors
import AvbAes3.EntityModel
import AvbAes3.ConnectionCounts
import AvbAes3.StampRing
import AvbAes3.SyncOffset
import AvbAes3.LockHysteresis
import AvbAes3.MediaClockServo
import AvbAes3.CrfWatchdog
import AvbAes3.UnknownUids
import AvbAes3.ServoBounds
import AvbAes3.RateFilter
import AvbAes3.RegistrarMap
import AvbAes3.NewTwice
import AvbAes3.InFrame
import AvbAes3.VlanTransparent
import AvbAes3.Assemblers
import AvbAes3.AafRoundTrip
import AvbAes3.Lib.Queue
import AvbAes3.TalkerQueue
import AvbAes3.FrameBinding
import AvbAes3.TalkerRestart
import AvbAes3.SlotRouting
import AvbAes3.Aes3Line
import AvbAes3.Aes3Tx
import AvbAes3.UntornFrames
import AvbAes3.Aes3Rx
import AvbAes3.Aes3Decode
import AvbAes3.ChannelStatus
import AvbAes3.Aes3Loopback
import AvbAes3.Lib.Recent
import AvbAes3.OffsetMedian
import AvbAes3.AvtpStreamFilter
import AvbAes3.AvdeccBooks
import AvbAes3.ConnectTx
import AvbAes3.ConnectNetwork
import AvbAes3.UlpiWrapper
import AvbAes3.UlpiBus
import AvbAes3.UlpiPackets
import AvbAes3.UlpiRegisters
import AvbAes3.Lib.GrayCode
import AvbAes3.BridgeFifo
import AvbAes3.Out2ch
import AvbAes3.UsbBridge
import AvbAes3.UsbFrames
import AvbAes3.UsbFeedback
import AvbAes3.PacketFrames
import AvbAes3.WireAudio
import AvbAes3.BoardClock
import AvbAes3.Lib.Crc
import AvbAes3.UsbReceiver
import AvbAes3.Lib.Ring
import AvbAes3.UsbOutEndpoint
import AvbAes3.UsbDelivery
import AvbAes3.UsbHeard
