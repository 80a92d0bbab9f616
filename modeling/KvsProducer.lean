import KvsProducer.Runs
import KvsProducer.History
import KvsProducer.GLib
import KvsProducer.Gst
import KvsProducer.KvsSinkUtil
import KvsProducer.StructureMaps
import KvsProducer.CString
import KvsProducer.StreamTags
import KvsProducer.StreamDefinition
import KvsProducer.Sink
import KvsProducer.SinkPads
import KvsProducer.SinkStart
import KvsProducer.SinkStartProofs
import KvsProducer.SinkStreaming
import KvsProducer.SinkStreamingProofs
import KvsProducer.SinkMachine
import KvsProducer.SinkMachineProofs
import KvsProducer.CodecPrivateData
import KvsProducer.StopAndRestart
import KvsProducer.SessionErrors
import KvsProducer.PadBookkeeping
import KvsProducer.EndOfStream
import KvsProducer.Ownership
import KvsProducer.StreamCreation
import KvsProducer.TrackDeclarations
import KvsProducer.SessionStrings
import KvsProducer.DeclaredMedia
import KvsProducer.UsablePads
import KvsProducer.PadlessStart
import KvsProducer.FreshTwin
import KvsProducer.StringOwnership
import KvsProducer.HeldStream
import KvsProducer.StreamStatusRegister
import KvsProducer.Leases
import KvsProducer.ThreadSafeMap
import KvsProducer.KinesisVideoProducer
import KvsProducer.StreamHandles
import KvsProducer.StreamLifecycle
import KvsProducer.RegistryRaces
import KvsProducer.BufferFrames
import KvsProducer.SessionTimeline
import KvsProducer.LiveTimeline
import KvsProducer.OfflineTimeline
import KvsProducer.MetricsTwin
import KvsProducer.CredentialProvider
import KvsProducer.CredentialSelection
import KvsProducer.IotTimeouts
import KvsProducer.AttachedPads
import KvsProducer.FreeStreams
import KvsProducer.FreeStreamsRaces
import KvsProducer.ErrorRecovery
import KvsProducer.DecodeOrder
import KvsProducer.ClockTimes
import KvsProducer.NewArrays
import KvsProducer.PutFrameHelper
import KvsProducer.MapHistories
import KvsProducer.MapEnumeration
import KvsProducer.Durations
import KvsProducer.TokenHandlers
import KvsProducer.StreamInfo
import KvsProducer.TrackList
import KvsProducer.ClientProtocol
import KvsProducer.DeliveredFrames
import KvsProducer.TokenRaces
import KvsProducer.TokenLedger
import KvsProducer.TokenTurns
import KvsProducer.CrashFreedom
import KvsProducer.DanglingCodec
import KvsProducer.Recoverability
import KvsProducer.ProducersInUse
import KvsProducer.SinkProperties
import KvsProducer.LibraryEvents
import KvsProducer.FileUpload
import KvsProducer.SentFiles
