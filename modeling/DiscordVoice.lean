import DiscordVoice.Schedule
import DiscordVoice.Pool
import DiscordVoice.RunWindows
import DiscordVoice.RunSpans
import DiscordVoice.MarkedMinimum
import DiscordVoice.Fallible
import DiscordVoice.Checked
import DiscordVoice.SortedMap
import DiscordVoice.Chains
import DiscordVoice.Greedy
import DiscordVoice.BoundedDeque
import DiscordVoice.Voice.Transport
import DiscordVoice.Voice.Protection
import DiscordVoice.Voice.PacketSafety
import DiscordVoice.Voice.TransportRuns
import DiscordVoice.Voice.SendFailures
import DiscordVoice.Voice.Session
import DiscordVoice.Voice.DaveTransitions
import DiscordVoice.Voice.Drain
import DiscordVoice.Voice.Ownership
import DiscordVoice.Voice.DaveRuns
import DiscordVoice.Voice.Redelivery
import DiscordVoice.Voice.TransitionCount
import DiscordVoice.Voice.GatewayOnly
import DiscordVoice.Voice.FailClosed
import DiscordVoice.Voice.Handshake
import DiscordVoice.Voice.Roster
import DiscordVoice.Voice.Observer
import DiscordVoice.Voice.ObserverRoster
import DiscordVoice.Voice.ObserverReceive
import DiscordVoice.Voice.Attribution
import DiscordVoice.Voice.Wire
import DiscordVoice.Voice.BinaryGateway
import DiscordVoice.Playback.OpusQueue
import DiscordVoice.Playback.CountedQueue
import DiscordVoice.Playback.HttpStream
import DiscordVoice.Playback.WebmDemux
import DiscordVoice.Playback.BlockTimestamps
import DiscordVoice.Playback.ConservedAudio
import DiscordVoice.Playback.DemuxChunks
import DiscordVoice.Playback.OpusNormalizer
import DiscordVoice.Playback.Source
import DiscordVoice.Playback.Delivery
import DiscordVoice.Playback.Worker
import DiscordVoice.Playback.OneEncoding
import DiscordVoice.Playback.Producer
import DiscordVoice.Playback.EndOfStream
import DiscordVoice.Playback.FillOrder
import DiscordVoice.Playback.Recovery
import DiscordVoice.Playback.NormalizedFrames
import DiscordVoice.Playback.OpenFromPosition
import DiscordVoice.Playback.ResumePoint
import DiscordVoice.Validation.Audio
import DiscordVoice.Validation.RtpContinuity
import DiscordVoice.Media.DeadlineSender
import DiscordVoice.Media.TimedSender
import DiscordVoice.Media.SenderSteps
import DiscordVoice.Media.Driver
import DiscordVoice.Media.PlayoutEvents
import DiscordVoice.Media.InterruptedFrames
import DiscordVoice.Media.Effects
import DiscordVoice.Media.Outstanding
import DiscordVoice.Media.DaveRebuild
import DiscordVoice.Media.CursorAgreement
import DiscordVoice.Media.NaturalEnd
import DiscordVoice.Media.FrameOrder
import DiscordVoice.Media.HeardPosition
import DiscordVoice.Media.Bookkeeping
import DiscordVoice.Media.Leaving
import DiscordVoice.Media.BufferCaps
import DiscordVoice.Media.PreparedQueue
import DiscordVoice.Media.QueueEvents
import DiscordVoice.Media.RebuildHistory
import DiscordVoice.Media.Rebuilds
import DiscordVoice.Session.Snapshot
import DiscordVoice.Session.Runtime
import DiscordVoice.Session.Accesses
import DiscordVoice.Session.Frames
import DiscordVoice.Session.Attempts
import DiscordVoice.Session.PauseAgreement
import DiscordVoice.Session.LeaveFinal
import DiscordVoice.Session.StabilityMetrics
import DiscordVoice.Session.TempoWindows
import DiscordVoice.Validation.PlaybackSpeed
import DiscordVoice.Validation.ObserverMinima
import DiscordVoice.Validation.LiveContract
import DiscordVoice.Session.Conservation
import DiscordVoice.Session.ContextChange
import DiscordVoice.Session.AtRest
import DiscordVoice.Twilight.VoiceContext
import DiscordVoice.Triples
import DiscordVoice.Voice.ObserverJoin
import DiscordVoice.Voice.JoinTalk
import DiscordVoice.Voice.JoinRefinement
import DiscordVoice.Percentiles
import DiscordVoice.Checking
import DiscordVoice.Media.ToldEvents
import DiscordVoice.Session.Evidence
import DiscordVoice.Twilight.Snapshots
import DiscordVoice.Validation.Lifecycle
import DiscordVoice.Session.QueueDepthRuns
import DiscordVoice.Validation.QueueDepths
import DiscordVoice.Media.ReportedSends
import DiscordVoice.Validation.SendOrder
import DiscordVoice.Validation.RawPlayback
import DiscordVoice.Playback.Pacer
import DiscordVoice.Session.SendMetrics
import DiscordVoice.Validation.Recount
import DiscordVoice.Session.PacedPlayback
