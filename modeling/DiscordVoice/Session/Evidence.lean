import DiscordVoice.Percentiles
import DiscordVoice.Media.QueueEvents
import DiscordVoice.Media.TimedSender
import DiscordVoice.Playback.CountedQueue
import DiscordVoice.Session.StabilityMetrics

namespace DiscordVoice.Session.Evidence

open Media Playback

structure PlaybackQueueDepthStatsSnapshot (Depth : Type) where
  sampleCount : ℕ
  emptyCount : ℕ
  currentDepth : Depth
  minDepth : Depth
  p5Depth : Depth
  p50Depth : Depth
  p95Depth : Depth
  maxDepth : Depth
  deriving DecidableEq, Repr

namespace PlaybackQueueDepthStatsSnapshot

variable {Depth : Type}

def map {Depth' : Type} (f : Depth → Depth') (stats : PlaybackQueueDepthStatsSnapshot Depth) :
    PlaybackQueueDepthStatsSnapshot Depth' where
  sampleCount := stats.sampleCount
  emptyCount := stats.emptyCount
  currentDepth := f stats.currentDepth
  minDepth := f stats.minDepth
  p5Depth := f stats.p5Depth
  p50Depth := f stats.p50Depth
  p95Depth := f stats.p95Depth
  maxDepth := f stats.maxDepth

def default (depth : Depth) : PlaybackQueueDepthStatsSnapshot Depth :=
  ⟨0, 0, depth, depth, depth, depth, depth, depth⟩

/-- The statistics of samples, as both ends of the wire make them; `depth` is the default one. -/
def fromSamples (sort : UnstableSort) (durationSamples : Depth → ℕ) (depth : Depth)
    (samples : List Depth) (emptyCount : ℕ) : PlaybackQueueDepthStatsSnapshot Depth :=
  if samples.isEmpty then default depth
  else
    let sorted := sort.byKey durationSamples samples
    let percentileDepth (percent : ℕ) := sorted.getD (percentileIndex sorted.length percent) depth
    { sampleCount := samples.length
      emptyCount
      currentDepth := samples.getD (samples.length - 1) depth
      minDepth := sorted.getD 0 depth
      p5Depth := percentileDepth 5
      p50Depth := percentileDepth 50
      p95Depth := percentileDepth 95
      maxDepth := sorted.getD (sorted.length - 1) depth }

end PlaybackQueueDepthStatsSnapshot

def defaultDepth : OpusBufferDepth := ⟨0, 0, 0, 0⟩

structure PreparedTrackQueueDepthCollector where
  warmed : Bool
  samples : List OpusBufferDepth
  emptyCount : ℕ
  deriving DecidableEq, Repr

namespace PreparedTrackQueueDepthCollector

def default : PreparedTrackQueueDepthCollector := ⟨false, [], 0⟩

/-- `record`, and whether the depth was recorded. -/
def record (c : PreparedTrackQueueDepthCollector) (depth : OpusBufferDepth) (targetMs : ℕ) :
    Bool × PreparedTrackQueueDepthCollector :=
  if !c.warmed ∧ depth.durationSamples < Counted.samplesFromDurationMsU64 targetMs then (false, c)
  else
    (true, {
      warmed := true
      samples := c.samples ++ [depth]
      emptyCount := if depth.durationSamples = 0 then saturatingAdd c.emptyCount 1 else c.emptyCount })

def snapshot (sort : UnstableSort) (c : PreparedTrackQueueDepthCollector) :
    PlaybackQueueDepthStatsSnapshot OpusBufferDepth :=
  .fromSamples sort (·.durationSamples) defaultDepth c.samples c.emptyCount

end PreparedTrackQueueDepthCollector

inductive PreparedTrackQueueSamplePhase
  | activePrePause
  | activePostResume
  deriving DecidableEq, Repr

structure PreparedTrackQueueDepthSampleSnapshot where
  sampleIndex : ℕ
  phase : PreparedTrackQueueSamplePhase
  depth : OpusBufferDepth
  deriving DecidableEq, Repr

/-- What `PlaybackStabilityCollector` keeps of the prepared queue's depth. -/
structure PreparedTrackQueueDepths where
  targetMs : ℕ
  lowWatermarkMs : ℕ
  highWatermarkMs : ℕ
  phase : PreparedTrackQueuePhase
  activePrePause : PreparedTrackQueueDepthCollector
  activePostResume : PreparedTrackQueueDepthCollector
  rawSamples : List PreparedTrackQueueDepthSampleSnapshot
  deriving DecidableEq, Repr

namespace PreparedTrackQueueDepths

def new (targetMs lowWatermarkMs highWatermarkMs : ℕ) : PreparedTrackQueueDepths :=
  ⟨targetMs, lowWatermarkMs, highWatermarkMs, .prePause, .default, .default, []⟩

def recordPreparedTrackQueueDepth (c : PreparedTrackQueueDepths) (depth : OpusBufferDepth) :
    PreparedTrackQueueDepths :=
  let ((samplePhase, recorded), c) := match c.phase with
    | .prePause =>
      let (recorded, activePrePause) := c.activePrePause.record depth c.targetMs
      ((PreparedTrackQueueSamplePhase.activePrePause, recorded), { c with activePrePause })
    | .postResume =>
      let (recorded, activePostResume) := c.activePostResume.record depth c.targetMs
      ((PreparedTrackQueueSamplePhase.activePostResume, recorded), { c with activePostResume })
  if recorded then
    { c with rawSamples := c.rawSamples ++ [⟨c.rawSamples.length, samplePhase, depth⟩] }
  else c

def recordResumedFromPause (c : PreparedTrackQueueDepths) : PreparedTrackQueueDepths :=
  { c with phase := .postResume }

inductive Call
  | recordPreparedTrackQueueDepth (depth : OpusBufferDepth)
  | recordResumedFromPause
  deriving DecidableEq, Repr

def call (c : PreparedTrackQueueDepths) : Call → PreparedTrackQueueDepths
  | .recordPreparedTrackQueueDepth depth => c.recordPreparedTrackQueueDepth depth
  | .recordResumedFromPause => c.recordResumedFromPause

end PreparedTrackQueueDepths

structure PlaybackSendEventRecord where
  packetIndex : ℕ
  commandKind : PlaybackSendCommandKind
  expectedDeadline : ℕ
  sendStartedAt : ℕ
  sentAt : ℕ
  mediaDurationMs : ℕ
  mediaDurationSamples : UInt32
  rtpSequence : UInt16
  rtpTimestamp : UInt32
  protectionNonce : Option UInt32
  sourceFrameEpoch : Option ℕ
  sourceMediaPositionMs : Option ℕ
  sourceMediaPositionSamples : Option ℕ
  sourceMediaBytePosition : Option ℕ
  committedHeardMedia : Bool
  deriving DecidableEq, Repr

/-- What `record_deadline_send_metric` makes of the record of a sent packet, and the pipeline of
that. -/
def sendEventRecord (packetIndex : ℕ) (sent : Timed.DeadlineSendRecord) :
    PlaybackSendEventRecord where
  packetIndex := packetIndex
  commandKind := playbackSendCommandKind sent.kind
  expectedDeadline := sent.expectedDeadline
  sendStartedAt := sent.sendStartedAt
  sentAt := sent.sentAt
  mediaDurationMs := sent.durationMs
  mediaDurationSamples := sent.durationSamples
  rtpSequence := sent.rtpSequence
  rtpTimestamp := sent.rtpTimestamp
  protectionNonce := sent.protectionNonce
  sourceFrameEpoch := sent.mediaFrame.map (·.epoch)
  sourceMediaPositionMs := sent.mediaFrame.map (·.mediaPositionMs)
  sourceMediaPositionSamples := sent.mediaFrame.map (·.mediaPositionSamples)
  sourceMediaBytePosition := sent.mediaFrame.bind (·.mediaBytePosition)
  committedHeardMedia := sent.mediaFrame.isSome

/-- The driver reports the packets under indices that it counts up. -/
def sendEventRecords (packetIndex : ℕ) : List Timed.DeadlineSendRecord → List PlaybackSendEventRecord
  | [] => []
  | sent :: rest => sendEventRecord packetIndex sent :: sendEventRecords (saturatingAdd packetIndex 1) rest

structure PlaybackSendEventSnapshot where
  packetIndex : ℕ
  commandKind : PlaybackSendCommandKind
  expectedDeadlineOffsetUs : ℕ
  sendStartedOffsetUs : ℕ
  sentOffsetUs : ℕ
  mediaDurationMs : ℕ
  mediaDurationSamples : UInt32
  rtpSequence : UInt16
  rtpTimestamp : UInt32
  protectionNonce : Option UInt32
  sourceFrameEpoch : Option ℕ
  sourceMediaPositionMs : Option ℕ
  sourceMediaPositionSamples : Option ℕ
  sourceMediaBytePosition : Option ℕ
  committedHeardMedia : Bool
  deriving DecidableEq, Repr

def durationMicros (duration : ℕ) : ℕ := min (duration / 1000) (2 ^ 64 - 1)

def instantOffsetMicros (base instant : ℕ) : ℕ := durationMicros (instant - base)

def playbackSendEventSnapshot (baseDeadline : ℕ) (event : PlaybackSendEventRecord) :
    PlaybackSendEventSnapshot where
  packetIndex := event.packetIndex
  commandKind := event.commandKind
  expectedDeadlineOffsetUs := instantOffsetMicros baseDeadline event.expectedDeadline
  sendStartedOffsetUs := instantOffsetMicros baseDeadline event.sendStartedAt
  sentOffsetUs := instantOffsetMicros baseDeadline event.sentAt
  mediaDurationMs := event.mediaDurationMs
  mediaDurationSamples := event.mediaDurationSamples
  rtpSequence := event.rtpSequence
  rtpTimestamp := event.rtpTimestamp
  protectionNonce := event.protectionNonce
  sourceFrameEpoch := event.sourceFrameEpoch
  sourceMediaPositionMs := event.sourceMediaPositionMs
  sourceMediaPositionSamples := event.sourceMediaPositionSamples
  sourceMediaBytePosition := event.sourceMediaBytePosition
  committedHeardMedia := event.committedHeardMedia

def playbackSendEventSnapshots (events : List PlaybackSendEventRecord) :
    List PlaybackSendEventSnapshot :=
  match events.head? with
  | none => []
  | some first => events.map (playbackSendEventSnapshot first.expectedDeadline)

/-- The evidence in a snapshot: the raw events and samples, and what is recomputed from them. -/
structure PlaybackStabilitySnapshot where
  preparedTrackQueueTargetMs : ℕ
  preparedTrackQueueLowWatermarkMs : ℕ
  preparedTrackQueueHighWatermarkMs : ℕ
  activePrePausePreparedTrackQueueDepth : PlaybackQueueDepthStatsSnapshot OpusBufferDepth
  activePostResumePreparedTrackQueueDepth : PlaybackQueueDepthStatsSnapshot OpusBufferDepth
  preparedTrackQueueDepthSampleCount : ℕ
  preparedTrackQueueEmptyCount : ℕ
  rawSendEvents : List PlaybackSendEventSnapshot
  rawPreparedTrackQueueSamples : List PreparedTrackQueueDepthSampleSnapshot
  rawPreparedPlayoutQueueEvents : List PreparedPlayoutQueueEventSnapshot
  preparedTrackPacketDropCount : ℕ
  preparedSilencePacketDropCount : ℕ
  preparedPacketRebuildCount : ℕ
  deriving DecidableEq, Repr

/-- `snapshot`, of what the collector has kept. -/
def snapshot (sort : UnstableSort) (depths : PreparedTrackQueueDepths)
    (sendEvents : List PlaybackSendEventRecord) (queueEvents : Media.PlaybackStabilityCollector) :
    PlaybackStabilitySnapshot :=
  let activePrePause := depths.activePrePause.snapshot sort
  let activePostResume := depths.activePostResume.snapshot sort
  { preparedTrackQueueTargetMs := depths.targetMs
    preparedTrackQueueLowWatermarkMs := depths.lowWatermarkMs
    preparedTrackQueueHighWatermarkMs := depths.highWatermarkMs
    activePrePausePreparedTrackQueueDepth := activePrePause
    activePostResumePreparedTrackQueueDepth := activePostResume
    preparedTrackQueueDepthSampleCount :=
      saturatingAdd activePrePause.sampleCount activePostResume.sampleCount
    preparedTrackQueueEmptyCount :=
      saturatingAdd activePrePause.emptyCount activePostResume.emptyCount
    rawSendEvents := playbackSendEventSnapshots sendEvents
    rawPreparedTrackQueueSamples := depths.rawSamples
    rawPreparedPlayoutQueueEvents := queueEvents.rawPreparedPlayoutQueueEvents
    preparedTrackPacketDropCount := queueEvents.preparedTrackPacketDropCount
    preparedSilencePacketDropCount := queueEvents.preparedSilencePacketDropCount
    preparedPacketRebuildCount := queueEvents.preparedPacketRebuildCount }

end DiscordVoice.Session.Evidence
