import DiscordVoice.Session.Evidence

namespace DiscordVoice.Twilight

open Session Evidence

def usizeToU64 (value : ℕ) : ℕ := min value (2 ^ 64 - 1)

/-- The numbers of the enumerations on the wire. -/
def mapSendCommandKind : Media.PlaybackSendCommandKind → Int32
  | .track => 1
  | .scheduledSilence => 2
  | .boundarySilence => 3
  | .otherBoundary => 4

def mapPreparedPlayoutQueueEventKind : Media.PreparedPlayoutQueueEventKind → Int32
  | .unknown => 0
  | .enqueued => 1
  | .dequeuedToDeadlineSender => 2
  | .droppedBeforeSend => 3
  | .rebuilt => 4

def mapPreparedPlayoutQueueEventReason : Media.PreparedPlayoutQueueEventReason → Int32
  | .unspecified => 0
  | .steadyPlayback => 1
  | .pause => 2
  | .stop => 3
  | .daveTransitionRecovery => 4
  | .reconnect => 5
  | .sourceUnderrun => 6
  | .naturalEnd => 7
  | .interruption => 8

def mapPreparedTrackQueueSamplePhase : Evidence.PreparedTrackQueueSamplePhase → Int32
  | .activePrePause => 1
  | .activePostResume => 2

inductive PlaybackSendCommandKind
  | track
  | scheduledSilence
  | boundarySilence
  | otherBoundary
  | unspecified
  deriving DecidableEq, Repr

def PlaybackSendCommandKind.fromRaw (value : Int32) : PlaybackSendCommandKind :=
  if value = 1 then .track
  else if value = 2 then .scheduledSilence
  else if value = 3 then .boundarySilence
  else if value = 4 then .otherBoundary
  else .unspecified

inductive PreparedTrackQueueSamplePhase
  | activePrePause
  | activePostResume
  | unspecified
  deriving DecidableEq, Repr

def PreparedTrackQueueSamplePhase.fromRaw (value : Int32) : PreparedTrackQueueSamplePhase :=
  if value = 1 then .activePrePause
  else if value = 2 then .activePostResume
  else .unspecified

inductive PreparedPlayoutQueueEventKind
  | enqueued
  | dequeuedToDeadlineSender
  | droppedBeforeSend
  | rebuilt
  | unspecified
  deriving DecidableEq, Repr

def PreparedPlayoutQueueEventKind.fromRaw (value : Int32) : PreparedPlayoutQueueEventKind :=
  if value = 1 then .enqueued
  else if value = 2 then .dequeuedToDeadlineSender
  else if value = 3 then .droppedBeforeSend
  else if value = 4 then .rebuilt
  else .unspecified

inductive PreparedPlayoutQueueEventReason
  | steadyPlayback
  | pause
  | stop
  | daveTransitionRecovery
  | reconnect
  | sourceUnderrun
  | naturalEnd
  | interruption
  | unspecified
  deriving DecidableEq, Repr

def PreparedPlayoutQueueEventReason.fromRaw (value : Int32) : PreparedPlayoutQueueEventReason :=
  if value = 1 then .steadyPlayback
  else if value = 2 then .pause
  else if value = 3 then .stop
  else if value = 4 then .daveTransitionRecovery
  else if value = 5 then .reconnect
  else if value = 6 then .sourceUnderrun
  else if value = 7 then .naturalEnd
  else if value = 8 then .interruption
  else .unspecified

/-- A depth on the wire and behind it; all the fields are `u64` there. -/
structure PlaybackBufferDepthSnapshot where
  packets : ℕ
  bytes : ℕ
  durationMs : ℕ
  durationSamples : ℕ
  deriving DecidableEq, Repr

def PlaybackBufferDepthSnapshot.default : PlaybackBufferDepthSnapshot := ⟨0, 0, 0, 0⟩

def mapBufferDepth (depth : Media.OpusBufferDepth) : PlaybackBufferDepthSnapshot where
  packets := usizeToU64 depth.packets
  bytes := usizeToU64 depth.bytes
  durationMs := depth.durationMs
  durationSamples := depth.durationSamples

def mapQueueDepthStats (stats : PlaybackQueueDepthStatsSnapshot Media.OpusBufferDepth) :
    PlaybackQueueDepthStatsSnapshot (Option PlaybackBufferDepthSnapshot) :=
  { stats.map (some ∘ mapBufferDepth) with sampleCount := usizeToU64 stats.sampleCount }

def queueDepthStatsFrom (stats : PlaybackQueueDepthStatsSnapshot (Option PlaybackBufferDepthSnapshot)) :
    PlaybackQueueDepthStatsSnapshot PlaybackBufferDepthSnapshot :=
  stats.map (·.getD .default)

structure ProtoPlaybackSendEventSnapshot where
  packetIndex : ℕ
  commandKind : Int32
  expectedDeadlineOffsetUs : ℕ
  sendStartedOffsetUs : ℕ
  sentOffsetUs : ℕ
  mediaDurationMs : ℕ
  mediaDurationSamples : UInt32
  rtpSequence : UInt32
  rtpTimestamp : UInt32
  protectionNonce : Option UInt32
  sourceFrameEpoch : Option ℕ
  sourceMediaPositionMs : Option ℕ
  sourceMediaPositionSamples : Option ℕ
  sourceMediaBytePosition : Option ℕ
  committedHeardMedia : Bool
  deriving DecidableEq, Repr

def mapRawSendEvent (event : Evidence.PlaybackSendEventSnapshot) :
    ProtoPlaybackSendEventSnapshot where
  packetIndex := event.packetIndex
  commandKind := mapSendCommandKind event.commandKind
  expectedDeadlineOffsetUs := event.expectedDeadlineOffsetUs
  sendStartedOffsetUs := event.sendStartedOffsetUs
  sentOffsetUs := event.sentOffsetUs
  mediaDurationMs := event.mediaDurationMs
  mediaDurationSamples := event.mediaDurationSamples
  rtpSequence := event.rtpSequence.toUInt32
  rtpTimestamp := event.rtpTimestamp
  protectionNonce := event.protectionNonce
  sourceFrameEpoch := event.sourceFrameEpoch
  sourceMediaPositionMs := event.sourceMediaPositionMs
  sourceMediaPositionSamples := event.sourceMediaPositionSamples
  sourceMediaBytePosition := event.sourceMediaBytePosition
  committedHeardMedia := event.committedHeardMedia

structure PlaybackSendEventSnapshot where
  packetIndex : ℕ
  commandKind : PlaybackSendCommandKind
  expectedDeadlineOffsetUs : ℕ
  sendStartedOffsetUs : ℕ
  sentOffsetUs : ℕ
  mediaDurationMs : ℕ
  mediaDurationSamples : UInt32
  rtpSequence : UInt32
  rtpTimestamp : UInt32
  protectionNonce : Option UInt32
  sourceFrameEpoch : Option ℕ
  sourceMediaPositionMs : Option ℕ
  sourceMediaPositionSamples : Option ℕ
  sourceMediaBytePosition : Option ℕ
  committedHeardMedia : Bool
  deriving DecidableEq, Repr

def PlaybackSendEventSnapshot.from (value : ProtoPlaybackSendEventSnapshot) :
    PlaybackSendEventSnapshot where
  packetIndex := value.packetIndex
  commandKind := .fromRaw value.commandKind
  expectedDeadlineOffsetUs := value.expectedDeadlineOffsetUs
  sendStartedOffsetUs := value.sendStartedOffsetUs
  sentOffsetUs := value.sentOffsetUs
  mediaDurationMs := value.mediaDurationMs
  mediaDurationSamples := value.mediaDurationSamples
  rtpSequence := value.rtpSequence
  rtpTimestamp := value.rtpTimestamp
  protectionNonce := value.protectionNonce
  sourceFrameEpoch := value.sourceFrameEpoch
  sourceMediaPositionMs := value.sourceMediaPositionMs
  sourceMediaPositionSamples := value.sourceMediaPositionSamples
  sourceMediaBytePosition := value.sourceMediaBytePosition
  committedHeardMedia := value.committedHeardMedia

structure ProtoPreparedTrackQueueDepthSampleSnapshot where
  sampleIndex : ℕ
  phase : Int32
  depth : Option PlaybackBufferDepthSnapshot
  deriving DecidableEq, Repr

def mapRawPreparedTrackQueueSample (sample : Evidence.PreparedTrackQueueDepthSampleSnapshot) :
    ProtoPreparedTrackQueueDepthSampleSnapshot where
  sampleIndex := sample.sampleIndex
  phase := mapPreparedTrackQueueSamplePhase sample.phase
  depth := some (mapBufferDepth sample.depth)

structure PreparedTrackQueueDepthSampleSnapshot where
  sampleIndex : ℕ
  phase : PreparedTrackQueueSamplePhase
  depth : PlaybackBufferDepthSnapshot
  deriving DecidableEq, Repr

def PreparedTrackQueueDepthSampleSnapshot.from (value : ProtoPreparedTrackQueueDepthSampleSnapshot) :
    PreparedTrackQueueDepthSampleSnapshot where
  sampleIndex := value.sampleIndex
  phase := .fromRaw value.phase
  depth := value.depth.getD .default

structure ProtoPreparedPlayoutQueueEventSnapshot where
  eventIndex : ℕ
  eventKind : Int32
  reason : Int32
  commandKind : Int32
  mediaDurationMs : ℕ
  mediaDurationSamples : UInt32
  rtpSequence : UInt32
  rtpTimestamp : UInt32
  protectionNonce : Option UInt32
  sourceFrameEpoch : Option ℕ
  sourceMediaPositionMs : Option ℕ
  sourceMediaPositionSamples : Option ℕ
  sourceMediaBytePosition : Option ℕ
  queueDepthAfter : Option PlaybackBufferDepthSnapshot
  deriving DecidableEq, Repr

def mapRawPreparedPlayoutQueueEvent (event : Media.PreparedPlayoutQueueEventSnapshot) :
    ProtoPreparedPlayoutQueueEventSnapshot where
  eventIndex := event.eventIndex
  eventKind := mapPreparedPlayoutQueueEventKind event.eventKind
  reason := mapPreparedPlayoutQueueEventReason event.reason
  commandKind := mapSendCommandKind event.commandKind
  mediaDurationMs := event.mediaDurationMs
  mediaDurationSamples := event.mediaDurationSamples
  rtpSequence := event.rtpSequence
  rtpTimestamp := event.rtpTimestamp
  protectionNonce := event.protectionNonce
  sourceFrameEpoch := event.sourceFrameEpoch
  sourceMediaPositionMs := event.sourceMediaPositionMs
  sourceMediaPositionSamples := event.sourceMediaPositionSamples
  sourceMediaBytePosition := event.sourceMediaBytePosition
  queueDepthAfter := some (mapBufferDepth event.queueDepthAfter)

structure PreparedPlayoutQueueEventSnapshot where
  eventIndex : ℕ
  eventKind : PreparedPlayoutQueueEventKind
  reason : PreparedPlayoutQueueEventReason
  commandKind : PlaybackSendCommandKind
  mediaDurationMs : ℕ
  mediaDurationSamples : UInt32
  rtpSequence : UInt32
  rtpTimestamp : UInt32
  protectionNonce : Option UInt32
  sourceFrameEpoch : Option ℕ
  sourceMediaPositionMs : Option ℕ
  sourceMediaPositionSamples : Option ℕ
  sourceMediaBytePosition : Option ℕ
  queueDepthAfter : PlaybackBufferDepthSnapshot
  deriving DecidableEq, Repr

def PreparedPlayoutQueueEventSnapshot.from (value : ProtoPreparedPlayoutQueueEventSnapshot) :
    PreparedPlayoutQueueEventSnapshot where
  eventIndex := value.eventIndex
  eventKind := .fromRaw value.eventKind
  reason := .fromRaw value.reason
  commandKind := .fromRaw value.commandKind
  mediaDurationMs := value.mediaDurationMs
  mediaDurationSamples := value.mediaDurationSamples
  rtpSequence := value.rtpSequence
  rtpTimestamp := value.rtpTimestamp
  protectionNonce := value.protectionNonce
  sourceFrameEpoch := value.sourceFrameEpoch
  sourceMediaPositionMs := value.sourceMediaPositionMs
  sourceMediaPositionSamples := value.sourceMediaPositionSamples
  sourceMediaBytePosition := value.sourceMediaBytePosition
  queueDepthAfter := value.queueDepthAfter.getD .default

/-- The evidence in a snapshot on the wire. -/
structure ProtoPlaybackStabilitySnapshot where
  available : Bool
  preparedTrackQueueTargetMs : ℕ
  preparedTrackQueueLowWatermarkMs : ℕ
  preparedTrackQueueHighWatermarkMs : ℕ
  activePrePausePreparedTrackQueueDepth :
    Option (PlaybackQueueDepthStatsSnapshot (Option PlaybackBufferDepthSnapshot))
  activePostResumePreparedTrackQueueDepth :
    Option (PlaybackQueueDepthStatsSnapshot (Option PlaybackBufferDepthSnapshot))
  preparedTrackQueueDepthSampleCount : ℕ
  preparedTrackQueueEmptyCount : ℕ
  rawSendEvents : List ProtoPlaybackSendEventSnapshot
  rawPreparedTrackQueueSamples : List ProtoPreparedTrackQueueDepthSampleSnapshot
  rawPreparedPlayoutQueueEvents : List ProtoPreparedPlayoutQueueEventSnapshot
  preparedTrackPacketDropCount : ℕ
  preparedSilencePacketDropCount : ℕ
  preparedPacketRebuildCount : ℕ
  deriving DecidableEq, Repr

def mapPlaybackStabilitySnapshot (snapshot : Option Evidence.PlaybackStabilitySnapshot) :
    ProtoPlaybackStabilitySnapshot :=
  match snapshot with
  | none => ⟨false, 0, 0, 0, none, none, 0, 0, [], [], [], 0, 0, 0⟩
  | some snapshot =>
    { available := true
      preparedTrackQueueTargetMs := snapshot.preparedTrackQueueTargetMs
      preparedTrackQueueLowWatermarkMs := snapshot.preparedTrackQueueLowWatermarkMs
      preparedTrackQueueHighWatermarkMs := snapshot.preparedTrackQueueHighWatermarkMs
      activePrePausePreparedTrackQueueDepth :=
        some (mapQueueDepthStats snapshot.activePrePausePreparedTrackQueueDepth)
      activePostResumePreparedTrackQueueDepth :=
        some (mapQueueDepthStats snapshot.activePostResumePreparedTrackQueueDepth)
      preparedTrackQueueDepthSampleCount :=
        usizeToU64 snapshot.preparedTrackQueueDepthSampleCount
      preparedTrackQueueEmptyCount := snapshot.preparedTrackQueueEmptyCount
      rawSendEvents := snapshot.rawSendEvents.map mapRawSendEvent
      rawPreparedTrackQueueSamples :=
        snapshot.rawPreparedTrackQueueSamples.map mapRawPreparedTrackQueueSample
      rawPreparedPlayoutQueueEvents :=
        snapshot.rawPreparedPlayoutQueueEvents.map mapRawPreparedPlayoutQueueEvent
      preparedTrackPacketDropCount := snapshot.preparedTrackPacketDropCount
      preparedSilencePacketDropCount := snapshot.preparedSilencePacketDropCount
      preparedPacketRebuildCount := snapshot.preparedPacketRebuildCount }

/-- The evidence in a snapshot behind the wire. -/
structure PlaybackStabilitySnapshot where
  available : Bool
  preparedTrackQueueTargetMs : ℕ
  preparedTrackQueueLowWatermarkMs : ℕ
  preparedTrackQueueHighWatermarkMs : ℕ
  activePrePausePreparedTrackQueueDepth :
    Option (PlaybackQueueDepthStatsSnapshot PlaybackBufferDepthSnapshot)
  activePostResumePreparedTrackQueueDepth :
    Option (PlaybackQueueDepthStatsSnapshot PlaybackBufferDepthSnapshot)
  preparedTrackQueueDepthSampleCount : ℕ
  preparedTrackQueueEmptyCount : ℕ
  rawSendEvents : List PlaybackSendEventSnapshot
  rawPreparedTrackQueueSamples : List PreparedTrackQueueDepthSampleSnapshot
  rawPreparedPlayoutQueueEvents : List PreparedPlayoutQueueEventSnapshot
  preparedTrackPacketDropCount : ℕ
  preparedSilencePacketDropCount : ℕ
  preparedPacketRebuildCount : ℕ
  deriving DecidableEq, Repr

def PlaybackStabilitySnapshot.from (value : ProtoPlaybackStabilitySnapshot) :
    PlaybackStabilitySnapshot where
  available := value.available
  preparedTrackQueueTargetMs := value.preparedTrackQueueTargetMs
  preparedTrackQueueLowWatermarkMs := value.preparedTrackQueueLowWatermarkMs
  preparedTrackQueueHighWatermarkMs := value.preparedTrackQueueHighWatermarkMs
  activePrePausePreparedTrackQueueDepth :=
    value.activePrePausePreparedTrackQueueDepth.map queueDepthStatsFrom
  activePostResumePreparedTrackQueueDepth :=
    value.activePostResumePreparedTrackQueueDepth.map queueDepthStatsFrom
  preparedTrackQueueDepthSampleCount := value.preparedTrackQueueDepthSampleCount
  preparedTrackQueueEmptyCount := value.preparedTrackQueueEmptyCount
  rawSendEvents := value.rawSendEvents.map .from
  rawPreparedTrackQueueSamples := value.rawPreparedTrackQueueSamples.map .from
  rawPreparedPlayoutQueueEvents := value.rawPreparedPlayoutQueueEvents.map .from
  preparedTrackPacketDropCount := value.preparedTrackPacketDropCount
  preparedSilencePacketDropCount := value.preparedSilencePacketDropCount
  preparedPacketRebuildCount := value.preparedPacketRebuildCount

/-- What `playback_metrics` answers of a playback that the service has metrics of. -/
def playbackMetrics (snapshot : Evidence.PlaybackStabilitySnapshot) : PlaybackStabilitySnapshot :=
  .from (mapPlaybackStabilitySnapshot (some snapshot))

/-- An enumeration is read as it was written, without the numbers that no variant has. -/
def PlaybackSendCommandKind.of : Media.PlaybackSendCommandKind → PlaybackSendCommandKind
  | .track => .track
  | .scheduledSilence => .scheduledSilence
  | .boundarySilence => .boundarySilence
  | .otherBoundary => .otherBoundary

def PreparedPlayoutQueueEventKind.of :
    Media.PreparedPlayoutQueueEventKind → PreparedPlayoutQueueEventKind
  | .unknown => .unspecified
  | .enqueued => .enqueued
  | .dequeuedToDeadlineSender => .dequeuedToDeadlineSender
  | .droppedBeforeSend => .droppedBeforeSend
  | .rebuilt => .rebuilt

def PreparedPlayoutQueueEventReason.of :
    Media.PreparedPlayoutQueueEventReason → PreparedPlayoutQueueEventReason
  | .unspecified => .unspecified
  | .steadyPlayback => .steadyPlayback
  | .pause => .pause
  | .stop => .stop
  | .daveTransitionRecovery => .daveTransitionRecovery
  | .reconnect => .reconnect
  | .sourceUnderrun => .sourceUnderrun
  | .naturalEnd => .naturalEnd
  | .interruption => .interruption

def PreparedTrackQueueSamplePhase.of :
    Evidence.PreparedTrackQueueSamplePhase → PreparedTrackQueueSamplePhase
  | .activePrePause => .activePrePause
  | .activePostResume => .activePostResume

@[simp] theorem fromRaw_mapSendCommandKind (kind : Media.PlaybackSendCommandKind) :
    PlaybackSendCommandKind.fromRaw (mapSendCommandKind kind) = .of kind := by
  cases kind <;> decide

@[simp] theorem fromRaw_mapPreparedPlayoutQueueEventKind
    (kind : Media.PreparedPlayoutQueueEventKind) :
    PreparedPlayoutQueueEventKind.fromRaw (mapPreparedPlayoutQueueEventKind kind) = .of kind := by
  cases kind <;> decide

@[simp] theorem fromRaw_mapPreparedPlayoutQueueEventReason
    (reason : Media.PreparedPlayoutQueueEventReason) :
    PreparedPlayoutQueueEventReason.fromRaw (mapPreparedPlayoutQueueEventReason reason) =
      .of reason := by
  cases reason <;> decide

@[simp] theorem fromRaw_mapPreparedTrackQueueSamplePhase
    (phase : Evidence.PreparedTrackQueueSamplePhase) :
    PreparedTrackQueueSamplePhase.fromRaw (mapPreparedTrackQueueSamplePhase phase) = .of phase := by
  cases phase <;> decide

theorem PreparedPlayoutQueueEventReason.of_injective :
    Function.Injective PreparedPlayoutQueueEventReason.of := by
  intro a b h
  cases a <;> cases b <;> first | rfl | cases h

end DiscordVoice.Twilight
