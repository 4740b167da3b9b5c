import DiscordVoice.Media.Driver

namespace DiscordVoice.Media

open Playback

inductive PreparedPlayoutQueueEventKind
  | unknown
  | enqueued
  | dequeuedToDeadlineSender
  | droppedBeforeSend
  | rebuilt
  deriving DecidableEq, Repr

inductive PreparedPlayoutQueueEventReason
  | unspecified
  | steadyPlayback
  | pause
  | stop
  | daveTransitionRecovery
  | reconnect
  | sourceUnderrun
  | naturalEnd
  | interruption
  deriving DecidableEq, Repr

inductive PlaybackSendCommandKind
  | track
  | scheduledSilence
  | boundarySilence
  | otherBoundary
  deriving DecidableEq, Repr

def playbackSendCommandKind : PreparedPacketKind → PlaybackSendCommandKind
  | .track => .track
  | .scheduledSilence => .scheduledSilence
  | .boundarySilence => .boundarySilence

structure OpusBufferDepth where
  packets : ℕ
  bytes : ℕ
  durationMs : ℕ
  durationSamples : ℕ
  deriving DecidableEq, Repr

/-- The `depth` of a queue that holds the frames. -/
def depth (frames : List OpusFrame) : OpusBufferDepth where
  packets := frames.length
  bytes := byteLength frames
  durationMs := durationSamples frames * 1000 / 48000
  durationSamples := durationSamples frames

structure PreparedPlayoutQueueEventSnapshot where
  eventIndex : ℕ
  eventKind : PreparedPlayoutQueueEventKind
  reason : PreparedPlayoutQueueEventReason
  commandKind : PlaybackSendCommandKind
  mediaDurationMs : ℕ
  mediaDurationSamples : UInt32
  rtpSequence : UInt32
  rtpTimestamp : UInt32
  protectionNonce : Option UInt32
  sourceFrameEpoch : Option ℕ
  sourceMediaPositionMs : Option ℕ
  sourceMediaPositionSamples : Option ℕ
  sourceMediaBytePosition : Option ℕ
  queueDepthAfter : OpusBufferDepth
  deriving DecidableEq, Repr

/-- What the events of a command have in common, whether it is told from the command itself, from
the record of its drop or from what the driver keeps of it. -/
def queueEvent (kind : PreparedPlayoutQueueEventKind) (reason : PreparedPlayoutQueueEventReason)
    (record : DeadlineSendRecord) (queueDepthAfter : OpusBufferDepth) :
    PreparedPlayoutQueueEventSnapshot where
  eventIndex := 0
  eventKind := kind
  reason := reason
  commandKind := playbackSendCommandKind record.kind
  mediaDurationMs := record.durationMs
  mediaDurationSamples := record.durationSamples
  rtpSequence := record.rtpSequence.toUInt32
  rtpTimestamp := record.rtpTimestamp
  protectionNonce := record.protectionNonce
  sourceFrameEpoch := record.mediaFrame.map (·.epoch)
  sourceMediaPositionMs := record.mediaFrame.map (·.mediaPositionMs)
  sourceMediaPositionSamples := record.mediaFrame.map (·.mediaPositionSamples)
  sourceMediaBytePosition := record.mediaFrame.bind (·.mediaBytePosition)
  queueDepthAfter := queueDepthAfter

def preparedPlayoutQueueEvent (kind : PreparedPlayoutQueueEventKind)
    (reason : PreparedPlayoutQueueEventReason) (command : PreparedPlayoutCommand)
    (queueDepthAfter : OpusBufferDepth) : PreparedPlayoutQueueEventSnapshot :=
  queueEvent kind reason command.sendRecord queueDepthAfter

def droppedPreparedPlayoutQueueEvent (reason : PreparedPlayoutQueueEventReason)
    (drop : DeadlineDropRecord) (queueDepthAfter : OpusBufferDepth) :
    PreparedPlayoutQueueEventSnapshot :=
  queueEvent .droppedBeforeSend reason drop.toDeadlineSendRecord queueDepthAfter

def pendingPreparedPlayoutQueueEvent (kind : PreparedPlayoutQueueEventKind)
    (reason : PreparedPlayoutQueueEventReason) (pending : PendingDeadlineCommand)
    (queueDepthAfter : OpusBufferDepth) : PreparedPlayoutQueueEventSnapshot :=
  queueEvent kind reason pending.toDeadlineSendRecord queueDepthAfter

structure PreparedFrameIdentity where
  epoch : ℕ
  sourcePositionMs : ℕ
  sourcePositionSamples : ℕ
  sourceBytePosition : Option ℕ
  deriving DecidableEq, Repr

def preparedFrameIdentity (f : OpusFrame) : PreparedFrameIdentity where
  epoch := f.epoch
  sourcePositionMs := f.sourcePositionMs
  sourcePositionSamples := f.sourcePositionSamples
  sourceBytePosition := f.sourceBytePosition

structure PreparedFrameRebuildCredit where
  identity : PreparedFrameIdentity
  reason : PreparedPlayoutQueueEventReason
  deriving DecidableEq, Repr

def rememberRebuildCredit (credits : List PreparedFrameRebuildCredit) (f : OpusFrame)
    (reason : PreparedPlayoutQueueEventReason) : List PreparedFrameRebuildCredit :=
  credits ++ [⟨preparedFrameIdentity f, reason⟩]

/-- `take_rebuild_credit`: the first credit of the frame is used up. -/
def takeRebuildCredit (credits : List PreparedFrameRebuildCredit) (f : OpusFrame) :
    Option (PreparedPlayoutQueueEventReason × List PreparedFrameRebuildCredit) :=
  match credits with
  | [] => none
  | credit :: rest =>
    if credit.identity = preparedFrameIdentity f then some (credit.reason, rest)
    else (takeRebuildCredit rest f).map fun (reason, rest) ↦ (reason, credit :: rest)

end DiscordVoice.Media
