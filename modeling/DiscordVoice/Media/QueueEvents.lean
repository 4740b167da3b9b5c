import DiscordVoice.Media.InterruptedFrames
import DiscordVoice.Playback.HttpStream

namespace DiscordVoice.Media

open Voice Playback

structure PreparedPlayoutTrackDropIdentity where
  reason : PreparedPlayoutQueueEventReason
  mediaDurationSamples : UInt32
  sourceFrameEpoch : ℕ
  sourceMediaPositionSamples : ℕ
  sourceMediaBytePosition : Option ℕ
  deriving DecidableEq, Repr

def preparedTrackDropCountsAsUnrecovered (event : PreparedPlayoutQueueEventSnapshot) : Bool :=
  !(event.reason = .stop || event.reason = .reconnect)

def preparedPlayoutTrackDropIdentity (event : PreparedPlayoutQueueEventSnapshot) :
    Option PreparedPlayoutTrackDropIdentity :=
  if event.commandKind ≠ .track then none
  else
    match event.sourceFrameEpoch, event.sourceMediaPositionSamples with
    | some epoch, some position =>
      some ⟨event.reason, event.mediaDurationSamples, epoch, position,
        event.sourceMediaBytePosition⟩
    | _, _ => none

/-- What `PlaybackStabilityCollector` keeps of the queue events. -/
structure PlaybackStabilityCollector where
  preparedTrackPacketDropCount : ℕ
  preparedSilencePacketDropCount : ℕ
  preparedPacketRebuildCount : ℕ
  unmatchedPreparedTrackDrops : List PreparedPlayoutTrackDropIdentity
  rawPreparedPlayoutQueueEvents : List PreparedPlayoutQueueEventSnapshot
  deriving DecidableEq, Repr

namespace PlaybackStabilityCollector

def new : PlaybackStabilityCollector := ⟨0, 0, 0, [], []⟩

def recordDropped (c : PlaybackStabilityCollector) (event : PreparedPlayoutQueueEventSnapshot) :
    PlaybackStabilityCollector :=
  match event.commandKind with
  | .track =>
    if preparedTrackDropCountsAsUnrecovered event then
      { c with
        preparedTrackPacketDropCount := saturatingAdd c.preparedTrackPacketDropCount 1
        unmatchedPreparedTrackDrops :=
          c.unmatchedPreparedTrackDrops ++ (preparedPlayoutTrackDropIdentity event).toList }
    else c
  | _ =>
    { c with preparedSilencePacketDropCount := saturatingAdd c.preparedSilencePacketDropCount 1 }

def recordRebuilt (c : PlaybackStabilityCollector) (event : PreparedPlayoutQueueEventSnapshot) :
    PlaybackStabilityCollector :=
  let c := { c with preparedPacketRebuildCount := saturatingAdd c.preparedPacketRebuildCount 1 }
  match preparedPlayoutTrackDropIdentity event with
  | none => c
  | some identity =>
    if identity ∈ c.unmatchedPreparedTrackDrops then
      { c with
        unmatchedPreparedTrackDrops := c.unmatchedPreparedTrackDrops.erase identity
        preparedTrackPacketDropCount := c.preparedTrackPacketDropCount - 1 }
    else c

def recordPreparedPlayoutQueueEvent (c : PlaybackStabilityCollector)
    (event : PreparedPlayoutQueueEventSnapshot) : PlaybackStabilityCollector :=
  let event := { event with eventIndex := c.rawPreparedPlayoutQueueEvents.length }
  let c := if event.eventKind = .droppedBeforeSend then c.recordDropped event else c
  let c := if event.eventKind = .rebuilt then c.recordRebuilt event else c
  { c with rawPreparedPlayoutQueueEvents := c.rawPreparedPlayoutQueueEvents ++ [event] }

def collect (events : List PreparedPlayoutQueueEventSnapshot) : PlaybackStabilityCollector :=
  events.foldl recordPreparedPlayoutQueueEvent new

end PlaybackStabilityCollector

def Interruption.eventReason : Interruption → PreparedPlayoutQueueEventReason
  | .pause _ => .pause
  | .stop _ => .stop
  | .stale => .interruption
  | .dave _ => .daveTransitionRecovery

/-- The events of `drain_egress_frames`. -/
def drainedEvents (reason : PreparedPlayoutQueueEventReason) :
    List PreparedTrackPlayout → List PreparedPlayoutQueueEventSnapshot
  | [] => []
  | p :: prepared =>
    preparedPlayoutQueueEvent .droppedBeforeSend reason p.command
      (depth (preparedFrames prepared)) :: drainedEvents reason prepared

theorem drainEvents_eq (reason : PreparedPlayoutQueueEventReason)
    (prepared : List PreparedTrackPlayout) :
    InterruptedBuffers.drainEvents reason prepared =
      (drainedEvents reason prepared).map .preparedPlayoutQueueEvent := by
  induction prepared with
  | nil => rfl
  | cons p prepared ih => rw [InterruptedBuffers.drainEvents, drainedEvents, List.map_cons, ih]

/-- The rebuild credits of the driver, and the queue events it has sent. -/
structure PlayoutHistory where
  credits : List PreparedFrameRebuildCredit
  events : List PreparedPlayoutQueueEventSnapshot

namespace PlayoutHistory

def tell (r : PlayoutHistory) (event : PreparedPlayoutQueueEventSnapshot) : PlayoutHistory :=
  { r with events := r.events ++ [event] }

def remember (r : PlayoutHistory) (f : OpusFrame) (reason : PreparedPlayoutQueueEventReason) :
    PlayoutHistory :=
  { r with credits := rememberRebuildCredit r.credits f reason }

/-- The frame of a prepared packet uses up its credit, and the event says so once the packet is in
the queue. -/
def prepare (r : PlayoutHistory) (prepared : List PreparedTrackPlayout) (p : PreparedTrackPlayout) :
    PlayoutHistory :=
  let (kind, reason, credits) :=
    match takeRebuildCredit r.credits p.frame with
    | some (reason, credits) => (PreparedPlayoutQueueEventKind.rebuilt, reason, credits)
    | none => (.enqueued, .steadyPlayback, r.credits)
  let r := { r with credits }
  if preparedFits prepared p.frame then
    r.tell (preparedPlayoutQueueEvent kind reason p.command
      (depth (preparedFrames (prepared ++ [p]))))
  else r

end PlayoutHistory

namespace MediaState

/-- `account_deadline_outcome` for a dropped packet. -/
def recordDropped (s : MediaState) (r : PlayoutHistory) (drop : DeadlineDropRecord) :
    PlayoutHistory :=
  match s.pending with
  | [] => r
  | p :: _ =>
    if p.matchesDropRecord drop then
      let r := r.tell
        (droppedPreparedPlayoutQueueEvent .interruption drop (depth (preparedFrames s.prepared)))
      match p.frame with
      | none => r
      | some f =>
        match s.egress.pushFront f, s.source.queue.pushFront f with
        | .error _, .error _ => r
        | _, _ => r.remember f .interruption
    else r

/-- What the driver does to its rebuild credits in a step, and the queue events it sends. -/
def record (aead : Aead) (s : MediaState) (answer : DriverAnswer) (r : PlayoutHistory) :
    PlayoutHistory :=
  match s.pc, answer with
  | .outcomes _ _, .go =>
    match s.current.sendRecords, s.current.dropRecords with
    | [], drop :: _ => if s.current.isStopped then r else s.recordDropped r drop
    | _, _ => r
  | .select, .dropRecord =>
    match s.current.dropRecords with
    | drop :: _ => s.recordDropped r drop
    | [] => r
  | .replace reason, .session (.ok _) =>
    { r with events := r.events ++ s.pending.map (pendingPreparedPlayoutQueueEvent
        .droppedBeforeSend reason.eventReason · (depth (preparedFrames s.prepared))) }
  | .flush reason frames, .go =>
    { credits := (restoreInterruptedFramesToEgressBuffer s.egress.cleared r.credits
        reason.eventReason (frames ++ preparedFrames s.prepared ++ s.egress.inner)).credits
      events := r.events ++ drainedEvents reason.eventReason s.prepared }
  | .restore reason (f :: _), .go =>
    match s.source.queue.pushFront f with
    | .ok _ => r.remember f reason.eventReason
    | .error _ => r
  | .fillPop _, .session (.ok payload) =>
    match s.egress.pop with
    | none => r
    | some (f, _) =>
      match (prepareCurrentSlotAudioPacket aead s payload f.durationSamples).1 with
      | .error _ => r
      | .ok packet =>
        r.prepare s.prepared
          ⟨⟨packet, .track, some (preparedMediaFrame f), s.generation, some f⟩, f⟩
  | .pump _, .go =>
    match s.prepared with
    | [] => r
    | p :: prepared =>
      if s.current.availableCommandCapacity = 0 then r
      else
        r.tell (preparedPlayoutQueueEvent .dequeuedToDeadlineSender .steadyPlayback p.command
          (depth (preparedFrames prepared)))
  | .silence site, .session (.ok payload) =>
    if s.silenceIsDue site then
      match (prepareCurrentSlotAudioPacket aead s payload 960).1 with
      | .error _ => r
      | .ok packet =>
        r.tell (preparedPlayoutQueueEvent .enqueued .sourceUnderrun
          ⟨packet, .scheduledSilence, none, s.generation, none⟩
          ⟨1, packet.bytes.length, packet.durationMs, packet.durationSamples.toNat⟩)
    else r
  | _, _ => r

end MediaState

/-- A run with the rebuild credits and the queue events of the driver. -/
structure Recorded where
  state : MediaState
  history : PlayoutHistory

namespace Recorded

def start (playbackEpoch : ℕ) (preparer : VoicePacketPreparer) (source : SourceBufferState)
    (position : ℕ) : Recorded :=
  ⟨.start playbackEpoch preparer source position, ⟨[], []⟩⟩

def step (aead : Aead) (r : Recorded) (action : MediaState.Action) : Option Recorded :=
  (r.state.step aead action).map fun t ↦
    ⟨t, match action with
      | .driver answer => r.state.record aead answer r.history
      | _ => r.history⟩

end Recorded

end DiscordVoice.Media
