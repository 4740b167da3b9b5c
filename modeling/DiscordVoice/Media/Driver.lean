import DiscordVoice.Media.DeadlineSender
import DiscordVoice.Voice.Drain

namespace DiscordVoice.Media

open Voice Playback

def playbackQueueCapacity : ℕ := 1024

def playbackBufferMemoryCapBytes : ℕ := 4 * 1024 * 1024

def egressTargetSamples : ℕ := samplesFromDurationMs 400

def egressHighWatermarkMs : ℕ := 500

def egressHighWatermarkSamples : ℕ := samplesFromDurationMs egressHighWatermarkMs

def sourceUnderrunDeadlineAheadPackets : ℕ := 3

def stopAudioBoundarySilencePackets : ℕ := 5

def metricsChannelCapacity : ℕ := 1024

inductive MediaCommand
  | pause
  | resume
  | stop (accountPoppedFrameAsSkipped : Bool)
  deriving DecidableEq, Repr

structure SourceBufferState where
  queue : OpusFrameQueue
  endOfStream : Bool
  error : Option String
  deriving DecidableEq, Repr

structure PreparedTrackPlayout where
  command : PreparedPlayoutCommand
  frame : OpusFrame
  deriving DecidableEq, Repr

def preparedFrames (prepared : List PreparedTrackPlayout) : List OpusFrame :=
  prepared.map PreparedTrackPlayout.frame

def preparedIsFull (prepared : List PreparedTrackPlayout) : Bool :=
  egressHighWatermarkSamples ≤ durationSamples (preparedFrames prepared) ||
    playbackQueueCapacity ≤ prepared.length ||
    playbackBufferMemoryCapBytes ≤ byteLength (preparedFrames prepared)

def preparedFits (prepared : List PreparedTrackPlayout) (f : OpusFrame) : Bool :=
  durationSamples (preparedFrames prepared) + f.samples ≤ egressHighWatermarkSamples &&
    prepared.length < playbackQueueCapacity &&
    byteLength (preparedFrames prepared) + f.byteLen ≤ playbackBufferMemoryCapBytes

/-- `PendingDeadlineCommand`: what the driver keeps of a command it gave to its sender. -/
structure PendingDeadlineCommand extends DeadlineDropRecord where
  frame : Option OpusFrame
  deriving DecidableEq, Repr

namespace PendingDeadlineCommand

def new (c : PreparedPlayoutCommand) (frame : Option OpusFrame) : PendingDeadlineCommand :=
  ⟨c.dropRecord, frame⟩

def matchesSentRecord (p : PendingDeadlineCommand) (r : DeadlineSendRecord) : Bool :=
  p.toDeadlineSendRecord = r

def matchesDropRecord (p : PendingDeadlineCommand) (r : DeadlineDropRecord) : Bool :=
  p.toDeadlineDropRecord = r

end PendingDeadlineCommand

def pendingTrackSamples (pending : List PendingDeadlineCommand) : ℕ :=
  durationSamples (pending.filterMap (·.frame))

inductive PlaybackPipelineMetric
  | senderSent (record : DeadlineSendRecord)
  | other
  deriving DecidableEq, Repr

/-- The two ways through the middle of the loop: after a gateway drain that had to be settled, and
on the way to a slot. -/
inductive Route
  | settle
  | slot
  deriving DecidableEq, Repr

inductive CommandSite
  | first
  | second
  | waiting
  | select
  deriving DecidableEq, Repr

inductive Interruption
  | pause (site : CommandSite)
  | stop (site : CommandSite)
  | stale
  | dave (route : Route)
  deriving DecidableEq, Repr

inductive OutcomeSite
  | top
  | dave (route : Route)
  | select
  deriving DecidableEq, Repr

inductive FillNext
  | loop
  | pop
  deriving DecidableEq, Repr

inductive SilenceSite
  | after (route : Route)
  | underrun
  deriving DecidableEq, Repr

inductive DriverResult
  | ok (endedNaturally : Bool)
  | error
  deriving DecidableEq, Repr

/-- Where the driver stands in `run_loop` and the functions it calls. -/
inductive DriverPc
  | top
  | ready (site : OutcomeSite)
  | outcomes (site : OutcomeSite) (sent : List DeadlineSendRecord)
  | report (site : OutcomeSite) (sent : List DeadlineSendRecord)
  | commands (second : Bool)
  | apply (site : CommandSite) (command : MediaCommand)
  | waiting
  | waitingCommand
  | sourceCheck
  | gateway
  | invalidate (reason : Interruption)
  | discard (reason : Interruption)
  | replace (reason : Interruption)
  | flush (reason : Interruption) (frames : List OpusFrame)
  | restore (reason : Interruption) (frames : List OpusFrame)
  | refillStart (route : Route) (next : FillNext)
  | refill (route : Route) (next : FillNext)
  | refillRestore (route : Route) (next : FillNext) (frame : OpusFrame)
  | fillLoop (route : Route)
  | fillPop (route : Route)
  | pump (route : Route)
  | silence (site : SilenceSite)
  | secondCheck
  | invalidateAgain (exiting : Bool)
  | discardAgain (exiting : Bool)
  | endCheck
  | select
  | boundary (site : CommandSite) (left : ℕ) (sent : List DeadlineSendRecord)
  | boundaryWait (site : CommandSite) (left : ℕ) (sent : List DeadlineSendRecord)
  | boundaryReport (site : CommandSite) (sent : List DeadlineSendRecord)
  | exited (result : DriverResult)
  deriving DecidableEq, Repr

/-- The live media driver with everything it shares: the senders, the source buffer, its mailbox
and the metrics channel with the position behind it. `produced` is what the source has yielded so
far. -/
structure MediaState where
  playbackEpoch : ℕ
  currentPlaybackEpoch : ℕ
  generation : ℕ
  wire : Wire
  current : DeadlineSender
  old : List DeadlineSender
  preparer : VoicePacketPreparer
  source : SourceBufferState
  producerDone : Bool
  produced : List OpusFrame
  egress : OpusFrameQueue
  prepared : List PreparedTrackPlayout
  pending : List PendingDeadlineCommand
  paused : Bool
  sourceEnded : Bool
  sourceUnderrunActive : Bool
  mailbox : List MediaCommand
  mailboxClosed : Bool
  metrics : List PlaybackPipelineMetric
  sentDurationSamples : ℕ
  returned : Bool
  pc : DriverPc

/-- A choice the driver does not make itself: what the session or the gateway answers, and which
ready arm a `select!` takes. -/
inductive DriverAnswer
  | go
  | session (answer : Except VoiceError Bytes)
  | drained (daveTransition : Bool)
  | settled
  | gatewayFailed
  | sentRecord
  | dropRecord
  | command
  | sleep

namespace MediaState

def goto (s : MediaState) (pc : DriverPc) : MediaState := { s with pc }

/-- `run_loop` returns, and lets go of its sender. -/
def exit (s : MediaState) (result : DriverResult) : MediaState :=
  { s with current := { s.current with dropped := true }, pc := .exited result }

def fail (s : MediaState) : MediaState := s.exit .error

def playbackIsCurrent (s : MediaState) : Bool := s.currentPlaybackEpoch = s.playbackEpoch

/-- `current_source_depth`, which takes the producer's error out of the buffer and passes it on. -/
def readSourceDepth (s : MediaState) (next : MediaState) : MediaState :=
  match s.source.error with
  | some _ => ({ s with source := { s.source with error := none } } : MediaState).fail
  | none => next

def sendMetric (s : MediaState) (m : PlaybackPipelineMetric) : MediaState :=
  if s.metrics.length < metricsChannelCapacity then { s with metrics := s.metrics ++ [m] } else s

/-- `restore_live_source_frame`; a frame that no longer fits is lost. -/
def restoreLiveSourceFrame (s : MediaState) (f : OpusFrame) : MediaState :=
  match s.source.queue.pushFront f with
  | .ok queue => { s with source := { s.source with queue } }
  | .error _ => s

def accountUnsentEgressFrame (s : MediaState) (f : OpusFrame) : MediaState :=
  match s.egress.pushFront f with
  | .ok egress => { s with egress }
  | .error f => s.restoreLiveSourceFrame f

def takeSendRecord (s : MediaState) (rest : List DeadlineSendRecord) : MediaState :=
  { s with current := { s.current with sendRecords := rest } }

def takeDropRecord (s : MediaState) (rest : List DeadlineDropRecord) : MediaState :=
  { s with current := { s.current with dropRecords := rest } }

/-- `account_deadline_outcome` for a packet that was sent; `next` is where the driver goes on. -/
def accountSent (s : MediaState) (r : DeadlineSendRecord) (next : DriverPc) : MediaState :=
  match s.pending with
  | [] => s.fail
  | p :: pending =>
    if p.matchesSentRecord r then ({ s with pending } : MediaState).goto next
    else ({ s with pending } : MediaState).fail

def accountDropped (s : MediaState) (r : DeadlineDropRecord) (next : DriverPc) : MediaState :=
  match s.pending with
  | [] => s.fail
  | p :: pending =>
    if p.matchesDropRecord r then
      match p.frame with
      | some f => (({ s with pending } : MediaState).accountUnsentEgressFrame f).goto next
      | none => ({ s with pending } : MediaState).goto next
    else ({ s with pending } : MediaState).fail

/-- `drain_ready_deadline_outcomes`, one outcome at a time. -/
def drainOutcome (s : MediaState) (site : OutcomeSite) (sent : List DeadlineSendRecord) :
    MediaState :=
  match s.current.sendRecords with
  | r :: rest => (s.takeSendRecord rest).accountSent r (.outcomes site (sent ++ [r]))
  | [] =>
    if s.current.isStopped then
      s.fail
    else
      match s.current.dropRecords with
      | r :: rest => (s.takeDropRecord rest).accountDropped r (.outcomes site sent)
      | [] => s.goto (.report site sent)

def afterReport : OutcomeSite → DriverPc
  | .top => .commands false
  | .dave route => .invalidate (.dave route)
  | .select => .top

def afterCommand : CommandSite → DriverPc
  | .first => .commands false
  | .second => .commands true
  | .waiting => .waiting
  | .select => .top

def afterInterruption (s : MediaState) : Interruption → MediaState
  | .pause site => s.goto (.boundary site stopAudioBoundarySilencePackets [])
  | .stop .second => s.goto (.invalidateAgain true)
  | .stop _ => s.exit (.ok false)
  | .stale => s.exit (.ok false)
  | .dave route => s.goto (.refillStart route .loop)

def afterSilence : SilenceSite → DriverPc
  | .after .settle => .top
  | .after .slot => .secondCheck
  | .underrun => .select

def afterRefill (route : Route) : FillNext → DriverPc
  | .loop => .fillLoop route
  | .pop => .fillPop route

def invalidatePreparedPlayoutGeneration (s : MediaState) : MediaState :=
  { s with generation := s.generation + 1 }

def discardUnsentPreparedPackets (s : MediaState) : MediaState :=
  { s with preparer :=
    { s.preparer with reservedSequence := unpackRtpCursor s.wire.sendSequence } }

/-- A new sender takes over; the commands of the old one are given up and their frames collected. -/
def replaceDeadlineSender (s : MediaState) : MediaState :=
  { s with
    old := s.old ++ [{ s.current with dropped := true }]
    current := .spawn
    pending := [] }

/-- `restore_interrupted_frames_to_egress_buffer`: the refused frames come back beside the
buffer. -/
def restoreInterruptedFrames (egress : OpusFrameQueue) :
    List OpusFrame → OpusFrameQueue × List OpusFrame
  | [] => (egress, [])
  | f :: frames =>
    match egress.push f with
    | .ok egress => restoreInterruptedFrames egress frames
    | .error f =>
      let (egress, refused) := restoreInterruptedFrames egress frames
      (egress, f :: refused)

def flushEgressBuffer (s : MediaState) (reason : Interruption) (frames : List OpusFrame) :
    MediaState :=
  let frames := frames ++ preparedFrames s.prepared ++ s.egress.inner
  let (egress, refused) := restoreInterruptedFrames s.egress.cleared frames
  let error := if frames.isEmpty then s.source.error else none
  { s with
    prepared := []
    egress
    source := { s.source with error }
    pc := .restore reason refused.reverse }

/-- One round of the loop of `refill_egress_buffer`. -/
def refillRound (s : MediaState) (route : Route) (next : FillNext) : MediaState :=
  if !s.sourceEnded ∧
      s.egress.bufferedSamples <
        egressTargetSamples - pendingTrackSamples s.pending -
          durationSamples (preparedFrames s.prepared) ∧
      !s.egress.isFull then
    s.readSourceDepth <|
      match s.source.queue.pop with
      | none =>
        { s with
          sourceEnded := s.source.endOfStream
          pc := afterRefill route next }
      | some (f, queue) =>
        let f := f.withEpoch s.playbackEpoch
        let s := { s with source := { s.source with queue }, sourceUnderrunActive := false }
        match s.egress.push f with
        | .ok egress => { s with egress }
        | .error f => s.goto (.refillRestore route next f)
  else
    s.goto (afterRefill route next)

def fillRound (s : MediaState) (route : Route) : MediaState :=
  if (!s.sourceEnded ∨ s.egress.inner ≠ []) ∧
      pendingTrackSamples s.pending + durationSamples (preparedFrames s.prepared) <
        egressTargetSamples ∧
      !preparedIsFull s.prepared then
    s.goto (if s.egress.inner = [] then .refillStart route .pop else .fillPop route)
  else
    s.goto (.pump route)

/-- `prepare_current_slot_audio_packet`: the payload the session answers becomes a packet at the
preparer's cursor. -/
def prepareCurrentSlotAudioPacket (aead : Aead) (s : MediaState) (payload : Bytes)
    (samples : UInt32) : Except VoiceError PreparedVoicePacket × MediaState :=
  match s.preparer.prepareAudioPacketWithDurationSamples aead payload
      (audioDurationMsFromSamples samples) samples with
  | (r, preparer) => (r, { s with preparer })

def prepareTrack (aead : Aead) (s : MediaState) (route : Route) (f : OpusFrame) :
    Except VoiceError Bytes → MediaState
  | .error _ => s.fail
  | .ok payload =>
    match s.prepareCurrentSlotAudioPacket aead payload f.durationSamples with
    | (.error _, s) => s.fail
    | (.ok packet, s) =>
      if preparedFits s.prepared f then
        { s with
          prepared := s.prepared ++
            [⟨⟨packet, .track, some (preparedMediaFrame f), s.generation, some f⟩, f⟩]
          pc := .refillStart route .loop }
      else
        s.fail

def pumpRound (s : MediaState) (route : Route) : MediaState :=
  match s.prepared with
  | [] => s.goto (.silence (.after route))
  | p :: prepared =>
    if s.current.availableCommandCapacity = 0 then
      s.goto (.silence (.after route))
    else if s.current.isStopped then
      ({ s with prepared } : MediaState).fail
    else
      { s with
        prepared
        current := { s.current with commands := s.current.commands ++ [p.command] }
        pending := s.pending ++ [.new p.command (some p.frame)] }

/-- A packet of silence straight to the sender, at the preparer's cursor. -/
def prepareSilence (aead : Aead) (s : MediaState) (kind : PreparedPacketKind)
    (next : PreparedPlayoutCommand → MediaState → MediaState) :
    Except VoiceError Bytes → MediaState
  | .error _ => s.fail
  | .ok payload =>
    match s.prepareCurrentSlotAudioPacket aead payload 960 with
    | (.error _, s) => s.fail
    | (.ok packet, s) =>
      let command : PreparedPlayoutCommand := ⟨packet, kind, none, s.generation, none⟩
      if s.current.isStopped then
        s.fail
      else
        next command
          { s with current := { s.current with commands := s.current.commands ++ [command] } }

def pendingSourceSilence (s : MediaState) : ℕ :=
  s.pending.countP fun p ↦ p.kind = .scheduledSilence ∧ p.frame.isNone

def wantsSilence (s : MediaState) : SilenceSite → Bool
  | .after _ => s.sourceUnderrunActive && !s.sourceEnded
  | .underrun => true

/-- The condition of the loops that queue source silence. -/
def silenceIsDue (s : MediaState) (site : SilenceSite) : Bool :=
  s.wantsSilence site && s.pendingSourceSilence < sourceUnderrunDeadlineAheadPackets &&
    0 < s.current.availableCommandCapacity

def applyCommand (s : MediaState) (site : CommandSite) :
    MediaCommand → DriverAnswer → Option MediaState
  | .pause, .go =>
    some (s.goto (if s.paused then afterCommand site else .invalidate (.pause site)))
  | .resume, .session answer =>
    if s.paused then
      match answer with
      | .ok _ => some { s with paused := false, pc := afterCommand site }
      | .error _ => some ({ s with paused := false } : MediaState).fail
    else
      some (s.goto (afterCommand site))
  | .stop _, .go => some (s.goto (.invalidate (.stop site)))
  | _, _ => none

def receiveCommand (s : MediaState) (site : CommandSite) : Option MediaState :=
  match s.mailbox with
  | c :: mailbox => some { s with mailbox, pc := .apply site c }
  | [] => if s.mailboxClosed then some (s.exit (.ok false)) else none

/-- `next_outcome`: the arm for sent packets, and the arm for dropped ones. -/
def selectSent (s : MediaState) (next : DeadlineSendRecord → MediaState → MediaState) :
    Option MediaState :=
  match s.current.sendRecords with
  | r :: rest => some (next r (s.takeSendRecord rest))
  | [] => if s.current.isStopped then some s.fail else none

def selectDropped (s : MediaState) (next : DeadlineDropRecord → MediaState → MediaState) :
    Option MediaState :=
  match s.current.dropRecords with
  | r :: rest => some (next r (s.takeDropRecord rest))
  | [] => if s.current.isStopped then some s.fail else none

/-- One step of the driver: at most one access to what it shares with the other threads. -/
def driverStep (aead : Aead) (s : MediaState) (answer : DriverAnswer) : Option MediaState :=
  match s.pc, answer with
  | .top, .go =>
    some (s.goto (if s.playbackIsCurrent then .ready .top else .invalidate .stale))
  | .ready site, .go => some (s.readSourceDepth (s.goto (.outcomes site [])))
  | .outcomes site sent, .go => some (s.drainOutcome site sent)
  | .report site [], .go => some (s.goto (afterReport site))
  | .report site (r :: sent), .go =>
    some ((s.sendMetric (.senderSent r)).goto (.report site sent))
  | .commands second, .go =>
    match s.mailbox with
    | c :: mailbox => some { s with mailbox, pc := .apply (if second then .second else .first) c }
    | [] =>
      some (s.goto <|
        if second then
          if s.paused then .invalidateAgain false else .endCheck
        else
          if s.paused then .waiting else .sourceCheck)
  | .apply site command, answer => s.applyCommand site command answer
  | .waiting, .go =>
    some <|
      if !s.paused then s.goto .top
      else if s.playbackIsCurrent then s.goto .waitingCommand else s.exit (.ok false)
  | .waitingCommand, .command => s.receiveCommand .waiting
  | .waitingCommand, .sleep => some (s.goto .waiting)
  | .sourceCheck, .go =>
    if s.sourceEnded then
      some (s.readSourceDepth
        { s with sourceEnded := s.source.queue.inner.isEmpty, pc := .gateway })
    else
      some (s.goto .gateway)
  | .gateway, .drained daveTransition =>
    some (s.goto (if daveTransition then .ready (.dave .slot) else .refillStart .slot .loop))
  | .gateway, .settled => some (s.goto (.ready (.dave .settle)))
  | .gateway, .gatewayFailed => some s.fail
  | .invalidate reason, .go =>
    some (s.invalidatePreparedPlayoutGeneration.goto (.discard reason))
  | .discard reason, .go => some (s.discardUnsentPreparedPackets.goto (.replace reason))
  | .replace reason, .session (.ok _) =>
    some (s.replaceDeadlineSender.goto (.flush reason (s.pending.filterMap (·.frame))))
  | .replace _, .session (.error _) => some s.fail
  | .flush reason frames, .go => some (s.flushEgressBuffer reason frames)
  | .restore reason [], .go => some (s.afterInterruption reason)
  | .restore reason (f :: frames), .go =>
    some ((s.restoreLiveSourceFrame f).goto (.restore reason frames))
  | .refillStart route next, .go => some (s.readSourceDepth (s.goto (.refill route next)))
  | .refill route next, .go => some (s.refillRound route next)
  | .refillRestore route next f, .go =>
    some ((s.restoreLiveSourceFrame f).goto (afterRefill route next))
  | .fillLoop route, .go => some (s.fillRound route)
  | .fillPop route, .session answer =>
    match s.egress.pop with
    | none => some (s.goto (.pump route))
    | some (f, egress) =>
      some (({ s with egress } : MediaState).prepareTrack aead route f answer)
  | .pump route, .go => some (s.pumpRound route)
  | .silence site, .session answer =>
    if s.silenceIsDue site then
      some (s.prepareSilence aead .scheduledSilence
        (fun command s ↦ { s with pending := s.pending ++ [.new command none] }) answer)
    else
      some (s.goto (afterSilence site))
  | .secondCheck, .go =>
    some (s.goto (if s.playbackIsCurrent then .commands true else .invalidate .stale))
  | .invalidateAgain exiting, .go =>
    some (s.invalidatePreparedPlayoutGeneration.goto (.discardAgain exiting))
  | .discardAgain exiting, .go =>
    some <|
      if exiting then s.discardUnsentPreparedPackets.exit (.ok false)
      else s.discardUnsentPreparedPackets.goto .waiting
  | .endCheck, .go =>
    if s.pending = [] then
      if s.sourceEnded then some (s.exit (.ok true))
      else some { s with sourceUnderrunActive := true, pc := .silence .underrun }
    else
      some (s.goto .select)
  | .select, .sentRecord => s.selectSent fun r s ↦ s.accountSent r (.report .select [r])
  | .select, .dropRecord => s.selectDropped fun r s ↦ s.accountDropped r .top
  | .select, .command => s.receiveCommand .select
  | .boundary site 0 sent, .session answer =>
    match answer with
    | .ok _ => some (s.goto (.boundaryReport site sent))
    | .error _ => some s.fail
  | .boundary site (left + 1) sent, .session answer =>
    if 0 < s.current.availableCommandCapacity then
      some (s.prepareSilence aead .boundarySilence
        (fun _ s ↦ s.goto (.boundaryWait site left sent)) answer)
    else none
  | .boundaryWait site left sent, .sentRecord =>
    s.selectSent fun r s ↦
      if r.kind = .boundarySilence then s.goto (.boundary site left (sent ++ [r])) else s.fail
  | .boundaryWait _ _ _, .dropRecord => s.selectDropped fun _ s ↦ s.fail
  | .boundaryReport site [], .go => some { s with paused := true, pc := afterCommand site }
  | .boundaryReport site (r :: sent), .go =>
    some ((s.sendMetric (.senderSent r)).goto (.boundaryReport site sent))
  | _, _ => none

/-- Everything that can happen next: a step of the driver or of a sender, new frames or a failure
of the producer, a command or the end of the mailbox, a newer playback, and the consumer of the
metrics. -/
inductive Action
  | driver (answer : DriverAnswer)
  | sender (socketOk : Bool)
  | oldSender (index : ℕ) (socketOk : Bool)
  | produce (frames : List OpusFrame) (ended : Bool)
  | produceFailed (err : String)
  | send (command : MediaCommand)
  | closeMailbox
  | supersede (epoch : ℕ)
  | otherMetric
  | consume
  | finish

/-- The producer hands over its batch, up to the first frame that does not fit. -/
def pushAll (queue : OpusFrameQueue) : List OpusFrame → OpusFrameQueue × List OpusFrame
  | [] => (queue, [])
  | f :: frames =>
    match queue.push f with
    | .ok queue =>
      let (queue, pushed) := pushAll queue frames
      (queue, f :: pushed)
    | .error _ => (queue, [])

/-- The consumer counts the packets of the track. -/
def consumeMetric (s : MediaState) : PlaybackPipelineMetric → MediaState
  | .senderSent r =>
    if r.mediaFrame.isSome then
      { s with sentDurationSamples := s.sentDurationSamples + r.durationSamples.toNat }
    else s
  | .other => s

def step (aead : Aead) (s : MediaState) : Action → Option MediaState
  | .driver answer => s.driverStep aead answer
  | .sender socketOk =>
    (s.current.step s.generation socketOk s.wire).map fun (current, wire) ↦
      { s with current, wire }
  | .oldSender index socketOk =>
    s.old[index]?.bind fun d ↦ (d.step s.generation socketOk s.wire).map fun (d, wire) ↦
      { s with old := s.old.set index d, wire }
  | .produce frames ended =>
    if s.producerDone then none
    else
      let (queue, pushed) := pushAll s.source.queue frames
      if pushed = frames then
        some { s with
          source := { s.source with queue, endOfStream := ended }
          producerDone := ended
          produced := s.produced ++ pushed }
      else
        some { s with
          source := { s.source with queue, error := some "buffer is full" }
          producerDone := true
          produced := s.produced ++ pushed }
  | .produceFailed err =>
    if s.producerDone then none
    else some { s with source := { s.source with error := some err }, producerDone := true }
  | .send command => some { s with mailbox := s.mailbox ++ [command] }
  | .closeMailbox => some { s with mailboxClosed := true }
  | .supersede epoch => some { s with currentPlaybackEpoch := epoch }
  | .otherMetric => some (s.sendMetric .other)
  | .consume =>
    if s.returned then none
    else
      match s.metrics with
      | m :: metrics => some (({ s with metrics } : MediaState).consumeMetric m)
      | [] => none
  | .finish =>
    match s.pc with
    | .exited _ => if s.returned then none else some { s with returned := true }
    | _ => none

/-- The driver as `send_playback_frames` spawns it: on a fresh buffer, with one sender. -/
def start (playbackEpoch : ℕ) (preparer : VoicePacketPreparer) (source : SourceBufferState)
    (sentDurationSamples : ℕ) : MediaState where
  playbackEpoch := playbackEpoch
  currentPlaybackEpoch := playbackEpoch
  generation := 0
  wire := ⟨packRtpCursor preparer.reservedSequence, []⟩
  current := .spawn
  old := []
  preparer := preparer
  source := source
  producerDone := source.endOfStream || source.error.isSome
  produced := source.queue.inner
  egress := .withResourceLimits playbackQueueCapacity playbackBufferMemoryCapBytes
    egressHighWatermarkMs
  prepared := []
  pending := []
  paused := false
  sourceEnded := false
  sourceUnderrunActive := false
  mailbox := []
  mailboxClosed := false
  metrics := []
  sentDurationSamples := sentDurationSamples
  returned := false
  pc := .top

/-- Steps of the driver that wait for nobody. -/
def goes (n : ℕ) : List Action := List.replicate n (.driver .go)

def payload : Action := .driver (.session (.ok [0xFC]))

def senderSteps (n : ℕ) : List Action := List.replicate n (.sender true)

def plainFrame (n : ℕ) : OpusFrame := ⟨[0xF8], 20, 960, 20 * n, 960 * n, none, 0⟩

/-- A driver without packet protection on a buffer that holds the given frames. -/
def plainStart (frames : List OpusFrame) (endOfStream : Bool) : MediaState :=
  .start 1 ⟨7, .new, none⟩
    ⟨{ OpusFrameQueue.withResourceLimits 1024 4194304 10000 with inner := frames },
      endOfStream, none⟩ 0

/-- One round of the loop with one frame in a source that goes on, up to the wait for an outcome. -/
def oneFrameRound : List Action :=
  goes 6 ++ [.driver (.drained false)] ++ goes 4 ++ [payload] ++ goes 5 ++ [payload] ++ goes 2 ++
    [payload] ++ goes 3

end MediaState

end DiscordVoice.Media
