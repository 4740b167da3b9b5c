import DiscordVoice.Schedule
import DiscordVoice.Playback.OpusNormalizer
import DiscordVoice.Playback.Source

namespace DiscordVoice.Playback

open Voice (Bytes)

def timedOutReading (playableUrl : String) : PlaybackError :=
  .mediaParseDetail ("timed out reading playback source for " ++ playableUrl)

def isStaleSourceStatus (status : ℕ) : Bool :=
  status == 401 || status == 403 || status == 404 || status == 410

def isSteadyStateReadTimeout : PlaybackError → Bool
  | .mediaParseDetail message =>
    decide ("timed out reading playback source".toList <:+: message.toList)
  | _ => false

def shouldReresolveAfterSteadyReadFailure : PlaybackError → Bool
  | .http status => status.any isStaleSourceStatus
  | e => isSteadyStateReadTimeout e

structure PlaybackRecovery where
  lastVideoId : Option String
  lastResolved : Option ResolvedPlaybackSource
  deriving DecidableEq, Repr

/-- `PlaybackWorker`. The position it shares with its source is kept in the source. -/
structure PlaybackWorker (codec : OpusCodec) where
  currentVideoId : Option String
  recovery : PlaybackRecovery
  prebufferTargetMs : ℕ
  normalizer : DiscordOpusFrameNormalizer codec
  pendingFrames : List OpusFrame

/-- `enqueue_frames`: the queue and the frames parked beside it. -/
def enqueueFrames (queue : OpusFrameQueue) (parked : List OpusFrame) :
    List OpusFrame → OpusFrameQueue × List OpusFrame
  | [] => (queue, parked)
  | frame :: frames =>
    match queue.push frame with
    | .ok q => enqueueFrames q parked frames
    | .error f => enqueueFrames queue (parked ++ [f]) frames

/-- `drain_pending_frames`, with the frames that stay parked. -/
def drainPendingFrames (queue : OpusFrameQueue) :
    List OpusFrame → OpusFrameQueue × List OpusFrame × Bool
  | [] => (queue, [], true)
  | frame :: parked =>
    match queue.push frame with
    | .ok q => drainPendingFrames q parked
    | .error f => (queue, f :: parked, false)

/-- Which of its reads `read_stream_chunk` is at. -/
inductive ReadAttempt
  | first
  | afterReset
  | afterResolve
  deriving DecidableEq, Repr

inductive FillPc
  | loop
  | reading (attempt : ReadAttempt)
  | resolving (videoId : String)
  | yielding (packets : List DemuxedPacket)
  | returned (result : Except PlaybackError Unit)

/-- What has gone through a source since it was opened: the chunks its demuxer was given, each with
the address it was read from, the frames of the normalizer, and the last chunk read. -/
structure FillLog where
  demuxed : List (String × Bytes)
  produced : List OpusFrame
  lastRead : Option (Option Bytes)

/-- A call of `fill_queue_to_duration_ms_for_video`. -/
structure Filling (codec : OpusCodec) where
  worker : PlaybackWorker codec
  source : PlaybackSource
  queue : OpusFrameQueue
  targetSamples : ℕ
  videoId : Option String
  pc : FillPc
  log : FillLog

inductive FillMove
  /-- A further call on the same worker and source. -/
  | begin (queue : OpusFrameQueue) (targetMs : ℕ)
  | pass
  | answer (answer : NetAnswer)
  | timedOut
  | resolve (song : Except PlaybackError SongReply) (playableUrl : Except PlaybackError String)
  | yielded

namespace Filling

variable {codec : OpusCodec}

def begun (f : Filling codec) (queue : OpusFrameQueue) (targetMs : ℕ) (videoId : Option String) :
    Filling codec :=
  { f with
    queue, targetSamples := samplesFromDurationMs (max targetMs 1), videoId, pc := .loop }

def reached (f : Filling codec) : Bool :=
  decide (f.targetSamples ≤ f.queue.bufferedSamples) || f.queue.isFull

def withFrames (f : Filling codec) (queue : OpusFrameQueue) (pendingFrames : List OpusFrame) :
    Filling codec :=
  { f with queue, worker := { f.worker with pendingFrames } }

def enqueued (f : Filling codec) (frames : List OpusFrame) : Filling codec :=
  let (queue, pendingFrames) := enqueueFrames f.queue f.worker.pendingFrames frames
  { f.withFrames queue pendingFrames with
    log := { f.log with produced := f.log.produced ++ frames } }

def withNormalizer (f : Filling codec) (normalizer : DiscordOpusFrameNormalizer codec) :
    Filling codec :=
  { f with worker := { f.worker with normalizer } }

def withPc (f : Filling codec) (pc : FillPc) : Filling codec := { f with pc }

def bufferPacket (f : Filling codec) (packet : DemuxedPacket) :
    Except PlaybackError Unit × Filling codec :=
  match f.worker.normalizer.pushPacket packet with
  | (.error e, normalizer) => (.error e, f.withNormalizer normalizer)
  | (.ok frames, normalizer) =>
    let f := f.withNormalizer normalizer
    let source := { f.source with position := f.source.position.recordBuffered packet }
    (.ok (), enqueued { f with source } frames)

/-- The packets of one chunk, until the queue is filled. -/
def bufferPackets (f : Filling codec) : List DemuxedPacket → Filling codec
  | [] => f.withPc .loop
  | packet :: packets =>
    if f.reached ∨ f.worker.pendingFrames ≠ [] then
      { f with
        source := { f.source with
          pendingPackets := f.source.pendingPackets ++ packet :: packets }
        pc := .loop }
    else
      match f.bufferPacket packet with
      | (.error e, g) => g.withPc (.returned (.error e))
      | (.ok (), g) => g.bufferPackets packets

def pass (f : Filling codec) : Filling codec :=
  if f.reached then f.withPc (.returned (.ok ()))
  else
    match drainPendingFrames f.queue f.worker.pendingFrames with
    | (queue, pendingFrames, false) => (f.withFrames queue pendingFrames).withPc (.returned (.ok ()))
    | (queue, pendingFrames, true) =>
      let f := f.withFrames queue pendingFrames
      if f.reached then f.withPc (.returned (.ok ()))
      else
        match f.source.pendingPackets with
        | packet :: pendingPackets =>
          match bufferPacket { f with source := { f.source with pendingPackets } } packet with
          | (.error e, g) => g.withPc (.returned (.error e))
          | (.ok (), g) => g.withPc .loop
        | [] => f.withPc (.reading .first)

/-- `reresolve_steady_source`, up to the resolution it awaits. -/
def reresolve (f : Filling codec) (e : PlaybackError) : Filling codec :=
  match f.videoId with
  | none => f.withPc (.returned (.error e))
  | some videoId => f.withPc (.resolving videoId)

def failedRead (f : Filling codec) (e : PlaybackError) : ReadAttempt → Filling codec
  | .first =>
    if isSteadyStateReadTimeout e then
      { f with source := f.source.resetStreamToCurrentByteOffset, pc := .reading .afterReset }
    else if shouldReresolveAfterSteadyReadFailure e then f.reresolve e
    else f.withPc (.returned (.error e))
  | .afterReset =>
    if shouldReresolveAfterSteadyReadFailure e then f.reresolve e
    else f.withPc (.returned (.error e))
  | .afterResolve => f.withPc (.returned (.error e))

def readEnd (f : Filling codec) : Filling codec :=
  let f := { f with log := { f.log with lastRead := some none } }
  match f.worker.normalizer.flush with
  | (.error e, normalizer) => (f.withNormalizer normalizer).withPc (.returned (.error e))
  | (.ok frames, normalizer) =>
    ((f.withNormalizer normalizer).enqueued frames).withPc (.returned (.ok ()))

def readChunk (lib : WebmIterable) (f : Filling codec) (chunk : Bytes) : Filling codec :=
  let log := { f.log with
    demuxed := f.log.demuxed ++ [(f.source.stream.url, chunk)], lastRead := some (some chunk) }
  let demux := f.source.demux.pushBytes chunk
  match demux.drainPackets lib with
  | .error e => { f with source := { f.source with demux }, log, pc := .returned (.error e) }
  | .ok (packets, demux) =>
    { f with source := { f.source with demux }, log, pc := .yielding packets }

def afterRead (lib : WebmIterable) (f : Filling codec) (attempt : ReadAttempt) :
    Except PlaybackError (Option Bytes) → Filling codec
  | .error e => f.failedRead e attempt
  | .ok none => f.readEnd
  | .ok (some chunk) => f.readChunk lib chunk

def withStream (f : Filling codec) (stream : HttpOpusStream) : Filling codec :=
  { f with source := { f.source with stream } }

def resolvedTo (f : Filling codec) (videoId : String) (resolved : ResolvedPlaybackSource) :
    Filling codec :=
  { f with
    source := f.source.replaceResolvedStreamAtCurrentByteOffset resolved
    worker := { f.worker with recovery := ⟨some videoId, some resolved⟩ }
    pc := .reading .afterResolve }

def step (lib : WebmIterable) (f : Filling codec) (move : FillMove) : Option (Filling codec) :=
  match f.pc, move with
  | .returned _, .begin queue targetMs => some (f.begun queue targetMs f.worker.currentVideoId)
  | .loop, .pass => some f.pass
  | .reading attempt, .answer answer =>
    (f.source.stream.readPass answer).map fun
      | .again stream => f.withStream stream
      | .returned result stream => (f.withStream stream).afterRead lib attempt result
  | .reading attempt, .timedOut =>
    some (f.failedRead (timedOutReading f.source.resolved.playableUrl) attempt)
  | .resolving videoId, .resolve song playableUrl =>
    match resolvePlaybackSource song fun _ ↦ playableUrl with
    | .error e => some (f.withPc (.returned (.error e)))
    | .ok resolved => some (f.resolvedTo videoId resolved)
  | .yielding packets, .yielded => some (f.bufferPackets packets)
  | _, _ => none

end Filling

/-- A codec for runs that neither decode nor encode. -/
def idleCodec : OpusCodec :=
  ⟨Unit, Unit, Unit, (), fun _ ↦ .ok (), fun _ _ count ↦ (.ok (List.replicate count (), count), ()),
    .ok (), fun _ _ ↦ (.ok [], ())⟩

/-- What `webm_iterable` makes of bytes that end inside their first tag. -/
def insideFirstTag : WebmIterable :=
  ⟨fun _ ↦ [.error (.unexpectedEof 0)], fun _ ↦ .error "", fun _ ↦ .error ""⟩

def playingWorker : PlaybackWorker idleCodec := ⟨some "video", ⟨none, none⟩, 80, .new, []⟩

end DiscordVoice.Playback
