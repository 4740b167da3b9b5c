import DiscordVoice.Playback.Worker

namespace DiscordVoice.Playback

open Voice (Bytes)

def playbackQueueCapacity : ℕ := 1024

def playbackBufferMemoryCapBytes : ℕ := 4 * 1024 * 1024

def playbackSourceBufferTargetMs : ℕ := 5000

def playbackSourceBufferHighWatermarkMs : ℕ := 5000

def playbackSourceBufferLowWatermarkMs : ℕ := 4000

def playbackSourceBufferRefillBatchMs : ℕ := 1000

def producerRefillReachedEndOfStream (producedFrames producedSamples refillTargetMs : ℕ)
    (pendingPacketsEmpty : Bool) : Bool :=
  pendingPacketsEmpty &&
    (producedFrames == 0 || decide (producedSamples < samplesFromDurationMs refillTargetMs))

/-- The refill the producer decides on, `none` when it waits for the buffer to change. -/
def refillTargetMs (bufferTargetMs bufferedMs : ℕ) : Option ℕ :=
  let targetMs := max 1 (min bufferTargetMs playbackSourceBufferHighWatermarkMs)
  if playbackSourceBufferLowWatermarkMs ≤ bufferedMs then none
  else some (max (targetMs - bufferedMs) playbackSourceBufferRefillBatchMs)

def playbackQueue (maxDurationMs : ℕ) : OpusFrameQueue :=
  .withResourceLimits playbackQueueCapacity playbackBufferMemoryCapBytes maxDurationMs

/-- `SourceBufferState`. -/
structure SourceBuffer where
  queue : OpusFrameQueue
  endOfStream : Bool
  error : Option PlaybackError
  deriving DecidableEq, Repr

/-- Where the filling of a track's source buffer has got to: the fill of `prepare`, the fill of
`play_with_epoch`, the producer between two refills, in one, or returned. -/
inductive TrackPhase
  | preparing
  | buffering
  | idle
  | refilling (targetMs : ℕ)
  | stopped
  deriving DecidableEq, Repr

/-- The source buffer of one track, from the opened source on. `pushed` are the frames put into it
so far. -/
structure Track (codec : OpusCodec) where
  fill : Filling codec
  phase : TrackPhase
  buffer : SourceBuffer
  pushed : List OpusFrame

inductive TrackMove
  | fill (move : FillMove)
  | prepared
  | buffered
  | refill (bufferTargetMs : ℕ)
  | refilled
  /-- The driver takes frames out of the source queue or puts interrupted ones back. -/
  | drive (frames : List OpusFrame)

/-- The frames of a refill put into the source queue one after another: those that went in, and
whether all did. -/
def pushAll (queue : OpusFrameQueue) : List OpusFrame → OpusFrameQueue × List OpusFrame × Bool
  | [] => (queue, [], true)
  | frame :: frames =>
    match queue.push frame with
    | .ok q => let (r, pushed, all) := pushAll q frames; (r, frame :: pushed, all)
    | .error _ => (queue, [], false)

namespace Track

variable {codec : OpusCodec}

/-- `prepare` has opened the source and begins to fill the queue. -/
def start (worker : PlaybackWorker codec) (source : PlaybackSource) (videoId : String) :
    Track codec where
  fill :=
    { worker := { worker with normalizer := .new, pendingFrames := [] }
      source, queue := playbackQueue playbackSourceBufferHighWatermarkMs
      targetSamples := samplesFromDurationMs (max worker.prebufferTargetMs 1)
      videoId := some videoId, pc := .loop, log := ⟨[], [], none⟩ }
  phase := .preparing
  buffer := ⟨playbackQueue playbackSourceBufferHighWatermarkMs, false, none⟩
  pushed := []

def failed (t : Track codec) (e : PlaybackError) : Track codec :=
  { t with phase := .stopped, buffer := { t.buffer with error := some e } }

def emptied (t : Track codec) : Filling codec :=
  { t.fill with queue := t.fill.queue.cleared }

/-- `prepare` returns and the fill before playing begins, in the same queue. An error of either is
the caller's: no source buffer comes of it. -/
def afterPrepare (t : Track codec) : Except PlaybackError Unit → Track codec
  | .error _ => { t with phase := .stopped }
  | .ok () =>
    if t.fill.queue.inner = [] then { t with phase := .stopped }
    else
      { t with
        fill := { t.fill with
          worker := { t.fill.worker with currentVideoId := t.fill.videoId }
          targetSamples := samplesFromDurationMs playbackSourceBufferTargetMs
          pc := .loop }
        phase := .buffering }

def afterBuffering (t : Track codec) : Except PlaybackError Unit → Track codec
  | .error _ => { t with phase := .stopped }
  | .ok () =>
    let sourceEndedBeforePlaying :=
      decide (t.fill.queue.bufferedSamples < samplesFromDurationMs playbackSourceBufferTargetMs) &&
        t.fill.source.pendingPackets.isEmpty
    { fill := t.emptied
      phase := if sourceEndedBeforePlaying then .stopped else .idle
      buffer := ⟨t.fill.queue, sourceEndedBeforePlaying, none⟩
      pushed := t.fill.queue.inner }

def afterRefill (t : Track codec) (targetMs : ℕ) : Except PlaybackError Unit → Track codec
  | .error e => t.failed e
  | .ok () =>
    let sourceEnded := producerRefillReachedEndOfStream t.fill.queue.inner.length
      t.fill.queue.bufferedSamples targetMs t.fill.source.pendingPackets.isEmpty
    match pushAll t.buffer.queue t.fill.queue.inner with
    | (queue, pushed, false) =>
      { t with
        phase := .stopped, buffer := { t.buffer with queue, error := some .bufferFull }
        pushed := t.pushed ++ pushed }
    | (queue, pushed, true) =>
      { fill := t.emptied
        phase := if sourceEnded then .stopped else .idle
        buffer := { t.buffer with queue, endOfStream := t.buffer.endOfStream || sourceEnded }
        pushed := t.pushed ++ pushed }

def filling (t : Track codec) : Bool :=
  match t.phase with
  | .preparing | .buffering | .refilling _ => true
  | .idle | .stopped => false

def step (lib : WebmIterable) (t : Track codec) : TrackMove → Option (Track codec)
  | .fill (.begin _ _) => none
  | .fill move =>
    if t.filling then (t.fill.step lib move).map fun fill ↦ { t with fill } else none
  | .prepared =>
    match t.phase, t.fill.pc with
    | .preparing, .returned result => some (t.afterPrepare result)
    | _, _ => none
  | .buffered =>
    match t.phase, t.fill.pc with
    | .buffering, .returned result => some (t.afterBuffering result)
    | _, _ => none
  | .refill bufferTargetMs =>
    match t.phase with
    | .idle =>
      if t.buffer.endOfStream ∨ t.buffer.error.isSome then some { t with phase := .stopped }
      else
        (refillTargetMs bufferTargetMs (durationMsFromSamples t.buffer.queue.bufferedSamples)).map
          fun targetMs ↦ { t with
            fill := t.fill.begun (playbackQueue targetMs) targetMs t.fill.worker.currentVideoId
            phase := .refilling targetMs }
    | _ => none
  | .refilled =>
    match t.phase, t.fill.pc with
    | .refilling targetMs, .returned result => some (t.afterRefill targetMs result)
    | _, _ => none
  | .drive frames =>
    some { t with buffer := { t.buffer with queue := { t.buffer.queue with inner := frames } } }

end Track

end DiscordVoice.Playback
