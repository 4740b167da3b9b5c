import DiscordVoice.Playback.DemuxChunks
import DiscordVoice.Playback.Worker

namespace DiscordVoice.Playback

open Voice (Bytes)

structure PlaybackResumePosition where
  samples : ℕ
  deriving DecidableEq, Repr

namespace PlaybackResumePosition

def fromSamples (samples : ℕ) : PlaybackResumePosition := ⟨samples⟩

def default : PlaybackResumePosition := ⟨0⟩

def millis (p : PlaybackResumePosition) : ℕ := durationMsFromSamples p.samples

def isStart (p : PlaybackResumePosition) : Bool := p.samples = 0

end PlaybackResumePosition

def packetEndSamples (packet : DemuxedPacket) : ℕ :=
  saturatingAdd packet.timestampSamples packet.durationSamples.toNat

def packetOverlapsResume (position : PlaybackResumePosition) (packet : DemuxedPacket) : Bool :=
  position.samples < packetEndSamples packet

namespace PlaybackPosition

def setSentDurationSamples (p : PlaybackPosition) (sentDurationSamples : ℕ) : PlaybackPosition :=
  { p with sentDurationSamples }

def recordSentPacketSamples (p : PlaybackPosition) (durationSamples : ℕ) : PlaybackPosition :=
  { p with sentDurationSamples := saturatingAdd p.sentDurationSamples durationSamples }

end PlaybackPosition

/-- A read of the stream: a chunk or an error. The end of the stream is the end of its reads. -/
abbrev StreamRead := Except PlaybackError Bytes

/-- What `open_from_position` holds while it reads. -/
structure Opening where
  demux : WebmOpusDemux
  pendingPackets : List DemuxedPacket
  position : PlaybackPosition
  deriving DecidableEq, Repr

namespace Opening

def new : Opening := ⟨.default, [], .default⟩

variable (lib : WebmIterable) (resumePosition : PlaybackResumePosition)

def receive (o : Opening) (chunk : Bytes) : Except PlaybackError Opening :=
  match (o.demux.pushBytes chunk).drainPackets lib with
  | .error e => .error e
  | .ok (packets, demux) =>
    .ok {
      demux
      pendingPackets := o.pendingPackets ++ packets.filter (packetOverlapsResume resumePosition)
      position := packets.foldl PlaybackPosition.recordBuffered o.position }

def unfinished (o : Opening) : Bool :=
  o.pendingPackets.isEmpty || o.position.timestampSamples < resumePosition.samples

/-- The loop of `open_from_position`, with the reads it leaves. -/
def readOn (o : Opening) : List StreamRead → Except PlaybackError (Opening × List StreamRead)
  | [] => .ok (o, [])
  | read :: reads =>
    if o.unfinished resumePosition then
      match read with
      | .error e => .error e
      | .ok chunk =>
        match o.receive lib resumePosition chunk with
        | .error e => .error e
        | .ok o => o.readOn reads
    else .ok (o, read :: reads)

def endedBefore (o : Opening) : PlaybackError :=
  .mediaParseDetail ("playback source ended before requested resume position " ++
    toString resumePosition.millis ++ "ms/" ++ toString resumePosition.samples ++
    " samples; reached " ++ toString o.position.timestampMs ++ "ms/" ++
    toString o.position.timestampSamples ++ " samples")

def finish (o : Opening) : Except PlaybackError Opening :=
  if o.position.timestampSamples < resumePosition.samples then .error (o.endedBefore resumePosition)
  else if resumePosition.isStart then .ok o
  else .ok { o with position := o.position.setSentDurationSamples resumePosition.samples }

end Opening

def openFromPosition (lib : WebmIterable) (resumePosition : PlaybackResumePosition) :
    List StreamRead → Except PlaybackError (Opening × List StreamRead)
  | [] => .error (.mediaParse "unexpected end of stream")
  | .error e :: _ => .error e
  | .ok chunk :: reads => do
    let o ← Opening.new.receive lib resumePosition chunk
    let (o, reads) ← o.readOn lib resumePosition reads
    let o ← o.finish resumePosition
    return (o, reads)

def shouldReresolveAfterOpenFailure : PlaybackError → Bool
  | .http status => status.any isStaleSourceStatus
  | .mediaParseDetail message =>
    decide ("timed out opening playback source".toList <:+: message.toList)
  | _ => false

/-- `resolve_and_open`: `first` and `second` are what the two resolutions lead to. -/
def resolveAndOpen (lib : WebmIterable) (resumePosition : PlaybackResumePosition)
    (first second : Except PlaybackError (List StreamRead)) :
    Except PlaybackError (Opening × List StreamRead) := do
  match openFromPosition lib resumePosition (← first) with
  | .ok opened => .ok opened
  | .error e =>
    if shouldReresolveAfterOpenFailure e then
      openFromPosition lib resumePosition (← second)
    else .error e

/-- `recover`: a source that is known is reopened first. -/
def recover (lib : WebmIterable) (resumePosition : PlaybackResumePosition)
    (reopened : Option (List StreamRead)) (first second : Except PlaybackError (List StreamRead)) :
    Except PlaybackError (Opening × List StreamRead) :=
  match reopened.map (openFromPosition lib resumePosition) with
  | some (.ok opened) => .ok opened
  | _ => resolveAndOpen lib resumePosition first second

namespace PlaybackWorker

variable {codec : OpusCodec}

/-- Where `prepare` resumes: the position goes on only with the same video. -/
def resumePosition (w : PlaybackWorker codec) (videoId : String) (position : PlaybackPosition) :
    PlaybackResumePosition :=
  if w.currentVideoId = some videoId then .fromSamples position.sentDurationSamples else .default

/-- The worker `prepare` goes on with: nothing of what was on the way to the queue is kept. -/
def renewed (w : PlaybackWorker codec) : PlaybackWorker codec :=
  { w with normalizer := .new, pendingFrames := [] }

/-- `prepare`, up to the fill of the queue. -/
def prepare (lib : WebmIterable) (w : PlaybackWorker codec) (videoId : String)
    (position : PlaybackPosition) (queue : OpusFrameQueue) (reopened : Option (List StreamRead))
    (first second : Except PlaybackError (List StreamRead)) :
    Except PlaybackError (PlaybackWorker codec × Opening × List StreamRead) := do
  if queue.isFull then throw .bufferFull
  let opened ← recover lib (w.resumePosition videoId position) reopened first second
  return (w.renewed, opened)

end PlaybackWorker

end DiscordVoice.Playback
