import DiscordVoice.Playback.OpusQueue
import DiscordVoice.Playback.HttpStream

namespace DiscordVoice.Playback

open Voice (Bytes)

def durationMsFromSamples (samples : ℕ) : ℕ := min (samples * 1000) (2 ^ 64 - 1) / 48000

/-- `duration_from_samples`, in nanoseconds. -/
def durationFromSamples (samples : ℕ) : ℕ := min (samples * 1000000000) (2 ^ 64 - 1) / 48000

structure DemuxedPacket where
  data : Bytes
  timestampMs : ℕ
  timestampSamples : ℕ
  durationMs : ℕ
  durationSamples : UInt32
  deriving DecidableEq, Repr

/-- The tags of `webm_iterable` that the demuxer reads. -/
inductive MatroskaTag
  | timestampScale (scale : ℕ)
  | timestamp (timestamp : ℕ)
  | trackEntry (children : List MatroskaTag)
  | simpleBlock (data : Bytes)
  | block (data : Bytes)
  | blockGroup (children : List MatroskaTag)
  | trackNumber (number : ℕ)
  | codecId (codec : String)
  | trackType (type : ℕ)
  | other

inductive TagIteratorError
  | unexpectedEof (tagStart : ℕ)
  | corrupted
  | readError
  deriving DecidableEq, Repr

/-- A block of `webm_iterable`: its track, its timestamp and what `read_frame_data` yields. -/
structure WebmBlock where
  track : ℕ
  timestamp : ℤ
  frames : Except String (List Bytes)

/-- What the demuxer calls of the crate `webm_iterable`. -/
structure WebmIterable where
  tags : Bytes → List (Except TagIteratorError MatroskaTag)
  simpleBlock : Bytes → Except String WebmBlock
  block : Bytes → Except String WebmBlock

structure WebmDemuxState where
  timestampScaleNs : ℕ
  clusterTimestamp : ℕ
  opusTrack : Option ℕ
  deriving DecidableEq, Repr

inductive ParseOutcome
  | complete (state : WebmDemuxState) (packets : List DemuxedPacket)
  | incomplete (state : WebmDemuxState) (packets : List DemuxedPacket) (tailStart : ℕ)
  | stalled

namespace WebmDemuxState

def default : WebmDemuxState := ⟨1000000, 0, none⟩

def isTargetTrack (s : WebmDemuxState) (trackNumber : ℕ) : Bool :=
  (s.opusTrack.map (· == trackNumber)).getD true

def scaleTimestampToSamples (s : WebmDemuxState) (ticks : ℕ) : Except PlaybackError ℕ :=
  let scaled := ticks * s.timestampScaleNs
  if 2 ^ 128 ≤ scaled ∨ 2 ^ 128 ≤ scaled * 48000 ∨ 2 ^ 128 ≤ scaled * 48000 + 500000000 then
    .error (.mediaParse "timestamp overflow")
  else if 2 ^ 64 ≤ (scaled * 48000 + 500000000) / 1000000000 then
    .error (.mediaParse "timestamp overflow")
  else .ok ((scaled * 48000 + 500000000) / 1000000000)

/-- The tick count is cut to 64 bits, as the cast in the source does. -/
def blockTimestampSamples (s : WebmDemuxState) (relativeTimestamp : ℤ) : Except PlaybackError ℕ :=
  let totalTicks := s.clusterTimestamp + relativeTimestamp
  if totalTicks < 0 then .error (.mediaParse "negative block timestamp")
  else s.scaleTimestampToSamples (totalTicks.toNat % 2 ^ 64)

def packetsFrom : ℕ → List (Bytes × OpusPacketDuration) → List DemuxedPacket
  | _, [] => []
  | timestampSamples, (data, duration) :: rest =>
    ⟨data, durationMsFromSamples timestampSamples, timestampSamples, duration.ms, duration.samples⟩ ::
      packetsFrom (saturatingAdd timestampSamples duration.samples.toNat) rest

def framesToPackets (s : WebmDemuxState) (relativeTimestamp : ℤ) (frames : List Bytes) :
    Except PlaybackError (List DemuxedPacket) :=
  if frames = [] then .ok []
  else
    match frames.mapM opusPacketDuration with
    | none => .error (.mediaParse "unsupported opus packet duration")
    | some durations =>
      match s.blockTimestampSamples relativeTimestamp with
      | .error e => .error e
      | .ok timestampSamples => .ok (packetsFrom timestampSamples (frames.zip durations))

/-- `extract_simple_block` and `extract_block`. -/
def extractBlock (s : WebmDemuxState) (block : Except String WebmBlock) :
    Except PlaybackError (List DemuxedPacket) :=
  match block with
  | .error text => .error (.mediaParseDetail text)
  | .ok block =>
    if s.isTargetTrack block.track then
      match block.frames with
      | .error text => .error (.mediaParseDetail text)
      | .ok frames => s.framesToPackets block.timestamp frames
    else .ok []

def updateTrack (s : WebmDemuxState) (children : List MatroskaTag) : WebmDemuxState :=
  let number : Option ℕ :=
    children.foldl (fun n t ↦ if let .trackNumber v := t then some v else n) none
  let codecId : Option String :=
    children.foldl (fun n t ↦ if let .codecId v := t then some v else n) none
  let trackType : Option ℕ :=
    children.foldl (fun n t ↦ if let .trackType v := t then some v else n) none
  if trackType = some 2 ∧ codecId = some "A_OPUS" then { s with opusTrack := number } else s

def processTag (lib : WebmIterable) (s : WebmDemuxState) :
    MatroskaTag → Except PlaybackError (WebmDemuxState × List DemuxedPacket)
  | .timestampScale scale => .ok ({ s with timestampScaleNs := scale }, [])
  | .timestamp timestamp => .ok ({ s with clusterTimestamp := timestamp }, [])
  | .trackEntry children => .ok (s.updateTrack children, [])
  | .simpleBlock data => (s.extractBlock (lib.simpleBlock data)).map fun packets ↦ (s, packets)
  | .block data => (s.extractBlock (lib.block data)).map fun packets ↦ (s, packets)
  | .blockGroup children =>
    match children.foldl (fun d t ↦ if let .block v := t then some v else d) none with
    | none => .ok (s, [])
    | some data => (s.extractBlock (lib.block data)).map fun packets ↦ (s, packets)
  | _ => .ok (s, [])

def parseTags (lib : WebmIterable) (s : WebmDemuxState) (packets : List DemuxedPacket) :
    List (Except TagIteratorError MatroskaTag) → Except PlaybackError ParseOutcome
  | [] => .ok (.complete s packets)
  | .error (.unexpectedEof tagStart) :: _ => .ok (.incomplete s packets tagStart)
  | .error _ :: _ => .ok .stalled
  | .ok tag :: rest =>
    match s.processTag lib tag with
    | .error e => .error e
    | .ok (t, more) => t.parseTags lib (packets ++ more) rest

def parseAvailable (lib : WebmIterable) (s : WebmDemuxState) (input : Bytes) :
    Except PlaybackError ParseOutcome :=
  s.parseTags lib [] (lib.tags input)

end WebmDemuxState

structure WebmOpusDemux where
  pending : Bytes
  state : WebmDemuxState
  deriving DecidableEq, Repr

namespace WebmOpusDemux

def default : WebmOpusDemux := ⟨[], .default⟩

def pushBytes (d : WebmOpusDemux) (chunk : Bytes) : WebmOpusDemux :=
  { d with pending := d.pending ++ chunk }

def drainPackets (lib : WebmIterable) (d : WebmOpusDemux) :
    Except PlaybackError (List DemuxedPacket × WebmOpusDemux) :=
  if d.pending = [] then .ok ([], d)
  else
    match d.state.parseAvailable lib d.pending with
    | .error e => .error e
    | .ok (.complete state packets) => .ok (packets, ⟨[], state⟩)
    | .ok (.incomplete state packets tailStart) =>
      if 0 < tailStart ∧ packets ≠ [] then
        .ok (packets, ⟨d.pending.drop (min tailStart d.pending.length), state⟩)
      else .ok ([], d)
    | .ok .stalled => .ok ([], d)

end WebmOpusDemux

end DiscordVoice.Playback
