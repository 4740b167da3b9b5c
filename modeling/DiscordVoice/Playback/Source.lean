import Mathlib.Data.List.Sort
import DiscordVoice.Playback.WebmDemux

namespace DiscordVoice.Playback

open Voice (Bytes)

structure PlaybackPosition where
  byteOffset : ℕ
  timestampMs : ℕ
  timestampSamples : ℕ
  sentDurationSamples : ℕ
  deriving DecidableEq, Repr

namespace PlaybackPosition

def default : PlaybackPosition := ⟨0, 0, 0, 0⟩

def recordBuffered (p : PlaybackPosition) (packet : DemuxedPacket) : PlaybackPosition :=
  let bufferedUntilSamples := saturatingAdd packet.timestampSamples packet.durationSamples.toNat
  let timestampSamples := max p.timestampSamples bufferedUntilSamples
  { p with
    timestampSamples, timestampMs := max p.timestampMs (durationMsFromSamples timestampSamples) }

end PlaybackPosition

/-- The fields of a format of the song service that the selector reads. -/
structure SongStreamFormat where
  itag : ℕ
  mimeType : String
  bitrate : ℕ
  audioSampleRate : Option ℕ
  audioChannels : Option ℕ
  signatureCipher : String
  approxDurationMs : Option ℕ
  deriving DecidableEq, Repr

def priorityForItag (itag : ℕ) : ℕ :=
  if itag = 250 then 0 else if itag = 249 then 1 else 2

def SongStreamFormat.allowed (format : SongStreamFormat) : Bool :=
  format.mimeType == "audio/webm; codecs=\"opus\"" && format.audioSampleRate == some 48000 &&
    format.audioChannels == some 2 &&
    (format.itag == 250 || format.itag == 249 || format.bitrate < 50000)

/-- The order of the keys `(priority_for_itag, Reverse(bitrate))`. -/
def SongStreamFormat.precedes (a b : SongStreamFormat) : Prop :=
  priorityForItag a.itag < priorityForItag b.itag ∨
    priorityForItag a.itag = priorityForItag b.itag ∧ b.bitrate ≤ a.bitrate

instance : DecidableRel SongStreamFormat.precedes :=
  fun _ _ ↦ inferInstanceAs (Decidable (_ ∨ _))

def selectSongStreamFormat (formats : List SongStreamFormat) :
    Except PlaybackError SongStreamFormat :=
  match ((formats.filter SongStreamFormat.allowed).insertionSort SongStreamFormat.precedes).head? with
  | some format => .ok format
  | none => .error .unsupportedFormat

structure ResolvedPlaybackSource where
  selectedItag : ℕ
  playableUrl : String
  approxDurationMs : Option ℕ
  deriving DecidableEq, Repr

/-- The reply of `get_song`, in the fields the client reads. -/
structure SongReply where
  adaptiveFormats : Option (List SongStreamFormat)
  lengthSeconds : Option ℕ
  deriving DecidableEq, Repr

/-- `resolve_playback_source`, given what the song service answers. -/
def resolvePlaybackSource (song : Except PlaybackError SongReply)
    (decipher : String → Except PlaybackError String) :
    Except PlaybackError ResolvedPlaybackSource :=
  match song with
  | .error e => .error e
  | .ok song =>
    match song.adaptiveFormats with
    | none => .error .unsupportedFormat
    | some formats =>
      match selectSongStreamFormat formats with
      | .error e => .error e
      | .ok selected =>
        match decipher selected.signatureCipher with
        | .error e => .error e
        | .ok playableUrl =>
          .ok ⟨selected.itag, playableUrl, selected.approxDurationMs.or
            (song.lengthSeconds.bind fun s ↦ if 0 < s then some (s * 1000) else none)⟩

structure PlaybackSource where
  resolved : ResolvedPlaybackSource
  stream : HttpOpusStream
  demux : WebmOpusDemux
  pendingPackets : List DemuxedPacket
  position : PlaybackPosition
  deriving DecidableEq, Repr

namespace PlaybackSource

def selectedItag (s : PlaybackSource) : ℕ := s.resolved.selectedItag

def resetStreamToCurrentByteOffset (s : PlaybackSource) : PlaybackSource :=
  { s with stream := s.stream.setResumeOffset s.stream.byteOffset }

def replaceResolvedStreamAtCurrentByteOffset (s : PlaybackSource)
    (resolved : ResolvedPlaybackSource) : PlaybackSource :=
  { s with
    resolved,
    stream := (HttpOpusStream.new resolved.playableUrl).setResumeOffset s.stream.byteOffset }

/-- `position`: the shared position, at the stream's own byte offset. -/
def livePosition (s : PlaybackSource) : PlaybackPosition :=
  { s.position with byteOffset := s.stream.byteOffset }

end PlaybackSource

end DiscordVoice.Playback
