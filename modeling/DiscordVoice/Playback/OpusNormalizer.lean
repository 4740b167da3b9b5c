import DiscordVoice.Playback.WebmDemux

namespace DiscordVoice.Playback

open Voice (Bytes)

/-- What the normalizer calls of the crate `opus_rs`. -/
structure OpusCodec where
  Decoder : Type
  Encoder : Type
  Sample : Type
  silence : Sample
  newDecoder : ℕ → Except String Decoder
  /-- The samples written and the count returned. -/
  decode : Decoder → Bytes → ℕ → Except String (List Sample × ℕ) × Decoder
  newEncoder : Except String Encoder
  encode : Encoder → List Sample → Except String Bytes × Encoder

def discordFrameSamples : ℕ := 960

def discordChannels : ℕ := 2

def frameValues : ℕ := discordFrameSamples * discordChannels

def opusPacketChannels (packet : Bytes) : Option ℕ :=
  packet.head?.map fun toc ↦ if toc &&& 0x04 ≠ 0 then 2 else 1

def isDiscordPassthroughPacket (packet : DemuxedPacket) : Bool :=
  packet.durationSamples == 960 && opusPacketChannels packet.data == some discordChannels

/-- A frame of the length Discord takes, at its position in the source. -/
def discordFrame (data : Bytes) (positionSamples : ℕ) : OpusFrame :=
  ⟨data, 20, 960, durationMsFromSamples positionSamples, positionSamples, none, 0⟩

structure DiscordOpusFrameNormalizer (codec : OpusCodec) where
  monoDecoder : Option codec.Decoder
  stereoDecoder : Option codec.Decoder
  encoder : Option codec.Encoder
  pendingPcm : List codec.Sample
  nextOutputPositionSamples : Option ℕ

namespace DiscordOpusFrameNormalizer

variable {codec : OpusCodec}

def new : DiscordOpusFrameNormalizer codec := ⟨none, none, none, [], none⟩

def decoderFor (n : DiscordOpusFrameNormalizer codec) (channels : ℕ) :
    Except PlaybackError codec.Decoder :=
  match if channels = 1 then n.monoDecoder else n.stereoDecoder with
  | some decoder => .ok decoder
  | none =>
    match codec.newDecoder channels with
    | .ok decoder => .ok decoder
    | .error text => .error (.mediaParseDetail ("create opus decoder: " ++ text))

def keepDecoder (n : DiscordOpusFrameNormalizer codec) (channels : ℕ) (decoder : codec.Decoder) :
    DiscordOpusFrameNormalizer codec :=
  if channels = 1 then { n with monoDecoder := some decoder }
  else { n with stereoDecoder := some decoder }

def doubled {α : Type} (pcm : List α) : List α := pcm.flatMap fun sample ↦ [sample, sample]

/-- What an error leaves behind is returned beside it. -/
def decodePacket (n : DiscordOpusFrameNormalizer codec) (packet : DemuxedPacket) :
    Except PlaybackError Unit × DiscordOpusFrameNormalizer codec :=
  match opusPacketChannels packet.data with
  | none => (.error (.mediaParse "unsupported opus channel layout"), n)
  | some channels =>
    if packet.durationSamples = 0 then (.error (.mediaParse "opus packet duration is zero"), n)
    else
      let n := { n with
        nextOutputPositionSamples := n.nextOutputPositionSamples.or (some packet.timestampSamples) }
      match n.decoderFor channels with
      | .error e => (.error e, n)
      | .ok decoder =>
        match codec.decode decoder packet.data packet.durationSamples.toNat with
        | (.error text, decoder) =>
          (.error (.mediaParseDetail ("decode opus packet: " ++ text)), n.keepDecoder channels decoder)
        | (.ok (pcm, count), decoder) =>
          if count ≠ packet.durationSamples.toNat then
            (.error (.mediaParseDetail ("decoded opus packet returned " ++ toString count ++
              " samples; expected " ++ toString packet.durationSamples.toNat)),
              n.keepDecoder channels decoder)
          else
            let more := if channels = 1 then doubled pcm else pcm
            (.ok (), { n.keepDecoder channels decoder with pendingPcm := n.pendingPcm ++ more })

def ensureEncoder (n : DiscordOpusFrameNormalizer codec) :
    Except PlaybackError (codec.Encoder × DiscordOpusFrameNormalizer codec) :=
  match n.encoder with
  | some encoder => .ok (encoder, n)
  | none =>
    match codec.newEncoder with
    | .ok encoder => .ok (encoder, { n with encoder := some encoder })
    | .error text => .error (.mediaParseDetail ("create opus encoder: " ++ text))

/-- The loop of `emit_ready_frames`, one pass for every whole frame of samples. -/
def emitFrames (encoder : codec.Encoder) (n : DiscordOpusFrameNormalizer codec) :
    ℕ → List OpusFrame → Except PlaybackError (List OpusFrame) × DiscordOpusFrameNormalizer codec
  | 0, frames => (.ok frames, n)
  | left + 1, frames =>
    match codec.encode encoder (n.pendingPcm.take frameValues) with
    | (.error text, encoder) =>
      (.error (.mediaParseDetail ("encode discord opus frame: " ++ text)),
        { n with encoder := some encoder })
    | (.ok packet, encoder) =>
      let position := n.nextOutputPositionSamples.getD 0
      emitFrames encoder
        { n with
          encoder := some encoder,
          nextOutputPositionSamples := some (saturatingAdd position 960),
          pendingPcm := n.pendingPcm.drop frameValues }
        left (frames ++ [discordFrame packet position])

def emitReadyFrames (n : DiscordOpusFrameNormalizer codec) :
    Except PlaybackError (List OpusFrame) × DiscordOpusFrameNormalizer codec :=
  match n.ensureEncoder with
  | .error e => (.error e, n)
  | .ok (encoder, n) => emitFrames encoder n (n.pendingPcm.length / frameValues) []

def pushPacket (n : DiscordOpusFrameNormalizer codec) (packet : DemuxedPacket) :
    Except PlaybackError (List OpusFrame) × DiscordOpusFrameNormalizer codec :=
  let n := { n with
    nextOutputPositionSamples := n.nextOutputPositionSamples.or (some packet.timestampSamples) }
  if n.pendingPcm = [] ∧ isDiscordPassthroughPacket packet then
    let position := n.nextOutputPositionSamples.getD packet.timestampSamples
    (.ok [discordFrame packet.data position],
      { n with
        nextOutputPositionSamples := some (saturatingAdd position packet.durationSamples.toNat) })
  else
    match n.decodePacket packet with
    | (.error e, n) => (.error e, n)
    | (.ok (), n) => n.emitReadyFrames

/-- `Vec::resize`. -/
def resized {α : Type} (size : ℕ) (fill : α) (values : List α) : List α :=
  values.take size ++ List.replicate (size - values.length) fill

def flush (n : DiscordOpusFrameNormalizer codec) :
    Except PlaybackError (List OpusFrame) × DiscordOpusFrameNormalizer codec :=
  if n.pendingPcm = [] then (.ok [], n)
  else emitReadyFrames { n with pendingPcm := resized frameValues codec.silence n.pendingPcm }

end DiscordOpusFrameNormalizer

end DiscordVoice.Playback
