import DiscordVoice.Playback.OpusNormalizer

namespace DiscordVoice.Playback

open Voice (Bytes)

/-- What is relied on of `opus_rs`: a decoder for one or two channels can be made and gives the
samples of each of the packets, an encoder can be made and takes every frame of samples. -/
structure Playable (codec : OpusCodec) (ready : ℕ → codec.Decoder → Prop)
    (packets : List DemuxedPacket) : Prop where
  channels : ∀ p ∈ packets, ∃ channels, opusPacketChannels p.data = some channels
  newDecoder : ∀ channels, channels = 1 ∨ channels = 2 →
    ∃ decoder, codec.newDecoder channels = .ok decoder ∧ ready channels decoder
  decode : ∀ p ∈ packets, ∀ channels decoder, opusPacketChannels p.data = some channels →
    ready channels decoder → ∃ pcm next,
      codec.decode decoder p.data p.durationSamples.toNat =
        (.ok (pcm, p.durationSamples.toNat), next) ∧
      pcm.length = p.durationSamples.toNat * channels ∧ ready channels next
  newEncoder : ∃ encoder, codec.newEncoder = .ok encoder
  encode : ∀ encoder pcm, pcm.length = frameValues → ∃ packet next,
    codec.encode encoder pcm = (.ok packet, next)

def totalSamples (packets : List DemuxedPacket) : ℕ :=
  (packets.map fun p ↦ p.durationSamples.toNat).sum

theorem totalSamples_cons (packet : DemuxedPacket) (rest : List DemuxedPacket) :
    totalSamples (packet :: rest) = packet.durationSamples.toNat + totalSamples rest := rfl

/-- Frames of 20 ms, one after another from a position on. -/
structure FramesFrom (position count : ℕ) (frames : List OpusFrame) : Prop where
  positions : frames.map (·.sourcePositionSamples) = List.range' position count 960
  samples : ∀ frame ∈ frames, frame.samples = 960

namespace FramesFrom

variable {position count : ℕ} {frames : List OpusFrame}

theorem length_eq (h : FramesFrom position count frames) : frames.length = count := by
  have hlength := congrArg List.length h.positions
  rwa [List.length_map, List.length_range'] at hlength

theorem take (h : FramesFrom position count frames) {n : ℕ} (hn : n ≤ count) :
    FramesFrom position n (frames.take n) where
  positions := by
    have hsplit : List.range' position count 960 =
        List.range' position n 960 ++ List.range' (position + 960 * n) (count - n) 960 := by
      rw [List.range'_append, Nat.add_sub_cancel' hn]
    rw [List.map_take, h.positions, hsplit, List.take_left' List.length_range']
  samples frame hframe := h.samples frame (List.mem_of_mem_take hframe)

end FramesFrom

def stamp (position : ℕ) : ℕ := min position (2 ^ 64 - 1)

theorem saturatingAdd_stamp (position more : ℕ) :
    saturatingAdd (stamp position) more = stamp (position + more) := by
  simp only [saturatingAdd, stamp]
  omega

theorem stamp_eq {position : ℕ} (h : position < 2 ^ 64) : stamp position = position := by
  simp only [stamp]
  omega

structure StampedFrom (position count : ℕ) (frames : List OpusFrame) : Prop where
  positions : frames.map (·.sourcePositionSamples) = (List.range' position count 960).map stamp
  samples : ∀ frame ∈ frames, frame.samples = 960

namespace StampedFrom

variable {position count : ℕ} {frames : List OpusFrame}

theorem nil (position : ℕ) : StampedFrom position 0 [] := ⟨rfl, by simp⟩

theorem one (data : Bytes) (position : ℕ) :
    StampedFrom position 1 [discordFrame data (stamp position)] :=
  ⟨rfl, by simp [discordFrame, OpusFrame.samples]⟩

theorem append {more : List OpusFrame} {extra : ℕ} (h : StampedFrom position count frames)
    (hmore : StampedFrom (position + 960 * count) extra more) :
    StampedFrom position (count + extra) (frames ++ more) where
  positions := by
    rw [List.map_append, h.positions, hmore.positions, ← List.map_append, List.range'_append]
  samples := by
    intro frame hframe
    rcases List.mem_append.mp hframe with hframe | hframe
    · exact h.samples frame hframe
    · exact hmore.samples frame hframe

theorem framesFrom (h : StampedFrom position count frames)
    (hfits : ∀ i < count, position + 960 * i < 2 ^ 64) : FramesFrom position count frames where
  positions := by
    rw [h.positions]
    conv_rhs => rw [← List.map_id (List.range' position count 960)]
    apply List.map_congr_left
    intro p hp
    obtain ⟨i, hi, rfl⟩ := List.mem_range'.mp hp
    exact stamp_eq (hfits i hi)
  samples := h.samples

end StampedFrom

/-- A piece of audio is a packet as it is, or a sample. -/
abbrev Audio (codec : OpusCodec) : Type := DemuxedPacket ⊕ codec.Sample

/-- What a frame is made of, a packet that goes through or samples that are encoded. -/
inductive Content (codec : OpusCodec) where
  | passed (packet : DemuxedPacket)
  | encoded (pcm : List codec.Sample)

def Content.audio {codec : OpusCodec} : Content codec → List (Audio codec)
  | passed packet => [.inl packet]
  | encoded pcm => pcm.map .inr

/-- The frames carry the contents, each a whole frame, with an encoder that goes from one to the
next. -/
inductive Carries {codec : OpusCodec} :
    codec.Encoder → List (Content codec) → List OpusFrame → codec.Encoder → Prop
  | nil (encoder : codec.Encoder) : Carries encoder [] [] encoder
  | passed {encoder last : codec.Encoder} {contents : List (Content codec)} {frames : List OpusFrame}
      {packet : DemuxedPacket} {frame : OpusFrame} (hpass : isDiscordPassthroughPacket packet)
      (hdata : frame.data = packet.data) (h : Carries encoder contents frames last) :
      Carries encoder (.passed packet :: contents) (frame :: frames) last
  | encoded {encoder next last : codec.Encoder} {contents : List (Content codec)}
      {frames : List OpusFrame} {pcm : List codec.Sample} {frame : OpusFrame}
      (hlength : pcm.length = frameValues) (hencode : codec.encode encoder pcm = (.ok frame.data, next))
      (h : Carries next contents frames last) :
      Carries encoder (.encoded pcm :: contents) (frame :: frames) last

theorem Carries.append {codec : OpusCodec} {first middle last : codec.Encoder}
    {contents more : List (Content codec)} {frames after : List OpusFrame}
    (h : Carries first contents frames middle) (hmore : Carries middle more after last) :
    Carries first (contents ++ more) (frames ++ after) last := by
  induction h with
  | nil encoder => exact hmore
  | passed hpass hdata _ ih => exact .passed hpass hdata (ih hmore)
  | encoded hlength hencode _ ih => exact .encoded hlength hencode (ih hmore)

namespace DiscordOpusFrameNormalizer

variable {codec : OpusCodec} {ready : ℕ → codec.Decoder → Prop} {packets : List DemuxedPacket}
  {n m : DiscordOpusFrameNormalizer codec} {decoder : ℕ → codec.Decoder}
  {encoder next last : codec.Encoder} {position held : ℕ} {out : List OpusFrame}

/-- The frames made of the packets, with what is left at their end flushed. -/
def frames (n : DiscordOpusFrameNormalizer codec) :
    List DemuxedPacket → Except PlaybackError (List OpusFrame)
  | [] => n.flush.1
  | packet :: packets =>
    match n.pushPacket packet with
    | (.error e, _) => .error e
    | (.ok out, m) => (out ++ ·) <$> m.frames packets

def pushPackets (n : DiscordOpusFrameNormalizer codec) :
    List DemuxedPacket → Except PlaybackError (List OpusFrame) × DiscordOpusFrameNormalizer codec
  | [] => (.ok [], n)
  | packet :: packets =>
    match n.pushPacket packet with
    | (.error e, m) => (.error e, m)
    | (.ok out, m) =>
      let (more, r) := m.pushPackets packets
      ((out ++ ·) <$> more, r)

theorem frames_eq_flush (packets : List DemuxedPacket) (h : n.pushPackets packets = (.ok out, m)) :
    n.frames packets = (out ++ ·) <$> m.flush.1 := by
  induction packets generalizing n out with
  | nil =>
    rw [pushPackets, Prod.mk.injEq, Except.ok.injEq] at h
    obtain ⟨rfl, rfl⟩ := h
    cases hflush : n.flush.1 with
    | error e => rw [frames, hflush, Except.map_error]
    | ok made => rw [frames, hflush, Except.map_ok, List.nil_append]
  | cons packet rest ih =>
    cases hpush : n.pushPacket packet with
    | mk made after =>
      cases made with
      | error e => simp [pushPackets, hpush] at h
      | ok first =>
        cases hrest : after.pushPackets rest with
        | mk more r =>
          cases more with
          | error e => simp [pushPackets, hpush, hrest] at h
          | ok more =>
            simp only [pushPackets, hpush, hrest, Except.map_ok, Prod.mk.injEq, Except.ok.injEq] at h
            obtain ⟨rfl, rfl⟩ := h
            simp only [frames, hpush, ih hrest]
            cases r.flush.1 with
            | error e => simp only [Except.map_error]
            | ok final => simp only [Except.map_ok, List.append_assoc]

/-- The samples of a packet in both channels. -/
def bothChannels {α : Type} (channels : ℕ) (pcm : List α) : List α :=
  if channels = 1 then doubled pcm else pcm

/-- The audio of a packet after which the decoders go on, when so many samples are left over before
it: a stereo packet of one frame stands for itself at the start of a frame, and any other for the
samples it decodes to. -/
inductive PacketAudio (decoder : ℕ → codec.Decoder) (held : ℕ) (packet : DemuxedPacket) :
    List (Audio codec) → (ℕ → codec.Decoder) → Prop
  | passed (hnone : held = 0) (hpass : isDiscordPassthroughPacket packet) :
      PacketAudio decoder held packet [.inl packet] decoder
  | decoded {channels : ℕ} {pcm : List codec.Sample} {next : codec.Decoder}
      (hpass : ¬(held = 0 ∧ isDiscordPassthroughPacket packet))
      (hchannels : opusPacketChannels packet.data = some channels)
      (hdecode : codec.decode (decoder channels) packet.data packet.durationSamples.toNat =
        (.ok (pcm, packet.durationSamples.toNat), next)) :
      PacketAudio decoder held packet ((bothChannels channels pcm).map .inr)
        (Function.update decoder channels next)

/-- The audio of packets one after another. -/
inductive TrackAudio : (ℕ → codec.Decoder) → ℕ → List DemuxedPacket → List (Audio codec) → Prop
  | nil (decoder : ℕ → codec.Decoder) (held : ℕ) : TrackAudio decoder held [] []
  | cons {decoder after : ℕ → codec.Decoder} {held : ℕ} {packet : DemuxedPacket}
      {packets : List DemuxedPacket} {audio more : List (Audio codec)}
      (h : PacketAudio decoder held packet audio after)
      (hmore : TrackAudio after ((held + packet.durationSamples.toNat) % 960) packets more) :
      TrackAudio decoder held (packet :: packets) (audio ++ more)

def currentEncoder (n : DiscordOpusFrameNormalizer codec) : Except String codec.Encoder :=
  match n.encoder with
  | some encoder => .ok encoder
  | none => codec.newEncoder

/-- The normalizer holds so many samples of both channels, and goes on with the decoders and the
encoder at the position. -/
structure Holds (ready : ℕ → codec.Decoder → Prop) (n : DiscordOpusFrameNormalizer codec)
    (decoder : ℕ → codec.Decoder) (encoder : codec.Encoder) (position held : ℕ) : Prop where
  pcm : n.pendingPcm.length = held * 2
  decoders : ∀ channels, channels = 1 ∨ channels = 2 →
    n.decoderFor channels = .ok (decoder channels) ∧ ready channels (decoder channels)
  encoder : n.currentEncoder = .ok encoder
  position : n.nextOutputPositionSamples = some (stamp position)

/-- Between `n` and `m` so many frames come out, and they and what `m` holds are the audio that `n`
holds and takes in. -/
structure Emitted (n : DiscordOpusFrameNormalizer codec) (encoder : codec.Encoder)
    (position count : ℕ) (audio : List (Audio codec)) (out : List OpusFrame)
    (m : DiscordOpusFrameNormalizer codec) (last : codec.Encoder) : Prop where
  stamped : StampedFrom position count out
  carried : ∃ contents, Carries encoder contents out last ∧
    n.pendingPcm.map .inr ++ audio = contents.flatMap Content.audio ++ m.pendingPcm.map .inr

namespace Emitted

variable {r : DiscordOpusFrameNormalizer codec} {count extra : ℕ} {audio more : List (Audio codec)}
  {after : List OpusFrame}

theorem nothing (n : DiscordOpusFrameNormalizer codec) (encoder : codec.Encoder) (position : ℕ) :
    Emitted n encoder position 0 [] [] n encoder :=
  ⟨.nil position, [], .nil encoder, by simp⟩

theorem trans (h : Emitted n encoder position count audio out m next)
    (hmore : Emitted m next (position + 960 * count) extra more after r last) :
    Emitted n encoder position (count + extra) (audio ++ more) (out ++ after) r last := by
  obtain ⟨contents, hcarries, haudio⟩ := h.carried
  obtain ⟨others, hothers, hrest⟩ := hmore.carried
  refine ⟨h.stamped.append hmore.stamped, contents ++ others, hcarries.append hothers, ?_⟩
  rw [← List.append_assoc, haudio, List.append_assoc, hrest, List.flatMap_append, List.append_assoc]

end Emitted

theorem emitFrames_emitted (hcodec : Playable codec ready packets)
    (hholds : Holds ready n decoder encoder position held) {left : ℕ} (hleft : left * 960 ≤ held)
    (out : List OpusFrame) :
    ∃ more m last, emitFrames encoder n left out = (.ok (out ++ more), m) ∧
      Emitted n encoder position left [] more m last ∧
      Holds ready m decoder last (position + 960 * left) (held - left * 960) := by
  induction left generalizing encoder n position held out with
  | zero =>
    refine ⟨[], n, encoder, by rw [emitFrames, List.append_nil], .nothing n encoder position, ?_⟩
    rwa [Nat.zero_mul]
  | succ left ih =>
    rw [Nat.succ_mul] at hleft
    have hlater : left * 960 ≤ held - 960 := Nat.le_sub_of_add_le hleft
    have hlength : (n.pendingPcm.take frameValues).length = frameValues := by
      apply List.length_take_of_le
      rw [hholds.pcm]
      simp only [frameValues, discordFrameSamples, discordChannels]
      omega
    obtain ⟨packet, next, hencode⟩ := hcodec.encode encoder _ hlength
    let m : DiscordOpusFrameNormalizer codec := { n with
      encoder := some next
      nextOutputPositionSamples := some (saturatingAdd (stamp position) 960)
      pendingPcm := n.pendingPcm.drop frameValues }
    have hm : Holds ready m decoder next (position + 960) (held - 960) := by
      refine ⟨?_, hholds.decoders, rfl, congrArg some (saturatingAdd_stamp position 960)⟩
      rw [List.length_drop, hholds.pcm, Nat.sub_mul]
      rfl
    have hone : Emitted n encoder position 1 [] [discordFrame packet (stamp position)] m next := by
      refine ⟨.one packet position, [.encoded (n.pendingPcm.take frameValues)],
        .encoded hlength hencode (.nil next), ?_⟩
      simp only [List.flatMap_singleton, Content.audio, List.append_nil]
      rw [← List.map_append, List.take_append_drop]
    obtain ⟨more, r, last, hmore, hemitted, hr⟩ :=
      ih hm hlater (out ++ [discordFrame packet (stamp position)])
    refine ⟨discordFrame packet (stamp position) :: more, r, last, ?_, ?_, ?_⟩
    · simp only [emitFrames, hencode, hholds.position, Option.getD_some]
      rw [hmore, List.append_assoc, List.singleton_append]
    · rw [Nat.add_comm]
      exact hone.trans hemitted
    · have hposition : position + 960 * (left + 1) = position + 960 + 960 * left := by omega
      have hheld : held - (left + 1) * 960 = held - 960 - left * 960 := by omega
      rwa [hposition, hheld]

theorem ensureEncoder_eq (h : n.currentEncoder = .ok encoder) :
    n.ensureEncoder = .ok (encoder, { n with encoder := some encoder }) := by
  obtain ⟨mono, stereo, kept, pcm, position⟩ := n
  cases kept with
  | some kept =>
    cases h
    rfl
  | none =>
    simp only [currentEncoder] at h
    simp only [ensureEncoder, h]

theorem emitReadyFrames_emitted (hcodec : Playable codec ready packets)
    (hholds : Holds ready n decoder encoder position held) :
    ∃ out m last, n.emitReadyFrames = (.ok out, m) ∧
      Emitted n encoder position (held / 960) [] out m last ∧
      Holds ready m decoder last (position + 960 * (held / 960)) (held % 960) := by
  have hready : Holds ready { n with encoder := some encoder } decoder encoder position held :=
    ⟨hholds.pcm, hholds.decoders, rfl, hholds.position⟩
  have hcount : n.pendingPcm.length / frameValues = held / 960 := by
    rw [hholds.pcm]
    simp only [frameValues, discordFrameSamples, discordChannels]
    omega
  have hleft : held / 960 * 960 ≤ held := Nat.div_mul_le_self held 960
  obtain ⟨out, m, last, hout, hemitted, hm⟩ := emitFrames_emitted hcodec hready hleft []
  refine ⟨out, m, last, ?_, ⟨hemitted.stamped, hemitted.carried⟩, ?_⟩
  · rw [emitReadyFrames, ensureEncoder_eq hholds.encoder]
    simp only [hcount, hout, List.nil_append]
  · convert hm using 1
    omega

theorem opusPacketChannels_cases {data : Bytes} {channels : ℕ}
    (h : opusPacketChannels data = some channels) : channels = 1 ∨ channels = 2 := by
  cases data with
  | nil => cases h
  | cons toc data =>
    simp only [opusPacketChannels, List.head?_cons, Option.map_some, Option.some.injEq] at h
    split_ifs at h
    · exact .inr h.symm
    · exact .inl h.symm

theorem length_doubled {α : Type} (pcm : List α) : (doubled pcm).length = pcm.length * 2 := by
  induction pcm with
  | nil => rfl
  | cons sample pcm ih =>
    have hcons : doubled (sample :: pcm) = sample :: sample :: doubled pcm := rfl
    rw [hcons, List.length_cons, List.length_cons, List.length_cons, ih]
    omega

theorem length_bothChannels {α : Type} {channels count : ℕ} {pcm : List α}
    (hchannels : channels = 1 ∨ channels = 2) (hlength : pcm.length = count * channels) :
    (bothChannels channels pcm).length = count * 2 := by
  unfold bothChannels
  rcases hchannels with rfl | rfl
  · rw [if_pos rfl, length_doubled, hlength, Nat.mul_one]
  · rw [if_neg (by decide), hlength]

theorem decoderFor_keepDecoder {channels other : ℕ} {next : codec.Decoder}
    (hchannels : channels = 1 ∨ channels = 2) (hother : other = 1 ∨ other = 2) :
    (n.keepDecoder channels next).decoderFor other =
      if other = channels then .ok next else n.decoderFor other := by
  rcases hchannels with rfl | rfl <;> rcases hother with rfl | rfl <;> rfl

theorem keepDecoder_pendingPcm (channels : ℕ) (next : codec.Decoder) :
    (n.keepDecoder channels next).pendingPcm = n.pendingPcm := by
  unfold keepDecoder
  split_ifs <;> rfl

theorem keepDecoder_encoder (channels : ℕ) (next : codec.Decoder) :
    (n.keepDecoder channels next).encoder = n.encoder := by
  unfold keepDecoder
  split_ifs <;> rfl

theorem keepDecoder_next (channels : ℕ) (next : codec.Decoder) :
    (n.keepDecoder channels next).nextOutputPositionSamples = n.nextOutputPositionSamples := by
  unfold keepDecoder
  split_ifs <;> rfl

theorem keepDecoder_holds (hholds : Holds ready n decoder encoder position held) {channels : ℕ}
    {next : codec.Decoder} (hchannels : channels = 1 ∨ channels = 2) (hready : ready channels next) :
    Holds ready (n.keepDecoder channels next) (Function.update decoder channels next) encoder position
      held where
  pcm := by rw [keepDecoder_pendingPcm, hholds.pcm]
  decoders other hother := by
    rw [decoderFor_keepDecoder hchannels hother]
    by_cases hsame : other = channels
    · subst hsame
      rw [if_pos rfl, Function.update_self]
      exact ⟨rfl, hready⟩
    · rw [if_neg hsame, Function.update_of_ne hsame]
      exact hholds.decoders other hother
  encoder := by
    rw [currentEncoder, keepDecoder_encoder]
    exact hholds.encoder
  position := by rw [keepDecoder_next, hholds.position]

theorem decodePacket_holds (hcodec : Playable codec ready packets) {packet : DemuxedPacket}
    (hpacket : packet ∈ packets) (hlong : 0 < packet.durationSamples.toNat)
    (hholds : Holds ready n decoder encoder position held)
    (hpass : ¬(held = 0 ∧ isDiscordPassthroughPacket packet)) :
    ∃ m pcm after, n.decodePacket packet = (.ok (), m) ∧
      m.pendingPcm = n.pendingPcm ++ pcm ∧ PacketAudio decoder held packet (pcm.map .inr) after ∧
      Holds ready m after encoder position (held + packet.durationSamples.toNat) := by
  obtain ⟨channels, hchannels⟩ := hcodec.channels packet hpacket
  have honeOrTwo := opusPacketChannels_cases hchannels
  have hzero : packet.durationSamples ≠ 0 := by
    rintro hzero
    rw [hzero] at hlong
    exact lt_irrefl _ hlong
  have hsame : { n with
      nextOutputPositionSamples :=
        n.nextOutputPositionSamples.or (some packet.timestampSamples) } = n := by
    rw [hholds.position, Option.some_or, ← hholds.position]
  obtain ⟨hdecoder, hready⟩ := hholds.decoders channels honeOrTwo
  obtain ⟨pcm, next, hdecode, hlength, hreadyNext⟩ :=
    hcodec.decode packet hpacket channels (decoder channels) hchannels hready
  have hkept := keepDecoder_holds hholds honeOrTwo hreadyNext
  refine ⟨{ n.keepDecoder channels next with
    pendingPcm := n.pendingPcm ++ bothChannels channels pcm }, bothChannels channels pcm,
    Function.update decoder channels next, ?_, rfl, .decoded hpass hchannels hdecode, ?_⟩
  · simp only [decodePacket, hchannels, if_neg hzero, hsame, hdecoder, hdecode, ne_eq,
      not_true_eq_false, if_false, bothChannels]
  · refine ⟨?_, hkept.decoders, hkept.encoder, hkept.position⟩
    rw [List.length_append, hholds.pcm, length_bothChannels honeOrTwo hlength, Nat.add_mul]

/-- One packet: so many whole frames come out and the rest is held. -/
theorem pushPacket_emitted (hcodec : Playable codec ready packets) {packet : DemuxedPacket}
    (hpacket : packet ∈ packets) (hlong : 0 < packet.durationSamples.toNat)
    (hholds : Holds ready n decoder encoder position held) :
    ∃ out m audio after last, n.pushPacket packet = (.ok out, m) ∧
      PacketAudio decoder held packet audio after ∧
      Emitted n encoder position ((held + packet.durationSamples.toNat) / 960) audio out m last ∧
      Holds ready m after last (position + 960 * ((held + packet.durationSamples.toNat) / 960))
        ((held + packet.durationSamples.toNat) % 960) := by
  have hsame : { n with
      nextOutputPositionSamples :=
        n.nextOutputPositionSamples.or (some packet.timestampSamples) } = n := by
    rw [hholds.position, Option.some_or, ← hholds.position]
  have hempty : n.pendingPcm = [] ↔ held = 0 := by
    rw [← List.length_eq_zero_iff, hholds.pcm]
    omega
  simp only [pushPacket, hsame, hempty]
  by_cases hpass : held = 0 ∧ isDiscordPassthroughPacket packet
  · obtain ⟨hnone, hframe⟩ := hpass
    have hduration : packet.durationSamples.toNat = 960 := by
      simp only [isDiscordPassthroughPacket, Bool.and_eq_true, beq_iff_eq] at hframe
      rw [hframe.1]
      rfl
    have hone : (0 + 960) / 960 = 1 := rfl
    have hrest : (0 + 960) % 960 = 0 := rfl
    rw [if_pos ⟨hnone, hframe⟩, hduration, hholds.position, Option.some_or,
      Option.getD_some]
    subst hnone
    rw [hone, hrest]
    refine ⟨_, _, _, _, _, rfl, .passed rfl hframe, ⟨.one packet.data position, ?_⟩,
      ⟨hholds.pcm, hholds.decoders, hholds.encoder, ?_⟩⟩
    · refine ⟨[.passed packet], .passed hframe rfl (.nil encoder), ?_⟩
      rw [hempty.mpr rfl]
      rfl
    · exact congrArg some (saturatingAdd_stamp position 960)
  · rw [if_neg hpass]
    obtain ⟨m, pcm, after, hdecode, hpcm, haudio, hm⟩ :=
      decodePacket_holds hcodec hpacket hlong hholds hpass
    obtain ⟨out, r, last, hemit, hemitted, hr⟩ := emitReadyFrames_emitted hcodec hm
    obtain ⟨contents, hcarries, hcontents⟩ := hemitted.carried
    refine ⟨out, r, pcm.map .inr, after, last, ?_, haudio, ⟨hemitted.stamped, contents, hcarries, ?_⟩, hr⟩
    · simp only [hdecode, hemit]
    · rw [← List.map_append, ← hpcm, ← hcontents, List.append_nil]

theorem pushPackets_emitted (hcodec : Playable codec ready packets) {rest : List DemuxedPacket}
    (hrest : ∀ p ∈ rest, p ∈ packets) (hlong : ∀ p ∈ rest, 0 < p.durationSamples.toNat)
    (hholds : Holds ready n decoder encoder position held) (hless : held < 960) :
    ∃ out m audio after last, n.pushPackets rest = (.ok out, m) ∧
      TrackAudio decoder held rest audio ∧
      Emitted n encoder position ((held + totalSamples rest) / 960) audio out m last ∧
      Holds ready m after last (position + 960 * ((held + totalSamples rest) / 960))
        ((held + totalSamples rest) % 960) := by
  induction rest generalizing n decoder encoder position held with
  | nil =>
    have hnone : (held + totalSamples []) / 960 = 0 := Nat.div_eq_of_lt hless
    have hsame : (held + totalSamples []) % 960 = held := Nat.mod_eq_of_lt hless
    rw [hnone, hsame]
    exact ⟨[], n, [], decoder, encoder, rfl, .nil decoder held, .nothing n encoder position, hholds⟩
  | cons packet rest ih =>
    rw [totalSamples_cons]
    set d := packet.durationSamples.toNat with hd
    have hcount : (held + d) / 960 + ((held + d) % 960 + totalSamples rest) / 960 =
        (held + (d + totalSamples rest)) / 960 := by omega
    have hleft : ((held + d) % 960 + totalSamples rest) % 960 =
        (held + (d + totalSamples rest)) % 960 := by omega
    obtain ⟨out, m, audio, after, last, hpush, haudio, hemitted, hm⟩ := pushPacket_emitted hcodec
      (hrest packet List.mem_cons_self) (hlong packet List.mem_cons_self) hholds
    obtain ⟨more, r, others, final, end_, hmore, hothers, hmoreEmitted, hr⟩ :=
      ih (fun p hp ↦ hrest p (List.mem_cons_of_mem packet hp))
        (fun p hp ↦ hlong p (List.mem_cons_of_mem packet hp)) hm (Nat.mod_lt _ (by omega))
    rw [← hcount, ← hleft, Nat.mul_add, ← Nat.add_assoc]
    refine ⟨out ++ more, r, audio ++ others, final, end_, ?_, .cons haudio hothers,
      hemitted.trans hmoreEmitted, hr⟩
    simp only [pushPackets, hpush, hmore, Except.map_ok]

theorem flush_emitted (hcodec : Playable codec ready packets)
    (hholds : Holds ready n decoder encoder position held) (hless : held < 960) :
    ∃ out m padding last, n.flush = (.ok out, m) ∧ padding < frameValues ∧ m.pendingPcm = [] ∧
      Emitted n encoder position ((held + 959) / 960)
        (List.replicate padding (.inr codec.silence)) out m last := by
  unfold flush
  split_ifs with hempty
  · have hnone : held = 0 := by
      have hpcm := hholds.pcm
      rw [hempty] at hpcm
      simpa using hpcm.symm
    subst hnone
    exact ⟨[], n, 0, encoder, rfl, by decide, hempty, .nothing n encoder position⟩
  · have hsome : 0 < held := by
      rw [Nat.pos_iff_ne_zero]
      rintro rfl
      exact hempty (List.length_eq_zero_iff.mp (hholds.pcm.trans (Nat.zero_mul 2)))
    have hfits : n.pendingPcm.length ≤ frameValues := by
      rw [hholds.pcm]
      simp only [frameValues, discordFrameSamples, discordChannels]
      omega
    have hresized : resized frameValues codec.silence n.pendingPcm =
        n.pendingPcm ++ List.replicate (frameValues - n.pendingPcm.length) codec.silence := by
      rw [resized, List.take_of_length_le hfits]
    have hfull : (resized frameValues codec.silence n.pendingPcm).length = 960 * 2 := by
      rw [hresized, List.length_append, List.length_replicate, Nat.add_sub_cancel' hfits]
      rfl
    have hcount : (held + 959) / 960 = 960 / 960 := by omega
    obtain ⟨out, m, last, hemit, hemitted, hm⟩ := emitReadyFrames_emitted hcodec
      (n := { n with pendingPcm := resized frameValues codec.silence n.pendingPcm })
      ⟨hfull, hholds.decoders, hholds.encoder, hholds.position⟩
    obtain ⟨contents, hcarries, hcontents⟩ := hemitted.carried
    rw [hcount]
    refine ⟨out, m, frameValues - n.pendingPcm.length, last, hemit, ?_, ?_, hemitted.stamped,
      contents, hcarries, ?_⟩
    · have hlength : 0 < n.pendingPcm.length := List.length_pos_iff.mpr hempty
      have hpositive : 0 < frameValues := by decide
      omega
    · exact List.length_eq_zero_iff.mp hm.pcm
    · rw [← hcontents, List.append_nil, hresized, List.map_append, List.map_replicate]

theorem start_holds (hcodec : Playable codec ready packets) :
    ∃ decoder encoder, (∀ channels, channels = 1 ∨ channels = 2 →
        codec.newDecoder channels = .ok (decoder channels)) ∧ codec.newEncoder = .ok encoder ∧
      ∀ position < 2 ^ 64, Holds ready { (new : DiscordOpusFrameNormalizer codec) with
        nextOutputPositionSamples := some position } decoder encoder position 0 := by
  obtain ⟨mono, hmono, hmonoReady⟩ := hcodec.newDecoder 1 (.inl rfl)
  obtain ⟨stereo, hstereo, hstereoReady⟩ := hcodec.newDecoder 2 (.inr rfl)
  obtain ⟨encoder, hencoder⟩ := hcodec.newEncoder
  let decoder : ℕ → codec.Decoder := fun channels ↦ if channels = 1 then mono else stereo
  have hmade : ∀ channels, channels = 1 ∨ channels = 2 →
      codec.newDecoder channels = .ok (decoder channels) ∧ ready channels (decoder channels) := by
    rintro _ (rfl | rfl)
    · exact ⟨hmono, hmonoReady⟩
    · exact ⟨hstereo, hstereoReady⟩
  refine ⟨decoder, encoder, fun channels hchannels ↦ (hmade channels hchannels).1, hencoder, ?_⟩
  intro position hposition
  refine ⟨rfl, ?_, hencoder, congrArg some (stamp_eq hposition).symm⟩
  intro channels hchannels
  obtain ⟨hnew, hready⟩ := hmade channels hchannels
  refine ⟨?_, hready⟩
  rcases hchannels with rfl | rfl <;> simp [decoderFor, new, hnew]

theorem pushPackets_new (packet : DemuxedPacket) (rest : List DemuxedPacket) :
    (new : DiscordOpusFrameNormalizer codec).pushPackets (packet :: rest) =
      pushPackets { (new : DiscordOpusFrameNormalizer codec) with
        nextOutputPositionSamples := some packet.timestampSamples } (packet :: rest) := rfl

theorem frames_new (hcodec : Playable codec ready packets) {packet : DemuxedPacket}
    {rest : List DemuxedPacket} (hrest : ∀ p ∈ packet :: rest, p ∈ packets)
    (hlong : ∀ p ∈ packet :: rest, 0 < p.durationSamples.toNat)
    (hfits : packet.timestampSamples + totalSamples (packet :: rest) + 960 ≤ 2 ^ 64) :
    ∃ out, (new : DiscordOpusFrameNormalizer codec).frames (packet :: rest) = .ok out ∧
      FramesFrom packet.timestampSamples ((totalSamples (packet :: rest) + 959) / 960) out := by
  set total := totalSamples (packet :: rest) with htotal
  obtain ⟨decoder, encoder, -, -, hstart⟩ := start_holds hcodec
  obtain ⟨out, m, audio, after, next, hpush, -, hemitted, hm⟩ := pushPackets_emitted hcodec hrest hlong
    (hstart packet.timestampSamples (by omega)) (by omega)
  rw [← pushPackets_new] at hpush
  rw [Nat.zero_add] at hemitted hm
  obtain ⟨more, r, padding, last, hflush, -, -, hflushed⟩ :=
    flush_emitted hcodec hm (Nat.mod_lt _ (by omega))
  have hcount : total / 960 + (total % 960 + 959) / 960 = (total + 959) / 960 := by omega
  refine ⟨out ++ more, ?_, ?_⟩
  · rw [frames_eq_flush (packet :: rest) hpush, hflush, Except.map_ok]
  · rw [← hcount]
    apply (hemitted.stamped.append hflushed.stamped).framesFrom
    intro i hi
    omega

end DiscordOpusFrameNormalizer

end DiscordVoice.Playback
