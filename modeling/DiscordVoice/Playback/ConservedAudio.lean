import DiscordVoice.Playback.NormalizedFrames

namespace DiscordVoice.Playback

namespace DiscordOpusFrameNormalizer

variable {codec : OpusCodec} {ready : ℕ → codec.Decoder → Prop} {packets : List DemuxedPacket}
  {start : ℕ}

/-- Of the packets, the first of them at `start`, a fresh normalizer makes the frames `out`, and a
flush after that the frames `last`. -/
structure Conserves (codec : OpusCodec) (packets : List DemuxedPacket) (start : ℕ)
    (out last : List OpusFrame) : Prop where
  made : ∃ m r : DiscordOpusFrameNormalizer codec, new.pushPackets packets = (.ok out, m) ∧
    m.flush = (.ok last, r) ∧ r.pendingPcm = []
  /-- The whole frames of the packets come out before the flush. -/
  whole : out.length = totalSamples packets / 960
  frames : FramesFrom start ((totalSamples packets + 959) / 960) (out ++ last)
  /-- After any of the packets less than a frame is held. -/
  pending : ∀ before after, packets = before ++ after →
    ∃ (early : List OpusFrame) (m : DiscordOpusFrameNormalizer codec) (pairs : ℕ),
      new.pushPackets before = (.ok early, m) ∧ m.pendingPcm.length = pairs * 2 ∧ pairs < 960
  /-- The frames carry the audio of the packets, and silence after it. -/
  audio : ∃ decoder encoder later contents audio padding,
    (∀ channels, channels = 1 ∨ channels = 2 →
      codec.newDecoder channels = .ok (decoder channels)) ∧
    codec.newEncoder = .ok encoder ∧ TrackAudio decoder 0 packets audio ∧
    Carries encoder contents (out ++ last) later ∧
    contents.flatMap Content.audio = audio ++ List.replicate padding (.inr codec.silence) ∧
    padding < frameValues

theorem pushPackets_position {position : ℕ}
    (hstart : ∀ packet ∈ packets.head?, packet.timestampSamples = position) (hpackets : packets ≠ []) :
    (new : DiscordOpusFrameNormalizer codec).pushPackets packets =
      pushPackets { (new : DiscordOpusFrameNormalizer codec) with
        nextOutputPositionSamples := some position } packets := by
  cases packets with
  | nil => exact absurd rfl hpackets
  | cons packet rest =>
    rw [pushPackets_new, hstart packet rfl]

theorem totalSamples_pos (hlong : ∀ p ∈ packets, 0 < p.durationSamples.toNat)
    (hpackets : packets ≠ []) : 0 < totalSamples packets := by
  cases packets with
  | nil => exact absurd rfl hpackets
  | cons packet rest =>
    rw [totalSamples_cons]
    exact Nat.add_pos_left (hlong packet List.mem_cons_self) _

theorem pending_less (hcodec : Playable codec ready packets)
    (hlong : ∀ p ∈ packets, 0 < p.durationSamples.toNat)
    (hstart : ∀ packet ∈ packets.head?, packet.timestampSamples = start) (hfits : start < 2 ^ 64)
    {before after : List DemuxedPacket} (hsplit : packets = before ++ after) :
    ∃ (early : List OpusFrame) (m : DiscordOpusFrameNormalizer codec) (pairs : ℕ),
      new.pushPackets before = (.ok early, m) ∧ m.pendingPcm.length = pairs * 2 ∧ pairs < 960 := by
  cases before with
  | nil => exact ⟨[], new, 0, rfl, rfl, by omega⟩
  | cons packet rest =>
    have hmem : ∀ p ∈ packet :: rest, p ∈ packets := by
      intro p hp
      rw [hsplit]
      exact List.mem_append_left after hp
    have hfirst : packet.timestampSamples = start := by
      apply hstart
      rw [hsplit]
      rfl
    obtain ⟨decoder, encoder, -, -, hholds⟩ := start_holds hcodec
    obtain ⟨out, m, _, _, _, hpush, -, -, hm⟩ := pushPackets_emitted hcodec hmem
      (fun p hp ↦ hlong p (hmem p hp)) (hholds start hfits) (by omega)
    rw [← hfirst, ← pushPackets_new] at hpush
    exact ⟨out, m, _, hpush, hm.pcm, Nat.mod_lt _ (by omega)⟩

theorem conserves_nil (hcodec : Playable codec ready []) : Conserves codec [] start [] [] where
  made := ⟨new, new, rfl, rfl, rfl⟩
  whole := rfl
  frames := ⟨rfl, by simp⟩
  pending := by
    intro before after hsplit
    obtain ⟨rfl, rfl⟩ := List.append_eq_nil_iff.mp hsplit.symm
    exact ⟨[], new, 0, rfl, rfl, by omega⟩
  audio := by
    obtain ⟨decoder, encoder, hdecoder, hencoder, -⟩ := start_holds hcodec
    exact ⟨decoder, encoder, encoder, [], [], 0, hdecoder, hencoder, .nil decoder 0, .nil encoder, rfl,
      by decide⟩

/-- The frames that come out of the packets are, sample after sample, the audio that went in, filled
up with less than a frame of silence. -/
theorem normalizer_conserves_audio (hcodec : Playable codec ready packets)
    (hlong : ∀ packet ∈ packets, packet.durationSamples ≠ 0)
    (hstart : ∀ packet ∈ packets.head?, packet.timestampSamples = start)
    (hfits : ∀ i < (totalSamples packets + 959) / 960, start + 960 * i < 2 ^ 64) :
    ∃ out last, Conserves codec packets start out last := by
  have hpositive : ∀ packet ∈ packets, 0 < packet.durationSamples.toNat := by
    intro packet hpacket
    exact Nat.pos_of_ne_zero fun hzero ↦ hlong packet hpacket (UInt32.toNat_inj.mp hzero)
  by_cases hpackets : packets = []
  · subst hpackets
    exact ⟨[], [], conserves_nil hcodec⟩
  have htotal := totalSamples_pos hpositive hpackets
  have hfirst : start < 2 ^ 64 := hfits 0 (by omega)
  obtain ⟨decoder, encoder, hdecoder, hencoder, hholds⟩ := start_holds hcodec
  obtain ⟨out, m, audio, after, next, hpush, haudio, hemitted, hm⟩ := pushPackets_emitted hcodec
    (fun p hp ↦ hp) hpositive (hholds start hfirst) (by omega)
  rw [← pushPackets_position hstart hpackets] at hpush
  rw [Nat.zero_add] at hemitted hm
  obtain ⟨last, r, padding, later, hflush, hpadding, hempty, hflushed⟩ :=
    flush_emitted hcodec hm (Nat.mod_lt _ (by omega))
  have hcount : totalSamples packets / 960 + (totalSamples packets % 960 + 959) / 960 =
      (totalSamples packets + 959) / 960 := by omega
  have hall := hemitted.trans hflushed
  rw [hcount] at hall
  obtain ⟨contents, hcarries, hcontents⟩ := hall.carried
  refine ⟨out, last, ⟨m, r, hpush, hflush, hempty⟩, ?_, hall.stamped.framesFrom hfits, ?_, ?_⟩
  · have hlength := congrArg List.length hemitted.stamped.positions
    rwa [List.length_map, List.length_map, List.length_range'] at hlength
  · intro before rest hsplit
    exact pending_less hcodec hpositive hstart hfirst hsplit
  · refine ⟨decoder, encoder, later, contents, audio, padding, hdecoder, hencoder, haudio, hcarries, ?_,
      hpadding⟩
    rw [hempty] at hcontents
    simpa only [new, List.map_nil, List.nil_append, List.append_nil] using hcontents.symm

def quietCodec : OpusCodec :=
  ⟨ℕ, Unit, ℤ, 0, fun channels ↦ .ok channels,
    fun channels _ count ↦ (.ok (List.replicate (count * channels) 0, count), channels),
    .ok (), fun _ _ ↦ (.ok [0xFC], ())⟩

def quietPackets : List DemuxedPacket := [⟨[0xF0], 10, 480, 10, 480⟩, ⟨[0xFC], 20, 960, 20, 960⟩]

theorem quietCodec_playable :
    Playable quietCodec (fun channels decoder ↦ decoder = channels) quietPackets where
  channels := by
    have hone : opusPacketChannels [0xF0] = some 1 := by decide
    have htwo : opusPacketChannels [0xFC] = some 2 := by decide
    intro p hp
    simp only [quietPackets, List.mem_cons, List.not_mem_nil, or_false] at hp
    rcases hp with rfl | rfl
    · exact ⟨1, hone⟩
    · exact ⟨2, htwo⟩
  newDecoder channels _ := ⟨channels, rfl, rfl⟩
  decode := by
    rintro p - channels decoder - rfl
    exact ⟨_, _, rfl, List.length_replicate, rfl⟩
  newEncoder := ⟨(), rfl⟩
  encode encoder pcm _ := ⟨[0xFC], (), rfl⟩

/-- Thirty milliseconds of silence come out as two frames. -/
theorem normalizer_conserves_silence : ∃ out last, Conserves quietCodec quietPackets 480 out last := by
  have hcount : (totalSamples quietPackets + 959) / 960 = 2 := rfl
  apply normalizer_conserves_audio quietCodec_playable
  · intro packet hpacket
    simp only [quietPackets, List.mem_cons, List.not_mem_nil, or_false] at hpacket
    rcases hpacket with rfl | rfl <;> decide
  · rintro packet ⟨⟩
    rfl
  · rw [hcount]
    intro i hi
    omega

end DiscordOpusFrameNormalizer

end DiscordVoice.Playback
