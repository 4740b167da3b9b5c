import DiscordVoice.Playback.OpusQueue

namespace DiscordVoice.Validation

open Voice Playback

structure ObservedOpusPacket where
  sequence : UInt16
  timestamp : UInt32
  payload : Bytes
  deriving DecidableEq, Repr

/-- The fields of the accumulator that the continuity of the stream depends on. -/
structure AudioValidationAccumulator where
  lastPacketDurationSamples : Option UInt32
  lastPacketTimestamp : Option UInt32
  lastPacketSequence : Option UInt16
  deriving DecidableEq, Repr

namespace AudioValidationAccumulator

def new : AudioValidationAccumulator := ⟨none, none, none⟩

def validateRtpSequence (acc : AudioValidationAccumulator) (sequence : UInt16) :
    Except String Unit :=
  match acc.lastPacketSequence with
  | none => .ok ()
  | some previousSequence =>
    let expectedSequence := previousSequence + 1
    if sequence ≠ expectedSequence then
      .error s!"rtp sequence jumped from {previousSequence} to {sequence}; expected {expectedSequence}"
    else .ok ()

def validateRtpTimestamp (acc : AudioValidationAccumulator) (timestamp : UInt32) :
    Except String Unit :=
  match acc.lastPacketTimestamp, acc.lastPacketDurationSamples, acc.lastPacketSequence with
  | some previousTimestamp, some previousSamples, some previousSequence =>
    let delta := timestamp - previousTimestamp
    if delta ≠ previousSamples then
      .error s!"rtp timestamp delta was {delta} samples after sequence {previousSequence}; expected previous opus duration {previousSamples} samples"
    else .ok ()
  | _, _, _ => .ok ()

def validateRtpContinuity (acc : AudioValidationAccumulator) (sequence : UInt16)
    (timestamp : UInt32) : Except String Unit := do
  acc.validateRtpSequence sequence
  acc.validateRtpTimestamp timestamp

def recordPacket (_ : AudioValidationAccumulator) (packet : ObservedOpusPacket)
    (declaredSamples : UInt32) : AudioValidationAccumulator where
  lastPacketDurationSamples := some declaredSamples
  lastPacketTimestamp := some packet.timestamp
  lastPacketSequence := some packet.sequence

/-- `observe_packet_at`, with the number of samples the decoder returns for the packet. -/
def observePacketAt (acc : AudioValidationAccumulator) (packet : ObservedOpusPacket)
    (decoded : Except String ℕ) : Except String AudioValidationAccumulator := do
  if packet.payload.isEmpty then throw "observed opus payload must not be empty"
  let declaredDuration ←
    match opusPacketDuration packet.payload with
    | none => throw s!"unsupported opus packet header at sequence {packet.sequence}"
    | some d => pure d
  let decodedSamples ← decoded
  if decodedSamples ≠ declaredDuration.samples.toNat then
    throw s!"decoded opus packet at sequence {packet.sequence} returned {decodedSamples} samples; declared duration was {declaredDuration.samples} samples"
  acc.validateRtpContinuity packet.sequence packet.timestamp
  return acc.recordPacket packet declaredDuration.samples

/-- The accumulator once it has observed a stream whose packets it accepted. -/
def observed (acc : AudioValidationAccumulator) (packets : List ObservedOpusPacket) :
    AudioValidationAccumulator :=
  packets.foldl
    (fun acc packet ↦ (opusPacketDuration packet.payload).elim acc
      fun d ↦ acc.recordPacket packet d.samples)
    acc

@[simp] theorem observed_concat (acc : AudioValidationAccumulator)
    (packets : List ObservedOpusPacket) (packet : ObservedOpusPacket) :
    acc.observed (packets ++ [packet]) =
      (opusPacketDuration packet.payload).elim (acc.observed packets)
        fun d ↦ (acc.observed packets).recordPacket packet d.samples := by
  simp only [observed, List.foldl_append, List.foldl_cons, List.foldl_nil]

theorem validateRtpContinuity_recordPacket {acc : AudioValidationAccumulator}
    {packet : ObservedOpusPacket} {samples : UInt32} {sequence : UInt16} {timestamp : UInt32} :
    (acc.recordPacket packet samples).validateRtpContinuity sequence timestamp = .ok () ↔
      sequence = packet.sequence + 1 ∧ timestamp = packet.timestamp + samples := by
  have htimestamp : timestamp - packet.timestamp = samples ↔
      timestamp = packet.timestamp + samples := by
    rw [UInt32.sub_eq_iff_eq_add, UInt32.add_comm]
  by_cases hsequence : sequence = packet.sequence + 1
  · have hrest : (acc.recordPacket packet samples).validateRtpContinuity sequence timestamp =
        (acc.recordPacket packet samples).validateRtpTimestamp timestamp := by
      simp [validateRtpContinuity, validateRtpSequence, recordPacket, hsequence, bind, Except.bind]
    rw [hrest, ← htimestamp]
    simp [validateRtpTimestamp, recordPacket, hsequence]
  · simp [validateRtpContinuity, validateRtpSequence, recordPacket, hsequence, bind, Except.bind]

end AudioValidationAccumulator

end DiscordVoice.Validation
