import Mathlib.Data.List.Basic
import Mathlib.Data.Nat.Bitwise

namespace DiscordVoice.Voice

abbrev Bytes := List UInt8

inductive VoiceError
  | unsupportedEncryptionMode
  | unsupportedGatewayOp (op : UInt64)
  | unsupportedBinaryGatewayOp (op : UInt8)
  | invalidState (reason : String)
  | io (detail : String)
  | invalidUri (detail : String)
  | webSocket (detail : String)
  deriving DecidableEq, Repr

def VoiceError.isGatewayClosedDuringReceive : VoiceError → Bool
  | .invalidState reason => reason = "voice gateway closed during receive"
  | _ => false

structure RtpSequenceState where
  sequence : UInt16
  timestamp : UInt32
  deriving DecidableEq, Repr

namespace RtpSequenceState

def new : RtpSequenceState := ⟨0, 0⟩

/-- The cursor a packet of the given duration leaves behind. -/
def advanceBySamples (c : RtpSequenceState) (timestampDelta : UInt32) : RtpSequenceState :=
  ⟨c.sequence + 1, c.timestamp + timestampDelta⟩

end RtpSequenceState

def packRtpCursor (c : RtpSequenceState) : UInt64 :=
  (c.timestamp.toUInt64 <<< 16) ||| c.sequence.toUInt64

def unpackRtpCursor (cursor : UInt64) : RtpSequenceState :=
  ⟨cursor.toUInt16, (cursor >>> 16).toUInt32⟩

theorem packRtpCursor_toNat (c : RtpSequenceState) :
    (packRtpCursor c).toNat = c.timestamp.toNat * 65536 + c.sequence.toNat := by
  have hs := c.sequence.toNat_lt
  have ht := c.timestamp.toNat_lt
  have hor := Nat.shiftLeft_add_eq_or_of_lt (i := 16) (by simpa using hs) c.timestamp.toNat
  rw [Nat.shiftLeft_eq] at hor
  simp only [packRtpCursor, UInt64.toNat_or, UInt64.toNat_shiftLeft, UInt32.toNat_toUInt64,
    UInt16.toNat_toUInt64, UInt64.reduceToNat, Nat.reduceMod, Nat.shiftLeft_eq]
  rw [Nat.mod_eq_of_lt (by omega)]
  exact hor.symm

/-- The atomic word of the sender holds its cursor without loss. -/
theorem unpackRtpCursor_packRtpCursor (c : RtpSequenceState) :
    unpackRtpCursor (packRtpCursor c) = c := by
  have hs := c.sequence.toNat_lt
  have ht := c.timestamp.toNat_lt
  have hp := packRtpCursor_toNat c
  have hseq : (packRtpCursor c).toUInt16 = c.sequence := by
    apply UInt16.toNat_inj.mp
    rw [UInt64.toNat_toUInt16, hp]
    omega
  have hts : (packRtpCursor c >>> 16).toUInt32 = c.timestamp := by
    apply UInt32.toNat_inj.mp
    rw [UInt64.toNat_toUInt32, UInt64.toNat_shiftRight, hp, Nat.shiftRight_eq_div_pow]
    simp only [UInt64.reduceToNat, Nat.reduceMod, Nat.reducePow]
    omega
  rw [unpackRtpCursor, hseq, hts]

inductive EncryptionMode
  | aeadAes256GcmRtpsize
  | aeadXChaCha20Poly1305Rtpsize
  deriving DecidableEq, Repr

/-- The detached AEAD encryption of the two cipher crates: ciphertext and tag. -/
structure Aead where
  encryptInPlaceDetached :
    EncryptionMode → Bytes → Bytes → Bytes → Bytes → Option (Bytes × Bytes)

/-- A cipher that appends an empty tag to the plaintext. -/
def plainAead : Aead := ⟨fun _ _ _ _ payload ↦ some (payload, [])⟩

structure ProtectionContext where
  mode : EncryptionMode
  secretKey : Bytes
  nextNonce : UInt32
  keyLength : secretKey.length = 32

def beBytes16 (n : UInt16) : Bytes := [(n >>> 8).toUInt8, n.toUInt8]

def beBytes32 (n : UInt32) : Bytes :=
  [(n >>> 24).toUInt8, (n >>> 16).toUInt8, (n >>> 8).toUInt8, n.toUInt8]

def nonceLength : EncryptionMode → ℕ
  | .aeadAes256GcmRtpsize => 12
  | .aeadXChaCha20Poly1305Rtpsize => 24

def protectPacket (aead : Aead) (p : ProtectionContext) (rtpHeader payload : Bytes) :
    Except VoiceError Bytes × ProtectionContext :=
  let nonceSuffix := beBytes32 p.nextNonce
  let p' := { p with nextNonce := p.nextNonce + 1 }
  let nonce := nonceSuffix ++ List.replicate (nonceLength p.mode - 4) 0
  match aead.encryptInPlaceDetached p.mode p.secretKey nonce rtpHeader payload with
  | some (ciphertext, tag) => (.ok (rtpHeader ++ ciphertext ++ tag ++ nonceSuffix), p')
  | none => (.error (.invalidState "voice packet protection failed"), p')

structure PreparedVoicePacket where
  bytes : Bytes
  durationMs : ℕ
  durationSamples : UInt32
  isTrack : Bool
  rtpSequence : UInt16
  rtpTimestamp : UInt32
  protectionNonce : Option UInt32
  deriving DecidableEq, Repr

def PreparedVoicePacket.cursor (p : PreparedVoicePacket) : RtpSequenceState :=
  ⟨p.rtpSequence, p.rtpTimestamp⟩

structure VoicePacketPreparer where
  ssrc : UInt32
  reservedSequence : RtpSequenceState
  protection : Option ProtectionContext

def buildHeader (ssrc : UInt32) (c : RtpSequenceState) : Bytes :=
  [0x80, 0x78] ++ beBytes16 c.sequence ++ beBytes32 c.timestamp ++ beBytes32 ssrc

def protectionNonceFromPacket (packet : Bytes) (isProtected : Bool) : Option UInt32 :=
  if isProtected then
    match packet.drop (packet.length - 4) with
    | [a, b, c, d] =>
      some ((a.toUInt32 <<< 24) ||| (b.toUInt32 <<< 16) ||| (c.toUInt32 <<< 8) ||| d.toUInt32)
    | _ => none
  else none

def VoicePacketPreparer.prepareAudioPacketWithDurationSamples (aead : Aead)
    (p : VoicePacketPreparer) (frame : Bytes) (durationMs : ℕ) (durationSamples : UInt32) :
    Except VoiceError PreparedVoicePacket × VoicePacketPreparer :=
  if durationSamples = 0 then
    (.error (.invalidState "voice audio frame duration invalid"), p)
  else
    let c := p.reservedSequence
    let header := buildHeader p.ssrc c
    let p' := { p with reservedSequence := c.advanceBySamples durationSamples }
    let packet (bytes : Bytes) : PreparedVoicePacket :=
      { bytes, durationMs, durationSamples, isTrack := true, rtpSequence := c.sequence,
        rtpTimestamp := c.timestamp,
        protectionNonce := protectionNonceFromPacket bytes p.protection.isSome }
    match p.protection with
    | some protection =>
      match protectPacket aead protection header frame with
      | (.ok bytes, protection') => (.ok (packet bytes), { p' with protection := some protection' })
      | (.error e, protection') => (.error e, { p' with protection := some protection' })
    | none => (.ok (packet (header ++ frame)), p')

structure VoicePreparedPacketSender where
  sendSequence : UInt64
  wire : List Bytes

def VoicePreparedPacketSender.new : VoicePreparedPacketSender :=
  ⟨packRtpCursor .new, []⟩

/-- Sending with nobody else at the cursor: the load, the datagram and the exchange follow each
other. `socket` is the answer of `send_to`. -/
def VoicePreparedPacketSender.sendPreparedPacket (s : VoicePreparedPacketSender)
    (socket : Except VoiceError Unit) (packet : PreparedVoicePacket) :
    Except VoiceError Unit × VoicePreparedPacketSender :=
  let c := unpackRtpCursor s.sendSequence
  if packet.rtpSequence ≠ c.sequence ∨ packet.rtpTimestamp ≠ c.timestamp then
    (.error (.invalidState "voice prepared packet rtp cursor is not next send"), s)
  else
    match socket with
    | .error e => (.error e, s)
    | .ok () =>
      let next := packRtpCursor (packet.cursor.advanceBySamples packet.durationSamples)
      let s := { s with wire := s.wire ++ [packet.bytes] }
      if s.sendSequence = packRtpCursor packet.cursor then
        (.ok (), { s with sendSequence := next })
      else
        (.error (.invalidState "voice prepared packet send cursor advanced concurrently"), s)

structure VoiceUdpTransport where
  preparer : VoicePacketPreparer
  sender : VoicePreparedPacketSender

namespace VoiceUdpTransport

def prepareAudioPacketWithDurationSamples (aead : Aead) (t : VoiceUdpTransport) (frame : Bytes)
    (durationMs : ℕ) (durationSamples : UInt32) (isTrack : Bool) :
    Except VoiceError PreparedVoicePacket × VoiceUdpTransport :=
  match t.preparer.prepareAudioPacketWithDurationSamples aead frame durationMs durationSamples with
  | (.ok packet, p) => (.ok { packet with isTrack }, { t with preparer := p })
  | (.error e, p) => (.error e, { t with preparer := p })

def sendPreparedPacket (t : VoiceUdpTransport) (socket : Except VoiceError Unit)
    (packet : PreparedVoicePacket) : Except VoiceError Unit × VoiceUdpTransport :=
  match t.sender.sendPreparedPacket socket packet with
  | (r, s) => (r, { t with sender := s })

def discardUnsentPreparedPackets (t : VoiceUdpTransport) : VoiceUdpTransport :=
  { t with preparer :=
    { t.preparer with reservedSequence := unpackRtpCursor t.sender.sendSequence } }

end VoiceUdpTransport

end DiscordVoice.Voice
