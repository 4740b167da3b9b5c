import Mathlib.Data.List.Induction
import DiscordVoice.Voice.TransportRuns

namespace DiscordVoice.Voice

def durationMsFromSamples (durationSamples : UInt32) : ℕ :=
  min (durationSamples.toNat * 1000) (2 ^ 64 - 1) / 48000

def VoiceUdpTransport.sendAudioFrameWithDurationSamples (aead : Aead) (t : VoiceUdpTransport)
    (socket : Except VoiceError Unit) (frame : Bytes) (durationSamples : UInt32) :
    Except VoiceError Unit × VoiceUdpTransport :=
  match t.prepareAudioPacketWithDurationSamples aead frame (durationMsFromSamples durationSamples)
      durationSamples true with
  | (.error e, t') => (.error e, t')
  | (.ok packet, t') => t'.sendPreparedPacket socket packet

/-- A call of `send_audio_frame_with_duration_samples`, and the answer of `send_to` if the call
gets that far. -/
structure SendCall where
  frame : Bytes
  durationSamples : UInt32
  socket : Except VoiceError Unit

namespace VoiceUdpTransport

variable {aead : Aead} {t : VoiceUdpTransport} {call : SendCall}

def send (aead : Aead) (t : VoiceUdpTransport) (call : SendCall) :
    Except VoiceError Unit × VoiceUdpTransport :=
  t.sendAudioFrameWithDurationSamples aead call.socket call.frame call.durationSamples

def afterCalls (aead : Aead) (t : VoiceUdpTransport) (calls : List SendCall) : VoiceUdpTransport :=
  calls.foldl (fun t call ↦ (t.send aead call).2) t

def sendCursor (t : VoiceUdpTransport) : RtpSequenceState := unpackRtpCursor t.sender.sendSequence

/-- The preparer stands where the sender stands. -/
def InStep (t : VoiceUdpTransport) : Prop := t.preparer.reservedSequence = t.sendCursor

/-- The cipher accepts the frame, or the transport has none. -/
def Protects (aead : Aead) (t : VoiceUdpTransport) (frame : Bytes) : Prop :=
  ∀ protection ∈ t.preparer.protection,
    ((protection.protectCall (buildHeader t.preparer.ssrc t.preparer.reservedSequence) frame).run
      aead protection.mode protection.secretKey).isSome

/-- A frame of some length that the cipher accepts goes out as the next packet of the stream. -/
def Continues (aead : Aead) (t : VoiceUdpTransport) : Prop :=
  ∀ frame durationSamples, durationSamples ≠ 0 → t.Protects aead frame →
    let (result, t') := t.send aead ⟨frame, durationSamples, .ok ()⟩
    result = .ok () ∧
    (∃ body, t'.sender.wire =
      t.sender.wire ++ [buildHeader t.preparer.ssrc t.sendCursor ++ body]) ∧
    t'.sendCursor = t.sendCursor.advanceBySamples durationSamples

/-- The call is refused before a packet is made of the frame, or nothing goes wrong in it. -/
def Delivers (aead : Aead) (t : VoiceUdpTransport) (call : SendCall) : Prop :=
  call.durationSamples = 0 ∨ (t.Protects aead call.frame ∧ call.socket = .ok ())

/-- The word of the sender holds a cursor. -/
def Packed (t : VoiceUdpTransport) : Prop := t.sender.sendSequence = packRtpCursor t.sendCursor

theorem send_zero (h : call.durationSamples = 0) :
    t.send aead call = (.error (.invalidState "voice audio frame duration invalid"), t) := by
  simp only [send, sendAudioFrameWithDurationSamples, prepareAudioPacketWithDurationSamples,
    VoicePacketPreparer.prepareAudioPacketWithDurationSamples, if_pos h]

theorem prepare_of_protects {frame : Bytes} (durationMs : ℕ) {samples : UInt32}
    (hsamples : samples ≠ 0) (h : t.Protects aead frame) :
    ∃ packet preparer, t.prepareAudioPacketWithDurationSamples aead frame durationMs samples true =
        (.ok packet, { t with preparer }) ∧
      preparer.reservedSequence = t.preparer.reservedSequence.advanceBySamples samples ∧
      packet.cursor = t.preparer.reservedSequence ∧ packet.durationSamples = samples ∧
      ∃ body, packet.bytes = buildHeader t.preparer.ssrc t.preparer.reservedSequence ++ body := by
  rcases prepareAudioPacket_cases aead t.preparer frame durationMs samples with
    ⟨hzero, -⟩ | ⟨-, -, hprepare⟩ | ⟨protection, -, hprotection, hprepare⟩
  · exact absurd hzero hsamples
  · rw [prepareAudioPacketWithDurationSamples, hprepare]
    exact ⟨_, _, rfl, rfl, rfl, rfl, frame, rfl⟩
  · obtain ⟨bytes, hbytes⟩ := Option.isSome_iff_exists.mp (h protection hprotection)
    rw [prepareAudioPacketWithDurationSamples, hprepare, hbytes]
    refine ⟨_, _, rfl, rfl, rfl, rfl, ?_⟩
    obtain ⟨⟨ciphertext, tag⟩, -, rfl⟩ := Option.map_eq_some_iff.mp hbytes
    exact ⟨ciphertext ++ tag ++ beBytes32 protection.nextNonce,
      by simp only [ProtectionContext.protectCall, List.append_assoc]⟩

theorem prepare_of_not_protects {frame : Bytes} (durationMs : ℕ) {samples : UInt32}
    (hsamples : samples ≠ 0) (h : ¬ t.Protects aead frame) :
    ∃ e preparer, t.prepareAudioPacketWithDurationSamples aead frame durationMs samples true =
        (.error e, { t with preparer }) ∧
      preparer.reservedSequence = t.preparer.reservedSequence.advanceBySamples samples := by
  rcases prepareAudioPacket_cases aead t.preparer frame durationMs samples with
    ⟨hzero, -⟩ | ⟨-, hnone, -⟩ | ⟨protection, -, hprotection, hprepare⟩
  · exact absurd hzero hsamples
  · refine absurd ?_ h
    intro protection hprotection
    rw [hnone] at hprotection
    cases hprotection
  · have hrefused : (protection.protectCall (buildHeader t.preparer.ssrc
        t.preparer.reservedSequence) frame).run aead protection.mode protection.secretKey =
        none := by
      by_contra hsome
      refine h ?_
      intro protection' hprotection'
      rw [hprotection] at hprotection'
      cases hprotection'
      exact Option.isSome_iff_ne_none.mpr hsome
    rw [prepareAudioPacketWithDurationSamples, hprepare, hrefused]
    exact ⟨_, _, rfl, rfl⟩

theorem sendPreparedPacket_at_cursor {s : VoicePreparedPacketSender} {packet : PreparedVoicePacket}
    (hs : s.sendSequence = packRtpCursor packet.cursor) :
    s.sendPreparedPacket (.ok ()) packet =
      (.ok (), ⟨packRtpCursor (packet.cursor.advanceBySamples packet.durationSamples),
        s.wire ++ [packet.bytes]⟩) := by
  have hnext : ¬ (packet.rtpSequence ≠ packet.cursor.sequence ∨
      packet.rtpTimestamp ≠ packet.cursor.timestamp) := by
    rintro (h | h)
    · exact h rfl
    · exact h rfl
  simp only [VoicePreparedPacketSender.sendPreparedPacket, hs, unpackRtpCursor_packRtpCursor,
    if_neg hnext, if_true]

theorem sendPreparedPacket_of_error (s : VoicePreparedPacketSender) (e : VoiceError)
    (packet : PreparedVoicePacket) : ∃ e', s.sendPreparedPacket (.error e) packet =
      (.error e', s) := by
  simp only [VoicePreparedPacketSender.sendPreparedPacket]
  split
  next => exact ⟨_, rfl⟩
  next => exact ⟨_, rfl⟩

theorem send_ok (hstep : t.InStep) (hpacked : t.Packed) (hsamples : call.durationSamples ≠ 0)
    (hprotects : t.Protects aead call.frame) (hsocket : call.socket = .ok ()) :
    ∃ t', t.send aead call = (.ok (), t') ∧ t'.InStep ∧ t'.Packed ∧
      (∃ body, t'.sender.wire =
        t.sender.wire ++ [buildHeader t.preparer.ssrc t.sendCursor ++ body]) ∧
      t'.sendCursor = t.sendCursor.advanceBySamples call.durationSamples := by
  obtain ⟨packet, preparer, hprepare, hreserved, hcursor, hduration, body, hbytes⟩ :=
    prepare_of_protects (durationMsFromSamples call.durationSamples) hsamples hprotects
  have hsender : t.sender.sendSequence = packRtpCursor packet.cursor := by
    rw [hcursor, hstep]
    exact hpacked
  refine ⟨⟨preparer, packRtpCursor (packet.cursor.advanceBySamples packet.durationSamples),
    t.sender.wire ++ [packet.bytes]⟩, ?_, ?_, ?_, ⟨body, ?_⟩, ?_⟩
  · rw [send, sendAudioFrameWithDurationSamples, hprepare, hsocket]
    simp only [sendPreparedPacket, sendPreparedPacket_at_cursor hsender]
  · rw [InStep, sendCursor, unpackRtpCursor_packRtpCursor, hreserved, hcursor, hduration]
  · rw [Packed, sendCursor, unpackRtpCursor_packRtpCursor]
  · rw [hbytes, hstep]
  · rw [sendCursor, unpackRtpCursor_packRtpCursor, hcursor, hduration, hstep]

theorem send_error (hsamples : call.durationSamples ≠ 0)
    (hfails : ¬ (t.Protects aead call.frame ∧ call.socket = .ok ())) :
    ∃ e t', t.send aead call = (.error e, t') ∧ t'.sender = t.sender ∧
      t'.preparer.reservedSequence =
        t.preparer.reservedSequence.advanceBySamples call.durationSamples := by
  rw [send, sendAudioFrameWithDurationSamples]
  by_cases hprotects : t.Protects aead call.frame
  · obtain ⟨packet, preparer, hprepare, hreserved, -⟩ :=
      prepare_of_protects (durationMsFromSamples call.durationSamples) hsamples hprotects
    cases hsocket : call.socket with
    | ok => exact absurd ⟨hprotects, hsocket⟩ hfails
    | error e =>
      obtain ⟨e', herror⟩ := sendPreparedPacket_of_error t.sender e packet
      refine ⟨e', { t with preparer }, ?_, rfl, hreserved⟩
      rw [hprepare]
      simp only [sendPreparedPacket, herror]
  · obtain ⟨e, preparer, hprepare, hreserved⟩ :=
      prepare_of_not_protects (durationMsFromSamples call.durationSamples) hsamples hprotects
    refine ⟨e, { t with preparer }, ?_, rfl, hreserved⟩
    rw [hprepare]

theorem advanceBySamples_ne (c : RtpSequenceState) (samples : UInt32) :
    c.advanceBySamples samples ≠ c := by
  intro h
  have hsequence : c.sequence + 1 = c.sequence := congrArg RtpSequenceState.sequence h
  have hnat := congrArg UInt16.toNat hsequence
  have hlt := c.sequence.toNat_lt
  rw [UInt16.toNat_add] at hnat
  have hone : (1 : UInt16).toNat = 1 := rfl
  omega

theorem inStep_send_iff (hstep : t.InStep) (hpacked : t.Packed) :
    (t.send aead call).2.InStep ↔ t.Delivers aead call := by
  by_cases hsamples : call.durationSamples = 0
  · rw [send_zero hsamples]
    exact iff_of_true hstep (.inl hsamples)
  by_cases hgood : t.Protects aead call.frame ∧ call.socket = .ok ()
  · obtain ⟨t', hsend, hinStep, -⟩ := send_ok hstep hpacked hsamples hgood.1 hgood.2
    rw [hsend]
    exact iff_of_true hinStep (.inr hgood)
  · obtain ⟨e, t', hsend, hsender, hreserved⟩ := send_error hsamples hgood
    rw [hsend]
    apply iff_of_false
    · intro hinStep
      rw [InStep, hreserved, hstep, sendCursor, sendCursor, hsender] at hinStep
      exact advanceBySamples_ne _ _ hinStep
    · rintro (hzero | hgood')
      · exact hsamples hzero
      · exact hgood hgood'

theorem packed_send (hstep : t.InStep) (hpacked : t.Packed) : (t.send aead call).2.Packed := by
  by_cases hsamples : call.durationSamples = 0
  · rw [send_zero hsamples]
    exact hpacked
  by_cases hgood : t.Protects aead call.frame ∧ call.socket = .ok ()
  · obtain ⟨t', hsend, -, hpacked', -⟩ := send_ok hstep hpacked hsamples hgood.1 hgood.2
    rw [hsend]
    exact hpacked'
  · obtain ⟨e, t', hsend, hsender, -⟩ := send_error hsamples hgood
    rw [hsend, Packed, sendCursor, hsender]
    exact hpacked

theorem continues_of_inStep (hstep : t.InStep) (hpacked : t.Packed) : t.Continues aead := by
  intro frame durationSamples hsamples hprotects
  have hgood : (⟨frame, durationSamples, .ok ()⟩ : SendCall).socket = .ok () := rfl
  obtain ⟨t', hsend, -, -, hwire, hcursor⟩ := send_ok hstep hpacked hsamples hprotects hgood
  rw [hsend]
  exact ⟨rfl, hwire, hcursor⟩

def fresh (ssrc : UInt32) (protection : Option ProtectionContext) : VoiceUdpTransport :=
  (TransportRun.connect ssrc protection).transport

/-- After every call of the list the cursors agree, and the next good frame goes out. -/
def NeverWedged (aead : Aead) (t : VoiceUdpTransport) (calls : List SendCall) : Prop :=
  ∀ before, before <+: calls →
    (t.afterCalls aead before).InStep ∧ (t.afterCalls aead before).Continues aead

/-- Every call of the list delivers in the state it finds. -/
def AllDeliver (aead : Aead) (t : VoiceUdpTransport) (calls : List SendCall) : Prop :=
  ∀ before call, before ++ [call] <+: calls → (t.afterCalls aead before).Delivers aead call

theorem afterCalls_append (before : List SendCall) (call : SendCall) :
    t.afterCalls aead (before ++ [call]) = ((t.afterCalls aead before).send aead call).2 := by
  rw [afterCalls, List.foldl_append]
  rfl

theorem inStep_of_allDeliver (hstep : t.InStep) (hpacked : t.Packed) {calls : List SendCall}
    (h : t.AllDeliver aead calls) :
    (t.afterCalls aead calls).InStep ∧ (t.afterCalls aead calls).Packed := by
  induction calls using List.reverseRecOn with
  | nil => exact ⟨hstep, hpacked⟩
  | append_singleton before call ih =>
    obtain ⟨hbefore, hpackedBefore⟩ := ih fun before' call' hfirst ↦
      h before' call' (hfirst.trans (List.prefix_append before [call]))
    rw [afterCalls_append]
    exact ⟨(inStep_send_iff hbefore hpackedBefore).mpr (h before call (List.prefix_refl _)),
      packed_send hbefore hpackedBefore⟩

theorem packed_of_neverWedged (hpacked : t.Packed) {calls : List SendCall}
    (h : t.NeverWedged aead calls) : (t.afterCalls aead calls).Packed := by
  induction calls using List.reverseRecOn with
  | nil => exact hpacked
  | append_singleton before call ih =>
    have hbefore : t.NeverWedged aead before := fun before' hfirst ↦
      h before' (hfirst.trans (List.prefix_append before [call]))
    rw [afterCalls_append]
    exact packed_send (hbefore before (List.prefix_refl _)).1 (ih hbefore)

/-- The transport keeps sending through a list of calls just when every one of them delivers. -/
theorem never_wedged_iff (aead : Aead) (ssrc : UInt32) (protection : Option ProtectionContext)
    (calls : List SendCall) :
    (fresh ssrc protection).NeverWedged aead calls ↔
      (fresh ssrc protection).AllDeliver aead calls := by
  have hpacked : (fresh ssrc protection).Packed := by
    rw [Packed, sendCursor]
    exact congrArg packRtpCursor (unpackRtpCursor_packRtpCursor .new).symm
  have hstep : (fresh ssrc protection).InStep := (unpackRtpCursor_packRtpCursor .new).symm
  constructor
  · intro h before call hfirst
    have hbefore : (fresh ssrc protection).NeverWedged aead before := fun before' hfirst' ↦
      h before' (hfirst'.trans ((List.prefix_append before [call]).trans hfirst))
    have hafter := (h (before ++ [call]) hfirst).1
    rw [afterCalls_append] at hafter
    exact (inStep_send_iff (hbefore before (List.prefix_refl _)).1
      (packed_of_neverWedged hpacked hbefore)).mp hafter
  · intro h before hfirst
    obtain ⟨hinStep, hpacked'⟩ := inStep_of_allDeliver hstep hpacked fun before' call hfirst' ↦
      h before' call (hfirst'.trans hfirst)
    exact ⟨hinStep, continues_of_inStep hinStep hpacked'⟩

/-- The socket fails once, and the frame behind it is refused for good. -/
def failedSend : List SendCall := [⟨[0xF8], 960, .error (.io "network unreachable")⟩]

theorem failed_send_wedges : ¬ (fresh 7 none).NeverWedged plainAead failedSend ∧
    (((fresh 7 none).afterCalls plainAead failedSend).send plainAead ⟨[0xF8], 960, .ok ()⟩).1 =
      .error (.invalidState "voice prepared packet rtp cursor is not next send") := by
  constructor
  · intro h
    have hahead : ((fresh 7 none).afterCalls plainAead failedSend).preparer.reservedSequence ≠
        ((fresh 7 none).afterCalls plainAead failedSend).sendCursor := by decide
    exact hahead (h failedSend (List.prefix_refl _)).1
  · decide

end VoiceUdpTransport

end DiscordVoice.Voice
