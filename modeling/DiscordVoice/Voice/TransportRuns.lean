import DiscordVoice.Chains
import DiscordVoice.Schedule
import DiscordVoice.Voice.Protection

namespace DiscordVoice.Voice

open Chains Schedule

/-- A call on one transport. A packet to send is named by its place among the packets that were
prepared, and `socket` is the answer of `send_to`. -/
inductive TransportCall
  | prepare (frame : Bytes) (durationMs : ℕ) (durationSamples : UInt32) (isTrack : Bool)
  | send (index : ℕ) (socket : Except VoiceError Unit)
  | discard
  deriving Repr

/-- A packet that was prepared, with the frame it carries and the number of the call of
`protect_packet` it came from. -/
structure PreparedFrame where
  frame : Bytes
  packet : PreparedVoicePacket
  call : ℕ
  deriving DecidableEq, Repr

/-- A transport and what has happened on it: the packets prepared, the packets whose send returned
`Ok`, and the calls of `protect_packet`, all in order. -/
structure TransportRun where
  transport : VoiceUdpTransport
  prepared : List PreparedFrame
  sent : List PreparedFrame
  protectCalls : List ProtectCall

def VoicePacketPreparer.protectCall (p : VoicePacketPreparer) (frame : Bytes)
    (durationSamples : UInt32) : Option ProtectCall :=
  if durationSamples = 0 then none
  else p.protection.map (·.protectCall (buildHeader p.ssrc p.reservedSequence) frame)

namespace TransportRun

def connect (ssrc : UInt32) (protection : Option ProtectionContext) : TransportRun :=
  ⟨⟨⟨ssrc, .new, protection⟩, .new⟩, [], [], []⟩

def step (aead : Aead) (r : TransportRun) : TransportCall → Option TransportRun
  | .prepare frame durationMs durationSamples isTrack =>
    let (result, transport) :=
      r.transport.prepareAudioPacketWithDurationSamples aead frame durationMs durationSamples isTrack
    let prepared := (result.toOption.map (⟨frame, ·, r.protectCalls.length⟩)).toList
    some { r with
      transport
      prepared := r.prepared ++ prepared
      protectCalls := r.protectCalls ++
        (r.transport.preparer.protectCall frame durationSamples).toList }
  | .send index socket =>
    r.prepared[index]?.map fun p ↦
      match r.transport.sendPreparedPacket socket p.packet with
      | (.ok (), transport) => { r with transport, sent := r.sent ++ [p] }
      | (.error _, transport) => { r with transport }
  | .discard => some { r with transport := r.transport.discardUnsentPreparedPackets }

end TransportRun

theorem prepareAudioPacket_cases (aead : Aead) (p : VoicePacketPreparer) (frame : Bytes)
    (durationMs : ℕ) (samples : UInt32) :
    (samples = 0 ∧ p.prepareAudioPacketWithDurationSamples aead frame durationMs samples =
      (.error (.invalidState "voice audio frame duration invalid"), p)) ∨
    (samples ≠ 0 ∧ p.protection = none ∧
      p.prepareAudioPacketWithDurationSamples aead frame durationMs samples =
        (.ok ⟨buildHeader p.ssrc p.reservedSequence ++ frame, durationMs, samples, true,
          p.reservedSequence.sequence, p.reservedSequence.timestamp, none⟩,
          { p with reservedSequence := p.reservedSequence.advanceBySamples samples })) ∨
    ∃ protection, samples ≠ 0 ∧ p.protection = some protection ∧
      p.prepareAudioPacketWithDurationSamples aead frame durationMs samples =
        (((protection.protectCall (buildHeader p.ssrc p.reservedSequence) frame).run aead
            protection.mode protection.secretKey).elim
          (.error (.invalidState "voice packet protection failed"))
          (fun bytes ↦ .ok ⟨bytes, durationMs, samples, true, p.reservedSequence.sequence,
            p.reservedSequence.timestamp, protectionNonceFromPacket bytes true⟩),
          ⟨p.ssrc, p.reservedSequence.advanceBySamples samples,
            some { protection with nextNonce := protection.nextNonce + 1 }⟩) := by
  by_cases hsamples : samples = 0
  · exact .inl ⟨hsamples, by simp [VoicePacketPreparer.prepareAudioPacketWithDurationSamples, hsamples]⟩
  · cases hp : p.protection with
    | none =>
      refine .inr (.inl ⟨hsamples, rfl, ?_⟩)
      simp [VoicePacketPreparer.prepareAudioPacketWithDurationSamples, hsamples, hp,
        protectionNonceFromPacket]
    | some protection =>
      refine .inr (.inr ⟨protection, hsamples, rfl, ?_⟩)
      simp only [VoicePacketPreparer.prepareAudioPacketWithDurationSamples, hsamples, hp,
        protectPacket_eq_run, if_false, Option.isSome_some]
      cases (protection.protectCall (buildHeader p.ssrc p.reservedSequence) frame).run aead
          protection.mode protection.secretKey with
      | none => rfl
      | some bytes => rfl

/-- With the cursor to itself a send either puts out the packet the cursor stands at and moves the
cursor behind it, or does nothing. -/
theorem sendPreparedPacket_cases {s : VoicePreparedPacketSender} {c : RtpSequenceState}
    (hs : s.sendSequence = packRtpCursor c) (socket : Except VoiceError Unit)
    (packet : PreparedVoicePacket) :
    (packet.cursor = c ∧ s.sendPreparedPacket socket packet =
      (.ok (), ⟨packRtpCursor (packet.cursor.advanceBySamples packet.durationSamples),
        s.wire ++ [packet.bytes]⟩)) ∨
    ∃ e, s.sendPreparedPacket socket packet = (.error e, s) := by
  have hcursor : unpackRtpCursor s.sendSequence = c := by
    rw [hs, unpackRtpCursor_packRtpCursor]
  by_cases hnext : packet.rtpSequence ≠ c.sequence ∨ packet.rtpTimestamp ≠ c.timestamp
  · refine .inr ⟨.invalidState "voice prepared packet rtp cursor is not next send", ?_⟩
    simp only [VoicePreparedPacketSender.sendPreparedPacket, hcursor, if_pos hnext]
  · cases socket with
    | error e =>
      refine .inr ⟨e, ?_⟩
      simp only [VoicePreparedPacketSender.sendPreparedPacket, hcursor, if_neg hnext]
    | ok =>
      have hc : packet.cursor = c := by
        simp only [not_or, not_not] at hnext
        exact congrArg₂ RtpSequenceState.mk hnext.1 hnext.2
      refine .inl ⟨hc, ?_⟩
      simp only [VoicePreparedPacketSender.sendPreparedPacket, hs,
        unpackRtpCursor_packRtpCursor, if_neg hnext, hc, if_true]

namespace TransportRun

variable {aead : Aead} {r r' : TransportRun} {call : TransportCall}

/-- The packets sent lead from the first cursor to the one the sender stands at, and they are what
is on the wire. -/
structure Streamed (r : TransportRun) : Prop where
  spans : ∃ c, r.transport.sender.sendSequence = packRtpCursor c ∧
    Spans PreparedVoicePacket.cursor
      (fun p ↦ p.cursor.advanceBySamples p.durationSamples) .new (r.sent.map (·.packet)) c
  wire : r.transport.sender.wire = r.sent.map (·.packet.bytes)

theorem streamed_connect (ssrc : UInt32) (protection : Option ProtectionContext) :
    Streamed (connect ssrc protection) :=
  ⟨⟨.new, rfl, rfl⟩, rfl⟩

theorem sender_prepare (aead : Aead) (t : VoiceUdpTransport) (frame : Bytes) (durationMs : ℕ)
    (samples : UInt32) (isTrack : Bool) :
    (t.prepareAudioPacketWithDurationSamples aead frame durationMs samples isTrack).2.sender =
      t.sender := by
  simp only [VoiceUdpTransport.prepareAudioPacketWithDurationSamples]
  split <;> rfl

theorem streamed_step (h : Streamed r) (hstep : r.step aead call = some r') : Streamed r' := by
  obtain ⟨⟨c, hc, hspans⟩, hwire⟩ := h
  cases call with
  | prepare frame durationMs samples isTrack =>
    cases hstep
    have hsender := sender_prepare aead r.transport frame durationMs samples isTrack
    exact ⟨⟨c, (congrArg _ hsender).trans hc, hspans⟩, (congrArg _ hsender).trans hwire⟩
  | send index socket =>
    obtain ⟨p, hp, rfl⟩ := Option.map_eq_some_iff.mp hstep
    simp only [VoiceUdpTransport.sendPreparedPacket]
    obtain ⟨hcursor, hsend⟩ | ⟨e, hsend⟩ := sendPreparedPacket_cases hc socket p.packet
    · rw [hsend]
      refine ⟨⟨_, rfl, ?_⟩, ?_⟩
      · rw [List.map_append]
        exact spans_concat hspans hcursor
      · simp only [hwire, List.map_append, List.map_cons, List.map_nil]
    · rw [hsend]
      exact ⟨⟨c, hc, hspans⟩, hwire⟩
  | discard =>
    cases hstep
    exact ⟨⟨c, hc, hspans⟩, hwire⟩

theorem streamed_of_exec {ssrc : UInt32} {protection : Option ProtectionContext}
    {calls : List TransportCall}
    (h : exec (step aead) (connect ssrc protection) calls = some r) : Streamed r :=
  exec_invariant (fun _ _ _ hs hstep ↦ streamed_step hs hstep) (streamed_connect ssrc protection) h

structure Labelled (ssrc : UInt32) (r : TransportRun) : Prop where
  source : r.transport.preparer.ssrc = ssrc
  prepared : ∀ p ∈ r.prepared, parseRtpHeader p.packet.bytes = .ok (builtHeader ssrc p.packet.cursor)
  sent : ∀ p ∈ r.sent, p ∈ r.prepared

theorem labelled_connect (ssrc : UInt32) (protection : Option ProtectionContext) :
    Labelled ssrc (connect ssrc protection) :=
  ⟨rfl, by simp [connect], by simp [connect]⟩

theorem parseRtpHeader_prepare {p p' : VoicePacketPreparer} {frame : Bytes} {durationMs : ℕ}
    {samples : UInt32} {packet : PreparedVoicePacket}
    (h : p.prepareAudioPacketWithDurationSamples aead frame durationMs samples = (.ok packet, p')) :
    parseRtpHeader packet.bytes = .ok (builtHeader p.ssrc packet.cursor) := by
  obtain ⟨-, hp⟩ | ⟨-, -, hp⟩ | ⟨protection, -, -, hp⟩ :=
    prepareAudioPacket_cases aead p frame durationMs samples
  · cases hp.symm.trans h
  · cases hp.symm.trans h
    exact parseRtpHeader_buildHeader p.ssrc p.reservedSequence frame
  · cases hrun : (protection.protectCall (buildHeader p.ssrc p.reservedSequence) frame).run aead
        protection.mode protection.secretKey with
    | none =>
      rw [hrun] at hp
      cases hp.symm.trans h
    | some bytes =>
      rw [hrun] at hp
      cases hp.symm.trans h
      obtain ⟨⟨ciphertext, tag⟩, -, rfl⟩ := Option.map_eq_some_iff.mp hrun
      simp only [List.append_assoc]
      exact parseRtpHeader_buildHeader p.ssrc p.reservedSequence _

theorem ssrc_prepare (aead : Aead) (p : VoicePacketPreparer) (frame : Bytes) (durationMs : ℕ)
    (samples : UInt32) :
    (p.prepareAudioPacketWithDurationSamples aead frame durationMs samples).2.ssrc = p.ssrc := by
  obtain ⟨-, hp⟩ | ⟨-, -, hp⟩ | ⟨protection, -, -, hp⟩ :=
    prepareAudioPacket_cases aead p frame durationMs samples <;> rw [hp]

theorem labelled_step {ssrc : UInt32} (h : Labelled ssrc r) (hstep : r.step aead call = some r') :
    Labelled ssrc r' := by
  cases call with
  | prepare frame durationMs samples isTrack =>
    cases hstep
    have hssrc := ssrc_prepare aead r.transport.preparer frame durationMs samples
    rcases hp : r.transport.preparer.prepareAudioPacketWithDurationSamples aead frame durationMs
      samples with ⟨result, preparer⟩
    rw [hp] at hssrc
    cases result with
    | error e =>
      simp only [Except.toOption, Option.map_none, Option.toList_none, List.append_nil]
      exact ⟨hssrc.trans h.source, h.prepared, h.sent⟩
    | ok packet =>
      simp only [Except.toOption, Option.map_some, Option.toList_some]
      refine ⟨hssrc.trans h.source, ?_, fun p hp ↦ List.mem_append_left _ (h.sent p hp)⟩
      intro p hmem
      rcases List.mem_append.mp hmem with hmem | hmem
      · exact h.prepared p hmem
      · obtain rfl := List.mem_singleton.mp hmem
        have hheader := parseRtpHeader_prepare hp
        exact h.source ▸ hheader
  | send index socket =>
    obtain ⟨p, hp, rfl⟩ := Option.map_eq_some_iff.mp hstep
    simp only [VoiceUdpTransport.sendPreparedPacket]
    obtain ⟨result, sender⟩ := r.transport.sender.sendPreparedPacket socket p.packet
    cases result with
    | error e => exact ⟨h.source, h.prepared, h.sent⟩
    | ok =>
      refine ⟨h.source, h.prepared, fun q hq ↦ ?_⟩
      rcases List.mem_append.mp hq with hq | hq
      · exact h.sent q hq
      · obtain rfl := List.mem_singleton.mp hq
        exact List.mem_of_getElem? hp
  | discard =>
    cases hstep
    exact ⟨h.source, h.prepared, h.sent⟩

theorem labelled_of_exec {ssrc : UInt32} {protection : Option ProtectionContext}
    {calls : List TransportCall}
    (h : exec (step aead) (connect ssrc protection) calls = some r) : Labelled ssrc r :=
  exec_invariant (fun _ _ _ hs hstep ↦ labelled_step hs hstep) (labelled_connect ssrc protection) h

/-- The counter of the context counts the calls, and every packet ends with the suffix of the call
it came from. -/
structure Numbered (aead : Aead) (mode : EncryptionMode) (key : Bytes) (r : TransportRun) : Prop where
  counter : ∃ protection, r.transport.preparer.protection = some protection ∧
    (protection.mode = mode ∧ protection.secretKey = key) ∧
    protection.nextNonce = .ofNat r.protectCalls.length
  suffixes : ∀ (n : ℕ) (call : ProtectCall), r.protectCalls[n]? = some call →
    call.nonceSuffix = beBytes32 (.ofNat n)
  increasing : r.prepared.Pairwise (·.call < ·.call)
  sealed : ∀ p ∈ r.prepared, ∃ header ciphertext tag : Bytes, ∃ ssrc c,
    r.protectCalls[p.call]? = some ⟨beBytes32 (.ofNat p.call), header, p.frame⟩ ∧
      header = buildHeader ssrc c ∧ tag.length = protectionTagLen ∧
      ProtectCall.run ⟨beBytes32 (.ofNat p.call), header, p.frame⟩ aead mode key = some p.packet.bytes ∧
      p.packet.bytes = header ++ ciphertext ++ tag ++ beBytes32 (.ofNat p.call) ∧
      p.packet.protectionNonce = some (.ofNat p.call)

variable {mode : EncryptionMode} {key : Bytes}

theorem lt_length_of_sealed {r : TransportRun} (h : Numbered aead mode key r) {p : PreparedFrame}
    (hp : p ∈ r.prepared) : p.call < r.protectCalls.length := by
  obtain ⟨_, _, _, _, _, hcall, -⟩ := h.sealed p hp
  exact (List.getElem?_eq_some_iff.mp hcall).1

theorem protectionNonceFromPacket_append (front : Bytes) (n : UInt32) :
    protectionNonceFromPacket (front ++ beBytes32 n) true = some n := by
  have hdrop : (front ++ beBytes32 n).drop ((front ++ beBytes32 n).length - 4) = beBytes32 n := by
    rw [List.length_append, show (beBytes32 n).length = 4 from rfl, Nat.add_sub_cancel,
      List.drop_left]
  simp only [protectionNonceFromPacket, if_true, hdrop]
  exact congrArg some (fromBeBytes32_split n)

theorem numbered_connect {protection : ProtectionContext}
    (h : ProtectionContext.new mode key = .ok protection) (ssrc : UInt32) :
    Numbered aead mode key (connect ssrc (some protection)) := by
  have hnew : (protection.mode = mode ∧ protection.secretKey = key) ∧ protection.nextNonce = 0 := by
    simp only [ProtectionContext.new] at h
    split_ifs at h
    exact (Except.ok.inj h) ▸ ⟨⟨rfl, rfl⟩, rfl⟩
  exact ⟨⟨protection, rfl, hnew.1, hnew.2⟩, by simp [connect], .nil, by simp [connect]⟩

theorem prepare_step {protection : ProtectionContext} {frame : Bytes} {durationMs : ℕ}
    {samples : UInt32} {isTrack : Bool}
    (hprotection : r.transport.preparer.protection = some protection)
    (h : r.step aead (.prepare frame durationMs samples isTrack) = some r') :
    (r'.transport.preparer.protection = some protection ∧ r'.protectCalls = r.protectCalls ∧
      r'.prepared = r.prepared) ∨
    ∃ header made, header = buildHeader r.transport.preparer.ssrc r.transport.preparer.reservedSequence ∧
      r'.transport.preparer.protection =
        some { protection with nextNonce := protection.nextNonce + 1 } ∧
      r'.protectCalls = r.protectCalls ++ [protection.protectCall header frame] ∧
      r'.prepared = r.prepared ++ made ∧
      (made = [] ∨ ∃ bytes packet, (protection.protectCall header frame).run aead protection.mode
          protection.secretKey = some bytes ∧ made = [⟨frame, packet, r.protectCalls.length⟩] ∧
        packet.bytes = bytes ∧ packet.protectionNonce = protectionNonceFromPacket bytes true) := by
  cases h
  obtain ⟨hzero, hp⟩ | ⟨-, hplain, -⟩ | ⟨protection', hsamples, hprotected, hp⟩ :=
    prepareAudioPacket_cases aead r.transport.preparer frame durationMs samples
  · refine .inl ?_
    simp only [hp, VoicePacketPreparer.protectCall, if_pos hzero]
    exact ⟨hprotection, List.append_nil _, List.append_nil _⟩
  · rw [hplain] at hprotection
    cases hprotection
  · obtain rfl : protection' = protection := Option.some.inj (hprotected.symm.trans hprotection)
    refine .inr ⟨_, _, rfl, ?_, ?_, rfl, ?_⟩
    · simp only [hp]
      cases (protection'.protectCall (buildHeader r.transport.preparer.ssrc
          r.transport.preparer.reservedSequence) frame).run aead protection'.mode
          protection'.secretKey with
      | none => rfl
      | some bytes => rfl
    · simp only [VoicePacketPreparer.protectCall, if_neg hsamples, hprotected]
      rfl
    · simp only [hp]
      cases (protection'.protectCall (buildHeader r.transport.preparer.ssrc
          r.transport.preparer.reservedSequence) frame).run aead protection'.mode
          protection'.secretKey with
      | none => exact .inl rfl
      | some bytes => exact .inr ⟨bytes, _, rfl, rfl, rfl, rfl⟩

theorem numbered_call (htagged : aead.Tagged) (h : Numbered aead mode key r)
    {protection : ProtectionContext} {frame : Bytes} {ssrc : UInt32} {c : RtpSequenceState}
    {made : List PreparedFrame} (hkey : protection.mode = mode ∧ protection.secretKey = key)
    (hnonce : protection.nextNonce = .ofNat r.protectCalls.length)
    (hprotection : r'.transport.preparer.protection =
      some { protection with nextNonce := protection.nextNonce + 1 })
    (hcalls : r'.protectCalls = r.protectCalls ++ [protection.protectCall (buildHeader ssrc c) frame])
    (hprepared : r'.prepared = r.prepared ++ made)
    (hmade : made = [] ∨ ∃ bytes packet,
      (protection.protectCall (buildHeader ssrc c) frame).run aead protection.mode
        protection.secretKey = some bytes ∧ made = [⟨frame, packet, r.protectCalls.length⟩] ∧
        packet.bytes = bytes ∧ packet.protectionNonce = protectionNonceFromPacket bytes true) :
    Numbered aead mode key r' := by
  have hkept {n : ℕ} {call : ProtectCall} (hn : r.protectCalls[n]? = some call) :
      r'.protectCalls[n]? = some call := by
    rw [hcalls, List.getElem?_append_left (List.getElem?_eq_some_iff.mp hn).1, hn]
  have hlast : r'.protectCalls[r.protectCalls.length]? =
      some ⟨beBytes32 (.ofNat r.protectCalls.length), buildHeader ssrc c, frame⟩ := by
    rw [hcalls, List.getElem?_concat_length, ProtectionContext.protectCall, hnonce]
  constructor
  · refine ⟨_, hprotection, hkey, ?_⟩
    rw [hcalls, List.length_append, List.length_singleton, UInt32.ofNat_add, ← hnonce]
    rfl
  · intro n call hn
    by_cases hlt : n < r.protectCalls.length
    · rw [hcalls, List.getElem?_append_left hlt] at hn
      exact h.suffixes n call hn
    · have hlen := (List.getElem?_eq_some_iff.mp hn).1
      rw [hcalls, List.length_append, List.length_singleton] at hlen
      obtain rfl : n = r.protectCalls.length := by omega
      rw [hlast] at hn
      exact (Option.some.inj hn) ▸ rfl
  · rw [hprepared, List.pairwise_append]
    refine ⟨h.increasing, ?_, ?_⟩
    · obtain rfl | ⟨bytes, packet, -, rfl, -⟩ := hmade
      · exact .nil
      · exact List.pairwise_singleton _ _
    · intro p hp q hq
      obtain rfl | ⟨bytes, packet, -, rfl, -⟩ := hmade
      · cases hq
      · obtain rfl := List.mem_singleton.mp hq
        exact lt_length_of_sealed h hp
  · intro p hp
    rw [hprepared, List.mem_append] at hp
    rcases hp with hp | hp
    · obtain ⟨header, ciphertext, tag, ssrc', c', hcall, hrest⟩ := h.sealed p hp
      exact ⟨header, ciphertext, tag, ssrc', c', hkept hcall, hrest⟩
    · obtain rfl | ⟨bytes, packet, hrun, rfl, hbytes, hpacket⟩ := hmade
      · cases hp
      obtain rfl := List.mem_singleton.mp hp
      have hmade := hrun
      rw [hkey.1, hkey.2, ProtectionContext.protectCall, hnonce, ← hbytes] at hmade
      obtain ⟨⟨ciphertext, tag⟩, hcipher, rfl⟩ := Option.map_eq_some_iff.mp hrun
      refine ⟨buildHeader ssrc c, ciphertext, tag, ssrc, c, hlast, rfl,
        htagged _ _ _ _ _ _ _ hcipher, hmade, ?_, ?_⟩
      · rw [hbytes, ProtectionContext.protectCall, hnonce]
      · rw [hpacket, ProtectionContext.protectCall, hnonce, protectionNonceFromPacket_append]

theorem numbered_step (htagged : aead.Tagged) (h : Numbered aead mode key r)
    (hstep : r.step aead call = some r') : Numbered aead mode key r' := by
  obtain ⟨protection, hprotection, hkey, hnonce⟩ := h.counter
  cases call with
  | prepare frame durationMs samples isTrack =>
    obtain ⟨hsame, hcalls, hprepared⟩ | ⟨header, made, rfl, hnext, hcalls, hprepared, hmade⟩ :=
      prepare_step hprotection hstep
    · refine ⟨⟨protection, hsame, hkey, hcalls ▸ hnonce⟩, hcalls ▸ h.suffixes, hprepared ▸ h.increasing, ?_⟩
      rw [hprepared, hcalls]
      exact h.sealed
    · exact numbered_call htagged h hkey hnonce hnext hcalls hprepared hmade
  | send index socket =>
    obtain ⟨p, hp, rfl⟩ := Option.map_eq_some_iff.mp hstep
    simp only [VoiceUdpTransport.sendPreparedPacket]
    obtain ⟨result, sender⟩ := r.transport.sender.sendPreparedPacket socket p.packet
    cases result with
    | ok => exact ⟨⟨protection, hprotection, hkey, hnonce⟩, h.suffixes, h.increasing, h.sealed⟩
    | error e => exact ⟨⟨protection, hprotection, hkey, hnonce⟩, h.suffixes, h.increasing, h.sealed⟩
  | discard =>
    cases hstep
    exact ⟨⟨protection, hprotection, hkey, hnonce⟩, h.suffixes, h.increasing, h.sealed⟩

theorem numbered_of_exec (htagged : aead.Tagged) {protection : ProtectionContext}
    (hnew : ProtectionContext.new mode key = .ok protection) {ssrc : UInt32}
    {calls : List TransportCall}
    (h : exec (step aead) (connect ssrc (some protection)) calls = some r) :
    Numbered aead mode key r :=
  exec_invariant (fun _ _ _ hs hstep ↦ numbered_step htagged hs hstep)
    (numbered_connect hnew ssrc) h

theorem ofNat_ne_of_close {m n : ℕ} (hlt : m < n) (hclose : n < m + 2 ^ 32) :
    UInt32.ofNat m ≠ UInt32.ofNat n := by
  intro h
  have hmod := congrArg UInt32.toNat h
  rw [UInt32.toNat_ofNat', UInt32.toNat_ofNat'] at hmod
  omega

/-- The calls of `protect_packet` count up from zero, whatever was sent, discarded or failed in
between, and every packet is what the cipher makes of its own call and ends with its number: the one
it reports and the one a receiver reads back. -/
theorem nonces_count_protect_calls {aead : Aead} (htagged : aead.Tagged) {mode : EncryptionMode}
    {key : Bytes} {protection : ProtectionContext}
    (hnew : ProtectionContext.new mode key = .ok protection) {ssrc : UInt32}
    {calls : List TransportCall} {r : TransportRun}
    (h : exec (step aead) (connect ssrc (some protection)) calls = some r) :
    (∀ (n : ℕ) (call : ProtectCall), r.protectCalls[n]? = some call →
      call.nonceSuffix = beBytes32 (.ofNat n)) ∧
    (∀ (m n : ℕ) (a b : ProtectCall), m < n → n < m + 2 ^ 32 → r.protectCalls[m]? = some a →
      r.protectCalls[n]? = some b → a.nonceSuffix ≠ b.nonceSuffix) ∧
    r.prepared.Pairwise (·.call < ·.call) ∧
    (∀ p ∈ r.prepared, ∀ q ∈ r.prepared, p.call < q.call → q.call < p.call + 2 ^ 32 →
      p.packet.protectionNonce ≠ q.packet.protectionNonce) ∧
    ∀ p ∈ r.prepared, ∃ call, r.protectCalls[p.call]? = some call ∧ call.payload = p.frame ∧
      call.run aead mode key = some p.packet.bytes ∧
      ∃ nonce, call.nonceSuffix = beBytes32 nonce ∧ p.packet.protectionNonce = some nonce ∧
        p.packet.bytes.drop (p.packet.bytes.length - 4) = beBytes32 nonce ∧
        ∃ header body, readProtectedPacket p.packet.bytes = .ok (header, body) ∧
          body.nonceSuffix = beBytes32 nonce := by
  have hnumbered := numbered_of_exec htagged hnew h
  refine ⟨hnumbered.suffixes, ?_, hnumbered.increasing, ?_, ?_⟩
  · intro m n a b hlt hclose ha hb heq
    rw [hnumbered.suffixes m a ha, hnumbered.suffixes n b hb] at heq
    exact ofNat_ne_of_close hlt hclose (beBytes32_injective heq)
  · intro p hp q hq hlt hclose heq
    obtain ⟨_, _, _, _, _, -, -, -, -, -, hpnonce⟩ := hnumbered.sealed p hp
    obtain ⟨_, _, _, _, _, -, -, -, -, -, hqnonce⟩ := hnumbered.sealed q hq
    rw [hpnonce, hqnonce] at heq
    exact ofNat_ne_of_close hlt hclose (Option.some.inj heq)
  · intro p hp
    obtain ⟨header, ciphertext, tag, ssrc', c, hcall, rfl, htag, hrun, hbytes, hnonce⟩ :=
      hnumbered.sealed p hp
    have hread := readProtectedPacket_append ssrc' c ciphertext htag
      (show (beBytes32 (.ofNat p.call)).length = _ from rfl)
    refine ⟨_, hcall, rfl, hrun, _, rfl, hnonce, ?_, _, _, hbytes ▸ hread, rfl⟩
    rw [hbytes, List.length_append, show (beBytes32 (.ofNat p.call)).length = 4 from rfl,
      Nat.add_sub_cancel, List.drop_left]

/-- A cipher that leaves the payload as it is and appends a tag of the usual length. -/
def taggedAead : Aead := ⟨fun _ _ _ _ payload ↦ some (payload, List.replicate protectionTagLen 0)⟩

theorem taggedAead_tagged : taggedAead.Tagged := by
  intro mode key nonce header payload ciphertext tag h
  simp only [taggedAead, Option.some.injEq, Prod.mk.injEq] at h
  rw [← h.2, List.length_replicate]

def zeroKey : Bytes := List.replicate 32 0

def plainContext : ProtectionContext := ⟨.aeadAes256GcmRtpsize, zeroKey, 0, rfl⟩

/-- Two packets with one RTP cursor, since the first was discarded, and with two nonces. -/
def repreparedCalls : List TransportCall :=
  [.prepare [0xF8] 20 960 true, .discard, .prepare [0xF8] 20 960 true, .send 1 (.ok ())]

theorem nonces_count_reprepared_calls :
    ∃ r, exec (step taggedAead) (connect 7 (some plainContext)) repreparedCalls = some r ∧
      r.prepared.map (fun p ↦ (p.packet.rtpSequence, p.packet.protectionNonce)) =
        [(0, some 0), (0, some 1)] ∧
      ∀ (n : ℕ) (call : ProtectCall), r.protectCalls[n]? = some call →
        call.nonceSuffix = beBytes32 (.ofNat n) := by
  have hends : (exec (step taggedAead) (connect 7 (some plainContext)) repreparedCalls).map
      (fun r ↦ r.prepared.map fun p ↦ (p.packet.rtpSequence, p.packet.protectionNonce)) =
      some [(0, some 0), (0, some 1)] := by decide +kernel
  obtain ⟨r, hr, hprepared⟩ := Option.map_eq_some_iff.mp hends
  have hnew : ProtectionContext.new .aeadAes256GcmRtpsize zeroKey = .ok plainContext := rfl
  exact ⟨r, hr, hprepared, (nonces_count_protect_calls taggedAead_tagged hnew hr).1⟩

end TransportRun

end DiscordVoice.Voice
