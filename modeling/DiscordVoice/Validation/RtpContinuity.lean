import DiscordVoice.Validation.Audio
import DiscordVoice.Voice.TransportRuns

namespace DiscordVoice.Validation

open Chains Schedule Voice Playback TransportRun

/-- What an observer of the stream gets of a packet. -/
def observation (p : PreparedFrame) : ObservedOpusPacket :=
  ⟨p.packet.rtpSequence, p.packet.rtpTimestamp, p.frame⟩

/-- The frame declares the duration its packet was prepared with. -/
def Declared (p : PreparedFrame) : Prop :=
  ∃ d, opusPacketDuration p.frame = some d ∧ d.samples = p.packet.durationSamples

instance (p : PreparedFrame) : Decidable (Declared p) :=
  match h : opusPacketDuration p.frame with
  | none => .isFalse fun ⟨_, hd, _⟩ ↦ by simp [h] at hd
  | some d => decidable_of_iff (d.samples = p.packet.durationSamples)
      ⟨fun hs ↦ ⟨d, h, hs⟩, fun ⟨d', hd', hs⟩ ↦ by
        obtain rfl := Option.some.inj (h.symm.trans hd')
        exact hs⟩

theorem consecutive_of_spans {a b : RtpSequenceState} {packets : List PreparedVoicePacket}
    (h : Spans PreparedVoicePacket.cursor
      (fun p ↦ p.cursor.advanceBySamples p.durationSamples) a packets b)
    {i : ℕ} {p q : PreparedVoicePacket} (hp : packets[i]? = some p)
    (hq : packets[i + 1]? = some q) :
    q.cursor = p.cursor.advanceBySamples p.durationSamples := by
  induction packets generalizing a i with
  | nil => simp at hp
  | cons x packets ih =>
    obtain ⟨-, hrest⟩ := h
    cases i with
    | zero =>
      obtain rfl : x = p := by simpa using hp
      rcases packets with _ | ⟨y, packets⟩
      · simp at hq
      · obtain rfl : y = q := by simpa using hq
        exact hrest.1
    | succ i => exact ih hrest (by simpa using hp) (by simpa using hq)

theorem first_of_spans {a b : RtpSequenceState} {packets : List PreparedVoicePacket}
    (h : Spans PreparedVoicePacket.cursor
      (fun p ↦ p.cursor.advanceBySamples p.durationSamples) a packets b)
    {p : PreparedVoicePacket} (hp : packets[0]? = some p) : p.cursor = a := by
  rcases packets with _ | ⟨x, packets⟩
  · simp at hp
  · obtain rfl : x = p := by simpa using hp
    exact h.1

/-- Whatever was prepared, discarded or refused in between, the packets sent count up from zero
without a gap or a repeat, a refused packet leaves the sender as it was, and the checker of the
validation crate accepts each packet after the ones before it. -/
theorem sent_stream_continuous {aead : Aead} {ssrc : UInt32}
    {protection : Option ProtectionContext} {calls : List TransportCall} {r : TransportRun}
    (h : exec (step aead) (connect ssrc protection) calls = some r) :
    (∀ p, r.sent[0]? = some p → p.packet.rtpSequence = 0 ∧ p.packet.rtpTimestamp = 0) ∧
    (∀ (i : ℕ) (p q : PreparedFrame), r.sent[i]? = some p → r.sent[i + 1]? = some q →
      q.packet.rtpSequence = p.packet.rtpSequence + 1 ∧
        q.packet.rtpTimestamp = p.packet.rtpTimestamp + p.packet.durationSamples) ∧
    r.transport.sender.wire = r.sent.map (·.packet.bytes) ∧
    (∀ p ∈ r.sent, parseRtpHeader p.packet.bytes = .ok (builtHeader ssrc p.packet.cursor)) ∧
    (∀ p ∈ r.prepared, ∀ socket e t,
      r.transport.sendPreparedPacket socket p.packet = (.error e, t) →
        t.sender.sendSequence = r.transport.sender.sendSequence ∧
          t.sender.wire = r.transport.sender.wire) ∧
    ((∀ p ∈ r.sent, Declared p) → ∀ (i : ℕ) (p : PreparedFrame), r.sent[i]? = some p →
      (AudioValidationAccumulator.new.observed ((r.sent.take i).map observation)).validateRtpContinuity
        p.packet.rtpSequence p.packet.rtpTimestamp = .ok ()) := by
  obtain ⟨⟨c, hc, hspans⟩, hwire⟩ := streamed_of_exec h
  have hlabelled := labelled_of_exec h
  have hfirst (p : PreparedFrame) (hp : r.sent[0]? = some p) :
      p.packet.rtpSequence = 0 ∧ p.packet.rtpTimestamp = 0 := by
    have hcursor := first_of_spans hspans (p := p.packet) (by simp [hp])
    exact ⟨congrArg RtpSequenceState.sequence hcursor, congrArg RtpSequenceState.timestamp hcursor⟩
  have hnext (i : ℕ) (p q : PreparedFrame) (hp : r.sent[i]? = some p)
      (hq : r.sent[i + 1]? = some q) :
      q.packet.rtpSequence = p.packet.rtpSequence + 1 ∧
        q.packet.rtpTimestamp = p.packet.rtpTimestamp + p.packet.durationSamples := by
    have hcursor := consecutive_of_spans hspans (i := i) (p := p.packet) (q := q.packet)
      (by simp [hp]) (by simp [hq])
    exact ⟨congrArg RtpSequenceState.sequence hcursor, congrArg RtpSequenceState.timestamp hcursor⟩
  refine ⟨hfirst, hnext, hwire, fun p hp ↦ hlabelled.prepared p (hlabelled.sent p hp), ?_, ?_⟩
  · intro p hp socket e t hsend
    simp only [VoiceUdpTransport.sendPreparedPacket] at hsend
    obtain ⟨-, hok⟩ | ⟨e', herror⟩ := sendPreparedPacket_cases hc socket p.packet
    · rw [hok] at hsend
      cases hsend
    · rw [herror] at hsend
      cases hsend
      exact ⟨rfl, rfl⟩
  · intro hdeclared i q hq
    cases i with
    | zero => rfl
    | succ i =>
      obtain ⟨p, hp⟩ : ∃ p, r.sent[i]? = some p := by
        have hlen := (List.getElem?_eq_some_iff.mp hq).1
        exact ⟨_, List.getElem?_eq_getElem (by omega)⟩
      obtain ⟨d, hd, hsamples⟩ := hdeclared p (List.mem_of_getElem? hp)
      have htake : r.sent.take (i + 1) = r.sent.take i ++ [p] := by
        rw [List.take_add_one, hp, Option.toList_some]
      rw [htake, List.map_append, List.map_singleton,
        AudioValidationAccumulator.observed_concat, show opusPacketDuration (observation p).payload = some d from hd,
        Option.elim_some, AudioValidationAccumulator.validateRtpContinuity_recordPacket, hsamples]
      exact hnext i p q hp hq

def resentCalls : List TransportCall :=
  [.prepare [0xF8, 0xFF, 0xFE] 20 960 true, .prepare [0xF8, 0xFF, 0xFE] 20 960 true, .send 1 (.ok ()),
    .send 0 (.ok ()), .discard, .prepare [0xF8, 0xFF, 0xFE] 20 960 true, .send 2 (.ok ()), .send 1 (.ok ())]

theorem resent_stream_continuous :
    ∃ r, exec (step plainAead) (connect 7 none) resentCalls = some r ∧
      r.sent.map (·.packet.rtpSequence) = [0, 1] ∧ (∀ p ∈ r.sent, Declared p) ∧
      ∀ (i : ℕ) (p : PreparedFrame), r.sent[i]? = some p →
        (AudioValidationAccumulator.new.observed
          ((r.sent.take i).map observation)).validateRtpContinuity
            p.packet.rtpSequence p.packet.rtpTimestamp = .ok () := by
  have hends : (exec (step plainAead) (connect 7 none) resentCalls).map
      (fun r ↦ (r.sent.map (·.packet.rtpSequence), decide (∀ p ∈ r.sent, Declared p))) =
      some ([0, 1], true) := by decide +kernel
  obtain ⟨r, hr, hsent⟩ := Option.map_eq_some_iff.mp hends
  obtain ⟨hsequence, hdeclared⟩ := Prod.mk.inj hsent
  have hdeclared := of_decide_eq_true hdeclared
  exact ⟨r, hr, hsequence, hdeclared, (sent_stream_continuous hr).2.2.2.2.2 hdeclared⟩

end DiscordVoice.Validation
