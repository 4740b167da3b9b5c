import DiscordVoice.Checking
import DiscordVoice.Media.ReportedSends
import DiscordVoice.Twilight.Snapshots

namespace DiscordVoice.Validation

open Fallible Checking Playback Session Twilight

/-- What `validate_raw_send_event_order` keeps of the events before the one it looks at. -/
structure PreviousSend where
  sentOffset : Option ℕ
  rtpSequence : Option UInt32
  rtpTimestamp : Option UInt32
  durationSamples : Option UInt32
  nonce : Option UInt32
  deriving DecidableEq, Repr

def PreviousSend.nothing : PreviousSend := ⟨none, none, none, none, none⟩

def checkRtpContinues (label : String) (previous : PreviousSend) (index : ℕ)
    (event : PlaybackSendEventSnapshot) : Except String Unit :=
  match previous.rtpSequence, previous.rtpTimestamp, previous.durationSamples with
  | some sequence, some timestamp, some durationSamples => do
    let expectedSequence := (sequence + 1) &&& 0xffff
    let expectedTimestamp := timestamp + durationSamples
    bailIf (event.rtpSequence ≠ expectedSequence)
      s!"{label} raw send event {index} RTP sequence was {event.rtpSequence}; expected {expectedSequence}"
    bailIf (event.rtpTimestamp ≠ expectedTimestamp)
      s!"{label} raw send event {index} RTP timestamp was {event.rtpTimestamp}; expected {expectedTimestamp}"
  | _, _, _ => .ok ()

def checkProtectionNonce (label : String) (previous : PreviousSend) (index : ℕ)
    (event : PlaybackSendEventSnapshot) : Except String (Option UInt32) :=
  match event.protectionNonce with
  | some nonce => do
    match previous.nonce with
    | some before =>
      bailIf (nonce ≤ before)
        s!"{label} raw send event {index} protection nonce was {nonce}; expected monotonic increase after {before}"
    | none => pure ()
    return some nonce
  | none => return previous.nonce

def checkHeardMedia (label : String) (index : ℕ) (event : PlaybackSendEventSnapshot) :
    Except String Unit :=
  if event.commandKind = .track then do
    bailIf (event.committedHeardMedia = false)
      s!"{label} raw track send event {index} did not mark heard-media commit"
    bailIf (event.sourceFrameEpoch = none ∨ event.sourceMediaPositionMs = none ∨
        event.sourceMediaPositionSamples = none)
      s!"{label} raw track send event {index} lacked source-frame identity"
    bailIf (event.mediaDurationSamples = 0)
      s!"{label} raw track send event {index} had zero media duration samples"
  else
    bailIf (event.committedHeardMedia = true)
      s!"{label} raw non-track send event {index} committed heard media"

/-- One round of the loop of `validate_raw_send_event_order`. -/
def checkRawSendEvent (label : String) (previous : PreviousSend) (index : ℕ)
    (event : PlaybackSendEventSnapshot) : Except String PreviousSend := do
  bailIf (event.packetIndex ≠ index)
    s!"{label} raw send event packet_index {event.packetIndex} was not sequential at index {index}"
  bailIf (event.commandKind = .unspecified)
    s!"{label} raw send event {index} had unspecified command kind"
  bailIf (event.sentOffsetUs < event.sendStartedOffsetUs)
    s!"{label} raw send event {index} completed before send start"
  bailIf (∃ sent ∈ previous.sentOffset, event.sentOffsetUs < sent)
    s!"{label} raw send event {index} moved backward in send-completion time"
  checkRtpContinues label previous index event
  let nonce ← checkProtectionNonce label previous index event
  checkHeardMedia label index event
  return ⟨some event.sentOffsetUs, some event.rtpSequence, some event.rtpTimestamp,
    some event.mediaDurationSamples, nonce⟩

def validateRawSendEventOrder (metrics : PlaybackStabilitySnapshot) (label : String) :
    Except String Unit := do
  let _ ← checkEach (checkRawSendEvent label) .nothing 0 metrics.rawSendEvents
  return ()

/-- The RTP numbers go on from one packet to the next. -/
def RtpContinues (event next : PlaybackSendEventSnapshot) : Prop :=
  next.rtpSequence = (event.rtpSequence + 1) &&& 0xffff ∧
    next.rtpTimestamp = event.rtpTimestamp + event.mediaDurationSamples

/-- The packets of the track, and no others, carry media of the source. -/
def HeardMedia (event : PlaybackSendEventSnapshot) : Prop :=
  if event.commandKind = .track then
    event.committedHeardMedia = true ∧ event.sourceFrameEpoch ≠ none ∧
      event.sourceMediaPositionMs ≠ none ∧ event.sourceMediaPositionSamples ≠ none ∧
      event.mediaDurationSamples ≠ 0
  else event.committedHeardMedia = false

/-- What the gate wants of the sent packets. -/
structure InOrder (events : List PlaybackSendEventSnapshot) : Prop where
  numbered : ∀ k (event : PlaybackSendEventSnapshot), events[k]? = some event →
    event.packetIndex = k
  kinds : ∀ event ∈ events, event.commandKind ≠ .unspecified
  started : ∀ event ∈ events, event.sendStartedOffsetUs ≤ event.sentOffsetUs
  completions : events.IsChain fun event next ↦ event.sentOffsetUs ≤ next.sentOffsetUs
  rtp : events.IsChain RtpContinues
  nonces : (events.filterMap (·.protectionNonce)).IsChain (· < ·)
  heard : ∀ event ∈ events, HeardMedia event

def PreviousSend.after (events : List PlaybackSendEventSnapshot) : PreviousSend where
  sentOffset := events.getLast?.map (·.sentOffsetUs)
  rtpSequence := events.getLast?.map (·.rtpSequence)
  rtpTimestamp := events.getLast?.map (·.rtpTimestamp)
  durationSamples := events.getLast?.map (·.mediaDurationSamples)
  nonce := (events.filterMap (·.protectionNonce)).getLast?

section Gate

variable {label : String} {events : List PlaybackSendEventSnapshot}
variable {event : PlaybackSendEventSnapshot} {index : ℕ}

theorem checkRtpContinues_ok_iff :
    checkRtpContinues label (.after events) index event = .ok () ↔
      ∀ before ∈ events.getLast?, RtpContinues before event := by
  unfold checkRtpContinues PreviousSend.after RtpContinues
  cases events.getLast? with
  | none => simp
  | some before => simp

theorem checkProtectionNonce_ok_iff {nonce : Option UInt32} :
    checkProtectionNonce label (.after events) index event = .ok nonce ↔
      (∀ before ∈ (events.filterMap (·.protectionNonce)).getLast?, ∀ next ∈ event.protectionNonce,
        before < next) ∧ nonce = (PreviousSend.after (events ++ [event])).nonce := by
  unfold checkProtectionNonce PreviousSend.after
  cases hnonce : event.protectionNonce with
  | none => simp [hnonce, pure, Except.pure, eq_comm]
  | some next =>
    cases (events.filterMap (·.protectionNonce)).getLast? with
    | none => simp [hnonce, pure, Except.pure, eq_comm]
    | some before =>
      simp only [bailIf_bind_ok_iff, pure, Except.pure, Except.ok.injEq, List.filterMap_append,
        List.filterMap_cons, hnonce, List.filterMap_nil, List.getLast?_concat, Option.mem_def,
        Option.some.injEq, forall_eq', UInt32.not_le, eq_comm (b := nonce)]

theorem checkHeardMedia_ok_iff : checkHeardMedia label index event = .ok () ↔ HeardMedia event := by
  unfold checkHeardMedia HeardMedia
  split
  · simp only [bailIf_bind_ok_iff, bailIf_ok_iff, not_or, ne_eq, Bool.not_eq_false, and_assoc]
  · simp only [bailIf_ok_iff, Bool.not_eq_true]

theorem isChain_concat_iff {α : Type} {R : α → α → Prop} {l : List α} {a : α} :
    (l ++ [a]).IsChain R ↔ l.IsChain R ∧ ∀ b ∈ l.getLast?, R b a := by
  simp [List.isChain_append]

theorem InOrder.concat_iff : InOrder (events ++ [event]) ↔
    InOrder events ∧ event.packetIndex = events.length ∧ event.commandKind ≠ .unspecified ∧
      event.sendStartedOffsetUs ≤ event.sentOffsetUs ∧
      (∀ before ∈ events.getLast?, before.sentOffsetUs ≤ event.sentOffsetUs) ∧
      (∀ before ∈ events.getLast?, RtpContinues before event) ∧
      (∀ before ∈ (events.filterMap (·.protectionNonce)).getLast?, ∀ next ∈ event.protectionNonce,
        before < next) ∧ HeardMedia event := by
  have hnonces : ((events ++ [event]).filterMap (·.protectionNonce)).IsChain (· < ·) ↔
      (events.filterMap (·.protectionNonce)).IsChain (· < ·) ∧
        ∀ before ∈ (events.filterMap (·.protectionNonce)).getLast?,
          ∀ next ∈ event.protectionNonce, before < next := by
    rw [List.filterMap_append]
    cases hnonce : event.protectionNonce with
    | none => simp [hnonce]
    | some next => simp [hnonce, isChain_concat_iff]
  constructor
  · rintro ⟨hnumbered, hkinds, hstarted, hcompletions, hrtp, hnonce, hheard⟩
    have hlast : event ∈ events ++ [event] := List.mem_concat_self
    have hmem {e : PlaybackSendEventSnapshot} (he : e ∈ events) : e ∈ events ++ [event] :=
      List.mem_append_left _ he
    refine ⟨⟨fun k e hk ↦ hnumbered k e ?_, fun e he ↦ hkinds e (hmem he),
      fun e he ↦ hstarted e (hmem he), (isChain_concat_iff.mp hcompletions).1,
      (isChain_concat_iff.mp hrtp).1, (hnonces.mp hnonce).1, fun e he ↦ hheard e (hmem he)⟩,
      hnumbered _ event List.getElem?_concat_length, hkinds event hlast, hstarted event hlast,
      (isChain_concat_iff.mp hcompletions).2, (isChain_concat_iff.mp hrtp).2, (hnonces.mp hnonce).2,
      hheard event hlast⟩
    rwa [List.getElem?_append_left (List.getElem?_eq_some_iff.mp hk).1]
  · rintro ⟨⟨hnumbered, hkinds, hstarted, hcompletions, hrtp, hnonce, hheard⟩, hindex, hkind, hstart,
      hcompletion, hcontinues, hnext, hmedia⟩
    have hall {P : PlaybackSendEventSnapshot → Prop} (h : ∀ e ∈ events, P e) (hevent : P event) :
        ∀ e ∈ events ++ [event], P e := by
      intro e he
      rcases List.mem_append.mp he with he | he
      · exact h e he
      · exact List.mem_singleton.mp he ▸ hevent
    refine ⟨fun k e hk ↦ ?_, hall hkinds hkind, hall hstarted hstart,
      isChain_concat_iff.mpr ⟨hcompletions, hcompletion⟩, isChain_concat_iff.mpr ⟨hrtp, hcontinues⟩,
      hnonces.mpr ⟨hnonce, hnext⟩, hall hheard hmedia⟩
    rcases Nat.lt_or_ge k events.length with hlt | hge
    · exact hnumbered k e (by rwa [List.getElem?_append_left hlt] at hk)
    · rw [List.getElem?_append_right hge, List.getElem?_singleton] at hk
      split at hk
      · obtain rfl := Option.some.inj hk
        omega
      · cases hk

theorem checkRawSendEvent_ok_iff {t : PreviousSend} :
    checkRawSendEvent label (.after events) index event = .ok t ↔
      (event.packetIndex = index ∧ event.commandKind ≠ .unspecified ∧
        event.sendStartedOffsetUs ≤ event.sentOffsetUs ∧
        (∀ before ∈ events.getLast?, before.sentOffsetUs ≤ event.sentOffsetUs) ∧
        (∀ before ∈ events.getLast?, RtpContinues before event) ∧
        (∀ before ∈ (events.filterMap (·.protectionNonce)).getLast?,
          ∀ next ∈ event.protectionNonce, before < next) ∧ HeardMedia event) ∧
      t = .after (events ++ [event]) := by
  have hsent : (¬∃ sent ∈ (PreviousSend.after events).sentOffset, event.sentOffsetUs < sent) ↔
      ∀ before ∈ events.getLast?, before.sentOffsetUs ≤ event.sentOffsetUs := by
    unfold PreviousSend.after
    cases events.getLast? with
    | none => simp
    | some before => simp
  have hafter : PreviousSend.after (events ++ [event]) = ⟨some event.sentOffsetUs,
      some event.rtpSequence, some event.rtpTimestamp, some event.mediaDurationSamples,
      (PreviousSend.after (events ++ [event])).nonce⟩ := by
    simp only [PreviousSend.after, List.getLast?_concat, Option.map_some]
  simp only [checkRawSendEvent, check_bind_ok_iff, bailIf_ok_iff, hsent, checkRtpContinues_ok_iff]
  rw [except_bind_ok_iff, hafter]
  simp only [checkProtectionNonce_ok_iff, check_bind_ok_iff, checkHeardMedia_ok_iff, pure,
    Except.pure, Except.ok.injEq, ne_eq, not_not, not_lt, and_assoc, exists_and_left,
    exists_eq_left, eq_comm (b := t)]

theorem checkEach_rawSendEvents_ok_iff {t : PreviousSend} :
    checkEach (checkRawSendEvent label) .nothing 0 events = .ok t ↔
      InOrder events ∧ t = .after events := by
  induction events using List.reverseRecOn generalizing t with
  | nil =>
    have hnil : InOrder [] :=
      ⟨nofun, nofun, nofun, .nil, .nil, .nil, nofun⟩
    rw [checkEach, Except.ok.injEq]
    exact ⟨fun h ↦ ⟨hnil, h.symm⟩, fun h ↦ h.2.symm⟩
  | append_singleton events event ih =>
    rw [checkEach_concat_ok_iff, InOrder.concat_iff, Nat.zero_add]
    simp only [ih]
    constructor
    · rintro ⟨_, ⟨horder, rfl⟩, hstep⟩
      obtain ⟨hevent, ht⟩ := checkRawSendEvent_ok_iff.mp hstep
      exact ⟨⟨horder, hevent⟩, ht⟩
    · rintro ⟨⟨horder, hevent⟩, ht⟩
      exact ⟨_, ⟨horder, rfl⟩, checkRawSendEvent_ok_iff.mpr ⟨hevent, ht⟩⟩

theorem validateRawSendEventOrder_ok_iff {metrics : PlaybackStabilitySnapshot} :
    validateRawSendEventOrder metrics label = .ok () ↔ InOrder metrics.rawSendEvents := by
  rw [validateRawSendEventOrder, except_bind_ok_iff]
  simp only [checkEach_rawSendEvents_ok_iff, pure, Except.pure, and_true, exists_eq_right]

end Gate

/-- A sent packet as the controller sees it. -/
def seenSend (baseDeadline : ℕ) (event : Evidence.PlaybackSendEventRecord) :
    PlaybackSendEventSnapshot :=
  .from (mapRawSendEvent (Evidence.playbackSendEventSnapshot baseDeadline event))

def RtpFollows (sent next : Media.Timed.DeadlineSendRecord) : Prop :=
  next.rtpSequence = sent.rtpSequence + 1 ∧
    next.rtpTimestamp = sent.rtpTimestamp + sent.durationSamples

def CarriesMedia (sent : Media.Timed.DeadlineSendRecord) : Prop :=
  if sent.kind = .track then sent.mediaFrame ≠ none ∧ sent.durationSamples ≠ 0
  else sent.mediaFrame = none

instance : DecidableRel RtpFollows := fun sent next ↦
  inferInstanceAs (Decidable (next.rtpSequence = sent.rtpSequence + 1 ∧
    next.rtpTimestamp = sent.rtpTimestamp + sent.durationSamples))

instance : DecidablePred CarriesMedia := fun sent ↦
  inferInstanceAs (Decidable (if sent.kind = .track then
    sent.mediaFrame ≠ none ∧ sent.durationSamples ≠ 0 else sent.mediaFrame = none))

/-- The packets go on from one another, and those of the track carry its media. -/
structure Continuous (records : List Media.Timed.DeadlineSendRecord) : Prop where
  rtp : records.IsChain RtpFollows
  nonces : (records.filterMap (·.protectionNonce)).IsChain (· < ·)
  media : ∀ sent ∈ records, CarriesMedia sent

section Reports

open Media.Timed Evidence

variable {records : List DeadlineSendRecord}

theorem sendEventRecords_eq {start : ℕ} (hlength : start + records.length < 2 ^ 64) :
    sendEventRecords start records =
      (records.zipIdx start).map fun sent ↦ sendEventRecord sent.2 sent.1 := by
  induction records generalizing start with
  | nil => rfl
  | cons sent records ih =>
    rw [List.length_cons] at hlength
    rw [sendEventRecords, saturatingAdd_eq (by omega), ih (by omega)]
    rfl

theorem durationMicros_mono {a b : ℕ} (h : a ≤ b) : durationMicros a ≤ durationMicros b := by
  unfold durationMicros
  omega

theorem instantOffsetMicros_mono (base : ℕ) {a b : ℕ} (h : a ≤ b) :
    instantOffsetMicros base a ≤ instantOffsetMicros base b :=
  durationMicros_mono (Nat.sub_le_sub_right h base)

theorem rtpSequence_next (sequence : UInt16) :
    (sequence.toUInt32 + 1) &&& 0xffff = (sequence + 1).toUInt32 := by
  apply UInt32.toNat_inj.mp
  have hlt := sequence.toNat_lt
  rw [UInt32.toNat_and, UInt32.toNat_add, UInt16.toNat_toUInt32, UInt16.toNat_toUInt32,
    UInt16.toNat_add]
  change (sequence.toNat + 1) % 2 ^ 32 &&& (2 ^ 16 - 1) = (sequence.toNat + 1) % 2 ^ 16
  rw [Nat.and_two_pow_sub_one_eq_mod]
  omega

theorem rtpContinues_iff {base i j : ℕ} {sent next : DeadlineSendRecord} :
    RtpContinues (seenSend base (sendEventRecord i sent)) (seenSend base (sendEventRecord j next)) ↔
      RtpFollows sent next := by
  change next.rtpSequence.toUInt32 = (sent.rtpSequence.toUInt32 + 1) &&& 0xffff ∧ _ ↔ _
  rw [rtpSequence_next, UInt16.toUInt32_inj]
  rfl

theorem heardMedia_iff {base i : ℕ} {sent : DeadlineSendRecord} :
    HeardMedia (seenSend base (sendEventRecord i sent)) ↔ CarriesMedia sent := by
  have hkind : (seenSend base (sendEventRecord i sent)).commandKind =
      .of (Media.playbackSendCommandKind sent.kind) := fromRaw_mapSendCommandKind _
  have htrack : PlaybackSendCommandKind.of (Media.playbackSendCommandKind sent.kind) = .track ↔
      sent.kind = .track := by
    cases sent.kind <;> decide
  simp only [HeardMedia, CarriesMedia, hkind, htrack]
  cases hframe : sent.mediaFrame with
  | none =>
    simp only [seenSend, PlaybackSendEventSnapshot.from, mapRawSendEvent, playbackSendEventSnapshot,
      sendEventRecord, hframe]
    split <;> simp
  | some frame =>
    simp only [seenSend, PlaybackSendEventSnapshot.from, mapRawSendEvent, playbackSendEventSnapshot,
      sendEventRecord, hframe]
    split <;> simp

theorem isChain_zipIdx_iff {R : DeadlineSendRecord × ℕ → DeadlineSendRecord × ℕ → Prop}
    {S : DeadlineSendRecord → DeadlineSendRecord → Prop} (h : ∀ a b, R a b ↔ S a.1 b.1) :
    records.zipIdx.IsChain R ↔ records.IsChain S := by
  obtain rfl : R = fun a b ↦ S a.1 b.1 := by
    funext a b
    exact propext (h a b)
  rw [← List.isChain_map, List.zipIdx_map_fst]

/-- The packets that are numbered from the first on, as the controller sees them. -/
def seenSends (base : ℕ) (records : List DeadlineSendRecord) :
    List Twilight.PlaybackSendEventSnapshot :=
  records.zipIdx.map fun sent ↦ seenSend base (sendEventRecord sent.2 sent.1)

theorem forall_seenSends_iff {P : Twilight.PlaybackSendEventSnapshot → Prop}
    {Q : DeadlineSendRecord → Prop} {base : ℕ}
    (h : ∀ r i, P (seenSend base (sendEventRecord i r)) ↔ Q r) :
    (∀ e ∈ seenSends base records, P e) ↔ ∀ r ∈ records, Q r := by
  constructor
  · intro hall r hr
    obtain ⟨i, hi, rfl⟩ := List.mem_iff_getElem.mp hr
    exact (h _ i).mp (hall _ (List.mem_map.mpr
      ⟨(records[i], i), List.mk_mem_zipIdx_iff_getElem?.mpr (List.getElem?_eq_getElem hi), rfl⟩))
  · intro hall e he
    obtain ⟨⟨r, i⟩, hmem, rfl⟩ := List.mem_map.mp he
    exact (h r i).mpr (hall r (List.fst_mem_of_mem_zipIdx hmem))

theorem isChain_seenSends_iff {base : ℕ}
    {R : Twilight.PlaybackSendEventSnapshot → Twilight.PlaybackSendEventSnapshot → Prop}
    {S : DeadlineSendRecord → DeadlineSendRecord → Prop}
    (h : ∀ r i s j, R (seenSend base (sendEventRecord i r)) (seenSend base (sendEventRecord j s)) ↔
      S r s) : (seenSends base records).IsChain R ↔ records.IsChain S := by
  rw [seenSends, List.isChain_map]
  exact isChain_zipIdx_iff fun a b ↦ h a.1 a.2 b.1 b.2

/-- The times of what the driver hears are in order, so the gate asks for no more than the packets'
own data. -/
theorem inOrder_seenSends_iff (hsent : ∀ r ∈ records, r.sendStartedAt ≤ r.sentAt)
    (hordered : records.Pairwise fun r s ↦ r.sentAt ≤ s.sendStartedAt) (base : ℕ) :
    InOrder (seenSends base records) ↔ Continuous records := by
  have hnonces : (seenSends base records).filterMap (·.protectionNonce) =
      records.filterMap (·.protectionNonce) := by
    conv_rhs => rw [← records.zipIdx_map_fst 0, List.filterMap_map]
    rw [seenSends, List.filterMap_map]
    rfl
  have hrtp : (seenSends base records).IsChain RtpContinues ↔ records.IsChain RtpFollows :=
    isChain_seenSends_iff fun r i s j ↦ rtpContinues_iff
  have hmedia : (∀ e ∈ seenSends base records, HeardMedia e) ↔ ∀ r ∈ records, CarriesMedia r :=
    forall_seenSends_iff fun r i ↦ heardMedia_iff
  constructor
  · intro h
    exact ⟨hrtp.mp h.rtp, hnonces ▸ h.nonces, hmedia.mp h.heard⟩
  · intro h
    refine ⟨fun k e hk ↦ ?_, ?_, ?_, ?_, hrtp.mpr h.rtp, hnonces.symm ▸ h.nonces,
      hmedia.mpr h.media⟩
    · rw [seenSends, List.getElem?_map, List.getElem?_zipIdx, Option.map_map,
        Option.map_eq_some_iff] at hk
      obtain ⟨r, -, rfl⟩ := hk
      exact Nat.zero_add k
    · refine (forall_seenSends_iff (Q := fun _ ↦ True) fun r i ↦ iff_true_intro ?_).mpr
        fun _ _ ↦ trivial
      have hkind : (seenSend base (sendEventRecord i r)).commandKind =
        .of (Media.playbackSendCommandKind r.kind) := fromRaw_mapSendCommandKind _
      rw [hkind]
      cases r.kind <;> decide
    · intro e he
      obtain ⟨⟨r, i⟩, hmem, rfl⟩ := List.mem_map.mp he
      exact instantOffsetMicros_mono base (hsent r (List.fst_mem_of_mem_zipIdx hmem))
    · rw [seenSends, List.isChain_map]
      have hcompletions : records.Pairwise fun r s ↦ r.sentAt ≤ s.sentAt :=
        hordered.imp_of_mem fun _ hs h ↦ h.trans (hsent _ hs)
      have hchain : records.zipIdx.IsChain fun a b ↦ a.1.sentAt ≤ b.1.sentAt :=
        (isChain_zipIdx_iff fun a b ↦ Iff.rfl).mpr hcompletions.isChain
      exact hchain.imp fun a b hab ↦ instantOffsetMicros_mono base hab

/-- The deadline that the times in a snapshot are told from. -/
def baseDeadline (events : List PlaybackSendEventRecord) : ℕ :=
  (events.head?.map (·.expectedDeadline)).getD 0

theorem playbackMetrics_rawSendEvents (sort : UnstableSort) (depths : PreparedTrackQueueDepths)
    (left : List PlaybackSendEventRecord) (queueEvents : Media.PlaybackStabilityCollector) :
    (playbackMetrics (Evidence.snapshot sort depths left queueEvents)).rawSendEvents =
      left.map (seenSend (baseDeadline left)) := by
  simp only [playbackMetrics, PlaybackStabilitySnapshot.from, mapPlaybackStabilitySnapshot,
    Evidence.snapshot, List.map_map]
  cases left with
  | nil => rfl
  | cons first left =>
    rw [playbackSendEventSnapshots, List.head?_cons, List.map_map]
    rfl

theorem sendEventRecords_take (start n : ℕ) (records : List DeadlineSendRecord) :
    sendEventRecords start (records.take n) = (sendEventRecords start records).take n := by
  induction records generalizing start n with
  | nil => rw [List.take_nil, sendEventRecords, List.take_nil]
  | cons sent records ih =>
    cases n with
    | zero => rfl
    | succ n => exact congrArg _ (ih _ n)

/-- The gate on the order of the sent packets, whatever of the driver's reports is lost on the way:
it never refuses their times, so it accepts if and only if no report before one that came through is
lost and the packets go on from one another, each with the media that it should have. -/
theorem sendOrder_accepts_iff (hreported : Reported records) (hlength : records.length < 2 ^ 64)
    {left : List PlaybackSendEventRecord} (hleft : left.Sublist (sendEventRecords 0 records))
    (sort : UnstableSort) (depths : PreparedTrackQueueDepths)
    (queueEvents : Media.PlaybackStabilityCollector) (label : String) :
    validateRawSendEventOrder (playbackMetrics (Evidence.snapshot sort depths left queueEvents))
        label = .ok () ↔
      ∃ n, left = sendEventRecords 0 (records.take n) ∧ Continuous (records.take n) := by
  have hraw := playbackMetrics_rawSendEvents sort depths left queueEvents
  generalize baseDeadline left = base at hraw
  have hall : sendEventRecords 0 records =
      records.zipIdx.map fun sent ↦ sendEventRecord sent.2 sent.1 :=
    sendEventRecords_eq (by omega)
  have hseen (n : ℕ) : (sendEventRecords 0 (records.take n)).map (seenSend base) =
      seenSends base (records.take n) := by
    have htake : (records.take n).length ≤ records.length := List.length_take_le' n records
    rw [sendEventRecords_eq (by omega), List.map_map]
    rfl
  have htimes (n : ℕ) : InOrder (seenSends base (records.take n)) ↔ Continuous (records.take n) :=
    inOrder_seenSends_iff (fun r hr ↦ (hreported.timely r (List.mem_of_mem_take hr)).2)
      (hreported.ordered.sublist (List.take_sublist n records)) base
  have hindex (k : ℕ) (event : PlaybackSendEventRecord)
      (hk : (sendEventRecords 0 records)[k]? = some event) : event.packetIndex = 0 + k := by
    rw [hall, List.getElem?_map, List.getElem?_zipIdx, Option.map_map,
      Option.map_eq_some_iff] at hk
    obtain ⟨sent, -, rfl⟩ := hk
    rfl
  rw [validateRawSendEventOrder_ok_iff, hraw]
  constructor
  · intro h
    have hfront : left <+: sendEventRecords 0 records := by
      refine isPrefix_of_numbered hleft hindex fun k event hk ↦ ?_
      rw [Nat.zero_add]
      exact h.numbered k (seenSend base event) (by rw [List.getElem?_map, hk, Option.map_some])
    have htaken : left = sendEventRecords 0 (records.take left.length) := by
      rw [sendEventRecords_take]
      exact List.prefix_iff_eq_take.mp hfront
    refine ⟨left.length, htaken, (htimes _).mp ?_⟩
    rwa [htaken, hseen] at h
  · rintro ⟨n, rfl, hcontinuous⟩
    rw [hseen]
    exact (htimes n).mpr hcontinuous

/-- Two packets of the track, and the silence of a pause from the sender after them; the last report
is lost. -/
theorem sendOrder_accepts_iff_pause :
    let track := DeadlineSender.newWithNextDeadlineRecordsAndGeneration 0 0
    let boundary := DeadlineSender.newWithNextDeadlineRecordsAndGeneration 1000000000 1000000000
    let records :=
      (track.run [trackPass 0 65535 4294967000 4, trackPass 20 0 664 5]).2.sendRecords ++
        (boundary.run [silencePass 1 1624 6, silencePass 2 2584 7]).2.sendRecords
    records.map (·.kind) = [.track, .track, .boundarySilence, .boundarySilence] ∧
      validateRawSendEventOrder (playbackMetrics (Evidence.snapshot .insertion (.new 400 300 500)
        (sendEventRecords 0 (records.take 3)) (.collect []))) "playback" = .ok () := by
  intro track boundary records
  have htrack : Reported (track.run [trackPass 0 65535 4294967000 4,
      trackPass 20 0 664 5]).2.sendRecords := by
    simpa using Reported.sender .nothing track _ rfl nofun List.prefix_rfl
  have hreported : Reported records :=
    htrack.sender boundary _ rfl (by decide) List.prefix_rfl
  have hcontinuous : Continuous (records.take 3) :=
    ⟨by decide, by decide, by decide⟩
  have hlength : records.length = 4 := by decide
  refine ⟨by decide, (sendOrder_accepts_iff hreported (by omega) ?_ .insertion (.new 400 300 500)
    (.collect []) "playback").mpr ⟨3, rfl, hcontinuous⟩⟩
  rw [sendEventRecords_take]
  exact List.take_sublist 3 _

end Reports

end DiscordVoice.Validation
