import Mathlib.Data.List.Sort
import DiscordVoice.Fallible
import DiscordVoice.Session.StabilityMetrics
import DiscordVoice.Validation.Audio

namespace DiscordVoice.Validation.Timed

open Voice Playback RunSpans Session

def discordOpusPacketDurationSamples : UInt32 := 960

def observerGapThreshold : ℕ := 100000000

def localObserverJitterAllowance : ℕ := 750000

def durationMs (duration : ℕ) : ℕ := min (duration / 1000000) (2 ^ 64 - 1)

def durationUs (duration : ℕ) : ℕ := min (duration / 1000) (2 ^ 64 - 1)

/-- The observer's own copy of the sender's function. -/
def mediaToWallClockRatioPpmDuration (mediaDuration wallClockElapsed : ℕ) : ℕ :=
  let mediaDurationUs := mediaDuration / 1000
  let wallClockElapsedUs := wallClockElapsed / 1000
  if mediaDurationUs = 0 ∨ wallClockElapsedUs = 0 then 0
  else min (mediaDurationUs * 1000000 / wallClockElapsedUs) (2 ^ 64 - 1)

inductive ObserverPlaybackSegment
  | prePauseSteady
  | controlledPause
  | postResumeSteady
  | naturalEndDrain
  deriving DecidableEq, Repr

namespace ObserverPlaybackSegment

def label : ObserverPlaybackSegment → String
  | .prePauseSteady => "pre_pause_steady_playback"
  | .controlledPause => "controlled_pause"
  | .postResumeSteady => "post_resume_steady_playback"
  | .naturalEndDrain => "natural_end_drain"

def isSteadyPlayback : ObserverPlaybackSegment → Bool
  | .prePauseSteady => true
  | .postResumeSteady => true
  | .controlledPause => false
  | .naturalEndDrain => false

end ObserverPlaybackSegment

structure AudioIntervalStats where
  samples : ℕ
  p50Ms : ℕ
  p95Ms : ℕ
  p99Ms : ℕ
  minMs : ℕ
  maxMs : ℕ
  deriving DecidableEq, Repr

def percentileDuration (sorted : List ℕ) (percentile : ℕ) : ℕ :=
  sorted.getD (((sorted.length - 1) * percentile + 99) / 100) 0

def intervalStats (intervals : List ℕ) : AudioIntervalStats :=
  let sorted := intervals.insertionSort (· ≤ ·)
  ⟨sorted.length, durationMs (percentileDuration sorted 50), durationMs (percentileDuration sorted 95),
    durationMs (percentileDuration sorted 99), durationMs (sorted.headD 0),
    durationMs (sorted.getLastD 0)⟩

structure AudioObserverAnomaly where
  kind : String
  classification : String
  sequence : Option UInt16
  previousSequence : Option UInt16
  intervalMs : ℕ
  intervalUs : ℕ
  expectedDurationMs : ℕ
  expectedDurationUs : ℕ
  deriving DecidableEq, Repr

/-- The statistics of the packets' lengths and of the times between them. -/
structure AudioValidationStats where
  observedPacketCount : ℕ
  nonDiscordOpusDurationPacketCount : ℕ
  nonDiscordOpusDurationMinSamples : UInt32
  nonDiscordOpusDurationMaxSamples : UInt32
  decodedAudioMs : ℕ
  wallClockElapsedMs : ℕ
  decodedAudioToWallClockRatioPpm : ℕ
  rtpInterArrival : AudioIntervalStats
  rtpGapCountGte100Ms : ℕ
  rtpFastIntervalCount : ℕ
  rtpFastIntervalMinMs : ℕ
  rtpFastIntervalMinUs : ℕ
  rtpBufferingEventCount : ℕ
  rtpBufferingTotalUs : ℕ
  rtpBufferingMaxUs : ℕ
  rtpSpeedChangeTotalAbsUs : ℕ
  rtpSpeedChangeTotalFastUs : ℕ
  rtpSpeedChangeTotalSlowUs : ℕ
  observerAnomalies : List AudioObserverAnomaly
  firstSequence : Option UInt16
  lastSequence : Option UInt16
  deriving DecidableEq, Repr

namespace AudioValidationStats

def default : AudioValidationStats :=
  ⟨0, 0, 0, 0, 0, 0, 0, ⟨0, 0, 0, 0, 0, 0⟩, 0, 0, 0, 0, 0, 0, 0, 0, 0, 0, [], none, none⟩

def recordOpusDurationEvidence (s : AudioValidationStats) (durationSamples : UInt32) :
    AudioValidationStats :=
  if durationSamples = discordOpusPacketDurationSamples then s
  else
    let first := s.nonDiscordOpusDurationPacketCount = 0
    { s with
      nonDiscordOpusDurationPacketCount := saturatingAdd s.nonDiscordOpusDurationPacketCount 1
      nonDiscordOpusDurationMinSamples :=
        if first then durationSamples else min s.nonDiscordOpusDurationMinSamples durationSamples
      nonDiscordOpusDurationMaxSamples :=
        if first then durationSamples else max s.nonDiscordOpusDurationMaxSamples durationSamples }

def recordGap (s : AudioValidationStats) (segment : ObserverPlaybackSegment)
    (sequence : UInt16) (previousSequence : Option UInt16) (interval : ℕ)
    (lastPacketDuration : Option ℕ) : AudioValidationStats :=
  if interval ≥ observerGapThreshold then
    { s with
      rtpGapCountGte100Ms := s.rtpGapCountGte100Ms + 1
      observerAnomalies := s.observerAnomalies ++ [{
        kind := "rtp_gap_gte_100ms"
        classification := segment.label
        sequence := some sequence
        previousSequence
        intervalMs := durationMs interval
        intervalUs := durationUs interval
        expectedDurationMs := lastPacketDuration.elim 0 durationMs
        expectedDurationUs := lastPacketDuration.elim 0 durationUs }] }
  else s

/-- A packet that comes before the one before it is over. -/
def recordFastInterval (s : AudioValidationStats) (segment : ObserverPlaybackSegment)
    (sequence : UInt16) (previousSequence : Option UInt16) (interval previousDuration : ℕ) :
    AudioValidationStats :=
  if interval + localObserverJitterAllowance < previousDuration then
    let intervalMs := durationMs interval
    let intervalUs := durationUs interval
    { s with
      rtpFastIntervalCount := saturatingAdd s.rtpFastIntervalCount 1
      rtpFastIntervalMinMs :=
        if s.rtpFastIntervalMinMs = 0 then intervalMs else min s.rtpFastIntervalMinMs intervalMs
      rtpFastIntervalMinUs :=
        if s.rtpFastIntervalMinUs = 0 then intervalUs else min s.rtpFastIntervalMinUs intervalUs
      observerAnomalies := s.observerAnomalies ++ [{
        kind := "rtp_fast_interval"
        classification := segment.label
        sequence := some sequence
        previousSequence
        intervalMs
        intervalUs
        expectedDurationMs := durationMs previousDuration
        expectedDurationUs := durationUs previousDuration }] }
  else s

def recordBuffering (s : AudioValidationStats) (interval previousDuration : ℕ) : AudioValidationStats :=
  if interval ≥ observerGapThreshold then
    let bufferingUs := durationUs interval - durationUs previousDuration
    { s with
      rtpBufferingEventCount := saturatingAdd s.rtpBufferingEventCount 1
      rtpBufferingTotalUs := saturatingAdd s.rtpBufferingTotalUs bufferingUs
      rtpBufferingMaxUs := max s.rtpBufferingMaxUs bufferingUs }
  else s

def recordSpeedChange (s : AudioValidationStats) (interval previousDuration : ℕ) :
    AudioValidationStats :=
  let intervalUs := durationUs interval
  let previousDurationUs := durationUs previousDuration
  let jitterAllowanceUs := durationUs localObserverJitterAllowance
  if intervalUs + jitterAllowanceUs < previousDurationUs then
    let fastUs := previousDurationUs - intervalUs - jitterAllowanceUs
    { s with
      rtpSpeedChangeTotalFastUs := saturatingAdd s.rtpSpeedChangeTotalFastUs fastUs
      rtpSpeedChangeTotalAbsUs := saturatingAdd s.rtpSpeedChangeTotalAbsUs fastUs }
  else if intervalUs > previousDurationUs + jitterAllowanceUs then
    let slowUs := intervalUs - previousDurationUs - jitterAllowanceUs
    { s with
      rtpSpeedChangeTotalSlowUs := saturatingAdd s.rtpSpeedChangeTotalSlowUs slowUs
      rtpSpeedChangeTotalAbsUs := saturatingAdd s.rtpSpeedChangeTotalAbsUs slowUs }
  else s

/-- The packets observed, and the ratio that is only filled in when the statistics are asked for. -/
def counts (s : AudioValidationStats) : ℕ × ℕ :=
  (s.observedPacketCount, s.decodedAudioToWallClockRatioPpm)

variable (s : AudioValidationStats) (segment : ObserverPlaybackSegment) (sequence : UInt16)
  (previousSequence : Option UInt16) (interval previousDuration : ℕ)

@[simp] theorem recordOpusDurationEvidence_counts (durationSamples : UInt32) :
    (s.recordOpusDurationEvidence durationSamples).counts = s.counts := by
  unfold recordOpusDurationEvidence
  split_ifs <;> rfl

@[simp] theorem recordGap_counts (lastPacketDuration : Option ℕ) :
    (s.recordGap segment sequence previousSequence interval lastPacketDuration).counts =
      s.counts := by
  unfold recordGap
  split_ifs <;> rfl

@[simp] theorem recordFastInterval_counts :
    (s.recordFastInterval segment sequence previousSequence interval previousDuration).counts =
      s.counts := by
  unfold recordFastInterval
  split_ifs <;> rfl

@[simp] theorem recordBuffering_counts :
    (s.recordBuffering interval previousDuration).counts = s.counts := by
  unfold recordBuffering
  split_ifs <;> rfl

@[simp] theorem recordSpeedChange_counts :
    (s.recordSpeedChange interval previousDuration).counts = s.counts := by
  have hfast : ∀ fast all, { s with
      rtpSpeedChangeTotalFastUs := fast, rtpSpeedChangeTotalAbsUs := all }.counts = s.counts :=
    fun _ _ ↦ rfl
  have hslow : ∀ slow all, { s with
      rtpSpeedChangeTotalSlowUs := slow, rtpSpeedChangeTotalAbsUs := all }.counts = s.counts :=
    fun _ _ ↦ rfl
  simp only [recordSpeedChange]
  split_ifs
  · exact hfast _ _
  · exact hslow _ _
  · rfl

end AudioValidationStats

structure ObservedPacketTiming where
  observedAt : ℕ
  duration : ℕ
  decodedAudioStartMs : ℕ
  sequence : UInt16
  deriving DecidableEq, Repr

/-- The accumulator with what it measures on its clock, without the loudness of the samples and the
tempo of the windows. -/
structure AudioValidationAccumulator extends Validation.AudioValidationAccumulator where
  stats : AudioValidationStats
  decodedAudioDuration : ℕ
  activeWallClockElapsed : ℕ
  lastObservedAt : Option ℕ
  lastPacketDuration : Option ℕ
  interArrivals : List ℕ
  observedPacketTimings : List ObservedPacketTiming
  segment : ObserverPlaybackSegment
  deriving DecidableEq, Repr

namespace AudioValidationAccumulator

def new : AudioValidationAccumulator :=
  ⟨.new, .default, 0, 0, none, none, [], [], .prePauseSteady⟩

/-- A packet after another, as long as both are on one clock. -/
def recordInterval (acc : AudioValidationAccumulator) (interval currentPacketDuration : ℕ)
    (sequence : UInt16) : AudioValidationAccumulator :=
  let stats := acc.stats.recordGap acc.segment sequence acc.lastPacketSequence interval
    acc.lastPacketDuration
  let interArrivals := acc.interArrivals ++ [interval]
  let acc := match acc.lastPacketDuration with
    | none => { acc with stats }
    | some previousDuration =>
      let stats := stats.recordFastInterval acc.segment sequence acc.lastPacketSequence interval
        previousDuration
      { acc with
        stats :=
          if acc.segment.isSteadyPlayback then
            (stats.recordBuffering interval previousDuration).recordSpeedChange interval
              previousDuration
          else stats
        activeWallClockElapsed :=
          acc.activeWallClockElapsed - previousDuration + interval + currentPacketDuration }
  { acc with
    interArrivals
    stats := { acc.stats with rtpInterArrival := intervalStats interArrivals } }

def recordInterArrival (acc : AudioValidationAccumulator) (observedAt currentPacketDuration : ℕ)
    (sequence : UInt16) : AudioValidationAccumulator :=
  { (match acc.lastObservedAt with
      | some previous => acc.recordInterval (observedAt - previous) currentPacketDuration sequence
      | none =>
        { acc with
          activeWallClockElapsed := acc.activeWallClockElapsed + currentPacketDuration }) with
    lastObservedAt := some observedAt }

def packetDurationOf (declaredSamples : UInt32) : ℕ :=
  min (declaredSamples.toNat * 1000000000) (2 ^ 64 - 1) / 48000

def countObserved (acc : AudioValidationAccumulator) (packet : ObservedOpusPacket)
    (declaredSamples : UInt32) : AudioValidationAccumulator :=
  let stats := acc.stats.recordOpusDurationEvidence declaredSamples
  { acc with
    stats := { stats with
      observedPacketCount := stats.observedPacketCount + 1
      firstSequence := stats.firstSequence.or (some packet.sequence)
      lastSequence := some packet.sequence }
    decodedAudioDuration :=
      durationSaturatingAdd acc.decodedAudioDuration (packetDurationOf declaredSamples) }

/-- `observe_packet_at`, once the packet is decoded and in its place in the stream. -/
def recordObserved (acc : AudioValidationAccumulator) (packet : ObservedOpusPacket)
    (declaredSamples : UInt32) (observedAt : ℕ) : AudioValidationAccumulator :=
  let packetDuration := packetDurationOf declaredSamples
  let decodedAudioStartMs := durationMs acc.decodedAudioDuration
  let acc := (acc.countObserved packet declaredSamples).recordInterArrival observedAt packetDuration
    packet.sequence
  { acc with
    toAudioValidationAccumulator := acc.toAudioValidationAccumulator.recordPacket packet declaredSamples
    lastPacketDuration := some packetDuration
    observedPacketTimings := acc.observedPacketTimings ++
      [⟨observedAt, packetDuration, decodedAudioStartMs, packet.sequence⟩] }

/-- `observe_packet_at`, with the number of samples the decoder returns for the packet. -/
def observePacketAt (acc : AudioValidationAccumulator) (packet : ObservedOpusPacket)
    (decoded : Except String ℕ) (observedAt : ℕ) : Except String AudioValidationAccumulator := do
  let _ ← acc.toAudioValidationAccumulator.observePacketAt packet decoded
  return (opusPacketDuration packet.payload).elim acc fun declaredDuration ↦
    acc.recordObserved packet declaredDuration.samples observedAt

/-- `stats`. -/
def currentStats (acc : AudioValidationAccumulator) : AudioValidationStats :=
  if acc.stats.observedPacketCount > 0 then
    { acc.stats with
      decodedAudioMs := durationMs acc.decodedAudioDuration
      wallClockElapsedMs := durationMs acc.activeWallClockElapsed
      decodedAudioToWallClockRatioPpm :=
        mediaToWallClockRatioPpmDuration acc.decodedAudioDuration acc.activeWallClockElapsed }
  else acc.stats

def resetInterArrivalBaseline (acc : AudioValidationAccumulator) : AudioValidationAccumulator :=
  { acc with
    lastObservedAt := none
    lastPacketDuration := none
    lastPacketDurationSamples := none
    lastPacketTimestamp := none
    observedPacketTimings := [] }

def startControlledPause (acc : AudioValidationAccumulator) : AudioValidationAccumulator :=
  { acc with segment := .controlledPause }

def resetWallClockBaselineAfterControlledPause (acc : AudioValidationAccumulator) :
    AudioValidationAccumulator :=
  { acc with
    lastObservedAt := none
    lastPacketDuration := none
    observedPacketTimings := []
    segment := .postResumeSteady }

def startNaturalEndDrain (acc : AudioValidationAccumulator) : AudioValidationAccumulator :=
  { acc with segment := .naturalEndDrain }

inductive Call
  | recordObserved (packet : ObservedOpusPacket) (declaredSamples : UInt32) (observedAt : ℕ)
  | resetInterArrivalBaseline
  | startControlledPause
  | resetWallClockBaselineAfterControlledPause
  | startNaturalEndDrain

def call (acc : AudioValidationAccumulator) : Call → AudioValidationAccumulator
  | .recordObserved packet declaredSamples observedAt =>
    acc.recordObserved packet declaredSamples observedAt
  | .resetInterArrivalBaseline => acc.resetInterArrivalBaseline
  | .startControlledPause => acc.startControlledPause
  | .resetWallClockBaselineAfterControlledPause => acc.resetWallClockBaselineAfterControlledPause
  | .startNaturalEndDrain => acc.startNaturalEndDrain

/-- What a call is on the timeline of the packets. -/
def Call.marks : Call → List Mark
  | .recordObserved _ declaredSamples observedAt =>
    [.item observedAt (packetDurationOf declaredSamples)]
  | .resetInterArrivalBaseline => [.cut]
  | .startControlledPause => []
  | .resetWallClockBaselineAfterControlledPause => [.cut]
  | .startNaturalEndDrain => []

theorem observePacketAt_ok {acc after : AudioValidationAccumulator} {packet : ObservedOpusPacket}
    {decoded : Except String ℕ} {observedAt : ℕ}
    (h : acc.observePacketAt packet decoded observedAt = .ok after) :
    ∃ declared, opusPacketDuration packet.payload = some declared ∧
      after = acc.recordObserved packet declared.samples observedAt := by
  obtain ⟨checked, hchecked, hafter⟩ := Fallible.except_bind_ok_iff.mp h
  cases hdeclared : opusPacketDuration packet.payload with
  | none =>
    unfold Validation.AudioValidationAccumulator.observePacketAt at hchecked
    rw [hdeclared] at hchecked
    cases hempty : packet.payload.isEmpty <;> simp [hempty, bind, Except.bind] at hchecked
  | some declared =>
    rw [hdeclared] at hafter
    exact ⟨declared, rfl, (Except.ok.inj hafter).symm⟩

def Measured (acc : AudioValidationAccumulator) (marks : List Mark) : Prop :=
  Measures acc.lastObservedAt acc.lastPacketDuration acc.activeWallClockElapsed
    acc.decodedAudioDuration marks

theorem recordInterval_tempo (acc : AudioValidationAccumulator) (interval duration : ℕ)
    (sequence : UInt16) :
    (acc.recordInterval interval duration sequence).activeWallClockElapsed =
        acc.lastPacketDuration.elim acc.activeWallClockElapsed (fun previousDuration ↦
          acc.activeWallClockElapsed - previousDuration + interval + duration) ∧
      (acc.recordInterval interval duration sequence).decodedAudioDuration =
        acc.decodedAudioDuration := by
  unfold recordInterval
  cases acc.lastPacketDuration with
  | none => exact ⟨rfl, rfl⟩
  | some previousDuration => exact ⟨rfl, rfl⟩

theorem recordInterArrival_tempo (acc : AudioValidationAccumulator) (observedAt duration : ℕ)
    (sequence : UInt16) :
    (acc.recordInterArrival observedAt duration sequence).activeWallClockElapsed =
        elapsedAfter acc.lastObservedAt acc.lastPacketDuration acc.activeWallClockElapsed observedAt
          duration ∧
      (acc.recordInterArrival observedAt duration sequence).decodedAudioDuration =
        acc.decodedAudioDuration := by
  unfold recordInterArrival
  cases hlast : acc.lastObservedAt with
  | none => exact ⟨rfl, rfl⟩
  | some previous => exact recordInterval_tempo acc (observedAt - previous) duration sequence

theorem recordObserved_measured {acc : AudioValidationAccumulator} {marks : List Mark}
    (h : acc.Measured marks) (packet : ObservedOpusPacket) (declaredSamples : UInt32)
    (observedAt : ℕ) :
    (acc.recordObserved packet declaredSamples observedAt).Measured
      (marks ++ [.item observedAt (packetDurationOf declaredSamples)]) := by
  have hitem := Measures.item h observedAt (packetDurationOf declaredSamples)
  obtain ⟨helapsed, hmedia⟩ := recordInterArrival_tempo (acc.countObserved packet declaredSamples)
    observedAt (packetDurationOf declaredSamples) packet.sequence
  refine ⟨hitem.lastAt, hitem.lastDuration, ?_, ?_⟩
  · rw [← hitem.elapsed]
    exact helapsed
  · rw [← hitem.media]
    exact hmedia

theorem call_measured {acc : AudioValidationAccumulator} {marks : List Mark} (h : acc.Measured marks)
    (x : Call) : (acc.call x).Measured (marks ++ x.marks) := by
  cases x with
  | recordObserved packet declaredSamples observedAt =>
    exact recordObserved_measured h packet declaredSamples observedAt
  | resetInterArrivalBaseline => exact Measures.cut h
  | startControlledPause =>
    rw [Call.marks, List.append_nil]
    exact h
  | resetWallClockBaselineAfterControlledPause => exact Measures.cut h
  | startNaturalEndDrain =>
    rw [Call.marks, List.append_nil]
    exact h

theorem run_measured (calls : List Call) :
    (calls.foldl call new).Measured (calls.flatMap Call.marks) := by
  induction calls using List.reverseRecOn with
  | nil => exact .nothing
  | append_singleton calls x ih =>
    rw [List.foldl_concat, List.flatMap_append, List.flatMap_singleton]
    exact call_measured ih x

theorem run_exact {before after : List Call} {x : Call} {start duration : ℕ}
    (hmono : (starts ((before ++ x :: after).flatMap Call.marks)).Pairwise (· ≤ ·))
    (hx : x.marks = [.item start duration]) :
    Measures.Exact (before.foldl call new).lastObservedAt (before.foldl call new).lastPacketDuration
      (before.foldl call new).activeWallClockElapsed start := by
  rw [List.flatMap_append, List.flatMap_cons, hx, ← List.append_assoc] at hmono
  exact (run_measured before).exact (starts_pairwise_left hmono)

theorem recordInterval_counts (acc : AudioValidationAccumulator) (interval duration : ℕ)
    (sequence : UInt16) :
    (acc.recordInterval interval duration sequence).stats.counts = acc.stats.counts := by
  have hstats : ∀ (stats : AudioValidationStats) (rtpInterArrival : AudioIntervalStats),
      { stats with rtpInterArrival }.counts = stats.counts := fun _ _ ↦ rfl
  unfold recordInterval
  cases acc.lastPacketDuration with
  | none => simp only [hstats, AudioValidationStats.recordGap_counts]
  | some previousDuration =>
    simp only [hstats]
    split_ifs <;> simp

theorem recordInterArrival_counts (acc : AudioValidationAccumulator) (observedAt duration : ℕ)
    (sequence : UInt16) :
    (acc.recordInterArrival observedAt duration sequence).stats.counts = acc.stats.counts := by
  unfold recordInterArrival
  cases acc.lastObservedAt with
  | none => rfl
  | some previous => exact recordInterval_counts acc (observedAt - previous) duration sequence

theorem recordObserved_counts (acc : AudioValidationAccumulator) (packet : ObservedOpusPacket)
    (declaredSamples : UInt32) (observedAt : ℕ) :
    (acc.recordObserved packet declaredSamples observedAt).stats.counts =
      (acc.stats.counts.1 + 1, acc.stats.counts.2) := by
  have hcounts := acc.stats.recordOpusDurationEvidence_counts declaredSamples
  rw [← hcounts]
  exact recordInterArrival_counts (acc.countObserved packet declaredSamples) observedAt
    (packetDurationOf declaredSamples) packet.sequence

/-- An observer that has seen no packet has measured no audio. -/
structure Counts (acc : AudioValidationAccumulator) : Prop where
  ratio : acc.stats.counts.2 = 0
  media : acc.stats.counts.1 = 0 → acc.decodedAudioDuration = 0

theorem call_counts {acc : AudioValidationAccumulator} (h : acc.Counts) (x : Call) :
    (acc.call x).Counts := by
  cases x with
  | recordObserved packet declaredSamples observedAt =>
    have hcounts := recordObserved_counts acc packet declaredSamples observedAt
    refine ⟨(congrArg Prod.snd hcounts).trans h.ratio, ?_⟩
    intro hnone
    exact absurd ((congrArg Prod.fst hcounts).symm.trans hnone) (Nat.succ_ne_zero _)
  | resetInterArrivalBaseline => exact ⟨h.ratio, h.media⟩
  | startControlledPause => exact ⟨h.ratio, h.media⟩
  | resetWallClockBaselineAfterControlledPause => exact ⟨h.ratio, h.media⟩
  | startNaturalEndDrain => exact ⟨h.ratio, h.media⟩

theorem run_counts (calls : List Call) : (calls.foldl call new).Counts := by
  induction calls using List.reverseRecOn with
  | nil => exact ⟨rfl, fun _ ↦ rfl⟩
  | append_singleton calls x ih =>
    rw [List.foldl_concat]
    exact call_counts ih x

/-- The ratio shown is that of the audio to the clock, also when there was none. -/
theorem currentStats_ratio {acc : AudioValidationAccumulator} (h : acc.Counts) :
    acc.currentStats.decodedAudioToWallClockRatioPpm =
      mediaToWallClockRatioPpmDuration acc.decodedAudioDuration acc.activeWallClockElapsed := by
  unfold currentStats
  split_ifs with hsome
  · rfl
  · have hnone : acc.stats.counts.1 = 0 := Nat.eq_zero_of_not_pos hsome
    rw [h.media hnone]
    exact h.ratio

end AudioValidationAccumulator

/-- On one timeline of packets and resets, the sender and the observer both measure the runs of
packets between the resets, no subtraction falls below zero, and the ratio of the one is that of the
other. -/
theorem sender_and_observer_measure_the_same {sent : List PlaybackStabilityCollector.Call}
    {heard : List AudioValidationAccumulator.Call}
    (hsame : heard.flatMap (·.marks) = sent.flatMap (·.marks))
    (hmono : (starts (sent.flatMap (·.marks))).Pairwise (· ≤ ·)) :
    (sent.foldl PlaybackStabilityCollector.call .new).activeTrackWallClockElapsed =
        totalSpan (sent.flatMap (·.marks)) ∧
      (heard.foldl AudioValidationAccumulator.call .new).activeWallClockElapsed =
        totalSpan (sent.flatMap (·.marks)) ∧
      (∀ before x after, sent = before ++ x :: after → ∀ start duration,
        x.marks = [.item start duration] →
          Measures.Exact (before.foldl PlaybackStabilityCollector.call .new).lastTrackSendStartedAt
            (before.foldl PlaybackStabilityCollector.call .new).lastTrackDuration
            (before.foldl PlaybackStabilityCollector.call .new).activeTrackWallClockElapsed start) ∧
      (∀ before x after, heard = before ++ x :: after → ∀ start duration,
        x.marks = [.item start duration] →
          Measures.Exact (before.foldl AudioValidationAccumulator.call .new).lastObservedAt
            (before.foldl AudioValidationAccumulator.call .new).lastPacketDuration
            (before.foldl AudioValidationAccumulator.call .new).activeWallClockElapsed start) ∧
      (sent.foldl PlaybackStabilityCollector.call .new).trackMediaToWallClockRatioPpm =
        (heard.foldl AudioValidationAccumulator.call
          .new).currentStats.decodedAudioToWallClockRatioPpm := by
  have hsender := PlaybackStabilityCollector.run_measured sent
  have hobserver := AudioValidationAccumulator.run_measured heard
  rw [hsame] at hobserver
  refine ⟨?_, ?_, ?_, ?_, ?_⟩
  · rw [hsender.elapsed, total_eq hmono]
  · rw [hobserver.elapsed, total_eq hmono]
  · rintro before x after rfl start duration hx
    exact PlaybackStabilityCollector.run_exact hmono hx
  · rintro before x after rfl start duration hx
    rw [← hsame] at hmono
    exact AudioValidationAccumulator.run_exact hmono hx
  · rw [AudioValidationAccumulator.currentStats_ratio (AudioValidationAccumulator.run_counts heard),
      hobserver.elapsed, hobserver.media, PlaybackStabilityCollector.trackMediaToWallClockRatioPpm,
      hsender.elapsed, hsender.media]
    rfl

/-- Three packets with a pause of the sender and of the observer after the second. -/
theorem measured_over_a_pause :
    (([.recordTrackPacket 0 0 960 false, .recordTrackPacket 20000000 21000000 960 false,
        .recordResumedFromPause, .recordTrackPacket 900000000 900000000 480 false] :
          List PlaybackStabilityCollector.Call).foldl PlaybackStabilityCollector.call
        .new).activeTrackWallClockElapsed = 51000000 := by
  have hmarks : ([.recordObserved ⟨0, 0, []⟩ 960 0, .recordObserved ⟨1, 960, []⟩ 960 21000000,
      .startControlledPause, .resetWallClockBaselineAfterControlledPause,
      .recordObserved ⟨2, 1920, []⟩ 480 900000000] :
        List AudioValidationAccumulator.Call).flatMap (·.marks) =
      ([.recordTrackPacket 0 0 960 false, .recordTrackPacket 20000000 21000000 960 false,
        .recordResumedFromPause, .recordTrackPacket 900000000 900000000 480 false] :
          List PlaybackStabilityCollector.Call).flatMap (·.marks) := by decide +kernel
  exact (sender_and_observer_measure_the_same hmarks (by decide +kernel)).1.trans (by decide +kernel)

end DiscordVoice.Validation.Timed
