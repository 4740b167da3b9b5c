import DiscordVoice.MarkedMinimum
import DiscordVoice.Session.TempoWindows
import DiscordVoice.Validation.PlaybackSpeed

namespace DiscordVoice.Validation.Tempo

open Voice Playback RunSpans RunWindows MarkedMinimum Session

open Timed.AudioValidationAccumulator (Call packetDurationOf)

open Timed (durationMs durationUs localObserverJitterAllowance ObserverPlaybackSegment
  ObservedPacketTiming AudioValidationStats)

def observerTempoWindowPackets : ℕ := 250

theorem observerTempoWindowPackets_pos : 0 < observerTempoWindowPackets := by decide

def observerShortTempoWindowPackets : List ℕ := [25, 50]

def observerPostSourceBufferAudioMs : ℕ := 5000

def minMediaToWallClockRatioPpm : ℕ := 980000

def maxMediaToWallClockRatioPpm : ℕ := 1020000

structure AudioTempoWindowEvidence where
  classification : String
  windowPacketCount : ℕ
  mediaMs : ℕ
  wallClockUs : ℕ
  ratioPpm : ℕ
  firstSequence : UInt16
  lastSequence : UInt16
  deriving DecidableEq, Repr

/-- The statistics of the tempo windows. -/
structure TempoWindowStats where
  count : ℕ
  postSourceBufferCount : ℕ
  minRatioPpm : ℕ
  maxRatioPpm : ℕ
  fastCount : ℕ
  fastestRatioPpm : ℕ
  fastestMediaMs : ℕ
  fastestWallClockUs : ℕ
  slowCount : ℕ
  slowestRatioPpm : ℕ
  slowestMediaMs : ℕ
  slowestWallClockUs : ℕ
  shortCount : ℕ
  shortFastCount : ℕ
  shortSlowCount : ℕ
  shortFastest : Option AudioTempoWindowEvidence
  shortSlowest : Option AudioTempoWindowEvidence
  deriving DecidableEq, Repr

namespace TempoWindowStats

def default : TempoWindowStats := ⟨0, 0, 0, 0, 0, 0, 0, 0, 0, 0, 0, 0, 0, 0, 0, none, none⟩

def recordFast (s : TempoWindowStats) (ratio mediaDuration wallClockDuration : ℕ) : TempoWindowStats :=
  if ratio > maxMediaToWallClockRatioPpm then
    let s := { s with fastCount := saturatingAdd s.fastCount 1 }
    if ratio > s.fastestRatioPpm then
      { s with
        fastestRatioPpm := ratio
        fastestMediaMs := durationMs mediaDuration
        fastestWallClockUs := durationUs wallClockDuration }
    else s
  else s

def recordSlow (s : TempoWindowStats) (ratio mediaDuration wallClockDuration : ℕ) : TempoWindowStats :=
  if ratio < minMediaToWallClockRatioPpm then
    let s := { s with slowCount := saturatingAdd s.slowCount 1 }
    if s.slowestRatioPpm = 0 ∨ ratio < s.slowestRatioPpm then
      { s with
        slowestRatioPpm := ratio
        slowestMediaMs := durationMs mediaDuration
        slowestWallClockUs := durationUs wallClockDuration }
    else s
  else s

def recordLatestLong (s : TempoWindowStats) (timings : List ObservedPacketTiming) : TempoWindowStats :=
  if timings.length < observerTempoWindowPackets then s
  else
    let window := timings.drop (timings.length - observerTempoWindowPackets)
    match windowDurations (window.map (·.observedAt)) (window.map (·.duration)), window.head? with
    | some (mediaDuration, wallClockDuration), some first =>
      let ratio := Timed.mediaToWallClockRatioPpmDuration mediaDuration wallClockDuration
      let s := { s with
        count := saturatingAdd s.count 1
        postSourceBufferCount :=
          if first.decodedAudioStartMs ≥ observerPostSourceBufferAudioMs then
            saturatingAdd s.postSourceBufferCount 1
          else s.postSourceBufferCount
        minRatioPpm := if s.minRatioPpm = 0 then ratio else min s.minRatioPpm ratio
        maxRatioPpm := max s.maxRatioPpm ratio }
      (s.recordFast ratio mediaDuration wallClockDuration).recordSlow ratio mediaDuration
        wallClockDuration
    | _, _ => s

/-- A short window is kept whole, so that none so far is not a ratio. -/
def recordEvidence (s : TempoWindowStats) (evidence : AudioTempoWindowEvidence) : TempoWindowStats :=
  { s with
    shortCount := saturatingAdd s.shortCount 1
    shortFastest :=
      if s.shortFastest.all (evidence.ratioPpm > ·.ratioPpm) then some evidence else s.shortFastest
    shortSlowest :=
      if s.shortSlowest.all (evidence.ratioPpm < ·.ratioPpm) then some evidence else s.shortSlowest
    shortFastCount :=
      if evidence.ratioPpm > maxMediaToWallClockRatioPpm then saturatingAdd s.shortFastCount 1
      else s.shortFastCount
    shortSlowCount :=
      if evidence.ratioPpm < minMediaToWallClockRatioPpm then saturatingAdd s.shortSlowCount 1
      else s.shortSlowCount }

def recordLatestShort (segment : ObserverPlaybackSegment) (timings : List ObservedPacketTiming)
    (s : TempoWindowStats) (windowPacketCount : ℕ) : TempoWindowStats :=
  if timings.length < windowPacketCount then s
  else
    let window := timings.drop (timings.length - windowPacketCount)
    match windowDurations (window.map (·.observedAt)) (window.map (·.duration)), window.head?,
      window.getLast? with
    | some (mediaDuration, wallClockDuration), some first, some last =>
      s.recordEvidence {
        classification := segment.label
        windowPacketCount
        mediaMs := durationMs mediaDuration
        wallClockUs := durationUs wallClockDuration
        ratioPpm := Timed.mediaToWallClockRatioPpmDuration mediaDuration wallClockDuration
        firstSequence := first.sequence
        lastSequence := last.sequence }
    | _, _, _ => s

def recordLatest (s : TempoWindowStats) (segment : ObserverPlaybackSegment)
    (timings : List ObservedPacketTiming) : TempoWindowStats :=
  (observerShortTempoWindowPackets.foldl (recordLatestShort segment timings) s).recordLatestLong
    timings

end TempoWindowStats

/-- The accumulator with the tempo of the windows. -/
structure AudioValidationAccumulator extends toTimed : Timed.AudioValidationAccumulator where
  tempo : TempoWindowStats
  deriving DecidableEq, Repr

namespace AudioValidationAccumulator

def new : AudioValidationAccumulator := ⟨.new, .default⟩

/-- The tempo of the windows is taken once the packet is in its place. -/
def withPacket (acc : AudioValidationAccumulator) (after : Timed.AudioValidationAccumulator) :
    AudioValidationAccumulator :=
  ⟨after, acc.tempo.recordLatest after.segment after.observedPacketTimings⟩

/-- `observe_packet_at`, with the number of samples the decoder returns for the packet. -/
def observePacketAt (acc : AudioValidationAccumulator) (packet : ObservedOpusPacket)
    (decoded : Except String ℕ) (observedAt : ℕ) : Except String AudioValidationAccumulator := do
  let after ← acc.toTimed.observePacketAt packet decoded observedAt
  return acc.withPacket after

def call (acc : AudioValidationAccumulator) (x : Call) :
    AudioValidationAccumulator :=
  let after := acc.toTimed.call x
  match x with
  | .recordObserved .. => acc.withPacket after
  | .resetInterArrivalBaseline => { acc with toTimed := after }
  | .startControlledPause => { acc with toTimed := after }
  | .resetWallClockBaselineAfterControlledPause => { acc with toTimed := after }
  | .startNaturalEndDrain => { acc with toTimed := after }

end AudioValidationAccumulator

/-- A packet that is accepted is a call with the length it declares. -/
theorem AudioValidationAccumulator.observePacketAt_call {acc after : AudioValidationAccumulator}
    {packet : ObservedOpusPacket} {decoded : Except String ℕ} {observedAt : ℕ}
    (h : acc.observePacketAt packet decoded observedAt = .ok after) :
    ∃ declared, opusPacketDuration packet.payload = some declared ∧
      after = acc.call (.recordObserved packet declared.samples observedAt) := by
  obtain ⟨timed, htimed, hafter⟩ := Fallible.except_bind_ok_iff.mp h
  obtain ⟨declared, hdeclared, rfl⟩ := Timed.AudioValidationAccumulator.observePacketAt_ok htimed
  exact ⟨declared, hdeclared, (Except.ok.inj hafter).symm⟩

/-- What is kept of the fast intervals: how many, and the least in milliseconds and microseconds. -/
def fast (s : AudioValidationStats) : ℕ × ℕ × ℕ :=
  (s.rtpFastIntervalCount, s.rtpFastIntervalMinMs, s.rtpFastIntervalMinUs)

def keepFast (kept : ℕ × ℕ × ℕ) (interval : ℕ) : ℕ × ℕ × ℕ :=
  (saturatingAdd kept.1 1, keep 0 kept.2.1 (durationMs interval), keep 0 kept.2.2 (durationUs interval))

/-- The interval before a packet, where that is shorter than the packet before by more than the
allowance for the jitter. -/
def fastInterval (observedAt : ℕ) (before : ℕ × ℕ) : Option ℕ :=
  if observedAt - before.1 + localObserverJitterAllowance < before.2 then some (observedAt - before.1)
  else none

section Stats

variable (s : AudioValidationStats) (segment : ObserverPlaybackSegment) (sequence : UInt16)
  (previousSequence : Option UInt16) (interval previousDuration : ℕ)

theorem recordOpusDurationEvidence_fast (durationSamples : UInt32) :
    fast (s.recordOpusDurationEvidence durationSamples) = fast s := by
  unfold AudioValidationStats.recordOpusDurationEvidence
  split_ifs <;> rfl

theorem recordGap_fast (lastPacketDuration : Option ℕ) :
    fast (s.recordGap segment sequence previousSequence interval lastPacketDuration) = fast s := by
  unfold AudioValidationStats.recordGap
  split_ifs <;> rfl

theorem recordBuffering_fast : fast (s.recordBuffering interval previousDuration) = fast s := by
  unfold AudioValidationStats.recordBuffering
  split_ifs <;> rfl

theorem recordSpeedChange_fast : fast (s.recordSpeedChange interval previousDuration) = fast s := by
  have hfast : ∀ quick all, fast { s with
      rtpSpeedChangeTotalFastUs := quick, rtpSpeedChangeTotalAbsUs := all } = fast s :=
    fun _ _ ↦ rfl
  have hslow : ∀ slow all, fast { s with
      rtpSpeedChangeTotalSlowUs := slow, rtpSpeedChangeTotalAbsUs := all } = fast s :=
    fun _ _ ↦ rfl
  simp only [AudioValidationStats.recordSpeedChange]
  split_ifs
  · exact hfast _ _
  · exact hslow _ _
  · rfl

theorem recordFastInterval_fast :
    fast (s.recordFastInterval segment sequence previousSequence interval previousDuration) =
      if interval + localObserverJitterAllowance < previousDuration then keepFast (fast s) interval
      else fast s := by
  by_cases hfast : interval + localObserverJitterAllowance < previousDuration
  · rw [AudioValidationStats.recordFastInterval, if_pos hfast, if_pos hfast]
    rfl
  · rw [AudioValidationStats.recordFastInterval, if_neg hfast, if_neg hfast]

end Stats

theorem recordInterval_fast (acc : Timed.AudioValidationAccumulator) (interval duration : ℕ)
    (sequence : UInt16) :
    fast (acc.recordInterval interval duration sequence).stats =
      acc.lastPacketDuration.elim (fast acc.stats) fun previousDuration ↦
        if interval + localObserverJitterAllowance < previousDuration then
          keepFast (fast acc.stats) interval
        else fast acc.stats := by
  have hstats : ∀ (stats : AudioValidationStats) (rtpInterArrival : Timed.AudioIntervalStats),
      fast { stats with rtpInterArrival } = fast stats := fun _ _ ↦ rfl
  unfold Timed.AudioValidationAccumulator.recordInterval
  cases acc.lastPacketDuration with
  | none => simp only [hstats, recordGap_fast, Option.elim_none]
  | some previousDuration =>
    have hkept := recordFastInterval_fast
      (acc.stats.recordGap acc.segment sequence acc.lastPacketSequence interval
        (some previousDuration)) acc.segment sequence acc.lastPacketSequence interval previousDuration
    rw [recordGap_fast] at hkept
    rw [Option.elim_some, ← hkept]
    simp only [hstats]
    split_ifs
    · rw [recordSpeedChange_fast, recordBuffering_fast]
    · rfl

theorem recordObserved_fast {acc : Timed.AudioValidationAccumulator} {marks : List Mark}
    (h : acc.Measured marks) (packet : ObservedOpusPacket) (declaredSamples : UInt32)
    (observedAt : ℕ) :
    fast (acc.recordObserved packet declaredSamples observedAt).stats =
      ((Watch.after marks).last.bind (fastInterval observedAt)).elim (fast acc.stats)
        (keepFast (fast acc.stats)) := by
  have hcounted : fast (acc.countObserved packet declaredSamples).stats = fast acc.stats :=
    recordOpusDurationEvidence_fast acc.stats declaredSamples
  have hrecorded : fast (acc.recordObserved packet declaredSamples observedAt).stats =
      fast ((acc.countObserved packet declaredSamples).recordInterArrival observedAt
        (packetDurationOf declaredSamples) packet.sequence).stats := rfl
  have hat := h.lastAt
  have hduration := h.lastDuration
  rw [hrecorded, Timed.AudioValidationAccumulator.recordInterArrival]
  cases hlast : (Watch.after marks).last with
  | none =>
    rw [hlast] at hat
    have hnone : (acc.countObserved packet declaredSamples).lastObservedAt = none := hat
    rw [hnone, Option.bind_none, Option.elim_none]
    exact hcounted
  | some before =>
    rw [hlast] at hat hduration
    have hsome : (acc.countObserved packet declaredSamples).lastObservedAt = some before.1 := hat
    have hlong : (acc.countObserved packet declaredSamples).lastPacketDuration = some before.2 :=
      hduration
    have hinterval := recordInterval_fast (acc.countObserved packet declaredSamples)
      (observedAt - before.1) (packetDurationOf declaredSamples)
      packet.sequence
    rw [hlong, hcounted, Option.elim_some] at hinterval
    rw [hsome, Option.bind_some, fastInterval]
    simp only
    rw [hinterval]
    split_ifs <;> rfl

/-- The interval between two packets that follow one another, where it is a fast one. -/
def fastIntervalOf : List (ℕ × ℕ) → Option ℕ
  | [before, packet] => fastInterval packet.1 before
  | _ => none

def fastIntervals (marks : List Mark) : List ℕ :=
  (runWindows 2 (marks.map Mark.timing)).filterMap fastIntervalOf

def spanRatioPpm (run : List (ℕ × ℕ)) : ℕ :=
  Timed.mediaToWallClockRatioPpmDuration (run.map Prod.snd).sum (span run)

def longWindowRatios (marks : List Mark) : List ℕ :=
  (runWindows observerTempoWindowPackets (marks.map Mark.timing)).map spanRatioPpm

theorem fastIntervals_cut (marks : List Mark) :
    fastIntervals (marks ++ [.cut]) = fastIntervals marks := by
  rw [fastIntervals, List.map_append, List.map_singleton, Mark.timing, runWindows_concat_none]
  rfl

theorem fastIntervalOf_pair (before : ℕ × ℕ) (start duration : ℕ) :
    fastIntervalOf [before, (start, duration)] = fastInterval start before := rfl

theorem fastIntervals_item (marks : List Mark) (start duration : ℕ) :
    fastIntervals (marks ++ [.item start duration]) =
      fastIntervals marks ++ ((Watch.after marks).last.bind (fastInterval start)).toList := by
  have htwo : 0 < 2 := by decide
  rw [fastIntervals, List.map_append, List.map_singleton, Mark.timing, runWindows_concat_some htwo,
    List.filterMap_append, lastWindow_two, Watch.last_eq, fastIntervals]
  cases (currentRun (marks.map Mark.timing)).getLast? with
  | none => rw [Option.map_none, Option.bind_none, Option.toList_none, Option.toList_none,
      List.filterMap_nil]
  | some before =>
    rw [Option.map_some, Option.toList_some, List.filterMap_cons, Option.bind_some,
      fastIntervalOf_pair]
    cases fastInterval start before with
    | none => rw [Option.toList_none, List.filterMap_nil]
    | some interval => rw [Option.toList_some, List.filterMap_nil]

theorem longWindowRatios_cut (marks : List Mark) :
    longWindowRatios (marks ++ [.cut]) = longWindowRatios marks := by
  rw [longWindowRatios, List.map_append, List.map_singleton, Mark.timing, runWindows_concat_none]
  rfl

theorem longWindowRatios_item (marks : List Mark) (start duration : ℕ) :
    longWindowRatios (marks ++ [.item start duration]) = longWindowRatios marks ++
      ((lastWindow observerTempoWindowPackets
        (currentRun (marks.map Mark.timing) ++ [(start, duration)])).map spanRatioPpm).toList := by
  rw [longWindowRatios, List.map_append, List.map_singleton, Mark.timing,
    runWindows_concat_some observerTempoWindowPackets_pos, List.map_append, Option.toList_map]
  rfl

/-- What is kept of the long windows: how many, and the least ratio. -/
def long (s : TempoWindowStats) : ℕ × ℕ := (s.count, s.minRatioPpm)

def keepLong (kept : ℕ × ℕ) (ratio : ℕ) : ℕ × ℕ := (saturatingAdd kept.1 1, keep 0 kept.2 ratio)

namespace TempoWindowStats

variable (s : TempoWindowStats) (segment : ObserverPlaybackSegment)
  (timings : List ObservedPacketTiming)

theorem recordFast_long (ratio media wallClock : ℕ) :
    long (s.recordFast ratio media wallClock) = long s := by
  simp only [recordFast]
  split_ifs <;> rfl

theorem recordSlow_long (ratio media wallClock : ℕ) :
    long (s.recordSlow ratio media wallClock) = long s := by
  simp only [recordSlow]
  split_ifs <;> rfl

theorem recordLatestShort_long (windowPacketCount : ℕ) :
    long (recordLatestShort segment timings s windowPacketCount) = long s := by
  by_cases hshort : timings.length < windowPacketCount
  · rw [recordLatestShort, if_pos hshort]
  · rw [recordLatestShort, if_neg hshort]
    simp only
    split <;> rfl

theorem recordLatestLong_long :
    long (s.recordLatestLong timings) =
      ((lastWindow observerTempoWindowPackets
        (timings.map fun t ↦ (t.observedAt, t.duration))).map spanRatioPpm).elim (long s)
        (keepLong (long s)) := by
  rw [lastWindow_map]
  by_cases hshort : timings.length < observerTempoWindowPackets
  · rw [recordLatestLong, if_pos hshort, lastWindow_of_short hshort]
    rfl
  · have hfits : observerTempoWindowPackets ≤ timings.length := Nat.le_of_not_lt hshort
    obtain ⟨hlast, hsome⟩ := lastWindow_of_fits observerTempoWindowPackets_pos hfits
    rw [recordLatestLong, if_neg hshort, hlast]
    generalize timings.drop (timings.length - observerTempoWindowPackets) = window at hsome ⊢
    have hspan := windowDurations_span (window.map fun t ↦ (t.observedAt, t.duration))
      (by simpa using hsome)
    rw [List.map_map, List.map_map] at hspan
    cases hfirst : window.head? with
    | none => exact absurd (List.head?_eq_none_iff.mp hfirst) hsome
    | some first =>
      simp only [Function.comp_def] at hspan
      simp only [hspan, hfirst, recordSlow_long, recordFast_long]
      rw [Option.map_some, Option.map_some, Option.elim_some, keepLong, spanRatioPpm, List.map_map]
      rfl

theorem recordLatest_long :
    long (s.recordLatest segment timings) =
      ((lastWindow observerTempoWindowPackets
        (timings.map fun t ↦ (t.observedAt, t.duration))).map spanRatioPpm).elim (long s)
        (keepLong (long s)) := by
  have hshort : long (observerShortTempoWindowPackets.foldl (recordLatestShort segment timings) s) =
      long s := by
    rw [observerShortTempoWindowPackets, List.foldl_cons, List.foldl_cons, List.foldl_nil,
      recordLatestShort_long, recordLatestShort_long]
  rw [recordLatest, recordLatestLong_long, hshort]

end TempoWindowStats

def fastKept (intervals : List ℕ) : ℕ × ℕ × ℕ :=
  (u64Counter intervals.length, shown 0 (intervals.map durationMs), shown 0 (intervals.map durationUs))

def longKept (ratios : List ℕ) : ℕ × ℕ := (u64Counter ratios.length, shown 0 ratios)

theorem fastKept_grows (intervals : List ℕ) (new : Option ℕ) :
    fastKept (intervals ++ new.toList) =
      new.elim (fastKept intervals) (keepFast (fastKept intervals)) := by
  cases new with
  | none =>
    rw [Option.toList_none, List.append_nil]
    rfl
  | some interval =>
    rw [Option.toList_some, Option.elim_some, keepFast, fastKept, List.map_append, List.map_append,
      List.map_singleton, List.map_singleton, shown_concat, shown_concat, List.length_append,
      List.length_singleton, ← u64Counter_succ]
    rfl

theorem longKept_grows (ratios : List ℕ) (new : Option ℕ) :
    longKept (ratios ++ new.toList) = new.elim (longKept ratios) (keepLong (longKept ratios)) := by
  cases new with
  | none =>
    rw [Option.toList_none, List.append_nil]
    rfl
  | some ratio =>
    rw [Option.toList_some, Option.elim_some, keepLong, longKept, shown_concat, List.length_append,
      List.length_singleton, ← u64Counter_succ]
    rfl

namespace AudioValidationAccumulator

def run (calls : List Call) : AudioValidationAccumulator := calls.foldl call new

def timeline (calls : List Call) : List Mark := calls.flatMap Call.marks

/-- The accumulator has the packets of the run it is in, and the least of all fast intervals and of all
windows, as far as the mark for none lets it. -/
structure Keeps (acc : AudioValidationAccumulator) (marks : List Mark) : Prop where
  measured : acc.toTimed.Measured marks
  timings : acc.observedPacketTimings.map (fun t ↦ (t.observedAt, t.duration)) =
    currentRun (marks.map Mark.timing)
  intervals : fast acc.stats = fastKept (fastIntervals marks)
  ratios : long acc.tempo = longKept (longWindowRatios marks)

theorem recordObserved_timings (acc : Timed.AudioValidationAccumulator)
    (packet : ObservedOpusPacket) (declaredSamples : UInt32) (observedAt : ℕ) :
    (acc.recordObserved packet declaredSamples observedAt).observedPacketTimings =
      acc.observedPacketTimings ++ [⟨observedAt, packetDurationOf declaredSamples,
        durationMs acc.decodedAudioDuration, packet.sequence⟩] := by
  have hkept : ((acc.countObserved packet declaredSamples).recordInterArrival observedAt
      (packetDurationOf declaredSamples) packet.sequence).observedPacketTimings =
        acc.observedPacketTimings := by
    unfold Timed.AudioValidationAccumulator.recordInterArrival
      Timed.AudioValidationAccumulator.recordInterval
    cases (acc.countObserved packet declaredSamples).lastObservedAt with
    | none => rfl
    | some previous => cases (acc.countObserved packet declaredSamples).lastPacketDuration <;> rfl
  rw [← hkept]
  rfl

theorem Keeps.item {acc : AudioValidationAccumulator} {marks : List Mark} (h : acc.Keeps marks)
    (packet : ObservedOpusPacket) (declaredSamples : UInt32) (observedAt : ℕ) :
    (acc.call (.recordObserved packet declaredSamples observedAt)).Keeps
      (marks ++ [.item observedAt (packetDurationOf declaredSamples)]) := by
  have htimings : (acc.toTimed.recordObserved packet declaredSamples
      observedAt).observedPacketTimings.map (fun t ↦ (t.observedAt, t.duration)) =
      currentRun (marks.map Mark.timing) ++ [(observedAt, packetDurationOf declaredSamples)] := by
    rw [recordObserved_timings, List.map_append, h.timings]
    rfl
  have hcall : acc.call (.recordObserved packet declaredSamples observedAt) =
      acc.withPacket (acc.toTimed.recordObserved packet declaredSamples observedAt) := rfl
  refine ⟨?_, ?_, ?_, ?_⟩
  · exact Timed.AudioValidationAccumulator.call_measured h.measured _
  · rw [List.map_append, List.map_singleton, Mark.timing, currentRun_concat_some]
    exact htimings
  · rw [fastIntervals_item, fastKept_grows, ← h.intervals]
    exact recordObserved_fast h.measured packet declaredSamples observedAt
  · rw [hcall, withPacket, TempoWindowStats.recordLatest_long, htimings, longWindowRatios_item,
      longKept_grows, h.ratios]

theorem Keeps.cut {acc after : AudioValidationAccumulator} {marks : List Mark} (h : acc.Keeps marks)
    (hmeasured : after.toTimed.Measured (marks ++ [.cut]))
    (htimings : after.observedPacketTimings = []) (hstats : after.stats = acc.stats)
    (htempo : after.tempo = acc.tempo) : after.Keeps (marks ++ [.cut]) := by
  refine ⟨hmeasured, ?_, ?_, ?_⟩
  · rw [htimings, List.map_append, List.map_singleton, Mark.timing, currentRun_concat_none]
    rfl
  · rw [hstats, fastIntervals_cut]
    exact h.intervals
  · rw [htempo, longWindowRatios_cut]
    exact h.ratios

theorem call_keeps {acc : AudioValidationAccumulator} {marks : List Mark} (h : acc.Keeps marks)
    (x : Call) : (acc.call x).Keeps (marks ++ x.marks) := by
  have hmeasured := Timed.AudioValidationAccumulator.call_measured h.measured x
  cases x with
  | recordObserved packet declaredSamples observedAt =>
    exact h.item packet declaredSamples observedAt
  | resetInterArrivalBaseline => exact h.cut hmeasured rfl rfl rfl
  | startControlledPause =>
    rw [Call.marks, List.append_nil]
    exact ⟨h.measured, h.timings, h.intervals, h.ratios⟩
  | resetWallClockBaselineAfterControlledPause => exact h.cut hmeasured rfl rfl rfl
  | startNaturalEndDrain =>
    rw [Call.marks, List.append_nil]
    exact ⟨h.measured, h.timings, h.intervals, h.ratios⟩

theorem run_keeps (calls : List Call) : (run calls).Keeps (timeline calls) := by
  induction calls using List.reverseRecOn with
  | nil => exact ⟨.nothing, rfl, rfl, rfl⟩
  | append_singleton calls x ih =>
    rw [run, timeline, List.foldl_concat, List.flatMap_append, List.flatMap_singleton]
    exact call_keeps ih x

def fastIntervalsMs (calls : List Call) : List ℕ := (fastIntervals (timeline calls)).map durationMs

def fastIntervalsUs (calls : List Call) : List ℕ := (fastIntervals (timeline calls)).map durationUs

def windowRatios (calls : List Call) : List ℕ := longWindowRatios (timeline calls)

/-- The minima of the statistics are minima once there is a fast interval, or a long window. -/
structure MinimaAreMinima (calls : List Call) : Prop where
  ms : KeepsMinimum (fun calls ↦ 0 < (run calls).stats.rtpFastIntervalCount)
    (fun calls ↦ (run calls).stats.rtpFastIntervalMinMs) fastIntervalsMs calls
  us : KeepsMinimum (fun calls ↦ 0 < (run calls).stats.rtpFastIntervalCount)
    (fun calls ↦ (run calls).stats.rtpFastIntervalMinUs) fastIntervalsUs calls
  ratio : KeepsMinimum (fun calls ↦ 0 < (run calls).tempo.count)
    (fun calls ↦ (run calls).tempo.minRatioPpm) windowRatios calls

theorem marks_grow (x : Call) (marks : List Mark) :
    (∃ new : Option ℕ, fastIntervals (marks ++ x.marks) = fastIntervals marks ++ new.toList) ∧
      ∃ new : Option ℕ, longWindowRatios (marks ++ x.marks) = longWindowRatios marks ++ new.toList := by
  have hcut : ∀ shown : List Mark → List ℕ, shown (marks ++ [.cut]) = shown marks →
      ∃ new : Option ℕ, shown (marks ++ [.cut]) = shown marks ++ new.toList := by
    intro shown hsame
    exact ⟨none, by rw [hsame, Option.toList_none, List.append_nil]⟩
  have hnothing : ∀ shown : List Mark → List ℕ,
      ∃ new : Option ℕ, shown (marks ++ []) = shown marks ++ new.toList := by
    intro shown
    exact ⟨none, by rw [Option.toList_none, List.append_nil, List.append_nil]⟩
  cases x with
  | recordObserved packet declaredSamples observedAt =>
    exact ⟨⟨_, fastIntervals_item ..⟩, ⟨_, longWindowRatios_item ..⟩⟩
  | resetInterArrivalBaseline =>
    exact ⟨hcut _ (fastIntervals_cut marks), hcut _ (longWindowRatios_cut marks)⟩
  | startControlledPause => exact ⟨hnothing _, hnothing _⟩
  | resetWallClockBaselineAfterControlledPause =>
    exact ⟨hcut _ (fastIntervals_cut marks), hcut _ (longWindowRatios_cut marks)⟩
  | startNaturalEndDrain => exact ⟨hnothing _, hnothing _⟩

theorem timeline_concat (calls : List Call) (x : Call) :
    timeline (calls ++ [x]) = timeline calls ++ x.marks := by
  rw [timeline, List.flatMap_append, List.flatMap_singleton]
  rfl

theorem fastIntervals_grow (duration : ℕ → ℕ) :
    Grows fun calls ↦ (fastIntervals (timeline calls)).map duration where
  nil := rfl
  concat calls x := by
    obtain ⟨new, hnew⟩ := (marks_grow x (timeline calls)).1
    refine ⟨new.map duration, ?_⟩
    rw [timeline_concat, hnew, List.map_append, Option.toList_map]

theorem windowRatios_grow : Grows windowRatios where
  nil := rfl
  concat calls x := by
    obtain ⟨new, hnew⟩ := (marks_grow x (timeline calls)).2
    exact ⟨new, by rw [windowRatios, timeline_concat, hnew]; rfl⟩

theorem run_fast (calls : List Call) :
    (run calls).stats.rtpFastIntervalMinMs = shown 0 (fastIntervalsMs calls) ∧
      (run calls).stats.rtpFastIntervalMinUs = shown 0 (fastIntervalsUs calls) ∧
      ∀ duration : ℕ → ℕ, 0 < (run calls).stats.rtpFastIntervalCount ↔
        (fastIntervals (timeline calls)).map duration ≠ [] := by
  have hintervals := (run_keeps calls).intervals
  have hcount : (run calls).stats.rtpFastIntervalCount =
      u64Counter (fastIntervals (timeline calls)).length := congrArg (·.1) hintervals
  refine ⟨congrArg (·.2.1) hintervals, congrArg (·.2.2) hintervals, ?_⟩
  intro duration
  rw [hcount, u64Counter_pos, Ne, Ne, List.length_eq_zero_iff, List.map_eq_nil_iff]

theorem run_long (calls : List Call) :
    (run calls).tempo.minRatioPpm = shown 0 (windowRatios calls) ∧
      (0 < (run calls).tempo.count ↔ windowRatios calls ≠ []) := by
  have hratios := (run_keeps calls).ratios
  have hcount : (run calls).tempo.count = u64Counter (windowRatios calls).length :=
    congrArg (·.1) hratios
  refine ⟨congrArg (·.2) hratios, ?_⟩
  rw [hcount, u64Counter_pos, Ne, Ne, List.length_eq_zero_iff]

/-- The minima are minima, and never increase, exactly where no fast interval of less than a
millisecond, or less than a microsecond, is followed by one that is not, and no ratio of zero by a
greater one. -/
theorem minimaAreMinima_iff (calls : List Call) :
    MinimaAreMinima calls ↔ MarkLast 0 (fastIntervalsMs calls) ∧ MarkLast 0 (fastIntervalsUs calls) ∧
      MarkLast 0 (windowRatios calls) := by
  have hzero : IsBot 0 := fun n : ℕ ↦ Nat.zero_le n
  have hms := (fastIntervals_grow durationMs).keepsMinimum_iff hzero
    (fun calls ↦ (run_fast calls).2.2 durationMs) (fun calls ↦ (run_fast calls).1) calls
  have hus := (fastIntervals_grow durationUs).keepsMinimum_iff hzero
    (fun calls ↦ (run_fast calls).2.2 durationUs) (fun calls ↦ (run_fast calls).2.1) calls
  have hratio := windowRatios_grow.keepsMinimum_iff hzero (fun calls ↦ (run_long calls).2)
    (fun calls ↦ (run_long calls).1) calls
  constructor
  · intro h
    exact ⟨hms.mp h.ms, hus.mp h.us, hratio.mp h.ratio⟩
  · rintro ⟨hmsLast, husLast, hratioLast⟩
    exact ⟨hms.mpr hmsLast, hus.mpr husLast, hratio.mpr hratioLast⟩

/-- Three packets of 20 ms, the second half a millisecond after the first and the third 10 ms later. -/
def burst : List (ObservedOpusPacket × ℕ) :=
  [(⟨0, 0, [0xF8, 0xFF, 0xFE]⟩, 0), (⟨1, 960, [0xF8, 0xFF, 0xFE]⟩, 500000),
    (⟨2, 1920, [0xF8, 0xFF, 0xFE]⟩, 10500000)]

def burstCalls : List Call := burst.map fun packet ↦ .recordObserved packet.1 960 packet.2

/-- The observer accepts them and ends with 10 ms as the shortest interval. -/
theorem burst_forgotten :
    burst.foldlM (fun acc packet ↦ acc.observePacketAt packet.1 (.ok 960) packet.2) new =
        .ok (run burstCalls) ∧
      (run burstCalls).stats.rtpFastIntervalMinMs = 10 ∧ ¬MinimaAreMinima burstCalls := by
  refine ⟨rfl, rfl, ?_⟩
  intro h
  have hsome : 0 < (run burstCalls).stats.rtpFastIntervalCount := by decide +kernel
  have hshort : 0 ∈ fastIntervalsMs burstCalls := by decide +kernel
  have hle : (run burstCalls).stats.rtpFastIntervalMinMs ≤ 0 := (h.ms.isLeast hsome).2 hshort
  exact absurd hle (by decide +kernel)

end AudioValidationAccumulator

end DiscordVoice.Validation.Tempo
