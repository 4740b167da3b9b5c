import DiscordVoice.Media.ReportedSends
import DiscordVoice.Session.TempoWindows

namespace DiscordVoice.Session

open Playback RunSpans RunWindows

open Media.Timed (DeadlineSendRecord)

/-- What the pipeline hears of a playback that its collector measures the tempo by: a packet that was
sent, with what the pacer says of it, or that the clock was reset. -/
inductive SendMetric
  | senderSent (record : DeadlineSendRecord) (mediaClockReset tempoRebased : Bool)
  | senderMediaClockReset (reason : MediaClockResetReason)
  | senderResumedFromPause

namespace SendMetric

/-- What the pipeline calls of the collector. -/
def calls : SendMetric → List PlaybackStabilityCollector.Call
  | .senderSent record mediaClockReset tempoRebased =>
    (if mediaClockReset then [.recordMediaClockReset .schedulerLate] else []) ++
      if record.mediaFrame.isSome then
        [.recordTrackPacket record.expectedDeadline record.sendStartedAt record.durationSamples
          tempoRebased]
      else []
  | .senderMediaClockReset reason => [.recordMediaClockReset reason]
  | .senderResumedFromPause => [.recordResumedFromPause]

def record? : SendMetric → Option DeadlineSendRecord
  | .senderSent record _ _ => some record
  | .senderMediaClockReset _ => none
  | .senderResumedFromPause => none

end SendMetric

def sentRecords (metrics : List SendMetric) : List DeadlineSendRecord :=
  metrics.filterMap SendMetric.record?

def clockMarks (metrics : List SendMetric) : List Mark :=
  (metrics.flatMap SendMetric.calls).flatMap PlaybackStabilityCollector.Call.marks

def trackTiming (record : DeadlineSendRecord) : Option (ℕ × ℕ) :=
  record.mediaFrame.map fun _ ↦
    (record.sendStartedAt, durationFromSamples record.durationSamples.toNat)

theorem totalSpan_eq (marks : List Mark) :
    totalSpan marks = ((filledRuns (marks.map Mark.timing)).map span).sum := by
  rw [totalSpan, runs_eq, filledRuns]
  induction RunWindows.runs (marks.map Mark.timing) with
  | nil => rfl
  | cons run rest ih =>
    cases run with
    | nil =>
      rw [List.map_cons, List.sum_cons, ih]
      exact Nat.zero_add _
    | cons x run =>
      rw [List.map_cons, List.sum_cons, ih]
      rfl

theorem mediaSent_eq (marks : List Mark) :
    mediaSent marks = ((marks.map Mark.timing).reduceOption.map Prod.snd).sum := by
  induction marks with
  | nil => rfl
  | cons m marks ih =>
    cases m with
    | cut => exact ih
    | item start duration =>
      rw [mediaSent, ih]
      rfl

theorem starts_eq (marks : List Mark) :
    starts marks = (marks.map Mark.timing).reduceOption.map Prod.fst := by
  induction marks with
  | nil => rfl
  | cons m marks ih =>
    cases m with
    | cut => exact ih
    | item start duration => exact congrArg (start :: ·) ih

theorem packetsFrom_timing (media : ℕ) (marks : List Mark) :
    (packetsFrom media marks).map (Option.map fun packet ↦ (packet.sendStartedAt, packet.duration)) =
      marks.map Mark.timing := by
  induction marks generalizing media with
  | nil => rfl
  | cons m marks ih =>
    cases m with
    | cut => exact congrArg (none :: ·) (ih media)
    | item start duration => exact congrArg (some (start, duration) :: ·) (ih _)

theorem metric_heard (metric : SendMetric) :
    ((metric.calls.flatMap PlaybackStabilityCollector.Call.marks).map Mark.timing).reduceOption =
      (metric.record?.toList.map trackTiming).reduceOption := by
  cases metric with
  | senderSent record mediaClockReset tempoRebased =>
    simp only [SendMetric.calls, SendMetric.record?, trackTiming, Option.toList_some, List.map_cons]
    cases record.mediaFrame <;> cases mediaClockReset <;> rfl
  | senderMediaClockReset reason => cases reason <;> rfl
  | senderResumedFromPause => rfl

theorem clock_timings (metrics : List SendMetric) :
    ((clockMarks metrics).map Mark.timing).reduceOption =
      ((sentRecords metrics).map trackTiming).reduceOption := by
  induction metrics with
  | nil => rfl
  | cons metric metrics ih =>
    have hmarks : clockMarks (metric :: metrics) =
        metric.calls.flatMap PlaybackStabilityCollector.Call.marks ++ clockMarks metrics := by
      rw [clockMarks, List.flatMap_cons, List.flatMap_append]
      rfl
    have hrecords : sentRecords (metric :: metrics) =
        metric.record?.toList ++ sentRecords metrics := by
      rw [sentRecords, List.filterMap_cons]
      cases metric.record? <;> rfl
    rw [hmarks, hrecords, List.map_append, List.map_append, List.reduceOption_append,
      List.reduceOption_append, metric_heard, ih]

section Sender

open PlaybackStabilityCollector

theorem length_trackWindows (calls : List PlaybackStabilityCollector.Call) :
    (trackWindows calls).length = ((filledRuns ((calls.flatMap Call.marks).map Mark.timing)).map
      fun run ↦ run.length + 1 - trackTempoWindowPackets).sum := by
  rw [trackWindows, length_runWindows trackTempoWindowPackets_pos, packetMarks,
    ← packetsFrom_timing 0 (calls.flatMap Call.marks), filledRuns_map, List.map_map]
  simp only [Function.comp_def, List.length_map]

theorem recordTrackPacket_trackPacketCount (c : PlaybackStabilityCollector)
    (expectedDeadline sendStartedAt : ℕ) (durationSamples : UInt32) (tempoRebased : Bool) :
    (c.recordTrackPacket expectedDeadline sendStartedAt durationSamples
      tempoRebased).trackPacketCount = saturatingAdd c.trackPacketCount 1 := by
  cases hlast : c.lastTrackSendStartedAt with
  | none => simp only [recordTrackPacket, recordAnyPacket, hlast]
  | some previous =>
    simp only [recordTrackPacket, recordAnyPacket, hlast, recordInterval]
    rw [recordFastInterval_eq]

theorem call_trackPacketCount {x : PlaybackStabilityCollector.Call}
    (hx : ∀ other, x ≠ .elsewhere other) {c : PlaybackStabilityCollector} {n : ℕ}
    (hcount : c.trackPacketCount = u64Counter n) :
    c.call x = c.windowCall x ∧ (c.call x).trackPacketCount =
      u64Counter (n + (x.marks.map Mark.timing).reduceOption.length) := by
  cases x with
  | recordTrackPacket expectedDeadline sendStartedAt durationSamples tempoRebased =>
    refine ⟨rfl, ?_⟩
    rw [call, recordTrackPacket_trackPacketCount, hcount, u64Counter_succ]
    rfl
  | recordMediaClockReset reason =>
    refine ⟨rfl, ?_⟩
    cases reason <;> exact hcount
  | recordResumedFromPause => exact ⟨rfl, hcount⟩
  | elsewhere other => exact absurd rfl (hx other)

theorem run_trackPacketCount {calls : List PlaybackStabilityCollector.Call}
    (hcalls : ∀ x ∈ calls, ∀ other, x ≠ .elsewhere other) {c : PlaybackStabilityCollector} {n : ℕ}
    (hcount : c.trackPacketCount = u64Counter n) :
    calls.foldl call c = calls.foldl windowCall c ∧ (calls.foldl call c).trackPacketCount =
      u64Counter (n + ((calls.flatMap Call.marks).map Mark.timing).reduceOption.length) := by
  induction calls generalizing c n with
  | nil => exact ⟨rfl, hcount⟩
  | cons x calls ih =>
    obtain ⟨hsame, hnext⟩ := call_trackPacketCount (hcalls x List.mem_cons_self) hcount
    obtain ⟨hrest, hlast⟩ := ih (fun y hy ↦ hcalls y (List.mem_cons_of_mem _ hy)) hnext
    rw [List.foldl_cons, List.foldl_cons, hlast, hrest, hsame, List.flatMap_cons, List.map_append,
      List.reduceOption_append, List.length_append, Nat.add_assoc]
    exact ⟨rfl, rfl⟩

theorem calls_direct (metrics : List SendMetric) :
    ∀ x ∈ metrics.flatMap SendMetric.calls, ∀ other, x ≠ .elsewhere other := by
  rintro x hx other rfl
  obtain ⟨metric, -, hmem⟩ := List.mem_flatMap.mp hx
  cases metric with
  | senderSent record mediaClockReset tempoRebased =>
    rcases List.mem_append.mp hmem with h | h
    all_goals
      split at h
      · cases List.mem_singleton.mp h
      · cases h
  | senderMediaClockReset reason => cases List.mem_singleton.mp hmem
  | senderResumedFromPause => cases List.mem_singleton.mp hmem

/-- What the collector has counted of the stretches of the track. -/
structure CountsRuns (runs : List (List (ℕ × ℕ))) (c : PlaybackStabilityCollector) : Prop where
  packets : c.trackPacketCount = u64Counter runs.flatten.length
  media : c.trackMediaDurationSent = min (runs.flatten.map Prod.snd).sum durationMax
  elapsed : c.activeTrackWallClockElapsed = (runs.map span).sum
  windows : c.tempoWindow.count =
    u64Counter (runs.map fun run ↦ run.length + 1 - trackTempoWindowPackets).sum

/-- The collector counts the stretches of the track between the resets of its clock. -/
theorem collector_countsRuns {metrics : List SendMetric}
    (hmono : (starts (clockMarks metrics)).Pairwise (· ≤ ·)) :
    CountsRuns (filledRuns ((clockMarks metrics).map Mark.timing))
      ((metrics.flatMap SendMetric.calls).foldl call new) := by
  obtain ⟨hsame, hcount⟩ := run_trackPacketCount (calls_direct metrics)
    (show new.trackPacketCount = u64Counter 0 from rfl)
  have hmeasured := run_measured (metrics.flatMap SendMetric.calls)
  have hsees := run_sees (metrics.flatMap SendMetric.calls)
  refine ⟨?_, ?_, ?_, ?_⟩
  · rw [hcount, Nat.zero_add, flatten_filledRuns]
    rfl
  · rw [hsame, hsees.media, mediaSent_eq, flatten_filledRuns]
    rfl
  · rw [hmeasured.elapsed, ← totalSpan_eq]
    exact total_eq hmono
  · rw [hsame, hsees.counts.count]
    exact congrArg u64Counter (length_trackWindows _)

end Sender

end DiscordVoice.Session
