import DiscordVoice.Session.SendMetrics
import DiscordVoice.Validation.RawPlayback
import DiscordVoice.Validation.SendOrder

namespace DiscordVoice.Validation

open Fallible Checking RunWindows RunSpans Playback Session Twilight

open Media.Timed (DeadlineSendRecord Reported silencePass trackPasses)

/-- Between two packets of the track the clock was reset if and only if another packet was sent. -/
def CutBySilence (metrics : List SendMetric) : Prop :=
  filledRuns ((clockMarks metrics).map Mark.timing) =
    filledRuns ((sentRecords metrics).map trackTiming)

/-- The playback is short enough for the clocks and counters of 64 bits. -/
structure FitsClocks (metrics : List SendMetric) : Prop where
  clock : ∀ r ∈ sentRecords metrics, r.sendStartedAt < 2 ^ 64
  length : (sentRecords metrics).length < 2 ^ 64
  media : mediaSent (clockMarks metrics) < 2 ^ 64
  elapsed : totalSpan (clockMarks metrics) < 2 ^ 64

/-- The packets of the track among those that were sent, with their numbers. -/
def heardSends (records : List DeadlineSendRecord) : List (Option (DeadlineSendRecord × ℕ)) :=
  records.zipIdx.map fun sent ↦ if sent.1.mediaFrame.isSome then some sent else none

def sendTiming (sent : DeadlineSendRecord × ℕ) : ℕ × ℕ :=
  (sent.1.sendStartedAt, durationFromSamples sent.1.durationSamples.toNat)

def rawSend (base : ℕ) (sent : DeadlineSendRecord × ℕ) : RawTrackSend where
  packetIndex := sent.2
  sendStartedOffsetUs := Evidence.instantOffsetMicros base sent.1.sendStartedAt
  durationUs := durationUsFromSamples sent.1.durationSamples
  durationMs := sent.1.durationMs
  durationSamples := sent.1.durationSamples
  mediaPositionMs := (sent.1.mediaFrame.map (·.mediaPositionMs)).getD 0
  mediaPositionSamples := (sent.1.mediaFrame.map (·.mediaPositionSamples)).getD 0

def rawTiming (track : RawTrackSend) : ℕ × ℕ := (track.sendStartedOffsetUs, track.durationUs)

section Gate

open Evidence

variable {records : List DeadlineSendRecord} {base : ℕ}

theorem seenSend_placed {r : DeadlineSendRecord} (hmedia : CarriesMedia r) (i : ℕ) :
    Placed (seenSend base (sendEventRecord i r)) ∧
      rawItem (seenSend base (sendEventRecord i r)) =
        Option.map (rawSend base) (if r.mediaFrame.isSome then some (r, i) else none) := by
  have hkind : (seenSend base (sendEventRecord i r)).commandKind =
      .of (Media.playbackSendCommandKind r.kind) := fromRaw_mapSendCommandKind _
  have htrack : (seenSend base (sendEventRecord i r)).commandKind = .track ↔ r.kind = .track := by
    rw [hkind]
    cases r.kind <;> decide
  unfold CarriesMedia at hmedia
  split at hmedia
  · rename_i hrecord
    obtain ⟨frame, hframe⟩ := Option.ne_none_iff_exists'.mp hmedia.1
    have hms : (seenSend base (sendEventRecord i r)).sourceMediaPositionMs =
        some frame.mediaPositionMs := congrArg (Option.map _) hframe
    have hsamples : (seenSend base (sendEventRecord i r)).sourceMediaPositionSamples =
        some frame.mediaPositionSamples := congrArg (Option.map _) hframe
    refine ⟨fun _ ↦ ⟨by simp [hms], by simp [hsamples]⟩, ?_⟩
    have hsend : rawTrackSend "" (seenSend base (sendEventRecord i r)) = .ok (rawSend base (r, i)) := by
      refine rawTrackSend_ok_iff.mpr ⟨_, hms, _, hsamples, ?_⟩
      rw [rawSend, hframe]
      rfl
    rw [rawItem_track (htrack.mpr hrecord) hsend, hframe]
    rfl
  · rename_i hrecord
    refine ⟨fun h ↦ absurd (htrack.mp h) hrecord, ?_⟩
    rw [rawItem, if_neg fun h ↦ hrecord (htrack.mp h), hmedia]
    rfl

theorem rawItems_eq (hmedia : ∀ r ∈ records, CarriesMedia r) :
    (seenSends base records).map rawItem = (heardSends records).map (Option.map (rawSend base)) := by
  rw [seenSends, heardSends, List.map_map, List.map_map]
  refine List.map_congr_left fun sent hsent ↦ ?_
  exact (seenSend_placed (hmedia sent.1 (List.fst_mem_of_mem_zipIdx hsent)) sent.2).2

theorem trackTimings_eq (records : List DeadlineSendRecord) :
    records.map trackTiming = (heardSends records).map (Option.map sendTiming) := by
  conv_lhs => rw [← records.zipIdx_map_fst 0]
  rw [heardSends, List.map_map, List.map_map]
  refine List.map_congr_left fun sent _ ↦ ?_
  simp only [Function.comp_apply, trackTiming]
  cases sent.1.mediaFrame <;> rfl

theorem addWallClock_eq (n : ℕ) (segment : List RawTrackSend) :
    addWallClock (u64Counter n) segment = u64Counter (n + span (segment.map rawTiming)) := by
  unfold addWallClock span
  rw [List.head?_map, List.getLast?_map]
  cases segment.head? with
  | none => rfl
  | some first =>
    cases segment.getLast? with
    | none => rfl
    | some last =>
      simp only [u64Counter_add, Option.map_some, rawTiming, Nat.add_assoc]

theorem foldl_addWallClock (n : ℕ) (segments : List (List RawTrackSend)) :
    segments.foldl addWallClock (u64Counter n) =
      u64Counter (n + (segments.map fun segment ↦ span (segment.map rawTiming)).sum) := by
  induction segments generalizing n with
  | nil => rfl
  | cons segment segments ih =>
    rw [List.foldl_cons, addWallClock_eq, ih, List.map_cons, List.sum_cons, Nat.add_assoc]

theorem duration_whole {samples : UInt32} (hwhole : 6 ∣ samples.toNat) :
    durationUsFromSamples samples * 1000 = durationFromSamples samples.toNat := by
  have hlt := samples.toNat_lt
  obtain ⟨k, hk⟩ := hwhole
  unfold durationUsFromSamples durationFromSamples
  omega

theorem span_micros {run : List (DeadlineSendRecord × ℕ)}
    (hwhole : ∀ sent ∈ run, 6 ∣ sent.1.durationSamples.toNat)
    (hclock : ∀ sent ∈ run, base ≤ sent.1.sendStartedAt ∧ sent.1.sendStartedAt < 2 ^ 64)
    (hmono : run.Pairwise fun a b ↦ a.1.sendStartedAt ≤ b.1.sendStartedAt) :
    1000 * span ((run.map (rawSend base)).map rawTiming) < span (run.map sendTiming) + 1000 ∧
      span (run.map sendTiming) < 1000 * span ((run.map (rawSend base)).map rawTiming) + 1000 := by
  cases run with
  | nil => simp [span]
  | cons first run =>
    obtain ⟨last, hlast⟩ : ∃ last, (first :: run).getLast? = some last := ⟨_, List.getLast?_cons⟩
    have hmem := List.mem_of_getLast? hlast
    have hle : first.1.sendStartedAt ≤ last.1.sendStartedAt := by
      rcases List.mem_cons.mp hmem with rfl | h
      · exact le_rfl
      · exact (List.pairwise_cons.mp hmono).1 last h
    have hduration := duration_whole (hwhole last hmem)
    obtain ⟨hbase, hfirst⟩ := hclock first List.mem_cons_self
    obtain ⟨-, hlater⟩ := hclock last hmem
    rw [List.map_map, span, span, List.getLast?_map, List.getLast?_map, hlast, List.map_cons,
      List.map_cons, List.head?_cons, List.head?_cons]
    simp only [Option.map_some, Function.comp_apply, rawTiming, rawSend, sendTiming,
      instantOffsetMicros, durationMicros]
    omega

theorem sum_spans_micros (runs : List (List (DeadlineSendRecord × ℕ)))
    (hrun : ∀ run ∈ runs,
      1000 * span ((run.map (rawSend base)).map rawTiming) < span (run.map sendTiming) + 1000 ∧
        span (run.map sendTiming) < 1000 * span ((run.map (rawSend base)).map rawTiming) + 1000) :
    1000 * (runs.map fun run ↦ span ((run.map (rawSend base)).map rawTiming)).sum ≤
        (runs.map fun run ↦ span (run.map sendTiming)).sum + 1000 * runs.length ∧
      (runs.map fun run ↦ span (run.map sendTiming)).sum ≤
        1000 * (runs.map fun run ↦ span ((run.map (rawSend base)).map rawTiming)).sum +
          1000 * runs.length := by
  induction runs with
  | nil => simp
  | cons run runs ih =>
    obtain ⟨hupper, hlower⟩ := hrun run List.mem_cons_self
    obtain ⟨hrest, hrest'⟩ := ih fun r hr ↦ hrun r (List.mem_cons_of_mem _ hr)
    simp only [List.map_cons, List.sum_cons, List.length_cons]
    omega

/-- Where in the source the packets of the track are from, and how much of it they take. -/
def heardSource (records : List DeadlineSendRecord) : List (ℕ × ℕ) :=
  (records.map fun r ↦ r.mediaFrame.map fun frame ↦
    (frame.mediaPositionSamples, r.durationSamples.toNat)).reduceOption

/-- What is sent next is taken up where the last packet left off, but for up to 48 samples. -/
def SourceGoesOn (last next : ℕ × ℕ) : Prop :=
  saturatingAdd last.1 last.2 ≤ next.1 ∧ next.1 ≤ saturatingAdd (saturatingAdd last.1 last.2) 48

instance : DecidableRel SourceGoesOn := fun _ _ ↦ inferInstanceAs (Decidable (_ ∧ _))

theorem takesUp_iff : ((heardSends records).map (Option.map (rawSend base))).reduceOption.IsChain
    TakesUp ↔ (heardSource records).IsChain SourceGoesOn := by
  have hsource : heardSource records = ((heardSends records).map (Option.map (rawSend base))).reduceOption.map
      fun track ↦ (track.mediaPositionSamples, track.durationSamples.toNat) := by
    rw [← List.reduceOption_map, List.map_map, heardSource]
    conv_lhs => rw [← records.zipIdx_map_fst 0]
    rw [heardSends, List.map_map, List.map_map]
    congr 1
    refine List.map_congr_left fun sent _ ↦ ?_
    simp only [Function.comp_apply]
    cases hframe : sent.1.mediaFrame with
    | none => simp
    | some frame => simp [rawSend, hframe]
  rw [hsource, List.isChain_map]
  rfl

end Gate

/-- The gate has recomputed how much of the track the collector has counted. -/
structure AgreesWith (r : RecomputedRawPlayback) (c : PlaybackStabilityCollector) : Prop where
  packets : r.trackPacketCount = c.trackPacketCount
  media : r.trackMediaDurationSentMs = durationMillis c.trackMediaDurationSent

/-- The gate has recomputed the collector's windows, and its time but for a microsecond a stretch. -/
structure AgreesInTime (r : RecomputedRawPlayback) (c : PlaybackStabilityCollector) : Prop where
  windows : r.trackTempoWindowCount = c.tempoWindow.count
  elapsed_le : 1000000 * r.trackWallClockElapsedMs ≤
    c.activeTrackWallClockElapsed + 1000 * r.trackSegmentCount
  lt_elapsed : c.activeTrackWallClockElapsed <
    1000000 * (r.trackWallClockElapsedMs + 1) + 1000 * r.trackSegmentCount

section Agreement

open Evidence

variable {records : List DeadlineSendRecord} {base : ℕ}

theorem rawSendEvents_eq (hlength : records.length < 2 ^ 64) (sort : UnstableSort)
    (depths : PreparedTrackQueueDepths) (queueEvents : Media.PlaybackStabilityCollector) :
    (playbackMetrics (Evidence.snapshot sort depths (sendEventRecords 0 records)
        queueEvents)).rawSendEvents =
      seenSends ((records.head?.map (·.expectedDeadline)).getD 0) records := by
  have hbase : baseDeadline (sendEventRecords 0 records) =
      (records.head?.map (·.expectedDeadline)).getD 0 := by
    cases records <;> rfl
  rw [playbackMetrics_rawSendEvents, hbase, sendEventRecords_eq (by omega), List.map_map]
  rfl

theorem base_le (h : Reported records) :
    ∀ r ∈ records, (records.head?.map (·.expectedDeadline)).getD 0 ≤ r.sendStartedAt := by
  cases records with
  | nil => exact nofun
  | cons first records =>
    intro r hr
    have hfirst := h.timely first List.mem_cons_self
    rcases List.mem_cons.mp hr with rfl | hr
    · exact hfirst.1
    · exact (hfirst.1.trans hfirst.2).trans ((List.pairwise_cons.mp h.ordered).1 r hr)

theorem heardSends_sublist (records : List DeadlineSendRecord) :
    (heardSends records).reduceOption.Sublist records.zipIdx := by
  have hfilter : (heardSends records).reduceOption =
      records.zipIdx.filter fun sent ↦ sent.1.mediaFrame.isSome := by
    rw [heardSends, List.reduceOption, List.filterMap_map, ← List.filterMap_eq_filter]
    refine List.filterMap_congr fun sent _ ↦ ?_
    cases h : sent.1.mediaFrame <;> simp [Option.guard, h]
  rw [hfilter]
  exact List.filter_sublist

theorem heardSends_ordered (h : Reported records) : (heardSends records).reduceOption.Pairwise
    fun a b ↦ a.1.sendStartedAt ≤ b.1.sendStartedAt := by
  refine List.Pairwise.sublist (heardSends_sublist records) ?_
  have hordered : records.Pairwise fun r s ↦ r.sendStartedAt ≤ s.sendStartedAt :=
    h.ordered.imp_of_mem fun hr _ hle ↦ (h.timely _ hr).2.trans hle
  rw [← records.zipIdx_map_fst 0, List.pairwise_map] at hordered
  exact hordered

/-- The stretches of the track, cut where another packet is sent. -/
def stretches (records : List DeadlineSendRecord) : List (List (DeadlineSendRecord × ℕ)) :=
  filledRuns (heardSends records)

theorem flatten_stretches (records : List DeadlineSendRecord) :
    (stretches records).flatten = (heardSends records).reduceOption :=
  flatten_filledRuns _

theorem mem_records {run : List (DeadlineSendRecord × ℕ)} (hrun : run ∈ stretches records)
    {sent : DeadlineSendRecord × ℕ} (hsent : sent ∈ run) : sent.1 ∈ records := by
  have hmem : sent ∈ (heardSends records).reduceOption := by
    rw [← flatten_stretches]
    exact List.mem_flatten_of_mem hrun hsent
  exact List.fst_mem_of_mem_zipIdx ((heardSends_sublist records).mem hmem)

theorem stretch_ordered (h : Reported records) {run : List (DeadlineSendRecord × ℕ)}
    (hrun : run ∈ stretches records) :
    run.Pairwise fun a b ↦ a.1.sendStartedAt ≤ b.1.sendStartedAt := by
  have hordered := heardSends_ordered h
  rw [← flatten_stretches] at hordered
  exact hordered.sublist (List.sublist_flatten_of_mem hrun)

theorem sum_micros {tracks : List (DeadlineSendRecord × ℕ)}
    (hwhole : ∀ sent ∈ tracks, 6 ∣ sent.1.durationSamples.toNat) :
    1000 * ((tracks.map (rawSend base)).map (·.durationUs)).sum =
      ((tracks.map sendTiming).map Prod.snd).sum := by
  induction tracks with
  | nil => rfl
  | cons sent tracks ih =>
    have hsent : 1000 * (rawSend base sent).durationUs = (sendTiming sent).2 :=
      (Nat.mul_comm _ _).trans (duration_whole (hwhole sent List.mem_cons_self))
    have hrest := ih fun other hother ↦ hwhole other (List.mem_cons_of_mem _ hother)
    simp only [List.map_cons, List.sum_cons]
    omega

variable {r : RecomputedRawPlayback} {c : PlaybackStabilityCollector}
variable {marks : List (Option (ℕ × ℕ))}

theorem agreesWith_of_counts (hwhole : ∀ r ∈ records, 6 ∣ r.durationSamples.toNat)
    (hrecounts : Recounts ((heardSends records).map (Option.map (rawSend base))) r)
    (hcounts : CountsRuns (filledRuns marks) c)
    (hmarks : marks.reduceOption = (heardSends records).reduceOption.map sendTiming)
    (hmedia : (marks.reduceOption.map Prod.snd).sum < 2 ^ 64) : AgreesWith r c := by
  have hsum : 1000 * (((heardSends records).reduceOption.map (rawSend base)).map (·.durationUs)).sum =
      (((heardSends records).reduceOption.map sendTiming).map Prod.snd).sum :=
    sum_micros fun sent hsent ↦
      hwhole sent.1 (List.fst_mem_of_mem_zipIdx ((heardSends_sublist records).mem hsent))
  refine ⟨?_, ?_⟩
  · rw [hrecounts.packetCount, hcounts.packets, flatten_filledRuns, hmarks, List.reduceOption_map,
      List.length_map, List.length_map]
  · rw [hmarks, ← hsum] at hmedia
    rw [hrecounts.mediaMs, hcounts.media, flatten_filledRuns, hmarks, List.reduceOption_map, ← hsum]
    unfold u64Counter durationMillis durationMax
    omega

theorem agreesInTime_of_counts (hreported : Reported records)
    (hwhole : ∀ r ∈ records, 6 ∣ r.durationSamples.toNat)
    (hclock : ∀ r ∈ records, base ≤ r.sendStartedAt ∧ r.sendStartedAt < 2 ^ 64)
    (hrecounts : Recounts ((heardSends records).map (Option.map (rawSend base))) r)
    (hcounts : CountsRuns (filledRuns marks) c)
    (hcuts : filledRuns marks = (stretches records).map (List.map sendTiming))
    (helapsed : ((filledRuns marks).map span).sum < 2 ^ 64) : AgreesInTime r c := by
  have hruns : filledRuns ((heardSends records).map (Option.map (rawSend base))) =
      (stretches records).map (List.map (rawSend base)) :=
    filledRuns_map _ _
  have hspans := sum_spans_micros (stretches records) fun run hrun ↦
    span_micros (fun sent hsent ↦ hwhole sent.1 (mem_records hrun hsent))
      (fun sent hsent ↦ hclock sent.1 (mem_records hrun hsent)) (stretch_ordered hreported hrun)
  have hwall : r.trackWallClockElapsedMs = u64Counter ((stretches records).map fun run ↦
      span ((run.map (rawSend base)).map rawTiming)).sum / 1000 := by
    rw [hrecounts.wallClockMs, hruns]
    have hfold := foldl_addWallClock 0 ((stretches records).map (List.map (rawSend base)))
    rw [Nat.zero_add, List.map_map] at hfold
    exact congrArg (· / 1000) hfold
  have hsegments : r.trackSegmentCount = (stretches records).length := by
    rw [hrecounts.segmentCount, hruns, List.length_map]
  have hcounted := hcounts.elapsed
  rw [hcuts, List.map_map] at helapsed hcounted
  refine ⟨?_, ?_, ?_⟩
  · rw [hrecounts.windowCount, hcounts.windows, length_runWindows (by decide), hruns, hcuts,
      List.map_map, List.map_map]
    simp only [Function.comp_def, List.length_map]
    rfl
  all_goals
    rw [hwall, hsegments, hcounted]
    unfold u64Counter
    simp only [Function.comp_def] at helapsed ⊢
    omega

theorem clock_heard (metrics : List SendMetric) : ((clockMarks metrics).map Mark.timing).reduceOption =
    (heardSends (sentRecords metrics)).reduceOption.map sendTiming := by
  rw [clock_timings, trackTimings_eq, List.reduceOption_map]

theorem counts_sends {metrics : List SendMetric} (hreported : Reported (sentRecords metrics)) :
    CountsRuns (filledRuns ((clockMarks metrics).map Mark.timing))
      ((metrics.flatMap SendMetric.calls).foldl PlaybackStabilityCollector.call .new) := by
  apply collector_countsRuns
  rw [starts_eq, clock_heard, List.map_map, List.pairwise_map]
  exact heardSends_ordered hreported

end Agreement

open Evidence in
/-- Of a playback whose reports all came through, the gate accepts the evidence if and only if every
packet of the track takes up the source where the one before it left off. Then it recomputes what the
collector has counted, and in its windows and time too where it was silence that cut the clock. -/
theorem recount_agrees {metrics : List SendMetric} (hreported : Reported (sentRecords metrics))
    (hmedia : ∀ r ∈ sentRecords metrics, CarriesMedia r)
    (hwhole : ∀ r ∈ sentRecords metrics, 6 ∣ r.durationSamples.toNat) (hfits : FitsClocks metrics)
    (sort : UnstableSort) (depths : PreparedTrackQueueDepths)
    (queueEvents : Media.PlaybackStabilityCollector) (label : String) :
    let snapshot := playbackMetrics (Evidence.snapshot sort depths
      (sendEventRecords 0 (sentRecords metrics)) queueEvents)
    let c := (metrics.flatMap SendMetric.calls).foldl PlaybackStabilityCollector.call .new
    ((∃ r, recomputeRawPlayback snapshot label = .ok r) ↔
        (heardSource (sentRecords metrics)).IsChain SourceGoesOn) ∧
      ∀ r, recomputeRawPlayback snapshot label = .ok r →
        AgreesWith r c ∧ (CutBySilence metrics → AgreesInTime r c) := by
  intro snapshot c
  have hraw : snapshot.rawSendEvents = seenSends _ (sentRecords metrics) :=
    rawSendEvents_eq hfits.length sort depths queueEvents
  have hbase := base_le hreported
  generalize ((sentRecords metrics).head?.map (·.expectedDeadline)).getD 0 = base at hraw hbase
  have hplaced : ∀ event ∈ snapshot.rawSendEvents, Placed event := by
    rw [hraw]
    intro event hevent
    obtain ⟨sent, hsent, rfl⟩ := List.mem_map.mp hevent
    exact (seenSend_placed (hmedia sent.1 (List.fst_mem_of_mem_zipIdx hsent)) sent.2).1
  have hitems : snapshot.rawSendEvents.map rawItem =
      (heardSends (sentRecords metrics)).map (Option.map (rawSend base)) := by
    rw [hraw, rawItems_eq hmedia]
  obtain ⟨hok, hexists⟩ := recomputeRawPlayback_ok snapshot label
  rw [hitems] at hok hexists
  have hcounts := counts_sends hreported
  have hsent := hfits.media
  have helapsed := hfits.elapsed
  rw [mediaSent_eq] at hsent
  rw [totalSpan_eq] at helapsed
  refine ⟨⟨?_, fun h ↦ hexists hplaced (takesUp_iff.mpr h)⟩, fun r hr ↦ ⟨?_, fun hcuts ↦ ?_⟩⟩
  · rintro ⟨r, hr⟩
    exact takesUp_iff.mp (hok r hr).2.1
  · exact agreesWith_of_counts hwhole (hok r hr).2.2 hcounts (clock_heard metrics) hsent
  · have hruns : filledRuns ((clockMarks metrics).map Mark.timing) =
        (stretches (sentRecords metrics)).map (List.map sendTiming) := by
      rw [hcuts, trackTimings_eq, filledRuns_map, stretches]
    exact agreesInTime_of_counts hreported hwhole (fun r hr ↦ ⟨hbase r hr, hfits.clock r hr⟩)
      (hok r hr).2.2 hcounts hruns helapsed

/-- A second of the track, the silence of a pause, and the track taken up where it stopped. -/
def pausedPlayback : List DeadlineSendRecord × List DeadlineSendRecord :=
  let track := (Media.Timed.DeadlineSender.newWithNextDeadlineRecordsAndGeneration 0 0).run
    (trackPasses 0 50 0 ++ [silencePass 50 48000 50])
  let resumed :=
    (Media.Timed.DeadlineSender.newWithNextDeadlineRecordsAndGeneration 5000000000 5000000000).run
      (trackPasses 50 2 1)
  (track.2.sendRecords, resumed.2.sendRecords)

/-- The clock of the collector is cut when the track is taken up, and the gate sees the silence. -/
def pausedMetrics : List SendMetric :=
  pausedPlayback.1.map (fun r ↦ .senderSent r false false) ++
    [.senderMediaClockReset .pauseResume, .senderResumedFromPause] ++
      pausedPlayback.2.map fun r ↦ .senderSent r false false

open Evidence in
theorem recount_agrees_paused :
    let c := (pausedMetrics.flatMap SendMetric.calls).foldl PlaybackStabilityCollector.call .new
    (c.trackPacketCount, c.tempoWindow.count) = (52, 1) ∧
      ∃ r, recomputeRawPlayback (playbackMetrics (Evidence.snapshot .insertion (.new 400 300 500)
        (sendEventRecords 0 (sentRecords pausedMetrics)) (.collect []))) "playback" = .ok r ∧
          AgreesWith r c ∧ AgreesInTime r c := by
  intro c
  have hrecords : sentRecords pausedMetrics = pausedPlayback.1 ++ pausedPlayback.2 := by
    decide +kernel
  have htrack : Reported pausedPlayback.1 := by
    have hsender := Reported.sender .nothing
      (Media.Timed.DeadlineSender.newWithNextDeadlineRecordsAndGeneration 0 0)
      (trackPasses 0 50 0 ++ [silencePass 50 48000 50]) rfl nofun List.prefix_rfl
    rwa [List.nil_append] at hsender
  have hreported : Reported (sentRecords pausedMetrics) := by
    rw [hrecords]
    exact htrack.sender
      (Media.Timed.DeadlineSender.newWithNextDeadlineRecordsAndGeneration 5000000000 5000000000)
      (trackPasses 50 2 1) rfl (by decide +kernel) List.prefix_rfl
  obtain ⟨haccepts, hagrees⟩ := recount_agrees hreported (by decide +kernel) (by decide +kernel)
    ⟨by decide +kernel, by decide +kernel, by decide +kernel, by decide +kernel⟩ .insertion
    (.new 400 300 500) (.collect []) "playback"
  have hsource : (heardSource (sentRecords pausedMetrics)).IsChain SourceGoesOn := by
    decide +kernel
  obtain ⟨r, hr⟩ := haccepts.mpr hsource
  obtain ⟨hcounts, htime⟩ := hagrees r hr
  exact ⟨by decide +kernel, r, hr, hcounts, htime (by unfold CutBySilence; decide +kernel)⟩

end DiscordVoice.Validation
