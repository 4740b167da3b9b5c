import DiscordVoice.Checking
import DiscordVoice.Session.QueueDepthRuns
import DiscordVoice.Validation.Lifecycle

namespace DiscordVoice.Validation

open Fallible Checking Playback Session Twilight

open Evidence (PlaybackQueueDepthStatsSnapshot)

def discordEgressBufferTargetMs : ℕ := 400

def discordEgressBufferLowWatermarkMs : ℕ := 300

def preparedTrackQueueMinDepthMs : ℕ := 200

def preparedTrackQueueP5MinDepthMs : ℕ := 300

def preparedTrackQueueP50MinDepthMs : ℕ := 340

def preparedTrackQueueP50MaxDepthMs : ℕ := 460

abbrev QueueDepthStats := PlaybackQueueDepthStatsSnapshot PlaybackBufferDepthSnapshot

def debugDepth (d : PlaybackBufferDepthSnapshot) : String :=
  s!"PlaybackBufferDepthSnapshot \x7b packets: {d.packets}, bytes: {d.bytes}, duration_ms: {d.durationMs}, duration_samples: {d.durationSamples} \x7d"

def debugStats (s : QueueDepthStats) : String :=
  s!"PlaybackQueueDepthStatsSnapshot \x7b sample_count: {s.sampleCount}, empty_count: {s.emptyCount}, current_depth: {debugDepth s.currentDepth}, min_depth: {debugDepth s.minDepth}, p5_depth: {debugDepth s.p5Depth}, p50_depth: {debugDepth s.p50Depth}, p95_depth: {debugDepth s.p95Depth}, max_depth: {debugDepth s.maxDepth} \x7d"

def validatePreparedTrackQueueDepth (depth : QueueDepthStats) (label phase : String) :
    Except String Unit := do
  bailIf (depth.sampleCount = 0)
    s!"{label} reported no {phase} prepared track queue depth samples"
  bailIf (depth.emptyCount ≠ 0)
    s!"{label} reported {depth.emptyCount} empty {phase} prepared track queue samples; expected 0"
  bailIf (depth.minDepth.durationMs < preparedTrackQueueMinDepthMs)
    s!"{label} {phase} prepared_track_queue_depth_min_ms was {depth.minDepth.durationMs}; expected >= {preparedTrackQueueMinDepthMs}"
  bailIf (depth.p5Depth.durationMs < preparedTrackQueueP5MinDepthMs)
    s!"{label} {phase} prepared_track_queue_depth_p5_ms was {depth.p5Depth.durationMs}; expected >= {preparedTrackQueueP5MinDepthMs}"
  bailIf (depth.p50Depth.durationMs < preparedTrackQueueP50MinDepthMs ∨
      depth.p50Depth.durationMs > preparedTrackQueueP50MaxDepthMs)
    s!"{label} {phase} prepared_track_queue_depth_p50_ms was {depth.p50Depth.durationMs}; expected between {preparedTrackQueueP50MinDepthMs} and {preparedTrackQueueP50MaxDepthMs}"
  bailIf (depth.p95Depth.durationMs > discordEgressBufferHighWatermarkMs)
    s!"{label} {phase} prepared_track_queue_depth_p95_ms was {depth.p95Depth.durationMs}; expected <= {discordEgressBufferHighWatermarkMs}"
  bailIf (depth.maxDepth.durationMs > discordEgressBufferHighWatermarkMs)
    s!"{label} {phase} prepared_track_queue_depth_max_ms was {depth.maxDepth.durationMs}; expected <= {discordEgressBufferHighWatermarkMs}"

/-- What `validate_prepared_track_queue_metrics` counts of the samples after the pause. -/
def checkPostResume (metrics : PlaybackStabilitySnapshot) (label : String)
    (requirePostResumePhase : Bool) (prePause : QueueDepthStats) : Except String (ℕ × ℕ) :=
  match metrics.activePostResumePreparedTrackQueueDepth with
  | some postResume => do
    if requirePostResumePhase ∨ postResume.sampleCount ≠ 0 then
      validatePreparedTrackQueueDepth postResume label "active post-resume"
    return (saturatingAdd prePause.sampleCount postResume.sampleCount,
      saturatingAdd prePause.emptyCount postResume.emptyCount)
  | none =>
    if requirePostResumePhase then
      throw s!"{label} was missing active post-resume prepared track queue depth metrics"
    else return (prePause.sampleCount, prePause.emptyCount)

def validatePreparedTrackQueueMetrics (metrics : PlaybackStabilitySnapshot) (label : String)
    (requirePostResumePhase : Bool) : Except String Unit := do
  bailIf (metrics.preparedTrackQueueTargetMs ≠ discordEgressBufferTargetMs)
    s!"{label} returned prepared_track_queue_target_ms {metrics.preparedTrackQueueTargetMs}; expected {discordEgressBufferTargetMs}"
  bailIf (metrics.preparedTrackQueueLowWatermarkMs < discordEgressBufferLowWatermarkMs)
    s!"{label} returned prepared_track_queue_low_watermark_ms {metrics.preparedTrackQueueLowWatermarkMs}; expected >= {discordEgressBufferLowWatermarkMs}"
  bailIf (metrics.preparedTrackQueueHighWatermarkMs > discordEgressBufferHighWatermarkMs)
    s!"{label} returned prepared_track_queue_high_watermark_ms {metrics.preparedTrackQueueHighWatermarkMs}; expected <= {discordEgressBufferHighWatermarkMs}"
  match metrics.activePrePausePreparedTrackQueueDepth with
  | none => throw s!"{label} was missing active pre-pause prepared track queue depth metrics"
  | some prePause =>
    validatePreparedTrackQueueDepth prePause label "active pre-pause"
    let (recomputedSampleCount, recomputedEmptyCount) ←
      checkPostResume metrics label requirePostResumePhase prePause
    bailIf (metrics.preparedTrackQueueDepthSampleCount ≠ recomputedSampleCount)
      s!"{label} prepared_track_queue_depth_sample_count was {metrics.preparedTrackQueueDepthSampleCount}; expected recomputed active pre/post sample count {recomputedSampleCount}"
    bailIf (metrics.preparedTrackQueueEmptyCount ≠ recomputedEmptyCount)
      s!"{label} prepared_track_queue_empty_count was {metrics.preparedTrackQueueEmptyCount}; expected recomputed active pre/post empty count {recomputedEmptyCount}"

def queueDepthStatsFromSamples (sort : UnstableSort) (samples : List PlaybackBufferDepthSnapshot) :
    QueueDepthStats :=
  .fromSamples sort (·.durationSamples) .default samples (samples.countP (·.durationSamples = 0))

def ensureQueueDepthStatsMatch (reported recomputed : QueueDepthStats) (label phase : String) :
    Except String Unit :=
  bailIf (reported ≠ recomputed)
    s!"{label} {phase} prepared queue aggregate disagreed with raw samples: reported {debugStats reported}, recomputed {debugStats recomputed}"

/-- The samples of the two phases, as the gate sorts them. -/
structure PhaseSamples where
  prePause : List PlaybackBufferDepthSnapshot
  postResume : List PlaybackBufferDepthSnapshot
  deriving DecidableEq, Repr

def PhaseSamples.add (s : PhaseSamples) (sample : PreparedTrackQueueDepthSampleSnapshot) :
    PhaseSamples :=
  match sample.phase with
  | .activePrePause => { s with prePause := s.prePause ++ [sample.depth] }
  | .activePostResume => { s with postResume := s.postResume ++ [sample.depth] }
  | .unspecified => s

/-- One round of the loop of `validate_raw_prepared_track_queue_samples`. -/
def checkRawPreparedTrackQueueSample (label : String) (s : PhaseSamples) (index : ℕ)
    (sample : PreparedTrackQueueDepthSampleSnapshot) : Except String PhaseSamples := do
  bailIf (sample.sampleIndex ≠ index)
    s!"{label} raw prepared queue sample_index {sample.sampleIndex} was not sequential at index {index}"
  bailIf (sample.phase = .unspecified)
    s!"{label} raw prepared queue sample {index} had unspecified phase"
  return s.add sample

def validateRawPreparedTrackQueueSamples (sort : UnstableSort) (metrics : PlaybackStabilitySnapshot)
    (label : String) (requirePostResumePhase : Bool) : Except String Unit := do
  let s ← checkEach (checkRawPreparedTrackQueueSample label) ⟨[], []⟩ 0
    metrics.rawPreparedTrackQueueSamples
  let recomputedPre := queueDepthStatsFromSamples sort s.prePause
  let recomputedPost := queueDepthStatsFromSamples sort s.postResume
  match metrics.activePrePausePreparedTrackQueueDepth with
  | none => throw s!"{label} was missing active pre-pause prepared queue metrics"
  | some preReported =>
    ensureQueueDepthStatsMatch preReported recomputedPre label "active pre-pause"
    match metrics.activePostResumePreparedTrackQueueDepth with
    | some postReported =>
      ensureQueueDepthStatsMatch postReported recomputedPost label "active post-resume"
    | none =>
      bailIf (requirePostResumePhase ∨ recomputedPost.sampleCount ≠ 0)
        s!"{label} was missing active post-resume prepared queue metrics"
    let recomputedSampleCount := saturatingAdd recomputedPre.sampleCount recomputedPost.sampleCount
    bailIf (metrics.preparedTrackQueueDepthSampleCount ≠ recomputedSampleCount)
      s!"{label} prepared_track_queue_depth_sample_count was {metrics.preparedTrackQueueDepthSampleCount}; raw samples recomputed {recomputedSampleCount}"
    let recomputedEmptyCount := saturatingAdd recomputedPre.emptyCount recomputedPost.emptyCount
    bailIf (metrics.preparedTrackQueueEmptyCount ≠ recomputedEmptyCount)
      s!"{label} prepared_track_queue_empty_count was {metrics.preparedTrackQueueEmptyCount}; raw samples recomputed {recomputedEmptyCount}"

def seenStats (stats : PlaybackQueueDepthStatsSnapshot Media.OpusBufferDepth) : QueueDepthStats :=
  queueDepthStatsFrom (mapQueueDepthStats stats)

section Samples

open Evidence PlaybackQueueDepthStatsSnapshot Media

variable {samples : List OpusBufferDepth}

theorem usizeToU64_eq {n : ℕ} (h : n < 2 ^ 64) : usizeToU64 n = n := by
  unfold usizeToU64
  omega

theorem seenStats_eq {stats : PlaybackQueueDepthStatsSnapshot OpusBufferDepth}
    (h : stats.sampleCount < 2 ^ 64) : seenStats stats = stats.map mapBufferDepth := by
  simp only [seenStats, queueDepthStatsFrom, mapQueueDepthStats, map, Function.comp_apply,
    Option.getD_some, usizeToU64_eq h]

theorem fromSamples_sampleCount (sort : UnstableSort) (samples : List OpusBufferDepth) (n : ℕ) :
    (fromSamples sort (·.durationSamples) defaultDepth samples n).sampleCount = samples.length := by
  unfold fromSamples
  split
  · rename_i hempty
    rw [List.isEmpty_iff.mp hempty]
    rfl
  · rfl

/-- The statistics survive the wire. -/
theorem seenStats_fromSamples (sort : UnstableSort) (hlength : samples.length < 2 ^ 64) (n : ℕ) :
    seenStats (fromSamples sort (·.durationSamples) defaultDepth samples n) =
      fromSamples sort (·.durationSamples) .default (samples.map mapBufferDepth) n := by
  rw [seenStats_eq (by rwa [fromSamples_sampleCount]),
    show PlaybackBufferDepthSnapshot.default = mapBufferDepth defaultDepth from rfl,
    fromSamples_map]
  rfl

theorem countP_zero_map (samples : List OpusBufferDepth) :
    (samples.map mapBufferDepth).countP (·.durationSamples = 0) =
      samples.countP (·.durationSamples = 0) := by
  rw [List.countP_map]
  rfl

theorem emptyDepths_eq (hlength : samples.length < 2 ^ 64) :
    emptyDepths samples = samples.countP (·.durationSamples = 0) := by
  have hle := List.countP_le_length (p := (·.durationSamples = 0)) (l := samples)
  unfold emptyDepths
  omega

theorem seenStats_offered (sort : UnstableSort) (targetMs : ℕ) (depths : List OpusBufferDepth)
    (hlength : (warmDepths targetMs depths).length < 2 ^ 64) :
    seenStats ((offered targetMs depths).snapshot sort) =
      queueDepthStatsFromSamples sort ((warmDepths targetMs depths).map mapBufferDepth) := by
  rw [queueDepthStatsFromSamples, countP_zero_map, ← emptyDepths_eq hlength,
    ← seenStats_fromSamples sort hlength]
  rfl

def seenSample (sample : Evidence.PreparedTrackQueueDepthSampleSnapshot) :
    Twilight.PreparedTrackQueueDepthSampleSnapshot :=
  .from (mapRawPreparedTrackQueueSample sample)

theorem seenSample_phase (sample : Evidence.PreparedTrackQueueDepthSampleSnapshot) :
    (seenSample sample).phase = .of sample.phase :=
  fromRaw_mapPreparedTrackQueueSamplePhase _

theorem add_seenSample (s : PhaseSamples) (index : ℕ) (phase : Evidence.PreparedTrackQueueSamplePhase)
    (depth : OpusBufferDepth) : s.add (seenSample ⟨index, phase, depth⟩) =
      match phase with
      | .activePrePause => { s with prePause := s.prePause ++ [mapBufferDepth depth] }
      | .activePostResume => { s with postResume := s.postResume ++ [mapBufferDepth depth] } := by
  rw [PhaseSamples.add, seenSample_phase]
  cases phase <;> rfl

theorem foldl_add_numbered (prePause postResume : List OpusBufferDepth) :
    ((numbered (prePause.map (.activePrePause, ·) ++
        postResume.map (.activePostResume, ·))).map seenSample).foldl PhaseSamples.add ⟨[], []⟩ =
      ⟨prePause.map mapBufferDepth, postResume.map mapBufferDepth⟩ := by
  induction postResume using List.reverseRecOn with
  | nil =>
    rw [List.map_nil, List.append_nil, List.map_nil]
    induction prePause using List.reverseRecOn with
    | nil => rfl
    | append_singleton prePause depth ih =>
      rw [List.map_append, List.map_singleton, PreparedTrackQueueDepths.Sampled.numbered_concat,
        List.map_append, List.map_singleton, List.foldl_append, ih, List.foldl_cons,
        add_seenSample, List.map_append]
      rfl
  | append_singleton postResume depth ih =>
    rw [List.map_append, List.map_singleton, ← List.append_assoc,
      PreparedTrackQueueDepths.Sampled.numbered_concat, List.map_append, List.map_singleton,
      List.foldl_append, ih, List.foldl_cons, add_seenSample, List.map_append]
    rfl

theorem checkRawPreparedTrackQueueSample_ok_iff {label : String} {s t : PhaseSamples} {index : ℕ}
    {sample : Twilight.PreparedTrackQueueDepthSampleSnapshot} :
    checkRawPreparedTrackQueueSample label s index sample = .ok t ↔
      (sample.sampleIndex = index ∧ sample.phase ≠ .unspecified) ∧ t = s.add sample := by
  simp only [checkRawPreparedTrackQueueSample, bailIf_bind_ok_iff, pure, Except.pure,
    Except.ok.injEq, ne_eq, not_not, and_assoc, eq_comm (a := t)]

theorem checkEach_numbered (label : String) (prePause postResume : List OpusBufferDepth) :
    checkEach (checkRawPreparedTrackQueueSample label) ⟨[], []⟩ 0
        ((numbered (prePause.map (.activePrePause, ·) ++
          postResume.map (.activePostResume, ·))).map seenSample) =
      .ok ⟨prePause.map mapBufferDepth, postResume.map mapBufferDepth⟩ := by
  have hstep (s : PhaseSamples) (i : ℕ) (sample : Twilight.PreparedTrackQueueDepthSampleSnapshot)
      (t : PhaseSamples) : checkRawPreparedTrackQueueSample label s i sample = .ok t ↔
        (sample.sampleIndex = i ∧ sample.phase ≠ .unspecified) ∧ t = PhaseSamples.add s sample :=
    checkRawPreparedTrackQueueSample_ok_iff
  refine (checkEach_ok_iff hstep _ _ _ _).mpr
    ⟨fun k sample hk ↦ ?_, (foldl_add_numbered prePause postResume).symm⟩
  simp only [numbered, List.getElem?_map, List.getElem?_mapIdx, Option.map_map,
    Option.map_eq_some_iff] at hk
  obtain ⟨⟨phase, depth⟩, _, rfl⟩ := hk
  refine ⟨(zero_add k).symm, ?_⟩
  rw [Function.comp_apply, seenSample_phase]
  cases phase
  · exact Twilight.PreparedTrackQueueSamplePhase.noConfusion
  · exact Twilight.PreparedTrackQueueSamplePhase.noConfusion

/-- The depth says in milliseconds what it says in samples. -/
def Measured (depth : OpusBufferDepth) : Prop :=
  depth.durationMs = durationMsFromSamples depth.durationSamples

/-- What the gate wants of the samples of a phase. -/
structure Healthy (samples : List OpusBufferDepth) : Prop where
  sampled : samples ≠ []
  within : ∀ depth ∈ samples, 200 ≤ depth.durationMs ∧ depth.durationMs ≤ 500
  fewLow : samples.countP (·.durationMs < 300) ≤ percentileIndex samples.length 5
  halfHigh : samples.countP (·.durationMs < 340) ≤ percentileIndex samples.length 50
  halfLow : percentileIndex samples.length 50 < samples.countP (·.durationMs ≤ 460)

theorem validatePreparedTrackQueueDepth_ok_iff {stats : QueueDepthStats} {label phase : String} :
    validatePreparedTrackQueueDepth stats label phase = .ok () ↔
      stats.sampleCount ≠ 0 ∧ stats.emptyCount = 0 ∧ 200 ≤ stats.minDepth.durationMs ∧
        300 ≤ stats.p5Depth.durationMs ∧
        (340 ≤ stats.p50Depth.durationMs ∧ stats.p50Depth.durationMs ≤ 460) ∧
        stats.p95Depth.durationMs ≤ 500 ∧ stats.maxDepth.durationMs ≤ 500 := by
  simp only [validatePreparedTrackQueueDepth, bailIf_bind_ok_iff, bailIf_ok_iff]
  simp only [not_or, not_lt, ne_eq, not_not, gt_iff_lt, preparedTrackQueueMinDepthMs,
    preparedTrackQueueP5MinDepthMs, preparedTrackQueueP50MinDepthMs,
    preparedTrackQueueP50MaxDepthMs, discordEgressBufferHighWatermarkMs]

theorem durationMs_mono {a b : ℕ} (h : a ≤ b) :
    durationMsFromSamples a ≤ durationMsFromSamples b := by
  unfold durationMsFromSamples
  omega

theorem place_iff (sort : UnstableSort) {samples : List OpusBufferDepth}
    (hmeasured : ∀ depth ∈ samples, Measured depth) {i : ℕ} (hi : i < samples.length) (x : ℕ) :
    (x ≤ ((sort.byKey (·.durationSamples) samples).getD i defaultDepth).durationMs ↔
        samples.countP (·.durationMs < x) ≤ i) ∧
      (((sort.byKey (·.durationSamples) samples).getD i defaultDepth).durationMs ≤ x ↔
        i < samples.countP (·.durationMs ≤ x)) := by
  have hperm := sort.perm (fun d : OpusBufferDepth ↦ d.durationSamples) samples
  have hsorted : (sort.byKey (·.durationSamples) samples).Pairwise
      fun a b ↦ a.durationMs ≤ b.durationMs := by
    refine (sort.sorted (fun d : OpusBufferDepth ↦ d.durationSamples) samples).imp_of_mem ?_
    intro a b ha hb hab
    rw [hmeasured a (hperm.mem_iff.mp ha), hmeasured b (hperm.mem_iff.mp hb)]
    exact durationMs_mono hab
  have hget : (sort.byKey (·.durationSamples) samples)[i]? =
      some ((sort.byKey (·.durationSamples) samples).getD i defaultDepth) := by
    rw [List.getElem?_eq_getElem (by rwa [sort.length_byKey]), List.getD_eq_getElem]
  rw [← hperm.countP_eq, ← hperm.countP_eq]
  exact ⟨le_sorted_iff hsorted hget x, sorted_le_iff hsorted hget x⟩

theorem emptyDepths_eq_zero {samples : List OpusBufferDepth}
    (hmeasured : ∀ depth ∈ samples, Measured depth)
    (hwithin : ∀ depth ∈ samples, 200 ≤ depth.durationMs ∧ depth.durationMs ≤ 500) :
    emptyDepths samples = 0 := by
  have hnone : samples.countP (·.durationSamples = 0) = 0 := by
    refine List.countP_eq_zero.mpr fun depth hdepth hzero ↦ ?_
    have hmin := (hwithin depth hdepth).1
    rw [hmeasured depth hdepth, of_decide_eq_true hzero] at hmin
    exact absurd hmin (by decide)
  rw [emptyDepths, hnone]
  rfl

theorem within_iff (samples : List OpusBufferDepth) (hne : samples ≠ []) :
    samples.countP (·.durationMs < 200) ≤ 0 ∧
        samples.length - 1 < samples.countP (·.durationMs ≤ 500) ↔
      ∀ depth ∈ samples, 200 ≤ depth.durationMs ∧ depth.durationMs ≤ 500 := by
  have hpos := List.length_pos_of_ne_nil hne
  have hle := List.countP_le_length (p := (·.durationMs ≤ 500)) (l := samples)
  rw [Nat.le_zero, List.countP_eq_zero,
    show samples.length - 1 < samples.countP (·.durationMs ≤ 500) ↔
      samples.countP (·.durationMs ≤ 500) = samples.length by omega, List.countP_eq_length]
  simp only [decide_eq_true_eq, not_lt]
  exact ⟨fun h depth hdepth ↦ ⟨h.1 depth hdepth, h.2 depth hdepth⟩,
    fun h ↦ ⟨fun depth hdepth ↦ (h depth hdepth).1, fun depth hdepth ↦ (h depth hdepth).2⟩⟩

/-- The thresholds on the statistics are bounds on how many samples are low or high. -/
theorem fromSamples_healthy_iff (sort : UnstableSort) {samples : List OpusBufferDepth}
    (hmeasured : ∀ depth ∈ samples, Measured depth) (hlength : samples.length < 2 ^ 64)
    (label phase : String) :
    validatePreparedTrackQueueDepth (seenStats
        (fromSamples sort (·.durationSamples) defaultDepth samples (emptyDepths samples)))
        label phase = .ok () ↔ Healthy samples := by
  have hcount := fromSamples_sampleCount sort samples (emptyDepths samples)
  rw [seenStats_eq (by rwa [hcount]), validatePreparedTrackQueueDepth_ok_iff]
  by_cases hne : samples = []
  · refine ⟨fun h ↦ absurd ?_ h.1, fun h ↦ absurd hne h.sampled⟩
    rw [hne]
    rfl
  have hpos := List.length_pos_of_ne_nil hne
  have hplace {i : ℕ} (hi : i < samples.length) := place_iff sort hmeasured hi
  have hpercentile (percent : ℕ) (hpercent : percent ≤ 100) :=
    hplace (percentileIndex_lt hpos hpercent)
  have hmin := (hplace hpos 200).1
  have hmax := (hplace (Nat.sub_lt hpos Nat.one_pos) 500).2
  have hwithin := within_iff samples hne
  have hp5 := (hpercentile 5 (by decide) 300).1
  have hp50 := (hpercentile 50 (by decide) 340).1
  have hp50' := (hpercentile 50 (by decide) 460).2
  have hp95 := (hpercentile 95 (by decide) 500).2
  have hlast : samples.length - 1 < samples.countP (·.durationMs ≤ 500) →
      percentileIndex samples.length 95 < samples.countP (·.durationMs ≤ 500) := by
    have hlt : percentileIndex samples.length 95 < samples.length :=
      percentileIndex_lt hpos (by decide)
    omega
  simp only [fromSamples, List.isEmpty_iff, hne, if_false, PlaybackQueueDepthStatsSnapshot.map,
    mapBufferDepth, sort.length_byKey, hmin, hmax, hp5, hp50, hp50', hp95]
  constructor
  · rintro ⟨-, -, hlow, hfew, ⟨hhigh, hhalf⟩, -, hall⟩
    exact ⟨hne, hwithin.mp ⟨hlow, hall⟩, hfew, hhigh, hhalf⟩
  · rintro ⟨-, hall, hfew, hhigh, hhalf⟩
    obtain ⟨hlow, hhigh'⟩ := hwithin.mpr hall
    exact ⟨hpos.ne', emptyDepths_eq_zero hmeasured hall, hlow, hfew, ⟨hhigh, hhalf⟩,
      hlast hhigh', hhigh'⟩

/-- What the controller sees of a playback's queue depths. -/
structure SeesDepths (sort : UnstableSort) (before after : List OpusBufferDepth)
    (metrics : Twilight.PlaybackStabilitySnapshot) : Prop where
  target : metrics.preparedTrackQueueTargetMs = 400
  low : metrics.preparedTrackQueueLowWatermarkMs = 300
  high : metrics.preparedTrackQueueHighWatermarkMs = 500
  prePause : metrics.activePrePausePreparedTrackQueueDepth =
    some (seenStats ((offered 400 before).snapshot sort))
  postResume : metrics.activePostResumePreparedTrackQueueDepth =
    some (seenStats ((offered 400 after).snapshot sort))
  sampleCount : metrics.preparedTrackQueueDepthSampleCount =
    saturatingAdd (warmDepths 400 before).length (warmDepths 400 after).length
  emptyCount : metrics.preparedTrackQueueEmptyCount =
    saturatingAdd (emptyDepths (warmDepths 400 before)) (emptyDepths (warmDepths 400 after))
  raw : metrics.rawPreparedTrackQueueSamples = (numbered
    ((warmDepths 400 before).map (.activePrePause, ·) ++
      (warmDepths 400 after).map (.activePostResume, ·))).map seenSample

theorem watermarks_run (calls : List PreparedTrackQueueDepths.Call) (c : PreparedTrackQueueDepths) :
    (calls.foldl PreparedTrackQueueDepths.call c).lowWatermarkMs = c.lowWatermarkMs ∧
      (calls.foldl PreparedTrackQueueDepths.call c).highWatermarkMs = c.highWatermarkMs := by
  induction calls generalizing c with
  | nil => exact ⟨rfl, rfl⟩
  | cons x calls ih =>
    rw [List.foldl_cons, (ih _).1, (ih _).2]
    cases x with
    | recordPreparedTrackQueueDepth depth =>
      simp only [PreparedTrackQueueDepths.call,
        PreparedTrackQueueDepths.recordPreparedTrackQueueDepth]
      cases c.phase <;> dsimp only <;> split <;> exact ⟨rfl, rfl⟩
    | recordResumedFromPause => exact ⟨rfl, rfl⟩

theorem usizeToU64_saturatingAdd (a b : ℕ) :
    usizeToU64 (saturatingAdd a b) = saturatingAdd a b := by
  unfold usizeToU64 saturatingAdd
  omega

theorem offered_sampleCount (sort : UnstableSort) (targetMs : ℕ) (depths : List OpusBufferDepth) :
    ((offered targetMs depths).snapshot sort).sampleCount = (warmDepths targetMs depths).length :=
  fromSamples_sampleCount sort _ _

theorem offered_emptyCount (sort : UnstableSort) (targetMs : ℕ) (depths : List OpusBufferDepth) :
    ((offered targetMs depths).snapshot sort).emptyCount =
      emptyDepths (warmDepths targetMs depths) := by
  simp only [PreparedTrackQueueDepthCollector.snapshot, fromSamples, offered, List.isEmpty_iff]
  split
  · rename_i hnil
    rw [hnil]
    rfl
  · rfl

theorem sees_run (sort : UnstableSort) (calls : List PreparedTrackQueueDepths.Call)
    (sendEvents : List Evidence.PlaybackSendEventRecord)
    (queueEvents : Media.PlaybackStabilityCollector) :
    SeesDepths sort (PreparedTrackQueueDepths.beforeResume calls)
      (PreparedTrackQueueDepths.afterResume calls)
      (playbackMetrics (Evidence.snapshot sort (calls.foldl PreparedTrackQueueDepths.call
        (.new 400 300 500)) sendEvents queueEvents)) := by
  have hsampled := PreparedTrackQueueDepths.Sampled.run (.new 400 300 500) rfl calls
  rw [List.nil_append] at hsampled
  have hwatermarks := watermarks_run calls (.new 400 300 500)
  constructor
  · exact hsampled.target
  · exact hwatermarks.1
  · exact hwatermarks.2
  · rw [← hsampled.prePause]
    rfl
  · rw [← hsampled.postResume]
    rfl
  · rw [← offered_sampleCount sort, ← offered_sampleCount sort, ← hsampled.prePause, ← hsampled.postResume]
    exact usizeToU64_saturatingAdd _ _
  · rw [← offered_emptyCount sort, ← offered_emptyCount sort, ← hsampled.prePause, ← hsampled.postResume]
    rfl
  · rw [← hsampled.raw]
    simp only [playbackMetrics, PlaybackStabilitySnapshot.from, mapPlaybackStabilitySnapshot,
      Evidence.snapshot, List.map_map]
    rfl

theorem checkPostResume_ok_iff {metrics : Twilight.PlaybackStabilitySnapshot}
    {post prePause : QueueDepthStats}
    (hpost : metrics.activePostResumePreparedTrackQueueDepth = some post) {label : String}
    {requirePostResumePhase : Bool} {counts : ℕ × ℕ} :
    checkPostResume metrics label requirePostResumePhase prePause = .ok counts ↔
      (requirePostResumePhase = true ∨ post.sampleCount ≠ 0 →
          validatePreparedTrackQueueDepth post label "active post-resume" = .ok ()) ∧
        (saturatingAdd prePause.sampleCount post.sampleCount,
          saturatingAdd prePause.emptyCount post.emptyCount) = counts := by
  simp only [checkPostResume, hpost]
  split
  · rename_i hchecked
    simp only [check_bind_ok_iff, pure, Except.pure, Except.ok.injEq, hchecked, true_imp_iff]
  · rename_i hskipped
    simp only [hskipped, false_imp_iff, true_and, pure, Except.pure, Except.ok.injEq]

theorem validatePreparedTrackQueueMetrics_ok_iff {metrics : Twilight.PlaybackStabilitySnapshot}
    {pre post : QueueDepthStats} (hpre : metrics.activePrePausePreparedTrackQueueDepth = some pre)
    (hpost : metrics.activePostResumePreparedTrackQueueDepth = some post) {label : String}
    {requirePostResumePhase : Bool} :
    validatePreparedTrackQueueMetrics metrics label requirePostResumePhase = .ok () ↔
      metrics.preparedTrackQueueTargetMs = 400 ∧ 300 ≤ metrics.preparedTrackQueueLowWatermarkMs ∧
        metrics.preparedTrackQueueHighWatermarkMs ≤ 500 ∧
        validatePreparedTrackQueueDepth pre label "active pre-pause" = .ok () ∧
        (requirePostResumePhase = true ∨ post.sampleCount ≠ 0 →
          validatePreparedTrackQueueDepth post label "active post-resume" = .ok ()) ∧
        metrics.preparedTrackQueueDepthSampleCount =
          saturatingAdd pre.sampleCount post.sampleCount ∧
        metrics.preparedTrackQueueEmptyCount = saturatingAdd pre.emptyCount post.emptyCount := by
  simp only [validatePreparedTrackQueueMetrics, hpre, check_bind_ok_iff, bailIf_ok_iff]
  rw [except_bind_ok_iff]
  simp only [checkPostResume_ok_iff hpost, check_bind_ok_iff, bailIf_ok_iff, and_assoc,
    exists_and_left, exists_eq_left']
  simp only [ne_eq, not_not, not_lt, gt_iff_lt, discordEgressBufferTargetMs,
    discordEgressBufferLowWatermarkMs, discordEgressBufferHighWatermarkMs]

namespace SeesDepths

variable {sort : UnstableSort} {before after : List OpusBufferDepth}
variable {metrics : Twilight.PlaybackStabilitySnapshot}

/-- What the gate recomputes of the samples is what the collector counts. -/
theorem raw_ok (h : SeesDepths sort before after metrics)
    (hbefore : (warmDepths 400 before).length < 2 ^ 64)
    (hafter : (warmDepths 400 after).length < 2 ^ 64) (label : String)
    (requirePostResumePhase : Bool) :
    validateRawPreparedTrackQueueSamples sort metrics label requirePostResumePhase = .ok () := by
  have hrecomputed {depths : List OpusBufferDepth}
      (hlength : (warmDepths 400 depths).length < 2 ^ 64) :
      (queueDepthStatsFromSamples sort ((warmDepths 400 depths).map mapBufferDepth)).sampleCount =
          (warmDepths 400 depths).length ∧
        (queueDepthStatsFromSamples sort ((warmDepths 400 depths).map mapBufferDepth)).emptyCount =
          emptyDepths (warmDepths 400 depths) := by
    rw [queueDepthStatsFromSamples, countP_zero_map, emptyDepths_eq hlength]
    unfold fromSamples
    rw [List.isEmpty_map, List.length_map]
    split
    · rename_i hnil
      rw [List.isEmpty_iff.mp hnil]
      exact ⟨rfl, rfl⟩
    · exact ⟨rfl, rfl⟩
  simp only [validateRawPreparedTrackQueueSamples, h.raw, checkEach_numbered, except_ok_bind,
    h.prePause, h.postResume, seenStats_offered sort 400 _ hbefore,
    seenStats_offered sort 400 _ hafter, ensureQueueDepthStatsMatch, h.sampleCount, h.emptyCount,
    (hrecomputed hbefore).1, (hrecomputed hafter).1, (hrecomputed hbefore).2,
    (hrecomputed hafter).2, bailIf_bind_ok_iff, bailIf_ok_iff, ne_eq, not_true_eq_false,
    not_false_iff, and_self]

theorem metrics_ok_iff (h : SeesDepths sort before after metrics)
    (hbefore : (warmDepths 400 before).length < 2 ^ 64)
    (hafter : (warmDepths 400 after).length < 2 ^ 64)
    (hmeasured : ∀ depth ∈ before ++ after, Measured depth) (label : String)
    (requirePostResumePhase : Bool) :
    validatePreparedTrackQueueMetrics metrics label requirePostResumePhase = .ok () ↔
      Healthy (warmDepths 400 before) ∧
        (requirePostResumePhase = true ∨ warmDepths 400 after ≠ [] →
          Healthy (warmDepths 400 after)) := by
  have hhealthy {depths : List OpusBufferDepth}
      (hlength : (warmDepths 400 depths).length < 2 ^ 64)
      (hdepths : ∀ depth ∈ depths, Measured depth) (phase : String) :
      validatePreparedTrackQueueDepth (seenStats ((offered 400 depths).snapshot sort)) label phase =
        .ok () ↔ Healthy (warmDepths 400 depths) :=
    fromSamples_healthy_iff sort
      (fun depth hdepth ↦ hdepths depth (List.dropWhile_subset _ hdepth)) hlength label phase
  have hcounts {depths : List OpusBufferDepth}
      (hlength : (warmDepths 400 depths).length < 2 ^ 64) :
      (seenStats ((offered 400 depths).snapshot sort)).sampleCount =
          (warmDepths 400 depths).length ∧
        (seenStats ((offered 400 depths).snapshot sort)).emptyCount =
          emptyDepths (warmDepths 400 depths) := by
    rw [seenStats_eq (by rwa [offered_sampleCount])]
    exact ⟨offered_sampleCount sort 400 depths, offered_emptyCount sort 400 depths⟩
  rw [validatePreparedTrackQueueMetrics_ok_iff h.prePause h.postResume,
    hhealthy hbefore fun depth hdepth ↦ hmeasured depth (List.mem_append_left _ hdepth),
    hhealthy hafter fun depth hdepth ↦ hmeasured depth (List.mem_append_right _ hdepth),
    (hcounts hbefore).1, (hcounts hbefore).2, (hcounts hafter).1, (hcounts hafter).2, h.target,
    h.low, h.high, h.sampleCount, h.emptyCount, ne_eq, List.length_eq_zero_iff]
  constructor
  · rintro ⟨-, -, -, hprePause, hpostResume, -⟩
    exact ⟨hprePause, hpostResume⟩
  · rintro ⟨hprePause, hpostResume⟩
    exact ⟨rfl, Nat.le_refl 300, Nat.le_refl 500, hprePause, hpostResume, rfl, rfl⟩

end SeesDepths

/-- The gates on the queue depths, of every playback whose collector was told depths that were
measured: the recount of the raw samples never refuses, and the thresholds on the statistics hold
if and only if the depths of each phase, from the first on that reaches the target, are never
outside 200 to 500 ms, seldom below 300 ms and half the time between 340 and 460 ms. -/
theorem queueDepths_accepted_iff (sort : UnstableSort)
    (calls : List PreparedTrackQueueDepths.Call)
    (sendEvents : List Evidence.PlaybackSendEventRecord)
    (queueEvents : Media.PlaybackStabilityCollector) (label : String)
    (requirePostResumePhase : Bool)
    (htold : ∀ call ∈ calls, call.Told) (hlength : calls.length < 2 ^ 64) :
    let metrics := playbackMetrics (Evidence.snapshot sort
      (calls.foldl PreparedTrackQueueDepths.call (.new 400 300 500)) sendEvents queueEvents)
    let prePause := warmDepths 400 (PreparedTrackQueueDepths.beforeResume calls)
    let postResume := warmDepths 400 (PreparedTrackQueueDepths.afterResume calls)
    validateRawPreparedTrackQueueSamples sort metrics label requirePostResumePhase = .ok () ∧
      (validatePreparedTrackQueueMetrics metrics label requirePostResumePhase = .ok () ↔
        Healthy prePause ∧
          (requirePostResumePhase = true ∨ postResume ≠ [] → Healthy postResume)) := by
  have hsees := sees_run sort calls sendEvents queueEvents
  obtain ⟨hphases, hbefore, hafter⟩ := PreparedTrackQueueDepths.told_phases calls
  have hfits {depths : List OpusBufferDepth} (hdepths : depths.length ≤ calls.length) :
      (warmDepths 400 depths).length < 2 ^ 64 :=
    Nat.lt_of_le_of_lt ((List.dropWhile_sublist _).length_le.trans hdepths) hlength
  have hmeasured (depth : OpusBufferDepth)
      (hdepth : depth ∈ PreparedTrackQueueDepths.beforeResume calls ++
        PreparedTrackQueueDepths.afterResume calls) : Measured depth := by
    obtain ⟨queue, pending, rfl⟩ := htold _ (hphases depth hdepth)
    rfl
  exact ⟨hsees.raw_ok (hfits hbefore) (hfits hafter) label requirePostResumePhase,
    hsees.metrics_ok_iff (hfits hbefore) (hfits hafter) hmeasured label requirePostResumePhase⟩

theorem queueDepths_accepted_iff_twentyFrames :
    let queue : Media.Counted.PreparedPlayoutQueue := ⟨[], 20, 2000, 19200⟩
    let depth := preparedPlayoutDepthWithPending queue []
    let calls := [PreparedTrackQueueDepths.Call.recordPreparedTrackQueueDepth depth,
      .recordResumedFromPause, .recordPreparedTrackQueueDepth depth]
    validatePreparedTrackQueueMetrics (playbackMetrics (Evidence.snapshot .insertion
      (calls.foldl PreparedTrackQueueDepths.call (.new 400 300 500)) [] (.collect [])))
      "playback" true = .ok () := by
  intro queue depth calls
  have htold : ∀ call ∈ calls, call.Told := by
    intro call hcall
    simp only [calls, List.mem_cons, List.not_mem_nil, or_false] at hcall
    rcases hcall with rfl | rfl | rfl
    · exact ⟨queue, [], rfl⟩
    · trivial
    · exact ⟨queue, [], rfl⟩
  have hhealthy : Healthy [depth] :=
    ⟨by decide, by decide, by decide, by decide, by decide⟩
  exact (queueDepths_accepted_iff .insertion calls [] (.collect []) "playback" true htold
    (by decide)).2.mpr ⟨hhealthy, fun _ ↦ hhealthy⟩

end Samples

end DiscordVoice.Validation
