import DiscordVoice.Media.PreparedQueue
import DiscordVoice.Session.Evidence

namespace DiscordVoice.Session.Evidence

open Media Playback

namespace PlaybackQueueDepthStatsSnapshot

variable {Depth Depth' : Type}

/-- The statistics of samples that are read behind the wire are those of the samples before it. -/
theorem fromSamples_map (sort : UnstableSort) (f : Depth → Depth') (durationSamples : Depth' → ℕ)
    (depth : Depth) (samples : List Depth) (emptyCount : ℕ) :
    fromSamples sort durationSamples (f depth) (samples.map f) emptyCount =
      (fromSamples sort (durationSamples ∘ f) depth samples emptyCount).map f := by
  unfold fromSamples
  rw [List.isEmpty_map]
  split
  · rfl
  · simp only [map, sort.natural, List.length_map, List.getD_eq_getElem?_getD, List.getElem?_map,
      Option.getD_map]

end PlaybackQueueDepthStatsSnapshot

/-- `PendingDeadlineCommand::track_depth`. -/
def trackDepth (pending : PendingDeadlineCommand) : OpusBufferDepth :=
  match pending.frame with
  | none => defaultDepth
  | some frame => ⟨1, frame.byteLen, frame.durationMs, frame.samples⟩

def pendingDeadlineTrackDepth (pendingDeadlineCommands : List PendingDeadlineCommand) :
    OpusBufferDepth :=
  pendingDeadlineCommands.foldl (fun depth pending ↦
    let durationSamples := saturatingAdd depth.durationSamples (trackDepth pending).durationSamples
    { packets := saturatingAdd depth.packets (trackDepth pending).packets
      bytes := saturatingAdd depth.bytes (trackDepth pending).bytes
      durationMs := durationMsFromSamples durationSamples
      durationSamples }) defaultDepth

/-- The depth that the driver tells: what it has prepared, and what its sender has not sent yet. -/
def preparedPlayoutDepthWithPending (preparedPlayoutQueue : Media.Counted.PreparedPlayoutQueue)
    (pendingDeadlineCommands : List PendingDeadlineCommand) : OpusBufferDepth :=
  let depth := preparedPlayoutQueue.depth
  let pendingDepth := pendingDeadlineTrackDepth pendingDeadlineCommands
  let durationSamples := saturatingAdd depth.durationSamples pendingDepth.durationSamples
  { packets := saturatingAdd depth.packets pendingDepth.packets
    bytes := saturatingAdd depth.bytes pendingDepth.bytes
    durationMs := durationMsFromSamples durationSamples
    durationSamples }

/-- The depths from the first on that reaches the target. -/
def warmDepths (targetMs : ℕ) (depths : List OpusBufferDepth) : List OpusBufferDepth :=
  depths.dropWhile (·.durationSamples < Counted.samplesFromDurationMsU64 targetMs)

def emptyDepths (samples : List OpusBufferDepth) : ℕ :=
  min (samples.countP (·.durationSamples = 0)) (2 ^ 64 - 1)

theorem emptyDepths_concat (samples : List OpusBufferDepth) (depth : OpusBufferDepth) :
    emptyDepths (samples ++ [depth]) =
      if depth.durationSamples = 0 then saturatingAdd (emptyDepths samples) 1
      else emptyDepths samples := by
  unfold emptyDepths saturatingAdd
  rw [List.countP_append, List.countP_singleton]
  by_cases hzero : depth.durationSamples = 0
  · simp only [hzero, decide_true, if_true]
    omega
  · simp [hzero]

def offered (targetMs : ℕ) (depths : List OpusBufferDepth) : PreparedTrackQueueDepthCollector where
  warmed := !(warmDepths targetMs depths).isEmpty
  samples := warmDepths targetMs depths
  emptyCount := emptyDepths (warmDepths targetMs depths)

theorem record_offered (targetMs : ℕ) (depths : List OpusBufferDepth) (depth : OpusBufferDepth) :
    ∃ recorded, (offered targetMs depths).record depth targetMs =
        (recorded, offered targetMs (depths ++ [depth])) ∧
      warmDepths targetMs (depths ++ [depth]) =
        warmDepths targetMs depths ++ if recorded then [depth] else [] := by
  have happend : warmDepths targetMs (depths ++ [depth]) =
      if (warmDepths targetMs depths).isEmpty then warmDepths targetMs [depth]
      else warmDepths targetMs depths ++ [depth] :=
    List.dropWhile_append
  have hsingle : warmDepths targetMs [depth] =
      if depth.durationSamples < Counted.samplesFromDurationMsU64 targetMs then [] else [depth] := by
    simp [warmDepths, List.dropWhile_cons]
  by_cases hwarm : (warmDepths targetMs depths).isEmpty
  · rw [if_pos hwarm, hsingle] at happend
    by_cases hlow : depth.durationSamples < Counted.samplesFromDurationMsU64 targetMs
    · rw [if_pos hlow] at happend
      refine ⟨false, ?_, by simp_all⟩
      rw [PreparedTrackQueueDepthCollector.record, if_pos (by simp [offered, hwarm, hlow])]
      simp_all [offered]
    · rw [if_neg hlow] at happend
      refine ⟨true, ?_, by simp_all⟩
      rw [PreparedTrackQueueDepthCollector.record, if_neg (by simp [hlow])]
      have hcount := emptyDepths_concat [] depth
      simp_all [offered]
  · rw [if_neg hwarm] at happend
    refine ⟨true, ?_, by simp [happend]⟩
    rw [PreparedTrackQueueDepthCollector.record, if_neg (by simp [offered, hwarm])]
    simp [offered, happend, emptyDepths_concat]

def numbered (samples : List (PreparedTrackQueueSamplePhase × OpusBufferDepth)) :
    List PreparedTrackQueueDepthSampleSnapshot :=
  samples.mapIdx fun index sample ↦ ⟨index, sample.1, sample.2⟩

namespace PreparedTrackQueueDepths

/-- The driver tells the depth of its queue and of what its sender has pending. -/
def Call.Told : Call → Prop
  | .recordPreparedTrackQueueDepth depth =>
    ∃ queue pending, depth = preparedPlayoutDepthWithPending queue pending
  | .recordResumedFromPause => True

def Call.depth? : Call → Option OpusBufferDepth
  | .recordPreparedTrackQueueDepth depth => some depth
  | .recordResumedFromPause => none

/-- The depths that are told before playback is resumed, and after. -/
def beforeResume : List Call → List OpusBufferDepth
  | [] => []
  | .recordPreparedTrackQueueDepth depth :: calls => depth :: beforeResume calls
  | .recordResumedFromPause :: _ => []

def afterResume : List Call → List OpusBufferDepth
  | [] => []
  | .recordPreparedTrackQueueDepth _ :: calls => afterResume calls
  | .recordResumedFromPause :: calls => calls.filterMap Call.depth?

theorem told_phases (calls : List Call) :
    (∀ depth ∈ beforeResume calls ++ afterResume calls,
        .recordPreparedTrackQueueDepth depth ∈ calls) ∧
      (beforeResume calls).length ≤ calls.length ∧ (afterResume calls).length ≤ calls.length := by
  induction calls with
  | nil => exact ⟨nofun, Nat.le_refl 0, Nat.le_refl 0⟩
  | cons x calls ih =>
    obtain ⟨hmem, hbefore, hafter⟩ := ih
    cases x with
    | recordPreparedTrackQueueDepth depth =>
      refine ⟨fun d hd ↦ ?_, Nat.succ_le_succ hbefore, Nat.le_succ_of_le hafter⟩
      rcases List.mem_cons.mp hd with rfl | hd
      · exact List.mem_cons_self
      · exact List.mem_cons_of_mem _ (hmem d hd)
    | recordResumedFromPause =>
      refine ⟨fun d hd ↦ ?_, Nat.zero_le _,
        Nat.le_succ_of_le (List.length_filterMap_le Call.depth? calls)⟩
      obtain ⟨y, hy, hdepth⟩ := List.mem_filterMap.mp hd
      cases y with
      | recordPreparedTrackQueueDepth depth =>
        obtain rfl := Option.some.inj hdepth
        exact List.mem_cons_of_mem _ hy
      | recordResumedFromPause => cases hdepth

/-- What the collector keeps of the depths before and after playback was resumed. -/
structure Sampled (targetMs : ℕ) (before after : List OpusBufferDepth)
    (c : PreparedTrackQueueDepths) : Prop where
  target : c.targetMs = targetMs
  prePause : c.activePrePause = offered targetMs before
  postResume : c.activePostResume = offered targetMs after
  raw : c.rawSamples = numbered ((warmDepths targetMs before).map (.activePrePause, ·) ++
    (warmDepths targetMs after).map (.activePostResume, ·))
  notYet : c.phase = .prePause → after = []

namespace Sampled

variable {targetMs : ℕ} {before after : List OpusBufferDepth} {c : PreparedTrackQueueDepths}

theorem new (targetMs lowWatermarkMs highWatermarkMs : ℕ) :
    Sampled targetMs [] [] (.new targetMs lowWatermarkMs highWatermarkMs) :=
  ⟨rfl, rfl, rfl, rfl, fun _ ↦ rfl⟩

theorem numbered_concat (samples : List (PreparedTrackQueueSamplePhase × OpusBufferDepth))
    (phase : PreparedTrackQueueSamplePhase) (depth : OpusBufferDepth) :
    numbered (samples ++ [(phase, depth)]) =
      numbered samples ++ [⟨(numbered samples).length, phase, depth⟩] := by
  rw [numbered, List.mapIdx_concat, numbered, List.length_mapIdx]

theorem record_prePause (h : Sampled targetMs before after c) (hphase : c.phase = .prePause)
    (depth : OpusBufferDepth) : Sampled targetMs (before ++ [depth]) after
      (c.recordPreparedTrackQueueDepth depth) := by
  obtain rfl := h.target
  obtain ⟨recorded, hrecord, hwarm⟩ := record_offered c.targetMs before depth
  have hafter := h.notYet hphase
  have hraw := h.raw
  rw [← h.prePause] at hrecord
  simp only [recordPreparedTrackQueueDepth, hphase, hrecord]
  cases recorded with
  | false =>
    rw [if_neg Bool.false_ne_true, List.append_nil] at hwarm
    refine ⟨rfl, rfl, h.postResume, ?_, fun _ ↦ hafter⟩
    rw [hwarm]
    exact hraw
  | true =>
    rw [if_pos rfl] at hwarm
    have hnone : warmDepths c.targetMs after = [] := by
      rw [hafter]
      rfl
    refine ⟨rfl, rfl, h.postResume, ?_, fun _ ↦ hafter⟩
    rw [hnone, List.map_nil, List.append_nil] at hraw ⊢
    rw [if_pos rfl, hwarm, List.map_append, List.map_singleton, numbered_concat, hraw]

theorem record_postResume (h : Sampled targetMs before after c) (hphase : c.phase = .postResume)
    (depth : OpusBufferDepth) : Sampled targetMs before (after ++ [depth])
      (c.recordPreparedTrackQueueDepth depth) := by
  obtain rfl := h.target
  obtain ⟨recorded, hrecord, hwarm⟩ := record_offered c.targetMs after depth
  have hraw := h.raw
  rw [← h.postResume] at hrecord
  simp only [recordPreparedTrackQueueDepth, hphase, hrecord]
  cases recorded with
  | false =>
    rw [if_neg Bool.false_ne_true, List.append_nil] at hwarm
    refine ⟨rfl, h.prePause, rfl, ?_, fun hpre ↦ nomatch hpre⟩
    rw [hwarm]
    exact hraw
  | true =>
    rw [if_pos rfl] at hwarm
    refine ⟨rfl, h.prePause, rfl, ?_, fun hpre ↦ nomatch hpre⟩
    rw [if_pos rfl, hwarm, List.map_append, List.map_singleton, ← List.append_assoc,
      numbered_concat, ← hraw]

theorem record_phase (c : PreparedTrackQueueDepths) (depth : OpusBufferDepth) :
    (c.recordPreparedTrackQueueDepth depth).phase = c.phase := by
  unfold recordPreparedTrackQueueDepth
  cases hphase : c.phase <;> dsimp only <;> split <;> rfl

theorem resumed (h : Sampled targetMs before after c) :
    Sampled targetMs before after c.recordResumedFromPause :=
  ⟨h.target, h.prePause, h.postResume, h.raw, fun hphase ↦ nomatch hphase⟩

theorem run_postResume (h : Sampled targetMs before after c) (hphase : c.phase = .postResume)
    (calls : List Call) :
    Sampled targetMs before (after ++ calls.filterMap Call.depth?) (calls.foldl call c) := by
  induction calls generalizing after c with
  | nil => simpa using h
  | cons x calls ih =>
    cases x with
    | recordPreparedTrackQueueDepth depth =>
      have hnext := ih (h.record_postResume hphase depth) (by rw [record_phase, hphase])
      rwa [List.append_assoc] at hnext
    | recordResumedFromPause => exact ih h.resumed rfl

theorem run (h : Sampled targetMs before after c) (hphase : c.phase = .prePause)
    (calls : List Call) :
    Sampled targetMs (before ++ beforeResume calls) (afterResume calls) (calls.foldl call c) := by
  obtain rfl := h.notYet hphase
  induction calls generalizing before c with
  | nil => simpa [beforeResume, afterResume] using h
  | cons x calls ih =>
    cases x with
    | recordPreparedTrackQueueDepth depth =>
      have hnext := ih (by rw [record_phase, hphase]) (h.record_prePause hphase depth)
      rwa [List.append_assoc] at hnext
    | recordResumedFromPause =>
      rw [beforeResume, List.append_nil]
      exact run_postResume h.resumed rfl calls

end Sampled

end PreparedTrackQueueDepths

end DiscordVoice.Session.Evidence
