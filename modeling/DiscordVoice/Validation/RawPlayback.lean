import DiscordVoice.Checking
import DiscordVoice.RunWindows
import DiscordVoice.Playback.CountedQueue
import DiscordVoice.Session.TempoWindows
import DiscordVoice.Twilight.Snapshots

namespace DiscordVoice.Validation

open Fallible Checking RunWindows Playback Playback.Counted Session Twilight

def sourcePlaybackBufferTargetMs : ℕ := 5000

def sourcePositionContinuityToleranceMs : ℕ := 1

def sendTempoWindowPackets : ℕ := 50

structure RawTrackSend where
  packetIndex : ℕ
  sendStartedOffsetUs : ℕ
  durationUs : ℕ
  durationMs : ℕ
  durationSamples : UInt32
  mediaPositionMs : ℕ
  mediaPositionSamples : ℕ
  deriving DecidableEq, Repr

structure RecomputedRawPlayback where
  trackSegmentCount : ℕ
  trackPacketCount : ℕ
  trackMediaDurationSentUs : ℕ
  trackMediaDurationSentMs : ℕ
  trackWallClockElapsedMs : ℕ
  trackMediaToWallClockRatioPpm : ℕ
  trackFastIntervalCount : ℕ
  trackFastIntervalMinUs : ℕ
  trackTempoWindowCount : ℕ
  trackTempoWindowPostSourceBufferCount : ℕ
  trackTempoWindowMinRatioPpm : ℕ
  trackTempoWindowMaxRatioPpm : ℕ
  trackTempoWindowFastCount : ℕ
  trackTempoWindowSlowCount : ℕ
  skippedSourceFrameCount : ℕ
  skippedSourceDurationMs : ℕ
  skippedSourceDurationSamples : ℕ
  pauseBoundarySilencePacketCount : ℕ
  deriving DecidableEq, Repr

def RecomputedRawPlayback.default : RecomputedRawPlayback :=
  ⟨0, 0, 0, 0, 0, 0, 0, 0, 0, 0, 0, 0, 0, 0, 0, 0, 0, 0⟩

def ratioPpmUs (mediaDurationUs wallClockDurationUs : ℕ) : ℕ :=
  if mediaDurationUs = 0 ∨ wallClockDurationUs = 0 then 0
  else min (mediaDurationUs * 1000000 / wallClockDurationUs) (2 ^ 64 - 1)

def durationUsFromSamples (durationSamples : UInt32) : ℕ :=
  min (durationSamples.toNat * 1000000) (2 ^ 64 - 1) / 48000

/-- The variables of the loop of `recompute_raw_playback` over the sent packets. -/
structure RawPlayback where
  recomputed : RecomputedRawPlayback
  segments : List (List RawTrackSend)
  currentSegment : List RawTrackSend
  allTracks : List RawTrackSend
  deriving DecidableEq, Repr

def RawPlayback.start : RawPlayback := ⟨.default, [], [], []⟩

def RawPlayback.finishTrackSegment (s : RawPlayback) : RawPlayback :=
  if s.currentSegment.isEmpty then s
  else { s with segments := s.segments ++ [s.currentSegment], currentSegment := [] }

def rawTrackSend (label : String) (event : PlaybackSendEventSnapshot) :
    Except String RawTrackSend := do
  let mediaPositionMs ← event.sourceMediaPositionMs.elim
    (.error s!"{label} raw track send lacked source_media_position_ms") .ok
  let mediaPositionSamples ← event.sourceMediaPositionSamples.elim
    (.error s!"{label} raw track send lacked source_media_position_samples") .ok
  return {
    packetIndex := event.packetIndex
    sendStartedOffsetUs := event.sendStartedOffsetUs
    durationUs := durationUsFromSamples event.mediaDurationSamples
    durationMs := event.mediaDurationMs
    durationSamples := event.mediaDurationSamples
    mediaPositionMs
    mediaPositionSamples }

def RawPlayback.addTrack (s : RawPlayback) (track : RawTrackSend) : RawPlayback :=
  { s with
    recomputed := { s.recomputed with
      trackPacketCount := saturatingAdd s.recomputed.trackPacketCount 1
      trackMediaDurationSentUs :=
        saturatingAdd s.recomputed.trackMediaDurationSentUs track.durationUs }
    currentSegment := s.currentSegment ++ [track]
    allTracks := s.allTracks ++ [track] }

def RawPlayback.add (label : String) (s : RawPlayback) (event : PlaybackSendEventSnapshot) :
    Except String RawPlayback :=
  match event.commandKind with
  | .track => do
    let track ← rawTrackSend label event
    return s.addTrack track
  | .boundarySilence =>
    return { s with recomputed := { s.recomputed with
      pauseBoundarySilencePacketCount :=
        saturatingAdd s.recomputed.pauseBoundarySilencePacketCount 1 } }.finishTrackSegment
  | .scheduledSilence | .otherBoundary | .unspecified => return s.finishTrackSegment

def addWallClock (wallClockElapsedUs : ℕ) (segment : List RawTrackSend) : ℕ :=
  match segment.head?, segment.getLast? with
  | some first, some last =>
    saturatingAdd (saturatingAdd wallClockElapsedUs
      (last.sendStartedOffsetUs - first.sendStartedOffsetUs)) last.durationUs
  | _, _ => wallClockElapsedUs

namespace RecomputedRawPlayback

def addInterval (r : RecomputedRawPlayback) (previous current : RawTrackSend) :
    RecomputedRawPlayback :=
  let intervalUs := current.sendStartedOffsetUs - previous.sendStartedOffsetUs
  if intervalUs < previous.durationUs then
    { r with
      trackFastIntervalCount := saturatingAdd r.trackFastIntervalCount 1
      trackFastIntervalMinUs :=
        if r.trackFastIntervalMinUs = 0 then intervalUs
        else min r.trackFastIntervalMinUs intervalUs }
  else r

def recomputeTempoWindow (r : RecomputedRawPlayback) (window : List RawTrackSend) :
    RecomputedRawPlayback :=
  match window.head?, window.getLast? with
  | some first, some last =>
    let mediaDurationUs := window.foldl (fun total packet ↦ saturatingAdd total packet.durationUs) 0
    let wallClockDurationUs :=
      saturatingAdd (last.sendStartedOffsetUs - first.sendStartedOffsetUs) last.durationUs
    let ratio := ratioPpmUs mediaDurationUs wallClockDurationUs
    { r with
      trackTempoWindowCount := saturatingAdd r.trackTempoWindowCount 1
      trackTempoWindowPostSourceBufferCount :=
        if first.mediaPositionSamples ≥ samplesFromDurationMsU64 sourcePlaybackBufferTargetMs then
          saturatingAdd r.trackTempoWindowPostSourceBufferCount 1
        else r.trackTempoWindowPostSourceBufferCount
      trackTempoWindowMinRatioPpm :=
        if r.trackTempoWindowMinRatioPpm = 0 then ratio
        else min r.trackTempoWindowMinRatioPpm ratio
      trackTempoWindowMaxRatioPpm := max r.trackTempoWindowMaxRatioPpm ratio
      trackTempoWindowFastCount :=
        if ratio > 1020000 then saturatingAdd r.trackTempoWindowFastCount 1
        else r.trackTempoWindowFastCount
      trackTempoWindowSlowCount :=
        if ratio < 980000 then saturatingAdd r.trackTempoWindowSlowCount 1
        else r.trackTempoWindowSlowCount }
  | _, _ => r

def addSegment (r : RecomputedRawPlayback) (segment : List RawTrackSend) : RecomputedRawPlayback :=
  let r := (segment.zip segment.tail).foldl (fun r pair ↦ r.addInterval pair.1 pair.2) r
  (windows sendTempoWindowPackets segment).foldl recomputeTempoWindow r

end RecomputedRawPlayback

/-- A pair of the track's packets that follow one another. -/
def checkSourcePosition (label : String) (previous current : RawTrackSend) : Except String Unit := do
  let expectedNextPositionSamples :=
    saturatingAdd previous.mediaPositionSamples previous.durationSamples.toNat
  bailIf (current.mediaPositionSamples < expectedNextPositionSamples)
    s!"{label} raw source position moved backward or replayed: previous_position_samples={previous.mediaPositionSamples} previous_duration_samples={previous.durationSamples} expected_next_position_samples={expectedNextPositionSamples} current_position_samples={current.mediaPositionSamples}"
  let skippedSamples := current.mediaPositionSamples - expectedNextPositionSamples
  bailIf (current.mediaPositionSamples > saturatingAdd expectedNextPositionSamples
      (samplesFromDurationMsU64 sourcePositionContinuityToleranceMs))
    s!"{label} sender_source_skipped_ahead: raw source position jumped forward during playback (previous_packet_index={previous.packetIndex} current_packet_index={current.packetIndex} previous_position_ms={previous.mediaPositionMs} previous_position_samples={previous.mediaPositionSamples} previous_duration_ms={previous.durationMs} previous_duration_samples={previous.durationSamples} expected_next_position_ms={durationMsFromSamples expectedNextPositionSamples} expected_next_position_samples={expectedNextPositionSamples} current_position_ms={current.mediaPositionMs} current_position_samples={current.mediaPositionSamples} skipped_source_duration_ms={durationMsFromSamples skippedSamples} skipped_source_duration_samples={skippedSamples} tolerance_ms={sourcePositionContinuityToleranceMs} tolerance_samples={samplesFromDurationMsU64 sourcePositionContinuityToleranceMs})"

def checkSourcePositions (label : String) : List RawTrackSend → Except String Unit
  | previous :: current :: tracks => do
    checkSourcePosition label previous current
    checkSourcePositions label (current :: tracks)
  | _ => .ok ()

/-- What `recompute_raw_playback` makes of the packets once they are sorted. -/
def RawPlayback.recount (s : RawPlayback) : RecomputedRawPlayback :=
  let wallClockElapsedUs := s.segments.foldl addWallClock 0
  let r := s.segments.foldl RecomputedRawPlayback.addSegment
    { s.recomputed with trackSegmentCount := s.segments.length }
  { r with
    trackMediaDurationSentMs := r.trackMediaDurationSentUs / 1000
    trackWallClockElapsedMs := wallClockElapsedUs / 1000
    trackMediaToWallClockRatioPpm := ratioPpmUs r.trackMediaDurationSentUs wallClockElapsedUs }

def recomputeRawPlayback (metrics : PlaybackStabilitySnapshot) (label : String) :
    Except String RecomputedRawPlayback := do
  let s ← metrics.rawSendEvents.foldlM (RawPlayback.add label) .start
  let s := s.finishTrackSegment
  checkSourcePositions label s.allTracks
  return s.recount

/-- The packet of the track that an event tells of. -/
def rawItem (event : PlaybackSendEventSnapshot) : Option RawTrackSend :=
  if event.commandKind = .track then (rawTrackSend "" event).toOption else none

/-- The packets of the track tell where in the source they are. -/
def Placed (event : PlaybackSendEventSnapshot) : Prop :=
  event.commandKind = .track →
    event.sourceMediaPositionMs ≠ none ∧ event.sourceMediaPositionSamples ≠ none

/-- What the loop has of the packets it has passed. -/
structure Sorted (items : List (Option RawTrackSend)) (s : RawPlayback) : Prop where
  runs_eq : ∃ closed, runs items = closed ++ [s.currentSegment] ∧
    s.segments = closed.filter (!·.isEmpty)
  tracks : s.allTracks = items.reduceOption
  packetCount : s.recomputed.trackPacketCount = u64Counter items.reduceOption.length
  media : s.recomputed.trackMediaDurationSentUs =
    u64Counter (items.reduceOption.map (·.durationUs)).sum
  windowCount : s.recomputed.trackTempoWindowCount = 0

theorem u64Counter_add (n k : ℕ) : saturatingAdd (u64Counter n) k = u64Counter (n + k) := by
  unfold saturatingAdd u64Counter
  omega

namespace Sorted

variable {items : List (Option RawTrackSend)} {s : RawPlayback}

theorem start : Sorted [] .start := ⟨⟨[], rfl, rfl⟩, rfl, rfl, rfl, rfl⟩

theorem track (h : Sorted items s) (track : RawTrackSend) :
    Sorted (items ++ [some track]) (s.addTrack track) := by
  obtain ⟨closed, hruns, hsegments⟩ := h.runs_eq
  obtain ⟨others, current, hruns', -, hitem⟩ := runs_concat items
  obtain ⟨rfl, hcurrent⟩ := List.append_inj' (hruns.symm.trans hruns') rfl
  obtain rfl := List.singleton_inj.mp hcurrent
  have hreduce : (items ++ [some track]).reduceOption = items.reduceOption ++ [track] := by
    rw [List.reduceOption_append]
    rfl
  refine ⟨⟨closed, hitem track, hsegments⟩, ?_, ?_, ?_, h.windowCount⟩
  · rw [hreduce, ← h.tracks]
    rfl
  · rw [hreduce, List.length_append, List.length_singleton, ← u64Counter_add, ← h.packetCount]
    rfl
  · rw [hreduce, List.map_append, List.sum_append, List.map_singleton, List.sum_singleton,
      ← u64Counter_add, ← h.media]
    rfl

theorem other (h : Sorted items s) : Sorted (items ++ [none]) s.finishTrackSegment := by
  obtain ⟨closed, hruns, hsegments⟩ := h.runs_eq
  obtain ⟨others, current, hruns', hcut, -⟩ := runs_concat items
  obtain ⟨rfl, hcurrent⟩ := List.append_inj' (hruns.symm.trans hruns') rfl
  obtain rfl := List.singleton_inj.mp hcurrent
  have hreduce : (items ++ [none]).reduceOption = items.reduceOption := by
    rw [List.reduceOption_append]
    exact List.append_nil _
  unfold RawPlayback.finishTrackSegment
  split
  · rename_i hempty
    have hnil := List.isEmpty_iff.mp hempty
    refine ⟨⟨closed ++ [s.currentSegment], ?_, ?_⟩, ?_, ?_, ?_, h.windowCount⟩
    · rw [hcut, hnil]
    · rw [List.filter_append, hsegments, hnil]
      simp
    all_goals rw [hreduce]
    · exact h.tracks
    · exact h.packetCount
    · exact h.media
  · rename_i hsome
    refine ⟨⟨closed ++ [s.currentSegment], hcut, ?_⟩, ?_, ?_, ?_, h.windowCount⟩
    · rw [List.filter_append, hsegments]
      simp [hsome]
    all_goals rw [hreduce]
    · exact h.tracks
    · exact h.packetCount
    · exact h.media

theorem paused (h : Sorted items s) (n : ℕ) :
    Sorted items { s with recomputed := { s.recomputed with pauseBoundarySilencePacketCount := n } } :=
  ⟨h.runs_eq, h.tracks, h.packetCount, h.media, h.windowCount⟩

end Sorted

section Events

variable {label : String} {event : PlaybackSendEventSnapshot} {s t : RawPlayback}
variable {items : List (Option RawTrackSend)}

theorem rawTrackSend_ok_iff {track : RawTrackSend} :
    rawTrackSend label event = .ok track ↔ ∃ ms ∈ event.sourceMediaPositionMs,
      ∃ samples ∈ event.sourceMediaPositionSamples,
        track = ⟨event.packetIndex, event.sendStartedOffsetUs,
          durationUsFromSamples event.mediaDurationSamples, event.mediaDurationMs,
          event.mediaDurationSamples, ms, samples⟩ := by
  unfold rawTrackSend
  cases event.sourceMediaPositionMs with
  | none => simp [except_bind_ok_iff]
  | some ms =>
    cases event.sourceMediaPositionSamples with
    | none => simp
    | some samples => simp [pure, Except.pure, eq_comm]

theorem rawItem_track (hkind : event.commandKind = .track) {track : RawTrackSend}
    (h : rawTrackSend label event = .ok track) : rawItem event = some track := by
  have hother : rawTrackSend "" event = .ok track :=
    rawTrackSend_ok_iff.mpr (rawTrackSend_ok_iff.mp h)
  rw [rawItem, if_pos hkind, hother]
  rfl

theorem RawPlayback.add_sorted (h : Sorted items s) (hadd : s.add label event = .ok t) :
    Placed event ∧ Sorted (items ++ [rawItem event]) t := by
  have hnot (hkind : event.commandKind ≠ .track) : Placed event ∧ rawItem event = none :=
    ⟨fun htrack ↦ absurd htrack hkind, if_neg hkind⟩
  unfold RawPlayback.add at hadd
  split at hadd
  · rename_i hkind
    obtain ⟨track, htrack, ht⟩ := except_bind_ok_iff.mp hadd
    obtain rfl := Except.ok.inj ht
    obtain ⟨ms, hms, samples, hsamples, -⟩ := rawTrackSend_ok_iff.mp htrack
    refine ⟨fun _ ↦ ⟨by simp [Option.mem_def.mp hms], by simp [Option.mem_def.mp hsamples]⟩, ?_⟩
    rw [rawItem_track hkind htrack]
    exact h.track track
  · rename_i hkind
    obtain rfl := Except.ok.inj hadd
    obtain ⟨hplaced, hitem⟩ := hnot (by rw [hkind]; decide)
    rw [hitem]
    exact ⟨hplaced, (h.paused _).other⟩
  all_goals
    rename_i hkind
    obtain rfl := Except.ok.inj hadd
    obtain ⟨hplaced, hitem⟩ := hnot (by rw [hkind]; decide)
    rw [hitem]
    exact ⟨hplaced, h.other⟩

theorem RawPlayback.exists_add (label : String) (s : RawPlayback) (h : Placed event) :
    ∃ t, s.add label event = .ok t := by
  unfold RawPlayback.add
  split
  · rename_i hkind
    obtain ⟨hms, hsamples⟩ := h hkind
    obtain ⟨ms, hms⟩ := Option.ne_none_iff_exists'.mp hms
    obtain ⟨samples, hsamples⟩ := Option.ne_none_iff_exists'.mp hsamples
    exact ⟨_, except_bind_ok_iff.mpr
      ⟨_, rawTrackSend_ok_iff.mpr ⟨ms, hms, samples, hsamples, rfl⟩, rfl⟩⟩
  all_goals exact ⟨_, rfl⟩

theorem foldlM_concat_ok_iff {events : List PlaybackSendEventSnapshot} :
    (events ++ [event]).foldlM (RawPlayback.add label) s = .ok t ↔
      ∃ u, events.foldlM (RawPlayback.add label) s = .ok u ∧ u.add label event = .ok t := by
  rw [List.foldlM_append, except_bind_ok_iff]
  simp only [List.foldlM_cons, List.foldlM_nil, bind_pure]

/-- The loop sorts the packets unless one of the track does not tell its place. -/
theorem foldlM_add (label : String) (events : List PlaybackSendEventSnapshot) :
    (∀ s, events.foldlM (RawPlayback.add label) .start = .ok s →
        (∀ event ∈ events, Placed event) ∧ Sorted (events.map rawItem) s) ∧
      ((∀ event ∈ events, Placed event) →
        ∃ s, events.foldlM (RawPlayback.add label) .start = .ok s) := by
  induction events using List.reverseRecOn with
  | nil =>
    refine ⟨fun s hs ↦ ⟨nofun, ?_⟩, fun _ ↦ ⟨_, rfl⟩⟩
    obtain rfl := Except.ok.inj hs
    exact .start
  | append_singleton events event ih =>
    refine ⟨fun t ht ↦ ?_, fun hall ↦ ?_⟩
    · obtain ⟨s, hs, hadd⟩ := foldlM_concat_ok_iff.mp ht
      obtain ⟨hplaced, hsorted⟩ := ih.1 s hs
      obtain ⟨hevent, hnext⟩ := RawPlayback.add_sorted hsorted hadd
      rw [List.map_append, List.map_singleton]
      refine ⟨fun e he ↦ ?_, hnext⟩
      rcases List.mem_append.mp he with he | he
      · exact hplaced e he
      · exact List.mem_singleton.mp he ▸ hevent
    · obtain ⟨s, hs⟩ := ih.2 fun e he ↦ hall e (List.mem_append_left _ he)
      obtain ⟨t, ht⟩ := RawPlayback.exists_add label s (hall event List.mem_concat_self)
      exact ⟨t, foldlM_concat_ok_iff.mpr ⟨s, hs, ht⟩⟩

end Events

/-- A packet of the track takes up the source where the one before it left off, or skips up to a
millisecond. -/
def TakesUp (previous current : RawTrackSend) : Prop :=
  saturatingAdd previous.mediaPositionSamples previous.durationSamples.toNat ≤
      current.mediaPositionSamples ∧
    current.mediaPositionSamples ≤
      saturatingAdd (saturatingAdd previous.mediaPositionSamples previous.durationSamples.toNat) 48

theorem checkSourcePositions_ok_iff {label : String} {tracks : List RawTrackSend} :
    checkSourcePositions label tracks = .ok () ↔ tracks.IsChain TakesUp := by
  induction tracks with
  | nil => simp [checkSourcePositions]
  | cons previous tracks ih =>
    cases tracks with
    | nil => simp [checkSourcePositions]
    | cons current tracks =>
      have hpair : checkSourcePosition label previous current = .ok () ↔
          TakesUp previous current := by
        simp only [checkSourcePosition, check_bind_ok_iff, bailIf_ok_iff]
        rw [TakesUp, not_lt, gt_iff_lt, not_lt]
        rfl
      rw [checkSourcePositions, check_bind_ok_iff, hpair, ih, List.isChain_cons_cons]

namespace RecomputedRawPlayback

/-- What the segments of the track do not change. -/
def beside (r : RecomputedRawPlayback) : ℕ × ℕ × ℕ :=
  (r.trackSegmentCount, r.trackPacketCount, r.trackMediaDurationSentUs)

variable (r : RecomputedRawPlayback)

theorem addInterval_counts (previous current : RawTrackSend) :
    (r.addInterval previous current).beside = r.beside ∧
      (r.addInterval previous current).trackTempoWindowCount = r.trackTempoWindowCount := by
  simp only [addInterval]
  split <;> exact ⟨rfl, rfl⟩

theorem addIntervals_counts (pairs : List (RawTrackSend × RawTrackSend)) :
    (pairs.foldl (fun r pair ↦ r.addInterval pair.1 pair.2) r).beside = r.beside ∧
      (pairs.foldl (fun r pair ↦ r.addInterval pair.1 pair.2) r).trackTempoWindowCount =
        r.trackTempoWindowCount := by
  induction pairs generalizing r with
  | nil => exact ⟨rfl, rfl⟩
  | cons pair pairs ih =>
    obtain ⟨hbeside, hcount⟩ := r.addInterval_counts pair.1 pair.2
    rw [List.foldl_cons, (ih _).1, (ih _).2]
    exact ⟨hbeside, hcount⟩

theorem recomputeTempoWindow_counts {window : List RawTrackSend} (hwindow : window ≠ []) :
    (r.recomputeTempoWindow window).beside = r.beside ∧
      (r.recomputeTempoWindow window).trackTempoWindowCount =
        saturatingAdd r.trackTempoWindowCount 1 := by
  unfold recomputeTempoWindow
  split
  · exact ⟨rfl, rfl⟩
  · rename_i hnone
    exact (hnone _ _ (List.head?_eq_some_head hwindow) (List.getLast?_eq_some_getLast hwindow)).elim

theorem recomputeTempoWindows_counts {all : List (List RawTrackSend)}
    (hall : ∀ window ∈ all, window ≠ []) {n : ℕ} (hcount : r.trackTempoWindowCount = u64Counter n) :
    (all.foldl recomputeTempoWindow r).beside = r.beside ∧
      (all.foldl recomputeTempoWindow r).trackTempoWindowCount = u64Counter (n + all.length) := by
  induction all generalizing r n with
  | nil => exact ⟨rfl, hcount⟩
  | cons window all ih =>
    obtain ⟨hbeside, hnext⟩ := r.recomputeTempoWindow_counts (hall window List.mem_cons_self)
    rw [hcount, u64Counter_succ] at hnext
    obtain ⟨hrest, hlast⟩ := ih (r.recomputeTempoWindow window)
      (fun w hw ↦ hall w (List.mem_cons_of_mem _ hw)) hnext
    rw [List.foldl_cons, hrest, hlast, hbeside, List.length_cons, Nat.add_assoc, Nat.add_comm 1]
    exact ⟨rfl, rfl⟩

theorem addSegments_counts (segments : List (List RawTrackSend)) {n : ℕ}
    (hcount : r.trackTempoWindowCount = u64Counter n) :
    (segments.foldl addSegment r).beside = r.beside ∧
      (segments.foldl addSegment r).trackTempoWindowCount =
        u64Counter (n + (segments.flatMap (windows sendTempoWindowPackets)).length) := by
  induction segments generalizing r n with
  | nil => exact ⟨rfl, hcount⟩
  | cons segment segments ih =>
    obtain ⟨hintervals, hsame⟩ := r.addIntervals_counts (segment.zip segment.tail)
    have hsome : ∀ window ∈ windows sendTempoWindowPackets segment, window ≠ [] :=
      fun _ hwindow ↦ windows_ne_nil (by decide) hwindow
    have hwindows := recomputeTempoWindows_counts _ hsome (hsame.trans hcount)
    obtain ⟨hrest, hlast⟩ := ih (r.addSegment segment) hwindows.2
    rw [List.foldl_cons, hrest, hlast, List.flatMap_cons, List.length_append, ← Nat.add_assoc]
    exact ⟨hwindows.1.trans hintervals, rfl⟩

end RecomputedRawPlayback

/-- What the gate recomputes of the packets. -/
structure Recounts (items : List (Option RawTrackSend)) (r : RecomputedRawPlayback) : Prop where
  segmentCount : r.trackSegmentCount = (filledRuns items).length
  packetCount : r.trackPacketCount = u64Counter items.reduceOption.length
  mediaMs : r.trackMediaDurationSentMs =
    u64Counter (items.reduceOption.map (·.durationUs)).sum / 1000
  wallClockMs : r.trackWallClockElapsedMs = (filledRuns items).foldl addWallClock 0 / 1000
  windowCount : r.trackTempoWindowCount =
    u64Counter (runWindows sendTempoWindowPackets items).length

theorem Sorted.finished {items : List (Option RawTrackSend)} {s : RawPlayback} (h : Sorted items s) :
    s.finishTrackSegment.segments = filledRuns items ∧
      s.finishTrackSegment.recomputed = s.recomputed ∧
      s.finishTrackSegment.allTracks = items.reduceOption := by
  obtain ⟨closed, hruns, hsegments⟩ := h.runs_eq
  unfold RawPlayback.finishTrackSegment filledRuns
  split
  · rename_i hempty
    refine ⟨?_, rfl, h.tracks⟩
    rw [hruns, List.filter_append, List.filter_singleton, hempty, hsegments]
    exact (List.append_nil _).symm
  · rename_i hsome
    refine ⟨?_, rfl, h.tracks⟩
    rw [hruns, List.filter_append, List.filter_singleton, Bool.not_eq_true _ |>.mp hsome, hsegments]
    rfl

theorem Sorted.recounts {items : List (Option RawTrackSend)} {s : RawPlayback} (h : Sorted items s) :
    Recounts items s.finishTrackSegment.recount := by
  obtain ⟨hsegments, hrecomputed, -⟩ := h.finished
  have hcounts := RecomputedRawPlayback.addSegments_counts
    { s.recomputed with trackSegmentCount := (filledRuns items).length } (filledRuns items)
    (show s.recomputed.trackTempoWindowCount = u64Counter 0 from h.windowCount)
  unfold RawPlayback.recount
  rw [hsegments, hrecomputed]
  obtain ⟨hbeside, hwindows⟩ := hcounts
  refine ⟨congrArg (·.1) hbeside, (congrArg (·.2.1) hbeside).trans h.packetCount, ?_, rfl, ?_⟩
  · exact congrArg (· / 1000) ((congrArg (·.2.2) hbeside).trans h.media)
  · rw [Nat.zero_add, ← runWindows_eq] at hwindows
    exact hwindows

/-- The gate recomputes a playback unless a packet of the track does not tell its place, or does not
take up the source where the one before it left off. -/
theorem recomputeRawPlayback_ok (metrics : PlaybackStabilitySnapshot) (label : String) :
    (∀ r, recomputeRawPlayback metrics label = .ok r →
        (∀ event ∈ metrics.rawSendEvents, Placed event) ∧
          (metrics.rawSendEvents.map rawItem).reduceOption.IsChain TakesUp ∧
          Recounts (metrics.rawSendEvents.map rawItem) r) ∧
      ((∀ event ∈ metrics.rawSendEvents, Placed event) →
        (metrics.rawSendEvents.map rawItem).reduceOption.IsChain TakesUp →
          ∃ r, recomputeRawPlayback metrics label = .ok r) := by
  obtain ⟨hsorts, hexists⟩ := foldlM_add label metrics.rawSendEvents
  refine ⟨fun r hr ↦ ?_, fun hplaced hchain ↦ ?_⟩
  · obtain ⟨s, hs, hrest⟩ := except_bind_ok_iff.mp hr
    obtain ⟨hplaced, hsorted⟩ := hsorts s hs
    obtain ⟨hpositions, hrecount⟩ := check_bind_ok_iff.mp hrest
    obtain rfl := Except.ok.inj hrecount
    rw [hsorted.finished.2.2] at hpositions
    exact ⟨hplaced, checkSourcePositions_ok_iff.mp hpositions, hsorted.recounts⟩
  · obtain ⟨s, hs⟩ := hexists hplaced
    have hsorted := (hsorts s hs).2
    refine ⟨_, except_bind_ok_iff.mpr ⟨s, hs, check_bind_ok_iff.mpr ⟨?_, rfl⟩⟩⟩
    rw [hsorted.finished.2.2]
    exact checkSourcePositions_ok_iff.mpr hchain

end DiscordVoice.Validation
