import DiscordVoice.RunSpans
import DiscordVoice.Media.QueueEvents
import DiscordVoice.Playback.WebmDemux

namespace DiscordVoice.Session

open Playback RunSpans

/-- The greatest `Duration`. Durations and instants are in nanoseconds. -/
def durationMax : ℕ := 2 ^ 64 * 1000000000 - 1

def durationSaturatingAdd (a b : ℕ) : ℕ := min (a + b) durationMax

def durationMillis (duration : ℕ) : ℕ := min (duration / 1000000) (2 ^ 64 - 1)

def mediaToWallClockRatioPpmDuration (mediaDuration wallClockElapsed : ℕ) : ℕ :=
  let mediaDurationUs := mediaDuration / 1000
  let wallClockElapsedUs := wallClockElapsed / 1000
  if mediaDurationUs = 0 ∨ wallClockElapsedUs = 0 then 0
  else min (mediaDurationUs * 1000000 / wallClockElapsedUs) (2 ^ 64 - 1)

def firstIntervalSampleLimit : ℕ := 10

def latePacketThreshold : ℕ := 5000000

def trackTempoWindowPackets : ℕ := 50

def trackPostSourceBufferMediaMs : ℕ := 5000

def minMediaToWallClockRatioPpm : ℕ := 980000

def maxMediaToWallClockRatioPpm : ℕ := 1020000

/-- The first intervals after the playback went on. -/
structure FirstIntervals where
  remaining : ℕ
  firstIntervalsMs : List ℕ
  deriving DecidableEq, Repr

def FirstIntervals.restarted : FirstIntervals := ⟨firstIntervalSampleLimit, []⟩

def FirstIntervals.record (f : FirstIntervals) (interval : ℕ) : FirstIntervals :=
  if f.remaining > 0 then ⟨f.remaining - 1, f.firstIntervalsMs ++ [durationMillis interval]⟩ else f

structure SenderLateness where
  senderLateness : List ℕ
  playoutSenderLateness : List ℕ
  lateFrameCount : ℕ
  currentConsecutiveLatePackets : ℕ
  maxConsecutiveLatePackets : ℕ
  currentConsecutivePlayoutLatePackets : ℕ
  maxConsecutivePlayoutLatePackets : ℕ
  deriving DecidableEq, Repr

def SenderLateness.record (l : SenderLateness) (lateness : ℕ) : SenderLateness :=
  let l := { l with
    senderLateness := l.senderLateness ++ [lateness]
    playoutSenderLateness := l.playoutSenderLateness ++ [lateness] }
  if lateness > latePacketThreshold then
    let late := saturatingAdd l.currentConsecutiveLatePackets 1
    let playoutLate := saturatingAdd l.currentConsecutivePlayoutLatePackets 1
    { l with
      lateFrameCount := saturatingAdd l.lateFrameCount 1
      currentConsecutiveLatePackets := late
      maxConsecutiveLatePackets := max l.maxConsecutiveLatePackets late
      currentConsecutivePlayoutLatePackets := playoutLate
      maxConsecutivePlayoutLatePackets := max l.maxConsecutivePlayoutLatePackets playoutLate }
  else { l with currentConsecutiveLatePackets := 0, currentConsecutivePlayoutLatePackets := 0 }

structure TrackPacketTiming where
  sendStartedAt : ℕ
  duration : ℕ
  mediaStart : ℕ
  deriving DecidableEq, Repr

/-- The media and the time on the clock of packets that follow one another. -/
def windowDurations (starts durations : List ℕ) : Option (ℕ × ℕ) :=
  match starts.head?, starts.getLast?, durations.getLast? with
  | some first, some last, some duration => some (durations.sum, last - first + duration)
  | _, _, _ => none

structure TrackTempoWindow where
  count : ℕ
  postSourceBufferCount : ℕ
  minRatioPpm : ℕ
  maxRatioPpm : ℕ
  fastCount : ℕ
  fastestRatioPpm : ℕ
  fastestMediaMs : ℕ
  fastestWallClock : Option ℕ
  slowCount : ℕ
  slowestRatioPpm : ℕ
  slowestMediaMs : ℕ
  slowestWallClock : Option ℕ
  deriving DecidableEq, Repr

namespace TrackTempoWindow

def recordFast (w : TrackTempoWindow) (ratio mediaDuration wallClockDuration : ℕ) : TrackTempoWindow :=
  if ratio > maxMediaToWallClockRatioPpm then
    let w := { w with fastCount := saturatingAdd w.fastCount 1 }
    if ratio > w.fastestRatioPpm then
      { w with
        fastestRatioPpm := ratio
        fastestMediaMs := durationMillis mediaDuration
        fastestWallClock := some wallClockDuration }
    else w
  else w

def recordSlow (w : TrackTempoWindow) (ratio mediaDuration wallClockDuration : ℕ) : TrackTempoWindow :=
  if ratio < minMediaToWallClockRatioPpm then
    let w := { w with slowCount := saturatingAdd w.slowCount 1 }
    if w.slowestRatioPpm = 0 ∨ ratio < w.slowestRatioPpm then
      { w with
        slowestRatioPpm := ratio
        slowestMediaMs := durationMillis mediaDuration
        slowestWallClock := some wallClockDuration }
    else w
  else w

/-- `record_latest_track_tempo_window`. -/
def recordLatest (w : TrackTempoWindow) (timings : List TrackPacketTiming) : TrackTempoWindow :=
  if timings.length < trackTempoWindowPackets then w
  else
    let window := timings.drop (timings.length - trackTempoWindowPackets)
    match windowDurations (window.map (·.sendStartedAt)) (window.map (·.duration)), window.head? with
    | some (mediaDuration, wallClockDuration), some first =>
      let ratio := mediaToWallClockRatioPpmDuration mediaDuration wallClockDuration
      let w := { w with
        count := saturatingAdd w.count 1
        postSourceBufferCount :=
          if first.mediaStart ≥ trackPostSourceBufferMediaMs * 1000000 then
            saturatingAdd w.postSourceBufferCount 1
          else w.postSourceBufferCount
        minRatioPpm := if w.minRatioPpm = 0 then ratio else min w.minRatioPpm ratio
        maxRatioPpm := max w.maxRatioPpm ratio }
      (w.recordFast ratio mediaDuration wallClockDuration).recordSlow ratio mediaDuration
        wallClockDuration
    | _, _ => w

end TrackTempoWindow

inductive MediaClockResetReason
  | pauseResume
  | schedulerLate
  | sourceUnderrun
  deriving DecidableEq, Repr

inductive PreparedTrackQueuePhase
  | prePause
  | postResume
  deriving DecidableEq, Repr

/-- The collector, with the track's packets and the resets of their clock beside the queue events. -/
structure PlaybackStabilityCollector extends Media.PlaybackStabilityCollector where
  trackPacketCount : ℕ
  trackIntervals : List ℕ
  allPacketIntervals : List ℕ
  lateness : SenderLateness
  lastTrackSendStartedAt : Option ℕ
  lastTrackDuration : Option ℕ
  activeTrackWallClockElapsed : ℕ
  trackPacketTimings : List TrackPacketTiming
  lastAnySendAt : Option ℕ
  trackFastIntervalCount : ℕ
  trackFastIntervalMin : Option ℕ
  pauseResume : FirstIntervals
  postStall : FirstIntervals
  postRebuffer : FirstIntervals
  preparedTrackQueuePhase : PreparedTrackQueuePhase
  trackMediaDurationSent : ℕ
  tempoRebaseCount : ℕ
  tempoWindow : TrackTempoWindow
  mediaClockResetCount : ℕ
  pauseResumeResetCount : ℕ
  schedulerLateResetCount : ℕ
  sourceUnderrunResetCount : ℕ
  controlledMediaInterruptionCount : ℕ
  deriving DecidableEq, Repr

namespace PlaybackStabilityCollector

def new : PlaybackStabilityCollector :=
  ⟨.new, 0, [], [], ⟨[], [], 0, 0, 0, 0, 0⟩, none, none, 0, [], none, 0, none, ⟨0, []⟩, ⟨0, []⟩, ⟨0, []⟩,
    .prePause, 0, 0, ⟨0, 0, 0, 0, 0, 0, 0, none, 0, 0, 0, none⟩, 0, 0, 0, 0, 0⟩

def resetActiveTrackTempoWindow (c : PlaybackStabilityCollector) : PlaybackStabilityCollector :=
  { c with
    lastTrackSendStartedAt := none
    lastTrackDuration := none
    trackPacketTimings := []
    lastAnySendAt := none }

def recordMediaClockReset (c : PlaybackStabilityCollector) (reason : MediaClockResetReason) :
    PlaybackStabilityCollector :=
  let c := { c with mediaClockResetCount := saturatingAdd c.mediaClockResetCount 1 }
  match reason with
  | .pauseResume => { c with pauseResumeResetCount := saturatingAdd c.pauseResumeResetCount 1 }
  | .schedulerLate =>
    { c with
      schedulerLateResetCount := saturatingAdd c.schedulerLateResetCount 1
      controlledMediaInterruptionCount := saturatingAdd c.controlledMediaInterruptionCount 1 }
  | .sourceUnderrun =>
    resetActiveTrackTempoWindow { c with
      sourceUnderrunResetCount := saturatingAdd c.sourceUnderrunResetCount 1
      controlledMediaInterruptionCount := saturatingAdd c.controlledMediaInterruptionCount 1 }

def recordResumedFromPause (c : PlaybackStabilityCollector) : PlaybackStabilityCollector :=
  { c.resetActiveTrackTempoWindow with
    pauseResume := .restarted
    preparedTrackQueuePhase := .postResume }

def recordFastInterval (c : PlaybackStabilityCollector) (interval : ℕ) : PlaybackStabilityCollector :=
  if c.lastTrackDuration.any (interval < ·) then
    { c with
      trackFastIntervalCount := saturatingAdd c.trackFastIntervalCount 1
      trackFastIntervalMin := some (c.trackFastIntervalMin.elim interval (min · interval)) }
  else c

/-- A packet after another, as long as both are on one clock. -/
def recordInterval (c : PlaybackStabilityCollector) (interval frameDuration : ℕ) :
    PlaybackStabilityCollector :=
  let c := { c with trackIntervals := c.trackIntervals ++ [interval] }.recordFastInterval interval
  { c with
    pauseResume := c.pauseResume.record interval
    postStall := c.postStall.record interval
    postRebuffer := c.postRebuffer.record interval
    activeTrackWallClockElapsed :=
      c.lastTrackDuration.elim c.activeTrackWallClockElapsed fun previousDuration ↦
        c.activeTrackWallClockElapsed - previousDuration + interval + frameDuration }

def recordAnyPacket (c : PlaybackStabilityCollector) (sentAt : ℕ) : PlaybackStabilityCollector :=
  { c with
    lastAnySendAt := some sentAt
    allPacketIntervals := c.allPacketIntervals ++ (c.lastAnySendAt.map (sentAt - ·)).toList }

def recordTrackPacket (c : PlaybackStabilityCollector) (expectedDeadline sendStartedAt : ℕ)
    (durationSamples : UInt32) (tempoRebased : Bool) : PlaybackStabilityCollector :=
  let frameDuration := durationFromSamples durationSamples.toNat
  let mediaStart := c.trackMediaDurationSent
  let c := { c with
    trackMediaDurationSent := durationSaturatingAdd c.trackMediaDurationSent frameDuration
    tempoRebaseCount :=
      if tempoRebased then saturatingAdd c.tempoRebaseCount 1 else c.tempoRebaseCount
    lateness := c.lateness.record (sendStartedAt - expectedDeadline) }
  let c := match c.lastTrackSendStartedAt with
    | some previous => c.recordInterval (sendStartedAt - previous) frameDuration
    | none => { c with activeTrackWallClockElapsed := c.activeTrackWallClockElapsed + frameDuration }
  let trackPacketTimings := c.trackPacketTimings ++ [⟨sendStartedAt, frameDuration, mediaStart⟩]
  let c := { c with
    lastTrackSendStartedAt := some sendStartedAt
    lastTrackDuration := some frameDuration
    trackPacketTimings
    tempoWindow := c.tempoWindow.recordLatest trackPacketTimings }.recordAnyPacket sendStartedAt
  { c with trackPacketCount := saturatingAdd c.trackPacketCount 1 }

/-- `track_media_to_wall_clock_ratio_ppm` of the snapshot. -/
def trackMediaToWallClockRatioPpm (c : PlaybackStabilityCollector) : ℕ :=
  mediaToWallClockRatioPpmDuration c.trackMediaDurationSent c.activeTrackWallClockElapsed

/-- What another function of the collector may do: it does not touch what the ratio is made from. -/
def elsewhere (c other : PlaybackStabilityCollector) : PlaybackStabilityCollector :=
  { other with
    lastTrackSendStartedAt := c.lastTrackSendStartedAt
    lastTrackDuration := c.lastTrackDuration
    activeTrackWallClockElapsed := c.activeTrackWallClockElapsed
    trackMediaDurationSent := c.trackMediaDurationSent }

inductive Call
  | recordTrackPacket (expectedDeadline sendStartedAt : ℕ) (durationSamples : UInt32)
      (tempoRebased : Bool)
  | recordMediaClockReset (reason : MediaClockResetReason)
  | recordResumedFromPause
  | elsewhere (other : PlaybackStabilityCollector)

def call (c : PlaybackStabilityCollector) : Call → PlaybackStabilityCollector
  | .recordTrackPacket expectedDeadline sendStartedAt durationSamples tempoRebased =>
    c.recordTrackPacket expectedDeadline sendStartedAt durationSamples tempoRebased
  | .recordMediaClockReset reason => c.recordMediaClockReset reason
  | .recordResumedFromPause => c.recordResumedFromPause
  | .elsewhere other => c.elsewhere other

/-- What a call is on the timeline of the packets. -/
def Call.marks : Call → List Mark
  | .recordTrackPacket _ sendStartedAt durationSamples _ =>
    [.item sendStartedAt (durationFromSamples durationSamples.toNat)]
  | .recordMediaClockReset .pauseResume => []
  | .recordMediaClockReset .schedulerLate => []
  | .recordMediaClockReset .sourceUnderrun => [.cut]
  | .recordResumedFromPause => [.cut]
  | .elsewhere _ => []

end PlaybackStabilityCollector

/-- How both ends of the stream keep the time of the packets, from when the last of them was and how
long it lasts. -/
def elapsedAfter (lastAt lastDuration : Option ℕ) (elapsed start duration : ℕ) : ℕ :=
  match lastAt with
  | none => elapsed + duration
  | some previous =>
    lastDuration.elim elapsed fun previousDuration ↦
      elapsed - previousDuration + (start - previous) + duration

def mediaAfter (media : ℕ) : Mark → ℕ
  | .item _ duration => durationSaturatingAdd media duration
  | .cut => media

/-- What an end of the stream has measured of the packets on a timeline. -/
structure Measures (lastAt lastDuration : Option ℕ) (elapsed media : ℕ) (marks : List Mark) : Prop where
  lastAt : lastAt = (Watch.after marks).last.map Prod.fst
  lastDuration : lastDuration = (Watch.after marks).last.map Prod.snd
  elapsed : elapsed = (Watch.after marks).total
  media : media = marks.foldl mediaAfter 0

namespace Measures

variable {lastAt lastDuration : Option ℕ} {elapsed media : ℕ} {marks : List Mark}

theorem nothing : Measures none none 0 0 [] := ⟨rfl, rfl, rfl, rfl⟩

theorem cut (h : Measures lastAt lastDuration elapsed media marks) :
    Measures none none elapsed media (marks ++ [.cut]) := by
  refine ⟨?_, ?_, ?_, ?_⟩
  · rw [Watch.after_concat]
    rfl
  · rw [Watch.after_concat]
    rfl
  · rw [Watch.after_concat, h.elapsed]
    rfl
  · rw [List.foldl_concat, h.media]
    rfl

theorem item (h : Measures lastAt lastDuration elapsed media marks) (start duration : ℕ) :
    Measures (some start) (some duration) (elapsedAfter lastAt lastDuration elapsed start duration)
      (durationSaturatingAdd media duration) (marks ++ [.item start duration]) := by
  have hlast : ((Watch.after marks).mark (.item start duration)).last = some (start, duration) := by
    rw [Watch.mark]
    cases (Watch.after marks).last <;> rfl
  refine ⟨?_, ?_, ?_, ?_⟩
  · rw [Watch.after_concat, hlast]
    rfl
  · rw [Watch.after_concat, hlast]
    rfl
  · rw [Watch.after_concat, Watch.mark, h.lastAt, h.lastDuration, h.elapsed]
    cases (Watch.after marks).last <;> rfl
  · rw [List.foldl_concat, h.media]
    rfl

/-- No subtraction falls below zero at a packet that starts at the time. -/
def Exact (lastAt lastDuration : Option ℕ) (elapsed start : ℕ) : Prop :=
  (∀ previous ∈ lastAt, previous ≤ start) ∧
    ∀ previousDuration ∈ lastDuration, previousDuration ≤ elapsed

theorem exact (h : Measures lastAt lastDuration elapsed media marks) {start duration : ℕ}
    (hmono : (starts (marks ++ [.item start duration])).Pairwise (· ≤ ·)) :
    Exact lastAt lastDuration elapsed start := by
  rw [Exact, h.lastAt, h.lastDuration, h.elapsed]
  cases hlast : (Watch.after marks).last with
  | none => exact ⟨by simp, by simp⟩
  | some before =>
    obtain ⟨hduration, hstart⟩ := mark_exact hmono hlast
    refine ⟨?_, ?_⟩
    · rintro _ ⟨⟩
      exact hstart
    · rintro _ ⟨⟩
      exact hduration

end Measures

namespace PlaybackStabilityCollector

/-- What the collector has measured. -/
def Measured (c : PlaybackStabilityCollector) (marks : List Mark) : Prop :=
  Measures c.lastTrackSendStartedAt c.lastTrackDuration c.activeTrackWallClockElapsed
    c.trackMediaDurationSent marks

theorem recordFastInterval_eq (c : PlaybackStabilityCollector) (interval : ℕ) :
    c.recordFastInterval interval = { c with
      trackFastIntervalCount := (c.recordFastInterval interval).trackFastIntervalCount
      trackFastIntervalMin := (c.recordFastInterval interval).trackFastIntervalMin } := by
  unfold recordFastInterval
  split_ifs <;> rfl

theorem recordInterval_tempo (c : PlaybackStabilityCollector) (interval frameDuration : ℕ) :
    (c.recordInterval interval frameDuration).activeTrackWallClockElapsed =
        c.lastTrackDuration.elim c.activeTrackWallClockElapsed (fun previousDuration ↦
          c.activeTrackWallClockElapsed - previousDuration + interval + frameDuration) ∧
      (c.recordInterval interval frameDuration).trackMediaDurationSent = c.trackMediaDurationSent := by
  rw [recordInterval, recordFastInterval_eq]
  exact ⟨rfl, rfl⟩

theorem recordTrackPacket_measured {c : PlaybackStabilityCollector} {marks : List Mark}
    (h : c.Measured marks) (expectedDeadline sendStartedAt : ℕ) (durationSamples : UInt32)
    (tempoRebased : Bool) :
    (c.recordTrackPacket expectedDeadline sendStartedAt durationSamples tempoRebased).Measured
      (marks ++ [.item sendStartedAt (durationFromSamples durationSamples.toNat)]) := by
  have hitem := Measures.item h sendStartedAt (durationFromSamples durationSamples.toNat)
  refine ⟨hitem.lastAt, hitem.lastDuration, ?_, ?_⟩
  · rw [← hitem.elapsed]
    cases hlast : c.lastTrackSendStartedAt with
    | none => simp only [recordTrackPacket, recordAnyPacket, elapsedAfter, hlast]
    | some previous =>
      simp only [recordTrackPacket, recordAnyPacket, elapsedAfter, hlast, recordInterval_tempo]
  · rw [← hitem.media]
    cases hlast : c.lastTrackSendStartedAt with
    | none => simp only [recordTrackPacket, recordAnyPacket, hlast]
    | some previous => simp only [recordTrackPacket, recordAnyPacket, hlast, recordInterval_tempo]

theorem call_measured {c : PlaybackStabilityCollector} {marks : List Mark} (h : c.Measured marks)
    (x : Call) : (c.call x).Measured (marks ++ x.marks) := by
  cases x with
  | recordTrackPacket expectedDeadline sendStartedAt durationSamples tempoRebased =>
    exact recordTrackPacket_measured h expectedDeadline sendStartedAt durationSamples tempoRebased
  | recordMediaClockReset reason =>
    cases reason with
    | pauseResume =>
      rw [Call.marks, List.append_nil]
      exact h
    | schedulerLate =>
      rw [Call.marks, List.append_nil]
      exact h
    | sourceUnderrun => exact Measures.cut h
  | recordResumedFromPause => exact Measures.cut h
  | elsewhere other =>
    rw [Call.marks, List.append_nil]
    exact h

theorem run_measured (calls : List Call) :
    (calls.foldl call new).Measured (calls.flatMap Call.marks) := by
  induction calls using List.reverseRecOn with
  | nil => exact .nothing
  | append_singleton calls x ih =>
    rw [List.foldl_concat, List.flatMap_append, List.flatMap_singleton]
    exact call_measured ih x

theorem run_exact {before after : List Call} {x : Call} {start duration : ℕ}
    (hmono : (starts ((before ++ x :: after).flatMap Call.marks)).Pairwise (· ≤ ·))
    (hx : x.marks = [.item start duration]) :
    Measures.Exact (before.foldl call new).lastTrackSendStartedAt
      (before.foldl call new).lastTrackDuration
      (before.foldl call new).activeTrackWallClockElapsed start := by
  rw [List.flatMap_append, List.flatMap_cons, hx, ← List.append_assoc] at hmono
  exact (run_measured before).exact (starts_pairwise_left hmono)

end PlaybackStabilityCollector

end DiscordVoice.Session
