import Mathlib.Order.MinMax
import DiscordVoice.Media.Driver
import DiscordVoice.Playback.Pacer
import DiscordVoice.Session.SendMetrics

namespace DiscordVoice.Session

open Playback RunSpans RunWindows

open Media.Timed (DeadlineSendRecord DeadlineSender Pass SpacedFrom silencePass trackPasses)

/-- What the loop of the driver keeps its pace by, with what its sender reports that it has not heard
yet, and what it has told the pipeline. -/
structure PacedDriver where
  pacer : AudioPacer
  now : ℕ
  paused : Bool
  unheard : List DeadlineSendRecord
  told : List SendMetric

/-- All that a sender reports that is started at a time. -/
def senderReports (nextDeadline now : ℕ) (passes : List Pass) : List DeadlineSendRecord :=
  ((DeadlineSender.newWithNextDeadlineRecordsAndGeneration nextDeadline now).run passes).2.sendRecords

/-- When the media of a packet is over, or where it has none, when it was sent. -/
def mediaOver (r : DeadlineSendRecord) : ℕ :=
  if r.mediaFrame.isSome then r.over else r.sendStartedAt

namespace PacedDriver

def start (now : ℕ) (passes : List Pass) : PacedDriver :=
  let pacer := AudioPacer.startingAfter now frameDuration
  ⟨pacer, now, false, senderReports pacer.nextDeadline now passes, []⟩

def recordDeadlineSendMetric (d : PacedDriver) (record : DeadlineSendRecord) : PacedDriver :=
  let marked := d.pacer.markSent (if record.mediaFrame.isSome then .track else .nonTrack)
    record.expectedDeadline (durationFromSamples record.durationSamples.toNat) record.sendStartedAt
  { d with
    pacer := marked.2
    told := d.told ++ [.senderSent record marked.1.mediaClockReset marked.1.tempoRebased] }

/-- `MediaCommand::Pause`, once its boundary is out. -/
def pause (d : PacedDriver) (boundary rest : List DeadlineSendRecord) (later : ℕ) : PacedDriver :=
  let d := boundary.foldl recordDeadlineSendMetric { d with now := later }
  { d with
    paused := true
    unheard := rest
    pacer := d.pacer.resetDeadline later
    told := d.told ++ [.senderMediaClockReset .pauseResume] }

/-- `MediaCommand::Resume`. -/
def resume (d : PacedDriver) : PacedDriver :=
  { d with
    paused := false
    pacer := d.pacer.resetDeadline d.now
    told := d.told ++ [.senderMediaClockReset .pauseResume, .senderResumedFromPause] }

/-- What the driver does next, at whatever speed its sender and the other threads go: the loop of
`Media.MediaState.driverStep` with its clocks and without its buffers. -/
inductive Step (d : PacedDriver) : PacedDriver → Prop
  | wait (duration : ℕ) : Step d { d with now := d.now + duration }
  | hear {record : DeadlineSendRecord} {rest : List DeadlineSendRecord} (hopen : d.paused = false)
      (hunheard : d.unheard = record :: rest) (hsent : record.sentAt ≤ d.now) :
      Step d { d.recordDeadlineSendMetric record with unheard := rest }
  | rebuildForDave (hopen : d.paused = false) (passes : List Pass) :
      Step d { d with unheard := senderReports (max d.pacer.nextDeadline d.now) d.now passes }
  | sourceUnderrun (hopen : d.paused = false) :
      Step d { d with told := d.told ++ [.senderMediaClockReset .sourceUnderrun] }
  | pause {boundary rest : List DeadlineSendRecord} {later : ℕ} (hopen : d.paused = false)
      (passes : List Pass)
      (hreports : senderReports (d.now + frameDuration) d.now passes = boundary ++ rest)
      (hlength : boundary.length = Media.stopAudioBoundarySilencePackets)
      (hsilence : ∀ r ∈ boundary, r.mediaFrame = none) (hlater : d.now ≤ later)
      (hsent : ∀ r ∈ boundary, r.sentAt ≤ later) : Step d (d.pause boundary rest later)
  | resume (hpaused : d.paused = true) : Step d d.resume

end PacedDriver

/-- The driver has never heard of media that began before the media in front of it was over. -/
structure KeepsPace (d : PacedDriver) : Prop where
  due : ∀ r ∈ sentRecords d.told ++ d.unheard,
    r.expectedDeadline ≤ r.sendStartedAt ∧ r.sendStartedAt ≤ r.sentAt
  heard : ∀ r ∈ sentRecords d.told, r.sentAt ≤ d.now
  spaced : (sentRecords d.told ++ d.unheard).Pairwise fun r s ↦ mediaOver r ≤ s.sendStartedAt
  pacer : ∀ r ∈ sentRecords d.told, mediaOver r ≤ max d.pacer.nextDeadline d.now
  resting : d.paused = true → d.pacer.nextDeadline ≤ d.now

theorem mediaOver_le (r : DeadlineSendRecord) : mediaOver r ≤ r.over := by
  unfold mediaOver
  split
  · exact le_rfl
  · exact Nat.le_add_right _ _

theorem senderReports_spaced (nextDeadline now : ℕ) (passes : List Pass) :
    SpacedFrom (max now nextDeadline) (senderReports nextDeadline now passes) := by
  obtain ⟨records, hrecords, hspaced⟩ := DeadlineSender.run_spacedFrom
    (DeadlineSender.newWithNextDeadlineRecordsAndGeneration nextDeadline now) passes
  rw [senderReports, hrecords]
  exact hspaced

theorem sentRecords_append (metrics more : List SendMetric) :
    sentRecords (metrics ++ more) = sentRecords metrics ++ sentRecords more :=
  List.filterMap_append

namespace PacedDriver

theorem recordDeadlineSendMetric_eq (d : PacedDriver) (record : DeadlineSendRecord) :
    ∃ pacer mediaClockReset tempoRebased,
      d.recordDeadlineSendMetric record =
        { d with
          pacer
          told := d.told ++ [.senderSent record mediaClockReset tempoRebased] } ∧
      pacer.nextDeadline = record.over := by
  unfold recordDeadlineSendMetric DeadlineSendRecord.over
  exact ⟨_, _, _, rfl, d.pacer.markSent_nextDeadline _ _ _ _⟩

theorem foldl_told (d : PacedDriver) (records : List DeadlineSendRecord) :
    ∃ more, (records.foldl recordDeadlineSendMetric d).told = d.told ++ more ∧
      sentRecords more = records ∧
      (records.foldl recordDeadlineSendMetric d).now = d.now := by
  induction records generalizing d with
  | nil => exact ⟨[], (List.append_nil _).symm, rfl, rfl⟩
  | cons record records ih =>
    obtain ⟨pacer, reset, rebased, hmarked, -⟩ := d.recordDeadlineSendMetric_eq record
    rw [List.foldl_cons, hmarked]
    obtain ⟨more, htold, hmore, hnow⟩ := ih
      { d with
        pacer
        told := d.told ++ [.senderSent record reset rebased] }
    refine ⟨.senderSent record reset rebased :: more, ?_, ?_, hnow⟩
    · rw [htold, List.append_assoc]
      rfl
    · exact congrArg (record :: ·) hmore

theorem told_grows {d e : PacedDriver} (hstep : d.Step e) : d.told <+: e.told := by
  cases hstep with
  | wait => exact List.prefix_rfl
  | hear => exact List.prefix_append _ _
  | rebuildForDave => exact List.prefix_rfl
  | sourceUnderrun => exact List.prefix_append _ _
  | @pause boundary rest later =>
    obtain ⟨more, htold, -⟩ := foldl_told { d with now := later } boundary
    simp only [pause, htold, List.append_assoc]
    exact List.prefix_append _ _
  | resume => exact List.prefix_append _ _

end PacedDriver

namespace KeepsPace

variable {d : PacedDriver}

theorem start (now : ℕ) (passes : List Pass) : KeepsPace (.start now passes) := by
  have hspaced := senderReports_spaced (AudioPacer.startingAfter now frameDuration).nextDeadline now
    passes
  refine ⟨fun r hr ↦ (hspaced.bounds r hr).2, fun r hr ↦ absurd hr List.not_mem_nil, ?_,
    fun r hr ↦ absurd hr List.not_mem_nil, fun h ↦ absurd h Bool.false_ne_true⟩
  exact hspaced.pairwise.imp fun h ↦ (mediaOver_le _).trans h

theorem replace (h : KeepsPace d) {since : ℕ} {reports : List DeadlineSendRecord}
    (hreports : SpacedFrom since reports)
    (hover : ∀ r ∈ sentRecords d.told, mediaOver r ≤ since) :
    KeepsPace { d with unheard := reports } := by
  refine ⟨fun r hr ↦ ?_, h.heard, ?_, h.pacer, h.resting⟩
  · rcases List.mem_append.mp hr with hr | hr
    · exact h.due r (List.mem_append_left _ hr)
    · exact (hreports.bounds r hr).2
  · refine List.pairwise_append.mpr ⟨(List.pairwise_append.mp h.spaced).1, ?_, fun r hr s hs ↦ ?_⟩
    · exact hreports.pairwise.imp fun hle ↦ (mediaOver_le _).trans hle
    · exact (hover r hr).trans (hreports.bounds s hs).1

theorem later (h : KeepsPace d) {now : ℕ} (hle : d.now ≤ now) : KeepsPace { d with now } where
  due := h.due
  heard r hr := (h.heard r hr).trans hle
  spaced := h.spaced
  pacer r hr := (h.pacer r hr).trans (max_le_max le_rfl hle)
  resting hpaused := (h.resting hpaused).trans hle

theorem tell (h : KeepsPace d) {more : List SendMetric} (hmore : sentRecords more = []) :
    KeepsPace { d with told := d.told ++ more } := by
  have hsame : sentRecords (d.told ++ more) = sentRecords d.told := by
    rw [sentRecords_append, hmore, List.append_nil]
  refine ⟨?_, ?_, ?_, ?_, h.resting⟩
  · exact hsame.symm ▸ h.due
  · exact hsame.symm ▸ h.heard
  · exact hsame.symm ▸ h.spaced
  · exact hsame.symm ▸ h.pacer

theorem reset (h : KeepsPace d) {now : ℕ} (hnow : now = d.now)
    (hover : ∀ r ∈ sentRecords d.told, mediaOver r ≤ now) (paused : Bool) :
    KeepsPace { d with paused, pacer := d.pacer.resetDeadline now } where
  due := h.due
  heard := h.heard
  spaced := h.spaced
  pacer r hr := (hover r hr).trans (hnow ▸ le_max_right _ _)
  resting _ := (d.pacer.resetDeadline_nextDeadline now).trans_le hnow.le

theorem hear {record : DeadlineSendRecord} {rest : List DeadlineSendRecord}
    (h : KeepsPace { d with unheard := record :: rest }) (hopen : d.paused = false)
    (hsent : record.sentAt ≤ d.now) :
    KeepsPace { d.recordDeadlineSendMetric record with unheard := rest } := by
  obtain ⟨pacer, reset, rebased, hmarked, hnext⟩ := d.recordDeadlineSendMetric_eq record
  have hrecord : sentRecords (d.told ++ [.senderSent record reset rebased]) =
      sentRecords d.told ++ [record] := sentRecords_append _ _
  have hall : sentRecords d.told ++ [record] ++ rest = sentRecords d.told ++ record :: rest :=
    List.append_assoc _ _ _
  rw [hmarked]
  refine ⟨?_, ?_, ?_, ?_, fun hpaused ↦ ?_⟩
  · simp only [hrecord, hall]
    exact h.due
  · simp only [hrecord]
    intro r hr
    rcases List.mem_append.mp hr with hr | hr
    · exact h.heard r hr
    · exact List.mem_singleton.mp hr ▸ hsent
  · simp only [hrecord, hall]
    exact h.spaced
  · simp only [hrecord, hnext]
    intro r hr
    refine le_max_of_le_left ?_
    rcases List.mem_append.mp hr with hr | hr
    · have hbefore := (List.pairwise_append.mp h.spaced).2.2 r hr record List.mem_cons_self
      exact hbefore.trans (Nat.le_add_right _ _)
    · exact List.mem_singleton.mp hr ▸ mediaOver_le record
  · exact absurd (hopen.symm.trans hpaused) Bool.false_ne_true

theorem hearAll {records rest : List DeadlineSendRecord}
    (h : KeepsPace { d with unheard := records ++ rest }) (hopen : d.paused = false)
    (hsent : ∀ r ∈ records, r.sentAt ≤ d.now) :
    KeepsPace { records.foldl PacedDriver.recordDeadlineSendMetric d with unheard := rest } := by
  induction records generalizing d with
  | nil => exact h
  | cons record records ih =>
    have hfirst := hear (d := d) h hopen (hsent record List.mem_cons_self)
    have hlater := fun r hr ↦ hsent r (List.mem_cons_of_mem record hr)
    obtain ⟨pacer, reset, rebased, hmarked, -⟩ := d.recordDeadlineSendMetric_eq record
    rw [hmarked] at hfirst
    rw [List.foldl_cons, hmarked]
    exact ih hfirst hopen hlater

theorem pause (h : KeepsPace d) {boundary rest : List DeadlineSendRecord} {later : ℕ}
    (hopen : d.paused = false)
    (hreports : SpacedFrom (max d.now (d.now + frameDuration)) (boundary ++ rest))
    (hsome : boundary ≠ []) (hsilence : ∀ r ∈ boundary, r.mediaFrame = none)
    (hlater : d.now ≤ later) (hsent : ∀ r ∈ boundary, r.sentAt ≤ later)
    (hframes : ∀ r ∈ sentRecords d.told,
      durationFromSamples r.durationSamples.toNat ≤ frameDuration) :
    KeepsPace (d.pause boundary rest later) := by
  have hover : ∀ r ∈ sentRecords d.told, mediaOver r ≤ max d.now (d.now + frameDuration) := by
    intro r hr
    have hstart := (h.due r (List.mem_append_left _ hr)).2.trans (h.heard r hr)
    refine (mediaOver_le r).trans (le_max_of_le_right ?_)
    exact Nat.add_le_add hstart (hframes r hr)
  have hreplaced := (h.replace hreports hover).later hlater
  have hheard := hearAll (d := { d with now := later }) hreplaced hopen hsent
  obtain ⟨more, htold, hmore, hnow⟩ := PacedDriver.foldl_told { d with now := later } boundary
  have hboundary : ∀ b ∈ boundary, b.sendStartedAt ≤ later := fun b hb ↦
    (hreports.bounds b (List.mem_append_left _ hb)).2.2.trans (hsent b hb)
  refine (hheard.reset hnow.symm ?_ true).tell rfl
  rw [htold, sentRecords_append, hmore]
  intro r hr
  rcases List.mem_append.mp hr with hr | hr
  · obtain ⟨b, hb⟩ := List.exists_mem_of_ne_nil boundary hsome
    have hbefore := (List.pairwise_append.mp hreplaced.spaced).2.2 r hr b
      (List.mem_append_left _ hb)
    exact hbefore.trans (hboundary b hb)
  · simp only [mediaOver, hsilence r hr, Option.isSome_none, Bool.false_eq_true, if_false]
    exact hboundary r hr

theorem step (h : KeepsPace d) {e : PacedDriver} (hstep : d.Step e)
    (hframes : ∀ r ∈ sentRecords d.told,
      durationFromSamples r.durationSamples.toNat ≤ frameDuration) : KeepsPace e := by
  cases hstep with
  | wait duration => exact h.later (Nat.le_add_right _ _)
  | @hear record rest hopen hunheard hsent =>
    have hfirst : KeepsPace { d with unheard := record :: rest } := by
      rw [← hunheard]
      exact h
    exact hfirst.hear hopen hsent
  | rebuildForDave hopen passes =>
    refine h.replace (senderReports_spaced _ _ _) fun r hr ↦ ?_
    exact (h.pacer r hr).trans (le_max_right _ _)
  | sourceUnderrun hopen => exact h.tell rfl
  | pause hopen passes hreports hlength hsilence hlater hsent =>
    refine h.pause hopen (hreports ▸ senderReports_spaced _ _ _) ?_ hsilence hlater hsent hframes
    rintro rfl
    cases hlength
  | resume hpaused =>
    have hover : ∀ r ∈ sentRecords d.told, mediaOver r ≤ d.now := fun r hr ↦
      (h.pacer r hr).trans (max_le (h.resting hpaused) le_rfl)
    exact (h.reset rfl hover false).tell rfl

theorem run {e : PacedDriver} (h : KeepsPace d) (hrun : Relation.ReflTransGen PacedDriver.Step d e)
    (hframes : ∀ r ∈ sentRecords e.told,
      durationFromSamples r.durationSamples.toNat ≤ frameDuration) : KeepsPace e := by
  induction hrun with
  | refl => exact h
  | tail _ hstep ih =>
    have hbefore := fun r hr ↦ hframes r (((PacedDriver.told_grows hstep).filterMap _).mem hr)
    exact (ih hbefore).step hstep hbefore

end KeepsPace

section Collector

open PlaybackStabilityCollector

variable {metrics : List SendMetric}

/-- Each packet of the track is over before the next one starts. -/
def Unhurried (timings : List (ℕ × ℕ)) : Prop :=
  timings.Pairwise fun a b ↦ a.1 + a.2 ≤ b.1

theorem unhurried_clockMarks
    (hspaced : (sentRecords metrics).Pairwise fun r s ↦ mediaOver r ≤ s.sendStartedAt) :
    Unhurried ((clockMarks metrics).map Mark.timing).reduceOption := by
  rw [Unhurried, clock_timings]
  generalize sentRecords metrics = records at hspaced
  induction records with
  | nil => exact .nil
  | cons r records ih =>
    obtain ⟨hfirst, hrest⟩ := List.pairwise_cons.mp hspaced
    rw [List.map_cons]
    cases hframe : r.mediaFrame with
    | none =>
      rw [trackTiming, hframe]
      exact ih hrest
    | some frame =>
      rw [trackTiming, hframe]
      refine List.pairwise_cons.mpr ⟨fun b hb ↦ ?_, ih hrest⟩
      obtain ⟨s, hs, htiming⟩ := List.mem_map.mp (List.reduceOption_mem_iff.mp hb)
      obtain ⟨-, -, rfl⟩ := Option.map_eq_some_iff.mp htiming
      have hover := hfirst s hs
      simp only [mediaOver, hframe, Option.isSome_some, if_true] at hover
      exact hover

theorem ratioPpm_le {media wallClock : ℕ} (h : media ≤ wallClock) :
    mediaToWallClockRatioPpmDuration media wallClock ≤ 1000000 := by
  simp only [mediaToWallClockRatioPpmDuration]
  split_ifs
  · exact Nat.zero_le _
  · refine (min_le_left _ _).trans (Nat.div_le_of_le_mul ?_)
    exact Nat.mul_le_mul_right _ (Nat.div_le_div_right h)

theorem windowRatioPpm_le {marks : List Mark}
    (h : Unhurried (marks.map Mark.timing).reduceOption) {window : List TrackPacketTiming}
    (hwindow : window ∈ runWindows trackTempoWindowPackets (packetMarks marks)) :
    windowRatioPpm window ≤ 1000000 := by
  have hinside : (window.map fun packet ↦ (packet.sendStartedAt, packet.duration)).Sublist
      (marks.map Mark.timing).reduceOption := by
    rw [← packetsFrom_timing 0 marks, List.reduceOption_map]
    exact (sublist_of_mem_runWindows hwindow).map _
  have hmedia := sum_le_span (h.sublist hinside)
  rw [List.map_map] at hmedia
  exact ratioPpm_le hmedia

theorem call_notFast {c : PlaybackStabilityCollector} {marks : List Mark}
    (hmeasured : c.Measured marks) {x : Call} (hx : ∀ other, x ≠ .elsewhere other)
    (h : Unhurried ((marks ++ x.marks).map Mark.timing).reduceOption) :
    (c.call x).trackFastIntervalCount = c.trackFastIntervalCount := by
  cases x with
  | recordTrackPacket expectedDeadline sendStartedAt durationSamples tempoRebased =>
    cases hlast : (Watch.after marks).last with
    | none =>
      have hnone : c.lastTrackSendStartedAt = none := by rw [hmeasured.lastAt, hlast]; rfl
      simp only [call, recordTrackPacket, recordAnyPacket, hnone]
    | some before =>
      have hsome : c.lastTrackSendStartedAt = some before.1 := by rw [hmeasured.lastAt, hlast]; rfl
      have hduration : c.lastTrackDuration = some before.2 := by
        rw [hmeasured.lastDuration, hlast]
        rfl
      have hover : before.1 + before.2 ≤ sendStartedAt := by
        rw [List.map_append, List.reduceOption_append] at h
        refine (List.pairwise_append.mp h).2.2 before ?_ _ List.mem_cons_self
        rw [Watch.last_eq] at hlast
        exact mem_of_mem_currentRun (List.mem_of_getLast? hlast)
      have hnotFast : ¬sendStartedAt - before.1 < before.2 := by omega
      simp only [call, recordTrackPacket, recordAnyPacket, hsome, recordInterval, recordFastInterval,
        hduration, Option.any_some, decide_eq_true_eq, if_neg hnotFast]
  | recordMediaClockReset reason => cases reason <;> rfl
  | recordResumedFromPause => rfl
  | elsewhere other => exact absurd rfl (hx other)

theorem run_notFast {calls : List Call} (hcalls : ∀ x ∈ calls, ∀ other, x ≠ .elsewhere other)
    (h : Unhurried ((calls.flatMap Call.marks).map Mark.timing).reduceOption) :
    (calls.foldl call new).trackFastIntervalCount = 0 := by
  induction calls using List.reverseRecOn with
  | nil => rfl
  | append_singleton calls x ih =>
    rw [List.flatMap_append, List.flatMap_singleton] at h
    have hbefore := h
    rw [List.map_append, List.reduceOption_append] at hbefore
    rw [List.foldl_concat, call_notFast (run_measured calls) (hcalls x List.mem_concat_self) h]
    exact ih (fun y hy ↦ hcalls y (List.mem_append_left _ hy)) (List.pairwise_append.mp hbefore).1

/-- The collector has seen nothing faster than real time. -/
structure NotFast (c : PlaybackStabilityCollector) : Prop where
  media : c.trackMediaDurationSent ≤ c.activeTrackWallClockElapsed
  ratio : c.trackMediaToWallClockRatioPpm ≤ 1000000
  intervals : c.trackFastIntervalCount = 0
  windows : c.tempoWindow.fastCount = 0

theorem collector_notFast
    (h : Unhurried ((clockMarks metrics).map Mark.timing).reduceOption) :
    NotFast ((metrics.flatMap SendMetric.calls).foldl call new) := by
  have hmono : (starts (clockMarks metrics)).Pairwise (· ≤ ·) := by
    rw [starts_eq]
    exact List.Pairwise.map _ (fun a b hab ↦ (Nat.le_add_right _ _).trans hab) h
  have hruns := collector_countsRuns hmono
  have hmedia : ((metrics.flatMap SendMetric.calls).foldl call new).trackMediaDurationSent ≤
      ((metrics.flatMap SendMetric.calls).foldl call new).activeTrackWallClockElapsed := by
    rw [hruns.media, hruns.elapsed]
    refine (min_le_left _ _).trans (sum_le_spans fun run hrun ↦ ?_)
    exact h.sublist (sublist_of_mem_filledRuns hrun)
  obtain ⟨hsame, -⟩ := run_trackPacketCount (c := new) (n := 0) (calls_direct metrics) rfl
  refine ⟨hmedia, ratioPpm_le hmedia, run_notFast (calls_direct metrics) h, ?_⟩
  obtain ⟨-, hcounts, -⟩ := windows_counted (metrics.flatMap SendMetric.calls)
  have hnone : (trackWindows (metrics.flatMap SendMetric.calls)).countP windowIsFast = 0 := by
    refine List.countP_eq_zero.mpr fun window hwindow hfast ↦ ?_
    have hslow := windowRatioPpm_le h hwindow
    exact absurd (of_decide_eq_true hfast) (by unfold maxMediaToWallClockRatioPpm; omega)
  rw [hsame, hcounts.fast, hnone]
  rfl

end Collector

/-- However the driver, its sender and the network go, and whatever of it is lost on the way, what
the pipeline hears of a playback is never faster than real time. -/
theorem driver_notFast {now : ℕ} {passes : List Pass} {d : PacedDriver}
    (hrun : Relation.ReflTransGen PacedDriver.Step (.start now passes) d)
    (hframes : ∀ r ∈ sentRecords d.told,
      durationFromSamples r.durationSamples.toNat ≤ frameDuration)
    {heard : List SendMetric} (hheard : heard.Sublist d.told) :
    NotFast ((heard.flatMap SendMetric.calls).foldl PlaybackStabilityCollector.call .new) := by
  have hpace := (KeepsPace.start now passes).run hrun hframes
  have hspaced := (List.pairwise_append.mp hpace.spaced).1
  exact collector_notFast (unhurried_clockMarks (hspaced.sublist (hheard.filterMap _)))

namespace PacedDriver

theorem recordDeadlineSendMetric_unheard (d : PacedDriver) (unheard : List DeadlineSendRecord)
    (record : DeadlineSendRecord) :
    recordDeadlineSendMetric { d with unheard } record =
      { d.recordDeadlineSendMetric record with unheard } := by
  unfold recordDeadlineSendMetric
  rfl

theorem foldl_unheard (d : PacedDriver) (unheard records : List DeadlineSendRecord) :
    records.foldl recordDeadlineSendMetric { d with unheard } =
      { records.foldl recordDeadlineSendMetric d with unheard } := by
  induction records generalizing d with
  | nil => rfl
  | cons record records ih =>
    rw [List.foldl_cons, List.foldl_cons, recordDeadlineSendMetric_unheard, ih]

def waited (d : PacedDriver) (duration : ℕ) : PacedDriver := { d with now := d.now + duration }

def heardOut (d : PacedDriver) : PacedDriver :=
  { d.unheard.foldl recordDeadlineSendMetric d with unheard := [] }

/-- The driver pauses for a while and resumes. -/
def pausedFor (d : PacedDriver) (silence : List Pass) (duration : ℕ) : PacedDriver :=
  (d.pause (senderReports (d.now + frameDuration) d.now silence) [] (d.now + duration)).resume

/-- A DAVE transition gives the driver a new sender. -/
def rebuiltWith (d : PacedDriver) (passes : List Pass) : PacedDriver :=
  { d with unheard := senderReports (max d.pacer.nextDeadline d.now) d.now passes }

theorem reaches_heardOut {d : PacedDriver} (hopen : d.paused = false)
    (hsent : ∀ r ∈ d.unheard, r.sentAt ≤ d.now) : Relation.ReflTransGen Step d d.heardOut := by
  unfold heardOut
  generalize hunheard : d.unheard = records at hsent
  induction records generalizing d with
  | nil =>
    have hsame : ({ d with unheard := [] } : PacedDriver) = d := by
      rw [← hunheard]
    rw [List.foldl_nil, hsame]
  | cons record records ih =>
    have hhear := Step.hear hopen hunheard (hsent record List.mem_cons_self)
    have hlater := fun r hr ↦ hsent r (List.mem_cons_of_mem record hr)
    obtain ⟨pacer, reset, rebased, hmarked, -⟩ := d.recordDeadlineSendMetric_eq record
    rw [List.foldl_cons]
    rw [hmarked] at hhear ⊢
    refine .head hhear ?_
    have hrest := ih (d := { d with
      pacer
      unheard := records
      told := d.told ++ [.senderSent record reset rebased] }) hopen rfl hlater
    rwa [foldl_unheard { d with
      pacer
      told := d.told ++ [.senderSent record reset rebased] }] at hrest

theorem reaches_pausedFor {d : PacedDriver} (hopen : d.paused = false) (silence : List Pass)
    (duration : ℕ)
    (hlength : (senderReports (d.now + frameDuration) d.now silence).length =
      Media.stopAudioBoundarySilencePackets)
    (hsilence : ∀ r ∈ senderReports (d.now + frameDuration) d.now silence, r.mediaFrame = none)
    (hsent : ∀ r ∈ senderReports (d.now + frameDuration) d.now silence,
      r.sentAt ≤ d.now + duration) : Relation.ReflTransGen Step d (d.pausedFor silence duration) :=
  (Relation.ReflTransGen.single (Step.pause hopen silence (List.append_nil _).symm hlength hsilence
    (Nat.le_add_right _ duration) hsent)).tail (.resume rfl)

theorem reaches_rebuiltWith {d : PacedDriver} (hopen : d.paused = false) (passes : List Pass)
    (duration : ℕ) (hsent : ∀ r ∈ ((d.rebuiltWith passes).waited duration).unheard,
      r.sentAt ≤ d.now + duration) :
    Relation.ReflTransGen Step d ((d.rebuiltWith passes).waited duration).heardOut :=
  ((Relation.ReflTransGen.single (Step.rebuildForDave hopen passes)).tail (.wait duration)).trans
    (reaches_heardOut hopen hsent)

/-- The silence of a pause behind fifty packets of the track. -/
def boundaryPasses : List Pass :=
  (List.range' 50 Media.stopAudioBoundarySilencePackets).map fun i ↦
    silencePass (.ofNat i) (.ofNat (960 * i)) (.ofNat i)

/-- A second of the track is out two seconds after the start. -/
def secondPlayed : PacedDriver :=
  ((start 0 (trackPasses 0 50 0)).waited 2000000000).heardOut

def secondPaused : PacedDriver := secondPlayed.pausedFor boundaryPasses 1000000000

/-- A new sender goes on with the track. -/
def secondRebuilt : PacedDriver :=
  ((secondPaused.rebuiltWith (trackPasses 50 2 5)).waited 1000000000).heardOut

theorem reaches_secondRebuilt :
    Relation.ReflTransGen Step (start 0 (trackPasses 0 50 0)) secondRebuilt := by
  have hplayed : Relation.ReflTransGen Step (start 0 (trackPasses 0 50 0)) secondPlayed :=
    (Relation.ReflTransGen.single (.wait 2000000000)).trans
      (reaches_heardOut (by decide +kernel) (by decide +kernel))
  have hpaused : Relation.ReflTransGen Step secondPlayed secondPaused :=
    reaches_pausedFor (by decide +kernel) boundaryPasses 1000000000 (by decide +kernel)
      (by decide +kernel) (by decide +kernel)
  exact (hplayed.trans hpaused).trans
    (reaches_rebuiltWith (by decide +kernel) (trackPasses 50 2 5) 1000000000 (by decide +kernel))

end PacedDriver

theorem driver_notFast_secondRebuilt :
    ∃ d, Relation.ReflTransGen PacedDriver.Step (.start 0 (trackPasses 0 50 0)) d ∧
      let c := (d.told.flatMap SendMetric.calls).foldl PlaybackStabilityCollector.call .new
      (sentRecords d.told).length = 57 ∧ c.trackPacketCount = 52 ∧ c.tempoWindow.count = 1 ∧
        NotFast c :=
  ⟨PacedDriver.secondRebuilt, PacedDriver.reaches_secondRebuilt, by decide +kernel,
    by decide +kernel, by decide +kernel,
    driver_notFast PacedDriver.reaches_secondRebuilt (by decide +kernel) (List.Sublist.refl _)⟩

end DiscordVoice.Session
