import Mathlib.Order.Bounds.Basic
import DiscordVoice.RunWindows
import DiscordVoice.Session.StabilityMetrics

namespace DiscordVoice.Session

open Playback RunSpans RunWindows

/-- A counter of 64 bits that stays at its greatest value. -/
def u64Counter (n : ℕ) : ℕ := min n (2 ^ 64 - 1)

theorem u64Counter_succ (n : ℕ) : saturatingAdd (u64Counter n) 1 = u64Counter (n + 1) := by
  unfold saturatingAdd u64Counter
  omega

theorem u64Counter_eq {n : ℕ} (h : n < 2 ^ 64) : u64Counter n = n :=
  Nat.min_eq_left (Nat.le_sub_one_of_lt h)

theorem u64Counter_pos {n : ℕ} : 0 < u64Counter n ↔ n ≠ 0 := by
  unfold u64Counter
  omega

theorem trackTempoWindowPackets_pos : 0 < trackTempoWindowPackets := by decide

def mediaSent : List Mark → ℕ
  | [] => 0
  | .cut :: marks => mediaSent marks
  | .item _ duration :: marks => duration + mediaSent marks

/-- The packets on a timeline, each with the media sent before it; a cut between two packets does not
take anything from the media. -/
def packetsFrom (media : ℕ) : List Mark → List (Option TrackPacketTiming)
  | [] => []
  | .cut :: marks => none :: packetsFrom media marks
  | .item start duration :: marks =>
    some ⟨start, duration, media⟩ :: packetsFrom (media + duration) marks

def packetMarks : List Mark → List (Option TrackPacketTiming) := packetsFrom 0

theorem mediaSent_concat_cut (marks : List Mark) : mediaSent (marks ++ [.cut]) = mediaSent marks := by
  induction marks with
  | nil => rfl
  | cons m marks ih =>
    cases m with
    | cut => exact ih
    | item start duration => exact congrArg (duration + ·) ih

theorem mediaSent_concat_item (marks : List Mark) (start duration : ℕ) :
    mediaSent (marks ++ [.item start duration]) = mediaSent marks + duration := by
  induction marks with
  | nil => exact Nat.add_comm _ _
  | cons m marks ih =>
    cases m with
    | cut => exact ih
    | item first lasted =>
      rw [List.cons_append, mediaSent, mediaSent, ih, Nat.add_assoc]

theorem packetsFrom_concat_cut (media : ℕ) (marks : List Mark) :
    packetsFrom media (marks ++ [.cut]) = packetsFrom media marks ++ [none] := by
  induction marks generalizing media with
  | nil => rfl
  | cons m marks ih =>
    cases m with
    | cut => exact congrArg (none :: ·) (ih media)
    | item start duration => exact congrArg (some _ :: ·) (ih (media + duration))

theorem packetsFrom_concat_item (media : ℕ) (marks : List Mark) (start duration : ℕ) :
    packetsFrom media (marks ++ [.item start duration]) =
      packetsFrom media marks ++ [some ⟨start, duration, media + mediaSent marks⟩] := by
  induction marks generalizing media with
  | nil => rfl
  | cons m marks ih =>
    cases m with
    | cut => exact congrArg (none :: ·) (ih media)
    | item first lasted =>
      rw [List.cons_append, packetsFrom, packetsFrom, ih, mediaSent, Nat.add_assoc]
      rfl

theorem windowDurations_span (run : List (ℕ × ℕ)) (hrun : run ≠ []) :
    windowDurations (run.map Prod.fst) (run.map Prod.snd) =
      some ((run.map Prod.snd).sum, span run) := by
  cases run with
  | nil => exact absurd rfl hrun
  | cons first rest =>
    obtain ⟨last, hlast⟩ : ∃ last, (first :: rest).getLast? = some last :=
      ⟨_, List.getLast?_cons⟩
    rw [windowDurations, span, List.getLast?_map, List.getLast?_map, hlast]
    rfl

def windowMedia (window : List TrackPacketTiming) : ℕ := (window.map (·.duration)).sum

def windowWallClock (window : List TrackPacketTiming) : ℕ :=
  span (window.map fun packet ↦ (packet.sendStartedAt, packet.duration))

def windowRatioPpm (window : List TrackPacketTiming) : ℕ :=
  mediaToWallClockRatioPpmDuration (windowMedia window) (windowWallClock window)

def windowIsFast (window : List TrackPacketTiming) : Bool :=
  maxMediaToWallClockRatioPpm < windowRatioPpm window

def windowIsSlow (window : List TrackPacketTiming) : Bool :=
  windowRatioPpm window < minMediaToWallClockRatioPpm

/-- The first packet starts at or after the mark of the source buffer. -/
def windowIsPostSourceBuffer (window : List TrackPacketTiming) : Bool :=
  window.head?.any (trackPostSourceBufferMediaMs * 1000000 ≤ ·.mediaStart)

/-- The counts are those of the windows, on counters that show a number in their way. -/
structure CountsWindows (counter : ℕ → ℕ) (t : TrackTempoWindow)
    (windows : List (List TrackPacketTiming)) : Prop where
  count : t.count = counter windows.length
  fast : t.fastCount = counter (windows.countP windowIsFast)
  slow : t.slowCount = counter (windows.countP windowIsSlow)
  postSourceBuffer : t.postSourceBufferCount = counter (windows.countP windowIsPostSourceBuffer)

/-- The greatest ratio, and the first window that has it. -/
structure ShowsFastest (t : TrackTempoWindow) (windows : List (List TrackPacketTiming)) : Prop where
  none : windows = [] → t.maxRatioPpm = 0
  max : windows ≠ [] → IsGreatest {ratio | ∃ w ∈ windows, windowRatioPpm w = ratio} t.maxRatioPpm
  fastest : ∀ w, windows.find? (windowRatioPpm · = t.maxRatioPpm) = some w → windowIsFast w →
    t.fastestMediaMs = durationMillis (windowMedia w) ∧ t.fastestWallClock = some (windowWallClock w)

namespace TrackTempoWindow

/-- `record_latest_track_tempo_window` at a window. -/
def recordWindow (t : TrackTempoWindow) (window : List TrackPacketTiming) : TrackTempoWindow :=
  let ratio := windowRatioPpm window
  let t := { t with
    count := saturatingAdd t.count 1
    postSourceBufferCount :=
      if windowIsPostSourceBuffer window then saturatingAdd t.postSourceBufferCount 1
      else t.postSourceBufferCount
    minRatioPpm := if t.minRatioPpm = 0 then ratio else min t.minRatioPpm ratio
    maxRatioPpm := max t.maxRatioPpm ratio }
  (t.recordFast ratio (windowMedia window) (windowWallClock window)).recordSlow ratio
    (windowMedia window) (windowWallClock window)

theorem windowDurations_eq {window : List TrackPacketTiming} (hwindow : window ≠ []) :
    windowDurations (window.map (·.sendStartedAt)) (window.map (·.duration)) =
      some (windowMedia window, windowWallClock window) := by
  have hspan := windowDurations_span
    (window.map fun packet ↦ (packet.sendStartedAt, packet.duration)) (by simpa using hwindow)
  rw [List.map_map, List.map_map] at hspan
  exact hspan

theorem recordLatest_eq (t : TrackTempoWindow) (timings : List TrackPacketTiming) :
    t.recordLatest timings = (lastWindow trackTempoWindowPackets timings).elim t t.recordWindow := by
  by_cases hshort : timings.length < trackTempoWindowPackets
  · rw [recordLatest, if_pos hshort, lastWindow_of_short hshort]
    rfl
  · have hfits : trackTempoWindowPackets ≤ timings.length := Nat.le_of_not_lt hshort
    obtain ⟨hlast, hsome⟩ := lastWindow_of_fits trackTempoWindowPackets_pos hfits
    rw [recordLatest, if_neg hshort, hlast]
    generalize timings.drop (timings.length - trackTempoWindowPackets) = window at hsome ⊢
    cases hfirst : window.head? with
    | none => exact absurd (List.head?_eq_none_iff.mp hfirst) hsome
    | some first =>
      have hpost : windowIsPostSourceBuffer window =
          decide (first.mediaStart ≥ trackPostSourceBufferMediaMs * 1000000) := by
        rw [windowIsPostSourceBuffer, hfirst]
        rfl
      simp only [windowDurations_eq hsome, Option.elim_some, recordWindow, hpost, hfirst,
        decide_eq_true_eq]
      rfl

variable (t : TrackTempoWindow) (ratio media wallClock : ℕ)

def fastest : ℕ × ℕ × Option ℕ := (t.fastestRatioPpm, t.fastestMediaMs, t.fastestWallClock)

def beforeSlow : ℕ × ℕ × ℕ × ℕ × ℕ × ℕ × Option ℕ :=
  (t.count, t.postSourceBufferCount, t.maxRatioPpm, t.fastCount, t.fastest)

theorem recordSlow_beforeSlow :
    (t.recordSlow ratio media wallClock).beforeSlow = t.beforeSlow := by
  simp only [recordSlow]
  split_ifs <;> rfl

theorem recordSlow_slowCount : (t.recordSlow ratio media wallClock).slowCount =
    if ratio < minMediaToWallClockRatioPpm then saturatingAdd t.slowCount 1 else t.slowCount := by
  simp only [recordSlow]
  split_ifs <;> rfl

theorem recordFast_beforeSlow : (t.recordFast ratio media wallClock).beforeSlow =
    (t.count, t.postSourceBufferCount, t.maxRatioPpm,
      if maxMediaToWallClockRatioPpm < ratio then saturatingAdd t.fastCount 1 else t.fastCount,
      if maxMediaToWallClockRatioPpm < ratio ∧ t.fastestRatioPpm < ratio then
        (ratio, durationMillis media, some wallClock)
      else t.fastest) := by
  simp only [recordFast, gt_iff_lt]
  by_cases hfast : maxMediaToWallClockRatioPpm < ratio
  · by_cases hfaster : t.fastestRatioPpm < ratio
    · rw [if_pos hfast, if_pos hfaster, if_pos hfast, if_pos ⟨hfast, hfaster⟩]
      rfl
    · rw [if_pos hfast, if_neg hfaster, if_pos hfast, if_neg (hfaster ·.2)]
      rfl
  · rw [if_neg hfast, if_neg hfast, if_neg (hfast ·.1)]
    rfl

theorem recordFast_slowCount : (t.recordFast ratio media wallClock).slowCount = t.slowCount := by
  simp only [recordFast]
  split_ifs <;> rfl

variable (window : List TrackPacketTiming)

theorem recordWindow_beforeSlow : (t.recordWindow window).beforeSlow =
    (saturatingAdd t.count 1,
      if windowIsPostSourceBuffer window then saturatingAdd t.postSourceBufferCount 1
      else t.postSourceBufferCount,
      max t.maxRatioPpm (windowRatioPpm window),
      if windowIsFast window then saturatingAdd t.fastCount 1 else t.fastCount,
      if windowIsFast window ∧ t.fastestRatioPpm < windowRatioPpm window then
        (windowRatioPpm window, durationMillis (windowMedia window), some (windowWallClock window))
      else t.fastest) := by
  rw [recordWindow, recordSlow_beforeSlow, recordFast_beforeSlow]
  simp only [windowIsFast, decide_eq_true_eq, fastest]

theorem recordWindow_slowCount : (t.recordWindow window).slowCount =
    if windowIsSlow window then saturatingAdd t.slowCount 1 else t.slowCount := by
  rw [recordWindow, recordSlow_slowCount, recordFast_slowCount]
  simp only [windowIsSlow, decide_eq_true_eq]

end TrackTempoWindow

theorem u64Counter_if (n : ℕ) (b : Bool) :
    (if b then saturatingAdd (u64Counter n) 1 else u64Counter n) =
      u64Counter (n + if b then 1 else 0) := by
  cases b with
  | false => rfl
  | true => exact u64Counter_succ n

variable {t : TrackTempoWindow} {windows : List (List TrackPacketTiming)}

theorem CountsWindows.concat (h : CountsWindows u64Counter t windows)
    (window : List TrackPacketTiming) :
    CountsWindows u64Counter (t.recordWindow window) (windows ++ [window]) := by
  have hkept := t.recordWindow_beforeSlow window
  have hslow := t.recordWindow_slowCount window
  rw [h.count, h.fast, h.postSourceBuffer, u64Counter_succ, u64Counter_if, u64Counter_if] at hkept
  rw [h.slow, u64Counter_if] at hslow
  refine ⟨?_, ?_, ?_, ?_⟩
  · rw [List.length_append]
    exact congrArg (·.1) hkept
  · rw [List.countP_append, List.countP_singleton]
    exact congrArg (·.2.2.2.1) hkept
  · rw [List.countP_append, List.countP_singleton]
    exact hslow
  · rw [List.countP_append, List.countP_singleton]
    exact congrArg (·.2.1) hkept

theorem CountsWindows.exact (h : CountsWindows u64Counter t windows) (hroom : windows.length < 2 ^ 64) :
    CountsWindows id t windows := by
  have hcount : ∀ p : List TrackPacketTiming → Bool,
      u64Counter (windows.countP p) = windows.countP p :=
    fun p ↦ u64Counter_eq (Nat.lt_of_le_of_lt List.countP_le_length hroom)
  refine ⟨?_, ?_, ?_, ?_⟩
  · exact h.count.trans (u64Counter_eq hroom)
  · exact h.fast.trans (hcount _)
  · exact h.slow.trans (hcount _)
  · exact h.postSourceBuffer.trans (hcount _)

/-- The greatest ratio so far, and the window shown as the fastest, which is the first with that ratio
once a window is fast. -/
structure Fastest (t : TrackTempoWindow) (windows : List (List TrackPacketTiming)) : Prop where
  bound : ∀ w ∈ windows, windowRatioPpm w ≤ t.maxRatioPpm
  attained : t.maxRatioPpm = 0 ∨ ∃ w ∈ windows, windowRatioPpm w = t.maxRatioPpm
  slower : t.maxRatioPpm ≤ maxMediaToWallClockRatioPpm → t.fastestRatioPpm = 0
  fastest : maxMediaToWallClockRatioPpm < t.maxRatioPpm →
    ∃ w, windows.find? (windowRatioPpm · = t.maxRatioPpm) = some w ∧
      t.fastest =
        (windowRatioPpm w, durationMillis (windowMedia w), some (windowWallClock w))

theorem ratio_of_find {ratio : ℕ} {w : List TrackPacketTiming}
    (h : windows.find? (windowRatioPpm · = ratio) = some w) : windowRatioPpm w = ratio := by
  have hfound := List.find?_some h
  exact of_decide_eq_true hfound

namespace Fastest

theorem recordWindow_max (t : TrackTempoWindow) (window : List TrackPacketTiming) :
    (t.recordWindow window).maxRatioPpm = max t.maxRatioPpm (windowRatioPpm window) :=
  congrArg (·.2.2.1) (t.recordWindow_beforeSlow window)

theorem recordWindow_fastest (t : TrackTempoWindow) (window : List TrackPacketTiming) :
    (t.recordWindow window).fastest =
      if windowIsFast window ∧ t.fastestRatioPpm < windowRatioPpm window then
        (windowRatioPpm window, durationMillis (windowMedia window), some (windowWallClock window))
      else t.fastest :=
  congrArg (·.2.2.2.2) (t.recordWindow_beforeSlow window)

/-- The ratio shown as the fastest is never above the greatest. -/
theorem fastestRatio_le (h : Fastest t windows) : t.fastestRatioPpm ≤ t.maxRatioPpm := by
  rcases Nat.lt_or_ge maxMediaToWallClockRatioPpm t.maxRatioPpm with hfast | hslow
  · obtain ⟨w, hfirst, hshown⟩ := h.fastest hfast
    have hratio : t.fastestRatioPpm = windowRatioPpm w := congrArg Prod.fst hshown
    rw [hratio]
    exact h.bound w (List.mem_of_find?_eq_some hfirst)
  · rw [h.slower hslow]
    exact Nat.zero_le _

theorem concat_faster (h : Fastest t windows) {window : List TrackPacketTiming}
    (hfaster : t.maxRatioPpm < windowRatioPpm window) :
    Fastest (t.recordWindow window) (windows ++ [window]) := by
  have hmax : (t.recordWindow window).maxRatioPpm = windowRatioPpm window := by
    rw [recordWindow_max, Nat.max_eq_right (Nat.le_of_lt hfaster)]
  have hfastest := recordWindow_fastest t window
  have hbefore : ∀ w ∈ windows, windowRatioPpm w < windowRatioPpm window := by
    intro w hw
    exact Nat.lt_of_le_of_lt (h.bound w hw) hfaster
  refine ⟨?_, ?_, ?_, ?_⟩
  · intro w hw
    rw [hmax]
    rcases List.mem_append.mp hw with hw | hw
    · exact Nat.le_of_lt (hbefore w hw)
    · rw [List.mem_singleton.mp hw]
  · right
    exact ⟨window, List.mem_append_right _ List.mem_cons_self, hmax.symm⟩
  · intro hslow
    rw [hmax] at hslow
    have hnot : ¬(windowIsFast window = true ∧ t.fastestRatioPpm < windowRatioPpm window) := by
      rintro ⟨hfast, -⟩
      exact Nat.not_lt.mpr hslow (of_decide_eq_true hfast)
    rw [if_neg hnot] at hfastest
    have hkept := congrArg Prod.fst hfastest
    exact hkept.trans (h.slower (Nat.le_trans (Nat.le_of_lt hfaster) hslow))
  · intro hfast
    rw [hmax] at hfast ⊢
    refine ⟨window, ?_, ?_⟩
    · have hnone : windows.find? (windowRatioPpm · = windowRatioPpm window) = none := by
        rw [List.find?_eq_none]
        intro w hw hsame
        exact (hbefore w hw).ne (of_decide_eq_true hsame)
      rw [List.find?_append, hnone, Option.none_or, List.find?_singleton, if_pos (decide_eq_true rfl)]
    · have hshown : windowIsFast window = true ∧ t.fastestRatioPpm < windowRatioPpm window :=
        ⟨decide_eq_true hfast, Nat.lt_of_le_of_lt h.fastestRatio_le hfaster⟩
      rw [hfastest, if_pos hshown]

theorem concat_slower (h : Fastest t windows) {window : List TrackPacketTiming}
    (hslower : windowRatioPpm window ≤ t.maxRatioPpm) :
    Fastest (t.recordWindow window) (windows ++ [window]) := by
  have hmax : (t.recordWindow window).maxRatioPpm = t.maxRatioPpm := by
    rw [recordWindow_max, Nat.max_eq_left hslower]
  have hkept : (t.recordWindow window).fastest = t.fastest := by
    rw [recordWindow_fastest]
    apply if_neg
    rintro ⟨hfast, hfaster⟩
    have hsome : maxMediaToWallClockRatioPpm < t.maxRatioPpm :=
      Nat.lt_of_lt_of_le (of_decide_eq_true hfast) hslower
    obtain ⟨w, hfirst, hshown⟩ := h.fastest hsome
    have hratio : t.fastestRatioPpm = windowRatioPpm w := congrArg Prod.fst hshown
    have hw : windowRatioPpm w = t.maxRatioPpm := ratio_of_find hfirst
    omega
  refine ⟨?_, ?_, ?_, ?_⟩
  · intro w hw
    rw [hmax]
    rcases List.mem_append.mp hw with hw | hw
    · exact h.bound w hw
    · rw [List.mem_singleton.mp hw]
      exact hslower
  · rw [hmax]
    rcases h.attained with hzero | ⟨w, hw, hratio⟩
    · exact .inl hzero
    · exact .inr ⟨w, List.mem_append_left _ hw, hratio⟩
  · intro hslow
    rw [hmax] at hslow
    exact (congrArg Prod.fst hkept).trans (h.slower hslow)
  · intro hfast
    rw [hmax] at hfast ⊢
    obtain ⟨w, hfirst, hshown⟩ := h.fastest hfast
    refine ⟨w, ?_, hkept.trans hshown⟩
    rw [List.find?_append, hfirst, Option.some_or]

theorem concat (h : Fastest t windows) (window : List TrackPacketTiming) :
    Fastest (t.recordWindow window) (windows ++ [window]) := by
  rcases Nat.lt_or_ge t.maxRatioPpm (windowRatioPpm window) with hfaster | hslower
  · exact h.concat_faster hfaster
  · exact h.concat_slower hslower

theorem shows (h : Fastest t windows) : ShowsFastest t windows := by
  refine ⟨?_, ?_, ?_⟩
  · rintro rfl
    rcases h.attained with hzero | ⟨w, hw, -⟩
    · exact hzero
    · cases hw
  · intro hsome
    refine ⟨?_, ?_⟩
    · rcases h.attained with hzero | hattained
      · obtain ⟨w, hw⟩ := List.exists_mem_of_ne_nil windows hsome
        have hle := h.bound w hw
        exact ⟨w, hw, by omega⟩
      · exact hattained
    · rintro _ ⟨w, hw, rfl⟩
      exact h.bound w hw
  · intro w hfirst hfast
    have hw : windowRatioPpm w = t.maxRatioPpm := ratio_of_find hfirst
    have hmax : maxMediaToWallClockRatioPpm < t.maxRatioPpm := hw ▸ of_decide_eq_true hfast
    obtain ⟨first, hsame, hshown⟩ := h.fastest hmax
    obtain rfl := Option.some.inj (hfirst.symm.trans hsame)
    exact ⟨congrArg (·.2.1) hshown, congrArg (·.2.2) hshown⟩

end Fastest

/-- The mark of the source buffer is reached long before the media a collector can count ends. -/
def clamped (packet : TrackPacketTiming) : TrackPacketTiming :=
  { packet with mediaStart := min packet.mediaStart durationMax }

theorem recordWindow_clamped (t : TrackTempoWindow) (window : List TrackPacketTiming) :
    t.recordWindow (window.map clamped) = t.recordWindow window := by
  have hmedia : windowMedia (window.map clamped) = windowMedia window := by
    rw [windowMedia, List.map_map]
    rfl
  have hwallClock : windowWallClock (window.map clamped) = windowWallClock window := by
    rw [windowWallClock, List.map_map]
    rfl
  have hratio : windowRatioPpm (window.map clamped) = windowRatioPpm window := by
    rw [windowRatioPpm, hmedia, hwallClock]
    rfl
  have hpost : windowIsPostSourceBuffer (window.map clamped) = windowIsPostSourceBuffer window := by
    rw [windowIsPostSourceBuffer, windowIsPostSourceBuffer, List.head?_map, Option.any_map]
    have hmark : trackPostSourceBufferMediaMs * 1000000 ≤ durationMax := by decide
    have hsame : ∀ packet : TrackPacketTiming,
        (trackPostSourceBufferMediaMs * 1000000 ≤ min packet.mediaStart durationMax) ↔
          trackPostSourceBufferMediaMs * 1000000 ≤ packet.mediaStart := by
      intro packet
      omega
    simp only [clamped, hsame]
  rw [TrackTempoWindow.recordWindow, hmedia, hwallClock, hratio, hpost]
  rfl

theorem windows_step (hcounts : CountsWindows u64Counter t windows) (hfastest : Fastest t windows)
    (timings : List TrackPacketTiming) :
    CountsWindows u64Counter (t.recordLatest (timings.map clamped))
        (windows ++ (lastWindow trackTempoWindowPackets timings).toList) ∧
      Fastest (t.recordLatest (timings.map clamped))
        (windows ++ (lastWindow trackTempoWindowPackets timings).toList) := by
  rw [TrackTempoWindow.recordLatest_eq, lastWindow_map]
  cases lastWindow trackTempoWindowPackets timings with
  | none =>
    rw [Option.toList_none, List.append_nil]
    exact ⟨hcounts, hfastest⟩
  | some window =>
    rw [Option.map_some, Option.elim_some, recordWindow_clamped, Option.toList_some]
    exact ⟨hcounts.concat window, hfastest.concat window⟩

namespace PlaybackStabilityCollector

/-- What another function of the collector may do: it does not touch what the windows are made from,
nor the latenesses, one of which is kept for each packet. -/
def besideWindows (c other : PlaybackStabilityCollector) : PlaybackStabilityCollector :=
  { other with
    trackPacketTimings := c.trackPacketTimings
    trackMediaDurationSent := c.trackMediaDurationSent
    tempoWindow := c.tempoWindow
    lateness := { other.lateness with senderLateness := c.lateness.senderLateness } }

def windowCall (c : PlaybackStabilityCollector) : Call → PlaybackStabilityCollector
  | .recordTrackPacket expectedDeadline sendStartedAt durationSamples tempoRebased =>
    c.recordTrackPacket expectedDeadline sendStartedAt durationSamples tempoRebased
  | .recordMediaClockReset reason => c.recordMediaClockReset reason
  | .recordResumedFromPause => c.recordResumedFromPause
  | .elsewhere other => c.besideWindows other

def trackWindows (calls : List Call) : List (List TrackPacketTiming) :=
  runWindows trackTempoWindowPackets (packetMarks (calls.flatMap Call.marks))

def windowFields (c : PlaybackStabilityCollector) :
    List TrackPacketTiming × ℕ × TrackTempoWindow × List ℕ :=
  (c.trackPacketTimings, c.trackMediaDurationSent, c.tempoWindow, c.lateness.senderLateness)

theorem recordInterval_windowFields (c : PlaybackStabilityCollector) (interval frameDuration : ℕ) :
    (c.recordInterval interval frameDuration).windowFields = c.windowFields := by
  rw [recordInterval, recordFastInterval_eq]
  rfl

theorem senderLateness_record (l : SenderLateness) (lateness : ℕ) :
    (l.record lateness).senderLateness = l.senderLateness ++ [lateness] := by
  simp only [SenderLateness.record]
  split_ifs <;> rfl

/-- A packet that has been counted, with the interval before it. -/
def counted (c : PlaybackStabilityCollector) (lateness sendStartedAt frameDuration : ℕ)
    (tempoRebased : Bool) : PlaybackStabilityCollector :=
  let c := { c with
    trackMediaDurationSent := durationSaturatingAdd c.trackMediaDurationSent frameDuration
    tempoRebaseCount :=
      if tempoRebased then saturatingAdd c.tempoRebaseCount 1 else c.tempoRebaseCount
    lateness := c.lateness.record lateness }
  match c.lastTrackSendStartedAt with
  | some previous => c.recordInterval (sendStartedAt - previous) frameDuration
  | none => { c with activeTrackWallClockElapsed := c.activeTrackWallClockElapsed + frameDuration }

theorem counted_windowFields (c : PlaybackStabilityCollector)
    (lateness sendStartedAt frameDuration : ℕ) (tempoRebased : Bool) :
    (c.counted lateness sendStartedAt frameDuration tempoRebased).windowFields =
      (c.trackPacketTimings, durationSaturatingAdd c.trackMediaDurationSent frameDuration,
        c.tempoWindow, c.lateness.senderLateness ++ [lateness]) := by
  rw [← senderLateness_record]
  unfold counted
  cases c.lastTrackSendStartedAt with
  | none => rfl
  | some previous => exact recordInterval_windowFields _ _ _

theorem recordTrackPacket_windowFields (c : PlaybackStabilityCollector)
    (expectedDeadline sendStartedAt : ℕ) (durationSamples : UInt32) (tempoRebased : Bool) :
    (c.recordTrackPacket expectedDeadline sendStartedAt durationSamples tempoRebased).windowFields =
      (c.trackPacketTimings ++
          [⟨sendStartedAt, durationFromSamples durationSamples.toNat, c.trackMediaDurationSent⟩],
        durationSaturatingAdd c.trackMediaDurationSent
          (durationFromSamples durationSamples.toNat),
        c.tempoWindow.recordLatest (c.trackPacketTimings ++
          [⟨sendStartedAt, durationFromSamples durationSamples.toNat, c.trackMediaDurationSent⟩]),
        c.lateness.senderLateness ++ [sendStartedAt - expectedDeadline]) := by
  have hcounted := c.counted_windowFields (sendStartedAt - expectedDeadline) sendStartedAt
    (durationFromSamples durationSamples.toNat) tempoRebased
  have htimings := congrArg (·.1) hcounted
  have hmedia := congrArg (·.2.1) hcounted
  have htempo := congrArg (·.2.2.1) hcounted
  have hlateness := congrArg (·.2.2.2) hcounted
  simp only [windowFields] at htimings hmedia htempo hlateness
  rw [← htimings, ← hmedia, ← hlateness]
  conv_rhs => rw [← htempo]
  rfl

/-- The collector has the packets of the run it is in, and the windows of all runs. -/
structure SeesWindows (c : PlaybackStabilityCollector) (marks : List Mark) : Prop where
  timings : c.trackPacketTimings = (currentRun (packetMarks marks)).map clamped
  media : c.trackMediaDurationSent = min (mediaSent marks) durationMax
  counts : CountsWindows u64Counter c.tempoWindow
    (runWindows trackTempoWindowPackets (packetMarks marks))
  fastest : Fastest c.tempoWindow (runWindows trackTempoWindowPackets (packetMarks marks))
  lateness : c.lateness.senderLateness.length = (packetMarks marks).reduceOption.length

theorem SeesWindows.of_windowFields {c c' : PlaybackStabilityCollector} {marks : List Mark}
    (h : c.SeesWindows marks) (hfields : c'.windowFields = c.windowFields) :
    c'.SeesWindows marks := by
  have htimings : c'.trackPacketTimings = c.trackPacketTimings := congrArg (·.1) hfields
  have hmedia : c'.trackMediaDurationSent = c.trackMediaDurationSent := congrArg (·.2.1) hfields
  have htempo : c'.tempoWindow = c.tempoWindow := congrArg (·.2.2.1) hfields
  have hlateness : c'.lateness.senderLateness = c.lateness.senderLateness :=
    congrArg (·.2.2.2) hfields
  refine ⟨?_, ?_, ?_, ?_, ?_⟩
  · rw [htimings, h.timings]
  · rw [hmedia, h.media]
  · rw [htempo]
    exact h.counts
  · rw [htempo]
    exact h.fastest
  · rw [hlateness, h.lateness]

theorem SeesWindows.cut {c c' : PlaybackStabilityCollector} {marks : List Mark}
    (h : c.SeesWindows marks) (hfields : c'.windowFields = ([], c.windowFields.2)) :
    c'.SeesWindows (marks ++ [.cut]) := by
  have hnone : packetMarks (marks ++ [.cut]) = packetMarks marks ++ [none] :=
    packetsFrom_concat_cut 0 marks
  have htempo : c'.tempoWindow = c.tempoWindow := congrArg (·.2.2.1) hfields
  have hlateness : c'.lateness.senderLateness = c.lateness.senderLateness :=
    congrArg (·.2.2.2) hfields
  refine ⟨?_, ?_, ?_, ?_, ?_⟩
  · rw [hnone, currentRun_concat_none]
    exact congrArg (·.1) hfields
  · rw [mediaSent_concat_cut, ← h.media]
    exact congrArg (·.2.1) hfields
  · rw [hnone, runWindows_concat_none, htempo]
    exact h.counts
  · rw [hnone, runWindows_concat_none, htempo]
    exact h.fastest
  · rw [hnone, List.reduceOption_append, hlateness, h.lateness, List.length_append]
    rfl

theorem SeesWindows.item {c : PlaybackStabilityCollector} {marks : List Mark}
    (h : c.SeesWindows marks) (expectedDeadline sendStartedAt : ℕ) (durationSamples : UInt32)
    (tempoRebased : Bool) :
    (c.recordTrackPacket expectedDeadline sendStartedAt durationSamples tempoRebased).SeesWindows
      (marks ++ [.item sendStartedAt (durationFromSamples durationSamples.toNat)]) := by
  have hfields := c.recordTrackPacket_windowFields expectedDeadline sendStartedAt durationSamples
    tempoRebased
  generalize hduration : durationFromSamples durationSamples.toNat = duration at hfields ⊢
  generalize hafter : c.recordTrackPacket expectedDeadline sendStartedAt durationSamples tempoRebased
    = after at hfields ⊢
  have hsome : packetMarks (marks ++ [.item sendStartedAt duration]) =
      packetMarks marks ++ [some ⟨sendStartedAt, duration, 0 + mediaSent marks⟩] :=
    packetsFrom_concat_item 0 marks sendStartedAt duration
  rw [Nat.zero_add] at hsome
  have htimings : c.trackPacketTimings ++ [⟨sendStartedAt, duration, c.trackMediaDurationSent⟩] =
      List.map clamped
        (currentRun (packetMarks marks) ++ [⟨sendStartedAt, duration, mediaSent marks⟩]) := by
    rw [List.map_append, h.timings, h.media]
    rfl
  rw [htimings] at hfields
  obtain ⟨hcounts, hfastest⟩ := windows_step h.counts h.fastest
    (currentRun (packetMarks marks) ++ [⟨sendStartedAt, duration, mediaSent marks⟩])
  have htempo := congrArg (·.2.2.1) hfields
  simp only [windowFields] at htempo
  refine ⟨?_, ?_, ?_, ?_, ?_⟩
  · rw [hsome, currentRun_concat_some]
    exact congrArg (·.1) hfields
  · have hmedia := congrArg (·.2.1) hfields
    simp only [windowFields, durationSaturatingAdd, h.media] at hmedia
    rw [hmedia, mediaSent_concat_item]
    omega
  · rw [hsome, runWindows_concat_some trackTempoWindowPackets_pos, htempo]
    exact hcounts
  · rw [hsome, runWindows_concat_some trackTempoWindowPackets_pos, htempo]
    exact hfastest
  · have hlateness := congrArg (·.2.2.2) hfields
    simp only [windowFields] at hlateness
    rw [hsome, List.reduceOption_append, hlateness, List.length_append, h.lateness,
      List.length_append]
    rfl

theorem recordMediaClockReset_windowFields (c : PlaybackStabilityCollector)
    (reason : MediaClockResetReason) :
    (c.recordMediaClockReset reason).windowFields =
      if reason = .sourceUnderrun then ([], c.windowFields.2) else c.windowFields := by
  cases reason <;> rfl

theorem windowCall_sees {c : PlaybackStabilityCollector} {marks : List Mark} (h : c.SeesWindows marks)
    (x : Call) : (c.windowCall x).SeesWindows (marks ++ x.marks) := by
  cases x with
  | recordTrackPacket expectedDeadline sendStartedAt durationSamples tempoRebased =>
    exact h.item expectedDeadline sendStartedAt durationSamples tempoRebased
  | recordMediaClockReset reason =>
    have hfields := c.recordMediaClockReset_windowFields reason
    cases reason with
    | pauseResume =>
      rw [Call.marks, List.append_nil]
      exact h.of_windowFields hfields
    | schedulerLate =>
      rw [Call.marks, List.append_nil]
      exact h.of_windowFields hfields
    | sourceUnderrun => exact h.cut hfields
  | recordResumedFromPause => exact h.cut rfl
  | elsewhere other =>
    rw [Call.marks, List.append_nil]
    exact h.of_windowFields rfl

theorem run_sees (calls : List Call) :
    (calls.foldl windowCall new).SeesWindows (calls.flatMap Call.marks) := by
  induction calls using List.reverseRecOn with
  | nil =>
    refine ⟨rfl, rfl, ⟨rfl, rfl, rfl, rfl⟩, ⟨?_, .inl rfl, fun _ ↦ rfl, ?_⟩, rfl⟩
    · intro w hw
      cases hw
    · intro hfast
      exact absurd hfast (Nat.not_lt_zero _)
  | append_singleton calls x ih =>
    rw [List.foldl_concat, List.flatMap_append, List.flatMap_singleton]
    exact windowCall_sees ih x

/-- The counters of the windows are what their names say, for every sequence of packets and resets.
They count while there are fewer than `2 ^ 64` packets, and no more fit in the list of the
latenesses. -/
theorem windows_counted (calls : List Call) :
    ShowsFastest (calls.foldl windowCall new).tempoWindow (trackWindows calls) ∧
      CountsWindows u64Counter (calls.foldl windowCall new).tempoWindow (trackWindows calls) ∧
      ((calls.foldl windowCall new).lateness.senderLateness.length < 2 ^ 64 →
        CountsWindows id (calls.foldl windowCall new).tempoWindow (trackWindows calls)) := by
  have hsees := run_sees calls
  refine ⟨hsees.fastest.shows, hsees.counts, ?_⟩
  intro hroom
  have hwindows := length_runWindows_le trackTempoWindowPackets_pos
    (packetMarks (calls.flatMap Call.marks))
  rw [← hsees.lateness] at hwindows
  exact hsees.counts.exact (Nat.lt_of_le_of_lt hwindows hroom)

end PlaybackStabilityCollector

end DiscordVoice.Session
