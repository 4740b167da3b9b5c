import DiscordVoice.Media.QueueEvents

namespace DiscordVoice.Media

open Playback

namespace PreparedPlayoutQueueEventSnapshot

def isDrop (position : ℕ) (e : PreparedPlayoutQueueEventSnapshot) : Bool :=
  e.eventKind = .droppedBeforeSend && e.sourceMediaPositionSamples = some position

def isRebuild (position : ℕ) (e : PreparedPlayoutQueueEventSnapshot) : Bool :=
  e.eventKind = .rebuilt && e.sourceMediaPositionSamples = some position

end PreparedPlayoutQueueEventSnapshot

open PreparedPlayoutQueueEventSnapshot

/-- The latest `DroppedBeforeSend` of the frame at this position of the source. -/
def latestDrop (position : ℕ) (events : List PreparedPlayoutQueueEventSnapshot) :
    Option PreparedPlayoutQueueEventSnapshot :=
  (events.filter (·.isDrop position)).getLast?

/-- The drop of the frame that no `Rebuilt` has followed. -/
def openDrop (position : ℕ) (events : List PreparedPlayoutQueueEventSnapshot) :
    Option PreparedPlayoutQueueEventSnapshot :=
  events.foldl (fun o e ↦
    if e.isDrop position then some e else if e.isRebuild position then none else o) none

/-- Each `Rebuilt` carries the reason of the latest drop of its frame. -/
def RebuiltAsDropped (events : List PreparedPlayoutQueueEventSnapshot) : Prop :=
  ∀ before e behind, events = before ++ e :: behind → e.eventKind = .rebuilt →
    ∃ position, e.sourceMediaPositionSamples = some position ∧
      (latestDrop position before).map (·.reason) = some e.reason

/-- Each frame dropped for a reason that counts has been rebuilt since. -/
def AllRebuilt (events : List PreparedPlayoutQueueEventSnapshot) : Prop :=
  ∀ before e behind, events = before ++ e :: behind → e.eventKind = .droppedBeforeSend →
    e.commandKind = .track → preparedTrackDropCountsAsUnrecovered e = true →
      ∃ e' ∈ behind, e'.eventKind = .rebuilt ∧
        e'.sourceMediaPositionSamples = e.sourceMediaPositionSamples

theorem allRebuilt_cons {e : PreparedPlayoutQueueEventSnapshot}
    {events : List PreparedPlayoutQueueEventSnapshot} :
    AllRebuilt (e :: events) ↔
      (e.eventKind = .droppedBeforeSend → e.commandKind = .track →
        preparedTrackDropCountsAsUnrecovered e = true →
          ∃ e' ∈ events, e'.eventKind = .rebuilt ∧
            e'.sourceMediaPositionSamples = e.sourceMediaPositionSamples) ∧ AllRebuilt events := by
  constructor
  · intro h
    refine ⟨h [] e events rfl, fun before x behind hsplit ↦ ?_⟩
    exact h (e :: before) x behind (by rw [hsplit, List.cons_append])
  · rintro ⟨hfirst, hrest⟩ before x behind hsplit
    cases before with
    | nil =>
      cases hsplit
      exact hfirst
    | cons y before =>
      obtain ⟨-, hsplit⟩ := List.cons.inj hsplit
      exact hrest before x behind hsplit

def decideAllRebuilt : (events : List PreparedPlayoutQueueEventSnapshot) →
    Decidable (AllRebuilt events)
  | [] => .isTrue fun before e behind hsplit ↦ by simp at hsplit
  | _ :: events =>
    let _ := decideAllRebuilt events
    decidable_of_iff _ allRebuilt_cons.symm

instance : DecidablePred AllRebuilt := decideAllRebuilt

section Drops

variable {p : ℕ} {events : List PreparedPlayoutQueueEventSnapshot}
  {e : PreparedPlayoutQueueEventSnapshot}

theorem openDrop_concat : openDrop p (events ++ [e]) =
    if e.isDrop p then some e else if e.isRebuild p then none else openDrop p events := by
  simp only [openDrop, List.foldl_append, List.foldl_cons, List.foldl_nil]

theorem latestDrop_concat : latestDrop p (events ++ [e]) =
    if e.isDrop p then some e else latestDrop p events := by
  unfold latestDrop
  rw [List.filter_append]
  by_cases h : e.isDrop p = true <;> simp [h]

theorem openDrop_isDrop (h : openDrop p events = some e) : e.isDrop p = true := by
  induction events using List.reverseRecOn with
  | nil => cases h
  | append_singleton events x ih =>
    rw [openDrop_concat] at h
    split_ifs at h with hdrop
    · cases h
      exact hdrop
    · exact ih h

theorem latestDrop_of_openDrop (h : openDrop p events = some e) : latestDrop p events = some e := by
  induction events using List.reverseRecOn with
  | nil => cases h
  | append_singleton events x ih =>
    rw [openDrop_concat] at h
    rw [latestDrop_concat]
    split_ifs at h ⊢
    · exact h
    · exact ih h

theorem openDrop_split (h : openDrop p events = some e) :
    ∃ before behind, events = before ++ e :: behind ∧ ∀ e' ∈ behind, e'.isRebuild p = false := by
  induction events using List.reverseRecOn with
  | nil => cases h
  | append_singleton events x ih =>
    rw [openDrop_concat] at h
    split_ifs at h with hdrop hrebuild
    · cases h
      exact ⟨events, [], rfl, fun e' he' ↦ (List.not_mem_nil he').elim⟩
    · obtain ⟨before, behind, rfl, hbehind⟩ := ih h
      refine ⟨before, behind ++ [x], by simp, fun e' he' ↦ ?_⟩
      rcases List.mem_append.mp he' with he' | he'
      · exact hbehind e' he'
      · rw [List.mem_singleton.mp he']
        exact Bool.eq_false_of_not_eq_true hrebuild

theorem RebuiltAsDropped.concat (h : RebuiltAsDropped events)
    (he : e.eventKind = .rebuilt → ∃ position, e.sourceMediaPositionSamples = some position ∧
      (latestDrop position events).map (·.reason) = some e.reason) :
    RebuiltAsDropped (events ++ [e]) := by
  intro before x behind hsplit hx
  rcases List.eq_nil_or_concat behind with rfl | ⟨behind, y, rfl⟩
  · obtain ⟨rfl, hlast⟩ := List.append_inj' hsplit rfl
    cases hlast
    exact he hx
  · rw [List.concat_eq_append, ← List.cons_append, ← List.append_assoc] at hsplit
    exact h before x behind (List.append_inj' hsplit rfl).1 hx

end Drops

/-- The event tells of this frame. -/
structure Tells (e : PreparedPlayoutQueueEventSnapshot) (f : OpusFrame) : Prop where
  commandKind : e.commandKind = .track
  duration : e.mediaDurationSamples = f.durationSamples
  epoch : e.sourceFrameEpoch = some f.epoch
  position : e.sourceMediaPositionSamples = some f.sourcePositionSamples
  bytePosition : e.sourceMediaBytePosition = f.sourceBytePosition

/-- The event tells of no frame, or neither of a drop nor of a rebuild. -/
structure Neutral (e : PreparedPlayoutQueueEventSnapshot) : Prop where
  dropped : e.eventKind = .droppedBeforeSend →
    e.commandKind ≠ .track ∧ e.sourceMediaPositionSamples = none
  rebuilt : e.eventKind ≠ .rebuilt

def dropIdentity (reason : PreparedPlayoutQueueEventReason) (f : OpusFrame) :
    PreparedPlayoutTrackDropIdentity :=
  ⟨reason, f.durationSamples, f.epoch, f.sourcePositionSamples, f.sourceBytePosition⟩

section Events

variable {events : List PreparedPlayoutQueueEventSnapshot} {p : ℕ} {f : OpusFrame}
  {e : PreparedPlayoutQueueEventSnapshot}

theorem Tells.identity (h : Tells e f) :
    preparedPlayoutTrackDropIdentity e = some (dropIdentity e.reason f) := by
  simp only [preparedPlayoutTrackDropIdentity, h.commandKind, h.epoch, h.position, h.duration,
    h.bytePosition, dropIdentity, ne_eq, not_true_eq_false, if_false]

theorem Neutral.of_kind {kind : PreparedPlayoutQueueEventKind}
    (hdropped : kind ≠ .droppedBeforeSend) (hrebuilt : kind ≠ .rebuilt)
    (reason : PreparedPlayoutQueueEventReason) (command : PreparedPlayoutCommand)
    (queueDepthAfter : OpusBufferDepth) :
    Neutral (preparedPlayoutQueueEvent kind reason command queueDepthAfter) where
  dropped hkind := absurd hkind hdropped
  rebuilt := hrebuilt

theorem Neutral.openDrop (h : Neutral e) (p : ℕ) :
    openDrop p (events ++ [e]) = Media.openDrop p events := by
  rw [openDrop_concat, if_neg, if_neg]
  · simp only [isRebuild, Bool.and_eq_true, decide_eq_true_eq, not_and]
    exact fun hkind ↦ absurd hkind h.rebuilt
  · simp only [isDrop, Bool.and_eq_true, decide_eq_true_eq, not_and]
    intro hkind hposition
    rw [(h.dropped hkind).2] at hposition
    cases hposition

theorem Tells.openDrop (h : Tells e f) : openDrop p (events ++ [e]) =
    if p = f.sourcePositionSamples then
      if e.eventKind = .droppedBeforeSend then some e
      else if e.eventKind = .rebuilt then none else Media.openDrop p events
    else Media.openDrop p events := by
  rw [openDrop_concat]
  simp only [isDrop, isRebuild, h.position, Option.some.injEq]
  by_cases hp : p = f.sourcePositionSamples
  · simp [hp]
  · simp [hp, Ne.symm hp]

theorem Tells.openDrop_dropped (h : Tells e f) (hkind : e.eventKind = .droppedBeforeSend) :
    Media.openDrop p (events ++ [e]) =
      if p = f.sourcePositionSamples then some e else Media.openDrop p events := by
  rw [h.openDrop, if_pos hkind]

theorem Tells.openDrop_rebuilt (h : Tells e f) (hkind : e.eventKind = .rebuilt) :
    Media.openDrop p (events ++ [e]) =
      if p = f.sourcePositionSamples then none else Media.openDrop p events := by
  simp only [h.openDrop, hkind, reduceCtorEq, if_false, if_true]

end Events

namespace PlaybackStabilityCollector

variable {c : PlaybackStabilityCollector} {events : List PreparedPlayoutQueueEventSnapshot}
  {e : PreparedPlayoutQueueEventSnapshot} {f : OpusFrame}

theorem collect_concat : collect (events ++ [e]) =
    (collect events).recordPreparedPlayoutQueueEvent e := by
  rw [collect, List.foldl_append]
  rfl

/-- The drops the collector waits to see rebuilt, and their number. -/
def unmatched (c : PlaybackStabilityCollector) : List PreparedPlayoutTrackDropIdentity × ℕ :=
  (c.unmatchedPreparedTrackDrops, c.preparedTrackPacketDropCount)

theorem recordDropped_unmatched (h : Tells e f) : (c.recordDropped e).unmatched =
    if preparedTrackDropCountsAsUnrecovered e then
      (c.unmatchedPreparedTrackDrops ++ [dropIdentity e.reason f],
        saturatingAdd c.preparedTrackPacketDropCount 1)
    else c.unmatched := by
  simp only [recordDropped, h.commandKind, h.identity]
  split_ifs <;> rfl

theorem recordRebuilt_unmatched (h : Tells e f) : (c.recordRebuilt e).unmatched =
    if dropIdentity e.reason f ∈ c.unmatchedPreparedTrackDrops then
      (c.unmatchedPreparedTrackDrops.erase (dropIdentity e.reason f),
        c.preparedTrackPacketDropCount - 1)
    else c.unmatched := by
  simp only [recordRebuilt, h.identity]
  split_ifs <;> rfl

theorem unmatched_neutral (h : Neutral e) :
    (c.recordPreparedPlayoutQueueEvent e).unmatched = c.unmatched := by
  unfold recordPreparedPlayoutQueueEvent
  dsimp only
  rw [if_neg h.rebuilt]
  by_cases hdropped : e.eventKind = .droppedBeforeSend
  · have htrack := (h.dropped hdropped).1
    rw [if_pos hdropped]
    simp only [recordDropped]
    rfl
  · rw [if_neg hdropped]
    rfl

theorem unmatched_dropped (h : Tells e f) (hkind : e.eventKind = .droppedBeforeSend) :
    (c.recordPreparedPlayoutQueueEvent e).unmatched =
      if preparedTrackDropCountsAsUnrecovered e then
        (c.unmatchedPreparedTrackDrops ++ [dropIdentity e.reason f],
          saturatingAdd c.preparedTrackPacketDropCount 1)
      else c.unmatched := by
  have hne : e.eventKind ≠ .rebuilt := by
    rw [hkind]
    decide
  unfold recordPreparedPlayoutQueueEvent
  dsimp only
  rw [if_pos hkind, if_neg hne]
  exact recordDropped_unmatched ⟨h.commandKind, h.duration, h.epoch, h.position, h.bytePosition⟩

theorem unmatched_rebuilt (h : Tells e f) (hkind : e.eventKind = .rebuilt) :
    (c.recordPreparedPlayoutQueueEvent e).unmatched =
      if dropIdentity e.reason f ∈ c.unmatchedPreparedTrackDrops then
        (c.unmatchedPreparedTrackDrops.erase (dropIdentity e.reason f),
          c.preparedTrackPacketDropCount - 1)
      else c.unmatched := by
  have hne : e.eventKind ≠ .droppedBeforeSend := by
    rw [hkind]
    decide
  unfold recordPreparedPlayoutQueueEvent
  dsimp only
  rw [if_neg hne, if_pos hkind]
  exact recordRebuilt_unmatched ⟨h.commandKind, h.duration, h.epoch, h.position, h.bytePosition⟩

end PlaybackStabilityCollector

open PlaybackStabilityCollector

/-- The collector waits only for open drops, once for each frame. -/
structure Tallied (events : List PreparedPlayoutQueueEventSnapshot) : Prop where
  isOpen : ∀ d ∈ (collect events).unmatched.1, ∃ e,
    openDrop d.sourceMediaPositionSamples events = some e ∧
      preparedTrackDropCountsAsUnrecovered e = true ∧ preparedPlayoutTrackDropIdentity e = some d
  apart : ((collect events).unmatched.1.map (·.sourceMediaPositionSamples)).Nodup
  count : (collect events).unmatched.2 ≤ (collect events).unmatched.1.length

namespace Tallied

variable {events : List PreparedPlayoutQueueEventSnapshot} {e e₀ : PreparedPlayoutQueueEventSnapshot}
  {f : OpusFrame}

theorem nil : Tallied [] where
  isOpen _ hd := (List.not_mem_nil hd).elim
  apart := List.nodup_nil
  count := le_rfl

theorem neutral (h : Tallied events) (he : Neutral e) : Tallied (events ++ [e]) := by
  have hsame : (collect (events ++ [e])).unmatched = (collect events).unmatched := by
    rw [collect_concat, unmatched_neutral he]
  refine ⟨fun d hd ↦ ?_, ?_, ?_⟩
  · rw [hsame] at hd
    rw [he.openDrop]
    exact h.isOpen d hd
  · rw [hsame]
    exact h.apart
  · rw [hsame]
    exact h.count

theorem position_ne (h : Tallied events) (hnone : openDrop f.sourcePositionSamples events = none)
    {d : PreparedPlayoutTrackDropIdentity} (hd : d ∈ (collect events).unmatched.1) :
    d.sourceMediaPositionSamples ≠ f.sourcePositionSamples := by
  intro hsame
  obtain ⟨e, he, -⟩ := h.isOpen d hd
  rw [hsame, hnone] at he
  cases he

theorem dropped (h : Tallied events) (he : Tells e f) (hkind : e.eventKind = .droppedBeforeSend)
    (hnone : openDrop f.sourcePositionSamples events = none) : Tallied (events ++ [e]) := by
  have hkept : ∀ d ∈ (collect events).unmatched.1, ∃ e',
      openDrop d.sourceMediaPositionSamples (events ++ [e]) = some e' ∧
        preparedTrackDropCountsAsUnrecovered e' = true ∧
          preparedPlayoutTrackDropIdentity e' = some d := by
    intro d hd
    rw [he.openDrop_dropped hkind, if_neg (h.position_ne hnone hd)]
    exact h.isOpen d hd
  have hunmatched := unmatched_dropped (c := collect events) he hkind
  rw [← collect_concat] at hunmatched
  by_cases hcounts : preparedTrackDropCountsAsUnrecovered e = true
  · rw [if_pos hcounts] at hunmatched
    refine ⟨fun d hd ↦ ?_, ?_, ?_⟩
    · rw [hunmatched] at hd
      rcases List.mem_append.mp hd with hd | hd
      · exact hkept d hd
      · rw [List.mem_singleton.mp hd]
        exact ⟨e, by rw [he.openDrop_dropped hkind, dropIdentity, if_pos rfl], hcounts, he.identity⟩
    · rw [hunmatched, List.map_append, List.nodup_append]
      refine ⟨h.apart, List.nodup_singleton _, fun p hp q hq ↦ ?_⟩
      obtain ⟨d, hd, rfl⟩ := List.mem_map.mp hp
      rw [List.map_singleton, List.mem_singleton] at hq
      rw [hq]
      exact h.position_ne hnone hd
    · have hcount : (collect events).preparedTrackPacketDropCount ≤
          (collect events).unmatchedPreparedTrackDrops.length := h.count
      rw [hunmatched, List.length_append, List.length_singleton]
      exact (Nat.min_le_left _ _).trans (Nat.add_le_add_right hcount 1)
  · rw [if_neg hcounts] at hunmatched
    refine ⟨fun d hd ↦ ?_, ?_, ?_⟩
    · rw [hunmatched] at hd
      exact hkept d hd
    · rw [hunmatched]
      exact h.apart
    · rw [hunmatched]
      exact h.count

theorem rebuilt (h : Tallied events) (he : Tells e f) (hkind : e.eventKind = .rebuilt)
    (hopen : openDrop f.sourcePositionSamples events = some e₀) (he₀ : Tells e₀ f)
    (hreason : e₀.reason = e.reason) : Tallied (events ++ [e]) := by
  set drop := dropIdentity e.reason f with hdrop
  have hthis : ∀ d ∈ (collect events).unmatched.1,
      d.sourceMediaPositionSamples = f.sourcePositionSamples → d = drop := by
    intro d hd hsame
    obtain ⟨e', he', -, hidentity⟩ := h.isOpen d hd
    rw [hsame, hopen, Option.some.injEq] at he'
    rw [← he', he₀.identity, hreason, Option.some.injEq] at hidentity
    exact hidentity.symm
  have hkept : ∀ d ∈ (collect events).unmatched.1, d ≠ drop → ∃ e',
      openDrop d.sourceMediaPositionSamples (events ++ [e]) = some e' ∧
        preparedTrackDropCountsAsUnrecovered e' = true ∧
          preparedPlayoutTrackDropIdentity e' = some d := by
    intro d hd hne
    rw [he.openDrop_rebuilt hkind, if_neg fun hsame ↦ hne (hthis d hd hsame)]
    exact h.isOpen d hd
  have hnodup : (collect events).unmatched.1.Nodup := List.Nodup.of_map _ h.apart
  have hunmatched := unmatched_rebuilt (c := collect events) he hkind
  rw [← collect_concat] at hunmatched
  by_cases hmem : drop ∈ (collect events).unmatchedPreparedTrackDrops
  · rw [if_pos hmem] at hunmatched
    refine ⟨fun d hd ↦ ?_, ?_, ?_⟩
    · rw [hunmatched] at hd
      obtain ⟨hne, hd⟩ := (hnodup.mem_erase_iff).mp hd
      exact hkept d hd hne
    · rw [hunmatched]
      exact h.apart.sublist (List.erase_sublist.map _)
    · have hcount : (collect events).preparedTrackPacketDropCount ≤
          (collect events).unmatchedPreparedTrackDrops.length := h.count
      rw [hunmatched, List.length_erase_of_mem hmem]
      exact Nat.sub_le_sub_right hcount 1
  · rw [if_neg hmem] at hunmatched
    refine ⟨fun d hd ↦ ?_, ?_, ?_⟩
    · rw [hunmatched] at hd
      refine hkept d hd fun hsame ↦ hmem ?_
      rw [← hsame]
      exact hd
    · rw [hunmatched]
      exact h.apart
    · rw [hunmatched]
      exact h.count

theorem count_eq_zero (h : Tallied events) (hall : AllRebuilt events) :
    (collect events).preparedTrackPacketDropCount = 0 := by
  have hnone : (collect events).unmatched.1 = [] := by
    apply List.eq_nil_iff_forall_not_mem.mpr
    intro d hd
    obtain ⟨e, hopen, hcounts, hidentity⟩ := h.isOpen d hd
    have hdrop := openDrop_isDrop hopen
    simp only [isDrop, Bool.and_eq_true, decide_eq_true_eq] at hdrop
    obtain ⟨before, behind, hsplit, hbehind⟩ := openDrop_split hopen
    have htrack : e.commandKind = .track := by
      by_contra hkind
      rw [preparedPlayoutTrackDropIdentity, if_pos hkind] at hidentity
      cases hidentity
    obtain ⟨e', he', hkind, hposition⟩ := hall before e behind hsplit hdrop.1 htrack hcounts
    have hrebuild := hbehind e' he'
    rw [isRebuild, hkind, hposition, hdrop.2] at hrebuild
    simp at hrebuild
  have hcount := h.count
  rw [hnone] at hcount
  exact Nat.le_zero.mp hcount

end Tallied

/-- Events that tell one after another of the drops of these frames. -/
inductive Drops (reason : PreparedPlayoutQueueEventReason) :
    List PreparedPlayoutQueueEventSnapshot → List OpusFrame → Prop
  | nil : Drops reason [] []
  | neutral {e events frames} (he : Neutral e) (h : Drops reason events frames) :
      Drops reason (e :: events) frames
  | dropped {e f events frames} (he : Tells e f) (hkind : e.eventKind = .droppedBeforeSend)
      (hreason : e.reason = reason) (h : Drops reason events frames) :
      Drops reason (e :: events) (f :: frames)

namespace Drops

variable {reason : PreparedPlayoutQueueEventReason} {p : ℕ} {f : OpusFrame}
  {events new : List PreparedPlayoutQueueEventSnapshot} {frames : List OpusFrame}

theorem openDrop_of_not_mem (h : Drops reason new frames)
    (hp : p ∉ frames.map (·.sourcePositionSamples)) :
    openDrop p (events ++ new) = openDrop p events := by
  induction h generalizing events with
  | nil => rw [List.append_nil]
  | @neutral e new frames he h ih => rw [List.append_cons, ih hp, he.openDrop]
  | @dropped e f new frames he hkind hreason h ih =>
    rw [List.map_cons, List.mem_cons, not_or] at hp
    rw [List.append_cons, ih hp.2, he.openDrop_dropped hkind, if_neg hp.1]

theorem openDrop_of_mem (h : Drops reason new frames)
    (events : List PreparedPlayoutQueueEventSnapshot)
    (hapart : (frames.map (·.sourcePositionSamples)).Nodup) (hf : f ∈ frames) :
    ∃ e, openDrop f.sourcePositionSamples (events ++ new) = some e ∧ e.reason = reason := by
  induction h generalizing events with
  | nil => cases hf
  | @neutral e new frames he h ih =>
    rw [List.append_cons]
    exact ih _ hapart hf
  | @dropped e g new frames he hkind hreason h ih =>
    rw [List.map_cons, List.nodup_cons] at hapart
    rw [List.append_cons]
    rcases List.mem_cons.mp hf with rfl | hf
    · exact ⟨e, by rw [h.openDrop_of_not_mem hapart.1, he.openDrop_dropped hkind, if_pos rfl], hreason⟩
    · exact ih _ hapart.2 hf

end Drops

theorem takeRebuildCredit_some {credits rest : List PreparedFrameRebuildCredit} {f : OpusFrame}
    {reason : PreparedPlayoutQueueEventReason}
    (h : takeRebuildCredit credits f = some (reason, rest)) :
    ∃ before behind, credits = before ++ ⟨preparedFrameIdentity f, reason⟩ :: behind ∧
      rest = before ++ behind := by
  induction credits generalizing rest with
  | nil => cases h
  | cons credit credits ih =>
    simp only [takeRebuildCredit] at h
    split_ifs at h with hidentity
    · cases h
      exact ⟨[], credits, by rw [← hidentity]; rfl, rfl⟩
    · simp only [Option.map_eq_some_iff, Prod.mk.injEq, Prod.exists] at h
      obtain ⟨_, rest', htake, rfl, rfl⟩ := h
      obtain ⟨before, behind, rfl, rfl⟩ := ih htake
      exact ⟨credit :: before, behind, rfl, rfl⟩

theorem takeRebuildCredit_none {credits : List PreparedFrameRebuildCredit} {f : OpusFrame}
    (h : takeRebuildCredit credits f = none) :
    ∀ c ∈ credits, c.identity ≠ preparedFrameIdentity f := by
  induction credits with
  | nil => exact fun c hc ↦ (List.not_mem_nil hc).elim
  | cons credit credits ih =>
    simp only [takeRebuildCredit] at h
    split_ifs at h with hidentity
    intro c hc
    rcases List.mem_cons.mp hc with rfl | hc
    · exact hidentity
    · exact ih (Option.map_eq_none_iff.mp h) c hc

/-- The frame at this position has a rebuild credit. -/
def PlayoutHistory.Credited (r : PlayoutHistory) (position : ℕ) : Prop :=
  position ∈ r.credits.map (·.identity.sourcePositionSamples)

theorem credited_remember {r : PlayoutHistory} {f : OpusFrame}
    {reason : PreparedPlayoutQueueEventReason} {p : ℕ} :
    (r.remember f reason).Credited p ↔ r.Credited p ∨ p = f.sourcePositionSamples := by
  simp only [PlayoutHistory.Credited, PlayoutHistory.remember, rememberRebuildCredit, List.map_append,
    List.mem_append, List.map_singleton, List.mem_singleton, preparedFrameIdentity]

def PlayoutHistory.rememberAll (r : PlayoutHistory) (reason : PreparedPlayoutQueueEventReason)
    (frames : List OpusFrame) : PlayoutHistory :=
  { r with credits :=
    (frames.foldl (fun credits f ↦ rememberRebuildCredit credits f reason) r.credits) }

theorem credited_rememberAll {r : PlayoutHistory} {frames : List OpusFrame}
    {reason : PreparedPlayoutQueueEventReason} {p : ℕ} :
    (r.rememberAll reason frames).Credited p ↔
      r.Credited p ∨ p ∈ frames.map (·.sourcePositionSamples) := by
  induction frames generalizing r with
  | nil => simp [PlayoutHistory.rememberAll]
  | cons f frames ih =>
    have hfirst : r.rememberAll reason (f :: frames) =
      (r.remember f reason).rememberAll reason frames := rfl
    rw [hfirst, ih, credited_remember, List.map_cons, List.mem_cons, or_assoc]

/-- Credits are for frames whose drop is open and carry its reason, one for each frame. -/
structure Sound (known : OpusFrame → Prop) (r : PlayoutHistory) : Prop where
  credit : ∀ c ∈ r.credits, ∃ f e, known f ∧ c = ⟨preparedFrameIdentity f, e.reason⟩ ∧
    openDrop f.sourcePositionSamples r.events = some e
  single : (r.credits.map (·.identity.sourcePositionSamples)).Nodup
  drops : ∀ p e, openDrop p r.events = some e →
    ∃ f, known f ∧ f.sourcePositionSamples = p ∧ Tells e f
  tallied : Tallied r.events
  rebuilt : RebuiltAsDropped r.events

namespace Sound

variable {known : OpusFrame → Prop} {r : PlayoutHistory} {f : OpusFrame}
  {e : PreparedPlayoutQueueEventSnapshot} {reason : PreparedPlayoutQueueEventReason}
  {credits : List PreparedFrameRebuildCredit}

theorem start (known : OpusFrame → Prop) : Sound known ⟨[], []⟩ where
  credit _ hc := (List.not_mem_nil hc).elim
  single := List.nodup_nil
  drops p e h := by cases h
  tallied := .nil
  rebuilt before e behind h := by simp at h

theorem mono {known' : OpusFrame → Prop} (h : Sound known r) (hknown : ∀ f, known f → known' f) :
    Sound known' r where
  credit c hc := by
    obtain ⟨f, e, hf, rest⟩ := h.credit c hc
    exact ⟨f, e, hknown f hf, rest⟩
  single := h.single
  drops p e he := by
    obtain ⟨f, hf, rest⟩ := h.drops p e he
    exact ⟨f, hknown f hf, rest⟩
  tallied := h.tallied
  rebuilt := h.rebuilt

theorem openDrop_of_credited (h : Sound known r) {p : ℕ} (hp : r.Credited p) :
    openDrop p r.events ≠ none := by
  obtain ⟨c, hc, rfl⟩ := List.mem_map.mp hp
  obtain ⟨f, e, -, rfl, hopen⟩ := h.credit c hc
  exact fun hnone ↦ nomatch hopen.symm.trans hnone

theorem neutral (h : Sound known r) (he : Neutral e) : Sound known (r.tell e) where
  credit c hc := by
    obtain ⟨f, e', hf, hcredit, hopen⟩ := h.credit c hc
    exact ⟨f, e', hf, hcredit, (he.openDrop _).trans hopen⟩
  single := h.single
  drops p e' hopen := h.drops p e' ((he.openDrop p).symm.trans hopen)
  tallied := h.tallied.neutral he
  rebuilt := h.rebuilt.concat fun hkind ↦ absurd hkind he.rebuilt

theorem dropped (h : Sound known r) (hf : known f) (he : Tells e f)
    (hkind : e.eventKind = .droppedBeforeSend)
    (hnone : openDrop f.sourcePositionSamples r.events = none) : Sound known (r.tell e) where
  credit c hc := by
    obtain ⟨g, e', hg, hcredit, hopen⟩ := h.credit c hc
    refine ⟨g, e', hg, hcredit, ?_⟩
    have hne : g.sourcePositionSamples ≠ f.sourcePositionSamples := by
      intro hsame
      rw [hsame, hnone] at hopen
      cases hopen
    exact (he.openDrop_dropped hkind).trans ((if_neg hne).trans hopen)
  single := h.single
  drops p e' hopen := by
    rw [PlayoutHistory.tell, he.openDrop_dropped hkind] at hopen
    split_ifs at hopen with hp
    · cases hopen
      exact ⟨f, hf, hp.symm, he⟩
    · exact h.drops p e' hopen
  tallied := h.tallied.dropped he hkind hnone
  rebuilt := h.rebuilt.concat fun hkind' ↦ nomatch hkind.symm.trans hkind'

theorem droppedAll {new : List PreparedPlayoutQueueEventSnapshot} {frames : List OpusFrame}
    (hd : Drops reason new frames) (h : Sound known r) (hknown : ∀ f ∈ frames, known f)
    (hnone : ∀ f ∈ frames, openDrop f.sourcePositionSamples r.events = none)
    (hapart : (frames.map (·.sourcePositionSamples)).Nodup) :
    Sound known { r with events := r.events ++ new } := by
  induction hd generalizing r with
  | nil =>
    rw [List.append_nil]
    exact h
  | @neutral e new frames he hd ih =>
    rw [List.append_cons]
    exact ih (h.neutral he) hknown (fun f hf ↦ (he.openDrop _).trans (hnone f hf)) hapart
  | @dropped e f new frames he hkind hreason hd ih =>
    rw [List.map_cons, List.nodup_cons] at hapart
    rw [List.append_cons]
    have hfirst := h.dropped (hknown f List.mem_cons_self) he hkind (hnone f List.mem_cons_self)
    refine ih hfirst (fun g hg ↦ hknown g (List.mem_cons_of_mem f hg)) (fun g hg ↦ ?_) hapart.2
    have hne : g.sourcePositionSamples ≠ f.sourcePositionSamples := by
      intro hsame
      rw [← hsame] at hapart
      exact hapart.1 (List.mem_map_of_mem hg)
    exact (he.openDrop_dropped hkind).trans
      ((if_neg hne).trans (hnone g (List.mem_cons_of_mem f hg)))

theorem remember (h : Sound known r) (hf : known f)
    (hopen : openDrop f.sourcePositionSamples r.events = some e)
    (hnot : ¬r.Credited f.sourcePositionSamples) : Sound known (r.remember f e.reason) where
  credit c hc := by
    rcases List.mem_append.mp hc with hc | hc
    · exact h.credit c hc
    · rw [List.mem_singleton.mp hc]
      exact ⟨f, e, hf, rfl, hopen⟩
  single := by
    rw [PlayoutHistory.remember, rememberRebuildCredit, List.map_append, List.nodup_append]
    refine ⟨h.single, List.nodup_singleton _, fun p hp q hq ↦ ?_⟩
    rw [List.map_singleton, List.mem_singleton] at hq
    rw [hq]
    intro hsame
    rw [hsame] at hp
    exact hnot hp
  drops := h.drops
  tallied := h.tallied
  rebuilt := h.rebuilt

theorem rememberAll {frames : List OpusFrame} (h : Sound known r) (hknown : ∀ f ∈ frames, known f)
    (hopen : ∀ f ∈ frames, ∃ e, openDrop f.sourcePositionSamples r.events = some e ∧
      e.reason = reason) (hnot : ∀ f ∈ frames, ¬r.Credited f.sourcePositionSamples)
    (hapart : (frames.map (·.sourcePositionSamples)).Nodup) :
    Sound known (r.rememberAll reason frames) := by
  induction frames generalizing r with
  | nil => exact h
  | cons f frames ih =>
    rw [List.map_cons, List.nodup_cons] at hapart
    obtain ⟨e, he, rfl⟩ := hopen f List.mem_cons_self
    have hfirst := h.remember (hknown f List.mem_cons_self) he (hnot f List.mem_cons_self)
    refine ih hfirst (fun g hg ↦ hknown g (List.mem_cons_of_mem f hg))
      (fun g hg ↦ hopen g (List.mem_cons_of_mem f hg)) (fun g hg hcredited ↦ ?_) hapart.2
    rcases credited_remember.mp hcredited with hcredited | hsame
    · exact hnot g (List.mem_cons_of_mem f hg) hcredited
    · rw [← hsame] at hapart
      exact hapart.1 (List.mem_map_of_mem hg)

theorem take (h : Sound known r) (htake : takeRebuildCredit r.credits f = some (reason, credits)) :
    Sound known { r with credits } := by
  obtain ⟨before, behind, hcredits, rfl⟩ := takeRebuildCredit_some htake
  have hsub : (before ++ behind).Sublist r.credits := by
    rw [hcredits]
    exact (List.Sublist.refl before).append (List.sublist_cons_self _ _)
  exact ⟨fun c hc ↦ h.credit c (hsub.mem hc), h.single.sublist (hsub.map _), h.drops, h.tallied,
    h.rebuilt⟩

/-- The frame's credit is gone with it. -/
theorem not_credited_of_take (h : Sound known r)
    (htake : takeRebuildCredit r.credits f = some (reason, credits)) :
    ¬({ r with credits } : PlayoutHistory).Credited f.sourcePositionSamples := by
  obtain ⟨before, behind, hcredits, rfl⟩ := takeRebuildCredit_some htake
  have hsingle := h.single
  rw [hcredits, List.map_append, List.map_cons, List.nodup_middle, List.nodup_cons] at hsingle
  rw [PlayoutHistory.Credited, List.map_append]
  exact hsingle.1

theorem credited_of_take (htake : takeRebuildCredit r.credits f = some (reason, credits)) {p : ℕ}
    (hp : p ≠ f.sourcePositionSamples) :
    PlayoutHistory.Credited ⟨credits, r.events⟩ p ↔ r.Credited p := by
  obtain ⟨before, behind, hcredits, rfl⟩ := takeRebuildCredit_some htake
  simp only [PlayoutHistory.Credited, hcredits, List.map_append, List.map_cons, List.mem_append,
    List.mem_cons, preparedFrameIdentity, hp, false_or]

theorem not_credited_of_none (h : Sound known r)
    (hknown : ∀ f g, known f → known g → f.sourcePositionSamples = g.sourcePositionSamples → f = g)
    (hf : known f) (htake : takeRebuildCredit r.credits f = none) :
    ¬r.Credited f.sourcePositionSamples := by
  intro hcredited
  obtain ⟨c, hc, hposition⟩ := List.mem_map.mp hcredited
  obtain ⟨g, e, hg, rfl, -⟩ := h.credit c hc
  obtain rfl := hknown g f hg hf hposition
  exact takeRebuildCredit_none htake _ hc rfl

theorem rebuild (h : Sound known r)
    (hknown : ∀ f g, known f → known g → f.sourcePositionSamples = g.sourcePositionSamples → f = g)
    (hf : known f) (htake : takeRebuildCredit r.credits f = some (reason, credits)) (he : Tells e f)
    (hkind : e.eventKind = .rebuilt) (hreason : e.reason = reason) :
    Sound known ⟨credits, r.events ++ [e]⟩ := by
  have htaken := h.take htake
  have hnot := h.not_credited_of_take htake
  obtain ⟨before, behind, hcredits, -⟩ := takeRebuildCredit_some htake
  obtain ⟨g, e₀, hg, hcredit, hopen⟩ := h.credit ⟨preparedFrameIdentity f, reason⟩ (by simp [hcredits])
  obtain ⟨hidentity, rfl⟩ := PreparedFrameRebuildCredit.mk.inj hcredit
  obtain rfl := hknown f g hf hg (congrArg PreparedFrameIdentity.sourcePositionSamples hidentity)
  obtain ⟨g, hg, hposition, he₀⟩ := h.drops _ e₀ hopen
  obtain rfl := hknown f g hf hg hposition.symm
  refine ⟨fun c hc ↦ ?_, htaken.single, fun p e' hopen' ↦ ?_,
    h.tallied.rebuilt he hkind hopen he₀ hreason.symm,
    h.rebuilt.concat fun _ ↦ ⟨_, he.position, ?_⟩⟩
  · obtain ⟨g, e', hg, rfl, hopen'⟩ := htaken.credit c hc
    refine ⟨g, e', hg, rfl, ?_⟩
    have hne : g.sourcePositionSamples ≠ f.sourcePositionSamples := by
      intro hsame
      rw [← hsame] at hnot
      exact hnot (List.mem_map_of_mem hc)
    exact (he.openDrop_rebuilt hkind).trans ((if_neg hne).trans hopen')
  · rw [he.openDrop_rebuilt hkind] at hopen'
    split_ifs at hopen'
    exact h.drops p e' hopen'
  · rw [latestDrop_of_openDrop hopen, Option.map_some, hreason]

end Sound

end DiscordVoice.Media
