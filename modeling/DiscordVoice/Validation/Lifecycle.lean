import DiscordVoice.Checking
import DiscordVoice.Media.RebuildHistory
import DiscordVoice.Media.ToldEvents
import DiscordVoice.Twilight.Snapshots

namespace DiscordVoice.Validation

open Fallible Checking Playback Session Twilight

def discordEgressBufferHighWatermarkMs : ℕ := 500

structure PreparedPlayoutTrackDropIdentity where
  reason : PreparedPlayoutQueueEventReason
  mediaDurationSamples : UInt32
  sourceFrameEpoch : ℕ
  sourceMediaPositionSamples : ℕ
  sourceMediaBytePosition : Option ℕ
  deriving DecidableEq, Repr

def preparedTrackDropCountsAsUnrecovered (event : PreparedPlayoutQueueEventSnapshot) : Bool :=
  !(event.reason = .stop || event.reason = .reconnect)

def preparedPlayoutTrackDropIdentity (event : PreparedPlayoutQueueEventSnapshot) :
    Option PreparedPlayoutTrackDropIdentity :=
  if event.commandKind ≠ .track then none
  else
    match event.sourceFrameEpoch, event.sourceMediaPositionSamples with
    | some epoch, some position =>
      some ⟨event.reason, event.mediaDurationSamples, epoch, position,
        event.sourceMediaBytePosition⟩
    | _, _ => none

/-- What the gate counts of the queue events. -/
structure LifecycleCounts where
  unrecoveredTrackDropCount : ℕ
  unrecoveredTrackDrops : List PreparedPlayoutTrackDropIdentity
  silenceDropCount : ℕ
  rebuildCount : ℕ
  trackEnqueueCount : ℕ
  trackDequeueCount : ℕ
  deriving DecidableEq, Repr

namespace LifecycleCounts

def zero : LifecycleCounts := ⟨0, [], 0, 0, 0, 0⟩

def countDropped (c : LifecycleCounts) (event : PreparedPlayoutQueueEventSnapshot) :
    LifecycleCounts :=
  match event.commandKind with
  | .track =>
    if preparedTrackDropCountsAsUnrecovered event then
      { c with
        unrecoveredTrackDropCount := saturatingAdd c.unrecoveredTrackDropCount 1
        unrecoveredTrackDrops :=
          c.unrecoveredTrackDrops ++ (preparedPlayoutTrackDropIdentity event).toList }
    else c
  | .scheduledSilence | .boundarySilence | .otherBoundary =>
    { c with silenceDropCount := saturatingAdd c.silenceDropCount 1 }
  | .unspecified => c

def countRebuilt (c : LifecycleCounts) (event : PreparedPlayoutQueueEventSnapshot) :
    LifecycleCounts :=
  let c := { c with rebuildCount := saturatingAdd c.rebuildCount 1 }
  match preparedPlayoutTrackDropIdentity event with
  | none => c
  | some identity =>
    if identity ∈ c.unrecoveredTrackDrops then
      { c with
        unrecoveredTrackDrops := c.unrecoveredTrackDrops.erase identity
        unrecoveredTrackDropCount := c.unrecoveredTrackDropCount - 1 }
    else c

def count (c : LifecycleCounts) (event : PreparedPlayoutQueueEventSnapshot) : LifecycleCounts :=
  match event.eventKind with
  | .enqueued =>
    if event.commandKind = .track then
      { c with trackEnqueueCount := saturatingAdd c.trackEnqueueCount 1 }
    else c
  | .dequeuedToDeadlineSender =>
    if event.commandKind = .track then
      { c with trackDequeueCount := saturatingAdd c.trackDequeueCount 1 }
    else c
  | .droppedBeforeSend => c.countDropped event
  | .rebuilt => c.countRebuilt event
  | .unspecified => c

end LifecycleCounts

/-- One round of the loop of `validate_raw_prepared_playout_queue_events`. -/
def checkRawPreparedPlayoutQueueEvent (label : String) (c : LifecycleCounts) (index : ℕ)
    (event : PreparedPlayoutQueueEventSnapshot) : Except String LifecycleCounts := do
  bailIf (event.eventIndex ≠ index)
    s!"{label} raw prepared playout event_index {event.eventIndex} was not sequential at index {index}"
  bailIf (event.eventKind = .unspecified)
    s!"{label} raw prepared playout event {index} had unspecified event kind"
  bailIf (event.commandKind = .unspecified)
    s!"{label} raw prepared playout event {index} had unspecified command kind"
  bailIf (event.commandKind = .track ∧
      event.queueDepthAfter.durationMs > discordEgressBufferHighWatermarkMs)
    s!"{label} raw prepared playout event {index} reported track queue depth {event.queueDepthAfter.durationMs}ms above {discordEgressBufferHighWatermarkMs}ms high watermark"
  return c.count event

def validateRawPreparedPlayoutQueueEvents (metrics : PlaybackStabilitySnapshot) (label : String) :
    Except String Unit := do
  let c ← checkEach (checkRawPreparedPlayoutQueueEvent label) .zero 0
    metrics.rawPreparedPlayoutQueueEvents
  bailIf (c.trackEnqueueCount = 0) s!"{label} returned no raw prepared track enqueue events"
  bailIf (c.trackDequeueCount = 0)
    s!"{label} returned no raw prepared track dequeue-to-deadline events"
  bailIf (c.unrecoveredTrackDropCount ≠ metrics.preparedTrackPacketDropCount)
    s!"{label} prepared_track_packet_drop_count was {metrics.preparedTrackPacketDropCount}; raw lifecycle events recomputed {c.unrecoveredTrackDropCount} unrecovered drops"
  bailIf (c.silenceDropCount ≠ metrics.preparedSilencePacketDropCount)
    s!"{label} prepared_silence_packet_drop_count was {metrics.preparedSilencePacketDropCount}; raw lifecycle events recomputed {c.silenceDropCount}"
  bailIf (c.rebuildCount ≠ metrics.preparedPacketRebuildCount)
    s!"{label} prepared_packet_rebuild_count was {metrics.preparedPacketRebuildCount}; raw lifecycle events recomputed {c.rebuildCount}"

/-- What the gate asks of the event at the index. -/
def FitsLifecycle (index : ℕ) (event : PreparedPlayoutQueueEventSnapshot) : Prop :=
  event.eventIndex = index ∧ event.eventKind ≠ .unspecified ∧ event.commandKind ≠ .unspecified ∧
    (event.commandKind = .track → event.queueDepthAfter.durationMs ≤ 500)

theorem checkRawPreparedPlayoutQueueEvent_ok_iff {label : String} {c d : LifecycleCounts}
    {index : ℕ} {event : PreparedPlayoutQueueEventSnapshot} :
    checkRawPreparedPlayoutQueueEvent label c index event = .ok d ↔
      FitsLifecycle index event ∧ d = c.count event := by
  simp only [checkRawPreparedPlayoutQueueEvent, bailIf_bind_ok_iff, discordEgressBufferHighWatermarkMs,
    FitsLifecycle, pure, Except.pure, Except.ok.injEq, not_and, not_lt, ne_eq, not_not, gt_iff_lt,
    and_assoc, eq_comm (a := d)]

/-- A queue event as the controller sees it. -/
def seenEvent (event : Media.PreparedPlayoutQueueEventSnapshot) : PreparedPlayoutQueueEventSnapshot :=
  .from (mapRawPreparedPlayoutQueueEvent event)

def seenIdentity (identity : Media.PreparedPlayoutTrackDropIdentity) :
    PreparedPlayoutTrackDropIdentity where
  reason := .of identity.reason
  mediaDurationSamples := identity.mediaDurationSamples
  sourceFrameEpoch := identity.sourceFrameEpoch
  sourceMediaPositionSamples := identity.sourceMediaPositionSamples
  sourceMediaBytePosition := identity.sourceMediaBytePosition

theorem seenIdentity_injective : Function.Injective seenIdentity := by
  rintro ⟨reason, _, _, _, _⟩ ⟨reason', _, _, _, _⟩ h
  simp only [seenIdentity, PreparedPlayoutTrackDropIdentity.mk.injEq] at h
  obtain ⟨hreason, rfl, rfl, rfl, rfl⟩ := h
  rw [PreparedPlayoutQueueEventReason.of_injective hreason]

section Seen

variable (event : Media.PreparedPlayoutQueueEventSnapshot)

theorem seenEvent_eventKind : (seenEvent event).eventKind = .of event.eventKind :=
  fromRaw_mapPreparedPlayoutQueueEventKind _

theorem seenEvent_commandKind : (seenEvent event).commandKind = .of event.commandKind :=
  fromRaw_mapSendCommandKind _

theorem seenEvent_reason : (seenEvent event).reason = .of event.reason :=
  fromRaw_mapPreparedPlayoutQueueEventReason _

theorem seenEvent_commandKind_ne : (seenEvent event).commandKind ≠ .unspecified := by
  rw [seenEvent_commandKind]
  cases event.commandKind <;> decide

theorem seenEvent_track_iff :
    (seenEvent event).commandKind = .track ↔ event.commandKind = .track := by
  rw [seenEvent_commandKind]
  cases event.commandKind <;> decide

theorem seen_countsAsUnrecovered : preparedTrackDropCountsAsUnrecovered (seenEvent event) =
    Media.preparedTrackDropCountsAsUnrecovered event := by
  rw [preparedTrackDropCountsAsUnrecovered, seenEvent_reason,
    Media.preparedTrackDropCountsAsUnrecovered]
  cases event.reason <;> decide

theorem seen_identity : preparedPlayoutTrackDropIdentity (seenEvent event) =
    (Media.preparedPlayoutTrackDropIdentity event).map seenIdentity := by
  unfold preparedPlayoutTrackDropIdentity Media.preparedPlayoutTrackDropIdentity
  simp only [ne_eq, seenEvent_track_iff]
  split
  · rfl
  · rw [show (seenEvent event).sourceFrameEpoch = event.sourceFrameEpoch from rfl,
      show (seenEvent event).sourceMediaPositionSamples = event.sourceMediaPositionSamples from rfl]
    cases event.sourceFrameEpoch with
    | none => rfl
    | some epoch =>
      cases event.sourceMediaPositionSamples with
      | none => rfl
      | some position =>
        simp only [Option.map_some, seenIdentity, seenEvent_reason]
        rfl

end Seen

/-- The gate counts what the collector has counted. -/
structure CountsAgree (c : LifecycleCounts) (collector : Media.PlaybackStabilityCollector) : Prop where
  dropCount : c.unrecoveredTrackDropCount = collector.preparedTrackPacketDropCount
  drops : c.unrecoveredTrackDrops = collector.unmatchedPreparedTrackDrops.map seenIdentity
  silence : c.silenceDropCount = collector.preparedSilencePacketDropCount
  rebuilds : c.rebuildCount = collector.preparedPacketRebuildCount

namespace CountsAgree

variable {c : LifecycleCounts} {collector : Media.PlaybackStabilityCollector}

theorem dropped (h : CountsAgree c collector) (event : Media.PreparedPlayoutQueueEventSnapshot) :
    CountsAgree (c.countDropped (seenEvent event)) (collector.recordDropped event) := by
  have hkind := seenEvent_commandKind event
  unfold LifecycleCounts.countDropped Media.PlaybackStabilityCollector.recordDropped
  rw [hkind, seen_countsAsUnrecovered, seen_identity]
  cases hcommand : event.commandKind with
  | track =>
    simp only [PlaybackSendCommandKind.of]
    split
    · refine ⟨?_, ?_, h.silence, h.rebuilds⟩
      · simp only [h.dropCount]
      · cases hidentity : Media.preparedPlayoutTrackDropIdentity event <;> simp [h.drops]
    · exact h
  | _ => exact ⟨h.dropCount, h.drops, congrArg (saturatingAdd · 1) h.silence, h.rebuilds⟩

theorem rebuilt (h : CountsAgree c collector) (event : Media.PreparedPlayoutQueueEventSnapshot) :
    CountsAgree (c.countRebuilt (seenEvent event)) (collector.recordRebuilt event) := by
  unfold LifecycleCounts.countRebuilt Media.PlaybackStabilityCollector.recordRebuilt
  rw [seen_identity]
  cases hidentity : Media.preparedPlayoutTrackDropIdentity event with
  | none =>
    exact ⟨h.dropCount, h.drops, h.silence, congrArg (saturatingAdd · 1) h.rebuilds⟩
  | some identity =>
    have hmem : seenIdentity identity ∈ c.unrecoveredTrackDrops ↔
        identity ∈ collector.unmatchedPreparedTrackDrops := by
      rw [h.drops, List.mem_map_of_injective seenIdentity_injective]
    simp only [Option.map_some, hmem]
    split
    · refine ⟨?_, ?_, h.silence, ?_⟩
      · simp only [h.dropCount]
      · simp only [h.drops, List.map_erase seenIdentity_injective]
      · simp only [h.rebuilds]
    · refine ⟨h.dropCount, h.drops, h.silence, ?_⟩
      simp only [h.rebuilds]

theorem record (h : CountsAgree c collector) (event : Media.PreparedPlayoutQueueEventSnapshot) :
    CountsAgree (c.count (seenEvent
        { event with eventIndex := collector.rawPreparedPlayoutQueueEvents.length }))
      (collector.recordPreparedPlayoutQueueEvent event) := by
  have hdropped := h.dropped
    { event with eventIndex := collector.rawPreparedPlayoutQueueEvents.length }
  have hrebuilt := h.rebuilt
    { event with eventIndex := collector.rawPreparedPlayoutQueueEvents.length }
  unfold LifecycleCounts.count Media.PlaybackStabilityCollector.recordPreparedPlayoutQueueEvent
  rw [seenEvent_eventKind]
  rcases event with ⟨_, kind, _, _, _, _, _, _, _, _, _, _, _, _⟩
  cases kind with
  | unknown => exact ⟨h.dropCount, h.drops, h.silence, h.rebuilds⟩
  | enqueued | dequeuedToDeadlineSender =>
    simp only [PreparedPlayoutQueueEventKind.of, reduceCtorEq, if_false]
    split <;> exact ⟨h.dropCount, h.drops, h.silence, h.rebuilds⟩
  | droppedBeforeSend =>
    exact ⟨hdropped.dropCount, hdropped.drops, hdropped.silence, hdropped.rebuilds⟩
  | rebuilt => exact ⟨hrebuilt.dropCount, hrebuilt.drops, hrebuilt.silence, hrebuilt.rebuilds⟩

end CountsAgree

section Collected

variable (collector : Media.PlaybackStabilityCollector)
  (event : Media.PreparedPlayoutQueueEventSnapshot)

theorem recordDropped_raw : (collector.recordDropped event).rawPreparedPlayoutQueueEvents =
    collector.rawPreparedPlayoutQueueEvents := by
  unfold Media.PlaybackStabilityCollector.recordDropped
  split
  · split <;> rfl
  · rfl

theorem recordRebuilt_raw : (collector.recordRebuilt event).rawPreparedPlayoutQueueEvents =
    collector.rawPreparedPlayoutQueueEvents := by
  unfold Media.PlaybackStabilityCollector.recordRebuilt
  dsimp only
  split
  · rfl
  · split <;> rfl

theorem record_raw :
    (collector.recordPreparedPlayoutQueueEvent event).rawPreparedPlayoutQueueEvents =
      collector.rawPreparedPlayoutQueueEvents ++
        [{ event with eventIndex := collector.rawPreparedPlayoutQueueEvents.length }] := by
  unfold Media.PlaybackStabilityCollector.recordPreparedPlayoutQueueEvent
  dsimp only
  congr 1
  split
  · split
    · rw [recordRebuilt_raw, recordDropped_raw]
    · rw [recordRebuilt_raw]
  · split
    · rw [recordDropped_raw]
    · rfl

end Collected

open Media.PlaybackStabilityCollector (collect collect_concat)

variable {events : List Media.PreparedPlayoutQueueEventSnapshot}

/-- The collector numbers the events as they come. -/
theorem collect_raw (events : List Media.PreparedPlayoutQueueEventSnapshot) :
    (collect events).rawPreparedPlayoutQueueEvents =
      events.mapIdx fun index event ↦ { event with eventIndex := index } := by
  induction events using List.reverseRecOn with
  | nil => rfl
  | append_singleton events event ih =>
    rw [collect_concat, record_raw, ih, List.length_mapIdx, List.mapIdx_concat]

theorem countsAgree_collect (events : List Media.PreparedPlayoutQueueEventSnapshot) :
    CountsAgree (((collect events).rawPreparedPlayoutQueueEvents.map seenEvent).foldl
      LifecycleCounts.count .zero) (collect events) := by
  induction events using List.reverseRecOn with
  | nil => exact ⟨rfl, rfl, rfl, rfl⟩
  | append_singleton events event ih =>
    rw [collect_concat, record_raw, List.map_append, List.foldl_append]
    exact ih.record event

/-- An event of the kind, of a packet of the track. -/
def ofTrack (kind : PreparedPlayoutQueueEventKind) (event : PreparedPlayoutQueueEventSnapshot) :
    Prop :=
  event.eventKind = kind ∧ event.commandKind = .track

theorem saturatingAdd_one_ne_zero (n : ℕ) : saturatingAdd n 1 ≠ 0 := by
  unfold saturatingAdd
  omega

theorem countDropped_tracks (c : LifecycleCounts) (event : PreparedPlayoutQueueEventSnapshot) :
    (c.countDropped event).trackEnqueueCount = c.trackEnqueueCount ∧
      (c.countDropped event).trackDequeueCount = c.trackDequeueCount := by
  unfold LifecycleCounts.countDropped
  split
  · split <;> exact ⟨rfl, rfl⟩
  all_goals exact ⟨rfl, rfl⟩

theorem countRebuilt_tracks (c : LifecycleCounts) (event : PreparedPlayoutQueueEventSnapshot) :
    (c.countRebuilt event).trackEnqueueCount = c.trackEnqueueCount ∧
      (c.countRebuilt event).trackDequeueCount = c.trackDequeueCount := by
  unfold LifecycleCounts.countRebuilt
  dsimp only
  split
  · exact ⟨rfl, rfl⟩
  · split <;> exact ⟨rfl, rfl⟩

theorem count_enqueue_eq_zero (c : LifecycleCounts) (event : PreparedPlayoutQueueEventSnapshot) :
    (c.count event).trackEnqueueCount = 0 ↔ c.trackEnqueueCount = 0 ∧ ¬ofTrack .enqueued event := by
  unfold LifecycleCounts.count ofTrack
  split <;> rename_i hkind <;> rw [hkind]
  · split
    · simp [*, saturatingAdd_one_ne_zero]
    · simp [*]
  · split <;> simp
  · simp [(countDropped_tracks c event).1]
  · simp [(countRebuilt_tracks c event).1]
  · simp

theorem count_dequeue_eq_zero (c : LifecycleCounts) (event : PreparedPlayoutQueueEventSnapshot) :
    (c.count event).trackDequeueCount = 0 ↔
      c.trackDequeueCount = 0 ∧ ¬ofTrack .dequeuedToDeadlineSender event := by
  unfold LifecycleCounts.count ofTrack
  split <;> rename_i hkind <;> rw [hkind]
  · split <;> simp
  · split
    · simp [*, saturatingAdd_one_ne_zero]
    · simp [*]
  · simp [(countDropped_tracks c event).2]
  · simp [(countRebuilt_tracks c event).2]
  · simp

theorem counts_eq_zero (c : LifecycleCounts) (l : List PreparedPlayoutQueueEventSnapshot) :
    ((l.foldl LifecycleCounts.count c).trackEnqueueCount = 0 ↔
        c.trackEnqueueCount = 0 ∧ ∀ event ∈ l, ¬ofTrack .enqueued event) ∧
      ((l.foldl LifecycleCounts.count c).trackDequeueCount = 0 ↔
        c.trackDequeueCount = 0 ∧ ∀ event ∈ l, ¬ofTrack .dequeuedToDeadlineSender event) := by
  induction l generalizing c with
  | nil => simp
  | cons event l ih =>
    rw [List.foldl_cons, (ih _).1, (ih _).2, count_enqueue_eq_zero, count_dequeue_eq_zero]
    simp only [List.forall_mem_cons, and_assoc, and_self]

/-- The gate on the raw queue events alone. -/
theorem validateRawPreparedPlayoutQueueEvents_ok_iff (metrics : PlaybackStabilitySnapshot)
    (label : String) : validateRawPreparedPlayoutQueueEvents metrics label = .ok () ↔
      (∀ k event, metrics.rawPreparedPlayoutQueueEvents[k]? = some event →
        FitsLifecycle k event) ∧
      (∃ event ∈ metrics.rawPreparedPlayoutQueueEvents, ofTrack .enqueued event) ∧
      (∃ event ∈ metrics.rawPreparedPlayoutQueueEvents, ofTrack .dequeuedToDeadlineSender event) ∧
      let c := metrics.rawPreparedPlayoutQueueEvents.foldl LifecycleCounts.count .zero
      c.unrecoveredTrackDropCount = metrics.preparedTrackPacketDropCount ∧
        c.silenceDropCount = metrics.preparedSilencePacketDropCount ∧
        c.rebuildCount = metrics.preparedPacketRebuildCount := by
  obtain ⟨henqueue, hdequeue⟩ := counts_eq_zero .zero metrics.rawPreparedPlayoutQueueEvents
  have hstep (c : LifecycleCounts) (i : ℕ) (event : PreparedPlayoutQueueEventSnapshot)
      (d : LifecycleCounts) : checkRawPreparedPlayoutQueueEvent label c i event = .ok d ↔
        FitsLifecycle i event ∧ d = LifecycleCounts.count c event :=
    checkRawPreparedPlayoutQueueEvent_ok_iff
  have hgood := checkEach_ok_iff hstep metrics.rawPreparedPlayoutQueueEvents .zero
  rw [validateRawPreparedPlayoutQueueEvents, except_bind_ok_iff]
  simp only [hgood, bailIf_bind_ok_iff, bailIf_ok_iff, zero_add, and_assoc, exists_and_left,
    exists_eq_left, henqueue, hdequeue, ne_eq, not_not]
  simp only [LifecycleCounts.zero, true_and, not_forall, not_not, exists_prop]

theorem seenEvent_fits {event : Media.PreparedPlayoutQueueEventSnapshot} (h : Media.WellTold event)
    (index : ℕ) : FitsLifecycle index (seenEvent { event with eventIndex := index }) := by
  refine ⟨rfl, ?_, seenEvent_commandKind_ne _, fun htrack ↦ ?_⟩
  · rw [seenEvent_eventKind]
    have hknown := h.known
    revert hknown
    cases event.eventKind <;> decide
  · exact h.shallow ((seenEvent_track_iff _).mp htrack)

theorem seen_ofTrack_iff (kind : Media.PreparedPlayoutQueueEventKind)
    (events : List Media.PreparedPlayoutQueueEventSnapshot) :
    (∃ event ∈ (collect events).rawPreparedPlayoutQueueEvents.map seenEvent,
        ofTrack (.of kind) event) ↔
      ∃ event ∈ events, event.eventKind = kind ∧ event.commandKind = .track := by
  have hkind (k : Media.PreparedPlayoutQueueEventKind) :
      PreparedPlayoutQueueEventKind.of k = .of kind ↔ k = kind := by
    cases k <;> cases kind <;> decide
  have htrack (e : Media.PreparedPlayoutQueueEventSnapshot) : ofTrack (.of kind) (seenEvent e) ↔
      e.eventKind = kind ∧ e.commandKind = .track := by
    rw [ofTrack, seenEvent_eventKind, seenEvent_track_iff, hkind]
  rw [collect_raw]
  constructor
  · rintro ⟨_, hmem, hof⟩
    obtain ⟨_, hraw, rfl⟩ := List.mem_map.mp hmem
    obtain ⟨i, hi, rfl⟩ := List.mem_mapIdx.mp hraw
    exact ⟨events[i], List.getElem_mem hi, (htrack _).mp hof⟩
  · rintro ⟨event, hmem, hof⟩
    obtain ⟨i, hi, rfl⟩ := List.mem_iff_getElem.mp hmem
    exact ⟨_, List.mem_map_of_mem (List.mem_mapIdx.mpr ⟨i, hi, rfl⟩), (htrack _).mpr hof⟩

/-- The gate on the queue events refuses no run of the driver, whichever of its events reach the
collector: what it recomputes is what the collector counts, and no queue is too deep. It asks only
for a packet of the track that was queued and one that was handed to the sender. -/
theorem lifecycle_accepts_iff (sort : UnstableSort) (depths : Evidence.PreparedTrackQueueDepths)
    (sendEvents : List Evidence.PlaybackSendEventRecord) (label : String)
    (htold : ∀ event ∈ events, Media.Told event) :
    validateRawPreparedPlayoutQueueEvents
        (playbackMetrics (Evidence.snapshot sort depths sendEvents (collect events))) label = .ok () ↔
      (∃ event ∈ events, event.eventKind = .enqueued ∧ event.commandKind = .track) ∧
        ∃ event ∈ events, event.eventKind = .dequeuedToDeadlineSender ∧
          event.commandKind = .track := by
  have hraw : (playbackMetrics
      (Evidence.snapshot sort depths sendEvents (collect events))).rawPreparedPlayoutQueueEvents =
      (collect events).rawPreparedPlayoutQueueEvents.map seenEvent := by
    simp only [playbackMetrics, PlaybackStabilitySnapshot.from, mapPlaybackStabilitySnapshot,
      Evidence.snapshot, List.map_map]
    rfl
  have hagree := countsAgree_collect events
  have hfits (k : ℕ) (event : PreparedPlayoutQueueEventSnapshot)
      (hevent : ((collect events).rawPreparedPlayoutQueueEvents.map seenEvent)[k]? = some event) :
      FitsLifecycle k event := by
    simp only [collect_raw, List.getElem?_map, List.getElem?_mapIdx, Option.map_map,
      Option.map_eq_some_iff] at hevent
    obtain ⟨told, hk, rfl⟩ := hevent
    exact seenEvent_fits (htold told (List.mem_of_getElem? hk)).wellTold k
  rw [validateRawPreparedPlayoutQueueEvents_ok_iff, hraw]
  constructor
  · rintro ⟨-, henqueue, hdequeue, -⟩
    exact ⟨(seen_ofTrack_iff .enqueued events).mp henqueue,
      (seen_ofTrack_iff .dequeuedToDeadlineSender events).mp hdequeue⟩
  · rintro ⟨henqueue, hdequeue⟩
    exact ⟨hfits, (seen_ofTrack_iff .enqueued events).mpr henqueue,
      (seen_ofTrack_iff .dequeuedToDeadlineSender events).mpr hdequeue, hagree.dropCount,
      hagree.silence, hagree.rebuilds⟩

open Media MediaState Voice in
theorem lifecycle_accepts_iff_oneFrame :
    ∃ r, Schedule.exec (Recorded.step plainAead) ⟨plainStart [plainFrame 0] false, ⟨[], []⟩⟩
        oneFrameRound = some r ∧
      validateRawPreparedPlayoutQueueEvents (playbackMetrics (Evidence.snapshot .insertion
        (.new 400 300 500) [] (collect r.history.events))) "playback" = .ok () := by
  have hrun : (Schedule.exec (Recorded.step plainAead) ⟨plainStart [plainFrame 0] false, ⟨[], []⟩⟩
      oneFrameRound).map (fun r ↦
        r.history.events.any (fun e ↦ e.eventKind = .enqueued ∧ e.commandKind = .track) &&
          r.history.events.any fun e ↦ e.eventKind = .dequeuedToDeadlineSender ∧
            e.commandKind = .track) = some true := by
    decide +kernel
  obtain ⟨r, hr, heq⟩ := Option.map_eq_some_iff.mp hrun
  simp only [Bool.and_eq_true, List.any_eq_true, decide_eq_true_eq] at heq
  exact ⟨r, hr, (lifecycle_accepts_iff .insertion (.new 400 300 500) [] "playback"
    fun event hmem ↦ ⟨plainAead, _, _, _, _, _, r, hr, hmem⟩).mpr heq⟩

end DiscordVoice.Validation
