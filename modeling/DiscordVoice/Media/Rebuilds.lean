import DiscordVoice.Media.FrameOrder
import DiscordVoice.Media.Leaving
import DiscordVoice.Media.RebuildHistory

namespace DiscordVoice.Media

open Voice Playback MediaState Schedule

namespace DriverPc

/-- The frames of given-up commands on their way back into a buffer. -/
def fallen : DriverPc → List OpusFrame
  | .flush _ frames | .restore _ frames => frames
  | _ => []

def fallReason : DriverPc → Option PreparedPlayoutQueueEventReason
  | .flush reason _ | .restore reason _ => some reason.eventReason
  | _ => none

/-- The frame a refill has taken out of the source and not yet put away. -/
def taken : DriverPc → List OpusFrame
  | .refillRestore _ _ f => [f]
  | _ => []

/-- The driver may touch its rebuild credits or send queue events here, even with no dropped packet
to account for. -/
def reports : DriverPc → Bool
  | .replace _ | .flush _ _ | .restore _ _ | .fillPop _ | .pump _ | .silence _ => true
  | _ => false

theorem fallen_of_calm {pc : DriverPc} (h : pc.calm = true) : pc.fallen = [] := by
  cases pc <;> first | rfl | cases h

theorem taken_of_calm {pc : DriverPc} (h : pc.calm = true) : pc.taken = [] := by
  cases pc <;> first | rfl | cases h

end DriverPc

namespace MediaState

def flying (s : MediaState) : List OpusFrame :=
  s.pending.filterMap (·.frame) ++ preparedFrames s.prepared

def buffered (s : MediaState) : List OpusFrame :=
  s.egress.inner ++ s.pc.taken ++ s.source.queue.inner

/-- All the frames the driver has not let go of. -/
def whereabouts (s : MediaState) : List OpusFrame := s.pc.fallen ++ s.flying ++ s.buffered

theorem buffered_eq {s : MediaState} (h : s.pc.taken = []) :
    s.buffered = s.egress.inner ++ s.source.queue.inner := by
  rw [buffered, h, List.append_nil]

def Known (s : MediaState) (f : OpusFrame) : Prop :=
  ∃ g ∈ s.produced, f = g.withEpoch s.playbackEpoch

/-- The frames of the source are told apart by their positions. -/
def Apart (s : MediaState) : Prop := (s.produced.map (·.sourcePositionSamples)).Nodup

/-- An interruption finds the egress buffer empty when it flushes the buffers. -/
def flushesClean (s : MediaState) : Action → Bool
  | .driver _ =>
    match s.pc with
    | .flush _ _ => s.egress.inner.isEmpty
    | _ => true
  | _ => true

end MediaState

/-- The record is that of a packet made from the frame. -/
structure Made (record : DeadlineSendRecord) (f : OpusFrame) : Prop where
  kind : record.kind = .track
  mediaFrame : record.mediaFrame = some (preparedMediaFrame f)
  durationSamples : record.durationSamples = f.durationSamples

theorem Made.tells {record : DeadlineSendRecord} {f : OpusFrame} (h : Made record f)
    (kind : PreparedPlayoutQueueEventKind) (reason : PreparedPlayoutQueueEventReason)
    (queueDepthAfter : OpusBufferDepth) : Tells (queueEvent kind reason record queueDepthAfter) f where
  commandKind := by
    rw [queueEvent, h.kind]
    rfl
  duration := h.durationSamples
  epoch := by
    rw [queueEvent, h.mediaFrame]
    rfl
  position := by
    rw [queueEvent, h.mediaFrame]
    rfl
  bytePosition := by
    rw [queueEvent, h.mediaFrame]
    rfl

/-- What the driver keeps of a command belongs to its frame, or the command is silence. -/
def PendingDeadlineCommand.Kept (p : PendingDeadlineCommand) : Prop :=
  match p.frame with
  | some f => Made p.toDeadlineSendRecord f
  | none => p.kind ≠ .track ∧ p.mediaFrame = none

theorem drops_pending {pending : List PendingDeadlineCommand}
    (h : ∀ p ∈ pending, PendingDeadlineCommand.Kept p) (reason : PreparedPlayoutQueueEventReason)
    (queueDepthAfter : OpusBufferDepth) :
    Drops reason (pending.map (pendingPreparedPlayoutQueueEvent .droppedBeforeSend reason ·
      queueDepthAfter)) (pending.filterMap (·.frame)) := by
  induction pending with
  | nil => exact .nil
  | cons p pending ih =>
    have hrest := ih fun q hq ↦ h q (List.mem_cons_of_mem p hq)
    have hfirst := h p List.mem_cons_self
    rw [List.map_cons, List.filterMap_cons]
    unfold PendingDeadlineCommand.Kept at hfirst
    cases hframe : p.frame with
    | some f =>
      rw [hframe] at hfirst
      exact .dropped (hfirst.tells _ _ _) rfl rfl hrest
    | none =>
      rw [hframe] at hfirst
      refine .neutral ⟨fun _ ↦ ⟨?_, ?_⟩, by simp [pendingPreparedPlayoutQueueEvent, queueEvent]⟩ hrest
      · rw [pendingPreparedPlayoutQueueEvent, queueEvent]
        intro htrack
        cases hkind : p.kind
        · exact hfirst.1 hkind
        · simp [hkind, playbackSendCommandKind] at htrack
        · simp [hkind, playbackSendCommandKind] at htrack
      · rw [pendingPreparedPlayoutQueueEvent, queueEvent, hfirst.2]
        rfl

theorem drops_prepared {prepared : List PreparedTrackPlayout}
    (h : ∀ p ∈ prepared, Made p.command.sendRecord p.frame)
    (reason : PreparedPlayoutQueueEventReason) :
    Drops reason (drainedEvents reason prepared) (preparedFrames prepared) := by
  induction prepared with
  | nil => exact .nil
  | cons p prepared ih =>
    exact .dropped ((h p List.mem_cons_self).tells _ _ _) rfl rfl
      (ih fun q hq ↦ h q (List.mem_cons_of_mem p hq))

/-- Where the frames of the driver are, and what its history says of them: a frame on its way out
has no open drop, one that fell back waits for its credit, and one in a buffer with an open drop has
its credit. -/
structure Rebuilding (s : MediaState) (r : PlayoutHistory) : Prop where
  sound : Sound s.Known r
  copies : ∀ p, s.whereabouts.countP (·.sourcePositionSamples = p) ≤
    s.produced.countP (·.sourcePositionSamples = p)
  made : ∀ p ∈ s.prepared, Made p.command.sendRecord p.frame
  kept : ∀ p ∈ s.pending, PendingDeadlineCommand.Kept p
  known : ∀ f ∈ s.pc.fallen ++ s.flying ++ (s.egress.inner ++ s.pc.taken), s.Known f
  source : ∀ f ∈ s.source.queue.inner, s.Known (f.withEpoch s.playbackEpoch)
  flying : ∀ f ∈ s.flying, openDrop f.sourcePositionSamples r.events = none
  fallen : ∀ f ∈ s.pc.fallen, ¬r.Credited f.sourcePositionSamples ∧
    ∃ e, openDrop f.sourcePositionSamples r.events = some e ∧ some e.reason = s.pc.fallReason
  buffered : ∀ f ∈ s.buffered, openDrop f.sourcePositionSamples r.events ≠ none →
    r.Credited f.sourcePositionSamples

/-- A step that moves frames towards the wire or lets go of them. -/
structure Shifts (s t : MediaState) : Prop where
  fallen : t.pc.fallen = []
  flying : ∀ f ∈ t.flying, f ∈ s.flying
  egress : ∀ f ∈ t.egress.inner ++ t.pc.taken, f ∈ s.egress.inner ++ s.pc.taken ∨
    ∃ g ∈ s.source.queue.inner, f = g.withEpoch s.playbackEpoch
  source : ∀ f ∈ t.source.queue.inner, f ∈ s.source.queue.inner ∨ f ∈ s.egress.inner ++ s.pc.taken
  copies : ∀ p, t.whereabouts.countP (·.sourcePositionSamples = p) ≤
    s.whereabouts.countP (·.sourcePositionSamples = p)
  produced : t.produced = s.produced
  epoch : t.playbackEpoch = s.playbackEpoch

theorem Shifts.of_sublist {s t : MediaState} (hfallen : t.pc.fallen = []) (htaken : t.pc.taken = [])
    (hpending : t.pending.Sublist s.pending) (hprepared : t.prepared.Sublist s.prepared)
    (hegress : t.egress.inner.Sublist s.egress.inner) (hqueue : t.source.queue = s.source.queue)
    (hproduced : t.produced = s.produced) (hepoch : t.playbackEpoch = s.playbackEpoch) :
    Shifts s t := by
  have hflying : t.flying.Sublist s.flying := (hpending.filterMap _).append (hprepared.map _)
  have hbuffered : t.buffered.Sublist s.buffered := by
    rw [buffered, buffered, htaken, hqueue, List.append_nil]
    exact (hegress.trans (List.sublist_append_left _ _)).append (.refl _)
  refine ⟨hfallen, fun f hf ↦ hflying.mem hf, fun f hf ↦ .inl ?_, fun f hf ↦ .inl ?_, fun p ↦ ?_,
    hproduced, hepoch⟩
  · rw [htaken, List.append_nil] at hf
    exact List.mem_append_left _ (hegress.mem hf)
  · rw [← hqueue]
    exact hf
  · apply List.Sublist.countP_le
    rw [whereabouts, whereabouts, hfallen, List.nil_append, List.append_assoc]
    exact (hflying.append hbuffered).trans (List.sublist_append_right _ _)

theorem Shifts.of_flying {s t : MediaState} (hfallen : t.pc.fallen = []) (htaken : t.pc.taken = [])
    (hflying : t.flying = s.flying) (hegress : t.egress = s.egress)
    (hqueue : t.source.queue = s.source.queue) (hproduced : t.produced = s.produced)
    (hepoch : t.playbackEpoch = s.playbackEpoch) : Shifts s t := by
  refine ⟨hfallen, fun f hf ↦ hflying ▸ hf, fun f hf ↦ .inl ?_, fun f hf ↦ .inl ?_, fun p ↦ ?_,
    hproduced, hepoch⟩
  · rw [htaken, hegress, List.append_nil] at hf
    exact List.mem_append_left _ hf
  · rw [← hqueue]
    exact hf
  · rw [whereabouts, whereabouts, hfallen, hflying, buffered, buffered, htaken, hegress, hqueue]
    simp only [List.nil_append, List.append_nil, List.countP_append]
    omega

theorem Shifts.of_flow {s t : MediaState} {generation : ℕ} {current : DeadlineSender}
    {preparer : VoicePacketPreparer} {metrics : List PlaybackPipelineMetric}
    (hfallen : t.pc.fallen = []) (htaken : t.pc.taken = [])
    (hm : t.flow = { s.flow with generation, current, preparer, metrics }) : Shifts s t := by
  have hpending : t.pending = s.pending := congrArg Flow.pending hm
  have hprepared : t.prepared = s.prepared := congrArg Flow.prepared hm
  have hegress : t.egress = s.egress := congrArg Flow.egress hm
  apply of_sublist hfallen htaken
  · rw [hpending]
  · rw [hprepared]
  · rw [hegress]
  · exact congrArg Flow.queue hm
  · exact congrArg Flow.produced hm
  · exact congrArg Flow.playbackEpoch hm

namespace Rebuilding

variable {aead : Aead} {s t : MediaState} {answer : DriverAnswer} {r r' : PlayoutHistory}

theorem withEpoch_of_known {f : OpusFrame} (h : s.Known f) : f.withEpoch s.playbackEpoch = f := by
  obtain ⟨g, -, rfl⟩ := h
  rfl

theorem known_ext (hapart : s.Apart) (f g : OpusFrame) (hf : s.Known f) (hg : s.Known g)
    (hsame : f.sourcePositionSamples = g.sourcePositionSamples) : f = g := by
  obtain ⟨f', hf', rfl⟩ := hf
  obtain ⟨g', hg', rfl⟩ := hg
  rw [List.inj_on_of_nodup_map hapart hf' hg' hsame]

theorem nodup (h : Rebuilding s r) (hapart : s.Apart) :
    (s.whereabouts.map (·.sourcePositionSamples)).Nodup := by
  rw [List.nodup_iff_count_le_one]
  intro p
  have hcopies := h.copies p
  have hone := List.nodup_iff_count_le_one.mp hapart p
  rw [List.count_eq_countP, List.countP_map] at hone ⊢
  exact hcopies.trans hone

theorem shift (h : Rebuilding s r) (hs : Shifts s t)
    (hmade : ∀ p ∈ t.prepared, Made p.command.sendRecord p.frame)
    (hkept : ∀ p ∈ t.pending, PendingDeadlineCommand.Kept p) (hsound : Sound s.Known r')
    (hopen : ∀ p, openDrop p r'.events = openDrop p r.events)
    (hcredits : r'.credits = r.credits) : Rebuilding t r' := by
  have hknown : t.Known = s.Known := by
    unfold MediaState.Known
    rw [hs.produced, hs.epoch]
  have hflying (f : OpusFrame) (hf : f ∈ s.flying) : s.Known f :=
    h.known f (List.mem_append_left _ (List.mem_append_right _ hf))
  have hegress (f : OpusFrame) (hf : f ∈ s.egress.inner ++ s.pc.taken) : s.Known f :=
    h.known f (List.mem_append_right _ hf)
  have hcredited (p : ℕ) : r'.Credited p ↔ r.Credited p := by
    rw [PlayoutHistory.Credited, PlayoutHistory.Credited, hcredits]
  refine ⟨?_, fun p ↦ ?_, hmade, hkept, fun f hf ↦ ?_, fun f hf ↦ ?_, fun f hf ↦ ?_,
    fun f hf ↦ ?_, fun f hf hdrop ↦ ?_⟩
  · rw [hknown]
    exact hsound
  · rw [hs.produced]
    exact (hs.copies p).trans (h.copies p)
  · rw [hknown]
    rw [hs.fallen, List.nil_append] at hf
    rcases List.mem_append.mp hf with hf | hf
    · exact hflying f (hs.flying f hf)
    · rcases hs.egress f hf with hf | ⟨g, hg, rfl⟩
      · exact hegress f hf
      · exact h.source g hg
  · rw [hknown, hs.epoch]
    rcases hs.source f hf with hf | hf
    · exact h.source f hf
    · rw [withEpoch_of_known (hegress f hf)]
      exact hegress f hf
  · rw [hopen]
    exact h.flying f (hs.flying f hf)
  · rw [hs.fallen] at hf
    cases hf
  · rw [hopen] at hdrop
    rw [hcredited]
    rcases List.mem_append.mp hf with hf | hf
    · rcases hs.egress f hf with hf | ⟨g, hg, rfl⟩
      · exact h.buffered f (List.mem_append_left _ hf) hdrop
      · exact h.buffered g (List.mem_append_right _ hg) hdrop
    · rcases hs.source f hf with hf | hf
      · exact h.buffered f (List.mem_append_right _ hf) hdrop
      · exact h.buffered f (List.mem_append_left _ hf) hdrop

theorem move (h : Rebuilding s r) (hs : Shifts s t) (hprepared : t.prepared.Sublist s.prepared)
    (hpending : t.pending.Sublist s.pending) : Rebuilding t r :=
  h.shift hs (fun p hp ↦ h.made p (hprepared.mem hp)) (fun p hp ↦ h.kept p (hpending.mem hp))
    h.sound (fun _ ↦ rfl) rfl

theorem of_flow {generation : ℕ} {current : DeadlineSender} {preparer : VoicePacketPreparer}
    {metrics : List PlaybackPipelineMetric} (h : Rebuilding s r) (hfallen : t.pc.fallen = [])
    (htaken : t.pc.taken = [])
    (hm : t.flow = { s.flow with generation, current, preparer, metrics }) : Rebuilding t r := by
  refine h.move (.of_flow hfallen htaken hm) ?_ ?_
  · rw [show t.prepared = s.prepared from congrArg Flow.prepared hm]
  · rw [show t.pending = s.pending from congrArg Flow.pending hm]

theorem stop (h : Rebuilding s r) (result : DriverResult) : Rebuilding (s.exit result) r :=
  h.move (.of_sublist rfl rfl (.refl _) (.refl _) (.refl _) rfl rfl rfl) (.refl _) (.refl _)

theorem position_not_mem {frames rest : List OpusFrame} {g : OpusFrame}
    (h : ((frames ++ rest).map (·.sourcePositionSamples)).Nodup) (hg : g ∈ rest) :
    g.sourcePositionSamples ∉ frames.map (·.sourcePositionSamples) := by
  rw [List.map_append] at h
  exact fun hmem ↦ (List.nodup_append.mp h).2.2 _ hmem _ (List.mem_map_of_mem hg) rfl

theorem replaced {reason : Interruption} (h : Rebuilding s r) (hapart : s.Apart)
    (hs : s.pc = .replace reason) :
    Rebuilding (s.replaceDeadlineSender.goto (.flush reason (s.pending.filterMap (·.frame))))
      { r with events := r.events ++ s.pending.map (pendingPreparedPlayoutQueueEvent
        .droppedBeforeSend reason.eventReason · (depth (preparedFrames s.prepared))) } := by
  set frames := s.pending.filterMap (·.frame) with hframes
  have hd := drops_pending h.kept reason.eventReason (depth (preparedFrames s.prepared))
  have hplaces : s.whereabouts =
      frames ++ (preparedFrames s.prepared ++ (s.egress.inner ++ s.source.queue.inner)) := by
    simp only [whereabouts, MediaState.flying, MediaState.buffered, hs, DriverPc.fallen,
      DriverPc.taken, List.nil_append, List.append_nil, List.append_assoc, hframes]
  have hnodup := h.nodup hapart
  rw [hplaces] at hnodup
  have hapartFrames : (frames.map (·.sourcePositionSamples)).Nodup :=
    hnodup.sublist ((List.sublist_append_left _ _).map _)
  have hrest : ∀ g ∈ preparedFrames s.prepared ++ (s.egress.inner ++ s.source.queue.inner),
      openDrop g.sourcePositionSamples (r.events ++ s.pending.map (pendingPreparedPlayoutQueueEvent
        .droppedBeforeSend reason.eventReason · (depth (preparedFrames s.prepared)))) =
        openDrop g.sourcePositionSamples r.events :=
    fun g hg ↦ hd.openDrop_of_not_mem (position_not_mem hnodup hg)
  have hin : ∀ f ∈ frames, f ∈ s.flying := fun f hf ↦ List.mem_append_left _ hf
  have hknown : ∀ f ∈ frames, s.Known f :=
    fun f hf ↦ h.known f (List.mem_append_left _ (List.mem_append_right _ (hin f hf)))
  have hnone : ∀ f ∈ frames, openDrop f.sourcePositionSamples r.events = none :=
    fun f hf ↦ h.flying f (hin f hf)
  refine ⟨h.sound.droppedAll hd hknown hnone hapartFrames, fun p ↦ ?_, h.made,
    fun p hp ↦ (List.not_mem_nil hp).elim, fun f hf ↦ ?_, h.source, fun f hf ↦ ?_, fun f hf ↦ ?_,
    fun f hf hdrop ↦ ?_⟩
  · refine le_trans (le_of_eq ?_) (h.copies p)
    rw [hplaces]
    simp only [whereabouts, MediaState.flying, MediaState.buffered, goto, replaceDeadlineSender,
      DriverPc.fallen, DriverPc.taken, List.filterMap_nil, List.nil_append, List.append_nil,
      List.append_assoc]
  · apply h.known f
    simpa only [MediaState.flying, goto, replaceDeadlineSender, DriverPc.fallen, DriverPc.taken,
      List.filterMap_nil, List.nil_append, List.append_nil, List.append_assoc, hs, hframes] using hf
  · have hf' : f ∈ preparedFrames s.prepared := hf
    exact (hrest f (List.mem_append_left _ hf')).trans (h.flying f (List.mem_append_right _ hf'))
  · obtain ⟨e, hopen, hreason⟩ := hd.openDrop_of_mem r.events hapartFrames hf
    refine ⟨fun hcredited ↦ ?_, e, hopen, congrArg some hreason⟩
    exact h.sound.openDrop_of_credited hcredited (hnone f hf)
  · have hf' : f ∈ s.egress.inner ++ s.source.queue.inner := by
      simpa only [MediaState.buffered, goto, replaceDeadlineSender, DriverPc.taken,
        List.append_nil] using hf
    rw [hrest f (List.mem_append_right _ hf')] at hdrop
    refine h.buffered f ?_ hdrop
    simpa only [MediaState.buffered, hs, DriverPc.taken, List.append_nil] using hf'

theorem replace {reason : Interruption} (h : Rebuilding s r) (hapart : s.Apart)
    (hs : s.pc = .replace reason) (hstep : s.driverStep aead answer = some t) :
    Rebuilding t (s.record aead answer r) := by
  cases answer with
  | session a =>
    cases a with
    | error e =>
      simp only [driverStep, hs, Option.some.injEq] at hstep
      subst hstep
      simp only [record, hs]
      exact h.stop _
    | ok payload =>
      simp only [driverStep, hs, Option.some.injEq] at hstep
      subst hstep
      simp only [record, hs]
      exact h.replaced hapart hs
  | _ => simp [driverStep, hs] at hstep

theorem position_not_mem_right {frames rest : List OpusFrame} {f : OpusFrame}
    (h : ((frames ++ rest).map (·.sourcePositionSamples)).Nodup) (hf : f ∈ frames) :
    f.sourcePositionSamples ∉ rest.map (·.sourcePositionSamples) :=
  position_not_mem ((List.perm_append_comm.map _).nodup_iff.mp h) hf

theorem fallen_all {reason : Interruption} {frames : List OpusFrame} (h : Rebuilding s r)
    (hs : s.pc = .flush reason frames)
    (hnodup : ((frames ++ preparedFrames s.prepared).map (·.sourcePositionSamples)).Nodup) :
    ∀ f ∈ frames ++ preparedFrames s.prepared, s.Known f ∧ ¬r.Credited f.sourcePositionSamples ∧
      ∃ e, openDrop f.sourcePositionSamples
          (r.events ++ drainedEvents reason.eventReason s.prepared) = some e ∧
        e.reason = reason.eventReason := by
  have hd := drops_prepared h.made reason.eventReason
  intro f hf
  rcases List.mem_append.mp hf with hf | hf
  · have hfallen : f ∈ s.pc.fallen := by
      rw [hs]
      exact hf
    obtain ⟨hnot, e, hopen, hreason⟩ := h.fallen f hfallen
    rw [hs] at hreason
    refine ⟨h.known f (List.mem_append_left _ (List.mem_append_left _ hfallen)), hnot, e, ?_,
      Option.some.inj hreason⟩
    exact (hd.openDrop_of_not_mem (position_not_mem_right hnodup hf)).trans hopen
  · have hflying : f ∈ s.flying := List.mem_append_right _ hf
    refine ⟨h.known f (List.mem_append_left _ (List.mem_append_right _ hflying)), fun hcredited ↦ ?_,
      hd.openDrop_of_mem r.events (hnodup.sublist ((List.sublist_append_right _ _).map _)) hf⟩
    exact h.sound.openDrop_of_credited hcredited (h.flying f hflying)

/-- On an empty egress buffer a flush gives its credits to fallen frames only. -/
theorem flushed {reason : Interruption} {frames : List OpusFrame} (h : Rebuilding s r)
    (hapart : s.Apart) (hs : s.pc = .flush reason frames) (hempty : s.egress.inner = [])
    (hnone : s.pending = []) :
    Rebuilding (s.flushEgressBuffer reason frames)
      { credits := (restoreInterruptedFramesToEgressBuffer s.egress.cleared r.credits
          reason.eventReason (frames ++ preparedFrames s.prepared ++ s.egress.inner)).credits
        events := r.events ++ drainedEvents reason.eventReason s.prepared } := by
  set all := frames ++ preparedFrames s.prepared with hall
  set accepted := Greedy.taken OpusFrameQueue.offer s.egress.cleared all
  set refused := Greedy.refused OpusFrameQueue.offer s.egress.cleared all
  have hperm : (accepted ++ refused).Perm all := Greedy.perm _ _
  let dropped : PlayoutHistory :=
    { r with events := r.events ++ drainedEvents reason.eventReason s.prepared }
  have hcredits : (restoreInterruptedFramesToEgressBuffer s.egress.cleared r.credits
      reason.eventReason (all ++ s.egress.inner)).credits =
        (dropped.rememberAll reason.eventReason accepted).credits := by
    rw [hempty, List.append_nil, restoreInterruptedFramesToEgressBuffer,
      restoreInterruptedFramesToEgressBuffer_eq]
    rfl
  have hflush : s.flushEgressBuffer reason frames = { s with
      prepared := []
      egress := { s.egress with inner := accepted }
      source := { s.source with error := (s.flushEgressBuffer reason frames).source.error }
      pc := .restore reason refused.reverse } := by
    simp only [flushEgressBuffer, hempty, List.append_nil, ← hall, restoreInterruptedFrames_eq,
      OpusFrameQueue.after_offer, OpusFrameQueue.cleared, List.nil_append]
    rfl
  have hplaces : s.whereabouts = all ++ s.source.queue.inner := by
    simp only [whereabouts, MediaState.flying, MediaState.buffered, hs, hnone, hempty,
      DriverPc.fallen, DriverPc.taken, List.filterMap_nil, List.nil_append, List.append_nil, hall]
  have hnodup := h.nodup hapart
  rw [hplaces] at hnodup
  have hnodupAll : (all.map (·.sourcePositionSamples)).Nodup :=
    hnodup.sublist ((List.sublist_append_left _ _).map _)
  have hfallen := h.fallen_all hs hnodupAll
  have hparts : ((accepted ++ refused).map (·.sourcePositionSamples)).Nodup :=
    (hperm.map _).nodup_iff.mpr hnodupAll
  have hd := drops_prepared h.made reason.eventReason
  have hsound : Sound s.Known dropped := by
    refine h.sound.droppedAll hd (fun f hf ↦ ?_) (fun f hf ↦ h.flying f (List.mem_append_right _ hf))
      (hnodupAll.sublist ((List.sublist_append_right _ _).map _))
    exact (hfallen f (List.mem_append_right _ hf)).1
  have hin : ∀ f ∈ accepted ++ refused, f ∈ all := fun f hf ↦ hperm.mem_iff.mp hf
  rw [hcredits, hflush]
  change Rebuilding _ (dropped.rememberAll reason.eventReason accepted)
  refine ⟨?_, fun p ↦ ?_, fun p hp ↦ (List.not_mem_nil hp).elim, h.kept, fun f hf ↦ ?_, h.source,
    fun f hf ↦ ?_, fun f hf ↦ ?_, fun f hf hdrop ↦ ?_⟩
  · refine hsound.rememberAll (fun f hf ↦ (hfallen f (hin f (List.mem_append_left _ hf))).1)
      (fun f hf ↦ (hfallen f (hin f (List.mem_append_left _ hf))).2.2)
      (fun f hf ↦ (hfallen f (hin f (List.mem_append_left _ hf))).2.1)
      (hparts.sublist ((List.sublist_append_left _ _).map _))
  · refine le_trans (le_of_eq ?_) (h.copies p)
    apply List.Perm.countP_eq
    rw [hplaces]
    simp only [whereabouts, MediaState.flying, MediaState.buffered, hnone, DriverPc.fallen,
      DriverPc.taken, preparedFrames, List.map_nil, List.filterMap_nil, List.append_nil]
    rw [← List.append_assoc]
    refine List.Perm.append_right _ (List.Perm.trans ?_ hperm)
    exact ((List.reverse_perm refused).append_right _).trans List.perm_append_comm
  · have hmem : f ∈ accepted ++ refused := by
      simp only [MediaState.flying, hnone, DriverPc.fallen, DriverPc.taken, preparedFrames,
        List.map_nil, List.filterMap_nil, List.append_nil, List.mem_append, List.mem_reverse] at hf
      exact List.mem_append.mpr hf.symm
    exact (hfallen f (hin f hmem)).1
  · simp only [MediaState.flying, hnone, preparedFrames, List.map_nil, List.filterMap_nil,
      List.append_nil, List.not_mem_nil] at hf
  · have hmem : f ∈ refused := List.mem_reverse.mp hf
    obtain ⟨-, hnot, e, hopen, hreason⟩ := hfallen f (hin f (List.mem_append_right _ hmem))
    refine ⟨fun hcredited ↦ ?_, e, hopen, congrArg some hreason⟩
    rcases credited_rememberAll.mp hcredited with hcredited | haccepted
    · exact hnot hcredited
    · exact position_not_mem hparts hmem haccepted
  · rw [credited_rememberAll]
    simp only [MediaState.buffered, DriverPc.taken, List.append_nil] at hf
    rcases List.mem_append.mp hf with hf | hf
    · exact .inr (List.mem_map_of_mem hf)
    · have hnot : f.sourcePositionSamples ∉
          (preparedFrames s.prepared).map (·.sourcePositionSamples) := by
        intro hmem
        refine position_not_mem hnodup hf ?_
        rw [hall, List.map_append]
        exact List.mem_append_right _ hmem
      have hopen : openDrop f.sourcePositionSamples
          (r.events ++ drainedEvents reason.eventReason s.prepared) ≠ none := hdrop
      rw [hd.openDrop_of_not_mem hnot] at hopen
      exact .inl (h.buffered f (List.mem_append_right _ hf) hopen)

theorem flush {reason : Interruption} {frames : List OpusFrame} (h : Rebuilding s r)
    (hapart : s.Apart) (hs : s.pc = .flush reason frames) (hempty : s.egress.inner = [])
    (hnone : s.pending = []) (hstep : s.driverStep aead answer = some t) :
    Rebuilding t (s.record aead answer r) := by
  cases answer with
  | go =>
    simp only [driverStep, hs, Option.some.injEq] at hstep
    subst hstep
    simp only [record, hs]
    exact h.flushed hapart hs hempty hnone
  | _ => simp [driverStep, hs] at hstep

theorem restored {reason : Interruption} {f : OpusFrame} {frames : List OpusFrame}
    {queue : OpusFrameQueue} (h : Rebuilding s r) (hapart : s.Apart)
    (hs : s.pc = .restore reason (f :: frames)) (hpush : s.source.queue.pushFront f = .ok queue) :
    Rebuilding { s with source := { s.source with queue }, pc := .restore reason frames }
      (r.remember f reason.eventReason) := by
  obtain rfl := OpusFrameQueue.pushFront_ok hpush
  have hin : ∀ g ∈ f :: frames, g ∈ s.pc.fallen := by
    rw [hs]
    exact fun g hg ↦ hg
  have hknown : s.Known f :=
    h.known f (List.mem_append_left _ (List.mem_append_left _ (hin f List.mem_cons_self)))
  have hreasonOf : s.pc.fallReason = some reason.eventReason := by
    rw [hs]
    rfl
  have hplaces : s.whereabouts = (f :: frames) ++ (s.flying ++ s.buffered) := by
    rw [whereabouts, hs, DriverPc.fallen, List.append_assoc]
  have hnodup := h.nodup hapart
  rw [hplaces, List.cons_append, List.map_cons, List.nodup_cons, List.map_append, List.mem_append,
    not_or] at hnodup
  obtain ⟨hnot, e, hopen, hreason⟩ := h.fallen f (hin f List.mem_cons_self)
  rw [hreasonOf, Option.some.injEq] at hreason
  have hbuffered := buffered_eq (s := s) (by rw [hs]; rfl)
  refine ⟨?_, fun p ↦ ?_, h.made, h.kept, fun g hg ↦ ?_, fun g hg ↦ ?_, h.flying, fun g hg ↦ ?_,
    fun g hg hdrop ↦ ?_⟩
  · rw [← hreason]
    exact h.sound.remember hknown hopen hnot
  · refine le_trans (le_of_eq ?_) (h.copies p)
    rw [hplaces, hbuffered]
    simp only [whereabouts, MediaState.flying, MediaState.buffered, DriverPc.fallen, DriverPc.taken,
      List.append_nil, List.countP_append, List.countP_cons]
    omega
  · refine h.known g ?_
    rw [hs]
    simp only [MediaState.flying, DriverPc.fallen, DriverPc.taken, List.mem_append] at hg ⊢
    rcases hg with (hg | hg) | hg
    · exact .inl (.inl (List.mem_cons_of_mem f hg))
    · exact .inl (.inr hg)
    · exact .inr hg
  · rcases List.mem_cons.mp hg with rfl | hg
    · rw [withEpoch_of_known hknown]
      exact hknown
    · exact h.source g hg
  · obtain ⟨hnot', e', hopen', hreason'⟩ := h.fallen g (hin g (List.mem_cons_of_mem f hg))
    refine ⟨fun hcredited ↦ ?_, e', hopen', hreason'.trans hreasonOf⟩
    rcases credited_remember.mp hcredited with hcredited | hsame
    · exact hnot' hcredited
    · rw [← hsame] at hnodup
      exact hnodup.1.1 (List.mem_map_of_mem hg)
  · rw [credited_remember]
    simp only [MediaState.buffered, DriverPc.taken, List.append_nil, List.mem_append,
      List.mem_cons] at hg
    rcases hg with hg | rfl | hg
    · exact .inl (h.buffered g (by rw [hbuffered]; exact List.mem_append_left _ hg) hdrop)
    · exact .inr rfl
    · exact .inl (h.buffered g (by rw [hbuffered]; exact List.mem_append_right _ hg) hdrop)

theorem lost {reason : Interruption} {f : OpusFrame} {frames : List OpusFrame} (h : Rebuilding s r)
    (hs : s.pc = .restore reason (f :: frames)) :
    Rebuilding (s.goto (.restore reason frames)) r := by
  have hin : ∀ g ∈ frames, g ∈ s.pc.fallen := by
    rw [hs]
    exact fun g hg ↦ List.mem_cons_of_mem f hg
  have hbuffered := buffered_eq (s := s) (by rw [hs]; rfl)
  refine ⟨h.sound, fun p ↦ ?_, h.made, h.kept, fun g hg ↦ ?_, h.source, h.flying, fun g hg ↦ ?_,
    fun g hg hdrop ↦ ?_⟩
  · refine le_trans ?_ (h.copies p)
    rw [whereabouts, whereabouts, hbuffered, hs]
    simp only [MediaState.flying, MediaState.buffered, goto, DriverPc.fallen, DriverPc.taken,
      List.append_nil, List.countP_append, List.countP_cons]
    omega
  · refine h.known g ?_
    rw [hs]
    simp only [MediaState.flying, goto, DriverPc.fallen, DriverPc.taken, List.mem_append] at hg ⊢
    rcases hg with (hg | hg) | hg
    · exact .inl (.inl (List.mem_cons_of_mem f hg))
    · exact .inl (.inr hg)
    · exact .inr hg
  · obtain ⟨hnot, e, hopen, hreason⟩ := h.fallen g (hin g hg)
    rw [hs] at hreason
    exact ⟨hnot, e, hopen, hreason⟩
  · refine h.buffered g ?_ hdrop
    rw [hbuffered]
    simpa only [MediaState.buffered, goto, DriverPc.taken, List.append_nil] using hg

theorem restore {reason : Interruption} {frames : List OpusFrame} (h : Rebuilding s r)
    (hapart : s.Apart) (hs : s.pc = .restore reason frames)
    (hstep : s.driverStep aead answer = some t) : Rebuilding t (s.record aead answer r) := by
  cases frames with
  | nil =>
    cases answer <;> simp only [driverStep, hs, Option.some.injEq, reduceCtorEq] at hstep
    subst hstep
    simp only [record, hs]
    cases reason with
    | stop site =>
      cases site with
      | second => exact h.of_flow rfl rfl rfl
      | _ => exact h.stop _
    | stale => exact h.stop _
    | _ => exact h.of_flow rfl rfl rfl
  | cons f frames =>
    cases answer <;> simp only [driverStep, hs, Option.some.injEq, reduceCtorEq] at hstep
    subst hstep
    simp only [record, hs, restoreLiveSourceFrame]
    cases hpush : s.source.queue.pushFront f with
    | ok queue => exact h.restored hapart hs hpush
    | error g => exact h.lost hs

theorem preparedFrames_sublist {made : List PreparedTrackPlayout} {f : OpusFrame}
    (hone : made.length ≤ 1) (hframe : ∀ g ∈ preparedFrames made, g = f) :
    (preparedFrames made).Sublist [f] := by
  rcases made with _ | ⟨p, _ | ⟨q, made⟩⟩
  · exact List.nil_sublist _
  · rw [preparedFrames, List.map_singleton, hframe p.frame List.mem_cons_self]
  · simp at hone

theorem popped {f : OpusFrame} {egress : OpusFrameQueue} (made : List PreparedTrackPlayout)
    (h : Rebuilding s r) (hapart : s.Apart) (hfallen : s.pc.fallen = []) (htaken : s.pc.taken = [])
    (hinner : s.egress.inner = f :: egress.inner) (hmade : ∀ p ∈ made, p.frame = f ∧
      Made p.command.sendRecord f ∧ openDrop f.sourcePositionSamples r'.events = none)
    (hone : made.length ≤ 1) (hsound : Sound s.Known r')
    (hsame : ∀ p, p ≠ f.sourcePositionSamples →
      openDrop p r'.events = openDrop p r.events ∧ (r'.Credited p ↔ r.Credited p))
    (htfallen : t.pc.fallen = []) (httaken : t.pc.taken = [])
    (hm : t.flow = { s.flow with
      egress, preparer := t.preparer, current := t.current, prepared := s.prepared ++ made }) :
    Rebuilding t r' := by
  have hprepared : t.prepared = s.prepared ++ made := congrArg Flow.prepared hm
  have hpending : t.pending = s.pending := congrArg Flow.pending hm
  have hegress : t.egress = egress := congrArg Flow.egress hm
  have hqueue : t.source.queue = s.source.queue := congrArg Flow.queue hm
  have hproduced : t.produced = s.produced := congrArg Flow.produced hm
  have hepoch : t.playbackEpoch = s.playbackEpoch := congrArg Flow.playbackEpoch hm
  have hknown : t.Known = s.Known := by
    unfold MediaState.Known
    rw [hproduced, hepoch]
  have hflying : t.flying = s.flying ++ preparedFrames made := by
    rw [MediaState.flying, MediaState.flying, hpending, hprepared, preparedFrames, preparedFrames,
      preparedFrames, List.map_append, List.append_assoc]
  have hbuffered : s.buffered = f :: t.buffered := by
    rw [buffered_eq htaken, buffered_eq httaken, hinner, hegress, hqueue, List.cons_append]
  have hplaces : s.whereabouts = s.flying ++ f :: t.buffered := by
    rw [whereabouts, hfallen, hbuffered, List.nil_append]
  have hnodup := h.nodup hapart
  rw [hplaces, List.map_append, List.map_cons, List.nodup_middle, List.nodup_cons, List.mem_append,
    not_or] at hnodup
  have hne {g : OpusFrame} {frames : List OpusFrame}
      (hnot : f.sourcePositionSamples ∉ frames.map (·.sourcePositionSamples)) (hg : g ∈ frames) :
      g.sourcePositionSamples ≠ f.sourcePositionSamples := by
    intro hposition
    rw [← hposition] at hnot
    exact hnot (List.mem_map_of_mem hg)
  have hf : s.Known f := by
    refine h.known f (List.mem_append_right _ (List.mem_append_left _ ?_))
    rw [hinner]
    exact List.mem_cons_self
  have hframe : ∀ g ∈ preparedFrames made, g = f := by
    intro g hg
    obtain ⟨p, hp, rfl⟩ := List.mem_map.mp hg
    exact (hmade p hp).1
  refine ⟨?_, fun p ↦ ?_, fun p hp ↦ ?_, ?_, fun g hg ↦ ?_, ?_, fun g hg ↦ ?_, fun g hg ↦ ?_,
    fun g hg hdrop ↦ ?_⟩
  · rw [hknown]
    exact hsound
  · rw [hproduced]
    refine le_trans ?_ (h.copies p)
    have hmoved : (preparedFrames made).countP (·.sourcePositionSamples = p) ≤
        [f].countP (·.sourcePositionSamples = p) :=
      (preparedFrames_sublist hone hframe).countP_le
    rw [hplaces, whereabouts, htfallen, hflying]
    simp only [List.nil_append, List.countP_append, List.countP_cons, List.countP_nil] at hmoved ⊢
    omega
  · rw [hprepared] at hp
    rcases List.mem_append.mp hp with hp | hp
    · exact h.made p hp
    · obtain ⟨hframe, hmadeOf, -⟩ := hmade p hp
      rw [hframe]
      exact hmadeOf
  · rw [hpending]
    exact h.kept
  · rw [hknown]
    rw [htfallen, httaken, hflying, hegress, List.nil_append, List.append_nil] at hg
    rcases List.mem_append.mp hg with hg | hg
    · rcases List.mem_append.mp hg with hg | hg
      · exact h.known g (List.mem_append_left _ (List.mem_append_right _ hg))
      · rw [hframe g hg]
        exact hf
    · refine h.known g (List.mem_append_right _ (List.mem_append_left _ ?_))
      rw [hinner]
      exact List.mem_cons_of_mem f hg
  · rw [hknown, hepoch, hqueue]
    exact h.source
  · rw [hflying] at hg
    rcases List.mem_append.mp hg with hg | hg
    · exact (hsame _ (hne hnodup.1.1 hg)).1.trans (h.flying g hg)
    · obtain ⟨p, hp, rfl⟩ := List.mem_map.mp hg
      rw [(hmade p hp).1]
      exact (hmade p hp).2.2
  · rw [htfallen] at hg
    cases hg
  · obtain ⟨hopen, hcredited⟩ := hsame _ (hne hnodup.1.2 hg)
    rw [hopen] at hdrop
    rw [hcredited]
    refine h.buffered g ?_ hdrop
    rw [hbuffered]
    exact List.mem_cons_of_mem f hg

theorem packet_durationSamples {preparer preparer' : VoicePacketPreparer} {payload : Bytes}
    {durationMs : ℕ} {samples : UInt32} {packet : PreparedVoicePacket}
    (h : preparer.prepareAudioPacketWithDurationSamples aead payload durationMs samples =
      (.ok packet, preparer')) : packet.durationSamples = samples := by
  simp only [VoicePacketPreparer.prepareAudioPacketWithDurationSamples] at h
  split_ifs at h
  · cases h
  · split at h
    · split at h
      · cases h
        rfl
      · cases h
    · cases h
      rfl

theorem prepare_history {f : OpusFrame} {p : PreparedTrackPlayout} (h : Rebuilding s r)
    (hapart : s.Apart) (hf : f ∈ s.egress.inner) (hframe : p.frame = f)
    (hmade : Made p.command.sendRecord f) (prepared : List PreparedTrackPlayout) :
    Sound s.Known (r.prepare prepared p) ∧
      (∀ q, q ≠ f.sourcePositionSamples →
        openDrop q (r.prepare prepared p).events = openDrop q r.events ∧
          ((r.prepare prepared p).Credited q ↔ r.Credited q)) ∧
      (preparedFits prepared f = true →
        openDrop f.sourcePositionSamples (r.prepare prepared p).events = none) := by
  subst hframe
  have hknown : s.Known p.frame :=
    h.known p.frame (List.mem_append_right _ (List.mem_append_left _ hf))
  have hext := known_ext hapart
  unfold PlayoutHistory.prepare
  cases htake : takeRebuildCredit r.credits p.frame with
  | some taken =>
    obtain ⟨reason, credits⟩ := taken
    dsimp only
    split_ifs with hfits
    · have he : Tells (preparedPlayoutQueueEvent .rebuilt reason p.command
        (depth (preparedFrames (prepared ++ [p])))) p.frame := hmade.tells _ _ _
      refine ⟨h.sound.rebuild hext hknown htake he rfl rfl, fun q hq ↦ ⟨?_, ?_⟩, fun _ ↦ ?_⟩
      · exact (he.openDrop_rebuilt rfl).trans (if_neg hq)
      · exact Sound.credited_of_take htake hq
      · exact (he.openDrop_rebuilt rfl).trans (if_pos rfl)
    · exact ⟨h.sound.take htake, fun q hq ↦ ⟨rfl, Sound.credited_of_take htake hq⟩,
        fun hfit ↦ absurd hfit hfits⟩
  | none =>
    dsimp only
    split_ifs with hfits
    · have he : Neutral (preparedPlayoutQueueEvent .enqueued .steadyPlayback p.command
          (depth (preparedFrames (prepared ++ [p])))) :=
        .of_kind (by decide) (by decide) _ _ _
      refine ⟨h.sound.neutral he, fun q hq ↦ ⟨he.openDrop q, Iff.rfl⟩, fun _ ↦ ?_⟩
      refine (he.openDrop _).trans ?_
      by_contra hopen
      exact h.sound.not_credited_of_none hext hknown htake
        (h.buffered p.frame (List.mem_append_left _ (List.mem_append_left _ hf)) hopen)
    · exact ⟨h.sound, fun q hq ↦ ⟨rfl, Iff.rfl⟩, fun hfit ↦ absurd hfit hfits⟩

theorem fillPop {route : Route} (h : Rebuilding s r) (hapart : s.Apart) (hs : s.pc = .fillPop route)
    (hstep : s.driverStep aead answer = some t) : Rebuilding t (s.record aead answer r) := by
  have hfallen : s.pc.fallen = [] := by
    rw [hs]
    rfl
  have htaken : s.pc.taken = [] := by
    rw [hs]
    rfl
  cases answer <;> simp only [driverStep, hs, reduceCtorEq] at hstep
  case session a =>
    cases hpop : s.egress.pop with
    | none =>
      simp only [hpop, Option.some.injEq] at hstep
      subst hstep
      have hsame : s.record aead (.session a) r = r := by
        cases a <;> simp only [record, hs, hpop]
      rw [hsame]
      exact h.of_flow rfl rfl rfl
    | some popped =>
      obtain ⟨f, egress⟩ := popped
      simp only [hpop, Option.some.injEq] at hstep
      obtain ⟨hinner, -⟩ := OpusFrameQueue.pop_some hpop
      have hdropped {t : MediaState} (htfallen : t.pc.fallen = []) (httaken : t.pc.taken = [])
          (hm : t.flow = { s.flow with
            egress, preparer := t.preparer, current := t.current, prepared := s.prepared ++ [] }) :
          Rebuilding t r :=
        h.popped [] hapart hfallen htaken hinner (fun p hp ↦ (List.not_mem_nil hp).elim) (Nat.zero_le _)
          h.sound (fun _ _ ↦ ⟨rfl, Iff.rfl⟩) htfallen httaken hm
      cases a with
      | error e =>
        subst hstep
        simp only [record, hs]
        exact hdropped rfl rfl (by rw [List.append_nil]; rfl)
      | ok payload =>
        rcases hpacket : s.preparer.prepareAudioPacketWithDurationSamples aead payload
          (audioDurationMsFromSamples f.durationSamples) f.durationSamples with ⟨e | packet, preparer⟩
        · simp only [MediaState.prepareTrack, MediaState.prepareCurrentSlotAudioPacket, hpacket] at hstep
          subst hstep
          simp only [record, hs, hpop, MediaState.prepareCurrentSlotAudioPacket, hpacket]
          exact hdropped rfl rfl (by rw [List.append_nil]; rfl)
        · simp only [MediaState.prepareTrack, MediaState.prepareCurrentSlotAudioPacket, hpacket] at hstep
          simp only [record, hs, hpop, MediaState.prepareCurrentSlotAudioPacket, hpacket]
          set p : PreparedTrackPlayout :=
            ⟨⟨packet, .track, some (preparedMediaFrame f), s.generation, some f⟩, f⟩
          have hmade : Made p.command.sendRecord f := ⟨rfl, rfl, packet_durationSamples hpacket⟩
          have hf : f ∈ s.egress.inner := by
            rw [hinner]
            exact List.mem_cons_self
          obtain ⟨hsound, hsame, hopen⟩ := h.prepare_history hapart hf rfl hmade s.prepared
          split_ifs at hstep with hfits
          · subst hstep
            refine h.popped [p] hapart hfallen htaken hinner (fun q hq ↦ ?_) le_rfl hsound
              hsame rfl rfl rfl
            rw [List.mem_singleton.mp hq]
            exact ⟨rfl, hmade, hopen hfits⟩
          · subst hstep
            exact h.popped [] hapart hfallen htaken hinner (fun q hq ↦ (List.not_mem_nil hq).elim)
              (Nat.zero_le _) hsound hsame rfl rfl (by rw [List.append_nil]; rfl)

theorem pump {route : Route} (h : Rebuilding s r) (hs : s.pc = .pump route)
    (hstep : s.driverStep aead answer = some t) : Rebuilding t (s.record aead answer r) := by
  cases answer <;> simp only [driverStep, hs, Option.some.injEq, reduceCtorEq] at hstep
  subst hstep
  simp only [record, hs, pumpRound]
  cases hprepared : s.prepared with
  | nil => exact h.of_flow rfl rfl rfl
  | cons p prepared =>
    have he : Neutral (preparedPlayoutQueueEvent .dequeuedToDeadlineSender .steadyPlayback p.command
        (depth (preparedFrames prepared))) := .of_kind (by decide) (by decide) _ _ _
    have hrest : prepared.Sublist s.prepared := by
      rw [hprepared]
      exact List.sublist_cons_self p prepared
    dsimp only
    split_ifs
    · exact h.of_flow rfl rfl rfl
    · refine h.shift (.of_sublist rfl rfl (.refl _) hrest (.refl _) rfl rfl rfl)
        (fun q hq ↦ h.made q (hrest.mem hq)) h.kept (h.sound.neutral he) he.openDrop rfl
    · refine h.shift (.of_flying rfl rfl ?_ rfl rfl rfl rfl) (fun q hq ↦ h.made q (hrest.mem hq))
        (fun q hq ↦ ?_) (h.sound.neutral he) he.openDrop rfl
      · simp only [MediaState.flying, hprepared, preparedFrames, List.map_cons, List.filterMap_append,
          PendingDeadlineCommand.new, List.filterMap_cons, List.filterMap_nil, List.append_assoc,
          List.cons_append, List.nil_append]
      · rcases List.mem_append.mp hq with hq | hq
        · exact h.kept q hq
        · rw [List.mem_singleton.mp hq]
          exact h.made p (by rw [hprepared]; exact List.mem_cons_self)

theorem silence {site : SilenceSite} (h : Rebuilding s r) (hs : s.pc = .silence site)
    (hstep : s.driverStep aead answer = some t) : Rebuilding t (s.record aead answer r) := by
  cases answer <;> simp only [driverStep, hs, reduceCtorEq] at hstep
  case session a =>
    split_ifs at hstep with hdue
    · cases hstep
      cases a with
      | error e =>
        simp only [record, hs]
        exact h.stop _
      | ok payload =>
        rcases hpacket : s.preparer.prepareAudioPacketWithDurationSamples aead payload
          (audioDurationMsFromSamples 960) 960 with ⟨e | packet, preparer⟩
        · simp only [record, hs, hdue, if_true, MediaState.prepareSilence,
            MediaState.prepareCurrentSlotAudioPacket, hpacket]
          exact h.move (.of_sublist rfl rfl (.refl _) (.refl _) (.refl _) rfl rfl rfl) (.refl _)
            (.refl _)
        · simp only [record, hs, hdue, if_true, MediaState.prepareSilence,
            MediaState.prepareCurrentSlotAudioPacket, hpacket]
          set event := preparedPlayoutQueueEvent .enqueued .sourceUnderrun
            ⟨packet, .scheduledSilence, none, s.generation, none⟩
            ⟨1, packet.bytes.length, packet.durationMs, packet.durationSamples.toNat⟩
          have he : Neutral event := .of_kind (by decide) (by decide) _ _ _
          split_ifs
          · exact h.shift (.of_sublist rfl rfl (.refl _) (.refl _) (.refl _) rfl rfl rfl) h.made
              h.kept (h.sound.neutral he) he.openDrop rfl
          · refine h.shift (.of_flying rfl rfl ?_ rfl rfl rfl rfl) h.made (fun q hq ↦ ?_)
              (h.sound.neutral he) he.openDrop rfl
            · simp only [MediaState.flying, List.filterMap_append, PendingDeadlineCommand.new,
                List.filterMap_cons, List.filterMap_nil, List.append_nil]
            · rcases List.mem_append.mp hq with hq | hq
              · exact h.kept q hq
              · rw [List.mem_singleton.mp hq]
                exact ⟨PreparedPacketKind.noConfusion, rfl⟩
    · cases hstep
      have hsame : s.record aead (.session a) r = r := by
        cases a <;> simp [record, hs, hdue]
      rw [hsame]
      cases site with
      | after route => cases route <;> exact h.of_flow rfl rfl rfl
      | underrun => exact h.of_flow rfl rfl rfl

theorem record_same (hs : s.pc.reports = false)
    (hdrops : s.pc.calm = true → s.current.dropRecords = []) : s.record aead answer r = r := by
  cases hpc : s.pc <;> rw [hpc] at hs <;> cases hs
  case outcomes site sent =>
    have hnone := hdrops (by rw [hpc]; rfl)
    cases answer <;> simp [record, hpc, hnone]
  case select =>
    have hnone := hdrops (by rw [hpc]; rfl)
    cases answer <;> simp [record, hpc, hnone]
  all_goals simp [record, hpc]

theorem refilled {f : OpusFrame} {queue : OpusFrameQueue} (h : Rebuilding s r)
    (hfallen : s.pc.fallen = []) (htaken : s.pc.taken = [])
    (hpop : s.source.queue.pop = some (f, queue)) (htfallen : t.pc.fallen = [])
    (hbuffered : t.egress.inner ++ t.pc.taken = s.egress.inner ++ [f.withEpoch s.playbackEpoch])
    (hqueue : t.source.queue = queue) (hflow : t.pending = s.pending ∧ t.prepared = s.prepared ∧
      t.produced = s.produced ∧ t.playbackEpoch = s.playbackEpoch) : Rebuilding t r := by
  obtain ⟨hinner, -⟩ := OpusFrameQueue.pop_some hpop
  obtain ⟨hpending, hprepared, hproduced, hepoch⟩ := hflow
  have hflying : t.flying = s.flying := by
    rw [MediaState.flying, MediaState.flying, hpending, hprepared]
  refine h.move ⟨htfallen, fun g hg ↦ hflying ▸ hg, fun g hg ↦ ?_, fun g hg ↦ .inl ?_, fun p ↦ ?_,
    hproduced, hepoch⟩ ?_ ?_
  · rw [hbuffered] at hg
    rcases List.mem_append.mp hg with hg | hg
    · exact .inl (List.mem_append_left _ hg)
    · rw [List.mem_singleton.mp hg]
      exact .inr ⟨f, by rw [hinner]; exact List.mem_cons_self, rfl⟩
  · rw [hqueue] at hg
    rw [hinner]
    exact List.mem_cons_of_mem f hg
  · rw [whereabouts, whereabouts, htfallen, hfallen, hflying, buffered_eq htaken,
      MediaState.buffered, hbuffered, hqueue, hinner]
    simp only [OpusFrame.withEpoch, List.nil_append, List.countP_append, List.countP_cons,
      List.countP_nil]
    omega
  · rw [hprepared]
  · rw [hpending]

theorem refillRestored {route : Route} {next : FillNext} {f : OpusFrame} (h : Rebuilding s r)
    (hs : s.pc = .refillRestore route next f) :
    Rebuilding ((s.restoreLiveSourceFrame f).goto (afterRefill route next)) r := by
  have hfallen : (afterRefill route next).fallen = [] := by
    cases next <;> rfl
  have htaken : (afterRefill route next).taken = [] := by
    cases next <;> rfl
  have hsfallen : s.pc.fallen = [] := by
    rw [hs]
    rfl
  have hstaken : s.pc.taken = [f] := by
    rw [hs]
    rfl
  unfold restoreLiveSourceFrame
  cases hpush : s.source.queue.pushFront f with
  | error g =>
    refine h.move ⟨hfallen, fun g hg ↦ hg, fun g hg ↦ .inl ?_, fun g hg ↦ .inl hg, fun p ↦ ?_, rfl,
      rfl⟩ (.refl _) (.refl _)
    · rw [goto_pc, htaken, List.append_nil] at hg
      exact List.mem_append_left _ hg
    · rw [whereabouts, whereabouts, goto_pc, hfallen, hsfallen, MediaState.buffered,
        MediaState.buffered, goto_pc, htaken, hstaken]
      simp only [MediaState.flying, goto, List.nil_append, List.append_nil, List.countP_append]
      omega
  | ok queue =>
    obtain rfl := OpusFrameQueue.pushFront_ok hpush
    refine h.move ⟨hfallen, fun g hg ↦ hg, fun g hg ↦ .inl ?_, fun g hg ↦ ?_, fun p ↦ ?_, rfl,
      rfl⟩ (.refl _) (.refl _)
    · rw [goto_pc, htaken, List.append_nil] at hg
      exact List.mem_append_left _ hg
    · rcases List.mem_cons.mp hg with rfl | hg
      · rw [hstaken]
        exact .inr (List.mem_append_right _ List.mem_cons_self)
      · exact .inl hg
    · rw [whereabouts, whereabouts, goto_pc, hfallen, hsfallen, MediaState.buffered,
        MediaState.buffered, goto_pc, htaken, hstaken]
      simp only [MediaState.flying, goto, List.nil_append, List.append_nil, List.countP_append,
        List.countP_cons, List.countP_nil]
      omega

theorem quiet (h : Rebuilding s r) (hreports : s.pc.reports = false) (hc : Connected s)
    (hstep : s.driverStep aead answer = some t) : Rebuilding t r := by
  have hleaves := Leaves.driverStep hstep
  cases driverStep_effect hstep with
  | jump hs ht hm => exact h.of_flow (DriverPc.fallen_of_calm ht) (DriverPc.taken_of_calm ht) hm
  | @account r rest p pending pc hs hrecords hpending hmatch ht =>
    have hrest : pending.Sublist s.pending := by
      rw [hpending]
      exact List.sublist_cons_self p pending
    exact h.move (.of_sublist (DriverPc.fallen_of_calm ht) (DriverPc.taken_of_calm ht) hrest
      (.refl _) (.refl _) rfl rfl rfl) (.refl _) hrest
  | accountDropped hs hdropped => exact absurd (hc.linked (link_of_calm hs)).noDrops hdropped
  | @report r pc hs hq hpc =>
    rcases hpc with ⟨-, hcalm⟩ | ⟨site, sent, -, rfl⟩
    · exact h.of_flow (DriverPc.fallen_of_calm hcalm) (DriverPc.taken_of_calm hcalm)
        (sendMetric_flow _)
    · exact h.of_flow rfl rfl (sendMetric_flow _)
  | invalidate hs | discard hs | boundaryReport hs | again hs | invalidateAgain hs | discardAgain hs =>
    exact h.of_flow rfl rfl rfl
  | boundary hs | boundarySent hs => exact h.of_flow rfl rfl rfl
  | @paused site hs => cases site <;> exact h.of_flow rfl rfl rfl
  | replace hs | flush hs | restore hs | restored hs | prepareTrack hs | pump hs | silence hs =>
    rw [hs] at hreports
    cases hreports
  | @refill route next f queue egress hs hpop hpush =>
    obtain rfl := OpusFrameQueue.push_ok hpush
    have hfallen : s.pc.fallen = [] := by
      rw [hs]
      rfl
    have htaken : s.pc.taken = [] := by
      rw [hs]
      rfl
    exact h.refilled hfallen htaken hpop hfallen (by rw [htaken, List.append_nil]) rfl
      ⟨rfl, rfl, rfl, rfl⟩
  | refillRefused hs hpop =>
    exact h.refilled (by rw [hs]; rfl) (by rw [hs]; rfl) hpop rfl rfl rfl ⟨rfl, rfl, rfl, rfl⟩
  | refillRestore hs => exact h.refillRestored hs
  | exit ht hcurrent hflow =>
    obtain ⟨hepoch, -, -, -, hproduced, -⟩ := hflow
    have hremains := hleaves (by rw [ht]; rfl)
    exact h.move (.of_sublist (by rw [ht]; rfl) (by rw [ht]; rfl) hremains.pending
      hremains.prepared hremains.egress hremains.queue hproduced hepoch) hremains.prepared
      hremains.pending

theorem driver (h : Rebuilding s r) (hapart : s.Apart) (hc : Connected s)
    (hclean : s.flushesClean (.driver answer) = true) (hstep : s.driverStep aead answer = some t) :
    Rebuilding t (s.record aead answer r) := by
  by_cases hreports : s.pc.reports = true
  · cases hpc : s.pc
    case replace reason => exact h.replace hapart hpc hstep
    case flush reason frames =>
      have hempty : s.egress.inner = [] := by
        rw [flushesClean, hpc] at hclean
        exact List.isEmpty_iff.mp hclean
      exact h.flush hapart hpc hempty (hc.replaced (by rw [hpc]; rfl)).nonePending hstep
    case restore reason frames => exact h.restore hapart hpc hstep
    case fillPop route => exact h.fillPop hapart hpc hstep
    case pump route => exact h.pump hpc hstep
    case silence site => exact h.silence hpc hstep
    all_goals
      rw [hpc] at hreports
      cases hreports
  · have hquiet : s.pc.reports = false := Bool.eq_false_of_not_eq_true hreports
    rw [record_same hquiet fun hcalm ↦ (hc.linked (link_of_calm hcalm)).noDrops]
    exact h.quiet hquiet hc hstep

theorem congr (h : Rebuilding s r) (hpc : t.pc = s.pc)
    (hm : ∃ metrics sentDurationSamples current old wire,
      t.flow = { s.flow with metrics, sentDurationSamples, current, old, wire }) : Rebuilding t r := by
  obtain ⟨metrics, sentDurationSamples, current, old, wire, hm⟩ := hm
  have hpending : t.pending = s.pending := congrArg Flow.pending hm
  have hprepared : t.prepared = s.prepared := congrArg Flow.prepared hm
  have hegress : t.egress = s.egress := congrArg Flow.egress hm
  have hqueue : t.source.queue = s.source.queue := congrArg Flow.queue hm
  have hproduced : t.produced = s.produced := congrArg Flow.produced hm
  have hepoch : t.playbackEpoch = s.playbackEpoch := congrArg Flow.playbackEpoch hm
  have hknown : t.Known = s.Known := by
    unfold MediaState.Known
    rw [hproduced, hepoch]
  have hflying : t.flying = s.flying := by
    rw [MediaState.flying, MediaState.flying, hpending, hprepared]
  have hbuffered : t.buffered = s.buffered := by
    rw [MediaState.buffered, MediaState.buffered, hegress, hpc, hqueue]
  have hplaces : t.whereabouts = s.whereabouts := by
    rw [whereabouts, whereabouts, hpc, hflying, hbuffered]
  refine ⟨?_, ?_, ?_, ?_, ?_, ?_, ?_, ?_, ?_⟩
  · rw [hknown]
    exact h.sound
  · rw [hplaces, hproduced]
    exact h.copies
  · rw [hprepared]
    exact h.made
  · rw [hpending]
    exact h.kept
  · rw [hknown, hpc, hflying, hegress]
    exact h.known
  · rw [hknown, hepoch, hqueue]
    exact h.source
  · rw [hflying]
    exact h.flying
  · rw [hpc]
    exact h.fallen
  · rw [hbuffered]
    exact h.buffered

theorem produced {pushed : List OpusFrame} (h : Rebuilding s r) (hapart : t.Apart)
    (hpc : t.pc = s.pc) (hflow : t.flow = { s.flow with
      queue := { s.flow.queue with inner := s.flow.queue.inner ++ pushed }
      produced := s.produced ++ pushed }) : Rebuilding t r := by
  have hpending : t.pending = s.pending := congrArg Flow.pending hflow
  have hprepared : t.prepared = s.prepared := congrArg Flow.prepared hflow
  have hegress : t.egress = s.egress := congrArg Flow.egress hflow
  have hqueue : t.source.queue.inner = s.source.queue.inner ++ pushed :=
    congrArg (·.queue.inner) hflow
  have hproduced : t.produced = s.produced ++ pushed := congrArg Flow.produced hflow
  have hepoch : t.playbackEpoch = s.playbackEpoch := congrArg Flow.playbackEpoch hflow
  have hknown : ∀ f, s.Known f → t.Known f := by
    rintro f ⟨g, hg, rfl⟩
    refine ⟨g, ?_, by rw [hepoch]⟩
    rw [hproduced]
    exact List.mem_append_left _ hg
  have hflying : t.flying = s.flying := by
    rw [MediaState.flying, MediaState.flying, hpending, hprepared]
  have hbuffered : t.buffered = s.buffered ++ pushed := by
    rw [MediaState.buffered, MediaState.buffered, hegress, hpc, hqueue, List.append_assoc,
      List.append_assoc, List.append_assoc]
  have hplaces : t.whereabouts = s.whereabouts ++ pushed := by
    rw [whereabouts, whereabouts, hpc, hflying, hbuffered, ← List.append_assoc]
  refine ⟨h.sound.mono hknown, fun p ↦ ?_, ?_, ?_, ?_, ?_, ?_, ?_, fun f hf hdrop ↦ ?_⟩
  · rw [hplaces, hproduced, List.countP_append, List.countP_append]
    exact Nat.add_le_add_right (h.copies p) _
  · rw [hprepared]
    exact h.made
  · rw [hpending]
    exact h.kept
  · rw [hpc, hflying, hegress]
    exact fun f hf ↦ hknown f (h.known f hf)
  · rw [hqueue, hepoch]
    intro f hf
    rcases List.mem_append.mp hf with hf | hf
    · exact hknown _ (h.source f hf)
    · refine ⟨f, ?_, by rw [hepoch]⟩
      rw [hproduced]
      exact List.mem_append_right _ hf
  · rw [hflying]
    exact h.flying
  · rw [hpc]
    exact h.fallen
  · rw [hbuffered] at hf
    rcases List.mem_append.mp hf with hf | hf
    · exact h.buffered f hf hdrop
    · obtain ⟨e, hopen⟩ := Option.ne_none_iff_exists'.mp hdrop
      obtain ⟨g, ⟨g', hg', rfl⟩, hsame, -⟩ := h.sound.drops _ e hopen
      rw [Apart, hproduced] at hapart
      exact absurd (List.mem_map_of_mem hg') (hsame ▸ position_not_mem hapart hf)

theorem start (playbackEpoch : ℕ) (preparer : VoicePacketPreparer) (source : SourceBufferState)
    (position : ℕ) : Rebuilding (.start playbackEpoch preparer source position) ⟨[], []⟩ where
  sound := .start _
  copies _ := le_rfl
  made _ hp := (List.not_mem_nil hp).elim
  kept _ hp := (List.not_mem_nil hp).elim
  known _ hf := (List.not_mem_nil hf).elim
  source f hf := ⟨f, hf, rfl⟩
  flying _ hf := (List.not_mem_nil hf).elim
  fallen _ hf := (List.not_mem_nil hf).elim
  buffered _ _ hdrop := absurd rfl hdrop

theorem produced_of_effect (hc : Connected s) (he : Effect aead s t) : t.produced = s.produced := by
  cases he with
  | jump hs ht hm => exact congrArg Flow.produced hm
  | accountDropped hs hdropped => exact absurd (hc.linked (link_of_calm hs)).noDrops hdropped
  | report => exact congrArg Flow.produced (sendMetric_flow _)
  | restore hs => exact congrArg Flow.produced (restoreLiveSourceFrame_flow _)
  | @restored reason hs =>
    cases reason with
    | stop site => cases site <;> rfl
    | _ => rfl
  | refillRestore hs => exact congrArg Flow.produced (restoreLiveSourceFrame_flow _)
  | exit ht hcurrent hflow => exact hflow.2.2.2.2.1
  | _ => rfl

theorem apart_of_step {action : Action} (hc : Connected s) (h : s.step aead action = some t)
    (hapart : t.Apart) : s.Apart := by
  have hprefix : ∃ pushed, t.produced = s.produced ++ pushed := by
    cases step_happens h with
    | driver he => exact ⟨[], by rw [produced_of_effect hc he, List.append_nil]⟩
    | produced pushed hpc hpaused hflow => exact ⟨pushed, congrArg Flow.produced hflow⟩
    | metric => exact ⟨[], by rw [List.append_nil]; exact congrArg Flow.produced (sendMetric_flow _)⟩
    | @consumed m metrics hmetrics =>
      exact ⟨[], by rw [List.append_nil]; exact congrArg Flow.produced (consumeMetric_flow m)⟩
    | apart ha hpc hpaused hflow =>
      exact ⟨[], by rw [List.append_nil]; exact congrArg Flow.produced hflow⟩
    | _ => exact ⟨[], (List.append_nil _).symm⟩
  obtain ⟨pushed, hproduced⟩ := hprefix
  rw [Apart, hproduced, List.map_append] at hapart
  exact hapart.of_append_left

end Rebuilding

/-- Every `Rebuilt` clears the drop before it, no frame has two credits, and once every frame that
was dropped is rebuilt the collector counts none. -/
structure RebuildsClear (r : PlayoutHistory) : Prop where
  rebuilt : RebuiltAsDropped r.events
  single : (r.credits.map (·.identity)).Nodup
  cleared : AllRebuilt r.events →
    (PlaybackStabilityCollector.collect r.events).preparedTrackPacketDropCount = 0

theorem Sound.rebuildsClear {known : OpusFrame → Prop} {r : PlayoutHistory} (h : Sound known r) :
    RebuildsClear r where
  rebuilt := h.rebuilt
  single := by
    have hpositions : r.credits.map (·.identity.sourcePositionSamples) =
        (r.credits.map (·.identity)).map (·.sourcePositionSamples) := by
      rw [List.map_map]
      rfl
    exact List.Nodup.of_map _ (hpositions ▸ h.single)
  cleared := h.tallied.count_eq_zero

structure Recorded.Upheld (r : Recorded) : Prop where
  connected : Connected r.state
  rebuilding : r.state.Apart → Rebuilding r.state r.history

theorem Recorded.Upheld.step {aead : Aead} {r r' : Recorded} {action : Action} (h : r.Upheld)
    (hclean : r.state.flushesClean action = true) (hstep : Recorded.step aead r action = some r') :
    r'.Upheld := by
  obtain ⟨t, ht, rfl⟩ := Option.map_eq_some_iff.mp hstep
  refine ⟨h.connected.happens (step_happens ht), fun hapart ↦ ?_⟩
  have hsapart := Rebuilding.apart_of_step h.connected ht hapart
  have hs := h.rebuilding hsapart
  cases step_happens ht with
  | driver he => exact hs.driver hsapart h.connected hclean ht
  | sender hmove => exact hs.congr rfl ⟨_, _, _, _, _, rfl⟩
  | oldSender hget hmove => exact hs.congr rfl ⟨_, _, _, _, _, rfl⟩
  | produced pushed hpc hpaused hflow => exact hs.produced hapart hpc hflow
  | metric => exact hs.congr (sendMetric_pc _) ⟨_, _, _, _, _, sendMetric_flow _⟩
  | @consumed m metrics hmetrics =>
    exact hs.congr (consumeMetric_pc _)
      ⟨_, _, _, _, _, consumeMetric_flow (s := { r.state with metrics }) m⟩
  | apart ha hpc hpaused hflow =>
    cases action with
    | driver answer => exact absurd rfl (ha answer)
    | _ => exact hs.congr hpc ⟨_, _, _, _, _, hflow⟩

/-- As long as an interruption finds the egress buffer empty when it flushes the buffers, every
rebuild clears its drop. -/
theorem rebuilds_clear_of_flushesClean (aead : Aead) (playbackEpoch : ℕ)
    (preparer : VoicePacketPreparer) (source : SourceBufferState) (position : ℕ)
    (actions : List Action) {r : Recorded} (hapart : r.state.Apart)
    (hclean : Throughout (Recorded.step aead)
      (fun r action ↦ r.state.flushesClean action = true)
      (.start playbackEpoch preparer source position) actions)
    (h : exec (Recorded.step aead) (.start playbackEpoch preparer source position) actions =
      some r) : RebuildsClear r.history := by
  have hupheld : r.Upheld := exec_induction (fun _ _ _ hr ↦ Recorded.Upheld.step hr)
    ⟨.start _ _ _ _, fun _ ↦ .start _ _ _ _⟩ hclean h
  exact (hupheld.rebuilding hapart).sound.rebuildsClear

/-- The gateway reports a DAVE transition, and the frame of the egress buffer is prepared after it. -/
def rebuildForDave : List Action :=
  [.driver (.drained true)] ++ goes 5 ++ [payload] ++ goes 5 ++ [payload] ++ goes 5 ++ [payload] ++
    goes 2 ++ [payload] ++ goes 3

theorem rebuilds_clear_of_flushesClean_pause :
    ∃ r, exec (Recorded.step plainAead) ⟨plainStart [plainFrame 0] false, ⟨[], []⟩⟩
        (oneFrameRound ++ [.send .pause, .driver .command] ++ pauseAndResume) = some r ∧
      r.history.events.countP (·.eventKind = .rebuilt) = 1 ∧ RebuildsClear r.history := by
  have hrun : (exec (Recorded.step plainAead) ⟨plainStart [plainFrame 0] false, ⟨[], []⟩⟩
      (oneFrameRound ++ [.send .pause, .driver .command] ++ pauseAndResume)).map
        (fun r ↦ (r.history.events.countP (·.eventKind = .rebuilt),
          r.state.produced.map (·.sourcePositionSamples))) = some (1, [0]) := by
    decide +kernel
  obtain ⟨r, hr, heq⟩ := Option.map_eq_some_iff.mp hrun
  obtain ⟨hrebuilt, hproduced⟩ := Prod.mk.inj heq
  have hapart : r.state.Apart := by
    rw [Apart, hproduced]
    exact List.nodup_singleton 0
  exact ⟨r, hr, hrebuilt, rebuilds_clear_of_flushesClean plainAead _ _ _ _ _ hapart
    (throughout_of_allowed (by decide +kernel)) hr⟩

/-- A DAVE transition right behind a pause gives the frame a second credit. The next pause drops the
frame again, it is rebuilt for the transition, and its drop stays counted. -/
theorem drop_counted_after_rebuild :
    ∃ r, exec (Recorded.step plainAead) ⟨plainStart [plainFrame 0] false, ⟨[], []⟩⟩
        (oneFrameRound ++ [.send .pause, .driver .command] ++ pauseThenResume ++ rebuildForDave ++
          [.send .pause, .driver .command] ++ pauseAndResume) = some r ∧
      r.state.Apart ∧ AllRebuilt r.history.events ∧
      (PlaybackStabilityCollector.collect r.history.events).preparedTrackPacketDropCount = 1 ∧
      ¬RebuildsClear r.history := by
  have hrun : (exec (Recorded.step plainAead) ⟨plainStart [plainFrame 0] false, ⟨[], []⟩⟩
      (oneFrameRound ++ [.send .pause, .driver .command] ++ pauseThenResume ++ rebuildForDave ++
        [.send .pause, .driver .command] ++ pauseAndResume)).map
          (fun r ↦ (r.state.produced.map (·.sourcePositionSamples),
            decide (AllRebuilt r.history.events),
            (PlaybackStabilityCollector.collect r.history.events).preparedTrackPacketDropCount)) =
      some ([0], true, 1) := by
    decide +kernel
  obtain ⟨r, hr, heq⟩ := Option.map_eq_some_iff.mp hrun
  obtain ⟨hproduced, heq⟩ := Prod.mk.inj heq
  obtain ⟨hall, hcount⟩ := Prod.mk.inj heq
  refine ⟨r, hr, ?_, of_decide_eq_true hall, hcount, fun hclear ↦ ?_⟩
  · rw [Apart, hproduced]
    exact List.nodup_singleton 0
  · have hzero := hclear.cleared (of_decide_eq_true hall)
    omega

end DiscordVoice.Media
