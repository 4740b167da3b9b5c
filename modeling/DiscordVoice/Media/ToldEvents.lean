import Mathlib.Algebra.Order.BigOperators.Group.List
import Mathlib.Algebra.Order.Group.Nat
import DiscordVoice.Schedule
import DiscordVoice.Media.QueueEvents

namespace DiscordVoice.Media

open Voice Playback Schedule MediaState

/-- The prepared queue is no deeper than its high watermark. -/
def MediaState.Shallow (s : MediaState) : Prop :=
  durationSamples (preparedFrames s.prepared) ≤ egressHighWatermarkSamples

/-- An event of a kind the other end knows, of a queue within its high watermark. -/
structure WellTold (e : PreparedPlayoutQueueEventSnapshot) : Prop where
  known : e.eventKind ≠ .unknown
  shallow : e.commandKind = .track → e.queueDepthAfter.durationMs ≤ 500

section Driver

variable {aead : Aead} {s t : MediaState}

theorem MediaState.Shallow.of_sublist (h : s.Shallow) (hsub : t.prepared.Sublist s.prepared) : t.Shallow := by
  refine le_trans ?_ h
  exact ((hsub.map PreparedTrackPlayout.frame).map OpusFrame.samples).sum_le_sum (by simp)

theorem MediaState.Shallow.congr (h : s.Shallow) (hprepared : t.prepared = s.prepared) : t.Shallow :=
  h.of_sublist (hprepared ▸ List.Sublist.refl _)

theorem readSourceDepth_prepared {next : MediaState} (h : next.prepared = s.prepared) :
    (s.readSourceDepth next).prepared = s.prepared := by
  unfold readSourceDepth
  split
  · rfl
  · exact h

@[simp] theorem restoreLiveSourceFrame_prepared (f : OpusFrame) :
    (s.restoreLiveSourceFrame f).prepared = s.prepared := by
  unfold restoreLiveSourceFrame
  split <;> rfl

@[simp] theorem sendMetric_prepared (m : PlaybackPipelineMetric) :
    (s.sendMetric m).prepared = s.prepared := by
  unfold sendMetric
  split <;> rfl

@[simp] theorem accountSent_prepared (r : DeadlineSendRecord) (next : DriverPc) :
    (s.accountSent r next).prepared = s.prepared := by
  unfold accountSent
  split
  · rfl
  · split <;> rfl

@[simp] theorem accountDropped_prepared (r : DeadlineDropRecord) (next : DriverPc) :
    (s.accountDropped r next).prepared = s.prepared := by
  unfold accountDropped
  split
  · rfl
  · split
    · split
      · unfold accountUnsentEgressFrame
        split
        · rfl
        · simp [goto]
      · rfl
    · rfl

theorem drainOutcome_prepared (site : OutcomeSite) (sent : List DeadlineSendRecord) :
    (s.drainOutcome site sent).prepared = s.prepared := by
  unfold drainOutcome
  split
  · simp [takeSendRecord]
  · split
    · rfl
    · split
      · simp [takeDropRecord]
      · rfl

theorem refillRound_prepared (route : Route) (next : FillNext) :
    (s.refillRound route next).prepared = s.prepared := by
  unfold refillRound
  split
  · refine readSourceDepth_prepared ?_
    split
    · rfl
    · dsimp only
      split <;> rfl
  · rfl

theorem prepareSilence_prepared {kind : PreparedPacketKind}
    {next : PreparedPlayoutCommand → MediaState → MediaState} (answer : Except VoiceError Bytes)
    (hnext : ∀ command u, (next command u).prepared = u.prepared) :
    (s.prepareSilence aead kind next answer).prepared = s.prepared := by
  cases answer with
  | error e => rfl
  | ok payload =>
    rcases hpacket : s.preparer.prepareAudioPacketWithDurationSamples aead payload
      (audioDurationMsFromSamples 960) 960 with ⟨e | packet, preparer⟩
    · simp only [prepareSilence, MediaState.prepareCurrentSlotAudioPacket, hpacket]
      rfl
    · simp only [prepareSilence, MediaState.prepareCurrentSlotAudioPacket, hpacket]
      split
      · rfl
      · exact hnext _ _

theorem applyCommand_prepared {site : CommandSite} {command : MediaCommand} {answer : DriverAnswer}
    (h : s.applyCommand site command answer = some t) : t.prepared = s.prepared := by
  cases command with
  | pause =>
    cases answer <;> simp only [applyCommand, Option.some.injEq, reduceCtorEq] at h
    subst h
    rfl
  | resume =>
    cases answer <;> simp only [applyCommand, reduceCtorEq] at h
    split_ifs at h
    · split at h <;> cases h <;> rfl
    · cases h
      rfl
  | stop skipped =>
    cases answer <;> simp only [applyCommand, Option.some.injEq, reduceCtorEq] at h
    subst h
    rfl

theorem receiveCommand_prepared {site : CommandSite} (h : s.receiveCommand site = some t) :
    t.prepared = s.prepared := by
  simp only [receiveCommand] at h
  split at h
  · cases h
    rfl
  · split_ifs at h
    cases h
    rfl

theorem selectSent_prepared {next : DeadlineSendRecord → MediaState → MediaState}
    (hnext : ∀ r u, (next r u).prepared = u.prepared) (h : s.selectSent next = some t) :
    t.prepared = s.prepared := by
  simp only [selectSent] at h
  split at h
  · cases h
    exact hnext _ _
  · split_ifs at h
    cases h
    rfl

theorem selectDropped_prepared (next : DeadlineDropRecord → MediaState → MediaState)
    (hnext : ∀ r u, (next r u).prepared = u.prepared) (h : s.selectDropped next = some t) :
    t.prepared = s.prepared := by
  simp only [selectDropped] at h
  split at h
  · cases h
    exact hnext _ _
  · split_ifs at h
    cases h
    rfl

theorem durationSamples_concat (prepared : List PreparedTrackPlayout) (p : PreparedTrackPlayout) :
    durationSamples (preparedFrames (prepared ++ [p])) =
      durationSamples (preparedFrames prepared) + p.frame.samples := by
  simp [durationSamples, preparedFrames]

theorem prepareTrack_shallow {route : Route} {f : OpusFrame} (answer : Except VoiceError Bytes)
    (h : s.Shallow) : (s.prepareTrack aead route f answer).Shallow := by
  cases answer with
  | error e => exact h
  | ok payload =>
    rcases hpacket : s.preparer.prepareAudioPacketWithDurationSamples aead payload
      (audioDurationMsFromSamples f.durationSamples) f.durationSamples with ⟨e | packet, preparer⟩
    · simp only [prepareTrack, MediaState.prepareCurrentSlotAudioPacket, hpacket]
      exact h
    · simp only [prepareTrack, MediaState.prepareCurrentSlotAudioPacket, hpacket]
      split
      · rename_i hfits
        simp only [preparedFits, Bool.and_eq_true, decide_eq_true_eq] at hfits
        change durationSamples (preparedFrames (s.prepared ++ [_])) ≤ egressHighWatermarkSamples
        rw [durationSamples_concat]
        exact hfits.1.1
      · exact h

theorem pumpRound_sublist (route : Route) : (s.pumpRound route).prepared.Sublist s.prepared := by
  unfold pumpRound
  split
  · exact List.Sublist.refl _
  · rename_i p prepared hprepared
    split
    · exact List.Sublist.refl _
    · rw [hprepared]
      split <;> exact List.sublist_cons_self p prepared

theorem shallow_driver {answer : DriverAnswer} (h : s.Shallow)
    (hstep : s.driverStep aead answer = some t) : t.Shallow := by
  have hsame {pc : DriverPc} : (s.goto pc).Shallow := h
  cases hpc : s.pc
  case fillPop route =>
    cases answer <;> simp only [driverStep, hpc, reduceCtorEq] at hstep
    split at hstep
    · cases hstep
      exact hsame
    · cases hstep
      exact prepareTrack_shallow _ h
  case pump route =>
    cases answer <;> simp only [driverStep, hpc, Option.some.injEq, reduceCtorEq] at hstep
    subst hstep
    exact h.of_sublist (pumpRound_sublist route)
  case flush reason frames =>
    cases answer <;> simp only [driverStep, hpc, Option.some.injEq, reduceCtorEq] at hstep
    subst hstep
    exact Nat.zero_le _
  all_goals refine h.congr ?_
  case apply site command =>
    simp only [driverStep, hpc] at hstep
    exact applyCommand_prepared hstep
  case ready site =>
    cases answer <;> simp only [driverStep, hpc, Option.some.injEq, reduceCtorEq] at hstep
    subst hstep
    exact readSourceDepth_prepared rfl
  case outcomes site sent =>
    cases answer <;> simp only [driverStep, hpc, Option.some.injEq, reduceCtorEq] at hstep
    subst hstep
    exact drainOutcome_prepared site sent
  case commands second =>
    cases answer <;> simp only [driverStep, hpc, reduceCtorEq] at hstep
    split at hstep <;> cases hstep <;> rfl
  case waiting =>
    cases answer <;> simp only [driverStep, hpc, Option.some.injEq, reduceCtorEq] at hstep
    subst hstep
    split_ifs <;> rfl
  case waitingCommand =>
    cases answer <;> simp only [driverStep, hpc, Option.some.injEq, reduceCtorEq] at hstep
    · exact receiveCommand_prepared hstep
    · subst hstep
      rfl
  case sourceCheck =>
    cases answer <;> simp only [driverStep, hpc, reduceCtorEq] at hstep
    split_ifs at hstep <;> cases hstep
    · exact readSourceDepth_prepared rfl
    · rfl
  case restore reason frames =>
    cases frames <;> cases answer <;>
      simp only [driverStep, hpc, Option.some.injEq, reduceCtorEq] at hstep <;> subst hstep
    · unfold afterInterruption
      split <;> rfl
    · exact restoreLiveSourceFrame_prepared _
  case refillStart route next =>
    cases answer <;> simp only [driverStep, hpc, Option.some.injEq, reduceCtorEq] at hstep
    subst hstep
    exact readSourceDepth_prepared rfl
  case refill route next =>
    cases answer <;> simp only [driverStep, hpc, Option.some.injEq, reduceCtorEq] at hstep
    subst hstep
    exact refillRound_prepared route next
  case refillRestore route next f =>
    cases answer <;> simp only [driverStep, hpc, Option.some.injEq, reduceCtorEq] at hstep
    subst hstep
    exact restoreLiveSourceFrame_prepared _
  case fillLoop route =>
    cases answer <;> simp only [driverStep, hpc, Option.some.injEq, reduceCtorEq] at hstep
    subst hstep
    unfold fillRound
    split_ifs <;> rfl
  case silence site =>
    cases answer <;> simp only [driverStep, hpc, reduceCtorEq] at hstep
    split_ifs at hstep <;> cases hstep
    · exact prepareSilence_prepared _ fun _ _ ↦ rfl
    · rfl
  case endCheck =>
    cases answer <;> simp only [driverStep, hpc, reduceCtorEq] at hstep
    split_ifs at hstep <;> cases hstep <;> rfl
  case select =>
    cases answer <;> simp only [driverStep, hpc, reduceCtorEq] at hstep
    · exact selectSent_prepared (fun _ _ ↦ accountSent_prepared _ _) hstep
    · exact selectDropped_prepared _ (fun _ _ ↦ accountDropped_prepared _ _) hstep
    · exact receiveCommand_prepared hstep
  case boundary site left sent =>
    cases left <;> cases answer <;> simp only [driverStep, hpc, reduceCtorEq] at hstep
    · split at hstep <;> cases hstep <;> rfl
    · split_ifs at hstep
      cases hstep
      exact prepareSilence_prepared _ fun _ _ ↦ rfl
  case boundaryWait site left sent =>
    cases answer <;> simp only [driverStep, hpc, reduceCtorEq] at hstep
    · refine selectSent_prepared (fun r u ↦ ?_) hstep
      split <;> rfl
    · exact selectDropped_prepared (fun _ u ↦ u.fail) (fun _ _ ↦ rfl) hstep
  case report site sent =>
    cases sent <;> cases answer <;>
      simp only [driverStep, hpc, Option.some.injEq, reduceCtorEq] at hstep <;> subst hstep
    · rfl
    · exact sendMetric_prepared _
  case boundaryReport site sent =>
    cases sent <;> cases answer <;>
      simp only [driverStep, hpc, Option.some.injEq, reduceCtorEq] at hstep <;> subst hstep
    · rfl
    · exact sendMetric_prepared _
  case replace reason =>
    cases answer with
    | session answer =>
      cases answer <;> simp only [driverStep, hpc, Option.some.injEq] at hstep <;> subst hstep <;> rfl
    | _ => simp only [driverStep, hpc, reduceCtorEq] at hstep
  case discardAgain exiting =>
    cases answer <;> simp only [driverStep, hpc, Option.some.injEq, reduceCtorEq] at hstep
    subst hstep
    split_ifs <;> rfl
  case top | gateway | invalidate | discard | secondCheck | invalidateAgain | exited =>
    cases answer <;> simp only [driverStep, hpc, Option.some.injEq, reduceCtorEq] at hstep <;>
      subst hstep <;> rfl

theorem shallow_step {action : Action} (h : s.Shallow) (hstep : s.step aead action = some t) :
    t.Shallow := by
  cases action with
  | driver answer => exact shallow_driver h hstep
  | sender socketOk =>
    obtain ⟨_, _, rfl⟩ := Option.map_eq_some_iff.mp hstep
    exact h
  | oldSender index socketOk =>
    obtain ⟨d, _, hd⟩ := Option.bind_eq_some_iff.mp hstep
    obtain ⟨_, _, rfl⟩ := Option.map_eq_some_iff.mp hd
    exact h
  | produce frames ended =>
    simp only [MediaState.step] at hstep
    split_ifs at hstep <;> cases hstep <;> exact h
  | produceFailed err =>
    simp only [MediaState.step] at hstep
    split_ifs at hstep
    cases hstep
    exact h
  | send command | closeMailbox | supersede epoch =>
    cases hstep
    exact h
  | otherMetric =>
    cases hstep
    exact h.congr (sendMetric_prepared _)
  | consume =>
    simp only [MediaState.step] at hstep
    split_ifs at hstep
    split at hstep <;> cases hstep
    exact h.congr (by unfold consumeMetric; split <;> (try split) <;> rfl)
  | finish =>
    simp only [MediaState.step] at hstep
    split at hstep
    · split_ifs at hstep
      cases hstep
      exact h
    · cases hstep

theorem wellTold_of_depth {frames : List OpusFrame} (kind : PreparedPlayoutQueueEventKind)
    (reason : PreparedPlayoutQueueEventReason) (record : DeadlineSendRecord) (hkind : kind ≠ .unknown)
    (hframes : durationSamples frames ≤ egressHighWatermarkSamples) :
    WellTold (queueEvent kind reason record (depth frames)) where
  known := hkind
  shallow := by
    intro _
    change durationSamples frames * 1000 / 48000 ≤ 500
    rw [egressHighWatermarkSamples, egressHighWatermarkMs, samplesFromDurationMs] at hframes
    omega

theorem wellTold_drained (reason : PreparedPlayoutQueueEventReason)
    {prepared : List PreparedTrackPlayout}
    (h : durationSamples (preparedFrames prepared) ≤ egressHighWatermarkSamples) :
    ∀ e ∈ drainedEvents reason prepared, WellTold e := by
  induction prepared with
  | nil => simp [drainedEvents]
  | cons p prepared ih =>
    have hrest : durationSamples (preparedFrames prepared) ≤ egressHighWatermarkSamples := by
      simp only [durationSamples, preparedFrames, List.map_cons, List.sum_cons] at h ⊢
      omega
    rw [drainedEvents, List.forall_mem_cons]
    exact ⟨wellTold_of_depth .droppedBeforeSend _ _ (by decide) hrest, ih hrest⟩

theorem wellTold_concat {events : List PreparedPlayoutQueueEventSnapshot}
    {new : PreparedPlayoutQueueEventSnapshot} (h : ∀ e ∈ events, WellTold e) (hnew : WellTold new) :
    ∀ e ∈ events ++ [new], WellTold e := by
  simp only [List.mem_append, List.mem_singleton]
  rintro _ (hmem | rfl)
  · exact h _ hmem
  · exact hnew

theorem wellTold_recordDropped {r : PlayoutHistory} (drop : DeadlineDropRecord) (h : s.Shallow)
    (hr : ∀ e ∈ r.events, WellTold e) : ∀ e ∈ (s.recordDropped r drop).events, WellTold e := by
  have htold := wellTold_concat hr
    (wellTold_of_depth .droppedBeforeSend .interruption drop.toDeadlineSendRecord (by decide) h)
  unfold MediaState.recordDropped
  split
  · exact hr
  · split
    · dsimp only
      split
      · exact htold
      · split <;> exact htold
    · exact hr

theorem wellTold_prepare {r : PlayoutHistory} {prepared : List PreparedTrackPlayout}
    (p : PreparedTrackPlayout) (hr : ∀ e ∈ r.events, WellTold e) :
    ∀ e ∈ (r.prepare prepared p).events, WellTold e := by
  unfold PlayoutHistory.prepare
  split
  rename_i kind reason credits htake
  have hkind : kind ≠ .unknown := by
    split at htake <;> cases htake <;> decide
  dsimp only
  split
  · rename_i hfits
    simp only [preparedFits, Bool.and_eq_true, decide_eq_true_eq] at hfits
    exact wellTold_concat hr
      (wellTold_of_depth _ _ _ hkind (durationSamples_concat prepared p ▸ hfits.1.1))
  · exact hr

theorem wellTold_record {answer : DriverAnswer} {r : PlayoutHistory} (h : s.Shallow)
    (hr : ∀ e ∈ r.events, WellTold e) : ∀ e ∈ (s.record aead answer r).events, WellTold e := by
  unfold MediaState.record
  split
  · split
    · split
      · exact hr
      · exact wellTold_recordDropped _ h hr
    · exact hr
  · split
    · exact wellTold_recordDropped _ h hr
    · exact hr
  · simp only [List.mem_append, List.mem_map]
    rintro _ (hmem | ⟨p, _, rfl⟩)
    · exact hr _ hmem
    · exact wellTold_of_depth .droppedBeforeSend _ _ (by decide) h
  · simp only [List.mem_append]
    rintro _ (hmem | hmem)
    · exact hr _ hmem
    · exact wellTold_drained _ h _ hmem
  · split <;> exact hr
  · split
    · exact hr
    · split
      · exact hr
      · exact wellTold_prepare _ hr
  · split
    · exact hr
    · rename_i p prepared hprepared
      split
      · exact hr
      · have hrest : durationSamples (preparedFrames prepared) ≤ egressHighWatermarkSamples := by
          rw [MediaState.Shallow, hprepared] at h
          simp only [durationSamples, preparedFrames, List.map_cons, List.sum_cons] at h ⊢
          omega
        exact wellTold_concat hr
          (wellTold_of_depth .dequeuedToDeadlineSender .steadyPlayback p.command.sendRecord
            (by decide) hrest)
  · split
    · split
      · exact hr
      · refine wellTold_concat hr ⟨?_, ?_⟩
        · rintro ⟨⟩
        · rintro ⟨⟩
    · exact hr
  · exact hr

/-- What holds throughout a run. -/
structure Recorded.Telling (r : Recorded) : Prop where
  shallow : r.state.Shallow
  told : ∀ e ∈ r.history.events, WellTold e

theorem Recorded.Telling.step {r r' : Recorded} {action : Action} (h : r.Telling)
    (hstep : Recorded.step aead r action = some r') : r'.Telling := by
  obtain ⟨t, ht, rfl⟩ := Option.map_eq_some_iff.mp hstep
  refine ⟨shallow_step h.shallow ht, ?_⟩
  cases action with
  | driver answer => exact wellTold_record h.shallow h.told
  | _ => exact h.told

end Driver

/-- An event that some driver sends in a run. -/
def Told (e : PreparedPlayoutQueueEventSnapshot) : Prop :=
  ∃ (aead : Aead) (playbackEpoch : ℕ) (preparer : VoicePacketPreparer) (source : SourceBufferState)
    (position : ℕ) (actions : List Action) (r : Recorded),
    exec (Recorded.step aead) (.start playbackEpoch preparer source position) actions = some r ∧
      e ∈ r.history.events

theorem Told.wellTold {e : PreparedPlayoutQueueEventSnapshot} (h : Told e) : WellTold e := by
  obtain ⟨aead, playbackEpoch, preparer, source, position, actions, r, hrun, hmem⟩ := h
  have htelling : r.Telling :=
    exec_invariant (fun _ _ _ hr hstep ↦ Recorded.Telling.step hr hstep)
      ⟨Nat.zero_le _, by simp [Recorded.start]⟩ hrun
  exact htelling.told e hmem

end DiscordVoice.Media
