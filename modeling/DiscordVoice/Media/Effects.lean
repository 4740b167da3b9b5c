import DiscordVoice.Media.Driver

namespace DiscordVoice.Media

open Voice Playback

/-- The part of the state that frames and packets live in. -/
structure Flow where
  playbackEpoch : ℕ
  generation : ℕ
  wire : Wire
  current : DeadlineSender
  old : List DeadlineSender
  preparer : VoicePacketPreparer
  queue : OpusFrameQueue
  produced : List OpusFrame
  egress : OpusFrameQueue
  prepared : List PreparedTrackPlayout
  pending : List PendingDeadlineCommand
  metrics : List PlaybackPipelineMetric
  sentDurationSamples : ℕ

namespace MediaState

def flow (s : MediaState) : Flow where
  playbackEpoch := s.playbackEpoch
  generation := s.generation
  wire := s.wire
  current := s.current
  old := s.old
  preparer := s.preparer
  queue := s.source.queue
  produced := s.produced
  egress := s.egress
  prepared := s.prepared
  pending := s.pending
  metrics := s.metrics
  sentDurationSamples := s.sentDurationSamples

end MediaState

namespace DriverPc

/-- The driver is not in the middle of an interruption and holds no frame of its own. -/
def calm : DriverPc → Bool
  | .discard _ | .replace _ | .flush _ _ | .restore _ _ | .refillRestore _ _ _ => false
  | .invalidateAgain _ | .discardAgain _ => false
  | .boundary _ _ _ | .boundaryWait _ _ _ | .boundaryReport _ _ | .exited _ => false
  | _ => true

/-- The driver may be here while playback is paused. -/
def pausable : DriverPc → Bool
  | .top | .ready .top | .outcomes .top _ | .report .top _ | .commands _ | .apply _ _ => true
  | .waiting | .waitingCommand | .invalidateAgain _ | .discardAgain _ | .exited _ => true
  | .invalidate (.stop _) | .discard (.stop _) | .replace (.stop _) => true
  | .flush (.stop _) _ | .restore (.stop _) _ => true
  | .invalidate .stale | .discard .stale | .replace .stale => true
  | .flush .stale _ | .restore .stale _ => true
  | _ => false

/-- The records the driver has read and not yet reported. -/
def records : DriverPc → List DeadlineSendRecord
  | .outcomes _ sent | .report _ sent => sent
  | .boundary _ _ sent | .boundaryWait _ _ sent | .boundaryReport _ sent => sent
  | _ => []

end DriverPc

open MediaState

/-- What one step of the driver can do to frames, packets and records. -/
inductive Effect (aead : Aead) (s : MediaState) : MediaState → Prop
  | jump {t : MediaState} (hs : s.pc.calm) (ht : t.pc.calm) (hm : t.flow = s.flow)
      (hr : t.pc.records = s.pc.records) (hp : t.paused = true → s.paused = true)
      (hq : s.pc.pausable = true → t.paused = true → t.pc.pausable = true) : Effect aead s t
  | account {r rest p pending pc} (hs : s.pc.calm) (hrecords : s.current.sendRecords = r :: rest)
      (hpending : s.pending = p :: pending) (hmatch : p.matchesSentRecord r) (ht : pc.calm)
      (hr : pc.records = s.pc.records ++ [r]) (hq : s.pc.pausable = true → pc.pausable = true) :
      Effect aead s
        { s with current := { s.current with sendRecords := rest }, pending, pc }
  | accountDropped {t : MediaState} (hs : s.pc.calm) (hdropped : s.current.dropRecords ≠ []) :
      Effect aead s t
  | report {r pc} (hs : s.pc.records = r :: pc.records)
      (hq : s.pc.pausable = true → pc.pausable = true)
      (hpc : s.pc.calm ∧ pc.calm ∨ ∃ site sent, s.pc = .boundaryReport site (r :: sent) ∧
        pc = .boundaryReport site sent)
      (hreport : (∃ site sent, s.pc = .report site (r :: sent)) ∨
        ∃ site sent, s.pc = .boundaryReport site (r :: sent)) :
      Effect aead s ((s.sendMetric (.senderSent r)).goto pc)
  | invalidate {reason} (hs : s.pc = .invalidate reason) :
      Effect aead s (s.invalidatePreparedPlayoutGeneration.goto (.discard reason))
  | discard {reason} (hs : s.pc = .discard reason) :
      Effect aead s (s.discardUnsentPreparedPackets.goto (.replace reason))
  | replace {reason} (hs : s.pc = .replace reason) :
      Effect aead s
        (s.replaceDeadlineSender.goto (.flush reason (s.pending.filterMap (·.frame))))
  | flush {reason frames} (hs : s.pc = .flush reason frames) :
      Effect aead s (s.flushEgressBuffer reason frames)
  | restore {reason f frames} (hs : s.pc = .restore reason (f :: frames)) :
      Effect aead s ((s.restoreLiveSourceFrame f).goto (.restore reason frames))
  | restored {reason} (hs : s.pc = .restore reason []) : Effect aead s (s.afterInterruption reason)
  | refill {route next f queue egress} (hs : s.pc = .refill route next) (hpop : s.source.queue.pop = some (f, queue))
      (hpush : s.egress.push (f.withEpoch s.playbackEpoch) = .ok egress) :
      Effect aead s { s with
        source := { s.source with queue }, sourceUnderrunActive := false, egress }
  | refillRefused {f queue route next} (hs : s.pc = .refill route next)
      (hpop : s.source.queue.pop = some (f, queue)) :
      Effect aead s { s with
        source := { s.source with queue }
        sourceUnderrunActive := false
        pc := .refillRestore route next (f.withEpoch s.playbackEpoch) }
  | refillRestore {route next f} (hs : s.pc = .refillRestore route next f) :
      Effect aead s ((s.restoreLiveSourceFrame f).goto (afterRefill route next))
  | prepareTrack {route f egress packet preparer} (hs : s.pc = .fillPop route)
      (hpop : s.egress.pop = some (f, egress)) (payload : Bytes)
      (hpacket : s.preparer.prepareAudioPacketWithDurationSamples aead payload
        (audioDurationMsFromSamples f.durationSamples) f.durationSamples = (.ok packet, preparer)) :
      Effect aead s { s with
        egress
        preparer
        prepared := s.prepared ++
          [⟨⟨packet, .track, some (preparedMediaFrame f), s.generation, some f⟩, f⟩]
        pc := .refillStart route .loop }
  | pump {route p prepared} (hs : s.pc = .pump route) (hprepared : s.prepared = p :: prepared)
      (hstopped : s.current.isStopped = false) :
      Effect aead s { s with
        prepared
        current := { s.current with commands := s.current.commands ++ [p.command] }
        pending := s.pending ++ [.new p.command (some p.frame)] }
  | silence {site packet preparer} (hs : s.pc = .silence site) (hdue : s.silenceIsDue site = true)
      (payload : Bytes) (hstopped : s.current.isStopped = false)
      (hpacket : s.preparer.prepareAudioPacketWithDurationSamples aead payload
        (audioDurationMsFromSamples 960) 960 = (.ok packet, preparer)) :
      Effect aead s { s with
        preparer
        current := { s.current with
          commands := s.current.commands ++ [⟨packet, .scheduledSilence, none, s.generation, none⟩] }
        pending := s.pending ++
          [.new ⟨packet, .scheduledSilence, none, s.generation, none⟩ none] }
  | boundary {site left sent packet preparer} (hs : s.pc = .boundary site (left + 1) sent)
      (payload : Bytes) (hstopped : s.current.isStopped = false)
      (hpacket : s.preparer.prepareAudioPacketWithDurationSamples aead payload
        (audioDurationMsFromSamples 960) 960 = (.ok packet, preparer)) :
      Effect aead s { s with
        preparer
        current := { s.current with
          commands := s.current.commands ++ [⟨packet, .boundarySilence, none, s.generation, none⟩] }
        pc := .boundaryWait site left sent }
  | boundarySent {site left sent r rest} (hs : s.pc = .boundaryWait site left sent)
      (hrecords : s.current.sendRecords = r :: rest) :
      Effect aead s { s with
        current := { s.current with sendRecords := rest }
        pc := .boundary site left (sent ++ [r]) }
  | boundaryReport {site sent} (hs : s.pc = .boundary site 0 sent) :
      Effect aead s (s.goto (.boundaryReport site sent))
  | paused {site} (hs : s.pc = .boundaryReport site []) :
      Effect aead s { s with paused := true, pc := afterCommand site }
  | again (hs : s.pc = .commands true) (hpaused : s.paused = true) :
      Effect aead s (s.goto (.invalidateAgain false))
  | invalidateAgain {exiting} (hs : s.pc = .invalidateAgain exiting) :
      Effect aead s (s.invalidatePreparedPlayoutGeneration.goto (.discardAgain exiting))
  | discardAgain (hs : s.pc = .discardAgain false) :
      Effect aead s (s.discardUnsentPreparedPackets.goto .waiting)
  | exit {t : MediaState} {result sendRecords dropRecords} (ht : t.pc = .exited result)
      (hcurrent : t.current = { s.current with sendRecords, dropRecords, dropped := true })
      (hflow : t.playbackEpoch = s.playbackEpoch ∧ t.generation = s.generation ∧
        t.wire = s.wire ∧ t.old = s.old ∧ t.produced = s.produced ∧ t.metrics = s.metrics ∧
        t.sentDurationSamples = s.sentDurationSamples) :
      Effect aead s t

variable {aead : Aead} {s t : MediaState}

@[simp] theorem goto_pc (pc : DriverPc) : (s.goto pc).pc = pc := rfl

@[simp] theorem goto_paused (pc : DriverPc) : (s.goto pc).paused = s.paused := rfl

@[simp] theorem goto_current (pc : DriverPc) : (s.goto pc).current = s.current := rfl

@[simp] theorem goto_flow (pc : DriverPc) : (s.goto pc).flow = s.flow := rfl

theorem sendMetric_flow (m : PlaybackPipelineMetric) :
    (s.sendMetric m).flow = { s.flow with metrics := (s.sendMetric m).metrics } := by
  unfold sendMetric
  split <;> rfl

@[simp] theorem sendMetric_pc (m : PlaybackPipelineMetric) : (s.sendMetric m).pc = s.pc := by
  unfold sendMetric
  split <;> rfl

@[simp] theorem sendMetric_current (m : PlaybackPipelineMetric) :
    (s.sendMetric m).current = s.current :=
  congrArg Flow.current (sendMetric_flow m)

@[simp] theorem sendMetric_paused (m : PlaybackPipelineMetric) :
    (s.sendMetric m).paused = s.paused := by
  unfold sendMetric
  split <;> rfl

theorem consumeMetric_flow (m : PlaybackPipelineMetric) :
    (s.consumeMetric m).flow =
      { s.flow with sentDurationSamples := (s.consumeMetric m).sentDurationSamples } := by
  unfold consumeMetric
  split
  · split <;> rfl
  · rfl

@[simp] theorem consumeMetric_pc (m : PlaybackPipelineMetric) : (s.consumeMetric m).pc = s.pc := by
  unfold consumeMetric
  split
  · split <;> rfl
  · rfl

@[simp] theorem consumeMetric_paused (m : PlaybackPipelineMetric) :
    (s.consumeMetric m).paused = s.paused := by
  unfold consumeMetric
  split
  · split <;> rfl
  · rfl

theorem restoreLiveSourceFrame_flow (f : OpusFrame) :
    (s.restoreLiveSourceFrame f).flow =
      { s.flow with queue := (s.restoreLiveSourceFrame f).source.queue } := by
  unfold restoreLiveSourceFrame
  split <;> rfl

@[simp] theorem restoreLiveSourceFrame_current (f : OpusFrame) :
    (s.restoreLiveSourceFrame f).current = s.current :=
  congrArg Flow.current (restoreLiveSourceFrame_flow f)

@[simp] theorem restoreLiveSourceFrame_paused (f : OpusFrame) :
    (s.restoreLiveSourceFrame f).paused = s.paused := by
  unfold restoreLiveSourceFrame
  split <;> rfl

/-- Interrupted frames join the end of the buffer in their order. -/
theorem restoreInterruptedFrames_inner (queue : OpusFrameQueue) (frames : List OpusFrame) :
    ∃ accepted, accepted.Sublist frames ∧
      (restoreInterruptedFrames queue frames).1 =
        { queue with inner := queue.inner ++ accepted } := by
  induction frames generalizing queue with
  | nil => exact ⟨[], .slnil, by simp [restoreInterruptedFrames]⟩
  | cons f frames ih =>
    simp only [restoreInterruptedFrames]
    cases h : queue.push f with
    | ok q =>
      obtain rfl := OpusFrameQueue.push_ok h
      obtain ⟨accepted, hsub, heq⟩ := ih { queue with inner := queue.inner ++ [f] }
      exact ⟨f :: accepted, hsub.cons_cons f, by simp [heq]⟩
    | error g =>
      obtain ⟨accepted, hsub, heq⟩ := ih queue
      exact ⟨accepted, hsub.cons f, heq⟩

theorem goto_effect {pc pc' : DriverPc} (hpc : s.pc = pc) (hs : pc.calm) (ht : pc'.calm)
    (hr : pc'.records = pc.records)
    (hq : pc.pausable = true → s.paused = true → pc'.pausable = true) :
    Effect aead s (s.goto pc') := by
  subst hpc
  exact .jump hs ht rfl hr id hq

theorem exit_effect (result : DriverResult) : Effect aead s (s.exit result) :=
  .exit rfl rfl ⟨rfl, rfl, rfl, rfl, rfl, rfl, rfl⟩

theorem readSourceDepth_effect {next : MediaState} (h : Effect aead s next) :
    Effect aead s (s.readSourceDepth next) := by
  unfold readSourceDepth
  split
  · exact .exit rfl rfl ⟨rfl, rfl, rfl, rfl, rfl, rfl, rfl⟩
  · exact h

theorem accountSent_effect {r : DeadlineSendRecord} {rest : List DeadlineSendRecord} {pc : DriverPc}
    (hs : s.pc.calm) (hrecords : s.current.sendRecords = r :: rest) (ht : pc.calm)
    (hr : pc.records = s.pc.records ++ [r]) (hq : s.pc.pausable = true → pc.pausable = true) :
    Effect aead s ((s.takeSendRecord rest).accountSent r pc) := by
  unfold accountSent
  split
  · exact .exit rfl rfl ⟨rfl, rfl, rfl, rfl, rfl, rfl, rfl⟩
  · split
    · exact .account hs hrecords ‹_› ‹_› ht hr hq
    · exact .exit rfl rfl ⟨rfl, rfl, rfl, rfl, rfl, rfl, rfl⟩

theorem drainOutcome_effect {site : OutcomeSite} {sent : List DeadlineSendRecord}
    (hpc : s.pc = .outcomes site sent) : Effect aead s (s.drainOutcome site sent) := by
  have hs : s.pc.calm := by rw [hpc]; rfl
  unfold drainOutcome
  split
  · exact accountSent_effect hs ‹_› rfl (by rw [hpc]; rfl) (by rw [hpc]; cases site <;> exact id)
  · split
    · exact exit_effect _
    · split
      · exact .accountDropped hs (by simp [*])
      · exact goto_effect hpc rfl rfl rfl (by cases site <;> simp [DriverPc.pausable])

theorem refillRound_effect {route : Route} {next : FillNext} (hpc : s.pc = .refill route next) :
    Effect aead s (s.refillRound route next) := by
  have hs : s.pc.calm := by rw [hpc]; rfl
  have hr : s.pc.records = [] := by rw [hpc]; rfl
  have hnext : (afterRefill route next).calm ∧ (afterRefill route next).records = [] := by
    cases next <;> exact ⟨rfl, rfl⟩
  unfold refillRound
  split
  · apply readSourceDepth_effect
    split
    · exact .jump hs hnext.1 rfl (hnext.2.trans hr.symm) id (by simp [hpc, DriverPc.pausable])
    · dsimp only
      split
      · exact .refill hpc ‹_› ‹_›
      · rename_i hpush
        obtain rfl := OpusFrameQueue.push_error hpush
        exact .refillRefused hpc ‹_›
  · exact .jump hs hnext.1 rfl (hnext.2.trans hr.symm) id (by simp [hpc, DriverPc.pausable])

theorem prepareTrack_effect {route : Route} {f : OpusFrame} {egress : OpusFrameQueue}
    (hpc : s.pc = .fillPop route) (hpop : s.egress.pop = some (f, egress))
    (answer : Except VoiceError Bytes) :
    Effect aead s (({ s with egress } : MediaState).prepareTrack aead route f answer) := by
  cases answer with
  | error e => exact .exit rfl rfl ⟨rfl, rfl, rfl, rfl, rfl, rfl, rfl⟩
  | ok payload =>
    rcases hpacket : s.preparer.prepareAudioPacketWithDurationSamples aead payload
      (audioDurationMsFromSamples f.durationSamples) f.durationSamples with ⟨e | packet, preparer⟩
    · simp only [prepareTrack, MediaState.prepareCurrentSlotAudioPacket, hpacket]
      exact .exit rfl rfl ⟨rfl, rfl, rfl, rfl, rfl, rfl, rfl⟩
    · simp only [prepareTrack, MediaState.prepareCurrentSlotAudioPacket, hpacket]
      split
      · exact .prepareTrack hpc hpop payload hpacket
      · exact .exit rfl rfl ⟨rfl, rfl, rfl, rfl, rfl, rfl, rfl⟩

theorem pumpRound_effect {route : Route} (hpc : s.pc = .pump route) :
    Effect aead s (s.pumpRound route) := by
  have hs : s.pc.calm := by rw [hpc]; rfl
  have hr : s.pc.records = [] := by rw [hpc]; rfl
  unfold pumpRound
  split
  · exact .jump hs rfl rfl hr.symm id (by simp [hpc, DriverPc.pausable])
  · split
    · exact .jump hs rfl rfl hr.symm id (by simp [hpc, DriverPc.pausable])
    · split
      · exact .exit rfl rfl ⟨rfl, rfl, rfl, rfl, rfl, rfl, rfl⟩
      · exact .pump hpc ‹_› (Bool.eq_false_of_not_eq_true ‹_›)

theorem applyCommand_effect {site : CommandSite} {command : MediaCommand} {answer : DriverAnswer}
    (hpc : s.pc = .apply site command) (h : s.applyCommand site command answer = some t) :
    Effect aead s t := by
  have hs : s.pc.calm := by rw [hpc]; rfl
  have hr : s.pc.records = [] := by rw [hpc]; rfl
  have hnext : (afterCommand site).calm ∧ (afterCommand site).records = [] ∧
      (afterCommand site).pausable := by
    cases site <;> exact ⟨rfl, rfl, rfl⟩
  cases command with
  | pause =>
    cases answer <;> simp only [applyCommand, Option.some.injEq, reduceCtorEq] at h
    subst h
    split_ifs with hpaused
    · exact goto_effect hpc rfl hnext.1 hnext.2.1 fun _ _ ↦ hnext.2.2
    · exact goto_effect hpc rfl rfl rfl fun _ h ↦ absurd h hpaused
  | resume =>
    cases answer <;> simp only [applyCommand, reduceCtorEq] at h
    split_ifs at h
    · split at h
      · cases h
        exact .jump hs hnext.1 rfl (hnext.2.1.trans hr.symm) (fun h ↦ nomatch h) fun _ _ ↦ hnext.2.2
      · cases h
        exact .exit rfl rfl ⟨rfl, rfl, rfl, rfl, rfl, rfl, rfl⟩
    · cases h
      exact goto_effect hpc rfl hnext.1 hnext.2.1 fun _ _ ↦ hnext.2.2
  | stop skipped =>
    cases answer <;> simp only [applyCommand, Option.some.injEq, reduceCtorEq] at h
    subst h
    exact goto_effect hpc rfl rfl rfl fun _ _ ↦ rfl

theorem receiveCommand_effect {site : CommandSite} (hs : s.pc.calm) (hr : s.pc.records = [])
    (h : s.receiveCommand site = some t) : Effect aead s t := by
  simp only [receiveCommand] at h
  split at h
  · cases h
    exact .jump hs rfl rfl hr.symm id fun _ _ ↦ rfl
  · split_ifs at h
    cases h
    exact exit_effect _

theorem selectSent_effect {next : DeadlineSendRecord → MediaState → MediaState}
    (hnext : ∀ r rest, s.current.sendRecords = r :: rest →
      Effect aead s (next r (s.takeSendRecord rest)))
    (h : s.selectSent next = some t) : Effect aead s t := by
  simp only [selectSent] at h
  split at h
  · cases h
    exact hnext _ _ ‹_›
  · split_ifs at h
    cases h
    exact exit_effect _

theorem prepareSilence_effect {kind : PreparedPacketKind}
    {next : PreparedPlayoutCommand → MediaState → MediaState} (answer : Except VoiceError Bytes)
    (hnext : ∀ payload packet preparer, s.current.isStopped = false →
      s.preparer.prepareAudioPacketWithDurationSamples aead payload
        (audioDurationMsFromSamples 960) 960 = (.ok packet, preparer) →
      Effect aead s (next ⟨packet, kind, none, s.generation, none⟩ { s with
        preparer
        current := { s.current with
          commands := s.current.commands ++ [⟨packet, kind, none, s.generation, none⟩] } })) :
    Effect aead s (s.prepareSilence aead kind next answer) := by
  cases answer with
  | error e => exact exit_effect _
  | ok payload =>
    rcases hpacket : s.preparer.prepareAudioPacketWithDurationSamples aead payload
      (audioDurationMsFromSamples 960) 960 with ⟨e | packet, preparer⟩
    · simp only [prepareSilence, MediaState.prepareCurrentSlotAudioPacket, hpacket]
      exact .exit rfl rfl ⟨rfl, rfl, rfl, rfl, rfl, rfl, rfl⟩
    · simp only [prepareSilence, MediaState.prepareCurrentSlotAudioPacket, hpacket]
      split
      · exact .exit rfl rfl ⟨rfl, rfl, rfl, rfl, rfl, rfl, rfl⟩
      · exact hnext payload packet preparer (Bool.eq_false_of_not_eq_true ‹_›) hpacket

/-- Every step of the driver has one of the effects above. -/
theorem driverStep_effect {answer : DriverAnswer} (h : s.driverStep aead answer = some t) :
    Effect aead s t := by
  cases hpc : s.pc
  case apply site command =>
    simp only [driverStep, hpc] at h
    exact applyCommand_effect hpc h
  case report site sent =>
    rcases sent with _ | ⟨r, sent⟩ <;> cases answer <;>
      simp only [driverStep, hpc, Option.some.injEq, reduceCtorEq] at h
    · subst h
      cases site <;> exact goto_effect hpc rfl rfl rfl (by simp [DriverPc.pausable, afterReport])
    · subst h
      exact .report (by rw [hpc]; rfl) (by rw [hpc]; cases site <;> exact id)
        (.inl ⟨by rw [hpc]; rfl, rfl⟩) (.inl ⟨site, sent, hpc⟩)
  case boundaryReport site sent =>
    rcases sent with _ | ⟨r, sent⟩ <;> cases answer <;>
      simp only [driverStep, hpc, Option.some.injEq, reduceCtorEq] at h
    · subst h
      exact .paused hpc
    · subst h
      exact .report (by rw [hpc]; rfl) (by simp [hpc, DriverPc.pausable])
        (.inr ⟨site, sent, hpc, rfl⟩) (.inr ⟨site, sent, hpc⟩)
  case restore reason frames =>
    rcases frames with _ | ⟨f, frames⟩ <;> cases answer <;>
      simp only [driverStep, hpc, Option.some.injEq, reduceCtorEq] at h
    · subst h
      exact .restored hpc
    · subst h
      exact .restore hpc
  case boundary site left sent =>
    rcases left with _ | left <;> cases answer <;>
      simp only [driverStep, hpc, reduceCtorEq] at h
    · split at h
      · cases h
        exact .boundaryReport hpc
      · cases h
        exact exit_effect _
    · split_ifs at h
      cases h
      exact prepareSilence_effect _ fun payload packet preparer hstopped hpacket ↦
        .boundary hpc payload hstopped hpacket
  case replace reason =>
    cases answer with
    | session answer =>
      cases answer <;> simp only [driverStep, hpc, Option.some.injEq] at h
      · subst h
        exact exit_effect _
      · subst h
        exact .replace hpc
    | _ => simp [driverStep, hpc] at h
  all_goals
    cases answer <;> simp only [driverStep, hpc, Option.some.injEq, reduceCtorEq] at h
  case top.go =>
    subst h
    split <;> exact goto_effect hpc rfl rfl rfl (by simp [DriverPc.pausable])
  case ready.go site =>
    subst h
    exact readSourceDepth_effect
      (goto_effect hpc rfl rfl rfl (by cases site <;> simp [DriverPc.pausable]))
  case outcomes.go site sent =>
    subst h
    exact drainOutcome_effect hpc
  case commands.go second =>
    split at h
    · cases h
      have hs : s.pc.calm := by rw [hpc]; rfl
      exact .jump hs rfl rfl (by rw [hpc]; rfl) id fun _ _ ↦ rfl
    · cases h
      cases second <;> cases hpaused : s.paused
      · exact goto_effect hpc rfl rfl rfl (by simp [DriverPc.pausable, hpaused])
      · exact goto_effect hpc rfl rfl rfl (by simp [DriverPc.pausable])
      · exact goto_effect hpc rfl rfl rfl (by simp [DriverPc.pausable, hpaused])
      · exact .again hpc hpaused
  case waiting.go =>
    subst h
    split_ifs
    · exact goto_effect hpc rfl rfl rfl (by simp [DriverPc.pausable])
    · exact goto_effect hpc rfl rfl rfl (by simp [DriverPc.pausable])
    · exact exit_effect _
  case waitingCommand.command => exact receiveCommand_effect (by rw [hpc]; rfl) (by rw [hpc]; rfl) h
  case waitingCommand.sleep =>
    subst h
    exact goto_effect hpc rfl rfl rfl (by simp [DriverPc.pausable])
  case sourceCheck.go =>
    split_ifs at h
    · cases h
      exact readSourceDepth_effect (.jump (by rw [hpc]; rfl) rfl rfl (by rw [hpc]; rfl) id
        (by simp [hpc, DriverPc.pausable]))
    · cases h
      exact goto_effect hpc rfl rfl rfl (by simp [DriverPc.pausable])
  case gateway.drained daveTransition =>
    subst h
    cases daveTransition <;> exact goto_effect hpc rfl rfl rfl (by simp [DriverPc.pausable])
  case gateway.settled =>
    subst h
    exact goto_effect hpc rfl rfl rfl (by simp [DriverPc.pausable])
  case gateway.gatewayFailed =>
    subst h
    exact exit_effect _
  case invalidate.go reason =>
    subst h
    exact .invalidate hpc
  case discard.go reason =>
    subst h
    exact .discard hpc
  case flush.go reason frames =>
    subst h
    exact .flush hpc
  case refillStart.go route next =>
    subst h
    exact readSourceDepth_effect (goto_effect hpc rfl rfl rfl (by simp [DriverPc.pausable]))
  case refill.go route next =>
    subst h
    exact refillRound_effect hpc
  case refillRestore.go route next f =>
    subst h
    exact .refillRestore hpc
  case fillLoop.go route =>
    subst h
    unfold fillRound
    split_ifs <;> exact goto_effect hpc rfl rfl rfl (by simp [DriverPc.pausable])
  case fillPop.session route answer =>
    split at h
    · cases h
      exact goto_effect hpc rfl rfl rfl (by simp [DriverPc.pausable])
    · cases h
      rw [← hpc]
      exact prepareTrack_effect hpc ‹_› answer
  case pump.go route =>
    subst h
    exact pumpRound_effect hpc
  case silence.session site answer =>
    split_ifs at h with hdue
    · cases h
      exact prepareSilence_effect answer fun payload packet preparer hstopped hpacket ↦
        .silence hpc hdue payload hstopped hpacket
    · cases h
      cases site with
      | after route => cases route <;> exact goto_effect hpc rfl rfl rfl (by simp [DriverPc.pausable])
      | underrun => exact goto_effect hpc rfl rfl rfl (by simp [DriverPc.pausable])
  case secondCheck.go =>
    subst h
    split <;> exact goto_effect hpc rfl rfl rfl (by simp [DriverPc.pausable])
  case invalidateAgain.go exiting =>
    subst h
    exact .invalidateAgain hpc
  case discardAgain.go exiting =>
    subst h
    cases exiting
    · exact .discardAgain hpc
    · exact .exit rfl rfl ⟨rfl, rfl, rfl, rfl, rfl, rfl, rfl⟩
  case endCheck.go =>
    split_ifs at h
    · cases h
      exact exit_effect _
    · cases h
      exact .jump (by rw [hpc]; rfl) rfl rfl (by rw [hpc]; rfl) id
        (by simp [hpc, DriverPc.pausable])
    · cases h
      exact goto_effect hpc rfl rfl rfl (by simp [DriverPc.pausable])
  case select.sentRecord =>
    refine selectSent_effect (fun r rest hrecords ↦ ?_) h
    exact accountSent_effect (by rw [hpc]; rfl) hrecords rfl (by rw [hpc]; rfl)
      (by simp [hpc, DriverPc.pausable])
  case select.dropRecord =>
    simp only [selectDropped] at h
    split at h
    · exact .accountDropped (by rw [hpc]; rfl) (by simp [*])
    · split_ifs at h
      cases h
      exact exit_effect _
  case select.command => exact receiveCommand_effect (by rw [hpc]; rfl) (by rw [hpc]; rfl) h
  case boundaryWait.sentRecord site left sent =>
    refine selectSent_effect (fun r rest hrecords ↦ ?_) h
    split
    · exact .boundarySent hpc hrecords
    · exact .exit rfl rfl ⟨rfl, rfl, rfl, rfl, rfl, rfl, rfl⟩
  case boundaryWait.dropRecord site left sent =>
    simp only [selectDropped] at h
    split at h
    · cases h
      exact .exit rfl rfl ⟨rfl, rfl, rfl, rfl, rfl, rfl, rfl⟩
    · split_ifs at h
      cases h
      exact exit_effect _

/-- The producer only ever adds to the end of the source queue. -/
theorem pushAll_inner (queue : OpusFrameQueue) (frames : List OpusFrame) :
    (MediaState.pushAll queue frames).1 =
      { queue with inner := queue.inner ++ (MediaState.pushAll queue frames).2 } := by
  induction frames generalizing queue with
  | nil => simp [MediaState.pushAll]
  | cons f frames ih =>
    simp only [MediaState.pushAll]
    cases h : queue.push f with
    | error g => simp
    | ok q =>
      obtain rfl := OpusFrameQueue.push_ok h
      simp only [ih { queue with inner := queue.inner ++ [f] }, List.append_assoc,
        List.singleton_append]

/-- What one action can do: a step of the driver, of one of the senders, of the producer or of the
consumer, or something that leaves frames and packets alone. -/
inductive Happens (aead : Aead) (s : MediaState) : Action → MediaState → Prop
  | driver {answer t} (he : Effect aead s t) : Happens aead s (.driver answer) t
  | sender {socketOk d w} (hmove : DeadlineSender.Move s.generation s.current s.wire d w) :
      Happens aead s (.sender socketOk) { s with current := d, wire := w }
  | oldSender {i socketOk d d' w} (hget : s.old[i]? = some d)
      (hmove : DeadlineSender.Move s.generation d s.wire d' w) :
      Happens aead s (.oldSender i socketOk) { s with old := s.old.set i d', wire := w }
  | produced {frames ended} {t : MediaState} (pushed : List OpusFrame) (hpc : t.pc = s.pc)
      (hpaused : t.paused = s.paused)
      (hflow : t.flow = { s.flow with
        queue := { s.flow.queue with inner := s.flow.queue.inner ++ pushed }
        produced := s.produced ++ pushed }) : Happens aead s (.produce frames ended) t
  | metric : Happens aead s .otherMetric (s.sendMetric .other)
  | consumed {m metrics} (hmetrics : s.metrics = m :: metrics) :
      Happens aead s .consume (({ s with metrics } : MediaState).consumeMetric m)
  | apart {action} {t : MediaState} (ha : ∀ answer, action ≠ .driver answer) (hpc : t.pc = s.pc)
      (hpaused : t.paused = s.paused) (hflow : t.flow = s.flow) : Happens aead s action t

theorem step_happens {action : Action} (h : s.step aead action = some t) :
    Happens aead s action t := by
  cases action <;> simp only [step] at h
  case driver answer => exact .driver (driverStep_effect h)
  case sender socketOk =>
    obtain ⟨⟨d, w⟩, hstep, rfl⟩ := Option.map_eq_some_iff.mp h
    exact .sender (DeadlineSender.step_move hstep)
  case oldSender index socketOk =>
    obtain ⟨d, hget, h⟩ := Option.bind_eq_some_iff.mp h
    obtain ⟨⟨d', w⟩, hstep, rfl⟩ := Option.map_eq_some_iff.mp h
    exact .oldSender hget (DeadlineSender.step_move hstep)
  case produce frames ended =>
    split_ifs at h
    all_goals
      cases h
      refine .produced (MediaState.pushAll s.source.queue frames).2 rfl rfl ?_
      simp only [flow, Flow.mk.injEq, true_and, and_true]
      exact pushAll_inner s.source.queue frames
  case produceFailed err =>
    split_ifs at h
    cases h
    exact .apart (by simp) rfl rfl rfl
  case otherMetric =>
    cases h
    exact .metric
  case consume =>
    split_ifs at h
    split at h
    · cases h
      exact .consumed ‹_›
    · cases h
  case finish =>
    split at h
    · split_ifs at h
      cases h
      exact .apart (by simp) rfl rfl rfl
    · cases h
  all_goals
    cases h
    exact .apart (by simp) rfl rfl rfl

end DiscordVoice.Media
