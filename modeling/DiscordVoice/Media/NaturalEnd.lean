import DiscordVoice.Media.Outstanding

namespace DiscordVoice.Media

open Voice Playback MediaState Schedule

def DriverPc.collected : DriverPc → List OpusFrame
  | .flush _ frames => frames
  | _ => []

def Flow.framesAhead (m : Flow) : List OpusFrame :=
  m.pending.filterMap (·.frame) ++ preparedFrames m.prepared ++ m.egress.inner

/-- Whatever went through the egress buffer fits into it when it is empty. -/
def Fitting (s : MediaState) : Prop :=
  (∀ result, s.pc ≠ .exited result) →
    ∀ f ∈ s.pc.collected ++ s.flow.framesAhead, s.egress.cleared.canFitFrame f = true

theorem collected_of_calm {pc : DriverPc} (h : pc.calm = true) : pc.collected = [] := by
  cases pc <;> first | rfl | cases h

namespace Fitting

variable {aead : Aead} {s t : MediaState}

theorem of_subset (h : Fitting s) (hs : ∀ result, s.pc ≠ .exited result)
    (hegress : t.egress.cleared = s.egress.cleared)
    (hsub : ∀ f ∈ t.pc.collected ++ t.flow.framesAhead, f ∈ s.pc.collected ++ s.flow.framesAhead) :
    Fitting t := by
  intro _ f hf
  rw [hegress]
  exact h hs f (hsub f hf)

theorem of_flow {generation : ℕ} {current : DeadlineSender} {preparer : VoicePacketPreparer}
    {queue : OpusFrameQueue} {metrics : List PlaybackPipelineMetric} (h : Fitting s)
    (hs : ∀ result, s.pc ≠ .exited result) (ht : t.pc.collected = [])
    (hm : t.flow = { s.flow with generation, current, preparer, queue, metrics }) : Fitting t := by
  have hahead : t.flow.framesAhead = s.flow.framesAhead := by
    rw [hm]
    rfl
  refine h.of_subset hs ?_ ?_
  · rw [show t.egress = s.egress from congrArg Flow.egress hm]
  · rw [ht, hahead]
    exact fun f hf ↦ List.mem_append_right _ hf

theorem not_exited_of_calm (h : s.pc.calm = true) (result : DriverResult) :
    s.pc ≠ .exited result := by
  rintro hpc
  simp [hpc, DriverPc.calm] at h

theorem effect (h : Fitting s) (hc : Connected s) (he : Effect aead s t) : Fitting t := by
  cases he with
  | jump hs ht hm => exact h.of_flow (not_exited_of_calm hs) (collected_of_calm ht) hm
  | account hs hrecords hpending hmatch ht =>
    refine h.of_subset (not_exited_of_calm hs) rfl fun f hf ↦ ?_
    rw [collected_of_calm ht] at hf
    simp only [Flow.framesAhead, flow, hpending, List.filterMap_cons] at hf ⊢
    split
    · simp_all
    · simp_all only [List.nil_append, List.mem_append, List.mem_cons]
      tauto
  | accountDropped hs hdropped => exact absurd (hc.linked (link_of_calm hs)).noDrops hdropped
  | report hs hq hpc =>
    rcases hpc with ⟨hscalm, hcalm⟩ | ⟨site, sent, hspc, rfl⟩
    · exact h.of_flow (not_exited_of_calm hscalm) (collected_of_calm hcalm) (sendMetric_flow _)
    · exact h.of_flow (by simp [hspc]) rfl (sendMetric_flow _)
  | replace hs =>
    refine h.of_subset (by simp [hs]) rfl fun f hf ↦ ?_
    simp only [DriverPc.collected, Flow.framesAhead, flow, goto, replaceDeadlineSender,
      List.filterMap_nil, List.nil_append, List.mem_append, hs] at hf ⊢
    tauto
  | @flush reason frames hs =>
    obtain ⟨accepted, hsub, heq⟩ := restoreInterruptedFrames_inner s.egress.cleared
      (frames ++ preparedFrames s.prepared ++ s.egress.inner)
    refine h.of_subset (by simp [hs]) ?_ fun f hf ↦ ?_
    · rw [flushEgressBuffer]
      simp only [heq]
      rfl
    · simp only [flushEgressBuffer, DriverPc.collected, Flow.framesAhead, flow, heq] at hf
      simp only [OpusFrameQueue.cleared, preparedFrames, List.map_nil, List.nil_append,
        List.append_nil, List.mem_append] at hf
      simp only [hs, DriverPc.collected, Flow.framesAhead, flow, List.mem_append]
      rcases hf with hf | hf
      · exact .inr (.inl (.inl hf))
      · have := hsub.mem hf
        simp only [List.mem_append] at this
        tauto
  | restore hs => exact h.of_flow (by simp [hs]) rfl (restoreLiveSourceFrame_flow _)
  | @restored reason hs =>
    cases reason with
    | pause site => exact h.of_flow (by simp [hs]) rfl rfl
    | stop site =>
      cases site with
      | second => exact h.of_flow (by simp [hs]) rfl rfl
      | _ => exact fun hne ↦ absurd rfl (hne _)
    | stale => exact fun hne ↦ absurd rfl (hne _)
    | dave route => exact h.of_flow (by simp [hs]) rfl rfl
  | @refill route next f queue egress hs hpop hpush =>
    have hfits := OpusFrameQueue.canFitFrame_cleared (OpusFrameQueue.canFitFrame_of_push hpush)
    obtain rfl := OpusFrameQueue.push_ok hpush
    intro _ g hg
    simp only [hs, DriverPc.collected, Flow.framesAhead, flow, List.nil_append, ← List.append_assoc,
      List.mem_append, List.mem_singleton] at hg
    rcases hg with hg | rfl
    · refine h (by simp [hs]) g ?_
      simp only [hs, DriverPc.collected, Flow.framesAhead, flow, List.nil_append, List.mem_append]
      exact hg
    · exact hfits
  | refillRefused hs => exact h.of_flow (by simp [hs]) rfl rfl
  | @refillRestore route next f hs =>
    exact h.of_flow (by simp [hs]) (by cases next <;> rfl) (restoreLiveSourceFrame_flow _)
  | @prepareTrack route f egress packet preparer hs hpop payload hpacket =>
    obtain ⟨hinner, hlimits⟩ := OpusFrameQueue.pop_some hpop
    refine h.of_subset (by simp [hs]) (by rw [hlimits]; rfl) fun g hg ↦ ?_
    simp only [DriverPc.collected, Flow.framesAhead, flow, preparedFrames, List.map_append,
      List.map_cons, List.map_nil, List.nil_append, List.mem_append, hs, hinner, List.mem_cons] at hg ⊢
    tauto
  | @pump route p prepared hs hprepared hstopped =>
    refine h.of_subset (by simp [hs]) rfl fun g hg ↦ ?_
    simp only [DriverPc.collected, Flow.framesAhead, flow, preparedFrames, List.filterMap_append,
      PendingDeadlineCommand.new, List.filterMap_cons, List.filterMap_nil, hprepared,
      List.map_cons, List.nil_append, List.mem_append, hs, List.mem_cons] at hg ⊢
    tauto
  | silence hs =>
    refine h.of_subset (by simp [hs]) rfl fun g hg ↦ ?_
    simpa [Flow.framesAhead, flow, PendingDeadlineCommand.new] using hg
  | invalidate hs | discard hs | boundary hs | boundarySent hs | boundaryReport hs | again hs
    | invalidateAgain hs | discardAgain hs => exact h.of_flow (by simp [hs]) rfl rfl
  | @paused site hs => exact h.of_flow (by simp [hs]) (by cases site <;> rfl) rfl
  | exit ht => exact fun hne ↦ absurd ht (hne _)

theorem congr (h : Fitting s) (hpc : t.pc = s.pc) (hegress : t.egress = s.egress)
    (hprepared : t.prepared = s.prepared) (hpending : t.pending = s.pending) : Fitting t := by
  unfold Fitting Flow.framesAhead flow
  simp only [hpc, hegress, hprepared, hpending]
  exact h

theorem happens {action : Action} (h : Fitting s) (hc : Connected s)
    (hstep : Happens aead s action t) : Fitting t := by
  cases hstep with
  | driver he => exact h.effect hc he
  | sender hmove => exact h.congr rfl rfl rfl rfl
  | oldSender hget hmove => exact h.congr rfl rfl rfl rfl
  | produced pushed hpc hpaused hflow | apart ha hpc hpaused hflow =>
    exact h.congr hpc (congrArg Flow.egress hflow) (congrArg Flow.prepared hflow)
      (congrArg Flow.pending hflow)
  | metric =>
    have hflow := sendMetric_flow (s := s) .other
    exact h.congr (sendMetric_pc _) (congrArg Flow.egress hflow)
      (congrArg Flow.prepared hflow) (congrArg Flow.pending hflow)
  | @consumed m metrics hmetrics =>
    have hflow := consumeMetric_flow (s := { s with metrics }) m
    exact h.congr (consumeMetric_pc _) (congrArg Flow.egress hflow) (congrArg Flow.prepared hflow)
      (congrArg Flow.pending hflow)

end Fitting

def Closed (s : MediaState) : Prop := s.current.isStopped = true → s.current.commands = []

theorem Closed.sender {s : MediaState} {d : DeadlineSender} {w : Wire}
    (hmove : DeadlineSender.Move s.generation s.current s.wire d w) :
    Closed { s with current := d, wire := w } := by
  unfold Closed
  cases hmove with
  | idle hd hpc => rcases hpc with rfl | rfl <;> simp [DeadlineSender.isStopped]
  | drop hd _ =>
    unfold DeadlineSender.emitDrop
    split_ifs <;> simp [DeadlineSender.isStopped, DeadlineSender.stop]
  | record hd =>
    unfold DeadlineSender.emitSent
    split_ifs <;> simp [DeadlineSender.isStopped, DeadlineSender.stop]
  | _ => simp [DeadlineSender.isStopped, DeadlineSender.stop]

theorem Closed.effect {aead : Aead} {s t : MediaState} (h : Closed s) (hc : Connected s)
    (he : Effect aead s t) : Closed t := by
  cases he with
  | jump hs ht hm =>
    unfold Closed
    rw [show t.current = s.current from congrArg Flow.current hm]
    exact h
  | accountDropped hs hdropped => exact absurd (hc.linked (link_of_calm hs)).noDrops hdropped
  | report =>
    unfold Closed at h ⊢
    simpa using h
  | replace hs => exact fun h ↦ (nomatch h)
  | restore hs | refillRestore hs =>
    unfold Closed at h ⊢
    simpa using h
  | @restored reason hs =>
    cases reason with
    | stop site => cases site <;> exact h
    | _ => exact h
  | pump hs hprepared hstopped | silence hs hdue payload hstopped | boundary hs payload hstopped =>
    exact fun h ↦ by simp_all [DeadlineSender.isStopped]
  | exit ht hcurrent =>
    unfold Closed
    rw [hcurrent]
    exact h
  | _ => exact h

theorem Closed.happens {aead : Aead} {s t : MediaState} {action : Action} (h : Closed s)
    (hc : Connected s) (hstep : Happens aead s action t) : Closed t := by
  cases hstep with
  | driver he => exact h.effect hc he
  | sender hmove => exact Closed.sender hmove
  | oldSender hget hmove => exact h
  | produced pushed hpc hpaused hflow | apart ha hpc hpaused hflow =>
    unfold Closed
    rw [show t.current = s.current from congrArg Flow.current hflow]
    exact h
  | metric =>
    unfold Closed at h ⊢
    simpa using h
  | @consumed m metrics hmetrics =>
    unfold Closed
    rw [show (({ s with metrics } : MediaState).consumeMetric m).current = s.current from
      congrArg Flow.current (consumeMetric_flow m)]
    exact h

theorem commands_eq_nil_of_pending {m : Flow} (h : Aligned m)
    (hclosed : m.current.isStopped = true → m.current.commands = []) (hpending : m.pending = []) :
    m.current.commands = [] := by
  by_cases hstopped : m.current.isStopped = true
  · exact hclosed hstopped
  · obtain ⟨sent, unsent, -, hlist, hunsent⟩ := h.inOrder
    rw [hpending] at hlist
    have hnil := List.map_eq_nil_iff.mp hlist.symm
    have hwaiting : m.current.waiting = [] := by
      rw [← hunsent (Bool.eq_false_of_not_eq_true hstopped)]
      exact (List.append_eq_nil_iff.mp hnil).2
    simp only [DeadlineSender.waiting] at hwaiting
    split at hwaiting <;> first | exact hwaiting | cases hwaiting

/-- Nothing of the track is left to play. -/
structure Spent (s : MediaState) : Prop where
  source : s.source.queue.inner = []
  egress : s.egress.inner = []
  prepared : s.prepared = []
  pending : s.pending = []

/-- After a pause or a stop the driver does not look for the natural end at the end of the batch. -/
def interrupts : MediaCommand → Bool
  | .pause | .stop _ => true
  | .resume => false

theorem Spent.goto {s : MediaState} (h : Spent s) (pc : DriverPc) : Spent (s.goto pc) :=
  ⟨h.source, h.egress, h.prepared, h.pending⟩

/-- What the driver may rely on at each point while the source counts as ended. -/
def Stage (s : MediaState) : DriverPc → Prop
  | .gateway | .ready (.dave _) | .outcomes (.dave _) _ | .report (.dave _) _ =>
    s.source.queue.inner = []
  | .invalidate (.dave _) | .discard (.dave _) | .replace (.dave _) | .flush (.dave _) _ =>
    s.source.queue.inner = []
  | .restore (.dave _) frames => s.source.queue.inner = [] ∧ frames = [] ∨ s.egress.inner ≠ []
  | .refillStart _ _ | .refill _ _ | .fillLoop _ | .fillPop _ =>
    s.egress.inner = [] → s.prepared = [] → s.pending = [] → Spent s
  | .refillRestore _ _ _ => False
  | .pump _ => s.prepared = [] → s.pending = [] → Spent s
  | .silence (.after _) | .secondCheck | .endCheck => s.pending = [] → Spent s
  | .commands true => s.paused = false → s.pending = [] → Spent s ∨ s.mailbox.any interrupts
  | .apply .second command =>
    s.paused = false → s.pending = [] → Spent s ∨ (command :: s.mailbox).any interrupts
  | .exited (.ok true) => Spent s
  | _ => True

structure Ending (s : MediaState) : Prop where
  producer : s.source.endOfStream = true → s.producerDone = true
  ended : s.sourceEnded = true → s.source.endOfStream = true
  stage : s.sourceEnded = true → Stage s s.pc
  natural : s.pc = .exited (.ok true) → s.sourceEnded = true

/-- A resume that ends a pause of the same batch leaves no frame behind an ended source, or has
another interruption behind it. -/
def resumesDry (s : MediaState) : Action → Bool
  | .driver _ =>
    match s.pc with
    | .apply .second .resume =>
      !s.paused || !s.sourceEnded || s.mailbox.any interrupts ||
        s.egress.inner.isEmpty && s.source.queue.inner.isEmpty
    | _ => true
  | _ => true

namespace Ending

variable {aead : Aead} {s t : MediaState}

theorem moved (h : Ending s) (hproducer : t.producerDone = s.producerDone)
    (hstream : t.source.endOfStream = s.source.endOfStream)
    (hended : t.sourceEnded = true → s.sourceEnded = true) (hpc : t.pc ≠ .exited (.ok true))
    (hstage : s.sourceEnded = true → Stage s s.pc → Stage t t.pc) : Ending t where
  producer ht := by
    rw [hproducer]
    exact h.producer (hstream ▸ ht)
  ended ht := by
    rw [hstream]
    exact h.ended (hended ht)
  stage ht := hstage (hended ht) (h.stage (hended ht))
  natural ht := absurd ht hpc

theorem failed (h : Ending s) {result : DriverResult} (hresult : result ≠ .ok true)
    (hpc : t.pc = .exited result) (hproducer : t.producerDone = s.producerDone)
    (hstream : t.source.endOfStream = s.source.endOfStream)
    (hended : t.sourceEnded = s.sourceEnded) : Ending t := by
  refine h.moved hproducer hstream (fun ht ↦ hended ▸ ht) ?_ ?_
  · rw [hpc]
    exact fun heq ↦ hresult (DriverPc.exited.inj heq)
  · intro _ _
    rw [hpc]
    cases result with
    | error => trivial
    | ok natural =>
      cases natural
      · trivial
      · exact absurd rfl hresult

theorem readSourceDepth {next : MediaState} (h : Ending s) (hnext : Ending next) :
    Ending (s.readSourceDepth next) := by
  unfold MediaState.readSourceDepth
  split
  · exact h.failed (by simp) rfl rfl rfl rfl
  · exact hnext

theorem goto {pc pc' : DriverPc} (h : Ending s) (hpc : s.pc = pc)
    (hexit : pc' ≠ .exited (.ok true)) (hstage : Stage s pc → Stage (s.goto pc') pc') :
    Ending (s.goto pc') :=
  h.moved rfl rfl id hexit fun _ hs ↦ hstage (hpc ▸ hs)

theorem accountSent {r : DeadlineSendRecord} {rest : List DeadlineSendRecord} {pc : DriverPc}
    (h : Ending s) (hexit : pc ≠ .exited (.ok true))
    (hstage : ∀ t : MediaState, t.source = s.source → Stage s s.pc → Stage t pc) :
    Ending ((s.takeSendRecord rest).accountSent r pc) := by
  unfold MediaState.accountSent
  split
  · exact h.failed (by simp) rfl rfl rfl rfl
  · split
    · exact h.moved rfl rfl id hexit fun _ hs ↦ hstage _ rfl hs
    · exact h.failed (by simp) rfl rfl rfl rfl

theorem drainOutcome {site : OutcomeSite} {sent : List DeadlineSendRecord} (h : Ending s)
    (hc : Connected s) (hpc : s.pc = .outcomes site sent) : Ending (s.drainOutcome site sent) := by
  unfold MediaState.drainOutcome
  split
  · refine h.accountSent (by simp) fun t ht hs ↦ ?_
    rw [hpc] at hs
    cases site <;> simp_all only [Stage]
  · split
    · exact h.failed (by simp) rfl rfl rfl rfl
    · split
      · have hnone : s.current.dropRecords = [] := (hc.linked (by rw [hpc]; rfl)).noDrops
        simp_all
      · exact h.goto hpc (by simp) fun hs ↦ by cases site <;> exact hs

theorem receiveCommand {site : CommandSite} (h : Ending s) (hsite : site ≠ .second)
    (hr : s.receiveCommand site = some t) : Ending t := by
  simp only [MediaState.receiveCommand] at hr
  split at hr
  · cases hr
    refine h.moved rfl rfl id (by simp) fun _ _ ↦ ?_
    cases site <;> trivial
  · split_ifs at hr
    cases hr
    exact h.failed (by simp) rfl rfl rfl rfl

theorem applyCommand {site : CommandSite} {command : MediaCommand} {answer answer' : DriverAnswer}
    (h : Ending s) (hc : Connected s) (hok : resumesDry s (.driver answer') = true)
    (hpc : s.pc = .apply site command) (ht : s.applyCommand site command answer = some t) :
    Ending t := by
  have hexit : afterCommand site ≠ .exited (.ok true) := by cases site <;> simp [afterCommand]
  cases command with
  | pause =>
    cases answer <;> simp only [MediaState.applyCommand, Option.some.injEq, reduceCtorEq] at ht
    subst ht
    split_ifs with hpaused
    · refine h.goto hpc hexit fun _ ↦ ?_
      cases site <;> first | trivial | exact fun hp ↦ by simp [MediaState.goto, hpaused] at hp
    · exact h.goto hpc (by simp) fun _ ↦ trivial
  | resume =>
    cases answer <;> simp only [MediaState.applyCommand, reduceCtorEq] at ht
    split_ifs at ht with hpaused
    · obtain ⟨-, hquiet, hnone⟩ := hc.paused_calm (by simp [hpc]) hpaused
      split at ht
      · cases ht
        refine h.moved rfl rfl id hexit fun hended _ ↦ ?_
        cases site with
        | second =>
          simp only [resumesDry, hpc, hpaused, hended, Bool.not_true, Bool.false_or, Bool.or_eq_true,
            Bool.and_eq_true, List.isEmpty_iff] at hok
          exact fun _ _ ↦ hok.symm.imp (fun hdry ↦ ⟨hdry.2, hdry.1, hnone, hquiet.nonePending⟩) id
        | _ => trivial
      · cases ht
        exact h.failed (by simp) rfl rfl rfl rfl
    · cases ht
      refine h.goto hpc hexit fun hs ↦ ?_
      cases site <;> first | trivial | exact fun hp hn ↦ (hs hp hn).imp (·.goto _) id
  | stop skipped =>
    cases answer <;> simp only [MediaState.applyCommand, Option.some.injEq, reduceCtorEq] at ht
    subst ht
    exact h.goto hpc (by simp) fun _ ↦ trivial

/-- The first interrupted frame always finds room in the emptied buffer. -/
theorem flush {reason : Interruption} {frames : List OpusFrame} (h : Ending s) (hf : Fitting s)
    (hpc : s.pc = .flush reason frames) : Ending (s.flushEgressBuffer reason frames) := by
  refine h.moved rfl rfl id (by simp [flushEgressBuffer]) fun _ hs ↦ ?_
  rw [hpc] at hs
  cases reason with
  | dave route =>
    rcases hall : frames ++ preparedFrames s.prepared ++ s.egress.inner with _ | ⟨f, rest⟩
    · exact .inl ⟨hs, by simp [hall, restoreInterruptedFrames]⟩
    · refine .inr ?_
      have hfit : s.egress.cleared.canFitFrame f = true := by
        apply hf (by simp [hpc])
        have hmem : f ∈ frames ++ preparedFrames s.prepared ++ s.egress.inner := by simp [hall]
        simp only [hpc, DriverPc.collected, Flow.framesAhead, flow, List.mem_append] at hmem ⊢
        tauto
      obtain ⟨accepted, -, heq⟩ := restoreInterruptedFrames_inner
        { s.egress.cleared with inner := s.egress.cleared.inner ++ [f] } rest
      simp only [flushEgressBuffer, hall, restoreInterruptedFrames, OpusFrameQueue.push, hfit,
        if_true, heq]
      simp
  | _ => trivial

theorem refillRound {route : Route} {next : FillNext} (h : Ending s)
    (hpc : s.pc = .refill route next) : Ending (s.refillRound route next) := by
  have hexit : afterRefill route next ≠ .exited (.ok true) := by
    cases next <;> simp [afterRefill]
  unfold MediaState.refillRound
  split
  · rename_i hopen
    have hopen : s.sourceEnded = false := by simpa using hopen.1
    apply h.readSourceDepth
    split
    · rename_i hpop
      have hempty := OpusFrameQueue.pop_none hpop
      refine ⟨h.producer, id, fun _ ↦ ?_, fun ht ↦ absurd ht hexit⟩
      cases next <;> exact fun he hp hn ↦ ⟨hempty, he, hp, hn⟩
    · dsimp only
      split
      · exact h.moved rfl rfl id (by simp [hpc]) fun hended ↦ by simp [hopen] at hended
      · exact h.moved rfl rfl id (by simp [MediaState.goto]) fun hended ↦ by simp [hopen] at hended
  · refine h.goto hpc hexit fun hs ↦ ?_
    cases next <;> exact fun he hp hn ↦ (hs he hp hn).goto _

theorem fillRound {route : Route} (h : Ending s) (hpc : s.pc = .fillLoop route) :
    Ending (s.fillRound route) := by
  unfold MediaState.fillRound
  split_ifs with hmore hempty
  · exact h.goto hpc (by simp) fun hs he hp hn ↦ (hs he hp hn).goto _
  · exact h.goto hpc (by simp) fun hs he hp hn ↦ (hs he hp hn).goto _
  · refine h.moved rfl rfl id (by simp [MediaState.goto]) fun hended hs hp hn ↦ ?_
    have hp : s.prepared = [] := hp
    have hn : s.pending = [] := hn
    have he : s.egress.inner = [] := by
      by_contra he
      apply hmore
      rw [hp, hn]
      exact ⟨.inr he, by decide, by decide⟩
    rw [hpc] at hs
    exact (hs he hp hn).goto _

theorem prepareTrack {route : Route} {f : OpusFrame} {egress : OpusFrameQueue} (h : Ending s)
    (answer : Except VoiceError Bytes) :
    Ending (({ s with egress } : MediaState).prepareTrack aead route f answer) := by
  cases answer with
  | error e => exact h.failed (by simp) rfl rfl rfl rfl
  | ok payload =>
    rcases hpacket : s.preparer.prepareAudioPacketWithDurationSamples aead payload
      (audioDurationMsFromSamples f.durationSamples) f.durationSamples with ⟨e | packet, preparer⟩
    · simp only [MediaState.prepareTrack, MediaState.prepareCurrentSlotAudioPacket, hpacket]
      exact h.failed (by simp) rfl rfl rfl rfl
    · simp only [MediaState.prepareTrack, MediaState.prepareCurrentSlotAudioPacket, hpacket]
      split
      · refine h.moved rfl rfl id (by simp) fun _ _ _ hp ↦ ?_
        simp at hp
      · exact h.failed (by simp) rfl rfl rfl rfl

theorem pumpRound {route : Route} (h : Ending s) (hc : Connected s)
    (hclosed : Closed s) (hpc : s.pc = .pump route) :
    Ending (s.pumpRound route) := by
  unfold MediaState.pumpRound
  split
  · rename_i hp
    exact h.goto hpc (by simp) fun hs hn ↦ (hs hp hn).goto _
  · split_ifs with hfull
    · refine h.goto hpc (by simp) fun hs hn ↦ ?_
      have hn : s.pending = [] := hn
      have hnone : s.current.commands = [] :=
        commands_eq_nil_of_pending (hc.linked (by rw [hpc]; rfl)) hclosed hn
      simp [DeadlineSender.availableCommandCapacity, hnone,
        liveDeadlineCommandChannelCapacity] at hfull
    · exact h.failed (by simp) rfl rfl rfl rfl
    · refine h.moved rfl rfl id (by simp [hpc]) fun _ _ ↦ ?_
      rw [hpc]
      exact fun _ hn ↦ by simp at hn

theorem prepareSilence {kind : PreparedPacketKind}
    {next : PreparedPlayoutCommand → MediaState → MediaState} (h : Ending s)
    (answer : Except VoiceError Bytes)
    (hnext : ∀ command t, t.producerDone = s.producerDone → t.source = s.source →
      t.sourceEnded = s.sourceEnded → t.pc = s.pc → Ending (next command t)) :
    Ending (s.prepareSilence aead kind next answer) := by
  cases answer with
  | error e => exact h.failed (by simp) rfl rfl rfl rfl
  | ok payload =>
    rcases hpacket : s.preparer.prepareAudioPacketWithDurationSamples aead payload
      (audioDurationMsFromSamples 960) 960 with ⟨e | packet, preparer⟩
    · simp only [MediaState.prepareSilence, MediaState.prepareCurrentSlotAudioPacket, hpacket]
      exact h.failed (by simp) rfl rfl rfl rfl
    · simp only [MediaState.prepareSilence, MediaState.prepareCurrentSlotAudioPacket, hpacket]
      split
      · exact h.failed (by simp) rfl rfl rfl rfl
      · exact hnext _ _ rfl rfl rfl rfl

theorem driver {answer : DriverAnswer} (h : Ending s) (hc : Connected s) (hf : Fitting s)
    (hclosed : Closed s) (hok : resumesDry s (.driver answer) = true)
    (hstep : s.driverStep aead answer = some t) : Ending t := by
  cases hpc : s.pc
  case apply site command =>
    simp only [driverStep, hpc] at hstep
    exact h.applyCommand hc hok hpc hstep
  case report site sent =>
    rcases sent with _ | ⟨r, sent⟩ <;> cases answer <;>
      simp only [driverStep, hpc, Option.some.injEq, reduceCtorEq] at hstep
    · subst hstep
      cases site with
      | dave route => exact h.goto hpc (by simp [afterReport]) fun hs ↦ hs
      | _ => exact h.goto hpc (by simp [afterReport]) fun _ ↦ trivial
    · subst hstep
      unfold sendMetric
      split
      all_goals
        refine h.moved rfl rfl id (by simp) fun _ hs ↦ ?_
        rw [hpc] at hs
        cases site <;> exact hs
  case boundaryReport site sent =>
    rcases sent with _ | ⟨r, sent⟩ <;> cases answer <;>
      simp only [driverStep, hpc, Option.some.injEq, reduceCtorEq] at hstep
    · subst hstep
      refine h.moved rfl rfl id (by cases site <;> simp [afterCommand]) fun _ _ ↦ ?_
      cases site <;> first | trivial | exact fun hp ↦ by cases hp
    · subst hstep
      unfold sendMetric
      split <;> exact h.moved rfl rfl id (by simp) fun _ _ ↦ trivial
  case restore reason frames =>
    rcases frames with _ | ⟨f, frames⟩ <;> cases answer <;>
      simp only [driverStep, hpc, Option.some.injEq, reduceCtorEq] at hstep
    · subst hstep
      cases reason with
      | pause site => exact h.goto hpc (by simp) fun _ ↦ trivial
      | stop site =>
        cases site with
        | second => exact h.goto hpc (by simp) fun _ ↦ trivial
        | _ => exact h.failed (by simp) rfl rfl rfl rfl
      | stale => exact h.failed (by simp) rfl rfl rfl rfl
      | dave route =>
        refine h.goto hpc (by simp) fun hs he hp hn ↦ ?_
        rcases hs with ⟨hsource, -⟩ | hne
        · exact ⟨hsource, he, hp, hn⟩
        · exact absurd he hne
    · subst hstep
      unfold restoreLiveSourceFrame
      split
      all_goals
        refine h.moved rfl rfl id (by simp) fun _ hs ↦ ?_
        rw [hpc] at hs
        cases reason with
        | dave route => exact hs.elim (fun hs ↦ by cases hs.2) .inr
        | _ => trivial
  case boundary site left sent =>
    rcases left with _ | left <;> cases answer <;>
      simp only [driverStep, hpc, reduceCtorEq] at hstep
    · split at hstep
      · cases hstep
        exact h.goto hpc (by simp) fun _ ↦ trivial
      · cases hstep
        exact h.failed (by simp) rfl rfl rfl rfl
    · split_ifs at hstep
      cases hstep
      refine h.prepareSilence _ fun command u hproducer hsource hended hupc ↦ ?_
      have hstream : u.source.endOfStream = s.source.endOfStream := by rw [hsource]
      exact h.moved hproducer hstream (fun hu ↦ hended ▸ hu) (by simp) fun _ _ ↦ trivial
  case replace reason =>
    cases answer with
    | session answer =>
      cases answer <;> simp only [driverStep, hpc, Option.some.injEq] at hstep
      · subst hstep
        exact h.failed (by simp) rfl rfl rfl rfl
      · subst hstep
        refine h.moved rfl rfl id (by simp) fun _ hs ↦ ?_
        rw [hpc] at hs
        cases reason <;> exact hs
    | _ => simp [driverStep, hpc] at hstep
  all_goals
    cases answer <;> simp only [driverStep, hpc, Option.some.injEq, reduceCtorEq] at hstep
  case top.go =>
    subst hstep
    split <;> exact h.goto hpc (by simp) fun _ ↦ trivial
  case ready.go site =>
    subst hstep
    refine h.readSourceDepth (h.goto hpc (by simp) fun hs ↦ ?_)
    cases site <;> exact hs
  case outcomes.go site sent =>
    subst hstep
    exact h.drainOutcome hc hpc
  case commands.go second =>
    split at hstep
    · cases hstep
      refine h.moved rfl rfl id (by simp) fun hended hs ↦ ?_
      rw [hpc] at hs
      cases second
      · trivial
      · rename_i hmailbox
        intro hp hn
        have hspent := hs hp hn
        rw [hmailbox] at hspent
        exact hspent.imp (fun hspent ↦ ⟨hspent.source, hspent.egress, hspent.prepared, hn⟩) id
    · cases hstep
      cases second <;> cases hpaused : s.paused
      · exact h.goto hpc (by simp) fun _ ↦ trivial
      · exact h.goto hpc (by simp) fun _ ↦ trivial
      · refine h.goto hpc (by simp) fun hs hn ↦ ?_
        have hspent := hs hpaused hn
        simp_all only [List.any_nil, Bool.false_eq_true, or_false]
        exact hspent.goto _
      · exact h.goto hpc (by simp) fun _ ↦ trivial
  case waiting.go =>
    subst hstep
    split_ifs
    · exact h.goto hpc (by simp) fun _ ↦ trivial
    · exact h.goto hpc (by simp) fun _ ↦ trivial
    · exact h.failed (by simp) rfl rfl rfl rfl
  case waitingCommand.command => exact h.receiveCommand (by simp) hstep
  case waitingCommand.sleep =>
    subst hstep
    exact h.goto hpc (by simp) fun _ ↦ trivial
  case sourceCheck.go =>
    split_ifs at hstep with hended
    · cases hstep
      refine h.readSourceDepth ⟨h.producer, fun _ ↦ h.ended hended, fun ht ↦ ?_, fun ht ↦ (by cases ht)⟩
      exact List.isEmpty_iff.mp ht
    · cases hstep
      exact h.moved rfl rfl id (by simp) fun ht ↦ absurd ht hended
  case gateway.drained daveTransition =>
    subst hstep
    cases daveTransition
    · exact h.goto hpc (by simp) fun hs he hp hn ↦ ⟨hs, he, hp, hn⟩
    · exact h.goto hpc (by simp) fun hs ↦ hs
  case gateway.settled =>
    subst hstep
    exact h.goto hpc (by simp) fun hs ↦ hs
  case gateway.gatewayFailed =>
    subst hstep
    exact h.failed (by simp) rfl rfl rfl rfl
  case invalidate.go reason =>
    subst hstep
    refine h.moved rfl rfl id (by simp) fun _ hs ↦ ?_
    rw [hpc] at hs
    cases reason <;> exact hs
  case discard.go reason =>
    subst hstep
    refine h.moved rfl rfl id (by simp) fun _ hs ↦ ?_
    rw [hpc] at hs
    cases reason <;> exact hs
  case flush.go reason frames =>
    subst hstep
    exact h.flush hf hpc
  case refillStart.go route next =>
    subst hstep
    exact h.readSourceDepth (h.goto hpc (by simp) fun hs he hp hn ↦ (hs he hp hn).goto _)
  case refill.go route next =>
    subst hstep
    exact h.refillRound hpc
  case refillRestore.go route next f =>
    subst hstep
    have hexit : afterRefill route next ≠ .exited (.ok true) := by
      cases next <;> simp [afterRefill]
    unfold restoreLiveSourceFrame
    split <;> exact h.moved rfl rfl id hexit fun _ hs ↦ by rw [hpc] at hs; exact hs.elim
  case fillLoop.go route =>
    subst hstep
    exact h.fillRound hpc
  case fillPop.session route answer =>
    split at hstep
    · rename_i hpop
      cases hstep
      have hempty := OpusFrameQueue.pop_none hpop
      exact h.goto hpc (by simp) fun hs hp hn ↦ (hs hempty hp hn).goto _
    · cases hstep
      rw [← hpc]
      exact h.prepareTrack answer
  case pump.go route =>
    subst hstep
    exact h.pumpRound hc hclosed hpc
  case silence.session site answer =>
    split_ifs at hstep
    · cases hstep
      refine h.prepareSilence _ fun command u hproducer hsource hended hupc ↦ ?_
      have hstream : u.source.endOfStream = s.source.endOfStream := by rw [hsource]
      refine h.moved hproducer hstream (fun hu ↦ hended ▸ hu) (by simp [hupc, hpc]) fun _ _ ↦ ?_
      simp only [hupc, hpc]
      cases site with
      | after route => exact fun hn ↦ by simp at hn
      | underrun => trivial
    · cases hstep
      cases site with
      | after route =>
        cases route with
        | settle => exact h.goto hpc (by simp [afterSilence]) fun _ ↦ trivial
        | slot => exact h.goto hpc (by simp [afterSilence]) fun hs hn ↦ (hs hn).goto _
      | underrun => exact h.goto hpc (by simp [afterSilence]) fun _ ↦ trivial
  case secondCheck.go =>
    subst hstep
    split
    · exact h.goto hpc (by simp) fun hs _ hn ↦ .inl ((hs hn).goto _)
    · exact h.goto hpc (by simp) fun _ ↦ trivial
  case invalidateAgain.go exiting =>
    subst hstep
    exact h.moved rfl rfl id (by simp) fun _ _ ↦ trivial
  case discardAgain.go exiting =>
    subst hstep
    cases exiting
    · exact h.moved rfl rfl id (by simp) fun _ _ ↦ trivial
    · exact h.failed (by simp) rfl rfl rfl rfl
  case endCheck.go =>
    split_ifs at hstep with hpending hended
    · cases hstep
      have hstage := h.stage hended
      rw [hpc] at hstage
      have hspent := hstage hpending
      exact ⟨h.producer, h.ended, fun _ ↦
        ⟨hspent.source, hspent.egress, hspent.prepared, hspent.pending⟩, fun _ ↦ hended⟩
    · cases hstep
      exact h.moved rfl rfl id (by simp) fun _ _ ↦ trivial
    · cases hstep
      exact h.goto hpc (by simp) fun _ ↦ trivial
  case select.sentRecord =>
    simp only [selectSent] at hstep
    split at hstep
    · cases hstep
      exact h.accountSent (by simp) fun _ _ _ ↦ trivial
    · split_ifs at hstep
      cases hstep
      exact h.failed (by simp) rfl rfl rfl rfl
  case select.dropRecord =>
    simp only [selectDropped] at hstep
    split at hstep
    · have hnone : s.current.dropRecords = [] := (hc.linked (by rw [hpc]; rfl)).noDrops
      simp_all
    · split_ifs at hstep
      cases hstep
      exact h.failed (by simp) rfl rfl rfl rfl
  case select.command => exact h.receiveCommand (by simp) hstep
  case boundaryWait.sentRecord site left sent =>
    simp only [selectSent] at hstep
    split at hstep
    · cases hstep
      split
      · exact h.moved rfl rfl id (by simp) fun _ _ ↦ trivial
      · exact h.failed (by simp) rfl rfl rfl rfl
    · split_ifs at hstep
      cases hstep
      exact h.failed (by simp) rfl rfl rfl rfl
  case boundaryWait.dropRecord site left sent =>
    simp only [selectDropped] at hstep
    split at hstep
    · cases hstep
      exact h.failed (by simp) rfl rfl rfl rfl
    · split_ifs at hstep
      cases hstep
      exact h.failed (by simp) rfl rfl rfl rfl

theorem congr (h : Ending s) (hproducer : t.producerDone = s.producerDone)
    (hstream : t.source.endOfStream = s.source.endOfStream)
    (hended : t.sourceEnded = s.sourceEnded) (hpc : t.pc = s.pc) (hpaused : t.paused = s.paused)
    (hqueue : s.sourceEnded = true → t.source.queue = s.source.queue) (hegress : t.egress = s.egress)
    (hprepared : t.prepared = s.prepared) (hpending : t.pending = s.pending)
    (hmailbox : s.mailbox <+: t.mailbox) : Ending t where
  producer ht := by
    rw [hproducer]
    exact h.producer (hstream ▸ ht)
  ended ht := by
    rw [hstream]
    exact h.ended (hended ▸ ht)
  stage ht := by
    rw [hended] at ht
    have hspent : Spent t ↔ Spent s := by
      constructor
      · rintro ⟨h1, h2, h3, h4⟩
        exact ⟨hqueue ht ▸ h1, hegress ▸ h2, hprepared ▸ h3, hpending ▸ h4⟩
      · rintro ⟨h1, h2, h3, h4⟩
        exact ⟨(hqueue ht).symm ▸ h1, hegress.symm ▸ h2, hprepared.symm ▸ h3, hpending.symm ▸ h4⟩
    have hany : s.mailbox.any interrupts = true → t.mailbox.any interrupts = true := by
      obtain ⟨more, hmore⟩ := hmailbox
      rw [← hmore, List.any_append, Bool.or_eq_true]
      exact .inl
    have hs := h.stage ht
    rw [hpc]
    unfold Stage at hs ⊢
    split at hs
    all_goals first
      | exact hs
      | exact fun hp hn ↦ (hs (hpaused ▸ hp) (hpending ▸ hn)).imp hspent.mpr hany
      | exact fun hp hn ↦ (hs (hpaused ▸ hp) (hpending ▸ hn)).imp hspent.mpr fun h ↦
          Bool.or_eq_true_iff.mpr ((Bool.or_eq_true_iff.mp h).imp id hany)
      | simpa only [hspent, hqueue ht, hegress, hprepared, hpending] using hs
  natural ht := by
    rw [hended]
    exact h.natural (hpc ▸ ht)

/-- While the producer is at work the source does not count as ended. -/
theorem produced (h : Ending s) (hdone : ¬s.producerDone = true)
    (hended : t.sourceEnded = s.sourceEnded) (hpc : t.pc = s.pc)
    (hproducer : t.source.endOfStream = true → t.producerDone = true) : Ending t := by
  have hopen : s.sourceEnded = false := by
    by_contra hs
    exact hdone (h.producer (h.ended (Bool.eq_true_of_not_eq_false hs)))
  refine ⟨hproducer, fun ht ↦ ?_, fun ht ↦ ?_, fun ht ↦ ?_⟩
  · rw [hended, hopen] at ht
    cases ht
  · rw [hended, hopen] at ht
    cases ht
  · have hs := h.natural (hpc ▸ ht)
    rw [hopen] at hs
    cases hs

theorem start (playbackEpoch : ℕ) (preparer : VoicePacketPreparer) (source : SourceBufferState)
    (position : ℕ) : Ending (MediaState.start playbackEpoch preparer source position) where
  producer h := by simp_all [MediaState.start]
  ended h := by cases h
  stage h := by cases h
  natural h := by cases h

theorem step {action : Action} (h : Ending s ∧ Connected s ∧ Fitting s ∧ Closed s)
    (hok : resumesDry s action = true) (hstep : s.step aead action = some t) :
    Ending t ∧ Connected t ∧ Fitting t ∧ Closed t := by
  obtain ⟨he, hc, hf, hclosed⟩ := h
  have happens := step_happens hstep
  refine ⟨?_, hc.happens happens, hf.happens hc happens, hclosed.happens hc happens⟩
  cases action <;> simp only [MediaState.step] at hstep
  case driver answer => exact he.driver hc hf hclosed hok hstep
  case sender socketOk =>
    obtain ⟨⟨d, w⟩, -, rfl⟩ := Option.map_eq_some_iff.mp hstep
    exact he.congr rfl rfl rfl rfl rfl (fun _ ↦ rfl) rfl rfl rfl (List.prefix_refl _)
  case oldSender index socketOk =>
    obtain ⟨d, -, hstep⟩ := Option.bind_eq_some_iff.mp hstep
    obtain ⟨⟨d', w⟩, -, rfl⟩ := Option.map_eq_some_iff.mp hstep
    exact he.congr rfl rfl rfl rfl rfl (fun _ ↦ rfl) rfl rfl rfl (List.prefix_refl _)
  case produce frames ended =>
    split_ifs at hstep with hdone hfits
    · cases hstep
      exact he.produced hdone rfl rfl fun hended ↦ hended
    · cases hstep
      exact he.produced hdone rfl rfl fun _ ↦ rfl
  case produceFailed err =>
    split_ifs at hstep with hdone
    cases hstep
    exact he.produced hdone rfl rfl fun _ ↦ rfl
  case otherMetric =>
    cases hstep
    unfold sendMetric
    split <;> exact he.congr rfl rfl rfl rfl rfl (fun _ ↦ rfl) rfl rfl rfl (List.prefix_refl _)
  case consume =>
    split_ifs at hstep
    split at hstep
    · cases hstep
      unfold consumeMetric
      split
      · split <;> exact he.congr rfl rfl rfl rfl rfl (fun _ ↦ rfl) rfl rfl rfl (List.prefix_refl _)
      · exact he.congr rfl rfl rfl rfl rfl (fun _ ↦ rfl) rfl rfl rfl (List.prefix_refl _)
    · cases hstep
  case finish =>
    split at hstep
    · split_ifs at hstep
      cases hstep
      exact he.congr rfl rfl rfl rfl rfl (fun _ ↦ rfl) rfl rfl rfl (List.prefix_refl _)
    · cases hstep
  case send command =>
    cases hstep
    exact he.congr rfl rfl rfl rfl rfl (fun _ ↦ rfl) rfl rfl rfl (List.prefix_append _ _)
  all_goals
    cases hstep
    exact he.congr rfl rfl rfl rfl rfl (fun _ ↦ rfl) rfl rfl rfl (List.prefix_refl _)

end Ending

/-- A driver that ends naturally has played all that its source ever yielded. -/
theorem natural_end_of_resumesDry (aead : Aead) (playbackEpoch : ℕ)
    (preparer : VoicePacketPreparer) (source : SourceBufferState) (position : ℕ)
    (actions : List Action) {s : MediaState}
    (hok : Throughout (MediaState.step aead) (fun s action ↦ resumesDry s action = true)
      (.start playbackEpoch preparer source position) actions)
    (h : exec (MediaState.step aead) (.start playbackEpoch preparer source position) actions =
      some s) (hpc : s.pc = .exited (.ok true)) :
    s.source.endOfStream = true ∧ s.source.queue.inner = [] ∧ s.egress.inner = [] ∧
      s.prepared = [] ∧ s.pending = [] := by
  obtain ⟨hs, -⟩ : Ending s ∧ Connected s ∧ Fitting s ∧ Closed s := by
    refine exec_induction (fun _ _ _ hs ↦ Ending.step hs)
      ⟨.start _ _ _ _, .start _ _ _ _, fun _ f hf ↦ ?_, fun h ↦ (nomatch h)⟩ hok h
    exact (List.not_mem_nil hf).elim
  have hended := hs.natural hpc
  have hspent := hs.stage hended
  rw [hpc] at hspent
  exact ⟨hs.ended hended, hspent.source, hspent.egress, hspent.prepared, hspent.pending⟩

/-- The first round on a source that has yielded its last frame, up to the second look at the
mailbox. -/
def lastFrameRound : List Action :=
  goes 6 ++ [.driver (.drained false)] ++ goes 4 ++ [payload] ++ goes 5 ++ [payload]

/-- The frame is sent, and a second round finds nothing left. -/
def playedOut : List Action :=
  lastFrameRound ++ goes 3 ++ senderSteps 7 ++ [.driver .sentRecord] ++ goes 8 ++
    [.driver (.drained false)] ++ goes 4 ++ [payload] ++ goes 3

theorem natural_end_of_resumesDry_playedOut :
    ∃ s, exec (MediaState.step plainAead) (plainStart [plainFrame 0] true) playedOut = some s ∧
      s.pc = .exited (.ok true) ∧ s.egress.inner = [] ∧ s.wire.sent.length = 1 := by
  refine ⟨_, rfl, by decide, ?_, by decide⟩
  exact (natural_end_of_resumesDry plainAead _ _ _ _ playedOut
    (throughout_of_allowed (by decide))
    (rfl : exec _ (plainStart [plainFrame 0] true) _ = some _) (by decide)).2.2.1

/-- One packet of boundary silence, from its preparation to its record. -/
def boundaryPacket : List Action := [payload] ++ senderSteps 7 ++ [.driver .sentRecord]

/-- Pause and Resume in one batch of the second look put the last frame back into the egress buffer
and leave the source ended; the track ends with the frame unplayed. -/
theorem natural_end_loses_frame :
    ∃ s, exec (MediaState.step plainAead) (plainStart [plainFrame 0] true)
        (lastFrameRound ++ [.send .pause, .send .resume] ++ goes 5 ++ [payload] ++ goes 2 ++
          boundaryPacket ++ boundaryPacket ++ boundaryPacket ++ boundaryPacket ++ boundaryPacket ++
          [payload] ++ goes 7 ++ [payload] ++ goes 2) = some s ∧
      s.pc = .exited (.ok true) ∧ s.egress.inner = [(plainFrame 0).withEpoch 1] ∧
      ∀ c ∈ s.wire.sent, c.kind = .boundarySilence := by
  exact ⟨_, rfl, by decide, by decide, by decide⟩

end DiscordVoice.Media
