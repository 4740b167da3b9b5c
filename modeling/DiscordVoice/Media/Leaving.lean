import DiscordVoice.Media.HeardPosition

namespace DiscordVoice.Media

open Voice Playback MediaState

/-- What a driver that returns leaves behind it had before. -/
structure Remains (s t : MediaState) : Prop where
  pending : t.pending.Sublist s.pending
  prepared : t.prepared.Sublist s.prepared
  egress : t.egress.inner.Sublist s.egress.inner
  limits : t.egress.cleared = s.egress.cleared
  queue : t.source.queue = s.source.queue
  records : t.current.sendRecords.length ≤ s.current.sendRecords.length

/-- Only a step that ends the driver is asked for anything. -/
def Leaves (s t : MediaState) : Prop := t.pc.isExited = true → Remains s t

namespace Leaves

variable {aead : Aead} {s t : MediaState}

theorem of_running (h : t.pc.isExited = false) : Leaves s t := by
  intro hexited
  rw [h] at hexited
  cases hexited

theorem of_same (hpending : t.pending = s.pending) (hprepared : t.prepared = s.prepared)
    (hegress : t.egress = s.egress) (hqueue : t.source.queue = s.source.queue)
    (hrecords : t.current.sendRecords.length ≤ s.current.sendRecords.length) : Leaves s t := by
  intro _
  refine ⟨?_, ?_, ?_, ?_, hqueue, hrecords⟩
  · rw [hpending]
  · rw [hprepared]
  · rw [hegress]
  · rw [hegress]

theorem exit (result : DriverResult) : Leaves s (s.exit result) := of_same rfl rfl rfl rfl le_rfl

theorem readSourceDepth {next : MediaState} (h : Leaves s next) :
    Leaves s (s.readSourceDepth next) := by
  unfold MediaState.readSourceDepth
  split
  · exact of_same rfl rfl rfl rfl le_rfl
  · exact h

theorem of_popped {p : PendingDeadlineCommand} {pending : List PendingDeadlineCommand}
    (hpending : s.pending = p :: pending) (ht : t.pending = pending) (hprepared : t.prepared = s.prepared)
    (hegress : t.egress = s.egress) (hqueue : t.source.queue = s.source.queue)
    (hrecords : t.current.sendRecords.length ≤ s.current.sendRecords.length) : Leaves s t := by
  intro _
  refine ⟨?_, ?_, ?_, ?_, hqueue, hrecords⟩
  · rw [hpending, ht]
    exact List.sublist_cons_self p pending
  · rw [hprepared]
  · rw [hegress]
  · rw [hegress]

theorem accountSent {r : DeadlineSendRecord} {rest : List DeadlineSendRecord} {pc : DriverPc}
    (hrecords : s.current.sendRecords = r :: rest) (hpc : pc.isExited = false) :
    Leaves s ((s.takeSendRecord rest).accountSent r pc) := by
  have hrest : rest.length ≤ s.current.sendRecords.length := by
    rw [hrecords]
    exact Nat.le_succ _
  unfold MediaState.accountSent
  split
  · exact of_same rfl rfl rfl rfl hrest
  · rename_i p pending hpending
    split_ifs
    · exact of_running hpc
    · exact of_popped hpending rfl rfl rfl rfl hrest

theorem accountDropped {r : DeadlineDropRecord} {rest : List DeadlineDropRecord} {pc : DriverPc}
    (hpc : pc.isExited = false) : Leaves s ((s.takeDropRecord rest).accountDropped r pc) := by
  unfold MediaState.accountDropped
  split
  · exact of_same rfl rfl rfl rfl le_rfl
  · rename_i p pending hpending
    split_ifs
    · split
      · exact of_running hpc
      · exact of_running hpc
    · exact of_popped hpending rfl rfl rfl rfl le_rfl

theorem drainOutcome (site : OutcomeSite) (sent : List DeadlineSendRecord) :
    Leaves s (s.drainOutcome site sent) := by
  unfold MediaState.drainOutcome
  split
  · exact accountSent ‹_› rfl
  · split_ifs
    · exact exit _
    · split
      · exact accountDropped rfl
      · exact of_running rfl

theorem selectSent {next : DeadlineSendRecord → MediaState → MediaState}
    (hnext : ∀ r rest, s.current.sendRecords = r :: rest → Leaves s (next r (s.takeSendRecord rest)))
    (h : s.selectSent next = some t) : Leaves s t := by
  simp only [MediaState.selectSent] at h
  split at h
  · cases h
    exact hnext _ _ ‹_›
  · split_ifs at h
    cases h
    exact exit _

theorem selectDropped {next : DeadlineDropRecord → MediaState → MediaState}
    (hnext : ∀ r rest, Leaves s (next r (s.takeDropRecord rest)))
    (h : s.selectDropped next = some t) : Leaves s t := by
  simp only [MediaState.selectDropped] at h
  split at h
  · cases h
    exact hnext _ _
  · split_ifs at h
    cases h
    exact exit _

theorem receiveCommand {site : CommandSite} (h : s.receiveCommand site = some t) : Leaves s t := by
  simp only [MediaState.receiveCommand] at h
  split at h
  · cases h
    exact of_running rfl
  · split_ifs at h
    cases h
    exact exit _

theorem applyCommand {site : CommandSite} {command : MediaCommand} {answer : DriverAnswer}
    (h : s.applyCommand site command answer = some t) : Leaves s t := by
  have hafter : (afterCommand site).isExited = false := by
    cases site <;> rfl
  cases command with
  | pause =>
    cases answer <;> simp only [MediaState.applyCommand, Option.some.injEq, reduceCtorEq] at h
    subst h
    split_ifs
    · exact of_running hafter
    · exact of_running rfl
  | resume =>
    cases answer <;> simp only [MediaState.applyCommand, reduceCtorEq] at h
    split_ifs at h
    · split at h
      · cases h
        exact of_running hafter
      · cases h
        exact of_same rfl rfl rfl rfl le_rfl
    · cases h
      exact of_running hafter
  | stop skipped =>
    cases answer <;> simp only [MediaState.applyCommand, Option.some.injEq, reduceCtorEq] at h
    subst h
    exact of_running rfl

theorem afterInterruption (reason : Interruption) : Leaves s (s.afterInterruption reason) := by
  cases reason with
  | pause site => exact of_running rfl
  | stop site =>
    cases site with
    | second => exact of_running rfl
    | _ => exact exit _
  | stale => exact exit _
  | dave route => exact of_running rfl

theorem refillRound {route : Route} {next : FillNext} (hpc : s.pc = .refill route next) :
    Leaves s (s.refillRound route next) := by
  have hafter : (afterRefill route next).isExited = false := by
    cases next <;> rfl
  unfold MediaState.refillRound
  split_ifs
  · apply readSourceDepth
    split
    · exact of_running hafter
    · dsimp only
      split
      · apply of_running
        simp only [hpc]
        rfl
      · exact of_running rfl
  · exact of_running hafter

theorem prepareTrack {route : Route} {f : OpusFrame} {egress : OpusFrameQueue}
    (hpop : s.egress.pop = some (f, egress)) (answer : Except VoiceError Bytes) :
    Leaves s (({ s with egress } : MediaState).prepareTrack aead route f answer) := by
  obtain ⟨hinner, hlimits⟩ := OpusFrameQueue.pop_some hpop
  have hleft {t : MediaState} (hpending : t.pending = s.pending) (hprepared : t.prepared = s.prepared)
      (hegress : t.egress = egress) (hqueue : t.source.queue = s.source.queue)
      (hcurrent : t.current.sendRecords = s.current.sendRecords) : Leaves s t := by
    intro _
    refine ⟨?_, ?_, ?_, ?_, hqueue, ?_⟩
    · rw [hpending]
    · rw [hprepared]
    · rw [hegress, hinner]
      exact List.sublist_cons_self f egress.inner
    · rw [hegress, hlimits]
      rfl
    · rw [hcurrent]
  cases answer with
  | error e => exact hleft rfl rfl rfl rfl rfl
  | ok payload =>
    rcases hpacket : s.preparer.prepareAudioPacketWithDurationSamples aead payload
      (audioDurationMsFromSamples f.durationSamples) f.durationSamples with ⟨e | packet, preparer⟩
    · simp only [MediaState.prepareTrack, MediaState.prepareCurrentSlotAudioPacket, hpacket]
      exact hleft rfl rfl rfl rfl rfl
    · simp only [MediaState.prepareTrack, MediaState.prepareCurrentSlotAudioPacket, hpacket]
      split_ifs
      · exact of_running rfl
      · exact hleft rfl rfl rfl rfl rfl

theorem pumpRound {route : Route} (hpc : s.pc = .pump route) : Leaves s (s.pumpRound route) := by
  unfold MediaState.pumpRound
  split
  · exact of_running rfl
  · rename_i p prepared hprepared
    split_ifs
    · exact of_running rfl
    · intro _
      refine ⟨.refl _, ?_, .refl _, rfl, rfl, le_rfl⟩
      rw [hprepared]
      exact List.sublist_cons_self p prepared
    · apply of_running
      simp only [hpc]
      rfl

theorem prepareSilence {kind : PreparedPacketKind}
    {next : PreparedPlayoutCommand → MediaState → MediaState} (answer : Except VoiceError Bytes)
    (hnext : ∀ command t, t.pc = s.pc → (next command t).pc.isExited = false) :
    Leaves s (s.prepareSilence aead kind next answer) := by
  cases answer with
  | error e => exact exit _
  | ok payload =>
    rcases hpacket : s.preparer.prepareAudioPacketWithDurationSamples aead payload
      (audioDurationMsFromSamples 960) 960 with ⟨e | packet, preparer⟩
    · simp only [MediaState.prepareSilence, MediaState.prepareCurrentSlotAudioPacket, hpacket]
      exact of_same rfl rfl rfl rfl le_rfl
    · simp only [MediaState.prepareSilence, MediaState.prepareCurrentSlotAudioPacket, hpacket]
      split_ifs
      · exact of_same rfl rfl rfl rfl le_rfl
      · exact of_running (hnext _ _ rfl)

theorem afterSilence (site : SilenceSite) : (MediaState.afterSilence site).isExited = false := by
  cases site with
  | after route => cases route <;> rfl
  | underrun => rfl

/-- Wherever the driver returns, it has taken up nothing on its way out. -/
theorem driverStep {answer : DriverAnswer} (h : s.driverStep aead answer = some t) : Leaves s t := by
  cases hpc : s.pc
  case apply site command =>
    simp only [MediaState.driverStep, hpc] at h
    exact applyCommand h
  case report site sent =>
    rcases sent with _ | ⟨r, sent⟩ <;> cases answer <;>
      simp only [MediaState.driverStep, hpc, Option.some.injEq, reduceCtorEq] at h
    · subst h
      cases site <;> exact of_running rfl
    · subst h
      exact of_running rfl
  case boundaryReport site sent =>
    rcases sent with _ | ⟨r, sent⟩ <;> cases answer <;>
      simp only [MediaState.driverStep, hpc, Option.some.injEq, reduceCtorEq] at h
    · subst h
      cases site <;> exact of_running rfl
    · subst h
      exact of_running rfl
  case restore reason frames =>
    rcases frames with _ | ⟨f, frames⟩ <;> cases answer <;>
      simp only [MediaState.driverStep, hpc, Option.some.injEq, reduceCtorEq] at h
    · subst h
      exact afterInterruption reason
    · subst h
      exact of_running rfl
  case boundary site left sent =>
    rcases left with _ | left <;> cases answer <;>
      simp only [MediaState.driverStep, hpc, reduceCtorEq] at h
    · split at h
      · cases h
        exact of_running rfl
      · cases h
        exact exit _
    · split_ifs at h
      cases h
      exact prepareSilence _ fun _ _ _ ↦ rfl
  case replace reason =>
    cases answer with
    | session answer =>
      cases answer <;> simp only [MediaState.driverStep, hpc, Option.some.injEq] at h
      · subst h
        exact exit _
      · subst h
        exact of_running rfl
    | _ => simp [MediaState.driverStep, hpc] at h
  all_goals
    cases answer <;> simp only [MediaState.driverStep, hpc, Option.some.injEq, reduceCtorEq] at h
  case ready.go site =>
    subst h
    exact readSourceDepth (of_running rfl)
  case outcomes.go site sent =>
    subst h
    exact drainOutcome site sent
  case commands.go second =>
    split at h
    · cases h
      exact of_running rfl
    · cases h
      split_ifs <;> exact of_running rfl
  case waiting.go =>
    subst h
    split_ifs
    · exact of_running rfl
    · exact of_running rfl
    · exact exit _
  case waitingCommand.command => exact receiveCommand h
  case sourceCheck.go =>
    split_ifs at h
    · cases h
      exact readSourceDepth (of_running rfl)
    · cases h
      exact of_running rfl
  case gateway.drained daveTransition =>
    subst h
    cases daveTransition <;> exact of_running rfl
  case gateway.gatewayFailed =>
    subst h
    exact exit _
  case refillStart.go route next =>
    subst h
    exact readSourceDepth (of_running rfl)
  case refill.go route next =>
    subst h
    exact refillRound hpc
  case refillRestore.go route next f =>
    subst h
    cases next <;> exact of_running rfl
  case fillLoop.go route =>
    subst h
    unfold fillRound
    split_ifs <;> exact of_running rfl
  case fillPop.session route answer =>
    split at h
    · cases h
      exact of_running rfl
    · cases h
      rw [← hpc]
      exact prepareTrack ‹_› answer
  case pump.go route =>
    subst h
    exact pumpRound hpc
  case silence.session site answer =>
    split_ifs at h
    · cases h
      refine prepareSilence answer fun _ t ht ↦ ?_
      have hsilence : t.pc = .silence site := ht.trans hpc
      simp only [hsilence]
      rfl
    · cases h
      exact of_running (afterSilence site)
  case secondCheck.go =>
    subst h
    split <;> exact of_running rfl
  case discardAgain.go exiting =>
    subst h
    cases exiting
    · exact of_running rfl
    · exact of_same rfl rfl rfl rfl le_rfl
  case endCheck.go =>
    split_ifs at h
    · cases h
      exact exit _
    · cases h
      exact of_running rfl
    · cases h
      exact of_running rfl
  case select.sentRecord =>
    exact selectSent (fun r rest hrecords ↦ accountSent hrecords rfl) h
  case select.dropRecord => exact selectDropped (fun r rest ↦ accountDropped rfl) h
  case select.command => exact receiveCommand h
  case boundaryWait.sentRecord site left sent =>
    refine selectSent (fun r rest hrecords ↦ ?_) h
    split
    · exact of_running rfl
    · have hrest : rest.length ≤ s.current.sendRecords.length := by
        rw [hrecords]
        exact Nat.le_succ _
      exact of_same rfl rfl rfl rfl hrest
  case boundaryWait.dropRecord site left sent =>
    exact selectDropped (fun r rest ↦ of_same rfl rfl rfl rfl le_rfl) h
  case top.go =>
    subst h
    split <;> exact of_running rfl
  all_goals
    subst h
    exact of_running rfl

end Leaves

end DiscordVoice.Media
