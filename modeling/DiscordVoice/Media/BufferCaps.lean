import DiscordVoice.Media.CursorAgreement
import DiscordVoice.Media.FrameOrder
import DiscordVoice.Media.Leaving

namespace DiscordVoice.Media

open Voice Playback MediaState Schedule Chains

/-- A frame as the normaliser makes it. The memory cap holds twenty of them. -/
structure Regular (f : OpusFrame) : Prop where
  samples : f.samples = 960
  bytes : 20 * f.byteLen ≤ playbackBufferMemoryCapBytes

instance : DecidablePred Regular := fun f ↦
  decidable_of_iff (f.samples = 960 ∧ 20 * f.byteLen ≤ playbackBufferMemoryCapBytes)
    ⟨fun ⟨hsamples, hbytes⟩ ↦ ⟨hsamples, hbytes⟩, fun h ↦ ⟨h.samples, h.bytes⟩⟩

namespace Regular

variable {f : OpusFrame} {frames : List OpusFrame}

theorem withEpoch (h : Regular f) (epoch : ℕ) : Regular (f.withEpoch epoch) := ⟨h.samples, h.bytes⟩

theorem byteLength_le (h : ∀ f ∈ frames, Regular f) :
    20 * byteLength frames ≤ frames.length * playbackBufferMemoryCapBytes := by
  induction frames with
  | nil => exact Nat.zero_le _
  | cons f frames ih =>
    have hrest := ih fun g hg ↦ h g (List.mem_cons_of_mem f hg)
    have hfirst := (h f List.mem_cons_self).bytes
    have hcons : byteLength (f :: frames) = f.byteLen + byteLength frames := by
      simp [byteLength]
    rw [hcons, List.length_cons, Nat.add_mul]
    omega

theorem durationSamples_eq (h : ∀ f ∈ frames, Regular f) :
    durationSamples frames = 960 * frames.length :=
  durationSamples_of_samples fun f hf ↦ (h f hf).samples

theorem room (h : ∀ f ∈ frames, Regular f) (hf : Regular f) (hroom : frames.length < 20) :
    frames.length < playbackQueueCapacity ∧
      byteLength frames + f.byteLen ≤ playbackBufferMemoryCapBytes ∧
      durationSamples frames + f.samples ≤ egressHighWatermarkSamples := by
  have hbytes := byteLength_le h
  have hmore := hf.bytes
  have hcap : frames.length * playbackBufferMemoryCapBytes ≤ 19 * playbackBufferMemoryCapBytes :=
    Nat.mul_le_mul_right _ (by omega)
  rw [durationSamples_eq h, hf.samples]
  simp only [playbackQueueCapacity, egressHighWatermarkSamples, egressHighWatermarkMs,
    samplesFromDurationMs]
  omega

end Regular

def egressBuffer : OpusFrameQueue :=
  .withResourceLimits playbackQueueCapacity playbackBufferMemoryCapBytes egressHighWatermarkMs

theorem canFitFrame_of_room {q : OpusFrameQueue} {f : OpusFrame} (hlimits : q.cleared = egressBuffer)
    (h : ∀ g ∈ q.inner, Regular g) (hf : Regular f) (hroom : q.inner.length < 20) :
    q.canFitFrame f = true := by
  have hcapacity : q.capacity = playbackQueueCapacity := congrArg OpusFrameQueue.capacity hlimits
  have hbytes : q.maxBytes = playbackBufferMemoryCapBytes := congrArg OpusFrameQueue.maxBytes hlimits
  have hsamples : q.maxDurationSamples = egressHighWatermarkSamples :=
    congrArg OpusFrameQueue.maxDurationSamples hlimits
  rw [OpusFrameQueue.canFitFrame_iff, hcapacity, hbytes, hsamples]
  exact Regular.room h hf hroom

theorem preparedFits_of_room {prepared : List PreparedTrackPlayout} {f : OpusFrame}
    (h : ∀ g ∈ preparedFrames prepared, Regular g) (hf : Regular f)
    (hroom : (preparedFrames prepared).length < 20) : preparedFits prepared f = true := by
  obtain ⟨hlength, hbytes, hsamples⟩ := Regular.room h hf hroom
  rw [preparedFrames, List.length_map] at hlength
  simp only [preparedFits, Bool.and_eq_true, decide_eq_true_eq]
  exact ⟨⟨hsamples, hlength⟩, hbytes⟩

theorem restoreInterruptedFrames_all {q : OpusFrameQueue} {frames : List OpusFrame}
    (hlimits : q.cleared = egressBuffer) (h : ∀ f ∈ q.inner ++ frames, Regular f)
    (hroom : (q.inner ++ frames).length ≤ 20) :
    restoreInterruptedFrames q frames = ({ q with inner := q.inner ++ frames }, []) := by
  induction frames generalizing q with
  | nil => simp [restoreInterruptedFrames]
  | cons f frames ih =>
    have hsplit : q.inner ++ f :: frames = q.inner ++ [f] ++ frames := by simp
    have hless : q.inner.length < 20 := by
      rw [List.length_append, List.length_cons] at hroom
      omega
    have hfits := canFitFrame_of_room hlimits (fun g hg ↦ h g (List.mem_append_left _ hg))
      (h f (by simp)) hless
    have hpush : q.push f = .ok { q with inner := q.inner ++ [f] } := by
      rw [OpusFrameQueue.push, if_pos hfits]
    rw [hsplit] at h hroom
    have hrest := ih (q := { q with inner := q.inner ++ [f] }) hlimits h hroom
    simp only [restoreInterruptedFrames, hpush, hrest, List.append_assoc, List.singleton_append]

/-- The driver is on its way from the refill to the end of the pump, or has returned. -/
def DriverPc.prepares : DriverPc → Bool
  | .refillStart _ _ | .refill _ _ | .refillRestore _ _ _ => true
  | .fillLoop _ | .fillPop _ | .pump _ | .exited _ => true
  | _ => false

/-- The frames between the source and the wire. -/
def MediaState.inPlay (s : MediaState) : List OpusFrame := s.pc.collected ++ s.flow.framesAhead

structure Capped (s : MediaState) : Prop where
  regular : ∀ f ∈ s.inPlay, Regular f
  source : ∀ f ∈ s.source.queue.inner, Regular f
  few : s.inPlay.length ≤ 20
  egress : s.egress.cleared = egressBuffer
  kinds : ∀ p ∈ s.pending, p.frame = none → p.kind = .scheduledSilence
  silences : s.pendingSourceSilence ≤ 3
  prepared : s.prepared = [] ∨ s.pc.prepares = true
  held : s.pc.held = []

/-- A step that takes no frame out of the source and queues no silence. -/
structure Narrows (s t : MediaState) : Prop where
  inPlay : ∀ f ∈ t.inPlay, f ∈ s.inPlay
  length : t.inPlay.length ≤ s.inPlay.length
  source : ∀ f ∈ t.source.queue.inner, f ∈ s.source.queue.inner
  egress : t.egress.cleared = s.egress.cleared
  silent : ∀ p ∈ t.pending, p.frame = none → p ∈ s.pending
  silences : t.pendingSourceSilence ≤ s.pendingSourceSilence

namespace Narrows

variable {s t : MediaState}

theorem of_sublist (hcollected : t.pc.collected = []) (hpending : t.pending.Sublist s.pending)
    (hprepared : t.prepared.Sublist s.prepared) (hegress : t.egress.inner.Sublist s.egress.inner)
    (hlimits : t.egress.cleared = s.egress.cleared) (hqueue : t.source.queue = s.source.queue) :
    Narrows s t := by
  have hahead : t.flow.framesAhead.Sublist s.flow.framesAhead :=
    ((hpending.filterMap _).append (hprepared.map _)).append hegress
  have hsub : t.inPlay.Sublist s.inPlay := by
    rw [MediaState.inPlay, hcollected, List.nil_append]
    exact hahead.trans (List.sublist_append_right _ _)
  refine ⟨fun f hf ↦ hsub.mem hf, hsub.length_le, ?_, hlimits, ?_, hpending.countP_le⟩
  · rw [hqueue]
    exact fun f hf ↦ hf
  · exact fun p hp _ ↦ hpending.mem hp

theorem of_flow {generation : ℕ} {current : DeadlineSender} {preparer : VoicePacketPreparer}
    {metrics : List PlaybackPipelineMetric} (hcollected : t.pc.collected = [])
    (hm : t.flow = { s.flow with generation, current, preparer, metrics }) : Narrows s t := by
  have hpending : t.pending = s.pending := congrArg Flow.pending hm
  have hprepared : t.prepared = s.prepared := congrArg Flow.prepared hm
  have hegress : t.egress = s.egress := congrArg Flow.egress hm
  have hqueue : t.source.queue = s.source.queue := congrArg Flow.queue hm
  apply of_sublist hcollected
  · rw [hpending]
  · rw [hprepared]
  · rw [hegress]
  · rw [hegress]
  · exact hqueue

theorem of_remains {result : DriverResult} (hpc : t.pc = .exited result) (h : Remains s t) :
    Narrows s t :=
  of_sublist (by rw [hpc]; rfl) h.pending h.prepared h.egress h.limits h.queue

theorem of_perm (hperm : t.inPlay.Perm s.inPlay) (hqueue : t.source.queue = s.source.queue)
    (hlimits : t.egress.cleared = s.egress.cleared)
    (hsilent : ∀ p ∈ t.pending, p.frame = none → p ∈ s.pending)
    (hsilences : t.pendingSourceSilence ≤ s.pendingSourceSilence) : Narrows s t := by
  refine ⟨fun f hf ↦ hperm.mem_iff.mp hf, hperm.length_eq.le, ?_, hlimits, hsilent, hsilences⟩
  rw [hqueue]
  exact fun f hf ↦ hf

end Narrows

theorem refill_below_target {aead : Aead} {s t : MediaState} {answer : DriverAnswer} {route : Route}
    {next : FillNext} (hs : s.pc = .refill route next) (h : s.driverStep aead answer = some t)
    (ht : t.pc ≠ afterRefill route next) :
    s.egress.bufferedSamples < egressTargetSamples - pendingTrackSamples s.pending -
      durationSamples (preparedFrames s.prepared) := by
  cases answer <;> simp only [driverStep, hs, Option.some.injEq, reduceCtorEq] at h
  subst h
  simp only [refillRound] at ht
  split_ifs at ht with hguard
  · exact hguard.2.1
  · exact absurd rfl ht

theorem refill_unfit {aead : Aead} {s t : MediaState} {answer : DriverAnswer} {route : Route}
    {next : FillNext} {g : OpusFrame} (hs : s.pc = .refill route next)
    (h : s.driverStep aead answer = some t) (ht : t.pc = .refillRestore route next g) :
    ∃ f queue, s.source.queue.pop = some (f, queue) ∧
      s.egress.canFitFrame (f.withEpoch s.playbackEpoch) = false := by
  have hafter : afterRefill route next ≠ .refillRestore route next g := by
    cases next <;> simp [afterRefill]
  cases answer <;> simp only [driverStep, hs, Option.some.injEq, reduceCtorEq] at h
  subst h
  simp only [refillRound] at ht
  split_ifs at ht
  · simp only [readSourceDepth] at ht
    split at ht
    · cases ht
    · split at ht
      · exact absurd ht hafter
      · rename_i f queue hpop
        split at ht
        · rw [hs] at ht
          cases ht
        · exact ⟨f, queue, hpop, OpusFrameQueue.push_error_unfit ‹_›⟩
  · exact absurd ht hafter

namespace Capped

variable {aead : Aead} {s t : MediaState} {answer : DriverAnswer}

theorem narrows (h : Capped s) (hn : Narrows s t) (hprepared : t.prepared = [] ∨ t.pc.prepares = true)
    (hheld : t.pc.held = []) : Capped t where
  regular f hf := h.regular f (hn.inPlay f hf)
  source f hf := h.source f (hn.source f hf)
  few := hn.length.trans h.few
  egress := hn.egress.trans h.egress
  kinds p hp hframe := h.kinds p (hn.silent p hp hframe) hframe
  silences := hn.silences.trans h.silences
  prepared := hprepared
  held := hheld

theorem inPlay_eq (s : MediaState) : s.inPlay = s.pc.collected ++
    (s.pending.filterMap (·.frame) ++ (preparedFrames s.prepared ++ s.egress.inner)) := by
  simp only [inPlay, Flow.framesAhead, flow, List.append_assoc]

theorem mem_inPlay (f : OpusFrame) : f ∈ s.inPlay ↔ f ∈ s.pc.collected ∨
    f ∈ s.pending.filterMap (·.frame) ∨ f ∈ preparedFrames s.prepared ∨ f ∈ s.egress.inner := by
  simp only [inPlay_eq, List.mem_append]

theorem inPlay_length (s : MediaState) : s.inPlay.length = s.pc.collected.length +
    (s.pending.filterMap (·.frame)).length + (preparedFrames s.prepared).length +
    s.egress.inner.length := by
  simp only [inPlay_eq, List.length_append]
  omega

theorem pendingTrackSamples_eq (h : Capped s) :
    pendingTrackSamples s.pending = 960 * (s.pending.filterMap (·.frame)).length :=
  Regular.durationSamples_eq fun f hf ↦ h.regular f ((mem_inPlay f).mpr (.inr (.inl hf)))

theorem preparedSamples_eq (h : Capped s) :
    durationSamples (preparedFrames s.prepared) = 960 * (preparedFrames s.prepared).length :=
  Regular.durationSamples_eq fun f hf ↦ h.regular f ((mem_inPlay f).mpr (.inr (.inr (.inl hf))))

theorem bufferedSamples_eq (h : Capped s) : s.egress.bufferedSamples = 960 * s.egress.inner.length :=
  Regular.durationSamples_eq fun f hf ↦ h.regular f ((mem_inPlay f).mpr (.inr (.inr (.inr hf))))

theorem length_of_kinds {pending : List PendingDeadlineCommand}
    (h : ∀ p ∈ pending, p.frame = none → p.kind = .scheduledSilence) :
    pending.length = (pending.filterMap (·.frame)).length +
      pending.countP fun p ↦ p.kind = .scheduledSilence ∧ p.frame.isNone := by
  induction pending with
  | nil => rfl
  | cons p pending ih =>
    have hrest := ih fun q hq ↦ h q (List.mem_cons_of_mem p hq)
    have hfirst := h p List.mem_cons_self
    rw [List.countP_cons, List.filterMap_cons, List.length_cons, hrest]
    cases hframe : p.frame with
    | some f =>
      simp only [Option.isNone_some, Bool.false_eq_true, and_false, decide_false, if_false,
        List.length_cons]
      omega
    | none =>
      simp only [hfirst hframe, Option.isNone_none, and_self, decide_true, if_true]
      omega

theorem pending_le (h : Capped s) : s.pending.length ≤ 23 := by
  have hlength := length_of_kinds h.kinds
  have hfew := h.few
  have hsilences := h.silences
  rw [inPlay_length] at hfew
  rw [pendingSourceSilence] at hsilences
  omega

theorem prepareTrack_prepares {route : Route} (f : OpusFrame) (answer : Except VoiceError Bytes) :
    (s.prepareTrack aead route f answer).pc.prepares = true := by
  cases answer with
  | error e => rfl
  | ok payload =>
    rcases hpacket : s.preparer.prepareAudioPacketWithDurationSamples aead payload
      (audioDurationMsFromSamples f.durationSamples) f.durationSamples with ⟨e | packet, preparer⟩
    · simp only [prepareTrack, MediaState.prepareCurrentSlotAudioPacket, hpacket]
      rfl
    · simp only [prepareTrack, MediaState.prepareCurrentSlotAudioPacket, hpacket]
      split <;> rfl

/-- The pump leaves nothing behind as long as the channel to the sender has room. -/
theorem prepares_driver (hpc : s.pc.prepares = true) (hroom : s.current.commands.length < 25)
    (hstep : s.driverStep aead answer = some t) : t.prepared = [] ∨ t.pc.prepares = true := by
  have hafter (route : Route) (next : FillNext) : (afterRefill route next).prepares = true := by
    cases next <;> rfl
  cases hs : s.pc <;> rw [hs] at hpc
  case refillStart route next =>
    cases answer <;> simp only [driverStep, hs, Option.some.injEq, reduceCtorEq] at hstep
    subst hstep
    unfold readSourceDepth
    split <;> exact .inr rfl
  case refill route next =>
    cases answer <;> simp only [driverStep, hs, Option.some.injEq, reduceCtorEq] at hstep
    subst hstep
    unfold refillRound
    split_ifs
    · unfold readSourceDepth
      split
      · exact .inr rfl
      · split
        · exact .inr (hafter route next)
        · dsimp only
          split
          · simp only [hs]
            exact .inr rfl
          · exact .inr rfl
    · exact .inr (hafter route next)
  case refillRestore route next f =>
    cases answer <;> simp only [driverStep, hs, Option.some.injEq, reduceCtorEq] at hstep
    subst hstep
    exact .inr (hafter route next)
  case fillLoop route =>
    cases answer <;> simp only [driverStep, hs, Option.some.injEq, reduceCtorEq] at hstep
    subst hstep
    unfold fillRound
    split_ifs <;> exact .inr rfl
  case fillPop route =>
    cases answer <;> simp only [driverStep, hs, reduceCtorEq] at hstep
    split at hstep
    · cases hstep
      exact .inr rfl
    · cases hstep
      exact .inr (prepareTrack_prepares _ _)
  case pump route =>
    cases answer <;> simp only [driverStep, hs, Option.some.injEq, reduceCtorEq] at hstep
    subst hstep
    unfold pumpRound
    split
    · rename_i hnone
      exact .inl hnone
    · split_ifs with hfull
      · rw [DeadlineSender.availableCommandCapacity, liveDeadlineCommandChannelCapacity] at hfull
        omega
      · exact .inr rfl
      · simp only [hs]
        exact .inr rfl
  case exited result =>
    cases answer <;> simp only [driverStep, hs, reduceCtorEq] at hstep
  all_goals cases hpc

theorem prepared_effect (hnone : s.prepared = []) (hc : Connected s) (he : Effect aead s t) :
    t.prepared = [] ∨ t.pc.prepares = true := by
  cases he with
  | jump hs ht hm => exact .inl ((congrArg Flow.prepared hm).trans hnone)
  | accountDropped hs hdropped => exact absurd (hc.linked (link_of_calm hs)).noDrops hdropped
  | report => exact .inl ((congrArg Flow.prepared (sendMetric_flow _)).trans hnone)
  | flush hs => exact .inl rfl
  | restore hs => exact .inl ((congrArg Flow.prepared (restoreLiveSourceFrame_flow _)).trans hnone)
  | @restored reason hs =>
    cases reason with
    | stop site => cases site <;> exact .inl hnone
    | _ => exact .inl hnone
  | refillRestore hs =>
    exact .inl ((congrArg Flow.prepared (restoreLiveSourceFrame_flow _)).trans hnone)
  | prepareTrack => exact .inr rfl
  | pump hs hprepared =>
    rw [hnone] at hprepared
    cases hprepared
  | exit ht =>
    rw [ht]
    exact .inr rfl
  | _ => exact .inl hnone

theorem prepared_driver (h : Capped s) (hc : Connected s) (hroom : s.current.commands.length < 25)
    (hstep : s.driverStep aead answer = some t) : t.prepared = [] ∨ t.pc.prepares = true := by
  rcases h.prepared with hnone | hpc
  · exact prepared_effect hnone hc (driverStep_effect hstep)
  · exact prepares_driver hpc hroom hstep

theorem below_target {route : Route} {next : FillNext} (h : Capped s) (hs : s.pc = .refill route next)
    (hstep : s.driverStep aead answer = some t) (ht : t.pc ≠ afterRefill route next) :
    s.inPlay.length < 20 := by
  have hbelow := refill_below_target hs hstep ht
  have htarget : egressTargetSamples = 960 * 20 := rfl
  rw [h.pendingTrackSamples_eq, h.preparedSamples_eq, h.bufferedSamples_eq, htarget] at hbelow
  have hcollected : s.pc.collected = [] := by
    rw [hs]
    rfl
  rw [inPlay_length, hcollected, List.length_nil]
  omega

theorem flush_all {reason : Interruption} {frames : List OpusFrame}
    (h : Capped s) (hs : s.pc = .flush reason frames) :
    restoreInterruptedFrames s.egress.cleared
        (frames ++ preparedFrames s.prepared ++ s.egress.inner) =
      ({ s.egress with inner := frames ++ preparedFrames s.prepared ++ s.egress.inner }, []) := by
  have hsub : (frames ++ preparedFrames s.prepared ++ s.egress.inner).Sublist s.inPlay := by
    rw [inPlay_eq, hs, List.append_assoc]
    exact (List.Sublist.refl _).append (List.sublist_append_right _ _)
  exact restoreInterruptedFrames_all (q := s.egress.cleared) h.egress
    (fun f hf ↦ h.regular f (hsub.mem hf)) (hsub.length_le.trans h.few)

theorem driver (h : Capped s) (hc : Connected s) (hroom : s.current.commands.length < 25)
    (hstep : s.driverStep aead answer = some t) : Capped t := by
  have hprepared := h.prepared_driver hc hroom hstep
  have hleaves := Leaves.driverStep hstep
  have he := driverStep_effect hstep
  cases he with
  | jump hs ht hm => exact h.narrows (.of_flow (collected_of_calm ht) hm) hprepared (held_of_calm ht)
  | @account r rest p pending pc hs hrecords hpending hmatch ht =>
    refine h.narrows (.of_sublist (collected_of_calm ht) ?_ (.refl _) (.refl _) rfl rfl) hprepared
      (held_of_calm ht)
    rw [hpending]
    exact List.sublist_cons_self p pending
  | accountDropped hs hdropped => exact absurd (hc.linked (link_of_calm hs)).noDrops hdropped
  | @report r pc hs hq hpc =>
    rcases hpc with ⟨-, hcalm⟩ | ⟨site, sent, -, rfl⟩
    · exact h.narrows (.of_flow (collected_of_calm hcalm) (sendMetric_flow _)) hprepared
        (held_of_calm hcalm)
    · exact h.narrows (.of_flow rfl (sendMetric_flow _)) hprepared rfl
  | invalidate hs | discard hs | boundaryReport hs | again hs | invalidateAgain hs | discardAgain hs =>
    exact h.narrows (.of_flow rfl rfl) hprepared rfl
  | boundary hs | boundarySent hs => exact h.narrows (.of_flow rfl rfl) hprepared rfl
  | @paused site hs =>
    cases site <;> exact h.narrows (.of_flow rfl rfl) hprepared rfl
  | replace hs =>
    refine h.narrows (.of_perm ?_ rfl rfl (fun p hp ↦ ?_) (Nat.zero_le _)) hprepared rfl
    · simp only [inPlay_eq, hs, goto, replaceDeadlineSender, DriverPc.collected, List.filterMap_nil,
        List.nil_append, List.Perm.refl]
    · cases hp
  | @flush reason frames hs =>
    have hquiet := hc.replaced (by rw [hs]; rfl)
    have hnone : s.pending = [] := hquiet.nonePending
    have hall := h.flush_all hs
    refine h.narrows (.of_perm ?_ rfl ?_ (fun p hp _ ↦ hp) le_rfl) hprepared ?_
    · have hin : s.inPlay = frames ++ preparedFrames s.prepared ++ s.egress.inner := by
        simp only [inPlay_eq, hs, DriverPc.collected, hnone, List.filterMap_nil, List.nil_append,
          List.append_assoc]
      rw [hin]
      simp only [inPlay, Flow.framesAhead, flow, flushEgressBuffer, hall, DriverPc.collected, hnone]
      exact .refl _
    · simp only [flushEgressBuffer, hall]
      rfl
    · simp only [flushEgressBuffer, hall]
      rfl
  | @restore reason f frames hs =>
    have hheld := h.held
    rw [hs, DriverPc.held, List.reverse_cons] at hheld
    simp at hheld
  | @restored reason hs =>
    cases reason with
    | stop site => cases site <;> exact h.narrows (.of_flow rfl rfl) hprepared rfl
    | _ => exact h.narrows (.of_flow rfl rfl) hprepared rfl
  | @refill route next f queue egress hs hpop hpush =>
    obtain ⟨hinner, -⟩ := OpusFrameQueue.pop_some hpop
    obtain rfl := OpusFrameQueue.push_ok hpush
    have hless := h.below_target hs hstep (by rw [hs]; cases next <;> simp [afterRefill])
    have hf : Regular f := h.source f (by rw [hinner]; exact List.mem_cons_self)
    refine ⟨?_, ?_, ?_, h.egress, h.kinds, h.silences, hprepared, h.held⟩
    · intro g hg
      rw [mem_inPlay, List.mem_append, List.mem_singleton] at hg
      rcases hg with hg | hg | hg | hg | rfl
      · exact h.regular g ((mem_inPlay g).mpr (.inl hg))
      · exact h.regular g ((mem_inPlay g).mpr (.inr (.inl hg)))
      · exact h.regular g ((mem_inPlay g).mpr (.inr (.inr (.inl hg))))
      · exact h.regular g ((mem_inPlay g).mpr (.inr (.inr (.inr hg))))
      · exact hf.withEpoch _
    · intro g hg
      exact h.source g (by rw [hinner]; exact List.mem_cons_of_mem f hg)
    · simp only [inPlay_length, List.length_append, List.length_singleton] at hless ⊢
      omega
  | @refillRefused f queue route next hs hpop =>
    obtain ⟨g, queue', hpop', hunfit⟩ := refill_unfit hs hstep rfl
    obtain ⟨hinner, -⟩ := OpusFrameQueue.pop_some hpop'
    have hless := h.below_target hs hstep (by cases next <;> simp [afterRefill])
    have hg : Regular g := h.source g (by rw [hinner]; exact List.mem_cons_self)
    have hegress : s.egress.inner.length < 20 := by
      rw [inPlay_length] at hless
      omega
    have hfits := canFitFrame_of_room h.egress
      (fun f hf ↦ h.regular f ((mem_inPlay f).mpr (.inr (.inr (.inr hf))))) (hg.withEpoch s.playbackEpoch) hegress
    rw [hunfit] at hfits
    cases hfits
  | @refillRestore route next f hs =>
    have hheld := h.held
    rw [hs, DriverPc.held] at hheld
    cases hheld
  | @prepareTrack route f egress packet preparer hs hpop payload hpacket =>
    obtain ⟨hinner, hlimits⟩ := OpusFrameQueue.pop_some hpop
    refine h.narrows (.of_perm ?_ rfl (by rw [hlimits]; rfl) (fun p hp _ ↦ hp) le_rfl) hprepared rfl
    simp only [inPlay_eq, hs, DriverPc.collected, hinner, preparedFrames, List.map_append, List.map_cons,
      List.map_nil, List.append_assoc, List.singleton_append, List.Perm.refl]
  | @pump route p prepared hs hfirst hstopped =>
    refine h.narrows (.of_perm ?_ rfl rfl (fun q hq hframe ↦ ?_) ?_) hprepared (by rw [hs]; rfl)
    · simp only [inPlay_eq, hs, DriverPc.collected, hfirst, preparedFrames, List.map_cons,
        List.filterMap_append, PendingDeadlineCommand.new, List.filterMap_cons, List.filterMap_nil,
        List.append_assoc, List.cons_append, List.nil_append, List.Perm.refl]
    · rcases List.mem_append.mp hq with hq | hq
      · exact hq
      · rw [List.mem_singleton.mp hq] at hframe
        cases hframe
    · simp [pendingSourceSilence, List.countP_append, PendingDeadlineCommand.new]
  | @silence site packet preparer hs hdue payload hstopped hpacket =>
    have hsilences : s.pendingSourceSilence < 3 := by
      simp only [silenceIsDue, Bool.and_eq_true, decide_eq_true_eq] at hdue
      exact hdue.1.2
    refine ⟨?_, h.source, ?_, h.egress, ?_, ?_, hprepared, h.held⟩
    · intro g hg
      apply h.regular g
      simpa [mem_inPlay, PendingDeadlineCommand.new] using hg
    · have hfew := h.few
      rw [inPlay_length] at hfew ⊢
      simpa [PendingDeadlineCommand.new] using hfew
    · intro q hq hframe
      rcases List.mem_append.mp hq with hq | hq
      · exact h.kinds q hq hframe
      · rw [List.mem_singleton.mp hq]
        rfl
    · have hone := List.countP_le_length
        (p := fun p : PendingDeadlineCommand ↦ p.kind = .scheduledSilence ∧ p.frame.isNone)
        (l := [.new ⟨packet, .scheduledSilence, none, s.generation, none⟩ none])
      rw [List.length_singleton] at hone
      rw [pendingSourceSilence] at hsilences ⊢
      rw [List.countP_append]
      omega
  | exit ht hcurrent hflow =>
    refine h.narrows (.of_remains ht (hleaves ?_)) hprepared ?_
    · rw [ht]
      rfl
    · rw [ht]
      rfl

theorem congr (h : Capped s) (hpc : t.pc = s.pc) (hflow : t.flow.egress = s.egress)
    (hprepared : t.prepared = s.prepared) (hpending : t.pending = s.pending)
    (hsource : ∀ f ∈ t.source.queue.inner, Regular f) : Capped t := by
  have hegress : t.egress = s.egress := hflow
  have hin : t.inPlay = s.inPlay := by
    rw [inPlay_eq, inPlay_eq, hpc, hprepared, hpending, hegress]
  refine ⟨?_, hsource, ?_, ?_, ?_, ?_, ?_, ?_⟩
  · rw [hin]
    exact h.regular
  · rw [hin]
    exact h.few
  · rw [hegress]
    exact h.egress
  · rw [hpending]
    exact h.kinds
  · rw [pendingSourceSilence, hpending]
    exact h.silences
  · rw [hprepared, hpc]
    exact h.prepared
  · rw [hpc]
    exact h.held

end Capped

/-- The producer hands over frames as the normaliser makes them. -/
def MediaState.Action.Regular : Action → Prop
  | .produce frames _ => ∀ f ∈ frames, Media.Regular f
  | _ => True

instance : DecidablePred MediaState.Action.Regular := fun action ↦
  match action with
  | .produce frames _ => inferInstanceAs (Decidable (∀ f ∈ frames, Media.Regular f))
  | .driver _ | .sender _ | .oldSender _ _ | .produceFailed _ | .send _ | .closeMailbox
  | .supersede _ | .otherMetric | .consume | .finish => isTrue trivial

theorem pushAll_sublist (queue : OpusFrameQueue) (frames : List OpusFrame) :
    (MediaState.pushAll queue frames).2.Sublist frames := by
  induction frames generalizing queue with
  | nil => exact .slnil
  | cons f frames ih =>
    simp only [MediaState.pushAll]
    cases queue.push f with
    | ok queue => exact (ih queue).cons_cons f
    | error g => exact List.nil_sublist _

namespace Capped

variable {aead : Aead} {s t : MediaState} {action : Action}

theorem source_produced {frames : List OpusFrame} {ended : Bool} (h : Capped s)
    (hframes : ∀ f ∈ frames, Regular f) (hstep : s.step aead (.produce frames ended) = some t) :
    ∀ f ∈ t.source.queue.inner, Regular f := by
  have hpushed : ∀ f ∈ (MediaState.pushAll s.source.queue frames).1.inner, Regular f := by
    rw [pushAll_inner]
    intro f hf
    rcases List.mem_append.mp hf with hf | hf
    · exact h.source f hf
    · exact hframes f ((pushAll_sublist _ _).mem hf)
  simp only [MediaState.step] at hstep
  split_ifs at hstep
  all_goals
    cases hstep
    exact hpushed

theorem step (h : Capped s) (hc : Connected s) (hroom : s.current.commands.length < 25)
    (haction : action.Regular) (hstep : s.step aead action = some t) : Capped t := by
  cases step_happens hstep with
  | driver he => exact h.driver hc hroom hstep
  | sender hmove => exact h.congr rfl rfl rfl rfl h.source
  | oldSender hget hmove => exact h.congr rfl rfl rfl rfl h.source
  | produced pushed hpc hpaused hflow =>
    exact h.congr hpc (congrArg Flow.egress hflow) (congrArg Flow.prepared hflow)
      (congrArg Flow.pending hflow) (h.source_produced haction hstep)
  | metric =>
    have hflow := sendMetric_flow (s := s) .other
    refine h.congr (sendMetric_pc _) (congrArg Flow.egress hflow) (congrArg Flow.prepared hflow)
      (congrArg Flow.pending hflow) ?_
    rw [show (s.sendMetric .other).source.queue = s.source.queue from congrArg Flow.queue hflow]
    exact h.source
  | @consumed m metrics hmetrics =>
    have hflow := consumeMetric_flow (s := { s with metrics }) m
    refine h.congr (consumeMetric_pc _) (congrArg Flow.egress hflow) (congrArg Flow.prepared hflow)
      (congrArg Flow.pending hflow) ?_
    rw [show (({ s with metrics } : MediaState).consumeMetric m).source.queue = s.source.queue from
      congrArg Flow.queue hflow]
    exact h.source
  | apart ha hpc hpaused hflow =>
    refine h.congr hpc (congrArg Flow.egress hflow) (congrArg Flow.prepared hflow)
      (congrArg Flow.pending hflow) ?_
    rw [show t.source.queue = s.source.queue from congrArg Flow.queue hflow]
    exact h.source

theorem start (playbackEpoch : ℕ) (preparer : VoicePacketPreparer) (source : SourceBufferState)
    (position : ℕ) (hsource : ∀ f ∈ source.queue.inner, Regular f) :
    Capped (MediaState.start playbackEpoch preparer source position) where
  regular _ hf := (List.not_mem_nil hf).elim
  source := hsource
  few := Nat.zero_le _
  egress := rfl
  kinds _ hp := (List.not_mem_nil hp).elim
  silences := Nat.zero_le _
  prepared := .inl rfl
  held := rfl

end Capped

namespace DeadlineSender

/-- What a sender was given and the driver has not heard back of. -/
def load (d : DeadlineSender) : ℕ := d.sendRecords.length + d.onWire.length + d.waiting.length

theorem commands_le_waiting (d : DeadlineSender) : d.commands.length ≤ d.waiting.length := by
  unfold waiting
  split
  · exact Nat.le_succ _
  · exact Nat.le_succ _
  · exact Nat.le_succ _
  · exact le_rfl

theorem load_move {generation : ℕ} {d d' : DeadlineSender} {w w' : Wire}
    (h : Move generation d w d' w') : d'.load ≤ d.load := by
  cases h with
  | idle hd hpc =>
    rcases hd with hd | hd <;> rcases hpc with rfl | rfl <;> simp [load, onWire, waiting, hd]
  | take hd hcommands => simp [load, onWire, waiting, hd, hcommands]
  | drop hd _ =>
    unfold emitDrop
    split_ifs <;> simp [load, onWire, waiting, stop, hd]
  | record hd =>
    unfold emitSent
    split_ifs
    · simp [load, onWire, waiting, stop, hd]
    · simp only [load, onWire, waiting, hd, List.length_append, List.length_singleton, List.length_nil]
      omega
  | send hd =>
    simp only [load, onWire, waiting, hd, List.length_cons, List.length_nil]
    omega
  | check hd _ | compare hd _ | advance hd _ => simp [load, onWire, waiting, hd]
  | shutdown hd _ | mismatch hd _ | socketFailed hd | overtaken hd _ =>
    simp [load, onWire, waiting, stop, hd]

end DeadlineSender

theorem Aligned.load_le {m : Flow} (h : Aligned m)
    (hclosed : m.current.isStopped = true → m.current.commands = []) :
    m.current.load ≤ m.pending.length := by
  obtain ⟨sent, unsent, hrecords, hpending, hunsent⟩ := h.inOrder
  rw [DeadlineSender.load, hrecords, hpending]
  simp only [List.length_map, List.length_append]
  by_cases hstopped : m.current.isStopped = true
  · have hnone : m.current.waiting = [] := by
      rw [← hclosed hstopped]
      simp only [DeadlineSender.isStopped] at hstopped
      simp only [DeadlineSender.waiting]
      split at hstopped
      · simp only [*]
      · cases hstopped
    rw [hnone, List.length_nil]
    omega
  · rw [hunsent (Bool.eq_false_of_not_eq_true hstopped)]

theorem Quiet.load_eq {m : Flow} (h : Quiet m) : m.current.load = 0 := by
  rw [DeadlineSender.load, h.noRecords, h.noneOnWire, h.noneWaiting]
  rfl

theorem Boundary.load_le {m : Flow} (h : Boundary m) : m.current.load ≤ 1 := by
  obtain ⟨sent, hrecords, hlength, -⟩ := h.single
  rw [DeadlineSender.load, hrecords, List.length_map]
  simp only [List.length_append] at hlength
  exact hlength

/-- Outside an invalidation the load of the sender is what the driver's list names. -/
theorem Capped.load_le {s : MediaState} (h : Capped s) (hc : Connected s) (hclosed : Closed s)
    (hlink : s.pc.link ≠ .cut) : s.current.load ≤ 23 := by
  have hpending := h.pending_le
  cases hpc : s.pc.link with
  | linked => exact ((hc.linked hpc).load_le hclosed).trans hpending
  | replaced =>
    have hload : s.current.load = 0 := (hc.replaced hpc).load_eq
    omega
  | quiet =>
    have hload : s.current.load = 0 := (hc.quiet hpc).1.load_eq
    omega
  | boundary =>
    have hload : s.current.load ≤ 1 := (hc.boundary hpc).1.load_le
    omega
  | cut => exact absurd hpc hlink

theorem load_cut {aead : Aead} {s t : MediaState} (hc : Connected s) (he : Effect aead s t)
    (hleaves : Leaves s t) (hcut : t.pc.link = .cut) : t.current.load ≤ s.current.load := by
  cases he with
  | jump hs ht | account hs hrecords hpending hmatch ht =>
    rw [link_of_calm ht] at hcut
    cases hcut
  | accountDropped hs hdropped => exact absurd (hc.linked (link_of_calm hs)).noDrops hdropped
  | report => rw [goto_current, sendMetric_current]
  | invalidate hs | discard hs => exact le_rfl
  | @restored reason hs =>
    cases reason with
    | stop site => cases site <;> exact le_rfl
    | _ => exact le_rfl
  | restore hs => rw [goto_current, restoreLiveSourceFrame_current]
  | refillRestore hs => rw [goto_current, restoreLiveSourceFrame_current]
  | refill hs | pump hs | silence hs =>
    simp only [hs] at hcut
    cases hcut
  | exit ht hcurrent hflow =>
    have hrecords := (hleaves (by rw [ht]; rfl)).records
    rw [hcurrent] at hrecords ⊢
    simp only [DeadlineSender.load, DeadlineSender.onWire, DeadlineSender.waiting] at hrecords ⊢
    omega
  | paused => exact Nat.le_refl _
  | replace | boundarySent | boundaryReport | again | invalidateAgain | discardAgain | flush
    | refillRefused | prepareTrack | boundary => cases hcut

/-- The preparer goes back to the cursor of the next packet to be sent. -/
def DriverPc.setsBack : DriverPc → Bool
  | .discard _ | .discardAgain _ => true
  | _ => false

/-- The commands handed to the sender since the preparer was last set back, after a step of the
driver. -/
def handedOver (s t : MediaState) (handed : List PreparedPlayoutCommand) :
    List PreparedPlayoutCommand :=
  if s.pc.setsBack then [] else handed ++ t.current.commands.drop s.current.commands.length

structure Supplied where
  state : MediaState
  handed : List PreparedPlayoutCommand

def Supplied.step (aead : Aead) (r : Supplied) (action : Action) : Option Supplied :=
  (r.state.step aead action).map fun t ↦
    ⟨t, match action with
      | .driver _ => handedOver r.state t r.handed
      | _ => r.handed⟩

/-- The commands handed over follow each other, and those still prepared come behind them. -/
structure InStep (s : MediaState) (handed : List PreparedPlayoutCommand) : Prop where
  ahead : s.pc.isExited = false → ∃ first, CursorPath first
    (handed ++ s.prepared.map (·.command)) s.preparer.reservedSequence
  path : ∃ first next, CursorPath first handed next

section Handed

variable {s t : MediaState} {handed : List PreparedPlayoutCommand}

theorem handedOver_same (hpc : s.pc.setsBack = false)
    (hcommands : t.current.commands = s.current.commands) : handedOver s t handed = handed := by
  rw [handedOver, hpc, hcommands, List.drop_length]
  simp

theorem handedOver_concat {c : PreparedPlayoutCommand} (hpc : s.pc.setsBack = false)
    (hcommands : t.current.commands = s.current.commands ++ [c]) :
    handedOver s t handed = handed ++ [c] := by
  rw [handedOver, hpc, hcommands, List.drop_left]
  rfl

theorem handedOver_none (hpc : s.pc.setsBack = true) : handedOver s t handed = [] := if_pos hpc

theorem setsBack_of_calm {pc : DriverPc} (h : pc.calm = true) : pc.setsBack = false := by
  cases pc <;> first | rfl | cases h

end Handed

namespace InStep

variable {aead : Aead} {s t : MediaState} {handed : List PreparedPlayoutCommand}

theorem of_ahead {handed' : List PreparedPlayoutCommand} (hhanded : handed' = handed)
    (h : ∃ first, CursorPath first (handed ++ t.prepared.map (·.command))
      t.preparer.reservedSequence) : InStep t handed' := by
  subst hhanded
  obtain ⟨first, hpath⟩ := h
  obtain ⟨next, hhanded, -⟩ := spans_append.mp hpath
  exact ⟨fun _ ↦ ⟨first, hpath⟩, first, next, hhanded⟩

theorem congr (h : InStep s handed) (hpc : t.pc.isExited = s.pc.isExited)
    (hprepared : t.prepared = s.prepared) (hpreparer : t.preparer = s.preparer) : InStep t handed where
  ahead hexited := by
    rw [hprepared, hpreparer]
    exact h.ahead (hpc ▸ hexited)
  path := h.path

theorem of_flow {queue egress : OpusFrameQueue} {produced : List OpusFrame}
    {metrics : List PlaybackPipelineMetric} {sentDurationSamples : ℕ} (h : InStep s handed)
    (hpc : t.pc.isExited = s.pc.isExited)
    (hm : t.flow = { s.flow with queue, egress, produced, metrics, sentDurationSamples }) :
    InStep t handed :=
  h.congr hpc (congrArg Flow.prepared hm) (congrArg Flow.preparer hm)

theorem kept (h : InStep s handed) (hs : s.pc.isExited = false) (hback : s.pc.setsBack = false)
    (hcommands : t.current.commands = s.current.commands) (hprepared : t.prepared = s.prepared)
    (hpreparer : t.preparer = s.preparer) : InStep t (handedOver s t handed) := by
  apply of_ahead (handedOver_same hback hcommands)
  rw [hprepared, hpreparer]
  exact h.ahead hs

/-- A packet at the preparer's cursor goes straight to the sender when nothing is prepared. -/
theorem straight {c : PreparedPlayoutCommand} (h : InStep s handed) (hs : s.pc.isExited = false)
    (hback : s.pc.setsBack = false) (hnone : s.prepared = [])
    (hcommands : t.current.commands = s.current.commands ++ [c]) (hprepared : t.prepared = s.prepared)
    (hcursor : c.cursor = s.preparer.reservedSequence)
    (hnext : t.preparer.reservedSequence = c.next) : InStep t (handedOver s t handed) := by
  obtain ⟨first, hpath⟩ := h.ahead hs
  refine of_ahead (handedOver_concat hback hcommands) ⟨first, ?_⟩
  rw [hprepared]
  simp only [hnone, List.map_nil, List.append_nil] at hpath ⊢
  rw [hnext]
  exact spans_concat hpath hcursor

theorem setBack (hs : s.pc.setsBack = true) (hnone : t.prepared = []) :
    InStep t (handedOver s t handed) := by
  apply of_ahead (handedOver_none hs)
  rw [hnone]
  exact ⟨t.preparer.reservedSequence, rfl⟩

theorem effect (h : InStep s handed) (hc : Connected s) (hcapped : Capped s) (he : Effect aead s t) :
    InStep t (handedOver s t handed) := by
  have hnone (hpc : s.pc.prepares = false) : s.prepared = [] := by
    rcases hcapped.prepared with hnone | hprepares
    · exact hnone
    · rw [hpc] at hprepares
      cases hprepares
  cases he with
  | jump hs ht hm =>
    exact h.kept (Heard.isExited_of_calm hs) (setsBack_of_calm hs)
      (congrArg (·.current.commands) hm) (congrArg Flow.prepared hm) (congrArg Flow.preparer hm)
  | account hs => exact h.kept (Heard.isExited_of_calm hs) (setsBack_of_calm hs) rfl rfl rfl
  | accountDropped hs hdropped => exact absurd (hc.linked (link_of_calm hs)).noDrops hdropped
  | @report r pc hs hq hpc =>
    have hflow : ((s.sendMetric (.senderSent r)).goto pc).flow =
      { s.flow with metrics := (s.sendMetric (.senderSent r)).metrics } := sendMetric_flow _
    have hkept (hexited : s.pc.isExited = false) (hback : s.pc.setsBack = false) :=
      h.kept hexited hback (congrArg (·.current.commands) hflow) (congrArg Flow.prepared hflow)
        (congrArg Flow.preparer hflow)
    rcases hpc with ⟨hscalm, -⟩ | ⟨site, sent, hspc, -⟩
    · exact hkept (Heard.isExited_of_calm hscalm) (setsBack_of_calm hscalm)
    · exact hkept (by rw [hspc]; rfl) (by rw [hspc]; rfl)
  | discard hs => exact setBack (by rw [hs]; rfl) (hnone (by rw [hs]; rfl))
  | discardAgain hs => exact setBack (by rw [hs]; rfl) (hnone (by rw [hs]; rfl))
  | @replace reason hs =>
    have hsame : handedOver s (s.replaceDeadlineSender.goto
        (.flush reason (s.pending.filterMap (·.frame)))) handed = handed := by
      rw [handedOver, hs]
      simp [DriverPc.setsBack, replaceDeadlineSender, DeadlineSender.spawn]
    exact of_ahead hsame (h.ahead (by rw [hs]; rfl))
  | @flush reason frames hs =>
    obtain ⟨first, hpath⟩ := h.ahead (by rw [hs]; rfl)
    rw [hnone (by rw [hs]; rfl)] at hpath
    exact of_ahead (handedOver_same (by rw [hs]; rfl) rfl) ⟨first, hpath⟩
  | restore hs =>
    have hflow := restoreLiveSourceFrame_flow (s := s)
    exact h.kept (by rw [hs]; rfl) (by rw [hs]; rfl) (congrArg (·.current.commands) (hflow _))
      (congrArg Flow.prepared (hflow _)) (congrArg Flow.preparer (hflow _))
  | refillRestore hs =>
    have hflow := restoreLiveSourceFrame_flow (s := s)
    exact h.kept (by rw [hs]; rfl) (by rw [hs]; rfl) (congrArg (·.current.commands) (hflow _))
      (congrArg Flow.prepared (hflow _)) (congrArg Flow.preparer (hflow _))
  | @restored reason hs =>
    cases reason with
    | stop site => cases site <;> exact h.kept (by rw [hs]; rfl) (by rw [hs]; rfl) rfl rfl rfl
    | _ => exact h.kept (by rw [hs]; rfl) (by rw [hs]; rfl) rfl rfl rfl
  | invalidate hs | refill hs | refillRefused hs | boundarySent hs | paused hs | boundaryReport hs
    | again hs | invalidateAgain hs =>
    exact h.kept (by rw [hs]; rfl) (by rw [hs]; rfl) rfl rfl rfl
  | @prepareTrack route f egress packet preparer hs hpop payload hpacket =>
    obtain ⟨first, hpath⟩ := h.ahead (by rw [hs]; rfl)
    obtain ⟨hcursor, hnext⟩ := prepared_packet hpacket
    refine of_ahead (handedOver_same (by rw [hs]; rfl) rfl) ⟨first, ?_⟩
    rw [List.map_append, ← List.append_assoc, hnext]
    exact spans_concat hpath hcursor
  | @pump route p prepared hs hprepared hstopped =>
    obtain ⟨first, hpath⟩ := h.ahead (by rw [hs]; rfl)
    rw [hprepared, List.map_cons] at hpath
    refine of_ahead (handedOver_concat (by rw [hs]; rfl) rfl) ⟨first, ?_⟩
    rwa [List.append_assoc]
  | silence hs hdue payload hstopped hpacket =>
    obtain ⟨hcursor, hnext⟩ := prepared_packet hpacket
    exact h.straight (by rw [hs]; rfl) (by rw [hs]; rfl) (hnone (by rw [hs]; rfl)) rfl rfl hcursor hnext
  | boundary hs payload hstopped hpacket =>
    obtain ⟨hcursor, hnext⟩ := prepared_packet hpacket
    exact h.straight (by rw [hs]; rfl) (by rw [hs]; rfl) (hnone (by rw [hs]; rfl)) rfl rfl hcursor hnext
  | exit ht hcurrent hflow =>
    refine ⟨fun hexited ↦ ?_, ?_⟩
    · rw [ht] at hexited
      cases hexited
    · by_cases hback : s.pc.setsBack = true
      · rw [handedOver_none hback]
        exact ⟨s.preparer.reservedSequence, s.preparer.reservedSequence, rfl⟩
      · rw [handedOver_same (Bool.eq_false_of_not_eq_true hback) (by rw [hcurrent])]
        exact h.path

theorem step {action : Action} {r : Supplied} (h : InStep s handed) (hc : Connected s)
    (hcapped : Capped s) (hstep : Supplied.step aead ⟨s, handed⟩ action = some r) :
    InStep r.state r.handed := by
  obtain ⟨t, ht, rfl⟩ := Option.map_eq_some_iff.mp hstep
  cases step_happens ht with
  | driver he => exact h.effect hc hcapped he
  | sender hmove => exact h.congr rfl rfl rfl
  | oldSender hget hmove => exact h.congr rfl rfl rfl
  | produced pushed hpc hpaused hflow => exact h.of_flow (by rw [hpc]) hflow
  | metric => exact h.of_flow (by rw [sendMetric_pc]) (sendMetric_flow _)
  | consumed hmetrics => exact h.of_flow (by rw [consumeMetric_pc]) (consumeMetric_flow _)
  | apart ha hpc hpaused hflow =>
    cases action with
    | driver answer => exact absurd rfl (ha answer)
    | _ => exact h.of_flow (by rw [hpc]) hflow

end InStep

/-- What holds between two steps of the run loop. -/
structure Bounded (r : Supplied) : Prop where
  capped : Capped r.state
  connected : Connected r.state
  closed : Closed r.state
  load : r.state.current.load ≤ 23
  inStep : InStep r.state r.handed

namespace Bounded

variable {aead : Aead} {r r' : Supplied}

theorem commands_le (h : Bounded r) : r.state.current.commands.length ≤ 23 := by
  have hwaiting := r.state.current.commands_le_waiting
  have hload := h.load
  rw [DeadlineSender.load] at hload
  omega

theorem load_step {s t : MediaState} {action : Action} (hcapped : Capped t) (hconnected : Connected t)
    (hclosed : Closed t) (hc : Connected s) (hload : s.current.load ≤ 23)
    (hstep : s.step aead action = some t) : t.current.load ≤ 23 := by
  by_cases hcut : t.pc.link = .cut
  · cases step_happens hstep with
    | driver he => exact (load_cut hc he (.driverStep hstep) hcut).trans hload
    | sender hmove => exact (DeadlineSender.load_move hmove).trans hload
    | oldSender hget hmove => exact hload
    | produced pushed hpc hpaused hflow | apart ha hpc hpaused hflow =>
      rw [show t.current = s.current from congrArg Flow.current hflow]
      exact hload
    | metric =>
      rw [sendMetric_current]
      exact hload
    | @consumed m metrics hmetrics =>
      rw [show (({ s with metrics } : MediaState).consumeMetric m).current = s.current from
        congrArg Flow.current (consumeMetric_flow m)]
      exact hload
  · exact hcapped.load_le hconnected hclosed hcut

theorem step {action : Action} (h : Bounded r) (haction : action.Regular)
    (hstep : Supplied.step aead r action = some r') : Bounded r' := by
  have hroom := h.commands_le
  have hinStep := h.inStep.step h.connected h.capped hstep
  obtain ⟨t, ht, rfl⟩ := Option.map_eq_some_iff.mp hstep
  have hhappens := step_happens ht
  have hcapped := h.capped.step h.connected (by omega) haction ht
  have hconnected := h.connected.happens hhappens
  have hclosed := h.closed.happens h.connected hhappens
  exact ⟨hcapped, hconnected, hclosed,
    load_step hcapped hconnected hclosed h.connected h.load ht, hinStep⟩

theorem start (playbackEpoch : ℕ) (preparer : VoicePacketPreparer) (source : SourceBufferState)
    (position : ℕ) (hsource : ∀ f ∈ source.queue.inner, Regular f) :
    Bounded ⟨.start playbackEpoch preparer source position, []⟩ where
  capped := .start playbackEpoch preparer source position hsource
  connected := .start playbackEpoch preparer source position
  closed h := nomatch h
  load := Nat.zero_le _
  inStep := .of_ahead rfl ⟨preparer.reservedSequence, rfl⟩

end Bounded

/-- The three buffers are within their caps, and no branch for an overflow lies ahead. -/
structure WithinCaps (s : MediaState) : Prop where
  samples : pendingTrackSamples s.pending + durationSamples (preparedFrames s.prepared) +
    s.egress.bufferedSamples ≤ 19200
  pending : s.pending.length ≤ 23
  pumped : ∀ site, s.pc = .silence site → s.prepared = []
  taken : ∀ route next f, s.pc ≠ .refillRestore route next f
  restored : ∀ reason frames, s.pc = .flush reason frames →
    (s.flushEgressBuffer reason frames).egress.inner =
        frames ++ preparedFrames s.prepared ++ s.egress.inner ∧
      (s.flushEgressBuffer reason frames).pc = .restore reason []
  prepares : ∀ route f egress, s.pc = .fillPop route → s.egress.pop = some (f, egress) →
    preparedFits s.prepared f = true
  commands : s.current.commands.length < liveDeadlineCommandChannelCapacity
  records : s.current.sendRecords.length < liveDeadlineRecordChannelCapacity

theorem Capped.samples_le {s : MediaState} (h : Capped s) :
    pendingTrackSamples s.pending + durationSamples (preparedFrames s.prepared) +
      s.egress.bufferedSamples ≤ 19200 := by
  have hfew := h.few
  rw [inPlay_length] at hfew
  rw [h.pendingTrackSamples_eq, h.preparedSamples_eq, h.bufferedSamples_eq]
  omega

theorem Bounded.withinCaps {r : Supplied} (h : Bounded r) : WithinCaps r.state where
  samples := h.capped.samples_le
  pending := h.capped.pending_le
  pumped := by
    intro site hpc
    rcases h.capped.prepared with hnone | hprepares
    · exact hnone
    · rw [hpc] at hprepares
      cases hprepares
  taken := by
    intro route next f hpc
    have hheld := h.capped.held
    rw [hpc] at hheld
    cases hheld
  restored := by
    intro reason frames hpc
    have hall := h.capped.flush_all hpc
    constructor
    · simp only [flushEgressBuffer, hall]
    · simp only [flushEgressBuffer, hall]
      rfl
  prepares := by
    intro route f egress hpc hpop
    obtain ⟨hinner, -⟩ := OpusFrameQueue.pop_some hpop
    have hregular := h.capped.regular
    have hfew := h.capped.few
    rw [Capped.inPlay_length, hinner, List.length_cons] at hfew
    refine preparedFits_of_room (fun g hg ↦ ?_) ?_ (by omega)
    · exact hregular g ((Capped.mem_inPlay g).mpr (.inr (.inr (.inl hg))))
    · apply hregular f
      rw [Capped.mem_inPlay, hinner]
      exact .inr (.inr (.inr List.mem_cons_self))
  commands := h.commands_le.trans_lt (by decide)
  records := by
    have hload := h.load
    rw [DeadlineSender.load] at hload
    rw [liveDeadlineRecordChannelCapacity]
    omega

/-- With frames as the normaliser makes them, the buffers of the driver stay within their caps in
every run, and what the preparer reserves for its sender one after another reaches it in that
order. -/
theorem buffers_within_caps (aead : Aead) (playbackEpoch : ℕ) (preparer : VoicePacketPreparer)
    (source : SourceBufferState) (position : ℕ) (actions : List Action) {s : MediaState}
    {handed : List PreparedPlayoutCommand} (hsource : ∀ f ∈ source.queue.inner, Regular f)
    (hactions : ∀ action ∈ actions, action.Regular)
    (h : exec (Supplied.step aead) ⟨.start playbackEpoch preparer source position, []⟩ actions =
      some ⟨s, handed⟩) :
    WithinCaps s ∧ ∃ first next, CursorPath first handed next := by
  have hbounded : Bounded ⟨s, handed⟩ := exec_induction (fun _ _ _ hr ↦ Bounded.step hr)
    (Bounded.start playbackEpoch preparer source position hsource)
    (throughout_of_forall hactions _) h
  exact ⟨hbounded.withinCaps, hbounded.inStep.path⟩

/-- Three frames go from the egress buffer to the sender. -/
def prepareThreeFrames : List Action :=
  [payload] ++ goes 3 ++ [payload] ++ goes 3 ++ [payload] ++ goes 5 ++ [payload] ++ goes 4 ++ [payload]

/-- Three frames that the producer hands over are in the hands of the sender when a pause comes, and
again after it. -/
def threeFramesPaused : List Action :=
  [.produce [plainFrame 0, plainFrame 1, plainFrame 2] false] ++ goes 6 ++
    [.driver (.drained false)] ++ goes 6 ++ prepareThreeFrames ++ goes 3 ++
    [.send .pause, .driver .command] ++ pauseThenResume ++ [.driver (.drained false)] ++ goes 3 ++
    prepareThreeFrames

theorem buffers_within_caps_threeFramesPaused :
    ∃ s handed, exec (Supplied.step plainAead) ⟨plainStart [] false, []⟩ threeFramesPaused =
        some ⟨s, handed⟩ ∧
      s.old.length = 1 ∧ s.wire.sent.length = stopAudioBoundarySilencePackets ∧
      handed.length = 8 ∧ s.pending.length = 3 ∧
      WithinCaps s ∧ ∃ first next, CursorPath first handed next := by
  have hends : (exec (Supplied.step plainAead) ⟨plainStart [] false, []⟩ threeFramesPaused).map
      (fun r ↦ (r.state.old.length, r.state.wire.sent.length, r.handed.length,
        r.state.pending.length)) = some (1, 5, 8, 3) := by
    decide +kernel
  obtain ⟨⟨s, handed⟩, hs, hends⟩ := Option.map_eq_some_iff.mp hends
  simp only [Prod.mk.injEq] at hends
  obtain ⟨hold, hsent, hhanded, hpending⟩ := hends
  exact ⟨s, handed, hs, hold, hsent, hhanded, hpending,
    buffers_within_caps plainAead _ _ _ _ _ (fun f hf ↦ (List.not_mem_nil hf).elim)
      (by decide +kernel) hs⟩

end DiscordVoice.Media
