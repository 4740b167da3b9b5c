import DiscordVoice.Playback.Producer

namespace DiscordVoice.Playback

open Voice (Bytes)
open Schedule

namespace OpusFrameQueue

def extended (q : OpusFrameQueue) (taken : List OpusFrame) : OpusFrameQueue :=
  { q with inner := q.inner ++ taken }

theorem canFitFrame_extended {q : OpusFrameQueue} {frame : OpusFrame} (taken : List OpusFrame)
    (h : q.canFitFrame frame = false) : (q.extended taken).canFitFrame frame = false := by
  rw [Bool.eq_false_iff, ne_eq, canFitFrame_iff] at h ⊢
  simp only [extended, durationSamples_append, byteLength_append, List.length_append]
  omega

/-- What has gone into a queue one frame after another keeps its duration limit. -/
def Within (q : OpusFrameQueue) : Prop := q.bufferedSamples ≤ q.maxDurationSamples

theorem within_push {q r : OpusFrameQueue} {f : OpusFrame} (h : q.push f = .ok r) : r.Within := by
  have hfit := canFitFrame_of_push h
  rw [push_ok h]
  simp only [canFitFrame, Bool.and_eq_true, decide_eq_true_eq] at hfit
  simp only [Within, bufferedSamples, durationSamples_append] at hfit ⊢
  simpa [durationSamples] using hfit.2

end OpusFrameQueue

/-- The first frame parked does not fit, if any is. -/
def Parked (queue : OpusFrameQueue) (parked : List OpusFrame) : Prop :=
  ∀ frame rest, parked = frame :: rest → queue.canFitFrame frame = false

theorem enqueueFrames_spec (queue : OpusFrameQueue) (parked frames : List OpusFrame) :
    ∃ taken refused, enqueueFrames queue parked frames = (queue.extended taken, parked ++ refused) ∧
      (taken ++ refused).Perm frames ∧ (queue.Within → (queue.extended taken).Within) ∧
      Parked (queue.extended taken) refused := by
  induction frames generalizing queue parked with
  | nil =>
    refine ⟨[], [], ?_, List.Perm.refl _, ?_, ?_⟩
    · simp [enqueueFrames, OpusFrameQueue.extended]
    · simp [OpusFrameQueue.extended]
    · intro frame rest h
      cases h
  | cons frame frames ih =>
    rcases hpush : queue.push frame with g | q
    · obtain ⟨taken, refused, heq, hperm, hwithin, -⟩ := ih queue (parked ++ [g])
      have hg : g = frame := OpusFrameQueue.push_error hpush
      refine ⟨taken, g :: refused, ?_, ?_, hwithin, ?_⟩
      · simp [enqueueFrames, hpush, heq]
      · rw [hg]
        exact List.perm_middle.trans (hperm.cons frame)
      · intro other rest hother
        obtain ⟨rfl, -⟩ := List.cons.inj hother
        exact OpusFrameQueue.canFitFrame_extended taken
          (hg ▸ OpusFrameQueue.push_error_unfit hpush)
    · obtain ⟨taken, refused, heq, hperm, hwithin, hparked⟩ := ih q parked
      have hq := OpusFrameQueue.push_ok hpush
      have hextended : q.extended taken = queue.extended (frame :: taken) := by
        simp [hq, OpusFrameQueue.extended]
      rw [hextended] at heq hwithin hparked
      refine ⟨frame :: taken, refused, ?_, hperm.cons frame, ?_, hparked⟩
      · simp [enqueueFrames, hpush, heq]
      · intro _
        exact hwithin (OpusFrameQueue.within_push hpush)

theorem drainPendingFrames_spec (queue : OpusFrameQueue) (parked : List OpusFrame) :
    ∃ taken left all, drainPendingFrames queue parked = (queue.extended taken, left, all) ∧
      taken ++ left = parked ∧ (queue.Within → (queue.extended taken).Within) ∧
      Parked (queue.extended taken) left ∧ (all = true ↔ left = []) := by
  induction parked generalizing queue with
  | nil =>
    refine ⟨[], [], true, ?_, rfl, ?_, ?_, by simp⟩
    · simp [drainPendingFrames, OpusFrameQueue.extended]
    · simp [OpusFrameQueue.extended]
    · intro frame rest h
      cases h
  | cons frame parked ih =>
    rcases hpush : queue.push frame with g | q
    · have hg : g = frame := OpusFrameQueue.push_error hpush
      refine ⟨[], g :: parked, false, ?_, by simp [hg], ?_, ?_, by simp⟩
      · simp [drainPendingFrames, hpush, OpusFrameQueue.extended]
      · simp [OpusFrameQueue.extended]
      · intro other rest hother
        obtain ⟨rfl, -⟩ := List.cons.inj hother
        exact OpusFrameQueue.canFitFrame_extended []
          (hg ▸ OpusFrameQueue.push_error_unfit hpush)
    · obtain ⟨taken, left, all, heq, hsplit, hwithin, hparked, hall⟩ := ih q
      have hq := OpusFrameQueue.push_ok hpush
      have hextended : q.extended taken = queue.extended (frame :: taken) := by
        simp [hq, OpusFrameQueue.extended]
      rw [hextended] at heq hwithin hparked
      refine ⟨frame :: taken, left, all, ?_, by simp [hsplit], ?_, hparked, hall⟩
      · simp [drainPendingFrames, hpush, heq]
      · intro _
        exact hwithin (OpusFrameQueue.within_push hpush)

namespace DiscordOpusFrameNormalizer

variable {codec : OpusCodec}

theorem emitFrames_ok {encoder : codec.Encoder} {n m : DiscordOpusFrameNormalizer codec} {left : ℕ}
    {frames out : List OpusFrame} (hframes : ∀ frame ∈ frames, frame.samples = 960)
    (h : emitFrames encoder n left frames = (.ok out, m)) :
    m.pendingPcm = n.pendingPcm.drop (left * frameValues) ∧
      ∀ frame ∈ out, frame.samples = 960 := by
  induction left generalizing encoder n frames with
  | zero =>
    cases h
    exact ⟨by simp, hframes⟩
  | succ left ih =>
    rcases hencode : codec.encode encoder (n.pendingPcm.take frameValues) with ⟨text | packet, next⟩
    · simp [emitFrames, hencode] at h
    · simp only [emitFrames, hencode] at h
      obtain ⟨hpcm, hout⟩ := ih (fun frame hframe ↦ by
        rcases List.mem_append.1 hframe with hold | hnew
        · exact hframes frame hold
        · rw [List.mem_singleton.1 hnew]
          rfl) h
      refine ⟨?_, hout⟩
      rw [hpcm, List.drop_drop, Nat.succ_mul, Nat.add_comm]

theorem emitReadyFrames_ok {n m : DiscordOpusFrameNormalizer codec} {out : List OpusFrame}
    (h : n.emitReadyFrames = (.ok out, m)) :
    m.pendingPcm = n.pendingPcm.drop (n.pendingPcm.length / frameValues * frameValues) ∧
      ∀ frame ∈ out, frame.samples = 960 := by
  unfold emitReadyFrames at h
  have hencoder : ∀ encoder r, n.ensureEncoder = .ok (encoder, r) → r.pendingPcm = n.pendingPcm := by
    intro encoder r hr
    unfold ensureEncoder at hr
    rcases hn : n.encoder with _ | e
    · rw [hn] at hr
      rcases hnew : codec.newEncoder with text | fresh <;> rw [hnew] at hr <;> cases hr
      rfl
    · rw [hn] at hr
      cases hr
      rfl
  rcases hn : n.ensureEncoder with e | ⟨encoder, r⟩
  · rw [hn] at h
    cases h
  · rw [hn] at h
    have hpcm := hencoder encoder r hn
    have hemitted := emitFrames_ok (by simp) h
    rwa [hpcm] at hemitted

theorem flush_ok {n m : DiscordOpusFrameNormalizer codec} {out : List OpusFrame}
    (h : n.flush = (.ok out, m)) : m.pendingPcm = [] ∧ ∀ frame ∈ out, frame.samples = 960 := by
  unfold flush at h
  by_cases hempty : n.pendingPcm = []
  · rw [if_pos hempty] at h
    cases h
    exact ⟨hempty, by simp⟩
  · rw [if_neg hempty] at h
    obtain ⟨hpcm, hout⟩ := emitReadyFrames_ok h
    refine ⟨?_, hout⟩
    rw [hpcm, List.drop_eq_nil_iff]
    have hlength : (resized frameValues codec.silence n.pendingPcm).length = frameValues := by
      simp only [resized, List.length_append, List.length_take, List.length_replicate]
      omega
    simp only [hlength]
    decide

theorem pushPacket_ok {n m : DiscordOpusFrameNormalizer codec} {packet : DemuxedPacket}
    {out : List OpusFrame} (h : n.pushPacket packet = (.ok out, m)) :
    ∀ frame ∈ out, frame.samples = 960 := by
  unfold pushPacket at h
  simp only at h
  split_ifs at h
  · cases h
    intro frame hframe
    rw [List.mem_singleton.1 hframe]
    rfl
  · rcases hdecoded : decodePacket _ packet with ⟨e | _, r⟩
    · rw [hdecoded] at h
      cases h
    · rw [hdecoded] at h
      exact (emitReadyFrames_ok h).2

end DiscordOpusFrameNormalizer

namespace Filling

variable {codec : OpusCodec} {lib : WebmIterable}

/-- The stream has come to its end and nothing is left on the way to the queue. -/
structure Ended (f : Filling codec) : Prop where
  eof : f.log.lastRead = some none
  flushed : f.worker.normalizer.pendingPcm = []
  parked : f.worker.pendingFrames = []
  packets : f.source.pendingPackets = []

/-- What stops a fill before the stream's end: the target, a full queue, or a parked frame that does
not fit. -/
def Stuck (f : Filling codec) : Prop :=
  f.reached = true ∨ f.worker.pendingFrames ≠ [] ∧ Parked f.queue f.worker.pendingFrames

/-- Every frame the normalizer has yielded is in the source buffer, in the queue or parked. -/
structure Balanced (pushed : List OpusFrame) (f : Filling codec) : Prop where
  accounts : f.log.produced.Perm (pushed ++ (f.queue.inner ++ f.worker.pendingFrames))
  samples : ∀ frame ∈ f.queue.inner ++ f.worker.pendingFrames, frame.samples = 960
  within : f.queue.Within

/-- The limits of the queue and the target, which a fill leaves as they are. -/
def bounds (f : Filling codec) : OpusFrameQueue × ℕ := (f.queue.cleared, f.targetSamples)

variable {pushed : List OpusFrame} {f : Filling codec}

theorem enqueued_balanced {frames : List OpusFrame} (h : f.Balanced pushed)
    (hframes : ∀ frame ∈ frames, frame.samples = 960) :
    (f.enqueued frames).Balanced pushed ∧ (f.enqueued frames).bounds = f.bounds ∧
      (f.worker.pendingFrames = [] →
        Parked (f.enqueued frames).queue (f.enqueued frames).worker.pendingFrames) := by
  obtain ⟨taken, refused, heq, hperm, hwithin, hparked⟩ :=
    enqueueFrames_spec f.queue f.worker.pendingFrames frames
  have henqueued : f.enqueued frames =
      { f.withFrames (f.queue.extended taken) (f.worker.pendingFrames ++ refused) with
        log := { f.log with produced := f.log.produced ++ frames } } := by
    simp only [enqueued, heq]
  rw [henqueued]
  have hmoved : (f.queue.inner ++ f.worker.pendingFrames ++ frames).Perm
      (f.queue.inner ++ taken ++ (f.worker.pendingFrames ++ refused)) := by
    have hsplit : (f.worker.pendingFrames ++ frames).Perm
        (taken ++ (f.worker.pendingFrames ++ refused)) := by
      refine (List.Perm.append_left _ hperm.symm).trans ?_
      rw [← List.append_assoc, ← List.append_assoc]
      exact List.Perm.append_right refused List.perm_append_comm
    rw [List.append_assoc, List.append_assoc]
    exact List.Perm.append_left _ hsplit
  refine ⟨⟨?_, ?_, hwithin h.within⟩, rfl, ?_⟩
  · refine (List.Perm.append_right frames h.accounts).trans ?_
    rw [List.append_assoc]
    exact List.Perm.append_left pushed hmoved
  · intro frame hframe
    have hmem := hmoved.mem_iff.2 hframe
    rcases List.mem_append.1 hmem with hold | hnew
    · exact h.samples frame hold
    · exact hframes frame hnew
  · intro hempty
    simpa [withFrames, hempty] using hparked

theorem bufferPacket_balanced (h : f.Balanced pushed) (packet : DemuxedPacket) :
    (f.bufferPacket packet).2.Balanced pushed ∧ (f.bufferPacket packet).2.bounds = f.bounds := by
  unfold bufferPacket
  rcases hpushed : f.worker.normalizer.pushPacket packet with ⟨e | frames, normalizer⟩
  · exact ⟨⟨h.accounts, h.samples, h.within⟩, rfl⟩
  · have hframes := DiscordOpusFrameNormalizer.pushPacket_ok hpushed
    have hbalanced := enqueued_balanced
      (f := { f.withNormalizer normalizer with
        source := { f.source with position := f.source.position.recordBuffered packet } })
      ⟨h.accounts, h.samples, h.within⟩ hframes
    exact ⟨hbalanced.1, hbalanced.2.1⟩

theorem Balanced.withPc (h : f.Balanced pushed) (pc : FillPc) : (f.withPc pc).Balanced pushed :=
  ⟨h.accounts, h.samples, h.within⟩

def awaiting (f : Filling codec) : Prop :=
  match f.pc with
  | .reading _ | .resolving _ | .yielding _ => True
  | .loop | .returned _ => False

/-- A balanced fill that has nothing parked when it awaits, and that returns at the stream's end or
because something stops it. -/
structure Sound (pushed : List OpusFrame) (f : Filling codec) : Prop where
  balanced : f.Balanced pushed
  drained : f.awaiting → f.worker.pendingFrames = [] ∧ f.source.pendingPackets = []
  returned : f.pc = .returned (.ok ()) → f.Ended ∨ f.Stuck

theorem sound_loop (h : f.Balanced pushed) : (f.withPc .loop).Sound pushed :=
  ⟨h.withPc _, fun hawaits ↦ hawaits.elim, fun hpc ↦ by cases hpc⟩

theorem sound_error (h : f.Balanced pushed) (e : PlaybackError) :
    (f.withPc (.returned (.error e))).Sound pushed :=
  ⟨h.withPc _, fun hawaits ↦ hawaits.elim, fun hpc ↦ by cases hpc⟩

theorem sound_stuck (h : f.Balanced pushed) (hstuck : f.Stuck) :
    (f.withPc (.returned (.ok ()))).Sound pushed :=
  ⟨h.withPc _, fun hawaits ↦ hawaits.elim, fun _ ↦ .inr hstuck⟩

theorem bufferPackets_sound (h : f.Balanced pushed) (packets : List DemuxedPacket) :
    (f.bufferPackets packets).Sound pushed ∧ (f.bufferPackets packets).bounds = f.bounds := by
  induction packets generalizing f with
  | nil => exact ⟨sound_loop h, rfl⟩
  | cons packet packets ih =>
    unfold bufferPackets
    split_ifs
    · refine ⟨⟨⟨h.accounts, h.samples, h.within⟩, fun hawaits ↦ hawaits.elim, ?_⟩, rfl⟩
      intro hpc
      cases hpc
    · have hpacket := bufferPacket_balanced h packet
      rcases hbuffered : f.bufferPacket packet with ⟨e | _, g⟩
      · rw [hbuffered] at hpacket
        exact ⟨sound_error hpacket.1 e, hpacket.2⟩
      · rw [hbuffered] at hpacket
        obtain ⟨hsound, hbounds⟩ := ih hpacket.1
        exact ⟨hsound, hbounds.trans hpacket.2⟩

theorem drained_balanced {taken left : List OpusFrame} (h : f.Balanced pushed)
    (hsplit : taken ++ left = f.worker.pendingFrames) (hwithin : (f.queue.extended taken).Within) :
    (f.withFrames (f.queue.extended taken) left).Balanced pushed := by
  have hsame : (f.queue.extended taken).inner ++ left = f.queue.inner ++ f.worker.pendingFrames := by
    rw [← hsplit, ← List.append_assoc]
    rfl
  refine ⟨?_, ?_, hwithin⟩
  · have haccounts := h.accounts
    rwa [← hsame] at haccounts
  · have hsamples := h.samples
    rwa [← hsame] at hsamples

theorem pass_sound (h : f.Balanced pushed) :
    f.pass.Sound pushed ∧ f.pass.bounds = f.bounds := by
  unfold pass
  split_ifs with hreached
  · exact ⟨sound_stuck h (.inl hreached), rfl⟩
  obtain ⟨taken, left, all, heq, hsplit, hwithin, hparked, hall⟩ :=
    drainPendingFrames_spec f.queue f.worker.pendingFrames
  have hdrained := drained_balanced h hsplit (hwithin h.within)
  rw [heq]
  cases all with
  | false =>
    have hleft : left ≠ [] := fun hnil ↦ by simp [hnil] at hall
    exact ⟨sound_stuck hdrained (.inr ⟨hleft, hparked⟩), rfl⟩
  | true =>
    simp only
    split_ifs with hfilled
    · exact ⟨sound_stuck hdrained (.inl hfilled), rfl⟩
    rcases hpackets : (f.withFrames (f.queue.extended taken) left).source.pendingPackets with
      _ | ⟨packet, rest⟩
    · refine ⟨⟨hdrained.withPc _, fun _ ↦ ⟨hall.1 rfl, hpackets⟩, fun hpc ↦ ?_⟩, rfl⟩
      cases hpc
    · simp only
      have hpacket := bufferPacket_balanced
        (f := { f.withFrames (f.queue.extended taken) left with
          source := { (f.withFrames (f.queue.extended taken) left).source with
            pendingPackets := rest } })
        ⟨hdrained.accounts, hdrained.samples, hdrained.within⟩ packet
      rcases hbuffered : bufferPacket _ packet with ⟨e | _, g⟩
      · rw [hbuffered] at hpacket
        exact ⟨sound_error hpacket.1 e, hpacket.2⟩
      · rw [hbuffered] at hpacket
        exact ⟨sound_loop hpacket.1, hpacket.2⟩

theorem failedRead_sound (h : f.Balanced pushed) (hparked : f.worker.pendingFrames = [])
    (hpackets : f.source.pendingPackets = []) (e : PlaybackError) (attempt : ReadAttempt) :
    (f.failedRead e attempt).Sound pushed ∧ (f.failedRead e attempt).bounds = f.bounds := by
  have hreresolve : (f.reresolve e).Sound pushed ∧ (f.reresolve e).bounds = f.bounds := by
    unfold reresolve
    cases f.videoId with
    | none => exact ⟨sound_error h e, rfl⟩
    | some videoId =>
      refine ⟨⟨h.withPc _, fun _ ↦ ⟨hparked, hpackets⟩, fun hpc ↦ ?_⟩, rfl⟩
      cases hpc
  cases attempt with
  | first =>
    simp only [failedRead]
    split_ifs
    · refine ⟨⟨⟨h.accounts, h.samples, h.within⟩, fun _ ↦ ⟨hparked, hpackets⟩, fun hpc ↦ ?_⟩, rfl⟩
      cases hpc
    · exact hreresolve
    · exact ⟨sound_error h e, rfl⟩
  | afterReset =>
    simp only [failedRead]
    split_ifs
    · exact hreresolve
    · exact ⟨sound_error h e, rfl⟩
  | afterResolve => exact ⟨sound_error h e, rfl⟩

theorem readEnd_sound (h : f.Balanced pushed) (hparked : f.worker.pendingFrames = [])
    (hpackets : f.source.pendingPackets = []) :
    f.readEnd.Sound pushed ∧ f.readEnd.bounds = f.bounds := by
  unfold readEnd
  simp only
  rcases hflush : f.worker.normalizer.flush with ⟨e | frames, normalizer⟩
  · exact ⟨⟨⟨h.accounts, h.samples, h.within⟩, fun hawaits ↦ hawaits.elim, fun hpc ↦ by cases hpc⟩,
      rfl⟩
  · obtain ⟨hpcm, hframes⟩ := DiscordOpusFrameNormalizer.flush_ok hflush
    obtain ⟨hbalanced, hbounds, hrefused⟩ := enqueued_balanced
      (f := withNormalizer { f with log := { f.log with lastRead := some none } } normalizer)
      ⟨h.accounts, h.samples, h.within⟩ hframes
    refine ⟨⟨hbalanced.withPc _, fun hawaits ↦ hawaits.elim, fun _ ↦ ?_⟩, hbounds⟩
    by_cases hleft : (enqueued (withNormalizer
        { f with log := { f.log with lastRead := some none } } normalizer)
        frames).worker.pendingFrames = []
    · exact .inl ⟨rfl, hpcm, hleft, hpackets⟩
    · exact .inr (.inr ⟨hleft, hrefused hparked⟩)

theorem readChunk_sound (h : f.Balanced pushed) (hparked : f.worker.pendingFrames = [])
    (hpackets : f.source.pendingPackets = []) (chunk : Bytes) :
    (f.readChunk lib chunk).Sound pushed ∧ (f.readChunk lib chunk).bounds = f.bounds := by
  unfold readChunk
  simp only
  rcases (f.source.demux.pushBytes chunk).drainPackets lib with e | ⟨packets, demux⟩
  · exact ⟨⟨⟨h.accounts, h.samples, h.within⟩, fun hawaits ↦ hawaits.elim, fun hpc ↦ by cases hpc⟩,
      rfl⟩
  · exact ⟨⟨⟨h.accounts, h.samples, h.within⟩, fun _ ↦ ⟨hparked, hpackets⟩, fun hpc ↦ by cases hpc⟩,
      rfl⟩

theorem step_sound {g : Filling codec} {move : FillMove} (h : f.Sound pushed)
    (hmove : ∀ queue targetMs, move ≠ .begin queue targetMs) (hstep : f.step lib move = some g) :
    g.Sound pushed ∧ g.bounds = f.bounds := by
  have hbalanced := h.balanced
  unfold step at hstep
  split at hstep
  · rename_i queue targetMs hpc
    exact absurd rfl (hmove queue targetMs)
  · cases hstep
    exact pass_sound hbalanced
  · rename_i attempt answer hpc
    obtain ⟨hparked, hpackets⟩ := h.drained (by simp [awaiting, hpc])
    obtain ⟨pass, hpass, rfl⟩ := Option.map_eq_some_iff.1 hstep
    rcases pass with stream | ⟨result, stream⟩
    · refine ⟨⟨⟨hbalanced.accounts, hbalanced.samples, hbalanced.within⟩,
        fun _ ↦ ⟨hparked, hpackets⟩, fun hreturned ↦ ?_⟩, rfl⟩
      exact FillPc.noConfusion (hpc.symm.trans hreturned)
    · have hmoved : (f.withStream stream).Balanced pushed :=
        ⟨hbalanced.accounts, hbalanced.samples, hbalanced.within⟩
      rcases result with e | _ | chunk
      · exact failedRead_sound hmoved hparked hpackets e attempt
      · exact readEnd_sound hmoved hparked hpackets
      · exact readChunk_sound hmoved hparked hpackets chunk
  · rename_i attempt hpc
    cases hstep
    obtain ⟨hparked, hpackets⟩ := h.drained (by simp [awaiting, hpc])
    exact failedRead_sound hbalanced hparked hpackets _ attempt
  · rename_i videoId song playableUrl hpc
    obtain ⟨hparked, hpackets⟩ := h.drained (by simp [awaiting, hpc])
    rcases hresolved : resolvePlaybackSource song fun _ ↦ playableUrl with e | resolved
    · rw [hresolved] at hstep
      cases hstep
      exact ⟨sound_error hbalanced e, rfl⟩
    · rw [hresolved] at hstep
      cases hstep
      refine ⟨⟨⟨hbalanced.accounts, hbalanced.samples, hbalanced.within⟩,
        fun _ ↦ ⟨hparked, hpackets⟩, fun hreturned ↦ ?_⟩, rfl⟩
      cases hreturned
  · cases hstep
    exact bufferPackets_sound hbalanced _
  · cases hstep

/-- Below its target and with no packet left, the fill holds less than the memory cap. -/
def Roomy (f : Filling codec) : Prop :=
  f.targetSamples ≤ f.queue.bufferedSamples ∨ f.source.pendingPackets ≠ [] ∨
    byteLength (f.queue.inner ++ f.worker.pendingFrames) < f.queue.maxBytes

/-- A fill that returns short of a target of whole frames, with room left for a frame and no packet
to buffer, has come to the end of the stream. -/
theorem ended_of_short {targetMs : ℕ} (h : f.Sound pushed) (hpc : f.pc = .returned (.ok ()))
    (hbounds : f.bounds = (playbackQueue targetMs, samplesFromDurationMs targetMs))
    (hmax : targetMs ≤ 5000) (hwhole : 20 ∣ targetMs) (hroomy : f.Roomy)
    (hshort : f.queue.bufferedSamples < samplesFromDurationMs targetMs)
    (hpackets : f.source.pendingPackets = []) : f.Ended := by
  obtain ⟨hqueue, htarget⟩ := Prod.mk.inj hbounds
  have hcapacity : f.queue.capacity = 1024 := congrArg OpusFrameQueue.capacity hqueue
  have hduration : f.queue.maxDurationSamples = samplesFromDurationMs targetMs :=
    congrArg OpusFrameQueue.maxDurationSamples hqueue
  have hbytes : byteLength (f.queue.inner ++ f.worker.pendingFrames) < f.queue.maxBytes := by
    rcases hroomy with hreached | hleft | hbytes
    · omega
    · exact absurd hpackets hleft
    · exact hbytes
  rw [byteLength_append] at hbytes
  have hbuffered : f.queue.bufferedSamples = 960 * f.queue.inner.length :=
    durationSamples_of_samples fun frame hframe ↦
      h.balanced.samples frame (List.mem_append_left _ hframe)
  unfold samplesFromDurationMs at hshort hduration htarget
  rcases h.returned hpc with hended | hreached | ⟨hleft, hparked⟩
  · exact hended
  · simp only [reached, OpusFrameQueue.isFull, Bool.or_eq_true, decide_eq_true_eq] at hreached
    omega
  · obtain ⟨frame, rest, hframes⟩ := List.exists_cons_of_ne_nil hleft
    have hunfit := hparked frame rest hframes
    have hsamples := h.balanced.samples frame (by simp [hframes])
    have hsize : frame.byteLen ≤ byteLength f.worker.pendingFrames := by
      simp [hframes, byteLength]
    have hfit : f.queue.canFitFrame frame = true := by
      simp only [OpusFrameQueue.canFitFrame, Bool.and_eq_true, decide_eq_true_eq]
      omega
    rw [hunfit] at hfit
    cases hfit

theorem pass_packet {packet : DemuxedPacket} {rest : List DemuxedPacket}
    {frames parked : List OpusFrame} {normalizer : DiscordOpusFrameNormalizer codec}
    {queue : OpusFrameQueue} (hreached : f.reached = false)
    (hparked : f.worker.pendingFrames = []) (hpackets : f.source.pendingPackets = packet :: rest)
    (hpush : f.worker.normalizer.pushPacket packet = (.ok frames, normalizer))
    (henqueue : enqueueFrames f.queue [] frames = (queue, parked)) :
    f.pass = { f with
      worker := { f.worker with normalizer, pendingFrames := parked }
      source := { f.source with
        pendingPackets := rest, position := f.source.position.recordBuffered packet }
      queue
      log := { f.log with produced := f.log.produced ++ frames }
      pc := .loop } := by
  have hsame : f.withFrames f.queue [] = f := by
    simp only [withFrames, ← hparked]
  unfold pass
  simp only [hreached, hparked, drainPendingFrames, hsame, hpackets, bufferPacket, hpush,
    Bool.false_eq_true, if_false, enqueued, withNormalizer, henqueue]
  rfl

theorem pass_stuck {frame : OpusFrame} {rest : List OpusFrame} (hreached : f.reached = false)
    (hparked : f.worker.pendingFrames = frame :: rest)
    (hunfit : f.queue.canFitFrame frame = false) : f.pass = f.withPc (.returned (.ok ())) := by
  have hsame : f.withFrames f.queue (frame :: rest) = f := by
    simp only [withFrames, ← hparked]
  have hrefused : f.queue.push frame = .error frame := by
    simp [OpusFrameQueue.push, hunfit]
  simp only [pass, hreached, hparked, drainPendingFrames, hrefused, hsame, Bool.false_eq_true,
    if_false]

end Filling

theorem pushAll_true {queue r : OpusFrameQueue} {frames pushed : List OpusFrame}
    (h : pushAll queue frames = (r, pushed, true)) : pushed = frames := by
  induction frames generalizing queue r pushed with
  | nil =>
    cases h
    rfl
  | cons frame frames ih =>
    rcases hpush : queue.push frame with e | q
    · simp [pushAll, hpush] at h
    · rcases hrest : pushAll q frames with ⟨s, rest, all⟩
      simp only [pushAll, hpush, hrest, Prod.mk.injEq] at h
      obtain ⟨-, rfl, rfl⟩ := h
      rw [ih hrest]

namespace Track

variable {codec : OpusCodec} {lib : WebmIterable}

/-- A refill is of whole frames, and no fill is judged that the memory cap has stopped. -/
def Ample (t : Track codec) : TrackMove → Prop
  | .refill bufferTargetMs =>
    ∀ targetMs ∈ refillTargetMs bufferTargetMs
      (durationMsFromSamples t.buffer.queue.bufferedSamples), 20 ∣ targetMs
  | .buffered | .refilled => t.fill.Roomy
  | .fill _ | .prepared | .drive _ => True

instance (t : Track codec) (move : TrackMove) : Decidable (t.Ample move) :=
  match move with
  | .refill _ => inferInstanceAs (Decidable (∀ _ ∈ refillTargetMs _ _, _))
  | .buffered | .refilled => inferInstanceAs (Decidable (_ ∨ _ ∨ _))
  | .fill _ | .prepared | .drive _ => isTrue trivial

def BoundsOf (fill : Filling codec) : TrackPhase → Prop
  | .preparing => fill.queue.cleared = playbackQueue playbackSourceBufferHighWatermarkMs
  | .buffering =>
    fill.bounds = (playbackQueue playbackSourceBufferHighWatermarkMs,
      samplesFromDurationMs playbackSourceBufferTargetMs)
  | .refilling targetMs =>
    fill.bounds = (playbackQueue targetMs, samplesFromDurationMs targetMs) ∧
      1 ≤ targetMs ∧ targetMs ≤ 5000 ∧ 20 ∣ targetMs
  | .idle | .stopped => True

structure Kept (t : Track codec) : Prop where
  balanced : t.phase ≠ .stopped → t.fill.Balanced t.pushed
  sound : t.filling = true → t.fill.Sound t.pushed
  bounded : BoundsOf t.fill t.phase
  unpushed : t.phase = .preparing ∨ t.phase = .buffering → t.pushed = []
  emptied : t.phase = .idle → t.fill.queue.inner = []
  unended : t.phase ≠ .stopped → t.buffer.endOfStream = false
  declared : t.buffer.endOfStream = true → t.fill.Ended ∧ t.fill.log.produced.Perm t.pushed

theorem refillTargetMs_le {bufferTargetMs bufferedMs targetMs : ℕ}
    (h : refillTargetMs bufferTargetMs bufferedMs = some targetMs) :
    1 ≤ targetMs ∧ targetMs ≤ 5000 := by
  simp only [refillTargetMs, playbackSourceBufferHighWatermarkMs,
    playbackSourceBufferRefillBatchMs] at h
  split_ifs at h
  cases h
  omega

theorem kept_start (worker : PlaybackWorker codec) (source : PlaybackSource) (videoId : String) :
    (start worker source videoId).Kept := by
  have hbalanced : (start worker source videoId).fill.Balanced [] :=
    ⟨List.Perm.refl _, by simp [start, playbackQueue, OpusFrameQueue.withResourceLimits],
      Nat.zero_le _⟩
  refine ⟨fun _ ↦ hbalanced, fun _ ↦ ⟨hbalanced, fun hawaits ↦ hawaits.elim, fun hpc ↦ ?_⟩, rfl,
    fun _ ↦ rfl, fun _ ↦ rfl, fun _ ↦ rfl, fun hend ↦ ?_⟩
  · cases hpc
  · cases hend

theorem kept_stopped {t : Track codec} (hphase : t.phase = .stopped)
    (hend : t.buffer.endOfStream = false) : t.Kept where
  balanced hp := absurd hphase hp
  sound hf := by simp [filling, hphase] at hf
  bounded := by rw [hphase]; trivial
  unpushed hp := by simp [hphase] at hp
  emptied hp := by simp [hphase] at hp
  unended _ := hend
  declared he := by rw [hend] at he; cases he

theorem kept_ended {t : Track codec} (hphase : t.phase = .stopped) (hended : t.fill.Ended)
    (hproduced : t.fill.log.produced.Perm t.pushed) : t.Kept where
  balanced hp := absurd hphase hp
  sound hf := by simp [filling, hphase] at hf
  bounded := by rw [hphase]; trivial
  unpushed hp := by simp [hphase] at hp
  emptied hp := by simp [hphase] at hp
  unended hp := absurd hphase hp
  declared _ := ⟨hended, hproduced⟩

theorem kept_idle {t : Track codec} (hphase : t.phase = .idle)
    (hbalanced : t.fill.Balanced t.pushed) (hempty : t.fill.queue.inner = [])
    (hend : t.buffer.endOfStream = false) : t.Kept where
  balanced _ := hbalanced
  sound hf := by simp [filling, hphase] at hf
  bounded := by rw [hphase]; trivial
  unpushed hp := by simp [hphase] at hp
  emptied _ := hempty
  unended _ := hend
  declared he := by rw [hend] at he; cases he

theorem boundsOf_congr {f g : Filling codec} {phase : TrackPhase} (h : BoundsOf f phase)
    (hbounds : g.bounds = f.bounds) : BoundsOf g phase := by
  have hqueue : g.queue.cleared = f.queue.cleared := congrArg Prod.fst hbounds
  cases phase with
  | preparing => exact hqueue.trans h
  | buffering => exact hbounds.trans h
  | refilling targetMs => exact ⟨hbounds.trans h.1, h.2⟩
  | idle => trivial
  | stopped => trivial

theorem kept_fill {t : Track codec} {move : FillMove} {fill : Filling codec} (h : t.Kept)
    (hfilling : t.filling = true) (hmove : ∀ queue targetMs, move ≠ .begin queue targetMs)
    (hstep : t.fill.step lib move = some fill) : Kept { t with fill } := by
  obtain ⟨hsound, hbounds⟩ := Filling.step_sound (h.sound hfilling) hmove hstep
  have hphase : t.phase ≠ .stopped := fun hp ↦ by simp [filling, hp] at hfilling
  refine ⟨fun _ ↦ hsound.balanced, fun _ ↦ hsound, boundsOf_congr h.bounded hbounds, h.unpushed,
    fun hp ↦ ?_, h.unended, fun hend ↦ ?_⟩
  · have hidle : t.phase = .idle := hp
    simp [filling, hidle] at hfilling
  · rw [h.unended hphase] at hend
    cases hend

theorem kept_prepared {t : Track codec} {result : Except PlaybackError Unit} (h : t.Kept)
    (hphase : t.phase = .preparing) : (t.afterPrepare result).Kept := by
  have hunended : t.buffer.endOfStream = false := h.unended (by simp [hphase])
  have hbalanced := h.balanced (by simp [hphase])
  have hbounded := h.bounded
  rw [hphase] at hbounded
  cases result with
  | error e => exact kept_stopped rfl hunended
  | ok _ =>
    simp only [afterPrepare]
    split_ifs
    · exact kept_stopped rfl hunended
    · have hkept : Filling.Balanced t.pushed { t.fill with
          worker := { t.fill.worker with currentVideoId := t.fill.videoId }
          targetSamples := samplesFromDurationMs playbackSourceBufferTargetMs
          pc := .loop } :=
        ⟨hbalanced.accounts, hbalanced.samples, hbalanced.within⟩
      refine ⟨fun _ ↦ hkept, fun _ ↦ ⟨hkept, fun hawaits ↦ hawaits.elim, fun hpc ↦ ?_⟩, ?_,
        fun _ ↦ h.unpushed (.inl hphase), fun hp ↦ ?_, fun _ ↦ hunended, fun hend ↦ ?_⟩
      · cases hpc
      · exact Prod.ext hbounded rfl
      · cases hp
      · rw [hunended] at hend
        cases hend

theorem emptied_balanced {t : Track codec} (h : t.fill.Balanced t.pushed) :
    t.emptied.Balanced (t.pushed ++ t.fill.queue.inner) := by
  refine ⟨?_, fun frame hframe ↦ ?_, Nat.zero_le _⟩
  · have haccounts := h.accounts
    rw [← List.append_assoc] at haccounts
    exact haccounts
  · exact h.samples frame (List.mem_append_right _ hframe)

theorem produced_perm {t : Track codec} (h : t.fill.Balanced t.pushed)
    (hparked : t.fill.worker.pendingFrames = []) :
    t.fill.log.produced.Perm (t.pushed ++ t.fill.queue.inner) := by
  have haccounts := h.accounts
  rwa [hparked, List.append_nil] at haccounts

theorem kept_buffered {t : Track codec} {result : Except PlaybackError Unit} (h : t.Kept)
    (hphase : t.phase = .buffering) (hpc : t.fill.pc = .returned result)
    (hroomy : t.fill.Roomy) : (t.afterBuffering result).Kept := by
  have hunended : t.buffer.endOfStream = false := h.unended (by simp [hphase])
  have hbalanced := h.balanced (by simp [hphase])
  have hsound := h.sound (by simp [filling, hphase])
  have hbounded := h.bounded
  rw [hphase] at hbounded
  cases result with
  | error e => exact kept_stopped rfl hunended
  | ok _ =>
    have hemptied := emptied_balanced hbalanced
    have hproduced := produced_perm hbalanced
    rw [h.unpushed (.inr hphase), List.nil_append] at hemptied hproduced
    simp only [afterBuffering]
    by_cases hended : (decide (t.fill.queue.bufferedSamples <
        samplesFromDurationMs playbackSourceBufferTargetMs) &&
          t.fill.source.pendingPackets.isEmpty) = true
    · rw [hended]
      simp only [Bool.and_eq_true, decide_eq_true_eq, List.isEmpty_iff] at hended
      have hend := Filling.ended_of_short hsound hpc hbounded le_rfl (by decide) hroomy hended.1
        hended.2
      exact kept_ended rfl ⟨hend.eof, hend.flushed, hend.parked, hend.packets⟩
        (hproduced hend.parked)
    · rw [Bool.eq_false_of_not_eq_true hended]
      exact kept_idle rfl hemptied rfl rfl

theorem kept_refilled {t : Track codec} {targetMs : ℕ} {result : Except PlaybackError Unit}
    (h : t.Kept) (hphase : t.phase = .refilling targetMs) (hpc : t.fill.pc = .returned result)
    (hroomy : t.fill.Roomy) : (t.afterRefill targetMs result).Kept := by
  have hunended : t.buffer.endOfStream = false := h.unended (by simp [hphase])
  have hbalanced := h.balanced (by simp [hphase])
  have hsound := h.sound (by simp [filling, hphase])
  have hbounded := h.bounded
  rw [hphase] at hbounded
  obtain ⟨hbounds, hpos, hmax, hwhole⟩ := hbounded
  cases result with
  | error e => exact kept_stopped rfl hunended
  | ok _ =>
    simp only [afterRefill]
    rcases hpushed : pushAll t.buffer.queue t.fill.queue.inner with ⟨queue, pushed, _ | _⟩
    · exact kept_stopped rfl hunended
    · have hall := pushAll_true hpushed
      subst hall
      by_cases hended : producerRefillReachedEndOfStream t.fill.queue.inner.length
          t.fill.queue.bufferedSamples targetMs t.fill.source.pendingPackets.isEmpty = true
      · simp only [hended, hunended, Bool.or_true, if_true]
        simp only [producerRefillReachedEndOfStream, Bool.and_eq_true, Bool.or_eq_true,
          beq_iff_eq, decide_eq_true_eq, List.isEmpty_iff] at hended
        have hshort : t.fill.queue.bufferedSamples < samplesFromDurationMs targetMs := by
          rcases hended.2 with hnone | hshort
          · rw [OpusFrameQueue.bufferedSamples, List.length_eq_zero_iff.1 hnone]
            simp only [durationSamples, List.map_nil, List.sum_nil, samplesFromDurationMs]
            omega
          · exact hshort
        have hend := Filling.ended_of_short hsound hpc hbounds hmax hwhole hroomy hshort hended.1
        exact kept_ended rfl ⟨hend.eof, hend.flushed, hend.parked, hend.packets⟩
          (produced_perm hbalanced hend.parked)
      · simp only [hended, hunended, Bool.or_self]
        exact kept_idle rfl (emptied_balanced hbalanced) rfl rfl

theorem kept_refill {t u : Track codec} {bufferTargetMs : ℕ} (h : t.Kept)
    (hample : t.Ample (.refill bufferTargetMs))
    (hstep : t.step lib (.refill bufferTargetMs) = some u) : u.Kept := by
  simp only [step] at hstep
  split at hstep
  · rename_i hphase
    have hunended : t.buffer.endOfStream = false := h.unended (by simp [hphase])
    have hbalanced := h.balanced (by simp [hphase])
    split_ifs at hstep
    · cases hstep
      exact kept_stopped rfl hunended
    · obtain ⟨targetMs, htarget, rfl⟩ := Option.map_eq_some_iff.1 hstep
      obtain ⟨hpos, hmax⟩ := refillTargetMs_le htarget
      have hbegun : (t.fill.begun (playbackQueue targetMs) targetMs
          t.fill.worker.currentVideoId).Balanced t.pushed := by
        have haccounts := hbalanced.accounts
        have hsamples := hbalanced.samples
        rw [h.emptied hphase] at haccounts hsamples
        exact ⟨haccounts, hsamples, Nat.zero_le _⟩
      refine ⟨fun _ ↦ hbegun, fun _ ↦ ⟨hbegun, fun hawaits ↦ hawaits.elim, fun hpc ↦ ?_⟩,
        ⟨?_, hpos, hmax, hample targetMs htarget⟩, fun hp ↦ ?_, fun hp ↦ ?_, fun _ ↦ hunended,
        fun hend ↦ ?_⟩
      · cases hpc
      · simp only [Filling.bounds, Filling.begun, max_eq_left hpos]
        rfl
      · simp at hp
      · cases hp
      · rw [hunended] at hend
        cases hend
  · cases hstep

theorem step_kept {t u : Track codec} {move : TrackMove} (h : t.Kept) (hample : t.Ample move)
    (hstep : t.step lib move = some u) : u.Kept := by
  cases move with
  | fill move =>
    by_cases hbegin : ∃ queue targetMs, move = .begin queue targetMs
    · obtain ⟨queue, targetMs, rfl⟩ := hbegin
      cases hstep
    · push Not at hbegin
      have hfill : t.step lib (.fill move) =
          if t.filling then (t.fill.step lib move).map fun fill ↦ { t with fill } else none := by
        cases move <;> first | rfl | exact absurd rfl (hbegin _ _)
      rw [hfill] at hstep
      split_ifs at hstep with hfilling
      obtain ⟨fill, hmoved, rfl⟩ := Option.map_eq_some_iff.1 hstep
      exact kept_fill h hfilling hbegin hmoved
  | prepared =>
    simp only [step] at hstep
    split at hstep
    · cases hstep
      exact kept_prepared h (by assumption)
    · cases hstep
  | buffered =>
    simp only [step] at hstep
    split at hstep
    · cases hstep
      exact kept_buffered h (by assumption) (by assumption) hample
    · cases hstep
  | refill bufferTargetMs => exact kept_refill h hample hstep
  | refilled =>
    simp only [step] at hstep
    split at hstep
    · cases hstep
      exact kept_refilled h (by assumption) (by assumption) hample
    · cases hstep
  | drive frames =>
    cases hstep
    exact ⟨h.balanced, h.sound, h.bounded, h.unpushed, h.emptied, h.unended, h.declared⟩

/-- When the end of the stream is declared, the stream has ended, the normalizer is flushed, nothing
is parked or left to buffer, and every frame of the track has gone into the source buffer. -/
theorem end_of_stream_final (lib : WebmIterable) (worker : PlaybackWorker codec)
    (source : PlaybackSource) (videoId : String) {moves : List TrackMove} {t : Track codec}
    (hample : Throughout (step lib) Ample (start worker source videoId) moves)
    (hrun : exec (step lib) (start worker source videoId) moves = some t)
    (hend : t.buffer.endOfStream = true) :
    t.fill.log.lastRead = some none ∧ t.fill.worker.normalizer.pendingPcm = [] ∧
      t.fill.worker.pendingFrames = [] ∧ t.fill.source.pendingPackets = [] ∧
      t.fill.log.produced.Perm t.pushed := by
  have hkept : t.Kept :=
    exec_induction (fun t move u ht hok hstep ↦ step_kept ht hok hstep)
      (kept_start worker source videoId) hample hrun
  obtain ⟨hended, hproduced⟩ := hkept.declared hend
  exact ⟨hended.eof, hended.flushed, hended.parked, hended.packets, hproduced⟩

theorem step_pass (lib : WebmIterable) (t : Track codec) (hfilling : t.filling = true)
    (hpc : t.fill.pc = .loop) :
    t.step lib (.fill .pass) = some { t with fill := t.fill.pass } := by
  simp [step, hfilling, Filling.step, hpc]

def stereoPacket (data : Bytes) : DemuxedPacket := ⟨data, 0, 0, 20, 960⟩

theorem pushPacket_stereoPacket {n : DiscordOpusFrameNormalizer codec} {data : Bytes}
    (hpcm : n.pendingPcm = []) (htoc : opusPacketChannels data = some 2) :
    n.pushPacket (stereoPacket data) =
      (.ok [discordFrame data (n.nextOutputPositionSamples.getD 0)],
        { n with
          nextOutputPositionSamples :=
            some (saturatingAdd (n.nextOutputPositionSamples.getD 0) 960) }) := by
  have hpass : isDiscordPassthroughPacket (stereoPacket data) = true := by
    simp [isDiscordPassthroughPacket, stereoPacket, htoc, discordChannels]
  unfold DiscordOpusFrameNormalizer.pushPacket
  simp only [hpcm, hpass, and_self, if_true]
  cases n.nextOutputPositionSamples <;> rfl

def openedWith (packets : List DemuxedPacket) : PlaybackSource :=
  ⟨⟨250, "first/250", none⟩, .new "first/250", .default, packets, .default⟩

/-- A track whose second packet is larger than the memory cap. -/
def oversized (data : Bytes) : Track idleCodec :=
  start playingWorker (openedWith [stereoPacket [0xFC], stereoPacket data]) "video"

def untilPlaying : List TrackMove :=
  [.fill .pass, .fill .pass, .fill .pass, .prepared, .fill .pass, .buffered]

def firstFrame : OpusFrameQueue :=
  { playbackQueue playbackSourceBufferHighWatermarkMs with inner := [discordFrame [0xFC] 0] }

theorem firstFrame_unfit {data : Bytes} (hsize : playbackBufferMemoryCapBytes < data.length)
    (position : ℕ) : firstFrame.canFitFrame (discordFrame data position) = false := by
  have hbytes : firstFrame.maxBytes = playbackBufferMemoryCapBytes := rfl
  have hframe : (discordFrame data position).byteLen = data.length := rfl
  simp only [OpusFrameQueue.canFitFrame, hbytes, hframe, Bool.and_eq_false_iff,
    decide_eq_false_iff_not]
  omega

/-- The oversized frame is parked beside the first one, and no packet is left. -/
structure Blocked (data : Bytes) (f : Filling idleCodec) : Prop where
  queue : f.queue = firstFrame
  parked : ∃ position, f.worker.pendingFrames = [discordFrame data position]
  packets : f.source.pendingPackets = []
  unread : f.log.lastRead = none

theorem reached_firstFrame {f : Filling idleCodec} (hqueue : f.queue = firstFrame)
    (htarget : 1000 ≤ f.targetSamples) : f.reached = false := by
  have hsamples : firstFrame.bufferedSamples = 960 := by decide +kernel
  have hroom : firstFrame.isFull = false := by decide +kernel
  simp only [Filling.reached, hqueue, hsamples, hroom, Bool.or_false, decide_eq_false_iff_not]
  omega

theorem blocked_twice {data : Bytes} (htoc : opusPacketChannels data = some 2)
    (hsize : playbackBufferMemoryCapBytes < data.length) :
    Blocked data (oversized data).fill.pass.pass ∧
      (oversized data).fill.pass.pc = .loop ∧ (oversized data).fill.pass.pass.pc = .loop ∧
      1000 ≤ (oversized data).fill.pass.pass.targetSamples := by
  have hfirst := Filling.pass_packet (f := (oversized data).fill)
    (show (decide (samplesFromDurationMs (max 80 1) ≤ (playbackQueue 5000).bufferedSamples) ||
      (playbackQueue 5000).isFull) = false by decide +kernel) rfl rfl
    (pushPacket_stereoPacket rfl rfl)
    (show enqueueFrames (playbackQueue 5000) [] [discordFrame [0xFC] 0] = (firstFrame, []) by
      decide +kernel)
  have hparks : ∀ position, enqueueFrames firstFrame [] [discordFrame data position] =
      (firstFrame, [discordFrame data position]) := by
    intro position
    simp [enqueueFrames, OpusFrameQueue.push, firstFrame_unfit hsize]
  have htarget : 1000 ≤ (oversized data).fill.targetSamples :=
    show 1000 ≤ samplesFromDurationMs (max 80 1) by decide
  obtain ⟨f, hf⟩ : ∃ f, f = (oversized data).fill.pass := ⟨_, rfl⟩
  rw [← hf] at hfirst ⊢
  have hqueue : f.queue = firstFrame := by rw [hfirst]
  have hreached : f.reached = false := reached_firstFrame hqueue (by rw [hfirst]; exact htarget)
  have hpackets : f.source.pendingPackets = [stereoPacket data] := by rw [hfirst]
  have hpcm : f.worker.normalizer.pendingPcm = [] := by
    rw [hfirst]
    rfl
  have henqueue := hparks (f.worker.normalizer.nextOutputPositionSamples.getD 0)
  rw [← hqueue] at henqueue
  have hsecond := Filling.pass_packet hreached (by rw [hfirst]) hpackets
    (pushPacket_stereoPacket hpcm htoc) henqueue
  rw [hsecond]
  refine ⟨⟨hqueue, ⟨_, rfl⟩, rfl, ?_⟩, ?_, rfl, ?_⟩
  · rw [hfirst]
    rfl
  · rw [hfirst]
  · rw [hfirst]
    exact htarget

theorem pass_blocked {data : Bytes} {f : Filling idleCodec} (h : Blocked data f)
    (hsize : playbackBufferMemoryCapBytes < data.length) (htarget : 1000 ≤ f.targetSamples) :
    f.pass = f.withPc (.returned (.ok ())) := by
  obtain ⟨position, hparked⟩ := h.parked
  refine Filling.pass_stuck (reached_firstFrame h.queue htarget) hparked ?_
  rw [h.queue]
  exact firstFrame_unfit hsize position

theorem declared_with_parked_frame {data : Bytes} (htoc : opusPacketChannels data = some 2)
    (hsize : playbackBufferMemoryCapBytes < data.length) :
    ∃ t, exec (step insideFirstTag) (oversized data) untilPlaying = some t ∧
      t.buffer.endOfStream = true ∧ t.fill.log.lastRead = none ∧
      t.fill.worker.pendingFrames ≠ [] := by
  obtain ⟨hblocked, hfirst, hsecond, htarget⟩ := blocked_twice htoc hsize
  obtain ⟨f, hf⟩ : ∃ f, f = (oversized data).fill.pass.pass := ⟨_, rfl⟩
  rw [← hf] at hblocked hsecond htarget
  obtain ⟨position, hparked⟩ := hblocked.parked
  obtain ⟨u, hu⟩ : ∃ u, u =
      afterPrepare { oversized data with fill := f.withPc (.returned (.ok ())) } (.ok ()) := ⟨_, rfl⟩
  have hnonempty : (f.withPc (.returned (.ok ()))).queue.inner ≠ [] := by
    simp [Filling.withPc, hblocked.queue, firstFrame]
  have hprepared := hu
  simp only [afterPrepare, hnonempty, if_false] at hu
  have hresumed : Blocked data u.fill := by
    rw [hu]
    exact ⟨hblocked.queue, hblocked.parked, hblocked.packets, hblocked.unread⟩
  have hplay : 1000 ≤ u.fill.targetSamples := by
    rw [hu]
    exact (by decide : 1000 ≤ samplesFromDurationMs playbackSourceBufferTargetMs)
  refine ⟨afterBuffering { u with fill := u.fill.withPc (.returned (.ok ())) } (.ok ()),
    ?_, ?_, ?_, ?_⟩
  · have hone : (oversized data).step insideFirstTag (.fill .pass) =
        some { oversized data with fill := (oversized data).fill.pass } :=
      step_pass insideFirstTag (oversized data) rfl rfl
    have htwo := step_pass insideFirstTag
      { oversized data with fill := (oversized data).fill.pass } rfl hfirst
    simp only [← hf] at htwo
    have hthree := step_pass insideFirstTag { oversized data with fill := f } rfl hsecond
    simp only [pass_blocked hblocked hsize htarget] at hthree
    have hfour : step insideFirstTag { oversized data with fill := f.withPc (.returned (.ok ())) }
        .prepared = some u := by
      rw [hprepared]
      rfl
    have hfive := step_pass insideFirstTag u (by rw [hu]; rfl) (by rw [hu])
    simp only [pass_blocked hresumed hsize hplay] at hfive
    have hsix : step insideFirstTag { u with fill := u.fill.withPc (.returned (.ok ())) } .buffered =
        some (afterBuffering { u with fill := u.fill.withPc (.returned (.ok ())) } (.ok ())) := by
      rw [hu]
      rfl
    simp only [untilPlaying, exec, hone, htwo, hthree, hfour, hfive, hsix, Option.bind_some]
  · simp only [afterBuffering, Filling.withPc, hresumed.queue, hresumed.packets]
    decide +kernel
  · exact hresumed.unread
  · obtain ⟨position, hparked⟩ := hresumed.parked
    simp [afterBuffering, emptied, Filling.withPc, hparked]

/-- A packet over the memory cap is parked for good, and the stream it was read from is taken to have
ended before it was ever asked. -/
theorem end_of_stream_early :
    ∃ t, exec (step insideFirstTag) (oversized (0xFC :: List.replicate 4194304 0)) untilPlaying =
        some t ∧ t.buffer.endOfStream = true ∧ t.fill.log.lastRead = none ∧
      t.fill.worker.pendingFrames ≠ [] :=
  declared_with_parked_frame rfl (by
    rw [List.length_cons, List.length_replicate]
    decide)

def emptyBody : Response := ⟨200, "OK", some 0, none, []⟩

end Track

namespace Filling

open Track

variable {codec : OpusCodec}

/-- The fill with the frame of a 20 ms packet put into its queue. -/
def takeStereo (data : Bytes) (f : Filling codec) : Filling codec :=
  let position := f.worker.normalizer.nextOutputPositionSamples.getD 0
  { f with
    worker := { f.worker with
      normalizer := { f.worker.normalizer with
        nextOutputPositionSamples := some (saturatingAdd position 960) }
      pendingFrames := [] }
    source := { f.source with
      pendingPackets := f.source.pendingPackets.tail
      position := f.source.position.recordBuffered (stereoPacket data) }
    queue := { f.queue with inner := f.queue.inner ++ [discordFrame data position] }
    log := { f.log with produced := f.log.produced ++ [discordFrame data position] }
    pc := .loop }

/-- So many packets are left, and there is room for their frames. -/
structure TakesStereo (data : Bytes) (count : ℕ) (f : Filling codec) : Prop where
  pc : f.pc = .loop
  parked : f.worker.pendingFrames = []
  unread : f.worker.normalizer.pendingPcm = []
  packets : ∃ rest, f.source.pendingPackets = List.replicate count (stereoPacket data) ++ rest
  samples : f.queue.bufferedSamples + 960 * count ≤ min f.targetSamples f.queue.maxDurationSamples
  bytes : byteLength f.queue.inner + data.length * count ≤ f.queue.maxBytes
  length : f.queue.inner.length + count ≤ f.queue.capacity

theorem pass_takeStereo {data : Bytes} (htoc : opusPacketChannels data = some 2)
    (hdata : 0 < data.length) {count : ℕ} {f : Filling codec} (h : f.TakesStereo data (count + 1)) :
    f.pass = f.takeStereo data ∧ (f.takeStereo data).TakesStereo data count := by
  obtain ⟨rest, hpackets⟩ := h.packets
  have hsamples := Nat.le_min.mp h.samples
  have hbytes := h.bytes
  have hlength := h.length
  rw [Nat.mul_succ] at hbytes
  have hframe (position : ℕ) : (discordFrame data position).byteLen = data.length := rfl
  have hmedia (position : ℕ) : (discordFrame data position).samples = 960 := rfl
  have hreached : f.reached = false := by
    simp only [reached, OpusFrameQueue.isFull, Bool.or_eq_false_iff, decide_eq_false_iff_not]
    omega
  have henqueue (position : ℕ) : enqueueFrames f.queue [] [discordFrame data position] =
      ({ f.queue with inner := f.queue.inner ++ [discordFrame data position] }, []) := by
    have hfit : f.queue.canFitFrame (discordFrame data position) = true := by
      simp only [OpusFrameQueue.canFitFrame, Bool.and_eq_true, decide_eq_true_eq, hframe, hmedia]
      omega
    simp only [enqueueFrames, OpusFrameQueue.push, hfit, if_true]
  refine ⟨?_, ?_⟩
  · rw [pass_packet hreached h.parked hpackets (pushPacket_stereoPacket h.unread htoc)
      (henqueue _), takeStereo, hpackets]
    rfl
  · refine ⟨rfl, rfl, h.unread, ⟨rest, by rw [takeStereo, hpackets]; rfl⟩, ?_, ?_, ?_⟩
    · simp only [takeStereo, OpusFrameQueue.bufferedSamples, durationSamples_append] at hsamples ⊢
      simp only [durationSamples, List.map_cons, List.map_nil, List.sum_cons, List.sum_nil, hmedia]
        at hsamples ⊢
      omega
    · simp only [takeStereo, byteLength_append]
      simp only [byteLength, List.map_cons, List.map_nil, List.sum_cons, List.sum_nil, hframe]
        at hbytes ⊢
      omega
    · simp only [takeStereo, List.length_append, List.length_singleton]
      omega

end Filling

namespace Track

variable {codec : OpusCodec}

theorem passes_takeStereo (lib : WebmIterable) {data : Bytes}
    (htoc : opusPacketChannels data = some 2) (hdata : 0 < data.length) {count : ℕ} {t : Track codec}
    (hfilling : t.filling = true) (h : t.fill.TakesStereo data count) :
    exec (step lib) t (List.replicate count (.fill .pass)) =
      some { t with fill := (Filling.takeStereo data)^[count] t.fill } := by
  induction count generalizing t with
  | zero => rfl
  | succ count ih =>
    obtain ⟨hpass, hnext⟩ := Filling.pass_takeStereo htoc hdata h
    have hstep := step_pass lib t hfilling h.pc
    rw [List.replicate_succ, exec, hstep, Option.bind_some, hpass,
      ih (t := { t with fill := t.fill.takeStereo data }) hfilling hnext]
    rfl

/-- A track longer than the source buffer holds when it is first played. -/
def longTrack : Track idleCodec :=
  start { playingWorker with prebufferTargetMs := playbackSourceBufferTargetMs }
    (openedWith (List.replicate 251 (stereoPacket [0xFC]))) "video"

def longTrackBuffered : Track idleCodec :=
  { longTrack with fill := (Filling.takeStereo [0xFC])^[250] longTrack.fill }

theorem longTrack_buffers : exec (step insideFirstTag) longTrack (List.replicate 250 (.fill .pass)) =
    some longTrackBuffered :=
  passes_takeStereo insideFirstTag (show opusPacketChannels [0xFC] = some 2 from rfl) Nat.one_pos
    rfl
    { pc := rfl
      parked := rfl
      unread := rfl
      packets := ⟨[stereoPacket [0xFC]], List.replicate_succ'⟩
      samples := by decide +kernel
      bytes := by decide +kernel
      length := by decide +kernel }

/-- What was buffered has been played when the producer refills, and the stream ends. -/
def playedAndRefilled : List TrackMove :=
  [.fill .pass, .prepared, .fill .pass, .buffered, .drive [], .refill 5000, .fill .pass, .fill .pass,
    .fill (.answer (.sent (.ok emptyBody))), .fill (.answer (.body .finished)), .refilled]

theorem end_of_stream_final_longTrack :
    ∃ t, exec (step insideFirstTag) longTrack
        (List.replicate 250 (.fill .pass) ++ playedAndRefilled) = some t ∧
      t.buffer.endOfStream = true ∧ t.pushed.length = 251 ∧ t.fill.log.lastRead = some none := by
  have hends : (exec (step insideFirstTag) longTrackBuffered playedAndRefilled).map
      (fun t ↦ (t.buffer.endOfStream, t.pushed.length)) = some (true, 251) := by
    decide +kernel
  obtain ⟨t, hrest, hend⟩ := Option.map_eq_some_iff.1 hends
  obtain ⟨hend, hpushed⟩ := Prod.mk.inj hend
  have hrun : exec (step insideFirstTag) longTrack
      (List.replicate 250 (.fill .pass) ++ playedAndRefilled) = some t := by
    rw [exec_append, longTrack_buffers, Option.bind_some, hrest]
  have hample : Throughout (step insideFirstTag) Ample longTrack
      (List.replicate 250 (.fill .pass) ++ playedAndRefilled) := by
    refine throughout_append (throughout_of_always (fun move hmove t ↦ ?_) _) longTrack_buffers
      (throughout_of_decide (by decide +kernel))
    rw [List.eq_of_mem_replicate hmove]
    trivial
  exact ⟨t, hrun, hend, hpushed, (end_of_stream_final insideFirstTag _ _ "video" hample hrun hend).1⟩

end Track

end DiscordVoice.Playback
