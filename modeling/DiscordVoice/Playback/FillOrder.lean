import DiscordVoice.Playback.EndOfStream

namespace DiscordVoice.Playback

open Voice (Bytes)
open Schedule

namespace Filling

variable {codec : OpusCodec}

/-- A call of the normalizer by a fill, with the queue its frames are then offered to. The flush at
the end of the stream has no packet. -/
structure NormalizerCall where
  packet : Option DemuxedPacket
  queue : OpusFrameQueue
  frames : List OpusFrame

/-- The calls `bufferPackets` makes. -/
def packetCalls (f : Filling codec) : List DemuxedPacket → List NormalizerCall
  | [] => []
  | packet :: packets =>
    if f.reached ∨ f.worker.pendingFrames ≠ [] then []
    else
      match f.worker.normalizer.pushPacket packet with
      | (.error _, _) => [⟨packet, f.queue, []⟩]
      | (.ok frames, _) =>
        ⟨packet, f.queue, frames⟩ :: (f.bufferPacket packet).2.packetCalls packets

/-- The call a pass makes, for a packet left over from an earlier chunk. -/
def passCalls (f : Filling codec) : List NormalizerCall :=
  if f.reached then []
  else
    match drainPendingFrames f.queue f.worker.pendingFrames with
    | (_, _, false) => []
    | (queue, pendingFrames, true) =>
      if (f.withFrames queue pendingFrames).reached then []
      else
        match f.source.pendingPackets with
        | [] => []
        | packet :: _ =>
          match f.worker.normalizer.pushPacket packet with
          | (.error _, _) => [⟨packet, queue, []⟩]
          | (.ok frames, _) => [⟨packet, queue, frames⟩]

def flushCalls (f : Filling codec) : List NormalizerCall :=
  match f.worker.normalizer.flush with
  | (.error _, _) => []
  | (.ok frames, _) => [⟨none, f.queue, frames⟩]

/-- The calls of the normalizer in one step of a fill. -/
def calls (f : Filling codec) (move : FillMove) : List NormalizerCall :=
  match f.pc, move with
  | .loop, .pass => f.passCalls
  | .yielding packets, .yielded => f.packetCalls packets
  | .reading _, .answer answer =>
    match f.source.stream.readPass answer with
    | some (.returned (.ok none) _) => f.flushCalls
    | _ => []
  | _, _ => []

def inHand (f : Filling codec) : List DemuxedPacket :=
  match f.pc with
  | .yielding packets => packets
  | _ => []

def demuxedPackets (f : Filling codec) (move : FillMove) (g : Filling codec) : List DemuxedPacket :=
  match f.pc, move with
  | .reading _, .answer _ => g.inHand
  | _, _ => []

def failed (f : Filling codec) : Bool :=
  match f.pc with
  | .returned (.error _) => true
  | _ => false

end Filling

/-- A worker that fills one queue again and again, with what has been popped from the queue, what
the demuxer has returned and what the normalizer has been given. -/
structure Refills (codec : OpusCodec) where
  fill : Filling codec
  popped : List OpusFrame
  demuxed : List DemuxedPacket
  normalized : List DemuxedPacket

inductive RefillMove
  | call (targetMs : ℕ)
  | pop
  | fill (move : FillMove)

namespace Refills

variable {codec : OpusCodec}

/-- An opened source and an empty queue; the packets the source holds have been demuxed. -/
def start (worker : PlaybackWorker codec) (source : PlaybackSource) (queue : OpusFrameQueue) :
    Refills codec where
  fill :=
    { worker := { worker with normalizer := .new, pendingFrames := [] }
      source, queue := queue.cleared, targetSamples := 0
      videoId := worker.currentVideoId, pc := .returned (.ok ()), log := ⟨[], [], none⟩ }
  popped := []
  demuxed := source.pendingPackets
  normalized := []

/-- `fill_queue_to_duration_ms` is called after a call that did not fail, and frames are popped
between the calls. -/
def step (lib : WebmIterable) (r : Refills codec) : RefillMove → Option (Refills codec)
  | .call targetMs =>
    match r.fill.pc with
    | .returned (.ok ()) =>
      some { r with fill := r.fill.begun r.fill.queue targetMs r.fill.worker.currentVideoId }
    | _ => none
  | .pop =>
    match r.fill.pc, r.fill.queue.pop with
    | .returned _, some (frame, queue) =>
      some { r with fill := { r.fill with queue }, popped := r.popped ++ [frame] }
    | .returned _, none => some r
    | _, _ => none
  | .fill (.begin _ _) => none
  | .fill move =>
    (r.fill.step lib move).map fun fill ↦
      { r with
        fill
        demuxed := r.demuxed ++ r.fill.demuxedPackets move fill
        normalized := r.normalized ++ (r.fill.calls move).filterMap (·.packet) }

/-- The queue has room for no frame of a batch behind one it has no room for. -/
def fitsInOrder (r : Refills codec) : RefillMove → Bool
  | .fill move =>
    (r.fill.calls move).all fun call ↦
      Greedy.inOrder OpusFrameQueue.offer call.queue call.frames
  | _ => true

end Refills

theorem enqueueFrames_eq (queue : OpusFrameQueue) (parked frames : List OpusFrame) :
    enqueueFrames queue parked frames =
      (Greedy.after OpusFrameQueue.offer queue frames,
        parked ++ Greedy.refused OpusFrameQueue.offer queue frames) := by
  induction frames generalizing queue parked with
  | nil => simp [enqueueFrames, Greedy.after, Greedy.refused]
  | cons frame frames ih =>
    simp only [enqueueFrames, OpusFrameQueue.push, Greedy.after, Greedy.refused,
      OpusFrameQueue.offer_eq]
    split_ifs
    · simp only [ih, Option.getD_some]
    · simp only [ih, Option.getD_none, List.append_assoc, List.singleton_append]

namespace Filling

variable {codec : OpusCodec} {lib : WebmIterable} {f : Filling codec} {popped : List OpusFrame}
  {demuxed normalized : List DemuxedPacket}

/-- The frames popped, in the queue and parked are the frames produced. -/
def FramesKept (popped : List OpusFrame) (f : Filling codec) : Prop :=
  popped ++ f.queue.inner ++ f.worker.pendingFrames = f.log.produced

/-- Nothing that went through a fill is lost, repeated or out of order; while the fill awaits
something, nothing is parked. -/
structure Kept (popped : List OpusFrame) (demuxed normalized : List DemuxedPacket)
    (f : Filling codec) : Prop where
  frames : f.FramesKept popped
  packets : f.failed = false → normalized ++ f.inHand ++ f.source.pendingPackets = demuxed
  drained : f.awaiting → f.worker.pendingFrames = [] ∧ f.source.pendingPackets = []

def CallsInOrder (calls : List NormalizerCall) : Prop :=
  ∀ call ∈ calls, Greedy.inOrder OpusFrameQueue.offer call.queue call.frames = true

theorem enqueued_kept {frames : List OpusFrame} (h : f.FramesKept popped)
    (hparked : f.worker.pendingFrames = [])
    (hfits : Greedy.inOrder OpusFrameQueue.offer f.queue frames = true) :
    (f.enqueued frames).FramesKept popped := by
  have hsplit := Greedy.taken_append_refused hfits
  simp only [FramesKept, enqueued, enqueueFrames_eq, withFrames, hparked, List.nil_append,
    OpusFrameQueue.after_offer, List.append_nil] at h ⊢
  rw [← h]
  simp only [List.append_assoc, hsplit]

theorem bufferPacket_kept {packet : DemuxedPacket} (h : f.FramesKept popped)
    (hparked : f.worker.pendingFrames = [])
    (hfits : ∀ frames normalizer, f.worker.normalizer.pushPacket packet = (.ok frames, normalizer) →
      Greedy.inOrder OpusFrameQueue.offer f.queue frames = true) :
    (f.bufferPacket packet).2.FramesKept popped := by
  unfold bufferPacket
  rcases hpush : f.worker.normalizer.pushPacket packet with ⟨e | frames, normalizer⟩
  · exact h
  · exact enqueued_kept (f := { f.withNormalizer normalizer with
      source := { f.source with position := f.source.position.recordBuffered packet } })
      h hparked (hfits frames normalizer hpush)

theorem bufferPacket_pendingPackets (packet : DemuxedPacket) :
    (f.bufferPacket packet).2.source.pendingPackets = f.source.pendingPackets := by
  unfold bufferPacket
  rcases f.worker.normalizer.pushPacket packet with ⟨e | frames, normalizer⟩ <;> rfl

theorem bufferPackets_framesKept {packets : List DemuxedPacket} (h : f.FramesKept popped)
    (hfits : CallsInOrder (f.packetCalls packets)) :
    (f.bufferPackets packets).FramesKept popped := by
  induction packets generalizing f with
  | nil => exact h
  | cons packet packets ih =>
    unfold bufferPackets
    unfold packetCalls at hfits
    split_ifs at hfits ⊢ with hstop
    · exact h
    · have hparked : f.worker.pendingFrames = [] := by
        by_contra hne
        exact hstop (.inr hne)
      rcases hpush : f.worker.normalizer.pushPacket packet with ⟨e | frames, normalizer⟩
      · simp only [bufferPacket, hpush]
        exact h
      · rw [hpush] at hfits
        have hhead := hfits _ List.mem_cons_self
        have hrest := fun call hcall ↦ hfits call (List.mem_cons_of_mem _ hcall)
        have hcall : ∀ out next, f.worker.normalizer.pushPacket packet = (.ok out, next) →
            Greedy.inOrder OpusFrameQueue.offer f.queue out = true := by
          intro out next hout
          cases hpush.symm.trans hout
          exact hhead
        have hkept := bufferPacket_kept h hparked hcall
        have hok : (f.bufferPacket packet).1 = .ok () := by
          simp only [bufferPacket, hpush]
        rcases hbuffered : f.bufferPacket packet with ⟨e | _, g⟩
        · rw [hbuffered] at hok
          cases hok
        · rw [hbuffered] at hkept hrest
          exact ih hkept hrest

theorem bufferPackets_packets {packets : List DemuxedPacket} (hnone : f.source.pendingPackets = [])
    (hok : (f.bufferPackets packets).failed = false) :
    (f.packetCalls packets).filterMap (·.packet) ++
      (f.bufferPackets packets).source.pendingPackets = packets := by
  induction packets generalizing f with
  | nil => exact hnone
  | cons packet packets ih =>
    unfold bufferPackets at hok ⊢
    unfold packetCalls
    split_ifs at hok ⊢ with hstop
    · simp only [hnone, List.filterMap_nil, List.nil_append]
    · have hpending := f.bufferPacket_pendingPackets packet
      rcases hpush : f.worker.normalizer.pushPacket packet with ⟨e | frames, normalizer⟩
      · simp only [bufferPacket, hpush, withPc, failed] at hok
        cases hok
      · have hfirst : (f.bufferPacket packet).1 = .ok () := by
          simp only [bufferPacket, hpush]
        rcases hbuffered : f.bufferPacket packet with ⟨e | _, g⟩
        · rw [hbuffered] at hfirst
          cases hfirst
        · rw [hbuffered] at hok hpending
          simp only [List.filterMap_cons, List.cons_append]
          rw [ih (hpending.trans hnone) hok]

theorem bufferPackets_pc (packets : List DemuxedPacket) :
    (f.bufferPackets packets).inHand = [] ∧ ¬(f.bufferPackets packets).awaiting := by
  induction packets generalizing f with
  | nil => exact ⟨rfl, id⟩
  | cons packet packets ih =>
    unfold bufferPackets
    split_ifs
    · exact ⟨rfl, id⟩
    · rcases f.bufferPacket packet with ⟨e | _, g⟩
      · exact ⟨rfl, id⟩
      · exact ih

theorem kept_failed (h : f.FramesKept popped) (hpc : ∃ e, f.pc = .returned (.error e)) :
    f.Kept popped demuxed normalized := by
  obtain ⟨e, hpc⟩ := hpc
  refine ⟨h, fun hok ↦ ?_, fun hawaits ↦ ?_⟩
  · simp [failed, hpc] at hok
  · simp [awaiting, hpc] at hawaits

theorem kept_of_not_awaiting (h : f.FramesKept popped) (hawaits : ¬f.awaiting)
    (hpackets : f.failed = false → normalized ++ f.source.pendingPackets = demuxed) :
    f.Kept popped demuxed normalized := by
  refine ⟨h, fun hok ↦ ?_, fun hwaiting ↦ absurd hwaiting hawaits⟩
  have hhand : f.inHand = [] := by
    unfold inHand
    split
    · rename_i packets hpc
      exact absurd (by simp [awaiting, hpc]) hawaits
    · rfl
  rw [hhand, List.append_nil]
  exact hpackets hok

theorem withFrames_kept {taken left : List OpusFrame} (h : f.FramesKept popped)
    (hsplit : taken ++ left = f.worker.pendingFrames) :
    (f.withFrames (f.queue.extended taken) left).FramesKept popped := by
  rw [FramesKept, ← hsplit] at h
  simpa only [FramesKept, withFrames, OpusFrameQueue.extended, List.append_assoc] using h

theorem bufferPending_kept {packet : DemuxedPacket} (h : f.FramesKept popped)
    (hparked : f.worker.pendingFrames = [])
    (hfits : ∀ frames normalizer, f.worker.normalizer.pushPacket packet = (.ok frames, normalizer) →
      Greedy.inOrder OpusFrameQueue.offer f.queue frames = true)
    (hpackets : normalized ++ [packet] ++ f.source.pendingPackets = demuxed) :
    Kept popped demuxed (normalized ++ [packet]) (match f.bufferPacket packet with
      | (.error e, g) => g.withPc (.returned (.error e))
      | (.ok (), g) => g.withPc .loop) := by
  have hkept := bufferPacket_kept h hparked hfits
  have hpending := f.bufferPacket_pendingPackets packet
  rcases hbuffered : f.bufferPacket packet with ⟨e | _, g⟩
  · rw [hbuffered] at hkept
    exact kept_failed hkept ⟨e, rfl⟩
  · rw [hbuffered] at hkept hpending
    refine kept_of_not_awaiting hkept id fun _ ↦ ?_
    exact (congrArg _ hpending).trans hpackets

theorem filterMap_packetCall (queue : OpusFrameQueue) (packet : DemuxedPacket)
    (answer : Except PlaybackError (List OpusFrame) × DiscordOpusFrameNormalizer codec) :
    (match answer with
      | (.error _, _) => [(⟨packet, queue, []⟩ : NormalizerCall)]
      | (.ok frames, _) => [⟨packet, queue, frames⟩]).filterMap NormalizerCall.packet =
      [packet] := by
  rcases answer with ⟨e | frames, normalizer⟩
  · rfl
  · rfl

theorem pass_kept (h : f.Kept popped demuxed normalized) (hpc : f.pc = .loop)
    (hfits : CallsInOrder f.passCalls) :
    f.pass.Kept popped demuxed (normalized ++ f.passCalls.filterMap (·.packet)) := by
  have hpackets : normalized ++ f.source.pendingPackets = demuxed := by
    simpa [failed, inHand, hpc] using h.packets
  have hnothing : normalized ++ [].filterMap NormalizerCall.packet ++ f.source.pendingPackets =
      demuxed := by
    rw [List.filterMap_nil, List.append_nil]
    exact hpackets
  unfold pass
  unfold passCalls at hfits ⊢
  split_ifs at hfits ⊢ with hreached
  · exact kept_of_not_awaiting h.frames id fun _ ↦ hnothing
  obtain ⟨taken, left, all, heq, hsplit, -, -, hall⟩ :=
    drainPendingFrames_spec f.queue f.worker.pendingFrames
  have hdrained := withFrames_kept h.frames hsplit
  rw [heq] at hfits ⊢
  cases all with
  | false => exact kept_of_not_awaiting hdrained id fun _ ↦ hnothing
  | true =>
    have hleft := hall.mp rfl
    simp only at hfits ⊢
    split_ifs at hfits ⊢ with hfilled
    · exact kept_of_not_awaiting hdrained id fun _ ↦ hnothing
    have hsource : (f.withFrames (f.queue.extended taken) left).source.pendingPackets =
        f.source.pendingPackets := rfl
    rw [hsource]
    rcases hpending : f.source.pendingPackets with _ | ⟨packet, rest⟩
    · rw [hpending] at hpackets
      refine ⟨hdrained, fun _ ↦ ?_, fun _ ↦ ⟨hleft, hpending⟩⟩
      simpa [inHand, withPc, withFrames, hpending] using hpackets
    · rw [hpending] at hpackets hfits
      simp only at hfits ⊢
      rw [filterMap_packetCall]
      refine bufferPending_kept hdrained hleft (fun frames normalizer hpush ↦ ?_) ?_
      · change f.worker.normalizer.pushPacket packet = _ at hpush
        rw [hpush] at hfits
        exact hfits _ List.mem_cons_self
      · rw [List.append_assoc]
        exact hpackets

theorem failedRead_kept (h : f.Kept popped demuxed normalized) (hawaits : f.awaiting)
    (hhand : f.inHand = []) (hok : f.failed = false) (e : PlaybackError) (attempt : ReadAttempt) :
    (f.failedRead e attempt).Kept popped demuxed normalized := by
  have hpackets := h.packets hok
  have hdrained := h.drained hawaits
  rw [hhand] at hpackets
  have hreresolve : (f.reresolve e).Kept popped demuxed normalized := by
    unfold reresolve
    cases f.videoId with
    | none => exact kept_failed h.frames ⟨e, rfl⟩
    | some videoId => exact ⟨h.frames, fun _ ↦ hpackets, fun _ ↦ hdrained⟩
  cases attempt with
  | first =>
    simp only [failedRead]
    split_ifs
    · exact ⟨h.frames, fun _ ↦ hpackets, fun _ ↦ hdrained⟩
    · exact hreresolve
    · exact kept_failed h.frames ⟨e, rfl⟩
  | afterReset =>
    simp only [failedRead]
    split_ifs
    · exact hreresolve
    · exact kept_failed h.frames ⟨e, rfl⟩
  | afterResolve => exact kept_failed h.frames ⟨e, rfl⟩

theorem readEnd_kept (h : f.Kept popped demuxed normalized) (hawaits : f.awaiting)
    (hhand : f.inHand = []) (hok : f.failed = false) (hfits : CallsInOrder f.flushCalls) :
    f.readEnd.Kept popped demuxed (normalized ++ f.flushCalls.filterMap (·.packet)) := by
  have hpackets := h.packets hok
  rw [hhand, List.append_nil] at hpackets
  unfold flushCalls at hfits ⊢
  simp only [readEnd]
  rcases hflush : f.worker.normalizer.flush with ⟨e | frames, normalizer⟩
  · exact kept_failed h.frames ⟨e, rfl⟩
  · rw [hflush] at hfits
    have hroom : Greedy.inOrder OpusFrameQueue.offer f.queue frames = true :=
      hfits _ List.mem_cons_self
    have hkept := enqueued_kept
      (f := withNormalizer { f with log := { f.log with lastRead := some none } } normalizer)
      h.frames (h.drained hawaits).1 hroom
    refine kept_of_not_awaiting hkept id fun _ ↦ ?_
    simp only [List.filterMap_cons, List.filterMap_nil, List.append_nil]
    exact hpackets

theorem failedRead_inHand (e : PlaybackError) (attempt : ReadAttempt) :
    (f.failedRead e attempt).inHand = [] := by
  have hreresolve : (f.reresolve e).inHand = [] := by
    unfold reresolve
    cases f.videoId <;> rfl
  cases attempt with
  | first =>
    simp only [failedRead]
    split_ifs
    · rfl
    · exact hreresolve
    · rfl
  | afterReset =>
    simp only [failedRead]
    split_ifs
    · exact hreresolve
    · rfl
  | afterResolve => rfl

theorem readEnd_inHand : f.readEnd.inHand = [] := by
  simp only [readEnd]
  rcases f.worker.normalizer.flush with ⟨e | frames, normalizer⟩ <;> rfl

theorem readChunk_kept (h : f.Kept popped demuxed normalized) (hawaits : f.awaiting)
    (hhand : f.inHand = []) (hok : f.failed = false) (chunk : Bytes) :
    (f.readChunk lib chunk).Kept popped (demuxed ++ (f.readChunk lib chunk).inHand) normalized := by
  have hpackets := h.packets hok
  have hdrained := h.drained hawaits
  rw [hhand, hdrained.2, List.append_nil, List.append_nil] at hpackets
  simp only [readChunk]
  rcases (f.source.demux.pushBytes chunk).drainPackets lib with e | ⟨packets, demux⟩
  · exact kept_failed h.frames ⟨e, rfl⟩
  · refine ⟨h.frames, fun _ ↦ ?_, fun _ ↦ hdrained⟩
    rw [← hpackets]
    exact (congrArg _ hdrained.2).trans (List.append_nil _)

theorem step_kept {g : Filling codec} {move : FillMove} (h : f.Kept popped demuxed normalized)
    (hmove : ∀ queue targetMs, move ≠ .begin queue targetMs) (hfits : CallsInOrder (f.calls move))
    (hstep : f.step lib move = some g) :
    g.Kept popped (demuxed ++ f.demuxedPackets move g)
      (normalized ++ (f.calls move).filterMap (·.packet)) := by
  unfold step at hstep
  split at hstep
  · rename_i queue targetMs hpc
    exact absurd rfl (hmove queue targetMs)
  · rename_i hpc
    cases hstep
    simp only [calls, demuxedPackets, hpc, List.append_nil] at hfits ⊢
    exact pass_kept h hpc hfits
  · rename_i attempt answer hpc
    obtain ⟨pass, hpass, rfl⟩ := Option.map_eq_some_iff.1 hstep
    have hawaits : f.awaiting := by simp [awaiting, hpc]
    have hhand : f.inHand = [] := by simp [inHand, hpc]
    have hok : f.failed = false := by simp [failed, hpc]
    simp only [calls, demuxedPackets, hpc, hpass] at hfits ⊢
    rcases pass with stream | ⟨result, stream⟩
    · have hnone : (f.withStream stream).inHand = [] := hhand
      simp only [hnone, List.append_nil, List.filterMap_nil]
      exact ⟨h.frames, h.packets, h.drained⟩
    · have hmoved : (f.withStream stream).Kept popped demuxed normalized :=
        ⟨h.frames, h.packets, h.drained⟩
      rcases result with e | _ | chunk
      · simp only [afterRead, failedRead_inHand, List.append_nil, List.filterMap_nil]
        exact failedRead_kept hmoved hawaits hhand hok e attempt
      · simp only [afterRead, readEnd_inHand, List.append_nil]
        exact readEnd_kept hmoved hawaits hhand hok hfits
      · simp only [afterRead, List.append_nil, List.filterMap_nil]
        exact readChunk_kept hmoved hawaits hhand hok chunk
  · rename_i attempt hpc
    cases hstep
    simp only [calls, demuxedPackets, hpc, List.append_nil, List.filterMap_nil]
    exact failedRead_kept h (by simp [awaiting, hpc]) (by simp [inHand, hpc])
      (by simp [failed, hpc]) _ attempt
  · rename_i videoId song playableUrl hpc
    simp only [calls, demuxedPackets, hpc, List.append_nil, List.filterMap_nil]
    rcases hresolved : resolvePlaybackSource song fun _ ↦ playableUrl with e | resolved
    · rw [hresolved] at hstep
      cases hstep
      exact kept_failed h.frames ⟨e, rfl⟩
    · rw [hresolved] at hstep
      cases hstep
      have hpackets := h.packets (by simp [failed, hpc])
      have hdrained := h.drained (by simp [awaiting, hpc])
      simp only [inHand, hpc] at hpackets
      exact ⟨h.frames, fun _ ↦ hpackets, fun _ ↦ hdrained⟩
  · rename_i packets hpc
    cases hstep
    obtain ⟨hhand, hawaits⟩ := bufferPackets_pc (f := f) packets
    have hpackets := h.packets (by simp [failed, hpc])
    have hdrained := h.drained (by simp [awaiting, hpc])
    simp only [calls, demuxedPackets, hpc, List.append_nil] at hfits ⊢
    refine kept_of_not_awaiting (bufferPackets_framesKept h.frames hfits) hawaits fun hok ↦ ?_
    rw [List.append_assoc, bufferPackets_packets hdrained.2 hok]
    simpa [inHand, hpc, hdrained.2] using hpackets
  · cases hstep

end Filling

namespace Refills

variable {codec : OpusCodec} {lib : WebmIterable}

/-- The frames popped, in the queue and parked are those produced, and the packets normalized, in
hand and left over are those demuxed. -/
structure KeepsEverything (r : Refills codec) : Prop where
  frames : r.popped ++ r.fill.queue.inner ++ r.fill.worker.pendingFrames = r.fill.log.produced
  packets : r.normalized ++ r.fill.inHand ++ r.fill.source.pendingPackets = r.demuxed

def Kept (r : Refills codec) : Prop := r.fill.Kept r.popped r.demuxed r.normalized

theorem start_kept (worker : PlaybackWorker codec) (source : PlaybackSource)
    (queue : OpusFrameQueue) : (start worker source queue).Kept :=
  Filling.kept_of_not_awaiting rfl id fun _ ↦ rfl

theorem step_kept {r t : Refills codec} {move : RefillMove} (h : r.Kept)
    (hfits : r.fitsInOrder move = true) (hstep : r.step lib move = some t) : t.Kept := by
  cases move with
  | call targetMs =>
    simp only [step] at hstep
    split at hstep
    · rename_i hpc
      cases hstep
      have hpackets := h.packets (by simp [Filling.failed, hpc])
      simp only [Filling.inHand, hpc, List.append_nil] at hpackets
      exact Filling.kept_of_not_awaiting h.frames id fun _ ↦ hpackets
    · cases hstep
  | pop =>
    simp only [step] at hstep
    split at hstep
    · rename_i result frame queue hpc hpop
      cases hstep
      obtain ⟨hinner, -⟩ := OpusFrameQueue.pop_some hpop
      have hframes := h.frames
      simp only [Filling.FramesKept, hinner] at hframes
      refine ⟨?_, h.packets, h.drained⟩
      simpa only [Filling.FramesKept, List.append_assoc, List.cons_append, List.nil_append]
        using hframes
    · cases hstep
      exact h
    · cases hstep
  | fill move =>
    have hcalls : Filling.CallsInOrder (r.fill.calls move) := by
      intro call hcall
      exact List.all_eq_true.mp hfits call hcall
    have hmoved : (∀ queue targetMs, move ≠ .begin queue targetMs) ∧
        (r.fill.step lib move).map (fun fill ↦ ({ r with
          fill
          demuxed := r.demuxed ++ r.fill.demuxedPackets move fill
          normalized := r.normalized ++ (r.fill.calls move).filterMap (·.packet) } :
            Refills codec)) = some t := by
      cases move with
      | begin queue targetMs => cases hstep
      | pass => exact ⟨fun _ _ ↦ nofun, hstep⟩
      | answer answer => exact ⟨fun _ _ ↦ nofun, hstep⟩
      | timedOut => exact ⟨fun _ _ ↦ nofun, hstep⟩
      | resolve song playableUrl => exact ⟨fun _ _ ↦ nofun, hstep⟩
      | yielded => exact ⟨fun _ _ ↦ nofun, hstep⟩
    obtain ⟨hmove, hmap⟩ := hmoved
    obtain ⟨fill, hfill, rfl⟩ := Option.map_eq_some_iff.mp hmap
    exact Filling.step_kept h hmove hcalls hfill

theorem keepsEverything (lib : WebmIterable) (worker : PlaybackWorker codec)
    (source : PlaybackSource) (queue : OpusFrameQueue) {moves : List RefillMove} {r : Refills codec}
    (hfits : Throughout (step lib) (fun r move ↦ r.fitsInOrder move = true)
      (start worker source queue) moves)
    (h : exec (step lib) (start worker source queue) moves = some r)
    (hok : r.fill.failed = false) : r.KeepsEverything := by
  have hkept : r.Kept :=
    exec_induction (fun _ _ _ hr hfit hstep ↦ step_kept hr hfit hstep)
      (start_kept worker source queue) hfits h
  exact ⟨hkept.frames, hkept.packets hok⟩

def leftover (packets : List DemuxedPacket) : PlaybackSource :=
  ⟨⟨250, "first", none⟩, .new "first", .default, packets, .default⟩

def narrowQueue : OpusFrameQueue := .withResourceLimits 50 2 1000

def stereoPacket (position : ℕ) : DemuxedPacket := ⟨[0xFC], position / 48, position, 20, 960⟩

theorem keepsEverything_third_packet_left : ∃ r,
    exec (step insideFirstTag)
      (start playingWorker (leftover [stereoPacket 0, stereoPacket 960, stereoPacket 1920])
        narrowQueue)
      [.call 80, .fill .pass, .fill .pass, .fill .pass, .pop] = some r ∧
      r.popped = [discordFrame [0xFC] 0] ∧ r.normalized = [stereoPacket 0, stereoPacket 960] ∧
      r.KeepsEverything := by
  refine ⟨_, rfl, rfl, rfl, ?_⟩
  have hallowed : Throughout (step insideFirstTag) (fun r move ↦ r.fitsInOrder move = true)
      (start playingWorker (leftover [stereoPacket 0, stereoPacket 960, stereoPacket 1920])
        narrowQueue)
      [.call 80, .fill .pass, .fill .pass, .fill .pass, .pop] := by
    apply throughout_of_allowed
    decide
  exact keepsEverything insideFirstTag playingWorker
    (leftover [stereoPacket 0, stereoPacket 960, stereoPacket 1920]) narrowQueue hallowed rfl rfl

/-- A codec whose first frame takes three bytes and whose other frames take one. -/
def shrinkingCodec : OpusCodec :=
  ⟨Unit, Bool, Unit, (), fun _ ↦ .ok (),
    fun _ _ count ↦ (.ok (List.replicate (2 * count) (), count), ()),
    .ok true, fun first _ ↦ (.ok (if first then [1, 2, 3] else [1]), false)⟩

def longPacket : DemuxedPacket := ⟨[0x0C], 0, 0, 40, 1920⟩

theorem shrinkingCodec_pushPacket : ∃ normalizer,
    (DiscordOpusFrameNormalizer.new : DiscordOpusFrameNormalizer shrinkingCodec).pushPacket
      longPacket = (.ok [discordFrame [1, 2, 3] 0, discordFrame [1] 960], normalizer) := by
  obtain ⟨pcm, hpcm⟩ : ∃ pcm : List Unit, pcm = List.replicate (2 * 1920) () := ⟨_, rfl⟩
  have hcount : pcm.length / frameValues = 2 := by
    rw [hpcm, List.length_replicate]
    rfl
  set fresh : DiscordOpusFrameNormalizer shrinkingCodec := ⟨none, none, none, [], some 0⟩
    with hfresh
  have hdecode : fresh.decodePacket longPacket =
      (.ok (), ⟨none, some (), none, pcm, some 0⟩) := by
    rw [hpcm]
    rfl
  have hpush : (.new : DiscordOpusFrameNormalizer shrinkingCodec).pushPacket longPacket =
      match fresh.decodePacket longPacket with
      | (.error e, n) => (.error e, n)
      | (.ok (), n) => n.emitReadyFrames := by
    unfold DiscordOpusFrameNormalizer.pushPacket
    rw [if_neg (by decide)]
    rfl
  rw [hpush, hdecode]
  have hemit : DiscordOpusFrameNormalizer.emitReadyFrames
      (⟨none, some (), none, pcm, some 0⟩ : DiscordOpusFrameNormalizer shrinkingCodec) =
      DiscordOpusFrameNormalizer.emitFrames true
        (⟨none, some (), some true, pcm, some 0⟩ : DiscordOpusFrameNormalizer shrinkingCodec)
        (pcm.length / frameValues) [] := rfl
  rw [hcount] at hemit
  have hfirst : saturatingAdd 0 960 = 960 := by decide
  have hsecond : saturatingAdd 960 960 = 1920 := by decide
  refine ⟨⟨none, some (), some false, (pcm.drop frameValues).drop frameValues, some 1920⟩,
    hemit.trans ?_⟩
  simp only [DiscordOpusFrameNormalizer.emitFrames, shrinkingCodec, Option.getD_some, hfirst,
    hsecond, List.nil_append, List.singleton_append, if_true, Bool.false_eq_true, if_false]

def longFill : Filling shrinkingCodec :=
  (start ⟨some "video", ⟨none, none⟩, 80, .new, []⟩ (leftover [longPacket]) narrowQueue).fill.begun
    narrowQueue 80 (some "video")

/-- The first frame of the batch is parked, and the second goes ahead of it. -/
theorem second_frame_overtakes_first : ∃ r,
    exec (step insideFirstTag)
      (start (⟨some "video", ⟨none, none⟩, 80, .new, []⟩ : PlaybackWorker shrinkingCodec)
        (leftover [longPacket]) narrowQueue)
      [.call 80, .fill .pass] = some r ∧ r.fill.failed = false ∧ ¬r.KeepsEverything := by
  obtain ⟨normalizer, hpush⟩ := shrinkingCodec_pushPacket
  have hleft : longFill.source.pendingPackets = [longPacket] := rfl
  have henqueue : enqueueFrames longFill.queue []
      [discordFrame [1, 2, 3] 0, discordFrame [1] 960] =
      ({ narrowQueue with inner := [discordFrame [1] 960] }, [discordFrame [1, 2, 3] 0]) := by
    decide
  have hpass := Filling.pass_packet (f := longFill) (by decide) rfl hleft hpush henqueue
  have hexec : exec (step insideFirstTag)
      (start (⟨some "video", ⟨none, none⟩, 80, .new, []⟩ : PlaybackWorker shrinkingCodec)
        (leftover [longPacket]) narrowQueue) [.call 80, .fill .pass] =
      some ⟨longFill.pass, [], [longPacket] ++ [],
        [] ++ (longFill.calls .pass).filterMap (·.packet)⟩ := rfl
  refine ⟨_, hexec, by rw [hpass]; rfl, ?_⟩
  rintro ⟨hframes, -⟩
  rw [hpass] at hframes
  change [discordFrame [1] 960, discordFrame [1, 2, 3] 0] =
    [discordFrame [1, 2, 3] 0, discordFrame [1] 960] at hframes
  revert hframes
  decide

end Refills

end DiscordVoice.Playback
