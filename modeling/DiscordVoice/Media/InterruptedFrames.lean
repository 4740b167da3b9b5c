import DiscordVoice.Media.PlayoutEvents
import DiscordVoice.Schedule

namespace DiscordVoice.Media

open Playback

/-- The metrics an interruption sends. -/
inductive InterruptionMetric
  | preparedPlayoutQueueEvent (event : PreparedPlayoutQueueEventSnapshot)
  | sourceDepth (depth : OpusBufferDepth)
  | egressDepth (depth : OpusBufferDepth)
  | senderSkippedSourceFrames (frameCount durationSamples : ℕ) (remainingDepth : OpusBufferDepth)
  | restoredSourceFrames (frameCount durationSamples : ℕ)
  | discardedSourceFrames (reason : PreparedPlayoutQueueEventReason)
      (frameCount durationSamples : ℕ)
  | egressDroppedMusicFrames (frameCount durationSamples : ℕ)
  deriving DecidableEq, Repr

/-- What `restore_interrupted_frames_to_egress_buffer` has done so far. -/
structure EgressRestore where
  egress : OpusFrameQueue
  credits : List PreparedFrameRebuildCredit
  restoredCount : ℕ
  restoredDurationSamples : ℕ
  sourceRestoreFrames : List OpusFrame

namespace EgressRestore

def restoreFrame (reason : PreparedPlayoutQueueEventReason) (r : EgressRestore) (f : OpusFrame) :
    EgressRestore :=
  match r.egress.push f with
  | .ok egress =>
    { r with
      egress
      restoredCount := r.restoredCount + 1
      restoredDurationSamples := r.restoredDurationSamples + f.samples
      credits := rememberRebuildCredit r.credits f reason }
  | .error f => { r with sourceRestoreFrames := r.sourceRestoreFrames ++ [f] }

end EgressRestore

def restoreInterruptedFramesToEgressBuffer (egress : OpusFrameQueue)
    (credits : List PreparedFrameRebuildCredit) (reason : PreparedPlayoutQueueEventReason)
    (frames : List OpusFrame) : EgressRestore :=
  frames.foldl (EgressRestore.restoreFrame reason) ⟨egress, credits, 0, 0, []⟩

/-- The loop of `flush_egress_buffer_for_interruption` over the frames the egress buffer refused.
`discarded` collects the frames that fit nowhere; the source only counts them. -/
structure SourceRestore where
  queue : OpusFrameQueue
  credits : List PreparedFrameRebuildCredit
  restoredCount : ℕ
  restoredDurationSamples : ℕ
  discardedCount : ℕ
  discardedDurationSamples : ℕ
  skippedCount : ℕ
  skippedDurationSamples : ℕ
  remainingDepth : OpusBufferDepth
  metrics : List InterruptionMetric
  discarded : List OpusFrame

namespace SourceRestore

def restoreFrame (accountPopped : Bool) (reason : PreparedPlayoutQueueEventReason)
    (r : SourceRestore) (f : OpusFrame) : SourceRestore :=
  match r.queue.pushFront f with
  | .ok queue =>
    { r with
      queue
      remainingDepth := depth queue.inner
      restoredCount := r.restoredCount + 1
      restoredDurationSamples := r.restoredDurationSamples + f.samples
      credits := rememberRebuildCredit r.credits f reason
      metrics := r.metrics ++ [.sourceDepth (depth queue.inner)] }
  | .error f =>
    { r with
      discardedCount := r.discardedCount + 1
      discardedDurationSamples := r.discardedDurationSamples + f.samples
      skippedCount := if accountPopped then r.skippedCount else r.skippedCount + 1
      skippedDurationSamples :=
        if accountPopped then r.skippedDurationSamples else r.skippedDurationSamples + f.samples
      discarded := r.discarded ++ [f] }

end SourceRestore

/-- The part of the driver that an interruption goes through. -/
structure InterruptedBuffers where
  prepared : List PreparedTrackPlayout
  egress : OpusFrameQueue
  source : SourceBufferState
  credits : List PreparedFrameRebuildCredit
  accountPoppedFrameAsSkippedOnStop : Bool

namespace InterruptedBuffers

/-- The events of `drain_egress_frames`, one for each prepared packet that is given up. -/
def drainEvents (reason : PreparedPlayoutQueueEventReason) :
    List PreparedTrackPlayout → List InterruptionMetric
  | [] => []
  | p :: prepared =>
    .preparedPlayoutQueueEvent (preparedPlayoutQueueEvent .droppedBeforeSend reason p.command
      (depth (preparedFrames prepared))) :: drainEvents reason prepared

/-- `drain_egress_frames` leaves both buffers empty. -/
def drainEgressFrames (b : InterruptedBuffers) : List OpusFrame :=
  preparedFrames b.prepared ++ b.egress.inner

structure FlushOutcome where
  buffers : InterruptedBuffers
  metrics : List InterruptionMetric
  discarded : List OpusFrame

/-- `current_source_depth(..).unwrap_or_default()`: an error in the buffer is taken out of it. -/
def currentSourceDepth (source : SourceBufferState) : OpusBufferDepth :=
  match source.error with
  | some _ => ⟨0, 0, 0, 0⟩
  | none => depth source.queue.inner

def sourceRestore (b : InterruptedBuffers) (reason : PreparedPlayoutQueueEventReason)
    (r : EgressRestore) : SourceRestore :=
  r.sourceRestoreFrames.reverse.foldl
    (SourceRestore.restoreFrame b.accountPoppedFrameAsSkippedOnStop reason)
    { queue := b.source.queue
      credits := r.credits
      restoredCount := r.restoredCount
      restoredDurationSamples := r.restoredDurationSamples
      discardedCount := 0
      discardedDurationSamples := 0
      skippedCount := 0
      skippedDurationSamples := 0
      remainingDepth := currentSourceDepth b.source
      metrics := []
      discarded := [] }

def flushEgressBufferForInterruption (b : InterruptedBuffers)
    (reason : PreparedPlayoutQueueEventReason) (pending : List OpusFrame) : FlushOutcome :=
  let frames := pending ++ b.drainEgressFrames
  let events := drainEvents reason b.prepared
  if frames.isEmpty then
    ⟨{ b with prepared := [], egress := b.egress.cleared }, events ++ [.egressDepth (depth [])], []⟩
  else
    let e := restoreInterruptedFramesToEgressBuffer b.egress.cleared b.credits reason frames
    let r := b.sourceRestore reason e
    ⟨{ b with
        prepared := []
        egress := e.egress
        source := { b.source with queue := r.queue, error := none }
        credits := r.credits },
      events ++ r.metrics ++
        (if 0 < r.skippedCount then
          [.senderSkippedSourceFrames r.skippedCount r.skippedDurationSamples r.remainingDepth]
        else []) ++
        (if 0 < r.restoredCount then
          [.restoredSourceFrames r.restoredCount r.restoredDurationSamples]
        else []) ++
        (if 0 < r.discardedCount then
          [.discardedSourceFrames reason r.discardedCount r.discardedDurationSamples,
            .egressDroppedMusicFrames r.discardedCount r.discardedDurationSamples]
        else []) ++ [.egressDepth (depth [])],
      r.discarded⟩

end InterruptedBuffers

theorem push_eq_offer (q : OpusFrameQueue) (f : OpusFrame) :
    q.push f = match q.offer f with
      | some r => .ok r
      | none => .error f := by
  rw [OpusFrameQueue.offer_eq, OpusFrameQueue.push]
  split_ifs <;> rfl

theorem pushFront_eq_offerFront (q : OpusFrameQueue) (f : OpusFrame) :
    q.pushFront f = match q.offerFront f with
      | some r => .ok r
      | none => .error f := by
  rw [OpusFrameQueue.offerFront_eq, OpusFrameQueue.pushFront]
  split_ifs <;> rfl

/-- The egress buffer takes what fits of the frames, and the rest is left over for the source. -/
theorem restoreInterruptedFramesToEgressBuffer_eq (reason : PreparedPlayoutQueueEventReason)
    (frames : List OpusFrame) (r : EgressRestore) :
    frames.foldl (EgressRestore.restoreFrame reason) r =
      { egress := Greedy.after OpusFrameQueue.offer r.egress frames
        credits := (Greedy.taken OpusFrameQueue.offer r.egress frames).foldl
          (fun credits f ↦ rememberRebuildCredit credits f reason) r.credits
        restoredCount :=
          r.restoredCount + (Greedy.taken OpusFrameQueue.offer r.egress frames).length
        restoredDurationSamples := r.restoredDurationSamples +
          durationSamples (Greedy.taken OpusFrameQueue.offer r.egress frames)
        sourceRestoreFrames :=
          r.sourceRestoreFrames ++ Greedy.refused OpusFrameQueue.offer r.egress frames } := by
  induction frames generalizing r with
  | nil => simp [Greedy.after, Greedy.taken, Greedy.refused, durationSamples]
  | cons f frames ih =>
    rw [List.foldl_cons, ih]
    simp only [EgressRestore.restoreFrame, push_eq_offer, Greedy.after, Greedy.taken, Greedy.refused]
    cases r.egress.offer f with
    | some egress =>
      simp only [Option.getD_some, List.foldl_cons, List.length_cons, durationSamples_cons,
        EgressRestore.mk.injEq, true_and, and_true]
      constructor <;> omega
    | none =>
      simp only [Option.getD_none, List.append_assoc, List.singleton_append]

/-- What the loop over the frames handed back to the source has done to its queue and counts. -/
structure SourceRestore.Offered (r : SourceRestore) (frames : List OpusFrame) (t : SourceRestore) :
    Prop where
  queue : t.queue = Greedy.after OpusFrameQueue.offerFront r.queue frames
  restoredCount : t.restoredCount =
    r.restoredCount + (Greedy.taken OpusFrameQueue.offerFront r.queue frames).length
  restoredSamples : t.restoredDurationSamples = r.restoredDurationSamples +
    durationSamples (Greedy.taken OpusFrameQueue.offerFront r.queue frames)
  discarded : t.discarded =
    r.discarded ++ Greedy.refused OpusFrameQueue.offerFront r.queue frames
  discardedCount : t.discardedCount =
    r.discardedCount + (Greedy.refused OpusFrameQueue.offerFront r.queue frames).length
  discardedSamples : t.discardedDurationSamples = r.discardedDurationSamples +
    durationSamples (Greedy.refused OpusFrameQueue.offerFront r.queue frames)
  metrics : ∃ depths : List OpusBufferDepth, t.metrics = r.metrics ++ depths.map .sourceDepth

theorem SourceRestore.offered (accountPopped : Bool) (reason : PreparedPlayoutQueueEventReason)
    (frames : List OpusFrame) (r : SourceRestore) :
    r.Offered frames (frames.foldl (SourceRestore.restoreFrame accountPopped reason) r) := by
  induction frames generalizing r with
  | nil => constructor <;> simp [Greedy.after, Greedy.taken, Greedy.refused, durationSamples]
  | cons f frames ih =>
    have h := ih (r.restoreFrame accountPopped reason f)
    rw [List.foldl_cons]
    simp only [SourceRestore.restoreFrame, pushFront_eq_offerFront] at h ⊢
    cases hf : r.queue.offerFront f with
    | some queue =>
      rw [hf] at h
      obtain ⟨hqueue, hcount, hsamples, hdiscarded, hlost, hlostSamples, depths, hmetrics⟩ := h
      constructor
      · simpa only [Greedy.after, hf, Option.getD_some] using hqueue
      · simp only [Greedy.taken, hf, List.length_cons, hcount]
        omega
      · simp only [Greedy.taken, hf, durationSamples_cons, hsamples]
        omega
      · simpa only [Greedy.refused, hf] using hdiscarded
      · simpa only [Greedy.refused, hf] using hlost
      · simpa only [Greedy.refused, hf] using hlostSamples
      · exact ⟨depth queue.inner :: depths, by simp [hmetrics]⟩
    | none =>
      rw [hf] at h
      obtain ⟨hqueue, hcount, hsamples, hdiscarded, hlost, hlostSamples, hmetrics⟩ := h
      constructor
      · simpa only [Greedy.after, hf, Option.getD_none] using hqueue
      · simpa only [Greedy.taken, hf] using hcount
      · simpa only [Greedy.taken, hf] using hsamples
      · simp only [Greedy.refused, hf, hdiscarded, List.append_assoc, List.singleton_append]
      · simp only [Greedy.refused, hf, List.length_cons, hlost]
        omega
      · simp only [Greedy.refused, hf, durationSamples_cons, hlostSamples]
        omega
      · exact hmetrics

namespace InterruptedBuffers

variable (b : InterruptedBuffers) (reason : PreparedPlayoutQueueEventReason)
  (pending : List OpusFrame)

/-- The frames an interruption takes back, in the order they were to be played. -/
def interruptedFrames : List OpusFrame := pending ++ preparedFrames b.prepared ++ b.egress.inner

def returned : List OpusFrame :=
  Greedy.taken OpusFrameQueue.offer b.egress.cleared (b.interruptedFrames pending)

def handedBack : List OpusFrame :=
  Greedy.kept OpusFrameQueue.offer OpusFrameQueue.offerFront b.egress.cleared b.source.queue
    (b.interruptedFrames pending)

def lost : List OpusFrame :=
  Greedy.refused OpusFrameQueue.offerFront b.source.queue
    (Greedy.refused OpusFrameQueue.offer b.egress.cleared (b.interruptedFrames pending)).reverse

/-- A frame that the egress buffer refuses behind the ones it has taken, and that the source takes
back, is followed by one that still fits into the egress buffer. -/
def Overtaken : Prop :=
  Greedy.Overtaken OpusFrameQueue.offer OpusFrameQueue.offerFront b.egress.cleared b.source.queue
    (b.interruptedFrames pending)

/-- The report of a metric that is only sent when it has something to say. -/
def report (frames : List OpusFrame) : List (ℕ × ℕ) :=
  if frames = [] then [] else [(frames.length, durationSamples frames)]

def restoredReports (metrics : List InterruptionMetric) : List (ℕ × ℕ) :=
  metrics.filterMap fun
    | .restoredSourceFrames frameCount durationSamples => some (frameCount, durationSamples)
    | _ => none

def discardedReports (metrics : List InterruptionMetric) :
    List (PreparedPlayoutQueueEventReason × ℕ × ℕ) :=
  metrics.filterMap fun
    | .discardedSourceFrames reason frameCount durationSamples =>
      some (reason, frameCount, durationSamples)
    | _ => none

theorem restoredReports_append (metrics rest : List InterruptionMetric) :
    restoredReports (metrics ++ rest) = restoredReports metrics ++ restoredReports rest :=
  List.filterMap_append

theorem discardedReports_append (metrics rest : List InterruptionMetric) :
    discardedReports (metrics ++ rest) = discardedReports metrics ++ discardedReports rest :=
  List.filterMap_append

theorem report_eq (frames : List OpusFrame) {n samples : ℕ} (hn : n = frames.length)
    (hsamples : samples = durationSamples frames) :
    report frames = if 0 < n then [(n, samples)] else [] := by
  subst hn hsamples
  rcases frames with _ | ⟨f, frames⟩
  · rfl
  · rw [report, if_neg (List.cons_ne_nil f frames), if_pos (List.length_pos_of_ne_nil (List.cons_ne_nil f frames))]

theorem drainEvents_reports (prepared : List PreparedTrackPlayout) :
    restoredReports (drainEvents reason prepared) = [] ∧
      discardedReports (drainEvents reason prepared) = [] := by
  induction prepared with
  | nil => exact ⟨rfl, rfl⟩
  | cons p prepared ih => exact ih

theorem sourceDepth_reports (depths : List OpusBufferDepth) :
    restoredReports (depths.map .sourceDepth) = [] ∧
      discardedReports (depths.map .sourceDepth) = [] := by
  induction depths with
  | nil => exact ⟨rfl, rfl⟩
  | cons d depths ih => exact ih

/-- What an interruption does to the buffers and reports of it, in terms of the three parts the
frames fall into. -/
structure Flushed (o : FlushOutcome) : Prop where
  prepared : o.buffers.prepared = []
  egress : o.buffers.egress.inner = b.returned pending
  source : o.buffers.source.queue.inner = b.handedBack pending ++ b.source.queue.inner
  discarded : o.discarded = b.lost pending
  restoredReport : restoredReports o.metrics =
    report (b.returned pending ++ (b.handedBack pending).reverse)
  discardedReport : discardedReports o.metrics = (report (b.lost pending)).map (reason, ·)

theorem interruptedFrames_eq : b.interruptedFrames pending = pending ++ b.drainEgressFrames := by
  rw [interruptedFrames, drainEgressFrames, List.append_assoc]

theorem flushed_of_isEmpty (h : (pending ++ b.drainEgressFrames).isEmpty = true) :
    b.Flushed reason pending (b.flushEgressBufferForInterruption reason pending) := by
  have hnil : b.interruptedFrames pending = [] := by
    rw [interruptedFrames_eq]
    exact List.isEmpty_iff.mp h
  have hprepared : b.prepared = [] := by
    simp only [interruptedFrames, preparedFrames, List.append_eq_nil_iff, List.map_eq_nil_iff] at hnil
    exact hnil.1.2
  simp only [flushEgressBufferForInterruption, h, if_true, hprepared]
  constructor <;>
    simp [returned, handedBack, lost, hnil, Greedy.taken, Greedy.kept, Greedy.refused,
      OpusFrameQueue.cleared, drainEvents, restoredReports, discardedReports, report]

theorem egressRestore_eq :
    restoreInterruptedFramesToEgressBuffer b.egress.cleared b.credits reason
        (b.interruptedFrames pending) =
      { egress := Greedy.after OpusFrameQueue.offer b.egress.cleared (b.interruptedFrames pending)
        credits := (b.returned pending).foldl
          (fun credits f ↦ rememberRebuildCredit credits f reason) b.credits
        restoredCount := (b.returned pending).length
        restoredDurationSamples := durationSamples (b.returned pending)
        sourceRestoreFrames :=
          Greedy.refused OpusFrameQueue.offer b.egress.cleared (b.interruptedFrames pending) } := by
  simp only [restoreInterruptedFramesToEgressBuffer, restoreInterruptedFramesToEgressBuffer_eq,
    returned, Nat.zero_add, List.nil_append]

theorem handedBack_reverse : (b.handedBack pending).reverse =
    Greedy.taken OpusFrameQueue.offerFront b.source.queue
      (Greedy.refused OpusFrameQueue.offer b.egress.cleared (b.interruptedFrames pending)).reverse := by
  rw [handedBack, Greedy.kept, List.reverse_reverse]

theorem sourceRestore_queue (e : EgressRestore) :
    (b.sourceRestore reason e).queue =
      Greedy.after OpusFrameQueue.offerFront b.source.queue e.sourceRestoreFrames.reverse :=
  (SourceRestore.offered b.accountPoppedFrameAsSkippedOnStop reason e.sourceRestoreFrames.reverse
    _).queue

structure Restored (r : SourceRestore) : Prop where
  queue : r.queue.inner = b.handedBack pending ++ b.source.queue.inner
  restoredCount : r.restoredCount = (b.returned pending ++ (b.handedBack pending).reverse).length
  restoredSamples : r.restoredDurationSamples =
    durationSamples (b.returned pending ++ (b.handedBack pending).reverse)
  discarded : r.discarded = b.lost pending
  discardedCount : r.discardedCount = (b.lost pending).length
  discardedSamples : r.discardedDurationSamples = durationSamples (b.lost pending)
  metrics : ∃ depths : List OpusBufferDepth, r.metrics = depths.map .sourceDepth

theorem restored : b.Restored pending (b.sourceRestore reason
    (restoreInterruptedFramesToEgressBuffer b.egress.cleared b.credits reason
      (b.interruptedFrames pending))) := by
  rw [b.egressRestore_eq reason pending]
  obtain ⟨hqueue, hcount, hsamples, hdiscarded, hlost, hlostSamples, depths, hmetrics⟩ :
      SourceRestore.Offered _ _ (b.sourceRestore reason _) :=
    SourceRestore.offered b.accountPoppedFrameAsSkippedOnStop reason _ _
  constructor
  · rw [hqueue, OpusFrameQueue.after_offerFront, handedBack, Greedy.kept]
  · rw [hcount, List.length_append, handedBack_reverse]
  · rw [hsamples, durationSamples_append, handedBack_reverse]
  · rw [hdiscarded, lost, List.nil_append]
  · rw [hlost, lost, Nat.zero_add]
  · rw [hlostSamples, lost, Nat.zero_add]
  · exact ⟨depths, hmetrics⟩

theorem flushed : b.Flushed reason pending (b.flushEgressBufferForInterruption reason pending) := by
  by_cases hempty : (pending ++ b.drainEgressFrames).isEmpty = true
  · exact b.flushed_of_isEmpty reason pending hempty
  have hrestored := b.restored reason pending
  have hegress := congrArg EgressRestore.egress (b.egressRestore_eq reason pending)
  rw [interruptedFrames_eq] at hrestored hegress
  obtain ⟨hqueue, hcount, hsamples, hdiscarded, hlost, hlostSamples, depths, hmetrics⟩ := hrestored
  have hdrain := drainEvents_reports reason b.prepared
  have hdepths := sourceDepth_reports depths
  simp only [flushEgressBufferForInterruption, hempty]
  constructor
  · rfl
  · simp only [hegress]
    rw [OpusFrameQueue.after_offer, returned, interruptedFrames_eq]
    rfl
  · exact hqueue
  · exact hdiscarded
  · rw [report_eq _ hcount hsamples]
    simp only [Bool.false_eq_true, if_false, restoredReports_append, hdrain.1, hmetrics, hdepths.1,
      List.nil_append]
    split_ifs <;> rfl
  · rw [report_eq _ hlost hlostSamples]
    simp only [Bool.false_eq_true, if_false, discardedReports_append, hdrain.2, hmetrics, hdepths.2,
      List.nil_append]
    split_ifs <;> rfl

/-- The frames as they were to be played, those of the source behind those of the driver. -/
def playbackOrder : List OpusFrame := b.interruptedFrames pending ++ b.source.queue.inner

/-- The buffers after an interruption continue where playback was interrupted, without the frames
that were given up, and the metrics tell how many went each way. -/
structure RestoresInOrder (o : FlushOutcome) : Prop where
  inOrder : (o.buffers.egress.inner ++ o.buffers.source.queue.inner).Sublist
    (b.playbackOrder pending)
  once : (o.buffers.egress.inner ++ o.buffers.source.queue.inner ++ o.discarded).Perm
    (b.playbackOrder pending)
  preparedEmpty : o.buffers.prepared = []
  restoredReported : ∃ frames, (o.buffers.egress.inner ++ o.buffers.source.queue.inner).Perm
    (frames ++ b.source.queue.inner) ∧ restoredReports o.metrics = report frames
  discardedReported : discardedReports o.metrics = (report o.discarded).map (reason, ·)

theorem perm_interruptedFrames :
    (b.returned pending ++ (b.handedBack pending ++ b.lost pending)).Perm
      (b.interruptedFrames pending) := by
  have hback : (b.handedBack pending ++ b.lost pending).Perm
      (Greedy.refused OpusFrameQueue.offer b.egress.cleared (b.interruptedFrames pending)) := by
    rw [← List.reverse_reverse (b.handedBack pending), handedBack_reverse, lost]
    exact ((List.reverse_perm _).append_right _).trans
      ((Greedy.perm b.source.queue _).trans (List.reverse_perm _))
  exact (hback.append_left _).trans (Greedy.perm b.egress.cleared (b.interruptedFrames pending))

theorem restoresInOrder_iff_not_overtaken :
    b.RestoresInOrder reason pending (b.flushEgressBufferForInterruption reason pending) ↔
      ¬b.Overtaken pending := by
  obtain ⟨hprepared, hegress, hsource, hdiscarded, hrestoredReport, hdiscardedReport⟩ :=
    b.flushed reason pending
  have horder := Greedy.sublist_iff_not_overtaken OpusFrameQueue.stubborn_offer
    OpusFrameQueue.stubborn_offerFront b.egress.cleared b.source.queue (b.interruptedFrames pending)
  constructor
  · rintro ⟨hinOrder, -⟩
    rw [hegress, hsource, playbackOrder, ← List.append_assoc, List.append_sublist_append_right]
      at hinOrder
    exact horder.mp hinOrder
  · intro hovertaken
    refine ⟨?_, ?_, hprepared, ?_, hdiscarded ▸ hdiscardedReport⟩
    · rw [hegress, hsource, playbackOrder, ← List.append_assoc, List.append_sublist_append_right]
      exact horder.mpr hovertaken
    · rw [hegress, hsource, hdiscarded, playbackOrder]
      refine List.Perm.trans ?_ ((b.perm_interruptedFrames pending).append_right _)
      simp only [List.append_assoc]
      exact ((List.perm_append_comm.append_left _).append_left _)
    · refine ⟨_, ?_, hrestoredReport⟩
      rw [hegress, hsource, List.append_assoc]
      exact ((List.reverse_perm _).symm.append_right _).append_left _

/-- A frame of 250 ms is in the sender's hands, and the egress buffer holds one of 20000 samples
and one of 4000: only the first and the last fit again. -/
def overtakenBuffers : InterruptedBuffers where
  prepared := []
  egress :=
    { OpusFrameQueue.withResourceLimits playbackQueueCapacity playbackBufferMemoryCapBytes
        egressHighWatermarkMs with
      inner := [⟨[0xF8], 416, 20000, 250, 12000, none, 1⟩, ⟨[0xF8], 83, 4000, 666, 32000, none, 1⟩] }
  source := ⟨.withResourceLimits 1024 4194304 10000, false, none⟩
  credits := []
  accountPoppedFrameAsSkippedOnStop := false

theorem overtakenBuffers_not_restoresInOrder :
    ¬overtakenBuffers.RestoresInOrder .pause [⟨[0xF8], 250, 12000, 0, 0, none, 1⟩]
      (overtakenBuffers.flushEgressBufferForInterruption .pause
        [⟨[0xF8], 250, 12000, 0, 0, none, 1⟩]) := by
  rintro ⟨hinOrder, -⟩
  revert hinOrder
  decide

end InterruptedBuffers

namespace MediaState

open Schedule (exec)

variable {aead : Voice.Aead} {s : MediaState}

theorem restoreInterruptedFrames_eq (egress : OpusFrameQueue) (frames : List OpusFrame) :
    restoreInterruptedFrames egress frames =
      (Greedy.after OpusFrameQueue.offer egress frames,
        Greedy.refused OpusFrameQueue.offer egress frames) := by
  induction frames generalizing egress with
  | nil => rfl
  | cons f frames ih =>
    simp only [restoreInterruptedFrames, push_eq_offer, Greedy.after, Greedy.refused]
    cases egress.offer f with
    | some egress => exact ih egress
    | none => simp only [ih, Option.getD_none]

theorem exec_restore {reason : Interruption} {frames : List OpusFrame}
    (hpc : s.pc = .restore reason frames) :
    exec (step aead) s (goes frames.length) =
      some { s with
        source :=
          { s.source with queue := Greedy.after OpusFrameQueue.offerFront s.source.queue frames }
        pc := .restore reason [] } := by
  induction frames generalizing s with
  | nil =>
    simp only [goes, List.length_nil, List.replicate_zero, exec, Greedy.after, ← hpc]
  | cons f frames ih =>
    have hstep : step aead s (.driver .go) =
        some ((s.restoreLiveSourceFrame f).goto (.restore reason frames)) := by
      simp only [step, driverStep, hpc]
    have hgoes : goes (f :: frames).length = .driver .go :: goes frames.length := rfl
    rw [hgoes, exec, hstep, Option.bind_some, ih (s := (s.restoreLiveSourceFrame f).goto _) rfl]
    simp only [restoreLiveSourceFrame, pushFront_eq_offerFront, Greedy.after, goto]
    cases s.source.queue.offerFront f <;> rfl

def interrupted (s : MediaState) (credits : List PreparedFrameRebuildCredit)
    (accountPopped : Bool) : InterruptedBuffers :=
  ⟨s.prepared, s.egress, s.source, credits, accountPopped⟩

/-- The steps of the driver that flush its buffers amount to
`flush_egress_buffer_for_interruption`. -/
theorem exec_flush {reason : Interruption} {frames : List OpusFrame}
    (hpc : s.pc = .flush reason frames) (credits : List PreparedFrameRebuildCredit)
    (accountPopped : Bool) (eventReason : PreparedPlayoutQueueEventReason) :
    ∃ n, exec (step aead) s (goes n) =
      let b := ((s.interrupted credits accountPopped).flushEgressBufferForInterruption eventReason
        frames).buffers
      some { s with
        prepared := b.prepared
        egress := b.egress
        source := b.source
        pc := .restore reason [] } := by
  set b := s.interrupted credits accountPopped with hb
  have hframes : frames ++ preparedFrames s.prepared ++ s.egress.inner =
      frames ++ b.drainEgressFrames := List.append_assoc ..
  have hstep : step aead s (.driver .go) = some (s.flushEgressBuffer reason frames) := by
    simp only [step, driverStep, hpc]
  refine ⟨(Greedy.refused OpusFrameQueue.offer s.egress.cleared
    (frames ++ b.drainEgressFrames)).reverse.length + 1, ?_⟩
  have hgoes : ∀ n, goes (n + 1) = .driver .go :: goes n := fun n ↦ rfl
  have hrestoring : (s.flushEgressBuffer reason frames).pc = .restore reason
      (Greedy.refused OpusFrameQueue.offer s.egress.cleared
        (frames ++ b.drainEgressFrames)).reverse := by
    simp only [flushEgressBuffer, hframes, restoreInterruptedFrames_eq]
  rw [hgoes, exec, hstep, Option.bind_some, exec_restore hrestoring]
  simp only [flushEgressBuffer, hframes, restoreInterruptedFrames_eq,
    InterruptedBuffers.flushEgressBufferForInterruption]
  by_cases hempty : (frames ++ b.drainEgressFrames).isEmpty = true
  · simp only [List.isEmpty_iff.mp hempty, Greedy.refused, List.reverse_nil,
      Greedy.after]
    rfl
  · have hrestore := b.egressRestore_eq eventReason frames
    rw [InterruptedBuffers.interruptedFrames_eq] at hrestore
    simp only [hempty, Bool.false_eq_true, if_false, InterruptedBuffers.sourceRestore_queue,
      hrestore]
    rfl

end MediaState

end DiscordVoice.Media
