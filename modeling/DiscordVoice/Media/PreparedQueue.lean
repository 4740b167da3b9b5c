import DiscordVoice.Media.PlayoutEvents
import DiscordVoice.Playback.CountedQueue
import DiscordVoice.Playback.WebmDemux

namespace DiscordVoice.Media.Counted

open Playback Playback.Counted BoundedDeque

/-- `PreparedPlayoutQueue` with the three running totals of the source. -/
structure PreparedPlayoutQueue where
  queue : List PreparedTrackPlayout
  packets : ℕ
  bytes : ℕ
  durationSamples : ℕ
  deriving DecidableEq, Repr

namespace PreparedPlayoutQueue

def new : PreparedPlayoutQueue := ⟨[], 0, 0, 0⟩

def push (q : PreparedPlayoutQueue) (prepared : PreparedTrackPlayout) :
    Except PreparedTrackPlayout Unit × PreparedPlayoutQueue :=
  if samplesFromDurationMsU64 egressHighWatermarkMs <
      saturatingAdd q.durationSamples prepared.frame.samples then (.error prepared, q)
  else if playbackQueueCapacity ≤ q.packets then (.error prepared, q)
  else if playbackBufferMemoryCapBytes < saturatingAdd q.bytes prepared.frame.byteLen then
    (.error prepared, q)
  else
    (.ok (), {
      packets := saturatingAdd q.packets 1
      bytes := saturatingAdd q.bytes prepared.frame.byteLen
      durationSamples := saturatingAdd q.durationSamples prepared.frame.samples
      queue := q.queue ++ [prepared] })

def pop (q : PreparedPlayoutQueue) : Option PreparedTrackPlayout × PreparedPlayoutQueue :=
  match q.queue with
  | [] => (none, q)
  | prepared :: rest =>
    (some prepared, {
      packets := q.packets - 1
      bytes := q.bytes - prepared.frame.byteLen
      durationSamples := q.durationSamples - prepared.frame.samples
      queue := rest })

def depth (q : PreparedPlayoutQueue) : OpusBufferDepth :=
  ⟨q.packets, q.bytes, durationMsFromSamples q.durationSamples, q.durationSamples⟩

def isFull (q : PreparedPlayoutQueue) : Bool :=
  samplesFromDurationMsU64 egressHighWatermarkMs ≤ q.durationSamples ||
    playbackQueueCapacity ≤ q.packets || playbackBufferMemoryCapBytes ≤ q.bytes

/-- The totals are the counts of what is queued, and within the caps. -/
structure Exact (q : PreparedPlayoutQueue) : Prop where
  packets : q.packets = q.queue.length
  bytes : q.bytes = byteLength (preparedFrames q.queue)
  samples : q.durationSamples = Playback.durationSamples (preparedFrames q.queue)
  length_le : q.queue.length ≤ playbackQueueCapacity
  bytes_le : byteLength (preparedFrames q.queue) ≤ playbackBufferMemoryCapBytes
  samples_le : Playback.durationSamples (preparedFrames q.queue) ≤ egressHighWatermarkSamples

def HasRoom (q : PreparedPlayoutQueue) (frame : OpusFrame) : Prop :=
  q.queue.length + 1 ≤ playbackQueueCapacity ∧
    byteLength (preparedFrames q.queue) + frame.byteLen ≤ playbackBufferMemoryCapBytes ∧
    Playback.durationSamples (preparedFrames q.queue) + frame.samples ≤ egressHighWatermarkSamples

variable {q : PreparedPlayoutQueue} {prepared : PreparedTrackPlayout}

theorem exact_new : new.Exact :=
  ⟨rfl, rfl, rfl, Nat.zero_le _, Nat.zero_le _, Nat.zero_le _⟩

theorem egressHighWatermark_eq :
    samplesFromDurationMsU64 egressHighWatermarkMs = egressHighWatermarkSamples := by decide

theorem saturatingAdd_le_iff {a b cap : ℕ} (hcap : cap < 2 ^ 64 - 1) :
    saturatingAdd a b ≤ cap ↔ a + b ≤ cap := by
  unfold saturatingAdd
  omega

theorem caps_in_range : egressHighWatermarkSamples < 2 ^ 64 - 1 ∧
    playbackBufferMemoryCapBytes < 2 ^ 64 - 1 ∧ playbackQueueCapacity < 2 ^ 64 - 1 := by decide

theorem push_of_room (h : q.Exact) (hroom : q.HasRoom prepared.frame) :
    q.push prepared = (.ok (), {
      packets := q.packets + 1
      bytes := q.bytes + prepared.frame.byteLen
      durationSamples := q.durationSamples + prepared.frame.samples
      queue := q.queue ++ [prepared] }) := by
  obtain ⟨hlength, hbytes, hsamples⟩ := hroom
  obtain ⟨hsamplesCap, hbytesCap, hlengthCap⟩ := caps_in_range
  rw [← h.packets] at hlength
  rw [← h.bytes] at hbytes
  rw [← h.samples] at hsamples
  rw [push, egressHighWatermark_eq,
    if_neg (not_lt.mpr ((saturatingAdd_le_iff hsamplesCap).mpr hsamples)), if_neg (by omega),
    if_neg (not_lt.mpr ((saturatingAdd_le_iff hbytesCap).mpr hbytes)),
    saturatingAdd_eq (by omega), saturatingAdd_eq (by omega), saturatingAdd_eq (by omega)]

theorem push_of_no_room (h : q.Exact) (hroom : ¬ q.HasRoom prepared.frame) :
    q.push prepared = (.error prepared, q) := by
  obtain ⟨hsamplesCap, hbytesCap, -⟩ := caps_in_range
  rw [push, egressHighWatermark_eq]
  split
  next => rfl
  next hsamples =>
    split
    next => rfl
    next hlength =>
      split
      next => rfl
      next hbytes =>
        refine absurd ⟨?_, ?_, ?_⟩ hroom
        · rw [← h.packets]
          omega
        · rw [← h.bytes]
          exact (saturatingAdd_le_iff hbytesCap).mp (not_lt.mp hbytes)
        · rw [← h.samples]
          exact (saturatingAdd_le_iff hsamplesCap).mp (not_lt.mp hsamples)

/-- Room in the counted queue is what the driver checks of its list. -/
theorem hasRoom_iff_preparedFits : q.HasRoom prepared.frame ↔
    preparedFits q.queue prepared.frame = true := by
  simp only [HasRoom, preparedFits, Bool.and_eq_true, decide_eq_true_eq]
  omega

theorem Exact.push (h : q.Exact) : (q.push prepared).2.Exact := by
  by_cases hroom : q.HasRoom prepared.frame
  · rw [push_of_room h hroom]
    have hframes : preparedFrames (q.queue ++ [prepared]) =
        preparedFrames q.queue ++ [prepared.frame] := by simp [preparedFrames]
    have hbytes : byteLength [prepared.frame] = prepared.frame.byteLen := by simp [byteLength]
    have hsamples : Playback.durationSamples [prepared.frame] = prepared.frame.samples := by
      simp [Playback.durationSamples]
    obtain ⟨hroomLength, hroomBytes, hroomSamples⟩ := hroom
    constructor
    · simp only [List.length_append, List.length_singleton, h.packets]
    · simp only [hframes, byteLength_append, hbytes, h.bytes]
    · simp only [hframes, durationSamples_append, hsamples, h.samples]
    · simpa only [List.length_append, List.length_singleton] using hroomLength
    · simpa only [hframes, byteLength_append, hbytes] using hroomBytes
    · simpa only [hframes, durationSamples_append, hsamples] using hroomSamples
  · rw [push_of_no_room h hroom]
    exact h

theorem Exact.pop (h : q.Exact) : q.pop.2.Exact := by
  obtain ⟨hpackets, hbytes, hsamples, hlength, hbytesLe, hsamplesLe⟩ := h
  unfold PreparedPlayoutQueue.pop
  split
  next => exact ⟨hpackets, hbytes, hsamples, hlength, hbytesLe, hsamplesLe⟩
  next prepared rest hqueue =>
    have hconsLength : q.queue.length = rest.length + 1 := by rw [hqueue, List.length_cons]
    have hconsBytes : byteLength (preparedFrames q.queue) =
        prepared.frame.byteLen + byteLength (preparedFrames rest) := by
      rw [hqueue]
      exact total_cons OpusFrame.byteLen prepared.frame (preparedFrames rest)
    have hconsSamples : Playback.durationSamples (preparedFrames q.queue) =
        prepared.frame.samples + Playback.durationSamples (preparedFrames rest) := by
      rw [hqueue]
      exact durationSamples_cons prepared.frame (preparedFrames rest)
    constructor
    · simp only [hpackets, hconsLength, Nat.add_sub_cancel]
    · simp only [hbytes, hconsBytes, Nat.add_sub_cancel_left]
    · simp only [hsamples, hconsSamples, Nat.add_sub_cancel_left]
    · simp only
      omega
    · simp only
      omega
    · simp only
      omega

theorem pop_queue (q : PreparedPlayoutQueue) :
    q.pop.1 = q.queue.head? ∧ q.pop.2.queue = q.queue.tail := by
  unfold PreparedPlayoutQueue.pop
  split
  next hqueue => exact ⟨by rw [hqueue]; rfl, by rw [hqueue]; rfl⟩
  next prepared rest hqueue => exact ⟨by rw [hqueue]; rfl, by rw [hqueue]; rfl⟩

theorem not_hasRoom_of_isFull {frame : OpusFrame} (h : q.Exact) (hfull : q.isFull = true)
    (hbytes : 0 < frame.byteLen) (hsamples : 0 < frame.samples) : ¬ q.HasRoom frame := by
  rintro ⟨hroomLength, hroomBytes, hroomSamples⟩
  simp only [isFull, Bool.or_eq_true, decide_eq_true_eq, h.packets, h.bytes, h.samples,
    egressHighWatermark_eq] at hfull
  omega

end PreparedPlayoutQueue

inductive PreparedCall
  | push (prepared : PreparedTrackPlayout)
  | pop

def PreparedCall.onDeque : PreparedCall → Call PreparedTrackPlayout
  | .push prepared => .push prepared
  | .pop => .pop

namespace PreparedPlayoutQueue

variable {q : PreparedPlayoutQueue}

def call (q : PreparedPlayoutQueue) : PreparedCall → Bool × PreparedPlayoutQueue
  | .push prepared => ((q.push prepared).1.toOption.isSome, (q.push prepared).2)
  | .pop => (true, q.pop.2)

/-- An accepted call does to the packets what it does to a plain deque, a refused one nothing. -/
theorem exact_step (c : PreparedCall) (h : q.Exact) : (q.call c).2.Exact ∧
    (q.call c).2.queue = if (q.call c).1 then c.onDeque.plain q.queue else q.queue := by
  cases c with
  | push prepared =>
    refine ⟨h.push, ?_⟩
    by_cases hroom : q.HasRoom prepared.frame
    · rw [call, push_of_room h hroom]
      rfl
    · rw [call, push_of_no_room h hroom]
      rfl
  | pop => exact ⟨h.pop, (pop_queue q).2⟩

end PreparedPlayoutQueue

def depth (q : Counted.OpusFrameQueue) : OpusBufferDepth :=
  ⟨q.inner.length, q.bufferedBytes, durationMsFromSamples q.bufferedSamples, q.bufferedSamples⟩

def exactDepth (frames : List OpusFrame) : OpusBufferDepth :=
  ⟨frames.length, byteLength frames, durationMsFromSamples (durationSamples frames),
    durationSamples frames⟩

/-- The frames that a run of calls offers fit in 64 bits, by bytes and by samples. -/
def OfferedFit (calls : List QueueCall) : Prop :=
  byteLength (offered (calls.map QueueCall.onDeque)) < 2 ^ 64 ∧
    durationSamples (offered (calls.map QueueCall.onDeque)) < 2 ^ 64

structure Holds (capacity maxBytes maxDurationMs : ℕ) (q : Counted.OpusFrameQueue)
    (frames : List OpusFrame) : Prop where
  contents : q.inner = frames
  limits_eq : q.limits = (capacity, maxBytes, samplesFromDurationMsU64 maxDurationMs)
  bytes_eq : q.bufferedBytes = byteLength frames
  samples_eq : q.bufferedSamples = durationSamples frames
  depth_eq : depth q = exactDepth frames
  pop_eq : q.pop.1 = frames.head?
  length_le : frames.length ≤ capacity
  bytes_le : byteLength frames ≤ maxBytes
  samples_le : durationSamples frames ≤ samplesFromDurationMsU64 maxDurationMs

/-- The queue of prepared packets holds these, counts them exactly and keeps to its caps. -/
structure HoldsPrepared (q : PreparedPlayoutQueue) (prepared : List PreparedTrackPlayout) :
    Prop where
  contents : q.queue = prepared
  depth_eq : q.depth = exactDepth (preparedFrames prepared)
  pop_eq : q.pop.1 = prepared.head?
  length_le : prepared.length ≤ playbackQueueCapacity
  bytes_le : byteLength (preparedFrames prepared) ≤ playbackBufferMemoryCapBytes
  samples_le : durationSamples (preparedFrames prepared) ≤
    samplesFromDurationMsU64 egressHighWatermarkMs

theorem holds_of_exact {capacity maxBytes maxDurationMs : ℕ} {q : Counted.OpusFrameQueue} (h : q.Exact)
    (hlimits : q.limits = (capacity, maxBytes, samplesFromDurationMsU64 maxDurationMs)) :
    Holds capacity maxBytes maxDurationMs q q.inner := by
  have hcapacity : q.capacity = capacity := congrArg Prod.fst hlimits
  have hmaxBytes : q.maxBytes = maxBytes := congrArg (·.2.1) hlimits
  have hmaxSamples : q.maxDurationSamples = samplesFromDurationMsU64 maxDurationMs :=
    congrArg (·.2.2) hlimits
  refine ⟨rfl, hlimits, h.bytes, h.samples, ?_, (Counted.OpusFrameQueue.pop_inner q).1, ?_, ?_, ?_⟩
  · simp only [depth, exactDepth, Counted.OpusFrameQueue.bufferedBytes, Counted.OpusFrameQueue.bufferedSamples,
      h.bytes, h.samples]
  · rw [← hcapacity]
    exact h.length_le
  · rw [← hmaxBytes]
    exact h.bytes_le
  · rw [← hmaxSamples]
    exact h.samples_le

theorem holdsPrepared_of_exact {q : PreparedPlayoutQueue} (h : q.Exact) :
    HoldsPrepared q q.queue := by
  refine ⟨rfl, ?_, (PreparedPlayoutQueue.pop_queue q).1, h.length_le, h.bytes_le, ?_⟩
  · have hlength : (preparedFrames q.queue).length = q.queue.length := List.length_map _
    simp only [PreparedPlayoutQueue.depth, exactDepth, h.packets, h.bytes, h.samples, hlength]
  · rw [PreparedPlayoutQueue.egressHighWatermark_eq]
    exact h.samples_le

theorem running_run (capacity maxBytes maxDurationMs : ℕ) {calls last : List QueueCall}
    (h : OfferedFit (calls ++ last)) :
    Counted.OpusFrameQueue.Running (capacity, maxBytes, samplesFromDurationMsU64 maxDurationMs)
      (run Counted.OpusFrameQueue.call (.withResourceLimits capacity maxBytes maxDurationMs) calls)
      last ∧
    (run Counted.OpusFrameQueue.call (.withResourceLimits capacity maxBytes maxDurationMs)
      calls).inner =
      (accepted Counted.OpusFrameQueue.call (.withResourceLimits capacity maxBytes maxDurationMs)
        calls).foldl (fun frames c ↦ c.onDeque.plain frames) [] := by
  have hstart := Counted.OpusFrameQueue.running_new capacity maxBytes maxDurationMs h.1 h.2
  exact items_run (fun q coming ↦ Counted.OpusFrameQueue.Running
    (capacity, maxBytes, samplesFromDurationMsU64 maxDurationMs) q (coming ++ last)) hstart
    fun q c coming hq ↦ Counted.OpusFrameQueue.running_step c (coming ++ last) hq

/-- Both queues are plain deques with limits: they hold what the accepted calls leave on a plain
deque, count it exactly, and refuse a frame just when it would break a limit. -/
theorem opus_queues_are_bounded_deques :
    (∀ (capacity maxBytes maxDurationMs : ℕ) (calls : List QueueCall), OfferedFit calls →
      Holds capacity maxBytes maxDurationMs
        (run Counted.OpusFrameQueue.call (.withResourceLimits capacity maxBytes maxDurationMs) calls)
        ((accepted Counted.OpusFrameQueue.call (.withResourceLimits capacity maxBytes maxDurationMs)
          calls).foldl (fun frames c ↦ c.onDeque.plain frames) [])) ∧
    (∀ (capacity maxBytes maxDurationMs : ℕ) (calls : List QueueCall) (frame : OpusFrame),
      OfferedFit (calls ++ [.push frame]) →
        let q := run Counted.OpusFrameQueue.call (.withResourceLimits capacity maxBytes maxDurationMs) calls
        RefusesWithoutRoom (q.HasRoom frame) q frame (q.push frame) ∧
        RefusesWithoutRoom (q.HasRoom frame) q frame (q.pushFront frame) ∧
        (q.isFull = true → 0 < frame.byteLen → 0 < frame.samples →
          q.push frame = (.error frame, q) ∧ q.pushFront frame = (.error frame, q))) ∧
    (∀ calls : List PreparedCall,
      HoldsPrepared (run PreparedPlayoutQueue.call .new calls)
        ((accepted PreparedPlayoutQueue.call .new calls).foldl
          (fun prepared c ↦ c.onDeque.plain prepared) [])) ∧
    (∀ (calls : List PreparedCall) (prepared : PreparedTrackPlayout),
      let q := run PreparedPlayoutQueue.call .new calls
      RefusesWithoutRoom (q.HasRoom prepared.frame) q prepared (q.push prepared) ∧
      (q.isFull = true → 0 < prepared.frame.byteLen → 0 < prepared.frame.samples →
        q.push prepared = (.error prepared, q))) := by
  have hprepared : ∀ calls : List PreparedCall,
      (run PreparedPlayoutQueue.call .new calls).Exact ∧
        (run PreparedPlayoutQueue.call .new calls).queue =
          (accepted PreparedPlayoutQueue.call .new calls).foldl
            (fun prepared c ↦ c.onDeque.plain prepared) [] := by
    intro calls
    exact items_run (fun q _ ↦ PreparedPlayoutQueue.Exact q)
      PreparedPlayoutQueue.exact_new fun q c _ h ↦ PreparedPlayoutQueue.exact_step c h
  refine ⟨?_, ?_, ?_, ?_⟩
  · intro capacity maxBytes maxDurationMs calls hfit
    rw [← List.append_nil calls] at hfit
    obtain ⟨hend, hitems⟩ := running_run capacity maxBytes maxDurationMs hfit
    rw [← hitems]
    exact holds_of_exact hend.exact hend.limits_eq
  · intro capacity maxBytes maxDurationMs calls frame hfit
    dsimp only
    obtain ⟨⟨hexact, -, hframe⟩, -⟩ := running_run capacity maxBytes maxDurationMs hfit
    refine ⟨refusesWithoutRoom_of (fun hroom ↦ Counted.OpusFrameQueue.push_of_room hexact hframe hroom)
      fun hroom ↦ Counted.OpusFrameQueue.push_of_no_room hexact hframe hroom,
      refusesWithoutRoom_of (fun hroom ↦ Counted.OpusFrameQueue.pushFront_of_room hexact hframe hroom)
      fun hroom ↦ Counted.OpusFrameQueue.pushFront_of_no_room hexact hframe hroom, ?_⟩
    intro hfull hbytes hsamples
    have hroom := Counted.OpusFrameQueue.not_hasRoom_of_isFull hexact hfull hbytes hsamples
    exact ⟨Counted.OpusFrameQueue.push_of_no_room hexact hframe hroom,
      Counted.OpusFrameQueue.pushFront_of_no_room hexact hframe hroom⟩
  · intro calls
    obtain ⟨hexact, hitems⟩ := hprepared calls
    rw [← hitems]
    exact holdsPrepared_of_exact hexact
  · intro calls prepared
    dsimp only
    obtain ⟨hexact, -⟩ := hprepared calls
    refine ⟨refusesWithoutRoom_of (fun hroom ↦ PreparedPlayoutQueue.push_of_room hexact hroom)
      fun hroom ↦ PreparedPlayoutQueue.push_of_no_room hexact hroom, ?_⟩
    intro hfull hbytes hsamples
    exact PreparedPlayoutQueue.push_of_no_room hexact
      (PreparedPlayoutQueue.not_hasRoom_of_isFull hexact hfull hbytes hsamples)

def countedFrame : OpusFrame := ⟨[0xF8, 0xFF, 0xFE], 20, 960, 0, 0, none, 1⟩

theorem opus_queues_are_bounded_deques_two :
    Holds 2 100 60
      (run Counted.OpusFrameQueue.call (.withResourceLimits 2 100 60)
        [.push countedFrame, .pushFront countedFrame, .push countedFrame])
      [countedFrame, countedFrame] :=
  opus_queues_are_bounded_deques.1 2 100 60
    [.push countedFrame, .pushFront countedFrame, .push countedFrame] ⟨by decide, by decide⟩

end DiscordVoice.Media.Counted
