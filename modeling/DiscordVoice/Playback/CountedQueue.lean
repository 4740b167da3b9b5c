import DiscordVoice.BoundedDeque
import DiscordVoice.Playback.HttpStream
import DiscordVoice.Playback.OpusQueue

namespace DiscordVoice.Playback.Counted

open BoundedDeque

def samplesFromDurationMsU64 (durationMs : ℕ) : ℕ := min (durationMs * 48) (2 ^ 64 - 1)

/-- `OpusFrameQueue` with the two running totals of the source. -/
structure OpusFrameQueue where
  capacity : ℕ
  maxBytes : ℕ
  maxDurationSamples : ℕ
  durationSamples : ℕ
  bytes : ℕ
  inner : List OpusFrame
  deriving DecidableEq, Repr

namespace OpusFrameQueue

def withResourceLimits (capacity maxBytes maxDurationMs : ℕ) : OpusFrameQueue :=
  ⟨capacity, maxBytes, samplesFromDurationMsU64 maxDurationMs, 0, 0, []⟩

def canFitResource (q : OpusFrameQueue) (byteLen durationSamples : ℕ) : Bool :=
  q.inner.length < q.capacity && saturatingAdd q.bytes byteLen ≤ q.maxBytes &&
    saturatingAdd q.durationSamples durationSamples ≤ q.maxDurationSamples

def canFitFrame (q : OpusFrameQueue) (frame : OpusFrame) : Bool :=
  q.canFitResource frame.byteLen frame.samples

def push (q : OpusFrameQueue) (frame : OpusFrame) : Except OpusFrame Unit × OpusFrameQueue :=
  if q.canFitFrame frame then
    (.ok (), { q with
      durationSamples := saturatingAdd q.durationSamples frame.samples
      bytes := saturatingAdd q.bytes frame.byteLen
      inner := q.inner ++ [frame] })
  else (.error frame, q)

def pushFront (q : OpusFrameQueue) (frame : OpusFrame) :
    Except OpusFrame Unit × OpusFrameQueue :=
  if q.canFitFrame frame then
    (.ok (), { q with
      durationSamples := saturatingAdd q.durationSamples frame.samples
      bytes := saturatingAdd q.bytes frame.byteLen
      inner := frame :: q.inner })
  else (.error frame, q)

def pop (q : OpusFrameQueue) : Option OpusFrame × OpusFrameQueue :=
  match q.inner with
  | [] => (none, q)
  | frame :: rest =>
    (some frame, { q with
      durationSamples := q.durationSamples - frame.samples
      bytes := q.bytes - frame.byteLen
      inner := rest })

def isFull (q : OpusFrameQueue) : Bool :=
  q.capacity ≤ q.inner.length || q.maxBytes ≤ q.bytes ||
    q.maxDurationSamples ≤ q.durationSamples

def bufferedSamples (q : OpusFrameQueue) : ℕ := q.durationSamples

def bufferedBytes (q : OpusFrameQueue) : ℕ := q.bytes

/-- The loop of `drop_stale_epoch`. -/
def retainEpoch (epoch : ℕ) (retained : List OpusFrame) : List OpusFrame → List OpusFrame
  | [] => retained
  | frame :: rest =>
    if frame.epoch = epoch then retainEpoch epoch (retained ++ [frame]) rest
    else retainEpoch epoch retained rest

def recalculateDepth (q : OpusFrameQueue) : OpusFrameQueue :=
  { q with
    durationSamples := q.inner.foldl (fun n frame ↦ saturatingAdd n frame.samples) 0
    bytes := q.inner.foldl (fun n frame ↦ saturatingAdd n frame.byteLen) 0 }

def dropStaleEpoch (q : OpusFrameQueue) (epoch : ℕ) : OpusFrameQueue :=
  { q with inner := retainEpoch epoch [] q.inner }.recalculateDepth

def retagEpoch (q : OpusFrameQueue) (epoch : ℕ) : OpusFrameQueue :=
  { q with inner := q.inner.map (·.withEpoch epoch) }

/-- The queue of the other modules, whose totals are sums. -/
def summed (q : OpusFrameQueue) : Playback.OpusFrameQueue :=
  ⟨q.capacity, q.maxBytes, q.maxDurationSamples, q.inner⟩

end OpusFrameQueue

inductive QueueCall
  | push (frame : OpusFrame)
  | pushFront (frame : OpusFrame)
  | pop
  | dropStaleEpoch (epoch : ℕ)
  | retagEpoch (epoch : ℕ)

def QueueCall.onDeque : QueueCall → Call OpusFrame
  | .push frame => .push frame
  | .pushFront frame => .pushFront frame
  | .pop => .pop
  | .dropStaleEpoch epoch => .retain (·.epoch = epoch)
  | .retagEpoch epoch => .update (·.withEpoch epoch)

namespace OpusFrameQueue

def call (q : OpusFrameQueue) : QueueCall → Bool × OpusFrameQueue
  | .push frame => ((q.push frame).1.toOption.isSome, (q.push frame).2)
  | .pushFront frame => ((q.pushFront frame).1.toOption.isSome, (q.pushFront frame).2)
  | .pop => (true, q.pop.2)
  | .dropStaleEpoch epoch => (true, q.dropStaleEpoch epoch)
  | .retagEpoch epoch => (true, q.retagEpoch epoch)

/-- The totals are the sums, and within the limits. -/
structure Exact (q : OpusFrameQueue) : Prop where
  bytes : q.bytes = byteLength q.inner
  samples : q.durationSamples = Playback.durationSamples q.inner
  length_le : q.inner.length ≤ q.capacity
  bytes_le : byteLength q.inner ≤ q.maxBytes
  samples_le : Playback.durationSamples q.inner ≤ q.maxDurationSamples

/-- The frames in the queue and the frames still to be offered fit in 64 bits together. -/
def Fits (q : OpusFrameQueue) (frames : List OpusFrame) : Prop :=
  byteLength q.inner + byteLength frames < 2 ^ 64 ∧
    Playback.durationSamples q.inner + Playback.durationSamples frames < 2 ^ 64

def HasRoom (q : OpusFrameQueue) (frame : OpusFrame) : Prop :=
  q.inner.length + 1 ≤ q.capacity ∧ byteLength q.inner + frame.byteLen ≤ q.maxBytes ∧
    Playback.durationSamples q.inner + frame.samples ≤ q.maxDurationSamples

variable {q : OpusFrameQueue} {frame : OpusFrame}

theorem canFitFrame_iff (h : q.Exact) (hfits : q.Fits [frame]) :
    q.canFitFrame frame = true ↔ q.HasRoom frame := by
  have hbytes : byteLength [frame] = frame.byteLen := by simp [byteLength]
  have hsamples : Playback.durationSamples [frame] = frame.samples := by
    simp [Playback.durationSamples]
  rw [Fits, hbytes, hsamples] at hfits
  simp only [canFitFrame, canFitResource, HasRoom, Bool.and_eq_true, decide_eq_true_eq, h.bytes,
    h.samples, saturatingAdd_eq hfits.1, saturatingAdd_eq hfits.2, Nat.lt_iff_add_one_le, and_assoc]

theorem Exact.insert (h : q.Exact) (hfits : q.Fits [frame]) (hroom : q.HasRoom frame)
    {inner : List OpusFrame} (hperm : inner.Perm (frame :: q.inner)) :
    Exact { q with
      durationSamples := saturatingAdd q.durationSamples frame.samples
      bytes := saturatingAdd q.bytes frame.byteLen
      inner } := by
  have hbytes : byteLength inner = frame.byteLen + byteLength q.inner := by
    simpa [byteLength] using (hperm.map OpusFrame.byteLen).sum_eq
  have hsamples : Playback.durationSamples inner =
      frame.samples + Playback.durationSamples q.inner := by
    simpa [Playback.durationSamples] using (hperm.map OpusFrame.samples).sum_eq
  have hlength : inner.length = q.inner.length + 1 := hperm.length_eq
  have hbytesFit : q.bytes + frame.byteLen < 2 ^ 64 := by
    simpa [h.bytes, byteLength] using hfits.1
  have hsamplesFit : q.durationSamples + frame.samples < 2 ^ 64 := by
    simpa [h.samples, Playback.durationSamples] using hfits.2
  obtain ⟨hroomLength, hroomBytes, hroomSamples⟩ := hroom
  constructor
  · exact (saturatingAdd_eq hbytesFit).trans (by rw [h.bytes, hbytes, Nat.add_comm])
  · exact (saturatingAdd_eq hsamplesFit).trans (by rw [h.samples, hsamples, Nat.add_comm])
  · simp only [hlength]
    omega
  · simp only [hbytes]
    omega
  · simp only [hsamples]
    omega

theorem push_of_room (h : q.Exact) (hfits : q.Fits [frame]) (hroom : q.HasRoom frame) :
    q.push frame = (.ok (), { q with
      durationSamples := saturatingAdd q.durationSamples frame.samples
      bytes := saturatingAdd q.bytes frame.byteLen
      inner := q.inner ++ [frame] }) :=
  if_pos ((canFitFrame_iff h hfits).mpr hroom)

theorem push_of_no_room (h : q.Exact) (hfits : q.Fits [frame]) (hroom : ¬ q.HasRoom frame) :
    q.push frame = (.error frame, q) :=
  if_neg fun hfit ↦ hroom ((canFitFrame_iff h hfits).mp hfit)

theorem pushFront_of_room (h : q.Exact) (hfits : q.Fits [frame]) (hroom : q.HasRoom frame) :
    q.pushFront frame = (.ok (), { q with
      durationSamples := saturatingAdd q.durationSamples frame.samples
      bytes := saturatingAdd q.bytes frame.byteLen
      inner := frame :: q.inner }) :=
  if_pos ((canFitFrame_iff h hfits).mpr hroom)

theorem pushFront_of_no_room (h : q.Exact) (hfits : q.Fits [frame]) (hroom : ¬ q.HasRoom frame) :
    q.pushFront frame = (.error frame, q) :=
  if_neg fun hfit ↦ hroom ((canFitFrame_iff h hfits).mp hfit)

theorem Exact.pop (h : q.Exact) : q.pop.2.Exact := by
  obtain ⟨hbytes, hsamples, hlength, hbytesLe, hsamplesLe⟩ := h
  unfold OpusFrameQueue.pop
  split
  next => exact ⟨hbytes, hsamples, hlength, hbytesLe, hsamplesLe⟩
  next frame rest hinner =>
    have hconsBytes : byteLength q.inner = frame.byteLen + byteLength rest := by
      rw [hinner]
      exact total_cons OpusFrame.byteLen frame rest
    have hconsSamples : Playback.durationSamples q.inner =
        frame.samples + Playback.durationSamples rest := by
      rw [hinner, durationSamples_cons]
    have hconsLength : q.inner.length = rest.length + 1 := by rw [hinner, List.length_cons]
    constructor
    · simp only [hbytes, hconsBytes, Nat.add_sub_cancel_left]
    · simp only [hsamples, hconsSamples, Nat.add_sub_cancel_left]
    · simp only
      omega
    · simp only
      omega
    · simp only
      omega

theorem pop_inner (q : OpusFrameQueue) :
    q.pop.1 = q.inner.head? ∧ q.pop.2.inner = q.inner.tail := by
  unfold OpusFrameQueue.pop
  split
  next hinner => exact ⟨by rw [hinner]; rfl, by rw [hinner]; rfl⟩
  next frame rest hinner => exact ⟨by rw [hinner]; rfl, by rw [hinner]; rfl⟩

theorem retainEpoch_eq (epoch : ℕ) (retained frames : List OpusFrame) :
    retainEpoch epoch retained frames = retained ++ frames.filter (·.epoch = epoch) := by
  induction frames generalizing retained with
  | nil => simp [retainEpoch]
  | cons frame rest ih =>
    rw [retainEpoch]
    split
    next hepoch => simp [ih, hepoch]
    next hepoch => simp [ih, hepoch]

theorem Exact.dropStaleEpoch (h : q.Exact) (hfits : q.Fits []) (epoch : ℕ) :
    (q.dropStaleEpoch epoch).Exact ∧
      (q.dropStaleEpoch epoch).inner = q.inner.filter (·.epoch = epoch) := by
  have hinner : retainEpoch epoch [] q.inner = q.inner.filter (·.epoch = epoch) :=
    retainEpoch_eq epoch [] q.inner
  have hbytes := total_filter_le OpusFrame.byteLen (·.epoch = epoch) q.inner
  have hsamples := total_filter_le OpusFrame.samples (·.epoch = epoch) q.inner
  have hlength := List.length_filter_le (·.epoch = epoch) q.inner
  obtain ⟨hbytesFit, hsamplesFit⟩ := hfits
  obtain ⟨-, -, hlengthLe, hbytesLe, hsamplesLe⟩ := h
  simp only [byteLength, Playback.durationSamples, total] at *
  refine ⟨?_, hinner⟩
  constructor
  · simp only [OpusFrameQueue.dropStaleEpoch, recalculateDepth, hinner, byteLength, saturatingAdd]
    rw [foldl_min_add OpusFrame.byteLen _ _ (Nat.zero_le _), total]
    omega
  · simp only [OpusFrameQueue.dropStaleEpoch, recalculateDepth, hinner, Playback.durationSamples,
      saturatingAdd]
    rw [foldl_min_add OpusFrame.samples _ _ (Nat.zero_le _), total]
    omega
  · simp only [OpusFrameQueue.dropStaleEpoch, recalculateDepth, hinner]
    omega
  · simp only [OpusFrameQueue.dropStaleEpoch, recalculateDepth, hinner, byteLength]
    omega
  · simp only [OpusFrameQueue.dropStaleEpoch, recalculateDepth, hinner, Playback.durationSamples]
    omega

theorem Exact.retagEpoch (h : q.Exact) (epoch : ℕ) : (q.retagEpoch epoch).Exact := by
  have hbytes : byteLength (q.inner.map (·.withEpoch epoch)) = byteLength q.inner :=
    total_map (w := OpusFrame.byteLen) (f := (·.withEpoch epoch)) (fun _ ↦ rfl) q.inner
  have hsamples : Playback.durationSamples (q.inner.map (·.withEpoch epoch)) =
      Playback.durationSamples q.inner :=
    total_map (w := OpusFrame.samples) (f := (·.withEpoch epoch)) (fun _ ↦ rfl) q.inner
  constructor
  · exact h.bytes.trans hbytes.symm
  · exact h.samples.trans hsamples.symm
  · simpa only [OpusFrameQueue.retagEpoch, List.length_map] using h.length_le
  · exact hbytes.trans_le h.bytes_le
  · exact hsamples.trans_le h.samples_le

def limits (q : OpusFrameQueue) : ℕ × ℕ × ℕ := (q.capacity, q.maxBytes, q.maxDurationSamples)

/-- What a run keeps: exact totals under the same limits, and room in 64 bits for the frames the
coming calls bring. -/
structure Running (limits : ℕ × ℕ × ℕ) (q : OpusFrameQueue) (calls : List QueueCall) : Prop where
  exact : q.Exact
  limits_eq : q.limits = limits
  fits : q.Fits (offered (calls.map QueueCall.onDeque))

theorem fits_of_fits_append {frames more : List OpusFrame} (h : q.Fits (frames ++ more)) :
    q.Fits frames := by
  rw [Fits, byteLength_append, durationSamples_append] at h
  rw [Fits]
  omega

/-- A queue whose frames are among those it held, and one offered to it, leaves the room it left. -/
theorem fits_of_perm {q' : OpusFrameQueue} {taken more : List OpusFrame}
    (h : q.Fits (taken ++ more)) (hinner : q'.inner.Perm (taken ++ q.inner)) : q'.Fits more := by
  have hbytes : byteLength q'.inner = byteLength taken + byteLength q.inner := by
    rw [← byteLength_append]
    exact (hinner.map OpusFrame.byteLen).sum_eq
  have hsamples : Playback.durationSamples q'.inner =
      Playback.durationSamples taken + Playback.durationSamples q.inner := by
    rw [← durationSamples_append]
    exact (hinner.map OpusFrame.samples).sum_eq
  rw [Fits, byteLength_append, durationSamples_append] at h
  rw [Fits, hbytes, hsamples]
  omega

theorem fits_of_le {q' : OpusFrameQueue} {frames : List OpusFrame} (h : q.Fits frames)
    (hbytes : byteLength q'.inner ≤ byteLength q.inner)
    (hsamples : Playback.durationSamples q'.inner ≤ Playback.durationSamples q.inner) :
    q'.Fits frames := by
  rw [Fits] at h ⊢
  omega

theorem running_step {bounds : ℕ × ℕ × ℕ} (c : QueueCall) (calls : List QueueCall)
    (h : Running bounds q (c :: calls)) : Running bounds (q.call c).2 calls ∧
      (q.call c).2.inner = if (q.call c).1 then c.onDeque.plain q.inner else q.inner := by
  obtain ⟨hexact, hlimits, hfits⟩ := h
  rw [List.map_cons, offered, List.flatMap_cons] at hfits
  have hmore : q.Fits (offered (calls.map QueueCall.onDeque)) := by
    rw [Fits, byteLength_append, durationSamples_append] at hfits
    rw [Fits, offered]
    omega
  cases c with
  | push frame =>
    have hframe : q.Fits [frame] := fits_of_fits_append hfits
    by_cases hroom : q.HasRoom frame
    · rw [call, push_of_room hexact hframe hroom]
      have hperm : (q.inner ++ [frame]).Perm (frame :: q.inner) := List.perm_append_comm
      exact ⟨⟨hexact.insert hframe hroom hperm, hlimits, fits_of_perm hfits hperm⟩, rfl⟩
    · rw [call, push_of_no_room hexact hframe hroom]
      exact ⟨⟨hexact, hlimits, hmore⟩, rfl⟩
  | pushFront frame =>
    have hframe : q.Fits [frame] := fits_of_fits_append hfits
    by_cases hroom : q.HasRoom frame
    · rw [call, pushFront_of_room hexact hframe hroom]
      exact ⟨⟨hexact.insert hframe hroom (.refl _), hlimits, fits_of_perm hfits (.refl _)⟩, rfl⟩
    · rw [call, pushFront_of_no_room hexact hframe hroom]
      exact ⟨⟨hexact, hlimits, hmore⟩, rfl⟩
  | pop =>
    have hinner := (pop_inner q).2
    refine ⟨⟨hexact.pop, ?_, ?_⟩, hinner⟩
    · rw [← hlimits, call, OpusFrameQueue.pop]
      split
      next => rfl
      next => rfl
    · apply fits_of_le hmore
      · rw [call, hinner]
        exact total_tail_le OpusFrame.byteLen q.inner
      · rw [call, hinner]
        exact total_tail_le OpusFrame.samples q.inner
  | dropStaleEpoch epoch =>
    have hnone : q.Fits [] := by
      rw [Fits] at hmore ⊢
      simp only [byteLength, Playback.durationSamples, List.map_nil, List.sum_nil] at hmore ⊢
      omega
    obtain ⟨hdropped, hinner⟩ := hexact.dropStaleEpoch hnone epoch
    refine ⟨⟨hdropped, hlimits, ?_⟩, hinner⟩
    apply fits_of_le hmore
    · rw [call, hinner]
      exact total_filter_le OpusFrame.byteLen _ q.inner
    · rw [call, hinner]
      exact total_filter_le OpusFrame.samples _ q.inner
  | retagEpoch epoch =>
    refine ⟨⟨hexact.retagEpoch epoch, hlimits, ?_⟩, rfl⟩
    apply fits_of_le hmore
    · exact (total_map (w := OpusFrame.byteLen) (f := (·.withEpoch epoch)) (fun _ ↦ rfl) q.inner).le
    · exact (total_map (w := OpusFrame.samples) (f := (·.withEpoch epoch)) (fun _ ↦ rfl) q.inner).le

theorem running_new (capacity maxBytes maxDurationMs : ℕ) {calls : List QueueCall}
    (hbytes : byteLength (offered (calls.map QueueCall.onDeque)) < 2 ^ 64)
    (hsamples : Playback.durationSamples (offered (calls.map QueueCall.onDeque)) < 2 ^ 64) :
    Running (capacity, maxBytes, samplesFromDurationMsU64 maxDurationMs)
      (withResourceLimits capacity maxBytes maxDurationMs) calls where
  exact := ⟨rfl, rfl, Nat.zero_le _, Nat.zero_le _, Nat.zero_le _⟩
  limits_eq := rfl
  fits := by
    constructor
    · simpa [withResourceLimits, byteLength] using hbytes
    · simpa [withResourceLimits, Playback.durationSamples] using hsamples

/-- A full queue has no room for a frame of at least one byte and one sample. -/
theorem not_hasRoom_of_isFull (h : q.Exact) (hfull : q.isFull = true) (hbytes : 0 < frame.byteLen)
    (hsamples : 0 < frame.samples) : ¬ q.HasRoom frame := by
  rintro ⟨hroomLength, hroomBytes, hroomSamples⟩
  simp only [isFull, Bool.or_eq_true, decide_eq_true_eq, h.bytes, h.samples] at hfull
  omega

/-- The queue of the other modules is the one with the running totals. -/
theorem push_summed (h : q.Exact) (hfits : q.Fits [frame]) :
    q.summed.push frame = (q.push frame).1.map fun _ ↦ (q.push frame).2.summed := by
  have hfit : q.summed.canFitFrame frame = q.canFitFrame frame := by
    rw [Bool.eq_iff_iff, canFitFrame_iff h hfits, Playback.OpusFrameQueue.canFitFrame_iff]
    exact Iff.rfl
  rw [Playback.OpusFrameQueue.push, hfit, push]
  split
  next => rfl
  next => rfl

end OpusFrameQueue

end DiscordVoice.Playback.Counted
