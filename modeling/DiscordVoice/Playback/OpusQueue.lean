import Mathlib.Algebra.BigOperators.Group.List.Basic
import DiscordVoice.Greedy
import DiscordVoice.Voice.Transport

namespace DiscordVoice.Playback

open Voice (Bytes)

structure OpusFrame where
  data : Bytes
  durationMs : ℕ
  durationSamples : UInt32
  sourcePositionMs : ℕ
  sourcePositionSamples : ℕ
  sourceBytePosition : Option ℕ
  epoch : ℕ
  deriving DecidableEq, Repr

namespace OpusFrame

def withEpoch (f : OpusFrame) (epoch : ℕ) : OpusFrame := { f with epoch }

def byteLen (f : OpusFrame) : ℕ := f.data.length

def samples (f : OpusFrame) : ℕ := f.durationSamples.toNat

end OpusFrame

def samplesFromDurationMs (durationMs : ℕ) : ℕ := durationMs * 48

structure OpusPacketDuration where
  ms : ℕ
  samples : UInt32
  deriving DecidableEq, Repr

/-- The samples of one frame of the packet, from its first byte. -/
def opusSamplesPerFrame (toc : UInt8) : ℕ :=
  if toc &&& 0x80 ≠ 0 then (48000 <<< ((toc >>> 3) &&& 0x03).toNat) / 400
  else if toc &&& 0x60 = 0x60 then
    if toc &&& 0x08 ≠ 0 then 48000 / 50 else 48000 / 100
  else if (toc >>> 3) &&& 0x03 = 3 then 48000 * 60 / 1000
  else (48000 <<< ((toc >>> 3) &&& 0x03).toNat) / 100

def opusPacketDuration (packet : Bytes) : Option OpusPacketDuration := do
  let toc ← packet.head?
  let frames ←
    match (toc &&& 0x03).toNat with
    | 0 => some 1
    | 1 | 2 => some 2
    | _ => packet[1]?.map fun count ↦ (count &&& 0x3F).toNat
  let samples := opusSamplesPerFrame toc * frames
  return ⟨samples * 1000 / 48000, .ofNat samples⟩

def durationSamples (frames : List OpusFrame) : ℕ := (frames.map OpusFrame.samples).sum

def byteLength (frames : List OpusFrame) : ℕ := (frames.map OpusFrame.byteLen).sum

theorem durationSamples_cons (f : OpusFrame) (frames : List OpusFrame) :
    durationSamples (f :: frames) = f.samples + durationSamples frames := by
  simp [durationSamples]

theorem durationSamples_append (a b : List OpusFrame) :
    durationSamples (a ++ b) = durationSamples a + durationSamples b := by
  simp only [durationSamples, List.map_append, List.sum_append]

theorem byteLength_append (a b : List OpusFrame) :
    byteLength (a ++ b) = byteLength a + byteLength b := by
  simp only [byteLength, List.map_append, List.sum_append]

theorem durationSamples_of_samples {frames : List OpusFrame}
    (h : ∀ frame ∈ frames, frame.samples = 960) : durationSamples frames = 960 * frames.length := by
  induction frames with
  | nil => rfl
  | cons frame frames ih =>
    have hrest := ih fun f hf ↦ h f (List.mem_cons_of_mem frame hf)
    have hhead := h frame List.mem_cons_self
    rw [durationSamples_cons, hhead, hrest, List.length_cons]
    omega

/-- `OpusFrameQueue`. The two running totals of the source are the sums over the frames. -/
structure OpusFrameQueue where
  capacity : ℕ
  maxBytes : ℕ
  maxDurationSamples : ℕ
  inner : List OpusFrame
  deriving DecidableEq, Repr

namespace OpusFrameQueue

def withResourceLimits (capacity maxBytes maxDurationMs : ℕ) : OpusFrameQueue :=
  ⟨capacity, maxBytes, samplesFromDurationMs maxDurationMs, []⟩

def bufferedSamples (q : OpusFrameQueue) : ℕ := durationSamples q.inner

def canFitFrame (q : OpusFrameQueue) (f : OpusFrame) : Bool :=
  q.inner.length < q.capacity && byteLength q.inner + f.byteLen ≤ q.maxBytes &&
    q.bufferedSamples + f.samples ≤ q.maxDurationSamples

def isFull (q : OpusFrameQueue) : Bool :=
  q.capacity ≤ q.inner.length || q.maxBytes ≤ byteLength q.inner ||
    q.maxDurationSamples ≤ q.bufferedSamples

/-- A frame that does not fit is handed back. -/
def push (q : OpusFrameQueue) (f : OpusFrame) : Except OpusFrame OpusFrameQueue :=
  if q.canFitFrame f then .ok { q with inner := q.inner ++ [f] } else .error f

def pushFront (q : OpusFrameQueue) (f : OpusFrame) : Except OpusFrame OpusFrameQueue :=
  if q.canFitFrame f then .ok { q with inner := f :: q.inner } else .error f

def pop (q : OpusFrameQueue) : Option (OpusFrame × OpusFrameQueue) :=
  match q.inner with
  | [] => none
  | f :: rest => some (f, { q with inner := rest })

def cleared (q : OpusFrameQueue) : OpusFrameQueue := { q with inner := [] }

theorem push_ok {q r : OpusFrameQueue} {f : OpusFrame} (h : q.push f = .ok r) :
    r = { q with inner := q.inner ++ [f] } := by
  simp only [push] at h
  split at h
  · exact (Except.ok.inj h).symm
  · cases h

theorem canFitFrame_of_push {q r : OpusFrameQueue} {f : OpusFrame} (h : q.push f = .ok r) :
    q.canFitFrame f = true := by
  simp only [push] at h
  split at h
  · assumption
  · cases h

theorem push_error {q : OpusFrameQueue} {f g : OpusFrame} (h : q.push f = .error g) : g = f := by
  simp only [push] at h
  split at h
  · cases h
  · exact (Except.error.inj h).symm

theorem push_error_unfit {q : OpusFrameQueue} {f g : OpusFrame} (h : q.push f = .error g) :
    q.canFitFrame f = false := by
  simp only [push] at h
  split at h
  · cases h
  · rename_i hfit
    exact Bool.eq_false_of_not_eq_true hfit

theorem pushFront_ok {q r : OpusFrameQueue} {f : OpusFrame} (h : q.pushFront f = .ok r) :
    r = { q with inner := f :: q.inner } := by
  simp only [pushFront] at h
  split at h
  · exact (Except.ok.inj h).symm
  · cases h

theorem pop_some {q r : OpusFrameQueue} {f : OpusFrame} (h : q.pop = some (f, r)) :
    q.inner = f :: r.inner ∧ r = { q with inner := r.inner } := by
  rcases hq : q.inner with _ | ⟨g, rest⟩
  · simp [pop, hq] at h
  · simp only [pop, hq, Option.some.injEq, Prod.mk.injEq] at h
    obtain ⟨rfl, rfl⟩ := h
    exact ⟨rfl, rfl⟩

theorem pop_none {q : OpusFrameQueue} (h : q.pop = none) : q.inner = [] := by
  rcases hq : q.inner with _ | ⟨g, rest⟩
  · rfl
  · simp [pop, hq] at h

/-- A frame an empty queue refuses is refused whatever the queue holds. -/
theorem canFitFrame_cleared {q : OpusFrameQueue} {f : OpusFrame} (h : q.canFitFrame f = true) :
    q.cleared.canFitFrame f = true := by
  simp only [canFitFrame, Bool.and_eq_true, decide_eq_true_eq] at h ⊢
  simp only [cleared, bufferedSamples, durationSamples, byteLength, List.map_nil, List.sum_nil,
    List.length_nil, zero_add] at h ⊢
  omega

/-- `push`, with the frame handed back left out. -/
def offer (q : OpusFrameQueue) (f : OpusFrame) : Option OpusFrameQueue := (q.push f).toOption

def offerFront (q : OpusFrameQueue) (f : OpusFrame) : Option OpusFrameQueue :=
  (q.pushFront f).toOption

theorem offer_eq (q : OpusFrameQueue) (f : OpusFrame) :
    q.offer f = if q.canFitFrame f then some { q with inner := q.inner ++ [f] } else none := by
  unfold offer push
  split <;> rfl

theorem offerFront_eq (q : OpusFrameQueue) (f : OpusFrame) :
    q.offerFront f = if q.canFitFrame f then some { q with inner := f :: q.inner } else none := by
  unfold offerFront pushFront
  split <;> rfl

theorem canFitFrame_iff (q : OpusFrameQueue) (f : OpusFrame) :
    q.canFitFrame f = true ↔ q.inner.length < q.capacity ∧
      byteLength q.inner + f.byteLen ≤ q.maxBytes ∧
      durationSamples q.inner + f.samples ≤ q.maxDurationSamples := by
  simp only [canFitFrame, Bool.and_eq_true, decide_eq_true_eq, and_assoc]
  simp only [bufferedSamples]

/-- A frame a queue refuses is refused when more has gone in. -/
theorem canFitFrame_of_more {q : OpusFrameQueue} {f g : OpusFrame} {frames : List OpusFrame}
    (hmore : frames.Perm (g :: q.inner))
    (h : { q with inner := frames }.canFitFrame f = true) : q.canFitFrame f = true := by
  rw [canFitFrame_iff] at h ⊢
  have hlength : frames.length = q.inner.length + 1 := by simpa using hmore.length_eq
  have hbytes : byteLength frames = g.byteLen + byteLength q.inner := by
    simpa [byteLength] using (hmore.map OpusFrame.byteLen).sum_eq
  have hsamples : durationSamples frames = g.samples + durationSamples q.inner := by
    simpa [durationSamples] using (hmore.map OpusFrame.samples).sum_eq
  simp only [hlength, hbytes, hsamples] at h
  omega

theorem stubborn_offer : Greedy.Stubborn offer := by
  intro q r f g hf hg
  rw [offer_eq] at hf hg ⊢
  split_ifs at hf hg with hfit hfits
  have hr : { q with inner := q.inner ++ [g] } = r := Option.some.inj hg
  subst hr
  rw [if_neg fun hmore ↦ hfit (canFitFrame_of_more List.perm_append_comm hmore)]

theorem stubborn_offerFront : Greedy.Stubborn offerFront := by
  intro q r f g hf hg
  rw [offerFront_eq] at hf hg ⊢
  split_ifs at hf hg with hfit hfits
  have hr : { q with inner := g :: q.inner } = r := Option.some.inj hg
  subst hr
  rw [if_neg fun hmore ↦ hfit (canFitFrame_of_more (.refl _) hmore)]

/-- What is offered to a queue joins its end. -/
theorem after_offer (q : OpusFrameQueue) (frames : List OpusFrame) :
    Greedy.after offer q frames =
      { q with inner := q.inner ++ Greedy.taken offer q frames } := by
  induction frames generalizing q with
  | nil => simp [Greedy.after, Greedy.taken]
  | cons f frames ih =>
    simp only [Greedy.after, Greedy.taken, offer_eq]
    split_ifs with hfit
    · simp only [Option.getD_some, ih, List.append_assoc, List.singleton_append]
    · simp only [Option.getD_none, ih]

/-- What is offered to the front of a queue one after another stands there from the last one on. -/
theorem after_offerFront (q : OpusFrameQueue) (frames : List OpusFrame) :
    Greedy.after offerFront q frames =
      { q with inner := (Greedy.taken offerFront q frames).reverse ++ q.inner } := by
  induction frames generalizing q with
  | nil => simp [Greedy.after, Greedy.taken]
  | cons f frames ih =>
    simp only [Greedy.after, Greedy.taken, offerFront_eq]
    split_ifs with hfit
    · simp only [Option.getD_some, ih, List.reverse_cons, List.append_assoc, List.singleton_append]
    · simp only [Option.getD_none, ih]

end OpusFrameQueue

end DiscordVoice.Playback
