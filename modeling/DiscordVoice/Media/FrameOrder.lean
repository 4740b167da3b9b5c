import DiscordVoice.Media.CursorAgreement
import DiscordVoice.Media.NaturalEnd

namespace DiscordVoice.Media

open Voice Playback MediaState Schedule DeadlineSender

/-- One list of frames is part of another, in its order; the epoch the driver stamps on a frame does
not count. -/
def InOrder (frames source : List OpusFrame) : Prop :=
  (frames.map (·.withEpoch 0)).Sublist (source.map (·.withEpoch 0))

namespace InOrder

variable {a b c d : List OpusFrame}

theorem of_sublist (h : a.Sublist b) : InOrder a b := h.map _

theorem trans (h : InOrder a b) (h' : InOrder b c) : InOrder a c := List.Sublist.trans h h'

theorem append (h : InOrder a b) (h' : InOrder c d) : InOrder (a ++ c) (b ++ d) := by
  unfold InOrder
  rw [List.map_append, List.map_append]
  exact List.Sublist.append h h'

end InOrder

def Wire.tracks (w : Wire) : List OpusFrame := w.sent.filterMap (·.frame)

namespace DeadlineSender

/-- The frames this sender may still put on the wire: those of its commands that are past the
check of the generation or would pass it. -/
def sendable (generation : ℕ) (d : DeadlineSender) : List OpusFrame :=
  let live := d.commands.filter (·.generation = generation)
  match d.pc with
  | .checked c | .compared c => (c :: live).filterMap (·.frame)
  | .taken c => ((c :: d.commands).filter (·.generation = generation)).filterMap (·.frame)
  | _ => live.filterMap (·.frame)

variable {generation : ℕ} {d d' : DeadlineSender} {w w' : Wire}

theorem sendable_move (h : Move generation d w d' w') :
    (∃ frames, w'.tracks = w.tracks ++ frames ∧ d.sendable generation =
      frames ++ d'.sendable generation) ∨ w' = w ∧ d'.sendable generation = [] := by
  cases h with
  | idle hd hpc =>
    refine .inl ⟨[], by simp, ?_⟩
    rcases hd with hd | hd <;> rcases hpc with rfl | rfl <;> simp [sendable, hd]
  | take hd hcommands => exact .inl ⟨[], by simp, by simp [sendable, hd, hcommands]⟩
  | drop hd hstale =>
    unfold emitDrop
    split_ifs
    · exact .inr ⟨rfl, by simp [sendable, stop]⟩
    · exact .inl ⟨[], by simp, by simp [sendable, hd, hstale]⟩
  | check hd hlive => exact .inl ⟨[], by simp, by simp [sendable, hd, hlive]⟩
  | compare hd _ => exact .inl ⟨[], by simp, by simp [sendable, hd]⟩
  | @send c hd =>
    refine .inl ⟨c.frame.toList, ?_, ?_⟩
    · cases hframe : c.frame <;> simp [Wire.tracks, hframe]
    · cases hframe : c.frame <;> simp [sendable, hd, hframe]
  | advance hd _ => exact .inl ⟨[], by simp [Wire.tracks], by simp [sendable, hd]⟩
  | record hd =>
    unfold emitSent
    split_ifs
    · exact .inr ⟨rfl, by simp [sendable, stop]⟩
    · exact .inl ⟨[], by simp, by simp [sendable, hd]⟩
  | shutdown hd _ | mismatch hd _ | socketFailed hd | overtaken hd _ =>
    exact .inr ⟨rfl, by simp [sendable, stop]⟩

theorem sendable_move_nil (h : Move generation d w d' w') (hnil : d.sendable generation = []) :
    w'.tracks = w.tracks ∧ d'.sendable generation = [] := by
  rcases sendable_move h with ⟨frames, htracks, hframes⟩ | ⟨rfl, hnil'⟩
  · rw [hnil] at hframes
    obtain ⟨rfl, hnil'⟩ := List.append_eq_nil_iff.mp hframes.symm
    exact ⟨by simpa using htracks, hnil'⟩
  · exact ⟨rfl, hnil'⟩

/-- The command a sender found current and has not sent yet. -/
def committed (d : DeadlineSender) : List PreparedPlayoutCommand :=
  match d.pc with
  | .checked c | .compared c => [c]
  | _ => []

/-- A sender that holds only commands of older generations sends at most the one it is at. -/
theorem sendable_of_stale (h : ∀ c ∈ d.waiting, c.generation < generation) :
    d.sendable generation = d.committed.filterMap (·.frame) := by
  have hne {c : PreparedPlayoutCommand} (hc : c ∈ d.commands) : c.generation ≠ generation := by
    refine (h c ?_).ne
    simp only [waiting]
    split <;> simp [hc]
  have hlive : d.commands.filter (·.generation = generation) = [] := by
    simpa using fun c hc ↦ hne hc
  cases hpc : d.pc with
  | taken c =>
    have hc := h c (by simp [waiting, hpc])
    simp [sendable, committed, hpc, hlive, hc.ne]
  | _ => simp [sendable, committed, hpc, hlive]

theorem sendable_of_live (h : ∀ c ∈ d.waiting, c.generation = generation) :
    d.sendable generation = d.waiting.filterMap (·.frame) := by
  have hlive : d.commands.filter (·.generation = generation) = d.commands := by
    rw [List.filter_eq_self]
    intro c hc
    have : c ∈ d.waiting := by
      simp only [waiting]
      split <;> simp [hc]
    simpa using h c this
  cases hpc : d.pc with
  | taken c =>
    have hc := h c (by simp [waiting, hpc])
    simp [sendable, waiting, hpc, hlive, hc]
  | _ => simp [sendable, waiting, hpc, hlive]

end DeadlineSender

/-- Whatever a replaced sender still holds is of an older generation. -/
structure Superseded (s : MediaState) : Prop where
  old : ∀ d ∈ s.old, ∀ c ∈ d.waiting, c.generation < s.generation
  current : s.pc.stand = .stale ∨ s.pc.stand = .discarded →
    ∀ c ∈ s.current.waiting, c.generation < s.generation

namespace Superseded

variable {aead : Aead} {s t : MediaState}

theorem of_other (h : Superseded s) (hold : t.old = s.old) (hgeneration : t.generation = s.generation)
    (ht : t.pc.stand = .ahead ∨ t.pc.stand = .exited) : Superseded t where
  old := by
    rw [hold, hgeneration]
    exact h.old
  current hpc := by rcases ht with ht | ht <;> simp [ht] at hpc

theorem of_flow {m : Flow} (h : Superseded s) (hm : t.flow = m) (hold : m.old = s.old)
    (hgeneration : m.generation = s.generation) (ht : t.pc.stand = .ahead) : Superseded t :=
  h.of_other ((congrArg Flow.old hm).trans hold) ((congrArg Flow.generation hm).trans hgeneration)
    (.inl ht)

theorem effect (h : Superseded s) (hc : Connected s) (he : Effect aead s t) : Superseded t := by
  cases he with
  | jump hs ht hm => exact h.of_flow hm rfl rfl (stand_of_calm ht)
  | account hs hrecords hpending hmatch ht => exact h.of_other rfl rfl (.inl (stand_of_calm ht))
  | accountDropped hs hdropped => exact absurd (hc.linked (link_of_calm hs)).noDrops hdropped
  | report hs hq hpc =>
    refine h.of_flow (sendMetric_flow _) rfl rfl ?_
    rcases hpc with ⟨-, hcalm⟩ | ⟨site, sent, -, rfl⟩
    · exact stand_of_calm hcalm
    · rfl
  | invalidate hs =>
    have hlive := (hc.linked (by rw [hs]; rfl)).live
    refine ⟨fun d hd c hc ↦ (h.old d hd c hc).trans (Nat.lt_succ_self _), fun _ c hc ↦ ?_⟩
    rw [hlive c hc]
    exact Nat.lt_succ_self _
  | discard hs => exact ⟨h.old, fun _ ↦ h.current (.inl (by rw [hs]; rfl))⟩
  | replace hs =>
    refine ⟨fun d hd ↦ ?_, fun _ c hc ↦ (List.not_mem_nil hc).elim⟩
    rcases List.mem_append.mp hd with hd | hd
    · exact h.old d hd
    · rw [List.mem_singleton.mp hd]
      exact h.current (.inr (by rw [hs]; rfl))
  | restore hs => exact h.of_flow (restoreLiveSourceFrame_flow _) rfl rfl rfl
  | @restored reason hs =>
    cases reason with
    | stop site =>
      cases site with
      | second => exact h.of_other rfl rfl (.inl rfl)
      | _ => exact h.of_other rfl rfl (.inr rfl)
    | stale => exact h.of_other rfl rfl (.inr rfl)
    | _ => exact h.of_other rfl rfl (.inl rfl)
  | refill hs | pump hs | silence hs => exact h.of_other rfl rfl (.inl (by rw [hs]; rfl))
  | @refillRestore route next f hs =>
    exact h.of_flow (restoreLiveSourceFrame_flow _) rfl rfl (by cases next <;> rfl)
  | @paused site hs => exact h.of_other rfl rfl (.inl (by cases site <;> rfl))
  | invalidateAgain hs =>
    exact ⟨fun d hd c hc ↦ (h.old d hd c hc).trans (Nat.lt_succ_self _), fun h ↦ by simp [DriverPc.stand] at h⟩
  | exit ht hcurrent hflow => exact h.of_other hflow.2.2.2.1 hflow.2.1 (.inr (by rw [ht]; rfl))
  | _ => exact h.of_other rfl rfl (.inl rfl)

theorem congr (h : Superseded s) (hpc : t.pc = s.pc) (hold : t.old = s.old)
    (hcurrent : t.current = s.current) (hgeneration : t.generation = s.generation) :
    Superseded t where
  old := by
    rw [hold, hgeneration]
    exact h.old
  current := by
    rw [hpc, hcurrent, hgeneration]
    exact h.current

theorem happens {action : Action} (h : Superseded s) (hc : Connected s)
    (hstep : Happens aead s action t) : Superseded t := by
  cases hstep with
  | driver he => exact h.effect hc he
  | sender hmove => exact ⟨h.old, fun hpc ↦ stale_move (h.current hpc) hmove⟩
  | oldSender hget hmove =>
    refine ⟨fun d hd ↦ ?_, h.current⟩
    rcases List.mem_or_eq_of_mem_set hd with hd | rfl
    · exact h.old d hd
    · exact stale_move (h.old _ (List.mem_of_getElem? hget)) hmove
  | produced pushed hpc hpaused hflow | apart ha hpc hpaused hflow =>
    exact h.congr hpc (congrArg Flow.old hflow) (congrArg Flow.current hflow)
      (congrArg Flow.generation hflow)
  | metric =>
    have hflow := sendMetric_flow (s := s) .other
    exact h.congr (sendMetric_pc _) (congrArg Flow.old hflow)
      (congrArg Flow.current hflow) (congrArg Flow.generation hflow)
  | @consumed m metrics hmetrics =>
    have hflow := consumeMetric_flow (s := { s with metrics }) m
    exact h.congr (consumeMetric_pc _) (congrArg Flow.old hflow) (congrArg Flow.current hflow)
      (congrArg Flow.generation hflow)

end Superseded

/-- The frames of the commands the driver still lists and its sender has not sent. -/
def Flow.unsentFrames (m : Flow) : List OpusFrame :=
  (m.pending.drop (m.current.sendRecords.length + m.current.onWire.length)).filterMap (·.frame)

theorem Aligned.unsentFrames_eq {m : Flow} (h : Aligned m) (hstopped : m.current.isStopped = false) :
    m.unsentFrames = m.current.waiting.filterMap (·.frame) := by
  obtain ⟨sent, unsent, hrecords, hlist, hunsent⟩ := h.inOrder
  have hlength : m.current.sendRecords.length + m.current.onWire.length =
      ((sent ++ m.current.onWire).map pendingOf).length := by simp [hrecords]
  rw [Flow.unsentFrames, hlist, List.map_append, hlength, List.drop_left, List.filterMap_map,
    hunsent hstopped]
  rfl

theorem Aligned.tracks_move {m : Flow} {d : DeadlineSender} {w : Wire} (h : Aligned m)
    (hmove : Move m.generation m.current m.wire d w) :
    w.tracks ++ ({ m with current := d, wire := w } : Flow).unsentFrames =
      m.wire.tracks ++ m.unsentFrames := by
  have hlive := h.live
  cases hmove with
  | @send c hd =>
    have hnext := (h.sender (.send hd)).unsentFrames_eq (by simp [isStopped])
    rw [hnext, h.unsentFrames_eq (by simp [isStopped, hd])]
    cases hframe : c.frame <;> simp [Wire.tracks, waiting, hd, hframe]
  | drop hd hstale => exact absurd (hlive _ (by simp [waiting, hd])) hstale
  | record hd =>
    unfold emitSent
    split_ifs
    · simp [Flow.unsentFrames, onWire, stop, hd]
    · simp [Flow.unsentFrames, onWire, hd]
  | idle hd hpc =>
    rcases hd with hd | hd <;> rcases hpc with rfl | rfl <;> simp [Flow.unsentFrames, onWire, hd]
  | _ => simp [Flow.unsentFrames, Wire.tracks, onWire, stop, *]

theorem Aligned.unsentFrames_concat {m n : Flow} {p : PendingDeadlineCommand}
    {commands : List PreparedPlayoutCommand} (h : Aligned m)
    (hcurrent : n.current = { m.current with commands }) (hpending : n.pending = m.pending ++ [p]) :
    n.unsentFrames = m.unsentFrames ++ p.frame.toList := by
  obtain ⟨sent, unsent, hrecords, hlist, -⟩ := h.inOrder
  have hlength : m.current.sendRecords.length + m.current.onWire.length ≤ m.pending.length := by
    simp only [hrecords, hlist, List.length_map, List.length_append]
    omega
  have honWire : n.current.onWire = m.current.onWire := by
    rw [hcurrent]
    rfl
  rw [Flow.unsentFrames, hpending, honWire, hcurrent, List.drop_append_of_le_length hlength,
    List.filterMap_append]
  cases hframe : p.frame <;> simp [Flow.unsentFrames, hframe]

theorem Boundary.tracks_move {m : Flow} {d : DeadlineSender} {w : Wire} (h : Boundary m)
    (hmove : Move m.generation m.current m.wire d w) : w.tracks = m.wire.tracks := by
  obtain ⟨sent, -, -, hsilent⟩ := h.single
  cases hmove with
  | @send c hd =>
    have hc := (hsilent c (by simp [waiting, hd])).1
    simp [Wire.tracks, hc]
  | _ => rfl

/-- Once a frame does not fit into the queue, none of the later ones does. -/
def keepsOrder (queue : OpusFrameQueue) : List OpusFrame → Bool
  | [] => true
  | f :: frames =>
    if queue.canFitFrame f then keepsOrder { queue with inner := queue.inner ++ [f] } frames
    else frames.all fun g ↦ !queue.canFitFrame g

theorem restoreInterruptedFrames_refused {queue : OpusFrameQueue} {frames : List OpusFrame}
    (h : ∀ f ∈ frames, queue.canFitFrame f = false) :
    restoreInterruptedFrames queue frames = (queue, frames) := by
  induction frames with
  | nil => rfl
  | cons f frames ih =>
    rw [List.forall_mem_cons] at h
    simp [restoreInterruptedFrames, OpusFrameQueue.push, h.1, ih h.2]

theorem restoreInterruptedFrames_keepsOrder {queue : OpusFrameQueue} {frames : List OpusFrame}
    (h : keepsOrder queue frames = true) :
    (restoreInterruptedFrames queue frames).1.inner ++ (restoreInterruptedFrames queue frames).2 =
      queue.inner ++ frames := by
  induction frames generalizing queue with
  | nil => simp [restoreInterruptedFrames]
  | cons f frames ih =>
    by_cases hfits : queue.canFitFrame f = true
    · simp only [keepsOrder, hfits, if_true] at h
      simp [restoreInterruptedFrames, OpusFrameQueue.push, hfits, ih h]
    · rw [keepsOrder, if_neg hfits, List.all_eq_true] at h
      have hrest : restoreInterruptedFrames queue frames = (queue, frames) :=
        restoreInterruptedFrames_refused fun g hg ↦ by simpa using h g hg
      simp [restoreInterruptedFrames, OpusFrameQueue.push, hfits, hrest]

/-- Whether the frames in the driver's hands can still be played. -/
inductive Phase
  | flowing
  | interrupted
  | doomed
  deriving DecidableEq

def DriverPc.phase : DriverPc → Phase
  | .discard (.pause _) | .replace (.pause _) | .flush (.pause _) _ => .interrupted
  | .discard (.dave _) | .replace (.dave _) | .flush (.dave _) _ => .interrupted
  | .discard _ | .replace _ | .flush _ _ => .doomed
  | .restore (.stop _) _ | .restore .stale _ => .doomed
  | .invalidateAgain true | .discardAgain true | .exited _ => .doomed
  | _ => .flowing

def DriverPc.held : DriverPc → List OpusFrame
  | .restore _ frames => frames.reverse
  | .refillRestore _ _ f => [f]
  | _ => []

/-- At most one of the senders has a frame left to send, and it may. -/
structure Doomed (generation : ℕ) (w : Wire) (senders : List DeadlineSender)
    (produced : List OpusFrame) : Prop where
  order : ∀ d ∈ senders, InOrder (w.tracks ++ d.sendable generation) produced
  exclusive : ∀ (i j : ℕ) (d e : DeadlineSender), i ≠ j → senders[i]? = some d →
    senders[j]? = some e → d.sendable generation = [] ∨ e.sendable generation = []

theorem Doomed.move {generation i : ℕ} {w w' : Wire} {senders : List DeadlineSender}
    {produced : List OpusFrame} {d d' : DeadlineSender} (h : Doomed generation w senders produced)
    (hget : senders[i]? = some d) (hmove : Move generation d w d' w') :
    Doomed generation w' (senders.set i d') produced := by
  have horder := h.order d (List.mem_of_getElem? hget)
  have hnil : d.sendable generation = [] → w'.tracks = w.tracks ∧ d'.sendable generation = [] :=
    sendable_move_nil hmove
  have hmoved : InOrder (w'.tracks ++ d'.sendable generation) produced := by
    rcases sendable_move hmove with ⟨frames, htracks, hframes⟩ | ⟨rfl, hgone⟩
    · rw [htracks, List.append_assoc, ← hframes]
      exact horder
    · rw [hgone, List.append_nil]
      exact (InOrder.of_sublist (List.sublist_append_left _ _)).trans horder
  have hset {j : ℕ} {e : DeadlineSender} (he : (senders.set i d')[j]? = some e) :
      i = j ∧ e = d' ∨ i ≠ j ∧ senders[j]? = some e := by
    rw [List.getElem?_set] at he
    split_ifs at he with hij hlt
    · exact .inl ⟨hij, (Option.some.inj he).symm⟩
    · exact .inr ⟨hij, he⟩
  refine ⟨fun e he ↦ ?_, fun j k e f hjk he hf ↦ ?_⟩
  · obtain ⟨j, hj⟩ := List.mem_iff_getElem?.mp he
    rcases hset hj with ⟨-, rfl⟩ | ⟨hij, hj⟩
    · exact hmoved
    · rcases h.exclusive i j d e hij hget hj with hd | he'
      · rw [(hnil hd).1]
        exact h.order e (List.mem_of_getElem? hj)
      · rw [he', List.append_nil]
        exact (InOrder.of_sublist (List.sublist_append_left _ _)).trans hmoved
  · rcases hset he with ⟨rfl, rfl⟩ | ⟨hij, hej⟩ <;> rcases hset hf with ⟨rfl, rfl⟩ | ⟨hik, hfk⟩
    · exact absurd rfl hjk
    · exact (h.exclusive i k d f hjk hget hfk).imp_left fun hd ↦ (hnil hd).2
    · exact (h.exclusive j i e d hjk hej hget).imp_right fun hd ↦ (hnil hd).2
    · exact h.exclusive j k e f hjk hej hfk

theorem Doomed.congr {generation generation' : ℕ} {w : Wire} {senders senders' : List DeadlineSender}
    {produced : List OpusFrame} (h : Doomed generation w senders produced)
    (hsame : senders'.map (·.sendable generation') = senders.map (·.sendable generation)) :
    Doomed generation' w senders' produced := by
  have hget {i : ℕ} {d' : DeadlineSender} (hd' : senders'[i]? = some d') :
      ∃ d, senders[i]? = some d ∧ d.sendable generation = d'.sendable generation' := by
    have hi := congrArg (·[i]?) hsame
    simp only [List.getElem?_map, hd', Option.map_some] at hi
    exact Option.map_eq_some_iff.mp hi.symm
  refine ⟨fun d' hd' ↦ ?_, fun i j d' e' hij hd' he' ↦ ?_⟩
  · obtain ⟨i, hi⟩ := List.mem_iff_getElem?.mp hd'
    obtain ⟨d, hd, heq⟩ := hget hi
    rw [← heq]
    exact h.order d (List.mem_of_getElem? hd)
  · obtain ⟨d, hd, hdeq⟩ := hget hd'
    obtain ⟨e, he, heeq⟩ := hget he'
    rw [← hdeq, ← heeq]
    exact h.exclusive i j d e hij hd he

/-- What was sent and what can still be sent, in the order it will be. -/
def MediaState.ledger (s : MediaState) : List OpusFrame :=
  s.wire.tracks ++ s.flow.unsentFrames ++ preparedFrames s.prepared ++ s.egress.inner ++
    s.pc.held ++ s.source.queue.inner

structure Frames (s : MediaState) : Prop where
  flowing : s.pc.phase = .flowing →
    (∀ d ∈ s.old, d.sendable s.generation = []) ∧ InOrder s.ledger s.produced
  interrupted : s.pc.phase = .interrupted →
    (∀ d ∈ s.current :: s.old, d.sendable s.generation = []) ∧
    InOrder (s.wire.tracks ++ s.pc.collected ++ s.pending.filterMap (·.frame) ++
      preparedFrames s.prepared ++ s.egress.inner ++ s.source.queue.inner) s.produced
  doomed : s.pc.phase = .doomed →
    Doomed s.generation s.wire (s.current :: s.old) s.produced

/-- The commands the sender has sent without an accounted record, or is about to send. -/
def DeadlineSender.started (d : DeadlineSender) : ℕ :=
  d.sendRecords.length + d.onWire.length + d.committed.length

/-- An interruption that goes on finds no frame sent, or about to be, that the driver has not
accounted for, and the egress buffer takes the interrupted frames back in order. -/
def accountsFirst (s : MediaState) : Action → Bool
  | .driver _ =>
    match s.pc with
    | .invalidate (.pause _) | .invalidate (.dave _) =>
      (s.pending.take s.current.started).all (·.frame.isNone)
    | .flush (.pause _) frames | .flush (.dave _) frames =>
      keepsOrder s.egress.cleared (frames ++ preparedFrames s.prepared ++ s.egress.inner)
    | _ => true
  | _ => true

theorem phase_of_calm {pc : DriverPc} (h : pc.calm = true) : pc.phase = .flowing := by
  cases pc <;> first | rfl | cases h

theorem held_of_calm {pc : DriverPc} (h : pc.calm = true) : pc.held = [] := by
  cases pc <;> first | rfl | cases h

theorem phase_ne_flowing {pc : DriverPc} (h : pc.link = .replaced ∨ pc.link = .cut) :
    pc.phase ≠ .flowing := by
  cases pc <;> simp only [DriverPc.link, reduceCtorEq, or_self, or_true, true_or] at h
  case discard reason => cases reason <;> simp [DriverPc.phase]
  case replace reason => cases reason <;> simp [DriverPc.phase]
  case flush reason frames => cases reason <;> simp [DriverPc.phase]
  case exited result => simp [DriverPc.phase]

namespace Frames

variable {aead : Aead} {s t : MediaState}

theorem of_flowing (ht : t.pc.phase = .flowing) (hold : ∀ d ∈ t.old, d.sendable t.generation = [])
    (h : InOrder t.ledger t.produced) : Frames t where
  flowing _ := ⟨hold, h⟩
  interrupted h := by simp [ht] at h
  doomed h := by simp [ht] at h

theorem of_interrupted (ht : t.pc.phase = .interrupted)
    (hold : ∀ d ∈ t.current :: t.old, d.sendable t.generation = [])
    (h : InOrder (t.wire.tracks ++ t.pc.collected ++ t.pending.filterMap (·.frame) ++
      preparedFrames t.prepared ++ t.egress.inner ++ t.source.queue.inner) t.produced) :
    Frames t where
  flowing h := by simp [ht] at h
  interrupted _ := ⟨hold, h⟩
  doomed h := by simp [ht] at h

theorem of_doomed (ht : t.pc.phase = .doomed)
    (h : Doomed t.generation t.wire (t.current :: t.old) t.produced) : Frames t where
  flowing h := by simp [ht] at h
  interrupted h := by simp [ht] at h
  doomed _ := h

theorem onward (h : Frames s) (hs : s.pc.phase = .flowing) (ht : t.pc.phase = .flowing)
    (hold : t.old = s.old) (hgeneration : t.generation = s.generation)
    (hproduced : t.produced = s.produced) (hledger : InOrder t.ledger s.ledger) : Frames t := by
  obtain ⟨hnone, horder⟩ := h.flowing hs
  refine of_flowing ht ?_ ?_
  · rw [hold, hgeneration]
    exact hnone
  · rw [hproduced]
    exact hledger.trans horder

theorem ledger_congr (hwire : t.wire = s.wire) (hunsent : t.flow.unsentFrames = s.flow.unsentFrames)
    (hprepared : t.prepared = s.prepared) (hegress : t.egress = s.egress)
    (hheld : t.pc.held = s.pc.held) (hqueue : t.source.queue = s.source.queue) :
    InOrder t.ledger s.ledger := by
  rw [ledger, hwire, hunsent, hprepared, hegress, hheld, hqueue]
  exact .of_sublist (.refl _)

theorem ledger_concat {frames : List OpusFrame}
    (hunsent : t.flow.unsentFrames = s.flow.unsentFrames ++ frames) (hwire : t.wire = s.wire)
    (hprepared : preparedFrames s.prepared = frames ++ preparedFrames t.prepared)
    (hegress : t.egress = s.egress) (hheld : t.pc.held = s.pc.held)
    (hqueue : t.source.queue = s.source.queue) : InOrder t.ledger s.ledger := by
  refine .of_sublist ?_
  rw [ledger, ledger, hunsent, hprepared, hwire, hegress, hheld, hqueue]
  simp

theorem of_flow {metrics : List PlaybackPipelineMetric} (h : Frames s)
    (hs : s.pc.phase = .flowing) (ht : t.pc.phase = .flowing) (hheld : t.pc.held = s.pc.held)
    (hm : t.flow = { s.flow with metrics }) : Frames t := by
  refine h.onward hs ht (congrArg Flow.old hm) (congrArg Flow.generation hm)
    (congrArg Flow.produced hm) ?_
  have hunsent : t.flow.unsentFrames = s.flow.unsentFrames := by
    rw [hm]
    rfl
  exact ledger_congr (congrArg Flow.wire hm) hunsent (congrArg Flow.prepared hm)
    (congrArg Flow.egress hm) hheld (congrArg Flow.queue hm)

theorem doomed_of_order {generation : ℕ} {w : Wire} {d : DeadlineSender} {old : List DeadlineSender}
    {produced : List OpusFrame} (horder : InOrder (w.tracks ++ d.sendable generation) produced)
    (hold : ∀ e ∈ old, e.sendable generation = []) : Doomed generation w (d :: old) produced := by
  refine ⟨fun e he ↦ ?_, fun i j e f hij he hf ↦ ?_⟩
  · rcases List.mem_cons.mp he with rfl | he
    · exact horder
    · rw [hold e he, List.append_nil]
      exact (InOrder.of_sublist (List.sublist_append_left _ _)).trans horder
  · rcases i with _ | i
    · rcases j with _ | j
      · exact absurd rfl hij
      · exact .inr (hold f (List.mem_of_getElem? hf))
    · exact .inl (hold e (List.mem_of_getElem? he))

theorem ledger_inOrder (s : MediaState) :
    InOrder (s.wire.tracks ++ s.flow.unsentFrames) s.ledger := by
  refine .of_sublist ?_
  simp only [ledger, List.append_assoc]
  exact .append (.refl _) (List.sublist_append_left _ _)

theorem sendable_order (h : Frames s) (hc : Connected s) (hclosed : Closed s)
    (hs : s.pc.phase = .flowing) :
    InOrder (s.wire.tracks ++ s.current.sendable s.generation) s.produced := by
  have horder := (ledger_inOrder s).trans (h.flowing hs).2
  have hordered (hnil : s.current.sendable s.generation = []) :
      InOrder (s.wire.tracks ++ s.current.sendable s.generation) s.produced := by
    rw [hnil, List.append_nil]
    exact (InOrder.of_sublist (List.sublist_append_left _ _)).trans horder
  have hquiet (hwaiting : s.current.waiting = []) : s.current.sendable s.generation = [] := by
    rw [sendable_of_live (by simp [hwaiting]), hwaiting, List.filterMap_nil]
  cases hlink : s.pc.link with
  | linked =>
    have ha := hc.linked hlink
    by_cases hstopped : s.current.isStopped = true
    · refine hordered (hquiet ?_)
      have hnone := hclosed hstopped
      simp only [isStopped] at hstopped
      split at hstopped
      · rename_i hpc
        simp [waiting, hpc, hnone]
      · cases hstopped
    · have hlive : ∀ c ∈ s.current.waiting, c.generation = s.generation := ha.live
      rw [sendable_of_live hlive]
      rw [ha.unsentFrames_eq (Bool.eq_false_of_not_eq_true hstopped)] at horder
      exact horder
  | quiet => exact hordered (hquiet (hc.quiet hlink).1.noneWaiting)
  | boundary =>
    obtain ⟨sent, -, -, hsilent⟩ := (hc.boundary hlink).1.single
    have hlive : ∀ c ∈ s.current.waiting, c.generation = s.generation := (hc.boundary hlink).1.live
    refine hordered ?_
    rw [sendable_of_live hlive, List.filterMap_eq_nil_iff]
    exact fun c hc ↦ (hsilent c (List.mem_append_right _ hc)).1
  | replaced => exact absurd hs (phase_ne_flowing (.inl hlink))
  | cut => exact absurd hs (phase_ne_flowing (.inr hlink))

theorem sendable_succ {d : DeadlineSender} {generation : ℕ}
    (h : ∀ c ∈ d.waiting, c.generation < generation) :
    d.sendable (generation + 1) = d.sendable generation := by
  rw [sendable_of_stale h, sendable_of_stale fun c hc ↦ (h c hc).trans (Nat.lt_succ_self _)]

/-- A sender that is overtaken by a new generation sends at most the packet it is at. -/
theorem sendable_invalidated {m : Flow} (h : Aligned m) :
    m.current.sendable (m.generation + 1) = m.current.committed.filterMap (·.frame) := by
  apply sendable_of_stale
  intro c hc
  rw [h.live c hc]
  exact Nat.lt_succ_self _

theorem committed_inOrder (d : DeadlineSender) : d.committed.Sublist d.waiting := by
  simp only [committed, waiting]
  cases d.pc <;> simp

theorem started_frames {m : Flow} (h : Aligned m)
    (hok : (m.pending.take m.current.started).all (·.frame.isNone) = true) :
    m.current.committed.filterMap (·.frame) = [] ∧
      m.pending.filterMap (·.frame) = m.unsentFrames := by
  obtain ⟨sent, unsent, hrecords, hlist, hunsent⟩ := h.inOrder
  rw [List.all_eq_true] at hok
  have hlength : m.current.sendRecords.length + m.current.onWire.length =
      ((sent ++ m.current.onWire).map pendingOf).length := by simp [hrecords]
  constructor
  · rw [List.filterMap_eq_nil_iff]
    intro c hc
    have hpc : m.current.isStopped = false ∧ m.current.committed = [c] ∧
        m.current.waiting = c :: m.current.commands := by
      simp only [committed] at hc
      split at hc
      all_goals simp_all [isStopped, committed, waiting]
    have hmem : pendingOf c ∈ m.pending.take m.current.started := by
      rw [hlist, hunsent hpc.1, hpc.2.2, started, hpc.2.1, List.map_append, hlength,
        List.take_append]
      simp
    simpa [pendingOf, PendingDeadlineCommand.new] using hok _ hmem
  · rw [Flow.unsentFrames]
    nth_rewrite 1 [← List.take_append_drop
      (m.current.sendRecords.length + m.current.onWire.length) m.pending]
    rw [List.filterMap_append, List.append_left_eq_self, List.filterMap_eq_nil_iff]
    intro p hp
    have hmem : p ∈ m.pending.take m.current.started := by
      rw [started]
      exact (List.take_sublist_take_left (by omega)).mem hp
    simpa using hok p hmem

theorem invalidate {answer : DriverAnswer} {reason : Interruption} (h : Frames s)
    (hc : Connected s) (hclosed : Closed s) (hold : Superseded s)
    (hok : accountsFirst s (.driver answer) = true) (hs : s.pc = .invalidate reason) :
    Frames (s.invalidatePreparedPlayoutGeneration.goto (.discard reason)) := by
  have ha := hc.linked (by rw [hs]; rfl)
  have hphase : s.pc.phase = .flowing := by rw [hs]; rfl
  obtain ⟨hnone, horder⟩ := h.flowing hphase
  have hcommitted : s.current.sendable (s.generation + 1) =
      s.current.committed.filterMap (·.frame) := sendable_invalidated ha
  have hretired : ∀ d ∈ s.old, d.sendable (s.generation + 1) = [] := by
    intro d hd
    rw [sendable_succ (hold.old d hd)]
    exact hnone d hd
  have hgoes_on (hall : (s.pending.take s.current.started).all (·.frame.isNone) = true)
      (ht : (DriverPc.discard reason).phase = .interrupted) :
      Frames (s.invalidatePreparedPlayoutGeneration.goto (.discard reason)) := by
    obtain ⟨hidle, hframes⟩ := started_frames ha hall
    refine of_interrupted ht (fun d hd ↦ ?_) ?_
    · rcases List.mem_cons.mp hd with rfl | hd
      · exact hcommitted.trans hidle
      · exact hretired d hd
    · refine InOrder.trans (.of_sublist ?_) horder
      have hframes : s.pending.filterMap (·.frame) = s.flow.unsentFrames := hframes
      simp [ledger, hs, DriverPc.held, DriverPc.collected, invalidatePreparedPlayoutGeneration,
        MediaState.goto, hframes]
  have hgives_up (ht : (DriverPc.discard reason).phase = .doomed) :
      Frames (s.invalidatePreparedPlayoutGeneration.goto (.discard reason)) := by
    refine of_doomed ht (doomed_of_order ?_ hretired)
    refine InOrder.trans (.of_sublist ?_) (h.sendable_order hc hclosed hphase)
    have hlive : ∀ c ∈ s.current.waiting, c.generation = s.generation := ha.live
    refine .append (.refl _) ?_
    rw [sendable_of_live hlive]
    exact hcommitted ▸ (committed_inOrder _).filterMap _
  cases reason with
  | pause site => exact hgoes_on (by simpa [accountsFirst, hs] using hok) rfl
  | dave route => exact hgoes_on (by simpa [accountsFirst, hs] using hok) rfl
  | stop site => exact hgives_up rfl
  | stale => exact hgives_up rfl

theorem doomed_replaced {generation : ℕ} {w : Wire} {d d' : DeadlineSender}
    {old : List DeadlineSender} {produced : List OpusFrame}
    (h : Doomed generation w (d :: old) produced)
    (hd : d'.sendable generation = d.sendable generation) :
    Doomed generation w (.spawn :: (old ++ [d'])) produced := by
  have hget {i : ℕ} {e : DeadlineSender} (he : (old ++ [d'])[i]? = some e) :
      i < old.length ∧ old[i]? = some e ∨ i = old.length ∧ e = d' := by
    rw [List.getElem?_append] at he
    split_ifs at he with hi
    · exact .inl ⟨hi, he⟩
    · obtain ⟨hlt, rfl⟩ := List.getElem?_eq_some_iff.mp he
      simp only [List.length_singleton] at hlt
      exact .inr ⟨by omega, by simp⟩
  have hnil : DeadlineSender.spawn.sendable generation = [] := rfl
  refine ⟨fun e he ↦ ?_, fun i j e f hij he hf ↦ ?_⟩
  · rcases List.mem_cons.mp he with rfl | he
    · rw [hnil, List.append_nil]
      exact (InOrder.of_sublist (List.sublist_append_left _ _)).trans (h.order d (by simp))
    · rcases List.mem_append.mp he with he | he
      · exact h.order e (List.mem_cons_of_mem _ he)
      · rw [List.mem_singleton.mp he, hd]
        exact h.order d (by simp)
  · rcases i with _ | i
    · cases he
      exact .inl hnil
    · rcases j with _ | j
      · cases hf
        exact .inr hnil
      · rcases hget he with ⟨hi, hei⟩ | ⟨hi, rfl⟩ <;> rcases hget hf with ⟨hj, hfj⟩ | ⟨hj, rfl⟩
        · exact h.exclusive (i + 1) (j + 1) e f hij hei hfj
        · rw [hd]
          exact h.exclusive (i + 1) 0 e d (by simp) hei rfl
        · rw [hd]
          exact h.exclusive 0 (j + 1) d f (by simp) rfl hfj
        · omega

theorem replace {reason : Interruption} (h : Frames s) (hs : s.pc = .replace reason) :
    Frames (s.replaceDeadlineSender.goto (.flush reason (s.pending.filterMap (·.frame)))) := by
  have hgoes_on (hphase : (DriverPc.replace reason).phase = .interrupted)
      (ht : (DriverPc.flush reason (s.pending.filterMap (·.frame))).phase = .interrupted) :
      Frames (s.replaceDeadlineSender.goto (.flush reason (s.pending.filterMap (·.frame)))) := by
    obtain ⟨hnone, horder⟩ := h.interrupted (by rw [hs]; exact hphase)
    refine of_interrupted ht (fun d hd ↦ ?_) ?_
    · rcases List.mem_cons.mp hd with rfl | hd
      · rfl
      · rcases List.mem_append.mp hd with hd | hd
        · exact hnone d (List.mem_cons_of_mem _ hd)
        · rw [List.mem_singleton.mp hd]
          exact hnone s.current (by simp)
    · simpa [hs, DriverPc.collected, replaceDeadlineSender, MediaState.goto] using horder
  have hgives_up (hphase : (DriverPc.replace reason).phase = .doomed)
      (ht : (DriverPc.flush reason (s.pending.filterMap (·.frame))).phase = .doomed) :
      Frames (s.replaceDeadlineSender.goto (.flush reason (s.pending.filterMap (·.frame)))) :=
    of_doomed ht (doomed_replaced (h.doomed (by rw [hs]; exact hphase)) rfl)
  cases reason with
  | pause site => exact hgoes_on rfl rfl
  | dave route => exact hgoes_on rfl rfl
  | stop site => exact hgives_up rfl rfl
  | stale => exact hgives_up rfl rfl

theorem flush {answer : DriverAnswer} {reason : Interruption} {frames : List OpusFrame}
    (h : Frames s) (hc : Connected s) (hok : accountsFirst s (.driver answer) = true)
    (hs : s.pc = .flush reason frames) : Frames (s.flushEgressBuffer reason frames) := by
  have hpending : s.pending = [] := (hc.replaced (by rw [hs]; rfl)).nonePending
  have hgoes_on (hphase : (DriverPc.flush reason frames).phase = .interrupted)
      (ht : (s.flushEgressBuffer reason frames).pc.phase = .flowing)
      (hkeeps : keepsOrder s.egress.cleared
        (frames ++ preparedFrames s.prepared ++ s.egress.inner) = true) :
      Frames (s.flushEgressBuffer reason frames) := by
    obtain ⟨hnone, horder⟩ := h.interrupted (by rw [hs]; exact hphase)
    refine of_flowing ht (fun d hd ↦ hnone d (List.mem_cons_of_mem _ hd)) ?_
    have hrestored := restoreInterruptedFrames_keepsOrder hkeeps
    simp only [OpusFrameQueue.cleared, List.nil_append] at hrestored
    refine InOrder.trans (.of_sublist ?_) horder
    simp only [ledger, flushEgressBuffer, DriverPc.held, List.reverse_reverse, Flow.unsentFrames,
      flow, hpending, List.drop_nil, List.filterMap_nil, preparedFrames, List.map_nil,
      List.append_nil, hs, DriverPc.collected]
    simp only [OpusFrameQueue.cleared, preparedFrames] at hrestored ⊢
    rw [List.append_assoc s.wire.tracks, hrestored]
    simp
  have hgives_up (hphase : (DriverPc.flush reason frames).phase = .doomed)
      (ht : (s.flushEgressBuffer reason frames).pc.phase = .doomed) :
      Frames (s.flushEgressBuffer reason frames) :=
    of_doomed ht (h.doomed (by rw [hs]; exact hphase))
  cases reason with
  | pause site => exact hgoes_on rfl rfl (by simpa [accountsFirst, hs] using hok)
  | dave route => exact hgoes_on rfl rfl (by simpa [accountsFirst, hs] using hok)
  | stop site => exact hgives_up rfl rfl
  | stale => exact hgives_up rfl rfl

theorem restoreLive {f : OpusFrame} {pc : DriverPc} (h : Frames s)
    (hs : s.pc.phase = .flowing) (ht : pc.phase = .flowing) (hheld : s.pc.held = pc.held ++ [f]) :
    Frames ((s.restoreLiveSourceFrame f).goto pc) := by
  unfold restoreLiveSourceFrame
  split
  · rename_i queue hpush
    obtain rfl := OpusFrameQueue.pushFront_ok hpush
    refine h.onward hs ht rfl rfl rfl (.of_sublist ?_)
    simp only [ledger, hheld]
    simp [MediaState.goto, flow, Flow.unsentFrames]
  · refine h.onward hs ht rfl rfl rfl (.of_sublist ?_)
    simp only [ledger, hheld, ← List.append_assoc]
    exact .append (List.sublist_append_left _ _) (.refl _)

theorem exit {result : DriverResult} {sendRecords : List DeadlineSendRecord}
    {dropRecords : List DeadlineDropRecord} (h : Frames s) (hc : Connected s) (hclosed : Closed s)
    (ht : t.pc = .exited result)
    (hcurrent : t.current = { s.current with sendRecords, dropRecords, dropped := true })
    (hgeneration : t.generation = s.generation) (hwire : t.wire = s.wire) (hold : t.old = s.old)
    (hproduced : t.produced = s.produced) : Frames t := by
  have hsendable : t.current.sendable t.generation = s.current.sendable s.generation := by
    rw [hcurrent, hgeneration]
    rfl
  refine of_doomed (by rw [ht]; rfl) ?_
  cases hphase : s.pc.phase with
  | flowing =>
    refine doomed_of_order ?_ ?_
    · rw [hsendable, hwire, hproduced]
      exact h.sendable_order hc hclosed hphase
    · rw [hold, hgeneration]
      exact (h.flowing hphase).1
  | interrupted =>
    obtain ⟨hnone, horder⟩ := h.interrupted hphase
    refine doomed_of_order ?_ ?_
    · rw [hsendable, hnone s.current (by simp), hwire, hproduced, List.append_nil]
      refine InOrder.trans (.of_sublist ?_) horder
      simp only [List.append_assoc]
      exact List.sublist_append_left _ _
    · rw [hold, hgeneration]
      exact fun d hd ↦ hnone d (List.mem_cons_of_mem _ hd)
  | doomed =>
    rw [hold, hwire, hproduced]
    refine (h.doomed hphase).congr ?_
    rw [List.map_cons, List.map_cons, hsendable, hgeneration]

theorem effect {answer : DriverAnswer} (h : Frames s) (hc : Connected s) (hclosed : Closed s)
    (hold : Superseded s) (hok : accountsFirst s (.driver answer) = true) (he : Effect aead s t) :
    Frames t := by
  cases he with
  | jump hs ht hm =>
    exact h.of_flow (phase_of_calm hs) (phase_of_calm ht)
      ((held_of_calm ht).trans (held_of_calm hs).symm) hm
  | account hs hrecords hpending hmatch ht =>
    refine h.onward (phase_of_calm hs) (phase_of_calm ht) rfl rfl rfl
      (ledger_congr rfl ?_ rfl rfl ((held_of_calm ht).trans (held_of_calm hs).symm) rfl)
    simp only [Flow.unsentFrames, flow, hrecords, hpending, List.length_cons]
    rw [Nat.add_right_comm, List.drop_succ_cons]
    rfl
  | accountDropped hs hdropped => exact absurd (hc.linked (link_of_calm hs)).noDrops hdropped
  | report hs hq hpc =>
    rcases hpc with ⟨hscalm, hcalm⟩ | ⟨site, sent, hspc, rfl⟩
    · exact h.of_flow (phase_of_calm hscalm) (phase_of_calm hcalm)
        ((held_of_calm hcalm).trans (held_of_calm hscalm).symm) (sendMetric_flow _)
    · exact h.of_flow (by rw [hspc]; rfl) rfl (by rw [hspc]; rfl) (sendMetric_flow _)
  | invalidate hs => exact h.invalidate hc hclosed hold hok hs
  | @discard reason hs =>
    cases reason with
    | pause site | dave route =>
      obtain ⟨hnone, horder⟩ := h.interrupted (by rw [hs]; rfl)
      rw [hs] at horder
      exact of_interrupted rfl hnone horder
    | stop site | stale => exact of_doomed rfl (h.doomed (by rw [hs]; rfl))
  | replace hs => exact h.replace hs
  | flush hs => exact h.flush hc hok hs
  | @restore reason f frames hs =>
    cases reason with
    | pause site | dave route =>
      exact h.restoreLive (by rw [hs]; rfl) rfl (by rw [hs]; simp [DriverPc.held])
    | stop site | stale =>
      have hdoomed := h.doomed (by rw [hs]; rfl)
      unfold restoreLiveSourceFrame
      split <;> exact of_doomed rfl hdoomed
  | @restored reason hs =>
    cases reason with
    | pause site | dave route => exact h.of_flow (by rw [hs]; rfl) rfl (by rw [hs]; rfl) rfl
    | stale => exact h.exit hc hclosed rfl rfl rfl rfl rfl rfl
    | stop site =>
      cases site with
      | second => exact of_doomed rfl (h.doomed (by rw [hs]; rfl))
      | _ => exact h.exit hc hclosed rfl rfl rfl rfl rfl rfl
  | @refill route next f queue egress hs hpop hpush =>
    obtain ⟨hinner, -⟩ := OpusFrameQueue.pop_some hpop
    obtain rfl := OpusFrameQueue.push_ok hpush
    refine h.onward (by rw [hs]; rfl) (by rw [hs]; rfl) rfl rfl rfl ?_
    simp [InOrder, ledger, hs, DriverPc.held, Flow.unsentFrames, flow, hinner, OpusFrame.withEpoch]
  | @refillRefused f queue route next hs hpop =>
    obtain ⟨hinner, -⟩ := OpusFrameQueue.pop_some hpop
    refine h.onward (by rw [hs]; rfl) rfl rfl rfl rfl ?_
    simp [InOrder, ledger, hs, DriverPc.held, Flow.unsentFrames, flow, hinner, OpusFrame.withEpoch]
  | @refillRestore route next f hs =>
    exact h.restoreLive (by rw [hs]; rfl) (by cases next <;> rfl) (by rw [hs]; cases next <;> rfl)
  | @prepareTrack route f egress packet preparer hs hpop payload hpacket =>
    obtain ⟨hinner, -⟩ := OpusFrameQueue.pop_some hpop
    refine h.onward (by rw [hs]; rfl) rfl rfl rfl rfl (.of_sublist ?_)
    simp [ledger, hs, DriverPc.held, Flow.unsentFrames, flow, preparedFrames, hinner]
  | @pump route p prepared hs hprepared hstopped =>
    have ha := hc.linked (by rw [hs]; rfl)
    refine h.onward (by rw [hs]; rfl) (by rw [hs]; rfl) rfl rfl rfl
      (ledger_concat (ha.unsentFrames_concat rfl rfl) rfl ?_ rfl rfl rfl)
    simp [preparedFrames, hprepared, PendingDeadlineCommand.new]
  | @silence site packet preparer hs hdue payload hstopped hpacket =>
    have ha := hc.linked (by rw [hs]; rfl)
    exact h.onward (by rw [hs]; rfl) (by rw [hs]; rfl) rfl rfl rfl
      (ledger_concat (ha.unsentFrames_concat rfl rfl) rfl rfl rfl rfl rfl)
  | boundary hs =>
    refine h.onward (by rw [hs]; rfl) rfl rfl rfl rfl (.of_sublist ?_)
    simp [ledger, hs, DriverPc.held, Flow.unsentFrames, flow, onWire]
  | boundarySent hs hrecords =>
    have hpending : s.pending = [] := (hc.boundary (by rw [hs]; rfl)).1.nonePending
    refine h.onward (by rw [hs]; rfl) rfl rfl rfl rfl (.of_sublist ?_)
    simp [ledger, hs, DriverPc.held, Flow.unsentFrames, flow, hpending]
  | boundaryReport hs => exact h.of_flow (by rw [hs]; rfl) rfl (by rw [hs]; rfl) rfl
  | @paused site hs =>
    exact h.of_flow (by rw [hs]; rfl) (by cases site <;> rfl) (by rw [hs]; cases site <;> rfl) rfl
  | again hs => exact h.of_flow (by rw [hs]; rfl) rfl (by rw [hs]; rfl) rfl
  | @invalidateAgain exiting hs =>
    have hquiet := (hc.quiet (by rw [hs]; rfl)).1
    have hretired : ∀ d ∈ s.current :: s.old,
        d.sendable (s.generation + 1) = d.sendable s.generation := by
      intro d hd
      rcases List.mem_cons.mp hd with rfl | hd
      · exact sendable_succ fun c hc ↦ (List.not_mem_nil (hquiet.noneWaiting ▸ hc)).elim
      · exact sendable_succ (hold.old d hd)
    cases exiting with
    | true => exact of_doomed rfl ((h.doomed (by rw [hs]; rfl)).congr (List.map_congr_left hretired))
    | false =>
      obtain ⟨hnone, horder⟩ := h.flowing (by rw [hs]; rfl)
      refine of_flowing rfl (fun d hd ↦ ?_) ?_
      · exact (hretired d (List.mem_cons_of_mem _ hd)).trans (hnone d hd)
      · rw [ledger, hs] at horder
        exact horder
  | discardAgain hs =>
    refine h.onward (by rw [hs]; rfl) rfl rfl rfl rfl (.of_sublist ?_)
    simp [ledger, hs, DriverPc.held, Flow.unsentFrames, flow, discardUnsentPreparedPackets, MediaState.goto]
  | exit ht hcurrent hflow =>
    exact h.exit hc hclosed ht hcurrent hflow.2.1 hflow.2.2.1 hflow.2.2.2.1 hflow.2.2.2.2.1

theorem tracks_move {d : DeadlineSender} {w : Wire} (hc : Connected s)
    (hs : s.pc.phase = .flowing) (hmove : Move s.generation s.current s.wire d w) :
    w.tracks ++ ({ s.flow with current := d, wire := w } : Flow).unsentFrames =
      s.wire.tracks ++ s.flow.unsentFrames := by
  have hboundary (hb : Boundary s.flow) :
      w.tracks ++ ({ s.flow with current := d, wire := w } : Flow).unsentFrames =
        s.wire.tracks ++ s.flow.unsentFrames := by
    have htracks : w.tracks = s.wire.tracks := hb.tracks_move hmove
    rw [htracks, Flow.unsentFrames, Flow.unsentFrames, hb.nonePending, List.drop_nil, List.drop_nil]
  cases hlink : s.pc.link with
  | linked => exact (hc.linked hlink).tracks_move hmove
  | quiet => exact hboundary (hc.quiet hlink).1.boundary
  | boundary => exact hboundary (hc.boundary hlink).1
  | replaced =>
    exact absurd hs (phase_ne_flowing (.inl hlink))
  | cut => exact absurd hs (phase_ne_flowing (.inr hlink))

theorem sender {d : DeadlineSender} {w : Wire} (h : Frames s) (hc : Connected s)
    (hmove : Move s.generation s.current s.wire d w) :
    Frames { s with current := d, wire := w } where
  flowing hs := by
    obtain ⟨hnone, horder⟩ := h.flowing hs
    refine ⟨hnone, ?_⟩
    have hmoved := tracks_move hc hs hmove
    rw [ledger] at horder ⊢
    rw [← hmoved] at horder
    exact horder
  interrupted hs := by
    obtain ⟨hnone, horder⟩ := h.interrupted hs
    obtain ⟨htracks, hnil⟩ := sendable_move_nil hmove (hnone s.current (by simp))
    refine ⟨fun e he ↦ ?_, ?_⟩
    · rcases List.mem_cons.mp he with rfl | he
      · exact hnil
      · exact hnone e (List.mem_cons_of_mem _ he)
    · rw [htracks]
      exact horder
  doomed hs := (h.doomed hs).move (i := 0) rfl hmove

theorem oldSender {i : ℕ} {d d' : DeadlineSender} {w : Wire} (h : Frames s)
    (hget : s.old[i]? = some d) (hmove : Move s.generation d s.wire d' w) :
    Frames { s with old := s.old.set i d', wire := w } where
  flowing hs := by
    obtain ⟨hnone, horder⟩ := h.flowing hs
    obtain ⟨htracks, hnil⟩ := sendable_move_nil hmove (hnone d (List.mem_of_getElem? hget))
    refine ⟨fun e he ↦ ?_, ?_⟩
    · rcases List.mem_or_eq_of_mem_set he with he | rfl
      · exact hnone e he
      · exact hnil
    · rw [ledger, htracks]
      exact horder
  interrupted hs := by
    obtain ⟨hnone, horder⟩ := h.interrupted hs
    obtain ⟨htracks, hnil⟩ :=
      sendable_move_nil hmove (hnone d (List.mem_cons_of_mem _ (List.mem_of_getElem? hget)))
    refine ⟨fun e he ↦ ?_, ?_⟩
    · rcases List.mem_cons.mp he with rfl | he
      · exact hnone s.current (by simp)
      · rcases List.mem_or_eq_of_mem_set he with he | rfl
        · exact hnone e (List.mem_cons_of_mem _ he)
        · exact hnil
    · rw [htracks]
      exact horder
  doomed hs := (h.doomed hs).move (i := i + 1) hget hmove

theorem beside {metrics : List PlaybackPipelineMetric} {sentDurationSamples : ℕ}
    {pushed : List OpusFrame} (h : Frames s) (hpc : t.pc = s.pc)
    (hm : t.flow = { s.flow with
      queue := { s.flow.queue with inner := s.flow.queue.inner ++ pushed }
      produced := s.produced ++ pushed, metrics, sentDurationSamples }) : Frames t := by
  have hwire : t.wire = s.wire := congrArg Flow.wire hm
  have hcurrent : t.current = s.current := congrArg Flow.current hm
  have hold : t.old = s.old := congrArg Flow.old hm
  have hgeneration : t.generation = s.generation := congrArg Flow.generation hm
  have hprepared : t.prepared = s.prepared := congrArg Flow.prepared hm
  have hpending : t.pending = s.pending := congrArg Flow.pending hm
  have hegress : t.egress = s.egress := congrArg Flow.egress hm
  have hproduced : t.produced = s.produced ++ pushed := congrArg Flow.produced hm
  have hqueue : t.source.queue.inner = s.source.queue.inner ++ pushed :=
    congrArg (fun m ↦ m.queue.inner) hm
  have hunsent : t.flow.unsentFrames = s.flow.unsentFrames := by
    rw [hm]
    rfl
  refine ⟨fun hs ↦ ?_, fun hs ↦ ?_, fun hs ↦ ?_⟩
  · obtain ⟨hnone, horder⟩ := h.flowing (hpc ▸ hs)
    rw [ledger, hold, hgeneration, hproduced, hwire, hunsent, hprepared, hegress, hpc, hqueue,
      ← List.append_assoc]
    exact ⟨hnone, horder.append (.of_sublist (.refl _))⟩
  · obtain ⟨hnone, horder⟩ := h.interrupted (hpc ▸ hs)
    rw [hcurrent, hold, hgeneration, hproduced, hwire, hpending, hprepared, hegress, hpc, hqueue,
      ← List.append_assoc]
    exact ⟨hnone, horder.append (.of_sublist (.refl _))⟩
  · obtain ⟨horder, hexclusive⟩ := h.doomed (hpc ▸ hs)
    rw [hcurrent, hold, hgeneration, hproduced, hwire]
    exact ⟨fun d hd ↦ (horder d hd).trans (.of_sublist (List.sublist_append_left _ _)), hexclusive⟩

theorem aside {metrics : List PlaybackPipelineMetric} {sentDurationSamples : ℕ} (h : Frames s)
    (hpc : t.pc = s.pc) (hm : t.flow = { s.flow with metrics, sentDurationSamples }) :
    Frames t := by
  refine @beside s t metrics sentDurationSamples [] h hpc ?_
  rw [hm, List.append_nil, List.append_nil]
  rfl

theorem happens {action : Action} (h : Frames s) (hc : Connected s) (hclosed : Closed s)
    (hold : Superseded s) (hok : accountsFirst s action = true)
    (hstep : Happens aead s action t) : Frames t := by
  cases hstep with
  | driver he => exact h.effect hc hclosed hold hok he
  | sender hmove => exact h.sender hc hmove
  | oldSender hget hmove => exact h.oldSender hget hmove
  | produced pushed hpc hpaused hflow => exact h.beside hpc hflow
  | metric => exact h.aside (sendMetric_pc _) (sendMetric_flow _)
  | consumed hmetrics => exact h.aside (consumeMetric_pc _) (consumeMetric_flow _)
  | apart ha hpc hpaused hflow => exact h.aside hpc hflow

theorem start (playbackEpoch : ℕ) (preparer : VoicePacketPreparer) (source : SourceBufferState)
    (position : ℕ) : Frames (MediaState.start playbackEpoch preparer source position) :=
  of_flowing rfl (fun _ hd ↦ (List.not_mem_nil hd).elim) (.of_sublist (.refl _))

theorem step {action : Action} (h : Frames s ∧ Connected s ∧ Closed s ∧ Superseded s)
    (hok : accountsFirst s action = true) (hstep : s.step aead action = some t) :
    Frames t ∧ Connected t ∧ Closed t ∧ Superseded t := by
  obtain ⟨hf, hc, hclosed, hold⟩ := h
  have happens := step_happens hstep
  exact ⟨hf.happens hc hclosed hold hok happens, hc.happens happens, hclosed.happens hc happens,
    hold.happens hc happens⟩

/-- Whatever the driver does next, what is on the wire is in order. -/
theorem wire_order (h : Frames s) : InOrder s.wire.tracks s.produced := by
  cases hphase : s.pc.phase with
  | flowing =>
    have hordered : InOrder s.wire.tracks (s.wire.tracks ++ s.flow.unsentFrames) :=
      .of_sublist (List.sublist_append_left _ _)
    exact (hordered.trans (ledger_inOrder s)).trans (h.flowing hphase).2
  | interrupted =>
    refine InOrder.trans (.of_sublist ?_) (h.interrupted hphase).2
    simp only [List.append_assoc]
    exact List.sublist_append_left _ _
  | doomed =>
    exact InOrder.trans (.of_sublist (List.sublist_append_left _ _))
      ((h.doomed hphase).order s.current (by simp))

end Frames

/-- The frames of the track go over the socket in the order of the source, each at most once. -/
theorem frames_in_order_of_accountsFirst (aead : Aead) (playbackEpoch : ℕ)
    (preparer : VoicePacketPreparer) (source : SourceBufferState) (position : ℕ)
    (actions : List Action) {s : MediaState}
    (hok : Throughout (MediaState.step aead) (fun s action ↦ accountsFirst s action = true)
      (.start playbackEpoch preparer source position) actions)
    (h : exec (MediaState.step aead) (.start playbackEpoch preparer source position) actions =
      some s) : InOrder (s.wire.sent.filterMap (·.frame)) s.produced := by
  obtain ⟨hs, -⟩ : Frames s ∧ Connected s ∧ Closed s ∧ Superseded s := by
    refine exec_induction (fun _ _ _ hs ↦ Frames.step hs)
      ⟨.start _ _ _ _, .start _ _ _ _, fun h ↦ (nomatch h), ⟨fun d hd ↦ ?_, fun h ↦ ?_⟩⟩ hok h
    · exact (List.not_mem_nil hd).elim
    · rcases h with h | h <;> cases h
  exact hs.wire_order

/-- A pause the driver has taken from its mailbox runs its course and playback resumes, up to the next
look at the gateway. -/
def pauseThenResume : List Action :=
  goes 3 ++ [payload] ++ goes 2 ++ boundaryPacket ++ boundaryPacket ++ boundaryPacket ++
    boundaryPacket ++ boundaryPacket ++ [payload] ++ goes 6 ++ [.send .resume] ++ goes 5 ++
    [payload] ++ goes 2

def pauseAndResume : List Action :=
  pauseThenResume ++ [.driver (.drained false)] ++ goes 3 ++ [payload] ++ goes 5 ++ [payload] ++
    goes 2 ++ senderSteps 5

theorem frames_in_order_of_accountsFirst_pause :
    ∃ s, exec (MediaState.step plainAead) (plainStart [plainFrame 0] false)
        (oneFrameRound ++ [.send .pause, .driver .command] ++ pauseAndResume) = some s ∧
      s.wire.sent.filterMap (·.frame) = [(plainFrame 0).withEpoch 1] ∧
      InOrder (s.wire.sent.filterMap (·.frame)) s.produced := by
  refine ⟨_, rfl, by decide, ?_⟩
  exact frames_in_order_of_accountsFirst plainAead _ _ _ _
    (oneFrameRound ++ [.send .pause, .driver .command] ++ pauseAndResume)
    (throughout_of_allowed (by decide)) (rfl : exec _ (plainStart [plainFrame 0] false) _ = some _)

/-- The sender sends the frame and reports it while the driver has the pause in hand: the frame goes
back to the egress buffer and out a second time. -/
theorem frame_sent_twice_after_pause :
    ∃ s, exec (MediaState.step plainAead) (plainStart [plainFrame 0] false)
        (oneFrameRound ++ [.send .pause, .driver .command] ++ senderSteps 7 ++ pauseAndResume) =
          some s ∧
      s.wire.sent.filterMap (·.frame) = [(plainFrame 0).withEpoch 1, (plainFrame 0).withEpoch 1] ∧
      s.produced = [plainFrame 0] ∧ ¬InOrder (s.wire.sent.filterMap (·.frame)) s.produced := by
  have hrun : (exec (MediaState.step plainAead) (plainStart [plainFrame 0] false)
      (oneFrameRound ++ [.send .pause, .driver .command] ++ senderSteps 7 ++ pauseAndResume)).map
        (fun s ↦ (s.wire.sent.filterMap (·.frame), s.produced)) =
      some ([(plainFrame 0).withEpoch 1, (plainFrame 0).withEpoch 1], [plainFrame 0]) := by
    decide +kernel
  obtain ⟨s, hs, heq⟩ := Option.map_eq_some_iff.mp hrun
  obtain ⟨htracks, hproduced⟩ := Prod.mk.inj heq
  refine ⟨s, hs, htracks, hproduced, ?_⟩
  rw [htracks, hproduced, InOrder]
  decide

end DiscordVoice.Media
