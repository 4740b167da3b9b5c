import DiscordVoice.Media.Effects
import DiscordVoice.Schedule

namespace DiscordVoice.Media

open Voice Playback MediaState Schedule

def pendingOf (c : PreparedPlayoutCommand) : PendingDeadlineCommand := .new c c.frame

/-- The driver's list of pending commands is what its sender still owes a record for, in order:
the unread records, the packet on the wire without one, and what has not been sent. -/
structure Aligned (m : Flow) : Prop where
  noDrops : m.current.dropRecords = []
  live : ∀ c ∈ m.current.waiting, c.generation = m.generation
  prepared : ∀ p ∈ m.prepared, p.command.frame = some p.frame ∧ p.command.generation = m.generation
  inOrder : ∃ sent unsent, m.current.sendRecords = sent.map (·.sendRecord) ∧
    m.pending = (sent ++ m.current.onWire ++ unsent).map pendingOf ∧
    (m.current.isStopped = false → unsent = m.current.waiting)

/-- Nothing is on its way through the sender. -/
structure Quiet (m : Flow) : Prop where
  nonePending : m.pending = []
  noRecords : m.current.sendRecords = []
  noDrops : m.current.dropRecords = []
  noneOnWire : m.current.onWire = []
  noneWaiting : m.current.waiting = []

/-- At most one packet of boundary silence is on its way, and nothing else. -/
structure Boundary (m : Flow) : Prop where
  nonePending : m.pending = []
  noDrops : m.current.dropRecords = []
  live : ∀ c ∈ m.current.waiting, c.generation = m.generation
  single : ∃ sent, m.current.sendRecords = sent.map (·.sendRecord) ∧
    (sent ++ m.current.onWire ++ m.current.waiting).length ≤ 1 ∧
    ∀ c ∈ sent ++ m.current.onWire ++ m.current.waiting, c.frame = none ∧ c.mediaFrame = none

theorem Quiet.boundary {m : Flow} (h : Quiet m) : Boundary m where
  nonePending := h.nonePending
  noDrops := h.noDrops
  live := by simp [h.noneWaiting]
  single := ⟨[], by simp [h.noRecords], by simp [h.noneOnWire, h.noneWaiting],
    by simp [h.noneOnWire, h.noneWaiting]⟩

theorem Quiet.aligned {m : Flow} (h : Quiet m) (hprepared : m.prepared = []) : Aligned m where
  noDrops := h.noDrops
  live := by simp [h.noneWaiting]
  prepared := by simp [hprepared]
  inOrder := ⟨[], [], by simp [h.noRecords], by simp [h.nonePending, h.noneOnWire],
    fun _ ↦ h.noneWaiting.symm⟩

/-- The senders a driver gave up, the source and the metrics do not matter for these. -/
theorem Aligned.congr {m n : Flow} (h : Aligned m) (hcurrent : n.current = m.current)
    (hpending : n.pending = m.pending) (hprepared : n.prepared = m.prepared)
    (hgeneration : n.generation = m.generation) : Aligned n where
  noDrops := hcurrent ▸ h.noDrops
  live := by
    rw [hcurrent, hgeneration]
    exact h.live
  prepared := by
    rw [hprepared, hgeneration]
    exact h.prepared
  inOrder := by
    rw [hcurrent, hpending]
    exact h.inOrder

theorem Quiet.congr {m n : Flow} (h : Quiet m) (hcurrent : n.current = m.current)
    (hpending : n.pending = m.pending) : Quiet n where
  nonePending := hpending.trans h.nonePending
  noRecords := by rw [hcurrent, h.noRecords]
  noDrops := by rw [hcurrent, h.noDrops]
  noneOnWire := by rw [hcurrent, h.noneOnWire]
  noneWaiting := by rw [hcurrent, h.noneWaiting]

theorem Boundary.congr {m n : Flow} (h : Boundary m) (hcurrent : n.current = m.current)
    (hpending : n.pending = m.pending) (hgeneration : n.generation = m.generation) :
    Boundary n where
  nonePending := hpending.trans h.nonePending
  noDrops := hcurrent ▸ h.noDrops
  live := by
    rw [hcurrent, hgeneration]
    exact h.live
  single := by
    rw [hcurrent]
    exact h.single

section Sender

variable {m : Flow} {d : DeadlineSender} {w : Wire}

open DeadlineSender

theorem Quiet.sender (h : Quiet m) (hmove : Move m.generation m.current m.wire d w) :
    Quiet { m with current := d, wire := w } := by
  have hw := h.noneWaiting
  have ho := h.noneOnWire
  cases hmove with
  | idle hd hpc =>
    refine ⟨h.nonePending, h.noRecords, h.noDrops, ?_, ?_⟩
    · rcases hpc with rfl | rfl <;> rfl
    · rcases hd with hd | hd <;> rcases hpc with rfl | rfl <;> simpa [waiting, hd] using hw
  | shutdown hd hdropped => exact ⟨h.nonePending, h.noRecords, h.noDrops, rfl, rfl⟩
  | take hd hc => simp [waiting, hd, hc] at hw
  | drop hd | check hd | mismatch hd | compare hd | send hd | socketFailed hd =>
    simp [waiting, hd] at hw
  | advance hd | overtaken hd | record hd => simp [onWire, hd] at ho

theorem Aligned.sender (h : Aligned m) (hmove : Move m.generation m.current m.wire d w) :
    Aligned { m with current := d, wire := w } := by
  obtain ⟨sent, unsent, hrecords, hpending, hunsent⟩ := h.inOrder
  have hlive := h.live
  cases hmove with
  | idle hd hpc =>
    refine ⟨h.noDrops, ?_, h.prepared, sent, unsent, hrecords, ?_, ?_⟩
    · rcases hd with hd | hd <;> rcases hpc with rfl | rfl <;>
        simpa [waiting, hd] using hlive
    · rcases hd with hd | hd <;> rcases hpc with rfl | rfl <;>
        simpa [onWire, hd] using hpending
    · rcases hd with hd | hd <;> rcases hpc with rfl | rfl <;>
        simpa [waiting, isStopped, hd] using hunsent
  | take hd hcommands =>
    refine ⟨h.noDrops, ?_, h.prepared, sent, unsent, hrecords, ?_, ?_⟩
    · simpa [waiting, hd, hcommands] using hlive
    · simpa [onWire, hd] using hpending
    · simpa [waiting, isStopped, hd, hcommands] using hunsent
  | drop hd hstale => exact absurd (hlive _ (by simp [waiting, hd])) hstale
  | check hd _ | compare hd _ | advance hd _ =>
    refine ⟨h.noDrops, ?_, h.prepared, sent, unsent, hrecords, ?_, ?_⟩
    · simpa [waiting, hd] using hlive
    · simpa [onWire, hd] using hpending
    · simpa [waiting, isStopped, hd] using hunsent
  | @send c hd =>
    have hu : unsent = c :: m.current.commands := by
      simpa [waiting, isStopped, hd] using hunsent
    refine ⟨h.noDrops, ?_, h.prepared, sent, m.current.commands, hrecords, ?_, ?_⟩
    · intro c' hc'
      exact hlive c' (by simp_all [waiting])
    · simpa [onWire, hd, hu] using hpending
    · simp [waiting]
  | @record c hd =>
    unfold emitSent
    split_ifs
    · refine ⟨h.noDrops, by simp [stop, waiting], h.prepared, sent, unsent, hrecords, ?_, ?_⟩
      · simpa [onWire, stop, hd] using hpending
      · simp [isStopped, stop]
    · refine ⟨h.noDrops, ?_, h.prepared, sent ++ [c], unsent, by simp [hrecords], ?_, ?_⟩
      · simpa [waiting, hd] using hlive
      · simpa [onWire, hd] using hpending
      · simpa [waiting, isStopped, hd] using hunsent
  | shutdown hd _ | mismatch hd _ | socketFailed hd | overtaken hd _ =>
    refine ⟨h.noDrops, by simp [stop, waiting], h.prepared, sent, unsent, hrecords, ?_, ?_⟩
    · simpa [onWire, stop, hd] using hpending
    · simp [isStopped, stop]

theorem Boundary.sender (h : Boundary m) (hmove : Move m.generation m.current m.wire d w) :
    Boundary { m with current := d, wire := w } := by
  obtain ⟨sent, hrecords, hlength, hsilent⟩ := h.single
  have hlive := h.live
  cases hmove with
  | idle hd hpc =>
    refine ⟨h.nonePending, h.noDrops, ?_, sent, hrecords, ?_, ?_⟩
    · rcases hd with hd | hd <;> rcases hpc with rfl | rfl <;>
        simpa [waiting, hd] using hlive
    · rcases hd with hd | hd <;> rcases hpc with rfl | rfl <;>
        simpa [waiting, onWire, hd] using hlength
    · rcases hd with hd | hd <;> rcases hpc with rfl | rfl <;>
        simpa [waiting, onWire, hd] using hsilent
  | drop hd hstale => exact absurd (hlive _ (by simp [waiting, hd])) hstale
  | @send c hd =>
    refine ⟨h.nonePending, h.noDrops, ?_, sent, hrecords, ?_, ?_⟩
    · intro c' hc'
      exact hlive c' (by simp_all [waiting])
    · simpa [waiting, onWire, hd] using hlength
    · simpa [waiting, onWire, hd] using hsilent
  | @record c hd =>
    unfold emitSent
    split_ifs
    · refine ⟨h.nonePending, h.noDrops, by simp [stop, waiting], sent, hrecords, ?_, ?_⟩
      · refine le_trans ?_ hlength
        simp [waiting, onWire, stop, hd]
      · intro c' hc'
        apply hsilent c'
        simp only [waiting, onWire, stop, hd, List.mem_append, List.mem_singleton] at hc' ⊢
        tauto
    · refine ⟨h.nonePending, h.noDrops, ?_, sent ++ [c], by simp [hrecords], ?_, ?_⟩
      · simpa [waiting, hd] using hlive
      · simpa [waiting, onWire, hd] using hlength
      · simpa [waiting, onWire, hd] using hsilent
  | take hd hcommands =>
    refine ⟨h.nonePending, h.noDrops, ?_, sent, hrecords, ?_, ?_⟩
    · simpa [waiting, hd, hcommands] using hlive
    · simpa [waiting, onWire, hd, hcommands] using hlength
    · simpa [waiting, onWire, hd, hcommands] using hsilent
  | check hd _ | compare hd _ | advance hd _ =>
    refine ⟨h.nonePending, h.noDrops, ?_, sent, hrecords, ?_, ?_⟩
    · simpa [waiting, hd] using hlive
    · simpa [waiting, onWire, hd] using hlength
    · simpa [waiting, onWire, hd] using hsilent
  | shutdown hd _ | mismatch hd _ | socketFailed hd | overtaken hd _ =>
    refine ⟨h.nonePending, h.noDrops, by simp [stop, waiting], sent, hrecords, ?_, ?_⟩
    · refine le_trans ?_ hlength
      simp [waiting, onWire, stop, hd]
    · intro c' hc'
      apply hsilent c'
      simp only [waiting, onWire, stop, hd, List.mem_append, List.mem_singleton] at hc' ⊢
      tauto

end Sender

/-- A command handed to a running sender joins the end of both lists. -/
theorem Aligned.enqueue {m n : Flow} {c : PreparedPlayoutCommand} {p : PendingDeadlineCommand}
    (h : Aligned m) (hstopped : m.current.isStopped = false) (hc : c.generation = m.generation)
    (hprepared : ∀ q ∈ n.prepared, q.command.frame = some q.frame ∧
      q.command.generation = m.generation) (hp : p = pendingOf c)
    (hcurrent : n.current = { m.current with commands := m.current.commands ++ [c] })
    (hpending : n.pending = m.pending ++ [p]) (hgeneration : n.generation = m.generation) :
    Aligned n := by
  obtain ⟨sent, unsent, hrecords, hlist, hunsent⟩ := h.inOrder
  have hwaiting : n.current.waiting = m.current.waiting ++ [c] := by
    rw [hcurrent]
    simp only [DeadlineSender.waiting]
    cases m.current.pc <;> rfl
  have honWire : n.current.onWire = m.current.onWire := by rw [hcurrent]; rfl
  refine ⟨by rw [hcurrent]; exact h.noDrops, ?_, by rw [hgeneration]; exact hprepared,
    sent, unsent ++ [c], by rw [hcurrent]; exact hrecords, ?_, fun _ ↦ ?_⟩
  · rw [hwaiting, hgeneration]
    intro c' hc'
    rcases List.mem_append.mp hc' with hc' | hc'
    · exact h.live c' hc'
    · rw [List.mem_singleton.mp hc', hc]
  · rw [hpending, hlist, honWire, hp]
    simp
  · rw [hwaiting, hunsent hstopped]

theorem Quiet.enqueueBoundary {m n : Flow} {c : PreparedPlayoutCommand} (h : Quiet m)
    (hc : c.generation = m.generation) (hframe : c.frame = none ∧ c.mediaFrame = none)
    (hcurrent : n.current = { m.current with commands := m.current.commands ++ [c] })
    (hpending : n.pending = m.pending) (hgeneration : n.generation = m.generation) :
    Boundary n := by
  have hwaiting : n.current.waiting = [c] := by
    have := h.noneWaiting
    rw [hcurrent]
    simp only [DeadlineSender.waiting] at this ⊢
    split at this <;> simp_all
  have honWire : n.current.onWire = [] := by
    rw [← h.noneOnWire, hcurrent]
    rfl
  refine ⟨hpending.trans h.nonePending, by rw [hcurrent]; exact h.noDrops, ?_, [],
    by rw [hcurrent, h.noRecords]; rfl, by simp [honWire, hwaiting], ?_⟩
  · rw [hwaiting, hgeneration]
    simpa using hc
  · simpa [honWire, hwaiting] using hframe

theorem Boundary.account {m n : Flow} {r : DeadlineSendRecord} {rest : List DeadlineSendRecord}
    (h : Boundary m) (hrecords : m.current.sendRecords = r :: rest)
    (hcurrent : n.current = { m.current with sendRecords := rest })
    (hpending : n.pending = m.pending) : Quiet n := by
  obtain ⟨sent, hsent, hlength, -⟩ := h.single
  rcases sent with _ | ⟨c, sent⟩
  · simp [hrecords] at hsent
  · simp only [List.cons_append, List.length_cons, List.length_append] at hlength
    have hnil : sent = [] := List.length_eq_zero_iff.mp (by omega)
    have honWire : m.current.onWire = [] := List.length_eq_zero_iff.mp (by omega)
    have hwaiting : m.current.waiting = [] := List.length_eq_zero_iff.mp (by omega)
    subst hnil
    rw [hrecords] at hsent
    refine ⟨hpending.trans h.nonePending, ?_, ?_, ?_, ?_⟩
    · rw [hcurrent]
      exact (List.cons.inj hsent).2
    · rw [hcurrent]
      exact h.noDrops
    · rw [← honWire, hcurrent]
      rfl
    · rw [← hwaiting, hcurrent]
      rfl

/-- How the driver's list of pending commands relates to its sender. -/
inductive Link
  | linked
  | replaced
  | quiet
  | boundary
  | cut
  deriving DecidableEq

def DriverPc.link : DriverPc → Link
  | .discard _ | .replace _ | .exited _ => .cut
  | .flush _ _ => .replaced
  | .restore _ _ | .invalidateAgain _ | .discardAgain _ => .quiet
  | .boundary _ _ _ | .boundaryReport _ _ => .quiet
  | .boundaryWait _ _ _ => .boundary
  | _ => .linked

theorem link_of_calm {pc : DriverPc} (h : pc.calm = true) : pc.link = .linked := by
  cases pc <;> first | rfl | cases h

/-- What the driver knows of its sender in every state. -/
structure Connected (s : MediaState) : Prop where
  linked : s.pc.link = .linked → Aligned s.flow
  replaced : s.pc.link = .replaced → Quiet s.flow
  quiet : s.pc.link = .quiet → Quiet s.flow ∧ s.flow.prepared = []
  boundary : s.pc.link = .boundary → Boundary s.flow ∧ s.flow.prepared = []
  paused : s.paused = true → s.pc.pausable = true ∧
    (Quiet s.flow ∧ s.flow.prepared = [] ∨ ∃ result, s.pc = .exited result)

namespace Connected

variable {aead : Aead} {s t : MediaState}

theorem of_linked (hpc : t.pc.link = .linked) (h : Aligned t.flow)
    (hp : t.paused = true → t.pc.pausable = true ∧ Quiet t.flow ∧ t.flow.prepared = []) :
    Connected t where
  linked _ := h
  replaced h := by simp [hpc] at h
  quiet h := by simp [hpc] at h
  boundary h := by simp [hpc] at h
  paused h := ⟨(hp h).1, .inl (hp h).2⟩

theorem of_replaced (hpc : t.pc.link = .replaced) (h : Quiet t.flow)
    (hp : t.paused = true → t.pc.pausable = true ∧ t.flow.prepared = []) : Connected t where
  linked h := by simp [hpc] at h
  replaced _ := h
  quiet h := by simp [hpc] at h
  boundary h := by simp [hpc] at h
  paused hpaused := ⟨(hp hpaused).1, .inl ⟨h, (hp hpaused).2⟩⟩

theorem of_boundary (hpc : t.pc.link = .boundary) (h : Boundary t.flow)
    (hprepared : t.flow.prepared = []) (hp : t.paused = false) : Connected t where
  linked h := by simp [hpc] at h
  replaced h := by simp [hpc] at h
  quiet h := by simp [hpc] at h
  boundary _ := ⟨h, hprepared⟩
  paused hpaused := by simp [hp] at hpaused

theorem of_quiet (hpc : t.pc.link = .quiet) (h : Quiet t.flow) (hprepared : t.flow.prepared = [])
    (hp : t.paused = true → t.pc.pausable = true) : Connected t where
  linked h := by simp [hpc] at h
  replaced h := by simp [hpc] at h
  quiet _ := ⟨h, hprepared⟩
  boundary h := by simp [hpc] at h
  paused hpaused := ⟨hp hpaused, .inl ⟨h, hprepared⟩⟩

theorem of_cut (hpc : t.pc.link = .cut)
    (hp : t.paused = true → t.pc.pausable = true ∧
      (Quiet t.flow ∧ t.flow.prepared = [] ∨ ∃ result, t.pc = .exited result)) : Connected t where
  linked h := by simp [hpc] at h
  replaced h := by simp [hpc] at h
  quiet h := by simp [hpc] at h
  boundary h := by simp [hpc] at h
  paused := hp

theorem paused_calm (h : Connected s) (hpc : ∀ result, s.pc ≠ .exited result)
    (hpaused : s.paused = true) : s.pc.pausable = true ∧ Quiet s.flow ∧ s.flow.prepared = [] := by
  obtain ⟨hp, hq | ⟨result, hr⟩⟩ := h.paused hpaused
  · exact ⟨hp, hq⟩
  · exact absurd hr (hpc result)

theorem not_paused (h : Connected s) (hpc : s.pc.pausable = false) : s.paused = false := by
  by_contra hpaused
  have := (h.paused (Bool.eq_true_of_not_eq_false hpaused)).1
  simp [hpc] at this

theorem effect (h : Connected s) (he : Effect aead s t) : Connected t := by
  cases he with
  | jump hs ht hm hr hp hq =>
    refine of_linked (link_of_calm ht) (hm ▸ h.linked (link_of_calm hs)) fun hpaused ↦ ?_
    obtain ⟨hsp, hquiet, hprepared⟩ :=
      h.paused_calm (fun result hpc ↦ by simp [hpc, DriverPc.calm] at hs) (hp hpaused)
    have : t.prepared = s.prepared := congrArg Flow.prepared hm
    exact ⟨hq hsp hpaused, hm ▸ hquiet, this.trans hprepared⟩
  | @account r rest p pending pc hs hrecords hpending hmatch ht hr hq =>
    have ha := h.linked (link_of_calm hs)
    obtain ⟨sent, unsent, hsent, hlist, hunsent⟩ := ha.inOrder
    have hsent' : s.current.sendRecords = sent.map (·.sendRecord) := hsent
    have hlist' : s.pending = (sent ++ s.current.onWire ++ unsent).map pendingOf := hlist
    rcases sent with _ | ⟨c, sent⟩
    · simp [hrecords] at hsent'
    · refine of_linked (link_of_calm ht) ⟨ha.noDrops, ha.live, ha.prepared, sent, unsent, ?_, ?_,
        hunsent⟩ fun hpaused ↦ ?_
      · rw [hrecords, List.map_cons, List.cons.injEq] at hsent'
        exact hsent'.2
      · rw [hpending, List.cons_append, List.cons_append, List.map_cons, List.cons.injEq] at hlist'
        exact hlist'.2
      · have hquiet := (h.paused_calm
          (fun result hpc ↦ by simp [hpc, DriverPc.calm] at hs) hpaused).2.1.noRecords
        simp [flow, hrecords] at hquiet
  | accountDropped hs hdropped => exact absurd (h.linked (link_of_calm hs)).noDrops hdropped
  | @report r pc hs hq hpc =>
    have hflow : ((s.sendMetric (.senderSent r)).goto pc).flow =
      { s.flow with metrics := (s.sendMetric (.senderSent r)).metrics } := sendMetric_flow _
    rcases hpc with ⟨hscalm, hcalm⟩ | ⟨site, sent, hspc, rfl⟩
    · refine of_linked (link_of_calm hcalm) ?_ fun hpaused ↦ ?_
      · rw [hflow]
        exact (h.linked (link_of_calm hscalm)).congr rfl rfl rfl rfl
      · rw [goto_paused, sendMetric_paused] at hpaused
        obtain ⟨hsp, hquiet, hnone⟩ :=
          h.paused_calm (fun result hpc ↦ by simp [hpc, DriverPc.calm] at hscalm) hpaused
        rw [hflow]
        exact ⟨hq hsp, hquiet.congr rfl rfl, hnone⟩
    · obtain ⟨hquiet, hnone⟩ := h.quiet (by rw [hspc]; rfl)
      refine of_quiet rfl ?_ ?_ fun hpaused ↦ ?_
      · rw [hflow]
        exact hquiet.congr rfl rfl
      · rw [hflow]
        exact hnone
      · rw [goto_paused, sendMetric_paused, h.not_paused (by rw [hspc]; rfl)] at hpaused
        cases hpaused
  | @invalidate reason hs =>
    refine of_cut rfl fun hpaused ↦ ?_
    obtain ⟨hsp, hquiet, hnone⟩ := h.paused_calm (by simp [hs]) hpaused
    refine ⟨?_, .inl ⟨hquiet.congr rfl rfl, hnone⟩⟩
    rw [hs] at hsp
    cases reason <;> first | rfl | cases hsp
  | @discard reason hs =>
    refine of_cut rfl fun hpaused ↦ ?_
    obtain ⟨hsp, hquiet, hnone⟩ := h.paused_calm (by simp [hs]) hpaused
    refine ⟨?_, .inl ⟨hquiet.congr rfl rfl, hnone⟩⟩
    rw [hs] at hsp
    cases reason <;> first | rfl | cases hsp
  | @replace reason hs =>
    refine of_replaced rfl ⟨rfl, rfl, rfl, rfl, rfl⟩ fun hpaused ↦ ?_
    obtain ⟨hsp, -, hnone⟩ := h.paused_calm (by simp [hs]) hpaused
    refine ⟨?_, hnone⟩
    rw [hs] at hsp
    cases reason <;> first | rfl | cases hsp
  | @flush reason frames hs =>
    refine of_quiet rfl ((h.replaced (by rw [hs]; rfl)).congr rfl rfl) rfl fun hpaused ↦ ?_
    have hsp := (h.paused_calm (by simp [hs]) hpaused).1
    rw [hs] at hsp
    cases reason <;> first | rfl | cases hsp
  | @restore reason f frames hs =>
    have hflow : ((s.restoreLiveSourceFrame f).goto (.restore reason frames)).flow =
      { s.flow with queue := (s.restoreLiveSourceFrame f).source.queue } :=
      restoreLiveSourceFrame_flow f
    obtain ⟨hquiet, hnone⟩ := h.quiet (by rw [hs]; rfl)
    refine of_quiet rfl ?_ ?_ fun hpaused ↦ ?_
    · rw [hflow]
      exact hquiet.congr rfl rfl
    · rw [hflow]
      exact hnone
    · rw [goto_paused, restoreLiveSourceFrame_paused] at hpaused
      have hsp := (h.paused_calm (by simp [hs]) hpaused).1
      rw [hs] at hsp
      cases reason <;> first | rfl | cases hsp
  | @restored reason hs =>
    obtain ⟨hquiet, hnone⟩ := h.quiet (by rw [hs]; rfl)
    have hp (hpaused : s.paused = true) : (DriverPc.restore reason []).pausable = true := by
      have hsp := (h.paused_calm (by simp [hs]) hpaused).1
      rwa [hs] at hsp
    cases reason with
    | pause site => exact of_quiet rfl hquiet hnone fun hpaused ↦ by cases hp hpaused
    | stop site =>
      cases site with
      | second => exact of_quiet rfl hquiet hnone fun _ ↦ rfl
      | _ => exact of_cut rfl fun _ ↦ ⟨rfl, .inr ⟨_, rfl⟩⟩
    | stale => exact of_cut rfl fun _ ↦ ⟨rfl, .inr ⟨_, rfl⟩⟩
    | dave route =>
      exact of_linked rfl (hquiet.aligned hnone) fun hpaused ↦ by cases hp hpaused
  | @refill route next f queue egress hs hpop hpush =>
    have ha := h.linked (by rw [hs]; rfl)
    refine of_linked (by rw [hs]; rfl) (ha.congr rfl rfl rfl rfl) fun hpaused ↦ ?_
    rw [h.not_paused (by rw [hs]; rfl)] at hpaused
    cases hpaused
  | @refillRefused f queue route next hs hpop =>
    have ha := h.linked (by rw [hs]; rfl)
    refine of_linked rfl (ha.congr rfl rfl rfl rfl) fun hpaused ↦ ?_
    rw [h.not_paused (by rw [hs]; rfl)] at hpaused
    cases hpaused
  | @refillRestore route next f hs =>
    have hflow : ((s.restoreLiveSourceFrame f).goto (afterRefill route next)).flow =
      { s.flow with queue := (s.restoreLiveSourceFrame f).source.queue } :=
      restoreLiveSourceFrame_flow f
    refine of_linked (by cases next <;> rfl) ?_ fun hpaused ↦ ?_
    · rw [hflow]
      exact (h.linked (by rw [hs]; rfl)).congr rfl rfl rfl rfl
    · rw [goto_paused, restoreLiveSourceFrame_paused, h.not_paused (by rw [hs]; rfl)] at hpaused
      cases hpaused
  | @prepareTrack route f egress packet preparer hs hpop payload hpacket =>
    have ha := h.linked (by rw [hs]; rfl)
    refine of_linked rfl ⟨ha.noDrops, ha.live, ?_, ha.inOrder⟩ fun hpaused ↦ ?_
    · intro p hp
      rcases List.mem_append.mp hp with hp | hp
      · exact ha.prepared p hp
      · rw [List.mem_singleton.mp hp]
        exact ⟨rfl, rfl⟩
    · rw [h.not_paused (by rw [hs]; rfl)] at hpaused
      cases hpaused
  | @pump route p prepared hs hprepared hstopped =>
    have ha := h.linked (by rw [hs]; rfl)
    have hp : p.command.frame = some p.frame ∧ p.command.generation = s.generation :=
      ha.prepared p (by simp [flow, hprepared])
    refine of_linked (by rw [hs]; rfl) (ha.enqueue hstopped hp.2 ?_ ?_ rfl rfl rfl) fun hpaused ↦ ?_
    · intro q hq
      exact ha.prepared q (by simp_all [flow])
    · rw [pendingOf, hp.1]
    · rw [h.not_paused (by rw [hs]; rfl)] at hpaused
      cases hpaused
  | @silence site packet preparer hs hdue payload hstopped hpacket =>
    have ha := h.linked (by rw [hs]; rfl)
    refine of_linked (by rw [hs]; rfl) (ha.enqueue hstopped rfl ha.prepared rfl rfl rfl rfl) fun hpaused ↦ ?_
    rw [h.not_paused (by rw [hs]; rfl)] at hpaused
    cases hpaused
  | @boundary site left sent packet preparer hs payload hstopped hpacket =>
    obtain ⟨hquiet, hnone⟩ := h.quiet (by rw [hs]; rfl)
    exact of_boundary rfl (hquiet.enqueueBoundary rfl ⟨rfl, rfl⟩ rfl rfl rfl) hnone
      (h.not_paused (by rw [hs]; rfl))
  | @boundarySent site left sent r rest hs hrecords =>
    obtain ⟨hb, hnone⟩ := h.boundary (by rw [hs]; rfl)
    refine of_quiet rfl (hb.account hrecords rfl rfl) hnone fun hpaused ↦ ?_
    rw [h.not_paused (by rw [hs]; rfl)] at hpaused
    cases hpaused
  | boundaryReport hs =>
    obtain ⟨hquiet, hnone⟩ := h.quiet (by rw [hs]; rfl)
    refine of_quiet rfl hquiet hnone fun hpaused ↦ ?_
    rw [goto_paused, h.not_paused (by rw [hs]; rfl)] at hpaused
    cases hpaused
  | @paused site hs =>
    obtain ⟨hquiet, hnone⟩ := h.quiet (by rw [hs]; rfl)
    refine of_linked (by cases site <;> rfl) (hquiet.aligned hnone) fun _ ↦
      ⟨by cases site <;> rfl, hquiet, hnone⟩
  | again hs hpaused =>
    obtain ⟨hsp, hquiet, hnone⟩ := h.paused_calm (by simp [hs]) hpaused
    exact of_quiet rfl hquiet hnone fun _ ↦ rfl
  | invalidateAgain hs =>
    obtain ⟨hquiet, hnone⟩ := h.quiet (by rw [hs]; rfl)
    exact of_quiet rfl (hquiet.congr rfl rfl) hnone fun _ ↦ rfl
  | discardAgain hs =>
    obtain ⟨hquiet, hnone⟩ := h.quiet (by rw [hs]; rfl)
    have hquiet' : Quiet (s.discardUnsentPreparedPackets.goto .waiting).flow :=
      hquiet.congr rfl rfl
    exact of_linked rfl (hquiet'.aligned hnone) fun _ ↦ ⟨rfl, hquiet', hnone⟩
  | exit ht => exact of_cut (by rw [ht]; rfl) fun _ ↦ ⟨by rw [ht]; rfl, .inr ⟨_, ht⟩⟩

theorem congr (h : Connected s) (hpc : t.pc = s.pc) (hpaused : t.paused = s.paused)
    (hcurrent : t.current = s.current) (hpending : t.pending = s.pending)
    (hprepared : t.prepared = s.prepared) (hgeneration : t.generation = s.generation) :
    Connected t where
  linked hl := (h.linked (hpc ▸ hl)).congr hcurrent hpending hprepared hgeneration
  replaced hl := (h.replaced (hpc ▸ hl)).congr hcurrent hpending
  quiet hl := ⟨(h.quiet (hpc ▸ hl)).1.congr hcurrent hpending,
    hprepared.trans (h.quiet (hpc ▸ hl)).2⟩
  boundary hl := ⟨(h.boundary (hpc ▸ hl)).1.congr hcurrent hpending hgeneration,
    hprepared.trans (h.boundary (hpc ▸ hl)).2⟩
  paused hp := by
    rw [hpc]
    obtain ⟨hsp, ⟨hquiet, hnone⟩ | hexited⟩ := h.paused (hpaused ▸ hp)
    · exact ⟨hsp, .inl ⟨hquiet.congr hcurrent hpending, hprepared.trans hnone⟩⟩
    · exact ⟨hsp, .inr hexited⟩

theorem sender {d : DeadlineSender} {w : Wire} (h : Connected s)
    (hmove : DeadlineSender.Move s.generation s.current s.wire d w) :
    Connected { s with current := d, wire := w } where
  linked hl := (h.linked hl).sender hmove
  replaced hl := (h.replaced hl).sender hmove
  quiet hl := ⟨(h.quiet hl).1.sender hmove, (h.quiet hl).2⟩
  boundary hl := ⟨(h.boundary hl).1.sender hmove, (h.boundary hl).2⟩
  paused hp := by
    obtain ⟨hsp, ⟨hquiet, hnone⟩ | hexited⟩ := h.paused hp
    · exact ⟨hsp, .inl ⟨hquiet.sender hmove, hnone⟩⟩
    · exact ⟨hsp, .inr hexited⟩

theorem happens {action : Action} (h : Connected s) (hstep : Happens aead s action t) :
    Connected t := by
  cases hstep with
  | driver he => exact h.effect he
  | sender hmove => exact h.sender hmove
  | oldSender hget hmove => exact h.congr rfl rfl rfl rfl rfl rfl
  | produced pushed hpc hpaused hflow =>
    exact h.congr hpc hpaused (congrArg Flow.current hflow) (congrArg Flow.pending hflow)
      (congrArg Flow.prepared hflow) (congrArg Flow.generation hflow)
  | metric =>
    have hflow := sendMetric_flow (s := s) .other
    exact h.congr (sendMetric_pc _) (sendMetric_paused _)
      (congrArg Flow.current hflow) (congrArg Flow.pending hflow) (congrArg Flow.prepared hflow)
      (congrArg Flow.generation hflow)
  | @consumed m metrics hmetrics =>
    have hflow := consumeMetric_flow (s := { s with metrics }) m
    exact h.congr (consumeMetric_pc _) (consumeMetric_paused _) (congrArg Flow.current hflow)
      (congrArg Flow.pending hflow) (congrArg Flow.prepared hflow) (congrArg Flow.generation hflow)
  | apart ha hpc hpaused hflow =>
    exact h.congr hpc hpaused (congrArg Flow.current hflow) (congrArg Flow.pending hflow)
      (congrArg Flow.prepared hflow) (congrArg Flow.generation hflow)

theorem start (playbackEpoch : ℕ) (preparer : VoicePacketPreparer) (source : SourceBufferState)
    (position : ℕ) : Connected (MediaState.start playbackEpoch preparer source position) := by
  refine of_linked rfl ?_ fun h ↦ by cases h
  exact Quiet.aligned ⟨rfl, rfl, rfl, rfl, rfl⟩ rfl

end Connected

end DiscordVoice.Media
