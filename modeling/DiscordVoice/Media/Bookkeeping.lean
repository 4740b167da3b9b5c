import DiscordVoice.Media.Outstanding

namespace DiscordVoice.Media

open Voice Playback MediaState Schedule

def DeadlineSender.recordCount (d : DeadlineSender) : ℕ :=
  d.sendRecords.length + d.dropRecords.length

/-- The commands of the driver's sender whose record the driver has not read, after one of its
steps: a new sender owes nothing, and otherwise the commands handed over join the end and the
records read leave the front. -/
def unread (s t : MediaState) (owed : List PreparedPlayoutCommand) : List PreparedPlayoutCommand :=
  if t.old.length ≠ s.old.length then []
  else (owed ++ t.current.commands.drop s.current.commands.length).drop
    (s.current.recordCount - t.current.recordCount)

def owedAfter (s t : MediaState) (owed : List PreparedPlayoutCommand) :
    Action → List PreparedPlayoutCommand
  | .driver _ => unread s t owed
  | _ => owed

/-- A run that keeps count of the commands handed to the sender and the records read from it. -/
structure Watched where
  state : MediaState
  owed : List PreparedPlayoutCommand

def Watched.step (aead : Aead) (w : Watched) (action : Action) : Option Watched :=
  (w.state.step aead action).map fun t ↦ ⟨t, owedAfter w.state t w.owed action⟩

variable {s t : MediaState} {owed : List PreparedPlayoutCommand}

theorem unread_same (hold : t.old = s.old) (hcurrent : t.current = s.current) :
    unread s t owed = owed := by
  simp [unread, hold, hcurrent]

theorem unread_handed {c : PreparedPlayoutCommand} (hold : t.old = s.old)
    (hcurrent : t.current = { s.current with commands := s.current.commands ++ [c] }) :
    unread s t owed = owed ++ [c] := by
  simp [unread, hold, hcurrent, DeadlineSender.recordCount]

theorem unread_read {r : DeadlineSendRecord} {rest : List DeadlineSendRecord}
    (hold : t.old = s.old) (hrecords : s.current.sendRecords = r :: rest)
    (hcurrent : t.current = { s.current with sendRecords := rest }) :
    unread s t owed = owed.drop 1 := by
  have hone : s.current.recordCount - t.current.recordCount = 1 := by
    rw [hcurrent]
    simp only [DeadlineSender.recordCount, hrecords, List.length_cons]
    omega
  have hnone : t.current.commands.drop s.current.commands.length = [] := by
    rw [hcurrent]
    exact List.drop_length
  rw [unread, if_neg (by simp [hold]), hone, hnone, List.append_nil]

theorem unread_replaced (hold : t.old.length ≠ s.old.length) : unread s t owed = [] :=
  if_pos hold

namespace DriverPc

/-- The driver's list of pending commands stands for what its sender owes: everywhere but in the
wait for a packet of boundary silence, which never enters the list, and after the end. -/
def books : DriverPc → Bool
  | .boundaryWait _ _ _ | .exited _ => false
  | _ => true

/-- The driver is in the middle of none of its steps: not between the new generation and the new
sender, and not in the wait for boundary silence. -/
def betweenSteps : DriverPc → Bool
  | .discard _ | .replace _ => false
  | pc => pc.books

def accounts : DriverPc → Bool
  | .outcomes _ _ | .select => true
  | _ => false

theorem books_of_calm {pc : DriverPc} (h : pc.calm = true) : pc.books = true := by
  cases pc <;> first | rfl | cases h

theorem betweenSteps_of_calm {pc : DriverPc} (h : pc.calm = true) : pc.betweenSteps = true := by
  cases pc <;> first | rfl | cases h

theorem calm_of_accounts {pc : DriverPc} (h : pc.accounts = true) : pc.calm = true := by
  cases pc <;> first | rfl | cases h

end DriverPc

/-- The books of the driver agree with what it handed over and read back. -/
structure Booked (s : MediaState) (owed : List PreparedPlayoutCommand) : Prop where
  booked : s.pc.books = true → s.pending = owed.map pendingOf
  live : s.pc.betweenSteps = true → ∀ c ∈ owed, c.generation = s.generation
  awaited : ∀ site left sent, s.pc = .boundaryWait site left sent → ∃ c, owed = [c]

namespace Booked

theorem of_booked (hpc : t.pc.books = true) (hbooked : t.pending = owed.map pendingOf)
    (hlive : t.pc.betweenSteps = true → ∀ c ∈ owed, c.generation = t.generation) :
    Booked t owed where
  booked _ := hbooked
  live := hlive
  awaited site left sent h := by
    rw [h] at hpc
    cases hpc

theorem of_exited {result : DriverResult} (hpc : t.pc = .exited result) : Booked t owed where
  booked h := by
    rw [hpc] at h
    cases h
  live h := by
    rw [hpc] at h
    cases h
  awaited site left sent h := by
    rw [hpc] at h
    cases h

theorem owed_nil (h : Booked s owed) (hpc : s.pc.books = true) (hnone : s.pending = []) :
    owed = [] := by
  have := h.booked hpc
  rw [hnone] at this
  exact List.map_eq_nil_iff.mp this.symm

theorem of_none (h : Booked s owed) (hs : s.pc.books = true) (hnone : s.pending = [])
    (hold : t.old = s.old) (hcurrent : t.current = s.current) (hpending : t.pending = s.pending)
    (ht : t.pc.books = true) : Booked t (unread s t owed) := by
  rw [unread_same hold hcurrent, h.owed_nil hs hnone]
  exact of_booked ht (hpending.trans hnone) (by simp)

theorem of_same (h : Booked s owed) (hs : s.pc.betweenSteps = true) (hbooks : s.pc.books = true)
    (hold : t.old = s.old) (hcurrent : t.current = s.current) (hpending : t.pending = s.pending)
    (hgeneration : t.generation = s.generation) (ht : t.pc.books = true) :
    Booked t (unread s t owed) := by
  rw [unread_same hold hcurrent]
  exact of_booked ht (hpending.trans (h.booked hbooks)) fun _ ↦ hgeneration ▸ h.live hs

theorem of_handed {c : PreparedPlayoutCommand} (h : Booked s owed) (hs : s.pc.betweenSteps = true)
    (hbooks : s.pc.books = true) (hold : t.old = s.old)
    (hcurrent : t.current = { s.current with commands := s.current.commands ++ [c] })
    (hpending : t.pending = s.pending ++ [pendingOf c]) (hgeneration : t.generation = s.generation)
    (hc : c.generation = s.generation) (ht : t.pc.books = true) : Booked t (unread s t owed) := by
  rw [unread_handed hold hcurrent]
  refine of_booked ht ?_ fun _ c' hc' ↦ ?_
  · rw [hpending, h.booked hbooks, List.map_append, List.map_singleton]
  · rw [hgeneration]
    rcases List.mem_append.mp hc' with hc' | hc'
    · exact h.live hs c' hc'
    · rw [List.mem_singleton.mp hc', hc]

theorem of_read {r : DeadlineSendRecord} {rest : List DeadlineSendRecord} (hold : t.old = s.old)
    (hrecords : s.current.sendRecords = r :: rest)
    (hcurrent : t.current = { s.current with sendRecords := rest }) (ht : t.pc.books = true)
    (hpending : t.pending = (owed.drop 1).map pendingOf)
    (hlive : ∀ c ∈ owed.drop 1, c.generation = t.generation) : Booked t (unread s t owed) := by
  rw [unread_read hold hrecords hcurrent]
  exact of_booked ht hpending fun _ ↦ hlive

theorem of_interrupted (h : Booked s owed) (hs : s.pc.books = true) (hold : t.old = s.old)
    (hcurrent : t.current = s.current) (hpending : t.pending = s.pending)
    (ht : t.pc.books = true) (hinside : t.pc.betweenSteps = false) :
    Booked t (unread s t owed) := by
  rw [unread_same hold hcurrent]
  refine of_booked ht (hpending.trans (h.booked hs)) fun hb ↦ ?_
  rw [hinside] at hb
  cases hb

theorem of_replaced (hold : t.old.length ≠ s.old.length) (hpending : t.pending = [])
    (ht : t.pc.books = true) : Booked t (unread s t owed) := by
  rw [unread_replaced hold]
  exact of_booked ht hpending (by simp)

theorem of_awaited {c : PreparedPlayoutCommand} (h : Booked s owed) (hs : s.pc.books = true)
    (hnone : s.pending = []) (hold : t.old = s.old)
    (hcurrent : t.current = { s.current with commands := s.current.commands ++ [c] })
    (ht : t.pc.books = false) (hinside : t.pc.betweenSteps = false) :
    Booked t (unread s t owed) := by
  rw [unread_handed hold hcurrent, h.owed_nil hs hnone]
  exact ⟨by simp [ht], by simp [hinside], fun _ _ _ _ ↦ ⟨c, rfl⟩⟩

theorem effect {aead : Aead} (hconnected : Connected s) (h : Booked s owed)
    (he : Effect aead s t) : Booked t (unread s t owed) := by
  cases he with
  | jump hs ht hm hr hp hq =>
    exact h.of_same (DriverPc.betweenSteps_of_calm hs) (DriverPc.books_of_calm hs)
      (congrArg Flow.old hm) (congrArg Flow.current hm) (congrArg Flow.pending hm)
      (congrArg Flow.generation hm) (DriverPc.books_of_calm ht)
  | @account r rest p pending pc hs hrecords hpending hmatch ht hr hq =>
    have hbooked := h.booked (DriverPc.books_of_calm hs)
    refine of_read rfl hrecords rfl (DriverPc.books_of_calm ht) ?_ fun c hc ↦ ?_
    · rw [List.map_drop, ← hbooked, hpending]
      rfl
    · exact h.live (DriverPc.betweenSteps_of_calm hs) c (List.mem_of_mem_drop hc)
  | accountDropped hs hdropped =>
    exact absurd (hconnected.linked (link_of_calm hs)).noDrops hdropped
  | @report r pc hs hq hpc =>
    have hflow : ((s.sendMetric (.senderSent r)).goto pc).flow =
      { s.flow with metrics := (s.sendMetric (.senderSent r)).metrics } := sendMetric_flow _
    have hsteps : s.pc.betweenSteps = true ∧ s.pc.books = true ∧ pc.books = true := by
      rcases hpc with ⟨hscalm, hcalm⟩ | ⟨site, sent, hspc, rfl⟩
      · exact ⟨DriverPc.betweenSteps_of_calm hscalm, DriverPc.books_of_calm hscalm,
          DriverPc.books_of_calm hcalm⟩
      · rw [hspc]
        exact ⟨rfl, rfl, rfl⟩
    exact h.of_same hsteps.1 hsteps.2.1 (congrArg Flow.old hflow) (congrArg Flow.current hflow)
      (congrArg Flow.pending hflow) (congrArg Flow.generation hflow) hsteps.2.2
  | invalidate hs | discard hs =>
    exact h.of_interrupted (by rw [hs]; rfl) rfl rfl rfl rfl rfl
  | replace hs =>
    exact of_replaced (by simp [replaceDeadlineSender, goto]) rfl rfl
  | flush hs =>
    exact h.of_none (by rw [hs]; rfl) (hconnected.replaced (by rw [hs]; rfl)).nonePending rfl rfl rfl rfl
  | @restore reason f frames hs =>
    have hflow : ((s.restoreLiveSourceFrame f).goto (.restore reason frames)).flow =
      { s.flow with queue := (s.restoreLiveSourceFrame f).source.queue } :=
      restoreLiveSourceFrame_flow f
    exact h.of_none (by rw [hs]; rfl) (hconnected.quiet (by rw [hs]; rfl)).1.nonePending
      (congrArg Flow.old hflow) (congrArg Flow.current hflow) (congrArg Flow.pending hflow) rfl
  | @restored reason hs =>
    have hnone : s.pending = [] := (hconnected.quiet (by rw [hs]; rfl)).1.nonePending
    have hbooks : s.pc.books = true := by rw [hs]; rfl
    cases reason with
    | pause site => exact h.of_none hbooks hnone rfl rfl rfl rfl
    | stop site =>
      cases site with
      | second => exact h.of_none hbooks hnone rfl rfl rfl rfl
      | _ => exact of_exited rfl
    | stale => exact of_exited rfl
    | dave route => exact h.of_none hbooks hnone rfl rfl rfl rfl
  | refill hs | refillRefused hs | prepareTrack hs =>
    exact h.of_same (by rw [hs]; rfl) (by rw [hs]; rfl) rfl rfl rfl rfl (by first | rfl | rw [hs]; rfl)
  | @refillRestore route next f hs =>
    have hflow : ((s.restoreLiveSourceFrame f).goto (afterRefill route next)).flow =
      { s.flow with queue := (s.restoreLiveSourceFrame f).source.queue } :=
      restoreLiveSourceFrame_flow f
    exact h.of_same (by rw [hs]; rfl) (by rw [hs]; rfl) (congrArg Flow.old hflow)
      (congrArg Flow.current hflow) (congrArg Flow.pending hflow) (congrArg Flow.generation hflow)
      (by cases next <;> rfl)
  | @pump route p prepared hs hprepared hstopped =>
    have hp : p.command.frame = some p.frame ∧ p.command.generation = s.generation :=
      (hconnected.linked (by rw [hs]; rfl)).prepared p (by simp [flow, hprepared])
    exact h.of_handed (by rw [hs]; rfl) (by rw [hs]; rfl) rfl rfl (by rw [pendingOf, hp.1]) rfl hp.2
      (by rw [hs]; rfl)
  | silence hs => exact h.of_handed (by rw [hs]; rfl) (by rw [hs]; rfl) rfl rfl rfl rfl rfl (by rw [hs]; rfl)
  | boundary hs =>
    exact h.of_awaited (by rw [hs]; rfl) (hconnected.quiet (by rw [hs]; rfl)).1.nonePending rfl rfl rfl rfl
  | @boundarySent site left sent r rest hs hrecords =>
    obtain ⟨c, rfl⟩ := h.awaited site left sent hs
    exact of_read rfl hrecords rfl rfl (hconnected.boundary (by rw [hs]; rfl)).1.nonePending (by simp)
  | boundaryReport hs =>
    exact h.of_none (by rw [hs]; rfl) (hconnected.quiet (by rw [hs]; rfl)).1.nonePending rfl rfl rfl rfl
  | @paused site hs =>
    exact h.of_none (by rw [hs]; rfl) (hconnected.quiet (by rw [hs]; rfl)).1.nonePending rfl rfl rfl
      (by cases site <;> rfl)
  | again hs => exact h.of_same (by rw [hs]; rfl) (by rw [hs]; rfl) rfl rfl rfl rfl rfl
  | invalidateAgain hs | discardAgain hs =>
    exact h.of_none (by rw [hs]; rfl) (hconnected.quiet (by rw [hs]; rfl)).1.nonePending rfl rfl rfl rfl
  | exit ht => exact of_exited ht

theorem congr (h : Booked s owed) (hpc : t.pc = s.pc) (hpending : t.pending = s.pending)
    (hgeneration : t.generation = s.generation) : Booked t owed where
  booked hb := hpending.trans (h.booked (hpc ▸ hb))
  live hb := hgeneration ▸ h.live (hpc ▸ hb)
  awaited site left sent hb := h.awaited site left sent (hpc ▸ hb)

theorem happens {aead : Aead} {action : Action} (hconnected : Connected s) (h : Booked s owed)
    (hstep : Happens aead s action t) :
    Booked t (owedAfter s t owed action) := by
  cases hstep with
  | driver he => exact h.effect hconnected he
  | sender hmove => exact h.congr rfl rfl rfl
  | oldSender hget hmove => exact h.congr rfl rfl rfl
  | produced pushed hpc hpaused hflow =>
    exact h.congr hpc (congrArg Flow.pending hflow) (congrArg Flow.generation hflow)
  | metric =>
    have hflow := sendMetric_flow (s := s) .other
    exact h.congr (sendMetric_pc _) (congrArg Flow.pending hflow) (congrArg Flow.generation hflow)
  | @consumed m metrics hmetrics =>
    have hflow := consumeMetric_flow (s := { s with metrics }) m
    exact h.congr (consumeMetric_pc _) (congrArg Flow.pending hflow)
      (congrArg Flow.generation hflow)
  | apart ha hpc hpaused hflow =>
    have hkept := h.congr hpc (congrArg Flow.pending hflow) (congrArg Flow.generation hflow)
    cases action with
    | driver answer => exact absurd rfl (ha answer)
    | _ => exact hkept

end Booked

theorem booked_of_exec {aead : Aead} {playbackEpoch position : ℕ} {preparer : VoicePacketPreparer}
    {source : SourceBufferState} {actions : List Action} {w : Watched}
    (h : exec (Watched.step aead) ⟨.start playbackEpoch preparer source position, []⟩ actions =
      some w) : Connected w.state ∧ Booked w.state w.owed := by
  refine exec_invariant (I := fun w ↦ Connected w.state ∧ Booked w.state w.owed) ?_
    ⟨.start playbackEpoch preparer source position, ?_⟩ h
  · rintro w action w' ⟨hconnected, hbooked⟩ hstep
    obtain ⟨t, ht, rfl⟩ := Option.map_eq_some_iff.mp hstep
    have hhappens := step_happens ht
    exact ⟨hconnected.happens hhappens, hbooked.happens hconnected hhappens⟩
  · exact .of_booked rfl rfl (by simp)

/-- The first record of a sender is the one of the command its driver has pending longest. -/
theorem Aligned.first_record {m : Flow} (h : Aligned m) {r : DeadlineSendRecord}
    {rest : List DeadlineSendRecord} (hrecords : m.current.sendRecords = r :: rest) :
    ∃ p pending, m.pending = p :: pending ∧ p.matchesSentRecord r = true := by
  obtain ⟨sent, unsent, hsent, hlist, -⟩ := h.inOrder
  rcases sent with _ | ⟨c, sent⟩
  · simp [hrecords] at hsent
  · rw [hrecords, List.map_cons, List.cons.injEq] at hsent
    refine ⟨pendingOf c, _, hlist, ?_⟩
    rw [hsent.1, PendingDeadlineCommand.matchesSentRecord, decide_eq_true_eq]
    rfl

/-- In every run the driver has pending exactly the commands its sender owes a record for, all of
the current generation, so that every record it reads is the one of the first of them, and no
record of a dropped command ever reaches it. -/
theorem pending_matches_unread {aead : Aead} {playbackEpoch position : ℕ}
    {preparer : VoicePacketPreparer} {source : SourceBufferState} {actions : List Action}
    {s : MediaState} {owed : List PreparedPlayoutCommand}
    (h : exec (Watched.step aead) ⟨.start playbackEpoch preparer source position, []⟩ actions =
      some ⟨s, owed⟩) :
    (s.pc.books = true → s.pending = owed.map pendingOf) ∧
    (s.pc.betweenSteps = true → ∀ p ∈ s.pending, p.generation = s.generation) ∧
    (s.pc.accounts = true → s.current.dropRecords = [] ∧
      ∀ r rest, s.current.sendRecords = r :: rest →
        ∃ p pending, s.pending = p :: pending ∧ p.matchesSentRecord r = true) ∧
    ∀ site left sent, s.pc = .boundaryWait site left sent →
      s.pending = [] ∧ s.current.dropRecords = [] ∧ ∃ c, owed = [c] := by
  obtain ⟨hconnected, hbooked⟩ := booked_of_exec h
  refine ⟨hbooked.booked, ?_, ?_, ?_⟩
  · intro hbetween p hp
    have hbooks : s.pc.books = true := by
      cases hpc : s.pc <;> rw [hpc] at hbetween <;> first | rfl | cases hbetween
    rw [hbooked.booked hbooks, List.mem_map] at hp
    obtain ⟨c, hc, rfl⟩ := hp
    exact hbooked.live hbetween c hc
  · intro haccounts
    have haligned := hconnected.linked (link_of_calm (DriverPc.calm_of_accounts haccounts))
    exact ⟨haligned.noDrops, fun r rest hrecords ↦ haligned.first_record hrecords⟩
  · intro site left sent hpc
    have hboundary := (hconnected.boundary (by rw [hpc]; rfl)).1
    exact ⟨hboundary.nonePending, hboundary.noDrops, hbooked.awaited site left sent hpc⟩

/-- One frame is out and its record unread, with the driver at the point of reading it. -/
theorem pending_matches_unread_frame :
    ∃ s owed, exec (Watched.step plainAead) ⟨plainStart [plainFrame 0] false, []⟩
        (oneFrameRound ++ senderSteps 9) = some ⟨s, owed⟩ ∧
      s.pc.accounts = true ∧ s.current.sendRecords.length = 1 ∧
      s.pending = owed.map pendingOf ∧ s.current.dropRecords = [] ∧
      ∀ r rest, s.current.sendRecords = r :: rest →
        ∃ p pending, s.pending = p :: pending ∧ p.matchesSentRecord r = true := by
  have hends : (exec (Watched.step plainAead) ⟨plainStart [plainFrame 0] false, []⟩
      (oneFrameRound ++ senderSteps 9)).map
        (fun w ↦ (w.state.pc, w.state.current.sendRecords.length)) = some (.select, 1) := by
    decide +kernel
  obtain ⟨⟨s, owed⟩, hs, hend⟩ := Option.map_eq_some_iff.mp hends
  obtain ⟨hpc, hlength⟩ := Prod.mk.inj hend
  have haccounts : s.pc.accounts = true := by
    rw [show s.pc = .select from hpc]
    rfl
  have hbooks : s.pc.books = true := by
    rw [show s.pc = .select from hpc]
    rfl
  obtain ⟨hbooked, -, hread, -⟩ := pending_matches_unread hs
  exact ⟨s, owed, hs, haccounts, hlength, hbooked hbooks, hread haccounts⟩

end DiscordVoice.Media
