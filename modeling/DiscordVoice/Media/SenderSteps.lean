import DiscordVoice.Media.TimedSender
import DiscordVoice.Schedule

namespace DiscordVoice.Media.Timed

open Voice Schedule

/-- The thread of a deadline sender on its wire, one step for each answer of the socket. -/
def threadStep (generation : ℕ) (x : Media.DeadlineSender × Wire) (socketOk : Bool) :
    Option (Media.DeadlineSender × Wire) :=
  x.1.step generation socketOk x.2

namespace DeadlineSender

/-- The thread stands before a pass and has the commands of the timed sender. Of the records the
driver may have read the first ones. -/
structure Untimed (d : DeadlineSender) (m : Media.DeadlineSender) : Prop where
  pc : m.pc = .looping
  dropped : m.dropped = false
  commands : m.commands = d.commands
  sendRecords : m.sendRecords <:+ d.sendRecords.map (·.toDeadlineSendRecord)
  dropRecords : m.dropRecords <:+ d.dropRecords

/-- The sink and the channels of a pass do as the wire, the socket and the channels of the thread. -/
structure Meets (d : DeadlineSender) (p : Pass) (m : Media.DeadlineSender) (w : Wire)
    (socketOk : Bool) : Prop where
  connected : p.disconnected = false
  answered : ∀ c ∈ d.taken p, c.isLive = true → (p.sinkAnswer = .ok () ↔
    w.sendSequence = packRtpCursor c.command.cursor ∧ socketOk = true)
  refused : ∀ c ∈ d.taken p, (p.recordRefused = true ↔ liveDeadlineRecordChannelCapacity ≤
    if c.isLive then m.sendRecords.length else m.dropRecords.length)

variable {d : DeadlineSender} {p : Pass} {m : Media.DeadlineSender} {w : Wire} {socketOk : Bool}

theorem Untimed.exec_take (h : Untimed d m) {command : PreparedPlayoutCommand}
    {rest : List PreparedPlayoutCommand} (hcommands : d.commands ++ p.arrived = command :: rest)
    (n : ℕ) :
    exec (threadStep p.generation) ({ m with commands := m.commands ++ p.arrived }, w)
        (List.replicate (n + 2) socketOk) =
      exec (threadStep p.generation) ({ m with commands := rest, pc := .taken command }, w)
        (List.replicate n socketOk) := by
  have hthread : m.commands ++ p.arrived = command :: rest := by rw [h.commands, hcommands]
  simp only [List.replicate_succ, exec, threadStep, Media.DeadlineSender.step, h.pc, h.dropped,
    hthread, Bool.false_eq_true, if_false, Option.bind_some]

theorem mem_taken {command : PreparedPlayoutCommand} {rest : List PreparedPlayoutCommand}
    (hcommands : d.commands ++ p.arrived = command :: rest) :
    ⟨command, p.generation⟩ ∈ d.taken p := by
  rw [taken_cons hcommands]
  exact List.mem_singleton_self _

theorem exec_stale {generation : ℕ} {command : PreparedPlayoutCommand}
    (hpc : m.pc = .taken command) (hstale : command.generation ≠ generation) :
    exec (threadStep generation) (m, w) (List.replicate 1 socketOk) =
      some (m.emitDrop command, w) := by
  simp only [List.replicate, exec, threadStep, Media.DeadlineSender.step, hpc, if_pos hstale,
    Option.bind_some]

theorem compared_iff {command : PreparedPlayoutCommand} :
    (command.packet.rtpSequence ≠ (unpackRtpCursor w.sendSequence).sequence ∨
      command.packet.rtpTimestamp ≠ (unpackRtpCursor w.sendSequence).timestamp) ↔
    unpackRtpCursor w.sendSequence ≠ command.cursor := by
  rw [← not_and_or, not_iff_not]
  constructor
  · rintro ⟨hsequence, htimestamp⟩
    rw [PreparedPlayoutCommand.cursor, PreparedVoicePacket.cursor, hsequence, htimestamp]
  · intro hcursor
    rw [hcursor]
    exact ⟨rfl, rfl⟩

theorem exec_sent {command : PreparedPlayoutCommand} (hpc : m.pc = .taken command)
    (hcursor : w.sendSequence = packRtpCursor command.cursor) :
    exec (threadStep command.generation) (m, w) (List.replicate 5 true) =
      some ({ m with pc := .advanced command }.emitSent command,
        ⟨packRtpCursor command.next, w.sent ++ [command]⟩) := by
  have hunpacked : unpackRtpCursor w.sendSequence = command.cursor := by
    rw [hcursor, unpackRtpCursor_packRtpCursor]
  have hsame : ¬(command.packet.rtpSequence ≠ (unpackRtpCursor w.sendSequence).sequence ∨
      command.packet.rtpTimestamp ≠ (unpackRtpCursor w.sendSequence).timestamp) := by
    rw [compared_iff, not_not]
    exact hunpacked
  simp only [List.replicate, exec, threadStep, Media.DeadlineSender.step, hpc, ne_eq,
    not_true_eq_false, if_false, if_neg hsame, if_pos hcursor, if_true, Option.bind_some]

theorem exec_unsent {command : PreparedPlayoutCommand} (hpc : m.pc = .taken command)
    (hunsent : ¬(w.sendSequence = packRtpCursor command.cursor ∧ socketOk = true)) :
    ∃ n m' w', exec (threadStep command.generation) (m, w) (List.replicate n socketOk) =
      some (m', w') ∧ m'.isStopped = true := by
  by_cases hsame : command.packet.rtpSequence ≠ (unpackRtpCursor w.sendSequence).sequence ∨
      command.packet.rtpTimestamp ≠ (unpackRtpCursor w.sendSequence).timestamp
  · refine ⟨2, m.stop .cursorNotNextSend, w, ?_, rfl⟩
    simp only [List.replicate, exec, threadStep, Media.DeadlineSender.step, hpc, ne_eq,
      not_true_eq_false, if_false, if_pos hsame, Option.bind_some]
    rfl
  · cases socketOk with
    | false =>
      refine ⟨3, m.stop .socketFailed, w, ?_, rfl⟩
      simp only [List.replicate, exec, threadStep, Media.DeadlineSender.step, hpc, ne_eq,
        not_true_eq_false, if_false, if_neg hsame, Bool.false_eq_true, Option.bind_some]
      rfl
    | true =>
      have hcursor : w.sendSequence ≠ packRtpCursor command.cursor := fun h ↦ hunsent ⟨h, rfl⟩
      refine ⟨4, m.stop (.cursorAdvancedConcurrently command), { w with sent := w.sent ++ [command] },
        ?_, rfl⟩
      simp only [List.replicate, exec, threadStep, Media.DeadlineSender.step, hpc, ne_eq,
        not_true_eq_false, if_false, if_neg hsame, if_neg hcursor, if_true, Option.bind_some]
      rfl

theorem exec_idle {generation : ℕ} (hpc : m.pc = .looping) (hdropped : m.dropped = false)
    (hcommands : m.commands = []) :
    exec (threadStep generation) (m, w) (List.replicate 2 socketOk) = some (m, w) := by
  obtain ⟨commands, sendRecords, dropRecords, dropped, pc⟩ := m
  subst hpc hdropped hcommands
  rfl

def Comes (d : DeadlineSender) (p : Pass) (w : Wire) (m' : Media.DeadlineSender) (w' : Wire) :
    Except SenderError Unit × DeadlineSender → Prop
  | (.ok (), after) => Untimed after m' ∧
      w'.sent = w.sent ++ ((d.taken p).filter (·.isLive)).map (·.command)
  | (.error _, _) => m'.isStopped = true

theorem comes_idle (h : Untimed d m) (hmeets : Meets d p m w socketOk)
    (hnone : d.commands ++ p.arrived = []) :
    ∃ n m' w', exec (threadStep p.generation) ({ m with commands := m.commands ++ p.arrived }, w)
      (List.replicate n socketOk) = some (m', w') ∧ Comes d p w m' w' (d.tickOnce p) := by
  obtain ⟨deadline, now, hawait, -⟩ := awaitDeadline_eq d p
  obtain ⟨hcommands, harrived⟩ := List.append_eq_nil_iff.mp hnone
  have hthread : m.commands ++ p.arrived = [] := by rw [h.commands, hnone]
  refine ⟨2, _, w, exec_idle h.pc h.dropped hthread, ?_⟩
  simp only [tickOnce, hawait, hnone, hmeets.connected, Bool.false_eq_true, if_false, Comes,
    taken_nil hnone, List.filter_nil, List.map_nil, List.append_nil, and_true]
  exact ⟨h.pc, h.dropped, hthread.trans hcommands.symm, h.sendRecords, h.dropRecords⟩

theorem comes_stale {command : PreparedPlayoutCommand} {rest : List PreparedPlayoutCommand}
    (h : Untimed d m) (hmeets : Meets d p m w socketOk)
    (hcommands : d.commands ++ p.arrived = command :: rest)
    (hstale : command.generation ≠ p.generation) :
    ∃ n m' w', exec (threadStep p.generation) ({ m with commands := m.commands ++ p.arrived }, w)
      (List.replicate n socketOk) = some (m', w') ∧ Comes d p w m' w' (d.tickOnce p) := by
  obtain ⟨deadline, now, hawait, -⟩ := awaitDeadline_eq d p
  have hrefused := hmeets.refused _ (mem_taken hcommands)
  rw [isLive_of_ne hstale, if_neg Bool.false_ne_true] at hrefused
  refine ⟨3, _, w, (h.exec_take hcommands 1).trans (exec_stale rfl hstale), ?_⟩
  simp only [tickOnce, hawait, hcommands, if_pos hstale, Media.DeadlineSender.emitDrop, h.dropped,
    Bool.false_eq_true, false_or]
  by_cases hfull : liveDeadlineRecordChannelCapacity ≤ m.dropRecords.length
  · rw [if_pos hfull, if_pos (hrefused.mpr hfull)]
    rfl
  · rw [if_neg hfull, if_neg (mt hrefused.mp hfull)]
    refine ⟨⟨rfl, rfl, rfl, h.sendRecords, ?_⟩, ?_⟩
    · exact List.suffix_concat_iff.mpr (.inr ⟨_, rfl, h.dropRecords⟩)
    · rw [taken_cons hcommands, List.filter_cons_of_neg (by
        rw [isLive_of_ne hstale]
        exact Bool.false_ne_true)]
      exact (List.append_nil _).symm

theorem comes_live {command : PreparedPlayoutCommand} {rest : List PreparedPlayoutCommand}
    (h : Untimed d m) (hmeets : Meets d p m w socketOk)
    (hcommands : d.commands ++ p.arrived = command :: rest)
    (hlive : command.generation = p.generation) :
    ∃ n m' w', exec (threadStep p.generation) ({ m with commands := m.commands ++ p.arrived }, w)
      (List.replicate n socketOk) = some (m', w') ∧ Comes d p w m' w' (d.tickOnce p) := by
  obtain ⟨deadline, now, hawait, -⟩ := awaitDeadline_eq d p
  have hanswered := hmeets.answered _ (mem_taken hcommands) (isLive_of_eq hlive)
  have hrefused := hmeets.refused _ (mem_taken hcommands)
  rw [isLive_of_eq hlive, if_pos rfl] at hrefused
  simp only [tickOnce, hawait, hcommands, if_neg (not_not.mpr hlive), send]
  by_cases hsent : w.sendSequence = packRtpCursor command.cursor ∧ socketOk = true
  · have hanswer : p.sinkAnswer = .ok () := hanswered.mpr hsent
    obtain ⟨hcursor, rfl⟩ := hsent
    refine ⟨7, _, _, (h.exec_take hcommands 5).trans (hlive ▸ exec_sent rfl hcursor), ?_⟩
    simp only [hanswer, Media.DeadlineSender.emitSent, h.dropped, Bool.false_eq_true, false_or]
    by_cases hfull : liveDeadlineRecordChannelCapacity ≤ m.sendRecords.length
    · rw [if_pos hfull, if_pos (hrefused.mpr hfull)]
      rfl
    · rw [if_neg hfull, if_neg (mt hrefused.mp hfull)]
      refine ⟨⟨rfl, rfl, rfl, ?_, h.dropRecords⟩, ?_⟩
      · rw [List.map_append]
        exact List.suffix_concat_iff.mpr (.inr ⟨_, rfl, h.sendRecords⟩)
      · rw [taken_cons hcommands, List.filter_cons_of_pos (isLive_of_eq hlive)]
        rfl
  · obtain ⟨n, m', w', hexec, hstopped⟩ := exec_unsent (m := { m with
      commands := rest, pc := .taken command }) rfl hsent
    refine ⟨n + 2, m', w', (h.exec_take hcommands n).trans (hlive ▸ hexec), ?_⟩
    cases hanswer : p.sinkAnswer with
    | error e => exact hstopped
    | ok => exact absurd (hanswered.mp hanswer) hsent

/-- A pass of the timed sender is a run of steps of the thread, however long each of them takes. -/
theorem tickOnce_steps (h : Untimed d m) (hmeets : Meets d p m w socketOk) :
    ∃ n m' w', exec (threadStep p.generation) ({ m with commands := m.commands ++ p.arrived }, w)
      (List.replicate n socketOk) = some (m', w') ∧ Comes d p w m' w' (d.tickOnce p) := by
  cases hcommands : d.commands ++ p.arrived with
  | nil => exact comes_idle h hmeets hcommands
  | cons command rest =>
    by_cases hlive : command.generation = p.generation
    · exact comes_live h hmeets hcommands hlive
    · exact comes_stale h hmeets hcommands hlive

end DeadlineSender

end DiscordVoice.Media.Timed
