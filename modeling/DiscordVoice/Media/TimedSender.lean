import Mathlib.Data.List.Basic
import Mathlib.Data.List.Chain
import DiscordVoice.Media.DeadlineSender
import DiscordVoice.Playback.WebmDemux

namespace DiscordVoice.Media.Timed

open Voice Playback

/-- Twenty milliseconds. The clock and what passes on it are in nanoseconds. -/
def deadlineTick : ℕ := 20000000

def packetSendInterval (packet : PreparedVoicePacket) : ℕ :=
  max (durationFromSamples packet.durationSamples.toNat) 1000000

inductive SenderError
  | sink (error : String)
  | invalidState (message : String)
  deriving DecidableEq, Repr

structure DeadlineSendRecord extends Media.DeadlineSendRecord where
  expectedDeadline : ℕ
  sendStartedAt : ℕ
  sentAt : ℕ
  deriving DecidableEq, Repr

structure DeadlineSenderMetrics where
  sent : List DeadlineSendRecord
  emptyTickCount : ℕ
  deriving DecidableEq, Repr

namespace DeadlineSenderMetrics

def recordSent (m : DeadlineSenderMetrics) (expectedDeadline sendStartedAt sentAt : ℕ)
    (command : PreparedPlayoutCommand) : DeadlineSendRecord × DeadlineSenderMetrics :=
  let record := ⟨command.sendRecord, expectedDeadline, sendStartedAt, sentAt⟩
  (record, { m with sent := m.sent ++ [record] })

def recordEmptyTick (m : DeadlineSenderMetrics) : DeadlineSenderMetrics :=
  { m with emptyTickCount := saturatingAdd m.emptyTickCount 1 }

end DeadlineSenderMetrics

/-- A call of the sink: when it is made and when it returns. -/
structure Sending where
  packet : PreparedVoicePacket
  startedAt : ℕ
  finishedAt : ℕ
  deriving DecidableEq, Repr

/-- The sender as `new_with_next_deadline_records_and_generation` makes it, with the calls its sink
had, all that it put into the channels for its records, and the time. -/
structure DeadlineSender where
  sink : List Sending
  commands : List PreparedPlayoutCommand
  sendRecords : List DeadlineSendRecord
  dropRecords : List DeadlineDropRecord
  shutdown : Bool
  metrics : DeadlineSenderMetrics
  tick : ℕ
  nextDeadline : Option ℕ
  now : ℕ
  deriving DecidableEq, Repr

/-- What a pass of the loop meets: what passes between two readings of the clock, and what the other
threads and the socket did by the time it looks. -/
structure Pass where
  shutdown : Bool
  untilStart : ℕ
  untilCompared : ℕ
  oversleep : ℕ
  arrived : List PreparedPlayoutCommand
  disconnected : Bool
  generation : ℕ
  untilDecided : ℕ
  latency : ℕ
  sinkAnswer : Except String Unit
  recordRefused : Bool

/-- A command that was taken, and the generation that was active when it was. -/
structure Consumed where
  command : PreparedPlayoutCommand
  activeGeneration : ℕ
  deriving DecidableEq, Repr

def Consumed.isLive (c : Consumed) : Bool := c.command.generation = c.activeGeneration

namespace DeadlineSender

def newWithNextDeadlineRecordsAndGeneration (nextDeadline now : ℕ) : DeadlineSender :=
  ⟨[], [], [], [], false, ⟨[], 0⟩, deadlineTick, some nextDeadline, now⟩

/-- The clock is read again after so long. -/
def wait (d : DeadlineSender) (duration : ℕ) : DeadlineSender := { d with now := d.now + duration }

/-- `sleep_until_precise` returns at the deadline or after it. -/
def sleepUntilPrecise (d : DeadlineSender) (deadline : ℕ) (oversleep : ℕ) :
    DeadlineSender :=
  { d with now := max d.now deadline + oversleep }

/-- `tick_once` up to its deadline. -/
def awaitDeadline (d : DeadlineSender) (p : Pass) : ℕ × DeadlineSender :=
  let (expectedDeadline, d) := match d.nextDeadline with
    | some deadline => (deadline, { d with nextDeadline := none })
    | none =>
      let d := d.wait p.untilStart
      (d.now + d.tick, d)
  let d := d.wait p.untilCompared
  (expectedDeadline,
    if expectedDeadline > d.now then d.sleepUntilPrecise expectedDeadline p.oversleep else d)

/-- The next deadline of a pass that sends nothing. -/
def skip (d : DeadlineSender) (p : Pass) : DeadlineSender :=
  let d := d.wait p.untilDecided
  { d with nextDeadline := some (d.now + d.tick) }

/-- `tick_once` with a command of the active generation. -/
def send (d : DeadlineSender) (p : Pass) (expectedDeadline : ℕ)
    (command : PreparedPlayoutCommand) : Except SenderError Unit × DeadlineSender :=
  let d := d.wait p.untilDecided
  let sendStartedAt := d.now
  let d := d.wait p.latency
  let sentAt := d.now
  let d := { d with sink := d.sink ++ [⟨command.packet, sendStartedAt, sentAt⟩] }
  match p.sinkAnswer with
  | .error e => (.error (.sink e), d)
  | .ok () =>
    let sendInterval := packetSendInterval command.packet
    let idealNextDeadline := sendStartedAt + sendInterval
    let nextDeadline :=
      if sentAt ≥ idealNextDeadline then sentAt + sendInterval else idealNextDeadline
    let (record, metrics) := d.metrics.recordSent expectedDeadline sendStartedAt sentAt command
    let d := { d with nextDeadline := some nextDeadline, metrics }
    if p.recordRefused then
      (.error (.invalidState "deadline send record channel unavailable"), d)
    else (.ok (), { d with sendRecords := d.sendRecords ++ [record] })

def tickOnce (d : DeadlineSender) (p : Pass) : Except SenderError Unit × DeadlineSender :=
  let (expectedDeadline, d) := d.awaitDeadline p
  match d.commands ++ p.arrived with
  | [] =>
    if p.disconnected then (.ok (), { d with shutdown := true })
    else (.ok (), { d with metrics := d.metrics.recordEmptyTick }.skip p)
  | command :: rest =>
    let d := { d with commands := rest }
    if command.generation ≠ p.generation then
      if p.recordRefused then
        (.error (.invalidState "deadline drop record channel unavailable"), d)
      else (.ok (), { d with dropRecords := d.dropRecords ++ [command.dropRecord] }.skip p)
    else d.send p expectedDeadline command

/-- The shutdown flag as the loop reads it. -/
def raised (d : DeadlineSender) (shutdown : Bool) : DeadlineSender :=
  { d with shutdown := d.shutdown || shutdown }

/-- `run`, as far as the passes go. -/
def run (d : DeadlineSender) : List Pass → Except SenderError Unit × DeadlineSender
  | [] => (.ok (), d)
  | p :: passes =>
    let d := d.raised p.shutdown
    if d.shutdown then (.ok (), d)
    else
      match d.tickOnce p with
      | (.error e, d) => (.error e, d)
      | (.ok (), d) => d.run passes

def taken (d : DeadlineSender) (p : Pass) : List Consumed :=
  (d.commands ++ p.arrived).head?.toList.map fun command ↦ ⟨command, p.generation⟩

def consumed (d : DeadlineSender) : List Pass → List Consumed
  | [] => []
  | p :: passes =>
    let d := d.raised p.shutdown
    if d.shutdown then []
    else
      match d.tickOnce p with
      | (.error _, _) => d.taken p
      | (.ok (), after) => d.taken p ++ after.consumed passes

end DeadlineSender

def Sending.free (s : Sending) : ℕ :=
  if s.finishedAt ≥ s.startedAt + packetSendInterval s.packet then
    s.finishedAt + packetSendInterval s.packet
  else s.startedAt + packetSendInterval s.packet

/-- A send starts a whole interval after the one before it started, and after it finished where it
took longer than that. -/
def Spaced (s next : Sending) : Prop :=
  s.startedAt + packetSendInterval s.packet ≤ next.startedAt ∧
    (s.startedAt + packetSendInterval s.packet ≤ s.finishedAt →
      s.finishedAt + packetSendInterval s.packet ≤ next.startedAt)

theorem spaced_of_free {s next : Sending} (h : s.free ≤ next.startedAt) : Spaced s next := by
  unfold Sending.free at h
  unfold Spaced
  split_ifs at h with hover
  · exact ⟨by omega, fun _ ↦ h⟩
  · exact ⟨h, fun hlate ↦ absurd hlate hover⟩

namespace DeadlineSender

variable {d after : DeadlineSender} {p : Pass} {result : Except SenderError Unit}

def earliest (d : DeadlineSender) : ℕ := max d.now (d.nextDeadline.getD 0)

theorem now_le_earliest (d : DeadlineSender) : d.now ≤ d.earliest := le_max_left _ _

theorem deadline_le_earliest {deadline : ℕ} (h : d.nextDeadline = some deadline) :
    deadline ≤ d.earliest := by
  rw [earliest, h, Option.getD_some]
  exact le_max_right _ _

/-- What a pass can be. -/
inductive Move (d : DeadlineSender) (p : Pass) : Except SenderError Unit → DeadlineSender → Prop
  | idle {shutdown metrics nextDeadline now} (hcommands : d.commands ++ p.arrived = [])
      (hnow : d.earliest ≤ now) :
      Move d p (.ok ()) { d with shutdown, metrics, nextDeadline, now }
  | dropped {command rest nextDeadline now} (hcommands : d.commands ++ p.arrived = command :: rest)
      (hstale : command.generation ≠ p.generation) (hnow : d.earliest ≤ now) :
      Move d p (.ok ()) { d with
        commands := rest, dropRecords := d.dropRecords ++ [command.dropRecord], nextDeadline, now }
  | dropRefused {command rest error now} (hcommands : d.commands ++ p.arrived = command :: rest)
      (hstale : command.generation ≠ p.generation) :
      Move d p (.error error) { d with commands := rest, nextDeadline := none, now }
  | sent {command rest metrics startedAt finishedAt} {record : DeadlineSendRecord}
      (hcommands : d.commands ++ p.arrived = command :: rest)
      (hlive : command.generation = p.generation) (hstart : d.earliest ≤ startedAt)
      (hfinish : startedAt ≤ finishedAt) (hrecord : record.toDeadlineSendRecord = command.sendRecord) :
      Move d p (.ok ()) { d with
        commands := rest
        sink := d.sink ++ [⟨command.packet, startedAt, finishedAt⟩]
        metrics
        sendRecords := d.sendRecords ++ [record]
        nextDeadline := some (Sending.free ⟨command.packet, startedAt, finishedAt⟩)
        now := finishedAt }
  | sendFailed {command rest error metrics nextDeadline startedAt finishedAt}
      (hcommands : d.commands ++ p.arrived = command :: rest)
      (hlive : command.generation = p.generation) (hstart : d.earliest ≤ startedAt) :
      Move d p (.error error) { d with
        commands := rest
        sink := d.sink ++ [⟨command.packet, startedAt, finishedAt⟩]
        metrics, nextDeadline
        now := finishedAt }

theorem sleep_eq (d : DeadlineSender) (deadline oversleep : ℕ) :
    ∃ now, (if deadline > d.now then d.sleepUntilPrecise deadline oversleep else d) = { d with now } ∧
      max d.now deadline ≤ now := by
  by_cases hahead : deadline > d.now
  · rw [if_pos hahead]
    exact ⟨max d.now deadline + oversleep, rfl, Nat.le_add_right _ _⟩
  · rw [if_neg hahead]
    exact ⟨d.now, rfl, max_le le_rfl (not_lt.mp hahead)⟩

theorem awaitDeadline_eq (d : DeadlineSender) (p : Pass) :
    ∃ deadline now, d.awaitDeadline p = (deadline, { d with nextDeadline := none, now }) ∧
      d.earliest ≤ now := by
  obtain ⟨sink, commands, sendRecords, dropRecords, shutdown, metrics, tick, nextDeadline, now⟩ := d
  cases nextDeadline with
  | none =>
    obtain ⟨later, hsleep, hlater⟩ := sleep_eq ⟨sink, commands, sendRecords, dropRecords, shutdown,
      metrics, tick, none, now + p.untilStart + p.untilCompared⟩ (now + p.untilStart + tick) p.oversleep
    refine ⟨now + p.untilStart + tick, later, ?_, ?_⟩
    · exact congrArg (Prod.mk (now + p.untilStart + tick)) hsleep
    · simp only [earliest, Option.getD_none] at hlater ⊢
      omega
  | some deadline =>
    obtain ⟨later, hsleep, hlater⟩ := sleep_eq ⟨sink, commands, sendRecords, dropRecords, shutdown,
      metrics, tick, none, now + p.untilCompared⟩ deadline p.oversleep
    refine ⟨deadline, later, ?_, ?_⟩
    · exact congrArg (Prod.mk deadline) hsleep
    · simp only [earliest, Option.getD_some] at hlater ⊢
      omega

theorem send_move {expectedDeadline now : ℕ} {command : PreparedPlayoutCommand}
    {rest : List PreparedPlayoutCommand} (hcommands : d.commands ++ p.arrived = command :: rest)
    (hlive : command.generation = p.generation) (hnow : d.earliest ≤ now) :
    Move d p (send { d with commands := rest, nextDeadline := none, now } p expectedDeadline command).1
      (send { d with commands := rest, nextDeadline := none, now } p expectedDeadline command).2 := by
  have hstart : d.earliest ≤ now + p.untilDecided := hnow.trans (Nat.le_add_right _ _)
  simp only [send, wait, DeadlineSenderMetrics.recordSent]
  cases p.sinkAnswer with
  | error e => exact .sendFailed hcommands hlive hstart
  | ok =>
    cases p.recordRefused with
    | true => exact .sendFailed hcommands hlive hstart
    | false => exact .sent hcommands hlive hstart (Nat.le_add_right _ p.latency) rfl

theorem tickOnce_move (d : DeadlineSender) (p : Pass) : Move d p (d.tickOnce p).1 (d.tickOnce p).2 := by
  obtain ⟨deadline, now, hawait, hnow⟩ := awaitDeadline_eq d p
  have hlater : d.earliest ≤ now + p.untilDecided := hnow.trans (Nat.le_add_right _ _)
  simp only [tickOnce, hawait]
  cases hcommands : d.commands ++ p.arrived with
  | nil =>
    simp only
    split_ifs
    · exact .idle hcommands hnow
    · exact .idle hcommands hlater
  | cons command rest =>
    simp only
    split_ifs with hgeneration hrefused
    · exact .dropRefused hcommands hgeneration
    · exact .dropped hcommands hgeneration hlater
    · exact send_move hcommands (not_not.mp hgeneration) hnow

/-- The sends so far are spaced, and the next one will be. -/
structure Paced (d : DeadlineSender) : Prop where
  spaced : d.sink.IsChain Spaced
  free : ∀ s ∈ d.sink.getLast?, s.free ≤ d.earliest

theorem Paced.append (h : Paced d) {s : Sending} (hstart : d.earliest ≤ s.startedAt) :
    (d.sink ++ [s]).IsChain Spaced := by
  rw [List.isChain_append]
  refine ⟨h.spaced, .singleton s, ?_⟩
  intro last hlast next hnext
  cases hnext
  exact spaced_of_free ((h.free last hlast).trans hstart)

theorem Move.spaced (h : Move d p result after) (hd : Paced d) : after.sink.IsChain Spaced := by
  cases h with
  | idle => exact hd.spaced
  | dropped => exact hd.spaced
  | dropRefused => exact hd.spaced
  | sent _ _ hstart => exact hd.append hstart
  | sendFailed _ _ hstart => exact hd.append hstart

theorem Paced.later (hd : Paced d) (hsink : after.sink = d.sink) (hnow : d.earliest ≤ after.now) :
    Paced after where
  spaced := hsink ▸ hd.spaced
  free := by
    rw [hsink]
    exact fun s hs ↦ (hd.free s hs).trans (hnow.trans (now_le_earliest after))

theorem Move.paced (h : Move d p (.ok ()) after) (hd : Paced d) : Paced after := by
  have hspaced := h.spaced hd
  cases h with
  | idle _ hnow => exact hd.later rfl hnow
  | dropped _ _ hnow => exact hd.later rfl hnow
  | sent =>
    refine ⟨hspaced, ?_⟩
    intro s hs
    rw [List.getLast?_concat, Option.mem_some_iff] at hs
    subst hs
    exact deadline_le_earliest rfl

theorem run_stopped {passes : List Pass} (h : (d.raised p.shutdown).shutdown = true) :
    d.run (p :: passes) = (.ok (), d.raised p.shutdown) ∧ d.consumed (p :: passes) = [] := by
  rw [run, consumed, if_pos h, if_pos h]
  exact ⟨rfl, rfl⟩

theorem run_failed {passes : List Pass} {e : SenderError} (h : (d.raised p.shutdown).shutdown ≠ true)
    (htick : (d.raised p.shutdown).tickOnce p = (.error e, after)) :
    d.run (p :: passes) = (.error e, after) ∧
      d.consumed (p :: passes) = (d.raised p.shutdown).taken p := by
  rw [run, consumed, if_neg h, if_neg h, htick]
  exact ⟨rfl, rfl⟩

theorem run_goes_on {passes : List Pass} (h : (d.raised p.shutdown).shutdown ≠ true)
    (htick : (d.raised p.shutdown).tickOnce p = (.ok (), after)) :
    d.run (p :: passes) = after.run passes ∧
      d.consumed (p :: passes) = (d.raised p.shutdown).taken p ++ after.consumed passes := by
  rw [run, consumed, if_neg h, if_neg h, htick]
  exact ⟨rfl, rfl⟩

theorem pass_cases (d : DeadlineSender) (p : Pass) :
    (d.raised p.shutdown).shutdown = true ∨ (d.raised p.shutdown).shutdown ≠ true ∧
      ((∃ e after, (d.raised p.shutdown).tickOnce p = (.error e, after) ∧
          Move (d.raised p.shutdown) p (.error e) after) ∨
        ∃ after, (d.raised p.shutdown).tickOnce p = (.ok (), after) ∧
          Move (d.raised p.shutdown) p (.ok ()) after) := by
  have hmove := tickOnce_move (d.raised p.shutdown) p
  by_cases hstopped : (d.raised p.shutdown).shutdown = true
  · exact .inl hstopped
  · refine .inr ⟨hstopped, ?_⟩
    rcases htick : (d.raised p.shutdown).tickOnce p with ⟨e | u, after⟩
    · rw [htick] at hmove
      exact .inl ⟨e, after, rfl, hmove⟩
    · rw [htick] at hmove
      exact .inr ⟨after, rfl, hmove⟩

theorem Paced.raised (hd : Paced d) (shutdown : Bool) : Paced (d.raised shutdown) :=
  ⟨hd.spaced, hd.free⟩

theorem run_spaced (passes : List Pass) (hd : Paced d) : (d.run passes).2.sink.IsChain Spaced := by
  induction passes generalizing d with
  | nil => exact hd.spaced
  | cons p passes ih =>
    rcases pass_cases d p with hstopped | ⟨hopen, ⟨e, after, htick, hmove⟩ | ⟨after, htick, hmove⟩⟩
    · rw [(run_stopped hstopped).1]
      exact hd.spaced
    · rw [(run_failed hopen htick).1]
      exact hmove.spaced (hd.raised p.shutdown)
    · rw [(run_goes_on hopen htick).1]
      exact ih (hmove.paced (hd.raised p.shutdown))

/-- What became of the commands that were consumed between `d` and `after`, of which those in
`recorded` have their record. -/
structure Accounts (d after : DeadlineSender) (consumed recorded : List Consumed) : Prop where
  sink : after.sink.map (·.packet) =
    d.sink.map (·.packet) ++ (consumed.filter (·.isLive)).map (·.command.packet)
  sendRecords : after.sendRecords.map (·.toDeadlineSendRecord) =
    d.sendRecords.map (·.toDeadlineSendRecord) ++
      (recorded.filter (·.isLive)).map (·.command.sendRecord)
  dropRecords : after.dropRecords =
    d.dropRecords ++ (recorded.filter (!·.isLive)).map (·.command.dropRecord)

theorem Accounts.nothing (d : DeadlineSender) : Accounts d d [] [] :=
  ⟨(List.append_nil _).symm, (List.append_nil _).symm, (List.append_nil _).symm⟩

theorem Accounts.trans {middle : DeadlineSender} {first rest recorded : List Consumed}
    (h : Accounts d middle first first) (hrest : Accounts middle after rest recorded) :
    Accounts d after (first ++ rest) (first ++ recorded) where
  sink := by
    rw [hrest.sink, h.sink, List.filter_append, List.map_append, List.append_assoc]
  sendRecords := by
    rw [hrest.sendRecords, h.sendRecords, List.filter_append, List.map_append, List.append_assoc]
  dropRecords := by
    rw [hrest.dropRecords, h.dropRecords, List.filter_append, List.map_append, List.append_assoc]

theorem taken_nil (h : d.commands ++ p.arrived = []) : d.taken p = [] := by
  rw [taken, h]
  rfl

theorem taken_cons {command : PreparedPlayoutCommand} {rest : List PreparedPlayoutCommand}
    (h : d.commands ++ p.arrived = command :: rest) : d.taken p = [⟨command, p.generation⟩] := by
  rw [taken, h]
  rfl

theorem isLive_of_eq {command : PreparedPlayoutCommand} {generation : ℕ}
    (h : command.generation = generation) : Consumed.isLive ⟨command, generation⟩ = true :=
  decide_eq_true h

theorem isLive_of_ne {command : PreparedPlayoutCommand} {generation : ℕ}
    (h : command.generation ≠ generation) : Consumed.isLive ⟨command, generation⟩ = false :=
  decide_eq_false h

theorem Move.accounts_ok (h : Move d p (.ok ()) after) : Accounts d after (d.taken p) (d.taken p) := by
  cases h with
  | idle hcommands =>
    rw [taken_nil hcommands]
    exact ⟨(List.append_nil _).symm, (List.append_nil _).symm, (List.append_nil _).symm⟩
  | dropped hcommands hstale =>
    rw [taken_cons hcommands]
    refine ⟨?_, ?_, ?_⟩ <;> simp [isLive_of_ne hstale]
  | sent hcommands hlive _ _ hrecord =>
    rw [taken_cons hcommands]
    refine ⟨?_, ?_, ?_⟩ <;> simp [isLive_of_eq hlive, hrecord]

theorem Move.accounts_error {e : SenderError} (h : Move d p (.error e) after) :
    ∃ last, d.taken p = [last] ∧ Accounts d after [last] [] := by
  cases h with
  | dropRefused hcommands hstale =>
    refine ⟨_, taken_cons hcommands, ?_, ?_, ?_⟩ <;> simp [isLive_of_ne hstale]
  | sendFailed hcommands hlive =>
    refine ⟨_, taken_cons hcommands, ?_, ?_, ?_⟩ <;> simp [isLive_of_eq hlive]

theorem Move.fifo (h : Move d p result after) :
    (d.taken p).map (·.command) ++ after.commands = d.commands ++ p.arrived := by
  cases h with
  | idle hcommands =>
    rw [taken_nil hcommands, hcommands]
    exact (List.append_eq_nil_iff.mp hcommands).1
  | dropped hcommands =>
    rw [taken_cons hcommands, hcommands]
    rfl
  | dropRefused hcommands =>
    rw [taken_cons hcommands, hcommands]
    rfl
  | sent hcommands =>
    rw [taken_cons hcommands, hcommands]
    rfl
  | sendFailed hcommands =>
    rw [taken_cons hcommands, hcommands]
    rfl

theorem Accounts.of_raised {shutdown : Bool} {consumed recorded : List Consumed}
    (h : Accounts (d.raised shutdown) after consumed recorded) : Accounts d after consumed recorded :=
  ⟨h.sink, h.sendRecords, h.dropRecords⟩

theorem run_accounts (d : DeadlineSender) (passes : List Pass) :
    ∃ recorded, Accounts d (d.run passes).2 (d.consumed passes) recorded ∧
      ((d.run passes).1 = .ok () ∧ d.consumed passes = recorded ∨
        ∃ e last, (d.run passes).1 = .error e ∧ d.consumed passes = recorded ++ [last] ∧
          ∀ more, d.run (passes ++ more) = d.run passes) := by
  induction passes generalizing d with
  | nil => exact ⟨[], .nothing d, .inl ⟨rfl, rfl⟩⟩
  | cons p passes ih =>
    simp only [List.cons_append]
    rcases pass_cases d p with hstopped | ⟨hopen, ⟨e, after, htick, hmove⟩ | ⟨after, htick, hmove⟩⟩
    · rw [(run_stopped hstopped).1, (run_stopped hstopped).2]
      exact ⟨[], (Accounts.nothing _).of_raised, .inl ⟨rfl, rfl⟩⟩
    · obtain ⟨last, htaken, haccounts⟩ := hmove.accounts_error
      simp only [(run_failed hopen htick).1, (run_failed hopen htick).2, htaken]
      exact ⟨[], haccounts.of_raised, .inr ⟨e, last, rfl, rfl, fun _ ↦ trivial⟩⟩
    · obtain ⟨recorded, hrest, hends⟩ := ih after
      simp only [(run_goes_on hopen htick).1, (run_goes_on hopen htick).2]
      refine ⟨_ ++ recorded, hmove.accounts_ok.of_raised.trans hrest, ?_⟩
      rcases hends with ⟨hok, hall⟩ | ⟨e, last, herror, hall, hmore⟩
      · exact .inl ⟨hok, by rw [hall]⟩
      · exact .inr ⟨e, last, herror, by rw [hall, List.append_assoc], hmore⟩

theorem run_fifo (d : DeadlineSender) (passes : List Pass) :
    (d.consumed passes).map (·.command) ++ (d.run passes).2.commands <+:
      d.commands ++ passes.flatMap (·.arrived) := by
  induction passes generalizing d with
  | nil => simp [consumed, run]
  | cons p passes ih =>
    rw [List.flatMap_cons, ← List.append_assoc]
    rcases pass_cases d p with hstopped | ⟨hopen, ⟨e, after, htick, hmove⟩ | ⟨after, htick, hmove⟩⟩
    · rw [(run_stopped hstopped).1, (run_stopped hstopped).2, List.append_assoc]
      exact List.prefix_append _ _
    · have hfifo : _ = d.commands ++ p.arrived := hmove.fifo
      rw [(run_failed hopen htick).1, (run_failed hopen htick).2, hfifo]
      exact List.prefix_append _ _
    · have hfifo : _ = d.commands ++ p.arrived := hmove.fifo
      rw [(run_goes_on hopen htick).1, (run_goes_on hopen htick).2, ← hfifo, List.map_append,
        List.append_assoc, List.append_assoc]
      exact (List.prefix_append_right_inj _).mpr (ih after)

/-- What the passes make of the commands. -/
structure Delivers (d : DeadlineSender) (passes : List Pass) : Prop where
  spaced : (d.run passes).2.sink.IsChain Spaced
  order : (d.consumed passes).map (·.command) <+: passes.flatMap (·.arrived)
  /-- Each command that was consumed has its one record, unless it is the one the sender stopped on. -/
  recorded : ∃ recorded, Accounts d (d.run passes).2 (d.consumed passes) recorded ∧
    ((d.run passes).1 = .ok () ∧ d.consumed passes = recorded ∨
      ∃ e last, (d.run passes).1 = .error e ∧ d.consumed passes = recorded ++ [last] ∧
        ∀ more, d.run (passes ++ more) = d.run passes)

/-- However the clock and the other threads go, the sends are never closer than the packets are long,
and of the commands those of the active generation are sent. -/
theorem never_bursts_nor_sends_stale (nextDeadline now : ℕ) (passes : List Pass) :
    Delivers (newWithNextDeadlineRecordsAndGeneration nextDeadline now) passes where
  spaced := by
    apply run_spaced passes
    exact ⟨.nil, by simp [newWithNextDeadlineRecordsAndGeneration]⟩
  order := (List.prefix_append _ _).trans (run_fifo _ passes)
  recorded := run_accounts _ passes

end DeadlineSender

end DiscordVoice.Media.Timed
