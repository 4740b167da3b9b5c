import DiscordVoice.Media.TimedSender

namespace DiscordVoice.Media.Timed

open Voice Playback

/-- Between the two times the records were made one after another, each once it was due. -/
inductive Timely : ℕ → List DeadlineSendRecord → ℕ → Prop
  | nil {since now : ℕ} (h : since ≤ now) : Timely since [] now
  | cons {since now : ℕ} {record : DeadlineSendRecord} {records : List DeadlineSendRecord}
      (hdue : record.expectedDeadline ≤ record.sendStartedAt)
      (hstart : since ≤ record.sendStartedAt) (hsent : record.sendStartedAt ≤ record.sentAt)
      (h : Timely record.sentAt records now) : Timely since (record :: records) now

namespace Timely

variable {since middle now : ℕ} {records later : List DeadlineSendRecord}

theorem le (h : Timely since records now) : since ≤ now := by
  induction h with
  | nil h => exact h
  | cons _ hstart hsent _ ih => exact hstart.trans (hsent.trans ih)

theorem of_le (h : Timely middle records now) (hle : since ≤ middle) : Timely since records now := by
  cases h with
  | nil h => exact .nil (hle.trans h)
  | cons hdue hstart hsent h => exact .cons hdue (hle.trans hstart) hsent h

theorem append (h : Timely since records middle) (hlater : Timely middle later now) :
    Timely since (records ++ later) now := by
  induction h with
  | nil h => exact hlater.of_le h
  | cons hdue hstart hsent _ ih => exact .cons hdue hstart hsent (ih hlater)

theorem bounds (h : Timely since records now) : ∀ r ∈ records, since ≤ r.sendStartedAt ∧
    r.expectedDeadline ≤ r.sendStartedAt ∧ r.sendStartedAt ≤ r.sentAt ∧ r.sentAt ≤ now := by
  induction h with
  | nil h => exact fun _ hr ↦ nomatch hr
  | cons hdue hstart hsent h ih =>
    intro r hr
    rcases List.mem_cons.mp hr with rfl | hr
    · exact ⟨hstart, hdue, hsent, h.le⟩
    · obtain ⟨hsince, hlater⟩ := ih r hr
      exact ⟨hstart.trans (hsent.trans hsince), hlater⟩

theorem pairwise (h : Timely since records now) :
    records.Pairwise fun r s ↦ r.sentAt ≤ s.sendStartedAt := by
  induction h with
  | nil h => exact .nil
  | cons _ hstart hsent h ih => exact List.pairwise_cons.mpr ⟨fun r hr ↦ (h.bounds r hr).1, ih⟩

end Timely

namespace DeadlineSender

theorem awaitDeadline_due (d : DeadlineSender) (p : Pass) :
    (d.awaitDeadline p).1 ≤ (d.awaitDeadline p).2.now := by
  unfold awaitDeadline
  cases d.nextDeadline with
  | none =>
    obtain ⟨now, hsleep, hnow⟩ := sleep_eq ((d.wait p.untilStart).wait p.untilCompared)
      ((d.wait p.untilStart).now + (d.wait p.untilStart).tick) p.oversleep
    simp only [hsleep]
    exact (le_max_right _ _).trans hnow
  | some deadline =>
    obtain ⟨now, hsleep, hnow⟩ := sleep_eq ({ d with nextDeadline := none }.wait p.untilCompared)
      deadline p.oversleep
    simp only [hsleep]
    exact (le_max_right _ _).trans hnow

theorem send_timely (d : DeadlineSender) (p : Pass) {expectedDeadline : ℕ}
    (command : PreparedPlayoutCommand) (hdue : expectedDeadline ≤ d.now) :
    ∃ records, (d.send p expectedDeadline command).2.sendRecords = d.sendRecords ++ records ∧
      Timely d.now records (d.send p expectedDeadline command).2.now := by
  have hlater : d.now ≤ d.now + p.untilDecided + p.latency := by omega
  simp only [send, wait, DeadlineSenderMetrics.recordSent]
  cases p.sinkAnswer with
  | error e => exact ⟨[], (List.append_nil _).symm, .nil hlater⟩
  | ok =>
    cases p.recordRefused with
    | true => exact ⟨[], (List.append_nil _).symm, .nil hlater⟩
    | false =>
      exact ⟨_, rfl, .cons (hdue.trans (Nat.le_add_right _ _)) (Nat.le_add_right _ _)
        (Nat.le_add_right _ p.latency) (.nil le_rfl)⟩

theorem tickOnce_timely (d : DeadlineSender) (p : Pass) :
    ∃ records, (d.tickOnce p).2.sendRecords = d.sendRecords ++ records ∧
      Timely d.now records (d.tickOnce p).2.now := by
  obtain ⟨deadline, now, hawait, hearliest⟩ := awaitDeadline_eq d p
  have hnow := (now_le_earliest d).trans hearliest
  have hdue := awaitDeadline_due d p
  have hdecided : d.now ≤ now + p.untilDecided := hnow.trans (Nat.le_add_right _ _)
  rw [hawait] at hdue
  simp only [tickOnce, hawait]
  cases d.commands ++ p.arrived with
  | nil =>
    simp only
    split_ifs
    · exact ⟨[], (List.append_nil _).symm, .nil hnow⟩
    · exact ⟨[], (List.append_nil _).symm, .nil hdecided⟩
  | cons command rest =>
    simp only
    split_ifs
    · exact ⟨[], (List.append_nil _).symm, .nil hnow⟩
    · exact ⟨[], (List.append_nil _).symm, .nil hdecided⟩
    · obtain ⟨records, hrecords, htimely⟩ := send_timely
        { d with commands := rest, nextDeadline := none, now } p command hdue
      exact ⟨records, hrecords, htimely.of_le hnow⟩

theorem run_timely (d : DeadlineSender) (passes : List Pass) :
    ∃ records, (d.run passes).2.sendRecords = d.sendRecords ++ records ∧
      Timely d.now records (d.run passes).2.now := by
  induction passes generalizing d with
  | nil => exact ⟨[], (List.append_nil _).symm, .nil le_rfl⟩
  | cons p passes ih =>
    obtain ⟨first, hfirst, htimely⟩ := tickOnce_timely (d.raised p.shutdown) p
    rcases pass_cases d p with hstopped | ⟨hopen, ⟨e, after, htick, -⟩ | ⟨after, htick, -⟩⟩
    · rw [(run_stopped hstopped).1]
      exact ⟨[], (List.append_nil _).symm, .nil le_rfl⟩
    · rw [(run_failed hopen htick).1]
      rw [htick] at hfirst htimely
      exact ⟨first, hfirst, htimely⟩
    · rw [(run_goes_on hopen htick).1]
      rw [htick] at hfirst htimely
      obtain ⟨rest, hrest, hlater⟩ := ih after
      exact ⟨first ++ rest, by rw [hrest, hfirst, List.append_assoc]; rfl, htimely.append hlater⟩

end DeadlineSender

/-- When a packet is over at the earliest. -/
def DeadlineSendRecord.over (r : DeadlineSendRecord) : ℕ :=
  r.sendStartedAt + durationFromSamples r.durationSamples.toNat

/-- From the time on the packets were begun one after another, none before it was due nor before the
one in front of it was over. -/
inductive SpacedFrom : ℕ → List DeadlineSendRecord → Prop
  | nil {since : ℕ} : SpacedFrom since []
  | cons {since : ℕ} {record : DeadlineSendRecord} {records : List DeadlineSendRecord}
      (hdue : record.expectedDeadline ≤ record.sendStartedAt)
      (hstart : since ≤ record.sendStartedAt) (hsent : record.sendStartedAt ≤ record.sentAt)
      (h : SpacedFrom record.over records) : SpacedFrom since (record :: records)

namespace SpacedFrom

variable {since earlier : ℕ} {records : List DeadlineSendRecord}

theorem of_le (h : SpacedFrom since records) (hle : earlier ≤ since) : SpacedFrom earlier records := by
  cases h with
  | nil => exact .nil
  | cons hdue hstart hsent h => exact .cons hdue (hle.trans hstart) hsent h

theorem bounds (h : SpacedFrom since records) : ∀ r ∈ records, since ≤ r.sendStartedAt ∧
    r.expectedDeadline ≤ r.sendStartedAt ∧ r.sendStartedAt ≤ r.sentAt := by
  induction h with
  | nil => exact fun _ hr ↦ nomatch hr
  | cons hdue hstart hsent h ih =>
    intro r hr
    rcases List.mem_cons.mp hr with rfl | hr
    · exact ⟨hstart, hdue, hsent⟩
    · obtain ⟨hsince, hlater⟩ := ih r hr
      exact ⟨hstart.trans ((Nat.le_add_right _ _).trans hsince), hlater⟩

theorem pairwise (h : SpacedFrom since records) :
    records.Pairwise fun r s ↦ r.over ≤ s.sendStartedAt := by
  induction h with
  | nil => exact .nil
  | cons _ _ _ h ih => exact List.pairwise_cons.mpr ⟨fun r hr ↦ (h.bounds r hr).1, ih⟩

end SpacedFrom

namespace DeadlineSender

def sent (d : DeadlineSender) (p : Pass) (expectedDeadline : ℕ) (command : PreparedPlayoutCommand) :
    DeadlineSender :=
  let sending : Sending := ⟨command.packet, d.now + p.untilDecided, d.now + p.untilDecided + p.latency⟩
  let recorded := d.metrics.recordSent expectedDeadline sending.startedAt sending.finishedAt command
  { d with
    sink := d.sink ++ [sending]
    sendRecords := d.sendRecords ++ [recorded.1]
    metrics := recorded.2
    nextDeadline := some sending.free
    now := sending.finishedAt }

theorem send_cases (d : DeadlineSender) (p : Pass) (expectedDeadline : ℕ)
    (command : PreparedPlayoutCommand) :
    (∃ e, (d.send p expectedDeadline command).1 = .error e ∧
        (d.send p expectedDeadline command).2.sendRecords = d.sendRecords) ∨
      d.send p expectedDeadline command = (.ok (), d.sent p expectedDeadline command) := by
  simp only [send, wait, DeadlineSenderMetrics.recordSent]
  cases p.sinkAnswer with
  | error e => exact .inl ⟨_, rfl, rfl⟩
  | ok =>
    cases p.recordRefused with
    | true => exact .inl ⟨_, rfl, rfl⟩
    | false => exact .inr rfl

theorem sent_spaced (d : DeadlineSender) (p : Pass) {expectedDeadline : ℕ}
    (command : PreparedPlayoutCommand) (hdue : expectedDeadline ≤ d.now) :
    ∃ r, (d.sent p expectedDeadline command).sendRecords = d.sendRecords ++ [r] ∧
      r.expectedDeadline ≤ r.sendStartedAt ∧ d.now ≤ r.sendStartedAt ∧ r.sendStartedAt ≤ r.sentAt ∧
      r.over ≤ (d.sent p expectedDeadline command).earliest := by
  refine ⟨_, rfl, hdue.trans (Nat.le_add_right _ _), Nat.le_add_right _ _, Nat.le_add_right _ _, ?_⟩
  have hinterval : durationFromSamples command.packet.durationSamples.toNat ≤
      packetSendInterval command.packet :=
    le_max_left _ _
  have hfree : d.now + p.untilDecided + packetSendInterval command.packet ≤ Sending.free
      ⟨command.packet, d.now + p.untilDecided, d.now + p.untilDecided + p.latency⟩ := by
    simp only [Sending.free]
    split_ifs <;> omega
  exact ((Nat.add_le_add_left hinterval _).trans hfree).trans (deadline_le_earliest rfl)

theorem tickOnce_spaced (d : DeadlineSender) (p : Pass) :
    (∃ r, (d.tickOnce p).2.sendRecords = d.sendRecords ++ [r] ∧
        r.expectedDeadline ≤ r.sendStartedAt ∧ d.earliest ≤ r.sendStartedAt ∧
        r.sendStartedAt ≤ r.sentAt ∧ r.over ≤ (d.tickOnce p).2.earliest) ∨
      (d.tickOnce p).2.sendRecords = d.sendRecords ∧
        ((d.tickOnce p).1 = .ok () → d.earliest ≤ (d.tickOnce p).2.earliest) := by
  obtain ⟨deadline, now, hawait, hearliest⟩ := awaitDeadline_eq d p
  have hdue := awaitDeadline_due d p
  have hdecided : d.earliest ≤ now + p.untilDecided := hearliest.trans (Nat.le_add_right _ _)
  rw [hawait] at hdue
  simp only [tickOnce, hawait]
  cases d.commands ++ p.arrived with
  | nil =>
    simp only
    split_ifs
    · exact .inr ⟨rfl, fun _ ↦ hearliest.trans (le_max_left _ _)⟩
    · exact .inr ⟨rfl, fun _ ↦ hdecided.trans (le_max_left _ _)⟩
  | cons command rest =>
    simp only
    split_ifs
    · refine .inr ⟨rfl, fun h ↦ ?_⟩
      cases h
    · exact .inr ⟨rfl, fun _ ↦ hdecided.trans (le_max_left _ _)⟩
    · rcases send_cases { d with commands := rest, nextDeadline := none, now } p deadline command with
        ⟨e, hfailed, hsame⟩ | hok
      · refine .inr ⟨hsame, fun h ↦ ?_⟩
        rw [hfailed] at h
        cases h
      · obtain ⟨r, hrecords, hexpected, hstart, hsent, hover⟩ :=
          sent_spaced { d with commands := rest, nextDeadline := none, now } p command hdue
        rw [hok]
        exact .inl ⟨r, hrecords, hexpected, hearliest.trans hstart, hsent, hover⟩

/-- All that the passes put into the channel for the records is spaced by its packets. -/
theorem run_spacedFrom (d : DeadlineSender) (passes : List Pass) :
    ∃ records, (d.run passes).2.sendRecords = d.sendRecords ++ records ∧
      SpacedFrom d.earliest records := by
  induction passes generalizing d with
  | nil => exact ⟨[], (List.append_nil _).symm, .nil⟩
  | cons p passes ih =>
    have htick := tickOnce_spaced (d.raised p.shutdown) p
    rcases pass_cases d p with hstopped | ⟨hopen, ⟨e, after, hpass, -⟩ | ⟨after, hpass, -⟩⟩
    · rw [(run_stopped hstopped).1]
      exact ⟨[], (List.append_nil _).symm, .nil⟩
    · rw [(run_failed hopen hpass).1]
      rw [hpass] at htick
      rcases htick with ⟨r, hrecords, hdue, hstart, hsent, -⟩ | ⟨hsame, -⟩
      · exact ⟨[r], hrecords, .cons hdue hstart hsent .nil⟩
      · exact ⟨[], hsame.trans (List.append_nil _).symm, .nil⟩
    · rw [(run_goes_on hopen hpass).1]
      rw [hpass] at htick
      obtain ⟨rest, hrest, hspaced⟩ := ih after
      rcases htick with ⟨r, hrecords, hdue, hstart, hsent, hover⟩ | ⟨hsame, hlater⟩
      · refine ⟨r :: rest, ?_, .cons hdue hstart hsent (hspaced.of_le hover)⟩
        rw [hrest, hrecords, List.append_assoc]
        rfl
      · refine ⟨rest, ?_, hspaced.of_le (hlater rfl)⟩
        rw [hrest, hsame]
        rfl

end DeadlineSender

/-- What the driver hears of its senders: of each, a front part of what it sent, and all of it from
before the next one is started. -/
inductive Reported : List DeadlineSendRecord → Prop
  | nothing : Reported []
  | sender {records taken : List DeadlineSendRecord} (h : Reported records) (d : DeadlineSender)
      (passes : List Pass) (hfresh : d.sendRecords = []) (hstart : ∀ r ∈ records, r.sentAt ≤ d.now)
      (htaken : taken <+: (d.run passes).2.sendRecords) : Reported (records ++ taken)

namespace Reported

variable {records : List DeadlineSendRecord}

theorem timely (h : Reported records) : ∀ r ∈ records,
    r.expectedDeadline ≤ r.sendStartedAt ∧ r.sendStartedAt ≤ r.sentAt := by
  induction h with
  | nothing => exact fun _ hr ↦ nomatch hr
  | sender _ d passes hfresh _ htaken ih =>
    intro r hr
    obtain ⟨all, hall, htimely⟩ := d.run_timely passes
    rw [hall, hfresh, List.nil_append] at htaken
    rcases List.mem_append.mp hr with hr | hr
    · exact ih r hr
    · obtain ⟨-, hdue, hsent, -⟩ := htimely.bounds r (htaken.mem hr)
      exact ⟨hdue, hsent⟩

theorem ordered (h : Reported records) :
    records.Pairwise fun r s ↦ r.sentAt ≤ s.sendStartedAt := by
  induction h with
  | nothing => exact .nil
  | sender _ d passes hfresh hstart htaken ih =>
    obtain ⟨all, hall, htimely⟩ := d.run_timely passes
    rw [hall, hfresh, List.nil_append] at htaken
    refine List.pairwise_append.mpr ⟨ih, htimely.pairwise.sublist htaken.sublist, ?_⟩
    intro r hr s hs
    exact (hstart r hr).trans (htimely.bounds s (htaken.mem hs)).1

end Reported

/-- A packet of silence that is sent ten milliseconds after its pass starts. -/
def silencePass (rtpSequence : UInt16) (rtpTimestamp nonce : UInt32) : Pass where
  shutdown := false
  untilStart := 0
  untilCompared := 0
  oversleep := 0
  arrived := [⟨⟨[], 20, 960, true, rtpSequence, rtpTimestamp, some nonce⟩, .boundarySilence, none, 0,
    none⟩]
  disconnected := false
  generation := 0
  untilDecided := 0
  latency := 10000000
  sinkAnswer := .ok ()
  recordRefused := false

/-- The packet of the track at a place of its source. -/
def trackPass (mediaPositionMs : ℕ) (rtpSequence : UInt16) (rtpTimestamp nonce : UInt32) : Pass :=
  { silencePass rtpSequence rtpTimestamp nonce with
    arrived := [⟨⟨[], 20, 960, true, rtpSequence, rtpTimestamp, some nonce⟩, .track,
      some ⟨20, 960, mediaPositionMs, 48 * mediaPositionMs, none, 0⟩, 0, none⟩] }

/-- Packets of the track one after another from the given one on, behind so many of silence. -/
def trackPasses (first count silence : ℕ) : List Pass :=
  (List.range' first count).map fun i ↦ trackPass (20 * i) (.ofNat (i + silence))
    (.ofNat (960 * (i + silence))) (.ofNat (i + silence))

end DiscordVoice.Media.Timed
