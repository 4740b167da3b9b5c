import DiscordVoice.Chains
import DiscordVoice.Media.Outstanding

namespace DiscordVoice.Media

open Voice Playback MediaState Schedule Chains

/-- The packets of the commands follow each other from one cursor to another. -/
def CursorPath (a : RtpSequenceState) (commands : List PreparedPlayoutCommand)
    (b : RtpSequenceState) : Prop :=
  Spans PreparedPlayoutCommand.cursor PreparedPlayoutCommand.next a commands b

def Wire.nextSend (w : Wire) : RtpSequenceState := unpackRtpCursor w.sendSequence

namespace DeadlineSender

/-- The command this sender has found current and not yet moved the shared cursor for. -/
def inFlight (d : DeadlineSender) : Option PreparedPlayoutCommand :=
  match d.pc with
  | .checked c | .compared c | .sent c => some c
  | _ => none

def unadvanced (d : DeadlineSender) : List PreparedPlayoutCommand :=
  match d.pc with
  | .taken c | .checked c | .compared c | .sent c => c :: d.commands
  | _ => d.commands

def sentUnadvanced (d : DeadlineSender) : List PreparedPlayoutCommand :=
  match d.pc with
  | .sent c => [c]
  | _ => []

/-- The sender has not given up over a cursor that was not the one of its packet. -/
def agrees (d : DeadlineSender) : Bool :=
  match d.pc with
  | .stopped .cursorNotNextSend | .stopped (.cursorAdvancedConcurrently _) => false
  | _ => true

/-- A sender the driver has replaced: it holds nothing current. -/
structure Retired (generation : ℕ) (d : DeadlineSender) : Prop where
  idle : d.inFlight = none
  stale : ∀ c ∈ d.waiting, c.generation < generation
  agrees : d.agrees = true

variable {generation : ℕ} {d d' : DeadlineSender} {w w' : Wire}

theorem Retired.mono {generation' : ℕ} (h : Retired generation d) (hg : generation ≤ generation') :
    Retired generation' d :=
  ⟨h.idle, fun c hc ↦ (h.stale c hc).trans_le hg, h.agrees⟩

theorem Retired.move (h : Retired generation d) (hmove : Move generation d w d' w') :
    Retired generation d' ∧ w' = w := by
  have hidle := h.idle
  have hstale := h.stale
  cases hmove with
  | idle hd hpc =>
    refine ⟨⟨?_, ?_, ?_⟩, rfl⟩
    · rcases hpc with rfl | rfl <;> rfl
    · rcases hd with hd | hd <;> rcases hpc with rfl | rfl <;> simpa [waiting, hd] using hstale
    · rcases hpc with rfl | rfl <;> rfl
  | shutdown hd hdropped => exact ⟨⟨rfl, by simp [stop, waiting], rfl⟩, rfl⟩
  | take hd hcommands =>
    exact ⟨⟨rfl, by simpa [waiting, hd, hcommands] using hstale, rfl⟩, rfl⟩
  | @drop c hd _ =>
    unfold emitDrop
    split_ifs
    · exact ⟨⟨rfl, by simp [stop, waiting], rfl⟩, rfl⟩
    · refine ⟨⟨rfl, fun c' hc' ↦ hstale c' ?_, rfl⟩, rfl⟩
      simp only [waiting, hd, List.mem_cons] at hc' ⊢
      exact .inr hc'
  | @check c hd hlive =>
    have := hstale c (by simp [waiting, hd])
    omega
  | record hd =>
    unfold emitSent
    split_ifs
    · exact ⟨⟨rfl, by simp [stop, waiting], rfl⟩, rfl⟩
    · exact ⟨⟨rfl, by simpa [waiting, hd] using hstale, rfl⟩, rfl⟩
  | mismatch hd _ | compare hd _ | send hd | socketFailed hd | advance hd _ | overtaken hd _ =>
    simp [inFlight, hd] at hidle

/-- What a sender and the wire agree on: a packet in flight is at the shared cursor, and the wire
leads up to that cursor. -/
structure OnCourse (first : RtpSequenceState) (d : DeadlineSender) (w : Wire) : Prop where
  word : w.sendSequence = packRtpCursor w.nextSend
  flight : ∀ c, d.inFlight = some c → c.cursor = w.nextSend
  agrees : d.agrees = true
  wire : ∃ sent, CursorPath first sent w.nextSend ∧ w.sent = sent ++ d.sentUnadvanced

theorem OnCourse.move {first : RtpSequenceState} (h : OnCourse first d w)
    (hhead : ∀ c, d.pc = .taken c → c.generation = generation → c.cursor = w.nextSend)
    (hmove : Move generation d w d' w') : OnCourse first d' w' := by
  obtain ⟨sent, hpath, hsent⟩ := h.wire
  have hflight := h.flight
  cases hmove with
  | idle hd hpc =>
    refine ⟨h.word, ?_, ?_, sent, hpath, ?_⟩
    · rcases hpc with rfl | rfl <;> simp [inFlight]
    · rcases hpc with rfl | rfl <;> rfl
    · rcases hd with hd | hd <;> rcases hpc with rfl | rfl <;>
        simpa [sentUnadvanced, hd] using hsent
  | shutdown hd _ | take hd _ =>
    refine ⟨h.word, by simp [inFlight, stop], rfl, sent, hpath, ?_⟩
    simpa [sentUnadvanced, stop, hd] using hsent
  | @drop c hd hstale =>
    unfold emitDrop
    split_ifs
    all_goals
      refine ⟨h.word, by simp [inFlight, stop], rfl, sent, hpath, ?_⟩
      simpa [sentUnadvanced, stop, hd] using hsent
  | @check c hd hlive =>
    refine ⟨h.word, ?_, rfl, sent, hpath, ?_⟩
    · simpa [inFlight] using hhead c hd hlive
    · simpa [sentUnadvanced, hd] using hsent
  | @mismatch c hd hcursor => exact absurd (hflight c (by simp [inFlight, hd])) hcursor
  | @compare c hd hcursor =>
    refine ⟨h.word, ?_, rfl, sent, hpath, ?_⟩
    · simpa [inFlight, hd] using hflight
    · simpa [sentUnadvanced, hd] using hsent
  | @send c hd =>
    refine ⟨h.word, ?_, rfl, sent, hpath, ?_⟩
    · intro c' hc'
      exact hflight c' (by simpa [inFlight, hd] using hc')
    · simp only [sentUnadvanced, hd, List.append_nil] at hsent ⊢
      rw [hsent]
  | socketFailed hd =>
    refine ⟨h.word, by simp [inFlight, stop], rfl, sent, hpath, ?_⟩
    simpa [sentUnadvanced, stop, hd] using hsent
  | @advance c hd hcursor =>
    have hc := hflight c (by simp [inFlight, hd])
    refine ⟨?_, by simp [inFlight], rfl, sent ++ [c], ?_, ?_⟩
    · rw [Wire.nextSend, unpackRtpCursor_packRtpCursor]
    · rw [Wire.nextSend, unpackRtpCursor_packRtpCursor]
      exact spans_concat hpath hc
    · simpa [sentUnadvanced, hd] using hsent
  | @overtaken c hd hcursor =>
    have hc := hflight c (by simp [inFlight, hd])
    exact absurd (hc ▸ h.word) hcursor
  | @record c hd =>
    unfold emitSent
    split_ifs
    all_goals
      refine ⟨h.word, by simp [inFlight, stop], rfl, sent, hpath, ?_⟩
      simpa [sentUnadvanced, stop, hd] using hsent

theorem OnCourse.congr {first : RtpSequenceState} (h : OnCourse first d w) (hpc : d'.pc = d.pc) :
    OnCourse first d' w where
  word := h.word
  flight := by
    simpa only [inFlight, hpc] using h.flight
  agrees := by
    simpa only [DeadlineSender.agrees, hpc] using h.agrees
  wire := by
    simpa only [sentUnadvanced, hpc] using h.wire

theorem waiting_concat (c : PreparedPlayoutCommand) :
    ({ d with commands := d.commands ++ [c] } : DeadlineSender).waiting = d.waiting ++ [c] := by
  simp only [waiting]
  cases d.pc <;> rfl

theorem unadvanced_concat (c : PreparedPlayoutCommand) :
    ({ d with commands := d.commands ++ [c] } : DeadlineSender).unadvanced =
      d.unadvanced ++ [c] := by
  simp only [unadvanced]
  cases d.pc <;> rfl

/-- The commands of a sender are current and lead from the shared cursor on, over the packets that
wait behind them, to the cursor the next packet is prepared at. -/
structure Ahead (generation : ℕ) (d : DeadlineSender) (w : Wire)
    (rest : List PreparedPlayoutCommand) (reserved : RtpSequenceState) : Prop where
  live : ∀ c ∈ d.waiting, c.generation = generation
  path : d.isStopped = false → CursorPath w.nextSend (d.unadvanced ++ rest) reserved

theorem Ahead.head {rest : List PreparedPlayoutCommand} {reserved : RtpSequenceState}
    (h : Ahead generation d w rest reserved) (c : PreparedPlayoutCommand) (hc : d.pc = .taken c) :
    c.cursor = w.nextSend := by
  have hpath := h.path (by simp [isStopped, hc])
  simp only [unadvanced, hc, List.cons_append] at hpath
  exact hpath.1

theorem Ahead.move {rest : List PreparedPlayoutCommand} {reserved : RtpSequenceState}
    (h : Ahead generation d w rest reserved) (hmove : Move generation d w d' w') :
    Ahead generation d' w' rest reserved := by
  have hlive := h.live
  have hpath := h.path
  cases hmove with
  | idle hd hpc =>
    refine ⟨?_, ?_⟩
    · rcases hd with hd | hd <;> rcases hpc with rfl | rfl <;> simpa [waiting, hd] using hlive
    · rcases hd with hd | hd <;> rcases hpc with rfl | rfl <;>
        simpa [unadvanced, isStopped, hd] using hpath
  | take hd hcommands =>
    refine ⟨?_, ?_⟩
    · simpa [waiting, hd, hcommands] using hlive
    · simpa [unadvanced, isStopped, hd, hcommands] using hpath
  | drop hd hstale => exact absurd (hlive _ (by simp [waiting, hd])) hstale
  | check hd _ | compare hd _ =>
    refine ⟨?_, ?_⟩
    · simpa [waiting, hd] using hlive
    · simpa [unadvanced, isStopped, hd] using hpath
  | @send c hd =>
    refine ⟨fun c' hc' ↦ hlive c' (by simp_all [waiting]), fun _ ↦ ?_⟩
    have hpath := hpath (by simp [isStopped, hd])
    simp only [unadvanced, hd] at hpath
    exact hpath
  | @advance c hd hcursor =>
    refine ⟨by simpa [waiting, hd] using hlive, fun _ ↦ ?_⟩
    have hpath := hpath (by simp [isStopped, hd])
    simp only [unadvanced, hd, List.cons_append] at hpath
    rw [Wire.nextSend, unpackRtpCursor_packRtpCursor]
    exact hpath.2
  | record hd =>
    unfold emitSent
    split_ifs
    · exact ⟨by simp [stop, waiting], by simp [stop, isStopped]⟩
    · exact ⟨by simpa [waiting, hd] using hlive, by simpa [unadvanced, isStopped, hd] using hpath⟩
  | shutdown hd _ | mismatch hd _ | socketFailed hd | overtaken hd _ =>
    exact ⟨by simp [stop, waiting], by simp [stop, isStopped]⟩

theorem Ahead.enqueue {rest rest' : List PreparedPlayoutCommand}
    {reserved reserved' : RtpSequenceState} {c : PreparedPlayoutCommand}
    (h : Ahead generation d w rest reserved) (hstopped : d.isStopped = false)
    (hc : c.generation = generation)
    (hpath : CursorPath w.nextSend (d.unadvanced ++ rest) reserved →
      CursorPath w.nextSend (d.unadvanced ++ [c] ++ rest') reserved') :
    Ahead generation { d with commands := d.commands ++ [c] } w rest' reserved' := by
  refine ⟨?_, fun _ ↦ ?_⟩
  · intro c' hc'
    rw [waiting_concat, List.mem_append, List.mem_singleton] at hc'
    rcases hc' with hc' | rfl
    · exact h.live c' hc'
    · exact hc
  · rw [unadvanced_concat]
    exact hpath (h.path hstopped)

theorem stale_move (h : ∀ c ∈ d.waiting, c.generation < generation)
    (hmove : Move generation d w d' w') : ∀ c ∈ d'.waiting, c.generation < generation := by
  cases hmove with
  | idle hd hpc =>
    rcases hd with hd | hd <;> rcases hpc with rfl | rfl <;> simpa [waiting, hd] using h
  | take hd hcommands => simpa [waiting, hd, hcommands] using h
  | drop hd _ =>
    unfold emitDrop
    split_ifs
    · simp [stop, waiting]
    · exact fun c hc ↦ h c (by simp_all [waiting])
  | check hd _ | compare hd _ | advance hd _ => simpa [waiting, hd] using h
  | send hd => exact fun c hc ↦ h c (by simp_all [waiting])
  | record hd =>
    unfold emitSent
    split_ifs
    · simp [stop, waiting]
    · simpa [waiting, hd] using h
  | shutdown hd _ | mismatch hd _ | socketFailed hd | overtaken hd _ => simp [stop, waiting]

theorem unadvanced_of_idle (hwaiting : d.waiting = []) (honWire : d.onWire = []) :
    d.unadvanced = [] := by
  simp only [unadvanced, waiting, onWire] at *
  split <;> simp_all

theorem sentUnadvanced_of_idle (h : d.inFlight = none) : d.sentUnadvanced = [] := by
  simp only [inFlight, sentUnadvanced] at *
  split <;> simp_all

end DeadlineSender

open DeadlineSender

/-- Where the commands of the sender stand in the course of a replacement. -/
inductive Stand
  | ahead
  | stale
  | discarded
  | exited
  deriving DecidableEq

def DriverPc.stand : DriverPc → Stand
  | .discard _ => .stale
  | .replace _ | .flush _ _ => .discarded
  | .exited _ => .exited
  | _ => .ahead

theorem stand_of_calm {pc : DriverPc} (h : pc.calm = true) : pc.stand = .ahead := by
  cases pc <;> first | rfl | cases h

theorem prepared_packet {aead : Aead} {p p' : VoicePacketPreparer} {payload : Bytes}
    {durationMs : ℕ} {samples : UInt32} {packet : PreparedVoicePacket}
    (h : p.prepareAudioPacketWithDurationSamples aead payload durationMs samples =
      (.ok packet, p')) :
    packet.cursor = p.reservedSequence ∧
      p'.reservedSequence = packet.cursor.advanceBySamples packet.durationSamples := by
  simp only [VoicePacketPreparer.prepareAudioPacketWithDurationSamples] at h
  split_ifs at h
  · cases h
  · split at h
    · split at h
      · cases h
        exact ⟨rfl, rfl⟩
      · cases h
    · cases h
      exact ⟨rfl, rfl⟩

/-- The senders and the preparer agree on the cursor of the next packet. -/
structure Cursors (first : RtpSequenceState) (s : MediaState) : Prop where
  course : OnCourse first s.current s.wire
  retired : ∀ d ∈ s.old, Retired s.generation d
  ahead : s.pc.stand = .ahead → Ahead s.generation s.current s.wire
    (s.prepared.map (·.command)) s.preparer.reservedSequence
  stale : s.pc.stand = .stale → ∀ c ∈ s.current.waiting, c.generation < s.generation
  discarded : s.pc.stand = .discarded → Retired s.generation s.current ∧
    s.preparer.reservedSequence = s.wire.nextSend
  exited : s.pc.stand = .exited →
    (∃ rest reserved, Ahead s.generation s.current s.wire rest reserved) ∨
      Retired s.generation s.current

/-- A driver at the point of discarding finds its sender between two packets, and one that is about
to queue source silence has nothing prepared. -/
def undisturbed (s : MediaState) : Action → Bool
  | .driver _ =>
    match s.pc with
    | .discard _ => s.current.inFlight.isNone
    | .silence site => !s.silenceIsDue site || s.prepared.isEmpty
    | _ => true
  | _ => true

theorem undisturbed_discard {s : MediaState} {answer : DriverAnswer} {reason : Interruption}
    (h : undisturbed s (.driver answer) = true) (hpc : s.pc = .discard reason) :
    s.current.inFlight = none := by
  simpa [undisturbed, hpc] using h

theorem undisturbed_silence {s : MediaState} {answer : DriverAnswer} {site : SilenceSite}
    (h : undisturbed s (.driver answer) = true) (hpc : s.pc = .silence site)
    (hdue : s.silenceIsDue site = true) : s.prepared = [] := by
  simpa [undisturbed, hpc, hdue] using h

namespace Cursors

variable {aead : Aead} {first : RtpSequenceState} {s t : MediaState}

theorem of_ahead (hpc : t.pc.stand = .ahead) (hcourse : OnCourse first t.current t.wire)
    (hretired : ∀ d ∈ t.old, Retired t.generation d)
    (h : Ahead t.generation t.current t.wire (t.prepared.map (·.command))
      t.preparer.reservedSequence) : Cursors first t where
  course := hcourse
  retired := hretired
  ahead _ := h
  stale h := by simp [hpc] at h
  discarded h := by simp [hpc] at h
  exited h := by simp [hpc] at h

theorem of_stale (hpc : t.pc.stand = .stale) (hcourse : OnCourse first t.current t.wire)
    (hretired : ∀ d ∈ t.old, Retired t.generation d)
    (h : ∀ c ∈ t.current.waiting, c.generation < t.generation) : Cursors first t where
  course := hcourse
  retired := hretired
  ahead h := by simp [hpc] at h
  stale _ := h
  discarded h := by simp [hpc] at h
  exited h := by simp [hpc] at h

theorem of_discarded (hpc : t.pc.stand = .discarded) (hcourse : OnCourse first t.current t.wire)
    (hretired : ∀ d ∈ t.old, Retired t.generation d)
    (h : Retired t.generation t.current ∧ t.preparer.reservedSequence = t.wire.nextSend) :
    Cursors first t where
  course := hcourse
  retired := hretired
  ahead h := by simp [hpc] at h
  stale h := by simp [hpc] at h
  discarded _ := h
  exited h := by simp [hpc] at h

theorem of_exited {result : DriverResult} (hpc : t.pc = .exited result)
    (hcourse : OnCourse first t.current t.wire) (hretired : ∀ d ∈ t.old, Retired t.generation d)
    (h : (∃ rest reserved, Ahead t.generation t.current t.wire rest reserved) ∨
      Retired t.generation t.current) : Cursors first t where
  course := hcourse
  retired := hretired
  ahead h := by simp [hpc, DriverPc.stand] at h
  stale h := by simp [hpc, DriverPc.stand] at h
  discarded h := by simp [hpc, DriverPc.stand] at h
  exited _ := h

theorem flow_ahead {queue egress : OpusFrameQueue} {metrics : List PlaybackPipelineMetric}
    (h : Cursors first s) (hs : s.pc.stand = .ahead) (ht : t.pc.stand = .ahead)
    (hm : t.flow = { s.flow with queue, egress, metrics }) : Cursors first t := by
  have hcurrent : t.current = s.current := congrArg Flow.current hm
  have hwire : t.wire = s.wire := congrArg Flow.wire hm
  have hold : t.old = s.old := congrArg Flow.old hm
  have hgeneration : t.generation = s.generation := congrArg Flow.generation hm
  have hprepared : t.prepared = s.prepared := congrArg Flow.prepared hm
  have hpreparer : t.preparer = s.preparer := congrArg Flow.preparer hm
  apply of_ahead ht
  · rw [hcurrent, hwire]
    exact h.course
  · rw [hold, hgeneration]
    exact h.retired
  · rw [hgeneration, hcurrent, hwire, hprepared, hpreparer]
    exact h.ahead hs

/-- Whenever the driver may move, its sender holds live commands on their course or nothing that
counts. -/
theorem standing {answer : DriverAnswer} (h : Cursors first s)
    (hok : undisturbed s (.driver answer) = true) :
    (∃ rest reserved, Ahead s.generation s.current s.wire rest reserved) ∨
      Retired s.generation s.current := by
  cases hstand : s.pc.stand with
  | ahead => exact .inl ⟨_, _, h.ahead hstand⟩
  | stale =>
    have hidle : s.current.inFlight = none := by
      cases hpc : s.pc <;> simp only [hpc, DriverPc.stand, reduceCtorEq] at hstand
      exact undisturbed_discard hok hpc
    exact .inr ⟨hidle, h.stale hstand, h.course.agrees⟩
  | discarded => exact .inr (h.discarded hstand).1
  | exited => exact h.exited hstand

theorem effect {answer : DriverAnswer} (h : Cursors first s) (hc : Connected s)
    (he : Effect aead s t) (hok : undisturbed s (.driver answer) = true) : Cursors first t := by
  cases he with
  | jump hs ht hm => exact h.flow_ahead (stand_of_calm hs) (stand_of_calm ht) (by rw [hm])
  | account hs hrecords hpending hmatch ht =>
    have hahead := h.ahead (stand_of_calm hs)
    exact of_ahead (stand_of_calm ht) (h.course.congr rfl) h.retired ⟨hahead.live, hahead.path⟩
  | accountDropped hs hdropped => exact absurd (hc.linked (link_of_calm hs)).noDrops hdropped
  | report hs hq hpc =>
    rcases hpc with ⟨hscalm, hcalm⟩ | ⟨site, sent, hspc, rfl⟩
    · exact h.flow_ahead (stand_of_calm hscalm) (stand_of_calm hcalm) (sendMetric_flow _)
    · exact h.flow_ahead (by rw [hspc]; rfl) rfl (sendMetric_flow _)
  | invalidate hs =>
    have hahead := h.ahead (by rw [hs]; rfl)
    refine of_stale rfl h.course (fun d hd ↦ (h.retired d hd).mono (Nat.le_succ _)) ?_
    intro c hc
    rw [hahead.live c hc]
    exact Nat.lt_succ_self _
  | discard hs =>
    have hidle := undisturbed_discard hok hs
    exact of_discarded rfl h.course h.retired
      ⟨⟨hidle, h.stale (by rw [hs]; rfl), h.course.agrees⟩, rfl⟩
  | replace hs =>
    obtain ⟨hretired, hreserved⟩ := h.discarded (by rw [hs]; rfl)
    obtain ⟨sent, hpath, hsent⟩ := h.course.wire
    rw [sentUnadvanced_of_idle hretired.idle] at hsent
    have hspawn : Retired s.generation .spawn :=
      ⟨rfl, fun c hc ↦ by simp [waiting, DeadlineSender.spawn] at hc, rfl⟩
    have hcourse : OnCourse first .spawn s.wire :=
      ⟨h.course.word, fun c hc ↦ (by cases hc), rfl, sent, hpath, hsent⟩
    refine of_discarded rfl hcourse ?_ ⟨hspawn, hreserved⟩
    intro d hd
    rcases List.mem_append.mp hd with hd | hd
    · exact h.retired d hd
    · rw [List.mem_singleton.mp hd]
      exact ⟨hretired.idle, hretired.stale, hretired.agrees⟩
  | flush hs =>
    have hquiet := hc.replaced (by rw [hs]; rfl)
    have hidle := unadvanced_of_idle hquiet.noneWaiting hquiet.noneOnWire
    refine of_ahead rfl h.course h.retired ⟨?_, fun _ ↦ ?_⟩
    · exact fun c hc ↦ (List.not_mem_nil (hquiet.noneWaiting ▸ hc)).elim
    · rw [show (s.flushEgressBuffer _ _).current.unadvanced = [] from hidle]
      exact (h.discarded (by rw [hs]; rfl)).2.symm
  | restore hs =>
    exact h.flow_ahead (by rw [hs]; rfl) rfl (restoreLiveSourceFrame_flow _)
  | @restored reason hs =>
    have hahead := h.ahead (by rw [hs]; rfl)
    have hexit (result : DriverResult) : Cursors first (s.exit result) :=
      of_exited rfl (h.course.congr rfl) h.retired (.inl ⟨_, _, hahead.live, hahead.path⟩)
    cases reason with
    | pause site => exact of_ahead rfl h.course h.retired hahead
    | stop site =>
      cases site with
      | second => exact of_ahead rfl h.course h.retired hahead
      | _ => exact hexit _
    | stale => exact hexit _
    | dave route => exact of_ahead rfl h.course h.retired hahead
  | refill hs => exact h.flow_ahead (by rw [hs]; rfl) (by rw [hs]; rfl) rfl
  | refillRefused hs => exact h.flow_ahead (by rw [hs]; rfl) rfl rfl
  | @refillRestore route next f hs =>
    exact h.flow_ahead (by rw [hs]; rfl) (by cases next <;> rfl) (restoreLiveSourceFrame_flow _)
  | @prepareTrack route f egress packet preparer hs hpop payload hpacket =>
    have hahead := h.ahead (by rw [hs]; rfl)
    obtain ⟨hcursor, hnext⟩ := prepared_packet hpacket
    refine of_ahead rfl h.course h.retired ⟨hahead.live, fun hstopped ↦ ?_⟩
    rw [List.map_append, ← List.append_assoc, hnext]
    exact spans_concat (hahead.path hstopped) hcursor
  | @pump route p prepared hs hprepared hstopped =>
    have hahead := h.ahead (by rw [hs]; rfl)
    have hp := (hc.linked (by rw [hs]; rfl)).prepared p (by simp [flow, hprepared])
    refine of_ahead (by rw [hs]; rfl) (h.course.congr rfl) h.retired (hahead.enqueue hstopped hp.2 ?_)
    intro hpath
    simpa [hprepared] using hpath
  | silence hs hdue payload hstopped hpacket =>
    have hahead := h.ahead (by rw [hs]; rfl)
    have hnone := undisturbed_silence hok hs hdue
    obtain ⟨hcursor, hnext⟩ := prepared_packet hpacket
    refine of_ahead (by rw [hs]; rfl) (h.course.congr rfl) h.retired (hahead.enqueue hstopped rfl ?_)
    intro hpath
    simp only [hnone, List.map_nil, List.append_nil] at hpath ⊢
    rw [hnext]
    exact spans_concat hpath hcursor
  | boundary hs payload hstopped hpacket =>
    have hahead := h.ahead (by rw [hs]; rfl)
    have hnone : s.prepared = [] := (hc.quiet (by rw [hs]; rfl)).2
    obtain ⟨hcursor, hnext⟩ := prepared_packet hpacket
    refine of_ahead rfl (h.course.congr rfl) h.retired (hahead.enqueue hstopped rfl ?_)
    intro hpath
    simp only [hnone, List.map_nil, List.append_nil] at hpath ⊢
    rw [hnext]
    exact spans_concat hpath hcursor
  | boundarySent hs hrecords =>
    have hahead := h.ahead (by rw [hs]; rfl)
    exact of_ahead rfl (h.course.congr rfl) h.retired ⟨hahead.live, hahead.path⟩
  | boundaryReport hs => exact of_ahead rfl h.course h.retired (h.ahead (by rw [hs]; rfl))
  | @paused site hs =>
    exact of_ahead (by cases site <;> rfl) h.course h.retired (h.ahead (by rw [hs]; rfl))
  | again hs hpaused => exact of_ahead rfl h.course h.retired (h.ahead (by rw [hs]; rfl))
  | invalidateAgain hs =>
    have hquiet := (hc.quiet (by rw [hs]; rfl)).1
    refine of_ahead rfl h.course (fun d hd ↦ (h.retired d hd).mono (Nat.le_succ _)) ⟨?_, ?_⟩
    · exact fun c hc ↦ (List.not_mem_nil (hquiet.noneWaiting ▸ hc)).elim
    · exact (h.ahead (by rw [hs]; rfl)).path
  | discardAgain hs =>
    obtain ⟨hquiet, hnone⟩ := hc.quiet (by rw [hs]; rfl)
    have hidle := unadvanced_of_idle hquiet.noneWaiting hquiet.noneOnWire
    refine of_ahead rfl h.course h.retired ⟨(h.ahead (by rw [hs]; rfl)).live, fun _ ↦ ?_⟩
    rw [show (s.discardUnsentPreparedPackets.goto .waiting).current.unadvanced = [] from hidle,
      show (s.discardUnsentPreparedPackets.goto .waiting).prepared = [] from hnone]
    rfl
  | exit ht hcurrent hflow =>
    obtain ⟨-, hgeneration, hwire, hold, -⟩ := hflow
    refine of_exited ht ?_ ?_ ?_
    · rw [hwire]
      exact h.course.congr (by rw [hcurrent])
    · rw [hold, hgeneration]
      exact h.retired
    · rw [hgeneration, hwire, hcurrent]
      obtain ⟨rest, reserved, ha⟩ | hr := h.standing hok
      · exact .inl ⟨rest, reserved, ha.live, ha.path⟩
      · exact .inr ⟨hr.idle, hr.stale, hr.agrees⟩

theorem head (h : Cursors first s) (c : PreparedPlayoutCommand) (hc : s.current.pc = .taken c)
    (hlive : c.generation = s.generation) : c.cursor = s.wire.nextSend := by
  have hwaiting : c ∈ s.current.waiting := by simp [waiting, hc]
  cases hstand : s.pc.stand with
  | ahead => exact (h.ahead hstand).head c hc
  | stale =>
    have := h.stale hstand c hwaiting
    omega
  | discarded =>
    have := (h.discarded hstand).1.stale c hwaiting
    omega
  | exited =>
    rcases h.exited hstand with ⟨rest, reserved, hahead⟩ | hretired
    · exact hahead.head c hc
    · have := hretired.stale c hwaiting
      omega

theorem sender {d : DeadlineSender} {w : Wire} (h : Cursors first s)
    (hmove : Move s.generation s.current s.wire d w) :
    Cursors first { s with current := d, wire := w } where
  course := h.course.move h.head hmove
  retired := h.retired
  ahead hstand := (h.ahead hstand).move hmove
  stale hstand := stale_move (h.stale hstand) hmove
  discarded hstand := by
    obtain ⟨hretired, hreserved⟩ := h.discarded hstand
    obtain ⟨hretired', rfl⟩ := hretired.move hmove
    exact ⟨hretired', hreserved⟩
  exited hstand := by
    rcases h.exited hstand with ⟨rest, reserved, hahead⟩ | hretired
    · exact .inl ⟨rest, reserved, hahead.move hmove⟩
    · exact .inr (hretired.move hmove).1

theorem oldSender {i : ℕ} {d d' : DeadlineSender} {w : Wire} (h : Cursors first s)
    (hget : s.old[i]? = some d) (hmove : Move s.generation d s.wire d' w) :
    Cursors first { s with old := s.old.set i d', wire := w } := by
  obtain ⟨hretired, rfl⟩ := (h.retired d (List.mem_of_getElem? hget)).move hmove
  refine ⟨h.course, fun e he ↦ ?_, h.ahead, h.stale, h.discarded, h.exited⟩
  rcases List.mem_or_eq_of_mem_set he with he | rfl
  · exact h.retired e he
  · exact hretired

theorem congr (h : Cursors first s) (hpc : t.pc = s.pc) (hcurrent : t.current = s.current)
    (hwire : t.wire = s.wire) (hold : t.old = s.old) (hgeneration : t.generation = s.generation)
    (hprepared : t.prepared = s.prepared) (hpreparer : t.preparer = s.preparer) :
    Cursors first t := by
  refine ⟨?_, ?_, ?_, ?_, ?_, ?_⟩ <;>
    simp only [hpc, hcurrent, hwire, hold, hgeneration, hprepared, hpreparer]
  · exact h.course
  · exact h.retired
  · exact h.ahead
  · exact h.stale
  · exact h.discarded
  · exact h.exited

theorem flow_congr {queue : OpusFrameQueue} {produced : List OpusFrame}
    {metrics : List PlaybackPipelineMetric} {sentDurationSamples : ℕ} (h : Cursors first s)
    (hpc : t.pc = s.pc)
    (hm : t.flow = { s.flow with queue, produced, metrics, sentDurationSamples }) :
    Cursors first t :=
  h.congr hpc (congrArg Flow.current hm) (congrArg Flow.wire hm) (congrArg Flow.old hm)
    (congrArg Flow.generation hm) (congrArg Flow.prepared hm) (congrArg Flow.preparer hm)

theorem happens {action : Action} (h : Cursors first s) (hc : Connected s)
    (hok : undisturbed s action = true) (hstep : Happens aead s action t) : Cursors first t := by
  cases hstep with
  | driver he => exact h.effect hc he hok
  | sender hmove => exact h.sender hmove
  | oldSender hget hmove => exact h.oldSender hget hmove
  | produced pushed hpc hpaused hflow => exact h.flow_congr hpc hflow
  | metric => exact h.flow_congr (sendMetric_pc _) (sendMetric_flow _)
  | consumed hmetrics => exact h.flow_congr (consumeMetric_pc _) (consumeMetric_flow _)
  | apart ha hpc hpaused hflow => exact h.flow_congr hpc hflow

theorem start (playbackEpoch : ℕ) (preparer : VoicePacketPreparer) (source : SourceBufferState)
    (position : ℕ) :
    Cursors preparer.reservedSequence
      (MediaState.start playbackEpoch preparer source position) := by
  have hnext : (MediaState.start playbackEpoch preparer source position).wire.nextSend =
      preparer.reservedSequence := unpackRtpCursor_packRtpCursor _
  refine of_ahead rfl ⟨?_, fun c hc ↦ (by cases hc), rfl, [], hnext.symm, rfl⟩ ?_ ⟨?_, fun _ ↦ hnext⟩
  · rw [hnext]
    rfl
  · exact fun d hd ↦ (List.not_mem_nil hd).elim
  · exact fun c hc ↦ (List.not_mem_nil hc).elim

theorem step {action : Action} (h : Cursors first s ∧ Connected s)
    (hok : undisturbed s action = true) (hstep : s.step aead action = some t) :
    Cursors first t ∧ Connected t :=
  ⟨h.1.happens h.2 hok (step_happens hstep), h.2.happens (step_happens hstep)⟩

theorem wire_path (h : Cursors first s) : ∃ last, CursorPath first s.wire.sent last := by
  obtain ⟨sent, hpath, hsent⟩ := h.course.wire
  by_cases hnil : s.current.sentUnadvanced = []
  · rw [hsent, hnil, List.append_nil]
    exact ⟨_, hpath⟩
  · obtain ⟨c, hc⟩ : ∃ c, s.current.pc = .sent c := by
      simp only [sentUnadvanced] at hnil
      split at hnil
      · exact ⟨_, ‹_›⟩
      · exact absurd rfl hnil
    have hcursor := h.course.flight c (by simp [inFlight, hc])
    rw [hsent, show s.current.sentUnadvanced = [c] by simp [sentUnadvanced, hc]]
    exact ⟨_, spans_concat hpath hcursor⟩

end Cursors

theorem toNat_iterate_add_one (a : UInt16) (n : ℕ) :
    ((· + 1)^[n] a).toNat = (a.toNat + n) % 65536 := by
  induction n with
  | zero =>
    have := a.toNat_lt
    simp only [Function.iterate_zero, id_eq]
    omega
  | succ n ih =>
    rw [Function.iterate_succ_apply', UInt16.toNat_add, ih]
    simp only [UInt16.reduceToNat]
    omega

theorem CursorPath.rtpSequence_ne {first last : RtpSequenceState}
    {sent : List PreparedPlayoutCommand} (h : CursorPath first sent last) {i j : ℕ}
    {c c' : PreparedPlayoutCommand} (hij : i < j) (hnear : j - i < 65536)
    (hc : sent[i]? = some c) (hc' : sent[j]? = some c') :
    c.packet.rtpSequence ≠ c'.packet.rtpSequence := by
  obtain ⟨hi, rfl⟩ := List.getElem?_eq_some_iff.mp hc
  obtain ⟨hj, rfl⟩ := List.getElem?_eq_some_iff.mp hc'
  have hup : ∀ c : PreparedPlayoutCommand, c.next.sequence = c.cursor.sequence + 1 := fun _ ↦ rfl
  have hseq_i : sent[i].packet.rtpSequence = (· + 1)^[i] first.sequence :=
    Spans.counts (f := RtpSequenceState.sequence) hup h i hi
  have hseq_j : sent[j].packet.rtpSequence = (· + 1)^[j] first.sequence :=
    Spans.counts (f := RtpSequenceState.sequence) hup h j hj
  intro heq
  have hmod := congrArg UInt16.toNat (hseq_i.symm.trans (heq.trans hseq_j))
  rw [toNat_iterate_add_one, toNat_iterate_add_one] at hmod
  omega

/-- Every packet a sender is about to put on the wire has the cursor of the next packet, no sender
gives up over a cursor, and sequence numbers do not repeat before they wrap around. -/
theorem cursors_agree_of_undisturbed (aead : Aead) (playbackEpoch : ℕ)
    (preparer : VoicePacketPreparer) (source : SourceBufferState) (position : ℕ)
    (actions : List Action) {s : MediaState}
    (hok : Throughout (MediaState.step aead) (fun s action ↦ undisturbed s action = true)
      (.start playbackEpoch preparer source position) actions)
    (h : exec (MediaState.step aead) (.start playbackEpoch preparer source position) actions =
      some s) :
    (∀ d ∈ s.current :: s.old, d.agrees = true ∧
      ∀ c, d.inFlight = some c → c.cursor = unpackRtpCursor s.wire.sendSequence) ∧
    ∀ i j c c', i < j → j - i < 65536 → s.wire.sent[i]? = some c → s.wire.sent[j]? = some c' →
      c.packet.rtpSequence ≠ c'.packet.rtpSequence := by
  obtain ⟨hs, -⟩ : Cursors preparer.reservedSequence s ∧ Connected s :=
    exec_induction (fun _ _ _ hs ↦ Cursors.step hs) ⟨.start _ _ _ _, .start _ _ _ _⟩ hok h
  refine ⟨fun d hd ↦ ?_, fun i j c c' hij hnear hc hc' ↦ ?_⟩
  · rcases List.mem_cons.mp hd with rfl | hd
    · exact ⟨hs.course.agrees, hs.course.flight⟩
    · have hretired := hs.retired d hd
      refine ⟨hretired.agrees, fun c hc ↦ ?_⟩
      rw [hretired.idle] at hc
      cases hc
  · obtain ⟨last, hpath⟩ := hs.wire_path
    exact hpath.rtpSequence_ne hij hnear hc hc'

/-- A pause that comes while the packet waits in the channel of the sender. -/
def pauseBeforeSend : List Action :=
  oneFrameRound ++ [.send .pause, .driver .command] ++ goes 3 ++ [payload] ++ goes 2 ++ [payload] ++
    senderSteps 6

theorem cursors_agree_of_undisturbed_pause :
    ∃ s, exec (MediaState.step plainAead) (plainStart [plainFrame 0] false) pauseBeforeSend =
        some s ∧
      s.wire.sent.map (fun c ↦ (c.kind, c.packet.rtpSequence)) = [(.boundarySilence, 0)] ∧
      ∀ d ∈ s.current :: s.old, d.agrees = true := by
  refine ⟨_, rfl, by decide, fun d hd ↦ ?_⟩
  exact ((cursors_agree_of_undisturbed plainAead _ _ _ _ pauseBeforeSend
    (throughout_of_allowed (by decide))
    (rfl : exec _ (plainStart [plainFrame 0] false) _ = some _)).1 d hd).1

/-- The same pause between the socket call of the sender and its exchange of the cursor: the first
packet of boundary silence repeats the sequence number that is on the wire, and the old sender
finds the cursor moved. -/
theorem cursors_disagree_after_pause :
    ∃ s, exec (MediaState.step plainAead) (plainStart [plainFrame 0] false)
        (oneFrameRound ++ senderSteps 5 ++ [.send .pause, .driver .command] ++ goes 3 ++ [payload] ++
          goes 2 ++ [payload] ++ senderSteps 6 ++ [.oldSender 0 true]) = some s ∧
      s.wire.sent.map (fun c ↦ (c.kind, c.packet.rtpSequence)) =
        [(.track, 0), (.boundarySilence, 0)] ∧
      ∃ d ∈ s.old, d.agrees = false := by
  exact ⟨_, rfl, by decide, by decide⟩

end DiscordVoice.Media
