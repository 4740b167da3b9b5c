import DiscordVoice.Playback.OpusQueue

namespace DiscordVoice.Media

open Voice Playback

def liveDeadlineCommandChannelCapacity : ℕ := 25

def liveDeadlineRecordChannelCapacity : ℕ := 64

inductive PreparedPacketKind
  | track
  | scheduledSilence
  | boundarySilence
  deriving DecidableEq, Repr

structure PreparedMediaFrame where
  durationMs : ℕ
  durationSamples : UInt32
  mediaPositionMs : ℕ
  mediaPositionSamples : ℕ
  mediaBytePosition : Option ℕ
  epoch : ℕ
  deriving DecidableEq, Repr

def preparedMediaFrame (f : OpusFrame) : PreparedMediaFrame where
  durationMs := f.durationMs
  durationSamples := f.durationSamples
  mediaPositionMs := f.sourcePositionMs
  mediaPositionSamples := f.sourcePositionSamples
  mediaBytePosition := f.sourceBytePosition
  epoch := f.epoch

/-- `PreparedPlayoutCommand`, with the source frame its packet was made from, which no thread
reads. -/
structure PreparedPlayoutCommand where
  packet : PreparedVoicePacket
  kind : PreparedPacketKind
  mediaFrame : Option PreparedMediaFrame
  generation : ℕ
  frame : Option OpusFrame
  deriving DecidableEq, Repr

structure DeadlineSendRecord where
  kind : PreparedPacketKind
  durationMs : ℕ
  durationSamples : UInt32
  rtpSequence : UInt16
  rtpTimestamp : UInt32
  protectionNonce : Option UInt32
  mediaFrame : Option PreparedMediaFrame
  deriving DecidableEq, Repr

structure DeadlineDropRecord extends DeadlineSendRecord where
  generation : ℕ
  deriving DecidableEq, Repr

namespace PreparedPlayoutCommand

def cursor (c : PreparedPlayoutCommand) : RtpSequenceState := c.packet.cursor

def next (c : PreparedPlayoutCommand) : RtpSequenceState :=
  c.cursor.advanceBySamples c.packet.durationSamples

def sendRecord (c : PreparedPlayoutCommand) : DeadlineSendRecord where
  kind := c.kind
  durationMs := c.packet.durationMs
  durationSamples := c.packet.durationSamples
  rtpSequence := c.packet.rtpSequence
  rtpTimestamp := c.packet.rtpTimestamp
  protectionNonce := c.packet.protectionNonce
  mediaFrame := c.mediaFrame

def dropRecord (c : PreparedPlayoutCommand) : DeadlineDropRecord :=
  ⟨c.sendRecord, c.generation⟩

end PreparedPlayoutCommand

inductive SenderExit
  | shutdown
  | cursorNotNextSend
  | cursorAdvancedConcurrently (command : PreparedPlayoutCommand)
  | socketFailed
  | sendRecordUnavailable (command : PreparedPlayoutCommand)
  | dropRecordUnavailable
  deriving DecidableEq, Repr

/-- Where the thread of a deadline sender stands in `run` and `tick_once`: before it looks at the
shutdown flag, before it takes a command, and then after each of the steps a command goes
through. -/
inductive SenderPc
  | looping
  | ticking
  | taken (command : PreparedPlayoutCommand)
  | checked (command : PreparedPlayoutCommand)
  | compared (command : PreparedPlayoutCommand)
  | sent (command : PreparedPlayoutCommand)
  | advanced (command : PreparedPlayoutCommand)
  | stopped (exit : SenderExit)
  deriving DecidableEq, Repr

/-- A deadline sender with its three channels. `dropped` says that the driver let go of its end of
them, which also raises the shutdown flag. -/
structure DeadlineSender where
  commands : List PreparedPlayoutCommand
  sendRecords : List DeadlineSendRecord
  dropRecords : List DeadlineDropRecord
  dropped : Bool
  pc : SenderPc
  deriving DecidableEq, Repr

/-- What the senders of one session share: the cursor of the next packet, and the socket. -/
structure Wire where
  sendSequence : UInt64
  sent : List PreparedPlayoutCommand
  deriving DecidableEq, Repr

namespace DeadlineSender

def spawn : DeadlineSender := ⟨[], [], [], false, .looping⟩

def isStopped (d : DeadlineSender) : Bool :=
  match d.pc with
  | .stopped _ => true
  | _ => false

def availableCommandCapacity (d : DeadlineSender) : ℕ :=
  liveDeadlineCommandChannelCapacity - d.commands.length

/-- The thread returns, and with it go its ends of the channels. -/
def stop (d : DeadlineSender) (exit : SenderExit) : DeadlineSender :=
  { d with commands := [], pc := .stopped exit }

def emitDrop (d : DeadlineSender) (c : PreparedPlayoutCommand) : DeadlineSender :=
  if d.dropped ∨ liveDeadlineRecordChannelCapacity ≤ d.dropRecords.length then
    d.stop .dropRecordUnavailable
  else
    { d with dropRecords := d.dropRecords ++ [c.dropRecord], pc := .looping }

def emitSent (d : DeadlineSender) (c : PreparedPlayoutCommand) : DeadlineSender :=
  if d.dropped ∨ liveDeadlineRecordChannelCapacity ≤ d.sendRecords.length then
    d.stop (.sendRecordUnavailable c)
  else
    { d with sendRecords := d.sendRecords ++ [c.sendRecord], pc := .looping }

/-- One atomic step of the thread: a read or write of what it shares with the driver and the other
senders. `socketOk` is the answer of the socket. -/
def step (generation : ℕ) (socketOk : Bool) (w : Wire) (d : DeadlineSender) :
    Option (DeadlineSender × Wire) :=
  match d.pc with
  | .looping => some (if d.dropped then d.stop .shutdown else { d with pc := .ticking }, w)
  | .ticking =>
    match d.commands with
    | c :: rest => some ({ d with commands := rest, pc := .taken c }, w)
    | [] => some ({ d with pc := .looping }, w)
  | .taken c =>
    if c.generation ≠ generation then
      some (d.emitDrop c, w)
    else
      some ({ d with pc := .checked c }, w)
  | .checked c =>
    let cursor := unpackRtpCursor w.sendSequence
    if c.packet.rtpSequence ≠ cursor.sequence ∨ c.packet.rtpTimestamp ≠ cursor.timestamp then
      some (d.stop .cursorNotNextSend, w)
    else
      some ({ d with pc := .compared c }, w)
  | .compared c =>
    if socketOk then
      some ({ d with pc := .sent c }, { w with sent := w.sent ++ [c] })
    else
      some (d.stop .socketFailed, w)
  | .sent c =>
    if w.sendSequence = packRtpCursor c.cursor then
      some ({ d with pc := .advanced c }, { w with sendSequence := packRtpCursor c.next })
    else
      some (d.stop (.cursorAdvancedConcurrently c), w)
  | .advanced c => some (d.emitSent c, w)
  | .stopped _ => none

inductive Move (generation : ℕ) (d : DeadlineSender) (w : Wire) : DeadlineSender → Wire → Prop
  | idle {pc} (hd : d.pc = .looping ∨ d.pc = .ticking) (hpc : pc = .looping ∨ pc = .ticking) :
      Move generation d w { d with pc } w
  | shutdown (hd : d.pc = .looping) (hdropped : d.dropped = true) :
      Move generation d w (d.stop .shutdown) w
  | take {c rest} (hd : d.pc = .ticking) (hcommands : d.commands = c :: rest) :
      Move generation d w { d with commands := rest, pc := .taken c } w
  | drop {c} (hd : d.pc = .taken c) (hstale : c.generation ≠ generation) :
      Move generation d w (d.emitDrop c) w
  | check {c} (hd : d.pc = .taken c) (hlive : c.generation = generation) :
      Move generation d w { d with pc := .checked c } w
  | mismatch {c} (hd : d.pc = .checked c) (hcursor : c.cursor ≠ unpackRtpCursor w.sendSequence) :
      Move generation d w (d.stop .cursorNotNextSend) w
  | compare {c} (hd : d.pc = .checked c) (hcursor : c.cursor = unpackRtpCursor w.sendSequence) :
      Move generation d w { d with pc := .compared c } w
  | send {c} (hd : d.pc = .compared c) :
      Move generation d w { d with pc := .sent c } { w with sent := w.sent ++ [c] }
  | socketFailed {c} (hd : d.pc = .compared c) : Move generation d w (d.stop .socketFailed) w
  | advance {c} (hd : d.pc = .sent c) (hcursor : w.sendSequence = packRtpCursor c.cursor) :
      Move generation d w { d with pc := .advanced c }
        { w with sendSequence := packRtpCursor c.next }
  | overtaken {c} (hd : d.pc = .sent c) (hcursor : w.sendSequence ≠ packRtpCursor c.cursor) :
      Move generation d w (d.stop (.cursorAdvancedConcurrently c)) w
  | record {c} (hd : d.pc = .advanced c) : Move generation d w (d.emitSent c) w

theorem step_move {generation : ℕ} {socketOk : Bool} {w w' : Wire} {d d' : DeadlineSender}
    (h : d.step generation socketOk w = some (d', w')) : Move generation d w d' w' := by
  cases hd : d.pc <;> simp only [step, hd] at h
  case looping =>
    split at h <;> cases h
    · exact .shutdown hd ‹_›
    · exact .idle (.inl hd) (.inr rfl)
  case ticking =>
    split at h <;> cases h
    · exact .take hd ‹_›
    · exact .idle (.inr hd) (.inl rfl)
  case taken c =>
    split_ifs at h with hg <;> cases h
    · exact .drop hd hg
    · exact .check hd (not_not.mp hg)
  case checked c =>
    split_ifs at h with hcursor <;> cases h
    · refine .mismatch hd fun hc ↦ ?_
      rw [← hc] at hcursor
      exact hcursor.elim (fun h ↦ h rfl) fun h ↦ h rfl
    · push Not at hcursor
      refine .compare hd ?_
      rw [PreparedPlayoutCommand.cursor, PreparedVoicePacket.cursor, hcursor.1, hcursor.2]
  case compared c =>
    split_ifs at h <;> cases h
    · exact .send hd
    · exact .socketFailed hd
  case sent c =>
    split_ifs at h with hcursor <;> cases h
    · exact .advance hd hcursor
    · exact .overtaken hd hcursor
  case advanced c =>
    cases h
    exact .record hd
  case stopped exit => cases h

/-- The commands this sender put on the wire and gave no record of yet. -/
def onWire (d : DeadlineSender) : List PreparedPlayoutCommand :=
  match d.pc with
  | .sent c | .advanced c => [c]
  | .stopped (.sendRecordUnavailable c) | .stopped (.cursorAdvancedConcurrently c) => [c]
  | _ => []

/-- The commands this sender was given and has not put on the wire. -/
def waiting (d : DeadlineSender) : List PreparedPlayoutCommand :=
  match d.pc with
  | .taken c | .checked c | .compared c => c :: d.commands
  | _ => d.commands

end DeadlineSender

end DiscordVoice.Media
