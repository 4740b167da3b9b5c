import Mathlib.Order.Defs.LinearOrder
import Mathlib.Data.Nat.Basic

namespace DiscordVoice.Playback

/-- Twenty milliseconds. Instants and durations are in nanoseconds. -/
def frameDuration : ℕ := 20000000

inductive PacedPacketKind
  | track
  | nonTrack
  deriving DecidableEq, Repr

structure PacerMark where
  mediaClockReset : Bool
  tempoRebased : Bool
  deriving DecidableEq, Repr

structure AudioPacer where
  idealDeadline : ℕ
  minimumDeadline : ℕ
  emittedFrames : ℕ
  clockResetCount : ℕ
  tempoRebaseCount : ℕ
  deriving DecidableEq, Repr

namespace AudioPacer

def startingAfter (now delay : ℕ) : AudioPacer := ⟨now + delay, now + delay, 0, 0, 0⟩

def nextDeadline (p : AudioPacer) : ℕ := max p.idealDeadline p.minimumDeadline

def resetAfterInterruptionAt (p : AudioPacer) (now nextSpacing : ℕ) : AudioPacer :=
  { p with
    idealDeadline := now + nextSpacing
    minimumDeadline := now + nextSpacing
    clockResetCount := p.clockResetCount + 1 }

def resetDeadline (p : AudioPacer) (now : ℕ) : AudioPacer := p.resetAfterInterruptionAt now 0

/-- A packet is so late that it takes the clock of the media along. -/
def missesSlot (scheduledDeadline duration sendStartedAt : ℕ) : Bool :=
  0 < duration ∧ duration ≤ sendStartedAt - scheduledDeadline

def markSent (p : AudioPacer) (packetKind : PacedPacketKind)
    (scheduledDeadline duration sendStartedAt : ℕ) : PacerMark × AudioPacer :=
  let mediaClockReset := missesSlot scheduledDeadline duration sendStartedAt
  let p :=
    if mediaClockReset then p.resetAfterInterruptionAt sendStartedAt duration
    else
      { p with
        idealDeadline := sendStartedAt + duration
        minimumDeadline := sendStartedAt + duration }
  let p := { p with emittedFrames := p.emittedFrames + 1 }
  let tempoRebased := mediaClockReset && packetKind = .track
  (⟨mediaClockReset, tempoRebased⟩,
    if tempoRebased then { p with tempoRebaseCount := p.tempoRebaseCount + 1 } else p)

/-- The next packet is due when the one that was sent is over, however late that was. -/
theorem markSent_nextDeadline (p : AudioPacer) (packetKind : PacedPacketKind)
    (scheduledDeadline duration sendStartedAt : ℕ) :
    (p.markSent packetKind scheduledDeadline duration sendStartedAt).2.nextDeadline =
      sendStartedAt + duration := by
  simp only [markSent]
  split_ifs <;> exact max_self _

theorem resetDeadline_nextDeadline (p : AudioPacer) (now : ℕ) :
    (p.resetDeadline now).nextDeadline = now := max_self _

end AudioPacer

end DiscordVoice.Playback
