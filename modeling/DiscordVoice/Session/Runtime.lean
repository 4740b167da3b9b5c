import DiscordVoice.Media.Driver
import DiscordVoice.Pool
import DiscordVoice.Session.Snapshot

namespace DiscordVoice.Session

open Voice (VoiceContext)
open Media (MediaCommand)

def playbackMediaCommandChannelCapacity : ℕ := 32

inductive Command
  | joinVoice (voice : VoiceContext)
  | updateVoiceContext (voice : VoiceContext)
  | play (videoId : String)
  | pause
  | resume
  | stop
  | leaveVoice
  deriving DecidableEq, Repr

structure DriverExit where
  endedNaturally : Bool
  error : Option RuntimeError
  isConnected : Bool
  mediaStarted : Bool
  deriving DecidableEq, Repr

/-- A driver that is gone without a result has lost the session. -/
inductive DriverStatus
  | waiting
  | running
  | exited (exit : Option DriverExit)
  deriving DecidableEq, Repr

/-- The command channel of one live media driver and the driver behind it. -/
structure Channel where
  mailbox : List MediaCommand := []
  applying : Option MediaCommand := none
  paused : Bool := false
  status : DriverStatus := .waiting
  deriving DecidableEq, Repr

/-- `writes` counts the writes of the snapshot, which the program does not read. -/
structure Shared where
  hasPlayback : Bool
  snapshot : Snapshot := {}
  voice : Option SessionHandle := none
  voiceLocked : Bool := false
  mediaCommands : Option ℕ := none
  channels : List Channel := []
  mediaOwnerReturnCount : ℕ := 0
  playbackEpoch : ℕ := 0
  rolloverEpoch : ℕ := 0
  voiceTransportGeneration : ℕ := 0
  writes : ℕ := 0
  deriving DecidableEq, Repr

namespace Shared

def write (sh : Shared) (f : Snapshot → Snapshot) : Shared :=
  { sh with snapshot := f sh.snapshot, writes := sh.writes + 1 }

def bumpPlayback (sh : Shared) : Shared := { sh with playbackEpoch := sh.playbackEpoch + 1 }

def bumpRollover (sh : Shared) : Shared := { sh with rolloverEpoch := sh.rolloverEpoch + 1 }

def bumpGeneration (sh : Shared) : Shared :=
  { sh with voiceTransportGeneration := sh.voiceTransportGeneration + 1 }

def playbackInterrupted (sh : Shared) (playbackEpoch : ℕ) : Bool := sh.playbackEpoch ≠ playbackEpoch

def updateChannel (sh : Shared) (channel : ℕ) (f : Channel → Channel) : Shared :=
  { sh with channels := sh.channels.modify channel f }

/-- `Sender::send`: waits while the mailbox is full, and is lost when the driver is gone. -/
def send (sh : Shared) (channel : ℕ) (command : MediaCommand) : Option Shared := do
  let c ← sh.channels[channel]?
  match c.status with
  | .exited _ => return sh
  | _ =>
    if c.mailbox.length < playbackMediaCommandChannelCapacity then
      return sh.updateChannel channel fun c ↦ { c with mailbox := c.mailbox ++ [command] }
    else none

/-- `Sender::try_send`: gives up where `send` would wait. -/
def trySend (sh : Shared) (channel : ℕ) (command : MediaCommand) : Shared :=
  (sh.send channel command).getD sh

/-- `install_media_commands` with the sender of a new channel. -/
def installMediaCommands (sh : Shared) : Shared :=
  { sh with mediaCommands := some sh.channels.length, channels := sh.channels ++ [{}] }

def clearMediaCommandsIfCurrent (sh : Shared) (channel : ℕ) : Shared :=
  if sh.mediaCommands = some channel then { sh with mediaCommands := none } else sh

end Shared

/-- A call of `play_with_epoch`; `rollover` is set when `resume_after_rollover` made it. -/
structure Attempt where
  videoId : String
  playbackEpoch : ℕ
  rollover : Option ℕ := none
  deriving DecidableEq, Repr

structure Prepared where
  selectedItag : ℕ
  depth : ℕ
  positionMs : ℕ
  deriving DecidableEq, Repr

/-- The locals of `send_playback_frames`; `session` is with the driver while that runs. -/
structure Pipeline where
  attempt : Attempt
  prepared : Prepared
  generation : ℕ
  session : SessionHandle
  channel : ℕ := 0
  bufferingForSource : Bool := false
  deriving DecidableEq, Repr

/-- The locals of the exit path of `send_playback_frames`. -/
structure Ending where
  endedNaturally : Bool := false
  error : Option RuntimeError := none
  session : Option SessionHandle := none
  interrupted : Bool := false
  restore : Bool := false
  cleanup : Outcome := .ok
  deriving DecidableEq, Repr

/-- The locals of `rollover_voice_context`. -/
structure Rollover where
  voice : VoiceContext
  resumeVideoId : Option String
  epoch : ℕ
  deriving DecidableEq, Repr

/-- What `rollover_resume_is_still_intended` and `resume_attempt_is_still_current` compare. -/
structure Check where
  videoId : String
  playbackEpoch : ℕ
  rolloverEpoch : ℕ
  deriving DecidableEq, Repr

/-- Where a command stands: before its next access to what it shares with the others. -/
inductive Pc
  | finished (outcome : Outcome)
  | sendMedia (command : MediaCommand) (next : Pc)
  | deliver (channel : ℕ) (command : MediaCommand) (next : Pc)
  | checkRollover (c : Check) (yes no : Pc)
  | checkPlayback (c : Check) (yes no : Pc)
  | checkVideo (c : Check) (yes no : Pc)
  | joinEnter (voice : VoiceContext)
  | joinConnect (voice : VoiceContext)
  | joinSettle (session : SessionHandle)
  | joinReady (session : SessionHandle)
  | updateEnter (voice : VoiceContext)
  | refreshOwner (voice : VoiceContext)
  | refreshSlot (voice : VoiceContext)
  | refreshSuspend (voice : VoiceContext)
  | refreshWrite (voice : VoiceContext)
  | rolloverEnter (voice : VoiceContext)
  | rolloverBegin (voice : VoiceContext) (resumeVideoId : Option String)
  | rolloverOwner (r : Rollover)
  | rolloverGeneration (r : Rollover)
  | rolloverWait (r : Rollover) (generation : ℕ)
  | rolloverInterrupt (r : Rollover)
  | rolloverCompare (r : Rollover)
  | replaceGeneration (r : Rollover)
  | replaceInterrupt (r : Rollover)
  | replaceClear (r : Rollover)
  | replaceGuard (r : Rollover)
  | replaceAnnounce (r : Rollover) (guard : ℕ)
  | replaceConnect (r : Rollover) (guard : ℕ)
  | replaceSettle (r : Rollover) (guard : ℕ) (session : SessionHandle)
  | replaceFailed (r : Rollover) (guard : ℕ) (error : RuntimeError)
  | replaceCurrent (r : Rollover) (guard : ℕ) (session : SessionHandle)
  | replaceInstall (r : Rollover) (guard : ℕ) (session : SessionHandle)
  | matchInterrupt (r : Rollover)
  | matchGuard (r : Rollover)
  | matchAnnounce (r : Rollover) (guard : ℕ)
  | matchRefresh (r : Rollover) (guard : ℕ)
  | reconnectedWrite (r : Rollover) (guard : ℕ) (session : SessionHandle)
  | recoverWrite (reason : String) (outcome : Outcome)
  | quiesceSlot (reason : String) (outcome : Outcome)
  | quiesceBoundary (reason : String) (outcome : Outcome)
  | interruptWrite (reason : String) (outcome : Outcome)
  | resumeBegin (videoId : String) (rolloverEpoch : ℕ)
  | playBegin (videoId : String)
  | playHint (a : Attempt)
  | playResolve (a : Attempt) (positionMs : ℕ)
  | playWaitEpoch (a : Attempt)
  | playWaitSlot (a : Attempt)
  | playPrepare (a : Attempt)
  | playPrepared (a : Attempt) (p : Prepared)
  | playBuffering (a : Attempt) (p : Prepared)
  | playFill (a : Attempt) (p : Prepared)
  | playFilled (a : Attempt) (p : Prepared)
  | playTake (a : Attempt) (p : Prepared)
  | playSpeaking (a : Attempt) (p : Prepared) (session : SessionHandle)
  | playSpoken (a : Attempt) (p : Prepared) (session : SessionHandle)
  | playGiveBack (a : Attempt) (session : SessionHandle) (outcome : Outcome)
  | playGeneration (a : Attempt) (p : Prepared) (session : SessionHandle)
  | pipeInstall (p : Pipeline)
  | pipeDepth (p : Pipeline)
  | pipePlaying (p : Pipeline)
  | pipeSpawn (p : Pipeline)
  | pipeLoop (p : Pipeline)
  | pipeSelect (p : Pipeline)
  | pipeEmit (p : Pipeline) (kind : PlaybackEventKind)
  | pipeProgress (p : Pipeline)
  | pipeClear (p : Pipeline) (driverDone : Bool) (e : Ending)
  | pipeStop (p : Pipeline) (e : Ending)
  | pipeAwait (p : Pipeline) (e : Ending)
  | pipeInterrupted (p : Pipeline) (e : Ending)
  | pipeRestoreGeneration (p : Pipeline) (e : Ending)
  | pipeRestoreSlot (p : Pipeline) (e : Ending)
  | pipeBoundary (p : Pipeline) (e : Ending) (session : SessionHandle)
  | pipePutBack (p : Pipeline) (e : Ending) (session : SessionHandle)
  | pipeReturned (p : Pipeline) (e : Ending)
  | pipeEnded (p : Pipeline) (e : Ending)
  | pauseEnter
  | pauseWrite
  | resumeEnter
  | resumeWrite
  | stopEnter
  | stopOwner
  | stopGeneration (active : Bool)
  | stopWait (active : Bool) (generation : ℕ)
  | stopInterrupt (active : Bool) (generation : ℕ)
  | stopSlot (active : Bool)
  | stopBoundary
  | stopWrite
  | leaveRollover
  | leavePlayback
  | leaveOwner
  | leaveCount (active : Bool)
  | leaveGeneration (active : Bool) (count : ℕ)
  | leaveStopped (count : ℕ)
  | leaveClear
  | leaveWrite
  | leaveSlot
  deriving DecidableEq, Repr

def handleCommand : Command → Pc
  | .joinVoice voice => .joinEnter voice
  | .updateVoiceContext voice => .updateEnter voice
  | .play videoId => .playBegin videoId
  | .pause => .pauseEnter
  | .resume => .resumeEnter
  | .stop => .stopEnter
  | .leaveVoice => .leaveRollover

/-- The metrics of the pipeline that lead to a write of the snapshot; `other` is every other one. -/
inductive PipelineMetric
  | sourceUnderrun (depth : ℕ)
  | resumedAfterSourceUnderrun (depth : ℕ)
  | sent (depth : ℕ) (positionMs : Option ℕ)
  | skipped (depth : ℕ)
  | other
  deriving DecidableEq, Repr

/-- What an await gives back. -/
inductive Answer
  | go
  | timedOut
  | failed (error : RuntimeError)
  | connected (isConnected : Bool)
  | prepared (p : Prepared)
  | depth (n : ℕ)
  | session (isConnected mediaStarted : Bool)
  | sessionFailed (error : RuntimeError) (isConnected mediaStarted : Bool)
  | metric (m : PipelineMetric)
  | driverResult
  | metricsClosed
  deriving DecidableEq, Repr

/-- What a step leaves: the shared state, where the task stands, and the tasks it spawned. -/
abbrev Next := Shared × Pc × List Pc

def goto (sh : Shared) (pc : Pc) : Option Next := some (sh, pc, [])

/-- A step that needs the lock of the voice slot. -/
def lockingVoice (sh : Shared) (next : Option Next) : Option Next := if sh.voiceLocked then none else next

def orFinish (sh : Shared) (checked : Except RuntimeError Unit) (next : Option Next) : Option Next :=
  match checked with
  | .error error => goto sh (.finished (.err error))
  | .ok () => next

def stopCommand (accountPoppedFrameAsSkipped : Bool) : MediaCommand := .stop accountPoppedFrameAsSkipped

/-- `quiesce_current_transport`, then `interrupt_playback`. -/
def quiesceAndInterrupt (reason : String) (outcome : Outcome) : Pc :=
  .sendMedia (stopCommand true) (.quiesceSlot reason outcome)

/-- What the caller of `play_with_epoch` does with its result. -/
def playReturns (a : Attempt) (outcome : Outcome) : Pc :=
  match a.rollover, outcome with
  | some rolloverEpoch, .err error =>
    .checkRollover ⟨a.videoId, a.playbackEpoch, rolloverEpoch⟩
      (quiesceAndInterrupt ("failed to resume playback after voice reconnect: " ++ error.text) .ok)
      (.finished .ok)
  | some _, .ok => .finished .ok
  | none, outcome => .finished outcome

section Media

def sendMedia (sh : Shared) (command : MediaCommand) (next : Pc) : Option Next :=
  match sh.mediaCommands with
  | some channel => goto sh (.deliver channel command next)
  | none => goto sh next

def deliver (sh : Shared) (channel : ℕ) (command : MediaCommand) (next : Pc) : Option Next :=
  (sh.send channel command).bind fun sh ↦ goto sh next

/-- `wait_for_media_owner_session`; the generation is read before the slot, so it may have moved
by the time the slot is found empty at the deadline. -/
def waitForMediaOwnerSession (sh : Shared) (generation : ℕ) (next : Pc) : Answer → Option Next
  | .go =>
    if sh.voiceTransportGeneration ≠ generation then goto sh next
    else lockingVoice sh (if sh.voice.isSome then goto sh next else none)
  | .timedOut =>
    lockingVoice sh (if sh.voice.isNone then
      goto sh (.finished (.err (.invalidState "live media driver did not return voice session")))
    else none)
  | _ => none

end Media

section Join

def joinEnter (sh : Shared) (voice : VoiceContext) : Option Next :=
  orFinish sh (ensureJoinableSession sh.snapshot)
    (goto (sh.write fun s ↦ s.connecting voice) (.joinConnect voice))

def joinConnect (sh : Shared) (voice : VoiceContext) : Answer → Option Next
  | .connected isConnected => goto sh (.joinSettle ⟨voice, isConnected, false, false, false⟩)
  | .failed error => goto sh (.finished (.err error))
  | _ => none

def joinSettle (sh : Shared) (session : SessionHandle) : Answer → Option Next
  | .session isConnected mediaStarted => goto sh (.joinReady (session.after isConnected mediaStarted))
  | .failed error => goto sh (.finished (.err error))
  | _ => none

/-- The state lock is held until the slot is set, so both writes are seen at once. -/
def joinReady (sh : Shared) (session : SessionHandle) : Option Next :=
  lockingVoice sh
    (goto { sh.write fun s ↦ s.joined session with voice := some session } (.finished .ok))

end Join

section Update

def updateEnter (sh : Shared) (voice : VoiceContext) : Option Next :=
  orFinish sh (ensureActiveVoiceSession sh.snapshot .updateVoiceContext)
    (goto sh (if sh.snapshot.state = .paused then .refreshOwner voice else .rolloverEnter voice))

def refreshOwner (sh : Shared) (voice : VoiceContext) : Option Next :=
  goto sh (if sh.mediaCommands.isSome then .refreshWrite voice else .refreshSlot voice)

def refreshSlot (sh : Shared) (voice : VoiceContext) : Option Next :=
  lockingVoice sh
    (if sh.voice.any fun session ↦ session.isConnected then
      goto { sh with voiceLocked := true } (.refreshSuspend voice)
    else goto { sh with voice := some (.disconnected voice) } (.refreshWrite voice))

def refreshSuspend (sh : Shared) (voice : VoiceContext) : Answer → Option Next
  | .go =>
    goto { sh with voiceLocked := false, voice := some (.disconnected voice) } (.refreshWrite voice)
  | .sessionFailed error isConnected mediaStarted =>
    goto { sh with
      voiceLocked := false, voice := sh.voice.map fun session ↦ session.after isConnected mediaStarted }
      (.finished (.err error))
  | _ => none

def refreshWrite (sh : Shared) (voice : VoiceContext) : Option Next :=
  if sh.snapshot.state = .paused then
    goto (sh.write fun s ↦ s.refreshed voice) (.finished .ok)
  else goto sh (.finished .ok)

def rolloverEnter (sh : Shared) (voice : VoiceContext) : Option Next :=
  orFinish sh (ensureActiveVoiceSession sh.snapshot .updateVoiceContext)
    (goto sh (.rolloverBegin voice sh.snapshot.currentVideoId))

def rolloverBegin (sh : Shared) (voice : VoiceContext) (resumeVideoId : Option String) : Option Next :=
  goto sh.bumpRollover (.rolloverOwner ⟨voice, resumeVideoId, sh.rolloverEpoch + 1⟩)

def rolloverOwner (sh : Shared) (r : Rollover) : Option Next :=
  goto sh (if sh.mediaCommands.isSome then .rolloverGeneration r else .rolloverCompare r)

def rolloverGeneration (sh : Shared) (r : Rollover) : Option Next :=
  goto sh (.sendMedia (stopCommand false) (.rolloverWait r sh.voiceTransportGeneration))

/-- `current_voice_context_matches`. -/
def rolloverCompare (sh : Shared) (r : Rollover) : Option Next :=
  lockingVoice sh
    (goto sh
      (if sh.voice.any fun session ↦ session.voiceContext = r.voice then .matchInterrupt r
      else .replaceGeneration r))

def reconnectReason (error : RuntimeError) : String := "voice reconnect failed: " ++ error.text

def replaceConnect (sh : Shared) (r : Rollover) (guard : ℕ) : Answer → Option Next
  | .connected isConnected => goto sh (.replaceSettle r guard ⟨r.voice, isConnected, false, false, false⟩)
  | .failed error => goto sh (.replaceFailed r guard error)
  | _ => none

def replaceSettle (sh : Shared) (r : Rollover) (guard : ℕ) (session : SessionHandle) :
    Answer → Option Next
  | .session isConnected mediaStarted =>
    goto sh (.replaceCurrent r guard (session.after isConnected mediaStarted))
  | .failed error => goto sh (.replaceFailed r guard error)
  | _ => none

def replaceFailed (sh : Shared) (r : Rollover) (guard : ℕ) (error : RuntimeError) : Option Next :=
  let recover := Pc.recoverWrite (reconnectReason error) (.err error)
  if sh.rolloverEpoch ≠ r.epoch then goto sh (.finished .ok)
  else match r.resumeVideoId with
    | some videoId =>
      goto sh (.checkRollover ⟨videoId, guard, r.epoch⟩
        (quiesceAndInterrupt (reconnectReason error) (.err error)) recover)
    | none => goto sh recover

def replaceCurrent (sh : Shared) (r : Rollover) (guard : ℕ) (session : SessionHandle) : Option Next :=
  goto sh (if sh.rolloverEpoch ≠ r.epoch then .finished .ok else .replaceInstall r guard session)

def replaceInstall (sh : Shared) (r : Rollover) (guard : ℕ) (session : SessionHandle) : Option Next :=
  lockingVoice sh (goto { sh with voice := some session } (.reconnectedWrite r guard session))

def matchRefresh (sh : Shared) (r : Rollover) (guard : ℕ) : Option Next :=
  lockingVoice sh
    (match sh.voice with
    | none =>
      goto sh (.finished (.err (.invalidState "voice reconnect refresh missing active voice session")))
    | some session =>
      let session := { session with voiceContext := r.voice }
      goto { sh with voice := some session } (.reconnectedWrite r guard session))

/-- What a rollover does once the session is in the slot: resume the track it interrupted. -/
def resumeIntended (sh : Shared) (r : Rollover) (guard : ℕ) : Pc :=
  match r.resumeVideoId with
  | some videoId =>
    if sh.hasPlayback then
      .checkRollover ⟨videoId, guard, r.epoch⟩ (.resumeBegin videoId r.epoch) (.finished .ok)
    else .finished .ok
  | none => .finished .ok

def reconnectedWrite (sh : Shared) (r : Rollover) (guard : ℕ) (session : SessionHandle) : Option Next :=
  goto (sh.write fun s ↦ s.reconnected session) (resumeIntended sh r guard)

def quiesceSlot (sh : Shared) (reason : String) (outcome : Outcome) : Option Next :=
  lockingVoice sh
    (if sh.voice.any fun session ↦ session.isConnected && session.mediaStarted then
      goto { sh with voiceLocked := true } (.quiesceBoundary reason outcome)
    else goto sh (.interruptWrite reason outcome))

def quiesceBoundary (sh : Shared) (reason : String) (outcome : Outcome) : Answer → Option Next
  | .session isConnected mediaStarted =>
    goto { sh with
      voiceLocked := false, voice := sh.voice.map fun session ↦ session.after isConnected mediaStarted }
      (.interruptWrite reason outcome)
  | _ => none

/-- `begin_playback` for the track a rollover interrupted, and the task that resumes it. -/
def resumeBegin (sh : Shared) (videoId : String) (rolloverEpoch : ℕ) : Option Next :=
  let a : Attempt := ⟨videoId, sh.playbackEpoch + 1, some rolloverEpoch⟩
  some (sh.bumpPlayback, .finished .ok,
    [.checkRollover ⟨videoId, a.playbackEpoch, rolloverEpoch⟩ (.playHint a) (.finished .ok)])

end Update

section Play

def playBegin (sh : Shared) (videoId : String) : Option Next :=
  goto sh.bumpPlayback (.playHint ⟨videoId, sh.playbackEpoch + 1, none⟩)

def playHint (sh : Shared) (a : Attempt) : Option Next :=
  goto sh (.playResolve a
    (if sh.snapshot.currentVideoId = some a.videoId then sh.snapshot.positionMs else 0))

def playResolve (sh : Shared) (a : Attempt) (positionMs : ℕ) : Option Next :=
  if sh.playbackInterrupted a.playbackEpoch then goto sh (playReturns a .ok)
  else match ensureActiveVoiceSession sh.snapshot .play with
    | .error error => goto sh (playReturns a (.err error))
    | .ok () =>
      goto (sh.write fun s ↦ s.resolving a.videoId positionMs)
        (if sh.hasPlayback then .playWaitEpoch a else playReturns a .ok)

def playWaitEpoch (sh : Shared) (a : Attempt) : Option Next :=
  goto sh (if sh.playbackInterrupted a.playbackEpoch then playReturns a .ok else .playWaitSlot a)

def playWaitSlot (sh : Shared) (a : Attempt) (answer : Answer) : Option Next :=
  lockingVoice sh
    (match sh.voice with
    | none => goto sh (playReturns a .ok)
    | some session =>
      if session.isConnected then goto sh (.playPrepare a)
      else match answer with
        | .go => goto sh (.playWaitEpoch a)
        | .timedOut => goto sh (playReturns a .ok)
        | _ => none)

def playPrepare (sh : Shared) (a : Attempt) : Answer → Option Next
  | .prepared p => goto sh (.playPrepared a p)
  | .failed error => goto sh (playReturns a (.err error))
  | _ => none

def playPrepared (sh : Shared) (a : Attempt) (p : Prepared) : Option Next :=
  goto sh (if sh.playbackInterrupted a.playbackEpoch then playReturns a .ok else .playBuffering a p)

/-- `emit_playback_state`: nothing once the attempt is interrupted or the track is paused. -/
def emitPlaybackState (sh : Shared) (kind : PlaybackEventKind) (a : Attempt) (p : Prepared) : Shared :=
  if sh.playbackInterrupted a.playbackEpoch then sh
  else if sh.snapshot.state = .paused then sh
  else sh.write fun s ↦ s.emitPlaybackState kind a.videoId p.selectedItag p.depth p.positionMs

def playFill (sh : Shared) (a : Attempt) (p : Prepared) : Answer → Option Next
  | .depth depth => goto sh (.playFilled a { p with depth })
  | .failed error => goto sh (playReturns a (.err error))
  | _ => none

def playFilled (sh : Shared) (a : Attempt) (p : Prepared) : Option Next :=
  goto sh (if sh.playbackInterrupted a.playbackEpoch then playReturns a .ok else .playTake a p)

def playTake (sh : Shared) (a : Attempt) (p : Prepared) : Option Next :=
  lockingVoice sh
    (if sh.playbackInterrupted a.playbackEpoch then goto sh (playReturns a .ok)
    else match sh.voice with
      | none => goto sh (playReturns a (.err (.invalidState "play requires active voice session")))
      | some session => goto { sh with voice := none } (.playSpeaking a p session))

def playSpeaking (sh : Shared) (a : Attempt) (p : Prepared) (session : SessionHandle) :
    Answer → Option Next
  | .session isConnected mediaStarted =>
    goto sh (.playSpoken a p (session.after isConnected mediaStarted))
  | .sessionFailed error isConnected mediaStarted =>
    goto sh (.playGiveBack a (session.after isConnected mediaStarted) (.err error))
  | _ => none

def playSpoken (sh : Shared) (a : Attempt) (p : Prepared) (session : SessionHandle) : Option Next :=
  goto sh
    (if sh.playbackInterrupted a.playbackEpoch then .playGiveBack a session .ok
    else .playGeneration a p session)

def playGiveBack (sh : Shared) (a : Attempt) (session : SessionHandle) (outcome : Outcome) :
    Option Next :=
  lockingVoice sh
    (goto { sh with voice := some (sh.voice.getD session) } (playReturns a outcome))

def playGeneration (sh : Shared) (a : Attempt) (p : Prepared) (session : SessionHandle) : Option Next :=
  goto sh (.pipeInstall ⟨a, p, sh.voiceTransportGeneration, session, 0, false⟩)

end Play

section Pipeline

def pipeInstall (sh : Shared) (p : Pipeline) : Option Next :=
  goto sh.installMediaCommands (.pipeDepth { p with channel := sh.channels.length })

def Pipeline.withDepth (p : Pipeline) (depth : ℕ) : Pipeline :=
  { p with prepared := { p.prepared with depth } }

def pipeDepth (sh : Shared) (p : Pipeline) : Answer → Option Next
  | .depth depth => goto sh (if 0 < depth then .pipePlaying (p.withDepth depth) else .pipeSpawn (p.withDepth depth))
  | _ => none

def Channel.spawn (c : Channel) : Channel :=
  match c.status with
  | .waiting => { c with status := .running }
  | _ => c

def pipeSpawn (sh : Shared) (p : Pipeline) : Option Next :=
  goto (sh.updateChannel p.channel Channel.spawn) (.pipeLoop p)

def pipeLoop (sh : Shared) (p : Pipeline) : Option Next :=
  goto
    (if sh.playbackInterrupted p.attempt.playbackEpoch then sh.trySend p.channel (stopCommand true) else sh)
    (.pipeSelect p)

def driverExit (sh : Shared) (p : Pipeline) : Option (Option DriverExit) := do
  let c ← sh.channels[p.channel]?
  match c.status with
  | .exited exit => return exit
  | _ => none

/-- The exit record as `send_playback_frames` reads it; `e` is what it has noted so far. -/
def Ending.ofExit (e : Ending) (p : Pipeline) : Option DriverExit → Ending
  | none => { e with error := some (e.error.getD (.invalidState "live media driver stopped without result")) }
  | some exit =>
    { e with
      endedNaturally := e.endedNaturally || exit.endedNaturally
      error := e.error.or exit.error
      session := some (p.session.after exit.isConnected exit.mediaStarted) }

def pipeMetric (sh : Shared) (p : Pipeline) : PipelineMetric → Option Next
  | .sourceUnderrun depth =>
    if p.bufferingForSource then goto sh (.pipeLoop (p.withDepth depth))
    else goto sh (.pipeEmit { p.withDepth depth with bufferingForSource := true } .buffering)
  | .resumedAfterSourceUnderrun depth =>
    if p.bufferingForSource then
      goto sh (.pipeEmit { p.withDepth depth with bufferingForSource := false } .playing)
    else goto sh (.pipeLoop (p.withDepth depth))
  | .sent depth positionMs =>
    goto sh (.pipeProgress
      { p with prepared := { p.prepared with depth, positionMs := positionMs.getD p.prepared.positionMs } })
  | .skipped depth => goto sh (.pipeProgress (p.withDepth depth))
  | .other => goto sh (.pipeLoop p)

/-- The driver holds a sender of the metrics until it is gone, so they close only after its exit. -/
def pipeSelect (sh : Shared) (p : Pipeline) : Answer → Option Next
  | .metric m => pipeMetric sh p m
  | .driverResult => do
    let exit ← driverExit sh p
    goto sh (.pipeClear p true (Ending.ofExit {} p exit))
  | .metricsClosed => do
    let _ ← driverExit sh p
    goto sh (.pipeClear p false {})
  | .timedOut => goto sh (.pipeLoop p)
  | _ => none

def pipeProgress (sh : Shared) (p : Pipeline) : Option Next :=
  goto
    (if sh.playbackInterrupted p.attempt.playbackEpoch then sh
    else sh.write fun s ↦ s.progress p.prepared.depth p.prepared.positionMs)
    (.pipeLoop p)

def pipeClear (sh : Shared) (p : Pipeline) (driverDone : Bool) (e : Ending) : Option Next :=
  goto (sh.clearMediaCommandsIfCurrent p.channel)
    (if driverDone then .pipeInterrupted p e else .pipeStop p e)

def pipeStop (sh : Shared) (p : Pipeline) (e : Ending) : Option Next :=
  (sh.send p.channel (stopCommand true)).bind fun sh ↦ goto sh (.pipeAwait p e)

def pipeAwait (sh : Shared) (p : Pipeline) (e : Ending) : Option Next := do
  let exit ← driverExit sh p
  goto sh (.pipeInterrupted p (e.ofExit p exit))

def pipeInterrupted (sh : Shared) (p : Pipeline) (e : Ending) : Option Next :=
  let e := { e with interrupted := sh.playbackInterrupted p.attempt.playbackEpoch }
  goto sh (if e.session.isSome then .pipeRestoreGeneration p e else .pipeReturned p e)

/-- Where the exit path goes with the session the driver returned. -/
def pipeCleanUp (p : Pipeline) (e : Ending) : Pc :=
  match e.session with
  | some session => .pipeBoundary p e session
  | none => .pipeReturned p e

def pipeRestoreGeneration (sh : Shared) (p : Pipeline) (e : Ending) : Option Next :=
  goto sh
    (if sh.voiceTransportGeneration = p.generation then .pipeRestoreSlot p e
    else pipeCleanUp p { e with restore := false })

def pipeRestoreSlot (sh : Shared) (p : Pipeline) (e : Ending) : Option Next :=
  lockingVoice sh (goto sh (pipeCleanUp p { e with restore := sh.voice.isNone }))

def pipeBoundaryDone (p : Pipeline) (e : Ending) (session : SessionHandle) : Pc :=
  if e.restore then .pipePutBack p e session else .pipeReturned p e

/-- The stop boundary of a session whose track is over, or is interrupted; else nothing is sent. -/
def pipeBoundary (sh : Shared) (p : Pipeline) (e : Ending) (session : SessionHandle)
    (answer : Answer) : Option Next :=
  if e.endedNaturally || e.interrupted then
    match answer with
    | .session isConnected mediaStarted =>
      goto sh (pipeBoundaryDone p e (session.after isConnected mediaStarted))
    | .sessionFailed error isConnected mediaStarted =>
      goto sh (pipeBoundaryDone p { e with cleanup := .err error }
        (session.after isConnected mediaStarted))
    | _ => none
  else goto sh (pipeBoundaryDone p e session)

def pipePutBack (sh : Shared) (p : Pipeline) (e : Ending) (session : SessionHandle) : Option Next :=
  lockingVoice sh (goto { sh with voice := some session } (.pipeReturned p e))

def Ending.outcome (e : Ending) : Outcome :=
  match e.error with
  | some error => .err error
  | none => e.cleanup

def pipeReturned (sh : Shared) (p : Pipeline) (e : Ending) : Option Next :=
  goto { sh with mediaOwnerReturnCount := sh.mediaOwnerReturnCount + 1 }
    (if e.endedNaturally && !e.interrupted && e.error.isNone then .pipeEnded p e
    else playReturns p.attempt e.outcome)

def pipeEnded (sh : Shared) (p : Pipeline) (e : Ending) : Option Next :=
  goto (if sh.playbackInterrupted p.attempt.playbackEpoch then sh else sh.write Snapshot.trackEnded)
    (playReturns p.attempt e.outcome)

end Pipeline

section PauseResume

def checked (sh : Shared) (goesOn : Except RuntimeError Bool) (next : Option Next) : Option Next :=
  match goesOn with
  | .error error => goto sh (.finished (.err error))
  | .ok false => goto sh (.finished .ok)
  | .ok true => next

def pauseEnter (sh : Shared) : Option Next :=
  checked sh (pauseGoesOn sh.snapshot) (goto sh (.sendMedia .pause .pauseWrite))

def pauseWrite (sh : Shared) : Option Next :=
  checked sh (pauseGoesOn sh.snapshot)
    (goto (sh.write fun s ↦ { s with state := .paused }) (.finished .ok))

def resumeEnter (sh : Shared) : Option Next :=
  checked sh (resumeGoesOn sh.snapshot) (goto sh .resumeWrite)

def resumeWrite (sh : Shared) : Option Next :=
  checked sh (resumeGoesOn sh.snapshot)
    (goto (sh.write fun s ↦ { s with state := .playing }) (.sendMedia .resume (.finished .ok)))

end PauseResume

section StopLeave

def stopEnter (sh : Shared) : Option Next :=
  orFinish sh (ensureActiveVoiceSession sh.snapshot .stop) (goto sh .stopOwner)

def stopGeneration (sh : Shared) (active : Bool) : Option Next :=
  goto sh
    (if active then .sendMedia (stopCommand false) (.stopWait true sh.voiceTransportGeneration)
    else .stopInterrupt false sh.voiceTransportGeneration)

def stopWait (sh : Shared) (active : Bool) (generation : ℕ) (answer : Answer) : Option Next :=
  waitForMediaOwnerSession sh generation
    (if active then .stopInterrupt true generation else .stopSlot false) answer

def stopInterrupt (sh : Shared) (active : Bool) (generation : ℕ) : Option Next :=
  goto sh.bumpPlayback
    (if active then .stopSlot true else .sendMedia (stopCommand true) (.stopWait false generation))

/-- `stop` holds the lock of the slot from here to its return. -/
def stopSlot (sh : Shared) (active : Bool) : Option Next :=
  lockingVoice sh
    (goto { sh with voiceLocked := true }
      (if sh.voice.any fun session ↦ session.isConnected && (active || session.mediaStarted) then
        .stopBoundary
      else .stopWrite))

def stopBoundary (sh : Shared) : Answer → Option Next
  | .session isConnected mediaStarted =>
    goto { sh with voice := sh.voice.map fun session ↦ session.after isConnected mediaStarted } .stopWrite
  | .sessionFailed error isConnected mediaStarted =>
    goto { sh with
      voiceLocked := false, voice := sh.voice.map fun session ↦ session.after isConnected mediaStarted }
      (.finished (.err error))
  | _ => none

def stopWrite (sh : Shared) : Option Next :=
  goto { sh.write Snapshot.stopped with voiceLocked := false } (.finished .ok)

def leaveGeneration (sh : Shared) (active : Bool) (count : ℕ) : Option Next :=
  goto sh.bumpGeneration
    (.sendMedia (stopCommand true) (if active then .leaveStopped count else .leaveClear))

/-- `wait_for_media_owner_stopped_after`. -/
def leaveStopped (sh : Shared) (count : ℕ) : Answer → Option Next
  | .go => if count < sh.mediaOwnerReturnCount then goto sh .leaveClear else none
  | .timedOut =>
    if count < sh.mediaOwnerReturnCount then none
    else goto sh (.finished (.err (.invalidState "live media driver did not stop")))
  | _ => none

def leaveSlot (sh : Shared) : Option Next :=
  lockingVoice sh (goto { sh with voice := none } (.finished .ok))

end StopLeave

/-- One access of a command to what it shares with the others. -/
def advance (sh : Shared) (pc : Pc) (answer : Answer) : Option Next :=
  match pc with
  | .finished _ => none
  | .sendMedia command next => sendMedia sh command next
  | .deliver channel command next => deliver sh channel command next
  | .checkRollover c yes no => goto sh (if sh.rolloverEpoch = c.rolloverEpoch then .checkPlayback c yes no else no)
  | .checkPlayback c yes no => goto sh (if sh.playbackEpoch = c.playbackEpoch then .checkVideo c yes no else no)
  | .checkVideo c yes no => goto sh (if sh.snapshot.currentVideoId = some c.videoId then yes else no)
  | .joinEnter voice => joinEnter sh voice
  | .joinConnect voice => joinConnect sh voice answer
  | .joinSettle session => joinSettle sh session answer
  | .joinReady session => joinReady sh session
  | .updateEnter voice => updateEnter sh voice
  | .refreshOwner voice => refreshOwner sh voice
  | .refreshSlot voice => refreshSlot sh voice
  | .refreshSuspend voice => refreshSuspend sh voice answer
  | .refreshWrite voice => refreshWrite sh voice
  | .rolloverEnter voice => rolloverEnter sh voice
  | .rolloverBegin voice resumeVideoId => rolloverBegin sh voice resumeVideoId
  | .rolloverOwner r => rolloverOwner sh r
  | .rolloverGeneration r => rolloverGeneration sh r
  | .rolloverWait r generation => waitForMediaOwnerSession sh generation (.rolloverInterrupt r) answer
  | .rolloverInterrupt r => goto sh.bumpPlayback (.rolloverCompare r)
  | .rolloverCompare r => rolloverCompare sh r
  | .replaceGeneration r => goto sh.bumpGeneration (.replaceInterrupt r)
  | .replaceInterrupt r => goto sh.bumpPlayback (.sendMedia (stopCommand false) (.replaceClear r))
  | .replaceClear r => goto { sh with mediaCommands := none } (.replaceGuard r)
  | .replaceGuard r => goto sh (.replaceAnnounce r sh.playbackEpoch)
  | .replaceAnnounce r guard => goto (sh.write Snapshot.reconnecting) (.replaceConnect r guard)
  | .replaceConnect r guard => replaceConnect sh r guard answer
  | .replaceSettle r guard session => replaceSettle sh r guard session answer
  | .replaceFailed r guard error => replaceFailed sh r guard error
  | .replaceCurrent r guard session => replaceCurrent sh r guard session
  | .replaceInstall r guard session => replaceInstall sh r guard session
  | .matchInterrupt r => goto sh.bumpPlayback (.matchGuard r)
  | .matchGuard r => goto sh (.sendMedia (stopCommand false) (.matchAnnounce r sh.playbackEpoch))
  | .matchAnnounce r guard => goto (sh.write Snapshot.reconnecting) (.matchRefresh r guard)
  | .matchRefresh r guard => matchRefresh sh r guard
  | .reconnectedWrite r guard session => reconnectedWrite sh r guard session
  | .recoverWrite reason outcome => goto (sh.write fun s ↦ s.recovered reason) (.finished outcome)
  | .quiesceSlot reason outcome => quiesceSlot sh reason outcome
  | .quiesceBoundary reason outcome => quiesceBoundary sh reason outcome answer
  | .interruptWrite reason outcome => goto (sh.write fun s ↦ s.interrupted reason) (.finished outcome)
  | .resumeBegin videoId rolloverEpoch => resumeBegin sh videoId rolloverEpoch
  | .playBegin videoId => playBegin sh videoId
  | .playHint a => playHint sh a
  | .playResolve a positionMs => playResolve sh a positionMs
  | .playWaitEpoch a => playWaitEpoch sh a
  | .playWaitSlot a => playWaitSlot sh a answer
  | .playPrepare a => playPrepare sh a answer
  | .playPrepared a p => playPrepared sh a p
  | .playBuffering a p => goto (emitPlaybackState sh .buffering a p) (.playFill a p)
  | .playFill a p => playFill sh a p answer
  | .playFilled a p => playFilled sh a p
  | .playTake a p => playTake sh a p
  | .playSpeaking a p session => playSpeaking sh a p session answer
  | .playSpoken a p session => playSpoken sh a p session
  | .playGiveBack a session outcome => playGiveBack sh a session outcome
  | .playGeneration a p session => playGeneration sh a p session
  | .pipeInstall p => pipeInstall sh p
  | .pipeDepth p => pipeDepth sh p answer
  | .pipePlaying p => goto (emitPlaybackState sh .playing p.attempt p.prepared) (.pipeSpawn p)
  | .pipeSpawn p => pipeSpawn sh p
  | .pipeLoop p => pipeLoop sh p
  | .pipeSelect p => pipeSelect sh p answer
  | .pipeEmit p kind => goto (emitPlaybackState sh kind p.attempt p.prepared) (.pipeLoop p)
  | .pipeProgress p => pipeProgress sh p
  | .pipeClear p driverDone e => pipeClear sh p driverDone e
  | .pipeStop p e => pipeStop sh p e
  | .pipeAwait p e => pipeAwait sh p e
  | .pipeInterrupted p e => pipeInterrupted sh p e
  | .pipeRestoreGeneration p e => pipeRestoreGeneration sh p e
  | .pipeRestoreSlot p e => pipeRestoreSlot sh p e
  | .pipeBoundary p e session => pipeBoundary sh p e session answer
  | .pipePutBack p e session => pipePutBack sh p e session
  | .pipeReturned p e => pipeReturned sh p e
  | .pipeEnded p e => pipeEnded sh p e
  | .pauseEnter => pauseEnter sh
  | .pauseWrite => pauseWrite sh
  | .resumeEnter => resumeEnter sh
  | .resumeWrite => resumeWrite sh
  | .stopEnter => stopEnter sh
  | .stopOwner => goto sh (.stopGeneration sh.mediaCommands.isSome)
  | .stopGeneration active => stopGeneration sh active
  | .stopWait active generation => stopWait sh active generation answer
  | .stopInterrupt active generation => stopInterrupt sh active generation
  | .stopSlot active => stopSlot sh active
  | .stopBoundary => stopBoundary sh answer
  | .stopWrite => stopWrite sh
  | .leaveRollover => goto sh.bumpRollover .leavePlayback
  | .leavePlayback => goto sh.bumpPlayback .leaveOwner
  | .leaveOwner => goto sh (.leaveCount sh.mediaCommands.isSome)
  | .leaveCount active => goto sh (.leaveGeneration active sh.mediaOwnerReturnCount)
  | .leaveGeneration active count => leaveGeneration sh active count
  | .leaveStopped count => leaveStopped sh count answer
  | .leaveClear => goto { sh with mediaCommands := none } .leaveWrite
  | .leaveWrite => goto (sh.write fun _ ↦ {}) .leaveSlot
  | .leaveSlot => leaveSlot sh

/-- Values of the two epochs that the runtime counts. -/
structure Epochs where
  playback : ℕ := 0
  rollover : ℕ := 0
  deriving DecidableEq, Repr

def Shared.epochs (sh : Shared) : Epochs := ⟨sh.playbackEpoch, sh.rolloverEpoch⟩

/-- The last bumps of a task, each zero before the first one, after an access that took `sh` to `sh'`. -/
def Epochs.after (e : Epochs) (sh sh' : Shared) : Epochs where
  playback := if sh'.playbackEpoch = sh.playbackEpoch then e.playback else sh'.playbackEpoch
  rollover := if sh'.rolloverEpoch = sh.rolloverEpoch then e.rollover else sh'.rolloverEpoch

/-- A command in flight, or the task a rollover spawned. What the epochs were at its first bump, what it
has bumped them to and whether it has written the snapshot the program does not read. -/
structure Task where
  command : Option Command
  pc : Pc
  firstBump : Epochs := {}
  lastBump : Epochs := {}
  wrote : Bool := false
  deriving DecidableEq, Repr

/-- The task at `pc` after an access that took `sh` to `sh'`. -/
def Task.after (t : Task) (sh sh' : Shared) (pc : Pc) : Task where
  command := t.command
  pc := pc
  firstBump := if t.lastBump = {} then sh'.epochs else t.firstBump
  lastBump := t.lastBump.after sh sh'
  wrote := t.wrote || sh'.writes != sh.writes

def Task.start (command : Command) : Task := ⟨some command, handleCommand command, {}, {}, false⟩

/-- The task that a rollover spawns begins with its `begin_playback`, and holds its rollover epoch. -/
def Task.spawn (t : Task) (pc : Pc) : Task := ⟨none, pc, t.lastBump, t.lastBump, false⟩

def taskStep (sh : Shared) (t : Task) (answer : Answer) : Option (Shared × Task × List Task) := do
  let (sh', pc, spawned) ← advance sh t.pc answer
  return (sh', t.after sh sh' pc, spawned.map (t.after sh sh' pc).spawn)

/-- The live media driver as the runtime sees it. -/
inductive DriverMove
  | take (channel : ℕ)
  | apply (channel : ℕ)
  | exit (channel : ℕ) (exit : Option DriverExit)
  deriving DecidableEq, Repr

namespace Channel

def take (c : Channel) : Option Channel :=
  match c.status, c.applying, c.mailbox with
  | .running, none, command :: rest => some { c with applying := some command, mailbox := rest }
  | _, _, _ => none

/-- `apply_command`; after a `Stop` the driver only returns. -/
def apply (c : Channel) : Option Channel :=
  match c.status, c.applying with
  | .running, some .pause => some { c with applying := none, paused := true }
  | .running, some .resume => some { c with applying := none, paused := false }
  | _, _ => none

def exit (c : Channel) (exit : Option DriverExit) : Option Channel :=
  match c.status, c.applying with
  | .running, some (.stop _) =>
    if exit.any fun e ↦ e.endedNaturally then none else some { c with status := .exited exit }
  | .running, _ => some { c with status := .exited exit }
  | _, _ => none

end Channel

def driverMove (sh : Shared) : DriverMove → Option Shared
  | .take channel => do
    let c ← (← sh.channels[channel]?).take
    return { sh with channels := sh.channels.set channel c }
  | .apply channel => do
    let c ← (← sh.channels[channel]?).apply
    return { sh with channels := sh.channels.set channel c }
  | .exit channel exit => do
    let c ← (← sh.channels[channel]?).exit exit
    return { sh with channels := sh.channels.set channel c }

def machine : Pool.Machine Shared Task Command Answer DriverMove where
  start command := .start command
  task := taskStep
  env := driverMove

abbrev Runtime := Pool Shared Task

abbrev Move := Pool.Move Command Answer DriverMove

def Runtime.step (rt : Runtime) (move : Move) : Option Runtime := Pool.step machine rt move

def Runtime.fresh (hasPlayback : Bool) : Runtime := ⟨{ hasPlayback }, []⟩

def Runtime.withPlaybackWorker : Runtime := .fresh true

def Runtime.new : Runtime := .fresh false

def Task.inFlight (t : Task) : Bool :=
  match t.pc with
  | .finished _ => false
  | _ => true

/-- No command is in flight, and neither is a task that one of them spawned. -/
def Runtime.atRest (rt : Runtime) : Bool := rt.tasks.all fun t ↦ !t.inFlight

def lobby : VoiceContext := ⟨"guild", "channel", "user", "session", "endpoint", "token"⟩

/-- `n` steps of task `i`, none of which awaits anything. -/
def runs (i n : ℕ) : List Move := List.replicate n (.task i .go)

/-- A first `JoinVoice` that connects. -/
def joinLobby : List Move :=
  [.start (.joinVoice lobby), .task 0 .go, .task 0 (.connected true), .task 0 (.session true false),
    .task 0 .go]

/-- `Play` as the command after `joinLobby`, up to the loop of its pipeline. -/
def playVideo : List Move :=
  .start (.play "video") :: runs 1 5 ++ .task 1 (.prepared ⟨251, 10, 0⟩) :: runs 1 2 ++
    .task 1 (.depth 50) :: runs 1 2 ++ .task 1 (.session true true) :: runs 1 3 ++
    .task 1 (.depth 50) :: runs 1 2

end DiscordVoice.Session
