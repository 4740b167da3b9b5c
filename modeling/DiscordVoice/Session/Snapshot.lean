import DiscordVoice.Voice.Session

namespace DiscordVoice.Session

open Voice (VoiceContext)

inductive SessionState
  | idle
  | connectingVoice
  | voiceReady
  | resolvingTrack
  | buffering
  | playing
  | paused
  | stopping
  | error
  deriving DecidableEq, Repr

structure Snapshot where
  state : SessionState := .idle
  guildId : Option String := none
  channelId : Option String := none
  currentVideoId : Option String := none
  selectedItag : Option ℕ := none
  queueDepth : ℕ := 0
  positionMs : ℕ := 0
  recovering : Bool := false
  voiceReconnecting : Bool := false
  lastReason : Option String := none
  deriving DecidableEq, Repr

/-- What the playback commands and the live pipeline report about the track. -/
structure TrackView where
  state : SessionState
  currentVideoId : Option String
  selectedItag : Option ℕ
  positionMs : ℕ
  queueDepth : ℕ
  deriving DecidableEq, Repr

def Snapshot.track (s : Snapshot) : TrackView :=
  ⟨s.state, s.currentVideoId, s.selectedItag, s.positionMs, s.queueDepth⟩

inductive RuntimeError
  | invalidState (message : String)
  | playback (message : String)
  | voice (message : String)
  deriving DecidableEq, Repr

def RuntimeError.text : RuntimeError → String
  | .invalidState message => "invalid state: " ++ message
  | .playback message => message
  | .voice message => message

/-- The result of a command. -/
inductive Outcome
  | ok
  | err (error : RuntimeError)
  deriving DecidableEq, Repr

inductive ActionName
  | play
  | pause
  | resume
  | stop
  | updateVoiceContext
  deriving DecidableEq, Repr

def ActionName.text : ActionName → String
  | .play => "play"
  | .pause => "pause"
  | .resume => "resume"
  | .stop => "stop"
  | .updateVoiceContext => "update_voice_context"

section Readiness

def hasVoice (s : Snapshot) : Bool := s.guildId.isSome && s.channelId.isSome

def ensureJoinableSession (s : Snapshot) : Except RuntimeError Unit :=
  if s.state = .idle ∧ s.guildId = none ∧ s.channelId = none ∧ s.currentVideoId = none then .ok ()
  else .error (.invalidState "join_voice requires an idle session")

def ensureActiveVoiceSession (s : Snapshot) (action : ActionName) : Except RuntimeError Unit :=
  if hasVoice s then .ok ()
  else .error (.invalidState (action.text ++ " requires active voice session"))

def ensureTrackLoaded (s : Snapshot) (action : ActionName) : Except RuntimeError Unit := do
  ensureActiveVoiceSession s action
  if s.currentVideoId.isSome then return
  else throw (.invalidState (match action with
    | .pause => "pause requires an active track"
    | .resume => "resume requires an active track"
    | _ => "command requires an active track"))

def ensurePauseableTrack (s : Snapshot) : Except RuntimeError Unit := do
  ensureTrackLoaded s .pause
  if s.state = .playing then return
  else throw (.invalidState "pause requires a playing track")

def ensureResumableTrack (s : Snapshot) : Except RuntimeError Unit := do
  ensureTrackLoaded s .resume
  if s.state = .paused ∨ s.state = .playing then return
  else throw (.invalidState "resume requires a paused or playing track")

/-- Whether `pause` goes on; `false` when the track is paused already. -/
def pauseGoesOn (s : Snapshot) : Except RuntimeError Bool := do
  ensureTrackLoaded s .pause
  if s.state = .paused then return false
  ensurePauseableTrack s
  return true

/-- Whether `resume` goes on; `false` when the track is playing already. -/
def resumeGoesOn (s : Snapshot) : Except RuntimeError Bool := do
  ensureTrackLoaded s .resume
  if s.state = .playing then return false
  ensureResumableTrack s
  return true

end Readiness

/-- What the runtime reads of a connected voice session. -/
structure SessionHandle where
  voiceContext : VoiceContext
  isConnected : Bool
  mediaStarted : Bool := false
  recovering : Bool := false
  voiceReconnecting : Bool := false
  deriving DecidableEq, Repr

def SessionHandle.disconnected (voice : VoiceContext) : SessionHandle := ⟨voice, false, false, false, false⟩

/-- The session after an await on it: its connection and its speaking flag may have changed. -/
def SessionHandle.after (session : SessionHandle) (isConnected mediaStarted : Bool) : SessionHandle :=
  { session with isConnected, mediaStarted }

inductive PlaybackEventKind
  | buffering
  | playing
  deriving DecidableEq, Repr

def PlaybackEventKind.sessionState : PlaybackEventKind → SessionState
  | .buffering => .buffering
  | .playing => .playing

namespace Snapshot

def applyVoiceContext (s : Snapshot) (voice : VoiceContext) : Snapshot :=
  { s with guildId := some voice.guildId, channelId := some voice.channelId }

def applyRolloverState (s : Snapshot) (session : SessionHandle) : Snapshot :=
  { s with recovering := session.recovering, voiceReconnecting := session.voiceReconnecting }

def clearTrack (s : Snapshot) : Snapshot :=
  { s with currentVideoId := none, selectedItag := none, queueDepth := 0, positionMs := 0 }

def connecting (s : Snapshot) (voice : VoiceContext) : Snapshot :=
  { (s.applyVoiceContext voice).clearTrack with lastReason := none, state := .connectingVoice }

def joined (s : Snapshot) (session : SessionHandle) : Snapshot :=
  { ((s.applyVoiceContext session.voiceContext).applyRolloverState session).clearTrack with
    lastReason := none, state := if session.isConnected then .voiceReady else .connectingVoice }

/-- The write of `play_with_epoch` before it resolves the track. -/
def resolving (s : Snapshot) (videoId : String) (positionMs : ℕ) : Snapshot :=
  { s with
    currentVideoId := some videoId, selectedItag := none, queueDepth := 0, positionMs,
    lastReason := none, state := .resolvingTrack }

def emitPlaybackState (s : Snapshot) (kind : PlaybackEventKind) (videoId : String)
    (selectedItag queueDepth positionMs : ℕ) : Snapshot :=
  { s with
    currentVideoId := some videoId, selectedItag := some selectedItag, queueDepth, positionMs,
    state := kind.sessionState }

def progress (s : Snapshot) (queueDepth positionMs : ℕ) : Snapshot := { s with queueDepth, positionMs }

def trackEnded (s : Snapshot) : Snapshot := { s.clearTrack with state := .voiceReady }

def stopped (s : Snapshot) : Snapshot := { s.clearTrack with lastReason := none, state := .voiceReady }

def reconnecting (s : Snapshot) : Snapshot := { s with voiceReconnecting := true }

def reconnected (s : Snapshot) (session : SessionHandle) : Snapshot :=
  { (s.applyVoiceContext session.voiceContext).applyRolloverState session with
    lastReason := none, state := if s.currentVideoId.isNone then .voiceReady else s.state }

/-- The state `interrupt_playback` and `recover_rollover_without_playback` fall back to. -/
def fallback (s : Snapshot) : SessionState := if hasVoice s then .voiceReady else .idle

def recovered (s : Snapshot) (reason : String) : Snapshot :=
  { s with voiceReconnecting := false, lastReason := some reason, state := s.fallback }

def interrupted (s : Snapshot) (reason : String) : Snapshot :=
  { s.clearTrack with voiceReconnecting := false, lastReason := some reason, state := s.fallback }

/-- The write of `refresh_paused_voice_context`. -/
def refreshed (s : Snapshot) (voice : VoiceContext) : Snapshot :=
  { s.applyVoiceContext voice with recovering := false, voiceReconnecting := false, lastReason := none }

end Snapshot

end DiscordVoice.Session
