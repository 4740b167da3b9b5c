import DiscordVoice.Session.Runtime

namespace DiscordVoice.Session

open Voice (VoiceContext)
open Media (MediaCommand)

/-- The driver behind a channel is gone and left `exit`. -/
def Shared.exitOf (sh : Shared) (channel : ℕ) : Option (Option DriverExit) := do
  match (← sh.channels[channel]?).status with
  | .exited exit => return exit
  | _ => none

/-- All that one access of a command can do, each under what it found. -/
inductive Access (sh : Shared) : Pc → Shared → Pc → List Pc → Prop
  | sendChannel {command next channel} (h : sh.mediaCommands = some channel) :
      Access sh (.sendMedia command next) sh (.deliver channel command next) []
  | sendNowhere {command next} (h : sh.mediaCommands = none) :
      Access sh (.sendMedia command next) sh next []
  | deliver {channel command next sh'} (h : sh.send channel command = some sh') :
      Access sh (.deliver channel command next) sh' next []
  | rolloverCurrent {c yes no} (h : sh.rolloverEpoch = c.rolloverEpoch) :
      Access sh (.checkRollover c yes no) sh (.checkPlayback c yes no) []
  | rolloverStale {c yes no} (h : sh.rolloverEpoch ≠ c.rolloverEpoch) :
      Access sh (.checkRollover c yes no) sh no []
  | playbackCurrent {c yes no} (h : sh.playbackEpoch = c.playbackEpoch) :
      Access sh (.checkPlayback c yes no) sh (.checkVideo c yes no) []
  | playbackStale {c yes no} (h : sh.playbackEpoch ≠ c.playbackEpoch) :
      Access sh (.checkPlayback c yes no) sh no []
  | videoLoaded {c yes no} (h : sh.snapshot.currentVideoId = some c.videoId) :
      Access sh (.checkVideo c yes no) sh yes []
  | videoGone {c yes no} (h : sh.snapshot.currentVideoId ≠ some c.videoId) :
      Access sh (.checkVideo c yes no) sh no []
  | joinRefused {voice error} (h : ensureJoinableSession sh.snapshot = .error error) :
      Access sh (.joinEnter voice) sh (.finished (.err error)) []
  | joinConnecting {voice} (h : ensureJoinableSession sh.snapshot = .ok ()) :
      Access sh (.joinEnter voice) (sh.write fun s ↦ s.connecting voice) (.joinConnect voice) []
  | joinConnected {voice} (isConnected : Bool) :
      Access sh (.joinConnect voice) sh (.joinSettle ⟨voice, isConnected, false, false, false⟩) []
  | joinConnectFailed {voice} (error : RuntimeError) :
      Access sh (.joinConnect voice) sh (.finished (.err error)) []
  | joinSettled {session} (isConnected mediaStarted : Bool) :
      Access sh (.joinSettle session) sh (.joinReady (session.after isConnected mediaStarted)) []
  | joinSettleFailed {session} (error : RuntimeError) :
      Access sh (.joinSettle session) sh (.finished (.err error)) []
  | joinReady {session} :
      Access sh (.joinReady session) { sh.write fun s ↦ s.joined session with voice := some session }
        (.finished .ok) []
  | updateRefused {voice error}
      (h : ensureActiveVoiceSession sh.snapshot .updateVoiceContext = .error error) :
      Access sh (.updateEnter voice) sh (.finished (.err error)) []
  | updatePaused {voice} (hv : hasVoice sh.snapshot = true) (h : sh.snapshot.state = .paused) :
      Access sh (.updateEnter voice) sh (.refreshOwner voice) []
  | updateRollover {voice} (hv : hasVoice sh.snapshot = true) (h : sh.snapshot.state ≠ .paused) :
      Access sh (.updateEnter voice) sh (.rolloverEnter voice) []
  | refreshOwned {voice} (h : sh.mediaCommands.isSome = true) :
      Access sh (.refreshOwner voice) sh (.refreshWrite voice) []
  | refreshFree {voice} (h : sh.mediaCommands = none) :
      Access sh (.refreshOwner voice) sh (.refreshSlot voice) []
  | refreshConnected {voice} (h : sh.voice.isSome = true) :
      Access sh (.refreshSlot voice) { sh with voiceLocked := true } (.refreshSuspend voice) []
  | refreshDisconnected {voice} :
      Access sh (.refreshSlot voice) { sh with voice := some (.disconnected voice) }
        (.refreshWrite voice) []
  | refreshSuspended {voice} :
      Access sh (.refreshSuspend voice)
        { sh with voiceLocked := false, voice := some (.disconnected voice) } (.refreshWrite voice) []
  | refreshSuspendFailed {voice} (error : RuntimeError) (isConnected mediaStarted : Bool) :
      Access sh (.refreshSuspend voice)
        { sh with
          voiceLocked := false
          voice := sh.voice.map fun session ↦ session.after isConnected mediaStarted }
        (.finished (.err error)) []
  | refreshed {voice} (h : sh.snapshot.state = .paused) :
      Access sh (.refreshWrite voice) (sh.write fun s ↦ s.refreshed voice) (.finished .ok) []
  | refreshSkipped {voice} (h : sh.snapshot.state ≠ .paused) :
      Access sh (.refreshWrite voice) sh (.finished .ok) []
  | rolloverRefused {voice error}
      (h : ensureActiveVoiceSession sh.snapshot .updateVoiceContext = .error error) :
      Access sh (.rolloverEnter voice) sh (.finished (.err error)) []
  | rolloverEnter {voice} (h : hasVoice sh.snapshot = true) :
      Access sh (.rolloverEnter voice) sh (.rolloverBegin voice sh.snapshot.currentVideoId) []
  | rolloverBegin {voice resumeVideoId} :
      Access sh (.rolloverBegin voice resumeVideoId) sh.bumpRollover
        (.rolloverOwner ⟨voice, resumeVideoId, sh.rolloverEpoch + 1⟩) []
  | rolloverOwned {r} (h : sh.mediaCommands.isSome = true) :
      Access sh (.rolloverOwner r) sh (.rolloverGeneration r) []
  | rolloverFree {r} (h : sh.mediaCommands = none) :
      Access sh (.rolloverOwner r) sh (.rolloverCompare r) []
  | rolloverGeneration {r} :
      Access sh (.rolloverGeneration r) sh
        (.sendMedia (stopCommand false) (.rolloverWait r sh.voiceTransportGeneration)) []
  | rolloverReturned {r generation} :
      Access sh (.rolloverWait r generation) sh (.rolloverInterrupt r) []
  | rolloverTimedOut {r generation} (h : sh.voice = none) :
      Access sh (.rolloverWait r generation) sh
        (.finished (.err (.invalidState "live media driver did not return voice session"))) []
  | rolloverInterrupt {r} :
      Access sh (.rolloverInterrupt r) sh.bumpPlayback (.rolloverCompare r) []
  | rolloverMatches {r} (h : sh.voice.isSome = true) :
      Access sh (.rolloverCompare r) sh (.matchInterrupt r) []
  | rolloverReplaces {r} : Access sh (.rolloverCompare r) sh (.replaceGeneration r) []
  | replaceGeneration {r} :
      Access sh (.replaceGeneration r) sh.bumpGeneration (.replaceInterrupt r) []
  | replaceInterrupt {r} :
      Access sh (.replaceInterrupt r) sh.bumpPlayback
        (.sendMedia (stopCommand false) (.replaceClear r)) []
  | replaceClear {r} :
      Access sh (.replaceClear r) { sh with mediaCommands := none } (.replaceGuard r) []
  | replaceGuard {r} : Access sh (.replaceGuard r) sh (.replaceAnnounce r sh.playbackEpoch) []
  | replaceAnnounce {r guard} :
      Access sh (.replaceAnnounce r guard) (sh.write Snapshot.reconnecting) (.replaceConnect r guard) []
  | replaceConnected {r guard} (isConnected : Bool) :
      Access sh (.replaceConnect r guard) sh
        (.replaceSettle r guard ⟨r.voice, isConnected, false, false, false⟩) []
  | replaceConnectFailed {r guard} (error : RuntimeError) :
      Access sh (.replaceConnect r guard) sh (.replaceFailed r guard error) []
  | replaceSettled {r guard session} (isConnected mediaStarted : Bool) :
      Access sh (.replaceSettle r guard session) sh
        (.replaceCurrent r guard (session.after isConnected mediaStarted)) []
  | replaceSettleFailed {r guard session} (error : RuntimeError) :
      Access sh (.replaceSettle r guard session) sh (.replaceFailed r guard error) []
  | replaceFailedStale {r guard error} (h : sh.rolloverEpoch ≠ r.epoch) :
      Access sh (.replaceFailed r guard error) sh (.finished .ok) []
  | replaceFailedLoaded {r guard error videoId} (h : sh.rolloverEpoch = r.epoch)
      (hv : r.resumeVideoId = some videoId) :
      Access sh (.replaceFailed r guard error) sh
        (.checkRollover ⟨videoId, guard, r.epoch⟩
          (quiesceAndInterrupt (reconnectReason error) (.err error))
          (.recoverWrite (reconnectReason error) (.err error))) []
  | replaceFailedEmpty {r guard error} (h : sh.rolloverEpoch = r.epoch)
      (hv : r.resumeVideoId = none) :
      Access sh (.replaceFailed r guard error) sh
        (.recoverWrite (reconnectReason error) (.err error)) []
  | replaceStale {r guard session} (h : sh.rolloverEpoch ≠ r.epoch) :
      Access sh (.replaceCurrent r guard session) sh (.finished .ok) []
  | replaceCurrent {r guard session} (h : sh.rolloverEpoch = r.epoch) :
      Access sh (.replaceCurrent r guard session) sh (.replaceInstall r guard session) []
  | replaceInstall {r guard session} :
      Access sh (.replaceInstall r guard session) { sh with voice := some session }
        (.reconnectedWrite r guard session) []
  | matchInterrupt {r} : Access sh (.matchInterrupt r) sh.bumpPlayback (.matchGuard r) []
  | matchGuard {r} :
      Access sh (.matchGuard r) sh
        (.sendMedia (stopCommand false) (.matchAnnounce r sh.playbackEpoch)) []
  | matchAnnounce {r guard} :
      Access sh (.matchAnnounce r guard) (sh.write Snapshot.reconnecting) (.matchRefresh r guard) []
  | matchMissing {r guard} (h : sh.voice = none) :
      Access sh (.matchRefresh r guard) sh
        (.finished (.err (.invalidState "voice reconnect refresh missing active voice session"))) []
  | matchRefreshed {r guard session} (h : sh.voice = some session) :
      Access sh (.matchRefresh r guard)
        { sh with voice := some { session with voiceContext := r.voice } }
        (.reconnectedWrite r guard { session with voiceContext := r.voice }) []
  | reconnected {r guard session} :
      Access sh (.reconnectedWrite r guard session) (sh.write fun s ↦ s.reconnected session)
        (resumeIntended sh r guard) []
  | recovered {reason outcome} :
      Access sh (.recoverWrite reason outcome) (sh.write fun s ↦ s.recovered reason)
        (.finished outcome) []
  | quiesceStarted {reason outcome} :
      Access sh (.quiesceSlot reason outcome) { sh with voiceLocked := true }
        (.quiesceBoundary reason outcome) []
  | quiesceIdle {reason outcome} :
      Access sh (.quiesceSlot reason outcome) sh (.interruptWrite reason outcome) []
  | quiesced {reason outcome} (isConnected mediaStarted : Bool) :
      Access sh (.quiesceBoundary reason outcome)
        { sh with
          voiceLocked := false
          voice := sh.voice.map fun session ↦ session.after isConnected mediaStarted }
        (.interruptWrite reason outcome) []
  | interrupted {reason outcome} :
      Access sh (.interruptWrite reason outcome) (sh.write fun s ↦ s.interrupted reason)
        (.finished outcome) []
  | resumeBegin {videoId rolloverEpoch} :
      Access sh (.resumeBegin videoId rolloverEpoch) sh.bumpPlayback (.finished .ok)
        [.checkRollover ⟨videoId, sh.playbackEpoch + 1, rolloverEpoch⟩
          (.playHint ⟨videoId, sh.playbackEpoch + 1, some rolloverEpoch⟩) (.finished .ok)]
  | playBegin {videoId} :
      Access sh (.playBegin videoId) sh.bumpPlayback
        (.playHint ⟨videoId, sh.playbackEpoch + 1, none⟩) []
  | playHint {a} (positionMs : ℕ) : Access sh (.playHint a) sh (.playResolve a positionMs) []
  | resolveStale {a positionMs} (h : sh.playbackEpoch ≠ a.playbackEpoch) :
      Access sh (.playResolve a positionMs) sh (playReturns a .ok) []
  | resolveRefused {a positionMs error} (h : hasVoice sh.snapshot = false) :
      Access sh (.playResolve a positionMs) sh (playReturns a (.err error)) []
  | resolving {a positionMs} (h : sh.playbackEpoch = a.playbackEpoch)
      (hv : hasVoice sh.snapshot = true) (hp : sh.hasPlayback = true) :
      Access sh (.playResolve a positionMs) (sh.write fun s ↦ s.resolving a.videoId positionMs)
        (.playWaitEpoch a) []
  | resolvingOnly {a positionMs} (h : sh.playbackEpoch = a.playbackEpoch)
      (hv : hasVoice sh.snapshot = true) (hp : sh.hasPlayback = false) :
      Access sh (.playResolve a positionMs) (sh.write fun s ↦ s.resolving a.videoId positionMs)
        (playReturns a .ok) []
  | waitStale {a} (h : sh.playbackEpoch ≠ a.playbackEpoch) :
      Access sh (.playWaitEpoch a) sh (playReturns a .ok) []
  | waitCurrent {a} (h : sh.playbackEpoch = a.playbackEpoch) :
      Access sh (.playWaitEpoch a) sh (.playWaitSlot a) []
  | waitAgain {a} : Access sh (.playWaitSlot a) sh (.playWaitEpoch a) []
  | waitGivesUp {a} : Access sh (.playWaitSlot a) sh (playReturns a .ok) []
  | waitDone {a} (h : sh.voice.isSome = true) : Access sh (.playWaitSlot a) sh (.playPrepare a) []
  | prepared {a} (p : Prepared) : Access sh (.playPrepare a) sh (.playPrepared a p) []
  | prepareFailed {a} (error : RuntimeError) :
      Access sh (.playPrepare a) sh (playReturns a (.err error)) []
  | preparedStale {a p} (h : sh.playbackEpoch ≠ a.playbackEpoch) :
      Access sh (.playPrepared a p) sh (playReturns a .ok) []
  | preparedCurrent {a p} (h : sh.playbackEpoch = a.playbackEpoch) :
      Access sh (.playPrepared a p) sh (.playBuffering a p) []
  | buffering {a p} :
      Access sh (.playBuffering a p) (emitPlaybackState sh .buffering a p) (.playFill a p) []
  | filled {a p} (depth : ℕ) : Access sh (.playFill a p) sh (.playFilled a { p with depth }) []
  | fillFailed {a p} (error : RuntimeError) :
      Access sh (.playFill a p) sh (playReturns a (.err error)) []
  | filledStale {a p} (h : sh.playbackEpoch ≠ a.playbackEpoch) :
      Access sh (.playFilled a p) sh (playReturns a .ok) []
  | filledCurrent {a p} (h : sh.playbackEpoch = a.playbackEpoch) :
      Access sh (.playFilled a p) sh (.playTake a p) []
  | takeStale {a p} (h : sh.playbackEpoch ≠ a.playbackEpoch) :
      Access sh (.playTake a p) sh (playReturns a .ok) []
  | takeMissing {a p} (h : sh.playbackEpoch = a.playbackEpoch) (hv : sh.voice = none) :
      Access sh (.playTake a p) sh
        (playReturns a (.err (.invalidState "play requires active voice session"))) []
  | taken {a p session} (h : sh.playbackEpoch = a.playbackEpoch) (hv : sh.voice = some session) :
      Access sh (.playTake a p) { sh with voice := none } (.playSpeaking a p session) []
  | spoken {a p session} (isConnected mediaStarted : Bool) :
      Access sh (.playSpeaking a p session) sh
        (.playSpoken a p (session.after isConnected mediaStarted)) []
  | speakingFailed {a p session} (error : RuntimeError) (isConnected mediaStarted : Bool) :
      Access sh (.playSpeaking a p session) sh
        (.playGiveBack a (session.after isConnected mediaStarted) (.err error)) []
  | spokenStale {a p session} (h : sh.playbackEpoch ≠ a.playbackEpoch) :
      Access sh (.playSpoken a p session) sh (.playGiveBack a session .ok) []
  | spokenCurrent {a p session} (h : sh.playbackEpoch = a.playbackEpoch) :
      Access sh (.playSpoken a p session) sh (.playGeneration a p session) []
  | givenBack {a session outcome} :
      Access sh (.playGiveBack a session outcome)
        { sh with voice := some (sh.voice.getD session) } (playReturns a outcome) []
  | playGeneration {a p session} :
      Access sh (.playGeneration a p session) sh
        (.pipeInstall ⟨a, p, sh.voiceTransportGeneration, session, 0, false⟩) []
  | installed {p} :
      Access sh (.pipeInstall p) sh.installMediaCommands
        (.pipeDepth { p with channel := sh.channels.length }) []
  | depthReady {p} (depth : ℕ) : Access sh (.pipeDepth p) sh (.pipePlaying (p.withDepth depth)) []
  | depthEmpty {p} (depth : ℕ) : Access sh (.pipeDepth p) sh (.pipeSpawn (p.withDepth depth)) []
  | playing {p} :
      Access sh (.pipePlaying p) (emitPlaybackState sh .playing p.attempt p.prepared) (.pipeSpawn p) []
  | driverSpawned {p} :
      Access sh (.pipeSpawn p) (sh.updateChannel p.channel Channel.spawn) (.pipeLoop p) []
  | loopStale {p} (h : sh.playbackEpoch ≠ p.attempt.playbackEpoch) :
      Access sh (.pipeLoop p) (sh.trySend p.channel (stopCommand true)) (.pipeSelect p) []
  | loopCurrent {p} (h : sh.playbackEpoch = p.attempt.playbackEpoch) :
      Access sh (.pipeLoop p) sh (.pipeSelect p) []
  | selectAgain {p} (q : Pipeline) (hq : q.attempt = p.attempt ∧ q.generation = p.generation ∧
      q.session = p.session ∧ q.channel = p.channel) : Access sh (.pipeSelect p) sh (.pipeLoop q) []
  | selectEmit {p} (q : Pipeline) (kind : PlaybackEventKind) (hq : q.attempt = p.attempt ∧
      q.generation = p.generation ∧ q.session = p.session ∧ q.channel = p.channel) :
      Access sh (.pipeSelect p) sh (.pipeEmit q kind) []
  | selectProgress {p} (q : Pipeline) (hq : q.attempt = p.attempt ∧ q.generation = p.generation ∧
      q.session = p.session ∧ q.channel = p.channel) : Access sh (.pipeSelect p) sh (.pipeProgress q) []
  | selectResult {p} (exit : Option DriverExit) (h : sh.exitOf p.channel = some exit) :
      Access sh (.pipeSelect p) sh (.pipeClear p true (Ending.ofExit {} p exit)) []
  | selectClosed {p} (exit : Option DriverExit) (h : sh.exitOf p.channel = some exit) :
      Access sh (.pipeSelect p) sh (.pipeClear p false {}) []
  | emitted {p kind} :
      Access sh (.pipeEmit p kind) (emitPlaybackState sh kind p.attempt p.prepared) (.pipeLoop p) []
  | progressStale {p} (h : sh.playbackEpoch ≠ p.attempt.playbackEpoch) :
      Access sh (.pipeProgress p) sh (.pipeLoop p) []
  | progressed {p} (h : sh.playbackEpoch = p.attempt.playbackEpoch) :
      Access sh (.pipeProgress p)
        (sh.write fun s ↦ s.progress p.prepared.depth p.prepared.positionMs) (.pipeLoop p) []
  | clearedDone {p e} :
      Access sh (.pipeClear p true e) (sh.clearMediaCommandsIfCurrent p.channel) (.pipeInterrupted p e) []
  | clearedOpen {p e} :
      Access sh (.pipeClear p false e) (sh.clearMediaCommandsIfCurrent p.channel) (.pipeStop p e) []
  | driverStopped {p e sh'} (h : sh.send p.channel (stopCommand true) = some sh') :
      Access sh (.pipeStop p e) sh' (.pipeAwait p e) []
  | driverAwaited {p e} (exit : Option DriverExit) (h : sh.exitOf p.channel = some exit) :
      Access sh (.pipeAwait p e) sh (.pipeInterrupted p (e.ofExit p exit)) []
  | endingReturned {p e} (h : e.session.isSome = true) :
      Access sh (.pipeInterrupted p e) sh
        (.pipeRestoreGeneration p
          { e with interrupted := sh.playbackInterrupted p.attempt.playbackEpoch }) []
  | endingLost {p e} (h : e.session = none) :
      Access sh (.pipeInterrupted p e) sh
        (.pipeReturned p { e with interrupted := sh.playbackInterrupted p.attempt.playbackEpoch }) []
  | restoreCurrent {p e} (h : sh.voiceTransportGeneration = p.generation) :
      Access sh (.pipeRestoreGeneration p e) sh (.pipeRestoreSlot p e) []
  | restoreStale {p e} (h : sh.voiceTransportGeneration ≠ p.generation) :
      Access sh (.pipeRestoreGeneration p e) sh (pipeCleanUp p { e with restore := false }) []
  | restoreDecided {p e} :
      Access sh (.pipeRestoreSlot p e) sh (pipeCleanUp p { e with restore := sh.voice.isNone }) []
  | boundary {p e session} (cleanup : Outcome) (isConnected mediaStarted : Bool) :
      Access sh (.pipeBoundary p e session) sh
        (pipeBoundaryDone p { e with cleanup } (session.after isConnected mediaStarted)) []
  | putBack {p e session} :
      Access sh (.pipePutBack p e session) { sh with voice := some session } (.pipeReturned p e) []
  | returnedEnded {p e} (h : e.endedNaturally = true ∧ e.interrupted = false ∧ e.error = none) :
      Access sh (.pipeReturned p e)
        { sh with mediaOwnerReturnCount := sh.mediaOwnerReturnCount + 1 } (.pipeEnded p e) []
  | returnedOver {p e} (h : ¬(e.endedNaturally = true ∧ e.interrupted = false ∧ e.error = none)) :
      Access sh (.pipeReturned p e)
        { sh with mediaOwnerReturnCount := sh.mediaOwnerReturnCount + 1 }
        (playReturns p.attempt e.outcome) []
  | endedStale {p e} (h : sh.playbackEpoch ≠ p.attempt.playbackEpoch) :
      Access sh (.pipeEnded p e) sh (playReturns p.attempt e.outcome) []
  | ended {p e} (h : sh.playbackEpoch = p.attempt.playbackEpoch) :
      Access sh (.pipeEnded p e) (sh.write Snapshot.trackEnded) (playReturns p.attempt e.outcome) []
  | pauseRefused {outcome} (h : pauseGoesOn sh.snapshot ≠ .ok true) :
      Access sh .pauseEnter sh (.finished outcome) []
  | pauseEnter (h : pauseGoesOn sh.snapshot = .ok true) :
      Access sh .pauseEnter sh (.sendMedia .pause .pauseWrite) []
  | pauseSkipped {outcome} (h : pauseGoesOn sh.snapshot ≠ .ok true) :
      Access sh .pauseWrite sh (.finished outcome) []
  | paused (h : pauseGoesOn sh.snapshot = .ok true) :
      Access sh .pauseWrite (sh.write fun s ↦ { s with state := .paused }) (.finished .ok) []
  | resumeRefused {outcome} (h : resumeGoesOn sh.snapshot ≠ .ok true) :
      Access sh .resumeEnter sh (.finished outcome) []
  | resumeEnter (h : resumeGoesOn sh.snapshot = .ok true) : Access sh .resumeEnter sh .resumeWrite []
  | resumeSkipped {outcome} (h : resumeGoesOn sh.snapshot ≠ .ok true) :
      Access sh .resumeWrite sh (.finished outcome) []
  | resumed (h : resumeGoesOn sh.snapshot = .ok true) :
      Access sh .resumeWrite (sh.write fun s ↦ { s with state := .playing })
        (.sendMedia .resume (.finished .ok)) []
  | stopRefused {error} (h : hasVoice sh.snapshot = false) :
      Access sh .stopEnter sh (.finished (.err error)) []
  | stopEnter (h : hasVoice sh.snapshot = true) : Access sh .stopEnter sh .stopOwner []
  | stopOwner : Access sh .stopOwner sh (.stopGeneration sh.mediaCommands.isSome) []
  | stopOwned :
      Access sh (.stopGeneration true) sh
        (.sendMedia (stopCommand false) (.stopWait true sh.voiceTransportGeneration)) []
  | stopFree : Access sh (.stopGeneration false) sh (.stopInterrupt false sh.voiceTransportGeneration) []
  | stopReturned {active generation} :
      Access sh (.stopWait active generation) sh
        (if active then .stopInterrupt true generation else .stopSlot false) []
  | stopTimedOut {active generation} (h : sh.voice = none) :
      Access sh (.stopWait active generation) sh
        (.finished (.err (.invalidState "live media driver did not return voice session"))) []
  | stopInterrupt {active generation} :
      Access sh (.stopInterrupt active generation) sh.bumpPlayback
        (if active then .stopSlot true else .sendMedia (stopCommand true) (.stopWait false generation)) []
  | stopLocked {active} :
      Access sh (.stopSlot active) { sh with voiceLocked := true } .stopWrite []
  | stopLockedOpen {active} :
      Access sh (.stopSlot active) { sh with voiceLocked := true } .stopBoundary []
  | stopBoundary (isConnected mediaStarted : Bool) :
      Access sh .stopBoundary
        { sh with voice := sh.voice.map fun session ↦ session.after isConnected mediaStarted }
        .stopWrite []
  | stopBoundaryFailed (error : RuntimeError) (isConnected mediaStarted : Bool) :
      Access sh .stopBoundary
        { sh with
          voiceLocked := false
          voice := sh.voice.map fun session ↦ session.after isConnected mediaStarted }
        (.finished (.err error)) []
  | stopped :
      Access sh .stopWrite { sh.write Snapshot.stopped with voiceLocked := false } (.finished .ok) []
  | leaveRollover : Access sh .leaveRollover sh.bumpRollover .leavePlayback []
  | leavePlayback : Access sh .leavePlayback sh.bumpPlayback .leaveOwner []
  | leaveOwner : Access sh .leaveOwner sh (.leaveCount sh.mediaCommands.isSome) []
  | leaveCount {active} :
      Access sh (.leaveCount active) sh (.leaveGeneration active sh.mediaOwnerReturnCount) []
  | leaveGeneration {active count} :
      Access sh (.leaveGeneration active count) sh.bumpGeneration
        (.sendMedia (stopCommand true) (if active then .leaveStopped count else .leaveClear)) []
  | leaveStopped {count} (h : count < sh.mediaOwnerReturnCount) :
      Access sh (.leaveStopped count) sh .leaveClear []
  | leaveTimedOut {count} :
      Access sh (.leaveStopped count) sh
        (.finished (.err (.invalidState "live media driver did not stop"))) []
  | leaveClear : Access sh .leaveClear { sh with mediaCommands := none } .leaveWrite []
  | leaveWrite : Access sh .leaveWrite (sh.write fun _ ↦ {}) .leaveSlot []
  | leaveSlot : Access sh .leaveSlot { sh with voice := none } (.finished .ok) []

section Inversion

variable {sh sh' : Shared} {pc pc' : Pc} {spawned : List Pc} {answer : Answer}

@[simp] theorem lockingVoice_eq_some {next : Option Next} {n : Next} :
    lockingVoice sh next = some n ↔ sh.voiceLocked = false ∧ next = some n := by
  cases h : sh.voiceLocked <;> simp [lockingVoice, h]

theorem isSome_of_any {β : Type} {o : Option β} {f : β → Bool} (h : o.any f = true) : o.isSome = true := by
  cases o with
  | none => cases h
  | some _ => rfl

theorem ensureActiveVoiceSession_eq_ok {s : Snapshot} {action : ActionName} :
    ensureActiveVoiceSession s action = .ok () ↔ hasVoice s = true := by
  unfold ensureActiveVoiceSession
  split <;> simp [*]

theorem ensureActiveVoiceSession_eq_error {s : Snapshot} {action : ActionName} {error : RuntimeError}
    (h : ensureActiveVoiceSession s action = .error error) : hasVoice s = false := by
  unfold ensureActiveVoiceSession at h
  split at h
  · cases h
  · simpa using ‹¬hasVoice s = true›

theorem playbackInterrupted_eq_true {epoch : ℕ} :
    sh.playbackInterrupted epoch = true ↔ sh.playbackEpoch ≠ epoch := by
  simp [Shared.playbackInterrupted]

theorem playbackInterrupted_eq_false {epoch : ℕ} :
    sh.playbackInterrupted epoch = false ↔ sh.playbackEpoch = epoch := by
  simp [Shared.playbackInterrupted]

theorem sendMedia_access {command : MediaCommand} {next : Pc}
    (h : sendMedia sh command next = some (sh', pc', spawned)) :
    Access sh (.sendMedia command next) sh' pc' spawned := by
  unfold sendMedia at h
  split at h <;> cases h
  · exact .sendChannel ‹_›
  · exact .sendNowhere ‹_›

theorem deliver_access {channel : ℕ} {command : MediaCommand} {next : Pc}
    (h : deliver sh channel command next = some (sh', pc', spawned)) :
    Access sh (.deliver channel command next) sh' pc' spawned := by
  obtain ⟨u, hu, h⟩ := Option.bind_eq_some_iff.mp h
  cases h
  exact .deliver hu

/-- The wait goes on to the next access, or gives up on a slot that is still empty. -/
theorem waitForMediaOwnerSession_cases {generation : ℕ} {next : Pc}
    (h : waitForMediaOwnerSession sh generation next answer = some (sh', pc', spawned)) :
    (sh' = sh ∧ pc' = next ∧ spawned = []) ∨
      (sh.voice = none ∧ sh' = sh ∧ spawned = [] ∧ pc' =
        .finished (.err (.invalidState "live media driver did not return voice session"))) := by
  unfold waitForMediaOwnerSession at h
  split at h
  · split at h
    · cases h
      exact .inl ⟨rfl, rfl, rfl⟩
    · obtain ⟨-, h⟩ := lockingVoice_eq_some.mp h
      split at h <;> cases h
      exact .inl ⟨rfl, rfl, rfl⟩
  · obtain ⟨-, h⟩ := lockingVoice_eq_some.mp h
    split at h <;> cases h
    exact .inr ⟨by simpa using ‹sh.voice.isNone = true›, rfl, rfl, rfl⟩
  · cases h

section Join

theorem joinEnter_access {voice : VoiceContext} (h : joinEnter sh voice = some (sh', pc', spawned)) :
    Access sh (.joinEnter voice) sh' pc' spawned := by
  unfold joinEnter orFinish at h
  split at h <;> cases h
  · exact .joinRefused ‹_›
  · exact .joinConnecting ‹_›

theorem joinConnect_access {voice : VoiceContext}
    (h : joinConnect sh voice answer = some (sh', pc', spawned)) :
    Access sh (.joinConnect voice) sh' pc' spawned := by
  unfold joinConnect at h
  split at h <;> cases h
  · exact .joinConnected _
  · exact .joinConnectFailed _

theorem joinSettle_access {session : SessionHandle}
    (h : joinSettle sh session answer = some (sh', pc', spawned)) :
    Access sh (.joinSettle session) sh' pc' spawned := by
  unfold joinSettle at h
  split at h <;> cases h
  · exact .joinSettled _ _
  · exact .joinSettleFailed _

end Join

section Update

theorem updateEnter_access {voice : VoiceContext}
    (h : updateEnter sh voice = some (sh', pc', spawned)) :
    Access sh (.updateEnter voice) sh' pc' spawned := by
  unfold updateEnter orFinish at h
  split at h <;> cases h
  · exact .updateRefused ‹_›
  · have hv := ensureActiveVoiceSession_eq_ok.mp ‹_›
    split
    · exact .updatePaused hv ‹_›
    · exact .updateRollover hv ‹_›

theorem refreshSlot_access {voice : VoiceContext}
    (h : refreshSlot sh voice = some (sh', pc', spawned)) :
    Access sh (.refreshSlot voice) sh' pc' spawned := by
  obtain ⟨-, h⟩ := lockingVoice_eq_some.mp h
  split at h <;> cases h
  · exact .refreshConnected (isSome_of_any ‹_›)
  · exact .refreshDisconnected

theorem refreshSuspend_access {voice : VoiceContext}
    (h : refreshSuspend sh voice answer = some (sh', pc', spawned)) :
    Access sh (.refreshSuspend voice) sh' pc' spawned := by
  unfold refreshSuspend at h
  split at h <;> cases h
  · exact .refreshSuspended
  · exact .refreshSuspendFailed _ _ _

theorem refreshWrite_access {voice : VoiceContext}
    (h : refreshWrite sh voice = some (sh', pc', spawned)) :
    Access sh (.refreshWrite voice) sh' pc' spawned := by
  unfold refreshWrite at h
  split at h <;> cases h
  · exact .refreshed ‹_›
  · exact .refreshSkipped ‹_›

theorem rolloverEnter_access {voice : VoiceContext}
    (h : rolloverEnter sh voice = some (sh', pc', spawned)) :
    Access sh (.rolloverEnter voice) sh' pc' spawned := by
  unfold rolloverEnter orFinish at h
  split at h <;> cases h
  · exact .rolloverRefused ‹_›
  · exact .rolloverEnter (ensureActiveVoiceSession_eq_ok.mp ‹_›)

theorem rolloverWait_access {r : Rollover} {generation : ℕ}
    (h : waitForMediaOwnerSession sh generation (.rolloverInterrupt r) answer = some (sh', pc', spawned)) :
    Access sh (.rolloverWait r generation) sh' pc' spawned := by
  obtain ⟨rfl, rfl, rfl⟩ | ⟨hv, rfl, rfl, rfl⟩ := waitForMediaOwnerSession_cases h
  · exact .rolloverReturned
  · exact .rolloverTimedOut hv

theorem rolloverCompare_access {r : Rollover}
    (h : rolloverCompare sh r = some (sh', pc', spawned)) :
    Access sh (.rolloverCompare r) sh' pc' spawned := by
  obtain ⟨-, h⟩ := lockingVoice_eq_some.mp h
  cases h
  split
  · exact .rolloverMatches (isSome_of_any ‹_›)
  · exact .rolloverReplaces

theorem replaceConnect_access {r : Rollover} {guard : ℕ}
    (h : replaceConnect sh r guard answer = some (sh', pc', spawned)) :
    Access sh (.replaceConnect r guard) sh' pc' spawned := by
  unfold replaceConnect at h
  split at h <;> cases h
  · exact .replaceConnected _
  · exact .replaceConnectFailed _

theorem replaceSettle_access {r : Rollover} {guard : ℕ} {session : SessionHandle}
    (h : replaceSettle sh r guard session answer = some (sh', pc', spawned)) :
    Access sh (.replaceSettle r guard session) sh' pc' spawned := by
  unfold replaceSettle at h
  split at h <;> cases h
  · exact .replaceSettled _ _
  · exact .replaceSettleFailed _

theorem replaceFailed_access {r : Rollover} {guard : ℕ} {error : RuntimeError}
    (h : replaceFailed sh r guard error = some (sh', pc', spawned)) :
    Access sh (.replaceFailed r guard error) sh' pc' spawned := by
  unfold replaceFailed at h
  dsimp only at h
  split at h
  · cases h
    exact .replaceFailedStale ‹_›
  · have hc : sh.rolloverEpoch = r.epoch := not_not.mp ‹_›
    split at h <;> cases h
    · exact .replaceFailedLoaded hc ‹_›
    · exact .replaceFailedEmpty hc ‹_›

theorem replaceCurrent_access {r : Rollover} {guard : ℕ} {session : SessionHandle}
    (h : replaceCurrent sh r guard session = some (sh', pc', spawned)) :
    Access sh (.replaceCurrent r guard session) sh' pc' spawned := by
  cases h
  split
  · exact .replaceStale ‹_›
  · exact .replaceCurrent (not_not.mp ‹_›)

theorem matchRefresh_access {r : Rollover} {guard : ℕ}
    (h : matchRefresh sh r guard = some (sh', pc', spawned)) :
    Access sh (.matchRefresh r guard) sh' pc' spawned := by
  obtain ⟨-, h⟩ := lockingVoice_eq_some.mp h
  split at h <;> cases h
  · exact .matchMissing ‹_›
  · exact .matchRefreshed ‹_›

theorem quiesceSlot_access {reason : String} {outcome : Outcome}
    (h : quiesceSlot sh reason outcome = some (sh', pc', spawned)) :
    Access sh (.quiesceSlot reason outcome) sh' pc' spawned := by
  obtain ⟨-, h⟩ := lockingVoice_eq_some.mp h
  split at h <;> cases h
  · exact .quiesceStarted
  · exact .quiesceIdle

theorem quiesceBoundary_access {reason : String} {outcome : Outcome}
    (h : quiesceBoundary sh reason outcome answer = some (sh', pc', spawned)) :
    Access sh (.quiesceBoundary reason outcome) sh' pc' spawned := by
  unfold quiesceBoundary at h
  split at h <;> cases h
  exact .quiesced _ _

end Update

section Play

theorem playResolve_access {a : Attempt} {positionMs : ℕ}
    (h : playResolve sh a positionMs = some (sh', pc', spawned)) :
    Access sh (.playResolve a positionMs) sh' pc' spawned := by
  unfold playResolve at h
  split at h
  · cases h
    exact .resolveStale (playbackInterrupted_eq_true.mp ‹_›)
  · have hc : sh.playbackEpoch = a.playbackEpoch := by
      simpa [Shared.playbackInterrupted] using ‹¬sh.playbackInterrupted a.playbackEpoch = true›
    split at h <;> cases h
    · exact .resolveRefused (ensureActiveVoiceSession_eq_error ‹_›)
    · have hv := ensureActiveVoiceSession_eq_ok.mp ‹_›
      split
      · exact .resolving hc hv ‹_›
      · exact .resolvingOnly hc hv (by simpa using ‹¬sh.hasPlayback = true›)

theorem playWaitSlot_access {a : Attempt} (h : playWaitSlot sh a answer = some (sh', pc', spawned)) :
    Access sh (.playWaitSlot a) sh' pc' spawned := by
  obtain ⟨-, h⟩ := lockingVoice_eq_some.mp h
  split at h
  · cases h
    exact .waitGivesUp
  · split at h
    · cases h
      exact .waitDone (by simp [*])
    · split at h <;> cases h
      · exact .waitAgain
      · exact .waitGivesUp

theorem playPrepare_access {a : Attempt} (h : playPrepare sh a answer = some (sh', pc', spawned)) :
    Access sh (.playPrepare a) sh' pc' spawned := by
  unfold playPrepare at h
  split at h <;> cases h
  · exact .prepared _
  · exact .prepareFailed _

theorem playFill_access {a : Attempt} {p : Prepared}
    (h : playFill sh a p answer = some (sh', pc', spawned)) :
    Access sh (.playFill a p) sh' pc' spawned := by
  unfold playFill at h
  split at h <;> cases h
  · exact .filled _
  · exact .fillFailed _

theorem playTake_access {a : Attempt} {p : Prepared}
    (h : playTake sh a p = some (sh', pc', spawned)) :
    Access sh (.playTake a p) sh' pc' spawned := by
  obtain ⟨-, h⟩ := lockingVoice_eq_some.mp h
  split at h
  · cases h
    exact .takeStale (playbackInterrupted_eq_true.mp ‹_›)
  · have hc : sh.playbackEpoch = a.playbackEpoch := by
      simpa [Shared.playbackInterrupted] using ‹¬sh.playbackInterrupted a.playbackEpoch = true›
    split at h <;> cases h
    · exact .takeMissing hc ‹_›
    · exact .taken hc ‹_›

theorem playSpeaking_access {a : Attempt} {p : Prepared} {session : SessionHandle}
    (h : playSpeaking sh a p session answer = some (sh', pc', spawned)) :
    Access sh (.playSpeaking a p session) sh' pc' spawned := by
  unfold playSpeaking at h
  split at h <;> cases h
  · exact .spoken _ _
  · exact .speakingFailed _ _ _

theorem playGiveBack_access {a : Attempt} {session : SessionHandle} {outcome : Outcome}
    (h : playGiveBack sh a session outcome = some (sh', pc', spawned)) :
    Access sh (.playGiveBack a session outcome) sh' pc' spawned := by
  obtain ⟨-, h⟩ := lockingVoice_eq_some.mp h
  cases h
  exact .givenBack

end Play

section Pipeline

theorem pipeDepth_access {p : Pipeline} (h : pipeDepth sh p answer = some (sh', pc', spawned)) :
    Access sh (.pipeDepth p) sh' pc' spawned := by
  unfold pipeDepth at h
  split at h <;> cases h
  split
  · exact .depthReady _
  · exact .depthEmpty _

theorem pipeMetric_access {p : Pipeline} {m : PipelineMetric}
    (h : pipeMetric sh p m = some (sh', pc', spawned)) :
    Access sh (.pipeSelect p) sh' pc' spawned := by
  unfold pipeMetric at h
  split at h
  · split at h <;> cases h
    · exact .selectAgain _ ⟨rfl, rfl, rfl, rfl⟩
    · exact .selectEmit _ _ ⟨rfl, rfl, rfl, rfl⟩
  · split at h <;> cases h
    · exact .selectEmit _ _ ⟨rfl, rfl, rfl, rfl⟩
    · exact .selectAgain _ ⟨rfl, rfl, rfl, rfl⟩
  · cases h
    exact .selectProgress _ ⟨rfl, rfl, rfl, rfl⟩
  · cases h
    exact .selectProgress _ ⟨rfl, rfl, rfl, rfl⟩
  · cases h
    exact .selectAgain _ ⟨rfl, rfl, rfl, rfl⟩

theorem pipeSelect_access {p : Pipeline} (h : pipeSelect sh p answer = some (sh', pc', spawned)) :
    Access sh (.pipeSelect p) sh' pc' spawned := by
  unfold pipeSelect at h
  split at h
  · exact pipeMetric_access h
  · obtain ⟨exit, hexit, h⟩ := Option.bind_eq_some_iff.mp h
    cases h
    exact .selectResult exit hexit
  · obtain ⟨exit, hexit, h⟩ := Option.bind_eq_some_iff.mp h
    cases h
    exact .selectClosed exit hexit
  · cases h
    exact .selectAgain p ⟨rfl, rfl, rfl, rfl⟩
  · cases h

theorem pipeStop_access {p : Pipeline} {e : Ending}
    (h : pipeStop sh p e = some (sh', pc', spawned)) :
    Access sh (.pipeStop p e) sh' pc' spawned := by
  obtain ⟨u, hu, h⟩ := Option.bind_eq_some_iff.mp h
  cases h
  exact .driverStopped hu

theorem pipeAwait_access {p : Pipeline} {e : Ending}
    (h : pipeAwait sh p e = some (sh', pc', spawned)) :
    Access sh (.pipeAwait p e) sh' pc' spawned := by
  obtain ⟨exit, hexit, h⟩ := Option.bind_eq_some_iff.mp h
  cases h
  exact .driverAwaited exit hexit

theorem pipeInterrupted_access {p : Pipeline} {e : Ending}
    (h : pipeInterrupted sh p e = some (sh', pc', spawned)) :
    Access sh (.pipeInterrupted p e) sh' pc' spawned := by
  cases h
  dsimp only
  split
  · exact .endingReturned ‹_›
  · exact .endingLost (by simpa using ‹¬e.session.isSome = true›)

theorem pipeRestoreSlot_access {p : Pipeline} {e : Ending}
    (h : pipeRestoreSlot sh p e = some (sh', pc', spawned)) :
    Access sh (.pipeRestoreSlot p e) sh' pc' spawned := by
  obtain ⟨-, h⟩ := lockingVoice_eq_some.mp h
  cases h
  exact .restoreDecided

theorem pipeBoundary_access {p : Pipeline} {e : Ending} {session : SessionHandle}
    (h : pipeBoundary sh p e session answer = some (sh', pc', spawned)) :
    Access sh (.pipeBoundary p e session) sh' pc' spawned := by
  unfold pipeBoundary at h
  split at h
  · split at h <;> cases h
    · exact .boundary e.cleanup _ _
    · exact .boundary _ _ _
  · cases h
    exact .boundary e.cleanup session.isConnected session.mediaStarted

theorem pipeReturned_access {p : Pipeline} {e : Ending}
    (h : pipeReturned sh p e = some (sh', pc', spawned)) :
    Access sh (.pipeReturned p e) sh' pc' spawned := by
  cases h
  have hiff : (e.endedNaturally && !e.interrupted && e.error.isNone) = true ↔
      e.endedNaturally = true ∧ e.interrupted = false ∧ e.error = none := by
    simp [and_assoc]
  split
  · exact .returnedEnded (hiff.mp ‹_›)
  · exact .returnedOver fun hn ↦ ‹¬_› (hiff.mpr hn)

theorem pipeEnded_access {p : Pipeline} {e : Ending}
    (h : pipeEnded sh p e = some (sh', pc', spawned)) :
    Access sh (.pipeEnded p e) sh' pc' spawned := by
  cases h
  split
  · exact .endedStale (playbackInterrupted_eq_true.mp ‹_›)
  · exact .ended (by simpa [Shared.playbackInterrupted] using
      ‹¬sh.playbackInterrupted p.attempt.playbackEpoch = true›)

end Pipeline

section PauseResume

/-- A check lets the command go on, or ends it and leaves the shared state alone. -/
theorem checked_cases {goesOn : Except RuntimeError Bool} {next : Option Next} {n : Next}
    (h : checked sh goesOn next = some n) :
    (goesOn = .ok true ∧ next = some n) ∨
      (goesOn ≠ .ok true ∧ ∃ outcome, n = (sh, .finished outcome, [])) := by
  unfold checked at h
  split at h
  · cases h
    exact .inr ⟨nofun, _, rfl⟩
  · cases h
    exact .inr ⟨nofun, _, rfl⟩
  · exact .inl ⟨rfl, h⟩

theorem pauseEnter_access (h : pauseEnter sh = some (sh', pc', spawned)) :
    Access sh .pauseEnter sh' pc' spawned := by
  obtain ⟨hg, h⟩ | ⟨hg, outcome, h⟩ := checked_cases h
  · cases h
    exact .pauseEnter hg
  · cases h
    exact .pauseRefused hg

theorem pauseWrite_access (h : pauseWrite sh = some (sh', pc', spawned)) :
    Access sh .pauseWrite sh' pc' spawned := by
  obtain ⟨hg, h⟩ | ⟨hg, outcome, h⟩ := checked_cases h
  · cases h
    exact .paused hg
  · cases h
    exact .pauseSkipped hg

theorem resumeEnter_access (h : resumeEnter sh = some (sh', pc', spawned)) :
    Access sh .resumeEnter sh' pc' spawned := by
  obtain ⟨hg, h⟩ | ⟨hg, outcome, h⟩ := checked_cases h
  · cases h
    exact .resumeEnter hg
  · cases h
    exact .resumeRefused hg

theorem resumeWrite_access (h : resumeWrite sh = some (sh', pc', spawned)) :
    Access sh .resumeWrite sh' pc' spawned := by
  obtain ⟨hg, h⟩ | ⟨hg, outcome, h⟩ := checked_cases h
  · cases h
    exact .resumed hg
  · cases h
    exact .resumeSkipped hg

end PauseResume

section StopLeave

theorem stopEnter_access (h : stopEnter sh = some (sh', pc', spawned)) :
    Access sh .stopEnter sh' pc' spawned := by
  unfold stopEnter orFinish at h
  split at h <;> cases h
  · exact .stopRefused (ensureActiveVoiceSession_eq_error ‹_›)
  · exact .stopEnter (ensureActiveVoiceSession_eq_ok.mp ‹_›)

theorem stopWait_access {active : Bool} {generation : ℕ}
    (h : stopWait sh active generation answer = some (sh', pc', spawned)) :
    Access sh (.stopWait active generation) sh' pc' spawned := by
  obtain ⟨rfl, rfl, rfl⟩ | ⟨hv, rfl, rfl, rfl⟩ := waitForMediaOwnerSession_cases h
  · exact .stopReturned
  · exact .stopTimedOut hv

theorem stopSlot_access {active : Bool} (h : stopSlot sh active = some (sh', pc', spawned)) :
    Access sh (.stopSlot active) sh' pc' spawned := by
  obtain ⟨-, h⟩ := lockingVoice_eq_some.mp h
  cases h
  split
  · exact .stopLockedOpen
  · exact .stopLocked

theorem stopBoundary_access (h : stopBoundary sh answer = some (sh', pc', spawned)) :
    Access sh .stopBoundary sh' pc' spawned := by
  unfold stopBoundary at h
  split at h <;> cases h
  · exact .stopBoundary _ _
  · exact .stopBoundaryFailed _ _ _

theorem leaveStopped_access {count : ℕ} (h : leaveStopped sh count answer = some (sh', pc', spawned)) :
    Access sh (.leaveStopped count) sh' pc' spawned := by
  unfold leaveStopped at h
  split at h
  · split at h <;> cases h
    exact .leaveStopped ‹_›
  · split at h <;> cases h
    exact .leaveTimedOut
  · cases h

end StopLeave

theorem branch_access {c : Prop} [Decidable c] {yes no : Pc} {x : Shared}
    (hyes : c → Access sh pc x yes []) (hno : ¬c → Access sh pc x no [])
    (h : goto x (if c then yes else no) = some (sh', pc', spawned)) :
    Access sh pc sh' pc' spawned := by
  cases h
  split
  · exact hyes ‹_›
  · exact hno ‹_›

theorem interrupted_access {epoch : ℕ} {yes no : Pc} {x : Shared}
    (hyes : sh.playbackEpoch ≠ epoch → Access sh pc x yes [])
    (hno : sh.playbackEpoch = epoch → Access sh pc x no [])
    (h : goto x (if sh.playbackInterrupted epoch then yes else no) = some (sh', pc', spawned)) :
    Access sh pc sh' pc' spawned :=
  branch_access (fun hc ↦ hyes (playbackInterrupted_eq_true.mp hc))
    (fun hc ↦ hno (playbackInterrupted_eq_false.mp (by simpa using hc))) h

/-- A step of a command is one of the accesses, so what all of them keep, every step keeps. -/
theorem advance_access (h : advance sh pc answer = some (sh', pc', spawned)) :
    Access sh pc sh' pc' spawned := by
  cases pc with
  | finished outcome => cases h
  | sendMedia command next => exact sendMedia_access h
  | deliver channel command next => exact deliver_access h
  | checkRollover c yes no => exact branch_access .rolloverCurrent .rolloverStale h
  | checkPlayback c yes no => exact branch_access .playbackCurrent .playbackStale h
  | checkVideo c yes no => exact branch_access .videoLoaded .videoGone h
  | joinEnter voice => exact joinEnter_access h
  | joinConnect voice => exact joinConnect_access h
  | joinSettle session => exact joinSettle_access h
  | joinReady session =>
    obtain ⟨-, h⟩ := lockingVoice_eq_some.mp h
    cases h
    exact .joinReady
  | updateEnter voice => exact updateEnter_access h
  | refreshOwner voice =>
    exact branch_access .refreshOwned (fun hc ↦ .refreshFree (by simpa using hc)) h
  | refreshSlot voice => exact refreshSlot_access h
  | refreshSuspend voice => exact refreshSuspend_access h
  | refreshWrite voice => exact refreshWrite_access h
  | rolloverEnter voice => exact rolloverEnter_access h
  | rolloverBegin voice resumeVideoId => cases h; exact .rolloverBegin
  | rolloverOwner r =>
    exact branch_access .rolloverOwned (fun hc ↦ .rolloverFree (by simpa using hc)) h
  | rolloverGeneration r => cases h; exact .rolloverGeneration
  | rolloverWait r generation => exact rolloverWait_access h
  | rolloverInterrupt r => cases h; exact .rolloverInterrupt
  | rolloverCompare r => exact rolloverCompare_access h
  | replaceGeneration r => cases h; exact .replaceGeneration
  | replaceInterrupt r => cases h; exact .replaceInterrupt
  | replaceClear r => cases h; exact .replaceClear
  | replaceGuard r => cases h; exact .replaceGuard
  | replaceAnnounce r guard => cases h; exact .replaceAnnounce
  | replaceConnect r guard => exact replaceConnect_access h
  | replaceSettle r guard session => exact replaceSettle_access h
  | replaceFailed r guard error => exact replaceFailed_access h
  | replaceCurrent r guard session => exact replaceCurrent_access h
  | replaceInstall r guard session =>
    obtain ⟨-, h⟩ := lockingVoice_eq_some.mp h
    cases h
    exact .replaceInstall
  | matchInterrupt r => cases h; exact .matchInterrupt
  | matchGuard r => cases h; exact .matchGuard
  | matchAnnounce r guard => cases h; exact .matchAnnounce
  | matchRefresh r guard => exact matchRefresh_access h
  | reconnectedWrite r guard session => cases h; exact .reconnected
  | recoverWrite reason outcome => cases h; exact .recovered
  | quiesceSlot reason outcome => exact quiesceSlot_access h
  | quiesceBoundary reason outcome => exact quiesceBoundary_access h
  | interruptWrite reason outcome => cases h; exact .interrupted
  | resumeBegin videoId rolloverEpoch => cases h; exact .resumeBegin
  | playBegin videoId => cases h; exact .playBegin
  | playHint a => cases h; exact .playHint _
  | playResolve a positionMs => exact playResolve_access h
  | playWaitEpoch a => exact interrupted_access .waitStale .waitCurrent h
  | playWaitSlot a => exact playWaitSlot_access h
  | playPrepare a => exact playPrepare_access h
  | playPrepared a p => exact interrupted_access .preparedStale .preparedCurrent h
  | playBuffering a p => cases h; exact .buffering
  | playFill a p => exact playFill_access h
  | playFilled a p => exact interrupted_access .filledStale .filledCurrent h
  | playTake a p => exact playTake_access h
  | playSpeaking a p session => exact playSpeaking_access h
  | playSpoken a p session => exact interrupted_access .spokenStale .spokenCurrent h
  | playGiveBack a session outcome => exact playGiveBack_access h
  | playGeneration a p session => cases h; exact .playGeneration
  | pipeInstall p => cases h; exact .installed
  | pipeDepth p => exact pipeDepth_access h
  | pipePlaying p => cases h; exact .playing
  | pipeSpawn p => cases h; exact .driverSpawned
  | pipeLoop p =>
    cases h
    split
    · exact .loopStale (playbackInterrupted_eq_true.mp ‹_›)
    · exact .loopCurrent (playbackInterrupted_eq_false.mp (Bool.eq_false_iff.mpr ‹_›))
  | pipeSelect p => exact pipeSelect_access h
  | pipeEmit p kind => cases h; exact .emitted
  | pipeProgress p =>
    cases h
    split
    · exact .progressStale (playbackInterrupted_eq_true.mp ‹_›)
    · exact .progressed (playbackInterrupted_eq_false.mp (Bool.eq_false_iff.mpr ‹_›))
  | pipeClear p driverDone e =>
    cases driverDone <;> cases h
    · exact .clearedOpen
    · exact .clearedDone
  | pipeStop p e => exact pipeStop_access h
  | pipeAwait p e => exact pipeAwait_access h
  | pipeInterrupted p e => exact pipeInterrupted_access h
  | pipeRestoreGeneration p e => exact branch_access .restoreCurrent .restoreStale h
  | pipeRestoreSlot p e => exact pipeRestoreSlot_access h
  | pipeBoundary p e session => exact pipeBoundary_access h
  | pipePutBack p e session =>
    obtain ⟨-, h⟩ := lockingVoice_eq_some.mp h
    cases h
    exact .putBack
  | pipeReturned p e => exact pipeReturned_access h
  | pipeEnded p e => exact pipeEnded_access h
  | pauseEnter => exact pauseEnter_access h
  | pauseWrite => exact pauseWrite_access h
  | resumeEnter => exact resumeEnter_access h
  | resumeWrite => exact resumeWrite_access h
  | stopEnter => exact stopEnter_access h
  | stopOwner => cases h; exact .stopOwner
  | stopGeneration active =>
    cases active <;> cases h
    · exact .stopFree
    · exact .stopOwned
  | stopWait active generation => exact stopWait_access h
  | stopInterrupt active generation => cases h; exact .stopInterrupt
  | stopSlot active => exact stopSlot_access h
  | stopBoundary => exact stopBoundary_access h
  | stopWrite => cases h; exact .stopped
  | leaveRollover => cases h; exact .leaveRollover
  | leavePlayback => cases h; exact .leavePlayback
  | leaveOwner => cases h; exact .leaveOwner
  | leaveCount active => cases h; exact .leaveCount
  | leaveGeneration active count => cases h; exact .leaveGeneration
  | leaveStopped count => exact leaveStopped_access h
  | leaveClear => cases h; exact .leaveClear
  | leaveWrite => cases h; exact .leaveWrite
  | leaveSlot =>
    obtain ⟨-, h⟩ := lockingVoice_eq_some.mp h
    cases h
    exact .leaveSlot

end Inversion

end DiscordVoice.Session
