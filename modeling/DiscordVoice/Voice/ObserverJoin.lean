import DiscordVoice.Voice.Handshake
import DiscordVoice.Voice.ObserverReceive
import DiscordVoice.Voice.Wire

namespace DiscordVoice.Voice

/-- What the join of an observer calls of the encryption library beside what a joined observer and
an active participant call. -/
structure JoinLibdave extends ObserverLibdave where
  sessionProtocolVersion : Session → UInt16

/-- The events the join has an arm for, and the others. -/
inductive JoinEvent
  | roster (event : RosterEvent)
  | daveMlsExternalSenderPackage (externalSender : Bytes)
  | davePrepareEpoch (transitionId : Option TransitionId) (epoch : String)
      (protocolVersion : UInt16)
  | daveMlsProposals (operation : DaveMlsProposalsOperation) (proposals : Bytes)
  | daveMlsPrepareCommitTransition (transitionId : TransitionId) (commit : Bytes)
  | daveMlsWelcome (transitionId : TransitionId) (welcome : Bytes)
  | other
  deriving DecidableEq, Repr

/-- What a poll of the gateway ends in, unless the time is over first. -/
inductive JoinReceive
  | event (event : JoinEvent)
  | failed (err : VoiceError)
  deriving DecidableEq, Repr

/-- A part of the handshake: it may fail, and what was sent is sent then too. -/
abbrev GatewayM := EStateM VoiceError VoiceGatewayClient

namespace GatewayM

def available {α : Type} (reason : String) : Option α → GatewayM α
  | some a => pure a
  | none => throw (.invalidState reason)

def succeeded {α : Type} (reason : String) : Except DaveError α → GatewayM α
  | .ok a => pure a
  | .error _ => throw (.invalidState reason)

def send (message : GatewayMessage) : GatewayM Unit := do
  let gateway ← get
  match gateway.sendResults with
  | some detail :: rest =>
    set { gateway with sendResults := rest }
    throw (.webSocket detail)
  | results => set (⟨gateway.sent ++ [message], results.tail⟩ : VoiceGatewayClient)

end GatewayM

/-- `PendingObserverDaveState`. What the roster events touch of it is a structure of its own. -/
structure PendingObserverDaveState (D : JoinLibdave) extends PendingObserverDave where
  session : Option D.Session
  userId : String
  groupId : ℕ
  protocolVersion : UInt16
  externalSenderBytes : Option Bytes
  pendingPreparedTransitions : SortedMap TransitionId UInt16
  invalidatedTransitionIds : Finset TransitionId
  pendingKeyPackage : Bool
  pendingGatewayWinnerAfterLocalProposalsCommit : Bool
  pendingProposalsReplayStart : ℕ
  pendingProposals : List (DaveMlsProposalsOperation × Bytes)
  seededEvents : List JoinEvent

structure PendingObserverReadyResult (D : JoinLibdave) where
  runtime : D.Runtime
  gatewayUpdates : List PendingObserverGatewayUpdate
  material : ObserverDaveMaterial
  recognizedUserIds : Finset String
  completedTransitionId : Option TransitionId

inductive JoinTurn (D : JoinLibdave)
  | again (pending : PendingObserverDaveState D)
  | done (ready : PendingObserverReadyResult D)

namespace PendingObserverDaveState

open GatewayM

variable {D : JoinLibdave}

def externalSession (protocolVersion : UInt16) (groupId : ℕ) (userId : String)
    (externalSenderBytes : Bytes) : GatewayM D.Session := do
  let session ← succeeded "voice dave session create failed" D.newSession
  let session ← succeeded "voice dave external sender invalid"
    (D.setExternalSender session externalSenderBytes)
  succeeded "voice dave session init failed" (D.init session protocolVersion groupId userId)

def daveSession (p : PendingObserverDaveState D) : GatewayM D.Session :=
  available "voice dave session already moved to runtime" p.session

def observerDaveProtocolVersion (p : PendingObserverDaveState D) : GatewayM UInt16 :=
  available "voice dave session already moved to runtime"
    ((p.session.map D.sessionProtocolVersion).filter (· ≠ 0))

def observerDaveMaterial (p : PendingObserverDaveState D) : GatewayM ObserverDaveMaterial := do
  let externalSenderBytes ← available "voice dave external sender unavailable"
    p.externalSenderBytes
  return ⟨p.groupId, p.protocolVersion, externalSenderBytes⟩

def sendPendingJoinKeyPackage (p : PendingObserverDaveState D) :
    GatewayM (PendingObserverDaveState D) := do
  let session ← p.daveSession
  if p.pendingKeyPackage then
    return p
  else
    let (keyPackage, session) ← succeeded "voice dave key package failed" (D.keyPackage session)
    send (.daveMlsKeyPackage keyPackage)
    return { p with session := some session, pendingKeyPackage := true }

def initial (userId : String) (recognizedUserIds : Finset String) (sawExistingSpeaker : Bool)
    (groupId : ℕ) (protocolVersion : UInt16) (externalSenderBytes : Option Bytes)
    (invalidatedTransitionIds : Finset TransitionId) (session : D.Session) :
    PendingObserverDaveState D where
  toPendingObserverDave := .start userId recognizedUserIds sawExistingSpeaker
  session := some session
  userId := userId
  groupId := groupId
  protocolVersion := protocolVersion
  externalSenderBytes := externalSenderBytes
  pendingPreparedTransitions := .empty
  invalidatedTransitionIds := invalidatedTransitionIds
  pendingKeyPackage := false
  pendingGatewayWinnerAfterLocalProposalsCommit := false
  pendingProposalsReplayStart := 0
  pendingProposals := []
  seededEvents := []

def observeRoster (p : PendingObserverDaveState D) (event : RosterEvent) :
    PendingObserverDaveState D :=
  { p with toPendingObserverDave := p.toPendingObserverDave.observe event }

def notePrepared (p : PendingObserverDaveState D) (transitionId : Option TransitionId)
    (protocolVersion : UInt16) : PendingObserverDaveState D :=
  match transitionId with
  | some transitionId => { p with
      pendingPreparedTransitions :=
        p.pendingPreparedTransitions.insert transitionId protocolVersion }
  | none => p

def setExternalSender (p : PendingObserverDaveState D) (sender : Bytes) :
    GatewayM (PendingObserverDaveState D) := do
  let session ← succeeded "voice dave external sender invalid"
    (D.setExternalSender (← p.daveSession) sender)
  return { p with session := some session, externalSenderBytes := some sender }

/-- Whether an epoch can be prepared, for the version that was negotiated. -/
def checkEpoch (negotiated : UInt16) (epoch : String) (protocolVersion : UInt16) : GatewayM Unit :=
  if protocolVersion ≠ negotiated then
    throw (.invalidState "voice dave prepare epoch protocol version mismatch")
  else if epoch.isEmpty then
    throw (.invalidState "voice dave prepare epoch missing")
  else
    return

/-- The loop of `seed_pending_observer_dave_state`: what is there at once, up to the first event
that is left to the join. The polls it does not make come back. -/
def seed (negotiated : UInt16) (p : PendingObserverDaveState D) :
    List JoinReceive → GatewayM (PendingObserverDaveState D × List JoinReceive)
  | [] => return (p, [])
  | .failed err :: _ => throw err
  | .event event :: inbox =>
    match event with
    | .roster event => seed negotiated (p.observeRoster event) inbox
    | .daveMlsExternalSenderPackage sender => do
      seed negotiated (← p.setExternalSender sender) inbox
    | .davePrepareEpoch transitionId epoch protocolVersion => do
      checkEpoch negotiated epoch protocolVersion
      seed negotiated (p.notePrepared transitionId protocolVersion) inbox
    | .daveMlsProposals _ _ | .daveMlsPrepareCommitTransition _ _ | .daveMlsWelcome _ _ =>
      return ({ p with seededEvents := p.seededEvents ++ [event] }, inbox)
    | .other => seed negotiated p inbox

def seedPendingObserverDaveState (p : PendingObserverDaveState D) (inbox : List JoinReceive) :
    GatewayM (PendingObserverDaveState D × List JoinReceive) := do
  seed (← p.observerDaveProtocolVersion) p inbox

def startPendingObserverDaveJoin (voice : VoiceContext) (protocolVersion : UInt16)
    (recognizedUserIds : Finset String) (preSessionSawExistingSpeaker : Bool)
    (inbox : List JoinReceive) : GatewayM (PendingObserverDaveState D × List JoinReceive) := do
  let groupId ← available "voice dave group id invalid"
    (Playback.parseU64 voice.channelId.toList)
  let session ← succeeded "voice dave session create failed" D.newSession
  let session ← succeeded "voice dave session init failed"
    (D.init session protocolVersion groupId voice.userId)
  let p ← (initial voice.userId recognizedUserIds preSessionSawExistingSpeaker groupId
    protocolVersion none ∅ session).sendPendingJoinKeyPackage
  p.seedPendingObserverDaveState inbox

/-- What the two ways to join again have in common. -/
def reinitializeJoin (voice : VoiceContext) (material : ObserverDaveMaterial)
    (recognizedUserIds : Finset String) (reported : TransitionId)
    (invalidated : Finset TransitionId) : GatewayM (PendingObserverDaveState D) := do
  let session ← externalSession material.protocolVersion material.groupId voice.userId
    material.externalSenderBytes
  send (.daveMlsInvalidCommitWelcome reported)
  (initial voice.userId recognizedUserIds true material.groupId material.protocolVersion
    (some material.externalSenderBytes) invalidated session).sendPendingJoinKeyPackage

def reinitializeAfterInvalidTransition (voice : VoiceContext) (material : ObserverDaveMaterial)
    (recognizedUserIds : Finset String) (invalidTransitionId : TransitionId) :
    GatewayM (PendingObserverDaveState D) :=
  reinitializeJoin voice material recognizedUserIds invalidTransitionId {invalidTransitionId}

/-- The transition of the first epoch is reported, and yet none counts as invalid. -/
def reinitializeAfterInvalidProposals (voice : VoiceContext) (material : ObserverDaveMaterial)
    (recognizedUserIds : Finset String) : GatewayM (PendingObserverDaveState D) :=
  reinitializeJoin voice material recognizedUserIds daveProtocolInitTransitionId ∅

/-- `restart_pending_observer_dave_join_after_invalid_transition` -/
def restart (p : PendingObserverDaveState D) (invalidTransitionId : TransitionId) :
    GatewayM (PendingObserverDaveState D) := do
  let externalSenderBytes ← available "voice dave external sender unavailable"
    p.externalSenderBytes
  let session ← externalSession p.protocolVersion p.groupId p.userId externalSenderBytes
  send (.daveMlsInvalidCommitWelcome invalidTransitionId)
  sendPendingJoinKeyPackage { p with
    session := some session
    pendingPreparedTransitions := .empty
    invalidatedTransitionIds := insert invalidTransitionId p.invalidatedTransitionIds
    pendingKeyPackage := false
    pendingGatewayWinnerAfterLocalProposalsCommit := false
    pendingProposalsReplayStart := 0
    pendingProposals := []
    sawExistingSpeaker := true }

def prepareEpoch (p : PendingObserverDaveState D) (transitionId : Option TransitionId)
    (epoch : String) (protocolVersion : UInt16) : GatewayM (PendingObserverDaveState D) :=
  if transitionId.any (· ∈ p.invalidatedTransitionIds) then
    return p
  else do
    checkEpoch (← p.observerDaveProtocolVersion) epoch protocolVersion
    (p.notePrepared transitionId protocolVersion).sendPendingJoinKeyPackage

/-- The transition is left to be made by somebody else, with the proposals so far. -/
def awaitGatewayWinner (p : PendingObserverDaveState D) : PendingObserverDaveState D :=
  { p with
    pendingGatewayWinnerAfterLocalProposalsCommit := true
    pendingProposalsReplayStart := p.pendingProposals.length }

def bufferProposals (p : PendingObserverDaveState D) (authorProposals : Bool)
    (operation : DaveMlsProposalsOperation) (proposals : Bytes) : PendingObserverDaveState D :=
  let p := { p with pendingProposals := p.pendingProposals ++ [(operation, proposals)] }
  let p := if !authorProposals && !p.pendingGatewayWinnerAfterLocalProposalsCommit then
    p.awaitGatewayWinner else p
  if p.sawExistingSpeaker && !p.pendingGatewayWinnerAfterLocalProposalsCommit then
    p.awaitGatewayWinner
  else p

def processInitialProposals (p : PendingObserverDaveState D)
    (operation : DaveMlsProposalsOperation) (proposals : Bytes) :
    GatewayM (Option Bytes × D.Session) := do
  let (commitWelcome, session) ← succeeded "voice dave proposals invalid"
    (D.sessionProcessProposals (← p.daveSession) operation proposals p.recognizedUserIds)
  if commitWelcome.isNone && operation = .append then
    throw (.invalidState "voice dave append proposals produced no commit")
  else
    return (commitWelcome, session)

/-- `complete_local_initial_creator_transition`, which does not announce a transition here. -/
def completeLocalInitialCreatorTransition (session : D.Session) (commitWelcome commit : Bytes) :
    GatewayM D.Runtime := do
  send (.daveMlsCommitWelcome commitWelcome)
  let (result, session) ← succeeded "voice dave local init commit invalid"
    (D.sessionProcessCommit session commit)
  if result.lostGroup then
    throw (.invalidState "voice dave local init commit did not join group")
  else
    succeeded "voice dave runtime create failed" (D.fromSession session)

def ready (p : PendingObserverDaveState D) (runtime : D.Runtime) (transitionId : TransitionId) :
    GatewayM (JoinTurn D) := do
  let material ← p.observerDaveMaterial
  return .done ⟨runtime, p.gatewayUpdates, material, p.recognizedUserIds, some transitionId⟩

/-- What was packed by the library itself. Unpacking does not panic. -/
def unpackCommit (commitWelcome : Bytes) : GatewayM Bytes :=
  match unpackCommitWelcome commitWelcome with
  | .ok (commit, _) => pure commit
  | .error _ | .panicked => throw (.invalidState "voice dave commit welcome invalid")

def processProposals (authorProposals : Bool) (p : PendingObserverDaveState D)
    (operation : DaveMlsProposalsOperation) (proposals : Bytes) : GatewayM (JoinTurn D) :=
  if !p.pendingKeyPackage then
    throw (.invalidState "voice dave proposals missing pending group creation")
  else
    let p := p.bufferProposals authorProposals operation proposals
    if p.pendingGatewayWinnerAfterLocalProposalsCommit then
      return .again p
    else do
      let (commitWelcome, session) ← p.processInitialProposals operation proposals
      match commitWelcome with
      | none => return .again { p with session := some session }
      | some commitWelcome =>
        let commit ← unpackCommit commitWelcome
        let runtime ← completeLocalInitialCreatorTransition session commitWelcome commit
        ({ p with session := none }.awaitGatewayWinner).ready runtime daveProtocolInitTransitionId

def dropPrepared (p : PendingObserverDaveState D) (transitionId : TransitionId) :
    PendingObserverDaveState D :=
  { p with pendingPreparedTransitions := p.pendingPreparedTransitions.remove transitionId }

def takePrepared (p : PendingObserverDaveState D) (transitionId : TransitionId) (reason : String) :
    GatewayM (PendingObserverDaveState D) := do
  let _ ← p.observerDaveProtocolVersion
  if p.pendingPreparedTransitions.contains transitionId then
    return p.dropPrepared transitionId
  else if p.pendingKeyPackage && p.pendingPreparedTransitions.isEmpty then
    return p
  else
    throw (.invalidState reason)

/-- `stage_pending_observer_proposals` -/
def stageProposals (p : PendingObserverDaveState D) (runtime : D.Runtime) : GatewayM D.Runtime :=
  match ObservedVoiceSession.stagePendingDaveProposals p.recognizedUserIds runtime
      (p.pendingProposals.drop p.pendingProposalsReplayStart) with
  | (.ok (), runtime) => pure runtime
  | (.error err, _) => throw err

def joinedGroup (p : PendingObserverDaveState D) (session : D.Session)
    (transitionId : TransitionId) : GatewayM (JoinTurn D) := do
  let p := { p with session := none }
  let runtime ← succeeded "voice dave runtime create failed" (D.fromSession session)
  let runtime ← p.stageProposals runtime
  if transitionId ≠ daveProtocolInitTransitionId then
    send (.daveTransitionReady transitionId)
  p.ready runtime transitionId

def processCommitTransition (p : PendingObserverDaveState D) (transitionId : TransitionId)
    (commit : Bytes) : GatewayM (JoinTurn D) :=
  if transitionId ∈ p.invalidatedTransitionIds then
    return .again (p.dropPrepared transitionId)
  else do
    let p ← p.takePrepared transitionId "voice observer dave commit transition missing pending join"
    match D.sessionProcessCommit (← p.daveSession) commit with
    | .error _ => return .again (← p.restart transitionId)
    | .ok (result, session) =>
      if result.lostGroup then
        return .again (← { p with session := some session }.restart transitionId)
      else
        p.joinedGroup session transitionId

def processWelcome (p : PendingObserverDaveState D) (transitionId : TransitionId)
    (welcome : Bytes) : GatewayM (JoinTurn D) :=
  if transitionId ∈ p.invalidatedTransitionIds then
    return .again (p.dropPrepared transitionId)
  else do
    let p ← p.takePrepared transitionId
      "voice observer dave welcome transition missing pending join"
    match D.sessionProcessWelcome (← p.daveSession) welcome p.recognizedUserIds with
    | .error _ => return .again (← p.restart transitionId)
    | .ok (_, session) => p.joinedGroup session transitionId

/-- A turn of the loop of `complete_pending_observer_dave_join`. -/
def turn (authorProposals : Bool) (p : PendingObserverDaveState D) :
    JoinEvent → GatewayM (JoinTurn D)
  | .roster event => return .again (p.observeRoster event)
  | .daveMlsExternalSenderPackage sender => return .again (← p.setExternalSender sender)
  | .davePrepareEpoch transitionId epoch protocolVersion =>
    return .again (← p.prepareEpoch transitionId epoch protocolVersion)
  | .daveMlsProposals operation proposals => p.processProposals authorProposals operation proposals
  | .daveMlsPrepareCommitTransition transitionId commit =>
    p.processCommitTransition transitionId commit
  | .daveMlsWelcome transitionId welcome => p.processWelcome transitionId welcome
  | .other => return .again p

/-- The loop. The deadline ends what the gateway has to say. -/
def joinLoop (authorProposals : Bool) (p : PendingObserverDaveState D) :
    List JoinReceive → GatewayM (PendingObserverReadyResult D)
  | [] => throw (.invalidState "voice observer dave join timed out")
  | .failed err :: _ => throw err
  | .event event :: inbox => do
    match ← p.turn authorProposals event with
    | .again p => joinLoop authorProposals p inbox
    | .done ready => return ready

def completePendingObserverDaveJoin (authorProposals : Bool) (p : PendingObserverDaveState D)
    (inbox : List JoinReceive) : GatewayM (PendingObserverReadyResult D) :=
  joinLoop authorProposals { p with seededEvents := [] } (p.seededEvents.map .event ++ inbox)

end PendingObserverDaveState

/-- The ways to a join: with the connection, where some events are there at once, and later, after a
transition or after proposals that the observer could not take. -/
inductive JoinStart
  | connection (protocolVersion : UInt16) (sawExistingSpeaker : Bool) (seed : List JoinReceive)
  | invalidTransition (material : ObserverDaveMaterial) (invalidTransitionId : TransitionId)
  | invalidProposals (material : ObserverDaveMaterial)

namespace JoinStart

open PendingObserverDaveState

variable {D : JoinLibdave}

def sawExistingSpeaker : JoinStart → Bool
  | connection _ sawExistingSpeaker _ => sawExistingSpeaker
  | invalidTransition _ _ | invalidProposals _ => true

def begin (voice : VoiceContext) (recognizedUserIds : Finset String) :
    JoinStart → GatewayM (PendingObserverDaveState D × List JoinReceive)
  | connection protocolVersion sawExistingSpeaker seed =>
    startPendingObserverDaveJoin voice protocolVersion recognizedUserIds sawExistingSpeaker seed
  | invalidTransition material invalidTransitionId => do
    return (← reinitializeAfterInvalidTransition voice material recognizedUserIds
      invalidTransitionId, [])
  | invalidProposals material => do
    return (← reinitializeAfterInvalidProposals voice material recognizedUserIds, [])

def join (voice : VoiceContext) (recognizedUserIds : Finset String) (authorProposals : Bool)
    (start : JoinStart) (inbox : List JoinReceive) : GatewayM (PendingObserverReadyResult D) := do
  let (p, rest) ← start.begin voice recognizedUserIds
  p.completePendingObserverDaveJoin authorProposals (rest ++ inbox)

end JoinStart

end DiscordVoice.Voice
