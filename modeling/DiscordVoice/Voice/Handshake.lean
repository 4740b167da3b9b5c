import DiscordVoice.Fallible
import DiscordVoice.Playback.HttpStream
import DiscordVoice.Voice.Drain

namespace DiscordVoice.Voice

/-- What the handshake calls of the encryption library beside what a connected session calls. -/
structure HandshakeLibdave extends Libdave where
  newExternalSender : ℕ → Except DaveError ExternalSender
  marshalledExternalSender : ExternalSender → Except DaveError Bytes

/-- What the loops of the handshake wait for. Two events come with data of their own here: the
session description with the negotiated version, the external sender with its bytes. -/
inductive HandshakeReceive
  | event (event : VoiceGatewayEvent)
  | sessionDescription (daveProtocolVersion : UInt16)
  | externalSenderPackage (externalSender : Bytes)
  | elapsed
  | failed (err : VoiceError)
  deriving DecidableEq, Repr

def VoiceGatewayClient.send (gateway : VoiceGatewayClient) (message : GatewayMessage) :
    Except VoiceError VoiceGatewayClient :=
  match gateway.sendResults with
  | some detail :: _ => .error (.webSocket detail)
  | results => .ok ⟨gateway.sent ++ [message], results.tail⟩

def orError {α : Type} (reason : String) : Option α → Except VoiceError α
  | some a => .ok a
  | none => .error (.invalidState reason)

def okOrError {α : Type} (reason : String) : Except DaveError α → Except VoiceError α
  | .ok a => .ok a
  | .error _ => .error (.invalidState reason)

/-- The variables of the loop of `complete_active_dave_transition`. -/
structure ActiveDaveHandshake (D : HandshakeLibdave) where
  groupId : ℕ
  protocolVersion : UInt16
  localExternalSender : D.ExternalSender
  gateway : VoiceGatewayClient
  recognizedUserIds : Finset String
  session : Option D.Session
  pendingPreparedTransitions : SortedMap TransitionId UInt16
  pendingTransition : Option (PendingDaveTransition D.toLibdave)
  pendingKeyPackage : Bool
  completedWelcomeBackedTransitionIds : Finset TransitionId
  selfOnlyGroupDeadline : Bool
  pendingLocalInitTransition : Option (D.Runtime × Bytes)
  gatewayExternalSender : Option Bytes

inductive HandshakeTurn (D : HandshakeLibdave)
  | again (handshake : ActiveDaveHandshake D)
  | done (gateway : VoiceGatewayClient) (dave : InitialDaveState D.toLibdave)

namespace ActiveDaveHandshake

variable {D : HandshakeLibdave}

def daveSession (h : ActiveDaveHandshake D) : Except VoiceError D.Session :=
  orError "voice dave session already moved to runtime" h.session

def sendPendingJoinKeyPackage (h : ActiveDaveHandshake D) :
    Except VoiceError (ActiveDaveHandshake D) :=
  if h.pendingKeyPackage then .ok h
  else do
    let (keyPackage, session) ← okOrError "voice dave key package failed"
      (D.keyPackage (← h.daveSession))
    let gateway ← h.gateway.send (.daveMlsKeyPackage keyPackage)
    return { h with gateway, session := some session, pendingKeyPackage := true }

/-- `complete_active_dave_transition` before its loop. -/
def start (voice : VoiceContext) (gateway : VoiceGatewayClient) (protocolVersion : UInt16)
    (recognizedUserIds : Finset String) : Except VoiceError (ActiveDaveHandshake D) := do
  let groupId ← orError "voice dave group id invalid" (Playback.parseU64 voice.channelId.toList)
  let localExternalSender ← okOrError "voice dave external sender create failed"
    (D.newExternalSender groupId)
  let session ← okOrError "voice dave session create failed" D.newSession
  let session ← okOrError "voice dave session init failed"
    (D.init session protocolVersion groupId voice.userId)
  sendPendingJoinKeyPackage
    { groupId
      protocolVersion
      localExternalSender
      gateway
      recognizedUserIds := insert voice.userId recognizedUserIds
      session := some session
      pendingPreparedTransitions := .empty
      pendingTransition := none
      pendingKeyPackage := false
      completedWelcomeBackedTransitionIds := ∅
      selfOnlyGroupDeadline := false
      pendingLocalInitTransition := none
      gatewayExternalSender := none }

def currentExternalSenderBytes (h : ActiveDaveHandshake D) : Except VoiceError Bytes :=
  match h.gatewayExternalSender with
  | some sender => .ok sender
  | none => okOrError "voice dave external sender unavailable"
      (D.marshalledExternalSender h.localExternalSender)

def initialDaveState (h : ActiveDaveHandshake D) (runtime : D.Runtime)
    (localInitCommit : Finset TransitionId) : Except VoiceError (HandshakeTurn D) := do
  let externalSenderBytes ← h.currentExternalSenderBytes
  return .done h.gateway
    { runtime := some runtime
      pendingInitialSession := none
      groupId := h.groupId
      protocolVersion := h.protocolVersion
      externalSender := h.localExternalSender
      externalSenderBytes
      recognizedUserIds := h.recognizedUserIds
      completedWelcomeBackedTransitionIds := h.completedWelcomeBackedTransitionIds
      completedLocalInitCommitTransitionIds := localInitCommit
      runtime_or_pending := rfl }

/-- The grace window for a group of our own is over. -/
def pendingInitialDaveState (h : ActiveDaveHandshake D) : Except VoiceError (HandshakeTurn D) := do
  let session ← h.daveSession
  let externalSenderBytes ← h.currentExternalSenderBytes
  return .done h.gateway
    { runtime := none
      pendingInitialSession := some session
      groupId := h.groupId
      protocolVersion := h.protocolVersion
      externalSender := h.localExternalSender
      externalSenderBytes
      recognizedUserIds := h.recognizedUserIds
      completedWelcomeBackedTransitionIds := h.completedWelcomeBackedTransitionIds
      completedLocalInitCommitTransitionIds := ∅
      runtime_or_pending := rfl }

def executeTransition (h : ActiveDaveHandshake D) (transitionId : TransitionId) :
    Except VoiceError (HandshakeTurn D) :=
  match h.pendingTransition with
  | some pending =>
    if transitionId = pending.transitionId then
      let h := match pending.source with
        | .welcomeBacked => { h with
            completedWelcomeBackedTransitionIds :=
              insert transitionId h.completedWelcomeBackedTransitionIds }
        | .commitBacked => h
      let localInitCommit : Finset TransitionId :=
        if transitionId = daveProtocolInitTransitionId ∧ pending.source = .commitBacked then
          {transitionId}
        else ∅
      h.initialDaveState pending.runtime localInitCommit
    else .ok (.again h)
  | none => .ok (.again h)

def externalSenderPackage (h : ActiveDaveHandshake D) (sender : Bytes) :
    Except VoiceError (HandshakeTurn D) := do
  let session ← okOrError "voice dave external sender invalid"
    (D.setExternalSender (← h.daveSession) sender)
  return .again { h with
    session := some session
    gatewayExternalSender := some sender
    selfOnlyGroupDeadline := true }

def notePrepared (h : ActiveDaveHandshake D) (transitionId : Option TransitionId)
    (protocolVersion : UInt16) : ActiveDaveHandshake D :=
  match transitionId with
  | some transitionId => { h with
      pendingPreparedTransitions := h.pendingPreparedTransitions.insert transitionId protocolVersion }
  | none => h

def prepareEpoch (h : ActiveDaveHandshake D) (transitionId : Option TransitionId) (epoch : String)
    (protocolVersion : UInt16) : Except VoiceError (HandshakeTurn D) :=
  if protocolVersion ≠ h.protocolVersion then
    .error (.invalidState "voice dave prepare epoch protocol version mismatch")
  else if epoch.isEmpty then
    .error (.invalidState "voice dave prepare epoch missing")
  else if h.pendingLocalInitTransition.isSome then
    .ok (.again (h.notePrepared transitionId protocolVersion))
  else do
    let h ← sendPendingJoinKeyPackage { h with selfOnlyGroupDeadline := false }
    return .again (h.notePrepared transitionId protocolVersion)

/-- `complete_local_initial_creator_transition`, which does not announce a transition here. -/
def completeLocalInitialCreatorTransition (gateway : VoiceGatewayClient) (session : D.Session)
    (commitWelcome commit : Bytes) : Except VoiceError (VoiceGatewayClient × D.Runtime) := do
  let gateway ← gateway.send (.daveMlsCommitWelcome commitWelcome)
  let (result, session) ← okOrError "voice dave local init commit invalid"
    (D.sessionProcessCommit session commit)
  if result.lostGroup then
    .error (.invalidState "voice dave local init commit did not join group")
  else do
    let runtime ← okOrError "voice dave runtime create failed" (D.fromSession session)
    return (gateway, runtime)

def processProposals (h : ActiveDaveHandshake D) (operation : DaveMlsProposalsOperation)
    (proposals : Bytes) : Except VoiceError (HandshakeTurn D) :=
  if !h.pendingKeyPackage then
    .error (.invalidState "voice dave proposals missing pending group creation")
  else if h.pendingLocalInitTransition.isSome then
    .ok (.again h)
  else do
    let (commitWelcome, session) ← okOrError "voice dave proposals invalid"
      (D.sessionProcessProposals (← h.daveSession) operation proposals h.recognizedUserIds)
    match commitWelcome with
    | none =>
      if operation = .revoke then
        .ok (.again { h with session := some session })
      else
        .error (.invalidState "voice dave append proposals produced no commit")
    | some commitWelcome => do
      let (commit, _) ← okOrError "voice dave commit welcome invalid"
        (D.splitCommitWelcome h.localExternalSender commitWelcome)
      let (gateway, runtime) ←
        completeLocalInitialCreatorTransition h.gateway session commitWelcome commit
      { h with gateway }.initialDaveState runtime {daveProtocolInitTransitionId}

/-- Whether a commit or a welcome is expected, and what is left to be prepared. -/
def takePrepared (h : ActiveDaveHandshake D) (transitionId : TransitionId) (reason : String) :
    Except VoiceError (ActiveDaveHandshake D) :=
  if h.pendingPreparedTransitions.contains transitionId then
    .ok { h with pendingPreparedTransitions := h.pendingPreparedTransitions.remove transitionId }
  else if h.pendingKeyPackage && h.pendingPreparedTransitions.isEmpty then
    .ok h
  else
    .error (.invalidState reason)

/-- The group is joined: the first transition is complete at once, another one is announced. -/
def joinedGroup (h : ActiveDaveHandshake D) (session : D.Session) (transitionId : TransitionId)
    (source : PendingDaveTransitionSource) : Except VoiceError (HandshakeTurn D) := do
  let h := { h with
    session := none
    pendingKeyPackage := false
    pendingPreparedTransitions := .empty
    selfOnlyGroupDeadline := false }
  let runtime ← okOrError "voice dave runtime create failed" (D.fromSession session)
  if transitionId = daveProtocolInitTransitionId then
    h.initialDaveState runtime ∅
  else do
    let gateway ← h.gateway.send (.daveTransitionReady transitionId)
    return .again { h with gateway, pendingTransition := some ⟨transitionId, runtime, source⟩ }

def processCommitTransition (h : ActiveDaveHandshake D) (transitionId : TransitionId)
    (commit : Bytes) : Except VoiceError (HandshakeTurn D) := do
  let h ← h.takePrepared transitionId "voice dave commit transition missing pending group creation"
  let (result, session) ← okOrError "voice dave commit invalid"
    (D.sessionProcessCommit (← h.daveSession) commit)
  if result.ignored then
    .ok (.again { h with session := some session, selfOnlyGroupDeadline := false })
  else if result.failed || result.rosterMemberIds.isEmpty then
    .error (.invalidState "voice dave commit transition did not join group")
  else
    h.joinedGroup session transitionId .commitBacked

def prepareCommitTransition (h : ActiveDaveHandshake D) (transitionId : TransitionId)
    (commit : Bytes) : Except VoiceError (HandshakeTurn D) :=
  match h.pendingLocalInitTransition with
  | some (runtime, localCommit) =>
    if transitionId = daveProtocolInitTransitionId then
      if commit ≠ localCommit then
        .error (.invalidState "voice dave local init gateway commit mismatch")
      else
        h.initialDaveState runtime {transitionId}
    else h.processCommitTransition transitionId commit
  | none => h.processCommitTransition transitionId commit

def processWelcome (h : ActiveDaveHandshake D) (transitionId : TransitionId) (welcome : Bytes) :
    Except VoiceError (HandshakeTurn D) := do
  let h ← h.takePrepared transitionId "voice dave welcome transition missing pending join"
  let (_, session) ← okOrError "voice dave welcome invalid"
    (D.sessionProcessWelcome (← h.daveSession) welcome h.recognizedUserIds)
  h.joinedGroup session transitionId .welcomeBacked

/-- The match of the loop. It has no arm for a disconnect. -/
def processEvent (h : ActiveDaveHandshake D) : VoiceGatewayEvent → Except VoiceError (HandshakeTurn D)
  | .clientsConnect userIds =>
    .ok (.again { h with recognizedUserIds := h.recognizedUserIds ∪ userIds.toFinset })
  | .davePrepareEpoch transitionId epoch protocolVersion =>
    h.prepareEpoch transitionId epoch protocolVersion
  | .daveMlsProposals operation proposals => h.processProposals operation proposals
  | .daveMlsPrepareCommitTransition transitionId commit =>
    h.prepareCommitTransition transitionId commit
  | .daveMlsWelcome transitionId welcome => h.processWelcome transitionId welcome
  | _ => .ok (.again h)

/-- A turn of the loop of `complete_active_dave_transition`. While a transition is pending
everything but its execution is skipped. -/
def turn (h : ActiveDaveHandshake D) : HandshakeReceive → Except VoiceError (HandshakeTurn D)
  | .failed err => .error err
  | .elapsed =>
    if h.selfOnlyGroupDeadline then h.pendingInitialDaveState
    else .error (.invalidState "voice handshake timed out")
  | .event (.daveExecuteTransition transitionId) => h.executeTransition transitionId
  | .event event => if h.pendingTransition.isSome then .ok (.again h) else h.processEvent event
  | .externalSenderPackage sender =>
    if h.pendingTransition.isSome then .ok (.again h) else h.externalSenderPackage sender
  | .sessionDescription _ => .ok (.again h)

end ActiveDaveHandshake

def isBenignPreSessionDescriptionEvent : VoiceGatewayEvent → Bool
  | .clientsConnect _ | .speaking | .heartbeatAck | .video | .mediaSinkWants | .clientFlags
  | .clientPlatform => true
  | _ => false

/-- An active participant: in `expect_session_description`, in `complete_active_dave_transition`, or
with a session that hands its events to `process_gateway_event_for_dave`. -/
inductive ActiveParticipant (D : HandshakeLibdave)
  | describing (gateway : VoiceGatewayClient) (recognizedUserIds : Finset String)
  | negotiating (handshake : ActiveDaveHandshake D)
  | connected (session : ConnectedVoiceSession D.toLibdave)

namespace ActiveParticipant

variable {D : HandshakeLibdave} (voice : VoiceContext) (transport : VoiceUdpTransport) (ssrc : UInt32)

def start (gateway : VoiceGatewayClient) : ActiveParticipant D :=
  .describing gateway {voice.userId}

def ofTurn : HandshakeTurn D → ActiveParticipant D
  | .again handshake => .negotiating handshake
  | .done gateway dave => .connected (connect voice gateway transport ssrc dave)

def describe (gateway : VoiceGatewayClient) (recognizedUserIds : Finset String) :
    HandshakeReceive → Except VoiceError (ActiveParticipant D)
  | .sessionDescription daveProtocolVersion =>
    .negotiating <$> ActiveDaveHandshake.start voice gateway daveProtocolVersion recognizedUserIds
  | .event (.clientsConnect userIds) => .ok (.describing gateway (recognizedUserIds ∪ userIds.toFinset))
  | .event (.clientDisconnect userId) =>
    if userId ≠ voice.userId then .ok (.describing gateway (recognizedUserIds.erase userId))
    else .error (.invalidState "voice handshake session description missing")
  | .event event =>
    if isBenignPreSessionDescriptionEvent event then .ok (.describing gateway recognizedUserIds)
    else .error (.invalidState "voice handshake session description missing")
  | .externalSenderPackage _ =>
    .error (.invalidState "voice handshake session description missing")
  | .elapsed => .error (.invalidState "voice handshake timed out")
  | .failed err => .error err

/-- What a session does with an event. One that cannot be processed fails it closed. -/
def serve (session : ConnectedVoiceSession D.toLibdave) :
    HandshakeReceive → ConnectedVoiceSession D.toLibdave
  | .event event => Fallible.stateAfter (handleGatewayEvent event session)
  | .sessionDescription _ | .externalSenderPackage _ | .elapsed | .failed _ => session

def step (p : ActiveParticipant D) (received : HandshakeReceive) : Option (ActiveParticipant D) :=
  match p with
  | .describing gateway recognizedUserIds =>
    (describe voice gateway recognizedUserIds received).toOption
  | .negotiating handshake => (handshake.turn received).toOption.map (ofTurn voice transport ssrc)
  | .connected session => some (.connected (serve session received))

end ActiveParticipant

end DiscordVoice.Voice
