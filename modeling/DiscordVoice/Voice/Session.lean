import Mathlib.Data.Finset.Basic
import DiscordVoice.SortedMap
import DiscordVoice.Voice.Transport

namespace DiscordVoice.Voice

abbrev TransitionId := Fin 65536

instance instNeZeroTransitionIds : NeZero 65536 := ⟨by decide⟩

def daveProtocolInitTransitionId : TransitionId := 0

def opusSilenceFrame : Bytes := [0xF8, 0xFF, 0xFE]

inductive DaveMlsProposalsOperation
  | append
  | revoke
  deriving DecidableEq, Repr

inductive DaveError
  | notInitialized
  | invalidUserId
  | malformedCommitWelcome
  | operation (context : String)
  deriving DecidableEq, Repr

structure DaveCommitResult where
  failed : Bool
  ignored : Bool
  rosterMemberIds : List ℕ
  deriving DecidableEq, Repr

structure DaveWelcomeResult where
  rosterMemberIds : List ℕ
  deriving DecidableEq, Repr

/-- The encryption library behind `DaveSession` and `DaveRuntimeContext`. Nothing is known of its
answers; a call that mutates its receiver returns the receiver's next state beside the answer. -/
structure Libdave where
  Session : Type
  Runtime : Type
  ExternalSender : Type
  newSession : Except DaveError Session
  setExternalSender : Session → Bytes → Except DaveError Session
  init : Session → UInt16 → ℕ → String → Except DaveError Session
  keyPackage : Session → Except DaveError (Bytes × Session)
  sessionProcessProposals : Session → DaveMlsProposalsOperation → Bytes → Finset String →
    Except DaveError (Option Bytes × Session)
  sessionProcessCommit : Session → Bytes → Except DaveError (DaveCommitResult × Session)
  sessionProcessWelcome : Session → Bytes → Finset String →
    Except DaveError (DaveWelcomeResult × Session)
  fromSession : Session → Except DaveError Runtime
  protocolVersion : Runtime → UInt16
  processProposals : Runtime → DaveMlsProposalsOperation → Bytes → Finset String →
    Except DaveError (Option Bytes) × Runtime
  processCommit : Runtime → Bytes → Except DaveError DaveCommitResult × Runtime
  processWelcome : Runtime → Bytes → Finset String → Except DaveError DaveWelcomeResult × Runtime
  encryptAudioFrame : Runtime → Bytes → Except DaveError Bytes × Runtime
  splitCommitWelcome : ExternalSender → Bytes → Except DaveError (Bytes × Bytes)

inductive PendingDaveTransitionSource
  | commitBacked
  | welcomeBacked
  deriving DecidableEq, Repr

structure PendingDaveTransition (D : Libdave) where
  transitionId : TransitionId
  runtime : D.Runtime
  source : PendingDaveTransitionSource

structure PendingLocalDaveCommitTransition (D : Libdave) where
  runtime : D.Runtime
  commit : Bytes

structure PendingInitialDaveSession (D : Libdave) where
  session : D.Session
  protocolVersion : UInt16

structure VoiceContext where
  guildId : String
  channelId : String
  userId : String
  sessionId : String
  endpoint : String
  token : String
  deriving DecidableEq, Repr

inductive VoiceGatewayEvent
  | hello
  | ready
  | sessionDescription
  | speaking
  | heartbeatAck
  | clientsConnect (userIds : List String)
  | video
  | clientDisconnect (userId : String)
  | mediaSinkWants
  | clientFlags
  | clientPlatform
  | davePrepareTransition (transitionId : TransitionId) (protocolVersion : UInt16)
  | daveExecuteTransition (transitionId : TransitionId)
  | davePrepareEpoch (transitionId : Option TransitionId) (epoch : String)
      (protocolVersion : UInt16)
  | daveMlsExternalSenderPackage
  | daveMlsProposals (operation : DaveMlsProposalsOperation) (proposals : Bytes)
  | daveMlsPrepareCommitTransition (transitionId : TransitionId) (commit : Bytes)
  | daveMlsWelcome (transitionId : TransitionId) (welcome : Bytes)
  | resumed
  deriving DecidableEq, Repr

inductive GatewayMessage
  | speaking (flags : ℕ) (ssrc : UInt32)
  | daveTransitionReady (transitionId : TransitionId)
  | daveMlsInvalidCommitWelcome (transitionId : TransitionId)
  | daveMlsKeyPackage (keyPackage : Bytes)
  | daveMlsCommitWelcome (commitWelcome : Bytes)
  deriving DecidableEq, Repr

/-- The write half of the gateway: what was sent, and which of the coming sends are going to end
in a socket error (a send past the end of the list succeeds). -/
structure VoiceGatewayClient where
  sent : List GatewayMessage
  sendResults : List (Option String)

/-- `ConnectedVoiceSession`. `handedToTransport` records the payloads given to the packet preparer
together with the frame each was made from. -/
structure ConnectedVoiceSession (D : Libdave) where
  voice : VoiceContext
  gateway : Option VoiceGatewayClient
  transport : Option VoiceUdpTransport
  ssrc : Option UInt32
  dave : Option D.Runtime
  pendingInitialDave : Option (PendingInitialDaveSession D)
  daveGroupId : Option ℕ
  daveExternalSender : Option D.ExternalSender
  daveExternalSenderBytes : Option Bytes
  daveRecognizedUserIds : Finset String
  completedWelcomeBackedDaveTransitionIds : Finset TransitionId
  completedLocalInitCommitTransitionIds : Finset TransitionId
  invalidatedDaveTransitionIds : Finset TransitionId
  pendingDavePreparedTransitions : SortedMap TransitionId UInt16
  pendingDaveLocalInitCommitEchoes : SortedMap TransitionId Bytes
  pendingDaveLocalCommitTransition : Option (PendingLocalDaveCommitTransition D)
  pendingDaveTransition : Option (PendingDaveTransition D)
  pendingInitialDaveRecovery : Bool
  daveFailedClosed : Bool
  gatewayReceiveClosed : Bool
  speakingStarted : Bool
  handedToTransport : List (Bytes × Bytes)

/-- What the handshake hands over for a session that negotiated end-to-end encryption: either a
runtime or the session that is going to become one. -/
structure InitialDaveState (D : Libdave) where
  runtime : Option D.Runtime
  pendingInitialSession : Option D.Session
  groupId : ℕ
  protocolVersion : UInt16
  externalSender : D.ExternalSender
  externalSenderBytes : Bytes
  recognizedUserIds : Finset String
  completedWelcomeBackedTransitionIds : Finset TransitionId
  completedLocalInitCommitTransitionIds : Finset TransitionId
  runtime_or_pending : runtime.isSome = !pendingInitialSession.isSome

/-- The session `connect` returns once the handshake has negotiated end-to-end encryption. -/
def connect {D : Libdave} (voice : VoiceContext) (gateway : VoiceGatewayClient)
    (transport : VoiceUdpTransport) (ssrc : UInt32) (dave : InitialDaveState D) :
    ConnectedVoiceSession D where
  voice := voice
  gateway := some gateway
  transport := some transport
  ssrc := some ssrc
  dave := dave.runtime
  pendingInitialDave := dave.pendingInitialSession.map fun session ↦ ⟨session, dave.protocolVersion⟩
  daveGroupId := some dave.groupId
  daveExternalSender := some dave.externalSender
  daveExternalSenderBytes := some dave.externalSenderBytes
  daveRecognizedUserIds := dave.recognizedUserIds
  completedWelcomeBackedDaveTransitionIds := dave.completedWelcomeBackedTransitionIds
  completedLocalInitCommitTransitionIds := dave.completedLocalInitCommitTransitionIds
  invalidatedDaveTransitionIds := ∅
  pendingDavePreparedTransitions := .empty
  pendingDaveLocalInitCommitEchoes := .empty
  pendingDaveLocalCommitTransition := none
  pendingDaveTransition := none
  pendingInitialDaveRecovery := false
  daveFailedClosed := false
  gatewayReceiveClosed := false
  speakingStarted := false
  handedToTransport := []

/-- A step of the session: it may fail, and keeps the state it reached when it does. -/
abbrev SessionM (D : Libdave) := EStateM VoiceError (ConnectedVoiceSession D)

variable {D : Libdave}

def failState {α : Type} (reason : String) : SessionM D α := throw (.invalidState reason)

def orFail {α : Type} (reason : String) : Option α → SessionM D α
  | some a => pure a
  | none => failState reason

def okOrFail {α : Type} (reason : String) : Except DaveError α → SessionM D α
  | .ok a => pure a
  | .error _ => failState reason

def sendGateway (message : GatewayMessage) : SessionM D Unit := do
  let s ← get
  let gateway ← orFail "voice gateway unavailable" s.gateway
  match gateway.sendResults with
  | some detail :: rest =>
    set { s with gateway := some { gateway with sendResults := rest } }
    throw (.webSocket detail)
  | results =>
    set { s with gateway := some ⟨gateway.sent ++ [message], results.tail⟩ }

def failDaveClosed (s : ConnectedVoiceSession D) : ConnectedVoiceSession D :=
  { s with
    dave := none
    pendingDaveTransition := none
    pendingInitialDave := none
    pendingDaveLocalCommitTransition := none
    pendingDavePreparedTransitions := .empty
    pendingDaveLocalInitCommitEchoes := .empty
    pendingInitialDaveRecovery := false
    daveFailedClosed := true }

/-- Pass an error on after failing the session closed for it. -/
def failingClosed (x : SessionM D Unit) : SessionM D Unit := fun s ↦
  match x s with
  | .ok () s' => .ok () s'
  | .error err s' => .error err (failDaveClosed s')

def markGatewayReceiveClosed (s : ConnectedVoiceSession D) : ConnectedVoiceSession D :=
  { s with gatewayReceiveClosed := true }

def removePrepared (transitionId : TransitionId) : SessionM D Unit :=
  modify fun s ↦ { s with
    pendingDavePreparedTransitions := s.pendingDavePreparedTransitions.remove transitionId }

def consumePreparedTransition (transitionId : TransitionId) : SessionM D UInt16 := do
  let s ← get
  let version ← orFail "voice dave transition missing prepared epoch"
    (s.pendingDavePreparedTransitions.get? transitionId)
  removePrepared transitionId
  return version

def takeDave : SessionM D D.Runtime := do
  let s ← get
  set { s with dave := none }
  orFail "voice dave runtime unavailable" s.dave

def currentDaveProtocolVersion (s : ConnectedVoiceSession D) : Option UInt16 :=
  (s.dave.map D.protocolVersion).or <|
    (s.pendingDaveTransition.map fun p ↦ D.protocolVersion p.runtime).or <|
      (s.pendingDaveLocalCommitTransition.map fun p ↦ D.protocolVersion p.runtime).or <|
        s.pendingInitialDave.map (·.protocolVersion)

def markCompletedTransition (transitionId : TransitionId) (source : PendingDaveTransitionSource)
    (s : ConnectedVoiceSession D) : ConnectedVoiceSession D :=
  match source with
  | .welcomeBacked =>
    { s with completedWelcomeBackedDaveTransitionIds :=
        insert transitionId s.completedWelcomeBackedDaveTransitionIds }
  | .commitBacked => s

def readyPendingTransition (transitionId : TransitionId) (runtime : D.Runtime)
    (source : PendingDaveTransitionSource) : SessionM D Unit := do
  modify fun s ↦ { s with pendingDaveTransition := some ⟨transitionId, runtime, source⟩ }
  if transitionId = daveProtocolInitTransitionId then
    return
  else
    failingClosed (sendGateway (.daveTransitionReady transitionId))

end DiscordVoice.Voice
