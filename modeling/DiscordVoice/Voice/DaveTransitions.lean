import DiscordVoice.Voice.Session

namespace DiscordVoice.Voice

variable {D : Libdave}

/-- A fresh library session for the negotiated group, ready to take part in it. -/
def freshDaveSession (protocolVersion : UInt16) (groupId : ℕ) (externalSenderBytes : Bytes)
    (userId : String) : SessionM D D.Session := do
  let session ← okOrFail "voice dave session create failed" D.newSession
  let session ← okOrFail "voice dave external sender invalid"
    (D.setExternalSender session externalSenderBytes)
  okOrFail "voice dave session init failed" (D.init session protocolVersion groupId userId)

def DaveCommitResult.lostGroup (r : DaveCommitResult) : Bool :=
  r.failed || r.ignored || r.rosterMemberIds.isEmpty

def reinitializeDaveSessionAfterInvalidCommit (transitionId : TransitionId)
    (protocolVersion : UInt16) : SessionM D Unit := do
  let s ← get
  let groupId ← orFail "voice dave group id unavailable" s.daveGroupId
  let externalSenderBytes ← orFail "voice dave external sender unavailable"
    s.daveExternalSenderBytes
  let session ← freshDaveSession protocolVersion groupId externalSenderBytes s.voice.userId
  let (keyPackage, session) ← okOrFail "voice dave key package failed" (D.keyPackage session)
  sendGateway (.daveMlsInvalidCommitWelcome transitionId)
  sendGateway (.daveMlsKeyPackage keyPackage)
  modify fun s ↦ { s with
    dave := none
    pendingDaveTransition := none
    pendingDaveLocalCommitTransition := none
    pendingDavePreparedTransitions := .empty
    pendingDaveLocalInitCommitEchoes := .empty
    invalidatedDaveTransitionIds := insert transitionId s.invalidatedDaveTransitionIds
    completedWelcomeBackedDaveTransitionIds := ∅
    completedLocalInitCommitTransitionIds := ∅
    pendingInitialDaveRecovery := true
    pendingInitialDave := some ⟨session, protocolVersion⟩ }

def processDeferredLocalCommit (transitionId : TransitionId) (commit : Bytes)
    (pending : PendingLocalDaveCommitTransition D) : SessionM D Unit := do
  removePrepared transitionId
  match D.processCommit pending.runtime commit with
  | (.error _, runtime) =>
    reinitializeDaveSessionAfterInvalidCommit transitionId (D.protocolVersion runtime)
  | (.ok result, runtime) =>
    if result.lostGroup then
      failState "voice dave local commit transition did not keep group"
    else
      readyPendingTransition transitionId runtime .commitBacked

def processAnnouncedCommit (transitionId : TransitionId) (commit : Bytes) : SessionM D Unit := do
  let _ ← consumePreparedTransition transitionId
  let runtime ← takeDave
  match D.processCommit runtime commit with
  | (.error _, _) => failState "voice dave commit invalid"
  | (.ok result, runtime) =>
    if result.ignored then
      modify fun s ↦ { s with dave := some runtime }
    else if result.failed || result.rosterMemberIds.isEmpty then
      failState "voice dave commit transition did not keep group"
    else
      readyPendingTransition transitionId runtime .commitBacked

def confirmLocalInitCommit (transitionId : TransitionId) (commit : Bytes) : SessionM D Unit := do
  let s ← get
  match s.pendingDaveLocalInitCommitEchoes.get? transitionId with
  | some expectedCommit =>
    set { s with pendingDaveLocalInitCommitEchoes :=
      s.pendingDaveLocalInitCommitEchoes.remove transitionId }
    if expectedCommit ≠ commit then
      failState "voice dave local init commit echo mismatch"
    else
      removePrepared transitionId
  | none => removePrepared transitionId

def prepareRemoteCommitTransition (transitionId : TransitionId) (commit : Bytes) :
    SessionM D Unit := do
  let s ← get
  let isPrepared := s.pendingDavePreparedTransitions.contains transitionId
  if transitionId ∈ s.invalidatedDaveTransitionIds then
    removePrepared transitionId
  else if transitionId ∈ s.completedWelcomeBackedDaveTransitionIds ∧ !isPrepared then
    return
  else if transitionId ∈ s.completedLocalInitCommitTransitionIds then
    confirmLocalInitCommit transitionId commit
  else if s.pendingDaveTransition.any fun pending ↦
      pending.transitionId = transitionId ∧ pending.source = .commitBacked then
    return
  else if s.pendingDaveTransition.isSome ∧ !isPrepared then
    return
  else
    match s.pendingDaveLocalCommitTransition with
    | some pending =>
      set { s with pendingDaveLocalCommitTransition := none }
      processDeferredLocalCommit transitionId commit pending
    | none =>
      if !isPrepared then
        return
      else
        processAnnouncedCommit transitionId commit

def preparePendingInitialWelcomeTransition (transitionId : TransitionId) (welcome : Bytes)
    (pendingInitial : PendingInitialDaveSession D) : SessionM D Unit := do
  let s ← get
  let (result, session) ← okOrFail "voice dave welcome invalid"
    (D.sessionProcessWelcome pendingInitial.session welcome s.daveRecognizedUserIds)
  if result.rosterMemberIds.isEmpty then
    failState "voice dave welcome transition did not keep group"
  else
    let runtime ← okOrFail "voice dave runtime create failed" (D.fromSession session)
    modify fun s ↦ { s with pendingInitialDaveRecovery := false }
    readyPendingTransition transitionId runtime .welcomeBacked

def processAnnouncedWelcome (transitionId : TransitionId) (welcome : Bytes) :
    SessionM D Unit := do
  let _ ← consumePreparedTransition transitionId
  let runtime ← takeDave
  let s ← get
  match D.processWelcome runtime welcome s.daveRecognizedUserIds with
  | (.error _, _) => failState "voice dave welcome invalid"
  | (.ok result, runtime) =>
    if result.rosterMemberIds.isEmpty then
      failState "voice dave welcome transition did not keep group"
    else
      readyPendingTransition transitionId runtime .welcomeBacked

def prepareWelcomeTransition (transitionId : TransitionId) (welcome : Bytes) :
    SessionM D Unit := do
  let s ← get
  let isPrepared := s.pendingDavePreparedTransitions.contains transitionId
  if transitionId ∈ s.invalidatedDaveTransitionIds then
    removePrepared transitionId
  else if transitionId ∈ s.completedWelcomeBackedDaveTransitionIds ∧ !isPrepared then
    return
  else if transitionId ∈ s.completedLocalInitCommitTransitionIds then
    removePrepared transitionId
  else
    match s.pendingInitialDave with
    | some pendingInitial =>
      set { s with pendingInitialDave := none }
      removePrepared transitionId
      preparePendingInitialWelcomeTransition transitionId welcome pendingInitial
    | none => processAnnouncedWelcome transitionId welcome

def shouldRetryInitialEpochProposals (s : ConnectedVoiceSession D)
    (operation : DaveMlsProposalsOperation) : Bool :=
  operation = .append && daveProtocolInitTransitionId ∈ s.completedLocalInitCommitTransitionIds &&
    s.completedWelcomeBackedDaveTransitionIds = ∅

/-- Remember a commit of our own that starts the group, and the echo the gateway owes for it. -/
def rememberLocalInitCommit (transitionId : TransitionId) (commit : Bytes) : SessionM D Unit :=
  modify fun s ↦ { s with
    completedLocalInitCommitTransitionIds :=
      insert transitionId s.completedLocalInitCommitTransitionIds
    pendingDaveLocalInitCommitEchoes :=
      s.pendingDaveLocalInitCommitEchoes.insert transitionId commit }

/-- Announce our own commit, apply it and install the runtime of the group it leads to. -/
def applyLocalCommit (externalSender : D.ExternalSender) (session : D.Session)
    (commitWelcome : Bytes) : SessionM D Bytes := do
  let (commit, _) ← okOrFail "voice dave commit welcome invalid"
    (D.splitCommitWelcome externalSender commitWelcome)
  sendGateway (.daveMlsCommitWelcome commitWelcome)
  let (result, session) ← okOrFail "voice dave local commit invalid"
    (D.sessionProcessCommit session commit)
  if result.lostGroup then
    failState "voice dave local commit transition did not keep group"
  else
    let runtime ← okOrFail "voice dave runtime create failed" (D.fromSession session)
    modify fun s ↦ { s with dave := some runtime }
    return commit

def prepareInitialEpochLocalCommitTransition (operation : DaveMlsProposalsOperation)
    (proposals : Bytes) (protocolVersion : UInt16) : SessionM D Unit := do
  let s ← get
  let externalSender ← orFail "voice dave external sender unavailable" s.daveExternalSender
  let groupId ← orFail "voice dave group id unavailable" s.daveGroupId
  let externalSenderBytes ← orFail "voice dave external sender unavailable"
    s.daveExternalSenderBytes
  let session ← freshDaveSession protocolVersion groupId externalSenderBytes s.voice.userId
  let (commitWelcome, session) ← okOrFail "voice dave proposals invalid"
    (D.sessionProcessProposals session operation proposals s.daveRecognizedUserIds)
  let commitWelcome ← orFail "voice dave append proposals produced no commit" commitWelcome
  let commit ← applyLocalCommit externalSender session commitWelcome
  rememberLocalInitCommit daveProtocolInitTransitionId commit

def preparePendingInitialLocalCommitTransition (operation : DaveMlsProposalsOperation)
    (proposals : Bytes) (pendingInitial : PendingInitialDaveSession D)
    (transitionId : Option TransitionId) : SessionM D Unit := do
  let s ← get
  let externalSender ← orFail "voice dave external sender unavailable" s.daveExternalSender
  let (commitWelcome, session) ← okOrFail "voice dave proposals invalid"
    (D.sessionProcessProposals pendingInitial.session operation proposals s.daveRecognizedUserIds)
  match commitWelcome with
  | none =>
    modify fun s ↦ { s with
      pendingInitialDave := some ⟨session, pendingInitial.protocolVersion⟩ }
  | some commitWelcome =>
    let commit ← applyLocalCommit externalSender session commitWelcome
    modify fun s ↦ { s with pendingInitialDaveRecovery := false }
    match transitionId with
    | some transitionId =>
      let _ ← consumePreparedTransition transitionId
      if transitionId ≠ daveProtocolInitTransitionId then
        let runtime ← takeDave
        readyPendingTransition transitionId runtime .commitBacked
      else
        rememberLocalInitCommit transitionId commit
    | none => rememberLocalInitCommit daveProtocolInitTransitionId commit

def deferLocalCommit (runtime : D.Runtime) (commitWelcome : Bytes) : SessionM D Unit := do
  let s ← get
  let externalSender ← orFail "voice dave external sender unavailable" s.daveExternalSender
  let (commit, _) ← okOrFail "voice dave commit welcome invalid"
    (D.splitCommitWelcome externalSender commitWelcome)
  sendGateway (.daveMlsCommitWelcome commitWelcome)
  modify fun s ↦ { s with pendingDaveLocalCommitTransition := some ⟨runtime, commit⟩ }

def prepareLocalCommitTransition (operation : DaveMlsProposalsOperation) (proposals : Bytes) :
    SessionM D Unit := do
  let s ← get
  match s.pendingInitialDave with
  | some pendingInitial =>
    set { s with pendingInitialDave := none }
    preparePendingInitialLocalCommitTransition operation proposals pendingInitial
      s.pendingDavePreparedTransitions.firstKey?
  | none =>
    if s.pendingDaveLocalCommitTransition.isSome ∨ s.pendingDaveTransition.isSome then
      return
    else
      let runtime ← takeDave
      match D.processProposals runtime operation proposals s.daveRecognizedUserIds with
      | (.ok (some commitWelcome), runtime) => deferLocalCommit runtime commitWelcome
      | (.ok none, runtime) => modify fun s ↦ { s with dave := some runtime }
      | (.error _, runtime) =>
        if shouldRetryInitialEpochProposals s operation then
          prepareInitialEpochLocalCommitTransition operation proposals (D.protocolVersion runtime)
        else
          modify fun s ↦ { s with dave := some runtime }

def prepareEpoch (transitionId : Option TransitionId) (epoch : String)
    (protocolVersion : UInt16) : SessionM D Unit := do
  let s ← get
  if epoch.isEmpty then
    failState "voice dave prepare epoch missing"
  else
    let transitionId ← orFail "voice dave prepare epoch transition id missing" transitionId
    if transitionId ∈ s.invalidatedDaveTransitionIds then
      return
    else
      let currentProtocol ← orFail "voice dave runtime unavailable" (currentDaveProtocolVersion s)
      if protocolVersion ≠ currentProtocol then
        failState "voice dave prepare epoch protocol version mismatch"
      else if transitionId ∈ s.completedLocalInitCommitTransitionIds then
        return
      else if s.pendingDaveTransition.any fun pending ↦ pending.transitionId = transitionId then
        return
      else
        set { s with pendingDavePreparedTransitions :=
          s.pendingDavePreparedTransitions.insert transitionId protocolVersion }

def executeTransition (transitionId : TransitionId) : SessionM D Unit := do
  let s ← get
  match s.pendingDaveTransition with
  | some pending =>
    if pending.transitionId = transitionId then
      set { markCompletedTransition transitionId pending.source s with
        pendingDaveTransition := none
        dave := some pending.runtime }
    else
      failState "voice dave execute transition id mismatch"
  | none => return

def prepareTransition (transitionId : TransitionId) (protocolVersion : UInt16) :
    SessionM D Unit := do
  let s ← get
  if transitionId ∈ s.invalidatedDaveTransitionIds then
    return
  else if transitionId ≠ daveProtocolInitTransitionId ∧ protocolVersion = 0 then
    failState "voice dave protocol downgrade transition unsupported"
  else
    set { s with pendingDavePreparedTransitions :=
      s.pendingDavePreparedTransitions.insert transitionId protocolVersion }

def processGatewayEventForDave : VoiceGatewayEvent → SessionM D Unit
  | .clientsConnect userIds => modify fun s ↦ { s with
      daveRecognizedUserIds := s.daveRecognizedUserIds ∪ userIds.toFinset }
  | .clientDisconnect userId => modify fun s ↦ { s with
      daveRecognizedUserIds := s.daveRecognizedUserIds.erase userId }
  | .davePrepareEpoch transitionId epoch protocolVersion =>
    prepareEpoch transitionId epoch protocolVersion
  | .daveMlsPrepareCommitTransition transitionId commit =>
    prepareRemoteCommitTransition transitionId commit
  | .daveMlsWelcome transitionId welcome => prepareWelcomeTransition transitionId welcome
  | .daveMlsProposals operation proposals => prepareLocalCommitTransition operation proposals
  | .daveExecuteTransition transitionId => executeTransition transitionId
  | .davePrepareTransition transitionId protocolVersion =>
    prepareTransition transitionId protocolVersion
  | _ => pure ()

end DiscordVoice.Voice
