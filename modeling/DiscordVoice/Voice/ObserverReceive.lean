import DiscordVoice.Fallible
import DiscordVoice.Voice.Observer

namespace DiscordVoice.Voice

/-- The events `apply_gateway_payload` has an arm for, and the others. -/
inductive ObserverGatewayEvent
  | roster (event : RosterEvent)
  | daveMlsProposals (operation : DaveMlsProposalsOperation) (proposals : Bytes)
  | daveMlsWelcome (transitionId : TransitionId) (welcome : Bytes)
  | daveMlsPrepareCommitTransition (transitionId : TransitionId) (commit : Bytes)
  | other
  deriving DecidableEq, Repr

/-- How `complete_pending_observer_dave_join` went: the roster events it received and how it ended. -/
structure ObserverJoin (D : ObserverLibdave) where
  events : List RosterEvent
  result : Except VoiceError (ObserverReady D)

namespace ObservedVoiceSession

/-- A step of the observer: it may fail, and keeps the state it reached when it does. -/
abbrev ObserverM (D : ObserverLibdave) := EStateM VoiceError (ObservedVoiceSession D)

abbrev DecodeM (D : ObserverLibdave) := EStateM DecodeAudioPacketError (ObservedVoiceSession D)

variable {D : ObserverLibdave}

def available {α : Type} (reason : String) : Option α → ObserverM D α
  | some a => pure a
  | none => throw (.invalidState reason)

def succeeded {α : Type} (reason : String) : Except DaveError α → ObserverM D α
  | .ok a => pure a
  | .error _ => throw (.invalidState reason)

def send (message : GatewayMessage) : ObserverM D Unit := do
  let s ← get
  let gateway ← available "voice gateway unavailable" s.gateway
  match gateway.sendResults with
  | some detail :: rest =>
    set { s with gateway := some { gateway with sendResults := rest } }
    throw (.webSocket detail)
  | results =>
    set { s with gateway := some ⟨gateway.sent ++ [message], results.tail⟩ }

/-- The part before the join proper, the same in
`reinitialize_pending_observer_dave_join_after_invalid_transition` and in
`reinitialize_pending_observer_dave_join_after_invalid_proposals`. -/
def reinitializePendingObserverDaveJoin (material : ObserverDaveMaterial)
    (invalidTransitionId : TransitionId) : ObserverM D Unit := do
  let s ← get
  let session ← succeeded "voice dave session create failed" D.newSession
  let session ← succeeded "voice dave external sender invalid"
    (D.setExternalSender session material.externalSenderBytes)
  let session ← succeeded "voice dave session init failed"
    (D.init session material.protocolVersion material.groupId s.voice.userId)
  send (.daveMlsInvalidCommitWelcome invalidTransitionId)
  let (keyPackage, _) ← succeeded "voice dave key package failed" (D.keyPackage session)
  send (.daveMlsKeyPackage keyPackage)

/-- What a join makes of the session. One that fails leaves it without a runtime, and what the
gateway said meanwhile is lost. -/
def completeJoin (join : ObserverJoin D) : ObserverM D Unit := do
  let s ← get
  match join.result with
  | .ok ready =>
    set ({ s with dave := none }.applyObserverDaveReady
      (s.pendingJoin s.daveRecognizedUserIds true join.events) ready)
  | .error err =>
    modify fun s ↦ { s with
      dave := none
      sightings := s.sightings ++ join.events.flatMap RosterEvent.sightings }
    throw err

/-- `reinitialize_dave_after_invalid_transition` and `reinitialize_dave_after_invalid_proposals`,
the latter with the transition of the first epoch. -/
def reinitializeDave (invalidTransitionId : TransitionId) (join : ObserverJoin D) :
    ObserverM D Unit := do
  let s ← get
  let material ← available "voice dave reinitialize material unavailable" s.daveMaterial
  let _ ← available "voice gateway unavailable" s.gateway
  reinitializePendingObserverDaveJoin material invalidTransitionId
  completeJoin join

def applyDaveProposals (operation : DaveMlsProposalsOperation) (proposals : Bytes)
    (join : ObserverJoin D) : ObserverM D Unit := do
  let s ← get
  if !s.authorDaveProposals then
    set { s with pendingDaveProposals := s.pendingDaveProposals ++ [(operation, proposals)] }
  else
    match s.dave with
    | none => return
    | some dave =>
      match D.processProposals dave operation proposals s.daveRecognizedUserIds with
      | (.ok none, dave) => set { s with dave := some dave }
      | (.ok (some commitWelcome), dave) =>
        set { s with dave := some dave }
        send (.daveMlsCommitWelcome commitWelcome)
      | (.error err, dave) =>
        set { s with dave := some dave }
        if D.isEpochMismatch err then
          reinitializeDave daveProtocolInitTransitionId join
        else
          return

def finishDaveTransition (transitionId : TransitionId) : ObserverM D Unit := do
  modify fun s ↦ { s with pendingDaveProposals := [] }
  if transitionId ≠ 0 then
    send (.daveTransitionReady transitionId)
  modify fun s ↦ { s with
    completedDaveTransitionIds := insert transitionId s.completedDaveTransitionIds }

def applyDaveWelcome (transitionId : TransitionId) (welcome : Bytes) (join : ObserverJoin D) :
    ObserverM D Unit := do
  let s ← get
  if transitionId ∈ s.completedDaveTransitionIds then
    return
  else
    match s.dave with
    | none => return
    | some dave =>
      match D.processWelcome dave welcome ∅ with
      | (.error _, dave) =>
        set { s with dave := some dave }
        reinitializeDave transitionId join
      | (.ok _, dave) =>
        set { s with dave := some dave }
        finishDaveTransition transitionId

def stagePendingDaveProposals (recognizedUserIds : Finset String) (dave : D.Runtime) :
    List (DaveMlsProposalsOperation × Bytes) → Except VoiceError Unit × D.Runtime
  | [] => (.ok (), dave)
  | (operation, proposals) :: pending =>
    match D.processProposals dave operation proposals recognizedUserIds with
    | (.ok _, dave) => stagePendingDaveProposals recognizedUserIds dave pending
    | (.error _, dave) => (.error (.invalidState "voice observer dave proposals invalid"), dave)

def applyDaveCommitTransition (transitionId : TransitionId) (commit : Bytes)
    (join : ObserverJoin D) : ObserverM D Unit := do
  let s ← get
  if transitionId ∈ s.completedDaveTransitionIds then
    return
  else
    match s.dave with
    | none => return
    | some dave =>
      match stagePendingDaveProposals s.daveRecognizedUserIds dave s.pendingDaveProposals with
      | (.error _, dave) =>
        set { s with dave := some dave, pendingDaveProposals := [] }
        reinitializeDave transitionId join
      | (.ok _, dave) =>
        match D.processCommit dave commit with
        | (.error _, dave) =>
          set { s with dave := some dave, pendingDaveProposals := [] }
          reinitializeDave transitionId join
        | (.ok _, dave) =>
          set { s with dave := some dave }
          finishDaveTransition transitionId

def applyGatewayPayload (event : ObserverGatewayEvent) (join : ObserverJoin D) :
    ObserverM D Unit :=
  match event with
  | .roster event => modify fun s ↦ s.applyRosterEvent event
  | .daveMlsProposals operation proposals => applyDaveProposals operation proposals join
  | .daveMlsWelcome transitionId welcome => applyDaveWelcome transitionId welcome join
  | .daveMlsPrepareCommitTransition transitionId commit =>
    applyDaveCommitTransition transitionId commit join
  | .other => pure ()

/-- A silent packet passes as it is, whoever it is said to come from. -/
def decryptAudioPayload (userId : String) (ssrc : UInt32) (payload : Bytes) : DecodeM D Bytes := do
  let s ← get
  match s.dave with
  | none => return payload
  | some dave =>
    if payload = opusSilenceFrame then
      return payload
    else
      match D.decryptAudioFrameFrom dave userId payload with
      | (.ok decrypted, dave) =>
        set ({ s with dave := some dave }.sighted (.decrypted userId ssrc))
        return decrypted
      | (.error _, dave) =>
        set { s with dave := some dave }
        throw .notReady

def decodeAudioPacket (opener : AeadOpener) (packet : Bytes) (header : RtpHeader)
    (userId : String) : DecodeM D ObservedAudioFrame := do
  let s ← get
  match s.protection with
  | none => throw (.fatal (.invalidState "voice protection unavailable"))
  | some protection =>
    match unprotectPacket opener protection packet with
    | .error err => throw (.fatal err)
    | .ok (_, payload) =>
      let payload ← decryptAudioPayload userId header.ssrc payload
      return ⟨userId, header.ssrc, header.sequence, header.timestamp, payload⟩

def isRtcpPacket (packet : Bytes) : Bool :=
  packet[1]?.any fun packetType ↦ 192 ≤ packetType && packetType ≤ 223

def bufferPacket (header : RtpHeader) (packet : Bytes) (s : ObservedVoiceSession D) :
    ObservedVoiceSession D :=
  { s with pendingPackets := s.pendingPackets.insert header.ssrc ⟨header, packet⟩ }

section Packets

variable {α : Type} (opener : AeadOpener) (expectedUserId : Option String)
  (audio : ObservedAudioFrame → α) (unready : ObservedRtpPacket → Option α)

def processMappedPacket (packet : Bytes) (header : RtpHeader) : ObserverM D (Option α) := do
  let s ← get
  let s := { s with pendingPackets := s.pendingPackets.remove header.ssrc }
  set s
  let userId ← available "voice speaker mapping missing" (s.speakerSsrcs.get? header.ssrc)
  if expectedUserId.any (userId ≠ ·) then
    return none
  else
    match decodeAudioPacket opener packet header userId s with
    | .ok frame s =>
      set s
      return some (audio frame)
    | .error .notReady s =>
      set (bufferPacket header packet s)
      return unready ⟨userId, header.ssrc, header.sequence, header.timestamp⟩
    | .error (.fatal err) s =>
      set s
      throw err

def processUnattributedPacket (packet : Bytes) (header : RtpHeader) : ObserverM D (Option α) := do
  let s ← get
  match s.inferSingleRemoteSpeaker expectedUserId with
  | some userId =>
    set (s.recordSpeakerSsrc userId header.ssrc)
    processMappedPacket opener expectedUserId audio unready packet header
  | none =>
    set (bufferPacket header packet s)
    return none

/-- An SSRC without a user belongs to the expected one if a packet of it can be decoded as theirs. -/
def processUnmappedPacket (packet : Bytes) (header : RtpHeader) : ObserverM D (Option α) := do
  let s ← get
  match expectedUserId, s.dave with
  | some expected, some _ =>
    match decodeAudioPacket opener packet header expected s with
    | .ok frame s =>
      set (s.recordSpeakerSsrc expected header.ssrc)
      return some (audio frame)
    | .error .notReady s =>
      set s
      processUnattributedPacket opener expectedUserId audio unready packet header
    | .error (.fatal err) s =>
      set s
      if err.isPacketUnprotectFailure then
        return none
      else
        throw err
  | _, _ => processUnattributedPacket opener expectedUserId audio unready packet header

/-- What `process_audio_packet` and `process_activity_packet` have in common. -/
def processPacket (packet : Bytes) : ObserverM D (Option α) := do
  if isRtcpPacket packet then
    return none
  else
    match parseRtpHeader packet with
    | .error err => throw err
    | .ok header =>
      let s ← get
      if s.speakerSsrcs.contains header.ssrc then
        processMappedPacket opener expectedUserId audio unready packet header
      else
        processUnmappedPacket opener expectedUserId audio unready packet header

end Packets

def processAudioPacket (opener : AeadOpener) (expectedUserId : Option String) (packet : Bytes) :
    ObserverM D (Option ObservedAudioFrame) :=
  processPacket opener expectedUserId id (fun _ ↦ none) packet

def processActivityPacket (opener : AeadOpener) (expectedUserId : String) (packet : Bytes) :
    ObserverM D (Option ObservedVoiceActivity) :=
  processPacket opener (some expectedUserId) .audio (fun observed ↦ some (.rtpPacket observed)) packet

/-- `try_decode_pending_audio_frame`; the SSRCs come in whatever order the map lists them. -/
def tryDecodePendingAudioFrame (opener : AeadOpener) (expectedUserId : Option String) :
    List UInt32 → ObserverM D (Option ObservedAudioFrame)
  | [] => return none
  | ssrc :: ssrcs => do
    let s ← get
    match s.speakerSsrcs.get? ssrc with
    | none => tryDecodePendingAudioFrame opener expectedUserId ssrcs
    | some userId =>
      let pending ← available "voice pending packet missing" (s.pendingPackets.get? ssrc)
      let s := { s with pendingPackets := s.pendingPackets.remove ssrc }
      set s
      if expectedUserId.any (userId ≠ ·) then
        tryDecodePendingAudioFrame opener expectedUserId ssrcs
      else
        match decodeAudioPacket opener pending.packet pending.header userId s with
        | .ok frame s =>
          set s
          return some frame
        | .error .notReady s =>
          set { s with pendingPackets := s.pendingPackets.insert ssrc pending }
          tryDecodePendingAudioFrame opener expectedUserId ssrcs
        | .error (.fatal err) s =>
          set s
          throw err

def popPendingDisconnectFrom (expectedUserId : String) : ObserverM D (Option String) := do
  let s ← get
  match s.pendingDisconnects.find? (· = expectedUserId) with
  | none => return none
  | some userId =>
    set { s with pendingDisconnects := s.pendingDisconnects.erase userId }
    return some userId

def popPendingSpeakingStateFrom (expectedUserId : String) :
    ObserverM D (Option ObservedSpeakingState) := do
  let s ← get
  match s.pendingSpeakingStates.find? (·.userId = expectedUserId) with
  | none => return none
  | some state =>
    set { s with pendingSpeakingStates := s.pendingSpeakingStates.erase state }
    return some state

/-- A part of a turn of one of the receive loops, as the gateway and the socket let it happen: a
gateway event or a packet taken by `receive_audio_frame_internal`, and the head of the loop of
`receive_activity_from`, a gateway event or a packet taken by it. Between two calls the authoring of
proposals may be switched. -/
inductive ReceiveStep (D : ObserverLibdave)
  | audioEvent (expectedUserId : Option String) (event : ObserverGatewayEvent)
      (join : ObserverJoin D) (pendingSsrcs : List UInt32)
  | audioPacket (expectedUserId : Option String) (packet : Bytes)
  | activityPending (expectedUserId : String) (pendingSsrcs : List UInt32)
  | activityEvent (event : ObserverGatewayEvent) (join : ObserverJoin D)
  | activityPacket (expectedUserId : String) (packet : Bytes)
  | setDaveProposalAuthoring (enabled : Bool)

def returning (expectedUserId : Option String) (x : ObserverM D (Option ObservedAudioFrame)) :
    ObserverM D Unit := do
  match ← x with
  | some frame => modify fun s ↦ s.sighted (.returned expectedUserId frame)
  | none => return

def returningActivity (expectedUserId : String) (x : ObserverM D (Option ObservedVoiceActivity)) :
    ObserverM D Unit := do
  match ← x with
  | some (.audio frame) => modify fun s ↦ s.sighted (.returned (some expectedUserId) frame)
  | _ => return

/-- What `receive_activity_from` looks for before it waits. -/
def pendingActivity (opener : AeadOpener) (expectedUserId : String) (pendingSsrcs : List UInt32) :
    ObserverM D (Option ObservedVoiceActivity) := do
  match ← popPendingDisconnectFrom expectedUserId with
  | some userId => return some (.disconnect userId)
  | none =>
    match ← popPendingSpeakingStateFrom expectedUserId with
    | some state => return some (.speaking state)
    | none =>
      let frame ← tryDecodePendingAudioFrame opener (some expectedUserId) pendingSsrcs
      return frame.map .audio

def receive (opener : AeadOpener) : ReceiveStep D → ObserverM D Unit
  | .audioEvent expectedUserId event join pendingSsrcs => do
    applyGatewayPayload event join
    returning expectedUserId (tryDecodePendingAudioFrame opener expectedUserId pendingSsrcs)
  | .audioPacket expectedUserId packet =>
    returning expectedUserId (processAudioPacket opener expectedUserId packet)
  | .activityPending expectedUserId pendingSsrcs =>
    returningActivity expectedUserId (pendingActivity opener expectedUserId pendingSsrcs)
  | .activityEvent event join => applyGatewayPayload event join
  | .activityPacket expectedUserId packet =>
    returningActivity expectedUserId (processActivityPacket opener expectedUserId packet)
  | .setDaveProposalAuthoring enabled => modify fun s ↦ { s with authorDaveProposals := enabled }

/-- A call that fails leaves the session to the next one. -/
def receiveStep (opener : AeadOpener) (s : ObservedVoiceSession D) (step : ReceiveStep D) :
    Option (ObservedVoiceSession D) :=
  some (Fallible.stateAfter (receive opener step s))

end ObservedVoiceSession

end DiscordVoice.Voice
