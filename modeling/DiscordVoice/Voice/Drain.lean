import DiscordVoice.Voice.DaveTransitions

namespace DiscordVoice.Voice

variable {D : Libdave}

def daveGatewayEventDrainLimit : ℕ := 256

/-- What one poll of the gateway ends in. The wait may also run out before anything arrives. -/
inductive GatewayReceive
  | event (event : VoiceGatewayEvent)
  | failed (err : VoiceError)
  | timeout
  deriving DecidableEq, Repr

structure VoiceGatewayDrainReport where
  eventCount : ℕ
  daveTransitionCount : ℕ
  deriving DecidableEq, Repr

def daveSessionEventTransitionId : VoiceGatewayEvent → Option TransitionId
  | .davePrepareTransition transitionId _ => some transitionId
  | .daveExecuteTransition transitionId => some transitionId
  | .davePrepareEpoch transitionId _ _ => transitionId
  | .daveMlsPrepareCommitTransition transitionId _ => some transitionId
  | .daveMlsWelcome transitionId _ => some transitionId
  | _ => none

def VoiceGatewayDrainReport.count (r : VoiceGatewayDrainReport) (event : VoiceGatewayEvent) :
    VoiceGatewayDrainReport where
  eventCount := r.eventCount + 1
  daveTransitionCount :=
    r.daveTransitionCount + if (daveSessionEventTransitionId event).isSome then 1 else 0

/-- The body of the drain loop: an event that cannot be processed fails the session closed. -/
def handleGatewayEvent (event : VoiceGatewayEvent) : SessionM D Unit :=
  failingClosed (processGatewayEventForDave event)

def drainGateway : ℕ → List GatewayReceive → VoiceGatewayDrainReport →
    SessionM D VoiceGatewayDrainReport
  | 0, _, _ => failState "voice dave gateway event backlog pending"
  | n + 1, .event event :: rest, report => do
    handleGatewayEvent event
    drainGateway n rest (report.count event)
  | _ + 1, .failed err :: _, _ => throw err
  | _ + 1, .timeout :: _, report => return report
  | _ + 1, [], report => return report

def nothingToDrain (s : ConnectedVoiceSession D) : Bool :=
  s.dave.isNone && s.pendingInitialDave.isNone && s.pendingDaveTransition.isNone &&
    s.pendingDaveLocalCommitTransition.isNone && s.pendingDavePreparedTransitions.isEmpty &&
    s.pendingDaveLocalInitCommitEchoes.isEmpty

def settled (allowPendingInitialDave : Bool) (report : VoiceGatewayDrainReport) :
    SessionM D VoiceGatewayDrainReport := do
  let s ← get
  if s.pendingDaveTransition.isSome then
    failState "voice dave transition pending"
  else if s.pendingDaveLocalCommitTransition.isSome then
    failState "voice dave local commit transition pending"
  else if s.pendingInitialDave.isSome ∧ !allowPendingInitialDave then
    failState "voice dave initial session pending"
  else if !s.pendingDavePreparedTransitions.isEmpty then
    failState "voice dave prepared transition pending"
  else
    return report

/-- The drain in front of every use of the session for media. `inbox` is what its polls of the
gateway end in, one after another; a wait bounded by a deadline only ends in `timeout` sooner. -/
def processPendingGatewayEvents (allowPendingInitialDave : Bool) (inbox : List GatewayReceive) :
    SessionM D VoiceGatewayDrainReport := do
  let s ← get
  if s.daveFailedClosed then
    failState "voice dave session failed closed"
  else if s.gatewayReceiveClosed then
    return ⟨0, 0⟩
  else if nothingToDrain s then
    return ⟨0, 0⟩
  else
    let _ ← orFail "voice gateway unavailable" s.gateway
    let report ← drainGateway daveGatewayEventDrainLimit inbox ⟨0, 0⟩
    settled allowPendingInitialDave report

def sendSpeaking (flags : ℕ) (ssrc : UInt32) : ℕ → SessionM D Unit
  | 0 => return
  | n + 1 => do
    sendGateway (.speaking flags ssrc)
    sendSpeaking flags ssrc n

def prepareSpeakingBeforeMedia : SessionM D Unit := do
  let s ← get
  if s.speakingStarted then
    return
  else
    let ssrc ← orFail "voice ssrc unavailable" s.ssrc
    let _ ← orFail "voice gateway unavailable" s.gateway
    sendSpeaking 1 ssrc 3
    modify fun s ↦ { s with speakingStarted := true }

def audioDurationMsFromSamples (durationSamples : UInt32) : ℕ :=
  durationSamples.toNat * 1000 / 48000

/-- The payload that goes out for a frame: silence and frames of a session without an installed
runtime as they are, any other frame encrypted. -/
def currentSlotPayload (frame : Bytes) : SessionM D Bytes := do
  let s ← get
  if frame = opusSilenceFrame then
    return frame
  else
    match s.dave with
    | some runtime =>
      match D.encryptAudioFrame runtime frame with
      | (.ok encrypted, runtime) =>
        set { s with dave := some runtime }
        return encrypted
      | (.error _, runtime) =>
        set { s with dave := some runtime }
        failState "voice dave frame encryption failed"
    | none => return frame

def prepareCurrentSlotAudioPacket (aead : Aead) (frame : Bytes) (durationSamples : UInt32) :
    SessionM D PreparedVoicePacket := do
  let payload ← currentSlotPayload frame
  let s ← get
  let transport ← orFail "voice transport unavailable" s.transport
  let handed := s.handedToTransport ++ [(frame, payload)]
  match transport.prepareAudioPacketWithDurationSamples aead payload
      (audioDurationMsFromSamples durationSamples) durationSamples true with
  | (.ok packet, transport) =>
    set { s with transport := some transport, handedToTransport := handed }
    return packet
  | (.error err, transport) =>
    set { s with transport := some transport, handedToTransport := handed }
    throw err

def sendCurrentSlotPacket (socket : Except VoiceError Unit) (packet : PreparedVoicePacket) :
    SessionM D Unit := do
  let s ← get
  let transport ← orFail "voice transport unavailable" s.transport
  match transport.sendPreparedPacket socket packet with
  | (.ok (), transport) => set { s with transport := some transport, speakingStarted := true }
  | (.error err, transport) =>
    set { s with transport := some transport }
    throw err

def drainBeforeSend (inbox : List GatewayReceive) : SessionM D Unit := fun s ↦
  match processPendingGatewayEvents false inbox s with
  | .ok _ s' => .ok () s'
  | .error err s' =>
    if err.isGatewayClosedDuringReceive ∧ s'.speakingStarted then
      .ok () (markGatewayReceiveClosed s')
    else
      .error err s'

def sendAudioFrameWithDurationSamples (aead : Aead) (inbox : List GatewayReceive)
    (socket : Except VoiceError Unit) (frame : Bytes) (durationSamples : UInt32) :
    SessionM D Unit := do
  drainBeforeSend inbox
  prepareSpeakingBeforeMedia
  let packet ← prepareCurrentSlotAudioPacket aead frame durationSamples
  sendCurrentSlotPacket socket packet

end DiscordVoice.Voice
