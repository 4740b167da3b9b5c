import Mathlib.Data.Finset.Sort
import Mathlib.Data.String.Basic
import DiscordVoice.Voice.Protection
import DiscordVoice.Voice.Session

namespace DiscordVoice.Voice

instance instLinearOrderUInt32 : LinearOrder UInt32 where
  le_refl := UInt32.le_refl
  le_trans _ _ _ := UInt32.le_trans
  le_antisymm _ _ := UInt32.le_antisymm
  le_total := UInt32.le_total
  lt_iff_le_not_ge a b := by
    rw [UInt32.not_le]
    exact ⟨fun h ↦ ⟨UInt32.le_of_lt h, h⟩, fun h ↦ h.2⟩
  toDecidableLE := inferInstance

/-- The events of the gateway about who is there and who speaks. -/
inductive RosterEvent
  | clientsConnect (userIds : List String)
  | clientDisconnect (userId : String)
  | speaking (userId : Option String) (ssrc : UInt32) (speaking : ℕ)
  deriving DecidableEq, Repr

inductive PendingObserverGatewayUpdate
  | speaking (userId : String) (ssrc : UInt32)
  | clientDisconnect (userId : String)
  deriving DecidableEq, Repr

/-- `PendingObserverDaveState`, in the fields the roster events touch. -/
structure PendingObserverDave where
  recognizedUserIds : Finset String
  gatewayUpdates : List PendingObserverGatewayUpdate
  sawExistingSpeaker : Bool
  deriving DecidableEq

namespace PendingObserverDave

def start (selfUserId : String) (recognizedUserIds : Finset String) (sawExistingSpeaker : Bool) :
    PendingObserverDave :=
  ⟨insert selfUserId recognizedUserIds, [], sawExistingSpeaker⟩

/-- The arms for roster events, the same in `seed_pending_observer_dave_state` and in
`complete_pending_observer_dave_join`. -/
def observe (p : PendingObserverDave) : RosterEvent → PendingObserverDave
  | .speaking (some userId) ssrc _ =>
    { p with
      sawExistingSpeaker := true
      gatewayUpdates := p.gatewayUpdates ++ [.speaking userId ssrc] }
  | .speaking none _ _ => p
  | .clientDisconnect userId =>
    { p with gatewayUpdates := p.gatewayUpdates ++ [.clientDisconnect userId] }
  | .clientsConnect userIds =>
    { p with recognizedUserIds := p.recognizedUserIds ∪ userIds.toFinset }

end PendingObserverDave

/-- What the observer calls of the encryption library beside what a participant calls. -/
structure ObserverLibdave extends Libdave where
  decryptAudioFrameFrom : Runtime → String → Bytes → Except DaveError Bytes × Runtime
  isEpochMismatch : DaveError → Bool

structure ObserverDaveMaterial where
  groupId : ℕ
  protocolVersion : UInt16
  externalSenderBytes : Bytes
  deriving DecidableEq, Repr

structure ObserverReady (D : ObserverLibdave) where
  runtime : D.Runtime
  material : ObserverDaveMaterial
  completedTransitionId : Option TransitionId

/-- `ObservedAudioFrame`, without the instant it was received at. -/
structure ObservedAudioFrame where
  userId : String
  ssrc : UInt32
  sequence : UInt16
  timestamp : UInt32
  payload : Bytes
  deriving DecidableEq, Repr

structure ObservedSpeakingState where
  userId : String
  ssrc : UInt32
  speaking : ℕ
  deriving DecidableEq, Repr

structure ObservedRtpPacket where
  userId : String
  ssrc : UInt32
  sequence : UInt16
  timestamp : UInt32
  deriving DecidableEq, Repr

inductive ObservedVoiceActivity
  | audio (frame : ObservedAudioFrame)
  | rtpPacket (packet : ObservedRtpPacket)
  | speaking (state : ObservedSpeakingState)
  | disconnect (userId : String)
  deriving DecidableEq, Repr

structure PendingPacket where
  header : RtpHeader
  packet : Bytes
  deriving DecidableEq, Repr

inductive DecodeAudioPacketError
  | notReady
  | fatal (err : VoiceError)
  deriving DecidableEq, Repr

def VoiceError.isPacketUnprotectFailure : VoiceError → Bool
  | .invalidState reason =>
    reason = "voice protected packet truncated" || reason = "voice protected packet body too short" ||
      reason = "voice packet unprotect failed" || reason = "voice rtp padding invalid"
  | _ => false

/-- What there is to know about who an SSRC belongs to, in the order it happened: what the gateway
said, which packets could be decrypted with whose key, which SSRC was mapped to whom with which
candidates left, and which frames were handed out to whom. -/
inductive Sighting
  | spoke (userId : String) (ssrc : UInt32)
  | disconnected (userId : String)
  | decrypted (userId : String) (ssrc : UInt32)
  | mapped (userId : String) (ssrc : UInt32) (candidates : Finset String)
  | returned (expected : Option String) (frame : ObservedAudioFrame)
  deriving DecidableEq

def RosterEvent.sightings : RosterEvent → List Sighting
  | .speaking (some userId) ssrc _ => [.spoke userId ssrc]
  | .clientDisconnect userId => [.disconnected userId]
  | .speaking none _ _ | .clientsConnect _ => []

/-- `ObservedVoiceSession`, with the sightings so far. -/
structure ObservedVoiceSession (D : ObserverLibdave) where
  voice : VoiceContext
  gateway : Option VoiceGatewayClient
  protection : Option ProtectionContext
  dave : Option D.Runtime
  authorDaveProposals : Bool
  daveMaterial : Option ObserverDaveMaterial
  daveRecognizedUserIds : Finset String
  completedDaveTransitionIds : Finset TransitionId
  pendingDaveProposals : List (DaveMlsProposalsOperation × Bytes)
  speakerSsrcs : SortedMap UInt32 String
  pendingSpeakingStates : List ObservedSpeakingState
  pendingDisconnects : List String
  remoteSpeakerCandidates : Finset String
  pendingPackets : SortedMap UInt32 PendingPacket
  sightings : List Sighting

namespace ObservedVoiceSession

variable {D : ObserverLibdave}

def sighted (s : ObservedVoiceSession D) (x : Sighting) : ObservedVoiceSession D :=
  { s with sightings := s.sightings ++ [x] }

def recordSpeakerSsrc (s : ObservedVoiceSession D) (userId : String) (ssrc : UInt32) :
    ObservedVoiceSession D :=
  { s with
    speakerSsrcs := s.speakerSsrcs.insert ssrc userId
    sightings := s.sightings ++ [.mapped userId ssrc s.remoteSpeakerCandidates] }

def forgetSpeaker (m : SortedMap UInt32 String) (userId : String) : SortedMap UInt32 String :=
  m.retain fun _ mapped ↦ mapped ≠ userId

def applySpeaking (s : ObservedVoiceSession D) (userId : Option String) (ssrc : UInt32)
    (speaking : ℕ) : ObservedVoiceSession D :=
  match userId.or (s.speakerSsrcs.get? ssrc) with
  | none => s
  | some userId =>
    let s := if speaking ≠ 0 then s.recordSpeakerSsrc userId ssrc else s
    { s with
      pendingSpeakingStates := s.pendingSpeakingStates ++ [⟨userId, ssrc, speaking⟩] }

def applyClientsConnect (s : ObservedVoiceSession D) (userIds : List String) :
    ObservedVoiceSession D :=
  userIds.foldl (fun s userId ↦
    { s with
      remoteSpeakerCandidates :=
        if userId ≠ s.voice.userId then insert userId s.remoteSpeakerCandidates
        else s.remoteSpeakerCandidates
      daveRecognizedUserIds := insert userId s.daveRecognizedUserIds }) s

def applyClientDisconnect (s : ObservedVoiceSession D) (userId : String) :
    ObservedVoiceSession D :=
  { s with
    daveRecognizedUserIds := s.daveRecognizedUserIds.erase userId
    remoteSpeakerCandidates := s.remoteSpeakerCandidates.erase userId
    speakerSsrcs := forgetSpeaker s.speakerSsrcs userId
    pendingDisconnects := s.pendingDisconnects ++ [userId] }

/-- `apply_gateway_payload` for a roster event. -/
def applyRosterEvent (s : ObservedVoiceSession D) (event : RosterEvent) :
    ObservedVoiceSession D :=
  let s := { s with sightings := s.sightings ++ event.sightings }
  match event with
  | .speaking userId ssrc speaking => s.applySpeaking userId ssrc speaking
  | .clientsConnect userIds => s.applyClientsConnect userIds
  | .clientDisconnect userId => s.applyClientDisconnect userId

/-- The candidates of `infer_single_remote_speaker` come in their order. -/
def inferSingleRemoteSpeaker (s : ObservedVoiceSession D) (expectedUserId : Option String) :
    Option String :=
  match s.remoteSpeakerCandidates.sort (· ≤ ·) with
  | [candidate] =>
    if expectedUserId.any (candidate ≠ ·) then none
    else if s.speakerSsrcs.entries.any fun e ↦ e.2 = candidate then none
    else some candidate
  | _ => none

/-- `ObservedVoiceSession::apply_pending_gateway_updates`, one update. -/
def applyPendingGatewayUpdate (s : ObservedVoiceSession D) :
    PendingObserverGatewayUpdate → ObservedVoiceSession D
  | .speaking userId ssrc => (s.sighted (.spoke userId ssrc)).recordSpeakerSsrc userId ssrc
  | .clientDisconnect userId =>
    { s.sighted (.disconnected userId) with
      daveRecognizedUserIds := s.daveRecognizedUserIds.erase userId
      remoteSpeakerCandidates := s.remoteSpeakerCandidates.erase userId
      speakerSsrcs := forgetSpeaker s.speakerSsrcs userId }

/-- `PendingObservedVoiceSession::apply_pending_gateway_updates`, one update: the recognised users
stay as they are. -/
def applyFirstJoinUpdate (s : ObservedVoiceSession D) :
    PendingObserverGatewayUpdate → ObservedVoiceSession D
  | .speaking userId ssrc => (s.sighted (.spoke userId ssrc)).recordSpeakerSsrc userId ssrc
  | .clientDisconnect userId =>
    { s.sighted (.disconnected userId) with
      remoteSpeakerCandidates := s.remoteSpeakerCandidates.erase userId
      speakerSsrcs := forgetSpeaker s.speakerSsrcs userId }

/-- A join that begins with the given users and receives the events while it is pending. -/
def pendingJoin (s : ObservedVoiceSession D) (userIds : Finset String) (sawExistingSpeaker : Bool)
    (pending : List RosterEvent) : PendingObserverDave :=
  pending.foldl PendingObserverDave.observe (.start s.voice.userId userIds sawExistingSpeaker)

def joined (s : ObservedVoiceSession D) (pending : PendingObserverDave) (ready : ObserverReady D) :
    ObservedVoiceSession D :=
  { s with
    daveMaterial := some ready.material
    daveRecognizedUserIds := pending.recognizedUserIds
    remoteSpeakerCandidates := pending.recognizedUserIds.filter (· ≠ s.voice.userId)
    completedDaveTransitionIds :=
      match ready.completedTransitionId with
      | some transitionId => insert transitionId s.completedDaveTransitionIds
      | none => s.completedDaveTransitionIds }

/-- `await_dave_ready`, once the join is complete. -/
def awaitDaveReady (s : ObservedVoiceSession D) (pending : PendingObserverDave)
    (ready : ObserverReady D) : ObservedVoiceSession D :=
  { pending.gatewayUpdates.foldl applyFirstJoinUpdate (s.joined pending ready) with
    dave := some ready.runtime }

def applyObserverDaveReady (s : ObservedVoiceSession D) (pending : PendingObserverDave)
    (ready : ObserverReady D) : ObservedVoiceSession D :=
  { pending.gatewayUpdates.foldl applyPendingGatewayUpdate (s.joined pending ready) with
    pendingDaveProposals := []
    dave := some ready.runtime }

/-- The session as `PendingObservedVoiceSession::connect` leaves it. -/
def connecting (voice : VoiceContext) (gateway : VoiceGatewayClient)
    (protection : ProtectionContext) (authorDaveProposals : Bool) : ObservedVoiceSession D where
  voice := voice
  gateway := some gateway
  protection := some protection
  dave := none
  authorDaveProposals := authorDaveProposals
  daveMaterial := none
  daveRecognizedUserIds := ∅
  completedDaveTransitionIds := ∅
  pendingDaveProposals := []
  speakerSsrcs := .empty
  pendingSpeakingStates := []
  pendingDisconnects := []
  remoteSpeakerCandidates := ∅
  pendingPackets := .empty
  sightings := []

end ObservedVoiceSession

end DiscordVoice.Voice
