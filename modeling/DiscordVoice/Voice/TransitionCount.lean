import DiscordVoice.Voice.DaveRuns
import Mathlib.Logic.Relation

namespace DiscordVoice.Voice

open Fallible Schedule Relation

variable {D : Libdave}

def Single (s : ConnectedVoiceSession D) : Prop := (slots s).owners ≤ 1

theorem handleGatewayEvent_single (event : VoiceGatewayEvent) :
    Preserves Single (handleGatewayEvent event : SessionM D Unit) := by
  intro s hs
  cases h : processGatewayEventForDave event s with
  | error err t =>
    simp only [handleGatewayEvent, failingClosed, h, stateAfter]
    exact Nat.zero_le 1
  | ok a t =>
    obtain ⟨howners, -⟩ := processGatewayEvent_handedOver hs h
    simp only [handleGatewayEvent, failingClosed, h, stateAfter]
    exact howners.le.trans hs

theorem drainGateway_single (n : ℕ) (inbox : List GatewayReceive)
    (report : VoiceGatewayDrainReport) :
    Preserves Single (drainGateway n inbox report : SessionM D VoiceGatewayDrainReport) := by
  induction n generalizing inbox report with
  | zero => exact .throw _
  | succ n ih =>
    rcases inbox with _ | ⟨event | err | _, rest⟩
    · exact .pure _
    · exact .bind (handleGatewayEvent_single event) fun _ ↦ ih rest _
    · exact .throw _
    · exact .pure _

theorem processPendingGatewayEvents_single (allow : Bool) (inbox : List GatewayReceive) :
    Preserves Single
      (processPendingGatewayEvents allow inbox : SessionM D VoiceGatewayDrainReport) := by
  refine .get_bind fun s hs ↦ .branch (fun _ ↦ .throw _) fun _ ↦ .branch (fun _ ↦ .pure _) fun _ ↦
    .branch (fun _ ↦ .pure _) fun _ ↦ .bind ?_ fun _ ↦ .bind (drainGateway_single _ _ _) fun _ ↦ ?_
  · intro t ht
    rwa [orFail_state]
  · intro t ht
    rwa [settled_state]

theorem currentSlotPayload_single (frame : Bytes) :
    Preserves Single (currentSlotPayload frame : SessionM D Bytes) := by
  refine .get_bind fun s hs ↦ .branch (fun _ ↦ .pure _) fun _ ↦ ?_
  cases hruntime : s.dave with
  | none =>
    simp only
    exact .pure _
  | some runtime =>
    simp only
    have hnext (next : D.Runtime) : Single { s with dave := some next } := by
      simpa [Single, slots, Slots.owners, hruntime] using hs
    split
    · exact .bind (.set (hnext _)) fun _ ↦ .pure _
    · exact .bind (.set (hnext _)) fun _ ↦ .throw _

theorem prepareCurrentSlotAudioPacket_single (aead : Aead) (frame : Bytes)
    (durationSamples : UInt32) :
    Preserves Single (prepareCurrentSlotAudioPacket aead frame durationSamples :
      SessionM D PreparedVoicePacket) := by
  refine .bind (currentSlotPayload_single frame) fun payload ↦ .get_bind fun s hs ↦ .bind ?_ ?_
  · intro t ht
    rwa [orFail_state]
  · intro transport
    split
    · exact .bind (.set hs) fun _ ↦ .pure _
    · exact .bind (.set hs) fun _ ↦ .throw _

/-- The calls on a session: the drain, the preparation of a packet, and everything that leaves the
encryption alone (speaking, sending, suspending and resuming the gateway, a new context), which may
set the rest to anything. -/
inductive SessionCall
  | drain (allowPendingInitialDave : Bool) (inbox : List GatewayReceive)
  | prepare (frame : Bytes) (durationSamples : UInt32)
  | apart (voice : VoiceContext) (gateway : Option VoiceGatewayClient)
      (transport : Option VoiceUdpTransport) (gatewayReceiveClosed speakingStarted : Bool)

def callStep (aead : Aead) (s : ConnectedVoiceSession D) :
    SessionCall → Option (ConnectedVoiceSession D)
  | .drain allow inbox => some (stateAfter (processPendingGatewayEvents allow inbox s))
  | .prepare frame durationSamples =>
    some (stateAfter (prepareCurrentSlotAudioPacket aead frame durationSamples s))
  | .apart voice gateway transport gatewayReceiveClosed speakingStarted =>
    some { s with voice, gateway, transport, gatewayReceiveClosed, speakingStarted }

theorem callStep_single {aead : Aead} {s t : ConnectedVoiceSession D} {call : SessionCall}
    (hs : Single s) (h : callStep aead s call = some t) : Single t := by
  cases call with
  | drain allow inbox =>
    cases h
    exact processPendingGatewayEvents_single allow inbox s hs
  | prepare frame durationSamples =>
    cases h
    exact prepareCurrentSlotAudioPacket_single aead frame durationSamples s hs
  | apart voice gateway transport gatewayReceiveClosed speakingStarted =>
    cases h
    exact hs

theorem exec_callStep_single {aead : Aead} {voice : VoiceContext} {gateway : VoiceGatewayClient}
    {transport : VoiceUdpTransport} {ssrc : UInt32} {dave : InitialDaveState D}
    {calls : List SessionCall} {s : ConnectedVoiceSession D}
    (h : exec (callStep aead) (connect voice gateway transport ssrc dave) calls = some s) :
    Single s :=
  exec_invariant (fun _ _ _ hs ↦ callStep_single hs)
    ((connect_owned voice gateway transport ssrc dave).one rfl).le h

/-- The runtime took proposals, which it keeps for the next commit: its group is as it was. -/
def TakesProposals (r r' : D.Runtime) : Prop :=
  ∃ operation proposals recognized, r' = (D.processProposals r operation proposals recognized).2

/-- The runtime in use is one of `origin` that only took proposals since. -/
def UsesSince (origin : D.Runtime → Prop) (s : ConnectedVoiceSession D) : Prop :=
  ∃ r r', origin r ∧ ReflTransGen TakesProposals r r' ∧ s.dave = some r'

/-- The runtime was made from a session of the library, not taken over. -/
def MadeNew (r : D.Runtime) : Prop := ∃ session, D.fromSession session = .ok r

/-- The runtime is in use since `origin`, or set aside until its own commit comes back. -/
def Follows (origin : D.Runtime → Prop) (s : ConnectedVoiceSession D) : Prop :=
  UsesSince origin s ∨ s.dave = none ∧ s.pendingDaveLocalCommitTransition.isSome

theorem UsesSince.alone {origin : D.Runtime → Prop} {s : ConnectedVoiceSession D}
    (hs : Single s) (h : UsesSince origin s) : s.pendingInitialDave = none ∧
      s.pendingDaveTransition = none ∧ s.pendingDaveLocalCommitTransition = none := by
  obtain ⟨r, r', -, -, hdave⟩ := h
  simp only [Single, slots, Slots.owners, hdave, Option.isSome_some, Bool.toNat_true] at hs
  cases hi : s.pendingInitialDave <;> cases ht : s.pendingDaveTransition <;>
    cases hl : s.pendingDaveLocalCommitTransition <;> simp_all

theorem noInitial_of_deferred {s : ConnectedVoiceSession D} (hs : Single s)
    (h : s.pendingDaveLocalCommitTransition.isSome) : s.pendingInitialDave = none := by
  simp only [Single, slots, Slots.owners, h, Bool.toNat_true] at hs
  cases hi : s.pendingInitialDave with
  | none => rfl
  | some p =>
    simp only [hi, Option.isSome_some, Bool.toNat_true] at hs
    omega

/-- The runtime in use refuses the proposals and the session takes them for those of the group's
first epoch. -/
def retriesInitialEpoch (s : ConnectedVoiceSession D) : VoiceGatewayEvent → Bool
  | .daveMlsProposals operation proposals =>
    shouldRetryInitialEpochProposals s operation && s.dave.any fun runtime ↦
      match (D.processProposals runtime operation proposals s.daveRecognizedUserIds).1 with
      | .error _ => true
      | .ok _ => false
  | _ => false

def retries (s : ConnectedVoiceSession D) : List GatewayReceive → Bool
  | .event event :: rest =>
    retriesInitialEpoch s event ||
      match handleGatewayEvent event s with
      | .ok () t => retries t rest
      | .error _ _ => false
  | _ => false

/-- The drain comes to such an event: not when the gateway is no longer listened to. -/
def drainRetries (s : ConnectedVoiceSession D) (inbox : List GatewayReceive) : Bool :=
  !s.gatewayReceiveClosed && retries s inbox

theorem applyLocalCommit_new {sender : D.ExternalSender} {session : D.Session}
    {commitWelcome commit : Bytes} {s t : ConnectedVoiceSession D}
    (h : applyLocalCommit sender session commitWelcome s = .ok commit t) :
    ∃ r, MadeNew r ∧ t.dave = some r := by
  rw [applyLocalCommit, bind_ok_iff] at h
  obtain ⟨⟨_, _⟩, _, h₁, h⟩ := h
  rw [bind_ok_iff] at h
  obtain ⟨_, u, h₂, h⟩ := h
  rw [bind_ok_iff] at h
  obtain ⟨⟨_, session'⟩, _, h₃, h⟩ := h
  simp only [branch_apply] at h
  split at h
  · cases h
  · rw [okOrFail_bind_ok] at h
    obtain ⟨r, hr, h⟩ := h
    simp only [modify_bind_apply, pure_apply, EStateM.Result.ok.injEq] at h
    obtain ⟨-, rfl⟩ := h
    exact ⟨r, ⟨session', hr⟩, rfl⟩

theorem prepareInitialEpochLocalCommit_new {operation : DaveMlsProposalsOperation}
    {proposals : Bytes} {version : UInt16} {s t : ConnectedVoiceSession D}
    (h : prepareInitialEpochLocalCommitTransition operation proposals version s = .ok () t) :
    UsesSince MadeNew t := by
  simp only [prepareInitialEpochLocalCommitTransition, get_bind_apply] at h
  rw [bind_ok_iff] at h
  obtain ⟨_, _, h₁, h⟩ := h
  rw [bind_ok_iff] at h
  obtain ⟨_, _, h₂, h⟩ := h
  rw [bind_ok_iff] at h
  obtain ⟨_, _, h₃, h⟩ := h
  rw [bind_ok_iff] at h
  obtain ⟨_, _, h₄, h⟩ := h
  rw [bind_ok_iff] at h
  obtain ⟨⟨_, _⟩, _, h₅, h⟩ := h
  rw [bind_ok_iff] at h
  obtain ⟨_, _, h₆, h⟩ := h
  rw [bind_ok_iff] at h
  obtain ⟨_, u, h₇, h⟩ := h
  obtain ⟨r, hr, hdave⟩ := applyLocalCommit_new h₇
  have hsame : t.dave = u.dave := congrArg Slots.dave (rememberLocalInitCommit_slots h)
  exact ⟨r, r, hr, .refl, hsame.trans hdave⟩

theorem proposals_follow {origin : D.Runtime → Prop} {operation : DaveMlsProposalsOperation}
    {proposals : Bytes} {s t : ConnectedVoiceSession D} (hs : Single s) (hf : Follows origin s)
    (h : prepareLocalCommitTransition operation proposals s = .ok () t) :
    if retriesInitialEpoch s (.daveMlsProposals operation proposals) then Follows MadeNew t
    else Follows origin t := by
  simp only [prepareLocalCommitTransition, get_bind_apply] at h
  rcases hf with huses | ⟨hnone, hdeferred⟩
  · obtain ⟨hinitial, htransition, hlocal⟩ := huses.alone hs
    obtain ⟨r, r', hr, hsince, hdave⟩ := huses
    simp only [hinitial, htransition, hlocal, Option.isSome_none, Bool.false_eq_true, or_self,
      if_false] at h
    rw [bind_ok_iff] at h
    obtain ⟨runtime, _, h₁, h⟩ := h
    obtain ⟨hd, rfl⟩ := takeDave_ok h₁
    obtain rfl : r' = runtime := Option.some.inj (hdave.symm.trans hd)
    have hkept : ∀ u : ConnectedVoiceSession D, u.dave =
        some (D.processProposals r' operation proposals s.daveRecognizedUserIds).2 →
        Follows origin u := fun u hu ↦
      .inl ⟨r, _, hr, hsince.tail ⟨operation, proposals, s.daveRecognizedUserIds, rfl⟩, hu⟩
    rcases hp : D.processProposals r' operation proposals s.daveRecognizedUserIds with
      ⟨err | _ | commitWelcome, next⟩
    all_goals simp only [hp] at h hkept
    · simp only [branch_apply] at h
      cases hretry : shouldRetryInitialEpochProposals s operation with
      | true =>
        rw [if_pos (by simp [retriesInitialEpoch, hretry, hdave, hp])]
        rw [hretry, if_pos rfl] at h
        exact .inl (prepareInitialEpochLocalCommit_new h)
      | false =>
        rw [if_neg (by simp [retriesInitialEpoch, hretry])]
        rw [hretry, if_neg Bool.false_ne_true] at h
        cases h
        exact hkept _ rfl
    · rw [if_neg (by simp [retriesInitialEpoch, hdave, hp])]
      cases h
      exact hkept _ rfl
    · rw [if_neg (by simp [retriesInitialEpoch, hdave, hp])]
      obtain ⟨q, hq⟩ := deferLocalCommit_slots h
      refine .inr ⟨congrArg Slots.dave hq, ?_⟩
      rw [show t.pendingDaveLocalCommitTransition = some q from
        congrArg Slots.pendingDaveLocalCommitTransition hq]
      rfl
  · simp only [noInitial_of_deferred hs hdeferred, branch_apply] at h
    rw [if_pos (.inl hdeferred)] at h
    cases h
    rw [if_neg (by simp [retriesInitialEpoch, hnone])]
    exact .inr ⟨hnone, hdeferred⟩

theorem uncounted_follows {origin : D.Runtime → Prop} {event : VoiceGatewayEvent}
    {s t : ConnectedVoiceSession D} (hs : Single s) (hf : Follows origin s)
    (hevent : daveSessionEventTransitionId event = none)
    (h : processGatewayEventForDave event s = .ok () t) :
    if retriesInitialEpoch s event then Follows MadeNew t else Follows origin t := by
  cases event with
  | daveMlsProposals operation proposals => exact proposals_follow hs hf h
  | davePrepareEpoch id epoch version =>
    obtain rfl : id = none := hevent
    simp only [processGatewayEventForDave, prepareEpoch, get_bind_apply, branch_apply] at h
    split at h
    · cases h
    · rw [bind_ok_iff] at h
      obtain ⟨_, _, hnone, -⟩ := h
      cases hnone
  | davePrepareTransition _ _ | daveExecuteTransition _ | daveMlsPrepareCommitTransition _ _
  | daveMlsWelcome _ _ => cases hevent
  | clientsConnect _ | clientDisconnect _ =>
    cases h
    exact hf
  | hello | ready | sessionDescription | speaking | heartbeatAck | video | mediaSinkWants
  | clientFlags | clientPlatform | daveMlsExternalSenderPackage | resumed =>
    cases h
    exact hf

theorem drainGateway_counts {n : ℕ} {inbox : List GatewayReceive}
    {report r : VoiceGatewayDrainReport} {s t : ConnectedVoiceSession D}
    (h : drainGateway n inbox report s = .ok r t) :
    report.daveTransitionCount ≤ r.daveTransitionCount := by
  induction n generalizing inbox report s with
  | zero => cases h
  | succ n ih =>
    rcases inbox with _ | ⟨event | err | _, rest⟩
    · cases h
      exact le_rfl
    · rw [drainGateway, bind_ok_iff] at h
      obtain ⟨_, u, -, h⟩ := h
      exact (Nat.le_add_right _ _).trans (ih h)
    · cases h
    · cases h
      exact le_rfl

/-- A drain that counts no transition follows the runtime it started with, up to the proposals it
retries, and from there on the runtime it made for them. -/
theorem drainGateway_follows {origin : D.Runtime → Prop} {n : ℕ} {inbox : List GatewayReceive}
    {report r : VoiceGatewayDrainReport} {s t : ConnectedVoiceSession D} (hs : Single s)
    (hf : Follows origin s) (h : drainGateway n inbox report s = .ok r t) :
    report.daveTransitionCount < r.daveTransitionCount ∨
      if retries s inbox then Follows MadeNew t else Follows origin t := by
  induction n generalizing origin inbox report s with
  | zero => cases h
  | succ n ih =>
    rcases inbox with _ | ⟨event | err | _, rest⟩
    · cases h
      exact .inr hf
    · rw [drainGateway, bind_ok_iff] at h
      obtain ⟨_, u, hu, h⟩ := h
      cases hevent : daveSessionEventTransitionId event with
      | some id =>
        have hcount := drainGateway_counts h
        simp only [VoiceGatewayDrainReport.count, hevent, Option.isSome_some, if_true] at hcount
        exact .inl hcount
      | none =>
        have hsingle := (handleGatewayEvent_single event).ok hs hu
        have hnext := uncounted_follows hs hf hevent (failingClosed_ok hu)
        have hsame : (report.count event).daveTransitionCount = report.daveTransitionCount := by
          simp [VoiceGatewayDrainReport.count, hevent]
        rw [← hsame]
        simp only [retries, hu]
        cases hretry : retriesInitialEpoch s event with
        | true =>
          rw [hretry, if_pos rfl] at hnext
          simp only [Bool.true_or, if_true]
          have hrest := ih hsingle hnext h
          rwa [ite_self] at hrest
        | false =>
          rw [hretry, if_neg Bool.false_ne_true] at hnext
          exact ih hsingle hnext h
    · cases h
    · cases h
      exact .inr hf

theorem settled_passes {allow : Bool} {report r : VoiceGatewayDrainReport}
    {s t : ConnectedVoiceSession D} (h : settled allow report s = .ok r t) :
    r = report ∧ t = s ∧ s.pendingDaveLocalCommitTransition = none := by
  simp only [settled, get_bind_apply, branch_apply] at h
  split_ifs at h with htransition hlocal hinitial hprepared
  all_goals cases h
  exact ⟨rfl, rfl, by simpa using hlocal⟩

theorem Follows.usesSince {origin : D.Runtime → Prop} {s : ConnectedVoiceSession D}
    (h : Follows origin s) (hnone : s.pendingDaveLocalCommitTransition = none) :
    UsesSince origin s := by
  rcases h with h | ⟨-, h⟩
  · exact h
  · rw [hnone] at h
    cases h

/-- A drain of a session that uses a runtime and passes without counting a transition leaves that
runtime in use, unless it retries proposals. -/
theorem drain_follows {allow : Bool} {inbox : List GatewayReceive}
    {report : VoiceGatewayDrainReport} {s t : ConnectedVoiceSession D} {r : D.Runtime}
    (hs : Single s) (hr : s.dave = some r)
    (h : processPendingGatewayEvents allow inbox s = .ok report t) :
    0 < report.daveTransitionCount ∨
      if drainRetries s inbox then UsesSince MadeNew t else UsesSince (· = r) t := by
  have huses : UsesSince (· = r) s := ⟨r, r, rfl, .refl, hr⟩
  have hsome : nothingToDrain s = false := by simp [nothingToDrain, hr]
  simp only [processPendingGatewayEvents, get_bind_apply, branch_apply, hsome,
    Bool.false_eq_true, if_false] at h
  split_ifs at h with hfailed hclosed
  · cases h
  · cases h
    rw [drainRetries, hclosed]
    exact .inr huses
  · rw [orFail_bind_ok] at h
    obtain ⟨_, -, h⟩ := h
    rw [bind_ok_iff] at h
    obtain ⟨report', v, hv, h⟩ := h
    obtain ⟨rfl, rfl, hnone⟩ := settled_passes h
    rcases drainGateway_follows hs (.inl huses) hv with hcount | hfollows
    · exact .inl hcount
    · refine .inr ?_
      simp only [drainRetries, hclosed, Bool.not_false, Bool.true_and]
      split_ifs at hfollows ⊢
      · exact hfollows.usesSince hnone
      · exact hfollows.usesSince hnone

end DiscordVoice.Voice
