import DiscordVoice.Schedule
import DiscordVoice.Triples
import DiscordVoice.Voice.ObserverJoin

namespace DiscordVoice.Voice

/-- Where the talk of a joining observer stands: nothing is said yet, or the group has left the
observer's epoch behind; a transition is reported as invalid; a key package is offered; a commit of
the observer's own is out, or a transition is announced as ready. -/
inductive JoinStage
  | silent
  | outdated
  | reported (invalidated : Finset TransitionId)
  | offered (invalidated : Finset TransitionId)
  | committed
  | announced (transitionId : TransitionId)
  deriving DecidableEq

namespace JoinStage

/-- What a joining observer may say next. A commit of its own it makes for its first key package
only, nothing is reported twice, and what was reported is not announced. -/
def next (authors : Bool) : JoinStage → GatewayMessage → Option JoinStage
  | silent, .daveMlsKeyPackage _ => some (offered ∅)
  | outdated, .daveMlsInvalidCommitWelcome transitionId =>
    if transitionId = daveProtocolInitTransitionId then some (reported ∅) else none
  | reported invalidated, .daveMlsKeyPackage _ => some (offered invalidated)
  | offered invalidated, .daveMlsInvalidCommitWelcome transitionId =>
    if transitionId ∈ invalidated then none else some (reported (insert transitionId invalidated))
  | offered invalidated, .daveMlsCommitWelcome _ =>
    if authors ∧ invalidated = ∅ then some committed else none
  | offered invalidated, .daveTransitionReady transitionId =>
    if transitionId = daveProtocolInitTransitionId ∨ transitionId ∈ invalidated then none
    else some (announced transitionId)
  | _, _ => none

/-- The talk a join may end with that completes the transition. -/
def Completes (transitionId : TransitionId) : JoinStage → Prop
  | committed => transitionId = daveProtocolInitTransitionId
  | offered invalidated =>
    transitionId = daveProtocolInitTransitionId ∧ transitionId ∉ invalidated
  | announced announcedId => transitionId = announcedId
  | _ => False

end JoinStage

/-- What the gateway was told after `before` leads from `start` to the stage. -/
def Said (authors : Bool) (start : JoinStage) (before : List GatewayMessage) (stage : JoinStage)
    (gateway : VoiceGatewayClient) : Prop :=
  ∃ messages, gateway.sent = before ++ messages ∧
    Schedule.exec (JoinStage.next authors) start messages = some stage

def Spoke (authors : Bool) (start : JoinStage) (before : List GatewayMessage)
    (gateway : VoiceGatewayClient) : Prop :=
  ∃ stage, Said authors start before stage gateway

namespace GatewayM

open Fallible

variable {α : Type} {authors : Bool} {start stage after : JoinStage} {before : List GatewayMessage}

theorem available_still (reason : String) (value : Option α) :
    Still (available reason value) (value = some ·) := by
  cases value with
  | none => exact .throw _
  | some a => exact .pure rfl

theorem succeeded_still (reason : String) (value : Except DaveError α) :
    Still (succeeded reason value) (value = .ok ·) := by
  cases value with
  | error err => exact .throw _
  | ok a => exact .pure rfl

theorem said_send {message : GatewayMessage} (h : stage.next authors message = some after) :
    Triple (Said authors start before stage) (send message)
      (fun _ ↦ Said authors start before after) (Spoke authors start before) := by
  rintro g ⟨messages, hsent, hexec⟩
  have hsaid : Said authors start before after ⟨g.sent ++ [message], g.sendResults.tail⟩ := by
    refine ⟨messages ++ [message], by rw [hsent, List.append_assoc], ?_⟩
    rw [Schedule.exec_append, hexec, Option.bind_some, Schedule.exec, h]
    rfl
  rcases hresults : g.sendResults with _ | ⟨_ | detail, rest⟩
  · simp only [send, get_bind_apply, hresults]
    simpa [hresults] using hsaid
  · simp only [send, get_bind_apply, hresults]
    simpa [hresults] using hsaid
  · simp only [send, get_bind_apply, hresults]
    exact ⟨stage, messages, hsent, hexec⟩

end GatewayM

namespace PendingObserverDaveState

open Fallible GatewayM

variable {D : JoinLibdave} {p q : PendingObserverDaveState D} {author saw : Bool}
  {start stage : JoinStage} {before : List GatewayMessage}

theorem said_spoke {authors : Bool} {g : VoiceGatewayClient}
    (h : Said authors start before stage g) : Spoke authors start before g := ⟨stage, h⟩

/-- What holds of the join whenever it waits for the next event. -/
structure Waiting (saw : Bool) (p : PendingObserverDaveState D) : Prop where
  keyed : p.pendingKeyPackage = true
  unheard : p.sawExistingSpeaker = false → saw = false ∧ p.invalidatedTransitionIds = ∅

def ReadySaid (authors : Bool) (start : JoinStage) (before : List GatewayMessage)
    (ready : PendingObserverReadyResult D) (g : VoiceGatewayClient) : Prop :=
  ∃ transitionId stage, ready.completedTransitionId = some transitionId ∧
    stage.Completes transitionId ∧ Said authors start before stage g

def TurnSaid (author saw : Bool) (start : JoinStage) (before : List GatewayMessage) :
    JoinTurn D → VoiceGatewayClient → Prop
  | .again p, g =>
    p.Waiting saw ∧ Said (author && !saw) start before (.offered p.invalidatedTransitionIds) g
  | .done ready, g => ReadySaid (author && !saw) start before ready g

theorem externalSession_still (protocolVersion : UInt16) (groupId : ℕ) (userId : String)
    (externalSenderBytes : Bytes) :
    Still (externalSession (D := D) protocolVersion groupId userId externalSenderBytes)
      fun _ ↦ True := by
  refine .bind (succeeded_still _ _) fun session _ ↦ .bind (succeeded_still _ _) fun session _ ↦ ?_
  exact (succeeded_still _ _).imp fun _ _ ↦ trivial

theorem daveSession_still (p : PendingObserverDaveState D) :
    Still p.daveSession (p.session = some ·) :=
  available_still _ _

theorem observerDaveProtocolVersion_still (p : PendingObserverDaveState D) :
    Still p.observerDaveProtocolVersion fun _ ↦ True :=
  (available_still _ _).imp fun _ _ ↦ trivial

theorem observerDaveMaterial_still (p : PendingObserverDaveState D) :
    Still p.observerDaveMaterial fun _ ↦ True :=
  .bind (available_still _ _) fun _ _ ↦ .pure trivial

theorem checkEpoch_still (negotiated : UInt16) (epoch : String) (protocolVersion : UInt16) :
    Still (checkEpoch negotiated epoch protocolVersion) fun _ ↦ True :=
  .branch (fun _ ↦ .throw _) fun _ ↦ .branch (fun _ ↦ .throw _) fun _ ↦ .pure trivial

theorem sendPendingJoinKeyPackage_still (hkeyed : p.pendingKeyPackage = true) :
    Still p.sendPendingJoinKeyPackage (· = p) := by
  refine .bind p.daveSession_still fun session _ ↦ ?_
  rw [if_pos hkeyed]
  exact .pure rfl

/-- A key package goes out where one may, and nothing but the session changes. -/
theorem said_sendPendingJoinKeyPackage {authors : Bool} {after : JoinStage}
    (hunkeyed : p.pendingKeyPackage = false)
    (hnext : ∀ keyPackage, stage.next authors (.daveMlsKeyPackage keyPackage) = some after) :
    Triple (Said authors start before stage) p.sendPendingJoinKeyPackage
      (fun q g ↦ (∃ session, q = { p with session := some session, pendingKeyPackage := true }) ∧
        Said authors start before after g)
      (Spoke authors start before) := by
  refine .still_bind p.daveSession_still (fun _ ↦ said_spoke) fun session _ ↦ ?_
  rw [if_neg (by simp [hunkeyed])]
  refine .still_bind (succeeded_still _ _) (fun _ ↦ said_spoke) fun keyPackage _ ↦ ?_
  refine .bind (said_send (hnext keyPackage.1)) fun _ ↦ .pure fun g hsaid ↦ ?_
  exact ⟨⟨keyPackage.2, rfl⟩, hsaid⟩

theorem said_restart {transitionId : TransitionId}
    (hfresh : transitionId ∉ p.invalidatedTransitionIds) :
    Triple (Said (author && !saw) start before (.offered p.invalidatedTransitionIds))
      (p.restart transitionId)
      (fun q g ↦ q.Waiting saw ∧
        Said (author && !saw) start before (.offered q.invalidatedTransitionIds) g)
      (Spoke (author && !saw) start before) := by
  refine .still_bind (available_still _ _) (fun _ ↦ said_spoke) fun externalSenderBytes _ ↦ ?_
  refine .still_bind (externalSession_still _ _ _ _) (fun _ ↦ said_spoke) fun session _ ↦ ?_
  refine .bind (said_send (if_neg hfresh)) fun _ ↦ ?_
  refine (said_sendPendingJoinKeyPackage rfl fun _ ↦ rfl).post ?_
  rintro q g ⟨⟨session, rfl⟩, hsaid⟩
  exact ⟨⟨rfl, nofun⟩, hsaid⟩

/-- What the talk depends on is the same as before, but that somebody may have been heard. -/
structure Kept (p q : PendingObserverDaveState D) : Prop where
  keyPackage : q.pendingKeyPackage = p.pendingKeyPackage
  invalidated : q.invalidatedTransitionIds = p.invalidatedTransitionIds
  unheard : q.sawExistingSpeaker = false → p.sawExistingSpeaker = false

structure Unmoved (p q : PendingObserverDaveState D) : Prop extends p.Kept q where
  roster : q.toPendingObserverDave = p.toPendingObserverDave

theorem unmoved_of_eq (hkeyPackage : q.pendingKeyPackage = p.pendingKeyPackage)
    (hinvalidated : q.invalidatedTransitionIds = p.invalidatedTransitionIds)
    (hroster : q.toPendingObserverDave = p.toPendingObserverDave) : p.Unmoved q where
  keyPackage := hkeyPackage
  invalidated := hinvalidated
  unheard hsilent := by rwa [hroster] at hsilent
  roster := hroster

theorem Waiting.kept (h : p.Waiting saw) (hkept : p.Kept q) : q.Waiting saw where
  keyed := hkept.keyPackage.trans h.keyed
  unheard hsilent := by
    rw [hkept.invalidated]
    exact h.unheard (hkept.unheard hsilent)

theorem kept_observeRoster (p : PendingObserverDaveState D) (event : RosterEvent) :
    p.Kept (p.observeRoster event) where
  keyPackage := rfl
  invalidated := rfl
  unheard hsilent := by
    cases event with
    | clientsConnect userIds => exact hsilent
    | clientDisconnect userId => exact hsilent
    | speaking userId ssrc flags =>
      cases userId with
      | none => exact hsilent
      | some userId => cases hsilent

theorem unmoved_notePrepared (p : PendingObserverDaveState D) (transitionId : Option TransitionId)
    (protocolVersion : UInt16) : p.Unmoved (p.notePrepared transitionId protocolVersion) := by
  cases transitionId with
  | none => exact unmoved_of_eq rfl rfl rfl
  | some transitionId => exact unmoved_of_eq rfl rfl rfl

theorem setExternalSender_still (p : PendingObserverDaveState D) (sender : Bytes) :
    Still (p.setExternalSender sender) p.Unmoved := by
  refine .bind p.daveSession_still fun session _ ↦ .bind (succeeded_still _ _) fun session _ ↦ ?_
  exact .pure (unmoved_of_eq rfl rfl rfl)

theorem prepareEpoch_still (hkeyed : p.pendingKeyPackage = true)
    (transitionId : Option TransitionId) (epoch : String) (protocolVersion : UInt16) :
    Still (p.prepareEpoch transitionId epoch protocolVersion) p.Unmoved := by
  refine .branch (fun _ ↦ .pure (unmoved_of_eq rfl rfl rfl)) fun _ ↦ ?_
  refine .bind p.observerDaveProtocolVersion_still fun negotiated _ ↦ ?_
  refine .bind (checkEpoch_still _ _ _) fun _ _ ↦ ?_
  have hprepared := p.unmoved_notePrepared transitionId protocolVersion
  refine (sendPendingJoinKeyPackage_still (hprepared.keyPackage.trans hkeyed)).imp ?_
  rintro q rfl
  exact hprepared

theorem takePrepared_still (p : PendingObserverDaveState D) (transitionId : TransitionId)
    (reason : String) : Still (p.takePrepared transitionId reason) p.Unmoved := by
  refine .bind p.observerDaveProtocolVersion_still fun _ _ ↦ ?_
  refine .branch (fun _ ↦ .pure (unmoved_of_eq rfl rfl rfl)) fun _ ↦ ?_
  exact .branch (fun _ ↦ .pure (unmoved_of_eq rfl rfl rfl)) fun _ ↦ .throw _

theorem unmoved_bufferProposals (p : PendingObserverDaveState D) (author : Bool)
    (operation : DaveMlsProposalsOperation) (proposals : Bytes) :
    p.Unmoved (p.bufferProposals author operation proposals) := by
  simp only [bufferProposals]
  split_ifs <;> exact unmoved_of_eq rfl rfl rfl

/-- Nothing waits for somebody else only if the observer may author and nobody was heard. -/
theorem authors_of_bufferProposals {operation : DaveMlsProposalsOperation} {proposals : Bytes}
    (h : (p.bufferProposals author operation
      proposals).pendingGatewayWinnerAfterLocalProposalsCommit = false) :
    author = true ∧ p.sawExistingSpeaker = false := by
  cases hwaits : p.pendingGatewayWinnerAfterLocalProposalsCommit <;> cases author <;>
    cases hsaw : p.sawExistingSpeaker <;>
    simp_all [bufferProposals, awaitGatewayWinner]

theorem unpackCommit_still (commitWelcome : Bytes) :
    Still (unpackCommit commitWelcome) fun _ ↦ True := by
  unfold unpackCommit
  split
  · exact .pure trivial
  · exact .throw _
  · exact .throw _

theorem processInitialProposals_still (p : PendingObserverDaveState D)
    (operation : DaveMlsProposalsOperation) (proposals : Bytes) :
    Still (p.processInitialProposals operation proposals) fun _ ↦ True := by
  refine .bind p.daveSession_still fun session _ ↦ .bind (succeeded_still _ _) fun answer _ ↦ ?_
  exact .branch (fun _ ↦ .throw _) fun _ ↦ .pure trivial

theorem stageProposals_still (p : PendingObserverDaveState D) (runtime : D.Runtime) :
    Still (p.stageProposals runtime) fun _ ↦ True := by
  unfold stageProposals
  split
  · exact .pure trivial
  · exact .throw _

theorem said_ready {transitionId : TransitionId} (hcomplete : stage.Completes transitionId)
    (runtime : D.Runtime) :
    Triple (Said (author && !saw) start before stage) (p.ready runtime transitionId)
      (TurnSaid author saw start before) (Spoke (author && !saw) start before) := by
  refine .still_bind p.observerDaveMaterial_still (fun _ ↦ said_spoke) fun material _ ↦ ?_
  exact .pure fun g hsaid ↦ ⟨transitionId, stage, rfl, hcomplete, hsaid⟩

theorem said_joinedGroup {transitionId : TransitionId}
    (hfresh : transitionId ∉ p.invalidatedTransitionIds) (session : D.Session) :
    Triple (Said (author && !saw) start before (.offered p.invalidatedTransitionIds))
      (p.joinedGroup session transitionId)
      (TurnSaid author saw start before) (Spoke (author && !saw) start before) := by
  refine .still_bind (succeeded_still _ _) (fun _ ↦ said_spoke) fun runtime _ ↦ ?_
  refine .still_bind (stageProposals_still _ _) (fun _ ↦ said_spoke) fun runtime _ ↦ ?_
  refine .branch (fun hlater ↦ ?_) fun hfirst ↦ ?_
  · have hcomplete : (JoinStage.announced transitionId).Completes transitionId := rfl
    refine .bind (said_send (if_neg (not_or.mpr ⟨hlater, hfresh⟩))) fun _ ↦ ?_
    exact said_ready hcomplete runtime
  · have hcomplete : (JoinStage.offered p.invalidatedTransitionIds).Completes transitionId :=
      ⟨not_not.mp hfirst, hfresh⟩
    exact said_ready hcomplete runtime

theorem said_completeLocalInitialCreatorTransition {invalidated : Finset TransitionId}
    {authors : Bool} (hauthors : authors = true ∧ invalidated = ∅) (session : D.Session)
    (commitWelcome commit : Bytes) :
    Triple (Said authors start before (.offered invalidated))
      (completeLocalInitialCreatorTransition session commitWelcome commit)
      (fun _ ↦ Said authors start before .committed) (Spoke authors start before) := by
  refine .bind (said_send (if_pos hauthors)) fun _ ↦ ?_
  refine .still_bind (succeeded_still _ _) (fun _ ↦ said_spoke) fun answer _ ↦ ?_
  refine .branch (fun _ ↦ .throw fun _ ↦ said_spoke) fun _ ↦ ?_
  exact ((succeeded_still _ _).triple fun _ ↦ said_spoke).post fun _ _ ↦ And.right

theorem said_again (hwaiting : p.Waiting saw) (hkept : p.Kept q) :
    Triple (Said (author && !saw) start before (.offered p.invalidatedTransitionIds))
      (pure (.again q) : GatewayM (JoinTurn D)) (TurnSaid author saw start before)
      (Spoke (author && !saw) start before) :=
  .pure fun g hsaid ↦ ⟨hwaiting.kept hkept, by rwa [hkept.invalidated]⟩

theorem said_processProposals (hwaiting : p.Waiting saw) (operation : DaveMlsProposalsOperation)
    (proposals : Bytes) :
    Triple (Said (author && !saw) start before (.offered p.invalidatedTransitionIds))
      (p.processProposals author operation proposals)
      (TurnSaid author saw start before) (Spoke (author && !saw) start before) := by
  have hkept := (p.unmoved_bufferProposals author operation proposals).toKept
  refine .branch (fun _ ↦ .throw fun _ ↦ said_spoke) fun _ ↦ .branch (fun _ ↦ ?_) fun hmine ↦ ?_
  · exact said_again hwaiting hkept
  · obtain ⟨hauthor, hsilent⟩ := authors_of_bufferProposals (Bool.eq_false_iff.mpr hmine)
    obtain ⟨hsaw, hfresh⟩ := hwaiting.unheard hsilent
    refine .still_bind (processInitialProposals_still _ _ _) (fun _ ↦ said_spoke) ?_
    rintro ⟨commitWelcome, session⟩ -
    cases commitWelcome with
    | none => exact said_again hwaiting ⟨hkept.keyPackage, hkept.invalidated, hkept.unheard⟩
    | some commitWelcome =>
      refine .still_bind (unpackCommit_still _) (fun _ ↦ said_spoke) fun commit _ ↦ ?_
      have hauthors : (author && !saw) = true ∧ p.invalidatedTransitionIds = ∅ :=
        ⟨by rw [hauthor, hsaw]; rfl, hfresh⟩
      have hcomplete : JoinStage.committed.Completes daveProtocolInitTransitionId := rfl
      refine .bind (said_completeLocalInitialCreatorTransition hauthors _ _ _) fun runtime ↦ ?_
      exact said_ready hcomplete runtime

theorem said_restarted {transitionId : TransitionId}
    (hfresh : transitionId ∉ p.invalidatedTransitionIds) :
    Triple (Said (author && !saw) start before (.offered p.invalidatedTransitionIds))
      (do return .again (← p.restart transitionId) : GatewayM (JoinTurn D))
      (TurnSaid author saw start before) (Spoke (author && !saw) start before) :=
  .bind (said_restart hfresh) fun _ ↦ .pure fun _ hsaid ↦ hsaid

theorem said_processCommitTransition (hwaiting : p.Waiting saw) (transitionId : TransitionId)
    (commit : Bytes) :
    Triple (Said (author && !saw) start before (.offered p.invalidatedTransitionIds))
      (p.processCommitTransition transitionId commit)
      (TurnSaid author saw start before) (Spoke (author && !saw) start before) := by
  refine .branch (fun _ ↦ said_again hwaiting ⟨rfl, rfl, id⟩) fun hfresh ↦ ?_
  refine .still_bind (takePrepared_still _ _ _) (fun _ ↦ said_spoke) fun q hq ↦ ?_
  rw [← hq.invalidated] at hfresh ⊢
  refine .still_bind q.daveSession_still (fun _ ↦ said_spoke) fun session _ ↦ ?_
  split
  · exact said_restarted hfresh
  · refine .branch (fun _ ↦ ?_) fun _ ↦ said_joinedGroup hfresh _
    exact said_restarted hfresh

theorem said_processWelcome (hwaiting : p.Waiting saw) (transitionId : TransitionId)
    (welcome : Bytes) :
    Triple (Said (author && !saw) start before (.offered p.invalidatedTransitionIds))
      (p.processWelcome transitionId welcome)
      (TurnSaid author saw start before) (Spoke (author && !saw) start before) := by
  refine .branch (fun _ ↦ said_again hwaiting ⟨rfl, rfl, id⟩) fun hfresh ↦ ?_
  refine .still_bind (takePrepared_still _ _ _) (fun _ ↦ said_spoke) fun q hq ↦ ?_
  rw [← hq.invalidated] at hfresh ⊢
  refine .still_bind q.daveSession_still (fun _ ↦ said_spoke) fun session _ ↦ ?_
  split
  · exact said_restarted hfresh
  · exact said_joinedGroup hfresh _

/-- The step lemma, an arm for each event. -/
theorem said_turn (hwaiting : p.Waiting saw) (event : JoinEvent) :
    Triple (Said (author && !saw) start before (.offered p.invalidatedTransitionIds))
      (p.turn author event)
      (TurnSaid author saw start before) (Spoke (author && !saw) start before) := by
  cases event with
  | roster event => exact said_again hwaiting (p.kept_observeRoster event)
  | daveMlsExternalSenderPackage sender =>
    refine .still_bind (p.setExternalSender_still sender) (fun _ ↦ said_spoke) fun q hq ↦ ?_
    exact said_again hwaiting hq.toKept
  | davePrepareEpoch transitionId epoch protocolVersion =>
    refine .still_bind (prepareEpoch_still hwaiting.keyed transitionId epoch protocolVersion)
      (fun _ ↦ said_spoke) fun q hq ↦ ?_
    exact said_again hwaiting hq.toKept
  | daveMlsProposals operation proposals => exact said_processProposals hwaiting operation proposals
  | daveMlsPrepareCommitTransition transitionId commit =>
    exact said_processCommitTransition hwaiting transitionId commit
  | daveMlsWelcome transitionId welcome => exact said_processWelcome hwaiting transitionId welcome
  | other => exact said_again hwaiting ⟨rfl, rfl, id⟩

/-- The run lemma, by induction on what the gateway has to say. -/
theorem said_joinLoop (hwaiting : p.Waiting saw) (inbox : List JoinReceive) :
    Triple (Said (author && !saw) start before (.offered p.invalidatedTransitionIds))
      (joinLoop author p inbox)
      (ReadySaid (author && !saw) start before) (Spoke (author && !saw) start before) := by
  induction inbox generalizing p with
  | nil => exact .throw fun _ ↦ said_spoke
  | cons received inbox ih =>
    cases received with
    | failed err => exact .throw fun _ ↦ said_spoke
    | event event =>
      refine .bind (said_turn hwaiting event) fun turn ↦ ?_
      cases turn with
      | again q => exact .assuming fun hwaiting' ↦ ih hwaiting'
      | done ready => exact .pure fun _ hsaid ↦ hsaid

theorem said_completeJoin (hwaiting : p.Waiting saw) (inbox : List JoinReceive) :
    Triple (Said (author && !saw) start before (.offered p.invalidatedTransitionIds))
      (p.completePendingObserverDaveJoin author inbox)
      (ReadySaid (author && !saw) start before) (Spoke (author && !saw) start before) :=
  said_joinLoop (p := { p with seededEvents := [] }) ⟨hwaiting.keyed, hwaiting.unheard⟩ _

theorem seed_still (negotiated : UInt16) (p : PendingObserverDaveState D)
    (inbox : List JoinReceive) : Still (seed negotiated p inbox) fun r ↦ p.Kept r.1 := by
  induction inbox generalizing p with
  | nil => exact .pure ⟨rfl, rfl, id⟩
  | cons received inbox ih =>
    have hnext {q : PendingObserverDaveState D} (hkept : p.Kept q) :
        Still (seed negotiated q inbox) fun r ↦ p.Kept r.1 := by
      refine (ih q).imp fun r h ↦ ⟨h.keyPackage.trans hkept.keyPackage,
        h.invalidated.trans hkept.invalidated, fun hsilent ↦ hkept.unheard (h.unheard hsilent)⟩
    cases received with
    | failed err => exact .throw _
    | event event =>
      cases event with
      | roster event => exact hnext (p.kept_observeRoster event)
      | daveMlsExternalSenderPackage sender =>
        exact .bind (p.setExternalSender_still sender) fun q hq ↦ hnext hq.toKept
      | davePrepareEpoch transitionId epoch protocolVersion =>
        exact .bind (checkEpoch_still _ _ _) fun _ _ ↦
          hnext (p.unmoved_notePrepared _ _).toKept
      | daveMlsProposals operation proposals => exact .pure ⟨rfl, rfl, id⟩
      | daveMlsPrepareCommitTransition transitionId commit => exact .pure ⟨rfl, rfl, id⟩
      | daveMlsWelcome transitionId welcome => exact .pure ⟨rfl, rfl, id⟩
      | other => exact hnext ⟨rfl, rfl, id⟩

theorem waiting_initial {userId : String} {recognizedUserIds : Finset String} {groupId : ℕ}
    {protocolVersion : UInt16} {externalSenderBytes : Option Bytes}
    {invalidated : Finset TransitionId} {session session' : D.Session}
    (hsaw : saw = true ∨ invalidated = ∅) :
    Waiting saw { initial userId recognizedUserIds saw groupId protocolVersion externalSenderBytes
      invalidated session with session := some session', pendingKeyPackage := true } where
  keyed := rfl
  unheard hsilent := by
    change saw = false at hsilent
    exact ⟨hsilent, hsaw.resolve_left (by simp [hsilent])⟩

end PendingObserverDaveState

namespace JoinStart

open Fallible GatewayM PendingObserverDaveState

variable {D : JoinLibdave} {before : List GatewayMessage} {authors : Bool}

/-- Where the talk stands before the join. One that follows an earlier join goes on from it. -/
def stage : JoinStart → JoinStage
  | connection _ _ _ => .silent
  | invalidTransition _ _ => .offered ∅
  | invalidProposals _ => .outdated

/-- How the beginning of a join leaves the gateway. -/
def BeginSaid (authors : Bool) (start : JoinStart) (before : List GatewayMessage)
    (r : PendingObserverDaveState D × List JoinReceive) (g : VoiceGatewayClient) : Prop :=
  r.1.Waiting start.sawExistingSpeaker ∧
    Said authors start.stage before (.offered r.1.invalidatedTransitionIds) g

theorem said_begin (voice : VoiceContext) (recognizedUserIds : Finset String) (start : JoinStart) :
    Triple (Said authors start.stage before start.stage) (start.begin (D := D) voice recognizedUserIds)
      (BeginSaid authors start before) (Spoke authors start.stage before) := by
  cases start with
  | connection protocolVersion sawExistingSpeaker seed =>
    refine .still_bind (available_still _ _) (fun _ ↦ said_spoke) fun groupId _ ↦ ?_
    refine .still_bind (succeeded_still _ _) (fun _ ↦ said_spoke) fun session _ ↦ ?_
    refine .still_bind (succeeded_still _ _) (fun _ ↦ said_spoke) fun session _ ↦ ?_
    refine .bind (said_sendPendingJoinKeyPackage rfl fun _ ↦ rfl) fun q ↦ .assuming ?_
    rintro ⟨session, rfl⟩
    refine .still_bind (observerDaveProtocolVersion_still _) (fun _ ↦ said_spoke) fun _ _ ↦ ?_
    refine ((seed_still _ _ _).triple fun _ ↦ said_spoke).post fun r g ⟨hkept, hsaid⟩ ↦ ?_
    exact ⟨(waiting_initial (.inr rfl)).kept hkept, by rwa [hkept.invalidated]⟩
  | invalidTransition material invalidTransitionId =>
    refine .bind (Q := fun p g ↦ BeginSaid authors (.invalidTransition material
      invalidTransitionId) before (p, []) g) ?_ fun p ↦ .pure fun _ hsaid ↦ hsaid
    refine .still_bind (externalSession_still _ _ _ _) (fun _ ↦ said_spoke) fun session _ ↦ ?_
    have hreport : JoinStage.next authors (.offered ∅)
        (.daveMlsInvalidCommitWelcome invalidTransitionId) = some (.reported {invalidTransitionId}) := by
      simp [JoinStage.next]
    refine .bind (said_send hreport) fun _ ↦ ?_
    refine (said_sendPendingJoinKeyPackage rfl fun _ ↦ rfl).post ?_
    rintro q g ⟨⟨session, rfl⟩, hsaid⟩
    exact ⟨waiting_initial (.inl rfl), hsaid⟩
  | invalidProposals material =>
    refine .bind (Q := fun p g ↦ BeginSaid authors (.invalidProposals material) before (p, []) g)
      ?_ fun p ↦ .pure fun _ hsaid ↦ hsaid
    refine .still_bind (externalSession_still _ _ _ _) (fun _ ↦ said_spoke) fun session _ ↦ ?_
    have hreport : JoinStage.next authors .outdated
        (.daveMlsInvalidCommitWelcome daveProtocolInitTransitionId) = some (.reported ∅) := by
      simp [JoinStage.next]
    refine .bind (said_send hreport) fun _ ↦ ?_
    refine (said_sendPendingJoinKeyPackage rfl fun _ ↦ rfl).post ?_
    rintro q g ⟨⟨session, rfl⟩, hsaid⟩
    exact ⟨waiting_initial (.inl rfl), hsaid⟩

theorem said_join (voice : VoiceContext) (recognizedUserIds : Finset String) (author : Bool)
    (start : JoinStart) (inbox : List JoinReceive) :
    Triple (Said (author && !start.sawExistingSpeaker) start.stage before start.stage)
      (start.join (D := D) voice recognizedUserIds author inbox)
      (ReadySaid (author && !start.sawExistingSpeaker) start.stage before)
      (Spoke (author && !start.sawExistingSpeaker) start.stage before) := by
  refine .bind (said_begin voice recognizedUserIds start) ?_
  rintro ⟨p, rest⟩
  exact .assuming fun hwaiting ↦ said_completeJoin hwaiting _

/-- Whatever the gateway and the library answer, and wherever the join fails or runs out of time,
the observer talks as `JoinStage.next` allows; and a join that completes has completed a transition
that counts as valid, and has announced it unless it is that of the first epoch. -/
theorem join_talk (D : JoinLibdave) (voice : VoiceContext) (recognizedUserIds : Finset String)
    (authorProposals : Bool) (start : JoinStart) (inbox : List JoinReceive)
    (g : VoiceGatewayClient) :
    (∀ ready g', start.join (D := D) voice recognizedUserIds authorProposals inbox g = .ok ready g' →
      ReadySaid (authorProposals && !start.sawExistingSpeaker) start.stage g.sent ready g') ∧
    ∀ err g', start.join (D := D) voice recognizedUserIds authorProposals inbox g = .error err g' →
      Spoke (authorProposals && !start.sawExistingSpeaker) start.stage g.sent g' := by
  have hjoin : Triple (Said _ start.stage g.sent start.stage) _
      (ReadySaid (D := D) _ start.stage g.sent) (Spoke _ start.stage g.sent) :=
    said_join voice recognizedUserIds authorProposals start inbox
  have hsilent : Said (authorProposals && !start.sawExistingSpeaker) start.stage g.sent start.stage g :=
    ⟨[], by rw [List.append_nil], rfl⟩
  exact ⟨fun _ _ hok ↦ hjoin.ok hsilent hok, fun _ _ herror ↦ hjoin.error hsilent herror⟩

end JoinStart

end DiscordVoice.Voice
