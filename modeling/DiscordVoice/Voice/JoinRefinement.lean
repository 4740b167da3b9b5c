import DiscordVoice.Triples
import DiscordVoice.Voice.JoinTalk

namespace DiscordVoice.Voice

def JoinReceive.rosterEvent : JoinReceive → Option RosterEvent
  | .event (.roster e) => some e
  | _ => none

/-- What a join learns of the roster from what it received. -/
def PendingObserverDave.hear (p : PendingObserverDave) (heard : List JoinReceive) :
    PendingObserverDave :=
  (heard.filterMap JoinReceive.rosterEvent).foldl observe p

namespace PendingObserverDave

/-- All but whether somebody was heard, which a restart takes for granted. -/
def Agrees (p q : PendingObserverDave) : Prop :=
  p.recognizedUserIds = q.recognizedUserIds ∧ p.gatewayUpdates = q.gatewayUpdates

variable {p q : PendingObserverDave}

theorem Agrees.observe (h : p.Agrees q) (event : RosterEvent) :
    (p.observe event).Agrees (q.observe event) := by
  obtain ⟨hids, hupdates⟩ := h
  cases event with
  | clientsConnect userIds => exact ⟨by simp only [PendingObserverDave.observe, hids], hupdates⟩
  | clientDisconnect userId => exact ⟨hids, by simp only [PendingObserverDave.observe, hupdates]⟩
  | speaking userId ssrc flags =>
    cases userId with
    | none => exact ⟨hids, hupdates⟩
    | some userId => exact ⟨hids, by simp only [PendingObserverDave.observe, hupdates]⟩

theorem Agrees.hear (h : p.Agrees q) (heard : List JoinReceive) :
    (p.hear heard).Agrees (q.hear heard) := by
  unfold PendingObserverDave.hear
  induction heard.filterMap JoinReceive.rosterEvent generalizing p q with
  | nil => exact h
  | cons event events ih => exact ih (h.observe event)

theorem hear_append (p : PendingObserverDave) (heard more : List JoinReceive) :
    p.hear (heard ++ more) = (p.hear heard).hear more := by
  simp only [hear, List.filterMap_append, List.foldl_append]

end PendingObserverDave

namespace PendingObserverDaveState

open Fallible GatewayM

variable {D : JoinLibdave} {p q : PendingObserverDaveState D} {author : Bool}

def Learned (roster : PendingObserverDave) : JoinTurn D → Prop
  | .again q => q.Agrees roster
  | .done ready => ready.recognizedUserIds = roster.recognizedUserIds ∧
      ready.gatewayUpdates = roster.gatewayUpdates

theorem sendPendingJoinKeyPackage_roster (p : PendingObserverDaveState D) :
    Triple (fun _ ↦ True) p.sendPendingJoinKeyPackage
      (fun q _ ↦ q.toPendingObserverDave = p.toPendingObserverDave ∧
        q.seededEvents = p.seededEvents) fun _ ↦ True := by
  refine .still_bind p.daveSession_still (fun _ _ ↦ trivial) fun session _ ↦ ?_
  refine .branch (fun _ ↦ .pure fun _ _ ↦ ⟨rfl, rfl⟩) fun _ ↦ ?_
  refine .still_bind (succeeded_still _ _) (fun _ _ ↦ trivial) fun keyPackage _ ↦ ?_
  exact .bind (.trivial _) fun _ ↦ .pure fun _ _ ↦ ⟨rfl, rfl⟩

theorem restart_agrees (p : PendingObserverDaveState D) (transitionId : TransitionId) :
    Triple (fun _ ↦ True) (p.restart transitionId)
      (fun q _ ↦ q.Agrees p.toPendingObserverDave) fun _ ↦ True := by
  refine .still_bind (available_still _ _) (fun _ _ ↦ trivial) fun externalSenderBytes _ ↦ ?_
  refine .still_bind (externalSession_still _ _ _ _) (fun _ _ ↦ trivial) fun session _ ↦ ?_
  refine .bind (.trivial _) fun _ ↦ (sendPendingJoinKeyPackage_roster _).post fun q _ hq ↦ ?_
  rw [hq.1]
  exact ⟨rfl, rfl⟩

theorem learned_ready {roster : PendingObserverDave} (hp : p.toPendingObserverDave = roster)
    (runtime : D.Runtime) (transitionId : TransitionId) :
    Triple (fun _ ↦ True) (p.ready runtime transitionId) (fun r _ ↦ Learned roster r)
      fun _ ↦ True := by
  refine .still_bind p.observerDaveMaterial_still (fun _ _ ↦ trivial) fun material _ ↦ ?_
  exact .pure fun _ _ ↦ ⟨by rw [← hp], by rw [← hp]⟩

theorem learned_joinedGroup {roster : PendingObserverDave} (hp : p.toPendingObserverDave = roster)
    (session : D.Session) (transitionId : TransitionId) :
    Triple (fun _ ↦ True) (p.joinedGroup session transitionId) (fun r _ ↦ Learned roster r)
      fun _ ↦ True := by
  refine .still_bind (succeeded_still _ _) (fun _ _ ↦ trivial) fun runtime _ ↦ ?_
  refine .still_bind (stageProposals_still _ _) (fun _ _ ↦ trivial) fun runtime _ ↦ ?_
  refine .branch (fun _ ↦ ?_) fun _ ↦ learned_ready (p := { p with session := none }) hp _ _
  exact .bind (.trivial _) fun _ ↦ learned_ready (p := { p with session := none }) hp _ _

theorem learned_restarted {roster : PendingObserverDave} (hp : p.toPendingObserverDave = roster)
    (transitionId : TransitionId) :
    Triple (fun _ ↦ True) (do return .again (← p.restart transitionId) : GatewayM (JoinTurn D))
      (fun r _ ↦ Learned roster r) fun _ ↦ True :=
  hp ▸ .bind (p.restart_agrees transitionId) fun _ ↦ .pure fun _ hq ↦ hq

theorem learned_processProposals (p : PendingObserverDaveState D) (author : Bool)
    (operation : DaveMlsProposalsOperation) (proposals : Bytes) :
    Triple (fun _ ↦ True) (p.processProposals author operation proposals)
      (fun r _ ↦ Learned p.toPendingObserverDave r) fun _ ↦ True := by
  have hroster := (p.unmoved_bufferProposals author operation proposals).roster
  have hagrees : (p.bufferProposals author operation proposals).Agrees p.toPendingObserverDave :=
    ⟨by rw [hroster], by rw [hroster]⟩
  refine .branch (fun _ ↦ .throw fun _ _ ↦ trivial) fun _ ↦ .branch (fun _ ↦ ?_) fun _ ↦ ?_
  · exact .pure fun _ _ ↦ hagrees
  · refine .still_bind (processInitialProposals_still _ _ _) (fun _ _ ↦ trivial) ?_
    rintro ⟨commitWelcome, session⟩ -
    cases commitWelcome with
    | none => exact .pure fun _ _ ↦ hagrees
    | some commitWelcome =>
      refine .still_bind (unpackCommit_still _) (fun _ _ ↦ trivial) fun commit _ ↦ ?_
      exact .bind (.trivial _) fun runtime ↦ learned_ready hroster runtime _

theorem learned_processCommitTransition (p : PendingObserverDaveState D)
    (transitionId : TransitionId) (commit : Bytes) :
    Triple (fun _ ↦ True) (p.processCommitTransition transitionId commit)
      (fun r _ ↦ Learned p.toPendingObserverDave r) fun _ ↦ True := by
  refine .branch (fun _ ↦ .pure fun _ _ ↦ ⟨rfl, rfl⟩) fun _ ↦ ?_
  refine .still_bind (takePrepared_still _ _ _) (fun _ _ ↦ trivial) fun q hq ↦ ?_
  refine .still_bind q.daveSession_still (fun _ _ ↦ trivial) fun session _ ↦ ?_
  split
  · exact learned_restarted hq.roster transitionId
  · refine .branch (fun _ ↦ ?_) fun _ ↦ learned_joinedGroup hq.roster _ transitionId
    exact learned_restarted (p := { q with session := some _ }) hq.roster transitionId

theorem learned_processWelcome (p : PendingObserverDaveState D) (transitionId : TransitionId)
    (welcome : Bytes) :
    Triple (fun _ ↦ True) (p.processWelcome transitionId welcome)
      (fun r _ ↦ Learned p.toPendingObserverDave r) fun _ ↦ True := by
  refine .branch (fun _ ↦ .pure fun _ _ ↦ ⟨rfl, rfl⟩) fun _ ↦ ?_
  refine .still_bind (takePrepared_still _ _ _) (fun _ _ ↦ trivial) fun q hq ↦ ?_
  refine .still_bind q.daveSession_still (fun _ _ ↦ trivial) fun session _ ↦ ?_
  split
  · exact learned_restarted hq.roster transitionId
  · exact learned_joinedGroup hq.roster _ transitionId

variable (author) in
theorem learned_turn (hwaiting : p.pendingKeyPackage = true) (event : JoinEvent) :
    Triple (fun _ ↦ True) (p.turn author event)
      (fun r _ ↦ Learned (p.hear [.event event]) r) fun _ ↦ True := by
  have hsame {q : PendingObserverDaveState D} (hq : p.Unmoved q) :
      q.Agrees p.toPendingObserverDave :=
    ⟨by rw [hq.roster], by rw [hq.roster]⟩
  cases event with
  | roster event => exact .pure fun _ _ ↦ ⟨rfl, rfl⟩
  | daveMlsExternalSenderPackage sender =>
    refine .still_bind (p.setExternalSender_still sender) (fun _ _ ↦ trivial) fun q hq ↦ ?_
    exact .pure fun _ _ ↦ hsame hq
  | davePrepareEpoch transitionId epoch protocolVersion =>
    refine .still_bind (prepareEpoch_still hwaiting transitionId epoch protocolVersion)
      (fun _ _ ↦ trivial) fun q hq ↦ ?_
    exact .pure fun _ _ ↦ hsame hq
  | daveMlsProposals operation proposals =>
    exact p.learned_processProposals author operation proposals
  | daveMlsPrepareCommitTransition transitionId commit =>
    exact p.learned_processCommitTransition transitionId commit
  | daveMlsWelcome transitionId welcome => exact p.learned_processWelcome transitionId welcome
  | other => exact .pure fun _ _ ↦ ⟨rfl, rfl⟩

def ReadyAgrees (ready : PendingObserverReadyResult D) (roster : PendingObserverDave) : Prop :=
  ready.recognizedUserIds = roster.recognizedUserIds ∧ ready.gatewayUpdates = roster.gatewayUpdates

/-- The run lemma: the roster is what was heard up to the event that completed the join. -/
theorem joinLoop_roster {saw : Bool} (hwaiting : p.Waiting saw) {inbox : List JoinReceive}
    {g g' : VoiceGatewayClient} {ready : PendingObserverReadyResult D}
    (h : joinLoop author p inbox g = .ok ready g') :
    ∃ heard rest, inbox = heard ++ rest ∧ ReadyAgrees ready (p.hear heard) := by
  induction inbox generalizing p g with
  | nil => cases h
  | cons received inbox ih =>
    cases received with
    | failed err => cases h
    | event event =>
      obtain ⟨turn, u, hturn, hrest⟩ := bind_ok_iff.mp h
      have hlearned := (learned_turn author hwaiting.keyed event).ok trivial hturn
      cases turn with
      | done ready' =>
        cases hrest
        exact ⟨[.event event], inbox, rfl, hlearned⟩
      | again q =>
        have hsilent : Said (author && !saw) (.offered p.invalidatedTransitionIds) g.sent
            (.offered p.invalidatedTransitionIds) g := ⟨[], by rw [List.append_nil], rfl⟩
        have hq : q.Waiting saw := ((said_turn hwaiting event).ok hsilent hturn).1
        obtain ⟨heard, rest, rfl, hagrees⟩ := ih hq hrest
        have hheard := PendingObserverDave.Agrees.hear hlearned heard
        refine ⟨.event event :: heard, rest, rfl, ?_⟩
        rw [← List.singleton_append, PendingObserverDave.hear_append]
        exact ⟨hagrees.1.trans hheard.1, hagrees.2.trans hheard.2⟩

/-- What was looked at before the join proper, of the events that were there at once. -/
theorem seed_roster (negotiated : UInt16) (p : PendingObserverDaveState D)
    (inbox : List JoinReceive) :
    Still (seed negotiated p inbox) fun r ↦ ∃ heard seeded,
      r.1.toPendingObserverDave = p.hear heard ∧ r.1.seededEvents = p.seededEvents ++ seeded ∧
        inbox = heard ++ seeded.map .event ++ r.2 := by
  induction inbox generalizing p with
  | nil => exact .pure ⟨[], [], rfl, by rw [List.append_nil], rfl⟩
  | cons received inbox ih =>
    have hnext {q : PendingObserverDaveState D}
        (hroster : q.toPendingObserverDave = p.hear [received])
        (hseeded : q.seededEvents = p.seededEvents) :
        Still (seed negotiated q inbox) fun r ↦ ∃ heard seeded,
          r.1.toPendingObserverDave = p.hear heard ∧
            r.1.seededEvents = p.seededEvents ++ seeded ∧
              received :: inbox = heard ++ seeded.map .event ++ r.2 := by
      refine (ih q).imp ?_
      rintro r ⟨heard, seeded, hheard, hmore, rfl⟩
      refine ⟨received :: heard, seeded, ?_, hseeded ▸ hmore, rfl⟩
      rw [hheard, hroster, ← PendingObserverDave.hear_append, List.singleton_append]
    cases received with
    | failed err => exact .throw _
    | event event =>
      cases event with
      | roster event => exact hnext rfl rfl
      | daveMlsExternalSenderPackage sender =>
        refine .bind (q := fun q ↦ q.toPendingObserverDave = p.toPendingObserverDave ∧
          q.seededEvents = p.seededEvents) ?_ fun q hq ↦ hnext hq.1 hq.2
        refine .bind p.daveSession_still fun _ _ ↦ .bind (succeeded_still _ _) fun _ _ ↦ ?_
        exact .pure ⟨rfl, rfl⟩
      | davePrepareEpoch transitionId epoch protocolVersion =>
        refine .bind (checkEpoch_still _ _ _) fun _ _ ↦ ?_
        cases transitionId with
        | none => exact hnext rfl rfl
        | some transitionId => exact hnext rfl rfl
      | daveMlsProposals operation proposals => exact .pure ⟨[], [_], rfl, rfl, rfl⟩
      | daveMlsPrepareCommitTransition transitionId commit =>
        exact .pure ⟨[], [_], rfl, rfl, rfl⟩
      | daveMlsWelcome transitionId welcome => exact .pure ⟨[], [_], rfl, rfl, rfl⟩
      | other => exact hnext rfl rfl

end PendingObserverDaveState

namespace JoinStart

open Fallible GatewayM PendingObserverDaveState

variable {D : JoinLibdave}

def atOnce : JoinStart → List JoinReceive
  | connection _ _ seed => seed
  | invalidTransition _ _ | invalidProposals _ => []

def roster (voice : VoiceContext) (recognizedUserIds : Finset String) (start : JoinStart) :
    PendingObserverDave :=
  .start voice.userId recognizedUserIds start.sawExistingSpeaker

/-- What a join has heard of what is there at once, and what it has left for later. -/
def BeginHeard (voice : VoiceContext) (recognizedUserIds : Finset String) (start : JoinStart)
    (r : PendingObserverDaveState D × List JoinReceive) : Prop :=
  ∃ heard, r.1.toPendingObserverDave = (start.roster voice recognizedUserIds).hear heard ∧
    start.atOnce = heard ++ r.1.seededEvents.map .event ++ r.2

theorem begin_roster (voice : VoiceContext) (recognizedUserIds : Finset String) (start : JoinStart) :
    Triple (fun _ ↦ True) (start.begin (D := D) voice recognizedUserIds)
      (fun r _ ↦ BeginHeard voice recognizedUserIds start r) fun _ ↦ True := by
  cases start with
  | connection protocolVersion sawExistingSpeaker seed =>
    refine .still_bind (available_still _ _) (fun _ _ ↦ trivial) fun groupId _ ↦ ?_
    refine .still_bind (succeeded_still _ _) (fun _ _ ↦ trivial) fun session _ ↦ ?_
    refine .still_bind (succeeded_still _ _) (fun _ _ ↦ trivial) fun session _ ↦ ?_
    refine .bind (sendPendingJoinKeyPackage_roster _) fun q g hq ↦ ?_
    obtain ⟨hroster, hseeded⟩ := hq
    refine Triple.still_bind (P := fun _ ↦ True) (observerDaveProtocolVersion_still _)
      (fun _ _ ↦ trivial) (fun negotiated _ ↦ ?_) g trivial
    refine ((seed_roster _ _ _).triple fun _ _ ↦ trivial).post ?_
    rintro r _ ⟨⟨heard, seeded, hheard, hmore, rfl⟩, -⟩
    refine ⟨heard, by rw [hheard, hroster]; rfl, ?_⟩
    rw [hmore, hseeded]
    rfl
  | invalidTransition material invalidTransitionId =>
    refine .bind (Q := fun p _ ↦ p.toPendingObserverDave = .start voice.userId recognizedUserIds
      true ∧ p.seededEvents = []) ?_ fun p ↦ .pure fun _ hp ↦ ⟨[], hp.1, by rw [hp.2]; rfl⟩
    refine .still_bind (externalSession_still _ _ _ _) (fun _ _ ↦ trivial) fun session _ ↦ ?_
    exact .bind (.trivial _) fun _ ↦ sendPendingJoinKeyPackage_roster _
  | invalidProposals material =>
    refine .bind (Q := fun p _ ↦ p.toPendingObserverDave = .start voice.userId recognizedUserIds
      true ∧ p.seededEvents = []) ?_ fun p ↦ .pure fun _ hp ↦ ⟨[], hp.1, by rw [hp.2]; rfl⟩
    refine .still_bind (externalSession_still _ _ _ _) (fun _ _ ↦ trivial) fun session _ ↦ ?_
    exact .bind (.trivial _) fun _ ↦ sendPendingJoinKeyPackage_roster _

theorem begin_waiting {voice : VoiceContext} {recognizedUserIds : Finset String} {start : JoinStart}
    {r : PendingObserverDaveState D × List JoinReceive} {g g' : VoiceGatewayClient}
    (h : start.begin voice recognizedUserIds g = .ok r g') :
    r.1.Waiting start.sawExistingSpeaker := by
  have hsilent : Said true start.stage g.sent start.stage g := ⟨[], by rw [List.append_nil], rfl⟩
  exact ((said_begin voice recognizedUserIds start).ok hsilent h).1

theorem complete_roster {voice : VoiceContext} {recognizedUserIds : Finset String}
    {start : JoinStart} {author : Bool} {r : PendingObserverDaveState D × List JoinReceive}
    (hheard : BeginHeard voice recognizedUserIds start r)
    (hwaiting : r.1.Waiting start.sawExistingSpeaker) {inbox : List JoinReceive}
    {g g' : VoiceGatewayClient} {ready : PendingObserverReadyResult D}
    (h : r.1.completePendingObserverDaveJoin author (r.2 ++ inbox) g = .ok ready g') :
    ∃ heard rest, start.atOnce ++ inbox = heard ++ rest ∧
      ReadyAgrees ready ((start.roster voice recognizedUserIds).hear heard) := by
  obtain ⟨heard, hroster, hatOnce⟩ := hheard
  obtain ⟨more, rest, hinbox, hagrees⟩ := joinLoop_roster
    (p := { r.1 with seededEvents := [] }) ⟨hwaiting.keyed, hwaiting.unheard⟩ h
  refine ⟨heard ++ more, rest, ?_, ?_⟩
  · rw [hatOnce, List.append_assoc, List.append_assoc, List.append_assoc, hinbox]
  · rw [PendingObserverDave.hear_append, ← hroster]
    exact hagrees

end JoinStart

namespace ObservedVoiceSession

open Fallible PendingObserverDaveState

variable {D : JoinLibdave} {α β γ δ : Type}

/-- A part of the handshake, on the gateway of the session. -/
def onGateway (x : GatewayM α) : ObserverM D.toObserverLibdave α := fun s ↦
  match s.gateway with
  | none => .error (.invalidState "voice gateway unavailable") s
  | some gateway =>
    match x gateway with
    | .ok a gateway => .ok a { s with gateway := some gateway }
    | .error err gateway => .error err { s with gateway := some gateway }

def applyJoined (s : ObservedVoiceSession D.toObserverLibdave)
    (ready : PendingObserverReadyResult D) : ObservedVoiceSession D.toObserverLibdave :=
  s.applyObserverDaveReady ⟨ready.recognizedUserIds, ready.gatewayUpdates, true⟩
    ⟨ready.runtime, ready.material, ready.completedTransitionId⟩

/-- The new join of an observer, from the material of the one before. -/
def rejoin (start : ObserverDaveMaterial → JoinStart) (inbox : List JoinReceive) :
    ObserverM D.toObserverLibdave Unit := do
  let s ← get
  let material ← available "voice dave reinitialize material unavailable" s.daveMaterial
  let (p, rest) ← onGateway ((start material).begin s.voice s.daveRecognizedUserIds)
  modify fun s ↦ { s with dave := none }
  let ready ← onGateway (p.completePendingObserverDaveJoin s.authorDaveProposals (rest ++ inbox))
  modify fun s ↦ s.applyJoined ready

def reinitializeDaveAfterInvalidTransition (transitionId : TransitionId)
    (inbox : List JoinReceive) : ObserverM D.toObserverLibdave Unit :=
  rejoin (.invalidTransition · transitionId) inbox

def reinitializeDaveAfterInvalidProposals (inbox : List JoinReceive) :
    ObserverM D.toObserverLibdave Unit :=
  rejoin .invalidProposals inbox

def onSession (s : ObservedVoiceSession D.toObserverLibdave) (f : α → β) :
    EStateM.Result VoiceError VoiceGatewayClient α →
      EStateM.Result VoiceError (ObservedVoiceSession D.toObserverLibdave) β
  | .ok a g => .ok (f a) { s with gateway := some g }
  | .error err g => .error err { s with gateway := some g }

/-- The step of the session does on its gateway what the part of the handshake does. -/
def Mirrors (f : α → β) (x : GatewayM α) (y : ObserverM D.toObserverLibdave β) : Prop :=
  ∀ s g, s.gateway = some g → y s = onSession s f (x g)

theorem Mirrors.bind {f : α → β} {h : γ → δ} {x : GatewayM α}
    {y : ObserverM D.toObserverLibdave β} {k : α → GatewayM γ}
    {l : β → ObserverM D.toObserverLibdave δ} (hx : Mirrors f x y)
    (hk : ∀ a, Mirrors h (k a) (l (f a))) : Mirrors h (x >>= k) (y >>= l) := by
  intro s g hg
  rw [bind_apply, bind_apply, hx s g hg]
  cases x g with
  | ok a u => exact hk a { s with gateway := some u } u rfl
  | error err u => rfl

theorem mirrors_succeeded (reason : String) (value : Except DaveError α) :
    Mirrors (D := D) id (GatewayM.succeeded reason value) (succeeded reason value) := by
  rintro ⟨⟩ g ⟨⟩
  cases value <;> rfl

theorem mirrors_send (message : GatewayMessage) :
    Mirrors (D := D) id (GatewayM.send message) (send message) := by
  rintro ⟨⟩ g ⟨⟩
  rcases hresults : g.sendResults with _ | ⟨_ | detail, rest⟩ <;>
    simp [GatewayM.send, send, available, onSession, hresults]

theorem Mirrors.discard {f : α → Unit} {x : GatewayM α} {y : ObserverM D.toObserverLibdave Unit}
    (h : Mirrors f x y) (b : β) : Mirrors (fun _ ↦ ()) (x >>= fun _ ↦ pure b) y := by
  intro s g hg
  rw [h s g hg, bind_apply]
  cases x g <;> rfl

theorem sendPendingJoinKeyPackage_keyed {p : PendingObserverDaveState D} {session : D.Session}
    (hsession : p.session = some session) (hunkeyed : p.pendingKeyPackage = false) :
    p.sendPendingJoinKeyPackage = (do
      let (keyPackage, session) ← GatewayM.succeeded "voice dave key package failed"
        (D.keyPackage session)
      GatewayM.send (.daveMlsKeyPackage keyPackage)
      return { p with session := some session, pendingKeyPackage := true }) := by
  simp [sendPendingJoinKeyPackage, daveSession, GatewayM.available, hsession, hunkeyed]

theorem reinitializePending_eq (s : ObservedVoiceSession D.toObserverLibdave)
    {g : VoiceGatewayClient} (hg : s.gateway = some g) (material : ObserverDaveMaterial)
    (recognizedUserIds : Finset String) (reported : TransitionId)
    (invalidated : Finset TransitionId) :
    reinitializePendingObserverDaveJoin material reported s = onSession s (fun _ ↦ ())
      (reinitializeJoin (D := D) s.voice material recognizedUserIds reported invalidated g) := by
  rw [reinitializePendingObserverDaveJoin, get_bind_apply, reinitializeJoin, externalSession]
  simp only [bind_assoc]
  refine Mirrors.bind (mirrors_succeeded _ _) (fun session ↦ ?_) s g hg
  refine .bind (mirrors_succeeded _ _) fun session ↦ .bind (mirrors_succeeded _ _) fun session ↦ ?_
  refine .bind (mirrors_send _) fun _ ↦ ?_
  rw [sendPendingJoinKeyPackage_keyed (p := initial _ _ _ _ _ _ _ session) rfl rfl]
  exact .bind (mirrors_succeeded _ _) fun keyPackage ↦ (mirrors_send _).discard _

variable {s t u : ObservedVoiceSession D.toObserverLibdave}

theorem onSession_bind (s : ObservedVoiceSession D.toObserverLibdave) (x : GatewayM α)
    (f : α → β) (g : VoiceGatewayClient) :
    onSession s (fun _ ↦ ()) ((x >>= fun a ↦ pure (f a)) g) = onSession s (fun _ ↦ ()) (x g) := by
  rw [bind_apply]
  cases x g <;> rfl

def SameApart (t u : ObservedVoiceSession D.toObserverLibdave) : Prop :=
  t = { u with gateway := t.gateway }

theorem sameApart_updates (h : SameApart t u) (updates : List PendingObserverGatewayUpdate) :
    SameApart (updates.foldl applyPendingGatewayUpdate t)
      (updates.foldl applyPendingGatewayUpdate u) := by
  induction updates generalizing t u with
  | nil => exact h
  | cons update updates ih =>
    refine ih ?_
    rw [SameApart, h]
    cases update <;> rfl

theorem sameApart_ready (h : SameApart t u) {pending pending' : PendingObserverDave}
    (hagrees : pending.Agrees pending') (ready : ObserverReady D.toObserverLibdave) :
    SameApart (t.applyObserverDaveReady pending ready)
      (u.applyObserverDaveReady pending' ready) := by
  obtain ⟨hids, hupdates⟩ := hagrees
  have hjoined : SameApart (t.joined pending ready) (u.joined pending' ready) := by
    rw [SameApart, h]
    simp only [joined, hids]
  have hfolded := sameApart_updates hjoined pending.gatewayUpdates
  simp only [applyObserverDaveReady, hupdates] at hfolded ⊢
  rw [SameApart, hfolded]

/-- The outcome of the code and that of its abstraction: the same session, but for what the gateway
was told and, where the join fails, for what it said meanwhile. -/
def SameOutcome :
    EStateM.Result VoiceError (ObservedVoiceSession D.toObserverLibdave) Unit →
      EStateM.Result VoiceError (ObservedVoiceSession D.toObserverLibdave) Unit → Prop
  | .ok _ t, .ok _ u => SameApart t u
  | .error err t, .error err' u => err = err' ∧ SameApart { t with sightings := u.sightings } u
  | _, _ => False

/-- The abstract join received what the code received, up to some point. -/
def Received (inbox : List JoinReceive) (join : ObserverJoin D.toObserverLibdave) : Prop :=
  ∃ heard rest, inbox = heard ++ rest ∧ join.events = heard.filterMap JoinReceive.rosterEvent

theorem onGateway_bind (x : GatewayM α) (k : α → ObserverM D.toObserverLibdave β)
    {g : VoiceGatewayClient} (hg : s.gateway = some g) :
    (onGateway x >>= k) s = match x g with
      | .ok a g => k a { s with gateway := some g }
      | .error err g => .error err { s with gateway := some g } := by
  rw [bind_apply, onGateway, hg]
  cases hx : x g <;> simp only [hx]

theorem available_some (reason : String) {value : Option α} {a : α} (h : value = some a) :
    available (D := D.toObserverLibdave) reason value = pure a := by
  rw [h]
  rfl

theorem rejoin_apply {start : ObserverDaveMaterial → JoinStart} {inbox : List JoinReceive}
    {material : ObserverDaveMaterial} {g : VoiceGatewayClient}
    (hmaterial : s.daveMaterial = some material) (hg : s.gateway = some g) :
    rejoin start inbox s =
      match (start material).begin s.voice s.daveRecognizedUserIds g with
      | .error err g => .error err { s with gateway := some g }
      | .ok r g =>
        match r.1.completePendingObserverDaveJoin s.authorDaveProposals (r.2 ++ inbox) g with
        | .error err g => .error err { s with gateway := some g, dave := none }
        | .ok ready g => .ok () ({ s with gateway := some g, dave := none }.applyJoined ready) := by
  rw [rejoin, get_bind_apply, available_some _ hmaterial, pure_bind, onGateway_bind _ _ hg]
  cases (start material).begin (D := D) s.voice s.daveRecognizedUserIds g with
  | error err g' => rfl
  | ok r g' =>
    simp only [modify_bind_apply]
    rw [onGateway_bind _ _ rfl]
    cases r.1.completePendingObserverDaveJoin s.authorDaveProposals (r.2 ++ inbox) g' <;> rfl

theorem reinitializeDave_apply {reported : TransitionId}
    {join : ObserverJoin D.toObserverLibdave} {material : ObserverDaveMaterial}
    {g : VoiceGatewayClient} (hmaterial : s.daveMaterial = some material)
    (hg : s.gateway = some g) :
    reinitializeDave reported join s =
      match reinitializePendingObserverDaveJoin material reported s with
      | .ok _ t => completeJoin join t
      | .error err t => .error err t := by
  rw [reinitializeDave, get_bind_apply, available_some _ hmaterial, pure_bind,
    available_some _ hg, pure_bind, bind_apply]
  cases reinitializePendingObserverDaveJoin material reported s <;> rfl

/-- A join that begins as the abstract one does goes on as it does. -/
theorem rejoin_refines (s : ObservedVoiceSession D.toObserverLibdave)
    {start : ObserverDaveMaterial → JoinStart} {reported : TransitionId}
    (hsaw : ∀ material, (start material).sawExistingSpeaker = true)
    (hatOnce : ∀ material, (start material).atOnce = [])
    (hbegin : ∀ g, s.gateway = some g → ∀ material,
      reinitializePendingObserverDaveJoin material reported s =
        onSession s (fun _ ↦ ()) ((start material).begin (D := D) s.voice s.daveRecognizedUserIds g))
    (inbox : List JoinReceive) :
    ∃ join, Received inbox join ∧
      SameOutcome (rejoin start inbox s) (reinitializeDave reported join s) := by
  have hfails (err : VoiceError) : Received (D := D) inbox ⟨[], .error err⟩ := ⟨[], inbox, rfl, rfl⟩
  cases hmaterial : s.daveMaterial with
  | none =>
    refine ⟨_, hfails (.invalidState ""), ?_⟩
    rw [rejoin, reinitializeDave, get_bind_apply, get_bind_apply, hmaterial]
    exact ⟨rfl, rfl⟩
  | some material =>
    cases hg : s.gateway with
    | none =>
      refine ⟨_, hfails (.invalidState ""), ?_⟩
      rw [rejoin, reinitializeDave, get_bind_apply, get_bind_apply, hmaterial, hg, available,
        pure_bind, pure_bind, bind_apply, onGateway, hg]
      exact ⟨rfl, rfl⟩
    | some g =>
      have hpending := hbegin g hg material
      cases hstarted : (start material).begin (D := D) s.voice s.daveRecognizedUserIds g with
      | error err g' =>
        refine ⟨_, hfails (.invalidState ""), ?_⟩
        rw [rejoin_apply hmaterial hg, reinitializeDave_apply hmaterial hg, hpending, hstarted]
        exact ⟨rfl, rfl⟩
      | ok r g' =>
        cases hcomplete : r.1.completePendingObserverDaveJoin s.authorDaveProposals
            (r.2 ++ inbox) g' with
        | error err g'' =>
          refine ⟨_, hfails err, ?_⟩
          rw [rejoin_apply hmaterial hg, reinitializeDave_apply hmaterial hg, hpending, hstarted]
          simp only [hcomplete, onSession]
          exact ⟨rfl, rfl⟩
        | ok ready g'' =>
          have hbegun := ((start material).begin_roster s.voice s.daveRecognizedUserIds).ok trivial
            hstarted
          obtain ⟨heard, rest, hinbox, hagrees⟩ :=
            JoinStart.complete_roster hbegun (JoinStart.begin_waiting hstarted) hcomplete
          rw [hatOnce, List.nil_append] at hinbox
          rw [JoinStart.roster, hsaw] at hagrees
          refine ⟨⟨heard.filterMap JoinReceive.rosterEvent, .ok ⟨ready.runtime, ready.material,
            ready.completedTransitionId⟩⟩, ⟨heard, rest, hinbox, rfl⟩, ?_⟩
          rw [rejoin_apply hmaterial hg, reinitializeDave_apply hmaterial hg, hpending, hstarted]
          simp only [hcomplete, onSession, completeJoin, get_bind_apply, set_apply]
          have hsame : SameApart (D := D) { s with gateway := some g'', dave := none }
              { s with gateway := some g', dave := none } := rfl
          exact sameApart_ready hsame ⟨hagrees.1, hagrees.2⟩ _

/-- What a new join has no part in: how packets are unprotected, and what waits to be handed out. -/
def kept (s : ObservedVoiceSession D.toObserverLibdave) :=
  (s.voice, s.protection, s.authorDaveProposals, s.pendingSpeakingStates, s.pendingDisconnects,
    s.pendingPackets)

theorem kept_updates (updates : List PendingObserverGatewayUpdate)
    (s : ObservedVoiceSession D.toObserverLibdave) :
    (updates.foldl applyPendingGatewayUpdate s).kept = s.kept := by
  induction updates generalizing s with
  | nil => rfl
  | cons update updates ih =>
    rw [List.foldl_cons, ih]
    cases update <;> rfl

theorem kept_applyJoined (s : ObservedVoiceSession D.toObserverLibdave)
    (ready : PendingObserverReadyResult D) : (s.applyJoined ready).kept = s.kept :=
  kept_updates ready.gatewayUpdates _

/-- The same session, but for its gateway and its DAVE runtime. -/
def SameBesideDave (s t : ObservedVoiceSession D.toObserverLibdave) : Prop :=
  t = { s with gateway := t.gateway, dave := t.dave }

theorem SameBesideDave.kept (h : s.SameBesideDave t) : t.kept = s.kept := by
  rw [h]
  rfl

theorem onGateway_sameBesideDave (x : GatewayM α) :
    Triple s.SameBesideDave (onGateway x) (fun _ ↦ s.SameBesideDave) s.SameBesideDave := by
  intro t ht
  unfold onGateway
  cases t.gateway with
  | none => exact ht
  | some g =>
    dsimp only
    cases x g <;>
    · dsimp only
      rw [SameBesideDave, ht]

/-- A join that fails leaves the session without its DAVE runtime at most. -/
theorem rejoin_keeps (s : ObservedVoiceSession D.toObserverLibdave)
    (start : ObserverDaveMaterial → JoinStart) (inbox : List JoinReceive) :
    Triple (· = s) (rejoin start inbox) (fun _ t ↦ t.kept = s.kept) s.SameBesideDave := by
  refine .get_bind fun t ht ↦ .pre (P := s.SameBesideDave) ?_ fun u hu ↦ by rw [hu, ht]; rfl
  refine .bind (Q := fun _ ↦ s.SameBesideDave) (fun u hu ↦ ?_) fun material ↦ ?_
  · cases t.daveMaterial <;> exact hu
  refine .bind (onGateway_sameBesideDave _) fun r ↦ ?_
  refine .bind (Q := fun _ ↦ s.SameBesideDave) (fun u hu ↦ ?_) fun _ ↦ ?_
  · change SameBesideDave s { u with dave := none }
    rw [SameBesideDave, hu]
  refine .bind (onGateway_sameBesideDave _) fun ready u hu ↦ ?_
  exact (kept_applyJoined u ready).trans hu.kept

/-- The observer's recovery refines the step of the session model, whatever the gateway and the
library answer in the join: after a transition that could not be taken, and after proposals. -/
theorem reinitialize_refines (D : JoinLibdave) (s : ObservedVoiceSession D.toObserverLibdave)
    (transitionId : TransitionId) (inbox : List JoinReceive) :
    ((∃ join, Received inbox join ∧
      SameOutcome (reinitializeDaveAfterInvalidTransition transitionId inbox s)
        (reinitializeDave transitionId join s)) ∧
    Triple (· = s) (reinitializeDaveAfterInvalidTransition transitionId inbox)
      (fun _ t ↦ t.kept = s.kept) s.SameBesideDave) ∧
    (∃ join, Received inbox join ∧
      SameOutcome (reinitializeDaveAfterInvalidProposals inbox s)
        (reinitializeDave daveProtocolInitTransitionId join s)) ∧
    Triple (· = s) (reinitializeDaveAfterInvalidProposals inbox)
      (fun _ t ↦ t.kept = s.kept) s.SameBesideDave := by
  refine ⟨⟨?_, rejoin_keeps s _ inbox⟩, ?_, rejoin_keeps s _ inbox⟩
  · refine rejoin_refines s (fun _ ↦ rfl) (fun _ ↦ rfl) (fun g hg material ↦ ?_) inbox
    rw [reinitializePending_eq s hg material s.daveRecognizedUserIds transitionId {transitionId}]
    exact (onSession_bind _ _ _ _).symm
  · refine rejoin_refines s (fun _ ↦ rfl) (fun _ ↦ rfl) (fun g hg material ↦ ?_) inbox
    rw [reinitializePending_eq s hg material s.daveRecognizedUserIds daveProtocolInitTransitionId ∅]
    exact (onSession_bind _ _ _ _).symm

end ObservedVoiceSession

end DiscordVoice.Voice
