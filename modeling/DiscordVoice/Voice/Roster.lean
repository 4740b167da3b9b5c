import DiscordVoice.Schedule
import DiscordVoice.Voice.GatewayOnly
import DiscordVoice.Voice.Handshake

namespace DiscordVoice.Voice

open Fallible Schedule

namespace HandshakeReceive

/-- What an event of the gateway does to the roster of a participant. -/
def roster (selfUserId : String) (userIds : Finset String) : HandshakeReceive → Finset String
  | .event (.clientsConnect connected) => userIds ∪ connected.toFinset
  | .event (.clientDisconnect userId) =>
    if userId = selfUserId then userIds else userIds.erase userId
  | _ => userIds

def isRoster : HandshakeReceive → Bool
  | .event (.clientsConnect _) | .event (.clientDisconnect _) => true
  | _ => false

variable {selfUserId : String} {userIds : Finset String} {received : HandshakeReceive}

theorem roster_of_not_isRoster (h : received.isRoster = false) :
    received.roster selfUserId userIds = userIds := by
  unfold roster
  split
  · cases h
  · cases h
  · rfl

theorem self_mem_roster (h : selfUserId ∈ userIds) :
    selfUserId ∈ received.roster selfUserId userIds := by
  unfold roster
  split
  · exact Finset.mem_union_left _ h
  · split_ifs with hself
    · exact h
    · exact Finset.mem_erase.mpr ⟨Ne.symm hself, h⟩
  · exact h

end HandshakeReceive

variable {D : HandshakeLibdave}

namespace HandshakeTurn

def recognizedUserIds : HandshakeTurn D → Finset String
  | .again handshake => handshake.recognizedUserIds
  | .done _ dave => dave.recognizedUserIds

end HandshakeTurn

namespace ActiveDaveHandshake

/-- If it succeeds, the turn ends with the given users. -/
def Recognizes (userIds : Finset String) (x : Except VoiceError (HandshakeTurn D)) : Prop :=
  ∀ turn, x = .ok turn → turn.recognizedUserIds = userIds

namespace Recognizes

variable {userIds : Finset String}

theorem error (err : VoiceError) : Recognizes (D := D) userIds (.error err) := by
  intro turn h
  cases h

theorem again {h : ActiveDaveHandshake D} (hids : h.recognizedUserIds = userIds) :
    Recognizes userIds (.ok (.again h)) := by
  intro turn hturn
  cases hturn
  exact hids

theorem bind {α : Type} {x : Except VoiceError α} {f : α → Except VoiceError (HandshakeTurn D)}
    (hf : ∀ a, x = .ok a → Recognizes userIds (f a)) : Recognizes userIds (x >>= f) := by
  cases hx : x with
  | error err => exact error err
  | ok a => exact hf a hx

theorem branch {c : Prop} [Decidable c] {x y : Except VoiceError (HandshakeTurn D)}
    (hx : Recognizes userIds x) (hy : Recognizes userIds y) :
    Recognizes userIds (if c then x else y) := by
  split
  · exact hx
  · exact hy

end Recognizes

variable {h h' : ActiveDaveHandshake D}

theorem initialDaveState_recognizes (h : ActiveDaveHandshake D) (runtime : D.Runtime)
    (localInitCommit : Finset TransitionId) :
    Recognizes h.recognizedUserIds (h.initialDaveState runtime localInitCommit) := by
  refine .bind fun bytes _ turn hturn ↦ ?_
  cases hturn
  rfl

theorem pendingInitialDaveState_recognizes (h : ActiveDaveHandshake D) :
    Recognizes h.recognizedUserIds h.pendingInitialDaveState := by
  refine .bind fun session _ ↦ .bind fun bytes _ turn hturn ↦ ?_
  cases hturn
  rfl

theorem sendPendingJoinKeyPackage_recognized (hsend : h.sendPendingJoinKeyPackage = .ok h') :
    h'.recognizedUserIds = h.recognizedUserIds := by
  unfold sendPendingJoinKeyPackage at hsend
  split at hsend
  · cases hsend
    rfl
  · obtain ⟨session, -, hsend⟩ := except_bind_ok_iff.mp hsend
    obtain ⟨package, -, hsend⟩ := except_bind_ok_iff.mp hsend
    obtain ⟨gateway, -, hsend⟩ := except_bind_ok_iff.mp hsend
    cases hsend
    rfl

theorem start_recognized {voice : VoiceContext} {gateway : VoiceGatewayClient}
    {protocolVersion : UInt16} {userIds : Finset String}
    (hstart : start voice gateway protocolVersion userIds = .ok h) :
    h.recognizedUserIds = insert voice.userId userIds := by
  obtain ⟨groupId, -, hstart⟩ := except_bind_ok_iff.mp hstart
  obtain ⟨sender, -, hstart⟩ := except_bind_ok_iff.mp hstart
  obtain ⟨session, -, hstart⟩ := except_bind_ok_iff.mp hstart
  obtain ⟨session, -, hstart⟩ := except_bind_ok_iff.mp hstart
  exact sendPendingJoinKeyPackage_recognized hstart

theorem takePrepared_recognized {transitionId : TransitionId} {reason : String}
    (htake : h.takePrepared transitionId reason = .ok h') :
    h'.recognizedUserIds = h.recognizedUserIds := by
  unfold takePrepared at htake
  split_ifs at htake
  · cases htake
    rfl
  · cases htake
    rfl

theorem notePrepared_recognized (h : ActiveDaveHandshake D) (transitionId : Option TransitionId)
    (protocolVersion : UInt16) :
    (h.notePrepared transitionId protocolVersion).recognizedUserIds = h.recognizedUserIds := by
  cases transitionId with
  | none => rfl
  | some transitionId => rfl

theorem executeTransition_recognizes (h : ActiveDaveHandshake D) (transitionId : TransitionId) :
    Recognizes h.recognizedUserIds (h.executeTransition transitionId) := by
  unfold executeTransition
  split
  · rename_i pending hpending
    refine .branch ?_ (.again rfl)
    rcases pending with ⟨id, runtime, source⟩
    cases source with
    | commitBacked => exact initialDaveState_recognizes h runtime _
    | welcomeBacked => exact initialDaveState_recognizes _ runtime _
  · exact .again rfl

theorem externalSenderPackage_recognizes (h : ActiveDaveHandshake D) (sender : Bytes) :
    Recognizes h.recognizedUserIds (h.externalSenderPackage sender) :=
  .bind fun _ _ ↦ .bind fun _ _ ↦ .again rfl

theorem prepareEpoch_recognizes (h : ActiveDaveHandshake D) (transitionId : Option TransitionId)
    (epoch : String) (protocolVersion : UInt16) :
    Recognizes h.recognizedUserIds (h.prepareEpoch transitionId epoch protocolVersion) := by
  refine .branch (.error _) (.branch (.error _) (.branch ?_ ?_))
  · exact .again (notePrepared_recognized h transitionId protocolVersion)
  · refine .bind fun h' hsend ↦ .again ?_
    rw [notePrepared_recognized, sendPendingJoinKeyPackage_recognized hsend]

theorem processProposals_recognizes (h : ActiveDaveHandshake D)
    (operation : DaveMlsProposalsOperation) (proposals : Bytes) :
    Recognizes h.recognizedUserIds (h.processProposals operation proposals) := by
  refine .branch (.error _) (.branch (.again rfl) ?_)
  refine .bind fun session _ ↦ .bind fun ⟨commitWelcome, session⟩ _ ↦ ?_
  cases commitWelcome with
  | none => exact .branch (.again rfl) (.error _)
  | some commitWelcome =>
    refine .bind fun parts _ ↦ .bind fun ⟨gateway, runtime⟩ _ ↦ ?_
    exact initialDaveState_recognizes { h with gateway } runtime _

theorem joinedGroup_recognizes (h : ActiveDaveHandshake D) (session : D.Session)
    (transitionId : TransitionId) (source : PendingDaveTransitionSource) :
    Recognizes h.recognizedUserIds (h.joinedGroup session transitionId source) := by
  refine .bind fun runtime _ ↦ .branch ?_ ?_
  · exact initialDaveState_recognizes _ runtime ∅
  · exact .bind fun gateway _ ↦ .again rfl

theorem processCommitTransition_recognizes (h : ActiveDaveHandshake D) (transitionId : TransitionId)
    (commit : Bytes) :
    Recognizes h.recognizedUserIds (h.processCommitTransition transitionId commit) := by
  refine .bind fun h' htake ↦ .bind fun session _ ↦ .bind fun ⟨result, session⟩ _ ↦ ?_
  rw [← takePrepared_recognized htake]
  refine .branch (.again rfl) (.branch (.error _) ?_)
  exact joinedGroup_recognizes h' session transitionId .commitBacked

theorem prepareCommitTransition_recognizes (h : ActiveDaveHandshake D) (transitionId : TransitionId)
    (commit : Bytes) :
    Recognizes h.recognizedUserIds (h.prepareCommitTransition transitionId commit) := by
  unfold prepareCommitTransition
  split
  · refine .branch (.branch (.error _) ?_) (processCommitTransition_recognizes h transitionId commit)
    exact initialDaveState_recognizes h _ _
  · exact processCommitTransition_recognizes h transitionId commit

theorem processWelcome_recognizes (h : ActiveDaveHandshake D) (transitionId : TransitionId)
    (welcome : Bytes) :
    Recognizes h.recognizedUserIds (h.processWelcome transitionId welcome) := by
  refine .bind fun h' htake ↦ .bind fun session _ ↦ .bind fun ⟨result, session⟩ _ ↦ ?_
  rw [← takePrepared_recognized htake]
  exact joinedGroup_recognizes h' session transitionId .welcomeBacked

theorem processEvent_recognizes (h : ActiveDaveHandshake D) {event : VoiceGatewayEvent}
    (hevent : ∀ userIds, event ≠ .clientsConnect userIds) :
    Recognizes h.recognizedUserIds (h.processEvent event) := by
  cases event
  case clientsConnect userIds => exact absurd rfl (hevent userIds)
  case davePrepareEpoch => exact prepareEpoch_recognizes h _ _ _
  case daveMlsProposals => exact processProposals_recognizes h _ _
  case daveMlsPrepareCommitTransition => exact prepareCommitTransition_recognizes h _ _
  case daveMlsWelcome => exact processWelcome_recognizes h _ _
  all_goals exact .again rfl

theorem turn_recognizes (h : ActiveDaveHandshake D) {received : HandshakeReceive}
    (hreceived : received.isRoster = false) : Recognizes h.recognizedUserIds (h.turn received) := by
  cases received with
  | failed err => exact .error err
  | elapsed => exact .branch (pendingInitialDaveState_recognizes h) (.error _)
  | sessionDescription version => exact .again rfl
  | externalSenderPackage sender =>
    exact .branch (.again rfl) (externalSenderPackage_recognizes h sender)
  | event event =>
    unfold turn
    split
    case h_3 => exact executeTransition_recognizes h _
    case h_4 =>
      refine .branch (.again rfl) (processEvent_recognizes h ?_)
      rintro userIds rfl
      simp_all [HandshakeReceive.isRoster]
    all_goals simp_all

end ActiveDaveHandshake

namespace ActiveParticipant

def recognizedUserIds : ActiveParticipant D → Finset String
  | .describing _ recognizedUserIds => recognizedUserIds
  | .negotiating handshake => handshake.recognizedUserIds
  | .connected session => session.daveRecognizedUserIds

/-- The loop that has the event takes it as it is meant: no other user that is recognised leaves
during the negotiation, nobody new comes while a transition is pending there, and the participant
itself does not leave once it is connected. -/
def Heeds (selfUserId : String) : ActiveParticipant D → HandshakeReceive → Prop
  | .negotiating handshake, .event (.clientsConnect userIds) =>
    handshake.pendingTransition.isSome → userIds.toFinset ⊆ handshake.recognizedUserIds
  | .negotiating handshake, .event (.clientDisconnect userId) =>
    userId = selfUserId ∨ userId ∉ handshake.recognizedUserIds
  | .connected _, .event (.clientDisconnect userId) => userId ≠ selfUserId
  | _, _ => True

section Steps

variable {voice : VoiceContext} {transport : VoiceUdpTransport} {ssrc : UInt32}
  {p p' : ActiveParticipant D} {received : HandshakeReceive}

theorem describe_roster {gateway : VoiceGatewayClient} {userIds : Finset String}
    (hself : voice.userId ∈ userIds)
    (h : describe voice gateway userIds received = .ok p') :
    p'.recognizedUserIds = received.roster voice.userId userIds := by
  unfold describe at h
  split at h
  · rename_i version
    cases hstart : ActiveDaveHandshake.start (D := D) voice gateway version userIds with
    | error err => simp [hstart] at h
    | ok handshake =>
      simp only [hstart, Functor.map, Except.map, Except.ok.injEq] at h
      subst h
      exact (ActiveDaveHandshake.start_recognized hstart).trans (Finset.insert_eq_of_mem hself)
  · cases h
    rfl
  · split_ifs at h with hother
    cases h
    exact (if_neg hother).symm
  · split_ifs at h
    cases h
    refine (HandshakeReceive.roster_of_not_isRoster ?_).symm
    unfold HandshakeReceive.isRoster
    split <;> simp_all
  · cases h
  · cases h
  · cases h

theorem ofTurn_recognized (turn : HandshakeTurn D) :
    (ofTurn voice transport ssrc turn).recognizedUserIds = turn.recognizedUserIds := by
  cases turn with
  | again handshake => rfl
  | done gateway dave => rfl

theorem turn_clientDisconnect (handshake : ActiveDaveHandshake D) (userId : String) :
    handshake.turn (.event (.clientDisconnect userId)) = .ok (.again handshake) := by
  simp only [ActiveDaveHandshake.turn, ActiveDaveHandshake.processEvent, ite_self]

theorem turn_clientsConnect (handshake : ActiveDaveHandshake D) (userIds : List String) :
    handshake.turn (.event (.clientsConnect userIds)) = .ok (.again
      { handshake with
        recognizedUserIds :=
          if handshake.pendingTransition.isSome then handshake.recognizedUserIds
          else handshake.recognizedUserIds ∪ userIds.toFinset }) := by
  simp only [ActiveDaveHandshake.turn, ActiveDaveHandshake.processEvent]
  split_ifs <;> rfl

theorem negotiating_roster_iff {handshake : ActiveDaveHandshake D} {turn : HandshakeTurn D}
    (h : handshake.turn received = .ok turn) :
    turn.recognizedUserIds = received.roster voice.userId handshake.recognizedUserIds ↔
      Heeds voice.userId (.negotiating handshake) received := by
  cases hroster : received.isRoster with
  | false =>
    rw [ActiveDaveHandshake.turn_recognizes handshake hroster turn h,
      HandshakeReceive.roster_of_not_isRoster hroster]
    refine iff_of_true rfl ?_
    unfold Heeds
    split <;> simp_all [HandshakeReceive.isRoster]
  | true =>
    unfold HandshakeReceive.isRoster at hroster
    split at hroster
    · rename_i userIds
      rw [turn_clientsConnect] at h
      cases h
      simp only [HandshakeTurn.recognizedUserIds, HandshakeReceive.roster, Heeds]
      split_ifs with hpending
      · simp [hpending]
      · simp [hpending]
    · rename_i userId
      rw [turn_clientDisconnect] at h
      cases h
      simp only [HandshakeTurn.recognizedUserIds, HandshakeReceive.roster, Heeds]
      split_ifs with hself
      · simp [hself]
      · rw [eq_comm, Finset.erase_eq_self]
        simp [hself]
    · cases hroster

theorem handleGatewayEvent_recognized {session : ConnectedVoiceSession D.toLibdave}
    {event : VoiceGatewayEvent} (hconnect : ∀ userIds, event ≠ .clientsConnect userIds)
    (hdisconnect : ∀ userId, event ≠ .clientDisconnect userId) :
    (stateAfter (handleGatewayEvent event session)).daveRecognizedUserIds =
      session.daveRecognizedUserIds :=
  congrArg Prod.snd
    ((DaveOnly.processGatewayEvent hconnect hdisconnect).failingClosed.frame session rfl)

theorem serve_roster_iff {session : ConnectedVoiceSession D.toLibdave}
    (hself : voice.userId ∈ session.daveRecognizedUserIds) :
    (serve session received).daveRecognizedUserIds =
        received.roster voice.userId session.daveRecognizedUserIds ↔
      Heeds voice.userId (.connected (D := D) session) received := by
  cases received with
  | event event =>
    cases event
    case clientsConnect userIds => exact iff_of_true rfl trivial
    case clientDisconnect userId =>
      have hserve : (serve session (.event (.clientDisconnect userId))).daveRecognizedUserIds =
          session.daveRecognizedUserIds.erase userId := rfl
      simp only [hserve, HandshakeReceive.roster, Heeds]
      split_ifs with hsame
      · simp [hsame, hself]
      · simp [hsame]
    all_goals exact iff_of_true (handleGatewayEvent_recognized (by simp) (by simp)) trivial
  | sessionDescription version => exact iff_of_true rfl trivial
  | externalSenderPackage sender => exact iff_of_true rfl trivial
  | elapsed => exact iff_of_true rfl trivial
  | failed err => exact iff_of_true rfl trivial

/-- A step follows the gateway exactly when the loop that has the event heeds it. -/
theorem step_roster_iff (hself : voice.userId ∈ p.recognizedUserIds)
    (h : step voice transport ssrc p received = some p') :
    p'.recognizedUserIds = received.roster voice.userId p.recognizedUserIds ↔
      Heeds voice.userId p received := by
  cases p with
  | describing gateway userIds =>
    simp only [step, toOption_eq_some] at h
    refine iff_of_true (describe_roster hself h) ?_
    unfold Heeds
    split <;> simp_all
  | negotiating handshake =>
    simp only [step, Option.map_eq_some_iff, toOption_eq_some] at h
    obtain ⟨turn, hturn, rfl⟩ := h
    rw [ofTurn_recognized]
    exact negotiating_roster_iff hturn
  | connected session =>
    simp only [step, Option.some.injEq] at h
    subst h
    exact serve_roster_iff hself

theorem step_of_not_heeds (h : ¬Heeds voice.userId p received) :
    ∃ p', step voice transport ssrc p received = some p' := by
  unfold Heeds at h
  split at h
  · rw [step, turn_clientsConnect]
    exact ⟨_, rfl⟩
  · rw [step, turn_clientDisconnect]
    exact ⟨_, rfl⟩
  · exact ⟨_, rfl⟩
  · exact absurd trivial h

end Steps

/-- The users who are there, by the events received so far. -/
def gatewayRoster (selfUserId : String) (received : List HandshakeReceive) : Finset String :=
  received.foldl (HandshakeReceive.roster selfUserId) {selfUserId}

/-- From the given users on, the participant has the users of the gateway at every point. -/
def FollowsFrom (voice : VoiceContext) (transport : VoiceUdpTransport) (ssrc : UInt32)
    (p : ActiveParticipant D) (userIds : Finset String) (received : List HandshakeReceive) : Prop :=
  ∀ before after p', received = before ++ after →
    exec (step voice transport ssrc) p before = some p' →
      p'.recognizedUserIds = before.foldl (HandshakeReceive.roster voice.userId) userIds

theorem followsFrom_cons {voice : VoiceContext} {transport : VoiceUdpTransport} {ssrc : UInt32}
    {p : ActiveParticipant D} {r : HandshakeReceive} {rs : List HandshakeReceive} :
    FollowsFrom voice transport ssrc p p.recognizedUserIds (r :: rs) ↔
      ∀ q, step voice transport ssrc p r = some q →
        FollowsFrom voice transport ssrc q (r.roster voice.userId p.recognizedUserIds) rs := by
  constructor
  · intro h q hq before after p' hsplit hexec
    refine h (r :: before) after p' (by rw [hsplit, List.cons_append]) ?_
    simpa only [exec, hq, Option.bind_some] using hexec
  · intro h before after p' hsplit hexec
    cases before with
    | nil =>
      simp only [exec, Option.some.injEq] at hexec
      rw [← hexec, List.foldl_nil]
    | cons b before =>
      rw [List.cons_append, List.cons.injEq] at hsplit
      obtain ⟨rfl, hrest⟩ := hsplit
      obtain ⟨q, hq, hexec⟩ := exec_cons hexec
      exact h q hq before after p' hrest hexec

theorem followsFrom_iff {voice : VoiceContext} {transport : VoiceUdpTransport} {ssrc : UInt32}
    {p : ActiveParticipant D} (hself : voice.userId ∈ p.recognizedUserIds)
    (received : List HandshakeReceive) :
    FollowsFrom voice transport ssrc p p.recognizedUserIds received ↔
      Throughout (step voice transport ssrc) (Heeds voice.userId) p received := by
  induction received generalizing p with
  | nil =>
    refine iff_of_true ?_ trivial
    intro before after p' hsplit hexec
    obtain ⟨rfl, -⟩ := List.append_eq_nil_iff.mp hsplit.symm
    simp only [exec, Option.some.injEq] at hexec
    rw [← hexec, List.foldl_nil]
  | cons r rs ih =>
    rw [followsFrom_cons]
    constructor
    · intro h
      have hheeds : Heeds voice.userId p r := by
        by_contra hnot
        obtain ⟨q, hq⟩ : ∃ q, step voice transport ssrc p r = some q := step_of_not_heeds hnot
        exact hnot ((step_roster_iff hself hq).mp (h q hq [] rs q rfl rfl))
      refine ⟨hheeds, fun q hq ↦ ?_⟩
      have hroster := (step_roster_iff hself hq).mpr hheeds
      refine (ih (hroster ▸ HandshakeReceive.self_mem_roster hself)).mp ?_
      rw [hroster]
      exact h q hq
    · rintro ⟨hheeds, hrest⟩ q hq
      have hroster := (step_roster_iff hself hq).mpr hheeds
      rw [← hroster]
      exact (ih (hroster ▸ HandshakeReceive.self_mem_roster hself)).mpr (hrest q hq)

/-- At every point of a run, from the wait for the session description to the connected session, the
recognised users are those of the gateway, exactly when no event of the run goes unheeded. -/
theorem recognized_eq_gatewayRoster_iff (voice : VoiceContext) (transport : VoiceUdpTransport)
    (ssrc : UInt32) (gateway : VoiceGatewayClient) (received : List HandshakeReceive) :
    (∀ before after (p : ActiveParticipant D), received = before ++ after →
      exec (step voice transport ssrc) (start voice gateway) before = some p →
        p.recognizedUserIds = gatewayRoster voice.userId before) ↔
    Throughout (step voice transport ssrc) (Heeds voice.userId) (start (D := D) voice gateway)
      received :=
  followsFrom_iff (p := start (D := D) voice gateway) (Finset.mem_singleton_self voice.userId) received

/-- A library that takes every welcome. -/
def joiningLibdave : HandshakeLibdave where
  Session := Unit
  Runtime := Unit
  ExternalSender := Unit
  newSession := .ok ()
  setExternalSender _ _ := .ok ()
  init _ _ _ _ := .ok ()
  keyPackage _ := .ok ([1], ())
  sessionProcessProposals _ _ _ _ := .ok (none, ())
  sessionProcessCommit _ _ := .ok (⟨false, false, [1]⟩, ())
  sessionProcessWelcome _ _ _ := .ok (⟨[1]⟩, ())
  fromSession _ := .ok ()
  protocolVersion _ := 1
  processProposals _ _ _ _ := (.ok none, ())
  processCommit _ _ := (.ok ⟨false, false, [1]⟩, ())
  processWelcome _ _ _ := (.ok ⟨[1]⟩, ())
  encryptAudioFrame _ payload := (.ok payload, ())
  splitCommitWelcome _ commitWelcome := .ok (commitWelcome, [])
  newExternalSender _ := .ok ()
  marshalledExternalSender _ := .ok []

/-- Where the events lead a participant that is user 7. -/
def led (received : List HandshakeReceive) : Option (Finset String) :=
  (exec (step (D := joiningLibdave) ⟨"1", "200", "7", "x", "a", "1"⟩ ⟨⟨9, .new, none⟩, .new⟩ 9)
    (start ⟨"1", "200", "7", "x", "a", "1"⟩ ⟨[], []⟩) received).map recognizedUserIds

/-- User 2 leaves during the negotiation and is recognised ever after; user 3 comes while a
transition is pending and is not recognised. -/
theorem negotiation_loses_users :
    (led [.event (.clientsConnect ["2"]), .sessionDescription 1, .event (.clientDisconnect "2")] =
        some {"7", "2"} ∧
      gatewayRoster "7" [.event (.clientsConnect ["2"]), .sessionDescription 1,
        .event (.clientDisconnect "2")] = {"7"}) ∧
    (led [.sessionDescription 1, .event (.daveMlsWelcome 5 []), .event (.clientsConnect ["3"])] =
        some {"7"} ∧
      gatewayRoster "7" [.sessionDescription 1, .event (.daveMlsWelcome 5 []),
        .event (.clientsConnect ["3"])] = {"7", "3"}) := by
  decide

end ActiveParticipant

end DiscordVoice.Voice
