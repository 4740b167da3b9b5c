import DiscordVoice.Voice.DaveRuns

namespace DiscordVoice.Voice

open Fallible Schedule

variable {D : Libdave}

theorem removePrepared_unprepared {id : TransitionId} {s : ConnectedVoiceSession D}
    (h : s.pendingDavePreparedTransitions.contains id = false) :
    removePrepared id s = .ok () s := by
  simp only [removePrepared, modify_apply, SortedMap.remove_of_not_contains h]

theorem readyPendingTransition_ok {id : TransitionId} {r : D.Runtime}
    {source : PendingDaveTransitionSource} {s t : ConnectedVoiceSession D}
    (h : readyPendingTransition id r source s = .ok () t) :
    ∃ gateway, t = { s with pendingDaveTransition := some ⟨id, r, source⟩, gateway } := by
  simp only [readyPendingTransition, modify_bind_apply, branch_apply] at h
  split at h
  · simp only [pure_apply, EStateM.Result.ok.injEq, true_and] at h
    exact ⟨s.gateway, h.symm⟩
  · obtain ⟨gateway, rfl⟩ := sendGateway_ok (failingClosed_ok h)
    exact ⟨some gateway, rfl⟩

theorem consumePreparedTransition_ok {id : TransitionId} {v : UInt16}
    {s t : ConnectedVoiceSession D} (h : consumePreparedTransition id s = .ok v t) :
    t = { s with
      pendingDavePreparedTransitions := s.pendingDavePreparedTransitions.remove id } := by
  simp only [consumePreparedTransition, get_bind_apply] at h
  rw [orFail_bind_ok] at h
  obtain ⟨_, -, h⟩ := h
  simp only [removePrepared, modify_bind_apply, pure_apply, EStateM.Result.ok.injEq] at h
  exact h.2.symm

/-- What makes a commit for a transition that is not announced a message to be ignored. -/
structure CommitSettled (id : TransitionId) (s : ConnectedVoiceSession D) : Prop where
  unprepared : s.pendingDavePreparedTransitions.contains id = false
  known : id ∈ s.invalidatedDaveTransitionIds ∨ id ∈ s.completedWelcomeBackedDaveTransitionIds ∨
    (id ∈ s.completedLocalInitCommitTransitionIds ∧
      s.pendingDaveLocalInitCommitEchoes.get? id = none) ∨
    (id ∉ s.completedLocalInitCommitTransitionIds ∧
      (s.pendingDaveTransition.isSome ∨ s.pendingDaveLocalCommitTransition = none))

theorem commit_ignored {id : TransitionId} {s : ConnectedVoiceSession D} (h : CommitSettled id s)
    (commit : Bytes) : prepareRemoteCommitTransition id commit s = .ok () s := by
  have hremove := removePrepared_unprepared h.unprepared
  simp only [prepareRemoteCommitTransition, get_bind_apply, branch_apply, h.unprepared,
    Bool.not_false, and_true]
  by_cases hinvalid : id ∈ s.invalidatedDaveTransitionIds
  · rw [if_pos hinvalid]
    exact hremove
  rw [if_neg hinvalid]
  by_cases hwelcome : id ∈ s.completedWelcomeBackedDaveTransitionIds
  · rw [if_pos hwelcome]
    rfl
  rw [if_neg hwelcome]
  rcases h.known with hknown | hknown | ⟨hlocal, hecho⟩ | ⟨hlocal, hrest⟩
  · exact absurd hknown hinvalid
  · exact absurd hknown hwelcome
  · rw [if_pos hlocal]
    simp only [confirmLocalInitCommit, get_bind_apply, hecho]
    exact hremove
  · rw [if_neg hlocal]
    split_ifs with hsame hpending
    · rfl
    · rfl
    · simp only [hrest.resolve_left hpending]
      rfl

theorem reinitialize_ok {id : TransitionId} {version : UInt16} {s t : ConnectedVoiceSession D}
    (h : reinitializeDaveSessionAfterInvalidCommit id version s = .ok () t) :
    id ∈ t.invalidatedDaveTransitionIds ∧ t.pendingDavePreparedTransitions = .empty := by
  simp only [reinitializeDaveSessionAfterInvalidCommit, get_bind_apply] at h
  rw [orFail_bind_ok] at h
  obtain ⟨_, -, h⟩ := h
  rw [orFail_bind_ok] at h
  obtain ⟨_, -, h⟩ := h
  rw [bind_ok_iff] at h
  obtain ⟨_, _, h₃, h⟩ := h
  rw [bind_ok_iff] at h
  obtain ⟨⟨_, _⟩, _, h₄, h⟩ := h
  rw [bind_ok_iff] at h
  obtain ⟨_, _, h₅, h⟩ := h
  rw [bind_ok_iff] at h
  obtain ⟨_, _, h₆, h⟩ := h
  simp only [modify_apply, EStateM.Result.ok.injEq, true_and] at h
  subst h
  exact ⟨Finset.mem_insert_self .., rfl⟩

theorem processDeferredLocalCommit_settled {id : TransitionId} {commit : Bytes}
    {pending : PendingLocalDaveCommitTransition D} {s t : ConnectedVoiceSession D}
    (h : processDeferredLocalCommit id commit pending s = .ok () t)
    (hlocal : id ∉ s.completedLocalInitCommitTransitionIds) : CommitSettled id t := by
  simp only [processDeferredLocalCommit, removePrepared, modify_bind_apply] at h
  rcases hp : D.processCommit pending.runtime commit with ⟨e | result, runtime⟩
  · simp only [hp] at h
    obtain ⟨hinvalid, hempty⟩ := reinitialize_ok h
    exact ⟨by rw [hempty, SortedMap.contains_empty], .inl hinvalid⟩
  · simp only [hp, branch_apply] at h
    split at h
    · cases h
    · obtain ⟨gateway, rfl⟩ := readyPendingTransition_ok h
      exact ⟨SortedMap.contains_remove .., .inr (.inr (.inr ⟨hlocal, .inl rfl⟩))⟩

theorem processAnnouncedCommit_settled {id : TransitionId} {commit : Bytes}
    {s t : ConnectedVoiceSession D} (hlocal : id ∉ s.completedLocalInitCommitTransitionIds)
    (hnone : s.pendingDaveLocalCommitTransition = none)
    (h : processAnnouncedCommit id commit s = .ok () t) : CommitSettled id t := by
  rw [processAnnouncedCommit, bind_ok_iff] at h
  obtain ⟨_, u, h₁, h⟩ := h
  cases consumePreparedTransition_ok h₁
  rw [bind_ok_iff] at h
  obtain ⟨runtime, _, h₂, h⟩ := h
  obtain ⟨-, rfl⟩ := takeDave_ok h₂
  rcases hp : D.processCommit runtime commit with ⟨e | result, runtime'⟩
  · simp [hp] at h
  · simp only [hp, branch_apply] at h
    split_ifs at h
    · simp only [modify_apply, EStateM.Result.ok.injEq, true_and] at h
      subst h
      exact ⟨SortedMap.contains_remove .., .inr (.inr (.inr ⟨hlocal, .inr hnone⟩))⟩
    · cases h
    · obtain ⟨gateway, rfl⟩ := readyPendingTransition_ok h
      exact ⟨SortedMap.contains_remove .., .inr (.inr (.inr ⟨hlocal, .inl rfl⟩))⟩

theorem confirmLocalInitCommit_settled {id : TransitionId} {commit : Bytes}
    {s t : ConnectedVoiceSession D} (hlocal : id ∈ s.completedLocalInitCommitTransitionIds)
    (h : confirmLocalInitCommit id commit s = .ok () t) : CommitSettled id t := by
  simp only [confirmLocalInitCommit, get_bind_apply] at h
  cases he : s.pendingDaveLocalInitCommitEchoes.get? id with
  | none =>
    simp only [he, removePrepared, modify_apply, EStateM.Result.ok.injEq, true_and] at h
    subst h
    exact ⟨SortedMap.contains_remove .., .inr (.inr (.inl ⟨hlocal, he⟩))⟩
  | some expected =>
    simp only [he, set_bind_apply, branch_apply] at h
    split at h
    · cases h
    · simp only [removePrepared, modify_apply, EStateM.Result.ok.injEq, true_and] at h
      subst h
      refine ⟨SortedMap.contains_remove .., .inr (.inr (.inl ⟨hlocal, ?_⟩))⟩
      exact SortedMap.contains_eq_false_iff.1 (SortedMap.contains_remove ..)

/-- A commit that was taken leaves the session as it was or with nothing left to do about it. -/
theorem prepareRemoteCommitTransition_settled {id : TransitionId} {commit : Bytes}
    {s t : ConnectedVoiceSession D} (h : prepareRemoteCommitTransition id commit s = .ok () t) :
    t = s ∨ CommitSettled id t := by
  have hinvalid (hmem : id ∈ s.invalidatedDaveTransitionIds)
      (hr : removePrepared id s = .ok () t) : CommitSettled id t := by
    simp only [removePrepared, modify_apply, EStateM.Result.ok.injEq, true_and] at hr
    subst hr
    exact ⟨SortedMap.contains_remove .., .inl hmem⟩
  cases hl : s.pendingDaveLocalCommitTransition with
  | some pending =>
    simp only [prepareRemoteCommitTransition, get_bind_apply, branch_apply, hl,
      set_bind_apply] at h
    split_ifs at h with hmem hwelcome hlocal hsame hpending
    · exact .inr (hinvalid hmem h)
    · cases h
      exact .inl rfl
    · exact .inr (confirmLocalInitCommit_settled hlocal h)
    · cases h
      exact .inl rfl
    · cases h
      exact .inl rfl
    · exact .inr (processDeferredLocalCommit_settled h hlocal)
  | none =>
    simp only [prepareRemoteCommitTransition, get_bind_apply, branch_apply, hl] at h
    split_ifs at h with hmem hwelcome hlocal hsame hpending hprepared
    · exact .inr (hinvalid hmem h)
    · cases h
      exact .inl rfl
    · exact .inr (confirmLocalInitCommit_settled hlocal h)
    · cases h
      exact .inl rfl
    · cases h
      exact .inl rfl
    · cases h
      exact .inl rfl
    · exact .inr (processAnnouncedCommit_settled hlocal hl h)

theorem commit_redelivered {id : TransitionId} {commit : Bytes} {s t : ConnectedVoiceSession D}
    (h : prepareRemoteCommitTransition id commit s = .ok () t) :
    prepareRemoteCommitTransition id commit t = .ok () t := by
  rcases prepareRemoteCommitTransition_settled h with rfl | hsettled
  · exact h
  · exact commit_ignored hsettled commit

theorem execute_redelivered {id : TransitionId} {s t : ConnectedVoiceSession D}
    (h : executeTransition id s = .ok () t) : executeTransition id t = .ok () t := by
  simp only [executeTransition, get_bind_apply] at h ⊢
  cases hp : s.pendingDaveTransition with
  | none =>
    simp only [hp, pure_apply, EStateM.Result.ok.injEq, true_and] at h
    subst h
    simp only [hp]
    rfl
  | some pending =>
    simp only [hp, branch_apply] at h
    split_ifs at h
    · simp only [set_apply, EStateM.Result.ok.injEq, true_and] at h
      subst h
      rfl
    · cases h

/-- The transition is one the session knows to be over. -/
def WelcomeKnown (id : TransitionId) (s : ConnectedVoiceSession D) : Prop :=
  id ∈ s.invalidatedDaveTransitionIds ∨ id ∈ s.completedWelcomeBackedDaveTransitionIds ∨
    id ∈ s.completedLocalInitCommitTransitionIds

theorem welcome_ignored {id : TransitionId} {s : ConnectedVoiceSession D}
    (hunprepared : s.pendingDavePreparedTransitions.contains id = false)
    (hknown : WelcomeKnown id s) (welcome : Bytes) :
    prepareWelcomeTransition id welcome s = .ok () s := by
  have hremove := removePrepared_unprepared hunprepared
  simp only [prepareWelcomeTransition, get_bind_apply, branch_apply, hunprepared, Bool.not_false,
    and_true]
  split_ifs with hinvalid hwelcome hlocal
  · exact hremove
  · rfl
  · exact hremove
  · rcases hknown with h | h | h
    · exact absurd h hinvalid
    · exact absurd h hwelcome
    · exact absurd h hlocal

/-- What is left after a welcome that made a transition ready. -/
structure WelcomeTaken (id : TransitionId) (s t : ConnectedVoiceSession D) : Prop where
  unprepared : t.pendingDavePreparedTransitions.contains id = false
  initial : t.pendingInitialDave = none
  known : WelcomeKnown id t ↔ WelcomeKnown id s

theorem preparePendingInitialWelcome_taken {id : TransitionId} {welcome : Bytes}
    {pending : PendingInitialDaveSession D} {s t : ConnectedVoiceSession D}
    (hunprepared : s.pendingDavePreparedTransitions.contains id = false)
    (hinitial : s.pendingInitialDave = none)
    (h : preparePendingInitialWelcomeTransition id welcome pending s = .ok () t) :
    WelcomeTaken id s t := by
  simp only [preparePendingInitialWelcomeTransition, get_bind_apply] at h
  rw [okOrFail_bind_ok] at h
  obtain ⟨⟨result, session⟩, -, h⟩ := h
  simp only [branch_apply] at h
  split_ifs at h
  · cases h
  · rw [okOrFail_bind_ok] at h
    obtain ⟨runtime, -, h⟩ := h
    simp only [modify_bind_apply] at h
    obtain ⟨gateway, rfl⟩ := readyPendingTransition_ok h
    exact ⟨hunprepared, hinitial, Iff.rfl⟩

theorem processAnnouncedWelcome_taken {id : TransitionId} {welcome : Bytes}
    {s t : ConnectedVoiceSession D} (hinitial : s.pendingInitialDave = none)
    (h : processAnnouncedWelcome id welcome s = .ok () t) : WelcomeTaken id s t := by
  rw [processAnnouncedWelcome, bind_ok_iff] at h
  obtain ⟨_, u, h₁, h⟩ := h
  cases consumePreparedTransition_ok h₁
  rw [bind_ok_iff] at h
  obtain ⟨runtime, _, h₂, h⟩ := h
  obtain ⟨-, rfl⟩ := takeDave_ok h₂
  simp only [get_bind_apply] at h
  rcases hp : D.processWelcome runtime welcome s.daveRecognizedUserIds with ⟨e | result, runtime'⟩
  · simp [hp] at h
  · simp only [hp, branch_apply] at h
    split_ifs at h
    · cases h
    · obtain ⟨gateway, rfl⟩ := readyPendingTransition_ok h
      exact ⟨SortedMap.contains_remove .., hinitial, Iff.rfl⟩

theorem prepareWelcomeTransition_cases {id : TransitionId} {welcome : Bytes}
    {s t : ConnectedVoiceSession D} (h : prepareWelcomeTransition id welcome s = .ok () t) :
    (WelcomeKnown id s ∧ prepareWelcomeTransition id welcome t = .ok () t) ∨
      WelcomeTaken id s t := by
  have hfirst := h
  simp only [prepareWelcomeTransition, get_bind_apply, branch_apply] at h
  split_ifs at h with hinvalid hwelcome hlocal
  · simp only [removePrepared, modify_apply, EStateM.Result.ok.injEq, true_and] at h
    subst h
    refine .inl ⟨.inl hinvalid, welcome_ignored ?_ ?_ welcome⟩
    · exact SortedMap.contains_remove ..
    · exact .inl hinvalid
  · cases h
    exact .inl ⟨.inr (.inl hwelcome.1), hfirst⟩
  · simp only [removePrepared, modify_apply, EStateM.Result.ok.injEq, true_and] at h
    subst h
    refine .inl ⟨.inr (.inr hlocal), welcome_ignored ?_ ?_ welcome⟩
    · exact SortedMap.contains_remove ..
    · exact .inr (.inr hlocal)
  · refine .inr ?_
    cases hi : s.pendingInitialDave with
    | some pending =>
      simp only [hi, set_bind_apply, removePrepared, modify_bind_apply] at h
      have htaken := preparePendingInitialWelcome_taken (SortedMap.contains_remove ..) rfl h
      exact ⟨htaken.unprepared, htaken.initial, htaken.known⟩
    | none =>
      simp only [hi] at h
      exact processAnnouncedWelcome_taken hi h

/-- A second welcome for a transition that is waiting to be executed is an error. -/
theorem welcome_refused {id : TransitionId} {s t : ConnectedVoiceSession D}
    (htaken : WelcomeTaken id s t) (hunknown : ¬WelcomeKnown id s) (welcome : Bytes) :
    prepareWelcomeTransition id welcome t =
      .error (.invalidState "voice dave transition missing prepared epoch") t := by
  have hnot : ¬WelcomeKnown id t := fun hknown ↦ hunknown (htaken.known.1 hknown)
  simp only [WelcomeKnown, not_or] at hnot
  simp only [prepareWelcomeTransition, get_bind_apply, branch_apply, hnot.1, hnot.2.1, hnot.2.2,
    if_false, false_and, htaken.initial, processAnnouncedWelcome, consumePreparedTransition]
  rw [bind_apply]
  simp only [get_bind_apply, SortedMap.contains_eq_false_iff.1 htaken.unprepared]
  rfl

theorem welcome_redelivered_iff {id : TransitionId} {welcome : Bytes}
    {s t : ConnectedVoiceSession D} (h : prepareWelcomeTransition id welcome s = .ok () t) :
    prepareWelcomeTransition id welcome t = .ok () t ↔ WelcomeKnown id s := by
  rcases prepareWelcomeTransition_cases h with ⟨hknown, hsame⟩ | htaken
  · exact ⟨fun _ ↦ hknown, fun _ ↦ hsame⟩
  · constructor
    · intro hsame
      by_contra hunknown
      rw [welcome_refused htaken hunknown] at hsame
      cases hsame
    · intro hknown
      exact welcome_ignored htaken.unprepared (htaken.known.2 hknown) welcome

def VoiceGatewayEvent.movesGroup : VoiceGatewayEvent → Bool
  | .daveMlsPrepareCommitTransition _ _ | .daveMlsWelcome _ _ | .daveExecuteTransition _ => true
  | _ => false

/-- A message delivered twice does what it does once, for a welcome exactly when its transition is
one the session knew to be over. -/
theorem redelivery_harmless_iff {event : VoiceGatewayEvent} {s t : ConnectedVoiceSession D}
    (hevent : event.movesGroup = true) (h : processGatewayEventForDave event s = .ok () t) :
    processGatewayEventForDave event t = .ok () t ↔
      ∀ id welcome, event = .daveMlsWelcome id welcome → WelcomeKnown id s := by
  cases event with
  | daveMlsPrepareCommitTransition id commit =>
    exact ⟨fun _ _ _ heq ↦ (by cases heq), fun _ ↦ commit_redelivered h⟩
  | daveExecuteTransition id =>
    exact ⟨fun _ _ _ heq ↦ (by cases heq), fun _ ↦ execute_redelivered h⟩
  | daveMlsWelcome id welcome =>
    have hiff := welcome_redelivered_iff h
    constructor
    · intro hsame other otherWelcome heq
      cases heq
      exact hiff.1 hsame
    · intro hknown
      exact hiff.2 (hknown id welcome rfl)
  | _ => cases hevent

theorem redelivery_harmless_iff_commit :
    ∃ s t : ConnectedVoiceSession markerDave,
      exec drainStep markerSession [.gatewayEvent (.davePrepareTransition 5 1)] = some s ∧
      processGatewayEventForDave (.daveMlsPrepareCommitTransition 5 [0xC1]) s = .ok () t ∧
      processGatewayEventForDave (.daveMlsPrepareCommitTransition 5 [0xC1]) t = .ok () t := by
  refine ⟨_, _, rfl, rfl, ?_⟩
  refine (redelivery_harmless_iff (s := stateAfter
    (handleGatewayEvent (.davePrepareTransition 5 1) markerSession)) rfl rfl).2 ?_
  intro id welcome heq
  cases heq

/-- A welcome that comes a second time before its transition is executed fails the session. -/
theorem redelivered_welcome_fails :
    ∃ s t : ConnectedVoiceSession markerDave,
      exec drainStep markerSession [.gatewayEvent (.davePrepareTransition 5 1)] = some s ∧
      processGatewayEventForDave (.daveMlsWelcome 5 [0xE1]) s = .ok () t ∧
      processGatewayEventForDave (.daveMlsWelcome 5 [0xE1]) t =
        .error (.invalidState "voice dave transition missing prepared epoch") t ∧
      (stateAfter (handleGatewayEvent (.daveMlsWelcome 5 [0xE1]) t)).daveFailedClosed = true :=
  ⟨_, _, rfl, rfl, rfl, rfl⟩

end DiscordVoice.Voice
