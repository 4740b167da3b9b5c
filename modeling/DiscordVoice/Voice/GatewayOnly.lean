import DiscordVoice.Fallible
import DiscordVoice.Voice.Drain

namespace DiscordVoice.Voice

open Fallible

variable {D : Libdave} {α β : Type}

abbrev MediaRecord := Bool × Bool × List (Bytes × Bytes) × Option VoiceUdpTransport

/-- What a session keeps for its media path, outside the reach of the event handlers. -/
def mediaRecord (s : ConnectedVoiceSession D) : MediaRecord :=
  (s.gatewayReceiveClosed, s.speakingStarted, s.handedToTransport, s.transport)

/-- A step that leaves the media path's record at `r` and whose failures are never taken for the
close of the gateway. -/
structure GatewayOnly (r : MediaRecord) (x : SessionM D α) : Prop where
  error : ∀ s err t, mediaRecord s = r → x s = .error err t → err.isGatewayClosedDuringReceive = false
  frame : Preserves (mediaRecord · = r) x

/-- The same, with the users the session recognises. -/
def handlerRecord (s : ConnectedVoiceSession D) :
    MediaRecord × Finset String :=
  (mediaRecord s, s.daveRecognizedUserIds)

/-- A step that leaves the recognised users alone as well. -/
structure DaveOnly (r : MediaRecord × Finset String) (x : SessionM D α) :
    Prop where
  error : ∀ s err t, handlerRecord s = r → x s = .error err t → err.isGatewayClosedDuringReceive = false
  frame : Preserves (handlerRecord · = r) x

theorem failingClosed_error {x : SessionM D Unit} {s t : ConnectedVoiceSession D} {err : VoiceError}
    (h : failingClosed x s = .error err t) : ∃ u, x s = .error err u := by
  cases hx : x s with
  | ok a u => simp [failingClosed, hx] at h
  | error e u =>
    simp only [failingClosed, hx] at h
    cases h
    exact ⟨u, rfl⟩

theorem failingClosed_preserves {I : ConnectedVoiceSession D → Prop} {x : SessionM D Unit}
    (hI : ∀ s, I s → I (failDaveClosed s)) (hx : Preserves I x) : Preserves I (failingClosed x) := by
  intro s hs
  have hu := hx s hs
  unfold failingClosed
  cases hxs : x s with
  | ok a u =>
    rw [hxs] at hu
    exact hu
  | error e u =>
    rw [hxs] at hu
    exact hI u hu

namespace DaveOnly

variable {r : MediaRecord × Finset String}

theorem bind {x : SessionM D α} {f : α → SessionM D β} (hx : DaveOnly r x)
    (hf : ∀ a, DaveOnly r (f a)) : DaveOnly r (x >>= f) := by
  refine ⟨fun s err t hs h ↦ ?_, hx.frame.bind fun a ↦ (hf a).frame⟩
  rw [bind_apply] at h
  cases hxs : x s with
  | ok a u =>
    rw [hxs] at h
    exact (hf a).error u err t (hx.frame.ok hs hxs) h
  | error e u =>
    rw [hxs] at h
    cases h
    exact hx.error s _ _ hs hxs

theorem getBind {f : ConnectedVoiceSession D → SessionM D β}
    (hf : ∀ s, handlerRecord s = r → DaveOnly r (f s)) :
    DaveOnly r ((get : SessionM D (ConnectedVoiceSession D)) >>= f) where
  error s err t hs h := (hf s hs).error s err t hs h
  frame := .get_bind fun s hs ↦ (hf s hs).frame

theorem branch {c : Prop} [Decidable c] {x y : SessionM D α} (hx : DaveOnly r x)
    (hy : DaveOnly r y) : DaveOnly r (if c then x else y) := by
  split <;> assumption

theorem pure (a : α) : DaveOnly r (pure a : SessionM D α) where
  error _ _ _ _ h := by cases h
  frame _ hs := hs

theorem set {u : ConnectedVoiceSession D} (hu : handlerRecord u = r) :
    DaveOnly r (set u : SessionM D PUnit) where
  error _ _ _ _ h := by cases h
  frame _ _ := hu

theorem modify {g : ConnectedVoiceSession D → ConnectedVoiceSession D}
    (hg : ∀ s, handlerRecord (g s) = handlerRecord s) :
    DaveOnly r (modify g : SessionM D PUnit) where
  error _ _ _ _ h := by cases h
  frame s hs := (hg s).trans hs

theorem failState {reason : String} (h : reason ≠ "voice gateway closed during receive") :
    DaveOnly r (failState reason : SessionM D α) where
  error _ _ _ _ he := by
    cases he
    simpa [VoiceError.isGatewayClosedDuringReceive] using h
  frame _ hs := hs

theorem orFail {reason : String} (h : reason ≠ "voice gateway closed during receive")
    (a : Option α) : DaveOnly r (orFail reason a : SessionM D α) := by
  cases a with
  | none => exact failState h
  | some a => exact pure a

theorem okOrFail {reason : String} (h : reason ≠ "voice gateway closed during receive")
    (a : Except DaveError α) : DaveOnly r (okOrFail reason a : SessionM D α) := by
  cases a with
  | error e => exact failState h
  | ok a => exact pure a

theorem failingClosed {x : SessionM D Unit} (hx : DaveOnly r x) : DaveOnly r (failingClosed x) where
  error s err t hs h := by
    obtain ⟨u, hu⟩ := failingClosed_error h
    exact hx.error s err u hs hu
  frame := failingClosed_preserves (fun _ hs ↦ hs) hx.frame

theorem webSocketError (detail : String) :
    DaveOnly r (throw (.webSocket detail) : SessionM D α) where
  error _ _ _ _ h := by
    cases h
    rfl
  frame _ hs := hs

theorem sendGateway (message : GatewayMessage) :
    DaveOnly r (sendGateway message : SessionM D Unit) := by
  refine getBind fun s hs ↦ bind (orFail (by decide) _) fun gateway ↦ ?_
  split
  · exact bind (set hs) fun _ ↦ webSocketError _
  · exact set hs

theorem prepareTransition (transitionId : TransitionId) (protocolVersion : UInt16) :
    DaveOnly r (prepareTransition transitionId protocolVersion : SessionM D Unit) :=
  getBind fun _ hs ↦ branch (pure _) (branch (failState (by decide)) (set hs))

theorem removePrepared (transitionId : TransitionId) :
    DaveOnly r (removePrepared transitionId : SessionM D Unit) := modify fun _ ↦ rfl

theorem consumePreparedTransition (transitionId : TransitionId) :
    DaveOnly r (consumePreparedTransition transitionId : SessionM D UInt16) :=
  getBind fun _ hs ↦ bind (orFail (by decide) _) fun _ ↦
    bind (removePrepared transitionId) fun _ ↦ pure _

theorem takeDave : DaveOnly r (takeDave : SessionM D D.Runtime) :=
  getBind fun _ hs ↦ bind (set hs) fun _ ↦ orFail (by decide) _

theorem readyPendingTransition (transitionId : TransitionId) (runtime : D.Runtime)
    (source : PendingDaveTransitionSource) :
    DaveOnly r (readyPendingTransition transitionId runtime source) :=
  bind (modify fun _ ↦ rfl) fun _ ↦ branch (pure _) (failingClosed (sendGateway _))

theorem freshDaveSession (protocolVersion : UInt16) (groupId : ℕ) (externalSenderBytes : Bytes)
    (userId : String) : DaveOnly (D := D) r
      (freshDaveSession protocolVersion groupId externalSenderBytes userId) :=
  bind (okOrFail (by decide) _) fun _ ↦ bind (okOrFail (by decide) _) fun _ ↦
    okOrFail (by decide) _

theorem reinitialize (transitionId : TransitionId) (protocolVersion : UInt16) :
    DaveOnly (D := D) r
      (reinitializeDaveSessionAfterInvalidCommit transitionId protocolVersion) :=
  getBind fun _ hs ↦ bind (orFail (by decide) _) fun _ ↦ bind (orFail (by decide) _) fun _ ↦
    bind (freshDaveSession ..) fun _ ↦ bind (okOrFail (by decide) _) fun _ ↦
      bind (sendGateway _) fun _ ↦ bind (sendGateway _) fun _ ↦ modify fun _ ↦ rfl

theorem processDeferredLocalCommit (transitionId : TransitionId) (commit : Bytes)
    (pending : PendingLocalDaveCommitTransition D) :
    DaveOnly r (processDeferredLocalCommit transitionId commit pending) := by
  refine bind (removePrepared _) fun _ ↦ ?_
  split
  · exact reinitialize _ _
  · exact branch (failState (by decide)) (readyPendingTransition ..)

theorem processAnnouncedCommit (transitionId : TransitionId) (commit : Bytes) :
    DaveOnly (D := D) r (processAnnouncedCommit transitionId commit) := by
  refine bind (consumePreparedTransition _) fun _ ↦ bind takeDave fun _ ↦ ?_
  split
  · exact failState (by decide)
  · exact branch (modify fun _ ↦ rfl) (branch (failState (by decide)) (readyPendingTransition ..))

theorem confirmLocalInitCommit (transitionId : TransitionId) (commit : Bytes) :
    DaveOnly (D := D) r (confirmLocalInitCommit transitionId commit) := by
  refine getBind fun _ hs ↦ ?_
  split
  · exact bind (set hs) fun _ ↦ branch (failState (by decide)) (removePrepared _)
  · exact removePrepared _

theorem prepareRemoteCommitTransition (transitionId : TransitionId) (commit : Bytes) :
    DaveOnly (D := D) r (prepareRemoteCommitTransition transitionId commit) := by
  refine getBind fun _ hs ↦ branch (removePrepared _) (branch (pure _)
    (branch (confirmLocalInitCommit ..) (branch (pure _) (branch (pure _) ?_))))
  split
  · exact bind (set hs) fun _ ↦ processDeferredLocalCommit ..
  · exact branch (pure _) (processAnnouncedCommit ..)

theorem preparePendingInitialWelcomeTransition (transitionId : TransitionId) (welcome : Bytes)
    (pendingInitial : PendingInitialDaveSession D) :
    DaveOnly r
      (preparePendingInitialWelcomeTransition transitionId welcome pendingInitial) :=
  getBind fun _ hs ↦ bind (okOrFail (by decide) _) fun _ ↦ branch (failState (by decide))
    (bind (okOrFail (by decide) _) fun _ ↦ bind (modify fun _ ↦ rfl) fun _ ↦ readyPendingTransition ..)

theorem processAnnouncedWelcome (transitionId : TransitionId) (welcome : Bytes) :
    DaveOnly (D := D) r (processAnnouncedWelcome transitionId welcome) := by
  refine bind (consumePreparedTransition _) fun _ ↦ bind takeDave fun _ ↦ getBind fun _ hs ↦ ?_
  split
  · exact failState (by decide)
  · exact branch (failState (by decide)) (readyPendingTransition ..)

theorem prepareWelcomeTransition (transitionId : TransitionId) (welcome : Bytes) :
    DaveOnly (D := D) r (prepareWelcomeTransition transitionId welcome) := by
  refine getBind fun _ hs ↦ branch (removePrepared _) (branch (pure _)
    (branch (removePrepared _) ?_))
  split
  · exact bind (set hs) fun _ ↦ bind (removePrepared _) fun _ ↦
      preparePendingInitialWelcomeTransition ..
  · exact processAnnouncedWelcome ..

theorem applyLocalCommit (externalSender : D.ExternalSender) (session : D.Session)
    (commitWelcome : Bytes) :
    DaveOnly r (applyLocalCommit externalSender session commitWelcome) :=
  bind (okOrFail (by decide) _) fun _ ↦ bind (sendGateway _) fun _ ↦
    bind (okOrFail (by decide) _) fun _ ↦ branch (failState (by decide))
      (bind (okOrFail (by decide) _) fun _ ↦ bind (modify fun _ ↦ rfl) fun _ ↦ pure _)

theorem prepareInitialEpochLocalCommitTransition (operation : DaveMlsProposalsOperation)
    (proposals : Bytes) (protocolVersion : UInt16) : DaveOnly (D := D) r
      (prepareInitialEpochLocalCommitTransition operation proposals protocolVersion) :=
  getBind fun _ hs ↦ bind (orFail (by decide) _) fun _ ↦ bind (orFail (by decide) _) fun _ ↦
    bind (orFail (by decide) _) fun _ ↦ bind (freshDaveSession ..) fun _ ↦
      bind (okOrFail (by decide) _) fun _ ↦ bind (orFail (by decide) _) fun _ ↦
        bind (applyLocalCommit ..) fun _ ↦ modify fun _ ↦ rfl

theorem preparePendingInitialLocalCommitTransition (operation : DaveMlsProposalsOperation)
    (proposals : Bytes) (pendingInitial : PendingInitialDaveSession D)
    (transitionId : Option TransitionId) : DaveOnly r
      (preparePendingInitialLocalCommitTransition operation proposals pendingInitial
        transitionId) := by
  refine getBind fun _ hs ↦ bind (orFail (by decide) _) fun _ ↦
    bind (okOrFail (by decide) _) fun ⟨commitWelcome, session⟩ ↦ ?_
  cases commitWelcome with
  | none => exact modify fun _ ↦ rfl
  | some commitWelcome =>
    refine bind (applyLocalCommit ..) fun _ ↦ bind (modify fun _ ↦ rfl) fun _ ↦ ?_
    split
    · exact bind (consumePreparedTransition _) fun _ ↦
        branch (bind takeDave fun _ ↦ readyPendingTransition ..) (modify fun _ ↦ rfl)
    · exact modify fun _ ↦ rfl

theorem deferLocalCommit (runtime : D.Runtime) (commitWelcome : Bytes) :
    DaveOnly r (deferLocalCommit runtime commitWelcome) :=
  getBind fun _ hs ↦ bind (orFail (by decide) _) fun _ ↦ bind (okOrFail (by decide) _) fun _ ↦
    bind (sendGateway _) fun _ ↦ modify fun _ ↦ rfl

theorem prepareLocalCommitTransition (operation : DaveMlsProposalsOperation)
    (proposals : Bytes) :
    DaveOnly (D := D) r (prepareLocalCommitTransition operation proposals) := by
  refine getBind fun _ hs ↦ ?_
  split
  · exact bind (set hs) fun _ ↦ preparePendingInitialLocalCommitTransition ..
  · refine branch (pure _) (bind takeDave fun _ ↦ ?_)
    split
    · exact deferLocalCommit ..
    · exact modify fun _ ↦ rfl
    · exact branch (prepareInitialEpochLocalCommitTransition ..) (modify fun _ ↦ rfl)

theorem prepareEpoch (transitionId : Option TransitionId) (epoch : String)
    (protocolVersion : UInt16) :
    DaveOnly (D := D) r (prepareEpoch transitionId epoch protocolVersion) :=
  getBind fun _ hs ↦ branch (failState (by decide)) (bind (orFail (by decide) _) fun _ ↦
    branch (pure _) (bind (orFail (by decide) _) fun _ ↦ branch (failState (by decide))
      (branch (pure _) (branch (pure _) (set hs)))))

theorem markCompletedTransition_handlerRecord (transitionId : TransitionId)
    (source : PendingDaveTransitionSource) (s : ConnectedVoiceSession D) :
    handlerRecord (markCompletedTransition transitionId source s) = handlerRecord s := by
  cases source <;> rfl

theorem executeTransition (transitionId : TransitionId) :
    DaveOnly (D := D) r (executeTransition transitionId) := by
  refine getBind fun _ hs ↦ ?_
  split
  · exact branch (set ((markCompletedTransition_handlerRecord ..).trans hs))
      (failState (by decide))
  · exact pure _

/-- An event that is not about who is there. -/
theorem processGatewayEvent {event : VoiceGatewayEvent}
    (hconnect : ∀ userIds, event ≠ .clientsConnect userIds)
    (hdisconnect : ∀ userId, event ≠ .clientDisconnect userId) :
    DaveOnly (D := D) r (processGatewayEventForDave event) := by
  cases event
  case clientsConnect userIds => exact absurd rfl (hconnect userIds)
  case clientDisconnect userId => exact absurd rfl (hdisconnect userId)
  case davePrepareEpoch => exact prepareEpoch ..
  case daveMlsPrepareCommitTransition => exact prepareRemoteCommitTransition ..
  case daveMlsWelcome => exact prepareWelcomeTransition ..
  case daveMlsProposals => exact prepareLocalCommitTransition ..
  case daveExecuteTransition => exact executeTransition ..
  case davePrepareTransition => exact prepareTransition ..
  all_goals exact pure _

end DaveOnly

namespace GatewayOnly

variable {r : MediaRecord}

theorem of_daveOnly {x : SessionM D α} (hx : ∀ recognized, DaveOnly (r, recognized) x) :
    GatewayOnly r x where
  error s err t hs h := by
    subst hs
    exact (hx s.daveRecognizedUserIds).error s err t rfl h
  frame s hs := by
    subst hs
    exact congrArg Prod.fst ((hx s.daveRecognizedUserIds).frame s rfl)

theorem modify {g : ConnectedVoiceSession D → ConnectedVoiceSession D}
    (hg : ∀ s, mediaRecord (g s) = mediaRecord s) :
    GatewayOnly r (modify g : SessionM D PUnit) where
  error _ _ _ _ h := by cases h
  frame s hs := (hg s).trans hs

theorem failingClosed {x : SessionM D Unit} (hx : GatewayOnly r x) :
    GatewayOnly r (failingClosed x) where
  error s err t hs h := by
    obtain ⟨u, hu⟩ := failingClosed_error h
    exact hx.error s err u hs hu
  frame := failingClosed_preserves (fun _ hs ↦ hs) hx.frame

/-- Only the gateway itself reports its close: no event handler fails with that error. -/
theorem processGatewayEvent (event : VoiceGatewayEvent) :
    GatewayOnly (D := D) r (processGatewayEventForDave event) := by
  cases event
  case clientsConnect => exact modify fun _ ↦ rfl
  case clientDisconnect => exact modify fun _ ↦ rfl
  all_goals exact of_daveOnly fun _ ↦ DaveOnly.processGatewayEvent (by simp) (by simp)

end GatewayOnly

end DiscordVoice.Voice
