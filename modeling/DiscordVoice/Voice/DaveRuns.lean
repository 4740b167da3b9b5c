import DiscordVoice.Voice.Ownership

namespace DiscordVoice.Voice

open Fallible Schedule

variable {D : Libdave}

/-- An open session keeps its runtime in exactly one slot; a session that failed closed has given
up the runtime and everything that was waiting for it. -/
structure Owned (s : ConnectedVoiceSession D) : Prop where
  one : s.daveFailedClosed = false → (slots s).owners = 1
  gaveUp : s.daveFailedClosed = true →
    (slots s).owners = 0 ∧ s.pendingDavePreparedTransitions = .empty ∧
      s.pendingDaveLocalInitCommitEchoes = .empty

theorem failDaveClosed_owned (s : ConnectedVoiceSession D) : Owned (failDaveClosed s) where
  one h := by cases h
  gaveUp _ := ⟨rfl, rfl, rfl⟩

theorem connect_owned (voice : VoiceContext) (gateway : VoiceGatewayClient)
    (transport : VoiceUdpTransport) (ssrc : UInt32) (dave : InitialDaveState D) :
    Owned (connect voice gateway transport ssrc dave) := by
  refine ⟨fun _ ↦ ?_, fun h ↦ by cases h⟩
  have h := dave.runtime_or_pending
  cases hr : dave.runtime <;> cases hp : dave.pendingInitialSession <;>
    simp_all [slots, Slots.owners, connect]

theorem handleGatewayEvent_owned {s : ConnectedVoiceSession D} (hs : Owned s)
    (hopen : s.daveFailedClosed = false) (event : VoiceGatewayEvent) :
    Owned (stateAfter (handleGatewayEvent event s)) := by
  cases h : processGatewayEventForDave event s with
  | error err t =>
    simp only [handleGatewayEvent, failingClosed, h, stateAfter]
    exact failDaveClosed_owned t
  | ok a t =>
    obtain ⟨howners, hfailed⟩ := processGatewayEvent_handedOver (hs.one hopen).le h
    have hone := hs.one hopen
    simp only [handleGatewayEvent, failingClosed, h, stateAfter]
    refine ⟨fun _ ↦ howners.trans hone, fun hclosed ↦ ?_⟩
    have : t.daveFailedClosed = false := hfailed.trans hopen
    simp_all

theorem handleGatewayEvent_open {s t : ConnectedVoiceSession D} (hs : Owned s)
    (hopen : s.daveFailedClosed = false) {event : VoiceGatewayEvent}
    (h : handleGatewayEvent event s = .ok () t) : t.daveFailedClosed = false := by
  have hh := processGatewayEvent_handedOver (hs.one hopen).le (failingClosed_ok h)
  exact hh.2.trans hopen

theorem drainGateway_owned (n : ℕ) (inbox : List GatewayReceive)
    (report : VoiceGatewayDrainReport) {s : ConnectedVoiceSession D} (hs : Owned s)
    (hopen : s.daveFailedClosed = false) :
    Owned (stateAfter (drainGateway n inbox report s)) := by
  induction n generalizing inbox report s with
  | zero => exact hs
  | succ n ih =>
    rcases inbox with _ | ⟨event | err | _, rest⟩
    · exact hs
    · have ht := handleGatewayEvent_owned hs hopen event
      rw [drainGateway, bind_apply]
      cases h : handleGatewayEvent event s with
      | error err t =>
        rw [h] at ht
        exact ht
      | ok a t =>
        rw [h] at ht
        exact ih rest _ ht (handleGatewayEvent_open hs hopen h)
    · exact hs
    · exact hs

theorem drainGateway_ok_owned (n : ℕ) (inbox : List GatewayReceive)
    (report : VoiceGatewayDrainReport) {s t : ConnectedVoiceSession D} {r : VoiceGatewayDrainReport}
    (hs : Owned s) (hopen : s.daveFailedClosed = false)
    (h : drainGateway n inbox report s = .ok r t) : Owned t ∧ t.daveFailedClosed = false := by
  induction n generalizing inbox report s with
  | zero => cases h
  | succ n ih =>
    rcases inbox with _ | ⟨event | err | _, rest⟩
    · cases h
      exact ⟨hs, hopen⟩
    · rw [drainGateway, bind_ok_iff] at h
      obtain ⟨_, u, hu, h⟩ := h
      have howned := handleGatewayEvent_owned hs hopen event
      rw [hu] at howned
      exact ih rest _ howned (handleGatewayEvent_open hs hopen hu) h
    · cases h
    · cases h
      exact ⟨hs, hopen⟩

theorem settled_state (allow : Bool) (report : VoiceGatewayDrainReport)
    (s : ConnectedVoiceSession D) : stateAfter (settled allow report s) = s := by
  simp only [settled, get_bind_apply, branch_apply]
  repeat' split
  all_goals rfl

theorem settled_ok {report r : VoiceGatewayDrainReport} {s t : ConnectedVoiceSession D}
    (h : settled false report s = .ok r t) :
    t = s ∧ s.pendingDaveTransition = none ∧ s.pendingDaveLocalCommitTransition = none ∧
      s.pendingInitialDave = none ∧ s.pendingDavePreparedTransitions = .empty := by
  simp only [settled, get_bind_apply, branch_apply] at h
  repeat' split at h
  all_goals try cases h
  simp_all [SortedMap.isEmpty_iff]

theorem orFail_state {α : Type} (reason : String) (a : Option α) (s : ConnectedVoiceSession D) :
    stateAfter (orFail reason a s) = s := by
  cases a <;> rfl

theorem nothingToDrain_of_owned {s : ConnectedVoiceSession D} (hs : Owned s)
    (hopen : s.daveFailedClosed = false) : nothingToDrain s = false := by
  have h := hs.one hopen
  by_contra hn
  simp_all [nothingToDrain, slots, Slots.owners]

theorem processPendingGatewayEvents_owned {s : ConnectedVoiceSession D} (hs : Owned s)
    (allow : Bool) (inbox : List GatewayReceive) :
    Owned (stateAfter (processPendingGatewayEvents allow inbox s)) := by
  simp only [processPendingGatewayEvents, get_bind_apply, branch_apply]
  split_ifs with hfailed hclosed hnothing
  · exact hs
  · exact hs
  · exact hs
  · rw [bind_apply]
    cases s.gateway with
    | none => exact hs
    | some gateway =>
      simp only [orFail, pure_apply, bind_apply]
      have ht := drainGateway_owned daveGatewayEventDrainLimit inbox ⟨0, 0⟩ hs (by simpa using hfailed)
      cases h : drainGateway daveGatewayEventDrainLimit inbox ⟨0, 0⟩ s with
      | error err t =>
        rw [h] at ht
        exact ht
      | ok report t =>
        rw [h] at ht
        simp only [settled_state]
        exact ht

/-- With the gateway open, a drain that does not wait for the first session only succeeds with
the runtime installed and nothing left to be carried out. -/
theorem processPendingGatewayEvents_ok {s t : ConnectedVoiceSession D} (hs : Owned s)
    (hreceive : s.gatewayReceiveClosed = false) {inbox : List GatewayReceive}
    {report : VoiceGatewayDrainReport}
    (h : processPendingGatewayEvents false inbox s = .ok report t) :
    t.daveFailedClosed = false ∧ t.dave.isSome ∧ t.pendingDaveTransition = none ∧
      t.pendingDaveLocalCommitTransition = none ∧ t.pendingInitialDave = none ∧
      t.pendingDavePreparedTransitions = .empty := by
  simp only [processPendingGatewayEvents, get_bind_apply, branch_apply, hreceive,
    Bool.false_eq_true, if_false] at h
  split_ifs at h with hfailed hnothing
  · cases h
  · rw [nothingToDrain_of_owned hs (by simpa using hfailed)] at hnothing
    cases hnothing
  · rw [bind_ok_iff] at h
    obtain ⟨gateway, u, hu, h⟩ := h
    have hsu : u = s := by
      have := orFail_state "voice gateway unavailable" s.gateway s
      rw [hu] at this
      exact this
    subst hsu
    rw [bind_ok_iff] at h
    obtain ⟨report', v, hv, h⟩ := h
    obtain ⟨howned, hopen⟩ := drainGateway_ok_owned _ _ _ hs (by simpa using hfailed) hv
    obtain ⟨rfl, hpending, hlocal, hinitial, hprepared⟩ := settled_ok h
    have hone := howned.one hopen
    refine ⟨hopen, ?_, hpending, hlocal, hinitial, hprepared⟩
    by_contra hnone
    simp_all [slots, Slots.owners]

/-- The drain at the grain of its events, and as a whole. -/
inductive DrainAction
  | gatewayEvent (event : VoiceGatewayEvent)
  | drain (allowPendingInitialDave : Bool) (inbox : List GatewayReceive)
  deriving DecidableEq, Repr

/-- The drain refuses a session that failed closed, and stops at the event that closes it, so its
loop body only ever sees an open session. -/
def drainStep (s : ConnectedVoiceSession D) : DrainAction → Option (ConnectedVoiceSession D)
  | .gatewayEvent event =>
    if s.daveFailedClosed then none else some (stateAfter (handleGatewayEvent event s))
  | .drain allow inbox => some (stateAfter (processPendingGatewayEvents allow inbox s))

theorem drainStep_owned {s t : ConnectedVoiceSession D} {action : DrainAction} (hs : Owned s)
    (h : drainStep s action = some t) : Owned t := by
  cases action with
  | gatewayEvent event =>
    simp only [drainStep] at h
    split_ifs at h with hfailed
    cases h
    exact handleGatewayEvent_owned hs (by simpa using hfailed) event
  | drain allow inbox =>
    cases h
    exact processPendingGatewayEvents_owned hs allow inbox

theorem drainStep_failed {s t : ConnectedVoiceSession D} {action : DrainAction}
    (hfailed : s.daveFailedClosed = true) (h : drainStep s action = some t) :
    t.daveFailedClosed = true := by
  cases action with
  | gatewayEvent event => simp [drainStep, hfailed] at h
  | drain allow inbox =>
    simp only [drainStep, processPendingGatewayEvents, get_bind_apply, branch_apply, hfailed,
      if_true] at h
    cases h
    exact hfailed

theorem exec_drainStep_owned {s t : ConnectedVoiceSession D} {actions : List DrainAction}
    (hs : Owned s) (h : exec drainStep s actions = some t) : Owned t :=
  exec_invariant (fun _ _ _ hs ↦ drainStep_owned hs) hs h

theorem exec_drainStep_failed {s t : ConnectedVoiceSession D} {actions : List DrainAction}
    (hs : s.daveFailedClosed = true) (h : exec drainStep s actions = some t) :
    t.daveFailedClosed = true :=
  exec_invariant (I := fun s : ConnectedVoiceSession D ↦ s.daveFailedClosed = true)
    (fun _ _ _ hs ↦ drainStep_failed hs) hs h

/-- The same calls with events for a session that failed closed as well, which the drain never makes. -/
def unguardedStep (s : ConnectedVoiceSession D) : DrainAction → Option (ConnectedVoiceSession D)
  | .gatewayEvent event => some (stateAfter (handleGatewayEvent event s))
  | .drain allow inbox => some (stateAfter (processPendingGatewayEvents allow inbox s))

/-- The runtime is in exactly one slot or given up, and stays given up if it was before. -/
structure Held (failed : Bool) (s : ConnectedVoiceSession D) : Prop where
  one : s.daveFailedClosed = false → (slots s).owners = 1
  gone : s.daveFailedClosed = true → (slots s).owners = 0
  stays : failed = true → s.daveFailedClosed = true

theorem Owned.held {s : ConnectedVoiceSession D} (hs : Owned s) : Held s.daveFailedClosed s where
  one := hs.one
  gone h := (hs.gaveUp h).1
  stays h := h

section Held

variable {failed : Bool}

theorem handleGatewayEvent_held (event : VoiceGatewayEvent) :
    Preserves (Held failed) (handleGatewayEvent event : SessionM D Unit) := by
  intro s hs
  have howners : (slots s).owners ≤ 1 := by
    cases h : s.daveFailedClosed with
    | false => exact (hs.one h).le
    | true => exact (hs.gone h).le.trans (Nat.zero_le 1)
  cases h : processGatewayEventForDave event s with
  | error err t =>
    simp only [handleGatewayEvent, failingClosed, h, stateAfter]
    exact ⟨nofun, fun _ ↦ rfl, fun _ ↦ rfl⟩
  | ok a t =>
    obtain ⟨hsame, hflag⟩ := processGatewayEvent_handedOver howners h
    replace hflag : t.daveFailedClosed = s.daveFailedClosed := hflag
    simp only [handleGatewayEvent, failingClosed, h, stateAfter]
    exact ⟨fun hopen ↦ hsame.trans (hs.one (hflag.symm.trans hopen)),
      fun hclosed ↦ hsame.trans (hs.gone (hflag.symm.trans hclosed)),
      fun hfailed ↦ hflag.trans (hs.stays hfailed)⟩

theorem drainGateway_held (n : ℕ) (inbox : List GatewayReceive) (report : VoiceGatewayDrainReport) :
    Preserves (Held failed)
      (drainGateway n inbox report : SessionM D VoiceGatewayDrainReport) := by
  induction n generalizing inbox report with
  | zero => exact .throw _
  | succ n ih =>
    rcases inbox with _ | ⟨event | err | _, rest⟩
    · exact .pure _
    · exact .bind (handleGatewayEvent_held event) fun _ ↦ ih rest _
    · exact .throw _
    · exact .pure _

theorem processPendingGatewayEvents_held (allow : Bool) (inbox : List GatewayReceive) :
    Preserves (Held failed)
      (processPendingGatewayEvents allow inbox : SessionM D VoiceGatewayDrainReport) := by
  refine .get_bind fun s _ ↦ .branch (fun _ ↦ .throw _) fun _ ↦ .branch (fun _ ↦ .pure _) fun _ ↦ ?_
  refine .branch (fun _ ↦ .pure _) fun _ ↦ .bind (fun t ht ↦ ?_) fun _ ↦ ?_
  · rwa [orFail_state]
  refine .bind (drainGateway_held _ _ _) fun report t ht ↦ ?_
  rwa [settled_state]

theorem unguardedStep_held {s t : ConnectedVoiceSession D} {action : DrainAction} (hs : Held failed s)
    (h : unguardedStep s action = some t) : Held failed t := by
  cases action with
  | gatewayEvent event =>
    cases h
    exact handleGatewayEvent_held event s hs
  | drain allow inbox =>
    cases h
    exact processPendingGatewayEvents_held allow inbox s hs

end Held

/-- Whatever the gateway sends and the library answers, the runtime is in exactly one place until
the session fails closed for good, and a drain of the open gateway only passes with the runtime in
use. Events that came after the failure would not bring it back either. -/
theorem dave_runtime_ownership (voice : VoiceContext) (gateway : VoiceGatewayClient)
    (transport : VoiceUdpTransport) (ssrc : UInt32) (dave : InitialDaveState D)
    (actions : List DrainAction) {s : ConnectedVoiceSession D}
    (h : exec drainStep (connect voice gateway transport ssrc dave) actions = some s) :
    Owned s ∧
      (s.daveFailedClosed = true →
        ∀ later t, exec drainStep s later = some t → t.daveFailedClosed = true) ∧
      (s.gatewayReceiveClosed = false →
        ∀ inbox report t, processPendingGatewayEvents false inbox s = .ok report t →
          t.dave.isSome ∧ t.pendingDaveTransition = none ∧
            t.pendingDaveLocalCommitTransition = none ∧ t.pendingInitialDave = none ∧
            t.pendingDavePreparedTransitions = .empty) ∧
      ∀ calls t, exec unguardedStep s calls = some t → Held s.daveFailedClosed t := by
  have howned := exec_drainStep_owned (connect_owned voice gateway transport ssrc dave) h
  refine ⟨howned, fun hfailed later t ht ↦ exec_drainStep_failed hfailed ht, ?_, fun calls t ht ↦ ?_⟩
  · intro hreceive inbox report t ht
    exact (processPendingGatewayEvents_ok howned hreceive ht).2
  · exact exec_invariant (fun _ _ _ hs ↦ unguardedStep_held hs) howned.held ht

/-- A library that accepts everything and marks the frames it encrypts. -/
def markerDave : Libdave where
  Session := Unit
  Runtime := Unit
  ExternalSender := Unit
  newSession := .ok ()
  setExternalSender _ _ := .ok ()
  init _ _ _ _ := .ok ()
  keyPackage _ := .ok ([0x4B], ())
  sessionProcessProposals _ _ _ _ := .ok (some [0xC0], ())
  sessionProcessCommit _ _ := .ok (⟨false, false, [1]⟩, ())
  sessionProcessWelcome _ _ _ := .ok (⟨[1]⟩, ())
  fromSession _ := .ok ()
  protocolVersion _ := 1
  processProposals _ _ _ _ := (.ok (some [0xC0]), ())
  processCommit _ _ := (.ok ⟨false, false, [1]⟩, ())
  processWelcome _ _ _ := (.ok ⟨[1]⟩, ())
  encryptAudioFrame _ frame := (.ok (0xDA :: frame), ())
  splitCommitWelcome _ commitWelcome := .ok (commitWelcome, [])

/-- A session of that library as it is right after a handshake that left a runtime. -/
def markerSession : ConnectedVoiceSession markerDave :=
  connect ⟨"1", "2", "3", "s", "voice.example", "t"⟩ ⟨[], []⟩
    ⟨⟨7, .new, none⟩, .new⟩ 7
    ⟨some (), none, 2, 1, (), [], ∅, ∅, ∅, rfl⟩

theorem dave_runtime_ownership_transition :
    ∃ s : ConnectedVoiceSession markerDave,
      exec drainStep markerSession [.gatewayEvent (.davePrepareTransition 5 1),
        .gatewayEvent (.daveMlsPrepareCommitTransition 5 [0xC1]),
        .drain false [.event (.daveExecuteTransition 5), .timeout]] = some s ∧
      Owned s ∧ ∀ report t, processPendingGatewayEvents false [.timeout] s = .ok report t →
        t.dave.isSome := by
  obtain ⟨howned, -, hdrained, -⟩ := dave_runtime_ownership _ _ _ _ _
    [.gatewayEvent (.davePrepareTransition 5 1),
      .gatewayEvent (.daveMlsPrepareCommitTransition 5 [0xC1]),
      .drain false [.event (.daveExecuteTransition 5), .timeout]]
    (rfl : exec drainStep markerSession _ = some _)
  exact ⟨_, rfl, howned, fun report t h ↦ (hdrained rfl _ report t h).1⟩

end DiscordVoice.Voice
