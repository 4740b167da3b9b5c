import DiscordVoice.Fallible
import DiscordVoice.Schedule
import DiscordVoice.Voice.Drain

namespace DiscordVoice.Voice

open Fallible

variable {D : Libdave} {α β : Type}

/-- The four places a session may keep its runtime in, and the flag that says it has none. -/
structure Slots (D : Libdave) where
  dave : Option D.Runtime
  pendingDaveTransition : Option (PendingDaveTransition D)
  pendingDaveLocalCommitTransition : Option (PendingLocalDaveCommitTransition D)
  pendingInitialDave : Option (PendingInitialDaveSession D)
  daveFailedClosed : Bool

def slots (s : ConnectedVoiceSession D) : Slots D :=
  ⟨s.dave, s.pendingDaveTransition, s.pendingDaveLocalCommitTransition, s.pendingInitialDave,
    s.daveFailedClosed⟩

def Slots.owners (v : Slots D) : ℕ :=
  v.dave.isSome.toNat + v.pendingDaveTransition.isSome.toNat +
    v.pendingDaveLocalCommitTransition.isSome.toNat + v.pendingInitialDave.isSome.toNat

/-- The runtime changes hands at most: as many slots hold one afterwards as before. -/
def Slots.HandedOver (v w : Slots D) : Prop :=
  w.owners = v.owners ∧ w.daveFailedClosed = v.daveFailedClosed

theorem Slots.HandedOver.of_eq {v w : Slots D} (h : w = v) : v.HandedOver w := by
  subst h
  exact ⟨rfl, rfl⟩

@[simp] theorem failState_apply (reason : String) (s : ConnectedVoiceSession D) :
    (failState reason : SessionM D α) s = .error (.invalidState reason) s := rfl

theorem orFail_ok {reason : String} {x : Option α} {a : α} {s t : ConnectedVoiceSession D}
    (h : (orFail reason x : SessionM D α) s = .ok a t) : x = some a ∧ t = s := by
  cases x <;> simp_all [orFail]

theorem okOrFail_ok {reason : String} {x : Except DaveError α} {a : α}
    {s t : ConnectedVoiceSession D} (h : (okOrFail reason x : SessionM D α) s = .ok a t) :
    x = .ok a ∧ t = s := by
  cases x <;> simp_all [okOrFail]

theorem orFail_bind_ok {reason : String} {x : Option α} {f : α → SessionM D β}
    {s t : ConnectedVoiceSession D} {b : β} :
    (orFail reason x >>= f) s = .ok b t ↔ ∃ a, x = some a ∧ f a s = .ok b t := by
  rw [bind_ok_iff]
  constructor
  · rintro ⟨a, _, hx, h⟩
    obtain ⟨hsome, rfl⟩ := orFail_ok hx
    exact ⟨a, hsome, h⟩
  · rintro ⟨a, rfl, h⟩
    exact ⟨a, s, rfl, h⟩

theorem okOrFail_bind_ok {reason : String} {x : Except DaveError α} {f : α → SessionM D β}
    {s t : ConnectedVoiceSession D} {b : β} :
    (okOrFail reason x >>= f) s = .ok b t ↔ ∃ a, x = .ok a ∧ f a s = .ok b t := by
  rw [bind_ok_iff]
  constructor
  · rintro ⟨a, _, hx, h⟩
    obtain ⟨hok, rfl⟩ := okOrFail_ok hx
    exact ⟨a, hok, h⟩
  · rintro ⟨a, rfl, h⟩
    exact ⟨a, s, rfl, h⟩

theorem sendGateway_ok {message : GatewayMessage} {s t : ConnectedVoiceSession D}
    (h : sendGateway message s = .ok () t) : ∃ g, t = { s with gateway := some g } := by
  simp only [sendGateway, get_bind_apply] at h
  rw [orFail_bind_ok] at h
  obtain ⟨g, -, h⟩ := h
  rcases hr : g.sendResults with _ | ⟨_ | detail, rest⟩
  all_goals simp only [hr] at h
  · exact ⟨_, ((EStateM.Result.ok.injEq ..).mp h).2.symm⟩
  · exact ⟨_, ((EStateM.Result.ok.injEq ..).mp h).2.symm⟩
  · simp at h

theorem sendGateway_slots {message : GatewayMessage} {s t : ConnectedVoiceSession D}
    (h : sendGateway message s = .ok () t) : slots t = slots s := by
  obtain ⟨g, rfl⟩ := sendGateway_ok h
  rfl

theorem freshDaveSession_ok {version : UInt16} {group : ℕ} {sender : Bytes} {user : String}
    {a : D.Session} {s t : ConnectedVoiceSession D}
    (h : freshDaveSession version group sender user s = .ok a t) : t = s := by
  rw [freshDaveSession, okOrFail_bind_ok] at h
  obtain ⟨_, -, h⟩ := h
  rw [okOrFail_bind_ok] at h
  obtain ⟨_, -, h⟩ := h
  exact (okOrFail_ok h).2

theorem consumePreparedTransition_slots {id : TransitionId} {v : UInt16}
    {s t : ConnectedVoiceSession D} (h : consumePreparedTransition id s = .ok v t) :
    slots t = slots s := by
  simp only [consumePreparedTransition, get_bind_apply] at h
  rw [orFail_bind_ok] at h
  obtain ⟨_, -, h⟩ := h
  simp only [removePrepared, modify_bind_apply, pure_apply, EStateM.Result.ok.injEq] at h
  obtain ⟨-, rfl⟩ := h
  rfl

theorem takeDave_ok {r : D.Runtime} {s t : ConnectedVoiceSession D} (h : takeDave s = .ok r t) :
    s.dave = some r ∧ t = { s with dave := none } := by
  simp only [takeDave, get_bind_apply, set_bind_apply] at h
  exact orFail_ok h

theorem failingClosed_ok {x : SessionM D Unit} {s t : ConnectedVoiceSession D}
    (h : failingClosed x s = .ok () t) : x s = .ok () t := by
  unfold failingClosed at h
  split at h
  · rename_i u hu
    exact hu.trans h
  · cases h

theorem readyPendingTransition_slots {id : TransitionId} {r : D.Runtime}
    {source : PendingDaveTransitionSource} {s t : ConnectedVoiceSession D}
    (h : readyPendingTransition id r source s = .ok () t) :
    slots t = { slots s with pendingDaveTransition := some ⟨id, r, source⟩ } := by
  simp only [readyPendingTransition, modify_bind_apply, branch_apply] at h
  split at h
  · simp only [pure_apply, EStateM.Result.ok.injEq, true_and] at h
    subst h
    rfl
  · exact sendGateway_slots (failingClosed_ok h)

theorem applyLocalCommit_slots {sender : D.ExternalSender} {session : D.Session}
    {commitWelcome commit : Bytes} {s t : ConnectedVoiceSession D}
    (h : applyLocalCommit sender session commitWelcome s = .ok commit t) :
    ∃ r, slots t = { slots s with dave := some r } := by
  rw [applyLocalCommit, okOrFail_bind_ok] at h
  obtain ⟨⟨_, _⟩, -, h⟩ := h
  rw [bind_ok_iff] at h
  obtain ⟨_, u, h₂, h⟩ := h
  have hu := sendGateway_slots h₂
  rw [okOrFail_bind_ok] at h
  obtain ⟨⟨_, _⟩, -, h⟩ := h
  simp only [branch_apply] at h
  split at h
  · cases h
  · rw [okOrFail_bind_ok] at h
    obtain ⟨r, -, h⟩ := h
    simp only [modify_bind_apply, pure_apply, EStateM.Result.ok.injEq] at h
    obtain ⟨-, rfl⟩ := h
    exact ⟨r, by rw [← hu]; rfl⟩

theorem rememberLocalInitCommit_slots {id : TransitionId} {commit : Bytes}
    {s t : ConnectedVoiceSession D} (h : rememberLocalInitCommit id commit s = .ok () t) :
    slots t = slots s := by
  simp only [rememberLocalInitCommit, modify_apply, EStateM.Result.ok.injEq, true_and] at h
  subst h
  rfl

theorem reinitialize_slots {id : TransitionId} {version : UInt16} {s t : ConnectedVoiceSession D}
    (h : reinitializeDaveSessionAfterInvalidCommit id version s = .ok () t) :
    ∃ p, slots t = ⟨none, none, none, some p, s.daveFailedClosed⟩ := by
  simp only [reinitializeDaveSessionAfterInvalidCommit, get_bind_apply] at h
  rw [orFail_bind_ok] at h
  obtain ⟨_, -, h⟩ := h
  rw [orFail_bind_ok] at h
  obtain ⟨_, -, h⟩ := h
  rw [bind_ok_iff] at h
  obtain ⟨_, _, h₃, h⟩ := h
  obtain rfl := freshDaveSession_ok h₃
  rw [okOrFail_bind_ok] at h
  obtain ⟨⟨_, _⟩, -, h⟩ := h
  rw [bind_ok_iff] at h
  obtain ⟨_, _, h₅, h⟩ := h
  obtain ⟨_, rfl⟩ := sendGateway_ok h₅
  rw [bind_ok_iff] at h
  obtain ⟨_, _, h₆, h⟩ := h
  obtain ⟨_, rfl⟩ := sendGateway_ok h₆
  simp only [modify_apply, EStateM.Result.ok.injEq, true_and] at h
  subst h
  exact ⟨_, rfl⟩

/-- A runtime taken out of its slot ends up in another one, unless the handler reports an error. -/
theorem processDeferredLocalCommit_slots {id : TransitionId} {commit : Bytes}
    {pending : PendingLocalDaveCommitTransition D} {s t : ConnectedVoiceSession D}
    (hs : (slots s).owners = 0) (h : processDeferredLocalCommit id commit pending s = .ok () t) :
    (slots t).owners = 1 ∧ t.daveFailedClosed = s.daveFailedClosed := by
  simp only [processDeferredLocalCommit, removePrepared, modify_bind_apply] at h
  rcases hc : D.processCommit pending.runtime commit with ⟨_ | result, runtime⟩
  all_goals simp only [hc] at h
  · obtain ⟨p, hp⟩ := reinitialize_slots h
    have hf : (slots t).daveFailedClosed = s.daveFailedClosed := by rw [hp]
    exact ⟨by rw [hp]; rfl, hf⟩
  · simp only [branch_apply] at h
    split at h
    · cases h
    · have ht := readyPendingTransition_slots h
      have hf : (slots t).daveFailedClosed = s.daveFailedClosed := by rw [ht]; rfl
      refine ⟨?_, hf⟩
      rw [ht]
      simp only [slots, Slots.owners] at hs ⊢
      simp only [Option.isSome_some, Bool.toNat_true]
      omega

theorem readyPendingTransition_handedOver {id : TransitionId} {r r' : D.Runtime}
    {source : PendingDaveTransitionSource} {s t : ConnectedVoiceSession D}
    (hs : (slots s).owners ≤ 1) (hd : s.dave = some r)
    (h : readyPendingTransition id r' source { s with dave := none } = .ok () t) :
    (slots s).HandedOver (slots t) := by
  rw [readyPendingTransition_slots h]
  simp only [slots, Slots.owners, Slots.HandedOver, hd, Option.isSome_some, Option.isSome_none,
    Bool.toNat_true, Bool.toNat_false, and_true] at hs ⊢
  omega

theorem processAnnouncedCommit_slots {id : TransitionId} {commit : Bytes}
    {s t : ConnectedVoiceSession D} (hs : (slots s).owners ≤ 1)
    (h : processAnnouncedCommit id commit s = .ok () t) : (slots s).HandedOver (slots t) := by
  simp only [processAnnouncedCommit] at h
  rw [bind_ok_iff] at h
  obtain ⟨_, u, h₁, h⟩ := h
  have hu := consumePreparedTransition_slots h₁
  rw [← hu] at hs ⊢
  rw [bind_ok_iff] at h
  obtain ⟨runtime, _, h₂, h⟩ := h
  obtain ⟨hd, rfl⟩ := takeDave_ok h₂
  rcases hc : D.processCommit runtime commit with ⟨_ | result, runtime'⟩
  all_goals simp only [hc, failState_apply, reduceCtorEq] at h
  simp only [branch_apply] at h
  split at h
  · simp only [modify_apply, EStateM.Result.ok.injEq, true_and] at h
    subst h
    simp [Slots.HandedOver, Slots.owners, slots, hd]
  · split at h
    · cases h
    · exact readyPendingTransition_handedOver hs hd h

theorem confirmLocalInitCommit_slots {id : TransitionId} {commit : Bytes}
    {s t : ConnectedVoiceSession D} (h : confirmLocalInitCommit id commit s = .ok () t) :
    slots t = slots s := by
  simp only [confirmLocalInitCommit, get_bind_apply] at h
  cases he : s.pendingDaveLocalInitCommitEchoes.get? id with
  | none =>
    simp only [he, removePrepared, modify_apply, EStateM.Result.ok.injEq, true_and] at h
    subst h
    rfl
  | some expected =>
    simp only [he, set_bind_apply, branch_apply] at h
    split at h
    · cases h
    · simp only [removePrepared, modify_apply, EStateM.Result.ok.injEq, true_and] at h
      subst h
      rfl

theorem removePrepared_slots {id : TransitionId} {s t : ConnectedVoiceSession D}
    (h : removePrepared id s = .ok () t) : slots t = slots s := by
  simp only [removePrepared, modify_apply, EStateM.Result.ok.injEq, true_and] at h
  subst h
  rfl

theorem return_slots {s t : ConnectedVoiceSession D}
    (h : (pure () : SessionM D Unit) s = .ok () t) : slots t = slots s := by
  simp only [pure_apply, EStateM.Result.ok.injEq, true_and] at h
  rw [h]

theorem prepareRemoteCommitTransition_slots {id : TransitionId} {commit : Bytes}
    {s t : ConnectedVoiceSession D} (hs : (slots s).owners ≤ 1)
    (h : prepareRemoteCommitTransition id commit s = .ok () t) :
    (slots s).HandedOver (slots t) := by
  simp only [prepareRemoteCommitTransition, get_bind_apply, branch_apply] at h
  split at h
  · exact .of_eq (removePrepared_slots h)
  split at h
  · exact .of_eq (return_slots h)
  split at h
  · exact .of_eq (confirmLocalInitCommit_slots h)
  split at h
  · exact .of_eq (return_slots h)
  split at h
  · exact .of_eq (return_slots h)
  cases hl : s.pendingDaveLocalCommitTransition with
  | some pending =>
    simp only [hl, set_bind_apply] at h
    simp only [slots, Slots.owners, hl, Option.isSome_some, Bool.toNat_true] at hs
    obtain ⟨hone, hfailed⟩ := processDeferredLocalCommit_slots (by
      simp only [slots, Slots.owners, Option.isSome_none, Bool.toNat_false]
      omega) h
    refine ⟨?_, hfailed⟩
    rw [hone]
    simp only [slots, Slots.owners, hl, Option.isSome_some, Bool.toNat_true]
    omega
  | none =>
    simp only [hl, branch_apply] at h
    split at h
    · exact .of_eq (return_slots h)
    · exact processAnnouncedCommit_slots hs h

theorem preparePendingInitialWelcome_slots {id : TransitionId} {welcome : Bytes}
    {p : PendingInitialDaveSession D} {s t : ConnectedVoiceSession D}
    (h : preparePendingInitialWelcomeTransition id welcome p s = .ok () t) :
    ∃ q, slots t = { slots s with pendingDaveTransition := some q } := by
  simp only [preparePendingInitialWelcomeTransition, get_bind_apply] at h
  rw [okOrFail_bind_ok] at h
  obtain ⟨⟨_, _⟩, -, h⟩ := h
  simp only [branch_apply] at h
  split at h
  · cases h
  · rw [okOrFail_bind_ok] at h
    obtain ⟨_, -, h⟩ := h
    rw [modify_bind_apply] at h
    have ht := readyPendingTransition_slots h
    exact ⟨_, ht⟩

theorem processAnnouncedWelcome_slots {id : TransitionId} {welcome : Bytes}
    {s t : ConnectedVoiceSession D} (hs : (slots s).owners ≤ 1)
    (h : processAnnouncedWelcome id welcome s = .ok () t) : (slots s).HandedOver (slots t) := by
  simp only [processAnnouncedWelcome] at h
  rw [bind_ok_iff] at h
  obtain ⟨_, u, h₁, h⟩ := h
  have hu := consumePreparedTransition_slots h₁
  rw [← hu] at hs ⊢
  rw [bind_ok_iff] at h
  obtain ⟨runtime, _, h₂, h⟩ := h
  obtain ⟨hd, rfl⟩ := takeDave_ok h₂
  simp only [get_bind_apply] at h
  rcases hc : D.processWelcome runtime welcome u.daveRecognizedUserIds with ⟨_ | result, runtime'⟩
  all_goals simp only [hc, failState_apply, reduceCtorEq] at h
  simp only [branch_apply] at h
  split at h
  · cases h
  · exact readyPendingTransition_handedOver hs hd h

theorem prepareWelcomeTransition_slots {id : TransitionId} {welcome : Bytes}
    {s t : ConnectedVoiceSession D} (hs : (slots s).owners ≤ 1)
    (h : prepareWelcomeTransition id welcome s = .ok () t) : (slots s).HandedOver (slots t) := by
  simp only [prepareWelcomeTransition, get_bind_apply, branch_apply] at h
  split at h
  · exact .of_eq (removePrepared_slots h)
  split at h
  · exact .of_eq (return_slots h)
  split at h
  · exact .of_eq (removePrepared_slots h)
  cases hi : s.pendingInitialDave with
  | some p =>
    simp only [hi, set_bind_apply, removePrepared, modify_bind_apply] at h
    obtain ⟨q, hq⟩ := preparePendingInitialWelcome_slots h
    rw [hq]
    simp only [slots, Slots.owners, Slots.HandedOver, hi, Option.isSome_some, Option.isSome_none,
      Bool.toNat_true, Bool.toNat_false, and_true] at hs ⊢
    omega
  | none =>
    simp only [hi] at h
    exact processAnnouncedWelcome_slots hs h

theorem prepareInitialEpochLocalCommit_slots {op : DaveMlsProposalsOperation} {proposals : Bytes}
    {version : UInt16} {s t : ConnectedVoiceSession D}
    (h : prepareInitialEpochLocalCommitTransition op proposals version s = .ok () t) :
    ∃ r, slots t = { slots s with dave := some r } := by
  simp only [prepareInitialEpochLocalCommitTransition, get_bind_apply] at h
  rw [orFail_bind_ok] at h
  obtain ⟨_, -, h⟩ := h
  rw [orFail_bind_ok] at h
  obtain ⟨_, -, h⟩ := h
  rw [orFail_bind_ok] at h
  obtain ⟨_, -, h⟩ := h
  rw [bind_ok_iff] at h
  obtain ⟨_, _, h₄, h⟩ := h
  obtain rfl := freshDaveSession_ok h₄
  rw [okOrFail_bind_ok] at h
  obtain ⟨⟨_, _⟩, -, h⟩ := h
  rw [orFail_bind_ok] at h
  obtain ⟨_, -, h⟩ := h
  rw [bind_ok_iff] at h
  obtain ⟨_, u, h₇, h⟩ := h
  obtain ⟨r, hr⟩ := applyLocalCommit_slots h₇
  exact ⟨r, (rememberLocalInitCommit_slots h).trans hr⟩

/-- Proposals for a pending initial session leave the runtime pending, installed or in transition. -/
theorem preparePendingInitialLocalCommit_slots {op : DaveMlsProposalsOperation} {proposals : Bytes}
    {p : PendingInitialDaveSession D} {id : Option TransitionId} {s t : ConnectedVoiceSession D}
    (hs : (slots s).owners = 0)
    (h : preparePendingInitialLocalCommitTransition op proposals p id s = .ok () t) :
    (slots t).owners = 1 ∧ t.daveFailedClosed = s.daveFailedClosed := by
  simp only [preparePendingInitialLocalCommitTransition, get_bind_apply] at h
  rw [orFail_bind_ok] at h
  obtain ⟨_, -, h⟩ := h
  rw [okOrFail_bind_ok] at h
  obtain ⟨⟨commitWelcome, _⟩, -, h⟩ := h
  cases commitWelcome with
  | none =>
    simp only [modify_apply, EStateM.Result.ok.injEq, true_and] at h
    subst h
    simp only [slots, Slots.owners] at hs ⊢
    simp only [Option.isSome_some, Bool.toNat_true, and_true]
    omega
  | some commitWelcome =>
    simp only at h
    rw [bind_ok_iff] at h
    obtain ⟨_, u, h₃, h⟩ := h
    obtain ⟨r, hr⟩ := applyLocalCommit_slots h₃
    have hu : (slots u).owners = 1 ∧ u.daveFailedClosed = s.daveFailedClosed := by
      refine ⟨?_, congrArg Slots.daveFailedClosed hr⟩
      rw [hr]
      simp only [slots, Slots.owners] at hs ⊢
      simp only [Option.isSome_some, Bool.toNat_true]
      omega
    rw [modify_bind_apply] at h
    cases id with
    | none =>
      have ht := rememberLocalInitCommit_slots h
      have hf : (slots t).daveFailedClosed = u.daveFailedClosed := by rw [ht]; rfl
      exact ⟨by rw [ht]; exact hu.1, hf.trans hu.2⟩
    | some id =>
      simp only at h
      rw [bind_ok_iff] at h
      obtain ⟨_, v, h₄, h⟩ := h
      have hv := consumePreparedTransition_slots h₄
      have hv₁ : (slots v).owners = 1 := by rw [hv]; exact hu.1
      have hvf : (slots v).daveFailedClosed = u.daveFailedClosed := by rw [hv]; rfl
      simp only [branch_apply] at h
      split at h
      · rw [bind_ok_iff] at h
        obtain ⟨r', _, h₅, h⟩ := h
        obtain ⟨hd, rfl⟩ := takeDave_ok h₅
        obtain ⟨hone, hf⟩ := readyPendingTransition_handedOver hv₁.le hd h
        exact ⟨hone.trans hv₁, hf.trans (hvf.trans hu.2)⟩
      · have ht := rememberLocalInitCommit_slots h
        have hf : (slots t).daveFailedClosed = (slots v).daveFailedClosed := by rw [ht]
        exact ⟨by rw [ht]; exact hv₁, hf.trans (hvf.trans hu.2)⟩

theorem deferLocalCommit_slots {r : D.Runtime} {commitWelcome : Bytes}
    {s t : ConnectedVoiceSession D} (h : deferLocalCommit r commitWelcome s = .ok () t) :
    ∃ p, slots t = { slots s with pendingDaveLocalCommitTransition := some p } := by
  simp only [deferLocalCommit, get_bind_apply] at h
  rw [orFail_bind_ok] at h
  obtain ⟨_, -, h⟩ := h
  rw [okOrFail_bind_ok] at h
  obtain ⟨⟨_, _⟩, -, h⟩ := h
  rw [bind_ok_iff] at h
  obtain ⟨_, _, h₃, h⟩ := h
  obtain ⟨_, rfl⟩ := sendGateway_ok h₃
  simp only [modify_apply, EStateM.Result.ok.injEq, true_and] at h
  subst h
  exact ⟨_, rfl⟩

theorem prepareLocalCommitTransition_slots {op : DaveMlsProposalsOperation} {proposals : Bytes}
    {s t : ConnectedVoiceSession D} (hs : (slots s).owners ≤ 1)
    (h : prepareLocalCommitTransition op proposals s = .ok () t) :
    (slots s).HandedOver (slots t) := by
  simp only [prepareLocalCommitTransition, get_bind_apply] at h
  cases hi : s.pendingInitialDave with
  | some p =>
    simp only [hi, set_bind_apply] at h
    simp only [slots, Slots.owners, hi, Option.isSome_some, Bool.toNat_true] at hs
    obtain ⟨hone, hfailed⟩ := preparePendingInitialLocalCommit_slots (by
      simp only [slots, Slots.owners, Option.isSome_none, Bool.toNat_false]
      omega) h
    refine ⟨?_, hfailed⟩
    rw [hone]
    simp only [slots, Slots.owners, hi, Option.isSome_some, Bool.toNat_true]
    omega
  | none =>
    simp only [hi, branch_apply] at h
    split at h
    · exact .of_eq (return_slots h)
    rw [bind_ok_iff] at h
    obtain ⟨runtime, _, h₁, h⟩ := h
    obtain ⟨hd, rfl⟩ := takeDave_ok h₁
    rcases hp : D.processProposals runtime op proposals s.daveRecognizedUserIds with
      ⟨_ | _ | commitWelcome, runtime'⟩
    all_goals simp only [hp] at h
    · simp only [branch_apply] at h
      split at h
      · obtain ⟨r, hr⟩ := prepareInitialEpochLocalCommit_slots h
        rw [hr]
        simp [Slots.HandedOver, Slots.owners, slots, hd]
      · simp only [modify_apply, EStateM.Result.ok.injEq, true_and] at h
        subst h
        simp [Slots.HandedOver, Slots.owners, slots, hd]
    · simp only [modify_apply, EStateM.Result.ok.injEq, true_and] at h
      subst h
      simp [Slots.HandedOver, Slots.owners, slots, hd]
    · obtain ⟨q, hq⟩ := deferLocalCommit_slots h
      rw [hq]
      simp only [slots, Slots.owners, Slots.HandedOver, hd, Option.isSome_some, Option.isSome_none,
        Bool.toNat_true, Bool.toNat_false, and_true] at hs ⊢
      omega

theorem prepareEpoch_slots {id : Option TransitionId} {epoch : String} {version : UInt16}
    {s t : ConnectedVoiceSession D} (h : prepareEpoch id epoch version s = .ok () t) :
    slots t = slots s := by
  simp only [prepareEpoch, get_bind_apply, branch_apply] at h
  split at h
  · cases h
  rw [orFail_bind_ok] at h
  obtain ⟨_, -, h⟩ := h
  simp only [branch_apply] at h
  split at h
  · exact return_slots h
  rw [orFail_bind_ok] at h
  obtain ⟨_, -, h⟩ := h
  simp only [branch_apply] at h
  split at h
  · cases h
  split at h
  · exact return_slots h
  split at h
  · exact return_slots h
  · simp only [set_apply, EStateM.Result.ok.injEq, true_and] at h
    subst h
    rfl

theorem executeTransition_slots {id : TransitionId} {s t : ConnectedVoiceSession D}
    (hs : (slots s).owners ≤ 1) (h : executeTransition id s = .ok () t) :
    (slots s).HandedOver (slots t) := by
  simp only [executeTransition, get_bind_apply] at h
  cases hp : s.pendingDaveTransition with
  | none =>
    simp only [hp] at h
    exact .of_eq (return_slots h)
  | some pending =>
    simp only [hp, branch_apply] at h
    split at h
    · simp only [set_apply, EStateM.Result.ok.injEq, true_and] at h
      subst h
      simp only [slots, Slots.owners, Slots.HandedOver, hp, Option.isSome_some, Option.isSome_none,
        Bool.toNat_true, Bool.toNat_false] at hs ⊢
      cases pending.source <;> simp only [markCompletedTransition, and_true] <;> omega
    · cases h

theorem prepareTransition_slots {id : TransitionId} {version : UInt16}
    {s t : ConnectedVoiceSession D} (h : prepareTransition id version s = .ok () t) :
    slots t = slots s := by
  simp only [prepareTransition, get_bind_apply, branch_apply] at h
  split at h
  · exact return_slots h
  split at h
  · cases h
  · simp only [set_apply, EStateM.Result.ok.injEq, true_and] at h
    subst h
    rfl

/-- Whatever an event does, it neither loses nor duplicates the runtime unless it is an error. -/
theorem processGatewayEvent_handedOver {event : VoiceGatewayEvent} {s t : ConnectedVoiceSession D}
    (hs : (slots s).owners ≤ 1) (h : processGatewayEventForDave event s = .ok () t) :
    (slots s).HandedOver (slots t) := by
  cases event with
  | davePrepareEpoch id epoch version => exact .of_eq (prepareEpoch_slots h)
  | daveMlsPrepareCommitTransition id commit => exact prepareRemoteCommitTransition_slots hs h
  | daveMlsWelcome id welcome => exact prepareWelcomeTransition_slots hs h
  | daveMlsProposals op proposals => exact prepareLocalCommitTransition_slots hs h
  | daveExecuteTransition id => exact executeTransition_slots hs h
  | davePrepareTransition id version => exact .of_eq (prepareTransition_slots h)
  | clientsConnect _ | clientDisconnect _ =>
    simp only [processGatewayEventForDave, modify_apply, EStateM.Result.ok.injEq, true_and] at h
    subst h
    exact .of_eq rfl
  | hello | ready | sessionDescription | speaking | heartbeatAck | video | mediaSinkWants
  | clientFlags | clientPlatform | daveMlsExternalSenderPackage | resumed =>
    exact .of_eq (return_slots h)

end DiscordVoice.Voice
