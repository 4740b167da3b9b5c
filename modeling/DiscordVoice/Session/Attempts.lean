import DiscordVoice.Session.Frames

namespace DiscordVoice.Session

open Schedule

/-- A task that has begun a rollover and has written has interrupted the playback before it. -/
def Epochs.Settled (e : Epochs) : Prop := e.rollover ≠ 0 → e.playback ≠ 0

theorem Epochs.settled_succ (n rollover : ℕ) : Settled ⟨n + 1, rollover⟩ := fun _ ↦ Nat.succ_ne_zero n

/-- A call of `play_with_epoch` goes by the last bumps of its task, which it has begun with. -/
structure Attempt.HeldAt (a : Attempt) (first last : Epochs) : Prop where
  epochs : last = ⟨a.playbackEpoch, a.rollover.getD 0⟩
  bumped : last.playback ≠ 0
  playback : first.playback = last.playback
  rollover : last.rollover ≠ 0 → first.rollover = last.rollover

/-- What the epochs were at the first bump of the task that stands here, what it has bumped them to,
and whether it may have written. -/
def Pc.StampedBy (first last : Epochs) (wrote : Bool) : Pc → Prop
  | .finished _ | .leavePlayback => True
  | .sendMedia _ next | .deliver _ _ next => next.StampedBy first last wrote
  | .checkRollover c yes no | .checkPlayback c yes no | .checkVideo c yes no =>
    c.rolloverEpoch = last.rollover ∧ yes.StampedBy first last wrote ∧ no.StampedBy first last wrote
  | .updateEnter _ | .rolloverEnter _ | .rolloverBegin _ _ | .playBegin _ | .leaveRollover =>
    last = {} ∧ wrote = false
  | .rolloverOwner r | .rolloverGeneration r | .rolloverWait r _ | .rolloverInterrupt r
  | .rolloverCompare r | .replaceGeneration r | .replaceInterrupt r | .matchInterrupt r =>
    r.epoch = last.rollover
  | .replaceClear r | .replaceGuard r | .replaceAnnounce r _ | .replaceConnect r _
  | .replaceSettle r _ _ | .replaceFailed r _ _ | .replaceCurrent r _ _ | .replaceInstall r _ _
  | .matchGuard r | .matchAnnounce r _ | .matchRefresh r _ | .reconnectedWrite r _ _ =>
    r.epoch = last.rollover ∧ last.Settled
  | .resumeBegin _ rolloverEpoch => rolloverEpoch = last.rollover ∧ last.Settled
  | .playHint a | .playResolve a _ | .playWaitEpoch a | .playWaitSlot a | .playPrepare a
  | .playPrepared a _ | .playBuffering a _ | .playFill a _ | .playFilled a _ | .playTake a _
  | .playSpeaking a _ _ | .playSpoken a _ _ | .playGiveBack a _ _ | .playGeneration a _ _ =>
    a.HeldAt first last
  | .pipeInstall p | .pipeDepth p | .pipePlaying p | .pipeSpawn p | .pipeLoop p | .pipeSelect p
  | .pipeEmit p _ | .pipeProgress p | .pipeClear p _ _ | .pipeStop p _ | .pipeAwait p _
  | .pipeInterrupted p _ | .pipeRestoreGeneration p _ | .pipeRestoreSlot p _ | .pipeBoundary p _ _
  | .pipePutBack p _ _ | .pipeReturned p _ | .pipeEnded p _ => p.attempt.HeldAt first last
  | _ => last.Settled

/-- The task stands in a call of `play_with_epoch` that was let in: by its caller, or by the rollover
epoch when the task of a rollover asked for it. -/
def Pc.admitted : Pc → Bool
  | .sendMedia _ next | .deliver _ _ next => next.admitted
  | .checkRollover _ _ no => no.admitted
  | .checkPlayback _ yes no | .checkVideo _ yes no => yes.admitted || no.admitted
  | .playHint _ | .playResolve _ _ | .playWaitEpoch _ | .playWaitSlot _ | .playPrepare _
  | .playPrepared _ _ | .playBuffering _ _ | .playFill _ _ | .playFilled _ _ | .playTake _ _
  | .playSpeaking _ _ _ | .playSpoken _ _ _ | .playGiveBack _ _ _ | .playGeneration _ _ _
  | .pipeInstall _ | .pipeDepth _ | .pipePlaying _ | .pipeSpawn _ | .pipeLoop _ | .pipeSelect _
  | .pipeEmit _ _ | .pipeProgress _ | .pipeClear _ _ _ | .pipeStop _ _ | .pipeAwait _ _
  | .pipeInterrupted _ _ | .pipeRestoreGeneration _ _ | .pipeRestoreSlot _ _ | .pipeBoundary _ _ _
  | .pipePutBack _ _ _ | .pipeReturned _ _ | .pipeEnded _ _ => true
  | _ => false

section Stamps

variable {first last : Epochs} {wrote : Bool} {a : Attempt} {r : Rollover} {pc : Pc}

theorem Attempt.HeldAt.settled (h : a.HeldAt first last) : last.Settled := fun _ ↦ h.bumped

theorem playReturns_stampedBy (h : a.HeldAt first last) (outcome : Outcome) :
    (playReturns a outcome).StampedBy first last wrote := by
  unfold playReturns
  split
  next hrollover => exact ⟨by rw [h.epochs, hrollover]; rfl, h.settled, trivial⟩
  · trivial
  · trivial

theorem resumeIntended_stampedBy (h : r.epoch = last.rollover) (hsettled : last.Settled) (sh : Shared)
    (guard : ℕ) : (resumeIntended sh r guard).StampedBy first last wrote := by
  unfold resumeIntended
  split
  · split
    · exact ⟨h, ⟨h, hsettled⟩, trivial⟩
    · trivial
  · trivial

theorem resumeIntended_admitted (sh : Shared) (r : Rollover) (guard : ℕ) :
    (resumeIntended sh r guard).admitted = false := by
  unfold resumeIntended
  split
  · split <;> rfl
  · rfl

theorem pipeCleanUp_stampedBy {p : Pipeline} (h : p.attempt.HeldAt first last) (ending : Ending) :
    (pipeCleanUp p ending).StampedBy first last wrote := by
  unfold pipeCleanUp
  split <;> exact h

theorem pipeBoundaryDone_stampedBy {p : Pipeline} (h : p.attempt.HeldAt first last) (ending : Ending)
    (session : SessionHandle) : (pipeBoundaryDone p ending session).StampedBy first last wrote := by
  unfold pipeBoundaryDone
  split <;> exact h

theorem Pc.StampedBy.unbumped (h : pc.StampedBy first last wrote) (hk : pc.kind = .rolloverEpoch) :
    last = {} ∧ wrote = false := by
  cases pc <;> first | exact h | cases hk

theorem Pc.StampedBy.settled (h : pc.StampedBy first last wrote)
    (hk : pc.kind = .snapshot ∨ pc.kind = .join) : last.Settled := by
  cases pc <;> first | exact h | exact h.2 | exact h.settled | (rcases hk with hk | hk <;> cases hk)

theorem Pc.StampedBy.of_unbumped (h : pc.StampedBy first {} wrote) (e : Epochs) :
    pc.StampedBy e {} wrote := by
  induction pc with
  | sendMedia command next ih => exact ih h
  | deliver channel command next ih => exact ih h
  | checkRollover c yes no ihyes ihno => exact ⟨h.1, ihyes h.2.1, ihno h.2.2⟩
  | checkPlayback c yes no ihyes ihno => exact ⟨h.1, ihyes h.2.1, ihno h.2.2⟩
  | checkVideo c yes no ihyes ihno => exact ⟨h.1, ihyes h.2.1, ihno h.2.2⟩
  | _ => first | exact h | exact absurd rfl h.bumped

theorem Pc.StampedBy.heldAt (h : pc.StampedBy first last wrote) (hadmitted : pc.admitted = true) :
    ∃ a : Attempt, a.HeldAt first last := by
  induction pc with
  | sendMedia command next ih => exact ih h hadmitted
  | deliver channel command next ih => exact ih h hadmitted
  | checkRollover c yes no ihyes ihno => exact ihno h.2.2 hadmitted
  | checkPlayback c yes no ihyes ihno =>
    exact (Bool.or_eq_true_iff.mp hadmitted).elim (ihyes h.2.1) (ihno h.2.2)
  | checkVideo c yes no ihyes ihno =>
    exact (Bool.or_eq_true_iff.mp hadmitted).elim (ihyes h.2.1) (ihno h.2.2)
  | _ => first | exact ⟨_, h⟩ | cases hadmitted

end Stamps

section Access

variable {sh sh' : Shared} {pc pc' : Pc} {spawned : List Pc} {first last : Epochs} {wrote wrote' : Bool}

theorem Frame.epochs {k : Kind} (h : Frame k sh sh') (e : Epochs) : e.after sh sh' =
    ⟨if k = .playbackEpoch then sh.playbackEpoch + 1 else e.playback,
      if k = .rolloverEpoch then sh.rolloverEpoch + 1 else e.rollover⟩ := by
  rw [Epochs.after, h.playbackEpoch, h.rolloverEpoch]
  by_cases hp : k = .playbackEpoch <;> by_cases hr : k = .rolloverEpoch <;> simp [hp, hr]

/-- An attempt keeps the epochs it goes by, and begins with those of its own bumps. -/
theorem Access.stampedBy (h : Access sh pc sh' pc' spawned) (hn : pc.StampedBy first last wrote)
    (hfirst : last = {} → first = sh'.epochs)
    (hwrote : pc.kind ≠ .snapshot → pc.kind ≠ .join → wrote' = wrote) :
    (pc.kind ≠ .playbackEpoch ∧ pc.kind ≠ .rolloverEpoch ∧ pc'.StampedBy first last wrote' ∧
        spawned = []) ∨
      (pc.kind = .playbackEpoch ∧
        pc'.StampedBy first ⟨sh.playbackEpoch + 1, last.rollover⟩ wrote' ∧
        ∀ q ∈ spawned, q.StampedBy ⟨sh.playbackEpoch + 1, last.rollover⟩
          ⟨sh.playbackEpoch + 1, last.rollover⟩ false) ∨
      (pc.kind = .rolloverEpoch ∧ pc'.StampedBy first ⟨last.playback, sh.rolloverEpoch + 1⟩ wrote' ∧
        spawned = []) := by
  cases h
  case resumeBegin videoId rolloverEpoch =>
    refine .inr (.inl ⟨rfl, trivial, fun q hq ↦ ?_⟩)
    cases List.mem_singleton.mp hq
    exact ⟨hn.1, ⟨congrArg (Epochs.mk _) hn.1.symm, Nat.succ_ne_zero _, rfl, fun _ ↦ rfl⟩, trivial⟩
  case playBegin =>
    obtain ⟨rfl, -⟩ := hn
    cases hfirst rfl
    exact .inr (.inl ⟨rfl, ⟨rfl, Nat.succ_ne_zero _, rfl, fun h ↦ absurd rfl h⟩, nofun⟩)
  case stopInterrupt active generation =>
    refine .inr (.inl ⟨rfl, ?_, nofun⟩)
    cases active <;> exact Epochs.settled_succ _ _
  case stopReturned active generation =>
    refine .inl ⟨nofun, nofun, ?_, rfl⟩
    cases active <;> exact hn
  case leaveGeneration active count =>
    refine .inl ⟨nofun, nofun, ?_, rfl⟩
    cases active <;> exact hn
  case updateRollover => exact .inl ⟨nofun, nofun, hwrote nofun nofun ▸ hn, rfl⟩
  case rolloverEnter => exact .inl ⟨nofun, nofun, hwrote nofun nofun ▸ hn, rfl⟩
  case updatePaused => exact .inl ⟨nofun, nofun, fun hr ↦ absurd (congrArg Epochs.rollover hn.1) hr, rfl⟩
  case sendChannel => exact .inl ⟨nofun, nofun, hwrote nofun nofun ▸ hn, rfl⟩
  case sendNowhere => exact .inl ⟨nofun, nofun, hwrote nofun nofun ▸ hn, rfl⟩
  case deliver => exact .inl ⟨nofun, nofun, hwrote nofun nofun ▸ hn, rfl⟩
  case rolloverCurrent => exact .inl ⟨nofun, nofun, hwrote nofun nofun ▸ hn, rfl⟩
  case playbackCurrent => exact .inl ⟨nofun, nofun, hwrote nofun nofun ▸ hn, rfl⟩
  case videoLoaded => exact .inl ⟨nofun, nofun, hwrote nofun nofun ▸ hn.2.1, rfl⟩
  case rolloverStale => exact .inl ⟨nofun, nofun, hwrote nofun nofun ▸ hn.2.2, rfl⟩
  case playbackStale => exact .inl ⟨nofun, nofun, hwrote nofun nofun ▸ hn.2.2, rfl⟩
  case videoGone => exact .inl ⟨nofun, nofun, hwrote nofun nofun ▸ hn.2.2, rfl⟩
  case selectAgain q hq => exact .inl ⟨nofun, nofun, (congrArg (·.HeldAt first last) hq.1).mpr hn, rfl⟩
  case selectEmit q kind hq =>
    exact .inl ⟨nofun, nofun, (congrArg (·.HeldAt first last) hq.1).mpr hn, rfl⟩
  case selectProgress q hq =>
    exact .inl ⟨nofun, nofun, (congrArg (·.HeldAt first last) hq.1).mpr hn, rfl⟩
  case replaceFailedLoaded => exact .inl ⟨nofun, nofun, ⟨hn.1, hn.2, hn.2⟩, rfl⟩
  case reconnected => exact .inl ⟨nofun, nofun, resumeIntended_stampedBy hn.1 hn.2 _ _, rfl⟩
  case restoreStale => exact .inl ⟨nofun, nofun, pipeCleanUp_stampedBy hn _, rfl⟩
  case restoreDecided => exact .inl ⟨nofun, nofun, pipeCleanUp_stampedBy hn _, rfl⟩
  case boundary => exact .inl ⟨nofun, nofun, pipeBoundaryDone_stampedBy hn _ _, rfl⟩
  all_goals first
    | exact .inr (.inr ⟨rfl, rfl, rfl⟩)
    | exact .inr (.inr ⟨rfl, trivial, rfl⟩)
    | exact .inr (.inl ⟨rfl, hn, nofun⟩)
    | exact .inr (.inl ⟨rfl, ⟨hn, Epochs.settled_succ _ _⟩, nofun⟩)
    | exact .inr (.inl ⟨rfl, Epochs.settled_succ _ _, nofun⟩)
    | exact .inl ⟨nofun, nofun, hn, rfl⟩
    | exact .inl ⟨nofun, nofun, trivial, rfl⟩
    | exact .inl ⟨nofun, nofun, hn.2, rfl⟩
    | exact .inl ⟨nofun, nofun, playReturns_stampedBy hn _, rfl⟩

/-- A task is let in while the rollover epoch is the one it asks with; a `Play` asks with none. -/
theorem Access.admitted (h : Access sh pc sh' pc' spawned) (hn : pc.StampedBy first last wrote)
    (hadmitted : pc'.admitted = true) :
    pc.kind ≠ .rolloverEpoch ∧ (pc.admitted = true ∧ pc.kind ≠ .playbackEpoch ∨ last = {} ∨
      last.rollover = sh.rolloverEpoch) := by
  cases h
  case rolloverCurrent c yes no hc => exact ⟨nofun, .inr (.inr (hn.1.symm.trans hc.symm))⟩
  case playBegin => exact ⟨nofun, .inr (.inl hn.1)⟩
  case sendChannel => exact ⟨nofun, .inl ⟨hadmitted, nofun⟩⟩
  case sendNowhere => exact ⟨nofun, .inl ⟨hadmitted, nofun⟩⟩
  case deliver => exact ⟨nofun, .inl ⟨hadmitted, nofun⟩⟩
  case rolloverStale => exact ⟨nofun, .inl ⟨hadmitted, nofun⟩⟩
  case playbackCurrent => exact ⟨nofun, .inl ⟨hadmitted, nofun⟩⟩
  case playbackStale => exact ⟨nofun, .inl ⟨Bool.or_eq_true_iff.mpr (.inr hadmitted), nofun⟩⟩
  case videoLoaded => exact ⟨nofun, .inl ⟨Bool.or_eq_true_iff.mpr (.inl hadmitted), nofun⟩⟩
  case videoGone => exact ⟨nofun, .inl ⟨Bool.or_eq_true_iff.mpr (.inr hadmitted), nofun⟩⟩
  case reconnected =>
    rw [resumeIntended_admitted] at hadmitted
    cases hadmitted
  case stopInterrupt active generation => cases active <;> cases hadmitted
  case stopReturned active generation => cases active <;> cases hadmitted
  case leaveGeneration active count => cases active <;> cases hadmitted
  all_goals first
    | (cases hadmitted; done)
    | exact ⟨nofun, .inl ⟨rfl, nofun⟩⟩

theorem Access.spawned_admitted (h : Access sh pc sh' pc' spawned) :
    ∀ q ∈ spawned, q.admitted = false := by
  cases h
  case resumeBegin =>
    intro q hq
    cases List.mem_singleton.mp hq
    rfl
  all_goals exact nofun

end Access

/-- Where a later rollover has bumped the playback epoch as well, it has done so later too. -/
def Epochs.Behind (first later : Epochs) : Prop :=
  first.rollover < later.rollover → later.playback ≠ 0 → first.playback < later.playback

/-- No attempt holds an epoch that has not come yet, and one that was let in is behind the rollovers
that began later. -/
structure Dated (rt : Runtime) : Prop where
  first : ∀ (j : ℕ) (t : Task), rt.tasks[j]? = some t → t.firstBump.playback ≤ rt.shared.playbackEpoch
  last : ∀ (j : ℕ) (t : Task), rt.tasks[j]? = some t →
    t.lastBump.playback ≤ rt.shared.playbackEpoch ∧ t.lastBump.rollover ≤ rt.shared.rolloverEpoch
  stamp : ∀ (j : ℕ) (t : Task), rt.tasks[j]? = some t →
    t.pc.StampedBy t.firstBump t.lastBump t.wrote
  wrote : ∀ (j : ℕ) (t : Task), rt.tasks[j]? = some t → t.wrote = true → t.lastBump.Settled
  behind : ∀ (j k : ℕ) (t u : Task), rt.tasks[j]? = some t → rt.tasks[k]? = some u →
    t.pc.admitted = true → t.firstBump.Behind u.lastBump

namespace Dated

theorem fresh (hasPlayback : Bool) : Dated (.fresh hasPlayback) where
  first j t ht := by cases ht
  last j t ht := by cases ht
  stamp j t ht := by cases ht
  wrote j t ht := by cases ht
  behind j k t u ht := by cases ht

variable {rt : Runtime}

theorem start (h : Dated rt) (command : Command) :
    Dated ⟨rt.shared, rt.tasks ++ [.start command]⟩ where
  first j t ht := by
    obtain ht | ⟨-, rfl⟩ := Pool.get_started ht
    · exact h.first j t ht
    · exact Nat.zero_le _
  last j t ht := by
    obtain ht | ⟨-, rfl⟩ := Pool.get_started ht
    · exact h.last j t ht
    · exact ⟨Nat.zero_le _, Nat.zero_le _⟩
  stamp j t ht := by
    obtain ht | ⟨-, rfl⟩ := Pool.get_started ht
    · exact h.stamp j t ht
    · cases command <;> first | exact ⟨rfl, rfl⟩ | exact fun hr ↦ absurd rfl hr
  wrote j t ht := by
    obtain ht | ⟨-, rfl⟩ := Pool.get_started ht
    · exact h.wrote j t ht
    · exact nofun
  behind j k t u ht hu hadmitted := by
    obtain ht | ⟨-, rfl⟩ := Pool.get_started ht
    · obtain hu | ⟨-, rfl⟩ := Pool.get_started hu
      · exact h.behind j k t u ht hu hadmitted
      · exact fun hlt ↦ absurd hlt (Nat.not_lt_zero _)
    · cases command <;> cases hadmitted

theorem quiet (h : Dated rt) {sh' : Shared} (hf : Frame .quiet rt.shared sh') :
    Dated ⟨sh', rt.tasks⟩ := by
  have hp : sh'.playbackEpoch = rt.shared.playbackEpoch := hf.playbackEpoch
  have hr : sh'.rolloverEpoch = rt.shared.rolloverEpoch := hf.rolloverEpoch
  exact ⟨fun j t ht ↦ hp ▸ h.first j t ht, fun j t ht ↦ hp ▸ hr ▸ h.last j t ht, h.stamp, h.wrote,
    h.behind⟩

section Step

variable {i : ℕ} {t : Task} {sh' : Shared} {pc : Pc} {spawned : List Pc}

theorem after_last (h : Dated rt) (ht : rt.tasks[i]? = some t) {k : Kind}
    (hf : Frame k rt.shared sh') :
    (t.after rt.shared sh' pc).lastBump.playback ≤ sh'.playbackEpoch ∧
      (t.after rt.shared sh' pc).lastBump.rollover ≤ sh'.rolloverEpoch := by
  obtain ⟨hp, hr⟩ := h.last i t ht
  have hepoch := hf.playbackEpoch
  have hrollover := hf.rolloverEpoch
  rw [Task.after, hf.epochs]
  constructor
  · dsimp only
    split_ifs at hepoch ⊢ <;> omega
  · dsimp only
    split_ifs at hrollover ⊢ <;> omega

theorem after_first (h : Dated rt) (ht : rt.tasks[i]? = some t) {k : Kind}
    (hf : Frame k rt.shared sh') :
    (t.after rt.shared sh' pc).firstBump.playback ≤ sh'.playbackEpoch := by
  rw [Task.after]
  dsimp only
  split_ifs
  · exact le_rfl
  · exact (h.first i t ht).trans (hf.playbackEpoch ▸ Nat.le_add_right _ _)

theorem after_stamp (h : Dated rt) (ht : rt.tasks[i]? = some t)
    (ha : Access rt.shared t.pc sh' pc spawned) :
    (t.after rt.shared sh' pc).pc.StampedBy (t.after rt.shared sh' pc).firstBump
        (t.after rt.shared sh' pc).lastBump (t.after rt.shared sh' pc).wrote ∧
      ∀ q ∈ spawned, q.StampedBy (t.after rt.shared sh' pc).lastBump
        (t.after rt.shared sh' pc).lastBump false := by
  have hf := ha.frame
  have hfirst : t.lastBump = {} → (t.after rt.shared sh' pc).firstBump = sh'.epochs := fun hlast ↦
    if_pos hlast
  have hstamp : t.pc.StampedBy (t.after rt.shared sh' pc).firstBump t.lastBump t.wrote := by
    have hstamp := h.stamp i t ht
    by_cases hlast : t.lastBump = {}
    · rw [hlast] at hstamp ⊢
      exact hstamp.of_unbumped _
    · rwa [Task.after, if_neg hlast]
  have hwrote : t.pc.kind ≠ .snapshot → t.pc.kind ≠ .join →
      (t.after rt.shared sh' pc).wrote = t.wrote := fun hs hj ↦ by
    simp [Task.after, hf.writes hs hj]
  have hlast : (t.after rt.shared sh' pc).lastBump = _ := hf.epochs t.lastBump
  rw [hlast]
  obtain ⟨hk, hk', hpc, rfl⟩ | ⟨hk, hpc, hspawned⟩ | ⟨hk, hpc, rfl⟩ :=
    ha.stampedBy hstamp hfirst hwrote
  · rw [if_neg hk, if_neg hk']
    exact ⟨hpc, nofun⟩
  · rw [if_pos hk, if_neg (by rw [hk]; nofun)]
    exact ⟨hpc, hspawned⟩
  · rw [if_pos hk, if_neg (by rw [hk]; nofun)]
    exact ⟨hpc, nofun⟩

theorem after_wrote (h : Dated rt) (ht : rt.tasks[i]? = some t)
    (ha : Access rt.shared t.pc sh' pc spawned) (hwrote : (t.after rt.shared sh' pc).wrote = true) :
    (t.after rt.shared sh' pc).lastBump.Settled := by
  have hf := ha.frame
  have hstamp := h.stamp i t ht
  change (t.lastBump.after rt.shared sh').Settled
  rw [hf.epochs]
  by_cases hp : t.pc.kind = .playbackEpoch
  · rw [if_pos hp]
    exact Epochs.settled_succ _ _
  · rw [if_neg hp]
    by_cases hw : t.pc.kind = .snapshot ∨ t.pc.kind = .join
    · have hr : t.pc.kind ≠ .rolloverEpoch := by
        rcases hw with hw | hw <;> rw [hw] <;> nofun
      rw [if_neg hr]
      exact hstamp.settled hw
    · obtain ⟨hs, hj⟩ := not_or.mp hw
      have hbefore : t.wrote = true := by
        simpa [Task.after, hf.writes hs hj] using hwrote
      have hr : t.pc.kind ≠ .rolloverEpoch := fun hr ↦ by
        rw [(hstamp.unbumped hr).2] at hbefore
        cases hbefore
      rw [if_neg hr]
      exact h.wrote i t ht hbefore

/-- A task that bumps an epoch stays ahead of the others, as it interrupts the playback after it has
begun a rollover. -/
theorem behind_after (h : Dated rt) (ht : rt.tasks[i]? = some t)
    (ha : Access rt.shared t.pc sh' pc spawned) {first : Epochs}
    (hfirst : first.playback ≤ rt.shared.playbackEpoch) (hbehind : first.Behind t.lastBump) :
    first.Behind (t.after rt.shared sh' pc).lastBump := by
  have hstamp := h.stamp i t ht
  change first.Behind (t.lastBump.after rt.shared sh')
  rw [ha.frame.epochs]
  by_cases hp : t.pc.kind = .playbackEpoch
  · rw [if_pos hp]
    exact fun _ _ ↦ Nat.lt_succ_of_le hfirst
  · rw [if_neg hp]
    by_cases hr : t.pc.kind = .rolloverEpoch
    · intro _ hplayback
      rw [(hstamp.unbumped hr).1] at hplayback
      exact absurd rfl hplayback
    · rw [if_neg hr]
      exact hbehind

theorem after_behind (h : Dated rt) (ht : rt.tasks[i]? = some t)
    (ha : Access rt.shared t.pc sh' pc spawned) {e : Epochs}
    (hrollover : e.rollover ≤ rt.shared.rolloverEpoch) (hbehind : t.pc.admitted = true → t.firstBump.Behind e)
    (hadmitted : pc.admitted = true) : (t.after rt.shared sh' pc).firstBump.Behind e := by
  obtain ⟨hr, hin⟩ := ha.admitted (h.stamp i t ht) hadmitted
  have hkept : sh'.rolloverEpoch = rt.shared.rolloverEpoch := by
    rw [ha.frame.rolloverEpoch, if_neg hr]
    rfl
  obtain ⟨hbefore, -⟩ | hnone | hcurrent := hin
  · obtain ⟨a, ha'⟩ := (h.stamp i t ht).heldAt hbefore
    rw [Task.after, if_neg fun hlast ↦ ha'.bumped (congrArg Epochs.playback hlast)]
    exact hbehind hbefore
  · intro hlt
    rw [Task.after, if_pos hnone] at hlt
    exact absurd (hrollover.trans_eq hkept.symm) (Nat.not_le_of_lt hlt)
  · obtain ⟨a, ha'⟩ := (h.after_stamp ht ha).1.heldAt hadmitted
    have hlast : (t.after rt.shared sh' pc).lastBump.rollover = rt.shared.rolloverEpoch := by
      rw [Task.after, ha.frame.epochs, if_neg hr]
      exact hcurrent
    intro hlt
    have hfirst := ha'.rollover
    omega

theorem task (h : Dated rt) (ht : rt.tasks[i]? = some t)
    (ha : Access rt.shared t.pc sh' pc spawned) :
    Dated ⟨sh', rt.tasks.set i (t.after rt.shared sh' pc) ++
      spawned.map (t.after rt.shared sh' pc).spawn⟩ := by
  have hf := ha.frame
  have hlast : (t.after rt.shared sh' pc).lastBump.playback ≤ sh'.playbackEpoch ∧
      (t.after rt.shared sh' pc).lastBump.rollover ≤ sh'.rolloverEpoch := h.after_last ht hf
  have hstamp := h.after_stamp ht ha
  refine ⟨fun j u hu ↦ ?_, fun j u hu ↦ ?_, fun j u hu ↦ ?_, fun j u hu hwrote ↦ ?_,
    fun j k u v hu hv hadmitted ↦ ?_⟩
  · obtain ⟨-, rfl⟩ | ⟨-, hu⟩ | ⟨-, hu⟩ := Pool.get_after hu
    · exact h.after_first ht hf
    · exact (h.first j u hu).trans (hf.playbackEpoch ▸ Nat.le_add_right _ _)
    · obtain ⟨q, -, rfl⟩ := List.mem_map.mp hu
      exact hlast.1
  · obtain ⟨-, rfl⟩ | ⟨-, hu⟩ | ⟨-, hu⟩ := Pool.get_after hu
    · exact hlast
    · obtain ⟨hp, hr⟩ := h.last j u hu
      exact ⟨hp.trans (hf.playbackEpoch ▸ Nat.le_add_right _ _),
        hr.trans (hf.rolloverEpoch ▸ Nat.le_add_right _ _)⟩
    · obtain ⟨q, -, rfl⟩ := List.mem_map.mp hu
      exact hlast
  · obtain ⟨-, rfl⟩ | ⟨-, hu⟩ | ⟨-, hu⟩ := Pool.get_after hu
    · exact hstamp.1
    · exact h.stamp j u hu
    · obtain ⟨q, hq, rfl⟩ := List.mem_map.mp hu
      exact hstamp.2 q hq
  · obtain ⟨-, rfl⟩ | ⟨-, hu⟩ | ⟨-, hu⟩ := Pool.get_after hu
    · exact h.after_wrote ht ha hwrote
    · exact h.wrote j u hu hwrote
    · obtain ⟨q, -, rfl⟩ := List.mem_map.mp hu
      cases hwrote
  · have hself : (t.after rt.shared sh' pc).pc.admitted = true →
        (t.after rt.shared sh' pc).firstBump.Behind (t.after rt.shared sh' pc).lastBump := fun hadmitted ↦ by
      obtain ⟨a, ha'⟩ := hstamp.1.heldAt hadmitted
      intro hlt
      have := ha'.rollover
      omega
    obtain ⟨-, rfl⟩ | ⟨-, hu⟩ | ⟨-, hu⟩ := Pool.get_after hu
    · obtain ⟨-, rfl⟩ | ⟨-, hv⟩ | ⟨-, hv⟩ := Pool.get_after hv
      · exact hself hadmitted
      · exact h.after_behind ht ha (h.last k v hv).2 (h.behind i k t v ht hv) hadmitted
      · obtain ⟨q, -, rfl⟩ := List.mem_map.mp hv
        exact hself hadmitted
    · have hahead := h.behind_after ht ha (h.first j u hu) (h.behind j i u t hu ht hadmitted)
      obtain ⟨-, rfl⟩ | ⟨-, hv⟩ | ⟨-, hv⟩ := Pool.get_after hv
      · exact hahead
      · exact h.behind j k u v hu hv hadmitted
      · obtain ⟨q, -, rfl⟩ := List.mem_map.mp hv
        exact hahead
    · obtain ⟨q, hq, rfl⟩ := List.mem_map.mp hu
      rw [Task.spawn, ha.spawned_admitted q hq] at hadmitted
      cases hadmitted

end Step

theorem step {rt' : Runtime} {move : Move} (h : Dated rt) (hstep : rt.step move = some rt') :
    Dated rt' := by
  obtain ⟨command, -, rfl⟩ | ⟨i, answer, t, sh', pc, spawned, -, ht, ha, rfl⟩ | ⟨e, sh', -, he, rfl⟩ :=
    step_cases hstep
  · exact h.start command
  · exact h.task ht ha
  · exact h.quiet (frame_driverMove he)

theorem run {hasPlayback : Bool} {moves : List Move}
    (h : exec Runtime.step (.fresh hasPlayback) moves = some rt) : Dated rt :=
  exec_invariant (fun _ _ _ hd hs ↦ hd.step hs) (.fresh hasPlayback) h

end Dated

/-- The writes that report about the track of an attempt: `emit_playback_state`, the progress
updates, `TrackEnded`, `interrupt_playback`, `recover_rollover_without_playback`, the reconnected
write of a rollover and the last write of `stop`. -/
def Pc.reportsTrack : Pc → Bool
  | .playBuffering _ _ | .pipePlaying _ | .pipeEmit _ _ | .pipeProgress _ | .pipeEnded _ _
  | .interruptWrite _ _ | .recoverWrite _ _ | .reconnectedWrite _ _ _ | .stopWrite => true
  | _ => false

/-- The reports that are not preceded by a look at the playback epoch under the state lock. -/
def Pc.reportsUnchecked : Pc → Bool
  | .interruptWrite _ _ | .recoverWrite _ _ | .reconnectedWrite _ _ _ | .stopWrite => true
  | _ => false

/-- The reconnected write of a rollover leaves a loaded track alone. -/
def Pc.sparesLoadedTrack : Pc → Bool
  | .reconnectedWrite _ _ _ => true
  | _ => false

/-- `later` has bumped an epoch since the first bump of `t`, and has written the snapshot. -/
def Task.SupersededBy (t later : Task) : Prop :=
  later.wrote = true ∧ (t.firstBump.playback < later.lastBump.playback ∨
    t.firstBump.rollover < later.lastBump.rollover)

instance (t later : Task) : Decidable (t.SupersededBy later) := inferInstanceAs (Decidable (_ ∧ _))

/-- A task that reports about its track unchecked is superseded by no other one, or spares the track
that is loaded. -/
def reportsCurrent (rt : Runtime) : Move → Bool
  | .task i _ =>
    match rt.tasks[i]? with
    | some t =>
      !t.pc.reportsUnchecked || t.pc.sparesLoadedTrack && rt.shared.snapshot.currentVideoId.isSome ||
        (rt.tasks.eraseIdx i).all fun u ↦ !decide (t.SupersededBy u)
    | none => true
  | _ => true

theorem reconnected_track {s : Snapshot} {session : SessionHandle} (h : s.currentVideoId.isSome = true) :
    (s.reconnected session).track = s.track := by
  simp [Snapshot.reconnected, Snapshot.applyRolloverState, Snapshot.applyVoiceContext, Snapshot.track,
    Option.isNone_iff_eq_none, Option.isSome_iff_ne_none.mp h]

theorem Access.track_of_stale {sh sh' : Shared} {pc pc' : Pc} {spawned : List Pc} {first last : Epochs}
    {wrote : Bool} (h : Access sh pc sh' pc' spawned) (hstamp : pc.StampedBy first last wrote)
    (hstale : last.playback ≠ sh.playbackEpoch) (hreports : pc.reportsTrack = true)
    (hchecked : pc.reportsUnchecked = false) : sh'.snapshot.track = sh.snapshot.track := by
  have hmoved {a : Attempt} (ha : a.HeldAt first last) : sh.playbackEpoch ≠ a.playbackEpoch := fun he ↦
    hstale ((congrArg Epochs.playback ha.epochs).trans he.symm)
  cases h
  case buffering a p => rw [emitPlaybackState_stale (a := a) (hmoved hstamp)]
  case playing p => rw [emitPlaybackState_stale (hmoved hstamp)]
  case emitted p kind => rw [emitPlaybackState_stale (hmoved hstamp)]
  case progressStale => rfl
  case progressed h => exact absurd h (hmoved hstamp)
  case endedStale => rfl
  case ended h => exact absurd h (hmoved hstamp)
  all_goals first
    | (cases hreports; done)
    | cases hchecked

theorem Access.track_of_loaded {sh sh' : Shared} {pc pc' : Pc} {spawned : List Pc}
    (h : Access sh pc sh' pc' spawned) (hspares : pc.sparesLoadedTrack = true)
    (hv : sh.snapshot.currentVideoId.isSome = true) : sh'.snapshot.track = sh.snapshot.track := by
  cases h
  case reconnected => exact reconnected_track hv
  all_goals cases hspares

theorem Pc.admitted_of_checked {pc : Pc} (hreports : pc.reportsTrack = true)
    (hchecked : pc.reportsUnchecked = false) : pc.admitted = true := by
  cases pc <;> first | rfl | (cases hreports; done) | cases hchecked

section Superseded

variable {rt : Runtime} {i j : ℕ} {t u : Task}

theorem Dated.stale (h : Dated rt) (ht : rt.tasks[i]? = some t) (hu : rt.tasks[j]? = some u)
    (hadmitted : t.pc.admitted = true) (hlater : t.SupersededBy u) :
    t.lastBump.playback ≠ rt.shared.playbackEpoch := by
  obtain ⟨a, ha⟩ := (h.stamp i t ht).heldAt hadmitted
  have hplayback := ha.playback
  have hlast := (h.last j u hu).1
  obtain ⟨hwrote, hlt | hlt⟩ := hlater
  · omega
  · have hsettled := h.wrote j u hu hwrote (Nat.ne_zero_of_lt hlt)
    have hbehind := h.behind i j t u ht hu hadmitted hlt hsettled
    omega

/-- In a run in which no superseded task reports unchecked, one that reports changes nothing of the
track once another task that has bumped an epoch since its first bump has written the snapshot. -/
theorem superseded_report_of_reportsCurrent {hasPlayback : Bool} {moves : List Move}
    {answer : Answer} {rt' : Runtime}
    (hok : Throughout Runtime.step (fun rt move ↦ reportsCurrent rt move = true)
      (.fresh hasPlayback) (moves ++ [.task i answer]))
    (hrun : exec Runtime.step (.fresh hasPlayback) moves = some rt)
    (hstep : rt.step (.task i answer) = some rt') (ht : rt.tasks[i]? = some t)
    (hreports : t.pc.reportsTrack = true) (hu : rt.tasks[j]? = some u) (hother : j ≠ i)
    (hlater : t.SupersededBy u) :
    rt'.shared.snapshot.track = rt.shared.snapshot.track := by
  have hdated : Dated rt := .run hrun
  have hcurrent := (throughout_concat hok hrun).2
  obtain ⟨command, hmove, -⟩ | ⟨k, answer', v, sh', pc, spawned, hmove, hv, ha, rfl⟩ | ⟨e, sh', hmove, -⟩ :=
    step_cases hstep
  · cases hmove
  · cases hmove
    cases ht.symm.trans hv
    cases hchecked : t.pc.reportsUnchecked with
    | false =>
      have hadmitted := Pc.admitted_of_checked hreports hchecked
      exact ha.track_of_stale (hdated.stamp i t ht) (hdated.stale ht hu hadmitted hlater) hreports hchecked
    | true =>
      simp only [reportsCurrent, ht, hchecked, Bool.not_true, Bool.false_or, Bool.or_eq_true,
        Bool.and_eq_true] at hcurrent
      obtain ⟨hspares, hloaded⟩ | hnone := hcurrent
      · exact ha.track_of_loaded hspares hloaded
      · have hmem := List.mem_eraseIdx_iff_getElem?.mpr ⟨j, hother, hu⟩
        have hnot := List.all_eq_true.mp hnone u hmem
        rw [decide_eq_true hlater] at hnot
        cases hnot
  · cases hmove

end Superseded

/-- `Play` of one track up to its `Buffering` report, then `Play` of another up to its first write. -/
def playTwice : List Move :=
  joinLobby ++ .start (.play "first") :: runs 1 5 ++
    [.task 1 (.prepared ⟨251, 10, 0⟩), .task 1 .go, .start (.play "second")] ++ runs 2 3

theorem superseded_report_playTwice :
    ∃ rt rt' t u, exec Runtime.step .withPlaybackWorker playTwice = some rt ∧
      rt.step (.task 1 .go) = some rt' ∧ rt.tasks[1]? = some t ∧ t.pc.reportsTrack = true ∧
      rt.tasks[2]? = some u ∧ t.SupersededBy u ∧
      rt'.shared.snapshot.track = rt.shared.snapshot.track := by
  have hok : allowed Runtime.step reportsCurrent .withPlaybackWorker (playTwice ++ [.task 1 .go]) = true := by
    decide +kernel
  have hends : (exec Runtime.step .withPlaybackWorker playTwice).map (fun rt ↦
      ((rt.step (.task 1 .go)).isSome, rt.tasks[1]?.map fun t ↦ (t.pc.reportsTrack, t.firstBump),
        rt.tasks[2]?.map fun u ↦ (u.wrote, u.lastBump))) =
      some (true, some (true, ⟨1, 0⟩), some (true, ⟨2, 0⟩)) := by
    decide +kernel
  obtain ⟨rt, hrun, hrt⟩ := Option.map_eq_some_iff.mp hends
  simp only [Prod.mk.injEq, Option.map_eq_some_iff] at hrt
  obtain ⟨hstep, ⟨t, ht, hreports, hbump⟩, u, hu, hwrote, hbump'⟩ := hrt
  obtain ⟨rt', hrt'⟩ := Option.isSome_iff_exists.mp hstep
  have hlater : t.SupersededBy u := by
    refine ⟨hwrote, .inl ?_⟩
    rw [hbump, hbump']
    exact Nat.one_lt_two
  exact ⟨rt, rt', t, u, hrun, hrt', ht, hreports, hu, hlater,
    superseded_report_of_reportsCurrent (throughout_of_allowed hok) hrun hrt' ht hreports hu (by decide) hlater⟩

/-- `stop` bumps the playback epoch, a later `Play` bumps it again and reports its track, and then
`stop` reports that nothing is loaded. -/
def stopBehindPlay : List Move :=
  joinLobby ++ .start .stop :: runs 1 7 ++ .start (.play "video") :: runs 2 3

theorem stop_overwrites_later_play :
    ∃ rt rt' t u, exec Runtime.step .withPlaybackWorker stopBehindPlay = some rt ∧
      rt.step (.task 1 .go) = some rt' ∧ rt.tasks[1]? = some t ∧ t.pc.reportsTrack = true ∧
      rt.tasks[2]? = some u ∧ t.SupersededBy u ∧
      rt'.shared.snapshot.track ≠ rt.shared.snapshot.track := by
  have hends : (exec Runtime.step .withPlaybackWorker stopBehindPlay).map (fun rt ↦
      ((rt.step (.task 1 .go)).map fun rt' ↦ rt'.shared.snapshot.track.state,
        rt.shared.snapshot.track.state)) = some (some .voiceReady, .resolvingTrack) := by
    decide +kernel
  have htasks : (exec Runtime.step .withPlaybackWorker stopBehindPlay).map (fun rt ↦
      (rt.tasks[1]?.map fun t ↦ (t.pc.reportsTrack, t.firstBump),
        rt.tasks[2]?.map fun u ↦ (u.wrote, u.lastBump))) =
      some (some (true, ⟨1, 0⟩), some (true, ⟨2, 0⟩)) := by
    decide +kernel
  obtain ⟨rt, hrun, hrt⟩ := Option.map_eq_some_iff.mp hends
  rw [hrun] at htasks
  simp only [Option.map_some, Option.some.injEq, Prod.mk.injEq, Option.map_eq_some_iff] at hrt htasks
  obtain ⟨⟨rt', hstep, hafter⟩, hbefore⟩ := hrt
  obtain ⟨⟨t, ht, hreports, hbump⟩, u, hu, hwrote, hbump'⟩ := htasks
  refine ⟨rt, rt', t, u, hrun, hstep, ht, hreports, hu, ⟨hwrote, .inl ?_⟩, fun hsame ↦ ?_⟩
  · rw [hbump, hbump']
    exact Nat.one_lt_two
  · rw [hsame, hbefore] at hafter
    cases hafter

end DiscordVoice.Session
