import DiscordVoice.Session.Frames

namespace DiscordVoice.Session

open Schedule

/-- Once the snapshot is the default one, the task writes it no more, and with `slot` it puts no
session into the voice slot either: all it may still do is behind a check that fails from now on. -/
def Pc.harmless (slot : Bool) (sh : Shared) : Pc → Bool
  | .sendMedia _ next | .deliver _ _ next => next.harmless slot sh
  | .checkRollover _ _ no | .checkPlayback _ _ no | .checkVideo _ _ no => no.harmless slot sh
  | .finished _ | .updateEnter _ | .rolloverEnter _ | .refreshWrite _ | .resumeBegin _ _ | .playBegin _
  | .playHint _ | .playResolve _ _ | .pauseEnter | .pauseWrite | .resumeEnter | .resumeWrite | .stopEnter
  | .leaveRollover | .leavePlayback | .leaveOwner | .leaveCount _ | .leaveGeneration _ _
  | .leaveStopped _ | .leaveClear | .leaveWrite | .leaveSlot => true
  | .refreshOwner _ | .refreshSlot _ | .refreshSuspend _ => !slot
  | .replaceConnect r _ | .replaceSettle r _ _ | .replaceFailed r _ _ | .replaceCurrent r _ _ =>
    r.epoch < sh.rolloverEpoch
  | .playWaitEpoch a | .playWaitSlot a | .playPrepare a | .playPrepared a _ | .playBuffering a _
  | .playFill a _ | .playFilled a _ | .playTake a _ => a.playbackEpoch < sh.playbackEpoch
  | .playSpeaking a _ _ | .playSpoken a _ _ | .playGiveBack a _ _ | .playGeneration a _ _ =>
    !slot && a.playbackEpoch < sh.playbackEpoch
  | .pipeInstall p | .pipeDepth p | .pipePlaying p | .pipeSpawn p | .pipeLoop p | .pipeSelect p
  | .pipeEmit p _ | .pipeProgress p | .pipeClear p _ _ | .pipeStop p _ | .pipeAwait p _
  | .pipeInterrupted p _ | .pipeRestoreGeneration p _ =>
    p.attempt.playbackEpoch < sh.playbackEpoch && (!slot || p.generation < sh.voiceTransportGeneration)
  | .pipeRestoreSlot p _ | .pipePutBack p _ _ => !slot && p.attempt.playbackEpoch < sh.playbackEpoch
  | .pipeBoundary p e _ => p.attempt.playbackEpoch < sh.playbackEpoch && (!slot || !e.restore)
  | .pipeReturned p _ | .pipeEnded p _ => p.attempt.playbackEpoch < sh.playbackEpoch
  | _ => false

section Harmless

variable {slot : Bool} {sh sh' : Shared} {pc pc' : Pc} {spawned : List Pc}

theorem harmless_mono (hp : sh.playbackEpoch ≤ sh'.playbackEpoch) (hr : sh.rolloverEpoch ≤ sh'.rolloverEpoch)
    (hg : sh.voiceTransportGeneration ≤ sh'.voiceTransportGeneration)
    (h : pc.harmless slot sh = true) : pc.harmless slot sh' = true := by
  induction pc
  case sendMedia ih => exact ih h
  case deliver ih => exact ih h
  case checkRollover ih => exact ih h
  case checkPlayback ih => exact ih h
  case checkVideo ih => exact ih h
  all_goals first
    | exact h
    | simp only [Pc.harmless, Bool.and_eq_true, Bool.or_eq_true, decide_eq_true_eq] at h ⊢
  all_goals first
    | exact ⟨h.1, by omega⟩
    | exact ⟨by omega, h.2⟩
    | exact ⟨by omega, h.2.imp_right fun _ ↦ by omega⟩
    | omega

theorem Frame.harmless {k : Kind} (hf : Frame k sh sh') (h : pc.harmless slot sh = true) :
    pc.harmless slot sh' = true := by
  have hp := hf.playbackEpoch
  have hr := hf.rolloverEpoch
  have hg := hf.generation
  exact harmless_mono (by omega) (by omega) (by omega) h

theorem playReturns_harmless (a : Attempt) (outcome : Outcome) :
    (playReturns a outcome).harmless slot sh = true := by
  unfold playReturns
  split <;> rfl

theorem pipeCleanUp_harmless {p : Pipeline} {e : Ending}
    (hp : p.attempt.playbackEpoch < sh.playbackEpoch) (hrestore : slot = false ∨ e.restore = false) :
    (pipeCleanUp p e).harmless slot sh = true := by
  unfold pipeCleanUp
  split
  · simpa [Pc.harmless, hp] using hrestore
  · simpa [Pc.harmless] using hp

theorem pipeBoundaryDone_harmless {p : Pipeline} {e : Ending} {session : SessionHandle}
    (hp : p.attempt.playbackEpoch < sh.playbackEpoch) (hrestore : slot = false ∨ e.restore = false) :
    (pipeBoundaryDone p e session).harmless slot sh = true := by
  unfold pipeBoundaryDone
  split
  · have hslot : slot = false := hrestore.resolve_right (by simp [*])
    simp [Pc.harmless, hp, hslot]
  · simpa [Pc.harmless] using hp

/-- What a harmless task leaves of a default snapshot and of an empty slot. -/
structure Undisturbed (slot : Bool) (sh sh' : Shared) (pc' : Pc) (spawned : List Pc) : Prop where
  snapshot : sh'.snapshot = {}
  voice : slot = true → sh.voice = none → sh'.voice = none
  next : pc'.harmless slot sh = true
  spawned : ∀ q ∈ spawned, q.harmless slot sh = true

theorem Undisturbed.same (hs : sh.snapshot = {}) (h : pc'.harmless slot sh = true) :
    Undisturbed slot sh sh pc' [] :=
  ⟨hs, fun _ hv ↦ hv, h, nofun⟩

theorem Undisturbed.of_frame {k : Kind} (hs : sh.snapshot = {}) (hf : Frame k sh sh')
    (hk : k = .quiet ∨ k = .playbackEpoch ∨ k = .rolloverEpoch ∨ k = .generation)
    (h : pc'.harmless slot sh = true) : Undisturbed slot sh sh' pc' [] := by
  have hsnapshot : sh'.snapshot = sh.snapshot := by
    obtain rfl | rfl | rfl | rfl := hk <;> exact hf.snapshot nofun nofun
  have hvoice : sh'.voice = sh.voice := by
    obtain rfl | rfl | rfl | rfl := hk <;> exact hf.voice nofun nofun
  exact ⟨hsnapshot.trans hs, fun _ hv ↦ hvoice.trans hv, h, nofun⟩

theorem Undisturbed.of_slot (hslot : slot = false) (hs : sh'.snapshot = {})
    (h : pc'.harmless slot sh = true) : Undisturbed slot sh sh' pc' [] :=
  ⟨hs, fun hs' ↦ absurd (hslot.symm.trans hs') nofun, h, nofun⟩

theorem Undisturbed.emitted {a : Attempt} {kind : PlaybackEventKind} {q : Prepared} (hs : sh.snapshot = {})
    (hstale : a.playbackEpoch < sh.playbackEpoch) (h : pc'.harmless slot sh = true) :
    Undisturbed slot sh (emitPlaybackState sh kind a q) pc' [] := by
  rw [emitPlaybackState_stale (by omega)]
  exact .same hs h

section DefaultSnapshot

variable (hs : sh.snapshot = {})

include hs

theorem hasVoice_default : hasVoice sh.snapshot ≠ true := by rw [hs]; exact nofun

theorem pauseGoesOn_default : pauseGoesOn sh.snapshot ≠ .ok true := by
  rw [hs]
  exact nofun

theorem resumeGoesOn_default : resumeGoesOn sh.snapshot ≠ .ok true := by
  rw [hs]
  exact nofun

theorem state_default : sh.snapshot.state ≠ .paused := by rw [hs]; exact nofun

theorem video_default (videoId : String) : sh.snapshot.currentVideoId ≠ some videoId := by
  rw [hs]
  exact nofun

end DefaultSnapshot

theorem Access.undisturbed (h : Access sh pc sh' pc' spawned) (hs : sh.snapshot = {})
    (hh : pc.harmless slot sh = true) : Undisturbed slot sh sh' pc' spawned := by
  have hframe := h.frame
  cases h
  case videoLoaded h => exact absurd h (video_default hs _)
  case updatePaused hv _ => exact absurd hv (hasVoice_default hs)
  case refreshed h => exact absurd h (state_default hs)
  case rolloverEnter h => exact absurd h (hasVoice_default hs)
  case resolving hv _ => exact absurd hv (hasVoice_default hs)
  case resolvingOnly hv _ => exact absurd hv (hasVoice_default hs)
  case paused h => exact absurd h (pauseGoesOn_default hs)
  case resumed h => exact absurd h (resumeGoesOn_default hs)
  case stopEnter h => exact absurd h (hasVoice_default hs)
  case replaceFailedLoaded h _ => simp only [Pc.harmless, decide_eq_true_eq] at hh; omega
  case replaceFailedEmpty h _ => simp only [Pc.harmless, decide_eq_true_eq] at hh; omega
  case replaceCurrent h => simp only [Pc.harmless, decide_eq_true_eq] at hh; omega
  case taken h _ => simp only [Pc.harmless, decide_eq_true_eq] at hh; omega
  case progressed h =>
    simp only [Pc.harmless, Bool.and_eq_true, decide_eq_true_eq] at hh
    omega
  case ended h => simp only [Pc.harmless, decide_eq_true_eq] at hh; omega
  case buffering => exact .emitted hs (of_decide_eq_true hh) hh
  case playing => exact .emitted hs (of_decide_eq_true (Bool.and_eq_true_iff.mp hh).1) hh
  case emitted => exact .emitted hs (of_decide_eq_true (Bool.and_eq_true_iff.mp hh).1) hh
  case refreshConnected => exact .of_slot (by simpa [Pc.harmless] using hh) hs hh
  case refreshDisconnected => exact .of_slot (by simpa [Pc.harmless] using hh) hs rfl
  case refreshSuspended => exact .of_slot (by simpa [Pc.harmless] using hh) hs rfl
  case refreshSuspendFailed => exact .of_slot (by simpa [Pc.harmless] using hh) hs rfl
  case givenBack =>
    simp only [Pc.harmless, Bool.and_eq_true, Bool.not_eq_true'] at hh
    exact .of_slot hh.1 hs (playReturns_harmless _ _)
  case putBack =>
    simp only [Pc.harmless, Bool.and_eq_true, Bool.not_eq_true'] at hh
    exact .of_slot hh.1 hs hh.2
  case playGeneration =>
    simp only [Pc.harmless, Bool.and_eq_true] at hh
    exact .same hs (by simp [Pc.harmless, hh.1, hh.2])
  case selectAgain q hq => exact .same hs (by simpa [Pc.harmless, hq.1, hq.2.1] using hh)
  case selectEmit q kind hq => exact .same hs (by simpa [Pc.harmless, hq.1, hq.2.1] using hh)
  case selectProgress q hq => exact .same hs (by simpa [Pc.harmless, hq.1, hq.2.1] using hh)
  case endingLost =>
    simp only [Pc.harmless, Bool.and_eq_true] at hh
    exact .same hs hh.1
  case restoreCurrent h =>
    simp only [Pc.harmless, Bool.and_eq_true, Bool.or_eq_true, decide_eq_true_eq] at hh
    have hslot : (!slot) = true := hh.2.resolve_right (by omega)
    exact .same hs (by simp [Pc.harmless, hslot, hh.1])
  case restoreStale =>
    simp only [Pc.harmless, Bool.and_eq_true, decide_eq_true_eq] at hh
    exact .same hs (pipeCleanUp_harmless hh.1 (.inr rfl))
  case restoreDecided =>
    simp only [Pc.harmless, Bool.and_eq_true, Bool.not_eq_true', decide_eq_true_eq] at hh
    exact .same hs (pipeCleanUp_harmless hh.2 (.inl hh.1))
  case boundary =>
    simp only [Pc.harmless, Bool.and_eq_true, Bool.or_eq_true, Bool.not_eq_true',
      decide_eq_true_eq] at hh
    exact .same hs (pipeBoundaryDone_harmless hh.1 hh.2)
  case returnedOver => exact .of_frame hs hframe (.inl rfl) (playReturns_harmless _ _)
  case resumeBegin =>
    refine ⟨hs, fun _ hv ↦ hv, rfl, fun q hq ↦ ?_⟩
    cases List.mem_singleton.mp hq
    rfl
  case playBegin => exact .of_frame hs hframe (.inr (.inl rfl)) rfl
  case leavePlayback => exact .of_frame hs hframe (.inr (.inl rfl)) rfl
  case leaveRollover => exact .of_frame hs hframe (.inr (.inr (.inl rfl))) rfl
  case leaveGeneration active count =>
    refine .of_frame hs hframe (.inr (.inr (.inr rfl))) ?_
    cases active <;> rfl
  case leaveWrite => exact ⟨rfl, fun _ hv ↦ hv, rfl, nofun⟩
  case leaveSlot => exact ⟨hs, fun _ _ ↦ rfl, rfl, nofun⟩
  all_goals first
    | exact .same hs hh
    | exact .same hs rfl
    | exact .same hs (playReturns_harmless _ _)
    | exact .of_frame hs hframe (.inl rfl) hh
    | cases hh

end Harmless

/-- `leave_voice` between its `Stop` and the clearing of the media commands. -/
def Pc.leavesSoon : Pc → Bool
  | .leaveStopped _ | .leaveClear => true
  | _ => false

def Pc.leaves : Pc → Bool
  | .sendMedia _ next | .deliver _ _ next => next.leavesSoon
  | .leaveRollover | .leavePlayback | .leaveOwner | .leaveCount _ | .leaveGeneration _ _ | .leaveStopped _
  | .leaveClear | .leaveWrite | .leaveSlot | .finished (.err _) => true
  | _ => false

theorem Access.leaves {sh sh' : Shared} {pc pc' : Pc} {spawned : List Pc}
    (h : Access sh pc sh' pc' spawned) (hpc : pc.leaves = true) :
    spawned = [] ∧
      ((pc'.leaves = true ∧ pc' ≠ .leaveSlot ∧ pc' ≠ .finished .ok) ∨
        (pc = .leaveWrite ∧ pc' = .leaveSlot ∧ sh' = sh.write fun _ ↦ {}) ∨
        (pc = .leaveSlot ∧ pc' = .finished .ok ∧ sh' = { sh with voice := none })) := by
  cases h
  case leaveWrite => exact ⟨rfl, .inr (.inl ⟨rfl, rfl, rfl⟩)⟩
  case leaveSlot => exact ⟨rfl, .inr (.inr ⟨rfl, rfl, rfl⟩)⟩
  case leaveGeneration active count =>
    refine ⟨rfl, .inl ⟨?_, nofun, nofun⟩⟩
    cases active <;> rfl
  case sendNowhere command h =>
    refine ⟨rfl, .inl ?_⟩
    cases pc' <;> first | (cases hpc; done) | exact ⟨rfl, nofun, nofun⟩
  case deliver channel command h =>
    refine ⟨rfl, .inl ?_⟩
    cases pc' <;> first | (cases hpc; done) | exact ⟨rfl, nofun, nofun⟩
  all_goals first
    | (cases hpc; done)
    | exact ⟨rfl, .inl ⟨rfl, nofun, nofun⟩⟩
    | exact ⟨rfl, .inl ⟨hpc, nofun, nofun⟩⟩

/-- The snapshot is the default one, and all tasks but `ℓ` leave it so. -/
structure Cleared (slot : Bool) (ℓ : ℕ) (rt : Runtime) : Prop where
  snapshot : rt.shared.snapshot = {}
  harmless : ∀ (j : ℕ) (t : Task), j ≠ ℓ → rt.tasks[j]? = some t → t.pc.harmless slot rt.shared = true

namespace Cleared

variable {slot : Bool} {ℓ i : ℕ} {rt : Runtime} {t : Task} {sh' : Shared} {pc' : Pc} {spawned : List Pc}

theorem other (h : Cleared slot ℓ rt) (hi : i ≠ ℓ) (ht : rt.tasks[i]? = some t)
    (ha : Access rt.shared t.pc sh' pc' spawned) :
    Cleared slot ℓ ⟨sh', rt.tasks.set i (t.after rt.shared sh' pc') ++
      spawned.map (t.after rt.shared sh' pc').spawn⟩ ∧
      (slot = true → rt.shared.voice = none → sh'.voice = none) := by
  have hun := ha.undisturbed h.snapshot (h.harmless i t hi ht)
  refine ⟨⟨hun.snapshot, fun j u hj hu ↦ ha.frame.harmless ?_⟩, hun.voice⟩
  obtain ⟨-, rfl⟩ | ⟨-, hu⟩ | ⟨-, hu⟩ := Pool.get_after hu
  · exact hun.next
  · exact h.harmless j u hj hu
  · obtain ⟨q, hq, rfl⟩ := List.mem_map.mp hu
    exact hun.spawned q hq

theorem quiet (h : Cleared slot ℓ rt) (hf : Frame .quiet rt.shared sh') : Cleared slot ℓ ⟨sh', rt.tasks⟩ :=
  ⟨(hf.snapshot nofun nofun).trans h.snapshot, fun j u hj hu ↦ hf.harmless (h.harmless j u hj hu)⟩

theorem started (h : Cleared slot ℓ rt) (ht : t.pc.harmless slot rt.shared = true) :
    Cleared slot ℓ ⟨rt.shared, rt.tasks ++ [t]⟩ := by
  refine ⟨h.snapshot, fun j u hj hu ↦ ?_⟩
  obtain hu | ⟨-, rfl⟩ := Pool.get_started hu
  · exact h.harmless j u hj hu
  · exact ht

/-- `leave_voice` writes while all other tasks are harmless. -/
theorem leave {k : Kind} (hs : sh'.snapshot = {}) (hf : Frame k rt.shared sh')
    (hothers : ∀ (j : ℕ) (u : Task), j ≠ ℓ → rt.tasks[j]? = some u → u.pc.harmless slot rt.shared = true) :
    Cleared slot ℓ ⟨sh', rt.tasks.set ℓ (t.after rt.shared sh' pc') ++ []⟩ := by
  refine ⟨hs, fun j u hj hu ↦ hf.harmless ?_⟩
  obtain ⟨rfl, -⟩ | ⟨-, hu⟩ | ⟨-, hu⟩ := Pool.get_after hu
  · exact absurd rfl hj
  · exact hothers j u hj hu
  · cases hu

end Cleared

def othersHarmless (slot : Bool) (ℓ : ℕ) (rt : Runtime) : Bool :=
  (List.range rt.tasks.length).all fun j ↦
    j == ℓ || rt.tasks[j]?.all fun t ↦ t.pc.harmless slot rt.shared

theorem othersHarmless_iff {slot : Bool} {ℓ : ℕ} {rt : Runtime} (h : othersHarmless slot ℓ rt = true)
    (j : ℕ) (t : Task) (hj : j ≠ ℓ) (ht : rt.tasks[j]? = some t) :
    t.pc.harmless slot rt.shared = true := by
  rw [othersHarmless] at h
  exact Pool.of_all_others (t := t) (f := fun u ↦ u.pc.harmless slot rt.shared) h hj ht

def Pc.isLeaveWrite : Pc → Bool
  | .leaveWrite => true
  | _ => false

def Pc.isLeaveSlot : Pc → Bool
  | .leaveSlot => true
  | _ => false

def Runtime.standsAt (rt : Runtime) (ℓ : ℕ) (f : Pc → Bool) : Bool := rt.tasks[ℓ]?.any fun t ↦ f t.pc

/-- No command starts once the task `ℓ` has returned. -/
def startsInTime (ℓ : ℕ) (rt : Runtime) : Move → Bool
  | .start _ => rt.tasks[ℓ]?.all Task.inFlight
  | _ => true

/-- When the `leave_voice` of task `ℓ` writes the snapshot, no other task has a write of it ahead
that no check will stop; when it clears the slot, none has such a write of the snapshot or of the
slot ahead; and no `JoinVoice` starts in between. -/
def leavesLast (ℓ : ℕ) (rt : Runtime) : Move → Bool
  | .start (.joinVoice _) => !rt.standsAt ℓ Pc.isLeaveSlot
  | .task i _ =>
    i != ℓ ||
      (!rt.standsAt ℓ Pc.isLeaveWrite || othersHarmless false ℓ rt) &&
        (!rt.standsAt ℓ Pc.isLeaveSlot || othersHarmless true ℓ rt)
  | _ => true

/-- What the `leave_voice` of task `ℓ` has made sure of, where it stands. -/
def Left (ℓ : ℕ) (rt : Runtime) : Prop :=
  ∀ t, rt.tasks[ℓ]? = some t → t.command = some .leaveVoice →
    (t.pc.leaves = true ∧ t.pc ≠ .leaveSlot) ∨ (t.pc = .leaveSlot ∧ Cleared false ℓ rt) ∨
      (t.pc = .finished .ok ∧ rt.shared.voice = none ∧ Cleared true ℓ rt)

namespace Left

variable {ℓ : ℕ} {rt : Runtime}

theorem start (h : Left ℓ rt) {command : Command} (htime : startsInTime ℓ rt (.start command) = true)
    (hlast : leavesLast ℓ rt (.start command) = true) :
    Left ℓ ⟨rt.shared, rt.tasks ++ [.start command]⟩ := by
  intro t ht hcommand
  obtain hold | ⟨-, rfl⟩ := Pool.get_started ht
  · obtain hearly | ⟨hpc, hcleared⟩ | ⟨hpc, -⟩ := h t hold hcommand
    · exact .inl hearly
    · refine .inr (.inl ⟨hpc, hcleared.started ?_⟩)
      cases command
      case joinVoice voice => simp [leavesLast, Runtime.standsAt, hold, hpc, Pc.isLeaveSlot] at hlast
      all_goals rfl
    · simp [startsInTime, hold, Task.inFlight, hpc] at htime
  · cases hcommand
    exact .inl ⟨rfl, nofun⟩

theorem driven (h : Left ℓ rt) {sh' : Shared} (hf : Frame .quiet rt.shared sh') :
    Left ℓ ⟨sh', rt.tasks⟩ := by
  intro t ht hcommand
  obtain hearly | ⟨hpc, hcleared⟩ | ⟨hpc, hvoice, hcleared⟩ := h t ht hcommand
  · exact .inl hearly
  · exact .inr (.inl ⟨hpc, hcleared.quiet hf⟩)
  · exact .inr (.inr ⟨hpc, (hf.voice nofun nofun).trans hvoice, hcleared.quiet hf⟩)

variable {i : ℕ} {t : Task} {sh' : Shared} {pc' : Pc} {spawned : List Pc}

theorem other (h : Left ℓ rt) (hi : i ≠ ℓ) (ht : rt.tasks[i]? = some t)
    (ha : Access rt.shared t.pc sh' pc' spawned) :
    Left ℓ ⟨sh', rt.tasks.set i (t.after rt.shared sh' pc') ++
      spawned.map (t.after rt.shared sh' pc').spawn⟩ := by
  intro u hu hcommand
  obtain ⟨hℓ, -⟩ | ⟨-, hu⟩ | ⟨-, hu⟩ := Pool.get_after hu
  · exact absurd hℓ.symm hi
  · obtain hearly | ⟨hpc, hcleared⟩ | ⟨hpc, hvoice, hcleared⟩ := h u hu hcommand
    · exact .inl hearly
    · exact .inr (.inl ⟨hpc, (hcleared.other hi ht ha).1⟩)
    · exact .inr (.inr ⟨hpc, (hcleared.other hi ht ha).2 rfl hvoice, (hcleared.other hi ht ha).1⟩)
  · obtain ⟨q, -, rfl⟩ := List.mem_map.mp hu
    cases hcommand

theorem leaver (h : Left ℓ rt) (ht : rt.tasks[ℓ]? = some t) (ha : Access rt.shared t.pc sh' pc' spawned)
    {answer : Answer} (hlast : leavesLast ℓ rt (.task ℓ answer) = true) :
    Left ℓ ⟨sh', rt.tasks.set ℓ (t.after rt.shared sh' pc') ++
      spawned.map (t.after rt.shared sh' pc').spawn⟩ := by
  intro u hu hcommand
  obtain rfl : u = t.after rt.shared sh' pc' := Option.some.inj (hu.symm.trans (Pool.get_self_after ht))
  simp only [leavesLast, bne_self_eq_false, Bool.false_or, Bool.and_eq_true, Bool.or_eq_true,
    Bool.not_eq_true', Runtime.standsAt, ht, Option.any_some] at hlast
  have hleaves : t.pc.leaves = true := by
    obtain ⟨hleaves, -⟩ | ⟨hpc, -⟩ | ⟨hpc, -⟩ := h t ht hcommand
    · exact hleaves
    · rw [hpc]; rfl
    · rw [hpc] at ha
      cases ha
  obtain ⟨rfl, ⟨hleaves', hne, -⟩ | ⟨hpc, rfl, rfl⟩ | ⟨hpc, rfl, rfl⟩⟩ := ha.leaves hleaves
  · exact .inl ⟨hleaves', hne⟩
  · have hothers : othersHarmless false ℓ rt = true := by simpa [hpc, Pc.isLeaveWrite] using hlast.1
    exact .inr (.inl ⟨rfl, .leave rfl (frame_write _) (othersHarmless_iff hothers)⟩)
  · have hothers : othersHarmless true ℓ rt = true := by simpa [hpc, Pc.isLeaveSlot] using hlast.2
    have hsnapshot : rt.shared.snapshot = {} := by
      obtain ⟨-, hne⟩ | ⟨-, hcleared⟩ | ⟨hpc', -⟩ := h t ht hcommand
      · exact absurd hpc hne
      · exact hcleared.snapshot
      · rw [hpc] at hpc'
        cases hpc'
    exact .inr (.inr ⟨rfl, rfl,
      .leave hsnapshot (frame_voice none rt.shared.voiceLocked) (othersHarmless_iff hothers)⟩)

theorem step {rt' : Runtime} {move : Move} (h : Left ℓ rt)
    (hok : startsInTime ℓ rt move = true ∧ leavesLast ℓ rt move = true) (hstep : rt.step move = some rt') :
    Left ℓ rt' := by
  obtain ⟨command, rfl, rfl⟩ | ⟨i, answer, t, sh', pc, spawned, rfl, ht, ha, rfl⟩ | ⟨e, sh', rfl, he, rfl⟩ :=
    step_cases hstep
  · exact h.start hok.1 hok.2
  · by_cases hi : i = ℓ
    · subst hi
      exact h.leaver ht ha hok.2
    · exact h.other hi ht ha
  · exact h.driven (frame_driverMove he)

end Left

/-- In a run in which `LeaveVoice` writes last, nothing is left of the voice connection once it has
returned `Ok`, whatever the other commands still do. -/
theorem left_for_good_of_leavesLast {hasPlayback : Bool} {moves : List Move} {rt : Runtime} {ℓ : ℕ}
    {t : Task}
    (hok : Throughout Runtime.step
      (fun rt move ↦ startsInTime ℓ rt move = true ∧ leavesLast ℓ rt move = true)
      (.fresh hasPlayback) moves)
    (hrun : exec Runtime.step (.fresh hasPlayback) moves = some rt) (ht : rt.tasks[ℓ]? = some t)
    (hleave : t.command = some .leaveVoice) (hreturned : t.pc = .finished .ok) :
    rt.shared.snapshot = {} ∧ rt.shared.voice = none := by
  have hfresh : Left ℓ (.fresh hasPlayback) := by
    intro t ht
    cases ht
  have hleft : Left ℓ rt := exec_induction (fun _ _ _ h hok hstep ↦ h.step hok hstep) hfresh hok hrun
  obtain ⟨hleaves, -⟩ | ⟨hpc, -⟩ | ⟨-, hvoice, hcleared⟩ := hleft t ht hleave
  · rw [hreturned] at hleaves
    cases hleaves
  · rw [hreturned] at hpc
    cases hpc
  · exact ⟨hcleared.snapshot, hvoice⟩

/-- `LeaveVoice` while a track plays: the driver stops, its pipeline cleans up, then `LeaveVoice`
clears everything. -/
def leaveWhilePlaying : List Move :=
  joinLobby ++ playVideo ++ .start .leaveVoice :: runs 2 7 ++
    [.env (.take 0), .env (.exit 0 (some ⟨false, none, true, true⟩)), .task 1 .go, .task 1 .driverResult] ++
    runs 1 3 ++ [.task 1 (.session true false), .task 1 .go] ++ runs 2 4

theorem left_for_good_leaveWhilePlaying :
    ∃ rt t, exec Runtime.step .withPlaybackWorker leaveWhilePlaying = some rt ∧ rt.tasks[2]? = some t ∧
      t.command = some .leaveVoice ∧ t.pc = .finished .ok ∧ rt.atRest = true ∧
      rt.shared.snapshot = {} ∧ rt.shared.voice = none := by
  have hok : allowed Runtime.step (fun rt move ↦ startsInTime 2 rt move && leavesLast 2 rt move)
      .withPlaybackWorker leaveWhilePlaying = true := by
    decide +kernel
  have hends : (exec Runtime.step .withPlaybackWorker leaveWhilePlaying).map (fun rt ↦
      (rt.tasks[2]?, rt.atRest)) = some (some ⟨some .leaveVoice, .finished .ok, ⟨1, 1⟩, ⟨2, 1⟩, true⟩, true) := by
    decide +kernel
  obtain ⟨rt, hrun, hrt⟩ := Option.map_eq_some_iff.mp hends
  simp only [Prod.mk.injEq] at hrt
  have hlast : Throughout Runtime.step
      (fun rt move ↦ startsInTime 2 rt move = true ∧ leavesLast 2 rt move = true)
      .withPlaybackWorker leaveWhilePlaying := by
    simpa only [Bool.and_eq_true] using throughout_of_allowed hok
  exact ⟨rt, _, hrun, hrt.1, rfl, rfl, hrt.2,
    left_for_good_of_leavesLast hlast hrun hrt.1 rfl rfl⟩

/-- `LeaveVoice` runs through while a `JoinVoice` connects. -/
def leaveWhileJoining : List Move :=
  [.start (.joinVoice lobby), .task 0 .go, .start .leaveVoice] ++ runs 1 9 ++
    [.task 0 (.connected true), .task 0 (.session true false), .task 0 .go]

theorem connection_survives_leave :
    allowed Runtime.step (startsInTime 1) .withPlaybackWorker leaveWhileJoining = true ∧
      ∃ rt t, exec Runtime.step .withPlaybackWorker leaveWhileJoining = some rt ∧
        rt.tasks[1]? = some t ∧ t.command = some .leaveVoice ∧ t.pc = .finished .ok ∧ rt.atRest = true ∧
        ¬(rt.shared.snapshot = {} ∧ rt.shared.voice = none) := by
  have hends : (exec Runtime.step .withPlaybackWorker leaveWhileJoining).map (fun rt ↦
      (rt.tasks[1]?, rt.atRest, rt.shared.voice)) =
      some (some ⟨some .leaveVoice, .finished .ok, ⟨0, 1⟩, ⟨1, 1⟩, true⟩, true,
        some ⟨lobby, true, false, false, false⟩) := by
    decide +kernel
  obtain ⟨rt, hrun, hrt⟩ := Option.map_eq_some_iff.mp hends
  simp only [Prod.mk.injEq] at hrt
  refine ⟨by decide +kernel, rt, _, hrun, hrt.1, rfl, rfl, hrt.2.1, fun hgone ↦ ?_⟩
  rw [hrt.2.2] at hgone
  cases hgone.2

end DiscordVoice.Session
