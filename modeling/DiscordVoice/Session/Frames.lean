import DiscordVoice.Session.Accesses

namespace DiscordVoice.Session

open Media (MediaCommand)

/-- What an access of a command can change. -/
inductive Kind
  | quiet
  | snapshot
  | voice
  | join
  | playbackEpoch
  | rolloverEpoch
  | generation
  deriving DecidableEq

def Pc.kind : Pc → Kind
  | .joinEnter _ | .refreshWrite _ | .replaceAnnounce _ _ | .matchAnnounce _ _ | .reconnectedWrite _ _ _
  | .recoverWrite _ _ | .interruptWrite _ _ | .playResolve _ _ | .playBuffering _ _ | .pipePlaying _
  | .pipeEmit _ _ | .pipeProgress _ | .pipeEnded _ _ | .pauseWrite | .resumeWrite | .stopWrite
  | .leaveWrite => .snapshot
  | .refreshSlot _ | .refreshSuspend _ | .replaceInstall _ _ _ | .matchRefresh _ _ | .quiesceBoundary _ _
  | .playTake _ _ | .playGiveBack _ _ _ | .pipePutBack _ _ _ | .stopBoundary | .leaveSlot => .voice
  | .joinReady _ => .join
  | .rolloverInterrupt _ | .replaceInterrupt _ | .matchInterrupt _ | .resumeBegin _ _ | .playBegin _
  | .stopInterrupt _ _ | .leavePlayback => .playbackEpoch
  | .rolloverBegin _ _ | .leaveRollover => .rolloverEpoch
  | .replaceGeneration _ | .leaveGeneration _ _ => .generation
  | _ => .quiet

/-- All that an access of kind `k` leaves as it was, and what it may change. -/
structure Frame (k : Kind) (sh sh' : Shared) : Prop where
  snapshot : k ≠ .snapshot → k ≠ .join → sh'.snapshot = sh.snapshot
  writes : k ≠ .snapshot → k ≠ .join → sh'.writes = sh.writes
  unwritten : sh'.writes = sh.writes → sh'.snapshot = sh.snapshot
  voice : k ≠ .voice → k ≠ .join → sh'.voice = sh.voice
  playbackEpoch : sh'.playbackEpoch = sh.playbackEpoch + if k = .playbackEpoch then 1 else 0
  rolloverEpoch : sh'.rolloverEpoch = sh.rolloverEpoch + if k = .rolloverEpoch then 1 else 0
  generation : sh'.voiceTransportGeneration =
    sh.voiceTransportGeneration + if k = .generation then 1 else 0
  hasPlayback : sh'.hasPlayback = sh.hasPlayback
  exitOf : ∀ channel exit, sh.exitOf channel = some exit → sh'.exitOf channel = some exit

section Helpers

variable {sh sh' : Shared} {pc pc' : Pc} {spawned : List Pc} {k : Kind}

theorem Frame.refl (k : Kind) (hk : k ≠ .playbackEpoch) (hr : k ≠ .rolloverEpoch)
    (hg : k ≠ .generation) (sh : Shared) : Frame k sh sh where
  snapshot _ _ := rfl
  writes _ _ := rfl
  unwritten _ := rfl
  voice _ _ := rfl
  playbackEpoch := by simp [hk]
  rolloverEpoch := by simp [hr]
  generation := by simp [hg]
  hasPlayback := rfl
  exitOf _ _ h := h

theorem frame_write (f : Snapshot → Snapshot) : Frame .snapshot sh (sh.write f) where
  snapshot h := absurd rfl h
  writes h := absurd rfl h
  unwritten h := by simp [Shared.write] at h
  voice _ _ := rfl
  playbackEpoch := rfl
  rolloverEpoch := rfl
  generation := rfl
  hasPlayback := rfl
  exitOf _ _ h := h

theorem exitOf_updateChannel (channel : ℕ) (f : Channel → Channel)
    (hf : ∀ c exit, c.status = .exited exit → (f c).status = .exited exit) (other : ℕ)
    (exit : Option DriverExit) (h : sh.exitOf other = some exit) :
    (sh.updateChannel channel f).exitOf other = some exit := by
  simp only [Shared.exitOf, Shared.updateChannel, List.getElem?_modify] at h ⊢
  cases hc : sh.channels[other]? with
  | none => simp [hc] at h
  | some c =>
    simp only [hc, Option.bind_eq_bind, Option.bind_some] at h
    by_cases ho : channel = other
    · cases hs : c.status with
      | exited e =>
        simp only [hs, Option.pure_def, Option.some.injEq] at h
        simp [ho, hf c e hs, h]
      | waiting => simp [hs] at h
      | running => simp [hs] at h
    · simpa [ho] using h

theorem frame_updateChannel (channel : ℕ) (f : Channel → Channel)
    (hf : ∀ c exit, c.status = .exited exit → (f c).status = .exited exit) :
    Frame .quiet sh (sh.updateChannel channel f) where
  snapshot _ _ := rfl
  writes _ _ := rfl
  unwritten _ := rfl
  voice _ _ := rfl
  playbackEpoch := rfl
  rolloverEpoch := rfl
  generation := rfl
  hasPlayback := rfl
  exitOf := exitOf_updateChannel channel f hf

theorem frame_send {channel : ℕ} {command : Media.MediaCommand}
    (h : sh.send channel command = some sh') : Frame .quiet sh sh' := by
  simp only [Shared.send, Option.bind_eq_bind, Option.bind_eq_some_iff] at h
  obtain ⟨c, -, h⟩ := h
  have hpush : Frame .quiet sh
      (sh.updateChannel channel fun c ↦ { c with mailbox := c.mailbox ++ [command] }) :=
    frame_updateChannel channel _ fun c exit hc ↦ hc
  split at h
  · cases h
    exact .refl .quiet nofun nofun nofun sh
  · split at h
    · cases h
      exact hpush
    · cases h

theorem frame_trySend (channel : ℕ) (command : Media.MediaCommand) :
    Frame .quiet sh (sh.trySend channel command) := by
  cases h : sh.send channel command with
  | none => simpa [Shared.trySend, h] using Frame.refl .quiet nofun nofun nofun sh
  | some sh' => simpa [Shared.trySend, h] using frame_send h

theorem frame_install : Frame .quiet sh sh.installMediaCommands where
  snapshot _ _ := rfl
  writes _ _ := rfl
  unwritten _ := rfl
  voice _ _ := rfl
  playbackEpoch := rfl
  rolloverEpoch := rfl
  generation := rfl
  hasPlayback := rfl
  exitOf channel exit h := by
    simp only [Shared.exitOf, Shared.installMediaCommands, Option.bind_eq_bind,
      Option.bind_eq_some_iff] at h ⊢
    obtain ⟨c, hc, h⟩ := h
    have hlt : channel < sh.channels.length := (List.getElem?_eq_some_iff.mp hc).1
    exact ⟨c, by rw [List.getElem?_append_left hlt, hc], h⟩

theorem frame_mediaCommands (mediaCommands : Option ℕ) :
    Frame .quiet sh { sh with mediaCommands } :=
  ⟨fun _ _ ↦ rfl, fun _ _ ↦ rfl, fun _ ↦ rfl, fun _ _ ↦ rfl, rfl, rfl, rfl, rfl, fun _ _ h ↦ h⟩

theorem frame_voice (voice : Option SessionHandle) (voiceLocked : Bool) :
    Frame .voice sh { sh with voice, voiceLocked } :=
  ⟨fun _ _ ↦ rfl, fun _ _ ↦ rfl, fun _ ↦ rfl, fun h ↦ absurd rfl h, rfl, rfl, rfl, rfl, fun _ _ h ↦ h⟩

theorem frame_lock (voiceLocked : Bool) : Frame .quiet sh { sh with voiceLocked } :=
  ⟨fun _ _ ↦ rfl, fun _ _ ↦ rfl, fun _ ↦ rfl, fun _ _ ↦ rfl, rfl, rfl, rfl, rfl, fun _ _ h ↦ h⟩

theorem frame_join (f : Snapshot → Snapshot) (voice : Option SessionHandle) :
    Frame .join sh { sh.write f with voice } :=
  ⟨fun _ h ↦ absurd rfl h, fun _ h ↦ absurd rfl h, fun h ↦ by simp [Shared.write] at h,
    fun _ h ↦ absurd rfl h, rfl, rfl, rfl, rfl, fun _ _ h ↦ h⟩

theorem frame_bumpPlayback : Frame .playbackEpoch sh sh.bumpPlayback :=
  ⟨fun _ _ ↦ rfl, fun _ _ ↦ rfl, fun _ ↦ rfl, fun _ _ ↦ rfl, rfl, rfl, rfl, rfl, fun _ _ h ↦ h⟩

theorem frame_bumpRollover : Frame .rolloverEpoch sh sh.bumpRollover :=
  ⟨fun _ _ ↦ rfl, fun _ _ ↦ rfl, fun _ ↦ rfl, fun _ _ ↦ rfl, rfl, rfl, rfl, rfl, fun _ _ h ↦ h⟩

theorem frame_bumpGeneration : Frame .generation sh sh.bumpGeneration :=
  ⟨fun _ _ ↦ rfl, fun _ _ ↦ rfl, fun _ ↦ rfl, fun _ _ ↦ rfl, rfl, rfl, rfl, rfl, fun _ _ h ↦ h⟩

theorem emitPlaybackState_stale {kind : PlaybackEventKind} {a : Attempt} {p : Prepared}
    (h : sh.playbackEpoch ≠ a.playbackEpoch) : emitPlaybackState sh kind a p = sh := by
  simp [emitPlaybackState, Shared.playbackInterrupted, h]

theorem frame_emit (kind : PlaybackEventKind) (a : Attempt) (p : Prepared) :
    Frame .snapshot sh (emitPlaybackState sh kind a p) := by
  unfold emitPlaybackState
  split
  · exact .refl .snapshot nofun nofun nofun sh
  · split
    · exact .refl .snapshot nofun nofun nofun sh
    · exact frame_write _

theorem frame_returned : Frame .quiet sh { sh with mediaOwnerReturnCount := sh.mediaOwnerReturnCount + 1 } :=
  ⟨fun _ _ ↦ rfl, fun _ _ ↦ rfl, fun _ ↦ rfl, fun _ _ ↦ rfl, rfl, rfl, rfl, rfl, fun _ _ h ↦ h⟩

theorem frame_stopped : Frame .snapshot sh { sh.write Snapshot.stopped with voiceLocked := false } :=
  ⟨fun h ↦ absurd rfl h, fun h ↦ absurd rfl h, fun h ↦ by simp [Shared.write] at h,
    fun _ _ ↦ rfl, rfl, rfl, rfl, rfl, fun _ _ h ↦ h⟩

theorem frame_clear (channel : ℕ) : Frame .quiet sh (sh.clearMediaCommandsIfCurrent channel) := by
  unfold Shared.clearMediaCommandsIfCurrent
  split
  · exact frame_mediaCommands none
  · exact .refl .quiet nofun nofun nofun sh

theorem frame_spawn (channel : ℕ) : Frame .quiet sh (sh.updateChannel channel Channel.spawn) :=
  frame_updateChannel channel _ fun c exit hc ↦ by simp [Channel.spawn, hc]

theorem Access.frame (h : Access sh pc sh' pc' spawned) : Frame pc.kind sh sh' := by
  cases h
  case deliver h => exact frame_send h
  case driverStopped h => exact frame_send h
  case driverSpawned => exact frame_spawn _
  case loopStale => exact frame_trySend _ _
  case installed => exact frame_install
  case clearedDone => exact frame_clear _
  case clearedOpen => exact frame_clear _
  case joinReady => exact frame_join _ _
  case stopped => exact frame_stopped
  case buffering => exact frame_emit _ _ _
  case playing => exact frame_emit _ _ _
  case emitted => exact frame_emit _ _ _
  case replaceClear => exact frame_mediaCommands none
  case leaveClear => exact frame_mediaCommands none
  case returnedEnded => exact frame_returned
  case returnedOver => exact frame_returned
  case refreshConnected => exact frame_voice sh.voice true
  all_goals first
    | exact .refl .quiet nofun nofun nofun sh
    | exact .refl .snapshot nofun nofun nofun sh
    | exact .refl .voice nofun nofun nofun sh
    | exact frame_write _
    | exact frame_lock _
    | exact frame_voice _ _
    | exact frame_bumpPlayback
    | exact frame_bumpRollover
    | exact frame_bumpGeneration

end Helpers

section Steps

variable {rt rt' : Runtime} {move : Move}

theorem step_advance {i : ℕ} {answer : Answer} (h : rt.step (.task i answer) = some rt') :
    ∃ t sh' pc spawned, rt.tasks[i]? = some t ∧
      advance rt.shared t.pc answer = some (sh', pc, spawned) ∧
      rt' = ⟨sh', rt.tasks.set i (t.after rt.shared sh' pc) ++
        spawned.map (t.after rt.shared sh' pc).spawn⟩ := by
  obtain ⟨t, sh₁, t', spawned, ht, hstep, rfl⟩ := Pool.step_task h
  obtain ⟨⟨sh₂, pc, pcs⟩, hadvance, hrest⟩ := Option.bind_eq_some_iff.mp hstep
  cases hrest
  exact ⟨t, sh₁, pc, pcs, ht, hadvance, rfl⟩

/-- What moves the runtime: a new command, an access of a task, or a live media driver. -/
theorem step_cases (h : rt.step move = some rt') :
    (∃ command, move = .start command ∧
      rt' = ⟨rt.shared, rt.tasks ++ [.start command]⟩) ∨
    (∃ i answer t sh' pc spawned, move = .task i answer ∧ rt.tasks[i]? = some t ∧
      Access rt.shared t.pc sh' pc spawned ∧
      rt' = ⟨sh', rt.tasks.set i (t.after rt.shared sh' pc) ++
        spawned.map (t.after rt.shared sh' pc).spawn⟩) ∨
    (∃ e sh', move = .env e ∧ driverMove rt.shared e = some sh' ∧ rt' = ⟨sh', rt.tasks⟩) := by
  cases move with
  | start command => exact .inl ⟨command, rfl, (Option.some.inj h).symm⟩
  | task i answer =>
    obtain ⟨t, sh', pc, spawned, ht, hadvance, rfl⟩ := step_advance h
    exact .inr (.inl ⟨i, answer, t, sh', pc, spawned, rfl, ht, advance_access hadvance, rfl⟩)
  | env e =>
    obtain ⟨sh', hstep, rfl⟩ := Pool.step_env h
    exact .inr (.inr ⟨e, sh', rfl, hstep, rfl⟩)

theorem exitOf_set {sh : Shared} {channel : ℕ} {c c' : Channel} (hc : sh.channels[channel]? = some c)
    (hrunning : ∀ exit, c.status ≠ .exited exit) (other : ℕ) (exit : Option DriverExit)
    (h : sh.exitOf other = some exit) :
    ({ sh with channels := sh.channels.set channel c' } : Shared).exitOf other = some exit := by
  by_cases ho : channel = other
  · subst ho
    simp only [Shared.exitOf, hc, Option.bind_eq_bind, Option.bind_some] at h
    cases h
  · simpa only [Shared.exitOf, List.getElem?_set_ne ho] using h

theorem running_of_take {c c' : Channel} (h : c.take = some c') : c.status = .running := by
  unfold Channel.take at h
  split at h
  · assumption
  · cases h

theorem running_of_apply {c c' : Channel} (h : c.apply = some c') : c.status = .running := by
  unfold Channel.apply at h
  split at h
  · assumption
  · assumption
  · cases h

theorem running_of_exit {c c' : Channel} {exit : Option DriverExit} (h : c.exit exit = some c') :
    c.status = .running := by
  unfold Channel.exit at h
  split at h
  · assumption
  · assumption
  · cases h

/-- A driver moves nothing but the channel it serves. -/
theorem driverMove_channels {sh sh' : Shared} {e : DriverMove} (h : driverMove sh e = some sh') :
    ∃ channel c c', sh.channels[channel]? = some c ∧ c.status = .running ∧
      sh' = { sh with channels := sh.channels.set channel c' } := by
  cases e with
  | take channel =>
    simp only [driverMove, Option.bind_eq_bind, Option.bind_eq_some_iff] at h
    obtain ⟨c, hc, c', hc', h⟩ := h
    cases h
    exact ⟨channel, c, c', hc, running_of_take hc', rfl⟩
  | apply channel =>
    simp only [driverMove, Option.bind_eq_bind, Option.bind_eq_some_iff] at h
    obtain ⟨c, hc, c', hc', h⟩ := h
    cases h
    exact ⟨channel, c, c', hc, running_of_apply hc', rfl⟩
  | exit channel exit =>
    simp only [driverMove, Option.bind_eq_bind, Option.bind_eq_some_iff] at h
    obtain ⟨c, hc, c', hc', h⟩ := h
    cases h
    exact ⟨channel, c, c', hc, running_of_exit hc', rfl⟩

theorem frame_driverMove {sh sh' : Shared} {e : DriverMove} (h : driverMove sh e = some sh') :
    Frame .quiet sh sh' := by
  obtain ⟨channel, c, c', hc, hrunning, rfl⟩ := driverMove_channels h
  exact ⟨fun _ _ ↦ rfl, fun _ _ ↦ rfl, fun _ ↦ rfl, fun _ _ ↦ rfl, rfl, rfl, rfl, rfl,
    exitOf_set hc fun exit hexit ↦ by simp [hexit] at hrunning⟩

end Steps

end DiscordVoice.Session
