import DiscordVoice.Session.Frames

namespace DiscordVoice.Session

open Schedule
open Media (MediaCommand)

/-- The pause flag of a driver that has applied `commands`. -/
def pausedAfter (paused : Bool) (commands : List MediaCommand) : Bool :=
  commands.foldl (fun paused command ↦ match command with
    | .pause => true
    | .resume => false
    | .stop _ => paused) paused

namespace Channel

/-- The commands the driver has yet to apply. -/
def due (c : Channel) : List MediaCommand := c.applying.toList ++ c.mailbox

/-- The pause flag the driver is going to have. -/
def willPause (c : Channel) : Bool := pausedAfter c.paused c.due

theorem willPause_take {c c' : Channel} (h : c.take = some c') :
    c'.willPause = c.willPause := by
  unfold take at h
  split at h
  · cases h
    simp_all [willPause, due]
  · cases h

theorem willPause_apply {c c' : Channel} (h : c.apply = some c') : c'.willPause = c.willPause := by
  unfold apply at h
  split at h <;> cases h <;> simp_all [willPause, due, pausedAfter]

theorem willPause_push (c : Channel) (command : MediaCommand) :
    ({ c with mailbox := c.mailbox ++ [command] } : Channel).willPause =
      pausedAfter c.willPause [command] := by
  simp [willPause, due, pausedAfter, List.foldl_append]

theorem status_take {c c' : Channel} (h : c.take = some c') : c'.status = c.status := by
  unfold take at h
  split at h <;> cases h
  rfl

theorem status_apply {c c' : Channel} (h : c.apply = some c') : c'.status = c.status := by
  unfold apply at h
  split at h <;> cases h <;> rfl

end Channel

/-- The locals of a pipeline whose driver is about to start or runs. -/
def Pc.pipeline : Pc → Option Pipeline
  | .pipeDepth p | .pipePlaying p | .pipeSpawn p | .pipeLoop p | .pipeSelect p | .pipeEmit p _
  | .pipeProgress p => some p
  | _ => none

/-- `pause` or `resume` under way, with the commands it sends on the channel `ch`. -/
def Pc.Toggles (ch : ℕ) : Pc → Prop
  | .finished _ | .pauseEnter | .pauseWrite | .resumeEnter | .resumeWrite => True
  | .sendMedia command next =>
    (command = .pause ∧ next = .pauseWrite) ∨ (command = .resume ∧ next = .finished .ok)
  | .deliver channel command next => channel = ch ∧
    ((command = .pause ∧ next = .pauseWrite) ∨ (command = .resume ∧ next = .finished .ok))
  | _ => False

/-- A `pause` that has sent its command and not yet written the state. -/
def Pc.hasPaused : Pc → Bool
  | .pauseWrite => true
  | _ => false

/-- A `resume` that has written the state and not yet sent its command. -/
def Pc.owesResume : Pc → Bool
  | .sendMedia .resume _ | .deliver _ .resume _ => true
  | _ => false

/-- A `pause` about to send its command. -/
def Pc.sendsPause : Pc → Bool
  | .deliver _ .pause _ => true
  | _ => false

def Runtime.noTask (rt : Runtime) (f : Pc → Bool) : Bool := rt.tasks.all fun t ↦ !f t.pc

/-- The snapshot shows a voice connection and a track. -/
def Loaded (s : Snapshot) : Prop := hasVoice s = true ∧ s.currentVideoId.isSome = true

/-- The driver behind the channel takes commands. -/
def Shared.Serves (sh : Shared) (ch : ℕ) : Prop :=
  ∃ c : Channel, sh.channels[ch]? = some c ∧ ∀ exit, c.status ≠ .exited exit

/-- The task `k` is the pipeline of a playback that nothing has interrupted, its driver takes
commands from the channel `ch`, and all else that is in flight is `pause` and `resume`. -/
structure Uninterrupted (k ch : ℕ) (rt : Runtime) : Prop where
  pipeline : ∃ t p, rt.tasks[k]? = some t ∧ t.pc.pipeline = some p ∧ p.channel = ch ∧
    p.attempt.playbackEpoch = rt.shared.playbackEpoch
  commands : rt.shared.mediaCommands = some ch
  channel : rt.shared.Serves ch
  others : ∀ (j : ℕ) (t : Task), j ≠ k → rt.tasks[j]? = some t → t.pc.Toggles ch
  loaded : Loaded rt.shared.snapshot

/-- What the pause flag of the driver will be, beside the state the snapshot shows. -/
structure Agree (ch : ℕ) (rt : Runtime) : Prop where
  hasPaused : ∀ (j : ℕ) (t : Task) (c : Channel), rt.tasks[j]? = some t → t.pc.hasPaused = true →
    rt.shared.channels[ch]? = some c → c.willPause = true
  apart : ∀ (j : ℕ) (t : Task), rt.tasks[j]? = some t → t.pc.hasPaused = true →
    rt.noTask Pc.owesResume = true
  owesResume : ∀ (j : ℕ) (t : Task), rt.tasks[j]? = some t → t.pc.owesResume = true →
    rt.shared.snapshot.state ≠ .paused
  agree : ∀ c : Channel, rt.shared.channels[ch]? = some c → rt.noTask Pc.hasPaused = true →
    rt.noTask Pc.owesResume = true → (rt.shared.snapshot.state = .paused ↔ c.willPause = true)

/-- The moves of one playback that nothing interrupts. -/
def playsOn (ch : ℕ) : Move → Bool
  | .start .pause | .start .resume => true
  | .start _ => false
  | .env (.exit channel _) => channel != ch
  | _ => true

def Pc.writesResume : Pc → Bool
  | .resumeWrite => true
  | _ => false

/-- A `pause` that has sent its command finds the track playing or paused; no `resume` writes the
state over such a `pause`; and no `pause` sends its command past a `resume` that still owes its own. -/
def togglesInTurn (rt : Runtime) : Move → Bool
  | .task i _ =>
    match rt.tasks[i]? with
    | some t =>
      (!t.pc.hasPaused || rt.shared.snapshot.state == .playing || rt.shared.snapshot.state == .paused) &&
      (!(t.pc.writesResume && rt.shared.snapshot.state == .paused) || rt.noTask Pc.hasPaused) &&
      (!t.pc.sendsPause || rt.noTask Pc.owesResume)
    | none => true
  | _ => true

section Tasks

variable {rt : Runtime} {f : Pc → Bool}

theorem noTask_iff : rt.noTask f = true ↔ ∀ (j : ℕ) (t : Task), rt.tasks[j]? = some t → f t.pc = false := by
  simp only [Runtime.noTask, List.all_eq_true, Bool.not_eq_true', List.mem_iff_getElem?]
  exact ⟨fun h j t ht ↦ h t ⟨j, ht⟩, fun h t ⟨j, ht⟩ ↦ h j t ht⟩

theorem noTask_set {sh : Shared} {i : ℕ} {t' : Task} (h : rt.noTask f = true) (ht' : f t'.pc = false) :
    Runtime.noTask ⟨sh, rt.tasks.set i t' ++ []⟩ f = true := by
  refine noTask_iff.mpr fun j u hu ↦ ?_
  obtain ⟨-, rfl⟩ | ⟨-, hu⟩ | ⟨-, hu⟩ := Pool.get_after hu
  · exact ht'
  · exact noTask_iff.mp h j u hu
  · cases hu

theorem noTask_of_set {sh : Shared} {i : ℕ} {t t' : Task} (ht : rt.tasks[i]? = some t)
    (hf : f t'.pc = f t.pc) (h : Runtime.noTask ⟨sh, rt.tasks.set i t' ++ []⟩ f = true) :
    rt.noTask f = true := by
  refine noTask_iff.mpr fun j u hu ↦ ?_
  by_cases hj : j = i
  · subst hj
    cases ht.symm.trans hu
    exact hf ▸ noTask_iff.mp h j t' (Pool.get_self_after ht)
  · exact noTask_iff.mp h j u (Pool.get_other_after hj hu)

end Tasks

namespace Agree

variable {ch i : ℕ} {rt : Runtime} {t t' : Task} {sh' : Shared}

theorem held_of_set {f : Pc → Bool} (ht : rt.tasks[i]? = some t) (hf : f t'.pc = f t.pc) {j : ℕ} {u : Task}
    (hu : (rt.tasks.set i t' ++ [])[j]? = some u) (h : f u.pc = true) :
    ∃ (j : ℕ) (u : Task), rt.tasks[j]? = some u ∧ f u.pc = true := by
  obtain ⟨-, rfl⟩ | ⟨-, hu⟩ | ⟨-, hu⟩ := Pool.get_after hu
  · exact ⟨i, t, ht, hf ▸ h⟩
  · exact ⟨j, u, hu, h⟩
  · cases hu

theorem neutral (h : Agree ch rt) (ht : rt.tasks[i]? = some t)
    (hpaused : t'.pc.hasPaused = t.pc.hasPaused) (howes : t'.pc.owesResume = t.pc.owesResume)
    (hstate : sh'.snapshot.state = .paused ↔ rt.shared.snapshot.state = .paused)
    (hchannel : ∀ c', sh'.channels[ch]? = some c' →
      ∃ c : Channel, rt.shared.channels[ch]? = some c ∧ c'.willPause = c.willPause) :
    Agree ch ⟨sh', rt.tasks.set i t' ++ []⟩ where
  hasPaused j u c' hu huPaused hc' := by
    obtain ⟨c, hc, hsame⟩ := hchannel c' hc'
    obtain ⟨j', v, hv, hvPaused⟩ := held_of_set ht hpaused hu huPaused
    exact hsame ▸ h.hasPaused j' v c hv hvPaused hc
  apart j u hu huPaused := by
    obtain ⟨j', v, hv, hvPaused⟩ := held_of_set ht hpaused hu huPaused
    have hnone := h.apart j' v hv hvPaused
    exact noTask_set hnone (howes ▸ noTask_iff.mp hnone i t ht)
  owesResume j u hu huOwes := by
    obtain ⟨j', v, hv, hvOwes⟩ := held_of_set ht howes hu huOwes
    exact fun hp ↦ h.owesResume j' v hv hvOwes (hstate.mp hp)
  agree c' hc' hnoPaused hnoOwes := by
    obtain ⟨c, hc, hsame⟩ := hchannel c' hc'
    have hiff := h.agree c hc (noTask_of_set ht hpaused hnoPaused) (noTask_of_set ht howes hnoOwes)
    rw [hsame, ← hiff]
    exact hstate

theorem pauseSent (hnone : rt.noTask Pc.owesResume = true)
    (ht : rt.tasks[i]? = some t) (ht' : t'.pc = .pauseWrite)
    (hchannel : ∀ c', sh'.channels[ch]? = some c' → c'.willPause = true) :
    Agree ch ⟨sh', rt.tasks.set i t' ++ []⟩ := by
  have hnone' : Runtime.noTask ⟨sh', rt.tasks.set i t' ++ []⟩ Pc.owesResume = true :=
    noTask_set hnone (by rw [ht']; rfl)
  refine ⟨fun j u c' _ _ hc' ↦ hchannel c' hc', fun _ _ _ _ ↦ hnone', fun j u hu huOwes ↦ ?_,
    fun c' _ hnoPaused _ ↦ ?_⟩
  · simp [noTask_iff.mp hnone' j u hu] at huOwes
  · have := noTask_iff.mp hnoPaused i t' (Pool.get_self_after ht)
    rw [ht'] at this
    cases this

theorem pauseWritten (h : Agree ch rt) (ht : rt.tasks[i]? = some t) (hpc : t.pc = .pauseWrite)
    {outcome : Outcome} (ht' : t'.pc = .finished outcome) (hstate : sh'.snapshot.state = .paused)
    (hchannels : sh'.channels = rt.shared.channels) : Agree ch ⟨sh', rt.tasks.set i t' ++ []⟩ := by
  have hsent : t.pc.hasPaused = true := by rw [hpc]; rfl
  have hnone' : Runtime.noTask ⟨sh', rt.tasks.set i t' ++ []⟩ Pc.owesResume = true :=
    noTask_set (h.apart i t ht hsent) (by rw [ht']; rfl)
  have hwill (c : Channel) (hc : sh'.channels[ch]? = some c) : c.willPause = true :=
    h.hasPaused i t c ht hsent (hchannels ▸ hc)
  refine ⟨fun j u c' _ _ hc' ↦ hwill c' hc', fun _ _ _ _ ↦ hnone', fun j u hu huOwes ↦ ?_,
    fun c' hc' _ _ ↦ iff_of_true hstate (hwill c' hc')⟩
  simp [noTask_iff.mp hnone' j u hu] at huOwes

theorem resumeWritten (hnone : rt.noTask Pc.hasPaused = true) (ht : rt.tasks[i]? = some t)
    (ht' : t'.pc = .sendMedia .resume (.finished .ok)) (hstate : sh'.snapshot.state ≠ .paused) :
    Agree ch ⟨sh', rt.tasks.set i t' ++ []⟩ := by
  have hnone' : Runtime.noTask ⟨sh', rt.tasks.set i t' ++ []⟩ Pc.hasPaused = true :=
    noTask_set hnone (by rw [ht']; rfl)
  refine ⟨fun j u _ hu huPaused ↦ ?_, fun j u hu huPaused ↦ ?_, fun _ _ _ _ ↦ hstate,
    fun c' _ _ hnoOwes ↦ ?_⟩
  · simp [noTask_iff.mp hnone' j u hu] at huPaused
  · simp [noTask_iff.mp hnone' j u hu] at huPaused
  · have := noTask_iff.mp hnoOwes i t' (Pool.get_self_after ht)
    rw [ht'] at this
    cases this

theorem resumeSent (h : Agree ch rt) (ht : rt.tasks[i]? = some t) (howes : t.pc.owesResume = true)
    {outcome : Outcome} (ht' : t'.pc = .finished outcome)
    (hstate : sh'.snapshot.state = rt.shared.snapshot.state)
    (hchannel : ∀ c', sh'.channels[ch]? = some c' → c'.willPause = false) :
    Agree ch ⟨sh', rt.tasks.set i t' ++ []⟩ := by
  have hplaying : sh'.snapshot.state ≠ .paused := hstate ▸ h.owesResume i t ht howes
  have hnone : rt.noTask Pc.hasPaused = true := by
    refine noTask_iff.mpr fun j u hu ↦ Bool.eq_false_iff.mpr fun huPaused ↦ ?_
    simp [noTask_iff.mp (h.apart j u hu huPaused) i t ht] at howes
  have hnone' : Runtime.noTask ⟨sh', rt.tasks.set i t' ++ []⟩ Pc.hasPaused = true :=
    noTask_set hnone (by rw [ht']; rfl)
  refine ⟨fun j u _ hu huPaused ↦ ?_, fun j u hu huPaused ↦ ?_, fun _ _ _ _ ↦ hplaying,
    fun c' hc' _ _ ↦ iff_of_false hplaying (by simp [hchannel c' hc'])⟩
  · simp [noTask_iff.mp hnone' j u hu] at huPaused
  · simp [noTask_iff.mp hnone' j u hu] at huPaused

theorem started (h : Agree ch rt) (hpaused : t.pc.hasPaused = false) (howes : t.pc.owesResume = false) :
    Agree ch ⟨rt.shared, rt.tasks ++ [t]⟩ := by
  have hold {f : Pc → Bool} (hf : f t.pc = false) {j : ℕ} {u : Task}
      (hu : (rt.tasks ++ [t])[j]? = some u) (hfu : f u.pc = true) : rt.tasks[j]? = some u := by
    obtain hu | ⟨-, rfl⟩ := Pool.get_started hu
    · exact hu
    · simp [hf] at hfu
  have hnone {f : Pc → Bool} (hn : Runtime.noTask ⟨rt.shared, rt.tasks ++ [t]⟩ f = true) :
      rt.noTask f = true := by
    simp only [Runtime.noTask, List.all_append, Bool.and_eq_true] at hn
    exact hn.1
  refine ⟨fun j u c hu huPaused hc ↦ h.hasPaused j u c (hold hpaused hu huPaused) huPaused hc,
    fun j u hu huPaused ↦ ?_, fun j u hu huOwes ↦ h.owesResume j u (hold howes hu huOwes) huOwes,
    fun c hc hnoPaused hnoOwes ↦ h.agree c hc (hnone hnoPaused) (hnone hnoOwes)⟩
  have := h.apart j u (hold hpaused hu huPaused) huPaused
  simpa [Runtime.noTask, howes] using this

theorem driven (h : Agree ch rt) (hstate : sh'.snapshot.state = rt.shared.snapshot.state)
    (hchannel : ∀ c', sh'.channels[ch]? = some c' →
      ∃ c : Channel, rt.shared.channels[ch]? = some c ∧ c'.willPause = c.willPause) :
    Agree ch ⟨sh', rt.tasks⟩ where
  hasPaused j u c' hu huPaused hc' := by
    obtain ⟨c, hc, hsame⟩ := hchannel c' hc'
    exact hsame ▸ h.hasPaused j u c hu huPaused hc
  apart := h.apart
  owesResume j u hu huOwes := hstate ▸ h.owesResume j u hu huOwes
  agree c' hc' hnoPaused hnoOwes := by
    obtain ⟨c, hc, hsame⟩ := hchannel c' hc'
    rw [hsame, hstate]
    exact h.agree c hc hnoPaused hnoOwes

end Agree

section Checks

variable {s : Snapshot}

theorem ensureTrackLoaded_of_loaded (h : Loaded s) (action : ActionName) :
    ensureTrackLoaded s action = .ok () := by
  simp [ensureTrackLoaded, ensureActiveVoiceSession, h.1, h.2, bind, Except.bind, pure, Except.pure]

theorem pauseGoesOn_of_loaded (h : Loaded s) : pauseGoesOn s = .ok true ↔ s.state = .playing := by
  simp only [pauseGoesOn, ensurePauseableTrack, ensureTrackLoaded_of_loaded h, bind, Except.bind, pure,
    Except.pure]
  cases s.state <;> simp [throw, throwThe, MonadExceptOf.throw]

theorem resumeGoesOn_of_loaded (h : Loaded s) : resumeGoesOn s = .ok true ↔ s.state = .paused := by
  simp only [resumeGoesOn, ensureResumableTrack, ensureTrackLoaded_of_loaded h, bind, Except.bind, pure,
    Except.pure]
  cases s.state <;> simp [throw, throwThe, MonadExceptOf.throw]

theorem emitPlaybackState_state (sh : Shared) (kind : PlaybackEventKind) (a : Attempt) (p : Prepared) :
    (emitPlaybackState sh kind a p).snapshot.state = .paused ↔ sh.snapshot.state = .paused := by
  unfold emitPlaybackState
  split
  · exact Iff.rfl
  · split
    · exact Iff.rfl
    · refine iff_of_false ?_ ‹_›
      cases kind <;> simp [Shared.write, Snapshot.emitPlaybackState, PlaybackEventKind.sessionState]

theorem emitPlaybackState_loaded {sh : Shared} {kind : PlaybackEventKind} {a : Attempt} {p : Prepared}
    (h : Loaded sh.snapshot) : Loaded (emitPlaybackState sh kind a p).snapshot := by
  unfold emitPlaybackState
  split
  · exact h
  · split
    · exact h
    · exact ⟨h.1, rfl⟩

theorem emitPlaybackState_rest (sh : Shared) (kind : PlaybackEventKind) (a : Attempt) (p : Prepared) :
    (emitPlaybackState sh kind a p).mediaCommands = sh.mediaCommands ∧
      (emitPlaybackState sh kind a p).channels = sh.channels := by
  unfold emitPlaybackState
  split
  · exact ⟨rfl, rfl⟩
  · split <;> exact ⟨rfl, rfl⟩

end Checks

theorem Shared.Serves.exitOf {sh : Shared} {ch : ℕ} (h : sh.Serves ch) : sh.exitOf ch = none := by
  obtain ⟨c, hc, halive⟩ := h
  cases hs : c.status with
  | exited exit => exact absurd hs (halive exit)
  | waiting => simp [Shared.exitOf, hc, hs]
  | running => simp [Shared.exitOf, hc, hs]

/-- What a step of a pipeline that is not interrupted does. -/
structure PipelineStep (p : Pipeline) (sh sh' : Shared) (pc' : Pc) (spawned : List Pc) : Prop where
  pipeline : ∃ p', pc'.pipeline = some p' ∧ p'.channel = p.channel ∧ p'.attempt = p.attempt
  spawned : spawned = []
  commands : sh'.mediaCommands = sh.mediaCommands
  loaded : Loaded sh.snapshot → Loaded sh'.snapshot
  state : sh'.snapshot.state = .paused ↔ sh.snapshot.state = .paused
  channel : ∀ c', sh'.channels[p.channel]? = some c' →
    ∃ c : Channel, sh.channels[p.channel]? = some c ∧ c'.willPause = c.willPause
  serves : sh.Serves p.channel → sh'.Serves p.channel

section PipelineSteps

variable {sh sh' : Shared} {p : Pipeline} {pc pc' : Pc} {spawned : List Pc}

theorem pipelineStep_of_channels (hpc : ∃ p', pc'.pipeline = some p' ∧ p'.channel = p.channel ∧ p'.attempt = p.attempt)
    (hcommands : sh'.mediaCommands = sh.mediaCommands) (hloaded : Loaded sh.snapshot → Loaded sh'.snapshot)
    (hstate : sh'.snapshot.state = .paused ↔ sh.snapshot.state = .paused)
    (hchannels : sh'.channels = sh.channels) : PipelineStep p sh sh' pc' [] :=
  ⟨hpc, rfl, hcommands, hloaded, hstate, fun c' hc' ↦ ⟨c', hchannels ▸ hc', rfl⟩,
    fun ⟨c, hc, halive⟩ ↦ ⟨c, hchannels ▸ hc, halive⟩⟩

theorem pipelineStep_emit (kind : PlaybackEventKind) (a : Attempt) (q : Prepared)
    (hpc : ∃ p', pc'.pipeline = some p' ∧ p'.channel = p.channel ∧ p'.attempt = p.attempt) :
    PipelineStep p sh (emitPlaybackState sh kind a q) pc' [] :=
  pipelineStep_of_channels hpc (emitPlaybackState_rest sh kind a q).1 emitPlaybackState_loaded
    (emitPlaybackState_state sh kind a q) (emitPlaybackState_rest sh kind a q).2

theorem pipelineStep_same
    (hpc : ∃ p', pc'.pipeline = some p' ∧ p'.channel = p.channel ∧ p'.attempt = p.attempt) :
    PipelineStep p sh sh pc' [] :=
  pipelineStep_of_channels hpc rfl id Iff.rfl rfl

theorem spawn_willPause (c : Channel) : c.spawn.willPause = c.willPause := by
  unfold Channel.spawn
  split <;> rfl

theorem pipelineStep_spawn : PipelineStep p sh (sh.updateChannel p.channel Channel.spawn) (.pipeLoop p) [] where
  pipeline := ⟨p, rfl, rfl, rfl⟩
  spawned := rfl
  commands := rfl
  loaded := id
  state := Iff.rfl
  channel c' hc' := by
    simp only [Shared.updateChannel, List.getElem?_modify_eq, Option.map_eq_map,
      Option.map_eq_some_iff] at hc'
    obtain ⟨c, hc, rfl⟩ := hc'
    exact ⟨c, hc, spawn_willPause c⟩
  serves := by
    rintro ⟨c, hc, halive⟩
    refine ⟨c.spawn, by simp [Shared.updateChannel, hc], fun exit ↦ ?_⟩
    unfold Channel.spawn
    split
    · simp
    · exact halive exit

theorem Access.pipelineStep (h : Access sh pc sh' pc' spawned) (hp : pc.pipeline = some p)
    (hcurrent : p.attempt.playbackEpoch = sh.playbackEpoch) (hserves : sh.Serves p.channel) :
    PipelineStep p sh sh' pc' spawned := by
  have halive := hserves.exitOf
  cases h
  case depthReady depth => cases hp; exact pipelineStep_same ⟨p.withDepth depth, rfl, rfl, rfl⟩
  case depthEmpty depth => cases hp; exact pipelineStep_same ⟨p.withDepth depth, rfl, rfl, rfl⟩
  case playing => cases hp; exact pipelineStep_emit _ _ _ ⟨p, rfl, rfl, rfl⟩
  case driverSpawned => cases hp; exact pipelineStep_spawn
  case loopStale hstale => cases hp; exact absurd hcurrent.symm hstale
  case loopCurrent => cases hp; exact pipelineStep_same ⟨p, rfl, rfl, rfl⟩
  case selectAgain q hq => cases hp; exact pipelineStep_same ⟨q, rfl, hq.2.2.2, hq.1⟩
  case selectEmit q kind hq => cases hp; exact pipelineStep_same ⟨q, rfl, hq.2.2.2, hq.1⟩
  case selectProgress q hq => cases hp; exact pipelineStep_same ⟨q, rfl, hq.2.2.2, hq.1⟩
  case selectResult exit hexit => cases hp; simp [halive] at hexit
  case selectClosed exit hexit => cases hp; simp [halive] at hexit
  case emitted => cases hp; exact pipelineStep_emit _ _ _ ⟨p, rfl, rfl, rfl⟩
  case progressStale hstale => cases hp; exact absurd hcurrent.symm hstale
  case progressed =>
    cases hp
    exact pipelineStep_of_channels ⟨p, rfl, rfl, rfl⟩ rfl id Iff.rfl rfl
  all_goals cases hp

end PipelineSteps

namespace Uninterrupted

variable {k ch i : ℕ} {rt : Runtime} {t t' : Task} {sh' : Shared}

theorem pipelineMoved (h : Uninterrupted k ch rt) {p' : Pipeline} (ht : rt.tasks[k]? = some t)
    (hp : t'.pc.pipeline = some p') (hchannel : p'.channel = ch)
    (hepoch : p'.attempt.playbackEpoch = sh'.playbackEpoch)
    (hcommands : sh'.mediaCommands = rt.shared.mediaCommands) (hserves : sh'.Serves ch)
    (hloaded : Loaded sh'.snapshot) : Uninterrupted k ch ⟨sh', rt.tasks.set k t' ++ []⟩ where
  pipeline := ⟨t', p', Pool.get_self_after ht, hp, hchannel, hepoch⟩
  commands := hcommands.trans h.commands
  channel := hserves
  others j u hj hu := by
    obtain ⟨rfl, -⟩ | ⟨-, hu⟩ | ⟨-, hu⟩ := Pool.get_after hu
    · exact absurd rfl hj
    · exact h.others j u hj hu
    · cases hu
  loaded := hloaded

theorem toggleMoved (h : Uninterrupted k ch rt) (hi : i ≠ k) (ht' : t'.pc.Toggles ch)
    (hepoch : sh'.playbackEpoch = rt.shared.playbackEpoch)
    (hcommands : sh'.mediaCommands = rt.shared.mediaCommands) (hserves : sh'.Serves ch)
    (hloaded : Loaded sh'.snapshot) : Uninterrupted k ch ⟨sh', rt.tasks.set i t' ++ []⟩ where
  pipeline := by
    obtain ⟨u, p, hu, hp, hchannel, hcurrent⟩ := h.pipeline
    exact ⟨u, p, Pool.get_other_after hi.symm hu, hp, hchannel, hcurrent.trans hepoch.symm⟩
  commands := hcommands.trans h.commands
  channel := hserves
  others j u hj hu := by
    obtain ⟨-, rfl⟩ | ⟨-, hu⟩ | ⟨-, hu⟩ := Pool.get_after hu
    · exact ht'
    · exact h.others j u hj hu
    · cases hu
  loaded := hloaded

theorem started (h : Uninterrupted k ch rt) (ht : t.pc.Toggles ch) :
    Uninterrupted k ch ⟨rt.shared, rt.tasks ++ [t]⟩ where
  pipeline := by
    obtain ⟨u, p, hu, hp⟩ := h.pipeline
    have hk : k < rt.tasks.length := (List.getElem?_eq_some_iff.mp hu).1
    exact ⟨u, p, by rw [List.getElem?_append_left hk, hu], hp⟩
  commands := h.commands
  channel := h.channel
  others j u hj hu := by
    obtain hu | ⟨-, rfl⟩ := Pool.get_started hu
    · exact h.others j u hj hu
    · exact ht
  loaded := h.loaded

end Uninterrupted

theorem send_of_serves {sh sh' : Shared} {ch : ℕ} {command : MediaCommand} (hserves : sh.Serves ch)
    (h : sh.send ch command = some sh') :
    sh' = sh.updateChannel ch fun c ↦ { c with mailbox := c.mailbox ++ [command] } := by
  obtain ⟨c, hc, halive⟩ := hserves
  simp only [Shared.send, hc, Option.bind_eq_bind, Option.bind_some] at h
  split at h
  · exact (Option.some.inj h).symm
  · cases h

theorem push_channel {sh : Shared} {ch : ℕ} {command : MediaCommand} (c' : Channel)
    (h : (sh.updateChannel ch fun c ↦ { c with mailbox := c.mailbox ++ [command] }).channels[ch]? = some c') :
    ∃ c : Channel, sh.channels[ch]? = some c ∧ c'.willPause = pausedAfter c.willPause [command] := by
  simp only [Shared.updateChannel, List.getElem?_modify_eq, Option.map_eq_map,
    Option.map_eq_some_iff] at h
  obtain ⟨c, hc, rfl⟩ := h
  exact ⟨c, hc, Channel.willPause_push c command⟩

theorem push_serves {sh : Shared} {ch : ℕ} (command : MediaCommand) (h : sh.Serves ch) :
    (sh.updateChannel ch fun c ↦ { c with mailbox := c.mailbox ++ [command] }).Serves ch := by
  obtain ⟨c, hc, halive⟩ := h
  exact ⟨{ c with mailbox := c.mailbox ++ [command] }, by simp [Shared.updateChannel, hc], halive⟩

/-- No toggle is in flight beside the pipeline `k`. -/
def Settled (k : ℕ) (rt : Runtime) : Prop :=
  ∀ (j : ℕ) (t : Task), j ≠ k → rt.tasks[j]? = some t → t.inFlight = false

theorem hasPaused_inFlight (pc : Pc) (h : pc.hasPaused = true) :
    pc.pipeline = none ∧ ∀ outcome, pc ≠ .finished outcome := by
  cases pc <;> first | (cases h; done) | exact ⟨rfl, nofun⟩

theorem owesResume_inFlight (pc : Pc) (h : pc.owesResume = true) :
    pc.pipeline = none ∧ ∀ outcome, pc ≠ .finished outcome := by
  cases pc <;> first | cases h | exact ⟨rfl, nofun⟩

theorem noTask_of_settled {k ch : ℕ} {rt : Runtime} {f : Pc → Bool} (h : Uninterrupted k ch rt)
    (hrest : Settled k rt)
    (hf : ∀ pc, f pc = true → pc.pipeline = none ∧ ∀ outcome, pc ≠ .finished outcome) :
    rt.noTask f = true := by
  obtain ⟨u, p, hu, hp, -⟩ := h.pipeline
  refine noTask_iff.mpr fun j t ht ↦ Bool.eq_false_iff.mpr fun hft ↦ ?_
  by_cases hj : j = k
  · subst hj
    cases hu.symm.trans ht
    simp [(hf _ hft).1] at hp
  · have hover := hrest j t hj ht
    unfold Task.inFlight at hover
    split at hover
    · exact (hf _ hft).2 _ ‹_›
    · cases hover

/-- A playback that nothing has interrupted, and whose two pause flags agree. -/
structure InStep (k ch : ℕ) (rt : Runtime) : Prop where
  uninterrupted : Uninterrupted k ch rt
  agree : Agree ch rt

namespace InStep

variable {k ch i : ℕ} {rt : Runtime} {t : Task} {sh' : Shared} {pc' : Pc} {spawned : List Pc}

theorem pipelineMoved (h : InStep k ch rt) (ht : rt.tasks[k]? = some t)
    (ha : Access rt.shared t.pc sh' pc' spawned) :
    InStep k ch ⟨sh', rt.tasks.set k (t.after rt.shared sh' pc') ++
      spawned.map (t.after rt.shared sh' pc').spawn⟩ := by
  obtain ⟨u, p, hu, hp, rfl, hcurrent⟩ := h.uninterrupted.pipeline
  cases ht.symm.trans hu
  have hstep := ha.pipelineStep hp hcurrent h.uninterrupted.channel
  obtain ⟨p', hp', hchannel, hattempt⟩ := hstep.pipeline
  have hepoch : sh'.playbackEpoch = rt.shared.playbackEpoch := by
    have hk : t.pc.kind ≠ .playbackEpoch := by
      intro hk
      revert hp hk
      cases t.pc <;> simp [Pc.pipeline, Pc.kind]
    simpa [hk] using ha.frame.playbackEpoch
  cases hstep.spawned
  have hnot (f : Pc → Bool) (hf : ∀ pc, f pc = true → pc.pipeline = none) :
      f (t.after rt.shared sh' pc').pc = f t.pc := by
    have h₁ : f t.pc = false := Bool.eq_false_iff.mpr fun hft ↦ by simp [hf _ hft] at hp
    have h₂ : f pc' = false := Bool.eq_false_iff.mpr fun hft ↦ by simp [hf _ hft] at hp'
    exact h₂.trans h₁.symm
  refine ⟨h.uninterrupted.pipelineMoved ht hp' hchannel (hattempt ▸ hcurrent.trans hepoch.symm)
    hstep.commands (hstep.serves h.uninterrupted.channel) (hstep.loaded h.uninterrupted.loaded), ?_⟩
  refine h.agree.neutral ht (hnot _ fun pc hpc ↦ ?_) (hnot _ fun pc hpc ↦ ?_) hstep.state hstep.channel
  · cases pc <;> first | rfl | cases hpc
  · cases pc <;> first | rfl | cases hpc

theorem toggleWalked (h : InStep k ch rt) (hi : i ≠ k) (ht : rt.tasks[i]? = some t)
    (ht' : pc'.Toggles ch) (hpaused : pc'.hasPaused = t.pc.hasPaused)
    (howes : pc'.owesResume = t.pc.owesResume) :
    InStep k ch ⟨rt.shared, rt.tasks.set i (t.after rt.shared rt.shared pc') ++ []⟩ :=
  ⟨h.uninterrupted.toggleMoved hi ht' rfl rfl h.uninterrupted.channel h.uninterrupted.loaded,
    h.agree.neutral ht hpaused howes Iff.rfl fun c hc ↦ ⟨c, hc, rfl⟩⟩

theorem delivered (h : InStep k ch rt) (hi : i ≠ k) (ht : rt.tasks[i]? = some t) {command : MediaCommand}
    {next : Pc} (hpc : t.pc = .deliver ch command next)
    (hnext : (command = .pause ∧ next = .pauseWrite) ∨ (command = .resume ∧ next = .finished .ok))
    (hsent : rt.shared.send ch command = some sh')
    (hturn : command = .pause → rt.noTask Pc.owesResume = true) :
    InStep k ch ⟨sh', rt.tasks.set i (t.after rt.shared sh' next) ++ []⟩ := by
  cases send_of_serves h.uninterrupted.channel hsent
  have hserves := push_serves command h.uninterrupted.channel
  obtain ⟨rfl, rfl⟩ | ⟨rfl, rfl⟩ := hnext
  · refine ⟨h.uninterrupted.toggleMoved hi trivial rfl rfl hserves h.uninterrupted.loaded,
      Agree.pauseSent (hturn rfl) ht rfl fun c' hc' ↦ ?_⟩
    obtain ⟨c, -, hwill⟩ := push_channel c' hc'
    exact hwill
  · refine ⟨h.uninterrupted.toggleMoved hi trivial rfl rfl hserves h.uninterrupted.loaded,
      h.agree.resumeSent ht (by rw [hpc]; rfl) rfl rfl fun c' hc' ↦ ?_⟩
    obtain ⟨c, -, hwill⟩ := push_channel c' hc'
    exact hwill

theorem pauseWritten (h : InStep k ch rt) (hi : i ≠ k) (ht : rt.tasks[i]? = some t)
    (hpc : t.pc = .pauseWrite) :
    InStep k ch
      ⟨rt.shared.write fun s ↦ { s with state := .paused },
        rt.tasks.set i (t.after rt.shared (rt.shared.write fun s ↦ { s with state := .paused })
          (.finished .ok)) ++ []⟩ :=
  ⟨h.uninterrupted.toggleMoved hi trivial rfl rfl h.uninterrupted.channel h.uninterrupted.loaded,
    h.agree.pauseWritten ht hpc rfl rfl rfl⟩

theorem pauseSkipped (h : InStep k ch rt) (hi : i ≠ k) (ht : rt.tasks[i]? = some t)
    (hpc : t.pc = .pauseWrite) {outcome : Outcome} (hstate : rt.shared.snapshot.state = .paused) :
    InStep k ch ⟨rt.shared,
      rt.tasks.set i (t.after rt.shared rt.shared (.finished outcome)) ++ []⟩ :=
  ⟨h.uninterrupted.toggleMoved hi trivial rfl rfl h.uninterrupted.channel h.uninterrupted.loaded,
    h.agree.pauseWritten ht hpc rfl hstate rfl⟩

theorem resumeWritten (h : InStep k ch rt) (hi : i ≠ k) (ht : rt.tasks[i]? = some t)
    (hnone : rt.noTask Pc.hasPaused = true) :
    InStep k ch
      ⟨rt.shared.write fun s ↦ { s with state := .playing },
        rt.tasks.set i (t.after rt.shared (rt.shared.write fun s ↦ { s with state := .playing })
          (.sendMedia .resume (.finished .ok))) ++ []⟩ :=
  ⟨h.uninterrupted.toggleMoved hi (.inr ⟨rfl, rfl⟩) rfl rfl h.uninterrupted.channel h.uninterrupted.loaded,
    Agree.resumeWritten hnone ht rfl (by simp [Shared.write])⟩

theorem toggleMoved (h : InStep k ch rt) (hi : i ≠ k) (ht : rt.tasks[i]? = some t) {answer : Answer}
    (ha : Access rt.shared t.pc sh' pc' spawned) (hturn : togglesInTurn rt (.task i answer) = true) :
    InStep k ch ⟨sh', rt.tasks.set i (t.after rt.shared sh' pc') ++
      spawned.map (t.after rt.shared sh' pc').spawn⟩ := by
  have htoggles := h.uninterrupted.others i t hi ht
  have hcommands := h.uninterrupted.commands
  have hloaded := h.uninterrupted.loaded
  simp only [togglesInTurn, ht, Bool.and_eq_true, Bool.or_eq_true, Bool.not_eq_true',
    beq_iff_eq, Bool.and_eq_false_iff, beq_eq_false_iff_ne] at hturn
  obtain ⟨⟨hpause, hresume⟩, hsends⟩ := hturn
  generalize hpc : t.pc = pc at ha htoggles hpause hresume hsends
  cases ha
  case sendChannel command next channel hchannel =>
    cases hcommands.symm.trans hchannel
    refine h.toggleWalked hi ht ⟨rfl, htoggles⟩ ?_ ?_
    · rw [hpc]; rfl
    · obtain ⟨rfl, rfl⟩ | ⟨rfl, rfl⟩ := htoggles <;> rw [hpc] <;> rfl
  case sendNowhere hnone => simp [hcommands] at hnone
  case deliver channel command hsent =>
    obtain ⟨rfl, hnext⟩ := htoggles
    refine h.delivered hi ht hpc hnext hsent fun hcommand ↦ ?_
    subst hcommand
    simpa [Pc.sendsPause] using hsends
  case pauseRefused => exact h.toggleWalked hi ht trivial (by rw [hpc]; rfl) (by rw [hpc]; rfl)
  case pauseEnter =>
    exact h.toggleWalked hi ht (.inl ⟨rfl, rfl⟩) (by rw [hpc]; rfl) (by rw [hpc]; rfl)
  case pauseSkipped hgoes =>
    have hstate : rt.shared.snapshot.state = .paused := by
      rw [Ne, pauseGoesOn_of_loaded hloaded] at hgoes
      simpa [Pc.hasPaused, hgoes] using hpause
    exact h.pauseSkipped hi ht hpc hstate
  case paused => exact h.pauseWritten hi ht hpc
  case resumeRefused => exact h.toggleWalked hi ht trivial (by rw [hpc]; rfl) (by rw [hpc]; rfl)
  case resumeEnter => exact h.toggleWalked hi ht trivial (by rw [hpc]; rfl) (by rw [hpc]; rfl)
  case resumeSkipped => exact h.toggleWalked hi ht trivial (by rw [hpc]; rfl) (by rw [hpc]; rfl)
  case resumed hgoes =>
    have hstate := (resumeGoesOn_of_loaded hloaded).mp hgoes
    exact h.resumeWritten hi ht (by simpa [Pc.writesResume, hstate] using hresume)
  all_goals cases htoggles

theorem served (h : InStep k ch rt) {channel : ℕ} {c c' : Channel}
    (hc : rt.shared.channels[channel]? = some c)
    (hserves : channel = ch → c'.status = c.status ∧ c'.willPause = c.willPause) :
    InStep k ch ⟨{ rt.shared with channels := rt.shared.channels.set channel c' }, rt.tasks⟩ := by
  have hlt : channel < rt.shared.channels.length := (List.getElem?_eq_some_iff.mp hc).1
  obtain ⟨d, hd, halive⟩ := h.uninterrupted.channel
  have hsame : ∃ d' : Channel, (rt.shared.channels.set channel c')[ch]? = some d' ∧
      d'.status = d.status ∧ d'.willPause = d.willPause := by
    by_cases hch : channel = ch
    · subst hch
      cases hc.symm.trans hd
      exact ⟨c', List.getElem?_set_self hlt, hserves rfl⟩
    · exact ⟨d, by rw [List.getElem?_set_ne hch, hd], rfl, rfl⟩
  obtain ⟨d', hd', hstatus, hwill⟩ := hsame
  refine ⟨⟨h.uninterrupted.pipeline, h.uninterrupted.commands, ⟨d', hd', hstatus ▸ halive⟩,
    h.uninterrupted.others, h.uninterrupted.loaded⟩, h.agree.driven rfl fun e he ↦ ⟨d, hd, ?_⟩⟩
  cases hd'.symm.trans he
  exact hwill

theorem driven (h : InStep k ch rt) {e : DriverMove} (hplays : playsOn ch (.env e) = true)
    (he : driverMove rt.shared e = some sh') : InStep k ch ⟨sh', rt.tasks⟩ := by
  cases e with
  | take channel =>
    simp only [driverMove, Option.bind_eq_bind, Option.bind_eq_some_iff] at he
    obtain ⟨c, hc, c', hc', he⟩ := he
    cases he
    exact h.served hc fun _ ↦ ⟨Channel.status_take hc', Channel.willPause_take hc'⟩
  | apply channel =>
    simp only [driverMove, Option.bind_eq_bind, Option.bind_eq_some_iff] at he
    obtain ⟨c, hc, c', hc', he⟩ := he
    cases he
    exact h.served hc fun _ ↦ ⟨Channel.status_apply hc', Channel.willPause_apply hc'⟩
  | exit channel exit =>
    simp only [driverMove, Option.bind_eq_bind, Option.bind_eq_some_iff] at he
    obtain ⟨c, hc, c', hc', he⟩ := he
    cases he
    exact h.served hc fun hch ↦ absurd hch (by simpa [playsOn] using hplays)

theorem step {rt' : Runtime} {move : Move} (h : InStep k ch rt)
    (hok : playsOn ch move = true ∧ togglesInTurn rt move = true) (hstep : rt.step move = some rt') :
    InStep k ch rt' := by
  obtain ⟨command, rfl, rfl⟩ | ⟨i, answer, t, sh', pc, spawned, rfl, ht, ha, rfl⟩ | ⟨e, sh', rfl, he, rfl⟩ :=
    step_cases hstep
  · cases command
    case pause => exact ⟨h.uninterrupted.started trivial, h.agree.started rfl rfl⟩
    case resume => exact ⟨h.uninterrupted.started trivial, h.agree.started rfl rfl⟩
    all_goals cases hok.1
  · by_cases hi : i = k
    · subst hi
      exact h.pipelineMoved ht ha
    · exact h.toggleMoved hi ht ha hok.2
  · exact h.driven hok.1 he

/-- Where no toggle is in flight and the driver has applied its commands, the flags are equal. -/
theorem paused_iff (h : InStep k ch rt) {c : Channel} (hc : rt.shared.channels[ch]? = some c)
    (hmailbox : c.mailbox = []) (hidle : c.applying = none) (hrest : Settled k rt) :
    rt.shared.snapshot.state = .paused ↔ c.paused = true := by
  have hwill : c.willPause = c.paused := by
    simp [Channel.willPause, Channel.due, hmailbox, hidle, pausedAfter]
  rw [← hwill]
  exact h.agree.agree c hc (noTask_of_settled h.uninterrupted hrest hasPaused_inFlight)
    (noTask_of_settled h.uninterrupted hrest owesResume_inFlight)

end InStep

/-- A playback before the first toggle: its driver has nothing to apply and its two pause flags
agree. -/
structure Underway (k ch : ℕ) (rt : Runtime) : Prop extends Uninterrupted k ch rt where
  settled : Settled k rt
  applied : ∃ c : Channel, rt.shared.channels[ch]? = some c ∧ c.mailbox = [] ∧ c.applying = none ∧
    (rt.shared.snapshot.state = .paused ↔ c.paused = true)

theorem Underway.inStep {k ch : ℕ} {rt : Runtime} (h : Underway k ch rt) : InStep k ch rt := by
  obtain ⟨c, hc, hmailbox, hidle, hiff⟩ := h.applied
  have hpaused := noTask_of_settled h.toUninterrupted h.settled hasPaused_inFlight
  have howes := noTask_of_settled h.toUninterrupted h.settled owesResume_inFlight
  have hwill : c.willPause = c.paused := by
    simp [Channel.willPause, Channel.due, hmailbox, hidle, pausedAfter]
  refine ⟨h.toUninterrupted, fun j t _ ht htPaused ↦ ?_, fun _ _ _ _ ↦ howes, fun j t ht htOwes ↦ ?_,
    fun c' hc' _ _ ↦ ?_⟩
  · simp [noTask_iff.mp hpaused j t ht] at htPaused
  · simp [noTask_iff.mp howes j t ht] at htOwes
  · cases hc.symm.trans hc'
    rw [hwill]
    exact hiff

/-- In a run of one playback whose toggles take turns, the snapshot shows `Paused` exactly when the
driver is paused, wherever no toggle is in flight and the driver has applied its commands. -/
theorem paused_iff_driver_paused_of_togglesInTurn {k ch : ℕ} {moves : List Move} {rt₀ rt : Runtime}
    {c : Channel} (hstart : Underway k ch rt₀)
    (hok : Throughout Runtime.step (fun rt move ↦ playsOn ch move = true ∧ togglesInTurn rt move = true)
      rt₀ moves)
    (hrun : exec Runtime.step rt₀ moves = some rt) (hrest : Settled k rt)
    (hc : rt.shared.channels[ch]? = some c) (hmailbox : c.mailbox = []) (hidle : c.applying = none) :
    rt.shared.snapshot.state = .paused ↔ c.paused = true := by
  have hin : InStep k ch rt :=
    exec_induction (fun _ _ _ h hok hstep ↦ h.step hok hstep) hstart.inStep hok hrun
  exact hin.paused_iff hc hmailbox hidle hrest

/-- The runtime after `joinLobby` and `playVideo`. -/
def playingVideo : Runtime where
  shared :=
    { hasPlayback := true
      snapshot := ⟨.playing, some "guild", some "channel", some "video", some 251, 50, 0, false, false, none⟩
      mediaCommands := some 0
      channels := [{ status := .running }]
      playbackEpoch := 1
      writes := 5 }
  tasks :=
    [⟨some (.joinVoice lobby), .finished .ok, {}, {}, true⟩,
      ⟨some (.play "video"),
        .pipeLoop ⟨⟨"video", 1, none⟩, ⟨251, 50, 0⟩, 0, ⟨lobby, true, true, false, false⟩, 0, false⟩,
        ⟨1, 0⟩, ⟨1, 0⟩, true⟩]

theorem exec_playVideo :
    exec Runtime.step .withPlaybackWorker (joinLobby ++ playVideo) = some playingVideo := by
  decide +kernel

theorem underway_playingVideo : Underway 1 0 playingVideo where
  pipeline := ⟨_, _, rfl, rfl, rfl, rfl⟩
  commands := rfl
  channel := ⟨{ status := .running }, rfl, nofun⟩
  others
    | 0, _, _, rfl => trivial
    | 1, _, hj, _ => absurd rfl hj
  loaded := ⟨rfl, rfl⟩
  settled
    | 0, _, _, rfl => rfl
    | 1, _, hj, _ => absurd rfl hj
  applied := ⟨{ status := .running }, rfl, rfl, rfl, by decide⟩

theorem settled_of_inFlight {rt : Runtime} (h : rt.tasks.map Task.inFlight = [false, true, false]) :
    Settled 1 rt := by
  intro j t hj ht
  have hfly : (rt.tasks.map Task.inFlight)[j]? = some t.inFlight := by simp [ht]
  rw [h] at hfly
  match j, hj with
  | 0, _ => exact (Option.some.inj hfly).symm
  | 1, hj => exact absurd rfl hj
  | 2, _ => exact (Option.some.inj hfly).symm
  | j + 3, _ => cases hfly

/-- A `Pause` that runs through, and the driver that applies it. -/
def pauseVideo : List Move := .start .pause :: runs 2 4 ++ [.env (.take 0), .env (.apply 0)]

theorem paused_iff_driver_paused_pauseVideo :
    ∃ rt c, exec Runtime.step playingVideo pauseVideo = some rt ∧ rt.shared.channels[0]? = some c ∧
      c.paused = true ∧ (rt.shared.snapshot.state = .paused ↔ c.paused = true) := by
  have hok : allowed Runtime.step (fun rt move ↦ playsOn 0 move && togglesInTurn rt move)
      playingVideo pauseVideo = true := by
    decide +kernel
  have hends : (exec Runtime.step playingVideo pauseVideo).map (fun rt ↦
      (rt.tasks.map Task.inFlight, rt.shared.channels[0]?)) =
      some ([false, true, false], some ⟨[], none, true, .running⟩) := by
    decide +kernel
  obtain ⟨rt, hrun, hrt⟩ := Option.map_eq_some_iff.mp hends
  simp only [Prod.mk.injEq] at hrt
  have hturns : Throughout Runtime.step
      (fun rt move ↦ playsOn 0 move = true ∧ togglesInTurn rt move = true) playingVideo pauseVideo := by
    simpa only [Bool.and_eq_true] using throughout_of_allowed hok
  exact ⟨rt, _, hrun, hrt.2, rfl,
    paused_iff_driver_paused_of_togglesInTurn underway_playingVideo hturns hrun (settled_of_inFlight hrt.1) hrt.2 rfl rfl⟩

/-- A `Pause` sends its command, the source runs dry before it writes the state, and its second
check fails. -/
def pauseIntoUnderrun : List Move :=
  .start .pause :: runs 2 3 ++
    [.task 1 .go, .task 1 (.metric (.sourceUnderrun 0)), .task 1 .go, .task 2 .go, .env (.take 0),
      .env (.apply 0)]

theorem driver_paused_while_buffering :
    exec Runtime.step .withPlaybackWorker (joinLobby ++ playVideo) = some playingVideo ∧
      Underway 1 0 playingVideo ∧ pauseIntoUnderrun.all (playsOn 0) = true ∧
      ∃ rt c, exec Runtime.step playingVideo pauseIntoUnderrun = some rt ∧ Settled 1 rt ∧
        rt.shared.channels[0]? = some c ∧ c.mailbox = [] ∧ c.applying = none ∧
        ¬(rt.shared.snapshot.state = .paused ↔ c.paused = true) := by
  have hends : (exec Runtime.step playingVideo pauseIntoUnderrun).map (fun rt ↦
      (rt.tasks.map Task.inFlight, rt.shared.snapshot.state, rt.shared.channels[0]?)) =
      some ([false, true, false], .buffering, some ⟨[], none, true, .running⟩) := by
    decide +kernel
  obtain ⟨rt, hrun, hrt⟩ := Option.map_eq_some_iff.mp hends
  simp only [Prod.mk.injEq] at hrt
  exact ⟨exec_playVideo, underway_playingVideo, by decide, rt, _, hrun, settled_of_inFlight hrt.1,
    hrt.2.2, rfl, rfl, by simp [hrt.2.1]⟩

end DiscordVoice.Session
