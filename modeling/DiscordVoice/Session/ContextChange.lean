import DiscordVoice.Session.Conservation

namespace DiscordVoice.Session

open Schedule
open Voice (VoiceContext)

/-- The session in the voice slot, if there is one, is one for `voice`. -/
def Shared.slotIn (voice : VoiceContext) (sh : Shared) : Bool :=
  sh.voice.all fun session ↦ session.voiceContext = voice

/-- The snapshot names the guild and the channel of `voice`. -/
def Shared.shows (voice : VoiceContext) (sh : Shared) : Bool :=
  sh.snapshot.guildId = some voice.guildId && sh.snapshot.channelId = some voice.channelId

def Ending.within (voice : VoiceContext) (e : Ending) : Bool :=
  e.session.all fun session ↦ session.voiceContext = voice

/-- With a session for `voice` in the slot, the task brings no session for another context into the
slot or to a driver and shows no other context: what it has of another one is behind a check that
fails from now on. -/
def Pc.agrees (voice : VoiceContext) (sh : Shared) : Pc → Bool
  | .sendMedia _ next | .deliver _ _ next => next.agrees voice sh
  | .checkRollover _ yes no | .checkPlayback _ yes no | .checkVideo _ yes no =>
    yes.agrees voice sh && no.agrees voice sh
  | .joinEnter _ => sh.snapshot.guildId.isSome
  | .joinConnect v | .updateEnter v | .refreshOwner v | .refreshSlot v | .refreshSuspend v
  | .refreshWrite v | .rolloverEnter v | .rolloverBegin v _ => v = voice
  | .rolloverOwner r | .rolloverGeneration r | .rolloverWait r _ | .rolloverInterrupt r
  | .rolloverCompare r | .replaceGeneration r | .replaceInterrupt r | .replaceClear r | .replaceGuard r
  | .replaceAnnounce r _ | .matchInterrupt r | .matchGuard r | .matchAnnounce r _ | .matchRefresh r _ =>
    r.voice = voice
  | .replaceConnect r _ => r.voice = voice || r.epoch < sh.rolloverEpoch
  | .replaceSettle r _ session | .replaceCurrent r _ session =>
    session.voiceContext = voice || r.epoch < sh.rolloverEpoch
  | .joinSettle session | .joinReady session | .replaceInstall _ _ session | .reconnectedWrite _ _ session
  | .playSpeaking _ _ session | .playSpoken _ _ session | .playGiveBack _ session _
  | .playGeneration _ _ session | .pipePutBack _ _ session => session.voiceContext = voice
  | .pipeInstall p | .pipeDepth p | .pipePlaying p | .pipeSpawn p | .pipeLoop p | .pipeSelect p
  | .pipeEmit p _ | .pipeProgress p => p.session.voiceContext = voice
  | .pipeClear p _ e | .pipeStop p e | .pipeAwait p e =>
    p.session.voiceContext = voice && e.within voice ||
      p.generation < sh.voiceTransportGeneration && (sh.exitOf p.channel).isSome
  | .pipeInterrupted p e | .pipeRestoreGeneration p e =>
    e.within voice || p.generation < sh.voiceTransportGeneration
  | .pipeRestoreSlot _ e => e.within voice
  | .pipeBoundary _ e session => !e.restore || session.voiceContext = voice
  | .leaveRollover | .leavePlayback | .leaveOwner | .leaveCount _ | .leaveGeneration _ _
  | .leaveStopped _ | .leaveClear | .leaveWrite => false
  | _ => true

section Agrees

variable {voice : VoiceContext} {sh sh' : Shared} {pc pc' : Pc} {spawned : List Pc}

theorem agrees_mono (hr : sh.rolloverEpoch ≤ sh'.rolloverEpoch)
    (hg : sh.voiceTransportGeneration ≤ sh'.voiceTransportGeneration)
    (hexit : ∀ channel exit, sh.exitOf channel = some exit → sh'.exitOf channel = some exit)
    (hguild : sh.snapshot.guildId.isSome = true → sh'.snapshot.guildId.isSome = true)
    (h : pc.agrees voice sh = true) : pc.agrees voice sh' = true := by
  have hgone (channel : ℕ) (hs : (sh.exitOf channel).isSome = true) :
      (sh'.exitOf channel).isSome = true := by
    obtain ⟨exit, he⟩ := Option.isSome_iff_exists.mp hs
    rw [hexit channel exit he]
    rfl
  induction pc
  case sendMedia ih => exact ih h
  case deliver ih => exact ih h
  case checkRollover ihy ihn =>
    simp only [Pc.agrees, Bool.and_eq_true] at h ⊢
    exact ⟨ihy h.1, ihn h.2⟩
  case checkPlayback ihy ihn =>
    simp only [Pc.agrees, Bool.and_eq_true] at h ⊢
    exact ⟨ihy h.1, ihn h.2⟩
  case checkVideo ihy ihn =>
    simp only [Pc.agrees, Bool.and_eq_true] at h ⊢
    exact ⟨ihy h.1, ihn h.2⟩
  case joinEnter => exact hguild h
  all_goals first
    | exact h
    | simp only [Pc.agrees, Bool.and_eq_true, Bool.or_eq_true, decide_eq_true_eq] at h ⊢
  all_goals first
    | exact h.imp_right fun _ ↦ by omega
    | exact h.imp_right fun h ↦ ⟨by omega, hgone _ h.2⟩

theorem Frame.agrees {k : Kind} (hf : Frame k sh sh')
    (hguild : sh.snapshot.guildId.isSome = true → sh'.snapshot.guildId.isSome = true)
    (h : pc.agrees voice sh = true) : pc.agrees voice sh' = true := by
  have hr := hf.rolloverEpoch
  have hg := hf.generation
  exact agrees_mono (by omega) (by omega) hf.exitOf hguild h

theorem playReturns_agrees (a : Attempt) (outcome : Outcome) :
    (playReturns a outcome).agrees voice sh = true := by
  unfold playReturns
  split <;> rfl

theorem resumeIntended_agrees (sh₀ : Shared) (r : Rollover) (guard : ℕ) :
    (resumeIntended sh₀ r guard).agrees voice sh = true := by
  unfold resumeIntended
  split
  · split <;> rfl
  · rfl

theorem pipeCleanUp_agrees {p : Pipeline} {e : Ending} (h : e.restore = false ∨ e.within voice = true) :
    (pipeCleanUp p e).agrees voice sh = true := by
  unfold pipeCleanUp
  split
  · rename_i session hsession
    simpa [Pc.agrees, Ending.within, hsession] using h
  · rfl

theorem pipeBoundaryDone_agrees {p : Pipeline} {e : Ending} {session : SessionHandle}
    (h : e.restore = false ∨ session.voiceContext = voice) :
    (pipeBoundaryDone p e session).agrees voice sh = true := by
  unfold pipeBoundaryDone
  split
  · have hcontext := h.resolve_left (by simp [*])
    simpa [Pc.agrees] using hcontext
  · rfl

theorem ofExit_within {p : Pipeline} {e : Ending} (exit : Option DriverExit)
    (hp : p.session.voiceContext = voice) (he : e.within voice = true) :
    (e.ofExit p exit).within voice = true := by
  cases exit with
  | none => exact he
  | some exit => simpa [Ending.ofExit, Ending.within, SessionHandle.after] using hp

theorem slotIn_after {isConnected mediaStarted : Bool} (h : sh.slotIn voice = true) :
    (sh.voice.map fun session ↦ session.after isConnected mediaStarted).all
      (fun session ↦ session.voiceContext = voice) = true := by
  cases hv : sh.voice with
  | none => rfl
  | some session => simpa [Shared.slotIn, hv, SessionHandle.after] using h

/-- What an agreeing task leaves: a slot and a snapshot as they are to be. -/
structure Agreeable (voice : VoiceContext) (sh sh' : Shared) (pc' : Pc) (spawned : List Pc) : Prop where
  slot : sh'.slotIn voice = true
  shown : sh.shows voice = true → sh'.shows voice = true
  guild : sh.snapshot.guildId.isSome = true → sh'.snapshot.guildId.isSome = true
  next : pc'.agrees voice sh = true
  spawned : ∀ q ∈ spawned, q.agrees voice sh = true

theorem Agreeable.same (hslot : sh.slotIn voice = true) (h : pc'.agrees voice sh = true) :
    Agreeable voice sh sh pc' [] :=
  ⟨hslot, id, id, h, nofun⟩

theorem Agreeable.kept (hslot : sh'.slotIn voice = true)
    (hguild : sh'.snapshot.guildId = sh.snapshot.guildId)
    (hchannel : sh'.snapshot.channelId = sh.snapshot.channelId) (h : pc'.agrees voice sh = true) :
    Agreeable voice sh sh' pc' [] := by
  refine ⟨hslot, fun hs ↦ ?_, fun hs ↦ ?_, h, nofun⟩
  · simpa only [Shared.shows, hguild, hchannel] using hs
  · rwa [hguild]

theorem Agreeable.of_frame {k : Kind} (hslot : sh.slotIn voice = true) (hf : Frame k sh sh')
    (hk : k = .quiet ∨ k = .playbackEpoch ∨ k = .rolloverEpoch ∨ k = .generation)
    (h : pc'.agrees voice sh = true) : Agreeable voice sh sh' pc' [] := by
  have hsnapshot : sh'.snapshot = sh.snapshot := by
    obtain rfl | rfl | rfl | rfl := hk <;> exact hf.snapshot nofun nofun
  have hvoice : sh'.voice = sh.voice := by
    obtain rfl | rfl | rfl | rfl := hk <;> exact hf.voice nofun nofun
  refine .kept ?_ (by rw [hsnapshot]) (by rw [hsnapshot]) h
  rwa [Shared.slotIn, hvoice]

theorem Agreeable.wrote (hslot : sh'.slotIn voice = true) (hshown : sh'.shows voice = true)
    (h : pc'.agrees voice sh = true) : Agreeable voice sh sh' pc' [] := by
  refine ⟨hslot, fun _ ↦ hshown, fun _ ↦ ?_, h, nofun⟩
  simp only [Shared.shows, Bool.and_eq_true, decide_eq_true_eq] at hshown
  rw [hshown.1]
  rfl

theorem Agreeable.emitted {a : Attempt} {kind : PlaybackEventKind} {q : Prepared}
    (hslot : sh.slotIn voice = true) (h : pc'.agrees voice sh = true) :
    Agreeable voice sh (emitPlaybackState sh kind a q) pc' [] := by
  have hframe : Frame .snapshot sh (emitPlaybackState sh kind a q) := frame_emit kind a q
  have hvoice := hframe.voice nofun nofun
  refine .kept (by rwa [Shared.slotIn, hvoice]) ?_ ?_ h
  · unfold emitPlaybackState
    split
    · rfl
    · split <;> rfl
  · unfold emitPlaybackState
    split
    · rfl
    · split <;> rfl

theorem Access.agreeable (h : Access sh pc sh' pc' spawned) (hslot : sh.slotIn voice = true)
    (ha : pc.agrees voice sh = true) : Agreeable voice sh sh' pc' spawned := by
  have hframe := h.frame
  cases h
  case rolloverStale => exact .same hslot (Bool.and_eq_true_iff.mp ha).2
  case playbackStale => exact .same hslot (Bool.and_eq_true_iff.mp ha).2
  case videoLoaded => exact .same hslot (Bool.and_eq_true_iff.mp ha).1
  case videoGone => exact .same hslot (Bool.and_eq_true_iff.mp ha).2
  case joinConnecting h =>
    simp only [Pc.agrees] at ha
    simp only [ensureJoinableSession] at h
    split_ifs at h with hidle
    simp [hidle.2.1] at ha
  case joinReady session =>
    obtain rfl : session.voiceContext = voice := of_decide_eq_true ha
    exact .wrote (by simp [Shared.slotIn]) (by simp [Shared.shows, Shared.write, Snapshot.joined,
      Snapshot.applyVoiceContext, Snapshot.applyRolloverState, Snapshot.clearTrack]) rfl
  case refreshed v h =>
    obtain rfl : v = voice := of_decide_eq_true ha
    exact .wrote hslot (by simp [Shared.shows, Shared.write, Snapshot.refreshed,
      Snapshot.applyVoiceContext]) rfl
  case reconnected r guard session =>
    obtain rfl : session.voiceContext = voice := of_decide_eq_true ha
    exact .wrote hslot (by simp [Shared.shows, Shared.write, Snapshot.reconnected,
      Snapshot.applyVoiceContext, Snapshot.applyRolloverState]) (resumeIntended_agrees _ _ _)
  case refreshDisconnected v => exact .kept ha rfl rfl ha
  case refreshSuspended v => exact .kept ha rfl rfl ha
  case refreshSuspendFailed => exact .kept (slotIn_after hslot) rfl rfl rfl
  case replaceInstall => exact .kept ha rfl rfl ha
  case matchRefreshed h => exact .kept ha rfl rfl ha
  case quiesced => exact .kept (slotIn_after hslot) rfl rfl rfl
  case stopBoundary => exact .kept (slotIn_after hslot) rfl rfl rfl
  case stopBoundaryFailed => exact .kept (slotIn_after hslot) rfl rfl rfl
  case taken hv =>
    refine .kept rfl rfl rfl ?_
    simpa [Shared.slotIn, hv, Pc.agrees] using hslot
  case givenBack session outcome =>
    refine .kept ?_ rfl rfl (playReturns_agrees _ _)
    cases hv : sh.voice with
    | none => simpa [Shared.slotIn, Pc.agrees] using ha
    | some other => simpa [Shared.slotIn, hv] using hslot
  case putBack => exact .kept ha rfl rfl rfl
  case leaveSlot => exact .kept rfl rfl rfl rfl
  case replaceCurrent h =>
    simp only [Pc.agrees, Bool.or_eq_true, decide_eq_true_eq] at ha
    exact .same hslot (decide_eq_true (ha.resolve_right (by omega)))
  case restoreCurrent h =>
    simp only [Pc.agrees, Bool.or_eq_true, decide_eq_true_eq] at ha
    exact .same hslot (ha.resolve_right (by omega))
  case restoreStale => exact .same hslot (pipeCleanUp_agrees (.inl rfl))
  case restoreDecided => exact .same hslot (pipeCleanUp_agrees (.inr ha))
  case boundary =>
    simp only [Pc.agrees, Bool.or_eq_true, Bool.not_eq_true', decide_eq_true_eq] at ha
    exact .same hslot (pipeBoundaryDone_agrees ha)
  case clearedDone =>
    simp only [Pc.agrees, Bool.or_eq_true, Bool.and_eq_true, decide_eq_true_eq] at ha
    refine .of_frame hslot hframe (.inl rfl) ?_
    simpa [Pc.agrees] using ha.imp (·.2) (·.1)
  case driverAwaited p e exit h =>
    simp only [Pc.agrees, Bool.or_eq_true, Bool.and_eq_true, decide_eq_true_eq] at ha
    refine .same hslot ?_
    simpa [Pc.agrees] using ha.imp (fun h ↦ ofExit_within exit h.1 h.2) (·.1)
  case selectAgain q hq => exact .same hslot (by simpa [Pc.agrees, hq.2.2.1] using ha)
  case selectEmit q kind hq => exact .same hslot (by simpa [Pc.agrees, hq.2.2.1] using ha)
  case selectProgress q hq => exact .same hslot (by simpa [Pc.agrees, hq.2.2.1] using ha)
  case selectResult p exit h =>
    have hp : p.session.voiceContext = voice := of_decide_eq_true ha
    refine .same hslot ?_
    simp [Pc.agrees, hp, ofExit_within (e := {}) exit hp rfl]
  case selectClosed p exit h =>
    have hp : p.session.voiceContext = voice := of_decide_eq_true ha
    exact .same hslot (by simp [Pc.agrees, hp, Ending.within])
  case replaceAnnounce =>
    refine .kept hslot rfl rfl ?_
    simp only [Pc.agrees] at ha ⊢
    rw [ha]
    rfl
  case resumeBegin =>
    refine ⟨hslot, id, id, rfl, fun q hq ↦ ?_⟩
    cases List.mem_singleton.mp hq
    rfl
  case stopReturned active generation => exact .same hslot (by cases active <;> rfl)
  case stopInterrupt active generation =>
    exact .of_frame hslot hframe (.inr (.inl rfl)) (by cases active <;> rfl)
  all_goals first
    | exact .same hslot ha
    | exact .same hslot rfl
    | exact .same hslot (playReturns_agrees _ _)
    | exact .of_frame hslot hframe (.inl rfl) ha
    | exact .of_frame hslot hframe (.inl rfl) (playReturns_agrees _ _)
    | exact .of_frame hslot hframe (.inr (.inl rfl)) ha
    | exact .of_frame hslot hframe (.inr (.inr (.inl rfl))) ha
    | exact .of_frame hslot hframe (.inr (.inr (.inr rfl))) ha
    | exact .kept hslot rfl rfl ha
    | exact .kept hslot rfl rfl (playReturns_agrees _ _)
    | exact .emitted hslot ha
    | cases ha

end Agrees

/-- `update_voice_context` before its session is in place, or on its way to an error. -/
def Pc.changing (voice : VoiceContext) : Pc → Bool
  | .sendMedia _ next | .deliver _ _ next => next.changing voice
  | .checkRollover _ yes no | .checkPlayback _ yes no | .checkVideo _ yes no =>
    yes.changing voice && no.changing voice
  | .updateEnter v | .refreshOwner v | .refreshSlot v | .refreshSuspend v | .rolloverEnter v
  | .rolloverBegin v _ => v = voice
  | .rolloverOwner r | .rolloverGeneration r | .rolloverWait r _ | .rolloverInterrupt r
  | .rolloverCompare r | .replaceGeneration r | .replaceInterrupt r | .replaceClear r | .replaceGuard r
  | .replaceAnnounce r _ | .replaceConnect r _ | .replaceFailed r _ _ | .matchInterrupt r | .matchGuard r
  | .matchAnnounce r _ | .matchRefresh r _ => r.voice = voice
  | .replaceSettle r _ session | .replaceCurrent r _ session | .replaceInstall r _ session =>
    r.voice = voice && session.voiceContext = voice
  | .recoverWrite _ outcome | .quiesceSlot _ outcome | .quiesceBoundary _ outcome
  | .interruptWrite _ outcome | .finished outcome => outcome ≠ .ok
  | _ => false

/-- The session is in place and the snapshot is to be written. -/
def Pc.changed (voice : VoiceContext) : Pc → Bool
  | .refreshWrite v => v = voice
  | .reconnectedWrite _ _ session => session.voiceContext = voice
  | _ => false

/-- The snapshot is written: all that is left is to start the track again. -/
def Pc.restarting : Pc → Bool
  | .checkRollover _ yes no | .checkPlayback _ yes no | .checkVideo _ yes no =>
    yes.restarting && no.restarting
  | .resumeBegin _ _ | .finished .ok => true
  | _ => false

/-- What is asked of a step of `update_voice_context`, where `agree` says whether all other tasks
agree on a context: its decisive steps find no driver, find the others agreeing, find the track
still paused, and find their rollover still the latest. -/
def decidesWell (agree : VoiceContext → Bool) (sh : Shared) (answer : Answer) : Pc → Bool
  | .refreshOwner voice => sh.mediaCommands.isNone || sh.slotIn voice && agree voice
  | .refreshSlot voice => (sh.voice.any fun session ↦ session.isConnected) || agree voice
  | .refreshSuspend voice => answer ≠ .go || agree voice
  | .refreshWrite voice => sh.snapshot.state = .paused || sh.shows voice
  | .replaceFailed r _ _ | .replaceCurrent r _ _ => sh.rolloverEpoch = r.epoch
  | .replaceInstall r _ _ => agree r.voice
  | .matchRefresh r _ => sh.voice.isNone || agree r.voice
  | _ => true

section Update

variable {voice : VoiceContext} {sh sh' : Shared} {pc pc' : Pc} {spawned : List Pc} {answer : Answer}
  {agree : VoiceContext → Bool}

theorem refreshSlot_disconnected {session : SessionHandle}
    (h : advance sh (.refreshSlot voice) answer =
      some ({ sh with voice := some session }, .refreshWrite voice, [])) :
    (sh.voice.any fun session ↦ session.isConnected) = false := by
  simp only [advance, refreshSlot, lockingVoice_eq_some] at h
  by_contra hconnected
  rw [if_pos (by simpa using hconnected)] at h
  simp [goto] at h

theorem refreshSuspend_go
    (h : advance sh (.refreshSuspend voice) answer = some (sh', .refreshWrite voice, [])) :
    answer = .go := by
  cases answer <;> first | rfl | cases h

theorem changing_step (h : advance sh pc answer = some (sh', pc', spawned))
    (hpc : pc.changing voice = true) (hok : decidesWell agree sh answer pc = true) :
    spawned = [] ∧ (pc'.changing voice = true ∨
      pc'.changed voice = true ∧ sh'.slotIn voice = true ∧ agree voice = true ∧
        sh'.snapshot = sh.snapshot) := by
  have ha := advance_access h
  cases ha
  case refreshOwned v hsome =>
    obtain rfl : v = voice := of_decide_eq_true hpc
    have hfree : sh.mediaCommands.isNone = false := by
      cases hm : sh.mediaCommands with
      | none => simp [hm] at hsome
      | some _ => rfl
    simp only [decidesWell, hfree, Bool.false_or, Bool.and_eq_true] at hok
    exact ⟨rfl, .inr ⟨hpc, hok.1, hok.2, rfl⟩⟩
  case refreshDisconnected v =>
    obtain rfl : v = voice := of_decide_eq_true hpc
    simp only [decidesWell, refreshSlot_disconnected h, Bool.false_or] at hok
    exact ⟨rfl, .inr ⟨hpc, hpc, hok, rfl⟩⟩
  case refreshSuspended v =>
    obtain rfl : v = voice := of_decide_eq_true hpc
    simp only [decidesWell, refreshSuspend_go h, ne_eq, not_true, decide_false, Bool.false_or] at hok
    exact ⟨rfl, .inr ⟨hpc, hpc, hok, rfl⟩⟩
  case replaceInstall r guard session =>
    simp only [Pc.changing, Bool.and_eq_true, decide_eq_true_eq] at hpc
    obtain ⟨rfl, hsession⟩ := hpc
    exact ⟨rfl, .inr ⟨decide_eq_true hsession, decide_eq_true hsession, hok, rfl⟩⟩
  case matchRefreshed r guard session hv =>
    obtain rfl : r.voice = voice := of_decide_eq_true hpc
    simp only [decidesWell, hv, Option.isNone_some, Bool.false_or] at hok
    exact ⟨rfl, .inr ⟨decide_eq_true rfl, decide_eq_true rfl, hok, rfl⟩⟩
  case replaceFailedStale hstale => exact absurd (of_decide_eq_true hok) hstale
  case replaceStale hstale => exact absurd (of_decide_eq_true hok) hstale
  case rolloverStale => exact ⟨rfl, .inl (Bool.and_eq_true_iff.mp hpc).2⟩
  case playbackStale => exact ⟨rfl, .inl (Bool.and_eq_true_iff.mp hpc).2⟩
  case videoLoaded => exact ⟨rfl, .inl (Bool.and_eq_true_iff.mp hpc).1⟩
  case videoGone => exact ⟨rfl, .inl (Bool.and_eq_true_iff.mp hpc).2⟩
  case replaceConnected r guard isConnected =>
    refine ⟨rfl, .inl ?_⟩
    simpa [Pc.changing] using hpc
  case replaceSettleFailed r guard session error => exact ⟨rfl, .inl (Bool.and_eq_true_iff.mp hpc).1⟩
  all_goals first
    | exact ⟨rfl, .inl hpc⟩
    | cases hpc
    | exact ⟨rfl, .inl rfl⟩

theorem resumeIntended_restarting (sh : Shared) (r : Rollover) (guard : ℕ) :
    (resumeIntended sh r guard).restarting = true := by
  unfold resumeIntended
  split
  · split <;> rfl
  · rfl

theorem changed_step (h : advance sh pc answer = some (sh', pc', spawned))
    (hpc : pc.changed voice = true) (hok : decidesWell agree sh answer pc = true) :
    spawned = [] ∧ pc'.restarting = true ∧ sh'.shows voice = true ∧ sh'.voice = sh.voice := by
  have ha := advance_access h
  cases ha
  case refreshed v hstate =>
    obtain rfl : v = voice := of_decide_eq_true hpc
    exact ⟨rfl, rfl, by simp [Shared.shows, Shared.write, Snapshot.refreshed,
      Snapshot.applyVoiceContext], rfl⟩
  case refreshSkipped v hstate =>
    obtain rfl : v = voice := of_decide_eq_true hpc
    simp only [decidesWell, Bool.or_eq_true, decide_eq_true_eq] at hok
    exact ⟨rfl, rfl, hok.resolve_left hstate, rfl⟩
  case reconnected r guard session =>
    obtain rfl : session.voiceContext = voice := of_decide_eq_true hpc
    exact ⟨rfl, resumeIntended_restarting _ _ _, by simp [Shared.shows, Shared.write,
      Snapshot.reconnected, Snapshot.applyVoiceContext, Snapshot.applyRolloverState], rfl⟩
  all_goals cases hpc

theorem restarting_step (voice : VoiceContext) (ha : Access sh pc sh' pc' spawned) (hpc : pc.restarting = true) :
    pc'.restarting = true ∧ sh'.snapshot = sh.snapshot ∧ sh'.voice = sh.voice ∧
      ∀ q ∈ spawned, q.agrees voice sh = true := by
  cases ha
  case rolloverCurrent => exact ⟨hpc, rfl, rfl, nofun⟩
  case playbackCurrent => exact ⟨hpc, rfl, rfl, nofun⟩
  case rolloverStale => exact ⟨(Bool.and_eq_true_iff.mp hpc).2, rfl, rfl, nofun⟩
  case playbackStale => exact ⟨(Bool.and_eq_true_iff.mp hpc).2, rfl, rfl, nofun⟩
  case videoLoaded => exact ⟨(Bool.and_eq_true_iff.mp hpc).1, rfl, rfl, nofun⟩
  case videoGone => exact ⟨(Bool.and_eq_true_iff.mp hpc).2, rfl, rfl, nofun⟩
  case resumeBegin =>
    refine ⟨rfl, rfl, rfl, fun q hq ↦ ?_⟩
    cases List.mem_singleton.mp hq
    rfl
  all_goals cases hpc

end Update

/-- The session for `voice` is in place, and all tasks but `ℓ` leave it so. -/
structure Carried (voice : VoiceContext) (ℓ : ℕ) (rt : Runtime) : Prop where
  slot : rt.shared.slotIn voice = true
  others : ∀ (j : ℕ) (t : Task), j ≠ ℓ → rt.tasks[j]? = some t → t.pc.agrees voice rt.shared = true

namespace Carried

variable {voice : VoiceContext} {ℓ i : ℕ} {rt : Runtime} {t : Task} {sh' : Shared} {pc' : Pc}
  {spawned : List Pc}

theorem other (h : Carried voice ℓ rt) (hi : i ≠ ℓ) (ht : rt.tasks[i]? = some t)
    (ha : Access rt.shared t.pc sh' pc' spawned) :
    Carried voice ℓ ⟨sh', rt.tasks.set i (t.after rt.shared sh' pc') ++
      spawned.map (t.after rt.shared sh' pc').spawn⟩ ∧
      (rt.shared.shows voice = true → sh'.shows voice = true) := by
  have hgood := ha.agreeable h.slot (h.others i t hi ht)
  refine ⟨⟨hgood.slot, fun j u hj hu ↦ ?_⟩, hgood.shown⟩
  have hkeeps {pc : Pc} (hpc : pc.agrees voice rt.shared = true) :
      pc.agrees voice sh' = true :=
    ha.frame.agrees hgood.guild hpc
  obtain ⟨-, rfl⟩ | ⟨-, hu⟩ | ⟨-, hu⟩ := Pool.get_after hu
  · exact hkeeps hgood.next
  · exact hkeeps (h.others j u hj hu)
  · obtain ⟨q, hq, rfl⟩ := List.mem_map.mp hu
    exact hkeeps (hgood.spawned q hq)

theorem quiet (h : Carried voice ℓ rt) (hf : Frame .quiet rt.shared sh') :
    Carried voice ℓ ⟨sh', rt.tasks⟩ := by
  have hsnapshot := hf.snapshot nofun nofun
  refine ⟨?_, fun j u hj hu ↦ hf.agrees (by rw [hsnapshot]; exact id) (h.others j u hj hu)⟩
  rw [Shared.slotIn, hf.voice nofun nofun]
  exact h.slot

theorem started (h : Carried voice ℓ rt) (ht : t.pc.agrees voice rt.shared = true) :
    Carried voice ℓ ⟨rt.shared, rt.tasks ++ [t]⟩ := by
  refine ⟨h.slot, fun j u hj hu ↦ ?_⟩
  obtain hu | ⟨-, rfl⟩ := Pool.get_started hu
  · exact h.others j u hj hu
  · exact ht

theorem own {k : Kind} (hslot : sh'.slotIn voice = true) (hf : Frame k rt.shared sh')
    (hguild : rt.shared.snapshot.guildId.isSome = true → sh'.snapshot.guildId.isSome = true)
    (hothers : ∀ (j : ℕ) (u : Task), j ≠ ℓ → rt.tasks[j]? = some u →
      u.pc.agrees voice rt.shared = true)
    (hspawned : ∀ q ∈ spawned, q.agrees voice rt.shared = true) :
    Carried voice ℓ ⟨sh', rt.tasks.set ℓ (t.after rt.shared sh' pc') ++
      spawned.map (t.after rt.shared sh' pc').spawn⟩ := by
  refine ⟨hslot, fun j u hj hu ↦ ?_⟩
  have hkeeps {pc : Pc} (hpc : pc.agrees voice rt.shared = true) :
      pc.agrees voice sh' = true :=
    hf.agrees hguild hpc
  obtain ⟨rfl, -⟩ | ⟨-, hu⟩ | ⟨-, hu⟩ := Pool.get_after hu
  · exact absurd rfl hj
  · exact hkeeps (hothers j u hj hu)
  · obtain ⟨q, hq, rfl⟩ := List.mem_map.mp hu
    exact hkeeps (hspawned q hq)

end Carried

def othersAgree (ℓ : ℕ) (rt : Runtime) (voice : VoiceContext) : Bool :=
  (List.range rt.tasks.length).all fun j ↦
    j == ℓ || rt.tasks[j]?.all fun t ↦ t.pc.agrees voice rt.shared

theorem othersAgree_iff {ℓ : ℕ} {rt : Runtime} {voice : VoiceContext}
    (h : othersAgree ℓ rt voice = true) (j : ℕ) (t : Task) (hj : j ≠ ℓ)
    (ht : rt.tasks[j]? = some t) : t.pc.agrees voice rt.shared = true := by
  rw [othersAgree] at h
  exact Pool.of_all_others (t := t) (f := fun u ↦ u.pc.agrees voice rt.shared) h hj ht

def Command.changesVoice : Command → Bool
  | .joinVoice _ | .updateVoiceContext _ | .leaveVoice => true
  | _ => false

/-- No command that is to change the voice connection starts after the task `ℓ`. -/
def startsLast (ℓ : ℕ) (rt : Runtime) : Move → Bool
  | .start command => !command.changesVoice || rt.tasks.length ≤ ℓ
  | _ => true

/-- The task `ℓ` takes its decisive steps well. -/
def changesWell (ℓ : ℕ) (rt : Runtime) : Move → Bool
  | .task i answer =>
    i != ℓ || rt.tasks[i]?.all fun t ↦ decidesWell (othersAgree ℓ rt) rt.shared answer t.pc
  | _ => true

/-- Where `update_voice_context` stands in task `ℓ`, and what is in place by then. -/
def Changes (ℓ : ℕ) (rt : Runtime) : Prop :=
  ∀ t voice, rt.tasks[ℓ]? = some t → t.command = some (.updateVoiceContext voice) →
    t.pc.changing voice = true ∨ (t.pc.changed voice = true ∧ Carried voice ℓ rt) ∨
      (t.pc.restarting = true ∧ Carried voice ℓ rt ∧ rt.shared.shows voice = true)

namespace Changes

variable {ℓ i : ℕ} {rt : Runtime} {t : Task} {sh' : Shared} {pc' : Pc} {spawned : List Pc}

theorem start (h : Changes ℓ rt) {command : Command}
    (hlast : startsLast ℓ rt (.start command) = true) :
    Changes ℓ ⟨rt.shared, rt.tasks ++ [.start command]⟩ := by
  intro u voice hu hcommand
  obtain hu | ⟨rfl, rfl⟩ := Pool.get_started hu
  · have hlt := (List.getElem?_eq_some_iff.mp hu).1
    have hminor : (handleCommand command).agrees voice rt.shared = true := by
      simp only [startsLast, Bool.or_eq_true, Bool.not_eq_true', decide_eq_true_eq] at hlast
      have hother := hlast.resolve_right (by omega)
      cases command <;> first | rfl | cases hother
    obtain hpc | ⟨hpc, hcarried⟩ | ⟨hpc, hcarried, hshows⟩ := h u voice hu hcommand
    · exact .inl hpc
    · exact .inr (.inl ⟨hpc, hcarried.started hminor⟩)
    · exact .inr (.inr ⟨hpc, hcarried.started hminor, hshows⟩)
  · cases hcommand
    exact .inl (decide_eq_true rfl)

theorem driven (h : Changes ℓ rt) (hf : Frame .quiet rt.shared sh') : Changes ℓ ⟨sh', rt.tasks⟩ := by
  intro u voice hu hcommand
  obtain hpc | ⟨hpc, hcarried⟩ | ⟨hpc, hcarried, hshows⟩ := h u voice hu hcommand
  · exact .inl hpc
  · exact .inr (.inl ⟨hpc, hcarried.quiet hf⟩)
  · refine .inr (.inr ⟨hpc, hcarried.quiet hf, ?_⟩)
    rw [Shared.shows, hf.snapshot nofun nofun]
    exact hshows

theorem other (h : Changes ℓ rt) (hi : i ≠ ℓ) (ht : rt.tasks[i]? = some t)
    (ha : Access rt.shared t.pc sh' pc' spawned) :
    Changes ℓ ⟨sh', rt.tasks.set i (t.after rt.shared sh' pc') ++
      spawned.map (t.after rt.shared sh' pc').spawn⟩ := by
  intro u voice hu hcommand
  obtain ⟨rfl, -⟩ | ⟨-, hu⟩ | ⟨-, hu⟩ := Pool.get_after hu
  · exact absurd rfl hi
  · obtain hpc | ⟨hpc, hcarried⟩ | ⟨hpc, hcarried, hshows⟩ := h u voice hu hcommand
    · exact .inl hpc
    · exact .inr (.inl ⟨hpc, (hcarried.other hi ht ha).1⟩)
    · exact .inr (.inr ⟨hpc, (hcarried.other hi ht ha).1, (hcarried.other hi ht ha).2 hshows⟩)
  · obtain ⟨q, -, rfl⟩ := List.mem_map.mp hu
    cases hcommand

theorem updater (h : Changes ℓ rt) (ht : rt.tasks[ℓ]? = some t) {answer : Answer}
    (ha : advance rt.shared t.pc answer = some (sh', pc', spawned))
    (hwell : changesWell ℓ rt (.task ℓ answer) = true) :
    Changes ℓ ⟨sh', rt.tasks.set ℓ (t.after rt.shared sh' pc') ++
      spawned.map (t.after rt.shared sh' pc').spawn⟩ := by
  intro u voice hu hcommand
  rw [Pool.get_self_after ht] at hu
  cases hu
  have hframe := (advance_access ha).frame
  have hdecides : decidesWell (othersAgree ℓ rt) rt.shared answer t.pc = true := by
    simpa [changesWell, ht] using hwell
  obtain hpc | ⟨hpc, hcarried⟩ | ⟨hpc, hcarried, hshows⟩ := h t voice ht hcommand
  · obtain ⟨rfl, hpc' | ⟨hpc', hslot, hagree, hsnapshot⟩⟩ := changing_step ha hpc hdecides
    · exact .inl hpc'
    · refine .inr (.inl ⟨hpc', .own hslot hframe ?_ (othersAgree_iff hagree) nofun⟩)
      rw [hsnapshot]
      exact id
  · obtain ⟨rfl, hpc', hshows, hvoice⟩ := changed_step ha hpc hdecides
    refine .inr (.inr ⟨hpc', .own ?_ hframe ?_ hcarried.others nofun, hshows⟩)
    · rw [Shared.slotIn, hvoice]
      exact hcarried.slot
    · intro _
      simp only [Shared.shows, Bool.and_eq_true, decide_eq_true_eq] at hshows
      rw [hshows.1]
      rfl
  · obtain ⟨hpc', hsnapshot, hvoice, hspawned⟩ :=
      restarting_step voice (advance_access ha) hpc
    refine .inr (.inr ⟨hpc', .own ?_ hframe ?_ hcarried.others hspawned, ?_⟩)
    · rw [Shared.slotIn, hvoice]
      exact hcarried.slot
    · rw [hsnapshot]
      exact id
    · change sh'.shows voice = true
      rw [Shared.shows, hsnapshot]
      exact hshows

theorem step {rt' : Runtime} {move : Move} (h : Changes ℓ rt)
    (hok : startsLast ℓ rt move = true ∧ changesWell ℓ rt move = true)
    (hstep : rt.step move = some rt') : Changes ℓ rt' := by
  cases move with
  | start command =>
    cases hstep
    exact h.start hok.1
  | task i answer =>
    obtain ⟨t, sh', pc', spawned, ht, ha, rfl⟩ := step_advance hstep
    by_cases hi : i = ℓ
    · subst hi
      exact h.updater ht ha hok.2
    · exact h.other hi ht (advance_access ha)
  | env e =>
    obtain ⟨sh', hdriver, rfl⟩ := Pool.step_env hstep
    exact h.driven (frame_driverMove hdriver)

end Changes

theorem driven_agrees {voice v : VoiceContext} {sh : Shared} {pc : Pc} {channel : ℕ}
    (ha : pc.agrees voice sh = true) (hdriven : pc.custody = .driven channel v)
    (hrunning : sh.drivers[channel]? = some .running) : v = voice := by
  have hgone : (sh.exitOf channel).isSome = false := by
    cases hexit : sh.exitOf channel with
    | none => rfl
    | some exit =>
      rw [drivers_exitOf hexit] at hrunning
      cases hrunning
  have hreturned (e : Ending) : e.custody ≠ .driven channel v := by
    unfold Ending.custody
    cases e.session <;> exact nofun
  have hexits (p : Pipeline) (e : Ending) (hp : Custody.driven p.channel p.session.voiceContext =
      .driven channel v) (ha : (Pc.pipeStop p e).agrees voice sh = true) : v = voice := by
    cases hp
    simp only [Pc.agrees, hgone, Bool.and_false, Bool.or_false, Bool.and_eq_true,
      decide_eq_true_eq] at ha
    exact ha.1
  induction pc
  case sendMedia ih => exact ih ha hdriven
  case deliver ih => exact ih ha hdriven
  case pipeLoop => cases hdriven; exact of_decide_eq_true ha
  case pipeSelect => cases hdriven; exact of_decide_eq_true ha
  case pipeEmit => cases hdriven; exact of_decide_eq_true ha
  case pipeProgress => cases hdriven; exact of_decide_eq_true ha
  case pipeClear p driverDone e =>
    cases driverDone with
    | true => exact absurd hdriven (hreturned e)
    | false => exact hexits p e hdriven ha
  case pipeStop p e => exact hexits p e hdriven ha
  case pipeAwait p e => exact hexits p e hdriven ha
  case pipeInterrupted p e => exact absurd hdriven (hreturned e)
  case pipeRestoreGeneration p e => exact absurd hdriven (hreturned e)
  case pipeRestoreSlot p e => exact absurd hdriven (hreturned e)
  all_goals cases hdriven

/-- In a run in which `UpdateVoiceContext` takes its decisive steps well and is the last of the
commands that change the voice connection, its context is everywhere once it has returned `Ok`: in
the slot, with every live media driver and in the snapshot. -/
theorem context_change_kept_of_changesWell {hasPlayback : Bool} {moves : List Move} {rt : Runtime}
    {ℓ : ℕ} {t : Task} {voice : VoiceContext}
    (hok : Throughout Runtime.step
      (fun rt move ↦ startsLast ℓ rt move = true ∧ changesWell ℓ rt move = true)
      (.fresh hasPlayback) moves)
    (hrun : exec Runtime.step (.fresh hasPlayback) moves = some rt) (ht : rt.tasks[ℓ]? = some t)
    (hupdate : t.command = some (.updateVoiceContext voice)) (hreturned : t.pc = .finished .ok) :
    (∀ session, rt.shared.voice = some session → session.voiceContext = voice) ∧
    (∀ u ∈ rt.tasks, ∀ channel v, u.pc.custody = .driven channel v →
      rt.shared.drivers[channel]? = some .running → v = voice) ∧
    rt.shared.snapshot.guildId = some voice.guildId ∧
    rt.shared.snapshot.channelId = some voice.channelId := by
  have hfresh : Changes ℓ (.fresh hasPlayback) := by
    intro t voice ht
    cases ht
  have hchanges : Changes ℓ rt :=
    exec_induction (fun _ _ _ h hok hstep ↦ h.step hok hstep) hfresh hok hrun
  obtain hpc | ⟨hpc, -⟩ | ⟨-, hcarried, hshows⟩ := hchanges t voice ht hupdate
  · rw [hreturned] at hpc
    cases hpc
  · rw [hreturned] at hpc
    cases hpc
  · simp only [Shared.shows, Bool.and_eq_true, decide_eq_true_eq] at hshows
    refine ⟨fun session hv ↦ ?_, fun u hu channel v hdriven hrunning ↦ ?_, hshows⟩
    · simpa [Shared.slotIn, hv] using hcarried.slot
    · obtain ⟨j, hj⟩ := List.mem_iff_getElem?.mp hu
      by_cases hℓ : j = ℓ
      · rw [hℓ, ht] at hj
        cases hj
        rw [hreturned] at hdriven
        cases hdriven
      · exact driven_agrees (hcarried.others j u hℓ hj) hdriven hrunning

def stage : VoiceContext := ⟨"guild", "stage", "user", "session", "endpoint2", "token2"⟩

/-- `UpdateVoiceContext` while a track plays: the driver returns the session, the new one replaces
it and the track starts again. -/
def changeWhilePlaying : List Move :=
  joinLobby ++ playVideo ++ .start (.updateVoiceContext stage) :: runs 2 7 ++
    [.env (.take 0), .env (.exit 0 (some ⟨false, none, true, true⟩)), .task 1 .go,
      .task 1 .driverResult] ++ runs 1 7 ++ runs 2 9 ++
    [.task 2 (.connected true), .task 2 (.session true false)] ++ runs 2 7

theorem context_change_kept_changeWhilePlaying :
    ∃ rt t, exec Runtime.step .withPlaybackWorker changeWhilePlaying = some rt ∧
      rt.tasks[2]? = some t ∧ t.command = some (.updateVoiceContext stage) ∧ t.pc = .finished .ok ∧
      rt.shared.voice = some ⟨stage, true, false, false, false⟩ ∧
      rt.shared.snapshot.guildId = some stage.guildId ∧
      rt.shared.snapshot.channelId = some stage.channelId := by
  have hok : allowed Runtime.step (fun rt move ↦ startsLast 2 rt move && changesWell 2 rt move)
      .withPlaybackWorker changeWhilePlaying = true := by
    decide +kernel
  have hends : (exec Runtime.step .withPlaybackWorker changeWhilePlaying).map (fun rt ↦
      (rt.tasks[2]?, rt.shared.voice)) =
      some (some ⟨some (.updateVoiceContext stage), .finished .ok, ⟨1, 1⟩, ⟨4, 1⟩, true⟩,
        some ⟨stage, true, false, false, false⟩) := by
    decide +kernel
  obtain ⟨rt, hrun, hrt⟩ := Option.map_eq_some_iff.mp hends
  simp only [Prod.mk.injEq] at hrt
  have hlast : Throughout Runtime.step
      (fun rt move ↦ startsLast 2 rt move = true ∧ changesWell 2 rt move = true)
      .withPlaybackWorker changeWhilePlaying := by
    simpa only [Bool.and_eq_true] using throughout_of_allowed hok
  exact ⟨rt, _, hrun, hrt.1, rfl, rfl, hrt.2,
    (context_change_kept_of_changesWell hlast hrun hrt.1 rfl rfl).2.2⟩

/-- `UpdateVoiceContext` while a paused track has a live driver, then `Resume`. -/
def changeWhilePaused : List Move :=
  joinLobby ++ playVideo ++ .start .pause :: runs 2 4 ++ [.env (.take 0), .env (.apply 0)] ++
    .start (.updateVoiceContext stage) :: runs 3 3 ++
    .start .resume :: runs 4 4 ++ [.env (.take 0), .env (.apply 0)]

/-- The driver goes on with the old session while the snapshot shows the new channel. -/
theorem old_context_sends_after_change :
    allowed Runtime.step (startsLast 3) .withPlaybackWorker changeWhilePaused = true ∧
      ∃ rt t u, exec Runtime.step .withPlaybackWorker changeWhilePaused = some rt ∧
        rt.tasks[3]? = some t ∧ t.command = some (.updateVoiceContext stage) ∧ t.pc = .finished .ok ∧
        rt.tasks[1]? = some u ∧ u.pc.custody = .driven 0 lobby ∧
        rt.shared.channels[0]? = some ⟨[], none, false, .running⟩ ∧
        rt.shared.snapshot.state = .playing ∧
        rt.shared.snapshot.channelId = some stage.channelId ∧ lobby ≠ stage := by
  have hends : (exec Runtime.step .withPlaybackWorker changeWhilePaused).map (fun rt ↦
      (rt.tasks[3]?, rt.tasks[1]?.map fun u ↦ u.pc.custody, rt.shared.channels[0]?,
        rt.shared.snapshot.state, rt.shared.snapshot.channelId)) =
      some (some ⟨some (.updateVoiceContext stage), .finished .ok, ⟨1, 0⟩, {}, true⟩, some (.driven 0 lobby),
        some ⟨[], none, false, .running⟩, .playing, some "stage") := by
    decide +kernel
  obtain ⟨rt, hrun, hrt⟩ := Option.map_eq_some_iff.mp hends
  simp only [Prod.mk.injEq, Option.map_eq_some_iff] at hrt
  obtain ⟨ht, ⟨u, hu, hcustody⟩, hchannel, hstate, hshown⟩ := hrt
  exact ⟨by decide +kernel, rt, _, u, hrun, ht, rfl, rfl, hu, hcustody, hchannel, hstate, hshown,
    by decide⟩

end DiscordVoice.Session
