import DiscordVoice.Session.Conservation

namespace DiscordVoice.Session

open Schedule

/-- A state that reports a track. -/
def SessionState.busy : SessionState → Bool
  | .resolvingTrack | .buffering | .playing | .paused => true
  | _ => false

/-- The snapshot and the slot as they are to be when nothing is going on. -/
structure Truthful (sh : Shared) : Prop where
  notBusy : sh.snapshot.state ≠ .resolvingTrack ∧ sh.snapshot.state ≠ .buffering ∧
    sh.snapshot.state ≠ .playing ∧ sh.snapshot.state ≠ .paused
  noTrack : sh.snapshot.currentVideoId = none
  connecting : sh.snapshot.state = .connectingVoice → sh.voice.isSome = true
  away : sh.voice = none →
    sh.snapshot.state = .idle ∧ sh.snapshot.guildId = none ∧ sh.snapshot.channelId = none

/-- How the fields of a snapshot go together, in every state of the runtime. -/
structure Snapshot.Coherent (s : Snapshot) : Prop where
  track : s.state.busy = true → s.currentVideoId.isSome = true
  channel : s.channelId.isSome = s.guildId.isSome
  away : s.guildId = none → s.state = .idle ∧ s.currentVideoId = none

namespace Snapshot.Coherent

variable {s : Snapshot}

theorem hasVoice_eq (h : s.Coherent) : hasVoice s = s.guildId.isSome := by
  rw [hasVoice, h.channel, Bool.and_self]

theorem guild_of_track (h : s.Coherent) (ht : s.currentVideoId.isSome = true) : s.guildId.isSome = true := by
  cases hg : s.guildId with
  | none => simp [(h.away hg).2] at ht
  | some _ => rfl

theorem of_guild {s' : Snapshot} (h : s.Coherent) (hguild : s.guildId.isSome = true)
    (hg : s'.guildId = s.guildId) (hc : s'.channelId = s.channelId)
    (ht : s'.state.busy = true → s'.currentVideoId.isSome = true) : s'.Coherent := by
  refine ⟨ht, by rw [hg, hc, h.channel], fun hnone ↦ ?_⟩
  rw [← hg, hnone] at hguild
  cases hguild

theorem of_context {s' : Snapshot} (hg : s'.guildId.isSome = true) (hc : s'.channelId.isSome = true)
    (ht : s'.state.busy = true → s'.currentVideoId.isSome = true) : s'.Coherent := by
  refine ⟨ht, hc.trans hg.symm, fun hnone ↦ ?_⟩
  rw [hnone] at hg
  cases hg

theorem recovered (h : s.Coherent) (reason : String) : (s.recovered reason).Coherent := by
  refine ⟨fun hbusy ↦ ?_, h.channel, fun hnone ↦ ⟨?_, (h.away hnone).2⟩⟩
  · simp only [Snapshot.recovered, fallback] at hbusy
    split at hbusy <;> cases hbusy
  · have hnone : s.guildId = none := hnone
    simp [Snapshot.recovered, fallback, h.hasVoice_eq, hnone]

theorem interrupted (h : s.Coherent) (reason : String) : (s.interrupted reason).Coherent := by
  refine ⟨fun hbusy ↦ ?_, h.channel, fun hnone ↦ ⟨?_, rfl⟩⟩
  · simp only [Snapshot.interrupted, fallback] at hbusy
    split at hbusy <;> cases hbusy
  · have hnone : s.guildId = none := hnone
    simp [Snapshot.interrupted, fallback, h.hasVoice_eq, hnone]

theorem reconnected (h : s.Coherent) (session : SessionHandle) : (s.reconnected session).Coherent := by
  refine .of_context rfl rfl fun hbusy ↦ ?_
  simp only [Snapshot.reconnected, applyVoiceContext, applyRolloverState] at hbusy ⊢
  split at hbusy
  · cases hbusy
  · exact h.track hbusy

theorem joined (session : SessionHandle) : (s.joined session).Coherent := by
  refine .of_context rfl rfl fun hbusy ↦ ?_
  simp only [Snapshot.joined] at hbusy
  split at hbusy <;> cases hbusy

end Snapshot.Coherent

theorem track_of_pauseGoesOn {s : Snapshot} (h : pauseGoesOn s = .ok true) : s.currentVideoId.isSome = true := by
  by_contra hnone
  simp only [pauseGoesOn, ensureTrackLoaded, hnone] at h
  cases hv : ensureActiveVoiceSession s .pause <;> rw [hv] at h <;> cases h

theorem track_of_resumeGoesOn {s : Snapshot} (h : resumeGoesOn s = .ok true) : s.currentVideoId.isSome = true := by
  by_contra hnone
  simp only [resumeGoesOn, ensureTrackLoaded, hnone] at h
  cases hv : ensureActiveVoiceSession s .resume <;> rw [hv] at h <;> cases h

/-- The rollover is the latest one and is to resume the track the snapshot reports. -/
def Rollover.resumes (r : Rollover) (sh : Shared) : Bool :=
  r.epoch = sh.rolloverEpoch && r.resumeVideoId = sh.snapshot.currentVideoId

def Attempt.current (a : Attempt) (sh : Shared) : Bool := a.playbackEpoch = sh.playbackEpoch

/-- The task will play the reported track or clear it: it passes the checks ahead of it as the shared
state is now, and what it may fail at is not counted. -/
def Pc.tends (sh : Shared) : Pc → Bool
  | .sendMedia _ next | .deliver _ _ next => next.tends sh
  | .checkRollover c yes _ =>
    c.rolloverEpoch = sh.rolloverEpoch && c.playbackEpoch = sh.playbackEpoch &&
      sh.snapshot.currentVideoId = some c.videoId && yes.tends sh
  | .checkPlayback c yes _ =>
    c.playbackEpoch = sh.playbackEpoch && sh.snapshot.currentVideoId = some c.videoId && yes.tends sh
  | .checkVideo c yes _ => sh.snapshot.currentVideoId = some c.videoId && yes.tends sh
  | .rolloverOwner r | .rolloverGeneration r | .rolloverWait r _ | .rolloverInterrupt r
  | .rolloverCompare r | .replaceGeneration r | .replaceInterrupt r | .replaceClear r | .replaceGuard r
  | .matchInterrupt r | .matchGuard r => r.resumes sh
  | .replaceAnnounce r guard | .replaceConnect r guard | .replaceSettle r guard _
  | .replaceFailed r guard _ | .replaceCurrent r guard _ | .replaceInstall r guard _
  | .matchAnnounce r guard | .matchRefresh r guard | .reconnectedWrite r guard _ =>
    r.resumes sh && guard = sh.playbackEpoch
  | .quiesceSlot _ _ | .quiesceBoundary _ _ | .interruptWrite _ _ => true
  | .resumeBegin videoId rolloverEpoch =>
    rolloverEpoch = sh.rolloverEpoch && sh.snapshot.currentVideoId = some videoId
  | .playHint a | .playResolve a _ | .playWaitEpoch a | .playWaitSlot a | .playPrepare a
  | .playPrepared a _ | .playBuffering a _ | .playFill a _ | .playFilled a _ | .playTake a _
  | .playSpeaking a _ _ | .playSpoken a _ _ | .playGiveBack a _ _ | .playGeneration a _ _ => a.current sh
  | .pipeInstall p | .pipeDepth p | .pipePlaying p | .pipeSpawn p | .pipeLoop p | .pipeSelect p
  | .pipeEmit p _ | .pipeProgress p | .pipeClear p _ _ | .pipeStop p _ | .pipeAwait p _
  | .pipeInterrupted p _ | .pipeRestoreGeneration p _ | .pipeRestoreSlot p _ | .pipeBoundary p _ _
  | .pipePutBack p _ _ | .pipeReturned p _ | .pipeEnded p _ => p.attempt.current sh
  | .stopOwner | .stopGeneration _ | .stopWait _ _ | .stopInterrupt _ _ | .stopSlot _ | .stopBoundary
  | .stopWrite => true
  | .leaveRollover | .leavePlayback | .leaveOwner | .leaveCount _ | .leaveGeneration _ _
  | .leaveStopped _ | .leaveClear | .leaveWrite => true
  | _ => false

/-- The task has a session for the voice slot, or is to get one, or will clear the snapshot. -/
def Pc.holds (sh : Shared) : Pc → Bool
  | .sendMedia _ next | .deliver _ _ next => next.holds sh
  | .joinConnect _ | .joinSettle _ | .joinReady _ => true
  | .replaceInterrupt _ | .replaceClear _ | .replaceGuard _ | .replaceAnnounce _ _ | .replaceConnect _ _
  | .replaceSettle _ _ _ | .replaceCurrent _ _ _ | .replaceInstall _ _ _ => true
  | .playSpeaking _ _ _ | .playSpoken _ _ _ | .playGiveBack _ _ _ | .playGeneration _ _ _ => true
  | .pipeInstall p | .pipeDepth p | .pipePlaying p | .pipeSpawn p | .pipeLoop p | .pipeSelect p
  | .pipeEmit p _ | .pipeProgress p | .pipeClear p false _ | .pipeStop p _ | .pipeAwait p _ =>
    p.generation = sh.voiceTransportGeneration
  | .pipeClear p true e | .pipeInterrupted p e | .pipeRestoreGeneration p e =>
    p.generation = sh.voiceTransportGeneration && e.session.isSome
  | .pipeRestoreSlot _ e => e.session.isSome
  | .pipeBoundary _ e _ => e.restore
  | .pipePutBack _ _ _ => true
  | .leaveRollover | .leavePlayback | .leaveOwner | .leaveCount _ | .leaveGeneration _ _
  | .leaveStopped _ | .leaveClear | .leaveWrite => true
  | _ => false

namespace Shared

/-- There is no track, or one of the tasks tends it. -/
def tendedBy (sh : Shared) (tasks : List Pc) : Bool :=
  sh.snapshot.currentVideoId.isNone || tasks.any fun pc ↦ pc.tends sh

/-- There is a session in the slot, or one of the tasks holds one. -/
def heldBy (sh : Shared) (tasks : List Pc) : Bool := sh.voice.isSome || tasks.any fun pc ↦ pc.holds sh

/-- There is no voice connection to report, or there is a session for it. -/
def keptBy (sh : Shared) (tasks : List Pc) : Bool := sh.snapshot.guildId.isNone || sh.heldBy tasks

end Shared

def Answer.error : Answer → Option RuntimeError
  | .failed error | .sessionFailed error _ _ => some error
  | _ => none

/-- `play_with_epoch` may return here: no track is left behind, or its caller clears it. -/
def Attempt.returnsWell (a : Attempt) (others : List Pc) (sh : Shared) (outcome : Outcome) : Bool :=
  (playReturns a outcome).tends sh || sh.tendedBy others

/-- The attempt may write the snapshot: it is not current, or the session has not been left. -/
def Attempt.writesWell (a : Attempt) (sh : Shared) : Bool :=
  sh.playbackInterrupted a.playbackEpoch || sh.snapshot.guildId.isSome

/-- What is asked of a step beside `others`: where a command gives up, it leaves no track that nobody
tends and no voice connection that nobody holds a session for; where it supersedes the others, it goes
on with the track they had; and where it writes, the session has not been left meanwhile. -/
def upright (others : List Pc) (sh : Shared) (answer : Answer) : Pc → Bool
  | .joinConnect _ | .joinSettle _ | .replaceConnect _ _ | .replaceSettle _ _ _ =>
    answer.error.isNone || sh.keptBy others
  | .replaceCurrent r _ _ => sh.rolloverEpoch = r.epoch || sh.keptBy others
  | .rolloverBegin _ resumeVideoId =>
    resumeVideoId = sh.snapshot.currentVideoId || sh.bumpRollover.tendedBy others
  | .rolloverInterrupt r | .replaceInterrupt r | .matchInterrupt r =>
    r.resumes sh || sh.bumpPlayback.tendedBy others
  | .resumeBegin videoId rolloverEpoch =>
    (Pc.resumeBegin videoId rolloverEpoch).tends sh || sh.bumpPlayback.tendedBy others
  | .rolloverWait _ _ => answer ≠ .timedOut || sh.tendedBy others
  | .matchRefresh _ _ => sh.voice.isSome || sh.tendedBy others
  | .reconnectedWrite _ _ _ => sh.heldBy others
  | .playWaitSlot a =>
    (sh.voice.any fun session ↦ session.isConnected || answer = .go) || a.returnsWell others sh .ok
  | .playPrepare a | .playFill a _ =>
    answer.error.all fun error ↦ a.returnsWell others sh (.err error)
  | .playTake a _ =>
    sh.voice.isSome ||
      a.returnsWell others sh (.err (.invalidState "play requires active voice session"))
  | .playGiveBack a _ outcome => a.returnsWell others sh outcome
  | .pipeReturned p e =>
    (e.endedNaturally && !e.interrupted && e.error.isNone) ||
      p.attempt.returnsWell others sh e.outcome
  | .playBuffering a _ => a.writesWell sh
  | .pipePlaying p | .pipeEmit p _ | .pipeEnded p _ => p.attempt.writesWell sh
  | .pipeSelect p =>
    answer ≠ .driverResult || sh.exitOf p.channel ≠ some none || sh.keptBy others
  | .pipeAwait p _ => sh.exitOf p.channel ≠ some none || sh.keptBy others
  | .stopWait _ _ => answer ≠ .timedOut || sh.tendedBy others
  | .stopBoundary => answer.error.isNone || sh.tendedBy others
  | .stopWrite => sh.snapshot.guildId.isSome
  | .leaveStopped _ => answer ≠ .timedOut || sh.tendedBy others && sh.keptBy others
  | .leaveSlot => sh.snapshot.guildId.isNone || others.any fun pc ↦ pc.holds sh
  | _ => true

section Coherence

variable {sh sh' : Shared} {pc pc' : Pc} {spawned others : List Pc} {answer : Answer}

theorem Snapshot.Coherent.quiet (hs : sh.snapshot.Coherent) (hf : Frame .quiet sh sh') :
    sh'.snapshot.Coherent := by
  rw [hf.snapshot nofun nofun]
  exact hs

theorem emitPlaybackState_coherent {kind : PlaybackEventKind} {a : Attempt} {p : Prepared}
    (hs : sh.snapshot.Coherent) (hok : a.writesWell sh = true) :
    (emitPlaybackState sh kind a p).snapshot.Coherent := by
  unfold emitPlaybackState
  split
  · exact hs
  · split
    · exact hs
    · simp only [Attempt.writesWell, *, Bool.false_or] at hok
      exact hs.of_guild hok rfl rfl fun _ ↦ rfl

/-- Every write leaves the fields of the snapshot in agreement. -/
theorem Access.coherent (ha : Access sh pc sh' pc' spawned) (hs : sh.snapshot.Coherent)
    (hok : upright others sh answer pc = true) : sh'.snapshot.Coherent := by
  have hframe := ha.frame
  have hidle {P : Prop} (hbusy : false = true) : P := absurd hbusy Bool.false_ne_true
  cases ha
  case joinConnecting => exact .of_context rfl rfl hidle
  case joinReady => exact .joined _
  case refreshed h => exact .of_context rfl rfl hs.track
  case reconnected => exact hs.reconnected _
  case recovered => exact hs.recovered _
  case interrupted => exact hs.interrupted _
  case replaceAnnounce => exact ⟨hs.track, hs.channel, hs.away⟩
  case matchAnnounce => exact ⟨hs.track, hs.channel, hs.away⟩
  case progressed => exact ⟨hs.track, hs.channel, hs.away⟩
  case resolving hv _ => exact hs.of_guild (hs.hasVoice_eq.symm.trans hv) rfl rfl fun _ ↦ rfl
  case resolvingOnly hv _ => exact hs.of_guild (hs.hasVoice_eq.symm.trans hv) rfl rfl fun _ ↦ rfl
  case buffering => exact emitPlaybackState_coherent hs hok
  case playing => exact emitPlaybackState_coherent hs hok
  case emitted => exact emitPlaybackState_coherent hs hok
  case ended p e h =>
    simp only [upright, Attempt.writesWell, Shared.playbackInterrupted, h, ne_eq, not_true,
      decide_false, Bool.false_or] at hok
    exact hs.of_guild hok rfl rfl hidle
  case paused h =>
    have htrack := track_of_pauseGoesOn h
    exact hs.of_guild (hs.guild_of_track htrack) rfl rfl fun _ ↦ htrack
  case resumed h =>
    have htrack := track_of_resumeGoesOn h
    exact hs.of_guild (hs.guild_of_track htrack) rfl rfl fun _ ↦ htrack
  case stopped => exact hs.of_guild hok rfl rfl hidle
  case leaveWrite => exact ⟨hidle, rfl, fun _ ↦ ⟨rfl, rfl⟩⟩
  all_goals first
    | exact hs
    | exact hs.quiet hframe

end Coherence

section Tending

variable {sh sh' : Shared} {pc pc' : Pc} {spawned others : List Pc} {answer : Answer}

/-- The two states agree on all that decides who tends the track. -/
structure SameTrack (sh sh' : Shared) : Prop where
  playbackEpoch : sh'.playbackEpoch = sh.playbackEpoch
  rolloverEpoch : sh'.rolloverEpoch = sh.rolloverEpoch
  video : sh'.snapshot.currentVideoId = sh.snapshot.currentVideoId

theorem SameTrack.refl (sh : Shared) : SameTrack sh sh := ⟨rfl, rfl, rfl⟩

theorem SameTrack.quiet (hf : Frame .quiet sh sh') : SameTrack sh sh' :=
  ⟨hf.playbackEpoch, hf.rolloverEpoch, by rw [hf.snapshot nofun nofun]⟩

theorem SameTrack.current (h : SameTrack sh sh') (a : Attempt) : a.current sh' = a.current sh := by
  rw [Attempt.current, Attempt.current, h.playbackEpoch]

theorem SameTrack.resumes (h : SameTrack sh sh') (r : Rollover) : r.resumes sh' = r.resumes sh := by
  rw [Rollover.resumes, Rollover.resumes, h.rolloverEpoch, h.video]

theorem SameTrack.resumesAt (h : SameTrack sh sh') (r : Rollover) (guard : ℕ) :
    (r.resumes sh' && guard = sh'.playbackEpoch) = (r.resumes sh && guard = sh.playbackEpoch) := by
  rw [h.resumes, h.playbackEpoch]

theorem SameTrack.tends (h : SameTrack sh sh') (pc : Pc) : pc.tends sh' = pc.tends sh := by
  induction pc
  case sendMedia ih => exact ih
  case deliver ih => exact ih
  case checkRollover ih _ => simp only [Pc.tends, h.playbackEpoch, h.rolloverEpoch, h.video, ih]
  case checkPlayback ih _ => simp only [Pc.tends, h.playbackEpoch, h.video, ih]
  case checkVideo ih _ => simp only [Pc.tends, h.video, ih]
  case resumeBegin => simp only [Pc.tends, h.rolloverEpoch, h.video]
  all_goals first
    | rfl
    | exact h.current _
    | exact h.resumes _
    | exact h.resumesAt _ _

theorem SameTrack.tendedBy (h : SameTrack sh sh') (tasks : List Pc) :
    sh'.tendedBy tasks = sh.tendedBy tasks := by
  simp only [Shared.tendedBy, h.video, h.tends]

theorem tendedBy_iff {tasks : List Pc} :
    sh.tendedBy tasks = true ↔ sh.snapshot.currentVideoId = none ∨ ∃ pc ∈ tasks, pc.tends sh = true := by
  simp [Shared.tendedBy]

theorem tendedBy_mono {tasks tasks' : List Pc} (hsub : ∀ pc ∈ tasks, pc ∈ tasks')
    (h : sh.tendedBy tasks = true) : sh.tendedBy tasks' = true := by
  rw [tendedBy_iff] at h ⊢
  exact h.imp_right fun ⟨pc, hpc, ht⟩ ↦ ⟨pc, hsub pc hpc, ht⟩

/-- What is left of a step: somebody tends the track, if there is one. -/
def StillTended (sh' : Shared) (pc' : Pc) (spawned others : List Pc) : Prop :=
  sh'.tendedBy (pc' :: (spawned ++ others)) = true

theorem StillTended.here (h : pc'.tends sh' = true) : StillTended sh' pc' spawned others :=
  tendedBy_iff.mpr (.inr ⟨pc', List.mem_cons_self, h⟩)

theorem StillTended.gone (h : sh'.snapshot.currentVideoId = none) : StillTended sh' pc' spawned others :=
  tendedBy_iff.mpr (.inl h)

theorem StillTended.byOthers (h : sh'.tendedBy others = true) : StillTended sh' pc' spawned others :=
  tendedBy_mono (fun _ hpc ↦ List.mem_cons_of_mem _ (List.mem_append_right _ hpc)) h

theorem StillTended.leftTo (sh : Shared) (hsame : SameTrack sh sh') (h : sh.tendedBy others = true) :
    StillTended sh' pc' spawned others :=
  .byOthers ((hsame.tendedBy others).trans h)

theorem StillTended.next (hI : sh.tendedBy (pc :: others) = true) (hsame : SameTrack sh sh')
    (h : pc.tends sh = true → StillTended sh' pc' spawned others) : StillTended sh' pc' spawned others := by
  rw [tendedBy_iff] at hI
  obtain hnone | ⟨q, hq, ht⟩ := hI
  · exact .gone (hsame.video.trans hnone)
  · obtain rfl | hq := List.mem_cons.mp hq
    · exact h ht
    · exact .byOthers (tendedBy_iff.mpr (.inr ⟨q, hq, by rw [hsame.tends, ht]⟩))

theorem StillTended.goOn (hI : sh.tendedBy (pc :: others) = true) (hsame : SameTrack sh sh')
    (h : pc.tends sh = true → pc'.tends sh = true) : StillTended sh' pc' spawned others :=
  .next hI hsame fun ht ↦ .here ((hsame.tends pc').trans (h ht))

theorem StillTended.idle (hI : sh.tendedBy (pc :: others) = true) (hsame : SameTrack sh sh')
    (h : pc.tends sh = false) : StillTended sh' pc' spawned others :=
  .next hI hsame fun ht ↦ absurd (h.symm.trans ht) Bool.false_ne_true

theorem StillTended.returns (sh : Shared) {a : Attempt} {outcome : Outcome} (hsame : SameTrack sh sh')
    (hok : a.returnsWell others sh outcome = true) :
    StillTended sh' (playReturns a outcome) spawned others := by
  rw [Attempt.returnsWell, Bool.or_eq_true] at hok
  obtain ht | ht := hok
  · exact .here ((hsame.tends _).trans ht)
  · exact .leftTo sh hsame ht

theorem Attempt.current_iff {a : Attempt} : a.current sh = true ↔ a.playbackEpoch = sh.playbackEpoch :=
  decide_eq_true_iff

theorem StillTended.stale {a : Attempt} (hI : sh.tendedBy (pc :: others) = true)
    (hpc : pc.tends sh = a.current sh) (h : sh.playbackEpoch ≠ a.playbackEpoch) :
    StillTended sh pc' spawned others :=
  .idle hI (.refl sh) (hpc.trans (decide_eq_false (Ne.symm h)))

/-- A rollover that bumps an epoch and goes on with the track. -/
theorem StillTended.takesOver (h : (pc'.tends sh' || sh'.tendedBy others) = true) :
    StillTended sh' pc' spawned others :=
  (Bool.or_eq_true_iff.mp h).elim .here .byOthers

theorem waitForMediaOwnerSession_tended {generation : ℕ} {next : Pc}
    (h : waitForMediaOwnerSession sh generation next answer = some (sh', pc', spawned))
    (hI : sh.tendedBy (pc :: others) = true) (hnext : pc.tends sh = true → next.tends sh = true)
    (hok : answer ≠ .timedOut ∨ sh.tendedBy others = true) : StillTended sh' pc' spawned others := by
  unfold waitForMediaOwnerSession at h
  split at h
  · split at h
    · cases h
      exact .goOn hI (.refl sh) hnext
    · obtain ⟨-, h⟩ := lockingVoice_eq_some.mp h
      split at h <;> cases h
      exact .goOn hI (.refl sh) hnext
  · obtain ⟨-, h⟩ := lockingVoice_eq_some.mp h
    split at h <;> cases h
    exact .byOthers (hok.resolve_left (by simp))
  · cases h

theorem playWaitSlot_tended {a : Attempt} (h : playWaitSlot sh a answer = some (sh', pc', spawned))
    (hI : sh.tendedBy (.playWaitSlot a :: others) = true)
    (hok : upright others sh answer (.playWaitSlot a) = true) : StillTended sh' pc' spawned others := by
  obtain ⟨-, h⟩ := lockingVoice_eq_some.mp h
  simp only [upright, Bool.or_eq_true] at hok
  split at h
  · rename_i hv
    cases h
    exact .returns sh (.refl sh) (hok.resolve_left (by simp [hv]))
  · rename_i session hv
    split at h
    · cases h
      exact .goOn hI (.refl sh) id
    · split at h <;> cases h
      · exact .goOn hI (.refl sh) id
      · exact .returns sh (.refl sh) (hok.resolve_left (by simp [*]))

theorem playPrepare_tended {a : Attempt} (h : playPrepare sh a answer = some (sh', pc', spawned))
    (hI : sh.tendedBy (.playPrepare a :: others) = true)
    (hok : upright others sh answer (.playPrepare a) = true) : StillTended sh' pc' spawned others := by
  unfold playPrepare at h
  split at h <;> cases h
  · exact .goOn hI (.refl sh) id
  · exact .returns sh (.refl sh) hok

theorem playFill_tended {a : Attempt} {p : Prepared} (h : playFill sh a p answer = some (sh', pc', spawned))
    (hI : sh.tendedBy (.playFill a p :: others) = true)
    (hok : upright others sh answer (.playFill a p) = true) : StillTended sh' pc' spawned others := by
  unfold playFill at h
  split at h <;> cases h
  · exact .goOn hI (.refl sh) id
  · exact .returns sh (.refl sh) hok

theorem stopBoundary_tended (h : stopBoundary sh answer = some (sh', pc', spawned))
    (hok : upright others sh answer .stopBoundary = true) : StillTended sh' pc' spawned others := by
  unfold stopBoundary at h
  split at h <;> cases h
  · exact .here rfl
  · exact .leftTo sh ⟨rfl, rfl, rfl⟩ hok

theorem leaveStopped_tended {count : ℕ} (h : leaveStopped sh count answer = some (sh', pc', spawned))
    (hok : upright others sh answer (.leaveStopped count) = true) : StillTended sh' pc' spawned others := by
  unfold leaveStopped at h
  split at h
  · split at h <;> cases h
    exact .here rfl
  · split at h <;> cases h
    exact .byOthers (Bool.and_eq_true_iff.mp hok).1
  · cases h

theorem resumeIntended_tends {r : Rollover} {guard : ℕ} (hp : sh.hasPlayback = true)
    (h : (r.resumes sh && guard = sh.playbackEpoch) = true) :
    sh.snapshot.currentVideoId = none ∨ (resumeIntended sh r guard).tends sh = true := by
  simp only [Rollover.resumes, Bool.and_eq_true, decide_eq_true_eq] at h
  obtain ⟨⟨hepoch, hvideo⟩, rfl⟩ := h
  cases hr : r.resumeVideoId with
  | none => exact .inl (hvideo.symm.trans hr)
  | some videoId =>
    rw [hr] at hvideo
    simp [resumeIntended, hr, hp, Pc.tends, hepoch, ← hvideo]

theorem pipeCleanUp_tends (p : Pipeline) (e : Ending) :
    (pipeCleanUp p e).tends sh = p.attempt.current sh := by
  unfold pipeCleanUp
  split <;> rfl

theorem pipeBoundaryDone_tends (p : Pipeline) (e : Ending) (session : SessionHandle) :
    (pipeBoundaryDone p e session).tends sh = p.attempt.current sh := by
  unfold pipeBoundaryDone
  split <;> rfl

theorem emitPlaybackState_tended {kind : PlaybackEventKind} {a : Attempt} {p : Prepared}
    (hI : sh.tendedBy (pc :: others) = true) (hpc : pc.tends sh = a.current sh)
    (hpc' : ∀ sh, pc'.tends sh = a.current sh) :
    StillTended (emitPlaybackState sh kind a p) pc' [] others := by
  unfold emitPlaybackState
  split
  · exact .goOn hI (.refl sh) fun ht ↦ (hpc' sh).trans (hpc.symm.trans ht)
  · rename_i hcurrent
    split
    · exact .goOn hI (.refl sh) fun ht ↦ (hpc' sh).trans (hpc.symm.trans ht)
    · refine .here ((hpc' _).trans (Attempt.current_iff.mpr ?_))
      exact (playbackInterrupted_eq_false.mp (Bool.eq_false_iff.mpr hcurrent)).symm

theorem advance_tended (h : advance sh pc answer = some (sh', pc', spawned))
    (hs : sh.snapshot.Coherent) (hp : sh.hasPlayback = true)
    (hok : upright others sh answer pc = true) (hI : sh.tendedBy (pc :: others) = true) :
    StillTended sh' pc' spawned others := by
  have ha := advance_access h
  have hframe := ha.frame
  cases ha
  case rolloverCurrent => exact .goOn hI (.refl sh) fun ht ↦ by simp_all [Pc.tends]
  case rolloverStale h' => exact .idle hI (.refl sh) (by simp [Pc.tends, Ne.symm h'])
  case playbackCurrent => exact .goOn hI (.refl sh) fun ht ↦ by simp_all [Pc.tends]
  case playbackStale h' => exact .idle hI (.refl sh) (by simp [Pc.tends, Ne.symm h'])
  case videoLoaded => exact .goOn hI (.refl sh) fun ht ↦ (Bool.and_eq_true_iff.mp ht).2
  case videoGone h' => exact .idle hI (.refl sh) (by simp [Pc.tends, h'])
  case rolloverBegin voice resumeVideoId =>
    refine .takesOver ?_
    rw [Pc.tends, Rollover.resumes, decide_eq_true (by rfl), Bool.true_and]
    exact hok
  case rolloverInterrupt => exact .takesOver hok
  case replaceInterrupt => exact .takesOver hok
  case matchInterrupt => exact .takesOver hok
  case rolloverReturned => exact waitForMediaOwnerSession_tended h hI id (by simpa [upright] using hok)
  case rolloverTimedOut => exact waitForMediaOwnerSession_tended h hI id (by simpa [upright] using hok)
  case replaceGuard => exact .goOn hI (.refl sh) fun ht ↦ by simpa [Pc.tends] using ht
  case matchGuard => exact .goOn hI (.refl sh) fun ht ↦ by simpa [Pc.tends] using ht
  case replaceFailedStale h' =>
    exact .idle hI (.refl sh) (by simp [Pc.tends, Rollover.resumes, Ne.symm h'])
  case replaceStale h' =>
    exact .idle hI (.refl sh) (by simp [Pc.tends, Rollover.resumes, Ne.symm h'])
  case replaceFailedLoaded h' hv =>
    exact .goOn hI (.refl sh) fun ht ↦ by simp_all [Pc.tends, Rollover.resumes, quiesceAndInterrupt]
  case replaceFailedEmpty h' hv =>
    refine .next hI (.refl sh) fun ht ↦ .gone ?_
    simp_all [Pc.tends, Rollover.resumes]
  case matchMissing h' => exact .byOthers (by simpa [upright, h'] using hok)
  case reconnected r guard session =>
    have hsame : SameTrack sh (sh.write fun s ↦ s.reconnected session) := ⟨rfl, rfl, rfl⟩
    refine .next hI hsame fun ht ↦ ?_
    obtain hnone | ht := resumeIntended_tends hp ht
    · exact .gone hnone
    · exact .here ((hsame.tends _).trans ht)
  case resumeBegin videoId rolloverEpoch =>
    obtain ht | ht := Bool.or_eq_true_iff.mp hok
    · refine tendedBy_iff.mpr (.inr ⟨_, List.mem_cons_of_mem _ (List.mem_append_left _ List.mem_cons_self), ?_⟩)
      simp_all [Pc.tends, Shared.bumpPlayback, Attempt.current]
    · exact .byOthers ht
  case playBegin => exact .here (by simp [Pc.tends, Attempt.current, Shared.bumpPlayback])
  case resolveStale h' => exact .stale hI rfl h'
  case resolveRefused h' =>
    rw [hs.hasVoice_eq, Option.isSome_eq_false_iff, Option.isNone_iff_eq_none] at h'
    exact .gone (hs.away h').2
  case resolving h' _ _ => exact .here (Attempt.current_iff.mpr h'.symm)
  case resolvingOnly hno => simp [hp] at hno
  case waitStale h' => exact .stale hI rfl h'
  case waitAgain => exact playWaitSlot_tended h hI hok
  case waitGivesUp => exact playWaitSlot_tended h hI hok
  case prepareFailed => exact playPrepare_tended h hI hok
  case preparedStale h' => exact .stale hI rfl h'
  case buffering => exact emitPlaybackState_tended hI rfl fun _ ↦ rfl
  case fillFailed => exact playFill_tended h hI hok
  case filledStale h' => exact .stale hI rfl h'
  case takeStale h' => exact .stale hI rfl h'
  case takeMissing hv => exact .returns sh (.refl sh) (by simpa [upright, hv] using hok)
  case givenBack => exact .returns sh ⟨rfl, rfl, rfl⟩ hok
  case playing => exact emitPlaybackState_tended hI rfl fun _ ↦ rfl
  case emitted => exact emitPlaybackState_tended hI rfl fun _ ↦ rfl
  case selectAgain q hq => exact .goOn hI (.refl sh) fun ht ↦ by simpa [Pc.tends, hq.1] using ht
  case selectEmit q kind hq => exact .goOn hI (.refl sh) fun ht ↦ by simpa [Pc.tends, hq.1] using ht
  case selectProgress q hq => exact .goOn hI (.refl sh) fun ht ↦ by simpa [Pc.tends, hq.1] using ht
  case restoreStale => exact .goOn hI (.refl sh) fun ht ↦ (pipeCleanUp_tends _ _).trans ht
  case restoreDecided => exact .goOn hI (.refl sh) fun ht ↦ (pipeCleanUp_tends _ _).trans ht
  case boundary => exact .goOn hI (.refl sh) fun ht ↦ (pipeBoundaryDone_tends _ _ _).trans ht
  case returnedOver h' =>
    refine .returns sh ⟨rfl, rfl, rfl⟩
      ((Bool.or_eq_true_iff.mp hok).resolve_left fun hn ↦ h' ?_)
    simpa [and_assoc] using hn
  case endedStale h' => exact .stale hI rfl h'
  case stopReturned active generation =>
    exact waitForMediaOwnerSession_tended h hI (by cases active <;> exact id) (by simpa [upright] using hok)
  case stopTimedOut active generation _ =>
    exact waitForMediaOwnerSession_tended h hI (by cases active <;> exact id) (by simpa [upright] using hok)
  case stopInterrupt active generation => exact .here (by cases active <;> rfl)
  case stopBoundaryFailed => exact stopBoundary_tended h hok
  case leaveGeneration active count => exact .here (by cases active <;> rfl)
  case leaveTimedOut => exact leaveStopped_tended h hok
  all_goals first
    | exact .idle hI ⟨rfl, rfl, rfl⟩ rfl
    | exact .goOn hI ⟨rfl, rfl, rfl⟩ id
    | exact .goOn hI (.quiet hframe) id
    | exact .here rfl
    | exact .gone rfl

end Tending

section Holding

variable {sh sh' : Shared} {pc pc' : Pc} {spawned others : List Pc} {answer : Answer}

theorem holds_congr (h : sh'.voiceTransportGeneration = sh.voiceTransportGeneration) (pc : Pc) :
    pc.holds sh' = pc.holds sh := by
  induction pc
  case sendMedia ih => exact ih
  case deliver ih => exact ih
  case pipeClear p driverDone e => cases driverDone <;> simp only [Pc.holds, h]
  all_goals first
    | rfl
    | simp only [Pc.holds, h]

theorem keptBy_iff {tasks : List Pc} :
    sh.keptBy tasks = true ↔
      sh.snapshot.guildId = none ∨ sh.voice.isSome = true ∨ ∃ pc ∈ tasks, pc.holds sh = true := by
  simp [Shared.keptBy, Shared.heldBy]

theorem keptBy_mono {tasks tasks' : List Pc} (hsub : ∀ pc ∈ tasks, pc ∈ tasks')
    (h : sh.keptBy tasks = true) : sh.keptBy tasks' = true := by
  rw [keptBy_iff] at h ⊢
  exact h.imp_right (Or.imp_right fun ⟨pc, hpc, ht⟩ ↦ ⟨pc, hsub pc hpc, ht⟩)

/-- What is left of a step: a session for the voice connection, if there is one. -/
def StillKept (sh' : Shared) (pc' : Pc) (spawned others : List Pc) : Prop :=
  sh'.keptBy (pc' :: (spawned ++ others)) = true

theorem StillKept.here (h : pc'.holds sh' = true) : StillKept sh' pc' spawned others :=
  keptBy_iff.mpr (.inr (.inr ⟨pc', List.mem_cons_self, h⟩))

theorem StillKept.slot (h : sh'.voice.isSome = true) : StillKept sh' pc' spawned others :=
  keptBy_iff.mpr (.inr (.inl h))

theorem StillKept.away (h : sh'.snapshot.guildId = none) : StillKept sh' pc' spawned others :=
  keptBy_iff.mpr (.inl h)

theorem StillKept.byOthers (h : sh'.keptBy others = true) : StillKept sh' pc' spawned others :=
  keptBy_mono (fun _ hpc ↦ List.mem_cons_of_mem _ (List.mem_append_right _ hpc)) h

/-- The step reports no new voice connection, empties no slot and moves no generation. -/
structure SameVoice (sh sh' : Shared) : Prop where
  guild : sh.snapshot.guildId = none → sh'.snapshot.guildId = none
  slot : sh.voice.isSome = true → sh'.voice.isSome = true
  generation : sh'.voiceTransportGeneration = sh.voiceTransportGeneration

theorem SameVoice.refl (sh : Shared) : SameVoice sh sh := ⟨id, id, rfl⟩

theorem SameVoice.of_frame {k : Kind} (hf : Frame k sh sh')
    (hk : k = .quiet ∨ k = .playbackEpoch ∨ k = .rolloverEpoch) : SameVoice sh sh' := by
  obtain rfl | rfl | rfl := hk
  all_goals
    refine ⟨?_, ?_, hf.generation⟩
    · rw [hf.snapshot nofun nofun]
      exact id
    · rw [hf.voice nofun nofun]
      exact id

theorem SameVoice.write {f : Snapshot → Snapshot} (h : (f sh.snapshot).guildId = sh.snapshot.guildId) :
    SameVoice sh (sh.write f) :=
  ⟨fun hg ↦ h.trans hg, id, rfl⟩

theorem SameVoice.emitted (kind : PlaybackEventKind) (a : Attempt) (p : Prepared) :
    SameVoice sh (emitPlaybackState sh kind a p) := by
  unfold emitPlaybackState
  split
  · exact .refl sh
  · split
    · exact .refl sh
    · exact .write rfl

theorem StillKept.next (hI : sh.keptBy (pc :: others) = true) (hsame : SameVoice sh sh')
    (h : pc.holds sh = true → StillKept sh' pc' spawned others) : StillKept sh' pc' spawned others := by
  rw [keptBy_iff] at hI
  obtain hnone | hslot | ⟨q, hq, ht⟩ := hI
  · exact .away (hsame.guild hnone)
  · exact .slot (hsame.slot hslot)
  · obtain rfl | hq := List.mem_cons.mp hq
    · exact h ht
    · exact .byOthers (keptBy_iff.mpr (.inr (.inr ⟨q, hq, by rw [holds_congr hsame.generation, ht]⟩)))

theorem StillKept.goOn (hI : sh.keptBy (pc :: others) = true) (hsame : SameVoice sh sh')
    (h : pc.holds sh = true → pc'.holds sh = true) : StillKept sh' pc' spawned others :=
  .next hI hsame fun ht ↦ .here ((holds_congr hsame.generation pc').trans (h ht))

theorem StillKept.idle (hI : sh.keptBy (pc :: others) = true) (hsame : SameVoice sh sh')
    (h : pc.holds sh = false) : StillKept sh' pc' spawned others :=
  .next hI hsame fun ht ↦ absurd (h.symm.trans ht) Bool.false_ne_true

theorem StillKept.elsewhere (sh : Shared) (hg : sh'.voiceTransportGeneration = sh.voiceTransportGeneration)
    (h : (others.any fun pc ↦ pc.holds sh) = true) : StillKept sh' pc' spawned others := by
  obtain ⟨q, hq, ht⟩ := List.any_eq_true.mp h
  exact .byOthers (keptBy_iff.mpr (.inr (.inr ⟨q, hq, (holds_congr hg q).trans ht⟩)))

theorem isSome_after {isConnected mediaStarted : Bool} (h : sh.voice.isSome = true) :
    (sh.voice.map fun session ↦ session.after isConnected mediaStarted).isSome = true := by
  rwa [Option.isSome_map]

theorem driverResult_of_select {p : Pipeline} {e : Ending}
    (h : pipeSelect sh p answer = some (sh', .pipeClear p true e, spawned)) : answer = .driverResult := by
  unfold pipeSelect at h
  split at h
  · unfold pipeMetric at h
    split at h
    · split at h <;> cases h
    · split at h <;> cases h
    · cases h
    · cases h
    · cases h
  · rfl
  · obtain ⟨-, -, h⟩ := Option.bind_eq_some_iff.mp h
    cases h
  · cases h
  · cases h

theorem timedOut_of_leave {count : ℕ} {outcome : Outcome}
    (h : leaveStopped sh count answer = some (sh', .finished outcome, spawned)) : answer = .timedOut := by
  unfold leaveStopped at h
  split at h
  · split at h <;> cases h
  · rfl
  · cases h

theorem ofExit_session {p : Pipeline} {e : Ending} {exit : Option DriverExit} (h : exit ≠ none) :
    (e.ofExit p exit).session.isSome = true := by
  cases exit with
  | none => exact absurd rfl h
  | some exit => rfl

theorem pipeCleanUp_holds {p : Pipeline} {e : Ending} (h : e.session.isSome = true)
    (hrestore : e.restore = true) : (pipeCleanUp p e).holds sh = true := by
  obtain ⟨session, hsession⟩ := Option.isSome_iff_exists.mp h
  simpa [pipeCleanUp, hsession, Pc.holds] using hrestore

theorem advance_kept (h : advance sh pc answer = some (sh', pc', spawned))
    (hs : sh.snapshot.Coherent) (hok : upright others sh answer pc = true)
    (hI : sh.keptBy (pc :: others) = true) : StillKept sh' pc' spawned others := by
  have ha := advance_access h
  have hframe := ha.frame
  have hfails (hanswer : answer.error.isNone = false)
      (hok : (answer.error.isNone || sh.keptBy others) = true) : sh.keptBy others = true := by
    simpa [hanswer] using hok
  cases ha
  case joinConnectFailed =>
    exact .byOthers (hfails (by cases answer <;> first | rfl | cases h) hok)
  case joinSettleFailed =>
    exact .byOthers (hfails (by cases answer <;> first | rfl | cases h) hok)
  case replaceConnectFailed =>
    exact .byOthers (hfails (by cases answer <;> first | rfl | cases h) hok)
  case replaceSettleFailed =>
    exact .byOthers (hfails (by cases answer <;> first | rfl | cases h) hok)
  case replaceStale h' => exact .byOthers ((Bool.or_eq_true_iff.mp hok).resolve_left (by simpa using h'))
  case refreshed h' =>
    refine .idle hI ⟨fun hnone ↦ ?_, id, rfl⟩ rfl
    rw [(hs.away hnone).1] at h'
    cases h'
  case reconnected =>
    obtain hslot | hothers := Bool.or_eq_true_iff.mp hok
    · exact .slot hslot
    · exact .elsewhere sh rfl hothers
  case buffering => exact .goOn hI (.emitted _ _ _) id
  case playing => exact .goOn hI (.emitted _ _ _) id
  case emitted => exact .goOn hI (.emitted _ _ _) id
  case stopped => exact .idle hI ⟨id, id, rfl⟩ rfl
  case refreshConnected h' => exact .slot h'
  case refreshSuspendFailed => exact .idle hI ⟨id, isSome_after, rfl⟩ rfl
  case quiesced => exact .idle hI ⟨id, isSome_after, rfl⟩ rfl
  case stopBoundary => exact .idle hI ⟨id, isSome_after, rfl⟩ rfl
  case stopBoundaryFailed => exact .idle hI ⟨id, isSome_after, rfl⟩ rfl
  case leaveSlot =>
    obtain hnone | hothers := Bool.or_eq_true_iff.mp hok
    · exact .away (Option.isNone_iff_eq_none.mp hnone)
    · exact .elsewhere sh rfl hothers
  case playGeneration => exact .here (by simp [Pc.holds])
  case selectAgain q hq => exact .goOn hI (.refl sh) fun ht ↦ by simpa [Pc.holds, hq.2.1] using ht
  case selectEmit q kind hq => exact .goOn hI (.refl sh) fun ht ↦ by simpa [Pc.holds, hq.2.1] using ht
  case selectProgress q hq => exact .goOn hI (.refl sh) fun ht ↦ by simpa [Pc.holds, hq.2.1] using ht
  case selectResult p exit hexit =>
    obtain rfl := driverResult_of_select h
    by_cases hgone : exit = none
    · exact .byOthers (by simpa [upright, hexit, hgone] using hok)
    · exact .goOn hI (.refl sh) fun ht ↦ by simpa [Pc.holds, ofExit_session hgone] using ht
  case driverAwaited p e exit hexit =>
    by_cases hgone : exit = none
    · exact .byOthers (by simpa [upright, hexit, hgone] using hok)
    · exact .goOn hI (.refl sh) fun ht ↦ by simpa [Pc.holds, ofExit_session hgone] using ht
  case endingLost h' => exact .idle hI (.refl sh) (by simp [Pc.holds, h'])
  case restoreCurrent => exact .goOn hI (.refl sh) fun ht ↦ (Bool.and_eq_true_iff.mp ht).2
  case restoreStale h' => exact .idle hI (.refl sh) (by simp [Pc.holds, Ne.symm h'])
  case restoreDecided =>
    refine .next hI (.refl sh) fun ht ↦ ?_
    cases hv : sh.voice with
    | none => exact .here (pipeCleanUp_holds ht rfl)
    | some session => exact .slot (by rw [hv]; rfl)
  case boundary p e session cleanup isConnected mediaStarted =>
    refine .goOn hI (.refl sh) fun ht ↦ ?_
    have hrestore : e.restore = true := ht
    simp [pipeBoundaryDone, hrestore, Pc.holds]
  case leaveGeneration active count => exact .here (by cases active <;> rfl)
  case leaveTimedOut =>
    obtain rfl := timedOut_of_leave h
    exact .byOthers (Bool.and_eq_true_iff.mp hok).2
  all_goals first
    | exact .idle hI (.refl sh) rfl
    | exact .goOn hI (.refl sh) id
    | exact .goOn hI (.refl sh) fun _ ↦ rfl
    | exact .idle hI (.of_frame hframe (.inl rfl)) rfl
    | exact .goOn hI (.of_frame hframe (.inl rfl)) id
    | exact .idle hI (.of_frame hframe (.inr (.inl rfl))) rfl
    | exact .idle hI (.of_frame hframe (.inr (.inr rfl))) rfl
    | exact .here rfl
    | exact .slot rfl
    | exact .away rfl
    | exact .idle hI (.write rfl) rfl
    | exact .goOn hI (.write rfl) id

end Holding

namespace Runtime

def pcs (rt : Runtime) : List Pc := rt.tasks.map fun t ↦ t.pc

def others (rt : Runtime) (i : ℕ) : List Pc := (rt.tasks.eraseIdx i).map fun t ↦ t.pc

end Runtime

/-- Every step of a task is taken uprightly beside the others. -/
def stepsUprightly (rt : Runtime) : Move → Bool
  | .task i answer => rt.tasks[i]?.all fun t ↦ upright (rt.others i) rt.shared answer t.pc
  | _ => true

/-- The snapshot agrees with itself, its track is tended, and its voice connection has a session. -/
structure Attended (rt : Runtime) : Prop where
  hasPlayback : rt.shared.hasPlayback = true
  coherent : rt.shared.snapshot.Coherent
  tended : rt.shared.tendedBy rt.pcs = true
  kept : rt.shared.keptBy rt.pcs = true

namespace Attended

variable {rt : Runtime} {sh' : Shared} {t : Task}

theorem fresh : Attended .withPlaybackWorker :=
  ⟨rfl, ⟨nofun, rfl, fun _ ↦ ⟨rfl, rfl⟩⟩, rfl, rfl⟩

theorem started (h : Attended rt) : Attended ⟨rt.shared, rt.tasks ++ [t]⟩ := by
  have hsub : ∀ pc ∈ rt.pcs, pc ∈ (rt.tasks ++ [t]).map fun t ↦ t.pc := by
    intro pc hpc
    rw [List.map_append]
    exact List.mem_append_left _ hpc
  exact ⟨h.hasPlayback, h.coherent, tendedBy_mono hsub h.tended, keptBy_mono hsub h.kept⟩

theorem driven (h : Attended rt) (hf : Frame .quiet rt.shared sh') : Attended ⟨sh', rt.tasks⟩ := by
  refine ⟨hf.hasPlayback.trans h.hasPlayback, ?_, ?_, ?_⟩
  · rw [hf.snapshot nofun nofun]
    exact h.coherent
  · exact ((SameTrack.quiet hf).tendedBy rt.pcs).trans h.tended
  · have hsame := SameVoice.of_frame hf (.inl rfl)
    have hkept := keptBy_iff.mp h.kept
    exact keptBy_iff.mpr (hkept.imp hsame.guild (Or.imp hsame.slot fun ⟨pc, hpc, hh⟩ ↦
      ⟨pc, hpc, (holds_congr hsame.generation pc).trans hh⟩))

theorem task (h : Attended rt) {i : ℕ} {answer : Answer} {pc' : Pc} {spawned : List Pc}
    (ht : rt.tasks[i]? = some t) (ha : advance rt.shared t.pc answer = some (sh', pc', spawned))
    (hok : upright (rt.others i) rt.shared answer t.pc = true) :
    Attended ⟨sh', rt.tasks.set i (t.after rt.shared sh' pc') ++
      spawned.map (t.after rt.shared sh' pc').spawn⟩ := by
  have hbefore : ∀ pc ∈ rt.pcs, pc ∈ t.pc :: rt.others i := by
    intro pc hpc
    obtain ⟨u, hu, rfl⟩ := List.mem_map.mp hpc
    obtain rfl | hu := List.mem_cons.mp (Pool.mem_cons_eraseIdx ht hu)
    · exact List.mem_cons_self
    · exact List.mem_cons_of_mem _ (List.mem_map_of_mem hu)
  have hafter : ∀ pc ∈ pc' :: (spawned ++ rt.others i),
      pc ∈ (rt.tasks.set i (t.after rt.shared sh' pc') ++
        spawned.map (t.after rt.shared sh' pc').spawn).map fun t : Task ↦ t.pc := by
    intro pc hpc
    rw [List.map_append, List.mem_append, List.map_map]
    rcases List.mem_cons.mp hpc with rfl | hpc
    · exact .inl (List.mem_map_of_mem (List.mem_of_getElem?
        (List.getElem?_set_self (List.getElem?_eq_some_iff.mp ht).1)))
    · rcases List.mem_append.mp hpc with hpc | hpc
      · exact .inr (List.mem_map.mpr ⟨pc, hpc, rfl⟩)
      · obtain ⟨u, hu, rfl⟩ := List.mem_map.mp hpc
        exact .inl (List.mem_map_of_mem (Pool.mem_set_of_mem_eraseIdx hu))
  have hframe := (advance_access ha).frame
  have htended := advance_tended ha h.coherent h.hasPlayback hok (tendedBy_mono hbefore h.tended)
  have hkept := advance_kept ha h.coherent hok (keptBy_mono hbefore h.kept)
  refine ⟨hframe.hasPlayback.trans h.hasPlayback,
    (advance_access ha).coherent h.coherent hok, ?_, ?_⟩
  · exact tendedBy_mono hafter htended
  · exact keptBy_mono hafter hkept

theorem step {rt' : Runtime} {move : Move} (h : Attended rt) (hok : stepsUprightly rt move = true)
    (hstep : rt.step move = some rt') : Attended rt' := by
  cases move with
  | start command =>
    cases hstep
    exact h.started
  | task i answer =>
    obtain ⟨t, sh', pc', spawned, ht, ha, rfl⟩ := step_advance hstep
    exact h.task ht ha (by simpa [stepsUprightly, ht] using hok)
  | env e =>
    obtain ⟨sh', hdriver, rfl⟩ := Pool.step_env hstep
    exact h.driven (frame_driverMove hdriver)

/-- With no command in flight, nobody tends a track or holds a session. -/
theorem truthful (h : Attended rt) (hrest : rt.atRest = true) : Truthful rt.shared := by
  have hidle {f : Pc → Bool} (hf : ∀ outcome, f (.finished outcome) = false) :
      ¬∃ pc ∈ rt.pcs, f pc = true := by
    rintro ⟨pc, hpc, ht⟩
    obtain ⟨t, hmem, rfl⟩ := List.mem_map.mp hpc
    obtain ⟨outcome, hfinished⟩ := finished_of_atRest hrest hmem
    rw [hfinished, hf] at ht
    cases ht
  have htrack : rt.shared.snapshot.currentVideoId = none :=
    (tendedBy_iff.mp h.tended).resolve_right (hidle fun _ ↦ rfl)
  have hvoice : rt.shared.snapshot.guildId = none ∨ rt.shared.voice.isSome = true :=
    (keptBy_iff.mp h.kept).imp_right fun hslot ↦ hslot.resolve_right (hidle fun _ ↦ rfl)
  have hbusy : rt.shared.snapshot.state.busy = false := by
    by_contra hbusy
    have hsome := h.coherent.track (by simpa using hbusy)
    rw [htrack] at hsome
    cases hsome
  constructor
  · refine ⟨fun hs ↦ ?_, fun hs ↦ ?_, fun hs ↦ ?_, fun hs ↦ ?_⟩
    all_goals
      rw [hs] at hbusy
      cases hbusy
  · exact htrack
  · intro hconnecting
    obtain hnone | hslot := hvoice
    · rw [(h.coherent.away hnone).1] at hconnecting
      cases hconnecting
    · exact hslot
  · intro hempty
    obtain hnone | hslot := hvoice
    · have hchannel := h.coherent.channel
      rw [hnone, Option.isSome_none, Option.isSome_eq_false_iff, Option.isNone_iff_eq_none] at hchannel
      exact ⟨(h.coherent.away hnone).1, hnone, hchannel⟩
    · rw [hempty] at hslot
      cases hslot

end Attended

/-- In a run in which every step is upright, the reported state is truthful whenever no command is
in flight. -/
theorem truthful_at_rest_of_upright {moves : List Move} {rt : Runtime}
    (hok : Throughout Runtime.step (fun rt move ↦ stepsUprightly rt move = true)
      .withPlaybackWorker moves)
    (hrun : exec Runtime.step .withPlaybackWorker moves = some rt) (hrest : rt.atRest = true) :
    Truthful rt.shared := by
  have hattended : Attended rt :=
    exec_induction (fun _ _ _ h hok hstep ↦ h.step hok hstep) .fresh hok hrun
  exact hattended.truthful hrest

/-- A track that plays to its end, and then an `UpdateVoiceContext` that cannot connect. -/
def playToEnd : List Move :=
  joinLobby ++ playVideo ++
    [.task 1 .go, .env (.exit 0 (some ⟨true, none, true, true⟩)), .task 1 .driverResult] ++ runs 1 4 ++
    [.task 1 (.session true false)] ++ runs 1 3 ++
    .start (.updateVoiceContext { lobby with channelId := "stage" }) :: runs 2 11 ++
    [.task 2 (.failed (.voice "gateway"))] ++ runs 2 2

theorem truthful_at_rest_playToEnd :
    ∃ rt, exec Runtime.step .withPlaybackWorker playToEnd = some rt ∧ rt.atRest = true ∧
      rt.tasks.length = 3 ∧ Truthful rt.shared := by
  have hok : allowed Runtime.step stepsUprightly .withPlaybackWorker playToEnd = true := by
    decide +kernel
  have hends : (exec Runtime.step .withPlaybackWorker playToEnd).map (fun rt ↦
      (rt.atRest, rt.tasks.length)) = some (true, 3) := by
    decide +kernel
  obtain ⟨rt, hrun, hrt⟩ := Option.map_eq_some_iff.mp hends
  simp only [Prod.mk.injEq] at hrt
  exact ⟨rt, hrun, hrt.1, hrt.2, truthful_at_rest_of_upright (throughout_of_allowed hok) hrun hrt.1⟩

/-- A `JoinVoice` that cannot connect, and a second one. -/
def joinAgain : List Move :=
  [.start (.joinVoice lobby), .task 0 .go, .task 0 (.failed (.voice "gateway")),
    .start (.joinVoice lobby), .task 1 .go]

/-- A `Play` while the driver of another track has the session; the driver stops for it. -/
def playOther : List Move :=
  joinLobby ++ playVideo ++ .start (.play "other") :: runs 2 5 ++
    [.task 1 .go, .env (.take 0), .env (.exit 0 (some ⟨false, none, true, true⟩)), .task 1 .driverResult] ++
    runs 1 4 ++ [.task 1 (.session true false)] ++ runs 1 2

/-- The failed `JoinVoice` leaves a connecting session behind that refuses the next one, and the second
`Play` returns `Ok` with its track unresolved for good. -/
theorem untruthful_at_rest :
    (∃ rt error, exec Runtime.step .withPlaybackWorker joinAgain = some rt ∧ rt.atRest = true ∧
      rt.shared.channels = [] ∧ rt.shared.snapshot.state = .connectingVoice ∧ rt.shared.voice = none ∧
      (rt.tasks[1]?.map fun t ↦ t.pc) = some (.finished (.err error)) ∧ ¬Truthful rt.shared) ∧
    ∃ rt, exec Runtime.step .withPlaybackWorker playOther = some rt ∧ rt.atRest = true ∧
      (∀ c ∈ rt.shared.channels, c.status ≠ .running) ∧ rt.shared.snapshot.state = .resolvingTrack ∧
      (rt.tasks[2]?.map fun t ↦ t.pc) = some (.finished .ok) ∧ ¬Truthful rt.shared := by
  have hjoin : (exec Runtime.step .withPlaybackWorker joinAgain).map (fun rt ↦
      (rt.atRest, rt.shared.channels.isEmpty, rt.shared.snapshot.state, rt.shared.voice.isNone,
        rt.tasks[1]?.map fun t ↦ t.pc)) =
      some (true, true, .connectingVoice, true,
        some (.finished (.err (.invalidState "join_voice requires an idle session")))) := by
    decide +kernel
  have hplay : (exec Runtime.step .withPlaybackWorker playOther).map (fun rt ↦
      (rt.atRest, rt.shared.channels.all fun c ↦ c.status ≠ .running, rt.shared.snapshot.state,
        rt.tasks[2]?.map fun t ↦ t.pc)) =
      some (true, true, .resolvingTrack, some (.finished .ok)) := by
    decide +kernel
  constructor
  · obtain ⟨rt, hrun, hrt⟩ := Option.map_eq_some_iff.mp hjoin
    simp only [Prod.mk.injEq, List.isEmpty_iff, Option.isNone_iff_eq_none] at hrt
    obtain ⟨hrest, hchannels, hstate, hvoice, htask⟩ := hrt
    refine ⟨rt, _, hrun, hrest, hchannels, hstate, hvoice, htask, fun h ↦ ?_⟩
    have hslot := h.connecting hstate
    rw [hvoice] at hslot
    cases hslot
  · obtain ⟨rt, hrun, hrt⟩ := Option.map_eq_some_iff.mp hplay
    simp only [Prod.mk.injEq, List.all_eq_true, decide_eq_true_eq] at hrt
    obtain ⟨hrest, hdrivers, hstate, htask⟩ := hrt
    exact ⟨rt, hrun, hrest, hdrivers, hstate, htask, fun h ↦ h.notBusy.1 hstate⟩

end DiscordVoice.Session
