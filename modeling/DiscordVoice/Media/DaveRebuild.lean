import DiscordVoice.Media.Outstanding
import DiscordVoice.Voice.TransitionCount

namespace DiscordVoice.Media

open Voice Playback MediaState Schedule

/-- The packets the driver has prepared that no sender has taken to the wire. -/
def queued (s : MediaState) : List PreparedPlayoutCommand :=
  s.current.waiting ++ s.prepared.map (·.command)

namespace DriverPc

/-- The driver was told of a transition and has not started a new generation yet. -/
def heardOfTransition : DriverPc → Bool
  | .ready (.dave _) | .outcomes (.dave _) _ | .report (.dave _) _ | .invalidate (.dave _) => true
  | _ => false

def clearing : DriverPc → Bool
  | .discard _ | .replace _ | .flush _ _ | .exited _ => true
  | _ => false

end DriverPc

variable {aead : Aead} {s t : MediaState}

theorem Effect.generation_le (hc : Connected s) (h : Effect aead s t) :
    s.generation ≤ t.generation := by
  cases h with
  | jump hs ht hm => exact (congrArg Flow.generation hm).ge
  | accountDropped hs hdropped => exact absurd (hc.linked (link_of_calm hs)).noDrops hdropped
  | report hs hq hpc =>
    exact (congrArg Flow.generation (sendMetric_flow (s := s) (.senderSent _))).ge
  | invalidate hs | invalidateAgain hs => exact Nat.le_succ _
  | restore hs | refillRestore hs =>
    exact (congrArg Flow.generation (restoreLiveSourceFrame_flow (s := s) _)).ge
  | @restored reason hs =>
    cases reason with
    | stop site => cases site <;> exact le_rfl
    | _ => exact le_rfl
  | exit ht hcurrent hflow => exact hflow.2.1.ge
  | _ => exact le_rfl

/-- Since generation `g` the driver has started a new one, is about to, or has stopped. -/
structure Renews (g : ℕ) (s : MediaState) : Prop where
  le : g ≤ s.generation
  renews : s.pc.heardOfTransition = true ∨ (∃ result, s.pc = .exited result) ∨ g < s.generation

theorem drainOutcome_heard {g : ℕ} {route : Route} {sent : List DeadlineSendRecord}
    (hg : g ≤ s.generation) : Renews g (s.drainOutcome (.dave route) sent) := by
  have hexit (u : MediaState) (hu : u.generation = s.generation) : Renews g u.fail :=
    ⟨hg.trans hu.ge, .inr (.inl ⟨_, rfl⟩)⟩
  simp only [drainOutcome]
  split
  · simp only [accountSent]
    split
    · exact hexit _ rfl
    · split_ifs
      · exact ⟨hg, .inl rfl⟩
      · exact hexit _ rfl
  · split_ifs
    · exact hexit _ rfl
    · split
      · simp only [accountDropped]
        split
        · exact hexit _ rfl
        · split_ifs
          · split
            · refine ⟨hg.trans (le_of_eq ?_), .inl rfl⟩
              simp only [accountUnsentEgressFrame, restoreLiveSourceFrame, goto]
              split
              · rfl
              · split <;> rfl
            · exact ⟨hg, .inl rfl⟩
          · exact hexit _ rfl
      · exact ⟨hg, .inl rfl⟩

theorem driverStep_heard {g : ℕ} {answer : DriverAnswer} (hg : g ≤ s.generation)
    (hpc : s.pc.heardOfTransition = true) (h : s.driverStep aead answer = some t) :
    Renews g t := by
  cases hs : s.pc with
  | ready site =>
    rw [hs] at hpc
    cases site with
    | dave route =>
      cases answer <;> simp only [driverStep, hs, reduceCtorEq] at h
      cases h
      simp only [readSourceDepth]
      split
      · exact ⟨hg, .inr (.inl ⟨_, rfl⟩)⟩
      · exact ⟨hg, .inl rfl⟩
    | _ => cases hpc
  | outcomes site sent =>
    rw [hs] at hpc
    cases site with
    | dave route =>
      cases answer <;> simp only [driverStep, hs, reduceCtorEq] at h
      cases h
      exact drainOutcome_heard hg
    | _ => cases hpc
  | report site sent =>
    rw [hs] at hpc
    cases site with
    | dave route =>
      cases answer <;> cases sent <;> simp only [driverStep, hs, reduceCtorEq] at h
      · cases h
        exact ⟨hg, .inl rfl⟩
      · cases h
        refine ⟨hg.trans ?_, .inl rfl⟩
        exact (congrArg Flow.generation (sendMetric_flow (s := s) (.senderSent _))).ge
    | _ => cases hpc
  | invalidate reason =>
    cases answer <;> simp only [driverStep, hs, reduceCtorEq] at h
    cases h
    exact ⟨hg.trans (Nat.le_succ _), .inr (.inr (Nat.lt_succ_of_le hg))⟩
  | _ =>
    rw [hs] at hpc
    cases hpc

theorem Renews.driver {g : ℕ} {answer : DriverAnswer} (hc : Connected s) (hr : Renews g s)
    (h : s.driverStep aead answer = some t) : Renews g t := by
  have hle := (driverStep_effect h).generation_le hc
  rcases hr.renews with hheard | ⟨result, hexited⟩ | hlt
  · exact driverStep_heard hr.le hheard h
  · cases answer <;> simp only [driverStep, hexited, reduceCtorEq] at h
  · exact ⟨hr.le.trans hle, .inr (.inr (hlt.trans_le hle))⟩

theorem Renews.congr {g : ℕ} (hr : Renews g s) (hpc : t.pc = s.pc)
    (hgeneration : t.generation = s.generation) : Renews g t where
  le := hr.le.trans hgeneration.ge
  renews := by
    rw [hpc, hgeneration]
    exact hr.renews

theorem Renews.step {g : ℕ} {action : Action} (hc : Connected s) (hr : Renews g s)
    (h : s.step aead action = some t) : Renews g t := by
  cases step_happens h with
  | driver he => exact hr.driver hc h
  | sender hmove => exact hr.congr rfl rfl
  | oldSender hget hmove => exact hr.congr rfl rfl
  | produced pushed hpc hpaused hflow => exact hr.congr hpc (congrArg Flow.generation hflow)
  | metric =>
    exact hr.congr (sendMetric_pc _) (congrArg Flow.generation (sendMetric_flow (s := s) _))
  | consumed hmetrics =>
    exact hr.congr (consumeMetric_pc _) (congrArg Flow.generation (consumeMetric_flow _))
  | apart ha hpc hpaused hflow => exact hr.congr hpc (congrArg Flow.generation hflow)

theorem queued_generation (hc : Connected s) (hclearing : s.pc.clearing = false) :
    ∀ c ∈ queued s, c.generation = s.generation := by
  have hempty (hwaiting : s.current.waiting = []) (hprepared : s.prepared = []) :
      queued s = [] := by
    simp [queued, hwaiting, hprepared]
  cases hlink : s.pc.link with
  | linked =>
    have haligned := hc.linked hlink
    intro c hmem
    rcases List.mem_append.mp hmem with hmem | hmem
    · exact haligned.live c hmem
    · obtain ⟨p, hp, rfl⟩ := List.mem_map.mp hmem
      exact (haligned.prepared p hp).2
  | quiet =>
    obtain ⟨hquiet, hprepared⟩ := hc.quiet hlink
    rw [hempty hquiet.noneWaiting hprepared]
    simp
  | boundary =>
    obtain ⟨hboundary, hprepared⟩ := hc.boundary hlink
    intro c hmem
    rw [queued, show s.prepared = [] from hprepared, List.map_nil, List.append_nil] at hmem
    exact hboundary.live c hmem
  | replaced | cut =>
    cases hpc : s.pc <;> simp [hpc, DriverPc.link, DriverPc.clearing] at hlink hclearing

/-- Told of so many transitions, a driver in any run clears its queues before it goes on: what
stands in them afterwards was prepared later. -/
def RebuildsQueues (aead : Aead) (daveTransitionCount : ℕ) : Prop :=
  ∀ playbackEpoch preparer source position before after d d₁ d₂,
    exec (MediaState.step aead) (.start playbackEpoch preparer source position) before = some d →
    d.pc = .gateway →
    d.step aead (.driver (.drained (0 < daveTransitionCount))) = some d₁ →
    exec (MediaState.step aead) d₁ after = some d₂ →
    d₂.pc.heardOfTransition = false → d₂.pc.clearing = false →
    ∀ c ∈ queued d₂, d.generation < c.generation

theorem rebuildsQueues_of_counted (aead : Aead) {count : ℕ} (hcount : 0 < count) :
    RebuildsQueues aead count := by
  intro playbackEpoch preparer source position before after d d₁ d₂ hd hpc hdrained hafter
    hheard hclearing c hmem
  have hconnected : Connected d := exec_invariant (fun _ _ _ hc h ↦ hc.happens (step_happens h))
    (.start playbackEpoch preparer source position) hd
  have hrenews : Renews d.generation d₁ := by
    simp only [hcount, decide_true, MediaState.step, driverStep, hpc] at hdrained
    cases hdrained
    exact ⟨le_rfl, .inl rfl⟩
  obtain ⟨hconnected', hrenews'⟩ : Connected d₂ ∧ Renews d.generation d₂ :=
    exec_invariant (I := fun s ↦ Connected s ∧ Renews d.generation s)
      (fun _ _ _ hs h ↦ ⟨hs.1.happens (step_happens h), hs.2.step hs.1 h⟩)
      ⟨hconnected.happens (step_happens hdrained), hrenews⟩ hafter
  rw [queued_generation hconnected' hclearing c hmem]
  rcases hrenews'.renews with h | ⟨result, h⟩ | h
  · rw [hheard] at h
    cases h
  · rw [h] at hclearing
    cases hclearing
  · exact h

/-- A drain that passes leaves the runtime it found in use, with nothing but proposals taken, or
counts a transition, and then the driver prepares anew all that it had queued. Only proposals that
are retried for the group's first epoch put another runtime in place without being counted. -/
theorem superseded_runtime_counted {D : Libdave} (aead : Aead) (voice : VoiceContext)
    (gateway : VoiceGatewayClient) (transport : VoiceUdpTransport) (ssrc : UInt32)
    (dave : InitialDaveState D) (calls : List SessionCall) {s t : ConnectedVoiceSession D}
    {r : D.Runtime} {allow : Bool} {inbox : List GatewayReceive}
    {report : VoiceGatewayDrainReport}
    (h : exec (callStep aead) (connect voice gateway transport ssrc dave) calls = some s)
    (hr : s.dave = some r) (hdrain : processPendingGatewayEvents allow inbox s = .ok report t) :
    (drainRetries s inbox = false → UsesSince (· = r) t ∨
      0 < report.daveTransitionCount ∧ RebuildsQueues aead report.daveTransitionCount) ∧
    (drainRetries s inbox = true → UsesSince MadeNew t ∨
      0 < report.daveTransitionCount ∧ RebuildsQueues aead report.daveTransitionCount) := by
  have hfollows := drain_follows (exec_callStep_single h) hr hdrain
  constructor
  all_goals
    intro hretries
    rw [hretries] at hfollows
    rcases hfollows with hcount | huses
    · exact .inr ⟨hcount, rebuildsQueues_of_counted aead hcount⟩
    · exact .inl huses

/-- A library that counts the epochs of the group and refuses proposals. -/
def epochDave : Libdave where
  Session := Unit
  Runtime := ℕ
  ExternalSender := Unit
  newSession := .ok ()
  setExternalSender _ _ := .ok ()
  init _ _ _ _ := .ok ()
  keyPackage _ := .ok ([0x4B], ())
  sessionProcessProposals _ _ _ _ := .ok (some [0xC0], ())
  sessionProcessCommit _ _ := .ok (⟨false, false, [1]⟩, ())
  sessionProcessWelcome _ _ _ := .ok (⟨[1]⟩, ())
  fromSession _ := .ok 1
  protocolVersion _ := 1
  processProposals epoch _ _ _ := (.error (.operation "proposals"), epoch)
  processCommit epoch _ := (.ok ⟨false, false, [1]⟩, epoch + 1)
  processWelcome epoch _ _ := (.ok ⟨[1]⟩, epoch + 1)
  encryptAudioFrame epoch frame := (.ok (0xDA :: frame), epoch)
  splitCommitWelcome _ commitWelcome := .ok (commitWelcome, [])

def epochSession : ConnectedVoiceSession epochDave :=
  connect ⟨"1", "2", "3", "s", "voice.example", "t"⟩ ⟨[], []⟩ ⟨⟨7, .new, none⟩, .new⟩ 7
    ⟨some (0 : ℕ), none, 2, 1, (), [], ∅, ∅, {daveProtocolInitTransitionId}, rfl⟩

theorem epochDave_kept {epoch : epochDave.Runtime} {s : ConnectedVoiceSession epochDave}
    (h : UsesSince (· = epoch) s) : s.dave = some epoch := by
  obtain ⟨r, r', rfl, hsince, hdave⟩ := h
  have hsame : r = r' := by
    clear hdave
    induction hsince with
    | refl => rfl
    | tail _ htakes ih =>
      obtain ⟨operation, proposals, recognized, rfl⟩ := htakes
      exact ih
  rw [hdave, hsame]

theorem superseded_runtime_counted_commit :
    ∃ (t : ConnectedVoiceSession epochDave) (report : VoiceGatewayDrainReport),
      processPendingGatewayEvents false
        [.event (.davePrepareTransition 5 1), .event (.daveMlsPrepareCommitTransition 5 [0xC1]),
          .event (.daveExecuteTransition 5), .timeout] epochSession = .ok report t ∧
      t.dave = some (1 : ℕ) ∧ 0 < report.daveTransitionCount ∧
      RebuildsQueues plainAead report.daveTransitionCount := by
  refine ⟨_, _, rfl, rfl, ?_⟩
  have hcounted := (superseded_runtime_counted plainAead _ _ _ _ _ []
    (rfl : exec (callStep plainAead) epochSession [] = some epochSession) rfl
    (rfl : processPendingGatewayEvents false
      [.event (.davePrepareTransition 5 1), .event (.daveMlsPrepareCommitTransition 5 [0xC1]),
        .event (.daveExecuteTransition 5), .timeout] epochSession = .ok _ _)).1 (by decide)
  rcases hcounted with huses | hcount
  · cases epochDave_kept huses
  · exact hcount

def oneFrameQueued : List Action :=
  oneFrameRound ++ [.send .resume, .driver .command, payload] ++ goes 6

/-- Proposals that the runtime refuses are retried for the first epoch: another runtime is in use,
the drain counts nothing, and the driver goes on with the packet of the old one. -/
theorem superseded_runtime_uncounted :
    ∃ (s t : ConnectedVoiceSession epochDave) (report : VoiceGatewayDrainReport),
      exec (callStep plainAead) epochSession [.prepare [0x01] 960] = some s ∧
      s.dave = some (0 : ℕ) ∧
      processPendingGatewayEvents false
        [.event (.daveMlsProposals .append [0xB0]), .timeout] s = .ok report t ∧
      t.dave = some (1 : ℕ) ∧ ¬UsesSince (· = (0 : ℕ)) t ∧ report.daveTransitionCount = 0 ∧
      ¬RebuildsQueues plainAead report.daveTransitionCount := by
  refine ⟨_, _, _, rfl, rfl, rfl, rfl, ?_, rfl, ?_⟩
  · intro huses
    cases epochDave_kept huses
  · intro hrebuilds
    have hends : (exec (MediaState.step plainAead) (plainStart [plainFrame 0] false)
        oneFrameQueued).map (fun d ↦ (d.pc, (queued d).map (·.generation), d.generation)) =
        some (.gateway, [0], 0) := by
      decide +kernel
    obtain ⟨d, hd, hend⟩ := Option.map_eq_some_iff.mp hends
    obtain ⟨hpc, hqueued, hgeneration⟩ : d.pc = .gateway ∧
        (queued d).map (·.generation) = [0] ∧ d.generation = 0 := by
      simpa only [Prod.mk.injEq] using hend
    obtain ⟨c, hc, hzero⟩ : ∃ c ∈ queued d, c.generation = 0 := by
      have hmem : 0 ∈ (queued d).map (·.generation) := by simp [hqueued]
      simpa using hmem
    have hnext : d.step plainAead (.driver (.drained false)) =
        some (d.goto (.refillStart .slot .loop)) := by
      simp [MediaState.step, driverStep, hpc]
    have hlt := hrebuilds _ _ _ _ oneFrameQueued [] d _ _ hd hpc hnext rfl rfl rfl c hc
    omega

end DiscordVoice.Media
