import DiscordVoice.Session.Frames

namespace DiscordVoice.Session

open Schedule
open Voice (VoiceContext)

/-- What a command has of the voice session: nothing, the session itself, the session and a channel
whose driver has not started, or the way to the driver that has it. -/
inductive Custody
  | nothing
  | carried (voice : VoiceContext)
  | starting (channel : ℕ) (voice : VoiceContext)
  | driven (channel : ℕ) (voice : VoiceContext)
  deriving DecidableEq, Repr

/-- How the session passes between the slot, a command and a driver. -/
inductive Passes (slot : Option VoiceContext) (drivers : List DriverStatus) :
    Custody → Option VoiceContext → List DriverStatus → Custody → Prop
  | keep {c} : Passes slot drivers c slot drivers c
  | take {v} (h : slot = some v) : Passes slot drivers .nothing none drivers (.carried v)
  | giveBack {v} (h : slot = none) : Passes slot drivers (.carried v) (some v) drivers .nothing
  | install {v} :
      Passes slot drivers (.carried v) slot (drivers ++ [.waiting]) (.starting drivers.length v)
  | start {channel v} (h : drivers[channel]? = some .waiting) :
      Passes slot drivers (.starting channel v) slot (drivers.set channel .running) (.driven channel v)
  | read {channel v exit} (h : drivers[channel]? = some (.exited (some exit))) :
      Passes slot drivers (.driven channel v) slot drivers (.carried v)

/-- What a command with something of the session can rely on. -/
def Held (v : VoiceContext) (drivers : List DriverStatus) : Custody → Prop
  | .nothing => False
  | .carried w => w = v ∧ ∀ j : ℕ, drivers[j]? ≠ some .running
  | .starting channel w =>
    w = v ∧ (∀ j : ℕ, drivers[j]? ≠ some .running) ∧ drivers[channel]? = some .waiting
  | .driven channel w =>
    w = v ∧ (drivers[channel]? = some .running ∨
        ∃ exit, drivers[channel]? = some (.exited (some exit))) ∧
      ∀ j : ℕ, j ≠ channel → drivers[j]? ≠ some .running

/-- The session is in the slot, or one command has it or the way to it. -/
inductive Single (v : VoiceContext) (slot : Option VoiceContext) (drivers : List DriverStatus)
    (custodies : List Custody) : Prop
  | slot (hslot : slot = some v) (hnone : ∀ (j : ℕ) (c : Custody), custodies[j]? = some c → c = .nothing)
      (hidle : ∀ j : ℕ, drivers[j]? ≠ some .running)
  | held (i : ℕ) (c : Custody) (hslot : slot = none) (hi : custodies[i]? = some c)
      (hothers : ∀ (j : ℕ) (c' : Custody), j ≠ i → custodies[j]? = some c' → c' = .nothing)
      (hheld : Held v drivers c)

section Abstract

variable {v : VoiceContext} {slot slot' : Option VoiceContext} {drivers drivers' : List DriverStatus}
  {custodies : List Custody} {c c' : Custody} {i : ℕ}

theorem Held.pass (hslot : slot = none) (h : Held v drivers c)
    (hpass : Passes slot drivers c slot' drivers' c') :
    (slot' = none ∧ Held v drivers' c') ∨
      (slot' = some v ∧ c' = .nothing ∧ ∀ j : ℕ, drivers'[j]? ≠ some .running) := by
  cases hpass with
  | keep => exact .inl ⟨hslot, h⟩
  | take => exact h.elim
  | giveBack =>
    obtain ⟨rfl, hidle⟩ := h
    exact .inr ⟨rfl, rfl, hidle⟩
  | install =>
    obtain ⟨rfl, hidle⟩ := h
    refine .inl ⟨hslot, rfl, fun j ↦ ?_, List.getElem?_concat_length⟩
    by_cases hj : j < drivers.length
    · rw [List.getElem?_append_left hj]
      exact hidle j
    · rw [List.getElem?_append_right (by omega)]
      intro hrunning
      simpa using List.mem_of_getElem? hrunning
  | start hwaiting =>
    obtain ⟨rfl, hidle, -⟩ := h
    have hlt := (List.getElem?_eq_some_iff.mp hwaiting).1
    refine .inl ⟨hslot, rfl, .inl (List.getElem?_set_self hlt), fun j hj ↦ ?_⟩
    rw [List.getElem?_set_ne (Ne.symm hj)]
    exact hidle j
  | @read channel _ exit hexit =>
    obtain ⟨rfl, -, hothers⟩ := h
    refine .inl ⟨hslot, rfl, fun j ↦ ?_⟩
    by_cases hj : j = channel
    · rw [hj, hexit]
      simp
    · exact hothers j hj

theorem Single.pass (h : Single v slot drivers custodies) (hi : custodies[i]? = some c)
    (hpass : Passes slot drivers c slot' drivers' c') :
    Single v slot' drivers' (custodies.set i c') := by
  have hlt := (List.getElem?_eq_some_iff.mp hi).1
  have hget {j : ℕ} {d : Custody} (hj : j ≠ i) (hd : (custodies.set i c')[j]? = some d) :
      custodies[j]? = some d := by
    rwa [List.getElem?_set_ne (Ne.symm hj)] at hd
  have hself {d : Custody} (hd : (custodies.set i c')[i]? = some d) : d = c' := by
    rw [List.getElem?_set_self hlt] at hd
    exact (Option.some.inj hd).symm
  cases h with
  | slot hslot hnone hidle =>
    obtain rfl := hnone i c hi
    cases hpass with
    | keep =>
      refine .slot hslot (fun j d hd ↦ ?_) hidle
      by_cases hj : j = i
      · exact hself (hj ▸ hd)
      · exact hnone j d (hget hj hd)
    | take htaken =>
      obtain rfl := Option.some.inj (hslot.symm.trans htaken)
      exact .held i _ rfl (List.getElem?_set_self hlt) (fun j d hj hd ↦ hnone j d (hget hj hd))
        ⟨rfl, hidle⟩
  | held k d hslot hk hothers hheld =>
    by_cases hik : i = k
    · subst hik
      obtain rfl : d = c := Option.some.inj (hk.symm.trans hi)
      obtain ⟨hslot', hheld'⟩ | ⟨hslot', rfl, hidle⟩ := hheld.pass hslot hpass
      · exact .held i c' hslot' (List.getElem?_set_self hlt)
          (fun j e hj he ↦ hothers j e hj (hget hj he)) hheld'
      · refine .slot hslot' (fun j e he ↦ ?_) hidle
        by_cases hj : j = i
        · exact hself (hj ▸ he)
        · exact hothers j e hj (hget hj he)
    · obtain rfl := hothers i c hik hi
      cases hpass with
      | keep =>
        refine .held k d hslot ?_ (fun j e hj he ↦ ?_) hheld
        · rw [List.getElem?_set_ne hik, hk]
        · by_cases hji : j = i
          · exact hself (hji ▸ he)
          · exact hothers j e hj (hget hji he)
      | take htaken =>
        rw [hslot] at htaken
        cases htaken

theorem Single.join (h : Single v slot drivers custodies) :
    Single v slot drivers (custodies ++ [.nothing]) := by
  cases h with
  | slot hslot hnone hidle =>
    refine .slot hslot (fun j c hc ↦ ?_) hidle
    obtain hc | ⟨-, rfl⟩ := Pool.get_started hc
    · exact hnone j c hc
    · rfl
  | held i c hslot hi hothers hheld =>
    have hlt := (List.getElem?_eq_some_iff.mp hi).1
    refine .held i c hslot (by rw [List.getElem?_append_left hlt, hi]) (fun j d hj hd ↦ ?_) hheld
    obtain hd | ⟨-, rfl⟩ := Pool.get_started hd
    · exact hothers j d hj hd
    · rfl

theorem Single.drive (h : Single v slot drivers custodies) {channel : ℕ} {status : DriverStatus}
    (hrunning : drivers[channel]? = some .running)
    (hstatus : status = .running ∨ ∃ exit, status = .exited (some exit)) :
    Single v slot (drivers.set channel status) custodies := by
  have hlt := (List.getElem?_eq_some_iff.mp hrunning).1
  cases h with
  | slot hslot hnone hidle => exact absurd hrunning (hidle channel)
  | held i c hslot hi hothers hheld =>
    refine .held i c hslot hi hothers ?_
    cases c with
    | nothing => exact hheld
    | carried w => exact absurd hrunning (hheld.2 channel)
    | starting ch w => exact absurd hrunning (hheld.2.1 channel)
    | driven ch w =>
      obtain ⟨rfl, -, hidle⟩ := hheld
      obtain rfl : channel = ch := by
        by_contra hne
        exact hidle channel hne hrunning
      refine ⟨rfl, ?_, fun j hj ↦ ?_⟩
      · rw [List.getElem?_set_self hlt]
        obtain rfl | ⟨exit, rfl⟩ := hstatus
        · exact .inl rfl
        · exact .inr ⟨exit, rfl⟩
      · rw [List.getElem?_set_ne (Ne.symm hj)]
        exact hidle j hj

end Abstract

def Ending.custody (e : Ending) : Custody := e.session.elim .nothing fun session ↦ .carried session.voiceContext

def Pc.custody : Pc → Custody
  | .sendMedia _ next | .deliver _ _ next => next.custody
  | .playSpeaking _ _ session | .playSpoken _ _ session | .playGiveBack _ session _
  | .playGeneration _ _ session => .carried session.voiceContext
  | .pipeInstall p => .carried p.session.voiceContext
  | .pipeDepth p | .pipePlaying p | .pipeSpawn p => .starting p.channel p.session.voiceContext
  | .pipeLoop p | .pipeSelect p | .pipeEmit p _ | .pipeProgress p | .pipeClear p false _ | .pipeStop p _
  | .pipeAwait p _ => .driven p.channel p.session.voiceContext
  | .pipeClear _ true e | .pipeInterrupted _ e | .pipeRestoreGeneration _ e
  | .pipeRestoreSlot _ e => e.custody
  | .pipeBoundary _ _ session | .pipePutBack _ _ session => .carried session.voiceContext
  | _ => .nothing

/-- Where `Play`, `Pause`, `Resume` and `Stop` can stand, and what holds of their locals while no
other command moves the generation. -/
def Pc.plain (generation : ℕ) : Pc → Bool
  | .sendMedia _ next | .deliver _ _ next => next.plain generation
  | .finished _ | .pauseEnter | .pauseWrite | .resumeEnter | .resumeWrite | .stopEnter | .stopOwner
  | .stopGeneration _ | .stopWait _ _ | .stopInterrupt _ _ | .stopSlot _ | .stopBoundary | .stopWrite
  | .playBegin _ => true
  | .playHint a | .playResolve a _ | .playWaitEpoch a | .playWaitSlot a | .playPrepare a
  | .playPrepared a _ | .playBuffering a _ | .playFill a _ | .playFilled a _ | .playTake a _
  | .playSpeaking a _ _ | .playSpoken a _ _ | .playGiveBack a _ _ | .playGeneration a _ _ =>
    a.rollover.isNone
  | .pipeInstall p | .pipeDepth p | .pipePlaying p | .pipeSpawn p | .pipeLoop p | .pipeSelect p
  | .pipeEmit p _ | .pipeProgress p | .pipeClear p false _ | .pipeStop p _ | .pipeAwait p _ =>
    p.attempt.rollover.isNone && p.generation = generation
  | .pipeClear p true e | .pipeInterrupted p e | .pipeRestoreGeneration p e | .pipeRestoreSlot p e =>
    p.attempt.rollover.isNone && p.generation = generation && e.session.isSome
  | .pipeBoundary p e _ | .pipePutBack p e _ =>
    p.attempt.rollover.isNone && p.generation = generation && e.restore
  | .pipeReturned p _ | .pipeEnded p _ => p.attempt.rollover.isNone
  | _ => false

def Shared.slotContext (sh : Shared) : Option VoiceContext := sh.voice.map (·.voiceContext)

def Shared.drivers (sh : Shared) : List DriverStatus := sh.channels.map (·.status)

section Concrete

variable {sh sh' : Shared} {pc pc' : Pc} {spawned : List Pc} {v : VoiceContext}

theorem playReturns_plain {a : Attempt} {outcome : Outcome} (h : a.rollover.isNone = true) :
    playReturns a outcome = .finished outcome := by
  rw [Option.isNone_iff_eq_none] at h
  simp [playReturns, h]

theorem drivers_updateChannel {channel : ℕ} {f : Channel → Channel}
    (hf : ∀ c, (f c).status = c.status) : (sh.updateChannel channel f).drivers = sh.drivers := by
  apply List.ext_getElem?
  intro j
  simp only [Shared.drivers, Shared.updateChannel, List.getElem?_map, List.getElem?_modify]
  cases sh.channels[j]? with
  | none => rfl
  | some c =>
    by_cases hj : channel = j
    · simp [hj, hf]
    · simp [hj]

theorem drivers_send {channel : ℕ} {command : Media.MediaCommand}
    (h : sh.send channel command = some sh') :
    sh'.slotContext = sh.slotContext ∧ sh'.drivers = sh.drivers := by
  simp only [Shared.send, Option.bind_eq_bind, Option.bind_eq_some_iff] at h
  obtain ⟨c, -, h⟩ := h
  have hpush : (sh.updateChannel channel
      fun c ↦ { c with mailbox := c.mailbox ++ [command] }).drivers = sh.drivers :=
    drivers_updateChannel fun _ ↦ rfl
  split at h
  · cases h
    exact ⟨rfl, rfl⟩
  · split at h
    · cases h
      exact ⟨rfl, hpush⟩
    · cases h

theorem drivers_trySend (channel : ℕ) (command : Media.MediaCommand) :
    (sh.trySend channel command).slotContext = sh.slotContext ∧
      (sh.trySend channel command).drivers = sh.drivers := by
  cases h : sh.send channel command with
  | none => simp [Shared.trySend, h]
  | some sh' => simpa [Shared.trySend, h] using drivers_send h

theorem drivers_spawn {channel : ℕ} (h : sh.drivers[channel]? = some .waiting) :
    (sh.updateChannel channel Channel.spawn).drivers = sh.drivers.set channel .running := by
  apply List.ext_getElem?
  intro j
  simp only [Shared.drivers, Shared.updateChannel, List.getElem?_map, List.getElem?_modify,
    List.getElem?_set, List.length_map] at h ⊢
  by_cases hj : channel = j
  · subst hj
    obtain ⟨c, hc, hstatus⟩ := Option.map_eq_some_iff.mp h
    obtain ⟨hlt, rfl⟩ := List.getElem?_eq_some_iff.mp hc
    simp [hlt, Channel.spawn, hstatus]
  · simp [hj]

theorem drivers_exitOf {channel : ℕ} {exit : Option DriverExit} (h : sh.exitOf channel = some exit) :
    sh.drivers[channel]? = some (.exited exit) := by
  simp only [Shared.exitOf, Option.bind_eq_bind, Option.bind_eq_some_iff] at h
  obtain ⟨c, hc, h⟩ := h
  split at h
  · rename_i e hstatus
    cases h
    simp [Shared.drivers, hc, hstatus]
  · cases h

theorem result_of_driven {channel : ℕ} {w : VoiceContext} {exit : Option DriverExit}
    (hheld : Held v sh.drivers (.driven channel w)) (hexit : sh.exitOf channel = some exit) :
    ∃ result, exit = some result ∧ sh.drivers[channel]? = some (.exited (some result)) := by
  have hdriver := drivers_exitOf hexit
  obtain ⟨-, hrunning | ⟨result, hresult⟩, -⟩ := hheld
  · cases hdriver.symm.trans hrunning
  · cases hdriver.symm.trans hresult
    exact ⟨result, rfl, hresult⟩

theorem slotContext_emit (kind : PlaybackEventKind) (a : Attempt) (p : Prepared) :
    (emitPlaybackState sh kind a p).slotContext = sh.slotContext ∧
      (emitPlaybackState sh kind a p).drivers = sh.drivers := by
  unfold emitPlaybackState
  split
  · exact ⟨rfl, rfl⟩
  · split <;> exact ⟨rfl, rfl⟩

theorem slotContext_clear (channel : ℕ) :
    (sh.clearMediaCommandsIfCurrent channel).slotContext = sh.slotContext ∧
      (sh.clearMediaCommandsIfCurrent channel).drivers = sh.drivers := by
  unfold Shared.clearMediaCommandsIfCurrent
  split <;> exact ⟨rfl, rfl⟩

theorem slotContext_after (isConnected mediaStarted : Bool) :
    ((sh.voice.map fun session ↦ session.after isConnected mediaStarted).map (·.voiceContext)) =
      sh.slotContext := by
  rw [Option.map_map]
  rfl

theorem passes_of_eq (hslot : sh'.slotContext = sh.slotContext) (hdrivers : sh'.drivers = sh.drivers)
    (hcustody : pc'.custody = pc.custody) :
    Passes sh.slotContext sh.drivers pc.custody sh'.slotContext sh'.drivers pc'.custody := by
  rw [hslot, hdrivers, hcustody]
  exact .keep

/-- Every access of these commands passes the session on as the abstract rules say. -/
theorem Access.passes (h : Access sh pc sh' pc' spawned)
    (hplain : pc.plain sh.voiceTransportGeneration = true)
    (hheld : pc.custody = .nothing ∨ sh.slotContext = none ∧ Held v sh.drivers pc.custody) :
    spawned = [] ∧ pc'.plain sh.voiceTransportGeneration = true ∧
      Passes sh.slotContext sh.drivers pc.custody sh'.slotContext sh'.drivers pc'.custody := by
  cases h
  case deliver hsend => exact ⟨rfl, hplain, passes_of_eq (drivers_send hsend).1 (drivers_send hsend).2 rfl⟩
  case buffering => exact ⟨rfl, hplain, passes_of_eq (slotContext_emit _ _ _).1 (slotContext_emit _ _ _).2 rfl⟩
  case playing => exact ⟨rfl, hplain, passes_of_eq (slotContext_emit _ _ _).1 (slotContext_emit _ _ _).2 rfl⟩
  case emitted => exact ⟨rfl, hplain, passes_of_eq (slotContext_emit _ _ _).1 (slotContext_emit _ _ _).2 rfl⟩
  case taken session hepoch hv =>
    refine ⟨rfl, hplain, ?_⟩
    exact Passes.take (by rw [Shared.slotContext, hv]; rfl)
  case givenBack a session outcome =>
    obtain hnothing | ⟨hslot, -⟩ := hheld
    · cases hnothing
    have hv : sh.voice = none := Option.map_eq_none_iff.mp hslot
    rw [playReturns_plain hplain]
    refine ⟨rfl, rfl, ?_⟩
    rw [show ({ sh with voice := some (sh.voice.getD session) } : Shared).slotContext =
      some session.voiceContext by rw [hv]; rfl]
    exact Passes.giveBack hslot
  case playGeneration a p session =>
    refine ⟨rfl, ?_, .keep⟩
    simpa [Pc.plain] using hplain
  case installed p =>
    refine ⟨rfl, hplain, ?_⟩
    rw [show (sh.installMediaCommands).drivers = sh.drivers ++ [.waiting] by
      simp [Shared.drivers, Shared.installMediaCommands]]
    rw [show sh.channels.length = sh.drivers.length by simp [Shared.drivers]]
    exact Passes.install
  case driverSpawned p =>
    obtain hnothing | ⟨hslot, -, -, hwaiting⟩ := hheld
    · cases hnothing
    refine ⟨rfl, hplain, ?_⟩
    rw [drivers_spawn hwaiting]
    exact Passes.start hwaiting
  case loopStale =>
    exact ⟨rfl, hplain, passes_of_eq (drivers_trySend _ _).1 (drivers_trySend _ _).2 rfl⟩
  case selectAgain p q hq | selectProgress p q hq | selectEmit p q hq =>
    obtain ⟨hattempt, hgeneration, hsession, hchannel⟩ := hq
    refine ⟨rfl, ?_, passes_of_eq rfl rfl ?_⟩
    · simpa only [Pc.plain, hattempt, hgeneration] using hplain
    · simp only [Pc.custody, hsession, hchannel]
  case selectResult p exit hexit =>
    obtain hnothing | ⟨-, hheld⟩ := hheld
    · cases hnothing
    obtain ⟨result, rfl, hresult⟩ := result_of_driven hheld hexit
    refine ⟨rfl, ?_, Passes.read hresult⟩
    simpa [Pc.plain, Ending.ofExit] using hplain
  case driverAwaited p e exit hexit =>
    obtain hnothing | ⟨-, hheld⟩ := hheld
    · cases hnothing
    obtain ⟨result, rfl, hresult⟩ := result_of_driven hheld hexit
    refine ⟨rfl, ?_, Passes.read hresult⟩
    simpa [Pc.plain, Ending.ofExit] using hplain
  case clearedDone p e =>
    exact ⟨rfl, hplain, passes_of_eq (slotContext_clear _).1 (slotContext_clear _).2 rfl⟩
  case clearedOpen p e =>
    exact ⟨rfl, hplain, passes_of_eq (slotContext_clear _).1 (slotContext_clear _).2 rfl⟩
  case driverStopped hsend =>
    exact ⟨rfl, hplain, passes_of_eq (drivers_send hsend).1 (drivers_send hsend).2 rfl⟩
  case endingLost p e hlost => simp [Pc.plain, hlost] at hplain
  case restoreStale p e hstale =>
    simp only [Pc.plain, Bool.and_eq_true, decide_eq_true_eq] at hplain
    exact absurd hplain.1.2.symm hstale
  case restoreDecided p e =>
    simp only [Pc.plain, Bool.and_eq_true] at hplain
    obtain ⟨session, hsession⟩ := Option.isSome_iff_exists.mp hplain.2
    obtain hnothing | ⟨hslot, -⟩ := hheld
    · simp [Pc.custody, Ending.custody, hsession] at hnothing
    have hv : sh.voice = none := Option.map_eq_none_iff.mp hslot
    refine ⟨rfl, ?_, passes_of_eq rfl rfl ?_⟩
    · simpa [pipeCleanUp, hsession, Pc.plain, hv] using hplain.1
    · simp [pipeCleanUp, hsession, Pc.custody, Ending.custody]
  case boundary p e session cleanup isConnected mediaStarted =>
    have hrestore : e.restore = true := by
      simp only [Pc.plain, Bool.and_eq_true] at hplain
      exact hplain.2
    refine ⟨rfl, ?_, passes_of_eq rfl rfl ?_⟩
    · simpa [pipeBoundaryDone, hrestore, Pc.plain] using hplain
    · simp [pipeBoundaryDone, hrestore, Pc.custody, SessionHandle.after]
  case putBack p e session =>
    obtain hnothing | ⟨hslot, -⟩ := hheld
    · cases hnothing
    simp only [Pc.plain, Bool.and_eq_true] at hplain
    exact ⟨rfl, hplain.1.1, Passes.giveBack hslot⟩
  case stopReturned active generation =>
    cases active <;> exact ⟨rfl, rfl, .keep⟩
  case stopInterrupt active generation =>
    cases active <;> exact ⟨rfl, rfl, .keep⟩
  case stopBoundary isConnected mediaStarted =>
    exact ⟨rfl, rfl, passes_of_eq (slotContext_after isConnected mediaStarted) rfl rfl⟩
  case stopBoundaryFailed error isConnected mediaStarted =>
    exact ⟨rfl, rfl, passes_of_eq (slotContext_after isConnected mediaStarted) rfl rfl⟩
  all_goals first
    | (cases hplain; done)
    | exact ⟨rfl, hplain, passes_of_eq rfl rfl rfl⟩
    | exact ⟨rfl, rfl, passes_of_eq rfl rfl rfl⟩
    | exact ⟨rfl, by rw [playReturns_plain hplain]; rfl, passes_of_eq rfl rfl (by rw [playReturns_plain hplain]; rfl)⟩

theorem kind_of_plain {generation : ℕ} (h : pc.plain generation = true) : pc.kind ≠ .generation := by
  cases pc <;> first | (cases h; done) | nofun

theorem status_of_exit {c c' : Channel} {exit : Option DriverExit} (h : c.exit exit = some c') :
    c'.status = .exited exit := by
  unfold Channel.exit at h
  split at h
  · split_ifs at h
    cases h
    rfl
  · cases h
    rfl
  · cases h

theorem status_of_take {c c' : Channel} (h : c.take = some c') : c'.status = .running := by
  unfold Channel.take at h
  split at h
  · cases h
    assumption
  · cases h

theorem status_of_apply {c c' : Channel} (h : c.apply = some c') : c'.status = .running := by
  unfold Channel.apply at h
  split at h
  · cases h
    assumption
  · cases h
    assumption
  · cases h

theorem drivers_set {channel : ℕ} {c : Channel} (c' : Channel) (hc : sh.channels[channel]? = some c)
    (hrunning : c.status = .running) :
    sh.drivers[channel]? = some .running ∧
      ({ sh with channels := sh.channels.set channel c' } : Shared).drivers =
        sh.drivers.set channel c'.status := by
  simp [Shared.drivers, hc, hrunning, List.map_set]

/-- Drivers run on or return the session; the one thing left out is one that is gone without a
result. -/
def DriverMove.returns : DriverMove → Bool
  | .exit _ none => false
  | _ => true

theorem driverMove_drivers {e : DriverMove} (h : driverMove sh e = some sh')
    (hreturns : e.returns = true) :
    ∃ channel status, sh.drivers[channel]? = some .running ∧
      (status = .running ∨ ∃ exit, status = .exited (some exit)) ∧
      sh'.drivers = sh.drivers.set channel status ∧ sh'.slotContext = sh.slotContext := by
  cases e with
  | take channel =>
    simp only [driverMove, Option.bind_eq_bind, Option.bind_eq_some_iff] at h
    obtain ⟨c, hc, c', hc', h⟩ := h
    cases h
    obtain ⟨hrunning, hset⟩ := drivers_set c' hc (running_of_take hc')
    exact ⟨channel, c'.status, hrunning, .inl (status_of_take hc'), hset, rfl⟩
  | apply channel =>
    simp only [driverMove, Option.bind_eq_bind, Option.bind_eq_some_iff] at h
    obtain ⟨c, hc, c', hc', h⟩ := h
    cases h
    obtain ⟨hrunning, hset⟩ := drivers_set c' hc (running_of_apply hc')
    exact ⟨channel, c'.status, hrunning, .inl (status_of_apply hc'), hset, rfl⟩
  | exit channel exit =>
    cases exit with
    | none => cases hreturns
    | some exit =>
      simp only [driverMove, Option.bind_eq_bind, Option.bind_eq_some_iff] at h
      obtain ⟨c, hc, c', hc', h⟩ := h
      cases h
      obtain ⟨hrunning, hset⟩ := drivers_set c' hc (running_of_exit hc')
      exact ⟨channel, c'.status, hrunning, .inr ⟨exit, status_of_exit hc'⟩, hset, rfl⟩

end Concrete

/-- Only `Play`, `Pause`, `Resume` and `Stop` are started, and no driver is gone without a result. -/
def conserving : Move → Bool
  | .start (.play _) | .start .pause | .start .resume | .start .stop => true
  | .start _ => false
  | .task _ _ => true
  | .env e => e.returns

/-- The session in one place, with the commands where they can be. -/
structure Kept (v : VoiceContext) (rt : Runtime) : Prop where
  single : Single v rt.shared.slotContext rt.shared.drivers (rt.tasks.map (·.pc.custody))
  plain : ∀ t ∈ rt.tasks, t.pc.plain rt.shared.voiceTransportGeneration = true

theorem start_plain {command : Command} (generation : ℕ) (h : conserving (.start command) = true) :
    (handleCommand command).custody = .nothing ∧ (handleCommand command).plain generation = true := by
  cases command <;> first | exact ⟨rfl, rfl⟩ | cases h

theorem Single.custody_of {v : VoiceContext} {slot : Option VoiceContext} {drivers : List DriverStatus}
    {custodies : List Custody} (h : Single v slot drivers custodies) {i : ℕ} {c : Custody}
    (hi : custodies[i]? = some c) : c = .nothing ∨ slot = none ∧ Held v drivers c := by
  cases h with
  | slot hslot hnone hidle => exact .inl (hnone i c hi)
  | held k d hslot hk hothers hheld =>
    by_cases hik : i = k
    · subst hik
      obtain rfl := Option.some.inj (hk.symm.trans hi)
      exact .inr ⟨hslot, hheld⟩
    · exact .inl (hothers i c hik hi)

theorem Kept.step {v : VoiceContext} {rt rt' : Runtime} {move : Move} (h : Kept v rt)
    (hmove : conserving move = true) (hstep : rt.step move = some rt') : Kept v rt' := by
  obtain ⟨command, rfl, rfl⟩ | ⟨i, answer, t, sh', pc, spawned, rfl, ht, haccess, rfl⟩ |
    ⟨e, sh', rfl, hdriver, rfl⟩ := step_cases hstep
  · obtain ⟨hcustody, hplain⟩ := start_plain rt.shared.voiceTransportGeneration hmove
    constructor
    · simpa [Task.start, hcustody] using h.single.join
    · intro u hu
      rcases List.mem_append.mp hu with hu | hu
      · exact h.plain u hu
      · obtain rfl := List.mem_singleton.mp hu
        exact hplain
  · have hi : (rt.tasks.map (·.pc.custody))[i]? = some t.pc.custody := by
      rw [List.getElem?_map, ht]
      rfl
    have hplain := h.plain t (List.mem_of_getElem? ht)
    obtain ⟨rfl, hplain', hpass⟩ := haccess.passes hplain (h.single.custody_of hi)
    have hgeneration : sh'.voiceTransportGeneration = rt.shared.voiceTransportGeneration := by
      rw [haccess.frame.generation, if_neg (kind_of_plain hplain), Nat.add_zero]
    constructor
    · have hcustodies : ((rt.tasks.set i (t.after rt.shared sh' pc)).map (·.pc.custody)) =
          (rt.tasks.map (·.pc.custody)).set i pc.custody := List.map_set
      simp only [List.map_nil, List.append_nil, hcustodies]
      exact h.single.pass hi hpass
    · intro u hu
      simp only [List.map_nil, List.append_nil] at hu
      change u.pc.plain sh'.voiceTransportGeneration = true
      rw [hgeneration]
      rcases List.mem_or_eq_of_mem_set hu with hu | rfl
      · exact h.plain u hu
      · exact hplain'
  · obtain ⟨channel, status, hrunning, hstatus, hdrivers, hslot⟩ := driverMove_drivers hdriver hmove
    constructor
    · rw [hdrivers, hslot]
      exact h.single.drive hrunning hstatus
    · have hgeneration := (frame_driverMove hdriver).generation
      intro u hu
      simpa [hgeneration] using h.plain u hu

/-- Where the session can be: in the slot, with a command that has taken it or read it back from a
driver, with a live driver, or in the result a driver left. -/
inductive Place
  | slot
  | command (task : ℕ)
  | driver (channel : ℕ)
  | unreadExit (channel : ℕ)
  deriving DecidableEq, Repr

def Custody.carries : Custody → Option VoiceContext
  | .carried v | .starting _ v => some v
  | _ => none

def Runtime.has (rt : Runtime) : Place → Prop
  | .slot => rt.shared.voice.isSome = true
  | .command i => ∃ t v, rt.tasks[i]? = some t ∧ t.pc.custody.carries = some v
  | .driver channel => rt.shared.drivers[channel]? = some .running
  | .unreadExit channel => (∃ exit, rt.shared.exitOf channel = some (some exit)) ∧
      ∃ (i : ℕ) (t : Task), ∃ v, rt.tasks[i]? = some t ∧ t.pc.custody = .driven channel v

theorem finished_of_atRest {rt : Runtime} (hrest : rt.atRest = true) {t : Task} (ht : t ∈ rt.tasks) :
    ∃ outcome, t.pc = .finished outcome := by
  have hall := List.all_eq_true.mp hrest t ht
  unfold Task.inFlight at hall
  split at hall
  · exact ⟨_, ‹_›⟩
  · cases hall

section Places

variable {v : VoiceContext} {rt : Runtime}

theorem exitOf_drivers {sh : Shared} {channel : ℕ} {exit : Option DriverExit}
    (h : sh.drivers[channel]? = some (.exited exit)) : sh.exitOf channel = some exit := by
  simp only [Shared.drivers, List.getElem?_map, Option.map_eq_some_iff] at h
  obtain ⟨c, hc, hstatus⟩ := h
  simp [Shared.exitOf, hc, hstatus]

theorem Kept.one_place (h : Kept v rt) : ∃! place, rt.has place := by
  have hget {i : ℕ} {t : Task} (ht : rt.tasks[i]? = some t) :
      (rt.tasks.map (·.pc.custody))[i]? = some t.pc.custody := by
    rw [List.getElem?_map, ht]
    rfl
  cases h.single with
  | slot hslot hnone hidle =>
    obtain ⟨session, hsession, -⟩ := Option.map_eq_some_iff.mp hslot
    refine ⟨.slot, ?_, fun place hplace ↦ ?_⟩
    · simp [Runtime.has, hsession]
    · cases place with
      | slot => rfl
      | command i =>
        obtain ⟨t, w, ht, hcarries⟩ := hplace
        simp [hnone i _ (hget ht), Custody.carries] at hcarries
      | driver channel => exact absurd hplace (hidle channel)
      | unreadExit channel =>
        obtain ⟨-, i, t, w, ht, hdriven⟩ := hplace
        simp [hnone i _ (hget ht)] at hdriven
  | held i c hslot hi hothers hheld =>
    have hvoice : rt.shared.voice = none := Option.map_eq_none_iff.mp hslot
    rw [List.getElem?_map, Option.map_eq_some_iff] at hi
    obtain ⟨t, ht, rfl⟩ := hi
    have hnoslot : ¬ rt.has .slot := by simp [Runtime.has, hvoice]
    have hcarrier {j : ℕ} {u : Task} {w : VoiceContext} (hu : rt.tasks[j]? = some u)
        (hw : u.pc.custody.carries = some w) : j = i := by
      by_contra hj
      simp [hothers j _ hj (hget hu), Custody.carries] at hw
    have hdriver {j channel : ℕ} {u : Task} {w : VoiceContext} (hu : rt.tasks[j]? = some u)
        (hw : u.pc.custody = .driven channel w) : j = i := by
      by_contra hj
      simp [hothers j _ hj (hget hu)] at hw
    cases hc : t.pc.custody with
    | nothing =>
      rw [hc] at hheld
      exact hheld.elim
    | carried w | starting _ w =>
      rw [hc] at hheld
      have hidle : ∀ j : ℕ, rt.shared.drivers[j]? ≠ some .running := by
        first | exact hheld.2 | exact hheld.2.1
      refine ⟨.command i, ⟨t, w, ht, by rw [hc]; rfl⟩, fun place hplace ↦ ?_⟩
      cases place with
      | slot => exact absurd hplace hnoslot
      | command j =>
        obtain ⟨u, w', hu, hcarries⟩ := hplace
        rw [hcarrier hu hcarries]
      | driver channel => exact absurd hplace (hidle channel)
      | unreadExit channel =>
        obtain ⟨-, j, u, w', hu, hdriven⟩ := hplace
        obtain rfl := hdriver hu hdriven
        obtain rfl := Option.some.inj (ht.symm.trans hu)
        simp [hc] at hdriven
    | driven channel w =>
      rw [hc] at hheld
      obtain ⟨rfl, hstatus, hidle⟩ := hheld
      have hnocommand (j : ℕ) : ¬ rt.has (.command j) := by
        rintro ⟨u, w', hu, hcarries⟩
        obtain rfl := hcarrier hu hcarries
        obtain rfl := Option.some.inj (ht.symm.trans hu)
        simp [hc, Custody.carries] at hcarries
      have hchannel {ch : ℕ} (hunread : rt.has (.unreadExit ch)) : ch = channel := by
        obtain ⟨-, j, u, w', hu, hdriven⟩ := hunread
        obtain rfl := hdriver hu hdriven
        obtain rfl := Option.some.inj (ht.symm.trans hu)
        rw [hc] at hdriven
        cases hdriven
        rfl
      obtain hrunning | ⟨exit, hexit⟩ := hstatus
      · refine ⟨.driver channel, hrunning, fun place hplace ↦ ?_⟩
        cases place with
        | slot => exact absurd hplace hnoslot
        | command j => exact absurd hplace (hnocommand j)
        | driver ch =>
          by_contra hne
          exact hidle ch (fun h ↦ hne (by rw [h])) hplace
        | unreadExit ch =>
          obtain rfl := hchannel hplace
          obtain ⟨⟨exit, hexit⟩, -⟩ := hplace
          cases (drivers_exitOf hexit).symm.trans hrunning
      · refine ⟨.unreadExit channel, ⟨⟨exit, exitOf_drivers hexit⟩, i, t, w, ht, hc⟩,
          fun place hplace ↦ ?_⟩
        cases place with
        | slot => exact absurd hplace hnoslot
        | command j => exact absurd hplace (hnocommand j)
        | driver ch =>
          by_cases hch : ch = channel
          · subst hch
            cases hexit.symm.trans hplace
          · exact absurd hplace (hidle ch hch)
        | unreadExit ch => rw [hchannel hplace]

theorem Kept.in_slot_of_atRest (h : Kept v rt) (hrest : rt.atRest = true) : rt.has .slot := by
  cases h.single with
  | slot hslot hnone hidle =>
    obtain ⟨session, hsession, -⟩ := Option.map_eq_some_iff.mp hslot
    simp [Runtime.has, hsession]
  | held i c hslot hi hothers hheld =>
    rw [List.getElem?_map, Option.map_eq_some_iff] at hi
    obtain ⟨t, ht, rfl⟩ := hi
    obtain ⟨outcome, hpc⟩ := finished_of_atRest hrest (List.mem_of_getElem? ht)
    rw [hpc] at hheld
    exact hheld.elim

theorem Kept.same_session (h : Kept v rt) :
    (∀ session, rt.shared.voice = some session → session.voiceContext = v) ∧
      ∀ t ∈ rt.tasks, ∀ w, t.pc.custody.carries = some w → w = v := by
  constructor
  · intro session hsession
    cases h.single with
    | slot hslot hnone hidle =>
      rw [Shared.slotContext, hsession] at hslot
      exact Option.some.inj hslot
    | held i c hslot hi hothers hheld =>
      rw [Shared.slotContext, hsession] at hslot
      cases hslot
  · intro t ht w hw
    obtain ⟨i, hi⟩ := List.mem_iff_getElem?.mp ht
    have hcustody := h.single.custody_of (i := i) (c := t.pc.custody) (by rw [List.getElem?_map, hi]; rfl)
    obtain hnothing | ⟨-, hheld⟩ := hcustody
    · simp [hnothing, Custody.carries] at hw
    · cases hc : t.pc.custody with
      | nothing | driven => simp [hc, Custody.carries] at hw
      | carried | starting =>
        rw [hc] at hheld hw
        cases hw
        exact hheld.1

end Places

theorem kept_of_slot {session : SessionHandle} {rt : Runtime} (hrest : rt.atRest = true)
    (hslot : rt.shared.voice = some session)
    (hidle : ∀ c ∈ rt.shared.channels, c.status ≠ .running) : Kept session.voiceContext rt := by
  constructor
  · refine .slot (by rw [Shared.slotContext, hslot]; rfl) (fun j c hc ↦ ?_) fun j hj ↦ ?_
    · rw [List.getElem?_map, Option.map_eq_some_iff] at hc
      obtain ⟨t, ht, rfl⟩ := hc
      obtain ⟨outcome, hpc⟩ := finished_of_atRest hrest (List.mem_of_getElem? ht)
      rw [hpc]
      rfl
    · simp only [Shared.drivers, List.getElem?_map, Option.map_eq_some_iff] at hj
      obtain ⟨c, hc, hstatus⟩ := hj
      exact hidle c (List.mem_of_getElem? hc) hstatus
  · intro t ht
    obtain ⟨outcome, hpc⟩ := finished_of_atRest hrest ht
    rw [hpc]
    rfl

/-- From a session in the slot, whatever `Play`, `Pause`, `Resume` and `Stop` do to each other, the
session is in one place at every moment, and back in the slot when all of them have returned. -/
theorem session_conserved {session : SessionHandle} {rt₀ rt : Runtime} {moves : List Move}
    (hrest : rt₀.atRest = true) (hslot : rt₀.shared.voice = some session)
    (hidle : ∀ c ∈ rt₀.shared.channels, c.status ≠ .running)
    (hmoves : ∀ move ∈ moves, conserving move = true)
    (h : exec Runtime.step rt₀ moves = some rt) :
    (∃! place, rt.has place) ∧
    ((∀ session', rt.shared.voice = some session' → session'.voiceContext = session.voiceContext) ∧
      ∀ t ∈ rt.tasks, ∀ v, t.pc.custody.carries = some v → v = session.voiceContext) ∧
    (rt.atRest = true → rt.has .slot) := by
  have hkept : Kept session.voiceContext rt :=
    exec_induction (fun _ _ _ hkept hmove hstep ↦ Kept.step hkept hmove hstep)
      (kept_of_slot hrest hslot hidle) (throughout_of_forall hmoves rt₀) h
  exact ⟨hkept.one_place, hkept.same_session, hkept.in_slot_of_atRest⟩

def lobbySession : SessionHandle := ⟨lobby, true, false, false, false⟩

/-- A runtime whose `JoinVoice` has returned. -/
def inLobby : Runtime where
  shared := {
    hasPlayback := true
    snapshot := ({} : Snapshot).joined lobbySession
    voice := some lobbySession }
  tasks := [⟨some (.joinVoice lobby), .finished .ok, {}, {}, true⟩]

/-- A `Stop` that finds a driver running, and the pipeline that returns the session for it. -/
def playAndStop : List Move :=
  playVideo ++ .start .stop :: runs 2 5 ++
    [.env (.take 0), .env (.exit 0 (some ⟨false, none, true, true⟩)), .task 1 .go, .task 1 .driverResult] ++
    runs 1 4 ++ [.task 1 (.session true false)] ++ runs 1 2 ++ runs 2 3 ++
    [.task 2 (.session true false)] ++ runs 2 1

theorem session_conserved_when_stopped :
    ∃ rt, exec Runtime.step inLobby playAndStop = some rt ∧ rt.atRest = true ∧
      (∃! place, rt.has place) ∧ rt.has .slot := by
  have hends : (exec Runtime.step inLobby playAndStop).map Runtime.atRest = some true := by
    decide +kernel
  obtain ⟨rt, hrt, hrest⟩ := Option.map_eq_some_iff.mp hends
  have hmoves : ∀ move ∈ playAndStop, conserving move = true := by decide +kernel
  have hslot : inLobby.shared.voice = some lobbySession := rfl
  obtain ⟨hplace, -, hback⟩ := session_conserved rfl hslot (by decide) hmoves hrt
  exact ⟨rt, hrt, hrest, hplace, hback hrest⟩

end DiscordVoice.Session
