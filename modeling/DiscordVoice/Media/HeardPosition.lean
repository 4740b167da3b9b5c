import DiscordVoice.Media.NaturalEnd

namespace DiscordVoice.Media

open Voice Playback MediaState Schedule DeadlineSender

/-- The samples the consumer counts for a record. -/
def DeadlineSendRecord.heardSamples (r : DeadlineSendRecord) : ℕ :=
  if r.mediaFrame.isSome then r.durationSamples.toNat else 0

def heardInRecords (records : List DeadlineSendRecord) : ℕ :=
  (records.map DeadlineSendRecord.heardSamples).sum

def heardInMetrics (metrics : List PlaybackPipelineMetric) : ℕ :=
  (metrics.map fun m ↦ match m with
    | .senderSent r => r.heardSamples
    | .other => 0).sum

def PreparedPlayoutCommand.trackSamples (c : PreparedPlayoutCommand) : ℕ :=
  if c.kind = .track then c.packet.durationSamples.toNat else 0

def Wire.trackSamples (w : Wire) : ℕ := (w.sent.map PreparedPlayoutCommand.trackSamples).sum

theorem Wire.trackSamples_eq (w : Wire) :
    w.trackSamples =
      ((w.sent.filter (·.kind = .track)).map (·.packet.durationSamples.toNat)).sum := by
  unfold Wire.trackSamples
  induction w.sent with
  | nil => rfl
  | cons c sent ih =>
    rw [List.map_cons, List.sum_cons, ih]
    by_cases hkind : c.kind = .track <;> simp [PreparedPlayoutCommand.trackSamples, hkind]

/-- What the driver still has to hear of from its sender. -/
def DeadlineSender.unreported (d : DeadlineSender) : ℕ :=
  heardInRecords d.sendRecords + (d.onWire.map PreparedPlayoutCommand.trackSamples).sum

/-- Only packets of the track name a media frame. -/
def PreparedPlayoutCommand.Labelled (c : PreparedPlayoutCommand) : Prop :=
  c.mediaFrame.isSome = true ↔ c.kind = .track

theorem heardSamples_sendRecord {c : PreparedPlayoutCommand} (h : c.Labelled) :
    c.sendRecord.heardSamples = c.trackSamples := by
  unfold PreparedPlayoutCommand.Labelled at h
  simp only [DeadlineSendRecord.heardSamples, PreparedPlayoutCommand.sendRecord,
    PreparedPlayoutCommand.trackSamples]
  by_cases hkind : c.kind = .track <;> simp_all

@[simp] theorem heardInRecords_append (a b : List DeadlineSendRecord) :
    heardInRecords (a ++ b) = heardInRecords a + heardInRecords b := by
  simp [heardInRecords]

@[simp] theorem heardInRecords_cons (r : DeadlineSendRecord) (records : List DeadlineSendRecord) :
    heardInRecords (r :: records) = r.heardSamples + heardInRecords records := by
  simp [heardInRecords]

@[simp] theorem heardInRecords_nil : heardInRecords [] = 0 := rfl

@[simp] theorem heardInMetrics_append (a b : List PlaybackPipelineMetric) :
    heardInMetrics (a ++ b) = heardInMetrics a + heardInMetrics b := by
  simp [heardInMetrics]

@[simp] theorem heardInMetrics_cons (m : PlaybackPipelineMetric)
    (metrics : List PlaybackPipelineMetric) :
    heardInMetrics (m :: metrics) = heardInMetrics [m] + heardInMetrics metrics := by
  simp [heardInMetrics]

/-- The commands a sender holds, on the wire or not. -/
def DeadlineSender.holding (d : DeadlineSender) : List PreparedPlayoutCommand :=
  d.onWire ++ d.waiting

theorem DeadlineSender.holding_move {generation : ℕ} {d d' : DeadlineSender} {w w' : Wire}
    (h : Move generation d w d' w') : ∀ c ∈ d'.holding, c ∈ d.holding := by
  cases h with
  | idle hd hpc =>
    rcases hd with hd | hd <;> rcases hpc with rfl | rfl <;> simp [holding, onWire, waiting, hd]
  | take hd hcommands => simp [holding, onWire, waiting, hd, hcommands]
  | drop hd _ =>
    unfold emitDrop
    split_ifs
    · simp [holding, onWire, waiting, stop]
    · simp +contextual [holding, onWire, waiting, hd]
  | record hd =>
    unfold emitSent
    split_ifs <;> simp +contextual [holding, onWire, waiting, stop, hd]
  | _ => simp +contextual [holding, onWire, waiting, stop, *]

theorem DeadlineSender.unreported_move {generation : ℕ} {d d' : DeadlineSender} {w w' : Wire}
    (hlabelled : ∀ c ∈ d.holding, c.Labelled) (h : Move generation d w d' w') :
    d'.unreported + w.trackSamples = d.unreported + w'.trackSamples := by
  cases h with
  | idle hd hpc =>
    rcases hd with hd | hd <;> rcases hpc with rfl | rfl <;> simp [unreported, onWire, hd]
  | drop hd _ =>
    unfold emitDrop
    split_ifs <;> simp [unreported, onWire, stop, hd]
  | @send c hd =>
    simp only [unreported, onWire, hd, Wire.trackSamples, List.map_append, List.sum_append,
      List.map_nil, List.sum_nil, List.map_cons, List.sum_cons]
    omega
  | @record c hd =>
    have hc := heardSamples_sendRecord (hlabelled c (by simp [holding, onWire, hd]))
    unfold emitSent
    split_ifs
    · simp [unreported, onWire, stop, hd]
    · simp [unreported, onWire, hd, hc]
  | _ => simp [unreported, onWire, stop, Wire.trackSamples, *]

theorem DeadlineSender.trackSamples_move {generation : ℕ} {d d' : DeadlineSender} {w w' : Wire}
    (h : Move generation d w d' w') (hsilent : ∀ c, d.pc = .compared c → c.trackSamples = 0) :
    w'.trackSamples = w.trackSamples := by
  cases h with
  | @send c hd => simp [Wire.trackSamples, hsilent c hd]
  | _ => rfl

/-- While the driver runs, everything on its way to the socket is labelled. -/
def Labels (s : MediaState) : Prop :=
  (∀ result, s.pc ≠ .exited result) →
    (∀ c ∈ s.current.holding, c.Labelled) ∧ ∀ p ∈ s.prepared, p.command.Labelled

namespace Labels

variable {aead : Aead} {s t : MediaState}

theorem of_subset (h : Labels s) (hs : ∀ result, s.pc ≠ .exited result)
    (hcurrent : ∀ c ∈ t.current.holding, c ∈ s.current.holding ∨ c.Labelled)
    (hprepared : ∀ p ∈ t.prepared, p ∈ s.prepared ∨ p.command.Labelled) : Labels t := by
  obtain ⟨hholding, hready⟩ := h hs
  exact fun _ ↦ ⟨fun c hc ↦ (hcurrent c hc).elim (hholding c) id,
    fun p hp ↦ (hprepared p hp).elim (hready p) id⟩

theorem of_flow {m : Flow} (h : Labels s) (hs : ∀ result, s.pc ≠ .exited result)
    (hm : t.flow = m) (hcurrent : m.current.holding = s.current.holding)
    (hprepared : m.prepared = s.prepared) : Labels t := by
  subst hm
  refine h.of_subset hs (fun c hc ↦ .inl ?_) fun p hp ↦ .inl ?_
  · rw [← hcurrent]
    exact hc
  · rw [← hprepared]
    exact hp

theorem holding_concat {d : DeadlineSender} (c : PreparedPlayoutCommand) :
    ({ d with commands := d.commands ++ [c] } : DeadlineSender).holding = d.holding ++ [c] := by
  simp only [holding, onWire, waiting]
  cases d.pc <;> simp

theorem effect (h : Labels s) (hc : Connected s) (he : Effect aead s t) : Labels t := by
  cases he with
  | jump hs ht hm => exact h.of_flow (Fitting.not_exited_of_calm hs) hm rfl rfl
  | account hs =>
    exact h.of_subset (Fitting.not_exited_of_calm hs) (fun c hc ↦ .inl hc) fun p hp ↦ .inl hp
  | accountDropped hs hdropped => exact absurd (hc.linked (link_of_calm hs)).noDrops hdropped
  | report hs hq hpc =>
    refine h.of_flow (fun result hres ↦ ?_) (sendMetric_flow _) rfl rfl
    simp [hres, DriverPc.records] at hs
  | replace hs =>
    refine h.of_subset (by simp [hs]) (fun c hc ↦ ?_) fun p hp ↦ .inl hp
    exact (List.not_mem_nil hc).elim
  | flush hs =>
    exact h.of_subset (by simp [hs]) (fun c hc ↦ .inl hc) fun p hp ↦ (List.not_mem_nil hp).elim
  | restore hs => exact h.of_flow (by simp [hs]) (restoreLiveSourceFrame_flow _) rfl rfl
  | @restored reason hs =>
    cases reason with
    | stop site =>
      cases site <;> exact h.of_subset (by simp [hs]) (fun c hc ↦ .inl hc) fun p hp ↦ .inl hp
    | _ => exact h.of_subset (by simp [hs]) (fun c hc ↦ .inl hc) fun p hp ↦ .inl hp
  | refillRestore hs => exact h.of_flow (by simp [hs]) (restoreLiveSourceFrame_flow _) rfl rfl
  | prepareTrack hs =>
    refine h.of_subset (by simp [hs]) (fun c hc ↦ .inl hc) fun p hp ↦ ?_
    rcases List.mem_append.mp hp with hp | hp
    · exact .inl hp
    · rw [List.mem_singleton.mp hp]
      exact .inr (by simp [PreparedPlayoutCommand.Labelled])
  | @pump route p prepared hs hprepared hstopped =>
    refine h.of_subset (by simp [hs]) (fun c hc ↦ ?_) fun q hq ↦ .inl (by simp_all)
    rw [holding_concat, List.mem_append, List.mem_singleton] at hc
    rcases hc with hc | rfl
    · exact .inl hc
    · exact .inr ((h (by simp [hs])).2 p (by simp [hprepared]))
  | silence hs | boundary hs =>
    refine h.of_subset (by simp [hs]) (fun c hc ↦ ?_) fun q hq ↦ .inl hq
    rw [holding_concat, List.mem_append, List.mem_singleton] at hc
    rcases hc with hc | rfl
    · exact .inl hc
    · exact .inr (by simp [PreparedPlayoutCommand.Labelled])
  | exit ht => exact fun hne ↦ absurd ht (hne _)
  | _ hs => exact h.of_subset (by simp [hs]) (fun c hc ↦ .inl hc) fun p hp ↦ .inl hp

theorem of_same (h : Labels s) (hpc : t.pc = s.pc) (hcurrent : t.current = s.current)
    (hprepared : t.prepared = s.prepared) : Labels t := by
  unfold Labels
  rw [hpc, hcurrent, hprepared]
  exact h

theorem happens {action : Action} (h : Labels s) (hc : Connected s)
    (hstep : Happens aead s action t) : Labels t := by
  cases hstep with
  | driver he => exact h.effect hc he
  | sender hmove =>
    exact fun hs ↦ ⟨fun c hc ↦ (h hs).1 c (holding_move hmove c hc), (h hs).2⟩
  | oldSender hget hmove => exact h
  | produced pushed hpc hpaused hflow | apart ha hpc hpaused hflow =>
    exact h.of_same hpc (congrArg Flow.current hflow) (congrArg Flow.prepared hflow)
  | metric =>
    exact h.of_same (sendMetric_pc _) (sendMetric_current _)
      (congrArg Flow.prepared (sendMetric_flow _))
  | consumed hmetrics =>
    exact h.of_same (consumeMetric_pc _) (congrArg Flow.current (consumeMetric_flow _))
      (congrArg Flow.prepared (consumeMetric_flow _))

theorem start (playbackEpoch : ℕ) (preparer : VoicePacketPreparer) (source : SourceBufferState)
    (position : ℕ) : Labels (MediaState.start playbackEpoch preparer source position) := by
  refine fun _ ↦ ⟨fun c hc ↦ ?_, fun p hp ↦ ?_⟩
  · exact (List.not_mem_nil hc).elim
  · exact (List.not_mem_nil hp).elim

end Labels

def DriverPc.isExited : DriverPc → Bool
  | .exited _ => true
  | _ => false

/-- Nothing of the track gets lost on the way to the consumer: not with a sender that is replaced,
not in a full channel of metrics, not when the driver returns, and not in what the consumer leaves
unread; and no sender the driver has let go of sends any more of it. -/
def nothingLost (aead : Aead) (s : MediaState) : Action → Bool
  | .driver answer =>
    (match s.pc with
      | .replace _ => s.current.unreported = 0
      | .report _ (r :: _) | .boundaryReport _ (r :: _) =>
        r.heardSamples = 0 || s.metrics.length < metricsChannelCapacity
      | _ => true) &&
    (s.driverStep aead answer).all fun t ↦
      !t.pc.isExited || heardInRecords s.pc.records + s.current.unreported = 0
  | .sender _ =>
    match s.current.pc with
    | .compared c => !s.pc.isExited || c.trackSamples = 0
    | _ => true
  | .oldSender index _ =>
    s.old[index]?.all fun d ↦
      match d.pc with
      | .compared c => c.trackSamples = 0
      | _ => true
  | .finish => heardInMetrics s.metrics = 0
  | _ => true

/-- What was sent of the track is heard of, or still on its way to the consumer. -/
structure Heard (first : ℕ) (s : MediaState) : Prop where
  running : s.pc.isExited = false →
    s.sentDurationSamples + heardInMetrics s.metrics + heardInRecords s.pc.records +
      s.current.unreported = first + s.wire.trackSamples
  exited : s.pc.isExited = true →
    s.sentDurationSamples + heardInMetrics s.metrics = first + s.wire.trackSamples

namespace Heard

variable {aead : Aead} {first : ℕ} {s t : MediaState}

theorem isExited_of_calm {pc : DriverPc} (h : pc.calm = true) : pc.isExited = false := by
  cases pc <;> first | rfl | cases h

theorem moved (h : Heard first s) (hs : s.pc.isExited = false) (ht : t.pc.isExited = false)
    (hsum : t.sentDurationSamples + heardInMetrics t.metrics + heardInRecords t.pc.records +
      t.current.unreported = s.sentDurationSamples + heardInMetrics s.metrics +
      heardInRecords s.pc.records + s.current.unreported) (hwire : t.wire = s.wire) :
    Heard first t where
  running _ := by
    rw [hsum, hwire]
    exact h.running hs
  exited hexited := by simp [ht] at hexited

theorem of_flow {m : Flow} (h : Heard first s) (hs : s.pc.isExited = false)
    (ht : t.pc.isExited = false) (hrecords : t.pc.records = s.pc.records) (hm : t.flow = m)
    (hsent : m.sentDurationSamples = s.sentDurationSamples) (hmetrics : m.metrics = s.metrics)
    (hcurrent : m.current.unreported = s.current.unreported) (hwire : m.wire = s.wire) :
    Heard first t := by
  subst hm
  refine h.moved hs ht ?_ hwire
  have hsent : t.sentDurationSamples = s.sentDurationSamples := hsent
  have hmetrics : t.metrics = s.metrics := hmetrics
  have hcurrent : t.current.unreported = s.current.unreported := hcurrent
  rw [hsent, hmetrics, hrecords, hcurrent]

theorem exit {result : DriverResult} (h : Heard first s) (ht : t.pc = .exited result)
    (hsilent : heardInRecords s.pc.records + s.current.unreported = 0)
    (hwire : t.wire = s.wire) (hmetrics : t.metrics = s.metrics)
    (hsent : t.sentDurationSamples = s.sentDurationSamples) : Heard first t := by
  refine ⟨fun hrunning ↦ by simp [ht, DriverPc.isExited] at hrunning, fun _ ↦ ?_⟩
  rw [hwire, hmetrics, hsent]
  by_cases hs : s.pc.isExited = true
  · exact h.exited hs
  · have hsum := h.running (Bool.eq_false_of_not_eq_true hs)
    omega

theorem unreported_read {d : DeadlineSender} {r : DeadlineSendRecord}
    {rest : List DeadlineSendRecord} (hrecords : d.sendRecords = r :: rest) :
    d.unreported =
      r.heardSamples + ({ d with sendRecords := rest } : DeadlineSender).unreported := by
  have honWire : ({ d with sendRecords := rest } : DeadlineSender).onWire = d.onWire := rfl
  rw [unreported, unreported, honWire, hrecords, heardInRecords_cons, Nat.add_assoc]

theorem reported {r : DeadlineSendRecord} {pc : DriverPc} (h : Heard first s)
    (hs : s.pc.isExited = false) (ht : pc.isExited = false)
    (hrecords : s.pc.records = r :: pc.records)
    (hroom : r.heardSamples = 0 ∨ s.metrics.length < metricsChannelCapacity) :
    Heard first ((s.sendMetric (.senderSent r)).goto pc) := by
  unfold sendMetric
  split
  · refine h.moved hs ht ?_ rfl
    have hmetric : heardInMetrics [.senderSent r] = r.heardSamples := by simp [heardInMetrics]
    simp only [MediaState.goto, heardInMetrics_append, hmetric, hrecords, heardInRecords_cons]
    omega
  · have hnone : r.heardSamples = 0 := hroom.resolve_right ‹_›
    refine h.moved hs ht ?_ rfl
    simp only [MediaState.goto, hrecords, heardInRecords_cons, hnone]
    omega

theorem driver {answer : DriverAnswer} (h : Heard first s) (hc : Connected s)
    (hok : nothingLost aead s (.driver answer) = true) (hstep : s.driverStep aead answer = some t) :
    Heard first t := by
  have hreturn : t.pc.isExited = true →
      heardInRecords s.pc.records + s.current.unreported = 0 := by
    intro ht
    simp only [nothingLost, hstep, Option.all_some, Bool.and_eq_true] at hok
    simpa [ht] using hok.2
  cases driverStep_effect hstep with
  | jump hs ht hm hr =>
    exact h.of_flow (isExited_of_calm hs) (isExited_of_calm ht) hr hm rfl rfl rfl rfl
  | account hs hrecords hpending hmatch ht hr =>
    refine h.moved (isExited_of_calm hs) (isExited_of_calm ht) ?_ rfl
    simp only [hr, heardInRecords_append, heardInRecords_cons, heardInRecords_nil,
      unreported_read hrecords]
    omega
  | accountDropped hs hdropped => exact absurd (hc.linked (link_of_calm hs)).noDrops hdropped
  | @report r pc hs hq hpc hreport =>
    have hroom : r.heardSamples = 0 ∨ s.metrics.length < metricsChannelCapacity := by
      simp only [nothingLost, Bool.and_eq_true] at hok
      rcases hreport with ⟨site, sent, hspc⟩ | ⟨site, sent, hspc⟩
      · simpa [hspc] using hok.1
      · simpa [hspc] using hok.1
    have hrunning : s.pc.isExited = false := by
      rcases hreport with ⟨site, sent, hspc⟩ | ⟨site, sent, hspc⟩ <;> rw [hspc] <;> rfl
    have ht : pc.isExited = false := by
      rcases hpc with ⟨-, hcalm⟩ | ⟨site, sent, -, rfl⟩
      · exact isExited_of_calm hcalm
      · rfl
    exact h.reported hrunning ht hs hroom
  | @replace reason hs =>
    have hnone : s.current.unreported = 0 := by
      simp only [nothingLost, hs, Bool.and_eq_true, decide_eq_true_eq] at hok
      exact hok.1
    refine h.moved (by rw [hs]; rfl) rfl ?_ rfl
    rw [hs, hnone]
    rfl
  | restore hs =>
    exact h.of_flow (by rw [hs]; rfl) rfl (by rw [hs]; rfl) (restoreLiveSourceFrame_flow _) rfl rfl
      rfl rfl
  | @restored reason hs =>
    have hgoto (pc : DriverPc) (hpc : pc.isExited = false) (hrecords : pc.records = []) :
        Heard first (s.goto pc) :=
      h.of_flow (by rw [hs]; rfl) hpc (by rw [hs]; exact hrecords) rfl rfl rfl rfl rfl
    cases reason with
    | pause site => exact hgoto _ rfl rfl
    | dave route => exact hgoto _ rfl rfl
    | stale => exact h.exit rfl (hreturn rfl) rfl rfl rfl
    | stop site =>
      cases site with
      | second => exact hgoto _ rfl rfl
      | _ => exact h.exit rfl (hreturn rfl) rfl rfl rfl
  | refill hs | pump hs | silence hs =>
    exact h.of_flow (by rw [hs]; rfl) (by rw [hs]; rfl) rfl rfl rfl rfl rfl rfl
  | @refillRestore route next f hs =>
    exact h.of_flow (by rw [hs]; rfl) (by cases next <;> rfl) (by rw [hs]; cases next <;> rfl)
      (restoreLiveSourceFrame_flow _) rfl rfl rfl rfl
  | @paused site hs =>
    exact h.of_flow (by rw [hs]; rfl) (by cases site <;> rfl) (by rw [hs]; cases site <;> rfl) rfl
      rfl rfl rfl rfl
  | boundarySent hs hrecords =>
    refine h.moved (by rw [hs]; rfl) rfl ?_ rfl
    simp only [hs, DriverPc.records, heardInRecords_append, heardInRecords_cons, heardInRecords_nil,
      unreported_read hrecords]
    omega
  | exit ht hcurrent hflow =>
    obtain ⟨-, -, hwire, -, -, hmetrics, hsent⟩ := hflow
    exact h.exit ht (hreturn (by rw [ht]; rfl)) hwire hmetrics hsent
  | _ hs => exact h.of_flow (by rw [hs]; rfl) rfl (by rw [hs]; rfl) rfl rfl rfl rfl rfl

theorem sender {d : DeadlineSender} {w : Wire} {socketOk : Bool} (h : Heard first s)
    (hlabels : Labels s) (hok : nothingLost aead s (.sender socketOk) = true)
    (hmove : Move s.generation s.current s.wire d w) :
    Heard first { s with current := d, wire := w } := by
  refine ⟨fun hs ↦ ?_, fun hs ↦ ?_⟩
  · have hs : s.pc.isExited = false := hs
    have hlabelled := (hlabels fun result hres ↦ by simp [hres, DriverPc.isExited] at hs).1
    have hsum := h.running hs
    have hmoved := unreported_move hlabelled hmove
    dsimp only
    omega
  · have hs : s.pc.isExited = true := hs
    have hsilent : ∀ c, s.current.pc = .compared c → c.trackSamples = 0 := by
      intro c hc
      simpa [nothingLost, hc, hs] using hok
    dsimp only
    rw [trackSamples_move hmove hsilent]
    exact h.exited hs

theorem oldSender {i : ℕ} {d d' : DeadlineSender} {w : Wire} {socketOk : Bool} (h : Heard first s)
    (hok : nothingLost aead s (.oldSender i socketOk) = true) (hget : s.old[i]? = some d)
    (hmove : Move s.generation d s.wire d' w) :
    Heard first { s with old := s.old.set i d', wire := w } := by
  have hsilent : ∀ c, d.pc = .compared c → c.trackSamples = 0 := by
    intro c hc
    simpa [nothingLost, hget, hc] using hok
  refine ⟨fun hs ↦ ?_, fun hs ↦ ?_⟩
  · dsimp only
    rw [trackSamples_move hmove hsilent]
    exact h.running hs
  · dsimp only
    rw [trackSamples_move hmove hsilent]
    exact h.exited hs

theorem beside (h : Heard first s) (hpc : t.pc = s.pc)
    (hsum : t.sentDurationSamples + heardInMetrics t.metrics =
      s.sentDurationSamples + heardInMetrics s.metrics)
    (hcurrent : t.current = s.current) (hwire : t.wire = s.wire) : Heard first t where
  running hs := by
    have := h.running (hpc ▸ hs)
    rw [hpc, hcurrent, hwire]
    omega
  exited hs := by
    rw [hsum, hwire]
    exact h.exited (hpc ▸ hs)

theorem happens {action : Action} (h : Heard first s) (hc : Connected s) (hlabels : Labels s)
    (hok : nothingLost aead s action = true) (hstep : s.step aead action = some t) :
    Heard first t := by
  cases step_happens hstep with
  | driver he => exact h.driver hc hok hstep
  | sender hmove => exact h.sender hlabels hok hmove
  | oldSender hget hmove => exact h.oldSender hok hget hmove
  | produced pushed hpc hpaused hflow | apart ha hpc hpaused hflow =>
    have hsent : t.sentDurationSamples = s.sentDurationSamples :=
      congrArg Flow.sentDurationSamples hflow
    have hmetrics : t.metrics = s.metrics := congrArg Flow.metrics hflow
    exact h.beside hpc (by rw [hsent, hmetrics]) (congrArg Flow.current hflow)
      (congrArg Flow.wire hflow)
  | metric =>
    refine h.beside (sendMetric_pc _) ?_ (sendMetric_current _)
      (congrArg Flow.wire (sendMetric_flow _))
    unfold sendMetric
    split
    · have hother : heardInMetrics [.other] = 0 := rfl
      simp [hother]
    · rfl
  | @consumed m metrics hmetrics =>
    have hflow := consumeMetric_flow (s := { s with metrics }) m
    refine h.beside (consumeMetric_pc _) ?_ (congrArg Flow.current hflow) (congrArg Flow.wire hflow)
    rw [hmetrics, heardInMetrics_cons]
    cases m with
    | other => simp [consumeMetric, heardInMetrics]
    | senderSent r =>
      by_cases hframe : r.mediaFrame.isSome = true
      · simp only [consumeMetric, hframe, heardInMetrics, DeadlineSendRecord.heardSamples, if_true,
          List.map_cons, List.map_nil, List.sum_cons, List.sum_nil]
        omega
      · simp [consumeMetric, heardInMetrics, DeadlineSendRecord.heardSamples, hframe]

theorem step {action : Action} (h : Heard first s ∧ Connected s ∧ Labels s)
    (hok : nothingLost aead s action = true) (hstep : s.step aead action = some t) :
    Heard first t ∧ Connected t ∧ Labels t :=
  ⟨h.1.happens h.2.1 h.2.2 hok hstep, h.2.1.happens (step_happens hstep),
    h.2.2.happens h.2.1 (step_happens hstep)⟩

theorem start (playbackEpoch : ℕ) (preparer : VoicePacketPreparer) (source : SourceBufferState)
    (position : ℕ) :
    Heard position (MediaState.start playbackEpoch preparer source position) :=
  ⟨fun _ ↦ rfl, fun h ↦ (nomatch h)⟩

end Heard

/-- When the playback returns, its position has moved by what its senders sent of the track. -/
theorem heard_position_of_nothingLost (aead : Aead) (playbackEpoch : ℕ)
    (preparer : VoicePacketPreparer) (source : SourceBufferState) (position : ℕ)
    (actions : List Action) {s : MediaState}
    (hok : Throughout (MediaState.step aead) (fun s action ↦ nothingLost aead s action = true)
      (.start playbackEpoch preparer source position) (actions ++ [.finish]))
    (h : exec (MediaState.step aead) (.start playbackEpoch preparer source position)
      (actions ++ [.finish]) = some s) :
    s.sentDurationSamples = position +
      ((s.wire.sent.filter (·.kind = .track)).map (·.packet.durationSamples.toNat)).sum := by
  obtain ⟨u, hu, hfinish⟩ := exec_concat h
  obtain ⟨hactions, hlast⟩ := throughout_concat hok hu
  obtain ⟨hheard, -⟩ : Heard position u ∧ Connected u ∧ Labels u :=
    exec_induction (fun _ _ _ hs ↦ Heard.step hs)
      ⟨.start _ _ _ _, .start _ _ _ _, .start _ _ _ _⟩ hactions hu
  have hread : heardInMetrics u.metrics = 0 := by simpa [nothingLost] using hlast
  simp only [MediaState.step] at hfinish
  split at hfinish
  · rename_i hpc
    split_ifs at hfinish
    cases hfinish
    have hsum := hheard.exited (by rw [hpc]; rfl)
    rw [hread, Nat.add_zero, Wire.trackSamples_eq] at hsum
    exact hsum
  · cases hfinish

/-- The consumer reads its metrics before it notices that the driver has returned. -/
theorem heard_position_of_nothingLost_playedOut :
    ∃ s, exec (MediaState.step plainAead) (plainStart [plainFrame 0] true)
        (playedOut ++ [.consume] ++ [.finish]) = some s ∧
      s.sentDurationSamples = 0 +
        ((s.wire.sent.filter (·.kind = .track)).map (·.packet.durationSamples.toNat)).sum ∧
      s.sentDurationSamples = 960 := by
  refine ⟨_, rfl, ?_, by decide⟩
  exact heard_position_of_nothingLost plainAead _ _ _ _ (playedOut ++ [.consume])
    (throughout_of_allowed (by decide)) (rfl : exec _ (plainStart [plainFrame 0] true) _ = some _)

/-- It may as well see the result of the driver first, and the last frame is never counted. -/
theorem heard_position_misses_frame :
    ∃ s, exec (MediaState.step plainAead) (plainStart [plainFrame 0] true)
        (playedOut ++ [.finish]) = some s ∧
      s.returned = true ∧ s.sentDurationSamples = 0 ∧
      ((s.wire.sent.filter (·.kind = .track)).map (·.packet.durationSamples.toNat)).sum = 960 := by
  exact ⟨_, rfl, by decide, by decide, by decide⟩

end DiscordVoice.Media
