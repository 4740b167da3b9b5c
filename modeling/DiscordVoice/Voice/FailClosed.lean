import DiscordVoice.Triples
import DiscordVoice.Voice.DaveRuns
import DiscordVoice.Voice.GatewayOnly

namespace DiscordVoice.Voice

open Fallible Schedule

variable {D : Libdave}

/-- A frame and the payload made from it: silence, or what the library made of the frame. -/
def Protected (D : Libdave) (handed : Bytes × Bytes) : Prop :=
  handed.2 = opusSilenceFrame ∨
    ∃ runtime, (D.encryptAudioFrame runtime handed.1).1 = .ok handed.2

/-- Every payload handed over so far is protected, and a session that no longer listens to its
gateway has the runtime in use. -/
structure Guarded (s : ConnectedVoiceSession D) : Prop where
  one : s.daveFailedClosed = false → (slots s).owners = 1
  gone : s.daveFailedClosed = true → (slots s).owners = 0
  inUse : s.gatewayReceiveClosed = true → s.daveFailedClosed = false → s.dave.isSome
  handed : ∀ p ∈ s.handedToTransport, Protected D p

theorem Guarded.owners_le {s : ConnectedVoiceSession D} (hs : Guarded s) :
    (slots s).owners ≤ 1 := by
  cases h : s.daveFailedClosed with
  | false => exact (hs.one h).le
  | true => exact (hs.gone h).le.trans (Nat.zero_le 1)

/-- A session that may packetise. -/
structure Ready (s : ConnectedVoiceSession D) : Prop extends Guarded s where
  runtime : s.dave.isSome

theorem failDaveClosed_guarded {s : ConnectedVoiceSession D}
    (hs : ∀ p ∈ s.handedToTransport, Protected D p) : Guarded (failDaveClosed s) where
  one h := by cases h
  gone _ := rfl
  inUse _ h := by cases h
  handed := hs

theorem connect_guarded (voice : VoiceContext) (gateway : VoiceGatewayClient)
    (transport : VoiceUdpTransport) (ssrc : UInt32) (dave : InitialDaveState D) :
    Guarded (connect voice gateway transport ssrc dave) where
  one := (connect_owned voice gateway transport ssrc dave).one
  gone h := by cases h
  inUse h := by cases h
  handed := by simp [connect]

theorem markGatewayReceiveClosed_guarded {s : ConnectedVoiceSession D} (hs : Guarded s)
    (h : s.daveFailedClosed = false → s.dave.isSome) : Guarded (markGatewayReceiveClosed s) where
  one := hs.one
  gone := hs.gone
  inUse _ := h
  handed := hs.handed

theorem handleGatewayEvent_mediaRecord (event : VoiceGatewayEvent)
    (s : ConnectedVoiceSession D) :
    mediaRecord (stateAfter (handleGatewayEvent event s)) = mediaRecord s :=
  (GatewayOnly.failingClosed (.processGatewayEvent event)).frame s rfl

/-- An event that comes once the gateway is given up leaves the runtime in use. -/
def KeepsRuntime (s : ConnectedVoiceSession D) (event : VoiceGatewayEvent) : Prop :=
  s.gatewayReceiveClosed = true →
    match handleGatewayEvent event s with
    | .ok () t => t.daveFailedClosed = false → t.dave.isSome
    | .error _ _ => True

theorem keepsRuntime_of_receiving {s : ConnectedVoiceSession D}
    (hreceive : s.gatewayReceiveClosed = false) (event : VoiceGatewayEvent) : KeepsRuntime s event :=
  fun hclosed ↦ absurd (hreceive.symm.trans hclosed) Bool.false_ne_true

theorem handleGatewayEvent_guarded {s : ConnectedVoiceSession D} (hs : Guarded s)
    {event : VoiceGatewayEvent} (hkeeps : KeepsRuntime s event) :
    Guarded (stateAfter (handleGatewayEvent event s)) := by
  have hrecord := (GatewayOnly.processGatewayEvent event).frame s rfl
  cases h : processGatewayEventForDave event s with
  | error err t =>
    rw [h] at hrecord
    simp only [mediaRecord, stateAfter, Prod.mk.injEq] at hrecord
    simp only [handleGatewayEvent, failingClosed, h, stateAfter]
    exact failDaveClosed_guarded (hrecord.2.2.1 ▸ hs.handed)
  | ok a t =>
    rw [h] at hrecord
    simp only [mediaRecord, stateAfter, Prod.mk.injEq] at hrecord
    obtain ⟨howners, hfailed⟩ := processGatewayEvent_handedOver hs.owners_le h
    simp only [KeepsRuntime, handleGatewayEvent, failingClosed, h] at hkeeps
    simp only [handleGatewayEvent, failingClosed, h, stateAfter]
    refine ⟨fun hopen ↦ ?_, fun hclosed ↦ ?_, fun hclosed ↦ ?_, ?_⟩
    · exact howners.trans (hs.one (hfailed.symm.trans hopen))
    · exact howners.trans (hs.gone (hfailed.symm.trans hclosed))
    · exact hkeeps (hrecord.1.symm.trans hclosed)
    · exact hrecord.2.2.1 ▸ hs.handed

/-- When the gateway closes behind these receives while frames are being sent, the runtime is in
use. -/
def ClosesWithRuntime (s : ConnectedVoiceSession D) : List GatewayReceive → Prop
  | .event event :: rest =>
    match handleGatewayEvent event s with
    | .ok () t => ClosesWithRuntime t rest
    | .error _ _ => True
  | .failed err :: _ =>
    err.isGatewayClosedDuringReceive = true → s.speakingStarted = true → s.dave.isSome
  | _ => True

/-- A drain that ends in an error which is taken for the close ended in the close. -/
theorem drainGateway_error (n : ℕ) (inbox : List GatewayReceive)
    (report : VoiceGatewayDrainReport) {s t : ConnectedVoiceSession D} {err : VoiceError}
    (hs : Guarded s) (hreceive : s.gatewayReceiveClosed = false)
    (hcloses : ClosesWithRuntime s inbox) (h : drainGateway n inbox report s = .error err t) :
    Guarded t ∧ (err.isGatewayClosedDuringReceive = true → t.speakingStarted = true →
      t.dave.isSome) := by
  induction n generalizing inbox report s with
  | zero =>
    cases h
    exact ⟨hs, fun h ↦ by cases h⟩
  | succ n ih =>
    rcases inbox with _ | ⟨event | e | _, rest⟩
    · cases h
    · have ht := handleGatewayEvent_guarded hs (keepsRuntime_of_receiving hreceive event)
      have hrecord := handleGatewayEvent_mediaRecord event s
      rw [drainGateway, bind_apply] at h
      rw [ClosesWithRuntime] at hcloses
      cases hu : handleGatewayEvent event s with
      | error e u =>
        rw [hu] at ht
        simp only [hu] at h
        cases h
        have hnot := (GatewayOnly.failingClosed (.processGatewayEvent event)).error s _ _ rfl hu
        exact ⟨ht, fun h ↦ by rw [hnot] at h; cases h⟩
      | ok a u =>
        rw [hu] at ht hrecord
        simp only [hu] at h hcloses
        have hreceive' : u.gatewayReceiveClosed = false := (Prod.mk.inj hrecord).1.trans hreceive
        exact ih rest _ ht hreceive' hcloses h
    · cases h
      exact ⟨hs, hcloses⟩
    · cases h

theorem drainGateway_ok_guarded (n : ℕ) (inbox : List GatewayReceive)
    (report : VoiceGatewayDrainReport) {s t : ConnectedVoiceSession D}
    {r : VoiceGatewayDrainReport} (hs : Guarded s) (hreceive : s.gatewayReceiveClosed = false)
    (hopen : s.daveFailedClosed = false) (h : drainGateway n inbox report s = .ok r t) :
    Guarded t ∧ t.daveFailedClosed = false := by
  induction n generalizing inbox report s with
  | zero => cases h
  | succ n ih =>
    rcases inbox with _ | ⟨event | e | _, rest⟩
    · cases h
      exact ⟨hs, hopen⟩
    · rw [drainGateway, bind_ok_iff] at h
      obtain ⟨_, u, hu, h⟩ := h
      have ht := handleGatewayEvent_guarded hs (keepsRuntime_of_receiving hreceive event)
      have hrecord := handleGatewayEvent_mediaRecord event s
      have hfailed := (processGatewayEvent_handedOver hs.owners_le (failingClosed_ok hu)).2
      rw [hu] at ht hrecord
      exact ih rest _ ht ((Prod.mk.inj hrecord).1.trans hreceive) (hfailed.trans hopen) h
    · cases h
    · cases h
      exact ⟨hs, hopen⟩

theorem Guarded.nothingToDrain {s : ConnectedVoiceSession D} (hs : Guarded s)
    (hopen : s.daveFailedClosed = false) : nothingToDrain s = false := by
  have h := hs.one hopen
  by_contra hn
  simp_all [Voice.nothingToDrain, slots, Slots.owners]

theorem Guarded.ready_of_settled {s t : ConnectedVoiceSession D}
    {report r : VoiceGatewayDrainReport} (hs : Guarded s) (hopen : s.daveFailedClosed = false)
    (h : settled false report s = .ok r t) : Ready t := by
  obtain ⟨rfl, hpending, hlocal, hinitial, -⟩ := settled_ok h
  have hone := hs.one hopen
  refine ⟨hs, ?_⟩
  by_contra hnone
  simp_all [slots, Slots.owners]

theorem settled_error {report : VoiceGatewayDrainReport} {s t : ConnectedVoiceSession D}
    {err : VoiceError} (h : settled false report s = .error err t) :
    t = s ∧ err.isGatewayClosedDuringReceive = false := by
  simp only [settled, get_bind_apply, branch_apply] at h
  repeat' split at h
  all_goals try cases h
  all_goals exact ⟨rfl, by decide⟩

/-- What the drain in front of a send leaves behind, from a session that still listens. -/
theorem processPendingGatewayEvents_guarded {s : ConnectedVoiceSession D} (hs : Guarded s)
    (hopen : s.daveFailedClosed = false) (hreceive : s.gatewayReceiveClosed = false)
    (inbox : List GatewayReceive) (hcloses : ClosesWithRuntime s inbox) :
    (∀ r t, processPendingGatewayEvents false inbox s = .ok r t → Ready t) ∧
      ∀ err t, processPendingGatewayEvents false inbox s = .error err t →
        Guarded t ∧ (err.isGatewayClosedDuringReceive = true → t.speakingStarted = true →
          t.dave.isSome) := by
  simp only [processPendingGatewayEvents, get_bind_apply, branch_apply, hopen, hreceive,
    hs.nothingToDrain hopen, Bool.false_eq_true, if_false]
  simp only [bind_apply]
  cases s.gateway with
  | none =>
    refine ⟨fun r t h ↦ (by cases h), fun err t h ↦ ?_⟩
    cases h
    exact ⟨hs, fun h ↦ by cases h⟩
  | some gateway =>
    simp only [orFail, pure_apply]
    cases hdrain : drainGateway daveGatewayEventDrainLimit inbox ⟨0, 0⟩ s with
    | error e u =>
      refine ⟨fun r t h ↦ (by cases h), fun err t h ↦ ?_⟩
      cases h
      exact drainGateway_error _ _ _ hs hreceive hcloses hdrain
    | ok report u =>
      obtain ⟨hu, hopen'⟩ := drainGateway_ok_guarded _ _ _ hs hreceive hopen hdrain
      refine ⟨fun r t h ↦ hu.ready_of_settled hopen' h, fun err t h ↦ ?_⟩
      obtain ⟨rfl, hnot⟩ := settled_error h
      exact ⟨hu, fun h ↦ by rw [hnot] at h; cases h⟩

theorem drainBeforeSend_guarded {s : ConnectedVoiceSession D} (hs : Guarded s)
    (inbox : List GatewayReceive)
    (hcloses : s.daveFailedClosed = false → s.gatewayReceiveClosed = false →
      ClosesWithRuntime s inbox) :
    (∀ t, drainBeforeSend inbox s = .ok () t → Ready t) ∧
      ∀ err t, drainBeforeSend inbox s = .error err t → Guarded t := by
  cases hopen : s.daveFailedClosed with
  | true =>
    have h : processPendingGatewayEvents false inbox s =
        .error (.invalidState "voice dave session failed closed") s := by
      simp [processPendingGatewayEvents, hopen]
    refine ⟨fun t ht ↦ ?_, fun err t ht ↦ ?_⟩
    all_goals simp [drainBeforeSend, h, VoiceError.isGatewayClosedDuringReceive] at ht
    exact ht.2 ▸ hs
  | false =>
    cases hreceive : s.gatewayReceiveClosed with
    | true =>
      have h : processPendingGatewayEvents false inbox s = .ok ⟨0, 0⟩ s := by
        simp [processPendingGatewayEvents, hopen, hreceive]
      simp only [drainBeforeSend, h]
      refine ⟨fun t ht ↦ ?_, fun err t ht ↦ by cases ht⟩
      cases ht
      exact ⟨hs, hs.inUse hreceive hopen⟩
    | false =>
      obtain ⟨hok, herror⟩ := processPendingGatewayEvents_guarded hs hopen hreceive inbox
        (hcloses hopen hreceive)
      cases h : processPendingGatewayEvents false inbox s with
      | ok r u =>
        simp only [drainBeforeSend, h]
        refine ⟨fun t ht ↦ ?_, fun err t ht ↦ by cases ht⟩
        cases ht
        exact hok r _ h
      | error e u =>
        obtain ⟨hu, hruntime⟩ := herror e u h
        simp only [drainBeforeSend, h]
        split_ifs with hclose
        · refine ⟨fun t ht ↦ ?_, fun err t ht ↦ by cases ht⟩
          cases ht
          have hin := hruntime hclose.1 hclose.2
          exact ⟨markGatewayReceiveClosed_guarded hu fun _ ↦ hin, hin⟩
        · refine ⟨fun t ht ↦ (by cases ht), fun err t ht ↦ ?_⟩
          cases ht
          exact hu

theorem Ready.congr {s t : ConnectedVoiceSession D} (hs : Ready s) (hslots : slots t = slots s)
    (hrecord : t.gatewayReceiveClosed = s.gatewayReceiveClosed)
    (hhanded : ∀ p ∈ t.handedToTransport, Protected D p) : Ready t := by
  have hdave : t.dave = s.dave := congrArg Slots.dave hslots
  have hfailed : t.daveFailedClosed = s.daveFailedClosed := congrArg Slots.daveFailedClosed hslots
  refine ⟨⟨?_, ?_, ?_, hhanded⟩, ?_⟩
  · rw [hslots, hfailed]
    exact hs.one
  · rw [hslots, hfailed]
    exact hs.gone
  · rw [hrecord, hfailed, hdave]
    exact hs.inUse
  · rw [hdave]
    exact hs.runtime

theorem orFail_preserves {α : Type} {I : ConnectedVoiceSession D → Prop} (reason : String)
    (a : Option α) : Preserves I (orFail reason a : SessionM D α) := by
  intro s hs
  rwa [orFail_state]

theorem sendGateway_ready (message : GatewayMessage) :
    Preserves Ready (sendGateway message : SessionM D Unit) := by
  refine .get_bind fun s hs ↦ .bind (orFail_preserves _ _) fun gateway ↦ ?_
  split
  · exact .bind (.set (hs.congr rfl rfl hs.handed)) fun _ ↦ .throw _
  · exact .set (hs.congr rfl rfl hs.handed)

theorem sendSpeaking_ready (flags : ℕ) (ssrc : UInt32) (n : ℕ) :
    Preserves Ready (sendSpeaking flags ssrc n : SessionM D Unit) := by
  induction n with
  | zero => exact .pure _
  | succ n ih => exact .bind (sendGateway_ready _) fun _ ↦ ih

theorem prepareSpeakingBeforeMedia_ready :
    Preserves Ready (prepareSpeakingBeforeMedia : SessionM D Unit) := by
  refine .get_bind fun s hs ↦ .branch (fun _ ↦ .pure _) fun _ ↦ ?_
  refine .bind (orFail_preserves _ _) fun ssrc ↦ .bind (orFail_preserves _ _) fun _ ↦ ?_
  exact .bind (sendSpeaking_ready 1 ssrc 3) fun _ ↦
    .modify fun s hs ↦ hs.congr rfl rfl hs.handed

theorem currentSlotPayload_ready (frame : Bytes) :
    Preserves Ready (currentSlotPayload frame : SessionM D Bytes) := by
  refine .get_bind fun s hs ↦ .branch (fun _ ↦ .pure _) fun _ ↦ ?_
  obtain ⟨runtime, hruntime⟩ := Option.isSome_iff_exists.mp hs.runtime
  simp only [hruntime]
  have hnext (next : D.Runtime) : Ready { s with dave := some next } := by
    refine ⟨⟨?_, ?_, fun _ _ ↦ rfl, hs.handed⟩, rfl⟩
    · simpa [slots, Slots.owners, hruntime] using hs.one
    · simpa [slots, Slots.owners, hruntime] using hs.gone
  split
  · exact .bind (.set (hnext _)) fun _ ↦ .pure _
  · exact .bind (.set (hnext _)) fun _ ↦ .throw _

/-- With the runtime in use, the only payload that is not encrypted is silence. -/
theorem currentSlotPayload_protected {frame payload : Bytes} {s t : ConnectedVoiceSession D}
    (hs : Ready s) (h : currentSlotPayload frame s = .ok payload t) :
    Protected D (frame, payload) := by
  obtain ⟨runtime, hruntime⟩ := Option.isSome_iff_exists.mp hs.runtime
  simp only [currentSlotPayload, get_bind_apply, branch_apply, hruntime] at h
  split_ifs at h with hsilence
  · cases h
    exact .inl hsilence
  · rcases henc : D.encryptAudioFrame runtime frame with ⟨_ | encrypted, next⟩
    · simp [henc] at h
    · simp only [henc, set_bind_apply, pure_apply] at h
      cases h
      exact .inr ⟨runtime, by rw [henc]⟩

theorem prepareCurrentSlotAudioPacket_ready (aead : Aead) (frame : Bytes)
    (durationSamples : UInt32) :
    Preserves Ready (prepareCurrentSlotAudioPacket aead frame durationSamples :
      SessionM D PreparedVoicePacket) := by
  intro s hs
  rw [prepareCurrentSlotAudioPacket, bind_apply]
  cases h : currentSlotPayload frame s with
  | error err u => exact (currentSlotPayload_ready frame).error hs h
  | ok payload u =>
    have hu := (currentSlotPayload_ready frame).ok hs h
    have hpayload := currentSlotPayload_protected hs h
    have hhanded : ∀ p ∈ u.handedToTransport ++ [(frame, payload)], Protected D p := by
      simp only [List.mem_append, List.mem_singleton]
      rintro p (hp | rfl)
      · exact hu.handed p hp
      · exact hpayload
    simp only [get_bind_apply]
    refine (Preserves.bind (orFail_preserves _ _) fun transport ↦ ?_) u hu
    split
    · exact .bind (.set (hu.congr rfl rfl hhanded)) fun _ ↦ .pure _
    · exact .bind (.set (hu.congr rfl rfl hhanded)) fun _ ↦ .throw _

theorem sendCurrentSlotPacket_ready (socket : Except VoiceError Unit)
    (packet : PreparedVoicePacket) :
    Preserves Ready (sendCurrentSlotPacket socket packet : SessionM D Unit) := by
  refine .get_bind fun s hs ↦ .bind (orFail_preserves _ _) fun transport ↦ ?_
  split
  · exact .set (hs.congr rfl rfl hs.handed)
  · exact .bind (.set (hs.congr rfl rfl hs.handed)) fun _ ↦ .throw _

theorem sendAudioFrame_guarded {s : ConnectedVoiceSession D} (hs : Guarded s) (aead : Aead)
    (inbox : List GatewayReceive) (socket : Except VoiceError Unit) (frame : Bytes)
    (durationSamples : UInt32)
    (hcloses : s.daveFailedClosed = false → s.gatewayReceiveClosed = false →
      ClosesWithRuntime s inbox) :
    Guarded (stateAfter
        (sendAudioFrameWithDurationSamples aead inbox socket frame durationSamples s)) ∧
      ∀ t, sendAudioFrameWithDurationSamples aead inbox socket frame durationSamples s =
        .ok () t → t.dave.isSome := by
  obtain ⟨hok, herror⟩ := drainBeforeSend_guarded hs inbox hcloses
  have hsend : Preserves Ready (do
      prepareSpeakingBeforeMedia
      let packet ← prepareCurrentSlotAudioPacket aead frame durationSamples
      sendCurrentSlotPacket socket packet : SessionM D Unit) :=
    .bind prepareSpeakingBeforeMedia_ready fun _ ↦
      .bind (prepareCurrentSlotAudioPacket_ready _ _ _) fun _ ↦ sendCurrentSlotPacket_ready _ _
  rw [sendAudioFrameWithDurationSamples, bind_apply]
  cases h : drainBeforeSend inbox s with
  | error err u => exact ⟨herror err u h, fun t ht ↦ (by cases ht)⟩
  | ok a u =>
    have hu := hok u h
    exact ⟨(hsend u hu).toGuarded, fun t ht ↦ (hsend.ok hu ht).runtime⟩

/-- The datagram is what a packet preparer makes of the payload. -/
def MadeFrom (aead : Aead) (payload datagram : Bytes) : Prop :=
  ∃ (preparer : VoicePacketPreparer) (durationMs : ℕ) (durationSamples : UInt32)
    (packet : PreparedVoicePacket),
    (preparer.prepareAudioPacketWithDurationSamples aead payload durationMs durationSamples).1 =
      .ok packet ∧ packet.bytes = datagram

/-- One of the payloads handed over went into the datagram. -/
def Carried (aead : Aead) (handed : List (Bytes × Bytes)) (datagram : Bytes) : Prop :=
  ∃ p ∈ handed, MadeFrom aead p.2 datagram

theorem Carried.more {aead : Aead} {handed : List (Bytes × Bytes)} {datagram : Bytes}
    (h : Carried aead handed datagram) (more : List (Bytes × Bytes)) :
    Carried aead (handed ++ more) datagram := by
  obtain ⟨p, hp, hmade⟩ := h
  exact ⟨p, List.mem_append_left _ hp, hmade⟩

def ConnectedVoiceSession.wire (s : ConnectedVoiceSession D) : List Bytes :=
  s.transport.elim [] fun transport ↦ transport.sender.wire

/-- Every datagram behind those of `before` carries a payload that was handed over. -/
def Carries (aead : Aead) (before : List Bytes) (s : ConnectedVoiceSession D) : Prop :=
  ∃ sent, s.wire = before ++ sent ∧ ∀ datagram ∈ sent, Carried aead s.handedToTransport datagram

section Carries

variable {aead : Aead} {before : List Bytes} {s t : ConnectedVoiceSession D}

theorem Carries.congr (h : Carries aead before s) (htransport : t.transport = s.transport)
    (hhanded : t.handedToTransport = s.handedToTransport) : Carries aead before t := by
  rw [Carries, ConnectedVoiceSession.wire, htransport, hhanded]
  exact h

theorem handleGatewayEvent_carries (event : VoiceGatewayEvent) :
    Preserves (Carries aead before) (handleGatewayEvent event : SessionM D Unit) := by
  intro s hs
  have hrecord := handleGatewayEvent_mediaRecord event s
  simp only [mediaRecord, Prod.mk.injEq] at hrecord
  exact hs.congr hrecord.2.2.2 hrecord.2.2.1

theorem drainGateway_carries (n : ℕ) (inbox : List GatewayReceive) (report : VoiceGatewayDrainReport) :
    Preserves (Carries aead before)
      (drainGateway n inbox report : SessionM D VoiceGatewayDrainReport) := by
  induction n generalizing inbox report with
  | zero => exact .throw _
  | succ n ih =>
    rcases inbox with _ | ⟨event | err | _, rest⟩
    · exact .pure _
    · exact .bind (handleGatewayEvent_carries event) fun _ ↦ ih rest _
    · exact .throw _
    · exact .pure _

theorem drainBeforeSend_carries (inbox : List GatewayReceive) :
    Preserves (Carries aead before) (drainBeforeSend inbox : SessionM D Unit) := by
  have hdrain : Preserves (Carries aead before)
      (processPendingGatewayEvents false inbox : SessionM D VoiceGatewayDrainReport) := by
    refine .get_bind fun s hs ↦ .branch (fun _ ↦ .throw _) fun _ ↦ .branch (fun _ ↦ .pure _) fun _ ↦ ?_
    refine .branch (fun _ ↦ .pure _) fun _ ↦ .bind (orFail_preserves _ _) fun _ ↦ ?_
    refine .bind (drainGateway_carries _ _ _) fun report ↦ .get_bind fun t ht ↦ ?_
    refine .branch (fun _ ↦ .throw _) fun _ ↦ .branch (fun _ ↦ .throw _) fun _ ↦ ?_
    exact .branch (fun _ ↦ .throw _) fun _ ↦ .branch (fun _ ↦ .throw _) fun _ ↦ .pure _
  intro s hs
  have ht := hdrain s hs
  unfold drainBeforeSend
  cases h : processPendingGatewayEvents false inbox s with
  | ok report t =>
    rw [h] at ht
    exact ht
  | error err t =>
    rw [h] at ht
    dsimp only
    split_ifs
    · exact ht.congr rfl rfl
    · exact ht

theorem sendGateway_carries (message : GatewayMessage) :
    Preserves (Carries aead before) (sendGateway message : SessionM D Unit) := by
  refine .get_bind fun s hs ↦ .bind (orFail_preserves _ _) fun gateway ↦ ?_
  split
  · exact .bind (.set (hs.congr rfl rfl)) fun _ ↦ .throw _
  · exact .set (hs.congr rfl rfl)

theorem sendSpeaking_carries (flags : ℕ) (ssrc : UInt32) (n : ℕ) :
    Preserves (Carries aead before) (sendSpeaking flags ssrc n : SessionM D Unit) := by
  induction n with
  | zero => exact .pure _
  | succ n ih => exact .bind (sendGateway_carries _) fun _ ↦ ih

theorem prepareSpeakingBeforeMedia_carries :
    Preserves (Carries aead before) (prepareSpeakingBeforeMedia : SessionM D Unit) := by
  refine .get_bind fun s hs ↦ .branch (fun _ ↦ .pure _) fun _ ↦ ?_
  refine .bind (orFail_preserves _ _) fun ssrc ↦ .bind (orFail_preserves _ _) fun _ ↦ ?_
  exact .bind (sendSpeaking_carries 1 ssrc 3) fun _ ↦ .modify fun s hs ↦ hs.congr rfl rfl

theorem currentSlotPayload_carries (frame : Bytes) :
    Preserves (Carries aead before) (currentSlotPayload frame : SessionM D Bytes) := by
  refine .get_bind fun s hs ↦ .branch (fun _ ↦ .pure _) fun _ ↦ ?_
  split
  · split
    · exact .bind (.set (hs.congr rfl rfl)) fun _ ↦ .pure _
    · exact .bind (.set (hs.congr rfl rfl)) fun _ ↦ .throw _
  · exact .pure _

/-- The packet preparer is given the payload that the record names. -/
theorem prepareCurrentSlotAudioPacket_carried (frame : Bytes) (durationSamples : UInt32) :
    Triple (Carries aead before)
      (prepareCurrentSlotAudioPacket aead frame durationSamples : SessionM D PreparedVoicePacket)
      (fun packet t ↦ Carries aead before t ∧ Carried aead t.handedToTransport packet.bytes)
      (Carries aead before) := by
  intro s hs
  rw [prepareCurrentSlotAudioPacket, bind_apply]
  cases hpayload : currentSlotPayload frame s with
  | error err t => exact (currentSlotPayload_carries frame).error hs hpayload
  | ok payload t =>
    have ht := (currentSlotPayload_carries frame).ok hs hpayload
    cases htransport : t.transport with
    | none =>
      simp only [get_bind_apply, htransport]
      exact ht
    | some transport =>
      obtain ⟨sent, hwire, hsent⟩ := ht
      rw [ConnectedVoiceSession.wire, htransport] at hwire
      simp only [get_bind_apply, htransport, orFail, pure_bind,
        VoiceUdpTransport.prepareAudioPacketWithDurationSamples]
      rcases hprepared : transport.preparer.prepareAudioPacketWithDurationSamples aead payload
          (audioDurationMsFromSamples durationSamples) durationSamples with ⟨err | packet, preparer⟩
      · exact ⟨sent, hwire, fun datagram hd ↦ (hsent datagram hd).more _⟩
      · refine ⟨⟨sent, hwire, fun datagram hd ↦ (hsent datagram hd).more _⟩, (frame, payload), by simp, ?_⟩
        exact ⟨transport.preparer, _, durationSamples, packet, by rw [hprepared], rfl⟩

theorem sendCurrentSlotPacket_carries (socket : Except VoiceError Unit) (packet : PreparedVoicePacket) :
    Triple (fun t ↦ Carries aead before t ∧ Carried aead t.handedToTransport packet.bytes)
      (sendCurrentSlotPacket socket packet : SessionM D Unit) (fun _ ↦ Carries aead before)
      (Carries aead before) := by
  rintro s ⟨hs, hcarried⟩
  rw [sendCurrentSlotPacket, get_bind_apply]
  cases htransport : s.transport with
  | none => exact hs
  | some transport =>
    obtain ⟨sent, hwire, hsent⟩ := hs
    rw [ConnectedVoiceSession.wire, htransport] at hwire
    have hkept (t : ConnectedVoiceSession D) (hhanded : t.handedToTransport = s.handedToTransport)
        (hwire' : t.wire = transport.sender.wire) : Carries aead before t :=
      ⟨sent, hwire'.trans hwire, fun datagram hd ↦ hhanded ▸ hsent datagram hd⟩
    have hadded (t : ConnectedVoiceSession D) (hhanded : t.handedToTransport = s.handedToTransport)
        (hwire' : t.wire = transport.sender.wire ++ [packet.bytes]) : Carries aead before t := by
      refine ⟨sent ++ [packet.bytes], ?_, fun datagram hd ↦ ?_⟩
      · rw [hwire', ← List.append_assoc, ← hwire]
        rfl
      · rw [hhanded]
        obtain hd | hd := List.mem_append.mp hd
        · exact hsent datagram hd
        · rw [List.mem_singleton.mp hd]
          exact hcarried
    simp only [orFail, pure_bind, VoiceUdpTransport.sendPreparedPacket,
      VoicePreparedPacketSender.sendPreparedPacket]
    split_ifs
    · exact hkept _ rfl rfl
    · cases socket with
      | error err => exact hkept _ rfl rfl
      | ok a => exact hadded _ rfl rfl
    · cases socket with
      | error err => exact hkept _ rfl rfl
      | ok a => exact hadded _ rfl rfl

theorem sendAudioFrame_carries (inbox : List GatewayReceive) (socket : Except VoiceError Unit)
    (frame : Bytes) (durationSamples : UInt32) :
    Preserves (Carries aead before)
      (sendAudioFrameWithDurationSamples aead inbox socket frame durationSamples : SessionM D Unit) := by
  refine .bind (drainBeforeSend_carries inbox) fun _ ↦ .bind prepareSpeakingBeforeMedia_carries fun _ ↦ ?_
  exact Triple.preserves (.bind (prepareCurrentSlotAudioPacket_carried frame durationSamples) fun packet ↦
    sendCurrentSlotPacket_carries socket packet)

end Carries

inductive SessionAction
  | gatewayEvent (event : VoiceGatewayEvent)
  | markGatewayReceiveClosed
  | sendAudioFrame (inbox : List GatewayReceive) (socket : Except VoiceError Unit) (frame : Bytes)
      (durationSamples : UInt32)

/-- One call on the session; an event that cannot be processed fails it closed. -/
def sessionStep (aead : Aead) (s : ConnectedVoiceSession D) :
    SessionAction → Option (ConnectedVoiceSession D)
  | .gatewayEvent event => some (stateAfter (handleGatewayEvent event s))
  | .markGatewayReceiveClosed => some (markGatewayReceiveClosed s)
  | .sendAudioFrame inbox socket frame durationSamples =>
    some (stateAfter (sendAudioFrameWithDurationSamples aead inbox socket frame durationSamples s))

/-- The gateway is only given up while the runtime is in use, which no event takes away afterwards. -/
def ClosedWithRuntime (s : ConnectedVoiceSession D) : SessionAction → Prop
  | .gatewayEvent event => KeepsRuntime s event
  | .markGatewayReceiveClosed => s.daveFailedClosed = false → s.dave.isSome
  | .sendAudioFrame inbox _ _ _ =>
    s.daveFailedClosed = false → s.gatewayReceiveClosed = false → ClosesWithRuntime s inbox

theorem sessionStep_guarded {aead : Aead} {s t : ConnectedVoiceSession D} {action : SessionAction}
    (hs : Guarded s) (hok : ClosedWithRuntime s action) (h : sessionStep aead s action = some t) :
    Guarded t := by
  cases action with
  | gatewayEvent event =>
    cases h
    exact handleGatewayEvent_guarded hs hok
  | markGatewayReceiveClosed =>
    cases h
    exact markGatewayReceiveClosed_guarded hs hok
  | sendAudioFrame inbox socket frame durationSamples =>
    cases h
    exact (sendAudioFrame_guarded hs aead inbox socket frame durationSamples hok).1

theorem sessionStep_carries {aead : Aead} {before : List Bytes} {s t : ConnectedVoiceSession D}
    {action : SessionAction} (hs : Carries aead before s) (h : sessionStep aead s action = some t) :
    Carries aead before t := by
  cases action with
  | gatewayEvent event =>
    cases h
    exact handleGatewayEvent_carries event s hs
  | markGatewayReceiveClosed =>
    cases h
    exact hs.congr rfl rfl
  | sendAudioFrame inbox socket frame durationSamples =>
    cases h
    exact sendAudioFrame_carries inbox socket frame durationSamples s hs

/-- Media is encrypted or silent, and refused without a runtime, along every run that gives up
the gateway only while the runtime is in use; and what is on the wire is made of such payloads. -/
theorem media_protected_of_closedWithRuntime (aead : Aead) (voice : VoiceContext)
    (gateway : VoiceGatewayClient) (transport : VoiceUdpTransport) (ssrc : UInt32)
    (dave : InitialDaveState D) (actions : List SessionAction) {s : ConnectedVoiceSession D}
    (hok : Throughout (sessionStep aead) ClosedWithRuntime
      (connect voice gateway transport ssrc dave) actions)
    (h : exec (sessionStep aead) (connect voice gateway transport ssrc dave) actions = some s) :
    (∀ handed ∈ s.handedToTransport, Protected D handed) ∧
      (∃ sent, s.wire = transport.sender.wire ++ sent ∧ ∀ datagram ∈ sent, ∃ handed,
        Protected D handed ∧ MadeFrom aead handed.2 datagram) ∧
      ∀ inbox socket frame durationSamples t,
        ClosedWithRuntime s (.sendAudioFrame inbox socket frame durationSamples) →
        sendAudioFrameWithDurationSamples aead inbox socket frame durationSamples s = .ok () t →
          t.dave.isSome := by
  have hs : Guarded s := exec_induction (fun _ _ _ hs ↦ sessionStep_guarded hs)
    (connect_guarded voice gateway transport ssrc dave) hok h
  obtain ⟨sent, hwire, hsent⟩ : Carries aead transport.sender.wire s :=
    exec_invariant (fun _ _ _ hs ↦ sessionStep_carries hs) ⟨[], (List.append_nil _).symm, nofun⟩ h
  refine ⟨hs.handed, ⟨sent, hwire, fun datagram hd ↦ ?_⟩, fun inbox socket frame durationSamples t hcloses ht ↦ ?_⟩
  · obtain ⟨handed, hhanded, hmade⟩ := hsent datagram hd
    exact ⟨handed, hs.handed handed hhanded, hmade⟩
  · exact (sendAudioFrame_guarded hs aead inbox socket frame durationSamples hcloses).2 t ht

theorem media_protected_of_closedWithRuntime_marker :
    ∃ s : ConnectedVoiceSession markerDave,
      exec (sessionStep plainAead) markerSession
        [.sendAudioFrame [] (.ok ()) [0x01] 960, .markGatewayReceiveClosed,
          .sendAudioFrame [] (.ok ()) [0x02] 960] = some s ∧
      s.handedToTransport = [([0x01], [0xDA, 0x01]), ([0x02], [0xDA, 0x02])] ∧
      ∀ handed ∈ s.handedToTransport, Protected markerDave handed := by
  refine ⟨_, rfl, rfl, ?_⟩
  refine (media_protected_of_closedWithRuntime plainAead _ _ _ _ _
    [.sendAudioFrame [] (.ok ()) [0x01] 960, .markGatewayReceiveClosed,
      .sendAudioFrame [] (.ok ()) [0x02] 960] ?_
    (rfl : exec (sessionStep plainAead) markerSession _ = some _)).1
  refine ⟨fun _ _ ↦ trivial, fun t ht ↦ ⟨?_, fun u hu ↦ ⟨fun _ _ ↦ trivial, fun _ _ ↦ trivial⟩⟩⟩
  cases ht
  exact fun _ ↦ rfl

/-- The gateway announces a transition, hands over its commit and closes; the next frame goes out
as it is. -/
theorem media_leaks_after_gateway_close :
    ∃ s t : ConnectedVoiceSession markerDave,
      exec (sessionStep plainAead) markerSession
        [.sendAudioFrame [] (.ok ()) [0x01] 960] = some s ∧
      sendAudioFrameWithDurationSamples plainAead
        [.event (.davePrepareTransition 5 1), .event (.daveMlsPrepareCommitTransition 5 [0xC1]),
          .failed (.invalidState "voice gateway closed during receive")]
        (.ok ()) [0x02] 960 s = .ok () t ∧
      t.dave = none ∧ ([0x02], [0x02]) ∈ t.handedToTransport ∧
      ¬Protected markerDave ([0x02], [0x02]) := by
  refine ⟨_, _, rfl, rfl, rfl, by decide, ?_⟩
  rintro (h | ⟨runtime, h⟩)
  · cases h
  · cases h

end DiscordVoice.Voice
