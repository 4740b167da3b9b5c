import DiscordVoice.Schedule
import DiscordVoice.Voice.ObserverReceive
import DiscordVoice.Voice.ObserverRoster

namespace DiscordVoice.Voice

namespace Sighting

/-- What was sighted since the last disconnect of a user. -/
def recent (userId : String) (log : List Sighting) : List Sighting :=
  log.foldl (fun since x ↦ if x = .disconnected userId then [] else since ++ [x]) []

/-- The candidates there were when the SSRC was mapped to the user. -/
def candidatesAt (ssrc : UInt32) (userId : String) : Sighting → Option (Finset String)
  | .mapped owner source candidates =>
    if owner = userId ∧ source = ssrc then some candidates else none
  | _ => none

/-- The candidates there were when the SSRC was first mapped to the user, since the user's last
disconnect. -/
def firstMapping (log : List Sighting) (ssrc : UInt32) (userId : String) :
    Option (Finset String) :=
  (recent userId log).findSome? (candidatesAt ssrc userId)

/-- The SSRC is the user's: since the last disconnect the gateway said so, or a packet was decrypted
with the user's key, or there was nobody else when the SSRC was first mapped. -/
def Attributed (log : List Sighting) (ssrc : UInt32) (userId : String) : Prop :=
  .spoke userId ssrc ∈ recent userId log ∨ .decrypted userId ssrc ∈ recent userId log ∨
    firstMapping log ssrc userId = some {userId}

/-- Every SSRC that was mapped to a user, and not forgotten since, is the user's. -/
def Settled (log : List Sighting) : Prop :=
  ∀ ssrc userId, (firstMapping log ssrc userId).isSome → Attributed log ssrc userId

/-- Every frame handed out was the user's at that time, and of the user asked for. -/
def WellReturned (log : List Sighting) : Prop :=
  ∀ before expected frame after, log = before ++ .returned expected frame :: after →
    Attributed before frame.ssrc frame.userId ∧ ∀ userId, expected = some userId → frame.userId = userId

variable {log : List Sighting} {x : Sighting} {ssrc : UInt32} {userId : String}

theorem recent_concat (userId : String) (log : List Sighting) (x : Sighting) :
    recent userId (log ++ [x]) = if x = .disconnected userId then [] else recent userId log ++ [x] := by
  simp only [recent, List.foldl_append, List.foldl_cons, List.foldl_nil]

theorem firstMapping_concat (hx : x ≠ .disconnected userId) :
    firstMapping (log ++ [x]) ssrc userId =
      (firstMapping log ssrc userId).or (candidatesAt ssrc userId x) := by
  simp only [firstMapping, recent_concat, if_neg hx, List.findSome?_append, List.findSome?_cons,
    List.findSome?_nil]
  cases candidatesAt ssrc userId x <;> rfl

theorem firstMapping_disconnected : firstMapping (log ++ [.disconnected userId]) ssrc userId = none := by
  simp only [firstMapping, recent_concat, if_true, List.findSome?_nil]

theorem Attributed.concat (h : Attributed log ssrc userId) (hx : x ≠ .disconnected userId) :
    Attributed (log ++ [x]) ssrc userId := by
  have hmem : ∀ y ∈ recent userId log, y ∈ recent userId (log ++ [x]) := by
    intro y hy
    rw [recent_concat, if_neg hx]
    exact List.mem_append_left [x] hy
  rcases h with hspoke | hdecrypted | halone
  · exact .inl (hmem _ hspoke)
  · exact .inr (.inl (hmem _ hdecrypted))
  · refine .inr (.inr ?_)
    rw [firstMapping_concat hx, halone, Option.some_or]

theorem attributed_spoke (log : List Sighting) (ssrc : UInt32) (userId : String) :
    Attributed (log ++ [.spoke userId ssrc]) ssrc userId := by
  refine .inl ?_
  rw [recent_concat, if_neg (by simp)]
  exact List.mem_append_right _ List.mem_cons_self

theorem attributed_decrypted (log : List Sighting) (ssrc : UInt32) (userId : String) :
    Attributed (log ++ [.decrypted userId ssrc]) ssrc userId := by
  refine .inr (.inl ?_)
  rw [recent_concat, if_neg (by simp)]
  exact List.mem_append_right _ List.mem_cons_self

theorem Settled.concat (h : Settled log)
    (hx : ∀ ssrc userId, candidatesAt ssrc userId x = none) : Settled (log ++ [x]) := by
  intro ssrc userId hmapped
  by_cases hgone : x = .disconnected userId
  · rw [hgone, firstMapping_disconnected] at hmapped
    cases hmapped
  · rw [firstMapping_concat hgone, hx, Option.or_none] at hmapped
    exact (h ssrc userId hmapped).concat hgone

theorem Settled.concat_mapped {candidates : Finset String} (h : Settled log)
    (hown : Attributed log ssrc userId ∨ candidates = {userId}) :
    Settled (log ++ [.mapped userId ssrc candidates]) := by
  intro ssrc' userId' hmapped
  have hstays : Sighting.mapped userId ssrc candidates ≠ .disconnected userId' := by simp
  cases hfirst : firstMapping log ssrc' userId' with
  | some first => exact (h ssrc' userId' (by simp [hfirst])).concat hstays
  | none =>
    rw [firstMapping_concat hstays, hfirst, Option.none_or] at hmapped
    simp only [candidatesAt] at hmapped
    split_ifs at hmapped with hsame
    · obtain ⟨rfl, rfl⟩ := hsame
      rcases hown with hown | rfl
      · exact hown.concat hstays
      · refine .inr (.inr ?_)
        rw [firstMapping_concat hstays, hfirst, Option.none_or, candidatesAt, if_pos ⟨rfl, rfl⟩]
    · cases hmapped

theorem WellReturned.concat (h : WellReturned log)
    (hx : ∀ expected frame, x = .returned expected frame →
      Attributed log frame.ssrc frame.userId ∧ ∀ userId, expected = some userId → frame.userId = userId) :
    WellReturned (log ++ [x]) := by
  intro before expected frame after hlog
  rcases after.eq_nil_or_concat with rfl | ⟨after, y, rfl⟩
  · obtain ⟨rfl, hlast⟩ := List.append_inj' hlog rfl
    exact hx expected frame (List.singleton_inj.mp hlast)
  · have hsplit : log ++ [x] = (before ++ .returned expected frame :: after) ++ [y] := by
      simpa using hlog
    exact h before expected frame after (List.append_inj' hsplit rfl).1

end Sighting

namespace ObservedVoiceSession

open Fallible Sighting

variable {D : ObserverLibdave} {s t : ObservedVoiceSession D}

/-- What the attribution rests on, of the map, the packets that wait and the sightings. -/
structure SoundAt (speakers : SortedMap UInt32 String) (packets : SortedMap UInt32 PendingPacket)
    (log : List Sighting) : Prop where
  settled : Settled log
  logged : ∀ ssrc userId, speakers.get? ssrc = some userId → (firstMapping log ssrc userId).isSome
  keyed : ∀ ssrc pending, packets.get? ssrc = some pending → pending.header.ssrc = ssrc
  returned : WellReturned log

def Sound (s : ObservedVoiceSession D) : Prop :=
  SoundAt s.speakerSsrcs s.pendingPackets s.sightings

namespace SoundAt

variable {speakers : SortedMap UInt32 String} {packets : SortedMap UInt32 PendingPacket}
  {log : List Sighting} {ssrc : UInt32} {userId : String}

theorem attributed (h : SoundAt speakers packets log) (hmapped : speakers.get? ssrc = some userId) :
    Attributed log ssrc userId :=
  h.settled ssrc userId (h.logged ssrc userId hmapped)

theorem logged_concat (h : SoundAt speakers packets log) {x : Sighting}
    (hmapped : speakers.get? ssrc = some userId) (hx : x ≠ .disconnected userId) :
    (firstMapping (log ++ [x]) ssrc userId).isSome := by
  rw [firstMapping_concat hx, Option.isSome_or, h.logged ssrc userId hmapped, Bool.true_or]

theorem spoke (h : SoundAt speakers packets log) (ssrc : UInt32) (userId : String) :
    SoundAt speakers packets (log ++ [.spoke userId ssrc]) where
  settled := h.settled.concat fun _ _ ↦ rfl
  logged _ _ hmapped := h.logged_concat hmapped (by simp)
  keyed := h.keyed
  returned := h.returned.concat (by simp)

theorem decrypted (h : SoundAt speakers packets log) (ssrc : UInt32) (userId : String) :
    SoundAt speakers packets (log ++ [.decrypted userId ssrc]) where
  settled := h.settled.concat fun _ _ ↦ rfl
  logged _ _ hmapped := h.logged_concat hmapped (by simp)
  keyed := h.keyed
  returned := h.returned.concat (by simp)

theorem handedOut (h : SoundAt speakers packets log) {expected : Option String}
    {frame : ObservedAudioFrame} (hframe : Attributed log frame.ssrc frame.userId)
    (hexpected : ∀ userId, expected = some userId → frame.userId = userId) :
    SoundAt speakers packets (log ++ [.returned expected frame]) where
  settled := h.settled.concat fun _ _ ↦ rfl
  logged _ _ hmapped := h.logged_concat hmapped (by simp)
  keyed := h.keyed
  returned := by
    refine h.returned.concat fun expected' frame' hsame ↦ ?_
    cases hsame
    exact ⟨hframe, hexpected⟩

theorem disconnected (h : SoundAt speakers packets log)
    (hnone : ∀ ssrc, speakers.get? ssrc ≠ some userId) :
    SoundAt speakers packets (log ++ [.disconnected userId]) where
  settled := h.settled.concat fun _ _ ↦ rfl
  logged ssrc other hmapped := by
    refine h.logged_concat hmapped fun hsame ↦ ?_
    cases hsame
    exact hnone ssrc hmapped
  keyed := h.keyed
  returned := h.returned.concat (by simp)

theorem sublist {fewer : SortedMap UInt32 String} (h : SoundAt speakers packets log)
    (hsub : ∀ ssrc userId, fewer.get? ssrc = some userId → speakers.get? ssrc = some userId) :
    SoundAt fewer packets log where
  settled := h.settled
  logged ssrc userId hmapped := h.logged ssrc userId (hsub ssrc userId hmapped)
  keyed := h.keyed
  returned := h.returned

theorem forgotten (h : SoundAt speakers packets log) (userId : String) :
    SoundAt (forgetSpeaker speakers userId) packets (log ++ [.disconnected userId]) := by
  have hfilter : ∀ ssrc other, (forgetSpeaker speakers userId).get? ssrc = some other →
      speakers.get? ssrc = some other ∧ other ≠ userId := by
    intro ssrc other hmapped
    rw [forgetSpeaker, SortedMap.get?_retain, Option.filter_eq_some_iff] at hmapped
    exact ⟨hmapped.1, of_decide_eq_true hmapped.2⟩
  have hfewer := h.sublist fun ssrc other hmapped ↦ (hfilter ssrc other hmapped).1
  exact hfewer.disconnected fun ssrc hmapped ↦ (hfilter ssrc userId hmapped).2 rfl

theorem recorded (h : SoundAt speakers packets log) {candidates : Finset String}
    (hown : Attributed log ssrc userId ∨ candidates = {userId}) :
    SoundAt (speakers.insert ssrc userId) packets (log ++ [.mapped userId ssrc candidates]) where
  settled := h.settled.concat_mapped hown
  logged ssrc' userId' hmapped := by
    have hstays : Sighting.mapped userId ssrc candidates ≠ .disconnected userId' := by simp
    rw [SortedMap.get?_insert] at hmapped
    split_ifs at hmapped with hsame
    · cases hmapped
      rw [firstMapping_concat hstays, hsame, Option.isSome_or, candidatesAt, if_pos ⟨rfl, rfl⟩,
        Option.isSome_some, Bool.or_true]
    · exact h.logged_concat hmapped hstays
  keyed := h.keyed
  returned := h.returned.concat (by simp)

theorem removed (h : SoundAt speakers packets log) (ssrc : UInt32) :
    SoundAt speakers (packets.remove ssrc) log where
  settled := h.settled
  logged := h.logged
  keyed ssrc' pending hpending := by
    rw [SortedMap.get?_remove] at hpending
    split_ifs at hpending
    exact h.keyed ssrc' pending hpending
  returned := h.returned

theorem buffered (h : SoundAt speakers packets log) {pending : PendingPacket}
    (hkey : pending.header.ssrc = ssrc) : SoundAt speakers (packets.insert ssrc pending) log where
  settled := h.settled
  logged := h.logged
  keyed ssrc' pending' hpending := by
    rw [SortedMap.get?_insert] at hpending
    split_ifs at hpending with hsame
    · cases hpending
      rw [hsame, hkey]
    · exact h.keyed ssrc' pending' hpending
  returned := h.returned

/-- What a join that failed has heard of. -/
theorem heardOf (h : SoundAt speakers packets log) {events : List RosterEvent}
    (hnone : ∀ userId, .clientDisconnect userId ∈ events → ∀ ssrc, speakers.get? ssrc ≠ some userId) :
    SoundAt speakers packets (log ++ events.flatMap RosterEvent.sightings) := by
  induction events generalizing log with
  | nil => simpa using h
  | cons event events ih =>
    rw [List.flatMap_cons, ← List.append_assoc]
    refine ih ?_ fun userId hmem ↦ hnone userId (List.mem_cons_of_mem event hmem)
    rcases event with userIds | userId | ⟨_ | userId, ssrc, flags⟩
    · simpa [RosterEvent.sightings] using h
    · exact h.disconnected (hnone userId List.mem_cons_self)
    · simpa [RosterEvent.sightings] using h
    · exact h.spoke ssrc userId

end SoundAt

theorem Sound.recordSpeakerSsrc (h : Sound s) {userId : String} {ssrc : UInt32}
    (hown : Attributed s.sightings ssrc userId ∨ s.remoteSpeakerCandidates = {userId}) :
    Sound (s.recordSpeakerSsrc userId ssrc) :=
  SoundAt.recorded h hown

theorem Sound.applyRosterEvent (h : Sound s) (event : RosterEvent) :
    Sound (s.applyRosterEvent event) := by
  rcases event with userIds | userId | ⟨_ | userId, ssrc, flags⟩
  · simpa [ObservedVoiceSession.applyRosterEvent, applyClientsConnect_eq, RosterEvent.sightings,
      Sound] using h
  · exact SoundAt.forgotten h userId
  · simp only [ObservedVoiceSession.applyRosterEvent, RosterEvent.sightings, List.append_nil,
      applySpeaking, Option.none_or]
    cases hmapped : s.speakerSsrcs.get? ssrc with
    | none => exact h
    | some userId =>
      simp only
      split_ifs
      · exact Sound.recordSpeakerSsrc h (.inl (SoundAt.attributed h hmapped))
      · exact h
  · have hspoke := SoundAt.spoke h ssrc userId
    simp only [ObservedVoiceSession.applyRosterEvent, RosterEvent.sightings, applySpeaking,
      Option.some_or]
    split_ifs
    · exact hspoke.recorded (.inl (attributed_spoke s.sightings ssrc userId))
    · exact hspoke

theorem Sound.applyPendingGatewayUpdate (h : Sound s) (update : PendingObserverGatewayUpdate) :
    Sound (s.applyPendingGatewayUpdate update) := by
  cases update with
  | speaking userId ssrc =>
    have hspoke := SoundAt.spoke h ssrc userId
    exact hspoke.recorded (.inl (attributed_spoke s.sightings ssrc userId))
  | clientDisconnect userId => exact SoundAt.forgotten h userId

/-- The update of a first join is that of a later one, but for the recognised users. -/
theorem applyFirstJoinUpdate_eq (s : ObservedVoiceSession D) (update : PendingObserverGatewayUpdate) :
    s.applyFirstJoinUpdate update =
      { s.applyPendingGatewayUpdate update with daveRecognizedUserIds := s.daveRecognizedUserIds } := by
  cases update <;> rfl

theorem Sound.applyFirstJoinUpdate (h : Sound s) (update : PendingObserverGatewayUpdate) :
    Sound (s.applyFirstJoinUpdate update) := by
  rw [applyFirstJoinUpdate_eq]
  exact h.applyPendingGatewayUpdate update

theorem Sound.foldl {β : Type} {f : ObservedVoiceSession D → β → ObservedVoiceSession D}
    (hf : ∀ s b, Sound s → Sound (f s b)) (h : Sound s) (bs : List β) : Sound (bs.foldl f s) := by
  induction bs generalizing s with
  | nil => exact h
  | cons b bs ih => exact ih (hf s b h)

theorem Sound.applyObserverDaveReady (h : Sound s) (pending : PendingObserverDave)
    (ready : ObserverReady D) : Sound (s.applyObserverDaveReady pending ready) := by
  have hjoined : Sound (s.joined pending ready) := h
  exact hjoined.foldl (fun s update hs ↦ hs.applyPendingGatewayUpdate update) pending.gatewayUpdates

theorem Sound.awaitDaveReady (h : Sound s) (pending : PendingObserverDave)
    (ready : ObserverReady D) : Sound (s.awaitDaveReady pending ready) := by
  have hjoined : Sound (s.joined pending ready) := h
  exact hjoined.foldl (fun s update hs ↦ hs.applyFirstJoinUpdate update) pending.gatewayUpdates

theorem connecting_sound (voice : VoiceContext) (gateway : VoiceGatewayClient)
    (protection : ProtectionContext) (authorDaveProposals : Bool) :
    Sound (connecting (D := D) voice gateway protection authorDaveProposals) where
  settled ssrc userId hmapped := by cases hmapped
  logged ssrc userId hmapped := by cases hmapped
  keyed ssrc pending hpending := by cases hpending
  returned before expected frame after hlog := by simp [connecting] at hlog

/-- The join fails after the gateway has told it that somebody with an SSRC left. -/
def losesDisconnect (join : ObserverJoin D) (s : ObservedVoiceSession D) : Bool :=
  match join.result with
  | .ok _ => false
  | .error _ => join.events.any fun event ↦
      s.speakerSsrcs.entries.any fun e ↦ event = .clientDisconnect e.2

def SoundBefore (join : ObserverJoin D) (s : ObservedVoiceSession D) : Prop :=
  Sound s ∧ losesDisconnect join s = false

variable {join : ObserverJoin D}

theorem completeJoin_leads : Leads (SoundBefore join) Sound (completeJoin join) := by
  rintro s ⟨hs, hkept⟩
  simp only [completeJoin, get_bind_apply]
  cases hresult : join.result with
  | ok ready =>
    exact Sound.applyObserverDaveReady (s := { s with dave := none }) hs _ ready
  | error err =>
    refine SoundAt.heardOf hs fun userId hmem ssrc hmapped ↦ ?_
    simp only [losesDisconnect, hresult, List.any_eq_false, Bool.not_eq_true,
      decide_eq_false_iff_not] at hkept
    exact hkept _ hmem (ssrc, userId) (SortedMap.get?_eq_some.mp hmapped) rfl

theorem available_preserves {α : Type} {I : ObservedVoiceSession D → Prop} (reason : String)
    (value : Option α) : Preserves I (available reason value) := by
  cases value with
  | none => exact .throw _
  | some a => exact .pure a

theorem succeeded_preserves {α : Type} {I : ObservedVoiceSession D → Prop} (reason : String)
    (value : Except DaveError α) : Preserves I (succeeded reason value) := by
  cases value with
  | error err => exact .throw _
  | ok a => exact .pure a

theorem send_preserves (message : GatewayMessage) : Preserves (SoundBefore join) (send message) := by
  refine .get_bind fun s hs ↦ .bind (available_preserves _ _) fun gateway ↦ ?_
  split
  · exact .bind (.set hs) fun _ ↦ .throw _
  · exact .set hs

theorem reinitializeDave_leads (invalidTransitionId : TransitionId) :
    Leads (SoundBefore join) Sound (reinitializeDave invalidTransitionId join) := by
  refine .get_bind fun s hs ↦ .bind (fun s hs ↦ hs.1) (available_preserves _ _) fun material ↦ ?_
  refine .bind (fun s hs ↦ hs.1) (available_preserves _ _) fun gateway ↦ ?_
  refine .bind (fun s hs ↦ hs.1) ?_ fun _ ↦ completeJoin_leads
  refine .get_bind fun s hs ↦ .bind (succeeded_preserves _ _) fun session ↦ ?_
  refine .bind (succeeded_preserves _ _) fun session ↦ .bind (succeeded_preserves _ _) fun session ↦ ?_
  refine .bind (send_preserves _) fun _ ↦ .bind (succeeded_preserves _ _) fun keyPackage ↦ ?_
  exact send_preserves _

theorem finishDaveTransition_leads (transitionId : TransitionId) :
    Leads (SoundBefore join) Sound (finishDaveTransition transitionId) := by
  refine .of_preserves (fun s hs ↦ hs.1) (.bind (.modify fun s hs ↦ hs) fun _ ↦ ?_)
  split
  · exact .bind (send_preserves _) fun _ ↦ .modify fun s hs ↦ hs
  · exact .modify fun s hs ↦ hs

theorem applyDaveProposals_leads (operation : DaveMlsProposalsOperation) (proposals : Bytes) :
    Leads (SoundBefore join) Sound (applyDaveProposals operation proposals join) := by
  refine .get_bind fun s hs ↦ .branch (fun _ ↦ fun _ _ ↦ hs.1) fun _ ↦ ?_
  split
  · exact fun _ hs ↦ hs.1
  · split
    · exact fun _ _ ↦ hs.1
    · exact .of_preserves (fun s hs ↦ hs.1) (.bind (.set hs) fun _ ↦
        send_preserves _)
    · refine .bind (fun s hs ↦ hs.1) (.set hs) fun _ ↦ .branch (fun _ ↦ ?_) fun _ ↦ fun _ hs ↦ hs.1
      exact reinitializeDave_leads _

theorem applyDaveWelcome_leads (transitionId : TransitionId) (welcome : Bytes) :
    Leads (SoundBefore join) Sound (applyDaveWelcome transitionId welcome join) := by
  refine .get_bind fun s hs ↦ .branch (fun _ _ hs ↦ hs.1) fun _ ↦ ?_
  split
  · exact fun _ hs ↦ hs.1
  · split
    · exact .bind (fun s hs ↦ hs.1) (.set hs) fun _ ↦ reinitializeDave_leads transitionId
    · exact .bind (fun s hs ↦ hs.1) (.set hs) fun _ ↦ finishDaveTransition_leads transitionId

theorem applyDaveCommitTransition_leads (transitionId : TransitionId) (commit : Bytes) :
    Leads (SoundBefore join) Sound (applyDaveCommitTransition transitionId commit join) := by
  refine .get_bind fun s hs ↦ .branch (fun _ _ hs ↦ hs.1) fun _ ↦ ?_
  split
  · exact fun _ hs ↦ hs.1
  · split
    · exact .bind (fun s hs ↦ hs.1) (.set hs) fun _ ↦ reinitializeDave_leads transitionId
    · split
      · exact .bind (fun s hs ↦ hs.1) (.set hs) fun _ ↦ reinitializeDave_leads transitionId
      · exact .bind (fun s hs ↦ hs.1) (.set hs) fun _ ↦ finishDaveTransition_leads transitionId

theorem applyGatewayPayload_leads (event : ObserverGatewayEvent) :
    Leads (SoundBefore join) Sound (applyGatewayPayload event join) := by
  cases event with
  | roster event => exact fun s hs ↦ hs.1.applyRosterEvent event
  | daveMlsProposals operation proposals => exact applyDaveProposals_leads operation proposals
  | daveMlsWelcome transitionId welcome => exact applyDaveWelcome_leads transitionId welcome
  | daveMlsPrepareCommitTransition transitionId commit =>
    exact applyDaveCommitTransition_leads transitionId commit
  | other => exact fun s hs ↦ hs.1

/-- What decoding a packet leaves as it was. -/
structure Kept (s t : ObservedVoiceSession D) : Prop where
  sound : Sound t
  speakers : t.speakerSsrcs = s.speakerSsrcs
  packets : t.pendingPackets = s.pendingPackets
  candidates : t.remoteSpeakerCandidates = s.remoteSpeakerCandidates

theorem Kept.refl (h : Sound s) : Kept s s := ⟨h, rfl, rfl, rfl⟩

/-- The packet can be opened and holds silence. -/
def silentPacket (opener : AeadOpener) (packet : Bytes) (s : ObservedVoiceSession D) : Bool :=
  match s.protection with
  | none => false
  | some protection =>
    match unprotectPacket opener protection packet with
    | .ok (_, payload) => payload = opusSilenceFrame
    | .error _ => false

theorem decryptAudioPayload_spec (hs : Sound s) (userId : String) (ssrc : UInt32) (payload : Bytes) :
    match decryptAudioPayload userId ssrc payload s with
    | .ok _ t => Kept s t ∧
        (s.dave.isSome → Attributed t.sightings ssrc userId ∨ payload = opusSilenceFrame)
    | .error _ t => Kept s t := by
  simp only [decryptAudioPayload, get_bind_apply]
  cases hdave : s.dave with
  | none => exact ⟨.refl hs, fun h ↦ by cases h⟩
  | some dave =>
    simp only
    split_ifs with hsilent
    · exact ⟨.refl hs, fun _ ↦ .inr hsilent⟩
    · rcases D.decryptAudioFrameFrom dave userId payload with ⟨_ | decrypted, next⟩
      · exact ⟨hs, rfl, rfl, rfl⟩
      · refine ⟨⟨SoundAt.decrypted hs ssrc userId, rfl, rfl, rfl⟩, fun _ ↦ .inl ?_⟩
        exact attributed_decrypted s.sightings ssrc userId

variable {opener : AeadOpener}

variable (opener) in
theorem decodeAudioPacket_spec (hs : Sound s) (packet : Bytes) (header : RtpHeader)
    (userId : String) :
    match decodeAudioPacket opener packet header userId s with
    | .ok frame t => Kept s t ∧ frame.userId = userId ∧ frame.ssrc = header.ssrc ∧
        (s.dave.isSome →
          Attributed t.sightings header.ssrc userId ∨ silentPacket opener packet s = true)
    | .error _ t => Kept s t := by
  simp only [decodeAudioPacket, get_bind_apply, silentPacket]
  cases s.protection with
  | none => exact .refl hs
  | some protection =>
    simp only
    cases unprotectPacket opener protection packet with
    | error err => exact .refl hs
    | ok opened =>
      have hpayload := decryptAudioPayload_spec hs userId header.ssrc opened.2
      simp only [bind_apply]
      cases hdecrypt : decryptAudioPayload userId header.ssrc opened.2 s with
      | error err t =>
        rw [hdecrypt] at hpayload
        exact hpayload
      | ok payload t =>
        rw [hdecrypt] at hpayload
        refine ⟨hpayload.1, rfl, rfl, fun hdave ↦ ?_⟩
        simpa using hpayload.2 hdave

/-- The frame is of the user the session says, and of the one that was asked for. -/
def Owned (t : ObservedVoiceSession D) (expected : Option String) (frame : ObservedAudioFrame) :
    Prop :=
  Attributed t.sightings frame.ssrc frame.userId ∧
    ∀ userId, expected = some userId → frame.userId = userId

theorem owned_of_mapped {expected : Option String} {frame : ObservedAudioFrame} {ssrc : UInt32}
    {userId : String} (hkept : Kept s t) (hmapped : s.speakerSsrcs.get? ssrc = some userId)
    (huser : frame.userId = userId) (hssrc : frame.ssrc = ssrc)
    (hexpected : ∀ user, expected = some user → userId = user) : Owned t expected frame := by
  refine ⟨?_, fun user hsame ↦ ?_⟩
  · rw [huser, hssrc]
    refine hkept.sound.attributed ?_
    rw [hkept.speakers]
    exact hmapped
  · rw [huser]
    exact hexpected user hsame

section Packets

variable {α : Type} {expected : Option String} {audio : ObservedAudioFrame → α}
  {unready : ObservedRtpPacket → Option α}

/-- The session stays sound, and a frame that comes out is owned. -/
def Delivers (expected : Option String) (audio : ObservedAudioFrame → α)
    (unready : ObservedRtpPacket → Option α) :
    EStateM.Result VoiceError (ObservedVoiceSession D) (Option α) → Prop
  | .ok (some a) t => Sound t ∧
      ((∃ frame, a = audio frame ∧ Owned t expected frame) ∨ ∃ observed, unready observed = some a)
  | .ok none t | .error _ t => Sound t

theorem processMappedPacket_delivers (hs : Sound s) (packet : Bytes) (header : RtpHeader) :
    Delivers expected audio unready
      (processMappedPacket opener expected audio unready packet header s) := by
  have hremoved := SoundAt.removed hs header.ssrc
  simp only [processMappedPacket, get_bind_apply, set_bind_apply]
  cases hmapped : s.speakerSsrcs.get? header.ssrc with
  | none => exact hremoved
  | some userId =>
    simp only [available, pure_bind, branch_apply]
    split_ifs with hother
    · exact hremoved
    · have hexpected : ∀ user, expected = some user → userId = user := by
        rintro user rfl
        simpa using hother
      have hdecode := decodeAudioPacket_spec opener
        (s := { s with pendingPackets := s.pendingPackets.remove header.ssrc }) hremoved packet
        header userId
      cases hresult : decodeAudioPacket opener packet header userId
          { s with pendingPackets := s.pendingPackets.remove header.ssrc } with
      | error err t =>
        rw [hresult] at hdecode
        cases err with
        | notReady =>
          have hbuffered : Sound (bufferPacket header packet t) := hdecode.sound.buffered rfl
          simp only [set_bind_apply, pure_apply]
          cases hunready : unready ⟨userId, header.ssrc, header.sequence, header.timestamp⟩ with
          | none => exact hbuffered
          | some a => exact ⟨hbuffered, .inr ⟨_, hunready⟩⟩
        | fatal err => exact hdecode.sound
      | ok frame t =>
        rw [hresult] at hdecode
        obtain ⟨hkept, huser, hssrc, -⟩ := hdecode
        have hown : Owned t expected frame := owned_of_mapped hkept hmapped huser hssrc hexpected
        exact ⟨hkept.sound, .inl ⟨frame, rfl, hown⟩⟩

theorem inferSingleRemoteSpeaker_eq_some {userId : String}
    (h : s.inferSingleRemoteSpeaker expected = some userId) : s.remoteSpeakerCandidates = {userId} := by
  unfold inferSingleRemoteSpeaker at h
  split at h
  · rename_i candidate hsort
    split_ifs at h
    cases h
    rw [← Finset.sort_toFinset s.remoteSpeakerCandidates (· ≤ ·), hsort]
    rfl
  · cases h

theorem processUnattributedPacket_delivers (hs : Sound s) (packet : Bytes) (header : RtpHeader) :
    Delivers expected audio unready
      (processUnattributedPacket opener expected audio unready packet header s) := by
  simp only [processUnattributedPacket, get_bind_apply]
  cases hinfer : s.inferSingleRemoteSpeaker expected with
  | none => exact SoundAt.buffered hs rfl
  | some userId =>
    refine processMappedPacket_delivers (hs.recordSpeakerSsrc (.inr ?_)) packet header
    exact inferSingleRemoteSpeaker_eq_some hinfer

/-- A silent packet of an SSRC without a user would be taken for one of the expected user, although
there are others. -/
def guessesSpeaker (opener : AeadOpener) (expected : Option String) (packet : Bytes)
    (s : ObservedVoiceSession D) : Bool :=
  match expected, parseRtpHeader packet with
  | some userId, .ok header =>
    !isRtcpPacket packet && !s.speakerSsrcs.contains header.ssrc && s.dave.isSome &&
      silentPacket opener packet s && s.remoteSpeakerCandidates ≠ {userId}
  | _, _ => false

theorem processUnmappedPacket_delivers (hs : Sound s) {packet : Bytes} {header : RtpHeader}
    (hknown : ∀ userId, expected = some userId → s.dave.isSome →
      silentPacket opener packet s = true → s.remoteSpeakerCandidates = {userId}) :
    Delivers expected audio unready
      (processUnmappedPacket opener expected audio unready packet header s) := by
  simp only [processUnmappedPacket, get_bind_apply]
  cases hexpected : expected with
  | none => exact processUnattributedPacket_delivers hs packet header
  | some userId =>
    cases hdave : s.dave with
    | none => exact processUnattributedPacket_delivers hs packet header
    | some dave =>
      have hdecode := decodeAudioPacket_spec opener hs packet header userId
      simp only
      cases hresult : decodeAudioPacket opener packet header userId s with
      | error err t =>
        rw [hresult] at hdecode
        cases err with
        | notReady => exact processUnattributedPacket_delivers hdecode.sound packet header
        | fatal err =>
          simp only [set_bind_apply, branch_apply]
          split_ifs
          · exact hdecode.sound
          · exact hdecode.sound
      | ok frame t =>
        rw [hresult] at hdecode
        obtain ⟨hkept, huser, hssrc, hown⟩ := hdecode
        have hisSome : s.dave.isSome := by rw [hdave]; rfl
        have hrecorded : Sound (t.recordSpeakerSsrc userId header.ssrc) := by
          refine hkept.sound.recordSpeakerSsrc ?_
          rcases hown hisSome with hown | hsilent
          · exact .inl hown
          · refine .inr ?_
            rw [hkept.candidates]
            exact hknown userId hexpected hisSome hsilent
        refine ⟨hrecorded, .inl ⟨frame, rfl, ?_, fun user hsame ↦ ?_⟩⟩
        · rw [huser, hssrc]
          refine hrecorded.attributed ?_
          simp only [recordSpeakerSsrc, SortedMap.get?_insert, if_true]
        · rw [huser]
          exact Option.some_inj.mp hsame

theorem processPacket_delivers (hs : Sound s) {packet : Bytes}
    (hknown : guessesSpeaker opener expected packet s = false) :
    Delivers expected audio unready (processPacket opener expected audio unready packet s) := by
  simp only [processPacket, branch_apply]
  split_ifs with hrtcp
  · exact hs
  · cases hheader : parseRtpHeader packet with
    | error err => exact hs
    | ok header =>
      simp only [get_bind_apply, branch_apply]
      split_ifs with hmapped
      · exact processMappedPacket_delivers hs packet header
      · refine processUnmappedPacket_delivers hs fun userId hexpected hdave hsilent ↦ ?_
        by_contra hothers
        simp [guessesSpeaker, hexpected, hheader, hrtcp, hmapped, hdave, hsilent, hothers] at hknown

end Packets

theorem tryDecodePendingAudioFrame_delivers {expected : Option String} (hs : Sound s)
    (ssrcs : List UInt32) :
    Delivers expected id (fun _ ↦ none) (tryDecodePendingAudioFrame opener expected ssrcs s) := by
  induction ssrcs generalizing s with
  | nil => exact hs
  | cons ssrc ssrcs ih =>
    simp only [tryDecodePendingAudioFrame, get_bind_apply]
    cases hmapped : s.speakerSsrcs.get? ssrc with
    | none => exact ih hs
    | some userId =>
      cases hpending : s.pendingPackets.get? ssrc with
      | none => exact hs
      | some pending =>
        have hkey := hs.keyed ssrc pending hpending
        have hremoved : Sound { s with pendingPackets := s.pendingPackets.remove ssrc } :=
          SoundAt.removed hs ssrc
        simp only [available, pure_bind, set_bind_apply, branch_apply]
        split_ifs with hother
        · exact ih hremoved
        · have hdecode := decodeAudioPacket_spec opener hremoved pending.packet
            pending.header userId
          cases hresult : decodeAudioPacket opener pending.packet pending.header userId
              { s with pendingPackets := s.pendingPackets.remove ssrc } with
          | error err t =>
            rw [hresult] at hdecode
            cases err with
            | notReady => exact ih (hdecode.sound.buffered hkey)
            | fatal err => exact hdecode.sound
          | ok frame t =>
            rw [hresult] at hdecode
            obtain ⟨hkept, huser, hssrc, -⟩ := hdecode
            have hexpected : ∀ user, expected = some user → userId = user := by
              rintro user rfl
              simpa using hother
            have hown : Owned t expected frame :=
              owned_of_mapped hkept hmapped huser (hssrc.trans hkey) hexpected
            exact ⟨hkept.sound, .inl ⟨frame, rfl, hown⟩⟩

theorem returning_sound {expected : Option String} {x : ObserverM D (Option ObservedAudioFrame)}
    (hx : Delivers expected id (fun _ ↦ none) (x s)) : Sound (stateAfter (returning expected x s)) := by
  rw [returning, bind_apply]
  cases hresult : x s with
  | error err t =>
    rw [hresult] at hx
    exact hx
  | ok value t =>
    rw [hresult] at hx
    cases value with
    | none => exact hx
    | some frame =>
      obtain ⟨ht, ⟨frame', rfl, hown⟩ | ⟨observed, hnone⟩⟩ := hx
      · exact SoundAt.handedOut ht hown.1 hown.2
      · cases hnone

def DeliversActivity (expected : String) :
    EStateM.Result VoiceError (ObservedVoiceSession D) (Option ObservedVoiceActivity) → Prop
  | .ok (some (.audio frame)) t => Sound t ∧ Owned t (some expected) frame
  | .ok _ t | .error _ t => Sound t

theorem returningActivity_sound {expected : String}
    {x : ObserverM D (Option ObservedVoiceActivity)} (hx : DeliversActivity expected (x s)) :
    Sound (stateAfter (returningActivity expected x s)) := by
  rw [returningActivity, bind_apply]
  cases hresult : x s with
  | error err t =>
    rw [hresult] at hx
    exact hx
  | ok value t =>
    rw [hresult] at hx
    rcases value with _ | frame | observed | state | userId
    · exact hx
    · exact SoundAt.handedOut hx.1 hx.2.1 hx.2.2
    · exact hx
    · exact hx
    · exact hx

theorem processActivityPacket_delivers {expected : String} (hs : Sound s) {packet : Bytes}
    (hknown : guessesSpeaker opener (some expected) packet s = false) :
    DeliversActivity expected (processActivityPacket opener expected packet s) := by
  have hpacket : Delivers (some expected) ObservedVoiceActivity.audio
      (fun observed ↦ some (.rtpPacket observed))
      (processActivityPacket opener expected packet s) := processPacket_delivers hs hknown
  rcases hresult : processActivityPacket opener expected packet s with ⟨value, t⟩ | ⟨err, t⟩
  · rw [hresult] at hpacket
    rcases value with _ | frame | observed | state | userId
    · exact hpacket
    · obtain ⟨ht, ⟨frame', hsame, hown⟩ | ⟨observed, hnone⟩⟩ := hpacket
      · cases hsame
        exact ⟨ht, hown⟩
      · cases hnone
    · exact hpacket.1
    · exact hpacket.1
    · exact hpacket.1
  · rw [hresult] at hpacket
    exact hpacket

theorem pendingActivity_delivers {expected : String} (hs : Sound s) (ssrcs : List UInt32) :
    DeliversActivity expected (pendingActivity opener expected ssrcs s) := by
  simp only [pendingActivity, popPendingDisconnectFrom, popPendingSpeakingStateFrom, bind_assoc,
    get_bind_apply]
  cases s.pendingDisconnects.find? (· = expected) with
  | some userId => exact hs
  | none =>
    simp only [pure_bind, get_bind_apply]
    cases s.pendingSpeakingStates.find? (·.userId = expected) with
    | some state => exact hs
    | none =>
      have hframe : Delivers (some expected) id (fun _ ↦ none)
          (tryDecodePendingAudioFrame opener (some expected) ssrcs s) :=
        tryDecodePendingAudioFrame_delivers hs ssrcs
      simp only [bind_apply, pure_apply]
      cases hresult : tryDecodePendingAudioFrame opener (some expected) ssrcs s with
      | error err t =>
        rw [hresult] at hframe
        exact hframe
      | ok frame t =>
        rw [hresult] at hframe
        cases frame with
        | none => exact hframe
        | some frame =>
          obtain ⟨ht, ⟨frame', rfl, hown⟩ | ⟨observed, hnone⟩⟩ := hframe
          · exact ⟨ht, hown⟩
          · cases hnone

/-- The step takes no silent packet for one of the expected user among others, and loses no
disconnect of a user with an SSRC. -/
def trusted (opener : AeadOpener) (s : ObservedVoiceSession D) : ReceiveStep D → Bool
  | .audioEvent _ _ join _ | .activityEvent _ join => !losesDisconnect join s
  | .audioPacket expected packet => !guessesSpeaker opener expected packet s
  | .activityPacket expected packet => !guessesSpeaker opener (some expected) packet s
  | .activityPending _ _ | .setDaveProposalAuthoring _ => true

theorem receiveStep_sound {step : ReceiveStep D} (hs : Sound s) (htrusted : trusted opener s step = true)
    (h : receiveStep opener s step = some t) : Sound t := by
  cases h
  cases step with
  | audioEvent expected event join ssrcs =>
    have hevent := applyGatewayPayload_leads event s ⟨hs, by simpa [trusted] using htrusted⟩
    simp only [receive, bind_apply]
    cases hresult : applyGatewayPayload event join s with
    | error err t =>
      rw [hresult] at hevent
      exact hevent
    | ok _ t =>
      rw [hresult] at hevent
      exact returning_sound (tryDecodePendingAudioFrame_delivers hevent ssrcs)
  | audioPacket expected packet =>
    exact returning_sound (processPacket_delivers hs (by simpa [trusted] using htrusted))
  | activityPending expected ssrcs => exact returningActivity_sound (pendingActivity_delivers hs ssrcs)
  | activityEvent event join =>
    exact applyGatewayPayload_leads event s ⟨hs, by simpa [trusted] using htrusted⟩
  | activityPacket expected packet =>
    exact returningActivity_sound (processActivityPacket_delivers hs (by simpa [trusted] using htrusted))
  | setDaveProposalAuthoring enabled => exact hs

/-- The session an observer begins to receive with, once its first join is complete. -/
def joinedFirst (voice : VoiceContext) (gateway : VoiceGatewayClient)
    (protection : ProtectionContext) (authorDaveProposals : Bool) (userIds : Finset String)
    (sawExistingSpeaker : Bool) (pending : List RosterEvent) (ready : ObserverReady D) :
    ObservedVoiceSession D :=
  let s := connecting voice gateway protection authorDaveProposals
  s.awaitDaveReady (s.pendingJoin userIds sawExistingSpeaker pending) ready

/-- Whatever is received and whoever is asked for, an SSRC is mapped to a user, and a frame of it
handed out, only with a reason that no disconnect of the user has undone, and a call for one user
hands out no frame of another. -/
theorem attribution_sound (opener : AeadOpener) (voice : VoiceContext)
    (gateway : VoiceGatewayClient) (protection : ProtectionContext) (authorDaveProposals : Bool)
    (userIds : Finset String) (sawExistingSpeaker : Bool) (pending : List RosterEvent)
    (ready : ObserverReady D) (steps : List (ReceiveStep D)) (t : ObservedVoiceSession D)
    (hok : Schedule.Throughout (receiveStep opener) (fun s step ↦ trusted opener s step = true)
      (joinedFirst voice gateway protection authorDaveProposals userIds sawExistingSpeaker pending
        ready) steps)
    (h : Schedule.exec (receiveStep opener) (joinedFirst voice gateway protection
      authorDaveProposals userIds sawExistingSpeaker pending ready) steps = some t) :
    (∀ ssrc userId, t.speakerSsrcs.get? ssrc = some userId →
      Sighting.Attributed t.sightings ssrc userId) ∧
    Sighting.WellReturned t.sightings := by
  have hstart : Sound (joinedFirst voice gateway protection authorDaveProposals userIds
      sawExistingSpeaker pending ready) :=
    (connecting_sound voice gateway protection authorDaveProposals).awaitDaveReady _ ready
  have hend : Sound t :=
    Schedule.exec_induction (fun s step u hs hok hstep ↦ receiveStep_sound hs hok hstep) hstart hok h
  exact ⟨fun ssrc userId hmapped ↦ hend.attributed hmapped, hend.returned⟩

/-- A library under which a frame begins with the number of the user who can decrypt it. -/
def numberedLibdave : ObserverLibdave where
  toLibdave := silentLibdave.toLibdave
  decryptAudioFrameFrom _ userId payload :=
    if payload.head? = some 2 ∧ userId = "2" then (.ok payload.tail, ())
    else (.error .notInitialized, ())
  isEpochMismatch _ := false

/-- A cipher that leaves the text as it is and knows its tag. -/
def plainOpener : AeadOpener where
  decryptInPlaceDetached _ _ _ _ ciphertext tag :=
    if tag = List.replicate 16 0 then some ciphertext else none

def plainPacket (payload : Bytes) : Bytes :=
  [0x80, 0x78, 0, 1, 0, 0, 0, 0, 0, 0, 0, 9] ++ payload ++ List.replicate 20 0

/-- An observer of users 2 and 3. -/
def twoRemotes : ObservedVoiceSession numberedLibdave :=
  joinedFirst ⟨"1", "200", "7", "x", "a", "1"⟩ ⟨[], []⟩
    ⟨.aeadAes256GcmRtpsize, List.replicate 32 0, 0, plainKey_length⟩ true {"2", "3"} false []
    ⟨(), ⟨200, 1, []⟩, none⟩

theorem attribution_sound_decrypted :
    ∃ t, Schedule.exec (receiveStep plainOpener) twoRemotes
        [.audioPacket (some "2") (plainPacket [2, 7, 7])] = some t ∧
      t.speakerSsrcs.get? 9 = some "2" ∧ Sighting.Attributed t.sightings 9 "2" := by
  have htrusted : Schedule.Throughout (receiveStep plainOpener)
      (fun s step ↦ trusted plainOpener s step = true) twoRemotes
      [.audioPacket (some "2") (plainPacket [2, 7, 7])] :=
    Schedule.throughout_of_allowed (by decide)
  refine ⟨_, rfl, by decide, ?_⟩
  exact (attribution_sound plainOpener _ _ _ _ _ _ _ _ _ _ htrusted rfl).1 9 "2" (by decide)

/-- A silent packet is taken for one of user 2, although user 3 may have sent it and nothing was
decrypted. -/
theorem silent_packet_attributed_to_expected :
    twoRemotes.dave.isSome ∧
    ∃ t, Schedule.exec (receiveStep plainOpener) twoRemotes
        [.audioPacket (some "2") (plainPacket opusSilenceFrame)] = some t ∧
      t.speakerSsrcs.get? 9 = some "2" ∧ t.remoteSpeakerCandidates = {"2", "3"} ∧
      ¬Sighting.Attributed t.sightings 9 "2" ∧ ¬Sighting.WellReturned (t.sightings) := by
  refine ⟨by decide, _, rfl, by decide, by decide, ?_, fun h ↦ ?_⟩
  · unfold Sighting.Attributed
    decide
  · have hframe := (h [.mapped "2" 9 {"2", "3"}] (some "2") ⟨"2", 9, 1, 0, opusSilenceFrame⟩ []
      (by decide)).1
    revert hframe
    unfold Sighting.Attributed
    decide

end ObservedVoiceSession

end DiscordVoice.Voice
