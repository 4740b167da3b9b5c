import DiscordVoice.Voice.Observer

namespace DiscordVoice.Voice

namespace RosterEvent

/-- What an event says about a user being there. -/
def word (userId : String) : RosterEvent → Option Bool
  | .clientsConnect userIds => if userId ∈ userIds then some true else none
  | .clientDisconnect left => if left = userId then some false else none
  | .speaking _ _ _ => none

/-- The last word of the events on a user. -/
def lastWord (userId : String) : List RosterEvent → Option Bool
  | [] => none
  | event :: events => (lastWord userId events).or (event.word userId)

def Joined (userId : String) (events : List RosterEvent) : Prop :=
  ∃ userIds, .clientsConnect userIds ∈ events ∧ userId ∈ userIds

def Left (userId : String) (events : List RosterEvent) : Prop :=
  .clientDisconnect userId ∈ events

/-- The last event that names a user for the SSRC: the user, the flags, and whether the user has
left since. -/
def lastSpoken (ssrc : UInt32) : List RosterEvent → Option (String × ℕ × Bool)
  | [] => none
  | .speaking (some userId) spoken flags :: events =>
    (lastSpoken ssrc events).or <|
      if spoken = ssrc then some (userId, flags, decide (.clientDisconnect userId ∈ events))
      else none
  | _ :: events => lastSpoken ssrc events

def speakerAfter (m : SortedMap UInt32 String) (events : List RosterEvent) (ssrc : UInt32) :
    Option String :=
  match lastSpoken ssrc events with
  | some (userId, _, gone) => if gone then none else some userId
  | none => (m.get? ssrc).filter fun userId ↦ decide (.clientDisconnect userId ∉ events)

/-- All but the speaking events that name a user with no flag set. -/
def audible : RosterEvent → Bool
  | .speaking (some _) _ flags => flags ≠ 0
  | _ => true

variable {userId : String} {event : RosterEvent} {events : List RosterEvent}

theorem joined_cons : Joined userId (event :: events) ↔
    event.word userId = some true ∨ Joined userId events := by
  constructor
  · rintro ⟨userIds, hmem, hid⟩
    rcases List.mem_cons.mp hmem with rfl | hmem
    · exact .inl (if_pos hid)
    · exact .inr ⟨userIds, hmem, hid⟩
  · rintro (hword | ⟨userIds, hmem, hid⟩)
    · cases event with
      | clientsConnect userIds =>
        refine ⟨userIds, List.mem_cons_self, ?_⟩
        by_contra hnot
        simp [word, hnot] at hword
      | clientDisconnect left => simp [word] at hword
      | speaking user ssrc flags => cases hword
    · exact ⟨userIds, List.mem_cons_of_mem event hmem, hid⟩

theorem left_cons : Left userId (event :: events) ↔
    event.word userId = some false ∨ Left userId events := by
  unfold Left
  rw [List.mem_cons]
  refine or_congr ?_ Iff.rfl
  cases event with
  | clientsConnect userIds => simp [word]
  | clientDisconnect left => simp [word, eq_comm]
  | speaking user ssrc flags => simp [word]

theorem lastWord_spec (userId : String) (events : List RosterEvent) :
    match lastWord userId events with
    | some true => Joined userId events
    | some false => Left userId events
    | none => ¬Joined userId events ∧ ¬Left userId events := by
  induction events with
  | nil =>
    refine ⟨?_, List.not_mem_nil⟩
    rintro ⟨userIds, hmem, -⟩
    cases hmem
  | cons event events ih =>
    rcases hlast : lastWord userId events with _ | _ | _
    · rw [hlast] at ih
      simp only [lastWord, hlast, Option.none_or]
      rcases hword : event.word userId with _ | _ | _
      · refine ⟨fun hjoined ↦ ?_, fun hleft ↦ ?_⟩
        · rcases joined_cons.mp hjoined with h | h
          · cases hword.symm.trans h
          · exact ih.1 h
        · rcases left_cons.mp hleft with h | h
          · cases hword.symm.trans h
          · exact ih.2 h
      · exact left_cons.mpr (.inl hword)
      · exact joined_cons.mpr (.inl hword)
    · rw [hlast] at ih
      simp only [lastWord, hlast, Option.some_or]
      exact left_cons.mpr (.inr ih)
    · rw [hlast] at ih
      simp only [lastWord, hlast, Option.some_or]
      exact joined_cons.mpr (.inr ih)

theorem lastWord_cases (userId : String) (events : List RosterEvent) :
    lastWord userId events = some true ∧ Joined userId events ∨
      lastWord userId events = some false ∧ Left userId events ∨
      lastWord userId events = none ∧ ¬Joined userId events ∧ ¬Left userId events := by
  have hspec := lastWord_spec userId events
  rcases hlast : lastWord userId events with _ | _ | _ <;> rw [hlast] at hspec
  · exact .inr (.inr ⟨rfl, hspec⟩)
  · exact .inr (.inl ⟨rfl, hspec⟩)
  · exact .inl ⟨rfl, hspec⟩

theorem mem_filter_audible : .clientDisconnect userId ∈ events.filter audible ↔
    .clientDisconnect userId ∈ events := by
  simp [List.mem_filter, audible]

theorem lastSpoken_audible (ssrc : UInt32) (events : List RosterEvent) :
    match lastSpoken ssrc events with
    | none => lastSpoken ssrc (events.filter audible) = none
    | some (userId, flags, gone) => flags ≠ 0 →
        lastSpoken ssrc (events.filter audible) = some (userId, flags, gone) := by
  induction events with
  | nil => rfl
  | cons event events ih =>
    rcases event with userIds | left | ⟨_ | userId, spoken, flags⟩
    · exact ih
    · exact ih
    · exact ih
    · by_cases hsilent : flags = 0
      · have hfilter : List.filter audible (.speaking (some userId) spoken flags :: events) =
            events.filter audible := by
          simp [audible, hsilent]
        rw [hfilter]
        rcases hlast : lastSpoken ssrc events with _ | ⟨user, last, gone⟩
        · rw [hlast] at ih
          simp only [lastSpoken, hlast, Option.none_or]
          by_cases hssrc : spoken = ssrc
          · simp only [if_pos hssrc]
            intro hflags
            exact absurd hsilent hflags
          · simp only [if_neg hssrc]
            exact ih
        · rw [hlast] at ih
          simp only [lastSpoken, hlast, Option.some_or]
          exact ih
      · have hfilter : List.filter audible (.speaking (some userId) spoken flags :: events) =
            .speaking (some userId) spoken flags :: events.filter audible := by
          simp [audible, hsilent]
        rw [hfilter]
        rcases hlast : lastSpoken ssrc events with _ | ⟨user, last, gone⟩
        · rw [hlast] at ih
          simp only [lastSpoken, hlast, ih, Option.none_or, mem_filter_audible]
          split_ifs
          · simp
          · rfl
        · rw [hlast] at ih
          simp only [lastSpoken, hlast, Option.some_or]
          intro hflags
          rw [ih hflags, Option.some_or]

/-- The map once an event has been heard, whatever the flags say. -/
def heard (m : SortedMap UInt32 String) : RosterEvent → SortedMap UInt32 String
  | .speaking (some userId) ssrc _ => m.insert ssrc userId
  | .speaking none _ _ | .clientsConnect _ => m
  | .clientDisconnect userId => ObservedVoiceSession.forgetSpeaker m userId

/-- The update a pending join keeps of an event. -/
def update : RosterEvent → Option PendingObserverGatewayUpdate
  | .speaking (some userId) ssrc _ => some (.speaking userId ssrc)
  | .speaking none _ _ | .clientsConnect _ => none
  | .clientDisconnect userId => some (.clientDisconnect userId)

theorem get?_foldl_heard (m : SortedMap UInt32 String) (events : List RosterEvent) (ssrc : UInt32) :
    (events.foldl heard m).get? ssrc = speakerAfter m events ssrc := by
  induction events generalizing m with
  | nil =>
    simp only [List.foldl_nil, speakerAfter, lastSpoken, List.not_mem_nil, not_false_eq_true,
      decide_true]
    cases m.get? ssrc <;> rfl
  | cons event events ih =>
    rw [List.foldl_cons, ih]
    rcases event with userIds | left | ⟨_ | userId, spoken, flags⟩
    · simp [speakerAfter, lastSpoken, heard]
    · simp only [speakerAfter, lastSpoken, heard, ObservedVoiceSession.forgetSpeaker,
        SortedMap.get?_retain, List.mem_cons, clientDisconnect.injEq, not_or]
      rcases lastSpoken ssrc events with _ | ⟨user, last, gone⟩
      · simp only [Option.filter_filter]
        congr 1
        funext user
        simp
      · rfl
    · simp [speakerAfter, lastSpoken, heard]
    · simp only [speakerAfter, lastSpoken, heard, SortedMap.get?_insert, List.mem_cons,
        reduceCtorEq, false_or]
      rcases lastSpoken ssrc events with _ | ⟨user, last, gone⟩
      · simp only [Option.none_or]
        by_cases hssrc : spoken = ssrc
        · subst hssrc
          simp only [if_true, Option.filter_some, decide_not, Bool.not_eq_true',
            decide_eq_false_iff_not, decide_eq_true_eq]
          split_ifs <;> simp_all
        · simp only [if_neg hssrc, if_neg (Ne.symm hssrc)]
      · rfl

end RosterEvent

namespace PendingObserverDave

theorem foldl_observe (p : PendingObserverDave) (events : List RosterEvent) :
    (events.foldl observe p).gatewayUpdates =
        p.gatewayUpdates ++ events.filterMap RosterEvent.update ∧
      ∀ userId, userId ∈ (events.foldl observe p).recognizedUserIds ↔
        userId ∈ p.recognizedUserIds ∨ RosterEvent.Joined userId events := by
  induction events generalizing p with
  | nil =>
    refine ⟨by simp, fun userId ↦ ⟨.inl, ?_⟩⟩
    rintro (hmem | ⟨userIds, hmem, -⟩)
    · exact hmem
    · cases hmem
  | cons event events ih =>
    obtain ⟨hupdates, hrecognized⟩ := ih (p.observe event)
    rw [List.foldl_cons]
    refine ⟨?_, fun userId ↦ ?_⟩
    · rw [hupdates]
      rcases event with userIds | left | ⟨_ | user, ssrc, flags⟩ <;>
        simp [observe, RosterEvent.update, List.filterMap_cons]
    · rw [hrecognized, RosterEvent.joined_cons, ← or_assoc]
      refine or_congr ?_ Iff.rfl
      rcases event with userIds | left | ⟨_ | user, ssrc, flags⟩ <;>
        simp [observe, RosterEvent.word]

end PendingObserverDave

namespace ObservedVoiceSession

open RosterEvent

variable {D : ObserverLibdave} {s t : ObservedVoiceSession D} {events pending : List RosterEvent}

def observed (s : ObservedVoiceSession D) (events : List RosterEvent) : ObservedVoiceSession D :=
  events.foldl applyRosterEvent s

theorem applyClientsConnect_eq (s : ObservedVoiceSession D) (userIds : List String) :
    s.applyClientsConnect userIds =
      { s with
        remoteSpeakerCandidates :=
          s.remoteSpeakerCandidates ∪ userIds.toFinset.filter (· ≠ s.voice.userId)
        daveRecognizedUserIds := s.daveRecognizedUserIds ∪ userIds.toFinset } := by
  induction userIds generalizing s with
  | nil => simp [applyClientsConnect]
  | cons userId userIds ih =>
    unfold applyClientsConnect at ih ⊢
    rw [List.foldl_cons, ih]
    have hcandidates : ∀ candidates : Finset String,
        (if userId ≠ s.voice.userId then insert userId candidates else candidates) ∪
          userIds.toFinset.filter (· ≠ s.voice.userId) =
        candidates ∪ (userId :: userIds).toFinset.filter (· ≠ s.voice.userId) := by
      intro candidates
      ext user
      split_ifs <;> simp <;> grind
    have hrecognized : insert userId s.daveRecognizedUserIds ∪ userIds.toFinset =
        s.daveRecognizedUserIds ∪ (userId :: userIds).toFinset := by
      ext user
      simp
    simp only [hcandidates, hrecognized]

theorem mem_recognized_applyRosterEvent (event : RosterEvent) (userId : String) :
    userId ∈ (s.applyRosterEvent event).daveRecognizedUserIds ↔
      (event.word userId).getD (decide (userId ∈ s.daveRecognizedUserIds)) = true := by
  cases event with
  | clientsConnect userIds =>
    simp only [applyRosterEvent, applyClientsConnect_eq, word]
    split_ifs with hmem <;> simp [hmem]
  | clientDisconnect left =>
    simp only [applyRosterEvent, applyClientDisconnect, word]
    split_ifs with hleft
    · simp [hleft]
    · simp [Ne.symm hleft]
  | speaking user ssrc flags =>
    simp only [applyRosterEvent, applySpeaking, word]
    split
    · simp
    · split_ifs <;> simp [recordSpeakerSsrc]

theorem mem_candidates_applyRosterEvent (event : RosterEvent) {userId : String}
    (hother : userId ≠ s.voice.userId) :
    userId ∈ (s.applyRosterEvent event).remoteSpeakerCandidates ↔
      (event.word userId).getD (decide (userId ∈ s.remoteSpeakerCandidates)) = true := by
  cases event with
  | clientsConnect userIds =>
    simp only [applyRosterEvent, applyClientsConnect_eq, word]
    split_ifs with hmem <;> simp [hmem, hother]
  | clientDisconnect left =>
    simp only [applyRosterEvent, applyClientDisconnect, word]
    split_ifs with hleft
    · simp [hleft]
    · simp [Ne.symm hleft]
  | speaking user ssrc flags =>
    simp only [applyRosterEvent, applySpeaking, word]
    split
    · simp
    · split_ifs <;> simp [recordSpeakerSsrc]

/-- The observer does not become a candidate of its own. -/
theorem self_mem_candidates_applyRosterEvent (event : RosterEvent) :
    s.voice.userId ∈ (s.applyRosterEvent event).remoteSpeakerCandidates ↔
      event.word s.voice.userId ≠ some false ∧ s.voice.userId ∈ s.remoteSpeakerCandidates := by
  cases event with
  | clientsConnect userIds =>
    simp only [applyRosterEvent, applyClientsConnect_eq, word]
    split_ifs <;> simp
  | clientDisconnect left =>
    simp only [applyRosterEvent, applyClientDisconnect, word]
    split_ifs with hleft
    · simp [hleft]
    · simp [Ne.symm hleft]
  | speaking user ssrc flags =>
    simp only [applyRosterEvent, applySpeaking, word]
    split
    · simp
    · split_ifs <;> simp [recordSpeakerSsrc]

@[simp] theorem voice_applyRosterEvent (s : ObservedVoiceSession D) (event : RosterEvent) :
    (s.applyRosterEvent event).voice = s.voice := by
  cases event with
  | clientsConnect userIds => simp [applyRosterEvent, applyClientsConnect_eq]
  | clientDisconnect left => rfl
  | speaking user ssrc flags =>
    simp only [applyRosterEvent, applySpeaking]
    split
    · rfl
    · split_ifs <;> rfl

/-- Live, a speaking event counts when it has a flag, and one that names no user changes nothing. -/
theorem speakerSsrcs_applyRosterEvent (event : RosterEvent) :
    (s.applyRosterEvent event).speakerSsrcs =
      if event.audible then event.heard s.speakerSsrcs else s.speakerSsrcs := by
  rcases event with userIds | left | ⟨_ | user, ssrc, flags⟩
  · simp [applyRosterEvent, applyClientsConnect_eq, audible, heard]
  · rfl
  · simp only [applyRosterEvent, applySpeaking, audible, heard, if_true, Option.none_or]
    cases hmapped : s.speakerSsrcs.get? ssrc with
    | none => rfl
    | some user =>
      simp only
      split_ifs
      · refine SortedMap.ext_get? fun other ↦ ?_
        simp only [recordSpeakerSsrc, SortedMap.get?_insert]
        split_ifs with hsame
        · rw [hsame, hmapped]
        · rfl
      · rfl
  · simp only [applyRosterEvent, applySpeaking, audible, heard, Option.some_or]
    by_cases hflags : flags = 0
    · simp [hflags]
    · simp [hflags, recordSpeakerSsrc]

theorem observed_cons (s : ObservedVoiceSession D) (event : RosterEvent)
    (events : List RosterEvent) :
    s.observed (event :: events) = (s.applyRosterEvent event).observed events := rfl

theorem observed_append (s : ObservedVoiceSession D) (events rest : List RosterEvent) :
    s.observed (events ++ rest) = (s.observed events).observed rest := List.foldl_append

@[simp] theorem voice_observed (s : ObservedVoiceSession D) (events : List RosterEvent) :
    (s.observed events).voice = s.voice := by
  induction events generalizing s with
  | nil => rfl
  | cons event events ih => rw [observed_cons, ih, voice_applyRosterEvent]

theorem mem_recognized_observed (userId : String) :
    userId ∈ (s.observed events).daveRecognizedUserIds ↔
      (lastWord userId events).getD (decide (userId ∈ s.daveRecognizedUserIds)) = true := by
  induction events generalizing s with
  | nil => simp [observed, lastWord]
  | cons event events ih =>
    rw [observed_cons, ih, lastWord]
    have hevent := mem_recognized_applyRosterEvent (s := s) event userId
    cases lastWord userId events with
    | some last => rfl
    | none => simp only [Option.getD_none, decide_eq_true_eq, Option.none_or, hevent]

theorem mem_candidates_observed {userId : String} (hother : userId ≠ s.voice.userId) :
    userId ∈ (s.observed events).remoteSpeakerCandidates ↔
      (lastWord userId events).getD (decide (userId ∈ s.remoteSpeakerCandidates)) = true := by
  induction events generalizing s with
  | nil => simp [observed, lastWord]
  | cons event events ih =>
    rw [observed_cons, ih (by rwa [voice_applyRosterEvent]), lastWord]
    have hevent := mem_candidates_applyRosterEvent (s := s) event hother
    cases lastWord userId events with
    | some last => rfl
    | none => simp only [Option.getD_none, decide_eq_true_eq, Option.none_or, hevent]

theorem self_mem_candidates_observed :
    s.voice.userId ∈ (s.observed events).remoteSpeakerCandidates ↔
      ¬Left s.voice.userId events ∧ s.voice.userId ∈ s.remoteSpeakerCandidates := by
  induction events generalizing s with
  | nil => simp [observed, Left]
  | cons event events ih =>
    have hevent := self_mem_candidates_applyRosterEvent (s := s) event
    have hrest := ih (s := s.applyRosterEvent event)
    rw [voice_applyRosterEvent] at hrest
    rw [observed_cons, hrest, hevent, left_cons, not_or]
    tauto

theorem speakerSsrcs_observed :
    (s.observed events).speakerSsrcs = (events.filter audible).foldl heard s.speakerSsrcs := by
  induction events generalizing s with
  | nil => rfl
  | cons event events ih =>
    rw [observed_cons, ih, speakerSsrcs_applyRosterEvent, List.filter_cons]
    split_ifs <;> rfl

theorem foldl_applyFirstJoinUpdate (s : ObservedVoiceSession D) (events : List RosterEvent) :
    let t := (events.filterMap update).foldl applyFirstJoinUpdate s
    t.voice = s.voice ∧ t.speakerSsrcs = events.foldl heard s.speakerSsrcs ∧
      t.daveRecognizedUserIds = s.daveRecognizedUserIds ∧
      ∀ userId, userId ∈ t.remoteSpeakerCandidates ↔
        userId ∈ s.remoteSpeakerCandidates ∧ ¬Left userId events := by
  induction events generalizing s with
  | nil => simp [Left]
  | cons event events ih =>
    rcases event with userIds | left | ⟨_ | user, ssrc, flags⟩
    · simpa [update, heard, left_cons, word, List.filterMap_cons] using ih s
    · obtain ⟨hvoice, hmap, hrecognized, hcandidates⟩ :=
        ih (s.applyFirstJoinUpdate (.clientDisconnect left))
      refine ⟨hvoice, hmap, hrecognized, fun userId ↦ (hcandidates userId).trans ?_⟩
      simp only [applyFirstJoinUpdate, sighted, Finset.mem_erase, left_cons, word, ite_eq_left_iff,
        reduceCtorEq, imp_false, not_not, not_or]
      grind
    · simpa [update, heard, left_cons, word, List.filterMap_cons] using ih s
    · simpa [update, heard, left_cons, word, applyFirstJoinUpdate, recordSpeakerSsrc,
        sighted, List.filterMap_cons] using ih ((s.sighted (.spoke user ssrc)).recordSpeakerSsrc user ssrc)

theorem foldl_applyPendingGatewayUpdate (s : ObservedVoiceSession D) (events : List RosterEvent) :
    let t := (events.filterMap update).foldl applyPendingGatewayUpdate s
    t.voice = s.voice ∧ t.speakerSsrcs = events.foldl heard s.speakerSsrcs ∧
      ∀ userId, (userId ∈ t.daveRecognizedUserIds ↔
          userId ∈ s.daveRecognizedUserIds ∧ ¬Left userId events) ∧
        (userId ∈ t.remoteSpeakerCandidates ↔
          userId ∈ s.remoteSpeakerCandidates ∧ ¬Left userId events) := by
  induction events generalizing s with
  | nil => simp [Left]
  | cons event events ih =>
    rcases event with userIds | left | ⟨_ | user, ssrc, flags⟩
    · simpa [update, heard, left_cons, word, List.filterMap_cons] using ih s
    · obtain ⟨hvoice, hmap, hroster⟩ := ih (s.applyPendingGatewayUpdate (.clientDisconnect left))
      refine ⟨hvoice, hmap, fun userId ↦ ?_⟩
      obtain ⟨hrecognized, hcandidates⟩ := hroster userId
      simp only [applyPendingGatewayUpdate, sighted, Finset.mem_erase] at hrecognized hcandidates
      simp only [left_cons, word, ite_eq_left_iff, reduceCtorEq, imp_false, not_not, not_or]
      constructor
      · refine Iff.trans hrecognized ?_
        grind
      · refine Iff.trans hcandidates ?_
        grind
    · simpa [update, heard, left_cons, word, List.filterMap_cons] using ih s
    · simpa [update, heard, left_cons, word, applyPendingGatewayUpdate, recordSpeakerSsrc,
        sighted, List.filterMap_cons] using ih ((s.sighted (.spoke user ssrc)).recordSpeakerSsrc user ssrc)

def roster (s : ObservedVoiceSession D) : Finset String × Finset String × SortedMap UInt32 String :=
  (s.daveRecognizedUserIds, s.remoteSpeakerCandidates, s.speakerSsrcs)

theorem roster_applyRosterEvent (hvoice : s.voice = t.voice) (h : s.roster = t.roster)
    (event : RosterEvent) : (s.applyRosterEvent event).roster = (t.applyRosterEvent event).roster := by
  simp only [roster, Prod.mk.injEq] at h
  obtain ⟨hrecognized, hcandidates, hmap⟩ := h
  simp only [roster, speakerSsrcs_applyRosterEvent, hmap, Prod.mk.injEq, and_true]
  cases event with
  | clientsConnect userIds =>
    simp only [applyRosterEvent, applyClientsConnect_eq, hrecognized, hcandidates, hvoice, and_self]
  | clientDisconnect left =>
    simp only [applyRosterEvent, applyClientDisconnect, hrecognized, hcandidates, and_self]
  | speaking user ssrc flags =>
    simp only [applyRosterEvent, applySpeaking, hmap]
    split
    · exact ⟨hrecognized, hcandidates⟩
    · split_ifs
      · exact ⟨hrecognized, hcandidates⟩
      · exact ⟨hrecognized, hcandidates⟩

theorem roster_observed (hvoice : s.voice = t.voice) (h : s.roster = t.roster)
    (events : List RosterEvent) : (s.observed events).roster = (t.observed events).roster := by
  induction events generalizing s t with
  | nil => exact h
  | cons event events ih =>
    exact ih (by simpa using hvoice) (roster_applyRosterEvent hvoice h event)

/-- A session with the given users, itself among them, and the given SSRCs. -/
def withRoster (s : ObservedVoiceSession D) (userIds : Finset String)
    (speakers : SortedMap UInt32 String) : ObservedVoiceSession D :=
  { s with
    daveRecognizedUserIds := insert s.voice.userId userIds
    remoteSpeakerCandidates := (insert s.voice.userId userIds).filter (· ≠ s.voice.userId)
    speakerSsrcs := speakers }

theorem withRoster_voice (s : ObservedVoiceSession D) (userIds : Finset String)
    (speakers : SortedMap UInt32 String) : (s.withRoster userIds speakers).voice = s.voice := rfl

/-- No speaking event without a flag is the last to name a user for its SSRC and gives the SSRC to
somebody it does not belong to. -/
def SpeakersSettled (speakers : SortedMap UInt32 String) (pending : List RosterEvent) : Prop :=
  ∀ ssrc userId gone, lastSpoken ssrc pending = some (userId, 0, gone) →
    speakerAfter speakers (pending.filter audible) ssrc = if gone then none else some userId

theorem foldl_heard_eq_iff {speakers : SortedMap UInt32 String} :
    pending.foldl heard speakers = (pending.filter audible).foldl heard speakers ↔
      SpeakersSettled speakers pending := by
  constructor
  · intro h ssrc userId gone hlast
    rw [← get?_foldl_heard, ← h, get?_foldl_heard, speakerAfter, hlast]
  · intro h
    refine SortedMap.ext_get? fun ssrc ↦ ?_
    rw [get?_foldl_heard, get?_foldl_heard]
    have haudible := lastSpoken_audible ssrc pending
    rcases hlast : lastSpoken ssrc pending with _ | ⟨userId, flags, gone⟩
    · rw [hlast] at haudible
      simp only [speakerAfter, hlast, haudible, mem_filter_audible]
    · rw [hlast] at haudible
      by_cases hflags : flags = 0
      · subst hflags
        rw [h ssrc userId gone hlast, speakerAfter, hlast]
      · simp only [speakerAfter, hlast, haudible hflags]

/-- Nobody but the observer leaves who was there or comes while the first join is pending, and the
observer is back when it is over. -/
structure FirstJoinSettled (selfUserId : String) (userIds : Finset String)
    (speakers : SortedMap UInt32 String) (pending : List RosterEvent) : Prop where
  others : ∀ userId, Left userId pending → userId ≠ selfUserId →
    userId ∉ userIds ∧ ¬Joined userId pending
  observer : Left selfUserId pending → lastWord selfUserId pending = some true
  speakers : SpeakersSettled speakers pending

/-- Nobody who leaves while a later join is pending comes back before it is over, and those that
nothing is heard of are candidates if and only if they are recognised, the observer being recognised
and no candidate. -/
structure RejoinSettled (s : ObservedVoiceSession D) (pending : List RosterEvent) : Prop where
  gone : ∀ userId, Left userId pending → lastWord userId pending = some false
  candidates : ∀ userId, userId ≠ s.voice.userId → lastWord userId pending = none →
    (userId ∈ s.remoteSpeakerCandidates ↔ userId ∈ s.daveRecognizedUserIds)
  recognized : lastWord s.voice.userId pending = none → s.voice.userId ∈ s.daveRecognizedUserIds
  apart : s.voice.userId ∈ s.remoteSpeakerCandidates → Left s.voice.userId pending
  speakers : SpeakersSettled s.speakerSsrcs pending

theorem roster_ext {s t : ObservedVoiceSession D} :
    s.roster = t.roster ↔
      (∀ userId, userId ∈ s.daveRecognizedUserIds ↔ userId ∈ t.daveRecognizedUserIds) ∧
      (∀ userId, userId ∈ s.remoteSpeakerCandidates ↔ userId ∈ t.remoteSpeakerCandidates) ∧
      s.speakerSsrcs = t.speakerSsrcs := by
  simp only [roster, Prod.mk.injEq, Finset.ext_iff]

variable {userIds : Finset String} {speakers : SortedMap UInt32 String} {saw : Bool}
  {ready : ObserverReady D}

theorem withRoster_recognized_observed (userId : String) :
    userId ∈ ((s.withRoster userIds speakers).observed pending).daveRecognizedUserIds ↔
      (lastWord userId pending).getD (decide (userId = s.voice.userId ∨ userId ∈ userIds)) = true := by
  rw [mem_recognized_observed]
  simp only [withRoster, Finset.mem_insert]

theorem withRoster_candidates_observed (userId : String) :
    userId ∈ ((s.withRoster userIds speakers).observed pending).remoteSpeakerCandidates ↔
      userId ≠ s.voice.userId ∧ (lastWord userId pending).getD (decide (userId ∈ userIds)) = true := by
  have hself : (s.withRoster userIds speakers).voice.userId ∉
      (s.withRoster userIds speakers).remoteSpeakerCandidates := by simp [withRoster]
  by_cases hother : userId = s.voice.userId
  · rw [hother]
    exact iff_of_false (fun h ↦ hself (self_mem_candidates_observed.mp h).2) fun h ↦ h.1 rfl
  · rw [mem_candidates_observed (s := s.withRoster userIds speakers) hother]
    simp [withRoster, hother]

theorem mem_joined_candidates {p : PendingObserverDave} {userId : String} :
    userId ∈ (s.joined p ready).remoteSpeakerCandidates ↔
      userId ∈ p.recognizedUserIds ∧ userId ≠ s.voice.userId :=
  Finset.mem_filter

variable (s pending userIds saw) in
theorem pendingJoin_spec :
    (s.pendingJoin userIds saw pending).gatewayUpdates = pending.filterMap update ∧
      ∀ userId, userId ∈ (s.pendingJoin userIds saw pending).recognizedUserIds ↔
        (userId = s.voice.userId ∨ userId ∈ userIds) ∨ Joined userId pending := by
  obtain ⟨hupdates, hjoined⟩ := PendingObserverDave.foldl_observe
    (.start s.voice.userId userIds saw) pending
  simp only [PendingObserverDave.start, List.nil_append, Finset.mem_insert] at hupdates hjoined
  exact ⟨hupdates, hjoined⟩

theorem mem_pendingJoin_candidates {userId : String} :
    userId ∈ (s.joined (s.pendingJoin userIds saw pending) ready).remoteSpeakerCandidates ↔
      userId ≠ s.voice.userId ∧ (userId ∈ userIds ∨ Joined userId pending) := by
  rw [mem_joined_candidates, (pendingJoin_spec s pending userIds saw).2 userId]
  constructor
  · rintro ⟨(hself | hthere) | hjoined, hother⟩
    · exact absurd hself hother
    · exact ⟨hother, .inl hthere⟩
    · exact ⟨hother, .inr hjoined⟩
  · rintro ⟨hother, hthere | hjoined⟩
    · exact ⟨.inl (.inr hthere), hother⟩
    · exact ⟨.inr hjoined, hother⟩

variable (s pending userIds saw ready) in
theorem awaitDaveReady_roster :
    let t := s.awaitDaveReady (s.pendingJoin userIds saw pending) ready
    t.voice = s.voice ∧ t.speakerSsrcs = pending.foldl heard s.speakerSsrcs ∧
      ∀ userId, (userId ∈ t.daveRecognizedUserIds ↔
          (userId = s.voice.userId ∨ userId ∈ userIds) ∨ Joined userId pending) ∧
        (userId ∈ t.remoteSpeakerCandidates ↔ userId ≠ s.voice.userId ∧
          (userId ∈ userIds ∨ Joined userId pending) ∧ ¬Left userId pending) := by
  obtain ⟨hupdates, hjoined⟩ := pendingJoin_spec s pending userIds saw
  obtain ⟨hvoice, hmap, hrecognized, hcandidates⟩ := foldl_applyFirstJoinUpdate
    (s.joined (s.pendingJoin userIds saw pending) ready) pending
  simp only [awaitDaveReady]
  rw [hupdates]
  refine ⟨hvoice, hmap, fun userId ↦ ⟨?_, ?_⟩⟩
  · rw [hrecognized]
    exact hjoined userId
  · rw [hcandidates, mem_pendingJoin_candidates, and_assoc]

variable (s pending userIds saw ready) in
theorem applyObserverDaveReady_roster :
    let t := s.applyObserverDaveReady (s.pendingJoin userIds saw pending) ready
    t.voice = s.voice ∧ t.speakerSsrcs = pending.foldl heard s.speakerSsrcs ∧
      ∀ userId, (userId ∈ t.daveRecognizedUserIds ↔
          ((userId = s.voice.userId ∨ userId ∈ userIds) ∨ Joined userId pending) ∧
            ¬Left userId pending) ∧
        (userId ∈ t.remoteSpeakerCandidates ↔ userId ≠ s.voice.userId ∧
          (userId ∈ userIds ∨ Joined userId pending) ∧ ¬Left userId pending) := by
  obtain ⟨hupdates, hjoined⟩ := pendingJoin_spec s pending userIds saw
  obtain ⟨hvoice, hmap, hroster⟩ := foldl_applyPendingGatewayUpdate
    (s.joined (s.pendingJoin userIds saw pending) ready) pending
  simp only [applyObserverDaveReady]
  rw [hupdates]
  refine ⟨hvoice, hmap, fun userId ↦ ?_⟩
  obtain ⟨hrecognized, hcandidates⟩ := hroster userId
  constructor
  · rw [hrecognized]
    exact and_congr (hjoined userId) Iff.rfl
  · rw [hcandidates, mem_pendingJoin_candidates, and_assoc]

theorem forall_observed_iff (hvoice : t.voice = s.voice) :
    (∀ live, (t.observed live).roster = (s.observed (pending ++ live)).roster) ↔
      t.roster = (s.observed pending).roster := by
  constructor
  · intro h
    simpa [observed] using h []
  · intro h live
    rw [observed_append]
    exact roster_observed (by rw [hvoice, voice_observed]) h live

theorem firstJoin_roster_iff :
    (∀ live, (((s.withRoster userIds speakers).awaitDaveReady (s.pendingJoin userIds saw pending)
        ready).observed live).roster =
      ((s.withRoster userIds speakers).observed (pending ++ live)).roster) ↔
    FirstJoinSettled s.voice.userId userIds speakers pending := by
  have hjoin : s.pendingJoin userIds saw pending =
      (s.withRoster userIds speakers).pendingJoin userIds saw pending := rfl
  obtain ⟨hvoice, hmap, hroster⟩ :=
    awaitDaveReady_roster (s.withRoster userIds speakers) pending userIds saw ready
  rw [hjoin, forall_observed_iff hvoice, roster_ext, hmap, speakerSsrcs_observed, foldl_heard_eq_iff]
  simp only [fun userId ↦ (hroster userId).1, fun userId ↦ (hroster userId).2, withRoster_voice,
    withRoster_recognized_observed, withRoster_candidates_observed]
  constructor
  · rintro ⟨hrecognized, hcandidates, hsettled⟩
    refine ⟨fun userId hleft hother ↦ ?_, fun hleft ↦ ?_, hsettled⟩
    · have hrec := hrecognized userId
      have hcand := hcandidates userId
      rcases lastWord_cases userId pending with ⟨hlast, -⟩ | ⟨hlast, -⟩ | ⟨-, -, hstayed⟩
      · simp [hlast, hother, hleft] at hcand
      · simpa [hlast, hother] using hrec
      · exact absurd hleft hstayed
    · have hrec := hrecognized s.voice.userId
      rcases lastWord_cases s.voice.userId pending with ⟨hlast, -⟩ | ⟨hlast, -⟩ | ⟨-, -, hstayed⟩
      · exact hlast
      · simp [hlast] at hrec
      · exact absurd hleft hstayed
  · rintro ⟨hothers, hobserver, hsettled⟩
    refine ⟨fun userId ↦ ?_, fun userId ↦ ?_, hsettled⟩
    · rcases lastWord_cases userId pending with ⟨hlast, hjoined⟩ | ⟨hlast, hleft⟩ | ⟨hlast, hnot, -⟩
      · simp [hlast, hjoined]
      · have hother : userId ≠ s.voice.userId := by
          rintro rfl
          cases hlast.symm.trans (hobserver hleft)
        simp [hlast, hother, hothers userId hleft hother]
      · simp [hlast, hnot]
    · by_cases hother : userId = s.voice.userId
      · simp [hother]
      rcases lastWord_cases userId pending with ⟨hlast, hjoined⟩ | ⟨hlast, hleft⟩ | ⟨hlast, hnot, hstayed⟩
      · have hstayed : ¬Left userId pending := fun hleft ↦ (hothers userId hleft hother).2 hjoined
        simp [hlast, hother, hjoined, hstayed]
      · simp [hlast, hleft]
      · simp [hlast, hother, hnot, hstayed]

theorem rejoin_roster_iff :
    (∀ live, ((s.applyObserverDaveReady (s.pendingJoin s.daveRecognizedUserIds saw pending)
        ready).observed live).roster = (s.observed (pending ++ live)).roster) ↔
    s.RejoinSettled pending := by
  obtain ⟨hvoice, hmap, hroster⟩ :=
    applyObserverDaveReady_roster s pending s.daveRecognizedUserIds saw ready
  rw [forall_observed_iff hvoice, roster_ext, hmap, speakerSsrcs_observed, foldl_heard_eq_iff]
  simp only [fun userId ↦ (hroster userId).1, fun userId ↦ (hroster userId).2,
    mem_recognized_observed]
  constructor
  · rintro ⟨hrecognized, hcandidates, hsettled⟩
    refine ⟨fun userId hleft ↦ ?_, fun userId hother hlast ↦ ?_, fun hlast ↦ ?_, fun hself ↦ ?_,
      hsettled⟩
    · have hrec := hrecognized userId
      rcases lastWord_cases userId pending with ⟨hlast, -⟩ | ⟨hlast, -⟩ | ⟨-, -, hstayed⟩
      · simp [hlast, hleft] at hrec
      · exact hlast
      · exact absurd hleft hstayed
    · have hcand := hcandidates userId
      have hspec := lastWord_spec userId pending
      rw [hlast] at hspec
      rw [mem_candidates_observed hother] at hcand
      simpa [hlast, hspec, hother] using hcand.symm
    · have hrec := hrecognized s.voice.userId
      have hspec := lastWord_spec s.voice.userId pending
      rw [hlast] at hspec
      simpa [hlast, hspec] using hrec
    · have hcand := hcandidates s.voice.userId
      rw [self_mem_candidates_observed] at hcand
      simpa [hself] using hcand
  · intro h
    have hstays : ∀ userId, lastWord userId pending = some true → ¬Left userId pending :=
      fun userId hlast hleft ↦ by cases hlast.symm.trans (h.gone userId hleft)
    refine ⟨fun userId ↦ ?_, fun userId ↦ ?_, h.speakers⟩
    · rcases lastWord_cases userId pending with ⟨hlast, hjoined⟩ | ⟨hlast, hleft⟩ |
        ⟨hlast, hnot, hstayed⟩
      · simp [hlast, hjoined, hstays userId hlast]
      · simp [hlast, hleft]
      · have hself : userId = s.voice.userId → userId ∈ s.daveRecognizedUserIds := by
          rintro rfl
          exact h.recognized hlast
        simpa [hlast, hnot, hstayed] using hself
    · by_cases hother : userId = s.voice.userId
      · rw [hother, self_mem_candidates_observed]
        exact iff_of_false (fun hcand ↦ hcand.1 rfl) fun hcand ↦ hcand.1 (h.apart hcand.2)
      rw [mem_candidates_observed hother]
      rcases lastWord_cases userId pending with ⟨hlast, hjoined⟩ | ⟨hlast, hleft⟩ |
        ⟨hlast, hnot, hstayed⟩
      · simp [hlast, hother, hjoined, hstays userId hlast]
      · simp [hlast, hleft]
      · simp [hlast, hother, hnot, hstayed, h.candidates userId hother hlast]

/-- When the events before the end of a join and after it leave the roster of the events handled
live: for the first join, and for a later one from whatever roster the session has then. -/
theorem roster_split_iff (s : ObservedVoiceSession D) (userIds : Finset String)
    (speakers : SortedMap UInt32 String) (saw : Bool) (ready : ObserverReady D)
    (pending : List RosterEvent) :
    ((∀ live, (((s.withRoster userIds speakers).awaitDaveReady (s.pendingJoin userIds saw pending)
          ready).observed live).roster =
        ((s.withRoster userIds speakers).observed (pending ++ live)).roster) ↔
      FirstJoinSettled s.voice.userId userIds speakers pending) ∧
    ((∀ live, ((s.applyObserverDaveReady (s.pendingJoin s.daveRecognizedUserIds saw pending)
          ready).observed live).roster = (s.observed (pending ++ live)).roster) ↔
      s.RejoinSettled pending) :=
  ⟨firstJoin_roster_iff, rejoin_roster_iff⟩

/-- A library that refuses everything. -/
def silentLibdave : ObserverLibdave where
  Session := Unit
  Runtime := Unit
  ExternalSender := Unit
  newSession := .ok ()
  setExternalSender _ _ := .ok ()
  init _ _ _ _ := .ok ()
  keyPackage _ := .error .notInitialized
  sessionProcessProposals _ _ _ _ := .error .notInitialized
  sessionProcessCommit _ _ := .error .notInitialized
  sessionProcessWelcome _ _ _ := .error .notInitialized
  fromSession _ := .ok ()
  protocolVersion _ := 1
  processProposals _ _ _ _ := (.error .notInitialized, ())
  processCommit _ _ := (.error .notInitialized, ())
  processWelcome _ _ _ := (.error .notInitialized, ())
  encryptAudioFrame _ _ := (.error .notInitialized, ())
  splitCommitWelcome _ _ := .error .notInitialized
  decryptAudioFrameFrom _ _ _ := (.error .notInitialized, ())
  isEpochMismatch _ := false

theorem plainKey_length : (List.replicate 32 (0 : UInt8)).length = 32 := rfl

def plainObserver : ObservedVoiceSession silentLibdave :=
  connecting ⟨"1", "200", "7", "x", "a", "1"⟩ ⟨[], []⟩
    ⟨.aeadAes256GcmRtpsize, List.replicate 32 0, 0, plainKey_length⟩ true

def plainReady : ObserverReady silentLibdave := ⟨(), ⟨200, 1, []⟩, none⟩

/-- User 2 leaves while the first join is pending and is recognised ever after; user 2 leaves and
comes back while a later join is pending and is not recognised any more. -/
theorem roster_split_loses_events :
    ("2" ∈ ((plainObserver.withRoster {"2"} .empty).awaitDaveReady
        (plainObserver.pendingJoin {"2"} false [.clientDisconnect "2"]) plainReady).daveRecognizedUserIds ∧
      "2" ∉ ((plainObserver.withRoster {"2"} .empty).observed
        [.clientDisconnect "2"]).daveRecognizedUserIds) ∧
    ("2" ∉ ((plainObserver.withRoster {"2"} .empty).applyObserverDaveReady
        (plainObserver.pendingJoin {"2"} false [.clientDisconnect "2", .clientsConnect ["2"]])
          plainReady).daveRecognizedUserIds ∧
      "2" ∈ ((plainObserver.withRoster {"2"} .empty).observed
        [.clientDisconnect "2", .clientsConnect ["2"]]).daveRecognizedUserIds) := by
  decide

end ObservedVoiceSession

end DiscordVoice.Voice
