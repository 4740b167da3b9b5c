import DiscordVoice.Schedule

namespace DiscordVoice.Twilight

open Schedule

structure VoiceContext where
  guildId : ℕ
  channelId : ℕ
  userId : ℕ
  sessionId : String
  endpoint : String
  token : String
  deriving DecidableEq, Repr

structure VoiceStateUpdate where
  guildId : Option ℕ
  channelId : Option ℕ
  userId : ℕ
  sessionId : String
  deriving DecidableEq, Repr

structure VoiceServerUpdate where
  guildId : ℕ
  endpoint : Option String
  token : String
  deriving DecidableEq, Repr

inductive Event
  | voiceStateUpdate (update : VoiceStateUpdate)
  | voiceServerUpdate (update : VoiceServerUpdate)
  | other
  deriving DecidableEq, Repr

structure VoiceContextTracker where
  guildId : ℕ
  channelId : ℕ
  userId : ℕ
  sessionId : Option String
  endpoint : Option String
  token : Option String
  current : Option VoiceContext
  deriving DecidableEq, Repr

namespace VoiceContextTracker

def new (guildId channelId userId : ℕ) : VoiceContextTracker :=
  ⟨guildId, channelId, userId, none, none, none, none⟩

def reset (t : VoiceContextTracker) : VoiceContextTracker :=
  { t with sessionId := none, endpoint := none, token := none, current := none }

/-- The `match` of `observe`. -/
def noted (t : VoiceContextTracker) : Event → VoiceContextTracker
  | .voiceStateUpdate update =>
    if update.userId = t.userId ∧ update.guildId = some t.guildId ∧ update.channelId = none then
      t.reset
    else if update.userId = t.userId ∧ update.guildId = some t.guildId ∧
        update.channelId = some t.channelId then
      { t with sessionId := some update.sessionId }
    else t
  | .voiceServerUpdate update =>
    if update.guildId = t.guildId then
      { t with
        endpoint := (update.endpoint.filter (· ≠ "")).or t.endpoint
        token := if update.token ≠ "" then some update.token else t.token }
    else t
  | .other => t

/-- The context of the three fields, once all are there. -/
def context (t : VoiceContextTracker) : Option VoiceContext := do
  let sessionId ← t.sessionId
  let endpoint ← t.endpoint
  let token ← t.token
  return ⟨t.guildId, t.channelId, t.userId, sessionId, endpoint, token⟩

def observe (t : VoiceContextTracker) (event : Event) : VoiceContextTracker × Option VoiceContext :=
  let t := t.noted event
  match t.context with
  | none => (t, none)
  | some context =>
    if t.current = some context then (t, none)
    else ({ t with current := some context }, some context)

end VoiceContextTracker

/-- The bot user and the voice channel a tracker is for. -/
structure Target where
  guildId : ℕ
  channelId : ℕ
  userId : ℕ
  deriving DecidableEq, Repr

namespace Target

def isOwn (target : Target) (update : VoiceStateUpdate) : Prop :=
  update.userId = target.userId ∧ update.guildId = some target.guildId

/-- The bot left the target channel or was moved out of it. -/
def departs (target : Target) : Event → Prop
  | .voiceStateUpdate update => target.isOwn update ∧ update.channelId ≠ some target.channelId
  | _ => False

instance (target : Target) : DecidablePred target.departs := fun event ↦
  match event with
  | .voiceStateUpdate _ => inferInstanceAs (Decidable ((_ ∧ _) ∧ _))
  | .voiceServerUpdate _ | .other => inferInstanceAs (Decidable False)

/-- The bot is in no channel of the guild any more. -/
def leaves (target : Target) : Event → Prop
  | .voiceStateUpdate update => target.isOwn update ∧ update.channelId = none
  | _ => False

instance (target : Target) : DecidablePred target.leaves := fun event ↦
  match event with
  | .voiceStateUpdate _ => inferInstanceAs (Decidable ((_ ∧ _) ∧ _))
  | .voiceServerUpdate _ | .other => inferInstanceAs (Decidable False)

def session? (target : Target) : Event → Option String
  | .voiceStateUpdate update =>
    if update.userId = target.userId ∧ update.guildId = some target.guildId ∧
        update.channelId = some target.channelId then some update.sessionId
    else none
  | _ => none

def server? (target : Target) : Event → Option VoiceServerUpdate
  | .voiceServerUpdate update => if update.guildId = target.guildId then some update else none
  | _ => none

end Target

namespace VoiceServerUpdate

def endpoint? (update : VoiceServerUpdate) : Option String := update.endpoint.filter (· ≠ "")

def token? (update : VoiceServerUpdate) : Option String :=
  if update.token ≠ "" then some update.token else none

def address? (update : VoiceServerUpdate) : Option (String × String) := do
  let endpoint ← update.endpoint?
  let token ← update.token?
  return (endpoint, token)

end VoiceServerUpdate

namespace Target

def latestSession (target : Target) (events : List Event) : Option String :=
  events.reverse.findSome? target.session?

def latestAddress (target : Target) (events : List Event) : Option (String × String) :=
  (events.reverse.findSome? target.server?).bind VoiceServerUpdate.address?

/-- The complete context the events define: the latest session, and the endpoint and token of the
latest server update. -/
def completeContext (target : Target) (events : List Event) : Option VoiceContext := do
  let sessionId ← target.latestSession events
  let (endpoint, token) ← target.latestAddress events
  return ⟨target.guildId, target.channelId, target.userId, sessionId, endpoint, token⟩

/-- The endpoint of the latest server update of the guild that has one. -/
def latestEndpoint (target : Target) (events : List Event) : Option String :=
  events.reverse.findSome? fun event ↦ (target.server? event).bind VoiceServerUpdate.endpoint?

def latestToken (target : Target) (events : List Event) : Option String :=
  events.reverse.findSome? fun event ↦ (target.server? event).bind VoiceServerUpdate.token?

/-- The context of the parts that were heard last, whichever updates they are of. -/
def heardContext (target : Target) (events : List Event) : Option VoiceContext := do
  let sessionId ← target.latestSession events
  let endpoint ← target.latestEndpoint events
  let token ← target.latestToken events
  return ⟨target.guildId, target.channelId, target.userId, sessionId, endpoint, token⟩

end Target

/-- A tracker with what it has heard since the bot was last in no channel, what of that since the bot
last left the target channel, and what it has emitted since then. -/
structure Watch where
  target : Target
  tracker : VoiceContextTracker
  heard : List Event
  sinceLeave : List Event
  emitted : List VoiceContext
  deriving DecidableEq, Repr

namespace Watch

def start (target : Target) : Watch :=
  ⟨target, .new target.guildId target.channelId target.userId, [], [], []⟩

def heardWith (w : Watch) (event : Event) : List Event :=
  if w.target.leaves event then [] else w.heard ++ [event]

def eventsWith (w : Watch) (event : Event) : List Event :=
  if w.target.departs event then [] else w.sinceLeave ++ [event]

def emittedBefore (w : Watch) (event : Event) : List VoiceContext :=
  if w.target.departs event then [] else w.emitted

def step (w : Watch) (event : Event) : Option Watch :=
  let (tracker, output) := w.tracker.observe event
  some ⟨w.target, tracker, w.heardWith event, w.eventsWith event,
    w.emittedBefore event ++ output.toList⟩

/-- What the event is to make the tracker emit: the complete context, unless it is the one emitted
last. -/
def due (w : Watch) (event : Event) : Option VoiceContext :=
  (w.target.completeContext (w.eventsWith event)).filter
    fun context ↦ (w.emittedBefore event).getLast? ≠ some context

/-- Where the parts heard last make a new context, a session has come since the last departure and a
server update, the latest of which has both its parts; and where nothing was emitted since then, that
context is not the one from before. -/
def Unmixed (w : Watch) (event : Event) : Prop :=
  (∀ context ∈ w.target.heardContext (w.heardWith event), w.tracker.current ≠ some context →
      (w.target.latestSession (w.eventsWith event)).isSome = true ∧
        (w.target.latestAddress (w.eventsWith event)).isSome = true) ∧
    (w.emittedBefore event = [] →
      ∀ context ∈ w.target.completeContext (w.eventsWith event), w.tracker.current ≠ some context)

instance (w : Watch) : DecidablePred w.Unmixed := fun _ ↦ inferInstanceAs (Decidable (_ ∧ _))

end Watch

theorem findSome?_reverse_concat {α : Type} (f : Event → Option α) (events : List Event)
    (event : Event) :
    (events ++ [event]).reverse.findSome? f = (f event).or (events.reverse.findSome? f) := by
  rw [List.reverse_append, List.findSome?_append, List.reverse_singleton, List.findSome?_singleton]

theorem findSome?_reverse_of_suffix {α : Type} {f : Event → Option α} {later events : List Event}
    (hsuffix : later <:+ events) {a : α} (h : later.reverse.findSome? f = some a) :
    events.reverse.findSome? f = some a := by
  obtain ⟨before, rfl⟩ := hsuffix
  rw [List.reverse_append, List.findSome?_append, h, Option.some_or]

theorem findSome?_bind {α β : Type} {f : Event → Option β} {g : β → Option α} {events : List Event}
    {b : β} (h : events.findSome? f = some b) {a : α} (ha : g b = some a) :
    events.findSome? (fun event ↦ (f event).bind g) = some a := by
  induction events with
  | nil => cases h
  | cons event events ih =>
    rw [List.findSome?_cons] at h ⊢
    cases hf : f event with
    | none =>
      rw [hf] at h
      exact ih h
    | some b' =>
      rw [hf] at h
      cases h
      rw [Option.bind_some, ha]

theorem Target.completeContext_isSome {target : Target} {events : List Event} :
    (target.completeContext events).isSome = true ↔
      (target.latestSession events).isSome = true ∧ (target.latestAddress events).isSome = true := by
  unfold completeContext
  cases target.latestSession events with
  | none => simp
  | some sessionId => cases target.latestAddress events <;> simp

theorem Target.heardContext_of_complete {target : Target} {later events : List Event}
    (hsuffix : later <:+ events) {context : VoiceContext}
    (h : target.completeContext later = some context) : target.heardContext events = some context := by
  obtain ⟨sessionId, hsession, h⟩ := Option.bind_eq_some_iff.mp h
  obtain ⟨⟨endpoint, token⟩, haddress, h⟩ := Option.bind_eq_some_iff.mp h
  obtain ⟨update, hupdate, haddress⟩ := Option.bind_eq_some_iff.mp haddress
  obtain ⟨_, hendpoint, haddress⟩ := Option.bind_eq_some_iff.mp haddress
  obtain ⟨_, htoken, haddress⟩ := Option.bind_eq_some_iff.mp haddress
  cases haddress
  have hsession' := findSome?_reverse_of_suffix hsuffix hsession
  have hendpoint' := findSome?_reverse_of_suffix hsuffix (findSome?_bind hupdate hendpoint)
  have htoken' := findSome?_reverse_of_suffix hsuffix (findSome?_bind hupdate htoken)
  rw [heardContext, latestSession, hsession', latestEndpoint, hendpoint', latestToken, htoken', ← h]
  rfl

namespace VoiceContextTracker

theorem observe_snd (t : VoiceContextTracker) (event : Event) :
    (t.observe event).2 =
      (t.noted event).context.filter fun context ↦ (t.noted event).current ≠ some context := by
  simp only [observe]
  cases (t.noted event).context with
  | none => rfl
  | some context =>
    by_cases hcurrent : (t.noted event).current = some context <;> simp [hcurrent, Option.filter]

theorem observe_fst (t : VoiceContextTracker) (event : Event) :
    (t.observe event).1 =
      { t.noted event with current := (t.observe event).2.or (t.noted event).current } := by
  simp only [observe]
  cases (t.noted event).context with
  | none => rfl
  | some context =>
    by_cases hcurrent : (t.noted event).current = some context
    · simp only [hcurrent, if_true, Option.none_or]
      rw [← hcurrent]
    · simp [hcurrent]

end VoiceContextTracker

namespace Watch

/-- The tracker holds the parts that were heard last. -/
structure Holds (target : Target) (t : VoiceContextTracker) (events : List Event) : Prop where
  ids : t.guildId = target.guildId ∧ t.channelId = target.channelId ∧ t.userId = target.userId
  session : t.sessionId = target.latestSession events
  endpoint : t.endpoint = target.latestEndpoint events
  token : t.token = target.latestToken events

variable {target : Target} {t : VoiceContextTracker} {events : List Event} {w : Watch} {event : Event}

theorem Holds.context (h : Holds target t events) : t.context = target.heardContext events := by
  obtain ⟨hguild, hchannel, huser⟩ := h.ids
  rw [VoiceContextTracker.context, Target.heardContext, h.session, h.endpoint, h.token, hguild, hchannel,
    huser]

theorem Holds.skip (h : Holds target t events) (hsession : target.session? event = none)
    (hserver : target.server? event = none) : Holds target t (events ++ [event]) where
  ids := h.ids
  session := by
    rw [Target.latestSession, findSome?_reverse_concat, hsession, Option.none_or]
    exact h.session
  endpoint := by
    rw [Target.latestEndpoint, findSome?_reverse_concat, hserver, Option.bind_none, Option.none_or]
    exact h.endpoint
  token := by
    rw [Target.latestToken, findSome?_reverse_concat, hserver, Option.bind_none, Option.none_or]
    exact h.token

theorem Holds.joined (h : Holds target t events) {update : VoiceStateUpdate}
    (hown : target.isOwn update) (hchannel : update.channelId = some target.channelId) :
    Holds target { t with sessionId := some update.sessionId }
      (events ++ [.voiceStateUpdate update]) where
  ids := h.ids
  session := by
    have hsession : target.session? (.voiceStateUpdate update) = some update.sessionId :=
      if_pos ⟨hown.1, hown.2, hchannel⟩
    rw [Target.latestSession, findSome?_reverse_concat, hsession, Option.some_or]
  endpoint := by
    rw [Target.latestEndpoint, findSome?_reverse_concat]
    exact h.endpoint
  token := by
    rw [Target.latestToken, findSome?_reverse_concat]
    exact h.token

theorem Holds.served (h : Holds target t events) {update : VoiceServerUpdate}
    (hguild : update.guildId = target.guildId) :
    Holds target { t with
        endpoint := update.endpoint?.or t.endpoint
        token := update.token?.or t.token } (events ++ [.voiceServerUpdate update]) := by
  have hserver : target.server? (.voiceServerUpdate update) = some update := if_pos hguild
  constructor
  case ids => exact h.ids
  case session =>
    rw [Target.latestSession, findSome?_reverse_concat]
    exact h.session
  case endpoint =>
    rw [Target.latestEndpoint, findSome?_reverse_concat, hserver, h.endpoint]
    rfl
  case token =>
    rw [Target.latestToken, findSome?_reverse_concat, hserver, h.token]
    rfl

theorem Holds.noted (h : Holds target t events) (event : Event) :
    Holds target (t.noted event) (if target.leaves event then [] else events ++ [event]) ∧
      (t.noted event).current = if target.leaves event then none else t.current := by
  obtain ⟨hguild, hchannel, huser⟩ := h.ids
  cases event with
  | other => exact ⟨h.skip rfl rfl, rfl⟩
  | voiceServerUpdate update =>
    have hstays : ¬target.leaves (.voiceServerUpdate update) := id
    rw [if_neg hstays, if_neg hstays]
    by_cases hupdate : update.guildId = target.guildId
    · have htoken : (if update.token ≠ "" then some update.token else t.token) =
          update.token?.or t.token := by
        unfold VoiceServerUpdate.token?
        split_ifs <;> rfl
      rw [VoiceContextTracker.noted, if_pos (hupdate.trans hguild.symm), htoken]
      exact ⟨h.served hupdate, rfl⟩
    · rw [VoiceContextTracker.noted, if_neg fun heq ↦ hupdate (heq.trans hguild)]
      exact ⟨h.skip rfl (if_neg hupdate), rfl⟩
  | voiceStateUpdate update =>
    have hbot : update.userId = t.userId ∧ update.guildId = some t.guildId ↔ target.isOwn update := by
      rw [hguild, huser]
      exact Iff.rfl
    rw [VoiceContextTracker.noted]
    by_cases hown : target.isOwn update
    · obtain ⟨huserId, hguildId⟩ := hbot.mpr hown
      by_cases hleft : update.channelId = none
      · have hleaves : target.leaves (.voiceStateUpdate update) := ⟨hown, hleft⟩
        rw [if_pos hleaves, if_pos hleaves, if_pos ⟨huserId, hguildId, hleft⟩]
        exact ⟨⟨h.ids, rfl, rfl, rfl⟩, rfl⟩
      · have hstays : ¬target.leaves (.voiceStateUpdate update) := fun hl ↦ hleft hl.2
        rw [if_neg hstays, if_neg hstays, if_neg fun hnone ↦ hleft hnone.2.2]
        by_cases hjoined : update.channelId = some target.channelId
        · rw [if_pos ⟨huserId, hguildId, hchannel ▸ hjoined⟩]
          exact ⟨h.joined hown hjoined, rfl⟩
        · rw [if_neg fun hsame ↦ hjoined (hchannel ▸ hsame.2.2)]
          exact ⟨h.skip (if_neg fun hsame ↦ hjoined hsame.2.2) rfl, rfl⟩
    · have hstays : ¬target.leaves (.voiceStateUpdate update) := fun hl ↦ hown hl.1
      rw [if_neg hstays, if_neg hstays, if_neg fun hnone ↦ hown (hbot.mp ⟨hnone.1, hnone.2.1⟩),
        if_neg fun hsame ↦ hown (hbot.mp ⟨hsame.1, hsame.2.1⟩)]
      exact ⟨h.skip (if_neg fun hsame ↦ hown ⟨hsame.1, hsame.2.1⟩) rfl, rfl⟩

/-- The events since the last departure are among those heard, and the tracker knows what it has
emitted since. -/
structure Tracks (w : Watch) : Prop where
  holds : Holds w.target w.tracker w.heard
  since : w.sinceLeave <:+ w.heard
  current : ∀ context ∈ w.emitted.getLast?, w.tracker.current = some context

theorem departs_of_leaves (h : target.leaves event) : target.departs event := by
  cases event with
  | voiceStateUpdate update =>
    refine ⟨h.1, ?_⟩
    rw [h.2]
    exact nofun
  | _ => exact h

namespace Tracks

theorem start (target : Target) : Tracks (.start target) :=
  ⟨⟨⟨rfl, rfl, rfl⟩, rfl, rfl, rfl⟩, List.suffix_refl _, nofun⟩

theorem eventsWith (h : Tracks w) (event : Event) : w.eventsWith event <:+ w.heardWith event := by
  unfold Watch.eventsWith heardWith
  split_ifs with hdeparts hleaves hleaves
  · exact List.suffix_refl _
  · exact List.nil_suffix
  · exact absurd (departs_of_leaves hleaves) hdeparts
  · obtain ⟨before, hbefore⟩ := h.since
    exact ⟨before, by rw [← hbefore, List.append_assoc]⟩

theorem emittedBefore (h : Tracks w) {context : VoiceContext}
    (hlast : (w.emittedBefore event).getLast? = some context) :
    w.tracker.current = some context ∧ (w.tracker.noted event).current = some context := by
  unfold Watch.emittedBefore at hlast
  split_ifs at hlast with hdeparts
  · cases hlast
  · have hcurrent := h.current context hlast
    rw [(h.holds.noted event).2, if_neg fun hleaves ↦ hdeparts (departs_of_leaves hleaves)]
    exact ⟨hcurrent, hcurrent⟩

theorem step (h : Tracks w) {v : Watch} (hstep : w.step event = some v) : Tracks v := by
  obtain rfl := Option.some.inj hstep
  have hholds := (h.holds.noted event).1
  have hfst := w.tracker.observe_fst event
  refine ⟨?_, h.eventsWith event, fun context hlast ↦ ?_⟩
  · change Holds w.target (w.tracker.observe event).1 _
    rw [hfst]
    exact ⟨hholds.ids, hholds.session, hholds.endpoint, hholds.token⟩
  · change (w.tracker.observe event).1.current = some context
    rw [hfst]
    change (w.emittedBefore event ++ (w.tracker.observe event).2.toList).getLast? = some context at hlast
    cases houtput : (w.tracker.observe event).2 with
    | none =>
      rw [houtput, Option.toList_none, List.append_nil] at hlast
      exact (h.emittedBefore hlast).2
    | some emitted =>
      rw [houtput, Option.toList_some, List.getLast?_concat] at hlast
      exact hlast

theorem output (h : Tracks w) (event : Event) : (w.tracker.observe event).2 =
    (w.target.heardContext (w.heardWith event)).filter
      fun context ↦ w.tracker.current ≠ some context := by
  obtain ⟨hholds, hcurrent⟩ := h.holds.noted event
  rw [VoiceContextTracker.observe_snd, hholds.context, heardWith]
  split_ifs at hcurrent ⊢ with hleaves
  · rfl
  · rw [hcurrent]

end Tracks

/-- A tracker in any state emits the complete context of the events since the last departure exactly
when it differs from the one emitted last, and nothing else, if and only if the event is unmixed. -/
theorem emits_latest_context (target : Target) (events : List Event) (event : Event)
    (h : exec step (start target) events = some w) :
    (w.tracker.observe event).2 = w.due event ↔ w.Unmixed event := by
  have htracks : Tracks w := exec_invariant (fun _ _ _ hv hs ↦ hv.step hs) (.start target) h
  have hheard {context : VoiceContext}
      (hcomplete : w.target.completeContext (w.eventsWith event) = some context) :
      w.target.heardContext (w.heardWith event) = some context :=
    Target.heardContext_of_complete (htracks.eventsWith event) hcomplete
  rw [htracks.output]
  constructor
  · intro hsame
    refine ⟨fun context hcontext hnew ↦ ?_, fun hnothing context hcomplete ↦ ?_⟩
    · have hdue : w.due event = some context := by
        rw [← hsame]
        exact Option.filter_eq_some_iff.mpr ⟨hcontext, decide_eq_true hnew⟩
      apply Target.completeContext_isSome.mp
      rw [(Option.filter_eq_some_iff.mp hdue).1]
      rfl
    · have hdue : w.due event = some context := by
        refine Option.filter_eq_some_iff.mpr ⟨hcomplete, decide_eq_true ?_⟩
        rw [hnothing]
        exact nofun
      rw [← hsame] at hdue
      exact of_decide_eq_true (Option.filter_eq_some_iff.mp hdue).2
  · rintro ⟨hparts, hmoved⟩
    cases hdue : w.due event with
    | none =>
      refine Option.filter_eq_none_iff.mpr fun context hcontext hnew ↦ ?_
      have hnew := of_decide_eq_true hnew
      obtain ⟨complete, hcomplete⟩ := Option.isSome_iff_exists.mp
        (Target.completeContext_isSome.mpr (hparts context hcontext hnew))
      obtain rfl : complete = context := Option.some.inj ((hheard hcomplete).symm.trans hcontext)
      rw [due, hcomplete] at hdue
      have hlast := of_not_not fun hlast ↦
        Option.filter_eq_none_iff.mp hdue complete rfl (decide_eq_true hlast)
      exact hnew (htracks.emittedBefore hlast).1
    | some context =>
      obtain ⟨hcomplete, hunlike⟩ := Option.filter_eq_some_iff.mp hdue
      refine Option.filter_eq_some_iff.mpr ⟨hheard hcomplete, decide_eq_true fun hcurrent ↦ ?_⟩
      cases hlast : (w.emittedBefore event).getLast? with
      | none => exact hmoved (List.getLast?_eq_none_iff.mp hlast) context hcomplete hcurrent
      | some last =>
        have hsame := (htracks.emittedBefore hlast).1.symm.trans hcurrent
        exact of_decide_eq_true hunlike (hlast.trans hsame)

def served (endpoint : Option String) (token : String) : Event :=
  .voiceServerUpdate ⟨100, endpoint, token⟩

def seenIn (channelId : Option ℕ) (sessionId : String) : Event :=
  .voiceStateUpdate ⟨some 100, channelId, 300, sessionId⟩

/-- The tracker of one bot after the events. -/
def watching (events : List Event) : Option Watch := exec step (start ⟨100, 200, 300⟩) events

/-- The token of a partial update is replaced before the bot joins. -/
theorem emits_latest_context_joined :
    ∃ w, watching [served (some "a") "1", seenIn none "x", served none "0", served (some "b") "2"] =
        some w ∧
      (w.tracker.observe (seenIn (some 200) "y")).2 = w.due (seenIn (some 200) "y") ∧
      w.due (seenIn (some 200) "y") = some ⟨100, 200, 300, "y", "b", "2"⟩ :=
  ⟨_, rfl, (emits_latest_context ⟨100, 200, 300⟩
    [served (some "a") "1", seenIn none "x", served none "0", served (some "b") "2"]
    (seenIn (some 200) "y") rfl).mpr (by decide), by decide⟩

/-- An update without an endpoint mixes its token with the old endpoint, and a bot moved to another
channel takes the parts from before along. -/
theorem emits_mixed_context :
    (∃ w, watching [served (some "a") "1", seenIn (some 200) "x"] = some w ∧
      (w.tracker.observe (served none "2")).2 = some ⟨100, 200, 300, "x", "a", "2"⟩ ∧
      w.due (served none "2") = none) ∧
    ∃ w, watching [served (some "a") "1", seenIn (some 200) "x", seenIn (some 201) "y"] = some w ∧
      (w.tracker.observe (served (some "b") "2")).2 = some ⟨100, 200, 300, "x", "b", "2"⟩ ∧
      w.due (served (some "b") "2") = none :=
  ⟨⟨_, rfl, by decide, by decide⟩, ⟨_, rfl, by decide, by decide⟩⟩

end Watch

end DiscordVoice.Twilight
