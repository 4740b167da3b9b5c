import Mathlib.Data.List.DropRight
import DiscordVoice.Fallible

namespace DiscordVoice.Validation

open Fallible

open scoped List

inductive SessionEventKind
  | unspecified
  | voiceConnecting
  | voiceReady
  | trackResolving
  | buffering
  | playing
  | paused
  | stopped
  | trackEnded
  | playbackInterrupted
  | recoverableWarning
  | fatalError
  | voiceReconnecting
  | unknown (value : Int32)
  deriving DecidableEq, Repr

def SessionEventKind.asStrName : SessionEventKind → String
  | .unspecified => "SESSION_EVENT_KIND_UNSPECIFIED"
  | .voiceConnecting => "VOICE_CONNECTING"
  | .voiceReady => "VOICE_READY"
  | .trackResolving => "TRACK_RESOLVING"
  | .buffering => "BUFFERING"
  | .playing => "PLAYING"
  | .paused => "PAUSED"
  | .stopped => "STOPPED"
  | .trackEnded => "TRACK_ENDED"
  | .playbackInterrupted => "PLAYBACK_INTERRUPTED"
  | .recoverableWarning => "RECOVERABLE_WARNING"
  | .fatalError => "FATAL_ERROR"
  | .voiceReconnecting => "VOICE_RECONNECTING"
  | .unknown _ => "UNKNOWN"

/-- An event with what the contract reads of it. -/
structure SessionEvent where
  kind : SessionEventKind
  currentVideoId : Option String
  message : Option String
  deriving DecidableEq, Repr

/-- The characters that `trim` takes away, those with the Unicode property `White_Space`. -/
def isWhiteSpace (c : Char) : Bool :=
  (0x09 ≤ c.toNat && c.toNat ≤ 0x0D) || (0x2000 ≤ c.toNat && c.toNat ≤ 0x200A) ||
    [0x20, 0x85, 0xA0, 0x1680, 0x2028, 0x2029, 0x202F, 0x205F, 0x3000].contains c.toNat

def trim (s : String) : String :=
  String.ofList ((s.toList.dropWhile isWhiteSpace).rdropWhile isWhiteSpace)

/-- The id of the event, trimmed; an event without one has the empty id. -/
def SessionEvent.videoId (event : SessionEvent) : String := trim (event.currentVideoId.getD "")

def validateExpectedVideoId (event : SessionEvent) (expectedVideoId : String)
    (kind : SessionEventKind) : Except String Unit :=
  let currentVideoId := event.videoId
  if currentVideoId = expectedVideoId then .ok ()
  else
    let observed := if currentVideoId = "" then "none" else currentVideoId
    .error s!"{kind.asStrName} observed wrong current_video_id: expected video `{expectedVideoId}`, got `{observed}`"

def validateExpectedVideoIdIfPresent (event : SessionEvent) (expectedVideoId : String)
    (kind : SessionEventKind) : Except String Unit :=
  match (event.currentVideoId.map trim).filter (· ≠ "") with
  | none => .ok ()
  | some currentVideoId =>
    if currentVideoId = expectedVideoId then .ok ()
    else
      .error s!"{kind.asStrName} observed wrong current_video_id: expected video `{expectedVideoId}`, got `{currentVideoId}`"

def displayEventMessage (event : SessionEvent) : String :=
  let message := event.message.getD ""
  if trim message = "" then "no message" else message

/-- The events of a playback that the contract has seen. -/
structure LiveContractState where
  sawVoiceConnecting : Bool
  sawVoiceReady : Bool
  sawTrackResolving : Bool
  sawBuffering : Bool
  sawPlaying : Bool
  sawPaused : Bool
  sawResumedPlaying : Bool
  sawTrackEnded : Bool
  deriving DecidableEq, Repr

/-- Events that a playback which has started does not go through again. -/
def SessionEventKind.leavesPlaying : SessionEventKind → Bool
  | .voiceConnecting | .voiceReady | .trackResolving | .buffering | .stopped => true
  | _ => false

abbrev Contract := EStateM String LiveContractState

def bailUnless (c : Bool) (message : String) : Contract Unit :=
  if c then pure () else throw message

namespace LiveContractState

def default : LiveContractState := ⟨false, false, false, false, false, false, false, false⟩

def playingOn (s : LiveContractState) : Bool := s.sawPlaying && !s.sawTrackEnded

def observeEvent (event : SessionEvent) (expectedVideoId : String) : Contract Bool := do
  let s ← get
  let kind := event.kind
  bailUnless (!(kind.leavesPlaying && s.playingOn))
    s!"playback left steady Playing state after start: {kind.asStrName}"
  match kind with
  | .voiceConnecting =>
    ofExcept (validateExpectedVideoIdIfPresent event expectedVideoId kind)
    set { s with sawVoiceConnecting := true }
    return false
  | .voiceReady =>
    ofExcept (validateExpectedVideoIdIfPresent event expectedVideoId kind)
    set { s with sawVoiceReady := true }
    return false
  | .trackResolving =>
    ofExcept (validateExpectedVideoId event expectedVideoId kind)
    set { s with sawTrackResolving := true }
    return false
  | .buffering =>
    bailUnless s.sawTrackResolving "Buffering observed before TrackResolving"
    ofExcept (validateExpectedVideoId event expectedVideoId kind)
    set { s with sawBuffering := true }
    return false
  | .playing =>
    if s.sawPlaying then
      ofExcept (validateExpectedVideoId event expectedVideoId kind)
      set { s with sawResumedPlaying := s.sawPaused || s.sawResumedPlaying }
      return false
    else
      bailUnless s.sawTrackResolving "Playing observed before TrackResolving"
      bailUnless s.sawBuffering "Playing observed before Buffering"
      ofExcept (validateExpectedVideoId event expectedVideoId kind)
      set { s with sawPlaying := true }
      return false
  | .paused =>
    bailUnless s.sawPlaying "Paused observed before Playing"
    bailUnless (!s.sawTrackEnded) "Paused observed after TrackEnded"
    ofExcept (validateExpectedVideoId event expectedVideoId kind)
    set { s with sawPaused := true }
    return false
  | .trackEnded =>
    bailUnless s.sawVoiceReady "TrackEnded observed before VoiceReady"
    bailUnless s.sawTrackResolving "TrackEnded observed before TrackResolving"
    bailUnless s.sawBuffering "TrackEnded observed before Buffering"
    bailUnless s.sawPlaying "TrackEnded observed before Playing"
    bailUnless s.sawPaused "TrackEnded observed before Paused"
    bailUnless s.sawResumedPlaying "TrackEnded observed before Playing after Resume"
    ofExcept (validateExpectedVideoId event expectedVideoId kind)
    set { s with sawTrackEnded := true }
    return true
  | .fatalError => throw s!"FatalError observed: {displayEventMessage event}"
  | .playbackInterrupted => throw s!"PlaybackInterrupted observed: {displayEventMessage event}"
  | .voiceReconnecting =>
    if s.playingOn then
      ofExcept (validateExpectedVideoId event expectedVideoId kind)
      throw s!"VoiceReconnecting observed: {displayEventMessage event}"
    else return false
  | .stopped => return false
  | .unspecified => return false
  | .recoverableWarning => return false
  | .unknown _ => return false

section Steps

variable {α : Type} {s t : LiveContractState} {a : α}

theorem bailUnless_bind_ok {c : Bool} {message : String} {f : Unit → Contract α} :
    (bailUnless c message >>= f) s = .ok a t ↔ c = true ∧ f () s = .ok a t := by
  cases c with
  | false =>
    constructor
    · rintro ⟨⟩
    · rintro ⟨⟨⟩, -⟩
  | true =>
    constructor
    · exact fun h ↦ ⟨rfl, h⟩
    · exact And.right

theorem ofExcept_bind_ok {x : Except String Unit} {f : Unit → Contract α} :
    ((ofExcept x : Contract Unit) >>= f) s = .ok a t ↔ x = .ok () ∧ f () s = .ok a t := by
  cases x with
  | error e =>
    constructor
    · rintro ⟨⟩
    · rintro ⟨⟨⟩, -⟩
  | ok u =>
    constructor
    · exact fun h ↦ ⟨rfl, h⟩
    · exact And.right

theorem set_bind_pure_ok {u : LiveContractState} {result done : Bool} :
    ((set u : Contract PUnit) >>= fun _ ↦ pure result) s = .ok done t ↔ result = done ∧ t = u := by
  constructor
  · rintro ⟨⟩
    exact ⟨rfl, rfl⟩
  · rintro ⟨rfl, rfl⟩
    rfl

theorem throw_ok {e : String} {done : Bool} : (throw e : Contract Bool) s = .ok done t ↔ False := by
  constructor
  · rintro ⟨⟩
  · exact False.elim

theorem pure_ok {result done : Bool} :
    (pure result : Contract Bool) s = .ok done t ↔ result = done ∧ t = s := by
  constructor
  · rintro ⟨⟩
    exact ⟨rfl, rfl⟩
  · rintro ⟨rfl, rfl⟩
    rfl

/-- Where the computation fails it leaves the state as it was. -/
def KeepsOnError (x : Contract α) (s : LiveContractState) : Prop := ∀ e t, x s = .error e t → t = s

theorem KeepsOnError.bailUnless {c : Bool} {message : String} {f : Unit → Contract α}
    (hf : KeepsOnError (f ()) s) : KeepsOnError (bailUnless c message >>= f) s := by
  cases c with
  | false =>
    rintro e t ⟨⟩
    rfl
  | true => exact hf

theorem KeepsOnError.ofExcept {x : Except String Unit} {f : Unit → Contract α}
    (hf : KeepsOnError (f ()) s) : KeepsOnError ((MonadExcept.ofExcept x : Contract Unit) >>= f) s := by
  cases x with
  | error e =>
    rintro e t ⟨⟩
    rfl
  | ok u => exact hf

theorem KeepsOnError.throw (e : String) : KeepsOnError (throw e : Contract α) s := by
  rintro e t ⟨⟩
  rfl

theorem KeepsOnError.pure (a : α) : KeepsOnError (pure a : Contract α) s := by
  rintro e t ⟨⟩

theorem KeepsOnError.set (u : LiveContractState) (result : Bool) :
    KeepsOnError ((set u : Contract PUnit) >>= fun _ ↦ Pure.pure result) s := by
  rintro e t ⟨⟩

end Steps

/-- An event that the contract refuses is not counted. -/
theorem observeEvent_keepsOnError (event : SessionEvent) (v : String) (s : LiveContractState) :
    KeepsOnError (observeEvent event v) s := by
  intro e t h
  rw [observeEvent, get_bind_apply] at h
  revert e t
  apply KeepsOnError.bailUnless
  cases event.kind with
  | voiceConnecting => exact .ofExcept (.set _ _)
  | voiceReady => exact .ofExcept (.set _ _)
  | trackResolving => exact .ofExcept (.set _ _)
  | buffering => exact .bailUnless (.ofExcept (.set _ _))
  | playing =>
    cases hplaying : s.sawPlaying with
    | false => exact .bailUnless (.bailUnless (.ofExcept (.set _ _)))
    | true => exact .ofExcept (.set _ _)
  | paused => exact .bailUnless (.bailUnless (.ofExcept (.set _ _)))
  | trackEnded =>
    exact .bailUnless (.bailUnless (.bailUnless (.bailUnless (.bailUnless (.bailUnless
      (.ofExcept (.set _ _)))))))
  | fatalError => exact .throw _
  | playbackInterrupted => exact .throw _
  | voiceReconnecting =>
    cases hplaying : s.playingOn with
    | false => exact .pure _
    | true => exact .ofExcept (.throw _)
  | _ => exact .pure _

theorem videoId_none {event : SessionEvent} (h : event.currentVideoId = none) :
    event.videoId = "" := by
  rw [SessionEvent.videoId, h]
  rfl

theorem validateExpectedVideoId_ok {event : SessionEvent} {v : String} {kind : SessionEventKind} :
    validateExpectedVideoId event v kind = .ok () ↔ event.videoId = v := by
  unfold validateExpectedVideoId
  constructor
  · intro h
    by_contra hwrong
    rw [if_neg hwrong] at h
    cases h
  · exact fun h ↦ if_pos h

theorem validateExpectedVideoIdIfPresent_ok {event : SessionEvent} {v : String}
    {kind : SessionEventKind} :
    validateExpectedVideoIdIfPresent event v kind = .ok () ↔
      event.videoId = "" ∨ event.videoId = v := by
  unfold validateExpectedVideoIdIfPresent
  cases hid : event.currentVideoId with
  | none =>
    rw [videoId_none hid]
    exact ⟨fun _ ↦ .inl rfl, fun _ ↦ rfl⟩
  | some id =>
    have htrim : event.videoId = trim id := by
      rw [SessionEvent.videoId, hid]
      rfl
    rw [htrim, Option.map_some]
    by_cases hblank : trim id = ""
    · rw [hblank]
      exact ⟨fun _ ↦ .inl rfl, fun _ ↦ rfl⟩
    · have hkept : (some (trim id)).filter (· ≠ "") = some (trim id) := by simp [hblank]
      rw [hkept]
      simp only
      constructor
      · intro h
        by_contra hwrong
        rw [if_neg fun hsame ↦ hwrong (.inr hsame)] at h
        cases h
      · rintro (hempty | hsame)
        · exact absurd hempty hblank
        · exact if_pos hsame

def mark (s : LiveContractState) (kind : SessionEventKind) : LiveContractState where
  sawVoiceConnecting := kind == .voiceConnecting || s.sawVoiceConnecting
  sawVoiceReady := kind == .voiceReady || s.sawVoiceReady
  sawTrackResolving := kind == .trackResolving || s.sawTrackResolving
  sawBuffering := kind == .buffering || s.sawBuffering
  sawPlaying := kind == .playing || s.sawPlaying
  sawPaused := kind == .paused || s.sawPaused
  sawResumedPlaying := (kind == .playing && s.sawPaused) || s.sawResumedPlaying
  sawTrackEnded := s.sawTrackEnded

/-- What an event may follow, for the kinds of the events before it. -/
def Allowed (v : String) (kinds : List SessionEventKind) (event : SessionEvent) : Prop :=
  match event.kind with
  | .voiceConnecting => .playing ∉ kinds ∧ (event.videoId = "" ∨ event.videoId = v)
  | .voiceReady => .playing ∉ kinds ∧ (event.videoId = "" ∨ event.videoId = v)
  | .trackResolving => .playing ∉ kinds ∧ event.videoId = v
  | .buffering => .playing ∉ kinds ∧ .trackResolving ∈ kinds ∧ event.videoId = v
  | .playing => .trackResolving ∈ kinds ∧ .buffering ∈ kinds ∧ event.videoId = v
  | .paused => .playing ∈ kinds ∧ event.videoId = v
  | .stopped => .playing ∉ kinds
  | .voiceReconnecting => .playing ∉ kinds
  | .trackEnded => False
  | .fatalError => False
  | .playbackInterrupted => False
  | .unspecified => True
  | .recoverableWarning => True
  | .unknown _ => True

/-- The flags tell what kinds of events there have been, and in what order. -/
structure Saw (s : LiveContractState) (kinds : List SessionEventKind) : Prop where
  voiceReady : s.sawVoiceReady = true ↔ .voiceReady ∈ kinds
  trackResolving : s.sawTrackResolving = true ↔ .trackResolving ∈ kinds
  buffering : s.sawBuffering = true ↔ .buffering ∈ kinds
  playing : s.sawPlaying = true ↔ .playing ∈ kinds
  paused : s.sawPaused = true ↔ .paused ∈ kinds
  resumedPlaying : s.sawResumedPlaying = true ↔ [.paused, .playing] <+ kinds
  trackEnded : s.sawTrackEnded = false
  beforePlaying : .playing ∈ kinds → .trackResolving ∈ kinds ∧ .buffering ∈ kinds
  beforePaused : .paused ∈ kinds → .playing ∈ kinds

section Events

variable {s t : LiveContractState} {kinds : List SessionEventKind} {event : SessionEvent} {v : String}

theorem playingOn_iff (h : s.Saw kinds) : s.playingOn = true ↔ .playing ∈ kinds := by
  rw [playingOn, h.trackEnded, Bool.not_false, Bool.and_true]
  exact h.playing

theorem steady_iff (h : s.Saw kinds) (kind : SessionEventKind) (hleaves : kind.leavesPlaying = true) :
    (!(kind.leavesPlaying && s.playingOn)) = true ↔ .playing ∉ kinds := by
  rw [hleaves, Bool.true_and, Bool.not_eq_true', ← playingOn_iff h, Bool.not_eq_true]

theorem stays_iff (s : LiveContractState) (kind : SessionEventKind)
    (hstays : kind.leavesPlaying = false) :
    (!(kind.leavesPlaying && s.playingOn)) = true ↔ True := by
  rw [hstays, Bool.false_and, Bool.not_false]
  exact ⟨fun _ ↦ trivial, fun _ ↦ rfl⟩

/-- An event goes by, with its flag set, exactly where it is allowed. -/
theorem observeEvent_passes_iff (h : s.Saw kinds) :
    observeEvent event v s = .ok false t ↔ Allowed v kinds event ∧ t = s.mark event.kind := by
  unfold observeEvent Allowed
  rw [get_bind_apply]
  simp only [bailUnless_bind_ok]
  cases hkind : event.kind with
  | voiceConnecting =>
    simp only [ofExcept_bind_ok, set_bind_pure_ok, steady_iff h .voiceConnecting rfl,
      validateExpectedVideoIdIfPresent_ok, true_and, and_assoc]
    exact Iff.rfl
  | voiceReady =>
    simp only [ofExcept_bind_ok, set_bind_pure_ok, steady_iff h .voiceReady rfl,
      validateExpectedVideoIdIfPresent_ok, true_and, and_assoc]
    exact Iff.rfl
  | trackResolving =>
    simp only [ofExcept_bind_ok, set_bind_pure_ok, steady_iff h .trackResolving rfl, validateExpectedVideoId_ok,
      true_and, and_assoc]
    exact Iff.rfl
  | buffering =>
    simp only [bailUnless_bind_ok, ofExcept_bind_ok, set_bind_pure_ok, steady_iff h .buffering rfl,
      validateExpectedVideoId_ok, h.trackResolving, true_and, and_assoc]
    exact Iff.rfl
  | playing =>
    simp only [stays_iff s .playing rfl, true_and]
    cases hplaying : s.sawPlaying with
    | false =>
      have hfirst : .playing ∉ kinds := by
        rw [← h.playing, hplaying]
        exact Bool.false_ne_true
      have hunpaused : s.sawPaused = false := by
        rw [← Bool.not_eq_true, h.paused]
        exact fun hpaused ↦ hfirst (h.beforePaused hpaused)
      have hmark : s.mark .playing = { s with sawPlaying := true } := by
        rw [mark, hunpaused]
        rfl
      simp only [Bool.false_eq_true, ↓reduceIte, bailUnless_bind_ok, ofExcept_bind_ok,
        set_bind_pure_ok, validateExpectedVideoId_ok, h.trackResolving, h.buffering, true_and,
        and_assoc, hmark]
    | true =>
      have hseen := h.beforePlaying (h.playing.mp hplaying)
      have hmark : s.mark .playing =
          { s with sawResumedPlaying := s.sawPaused || s.sawResumedPlaying } := by
        rw [mark, hplaying]
        rfl
      simp only [↓reduceIte, ofExcept_bind_ok, set_bind_pure_ok, validateExpectedVideoId_ok, hseen.1,
        hseen.2, true_and, hmark, hplaying]
  | paused =>
    have hgoesOn : (!s.sawTrackEnded) = true := by
      rw [h.trackEnded]
      rfl
    simp only [bailUnless_bind_ok, ofExcept_bind_ok, set_bind_pure_ok, stays_iff s .paused rfl,
      validateExpectedVideoId_ok, h.playing, hgoesOn, true_and, and_assoc]
    exact Iff.rfl
  | trackEnded =>
    simp only [bailUnless_bind_ok, ofExcept_bind_ok, set_bind_pure_ok, Bool.true_eq_false,
      false_and, and_false]
  | stopped =>
    simp only [steady_iff h .stopped rfl, pure_ok, true_and]
    exact Iff.rfl
  | voiceReconnecting =>
    simp only [stays_iff s .voiceReconnecting rfl, true_and, ← playingOn_iff h]
    cases s.playingOn with
    | false =>
      simp only [Bool.false_eq_true, ↓reduceIte, pure_ok, not_false_eq_true, true_and]
      exact Iff.rfl
    | true =>
      simp only [↓reduceIte, ofExcept_bind_ok, throw_ok, and_false, not_true_eq_false, false_and]
  | fatalError => simp only [throw_ok, and_false, false_and]
  | playbackInterrupted => simp only [throw_ok, and_false, false_and]
  | unspecified =>
    simp only [stays_iff s .unspecified rfl, pure_ok, true_and]
    exact Iff.rfl
  | recoverableWarning =>
    simp only [stays_iff s .recoverableWarning rfl, pure_ok, true_and]
    exact Iff.rfl
  | unknown value =>
    simp only [stays_iff s (.unknown value) rfl, pure_ok, true_and]
    exact Iff.rfl

theorem flag_iff {flag : Bool} {kind : SessionEventKind} (h : flag = true ↔ kind ∈ kinds)
    (next : SessionEventKind) : (next == kind || flag) = true ↔ kind ∈ kinds ++ [next] := by
  rw [Bool.or_eq_true, beq_iff_eq, h, List.mem_append, List.mem_singleton, or_comm, eq_comm]

theorem pair_sublist_concat {α : Type} {a b x : α} {xs : List α} :
    [a, b] <+ xs ++ [x] ↔ (x = b ∧ a ∈ xs) ∨ [a, b] <+ xs := by
  constructor
  · intro h
    obtain ⟨before, last, hsplit, hbefore, hlast⟩ := List.sublist_append_iff.mp h
    rcases List.sublist_singleton.mp hlast with rfl | rfl
    · rw [List.append_nil] at hsplit
      exact .inr (hsplit ▸ hbefore)
    · have hends : [a] ++ [b] = before ++ [x] := hsplit
      obtain ⟨rfl, hb⟩ := List.append_inj' hends rfl
      exact .inl ⟨(List.singleton_inj.mp hb).symm, List.singleton_sublist.mp hbefore⟩
  · rintro (⟨rfl, ha⟩ | h)
    · exact (List.singleton_sublist.mpr ha).append (List.Sublist.refl [x])
    · exact h.trans (List.sublist_append_left xs [x])

theorem resumed_iff (h : s.Saw kinds) (next : SessionEventKind) :
    (s.mark next).sawResumedPlaying = true ↔ [.paused, .playing] <+ kinds ++ [next] := by
  rw [mark, Bool.or_eq_true, Bool.and_eq_true, beq_iff_eq, h.paused, h.resumedPlaying,
    pair_sublist_concat]

theorem Saw.concat (h : s.Saw kinds) (hallowed : Allowed v kinds event) :
    (s.mark event.kind).Saw (kinds ++ [event.kind]) := by
  refine ⟨?_, ?_, ?_, ?_, ?_, ?_, ?_, ?_, ?_⟩
  · exact flag_iff h.voiceReady event.kind
  · exact flag_iff h.trackResolving event.kind
  · exact flag_iff h.buffering event.kind
  · exact flag_iff h.playing event.kind
  · exact flag_iff h.paused event.kind
  · exact resumed_iff h event.kind
  · exact h.trackEnded
  · intro hplaying
    have hseen : .trackResolving ∈ kinds ∧ .buffering ∈ kinds := by
      rcases List.mem_append.mp hplaying with hbefore | hnow
      · exact h.beforePlaying hbefore
      · rw [Allowed, ← List.mem_singleton.mp hnow] at hallowed
        exact ⟨hallowed.1, hallowed.2.1⟩
    exact ⟨List.mem_append_left _ hseen.1, List.mem_append_left _ hseen.2⟩
  · intro hpaused
    apply List.mem_append_left
    rcases List.mem_append.mp hpaused with hbefore | hnow
    · exact h.beforePaused hbefore
    · rw [Allowed, ← List.mem_singleton.mp hnow] at hallowed
      exact hallowed.1

theorem observeEvent_goesOn (hkind : event.kind ≠ .trackEnded) : observeEvent event v s ≠ .ok true t := by
  intro h
  rw [observeEvent, get_bind_apply, bailUnless_bind_ok] at h
  obtain ⟨-, h⟩ := h
  cases hsame : event.kind with
  | trackEnded => exact hkind hsame
  | playing =>
    rw [hsame] at h
    cases hplaying : s.sawPlaying <;>
      simp only [hplaying, Bool.false_eq_true, ↓reduceIte, bailUnless_bind_ok, ofExcept_bind_ok,
        set_bind_pure_ok, false_and, and_false] at h
  | voiceReconnecting =>
    rw [hsame] at h
    cases hplaying : s.playingOn <;>
      simp only [hplaying, Bool.false_eq_true, ↓reduceIte, ofExcept_bind_ok, throw_ok, pure_ok,
        false_and, and_false] at h
  | _ =>
    rw [hsame] at h
    simp only [bailUnless_bind_ok, ofExcept_bind_ok, set_bind_pure_ok, throw_ok, pure_ok,
      Bool.false_eq_true, false_and, and_false] at h

theorem observeEvent_ends_iff (h : s.Saw kinds) :
    (∃ t, observeEvent event v s = .ok true t) ↔ event.kind = .trackEnded ∧ event.videoId = v ∧
      .voiceReady ∈ kinds ∧ [.paused, .playing] <+ kinds := by
  by_cases hkind : event.kind = .trackEnded
  · have hok : ∀ t, observeEvent event v s = .ok true t ↔ .voiceReady ∈ kinds ∧
        .trackResolving ∈ kinds ∧ .buffering ∈ kinds ∧ .playing ∈ kinds ∧ .paused ∈ kinds ∧
        [.paused, .playing] <+ kinds ∧ event.videoId = v ∧ t = { s with sawTrackEnded := true } := by
      intro t
      rw [observeEvent, get_bind_apply, hkind]
      simp only [bailUnless_bind_ok, stays_iff s .trackEnded rfl, ofExcept_bind_ok, set_bind_pure_ok,
        validateExpectedVideoId_ok, h.voiceReady, h.trackResolving, h.buffering, h.playing, h.paused,
        h.resumedPlaying, true_and]
    simp only [hok]
    constructor
    · rintro ⟨t, hready, -, -, -, -, hresumed, hid, -⟩
      exact ⟨hkind, hid, hready, hresumed⟩
    · rintro ⟨-, hid, hready, hresumed⟩
      have hpaused := hresumed.subset List.mem_cons_self
      have hplaying := h.beforePaused hpaused
      have hseen := h.beforePlaying hplaying
      exact ⟨_, hready, hseen.1, hseen.2, hplaying, hpaused, hresumed, hid, rfl⟩
  · constructor
    · rintro ⟨t, ht⟩
      exact absurd ht (observeEvent_goesOn hkind)
    · rintro ⟨hended, -⟩
      exact absurd hended hkind

end Events

/-- What the calls return for the events, one after another. -/
def results (v : String) : LiveContractState → List SessionEvent → List (Except String Bool)
  | _, [] => []
  | s, event :: events =>
    (match observeEvent event v s with
      | .ok done _ => .ok done
      | .error e _ => .error e) :: results v (stateAfter (observeEvent event v s)) events

/-- The first call that returns `true` is the one for the event at the index, and none before it
fails. -/
def AcceptsAt (v : String) (events : List SessionEvent) (n : ℕ) : Prop :=
  (∀ i < n, (results v default events)[i]? = some (.ok false)) ∧
    (results v default events)[n]? = some (.ok true)

def Passes (v : String) : LiveContractState → List SessionEvent → LiveContractState → Prop
  | s, [], t => s = t
  | s, event :: events, t => ∃ u, observeEvent event v s = .ok false u ∧ Passes v u events t

section Runs

variable {v : String} {s t : LiveContractState} {last : SessionEvent} {after : List SessionEvent}

theorem results_cons {event : SessionEvent} {events : List SessionEvent} {done : Bool}
    (h : observeEvent event v s = .ok done t) :
    results v s (event :: events) = .ok done :: results v t events := by
  rw [results, h]
  rfl

theorem first_result {event : SessionEvent} {events : List SessionEvent} {done : Bool} :
    (results v s (event :: events))[0]? = some (.ok done) ↔
      ∃ t, observeEvent event v s = .ok done t := by
  rw [results, List.getElem?_cons_zero]
  cases observeEvent event v s with
  | ok result t =>
    constructor
    · rintro ⟨⟩
      exact ⟨t, rfl⟩
    · rintro ⟨_, ⟨⟩⟩
      rfl
  | error e t =>
    constructor
    · rintro ⟨⟩
    · rintro ⟨_, ⟨⟩⟩

theorem passes_and_ends_iff (before : List SessionEvent) :
    ((∀ i < before.length, (results v s (before ++ last :: after))[i]? = some (.ok false)) ∧
        (results v s (before ++ last :: after))[before.length]? = some (.ok true)) ↔
      ∃ t, Passes v s before t ∧ ∃ u, observeEvent last v t = .ok true u := by
  induction before generalizing s with
  | nil =>
    rw [List.nil_append, List.length_nil, first_result]
    constructor
    · rintro ⟨-, hlast⟩
      exact ⟨s, rfl, hlast⟩
    · rintro ⟨_, rfl, hlast⟩
      exact ⟨fun i hi ↦ absurd hi (Nat.not_lt_zero i), hlast⟩
  | cons event before ih =>
    rw [List.cons_append, List.length_cons]
    constructor
    · rintro ⟨hpass, hlast⟩
      obtain ⟨u, hu⟩ := first_result.mp (hpass 0 (Nat.succ_pos _))
      rw [results_cons hu] at hpass hlast
      obtain ⟨t, hpasses, hends⟩ := ih.mp ⟨fun i hi ↦ hpass (i + 1) (Nat.succ_lt_succ hi), hlast⟩
      exact ⟨t, ⟨u, hu, hpasses⟩, hends⟩
    · rintro ⟨t, ⟨u, hu, hpasses⟩, hends⟩
      obtain ⟨hpass, hlast⟩ := ih.mpr ⟨t, hpasses, hends⟩
      rw [results_cons hu]
      refine ⟨?_, hlast⟩
      intro i hi
      cases i with
      | zero => rfl
      | succ i => exact hpass i (Nat.lt_of_succ_lt_succ hi)

theorem acceptsAt_iff (before : List SessionEvent) :
    AcceptsAt v (before ++ last :: after) before.length ↔
      ∃ t, Passes v default before t ∧ ∃ u, observeEvent last v t = .ok true u :=
  passes_and_ends_iff before

/-- Every event is allowed after those before it. -/
def GoesOn (v : String) : List SessionEventKind → List SessionEvent → Prop
  | _, [] => True
  | kinds, event :: events => Allowed v kinds event ∧ GoesOn v (kinds ++ [event.kind]) events

theorem Passes.goesOn {kinds : List SessionEventKind} {events : List SessionEvent}
    (h : s.Saw kinds) (hpasses : Passes v s events t) :
    GoesOn v kinds events ∧ t.Saw (kinds ++ events.map (·.kind)) := by
  induction events generalizing s kinds with
  | nil =>
    obtain rfl := hpasses
    rw [List.map_nil, List.append_nil]
    exact ⟨trivial, h⟩
  | cons event events ih =>
    obtain ⟨u, hu, hrest⟩ := hpasses
    obtain ⟨hallowed, rfl⟩ := (observeEvent_passes_iff h).mp hu
    obtain ⟨hgoes, hsaw⟩ := ih (h.concat hallowed) hrest
    rw [List.append_assoc] at hsaw
    exact ⟨⟨hallowed, hgoes⟩, hsaw⟩

theorem exists_passes {kinds : List SessionEventKind} {events : List SessionEvent} (h : s.Saw kinds)
    (hgoes : GoesOn v kinds events) : ∃ t, Passes v s events t := by
  induction events generalizing s kinds with
  | nil => exact ⟨s, rfl⟩
  | cons event events ih =>
    obtain ⟨hallowed, hrest⟩ := hgoes
    obtain ⟨t, ht⟩ := ih (h.concat hallowed) hrest
    exact ⟨t, s.mark event.kind, (observeEvent_passes_iff h).mpr ⟨hallowed, rfl⟩, ht⟩

theorem saw_default : default.Saw [] := by
  have hunseen : ∀ kind : SessionEventKind, false = true ↔ kind ∈ [] := by simp
  have hresumed : false = true ↔ [SessionEventKind.paused, .playing] <+ [] := by simp
  refine ⟨hunseen _, hunseen _, hunseen _, hunseen _, hunseen _, hresumed, rfl, ?_, ?_⟩
  · intro hplaying
    cases hplaying
  · intro hpaused
    cases hpaused

/-- The contract accepts a playback by what kinds of events there are and in what order. -/
theorem acceptsAt_iff_goesOn (before : List SessionEvent) :
    AcceptsAt v (before ++ last :: after) before.length ↔
      GoesOn v [] before ∧ last.kind = .trackEnded ∧ last.videoId = v ∧
        .voiceReady ∈ before.map (·.kind) ∧ [.paused, .playing] <+ before.map (·.kind) := by
  rw [acceptsAt_iff]
  constructor
  · rintro ⟨t, hpasses, hends⟩
    obtain ⟨hgoes, hsaw⟩ := hpasses.goesOn saw_default
    exact ⟨hgoes, (observeEvent_ends_iff hsaw).mp hends⟩
  · rintro ⟨hgoes, hends⟩
    obtain ⟨t, hpasses⟩ := exists_passes saw_default hgoes
    exact ⟨t, hpasses, (observeEvent_ends_iff (hpasses.goesOn saw_default).2).mpr hends⟩

end Runs

def kindsOf (events : List SessionEvent) : List SessionEventKind := events.map (·.kind)

/-- The kinds of the events that carry the expected id. -/
def kindsOfVideo (v : String) (events : List SessionEvent) : List SessionEventKind :=
  (events.filter (·.videoId = v)).map (·.kind)

/-- What a playback does not go through once it is heard. -/
def interruptions : List SessionEventKind :=
  [.voiceConnecting, .voiceReady, .trackResolving, .buffering, .stopped, .voiceReconnecting,
    .fatalError, .playbackInterrupted]

/-- A playback of a video from start to end, with a pause. -/
structure CompletePlayback (v : String) (before : List SessionEvent) (last : SessionEvent) : Prop where
  ended : last.kind = .trackEnded ∧ last.videoId = v
  firstEnd : .trackEnded ∉ kindsOf before
  voiceReady : .voiceReady ∈ kindsOf before
  stages : [.trackResolving, .buffering, .playing, .paused, .playing] <+ kindsOfVideo v before
  steady : ∀ earlier later, kindsOf before = earlier ++ .playing :: later → .playing ∉ earlier →
    ∀ kind ∈ later, kind ∉ interruptions

/-- Nothing comes before its prerequisite, no id is wrong and nothing fails. -/
structure InOrder (v : String) (before : List SessionEvent) : Prop where
  buffering : ∀ earlier later, kindsOf before = earlier ++ .buffering :: later →
    .trackResolving ∈ earlier
  playing : ∀ earlier later, kindsOf before = earlier ++ .playing :: later →
    .trackResolving ∈ earlier ∧ .buffering ∈ earlier
  paused : ∀ earlier later, kindsOf before = earlier ++ .paused :: later → .playing ∈ earlier
  trackIds : ∀ event ∈ before, event.kind ∈ [.trackResolving, .buffering, .playing, .paused] →
    event.videoId = v
  voiceIds : ∀ event ∈ before, event.kind ∈ [.voiceConnecting, .voiceReady] →
    event.videoId = "" ∨ event.videoId = v
  noFailure : ∀ event ∈ before, event.kind ≠ .fatalError ∧ event.kind ≠ .playbackInterrupted

section Playbacks

variable {v : String} {events before : List SessionEvent} {last : SessionEvent}

theorem goesOn_iff (kinds : List SessionEventKind) :
    GoesOn v kinds events ↔ ∀ earlier event later, events = earlier ++ event :: later →
      Allowed v (kinds ++ kindsOf earlier) event := by
  induction events generalizing kinds with
  | nil =>
    refine ⟨?_, fun _ ↦ trivial⟩
    intro _ earlier event later hsplit
    simp at hsplit
  | cons first events ih =>
    rw [GoesOn, ih]
    constructor
    · rintro ⟨hfirst, hrest⟩ earlier event later hsplit
      rcases List.cons_eq_append_iff.mp hsplit with ⟨rfl, hhead⟩ | ⟨more, rfl, rfl⟩
      · obtain ⟨rfl, rfl⟩ := List.cons.inj hhead
        rw [kindsOf, List.map_nil, List.append_nil]
        exact hfirst
      · have hlater := hrest more event later rfl
        rw [List.append_assoc] at hlater
        exact hlater
    · intro hsplits
      refine ⟨?_, ?_⟩
      · have hfirst := hsplits [] first events rfl
        rw [kindsOf, List.map_nil, List.append_nil] at hfirst
        exact hfirst
      · rintro earlier event later rfl
        have hlater := hsplits (first :: earlier) event later rfl
        rw [List.append_assoc]
        exact hlater

theorem kindsOf_append (earlier later : List SessionEvent) :
    kindsOf (earlier ++ later) = kindsOf earlier ++ kindsOf later := List.map_append

theorem kindsOf_cons (event : SessionEvent) (later : List SessionEvent) :
    kindsOf (event :: later) = event.kind :: kindsOf later := rfl

theorem exists_split {earlier later : List SessionEventKind} {kind : SessionEventKind}
    (h : kindsOf events = earlier ++ kind :: later) :
    ∃ a event b, events = a ++ event :: b ∧ kindsOf a = earlier ∧ event.kind = kind ∧
      kindsOf b = later := by
  obtain ⟨a, rest, rfl, ha, hrest⟩ := List.map_eq_append_iff.mp h
  obtain ⟨event, b, rfl, hkind, hb⟩ := List.map_eq_cons_iff.mp hrest
  exact ⟨a, event, b, rfl, ha, hkind, hb⟩

theorem kindsOfVideo_append (earlier later : List SessionEvent) :
    kindsOfVideo v (earlier ++ later) = kindsOfVideo v earlier ++ kindsOfVideo v later := by
  rw [kindsOfVideo, List.filter_append, List.map_append]
  rfl

theorem kindsOfVideo_cons {event : SessionEvent} (hid : event.videoId = v)
    (later : List SessionEvent) :
    kindsOfVideo v (event :: later) = event.kind :: kindsOfVideo v later := by
  simp [kindsOfVideo, hid]

theorem stage (stages : List SessionEventKind) {kind : SessionEventKind}
    (hneeds : ∀ a event b, events = a ++ event :: b → event.kind = kind →
      event.videoId = v ∧ stages <+ kindsOfVideo v a)
    (hkind : kind ∈ kindsOf events) : stages ++ [kind] <+ kindsOfVideo v events := by
  obtain ⟨earlier, later, hsplit⟩ := List.append_of_mem hkind
  obtain ⟨a, event, b, rfl, -, rfl, -⟩ := exists_split hsplit
  obtain ⟨hid, hstages⟩ := hneeds a event b rfl rfl
  rw [kindsOfVideo_append, kindsOfVideo_cons hid]
  exact hstages.append (List.Sublist.cons_cons _ (List.nil_sublist _))

theorem GoesOn.allowed (h : GoesOn v [] events) {earlier later : List SessionEvent}
    {event : SessionEvent} (hsplit : events = earlier ++ event :: later) :
    Allowed v (kindsOf earlier) event := (goesOn_iff []).mp h earlier event later hsplit

theorem GoesOn.allowed_at (h : GoesOn v [] events) {earlier later : List SessionEventKind}
    {kind : SessionEventKind} (hsplit : kindsOf events = earlier ++ kind :: later) :
    ∃ event, event.kind = kind ∧ Allowed v earlier event := by
  obtain ⟨a, event, b, hevents, rfl, hkind, -⟩ := exists_split hsplit
  exact ⟨event, hkind, h.allowed hevents⟩

theorem GoesOn.allowed_of_mem (h : GoesOn v [] events) {event : SessionEvent}
    (hevent : event ∈ events) : ∃ kinds, Allowed v kinds event := by
  obtain ⟨a, b, hsplit⟩ := List.append_of_mem hevent
  exact ⟨kindsOf a, h.allowed hsplit⟩

theorem GoesOn.left {earlier later : List SessionEvent} (h : GoesOn v [] (earlier ++ later)) :
    GoesOn v [] earlier := by
  rw [goesOn_iff]
  rintro a event b rfl
  exact h.allowed (List.append_assoc a (event :: b) later)

theorem resolved_stage (h : GoesOn v [] events) (hkind : .trackResolving ∈ kindsOf events) :
    [.trackResolving] <+ kindsOfVideo v events := by
  apply stage [] _ hkind
  intro a event b hsplit hresolving
  have hallowed := h.allowed hsplit
  rw [Allowed, hresolving] at hallowed
  exact ⟨hallowed.2, List.nil_sublist _⟩

theorem buffered_stage (h : GoesOn v [] events) (hkind : .buffering ∈ kindsOf events) :
    [.trackResolving, .buffering] <+ kindsOfVideo v events := by
  apply stage [.trackResolving] _ hkind
  rintro a event b rfl hbuffering
  have hallowed := h.allowed rfl
  rw [Allowed, hbuffering] at hallowed
  exact ⟨hallowed.2.2, resolved_stage h.left hallowed.2.1⟩

theorem playing_stage (h : GoesOn v [] events) (hkind : .playing ∈ kindsOf events) :
    [.trackResolving, .buffering, .playing] <+ kindsOfVideo v events := by
  apply stage [.trackResolving, .buffering] _ hkind
  rintro a event b rfl hplaying
  have hallowed := h.allowed rfl
  rw [Allowed, hplaying] at hallowed
  exact ⟨hallowed.2.2, buffered_stage h.left hallowed.2.1⟩

theorem paused_stage (h : GoesOn v [] events) (hkind : .paused ∈ kindsOf events) :
    [.trackResolving, .buffering, .playing, .paused] <+ kindsOfVideo v events := by
  apply stage [.trackResolving, .buffering, .playing] _ hkind
  rintro a event b rfl hpaused
  have hallowed := h.allowed rfl
  rw [Allowed, hpaused] at hallowed
  exact ⟨hallowed.2, playing_stage h.left hallowed.1⟩

theorem resumed_stage (h : GoesOn v [] events) (hresumed : [.paused, .playing] <+ kindsOf events) :
    [.trackResolving, .buffering, .playing, .paused, .playing] <+ kindsOfVideo v events := by
  obtain ⟨earlier, later, hkinds, hpaused, hplaying⟩ := List.cons_sublist_iff.mp hresumed
  obtain ⟨a, b, rfl, rfl, rfl⟩ := List.map_eq_append_iff.mp hkinds
  obtain ⟨event, hevent, hkind⟩ := List.mem_map.mp (List.singleton_sublist.mp hplaying)
  obtain ⟨before, after, rfl⟩ := List.append_of_mem hevent
  have hallowed := h.allowed (List.append_assoc a before (event :: after)).symm
  rw [Allowed, hkind] at hallowed
  rw [kindsOfVideo_append, kindsOfVideo_append, kindsOfVideo_cons hallowed.2.2, hkind]
  have hlast : [SessionEventKind.playing] <+
      kindsOfVideo v before ++ .playing :: kindsOfVideo v after :=
    List.singleton_sublist.mpr (List.mem_append_right _ List.mem_cons_self)
  exact (paused_stage h.left hpaused).append hlast

theorem Allowed.not_interrupts {kinds : List SessionEventKind} {event : SessionEvent}
    (hallowed : Allowed v kinds event) (hplaying : .playing ∈ kinds) :
    event.kind ∉ interruptions := by
  intro hinterrupts
  rw [Allowed] at hallowed
  cases hkind : event.kind with
  | voiceConnecting =>
    rw [hkind] at hallowed
    exact hallowed.1 hplaying
  | voiceReady =>
    rw [hkind] at hallowed
    exact hallowed.1 hplaying
  | trackResolving =>
    rw [hkind] at hallowed
    exact hallowed.1 hplaying
  | buffering =>
    rw [hkind] at hallowed
    exact hallowed.1 hplaying
  | stopped =>
    rw [hkind] at hallowed
    exact hallowed hplaying
  | voiceReconnecting =>
    rw [hkind] at hallowed
    exact hallowed hplaying
  | fatalError =>
    rw [hkind] at hallowed
    exact hallowed
  | playbackInterrupted =>
    rw [hkind] at hallowed
    exact hallowed
  | _ =>
    rw [hkind] at hinterrupts
    simp [interruptions] at hinterrupts

theorem steady_of_goesOn (h : GoesOn v [] events) {earlier later : List SessionEventKind}
    (hsplit : kindsOf events = earlier ++ .playing :: later) :
    ∀ kind ∈ later, kind ∉ interruptions := by
  intro kind hkind hinterrupts
  obtain ⟨before, after, rfl⟩ := List.append_of_mem hkind
  have hsplit : kindsOf events = (earlier ++ .playing :: before) ++ kind :: after := by
    rw [hsplit, List.append_assoc]
    rfl
  obtain ⟨a, event, b, hevents, ha, rfl, -⟩ := exists_split hsplit
  have hallowed := h.allowed hevents
  have hplaying : .playing ∈ kindsOf a := by
    rw [ha]
    exact List.mem_append_right _ List.mem_cons_self
  exact hallowed.not_interrupts hplaying hinterrupts

theorem complete_of_goesOn (h : GoesOn v [] before) (hended : last.kind = .trackEnded)
    (hid : last.videoId = v) (hready : .voiceReady ∈ kindsOf before)
    (hresumed : [.paused, .playing] <+ kindsOf before) : CompletePlayback v before last where
  ended := ⟨hended, hid⟩
  firstEnd hmem := by
    obtain ⟨event, hevent, hkind⟩ := List.mem_map.mp hmem
    obtain ⟨kinds, hallowed⟩ := h.allowed_of_mem hevent
    rw [Allowed, hkind] at hallowed
    exact hallowed
  voiceReady := hready
  stages := resumed_stage h hresumed
  steady _ _ hsplit _ := steady_of_goesOn h hsplit

theorem inOrder_of_goesOn (h : GoesOn v [] before) : InOrder v before where
  buffering earlier later hsplit := by
    obtain ⟨event, hkind, hallowed⟩ := h.allowed_at hsplit
    rw [Allowed, hkind] at hallowed
    exact hallowed.2.1
  playing earlier later hsplit := by
    obtain ⟨event, hkind, hallowed⟩ := h.allowed_at hsplit
    rw [Allowed, hkind] at hallowed
    exact ⟨hallowed.1, hallowed.2.1⟩
  paused earlier later hsplit := by
    obtain ⟨event, hkind, hallowed⟩ := h.allowed_at hsplit
    rw [Allowed, hkind] at hallowed
    exact hallowed.1
  trackIds event hevent hkind := by
    obtain ⟨kinds, hallowed⟩ := h.allowed_of_mem hevent
    simp only [List.mem_cons, List.not_mem_nil, or_false] at hkind
    rcases hkind with hkind | hkind | hkind | hkind
    · rw [Allowed, hkind] at hallowed
      exact hallowed.2
    · rw [Allowed, hkind] at hallowed
      exact hallowed.2.2
    · rw [Allowed, hkind] at hallowed
      exact hallowed.2.2
    · rw [Allowed, hkind] at hallowed
      exact hallowed.2
  voiceIds event hevent hkind := by
    obtain ⟨kinds, hallowed⟩ := h.allowed_of_mem hevent
    simp only [List.mem_cons, List.not_mem_nil, or_false] at hkind
    rcases hkind with hkind | hkind
    · rw [Allowed, hkind] at hallowed
      exact hallowed.2
    · rw [Allowed, hkind] at hallowed
      exact hallowed.2
  noFailure event hevent := by
    obtain ⟨kinds, hallowed⟩ := h.allowed_of_mem hevent
    refine ⟨?_, ?_⟩
    · intro hkind
      rw [Allowed, hkind] at hallowed
      exact hallowed
    · intro hkind
      rw [Allowed, hkind] at hallowed
      exact hallowed

theorem unheard_before {earlier later : List SessionEvent} {event : SessionEvent}
    (hcomplete : CompletePlayback v (earlier ++ event :: later) last)
    (hinterrupts : event.kind ∈ interruptions) : .playing ∉ kindsOf earlier := by
  intro hplaying
  obtain ⟨before, after, hsplit, hfirst⟩ := List.eq_append_cons_of_mem hplaying
  have hkinds : kindsOf (earlier ++ event :: later) =
      before ++ .playing :: (after ++ event.kind :: kindsOf later) := by
    rw [kindsOf_append, kindsOf_cons, hsplit, List.append_assoc]
    rfl
  exact hcomplete.steady _ _ hkinds hfirst event.kind
    (List.mem_append_right _ List.mem_cons_self) hinterrupts

theorem goesOn_of_complete (hcomplete : CompletePlayback v before last)
    (horder : InOrder v before) : GoesOn v [] before := by
  rw [goesOn_iff]
  rintro earlier event later rfl
  have hmem : event ∈ earlier ++ event :: later := List.mem_append_right _ List.mem_cons_self
  have hkinds : kindsOf (earlier ++ event :: later) =
      kindsOf earlier ++ event.kind :: kindsOf later := by
    rw [kindsOf_append, kindsOf_cons]
  have hunheard := unheard_before hcomplete
  have htrack := horder.trackIds event hmem
  have hvoice := horder.voiceIds event hmem
  rw [List.nil_append, Allowed]
  cases hkind : event.kind with
  | voiceConnecting =>
    rw [hkind] at hunheard hvoice
    exact ⟨hunheard (by decide), hvoice (by decide)⟩
  | voiceReady =>
    rw [hkind] at hunheard hvoice
    exact ⟨hunheard (by decide), hvoice (by decide)⟩
  | trackResolving =>
    rw [hkind] at hunheard htrack
    exact ⟨hunheard (by decide), htrack (by decide)⟩
  | buffering =>
    rw [hkind] at hunheard htrack hkinds
    exact ⟨hunheard (by decide), horder.buffering _ _ hkinds, htrack (by decide)⟩
  | playing =>
    rw [hkind] at htrack hkinds
    have hseen := horder.playing _ _ hkinds
    exact ⟨hseen.1, hseen.2, htrack (by decide)⟩
  | paused =>
    rw [hkind] at htrack hkinds
    exact ⟨horder.paused _ _ hkinds, htrack (by decide)⟩
  | stopped =>
    rw [hkind] at hunheard
    exact hunheard (by decide)
  | voiceReconnecting =>
    rw [hkind] at hunheard
    exact hunheard (by decide)
  | trackEnded =>
    rw [hkind] at hkinds
    apply hcomplete.firstEnd
    rw [hkinds]
    exact List.mem_append_right _ List.mem_cons_self
  | fatalError => exact (horder.noFailure event hmem).1 hkind
  | playbackInterrupted => exact (horder.noFailure event hmem).2 hkind
  | unspecified => trivial
  | recoverableWarning => trivial
  | unknown value => trivial

theorem resumed_of_stages
    (h : [.trackResolving, .buffering, .playing, .paused, .playing] <+ kindsOfVideo v before) :
    [.paused, .playing] <+ kindsOf before := by
  have hlast : [SessionEventKind.paused, .playing] <+
      [.trackResolving, .buffering, .playing, .paused, .playing] :=
    List.sublist_append_right [SessionEventKind.trackResolving, .buffering, .playing] _
  exact (hlast.trans h).trans (List.filter_sublist.map _)

theorem results_length (v : String) (s : LiveContractState) (events : List SessionEvent) :
    (results v s events).length = events.length := by
  induction events generalizing s with
  | nil => rfl
  | cons event events ih => exact congrArg Nat.succ (ih _)

/-- The contract accepts exactly the complete playbacks whose events are in order. -/
theorem accepts_complete_playbacks (v : String) (events : List SessionEvent) (n : ℕ) :
    AcceptsAt v events n ↔ ∃ before last after, events = before ++ last :: after ∧ before.length = n ∧
      CompletePlayback v before last ∧ InOrder v before := by
  constructor
  · intro haccepts
    have hlength : n < events.length := by
      rw [← results_length v default]
      exact (List.getElem?_eq_some_iff.mp haccepts.2).1
    obtain ⟨before, last, after, rfl, rfl⟩ :
        ∃ before last after, events = before ++ last :: after ∧ before.length = n := by
      refine ⟨events.take n, events[n], events.drop (n + 1), ?_, ?_⟩
      · rw [← List.drop_eq_getElem_cons hlength, List.take_append_drop]
      · exact List.length_take_of_le (Nat.le_of_lt hlength)
    obtain ⟨hgoes, hended, hid, hready, hresumed⟩ := (acceptsAt_iff_goesOn before).mp haccepts
    exact ⟨before, last, after, rfl, rfl, complete_of_goesOn hgoes hended hid hready hresumed,
      inOrder_of_goesOn hgoes⟩
  · rintro ⟨before, last, after, rfl, rfl, hcomplete, horder⟩
    rw [acceptsAt_iff_goesOn]
    exact ⟨goesOn_of_complete hcomplete horder, hcomplete.ended.1, hcomplete.ended.2,
      hcomplete.voiceReady, resumed_of_stages hcomplete.stages⟩

example : (results "id" default
    [⟨.voiceReady, none, none⟩, ⟨.trackResolving, some " id", none⟩, ⟨.buffering, some "id", none⟩,
      ⟨.playing, some "id", none⟩, ⟨.paused, some "id", none⟩, ⟨.playing, some "id", none⟩,
      ⟨.trackEnded, some "id ", none⟩]).map Except.toOption =
    [some false, some false, some false, some false, some false, some false, some true] := by
  decide +kernel

end Playbacks

end LiveContractState

end DiscordVoice.Validation
