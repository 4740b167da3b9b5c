import Mathlib.Tactic.IntervalCases
import DiscordVoice.Playback.WebmDemux

namespace DiscordVoice.Playback

open Voice (Bytes)

def tagBytes (tags : List (MatroskaTag × ℕ)) : ℕ := (tags.map Prod.snd).sum

def completeTags : List (MatroskaTag × ℕ) → ℕ → List (MatroskaTag × ℕ)
  | [], _ => []
  | (tag, size) :: rest, n =>
    if size ≤ n then (tag, size) :: completeTags rest (n - size) else []

def MatroskaTag.isOther : MatroskaTag → Bool
  | .other => true
  | _ => false

/-- What an iterator yields, without the tags the demuxer has no arm for. -/
def significant (items : List (Except TagIteratorError MatroskaTag)) :
    List (Except TagIteratorError MatroskaTag) :=
  items.filter fun
    | .ok tag => !tag.isOther
    | .error _ => true

/-- The end of what an iterator yields on so many bytes, of which the complete tags take so many. -/
def iteratorEnd (complete available : ℕ) : List (Except TagIteratorError MatroskaTag) :=
  if complete = available then [] else [.error (.unexpectedEof complete)]

/-- What `webm_iterable` makes of a stream: run from the boundary between two tags on the bytes
received so far, it yields the tags that are complete and stops at the first one that is not. -/
structure Tagged (lib : WebmIterable) (bytes : Bytes) (tags : List (MatroskaTag × ℕ)) : Prop where
  positive : ∀ tag ∈ tags, 0 < tag.2
  reads : ∀ before after n, tags = before ++ after → tagBytes before + n ≤ bytes.length →
    significant (lib.tags ((bytes.drop (tagBytes before)).take n)) =
      significant ((completeTags after n).map fun tag ↦ .ok tag.1) ++
        iteratorEnd (tagBytes (completeTags after n)) n

namespace WebmDemuxState

variable {lib : WebmIterable}

def processTags (lib : WebmIterable) (s : WebmDemuxState) :
    List (MatroskaTag × ℕ) → Except PlaybackError (WebmDemuxState × List DemuxedPacket)
  | [] => .ok (s, [])
  | tag :: tags =>
    match s.processTag lib tag.1 with
    | .error e => .error e
    | .ok (t, packets) =>
      match t.processTags lib tags with
      | .error e => .error e
      | .ok (u, more) => .ok (u, packets ++ more)

theorem parseTags_significant (s : WebmDemuxState) (packets : List DemuxedPacket)
    (items : List (Except TagIteratorError MatroskaTag)) :
    s.parseTags lib packets items = s.parseTags lib packets (significant items) := by
  induction items generalizing s packets with
  | nil => rfl
  | cons item items ih =>
    cases item with
    | error e =>
      have hkeep : significant (.error e :: items) = .error e :: significant items := rfl
      rw [hkeep]
      cases e <;> rfl
    | ok tag =>
      by_cases hother : tag.isOther = true
      · have hdrop : significant (.ok tag :: items) = significant items := by
          simp [significant, hother]
        have htag : tag = .other := by
          cases tag <;> simp_all [MatroskaTag.isOther]
        rw [hdrop, ← ih, htag]
        simp only [parseTags, processTag, List.append_nil]
      · have hkeep : significant (.ok tag :: items) = .ok tag :: significant items := by
          simp [significant, hother]
        rw [hkeep]
        simp only [parseTags]
        cases s.processTag lib tag with
        | error e => rfl
        | ok next => exact ih next.1 (packets ++ next.2)

theorem parseTags_append (s : WebmDemuxState) (packets : List DemuxedPacket)
    (tags : List (MatroskaTag × ℕ)) (rest : List (Except TagIteratorError MatroskaTag)) :
    s.parseTags lib packets ((tags.map fun tag ↦ .ok tag.1) ++ rest) =
      match s.processTags lib tags with
      | .error e => .error e
      | .ok (t, more) => t.parseTags lib (packets ++ more) rest := by
  induction tags generalizing s packets with
  | nil => simp [processTags]
  | cons tag tags ih =>
    simp only [List.map_cons, List.cons_append, parseTags, processTags]
    cases s.processTag lib tag.1 with
    | error e => rfl
    | ok next =>
      simp only [ih]
      cases next.1.processTags lib tags with
      | error e => rfl
      | ok last => simp only [List.append_assoc]

theorem processTags_append (s : WebmDemuxState) (tags rest : List (MatroskaTag × ℕ)) :
    s.processTags lib (tags ++ rest) =
      match s.processTags lib tags with
      | .error e => .error e
      | .ok (t, packets) =>
        match t.processTags lib rest with
        | .error e => .error e
        | .ok (u, more) => .ok (u, packets ++ more) := by
  induction tags generalizing s with
  | nil =>
    simp only [List.nil_append, processTags]
    cases s.processTags lib rest <;> rfl
  | cons tag tags ih =>
    simp only [List.cons_append, processTags]
    cases s.processTag lib tag.1 with
    | error e => rfl
    | ok next =>
      simp only [ih]
      cases next.1.processTags lib tags with
      | error e => rfl
      | ok last =>
        simp only
        cases last.1.processTags lib rest with
        | error e => rfl
        | ok final => simp only [List.append_assoc]

end WebmDemuxState

theorem tagBytes_append (tags rest : List (MatroskaTag × ℕ)) :
    tagBytes (tags ++ rest) = tagBytes tags + tagBytes rest := by
  simp [tagBytes]

theorem completeTags_le (tags : List (MatroskaTag × ℕ)) (n : ℕ) :
    tagBytes (completeTags tags n) ≤ n := by
  induction tags generalizing n with
  | nil => exact Nat.zero_le n
  | cons tag tags ih =>
    unfold completeTags
    split_ifs with hfits
    · have hrest := ih (n - tag.2)
      simp only [tagBytes, List.map_cons, List.sum_cons] at hrest ⊢
      omega
    · exact Nat.zero_le n

theorem completeTags_append {tags : List (MatroskaTag × ℕ)} (rest : List (MatroskaTag × ℕ)) {n : ℕ}
    (h : tagBytes tags ≤ n) :
    completeTags (tags ++ rest) n = tags ++ completeTags rest (n - tagBytes tags) := by
  induction tags generalizing n with
  | nil => rfl
  | cons tag tags ih =>
    simp only [tagBytes, List.map_cons, List.sum_cons] at h
    have hrest : tagBytes tags ≤ n - tag.2 := by
      simp only [tagBytes]
      omega
    have hleft : n - tag.2 - tagBytes tags = n - tagBytes (tag :: tags) := by
      simp only [tagBytes, List.map_cons, List.sum_cons]
      omega
    simp only [List.cons_append, completeTags]
    rw [if_pos (by omega), ih hrest, hleft]

theorem completeTags_split (tags : List (MatroskaTag × ℕ)) (n : ℕ) :
    ∃ rest, tags = completeTags tags n ++ rest ∧
      completeTags rest (n - tagBytes (completeTags tags n)) = [] := by
  induction tags generalizing n with
  | nil => exact ⟨[], rfl, rfl⟩
  | cons tag tags ih =>
    by_cases hfits : tag.2 ≤ n
    · obtain ⟨rest, htags, hnone⟩ := ih (n - tag.2)
      have hcomplete : completeTags (tag :: tags) n = tag :: completeTags tags (n - tag.2) := by
        simp only [completeTags, if_pos hfits]
      refine ⟨rest, by rw [hcomplete, List.cons_append, ← htags], ?_⟩
      rw [hcomplete]
      simpa only [tagBytes, List.map_cons, List.sum_cons, Nat.sub_add_eq] using hnone
    · have hcomplete : completeTags (tag :: tags) n = [] := by
        simp only [completeTags, if_neg hfits]
      exact ⟨tag :: tags, by rw [hcomplete, List.nil_append], by rw [hcomplete]; exact hcomplete⟩

namespace WebmOpusDemux

variable {lib : WebmIterable} {bytes : Bytes} {tags before after : List (MatroskaTag × ℕ)} {n : ℕ}
  {s t : WebmDemuxState} {packets : List DemuxedPacket}

/-- A demuxer that has let go of the tags before, and holds so many bytes behind them. -/
def holding (bytes : Bytes) (before : List (MatroskaTag × ℕ)) (n : ℕ) (s : WebmDemuxState) :
    WebmOpusDemux :=
  ⟨(bytes.drop (tagBytes before)).take n, s⟩

theorem parseAvailable_tagged (h : Tagged lib bytes tags) (htags : tags = before ++ after)
    (hn : tagBytes before + n ≤ bytes.length) :
    s.parseAvailable lib (holding bytes before n s).pending =
      match s.processTags lib (completeTags after n) with
      | .error e => .error e
      | .ok (t, packets) =>
        if tagBytes (completeTags after n) = n then .ok (.complete t packets)
        else .ok (.incomplete t packets (tagBytes (completeTags after n))) := by
  have hitems := h.reads before after n htags hn
  have hend : significant (iteratorEnd (tagBytes (completeTags after n)) n) =
      iteratorEnd (tagBytes (completeTags after n)) n := by
    unfold iteratorEnd
    split_ifs <;> rfl
  rw [← hend] at hitems
  have happend : ∀ items rest, significant items ++ significant rest = significant (items ++ rest) :=
    fun items rest ↦ (List.filter_append ..).symm
  rw [happend] at hitems
  unfold WebmDemuxState.parseAvailable holding
  rw [WebmDemuxState.parseTags_significant, hitems, ← WebmDemuxState.parseTags_significant,
    WebmDemuxState.parseTags_append]
  cases s.processTags lib (completeTags after n) with
  | error e => rfl
  | ok next =>
    simp only [List.nil_append, iteratorEnd]
    split_ifs <;> rfl

theorem completeTags_zero (h : ∀ tag ∈ after, 0 < tag.2) : completeTags after 0 = [] := by
  cases after with
  | nil => rfl
  | cons tag rest =>
    have hpositive := h tag List.mem_cons_self
    simp only [completeTags]
    rw [if_neg (by omega)]

theorem tagBytes_pos (h : ∀ tag ∈ tags, 0 < tag.2) (hne : tags ≠ []) : 0 < tagBytes tags := by
  obtain ⟨tag, rest, rfl⟩ := List.exists_cons_of_ne_nil hne
  have hpositive := h tag List.mem_cons_self
  simp only [tagBytes, List.map_cons, List.sum_cons]
  omega

theorem drainPackets_holding (h : Tagged lib bytes tags) (htags : tags = before ++ after)
    (hn : tagBytes before + n ≤ bytes.length)
    (hprocess : s.processTags lib (completeTags after n) = .ok (t, packets)) :
    (holding bytes before n s).drainPackets lib =
      if packets ≠ [] ∨ tagBytes (completeTags after n) = n then
        .ok (packets, holding bytes (before ++ completeTags after n)
          (n - tagBytes (completeTags after n)) t)
      else .ok ([], holding bytes before n s) := by
  have hpositive : ∀ tag ∈ after, 0 < tag.2 := fun tag htag ↦
    h.positive tag (htags ▸ List.mem_append_right before htag)
  have hlength : (holding bytes before n s).pending.length = n := by
    simp only [holding, List.length_take, List.length_drop]
    omega
  by_cases hzero : n = 0
  · subst hzero
    have hnone := completeTags_zero hpositive
    rw [hnone] at hprocess ⊢
    cases hprocess
    have hpending := List.length_eq_zero_iff.mp hlength
    rw [if_pos (.inr rfl), drainPackets, if_pos hpending, List.append_nil]
    rfl
  · have hpending : (holding bytes before n s).pending ≠ [] := fun hnil ↦ by
      rw [hnil] at hlength
      exact hzero hlength.symm
    have hparse := parseAvailable_tagged (s := s) h htags hn
    rw [hprocess] at hparse
    have hstate : (holding bytes before n s).state = s := rfl
    rw [drainPackets, if_neg hpending, hstate, hparse]
    by_cases hall : tagBytes (completeTags after n) = n
    · rw [if_pos (.inr hall)]
      simp only [hall, if_true, Nat.sub_self, holding, List.take_zero]
    · simp only [hall, if_false, or_false]
      by_cases hpackets : packets = []
      · simp only [hpackets, ne_eq, not_true, and_false, if_false]
      · have hsome : completeTags after n ≠ [] := fun hnil ↦ by
          rw [hnil] at hprocess
          cases hprocess
          exact hpackets rfl
        obtain ⟨rest, hsplit, -⟩ := completeTags_split after n
        have htail : 0 < tagBytes (completeTags after n) :=
          tagBytes_pos (fun tag htag ↦ hpositive tag (hsplit ▸ List.mem_append_left rest htag)) hsome
        have hle := completeTags_le after n
        rw [if_pos ⟨htail, hpackets⟩, if_pos hpackets, hlength, Nat.min_eq_left hle]
        simp only [holding, List.drop_take, List.drop_drop, tagBytes_append]

theorem drainPackets_holding_error (h : Tagged lib bytes tags) (htags : tags = before ++ after)
    (hn : tagBytes before + n ≤ bytes.length) {e : PlaybackError}
    (hprocess : s.processTags lib (completeTags after n) = .error e) :
    (holding bytes before n s).drainPackets lib = .error e := by
  have hparse := parseAvailable_tagged (s := s) h htags hn
  rw [hprocess] at hparse
  have hpending : (holding bytes before n s).pending ≠ [] := by
    intro hnil
    have hlength : (holding bytes before n s).pending.length = n := by
      simp only [holding, List.length_take, List.length_drop]
      omega
    rw [hnil, List.length_nil] at hlength
    subst hlength
    have hnone := completeTags_zero fun tag htag ↦
      h.positive tag (htags ▸ List.mem_append_right before htag)
    rw [hnone] at hprocess
    cases hprocess
  have hstate : (holding bytes before n s).state = s := rfl
  rw [drainPackets, if_neg hpending, hstate, hparse]

/-- The chunks pushed one after another, with the packets drained after each of them. -/
def demuxChunks (lib : WebmIterable) (d : WebmOpusDemux) :
    List Bytes → Except PlaybackError (List DemuxedPacket × WebmOpusDemux)
  | [] => .ok ([], d)
  | chunk :: chunks =>
    match (d.pushBytes chunk).drainPackets lib with
    | .error e => .error e
    | .ok (packets, d) =>
      match d.demuxChunks lib chunks with
      | .error e => .error e
      | .ok (more, d) => .ok (packets ++ more, d)

theorem pushBytes_holding {chunk rest : Bytes}
    (hchunk : bytes.drop (tagBytes before) =
      (bytes.drop (tagBytes before)).take n ++ (chunk ++ rest))
    (hn : tagBytes before + n ≤ bytes.length) :
    (holding bytes before n s).pushBytes chunk = holding bytes before (n + chunk.length) s ∧
      bytes.drop (tagBytes before) =
        (bytes.drop (tagBytes before)).take (n + chunk.length) ++ rest := by
  set stream := bytes.drop (tagBytes before) with hstream
  have hlength : (stream.take n).length = n := by
    rw [hstream, List.length_take, List.length_drop]
    omega
  have htake : stream.take (n + chunk.length) = stream.take n ++ chunk := by
    rw [List.take_add]
    congr 1
    rw [hchunk, List.drop_left' hlength, List.take_left]
  refine ⟨?_, by rw [htake, List.append_assoc]; exact hchunk⟩
  simp only [holding, pushBytes, ← hstream, htake]

/-- The packets still to come from a demuxer that holds some bytes, when the rest of the stream
arrives in chunks. The tags it holds have given no packet yet. -/
theorem demuxChunks_holding (h : Tagged lib bytes tags) {chunks : List Bytes}
    (htags : tags = before ++ after)
    (hchunks : bytes.drop (tagBytes before) =
      (bytes.drop (tagBytes before)).take n ++ chunks.flatten)
    (hn : tagBytes before + n ≤ bytes.length)
    (hheld : ∃ u, s.processTags lib (completeTags after n) = .ok (u, []))
    (hprocess : s.processTags lib (completeTags after (bytes.length - tagBytes before)) =
      .ok (t, packets)) :
    ∃ d, (holding bytes before n s).demuxChunks lib chunks = .ok (packets, d) := by
  induction chunks generalizing before after n s packets with
  | nil =>
    obtain ⟨u, hheld⟩ := hheld
    have hlength := congrArg List.length hchunks
    simp only [List.flatten_nil, List.append_nil, List.length_take, List.length_drop] at hlength
    have hall : bytes.length - tagBytes before = n := by omega
    rw [hall, hheld] at hprocess
    cases hprocess
    exact ⟨_, rfl⟩
  | cons chunk chunks ih =>
    rw [List.flatten_cons] at hchunks
    obtain ⟨hpush, hrest⟩ := pushBytes_holding (s := s) hchunks hn
    have hlength := congrArg List.length hchunks
    simp only [List.length_append, List.length_take, List.length_drop] at hlength
    have hmore : tagBytes before + (n + chunk.length) ≤ bytes.length := by omega
    obtain ⟨rest, hsplit, hnone⟩ := completeTags_split after (n + chunk.length)
    set complete := completeTags after (n + chunk.length) with hcomplete
    have hle : tagBytes complete ≤ n + chunk.length := completeTags_le after (n + chunk.length)
    have hfits : tagBytes complete ≤ bytes.length - tagBytes before := by omega
    rw [hsplit, completeTags_append rest hfits, WebmDemuxState.processTags_append] at hprocess
    rcases hfirst : s.processTags lib complete with e | ⟨u, first⟩
    · rw [hfirst] at hprocess
      cases hprocess
    rw [hfirst] at hprocess
    simp only at hprocess
    rcases hlast : u.processTags lib
      (completeTags rest (bytes.length - tagBytes before - tagBytes complete)) with e | ⟨v, last⟩
    · rw [hlast] at hprocess
      cases hprocess
    rw [hlast] at hprocess
    cases hprocess
    simp only [demuxChunks, hpush, drainPackets_holding h htags hmore hfirst, ← hcomplete]
    split_ifs with hcommit
    · have hdrop : bytes.drop (tagBytes (before ++ complete)) =
          (bytes.drop (tagBytes (before ++ complete))).take
            (n + chunk.length - tagBytes complete) ++ chunks.flatten := by
        have hdropped := congrArg (List.drop (tagBytes complete)) hrest
        rw [List.drop_append_of_le_length (by
          simp only [List.length_take, List.length_drop]; omega), List.drop_take, List.drop_drop]
          at hdropped
        rwa [tagBytes_append]
      have hgone : tags = (before ++ complete) ++ rest := by
        rw [List.append_assoc, ← hsplit, ← htags]
      have hbehind : u.processTags lib
          (completeTags rest (bytes.length - tagBytes (before ++ complete))) = .ok (t, last) := by
        rw [tagBytes_append, Nat.sub_add_eq]
        exact hlast
      obtain ⟨d, hd⟩ := ih hgone hdrop (by rw [tagBytes_append]; omega)
        ⟨u, by rw [hnone]; rfl⟩ hbehind
      simp only [hd]
      exact ⟨d, rfl⟩
    · have hfirstNil : first = [] := by
        by_contra hne
        exact hcommit (.inl hne)
      subst hfirstNil
      have hwhole : s.processTags lib (completeTags after (bytes.length - tagBytes before)) =
          .ok (t, last) := by
        rw [hsplit, completeTags_append rest hfits, WebmDemuxState.processTags_append, hfirst]
        simp only [hlast, List.nil_append]
      obtain ⟨d, hd⟩ := ih htags hrest hmore ⟨u, hcomplete ▸ hfirst⟩ hwhole
      simp only [hd]
      exact ⟨d, rfl⟩

/-- However a stream is cut, its chunks give the packets of the whole. -/
theorem demuxChunks_eq_whole (h : Tagged lib bytes tags) {whole : WebmOpusDemux}
    (hwhole : (default.pushBytes bytes).drainPackets lib = .ok (packets, whole))
    {chunks : List Bytes} (hchunks : chunks.flatten = bytes) :
    ∃ d, default.demuxChunks lib chunks = .ok (packets, d) := by
  have hnone : completeTags tags 0 = [] := completeTags_zero h.positive
  have hpushed : default.pushBytes bytes = holding bytes [] bytes.length .default := by
    simp [pushBytes, default, holding, tagBytes]
  have hdefault : default = holding bytes [] 0 .default := by
    simp [default, holding]
  have hn : tagBytes [] + bytes.length ≤ bytes.length := by simp [tagBytes]
  rw [hpushed] at hwhole
  rcases hprocess : WebmDemuxState.default.processTags lib (completeTags tags bytes.length) with
    e | ⟨t, all⟩
  · rw [drainPackets_holding_error h rfl hn hprocess] at hwhole
    cases hwhole
  · have hall : all = packets := by
      rw [drainPackets_holding h rfl hn hprocess] at hwhole
      split_ifs at hwhole with hcommit
      · cases hwhole
        rfl
      · cases hwhole
        by_contra hne
        exact hcommit (.inl hne)
    subst hall
    rw [hdefault]
    have htags : tags = [] ++ tags := rfl
    have hall : WebmDemuxState.default.processTags lib
        (completeTags tags (bytes.length - tagBytes [])) = .ok (t, all) := by
      simpa [tagBytes] using hprocess
    exact demuxChunks_holding h htags (by simpa [tagBytes] using hchunks.symm)
      (by simp [tagBytes]) ⟨.default, by rw [hnone]; rfl⟩ hall

/-- The elements of a cluster as `webm_iterable` reads them, with timestamps of one byte and blocks
of five. -/
def clusterTags : ℕ → ℕ → Bytes → List (Except TagIteratorError MatroskaTag)
  | 0, _, _ => []
  | fuel + 1, start, input =>
    if input = [] then []
    else if 3 ≤ input.length ∧ input.take 2 = [0xE7, 0x81] then
      .ok (.timestamp ((input.drop 2).headD 0).toNat) :: clusterTags fuel (start + 3) (input.drop 3)
    else if 7 ≤ input.length ∧ input.take 2 = [0xA3, 0x85] then
      .ok (.simpleBlock ((input.drop 2).take 5)) :: clusterTags fuel (start + 7) (input.drop 7)
    else [.error (.unexpectedEof start)]

def clusterIterable : WebmIterable where
  tags input := clusterTags input.length 0 input
  simpleBlock data := .ok ⟨(data.headD 0).toNat % 128, ((data.drop 2).headD 0).toNat, .ok [data.drop 4]⟩
  block _ := .error ""

def clusterBytes : Bytes := [0xE7, 0x81, 5, 0xA3, 0x85, 0x81, 0, 0, 0x80, 0xFC]

def clusterElements : List (MatroskaTag × ℕ) :=
  [(.timestamp 5, 3), (.simpleBlock [0x81, 0, 0, 0x80, 0xFC], 7)]

theorem clusterBytes_tagged : Tagged clusterIterable clusterBytes clusterElements := by
  refine ⟨by simp [clusterElements], fun before after n htags hn ↦ ?_⟩
  have hsplit : before = [] ∧ after = clusterElements ∨
      before = clusterElements.take 1 ∧ after = clusterElements.drop 1 ∨
      before = clusterElements ∧ after = [] := by
    rcases before with _ | ⟨x, _ | ⟨y, _ | ⟨z, before⟩⟩⟩
    · exact .inl ⟨rfl, htags.symm⟩
    · obtain ⟨rfl, rfl⟩ := List.cons.inj htags
      exact .inr (.inl ⟨rfl, rfl⟩)
    · simp only [clusterElements, List.cons_append, List.cons.injEq, List.nil_append] at htags
      obtain ⟨rfl, rfl, rfl⟩ := htags
      exact .inr (.inr ⟨rfl, rfl⟩)
    · simp [clusterElements] at htags
  have hbytes : clusterBytes.length = 10 := rfl
  rcases hsplit with ⟨rfl, rfl⟩ | ⟨rfl, rfl⟩ | ⟨rfl, rfl⟩
  · have hsize : tagBytes [] = 0 := rfl
    have hle : n ≤ 10 := by omega
    interval_cases n <;> rfl
  · have hsize : tagBytes (clusterElements.take 1) = 3 := rfl
    have hle : n ≤ 7 := by omega
    interval_cases n <;> rfl
  · have hsize : tagBytes clusterElements = 10 := rfl
    have hle : n = 0 := by omega
    subst hle
    rfl

/-- Both elements are cut. -/
theorem demuxChunks_cut_elements : ∃ d,
    default.demuxChunks clusterIterable
      [[0xE7, 0x81], [5, 0xA3, 0x85, 0x81], [], [0, 0, 0x80, 0xFC]] =
        .ok ([⟨[0xFC], 5, 240, 20, 960⟩], d) :=
  @demuxChunks_eq_whole _ _ _ [⟨[0xFC], 5, 240, 20, 960⟩] clusterBytes_tagged
    ⟨[], ⟨1000000, 5, none⟩⟩ rfl _ rfl

end WebmOpusDemux

end DiscordVoice.Playback
