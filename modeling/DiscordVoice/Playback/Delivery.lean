import DiscordVoice.Schedule
import DiscordVoice.Playback.Source

namespace DiscordVoice.Playback

open Voice (Bytes)
open Schedule

theorem splitOnce_append {c : Char} {left : List Char} (right : List Char) (h : c ∉ left) :
    splitOnce c (left ++ c :: right) = some (left, right) := by
  have hall : ∀ d ∈ left, (decide (d ≠ c)) = true := by
    intro d hd
    exact decide_eq_true fun heq ↦ h (heq ▸ hd)
  unfold splitOnce
  rw [List.dropWhile_append_of_pos hall, List.takeWhile_append_of_pos hall]
  simp

theorem isDigit_of_decimal {n : ℕ} {c : Char} (h : c ∈ Nat.toDigits 10 n) : c.isDigit = true :=
  Nat.isDigit_of_mem_toDigits (by omega) le_rfl h

theorem not_mem_decimal {n : ℕ} {c : Char} (h : c.isDigit = false) : c ∉ Nat.toDigits 10 n := by
  intro hc
  rw [isDigit_of_decimal hc] at h
  cases h

theorem parseU64_decimal {n : ℕ} (h : n < 2 ^ 64) : parseU64 (Nat.toDigits 10 n) = some n := by
  have hplus : (Nat.toDigits 10 n).head? ≠ some '+' := by
    intro hhead
    exact not_mem_decimal (by decide) (List.mem_of_mem_head? hhead)
  have hdigits : (Nat.toDigits 10 n).all Char.isDigit = true :=
    List.all_eq_true.2 fun c ↦ isDigit_of_decimal
  simpa [parseU64, hplus, hdigits, Nat.toDigits_ne_nil, Nat.ofDigitChars_ten_toDigits] using h

/-- The text of a `Content-Range` header that gives the complete length. -/
def contentRangeText (start last completeLength : ℕ) : List Char :=
  bytesUnit ++ Nat.toDigits 10 start ++ '-' :: Nat.toDigits 10 last ++
    '/' :: Nat.toDigits 10 completeLength

theorem parseContentRange_contentRangeText {start last completeLength : ℕ} (hstart : start < 2 ^ 64)
    (hlast : last < 2 ^ 64) (hlength : completeLength < 2 ^ 64) :
    parseContentRange (contentRangeText start last completeLength) =
      some ⟨start, last, some completeLength⟩ := by
  have hunit : bytesUnit <+: contentRangeText start last completeLength := by
    simp only [contentRangeText, List.append_assoc]
    exact List.prefix_append ..
  have hdrop : (contentRangeText start last completeLength).drop bytesUnit.length =
      (Nat.toDigits 10 start ++ '-' :: Nat.toDigits 10 last) ++
        '/' :: Nat.toDigits 10 completeLength := by
    simp only [contentRangeText, List.append_assoc]
    exact List.drop_left
  have hslash : '/' ∉ Nat.toDigits 10 start ++ '-' :: Nat.toDigits 10 last := by
    simp only [List.mem_append, List.mem_cons, not_or]
    exact ⟨not_mem_decimal (by decide), by decide, not_mem_decimal (by decide)⟩
  have hdash : '-' ∉ Nat.toDigits 10 start := not_mem_decimal (by decide)
  have hstar : Nat.toDigits 10 completeLength ≠ ['*'] := by
    intro heq
    exact not_mem_decimal (by decide) (heq ▸ List.mem_singleton_self '*')
  unfold parseContentRange
  simp only [hunit, if_true, hdrop, Option.bind_eq_bind, Option.bind_some,
    splitOnce_append _ hslash, splitOnce_append _ hdash, parseU64_decimal hstart,
    parseU64_decimal hlast, parseU64_decimal hlength, hstar, if_false, Option.map_some,
    Option.pure_def]

/-- A byte string whose length is a `u64`, as the lengths of the protocol are. -/
structure Resource where
  bytes : Bytes
  length_lt : bytes.length < 2 ^ 64

/-- What the server answers to a request of the bytes from `offset` on: the resource itself when
nothing is skipped, a range of it, or that there is none. -/
def Resource.Answers (resource : Resource) (offset : ℕ) (reply : Response) : Prop :=
  if offset = 0 then
    reply.status = 200 ∧ reply.contentLength = some resource.bytes.length ∧
      reply.contentRange = none ∧ reply.body = resource.bytes
  else if offset < resource.bytes.length then
    reply.status = 206 ∧ reply.body ≠ [] ∧ reply.body <+: resource.bytes.drop offset ∧
      reply.contentRange = some (some
        (contentRangeText offset (offset + reply.body.length - 1) resource.bytes.length))
  else reply.status = 416

instance (resource : Resource) (offset : ℕ) (reply : Response) :
    Decidable (resource.Answers offset reply) :=
  inferInstanceAs (Decidable (ite _ _ _))

/-- A source whose stream is read: calls of `readChunk`, each polled to its end or dropped, with
resets and replacements of the stream in between. -/
structure SourceReader where
  source : PlaybackSource
  reading : Bool
  /-- The passes of the call under way that have changed the stream. -/
  passes : ℕ
  results : List (Except PlaybackError (Option Bytes))

inductive ReaderMove
  | read
  | answer (answer : NetAnswer)
  | drop
  | reset
  | replace (resolved : ResolvedPlaybackSource)

def chunks (results : List (Except PlaybackError (Option Bytes))) : List Bytes :=
  results.filterMap fun
    | .ok chunk => chunk
    | .error _ => none

def delivered (results : List (Except PlaybackError (Option Bytes))) : Bytes :=
  (chunks results).flatten

namespace SourceReader

def start (source : PlaybackSource) : SourceReader :=
  ⟨{ source with stream := .new source.resolved.playableUrl }, false, 0, []⟩

def withStream (r : SourceReader) (stream : HttpOpusStream) : SourceReader :=
  { r with source := { r.source with stream } }

def polled (r : SourceReader) : ReadPass → SourceReader
  | .again stream =>
    { r.withStream stream with
      passes := if stream = r.source.stream then r.passes else r.passes + 1 }
  | .returned result stream =>
    { r.withStream stream with reading := false, results := r.results ++ [result] }

def step (r : SourceReader) : ReaderMove → Option SourceReader
  | .read => if r.reading then none else some { r with reading := true, passes := 0 }
  | .answer answer => if r.reading then (r.source.stream.readPass answer).map r.polled else none
  | .drop => if r.reading then some { r with reading := false } else none
  | .reset =>
    if r.reading then none else some { r with source := r.source.resetStreamToCurrentByteOffset }
  | .replace resolved =>
    if r.reading then none
    else some { r with source := r.source.replaceResolvedStreamAtCurrentByteOffset resolved }

/-- Every response that comes in is the server's answer to the request that was made. -/
def Served (resource : Resource) (r : SourceReader) : ReaderMove → Prop
  | .answer (.sent (.ok reply)) => resource.Answers r.source.stream.byteOffset reply
  | _ => True

instance (resource : Resource) (r : SourceReader) (move : ReaderMove) :
    Decidable (r.Served resource move) :=
  match move with
  | .answer (.sent (.ok reply)) =>
    inferInstanceAs (Decidable (resource.Answers r.source.stream.byteOffset reply))
  | .answer (.sent (.error _)) | .answer .slept | .answer (.body _) | .read | .drop | .reset
  | .replace _ => isTrue trivial

end SourceReader

namespace HttpOpusStream

/-- The bytes the stream has yet to deliver of what it asked for. -/
def ahead (s : HttpOpusStream) : Bytes := s.pending ++ s.response.elim [] Response.body

/-- What the stream holds continues the resource where it has got to, and an open response has told
where the resource ends. -/
structure Aligned (resource : Resource) (s : HttpOpusStream) : Prop where
  within : s.byteOffset ≤ resource.bytes.length
  begun : s.responseStart ≤ s.byteOffset
  continues : s.ahead <+: resource.bytes.drop s.byteOffset
  extent : s.response.isSome →
    s.resourceEnd = some resource.bytes.length ∨ s.responseEnd = some resource.bytes.length

/-- How many passes that change the stream a call of `readChunk` can still make. -/
def rank (s : HttpOpusStream) : ℕ :=
  if s.pending ≠ [] then 1
  else if s.response.isNone then 3
  else if s.responseStart = s.byteOffset then 2
  else 4

/-- What a pass does to the stream and what it returns, against the resource. -/
def Advances (resource : Resource) (s : HttpOpusStream) : ReadPass → Prop
  | .again t => t.Aligned resource ∧ t.byteOffset = s.byteOffset ∧ (t = s ∨ t.rank < s.rank)
  | .returned (.error _) t => t.Aligned resource ∧ t.byteOffset = s.byteOffset
  | .returned (.ok none) t =>
    t.Aligned resource ∧ t.byteOffset = s.byteOffset ∧ s.byteOffset = resource.bytes.length
  | .returned (.ok (some chunk)) t =>
    t.Aligned resource ∧ t.byteOffset = s.byteOffset + chunk.length ∧
      chunk <+: resource.bytes.drop s.byteOffset ∧ 1 ≤ chunk.length ∧ chunk.length ≤ 65536

variable {resource : Resource} {s : HttpOpusStream}

theorem aligned_new (url : String) : (new url).Aligned resource where
  within := Nat.zero_le _
  begun := le_rfl
  continues := List.nil_prefix
  extent h := by cases h

theorem aligned_setResumeOffset {t : HttpOpusStream} (h : s.Aligned resource) :
    (t.setResumeOffset s.byteOffset).Aligned resource where
  within := h.within
  begun := le_rfl
  continues := List.nil_prefix
  extent hresponse := by cases hresponse

theorem Aligned.closed (h : s.Aligned resource) (hpending : s.pending = []) (e d : Option ℕ) :
    Aligned resource { s with response := none, responseEnd := e, resourceEnd := d } where
  within := h.within
  begun := h.begun
  continues := by
    simp only [ahead, hpending, Option.elim_none, List.append_nil]
    exact List.nil_prefix
  extent hresponse := by cases hresponse

theorem rank_worn (hpending : s.pending = []) (hresponse : s.response.isSome)
    (hstart : s.responseStart ≠ s.byteOffset) : s.rank = 4 := by
  simp [rank, hpending, hstart, Option.isSome_iff_ne_none.1 hresponse]

theorem responseExtent_of_answers {reply : Response} {offset : ℕ}
    (h : resource.Answers offset reply) (hlt : offset = 0 ∨ offset < resource.bytes.length) :
    ∃ extent, responseExtent reply offset = .ok extent ∧
      (extent.resourceEnd = some resource.bytes.length ∨
        extent.responseEnd = some resource.bytes.length) := by
  have hlength := resource.length_lt
  unfold Resource.Answers at h
  by_cases hzero : offset = 0
  · rw [if_pos hzero] at h
    obtain ⟨-, hcontent, hrange, -⟩ := h
    refine ⟨⟨some resource.bytes.length, none⟩, ?_, .inr rfl⟩
    have hsum : saturatingAdd offset resource.bytes.length = resource.bytes.length := by
      rw [saturatingAdd_eq (by omega), hzero, zero_add]
    simp only [responseExtent, hrange, hcontent, Option.map_some, hsum]
  · have hoffset : offset < resource.bytes.length := hlt.resolve_left hzero
    rw [if_neg hzero, if_pos hoffset] at h
    obtain ⟨-, hbody, hcontinues, hrange⟩ := h
    have hlast : offset + reply.body.length - 1 < 2 ^ 64 := by
      have hle := hcontinues.length_le
      rw [List.length_drop] at hle
      omega
    refine ⟨⟨some (saturatingAdd (offset + reply.body.length - 1) 1), some resource.bytes.length⟩,
      ?_, .inl rfl⟩
    have hparsed := parseContentRange_contentRangeText (hoffset.trans hlength) hlast hlength
    simp only [responseExtent, hrange, hparsed, ne_eq, not_true_eq_false, if_false]

theorem validateResumeResponse_contentRangeText {reply : Response} {start last completeLength : ℕ}
    (hstatus : reply.status = 206)
    (hrange : reply.contentRange = some (some (contentRangeText start last completeLength))) :
    validateResumeResponse reply start = .ok () := by
  have hstarts : bytesUnit ++ Nat.toDigits 10 start ++ ['-'] <+:
      contentRangeText start last completeLength := by
    refine ⟨Nat.toDigits 10 last ++ '/' :: Nat.toDigits 10 completeLength, ?_⟩
    simp [contentRangeText]
  unfold validateResumeResponse
  rw [hrange]
  simp only [hstatus, ne_eq, not_true_eq_false, if_false, hstarts, if_true, ite_self]

theorem openResponse_of_answers {reply : Response} (h : resource.Answers s.byteOffset reply)
    (hlt : s.byteOffset = 0 ∨ s.byteOffset < resource.bytes.length) :
    s.openResponse (.ok reply) = .ok (some reply) ∧
      reply.body <+: resource.bytes.drop s.byteOffset := by
  unfold Resource.Answers at h
  by_cases hzero : s.byteOffset = 0
  · rw [if_pos hzero] at h
    obtain ⟨hstatus, -, -, hbody⟩ := h
    refine ⟨?_, by simp [hbody, hzero]⟩
    simp [openResponse, Response.errorForStatus, validateResumeResponse, hstatus, hzero]
  · have hoffset : s.byteOffset < resource.bytes.length := hlt.resolve_left hzero
    rw [if_neg hzero, if_pos hoffset] at h
    obtain ⟨hstatus, -, hcontinues, hrange⟩ := h
    refine ⟨?_, hcontinues⟩
    have hvalid := validateResumeResponse_contentRangeText hstatus hrange
    simp [openResponse, Response.errorForStatus, hvalid, hstatus]

theorem opened_advances {reply : Except PlaybackError Response} (h : s.Aligned resource)
    (hpending : s.pending = []) (hresponse : s.response = none)
    (hserved : ∀ response, reply = .ok response → resource.Answers s.byteOffset response) :
    s.Advances resource (s.opened reply) := by
  have hlength := h.within
  rcases reply with e | response
  · exact ⟨h, rfl⟩
  have hanswer := hserved response rfl
  by_cases hlt : s.byteOffset = 0 ∨ s.byteOffset < resource.bytes.length
  · obtain ⟨hopen, hbody⟩ := openResponse_of_answers hanswer hlt
    obtain ⟨extent, hextent, hends⟩ := responseExtent_of_answers hanswer hlt
    simp only [opened, hopen, hextent, Advances]
    refine ⟨⟨h.within, le_rfl, ?_, fun _ ↦ hends⟩, trivial, .inr ?_⟩
    · simpa only [ahead, hpending, Option.elim_some, List.nil_append] using hbody
    · simp [rank, hpending, hresponse]
  · push Not at hlt
    have hstatus : response.status = 416 := by
      unfold Resource.Answers at hanswer
      rwa [if_neg hlt.1, if_neg (by omega)] at hanswer
    have hopen : s.openResponse (.ok response) = .ok none := by
      simp [openResponse, hstatus, Nat.pos_of_ne_zero hlt.1]
    simp only [opened, hopen, Advances]
    exact ⟨h, trivial, by omega⟩

theorem received_advances {response : Response} (h : s.Aligned resource)
    (hpending : s.pending = []) (hresponse : s.response = some response) (piece : BodyPiece) :
    s.Advances resource (s.received response piece) := by
  have hahead : s.ahead = response.body := by
    simp only [ahead, hpending, hresponse, Option.elim_some, List.nil_append]
  have hlength := h.within
  cases piece with
  | data count =>
    simp only [received, Advances]
    refine ⟨⟨h.within, h.begun, ?_, fun _ ↦ h.extent (by simp [hresponse])⟩, trivial, ?_⟩
    · have hcontinues := h.continues
      rw [hahead] at hcontinues
      simpa only [ahead, hpending, Option.elim_some, List.nil_append, List.take_append_drop]
        using hcontinues
    · by_cases hnothing : response.body.take count = []
      · refine .inl ?_
        have hsame : response.body.drop count = response.body := by
          have := List.take_append_drop count response.body
          rwa [hnothing, List.nil_append] at this
        rcases s with ⟨url, r, start, e, d, pending, offset⟩
        simp only at hpending hresponse
        simp [hpending, hresponse, hnothing, hsame]
      · refine .inr ?_
        simp only [rank, hpending, hresponse, List.nil_append, ne_eq, hnothing, not_false_eq_true,
          if_true, not_true_eq_false, if_false, Option.isNone_some, Bool.false_eq_true]
        split <;> omega
  | finished =>
    have hextent := h.extent (by simp [hresponse])
    simp only [received, shouldReopenAfterResponseEof]
    by_cases hshort : (!(s.responseEnd.any (decide <| s.byteOffset < ·)) &&
        !(s.resourceEnd.any (decide <| s.byteOffset < ·))) = true
    · simp only [hshort, if_true, Advances]
      refine ⟨h.closed hpending none none, trivial, ?_⟩
      rcases hextent with hend | hend <;> simp [hend] at hshort <;> omega
    · simp only [hshort]
      by_cases hstart : s.byteOffset ≤ s.responseStart
      · simp only [hstart, if_true, Advances]
        exact ⟨h.closed hpending _ _, rfl⟩
      · simp only [hstart, if_false, Advances]
        refine ⟨h.closed hpending none _, rfl, .inr ?_⟩
        rw [rank_worn hpending (by simp [hresponse]) (by omega)]
        simp [rank, hpending]
  | failed e =>
    simp only [received]
    by_cases hworn : s.pending ≠ [] ∨ s.responseStart < s.byteOffset
    · have hlt : s.responseStart < s.byteOffset := hworn.resolve_left (not_not_intro hpending)
      simp only [hworn, if_true, Advances]
      refine ⟨h.closed hpending none _, trivial, .inr ?_⟩
      rw [rank_worn hpending (by simp [hresponse]) hlt.ne]
      simp [rank, hpending]
    · simp only [hworn, if_false, Advances]
      exact ⟨h.closed hpending none _, trivial⟩

theorem takePendingChunk_advances (h : s.Aligned resource) (hpending : s.pending ≠ []) :
    s.Advances resource (.returned (.ok s.takePendingChunk.1) s.takePendingChunk.2) := by
  have hbound := resource.length_lt
  have hlength := h.within
  obtain ⟨rest, hrest⟩ := h.continues
  have hsize := congrArg List.length hrest
  simp only [ahead, List.length_append, List.length_drop] at hsize
  obtain ⟨chunk, hchunk⟩ : ∃ chunk, chunk = s.pending.take maxReadChunkBytes := ⟨_, rfl⟩
  have hsplit : chunk ++ s.pending.drop maxReadChunkBytes = s.pending := by
    rw [hchunk, List.take_append_drop]
  have hlen := congrArg List.length hsplit
  simp only [List.length_append] at hlen
  have hoffset : saturatingAdd s.byteOffset chunk.length = s.byteOffset + chunk.length :=
    saturatingAdd_eq (by omega)
  have hahead : chunk ++ (s.pending.drop maxReadChunkBytes ++ s.response.elim [] Response.body ++
      rest) = resource.bytes.drop s.byteOffset := by
    rw [← hrest, ahead, ← List.append_assoc, ← List.append_assoc, hsplit]
  have hpos : 0 < s.pending.length := List.length_pos_of_ne_nil hpending
  have hmax : chunk.length = min 65536 s.pending.length := by
    rw [hchunk, List.length_take]
    rfl
  have hbegun := h.begun
  simp only [takePendingChunk, hpending, if_false, ← hchunk, hoffset, Advances]
  refine ⟨⟨?_, ?_, ?_, h.extent⟩, trivial, ⟨_, hahead⟩, ?_, ?_⟩
  · change s.byteOffset + chunk.length ≤ resource.bytes.length
    omega
  · change s.responseStart ≤ s.byteOffset + chunk.length
    omega
  · simp only [ahead]
    rw [← List.drop_drop, ← hahead, List.drop_left]
    exact ⟨rest, rfl⟩
  · omega
  · omega

theorem readPass_advances {answer : NetAnswer} {pass : ReadPass} (h : s.Aligned resource)
    (hserved : ∀ reply, answer = .sent (.ok reply) → resource.Answers s.byteOffset reply)
    (hpass : s.readPass answer = some pass) : s.Advances resource pass := by
  unfold readPass at hpass
  by_cases hpending : s.pending ≠ []
  · rw [if_pos hpending] at hpass
    cases answer with
    | slept =>
      cases hpass
      exact takePendingChunk_advances h hpending
    | sent reply => cases hpass
    | body piece => cases hpass
  · rw [if_neg hpending] at hpass
    push Not at hpending
    cases hresponse : s.response with
    | none =>
      cases answer with
      | sent reply =>
        simp only [hresponse, Option.some.injEq] at hpass
        rw [← hpass]
        exact opened_advances h hpending hresponse fun response hr ↦ hserved response (by rw [hr])
      | slept => simp [hresponse] at hpass
      | body piece => simp [hresponse] at hpass
    | some response =>
      cases answer with
      | body piece =>
        simp only [hresponse, Option.some.injEq] at hpass
        rw [← hpass]
        exact received_advances h hpending hresponse piece
      | slept => simp [hresponse] at hpass
      | sent reply => simp [hresponse] at hpass

end HttpOpusStream

theorem delivered_concat (results : List (Except PlaybackError (Option Bytes)))
    (result : Except PlaybackError (Option Bytes)) :
    delivered (results ++ [result]) = delivered results ++ delivered [result] := by
  simp only [delivered, chunks, List.filterMap_append, List.flatten_append]

namespace SourceReader

variable {resource : Resource}

/-- The chunks returned so far are the resource up to the stream's offset. -/
structure Exact (resource : Resource) (r : SourceReader) : Prop where
  aligned : r.source.stream.Aligned resource
  delivers : delivered r.results = resource.bytes.take r.source.stream.byteOffset
  sized : ∀ chunk ∈ chunks r.results, 1 ≤ chunk.length ∧ chunk.length ≤ 65536
  ended : ∀ before after, r.results = before ++ .ok none :: after →
    delivered before = resource.bytes
  ranked : r.reading → r.passes + r.source.stream.rank ≤ 4

theorem exact_start (source : PlaybackSource) : (start source).Exact resource where
  aligned := HttpOpusStream.aligned_new _
  delivers := rfl
  sized chunk h := by cases h
  ended before after h := by
    have := congrArg List.length h
    simp [start] at this
  ranked h := by cases h

theorem rank_le (s : HttpOpusStream) : s.rank ≤ 4 := by
  unfold HttpOpusStream.rank
  split_ifs <;> omega

theorem Exact.moved {r : SourceReader} (h : r.Exact resource) (source : PlaybackSource)
    (haligned : source.stream.Aligned resource)
    (hoffset : source.stream.byteOffset = r.source.stream.byteOffset) :
    Exact resource { r with source, reading := false } where
  aligned := haligned
  delivers := by rw [hoffset]; exact h.delivers
  sized := h.sized
  ended := h.ended
  ranked hr := by cases hr

theorem Exact.returned {r : SourceReader} (h : r.Exact resource) {stream : HttpOpusStream}
    {result : Except PlaybackError (Option Bytes)} (haligned : stream.Aligned resource)
    (hdelivers : delivered r.results ++ delivered [result] =
      resource.bytes.take stream.byteOffset)
    (hsized : ∀ chunk ∈ chunks [result], 1 ≤ chunk.length ∧ chunk.length ≤ 65536)
    (hended : result = .ok none → delivered r.results = resource.bytes) :
    Exact resource (r.polled (.returned result stream)) where
  aligned := haligned
  delivers := (delivered_concat r.results result).trans hdelivers
  sized chunk hchunk := by
    simp only [polled, withStream, chunks, List.filterMap_append, List.mem_append] at hchunk
    exact hchunk.elim (h.sized chunk) (hsized chunk)
  ended before after heq := by
    simp only [polled, withStream] at heq
    rcases List.eq_nil_or_concat after with rfl | ⟨rest, last, rfl⟩
    · obtain ⟨rfl, hlast⟩ := List.append_inj' heq rfl
      exact hended (List.singleton_inj.1 hlast)
    · rw [List.concat_eq_append, ← List.cons_append, ← List.append_assoc] at heq
      exact h.ended before rest (List.append_inj' heq rfl).1
  ranked hr := by cases hr

theorem Exact.polled {r : SourceReader} (h : r.Exact resource) (hreading : r.reading = true)
    {pass : ReadPass} (hpass : r.source.stream.Advances resource pass) :
    (r.polled pass).Exact resource := by
  have hdelivers := h.delivers
  rcases pass with t | ⟨_ | _ | chunk, t⟩
  · obtain ⟨haligned, hoffset, hrank⟩ := hpass
    refine ⟨haligned, hoffset ▸ hdelivers, h.sized, h.ended, fun _ ↦ ?_⟩
    have hranked := h.ranked hreading
    simp only [SourceReader.polled, withStream]
    split_ifs with hsame
    · exact hsame ▸ hranked
    · have := hrank.resolve_left hsame
      omega
  · obtain ⟨haligned, hoffset⟩ := hpass
    refine h.returned haligned ?_ ?_ ?_
    · simpa [delivered, chunks, hoffset] using hdelivers
    · simp [chunks]
    · intro heq
      cases heq
  · obtain ⟨haligned, hoffset, hend⟩ := hpass
    refine h.returned haligned ?_ ?_ ?_
    · simpa [delivered, chunks, hoffset] using hdelivers
    · simp [chunks]
    · intro _
      rw [hdelivers, hend, List.take_length]
  · obtain ⟨haligned, hoffset, ⟨rest, hrest⟩, hsized⟩ := hpass
    refine h.returned haligned ?_ ?_ ?_
    · have hchunk : chunk = (resource.bytes.drop r.source.stream.byteOffset).take chunk.length := by
        rw [← hrest, List.take_left]
      rw [hdelivers, hoffset, List.take_add, ← hchunk]
      simp [delivered, chunks]
    · intro other hother
      simp only [chunks, List.filterMap_cons, List.filterMap_nil, List.mem_singleton] at hother
      exact hother ▸ hsized
    · intro heq
      cases heq

theorem step_exact {r t : SourceReader} {move : ReaderMove} (h : r.Exact resource)
    (hserved : r.Served resource move) (hstep : r.step move = some t) : t.Exact resource := by
  cases hreading : r.reading with
  | false =>
    cases move with
    | read =>
      simp only [step, hreading, Bool.false_eq_true, if_false, Option.some.injEq] at hstep
      subst hstep
      exact ⟨h.aligned, h.delivers, h.sized, h.ended, fun _ ↦ by
        have := rank_le r.source.stream
        simpa using this⟩
    | answer answer => simp [step, hreading] at hstep
    | drop => simp [step, hreading] at hstep
    | reset =>
      simp only [step, hreading, Bool.false_eq_true, if_false, Option.some.injEq] at hstep
      subst hstep
      exact h.moved r.source.resetStreamToCurrentByteOffset
        (HttpOpusStream.aligned_setResumeOffset h.aligned) rfl
    | replace resolved =>
      simp only [step, hreading, Bool.false_eq_true, if_false, Option.some.injEq] at hstep
      subst hstep
      exact h.moved (r.source.replaceResolvedStreamAtCurrentByteOffset resolved)
        (HttpOpusStream.aligned_setResumeOffset h.aligned) rfl
  | true =>
    cases move with
    | answer answer =>
      simp only [step, hreading, if_true, Option.map_eq_some_iff] at hstep
      obtain ⟨pass, hpass, rfl⟩ := hstep
      refine h.polled hreading (HttpOpusStream.readPass_advances h.aligned ?_ hpass)
      rintro reply rfl
      exact hserved
    | drop =>
      simp only [step, hreading, if_true, Option.some.injEq] at hstep
      subst hstep
      exact ⟨h.aligned, h.delivers, h.sized, h.ended, fun hr ↦ by cases hr⟩
    | read => simp [step, hreading] at hstep
    | reset => simp [step, hreading] at hstep
    | replace resolved => simp [step, hreading] at hstep

/-- However the bodies are cut, broken off or dropped and wherever the stream is put back or
replaced, the chunks returned are the resource from its first byte on. -/
theorem reads_resource (resource : Resource) (source : PlaybackSource) {moves : List ReaderMove}
    {r : SourceReader} (hserved : Throughout step (Served resource) (start source) moves)
    (hrun : exec step (start source) moves = some r) :
    delivered r.results <+: resource.bytes ∧
      r.source.stream.byteOffset = (delivered r.results).length ∧
      r.source.livePosition.byteOffset = (delivered r.results).length ∧
      (∀ chunk ∈ chunks r.results, 1 ≤ chunk.length ∧ chunk.length ≤ 65536) ∧
      (∀ before after, r.results = before ++ .ok none :: after →
        delivered before = resource.bytes) ∧
      (r.reading = true → r.passes ≤ 3) := by
  have hexact : r.Exact resource :=
    exec_induction (fun r move t hr hok hstep ↦ step_exact hr hok hstep) (exact_start source)
      hserved hrun
  have hoffset : r.source.stream.byteOffset = (delivered r.results).length := by
    rw [hexact.delivers, List.length_take, min_eq_left hexact.aligned.within]
  refine ⟨?_, hoffset, hoffset, hexact.sized, hexact.ended, ?_⟩
  · rw [hexact.delivers]
    exact List.take_prefix ..
  · intro hreading
    have hranked := hexact.ranked hreading
    have hpos : 1 ≤ r.source.stream.rank := by
      unfold HttpOpusStream.rank
      split_ifs <;> omega
    omega

def webmResource : Resource := ⟨[0x1A, 0x45, 0xDF, 0xA3, 0x9F], by decide⟩

def whole : Response := ⟨200, "OK", some 5, none, webmResource.bytes⟩

def rangeOf (start last : ℕ) : Response :=
  ⟨206, "Partial Content", some (last + 1 - start), some (some (contentRangeText start last 5)),
    (webmResource.bytes.drop start).take (last + 1 - start)⟩

def atHost (host : String) : ResolvedPlaybackSource := ⟨250, host, none⟩

def unread : PlaybackSource := ⟨atHost "first", .new "first", .default, [], .default⟩

/-- The body is cut after two bytes, the next call is dropped, the stream is put back and then
replaced, and the range it asks for last stops short of the end. -/
def brokenReads : List ReaderMove :=
  [.read, .answer (.sent (.ok whole)), .answer (.body (.data 2)), .answer .slept,
    .read, .answer (.body (.data 1)), .drop, .reset, .replace (atHost "second"),
    .read, .answer (.sent (.ok (rangeOf 2 3))), .answer (.body (.data 8)), .answer .slept,
    .read, .answer (.body .finished), .answer (.sent (.ok (rangeOf 4 4))),
    .answer (.body (.data 1)), .answer .slept,
    .read, .answer (.body .finished)]

theorem reads_resource_broken :
    ∃ r, exec step (start unread) brokenReads = some r ∧
      delivered r.results = webmResource.bytes ∧ delivered r.results <+: webmResource.bytes := by
  have hends : (exec step (start unread) brokenReads).map (fun r ↦ delivered r.results) =
      some webmResource.bytes := by
    decide +kernel
  obtain ⟨r, hrun, hdelivered⟩ := Option.map_eq_some_iff.1 hends
  have hserved : Throughout step (Served webmResource) (start unread) brokenReads :=
    throughout_of_decide (by decide +kernel)
  exact ⟨r, hrun, hdelivered, (reads_resource webmResource unread hserved hrun).1⟩

end SourceReader

end DiscordVoice.Playback
