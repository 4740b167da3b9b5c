import Mathlib.Data.List.Infix
import DiscordVoice.Voice.Transport

namespace DiscordVoice.Playback

open Voice (Bytes)

def saturatingAdd (a b : ℕ) : ℕ := min (a + b) (2 ^ 64 - 1)

theorem saturatingAdd_eq {a b : ℕ} (h : a + b < 2 ^ 64) : saturatingAdd a b = a + b := by
  unfold saturatingAdd
  omega

/-- The errors the playback crate's own functions return. -/
inductive PlaybackError
  | mediaParse (text : String)
  | mediaParseDetail (text : String)
  | unsupportedFormat
  | bufferFull
  | invalidState (text : String)
  /-- `reqwest::Error`, by the status it carries if it carries one. -/
  | http (status : Option ℕ)
  | grpcStatus
  deriving DecidableEq, Repr

/-- `reqwest::Response`. The body is what the peer has still to send. -/
structure Response where
  status : ℕ
  reason : String
  contentLength : Option ℕ
  /-- The header `Content-Range`; `some none` for a value that is not text. -/
  contentRange : Option (Option (List Char))
  body : Bytes
  deriving DecidableEq, Repr

def Response.errorForStatus (r : Response) : Except PlaybackError Response :=
  if 400 ≤ r.status ∧ r.status < 600 then .error (.http (some r.status)) else .ok r

def splitOnce (c : Char) (text : List Char) : Option (List Char × List Char) :=
  match text.dropWhile (· ≠ c) with
  | [] => none
  | _ :: rest => some (text.takeWhile (· ≠ c), rest)

/-- `str::parse::<u64>`. -/
def parseU64 (text : List Char) : Option ℕ :=
  let digits := if text.head? = some '+' then text.tail else text
  if digits = [] ∨ ¬digits.all Char.isDigit then none
  else
    let value := Nat.ofDigitChars 10 digits 0
    if value < 2 ^ 64 then some value else none

structure ParsedContentRange where
  start : ℕ
  end_ : ℕ
  completeLength : Option ℕ
  deriving DecidableEq, Repr

def bytesUnit : List Char := ['b', 'y', 't', 'e', 's', ' ']

def parseContentRange (value : List Char) : Option ParsedContentRange := do
  let value ← if bytesUnit <+: value then some (value.drop bytesUnit.length) else none
  let (range, completeLength) ← splitOnce '/' value
  let (start, end_) ← splitOnce '-' range
  let start ← parseU64 start
  let end_ ← parseU64 end_
  let completeLength ← if completeLength = ['*'] then some none else (parseU64 completeLength).map some
  return ⟨start, end_, completeLength⟩

def validateResumeResponse (response : Response) (expectedStart : ℕ) : Except PlaybackError Unit :=
  if expectedStart = 0 then .ok ()
  else if response.status ≠ 206 then
    .error (.mediaParseDetail ("range request was not honored: expected 206 for resume at byte " ++
      toString expectedStart ++ ", got " ++ toString response.status ++ " " ++ response.reason))
  else
    match response.contentRange with
    | none =>
      .error (.mediaParseDetail ("range request was not honored: missing Content-Range for resume at byte "
        ++ toString expectedStart))
    | some none =>
      .error (.mediaParseDetail "range request was not honored: invalid Content-Range header")
    | some (some contentRange) =>
      if bytesUnit ++ Nat.toDigits 10 expectedStart ++ ['-'] <+: contentRange then .ok ()
      else
        .error (.mediaParseDetail
          ("range request was not honored: expected Content-Range to start at byte " ++
            toString expectedStart ++ ", got " ++ String.ofList contentRange))

structure ResponseExtent where
  responseEnd : Option ℕ
  resourceEnd : Option ℕ
  deriving DecidableEq, Repr

def responseExtent (response : Response) (responseStart : ℕ) :
    Except PlaybackError ResponseExtent :=
  match response.contentRange with
  | none => .ok ⟨response.contentLength.map (saturatingAdd responseStart), none⟩
  | some none => .error (.mediaParseDetail "range response had invalid Content-Range header")
  | some (some contentRange) =>
    match parseContentRange contentRange with
    | none =>
      .error (.mediaParseDetail
        ("range response had unsupported Content-Range header: " ++ String.ofList contentRange))
    | some parsed =>
      if parsed.start ≠ responseStart then
        .error (.mediaParseDetail ("range response started at byte " ++ toString parsed.start ++
          ", expected " ++ toString responseStart))
      else .ok ⟨some (saturatingAdd parsed.end_ 1), parsed.completeLength⟩

/-- What `response.chunk()` comes to: the next bytes of the body, its end, or a read error. The end
may come before the length that was announced. -/
inductive BodyPiece
  | data (count : ℕ)
  | finished
  | failed (error : PlaybackError)
  deriving DecidableEq, Repr

/-- What a future awaited by `readChunk` is ready with. -/
inductive NetAnswer
  | slept
  | sent (reply : Except PlaybackError Response)
  | body (piece : BodyPiece)
  deriving Repr

structure HttpOpusStream where
  url : String
  response : Option Response
  responseStart : ℕ
  responseEnd : Option ℕ
  resourceEnd : Option ℕ
  pending : Bytes
  /-- The byte offset of the stream's `PlaybackPosition`. -/
  byteOffset : ℕ
  deriving DecidableEq, Repr

/-- One pass of the loop of `readChunk`. -/
inductive ReadPass
  | again (stream : HttpOpusStream)
  | returned (result : Except PlaybackError (Option Bytes)) (stream : HttpOpusStream)

namespace HttpOpusStream

def maxReadChunkBytes : ℕ := 64 * 1024

def new (url : String) : HttpOpusStream := ⟨url, none, 0, none, none, [], 0⟩

def setResumeOffset (s : HttpOpusStream) (byteOffset : ℕ) : HttpOpusStream :=
  { s with
    byteOffset, response := none, responseStart := byteOffset, responseEnd := none,
    resourceEnd := none, pending := [] }

def shouldReopenAfterResponseEof (s : HttpOpusStream) : Except PlaybackError Bool :=
  let endedBeforeResponseEnd := s.responseEnd.any (s.byteOffset < ·)
  let endedBeforeResourceEnd := s.resourceEnd.any (s.byteOffset < ·)
  if !endedBeforeResponseEnd && !endedBeforeResourceEnd then .ok false
  else if s.byteOffset ≤ s.responseStart then
    .error (.mediaParseDetail "playback source response ended before advancing")
  else .ok true

def openResponse (s : HttpOpusStream) (reply : Except PlaybackError Response) :
    Except PlaybackError (Option Response) :=
  match reply with
  | .error e => .error e
  | .ok response =>
    if 0 < s.byteOffset ∧ response.status = 416 then .ok none
    else
      match response.errorForStatus with
      | .error e => .error e
      | .ok response =>
        match validateResumeResponse response s.byteOffset with
        | .error e => .error e
        | .ok () => .ok (some response)

def opened (s : HttpOpusStream) (reply : Except PlaybackError Response) : ReadPass :=
  match s.openResponse reply with
  | .error e => .returned (.error e) s
  | .ok none => .returned (.ok none) s
  | .ok (some response) =>
    match responseExtent response s.byteOffset with
    | .error e => .returned (.error e) s
    | .ok extent =>
      .again
        { s with
          responseStart := s.byteOffset, responseEnd := extent.responseEnd,
          resourceEnd := extent.resourceEnd, response := some response }

def received (s : HttpOpusStream) (response : Response) : BodyPiece → ReadPass
  | .data count =>
    .again
      { s with
        response := some { response with body := response.body.drop count },
        pending := s.pending ++ response.body.take count }
  | .finished =>
    match { s with response := none }.shouldReopenAfterResponseEof with
    | .error e => .returned (.error e) { s with response := none }
    | .ok true => .again { s with response := none, responseEnd := none }
    | .ok false =>
      .returned (.ok none) { s with response := none, responseEnd := none, resourceEnd := none }
  | .failed e =>
    if s.pending ≠ [] ∨ s.responseStart < s.byteOffset then
      .again { s with response := none, responseEnd := none }
    else .returned (.error e) { s with response := none, responseEnd := none }

def takePendingChunk (s : HttpOpusStream) : Option Bytes × HttpOpusStream :=
  if s.pending = [] then (none, s)
  else
    let bytes := s.pending.take maxReadChunkBytes
    (some bytes,
      { s with
        pending := s.pending.drop maxReadChunkBytes,
        byteOffset := saturatingAdd s.byteOffset bytes.length })

/-- One pass of the loop of `readChunk`, with the answer to the future it awaits; `none` for an
answer to another future. A call that is dropped leaves the stream as its last pass left it. -/
def readPass (s : HttpOpusStream) (answer : NetAnswer) : Option ReadPass :=
  if s.pending ≠ [] then
    match answer with
    | .slept => some (.returned (.ok s.takePendingChunk.1) s.takePendingChunk.2)
    | _ => none
  else
    match s.response, answer with
    | none, .sent reply => some (s.opened reply)
    | some response, .body piece => some (s.received response piece)
    | _, _ => none

end HttpOpusStream

end DiscordVoice.Playback
