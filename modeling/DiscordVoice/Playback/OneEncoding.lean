import DiscordVoice.Playback.Worker

namespace DiscordVoice.Playback

open Voice (Bytes)
open Schedule

/-- Whatever a re-resolution comes back with is of the kind named. -/
def FillMove.Resolves (kind : ResolvedPlaybackSource → Prop) : FillMove → Prop
  | .resolve song playableUrl =>
    ∀ resolved, resolvePlaybackSource song (fun _ ↦ playableUrl) = .ok resolved → kind resolved
  | _ => True

/-- The song service serves at an address the encoding of the format it was deciphered for. -/
def FillMove.Truthful (itagAt : String → ℕ) : FillMove → Prop :=
  Resolves fun resolved ↦ itagAt resolved.playableUrl = resolved.selectedItag

/-- A re-resolution comes back with the encoding named. -/
def FillMove.Keeps (itag : ℕ) : FillMove → Prop :=
  Resolves fun resolved ↦ resolved.selectedItag = itag

def ReadPass.stream : ReadPass → HttpOpusStream
  | .again stream => stream
  | .returned _ stream => stream

namespace HttpOpusStream

theorem opened_url (s : HttpOpusStream) (reply : Except PlaybackError Response) :
    (s.opened reply).stream.url = s.url := by
  unfold opened
  rcases s.openResponse reply with e | _ | response
  · rfl
  · rfl
  · rcases hextent : responseExtent response s.byteOffset with e | extent <;>
      simp [hextent, ReadPass.stream]

theorem received_url (s : HttpOpusStream) (response : Response) (piece : BodyPiece) :
    (s.received response piece).stream.url = s.url := by
  cases piece with
  | data count => rfl
  | finished =>
    simp only [received]
    rcases shouldReopenAfterResponseEof { s with response := none } with e | _ | _ <;> rfl
  | failed e =>
    simp only [received]
    split_ifs <;> rfl

theorem readPass_url {s : HttpOpusStream} {answer : NetAnswer} {pass : ReadPass}
    (h : s.readPass answer = some pass) : pass.stream.url = s.url := by
  unfold readPass at h
  by_cases hpending : s.pending ≠ []
  · rw [if_pos hpending] at h
    cases answer <;> simp only [reduceCtorEq, Option.some.injEq] at h
    rw [← h]
    simp [takePendingChunk, hpending, ReadPass.stream]
  · rw [if_neg hpending] at h
    cases hresponse : s.response with
    | none =>
      cases answer <;> simp only [hresponse, reduceCtorEq, Option.some.injEq] at h
      rw [← h]
      exact opened_url s _
    | some response =>
      cases answer <;> simp only [hresponse, reduceCtorEq, Option.some.injEq] at h
      rw [← h]
      exact received_url s response _

end HttpOpusStream

namespace Filling

variable {codec : OpusCodec} {lib : WebmIterable}

/-- Where the source is read, and what its demuxer was given. -/
def trail (f : Filling codec) : String × List (String × Bytes) :=
  (f.source.stream.url, f.log.demuxed)

theorem bufferPacket_trail (f : Filling codec) (packet : DemuxedPacket) :
    (f.bufferPacket packet).2.trail = f.trail := by
  unfold bufferPacket
  rcases f.worker.normalizer.pushPacket packet with ⟨_ | frames, normalizer⟩ <;> rfl

theorem bufferPackets_trail (f : Filling codec) (packets : List DemuxedPacket) :
    (f.bufferPackets packets).trail = f.trail := by
  induction packets generalizing f with
  | nil => rfl
  | cons packet packets ih =>
    unfold bufferPackets
    split_ifs
    · rfl
    · have hpacket := bufferPacket_trail f packet
      rcases hbuffered : f.bufferPacket packet with ⟨e | _, g⟩
      · rw [hbuffered] at hpacket
        exact hpacket
      · rw [hbuffered] at hpacket
        exact (ih g).trans hpacket

theorem pass_trail (f : Filling codec) : f.pass.trail = f.trail := by
  unfold pass
  split_ifs
  · rfl
  · rcases drainPendingFrames f.queue f.worker.pendingFrames with ⟨queue, parked, _ | _⟩
    · rfl
    · simp only
      split_ifs
      · rfl
      · rcases hpackets : (f.withFrames queue parked).source.pendingPackets with _ | ⟨packet, rest⟩
        · rfl
        · simp only
          have hpacket := bufferPacket_trail
            { f.withFrames queue parked with
              source := { (f.withFrames queue parked).source with pendingPackets := rest } } packet
          rcases hbuffered : bufferPacket _ packet with ⟨e | _, g⟩ <;> rw [hbuffered] at hpacket <;>
            exact hpacket

theorem failedRead_trail (f : Filling codec) (e : PlaybackError) (attempt : ReadAttempt) :
    (f.failedRead e attempt).trail = f.trail := by
  have hreresolve : (f.reresolve e).trail = f.trail := by
    unfold reresolve
    cases f.videoId <;> rfl
  cases attempt with
  | first =>
    simp only [failedRead]
    split_ifs
    · rfl
    · exact hreresolve
    · rfl
  | afterReset =>
    simp only [failedRead]
    split_ifs
    · exact hreresolve
    · rfl
  | afterResolve => rfl

theorem readEnd_trail (f : Filling codec) : f.readEnd.trail = f.trail := by
  unfold readEnd
  simp only
  rcases f.worker.normalizer.flush with ⟨_ | frames, normalizer⟩ <;> rfl

theorem readChunk_trail (f : Filling codec) (chunk : Bytes) :
    (f.readChunk lib chunk).trail =
      (f.source.stream.url, f.log.demuxed ++ [(f.source.stream.url, chunk)]) := by
  unfold readChunk
  simp only
  rcases (f.source.demux.pushBytes chunk).drainPackets lib with e | ⟨packets, demux⟩ <;> rfl

theorem step_trail {f g : Filling codec} {move : FillMove} (h : f.step lib move = some g) :
    g.trail = f.trail ∨
      (∃ chunk, g.trail = (f.source.stream.url, f.log.demuxed ++ [(f.source.stream.url, chunk)])) ∨
      ∃ song playableUrl resolved, move = .resolve song playableUrl ∧
        resolvePlaybackSource song (fun _ ↦ playableUrl) = .ok resolved ∧
        g.trail = (resolved.playableUrl, f.log.demuxed) := by
  unfold step at h
  split at h
  · cases h
    exact .inl rfl
  · cases h
    exact .inl (pass_trail f)
  · rename_i attempt answer hpc
    obtain ⟨pass, hpass, rfl⟩ := Option.map_eq_some_iff.1 h
    have hurl := HttpOpusStream.readPass_url hpass
    rcases pass with stream | ⟨result, stream⟩
    · exact .inl (Prod.ext hurl rfl)
    · have hmoved : (f.withStream stream).trail = f.trail := Prod.ext hurl rfl
      rcases result with e | _ | chunk
      · exact .inl ((failedRead_trail _ e attempt).trans hmoved)
      · exact .inl ((readEnd_trail _).trans hmoved)
      · refine .inr (.inl ⟨chunk, (readChunk_trail _ chunk).trans ?_⟩)
        rw [show (f.withStream stream).source.stream.url = f.source.stream.url from hurl]
        rfl
  · cases h
    exact .inl (failedRead_trail ..)
  · rename_i videoId song playableUrl hpc
    rcases hresolved : resolvePlaybackSource song fun _ ↦ playableUrl with e | resolved
    · rw [hresolved] at h
      cases h
      exact .inl rfl
    · rw [hresolved] at h
      cases h
      exact .inr (.inr ⟨song, playableUrl, resolved, rfl, hresolved, rfl⟩)
  · cases h
    exact .inl (bufferPackets_trail ..)
  · cases h

def opened (worker : PlaybackWorker codec) (source : PlaybackSource) (opening : List Bytes) :
    Filling codec :=
  { worker, source, queue := .withResourceLimits 0 0 0, targetSamples := 0, videoId := none
    pc := .returned (.ok ())
    log := ⟨opening.map fun chunk ↦ (source.stream.url, chunk), [], none⟩ }

/-- Everything the demuxer was given, and the address the source is read at, are of one encoding. -/
structure OneEncoding (itagAt : String → ℕ) (itag : ℕ) (f : Filling codec) : Prop where
  address : itagAt f.trail.1 = itag
  demuxed : ∀ entry ∈ f.trail.2, itagAt entry.1 = itag

theorem step_oneEncoding {itagAt : String → ℕ} {itag : ℕ} {f g : Filling codec} {move : FillMove}
    (hf : f.OneEncoding itagAt itag) (htruthful : move.Truthful itagAt) (hkeeps : move.Keeps itag)
    (h : f.step lib move = some g) : g.OneEncoding itagAt itag := by
  rcases step_trail h with hsame | ⟨chunk, hchunk⟩ | ⟨song, url, resolved, rfl, hresolved, hmoved⟩
  · exact ⟨hsame ▸ hf.address, hsame ▸ hf.demuxed⟩
  · refine ⟨hchunk ▸ hf.address, ?_⟩
    rw [hchunk]
    intro entry hentry
    rcases List.mem_append.1 hentry with hold | hnew
    · exact hf.demuxed entry hold
    · rw [List.mem_singleton.1 hnew]
      exact hf.address
  · refine ⟨?_, ?_⟩
    · rw [hmoved, htruthful resolved hresolved]
      exact hkeeps resolved hresolved
    · rw [hmoved]
      exact hf.demuxed

/-- As long as every re-resolution comes back with the encoding the source was opened with, the
demuxer is given chunks of that encoding only. -/
theorem demuxes_one_encoding (lib : WebmIterable) (itagAt : String → ℕ)
    {worker : PlaybackWorker codec} {source : PlaybackSource} {opening : List Bytes}
    {moves : List FillMove} {f : Filling codec}
    (hurl : source.stream.url = source.resolved.playableUrl)
    (hopened : itagAt source.resolved.playableUrl = source.selectedItag)
    (htruthful : ∀ move ∈ moves, move.Truthful itagAt)
    (hkeeps : ∀ move ∈ moves, move.Keeps source.selectedItag)
    (hrun : exec (step lib) (opened worker source opening) moves = some f) :
    ∀ entry ∈ f.log.demuxed, itagAt entry.1 = source.selectedItag := by
  have haddress : itagAt source.stream.url = source.selectedItag := hurl ▸ hopened
  have hstart : (opened worker source opening).OneEncoding itagAt source.selectedItag := by
    refine ⟨haddress, fun entry hentry ↦ ?_⟩
    obtain ⟨chunk, -, rfl⟩ := List.mem_map.1 hentry
    exact haddress
  have hmoves : ∀ move ∈ moves, move.Truthful itagAt ∧ move.Keeps source.selectedItag :=
    fun move hmove ↦ ⟨htruthful move hmove, hkeeps move hmove⟩
  exact (exec_induction (fun f move g hf hok hstep ↦ step_oneEncoding hf hok.1 hok.2 hstep) hstart
    (throughout_of_forall hmoves _) hrun).demuxed

def openedAt250 : PlaybackSource :=
  ⟨⟨250, "first/250", none⟩, (HttpOpusStream.new "first/250").setResumeOffset 4, .default, [],
    .default⟩

def webmOpus (itag bitrate : ℕ) : SongStreamFormat :=
  ⟨itag, "audio/webm; codecs=\"opus\"", bitrate, some 48000, some 2, "cipher", none⟩

def forbidden : Response := ⟨403, "Forbidden", none, none, []⟩

def lastFourBytes : Response :=
  ⟨206, "Partial Content", some 4, some (some "bytes 4-7/8".toList), [0x42, 0x86, 0x81, 0x01]⟩

/-- The address goes stale after four bytes; the song service is asked again. -/
def staleAddress (formats : List SongStreamFormat) (playableUrl : String) : List FillMove :=
  [.begin (.withResourceLimits 1024 4194304 1000) 1000, .pass, .answer (.sent (.ok forbidden)),
    .resolve (.ok ⟨some formats, none⟩) (.ok playableUrl), .answer (.sent (.ok lastFourBytes)),
    .answer (.body (.data 4)), .answer .slept]

def itagOf (address : String) : ℕ := if address = "second/249" then 249 else 250

theorem staleAddress_resolves {formats : List SongStreamFormat} {playableUrl : String}
    {kind : ResolvedPlaybackSource → Prop} {resolved : ResolvedPlaybackSource}
    (h : resolvePlaybackSource (.ok ⟨some formats, none⟩) (fun _ ↦ .ok playableUrl) = .ok resolved)
    (hkind : kind resolved) :
    ∀ move ∈ staleAddress formats playableUrl, move.Resolves kind := by
  intro move hmove
  simp only [staleAddress, List.mem_cons, List.not_mem_nil, or_false] at hmove
  rcases hmove with rfl | rfl | rfl | rfl | rfl | rfl | rfl <;> try trivial
  intro other hother
  cases h.symm.trans hother
  exact hkind

/-- The song service no longer lists the format the source was opened with: the demuxer is given the
first bytes of one encoding and the last ones of another. -/
theorem demuxes_two_encodings :
    itagOf openedAt250.resolved.playableUrl = openedAt250.selectedItag ∧
      (∀ move ∈ staleAddress [webmOpus 249 50000] "second/249", move.Truthful itagOf) ∧
      ∃ f, exec (step insideFirstTag) (opened playingWorker openedAt250 [[0x1A, 0x45, 0xDF, 0xA3]])
          (staleAddress [webmOpus 249 50000] "second/249") = some f ∧
        ¬∀ entry ∈ f.log.demuxed, itagOf entry.1 = openedAt250.selectedItag := by
  refine ⟨by decide, ?_, ?_⟩
  · have hresolved : resolvePlaybackSource (.ok ⟨some [webmOpus 249 50000], none⟩)
        (fun _ ↦ .ok "second/249") = .ok ⟨249, "second/249", none⟩ := by
      decide +kernel
    exact staleAddress_resolves hresolved (by decide)
  · have hends : (exec (step insideFirstTag)
        (opened playingWorker openedAt250 [[0x1A, 0x45, 0xDF, 0xA3]])
        (staleAddress [webmOpus 249 50000] "second/249")).map (fun f ↦ f.log.demuxed) =
        some [("first/250", [0x1A, 0x45, 0xDF, 0xA3]), ("second/249", [0x42, 0x86, 0x81, 0x01])] := by
      decide +kernel
    obtain ⟨f, hrun, hdemuxed⟩ := Option.map_eq_some_iff.1 hends
    refine ⟨f, hrun, fun hall ↦ ?_⟩
    have hlast := hall ("second/249", [0x42, 0x86, 0x81, 0x01]) (by simp [hdemuxed])
    revert hlast
    decide

theorem demuxes_one_encoding_after_stale_address :
    ∃ f, exec (step insideFirstTag) (opened playingWorker openedAt250 [[0x1A, 0x45, 0xDF, 0xA3]])
        (staleAddress [webmOpus 249 50000, webmOpus 250 70000] "second/250") = some f ∧
      f.log.demuxed.map Prod.fst = ["first/250", "second/250"] ∧
      ∀ entry ∈ f.log.demuxed, itagOf entry.1 = openedAt250.selectedItag := by
  have hresolved : resolvePlaybackSource
      (.ok ⟨some [webmOpus 249 50000, webmOpus 250 70000], none⟩) (fun _ ↦ .ok "second/250") =
      .ok ⟨250, "second/250", none⟩ := by
    decide +kernel
  have hends : (exec (step insideFirstTag)
      (opened playingWorker openedAt250 [[0x1A, 0x45, 0xDF, 0xA3]])
      (staleAddress [webmOpus 249 50000, webmOpus 250 70000] "second/250")).map
        (fun f ↦ f.log.demuxed.map Prod.fst) = some ["first/250", "second/250"] := by
    decide +kernel
  obtain ⟨f, hrun, hdemuxed⟩ := Option.map_eq_some_iff.1 hends
  refine ⟨f, hrun, hdemuxed, demuxes_one_encoding insideFirstTag itagOf rfl (by decide)
    (staleAddress_resolves hresolved (by decide)) (staleAddress_resolves hresolved rfl) hrun⟩

end Filling

end DiscordVoice.Playback
