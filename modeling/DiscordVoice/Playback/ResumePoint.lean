import DiscordVoice.Chains
import DiscordVoice.Playback.NormalizedFrames
import DiscordVoice.Playback.OpenFromPosition

namespace DiscordVoice.Playback

open Chains

def packetStop (packet : DemuxedPacket) : ℕ := packet.timestampSamples + packet.durationSamples.toNat

/-- Packets that follow one another without a gap. -/
def Contiguous (start : ℕ) (packets : List DemuxedPacket) (stop : ℕ) : Prop :=
  Spans DemuxedPacket.timestampSamples packetStop start packets stop

namespace Contiguous

variable {start stop : ℕ} {packets : List DemuxedPacket}

theorem stop_eq (h : Contiguous start packets stop) : stop = start + totalSamples packets := by
  induction packets generalizing start with
  | nil => exact h.symm
  | cons packet packets ih =>
    obtain ⟨rfl, hrest⟩ := h
    rw [ih hrest, packetStop, totalSamples_cons, Nat.add_assoc]

theorem start_le (h : Contiguous start packets stop) {p : DemuxedPacket} (hp : p ∈ packets) :
    start ≤ p.timestampSamples := by
  induction packets generalizing start with
  | nil => cases hp
  | cons packet packets ih =>
    obtain ⟨rfl, hrest⟩ := h
    rcases List.mem_cons.mp hp with rfl | hp
    · exact le_rfl
    · exact (Nat.le_add_right _ _).trans (ih hrest hp)

theorem packetStop_le (h : Contiguous start packets stop) {p : DemuxedPacket} (hp : p ∈ packets) :
    packetStop p ≤ stop := by
  induction packets generalizing start with
  | nil => cases hp
  | cons packet packets ih =>
    obtain ⟨rfl, hrest⟩ := h
    rcases List.mem_cons.mp hp with rfl | hp
    · rw [stop_eq hrest]
      exact Nat.le_add_right _ _
    · exact ih hrest hp

theorem pairwise (h : Contiguous start packets stop) :
    packets.Pairwise fun p q ↦ packetStop p ≤ q.timestampSamples := by
  induction packets generalizing start with
  | nil => exact .nil
  | cons packet packets ih =>
    obtain ⟨rfl, hrest⟩ := h
    exact .cons (fun p hp ↦ start_le hrest hp) (ih hrest)

theorem stop_le {samples : ℕ} (h : Contiguous start packets stop)
    (hpackets : ∀ p ∈ packets, packetStop p ≤ samples) : stop = start ∨ stop ≤ samples := by
  induction packets generalizing start with
  | nil => exact .inl h.symm
  | cons packet packets ih =>
    obtain ⟨rfl, hrest⟩ := h
    have hpacket := hpackets packet List.mem_cons_self
    rcases ih hrest fun p hp ↦ hpackets p (List.mem_cons_of_mem packet hp) with hstop | hstop
    · exact .inr (hstop ▸ hpacket)
    · exact .inr hstop

theorem overlaps_mono (h : Contiguous start packets stop) (position : PlaybackResumePosition) :
    packets.Pairwise fun p q ↦
      packetOverlapsResume position p = true → packetOverlapsResume position q = true := by
  apply h.pairwise.imp
  intro p q hpq hp
  rw [packetOverlapsResume, decide_eq_true_eq] at hp ⊢
  simp only [packetStop] at hpq
  simp only [packetEndSamples, saturatingAdd] at hp ⊢
  omega

end Contiguous

/-- A track as it is demuxed: its packets are contiguous from any timestamp on, none of them is
empty, and the end of the frame that takes up the last of them is a position in samples. -/
structure SourceTrack where
  start : ℕ
  packets : List DemuxedPacket
  stop : ℕ
  nonempty : packets ≠ []
  contiguous : Contiguous start packets stop
  positive : ∀ p ∈ packets, 0 < p.durationSamples.toNat
  fits : stop + 960 ≤ 2 ^ 64

namespace SourceTrack

variable {track : SourceTrack} {codec : OpusCodec} {ready : ℕ → codec.Decoder → Prop}

theorem packetEndSamples_eq {p : DemuxedPacket} (hp : p ∈ track.packets) :
    packetEndSamples p = packetStop p := by
  apply saturatingAdd_eq
  have hstop := track.contiguous.packetStop_le hp
  have hfits := track.fits
  rw [packetStop] at hstop
  omega

/-- The packets behind a resume position: none, or those from the first that ends after it. -/
theorem filter_overlaps (track : SourceTrack) (samples : ℕ) :
    ∃ before, track.packets = before ++ track.packets.filter (packetOverlapsResume ⟨samples⟩) ∧
      (∀ p ∈ before, packetStop p ≤ samples) ∧
      ∀ p ∈ track.packets.filter (packetOverlapsResume ⟨samples⟩), samples < packetStop p := by
  obtain ⟨before, hsplit, hbefore⟩ :=
    exists_append_filter (track.contiguous.overlaps_mono ⟨samples⟩)
  refine ⟨before, hsplit, ?_, ?_⟩
  · intro p hp
    have hmem : p ∈ track.packets := by
      rw [hsplit]
      exact List.mem_append_left _ hp
    have hover := hbefore p hp
    simp only [packetOverlapsResume, packetEndSamples_eq hmem, decide_eq_false_iff_not,
      not_lt] at hover
    exact hover
  · intro p hp
    obtain ⟨hmem, hover⟩ := List.mem_filter.mp hp
    simpa only [packetOverlapsResume, packetEndSamples_eq hmem, decide_eq_true_eq] using hover

/-- The first packet left starts at the resume position, measured from the start of the track, only
if the track starts at zero and one of its packets at that position. -/
theorem first_left_iff (track : SourceTrack) {samples : ℕ} {packet : DemuxedPacket}
    {rest : List DemuxedPacket}
    (hleft : track.packets.filter (packetOverlapsResume ⟨samples⟩) = packet :: rest) :
    packet.timestampSamples = track.start + samples ↔
      samples = 0 ∨ track.start = 0 ∧ ∃ p ∈ track.packets, p.timestampSamples = samples := by
  obtain ⟨before, hsplit, hbefore, hover⟩ := track.filter_overlaps samples
  rw [hleft] at hsplit hover
  have hspans := track.contiguous
  rw [hsplit] at hspans
  obtain ⟨middle, hfirst, hmiddle, hrest⟩ := spans_append.mp hspans
  have hstarts : packet.timestampSamples = track.start ∨ packet.timestampSamples ≤ samples :=
    hmiddle ▸ Contiguous.stop_le hfirst hbefore
  have hmem : packet ∈ track.packets := by
    rw [hsplit]
    exact List.mem_append_right _ List.mem_cons_self
  constructor
  · intro hposition
    rcases hstarts with hstart | hstart
    · exact .inl (by omega)
    · exact .inr ⟨by omega, packet, hmem, by omega⟩
  · have hle := track.contiguous.start_le hmem
    rintro (rfl | ⟨hzero, p, hp, hposition⟩)
    · omega
    · have hpositive := track.positive p hp
      rw [hsplit, List.mem_append, List.mem_cons] at hp
      rcases hp with hp | rfl | hp
      · have hstop := hbefore p hp
        rw [packetStop] at hstop
        omega
      · rw [hposition, hzero, Nat.zero_add]
      · have hstop := hover packet List.mem_cons_self
        have hlater := Contiguous.start_le hrest hp
        omega

theorem exists_left (track : SourceTrack) {samples : ℕ}
    (h : samples = 0 ∨ ∃ p ∈ track.packets, p.timestampSamples = samples) :
    ∃ packet rest, track.packets.filter (packetOverlapsResume ⟨samples⟩) = packet :: rest := by
  obtain ⟨p, hp, hstop⟩ : ∃ p ∈ track.packets, samples < packetStop p := by
    rcases h with rfl | ⟨p, hp, rfl⟩
    · obtain ⟨p, hp⟩ := List.exists_mem_of_ne_nil _ track.nonempty
      exact ⟨p, hp, Nat.add_pos_right _ (track.positive p hp)⟩
    · exact ⟨p, hp, Nat.lt_add_of_pos_right (track.positive p hp)⟩
  apply List.exists_cons_of_ne_nil
  apply List.ne_nil_of_mem (a := p)
  rw [List.mem_filter, packetOverlapsResume, decide_eq_true_eq, packetEndSamples_eq hp]
  exact ⟨hp, hstop⟩

theorem frames_suffix (hcodec : Playable codec ready track.packets) {before rest : List DemuxedPacket}
    {packet : DemuxedPacket} (hsplit : track.packets = before ++ packet :: rest) :
    ∃ out, (DiscordOpusFrameNormalizer.new : DiscordOpusFrameNormalizer codec).frames
        (packet :: rest) = .ok out ∧
      FramesFrom packet.timestampSamples ((totalSamples (packet :: rest) + 959) / 960) out ∧
      packet.timestampSamples = track.start + totalSamples before ∧
      track.stop = packet.timestampSamples + totalSamples (packet :: rest) := by
  have hspans := track.contiguous
  rw [hsplit] at hspans
  obtain ⟨middle, hbefore, hrest⟩ := spans_append.mp hspans
  have hmiddle : packet.timestampSamples = middle := hrest.1
  have hstop : track.stop = packet.timestampSamples + totalSamples (packet :: rest) :=
    hmiddle ▸ Contiguous.stop_eq hrest
  have hmem : ∀ p ∈ packet :: rest, p ∈ track.packets := by
    intro p hp
    rw [hsplit]
    exact List.mem_append_right _ hp
  obtain ⟨out, hout, hframes⟩ := DiscordOpusFrameNormalizer.frames_new hcodec hmem
    (fun p hp ↦ track.positive p (hmem p hp)) (hstop ▸ track.fits)
  exact ⟨out, hout, hframes, hmiddle.trans (Contiguous.stop_eq hbefore), hstop⟩

end SourceTrack

section Opened

variable {lib : WebmIterable} {track : SourceTrack} {resumePosition : PlaybackResumePosition}

theorem SourceTrack.chunks_ne_nil (track : SourceTrack) {chunks : List Voice.Bytes}
    {demux : WebmOpusDemux}
    (hdemux : WebmOpusDemux.default.demuxChunks lib chunks = .ok (track.packets, demux)) :
    chunks ≠ [] := by
  rintro rfl
  simp only [WebmOpusDemux.demuxChunks, Except.ok.injEq, Prod.mk.injEq] at hdemux
  exact track.nonempty hdemux.1.symm

theorem openFromPosition_resumed {reads : List StreamRead} {opened : Opening × List StreamRead}
    (h : Streams lib track.packets reads)
    (hopened : openFromPosition lib resumePosition reads = .ok opened) :
    Resumed lib track.packets resumePosition opened := by
  obtain ⟨chunks, demux, rfl, hdemux⟩ := h
  obtain ⟨left, now, later, last, hleft, -, hlast, hkept, hsent, -⟩ := openFromPosition_kept
    (track.chunks_ne_nil hdemux) hdemux (track.contiguous.overlaps_mono resumePosition) hopened
  exact ⟨left, later, last, hleft, hlast, hkept, hsent⟩

theorem openFromPosition_isOk {reads : List StreamRead} (h : Streams lib track.packets reads)
    {p : DemuxedPacket} (hp : p ∈ track.packets)
    (hover : packetOverlapsResume resumePosition p = true) :
    ∃ opened, openFromPosition lib resumePosition reads = .ok opened := by
  obtain ⟨chunks, demux, rfl, hdemux⟩ := h
  rw [packetOverlapsResume, decide_eq_true_eq] at hover
  cases hopen : openFromPosition lib resumePosition (chunks.map .ok) with
  | ok opened => exact ⟨opened, rfl⟩
  | error e =>
    have hshort := (openFromPosition_error_iff (track.chunks_ne_nil hdemux) hdemux).mp ⟨e, hopen⟩
    exact absurd hover (not_lt.mpr (hshort.2 p hp).le)

variable {reopened : Option (List StreamRead)} {first second : List StreamRead}

theorem resolveAndOpen_cases (first second : List StreamRead) :
    resolveAndOpen lib resumePosition (.ok first) (.ok second) =
        openFromPosition lib resumePosition first ∨
      resolveAndOpen lib resumePosition (.ok first) (.ok second) =
        openFromPosition lib resumePosition second := by
  simp only [resolveAndOpen, bind, Except.bind]
  rcases openFromPosition lib resumePosition first with e | opened
  · simp only
    split_ifs
    · exact .inr rfl
    · exact .inl rfl
  · exact .inl rfl

theorem recover_cases (reopened : Option (List StreamRead)) (first second : List StreamRead) :
    ∃ reads, (reopened = some reads ∨ reads = first ∨ reads = second) ∧
      recover lib resumePosition reopened (.ok first) (.ok second) =
        openFromPosition lib resumePosition reads := by
  have hresolved : ∃ reads, (reads = first ∨ reads = second) ∧
      resolveAndOpen lib resumePosition (.ok first) (.ok second) =
        openFromPosition lib resumePosition reads := by
    have hcases : resolveAndOpen lib resumePosition (.ok first) (.ok second) =
          openFromPosition lib resumePosition first ∨
        resolveAndOpen lib resumePosition (.ok first) (.ok second) =
          openFromPosition lib resumePosition second := resolveAndOpen_cases first second
    cases hcases with
    | inl hfirst => exact ⟨first, .inl rfl, hfirst⟩
    | inr hsecond => exact ⟨second, .inr rfl, hsecond⟩
  obtain ⟨reads, hreads, hresolved⟩ := hresolved
  cases reopened with
  | none => exact ⟨reads, .inr hreads, hresolved⟩
  | some known =>
    rcases hknown : openFromPosition lib resumePosition known with e | opened
    · refine ⟨reads, .inr hreads, ?_⟩
      simp only [recover, Option.map_some, hknown, hresolved]
    · refine ⟨known, .inl rfl, ?_⟩
      simp only [recover, Option.map_some, hknown]

end Opened

def PlaybackPosition.afterSending (p : PlaybackPosition) (frames : List OpusFrame) :
    PlaybackPosition :=
  frames.foldl (fun p frame ↦ p.recordSentPacketSamples frame.samples) p

/-- Where the last of the frames ends, or where the track starts. -/
def endAfter (start : ℕ) (frames : List OpusFrame) : ℕ :=
  (frames.getLast?.map fun frame ↦ frame.sourcePositionSamples + frame.samples).getD start

namespace FramesFrom

variable {position count : ℕ} {frames : List OpusFrame}

theorem endAfter_eq (h : FramesFrom position count frames) (hcount : 0 < count) (start : ℕ) :
    endAfter start frames = position + 960 * count := by
  obtain ⟨count, rfl⟩ := Nat.exists_eq_add_of_lt hcount
  rw [Nat.zero_add] at h ⊢
  have hpositions := congrArg List.getLast? h.positions
  rw [List.getLast?_map, List.range'_concat, List.getLast?_concat] at hpositions
  obtain ⟨frame, hlast, hposition⟩ := Option.map_eq_some_iff.mp hpositions
  have hsamples := h.samples frame (List.mem_of_getLast? hlast)
  rw [endAfter, hlast, Option.map_some, Option.getD_some, hposition, hsamples, Nat.mul_succ,
    Nat.add_assoc]

theorem head_eq (h : FramesFrom position count frames) (hcount : 0 < count) :
    frames.head?.map (·.sourcePositionSamples) = some position := by
  obtain ⟨count, rfl⟩ := Nat.exists_eq_add_of_lt hcount
  rw [← List.head?_map, h.positions, Nat.zero_add, List.range'_succ, List.head?_cons]

theorem afterSending_sent (h : ∀ frame ∈ frames, frame.samples = 960) (p : PlaybackPosition)
    (hfits : p.sentDurationSamples + 960 * frames.length < 2 ^ 64) :
    (p.afterSending frames).sentDurationSamples =
      p.sentDurationSamples + 960 * frames.length := by
  induction frames generalizing p with
  | nil => rfl
  | cons frame frames ih =>
    rw [List.length_cons, Nat.mul_succ] at hfits ⊢
    have hframe := h frame List.mem_cons_self
    have hsent : (p.recordSentPacketSamples frame.samples).sentDurationSamples =
        p.sentDurationSamples + 960 := by
      rw [hframe]
      apply saturatingAdd_eq
      exact lt_of_le_of_lt (Nat.add_le_add_left (Nat.le_add_left _ _) _) hfits
    have hrest := ih (fun f hf ↦ h f (List.mem_cons_of_mem frame hf))
      (p.recordSentPacketSamples frame.samples) (by rw [hsent]; omega)
    rw [hsent] at hrest
    rw [Nat.add_comm (960 * frames.length), ← Nat.add_assoc]
    exact hrest

end FramesFrom

/-- A track that was interrupted and is prepared again: the same video, a queue with room for it,
and the source reopened or resolved as it was. -/
structure Interruption (codec : OpusCodec) (lib : WebmIterable) (track : SourceTrack) where
  worker : PlaybackWorker codec
  videoId : String
  sameVideo : worker.currentVideoId = some videoId
  started : PlaybackPosition
  unsent : started.sentDurationSamples = 0
  queue : OpusFrameQueue
  room : queue.isFull = false
  reopened : Option (List StreamRead)
  first : List StreamRead
  second : List StreamRead
  reopenedStreams : ∀ reads ∈ reopened, Streams lib track.packets reads
  firstStreams : Streams lib track.packets first
  secondStreams : Streams lib track.packets second

namespace Interruption

variable {codec : OpusCodec} {lib : WebmIterable} {track : SourceTrack}
  {ready : ℕ → codec.Decoder → Prop} {frames : List OpusFrame} {k : ℕ}

def prepared (i : Interruption codec lib track) (sent : List OpusFrame) :
    Except PlaybackError (PlaybackWorker codec × Opening × List StreamRead) :=
  i.worker.prepare lib i.videoId (i.started.afterSending sent) i.queue i.reopened (.ok i.first)
    (.ok i.second)

/-- The first frame after the interruption starts where the frames sent before it end, and what
counts as sent is from then on where the last frame sent ends, from the start of the track. -/
def Continues (i : Interruption codec lib track) (sent : List OpusFrame) : Prop :=
  ∃ worker opened chunks later demux next,
    i.prepared sent = .ok (worker, opened, chunks.map .ok) ∧
    opened.demux.demuxChunks lib chunks = .ok (later, demux) ∧
    worker.normalizer.frames (opened.pendingPackets ++ later) = .ok next ∧
    next.head?.map (·.sourcePositionSamples) = some (endAfter track.start sent) ∧
    ∀ n, 0 < n → n ≤ next.length →
      track.start + (opened.position.afterSending (next.take n)).sentDurationSamples =
        endAfter track.start (next.take n)

theorem prepared_eq (i : Interruption codec lib track) (sent : List OpusFrame) :
    ∃ reads, Streams lib track.packets reads ∧
      i.prepared sent =
        (openFromPosition lib ⟨(i.started.afterSending sent).sentDurationSamples⟩ reads).map
          fun opened ↦ (i.worker.renewed, opened) := by
  obtain ⟨reads, hreads, hrecover⟩ : ∃ reads,
      (i.reopened = some reads ∨ reads = i.first ∨ reads = i.second) ∧
      recover lib ⟨(i.started.afterSending sent).sentDurationSamples⟩ i.reopened (.ok i.first)
        (.ok i.second) =
          openFromPosition lib ⟨(i.started.afterSending sent).sentDurationSamples⟩ reads :=
    recover_cases i.reopened i.first i.second
  have hstreams : Streams lib track.packets reads := by
    rcases hreads with hreads | rfl | rfl
    · exact i.reopenedStreams reads hreads
    · exact i.firstStreams
    · exact i.secondStreams
  refine ⟨reads, hstreams, ?_⟩
  have hposition : i.worker.resumePosition i.videoId (i.started.afterSending sent) =
      ⟨(i.started.afterSending sent).sentDurationSamples⟩ := by
    rw [PlaybackWorker.resumePosition, if_pos i.sameVideo]
    rfl
  rw [prepared, PlaybackWorker.prepare, i.room, hposition, hrecover]
  cases openFromPosition lib ⟨(i.started.afterSending sent).sentDurationSamples⟩ reads <;> rfl

theorem track_frames (hcodec : Playable codec ready track.packets)
    (hframes : (DiscordOpusFrameNormalizer.new : DiscordOpusFrameNormalizer codec).frames
      track.packets = .ok frames) :
    FramesFrom track.start ((track.stop - track.start + 959) / 960) frames := by
  obtain ⟨packet, rest, hpackets⟩ := List.exists_cons_of_ne_nil track.nonempty
  have hsplit : track.packets = [] ++ packet :: rest := hpackets
  obtain ⟨out, hout, hfrom, hstart, hstop⟩ := SourceTrack.frames_suffix hcodec hsplit
  rw [hpackets, hout] at hframes
  cases hframes
  have htotal : totalSamples (packet :: rest) = track.stop - track.start := by
    rw [hstop, hstart]
    exact (Nat.add_sub_cancel_left ..).symm
  rw [htotal, hstart] at hfrom
  exact hfrom

theorem sent_before (i : Interruption codec lib track)
    (hfrom : FramesFrom track.start ((track.stop - track.start + 959) / 960) frames)
    (hk : k ≤ frames.length) :
    (i.started.afterSending (frames.take k)).sentDurationSamples = 960 * k ∧
      endAfter track.start (frames.take k) = track.start + 960 * k := by
  have htake := hfrom.take (hfrom.length_eq ▸ hk)
  have hlength := htake.length_eq
  have hstop := track.contiguous.stop_eq
  have hfits := track.fits
  have hcount := hfrom.length_eq
  constructor
  · rw [FramesFrom.afterSending_sent htake.samples, i.unsent, hlength, Nat.zero_add]
    rw [i.unsent, hlength]
    omega
  · rcases Nat.eq_zero_or_pos k with rfl | hpositive
    · rfl
    · exact htake.endAfter_eq hpositive track.start

section Left

variable {packet : DemuxedPacket} {rest : List DemuxedPacket}

theorem prepared_ok (i : Interruption codec lib track)
    {prepared : PlaybackWorker codec × Opening × List StreamRead}
    (hsent : (i.started.afterSending (frames.take k)).sentDurationSamples = 960 * k)
    (h : i.prepared (frames.take k) = .ok prepared) :
    prepared.1 = i.worker.renewed ∧ Resumed lib track.packets ⟨960 * k⟩ prepared.2 := by
  obtain ⟨reads, hreads, hprepared⟩ := i.prepared_eq (frames.take k)
  rw [hsent, h] at hprepared
  rcases hopened : openFromPosition lib ⟨960 * k⟩ reads with e | opened
  · rw [hopened] at hprepared
    cases hprepared
  · rw [hopened] at hprepared
    cases hprepared
    exact ⟨rfl, openFromPosition_resumed hreads hopened⟩

theorem prepared_isOk (i : Interruption codec lib track)
    (hsent : (i.started.afterSending (frames.take k)).sentDurationSamples = 960 * k)
    (hleft : track.packets.filter (packetOverlapsResume ⟨960 * k⟩) = packet :: rest) :
    ∃ prepared, i.prepared (frames.take k) = .ok prepared := by
  obtain ⟨reads, hreads, hprepared⟩ := i.prepared_eq (frames.take k)
  have hmem : packet ∈ track.packets.filter (packetOverlapsResume ⟨960 * k⟩) := by
    rw [hleft]
    exact List.mem_cons_self
  obtain ⟨hmem, hover⟩ := List.mem_filter.mp hmem
  obtain ⟨opened, hopened⟩ := openFromPosition_isOk hreads hmem hover
  rw [hprepared, hsent, hopened]
  exact ⟨_, rfl⟩

theorem left_frames (hcodec : Playable codec ready track.packets)
    (hleft : track.packets.filter (packetOverlapsResume ⟨960 * k⟩) = packet :: rest) :
    ∃ out count, (DiscordOpusFrameNormalizer.new : DiscordOpusFrameNormalizer codec).frames
        (packet :: rest) = .ok out ∧ 0 < count ∧
      FramesFrom packet.timestampSamples count out ∧
      packet.timestampSamples + 960 * count < 2 ^ 64 := by
  obtain ⟨before, hsplit, -, -⟩ := track.filter_overlaps (960 * k)
  rw [hleft] at hsplit
  obtain ⟨out, hout, hfrom, -, hstop⟩ := SourceTrack.frames_suffix hcodec hsplit
  have hmem : packet ∈ track.packets := by
    rw [hsplit]
    exact List.mem_append_right _ List.mem_cons_self
  have hpositive := track.positive packet hmem
  have hfits := track.fits
  have htotal := totalSamples_cons packet rest
  exact ⟨out, _, hout, by omega, hfrom, by omega⟩

theorem first_left_of_continues (i : Interruption codec lib track)
    (hcodec : Playable codec ready track.packets)
    (hfrom : FramesFrom track.start ((track.stop - track.start + 959) / 960) frames)
    (hk : k ≤ frames.length) (h : i.Continues (frames.take k)) :
    ∃ packet rest, track.packets.filter (packetOverlapsResume ⟨960 * k⟩) = packet :: rest ∧
      packet.timestampSamples = track.start + 960 * k := by
  obtain ⟨hsent, hend⟩ := i.sent_before hfrom hk
  obtain ⟨worker, opened, chunks, later, demux, next, hprepared, hlater, hnext, hhead, -⟩ := h
  obtain ⟨rfl, chunks', later', demux', hchunks, hlater', hpackets, -⟩ := i.prepared_ok hsent hprepared
  have hsame : chunks = chunks' := List.map_injective_iff.mpr (fun _ _ h ↦ Except.ok.inj h) hchunks
  subst hsame
  cases hlater.symm.trans hlater'
  rw [hpackets] at hnext
  rw [hend] at hhead
  rcases hleft : track.packets.filter (packetOverlapsResume ⟨960 * k⟩) with _ | ⟨packet, rest⟩
  · rw [hleft] at hnext
    cases hnext
    cases hhead
  · obtain ⟨out, count, hout, hcount, hframes, -⟩ := left_frames hcodec hleft
    rw [hleft] at hnext
    cases hout.symm.trans hnext
    rw [hframes.head_eq hcount] at hhead
    exact ⟨packet, rest, rfl, Option.some.inj hhead⟩

theorem continues_of_first_left (i : Interruption codec lib track)
    (hcodec : Playable codec ready track.packets)
    (hfrom : FramesFrom track.start ((track.stop - track.start + 959) / 960) frames)
    (hk : k ≤ frames.length)
    (hleft : track.packets.filter (packetOverlapsResume ⟨960 * k⟩) = packet :: rest)
    (hstart : packet.timestampSamples = track.start + 960 * k) : i.Continues (frames.take k) := by
  obtain ⟨hsent, hend⟩ := i.sent_before hfrom hk
  obtain ⟨⟨worker, opened, reads⟩, hprepared⟩ := i.prepared_isOk hsent hleft
  obtain ⟨rfl, chunks, later, demux, rfl, hlater, hpackets, hposition⟩ := i.prepared_ok hsent hprepared
  obtain ⟨out, count, hout, hcount, hframes, hfits⟩ := left_frames hcodec hleft
  refine ⟨i.worker.renewed, opened, chunks, later, demux, out, hprepared, hlater, ?_, ?_, ?_⟩
  · rw [hpackets, hleft]
    exact hout
  · rw [hframes.head_eq hcount, hend, hstart]
  · intro n hn hle
    rw [hframes.length_eq] at hle
    have htake := hframes.take hle
    have hbound : 960 * k + 960 * n < 2 ^ 64 := by omega
    rw [htake.endAfter_eq hn, FramesFrom.afterSending_sent htake.samples, hposition,
      htake.length_eq, hstart, Nat.add_assoc]
    rw [hposition, htake.length_eq]
    exact hbound

end Left

/-- After so many frames of a track the way back goes on with the next one just in case none was
sent, or the track starts at zero and a packet starts where the next frame does. -/
theorem continues_iff (i : Interruption codec lib track) (hcodec : Playable codec ready track.packets)
    (hframes : (DiscordOpusFrameNormalizer.new : DiscordOpusFrameNormalizer codec).frames
      track.packets = .ok frames)
    (hk : k ≤ frames.length) :
    i.Continues (frames.take k) ↔
      k = 0 ∨ track.start = 0 ∧ ∃ p ∈ track.packets, p.timestampSamples = 960 * k := by
  have hfrom := track_frames hcodec hframes
  have hzero : k = 0 ↔ 960 * k = 0 := by omega
  rw [hzero]
  constructor
  · intro h
    obtain ⟨packet, rest, hleft, hstart⟩ := i.first_left_of_continues hcodec hfrom hk h
    exact (track.first_left_iff hleft).mp hstart
  · intro h
    obtain ⟨packet, rest, hleft⟩ := track.exists_left (h.imp_right And.right)
    exact i.continues_of_first_left hcodec hfrom hk hleft ((track.first_left_iff hleft).mpr h)

/-- A codec whose decoder knows its channels. -/
def channelCodec : OpusCodec :=
  ⟨ℕ, Unit, Unit, (), fun channels ↦ .ok channels,
    fun channels _ count ↦ (.ok (List.replicate (count * channels) (), count), channels),
    .ok (), fun _ _ ↦ (.ok [0xFC], ())⟩

def twoPackets (start : ℕ) (hfits : start + 2880 ≤ 2 ^ 64) : SourceTrack where
  start := start
  packets := [⟨[0xFC], durationMsFromSamples start, start, 20, 960⟩,
    ⟨[0xFC], durationMsFromSamples (start + 960), start + 960, 20, 960⟩]
  stop := start + 960 + 960
  nonempty := by simp
  contiguous := ⟨rfl, rfl, rfl⟩
  positive := by simp
  fits := hfits

theorem channelCodec_playable {start : ℕ} (hfits : start + 2880 ≤ 2 ^ 64) :
    Playable channelCodec (fun channels decoder ↦ decoder = channels) (twoPackets start hfits).packets where
  channels := by
    have htwo : opusPacketChannels [0xFC] = some 2 := by decide
    intro p hp
    simp only [twoPackets, List.mem_cons, List.not_mem_nil, or_false] at hp
    rcases hp with rfl | rfl
    · exact ⟨2, htwo⟩
    · exact ⟨2, htwo⟩
  newDecoder channels _ := ⟨channels, rfl, rfl⟩
  decode := by
    rintro p - channels decoder - rfl
    exact ⟨_, _, rfl, List.length_replicate, rfl⟩
  newEncoder := ⟨(), rfl⟩
  encode encoder pcm _ := ⟨[0xFC], (), rfl⟩

/-- The two packets as blocks of a cluster with the given timestamp. -/
def twoBlocks (clusterMs : UInt8) : Voice.Bytes :=
  [0xE7, 0x81, clusterMs, 0xA3, 0x85, 0x81, 0, 0, 0x80, 0xFC, 0xA3, 0x85, 0x81, 0, 20, 0x80, 0xFC]

def twoBlocksAgain (clusterMs : UInt8) {start : ℕ} (hfits : start + 2880 ≤ 2 ^ 64)
    (hstreams : Streams WebmOpusDemux.clusterIterable (twoPackets start hfits).packets
      [.ok (twoBlocks clusterMs)]) :
    Interruption channelCodec WebmOpusDemux.clusterIterable (twoPackets start hfits) where
  worker := ⟨some "video", ⟨none, none⟩, 80, .new, []⟩
  videoId := "video"
  sameVideo := rfl
  started := .default
  unsent := rfl
  queue := .withResourceLimits 1024 (4 * 1024 * 1024) 5000
  room := by decide
  reopened := some [.ok (twoBlocks clusterMs)]
  first := [.ok (twoBlocks clusterMs)]
  second := [.ok (twoBlocks clusterMs)]
  reopenedStreams := by
    rintro reads ⟨⟩
    exact hstreams
  firstStreams := hstreams
  secondStreams := hstreams

theorem streams_from_zero : Streams WebmOpusDemux.clusterIterable (twoPackets 0 (by omega)).packets
    [.ok (twoBlocks 0)] :=
  ⟨[twoBlocks 0], ⟨[], ⟨1000000, 0, none⟩⟩, rfl, rfl⟩

theorem streams_from_20ms : Streams WebmOpusDemux.clusterIterable (twoPackets 960 (by omega)).packets
    [.ok (twoBlocks 20)] :=
  ⟨[twoBlocks 20], ⟨[], ⟨1000000, 20, none⟩⟩, rfl, rfl⟩

/-- The first of two frames was sent, and the second comes next. -/
theorem continues_after_first_frame :
    (twoBlocksAgain 0 (by omega) streams_from_zero).Continues
      ([discordFrame [0xFC] 0, discordFrame [0xFC] 960].take 1) :=
  (continues_iff (twoBlocksAgain 0 (by omega) streams_from_zero) (channelCodec_playable (by omega))
    rfl (by decide)).mpr (.inr ⟨rfl, ⟨[0xFC], 20, 960, 20, 960⟩, by decide, rfl⟩)

/-- In a track that starts at 20 ms the frame that was sent comes again. -/
theorem first_frame_sent_again :
    Playable channelCodec (fun channels decoder ↦ decoder = channels)
        (twoPackets 960 (by omega)).packets ∧
      (DiscordOpusFrameNormalizer.new : DiscordOpusFrameNormalizer channelCodec).frames
        (twoPackets 960 (by omega)).packets =
          .ok [discordFrame [0xFC] 960, discordFrame [0xFC] 1920] ∧
      ¬(twoBlocksAgain 20 (by omega) streams_from_20ms).Continues
        ([discordFrame [0xFC] 960, discordFrame [0xFC] 1920].take 1) := by
  have hcodec := channelCodec_playable (by omega : 960 + 2880 ≤ 2 ^ 64)
  refine ⟨hcodec, rfl, ?_⟩
  intro h
  obtain ⟨packet, rest, hleft, hstart⟩ := first_left_of_continues _ hcodec
    (track_frames hcodec rfl) (by decide) h
  have hpacket : packet = ⟨[0xFC], 20, 960, 20, 960⟩ := (List.cons.inj hleft).1.symm
  rw [hpacket] at hstart
  cases hstart

end Interruption

end DiscordVoice.Playback
