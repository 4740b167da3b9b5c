import DiscordVoice.Playback.Recovery

namespace DiscordVoice.Playback

/-- Reads that bring the packets of a stream, however it is cut. -/
def Streams (lib : WebmIterable) (packets : List DemuxedPacket) (reads : List StreamRead) : Prop :=
  ∃ chunks demux, reads = chunks.map .ok ∧
    WebmOpusDemux.default.demuxChunks lib chunks = .ok (packets, demux)

theorem foldl_max_lt_iff {a b : ℕ} (xs : List ℕ) :
    xs.foldl max a < b ↔ a < b ∧ ∀ x ∈ xs, x < b := by
  induction xs generalizing a with
  | nil => simp
  | cons x xs ih => rw [List.foldl_cons, ih, max_lt_iff, List.forall_mem_cons, and_assoc]

namespace Opening

variable {lib : WebmIterable} {resumePosition : PlaybackResumePosition} {o : Opening}
  {seen : List DemuxedPacket}

structure Holds (resumePosition : PlaybackResumePosition) (o : Opening) (seen : List DemuxedPacket) :
    Prop where
  pending : o.pendingPackets = seen.filter (packetOverlapsResume resumePosition)
  position : o.position = seen.foldl PlaybackPosition.recordBuffered .default

theorem holds_new : Holds resumePosition new [] := ⟨rfl, rfl⟩

theorem receive_holds (h : Holds resumePosition o seen) {chunk : Voice.Bytes}
    {packets : List DemuxedPacket} {demux : WebmOpusDemux}
    (hdrain : (o.demux.pushBytes chunk).drainPackets lib = .ok (packets, demux)) :
    ∃ next, o.receive lib resumePosition chunk = .ok next ∧ next.demux = demux ∧
      Holds resumePosition next (seen ++ packets) := by
  simp only [receive, hdrain]
  refine ⟨_, rfl, rfl, ?_, ?_⟩
  · rw [h.pending, List.filter_append]
  · rw [h.position, List.foldl_append]

/-- The loop stops at the end of the stream or as soon as it is done; the chunks it leaves bring the
packets it has not seen. -/
theorem readOn_holds (h : Holds resumePosition o seen) {chunks : List Voice.Bytes}
    {packets : List DemuxedPacket} {demux : WebmOpusDemux}
    (hdemux : o.demux.demuxChunks lib chunks = .ok (packets, demux)) :
    ∃ next left now later last, o.readOn lib resumePosition (chunks.map .ok) = .ok (next, left.map .ok) ∧
      packets = now ++ later ∧ Holds resumePosition next (seen ++ now) ∧
      next.demux.demuxChunks lib left = .ok (later, last) ∧
      (next.unfinished resumePosition = true → later = []) := by
  induction chunks generalizing o seen packets with
  | nil =>
    cases hdemux
    refine ⟨o, [], [], [], o.demux, rfl, rfl, ?_, rfl, fun _ ↦ rfl⟩
    rwa [List.append_nil]
  | cons chunk chunks ih =>
    by_cases hunfinished : o.unfinished resumePosition = true
    · rw [WebmOpusDemux.demuxChunks] at hdemux
      rcases hdrain : (o.demux.pushBytes chunk).drainPackets lib with e | ⟨drained, d⟩
      · rw [hdrain] at hdemux
        cases hdemux
      · rw [hdrain] at hdemux
        obtain ⟨received, hreceive, hd, hheld⟩ := receive_holds h hdrain
        rcases hmore : d.demuxChunks lib chunks with e | ⟨more, final⟩
        · simp only [hmore] at hdemux
          cases hdemux
        · simp only [hmore, Except.ok.injEq, Prod.mk.injEq] at hdemux
          obtain ⟨rfl, rfl⟩ := hdemux
          obtain ⟨next, left, now, later, last, hread, hsplit, hnext, hlast, hend⟩ :=
            ih hheld (by rw [hd, hmore])
          refine ⟨next, left, drained ++ now, later, last, ?_, ?_, ?_, hlast, hend⟩
          · rw [List.map_cons, readOn, if_pos hunfinished]
            simp only [hreceive, hread]
          · rw [hsplit, List.append_assoc]
          · rwa [← List.append_assoc]
    · refine ⟨o, chunk :: chunks, [], packets, demux, ?_, rfl, ?_, hdemux, ?_⟩
      · rw [List.map_cons, readOn, if_neg hunfinished]
      · rwa [List.append_nil]
      · intro hcontrary
        exact absurd hcontrary hunfinished

theorem recordBuffered_sent (position : PlaybackPosition) (packets : List DemuxedPacket) :
    (packets.foldl PlaybackPosition.recordBuffered position).sentDurationSamples =
      position.sentDurationSamples := by
  induction packets generalizing position with
  | nil => rfl
  | cons packet packets ih => rw [List.foldl_cons, ih, PlaybackPosition.recordBuffered]

theorem recordBuffered_timestamp (position : PlaybackPosition) (packets : List DemuxedPacket) :
    (packets.foldl PlaybackPosition.recordBuffered position).timestampSamples =
      (packets.map packetEndSamples).foldl max position.timestampSamples := by
  induction packets generalizing position with
  | nil => rfl
  | cons packet packets ih =>
    rw [List.foldl_cons, ih, List.map_cons, List.foldl_cons]
    rfl

theorem Holds.timestamp (h : Holds resumePosition o seen) :
    o.position.timestampSamples = (seen.map packetEndSamples).foldl max 0 := by
  rw [h.position, recordBuffered_timestamp]
  rfl

theorem Holds.short_iff (h : Holds resumePosition o seen) :
    o.position.timestampSamples < resumePosition.samples ↔
      0 < resumePosition.samples ∧ ∀ p ∈ seen, packetEndSamples p < resumePosition.samples := by
  rw [h.timestamp, foldl_max_lt_iff, List.forall_mem_map]

theorem finish_ok {done : Opening} (h : Holds resumePosition o seen)
    (hfinish : o.finish resumePosition = .ok done) :
    done.demux = o.demux ∧ done.pendingPackets = o.pendingPackets ∧
      done.position.sentDurationSamples = resumePosition.samples ∧
      done.position.timestampSamples = o.position.timestampSamples ∧
      resumePosition.samples ≤ o.position.timestampSamples := by
  unfold finish at hfinish
  split_ifs at hfinish with hshort hstart
  · cases hfinish
    have hzero : resumePosition.samples = 0 := of_decide_eq_true hstart
    refine ⟨rfl, rfl, ?_, rfl, not_lt.mp hshort⟩
    rw [h.position, recordBuffered_sent, hzero]
    rfl
  · cases hfinish
    exact ⟨rfl, rfl, rfl, rfl, not_lt.mp hshort⟩

theorem finish_error_iff (h : Holds resumePosition o seen) :
    (∃ e, o.finish resumePosition = .error e) ↔
      0 < resumePosition.samples ∧ ∀ p ∈ seen, packetEndSamples p < resumePosition.samples := by
  rw [← h.short_iff, finish]
  constructor
  · rintro ⟨e, hfinish⟩
    split_ifs at hfinish with hshort
    exact hshort
  · intro hshort
    exact ⟨_, if_pos hshort⟩

end Opening

/-- What a way back to the source brings: the packets that end after the resume position, at once or
with the reads that are left, and the resume position as what was sent. -/
def Resumed (lib : WebmIterable) (packets : List DemuxedPacket)
    (resumePosition : PlaybackResumePosition) (opened : Opening × List StreamRead) : Prop :=
  ∃ chunks later demux, opened.2 = chunks.map .ok ∧
    opened.1.demux.demuxChunks lib chunks = .ok (later, demux) ∧
    opened.1.pendingPackets ++ later = packets.filter (packetOverlapsResume resumePosition) ∧
    opened.1.position.sentDurationSamples = resumePosition.samples

section Opened

variable {lib : WebmIterable} {resumePosition : PlaybackResumePosition} {chunks : List Voice.Bytes}
  {packets : List DemuxedPacket} {demux : WebmOpusDemux}

theorem openFromPosition_cons (chunk : Voice.Bytes) (reads : List StreamRead) :
    openFromPosition lib resumePosition (.ok chunk :: reads) =
      (Opening.new.readOn lib resumePosition (.ok chunk :: reads)).bind fun opened ↦
        (opened.1.finish resumePosition).map fun done ↦ (done, opened.2) := by
  have hunfinished : Opening.new.unfinished resumePosition = true := rfl
  rw [openFromPosition, Opening.readOn, if_pos hunfinished]
  rcases Opening.new.receive lib resumePosition chunk with e | o
  · rfl
  · simp only [bind, Except.bind]
    rcases o.readOn lib resumePosition reads with e | opened
    · rfl
    · rcases opened.1.finish resumePosition with e | done
      · rfl
      · rfl

variable (resumePosition) in
theorem openFromPosition_chunks (hchunks : chunks ≠ [])
    (hdemux : WebmOpusDemux.default.demuxChunks lib chunks = .ok (packets, demux)) :
    ∃ (o : Opening) (left : List Voice.Bytes) (now later : List DemuxedPacket) (last : WebmOpusDemux),
      openFromPosition lib resumePosition (chunks.map .ok) =
        (o.finish resumePosition).map (fun done ↦ (done, left.map .ok)) ∧
      packets = now ++ later ∧ o.Holds resumePosition now ∧
      o.demux.demuxChunks lib left = .ok (later, last) ∧
      (o.unfinished resumePosition = true → later = []) := by
  cases chunks with
  | nil => exact absurd rfl hchunks
  | cons chunk chunks =>
    have hnew : Opening.new.Holds resumePosition [] := Opening.holds_new
    obtain ⟨o, left, now, later, last, hread, hsplit, hheld, hlast, hend⟩ :=
      Opening.readOn_holds hnew hdemux
    refine ⟨o, left, now, later, last, ?_, hsplit, hheld, hlast, hend⟩
    rw [List.map_cons] at hread ⊢
    rw [openFromPosition_cons, hread]
    rfl

theorem filter_later {now later : List DemuxedPacket} {o : Opening}
    (hmono : (now ++ later).Pairwise fun p q ↦
      packetOverlapsResume resumePosition p = true → packetOverlapsResume resumePosition q = true)
    (hheld : o.Holds resumePosition now) (hend : o.unfinished resumePosition = true → later = []) :
    later.filter (packetOverlapsResume resumePosition) = later := by
  by_cases hunfinished : o.unfinished resumePosition = true
  · rw [hend hunfinished]
    rfl
  · simp only [Opening.unfinished, Bool.or_eq_true, not_or, List.isEmpty_iff] at hunfinished
    obtain ⟨p, hp⟩ := List.exists_mem_of_ne_nil _ hunfinished.1
    rw [hheld.pending] at hp
    obtain ⟨hpnow, hover⟩ := List.mem_filter.mp hp
    rw [List.pairwise_append] at hmono
    rw [List.filter_eq_self]
    intro q hq
    exact hmono.2.2 p hpnow q hq hover

theorem openFromPosition_kept {opened : Opening × List StreamRead} (hchunks : chunks ≠ [])
    (hdemux : WebmOpusDemux.default.demuxChunks lib chunks = .ok (packets, demux))
    (hmono : packets.Pairwise fun p q ↦
      packetOverlapsResume resumePosition p = true → packetOverlapsResume resumePosition q = true)
    (hopened : openFromPosition lib resumePosition (chunks.map .ok) = .ok opened) :
    ∃ left now later last, opened.2 = left.map .ok ∧ packets = now ++ later ∧
      opened.1.demux.demuxChunks lib left = .ok (later, last) ∧
      opened.1.pendingPackets ++ later = packets.filter (packetOverlapsResume resumePosition) ∧
      opened.1.position.sentDurationSamples = resumePosition.samples ∧
      opened.1.position.timestampSamples = (now.map packetEndSamples).foldl max 0 ∧
      resumePosition.samples ≤ opened.1.position.timestampSamples := by
  obtain ⟨o, left, now, later, last, hopen, hsplit, hheld, hlast, hend⟩ :=
    openFromPosition_chunks resumePosition hchunks hdemux
  rw [hopened] at hopen
  rcases hfinish : o.finish resumePosition with e | done
  · rw [hfinish] at hopen
    cases hopen
  · rw [hfinish] at hopen
    cases hopen
    obtain ⟨hd, hpending, hsent, htimestamp, hreached⟩ := Opening.finish_ok hheld hfinish
    rw [hsplit] at hmono
    refine ⟨left, now, later, last, rfl, hsplit, by rw [hd, hlast], ?_, hsent,
      htimestamp.trans hheld.timestamp, hreached.trans_eq htimestamp.symm⟩
    rw [hpending, hheld.pending, hsplit, List.filter_append, filter_later hmono hheld hend]

theorem openFromPosition_error_iff (hchunks : chunks ≠ [])
    (hdemux : WebmOpusDemux.default.demuxChunks lib chunks = .ok (packets, demux)) :
    (∃ e, openFromPosition lib resumePosition (chunks.map .ok) = .error e) ↔
      0 < resumePosition.samples ∧ ∀ p ∈ packets, packetEndSamples p < resumePosition.samples := by
  obtain ⟨o, left, now, later, last, hopen, hsplit, hheld, -, hend⟩ :=
    openFromPosition_chunks resumePosition hchunks hdemux
  have hfinish : (∃ e, openFromPosition lib resumePosition (chunks.map .ok) = .error e) ↔
      ∃ e, o.finish resumePosition = .error e := by
    rw [hopen]
    cases o.finish resumePosition with
    | error e => simp [Except.map]
    | ok done => simp [Except.map]
  rw [hfinish, Opening.finish_error_iff hheld, hsplit]
  constructor
  · rintro ⟨hpositive, hnow⟩
    have hunfinished : o.unfinished resumePosition = true := by
      rw [Opening.unfinished, Bool.or_eq_true, decide_eq_true_eq]
      exact .inr (hheld.short_iff.mpr ⟨hpositive, hnow⟩)
    rw [hend hunfinished, List.append_nil]
    exact ⟨hpositive, hnow⟩
  · rintro ⟨hpositive, hall⟩
    exact ⟨hpositive, fun p hp ↦ hall p (List.mem_append_left later hp)⟩

/-- A source opened at a position brings the packets that end after it and no others, and it opens
unless nothing of it comes or all of it ends before the position. -/
theorem openFromPosition_keeps_overlapping
    (hdemux : WebmOpusDemux.default.demuxChunks lib chunks = .ok (packets, demux))
    (hends : (packets.map packetEndSamples).Pairwise (· ≤ ·)) :
    ((∃ e, openFromPosition lib resumePosition (chunks.map .ok) = .error e) ↔
      chunks = [] ∨ 0 < resumePosition.samples ∧
        ∀ p ∈ packets, packetEndSamples p < resumePosition.samples) ∧
    ∀ opened, openFromPosition lib resumePosition (chunks.map .ok) = .ok opened →
      ∃ left now later last, opened.2 = left.map .ok ∧ packets = now ++ later ∧
        opened.1.demux.demuxChunks lib left = .ok (later, last) ∧
        opened.1.pendingPackets ++ later = packets.filter (packetOverlapsResume resumePosition) ∧
        opened.1.position.sentDurationSamples = resumePosition.samples ∧
        opened.1.position.timestampSamples = (now.map packetEndSamples).foldl max 0 ∧
        resumePosition.samples ≤ opened.1.position.timestampSamples := by
  by_cases hchunks : chunks = []
  · subst hchunks
    refine ⟨⟨fun _ ↦ .inl rfl, fun _ ↦ ⟨_, rfl⟩⟩, ?_⟩
    intro opened hopened
    cases hopened
  · refine ⟨?_, ?_⟩
    · rw [openFromPosition_error_iff hchunks hdemux, or_iff_right hchunks]
    · intro opened hopened
      refine openFromPosition_kept hchunks hdemux ?_ hopened
      apply (List.pairwise_map.mp hends).imp
      intro p q hpq hp
      rw [packetOverlapsResume, decide_eq_true_eq] at hp ⊢
      exact hp.trans_le hpq

/-- Two packets of a cluster, cut in the middle of the second block. -/
def twoChunks : List Voice.Bytes :=
  [[0xE7, 0x81, 0, 0xA3, 0x85, 0x81, 0, 0, 0x80, 0xFC, 0xA3, 0x85], [0x81, 0, 20, 0x80, 0xFC]]

/-- The first of the packets ends where the source is opened, and the second is kept. -/
theorem openFromPosition_keeps_second : ∃ opened later,
    openFromPosition WebmOpusDemux.clusterIterable ⟨960⟩ (twoChunks.map .ok) = .ok opened ∧
      opened.1.pendingPackets ++ later = [⟨[0xFC], 20, 960, 20, 960⟩] := by
  have hdemux : WebmOpusDemux.default.demuxChunks WebmOpusDemux.clusterIterable twoChunks =
      .ok ([⟨[0xFC], 0, 0, 20, 960⟩, ⟨[0xFC], 20, 960, 20, 960⟩], ⟨[], ⟨1000000, 0, none⟩⟩) := rfl
  obtain ⟨opened, hopened⟩ : ∃ opened,
      openFromPosition WebmOpusDemux.clusterIterable ⟨960⟩ (twoChunks.map .ok) = .ok opened :=
    ⟨_, rfl⟩
  obtain ⟨left, now, later, last, -, -, -, hkept, -⟩ :=
    (openFromPosition_keeps_overlapping hdemux (by decide)).2 opened hopened
  exact ⟨opened, later, hopened, hkept⟩

end Opened

end DiscordVoice.Playback
