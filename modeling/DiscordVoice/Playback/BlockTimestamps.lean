import Mathlib.Data.Rat.Floor
import DiscordVoice.Playback.WebmDemux

namespace DiscordVoice.Playback

open Voice (Bytes)

/-- The start of a block in samples, to the nearest sample and half a sample up. -/
def roundedSamples (ticks : ℤ) (scale : ℕ) : ℤ :=
  round ((ticks * scale * 48000 : ℤ) / (10 ^ 9 : ℕ) : ℚ)

theorem roundedSamples_eq (ticks : ℤ) (scale : ℕ) :
    roundedSamples ticks scale = (ticks * scale * 48000 + 500000000) / 1000000000 := by
  have hhalf : ((ticks * scale * 48000 : ℤ) / (10 ^ 9 : ℕ) : ℚ) + 1 / 2 =
      (ticks * scale * 48000 + 500000000 : ℤ) / (10 ^ 9 : ℕ) := by
    push_cast
    ring
  rw [roundedSamples, round_eq, hhalf, Rat.floor_intCast_div_natCast]
  norm_num

theorem roundedSamples_mono {a b : ℤ} (scale : ℕ) (h : a ≤ b) :
    roundedSamples a scale ≤ roundedSamples b scale := by
  rw [roundedSamples_eq, roundedSamples_eq]
  apply Int.ediv_le_ediv (by decide)
  have := mul_le_mul_of_nonneg_right h (Int.natCast_nonneg scale)
  omega

theorem roundedSamples_lt_of_wrap {n : ℤ} {scale : ℕ} (hscale : scale ≠ 0) :
    roundedSamples n scale < roundedSamples (n + 2 ^ 64) scale := by
  rw [roundedSamples_eq, roundedSamples_eq, add_mul, add_mul]
  have hpos : (1 : ℤ) ≤ scale := by
    have := Nat.pos_of_ne_zero hscale
    omega
  omega

theorem roundedSamples_zero_scale (ticks : ℤ) : roundedSamples ticks 0 = 0 := by
  rw [roundedSamples_eq]
  omega

namespace WebmDemuxState

variable {s : WebmDemuxState}

/-- The two 128-bit checks never refuse what the 64-bit check would have accepted. -/
theorem scaleTimestampToSamples_eq (ticks : ℕ) :
    s.scaleTimestampToSamples ticks =
      if 2 ^ 64 ≤ roundedSamples ticks s.timestampScaleNs then
        .error (.mediaParse "timestamp overflow")
      else .ok (roundedSamples ticks s.timestampScaleNs).toNat := by
  have hrounded : roundedSamples ticks s.timestampScaleNs =
      ((ticks * s.timestampScaleNs * 48000 + 500000000) / 1000000000 : ℕ) := by
    rw [roundedSamples_eq]
    push_cast
    rfl
  rw [scaleTimestampToSamples, hrounded]
  generalize ticks * s.timestampScaleNs = scaled
  split
  next hwide => rw [if_pos (by omega)]
  next hnarrow =>
    split
    next hlarge => rw [if_pos (by omega)]
    next hsmall =>
      rw [if_neg (by omega), Int.toNat_natCast]

/-- The start the code gives a block: that of its ticks modulo the range of the counter. -/
theorem blockTimestampSamples_eq {b : ℤ} (h : 0 ≤ s.clusterTimestamp + b) :
    s.blockTimestampSamples b =
      if 2 ^ 64 ≤ roundedSamples ((s.clusterTimestamp + b) % 2 ^ 64) s.timestampScaleNs then
        .error (.mediaParse "timestamp overflow")
      else .ok (roundedSamples ((s.clusterTimestamp + b) % 2 ^ 64) s.timestampScaleNs).toNat := by
  have hticks : (((s.clusterTimestamp + b).toNat % 2 ^ 64 : ℕ) : ℤ) =
      (s.clusterTimestamp + b) % 2 ^ 64 := by
    rw [Int.natCast_emod, Int.toNat_of_nonneg h]
    rfl
  rw [blockTimestampSamples, if_neg (not_lt.mpr h), scaleTimestampToSamples_eq, hticks]

theorem framesToPackets_eq {b : ℤ} {frames : List Bytes} {durations : List OpusPacketDuration}
    (hframes : frames ≠ []) (hdurations : frames.mapM opusPacketDuration = some durations) :
    s.framesToPackets b frames =
      (s.blockTimestampSamples b).map fun start ↦ packetsFrom start (frames.zip durations) := by
  rw [framesToPackets, if_neg hframes, hdurations]
  dsimp only
  cases s.blockTimestampSamples b with
  | error e => rfl
  | ok start => rfl

end WebmDemuxState

def BackToBack (packets : List DemuxedPacket) : Prop :=
  packets.IsChain fun p q ↦ q.timestampSamples = p.timestampSamples + p.durationSamples.toNat

theorem packetsFrom_backToBack_iff {laced : List (Bytes × OpusPacketDuration)} {start : ℕ}
    (hstart : start < 2 ^ 64) :
    BackToBack (WebmDemuxState.packetsFrom start laced) ↔
      start + (laced.dropLast.map fun f ↦ f.2.samples.toNat).sum < 2 ^ 64 := by
  induction laced generalizing start with
  | nil => simpa [WebmDemuxState.packetsFrom, BackToBack] using hstart
  | cons f rest ih =>
    cases rest with
    | nil => simpa [WebmDemuxState.packetsFrom, BackToBack] using hstart
    | cons g rest =>
      obtain ⟨data, duration⟩ := f
      have hnext : saturatingAdd start duration.samples.toNat < 2 ^ 64 := by
        unfold saturatingAdd
        omega
      have htail := ih hnext
      rw [BackToBack, WebmDemuxState.packetsFrom] at htail ⊢
      rw [WebmDemuxState.packetsFrom, List.isChain_cons_cons, htail, List.dropLast_cons_cons,
        List.map_cons, List.sum_cons]
      dsimp only
      unfold saturatingAdd
      omega

def clusterState (clusterTimestamp timestampScaleNs : UInt64) (opusTrack : Option ℕ) :
    WebmDemuxState :=
  ⟨timestampScaleNs.toNat, clusterTimestamp.toNat, opusTrack⟩

def blockTicks (clusterTimestamp : UInt64) (relativeTimestamp : Int16) : ℤ :=
  clusterTimestamp.toNat + relativeTimestamp.toInt

/-- The packets of a block start at the exact sample and follow each other, and a block whose start
is negative or too large is refused. -/
structure ExactOrRejected (clusterTimestamp timestampScaleNs : UInt64) (relativeTimestamp : Int16)
    (result : Except PlaybackError (List DemuxedPacket)) : Prop where
  exact_packets : ∀ packets, result = .ok packets →
    0 ≤ blockTicks clusterTimestamp relativeTimestamp ∧
    (∃ p rest, packets = p :: rest ∧ (p.timestampSamples : ℤ) =
      roundedSamples (blockTicks clusterTimestamp relativeTimestamp) timestampScaleNs.toNat) ∧
    BackToBack packets
  rejected : blockTicks clusterTimestamp relativeTimestamp < 0 ∨
      2 ^ 64 ≤ roundedSamples (blockTicks clusterTimestamp relativeTimestamp)
        timestampScaleNs.toNat →
    ∃ e, result = .error e

/-- The ticks of the block fit the counter they are cast to and its last packet starts in range,
or the block is refused with or without the cast. -/
def FitsTickCounter (clusterTimestamp timestampScaleNs : UInt64) (relativeTimestamp : Int16)
    (durations : List OpusPacketDuration) : Prop :=
  let ticks := blockTicks clusterTimestamp relativeTimestamp
  let scale := timestampScaleNs.toNat
  ticks < 0 ∨ 2 ^ 64 ≤ roundedSamples (ticks % 2 ^ 64) scale ∨
    ((ticks < 2 ^ 64 ∨ scale = 0) ∧
      roundedSamples ticks scale + (durations.dropLast.map fun d ↦ d.samples.toNat).sum < 2 ^ 64)

theorem roundedSamples_mod_eq_iff {ticks : ℤ} {scale : ℕ} (hnonneg : 0 ≤ ticks)
    (hbound : ticks < 2 ^ 65) :
    roundedSamples (ticks % 2 ^ 64) scale = roundedSamples ticks scale ↔
      ticks < 2 ^ 64 ∨ scale = 0 := by
  constructor
  · intro h
    by_contra hneither
    rw [not_or, not_lt] at hneither
    have hwrap := roundedSamples_lt_of_wrap (n := ticks % 2 ^ 64) hneither.2
    have hticks : ticks % 2 ^ 64 + 2 ^ 64 = ticks := by omega
    rw [hticks, h] at hwrap
    exact lt_irrefl _ hwrap
  · rintro (h | h)
    · rw [Int.emod_eq_of_lt hnonneg h]
    · rw [h, roundedSamples_zero_scale, roundedSamples_zero_scale]

theorem length_of_mapM {α β : Type} {f : α → Option β} {xs : List α} {ys : List β}
    (h : xs.mapM f = some ys) : ys.length = xs.length := by
  induction xs generalizing ys with
  | nil =>
    simp only [List.mapM_nil, Option.pure_def, Option.some.injEq] at h
    rw [← h]
    rfl
  | cons x xs ih =>
    simp only [List.mapM_cons, Option.bind_eq_bind, Option.bind_eq_some_iff, Option.pure_def,
      Option.some.injEq] at h
    obtain ⟨y, -, zs, hzs, rfl⟩ := h
    rw [List.length_cons, List.length_cons, ih hzs]

theorem sum_zip_dropLast {frames : List Bytes} {durations : List OpusPacketDuration}
    (h : frames.length = durations.length) :
    ((frames.zip durations).dropLast.map fun f ↦ f.2.samples.toNat).sum =
      (durations.dropLast.map fun d ↦ d.samples.toNat).sum := by
  have hsnd : (frames.zip durations).map Prod.snd = durations :=
    List.map_snd_zip (le_of_eq h.symm)
  calc ((frames.zip durations).dropLast.map fun f ↦ f.2.samples.toNat).sum
      = ((((frames.zip durations).map Prod.snd).dropLast).map fun d ↦ d.samples.toNat).sum := by
        rw [← List.map_dropLast, List.map_map]
        rfl
    _ = (durations.dropLast.map fun d ↦ d.samples.toNat).sum := by rw [hsnd]

theorem roundedSamples_nonneg {ticks : ℤ} (scale : ℕ) (h : 0 ≤ ticks) :
    0 ≤ roundedSamples ticks scale := by
  have hmono := roundedSamples_mono scale h
  have hzero : roundedSamples 0 scale = 0 := by
    rw [roundedSamples_eq]
    omega
  omega

theorem exactOrRejected_error {c s : UInt64} {b : Int16} (e : PlaybackError) :
    ExactOrRejected c s b (.error e) where
  exact_packets := by
    rintro packets ⟨⟩
  rejected _ := ⟨e, rfl⟩

theorem exactOrRejected_ok_iff {c s : UInt64} {b : Int16} {start : ℕ}
    {laced : List (Bytes × OpusPacketDuration)} (hlaced : laced ≠ []) (hstart : start < 2 ^ 64)
    (hticks : 0 ≤ blockTicks c b) :
    ExactOrRejected c s b (.ok (WebmDemuxState.packetsFrom start laced)) ↔
      (start : ℤ) = roundedSamples (blockTicks c b) s.toNat ∧
        start + (laced.dropLast.map fun f ↦ f.2.samples.toNat).sum < 2 ^ 64 := by
  obtain ⟨⟨data, duration⟩, rest, rfl⟩ := List.exists_cons_of_ne_nil hlaced
  constructor
  · intro h
    obtain ⟨-, ⟨p, packets, hpackets, hp⟩, hbackToBack⟩ := h.exact_packets _ rfl
    rw [WebmDemuxState.packetsFrom, List.cons.injEq] at hpackets
    obtain ⟨rfl, -⟩ := hpackets
    exact ⟨hp, (packetsFrom_backToBack_iff hstart).mp hbackToBack⟩
  · rintro ⟨hexact, hrange⟩
    constructor
    · rintro packets ⟨⟩
      exact ⟨hticks, ⟨_, _, rfl, hexact⟩, (packetsFrom_backToBack_iff hstart).mpr hrange⟩
    · rintro (hneg | hlarge)
      · omega
      · omega

/-- A block gets its exact timestamps or an error just when its ticks fit the counter. -/
theorem block_timestamps_exact_iff (clusterTimestamp timestampScaleNs : UInt64)
    (relativeTimestamp : Int16) (opusTrack : Option ℕ) {frames : List Bytes}
    {durations : List OpusPacketDuration} (hframes : frames ≠ [])
    (hdurations : frames.mapM opusPacketDuration = some durations) :
    ExactOrRejected clusterTimestamp timestampScaleNs relativeTimestamp
        ((clusterState clusterTimestamp timestampScaleNs opusTrack).framesToPackets
          relativeTimestamp.toInt frames) ↔
      FitsTickCounter clusterTimestamp timestampScaleNs relativeTimestamp durations := by
  have hlength : frames.length = durations.length := (length_of_mapM hdurations).symm
  have hlaced : frames.zip durations ≠ [] := by
    rw [← List.length_pos_iff, List.length_zip, ← hlength, min_self, List.length_pos_iff]
    exact hframes
  have hcluster := clusterTimestamp.toNat_lt
  have hrelative := relativeTimestamp.toInt_lt
  have hbound : blockTicks clusterTimestamp relativeTimestamp < 2 ^ 65 := by
    unfold blockTicks
    omega
  have hticks : ((clusterState clusterTimestamp timestampScaleNs opusTrack).clusterTimestamp : ℤ) +
      relativeTimestamp.toInt = blockTicks clusterTimestamp relativeTimestamp := rfl
  rw [WebmDemuxState.framesToPackets_eq hframes hdurations]
  by_cases hneg : blockTicks clusterTimestamp relativeTimestamp < 0
  · rw [WebmDemuxState.blockTimestampSamples, hticks, if_pos hneg]
    exact iff_of_true (exactOrRejected_error _) (.inl hneg)
  have hnonneg := not_lt.mp hneg
  rw [WebmDemuxState.blockTimestampSamples_eq (hticks ▸ hnonneg), hticks]
  have hmod : 0 ≤ blockTicks clusterTimestamp relativeTimestamp % 2 ^ 64 := by omega
  have hstart := roundedSamples_nonneg timestampScaleNs.toNat hmod
  have hscale : (clusterState clusterTimestamp timestampScaleNs opusTrack).timestampScaleNs =
      timestampScaleNs.toNat := rfl
  rw [hscale]
  by_cases hlarge : 2 ^ 64 ≤ roundedSamples
      (blockTicks clusterTimestamp relativeTimestamp % 2 ^ 64) timestampScaleNs.toNat
  · rw [if_pos hlarge]
    exact iff_of_true (exactOrRejected_error _) (.inr (.inl hlarge))
  rw [if_neg hlarge]
  refine (exactOrRejected_ok_iff hlaced (by omega) hnonneg).trans ?_
  rw [sum_zip_dropLast hlength, Int.toNat_of_nonneg hstart, roundedSamples_mod_eq_iff hnonneg hbound]
  constructor
  · rintro ⟨hfits, hrange⟩
    have heq := (roundedSamples_mod_eq_iff hnonneg hbound).mpr hfits
    exact .inr (.inr ⟨hfits, by omega⟩)
  · rintro (hneg' | hlarge' | ⟨hfits, hrange⟩)
    · exact absurd hneg' hneg
    · exact absurd hlarge' hlarge
    · have heq := (roundedSamples_mod_eq_iff hnonneg hbound).mpr hfits
      exact ⟨hfits, by omega⟩

theorem block_timestamps_exact_iff_first :
    ExactOrRejected 7 1000000 (-2)
      ((clusterState 7 1000000 none).framesToPackets (Int16.toInt (-2)) [[0xF8, 0xFF, 0xFE]]) := by
  have hdurations : [([0xF8, 0xFF, 0xFE] : Bytes)].mapM opusPacketDuration = some [⟨20, 960⟩] := rfl
  apply (block_timestamps_exact_iff 7 1000000 (-2) none (List.cons_ne_nil _ _) hdurations).mpr
  refine .inr (.inr ⟨.inl (by decide), ?_⟩)
  rw [roundedSamples_eq]
  decide

/-- One tick past the end of the counter the block starts at zero. -/
theorem tick_counter_wraps : ¬ ExactOrRejected 18446744073709551615 1000000 1
    ((clusterState 18446744073709551615 1000000 none).framesToPackets (Int16.toInt 1)
      [[0xF8, 0xFF, 0xFE]]) := by
  intro h
  have hlarge : 2 ^ 64 ≤ roundedSamples (blockTicks 18446744073709551615 1)
      (UInt64.toNat 1000000) := by
    rw [roundedSamples_eq]
    decide +kernel
  obtain ⟨e, he⟩ := h.rejected (.inr hlarge)
  have haccepted : (clusterState 18446744073709551615 1000000 none).framesToPackets (Int16.toInt 1)
      [[0xF8, 0xFF, 0xFE]] = .ok [⟨[0xF8, 0xFF, 0xFE], 0, 0, 20, 960⟩] := by decide +kernel
  rw [haccepted] at he
  cases he

end DiscordVoice.Playback
