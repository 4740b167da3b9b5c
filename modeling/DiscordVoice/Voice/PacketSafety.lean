import DiscordVoice.Checked
import DiscordVoice.Fallible
import DiscordVoice.Voice.Protection

namespace DiscordVoice.Voice

namespace Indexed

/-- The length the first byte and the extension announce, as the rest of the receive side with every
index, slice and subtraction of the source checked. -/
def rtpHeaderLen (packet : Bytes) (extension : Bool) (csrcCount : UInt8) : Checked VoiceError ℕ :=
  let headerLen := 12 + csrcCount.toNat * 4
  if packet.length < headerLen then .error (.invalidState "voice rtp csrc list truncated")
  else if extension then
    if packet.length < headerLen + 4 then
      .error (.invalidState "voice rtp extension header truncated")
    else do
      let extensionLenWords := fromBeBytes16 (← .index packet (headerLen + 2))
        (← .index packet (headerLen + 3))
      let headerLen := headerLen + (4 + extensionLenWords.toNat * 4)
      if packet.length < headerLen then .error (.invalidState "voice rtp extension truncated")
      else return headerLen
  else return headerLen

def parseRtpHeader (packet : Bytes) : Checked VoiceError RtpHeader :=
  if packet.length < 12 then .error (.invalidState "voice rtp packet too short")
  else do
    let first ← .index packet 0
    let version := first >>> 6
    if version ≠ 2 then .error (.invalidState "voice rtp version unsupported")
    else do
      let padding : Bool := first &&& 0b00100000 ≠ 0
      let extension : Bool := first &&& 0b00010000 ≠ 0
      let csrcCount := first &&& 0b00001111
      let second ← .index packet 1
      let marker : Bool := second &&& 0b10000000 ≠ 0
      let payloadType := second &&& 0b01111111
      let headerLen ← rtpHeaderLen packet extension csrcCount
      let sequence := fromBeBytes16 (← .index packet 2) (← .index packet 3)
      let timestamp := fromBeBytes32 (← .index packet 4) (← .index packet 5)
        (← .index packet 6) (← .index packet 7)
      let ssrc := fromBeBytes32 (← .index packet 8) (← .index packet 9)
        (← .index packet 10) (← .index packet 11)
      return { version, padding, extension, csrcCount, marker, payloadType, sequence, timestamp,
               ssrc, headerLen }

/-- `nonce[..nonce_suffix.len()].copy_from_slice(nonce_suffix)` over a zero nonce. -/
def copyNonce (mode : EncryptionMode) (nonceSuffix : Bytes) : Checked VoiceError Bytes := do
  let nonce := List.replicate (nonceLength mode) 0
  let _ ← Checked.sliceTo nonce nonceSuffix.length
  return nonceSuffix ++ nonce.drop nonceSuffix.length

/-- `Tag::from_slice(tag)` -/
def tagFromSlice (tag : Bytes) : Checked VoiceError Bytes :=
  if tag.length = 16 then .ok tag else .panicked

def subLen (a b : ℕ) : Checked VoiceError ℕ := if b ≤ a then .ok (a - b) else .panicked

/-- `packet.get(header.header_len..)` answers `None` past the end. -/
def unprotectPacket (opener : AeadOpener) (p : ProtectionContext) (packet : Bytes) :
    Checked VoiceError (RtpHeader × Bytes) := do
  let header ← parseRtpHeader packet
  if packet.length < header.headerLen then
    .error (.invalidState "voice protected packet truncated")
  else do
    let protectedBody := packet.drop header.headerLen
    if protectedBody.length < protectionTagLen + protectionNonceSuffixLen then
      .error (.invalidState "voice protected packet body too short")
    else do
      let (ciphertextAndTag, nonceSuffix) ←
        .splitAt protectedBody (← subLen protectedBody.length protectionNonceSuffixLen)
      let (ciphertext, tag) ←
        .splitAt ciphertextAndTag (← subLen ciphertextAndTag.length protectionTagLen)
      let headerBytes ← .sliceTo packet header.headerLen
      if p.secretKey.length ≠ 32 then
        .error (.invalidState "voice packet protection key invalid")
      else do
        let nonce ← copyNonce p.mode nonceSuffix
        let tag ← tagFromSlice tag
        match opener.decryptInPlaceDetached p.mode p.secretKey nonce headerBytes ciphertext tag with
        | none => .error (.invalidState "voice packet unprotect failed")
        | some plaintext =>
          if header.padding then
            match plaintext.getLast? with
            | none => .error (.invalidState "voice rtp padding invalid")
            | some last =>
              let paddingLen := last.toNat
              if paddingLen = 0 ∨ paddingLen > plaintext.length then
                .error (.invalidState "voice rtp padding invalid")
              else do
                let kept ← subLen plaintext.length paddingLen
                return (header, plaintext.take kept)
          else return (header, plaintext)

end Indexed

theorem indexed_rtpHeaderLen (packet : Bytes) (first : UInt8) :
    Indexed.rtpHeaderLen packet (first &&& 0b00010000 ≠ 0) (first &&& 0b00001111) =
      .ofExcept (rtpHeaderLen packet first) := by
  simp only [Indexed.rtpHeaderLen, rtpHeaderLen]
  generalize 12 + (first &&& 0b00001111).toNat * 4 = n
  by_cases hsources : packet.length < n
  · rw [if_pos hsources, if_pos hsources]
    rfl
  rw [if_neg hsources, if_neg hsources]
  by_cases hextension : first &&& 0b00010000 ≠ 0
  · have hlen : packet.length = n + (packet.drop n).length := by
      rw [List.length_drop]
      omega
    rw [if_pos (decide_eq_true hextension), if_pos hextension, Checked.index_add,
      Checked.index_add, hlen]
    rcases packet.drop n with _ | ⟨a, _ | ⟨b, _ | ⟨high, _ | ⟨low, rest⟩⟩⟩⟩
    case cons.cons.cons.cons =>
      simp only [List.length_cons, Checked.index_cons_succ, Checked.index_cons_zero,
        Checked.ok_bind, ← Nat.add_assoc]
      rw [if_neg (by omega)]
      split
      next => rfl
      next => rfl
    all_goals
      simp only [List.length_cons, List.length_nil]
      rw [if_pos (by omega)]
      rfl
  · rw [if_neg (by simpa using hextension), if_neg hextension]
    rfl

theorem parseRtpHeader_short {packet : Bytes} (h : packet.length < 12) :
    parseRtpHeader packet = .error (.invalidState "voice rtp packet too short") := by
  unfold parseRtpHeader
  split
  next =>
    simp only [List.length_cons] at h
    omega
  next => rfl

theorem exists_twelve {packet : Bytes} (h : ¬ packet.length < 12) :
    ∃ first second s₀ s₁ t₀ t₁ t₂ t₃ c₀ c₁ c₂ c₃ rest, packet =
      first :: second :: s₀ :: s₁ :: t₀ :: t₁ :: t₂ :: t₃ :: c₀ :: c₁ :: c₂ :: c₃ :: rest := by
  have hlong : 12 ≤ packet.length := Nat.le_of_not_lt h
  refine ⟨packet[0], packet[1], packet[2], packet[3], packet[4], packet[5], packet[6], packet[7],
    packet[8], packet[9], packet[10], packet[11], packet.drop 12, ?_⟩
  simp only [List.getElem_cons_drop, List.drop_zero]

theorem indexed_parseRtpHeader (packet : Bytes) :
    Indexed.parseRtpHeader packet = .ofExcept (parseRtpHeader packet) := by
  by_cases hshort : packet.length < 12
  · rw [Indexed.parseRtpHeader, if_pos hshort, parseRtpHeader_short hshort]
    rfl
  rw [Indexed.parseRtpHeader, if_neg hshort]
  obtain ⟨first, second, s₀, s₁, t₀, t₁, t₂, t₃, c₀, c₁, c₂, c₃, rest, rfl⟩ := exists_twelve hshort
  simp only [parseRtpHeader, Checked.index_cons_zero, Checked.index_cons_succ, Checked.ok_bind]
  by_cases hversion : first >>> 6 ≠ 2
  · rw [if_pos hversion, if_pos hversion]
    rfl
  rw [if_neg hversion, if_neg hversion, indexed_rtpHeaderLen]
  cases rtpHeaderLen _ first with
  | error e => rfl
  | ok headerLen => rfl

theorem copyNonce_eq (mode : EncryptionMode) {nonceSuffix : Bytes}
    (h : nonceSuffix.length = protectionNonceSuffixLen) :
    Indexed.copyNonce mode nonceSuffix = .ok (cipherNonce mode nonceSuffix) := by
  have hfits : nonceSuffix.length ≤ (List.replicate (nonceLength mode) (0 : UInt8)).length := by
    rw [h, List.length_replicate]
    cases mode <;> decide
  rw [Indexed.copyNonce, Checked.sliceTo_of_le hfits, h, cipherNonce]
  simp only [Checked.ok_bind, Checked.pure_eq, List.drop_replicate]
  rfl

theorem subLen_of_le {a b : ℕ} (h : b ≤ a) : Indexed.subLen a b = .ok (a - b) := if_pos h

theorem checked_removePadding (header : RtpHeader) (plaintext : Bytes) :
    (if header.padding then
      match plaintext.getLast? with
      | none => .error (.invalidState "voice rtp padding invalid")
      | some last =>
        let paddingLen := last.toNat
        if paddingLen = 0 ∨ paddingLen > plaintext.length then
          .error (.invalidState "voice rtp padding invalid")
        else do
          let kept ← Indexed.subLen plaintext.length paddingLen
          return (header, plaintext.take kept)
      else return (header, plaintext)) =
      Checked.ofExcept ((removePadding header plaintext).map fun payload ↦ (header, payload)) := by
  unfold removePadding
  split
  next =>
    cases plaintext.getLast? with
    | none => rfl
    | some last =>
      have hzero : last.toNat = 0 ↔ last = 0 := by
        rw [← UInt8.toNat_inj]
        rfl
      simp only [gt_iff_lt, hzero]
      split
      next => rfl
      next hkept =>
        rw [not_or, Nat.not_lt] at hkept
        rw [subLen_of_le hkept.2]
        rfl
  next => rfl

/-- No index, slice or subtraction of `unprotect_packet` leaves the datagram. -/
theorem indexed_unprotectPacket (opener : AeadOpener) (p : ProtectionContext) (packet : Bytes) :
    Indexed.unprotectPacket opener p packet = .ofExcept (unprotectPacket opener p packet) := by
  rw [Indexed.unprotectPacket, indexed_parseRtpHeader, unprotectPacket, readProtectedPacket]
  cases parseRtpHeader packet with
  | error e => rfl
  | ok header =>
    simp only [Checked.ofExcept_ok, Checked.ok_bind, Fallible.except_ok_bind]
    by_cases htruncated : packet.length < header.headerLen
    · rw [if_pos htruncated, if_pos htruncated]
      rfl
    rw [if_neg htruncated, if_neg htruncated, splitProtectedBody]
    generalize hbody : packet.drop header.headerLen = body
    by_cases hshort : body.length < protectionTagLen + protectionNonceSuffixLen
    · rw [if_pos hshort, if_pos hshort]
      rfl
    have hsuffix : protectionNonceSuffixLen ≤ body.length := by omega
    have htag : protectionTagLen ≤ (body.take (body.length - protectionNonceSuffixLen)).length := by
      rw [List.length_take]
      omega
    have hsuffixLen : (body.drop (body.length - protectionNonceSuffixLen)).length =
        protectionNonceSuffixLen := by
      rw [List.length_drop]
      omega
    have htagLen : ((body.take (body.length - protectionNonceSuffixLen)).drop
        ((body.take (body.length - protectionNonceSuffixLen)).length - protectionTagLen)).length =
        16 := by
      rw [List.length_drop, Nat.sub_sub_self htag]
      rfl
    rw [if_neg hshort, if_neg hshort, subLen_of_le hsuffix, Checked.ok_bind,
      Checked.splitAt_of_le (Nat.sub_le _ _), Checked.ok_bind]
    simp only [subLen_of_le htag, Checked.ok_bind, Checked.splitAt_of_le (Nat.sub_le _ _),
      Checked.sliceTo_of_le (Nat.le_of_not_lt htruncated), p.keyLength,
      copyNonce_eq p.mode hsuffixLen, Indexed.tagFromSlice, if_pos htagLen, ne_eq,
      not_true_eq_false, if_false, Fallible.except_ok_bind, pure_bind]
    cases opener.decryptInPlaceDetached _ _ _ _ _ _ with
    | none => rfl
    | some plaintext =>
      refine (checked_removePadding header plaintext).trans ?_
      dsimp only
      cases removePadding header plaintext with
      | error e => rfl
      | ok payload => rfl

def rtpHeaderExtent (packet : Bytes) : ℕ :=
  let first := packet.headD 0
  let sources := 12 + 4 * (first &&& 0b00001111).toNat
  if first &&& 0b00010000 ≠ 0 then
    sources + 4 + 4 * (fromBeBytes16 (packet.getD (sources + 2) 0) (packet.getD (sources + 3) 0)).toNat
  else sources

theorem rtpHeaderLen_ok_iff {packet : Bytes} {first : UInt8} {n : ℕ}
    (hfirst : packet.headD 0 = first) :
    rtpHeaderLen packet first = .ok n ↔
      rtpHeaderExtent packet ≤ packet.length ∧ n = rtpHeaderExtent packet := by
  simp only [rtpHeaderLen, rtpHeaderExtent, hfirst, Nat.mul_comm _ 4]
  generalize 12 + 4 * (first &&& 0b00001111).toNat = m
  by_cases hsources : packet.length < m
  · rw [if_pos hsources]
    simp only [reduceCtorEq, false_iff, not_and]
    intro hlong
    split at hlong
    next => omega
    next => omega
  rw [if_neg hsources]
  by_cases hextension : first &&& 0b00010000 ≠ 0
  · have hlen : packet.length = m + (packet.drop m).length := by
      rw [List.length_drop]
      omega
    have hget : ∀ i, packet.getD (m + i) 0 = (packet.drop m).getD i 0 := by
      intro i
      simp only [List.getD_eq_getElem?_getD, List.getElem?_drop]
    rw [if_pos hextension, if_pos hextension, hget, hget, hlen]
    rcases packet.drop m with _ | ⟨a, _ | ⟨b, _ | ⟨high, _ | ⟨low, rest⟩⟩⟩⟩
    case cons.cons.cons.cons =>
      simp only [List.getD_cons_succ, List.getD_cons_zero]
      split
      next hshort =>
        simp only [reduceCtorEq, false_iff, not_and]
        omega
      next hlong =>
        rw [Except.ok.injEq]
        omega
    all_goals
      simp only [List.length_cons, List.length_nil, reduceCtorEq, false_iff, not_and]
      omega
  · rw [if_neg hextension, if_neg hextension, Except.ok.injEq]
    omega

theorem twelve_le_rtpHeaderExtent (packet : Bytes) : 12 ≤ rtpHeaderExtent packet := by
  simp only [rtpHeaderExtent]
  split
  next => omega
  next => omega

theorem parseRtpHeader_eq_map {packet : Bytes} (hlong : ¬ packet.length < 12)
    (hversion : packet.headD 0 >>> 6 = 2) :
    ∃ header : ℕ → RtpHeader, (∀ n, (header n).headerLen = n) ∧
      parseRtpHeader packet = (rtpHeaderLen packet (packet.headD 0)).map header := by
  obtain ⟨first, second, s₀, s₁, t₀, t₁, t₂, t₃, c₀, c₁, c₂, c₃, rest, rfl⟩ := exists_twelve hlong
  rw [List.headD_cons] at hversion
  refine ⟨fun headerLen ↦ {
    version := first >>> 6
    padding := first &&& 0b00100000 ≠ 0
    extension := first &&& 0b00010000 ≠ 0
    csrcCount := first &&& 0b00001111
    marker := second &&& 0b10000000 ≠ 0
    payloadType := second &&& 0b01111111
    sequence := fromBeBytes16 s₀ s₁
    timestamp := fromBeBytes32 t₀ t₁ t₂ t₃
    ssrc := fromBeBytes32 c₀ c₁ c₂ c₃
    headerLen }, fun n ↦ rfl, ?_⟩
  rw [parseRtpHeader, if_neg (not_not.mpr hversion), List.headD_cons]
  cases rtpHeaderLen _ first with
  | error e => rfl
  | ok headerLen => rfl

theorem version_of_parseRtpHeader {packet : Bytes} {header : RtpHeader}
    (h : parseRtpHeader packet = .ok header) :
    ¬ packet.length < 12 ∧ packet.headD 0 >>> 6 = 2 := by
  have hlong : ¬ packet.length < 12 := by
    intro hshort
    rw [parseRtpHeader_short hshort] at h
    cases h
  refine ⟨hlong, ?_⟩
  obtain ⟨first, second, s₀, s₁, t₀, t₁, t₂, t₃, c₀, c₁, c₂, c₃, rest, rfl⟩ := exists_twelve hlong
  by_contra hversion
  rw [List.headD_cons] at hversion
  rw [parseRtpHeader, if_pos hversion] at h
  cases h

theorem headerLen_of_parseRtpHeader {packet : Bytes} {header : RtpHeader}
    (h : parseRtpHeader packet = .ok header) :
    rtpHeaderExtent packet ≤ packet.length ∧ header.headerLen = rtpHeaderExtent packet := by
  obtain ⟨hlong, hversion⟩ := version_of_parseRtpHeader h
  obtain ⟨build, hbuild, hparse⟩ := parseRtpHeader_eq_map hlong hversion
  cases hlen : rtpHeaderLen packet (packet.headD 0) with
  | error e =>
    rw [hparse, hlen] at h
    cases h
  | ok n =>
    rw [hparse, hlen] at h
    cases h
    rw [hbuild]
    exact (rtpHeaderLen_ok_iff rfl).mp hlen

/-- A packet is accepted when its version is two and it is as long as its header says. -/
theorem parseRtpHeader_ok_iff {packet : Bytes} :
    (∃ header, parseRtpHeader packet = .ok header) ↔
      packet.headD 0 >>> 6 = 2 ∧ rtpHeaderExtent packet ≤ packet.length := by
  constructor
  · rintro ⟨header, h⟩
    exact ⟨(version_of_parseRtpHeader h).2, (headerLen_of_parseRtpHeader h).1⟩
  · rintro ⟨hversion, hextent⟩
    have hlong : ¬ packet.length < 12 := by
      have := twelve_le_rtpHeaderExtent packet
      omega
    obtain ⟨build, -, hparse⟩ := parseRtpHeader_eq_map hlong hversion
    have hlen := (rtpHeaderLen_ok_iff (n := rtpHeaderExtent packet) rfl).mpr ⟨hextent, rfl⟩
    exact ⟨build (rtpHeaderExtent packet), by rw [hparse, hlen]; rfl⟩

/-- The payload is the plaintext without the padding its last byte announces, if it has one. -/
def Unpadded (header : RtpHeader) (plaintext payload : Bytes) : Prop :=
  (header.padding = false ∧ payload = plaintext) ∨
  ∃ paddingLen, plaintext.getLast? = some paddingLen ∧ 0 < paddingLen.toNat ∧
    paddingLen.toNat ≤ plaintext.length ∧
    payload = plaintext.take (plaintext.length - paddingLen.toNat)

theorem removePadding_ok {header : RtpHeader} {plaintext payload : Bytes}
    (h : removePadding header plaintext = .ok payload) : Unpadded header plaintext payload := by
  unfold removePadding at h
  split at h
  next hpadding =>
    split at h
    next => cases h
    next paddingLen hlast =>
      split at h
      next => cases h
      next hkept =>
        rw [not_or, Nat.not_lt] at hkept
        cases h
        refine .inr ⟨paddingLen, hlast, Nat.pos_of_ne_zero ?_, hkept.2, rfl⟩
        intro hzero
        exact hkept.1 (UInt8.toNat_inj.mp hzero)
  next hpadding =>
    cases h
    exact .inl ⟨Bool.eq_false_iff.mpr hpadding, rfl⟩

/-- What is known of the two ciphers: they encrypt, their tags are sixteen bytes long, and
decryption undoes encryption under the same key, nonce and header. -/
structure SoundCiphers (aead : Aead) (opener : AeadOpener) : Prop where
  encrypts : ∀ mode key nonce header payload,
    (aead.encryptInPlaceDetached mode key nonce header payload).isSome
  tagged : aead.Tagged
  opens : Opens aead opener

theorem protectPacket_ok {aead : Aead} {opener : AeadOpener} (h : SoundCiphers aead opener)
    (p : ProtectionContext) (rtpHeader payload : Bytes) :
    ∃ bytes p', protectPacket aead p rtpHeader payload = (.ok bytes, p') := by
  obtain ⟨⟨ciphertext, tag⟩, hsealed⟩ := Option.isSome_iff_exists.mp
    (h.encrypts p.mode p.secretKey (beBytes32 p.nextNonce ++ List.replicate (nonceLength p.mode - 4) 0)
      rtpHeader payload)
  exact ⟨_, _, by rw [protectPacket, hsealed]⟩

theorem unprotectPacket_unpadded {opener : AeadOpener} {p : ProtectionContext} {packet : Bytes}
    {header : RtpHeader} {payload : Bytes}
    (h : unprotectPacket opener p packet = .ok (header, payload)) :
    ∃ body plaintext, readProtectedPacket packet = .ok (header, body) ∧
      opener.decryptInPlaceDetached p.mode p.secretKey (cipherNonce p.mode body.nonceSuffix)
        (packet.take header.headerLen) body.ciphertext body.tag = some plaintext ∧
      Unpadded header plaintext payload := by
  obtain ⟨⟨header', body⟩, hread, hopened⟩ := Fallible.except_bind_ok_iff.mp h
  dsimp only at hopened
  split at hopened
  next => cases hopened
  next plaintext hplain =>
    obtain ⟨payload', hpadding, hpair⟩ := Fallible.except_bind_ok_iff.mp hopened
    cases hpair
    exact ⟨body, plaintext, hread, hplain, removePadding_ok hpadding⟩

/-- A protected packet comes back as it was, and the receive side is safe on every datagram. -/
theorem packet_protection_sound {aead : Aead} {opener : AeadOpener}
    (hciphers : SoundCiphers aead opener) :
    (∀ (p q : ProtectionContext) (ssrc : UInt32) (c : RtpSequenceState) (payload : Bytes),
      q.mode = p.mode → q.secretKey = p.secretKey →
        ∃ bytes p' header, protectPacket aead p (buildHeader ssrc c) payload = (.ok bytes, p') ∧
          Indexed.unprotectPacket opener q bytes = .ok (header, payload) ∧
          header.ssrc = ssrc ∧ header.sequence = c.sequence ∧ header.timestamp = c.timestamp ∧
          header.headerLen = 12) ∧
    (∀ packet : Bytes, (Indexed.parseRtpHeader packet).Safe ∧
      ((∃ header, Indexed.parseRtpHeader packet = .ok header) ↔
        packet.headD 0 >>> 6 = 2 ∧ rtpHeaderExtent packet ≤ packet.length) ∧
      ∀ header, Indexed.parseRtpHeader packet = .ok header →
        header.headerLen = rtpHeaderExtent packet) ∧
    (∀ (receiver : AeadOpener) (p : ProtectionContext) (packet : Bytes),
      (Indexed.unprotectPacket receiver p packet).Safe ∧
      ∀ header payload, Indexed.unprotectPacket receiver p packet = .ok (header, payload) →
        ∃ body plaintext, readProtectedPacket packet = .ok (header, body) ∧
          receiver.decryptInPlaceDetached p.mode p.secretKey (cipherNonce p.mode body.nonceSuffix)
            (packet.take header.headerLen) body.ciphertext body.tag = some plaintext ∧
          Unpadded header plaintext payload) := by
  refine ⟨?_, ?_, ?_⟩
  · intro p q ssrc c payload hmode hkey
    obtain ⟨bytes, p', hprotect⟩ := protectPacket_ok hciphers p (buildHeader ssrc c) payload
    refine ⟨bytes, p', builtHeader ssrc c, hprotect, ?_, rfl, rfl, rfl, rfl⟩
    rw [indexed_unprotectPacket,
      unprotectPacket_protectPacket hciphers.tagged hciphers.opens hmode hkey hprotect]
    rfl
  · intro packet
    rw [indexed_parseRtpHeader]
    refine ⟨Checked.safe_ofExcept _, ?_, ?_⟩
    · simp only [Checked.ofExcept_eq_ok]
      exact parseRtpHeader_ok_iff
    · intro header h
      exact (headerLen_of_parseRtpHeader (Checked.ofExcept_eq_ok.mp h)).2
  · intro receiver p packet
    rw [indexed_unprotectPacket]
    refine ⟨Checked.safe_ofExcept _, ?_⟩
    intro header payload h
    exact unprotectPacket_unpadded (Checked.ofExcept_eq_ok.mp h)

/-- A cipher that leaves the plaintext as it is and appends a tag of zeros. -/
def zeroTagAead : Aead := ⟨fun _ _ _ _ payload ↦ some (payload, List.replicate 16 0)⟩

def zeroTagOpener : AeadOpener := ⟨fun _ _ _ _ ciphertext _ ↦ some ciphertext⟩

theorem zeroTag_sound : SoundCiphers zeroTagAead zeroTagOpener where
  encrypts _ _ _ _ _ := rfl
  tagged := by
    intro mode key nonce header payload ciphertext tag h
    simp only [zeroTagAead, Option.some.injEq, Prod.mk.injEq] at h
    rw [← h.2]
    rfl
  opens := by
    intro mode key nonce header payload ciphertext tag h
    simp only [zeroTagAead, Option.some.injEq, Prod.mk.injEq] at h
    simp only [zeroTagOpener, h.1]

theorem packet_protection_sound_zeroTag :
    (∀ packet : Bytes, (Indexed.parseRtpHeader packet).Safe) ∧
    (∃ header, Indexed.unprotectPacket zeroTagOpener
      ⟨.aeadAes256GcmRtpsize, List.replicate 32 1, 0, List.length_replicate⟩
      (buildHeader 7 ⟨1, 960⟩ ++ [5, 6] ++ List.replicate 16 0 ++ [0, 0, 0, 9]) =
        .ok (header, [5, 6])) := by
  have hsound := packet_protection_sound zeroTag_sound
  refine ⟨fun packet ↦ (hsound.2.1 packet).1, ?_⟩
  obtain ⟨bytes, p', header, hprotect, hopen, -⟩ :=
    hsound.1 ⟨.aeadAes256GcmRtpsize, List.replicate 32 1, 9, List.length_replicate⟩
      ⟨.aeadAes256GcmRtpsize, List.replicate 32 1, 0, List.length_replicate⟩ 7 ⟨1, 960⟩ [5, 6]
      rfl rfl
  cases hprotect
  exact ⟨header, hopen⟩

end DiscordVoice.Voice
