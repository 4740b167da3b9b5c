import DiscordVoice.Voice.Transport

namespace DiscordVoice.Voice

def protectionTagLen : ℕ := 16

def protectionNonceSuffixLen : ℕ := 4

def fromBeBytes16 (a b : UInt8) : UInt16 := (a.toUInt16 <<< 8) ||| b.toUInt16

def fromBeBytes32 (a b c d : UInt8) : UInt32 :=
  (a.toUInt32 <<< 24) ||| (b.toUInt32 <<< 16) ||| (c.toUInt32 <<< 8) ||| d.toUInt32

theorem mul_pow_or {a b k : ℕ} (h : b < 2 ^ k) : a * 2 ^ k ||| b = a * 2 ^ k + b := by
  rw [← Nat.shiftLeft_eq]
  exact (Nat.shiftLeft_add_eq_or_of_lt h a).symm

theorem fromBeBytes16_split (n : UInt16) : fromBeBytes16 (n >>> 8).toUInt8 n.toUInt8 = n := by
  have hn := n.toNat_lt
  apply UInt16.toNat_inj.mp
  simp only [fromBeBytes16, UInt16.toNat_or, UInt16.toNat_shiftLeft, UInt8.toNat_toUInt16,
    UInt16.toNat_toUInt8, UInt16.toNat_shiftRight, Nat.shiftRight_eq_div_pow, Nat.shiftLeft_eq,
    UInt16.reduceToNat, Nat.reduceMod]
  rw [Nat.mod_eq_of_lt (by omega), mul_pow_or (by omega)]
  omega

theorem fromBeBytes32_split (n : UInt32) :
    fromBeBytes32 (n >>> 24).toUInt8 (n >>> 16).toUInt8 (n >>> 8).toUInt8 n.toUInt8 = n := by
  have hn := n.toNat_lt
  apply UInt32.toNat_inj.mp
  simp only [fromBeBytes32, UInt32.toNat_or, UInt32.toNat_shiftLeft, UInt8.toNat_toUInt32,
    UInt32.toNat_toUInt8, UInt32.toNat_shiftRight, Nat.shiftRight_eq_div_pow, Nat.shiftLeft_eq,
    UInt32.reduceToNat, Nat.reduceMod]
  rw [Nat.mod_eq_of_lt (a := n.toNat / 2 ^ 24 % 2 ^ 8 * 2 ^ 24) (by omega),
    Nat.mod_eq_of_lt (a := n.toNat / 2 ^ 16 % 2 ^ 8 * 2 ^ 16) (by omega),
    Nat.mod_eq_of_lt (a := n.toNat / 2 ^ 8 % 2 ^ 8 * 2 ^ 8) (by omega),
    mul_pow_or (k := 24) (by omega),
    show n.toNat / 2 ^ 24 % 2 ^ 8 * 2 ^ 24 + n.toNat / 2 ^ 16 % 2 ^ 8 * 2 ^ 16 =
      n.toNat / 2 ^ 16 * 2 ^ 16 by omega,
    mul_pow_or (k := 16) (by omega),
    show n.toNat / 2 ^ 16 * 2 ^ 16 + n.toNat / 2 ^ 8 % 2 ^ 8 * 2 ^ 8 =
      n.toNat / 2 ^ 8 * 2 ^ 8 by omega,
    mul_pow_or (k := 8) (by omega)]
  omega

theorem beBytes32_injective : Function.Injective beBytes32 := by
  intro m n h
  simp only [beBytes32, List.cons.injEq, and_true] at h
  obtain ⟨ha, hb, hc, hd⟩ := h
  rw [← fromBeBytes32_split m, ha, hb, hc, hd, fromBeBytes32_split]

structure RtpHeader where
  version : UInt8
  padding : Bool
  extension : Bool
  csrcCount : UInt8
  marker : Bool
  payloadType : UInt8
  sequence : UInt16
  timestamp : UInt32
  ssrc : UInt32
  headerLen : ℕ
  deriving DecidableEq, Repr

/-- Where the payload of a packet with the given first byte starts. -/
def rtpHeaderLen (packet : Bytes) (first : UInt8) : Except VoiceError ℕ :=
  let headerLen := 12 + (first &&& 0b00001111).toNat * 4
  if packet.length < headerLen then
    .error (.invalidState "voice rtp csrc list truncated")
  else if first &&& 0b00010000 ≠ 0 then
    match packet.drop headerLen with
    | _ :: _ :: high :: low :: _ =>
      let headerLen := headerLen + 4 + (fromBeBytes16 high low).toNat * 4
      if packet.length < headerLen then
        .error (.invalidState "voice rtp extension truncated")
      else .ok headerLen
    | _ => .error (.invalidState "voice rtp extension header truncated")
  else .ok headerLen

def parseRtpHeader (packet : Bytes) : Except VoiceError RtpHeader :=
  match packet with
  | first :: second :: s₀ :: s₁ :: t₀ :: t₁ :: t₂ :: t₃ :: c₀ :: c₁ :: c₂ :: c₃ :: _ =>
    if first >>> 6 ≠ 2 then .error (.invalidState "voice rtp version unsupported")
    else do
      let headerLen ← rtpHeaderLen packet first
      return {
        version := first >>> 6
        padding := first &&& 0b00100000 ≠ 0
        extension := first &&& 0b00010000 ≠ 0
        csrcCount := first &&& 0b00001111
        marker := second &&& 0b10000000 ≠ 0
        payloadType := second &&& 0b01111111
        sequence := fromBeBytes16 s₀ s₁
        timestamp := fromBeBytes32 t₀ t₁ t₂ t₃
        ssrc := fromBeBytes32 c₀ c₁ c₂ c₃
        headerLen }
  | _ => .error (.invalidState "voice rtp packet too short")

def builtHeader (ssrc : UInt32) (c : RtpSequenceState) : RtpHeader where
  version := 2
  padding := false
  extension := false
  csrcCount := 0
  marker := false
  payloadType := 0x78
  sequence := c.sequence
  timestamp := c.timestamp
  ssrc := ssrc
  headerLen := 12

@[simp] theorem buildHeader_length (ssrc : UInt32) (c : RtpSequenceState) :
    (buildHeader ssrc c).length = 12 := rfl

theorem parseRtpHeader_buildHeader (ssrc : UInt32) (c : RtpSequenceState) (rest : Bytes) :
    parseRtpHeader (buildHeader ssrc c ++ rest) = .ok (builtHeader ssrc c) := by
  have hlen : rtpHeaderLen (buildHeader ssrc c ++ rest) 0x80 = .ok 12 := by
    have hlong : ¬ (buildHeader ssrc c ++ rest).length < 12 := by simp
    have hsources : ((0x80 : UInt8) &&& 0b00001111).toNat = 0 := by decide
    have hplain : ¬ ((0x80 : UInt8) &&& 0b00010000 ≠ 0) := by decide
    simp only [rtpHeaderLen, hsources, zero_mul, add_zero, if_neg hlong, if_neg hplain]
  change (do
    let headerLen ← rtpHeaderLen (buildHeader ssrc c ++ rest) 0x80
    return _ : Except VoiceError RtpHeader) = _
  rw [hlen]
  change Except.ok _ = _
  rw [fromBeBytes16_split, fromBeBytes32_split, fromBeBytes32_split]
  rfl

structure ProtectedBody where
  ciphertext : Bytes
  tag : Bytes
  nonceSuffix : Bytes
  deriving DecidableEq, Repr

def splitProtectedBody (body : Bytes) : Except VoiceError ProtectedBody :=
  if body.length < protectionTagLen + protectionNonceSuffixLen then
    .error (.invalidState "voice protected packet body too short")
  else
    let ciphertextAndTag := body.take (body.length - protectionNonceSuffixLen)
    .ok {
      ciphertext := ciphertextAndTag.take (ciphertextAndTag.length - protectionTagLen)
      tag := ciphertextAndTag.drop (ciphertextAndTag.length - protectionTagLen)
      nonceSuffix := body.drop (body.length - protectionNonceSuffixLen) }

def readProtectedPacket (packet : Bytes) : Except VoiceError (RtpHeader × ProtectedBody) := do
  let header ← parseRtpHeader packet
  if packet.length < header.headerLen then
    throw (.invalidState "voice protected packet truncated")
  let body ← splitProtectedBody (packet.drop header.headerLen)
  return (header, body)

/-- The detached AEAD decryption of the two cipher crates. -/
structure AeadOpener where
  decryptInPlaceDetached :
    EncryptionMode → Bytes → Bytes → Bytes → Bytes → Bytes → Option Bytes

def cipherNonce (mode : EncryptionMode) (nonceSuffix : Bytes) : Bytes :=
  nonceSuffix ++ List.replicate (nonceLength mode - 4) 0

def removePadding (header : RtpHeader) (plaintext : Bytes) : Except VoiceError Bytes :=
  if header.padding then
    match plaintext.getLast? with
    | none => .error (.invalidState "voice rtp padding invalid")
    | some paddingLen =>
      if paddingLen = 0 ∨ plaintext.length < paddingLen.toNat then
        .error (.invalidState "voice rtp padding invalid")
      else .ok (plaintext.take (plaintext.length - paddingLen.toNat))
  else .ok plaintext

def unprotectPacket (opener : AeadOpener) (p : ProtectionContext) (packet : Bytes) :
    Except VoiceError (RtpHeader × Bytes) := do
  let (header, body) ← readProtectedPacket packet
  match opener.decryptInPlaceDetached p.mode p.secretKey (cipherNonce p.mode body.nonceSuffix)
      (packet.take header.headerLen) body.ciphertext body.tag with
  | none => throw (.invalidState "voice packet unprotect failed")
  | some plaintext => return (header, ← removePadding header plaintext)

def ProtectionContext.new (mode : EncryptionMode) (secretKey : Bytes) :
    Except VoiceError ProtectionContext :=
  if h : secretKey.length = 32 then .ok ⟨mode, secretKey, 0, h⟩
  else .error (.invalidState "voice packet protection key invalid")

/-- The tags of both ciphers are sixteen bytes long. -/
def Aead.Tagged (aead : Aead) : Prop :=
  ∀ mode key nonce header payload ciphertext tag,
    aead.encryptInPlaceDetached mode key nonce header payload = some (ciphertext, tag) →
      tag.length = protectionTagLen

/-- What one call of `protect_packet` hands to the cipher. -/
structure ProtectCall where
  nonceSuffix : Bytes
  rtpHeader : Bytes
  payload : Bytes
  deriving DecidableEq, Repr

def ProtectionContext.protectCall (p : ProtectionContext) (rtpHeader payload : Bytes) :
    ProtectCall :=
  ⟨beBytes32 p.nextNonce, rtpHeader, payload⟩

/-- The cipher applied to what a call hands to it, and the packet made of its answer. -/
def ProtectCall.run (call : ProtectCall) (aead : Aead) (mode : EncryptionMode) (key : Bytes) :
    Option Bytes :=
  (aead.encryptInPlaceDetached mode key (cipherNonce mode call.nonceSuffix) call.rtpHeader
    call.payload).map fun (ciphertext, tag) ↦
      call.rtpHeader ++ ciphertext ++ tag ++ call.nonceSuffix

/-- Protecting a packet is that one call, and the counter moves on whatever the cipher answers. -/
theorem protectPacket_eq_run (aead : Aead) (p : ProtectionContext) (rtpHeader payload : Bytes) :
    protectPacket aead p rtpHeader payload =
      (((p.protectCall rtpHeader payload).run aead p.mode p.secretKey).elim
        (.error (.invalidState "voice packet protection failed")) .ok,
        { p with nextNonce := p.nextNonce + 1 }) := by
  simp only [protectPacket, ProtectCall.run, ProtectionContext.protectCall, cipherNonce]
  cases aead.encryptInPlaceDetached p.mode p.secretKey _ rtpHeader payload with
  | none => rfl
  | some sealed => rfl

theorem splitProtectedBody_append {ciphertext tag suffix : Bytes}
    (htag : tag.length = protectionTagLen) (hsuffix : suffix.length = protectionNonceSuffixLen) :
    splitProtectedBody (ciphertext ++ tag ++ suffix) = .ok ⟨ciphertext, tag, suffix⟩ := by
  have hlong : ¬ (ciphertext ++ tag ++ suffix).length < protectionTagLen + protectionNonceSuffixLen := by
    simp only [List.length_append]
    omega
  have hbody : (ciphertext ++ tag ++ suffix).length - protectionNonceSuffixLen =
      (ciphertext ++ tag).length := by
    rw [List.length_append, hsuffix, Nat.add_sub_cancel]
  have hsealed : (ciphertext ++ tag).length - protectionTagLen = ciphertext.length := by
    rw [List.length_append, htag, Nat.add_sub_cancel]
  simp only [splitProtectedBody, if_neg hlong, hbody, List.take_left, List.drop_left, hsealed]

theorem readProtectedPacket_append (ssrc : UInt32) (c : RtpSequenceState)
    (ciphertext : Bytes) {tag suffix : Bytes} (htag : tag.length = protectionTagLen)
    (hsuffix : suffix.length = protectionNonceSuffixLen) :
    readProtectedPacket (buildHeader ssrc c ++ ciphertext ++ tag ++ suffix) =
      .ok (builtHeader ssrc c, ⟨ciphertext, tag, suffix⟩) := by
  have hpacket : buildHeader ssrc c ++ ciphertext ++ tag ++ suffix =
      buildHeader ssrc c ++ (ciphertext ++ tag ++ suffix) := by
    simp only [List.append_assoc]
  have hlong : ¬ (buildHeader ssrc c ++ (ciphertext ++ tag ++ suffix)).length < 12 := by simp
  rw [hpacket, readProtectedPacket, parseRtpHeader_buildHeader]
  change (do
    if (buildHeader ssrc c ++ (ciphertext ++ tag ++ suffix)).length < 12 then
      throw (.invalidState "voice protected packet truncated")
    let body ← splitProtectedBody ((buildHeader ssrc c ++ (ciphertext ++ tag ++ suffix)).drop 12)
    return (builtHeader ssrc c, body) : Except VoiceError _) = _
  rw [if_neg hlong, show (12 : ℕ) = (buildHeader ssrc c).length from rfl, List.drop_left,
    splitProtectedBody_append htag hsuffix]
  rfl

/-- Decryption undoes encryption under the same key, nonce and header. -/
def Opens (aead : Aead) (opener : AeadOpener) : Prop :=
  ∀ mode key nonce header payload ciphertext tag,
    aead.encryptInPlaceDetached mode key nonce header payload = some (ciphertext, tag) →
      opener.decryptInPlaceDetached mode key nonce header ciphertext tag = some payload

/-- A listener that holds the key gets back the frame that was protected. -/
theorem unprotectPacket_protectPacket {aead : Aead} {opener : AeadOpener}
    (htagged : aead.Tagged) (hopens : Opens aead opener) {p p' q : ProtectionContext}
    (hmode : q.mode = p.mode) (hkey : q.secretKey = p.secretKey) {ssrc : UInt32}
    {c : RtpSequenceState} {payload bytes : Bytes}
    (h : protectPacket aead p (buildHeader ssrc c) payload = (.ok bytes, p')) :
    unprotectPacket opener q bytes = .ok (builtHeader ssrc c, payload) := by
  rw [protectPacket_eq_run] at h
  cases hrun : aead.encryptInPlaceDetached p.mode p.secretKey
      (cipherNonce p.mode (beBytes32 p.nextNonce)) (buildHeader ssrc c) payload with
  | none => simp [ProtectCall.run, ProtectionContext.protectCall, hrun] at h
  | some sealed =>
    obtain ⟨ciphertext, tag⟩ := sealed
    simp only [ProtectCall.run, ProtectionContext.protectCall, hrun, Option.map_some,
      Option.elim_some, Prod.mk.injEq, Except.ok.injEq] at h
    obtain ⟨rfl, -⟩ := h
    have hread := readProtectedPacket_append ssrc c ciphertext
      (htagged _ _ _ _ _ _ _ hrun) (show (beBytes32 p.nextNonce).length = _ from rfl)
    have hopen := hopens _ _ _ _ _ _ _ hrun
    have hheader : (buildHeader ssrc c ++ ciphertext ++ tag ++ beBytes32 p.nextNonce).take
        (builtHeader ssrc c).headerLen = buildHeader ssrc c := by
      rw [List.append_assoc, List.append_assoc]
      have hlen : (builtHeader ssrc c).headerLen = (buildHeader ssrc c).length := rfl
      rw [hlen, List.take_left]
    rw [unprotectPacket, hread]
    change (match opener.decryptInPlaceDetached q.mode q.secretKey
        (cipherNonce q.mode (beBytes32 p.nextNonce))
        ((buildHeader ssrc c ++ ciphertext ++ tag ++ beBytes32 p.nextNonce).take
          (builtHeader ssrc c).headerLen) ciphertext tag with
      | none => throw (.invalidState "voice packet unprotect failed")
      | some plaintext => do
        return (builtHeader ssrc c, ← removePadding (builtHeader ssrc c) plaintext)
        : Except VoiceError _) = _
    rw [hheader, hmode, hkey, hopen]
    rfl

end DiscordVoice.Voice
