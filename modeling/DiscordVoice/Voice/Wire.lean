import DiscordVoice.Checked
import DiscordVoice.Playback.HttpStream
import DiscordVoice.Voice.Protection
import DiscordVoice.Voice.Session

namespace DiscordVoice.Voice

theorem beBytes16_fromBeBytes16 (a b : UInt8) : beBytes16 (fromBeBytes16 a b) = [a, b] := by
  have ha := a.toNat_lt
  have hb := b.toNat_lt
  have hn : (fromBeBytes16 a b).toNat = a.toNat * 2 ^ 8 + b.toNat := by
    simp only [fromBeBytes16, UInt16.toNat_or, UInt16.toNat_shiftLeft, UInt8.toNat_toUInt16,
      Nat.shiftLeft_eq, UInt16.reduceToNat, Nat.reduceMod]
    rw [Nat.mod_eq_of_lt (by omega), mul_pow_or (by omega)]
  simp only [beBytes16, List.cons.injEq, and_true]
  constructor
  · apply UInt8.toNat_inj.mp
    simp only [UInt16.toNat_toUInt8, UInt16.toNat_shiftRight, hn, Nat.shiftRight_eq_div_pow,
      UInt16.reduceToNat, Nat.reduceMod]
    omega
  · apply UInt8.toNat_inj.mp
    simp only [UInt16.toNat_toUInt8, hn]
    omega

theorem fromBeBytes32_toNat (a b c d : UInt8) : (fromBeBytes32 a b c d).toNat =
    a.toNat * 2 ^ 24 + b.toNat * 2 ^ 16 + c.toNat * 2 ^ 8 + d.toNat := by
  have ha := a.toNat_lt
  have hb := b.toNat_lt
  have hc := c.toNat_lt
  have hd := d.toNat_lt
  simp only [fromBeBytes32, UInt32.toNat_or, UInt32.toNat_shiftLeft, UInt8.toNat_toUInt32,
    Nat.shiftLeft_eq, UInt32.reduceToNat, Nat.reduceMod]
  rw [Nat.mod_eq_of_lt (a := a.toNat * 2 ^ 24) (by omega),
    Nat.mod_eq_of_lt (a := b.toNat * 2 ^ 16) (by omega),
    Nat.mod_eq_of_lt (a := c.toNat * 2 ^ 8) (by omega), mul_pow_or (k := 24) (by omega),
    show a.toNat * 2 ^ 24 + b.toNat * 2 ^ 16 = (a.toNat * 2 ^ 8 + b.toNat) * 2 ^ 16 by omega,
    mul_pow_or (k := 16) (by omega),
    show (a.toNat * 2 ^ 8 + b.toNat) * 2 ^ 16 + c.toNat * 2 ^ 8 =
      (a.toNat * 2 ^ 16 + b.toNat * 2 ^ 8 + c.toNat) * 2 ^ 8 by omega,
    mul_pow_or (k := 8) (by omega)]

theorem beBytes32_fromBeBytes32 (a b c d : UInt8) :
    beBytes32 (fromBeBytes32 a b c d) = [a, b, c, d] := by
  have ha := a.toNat_lt
  have hb := b.toNat_lt
  have hc := c.toNat_lt
  have hd := d.toNat_lt
  have hn := fromBeBytes32_toNat a b c d
  simp only [beBytes32, List.cons.injEq, and_true]
  refine ⟨?_, ?_, ?_, ?_⟩
  all_goals
    apply UInt8.toNat_inj.mp
    simp only [UInt32.toNat_toUInt8, UInt32.toNat_shiftRight, hn, Nat.shiftRight_eq_div_pow,
      UInt32.reduceToNat, Nat.reduceMod]
    omega

def lenBytes : ℕ := 4

def packCommitWelcome (commit : Bytes) (welcome : Option Bytes) : Bytes :=
  let welcome := welcome.getD []
  beBytes32 (UInt32.ofNat commit.length) ++ commit ++
    beBytes32 (UInt32.ofNat welcome.length) ++ welcome

def takeExact (input : Bytes) (len : ℕ) : Checked DaveError (Bytes × Bytes) :=
  if input.length < len then .error .malformedCommitWelcome
  else .splitAt input len

/-- `u32::from_be_bytes(len.try_into().expect("u32 length prefix"))` -/
def lengthPrefix : Bytes → Checked DaveError UInt32
  | [a, b, c, d] => .ok (fromBeBytes32 a b c d)
  | _ => .panicked

def readLenPrefixed (input : Bytes) : Checked DaveError (ℕ × Bytes) := do
  let (len, rest) ← takeExact input lenBytes
  let len ← lengthPrefix len
  return (len.toNat, rest)

def unpackCommitWelcome (commitWelcome : Bytes) : Checked DaveError (Bytes × Bytes) := do
  let (commitLen, rest) ← readLenPrefixed commitWelcome
  let (commit, rest) ← takeExact rest commitLen
  let (welcomeLen, rest) ← readLenPrefixed rest
  let (welcome, rest) ← takeExact rest welcomeLen
  if rest ≠ [] then .error .malformedCommitWelcome
  else return (commit, welcome)

/-- The gateway message made of a framed commit and welcome. -/
def daveMlsCommitWelcomePayload (commitWelcome : Bytes) : Checked Empty Bytes := do
  let (commit, welcome) ← (unpackCommitWelcome commitWelcome).expect
  return 28 :: commit ++ welcome

theorem takeExact_ok_iff {input a b : Bytes} {len : ℕ} :
    takeExact input len = .ok (a, b) ↔ input = a ++ b ∧ a.length = len := by
  unfold takeExact
  split
  next hshort =>
    simp only [reduceCtorEq, false_iff, not_and]
    rintro rfl hlen
    rw [List.length_append] at hshort
    omega
  next hlong =>
    have hle : len ≤ input.length := Nat.le_of_not_lt hlong
    rw [Checked.splitAt_of_le hle, Checked.ok.injEq, Prod.mk.injEq]
    constructor
    · rintro ⟨rfl, rfl⟩
      exact ⟨(List.take_append_drop len input).symm, List.length_take_of_le hle⟩
    · rintro ⟨rfl, rfl⟩
      exact ⟨List.take_left, List.drop_left⟩

theorem takeExact_safe (input : Bytes) (len : ℕ) : (takeExact input len).Safe := by
  unfold takeExact
  split
  next => exact Checked.safe_error _
  next hlong =>
    rw [Checked.splitAt_of_le (Nat.le_of_not_lt hlong)]
    exact Checked.safe_ok _

theorem lengthPrefix_of_length {len : Bytes} (h : len.length = lenBytes) :
    ∃ n, lengthPrefix len = .ok n ∧ beBytes32 n = len := by
  match len, h with
  | [a, b, c, d], _ => exact ⟨fromBeBytes32 a b c d, rfl, beBytes32_fromBeBytes32 a b c d⟩

@[simp] theorem lengthPrefix_beBytes32 (n : UInt32) : lengthPrefix (beBytes32 n) = .ok n :=
  congrArg Checked.ok (fromBeBytes32_split n)

theorem readLenPrefixed_ok_iff {input rest : Bytes} {n : ℕ} :
    readLenPrefixed input = .ok (n, rest) ↔
      n < 2 ^ 32 ∧ input = beBytes32 (UInt32.ofNat n) ++ rest := by
  constructor
  · intro h
    obtain ⟨⟨len, tail⟩, htake, hread⟩ := Checked.bind_ok_iff.mp h
    obtain ⟨prefixLen, hprefix, hpair⟩ := Checked.bind_ok_iff.mp hread
    obtain ⟨rfl, hlen⟩ := takeExact_ok_iff.mp htake
    obtain ⟨m, hm, hbytes⟩ := lengthPrefix_of_length hlen
    cases hm.symm.trans hprefix
    simp only [Checked.pure_eq, Checked.ok.injEq, Prod.mk.injEq] at hpair
    obtain ⟨rfl, rfl⟩ := hpair
    exact ⟨prefixLen.toNat_lt, by rw [UInt32.ofNat_toNat, hbytes]⟩
  · rintro ⟨hn, rfl⟩
    have htake : takeExact (beBytes32 (UInt32.ofNat n) ++ rest) lenBytes =
        .ok (beBytes32 (UInt32.ofNat n), rest) := takeExact_ok_iff.mpr ⟨rfl, rfl⟩
    rw [readLenPrefixed, htake, Checked.ok_bind]
    simp only [lengthPrefix_beBytes32, Checked.ok_bind, Checked.pure_eq, UInt32.toNat_ofNat',
      Nat.mod_eq_of_lt hn]

theorem readLenPrefixed_safe (input : Bytes) : (readLenPrefixed input).Safe := by
  apply (takeExact_safe input lenBytes).bind
  rintro ⟨len, rest⟩ htake
  obtain ⟨n, hn, -⟩ := lengthPrefix_of_length (takeExact_ok_iff.mp htake).2
  simp [hn]

/-- The decoder accepts the encoder's image and nothing else. -/
theorem unpackCommitWelcome_ok_iff {x commit welcome : Bytes} :
    unpackCommitWelcome x = .ok (commit, welcome) ↔
      commit.length < 2 ^ 32 ∧ welcome.length < 2 ^ 32 ∧
        x = packCommitWelcome commit (some welcome) := by
  constructor
  · intro h
    obtain ⟨⟨commitLen, rest⟩, hcommitLen, h₁⟩ := Checked.bind_ok_iff.mp h
    obtain ⟨⟨c, rest'⟩, hcommit, h₂⟩ := Checked.bind_ok_iff.mp h₁
    obtain ⟨⟨welcomeLen, rest''⟩, hwelcomeLen, h₃⟩ := Checked.bind_ok_iff.mp h₂
    obtain ⟨⟨w, trailing⟩, hwelcome, hend⟩ := Checked.bind_ok_iff.mp h₃
    obtain ⟨hc, rfl⟩ := readLenPrefixed_ok_iff.mp hcommitLen
    obtain ⟨rfl, rfl⟩ := takeExact_ok_iff.mp hcommit
    obtain ⟨hw, rfl⟩ := readLenPrefixed_ok_iff.mp hwelcomeLen
    obtain ⟨rfl, rfl⟩ := takeExact_ok_iff.mp hwelcome
    dsimp only at hend
    split at hend
    next => cases hend
    next htrailing =>
      obtain rfl := not_not.mp htrailing
      cases hend
      refine ⟨hc, hw, ?_⟩
      simp only [packCommitWelcome, Option.getD_some, List.append_assoc, List.append_nil]
  · rintro ⟨hc, hw, rfl⟩
    have hcommitLen : readLenPrefixed (packCommitWelcome commit (some welcome)) =
        .ok (commit.length, commit ++ (beBytes32 (UInt32.ofNat welcome.length) ++ welcome)) := by
      apply readLenPrefixed_ok_iff.mpr
      refine ⟨hc, ?_⟩
      simp only [packCommitWelcome, Option.getD_some, List.append_assoc]
    have hcommit : takeExact (commit ++ (beBytes32 (UInt32.ofNat welcome.length) ++ welcome))
        commit.length = .ok (commit, beBytes32 (UInt32.ofNat welcome.length) ++ welcome) :=
      takeExact_ok_iff.mpr ⟨rfl, rfl⟩
    have hwelcomeLen : readLenPrefixed (beBytes32 (UInt32.ofNat welcome.length) ++ welcome) =
        .ok (welcome.length, welcome) := readLenPrefixed_ok_iff.mpr ⟨hw, rfl⟩
    have hwelcome : takeExact welcome welcome.length = .ok (welcome, []) :=
      takeExact_ok_iff.mpr ⟨(List.append_nil welcome).symm, rfl⟩
    simp [unpackCommitWelcome, hcommitLen, hcommit, hwelcomeLen, hwelcome]

theorem unpackCommitWelcome_safe (x : Bytes) : (unpackCommitWelcome x).Safe := by
  apply (readLenPrefixed_safe x).bind
  rintro ⟨commitLen, rest⟩ -
  apply (takeExact_safe rest commitLen).bind
  rintro ⟨commit, rest⟩ -
  apply (readLenPrefixed_safe rest).bind
  rintro ⟨welcomeLen, rest⟩ -
  apply (takeExact_safe rest welcomeLen).bind
  rintro ⟨welcome, rest⟩ -
  dsimp only
  split
  · exact Checked.safe_error _
  · exact Checked.safe_ok _

theorem packCommitWelcome_getD (commit : Bytes) (welcome : Option Bytes) :
    packCommitWelcome commit welcome = packCommitWelcome commit (some (welcome.getD [])) := rfl

theorem daveMlsCommitWelcomePayload_pack {commit : Bytes} {welcome : Option Bytes}
    (hc : commit.length < 2 ^ 32) (hw : (welcome.getD []).length < 2 ^ 32) :
    daveMlsCommitWelcomePayload (packCommitWelcome commit welcome) =
      .ok (28 :: commit ++ welcome.getD []) := by
  have hunpack : unpackCommitWelcome (packCommitWelcome commit welcome) =
      .ok (commit, welcome.getD []) :=
    unpackCommitWelcome_ok_iff.mpr ⟨hc, hw, packCommitWelcome_getD commit welcome⟩
  rw [daveMlsCommitWelcomePayload, hunpack]
  rfl

/-- The answer of the encryption library to a list of proposals it makes a commit of. -/
structure CommitWelcome where
  commit : Bytes
  welcome : Option Bytes
  deriving DecidableEq, Repr

/-- Both parts fit the length fields of the framing. -/
def CommitWelcome.Framed (c : CommitWelcome) : Prop :=
  c.commit.length < 2 ^ 32 ∧ (c.welcome.getD []).length < 2 ^ 32

/-- `davey::DaveSession`: its answer to proposals, and its state after them. -/
structure Davey where
  Session : Type
  processProposals : Session → DaveMlsProposalsOperation → Bytes → Option (List ℕ) →
    Except String (Option CommitWelcome) × Session

def parseUserId (userId : String) : Except DaveError ℕ :=
  match Playback.parseU64 userId.toList with
  | some id => .ok id
  | none => .error .invalidUserId

def parseUserIds (userIds : List String) : Except DaveError (List ℕ) := userIds.mapM parseUserId

def expectedUserIds (recognizedUserIds : List String) : Except DaveError (Option (List ℕ)) :=
  if recognizedUserIds.length ≤ 1 then .ok none
  else (parseUserIds recognizedUserIds).map some

variable {D : Davey}

/-- The body that `DaveSession` and `DaveRuntimeContext` share. -/
def framedProposals (D : Davey) (session : D.Session) (operation : DaveMlsProposalsOperation)
    (proposals : Bytes) (recognizedUserIds : List String) :
    Except DaveError (Option Bytes) × D.Session :=
  match expectedUserIds recognizedUserIds with
  | .error e => (.error e, session)
  | .ok expected =>
    match D.processProposals session operation proposals expected with
    | (.error _, session') => (.error (.operation "process proposals"), session')
    | (.ok commitWelcome, session') =>
      match operation, commitWelcome with
      | .revoke, none => (.ok none, session')
      | _, some c => (.ok (some (packCommitWelcome c.commit c.welcome)), session')
      | .append, none => (.error (.operation "process proposals"), session')

structure DaveSession (D : Davey) where
  inner : Option D.Session

def DaveSession.processProposalsWithOperation (s : DaveSession D)
    (operation : DaveMlsProposalsOperation) (proposals : Bytes) (recognizedUserIds : List String) :
    Except DaveError (Option Bytes) × DaveSession D :=
  match expectedUserIds recognizedUserIds, s.inner with
  | .error e, _ => (.error e, s)
  | .ok _, none => (.error .notInitialized, s)
  | .ok _, some inner =>
    let (answer, inner) := framedProposals D inner operation proposals recognizedUserIds
    (answer, { s with inner := some inner })

structure DaveRuntimeContext (D : Davey) where
  session : D.Session

def DaveRuntimeContext.processProposalsWithOperation (r : DaveRuntimeContext D)
    (operation : DaveMlsProposalsOperation) (proposals : Bytes) (recognizedUserIds : List String) :
    Except DaveError (Option Bytes) × DaveRuntimeContext D :=
  let (answer, session) := framedProposals D r.session operation proposals recognizedUserIds
  (answer, { r with session })

/-- The library made this commit and welcome of the proposals. -/
def Davey.Answered (D : Davey) (session : D.Session) (operation : DaveMlsProposalsOperation)
    (proposals : Bytes) (recognizedUserIds : List String) (c : CommitWelcome) : Prop :=
  ∃ expected, expectedUserIds recognizedUserIds = .ok expected ∧
    (D.processProposals session operation proposals expected).1 = .ok (some c)

theorem framedProposals_some {session : D.Session} {operation : DaveMlsProposalsOperation}
    {proposals packed : Bytes} {recognizedUserIds : List String}
    (h : (framedProposals D session operation proposals recognizedUserIds).1 = .ok (some packed)) :
    ∃ c, D.Answered session operation proposals recognizedUserIds c ∧
      packed = packCommitWelcome c.commit c.welcome := by
  unfold framedProposals at h
  cases hexpected : expectedUserIds recognizedUserIds with
  | error e => simp [hexpected] at h
  | ok expected =>
    simp only [hexpected] at h
    obtain ⟨answer, session', hanswer⟩ :
        ∃ answer session', D.processProposals session operation proposals expected =
          (answer, session') := ⟨_, _, rfl⟩
    simp only [hanswer] at h
    cases answer with
    | error e => simp at h
    | ok commitWelcome =>
      cases commitWelcome with
      | none => cases operation <;> simp at h
      | some c =>
        have hpacked : packed = packCommitWelcome c.commit c.welcome := by
          cases operation <;> simpa using h.symm
        exact ⟨c, ⟨expected, hexpected, by rw [hanswer]⟩, hpacked⟩

theorem framedProposals_payload {session : D.Session} {operation : DaveMlsProposalsOperation}
    {proposals packed : Bytes} {recognizedUserIds : List String}
    (h : (framedProposals D session operation proposals recognizedUserIds).1 = .ok (some packed)) :
    ∃ c, D.Answered session operation proposals recognizedUserIds c ∧
      (c.Framed → daveMlsCommitWelcomePayload packed =
        .ok (28 :: c.commit ++ c.welcome.getD [])) := by
  obtain ⟨c, hanswered, rfl⟩ := framedProposals_some h
  refine ⟨c, hanswered, ?_⟩
  rintro ⟨hcommit, hwelcome⟩
  exact daveMlsCommitWelcomePayload_pack hcommit hwelcome

theorem DaveSession.framed_of_some {s : DaveSession D} {operation : DaveMlsProposalsOperation}
    {proposals packed : Bytes} {recognizedUserIds : List String}
    (h : (s.processProposalsWithOperation operation proposals recognizedUserIds).1 =
      .ok (some packed)) :
    ∃ inner, s.inner = some inner ∧
      (framedProposals D inner operation proposals recognizedUserIds).1 = .ok (some packed) := by
  unfold DaveSession.processProposalsWithOperation at h
  cases hexpected : expectedUserIds recognizedUserIds with
  | error e => simp [hexpected] at h
  | ok expected =>
    cases hinner : s.inner with
    | none => simp [hexpected, hinner] at h
    | some inner =>
      simp only [hexpected, hinner] at h
      exact ⟨inner, rfl, h⟩

/-- The framing loses nothing, its decoder accepts the encoder's image alone and never panics, and
what the two sessions frame reaches the gateway as a commit followed by its welcome. -/
theorem commit_welcome_lossless (D : Davey) :
    (∀ (commit : Bytes) (welcome : Option Bytes), commit.length < 2 ^ 32 →
      (∀ w ∈ welcome, w.length < 2 ^ 32) →
        unpackCommitWelcome (packCommitWelcome commit welcome) =
          .ok (commit, welcome.getD [])) ∧
    (∀ x commit welcome : Bytes, unpackCommitWelcome x = .ok (commit, welcome) ↔
      commit.length < 2 ^ 32 ∧ welcome.length < 2 ^ 32 ∧
        x = packCommitWelcome commit (some welcome)) ∧
    (∀ x : Bytes, (unpackCommitWelcome x).Safe) ∧
    (∀ (s : DaveSession D) (operation : DaveMlsProposalsOperation) (proposals packed : Bytes)
        (recognizedUserIds : List String),
      (s.processProposalsWithOperation operation proposals recognizedUserIds).1 =
          .ok (some packed) →
        ∃ inner c, s.inner = some inner ∧
          D.Answered inner operation proposals recognizedUserIds c ∧
          (c.Framed → daveMlsCommitWelcomePayload packed =
            .ok (28 :: c.commit ++ c.welcome.getD []))) ∧
    (∀ (r : DaveRuntimeContext D) (operation : DaveMlsProposalsOperation)
        (proposals packed : Bytes) (recognizedUserIds : List String),
      (r.processProposalsWithOperation operation proposals recognizedUserIds).1 =
          .ok (some packed) →
        ∃ c, D.Answered r.session operation proposals recognizedUserIds c ∧
          (c.Framed → daveMlsCommitWelcomePayload packed =
            .ok (28 :: c.commit ++ c.welcome.getD []))) := by
  refine ⟨?_, ?_, unpackCommitWelcome_safe, ?_, ?_⟩
  · intro commit welcome hcommit hwelcome
    have hw : (welcome.getD []).length < 2 ^ 32 := by
      cases welcome with
      | none => simp
      | some w => exact hwelcome w rfl
    exact unpackCommitWelcome_ok_iff.mpr ⟨hcommit, hw, packCommitWelcome_getD commit welcome⟩
  · intro x commit welcome
    exact unpackCommitWelcome_ok_iff
  · intro s operation proposals packed recognizedUserIds h
    obtain ⟨inner, hinner, hframed⟩ := DaveSession.framed_of_some h
    obtain ⟨c, hanswered, hpayload⟩ := framedProposals_payload hframed
    exact ⟨inner, c, hinner, hanswered, hpayload⟩
  · intro r operation proposals packed recognizedUserIds h
    exact framedProposals_payload h

/-- A library that answers every list of proposals with the same short commit. -/
def constantDavey : Davey where
  Session := Unit
  processProposals _ _ _ _ := (.ok (some ⟨[1, 2], some [3]⟩), ())

theorem commit_welcome_lossless_constant :
    unpackCommitWelcome (packCommitWelcome [1, 2] (some [3])) = .ok ([1, 2], [3]) ∧
    daveMlsCommitWelcomePayload (packCommitWelcome [1, 2] (some [3])) = .ok [28, 1, 2, 3] := by
  obtain ⟨hround, -, -, -, hruntime⟩ := commit_welcome_lossless constantDavey
  refine ⟨hround [1, 2] (some [3]) (by decide) (by decide), ?_⟩
  obtain ⟨c, ⟨expected, -, hc⟩, hpayload⟩ :=
    hruntime ⟨()⟩ .append [9] (packCommitWelcome [1, 2] (some [3])) ["7"] rfl
  simp only [constantDavey, Except.ok.injEq, Option.some.injEq] at hc
  subst hc
  exact hpayload ⟨by decide, by decide⟩

end DiscordVoice.Voice
