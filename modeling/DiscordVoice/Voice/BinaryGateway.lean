import DiscordVoice.Voice.Wire

namespace DiscordVoice.Voice

/-- The gateway events that arrive as binary messages, with everything the message carries. -/
inductive BinaryGatewayEvent
  | daveMlsExternalSenderPackage (externalSender : Bytes)
  | daveMlsProposals (operation : DaveMlsProposalsOperation) (proposals : Bytes)
  | daveMlsPrepareCommitTransition (transitionId : UInt16) (commit : Bytes)
  | daveMlsWelcome (transitionId : UInt16) (welcome : Bytes)
  deriving DecidableEq, Repr

structure VoiceGatewayPayload where
  event : BinaryGatewayEvent
  seq : Option UInt64
  deriving DecidableEq, Repr

def parseDaveProposalsOperation (value : UInt8) : Except VoiceError DaveMlsProposalsOperation :=
  if value = 0 then .ok .append
  else if value = 1 then .ok .revoke
  else .error (.invalidState "voice dave proposals operation invalid")

def unsupportedBinaryGatewayOpError (op : UInt8) : VoiceError := .unsupportedBinaryGatewayOp op

/-- The arms of the match on the opcode. -/
def parseBinaryEvent (bytes : Bytes) (opcode : UInt8) : Checked VoiceError BinaryGatewayEvent :=
  if opcode = 25 then do
    return .daveMlsExternalSenderPackage (← .sliceFrom bytes 3)
  else if opcode = 27 then
    if bytes.length < 4 then .error (.invalidState "voice dave proposals payload too short")
    else do
      let operation ← .ofExcept (parseDaveProposalsOperation (← .index bytes 3))
      return .daveMlsProposals operation (← .sliceFrom bytes 4)
  else if opcode = 29 then
    if bytes.length < 5 then
      .error (.invalidState "voice dave prepare commit transition payload too short")
    else do
      let transitionId := fromBeBytes16 (← .index bytes 3) (← .index bytes 4)
      return .daveMlsPrepareCommitTransition transitionId (← .sliceFrom bytes 5)
  else if opcode = 30 then
    if bytes.length < 5 then .error (.invalidState "voice dave welcome payload too short")
    else do
      let transitionId := fromBeBytes16 (← .index bytes 3) (← .index bytes 4)
      return .daveMlsWelcome transitionId (← .sliceFrom bytes 5)
  else .error (unsupportedBinaryGatewayOpError opcode)

def parseGatewayBinaryMessage (bytes : Bytes) : Checked VoiceError VoiceGatewayPayload :=
  if bytes.length < 3 then .error (.invalidState "voice gateway binary payload too short")
  else do
    let seq := (fromBeBytes16 (← .index bytes 0) (← .index bytes 1)).toUInt64
    let event ← parseBinaryEvent bytes (← .index bytes 2)
    return ⟨event, some seq⟩

def operationByte : DaveMlsProposalsOperation → UInt8
  | .append => 0
  | .revoke => 1

/-- The layout of a binary message after its sequence number. -/
def BinaryGatewayEvent.encode : BinaryGatewayEvent → Bytes
  | .daveMlsExternalSenderPackage externalSender => 25 :: externalSender
  | .daveMlsProposals operation proposals => 27 :: operationByte operation :: proposals
  | .daveMlsPrepareCommitTransition transitionId commit => 29 :: beBytes16 transitionId ++ commit
  | .daveMlsWelcome transitionId welcome => 30 :: beBytes16 transitionId ++ welcome

def VoiceGatewayPayload.encode (p : VoiceGatewayPayload) : Bytes :=
  beBytes16 (p.seq.getD 0).toUInt16 ++ p.event.encode

/-- The binary messages of the gateway and what each of them says. -/
inductive BinaryMessage : Bytes → VoiceGatewayPayload → Prop
  | externalSender (seq : UInt16) (rest : Bytes) :
    BinaryMessage (beBytes16 seq ++ 25 :: rest)
      ⟨.daveMlsExternalSenderPackage rest, some seq.toUInt64⟩
  | appendProposals (seq : UInt16) (rest : Bytes) :
    BinaryMessage (beBytes16 seq ++ 27 :: 0 :: rest)
      ⟨.daveMlsProposals .append rest, some seq.toUInt64⟩
  | revokeProposals (seq : UInt16) (rest : Bytes) :
    BinaryMessage (beBytes16 seq ++ 27 :: 1 :: rest)
      ⟨.daveMlsProposals .revoke rest, some seq.toUInt64⟩
  | prepareCommit (seq transitionId : UInt16) (rest : Bytes) :
    BinaryMessage (beBytes16 seq ++ 29 :: beBytes16 transitionId ++ rest)
      ⟨.daveMlsPrepareCommitTransition transitionId rest, some seq.toUInt64⟩
  | welcome (seq transitionId : UInt16) (rest : Bytes) :
    BinaryMessage (beBytes16 seq ++ 30 :: beBytes16 transitionId ++ rest)
      ⟨.daveMlsWelcome transitionId rest, some seq.toUInt64⟩

theorem parseDaveProposalsOperation_ok_iff {value : UInt8}
    {operation : DaveMlsProposalsOperation} :
    parseDaveProposalsOperation value = .ok operation ↔ value = operationByte operation := by
  unfold parseDaveProposalsOperation
  split
  next hzero =>
    subst hzero
    cases operation <;> simp [operationByte]
  next hzero =>
    split
    next hone =>
      subst hone
      cases operation <;> simp [operationByte]
    next hone => cases operation <;> simp [operationByte, hzero, hone]

theorem fromBeBytes16_beBytes16 {a b : UInt8} {n : UInt16} :
    fromBeBytes16 a b = n ↔ [a, b] = beBytes16 n := by
  constructor
  · rintro rfl
    exact (beBytes16_fromBeBytes16 a b).symm
  · intro h
    simp only [beBytes16, List.cons.injEq, and_true] at h
    obtain ⟨rfl, rfl⟩ := h
    exact fromBeBytes16_split n

def readEvent (opcode : UInt8) (rest : Bytes) : Except VoiceError BinaryGatewayEvent :=
  if opcode = 25 then .ok (.daveMlsExternalSenderPackage rest)
  else if opcode = 27 then
    match rest with
    | [] => .error (.invalidState "voice dave proposals payload too short")
    | value :: proposals =>
      (parseDaveProposalsOperation value).map fun operation ↦ .daveMlsProposals operation proposals
  else if opcode = 29 then
    match rest with
    | a :: b :: commit => .ok (.daveMlsPrepareCommitTransition (fromBeBytes16 a b) commit)
    | _ => .error (.invalidState "voice dave prepare commit transition payload too short")
  else if opcode = 30 then
    match rest with
    | a :: b :: welcome => .ok (.daveMlsWelcome (fromBeBytes16 a b) welcome)
    | _ => .error (.invalidState "voice dave welcome payload too short")
  else .error (unsupportedBinaryGatewayOpError opcode)

/-- No arm indexes behind the end of the message. -/
theorem parseBinaryEvent_eq (s₀ s₁ opcode : UInt8) (rest : Bytes) :
    parseBinaryEvent (s₀ :: s₁ :: opcode :: rest) opcode = .ofExcept (readEvent opcode rest) := by
  unfold parseBinaryEvent readEvent
  by_cases hsender : opcode = 25
  · simp [hsender]
  by_cases hproposals : opcode = 27
  · subst hproposals
    cases rest with
    | nil => simp
    | cons value proposals =>
      cases hoperation : parseDaveProposalsOperation value with
      | error e => simp [hoperation, Except.map]
      | ok operation => simp [hoperation, Except.map]
  by_cases hcommit : opcode = 29
  · subst hcommit
    match rest with
    | [] => simp
    | [_] => simp
    | _ :: _ :: commit => simp
  by_cases hwelcome : opcode = 30
  · subst hwelcome
    match rest with
    | [] => simp
    | [_] => simp
    | _ :: _ :: welcome => simp
  simp [hsender, hproposals, hcommit, hwelcome]

theorem readEvent_ok_iff {opcode : UInt8} {rest : Bytes} {event : BinaryGatewayEvent} :
    readEvent opcode rest = .ok event ↔ opcode :: rest = event.encode := by
  unfold readEvent
  by_cases hsender : opcode = 25
  · subst hsender
    cases event <;> simp [BinaryGatewayEvent.encode]
  by_cases hproposals : opcode = 27
  · subst hproposals
    cases rest with
    | nil => cases event <;> simp [BinaryGatewayEvent.encode]
    | cons value proposals =>
      have hread : ∀ operation, parseDaveProposalsOperation value = .ok operation ↔
          value = operationByte operation := fun _ ↦ parseDaveProposalsOperation_ok_iff
      cases hvalue : parseDaveProposalsOperation value with
      | error e =>
        simp only [hvalue, reduceCtorEq, false_iff] at hread
        cases event <;> simp [BinaryGatewayEvent.encode, Except.map, hvalue, hread]
      | ok operation =>
        simp only [hvalue, Except.ok.injEq] at hread
        cases event <;> simp [BinaryGatewayEvent.encode, Except.map, hvalue, ← hread]
  by_cases hcommit : opcode = 29
  · subst hcommit
    match rest with
    | [] => cases event <;> simp [BinaryGatewayEvent.encode, beBytes16]
    | [_] => cases event <;> simp [BinaryGatewayEvent.encode, beBytes16]
    | a :: b :: commit =>
      cases event <;>
        simp [BinaryGatewayEvent.encode, fromBeBytes16_beBytes16, beBytes16, and_assoc]
  by_cases hwelcome : opcode = 30
  · subst hwelcome
    match rest with
    | [] => cases event <;> simp [BinaryGatewayEvent.encode, beBytes16]
    | [_] => cases event <;> simp [BinaryGatewayEvent.encode, beBytes16]
    | a :: b :: welcome =>
      cases event <;>
        simp [BinaryGatewayEvent.encode, fromBeBytes16_beBytes16, beBytes16, and_assoc]
  cases event <;>
    simp [BinaryGatewayEvent.encode, hsender, hproposals, hcommit, hwelcome]

theorem parseGatewayBinaryMessage_cons (s₀ s₁ opcode : UInt8) (rest : Bytes) :
    parseGatewayBinaryMessage (s₀ :: s₁ :: opcode :: rest) =
      .ofExcept ((readEvent opcode rest).map fun event ↦
        ⟨event, some (fromBeBytes16 s₀ s₁).toUInt64⟩) := by
  have hlong : ¬ (s₀ :: s₁ :: opcode :: rest).length < 3 := by
    simp only [List.length_cons]
    omega
  simp only [parseGatewayBinaryMessage, if_neg hlong, Checked.index_cons_zero,
    Checked.index_cons_succ, Checked.ok_bind, parseBinaryEvent_eq]
  cases readEvent opcode rest with
  | error e => rfl
  | ok event => rfl

theorem parseGatewayBinaryMessage_safe (bytes : Bytes) :
    (parseGatewayBinaryMessage bytes).Safe := by
  match bytes with
  | s₀ :: s₁ :: opcode :: rest =>
    rw [parseGatewayBinaryMessage_cons]
    exact Checked.safe_ofExcept _
  | [] => exact Checked.safe_error _
  | [_] => exact Checked.safe_error _
  | [_, _] => exact Checked.safe_error _

theorem toUInt16_toUInt64 (n : UInt16) : n.toUInt64.toUInt16 = n := by
  apply UInt16.toNat_inj.mp
  have hn := n.toNat_lt
  simp only [UInt64.toNat_toUInt16, UInt16.toNat_toUInt64]
  omega

theorem parseGatewayBinaryMessage_ok_iff {bytes : Bytes} {payload : VoiceGatewayPayload} :
    parseGatewayBinaryMessage bytes = .ok payload ↔
      ∃ seq : UInt16, payload.seq = some seq.toUInt64 ∧
        bytes = beBytes16 seq ++ payload.event.encode := by
  constructor
  · intro h
    match bytes with
    | s₀ :: s₁ :: opcode :: rest =>
      rw [parseGatewayBinaryMessage_cons, Checked.ofExcept_eq_ok] at h
      cases hread : readEvent opcode rest with
      | error e => simp [hread, Except.map] at h
      | ok event =>
        simp only [hread, Except.map, Except.ok.injEq] at h
        subst h
        refine ⟨fromBeBytes16 s₀ s₁, rfl, ?_⟩
        rw [beBytes16_fromBeBytes16, ← readEvent_ok_iff.mp hread]
        rfl
    | [] => cases h
    | [_] => cases h
    | [_, _] => cases h
  · rintro ⟨seq, hseq, rfl⟩
    obtain ⟨event, seq'⟩ := payload
    obtain ⟨opcode, rest, hevent⟩ : ∃ opcode rest, event.encode = opcode :: rest := by
      cases event <;> exact ⟨_, _, rfl⟩
    simp only at hseq hevent ⊢
    subst hseq
    rw [hevent, beBytes16, List.cons_append, List.cons_append, List.nil_append,
      parseGatewayBinaryMessage_cons, fromBeBytes16_split, readEvent_ok_iff.mpr hevent.symm]
    rfl

theorem encode_of_parse {bytes : Bytes} {payload : VoiceGatewayPayload}
    (h : parseGatewayBinaryMessage bytes = .ok payload) : payload.encode = bytes := by
  obtain ⟨seq, hseq, rfl⟩ := parseGatewayBinaryMessage_ok_iff.mp h
  rw [VoiceGatewayPayload.encode, hseq, Option.getD_some, toUInt16_toUInt64]

theorem binaryMessage_iff {bytes : Bytes} {payload : VoiceGatewayPayload} :
    BinaryMessage bytes payload ↔
      ∃ seq : UInt16, payload.seq = some seq.toUInt64 ∧
        bytes = beBytes16 seq ++ payload.event.encode := by
  constructor
  · intro h
    cases h with
    | externalSender seq rest => exact ⟨seq, rfl, rfl⟩
    | appendProposals seq rest => exact ⟨seq, rfl, rfl⟩
    | revokeProposals seq rest => exact ⟨seq, rfl, rfl⟩
    | prepareCommit seq transitionId rest => exact ⟨seq, rfl, rfl⟩
    | welcome seq transitionId rest => exact ⟨seq, rfl, rfl⟩
  · obtain ⟨event, seq'⟩ := payload
    rintro ⟨seq, hseq, rfl⟩
    simp only at hseq
    subst hseq
    cases event with
    | daveMlsExternalSenderPackage rest => exact .externalSender seq rest
    | daveMlsProposals operation rest =>
      cases operation with
      | append => exact .appendProposals seq rest
      | revoke => exact .revokeProposals seq rest
    | daveMlsPrepareCommitTransition transitionId rest => exact .prepareCommit seq transitionId rest
    | daveMlsWelcome transitionId rest => exact .welcome seq transitionId rest

/-- The parser accepts the binary messages of the gateway with their meaning and no others, what it
returns gives the message back, and it returns on every input. -/
theorem binary_gateway_exact :
    (∀ bytes payload, parseGatewayBinaryMessage bytes = .ok payload ↔
      BinaryMessage bytes payload) ∧
    (∀ bytes payload, parseGatewayBinaryMessage bytes = .ok payload → payload.encode = bytes) ∧
    (∀ bytes bytes' payload, parseGatewayBinaryMessage bytes = .ok payload →
      parseGatewayBinaryMessage bytes' = .ok payload → bytes = bytes') ∧
    (∀ bytes, (parseGatewayBinaryMessage bytes).Safe) := by
  refine ⟨?_, ?_, ?_, parseGatewayBinaryMessage_safe⟩
  · intro bytes payload
    rw [parseGatewayBinaryMessage_ok_iff, binaryMessage_iff]
  · intro bytes payload h
    exact encode_of_parse h
  · intro bytes bytes' payload h h'
    rw [← encode_of_parse h, ← encode_of_parse h']

theorem binary_gateway_exact_welcome :
    parseGatewayBinaryMessage [0, 7, 30, 1, 2, 9] =
      .ok ⟨.daveMlsWelcome 258 [9], some 7⟩ :=
  (binary_gateway_exact.1 _ _).mpr (.welcome 7 258 [9])

end DiscordVoice.Voice
