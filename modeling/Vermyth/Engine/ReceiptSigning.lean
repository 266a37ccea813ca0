import Mathlib.Logic.Relation
import Vermyth.Foundation.Base64
import Vermyth.Grimoire.GossipProof
import Vermyth.Grimoire.ReceiptRows

set_option autoImplicit false

namespace Vermyth

-- separators=(",", ":")
def JsonStyle.tight : JsonStyle where
  itemGap := []
  keyGap := []
  escape := escapeAscii
  itemBlank := JsonStyle.compact.itemBlank
  keyBlank := JsonStyle.compact.keyBlank
  escapeReads := read_escape_ascii

-- receipt_canonical_dict: the dump without the fields of the signature.
def receiptCanonicalDict (codec : ReceiptCodec) (receipt : WholeReceipt) : Json :=
  .obj (["signature", "signing_key_id"].foldl (fun payload key => dictPop key payload) (codec.receiptFields receipt))

def receiptCanonicalBytes (codec : ReceiptCodec) (receipt : WholeReceipt) : ByteArray :=
  (String.ofList (dumps .tight codec.floatRepr (receiptCanonicalDict codec receipt).sorted)).toUTF8

-- What signing rests on outside the repository: the environment, and how
-- cryptography loads, signs and verifies. A key of another kind than Ed25519
-- loads as none.
structure ReceiptSigning where
  signingKey : Option String
  signingKeyId : Option String := none
  PrivateKey : Type
  PublicKey : Type
  loadPrivate : String → Except PyError (Option PrivateKey)
  loadPublic : String → Except PyError (Option PublicKey)
  sign : PrivateKey → ByteArray → List UInt8
  verify : PublicKey → List UInt8 → ByteArray → Bool

def signWholeReceipt (signing : ReceiptSigning) (codec : ReceiptCodec) (receipt : WholeReceipt) :
    Except PyError WholeReceipt :=
  match signing.signingKey with
  | none | some "" => .ok receipt
  | some pem => do
      match ← signing.loadPrivate (pyStrip pem) with
      | none => .error (.valueError "VERMYTH_RECEIPT_SIGNING_KEY must be an Ed25519 private key PEM")
      | some key =>
          let signature := signing.sign key (receiptCanonicalBytes codec receipt)
          return { receipt with
                   signature := some (String.ofList (Foundation.Base64.encode signature))
                   signingKeyId := some (signing.signingKeyId.getD "default") }

def verifyReceiptSignature (signing : ReceiptSigning) (codec : ReceiptCodec) (receipt : WholeReceipt)
    (publicPem : String) : Except PyError Bool :=
  match receipt.signature with
  | none | some "" => .ok false
  | some signature => do
      match ← signing.loadPublic (pyStrip publicPem) with
      | none => .error (.valueError "public key must be Ed25519")
      | some key =>
          match Foundation.Base64.decode signature.toList with
          | none => .error (.valueError "Incorrect padding")
          | some bytes => return signing.verify key bytes (receiptCanonicalBytes codec receipt)

-- Ed25519 taken to be correct and unforgeable: what is signed with the private
-- key verifies with the public one, and only for the message that was signed.
structure ReceiptSigning.Pair (signing : ReceiptSigning) (own : signing.PrivateKey) (other : signing.PublicKey) :
    Prop where
  filled : ∀ message, signing.sign own message ≠ []
  verifies : ∀ message seen, signing.verify other (signing.sign own message) seen = true ↔ seen = message

-- VERMYTH_RECEIPT_SIGNING_KEY holds the one key, and the PEM the other.
structure ReceiptSigning.Configured (signing : ReceiptSigning) (privatePem publicPem : String)
    (own : signing.PrivateKey) (other : signing.PublicKey) : Prop where
  key : signing.signingKey = some privatePem
  given : privatePem ≠ ""
  loadsOwn : signing.loadPrivate (pyStrip privatePem) = .ok (some own)
  loadsOther : signing.loadPublic (pyStrip publicPem) = .ok (some other)

def Stored (codec : ReceiptCodec) (receipt copy : WholeReceipt) : Prop :=
  ∃ (receipts : ReceiptTable) (later : List WholeReceipt) (now : Datetime),
    (∀ other ∈ later, other.receiptId ≠ receipt.receiptId) ∧
    codec.readExecutionReceipt now
      (later.foldl codec.writeExecutionReceipt (codec.writeExecutionReceipt receipts receipt)) receipt.receiptId =
      .ok copy

def Transported (codec : ReceiptCodec) (receipt copy : WholeReceipt) : Prop :=
  ∃ style drawn now value, loads codec.readFloat (dumps style codec.floatRepr (codec.modelDump receipt)) = some value ∧
    codec.modelValidate drawn now value = .ok copy

def Copied (codec : ReceiptCodec) (receipt copy : WholeReceipt) : Prop :=
  Stored codec receipt copy ∨ Transported codec receipt copy

theorem canonical_lookup (codec : ReceiptCodec) (receipt : WholeReceipt) (key : String) (first : key ≠ "signature")
    (second : key ≠ "signing_key_id") :
    (["signature", "signing_key_id"].foldl (fun payload key => dictPop key payload)
      (codec.receiptFields receipt)).lookup key = (codec.receiptFields receipt).lookup key := by
  rw [List.foldl_cons, List.foldl_cons, List.foldl_nil, lookup_dict_pop _ _ _ second, lookup_dict_pop _ _ _ first]

theorem canonical_bytes_sorted (codec : ReceiptCodec) (standard : codec.Standard) (a b : WholeReceipt)
    (same : receiptCanonicalBytes codec a = receiptCanonicalBytes codec b) :
    (receiptCanonicalDict codec a).sorted = (receiptCanonicalDict codec b).sorted := by
  have texts := String.toByteArray_inj.mp same
  exact dumps_injective .tight standard.json _ _ (String.ofList_injective texts)

theorem canonical_bytes_agree (codec : ReceiptCodec) (standard : codec.Standard) (a b : WholeReceipt)
    (wholeA : a.Stamped Datetime.WholeMinutes) (wholeB : b.Stamped Datetime.WholeMinutes)
    (same : receiptCanonicalBytes codec a = receiptCanonicalBytes codec b) : a.Agrees b := by
  have fields := obj_alike _ _ (canonical_bytes_sorted codec standard a b same)
  refine receipt_tells codec standard a b wholeA wholeB fun key first second => ?_
  have field := fields key
  rwa [canonical_lookup codec a key first second, canonical_lookup codec b key first second] at field

theorem stored_read (codec : ReceiptCodec) (standard : codec.Standard) (receipt : WholeReceipt)
    (whole : receipt.Stamped Datetime.WholeMinutes) (receipts : ReceiptTable) (later : List WholeReceipt)
    (now : Datetime) (others : ∀ other ∈ later, other.receiptId ≠ receipt.receiptId) :
    codec.readExecutionReceipt now
      (later.foldl codec.writeExecutionReceipt (codec.writeExecutionReceipt receipts receipt)) receipt.receiptId =
      .ok receipt := by
  rw [read_other_writes codec now _ _ later others, read_written, row_kept codec standard now receipt whole]

theorem dump_loads (codec : ReceiptCodec) (standard : codec.Standard) (style : JsonStyle) (receipt : WholeReceipt) :
    loads codec.readFloat (dumps style codec.floatRepr (codec.modelDump receipt)) = some (codec.modelDump receipt) :=
  loads_dumps style standard.json _ (receipt_distinct codec receipt)

theorem copied_same (codec : ReceiptCodec) (standard : codec.Standard) (receipt copy : WholeReceipt)
    (whole : receipt.Stamped Datetime.WholeMinutes) (copied : Copied codec receipt copy) : copy = receipt := by
  obtain ⟨receipts, later, now, others, read⟩ | ⟨style, drawn, now, value, loaded, validated⟩ := copied
  · rw [stored_read codec standard receipt whole receipts later now others] at read
    exact (Except.ok.inj read).symm
  · rw [dump_loads codec standard style receipt, Option.some.injEq] at loaded
    rw [← loaded, receipt_kept codec standard drawn now receipt whole] at validated
    exact (Except.ok.inj validated).symm

theorem copies_same (codec : ReceiptCodec) (standard : codec.Standard) (receipt copy : WholeReceipt)
    (whole : receipt.Stamped Datetime.WholeMinutes)
    (copied : Relation.ReflTransGen (Copied codec) receipt copy) : copy = receipt := by
  induction copied with
  | refl => rfl
  | @tail before after _ last ih =>
      subst ih
      exact copied_same codec standard before after whole last

theorem sign_whole_receipt (signing : ReceiptSigning) (codec : ReceiptCodec) (privatePem publicPem : String)
    (own : signing.PrivateKey) (other : signing.PublicKey)
    (configured : signing.Configured privatePem publicPem own other) (receipt : WholeReceipt) :
    ∃ signed, signWholeReceipt signing codec receipt = .ok signed ∧
      signed.signature = some (String.ofList (Foundation.Base64.encode
        (signing.sign own (receiptCanonicalBytes codec receipt)))) ∧
      (∀ kind, receipt.Stamped kind → signed.Stamped kind) ∧
      receiptCanonicalBytes codec signed = receiptCanonicalBytes codec receipt := by
  refine ⟨{ receipt with
    signature := some (String.ofList (Foundation.Base64.encode
      (signing.sign own (receiptCanonicalBytes codec receipt))))
    signingKeyId := some (signing.signingKeyId.getD "default") }, ?_, rfl, fun _ stamped => stamped, rfl⟩
  unfold signWholeReceipt
  rw [configured.key]
  split
  · contradiction
  · rename_i empty
    exact absurd (Option.some.inj empty) configured.given
  · rename_i pem _ same
    rw [← Option.some.inj same, configured.loadsOwn]
    rfl

theorem encode_filled (bytes : List UInt8) (filled : bytes ≠ []) :
    String.ofList (Foundation.Base64.encode bytes) ≠ "" := by
  intro empty
  have length := Foundation.Base64.encode_length bytes
  have none : Foundation.Base64.encode bytes = [] := String.ofList_injective (empty.trans String.ofList_nil.symm)
  have some := List.length_pos_iff.mpr filled
  rw [none, List.length_nil] at length
  omega

theorem verify_signed_receipt (signing : ReceiptSigning) (codec : ReceiptCodec) (privatePem publicPem : String)
    (own : signing.PrivateKey) (other : signing.PublicKey)
    (configured : signing.Configured privatePem publicPem own other) (pair : signing.Pair own other)
    (receipt : WholeReceipt) (message : ByteArray)
    (signed : receipt.signature = some (String.ofList (Foundation.Base64.encode (signing.sign own message)))) :
    ∃ verified, verifyReceiptSignature signing codec receipt publicPem = .ok verified ∧
      (verified = true ↔ receiptCanonicalBytes codec receipt = message) := by
  refine ⟨signing.verify other (signing.sign own message) (receiptCanonicalBytes codec receipt), ?_,
    pair.verifies _ _⟩
  unfold verifyReceiptSignature
  rw [signed]
  split
  · contradiction
  · rename_i empty
    exact absurd (Option.some.inj empty) (encode_filled _ (pair.filled message))
  · rename_i signature _ same
    rw [← Option.some.inj same, configured.loadsOther, String.toList_ofList]
    change (match Foundation.Base64.decode (Foundation.Base64.encode (signing.sign own message)) with
      | none => _
      | some bytes => _) = _
    rw [Foundation.Base64.decode_encode]
    rfl

theorem receipt_signature_binds (codec : ReceiptCodec) (standard : codec.Standard) :
    (∀ a b : WholeReceipt, a.Stamped Datetime.WholeMinutes → b.Stamped Datetime.WholeMinutes →
      receiptCanonicalBytes codec a = receiptCanonicalBytes codec b → a.Agrees b) ∧
    (∀ receipt : WholeReceipt, receipt.Stamped Datetime.WholeMinutes →
      (∀ (receipts : ReceiptTable) (later : List WholeReceipt) (now : Datetime),
        (∀ other ∈ later, other.receiptId ≠ receipt.receiptId) →
        ∃ copy, codec.readExecutionReceipt now
            (later.foldl codec.writeExecutionReceipt (codec.writeExecutionReceipt receipts receipt))
            receipt.receiptId = .ok copy ∧
          receiptCanonicalBytes codec copy = receiptCanonicalBytes codec receipt) ∧
      (∀ (style : JsonStyle) (drawn : String) (now : Datetime),
        ∃ value copy, loads codec.readFloat (dumps style codec.floatRepr (codec.modelDump receipt)) = some value ∧
          codec.modelValidate drawn now value = .ok copy ∧
          receiptCanonicalBytes codec copy = receiptCanonicalBytes codec receipt)) ∧
    (∀ (signing : ReceiptSigning) (privatePem publicPem : String) (own : signing.PrivateKey)
      (other : signing.PublicKey), signing.Configured privatePem publicPem own other → signing.Pair own other →
      ∀ receipt : WholeReceipt, receipt.Stamped Datetime.WholeMinutes →
        ∃ signed, signWholeReceipt signing codec receipt = .ok signed ∧ signed.Agrees receipt ∧
          (∀ copy, Relation.ReflTransGen (Copied codec) signed copy →
            verifyReceiptSignature signing codec copy publicPem = .ok true) ∧
          (∀ altered : WholeReceipt, altered.Stamped Datetime.WholeMinutes →
            altered.signature = signed.signature → ¬ altered.Agrees receipt →
            verifyReceiptSignature signing codec altered publicPem = .ok false)) := by
  refine ⟨canonical_bytes_agree codec standard, ?_, ?_⟩
  · intro receipt whole
    constructor
    · intro receipts later now others
      exact ⟨receipt, stored_read codec standard receipt whole receipts later now others, rfl⟩
    · intro style drawn now
      exact ⟨codec.modelDump receipt, receipt, dump_loads codec standard style receipt,
        receipt_kept codec standard drawn now receipt whole, rfl⟩
  · intro signing privatePem publicPem own other configured pair receipt whole
    obtain ⟨signed, signs, signature, stamped, sameBytes⟩ :=
      sign_whole_receipt signing codec privatePem publicPem own other configured receipt
    have signedWhole := stamped _ whole
    refine ⟨signed, signs, canonical_bytes_agree codec standard signed receipt signedWhole whole sameBytes, ?_, ?_⟩
    · intro copy copies
      obtain rfl := copies_same codec standard signed copy signedWhole copies
      obtain ⟨verified, ends, same⟩ := verify_signed_receipt signing codec privatePem publicPem own other configured
        pair copy _ signature
      rw [ends, same.mpr sameBytes]
    · intro altered alteredWhole sameSignature differs
      obtain ⟨verified, ends, same⟩ := verify_signed_receipt signing codec privatePem publicPem own other configured
        pair altered _ (sameSignature.trans signature)
      have rejected : verified ≠ true := by
        intro accepted
        exact differs (canonical_bytes_agree codec standard altered receipt alteredWhole whole (same.mp accepted))
      rw [ends, Bool.eq_false_of_not_eq_true rejected]

theorem no_offset_range : ∀ seconds ∈ (none : Option Int), -86400 < seconds ∧ seconds < 86400 := by simp

-- time.replace(tzinfo=None)
def Datetime.naive (time : Datetime) : Datetime := { time with offset := none, offsetRange := no_offset_range }

def minuteOffset : Option Int → List Char
  | none => []
  | some seconds =>
      if seconds = 0 then ['Z']
      else (if seconds < 0 then '-' else '+') :: (padded 2 (seconds.natAbs / 3600) ++
        ':' :: padded 2 (seconds.natAbs / 60 % 60))

def readMinutes (text : List Char) : Option Datetime :=
  Datetime.fromisoformat (if text.getLast? = some 'Z' then text.dropLast ++ offsetText (some 0) else text)

def minuteCodec : ReceiptCodec where
  floatRepr := plainFloat
  readFloat := readPlainFloat
  dateText := fun time => String.ofList (time.naive.isoformat ++ minuteOffset time.offset)
  coerce := { plainCoercions with
    datetime
      | .str text => readMinutes text.toList
      | _ => none }

theorem isoformat_offset (time : Datetime) :
    time.naive.isoformat ++ offsetText time.offset = time.isoformat := by
  simp [Datetime.isoformat, Datetime.naive, offsetText]

theorem minute_offset_text (seconds : Int) (whole : 60 ∣ seconds) (away : seconds ≠ 0) :
    minuteOffset (some seconds) = offsetText (some seconds) := by
  have rest : seconds.natAbs % 60 = 0 := by omega
  rw [minuteOffset, offsetText, if_neg away, if_pos rest, List.append_nil]

theorem padded_ends (width n : Nat) (front : List Char) :
    (front ++ padded (width + 1) n).getLast? = some (Nat.digitChar (n % 10)) := by
  rw [padded, ← List.append_assoc, List.getLast?_append, List.getLast?_singleton]
  rfl

theorem minute_offset_ends (seconds : Int) (away : seconds ≠ 0) (front : List Char) :
    (front ++ minuteOffset (some seconds)).getLast? = some (Nat.digitChar (seconds.natAbs / 60 % 60 % 10)) := by
  have split : front ++ minuteOffset (some seconds) = (front ++ (if seconds < 0 then '-' else '+') ::
      (padded 2 (seconds.natAbs / 3600) ++ [':'])) ++ padded 2 (seconds.natAbs / 60 % 60) := by
    rw [minuteOffset, if_neg away]
    simp
  rw [split, padded_ends]

theorem minute_codec_standard : minuteCodec.Standard where
  json := plain_float_text
  keeps := ⟨fun _ => rfl, fun _ => rfl, fun _ => rfl⟩
  dates := by
    rintro time ⟨seconds, offset, whole⟩
    change readMinutes (String.toList (String.ofList _)) = _
    rw [String.toList_ofList, readMinutes]
    by_cases away : seconds = 0
    · have zero : minuteOffset time.offset = ['Z'] := by rw [offset, away]; rfl
      rw [zero, List.getLast?_append, List.getLast?_singleton, Option.some_or, if_pos rfl, List.dropLast_concat,
        ← away, ← offset, isoformat_offset, fromisoformat_isoformat]
    · have ends : (time.naive.isoformat ++ minuteOffset (some seconds)).getLast? ≠ some 'Z' := by
        have digits : Nat.digitChar (seconds.natAbs / 60 % 60 % 10) ≠ 'Z' := by
          intro zed
          have isDigit := padded_digits 1 (seconds.natAbs / 60 % 60) _ (List.mem_append_right _ List.mem_cons_self)
          rw [zed] at isDigit
          contradiction
        rw [minute_offset_ends seconds away]
        exact fun same => digits (Option.some.inj same)
      rw [offset, if_neg ends, minute_offset_text seconds whole away, ← offset, isoformat_offset,
        fromisoformat_isoformat]

def clockAhead (seconds : Int) (range : decide (-86400 < seconds ∧ seconds < 86400) = true) : Datetime :=
  { sampleTime with
    offset := some seconds
    offsetRange := fun _ isOwn => Option.some.inj isOwn ▸ of_decide_eq_true range }

def receiptStarted (time : Datetime) : WholeReceipt where
  receiptId := "R"
  executionId := "E"
  programId := "P"
  status := .completed
  startedAt := time

theorem receipt_started_stamped (kind : Datetime → Prop) (time : Datetime) (ofKind : kind time) :
    (receiptStarted time).Stamped kind := by
  refine ⟨ofKind, ?_, ?_⟩
  · intro own completed
    contradiction
  · intro node member
    contradiction

-- With the seconds of the offset left out, times half a minute apart dump alike,
-- and a time half a minute ahead of UTC reads back as UTC, which dumps as Z.
theorem seconds_left_out :
    ((receiptStarted (clockAhead 60 (Eq.refl true))).Stamped Datetime.Aware ∧
      (receiptStarted (clockAhead 90 (Eq.refl true))).Stamped Datetime.Aware ∧
      receiptCanonicalBytes minuteCodec (receiptStarted (clockAhead 60 (Eq.refl true))) =
        receiptCanonicalBytes minuteCodec (receiptStarted (clockAhead 90 (Eq.refl true))) ∧
      ¬ (receiptStarted (clockAhead 60 (Eq.refl true))).Agrees (receiptStarted (clockAhead 90 (Eq.refl true)))) ∧
    (receiptStarted (clockAhead 30 (Eq.refl true))).Stamped Datetime.Aware ∧
      ∃ copy, minuteCodec.modelValidate "" sampleTime
          (minuteCodec.modelDump (receiptStarted (clockAhead 30 (Eq.refl true)))) = .ok copy ∧
        receiptCanonicalBytes minuteCodec copy ≠
          receiptCanonicalBytes minuteCodec (receiptStarted (clockAhead 30 (Eq.refl true))) := by
  refine ⟨⟨receipt_started_stamped _ _ rfl, receipt_started_stamped _ _ rfl, rfl, ?_⟩,
    receipt_started_stamped _ _ rfl, receiptStarted sampleTime, rfl, ?_⟩
  · intro agrees
    have same : some (60 : Int) = some 90 := congrArg Datetime.offset agrees.startedAt
    contradiction
  · intro same
    have fields := obj_alike _ _ (canonical_bytes_sorted minuteCodec minute_codec_standard _ _ same)
    have texts : minuteCodec.dateText sampleTime = minuteCodec.dateText (clockAhead 30 (Eq.refl true)) :=
      Json.str.inj (Option.some.inj (fields "started_at"))
    have chars := String.ofList_injective texts
    revert chars
    decide

-- RSA without padding, byte by byte, in the place of Ed25519: both keys of a pair
-- have the modulus, and each undoes the other.
structure ByteKey where
  modulus : Nat
  exponent : Nat

def ByteKey.raise (key : ByteKey) (value : Nat) : Nat := value ^ key.exponent % key.modulus

def ByteKey.sealBytes (key : ByteKey) (bytes : List UInt8) : List UInt8 :=
  bytes.flatMap fun byte =>
    [UInt8.ofNat (key.raise byte.toNat / 256), UInt8.ofNat (key.raise byte.toNat % 256)]

def ByteKey.openBytes (key : ByteKey) : List UInt8 → List Nat
  | high :: low :: rest => key.raise (256 * high.toNat + low.toNat) :: key.openBytes rest
  | _ => []

def signingKey : ByteKey := { modulus := 3233, exponent := 2753 }

def verifyKey : ByteKey := { modulus := 3233, exponent := 17 }

theorem verify_key_undoes (byte : UInt8) : verifyKey.raise (signingKey.raise byte.toNat) = byte.toNat := by
  have each : ∀ value < 256, verifyKey.raise (signingKey.raise value) = value := by decide +kernel
  exact each byte.toNat byte.toNat_lt

theorem two_bytes (value : Nat) (fits : value < 65536) :
    256 * (UInt8.ofNat (value / 256)).toNat + (UInt8.ofNat (value % 256)).toNat = value := by
  simp only [UInt8.toNat_ofNat']
  omega

theorem open_sealed (bytes : List UInt8) : verifyKey.openBytes (signingKey.sealBytes bytes) = bytes.map UInt8.toNat := by
  induction bytes with
  | nil => rfl
  | cons byte rest ih =>
      have fits : signingKey.raise byte.toNat < 65536 :=
        (Nat.mod_lt _ (by decide : 0 < 3233)).trans (by decide)
      change verifyKey.raise (256 * (UInt8.ofNat (signingKey.raise byte.toNat / 256)).toNat +
        (UInt8.ofNat (signingKey.raise byte.toNat % 256)).toNat) :: verifyKey.openBytes (signingKey.sealBytes rest) = _
      rw [two_bytes _ fits, verify_key_undoes, ih, List.map_cons]

-- One byte stands before the message, so that no signature is empty.
def byteSigning : ReceiptSigning where
  signingKey := some " PRIVATE\n"
  signingKeyId := some "2026-01"
  PrivateKey := ByteKey
  PublicKey := ByteKey
  loadPrivate := fun pem => .ok (if pem = "PRIVATE" then some signingKey else none)
  loadPublic := fun pem => .ok (if pem = "PUBLIC" then some verifyKey else none)
  sign := fun key message => key.sealBytes (1 :: message.data.toList)
  verify := fun key signature message => key.openBytes signature == (1 :: message.data.toList).map UInt8.toNat

theorem byte_signing_pair : byteSigning.Pair signingKey verifyKey where
  filled := fun _ => List.cons_ne_nil _ _
  verifies := by
    intro message seen
    change (verifyKey.openBytes (signingKey.sealBytes (1 :: message.data.toList)) ==
      (1 :: seen.data.toList).map UInt8.toNat) = true ↔ _
    rw [open_sealed, beq_iff_eq]
    constructor
    · intro same
      have bytes := List.map_injective_iff.mpr (fun _ _ => UInt8.toNat_inj.mp) same
      exact ByteArray.ext (Array.toList_inj.mp (List.cons.inj bytes).2.symm)
    · rintro rfl
      rfl

theorem byte_signing_configured : byteSigning.Configured " PRIVATE\n" "PUBLIC\n" signingKey verifyKey where
  key := rfl
  given := by decide
  loadsOwn := by
    have trimmed : pyStrip " PRIVATE\n" = "PRIVATE" := by decide +kernel
    exact congrArg Except.ok (if_pos trimmed)
  loadsOther := by
    have trimmed : pyStrip "PUBLIC\n" = "PUBLIC" := by decide +kernel
    exact congrArg Except.ok (if_pos trimmed)

theorem sample_time_whole : sampleTime.WholeMinutes := ⟨0, rfl, Int.dvd_zero 60⟩

def conditionResult (predicate : String) (ok : Bool) : JsonDict where
  fields := [("predicate", .str predicate), ("ok", .bool ok)]
  distinct := rfl

def readEffect : JsonDict where
  fields := [("effect_type", .str "READ"),
    ("target", .obj [("kind", .str "file"), ("uri", .str "file:///notes"), ("scope", .str "local"),
      ("access", .str "READ")]),
    ("reversible", .bool true), ("cost_hint", .float (1 / 2))]
  distinct := rfl

-- A node that ran, one that failed, and the first rolled back; whether the
-- first one's postcondition held is left open.
def rolledBackReceipt (held : Bool) : WholeReceipt where
  receiptId := "R"
  executionId := "E"
  programId := "P"
  status := .failed
  nodes := [
    { nodeId := "read", status := .ok, startedAt := sampleTime, durationMs := 12, retries := 1
      preconditionResults := [conditionResult "has_parent" true]
      postconditionResults := [conditionResult "coherent" held], effectSummary := [readEffect] },
    { nodeId := "write", status := .failed, startedAt := sampleTime
      preconditionResults := [conditionResult "pred_count" true], error := some "execution_failed" },
    { nodeId := "read", status := .rolledBack, startedAt := sampleTime, error := some "rollback:none" }]
  startedAt := sampleTime
  completedAt := some sampleTime
  correlationId := some "req-1"
  principalId := some "operator"
  arcaneProvenance := some { fields := [("bundle_id", .str "vault"), ("bundle_version", .int 2)], distinct := rfl }

theorem rolled_back_stamped (held : Bool) : (rolledBackReceipt held).Stamped Datetime.WholeMinutes := by
  refine ⟨sample_time_whole, ?_, ?_⟩
  · intro time completed
    obtain rfl := Option.some.inj completed
    exact sample_time_whole
  · intro node member
    simp only [rolledBackReceipt, List.mem_cons, List.not_mem_nil, or_false] at member
    obtain rfl | rfl | rfl := member
    · exact sample_time_whole
    · exact sample_time_whole
    · exact sample_time_whole

-- A receipt that was signed with a postcondition that failed does not verify
-- with one that held.
theorem receipt_signature_binds_rolled_back :
    ∃ signed, signWholeReceipt byteSigning minuteCodec (rolledBackReceipt false) = .ok signed ∧
      verifyReceiptSignature byteSigning minuteCodec signed "PUBLIC\n" = .ok true ∧
      verifyReceiptSignature byteSigning minuteCodec
        { rolledBackReceipt true with signature := signed.signature } "PUBLIC\n" = .ok false := by
  obtain ⟨signed, signs, -, copies, altered⟩ := (receipt_signature_binds minuteCodec minute_codec_standard).2.2
    byteSigning " PRIVATE\n" "PUBLIC\n" signingKey verifyKey byte_signing_configured byte_signing_pair
    (rolledBackReceipt false) (rolled_back_stamped false)
  refine ⟨signed, signs, copies signed .refl, altered _ (rolled_back_stamped true) rfl ?_⟩
  intro agrees
  cases agrees.nodes with
  | cons first rest =>
      cases first.postconditionResults with
      | cons same more =>
          have fields := obj_alike _ _ same
          have verdicts : Json.bool true = Json.bool false := Option.some.inj (fields "ok")
          cases Json.bool.inj verdicts

end Vermyth
