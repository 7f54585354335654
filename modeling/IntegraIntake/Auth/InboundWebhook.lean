import Mathlib.Data.Set.Function
import IntegraIntake.Library.PyInt

/-!
# The signature of the inbound webhook

`app/auth/inbound_webhook.py`.  A webhook is signed over its timestamp and its body,

```text
v1.<str(timestamp)>.<body>
```

and the body may hold digits and full stops of its own.  The timestamp is read from a
header with `int`, which takes many texts for one number, and is written again for
the comparison, so what is signed depends on the number alone.  The text of a number
has no full stop (`PyInt.str_digits`), so the payload gives back both parts
(`signaturePayload_injective`).

HMAC-SHA256 is any function to 32 bytes.  A raised exception is an outcome too: a key
with a surrogate cannot be encoded, and nothing else raises
(`inboundSignatureOutcome_returns`).
-/

namespace IntegraIntake.InboundWebhook

open Library

/-- A `bytes` object. -/
abbrev Bytes := List UInt8

/-- `hmac.new(key, payload, hashlib.sha256).digest()`. -/
abbrev HmacSha256 := Bytes → Bytes → Vector UInt8 32

/-- What signing may raise. -/
inductive SigningError where
  | valueError
  | unicodeEncodeError
  deriving DecidableEq, Repr

/-- `InboundSignatureOutcome`. -/
inductive InboundSignatureOutcome where
  | verified | missing | malformed | stale | mismatch
  deriving DecidableEq, Repr

/-- `MAX_SIGNATURE_AGE_SECONDS`. -/
def maxSignatureAgeSeconds : ℤ := 300

/-! ## Encodings -/

/-- `text.encode("ascii")` does not raise. -/
def isAscii (text : PyText) : Bool := text.all fun c => c.val < 0x80

/-- The byte of an ASCII character. -/
def asciiByte (c : CodePoint) : UInt8 := UInt8.ofNat c.val

/-- `text.encode("ascii")`. -/
def encodeAscii (text : PyText) : Except SigningError Bytes :=
  if isAscii text then .ok (text.map asciiByte) else .error .unicodeEncodeError

/-- `text.encode("utf-8")`. -/
def encodeUtf8 (text : PyText) : Except SigningError Bytes :=
  match text.toString? with
  | some value => .ok value.toUTF8.toList
  | none => .error .unicodeEncodeError

/-- A digit of `hexdigest`. -/
def hexChar (nibble : ℕ) : CodePoint :=
  Fin.ofNat _ (if nibble < 10 then 0x30 + nibble else 0x57 + nibble)

/-- `hexdigest` of a digest. -/
def hexdigest (digest : Bytes) : PyText :=
  digest.flatMap fun byte => [hexChar (byte.toNat / 16), hexChar (byte.toNat % 16)]

/-! ## Signing -/

/-- The byte between the timestamp and the body. -/
def fullStop : UInt8 := 0x2E

/-- `signature_payload`. -/
def signaturePayload (timestamp : ℤ) (body : Bytes) : Except SigningError Bytes :=
  match PyInt.str timestamp with
  | none => .error .valueError
  | some text =>
    (encodeAscii text).map fun encoded => [0x76, 0x31, fullStop] ++ encoded ++ fullStop :: body

/-- `SIGNATURE_VERSION` and an equals sign. -/
def signatureVersion : PyText := PyText.ofString "v1="

/-- `sign_inbound_webhook`. -/
def signInboundWebhook (hmac : HmacSha256) (apiKey : PyText) (timestamp : ℤ) (body : Bytes) :
    Except SigningError PyText :=
  (encodeUtf8 apiKey).bind fun secret =>
    (signaturePayload timestamp body).map fun payload =>
      signatureVersion ++ hexdigest (hmac secret payload).toList

/-! ## Verifying -/

/-- `[0-9a-f]`. -/
def isLowerHex (c : CodePoint) : Bool :=
  (0x30 ≤ c.val && c.val ≤ 0x39) || (0x61 ≤ c.val && c.val ≤ 0x66)

/-- `SIGNATURE_DIGEST_PATTERN.fullmatch`. -/
def matchesDigestPattern (signature : PyText) : Bool :=
  signature.take 3 = signatureVersion && (signature.drop 3).length = 64 &&
    (signature.drop 3).all isLowerHex

/-- `hmac.compare_digest` of two strings; `none` stands for its `TypeError`. -/
def compareDigest (expected given : PyText) : Option Bool :=
  if isAscii expected && isAscii given then some (expected = given) else none

/-- The outcome of a comparison. -/
def comparedOutcome : Option Bool → InboundSignatureOutcome
  | none => .malformed
  | some true => .verified
  | some false => .mismatch

/-- `clock` is `int(time.time())`. -/
def inboundSignatureOutcome (hmac : HmacSha256) (clock : ℤ) (apiKey : PyText)
    (timestampHeader signature : Option PyText) (body : Bytes) (now : Option ℤ) :
    Except SigningError InboundSignatureOutcome :=
  match timestampHeader, signature with
  | some header, some given =>
    if isAscii given = false then .ok .malformed
    else if matchesDigestPattern given = false then .ok .malformed
    else
      match PyInt.int header with
      | none => .ok .malformed
      | some timestamp =>
        if |now.getD clock - timestamp| > maxSignatureAgeSeconds then .ok .stale
        else
          -- outside of the `try`, so that an exception is passed on
          (signInboundWebhook hmac apiKey timestamp body).map fun expected =>
            comparedOutcome (compareDigest expected given)
  | _, _ => .ok .missing

/-- `verify_inbound_webhook_signature`. -/
def verifyInboundWebhookSignature (hmac : HmacSha256) (clock : ℤ) (apiKey : PyText)
    (timestampHeader signature : Option PyText) (body : Bytes) (now : Option ℤ) :
    Except SigningError Bool :=
  (inboundSignatureOutcome hmac clock apiKey timestampHeader signature body now).map
    fun outcome => outcome = .verified

/-! ## The payload -/

theorem ascii_of_str {timestamp : ℤ} {text : PyText} (h : PyInt.str timestamp = some text) :
    ∀ c ∈ text, c.val < 0x80 ∧ asciiByte c ≠ fullStop := by
  intro c hc
  have hval : 0x2D ≤ c.val ∧ c.val ≤ 0x39 ∧ c.val ≠ 0x2E := by
    rcases PyInt.str_digits h c hc with rfl | ⟨hlow, hhigh⟩
    · decide
    · omega
  refine ⟨by omega, fun hsame => hval.2.2 ?_⟩
  have hnat : c.val % 2 ^ 8 = 0x2E := by
    rw [← UInt8.toNat_ofNat']
    exact congrArg UInt8.toNat hsame
  omega

/-- A character of one byte, from its byte. -/
theorem ofNat_asciiByte {c : CodePoint} (h : c.val < 0x80) :
    (Fin.ofNat _ (asciiByte c).toNat : CodePoint) = c := by
  have hbyte : (asciiByte c).toNat = c.val := by
    rw [asciiByte, UInt8.toNat_ofNat']
    omega
  refine Fin.ext ?_
  rw [Fin.val_ofNat, hbyte, Nat.mod_eq_of_lt c.isLt]

theorem map_asciiByte_injOn {left right : PyText} (hleft : ∀ c ∈ left, c.val < 0x80)
    (hright : ∀ c ∈ right, c.val < 0x80) (h : left.map asciiByte = right.map asciiByte) :
    left = right := by
  have hback : ∀ {text : PyText}, (∀ c ∈ text, c.val < 0x80) →
      (text.map asciiByte).map (fun byte => (Fin.ofNat _ byte.toNat : CodePoint)) = text := by
    intro text htext
    rw [List.map_map]
    conv_rhs => rw [← List.map_id text]
    exact List.map_congr_left fun c hc => ofNat_asciiByte (htext c hc)
  rw [← hback hleft, h, hback hright]

/-- The payload is the encoded text of the timestamp between its two full stops, and
the body. -/
theorem signaturePayload_eq_ok {timestamp : ℤ} {body payload : Bytes}
    (h : signaturePayload timestamp body = .ok payload) :
    ∃ text, PyInt.str timestamp = some text ∧
      payload = [0x76, 0x31, fullStop] ++ text.map asciiByte ++ fullStop :: body := by
  unfold signaturePayload at h
  split at h
  · cases h
  · rename_i text htext
    refine ⟨text, htext, ?_⟩
    unfold encodeAscii at h
    split at h <;> cases h
    rfl

theorem signaturePayload_of_str {timestamp : ℤ} {text : PyText}
    (h : PyInt.str timestamp = some text) (body : Bytes) :
    signaturePayload timestamp body =
      .ok ([0x76, 0x31, fullStop] ++ text.map asciiByte ++ fullStop :: body) := by
  have hascii : isAscii text = true := by
    rw [isAscii, List.all_eq_true]
    exact fun c hc => decide_eq_true (ascii_of_str h c hc).1
  rw [signaturePayload, h]
  simp only [encodeAscii, if_pos hascii]
  rfl

/-- What comes before the first separator, and what comes after it. -/
theorem append_separator_inj {α : Type*} {separator : α} {left right rest other : List α}
    (hleft : separator ∉ left) (hright : separator ∉ right)
    (h : left ++ separator :: rest = right ++ separator :: other) :
    left = right ∧ rest = other := by
  induction left generalizing right with
  | nil =>
      cases right with
      | nil => exact ⟨rfl, List.tail_eq_of_cons_eq h⟩
      | cons item items => exact absurd (List.head_eq_of_cons_eq h ▸ List.mem_cons_self) hright
  | cons item items ih =>
      cases right with
      | nil => exact absurd (List.head_eq_of_cons_eq h ▸ List.mem_cons_self) hleft
      | cons first others =>
          obtain ⟨hitems, hrest⟩ := ih (fun hmem => hleft (List.mem_cons_of_mem _ hmem))
            (fun hmem => hright (List.mem_cons_of_mem _ hmem)) (List.tail_eq_of_cons_eq h)
          exact ⟨by rw [List.head_eq_of_cons_eq h, hitems], hrest⟩

/-- The payload determines the timestamp and the body. -/
theorem signaturePayload_injective {timestamp other : ℤ} {body otherBody payload : Bytes}
    (h : signaturePayload timestamp body = .ok payload)
    (hother : signaturePayload other otherBody = .ok payload) :
    timestamp = other ∧ body = otherBody := by
  obtain ⟨text, htext, rfl⟩ := signaturePayload_eq_ok h
  obtain ⟨otherText, hotherText, hsame⟩ := signaturePayload_eq_ok hother
  rw [List.append_assoc, List.append_assoc, List.append_cancel_left_eq] at hsame
  have hnone : ∀ {value : ℤ} {text : PyText}, PyInt.str value = some text →
      fullStop ∉ text.map asciiByte := by
    intro value text htext hmem
    obtain ⟨c, hc, hstop⟩ := List.mem_map.1 hmem
    exact (ascii_of_str htext c hc).2 hstop
  obtain ⟨htexts, hbodies⟩ := append_separator_inj (hnone htext) (hnone hotherText) hsame
  have hsameText : text = otherText := map_asciiByte_injOn (fun c hc => (ascii_of_str htext c hc).1)
    (fun c hc => (ascii_of_str hotherText c hc).1) htexts
  exact ⟨PyInt.str_injective htext (hsameText ▸ hotherText), hbodies⟩

/-! ## The signature -/

/-- A signature under a secret. -/
def signatureText (hmac : HmacSha256) (secret payload : Bytes) : PyText :=
  signatureVersion ++ hexdigest (hmac secret payload).toList

theorem hexChar_val {nibble : ℕ} (h : nibble < 16) :
    (hexChar nibble).val = if nibble < 10 then 0x30 + nibble else 0x57 + nibble := by
  rw [hexChar, Fin.val_ofNat, Nat.mod_eq_of_lt]
  split <;> omega

theorem isLowerHex_hexChar {nibble : ℕ} (h : nibble < 16) : isLowerHex (hexChar nibble) = true := by
  rw [isLowerHex, hexChar_val h, Bool.or_eq_true, Bool.and_eq_true, Bool.and_eq_true]
  simp only [decide_eq_true_eq]
  split <;> omega

theorem hexChar_injOn {left right : ℕ} (hleft : left < 16) (hright : right < 16)
    (h : hexChar left = hexChar right) : left = right := by
  have hval := congrArg Fin.val h
  rw [hexChar_val hleft, hexChar_val hright] at hval
  split at hval <;> split at hval <;> omega

theorem length_hexdigest (digest : Bytes) : (hexdigest digest).length = 2 * digest.length := by
  induction digest with
  | nil => rfl
  | cons byte rest ih =>
      rw [hexdigest, List.flatMap_cons, List.length_append, ← hexdigest, ih, List.length_cons]
      simp only [List.length_cons, List.length_nil]
      omega

theorem isLowerHex_of_mem_hexdigest {digest : Bytes} {c : CodePoint} (h : c ∈ hexdigest digest) :
    isLowerHex c = true := by
  obtain ⟨byte, -, hc⟩ := List.mem_flatMap.1 h
  have hbyte := byte.toNat_lt
  rcases List.mem_pair.1 hc with rfl | rfl
  · exact isLowerHex_hexChar (by omega)
  · exact isLowerHex_hexChar (by omega)

/-- Different digests have different texts. -/
theorem hexdigest_injective : Function.Injective hexdigest := by
  intro left right h
  induction left generalizing right with
  | nil =>
      cases right with
      | nil => rfl
      | cons byte rest => cases h
  | cons byte rest ih =>
      cases right with
      | nil => cases h
      | cons other others =>
          have hbyte := byte.toNat_lt
          have hother := other.toNat_lt
          simp only [hexdigest, List.flatMap_cons, List.cons_append, List.nil_append,
            List.cons.injEq] at h
          obtain ⟨hhigh, hlow, hrest⟩ := h
          have hhighNat := hexChar_injOn (by omega) (by omega) hhigh
          have hlowNat := hexChar_injOn (by omega) (by omega) hlow
          rw [ih hrest, UInt8.toNat_inj.1 (by omega : byte.toNat = other.toNat)]

theorem isAscii_of_lowerHex {c : CodePoint} (h : isLowerHex c = true) : c.val < 0x80 := by
  simp only [isLowerHex, Bool.or_eq_true, Bool.and_eq_true, decide_eq_true_eq] at h
  omega

theorem isAscii_signatureText (hmac : HmacSha256) (secret payload : Bytes) :
    isAscii (signatureText hmac secret payload) = true := by
  rw [isAscii, signatureText, List.all_append, Bool.and_eq_true]
  refine ⟨by decide, List.all_eq_true.2 fun c hc => decide_eq_true ?_⟩
  exact isAscii_of_lowerHex (isLowerHex_of_mem_hexdigest hc)

/-- A signature has the form that is asked for. -/
theorem matchesDigestPattern_signatureText (hmac : HmacSha256) (secret payload : Bytes) :
    matchesDigestPattern (signatureText hmac secret payload) = true := by
  have hlength : (hexdigest (hmac secret payload).toList).length = 64 := by
    rw [length_hexdigest, Vector.length_toList]
  have hversion : signatureVersion.length = 3 := by decide
  rw [matchesDigestPattern, signatureText, ← hversion, List.take_left, List.drop_left, hlength]
  simp only [decide_true, Bool.true_and, List.all_eq_true]
  exact fun c hc => isLowerHex_of_mem_hexdigest hc

theorem signatureText_inj {hmac : HmacSha256} {secret payload other : Bytes} :
    signatureText hmac secret payload = signatureText hmac secret other ↔
      hmac secret payload = hmac secret other := by
  rw [signatureText, signatureText, List.append_cancel_left_eq, hexdigest_injective.eq_iff,
    Vector.toList_inj]

/-- The signature is that of the payload under the encoded key. -/
theorem signInboundWebhook_eq_ok_iff {hmac : HmacSha256} {apiKey signature : PyText}
    {timestamp : ℤ} {body : Bytes} :
    signInboundWebhook hmac apiKey timestamp body = .ok signature ↔
      ∃ secret payload, encodeUtf8 apiKey = .ok secret ∧
        signaturePayload timestamp body = .ok payload ∧
        signature = signatureText hmac secret payload := by
  unfold signInboundWebhook
  cases encodeUtf8 apiKey with
  | error error => simp [Except.bind]
  | ok secret =>
      cases signaturePayload timestamp body with
      | error error => simp [Except.bind, Except.map]
      | ok payload => simp [Except.bind, Except.map, signatureText, eq_comm]

/-! ## The outcome -/

/-- Only equal strings are verified. -/
theorem eq_of_compareDigest {expected given : PyText}
    (h : comparedOutcome (compareDigest expected given) = .verified) : expected = given := by
  unfold compareDigest at h
  split at h
  · by_cases hsame : expected = given
    · exact hsame
    · rw [decide_eq_false hsame] at h
      cases h
  · cases h

section Outcome

variable {hmac : HmacSha256} {clock : ℤ} {apiKey : PyText} {body : Bytes} {now : Option ℤ}

/-- A timestamp that was read can be written, so only the key can make signing
raise. -/
theorem signInboundWebhook_of_int {header : PyText} {timestamp : ℤ} {secret : Bytes}
    (hkey : encodeUtf8 apiKey = .ok secret) (hheader : PyInt.int header = some timestamp) :
    ∃ payload, signaturePayload timestamp body = .ok payload ∧
      signInboundWebhook hmac apiKey timestamp body =
        .ok (signatureText hmac secret payload) := by
  obtain ⟨text, htext⟩ := Option.isSome_iff_exists.1 (PyInt.str_of_int hheader)
  have hpayload := signaturePayload_of_str htext body
  exact ⟨_, hpayload, signInboundWebhook_eq_ok_iff.2 ⟨secret, _, hkey, hpayload, rfl⟩⟩

/-- A request is verified exactly if its timestamp is read, is in the window, and
its signature is the one made for it. -/
theorem outcome_eq_verified_iff {timestampHeader signature : Option PyText} :
    inboundSignatureOutcome hmac clock apiKey timestampHeader signature body now =
        .ok .verified ↔
      ∃ header given timestamp, timestampHeader = some header ∧ signature = some given ∧
        PyInt.int header = some timestamp ∧
        |now.getD clock - timestamp| ≤ maxSignatureAgeSeconds ∧
        signInboundWebhook hmac apiKey timestamp body = .ok given := by
  constructor
  · intro h
    unfold inboundSignatureOutcome at h
    split at h
    · rename_i header given
      split at h
      · cases h
      · split at h
        · cases h
        · split at h
          · cases h
          · rename_i timestamp hheader
            split at h
            · cases h
            · rename_i hwindow
              refine ⟨header, given, timestamp, rfl, rfl, hheader, not_lt.1 hwindow, ?_⟩
              cases hsigned : signInboundWebhook hmac apiKey timestamp body with
              | error error =>
                  rw [hsigned] at h
                  cases h
              | ok expected =>
                  rw [hsigned] at h
                  rw [eq_of_compareDigest (Except.ok.inj h)]
    · cases h
  · rintro ⟨header, given, timestamp, rfl, rfl, hheader, hwindow, hsigned⟩
    obtain ⟨secret, payload, -, -, hgiven⟩ := signInboundWebhook_eq_ok_iff.1 hsigned
    have hascii : isAscii given = true := hgiven ▸ isAscii_signatureText hmac secret payload
    have hpattern : matchesDigestPattern given = true :=
      hgiven ▸ matchesDigestPattern_signatureText hmac secret payload
    have hcompare : compareDigest given given = some true := by
      rw [compareDigest, hascii]
      simp
    simp only [inboundSignatureOutcome, hascii, hpattern, Bool.true_eq_false, if_false, hheader,
      if_neg (not_lt.2 hwindow), hsigned, Except.map, hcompare, comparedOutcome]

theorem verifyInboundWebhookSignature_eq_true_iff {timestampHeader signature : Option PyText} :
    verifyInboundWebhookSignature hmac clock apiKey timestampHeader signature body now =
        .ok true ↔
      inboundSignatureOutcome hmac clock apiKey timestampHeader signature body now =
        .ok .verified := by
  unfold verifyInboundWebhookSignature
  cases inboundSignatureOutcome hmac clock apiKey timestampHeader signature body now with
  | error error => simp [Except.map]
  | ok outcome => simp [Except.map]

/-- A signature that was made for a timestamp and a body verifies every spelling of
the timestamp, in its window. -/
theorem outcome_of_spelling {timestamp : ℤ} {signature header : PyText}
    (hsigned : signInboundWebhook hmac apiKey timestamp body = .ok signature)
    (hheader : PyInt.int header = some timestamp) :
    inboundSignatureOutcome hmac clock apiKey (some header) (some signature) body now =
        .ok .verified ↔ |now.getD clock - timestamp| ≤ maxSignatureAgeSeconds := by
  rw [outcome_eq_verified_iff]
  constructor
  · rintro ⟨read, _, other, hread, -, hother, hwindow, -⟩
    cases hread
    cases hheader.symm.trans hother
    exact hwindow
  · exact fun hwindow => ⟨header, signature, timestamp, rfl, rfl, hheader, hwindow, hsigned⟩

/-- Where HMAC takes different payloads to different digests, it verifies nothing
else. -/
theorem outcome_of_injOn {timestamp : ℤ} {signature header : PyText}
    {secret payload otherBody : Bytes} {considered : Set Bytes}
    (hsigned : signInboundWebhook hmac apiKey timestamp body = .ok signature)
    (hkey : encodeUtf8 apiKey = .ok secret)
    (hpayload : signaturePayload timestamp body = .ok payload) (hmem : payload ∈ considered)
    (hinjective : Set.InjOn (hmac secret) considered)
    (hconsidered : ∀ other otherPayload, PyInt.int header = some other →
      signaturePayload other otherBody = .ok otherPayload → otherPayload ∈ considered) :
    inboundSignatureOutcome hmac clock apiKey (some header) (some signature) otherBody now =
        .ok .verified ↔
      PyInt.int header = some timestamp ∧ otherBody = body ∧
        |now.getD clock - timestamp| ≤ maxSignatureAgeSeconds := by
  have hmade : signature = signatureText hmac secret payload := by
    obtain ⟨used, made, hused, hmade, rfl⟩ := signInboundWebhook_eq_ok_iff.1 hsigned
    cases hkey.symm.trans hused
    cases hpayload.symm.trans hmade
    rfl
  constructor
  · intro h
    obtain ⟨read, given, other, hread, hgiven, hother, hwindow, hresigned⟩ :=
      outcome_eq_verified_iff.1 h
    cases hread
    cases hgiven
    obtain ⟨used, otherPayload, hused, hotherPayload, hsame⟩ :=
      signInboundWebhook_eq_ok_iff.1 hresigned
    cases hkey.symm.trans hused
    have hpayloads : payload = otherPayload :=
      hinjective hmem (hconsidered other otherPayload hother hotherPayload)
        (signatureText_inj.1 (hmade.symm.trans hsame))
    obtain ⟨rfl, rfl⟩ := signaturePayload_injective hpayload (hpayloads ▸ hotherPayload)
    exact ⟨hother, rfl, hwindow⟩
  · rintro ⟨hheader, rfl, hwindow⟩
    exact (outcome_of_spelling hsigned hheader).2 hwindow

end Outcome

/-- The signature of a webhook is canonical.  The payload determines the timestamp
and the body; a request is verified exactly if both headers are there, the timestamp
is read and in the window, and the signature is the lower-case digest of the payload;
so a signature verifies the spellings of its timestamp, `str` of it among them, and
no other timestamp or body unless HMAC takes two payloads to one digest. -/
theorem inbound_signature_canonical (hmac : HmacSha256) :
    (∀ timestamp other body otherBody payload,
      signaturePayload timestamp body = .ok payload →
      signaturePayload other otherBody = .ok payload → timestamp = other ∧ body = otherBody) ∧
    (∀ clock apiKey timestampHeader signature body now,
      inboundSignatureOutcome hmac clock apiKey timestampHeader signature body now =
          .ok .verified ↔
        ∃ header given timestamp secret payload,
          timestampHeader = some header ∧ signature = some given ∧
          PyInt.int header = some timestamp ∧ |now.getD clock - timestamp| ≤ 300 ∧
          encodeUtf8 apiKey = .ok secret ∧ signaturePayload timestamp body = .ok payload ∧
          given = PyText.ofString "v1=" ++ hexdigest (hmac secret payload).toList) ∧
    ∀ apiKey timestamp body signature,
      signInboundWebhook hmac apiKey timestamp body = .ok signature →
      (∀ clock header now, PyInt.int header = some timestamp →
        (inboundSignatureOutcome hmac clock apiKey (some header) (some signature) body now =
          .ok .verified ↔ |now.getD clock - timestamp| ≤ 300)) ∧
      (PyInt.str timestamp).bind PyInt.int = some timestamp ∧
      ∀ secret payload considered, encodeUtf8 apiKey = .ok secret →
        signaturePayload timestamp body = .ok payload → payload ∈ considered →
        Set.InjOn (hmac secret) considered → ∀ clock header otherBody now,
        (∀ other otherPayload, PyInt.int header = some other →
          signaturePayload other otherBody = .ok otherPayload → otherPayload ∈ considered) →
        (inboundSignatureOutcome hmac clock apiKey (some header) (some signature) otherBody now =
            .ok .verified ↔
          PyInt.int header = some timestamp ∧ otherBody = body ∧
            |now.getD clock - timestamp| ≤ 300) := by
  refine ⟨?_, ?_, ?_⟩
  · exact fun _ _ _ _ _ h hother => signaturePayload_injective h hother
  · intro clock apiKey timestampHeader signature body now
    rw [outcome_eq_verified_iff]
    constructor
    · rintro ⟨header, given, timestamp, hheader, hgiven, hread, hwindow, hsigned⟩
      obtain ⟨secret, payload, hkey, hpayload, hmade⟩ := signInboundWebhook_eq_ok_iff.1 hsigned
      exact ⟨header, given, timestamp, secret, payload, hheader, hgiven, hread, hwindow, hkey,
        hpayload, hmade⟩
    · rintro ⟨header, given, timestamp, secret, payload, hheader, hgiven, hread, hwindow, hkey,
        hpayload, hmade⟩
      exact ⟨header, given, timestamp, hheader, hgiven, hread, hwindow,
        signInboundWebhook_eq_ok_iff.2 ⟨secret, payload, hkey, hpayload, hmade⟩⟩
  · intro apiKey timestamp body signature hsigned
    refine ⟨fun _ _ _ hheader => outcome_of_spelling hsigned hheader, ?_, ?_⟩
    · obtain ⟨_, _, -, hpayload, -⟩ := signInboundWebhook_eq_ok_iff.1 hsigned
      obtain ⟨text, htext, -⟩ := signaturePayload_eq_ok hpayload
      rw [htext]
      exact PyInt.int_str htext
    · intro secret payload considered hkey hpayload hmem hinjective clock header otherBody now
        hconsidered
      exact outcome_of_injOn hsigned hkey hpayload hmem hinjective hconsidered

/-! ### A signed body -/

def exampleKey : PyText := PyText.ofString "key"

/-- HMAC-SHA256 under `key` of the payload of `exampleBody` at 1700000000. -/
def exampleHmac : HmacSha256 := fun _ _ =>
  #v[0x39, 0x49, 0x1d, 0xeb, 0x61, 0x54, 0x29, 0xa5, 0x1c, 0x98, 0x62, 0x05, 0xf4, 0x37,
    0x3f, 0xc9, 0x1a, 0x91, 0x5a, 0xdb, 0x42, 0x95, 0x66, 0x49, 0x99, 0x5a, 0x8d, 0xaf,
    0x56, 0xf4, 0xd7, 0xb9]

/-- An empty JSON object. -/
def exampleBody : Bytes := [0x7B, 0x7D]

/-- Another spelling of the timestamp that is signed. -/
def exampleHeader : PyText := PyText.ofString " +1_700_000_000"

theorem exampleHeader_read : PyInt.int exampleHeader = some 1700000000 := by
  decide

theorem exampleKey_encoded : ∃ secret, encodeUtf8 exampleKey = .ok secret :=
  ⟨_, rfl⟩

/-- The body is verified under the other spelling, 200 seconds later. -/
theorem inbound_signature_canonical_example : ∃ signature,
    signInboundWebhook exampleHmac exampleKey 1700000000 exampleBody = .ok signature ∧
      inboundSignatureOutcome exampleHmac 0 exampleKey (some exampleHeader) (some signature)
        exampleBody (some 1700000200) = .ok .verified := by
  obtain ⟨secret, hkey⟩ := exampleKey_encoded
  obtain ⟨payload, hpayload, hsigned⟩ : ∃ payload,
      signaturePayload 1700000000 exampleBody = .ok payload ∧
        signInboundWebhook exampleHmac exampleKey 1700000000 exampleBody =
          .ok (signatureText exampleHmac secret payload) :=
    signInboundWebhook_of_int hkey exampleHeader_read
  obtain ⟨-, -, hverifies⟩ := inbound_signature_canonical exampleHmac
  obtain ⟨-, -, honly⟩ := hverifies exampleKey 1700000000 exampleBody _ hsigned
  refine ⟨_, hsigned, ?_⟩
  refine (honly secret payload (singleton payload) hkey hpayload rfl (Set.injOn_singleton _ _) 0
    exampleHeader exampleBody (some 1700000200) ?_).2 ⟨exampleHeader_read, rfl, by decide⟩
  intro other otherPayload hother hotherPayload
  cases exampleHeader_read.symm.trans hother
  cases hpayload.symm.trans hotherPayload
  rfl

end IntegraIntake.InboundWebhook
