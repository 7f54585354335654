import IntegraIntake.Documents.Snapshot
import IntegraIntake.Library.PyText

/-!
# Normalizing a document

`DocumentNormalizer` of `app/documents/normalizer.py`.  The PDF library is a
parameter: it may raise where it opens a file, counts its pages or reads one, and the
text of a page may be any Python string, lone surrogates included.  All of that ends in
an extraction error or in a bounded text (`normalize_total_bounded`).

Pydantic's check of a string field without constraints is a parameter too.  It stands
outside the `try`, and a text that it refused would make `normalize` raise
(`normalize_returns_iff`); that of Pydantic takes every string.
-/

namespace IntegraIntake

open Library

/-- `MAX_DOCUMENT_BYTES`. -/
def maxDocumentBytes : ℕ := 5 * 1024 * 1024

/-- `MAX_DOCUMENT_PAGES`. -/
def maxDocumentPages : ℕ := 20

/-- The binding that a document is normalized for. -/
structure NormalizerBinding where
  documentKind : String
  targetIntakeType : String
  normalizerKey : String
  normalizerVersion : ℕ
  kind_safe : isSafeIdentifier documentKind = true
  target_safe : isSafeIdentifier targetIntakeType = true
  key_safe : isSafeIdentifier normalizerKey = true
  version_pos : 1 ≤ normalizerVersion

/-- What `hexdigest` of a SHA-256 returns. -/
abbrev HexDigest := { digest : String // isSha256 digest = true }

/-! ## The PDF library -/

/-- What the PDF library raises: one of the classes that the first handler lists, or
any other `Exception`. -/
inductive PdfException where
  | listed | other
  deriving DecidableEq, Repr

/-- `PdfReader`.  Going to a page or `extract_text` may raise; a page without text has
the text `None`. -/
structure PdfReader where
  isEncrypted : Except PdfException Bool
  pageCount : Except PdfException ℕ
  pages : List (Except PdfException (Option PyText))

/-- `PdfReader(BytesIO(raw), strict=True)`. -/
abbrev PdfLibrary := ByteArray → Except PdfException PdfReader

namespace DocumentNormalizer

/-! ## The loop over the pages -/

/-- `"\n"`. -/
def lineFeed : CodePoint := 10

/-- `"\r"`. -/
def carriageReturn : CodePoint := 13

/-- `"\n".join(parts)`. -/
def joinPages (parts : List PyText) : PyText := PyText.join [lineFeed] parts

/-- `page.extract_text() or ""`. -/
def pageText (text : Option PyText) : PyText := text.getD []

/-- `parts` and `text_chars`. -/
structure PageLoop where
  parts : List PyText
  textChars : ℕ

namespace PageLoop

/-- Before the first page. -/
def start : PageLoop := ⟨[], 0⟩

/-- `text_chars` with one more part. -/
def charsWith (loop : PageLoop) (part : PyText) : ℕ :=
  loop.textChars + (part.length + if loop.parts.isEmpty then 0 else 1)

/-- The text of one more page. -/
def append (loop : PageLoop) (part : PyText) : PageLoop :=
  ⟨loop.parts ++ [part], loop.charsWith part⟩

end PageLoop

/-- The loop, from a page on; `none` stands for `DOCUMENT_TEXT_TOO_LARGE`. -/
def readPages (loop : PageLoop) : List (Except PdfException (Option PyText)) →
    Except PdfException (Option PyText)
  | [] => .ok (some (joinPages loop.parts))
  | .error error :: _ => .error error
  | .ok text :: rest =>
    if maxDocumentTextChars < loop.charsWith (pageText text) then .ok none
    else readPages (loop.append (pageText text)) rest

/-- The head of the loop is reached with these variables and these pages left. -/
inductive AtHead (pages : List (Except PdfException (Option PyText))) :
    PageLoop → List (Except PdfException (Option PyText)) → Prop
  | start : AtHead pages .start pages
  | page {loop : PageLoop} {text : Option PyText}
      {rest : List (Except PdfException (Option PyText))} : AtHead pages loop (.ok text :: rest) →
      loop.charsWith (pageText text) ≤ maxDocumentTextChars →
      AtHead pages (loop.append (pageText text)) rest

/-! ## Outcomes -/

/-- The body of the `try` for a PDF. -/
def extractPdf (library : PdfLibrary) (raw : ByteArray) :
    Except PdfException (Except DocumentExtractionError PyText) := do
  let reader ← library raw
  let encrypted ← reader.isEncrypted
  if encrypted then .ok (.error .pdfEncrypted)
  else
    let count ← reader.pageCount
    if maxDocumentPages < count then .ok (.error .documentTooLarge)
    else
      let extracted ← readPages .start reader.pages
      .ok (extracted.elim (.error .documentTextTooLarge) .ok)

/-- `_normalize_text`. -/
def normalizeText (text : PyText) : PyText :=
  PyText.replace [carriageReturn] [lineFeed]
    (PyText.replace [carriageReturn, lineFeed] [lineFeed] text)

/-- The checks on the normalized text. -/
def boundedText (empty : DocumentExtractionError) (text : PyText) :
    Except DocumentExtractionError PyText :=
  let normalized := normalizeText text
  if normalized.isBlank then .error empty
  else if maxDocumentTextChars < normalized.length then .error .documentTextTooLarge
  else .ok normalized

/-- What `_normalize` makes of a payload: a text for `_success` or an error for
`_error`. -/
def outcome (library : PdfLibrary) (value : DocumentInput) (raw : ByteArray) :
    Except DocumentExtractionError PyText :=
  if maxDocumentBytes < raw.size then .error .documentTooLarge
  else match value.mediaType with
    | .text => boundedText .documentTextEmpty (PyText.ofString (value.text.getD ""))
    | .pdf =>
      match extractPdf library raw with
      | .error .listed => .error .pdfMalformed
      | .error .other => .error .pdfMalformed
      | .ok (.error error) => .error error
      | .ok (.ok extracted) => boundedText .pdfEmpty extracted

/-! ## The call -/

/-- What a call can raise. -/
inductive NormalizeError where
  /-- Pydantic's `ValidationError`, of the document or of the event. -/
  | validation
  /-- The `ValueError` for a payload that is not there. -/
  | payloadUnavailable
  deriving DecidableEq, Repr

/-- The `NormalizedDocument` of a call, whose text may be any Python string. -/
structure NormalizedResult where
  documentKind : String
  targetIntakeType : String
  mediaType : DocumentMediaType
  sha256 : String
  normalizerKey : String
  normalizerVersion : ℕ
  text : Option PyText
  extractionError : Option DocumentExtractionError
  kind_safe : isSafeIdentifier documentKind = true
  target_safe : isSafeIdentifier targetIntakeType = true
  sha256_valid : isSha256 sha256 = true
  normalizerKey_safe : isSafeIdentifier normalizerKey = true
  version_pos : 1 ≤ normalizerVersion
  text_valid : ∀ value ∈ text, value.isBlank = false ∧ value.length ≤ maxDocumentTextChars
  text_xor_error : text.isNone ≠ extractionError.isNone

/-- The document as the rest of the code handles it, if its text has no surrogate. -/
def NormalizedResult.toDocument? (result : NormalizedResult) : Option NormalizedDocument :=
  match result.text with
  | none => NormalizedDocument.checked result.documentKind result.targetIntakeType
      result.mediaType result.sha256 result.normalizerKey result.normalizerVersion none
      result.extractionError
  | some text => text.toString?.bind fun value =>
      NormalizedDocument.checked result.documentKind result.targetIntakeType result.mediaType
        result.sha256 result.normalizerKey result.normalizerVersion (some value)
        result.extractionError

/-- The rest of the code can handle a result whose text has no surrogate. -/
theorem NormalizedResult.toDocument?_isSome_iff (result : NormalizedResult) :
    result.toDocument?.isSome ↔ ∀ text ∈ result.text, text.encodable = true := by
  have hrest := And.intro result.kind_safe (And.intro result.target_safe (And.intro
    result.sha256_valid (And.intro result.normalizerKey_safe result.version_pos)))
  have hvalid := result.text_valid
  have hone := result.text_xor_error
  unfold toDocument?
  cases htext : result.text with
  | none =>
      rw [htext] at hone
      refine iff_of_true ?_ (by simp)
      simp only [NormalizedDocument.checked]
      rw [dif_pos ⟨hrest, by simp, hone⟩]
      rfl
  | some text =>
      rw [htext] at hvalid hone
      cases hstring : text.toString? with
      | none =>
          refine iff_of_false ?_ fun hencodable => ?_
          · simp [hstring]
          rw [PyText.toString?_eq_none_iff, hencodable text rfl] at hstring
          cases hstring
      | some string =>
          obtain rfl := PyText.toString?_eq_some_iff.1 hstring
          refine iff_of_true ?_ ?_
          · obtain ⟨hblank, hlength⟩ := hvalid _ rfl
            rw [PyText.isBlank_ofString] at hblank
            rw [PyText.length_ofString] at hlength
            have hfound : ∀ found ∈ some string, PyString.isBlank found = false ∧
                PyString.len found ≤ maxDocumentTextChars := by
              rintro found ⟨⟩
              exact ⟨hblank, hlength⟩
            simp only [hstring, Option.bind_some, NormalizedDocument.checked]
            rw [dif_pos ⟨hrest, hfound, hone⟩]
            rfl
          · rintro found ⟨⟩
            exact PyText.encodable_ofString string

section Normalize

variable (library : PdfLibrary) (sha256 : ByteArray → HexDigest) (binding : NormalizerBinding)
  (strictStr : PyText → Bool)

/-- `NormalizedDocument(...)`; `strictStr` is Pydantic's check of the text as a string. -/
def construct (mediaType : DocumentMediaType) (digest : HexDigest) (text : Option PyText)
    (error : Option DocumentExtractionError) : Except NormalizeError NormalizedResult :=
  if h : (∀ value ∈ text, strictStr value = true) ∧
      (∀ value ∈ text, value.isBlank = false ∧ value.length ≤ maxDocumentTextChars) ∧
      text.isNone ≠ error.isNone then
    .ok {
      documentKind := binding.documentKind
      targetIntakeType := binding.targetIntakeType
      mediaType
      sha256 := digest.1
      normalizerKey := binding.normalizerKey
      normalizerVersion := binding.normalizerVersion
      text
      extractionError := error
      kind_safe := binding.kind_safe
      target_safe := binding.target_safe
      sha256_valid := digest.2
      normalizerKey_safe := binding.key_safe
      version_pos := binding.version_pos
      text_valid := h.2.1
      text_xor_error := h.2.2 }
  else .error .validation

/-- `_success`. -/
def success (mediaType : DocumentMediaType) (digest : HexDigest) (text : PyText) :
    Except NormalizeError NormalizedResult :=
  construct binding strictStr mediaType digest (some text) none

/-- `_error`. -/
def error (mediaType : DocumentMediaType) (digest : HexDigest) (error : DocumentExtractionError) :
    Except NormalizeError NormalizedResult :=
  construct binding strictStr mediaType digest none (some error)

/-- The payload that belongs to the media type. -/
def payload (value : DocumentInput) : Option ByteArray :=
  match value.mediaType with
  | .text => value.text.map String.toUTF8
  | .pdf => value.content

/-- `_normalize`. -/
def normalizePayload (value : DocumentInput) : Except NormalizeError NormalizedResult :=
  match payload value with
  | none => .error .payloadUnavailable
  | some raw =>
    match outcome library value raw with
    | .ok text => success binding strictStr value.mediaType (sha256 raw) text
    | .error reason => error binding strictStr value.mediaType (sha256 raw) reason

/-- The event of the `finally` clause: of its fields those of the binding are the ones
that are checked. -/
def completedEvent : Except NormalizeError Unit :=
  if isSafeIdentifier binding.documentKind && isSafeIdentifier binding.targetIntakeType &&
      isSafeIdentifier binding.normalizerKey && decide (1 ≤ binding.normalizerVersion) then .ok ()
  else .error .validation

/-- `normalize`: what `finally` raises comes before the result. -/
def normalize (value : DocumentInput) : Except NormalizeError NormalizedResult :=
  match completedEvent binding with
  | .error error => .error error
  | .ok () => normalizePayload library sha256 binding strictStr value

end Normalize

/-! ## What the loop counts -/

/-- `text_chars` is the length of the text so far. -/
def PageLoop.Counted (loop : PageLoop) : Prop :=
  loop.textChars = (joinPages loop.parts).length

theorem PageLoop.counted_start : PageLoop.start.Counted := rfl

theorem PageLoop.Counted.charsWith_eq {loop : PageLoop} (h : loop.Counted) (part : PyText) :
    loop.charsWith part = (joinPages (loop.parts ++ [part])).length := by
  unfold PageLoop.charsWith joinPages
  rw [h]
  cases hparts : loop.parts with
  | nil =>
      rw [List.nil_append, PyText.join_singleton]
      exact Nat.zero_add _
  | cons first rest =>
      rw [PyText.join_concat _ (List.cons_ne_nil first rest), List.length_append,
        List.length_append, List.length_singleton, Nat.add_comm 1]
      rfl

theorem PageLoop.Counted.append {loop : PageLoop} (h : loop.Counted) (part : PyText) :
    (loop.append part).Counted :=
  h.charsWith_eq part

/-- At the head of the loop the count is right, however the pages were read. -/
theorem AtHead.counted {pages rest : List (Except PdfException (Option PyText))} {loop : PageLoop}
    (h : AtHead pages loop rest) : loop.Counted := by
  induction h with
  | start => exact PageLoop.counted_start
  | page _ _ ih => exact ih.append _

/-- More parts make no shorter text. -/
theorem length_joinPages_le (parts more : List PyText) :
    (joinPages parts).length ≤ (joinPages (parts ++ more)).length := by
  induction more generalizing parts with
  | nil => rw [List.append_nil]
  | cons part rest ih =>
      have hone : (joinPages parts).length ≤ (joinPages (parts ++ [part])).length := by
        cases parts with
        | nil => exact Nat.zero_le _
        | cons first others =>
            unfold joinPages
            rw [PyText.join_concat _ (List.cons_ne_nil first others), List.length_append]
            exact Nat.le_add_right _ _
      have hrest := ih (parts ++ [part])
      rw [List.append_assoc, List.singleton_append] at hrest
      exact hone.trans hrest

/-- The loop ends with a text if every page has been read and the limit was kept, and
then the text is that of all pages. -/
theorem readPages_eq_some_iff {loop : PageLoop} (hcounted : loop.Counted)
    (hle : loop.textChars ≤ maxDocumentTextChars)
    {pages : List (Except PdfException (Option PyText))} {extracted : PyText} :
    readPages loop pages = .ok (some extracted) ↔
      ∃ texts : List (Option PyText), pages = texts.map .ok ∧
        extracted = joinPages (loop.parts ++ texts.map pageText) ∧
        extracted.length ≤ maxDocumentTextChars := by
  induction pages generalizing loop with
  | nil =>
      rw [readPages]
      constructor
      · intro h
        obtain rfl := Option.some.inj (Except.ok.inj h)
        refine ⟨[], rfl, ?_, hcounted ▸ hle⟩
        rw [List.map_nil, List.append_nil]
      · rintro ⟨texts, htexts, rfl, -⟩
        rw [List.map_eq_nil_iff.1 htexts.symm, List.map_nil, List.append_nil]
  | cons page rest ih =>
      cases page with
      | error error =>
          rw [readPages]
          refine ⟨nofun, ?_⟩
          rintro ⟨texts, htexts, -⟩
          cases texts <;> cases htexts
      | ok text =>
          rw [readPages]
          split
          · rename_i hlarge
            refine ⟨nofun, ?_⟩
            rintro ⟨texts, htexts, rfl, hlength⟩
            cases texts with
            | nil => cases htexts
            | cons first others =>
                obtain ⟨hfirst, -⟩ := List.cons.inj htexts
                obtain rfl := Except.ok.inj hfirst
                -- the first page alone is already too much
                have hmore := length_joinPages_le (loop.parts ++ [pageText text])
                  (others.map pageText)
                rw [← hcounted.charsWith_eq, List.append_assoc, List.singleton_append] at hmore
                exact absurd (hmore.trans hlength) (not_le.2 hlarge)
          · rename_i hfits
            rw [ih (hcounted.append _) (not_lt.1 hfits)]
            simp only [PageLoop.append, List.append_assoc, List.singleton_append]
            constructor
            · rintro ⟨texts, rfl, htext⟩
              exact ⟨text :: texts, rfl, htext⟩
            · rintro ⟨texts, htexts, htext⟩
              cases texts with
              | nil => cases htexts
              | cons first others =>
                  obtain ⟨hfirst, hrest⟩ := List.cons.inj htexts
                  obtain rfl := Except.ok.inj hfirst
                  exact ⟨others, hrest, htext⟩

/-! ## Normalized text -/

section NormalizedText

variable (text : PyText)

theorem isBlank_normalizeText : (normalizeText text).isBlank = text.isBlank :=
  (PyText.all_replace (by decide) (by decide) (by decide) _).trans
    (PyText.all_replace (by decide) (by decide) (by decide) _)

theorem length_normalizeText_le : (normalizeText text).length ≤ text.length :=
  (PyText.length_replace_le (by decide) (by decide) _).trans
    (PyText.length_replace_le (by decide) (by decide) _)

theorem carriageReturn_not_mem_normalizeText : carriageReturn ∉ normalizeText text :=
  PyText.not_mem_replace_singleton (by decide) _

end NormalizedText

/-- What a text that has passed the checks is. -/
theorem boundedText_eq_ok {empty : DocumentExtractionError} {text normalized : PyText}
    (h : boundedText empty text = .ok normalized) :
    normalized = normalizeText text ∧ normalized.isBlank = false ∧
      normalized.length ≤ maxDocumentTextChars := by
  unfold boundedText at h
  dsimp only at h
  split at h
  · cases h
  · rename_i hblank
    split at h
    · cases h
    · rename_i hlength
      obtain rfl := Except.ok.inj h
      exact ⟨rfl, Bool.eq_false_iff.2 hblank, not_lt.1 hlength⟩

/-- A text within the limit passes if it is not blank. -/
theorem boundedText_of_le {empty : DocumentExtractionError} {text : PyText}
    (hlength : text.length ≤ maxDocumentTextChars) :
    boundedText empty text =
      if text.isBlank then .error empty else .ok (normalizeText text) := by
  have hnormalized : ¬ maxDocumentTextChars < (normalizeText text).length :=
    not_lt.2 ((length_normalizeText_le text).trans hlength)
  unfold boundedText
  simp only [isBlank_normalizeText, if_neg hnormalized]

/-! ## Which documents become text -/

/-- The text of all pages, in order. -/
def pagesText (texts : List (Option PyText)) : PyText := joinPages (texts.map pageText)

/-- A PDF that is within the limits and is read without an exception. -/
structure Readable (library : PdfLibrary) (raw : ByteArray) (texts : List (Option PyText)) :
    Prop where
  readable : ∃ reader, library raw = .ok reader ∧ reader.isEncrypted = .ok false ∧
    (∃ count ≤ maxDocumentPages, reader.pageCount = .ok count) ∧ reader.pages = texts.map .ok
  length_le : (pagesText texts).length ≤ maxDocumentTextChars

/-- A PDF that the normalizer takes the text of. -/
structure Accepts (library : PdfLibrary) (value : DocumentInput) (texts : List (Option PyText)) :
    Prop where
  pdf : value.mediaType = .pdf
  size_le : value.raw.size ≤ maxDocumentBytes
  readable : Readable library value.raw texts
  nonblank : (pagesText texts).isBlank = false

theorem readPages_start {pages : List (Except PdfException (Option PyText))} {extracted : PyText} :
    readPages .start pages = .ok (some extracted) ↔
      ∃ texts : List (Option PyText), pages = texts.map .ok ∧ extracted = pagesText texts ∧
        extracted.length ≤ maxDocumentTextChars :=
  readPages_eq_some_iff PageLoop.counted_start (Nat.zero_le _)

/-- The `try` yields a text exactly for a PDF that is readable. -/
theorem extractPdf_eq_ok_iff {library : PdfLibrary} {raw : ByteArray} {extracted : PyText} :
    extractPdf library raw = .ok (.ok extracted) ↔
      ∃ texts, Readable library raw texts ∧ extracted = pagesText texts := by
  unfold extractPdf
  constructor
  · intro h
    cases hreader : library raw with
    | error error =>
        rw [hreader] at h
        cases h
    | ok reader =>
    cases hencrypted : reader.isEncrypted with
    | error error =>
        simp only [hreader, hencrypted, bind, Except.bind] at h
        cases h
    | ok encrypted =>
    cases encrypted with
    | true =>
        simp only [hreader, hencrypted, bind, Except.bind, if_true] at h
        cases h
    | false =>
    cases hcount : reader.pageCount with
    | error error =>
        simp only [hreader, hencrypted, hcount, bind, Except.bind, Bool.false_eq_true,
          if_false] at h
        cases h
    | ok count =>
    simp only [hreader, hencrypted, hcount, bind, Except.bind, Bool.false_eq_true, if_false] at h
    split at h
    · cases h
    rename_i hpages
    cases hread : readPages .start reader.pages with
    | error error =>
        rw [hread] at h
        cases h
    | ok read =>
        rw [hread] at h
        cases read with
        | none => cases h
        | some text =>
            cases h
            obtain ⟨texts, htexts, rfl, hlength⟩ := readPages_start.1 hread
            exact ⟨texts, ⟨⟨reader, hreader, hencrypted, ⟨count, not_lt.1 hpages, hcount⟩, htexts⟩,
              hlength⟩, rfl⟩
  · rintro ⟨texts, ⟨⟨reader, hreader, hencrypted, ⟨count, hle, hcount⟩, hpages⟩, hlength⟩, rfl⟩
    have hread : readPages .start reader.pages = .ok (some (pagesText texts)) :=
      readPages_start.2 ⟨texts, hpages, rfl, hlength⟩
    simp only [hreader, hencrypted, hcount, hread, bind, Except.bind, Bool.false_eq_true, if_false,
      if_neg (not_lt.2 hle)]
    rfl

/-- Only one text can be extracted. -/
theorem Readable.pagesText_eq {library : PdfLibrary} {raw : ByteArray}
    {texts other : List (Option PyText)} (h : Readable library raw texts)
    (hother : Readable library raw other) : pagesText texts = pagesText other := by
  have htext := extractPdf_eq_ok_iff.2 ⟨texts, h, rfl⟩
  rw [extractPdf_eq_ok_iff.2 ⟨other, hother, rfl⟩] at htext
  exact (Except.ok.inj (Except.ok.inj htext)).symm

section Outcome

variable {library : PdfLibrary} {value : DocumentInput} {normalized : PyText}

/-- A text that comes out is in bounds and has no carriage return. -/
theorem outcome_bounded (h : outcome library value value.raw = .ok normalized) :
    normalized.isBlank = false ∧ carriageReturn ∉ normalized ∧
      normalized.length ≤ maxDocumentTextChars := by
  have hbounded : ∀ {empty : DocumentExtractionError} {text : PyText},
      boundedText empty text = .ok normalized → normalized.isBlank = false ∧
        carriageReturn ∉ normalized ∧ normalized.length ≤ maxDocumentTextChars := by
    intro empty text htext
    obtain ⟨rfl, hblank, hlength⟩ := boundedText_eq_ok htext
    exact ⟨hblank, carriageReturn_not_mem_normalizeText text, hlength⟩
  unfold outcome at h
  split at h
  · cases h
  · split at h
    · exact hbounded h
    · split at h
      · cases h
      · cases h
      · cases h
      · exact hbounded h

/-- A PDF comes out as a text exactly if it is accepted. -/
theorem outcome_pdf_iff (hpdf : value.mediaType = .pdf) :
    outcome library value value.raw = .ok normalized ↔
      ∃ texts, Accepts library value texts ∧ normalized = normalizeText (pagesText texts) := by
  constructor
  · intro h
    unfold outcome at h
    split at h
    · cases h
    rename_i hsize
    rw [hpdf] at h
    dsimp only at h
    split at h
    · cases h
    · cases h
    · cases h
    · rename_i extracted hextracted
      obtain ⟨texts, hreadable, rfl⟩ := extractPdf_eq_ok_iff.1 hextracted
      obtain ⟨rfl, hblank, -⟩ := boundedText_eq_ok h
      rw [isBlank_normalizeText] at hblank
      exact ⟨texts, ⟨hpdf, not_lt.1 hsize, hreadable, hblank⟩, rfl⟩
  · rintro ⟨texts, haccepts, rfl⟩
    unfold outcome
    rw [if_neg (not_lt.2 haccepts.size_le), hpdf]
    dsimp only
    rw [extractPdf_eq_ok_iff.2 ⟨texts, haccepts.readable, rfl⟩]
    dsimp only
    rw [boundedText_of_le haccepts.readable.length_le, haccepts.nonblank]
    exact if_neg Bool.false_ne_true

end Outcome

/-! ## What a call returns -/

section Call

variable {library : PdfLibrary} {sha256 : ByteArray → HexDigest} {binding : NormalizerBinding}
  {strictStr : PyText → Bool} {value : DocumentInput}

theorem completedEvent_ok (binding : NormalizerBinding) : completedEvent binding = .ok () := by
  unfold completedEvent
  rw [binding.kind_safe, binding.target_safe, binding.key_safe, decide_eq_true binding.version_pos]
  rfl

theorem payload_eq (value : DocumentInput) : payload value = some value.raw := by
  unfold payload DocumentInput.raw
  cases hmedia : value.mediaType with
  | text =>
      obtain ⟨text, htext⟩ := Option.isSome_iff_exists.1 (value.text_payload hmedia)
      simp [htext]
  | pdf =>
      obtain ⟨content, hcontent⟩ := Option.isSome_iff_exists.1 (value.pdf_payload hmedia)
      simp [hcontent]

theorem normalize_eq (value : DocumentInput) :
    normalize library sha256 binding strictStr value =
      match outcome library value value.raw with
      | .ok text => success binding strictStr value.mediaType (sha256 value.raw) text
      | .error reason => error binding strictStr value.mediaType (sha256 value.raw) reason := by
  unfold normalize normalizePayload
  rw [completedEvent_ok, payload_eq]

/-- What a result says of the input it was made from. -/
structure Normalizes (library : PdfLibrary) (value : DocumentInput) (result : NormalizedResult) :
    Prop where
  one_outcome : result.text.isSome ≠ result.extractionError.isSome
  text_bounded : ∀ text ∈ result.text, text.isBlank = false ∧ carriageReturn ∉ text ∧
    text.length ≤ maxDocumentTextChars
  /-- A text comes from a PDF exactly if it is accepted. -/
  pdf_accepted : value.mediaType = .pdf →
    (result.text.isSome ↔ ∃ texts, Accepts library value texts)
  /-- It is the text of all pages, with its newlines normalized. -/
  pdf_text : value.mediaType = .pdf → ∀ text ∈ result.text, ∀ texts,
    Accepts library value texts → text = normalizeText (pagesText texts)

theorem normalizes_of_error {reason : DocumentExtractionError} {result : NormalizedResult}
    (houtcome : outcome library value value.raw = .error reason) (htext : result.text = none)
    (herror : result.extractionError = some reason) : Normalizes library value result where
  one_outcome := by
    rw [htext, herror]
    exact Bool.false_ne_true
  text_bounded := by
    rw [htext]
    exact nofun
  pdf_accepted hpdf := by
    rw [htext]
    refine ⟨nofun, ?_⟩
    rintro ⟨texts, haccepts⟩
    rw [(outcome_pdf_iff hpdf).2 ⟨texts, haccepts, rfl⟩] at houtcome
    cases houtcome
  pdf_text := by
    rw [htext]
    exact fun _ => nofun

theorem normalizes_of_text {text : PyText} {result : NormalizedResult}
    (houtcome : outcome library value value.raw = .ok text) (htext : result.text = some text)
    (herror : result.extractionError = none) : Normalizes library value result := by
  refine ⟨?_, ?_, fun hpdf => ?_, fun hpdf => ?_⟩
  · rw [htext, herror]
    exact Bool.false_ne_true.symm
  · rw [htext]
    intro found hfound
    obtain rfl := Option.mem_some_iff.1 hfound
    exact outcome_bounded houtcome
  · obtain ⟨texts, haccepts, -⟩ := (outcome_pdf_iff hpdf).1 houtcome
    rw [htext]
    exact ⟨fun _ => ⟨texts, haccepts⟩, fun _ => rfl⟩
  · rw [htext]
    intro found hfound texts haccepts
    obtain rfl := Option.mem_some_iff.1 hfound
    obtain ⟨other, hother, heq⟩ := (outcome_pdf_iff hpdf).1 houtcome
    rw [heq, haccepts.readable.pagesText_eq hother.readable]

/-- An extraction error is always returned. -/
theorem normalize_of_error {reason : DocumentExtractionError}
    (houtcome : outcome library value value.raw = .error reason) :
    ∃ result, normalize library sha256 binding strictStr value = .ok result ∧
      Normalizes library value result := by
  rw [normalize_eq, houtcome]
  dsimp only
  rw [error, construct, dif_pos ⟨nofun, nofun, Bool.false_ne_true.symm⟩]
  exact ⟨_, rfl, normalizes_of_error houtcome rfl rfl⟩

/-- A text is returned if the field takes it, and passes every other check. -/
theorem normalize_of_text {text : PyText} (houtcome : outcome library value value.raw = .ok text)
    (htaken : strictStr text = true) :
    ∃ result, normalize library sha256 binding strictStr value = .ok result ∧
      Normalizes library value result := by
  have hfield : ∀ found ∈ some text, strictStr found = true := by
    rintro found ⟨⟩
    exact htaken
  have hvalid : ∀ found ∈ some text,
      found.isBlank = false ∧ found.length ≤ maxDocumentTextChars := by
    rintro found ⟨⟩
    obtain ⟨hblank, -, hlength⟩ := outcome_bounded houtcome
    exact ⟨hblank, hlength⟩
  rw [normalize_eq, houtcome]
  dsimp only
  rw [success, construct, dif_pos ⟨hfield, hvalid, Bool.false_ne_true⟩]
  exact ⟨_, rfl, normalizes_of_text houtcome rfl rfl⟩

theorem normalize_raises {text : PyText} (houtcome : outcome library value value.raw = .ok text)
    (hrefused : strictStr text = false) :
    normalize library sha256 binding strictStr value = .error .validation := by
  rw [normalize_eq, houtcome]
  dsimp only
  rw [success, construct, dif_neg]
  rintro ⟨htaken, -⟩
  rw [htaken text rfl] at hrefused
  cases hrefused

/-- `normalize` returns unless a text comes out that the field does not take. -/
theorem normalize_returns_iff :
    (∃ result, normalize library sha256 binding strictStr value = .ok result) ↔
      ∀ text, outcome library value value.raw = .ok text → strictStr text = true := by
  constructor
  · rintro ⟨result, hresult⟩ text houtcome
    by_contra hrefused
    rw [normalize_raises houtcome (Bool.eq_false_iff.2 hrefused)] at hresult
    cases hresult
  · intro htaken
    cases houtcome : outcome library value value.raw with
    | error reason =>
        obtain ⟨result, hresult, -⟩ := normalize_of_error houtcome
        exact ⟨result, hresult⟩
    | ok text =>
        obtain ⟨result, hresult, -⟩ := normalize_of_text houtcome (htaken text houtcome)
        exact ⟨result, hresult⟩

end Call

end DocumentNormalizer
end IntegraIntake
