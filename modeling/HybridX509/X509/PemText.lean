import HybridX509.Lib.Ascii
import HybridX509.Lib.Base64
import HybridX509.Lib.Text
import HybridX509.X509.Pem

/-! # The text of a PEM document

`encode_certificate_pem` of `mutation.rs`, and the reader it is written for: the
documented behaviour of `parse_x509_pem`, line by line. Encoding and reading meet in
one list of lines, each of them ASCII and without a line feed.
-/

namespace HybridX509.X509

open Lib

/-! ## Reading -/

/-- A line that is valid UTF-8. -/
def utf8Line (line : List UInt8) : Option (List Char) :=
  let chars := fromUtf8Lossy line
  if chars.flatMap String.utf8EncodeChar = line then some chars else none

/-- The label of the first line that begins a document, and the lines after it. -/
def readHeader : List (List UInt8) → Option (String × List (List UInt8))
  | [] => none
  | line :: rest => do
      let line ← utf8Line line
      if "-----BEGIN ".toList.isPrefixOf line then
        let title := line.drop 11
        if title.tails.any ("-----".toList.isPrefixOf ·) then
          some (String.ofList (title.takeWhile (· != '-')), rest)
        else none
      else readHeader rest

/-- The text up to the line that ends a document, and the lines after it. -/
def readBody : List (List UInt8) → Option (List Char × List (List UInt8))
  | [] => none
  | line :: rest => do
      let line ← utf8Line line
      if "-----END ".toList.isPrefixOf line then some ([], rest)
      else
        let (body, remaining) ← readBody rest
        some (trimEnd line ++ body, remaining)

/-- `parse_x509_pem`. -/
def parseX509Pem (base64Decode : String → Option (List UInt8)) (bytes : List UInt8) :
    Option (List UInt8 × Pem) := do
  let (label, rest) ← readHeader (bytes.splitOn 10)
  let (body, remaining) ← readBody rest
  let contents ← base64Decode (.ofList body)
  some (List.intercalate [10] remaining, ⟨label, contents⟩)

/-! ## Writing -/

/-- The encoded text is ASCII, so that its bytes are its characters. -/
def encodeCertificatePem (base64Encode : List UInt8 → String) (der : List UInt8) : String :=
  let encoded := base64Encode der
  let pem := (chunks 64 encoded.toList).foldl (fun pem chunk => pem ++ String.ofList chunk ++ "\n")
    "-----BEGIN CERTIFICATE-----\n"
  pem ++ "-----END CERTIFICATE-----\n"

/-! ## Lines -/

def beginLine : String := "-----BEGIN CERTIFICATE-----"

def endLine : String := "-----END CERTIFICATE-----"

/-- The lines of an encoded certificate. -/
def certificateLines (base64Encode : List UInt8 → String) (der : List UInt8) : List (List Char) :=
  beginLine.toList :: (chunks 64 (base64Encode der).toList ++ [endLine.toList])

theorem toList_foldl_lines (lines : List (List Char)) (pem : String) :
    (lines.foldl (fun pem chunk => pem ++ String.ofList chunk ++ "\n") pem).toList =
      pem.toList ++ lines.flatMap (· ++ ['\n']) := by
  induction lines generalizing pem with
  | nil => simp
  | cons line rest ih => simp [ih]

section Encoding

variable {encode : List UInt8 → String} {decode : String → Option (List UInt8)}

theorem toList_encodeCertificatePem (der : List UInt8) :
    (encodeCertificatePem encode der).toList =
      (certificateLines encode der).flatMap (· ++ ['\n']) := by
  have first : "-----BEGIN CERTIFICATE-----\n".toList = beginLine.toList ++ ['\n'] := by
    simp [beginLine]
  have last : "-----END CERTIFICATE-----\n".toList = endLine.toList ++ ['\n'] := by
    simp [endLine]
  rw [encodeCertificatePem, String.toList_append, toList_foldl_lines, first, last,
    certificateLines, List.flatMap_cons, List.flatMap_append, List.flatMap_singleton,
    List.append_assoc]

/-- A chunk of an encoding holds characters of the alphabet only. -/
theorem isBase64_of_mem_chunk (base64 : Base64.Standard encode decode) {der : List UInt8}
    {line : List Char} (chunk : line ∈ chunks 64 (encode der).toList) :
    ∀ c ∈ line, Base64.IsBase64 c := by
  intro c member
  have inside : c ∈ (chunks 64 (encode der).toList).flatten :=
    List.mem_flatten_of_mem chunk member
  rw [flatten_chunks] at inside
  exact base64.alphabet der c inside

/-- A line of ASCII characters from the space on. -/
def Printable (line : List Char) : Prop := ∀ c ∈ line, c.toNat < 128 ∧ 32 ≤ c.toNat

theorem printable_of_mem_certificateLines (base64 : Base64.Standard encode decode)
    {der : List UInt8} : ∀ line ∈ certificateLines encode der, Printable line := by
  intro line member
  rcases List.mem_cons.mp member with rfl | others
  · simp [beginLine, Printable]
  · rcases List.mem_append.mp others with chunk | last
    · intro c inside
      obtain ⟨ascii, printable, _⟩ := (isBase64_of_mem_chunk base64 chunk c inside).plain
      exact ⟨ascii, by omega⟩
    · rw [List.mem_singleton.mp last]
      simp [endLine, Printable]

theorem Printable.noLineFeed {line : List Char} (printable : Printable line) : '\n' ∉ line := by
  intro member
  exact absurd (printable '\n' member).2 (by decide)

/-- The bytes of a printable line. -/
def lineBytes (line : List Char) : List UInt8 := line.map fun c => UInt8.ofNat c.toNat

theorem Printable.noLineFeedByte {line : List Char} (printable : Printable line) :
    10 ∉ lineBytes line := by
  intro member
  obtain ⟨c, inside, same⟩ := List.mem_map.mp member
  obtain ⟨ascii, visible⟩ := printable c inside
  have value := congrArg UInt8.toNat same
  rw [UInt8.toNat_ofNat_of_lt' (Nat.lt_trans ascii (by decide))] at value
  simp only [UInt8.reduceToNat] at value
  omega

theorem Printable.utf8Line {line : List Char} (printable : Printable line) :
    utf8Line (lineBytes line) = some line := by
  have ascii : ∀ c ∈ line, c.toNat < 128 := fun c member => (printable c member).1
  simp [X509.utf8Line, lineBytes, fromUtf8Lossy_of_ascii ascii,
    flatMap_utf8EncodeChar_of_ascii ascii]

/-- The bytes of the text are split into the bytes of the lines. -/
theorem splitOn_bytes_encodeCertificatePem (base64 : Base64.Standard encode decode)
    (der : List UInt8) :
    (bytes (encodeCertificatePem encode der)).splitOn 10 =
      (certificateLines encode der).map lineBytes ++ [[]] := by
  have ascii : ∀ c ∈ (certificateLines encode der).flatMap (· ++ ['\n']), c.toNat < 128 := by
    intro c member
    obtain ⟨line, inLines, inLine⟩ := List.mem_flatMap.mp member
    rcases List.mem_append.mp inLine with inside | last
    · exact (printable_of_mem_certificateLines base64 line inLines c inside).1
    · rw [List.mem_singleton.mp last]
      decide
  have joined : bytes (encodeCertificatePem encode der) =
      ((certificateLines encode der).map lineBytes).flatMap (· ++ [10]) := by
    rw [bytes_eq_flatMap, toList_encodeCertificatePem, flatMap_utf8EncodeChar_of_ascii ascii,
      List.map_flatMap, List.flatMap_map]
    simp [lineBytes]
  rw [joined]
  refine splitOn_lines ?_
  intro line member
  obtain ⟨chars, inLines, rfl⟩ := List.mem_map.mp member
  exact (printable_of_mem_certificateLines base64 chars inLines).noLineFeedByte

/-! ## The reader on an encoded certificate -/

theorem readHeader_certificateLines (rest : List (List UInt8)) :
    readHeader (lineBytes beginLine.toList :: rest) = some ("CERTIFICATE", rest) := by
  have printable : Printable beginLine.toList := by simp [beginLine, Printable]
  simp only [readHeader, printable.utf8Line, Option.bind_eq_bind, Option.bind_some]
  simp [beginLine]

/-- A chunk is not the end of the document, and has nothing to trim. -/
theorem chunk_plain (base64 : Base64.Standard encode decode) {der : List UInt8}
    {line : List Char} (chunk : line ∈ chunks 64 (encode der).toList) :
    "-----END ".toList.isPrefixOf line = false ∧ trimEnd line = line := by
  have alphabet := isBase64_of_mem_chunk base64 chunk
  refine ⟨?_, ?_⟩
  · cases line with
    | nil => simp
    | cons first rest =>
        have dash := (alphabet first List.mem_cons_self).plain.2.2
        have other : first ≠ '-' := by
          rintro rfl
          exact dash rfl
        have literal : "-----END ".toList = ['-', '-', '-', '-', '-', 'E', 'N', 'D', ' '] := by simp
        rw [literal, List.isPrefixOf_cons_cons, beq_false_of_ne other.symm, Bool.false_and]
  · have kept : line.reverse.dropWhile isWhitespace = line.reverse := by
      cases reversed : line.reverse with
      | nil => rfl
      | cons last others =>
          have member : last ∈ line := by
            rw [← List.mem_reverse, reversed]
            exact List.mem_cons_self
          have visible : isWhitespace last = false := by
            obtain ⟨ascii, printable, _⟩ := (alphabet last member).plain
            simp [isWhitespace]
            omega
          rw [List.dropWhile_cons_of_neg (by simp [visible])]
    rw [trimEnd, kept, List.reverse_reverse]

theorem readBody_chunks (base64 : Base64.Standard encode decode) {der : List UInt8}
    {lines : List (List Char)} (part : ∀ line ∈ lines, line ∈ chunks 64 (encode der).toList)
    (rest : List (List UInt8)) :
    readBody (lines.map lineBytes ++ lineBytes endLine.toList :: rest) =
      some (lines.flatten, rest) := by
  induction lines with
  | nil =>
      have printable : Printable endLine.toList := by simp [endLine, Printable]
      simp only [List.map_nil, List.nil_append, readBody, printable.utf8Line, Option.bind_eq_bind,
        Option.bind_some]
      simp [endLine]
  | cons line others ih =>
      have chunk := part line List.mem_cons_self
      obtain ⟨unfinished, kept⟩ := chunk_plain base64 chunk
      have printable : Printable line := by
        intro c inside
        obtain ⟨ascii, visible, _⟩ := (isBase64_of_mem_chunk base64 chunk c inside).plain
        exact ⟨ascii, by omega⟩
      have tail := ih fun line member => part line (List.mem_cons_of_mem _ member)
      simp only [List.map_cons, List.cons_append, readBody, printable.utf8Line, unfinished,
        Bool.false_eq_true, if_false, tail, kept, Option.bind_eq_bind, Option.bind_some,
        List.flatten_cons]

/-- An encoded certificate is read back whole. -/
theorem parseX509Pem_encodeCertificatePem (base64 : Base64.Standard encode decode)
    (der : List UInt8) :
    parseX509Pem decode (bytes (encodeCertificatePem encode der)) =
      some ([], ⟨"CERTIFICATE", der⟩) := by
  have body := @readBody_chunks encode decode base64 der _ (fun _ member => member) [[]]
  simp only [parseX509Pem, splitOn_bytes_encodeCertificatePem base64, certificateLines,
    List.map_cons, List.map_append, List.map_nil, List.cons_append, List.append_assoc,
    List.nil_append, readHeader_certificateLines, Option.bind_eq_bind, Option.bind_some, body,
    flatten_chunks, String.ofList_toList, base64.decode_encode]
  rfl

/-- A document without a remainder, within the limit, is returned under its label. -/
theorem decodePem_of_parsed {lib : Library} {text contents : List UInt8} {label : String}
    {kind : PemKind} {limit : Nat} {source : String} (fits : text.length ≤ limit)
    (parsed : lib.parseX509Pem text = some ([], ⟨label, contents⟩)) :
    decodePem lib text kind limit source =
      if label ∈ kind.labels then .ok contents
      else .error (.wrongLabel source label (" or ".intercalate kind.labels)) := by
  have short : ¬ limit < text.length := Nat.not_lt.mpr fits
  by_cases known : label ∈ kind.labels <;>
    simp [decodePem, failIf, short, parsed, orFail, known, bind, Except.bind, pure, Except.pure]

/-- A file that holds an encoded certificate is read as that certificate. -/
theorem readDer_encoded {lib : Library} (base64 : Base64.Standard encode decode)
    {der text : List UInt8} (encoded : text = bytes (encodeCertificatePem encode der))
    (reads : lib.parseX509Pem text = parseX509Pem decode text) {path : String} {limit : Nat}
    (opened : lib.openFile path = .ok ⟨true, text.length, .ok text⟩)
    (fits : text.length ≤ limit) : readDer lib path .certificate limit = .ok der := by
  have stored : readBoundedFile lib path limit = .ok text :=
    readBoundedFile_ok_iff.mpr ⟨_, opened, rfl, fits, rfl, fits⟩
  have parsed : lib.parseX509Pem text = some ([], ⟨"CERTIFICATE", der⟩) := by
    rw [reads, encoded, parseX509Pem_encodeCertificatePem base64]
  simp only [readDer, stored, mapErr, ok_bind, decodePem_of_parsed fits parsed]
  rfl

/-- An encoded certificate has lines of 64 characters, the last one possibly shorter,
    and is read back under any limit that it fits, as a certificate and as nothing else. -/
theorem encodeCertificatePem_roundTrip {lib : Library} (base64 : Base64.Standard encode decode)
    (der : List UInt8) (reads : lib.parseX509Pem (bytes (encodeCertificatePem encode der)) =
      parseX509Pem decode (bytes (encodeCertificatePem encode der))) :
    (∃ body, (encodeCertificatePem encode der).toList.splitOn '\n' =
        ["-----BEGIN CERTIFICATE-----".toList] ++ body ++
          ["-----END CERTIFICATE-----".toList, []] ∧
      (∀ line ∈ body.dropLast, line.length = 64) ∧
      ∀ line ∈ body.getLast?, 1 ≤ line.length ∧ line.length ≤ 64) ∧
    ∀ limit source, (bytes (encodeCertificatePem encode der)).length ≤ limit →
      decodePem lib (bytes (encodeCertificatePem encode der)) .certificate limit source =
        .ok der ∧
      decodePem lib (bytes (encodeCertificatePem encode der)) .certificateRevocationList limit
        source = .error (.wrongLabel source "CERTIFICATE" "X509 CRL or CRL") := by
  refine ⟨⟨chunks 64 (encode der).toList, ?_, ?_, ?_⟩, ?_⟩
  · rw [toList_encodeCertificatePem, splitOn_lines fun line member =>
      (printable_of_mem_certificateLines base64 line member).noLineFeed]
    simp [certificateLines, beginLine, endLine]
  · exact length_of_mem_dropLast_chunks (by decide)
  · intro line last
    exact length_of_mem_chunks (by decide) line (List.mem_of_getLast? last)
  · intro limit source fits
    have parsed : lib.parseX509Pem (bytes (encodeCertificatePem encode der)) =
        some ([], ⟨"CERTIFICATE", der⟩) := by
      rw [reads, parseX509Pem_encodeCertificatePem base64]
    have labels : " or ".intercalate ["X509 CRL", "CRL"] = "X509 CRL or CRL" := by decide
    rw [decodePem_of_parsed fits parsed, decodePem_of_parsed fits parsed]
    simp [PemKind.labels, labels]

/-- Three lines of base64, the last of them padded, in a text of just the limit. -/
theorem encodeCertificatePem_roundTrip_lines :
    let der := (List.range 100).map UInt8.ofNat
    let lib := { Fixture.library Fixture.leafCertificate Fixture.crl Fixture.tryLater
      Fixture.emptyResponse with parseX509Pem := parseX509Pem Base64.decode }
    (chunks 64 (Base64.encode der).toList).map List.length = [64, 64, 8] ∧
      decodePem lib (bytes (encodeCertificatePem Base64.encode der)) .certificate 193
        "leaf.pem" = .ok der := by
  intro der lib
  have fits : (bytes (encodeCertificatePem Base64.encode der)).length ≤ 193 := by
    decide +kernel
  exact ⟨by decide +kernel,
    ((encodeCertificatePem_roundTrip Base64.standard der rfl).2 193 "leaf.pem" fits).1⟩

end Encoding

end HybridX509.X509
