import HybridX509.Lib.Fallible
import HybridX509.Lib.BigEndian
import HybridX509.X509.Parsed

/-! # Reading certificates

`input.rs` and the reading half of `pem.rs`: bounded files, PEM documents with one
label, and DER without a remainder. The file system and the parsing, hashing and
signature libraries are one parameter, `Library`, through which all of it goes.
-/

namespace HybridX509.X509

open Lib

/-- A file that was opened: its metadata, and what reading it to the end gives. -/
structure OpenFile where
  isFile : Bool
  len : Nat
  contents : Except String (List UInt8)
  deriving Repr, DecidableEq

/-- A PEM document. -/
structure Pem where
  label : String
  contents : List UInt8
  deriving Repr, DecidableEq

/-- The file system and the dependencies of `pem.rs` and `ocsp.rs`. A parser
    returns the bytes it left over beside the value. -/
structure Library where
  openFile : String → Except String OpenFile
  parseX509Pem : List UInt8 → Option (List UInt8 × Pem)
  certificateFromDer : List UInt8 → Option (List UInt8 × X509Certificate)
  crlFromDer : List UInt8 → Option (List UInt8 × CertificateRevocationList)
  ocspResponseFromDer : List UInt8 → Option OcspResponse
  basicOcspResponseFromDer : List UInt8 → Option BasicOcspResponse
  algorithmIdentifierFromDer : List UInt8 → Option (List UInt8 × AlgorithmIdentifier)
  nonceFromDer : List UInt8 → Option (List UInt8)
  parseDerSequence : List UInt8 → Option (List UInt8 × DerObject)
  /-- `as_slice` and `as_oid_val` of an object. -/
  asSlice : DerObject → Option (List UInt8)
  asOidVal : DerObject → Option String
  verifySignature : SubjectPublicKeyInfo → AlgorithmIdentifier → BitString → List UInt8 →
    Except X509Error Unit
  sha1 : List UInt8 → List UInt8
  sha256 : List UInt8 → List UInt8
  sha384 : List UInt8 → List UInt8
  sha512 : List UInt8 → List UInt8
  base64Decode : String → Option (List UInt8)
  /-- `DateTime::parse_from_rfc3339`, reduced to its timestamp. -/
  parseFromRfc3339 : String → Option Int64
  /-- Whether `ASN1Time::from_timestamp` represents the timestamp. -/
  asn1TimeRepresents : Int64 → Bool

/-- `verify_signature` of a certificate. -/
def X509Certificate.verifySignature (certificate : X509Certificate) (lib : Library)
    (publicKey : SubjectPublicKeyInfo) : Except X509Error Unit :=
  lib.verifySignature publicKey certificate.signatureAlgorithm certificate.signatureValue
    certificate.tbsRaw

/-- `verify_signature` of a certificate revocation list. -/
def CertificateRevocationList.verifySignature (crl : CertificateRevocationList) (lib : Library)
    (publicKey : SubjectPublicKeyInfo) : Except X509Error Unit :=
  lib.verifySignature publicKey crl.signatureAlgorithm crl.signatureValue crl.tbsRaw

inductive PemKind where
  | certificate
  | certificateRevocationList
  deriving Repr, DecidableEq

def PemKind.labels : PemKind → List String
  | .certificate => ["CERTIFICATE"]
  | .certificateRevocationList => ["X509 CRL", "CRL"]

inductive PemError where
  | notAFile (path : String)
  | inputTooLarge (path : String) (limit : Nat)
  | malformed (path : String)
  | wrongLabel (path actual expected : String)
  | trailingData (path : String)
  | malformedDer (path : String)
  | duplicateExtensions (path : String)
  | missingRelatedCertificate (path : String)
  | malformedRelatedCertificate (path : String)
  | unsupportedDigestAlgorithm (oid : String)
  | invalidValidationTime (validationTime : String)
  | invalidCertificateExtensions (path : String)
  | invalidCrlExtensions (path : String)
  | unsupportedCrlSemantics (path oid : String)
  | unsupportedCriticalCrlExtension (path oid : String)
  | io (source : String)
  deriving Repr, DecidableEq

inductive BoundedInputError where
  | notAFile (path : String)
  | tooLarge (path : String) (limit : Nat)
  | io (path source : String)
  deriving Repr, DecidableEq

/-- `map_err`. -/
def mapErr {ε ε' α : Type} (f : ε → ε') : Except ε α → Except ε' α
  | .ok value => .ok value
  | .error error => .error (f error)

def readBoundedFile (lib : Library) (path : String) (limit : Nat) :
    Except BoundedInputError (List UInt8) := do
  let file ← mapErr (.io path) (lib.openFile path)
  failIf (file.isFile = false) (.notAFile path)
  failIf (limit < file.len) (.tooLarge path limit)
  let bytes ← mapErr (.io path) (file.contents.map (·.take (limit + 1)))
  failIf (limit < bytes.length) (.tooLarge path limit)
  return bytes

/-- `u8::is_ascii_whitespace`: space, tab, line feed, form feed, carriage return. -/
def isAsciiWhitespace (byte : UInt8) : Bool :=
  byte == 32 || byte == 9 || byte == 10 || byte == 12 || byte == 13

def decodePem (lib : Library) (bytes : List UInt8) (kind : PemKind) (limit : Nat)
    (source : String) : Except PemError (List UInt8) := do
  failIf (limit < bytes.length) (.inputTooLarge source limit)
  let (remaining, pem) ← orFail (lib.parseX509Pem bytes) (.malformed source)
  failIf (remaining.all isAsciiWhitespace = false) (.trailingData source)
  failIf (pem.label ∉ kind.labels)
    (.wrongLabel source pem.label (" or ".intercalate kind.labels))
  return pem.contents

def readDer (lib : Library) (path : String) (kind : PemKind) (limit : Nat) :
    Except PemError (List UInt8) := do
  let toPemError : BoundedInputError → PemError
    | .notAFile _ => .notAFile path
    | .tooLarge _ _ => .inputTooLarge path limit
    | .io _ source => .io source
  let bytes ← mapErr toPemError (readBoundedFile lib path limit)
  decodePem lib bytes kind limit path

/-- A value that was parsed from all of the input: `from_der` followed by the test
    that nothing remains, with one error for both. -/
def parseComplete {ε α : Type} (fromDer : List UInt8 → Option (List UInt8 × α)) (error : ε)
    (der : List UInt8) : Except ε α := do
  let (remaining, value) ← orFail (fromDer der) error
  failIf (remaining ≠ []) error
  return value

/-- `normalized_serial`: the serial from its first nonzero byte on. -/
def normalizedSerial (serial : List UInt8) : List UInt8 :=
  let firstNonzero := (serial.findIdx? (· != 0)).getD serial.length
  serial.drop firstNonzero

/-! ## Reading back -/

section Reading

variable {lib : Library} {path : String} {limit : Nat}

theorem mapErr_ok {ε ε' α : Type} {f : ε → ε'} {value : α} :
    mapErr f (.ok value) = .ok value := rfl

/-- A translated error is as expected when every translation is. -/
theorem raises_mapErr {ε ε' α : Type} {p : ε' → Prop} {f : ε → ε'} (expected : ∀ error, p (f error))
    (x : Except ε α) : Raises p (mapErr f x) := by
  cases x with
  | ok value => exact raises_ok value
  | error error => exact raises_error (expected error)

@[simp] theorem mapErr_ok_iff {ε ε' α : Type} {f : ε → ε'} {x : Except ε α} {value : α} :
    mapErr f x = .ok value ↔ x = .ok value := by
  cases x <;> simp [mapErr]

theorem mapErr_error_iff {ε ε' α : Type} {f : ε → ε'} {x : Except ε α} {raised : ε'} :
    mapErr f x = .error raised ↔ ∃ error, x = .error error ∧ raised = f error := by
  cases x <;> simp [mapErr, eq_comm]

/-- A bounded read returns the whole contents of a file within the limit. -/
theorem readBoundedFile_ok_iff {bytes : List UInt8} :
    readBoundedFile lib path limit = .ok bytes ↔
      ∃ file, lib.openFile path = .ok file ∧ file.isFile = true ∧ file.len ≤ limit ∧
        file.contents = .ok bytes ∧ bytes.length ≤ limit := by
  have whole (contents : List UInt8) : (contents.take (limit + 1) = bytes ∧ bytes.length ≤ limit) ↔
      contents = bytes ∧ bytes.length ≤ limit := by
    constructor
    · rintro ⟨rfl, short⟩
      rw [List.length_take] at short
      have all : contents.length ≤ limit + 1 := by omega
      rw [List.take_of_length_le all]
      exact ⟨rfl, by omega⟩
    · rintro ⟨rfl, short⟩
      exact ⟨List.take_of_length_le (by omega), short⟩
  simp only [readBoundedFile, bind_ok_iff, mapErr_ok_iff, exists_unit_iff, failIf_ok_iff,
    Bool.not_eq_false, not_lt, pure_ok_iff, map_ok_iff]
  constructor
  · rintro ⟨file, opened, isFile, len, _, ⟨contents, read, taken⟩, short, rfl⟩
    obtain ⟨rfl, short⟩ := (whole contents).mp ⟨taken, short⟩
    exact ⟨file, opened, isFile, len, read, short⟩
  · rintro ⟨file, opened, isFile, len, contents, short⟩
    obtain ⟨taken, short⟩ := (whole bytes).mpr ⟨rfl, short⟩
    exact ⟨file, opened, isFile, len, bytes, ⟨bytes, contents, taken⟩, short, rfl⟩

/-- What is wrong with a file, with the error that says so. -/
inductive FileFault (lib : Library) (path : String) (limit : Nat) : BoundedInputError → Prop
  | unopened {source : String} (failed : lib.openFile path = .error source) :
      FileFault lib path limit (.io path source)
  | notAFile {file : OpenFile} (opened : lib.openFile path = .ok file)
      (irregular : file.isFile = false) : FileFault lib path limit (.notAFile path)
  | announced {file : OpenFile} (opened : lib.openFile path = .ok file)
      (regular : file.isFile = true) (large : limit < file.len) :
      FileFault lib path limit (.tooLarge path limit)
  | unreadable {file : OpenFile} {source : String} (opened : lib.openFile path = .ok file)
      (regular : file.isFile = true) (announced : file.len ≤ limit)
      (failed : file.contents = .error source) : FileFault lib path limit (.io path source)
  | grown {file : OpenFile} {contents : List UInt8} (opened : lib.openFile path = .ok file)
      (regular : file.isFile = true) (announced : file.len ≤ limit)
      (read : file.contents = .ok contents) (large : limit < contents.length) :
      FileFault lib path limit (.tooLarge path limit)

theorem readBoundedFile_error_iff {error : BoundedInputError} :
    readBoundedFile lib path limit = .error error ↔ FileFault lib path limit error := by
  have cut (contents : List UInt8) :
      limit < (contents.take (limit + 1)).length ↔ limit < contents.length := by
    rw [List.length_take]
    omega
  simp only [readBoundedFile, bind_error_iff, mapErr_error_iff, mapErr_ok_iff, failIf_error_iff,
    failIf_ok_iff, exists_unit_iff, Bool.not_eq_false, Nat.not_lt, map_ok_iff, map_error_iff]
  constructor
  · rintro (⟨source, failed, rfl⟩ | ⟨file, opened, rest⟩)
    · exact .unopened failed
    · rcases rest with ⟨irregular, rfl⟩ | ⟨regular, ⟨large, rfl⟩ | ⟨announced, rest⟩⟩
      · exact .notAFile opened irregular
      · exact .announced opened regular large
      · rcases rest with ⟨source, failed, rfl⟩ | ⟨_, ⟨contents, read, rfl⟩, rest⟩
        · exact .unreadable opened regular announced failed
        · rcases rest with ⟨large, rfl⟩ | ⟨_, returned⟩
          · exact .grown opened regular announced read ((cut contents).mp large)
          · cases returned
  · intro fault
    cases fault with
    | unopened failed => exact .inl ⟨_, failed, rfl⟩
    | notAFile opened irregular => exact .inr ⟨_, opened, .inl ⟨irregular, rfl⟩⟩
    | announced opened regular large => exact .inr ⟨_, opened, .inr ⟨regular, .inl ⟨large, rfl⟩⟩⟩
    | unreadable opened regular announced failed =>
        exact .inr ⟨_, opened, .inr ⟨regular, .inr ⟨announced, .inl ⟨_, failed, rfl⟩⟩⟩⟩
    | grown opened regular announced read large =>
        exact .inr ⟨_, opened, .inr ⟨regular, .inr ⟨announced, .inr ⟨_, ⟨_, read, rfl⟩,
          .inl ⟨(cut _).mpr large, rfl⟩⟩⟩⟩⟩

/-- The DER read from a path does not depend on the limit it was read under. -/
theorem readDer_unique {kind : PemKind} {limit' : Nat} {der der' : List UInt8}
    (read : readDer lib path kind limit = .ok der)
    (read' : readDer lib path kind limit' = .ok der') : der = der' := by
  simp only [readDer, decodePem, bind_ok_iff, mapErr_ok_iff, exists_unit_iff, failIf_ok_iff,
    orFail_ok_iff, pure_ok_iff, readBoundedFile_ok_iff, Prod.exists] at read read'
  obtain ⟨bytes, ⟨file, opened, _, _, contents, _⟩, _, _, pem, parsed, _, _, rfl⟩ := read
  obtain ⟨bytes', ⟨file', opened', _, _, contents', _⟩, _, _, pem', parsed', _, _, rfl⟩ := read'
  obtain rfl : file = file' := ok_unique opened opened'
  obtain rfl : bytes = bytes' := ok_unique contents contents'
  obtain ⟨_, rfl⟩ := Prod.mk.inj (Option.some.inj (parsed.symm.trans parsed'))
  rfl

@[simp] theorem parseComplete_ok_iff {ε α : Type} {fromDer : List UInt8 → Option (List UInt8 × α)}
    {error : ε} {der : List UInt8} {value : α} :
    parseComplete fromDer error der = .ok value ↔ fromDer der = some ([], value) := by
  simp only [parseComplete, bind_ok_iff, orFail_ok_iff, exists_unit_iff, failIf_ok_iff, not_not,
    pure_ok_iff, Prod.exists]
  constructor
  · rintro ⟨_, _, parsed, rfl, rfl⟩
    exact parsed
  · intro parsed
    exact ⟨[], value, parsed, rfl, rfl⟩

end Reading

theorem normalizedSerial_eq_stripZeros (serial : List UInt8) :
    normalizedSerial serial = stripZeros serial := by
  simp only [normalizedSerial]
  induction serial with
  | nil => rfl
  | cons first rest ih =>
      by_cases zero : first = 0
      · rw [List.findIdx?_cons]
        simp only [zero, bne_self_eq_false, Bool.false_eq_true, if_false, stripZeros,
          List.dropWhile_cons_of_pos, beq_self_eq_true]
        cases found : rest.findIdx? (· != 0) with
        | none => simpa [found, stripZeros] using ih
        | some index => simpa [found, stripZeros] using ih
      · simp [List.findIdx?_cons, zero, stripZeros]

/-- Normalized serials are compared as unsigned integers. -/
theorem normalizedSerial_eq_iff {left right : List UInt8} :
    normalizedSerial left = normalizedSerial right ↔ unsigned left = unsigned right := by
  rw [normalizedSerial_eq_stripZeros, normalizedSerial_eq_stripZeros, stripZeros_eq_iff]

/-! ## A library

A small file system and a stand-in for the libraries. Signatures are the key
followed by the signed bytes, and only one algorithm is supported. The concrete
cases of later modules choose the certificate, the list and the response.
-/

namespace Fixture

def caName : X509Name := ⟨[67, 65]⟩

def ecdsaWithSha256 : AlgorithmIdentifier := ⟨"1.2.840.10045.4.3.2", none⟩

def mlDsa44 : AlgorithmIdentifier := ⟨"2.16.840.1.101.3.4.3.17", none⟩

def caKey : SubjectPublicKeyInfo := ⟨⟨"1.2.840.10045.2.1", none⟩, .new [4, 1]⟩

def sign (key : SubjectPublicKeyInfo) (bytes : List UInt8) : BitString :=
  .new (key.subjectPublicKey.data ++ bytes)

def verifySignature (key : SubjectPublicKeyInfo) (algorithm : AlgorithmIdentifier)
    (signature : BitString) (bytes : List UInt8) : Except X509Error Unit :=
  if algorithm = ecdsaWithSha256 then
    if signature = sign key bytes then .ok () else .error .signatureVerificationError
  else .error .signatureUnsupportedAlgorithm

/-- 2026-06-20T00:00:00Z. -/
def now : Int64 := 1781913600

/-- 2027-01-01T00:00:00Z. -/
def newYear : Int64 := 1798761600

def caCertificate : X509Certificate where
  issuer := caName
  subject := caName
  signatureAlgorithm := ecdsaWithSha256
  tbsSignature := ecdsaWithSha256
  tbsRaw := [2]
  signatureValue := sign caKey [2]
  signatureStart := 0
  publicKey := caKey
  rawSerial := [1]
  validity := ⟨0, newYear⟩
  extensions := []
  keyUsage := .ok none
  extendedKeyUsage := .ok none
  basicConstraints := .ok none
  subjectAlternativeName := .ok none

def leafCertificate : X509Certificate :=
  { caCertificate with
    subject := ⟨[76]⟩
    tbsRaw := [1]
    signatureValue := sign caKey [1]
    publicKey := ⟨⟨"1.2.840.10045.2.1", none⟩, .new [4, 2]⟩
    rawSerial := [0, 255] }

def crl : CertificateRevocationList where
  issuer := caName
  signatureAlgorithm := ecdsaWithSha256
  tbsSignature := ecdsaWithSha256
  tbsRaw := [3]
  signatureValue := sign caKey [3]
  lastUpdate := 0
  nextUpdate := some newYear
  extensions := []
  revokedCertificates := []

/-- The answer of a responder that is not available. -/
def tryLater : OcspResponse := ⟨.tryLater, none⟩

/-- A response about no certificate. -/
def emptyResponse : BasicOcspResponse where
  tbsResponseData := ⟨.byKey [], 0, [], none, some []⟩
  signatureAlgorithmToDer := some [6]
  signature := .new []
  certsToDer := none

/-- The contents of strings and integers. -/
def asSlice : DerObject → Option (List UInt8)
  | .octetString content | .bitString _ content | .integer content | .characterString content =>
      some content
  | _ => none

def asOidVal : DerObject → Option String
  | .oid id => some id
  | _ => none

/-- The documents of the file system, with their labels. -/
def pems : List (List UInt8 × Pem) :=
  [([1], ⟨"CERTIFICATE", [1]⟩), ([2], ⟨"CERTIFICATE", [2]⟩), ([3], ⟨"X509 CRL", [3]⟩)]

def library (leaf : X509Certificate) (crl : CertificateRevocationList) (response : OcspResponse)
    (basic : BasicOcspResponse) : Library where
  openFile path :=
    orFail ([("leaf.pem", [1]), ("ca.pem", [2]), ("crl.pem", [3]), ("response.der", [4])].lookup path
      |>.map fun bytes => ⟨true, 1, .ok bytes⟩) "no such file"
  parseX509Pem bytes := (pems.lookup bytes).map ([], ·)
  certificateFromDer der := ([([1], leaf), ([2], caCertificate)].lookup der).map ([], ·)
  crlFromDer der := if der = [3] then some ([], crl) else none
  ocspResponseFromDer der := if der = [4] then some response else none
  basicOcspResponseFromDer der := if der = [5] then some basic else none
  algorithmIdentifierFromDer der := if der = [6] then some ([], ecdsaWithSha256) else none
  nonceFromDer := some
  parseDerSequence _ := none
  asSlice := asSlice
  asOidVal := asOidVal
  verifySignature := verifySignature
  sha1 := List.take 20
  sha256 := List.take 32
  sha384 := List.take 48
  sha512 := List.take 64
  base64Decode text := some (text.toList.map fun c => UInt8.ofNat c.toNat)
  parseFromRfc3339 text :=
    [("2026-06-20T00:00:00Z", now), ("2027-01-01T00:00:00Z", newYear)].lookup text
  asn1TimeRepresents _ := true

end Fixture

end HybridX509.X509
