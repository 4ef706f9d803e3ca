import HybridX509.Model
import HybridX509.X509.Pem

/-! # Certificate revocation lists

`check_crl_status`: an extension gate over the list and its entries, the
authenticity of the certificate and of the list under the issuer key, a window
between two updates, and a search for the serial. The status is restated over the
parsed input, without the order in which the source asks its questions.
-/

namespace HybridX509.Revocation

open Lib X509

structure CrlStatusResult where
  signature : CheckResult
  issuer : CheckResult
  freshness : CheckResult
  revocation : CheckResult
  deriving Repr, DecidableEq

/-- What is read before anything is checked. -/
structure CrlInput where
  certificate : X509Certificate
  issuer : X509Certificate
  crl : CertificateRevocationList
  timestamp : Int64
  deriving Repr, DecidableEq

def readCrlInput (lib : Library) (certificatePath issuerPath crlPath validationTime : String)
    (limit : Nat) : Except PemError CrlInput := do
  let certificateDer ← readDer lib certificatePath .certificate limit
  let issuerDer ← readDer lib issuerPath .certificate limit
  let crlDer ← readDer lib crlPath .certificateRevocationList limit
  let certificate ←
    parseComplete lib.certificateFromDer (.malformedDer certificatePath) certificateDer
  let issuer ← parseComplete lib.certificateFromDer (.malformedDer issuerPath) issuerDer
  let crl ← parseComplete lib.crlFromDer (.malformedDer crlPath) crlDer
  let timestamp ← orFail (lib.parseFromRfc3339 validationTime)
    (PemError.invalidValidationTime validationTime)
  return { certificate, issuer, crl, timestamp }

/-- One extension of the list or of an entry, against the identifiers whose
    semantics are not supported there. -/
def validateCrlExtension (path : String) (unsupportedSemantics : List String)
    (extension : X509Extension) : Except PemError Unit := do
  failIf (extension.oid ∈ unsupportedSemantics) (.unsupportedCrlSemantics path extension.oid)
  failIf (extension.critical && (extension.parsedExtension.unsupported
      || extension.parsedExtension.error.isSome))
    (.unsupportedCriticalCrlExtension path extension.oid)

def validateCrlExtensionList (path : String) (unsupportedSemantics : List String)
    (extensions : List X509Extension) : Except PemError Unit := do
  mapErr (fun _ => .invalidCrlExtensions path) (extensionsMap extensions)
  extensions.forM (validateCrlExtension path unsupportedSemantics)

def validateCrlExtensions (crl : CertificateRevocationList) (path : String) :
    Except PemError Unit := do
  validateCrlExtensionList path ["2.5.29.27", "2.5.29.28"] crl.extensions
  crl.revokedCertificates.forM fun entry =>
    validateCrlExtensionList path ["2.5.29.29"] entry.extensions

/-- `if value { Pass } else { Fail }`, observed. -/
def observedState (value : Bool) : CheckResult := .observed (if value then .pass else .fail)

def signerIsAuthorized (issuer : X509Certificate) : Bool :=
  match issuer.keyUsage with
  | .ok (some usage) => usage.crlSign
  | .ok none => true
  | .error _ => false

/-- Whether an entry revokes the certificate by now. -/
def entryRevokes (certificate : X509Certificate) (timestamp : Int64)
    (entry : RevokedCertificate) : Bool :=
  entry.revocationDate ≤ timestamp
    && entry.reasonCode.all (fun (_, reason) => reason != .removeFromCrl)
    && normalizedSerial entry.rawSerial == normalizedSerial certificate.rawSerial

section Status

variable (lib : Library) (input : CrlInput)

def certificateSignatureValid : Bool :=
  input.certificate.signatureAlgorithm == input.certificate.tbsSignature
    && (input.certificate.verifySignature lib input.issuer.publicKey).isOk

def issuerMatches : Bool :=
  input.certificate.issuer == input.issuer.subject && input.crl.issuer == input.issuer.subject
    && certificateSignatureValid lib input

def signatureValid : Bool :=
  input.crl.signatureAlgorithm == input.crl.tbsSignature && signerIsAuthorized input.issuer
    && (input.crl.verifySignature lib input.issuer.publicKey).isOk

def fresh : Bool :=
  input.crl.lastUpdate ≤ input.timestamp && input.crl.nextUpdate.any (input.timestamp < ·)

def revoked : Bool :=
  input.crl.revokedCertificates.any (entryRevokes input.certificate input.timestamp)

def prerequisitesPass : Bool := issuerMatches lib input && signatureValid lib input && fresh input

def crlStatus : CrlStatusResult where
  signature := observedState (signatureValid lib input)
  issuer := observedState (issuerMatches lib input)
  freshness := observedState (fresh input)
  revocation := .observed
    (if prerequisitesPass lib input then if revoked input then .fail else .pass
      else .indeterminate)

end Status

def checkCrlStatus (lib : Library) (certificatePath issuerPath crlPath validationTime : String)
    (limit : Nat) : Except PemError CrlStatusResult := do
  let input ← readCrlInput lib certificatePath issuerPath crlPath validationTime limit
  validateCrlExtensions input.crl crlPath
  return crlStatus lib input

/-! ## The extension gate -/

/-- An extension the checker does not understand although it is critical. -/
def Opaque (extension : X509Extension) : Prop :=
  extension.critical = true ∧ extension.parsedExtension ≠ .supported

/-- What the extension gate refuses a list for. -/
inductive Refused (crl : CertificateRevocationList) : Prop where
  | semantics {extension : X509Extension} (member : extension ∈ crl.extensions)
      (deltaOrDistributionPoint : extension.oid = "2.5.29.27" ∨ extension.oid = "2.5.29.28")
  | entrySemantics {entry : RevokedCertificate} {extension : X509Extension}
      (listed : entry ∈ crl.revokedCertificates) (member : extension ∈ entry.extensions)
      (certificateIssuer : extension.oid = "2.5.29.29")
  | duplicate (repeated : ¬ (crl.extensions.map (·.oid)).Nodup)
  | entryDuplicate {entry : RevokedCertificate} (listed : entry ∈ crl.revokedCertificates)
      (repeated : ¬ (entry.extensions.map (·.oid)).Nodup)
  | critical {extension : X509Extension} (member : extension ∈ crl.extensions)
      (notUnderstood : Opaque extension)
  | entryCritical {entry : RevokedCertificate} {extension : X509Extension}
      (listed : entry ∈ crl.revokedCertificates) (member : extension ∈ entry.extensions)
      (notUnderstood : Opaque extension)

theorem validateCrlExtension_ok_iff {path : String} {semantics : List String}
    {extension : X509Extension} :
    validateCrlExtension path semantics extension = .ok () ↔
      extension.oid ∉ semantics ∧ ¬ Opaque extension := by
  simp only [validateCrlExtension, bind_ok_iff, exists_unit_iff, failIf_ok_iff, Opaque]
  refine and_congr_right fun _ => ?_
  cases extension.critical <;> cases extension.parsedExtension <;>
    simp [ParsedExtension.unsupported, ParsedExtension.error]

theorem validateCrlExtensionList_ok_iff {path : String} {semantics : List String}
    {extensions : List X509Extension} :
    validateCrlExtensionList path semantics extensions = .ok () ↔
      (extensions.map (·.oid)).Nodup ∧
        ∀ extension ∈ extensions, extension.oid ∉ semantics ∧ ¬ Opaque extension := by
  simp only [validateCrlExtensionList, bind_ok_iff, exists_unit_iff, mapErr_ok_iff,
    extensionsMap_ok_iff, forM_ok_iff, validateCrlExtension_ok_iff]

/-- The gate lets exactly the lists through that nothing speaks against. -/
theorem validateCrlExtensions_ok_iff {crl : CertificateRevocationList} {path : String} :
    validateCrlExtensions crl path = .ok () ↔ ¬ Refused crl := by
  simp only [validateCrlExtensions, bind_ok_iff, exists_unit_iff, forM_ok_iff,
    validateCrlExtensionList_ok_iff]
  constructor
  · intro ⟨⟨distinct, extensions⟩, entries⟩ refused
    cases refused with
    | semantics member unsupported =>
        exact (extensions _ member).1 (by simpa using unsupported)
    | entrySemantics listed member unsupported =>
        exact ((entries _ listed).2 _ member).1 (by simpa using unsupported)
    | duplicate repeated => exact repeated distinct
    | entryDuplicate listed repeated => exact repeated (entries _ listed).1
    | critical member notUnderstood => exact (extensions _ member).2 notUnderstood
    | entryCritical listed member notUnderstood =>
        exact ((entries _ listed).2 _ member).2 notUnderstood
  · intro accepted
    refine ⟨⟨?_, fun extension member => ⟨fun unsupported => ?_, fun notUnderstood => ?_⟩⟩,
      fun entry listed => ⟨?_, fun extension member => ⟨fun unsupported => ?_,
        fun notUnderstood => ?_⟩⟩⟩
    · exact not_not.mp fun repeated => accepted (.duplicate repeated)
    · exact accepted (.semantics member (by simpa using unsupported))
    · exact accepted (.critical member notUnderstood)
    · exact not_not.mp fun repeated => accepted (.entryDuplicate listed repeated)
    · exact accepted (.entrySemantics listed member (by simpa using unsupported))
    · exact accepted (.entryCritical listed member notUnderstood)

/-! ## The status -/

/-- The certificate and the list are signed by an issuer that may sign lists. -/
structure Authentic (lib : Library) (input : CrlInput) : Prop where
  certificateIssuer : input.certificate.issuer = input.issuer.subject
  crlIssuer : input.crl.issuer = input.issuer.subject
  certificateAlgorithm : input.certificate.signatureAlgorithm = input.certificate.tbsSignature
  crlAlgorithm : input.crl.signatureAlgorithm = input.crl.tbsSignature
  certificateSignature : input.certificate.verifySignature lib input.issuer.publicKey = .ok ()
  crlSignature : input.crl.verifySignature lib input.issuer.publicKey = .ok ()
  keyUsage : input.issuer.keyUsage = .ok none ∨
    ∃ usage, input.issuer.keyUsage = .ok (some usage) ∧ usage.crlSign = true

/-- The timestamp lies between the updates; the second bound is strict. -/
structure Current (input : CrlInput) : Prop where
  lastUpdate : input.crl.lastUpdate ≤ input.timestamp
  nextUpdate : ∃ next, input.crl.nextUpdate = some next ∧ input.timestamp < next

/-- An entry of the list, wherever it stands, revokes the certificate by now. -/
def Listed (input : CrlInput) : Prop :=
  ∃ entry ∈ input.crl.revokedCertificates,
    unsigned entry.rawSerial = unsigned input.certificate.rawSerial ∧
      entry.revocationDate ≤ input.timestamp ∧
      ∀ critical reason, entry.reasonCode = some (critical, reason) → reason ≠ .removeFromCrl

theorem isOk_eq_true_iff {ε : Type} {x : Except ε Unit} : x.isOk = true ↔ x = .ok () := by
  cases x <;> simp [Except.isOk, Except.toBool]

theorem signerIsAuthorized_iff {issuer : X509Certificate} :
    signerIsAuthorized issuer = true ↔ issuer.keyUsage = .ok none ∨
      ∃ usage, issuer.keyUsage = .ok (some usage) ∧ usage.crlSign = true := by
  unfold signerIsAuthorized
  cases issuer.keyUsage with
  | error error => simp
  | ok usage => cases usage <;> simp

theorem entryRevokes_iff {certificate : X509Certificate} {timestamp : Int64}
    {entry : RevokedCertificate} :
    entryRevokes certificate timestamp entry = true ↔
      unsigned entry.rawSerial = unsigned certificate.rawSerial ∧
        entry.revocationDate ≤ timestamp ∧
        ∀ critical reason, entry.reasonCode = some (critical, reason) →
          reason ≠ .removeFromCrl := by
  simp only [entryRevokes, Bool.and_eq_true, decide_eq_true_eq, beq_iff_eq, Option.all_eq_true,
    bne_iff_ne, Prod.forall, normalizedSerial_eq_iff]
  constructor
  · intro ⟨⟨date, reason⟩, serial⟩
    exact ⟨serial, date, reason⟩
  · intro ⟨serial, date, reason⟩
    exact ⟨⟨date, reason⟩, serial⟩

section Readings

variable {lib : Library} {input : CrlInput}

theorem revoked_iff : revoked input = true ↔ Listed input := by
  simp only [revoked, List.any_eq_true, entryRevokes_iff, Listed]

theorem fresh_iff : fresh input = true ↔ Current input := by
  simp only [fresh, Bool.and_eq_true, decide_eq_true_eq, Option.any_eq_true]
  constructor
  · intro ⟨last, next⟩
    exact ⟨last, next⟩
  · intro current
    exact ⟨current.lastUpdate, current.nextUpdate⟩

theorem authentic_iff :
    (issuerMatches lib input && signatureValid lib input) = true ↔ Authentic lib input := by
  simp only [issuerMatches, signatureValid, certificateSignatureValid, Bool.and_eq_true,
    beq_iff_eq, isOk_eq_true_iff, signerIsAuthorized_iff]
  constructor
  · intro ⟨⟨⟨name, crlName⟩, algorithm, signature⟩, ⟨crlAlgorithm, usage⟩, crlSignature⟩
    exact ⟨name, crlName, algorithm, crlAlgorithm, signature, crlSignature, usage⟩
  · intro authentic
    exact ⟨⟨⟨authentic.certificateIssuer, authentic.crlIssuer⟩, authentic.certificateAlgorithm,
      authentic.certificateSignature⟩, ⟨authentic.crlAlgorithm, authentic.keyUsage⟩,
      authentic.crlSignature⟩

theorem prerequisitesPass_iff :
    prerequisitesPass lib input = true ↔ Authentic lib input ∧ Current input := by
  rw [prerequisitesPass, Bool.and_eq_true, authentic_iff, fresh_iff]

theorem crlStatus_revocation_iff :
    ((crlStatus lib input).revocation.state = .pass ↔
      (Authentic lib input ∧ Current input) ∧ ¬ Listed input) ∧
    ((crlStatus lib input).revocation.state = .fail ↔
      (Authentic lib input ∧ Current input) ∧ Listed input) ∧
    ((crlStatus lib input).revocation.state = .indeterminate ↔
      ¬ (Authentic lib input ∧ Current input)) := by
  rw [← prerequisitesPass_iff, ← revoked_iff]
  simp only [crlStatus, CheckResult.observed]
  cases prerequisitesPass lib input <;> cases revoked input <;> simp

end Readings

section Check

variable {lib : Library} {certificatePath issuerPath crlPath validationTime : String} {limit : Nat}
  {input : CrlInput}

theorem checkCrlStatus_ok_iff
    (read : readCrlInput lib certificatePath issuerPath crlPath validationTime limit = .ok input)
    {result : CrlStatusResult} :
    checkCrlStatus lib certificatePath issuerPath crlPath validationTime limit = .ok result ↔
      ¬ Refused input.crl ∧ result = crlStatus lib input := by
  simp only [checkCrlStatus, read, bind_ok_iff, exists_unit_iff, Except.ok.injEq, exists_eq_left',
    validateCrlExtensions_ok_iff, pure_ok_iff]
  exact and_congr_right fun _ => eq_comm

/-- Acceptance by a list, exactly: the gate decides whether there is an answer, the
    authenticity and the window whether it is one way or the other, and the entries
    which. -/
theorem crl_status_exact
    (read : readCrlInput lib certificatePath issuerPath crlPath validationTime limit = .ok input) :
    (Refused input.crl → ∃ error,
      checkCrlStatus lib certificatePath issuerPath crlPath validationTime limit = .error error) ∧
    (¬ Refused input.crl → ∃ result,
      checkCrlStatus lib certificatePath issuerPath crlPath validationTime limit = .ok result ∧
        (¬ (Authentic lib input ∧ Current input) → result.revocation.state = .indeterminate) ∧
        (Authentic lib input ∧ Current input →
          (result.revocation.state = .fail ↔ Listed input) ∧
          (result.revocation.state = .pass ↔ ¬ Listed input))) := by
  obtain ⟨pass, fail, indeterminate⟩ := @crlStatus_revocation_iff lib input
  constructor
  · intro refused
    cases checked : checkCrlStatus lib certificatePath issuerPath crlPath validationTime limit with
    | error error => exact ⟨error, rfl⟩
    | ok result => exact absurd refused ((checkCrlStatus_ok_iff read).mp checked).1
  · intro accepted
    refine ⟨_, (checkCrlStatus_ok_iff read).mpr ⟨accepted, rfl⟩, indeterminate.mpr, ?_⟩
    intro established
    rw [pass, fail]
    exact ⟨and_iff_right established, and_iff_right established⟩

end Check

namespace Fixture

open X509.Fixture

/-- The library with the given list and no OCSP responder. -/
def crlLibrary (crl : CertificateRevocationList) : Library :=
  library leafCertificate crl tryLater emptyResponse

def crlInput (crl : CertificateRevocationList) (timestamp : Int64) : CrlInput :=
  ⟨leafCertificate, caCertificate, crl, timestamp⟩

theorem readCrlInput_now (crl : CertificateRevocationList) :
    readCrlInput (crlLibrary crl) "leaf.pem" "ca.pem" "crl.pem" "2026-06-20T00:00:00Z" 64 =
      .ok (crlInput crl now) := rfl

/-- A list that names the leaf twice, first as removed and then without a reason
    and with a serial that is padded differently. -/
def repeatedSerialCrl : CertificateRevocationList :=
  { crl with revokedCertificates :=
    [⟨[0, 255], 0, [], some (false, .removeFromCrl)⟩, ⟨[0, 0, 255], now, [], none⟩] }

end Fixture

theorem crl_status_exact_repeated :
    ∃ result, checkCrlStatus (Fixture.crlLibrary Fixture.repeatedSerialCrl) "leaf.pem" "ca.pem"
        "crl.pem" "2026-06-20T00:00:00Z" 64 = .ok result ∧ result.revocation.state = .fail := by
  obtain ⟨result, checked, _, status⟩ :=
    (crl_status_exact (Fixture.readCrlInput_now Fixture.repeatedSerialCrl)).2
      ((@validateCrlExtensions_ok_iff _ "crl.pem").mp (by decide))
  exact ⟨result, checked, (status (prerequisitesPass_iff.mp (by decide))).1.mpr
    (revoked_iff.mp (by decide))⟩

end HybridX509.Revocation
