import HybridX509.Model
import HybridX509.Lib.Ascii
import HybridX509.Lib.Registry

/-! # Request validation

`validate_request` and its helpers, check by check and in source order. The hash
sets and maps of the source are registries filled by the loops that insert into
them. The RFC 3339 parser belongs to a dependency and is a parameter; only whether
it accepts the string is used. A panic is an outcome of its own, so that whether
one can happen is a question about the model.
-/

namespace HybridX509.Oracle

open Lib

inductive OracleError where
  | unsupportedApiVersion (apiVersion : String)
  | duplicateEvidenceId (id : String)
  | duplicateEvidenceKind (certificateId : String) (kind : EvidenceKind)
  | duplicateCertificateId (id : String)
  | invalidEndEntityCount
  | trustAnchorInCertificatePath
  | invalidCertificatePathOrder
  | selectedPathMismatch
  | trustAnchorMismatch
  | invalidCertificateProperties (certificateId : String)
  | invalidValidationTime (validationTime : String)
  | validationTimeMismatch (requestValidationTime appliedValidationTime : String)
  | unknownCertificate (evidenceId certificateId : String)
  | positionMismatch (evidenceId certificateId : String)
  | invalidSha256Hex (field : String)
  | certificateDerHashMismatch (evidenceId certificateId : String)
  | issuerEdgeHashMismatch (evidenceId certificateId : String)
  | evidenceArtifactDerHashMismatch (evidenceId : String)
  | duplicatePairedAuthentication (operationId : String)
  | invalidPairedAuthentication (operationId : String)
  | invalidEvidenceAuthenticationOperation (evidenceId : String)
  | revocationPolicyMismatch (evidenceId : String)
  | invalidRevocationEvidence (evidenceId : String)
  deriving Repr, DecidableEq

/-- Ways not to return a value: the `Err` of the source, and a panic. -/
inductive Abort where
  | err (error : OracleError)
  | panicked (message : String)
  deriving Repr, DecidableEq

/-- `&items[start..]`, which panics when `start` is past the end. -/
def sliceFrom {α : Type} (start : Nat) (items : List α) : Except Abort (List α) :=
  if start ≤ items.length then .ok (items.drop start)
  else .error (.panicked "range start index out of range for slice")

/-- `byte.is_ascii_digit() || (b'a'..=b'f').contains(&byte)`. -/
def isLowerHexByte (byte : UInt8) : Bool :=
  (48 ≤ byte && byte ≤ 57) || (97 ≤ byte && byte ≤ 102)

def validateSha256Hex (field : String) : Option String → Except Abort Unit
  | none => .ok ()
  | some value =>
      if (bytes value).length == 64 && (bytes value).all isLowerHexByte then .ok ()
      else .error (.err (.invalidSha256Hex field))

def validateRequiredSha256Hex (field value : String) : Except Abort Unit :=
  validateSha256Hex field (some value)

def validateCertificateProperties (certificate : CertificateNode) : Except Abort Unit :=
  let valid : Bool :=
    match certificate.bindingDesign with
    | .atomicComposite => certificate.certificateSignatureScheme == .hybrid
    | .catalyst | .chameleon | .relatedCertificate | .none | .unknown => true
  if valid then .ok () else .error (.err (.invalidCertificateProperties certificate.id))

def mismatchedOptionalHash : Option String → Option String → Bool
  | some left, some right => left != right
  | _, _ => false

def validateCertificatePathOrder (request : VerificationRequest) : Except Abort Unit := do
  let first ← orFail request.certificatePath.head? (.err .invalidEndEntityCount)
  failIf (first.position ≠ .endEntity) (.err .invalidCertificatePathOrder)
  let intermediates ← sliceFrom 1 request.certificatePath
  failIf (intermediates.any (·.position != .intermediate)) (.err .invalidCertificatePathOrder)

def validateTrustAnchor (trustAnchor : TrustAnchor) (spkiField : String) :
    Except Abort Unit :=
  match trustAnchor with
  | .certificateDerSha256 derSha256 => validateRequiredSha256Hex "trust_anchor.der_sha256" derSha256
  | .nameAndSpkiSha256 name spkiSha256 => do
      validateRequiredSha256Hex spkiField spkiSha256
      failIf (name.isEmpty) (.err .trustAnchorMismatch)
  | .localIdentifier identifier => failIf (identifier.isEmpty) (.err .trustAnchorMismatch)

def validateStackSelectedPath (request : VerificationRequest) : Except Abort Unit := do
  request.stack.certificationPathDerSha256.forM
    (validateRequiredSha256Hex "stack.certification_path_der_sha256")
  let pathHashes ← orFail (request.certificatePath.mapM (·.derSha256)) (.err .selectedPathMismatch)
  failIf (pathHashes ≠ request.stack.certificationPathDerSha256) (.err .selectedPathMismatch)
  validateTrustAnchor request.expectedTrustAnchor "expected_trust_anchor.spki_sha256"
  validateTrustAnchor request.stack.trustAnchor "stack.trust_anchor.spki_sha256"
  failIf (request.expectedTrustAnchor ≠ request.stack.trustAnchor) (.err .trustAnchorMismatch)

/-- The first loop over the evidence: identifiers and `(certificate, kind)` pairs
    already inserted. -/
def registerEvidence (seen : List String × List (String × EvidenceKind)) (item : Evidence) :
    Except Abort (List String × List (String × EvidenceKind)) := do
  failIf (item.id ∈ seen.1) (.err (.duplicateEvidenceId item.id))
  failIf ((item.certificateId, item.kind) ∈ seen.2)
    (.err (.duplicateEvidenceKind item.certificateId item.kind))
  return (item.id :: seen.1, (item.certificateId, item.kind) :: seen.2)

/-- The loop over the path fills `certificates_by_id` and counts end entities. -/
def registerCertificate (state : List (String × CertificateNode) × Nat)
    (certificate : CertificateNode) :
    Except Abort (List (String × CertificateNode) × Nat) := do
  validateSha256Hex "certificate.der_sha256" certificate.derSha256
  validateSha256Hex "certificate.issuer_edge_sha256" certificate.issuerEdgeSha256
  validateCertificateProperties certificate
  let endEntityCount := if certificate.position == .endEntity then state.2 + 1 else state.2
  failIf (certificate.position = .trustAnchor) (.err .trustAnchorInCertificatePath)
  failIf ((state.1.lookup certificate.id).isSome) (.err (.duplicateCertificateId certificate.id))
  return ((certificate.id, certificate) :: state.1, endEntityCount)

/-- The loop over the pairs fills `paired_authentications`. -/
def registerPair (certificatesById : List (String × CertificateNode))
    (pairedAuthentications : List (String × PairedAuthentication)) (pair : PairedAuthentication) :
    Except Abort (List (String × PairedAuthentication)) := do
  validateRequiredSha256Hex "paired_authentication.post_quantum_certificate_der_sha256"
    pair.postQuantumCertificateDerSha256
  failIf (pair.operationId.isEmpty || (pairedAuthentications.lookup pair.operationId).isSome)
    (.err (.duplicatePairedAuthentication pair.operationId))
  failIf ((certificatesById.lookup pair.classicalCertificateId).all
      (·.bindingDesign != .relatedCertificate))
    (.err (.invalidPairedAuthentication pair.operationId))
  return (pair.operationId, pair) :: pairedAuthentications

/-- The operation identifier of an item against the design of its certificate:
    the artifact hash to expect, and `authentication_operations` after the item. -/
def validateAuthenticationOperation (pairedAuthentications : List (String × PairedAuthentication))
    (authenticationOperations : List (String × String)) (certificate : CertificateNode)
    (item : Evidence) : Except Abort (Option String × List (String × String)) :=
  let invalid := Abort.err (.invalidEvidenceAuthenticationOperation item.id)
  if certificate.bindingDesign = .relatedCertificate then do
    let operationId ← orFail item.authenticationOperationId invalid
    let pair ← orFail (pairedAuthentications.lookup operationId) invalid
    failIf (pair.classicalCertificateId ≠ item.certificateId) invalid
    failIf ((authenticationOperations.lookup item.certificateId).any (· != operationId)) invalid
    let expectedArtifact :=
      match item.kind with
      | .classical => certificate.derSha256
      | .postQuantum => some pair.postQuantumCertificateDerSha256
    return (expectedArtifact, (item.certificateId, operationId) :: authenticationOperations)
  else do
    failIf (item.authenticationOperationId.isSome) invalid
    return (certificate.derSha256, authenticationOperations)

/-- The second loop over the evidence. -/
def validateEvidence (request : VerificationRequest)
    (certificatesById : List (String × CertificateNode))
    (pairedAuthentications : List (String × PairedAuthentication))
    (authenticationOperations : List (String × String)) (item : Evidence) :
    Except Abort (List (String × String)) := do
  validateSha256Hex "evidence.certificate_der_sha256" item.certificateDerSha256
  validateSha256Hex "evidence.issuer_edge_sha256" item.issuerEdgeSha256
  validateSha256Hex "evidence.evidence_artifact_der_sha256" item.evidenceArtifactDerSha256
  let certificate ← orFail (certificatesById.lookup item.certificateId)
    (.err (.unknownCertificate item.id item.certificateId))
  failIf (certificate.position ≠ item.position)
    (.err (.positionMismatch item.id item.certificateId))
  failIf (mismatchedOptionalHash certificate.derSha256 item.certificateDerSha256)
    (.err (.certificateDerHashMismatch item.id item.certificateId))
  failIf (mismatchedOptionalHash certificate.issuerEdgeSha256 item.issuerEdgeSha256)
    (.err (.issuerEdgeHashMismatch item.id item.certificateId))
  let (expectedArtifact, authenticationOperations) ←
    validateAuthenticationOperation pairedAuthentications authenticationOperations certificate item
  failIf (mismatchedOptionalHash expectedArtifact item.evidenceArtifactDerSha256)
    (.err (.evidenceArtifactDerHashMismatch item.id))
  failIf (item.appliedRevocationPolicy ≠ request.revocationPolicy)
    (.err (.revocationPolicyMismatch item.id))
  failIf (item.revocation.state = .pass ∧ item.revocationMethod = .none)
    (.err (.invalidRevocationEvidence item.id))
  failIf (request.revocationPolicy.mode = .notRequired ∧ item.revocation.state ≠ .notApplicable)
    (.err (.revocationPolicyMismatch item.id))
  return authenticationOperations

def validateRequest (parseFromRfc3339 : String → Bool) (request : VerificationRequest) :
    Except Abort Unit := do
  failIf (request.apiVersion ≠ API_VERSION) (.err (.unsupportedApiVersion request.apiVersion))
  failIf (!parseFromRfc3339 request.validationTime)
    (.err (.invalidValidationTime request.validationTime))
  let _ ← request.evidence.foldlM registerEvidence ([], [])
  let (certificatesById, endEntityCount) ←
    request.certificatePath.foldlM registerCertificate ([], 0)
  failIf (endEntityCount ≠ 1) (.err .invalidEndEntityCount)
  validateCertificatePathOrder request
  validateStackSelectedPath request
  let pairedAuthentications ←
    request.pairedAuthentications.foldlM (registerPair certificatesById) []
  let _ ← request.evidence.foldlM
    (validateEvidence request certificatesById pairedAuthentications) []
  failIf (request.stack.validationTime.state = .pass
      ∧ request.stack.appliedValidationTime ≠ request.validationTime)
    (.err (.validationTimeMismatch request.validationTime request.stack.appliedValidationTime))

end HybridX509.Oracle
