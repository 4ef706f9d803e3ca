import HybridX509.Lib.BigEndian
import HybridX509.Lib.Text
import HybridX509.Oracle.Outcome
import HybridX509.X509.Profile
import HybridX509.X509.Related

/-! # What the analyses share

The helpers of `analysis/mod.rs`, and the requests under a CRL policy that a path
analysis builds, one for each scope. Such a request is well formed when its path is
the one the stack observed and each item was made from a certificate of the path.
-/

namespace HybridX509.Analysis

open Lib X509 Oracle

structure ScopedVerificationResult where
  scope : PathScope
  result : VerificationResult
  deriving Repr, DecidableEq

def behavioralCheck (established : Bool) (state : CheckState) : CheckResult :=
  if established then ⟨state, .behaviorallyEstablished⟩ else ⟨.indeterminate, .unknown⟩

/-- `outcome_check`: whether the decision followed a damaged control, when the valid
    one was accepted and the control is known to be damaged. -/
def outcomeCheck (valid invalid : StackVerdict) (established : Bool) : CheckResult :=
  if valid ≠ .accept ∨ established = false then behavioralCheck false .indeterminate
  else
    match invalid with
    | .reject => behavioralCheck true .pass
    | .accept => behavioralCheck true .fail
    | .indeterminate | .unsupported => behavioralCheck false .indeterminate

/-- The first check of the conformance that does not pass. -/
def relatedConformanceCheck (result : RelatedConformanceResult) : CheckResult :=
  let checks := [result.rfc9763.binding.check, result.rfc9763.extensionInEndEntity,
    result.rfc9763.relatedCertificateIsEndEntity, result.rfc9763.keyUsageSubset,
    result.rfc9763.extendedKeyUsageSubset,
    result.hybridApplicationPolicy.referenceSubjectPublicKeyIsClassical,
    result.hybridApplicationPolicy.relatedSubjectPublicKeyIsPostQuantum,
    result.hybridApplicationPolicy.dnsIdentityOverlap]
  .observed (((checks.map (·.state)).find? (· != .pass)).getD .pass)

section Hashes

variable (lib : Library)

def sha256Hex (bytes : List UInt8) : String := hexLower (lib.sha256 bytes)

def certificateDerHash (path : String) (limit : Nat) : Except PemError String := do
  let der ← readDer lib path .certificate limit
  return sha256Hex lib der

def certificateTrustAnchor (path : String) (limit : Nat) : Except PemError TrustAnchor := do
  let derSha256 ← certificateDerHash lib path limit
  return .certificateDerSha256 derSha256

def issuerEdgeHash (certificate issuer : String) (limit : Nat) : Except PemError String := do
  let certificate ← readDer lib certificate .certificate limit
  let issuer ← readDer lib issuer .certificate limit
  return sha256Hex lib (toBeBytes (.ofNat certificate.length) ++ certificate
    ++ toBeBytes (.ofNat issuer.length) ++ issuer)

structure LeafPathProperties where
  subjectPublicKeyScheme : AlgorithmSecurity
  certificateSignatureScheme : AlgorithmSecurity
  bindingDesign : BindingDesign
  deriving Repr, DecidableEq

def endEntityCertificationPath (leaf issuer trustAnchor : String)
    (properties : LeafPathProperties) (limit : Nat) : Except PemError (List CertificateNode) := do
  let leafDerSha256 ← certificateDerHash lib leaf limit
  let leafEdgeSha256 ← issuerEdgeHash lib leaf issuer limit
  let issuerDerSha256 ← certificateDerHash lib issuer limit
  let issuerEdgeSha256 ← issuerEdgeHash lib issuer trustAnchor limit
  return [{
      id := "end-entity"
      position := .endEntity
      subjectPublicKeyScheme := properties.subjectPublicKeyScheme
      certificateSignatureScheme := properties.certificateSignatureScheme
      bindingDesign := properties.bindingDesign
      derSha256 := some leafDerSha256
      issuerEdgeSha256 := some leafEdgeSha256 }, {
      id := "issuer"
      position := .intermediate
      subjectPublicKeyScheme := .classical
      certificateSignatureScheme := .classical
      bindingDesign := .none
      derSha256 := some issuerDerSha256
      issuerEdgeSha256 := some issuerEdgeSha256 }]

/-- Whether `DateTime::parse_from_rfc3339` accepts the time. -/
def readsTime (validationTime : String) : Bool := (lib.parseFromRfc3339 validationTime).isSome

end Hashes

/-- What every request of a path analysis has in common. -/
structure ScopeSettings where
  policy : Policy
  validationTime : String
  previousAuthentication : Option AuthenticationLevel
  deriving Repr, DecidableEq

/-- The request of a path analysis under `RevocationPolicy::crl_hard_fail()`. -/
def scopeRequest (settings : ScopeSettings) (stack : StackObservation) (anchor : TrustAnchor)
    (path : List CertificateNode) (evidence : List Evidence) (scope : PathScope) :
    VerificationRequest where
  apiVersion := API_VERSION
  policy := settings.policy
  pathScope := scope
  validationTime := settings.validationTime
  previousAuthentication := settings.previousAuthentication
  revocationPolicy := .crlHardFail
  stack := stack
  expectedTrustAnchor := anchor
  certificatePath := path
  pairedAuthentications := []
  evidence := evidence

/-- The request for each scope, evaluated. -/
def evaluateEach (lib : Library) (request : PathScope → VerificationRequest) :
    Except Abort (List ScopedVerificationResult) :=
  [PathScope.endEntity, PathScope.certificationPath].mapM fun scope => do
    let result ← evaluate (readsTime lib) (request scope)
    return ⟨scope, result⟩

theorem evaluateEach_ok_iff {lib : Library} {request : PathScope → VerificationRequest}
    {scopes : List ScopedVerificationResult} :
    evaluateEach lib request = .ok scopes ↔
      ∃ endEntity certificationPath, evaluate (readsTime lib) (request .endEntity) = .ok endEntity ∧
        evaluate (readsTime lib) (request .certificationPath) = .ok certificationPath ∧
        scopes = [⟨.endEntity, endEntity⟩, ⟨.certificationPath, certificationPath⟩] := by
  simp only [evaluateEach, List.mapM_cons, List.mapM_nil, bind_ok_iff, pure_ok_iff]
  constructor
  · rintro ⟨_, ⟨first, evaluated, rfl⟩, _, ⟨_, ⟨second, evaluated', rfl⟩, _, rfl, rfl⟩, rfl⟩
    exact ⟨first, second, evaluated, evaluated', rfl⟩
  · rintro ⟨first, second, evaluated, evaluated', rfl⟩
    exact ⟨_, ⟨first, evaluated, rfl⟩, _, ⟨_, ⟨second, evaluated', rfl⟩, _, rfl, rfl⟩, rfl⟩

/-! ## Hashes -/

theorem read_of_certificateDerHash {lib : Library} {path hash : String} {limit : Nat}
    (hashed : certificateDerHash lib path limit = .ok hash) :
    ∃ der, readDer lib path .certificate limit = .ok der := by
  obtain ⟨der, read, _⟩ := bind_ok_iff.mp hashed
  exact ⟨der, read⟩

/-- An edge is hashed when both of its ends can be read. -/
theorem issuerEdgeHash_returns {lib : Library} {certificate issuer : String} {limit : Nat}
    (read : ∃ der, readDer lib certificate .certificate limit = .ok der)
    (issuerRead : ∃ der, readDer lib issuer .certificate limit = .ok der) :
    ∃ hash, issuerEdgeHash lib certificate issuer limit = .ok hash := by
  obtain ⟨der, read⟩ := read
  obtain ⟨issuerDer, issuerRead⟩ := issuerRead
  exact ⟨_, bind_ok_iff.mpr ⟨der, read, bind_ok_iff.mpr ⟨issuerDer, issuerRead, rfl⟩⟩⟩

section Digests

variable {lib : Library} (digest : ∀ bytes, (lib.sha256 bytes).length = 32)

include digest

theorem isSha256Hex_sha256Hex (bytes : List UInt8) : IsSha256Hex (sha256Hex lib bytes) := by
  refine ⟨?_, hexLower_lowerHex _⟩
  rw [sha256Hex, length_hexLower, digest]

theorem isSha256Hex_of_certificateDerHash {path : String} {limit : Nat} {hash : String}
    (hashed : certificateDerHash lib path limit = .ok hash) : IsSha256Hex hash := by
  obtain ⟨der, _, same⟩ := bind_ok_iff.mp hashed
  exact pure_ok_iff.mp same ▸ isSha256Hex_sha256Hex digest der

theorem isSha256Hex_of_issuerEdgeHash {certificate issuer : String} {limit : Nat} {hash : String}
    (hashed : issuerEdgeHash lib certificate issuer limit = .ok hash) : IsSha256Hex hash := by
  obtain ⟨der, _, rest⟩ := bind_ok_iff.mp hashed
  obtain ⟨issuerDer, _, same⟩ := bind_ok_iff.mp rest
  exact pure_ok_iff.mp same ▸ isSha256Hex_sha256Hex digest _

end Digests

/-! ## Requests that are accepted -/

/-- An item made from a certificate of the path, with a CRL for its status. -/
structure ItemOf (certificate : CertificateNode) (item : Evidence) : Prop where
  certificateId : item.certificateId = certificate.id
  position : item.position = certificate.position
  der : item.certificateDerSha256 = certificate.derSha256
  artifact : item.evidenceArtifactDerSha256 = certificate.derSha256
  edge : item.issuerEdgeSha256 = certificate.issuerEdgeSha256
  operation : item.authenticationOperationId = none
  method : item.revocationMethod = .crl
  policy : item.appliedRevocationPolicy = .crlHardFail

theorem compatible_refl (hash : Option String) : Compatible hash hash :=
  fun _ _ left right => Option.some.inj (left.symm.trans right)

theorem ItemOf.wellFormed {certificate : CertificateNode} {item : Evidence}
    (itemOf : ItemOf certificate item) (wf : CertificateWellFormed certificate)
    (unrelated : certificate.bindingDesign ≠ .relatedCertificate) {request : VerificationRequest}
    (policy : request.revocationPolicy = .crlHardFail) :
    EvidenceWellFormed request certificate item where
  named := itemOf.certificateId.symm
  certificateDerHash := itemOf.der ▸ wf.derHash
  issuerEdgeHash := itemOf.edge ▸ wf.edgeHash
  artifactHash := itemOf.artifact ▸ wf.derHash
  position := itemOf.position.symm
  der := itemOf.der ▸ compatible_refl _
  issuerEdge := itemOf.edge ▸ compatible_refl _
  carriesOperation := by simp [itemOf.operation, unrelated]
  paired := by simp [itemOf.operation]
  ownArtifact := fun _ => itemOf.artifact ▸ compatible_refl _
  pairedArtifact := by simp [itemOf.operation]
  revocationPolicy := itemOf.policy.trans policy.symm
  revocationMethod := by simp [itemOf.method]
  revocationNotRequired := by simp [policy, RevocationPolicy.crlHardFail]

/-- A path with the items made from its certificates, against what the stack saw. -/
structure Presentable (settings : ScopeSettings) (stack : StackObservation) (anchor : TrustAnchor)
    (path : List CertificateNode) (evidence : List Evidence) : Prop where
  order : ∃ leaf intermediates, path = leaf :: intermediates ∧ leaf.position = .endEntity ∧
    ∀ certificate ∈ intermediates, certificate.position = .intermediate
  certificateIds : (path.map (·.id)).Nodup
  certificates : ∀ certificate ∈ path, CertificateWellFormed certificate
  unrelated : ∀ certificate ∈ path, certificate.bindingDesign ≠ .relatedCertificate
  items : ∀ item ∈ evidence, ∃ certificate ∈ path, ItemOf certificate item
  evidenceIds : (evidence.map (·.id)).Nodup
  evidenceKinds : (evidence.map fun item => (item.certificateId, item.kind)).Nodup
  selectedPath : path.map (·.derSha256) = stack.certificationPathDerSha256.map some
  anchorHash : TrustAnchorWellFormed anchor
  sameAnchor : anchor = stack.trustAnchor
  appliedTime : stack.appliedValidationTime = settings.validationTime

theorem Presentable.wellFormed {lib : Library} {settings : ScopeSettings} {stack : StackObservation}
    {anchor : TrustAnchor} {path : List CertificateNode} {evidence : List Evidence}
    (presentable : Presentable settings stack anchor path evidence)
    (time : readsTime lib settings.validationTime = true) (scope : PathScope) :
    WellFormed (readsTime lib) (scopeRequest settings stack anchor path evidence scope) where
  apiVersion := rfl
  validationTime := time
  evidenceIds := presentable.evidenceIds
  evidenceKinds := presentable.evidenceKinds
  certificateIds := presentable.certificateIds
  pathOrder := presentable.order
  pathCertificates := presentable.certificates
  selectedPath := presentable.selectedPath
  trustAnchor := presentable.anchorHash
  sameTrustAnchor := presentable.sameAnchor
  operationIds := List.nodup_nil
  pairs := fun _ member => by cases member
  evidence := by
    intro item member
    obtain ⟨certificate, inPath, itemOf⟩ := presentable.items item member
    exact ⟨certificate, inPath, itemOf.wellFormed (presentable.certificates certificate inPath)
      (presentable.unrelated certificate inPath) rfl⟩
  sameOperation := by
    intro item member other inOther _
    obtain ⟨_, _, itemOf⟩ := presentable.items item member
    obtain ⟨_, _, otherOf⟩ := presentable.items other inOther
    rw [itemOf.operation, otherOf.operation]
  appliedTime := fun _ => presentable.appliedTime

/-- Presentable material is evaluated for both scopes, and each result repeats it. -/
theorem Presentable.evaluated {lib : Library} {settings : ScopeSettings} {stack : StackObservation}
    {anchor : TrustAnchor} {path : List CertificateNode} {evidence : List Evidence}
    (presentable : Presentable settings stack anchor path evidence)
    (time : readsTime lib settings.validationTime = true) :
    ∃ scopes, evaluateEach lib (scopeRequest settings stack anchor path evidence) = .ok scopes := by
  obtain ⟨endEntity, evaluated⟩ := (presentable.wellFormed time .endEntity).answered
  obtain ⟨certificationPath, evaluated'⟩ := (presentable.wellFormed time .certificationPath).answered
  exact ⟨_, evaluateEach_ok_iff.mpr ⟨endEntity, certificationPath, evaluated, evaluated', rfl⟩⟩

end HybridX509.Analysis
