import Mathlib.Data.List.Basic

/-! # Evidence, requests and results

The data model of `model.rs`. Identifiers, hashes and times stay strings, as in
the source; the eight checks of an evidence item keep their serialized names,
because the oracle selects its allowances by name.
-/

namespace HybridX509

def API_VERSION : String := "hybrid-x509-evidence/v9"

inductive Policy where
  | p0Classical
  | p1OptionalHybrid
  | p2RequiredHybrid
  | p3Continuity
  deriving Repr, DecidableEq

inductive PathScope where
  | endEntity
  | certificationPath
  deriving Repr, DecidableEq

inductive PathPosition where
  | endEntity
  | intermediate
  | trustAnchor
  deriving Repr, DecidableEq

def PathScope.includes : PathScope → PathPosition → Bool
  | .endEntity, position => position == .endEntity
  | .certificationPath, position => position != .trustAnchor

inductive AlgorithmSecurity where
  | classical
  | postQuantum
  | hybrid
  | unknown
  deriving Repr, DecidableEq

namespace AlgorithmSecurity

def isClassical : AlgorithmSecurity → Bool
  | .classical | .hybrid => true
  | _ => false

def isPostQuantum : AlgorithmSecurity → Bool
  | .postQuantum | .hybrid => true
  | _ => false

def isUnknown (scheme : AlgorithmSecurity) : Bool := scheme == .unknown

end AlgorithmSecurity

inductive BindingDesign where
  | none
  | atomicComposite
  | catalyst
  | chameleon
  | relatedCertificate
  | unknown
  deriving Repr, DecidableEq

namespace BindingDesign

def isHybridCertificateSignatureDesign : BindingDesign → Bool
  | .atomicComposite | .catalyst | .chameleon => true
  | _ => false

def isUnknown (design : BindingDesign) : Bool := design == .unknown

end BindingDesign

structure CertificateNode where
  id : String
  position : PathPosition
  subjectPublicKeyScheme : AlgorithmSecurity
  certificateSignatureScheme : AlgorithmSecurity
  bindingDesign : BindingDesign
  derSha256 : Option String
  issuerEdgeSha256 : Option String
  deriving Repr, DecidableEq

inductive EvidenceKind where
  | classical
  | postQuantum
  deriving Repr, DecidableEq

/-- `{kind:?}`. -/
def EvidenceKind.debug : EvidenceKind → String
  | .classical => "Classical"
  | .postQuantum => "PostQuantum"

namespace CertificateNode

def hasUnknownCryptoProperty (certificate : CertificateNode) : Bool :=
  certificate.subjectPublicKeyScheme.isUnknown
    || certificate.certificateSignatureScheme.isUnknown
    || certificate.bindingDesign.isUnknown

def requiresClassicalCertificateSignatureEvidence (certificate : CertificateNode) : Bool :=
  certificate.certificateSignatureScheme.isClassical
    || certificate.bindingDesign.isHybridCertificateSignatureDesign

def requiresPostQuantumCertificateSignatureEvidence (certificate : CertificateNode) : Bool :=
  certificate.certificateSignatureScheme.isPostQuantum
    || certificate.bindingDesign.isHybridCertificateSignatureDesign
    || certificate.bindingDesign == .relatedCertificate

def hasHybridCertificateSignatureDesign (certificate : CertificateNode) : Bool :=
  certificate.bindingDesign.isHybridCertificateSignatureDesign
    || certificate.certificateSignatureScheme == .hybrid

/-- The two requirement filters under one name, indexed by the evidence kind. -/
def requires (certificate : CertificateNode) : EvidenceKind → Bool
  | .classical => certificate.requiresClassicalCertificateSignatureEvidence
  | .postQuantum => certificate.requiresPostQuantumCertificateSignatureEvidence

end CertificateNode

inductive CheckState where
  | pass
  | fail
  | indeterminate
  | notChecked
  | notApplicable
  deriving Repr, DecidableEq

inductive Confidence where
  | observed
  | behaviorallyEstablished
  | inferred
  | unknown
  deriving Repr, DecidableEq

structure CheckResult where
  state : CheckState
  confidence : Confidence
  deriving Repr, DecidableEq

def CheckResult.observed (state : CheckState) : CheckResult := ⟨state, .observed⟩

inductive RevocationMethod where
  | ocsp
  | crl
  | none
  deriving Repr, DecidableEq

inductive RevocationPolicyMode where
  | hardFail
  | softFail
  | notRequired
  deriving Repr, DecidableEq

structure RevocationPolicy where
  mode : RevocationPolicyMode
  maxAgeSeconds : Option UInt64
  clockSkewSeconds : Option UInt64
  deriving Repr, DecidableEq

def RevocationPolicy.crlHardFail : RevocationPolicy := ⟨.hardFail, none, none⟩

structure Evidence where
  id : String
  certificateId : String
  position : PathPosition
  certificateDerSha256 : Option String
  evidenceArtifactDerSha256 : Option String
  issuerEdgeSha256 : Option String
  authenticationOperationId : Option String
  kind : EvidenceKind
  present : CheckResult
  recognized : CheckResult
  signature : CheckResult
  binding : CheckResult
  path : CheckResult
  validity : CheckResult
  revocation : CheckResult
  revocationMethod : RevocationMethod
  appliedRevocationPolicy : RevocationPolicy
  decisionSensitiveForFixture : CheckResult
  deriving Repr, DecidableEq

def Evidence.checks (item : Evidence) : List (String × CheckResult) :=
  [("present", item.present),
   ("recognized", item.recognized),
   ("signature", item.signature),
   ("binding", item.binding),
   ("path", item.path),
   ("validity", item.validity),
   ("revocation", item.revocation),
   ("decision-sensitive-for-fixture", item.decisionSensitiveForFixture)]

inductive StackVerdict where
  | accept
  | reject
  | indeterminate
  | unsupported
  deriving Repr, DecidableEq

inductive ValidationProfile where
  | x509Path
  | webPkiServer
  | evidenceSignature
  deriving Repr, DecidableEq

inductive ExecutionIsolation where
  | container
  | processOnly
  deriving Repr, DecidableEq

inductive VersionTrack where
  | current
  | study
  | currentAndStudy
  | userSupplied
  deriving Repr, DecidableEq

inductive PathObservationSource where
  | presentedInput
  | adapterSelected
  | notReported
  deriving Repr, DecidableEq

inductive TrustAnchor where
  | certificateDerSha256 (derSha256 : String)
  | nameAndSpkiSha256 (name spkiSha256 : String)
  | localIdentifier (identifier : String)
  deriving Repr, DecidableEq

structure StackObservation where
  adapter : String
  version : String
  verdict : StackVerdict
  versionTrack : VersionTrack
  validationProfile : ValidationProfile
  executionIsolation : ExecutionIsolation
  certificationPathDerSha256 : List String
  selectedPathSource : PathObservationSource
  trustAnchor : TrustAnchor
  appliedValidationTime : String
  validationTime : CheckResult
  deriving Repr, DecidableEq

inductive AuthenticationLevel where
  | classical
  | hybrid
  deriving Repr, DecidableEq

structure PairedAuthentication where
  operationId : String
  classicalCertificateId : String
  postQuantumCertificateDerSha256 : String
  sameAuthenticationOperation : CheckResult
  deriving Repr, DecidableEq

structure VerificationRequest where
  apiVersion : String
  policy : Policy
  pathScope : PathScope
  validationTime : String
  previousAuthentication : Option AuthenticationLevel
  revocationPolicy : RevocationPolicy
  stack : StackObservation
  expectedTrustAnchor : TrustAnchor
  certificatePath : List CertificateNode
  pairedAuthentications : List PairedAuthentication
  evidence : List Evidence
  deriving Repr, DecidableEq

inductive PolicyVerdict where
  | classicalClaimSetSatisfied
  | hybridClaimSetSatisfied
  | reject
  | indeterminate
  | unsupported
  deriving Repr, DecidableEq

structure FailedCheck where
  evidenceId : String
  check : String
  state : CheckState
  confidence : Confidence
  deriving Repr, DecidableEq

structure VerificationResult where
  apiVersion : String
  policy : Policy
  pathScope : PathScope
  validationTime : String
  previousAuthentication : Option AuthenticationLevel
  revocationPolicy : RevocationPolicy
  stack : StackObservation
  expectedTrustAnchor : TrustAnchor
  certificatePath : List CertificateNode
  pairedAuthentications : List PairedAuthentication
  stackVerdict : StackVerdict
  policyVerdict : PolicyVerdict
  classicalOnlyFallback : Bool
  lifecycleDesynchronization : Bool
  evaluatedEvidence : List Evidence
  failedChecks : List FailedCheck
  reason : String
  deriving Repr, DecidableEq

end HybridX509
