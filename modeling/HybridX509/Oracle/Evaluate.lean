import HybridX509.Oracle.AggregateState
import HybridX509.Oracle.Validation

/-! # Policy evaluation

`evaluate`, cut at the local variables of the source. Everything the three policy
trees look at is collected in one `Aggregates` record; the trees keep their branch
order and their reasons, and both `unreachable!` arms stay reachable in the type.
-/

namespace HybridX509.Oracle

/-- `certificates`: the path restricted to the requested scope. -/
def certificates (request : VerificationRequest) : List CertificateNode :=
  request.certificatePath.filter fun certificate => request.pathScope.includes certificate.position

/-- `in_scope`: the evidence restricted to the requested scope. -/
def inScope (request : VerificationRequest) : List Evidence :=
  request.evidence.filter fun item => request.pathScope.includes item.position

/-- `classical` and `post_quantum`. -/
def evidenceOfKind (request : VerificationRequest) (kind : EvidenceKind) : List Evidence :=
  (inScope request).filter (·.kind == kind)

/-- `classical_required` and `pq_required`. -/
def requiredCertificates (request : VerificationRequest) (kind : EvidenceKind) :
    List CertificateNode :=
  (certificates request).filter (·.requires kind)

def kindState (request : VerificationRequest) (kind : EvidenceKind) : AggregateState :=
  evidenceState (requiredCertificates request kind) (evidenceOfKind request kind)
    request.revocationPolicy.mode

def stackState (request : VerificationRequest) : Except Abort AggregateState :=
  match request.stack.verdict with
  | .accept => .ok (stackValidationTimeState request)
  | .reject => .ok .fail
  | .indeterminate => .ok .indeterminate
  | .unsupported => .error (.panicked "unsupported stacks return before evaluation")

def unsupported (request : VerificationRequest) : Bool :=
  (certificates request).any (·.hasUnknownCryptoProperty)
    || request.stack.verdict == .unsupported

/-- The values the policy trees branch on. -/
structure Aggregates where
  classicalState : AggregateState
  pqState : AggregateState
  validatedPathState : AggregateState
  stackState : AggregateState
  profileState : AggregateState
  hybridDesignState : AggregateState
  hasClassicalRequirement : Bool
  hybridClaimEvaluated : Bool
  deriving Repr, DecidableEq

def aggregates (request : VerificationRequest) : Except Abort Aggregates := do
  let stackState ← stackState request
  return {
    classicalState := kindState request .classical
    pqState := kindState request .postQuantum
    validatedPathState := validatedPathState request
    stackState := stackState
    profileState := authenticationProfileState request.stack.validationProfile
    hybridDesignState := hybridAuthenticationDesignState (certificates request) request
    hasClassicalRequirement := !(requiredCertificates request .classical).isEmpty
    hybridClaimEvaluated := !(requiredCertificates request .postQuantum).isEmpty
      || (certificates request).any fun certificate =>
        certificate.hasHybridCertificateSignatureDesign
          || certificate.bindingDesign == .relatedCertificate }

namespace Aggregates

variable (a : Aggregates)

def classicalOk : Bool := a.classicalState == .pass

def pqOk : Bool := a.pqState == .pass

def validatedPathOk : Bool := a.validatedPathState == .pass

def stackAccepted : Bool := a.stackState == .pass

def profileAccepted : Bool := a.profileState == .pass

def allHybrid : Bool := a.hybridDesignState == .pass

def classicalAuthenticationSucceeded : Bool :=
  a.stackAccepted && a.profileAccepted && a.hasClassicalRequirement && a.classicalOk

/-- The accepting condition shared by P1 and P2. -/
def hybridClaimSet : Bool :=
  a.stackAccepted && a.profileAccepted && a.allHybrid && a.classicalOk && a.pqOk
    && a.validatedPathOk

/-- The rejecting condition shared by P0 and P1. -/
def classicalRejected : Bool :=
  !a.hasClassicalRequirement || a.classicalState == .fail || a.stackState == .fail

end Aggregates

def decideP0 (a : Aggregates) : PolicyVerdict × String :=
  if a.classicalRejected then
    (.reject, "The classical evidence or validation stack did not pass.")
  else if a.classicalOk && a.stackAccepted && a.profileAccepted then
    (.classicalClaimSetSatisfied, "The classical evidence passed under policy P0.")
  else
    (.indeterminate, "The classical evidence is incomplete or indeterminate.")

def decideP1 (a : Aggregates) : PolicyVerdict × String :=
  if a.classicalRejected then
    (.reject, "The classical evidence or validation stack did not pass.")
  else if a.hybridClaimSet then
    (.hybridClaimSetSatisfied, "The classical and post-quantum evidence passed under policy P1.")
  else if a.stackAccepted && a.profileAccepted && a.classicalOk then
    (.classicalClaimSetSatisfied, "Only the classical evidence passed under policy P1.")
  else
    (.indeterminate, "The classical evidence is incomplete or indeterminate.")

def decideP2 (a : Aggregates) : Except Abort (PolicyVerdict × String) :=
  if a.hybridClaimSet then
    .ok (.hybridClaimSetSatisfied, "All required classical and post-quantum evidence passed.")
  else if a.classicalAuthenticationSucceeded && a.pqState == .fail then
    .ok (.reject, "The stack accepted through classical evidence without valid, decision-sensitive-for-fixture post-quantum evidence.")
  else if a.hybridDesignState == .fail || a.classicalState == .fail || a.pqState == .fail
      || a.stackState == .fail then
    .ok (.reject, "Required classical or post-quantum evidence did not pass.")
  else if a.classicalState == .indeterminate || a.pqState == .indeterminate
      || a.stackState == .indeterminate || a.profileState == .indeterminate
      || a.validatedPathState == .indeterminate || a.hybridDesignState == .indeterminate then
    .ok (.indeterminate, "Required evidence or selected path binding is incomplete or indeterminate.")
  else
    .error (.panicked "all P2 aggregate states are covered")

def policyDecision (policy : Policy) (a : Aggregates) : Except Abort (PolicyVerdict × String) :=
  match policy with
  | .p0Classical => .ok (decideP0 a)
  | .p1OptionalHybrid => .ok (decideP1 a)
  | .p2RequiredHybrid => decideP2 a
  | .p3Continuity => .ok (.indeterminate, "Policy P3 requires an authenticated continuity record; a caller-supplied previous level is not sufficient.")

def fallback (policy : Policy) (verdict : PolicyVerdict) (a : Aggregates) : Bool :=
  match policy with
  | .p0Classical | .p3Continuity => false
  | .p1OptionalHybrid => verdict == .classicalClaimSetSatisfied && a.hybridClaimEvaluated
  | .p2RequiredHybrid =>
      a.classicalAuthenticationSucceeded
        && (a.pqState != .pass || a.hybridDesignState != .pass)

/-- The checks of an item that the report lists. -/
def reported (check : CheckResult) : Bool :=
  check.state != .notApplicable
    && (check.state != .pass || check.confidence == .inferred || check.confidence == .unknown)

def failedItemChecks (item : Evidence) : List FailedCheck :=
  (item.checks.filter (reported ·.2)).map fun (name, check) =>
    ⟨item.id, name, check.state, check.confidence⟩

/-- The entries pushed by `add_missing_evidence_checks`. -/
def missingEvidenceChecks (required : List CertificateNode) (items : List Evidence)
    (kind : EvidenceKind) : List FailedCheck :=
  (required.filter fun certificate => !items.any (·.certificateId == certificate.id)).map
    fun certificate => ⟨certificate.id ++ ":" ++ kind.debug, "present", .fail, .observed⟩

def failedPairChecks (request : VerificationRequest) : List FailedCheck :=
  (request.pairedAuthentications.filter fun pair =>
    (certificates request).any (·.id == pair.classicalCertificateId)
      && requiredCheckState pair.sameAuthenticationOperation false != .pass).map fun pair =>
    ⟨pair.operationId, "same-authentication-operation",
      pair.sameAuthenticationOperation.state, pair.sameAuthenticationOperation.confidence⟩

def failedChecks (request : VerificationRequest) : List FailedCheck :=
  (inScope request).flatMap failedItemChecks
    ++ missingEvidenceChecks (requiredCertificates request .classical)
      (evidenceOfKind request .classical) .classical
    ++ missingEvidenceChecks (requiredCertificates request .postQuantum)
      (evidenceOfKind request .postQuantum) .postQuantum
    ++ failedPairChecks request

def lifecycleDesynchronization (request : VerificationRequest) (fallback : Bool) : Bool :=
  fallback && (evidenceOfKind request .postQuantum).any fun item =>
    item.validity.state == .fail || item.revocation.state == .fail

def result (request : VerificationRequest) (policyVerdict : PolicyVerdict)
    (classicalOnlyFallback lifecycleDesynchronization : Bool) (failedChecks : List FailedCheck)
    (reason : String) : VerificationResult where
  apiVersion := API_VERSION
  policy := request.policy
  pathScope := request.pathScope
  validationTime := request.validationTime
  previousAuthentication := request.previousAuthentication
  revocationPolicy := request.revocationPolicy
  stack := request.stack
  expectedTrustAnchor := request.expectedTrustAnchor
  certificatePath := request.certificatePath
  pairedAuthentications := request.pairedAuthentications
  stackVerdict := request.stack.verdict
  policyVerdict := policyVerdict
  classicalOnlyFallback := classicalOnlyFallback
  lifecycleDesynchronization := lifecycleDesynchronization
  evaluatedEvidence := request.evidence
  failedChecks := failedChecks
  reason := reason

def evaluate (parseFromRfc3339 : String → Bool) (request : VerificationRequest) :
    Except Abort VerificationResult := do
  validateRequest parseFromRfc3339 request
  if unsupported request then
    return result request .unsupported false false []
      "The certificate cryptographic properties or validation stack are unsupported."
  let a ← aggregates request
  let (verdict, reason) ← policyDecision request.policy a
  let fallback := fallback request.policy verdict a
  return result request verdict fallback (lifecycleDesynchronization request fallback)
    (failedChecks request) reason

end HybridX509.Oracle
