import HybridX509.Analysis.AtomicTls
import HybridX509.Analysis.ChameleonTls
import HybridX509.Analysis.PathScopes
import HybridX509.Analysis.RelatedTls

/-! # Inconclusive runs of the TLS analyses

An adapter run that timed out, lost output or crashed answers `Indeterminate`. The TLS
analyses turn everything but acceptance of a handshake into an observed failure of the
path, so that such a run rejects; the direct checks and the controls are told apart as
they should be.
-/

namespace HybridX509.Analysis

open Lib X509 Oracle Adapters Adapters.BouncyCastle Revocation.Ocsp PathRuns PathPositions
open Transcripts

/-- An inconclusive run is not taken for a failure exactly when the handshakes that a path
    check repeats were conclusive. -/
theorem tlsAnalyses_honest_iff (sys : TlsSystem)
    (digest : ∀ bytes, (sys.sha256 bytes).length = 32) :
    (∀ config runs material, AtomicTls.gather sys config = .ok (runs, material) →
      ∃ answer, evaluate (readsTime sys.toLibrary) (AtomicTls.request config runs material) =
          .ok answer ∧
        (∀ report, AtomicTls.analyze sys config = .ok report → report.result = answer) ∧
        ((AtomicTls.account runs).Honest (AtomicTls.request config runs material)
          answer.policyVerdict ↔ Conclusive runs.validTls.verdict)) ∧
    (∀ config runs material, ChameleonTls.gather sys config = .ok (runs, material) →
      ∃ answer, evaluate (readsTime sys.toLibrary) (ChameleonTls.request config runs material) =
          .ok answer ∧
        (∀ report, ChameleonTls.analyze sys config = .ok report → report.result = answer) ∧
        ((ChameleonTls.account runs).Honest (ChameleonTls.request config runs material)
          answer.policyVerdict ↔
            Conclusive runs.validBaseTls.verdict ∧ Conclusive runs.separateDeltaTls.verdict)) ∧
    (∀ config runs material, RelatedTls.gather sys config = .ok (runs, material) →
      ∃ answer, evaluate (readsTime sys.toLibrary) (RelatedTls.request config runs material) =
          .ok answer ∧
        (∀ report, RelatedTls.analyze sys config = .ok report → report.result = answer) ∧
        ((RelatedTls.account runs).Honest (RelatedTls.request config runs material)
          answer.policyVerdict ↔ Conclusive runs.classicalTls.verdict)) :=
  ⟨fun _ _ _ gathered => AtomicTls.honest_iff digest gathered,
    fun _ _ _ gathered => ChameleonTls.honest_iff digest gathered,
    fun _ _ _ gathered => RelatedTls.honest_iff digest gathered⟩

/-! ## Stopped runs

The directory of the path analyses with two private keys, and an adapter that accepts
everything but never returns for the given leaf. -/

namespace InconclusiveRuns.Fixture

/-- A run that was stopped when its time was over. -/
def stopped : ProcessOutput := ⟨none, true, ⟨5, 0⟩, ⟨[], false⟩, ⟨[], false⟩⟩

def files : List (String × List UInt8) :=
  [("key.pem", [8, 1]), ("pq-key.pem", [8, 2])] ++ PathScopes.Fixture.files

def system (stuck : Option String) : TlsSystem where
  toSystem := { PathScopes.Fixture.system.toSystem with
    openFile := fun path =>
      orFail ((files.lookup path).map fun bytes => ⟨true, bytes.length, .ok bytes⟩) "no such file"
    runProgram := fun call => .ok (if stuck = some call.leaf then stopped
      else CrossSignedPath.Fixture.output CrossSignedPath.Fixture.acceptLine) }
  readableTempfile := fun _ => .ok "damaged.pem"
  transcriptFromSlice := fun _ => none

def atomicConfig : AtomicTls.AtomicTlsConfig where
  docker := "docker"
  image := "hybrid-x509-bouncycastle:1.84"
  trustStore := "delta-root.pem"
  issuer := "delta-intermediate.pem"
  validCertificate := "atomic-leaf.pem"
  invalidPostQuantumCertificate := "atomic-leaf-bad-pq.pem"
  privateKey := "key.pem"
  validationTime := "2026-06-20T00:00:00Z"
  timeout := ⟨5, 0⟩
  maxOutputBytes := 64 * 1024

def chameleonConfig : ChameleonTls.ChameleonTlsConfig where
  docker := "docker"
  image := "hybrid-x509-bouncycastle:1.84"
  trustStore := "delta-root.pem"
  issuer := "delta-intermediate.pem"
  validBaseCertificate := "base-leaf.pem"
  invalidDeltaBaseCertificate := "base-leaf-bad-classical.pem"
  deltaCertificate := "delta-leaf.pem"
  basePrivateKey := "pq-key.pem"
  deltaPrivateKey := "key.pem"
  validationTime := "2026-06-20T00:00:00Z"
  timeout := ⟨5, 0⟩
  maxOutputBytes := 64 * 1024

def relatedConfig : RelatedTls.RelatedTlsConfig where
  docker := "docker"
  image := "hybrid-x509-bouncycastle:1.84"
  trustStore := "delta-root.pem"
  issuer := "delta-intermediate.pem"
  classicalCertificate := "related-leaf.pem"
  invalidBindingClassicalCertificate := "related-leaf-bad-pq.pem"
  missingBindingClassicalCertificate := "delta-leaf.pem"
  postQuantumCertificate := "pure-leaf.pem"
  expiredPostQuantumCertificate := "pure-leaf-bad-pq.pem"
  classicalPrivateKey := "key.pem"
  postQuantumPrivateKey := "pq-key.pem"
  crl := "intermediate-crl.pem"
  validationTime := "2026-06-20T00:00:00Z"
  timeout := ⟨5, 0⟩
  maxOutputBytes := 64 * 1024

end InconclusiveRuns.Fixture

namespace InconclusiveRuns

/-- Nothing in the request is known to fail. -/
def Unfailing (request : VerificationRequest) : Prop :=
  request.stack.verdict ≠ .reject ∧
    (∀ pair ∈ request.pairedAuthentications, pair.sameAuthenticationOperation.state ≠ .fail) ∧
    ∀ item ∈ request.evidence, ∀ check ∈ item.checks, check.2.state ≠ .fail

instance : DecidablePred Unfailing := fun _ => inferInstanceAs (Decidable (_ ∧ _ ∧ _))

theorem Unfailing.noOtherFailure {account : Account} {request : VerificationRequest}
    (unfailing : Unfailing request) : account.NoOtherFailure request := by
  obtain ⟨stack, pairs, checks⟩ := unfailing
  refine ⟨stack, pairs, ?_⟩
  intro item member check performed failed
  exact absurd failed (checks item member check performed)

end InconclusiveRuns

open InconclusiveRuns

/-- A control that is stopped leaves the verdict open where the handshake itself is accepted.
    A related pair never gets that far, as its two handshakes are not one operation. -/
theorem tlsAnalyses_honest_iff_stopped :
    (∃ runs material answer,
      AtomicTls.gather (Fixture.system (some "atomic-leaf-bad-pq.pem")) Fixture.atomicConfig =
        .ok (runs, material) ∧
      evaluate (readsTime (Fixture.system none).toLibrary)
        (AtomicTls.request Fixture.atomicConfig runs material) = .ok answer ∧
      .indeterminate ∈ (AtomicTls.account runs).handshakes ∧
      answer.policyVerdict = .indeterminate) ∧
    (∃ runs material answer,
      ChameleonTls.gather (Fixture.system (some "base-leaf-bad-classical.pem"))
        Fixture.chameleonConfig = .ok (runs, material) ∧
      evaluate (readsTime (Fixture.system none).toLibrary)
        (ChameleonTls.request Fixture.chameleonConfig runs material) = .ok answer ∧
      .indeterminate ∈ (ChameleonTls.account runs).handshakes ∧
      answer.policyVerdict = .indeterminate) ∧
    (∃ runs material answer,
      RelatedTls.gather (Fixture.system (some "pure-leaf-bad-pq.pem")) Fixture.relatedConfig =
        .ok (runs, material) ∧
      evaluate (readsTime (Fixture.system none).toLibrary)
        (RelatedTls.request Fixture.relatedConfig runs material) = .ok answer ∧
      .indeterminate ∈ (RelatedTls.account runs).handshakes ∧
      (RelatedTls.account runs).Honest (RelatedTls.request Fixture.relatedConfig runs material)
        answer.policyVerdict) := by
  have digest := CrossSignedPath.Fixture.length_digest .atomic
  have atomicGathered : ∃ gathered, AtomicTls.gather
      (Fixture.system (some "atomic-leaf-bad-pq.pem")) Fixture.atomicConfig = .ok gathered ∧
      Conclusive gathered.1.validTls.verdict ∧
      .indeterminate ∈ (AtomicTls.account gathered.1).handshakes ∧
      Unfailing (AtomicTls.request Fixture.atomicConfig gathered.1 gathered.2) := by
    decide +kernel
  have chameleonGathered : ∃ gathered, ChameleonTls.gather
      (Fixture.system (some "base-leaf-bad-classical.pem")) Fixture.chameleonConfig =
        .ok gathered ∧
      (Conclusive gathered.1.validBaseTls.verdict ∧
        Conclusive gathered.1.separateDeltaTls.verdict) ∧
      .indeterminate ∈ (ChameleonTls.account gathered.1).handshakes ∧
      Unfailing (ChameleonTls.request Fixture.chameleonConfig gathered.1 gathered.2) := by
    decide +kernel
  have relatedGathered : ∃ gathered, RelatedTls.gather
      (Fixture.system (some "pure-leaf-bad-pq.pem")) Fixture.relatedConfig = .ok gathered ∧
      Conclusive gathered.1.classicalTls.verdict ∧
      .indeterminate ∈ (RelatedTls.account gathered.1).handshakes := by
    decide +kernel
  refine ⟨?_, ?_, ?_⟩
  · obtain ⟨⟨runs, material⟩, gathered, conclusive, stopped, unfailing⟩ := atomicGathered
    obtain ⟨answer, returned, -, honest⟩ :=
      (tlsAnalyses_honest_iff _ digest).1 _ runs material gathered
    exact ⟨runs, material, answer, gathered, returned, stopped,
      (honest.mpr conclusive).indeterminate stopped unfailing.noOtherFailure⟩
  · obtain ⟨⟨runs, material⟩, gathered, conclusive, stopped, unfailing⟩ := chameleonGathered
    obtain ⟨answer, returned, -, honest⟩ :=
      (tlsAnalyses_honest_iff _ digest).2.1 _ runs material gathered
    exact ⟨runs, material, answer, gathered, returned, stopped,
      (honest.mpr conclusive).indeterminate stopped unfailing.noOtherFailure⟩
  · obtain ⟨⟨runs, material⟩, gathered, conclusive, stopped⟩ := relatedGathered
    obtain ⟨answer, returned, -, honest⟩ :=
      (tlsAnalyses_honest_iff _ digest).2.2 _ runs material gathered
    exact ⟨runs, material, answer, gathered, returned, stopped, honest.mpr conclusive⟩

/-- A handshake that is stopped is answered with `Indeterminate`. Nothing else fails, and yet
    the request is rejected, for the path. -/
theorem atomicTls_stopped_rejected :
    ∃ runs material report,
      AtomicTls.gather (Fixture.system (some "atomic-leaf.pem")) Fixture.atomicConfig =
        .ok (runs, material) ∧
      AtomicTls.analyze (Fixture.system (some "atomic-leaf.pem")) Fixture.atomicConfig = .ok report ∧
      runs.validTls.verdict = .indeterminate ∧
      (AtomicTls.account runs).NoOtherFailure
        (AtomicTls.request Fixture.atomicConfig runs material) ∧
      report.result.policyVerdict = .reject ∧
      ¬ (AtomicTls.account runs).Honest (AtomicTls.request Fixture.atomicConfig runs material)
        report.result.policyVerdict := by
  have run : ∃ gathered, AtomicTls.gather (Fixture.system (some "atomic-leaf.pem"))
      Fixture.atomicConfig = .ok gathered ∧ gathered.1.validTls.verdict = .indeterminate ∧
      gathered.2.validity.state = .pass := by decide +kernel
  have analysis : ∃ report, AtomicTls.analyze (Fixture.system (some "atomic-leaf.pem"))
      Fixture.atomicConfig = .ok report ∧ report.result.policyVerdict = .reject := by
    decide +kernel
  obtain ⟨⟨runs, material⟩, gathered, indeterminate, valid⟩ := run
  obtain ⟨report, analyzed, rejected⟩ := analysis
  have noOther : (AtomicTls.account runs).NoOtherFailure
      (AtomicTls.request Fixture.atomicConfig runs material) :=
    AtomicTls.noOtherFailure (by rw [indeterminate]; decide) (by rw [valid]; decide)
  refine ⟨runs, material, report, gathered, analyzed, indeterminate, noOther, rejected, ?_⟩
  intro honest
  have kept := honest.indeterminate (by simp [AtomicTls.account, indeterminate]) noOther
  exact absurd (rejected.symm.trans kept) (by decide)

end HybridX509.Analysis
