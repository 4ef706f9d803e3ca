import HybridX509.Revocation.Crl
import HybridX509.Revocation.OcspAcceptance

/-! # The issuer check of the two revocation checkers

Both checkers report whether the issuer issued the certificate. They ask the same
questions, but `check_crl_status` takes every error of the verification for a
failure, where `check_ocsp_status` leaves open what it could not decide.
-/

namespace HybridX509.Revocation

open Lib X509

variable {lib : Library} {certificatePath issuerPath : String}

/-- The verification of a signature ended with an answer about the signature. -/
def Decided (outcome : Except X509Error Unit) : Prop :=
  outcome = .ok () ∨ outcome = .error .signatureVerificationError ∨
    outcome = .error .invalidSignatureValue

/-- The issuer checks of two results about one certificate and issuer agree, and an
    unsupported algorithm is not held against the certificate. -/
structure SameIssuerCheck (lib : Library) (certificate issuer : X509Certificate)
    (crl : CrlStatusResult) (ocsp : Ocsp.OcspStatusResult) : Prop where
  same : crl.issuer.state = ocsp.issuer.state
  unsupported : certificate.issuer = issuer.subject →
    certificate.signatureAlgorithm = certificate.tbsSignature →
    certificate.verifySignature lib issuer.publicKey = .error .signatureUnsupportedAlgorithm →
      crl.issuer.state ≠ .fail ∧ ocsp.issuer.state ≠ .fail

/-- Both checkers read the same certificate and the same issuer. -/
theorem read_same_certificates {crlPath responsePath crlTime ocspTime : String}
    {expectedNonceBase64 : Option String} {crlLimit ocspLimit : Nat} {input : CrlInput}
    {ocspInput : Ocsp.OcspInput}
    (read : readCrlInput lib certificatePath issuerPath crlPath crlTime crlLimit = .ok input)
    (readOcsp : Ocsp.readOcspInput lib certificatePath issuerPath responsePath ocspTime
      expectedNonceBase64 ocspLimit = .ok (some ocspInput)) :
    ocspInput.certificate = input.certificate ∧ ocspInput.issuer = input.issuer := by
  simp only [readCrlInput, bind_ok_iff, parseComplete_ok_iff, pure_ok_iff] at read
  obtain ⟨certificateDer, certificateRead, issuerDer, issuerRead, _, _, certificate,
    certificateParsed, issuer, issuerParsed, _, _, _, _, rfl⟩ := read
  simp only [Ocsp.readOcspInput, bind_ok_iff] at readOcsp
  obtain ⟨_, _, basic, _, readOcsp⟩ := readOcsp
  cases basic with
  | none => simp [pure, Except.pure] at readOcsp
  | some basic =>
      simp only [bind_ok_iff, mapErr_ok_iff, parseComplete_ok_iff, pure_ok_iff,
        Option.some.injEq] at readOcsp
      obtain ⟨certificateDer', certificateRead', issuerDer', issuerRead', certificate',
        certificateParsed', issuer', issuerParsed', _, _, _, _, rfl⟩ := readOcsp
      obtain rfl := readDer_unique certificateRead certificateRead'
      obtain rfl := readDer_unique issuerRead issuerRead'
      rw [certificateParsed] at certificateParsed'
      rw [issuerParsed] at issuerParsed'
      simp only [Option.some.injEq, Prod.mk.injEq, true_and] at certificateParsed' issuerParsed'
      exact ⟨certificateParsed'.symm, issuerParsed'.symm⟩

/-- The issuer check of a list that names the issuer, in the words of OCSP. -/
theorem crl_issuer_state {input : CrlInput} (named : input.crl.issuer = input.issuer.subject) :
    (crlStatus lib input).issuer.state =
      if input.certificate.issuer ≠ input.issuer.subject
          ∨ input.certificate.signatureAlgorithm ≠ input.certificate.tbsSignature then .fail
      else if input.certificate.verifySignature lib input.issuer.publicKey = .ok () then .pass
      else .fail := by
  simp only [crlStatus, observedState, CheckResult.observed, issuerMatches,
    certificateSignatureValid, named, beq_self_eq_true, Bool.and_true, Bool.and_eq_true,
    beq_iff_eq, isOk_eq_true_iff]
  by_cases name : input.certificate.issuer = input.issuer.subject
  · by_cases algorithm : input.certificate.signatureAlgorithm = input.certificate.tbsSignature
    · simp [name, algorithm]
    · simp [algorithm]
  · simp [name]

theorem cryptoState_eq_iff_decided {outcome : Except X509Error Unit} :
    (if outcome = .ok () then .pass else .fail) = Ocsp.cryptoState outcome ↔ Decided outcome := by
  cases outcome with
  | ok => simp [Ocsp.cryptoState, Decided]
  | error error => cases error <;> simp [Ocsp.cryptoState, Decided]

/-- The two rules for a certificate and an issuer, compared. -/
theorem issuer_rules_agree_iff (certificate issuer : X509Certificate) :
    (if certificate.issuer ≠ issuer.subject
        ∨ certificate.signatureAlgorithm ≠ certificate.tbsSignature then .fail
      else if certificate.verifySignature lib issuer.publicKey = .ok () then .pass
      else .fail) = Ocsp.issuerState lib certificate issuer ↔
      certificate.issuer ≠ issuer.subject ∨
      certificate.signatureAlgorithm ≠ certificate.tbsSignature ∨
      Decided (certificate.verifySignature lib issuer.publicKey) := by
  rw [Ocsp.issuerState, ← or_assoc]
  by_cases differs : certificate.issuer ≠ issuer.subject ∨
      certificate.signatureAlgorithm ≠ certificate.tbsSignature
  · rw [if_pos differs, if_pos differs]
    exact iff_of_true rfl (.inl differs)
  · rw [if_neg differs, if_neg differs, cryptoState_eq_iff_decided]
    exact (or_iff_right differs).symm

/-- The two issuer checks agree exactly when names or algorithms settle them, or the
    signature was decided. -/
theorem issuer_checks_agree_iff {crlPath responsePath crlTime ocspTime : String}
    {expectedNonceBase64 : Option String} {policy : Ocsp.OcspPolicy} {crlLimit ocspLimit : Nat}
    {input : CrlInput} {ocspInput : Ocsp.OcspInput} {crlResult : CrlStatusResult}
    {ocspResult : Ocsp.OcspStatusResult}
    (read : readCrlInput lib certificatePath issuerPath crlPath crlTime crlLimit = .ok input)
    (checked : checkCrlStatus lib certificatePath issuerPath crlPath crlTime crlLimit =
      .ok crlResult)
    (named : input.crl.issuer = input.issuer.subject)
    (readOcsp : Ocsp.readOcspInput lib certificatePath issuerPath responsePath ocspTime
      expectedNonceBase64 ocspLimit = .ok (some ocspInput))
    (checkedOcsp : Ocsp.checkOcspStatus lib certificatePath issuerPath responsePath ocspTime
      expectedNonceBase64 policy ocspLimit = .ok ocspResult) :
    SameIssuerCheck lib input.certificate input.issuer crlResult ocspResult ↔
      input.certificate.issuer ≠ input.issuer.subject ∨
      input.certificate.signatureAlgorithm ≠ input.certificate.tbsSignature ∨
      Decided (input.certificate.verifySignature lib input.issuer.publicKey) := by
  obtain ⟨sameCertificate, sameIssuer⟩ := read_same_certificates read readOcsp
  obtain ⟨_, rfl⟩ := (checkCrlStatus_ok_iff read).mp checked
  simp only [Ocsp.checkOcspStatus, readOcsp, bind, Except.bind] at checkedOcsp
  obtain ⟨_, _, _, _, _, _, rfl⟩ := Ocsp.ocspStatus_ok_iff.mp checkedOcsp
  have ocspState (responder signature : CheckState) (single : Option SingleResponse) :
      (Ocsp.statusResult lib ocspInput policy responder signature single).issuer.state =
        Ocsp.issuerState lib input.certificate input.issuer := by
    simp [Ocsp.statusResult, Ocsp.observed, sameCertificate, sameIssuer]
  have same_iff := @issuer_rules_agree_iff lib input.certificate input.issuer
  rw [← crl_issuer_state named] at same_iff
  constructor
  · intro agree
    apply same_iff.mp
    rw [agree.same, ocspState]
  · intro settled
    refine ⟨by rw [same_iff.mpr settled, ocspState], fun name algorithm unsupported => ?_⟩
    rcases settled with other | other | decided
    · exact absurd name other
    · exact absurd algorithm other
    · simp [Decided, unsupported] at decided

open X509.Fixture Ocsp.Fixture in
theorem issuer_checks_agree_good :
    ∃ crlResult ocspResult,
      checkCrlStatus (responseLibrary leafCertificate (response .good)) "leaf.pem" "ca.pem"
        "crl.pem" "2026-06-20T00:00:00Z" 64 = .ok crlResult ∧
      Ocsp.checkOcspStatus (responseLibrary leafCertificate (response .good)) "leaf.pem" "ca.pem"
        "response.der" "2026-06-20T00:00:00Z" none (policy .hardFail) 64 = .ok ocspResult ∧
      SameIssuerCheck (responseLibrary leafCertificate (response .good)) leafCertificate
        caCertificate crlResult ocspResult :=
  ⟨_, _, rfl, rfl, (@issuer_checks_agree_iff _ "leaf.pem" "ca.pem" "crl.pem" "response.der"
    "2026-06-20T00:00:00Z" "2026-06-20T00:00:00Z" none (policy .hardFail) 64 64
    ⟨leafCertificate, caCertificate, crl, now⟩ _ _ _ rfl rfl rfl rfl rfl).mpr
    (.inr (.inr (.inl rfl)))⟩

/-- The leaf under an algorithm the libraries do not verify. -/
def Fixture.mlDsaLeaf : X509Certificate :=
  { X509.Fixture.leafCertificate with
    signatureAlgorithm := X509.Fixture.mlDsa44
    tbsSignature := X509.Fixture.mlDsa44 }

open X509.Fixture Ocsp.Fixture in
/-- An unsupported algorithm is a failure for one checker and open for the other. -/
theorem unsupported_algorithm_issuer_checks :
    ∃ crlResult ocspResult,
      checkCrlStatus (responseLibrary Fixture.mlDsaLeaf (response .good)) "leaf.pem" "ca.pem"
        "crl.pem" "2026-06-20T00:00:00Z" 64 = .ok crlResult ∧
      Ocsp.checkOcspStatus (responseLibrary Fixture.mlDsaLeaf (response .good)) "leaf.pem" "ca.pem"
        "response.der" "2026-06-20T00:00:00Z" none (policy .hardFail) 64 = .ok ocspResult ∧
      crl.issuer = caCertificate.subject ∧
      Fixture.mlDsaLeaf.verifySignature (responseLibrary Fixture.mlDsaLeaf (response .good)) caKey =
        .error .signatureUnsupportedAlgorithm ∧
      crlResult.issuer.state = .fail ∧ ocspResult.issuer.state = .indeterminate :=
  ⟨_, _, rfl, rfl, rfl, rfl, rfl, rfl⟩

end HybridX509.Revocation
