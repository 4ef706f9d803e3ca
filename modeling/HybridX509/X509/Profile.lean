import HybridX509.Model
import HybridX509.X509.Pem

/-! # Certificate profiles and validity

`inspect_certificate` and `check_certificate_validity` of `pem.rs`: what a certificate
file says about its algorithms and its design, and whether it is valid at a time.
-/

namespace HybridX509.X509

open Lib

def isMlDsaOid (oid : String) : Bool :=
  ["2.16.840.1.101.3.4.3.17", "2.16.840.1.101.3.4.3.18", "2.16.840.1.101.3.4.3.19"].contains oid

def isCompositeMldsaOid (oid : String) : Bool :=
  ["1.3.6.1.5.5.7.6.37", "1.3.6.1.5.5.7.6.38", "1.3.6.1.5.5.7.6.39", "1.3.6.1.5.5.7.6.40",
    "1.3.6.1.5.5.7.6.41", "1.3.6.1.5.5.7.6.42", "1.3.6.1.5.5.7.6.43", "1.3.6.1.5.5.7.6.44",
    "1.3.6.1.5.5.7.6.45", "1.3.6.1.5.5.7.6.46", "1.3.6.1.5.5.7.6.47", "1.3.6.1.5.5.7.6.48",
    "1.3.6.1.5.5.7.6.49", "1.3.6.1.5.5.7.6.50", "1.3.6.1.5.5.7.6.51", "1.3.6.1.5.5.7.6.52",
    "1.3.6.1.5.5.7.6.53", "1.3.6.1.5.5.7.6.54"].contains oid

def algorithmSecurity (oid : String) : AlgorithmSecurity :=
  if isMlDsaOid oid then .postQuantum
  else if isCompositeMldsaOid oid then .hybrid
  else .classical

def bindingDesign (signatureOid : String) (extensions : List String) : BindingDesign :=
  if extensions.any (· == "2.5.29.74") then .catalyst
  else if extensions.any (· == "2.16.840.1.114027.80.6.1") then .chameleon
  else if extensions.any (· == "1.3.6.1.5.5.7.1.36") then .relatedCertificate
  else if isCompositeMldsaOid signatureOid then .atomicComposite
  else .none

structure CertificateProfile where
  subjectPublicKeyScheme : AlgorithmSecurity
  certificateSignatureScheme : AlgorithmSecurity
  bindingDesign : BindingDesign
  signatureAlgorithmOid : String
  subjectPublicKeyAlgorithmOid : String
  extensionOids : List String
  deriving Repr, DecidableEq

def inspectCertificate (lib : Library) (path : String) (limit : Nat) :
    Except PemError CertificateProfile := do
  let der ← readDer lib path .certificate limit
  let certificate ← parseComplete lib.certificateFromDer (.malformedDer path) der
  let signatureAlgorithmOid := certificate.signatureAlgorithm.algorithm
  let subjectPublicKeyAlgorithmOid := certificate.publicKey.algorithm.algorithm
  let extensionOids := certificate.extensions.map (·.oid)
  return {
    subjectPublicKeyScheme := algorithmSecurity subjectPublicKeyAlgorithmOid
    certificateSignatureScheme := algorithmSecurity signatureAlgorithmOid
    bindingDesign := bindingDesign signatureAlgorithmOid extensionOids
    signatureAlgorithmOid := signatureAlgorithmOid
    subjectPublicKeyAlgorithmOid := subjectPublicKeyAlgorithmOid
    extensionOids := extensionOids }

def checkCertificateValidity (lib : Library) (certificatePath validationTime : String)
    (limit : Nat) : Except PemError CheckResult := do
  let der ← readDer lib certificatePath .certificate limit
  let certificate ←
    parseComplete lib.certificateFromDer (.malformedDer certificatePath) der
  let timestamp ← orFail (lib.parseFromRfc3339 validationTime)
    (.invalidValidationTime validationTime)
  failIf (lib.asn1TimeRepresents timestamp = false) (.invalidValidationTime validationTime)
  return .observed (if certificate.validity.isValidAt timestamp then .pass else .fail)

/-- A certificate whose validity was decided was read, at a time that was read. -/
theorem read_of_checkCertificateValidity {lib : Library} {path validationTime : String}
    {limit : Nat} {check : CheckResult}
    (checked : checkCertificateValidity lib path validationTime limit = .ok check) :
    (∃ der, readDer lib path .certificate limit = .ok der) ∧
      (lib.parseFromRfc3339 validationTime).isSome := by
  simp only [checkCertificateValidity, bind_ok_iff, orFail_ok_iff] at checked
  obtain ⟨der, read, _, _, timestamp, parsed, _⟩ := checked
  exact ⟨⟨der, read⟩, by rw [parsed]; rfl⟩

/-- The validity of a certificate is decided one way or the other. -/
theorem decided_of_checkCertificateValidity {lib : Library} {path validationTime : String}
    {limit : Nat} {check : CheckResult}
    (checked : checkCertificateValidity lib path validationTime limit = .ok check) :
    check.state = .pass ∨ check.state = .fail := by
  simp only [checkCertificateValidity, bind_ok_iff, pure_ok_iff] at checked
  obtain ⟨_, _, _, _, _, _, _, _, rfl⟩ := checked
  unfold CheckResult.observed
  split
  · exact .inl rfl
  · exact .inr rfl

end HybridX509.X509
