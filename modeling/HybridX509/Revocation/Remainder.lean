import HybridX509.Revocation.Crl
import HybridX509.Revocation.Ocsp
import HybridX509.X509.Mutation
import HybridX509.X509.Related

/-! # Bytes after a certificate

The functions of the crate that parse certificates, as one family of entry points.
All but one of them insist on complete certificates. `verify_related_binding` drops what
remains of its reference certificate, and `verify_related_certificate_conformance`, which
drops it twice itself, is saved by the profile it reads of the same files.
-/

namespace HybridX509.Revocation

open Lib X509 Ocsp

/-- A call that parses certificates. -/
inductive EntryPoint where
  | inspectCertificate (certificate : String) (limit : Nat)
  | verifyRelatedBinding (reference related : String) (limit : Nat)
  | verifyRelatedCertificateConformance (reference related : String) (limit : Nat)
  | checkCrlStatus (certificate issuer crl validationTime : String) (limit : Nat)
  | checkCertificateValidity (certificate validationTime : String) (limit : Nat)
  | checkOcspStatus (certificate issuer response validationTime : String)
      (expectedNonce : Option String) (policy : OcspPolicy) (limit : Nat)
  | corruptOuterSignature (der : List UInt8)

namespace EntryPoint

variable (lib : Library)

/-- The call returns an error. -/
def Errs : EntryPoint → Prop
  | inspectCertificate certificate limit =>
      ∀ result, X509.inspectCertificate lib certificate limit ≠ .ok result
  | verifyRelatedBinding reference related limit =>
      ∀ result, X509.verifyRelatedBinding lib reference related limit ≠ .ok result
  | verifyRelatedCertificateConformance reference related limit =>
      ∀ result, X509.verifyRelatedCertificateConformance lib reference related limit ≠ .ok result
  | checkCrlStatus certificate issuer crl validationTime limit =>
      ∀ result, Revocation.checkCrlStatus lib certificate issuer crl validationTime limit ≠
        .ok result
  | checkCertificateValidity certificate validationTime limit =>
      ∀ result, X509.checkCertificateValidity lib certificate validationTime limit ≠ .ok result
  | checkOcspStatus certificate issuer response validationTime expectedNonce policy limit =>
      ∀ result, Ocsp.checkOcspStatus lib certificate issuer response validationTime expectedNonce
        policy limit ≠ .ok result
  | corruptOuterSignature der => ∀ result, X509.corruptOuterSignature lib der ≠ .ok result

/-- One of the certificates that the call parses has the given contents. A response that
    is not successful ends the OCSP check before it parses a certificate. -/
def Parses (contents : List UInt8) : EntryPoint → Prop
  | inspectCertificate certificate limit | checkCertificateValidity certificate _ limit
  | verifyRelatedBinding certificate _ limit =>
      readDer lib certificate .certificate limit = .ok contents
  | verifyRelatedCertificateConformance certificate other limit
  | checkCrlStatus certificate other _ _ limit =>
      readDer lib certificate .certificate limit = .ok contents ∨
        readDer lib other .certificate limit = .ok contents
  | checkOcspStatus certificate issuer response _ _ _ limit =>
      (∃ der basic, readBounded lib response limit = .ok der ∧
        parseOcspDer lib der response = .ok (some basic)) ∧
      (readDer lib certificate .certificate limit = .ok contents ∨
        readDer lib issuer .certificate limit = .ok contents)
  | corruptOuterSignature der => der = contents

/-- The binding of a reference certificate that can be read to its digest. -/
def Lenient (certificate : X509Certificate) : EntryPoint → Prop
  | verifyRelatedBinding _ related limit =>
      (∃ relatedDer, readDer lib related .certificate limit = .ok relatedDer) ∧
      (certificate.extensions.map (·.oid)).Nodup ∧
      ∃ extension ∈ certificate.extensions, extension.oid = RELATED_CERTIFICATE_OID ∧
        ∃ fields object oid embedded, Walked lib extension.value fields object oid embedded ∧
          oid ∈ digestOids
  | _ => False

end EntryPoint

/-! ## Complete certificates -/

section Complete

variable {lib : Library} {path : String} {limit : Nat}

/-- A file with one certificate and nothing after it. -/
def Complete (lib : Library) (path : String) (limit : Nat) : Prop :=
  ∃ der certificate, readDer lib path .certificate limit = .ok der ∧
    lib.certificateFromDer der = some ([], certificate)

theorem complete_of_inspectCertificate {profile : CertificateProfile}
    (inspected : inspectCertificate lib path limit = .ok profile) : Complete lib path limit := by
  simp only [inspectCertificate, bind_ok_iff, parseComplete_ok_iff] at inspected
  obtain ⟨der, read, certificate, parsed, _⟩ := inspected
  exact ⟨der, certificate, read, parsed⟩

theorem complete_of_checkCertificateValidity {validationTime : String} {check : CheckResult}
    (checked : checkCertificateValidity lib path validationTime limit = .ok check) :
    Complete lib path limit := by
  simp only [checkCertificateValidity, bind_ok_iff, parseComplete_ok_iff] at checked
  obtain ⟨der, read, certificate, parsed, _⟩ := checked
  exact ⟨der, certificate, read, parsed⟩

theorem complete_of_conformance {reference related : String} {result : RelatedConformanceResult}
    (conforms : verifyRelatedCertificateConformance lib reference related limit = .ok result) :
    Complete lib reference limit ∧ Complete lib related limit := by
  simp only [verifyRelatedCertificateConformance, bind_ok_iff, Prod.exists] at conforms
  obtain ⟨_, _, _, _, _, _, _, _, _, _, _, _, _, inspected, _, inspected', _⟩ := conforms
  exact ⟨complete_of_inspectCertificate inspected, complete_of_inspectCertificate inspected'⟩

theorem complete_of_checkCrlStatus {certificate issuer crl validationTime : String}
    {result : CrlStatusResult}
    (checked : checkCrlStatus lib certificate issuer crl validationTime limit = .ok result) :
    Complete lib certificate limit ∧ Complete lib issuer limit := by
  simp only [checkCrlStatus, readCrlInput, bind_ok_iff, parseComplete_ok_iff] at checked
  obtain ⟨_, ⟨der, read, issuerDer, issuerRead, _, _, parsedCertificate, parsed, parsedIssuer,
    issuerParsed, _⟩, _⟩ := checked
  exact ⟨⟨der, parsedCertificate, read, parsed⟩, ⟨issuerDer, parsedIssuer, issuerRead,
    issuerParsed⟩⟩

theorem complete_of_checkOcspStatus {certificate issuer response validationTime : String}
    {expectedNonce : Option String} {policy : OcspPolicy} {result : OcspStatusResult}
    {der : List UInt8} {basic : BasicOcspResponse} (read : readBounded lib response limit = .ok der)
    (parsed : parseOcspDer lib der response = .ok (some basic))
    (checked : checkOcspStatus lib certificate issuer response validationTime expectedNonce policy
      limit = .ok result) :
    Complete lib certificate limit ∧ Complete lib issuer limit := by
  simp only [checkOcspStatus, readOcspInput, read, parsed, ok_bind, bind_ok_iff, mapErr_ok_iff,
    parseComplete_ok_iff] at checked
  obtain ⟨_, ⟨certificateDer, certificateRead, issuerDer, issuerRead, parsedCertificate,
    certificateParsed, parsedIssuer, issuerParsed, _⟩, _⟩ := checked
  exact ⟨⟨certificateDer, parsedCertificate, certificateRead, certificateParsed⟩,
    ⟨issuerDer, parsedIssuer, issuerRead, issuerParsed⟩⟩

end Complete

/-! ## Trailing bytes -/

section Trailing

variable {lib : Library} {contents rest : List UInt8} {certificate : X509Certificate}
  (parsed : lib.certificateFromDer contents = some (rest, certificate)) (nonempty : rest ≠ [])

include parsed nonempty

theorem not_complete {path : String} {limit : Nat}
    (read : readDer lib path .certificate limit = .ok contents) : ¬ Complete lib path limit := by
  intro ⟨der, other, read', complete⟩
  obtain rfl : contents = der := ok_unique read read'
  exact nonempty (Prod.mk.inj (Option.some.inj (parsed.symm.trans complete))).1

/-- Two certificates of which one has a remainder are not both complete. -/
theorem not_both_complete {path other : String} {limit : Nat}
    (read : readDer lib path .certificate limit = .ok contents ∨
      readDer lib other .certificate limit = .ok contents) :
    ¬ (Complete lib path limit ∧ Complete lib other limit) := by
  intro ⟨complete, otherComplete⟩
  cases read with
  | inl read => exact not_complete parsed nonempty read complete
  | inr read => exact not_complete parsed nonempty read otherComplete

omit nonempty in
/-- A binding with a remainder is an error only where it would be one without. -/
theorem verifyRelatedBinding_errs_iff {reference related : String} {limit : Nat}
    (read : readDer lib reference .certificate limit = .ok contents) :
    (EntryPoint.verifyRelatedBinding reference related limit).Errs lib ↔
      ¬ (EntryPoint.verifyRelatedBinding reference related limit).Lenient lib certificate := by
  simp only [EntryPoint.Errs, EntryPoint.Lenient, ne_eq, ← not_exists]
  refine not_congr ?_
  constructor
  · intro ⟨result, returned⟩
    obtain ⟨relatedDer, other, extension, fields, object, oid, embedded, calculated, bindingRead,
      walked, hashed, _⟩ := verifyRelatedBinding_ok_iff.mp returned
    obtain ⟨der, remaining, read', parsed'⟩ := bindingRead.reference
    obtain rfl : contents = der := ok_unique read read'
    obtain ⟨_, rfl⟩ := Prod.mk.inj (Option.some.inj (parsed.symm.trans parsed'))
    exact ⟨⟨relatedDer, bindingRead.related⟩, bindingRead.distinct, extension, bindingRead.found,
      bindingRead.identifier, fields, object, oid, embedded, walked,
      digest_returns_iff.mp ⟨calculated, hashed⟩⟩
  · intro ⟨⟨relatedDer, relatedRead⟩, distinct, extension, found, identifier, fields, object, oid,
      embedded, walked, known⟩
    obtain ⟨calculated, hashed⟩ := digest_returns_iff.mpr known
    exact ⟨_, verifyRelatedBinding_ok_iff.mpr ⟨relatedDer, certificate, extension, fields, object,
      oid, embedded, calculated, ⟨⟨contents, rest, read, parsed⟩, relatedRead, distinct, found,
        identifier⟩, walked, hashed, rfl⟩⟩

end Trailing

/-- Bytes after a certificate are an error of every entry point, except that
    `verify_related_binding` does not look at them: there the call still returns wherever
    the binding can be read. -/
theorem entryPoint_errs_iff {lib : Library}
    (remainder : ∀ der certificate trailing,
      lib.certificateFromDer der = some ([], certificate) →
      lib.certificateFromDer (der ++ trailing) = some (trailing, certificate))
    {der trailing : List UInt8} {certificate : X509Certificate}
    (complete : lib.certificateFromDer der = some ([], certificate)) (nonempty : trailing ≠ [])
    (entry : EntryPoint) (parses : entry.Parses lib (der ++ trailing)) :
    entry.Errs lib ↔ ¬ entry.Lenient lib certificate := by
  have parsed := remainder der certificate trailing complete
  cases entry with
  | inspectCertificate path limit =>
      refine iff_of_true (fun result inspected => ?_) (by simp [EntryPoint.Lenient])
      exact not_complete parsed nonempty parses (complete_of_inspectCertificate inspected)
  | verifyRelatedBinding reference related limit =>
      exact verifyRelatedBinding_errs_iff parsed parses
  | verifyRelatedCertificateConformance reference related limit =>
      refine iff_of_true (fun result conforms => ?_) (by simp [EntryPoint.Lenient])
      exact not_both_complete parsed nonempty parses (complete_of_conformance conforms)
  | checkCrlStatus path issuer crl validationTime limit =>
      refine iff_of_true (fun result checked => ?_) (by simp [EntryPoint.Lenient])
      exact not_both_complete parsed nonempty parses (complete_of_checkCrlStatus checked)
  | checkCertificateValidity path validationTime limit =>
      refine iff_of_true (fun result checked => ?_) (by simp [EntryPoint.Lenient])
      exact not_complete parsed nonempty parses (complete_of_checkCertificateValidity checked)
  | checkOcspStatus path issuer response validationTime expectedNonce policy limit =>
      obtain ⟨⟨responseDer, basic, read, responseParsed⟩, certificates⟩ := parses
      refine iff_of_true (fun result checked => ?_) (by simp [EntryPoint.Lenient])
      exact not_both_complete parsed nonempty certificates
        (complete_of_checkOcspStatus read responseParsed checked)
  | corruptOuterSignature contents =>
      obtain rfl : contents = der ++ trailing := parses
      refine iff_of_true (fun result mutated => ?_) (by simp [EntryPoint.Lenient])
      simp only [corruptOuterSignature, bind_ok_iff, parseComplete_ok_iff] at mutated
      obtain ⟨other, whole, _⟩ := mutated
      exact nonempty (Prod.mk.inj (Option.some.inj (parsed.symm.trans whole))).1

namespace Fixture

open X509.Fixture

/-- Parses one byte as a certificate, and leaves the rest. The leaf file has a zero byte
    after its certificate, which has a well-formed RelatedCertificate extension. -/
def trailingLibrary : Library :=
  { relatedLibrary (.octetString [2]) with
    parseX509Pem := fun bytes =>
      ([([1], ⟨"CERTIFICATE", [1, 0]⟩), ([2], ⟨"CERTIFICATE", [2]⟩)].lookup bytes).map ([], ·)
    certificateFromDer := fun
      | 1 :: rest => some (rest, { leafCertificate with extensions := [relatedExtension] })
      | 2 :: rest => some (rest, caCertificate)
      | _ => none }

theorem remainder_trailingLibrary (der : List UInt8) (certificate : X509Certificate)
    (trailing : List UInt8)
    (complete : trailingLibrary.certificateFromDer der = some ([], certificate)) :
    trailingLibrary.certificateFromDer (der ++ trailing) = some (trailing, certificate) := by
  simp only [trailingLibrary] at complete ⊢
  split at complete
  · obtain ⟨rfl, rfl⟩ := Prod.mk.inj (Option.some.inj complete)
    rfl
  · obtain ⟨rfl, rfl⟩ := Prod.mk.inj (Option.some.inj complete)
    rfl
  · cases complete

end Fixture

theorem entryPoint_errs_iff_leaf :
    (EntryPoint.inspectCertificate "leaf.pem" 64).Errs Fixture.trailingLibrary := by
  have read : readDer Fixture.trailingLibrary "leaf.pem" .certificate 64 = .ok ([1] ++ [0]) := by
    decide +kernel
  have complete : Fixture.trailingLibrary.certificateFromDer [1] =
      some ([], { X509.Fixture.leafCertificate with
        extensions := [X509.Fixture.relatedExtension] }) := rfl
  exact (entryPoint_errs_iff Fixture.remainder_trailingLibrary complete (by decide)
    (.inspectCertificate "leaf.pem" 64) read).mpr (by simp [EntryPoint.Lenient])

/-- A reference certificate with a zero byte after it is bound to its related one. -/
theorem verifyRelatedBinding_trailing :
    readDer Fixture.trailingLibrary "leaf.pem" .certificate 64 = .ok ([1] ++ [0]) ∧
    (∃ certificate, Fixture.trailingLibrary.certificateFromDer [1] = some ([], certificate)) ∧
    ¬ (EntryPoint.verifyRelatedBinding "leaf.pem" "ca.pem" 64).Errs Fixture.trailingLibrary := by
  refine ⟨by decide +kernel, ⟨_, rfl⟩, fun errs => ?_⟩
  have returns : ∃ result, verifyRelatedBinding Fixture.trailingLibrary "leaf.pem" "ca.pem" 64 =
      .ok result := by
    decide +kernel
  obtain ⟨result, returned⟩ := returns
  exact errs result returned

end HybridX509.Revocation
