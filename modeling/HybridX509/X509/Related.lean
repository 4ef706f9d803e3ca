import HybridX509.Lib.Registry
import HybridX509.Lib.Text
import HybridX509.X509.Profile

/-! # Related certificates

`verify_related_binding` and `verify_related_certificate_conformance` of `pem.rs`. The
value of the RelatedCertificate extension is walked with the accessors of `der_parser`;
what the walk accepts is compared with the grammar of the extension.
-/

namespace HybridX509.X509

open Lib

structure RelatedBindingResult where
  check : CheckResult
  digestAlgorithmOid : String
  embeddedDigest : String
  calculatedDigest : String
  deriving Repr, DecidableEq

structure Rfc9763ProfileChecks where
  binding : RelatedBindingResult
  extensionInEndEntity : CheckResult
  relatedCertificateIsEndEntity : CheckResult
  keyUsageSubset : CheckResult
  extendedKeyUsageSubset : CheckResult
  deriving Repr, DecidableEq

structure HybridApplicationPolicyChecks where
  referenceSubjectPublicKeyIsClassical : CheckResult
  relatedSubjectPublicKeyIsPostQuantum : CheckResult
  dnsIdentityOverlap : CheckResult
  deriving Repr, DecidableEq

structure RelatedConformanceResult where
  rfc9763 : Rfc9763ProfileChecks
  hybridApplicationPolicy : HybridApplicationPolicyChecks
  deriving Repr, DecidableEq

def RELATED_CERTIFICATE_OID : String := "1.3.6.1.5.5.7.1.36"

section Binding

variable (lib : Library)

def digest (oid : String) (bytes : List UInt8) : Except PemError (List UInt8) :=
  if oid = "2.16.840.1.101.3.4.2.1" then .ok (lib.sha256 bytes)
  else if oid = "2.16.840.1.101.3.4.2.2" then .ok (lib.sha384 bytes)
  else if oid = "2.16.840.1.101.3.4.2.3" then .ok (lib.sha512 bytes)
  else .error (.unsupportedDigestAlgorithm oid)

/-- The walk over the value of the extension: the digest algorithm and the digest. -/
def embeddedDigest (value : List UInt8) (malformed : PemError) :
    Except PemError (String × List UInt8) := do
  let (remaining, sequence) ← orFail (lib.parseDerSequence value) malformed
  let fields ← orFail sequence.asSequence malformed
  failIf (remaining ≠ []) malformed
  match fields with
  | [algorithm, digestField] => do
      let algorithmFields ← orFail algorithm.asSequence malformed
      let first ← orFail algorithmFields.head? malformed
      let digestAlgorithmOid ← orFail (lib.asOidVal first) malformed
      let embedded ← orFail (lib.asSlice digestField) malformed
      return (digestAlgorithmOid, embedded)
  | _ => .error malformed

def verifyRelatedBinding (certificateWithExtension relatedCertificate : String) (limit : Nat) :
    Except PemError RelatedBindingResult := do
  let referenceDer ← readDer lib certificateWithExtension .certificate limit
  let relatedDer ← readDer lib relatedCertificate .certificate limit
  let (_, certificate) ← orFail (lib.certificateFromDer referenceDer)
    (.malformedDer certificateWithExtension)
  mapErr (fun _ => .duplicateExtensions certificateWithExtension)
    (extensionsMap certificate.extensions)
  let extension ← orFail (certificate.extensions.find? (·.oid == RELATED_CERTIFICATE_OID))
    (.missingRelatedCertificate certificateWithExtension)
  let (digestAlgorithmOid, embedded) ← embeddedDigest lib extension.value
    (.malformedRelatedCertificate certificateWithExtension)
  let calculated ← digest lib digestAlgorithmOid relatedDer
  return {
    check := .observed (if embedded = calculated then .pass else .fail)
    digestAlgorithmOid := digestAlgorithmOid
    embeddedDigest := hexLower embedded
    calculatedDigest := hexLower calculated }

end Binding

/-! ## Conformance -/

def observedBool (value : Bool) : CheckResult := .observed (if value then .pass else .fail)

def hybridApplicationPolicyChecks (referenceSubjectPublicKeyScheme
    relatedSubjectPublicKeyScheme : AlgorithmSecurity) (dnsIdentityOverlap : Bool) :
    HybridApplicationPolicyChecks where
  referenceSubjectPublicKeyIsClassical :=
    observedBool (referenceSubjectPublicKeyScheme == .classical)
  relatedSubjectPublicKeyIsPostQuantum :=
    observedBool (relatedSubjectPublicKeyScheme == .postQuantum)
  dnsIdentityOverlap := observedBool dnsIdentityOverlap

/-- An extension of a certificate, with the error of `pem.rs` for one it cannot use. -/
def readExtension {α : Type} (parsed : Except X509Error α) (path : String) : Except PemError α :=
  mapErr (fun _ => .invalidCertificateExtensions path) parsed

def isEndEntity (certificate : X509Certificate) (path : String) : Except PemError Bool := do
  let constraints ← readExtension certificate.basicConstraints path
  return !constraints.any (·.ca)

/-- Whether an extension of the reference certificate, where it has one, is covered by
    that of the related certificate. -/
def isSubset {α : Type} (extension : X509Certificate → Except X509Error (Option α))
    (covers : α → α → Bool) (reference : X509Certificate) (referencePath : String)
    (related : X509Certificate) (relatedPath : String) : Except PemError Bool := do
  match ← readExtension (extension reference) referencePath with
  | none => return true
  | some reference =>
      match ← readExtension (extension related) relatedPath with
      | none => return false
      | some related => return covers reference related

def keyUsageIsSubset : X509Certificate → String → X509Certificate → String → Except PemError Bool :=
  isSubset (·.keyUsage) fun reference related => reference.flags &&& ~~~related.flags == 0

def extendedKeyUsageIsSubset :
    X509Certificate → String → X509Certificate → String → Except PemError Bool :=
  isSubset (·.extendedKeyUsage) fun reference related =>
    related.any || ((!reference.any || related.any)
      && (!reference.serverAuth || related.serverAuth)
      && (!reference.clientAuth || related.clientAuth)
      && (!reference.codeSigning || related.codeSigning)
      && (!reference.emailProtection || related.emailProtection)
      && (!reference.timeStamping || related.timeStamping)
      && (!reference.ocspSigning || related.ocspSigning)
      && reference.other.all fun id => related.other.any (· == id))

def dnsNames (certificate : X509Certificate) (path : String) : Except PemError (List String) := do
  match ← readExtension certificate.subjectAlternativeName path with
  | none => return []
  | some names => return names.filterMap fun
      | .dnsName name => some name
      | .other => none

def dnsNamesOverlap (reference : X509Certificate) (referencePath : String)
    (related : X509Certificate) (relatedPath : String) : Except PemError Bool := do
  let reference ← dnsNames reference referencePath
  let related ← dnsNames related relatedPath
  return !reference.isEmpty && !related.isEmpty
    && reference.any fun name => related.any (· == name)

def verifyRelatedCertificateConformance (lib : Library)
    (certificateWithExtension relatedCertificate : String) (limit : Nat) :
    Except PemError RelatedConformanceResult := do
  let binding ← verifyRelatedBinding lib certificateWithExtension relatedCertificate limit
  let referenceDer ← readDer lib certificateWithExtension .certificate limit
  let relatedDer ← readDer lib relatedCertificate .certificate limit
  let (_, reference) ← orFail (lib.certificateFromDer referenceDer)
    (.malformedDer certificateWithExtension)
  let (_, related) ← orFail (lib.certificateFromDer relatedDer) (.malformedDer relatedCertificate)
  let referenceProfile ← inspectCertificate lib certificateWithExtension limit
  let relatedProfile ← inspectCertificate lib relatedCertificate limit
  let extensionInEndEntity ← isEndEntity reference certificateWithExtension
  let relatedIsEndEntity ← isEndEntity related relatedCertificate
  let keyUsageSubset ←
    keyUsageIsSubset reference certificateWithExtension related relatedCertificate
  let extendedKeyUsageSubset ←
    extendedKeyUsageIsSubset reference certificateWithExtension related relatedCertificate
  let overlap ← dnsNamesOverlap reference certificateWithExtension related relatedCertificate
  return {
    rfc9763 := {
      binding := binding
      extensionInEndEntity := observedBool extensionInEndEntity
      relatedCertificateIsEndEntity := observedBool relatedIsEndEntity
      keyUsageSubset := observedBool keyUsageSubset
      extendedKeyUsageSubset := observedBool extendedKeyUsageSubset }
    hybridApplicationPolicy := hybridApplicationPolicyChecks
      referenceProfile.subjectPublicKeyScheme relatedProfile.subjectPublicKeyScheme overlap }

/-! ## What the walk accepts -/

/-- The documented behaviour of `as_slice` and `as_oid_val` on the objects of the grammar. -/
structure DerAccessors (lib : Library) : Prop where
  octetString : ∀ content, lib.asSlice (.octetString content) = some content
  oid : ∀ id, lib.asOidVal (.oid id) = some id

/-- The objects the walk looks at: the fields of the algorithm, and the object that is
    read as the digest. -/
structure Walked (lib : Library) (value : List UInt8) (fields : List DerObject)
    (object : DerObject) (oid : String) (embedded : List UInt8) : Prop where
  parsed : lib.parseDerSequence value = some ([], .sequence [.sequence fields, object])
  algorithm : ∃ first, fields.head? = some first ∧ lib.asOidVal first = some oid
  slice : lib.asSlice object = some embedded

theorem asSequence_eq_some_iff {object : DerObject} {fields : List DerObject} :
    object.asSequence = some fields ↔ object = .sequence fields := by
  cases object <;> simp [DerObject.asSequence]

theorem embeddedDigest_ok_iff {lib : Library} {value : List UInt8} {malformed : PemError}
    {oid : String} {embedded : List UInt8} :
    embeddedDigest lib value malformed = .ok (oid, embedded) ↔
      ∃ fields object, Walked lib value fields object oid embedded := by
  simp only [embeddedDigest, bind_ok_iff, orFail_ok_iff, exists_unit_iff, failIf_ok_iff, not_not,
    Prod.exists, asSequence_eq_some_iff]
  constructor
  · rintro ⟨_, _, parsed, fields, rfl, rfl, walked⟩
    obtain ⟨algorithm, object, rfl⟩ : ∃ algorithm object, fields = [algorithm, object] := by
      rcases fields with _ | ⟨algorithm, _ | ⟨object, _ | _⟩⟩
      · cases walked
      · cases walked
      · exact ⟨algorithm, object, rfl⟩
      · cases walked
    simp only [bind_ok_iff, orFail_ok_iff, pure_ok_iff, asSequence_eq_some_iff,
      Prod.mk.injEq] at walked
    obtain ⟨inner, rfl, first, head, id, read, content, slice, rfl, rfl⟩ := walked
    exact ⟨inner, object, parsed, ⟨first, head, read⟩, slice⟩
  · rintro ⟨fields, object, parsed, ⟨first, head, read⟩, slice⟩
    refine ⟨[], _, parsed, _, rfl, rfl, ?_⟩
    simp only [bind_ok_iff, orFail_ok_iff, pure_ok_iff, asSequence_eq_some_iff, Prod.mk.injEq]
    exact ⟨fields, rfl, first, head, oid, read, embedded, slice, rfl, rfl⟩

/-- A reference certificate whose extension was walked, beside a related certificate. -/
structure BindingRead (lib : Library) (reference related : String) (limit : Nat)
    (relatedDer : List UInt8) (certificate : X509Certificate) (extension : X509Extension) :
    Prop where
  reference : ∃ der remaining, readDer lib reference .certificate limit = .ok der ∧
    lib.certificateFromDer der = some (remaining, certificate)
  related : readDer lib related .certificate limit = .ok relatedDer
  distinct : (certificate.extensions.map (·.oid)).Nodup
  found : extension ∈ certificate.extensions
  identifier : extension.oid = RELATED_CERTIFICATE_OID

/-- The result of a binding whose extension was walked. -/
def bindingResult (oid : String) (embedded calculated : List UInt8) : RelatedBindingResult where
  check := .observed (if embedded = calculated then .pass else .fail)
  digestAlgorithmOid := oid
  embeddedDigest := hexLower embedded
  calculatedDigest := hexLower calculated

section Acceptance

variable {lib : Library} {reference related : String} {limit : Nat}

theorem verifyRelatedBinding_ok_iff {result : RelatedBindingResult} :
    verifyRelatedBinding lib reference related limit = .ok result ↔
      ∃ relatedDer certificate extension fields object oid embedded calculated,
        BindingRead lib reference related limit relatedDer certificate extension ∧
        Walked lib extension.value fields object oid embedded ∧
        digest lib oid relatedDer = .ok calculated ∧
        bindingResult oid embedded calculated = result := by
  simp only [verifyRelatedBinding, bind_ok_iff, orFail_ok_iff, exists_unit_iff, mapErr_ok_iff,
    extensionsMap_ok_iff, pure_ok_iff, Prod.exists, embeddedDigest_ok_iff]
  constructor
  · rintro ⟨der, read, relatedDer, relatedRead, remaining, certificate, parsed, distinct, extension,
      found, oid, embedded, ⟨fields, object, walked⟩, calculated, hashed, same⟩
    obtain ⟨member, identifier⟩ := (find?_key_iff distinct).mp found
    exact ⟨relatedDer, certificate, extension, fields, object, oid, embedded, calculated,
      ⟨⟨der, remaining, read, parsed⟩, relatedRead, distinct, member, identifier⟩, walked, hashed,
      same⟩
  · rintro ⟨relatedDer, certificate, extension, fields, object, oid, embedded, calculated,
      ⟨⟨der, remaining, read, parsed⟩, relatedRead, distinct, member, identifier⟩, walked, hashed,
      same⟩
    exact ⟨der, read, relatedDer, relatedRead, remaining, certificate, parsed, distinct, extension,
      (find?_key_iff distinct).mpr ⟨member, identifier⟩, oid, embedded, ⟨fields, object, walked⟩,
      calculated, hashed, same⟩

theorem digest_ok_iff {oid : String} {bytes calculated : List UInt8} :
    digest lib oid bytes = .ok calculated ↔
      (oid = "2.16.840.1.101.3.4.2.1" ∧ calculated = lib.sha256 bytes) ∨
      (oid = "2.16.840.1.101.3.4.2.2" ∧ calculated = lib.sha384 bytes) ∨
      (oid = "2.16.840.1.101.3.4.2.3" ∧ calculated = lib.sha512 bytes) := by
  unfold digest
  split_ifs <;> simp_all [eq_comm]

end Acceptance

/-! ## The grammar of the extension -/

/-- The value is a SEQUENCE of an algorithm identifier and an OCTET STRING. -/
def IsRelatedCertificate (lib : Library) (value : List UInt8) (oid : String)
    (content : List UInt8) : Prop :=
  ∃ parameters : List DerObject, parameters.length ≤ 1 ∧
    lib.parseDerSequence value =
      some ([], .sequence [.sequence (.oid oid :: parameters), .octetString content])

/-- A returned result comes from a value of the grammar, and passes exactly when the
    digest is that of the related certificate. -/
def FollowsGrammar (lib : Library) (reference related : String) (limit : Nat) : Prop :=
  ∀ result, verifyRelatedBinding lib reference related limit = .ok result →
    ∃ der remaining certificate extension relatedDer oid content calculated,
      readDer lib reference .certificate limit = .ok der ∧
      lib.certificateFromDer der = some (remaining, certificate) ∧
      certificate.extensions.filter (·.oid == RELATED_CERTIFICATE_OID) = [extension] ∧
      IsRelatedCertificate lib extension.value oid content ∧
      readDer lib related .certificate limit = .ok relatedDer ∧
      digest lib oid relatedDer = .ok calculated ∧
      (result.check.state = .pass ↔ content = calculated)

/-- A value that is walked although it is not of the grammar: the algorithm has two or
    more parameters or begins with another object, or the digest is not an OCTET STRING. -/
def Irregular (fields : List DerObject) (object : DerObject) (oid : String) : Prop :=
  2 < fields.length ∨ fields.head? ≠ some (.oid oid) ∨
    ∀ content, object ≠ .octetString content

/-- The digest algorithms of `digest`. -/
def digestOids : List String :=
  ["2.16.840.1.101.3.4.2.1", "2.16.840.1.101.3.4.2.2", "2.16.840.1.101.3.4.2.3"]

theorem digest_returns_iff {lib : Library} {oid : String} {bytes : List UInt8} :
    (∃ calculated, digest lib oid bytes = .ok calculated) ↔ oid ∈ digestOids := by
  simp only [digest_ok_iff, digestOids, List.mem_cons, List.not_mem_nil, or_false]
  constructor
  · rintro ⟨_, ⟨rfl, _⟩ | ⟨rfl, _⟩ | ⟨rfl, _⟩⟩ <;> simp
  · rintro (rfl | rfl | rfl) <;> simp

/-- The value of a walked extension is one that `parse_der_sequence` returned once. -/
theorem Walked.shape {lib : Library} {value : List UInt8} {fields : List DerObject}
    {object : DerObject} {oid oid' : String} {embedded content : List UInt8}
    (accessors : DerAccessors lib) (walked : Walked lib value fields object oid embedded)
    (related : IsRelatedCertificate lib value oid' content) : ¬ Irregular fields object oid := by
  obtain ⟨parameters, few, parsed⟩ := related
  have same := (Prod.mk.inj (Option.some.inj (walked.parsed.symm.trans parsed))).2
  simp only [DerObject.sequence.injEq, List.cons.injEq, and_true] at same
  obtain ⟨rfl, rfl⟩ := same
  obtain ⟨first, head, read⟩ := walked.algorithm
  obtain rfl : DerObject.oid oid' = first := by simpa using head
  obtain rfl : oid' = oid := Option.some.inj ((accessors.oid oid').symm.trans read)
  simp [Irregular]
  omega

theorem Walked.regular {lib : Library} {value : List UInt8} {fields : List DerObject}
    {object : DerObject} {oid : String} {embedded : List UInt8} (accessors : DerAccessors lib)
    (walked : Walked lib value fields object oid embedded)
    (regular : ¬ Irregular fields object oid) : IsRelatedCertificate lib value oid embedded := by
  simp only [Irregular, not_or, not_lt, not_not, not_forall] at regular
  obtain ⟨few, head, content, rfl⟩ := regular
  obtain rfl : embedded = content :=
    Option.some.inj (walked.slice.symm.trans (accessors.octetString content))
  cases fields with
  | nil => cases head
  | cons first parameters =>
      obtain rfl : first = .oid oid := by simpa using head
      exact ⟨parameters, by simpa using few, walked.parsed⟩

/-- The parser of the extension follows its grammar exactly where no readable binding
    has an irregular value under a known digest algorithm. -/
theorem verifyRelatedBinding_grammar {lib : Library} (accessors : DerAccessors lib)
    (reference related : String) (limit : Nat) :
    FollowsGrammar lib reference related limit ↔
      ¬ ∃ relatedDer certificate extension fields object oid embedded,
        BindingRead lib reference related limit relatedDer certificate extension ∧
        Walked lib extension.value fields object oid embedded ∧ oid ∈ digestOids ∧
        Irregular fields object oid := by
  constructor
  · rintro follows ⟨relatedDer, certificate, extension, fields, object, oid, embedded, read, walked,
      known, irregular⟩
    obtain ⟨calculated, hashed⟩ := digest_returns_iff.mpr known
    obtain ⟨der, remaining, certificate', extension', _, oid', content, _, refRead, parsed, only,
      grammar, _⟩ := follows _ (verifyRelatedBinding_ok_iff.mpr ⟨relatedDer, certificate, extension,
        fields, object, oid, embedded, calculated, read, walked, hashed, rfl⟩)
    obtain ⟨der', remaining', refRead', parsed'⟩ := read.reference
    obtain rfl : der = der' := ok_unique refRead refRead'
    obtain ⟨_, rfl⟩ := Prod.mk.inj (Option.some.inj (parsed.symm.trans parsed'))
    have member : extension ∈ certificate'.extensions.filter (·.oid == RELATED_CERTIFICATE_OID) :=
      List.mem_filter.mpr ⟨read.found, by simp [read.identifier]⟩
    obtain rfl : extension = extension' := by simpa [only] using member
    exact walked.shape accessors grammar irregular
  · intro regular result returned
    obtain ⟨relatedDer, certificate, extension, fields, object, oid, embedded, calculated, read,
      walked, hashed, rfl⟩ := verifyRelatedBinding_ok_iff.mp returned
    obtain ⟨der, remaining, refRead, parsed⟩ := read.reference
    have grammar := walked.regular accessors fun irregular => regular ⟨relatedDer, certificate,
      extension, fields, object, oid, embedded, read, walked,
      digest_returns_iff.mp ⟨calculated, hashed⟩, irregular⟩
    have only := filter_key_eq_singleton read.distinct read.found
    rw [read.identifier] at only
    refine ⟨der, remaining, certificate, extension, relatedDer, oid, embedded, calculated, refRead,
      parsed, only, grammar, read.related, hashed, ?_⟩
    simp [bindingResult, CheckResult.observed]

namespace Fixture

def relatedExtension : X509Extension :=
  ⟨RELATED_CERTIFICATE_OID, false, [7], .unsupportedExtension⟩

/-- A leaf certificate with a RelatedCertificate extension, whose digest is the given
    object. -/
def relatedLibrary (digestObject : DerObject) : Library :=
  { library { leafCertificate with extensions := [relatedExtension] } crl tryLater emptyResponse with
    parseDerSequence := fun value => if value = [7] then
      some ([], .sequence [.sequence [.oid "2.16.840.1.101.3.4.2.1"], digestObject]) else none }

theorem derAccessors_relatedLibrary (digestObject : DerObject) :
    DerAccessors (relatedLibrary digestObject) :=
  ⟨fun _ => rfl, fun _ => rfl⟩

theorem parsed_relatedLibrary {digestObject tree : DerObject} {value remaining : List UInt8}
    (parsed : (relatedLibrary digestObject).parseDerSequence value = some (remaining, tree)) :
    tree = .sequence [.sequence [.oid "2.16.840.1.101.3.4.2.1"], digestObject] := by
  simp only [relatedLibrary, Option.ite_none_right_eq_some, Option.some.injEq, Prod.mk.injEq] at parsed
  exact parsed.2.2.symm

end Fixture

/-- A digest in an OCTET STRING follows the grammar. -/
theorem verifyRelatedBinding_grammar_octetString :
    FollowsGrammar (Fixture.relatedLibrary (.octetString [2])) "leaf.pem" "ca.pem" 64 := by
  apply (verifyRelatedBinding_grammar (Fixture.derAccessors_relatedLibrary _) _ _ _).mpr
  rintro ⟨_, _, _, fields, object, oid, _, _, walked, _, irregular⟩
  have tree := Fixture.parsed_relatedLibrary walked.parsed
  simp only [DerObject.sequence.injEq, List.cons.injEq, and_true] at tree
  obtain ⟨rfl, rfl⟩ := tree
  obtain ⟨first, head, read⟩ := walked.algorithm
  obtain rfl : DerObject.oid "2.16.840.1.101.3.4.2.1" = first := by simpa using head
  obtain rfl : "2.16.840.1.101.3.4.2.1" = oid := Option.some.inj read
  simp [Irregular] at irregular

/-- An INTEGER is accepted in place of the digest, and passes. -/
theorem verifyRelatedBinding_integer :
    (∃ result, verifyRelatedBinding (Fixture.relatedLibrary (.integer [2])) "leaf.pem" "ca.pem" 64 =
      .ok result ∧ result.check.state = .pass) ∧
    ¬ FollowsGrammar (Fixture.relatedLibrary (.integer [2])) "leaf.pem" "ca.pem" 64 := by
  have passes : ∃ result, verifyRelatedBinding (Fixture.relatedLibrary (.integer [2])) "leaf.pem"
      "ca.pem" 64 = .ok result ∧ result.check.state = .pass := by
    decide +kernel
  refine ⟨passes, fun follows => ?_⟩
  obtain ⟨result, returned, _⟩ := passes
  obtain ⟨_, _, _, _, _, _, content, _, _, _, _, ⟨parameters, _, parsed⟩, _⟩ :=
    follows result returned
  have tree := Fixture.parsed_relatedLibrary parsed
  simp at tree

end HybridX509.X509
