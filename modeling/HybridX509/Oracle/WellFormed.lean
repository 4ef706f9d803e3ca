import HybridX509.Oracle.Validation

/-! # Well-formed requests

What `validate_request` accepts, said without its order, its registries or its
early returns. The main result is that acceptance and well-formedness coincide;
every later statement about an accepted request starts from the structure.
-/

namespace HybridX509.Oracle

open Lib

/-- 64 lowercase hexadecimal characters. -/
def IsSha256Hex (value : String) : Prop :=
  value.length = 64 ∧ ∀ c ∈ value.toList, ('0' ≤ c ∧ c ≤ '9') ∨ ('a' ≤ c ∧ c ≤ 'f')

/-- Two optional hashes that are equal wherever both are present. -/
def Compatible (left right : Option String) : Prop :=
  ∀ l r, left = some l → right = some r → l = r

def HashWellFormed (hash : Option String) : Prop := ∀ value, hash = some value → IsSha256Hex value

theorem hashWellFormed_some {value : String} (hex : IsSha256Hex value) :
    HashWellFormed (some value) := by
  rintro _ ⟨⟩
  exact hex

structure CertificateWellFormed (certificate : CertificateNode) : Prop where
  derPresent : certificate.derSha256.isSome
  derHash : HashWellFormed certificate.derSha256
  edgeHash : HashWellFormed certificate.issuerEdgeSha256
  atomicComposite : certificate.bindingDesign = .atomicComposite →
    certificate.certificateSignatureScheme = .hybrid

def TrustAnchorWellFormed : TrustAnchor → Prop
  | .certificateDerSha256 derSha256 => IsSha256Hex derSha256
  | .nameAndSpkiSha256 name spkiSha256 => IsSha256Hex spkiSha256 ∧ name ≠ ""
  | .localIdentifier identifier => identifier ≠ ""

structure PairWellFormed (request : VerificationRequest) (pair : PairedAuthentication) : Prop where
  operationId : pair.operationId ≠ ""
  hash : IsSha256Hex pair.postQuantumCertificateDerSha256
  classicalCertificate : ∃ certificate ∈ request.certificatePath,
    certificate.id = pair.classicalCertificateId ∧ certificate.bindingDesign = .relatedCertificate

/-- An evidence item against the path certificate it names. -/
structure EvidenceWellFormed (request : VerificationRequest) (certificate : CertificateNode)
    (item : Evidence) : Prop where
  named : certificate.id = item.certificateId
  certificateDerHash : HashWellFormed item.certificateDerSha256
  issuerEdgeHash : HashWellFormed item.issuerEdgeSha256
  artifactHash : HashWellFormed item.evidenceArtifactDerSha256
  position : certificate.position = item.position
  der : Compatible certificate.derSha256 item.certificateDerSha256
  issuerEdge : Compatible certificate.issuerEdgeSha256 item.issuerEdgeSha256
  carriesOperation : item.authenticationOperationId.isSome ↔
    certificate.bindingDesign = .relatedCertificate
  paired : ∀ operationId, item.authenticationOperationId = some operationId →
    ∃ pair ∈ request.pairedAuthentications, pair.operationId = operationId ∧
      pair.classicalCertificateId = item.certificateId
  ownArtifact : item.authenticationOperationId = none ∨ item.kind = .classical →
    Compatible certificate.derSha256 item.evidenceArtifactDerSha256
  pairedArtifact : item.kind = .postQuantum → ∀ pair ∈ request.pairedAuthentications,
    item.authenticationOperationId = some pair.operationId →
      Compatible (some pair.postQuantumCertificateDerSha256) item.evidenceArtifactDerSha256
  revocationPolicy : item.appliedRevocationPolicy = request.revocationPolicy
  revocationMethod : item.revocation.state = .pass → item.revocationMethod ≠ .none
  revocationNotRequired : request.revocationPolicy.mode = .notRequired →
    item.revocation.state = .notApplicable

structure WellFormed (parseFromRfc3339 : String → Bool) (request : VerificationRequest) :
    Prop where
  apiVersion : request.apiVersion = API_VERSION
  validationTime : parseFromRfc3339 request.validationTime = true
  evidenceIds : (request.evidence.map (·.id)).Nodup
  evidenceKinds : (request.evidence.map fun item => (item.certificateId, item.kind)).Nodup
  certificateIds : (request.certificatePath.map (·.id)).Nodup
  pathOrder : ∃ leaf intermediates, request.certificatePath = leaf :: intermediates ∧
    leaf.position = .endEntity ∧ ∀ certificate ∈ intermediates, certificate.position = .intermediate
  pathCertificates : ∀ certificate ∈ request.certificatePath, CertificateWellFormed certificate
  selectedPath : request.certificatePath.map (·.derSha256) =
    request.stack.certificationPathDerSha256.map some
  trustAnchor : TrustAnchorWellFormed request.expectedTrustAnchor
  sameTrustAnchor : request.expectedTrustAnchor = request.stack.trustAnchor
  operationIds : (request.pairedAuthentications.map (·.operationId)).Nodup
  pairs : ∀ pair ∈ request.pairedAuthentications, PairWellFormed request pair
  evidence : ∀ item ∈ request.evidence, ∃ certificate ∈ request.certificatePath,
    EvidenceWellFormed request certificate item
  sameOperation : ∀ item ∈ request.evidence, ∀ other ∈ request.evidence,
    item.certificateId = other.certificateId →
      item.authenticationOperationId = other.authenticationOperationId
  appliedTime : request.stack.validationTime.state = .pass →
    request.stack.appliedValidationTime = request.validationTime

/-! ## Helpers -/

private theorem lowerHex_byte_iff {c : Char} :
    (c.toNat < 128 ∧ isLowerHexByte (UInt8.ofNat c.toNat) = true) ↔
      ('0' ≤ c ∧ c ≤ '9') ∨ ('a' ≤ c ∧ c ≤ 'f') := by
  have order (d : Char) : (d ≤ c ↔ d.toNat ≤ c.toNat) ∧ (c ≤ d ↔ c.toNat ≤ d.toNat) :=
    ⟨Iff.rfl, Iff.rfl⟩
  have codes : '0'.toNat = 48 ∧ '9'.toNat = 57 ∧ 'a'.toNat = 97 ∧ 'f'.toNat = 102 := by decide
  simp only [order, codes, isLowerHexByte, Bool.or_eq_true, Bool.and_eq_true, decide_eq_true_eq,
    UInt8.le_iff_toNat_le]
  simp
  omega

private theorem lowerHex_ascii (byte : UInt8) (h : isLowerHexByte byte = true) :
    byte.toNat < 128 := by
  simp [isLowerHexByte, UInt8.le_iff_toNat_le] at h
  omega

theorem validateRequiredSha256Hex_ok_iff {field value : String} :
    validateRequiredSha256Hex field value = .ok () ↔ IsSha256Hex value := by
  have characters := forall_bytes_iff lowerHex_ascii value
  simp only [lowerHex_byte_iff] at characters
  have accepted : validateRequiredSha256Hex field value = .ok () ↔
      (bytes value).length = 64 ∧ ∀ byte ∈ bytes value, isLowerHexByte byte = true := by
    simp only [validateRequiredSha256Hex, validateSha256Hex]
    split <;> simp_all
  rw [accepted, characters, IsSha256Hex]
  refine and_congr_left fun hex => ?_
  rw [length_bytes_of_ascii fun c member => (lowerHex_byte_iff.mpr (hex c member)).1]

theorem validateSha256Hex_ok_iff {field : String} {value : Option String} :
    validateSha256Hex field value = .ok () ↔ HashWellFormed value := by
  cases value with
  | none => simp [validateSha256Hex, HashWellFormed]
  | some value =>
      change validateRequiredSha256Hex field value = .ok () ↔ _
      simp [validateRequiredSha256Hex_ok_iff, HashWellFormed]

theorem validateCertificateProperties_ok_iff {certificate : CertificateNode} :
    validateCertificateProperties certificate = .ok () ↔
      (certificate.bindingDesign = .atomicComposite →
        certificate.certificateSignatureScheme = .hybrid) := by
  unfold validateCertificateProperties
  cases certificate.bindingDesign <;> simp

theorem mismatchedOptionalHash_eq_false_iff {left right : Option String} :
    mismatchedOptionalHash left right = false ↔ Compatible left right := by
  cases left <;> cases right <;> simp [mismatchedOptionalHash, Compatible]

theorem validateCertificatePathOrder_ok_iff {request : VerificationRequest} :
    validateCertificatePathOrder request = .ok () ↔
      ∃ leaf intermediates, request.certificatePath = leaf :: intermediates ∧
        leaf.position = .endEntity ∧
        ∀ certificate ∈ intermediates, certificate.position = .intermediate := by
  unfold validateCertificatePathOrder
  cases request.certificatePath with
  | nil => simp [bind_ok_iff]
  | cons leaf intermediates => simp [bind_ok_iff, sliceFrom]

theorem validateTrustAnchor_ok_iff {trustAnchor : TrustAnchor} {spkiField : String} :
    validateTrustAnchor trustAnchor spkiField = .ok () ↔ TrustAnchorWellFormed trustAnchor := by
  cases trustAnchor with
  | certificateDerSha256 derSha256 =>
      simp only [validateTrustAnchor, validateRequiredSha256Hex_ok_iff, TrustAnchorWellFormed]
  | nameAndSpkiSha256 name spkiSha256 =>
      simp [validateTrustAnchor, bind_ok_iff, exists_unit_iff, validateRequiredSha256Hex_ok_iff,
        TrustAnchorWellFormed]
  | localIdentifier identifier => simp [validateTrustAnchor, TrustAnchorWellFormed]

private theorem mapM_hash_eq_some_iff {path : List CertificateNode} {hashes : List String} :
    path.mapM (·.derSha256) = some hashes ↔ path.map (·.derSha256) = hashes.map some := by
  induction path generalizing hashes with
  | nil => cases hashes <;> simp
  | cons head rest ih =>
      cases hashes with
      | nil => simp [Option.bind_eq_some_iff]
      | cons hash hashes => simp [List.mapM_cons, ih, Option.bind_eq_some_iff]

theorem validateStackSelectedPath_ok_iff {request : VerificationRequest} :
    validateStackSelectedPath request = .ok () ↔
      (∀ hash ∈ request.stack.certificationPathDerSha256, IsSha256Hex hash) ∧
      request.certificatePath.map (·.derSha256) =
        request.stack.certificationPathDerSha256.map some ∧
      TrustAnchorWellFormed request.expectedTrustAnchor ∧
      request.expectedTrustAnchor = request.stack.trustAnchor := by
  simp only [validateStackSelectedPath, bind_ok_iff, exists_unit_iff, forM_ok_iff,
    validateRequiredSha256Hex_ok_iff, orFail_ok_iff, failIf_ok_iff, not_not,
    mapM_hash_eq_some_iff, validateTrustAnchor_ok_iff]
  constructor
  · rintro ⟨hashes, _, selected, rfl, expected, _, same⟩
    exact ⟨hashes, selected, expected, same⟩
  · rintro ⟨hashes, selected, expected, same⟩
    exact ⟨hashes, _, selected, rfl, expected, same ▸ expected, same⟩

/-! ## Loops -/

theorem registerEvidence_walk {items : List Evidence} :
    (∃ seen, items.foldlM registerEvidence ([], []) = .ok seen) ↔
      (items.map (·.id)).Nodup ∧ (items.map fun item => (item.certificateId, item.kind)).Nodup := by
  have pass : ∀ seen item seen', registerEvidence seen item = .ok seen' ↔
      (item.id ∉ seen.1 ∧ (item.certificateId, item.kind) ∉ seen.2) ∧
        (item.id :: seen.1, (item.certificateId, item.kind) :: seen.2) = seen' := by
    intro seen item seen'
    simp only [registerEvidence, bind_ok_iff, exists_unit_iff, failIf_ok_iff, pure_ok_iff, and_assoc]
  simp only [foldlM_ok_iff pass, exists_and_left, exists_eq', and_true, walk_and]
  rw [walk_fresh Evidence.id Prod.fst (fun _ _ => rfl),
    walk_fresh (fun item : Evidence => (item.certificateId, item.kind)) Prod.snd (fun _ _ => rfl)]
  simp

/-- `certificates_by_id` after its loop: the path, newest entry first. -/
def certificatesById (path : List CertificateNode) : List (String × CertificateNode) :=
  (path.map fun certificate => (certificate.id, certificate)).reverse

/-- `paired_authentications` after its loop. -/
def pairsByOperation (pairs : List PairedAuthentication) : List (String × PairedAuthentication) :=
  (pairs.map fun pair => (pair.operationId, pair)).reverse

private theorem lookup_reverse_iff {β : Type} {key : β → String} {items : List β}
    (distinct : (items.map key).Nodup) {k : String} {item : β} :
    (items.map fun b => (key b, b)).reverse.lookup k = some item ↔ item ∈ items ∧ key item = k := by
  have functional : Functional (items.map fun b => (key b, b)).reverse :=
    (functional_of_nodup distinct).of_subset (fun _ => List.mem_reverse.mp)
  rw [functional.lookup_iff, List.mem_reverse, List.mem_map]
  constructor
  · intro ⟨b, member, same⟩
    obtain ⟨rfl, rfl⟩ := Prod.mk.inj same
    exact ⟨member, rfl⟩
  · rintro ⟨member, rfl⟩
    exact ⟨item, member, rfl⟩

theorem certificatesById_lookup_iff {path : List CertificateNode}
    (distinct : (path.map (·.id)).Nodup) {id : String} {certificate : CertificateNode} :
    (certificatesById path).lookup id = some certificate ↔
      certificate ∈ path ∧ certificate.id = id :=
  lookup_reverse_iff distinct

theorem pairsByOperation_lookup_iff {pairs : List PairedAuthentication}
    (distinct : (pairs.map (·.operationId)).Nodup) {operationId : String}
    {pair : PairedAuthentication} :
    (pairsByOperation pairs).lookup operationId = some pair ↔
      pair ∈ pairs ∧ pair.operationId = operationId :=
  lookup_reverse_iff distinct

/-- What the loop over the path asks of a certificate by itself. -/
private def CertificateChecked (certificate : CertificateNode) : Prop :=
  HashWellFormed certificate.derSha256 ∧ HashWellFormed certificate.issuerEdgeSha256 ∧
    (certificate.bindingDesign = .atomicComposite →
      certificate.certificateSignatureScheme = .hybrid) ∧
    certificate.position ≠ .trustAnchor

private theorem registerCertificate_walk {path : List CertificateNode}
    {registry : List (String × CertificateNode)} {count : Nat} :
    path.foldlM registerCertificate ([], 0) = .ok (registry, count) ↔
      ((∀ certificate ∈ path, CertificateChecked certificate) ∧ (path.map (·.id)).Nodup) ∧
      certificatesById path = registry ∧ path.countP (·.position == .endEntity) = count := by
  let next (state : List (String × CertificateNode) × Nat) (certificate : CertificateNode) :=
    ((certificate.id, certificate) :: state.1,
      if certificate.position == .endEntity then state.2 + 1 else state.2)
  have pass : ∀ state certificate state', registerCertificate state certificate = .ok state' ↔
      (CertificateChecked certificate ∧ certificate.id ∉ state.1.map Prod.fst) ∧
        next state certificate = state' := by
    intro state certificate state'
    simp only [registerCertificate, bind_ok_iff, exists_unit_iff, validateSha256Hex_ok_iff,
      validateCertificateProperties_ok_iff, failIf_ok_iff, pure_ok_iff, lookup_isSome_iff_mem,
      CertificateChecked, and_assoc, next]
  have filled : ∀ (rest : List CertificateNode) (state : List (String × CertificateNode) × Nat),
      rest.foldl next state = (certificatesById rest ++ state.1,
        state.2 + rest.countP (·.position == .endEntity)) := by
    intro rest
    induction rest with
    | nil => simp [certificatesById]
    | cons head rest ih =>
        intro state
        rw [List.foldl_cons, ih]
        by_cases leaf : head.position == .endEntity <;>
          simp [next, certificatesById, leaf, Nat.add_comm, Nat.add_assoc]
  rw [foldlM_ok_iff pass, walk_and, walk_forall,
    walk_fresh CertificateNode.id
      (fun state : List (String × CertificateNode) × Nat => state.1.map Prod.fst)
      (fun _ _ => rfl), filled]
  simp

theorem registerPair_walk {path : List CertificateNode} {pairs : List PairedAuthentication}
    (distinct : (path.map (·.id)).Nodup) {registry : List (String × PairedAuthentication)} :
    pairs.foldlM (registerPair (certificatesById path)) [] = .ok registry ↔
      ((∀ pair ∈ pairs, IsSha256Hex pair.postQuantumCertificateDerSha256 ∧ pair.operationId ≠ "" ∧
          ∃ certificate ∈ path, certificate.id = pair.classicalCertificateId ∧
            certificate.bindingDesign = .relatedCertificate) ∧
        (pairs.map (·.operationId)).Nodup) ∧
      pairsByOperation pairs = registry := by
  have related : ∀ id, ¬ (((certificatesById path).lookup id).all
        (·.bindingDesign != .relatedCertificate)) ↔
      ∃ certificate ∈ path, certificate.id = id ∧
        certificate.bindingDesign = .relatedCertificate := by
    intro id
    simp only [Option.all_eq_true, not_forall, certificatesById_lookup_iff distinct]
    simp [and_assoc]
  have pass : ∀ registry pair registry',
      registerPair (certificatesById path) registry pair = .ok registry' ↔
        ((IsSha256Hex pair.postQuantumCertificateDerSha256 ∧ pair.operationId ≠ "" ∧
            ∃ certificate ∈ path, certificate.id = pair.classicalCertificateId ∧
              certificate.bindingDesign = .relatedCertificate) ∧
          pair.operationId ∉ registry.map Prod.fst) ∧
        (pair.operationId, pair) :: registry = registry' := by
    intro registry pair registry'
    simp only [registerPair, bind_ok_iff, exists_unit_iff, validateRequiredSha256Hex_ok_iff,
      failIf_ok_iff, pure_ok_iff, related, Bool.or_eq_true, lookup_isSome_iff_mem,
      String.isEmpty_iff]
    tauto
  have filled : ∀ (rest : List PairedAuthentication)
      (state : List (String × PairedAuthentication)),
      rest.foldl (fun state pair => (pair.operationId, pair) :: state) state =
        pairsByOperation rest ++ state := by
    intro rest
    induction rest with
    | nil => simp [pairsByOperation]
    | cons head rest ih => intro state; simp [ih, pairsByOperation]
  rw [foldlM_ok_iff pass, walk_and, walk_forall,
    walk_fresh PairedAuthentication.operationId (List.map Prod.fst) (fun _ _ => rfl), filled]
  simp

private theorem validateAuthenticationOperation_own_iff {certificate : CertificateNode}
    {item : Evidence} {registry : List (String × PairedAuthentication)}
    {operations operations' : List (String × String)} {expected : Option String}
    (own : certificate.bindingDesign ≠ .relatedCertificate) :
    validateAuthenticationOperation registry operations certificate item =
        .ok (expected, operations') ↔
      item.authenticationOperationId = none ∧ certificate.derSha256 = expected ∧
        operations = operations' := by
  simp only [validateAuthenticationOperation, own, if_false, bind_ok_iff, exists_unit_iff,
    failIf_ok_iff, pure_ok_iff, Prod.mk.injEq, Option.not_isSome_iff_eq_none]

private theorem validateAuthenticationOperation_related_iff {certificate : CertificateNode}
    {item : Evidence} {pairs : List PairedAuthentication}
    {operations operations' : List (String × String)} {expected : Option String}
    (distinct : (pairs.map (·.operationId)).Nodup)
    (related : certificate.bindingDesign = .relatedCertificate) :
    validateAuthenticationOperation (pairsByOperation pairs) operations certificate item =
        .ok (expected, operations') ↔
      ∃ pair ∈ pairs, item.authenticationOperationId = some pair.operationId ∧
        pair.classicalCertificateId = item.certificateId ∧
        (∀ previous, operations.lookup item.certificateId = some previous →
          previous = pair.operationId) ∧
        (match item.kind with
          | .classical => certificate.derSha256
          | .postQuantum => some pair.postQuantumCertificateDerSha256) = expected ∧
        (item.certificateId, pair.operationId) :: operations = operations' := by
  have kept : ∀ operationId, ¬ ((operations.lookup item.certificateId).any (· != operationId)) ↔
      ∀ previous, operations.lookup item.certificateId = some previous →
        previous = operationId := by
    intro operationId
    cases operations.lookup item.certificateId <;> simp
  simp only [validateAuthenticationOperation, related, if_true, bind_ok_iff, exists_unit_iff,
    orFail_ok_iff, failIf_ok_iff, pure_ok_iff, pairsByOperation_lookup_iff distinct, not_not,
    Prod.mk.injEq, kept]
  constructor
  · rintro ⟨_, carried, pair, ⟨member, rfl⟩, named, agrees, artifact, filed⟩
    exact ⟨pair, member, carried, named, agrees, artifact, filed⟩
  · rintro ⟨pair, member, carried, named, agrees, artifact, filed⟩
    exact ⟨_, carried, pair, ⟨member, rfl⟩, named, agrees, artifact, filed⟩

/-- The operation checks of one item, with the artifact comparison they feed. -/
private theorem operation_accepted_iff {request : VerificationRequest}
    {certificate : CertificateNode} {item : Evidence} {operations operations' : List (String × String)}
    (distinct : (request.pairedAuthentications.map (·.operationId)).Nodup) :
    (∃ expected, validateAuthenticationOperation (pairsByOperation request.pairedAuthentications)
        operations certificate item = .ok (expected, operations') ∧
        Compatible expected item.evidenceArtifactDerSha256) ↔
      ((item.authenticationOperationId.isSome ↔ certificate.bindingDesign = .relatedCertificate) ∧
        (∀ operationId, item.authenticationOperationId = some operationId →
          ∃ pair ∈ request.pairedAuthentications, pair.operationId = operationId ∧
            pair.classicalCertificateId = item.certificateId) ∧
        (item.authenticationOperationId = none ∨ item.kind = .classical →
          Compatible certificate.derSha256 item.evidenceArtifactDerSha256) ∧
        (item.kind = .postQuantum → ∀ pair ∈ request.pairedAuthentications,
          item.authenticationOperationId = some pair.operationId →
            Compatible (some pair.postQuantumCertificateDerSha256)
              item.evidenceArtifactDerSha256)) ∧
      Agrees Evidence.certificateId Evidence.authenticationOperationId operations item ∧
      file Evidence.certificateId Evidence.authenticationOperationId operations item =
        operations' := by
  by_cases related : certificate.bindingDesign = .relatedCertificate
  · simp only [validateAuthenticationOperation_related_iff distinct related, related, iff_true]
    constructor
    · rintro ⟨_, ⟨pair, member, carried, named, agrees, rfl, rfl⟩, artifact⟩
      have unique : ∀ other ∈ request.pairedAuthentications,
          item.authenticationOperationId = some other.operationId → other = pair := by
        intro other inside same
        exact List.inj_on_of_nodup_map distinct inside member
          (Option.some.inj (same.symm.trans carried))
      refine ⟨⟨by simp [carried], ?_, ?_, ?_⟩, ?_, by simp [file, carried]⟩
      · intro operationId same
        exact ⟨pair, member, Option.some.inj (carried.symm.trans same), named⟩
      · rintro (absent | classical)
        · simp [carried] at absent
        · simpa only [classical] using artifact
      · intro postQuantum other inside same
        simpa only [unique other inside same, postQuantum] using artifact
      · intro operationId same previous found
        exact (agrees previous found).trans (Option.some.inj (carried.symm.trans same))
    · rintro ⟨⟨some, paired, own, other⟩, agrees, rfl⟩
      obtain ⟨operationId, carried⟩ := Option.isSome_iff_exists.mp some
      obtain ⟨pair, member, rfl, named⟩ := paired operationId carried
      refine ⟨_, ⟨pair, member, carried, named, agrees _ carried, rfl, by simp [file, carried]⟩, ?_⟩
      cases kind : item.kind with
      | classical => exact own (.inr kind)
      | postQuantum => exact other kind pair member carried
  · simp only [validateAuthenticationOperation_own_iff related, related, iff_false,
      Option.not_isSome_iff_eq_none]
    constructor
    · rintro ⟨_, ⟨absent, rfl, rfl⟩, artifact⟩
      exact ⟨⟨absent, by simp [absent], fun _ => artifact, by simp [absent]⟩,
        by simp [Agrees, absent], by simp [file, absent]⟩
    · rintro ⟨⟨absent, _, own, _⟩, _, rfl⟩
      exact ⟨_, ⟨absent, rfl, by simp [file, absent]⟩, own (.inl absent)⟩

theorem validateEvidence_ok_iff {request : VerificationRequest}
    (distinctIds : (request.certificatePath.map (·.id)).Nodup)
    (distinctOperations : (request.pairedAuthentications.map (·.operationId)).Nodup)
    {operations operations' : List (String × String)} {item : Evidence} :
    validateEvidence request (certificatesById request.certificatePath)
        (pairsByOperation request.pairedAuthentications) operations item = .ok operations' ↔
      ((∃ certificate ∈ request.certificatePath, EvidenceWellFormed request certificate item) ∧
        Agrees Evidence.certificateId Evidence.authenticationOperationId operations item) ∧
      file Evidence.certificateId Evidence.authenticationOperationId operations item =
        operations' := by
  simp only [validateEvidence, bind_ok_iff, exists_unit_iff, validateSha256Hex_ok_iff,
    orFail_ok_iff, failIf_ok_iff, pure_ok_iff, certificatesById_lookup_iff distinctIds,
    Prod.exists, not_not, Bool.not_eq_true, mismatchedOptionalHash_eq_false_iff]
  constructor
  · rintro ⟨derHash, edgeHash, artifactHash, certificate, ⟨member, named⟩, position, der, edge,
      expected, _, accepted, artifact, policy, method, mode, rfl⟩
    obtain ⟨⟨carries, paired, own, other⟩, agrees, filed⟩ :=
      (operation_accepted_iff distinctOperations).mp ⟨expected, accepted, artifact⟩
    refine ⟨⟨⟨certificate, member, ?_⟩, agrees⟩, filed⟩
    exact ⟨named, derHash, edgeHash, artifactHash, position, der, edge, carries, paired, own, other,
      policy, fun pass none => method ⟨pass, none⟩,
      fun notRequired => not_not.mp fun applicable => mode ⟨notRequired, applicable⟩⟩
  · rintro ⟨⟨⟨certificate, member, wf⟩, agrees⟩, filed⟩
    obtain ⟨expected, accepted, artifact⟩ := (operation_accepted_iff distinctOperations).mpr
      ⟨⟨wf.carriesOperation, wf.paired, wf.ownArtifact, wf.pairedArtifact⟩, agrees, filed⟩
    exact ⟨wf.certificateDerHash, wf.issuerEdgeHash, wf.artifactHash, certificate,
      ⟨member, wf.named⟩, wf.position, wf.der, wf.issuerEdge, expected, _, accepted, artifact,
      wf.revocationPolicy, fun both => wf.revocationMethod both.1 both.2,
      fun both => both.2 (wf.revocationNotRequired both.1), rfl⟩

theorem validateEvidence_walk {request : VerificationRequest}
    (distinctIds : (request.certificatePath.map (·.id)).Nodup)
    (distinctOperations : (request.pairedAuthentications.map (·.operationId)).Nodup) :
    (∃ operations, request.evidence.foldlM (validateEvidence request
        (certificatesById request.certificatePath)
        (pairsByOperation request.pairedAuthentications)) [] = .ok operations) ↔
      (∀ item ∈ request.evidence, ∃ certificate ∈ request.certificatePath,
        EvidenceWellFormed request certificate item) ∧
      ∀ item ∈ request.evidence, ∀ other ∈ request.evidence,
        item.certificateId = other.certificateId → ∀ v w,
          item.authenticationOperationId = some v → other.authenticationOperationId = some w →
            v = w := by
  simp only [foldlM_ok_iff fun _ _ _ => validateEvidence_ok_iff distinctIds distinctOperations,
    exists_and_left, exists_eq', and_true, walk_and, walk_forall, walk_agrees]

/-- Items of one certificate agree on whether they carry an operation identifier,
    so agreement of the identifiers that are present is agreement altogether. -/
private theorem sameOperation_of_present {request : VerificationRequest}
    (distinctIds : (request.certificatePath.map (·.id)).Nodup)
    (evidence : ∀ item ∈ request.evidence, ∃ certificate ∈ request.certificatePath,
      EvidenceWellFormed request certificate item)
    {item other : Evidence} (inItem : item ∈ request.evidence) (inOther : other ∈ request.evidence)
    (same : item.certificateId = other.certificateId)
    (present : ∀ v w, item.authenticationOperationId = some v →
      other.authenticationOperationId = some w → v = w) :
    item.authenticationOperationId = other.authenticationOperationId := by
  obtain ⟨certificate, inPath, wfItem⟩ := evidence item inItem
  obtain ⟨certificate', inPath', wfOther⟩ := evidence other inOther
  obtain rfl : certificate = certificate' :=
    List.inj_on_of_nodup_map distinctIds inPath inPath'
      (wfItem.named.trans (same.trans wfOther.named.symm))
  have carried : item.authenticationOperationId.isSome ↔ other.authenticationOperationId.isSome :=
    wfItem.carriesOperation.trans wfOther.carriesOperation.symm
  cases left : item.authenticationOperationId with
  | none =>
      have absent : ¬ other.authenticationOperationId.isSome := by simp [← carried, left]
      exact (Option.not_isSome_iff_eq_none.mp absent).symm
  | some v =>
      obtain ⟨w, right⟩ := Option.isSome_iff_exists.mp (carried.mp (by simp [left]))
      rw [right, present v w left right]

private theorem derPresent_of_selected {path : List CertificateNode} {hashes : List String}
    (selected : path.map (·.derSha256) = hashes.map some) {certificate : CertificateNode}
    (member : certificate ∈ path) : certificate.derSha256.isSome := by
  have listed : certificate.derSha256 ∈ hashes.map some :=
    selected ▸ List.mem_map_of_mem member
  obtain ⟨hash, -, same⟩ := List.mem_map.mp listed
  simp [← same]

namespace WellFormed

variable {parseFromRfc3339 : String → Bool} {request : VerificationRequest}

theorem not_trustAnchor (wf : WellFormed parseFromRfc3339 request) {certificate : CertificateNode}
    (member : certificate ∈ request.certificatePath) : certificate.position ≠ .trustAnchor := by
  obtain ⟨leaf, intermediates, path, endEntity, rest⟩ := wf.pathOrder
  rw [path] at member
  rcases List.mem_cons.mp member with rfl | inside
  · simp [endEntity]
  · simp [rest certificate inside]

theorem one_endEntity (wf : WellFormed parseFromRfc3339 request) :
    request.certificatePath.countP (·.position == .endEntity) = 1 := by
  obtain ⟨leaf, intermediates, path, endEntity, rest⟩ := wf.pathOrder
  have none : intermediates.countP (·.position == .endEntity) = 0 := by
    apply List.countP_eq_zero.mpr
    intro certificate member
    simp [rest certificate member]
  simp [path, endEntity, none]

theorem stackHashes (wf : WellFormed parseFromRfc3339 request) :
    ∀ hash ∈ request.stack.certificationPathDerSha256, IsSha256Hex hash := by
  intro hash member
  have listed : some hash ∈ request.certificatePath.map (·.derSha256) :=
    wf.selectedPath ▸ List.mem_map_of_mem member
  obtain ⟨certificate, inPath, same⟩ := List.mem_map.mp listed
  exact (wf.pathCertificates certificate inPath).derHash hash same

end WellFormed

/-- Validation accepts exactly the well-formed requests. -/
theorem validateRequest_ok_iff {parseFromRfc3339 : String → Bool} {request : VerificationRequest} :
    validateRequest parseFromRfc3339 request = .ok () ↔ WellFormed parseFromRfc3339 request := by
  simp only [validateRequest, bind_ok_iff, exists_unit_iff, failIf_ok_iff, not_not, Prod.exists,
    validateCertificatePathOrder_ok_iff, validateStackSelectedPath_ok_iff,
    registerCertificate_walk]
  constructor
  · rintro ⟨version, time, seen, seenKinds, registered, _, _, ⟨⟨checked, distinctIds⟩, rfl, -⟩, -,
      order, ⟨-, selected, anchor, sameAnchor⟩, registry, filed, operations, walked, applied⟩
    obtain ⟨⟨pairs, distinctOperations⟩, rfl⟩ := (registerPair_walk distinctIds).mp filed
    obtain ⟨evidenceIds, evidenceKinds⟩ := registerEvidence_walk.mp ⟨_, registered⟩
    obtain ⟨evidence, present⟩ :=
      (validateEvidence_walk distinctIds distinctOperations).mp ⟨operations, walked⟩
    exact {
      apiVersion := version
      validationTime := by simpa using time
      evidenceIds := evidenceIds
      evidenceKinds := evidenceKinds
      certificateIds := distinctIds
      pathOrder := order
      pathCertificates := fun certificate member =>
        ⟨derPresent_of_selected selected member, (checked certificate member).1,
          (checked certificate member).2.1, (checked certificate member).2.2.1⟩
      selectedPath := selected
      trustAnchor := anchor
      sameTrustAnchor := sameAnchor
      operationIds := distinctOperations
      pairs := fun pair member => ⟨(pairs pair member).2.1, (pairs pair member).1,
        (pairs pair member).2.2⟩
      evidence := evidence
      sameOperation := fun item inItem other inOther same =>
        sameOperation_of_present distinctIds evidence inItem inOther same
          (present item inItem other inOther same)
      appliedTime := fun pass => not_not.mp fun differs => applied ⟨pass, differs⟩ }
  · intro wf
    obtain ⟨⟨seen, seenKinds⟩, registered⟩ :=
      registerEvidence_walk.mpr ⟨wf.evidenceIds, wf.evidenceKinds⟩
    have checked : ∀ certificate ∈ request.certificatePath, CertificateChecked certificate := by
      intro certificate member
      have wfc := wf.pathCertificates certificate member
      exact ⟨wfc.derHash, wfc.edgeHash, wfc.atomicComposite, wf.not_trustAnchor member⟩
    obtain ⟨operations, walked⟩ :=
      (validateEvidence_walk wf.certificateIds wf.operationIds).mpr ⟨wf.evidence, by
        intro item inItem other inOther same v w left right
        exact Option.some.inj (left.symm.trans
          ((wf.sameOperation item inItem other inOther same).trans right))⟩
    refine ⟨wf.apiVersion, by simp [wf.validationTime], seen, seenKinds, registered, _, _,
      ⟨⟨checked, wf.certificateIds⟩, rfl, rfl⟩, wf.one_endEntity, wf.pathOrder,
      ⟨wf.stackHashes, wf.selectedPath, wf.trustAnchor, wf.sameTrustAnchor⟩,
      _, (registerPair_walk wf.certificateIds).mpr ⟨⟨?_, wf.operationIds⟩, rfl⟩,
      operations, walked, fun both => both.2 (wf.appliedTime both.1)⟩
    intro pair member
    have wfp := wf.pairs pair member
    exact ⟨wfp.hash, wfp.operationId, wfp.classicalCertificate⟩

end HybridX509.Oracle
