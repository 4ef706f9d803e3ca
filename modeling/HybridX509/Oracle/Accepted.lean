import HybridX509.Oracle.Grades

/-! # Aggregates of well-formed requests

Validation makes the lookups of the oracle independent of list order: an item is
determined by its certificate and kind, its scope by the certificate it names, and
the pairing of a Related certificate by any of its items. The aggregates of an
accepted request are restated over these, without the filters of the source.
-/

namespace HybridX509.Oracle

open Lib

/-- The evidence of one kind for one certificate, over the whole request. -/
def itemsOf (request : VerificationRequest) (kind : EvidenceKind) (certificate : CertificateNode) :
    List Evidence :=
  request.evidence.filter fun item => item.certificateId == certificate.id && item.kind == kind

theorem mem_itemsOf {request : VerificationRequest} {kind : EvidenceKind}
    {certificate : CertificateNode} {item : Evidence} :
    item ∈ itemsOf request kind certificate ↔
      item ∈ request.evidence ∧ item.certificateId = certificate.id ∧ item.kind = kind := by
  simp [itemsOf]

def requirementGrade (request : VerificationRequest) (kind : EvidenceKind)
    (certificate : CertificateNode) : AggregateState :=
  certificateGrade request.revocationPolicy.mode certificate (itemsOf request kind certificate)

theorem mem_certificates {request : VerificationRequest} {certificate : CertificateNode} :
    certificate ∈ certificates request ↔ certificate ∈ request.certificatePath ∧
      request.pathScope.includes certificate.position = true := by
  simp [certificates]

theorem mem_requiredCertificates {request : VerificationRequest} {kind : EvidenceKind}
    {certificate : CertificateNode} :
    certificate ∈ requiredCertificates request kind ↔
      certificate ∈ certificates request ∧ certificate.requires kind = true := by
  simp [requiredCertificates]

namespace WellFormed

variable {parseFromRfc3339 : String → Bool} {request : VerificationRequest}

theorem evidenceFor (wf : WellFormed parseFromRfc3339 request) {item : Evidence}
    {certificate : CertificateNode} (member : item ∈ request.evidence)
    (inPath : certificate ∈ request.certificatePath) (named : item.certificateId = certificate.id) :
    EvidenceWellFormed request certificate item := by
  obtain ⟨owner, inside, wfItem⟩ := wf.evidence item member
  obtain rfl : owner = certificate :=
    List.inj_on_of_nodup_map wf.certificateIds inside inPath (wfItem.named.trans named)
  exact wfItem

/-- Scope filters the evidence of an in-scope certificate as it filters the
    certificate: nothing is lost. -/
theorem evidenceOfKind_filter (wf : WellFormed parseFromRfc3339 request)
    {certificate : CertificateNode} (covered : certificate ∈ certificates request)
    (kind : EvidenceKind) :
    (evidenceOfKind request kind).filter (·.certificateId == certificate.id) =
      itemsOf request kind certificate := by
  obtain ⟨inPath, included⟩ := mem_certificates.mp covered
  rw [evidenceOfKind, inScope, List.filter_filter, List.filter_filter, itemsOf]
  apply List.filter_congr
  intro item member
  by_cases named : item.certificateId = certificate.id
  · have same := (wf.evidenceFor member inPath named).position
    simp [← same, included]
  · simp [named]

theorem kindState_eq_worst (wf : WellFormed parseFromRfc3339 request) (kind : EvidenceKind) :
    kindState request kind =
      worst (requirementGrade request kind) (requiredCertificates request kind) := by
  rw [kindState, evidenceState_eq_worst]
  apply worst_congr
  intro certificate member
  rw [wf.evidenceOfKind_filter (mem_requiredCertificates.mp member).1, requirementGrade]

/-- Comparing two requests on one kind of evidence, certificate by certificate. -/
theorem kindState_le {request' : VerificationRequest} (wf : WellFormed parseFromRfc3339 request)
    (wf' : WellFormed parseFromRfc3339 request') {kind : EvidenceKind}
    (dominated : ∀ certificate ∈ requiredCertificates request' kind,
      certificate ∈ requiredCertificates request kind ∧
        requirementGrade request kind certificate ≤ requirementGrade request' kind certificate) :
    kindState request kind ≤ kindState request' kind := by
  rw [wf.kindState_eq_worst, wf'.kindState_eq_worst]
  apply worst_le_worst
  intro certificate member
  obtain ⟨inside, le⟩ := dominated certificate member
  exact ⟨certificate, inside, le⟩

theorem itemsOf_eq_singleton (wf : WellFormed parseFromRfc3339 request) {kind : EvidenceKind}
    {certificate : CertificateNode} {item : Evidence}
    (member : item ∈ itemsOf request kind certificate) :
    itemsOf request kind certificate = [item] := by
  obtain ⟨inside, named, rfl⟩ := mem_itemsOf.mp member
  rw [← filter_key_eq_singleton wf.evidenceKinds inside, itemsOf]
  apply List.filter_congr
  intro other _
  rw [Bool.eq_iff_iff]
  simp [named]

/-- A requirement passes exactly when there is one item of its kind, bound to the
    certificate, all of whose checks pass. -/
theorem requirementGrade_eq_pass_iff (wf : WellFormed parseFromRfc3339 request)
    {kind : EvidenceKind} {certificate : CertificateNode} :
    requirementGrade request kind certificate = .pass ↔
      ∃ item, itemsOf request kind certificate = [item] ∧
        itemGrade request.revocationPolicy.mode certificate item = .pass := by
  rw [requirementGrade, certificateGrade_eq_pass_iff]
  constructor
  · intro ⟨nonempty, passes⟩
    obtain ⟨item, member⟩ := List.exists_mem_of_ne_nil _ nonempty
    exact ⟨item, wf.itemsOf_eq_singleton member, passes item member⟩
  · intro ⟨item, single, passes⟩
    simp [single, passes]

/-! ## Pairings -/

/-- Whichever item of the certificate is looked at, the pairing is the one that
    carries its operation identifier. -/
theorem pairedOperation_eq_some_iff (wf : WellFormed parseFromRfc3339 request)
    {certificate : CertificateNode} {pair : PairedAuthentication} :
    pairedOperation request certificate = some pair ↔
      ∃ item ∈ request.evidence, item.certificateId = certificate.id ∧
        pair ∈ request.pairedAuthentications ∧
        item.authenticationOperationId = some pair.operationId := by
  have filed (operationId : String) := @find?_key_iff _ _ _ PairedAuthentication.operationId
    request.pairedAuthentications wf.operationIds operationId pair
  simp only [pairedOperation, bind, Option.bind_eq_some_iff, filed]
  constructor
  · rintro ⟨item, found, _, carried, member, rfl⟩
    exact ⟨item, List.mem_of_find?_eq_some found, by simpa using List.find?_some found, member,
      carried⟩
  · intro ⟨item, inside, named, member, carried⟩
    have some : (request.evidence.find? (·.certificateId == certificate.id)).isSome :=
      List.find?_isSome.mpr ⟨item, inside, by simpa using named⟩
    obtain ⟨first, found⟩ := Option.isSome_iff_exists.mp some
    have firstNamed : first.certificateId = certificate.id := by
      simpa using List.find?_some found
    have same := wf.sameOperation first (List.mem_of_find?_eq_some found) item inside
      (firstNamed.trans named.symm)
    exact ⟨first, found, _, same.trans carried, member, rfl⟩

theorem pairedOperation_isSome_iff (wf : WellFormed parseFromRfc3339 request)
    {certificate : CertificateNode} (inPath : certificate ∈ request.certificatePath)
    (related : certificate.bindingDesign = .relatedCertificate) :
    (∃ pair, pairedOperation request certificate = some pair) ↔
      ∃ item ∈ request.evidence, item.certificateId = certificate.id := by
  simp only [wf.pairedOperation_eq_some_iff]
  constructor
  · intro ⟨_, item, member, named, _⟩
    exact ⟨item, member, named⟩
  · intro ⟨item, member, named⟩
    have wfItem := wf.evidenceFor member inPath named
    obtain ⟨operationId, carried⟩ :=
      Option.isSome_iff_exists.mp (wfItem.carriesOperation.mpr related)
    obtain ⟨pair, inside, rfl, _⟩ := wfItem.paired operationId carried
    exact ⟨pair, item, member, named, inside, carried⟩

/-! ## The selected path -/

private theorem validatedPath_intermediates (flag : Bool) :
    ∀ intermediates : List CertificateNode,
      (∀ certificate ∈ intermediates, certificate.position = .intermediate ∧
        certificate.derSha256.isSome) →
      intermediates.foldlM validatedPathCertificate flag =
        if intermediates.all (·.issuerEdgeSha256.isSome) then some flag else none := by
  intro intermediates
  induction intermediates with
  | nil => intro _; rfl
  | cons head rest ih =>
      intro inner
      obtain ⟨position, der⟩ := inner head List.mem_cons_self
      have step : validatedPathCertificate flag head =
          if head.issuerEdgeSha256.isSome then some flag else none := by
        cases edge : head.issuerEdgeSha256 <;>
          simp [validatedPathCertificate, position, Option.isNone_eq_false_iff.mpr der, edge]
      rw [List.foldlM_cons, step, List.all_cons]
      by_cases edge : head.issuerEdgeSha256.isSome
      · simp only [edge, if_true, Bool.true_and]
        exact ih fun certificate member => inner certificate (List.mem_cons_of_mem head member)
      · simp [edge]

/-- The path state passes exactly when the adapter selected the path and every
    certificate of it is bound to an issuer. -/
theorem validatedPathState_eq_pass_iff (wf : WellFormed parseFromRfc3339 request) :
    validatedPathState request = .pass ↔
      request.stack.selectedPathSource = .adapterSelected ∧
        ∀ certificate ∈ request.certificatePath, certificate.issuerEdgeSha256.isSome := by
  obtain ⟨leaf, intermediates, path, endEntity, rest⟩ := wf.pathOrder
  have der : ∀ certificate ∈ leaf :: intermediates, certificate.derSha256.isSome :=
    fun certificate member => (wf.pathCertificates certificate (path ▸ member)).derPresent
  have leafDer := der leaf List.mem_cons_self
  have walked := validatedPath_intermediates true intermediates fun certificate member =>
    ⟨rest certificate member, der certificate (List.mem_cons_of_mem leaf member)⟩
  by_cases source : request.stack.selectedPathSource = .adapterSelected
  · cases edge : leaf.issuerEdgeSha256 with
    | none => simp [validatedPathState, source, path, validatedPathCertificate, endEntity, edge]
    | some hash =>
        have first : validatedPathCertificate false leaf = some true := by
          simp [validatedPathCertificate, endEntity, Option.isNone_eq_false_iff.mpr leafDer, edge]
        by_cases bound : intermediates.all (·.issuerEdgeSha256.isSome)
        · simp_all [validatedPathState]
        · simp_all [validatedPathState]
  · simp [validatedPathState, source]

end WellFormed

/-- Comparing two requests on their designs, certificate by certificate. -/
theorem designState_le {request request' : VerificationRequest}
    (dominated : ∀ certificate ∈ certificates request',
      certificate ∈ certificates request ∧
        designGrade request certificate ≤ designGrade request' certificate) :
    hybridAuthenticationDesignState (certificates request) request ≤
      hybridAuthenticationDesignState (certificates request') request' := by
  rw [hybridAuthenticationDesignState_eq_worst, hybridAuthenticationDesignState_eq_worst]
  apply worst_le_worst
  intro certificate member
  obtain ⟨inside, le⟩ := dominated certificate member
  exact ⟨certificate, inside, le⟩

theorem validatedPathState_ne_fail (request : VerificationRequest) :
    validatedPathState request ≠ .fail := by
  unfold validatedPathState
  split
  · simp
  · split
    · simp
    · split <;> simp

theorem authenticationProfileState_ne_fail (profile : ValidationProfile) :
    authenticationProfileState profile ≠ .fail := by
  cases profile <;> simp [authenticationProfileState]

theorem authenticationProfileState_eq_pass_iff {profile : ValidationProfile} :
    authenticationProfileState profile = .pass ↔ profile = .x509Path ∨ profile = .webPkiServer := by
  cases profile <;> simp [authenticationProfileState]

end HybridX509.Oracle
