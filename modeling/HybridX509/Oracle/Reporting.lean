import HybridX509.Oracle.RequiredHybrid

/-! # The reported checks

`failed_checks` is filled by passes of its own. Missing evidence and pairings are
reported by the predicates that decide on them, but the checks of an item go
through a filter that drops every check that is not applicable, whether or not the
decision accepts it as such. The report is complete exactly on the requests where
this makes no difference.
-/

namespace HybridX509.Oracle

open Lib

variable {parseFromRfc3339 : String → Bool} {request : VerificationRequest}
  {answer : VerificationResult}

/-- The request carries no item of the kind for the certificate. -/
def Absent (request : VerificationRequest) (kind : EvidenceKind) (certificate : CertificateNode) :
    Prop :=
  ∀ item ∈ request.evidence, item.certificateId = certificate.id → item.kind ≠ kind

/-- The identifier under which missing evidence is reported. -/
def missingLabel (kind : EvidenceKind) (certificate : CertificateNode) : String :=
  certificate.id ++ ":" ++ kind.debug

/-- The report has an entry with this identifier and check name. -/
def Reported (entries : List FailedCheck) (evidenceId check : String) : Prop :=
  ∃ entry ∈ entries, entry.evidenceId = evidenceId ∧ entry.check = check

/-- An item that is required of an in-scope certificate. -/
structure RequiredItem (request : VerificationRequest) (item : Evidence) : Prop where
  member : item ∈ request.evidence
  required : ∃ certificate ∈ certificates request,
    item.certificateId = certificate.id ∧ certificate.requires item.kind = true

/-! ## What the report contains -/

theorem any_evidenceOfKind_iff (wf : WellFormed parseFromRfc3339 request) {kind : EvidenceKind}
    {certificate : CertificateNode} (inside : certificate ∈ certificates request) :
    (evidenceOfKind request kind).any (·.certificateId == certificate.id) = false ↔
      Absent request kind certificate := by
  have filtered := wf.evidenceOfKind_filter inside kind
  have none : (evidenceOfKind request kind).any (·.certificateId == certificate.id) = false ↔
      itemsOf request kind certificate = [] := by
    rw [← filtered, List.filter_eq_nil_iff]
    simp
  rw [none, itemsOf, List.filter_eq_nil_iff]
  simp [Absent]

theorem mem_missingEvidenceChecks (wf : WellFormed parseFromRfc3339 request) {kind : EvidenceKind}
    {entry : FailedCheck} :
    entry ∈ missingEvidenceChecks (requiredCertificates request kind) (evidenceOfKind request kind)
        kind ↔
      ∃ certificate ∈ certificates request, certificate.requires kind = true ∧
        Absent request kind certificate ∧
        entry = ⟨missingLabel kind certificate, "present", .fail, .observed⟩ := by
  simp only [missingEvidenceChecks, List.mem_map, List.mem_filter, Bool.not_eq_true',
    mem_requiredCertificates]
  constructor
  · rintro ⟨certificate, ⟨⟨inside, required⟩, none⟩, rfl⟩
    exact ⟨certificate, inside, required, (any_evidenceOfKind_iff wf inside).mp none, rfl⟩
  · rintro ⟨certificate, inside, required, absent, rfl⟩
    exact ⟨certificate, ⟨⟨inside, required⟩, (any_evidenceOfKind_iff wf inside).mpr absent⟩, rfl⟩

theorem mem_failedItemChecks {item : Evidence} {entry : FailedCheck} :
    entry ∈ failedItemChecks item ↔ ∃ check ∈ item.checks, reported check.2 = true ∧
      entry = ⟨item.id, check.1, check.2.state, check.2.confidence⟩ := by
  simp only [failedItemChecks, List.mem_map, List.mem_filter, and_assoc]
  exact exists_congr fun check => and_congr_right fun _ => and_congr_right fun _ => eq_comm

theorem mem_failedChecks (wf : WellFormed parseFromRfc3339 request) {entry : FailedCheck} :
    entry ∈ failedChecks request ↔
      (∃ item ∈ inScope request, entry ∈ failedItemChecks item) ∨
      (∃ kind, ∃ certificate ∈ certificates request, certificate.requires kind = true ∧
        Absent request kind certificate ∧
        entry = ⟨missingLabel kind certificate, "present", .fail, .observed⟩) ∨
      entry ∈ failedPairChecks request := by
  have kinds (p : EvidenceKind → Prop) : (∃ kind, p kind) ↔ p .classical ∨ p .postQuantum := by
    constructor
    · intro ⟨kind, holds⟩
      cases kind with
      | classical => exact .inl holds
      | postQuantum => exact .inr holds
    · rintro (holds | holds)
      · exact ⟨_, holds⟩
      · exact ⟨_, holds⟩
  rw [failedChecks, List.mem_append, List.mem_append, List.mem_append,
    mem_missingEvidenceChecks wf, mem_missingEvidenceChecks wf, List.mem_flatMap, kinds]
  simp only [or_assoc]

theorem RequiredItem.mem_inScope (wf : WellFormed parseFromRfc3339 request) {item : Evidence}
    (required : RequiredItem request item) : item ∈ inScope request := by
  obtain ⟨certificate, inside, named, _⟩ := required.required
  obtain ⟨inPath, included⟩ := mem_certificates.mp inside
  have position := (wf.evidenceFor required.member inPath named).position
  simp [inScope, required.member, ← position, included]

/-! ## Completeness -/

theorem missing_reported (wf : WellFormed parseFromRfc3339 request) {kind : EvidenceKind}
    {certificate : CertificateNode} (inside : certificate ∈ certificates request)
    (required : certificate.requires kind = true) (absent : Absent request kind certificate) :
    Reported (failedChecks request) (missingLabel kind certificate) "present" :=
  ⟨_, (mem_failedChecks wf).mpr (.inr (.inl ⟨kind, certificate, inside, required, absent, rfl⟩)),
    rfl, rfl⟩

theorem checks_names (item : Evidence) :
    item.checks.map Prod.fst = ["present", "recognized", "signature", "binding", "path", "validity",
      "revocation", "decision-sensitive-for-fixture"] := rfl

/-- An entry under an item's identifier comes from the check itself, or from
    missing evidence whose label happens to be that identifier. -/
theorem check_reported_iff (wf : WellFormed parseFromRfc3339 request) {item : Evidence}
    (inside : item ∈ inScope request) {check : String × CheckResult}
    (performed : check ∈ item.checks) :
    Reported (failedChecks request) item.id check.1 ↔ reported check.2 = true ∨
      check.1 = "present" ∧ ∃ kind, ∃ certificate ∈ certificates request,
        certificate.requires kind = true ∧ Absent request kind certificate ∧
          missingLabel kind certificate = item.id := by
  have distinct : (item.checks.map Prod.fst).Nodup := by
    rw [checks_names]
    decide
  constructor
  · intro ⟨entry, listed, sameId, sameCheck⟩
    rcases (mem_failedChecks wf).mp listed with
      ⟨other, otherInside, fromItem⟩ | ⟨kind, certificate, covered, required, absent, rfl⟩ | fromPair
    · obtain ⟨check', performed', shown, rfl⟩ := mem_failedItemChecks.mp fromItem
      obtain rfl : other = item := List.inj_on_of_nodup_map wf.evidenceIds
        (List.mem_filter.mp otherInside).1 (List.mem_filter.mp inside).1 sameId
      obtain rfl : check' = check :=
        List.inj_on_of_nodup_map distinct performed' performed sameCheck
      exact .inl shown
    · exact .inr ⟨sameCheck.symm, kind, certificate, covered, required, absent, sameId⟩
    · obtain ⟨pair, _, rfl⟩ := List.mem_map.mp fromPair
      have named : check.1 ∈ item.checks.map Prod.fst := List.mem_map_of_mem performed
      rw [checks_names, ← sameCheck] at named
      exact absurd named (by simp)
  · rintro (shown | ⟨present, kind, certificate, covered, required, absent, label⟩)
    · exact ⟨_, (mem_failedChecks wf).mpr (.inl ⟨item, inside,
        mem_failedItemChecks.mpr ⟨check, performed, shown, rfl⟩⟩), rfl, rfl⟩
    · rw [present, ← label]
      exact missing_reported wf covered required absent

/-- The filter of the report against the decision: they differ only on checks
    that are not applicable. -/
theorem reported_iff_of_not_pass {mode : RevocationPolicyMode} {check : String × CheckResult}
    (objects : checkGrade mode check ≠ .pass) :
    reported check.2 = true ↔ check.2.state ≠ .notApplicable := by
  rcases check with ⟨name, state, confidence⟩
  revert objects
  simp only [checkGrade]
  cases state <;> cases confidence <;> simp [reported, requiredCheckState]

/-- Everything the decision holds against required evidence is reported. -/
structure ReportComplete (request : VerificationRequest) (entries : List FailedCheck) : Prop where
  missing : ∀ certificate ∈ certificates request, ∀ kind, certificate.requires kind = true →
    Absent request kind certificate →
      Reported entries (missingLabel kind certificate) "present"
  checks : ∀ item, RequiredItem request item → ∀ check ∈ item.checks,
    requiredCheckState check.2 (allowNotApplicable request.revocationPolicy.mode check.1) ≠ .pass →
      Reported entries item.id check.1

/-- The report is complete exactly when no required item has a check that is not
    applicable without passing; a `present` check of such an item may still be
    found under the label of other, missing evidence. -/
theorem report_complete_iff (returned : evaluate parseFromRfc3339 request = .ok answer)
    (supported : answer.policyVerdict ≠ .unsupported) :
    ReportComplete request answer.failedChecks ↔
      ∀ item, RequiredItem request item → ∀ check ∈ item.checks,
        check.2.state = .notApplicable →
        requiredCheckState check.2 (allowNotApplicable request.revocationPolicy.mode check.1) ≠
          .pass →
        check.1 = "present" ∧ ∃ kind, ∃ certificate ∈ certificates request,
          certificate.requires kind = true ∧ Absent request kind certificate ∧
            missingLabel kind certificate = item.id := by
  obtain ⟨wf, outcome⟩ := evaluate_ok_iff.mp returned
  have entries : answer.failedChecks = failedChecks request := by
    cases outcome with
    | unsupported => exact absurd rfl supported
    | decided => rfl
  rw [entries]
  constructor
  · intro complete item required check performed notApplicable objects
    have inside := required.mem_inScope wf
    rcases (check_reported_iff wf inside performed).mp
      (complete.checks item required check performed objects) with shown | collision
    · exact absurd notApplicable ((reported_iff_of_not_pass objects).mp shown)
    · exact collision
  · intro harmless
    refine ⟨fun certificate inside kind required absent =>
      missing_reported wf inside required absent, fun item required check performed objects => ?_⟩
    rw [check_reported_iff wf (required.mem_inScope wf) performed]
    by_cases notApplicable : check.2.state = .notApplicable
    · exact .inr (harmless item required check performed notApplicable objects)
    · exact .inl ((reported_iff_of_not_pass objects).mpr notApplicable)

/-- The fixture with a post-quantum signature check that is not applicable. -/
def notApplicableSignatureRequest : VerificationRequest :=
  { Fixture.request .p2RequiredHybrid with
    evidence := [Fixture.evidence "classical" .classical,
      { Fixture.evidence "pq" .postQuantum with signature := .observed .notApplicable }] }

theorem notApplicableSignatureRequest_unreported :
    ∃ answer, evaluate Fixture.acceptTime notApplicableSignatureRequest = .ok answer ∧
      answer.policyVerdict = .reject ∧
      ¬ ReportComplete notApplicableSignatureRequest answer.failedChecks := by
  obtain ⟨answer, returned, view⟩ := answer_of_map
    (by decide +kernel : (evaluate Fixture.acceptTime notApplicableSignatureRequest).map
      (fun answer => (answer.policyVerdict, answer.failedChecks)) = .ok (.reject, []))
  obtain ⟨verdict, entries⟩ := Prod.mk.inj view
  refine ⟨answer, returned, verdict, fun complete => ?_⟩
  obtain ⟨entry, listed, _⟩ := complete.checks _
    ⟨List.mem_cons_of_mem _ List.mem_cons_self, _, List.mem_cons_self, rfl, rfl⟩
    ("signature", .observed .notApplicable) (by decide) (by decide)
  simp [entries] at listed

/-- The fixture with a post-quantum signature check that failed. -/
def failedSignatureRequest : VerificationRequest :=
  { Fixture.request .p2RequiredHybrid with
    evidence := [Fixture.evidence "classical" .classical,
      { Fixture.evidence "pq" .postQuantum with signature := .observed .fail }] }

theorem failedSignatureRequest_reported :
    ∃ answer, evaluate Fixture.acceptTime failedSignatureRequest = .ok answer ∧
      answer.policyVerdict = .reject ∧
      ReportComplete failedSignatureRequest answer.failedChecks := by
  obtain ⟨answer, returned, reject⟩ := answer_of_map
    (by decide +kernel : (evaluate Fixture.acceptTime failedSignatureRequest).map
      (·.policyVerdict) = .ok .reject)
  have supported : answer.policyVerdict ≠ .unsupported := by rw [reject]; decide
  refine ⟨answer, returned, reject, (report_complete_iff returned supported).mpr ?_⟩
  intro item required check performed notApplicable
  have applicable : ∀ item ∈ failedSignatureRequest.evidence, ∀ check ∈ item.checks,
      check.2.state ≠ .notApplicable := by decide
  exact absurd notApplicable (applicable item required.member check performed)

end HybridX509.Oracle
