import HybridX509.Analysis.MatrixEntries
import Mathlib.Data.List.Destutter

/-! # What an entry of the matrix rests on

The process checks of an entry against the verdict it shows, the images that the
provenance lists against those that were run, and the certificate that a damaged row was
run on against that of the valid row.
-/

namespace HybridX509.Analysis.Matrix

open Lib X509 Adapters Adapters.Stacks Adapters.BouncyCastle Adapters.ValidationTime

section Evidence

variable {sys : MatrixSystem} {config : AvailableMatrixConfig} {report : MatrixReport}

/-! ## Process checks -/

theorem processRecordCheck_pass_iff {record : ProcessRecord} {verdict : StackVerdict} :
    (processRecordCheck record verdict).state = .pass ↔
      record.statusCode ≠ none ∧ record.Complete ∧
        (record.statusCode = some 0 ∨ verdict ≠ .indeterminate) := by
  simp only [processRecordCheck, ProcessRecord.Complete]
  split
  · next passed => simpa [and_assoc, Option.isSome_iff_ne_none] using passed
  · next failed =>
      refine iff_of_false nofun ?_
      simpa [and_assoc, Option.isSome_iff_ne_none] using failed

/-- In every entry of a returned matrix: the version check fails only where a stream of the
    version command was cut; acceptance passes the verification check; another conclusive
    verdict passes it unless the process was ended by a signal; and an indeterminate one
    passes it exactly when the process ended well and its output was not understood. -/
theorem processExecution_of_verdict (returned : runAvailableMatrix sys config = .ok report)
    {shown : MatrixEntry} (member : shown ∈ report.entries) :
    (shown.processExecution.version.state = .pass ↔ shown.report.version.Complete) ∧
      (shown.report.observation.verdict = .accept →
        shown.processExecution.verification.state = .pass) ∧
      (shown.report.observation.verdict ≠ .indeterminate →
        (shown.processExecution.verification.state = .pass ↔
          shown.report.verification.statusCode ≠ none)) ∧
      (shown.report.observation.verdict = .indeterminate →
        (shown.processExecution.verification.state = .pass ↔
          shown.report.verification.Complete ∧
            shown.report.verification.statusCode = some 0)) := by
  obtain ⟨cases, controls, chameleons, rows⟩ := rows_of_runAvailableMatrix returned
  obtain ⟨case, variant, view, leaf, call, adapterReport, rfl, -, execution, verified, reported⟩ :=
    rows.reports_of_mem member
  have ran := ran_of_verify verified
  have careful : Careful (call.classify view.toStackSystem) := call.careful_classify
  obtain ⟨observation, -, -, version, verification, -⟩ := report_eq reported
  have concluded : adapterReport.observation.verdict ≠ .indeterminate →
      adapterReport.verification.Complete := by
    rw [observation, verification, ran.verdict]
    exact careful.conclusive _
  have accepted : adapterReport.observation.verdict = .accept →
      adapterReport.verification.statusCode = some 0 := by
    rw [observation, verification, ran.verdict]
    exact careful.accepted _
  have versionStatus : adapterReport.version.statusCode = some 0 := by
    rw [version]
    exact ran.versionEnded.2
  simp only [entry, processRecordCheck_pass_iff]
  refine ⟨by simp [versionStatus], ?_, ?_, ?_⟩
  · intro accept
    have conclusive : adapterReport.observation.verdict ≠ .indeterminate := by simp [accept]
    exact ⟨by simp [accepted accept], concluded conclusive, .inr conclusive⟩
  · intro conclusive
    exact ⟨And.left, fun status => ⟨status, concluded conclusive, .inr conclusive⟩⟩
  · intro indeterminate
    simp only [indeterminate, ne_eq, not_true_eq_false, or_false]
    exact ⟨fun passed => passed.2, fun ended => ⟨by simp [ended.2], ended⟩⟩

/-- An entry that shows acceptance. -/
theorem processExecution_of_verdict_accepting : ∃ report,
    runAvailableMatrix Fixture.system Fixture.config = .ok report ∧
      ∃ shown ∈ report.entries, shown.processExecution.verification.state = .pass := by
  obtain ⟨report, returned, shown, member, accepted⟩ := Fixture.returns
  exact ⟨report, returned, shown, member,
    (processExecution_of_verdict returned member).2.1 accepted⟩

/-! ## Images -/

theorem pairwise_lt_images :
    (((images config).insertionSort (· ≤ ·)).destutter (· ≠ ·)).Pairwise (· < ·) := by
  have sorted : ((images config).insertionSort (· ≤ ·)).Pairwise (· ≤ ·) :=
    List.pairwise_insertionSort _ _
  rw [sorted.destutter_eq_dedup]
  refine ((sorted.sublist (List.dedup_sublist _)).and (List.nodup_dedup _)).imp ?_
  intro image other both
  exact lt_of_le_of_ne both.1 both.2

theorem mem_images {image : String} :
    image ∈ ((images config).insertionSort (· ≤ ·)).destutter (· ≠ ·) ↔ image ∈ images config := by
  have sorted : ((images config).insertionSort (· ≤ ·)).Pairwise (· ≤ ·) :=
    List.pairwise_insertionSort _ _
  rw [sorted.destutter_eq_dedup, List.mem_dedup, List.mem_insertionSort]

/-- What `docker image inspect` said of an image. -/
def Inspected (sys : MatrixSystem) (config : AvailableMatrixConfig)
    (listed : AdapterImageProvenance) : Prop :=
  ∃ output, sys.command config.docker
      ["image", "inspect", "--format", "\x7b\x7b.Id\x7d\x7d", listed.image] = .ok output ∧
    output.success = true ∧ listed.contentDigest = trimmed output.stdout

theorem inspected_of_mapM {names : List String} {listed : List AdapterImageProvenance}
    (all : names.mapM (inspectImage sys config) = .ok listed) :
    listed.map (·.image) = names ∧ ∀ provenance ∈ listed, Inspected sys config provenance := by
  induction names generalizing listed with
  | nil =>
      obtain rfl := pure_ok_iff.mp all
      simp
  | cons name rest ih =>
      simp only [List.mapM_cons, inspectImage, bind_ok_iff, mapErr_ok_iff, exists_unit_iff,
        failIf_ok_iff, pure_ok_iff, Bool.not_eq_false] at all
      obtain ⟨_, ⟨output, ran, success, rfl⟩, others, all, rfl⟩ := all
      obtain ⟨names, inspected⟩ := ih all
      refine ⟨by rw [List.map_cons, names], ?_⟩
      rintro provenance (_ | ⟨_, inRest⟩)
      · exact ⟨output, ran, success, rfl⟩
      · exact inspected provenance inRest

/-- The images of a row, stack by stack. -/
def rowImages (config : AvailableMatrixConfig) : List String :=
  [config.opensslStudyImage, config.opensslCurrentImage, config.oqsProviderImage,
    config.nssStudyImage, config.nssCurrentImage, config.bouncyCastleStudyImage,
    config.bouncyCastleCurrentImage, config.wolfsslImage, config.wolfsslImage,
    config.gnutlsCurrentImage, config.gnutlsStudyImage, config.goStudyImage,
    config.goCurrentImage, config.pycaStudyImage, config.pycaCurrentImage]

theorem rowImages_subset_images : rowImages config ⊆ images config := by
  simp [rowImages, images]

/-- Every stack of a row runs in one of the configured images. -/
theorem isolation_of_mem_stackCalls (view : MatrixSystem) {case : Case}
    {root issuer leaf : String} {call : StackCall}
    (member : call ∈ stackCalls config case root issuer leaf) :
    ∃ image ∈ images config, ∃ mounts,
      call.isolation view.toStackSystem = some (image, mounts) := by
  have row : (stackCalls config case root issuer leaf).map (fun call =>
      (call.isolation view.toStackSystem).map Prod.fst) = (rowImages config).map some := rfl
  have shown := List.mem_map_of_mem (f := fun call : StackCall =>
    (call.isolation view.toStackSystem).map Prod.fst) member
  rw [row] at shown
  obtain ⟨image, inRow, same⟩ := List.mem_map.mp shown
  obtain ⟨⟨_, mounts⟩, isolation, rfl⟩ := Option.map_eq_some_iff.mp same.symm
  exact ⟨_, rowImages_subset_images inRow, mounts, isolation⟩

/-- The provenance of a returned matrix lists every configured image once, in order, each
    with the digest that Docker gave, and every entry was run in a listed image; a
    publication was made from a clean tree. -/
theorem provenance_accounts (returned : runAvailableMatrix sys config = .ok report) :
    (config.publication = true → report.provenance.sourceClean = true) ∧
      (report.provenance.adapterImages.map (·.image)).Pairwise (· < ·) ∧
      (∀ image, image ∈ report.provenance.adapterImages.map (·.image) ↔ image ∈ images config) ∧
      (∀ listed ∈ report.provenance.adapterImages, Inspected sys config listed) ∧
      ∀ shown ∈ report.entries, ∃ listed ∈ report.provenance.adapterImages,
        ∃ mounts : List (String × String), ∃ sources command, shown.report.arguments.map .utf8 =
          runFlags ++ mountOptions mounts sources ++ [.utf8 "--", .utf8 listed.image] ++ command := by
  obtain ⟨cases, controls, chameleons, rows⟩ := rows_of_runAvailableMatrix returned
  have collected := rows.provenance
  simp only [collectProvenance, ensurePublicationSourceClean, bind_ok_iff, exists_unit_iff,
    failIf_ok_iff, pure_ok_iff, not_and, Bool.not_eq_false] at collected
  obtain ⟨commit, -, tree, -, status, -, clean, listed, inspected, same⟩ := collected
  obtain ⟨names, digests⟩ := inspected_of_mapM inspected
  rw [← same]
  refine ⟨clean, ?_, ?_, digests, ?_⟩
  · rw [names]
    exact pairwise_lt_images
  · intro image
    rw [names]
    exact mem_images
  · intro shown member
    obtain ⟨case, variant, view, leaf, call, adapterReport, rfl, inCalls, execution, verified,
      reported⟩ := rows.reports_of_mem member
    obtain ⟨image, configured, mounts, isolation⟩ := isolation_of_mem_stackCalls view inCalls
    obtain ⟨sources, command, layout, -⟩ := (ran_of_verify verified).arguments isolation
    obtain ⟨-, -, arguments, -⟩ := report_eq reported
    have inNames := mem_images.mpr configured
    rw [← names] at inNames
    obtain ⟨provenance, inListed, rfl⟩ := List.mem_map.mp inNames
    exact ⟨provenance, inListed, mounts, sources, command, arguments.symm.trans layout⟩

/-- A publication of the accepting run. -/
theorem provenance_accounts_accepting : ∃ report,
    runAvailableMatrix Fixture.system Fixture.config = .ok report ∧
      report.provenance.sourceClean = true ∧
      "wolfssl" ∈ report.provenance.adapterImages.map (·.image) := by
  obtain ⟨report, returned, -⟩ := Fixture.returns
  obtain ⟨clean, -, listed, -⟩ := provenance_accounts returned
  exact ⟨report, returned, clean rfl, (listed "wolfssl").mpr (by decide)⟩

/-! ## Damaged leaves -/

/-- The damaged certificate is what the file of its row is read as. -/
theorem readDer_withFile {decode : String → Option (List UInt8)}
    (base64 : Base64.Standard sys.base64Encode decode) {path : String} {mutated der : List UInt8}
    {limit : Nat} (reads : sys.parseX509Pem (bytes (encodeCertificatePem sys.base64Encode mutated)) =
      parseX509Pem decode (bytes (encodeCertificatePem sys.base64Encode mutated)))
    (read : readDer (sys.withFile path (bytes (encodeCertificatePem sys.base64Encode
      mutated))).toLibrary path .certificate limit = .ok der) : der = mutated := by
  let text := bytes (encodeCertificatePem sys.base64Encode mutated)
  have opened : (sys.withFile path text).openFile path = .ok ⟨true, _, .ok text⟩ := if_pos rfl
  have parsed : (sys.withFile path text).parseX509Pem text =
      some ([], ⟨"CERTIFICATE", mutated⟩) := by
    show sys.parseX509Pem text = _
    rw [reads, parseX509Pem_encodeCertificatePem base64]
  simp only [readDer, bind_ok_iff, mapErr_ok_iff, readBoundedFile_ok_iff] at read
  obtain ⟨_, ⟨file, found, -, -, contents, fits⟩, decoded⟩ := read
  obtain rfl := ok_unique opened found
  obtain rfl := ok_unique rfl contents
  rw [decodePem_of_parsed fits parsed] at decoded
  simpa [PemKind.labels] using decoded.symm

/-- Every stack of a row is given the leaf of the row, as a presented path. -/
theorem leaf_of_mem_stackCalls (view : MatrixSystem) {case : Case} {root issuer leaf : String}
    {call : StackCall} (member : call ∈ stackCalls config case root issuer leaf) :
    call.leaf view.toStackSystem = leaf ∧ call.PresentsPath := by
  have leaves : (stackCalls config case root issuer leaf).map (·.leaf view.toStackSystem) =
      List.replicate 15 leaf := rfl
  have presented : ∀ call ∈ stackCalls config case root issuer leaf, call.PresentsPath := by
    simp [stackCalls, StackCall.PresentsPath, bouncyCastleConfig]
  refine ⟨?_, presented call member⟩
  have shown := List.mem_map_of_mem (f := (·.leaf view.toStackSystem)) member
  rw [leaves] at shown
  exact List.eq_of_mem_replicate shown

/-- An entry of a row begins its path with the hash of the row's leaf. -/
theorem leafHash_of_mem_entries {view : MatrixSystem} {leaf : String} {row : Row}
    (ran : row.Ran config view leaf) {shown : MatrixEntry} (member : shown ∈ row.entries) :
    ∃ der, readDer view.toLibrary leaf .certificate MAX_INPUT_BYTES = .ok der ∧
      shown.report.observation.certificationPathDerSha256.head? =
        some (hexLower (view.sha256 der)) := by
  obtain ⟨adapterReport, inReports, rfl⟩ := List.mem_map.mp member
  obtain ⟨call, inCalls, execution, verified, reported⟩ := exists_of_mem_forall₂ ran inReports
  obtain ⟨rfl, presents⟩ := leaf_of_mem_stackCalls (view.inRow row.case row.variant) inCalls
  have called := ran_of_verify verified
  have hashed := called.path (called.presented presents)
  obtain ⟨observation, -⟩ := report_eq reported
  simp only [selectedPathHashes, certificateSha256, bind_ok_iff, mapErr_ok_iff, pure_ok_iff,
    Prod.mk.injEq] at hashed
  obtain ⟨_, ⟨der, read, rfl⟩, intermediates, -, anchor, -, path, -⟩ := hashed
  refine ⟨der, read, ?_⟩
  show adapterReport.observation.certificationPathDerSha256.head? = _
  rw [observation, ← path, List.head?_cons]
  rfl

variable {cases controls chameleons : List (List Row)}

/-- The rows are told apart by the case and the variant of their entries. -/
theorem Rows.row_unique (rows : Rows sys config report cases controls chameleons) {row other : Row}
    (member : row ∈ (cases ++ controls ++ chameleons).flatten)
    (otherMember : other ∈ (cases ++ controls ++ chameleons).flatten)
    (sameCase : row.case.id = other.case.id) (sameVariant : row.variant = other.variant) :
    row = other := by
  have distinct := plan_keys_nodup
  rw [← rows.keys, List.map_map] at distinct
  exact List.inj_on_of_nodup_map distinct member otherMember (Prod.ext sameCase sameVariant)

/-- The damaged row of a case was run on the certificate of its valid row with one bit of
    the signature changed: the entries of the two begin their paths with the hashes of the
    two certificates, which are both complete and have the same signed part. -/
theorem damaged_leaf {decode : String → Option (List UInt8)}
    (base64 : Base64.Standard sys.base64Encode decode)
    (reads : ∀ der, sys.parseX509Pem (bytes (encodeCertificatePem sys.base64Encode der)) =
      parseX509Pem decode (bytes (encodeCertificatePem sys.base64Encode der)))
    (returned : runAvailableMatrix sys config = .ok report) {case : Case} (listed : case ∈ CASES) :
    ∃ der certificate changed mutated, sys.certificateFromDer der = some ([], certificate) ∧
      sys.certificateFromDer mutated = some ([], changed) ∧
      changed.tbsRaw = certificate.tbsRaw ∧ mutated ≠ der ∧
      mutated = der.modify (certificate.signatureStart +
        (certificate.signatureValue.data.length - 1)) (· ^^^ 1) ∧
      ∀ shown ∈ report.entries, shown.caseId = case.id →
        (shown.variant = .valid →
          shown.report.observation.certificationPathDerSha256.head? =
            some (hexLower (sys.sha256 der))) ∧
        (shown.variant = .invalidCertificateSignature →
          shown.report.observation.certificationPathDerSha256.head? =
            some (hexLower (sys.sha256 mutated))) := by
  obtain ⟨cases, controls, chameleons, rows⟩ := rows_of_runAvailableMatrix returned
  obtain ⟨group, inCases, valid, damaged, der, mutated, path, rfl, validRan, read, corrupted,
    damagedRan⟩ := exists_of_mem_forall₂_left rows.casesRan listed
  have inRows : ∀ row ∈ [Row.mk case .valid valid, ⟨case, .invalidCertificateSignature, damaged⟩],
      row ∈ (cases ++ controls ++ chameleons).flatten :=
    fun row member => List.mem_flatten.mpr ⟨_, by simp [inCases], member⟩
  simp only [corruptOuterSignature, bind_ok_iff, exists_unit_iff, failIf_ok_iff, orFail_ok_iff,
    parseComplete_ok_iff, pure_ok_iff, Prod.exists, not_or, not_not, Nat.not_le] at corrupted
  obtain ⟨certificate, parsed, -, within, _, changed, reparsed, ⟨rfl, sameTbs⟩, rfl⟩ := corrupted
  refine ⟨der, certificate, changed, _, parsed, reparsed, sameTbs, modify_flip_ne within, rfl, ?_⟩
  intro shown member sameCase
  rw [rows.entries] at member
  obtain ⟨row, inRow, inEntries⟩ := List.mem_flatMap.mp member
  have ofRow : shown.caseId = row.case.id ∧ shown.variant = row.variant := by
    obtain ⟨_, -, rfl⟩ := List.mem_map.mp inEntries
    exact ⟨rfl, rfl⟩
  rw [ofRow.1] at sameCase
  rw [ofRow.2]
  constructor
  · intro variant
    obtain rfl := rows.row_unique inRow (inRows _ List.mem_cons_self) sameCase variant
    obtain ⟨_, again, hashed⟩ := leafHash_of_mem_entries validRan inEntries
    rwa [readDer_unique again read] at hashed
  · intro variant
    have second := inRows ⟨case, .invalidCertificateSignature, damaged⟩ (by simp)
    obtain rfl := rows.row_unique inRow second sameCase variant
    obtain ⟨_, again, hashed⟩ := leafHash_of_mem_entries damagedRan inEntries
    rwa [readDer_withFile base64 (reads _) again] at hashed

/-- The classical case of the accepting run. -/
theorem damaged_leaf_classical : ∃ report der mutated,
    runAvailableMatrix Fixture.system Fixture.config = .ok report ∧ mutated ≠ der ∧
      ∀ shown ∈ report.entries, shown.caseId = "classical" →
        shown.variant = .invalidCertificateSignature →
        shown.report.observation.certificationPathDerSha256.head? =
          some (hexLower (Fixture.system.sha256 mutated)) := by
  obtain ⟨report, returned, -⟩ := Fixture.returns
  have listed : classical ∈ CASES := by decide
  obtain ⟨der, -, -, mutated, -, -, -, different, -, hashes⟩ :=
    damaged_leaf Base64.standard (fun _ => rfl) returned listed
  exact ⟨report, der, mutated, returned, different,
    fun shown member sameCase => (hashes shown member sameCase).2⟩

end Evidence

end HybridX509.Analysis.Matrix
