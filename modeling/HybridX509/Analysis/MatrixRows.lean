import HybridX509.Analysis.Matrix

/-! # What a matrix report holds

A run that returns has gone through every row of the plan, and each row through every
stack. The cells of the report, their identifiers and their process checks follow from
that and from the specification that all adapters share.
-/

namespace HybridX509.Analysis.Matrix

open Lib X509 Adapters Adapters.Stacks Adapters.BouncyCastle Adapters.ValidationTime

/-! ## Rows -/

/-- The calls of `run_case`, in their order. -/
def stackCalls (config : AvailableMatrixConfig) (case : Case) (root issuer leaf : String) :
    List StackCall :=
  [.container (.openSsl (openSslConfig config root issuer leaf config.opensslStudyImage)
      "openssl-study" .study [.utf8 "--default-only"]),
    .container (.openSsl (openSslConfig config root issuer leaf config.opensslCurrentImage)
      "openssl-current" .current []),
    .container (.openSsl (openSslConfig config root issuer leaf config.oqsProviderImage)
      "oqs-provider" .currentAndStudy []),
    .container (.nss (nssConfig config root issuer leaf .study98 config.nssStudyImage)),
    .container (.nss (nssConfig config root issuer leaf .current126 config.nssCurrentImage)),
    .bouncyCastle (bouncyCastleConfig config root issuer leaf config.bouncyCastleStudyImage),
    .bouncyCastle (bouncyCastleConfig config root issuer leaf config.bouncyCastleCurrentImage),
    .container (.wolfSsl (wolfSslConfig config case root issuer leaf .default)),
    .container (.wolfSsl (wolfSslConfig config case root issuer leaf .dualAlgorithm)),
    .container (.gnuTls (gnuTlsConfig config root issuer leaf config.gnutlsCurrentImage)
      "gnutls-current" .current),
    .container (.gnuTls (gnuTlsConfig config root issuer leaf config.gnutlsStudyImage)
      "gnutls-study" .study),
    .goContainer (goConfig config case root issuer leaf .study1264 config.goStudyImage),
    .goContainer (goConfig config case root issuer leaf .current1266 config.goCurrentImage),
    .pycaContainer (pycaConfig config case root issuer leaf .study49 config.pycaStudyImage),
    .pycaContainer (pycaConfig config case root issuer leaf .current50 config.pycaCurrentImage)]

/-- A report that a call gives. -/
def Reports (view : MatrixSystem) (call : StackCall) (report : AdapterReport) : Prop :=
  ∃ execution, call.verify view.toStackSystem = .ok execution ∧
    execution.report view.toSystem = .ok report

/-- The reports of one case in one variant. -/
structure Row where
  case : Case
  variant : MatrixVariant
  reports : List AdapterReport

def Row.entries (row : Row) : List MatrixEntry := row.reports.map (entry row.case row.variant)

/-- A row that was run on a leaf, over a file system. -/
def Row.Ran (config : AvailableMatrixConfig) (view : MatrixSystem) (leaf : String) (row : Row) :
    Prop :=
  List.Forall₂ (Reports (view.inRow row.case row.variant)) (stackCalls config row.case (root config)
    (join config.fixtures row.case.issuer) leaf) row.reports

section Rows

variable {view : MatrixSystem} {config : AvailableMatrixConfig} {case : Case}
  {root issuer leaf : String}

theorem reports_of_reported {ε : Type} {wrap : ε → MatrixError} {inject : ε → AdapterError}
    {ran : Except ε AdapterExecution} {call : StackCall} {report : AdapterReport}
    (same : call.verify view.toStackSystem = mapErr inject ran)
    (returned : reported view wrap ran = .ok report) : Reports view call report := by
  simp only [reported, bind_ok_iff, mapErr_ok_iff] at returned
  obtain ⟨execution, rfl, reported⟩ := returned
  exact ⟨execution, same, reported⟩

theorem stackReports_calls :
    List.Forall₂ (fun ran call => ∀ report, ran = .ok report → Reports view call report)
      (stackReports view config case root issuer leaf)
      (stackCalls config case root issuer leaf) := by
  simp only [stackReports, stackCalls, List.map_cons, List.map_nil, List.cons_append,
    List.nil_append]
  repeat' refine .cons (fun _ => reports_of_reported rfl) ?_
  exact .nil

theorem reports_of_stackReports {runs : List (Except MatrixError AdapterReport)}
    {calls : List StackCall} {reports : List AdapterReport}
    (related : List.Forall₂ (fun ran call => ∀ report, ran = .ok report → Reports view call report)
      runs calls)
    (returned : List.Forall₂ (fun ran report => ran = .ok report) runs reports) :
    List.Forall₂ (Reports view) calls reports := by
  induction related generalizing reports with
  | nil =>
      cases returned
      exact .nil
  | cons first others ih =>
      cases returned with
      | cons same rest => exact .cons (first _ same) (ih rest)

/-- A run of a case appends the entries of a row. -/
theorem runCase_ok {entries entries' : List MatrixEntry} {variant : MatrixVariant}
    (returned : runCase view config case root issuer leaf entries variant = .ok entries') :
    ∃ reports, List.Forall₂ (Reports (view.inRow case variant))
        (stackCalls config case root issuer leaf) reports ∧
      entries' = entries ++ Row.entries ⟨case, variant, reports⟩ := by
  have pass : ∀ (collected : List MatrixEntry) (ran : Except MatrixError AdapterReport) collected',
      (do let report ← ran; return push collected case variant report) = .ok collected' →
        ∃ report, ran = .ok report ∧ collected' = collected ++ [entry case variant report] := by
    intro collected ran collected' pushed
    obtain ⟨report, returned, same⟩ := bind_ok_iff.mp pushed
    exact ⟨report, returned, (pure_ok_iff.mp same).symm⟩
  obtain ⟨reports, ran, same⟩ := foldlM_append_ok pass returned
  refine ⟨reports, reports_of_stackReports stackReports_calls ran, ?_⟩
  rw [same, Row.entries, List.map_eq_flatMap]

end Rows

/-! ## The run -/

/-- The rows of the matrix, in their order. -/
def plan : List (Case × MatrixVariant) :=
  (CASES.flatMap fun case => [(case, .valid), (case, .invalidCertificateSignature)])
    ++ CONTROLS.map (fun control => (control.1, control.2.1))
    ++ [(chameleon, .publishedStudyFixture), (chameleon, .invalidHybridEvidenceSignature)]

section Run

variable {sys : MatrixSystem} {config : AvailableMatrixConfig} {report : MatrixReport}

/-- The two rows of a case: the second is about the leaf of the first with its outer
    signature damaged, in a file that only this row can see. -/
def ValidAndDamaged (sys : MatrixSystem) (config : AvailableMatrixConfig) (case : Case)
    (rows : List Row) : Prop :=
  ∃ valid damaged der mutated path, rows = [⟨case, .valid, valid⟩,
      ⟨case, .invalidCertificateSignature, damaged⟩] ∧
    Row.Ran config sys (validLeaf config case) ⟨case, .valid, valid⟩ ∧
    readDer sys.toLibrary (validLeaf config case) .certificate (16 * 1024 * 1024) = .ok der ∧
    corruptOuterSignature sys.toLibrary der = .ok mutated ∧
    Row.Ran config (sys.withFile path (bytes (encodeCertificatePem sys.base64Encode mutated))) path
      ⟨case, .invalidCertificateSignature, damaged⟩

theorem runValidAndDamaged_ok {entries entries' : List MatrixEntry} {case : Case}
    (returned : runValidAndDamaged sys config entries case = .ok entries') :
    ∃ rows, ValidAndDamaged sys config case rows ∧
      entries' = entries ++ rows.flatMap Row.entries := by
  simp only [runValidAndDamaged, bind_ok_iff, mapErr_ok_iff] at returned
  obtain ⟨between, first, der, read, mutated, corrupted, path, -, second⟩ := returned
  obtain ⟨valid, validRan, rfl⟩ := runCase_ok first
  obtain ⟨damaged, damagedRan, rfl⟩ := runCase_ok second
  exact ⟨_, ⟨valid, damaged, der, mutated, path, rfl, validRan, read, corrupted, damagedRan⟩,
    by simp⟩

/-- A row of its own. -/
def Single (sys : MatrixSystem) (config : AvailableMatrixConfig) (case : Case)
    (variant : MatrixVariant) (leaf : String) (rows : List Row) : Prop :=
  ∃ reports, rows = [⟨case, variant, reports⟩] ∧ Row.Ran config sys leaf ⟨case, variant, reports⟩

theorem runControl_ok {entries entries' : List MatrixEntry}
    {control : Case × MatrixVariant × String}
    (returned : runControl sys config entries control = .ok entries') :
    ∃ rows, Single sys config control.1 control.2.1 (join config.controls control.2.2) rows ∧
      entries' = entries ++ rows.flatMap Row.entries := by
  obtain ⟨reports, ran, rfl⟩ := runCase_ok returned
  exact ⟨_, ⟨reports, rfl, ran⟩, by simp⟩

theorem runChameleon_ok {entries entries' : List MatrixEntry} {variant : MatrixVariant × String}
    (returned : runChameleon sys config entries variant = .ok entries') :
    ∃ rows, Single sys config chameleon variant.1 variant.2 rows ∧
      entries' = entries ++ rows.flatMap Row.entries := by
  obtain ⟨reports, ran, rfl⟩ := runCase_ok returned
  exact ⟨_, ⟨reports, rfl, ran⟩, by simp⟩

/-- The rows of a run that returned, loop by loop. -/
structure Rows (sys : MatrixSystem) (config : AvailableMatrixConfig) (report : MatrixReport)
    (cases controls chameleons : List (List Row)) : Prop where
  provenance : collectProvenance sys config = .ok report.provenance
  casesRan : List.Forall₂ (ValidAndDamaged sys config) CASES cases
  controlsRan : List.Forall₂ (fun control => Single sys config control.1 control.2.1
    (join config.controls control.2.2)) CONTROLS controls
  chameleonsRan : List.Forall₂ (fun variant => Single sys config chameleon variant.1 variant.2)
    (chameleonLeaves config) chameleons
  entries : report.entries = (cases ++ controls ++ chameleons).flatten.flatMap Row.entries

theorem rows_of_runAvailableMatrix (returned : runAvailableMatrix sys config = .ok report) :
    ∃ cases controls chameleons, Rows sys config report cases controls chameleons := by
  have casesPass : ∀ entries case entries',
      runValidAndDamaged sys config entries case = .ok entries' → ∃ rows,
        ValidAndDamaged sys config case rows ∧ entries' = entries ++ rows.flatMap Row.entries :=
    fun _ _ _ => runValidAndDamaged_ok
  have controlsPass : ∀ entries control entries',
      runControl sys config entries control = .ok entries' → ∃ rows,
        Single sys config control.1 control.2.1 (join config.controls control.2.2) rows ∧
          entries' = entries ++ rows.flatMap Row.entries :=
    fun _ _ _ => runControl_ok
  have chameleonsPass : ∀ entries variant entries',
      runChameleon sys config entries variant = .ok entries' → ∃ rows,
        Single sys config chameleon variant.1 variant.2 rows ∧
          entries' = entries ++ rows.flatMap Row.entries :=
    fun _ _ _ => runChameleon_ok
  obtain ⟨provenance, collected, returned⟩ := bind_ok_iff.mp returned
  obtain ⟨first, casesRan, returned⟩ := bind_ok_iff.mp returned
  obtain ⟨second, controlsRan, returned⟩ := bind_ok_iff.mp returned
  obtain ⟨third, chameleonsRan, returned⟩ := bind_ok_iff.mp returned
  obtain rfl := pure_ok_iff.mp returned
  obtain ⟨cases, casesFound, rfl⟩ := foldlM_append_ok casesPass casesRan
  obtain ⟨controls, controlsFound, rfl⟩ := foldlM_append_ok controlsPass controlsRan
  obtain ⟨chameleons, chameleonsFound, rfl⟩ := foldlM_append_ok chameleonsPass chameleonsRan
  refine ⟨cases, controls, chameleons, collected, casesFound, controlsFound, chameleonsFound, ?_⟩
  simp only [List.flatten_eq_flatMap, List.flatMap_append, List.flatMap_assoc, id, List.nil_append]

/-- What stands on the right of a relation stands there for something on the left. -/
theorem exists_of_mem_forall₂ {α β : Type} {related : α → β → Prop} {items : List α}
    {others : List β} (all : List.Forall₂ related items others) {other : β}
    (member : other ∈ others) : ∃ item ∈ items, related item other := by
  induction all with
  | nil => cases member
  | cons first _ ih =>
      rcases List.mem_cons.mp member with rfl | inRest
      · exact ⟨_, List.mem_cons_self, first⟩
      · obtain ⟨item, inItems, same⟩ := ih inRest
        exact ⟨item, List.mem_cons_of_mem _ inItems, same⟩

/-- What stands on the left of a relation has something on the right. -/
theorem exists_of_mem_forall₂_left {α β : Type} {related : α → β → Prop} {items : List α}
    {others : List β} (all : List.Forall₂ related items others) {item : α}
    (member : item ∈ items) : ∃ other ∈ others, related item other :=
  exists_of_mem_forall₂ all.flip member

def Row.key (row : Row) : Case × MatrixVariant := (row.case, row.variant)

theorem keys_flatten {α : Type} {found : α → List Row → Prop}
    {keys : α → List (Case × MatrixVariant)}
    (pass : ∀ item rows, found item rows → rows.map Row.key = keys item) {items : List α}
    {rows : List (List Row)} (all : List.Forall₂ found items rows) :
    rows.flatten.map Row.key = items.flatMap keys := by
  induction all with
  | nil => rfl
  | cons first _ ih =>
      rw [List.flatten_cons, List.map_append, pass _ _ first, ih, List.flatMap_cons]

variable {cases controls chameleons : List (List Row)}

/-- The rows are those of the plan. -/
theorem Rows.keys (rows : Rows sys config report cases controls chameleons) :
    (cases ++ controls ++ chameleons).flatten.map Row.key = plan := by
  have casesPass : ∀ case rows, ValidAndDamaged sys config case rows →
      rows.map Row.key = [(case, .valid), (case, .invalidCertificateSignature)] := by
    rintro case rows ⟨valid, damaged, der, mutated, path, rfl, -⟩
    rfl
  have singlePass : ∀ case variant leaf rows, Single sys config case variant leaf rows →
      rows.map Row.key = [(case, variant)] := by
    rintro case variant leaf rows ⟨reports, rfl, -⟩
    rfl
  rw [List.flatten_append, List.flatten_append, List.map_append, List.map_append,
    keys_flatten casesPass rows.casesRan, keys_flatten (fun _ => singlePass _ _ _) rows.controlsRan,
    keys_flatten (fun _ => singlePass _ _ _) rows.chameleonsRan]
  rfl

/-- Every row was run, over some file system. -/
theorem Rows.ran (rows : Rows sys config report cases controls chameleons) {row : Row}
    (member : row ∈ (cases ++ controls ++ chameleons).flatten) :
    ∃ view leaf, row.Ran config view leaf := by
  obtain ⟨group, inGroups, inGroup⟩ := List.mem_flatten.mp member
  simp only [List.mem_append] at inGroups
  rcases inGroups with (inCases | inControls) | inChameleons
  · obtain ⟨case, -, valid, damaged, der, mutated, path, rfl, validRan, -, -, damagedRan⟩ :=
      exists_of_mem_forall₂ rows.casesRan inCases
    rcases List.mem_pair.mp inGroup with rfl | rfl
    · exact ⟨_, _, validRan⟩
    · exact ⟨_, _, damagedRan⟩
  · obtain ⟨control, -, reports, rfl, ran⟩ := exists_of_mem_forall₂ rows.controlsRan inControls
    obtain rfl := List.mem_singleton.mp inGroup
    exact ⟨_, _, ran⟩
  · obtain ⟨variant, -, reports, rfl, ran⟩ := exists_of_mem_forall₂ rows.chameleonsRan inChameleons
    obtain rfl := List.mem_singleton.mp inGroup
    exact ⟨_, _, ran⟩

/-- Every entry is about a report of a call of its row. -/
theorem Rows.reports_of_mem (rows : Rows sys config report cases controls chameleons)
    {shown : MatrixEntry} (member : shown ∈ report.entries) :
    ∃ case variant view leaf call adapterReport, shown = entry case variant adapterReport ∧
      call ∈ stackCalls config case (root config) (join config.fixtures case.issuer) leaf ∧
      Reports view call adapterReport := by
  rw [rows.entries] at member
  obtain ⟨row, inRows, inRow⟩ := List.mem_flatMap.mp member
  obtain ⟨view, leaf, ran⟩ := rows.ran inRows
  obtain ⟨adapterReport, inReports, rfl⟩ := List.mem_map.mp inRow
  obtain ⟨call, inCalls, reports⟩ := exists_of_mem_forall₂ ran inReports
  exact ⟨row.case, row.variant, _, leaf, call, adapterReport, rfl, inCalls, reports⟩

end Run

namespace Fixture

/-- Every file is one certificate. -/
def contents : List UInt8 :=
  bytes (encodeCertificatePem Base64.encode X509.Fixture.outerCertificate)

def library : Library :=
  { X509.Fixture.outerLibrary with
    openFile := fun _ => .ok ⟨true, contents.length, .ok contents⟩
    parseX509Pem := X509.parseX509Pem Base64.decode
    sha256 := fun bytes => [UInt8.ofNat bytes.length] }

/-- The study image of Bouncy Castle has the older release. -/
def version : StackCall → String
  | .bouncyCastle config => if config.image = "bouncycastle-study" then "1.84" else "1.85"
  | _ => "1.0"

def system : MatrixSystem where
  toLibrary := library
  resolveExecutable := fun name => .ok (.utf8 ("/usr/bin/" ++ name))
  canonicalize := fun path => .ok (.utf8 ("/" ++ path))
  cachedVersionOutput := fun call => .ok (ValidationTime.Fixture.output (version call))
  runProgram := fun _ => .error "outside the matrix"
  base64Encode := Base64.encode
  verdictFromSlice := Stacks.Fixture.system.verdictFromSlice
  selectedPathFromSlice := fun _ => .error "no path"
  instrumentedFromSlice := fun _ => none
  chrono := ValidationTime.Fixture.chrono
  newTempFile := .ok (.utf8 "/tmp/authorities")
  writeAll := fun _ _ => .ok ()
  flush := fun _ => .ok ()
  readableTempfile := fun _ => .ok "tmp/damaged.pem"
  command := fun _ arguments =>
    .ok ⟨true, if arguments = ["status", "--porcelain"] then [] else bytes "sha256:0", []⟩
  platform := "linux-x86_64"
  rerun := fun _ _ _ => .ok (ValidationTime.Fixture.output Stacks.Fixture.accepting)

def config : AvailableMatrixConfig where
  fixtures := "fixtures"
  controls := "controls"
  opensslCurrentImage := "openssl"
  opensslStudyImage := "openssl"
  gnutlsCurrentImage := "gnutls"
  gnutlsStudyImage := "gnutls"
  goStudyImage := "go"
  goCurrentImage := "go"
  pycaStudyImage := "pyca"
  pycaCurrentImage := "pyca"
  docker := "docker"
  bouncyCastleStudyImage := "bouncycastle-study"
  bouncyCastleCurrentImage := "bouncycastle-current"
  nssStudyImage := "nss"
  nssCurrentImage := "nss"
  oqsProviderImage := "openssl"
  wolfsslImage := "wolfssl"
  validationTime := "2026-06-20T02:00:00+02:00"
  timeout := ⟨5, 0⟩
  maxOutputBytes := 65536
  publication := true

theorem returns : ∃ report, runAvailableMatrix system config = .ok report ∧
    ∃ shown ∈ report.entries, shown.report.observation.verdict = .accept := by
  decide +kernel

end Fixture

end HybridX509.Analysis.Matrix
