import HybridX509.Analysis.MatrixRows

/-! # The entries of the matrix

Which cells a report has, in which order, and when their identifiers are distinct.
-/

namespace HybridX509.Lib

/-- A text without the separator is found again before it. -/
theorem append_separator_inj {α : Type} {separator : α} {first second rest rest' : List α}
    (plain : separator ∉ first) (plain' : separator ∉ second)
    (same : first ++ separator :: rest = second ++ separator :: rest') :
    first = second ∧ rest = rest' := by
  induction first generalizing second with
  | nil =>
      cases second with
      | nil => exact ⟨rfl, (List.cons.inj same).2⟩
      | cons head tail => exact absurd (List.cons.inj same).1 (by rintro rfl; simp at plain')
  | cons head tail ih =>
      cases second with
      | nil => exact absurd (List.cons.inj same).1 (by rintro rfl; simp at plain)
      | cons head' tail' =>
          obtain ⟨rfl, rest⟩ := List.cons.inj same
          obtain ⟨rfl, rfl⟩ := ih (fun inTail => plain (List.mem_cons_of_mem _ inTail))
            (fun inTail => plain' (List.mem_cons_of_mem _ inTail)) rest
          exact ⟨rfl, rfl⟩

end HybridX509.Lib

namespace HybridX509.Analysis.Matrix

open Lib X509 Adapters Adapters.Stacks Adapters.BouncyCastle Adapters.ValidationTime

/-! ## Cells -/

/-- The names Bouncy Castle can go by. -/
def bouncyCastleNames : List String :=
  ["bouncycastle-java-study", "bouncycastle-java-current", "bouncycastle-java"]

/-- The operations and the names of the stacks, for given names of the two Bouncy Castle
    images. -/
def stackCells (study current : String) : List (ValidationProfile × String) :=
  [(.x509Path, "openssl-study"), (.x509Path, "openssl-current"), (.x509Path, "oqs-provider"),
    (.webPkiServer, "mozilla-nss-study"), (.webPkiServer, "mozilla-nss-current"),
    (.x509Path, study), (.x509Path, current),
    (.x509Path, "wolfssl-mode1"), (.x509Path, "wolfssl-mode2"),
    (.x509Path, "gnutls-current"), (.x509Path, "gnutls-study"),
    (.webPkiServer, "go-crypto-x509-study"), (.webPkiServer, "go-crypto-x509-current"),
    (.webPkiServer, "pyca-cryptography-study"), (.webPkiServer, "pyca-cryptography-current")]

def reportCell (report : AdapterReport) : ValidationProfile × String :=
  (report.observation.validationProfile, report.observation.adapter)

theorem adapterTrack_mem (version : String) : (adapterTrack version).1 ∈ bouncyCastleNames := by
  unfold adapterTrack
  split
  · simp [bouncyCastleNames]
  · split <;> simp [bouncyCastleNames]

section Cells

variable {view : MatrixSystem} {config : AvailableMatrixConfig} {leaf : String}

/-- The names a call can be recorded under. -/
def callNames (view : MatrixSystem) : StackCall → List String
  | .bouncyCastle _ => bouncyCastleNames
  | .container call => [(containerRun view.toStackSystem call).adapter]
  | .openSsl _ => ["openssl"]
  | .openSslTls _ => ["openssl-current-tls"]
  | .gnuTls _ => ["gnutls"]
  | .go _ => ["go-crypto-x509"]
  | .goContainer config => [(goContainerRun view.toStackSystem config).adapter]
  | .pyca _ => ["pyca-cryptography"]
  | .pycaContainer config => [(pycaContainerRun view.toStackSystem config).adapter]

theorem adapter_mem_callNames (call : StackCall) (versionOutput : ProcessOutput) :
    call.adapter view.toStackSystem versionOutput ∈ callNames view call := by
  cases call with
  | bouncyCastle config => exact adapterTrack_mem _
  | container call => exact List.mem_cons_self
  | openSsl config => exact List.mem_cons_self
  | openSslTls config => exact List.mem_cons_self
  | gnuTls config => exact List.mem_cons_self
  | go config => exact List.mem_cons_self
  | goContainer config => exact List.mem_cons_self
  | pyca config => exact List.mem_cons_self
  | pycaContainer config => exact List.mem_cons_self

/-- The names of reports are names of their calls, and the operations are theirs. -/
theorem cells_of_reports {calls : List StackCall} {reports : List AdapterReport}
    (all : List.Forall₂ (Reports view) calls reports) :
    ∃ names, List.Forall₂ (fun call name => name ∈ callNames view call) calls names ∧
      reports.map reportCell =
        (calls.map (StackCall.validationProfile view.toStackSystem)).zip names := by
  induction all with
  | nil => exact ⟨[], .nil, rfl⟩
  | cons first _ ih =>
      obtain ⟨execution, returned, reported⟩ := first
      have ran := ran_of_verify returned
      obtain ⟨observation, -⟩ := report_eq reported
      obtain ⟨names, known, same⟩ := ih
      refine ⟨_, .cons (adapter_mem_callNames _ execution.versionOutput) known, ?_⟩
      rw [List.map_cons, same, List.map_cons, List.zip_cons_cons, reportCell, observation,
        ran.profile, ran.adapter]

/-- The cells of a row are fixed, up to the names of the two Bouncy Castle images. -/
theorem Row.cells {row : Row} (ran : row.Ran config view leaf) :
    ∃ study ∈ bouncyCastleNames, ∃ current ∈ bouncyCastleNames,
      row.reports.map reportCell = stackCells study current := by
  obtain ⟨names, known, same⟩ := cells_of_reports ran
  simp only [stackCalls, List.forall₂_cons_left_iff, List.forall₂_nil_left_iff, callNames,
    List.mem_singleton, ↓existsAndEq, true_and, and_true] at known
  obtain ⟨study, current, ⟨studyKnown, currentKnown⟩, rfl⟩ := known
  exact ⟨study, studyKnown, current, currentKnown, same⟩

end Cells

/-! ## Identifiers -/

/-- Where an entry stands: its case, its variant, its operation and its stack. -/
def MatrixEntry.cell (shown : MatrixEntry) : (String × MatrixVariant) × ValidationProfile × String :=
  ((shown.caseId, shown.variant), reportCell shown.report)

/-- The cells of a row of the plan. -/
def rowCells (row : (Case × MatrixVariant) × String × String) :
    List ((String × MatrixVariant) × ValidationProfile × String) :=
  (stackCells row.2.1 row.2.2).map fun cell => ((row.1.1.id, row.1.2), cell)

/-- The identifier of a cell. -/
def cellId (cell : (String × MatrixVariant) × ValidationProfile × String) : String :=
  claimId cell.1.1 cell.1.2 cell.2.1 cell.2.2

theorem debug_injective : Function.Injective MatrixVariant.debug := by
  intro first second
  cases first <;> cases second <;> decide

theorem operationDebug_injective : Function.Injective operationDebug := by
  intro first second
  cases first <;> cases second <;> decide

theorem debug_plain (variant : MatrixVariant) : ':' ∉ variant.debug.toList := by
  cases variant <;> decide

theorem operationDebug_plain (operation : ValidationProfile) :
    ':' ∉ (operationDebug operation).toList := by
  cases operation <;> decide

/-- An identifier tells the four parts it is made of, as no part before the last has a
    colon. -/
theorem claimId_inj {caseId caseId' adapter adapter' : String} {variant variant' : MatrixVariant}
    {operation operation' : ValidationProfile} (plain : ':' ∉ caseId.toList)
    (plain' : ':' ∉ caseId'.toList)
    (same : claimId caseId variant operation adapter =
      claimId caseId' variant' operation' adapter') :
    caseId = caseId' ∧ variant = variant' ∧ operation = operation' ∧ adapter = adapter' := by
  have texts := congrArg String.toList same
  unfold claimId at texts
  simp only [String.toList_append, List.append_assoc, List.append_cancel_left_eq] at texts
  have colon : ":".toList = [':'] := by decide
  simp only [colon, List.singleton_append] at texts
  obtain ⟨sameCase, rest⟩ := append_separator_inj plain plain' texts
  obtain ⟨sameVariant, rest⟩ := append_separator_inj (debug_plain _) (debug_plain _) rest
  obtain ⟨sameOperation, rest⟩ :=
    append_separator_inj (operationDebug_plain _) (operationDebug_plain _) rest
  exact ⟨String.toList_injective sameCase, debug_injective (String.toList_injective sameVariant),
    operationDebug_injective (String.toList_injective sameOperation),
    String.toList_injective rest⟩

theorem stackCells_nodup_iff {study current : String} (studyKnown : study ∈ bouncyCastleNames)
    (currentKnown : current ∈ bouncyCastleNames) :
    (stackCells study current).Nodup ↔ study ≠ current := by
  have all : ∀ study ∈ bouncyCastleNames, ∀ current ∈ bouncyCastleNames,
      ((stackCells study current).Nodup ↔ study ≠ current) := by
    decide +kernel
  exact all study studyKnown current currentKnown

theorem plan_keys_nodup : (plan.map fun row => (row.1.id, row.2)).Nodup := by decide +kernel

theorem plan_ids_plain : ∀ row ∈ plan, ':' ∉ row.1.id.toList := by decide +kernel

/-- The names of the two Bouncy Castle images in a row. -/
def Row.bouncyCastle (row : Row) : String × String :=
  let names := row.reports.map (·.observation.adapter)
  (names[5]?.getD "", names[6]?.getD "")

theorem Row.cells_eq {config : AvailableMatrixConfig} {view : MatrixSystem} {leaf : String}
    {row : Row} (ran : row.Ran config view leaf) :
    (row.bouncyCastle.1 ∈ bouncyCastleNames ∧ row.bouncyCastle.2 ∈ bouncyCastleNames) ∧
      row.reports.map reportCell = stackCells row.bouncyCastle.1 row.bouncyCastle.2 := by
  obtain ⟨study, studyKnown, current, currentKnown, cells⟩ := Row.cells ran
  have names : row.reports.map (·.observation.adapter) = (stackCells study current).map Prod.snd := by
    rw [← cells, List.map_map]
    rfl
  have same : row.bouncyCastle = (study, current) := by
    rw [Row.bouncyCastle, names]
    rfl
  rw [same]
  exact ⟨⟨studyKnown, currentKnown⟩, cells⟩

section Entries

variable {sys : MatrixSystem} {config : AvailableMatrixConfig} {report : MatrixReport}
  {cases controls chameleons : List (List Row)}

/-- The cells of a report, row by row. -/
theorem Rows.cells (rows : Rows sys config report cases controls chameleons) :
    report.entries.map MatrixEntry.cell =
      (cases ++ controls ++ chameleons).flatten.flatMap fun row =>
        rowCells (row.key, row.bouncyCastle) := by
  rw [rows.entries, List.map_flatMap]
  refine List.flatMap_congr fun row member => ?_
  obtain ⟨view, leaf, ran⟩ := rows.ran member
  rw [rowCells, ← (Row.cells_eq ran).2, Row.entries, List.map_map, List.map_map]
  rfl

theorem Rows.claimIds (rows : Rows sys config report cases controls chameleons) :
    report.entries.map (·.claimId) = (report.entries.map MatrixEntry.cell).map cellId := by
  rw [List.map_map]
  refine List.map_congr_left fun shown member => ?_
  obtain ⟨case, variant, view, leaf, call, adapterReport, rfl, -⟩ := rows.reports_of_mem member
  rfl

/-- Two cells of the report with one identifier are one cell. -/
theorem Rows.cellId_inj (rows : Rows sys config report cases controls chameleons) :
    ∀ cell ∈ report.entries.map MatrixEntry.cell, ∀ other ∈ report.entries.map MatrixEntry.cell,
      cellId cell = cellId other → cell = other := by
  have plain : ∀ cell ∈ report.entries.map MatrixEntry.cell, ':' ∉ cell.1.1.toList := by
    intro cell member
    rw [rows.cells] at member
    obtain ⟨row, inRows, inRow⟩ := List.mem_flatMap.mp member
    obtain ⟨_, -, rfl⟩ := List.mem_map.mp inRow
    have inPlan := List.mem_map_of_mem (f := Row.key) inRows
    rw [rows.keys] at inPlan
    exact plan_ids_plain _ inPlan
  intro cell member other otherMember same
  obtain ⟨caseId, variant, operation, adapter⟩ :=
    claimId_inj (plain cell member) (plain other otherMember) same
  exact Prod.ext (Prod.ext caseId variant) (Prod.ext operation adapter)

theorem Rows.cells_nodup_iff (rows : Rows sys config report cases controls chameleons) :
    (report.entries.map MatrixEntry.cell).Nodup ↔
      ∀ row ∈ (cases ++ controls ++ chameleons).flatten,
        row.bouncyCastle.1 ≠ row.bouncyCastle.2 := by
  have keys : ((cases ++ controls ++ chameleons).flatten.map fun row =>
      (row.key.1.id, row.key.2)).Nodup := by
    have distinct := plan_keys_nodup
    rwa [← rows.keys, List.map_map] at distinct
  have apart : (cases ++ controls ++ chameleons).flatten.Pairwise fun row other =>
      List.Disjoint (rowCells (row.key, row.bouncyCastle))
        (rowCells (other.key, other.bouncyCastle)) := by
    refine (List.pairwise_map.mp keys).imp ?_
    intro row other different cell inRow inOther
    obtain ⟨_, -, rfl⟩ := List.mem_map.mp inRow
    obtain ⟨_, -, same⟩ := List.mem_map.mp inOther
    exact different (Prod.ext_iff.mp same).1.symm
  rw [rows.cells, List.nodup_flatMap]
  constructor
  · rintro ⟨each, -⟩ row member
    obtain ⟨view, leaf, ran⟩ := rows.ran member
    obtain ⟨⟨studyKnown, currentKnown⟩, -⟩ := Row.cells_eq ran
    exact (stackCells_nodup_iff studyKnown currentKnown).mp (.of_map _ (each row member))
  · intro different
    refine ⟨fun row member => ?_, apart⟩
    obtain ⟨view, leaf, ran⟩ := rows.ran member
    obtain ⟨⟨studyKnown, currentKnown⟩, -⟩ := Row.cells_eq ran
    refine ((stackCells_nodup_iff studyKnown currentKnown).mpr (different row member)).map ?_
    intro cell other same
    exact (Prod.ext_iff.mp same).2

theorem Rows.length_entries (rows : Rows sys config report cases controls chameleons) :
    report.entries.length = 345 := by
  have each : ∀ row ∈ (cases ++ controls ++ chameleons).flatten,
      (rowCells (row.key, row.bouncyCastle)).length = 15 := fun _ _ => rfl
  have planned := congrArg List.length rows.keys
  have counted := congrArg List.length rows.cells
  rw [List.length_map] at planned
  rw [List.length_map, List.length_flatMap, List.map_congr_left each, List.map_const',
    List.sum_replicate, planned] at counted
  exact counted

/-- A returned report goes through the rows of the plan, in order. A row has one entry for
    each stack, in order, with the columns that `entry` works out for the case, the variant
    and the report: 345 entries in all. Only the names of the two Bouncy Castle images are
    left open, by the versions they report, and the identifiers of the entries are distinct
    exactly when these two differ in every row. -/
theorem entries_exact (returned : runAvailableMatrix sys config = .ok report) :
    ∃ rows : List Row, rows.map Row.key = plan ∧
      report.entries = rows.flatMap (fun row => row.reports.map (entry row.case row.variant)) ∧
      (∀ row ∈ rows,
        row.bouncyCastle.1 ∈ bouncyCastleNames ∧ row.bouncyCastle.2 ∈ bouncyCastleNames ∧
        row.reports.map reportCell = stackCells row.bouncyCastle.1 row.bouncyCastle.2) ∧
      report.entries.length = 345 ∧
      ((report.entries.map (·.claimId)).Nodup ↔
        ∀ row ∈ rows, row.bouncyCastle.1 ≠ row.bouncyCastle.2) := by
  obtain ⟨cases, controls, chameleons, rows⟩ := rows_of_runAvailableMatrix returned
  refine ⟨(cases ++ controls ++ chameleons).flatten, rows.keys, rows.entries, ?_,
    rows.length_entries, ?_⟩
  · intro row member
    obtain ⟨view, leaf, ran⟩ := rows.ran member
    obtain ⟨⟨studyKnown, currentKnown⟩, cells⟩ := Row.cells_eq ran
    exact ⟨studyKnown, currentKnown, cells⟩
  · rw [rows.claimIds, ← rows.cells_nodup_iff]
    exact ⟨.of_map _, fun distinct => distinct.map_on rows.cellId_inj⟩

end Entries

/-- A run in which every program accepts. -/
theorem entries_exact_accepting : ∃ report,
    runAvailableMatrix Fixture.system Fixture.config = .ok report ∧
      report.entries.length = 345 := by
  obtain ⟨report, returned, -⟩ := Fixture.returns
  obtain ⟨rows, -, -, -, size, -⟩ := entries_exact returned
  exact ⟨report, returned, size⟩

end HybridX509.Analysis.Matrix
