import HybridX509.Analysis.Scopes
import HybridX509.Lib.LexicalPath
import HybridX509.Lib.Text
import Mathlib.Algebra.BigOperators.Group.List.Lemmas

/-! # The corpus

`corpus.rs`: the artifacts that a manifest lists for one generator are read from a directory
and compared with the size and the hash the manifest has for them. A verified corpus is
pinned by its manifest, and the generators of a manifest cover it.
-/

namespace HybridX509.Corpus

open Lib X509 Analysis

structure Artifact where
  path : String
  kind : String
  derSha256 : String
  derBytes : Nat
  generator : String
  deriving Repr, DecidableEq

structure Manifest where
  artifacts : List Artifact
  deriving Repr, DecidableEq

structure CorpusVerificationReport where
  generator : String
  checked : Nat
  passed : Bool
  deriving Repr, DecidableEq

inductive CorpusError where
  | json (message : String)
  | input (error : BoundedInputError)
  | emptySelection (generator : String)
  | unsupportedType (path kind : String)
  | pem (path : String) (source : PemError)
  | size (path : String) (expected actual : Nat)
  | digest (path expected actual : String)
  deriving Repr, DecidableEq

/-- The libraries, with `from_slice::<Manifest>` and the texts of its errors. -/
structure CorpusSystem extends Library where
  manifestFromSlice : List UInt8 → Except String Manifest

def pemKind (kind : String) : Option PemKind :=
  [("certificate", PemKind.certificate), ("crl", .certificateRevocationList)].lookup kind

section Verify

variable (lib : Library) (root : String) (inputLimit : Nat)

/-- One pass of the loop. -/
def verifyArtifact (artifact : Artifact) : Except CorpusError Unit := do
  let kind ← orFail (pemKind artifact.kind) (.unsupportedType artifact.path artifact.kind)
  let der ←
    mapErr (.pem artifact.path) (readDer lib (join root artifact.path) kind inputLimit)
  failIf (der.length ≠ artifact.derBytes)
    (.size artifact.path artifact.derBytes der.length)
  failIf (sha256Hex lib der ≠ artifact.derSha256)
    (.digest artifact.path artifact.derSha256 (sha256Hex lib der))

def verifyCorpus (sys : CorpusSystem) (manifestPath root generator : String) (inputLimit : Nat) :
    Except CorpusError CorpusVerificationReport := do
  let bytes ← mapErr .input (readBoundedFile sys.toLibrary manifestPath inputLimit)
  let manifest ← mapErr .json (sys.manifestFromSlice bytes)
  let selected := manifest.artifacts.filter (·.generator == generator)
  failIf (selected.isEmpty = true) (.emptySelection generator)
  selected.forM (verifyArtifact sys.toLibrary root inputLimit)
  return ⟨generator, selected.length, true⟩

/-! ## One artifact -/

/-- What a file has to hold for an artifact. -/
structure Holds (artifact : Artifact) (kind : PemKind) (der : List UInt8) : Prop where
  known : pemKind artifact.kind = some kind
  read : readDer lib (join root artifact.path) kind inputLimit = .ok der
  size : der.length = artifact.derBytes
  digest : sha256Hex lib der = artifact.derSha256

def Intact (artifact : Artifact) : Prop := ∃ kind der, Holds lib root inputLimit artifact kind der

/-- What is wrong with an artifact, with the error that says so. -/
inductive Fault (artifact : Artifact) : CorpusError → Prop
  | unsupportedType (unknown : pemKind artifact.kind = none) :
      Fault artifact (.unsupportedType artifact.path artifact.kind)
  | pem {kind : PemKind} {source : PemError} (known : pemKind artifact.kind = some kind)
      (failed : readDer lib (join root artifact.path) kind inputLimit = .error source) :
      Fault artifact (.pem artifact.path source)
  | size {kind : PemKind} {der : List UInt8} (known : pemKind artifact.kind = some kind)
      (read : readDer lib (join root artifact.path) kind inputLimit = .ok der)
      (different : der.length ≠ artifact.derBytes) :
      Fault artifact (.size artifact.path artifact.derBytes der.length)
  | digest {kind : PemKind} {der : List UInt8} (known : pemKind artifact.kind = some kind)
      (read : readDer lib (join root artifact.path) kind inputLimit = .ok der)
      (size : der.length = artifact.derBytes)
      (different : sha256Hex lib der ≠ artifact.derSha256) :
      Fault artifact (.digest artifact.path artifact.derSha256 (sha256Hex lib der))

variable {lib root inputLimit} {artifact : Artifact}

theorem verifyArtifact_ok_iff :
    verifyArtifact lib root inputLimit artifact = .ok () ↔ Intact lib root inputLimit artifact := by
  simp only [verifyArtifact, bind_ok_iff, orFail_ok_iff, mapErr_ok_iff, exists_unit_iff,
    failIf_ok_iff, not_not]
  constructor
  · rintro ⟨kind, known, der, read, size, digest⟩
    exact ⟨kind, der, known, read, size, digest⟩
  · rintro ⟨kind, der, holds⟩
    exact ⟨kind, holds.known, der, holds.read, holds.size, holds.digest⟩

theorem verifyArtifact_error_iff {error : CorpusError} :
    verifyArtifact lib root inputLimit artifact = .error error ↔
      Fault lib root inputLimit artifact error := by
  simp only [verifyArtifact, bind_error_iff, orFail_ok_iff, orFail_error_iff, mapErr_ok_iff,
    mapErr_error_iff, exists_unit_iff, failIf_ok_iff, failIf_error_iff, not_not]
  constructor
  · rintro (⟨unknown, rfl⟩ | ⟨kind, known, ⟨source, failed, rfl⟩ | ⟨der, read, wrong⟩⟩)
    · exact .unsupportedType unknown
    · exact .pem known failed
    · rcases wrong with ⟨different, rfl⟩ | ⟨size, different, rfl⟩
      · exact .size known read different
      · exact .digest known read size different
  · intro fault
    cases fault with
    | unsupportedType unknown => exact .inl ⟨unknown, rfl⟩
    | pem known failed => exact .inr ⟨_, known, .inl ⟨_, failed, rfl⟩⟩
    | size known read different => exact .inr ⟨_, known, .inr ⟨_, read, .inl ⟨different, rfl⟩⟩⟩
    | digest known read size different =>
        exact .inr ⟨_, known, .inr ⟨_, read, .inr ⟨size, different, rfl⟩⟩⟩

end Verify

/-! ## A manifest -/

/-- What a manifest that is read lists for a generator. -/
def Lists (sys : CorpusSystem) (manifestPath : String) (inputLimit : Nat) (generator : String)
    (selected : List Artifact) : Prop :=
  ∃ bytes manifest, readBoundedFile sys.toLibrary manifestPath inputLimit = .ok bytes ∧
    sys.manifestFromSlice bytes = .ok manifest ∧
    manifest.artifacts.filter (·.generator == generator) = selected

/-- What is wrong with a corpus: its manifest, or the first artifact that is not intact. -/
inductive CorpusFault (sys : CorpusSystem) (manifestPath root generator : String)
    (inputLimit : Nat) : CorpusError → Prop
  | input {source : BoundedInputError}
      (failed : readBoundedFile sys.toLibrary manifestPath inputLimit = .error source) :
      CorpusFault sys manifestPath root generator inputLimit (.input source)
  | json {bytes : List UInt8} {message : String}
      (read : readBoundedFile sys.toLibrary manifestPath inputLimit = .ok bytes)
      (malformed : sys.manifestFromSlice bytes = .error message) :
      CorpusFault sys manifestPath root generator inputLimit (.json message)
  | emptySelection (lists : Lists sys manifestPath inputLimit generator []) :
      CorpusFault sys manifestPath root generator inputLimit (.emptySelection generator)
  | artifact {before after : List Artifact} {artifact : Artifact} {error : CorpusError}
      (lists : Lists sys manifestPath inputLimit generator (before ++ artifact :: after))
      (intact : ∀ earlier ∈ before, Intact sys.toLibrary root inputLimit earlier)
      (fault : Fault sys.toLibrary root inputLimit artifact error) :
      CorpusFault sys manifestPath root generator inputLimit error

section Manifests

variable {sys : CorpusSystem} {manifestPath root generator : String} {inputLimit : Nat}

theorem verifyCorpus_ok_iff {report : CorpusVerificationReport} :
    verifyCorpus sys manifestPath root generator inputLimit = .ok report ↔
      ∃ selected, Lists sys manifestPath inputLimit generator selected ∧ selected ≠ [] ∧
        (∀ artifact ∈ selected, Intact sys.toLibrary root inputLimit artifact) ∧
        report = ⟨generator, selected.length, true⟩ := by
  simp only [verifyCorpus, bind_ok_iff, mapErr_ok_iff, exists_unit_iff, failIf_ok_iff,
    forM_ok_iff, verifyArtifact_ok_iff, pure_ok_iff, List.isEmpty_iff]
  constructor
  · rintro ⟨bytes, read, manifest, parsed, nonempty, intact, rfl⟩
    exact ⟨_, ⟨bytes, manifest, read, parsed, rfl⟩, nonempty, intact, rfl⟩
  · rintro ⟨_, ⟨bytes, manifest, read, parsed, rfl⟩, nonempty, intact, rfl⟩
    exact ⟨bytes, read, manifest, parsed, nonempty, intact, rfl⟩

theorem verifyCorpus_error_iff {error : CorpusError} :
    verifyCorpus sys manifestPath root generator inputLimit = .error error ↔
      CorpusFault sys manifestPath root generator inputLimit error := by
  simp only [verifyCorpus, bind_error_iff, mapErr_error_iff, mapErr_ok_iff, failIf_error_iff,
    failIf_ok_iff, exists_unit_iff, forM_error_iff, verifyArtifact_error_iff,
    verifyArtifact_ok_iff, List.isEmpty_iff]
  constructor
  · rintro (⟨source, failed, rfl⟩ | ⟨bytes, read, ⟨message, malformed, rfl⟩ |
      ⟨manifest, parsed, rest⟩⟩)
    · exact .input failed
    · exact .json read malformed
    · rcases rest with ⟨empty, rfl⟩ | ⟨-, ⟨before, artifact, after, split, intact, fault⟩ | passed⟩
      · exact .emptySelection ⟨bytes, manifest, read, parsed, empty⟩
      · exact .artifact ⟨bytes, manifest, read, parsed, split⟩ intact fault
      · cases passed.2
  · intro fault
    cases fault with
    | input failed => exact .inl ⟨_, failed, rfl⟩
    | json read malformed => exact .inr ⟨_, read, .inl ⟨_, malformed, rfl⟩⟩
    | emptySelection lists =>
        obtain ⟨bytes, manifest, read, parsed, empty⟩ := lists
        exact .inr ⟨bytes, read, .inr ⟨manifest, parsed, .inl ⟨empty, rfl⟩⟩⟩
    | @artifact before after artifact error lists intact fault =>
        obtain ⟨bytes, manifest, read, parsed, split⟩ := lists
        have nonempty : manifest.artifacts.filter (·.generator == generator) ≠ [] := by
          rw [split]
          simp
        exact .inr ⟨bytes, read, .inr ⟨manifest, parsed, .inr ⟨nonempty,
          .inl ⟨before, artifact, after, split, intact, fault⟩⟩⟩⟩

/-- A run returns exactly when the generator has artifacts and all of them are intact, with
    their number, and stops at the first one that is not, with what is wrong with it. -/
theorem verifyCorpus_exact :
    (∀ report, verifyCorpus sys manifestPath root generator inputLimit = .ok report ↔
      ∃ selected, Lists sys manifestPath inputLimit generator selected ∧ selected ≠ [] ∧
        (∀ artifact ∈ selected, Intact sys.toLibrary root inputLimit artifact) ∧
        report = ⟨generator, selected.length, true⟩) ∧
    ∀ error, verifyCorpus sys manifestPath root generator inputLimit = .error error ↔
      CorpusFault sys manifestPath root generator inputLimit error :=
  ⟨fun _ => verifyCorpus_ok_iff, fun _ => verifyCorpus_error_iff⟩

theorem lists_unique {selected selected' : List Artifact}
    (lists : Lists sys manifestPath inputLimit generator selected)
    (lists' : Lists sys manifestPath inputLimit generator selected') : selected = selected' := by
  obtain ⟨bytes, manifest, read, parsed, rfl⟩ := lists
  obtain ⟨bytes', manifest', read', parsed', rfl⟩ := lists'
  obtain rfl := ok_unique read read'
  obtain rfl := ok_unique parsed parsed'
  rfl

theorem verified_of_lists {selected : List Artifact} {report : CorpusVerificationReport}
    (lists : Lists sys manifestPath inputLimit generator selected)
    (verified : verifyCorpus sys manifestPath root generator inputLimit = .ok report) :
    selected ≠ [] ∧ (∀ artifact ∈ selected, Intact sys.toLibrary root inputLimit artifact) ∧
      report = ⟨generator, selected.length, true⟩ := by
  obtain ⟨selected', lists', rest⟩ := verifyCorpus_ok_iff.mp verified
  obtain rfl := lists_unique lists lists'
  exact rest

end Manifests

/-! ## The generators of a manifest -/

/-- Every generator that a manifest names, once. -/
def generators (manifest : Manifest) : List String :=
  (manifest.artifacts.map (·.generator)).dedup

theorem mem_generators {manifest : Manifest} {artifact : Artifact}
    (listed : artifact ∈ manifest.artifacts) : artifact.generator ∈ generators manifest :=
  List.mem_dedup.mpr (List.mem_map_of_mem listed)

theorem length_filter_generator (manifest : Manifest) (generator : String) :
    (manifest.artifacts.filter (·.generator == generator)).length =
      (manifest.artifacts.map (·.generator)).count generator := by
  rw [List.count_eq_countP, List.countP_map, List.countP_eq_length_filter]
  rfl

section Generators

variable {sys : CorpusSystem} {manifestPath root : String} {inputLimit : Nat}
  {bytes : List UInt8} {manifest : Manifest}

/-- The runs for the generators of a manifest cover it: all of them return exactly when
    every artifact is intact, and then they have counted every artifact once. -/
theorem generators_cover
    (read : readBoundedFile sys.toLibrary manifestPath inputLimit = .ok bytes)
    (parsed : sys.manifestFromSlice bytes = .ok manifest) :
    ((∀ generator ∈ generators manifest, ∃ report,
      verifyCorpus sys manifestPath root generator inputLimit = .ok report) ↔
        ∀ artifact ∈ manifest.artifacts, Intact sys.toLibrary root inputLimit artifact) ∧
    ∀ reports : String → CorpusVerificationReport, (∀ generator ∈ generators manifest,
      verifyCorpus sys manifestPath root generator inputLimit = .ok (reports generator)) →
        ((generators manifest).map fun generator => (reports generator).checked).sum =
          manifest.artifacts.length := by
  have lists (generator : String) : Lists sys manifestPath inputLimit generator
      (manifest.artifacts.filter (·.generator == generator)) :=
    ⟨bytes, manifest, read, parsed, rfl⟩
  refine ⟨⟨?_, ?_⟩, ?_⟩
  · intro returns artifact listed
    obtain ⟨report, verified⟩ := returns _ (mem_generators listed)
    obtain ⟨-, intact, -⟩ := verified_of_lists (lists _) verified
    exact intact artifact (List.mem_filter.mpr ⟨listed, beq_self_eq_true _⟩)
  · intro intact generator named
    obtain ⟨artifact, listed, rfl⟩ := List.mem_map.mp (List.mem_dedup.mp named)
    have selected : artifact ∈ manifest.artifacts.filter (·.generator == artifact.generator) :=
      List.mem_filter.mpr ⟨listed, beq_self_eq_true _⟩
    exact ⟨_, verifyCorpus_ok_iff.mpr ⟨_, lists _, List.ne_nil_of_mem selected,
      fun other inSelection => intact other (List.mem_filter.mp inSelection).1, rfl⟩⟩
  · intro reports verified
    have counted (generator : String) (named : generator ∈ generators manifest) :
        (reports generator).checked = (manifest.artifacts.map (·.generator)).count generator := by
      obtain ⟨-, -, same⟩ := verified_of_lists (lists generator) (verified generator named)
      rw [same, ← length_filter_generator]
    rw [List.map_congr_left counted, generators, List.sum_map_count_dedup_eq_length,
      List.length_map]

end Generators

/-! ## What a manifest pins -/

/-- Two documents of one size and one hash. -/
def Collision (lib : Library) (der other : List UInt8) : Prop :=
  der ≠ other ∧ der.length = other.length ∧ lib.sha256 der = lib.sha256 other

section Pins

variable {sys other : CorpusSystem} {manifestPath otherPath root otherRoot generator : String}
  {inputLimit otherLimit : Nat} {selected : List Artifact}
  {report otherReport : CorpusVerificationReport}

/-- Two directories that are verified against the same artifacts hold the same documents, or
    a collision of the hash. -/
theorem verifyCorpus_pins (sameHash : other.sha256 = sys.sha256)
    (lists : Lists sys manifestPath inputLimit generator selected)
    (otherLists : Lists other otherPath otherLimit generator selected)
    (verified : verifyCorpus sys manifestPath root generator inputLimit = .ok report)
    (otherVerified : verifyCorpus other otherPath otherRoot generator otherLimit =
      .ok otherReport) :
    otherReport = report ∧ ∀ artifact ∈ selected, ∃ kind der otherDer,
      readDer sys.toLibrary (join root artifact.path) kind inputLimit = .ok der ∧
      readDer other.toLibrary (join otherRoot artifact.path) kind otherLimit = .ok otherDer ∧
      (otherDer = der ∨ Collision sys.toLibrary der otherDer) := by
  obtain ⟨-, intact, rfl⟩ := verified_of_lists lists verified
  obtain ⟨-, otherIntact, rfl⟩ := verified_of_lists otherLists otherVerified
  refine ⟨rfl, fun artifact member => ?_⟩
  obtain ⟨kind, der, holds⟩ := intact artifact member
  obtain ⟨otherKind, otherDer, otherHolds⟩ := otherIntact artifact member
  obtain rfl := Option.some.inj (holds.known.symm.trans otherHolds.known)
  have digests : sys.sha256 der = sys.sha256 otherDer := by
    refine hexLower_injective (holds.digest.trans ?_)
    rw [← otherHolds.digest, sha256Hex, sameHash]
  refine ⟨kind, der, otherDer, holds.read, otherHolds.read, ?_⟩
  by_cases same : otherDer = der
  · exact .inl same
  · exact .inr ⟨Ne.symm same, holds.size.trans otherHolds.size.symm, digests⟩

end Pins

namespace Fixture

def manifest : Manifest where
  artifacts := [⟨"root.pem", "certificate", "02", 2, "gen.GenValid (BouncyCastle)"⟩,
    ⟨"list.pem", "crl", "01", 1, "wolfssl_gen_catalyst.c"⟩,
    ⟨"leaf.pem", "certificate", "03", 3, "gen.GenValid (BouncyCastle)"⟩]

def files : List (String × List UInt8) :=
  [("manifest.json", [0]), ("corpus/root.pem", [1, 2]), ("corpus/list.pem", [7]),
    ("corpus/leaf.pem", [1, 2, 3]), ("/copy/root.pem", [1, 2]), ("/copy/leaf.pem", [1, 2, 4])]

def system : CorpusSystem where
  toLibrary := { X509.Fixture.library X509.Fixture.leafCertificate X509.Fixture.crl
      X509.Fixture.tryLater X509.Fixture.emptyResponse with
    openFile := fun path =>
      orFail ((files.lookup path).map fun bytes => ⟨true, bytes.length, .ok bytes⟩) "no such file"
    parseX509Pem := fun text =>
      some ([], ⟨if text = [7] then "X509 CRL" else "CERTIFICATE", text⟩)
    sha256 := fun bytes => [UInt8.ofNat bytes.length] }
  manifestFromSlice := fun _ => .ok manifest

def report (generator : String) : CorpusVerificationReport :=
  ⟨generator, if generator = "wolfssl_gen_catalyst.c" then 1 else 2, true⟩

theorem lists : Lists system "manifest.json" 64 "gen.GenValid (BouncyCastle)"
    (manifest.artifacts.filter (·.generator == "gen.GenValid (BouncyCastle)")) :=
  ⟨[0], manifest, readBoundedFile_ok_iff.mpr ⟨_, rfl, rfl, by decide, rfl, by decide⟩, rfl, rfl⟩

end Fixture

/-- Two generators, whose artifacts are all intact. -/
theorem generators_cover_two :
    (∀ artifact ∈ Fixture.manifest.artifacts,
      Intact Fixture.system.toLibrary "corpus" 64 artifact) ∧
    ((generators Fixture.manifest).map fun generator =>
      (Fixture.report generator).checked).sum = 3 := by
  have verified : ∀ generator ∈ generators Fixture.manifest,
      verifyCorpus Fixture.system "manifest.json" "corpus" generator 64 =
        .ok (Fixture.report generator) := by
    decide +kernel
  obtain ⟨_, _, read, parsed, -⟩ := Fixture.lists
  obtain rfl := Except.ok.inj parsed
  obtain ⟨returns, counted⟩ := @generators_cover _ _ "corpus" _ _ _ read rfl
  exact ⟨returns.mp fun generator named => ⟨_, verified generator named⟩, counted _ verified⟩

/-- A copy of the corpus with another leaf of the same length, under a hash that is no more
    than the length. -/
theorem verifyCorpus_pins_collision : ∃ report otherReport,
    verifyCorpus Fixture.system "manifest.json" "corpus" "gen.GenValid (BouncyCastle)" 64 =
      .ok report ∧
    verifyCorpus Fixture.system "manifest.json" "/copy" "gen.GenValid (BouncyCastle)" 64 =
      .ok otherReport ∧ otherReport = report := by
  obtain ⟨report, verified⟩ : ∃ report, verifyCorpus Fixture.system "manifest.json" "corpus"
      "gen.GenValid (BouncyCastle)" 64 = .ok report := by
    decide +kernel
  obtain ⟨otherReport, otherVerified⟩ : ∃ report, verifyCorpus Fixture.system "manifest.json"
      "/copy" "gen.GenValid (BouncyCastle)" 64 = .ok report := by
    decide +kernel
  exact ⟨report, otherReport, verified, otherVerified,
    (verifyCorpus_pins rfl Fixture.lists Fixture.lists verified otherVerified).1⟩

end HybridX509.Corpus
