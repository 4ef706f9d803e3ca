import HybridX509.Corpus
import HybridX509.Oracle.Panics
import HybridX509.Revocation.Ocsp
import HybridX509.X509.Mutation
import HybridX509.X509.PemText

/-! # Commands

The commands of `main.rs` that work on files alone. What `verify` prints is settled for
every file; over any sequence of commands a file changes only under a mutation that writes
it, and a mutation of a mutated certificate restores it.
-/

namespace HybridX509.Commands

open Lib X509 Oracle Revocation.Ocsp Corpus

inductive Command where
  | verify (request : String) (inputLimitBytes : Nat)
  | checkOcsp (certificate issuer response validationTime : String)
      (expectedNonceBase64 : Option String) (maxAgeSeconds clockSkewSeconds : UInt64)
      (revocationMode : RevocationPolicyMode) (inputLimitBytes : Nat)
  | mutateCertificateSignature (certificate output : String) (inputLimitBytes : Nat)
  | verifyCorpus (manifest root generator : String) (inputLimitBytes : Nat)
  deriving Repr, DecidableEq

/-- The file that a command writes. -/
def Command.output : Command → Option String
  | .mutateCertificateSignature _ output _ => some output
  | .verify _ _ | .checkOcsp .. | .verifyCorpus _ _ _ _ => none

/-- The documents that the commands print. -/
inductive Output where
  | result (result : VerificationResult)
  | ocspStatus (status : OcspStatusResult)
  | mutation (input output mutation : String)
  | corpus (report : CorpusVerificationReport)
  deriving Repr, DecidableEq

inductive CommandError where
  | input (error : BoundedInputError)
  | json (message : String)
  | oracle (abort : Abort)
  | ocsp (error : OcspError)
  | pem (error : PemError)
  | mutation (error : MutationError)
  | write (message : String)
  | corpus (error : CorpusError)
  deriving Repr, DecidableEq

/-- What the names of the file system are opened as. -/
abbrev Files := String → Except String OpenFile

/-- The libraries of the commands. The file system is not fixed with them. -/
structure CommandSystem extends CorpusSystem where
  base64Encode : List UInt8 → String
  /-- `from_slice::<VerificationRequest>`, with the texts of its errors. -/
  requestFromSlice : List UInt8 → Except String VerificationRequest
  /-- `to_value` and `to_writer_pretty`. -/
  pretty : Output → Except String String
  /-- `fs::write`: what it leaves behind, and how it ended. -/
  write : Files → String → List UInt8 → Files × Except String Unit

section Run

variable (sys : CommandSystem) (files : Files)

def CommandSystem.library : Library := { sys.toLibrary with openFile := files }

def CommandSystem.corpusSystem : CorpusSystem := { sys.toCorpusSystem with openFile := files }

/-- `parse_from_rfc3339`, as the oracle uses it. -/
def CommandSystem.parsesTime (text : String) : Bool := (sys.parseFromRfc3339 text).isSome

/-- The PEM document that a mutation writes. -/
def mutatedPem (certificate : String) (limit : Nat) : Except CommandError String := do
  let der ← mapErr .pem (readDer (sys.library files) certificate .certificate limit)
  let mutated ← mapErr .mutation (corruptOuterSignature (sys.library files) der)
  return encodeCertificatePem sys.base64Encode mutated

/-- A command up to the document that it prints, with the files that it leaves behind. -/
def execute : Command → Files × Except CommandError Output
  | .verify request limit => (files, do
      let bytes ← mapErr .input (readBoundedFile (sys.library files) request limit)
      let request ← mapErr .json (sys.requestFromSlice bytes)
      let result ← mapErr .oracle (evaluate sys.parsesTime request)
      return .result result)
  | .checkOcsp certificate issuer response validationTime expectedNonceBase64 maxAgeSeconds
      clockSkewSeconds revocationMode limit => (files, do
      let status ← mapErr .ocsp (checkOcspStatus (sys.library files) certificate issuer response
        validationTime expectedNonceBase64
        ⟨⟨maxAgeSeconds, 0⟩, ⟨clockSkewSeconds, 0⟩, revocationMode, none⟩ limit)
      return .ocspStatus status)
  | .mutateCertificateSignature certificate output limit =>
      match mutatedPem sys files certificate limit with
      | .error error => (files, .error error)
      | .ok pem =>
          let (files, written) := sys.write files output (bytes pem)
          (files, do
            mapErr .write written
            return .mutation certificate output "outer-signature-bit-flip")
  | .verifyCorpus manifest root generator limit => (files, do
      let report ← mapErr .corpus
        (verifyCorpus (sys.corpusSystem files) manifest root generator limit)
      return .corpus report)

/-- `run`, with what it prints: the document, and a line feed after it. -/
def run (command : Command) : Files × Except CommandError String :=
  let (files, outcome) := execute sys files command
  (files, do
    let output ← outcome
    let text ← mapErr .json (sys.pretty output)
    return text ++ "\n")

/-- The files that a sequence of commands leaves behind. -/
def runAll : List Command → Files :=
  List.foldl (fun files command => (run sys files command).1) files

end Run

/-! ## The verify command -/

section Verify

variable (sys : CommandSystem) (files : Files) (path : String) (limit : Nat)

/-- The request that a file asks about. -/
def Asks (request : VerificationRequest) : Prop :=
  ∃ file contents, files path = .ok file ∧ file.isFile = true ∧ file.len ≤ limit ∧
    file.contents = .ok contents ∧ contents.length ≤ limit ∧
    sys.requestFromSlice contents = .ok request

/-- What stops the command, with the error that it ends with. -/
inductive VerifyFault : CommandError → Prop
  | input {error : BoundedInputError} (fault : FileFault (sys.library files) path limit error) :
      VerifyFault (.input error)
  | malformed {file : OpenFile} {contents : List UInt8} {message : String}
      (opened : files path = .ok file) (regular : file.isFile = true) (announced : file.len ≤ limit)
      (read : file.contents = .ok contents) (fits : contents.length ≤ limit)
      (failed : sys.requestFromSlice contents = .error message) : VerifyFault (.json message)
  | refused {request : VerificationRequest} {error : OracleError}
      (asks : Asks sys files path limit request)
      (failed : validateRequest sys.parsesTime request = .error (.err error)) :
      VerifyFault (.oracle (.err error))
  | unprinted {request : VerificationRequest} {answer : VerificationResult} {message : String}
      (asks : Asks sys files path limit request) (wellFormed : WellFormed sys.parsesTime request)
      (outcome : Outcome request answer) (failed : sys.pretty (.result answer) = .error message) :
      VerifyFault (.json message)

variable {sys files path limit}

theorem asks_iff {request : VerificationRequest} : Asks sys files path limit request ↔
    ∃ contents, readBoundedFile (sys.library files) path limit = .ok contents ∧
      sys.requestFromSlice contents = .ok request := by
  simp only [readBoundedFile_ok_iff]
  constructor
  · rintro ⟨file, contents, opened, regular, announced, read, fits, parsed⟩
    exact ⟨contents, ⟨file, opened, regular, announced, read, fits⟩, parsed⟩
  · rintro ⟨contents, ⟨file, opened, regular, announced, read, fits⟩, parsed⟩
    exact ⟨file, contents, opened, regular, announced, read, fits, parsed⟩

theorem verify_ok_iff {output : String} :
    (run sys files (.verify path limit)).2 = .ok output ↔ ∃ request answer text,
      Asks sys files path limit request ∧ WellFormed sys.parsesTime request ∧
      Outcome request answer ∧ sys.pretty (.result answer) = .ok text ∧ text ++ "\n" = output := by
  simp only [run, execute, bind_ok_iff, mapErr_ok_iff, pure_ok_iff, evaluate_ok_iff, asks_iff]
  constructor
  · rintro ⟨_, ⟨contents, read, request, parsed, answer, ⟨wf, outcome⟩, rfl⟩, text, printed, same⟩
    exact ⟨request, answer, text, ⟨contents, read, parsed⟩, wf, outcome, printed, same⟩
  · rintro ⟨request, answer, text, ⟨contents, read, parsed⟩, wf, outcome, printed, same⟩
    exact ⟨_, ⟨contents, read, request, parsed, answer, ⟨wf, outcome⟩, rfl⟩, text, printed, same⟩

theorem verify_error_iff {error : CommandError} :
    (run sys files (.verify path limit)).2 = .error error ↔
      VerifyFault sys files path limit error := by
  simp only [run, execute, bind_error_iff, bind_ok_iff, mapErr_error_iff, mapErr_ok_iff,
    pure_ok_iff, evaluate_ok_iff, evaluate_error_iff, readBoundedFile_error_iff]
  constructor
  · rintro (stopped | ⟨_, ⟨contents, read, request, parsed, answer, ⟨wf, outcome⟩, rfl⟩, printing⟩)
    · rcases stopped with ⟨source, fault, rfl⟩ | ⟨contents, read, rest⟩
      · exact .input fault
      · obtain ⟨file, opened, regular, announced, whole, fits⟩ := readBoundedFile_ok_iff.mp read
        rcases rest with ⟨message, failed, rfl⟩ | ⟨request, parsed, rest⟩
        · exact .malformed opened regular announced whole fits failed
        · rcases rest with ⟨abort, failed, rfl⟩ | ⟨_, _, returned⟩
          · -- Validation does not panic.
            obtain ⟨refusal, rfl⟩ := validateRequest_raises _ _ _ failed
            exact .refused (asks_iff.mpr ⟨contents, read, parsed⟩) failed
          · cases returned
    · have asks := asks_iff.mpr ⟨contents, read, parsed⟩
      rcases printing with ⟨message, failed, rfl⟩ | ⟨_, _, returned⟩
      · exact .unprinted asks wf outcome failed
      · cases returned
  · intro fault
    cases fault with
    | input fault => exact .inl (.inl ⟨_, fault, rfl⟩)
    | malformed opened regular announced whole fits failed =>
        have read : readBoundedFile (sys.library files) path limit = .ok _ :=
          readBoundedFile_ok_iff.mpr ⟨_, opened, regular, announced, whole, fits⟩
        exact .inl (.inr ⟨_, read, .inl ⟨_, failed, rfl⟩⟩)
    | refused asks failed =>
        obtain ⟨contents, read, parsed⟩ := asks_iff.mp asks
        exact .inl (.inr ⟨contents, read, .inr ⟨_, parsed, .inl ⟨_, failed, rfl⟩⟩⟩)
    | unprinted asks wf outcome failed =>
        obtain ⟨contents, read, parsed⟩ := asks_iff.mp asks
        exact .inr ⟨_, ⟨contents, read, _, parsed, _, ⟨wf, outcome⟩, rfl⟩,
          .inl ⟨_, failed, rfl⟩⟩

/-- The command prints the result of the request that the file asks about, exactly where there
    is one and it is well formed, and otherwise ends with what is wrong with the file, the
    document, the request or the printing. It never panics and leaves every file as it is. -/
theorem verify_exact :
    (∀ output, (run sys files (.verify path limit)).2 = .ok output ↔ ∃ request answer text,
      Asks sys files path limit request ∧ WellFormed sys.parsesTime request ∧
      Outcome request answer ∧ sys.pretty (.result answer) = .ok text ∧ text ++ "\n" = output) ∧
    (∀ error, (run sys files (.verify path limit)).2 = .error error ↔
      VerifyFault sys files path limit error) ∧
    (run sys files (.verify path limit)).1 = files :=
  ⟨fun _ => verify_ok_iff, fun _ => verify_error_iff, rfl⟩

end Verify

/-! ## What a command changes -/

section Changes

variable {sys : CommandSystem}

/-- Writing the one name leaves what the other name is opened as: they are not names of the
    same file. -/
def Separate (sys : CommandSystem) (written name : String) : Prop :=
  ∀ files contents, (sys.write files written contents).1 name = files name

/-- A name under which what was written is found again. -/
def Regular (sys : CommandSystem) (name : String) : Prop :=
  ∀ files contents, (sys.write files name contents).2 = .ok () →
    (sys.write files name contents).1 name = .ok ⟨true, contents.length, .ok contents⟩

/-- One command. -/
theorem run_untouched {command : Command} {name : String}
    (apart : ∀ written ∈ command.output, Separate sys written name) (files : Files) :
    (run sys files command).1 name = files name := by
  cases command with
  | verify request limit => rfl
  | checkOcsp certificate issuer response time nonce maxAge clockSkew mode limit => rfl
  | verifyCorpus manifest root generator limit => rfl
  | mutateCertificateSignature certificate output limit =>
      cases written : mutatedPem sys files certificate limit with
      | error error => simp only [run, execute, written]
      | ok pem =>
          simp only [run, execute, written]
          exact apart output rfl files (bytes pem)

/-- A sequence of commands. -/
theorem runAll_untouched {commands : List Command} {name : String}
    (apart : ∀ command ∈ commands, ∀ written ∈ command.output, Separate sys written name)
    (files : Files) : runAll sys files commands name = files name := by
  induction commands generalizing files with
  | nil => rfl
  | cons command rest ih =>
      obtain ⟨first, others⟩ := List.forall_mem_cons.mp apart
      calc runAll sys files (command :: rest) name
          = (run sys files command).1 name := ih others _
        _ = files name := run_untouched first files

end Changes

/-! ## Two mutations -/

section Mutations

variable {sys : CommandSystem} {files : Files} {certificate output : String} {limit : Nat}

/-- What a mutation writes. -/
def CommandSystem.text (sys : CommandSystem) (der : List UInt8) : List UInt8 :=
  bytes (encodeCertificatePem sys.base64Encode der)

theorem run_mutate {der damaged : List UInt8}
    (read : readDer (sys.library files) certificate .certificate limit = .ok der)
    (corrupted : corruptOuterSignature sys.toLibrary der = .ok damaged) :
    run sys files (.mutateCertificateSignature certificate output limit) =
      ((sys.write files output (sys.text damaged)).1, do
        mapErr .write (sys.write files output (sys.text damaged)).2
        let text ← mapErr .json
          (sys.pretty (.mutation certificate output "outer-signature-bit-flip"))
        return text ++ "\n") := by
  have corrupted' : corruptOuterSignature (sys.library files) der = .ok damaged := corrupted
  have pem : mutatedPem sys files certificate limit =
      .ok (encodeCertificatePem sys.base64Encode damaged) := by
    simp only [mutatedPem, read, corrupted', mapErr, ok_bind, pure_eq_ok]
  simp only [run, execute, pem, CommandSystem.text]
  cases (sys.write files output (bytes (encodeCertificatePem sys.base64Encode damaged))).2 <;> rfl

/-- A mutation that succeeds read a certificate that can be mutated. -/
theorem mutate_ok {printed : String}
    (succeeded : (run sys files (.mutateCertificateSignature certificate output limit)).2 =
      .ok printed) :
    ∃ der damaged, readDer (sys.library files) certificate .certificate limit = .ok der ∧
      corruptOuterSignature sys.toLibrary der = .ok damaged := by
  cases pem : mutatedPem sys files certificate limit with
  | error error =>
      simp only [run, execute, pem, bind_ok_iff] at succeeded
      obtain ⟨_, failed, _⟩ := succeeded
      cases failed
  | ok text =>
      simp only [mutatedPem, bind_ok_iff, mapErr_ok_iff, pure_ok_iff] at pem
      obtain ⟨der, read, damaged, corrupted, _⟩ := pem
      exact ⟨der, damaged, read, corrupted⟩

variable {readTbs : List UInt8 → Option (X509Certificate × List UInt8)}
  {readAlgorithm : List UInt8 → Option (AlgorithmIdentifier × List UInt8)}
  {decode : String → Option (List UInt8)}

/-- A file that holds what a mutation writes. -/
theorem readDer_text (base64 : Base64.Standard sys.base64Encode decode) {der : List UInt8}
    (reads : sys.parseX509Pem (sys.text der) = parseX509Pem decode (sys.text der)) {path : String}
    (stored : files path = .ok ⟨true, (sys.text der).length, .ok (sys.text der)⟩)
    (fits : (sys.text der).length ≤ limit) :
    readDer (sys.library files) path .certificate limit = .ok der := by
  have opened : (sys.library files).openFile path =
      .ok ⟨true, (sys.text der).length, .ok (sys.text der)⟩ := stored
  have parsed : (sys.library files).parseX509Pem (sys.text der) =
      parseX509Pem decode (sys.text der) := reads
  exact readDer_encoded base64 rfl parsed opened fits

/-- A mutation undoes a mutation: once a certificate was mutated into a file, and after any
    commands that do not write that file, mutating the file again writes the certificate that
    was read first, and does not fail before the write. -/
theorem mutation_undone
    (parser : sys.certificateFromDer = certificateFromDer readTbs readAlgorithm)
    (tbsFront : ReadsFront readTbs) (algorithmFront : ReadsFront readAlgorithm)
    (base64 : Base64.Standard sys.base64Encode decode)
    (reads : ∀ der, sys.parseX509Pem (sys.text der) = parseX509Pem decode (sys.text der))
    (regular : Regular sys output) {commands : List Command} {printed : String}
    (succeeded : (run sys files (.mutateCertificateSignature certificate output limit)).2 =
      .ok printed)
    (apart : ∀ command ∈ commands, ∀ written ∈ command.output, Separate sys written output) :
    ∃ der damaged, readDer (sys.library files) certificate .certificate limit = .ok der ∧
      corruptOuterSignature sys.toLibrary der = .ok damaged ∧ damaged ≠ der ∧
      ∀ restored limit', (sys.text damaged).length ≤ limit' →
        let later := runAll sys files
          (.mutateCertificateSignature certificate output limit :: commands)
        let after := run sys later (.mutateCertificateSignature output restored limit')
        after.1 = (sys.write later restored (sys.text der)).1 ∧
        (∀ error, after.2 = .error error →
          (∃ message, error = .write message) ∨ ∃ message, error = .json message) ∧
        ((∃ printed, after.2 = .ok printed) → Regular sys restored →
          ∀ limit, (sys.text der).length ≤ limit →
            readDer (sys.library after.1) restored .certificate limit = .ok der) := by
  obtain ⟨der, damaged, read, corrupted⟩ := mutate_ok succeeded
  have back := corruptOuterSignature_twice parser tbsFront algorithmFront corrupted
  refine ⟨der, damaged, read, corrupted, corruptOuterSignature_ne corrupted, ?_⟩
  intro restored limit' fits later
  rw [run_mutate read corrupted] at succeeded
  simp only [bind_ok_iff, exists_unit_iff, mapErr_ok_iff] at succeeded
  have stored : later output = .ok ⟨true, (sys.text damaged).length, .ok (sys.text damaged)⟩ := by
    have kept : later output =
        (run sys files (.mutateCertificateSignature certificate output limit)).1 output :=
      runAll_untouched apart _
    rw [kept, run_mutate read corrupted]
    exact regular files _ succeeded.1
  have readAgain : readDer (sys.library later) output .certificate limit' = .ok damaged :=
    readDer_text base64 (reads damaged) stored fits
  rw [run_mutate readAgain back]
  refine ⟨rfl, ?_, ?_⟩
  · intro error failed
    simp only [bind_error_iff, mapErr_error_iff, mapErr_ok_iff] at failed
    rcases failed with ⟨message, -, rfl⟩ | ⟨_, -, ⟨message, -, rfl⟩ | ⟨_, -, returned⟩⟩
    · exact .inl ⟨message, rfl⟩
    · exact .inr ⟨message, rfl⟩
    · cases returned
  · rintro ⟨printed, ended⟩ regular limit fits
    simp only [bind_ok_iff, exists_unit_iff, mapErr_ok_iff] at ended
    exact readDer_text base64 (reads der) (regular later _ ended.1) fits

end Mutations

namespace Fixture

/-- `serde_json::json!` of a mutation. -/
def mutationText (input output mutation : String) : String :=
  "\x7b\n  \"input\": \"" ++ input ++ "\",\n  \"mutation\": \"" ++ mutation ++
    "\",\n  \"output\": \"" ++ output ++ "\"\n\x7d"

def system : CommandSystem where
  toLibrary := { X509.Fixture.outerLibrary with parseX509Pem := parseX509Pem Base64.decode }
  manifestFromSlice := fun _ => .error "invalid number at line 1 column 2"
  base64Encode := Base64.encode
  requestFromSlice := fun _ => .error "invalid number at line 1 column 2"
  pretty
    | .mutation input output mutation => .ok (mutationText input output mutation)
    | .result _ | .ocspStatus _ | .corpus _ => .error "not printed"
  write := fun files name contents =>
    (fun other => if other = name then .ok ⟨true, contents.length, .ok contents⟩ else files other,
      .ok ())

def stored : Files := fun name =>
  let text := system.text X509.Fixture.outerCertificate
  if name = "leaf.pem" then .ok ⟨true, text.length, .ok text⟩ else .error "no such file"

theorem regular (name : String) : Regular system name := fun _ _ _ => if_pos rfl

theorem separate {written name : String} (different : name ≠ written) :
    Separate system written name := fun _ _ => if_neg different

/-- Commands between the two mutations. -/
def between : List Command :=
  [.mutateCertificateSignature "damaged.pem" "other.pem" 4096, .verify "leaf.pem" 4096]

end Fixture

theorem mutation_undone_leaf : ∃ damaged,
    damaged ≠ X509.Fixture.outerCertificate ∧
      let later := runAll Fixture.system Fixture.stored
        (.mutateCertificateSignature "leaf.pem" "damaged.pem" 4096 :: Fixture.between)
      let after := run Fixture.system later
        (.mutateCertificateSignature "damaged.pem" "restored.pem" 4096)
      readDer (Fixture.system.library after.1) "restored.pem" .certificate 4096 =
        .ok X509.Fixture.outerCertificate := by
  have parser : Fixture.system.certificateFromDer = certificateFromDer
      (X509.Fixture.readSequence X509.Fixture.leafCertificate)
      (X509.Fixture.readSequence X509.Fixture.ecdsaWithSha256) := rfl
  have succeeded : ∃ printed, (run Fixture.system Fixture.stored
      (.mutateCertificateSignature "leaf.pem" "damaged.pem" 4096)).2 = .ok printed := by
    decide +kernel
  have apart : ∀ command ∈ Fixture.between, ∀ written ∈ command.output,
      Separate Fixture.system written "damaged.pem" := by
    simpa [Fixture.between, Command.output] using Fixture.separate (by decide)
  obtain ⟨printed, succeeded⟩ := succeeded
  obtain ⟨der, damaged, read, corrupted, different, undone⟩ := mutation_undone parser
    (X509.Fixture.readsFront_readSequence _) (X509.Fixture.readsFront_readSequence _)
    Base64.standard (fun _ => rfl) (Fixture.regular "damaged.pem") succeeded apart
  have whole : readDer (Fixture.system.library Fixture.stored) "leaf.pem" .certificate 4096 =
      .ok X509.Fixture.outerCertificate := by
    decide +kernel
  obtain rfl := ok_unique whole read
  have fits : ∃ damaged, corruptOuterSignature Fixture.system.toLibrary
      X509.Fixture.outerCertificate = .ok damaged ∧
      (Fixture.system.text damaged).length ≤ 4096 := by
    decide +kernel
  obtain ⟨_, corrupted', fits⟩ := fits
  obtain rfl := ok_unique corrupted corrupted'
  have short : (Fixture.system.text X509.Fixture.outerCertificate).length ≤ 4096 := by
    decide +kernel
  obtain ⟨-, -, restored⟩ := undone "restored.pem" 4096 fits
  refine ⟨damaged, different, restored ?_ (Fixture.regular _) 4096 short⟩
  decide +kernel

end HybridX509.Commands
