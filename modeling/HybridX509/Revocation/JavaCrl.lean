import HybridX509.Lib.Registry
import HybridX509.Revocation.Crl

/-! # The Java check of a revocation list

`verifyCrlStatus` of the Bouncy Castle adapter, beside `check_crl_status`. Both
feed the revocation check of an evidence item. On inputs the two libraries read
alike they agree about authenticity. They disagree at the instant of the next update,
and before it from one date of the list up to another: the date of the entry that Java
looks up, and the first date of an entry that revokes for Rust.
-/

namespace HybridX509.Revocation.Java

open Lib X509 Revocation

variable {Principal PublicKey : Type} [DecidableEq Principal]

/-- A certificate as the adapter reads it; `getKeyUsage` may throw. -/
structure X509Certificate (Principal PublicKey : Type) where
  issuerX500Principal : Principal
  subjectX500Principal : Principal
  publicKey : PublicKey
  keyUsage : Except String (Option (List Bool))
  serialNumber : Int

/-- A revoked entry; dates are in milliseconds since the epoch. -/
structure X509CrlEntry where
  serialNumber : Int
  revocationDate : Int
  deriving Repr, DecidableEq

structure X509Crl (Principal : Type) where
  issuerX500Principal : Principal
  thisUpdate : Int
  nextUpdate : Option Int
  entries : List X509CrlEntry

/-- The provider behind the interfaces; a verification that fails throws. -/
structure Provider (Principal PublicKey : Type) where
  verifyCertificate : X509Certificate Principal PublicKey → PublicKey → Except String Unit
  verifyCrl : X509Crl Principal → PublicKey → Except String Unit
  getRevokedCertificate : X509Crl Principal → Int → Option X509CrlEntry

/-- `Date.from`: an instant in nanoseconds, cut to milliseconds. -/
def dateFrom (instant : Int) : Int := instant / 1000000

/-- `keyUsage == null || keyUsage.length > 6 && keyUsage[6]`. -/
def mayCrlSign : Option (List Bool) → Bool
  | none => true
  | some keyUsage => 6 < keyUsage.length && keyUsage.getD 6 false

/-- The body of the `try` block. -/
def crlStatus (provider : Provider Principal PublicKey)
    (issuer target : X509Certificate Principal PublicKey) (crl : X509Crl Principal)
    (validationTime : Int) : Except String Bool := do
  provider.verifyCertificate target issuer.publicKey
  provider.verifyCrl crl issuer.publicKey
  let keyUsage ← issuer.keyUsage
  let entry := provider.getRevokedCertificate crl target.serialNumber
  let time := dateFrom validationTime
  return target.issuerX500Principal == issuer.subjectX500Principal
    && crl.issuerX500Principal == issuer.subjectX500Principal
    && mayCrlSign keyUsage
    && !decide (time < crl.thisUpdate)
    && crl.nextUpdate.any (fun nextUpdate => !decide (nextUpdate < time))
    && entry.all (fun entry => time < entry.revocationDate)

def verifyCrlStatus (provider : Provider Principal PublicKey)
    (issuer target : X509Certificate Principal PublicKey) (crl : X509Crl Principal)
    (validationTime : Int) : Bool :=
  match crlStatus provider issuer target crl validationTime with
  | .ok status => status
  | .error _ => false

/-! ## Inputs that both libraries read alike -/

/-- What Java reads of a revoked certificate. -/
def readEntry (entry : RevokedCertificate) : X509CrlEntry :=
  ⟨signed entry.rawSerial, 1000 * entry.revocationDate.toInt⟩

/-- The two libraries agree on names, signatures, key usage, serials and times of
    one input, and the lookup does what its interface says: it returns an entry with
    the serial, `found`, if there is one. Serials are integers in Java and times have
    milliseconds. -/
structure ReadAlike (lib : Library) (input : CrlInput) (found : Option RevokedCertificate)
    (provider : Provider Principal PublicKey) (issuer target : X509Certificate Principal PublicKey)
    (crl : X509Crl Principal) (validationTime : Int) : Prop where
  targetIssuer : target.issuerX500Principal = issuer.subjectX500Principal ↔
    input.certificate.issuer = input.issuer.subject
  crlIssuer : crl.issuerX500Principal = issuer.subjectX500Principal ↔
    input.crl.issuer = input.issuer.subject
  targetSignature : provider.verifyCertificate target issuer.publicKey = .ok () ↔
    input.certificate.verifySignature lib input.issuer.publicKey = .ok ()
  crlSignature : provider.verifyCrl crl issuer.publicKey = .ok () ↔
    input.crl.verifySignature lib input.issuer.publicKey = .ok ()
  keyUsage : (∃ bits, issuer.keyUsage = .ok bits ∧ mayCrlSign bits = true) ↔
    input.issuer.keyUsage = .ok none ∨
      ∃ usage, input.issuer.keyUsage = .ok (some usage) ∧ usage.crlSign = true
  serialNumber : target.serialNumber = signed input.certificate.rawSerial
  thisUpdate : crl.thisUpdate = 1000 * input.crl.lastUpdate.toInt
  nextUpdate : crl.nextUpdate = input.crl.nextUpdate.map (1000 * ·.toInt)
  entries : crl.entries = input.crl.revokedCertificates.map readEntry
  lookup : provider.getRevokedCertificate crl target.serialNumber = found.map readEntry
  lookupSome : ∀ entry, found = some entry → entry ∈ input.crl.revokedCertificates ∧
    signed entry.rawSerial = signed input.certificate.rawSerial
  lookupNone : found = none → ∀ entry ∈ input.crl.revokedCertificates,
    signed entry.rawSerial ≠ signed input.certificate.rawSerial
  validationTime : validationTime / 1000000000 = input.timestamp.toInt

/-! ## Dates -/

/-- The earliest date of the entries that is before the bound, in milliseconds, and
    otherwise the bound. -/
def earliest (bound : Int) (entries : List RevokedCertificate) : Int :=
  (entries.map fun entry => 1000 * entry.revocationDate.toInt).foldr min bound

/-- The entries with the unsigned serial of the certificate that were not removed. -/
def revoking (input : CrlInput) : List RevokedCertificate :=
  input.crl.revokedCertificates.filter fun entry =>
    unsigned entry.rawSerial == unsigned input.certificate.rawSerial
      && entry.reasonCode.all fun (_, reason) => reason != .removeFromCrl

/-- The times at which the two checks are apart on an authentic list: the instant of the
    next update, unless the entry that is looked up has come into force, and before it the
    times from one of the two dates up to the other. -/
inductive Apart (input : CrlInput) (found : Option RevokedCertificate) (now : Int) : Prop where
  | atNextUpdate {next : Int64} (begun : input.crl.lastUpdate ≤ input.timestamp)
      (updates : input.crl.nextUpdate = some next) (instant : now = 1000 * next.toInt)
      (unrevoked : ∀ entry ∈ found, now < 1000 * entry.revocationDate.toInt)
  | betweenDates {next : Int64} (begun : input.crl.lastUpdate ≤ input.timestamp)
      (updates : input.crl.nextUpdate = some next)
      (fromFirst : min (earliest (1000 * next.toInt) (revoking input))
        (earliest (1000 * next.toInt) found.toList) ≤ now)
      (beforeSecond : now < max (earliest (1000 * next.toInt) (revoking input))
        (earliest (1000 * next.toInt) found.toList))

/-- Two bounds decide alike about an instant that does not lie between them. -/
theorem lt_iff_lt_iff {α : Type} [LinearOrder α] {instant first second : α} :
    (instant < first ↔ instant < second) ↔
      ¬ (min first second ≤ instant ∧ instant < max first second) := by
  rw [min_le_iff, lt_max_iff, ← not_lt, ← not_lt]
  tauto

theorem lt_earliest_iff {instant bound : Int} {entries : List RevokedCertificate} :
    instant < earliest bound entries ↔
      instant < bound ∧ ∀ entry ∈ entries, instant < 1000 * entry.revocationDate.toInt := by
  induction entries with
  | nil => simp [earliest]
  | cons entry rest ih =>
      simp only [earliest, List.map_cons, List.foldr_cons, List.forall_mem_cons] at ih ⊢
      rw [lt_min_iff, ih]
      tauto

theorem verifyCrlStatus_iff {provider : Provider Principal PublicKey}
    {issuer target : X509Certificate Principal PublicKey} {crl : X509Crl Principal}
    {validationTime : Int} :
    verifyCrlStatus provider issuer target crl validationTime = true ↔
      provider.verifyCertificate target issuer.publicKey = .ok () ∧
      provider.verifyCrl crl issuer.publicKey = .ok () ∧
      (∃ bits, issuer.keyUsage = .ok bits ∧ mayCrlSign bits = true) ∧
      target.issuerX500Principal = issuer.subjectX500Principal ∧
      crl.issuerX500Principal = issuer.subjectX500Principal ∧
      crl.thisUpdate ≤ dateFrom validationTime ∧
      (∃ next, crl.nextUpdate = some next ∧ dateFrom validationTime ≤ next) ∧
      ∀ entry, provider.getRevokedCertificate crl target.serialNumber = some entry →
        dateFrom validationTime < entry.revocationDate := by
  have returned : verifyCrlStatus provider issuer target crl validationTime = true ↔
      crlStatus provider issuer target crl validationTime = .ok true := by
    unfold verifyCrlStatus
    cases crlStatus provider issuer target crl validationTime <;> simp
  simp only [returned, crlStatus, bind_ok_iff, exists_unit_iff, pure_ok_iff, Bool.and_eq_true,
    beq_iff_eq, Bool.not_eq_true', decide_eq_false_iff_not, not_lt, Option.any_eq_true,
    Option.all_eq_true, decide_eq_true_eq]
  constructor
  · rintro ⟨targetOk, crlOk, bits, usage, ⟨⟨⟨⟨name, crlName⟩, sign⟩, last⟩, next⟩, absent⟩
    exact ⟨targetOk, crlOk, ⟨bits, usage, sign⟩, name, crlName, last, next, absent⟩
  · rintro ⟨targetOk, crlOk, ⟨bits, usage, sign⟩, name, crlName, last, next, absent⟩
    exact ⟨targetOk, crlOk, bits, usage, ⟨⟨⟨⟨name, crlName⟩, sign⟩, last⟩, next⟩, absent⟩

section Comparison

variable {lib : Library} {input : CrlInput} {found : Option RevokedCertificate}
  {provider : Provider Principal PublicKey} {issuer target : X509Certificate Principal PublicKey}
  {crl : X509Crl Principal} {validationTime : Int}

/-- Rust accepts an authentic list from its last update up to the next one, until the
    first date of an entry that revokes. -/
theorem accepted_iff (time : validationTime / 1000000000 = input.timestamp.toInt) :
    Current input ∧ ¬ Listed input ↔ input.crl.lastUpdate ≤ input.timestamp ∧
      ∃ next, input.crl.nextUpdate = some next ∧
        dateFrom validationTime < earliest (1000 * next.toInt) (revoking input) := by
  have before (instant : Int64) :
      dateFrom validationTime < 1000 * instant.toInt ↔ input.timestamp < instant := by
    rw [Int64.lt_iff_toInt_lt, dateFrom]
    omega
  have unlisted : ¬ Listed input ↔ ∀ entry ∈ revoking input,
      dateFrom validationTime < 1000 * entry.revocationDate.toInt := by
    simp only [before, revoking, List.mem_filter, Bool.and_eq_true, beq_iff_eq,
      Option.all_eq_true, bne_iff_ne, Prod.forall]
    constructor
    · intro unlisted entry ⟨listed, serial, kept⟩
      apply Int64.not_le.mp
      intro reached
      exact unlisted ⟨entry, listed, serial, reached, kept⟩
    · rintro later ⟨entry, listed, serial, reached, kept⟩
      exact Int64.not_le.mpr (later entry ⟨listed, serial, kept⟩) reached
  simp only [lt_earliest_iff, before, unlisted]
  constructor
  · rintro ⟨⟨last, next, updates, within⟩, later⟩
    exact ⟨last, next, updates, within, later⟩
  · rintro ⟨last, next, updates, within, later⟩
    exact ⟨⟨last, next, updates, within⟩, later⟩

/-- Java accepts it at the instant of the next update too, until the entry it looks up. -/
theorem ReadAlike.verifyCrlStatus_iff
    (alike : ReadAlike lib input found provider issuer target crl validationTime)
    (certificateAlgorithm : input.certificate.signatureAlgorithm = input.certificate.tbsSignature)
    (crlAlgorithm : input.crl.signatureAlgorithm = input.crl.tbsSignature) :
    verifyCrlStatus provider issuer target crl validationTime = true ↔
      Authentic lib input ∧ input.crl.lastUpdate ≤ input.timestamp ∧
        ∃ next, input.crl.nextUpdate = some next ∧ dateFrom validationTime ≤ 1000 * next.toInt ∧
          ∀ entry ∈ found, dateFrom validationTime < 1000 * entry.revocationDate.toInt := by
  have time := alike.validationTime
  have begun : crl.thisUpdate ≤ dateFrom validationTime ↔
      input.crl.lastUpdate ≤ input.timestamp := by
    rw [alike.thisUpdate, Int64.le_iff_toInt_le, dateFrom]
    omega
  have unrevoked : (∀ entry, provider.getRevokedCertificate crl target.serialNumber = some entry →
      dateFrom validationTime < entry.revocationDate) ↔
        ∀ entry ∈ found, dateFrom validationTime < 1000 * entry.revocationDate.toInt := by
    rw [alike.lookup]
    cases found <;> simp [readEntry]
  rw [Java.verifyCrlStatus_iff, alike.targetSignature, alike.crlSignature, alike.keyUsage,
    alike.targetIssuer, alike.crlIssuer, begun, unrevoked, alike.nextUpdate]
  simp only [Option.map_eq_some_iff]
  constructor
  · rintro ⟨signature, crlSignature, usage, name, crlName, last, ⟨_, ⟨next, updates, rfl⟩, bound⟩,
      absent⟩
    exact ⟨⟨name, crlName, certificateAlgorithm, crlAlgorithm, signature, crlSignature, usage⟩,
      last, next, updates, bound, absent⟩
  · rintro ⟨authentic, last, next, updates, bound, absent⟩
    exact ⟨authentic.certificateSignature, authentic.crlSignature, authentic.keyUsage,
      authentic.certificateIssuer, authentic.crlIssuer, last, ⟨_, ⟨next, updates, rfl⟩, bound⟩,
      absent⟩

/-- Without a next update the checks are never apart; with one, by the three places that
    the time can have to it. -/
theorem apart_iff {next : Int64} (updates : input.crl.nextUpdate = some next) {now : Int} :
    Apart input found now ↔ input.crl.lastUpdate ≤ input.timestamp ∧
      ¬ (now < earliest (1000 * next.toInt) (revoking input) ↔
        now ≤ 1000 * next.toInt ∧ ∀ entry ∈ found, now < 1000 * entry.revocationDate.toInt) := by
  have looked (within : now < 1000 * next.toInt) :
      (now ≤ 1000 * next.toInt ∧ ∀ entry ∈ found, now < 1000 * entry.revocationDate.toInt) ↔
        now < earliest (1000 * next.toInt) found.toList := by
    simp [lt_earliest_iff, within, within.le]
  have before {entries : List RevokedCertificate}
      (early : now < earliest (1000 * next.toInt) entries) : now < 1000 * next.toInt :=
    (lt_earliest_iff.mp early).1
  have late (past : 1000 * next.toInt ≤ now) :
      ¬ now < earliest (1000 * next.toInt) (revoking input) :=
    fun early => (before early).not_ge past
  constructor
  · intro apart
    cases apart with
    | atNextUpdate begun updates' instant unrevoked =>
        obtain rfl := Option.some.inj (updates.symm.trans updates')
        refine ⟨begun, fun same => ?_⟩
        exact absurd instant (before (same.mpr ⟨instant.le, unrevoked⟩)).ne
    | betweenDates begun updates' fromFirst beforeSecond =>
        obtain rfl := Option.some.inj (updates.symm.trans updates')
        have within := (lt_max_iff.mp beforeSecond).elim before before
        rw [looked within, lt_iff_lt_iff, not_not]
        exact ⟨begun, fromFirst, beforeSecond⟩
  · rintro ⟨begun, differ⟩
    rcases lt_trichotomy now (1000 * next.toInt) with within | instant | past
    · rw [looked within, lt_iff_lt_iff, not_not] at differ
      exact .betweenDates begun updates differ.1 differ.2
    · simp only [late instant.ge, instant.le, true_and, false_iff, not_not] at differ
      exact .atNextUpdate begun updates instant differ
    · refine absurd (iff_of_false (late past.le) ?_) differ
      rintro ⟨within, _⟩
      exact past.not_ge within

/-- The two checks agree about a list that is not authentic for either of them, and about
    an authentic one unless it is one of the times at which they are apart. -/
theorem crl_checkers_agree_iff {certificatePath issuerPath crlPath time : String} {limit : Nat}
    {result : CrlStatusResult}
    (read : readCrlInput lib certificatePath issuerPath crlPath time limit = .ok input)
    (checked : checkCrlStatus lib certificatePath issuerPath crlPath time limit = .ok result)
    (certificateAlgorithm : input.certificate.signatureAlgorithm = input.certificate.tbsSignature)
    (crlAlgorithm : input.crl.signatureAlgorithm = input.crl.tbsSignature)
    (alike : ReadAlike lib input found provider issuer target crl validationTime) :
    (result.revocation.state = .pass ↔
      verifyCrlStatus provider issuer target crl validationTime = true) ↔
    (Authentic lib input → ¬ Apart input found (dateFrom validationTime)) := by
  obtain ⟨_, rfl⟩ := (checkCrlStatus_ok_iff read).mp checked
  rw [crlStatus_revocation_iff.1, alike.verifyCrlStatus_iff certificateAlgorithm crlAlgorithm,
    and_assoc, accepted_iff alike.validationTime, and_congr_right_iff]
  refine forall_congr' fun _ => ?_
  cases updates : input.crl.nextUpdate with
  | none =>
      refine iff_of_true (by simp) ?_
      rintro (⟨_, updates', _⟩ | ⟨_, updates', _⟩)
      · cases updates.symm.trans updates'
      · cases updates.symm.trans updates'
  | some next =>
      simp only [apart_iff updates, Option.some.injEq, exists_eq_left', and_congr_right_iff,
        not_and, not_not]

/-- A serial that is not negative in two's complement. -/
def Positive (serial : List UInt8) : Prop := ∀ first, serial.head? = some first → first < 128

/-- What a list is as a rule: no negative serial, no serial twice, and nothing removed. -/
structure Plain (input : CrlInput) : Prop where
  certificate : Positive input.certificate.rawSerial
  entries : ∀ entry ∈ input.crl.revokedCertificates, Positive entry.rawSerial
  distinct : (input.crl.revokedCertificates.map (unsigned ·.rawSerial)).Nodup
  kept : ∀ entry ∈ input.crl.revokedCertificates, ∀ critical,
    entry.reasonCode ≠ some (critical, .removeFromCrl)

omit [DecidableEq Principal] in
/-- In a plain list the two searches find the same entry. -/
theorem ReadAlike.revoking_eq
    (alike : ReadAlike lib input found provider issuer target crl validationTime)
    (plain : Plain input) : revoking input = found.toList := by
  have serial (entry : RevokedCertificate) (listed : entry ∈ input.crl.revokedCertificates) :
      signed entry.rawSerial = signed input.certificate.rawSerial ↔
        unsigned entry.rawSerial = unsigned input.certificate.rawSerial := by
    rw [signed_eq_unsigned (plain.entries entry listed), signed_eq_unsigned plain.certificate]
    exact Int.ofNat_inj
  have kept (entry : RevokedCertificate) (listed : entry ∈ input.crl.revokedCertificates) :
      entry.reasonCode.all (fun (_, reason) => reason != .removeFromCrl) = true := by
    simp only [Option.all_eq_true, Prod.forall, bne_iff_ne]
    rintro critical reason given rfl
    exact plain.kept entry listed critical given
  have same : revoking input = input.crl.revokedCertificates.filter fun entry =>
      unsigned entry.rawSerial == unsigned input.certificate.rawSerial :=
    List.filter_congr fun entry listed => by rw [kept entry listed, Bool.and_true]
  rw [same]
  cases looked : found with
  | none =>
      refine List.filter_eq_nil_iff.mpr fun entry listed equal => ?_
      exact alike.lookupNone looked entry listed ((serial entry listed).mpr (beq_iff_eq.mp equal))
  | some entry =>
      obtain ⟨listed, equal⟩ := alike.lookupSome entry looked
      rw [← (serial entry listed).mp equal]
      exact filter_key_eq_singleton plain.distinct listed

omit [DecidableEq Principal] in
/-- On a plain list the two dates are one, and the instant of the next update remains. -/
theorem ReadAlike.apart_instant
    (alike : ReadAlike lib input found provider issuer target crl validationTime)
    (plain : Plain input) {now : Int} (apart : Apart input found now) :
    ∃ next, input.crl.nextUpdate = some next ∧ now = 1000 * next.toInt := by
  cases apart with
  | atNextUpdate _ updates instant _ => exact ⟨_, updates, instant⟩
  | betweenDates _ _ fromFirst beforeSecond =>
      rw [alike.revoking_eq plain, min_self] at fromFirst
      rw [alike.revoking_eq plain, max_self] at beforeSecond
      exact absurd beforeSecond fromFirst.not_gt

end Comparison

namespace Fixture

open X509.Fixture Revocation.Fixture

/-- A provider whose verifications pass and that looks entries up from the front. -/
def provider : Provider String Unit where
  verifyCertificate _ _ := .ok ()
  verifyCrl _ _ := .ok ()
  getRevokedCertificate crl serialNumber := crl.entries.find? (·.serialNumber == serialNumber)

def ca : X509Certificate String Unit := ⟨"CN=CA", "CN=CA", (), .ok none, 1⟩

def leaf : X509Certificate String Unit := ⟨"CN=CA", "CN=leaf", (), .ok none, 255⟩

/-- The list with the given entries, as the two libraries read it. -/
def rustCrl (entries : List RevokedCertificate) : CertificateRevocationList :=
  { crl with revokedCertificates := entries }

def javaCrl (entries : List RevokedCertificate) : X509Crl String :=
  ⟨"CN=CA", 0, some (1000 * newYear.toInt), entries.map readEntry⟩

def lookUp (entries : List RevokedCertificate) : Option RevokedCertificate :=
  entries.find? fun entry => signed entry.rawSerial == signed leafCertificate.rawSerial

theorem readAlike (entries : List RevokedCertificate) {timestamp : Int64} {validationTime : Int}
    (same : validationTime / 1000000000 = timestamp.toInt) :
    ReadAlike (crlLibrary (rustCrl entries)) (crlInput (rustCrl entries) timestamp)
      (lookUp entries) provider ca leaf (javaCrl entries) validationTime where
  targetIssuer := iff_of_true rfl rfl
  crlIssuer := iff_of_true rfl rfl
  targetSignature := iff_of_true rfl rfl
  crlSignature := iff_of_true rfl rfl
  keyUsage := ⟨fun _ => .inl rfl, fun _ => ⟨none, rfl, rfl⟩⟩
  serialNumber := rfl
  thisUpdate := rfl
  nextUpdate := rfl
  entries := rfl
  lookup := List.find?_map ..
  lookupSome := by
    intro entry looked
    have matched := List.find?_some looked
    exact ⟨List.mem_of_find?_eq_some looked, beq_iff_eq.mp matched⟩
  lookupNone := fun looked entry listed same =>
    List.find?_eq_none.mp looked entry listed (beq_iff_eq.mpr same)
  validationTime := same

/-- Another certificate was revoked in 1970, and the leaf will be in September. -/
def entries : List RevokedCertificate :=
  [⟨[2], 0, [], none⟩, ⟨[0, 255], 1790000000, [], some (false, ⟨1⟩)⟩]

theorem plain (timestamp : Int64) : Plain (crlInput (rustCrl entries) timestamp) where
  certificate := by rintro _ ⟨⟩; decide
  entries := by simp [crlInput, rustCrl, entries, Positive]
  distinct := by show ([_, _] : List Nat).Nodup; decide
  kept := by simp [crlInput, rustCrl, entries, ReasonCode.removeFromCrl]

end Fixture

open X509.Fixture Revocation.Fixture in
/-- Both accept in June. -/
theorem crl_checkers_agree_within_window :
    ∃ result, checkCrlStatus (crlLibrary (Fixture.rustCrl Fixture.entries)) "leaf.pem" "ca.pem"
        "crl.pem" "2026-06-20T00:00:00Z" 64 = .ok result ∧
      result.revocation.state = .pass ∧
      (result.revocation.state = .pass ↔ verifyCrlStatus Fixture.provider Fixture.ca Fixture.leaf
        (Fixture.javaCrl Fixture.entries) 1781913600500000000 = true) := by
  have alike := @Fixture.readAlike Fixture.entries now 1781913600500000000 (by decide)
  refine ⟨_, rfl, by decide, (crl_checkers_agree_iff
    (readCrlInput_now (Fixture.rustCrl Fixture.entries)) rfl rfl rfl alike).mpr fun _ apart => ?_⟩
  obtain ⟨next, updates, same⟩ := alike.apart_instant (Fixture.plain now) apart
  obtain rfl : newYear = next := Option.some.inj updates
  exact absurd same (by decide)

open X509.Fixture Revocation.Fixture in
/-- At the instant of the next update Java still accepts. -/
theorem crl_checkers_disagree_at_next_update :
    ∃ result, checkCrlStatus (crlLibrary (Fixture.rustCrl [])) "leaf.pem" "ca.pem" "crl.pem"
        "2027-01-01T00:00:00Z" 64 = .ok result ∧
      ReadAlike (crlLibrary (Fixture.rustCrl [])) (crlInput (Fixture.rustCrl []) newYear) none
        Fixture.provider Fixture.ca Fixture.leaf (Fixture.javaCrl []) 1798761600000000000 ∧
      leafCertificate.signatureAlgorithm = leafCertificate.tbsSignature ∧
      crl.signatureAlgorithm = crl.tbsSignature ∧
      result.revocation.state = .indeterminate ∧
      verifyCrlStatus Fixture.provider Fixture.ca Fixture.leaf (Fixture.javaCrl [])
        1798761600000000000 = true :=
  ⟨_, rfl, Fixture.readAlike [] (by decide), rfl, rfl, by decide, by decide⟩

end HybridX509.Revocation.Java
