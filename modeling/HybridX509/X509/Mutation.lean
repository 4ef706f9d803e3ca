import HybridX509.Lib.Der
import HybridX509.X509.Pem

/-! # The signature mutation

`corrupt_outer_signature` of `mutation.rs`, over a parser that reads the outer structure
of a certificate as DER. The parser looks at the octets of the signature only to reject
padding bits that are set, which is why the mutation of one bit can be parsed again.
-/

namespace HybridX509.X509

open Lib

inductive MutationError where
  | malformedCertificate
  | missingSignature
  | changedSignedContent
  deriving Repr, DecidableEq

def corruptOuterSignature (lib : Library) (der : List UInt8) :
    Except MutationError (List UInt8) := do
  let certificate ← parseComplete lib.certificateFromDer .malformedCertificate der
  let signature := certificate.signatureValue.data
  failIf (signature = []) .missingSignature
  let mutationIndex := certificate.signatureStart + (signature.length - 1)
  failIf (der.length ≤ mutationIndex) .malformedCertificate
  let mutated := der.modify mutationIndex (· ^^^ 1)
  let (remaining, changed) ← orFail (lib.certificateFromDer mutated) .malformedCertificate
  failIf (remaining ≠ [] ∨ changed.tbsRaw ≠ certificate.tbsRaw) .changedSignedContent
  return mutated

/-! ## The outer structure -/

/-- The unused bits of the last octet are zero. -/
def paddingZero (unusedBits : UInt8) (data : List UInt8) : Bool :=
  match data.getLast? with
  | none => unusedBits == 0
  | some last => last.toNat % 2 ^ unusedBits.toNat == 0

/-- The contents of a BIT STRING: at most seven unused bits, all of them zero. -/
def readBitString : List UInt8 → Option BitString
  | [] => none
  | unusedBits :: data =>
      if unusedBits ≤ 7 ∧ paddingZero unusedBits data then some ⟨unusedBits, data⟩ else none

section Parser

variable (readTbs : List UInt8 → Option (X509Certificate × List UInt8))
  (readAlgorithm : List UInt8 → Option (AlgorithmIdentifier × List UInt8))

/-- `X509Certificate::from_der`: a SEQUENCE of the signed part, the algorithm and the
    signature, each read by its own reader. The fields of the signed part are left to
    its reader; what follows the signature inside the SEQUENCE is not looked at. -/
def certificateFromDer (der : List UInt8) : Option (List UInt8 × X509Certificate) := do
  let (content, remaining) ← Der.readElement 0x30 der
  let (tbs, afterTbs) ← readTbs content
  let (algorithm, afterAlgorithm) ← readAlgorithm afterTbs
  let (bits, extra) ← Der.readElement 0x03 afterAlgorithm
  let signature ← readBitString bits
  some (remaining, { tbs with
    tbsRaw := content.take (content.length - afterTbs.length)
    signatureAlgorithm := algorithm
    signatureValue := signature
    signatureStart :=
      der.length - remaining.length - extra.length - signature.data.length })

end Parser

theorem readBitString_eq_some_iff {unusedBits : UInt8} {data : List UInt8} {bits : BitString} :
    readBitString (unusedBits :: data) = some bits ↔
      (unusedBits ≤ 7 ∧ paddingZero unusedBits data = true) ∧ ⟨unusedBits, data⟩ = bits := by
  simp only [readBitString, Option.ite_none_right_eq_some, Option.some.injEq]

theorem readBitString_contents {contents : List UInt8} {bits : BitString}
    (read : readBitString contents = some bits) : contents = bits.unusedBits :: bits.data := by
  cases contents with
  | nil => cases read
  | cons unusedBits data =>
      obtain ⟨_, rfl⟩ := readBitString_eq_some_iff.mp read
      rfl

/-- Whole octets have no padding. -/
theorem readBitString_zero (data : List UInt8) : readBitString (0 :: data) = some ⟨0, data⟩ := by
  refine readBitString_eq_some_iff.mpr ⟨⟨by decide, ?_⟩, rfl⟩
  unfold paddingZero
  split
  · rfl
  · simp [Nat.mod_one]

private theorem take_front (front rest : List UInt8) :
    (front ++ rest).take ((front ++ rest).length - rest.length) = front := by
  rw [List.length_append, Nat.add_sub_cancel_right, List.take_left]

section Layout

variable {readTbs : List UInt8 → Option (X509Certificate × List UInt8)}
  {readAlgorithm : List UInt8 → Option (AlgorithmIdentifier × List UInt8)}

/-- Where the signature stands, and what the parser makes of other octets of the same
    number in its place. -/
theorem certificateFromDer_layout (tbsFront : ReadsFront readTbs)
    (algorithmFront : ReadsFront readAlgorithm) {der remaining : List UInt8}
    {certificate : X509Certificate}
    (parsed : certificateFromDer readTbs readAlgorithm der = some (remaining, certificate)) :
    ∃ front extra, der = front ++ certificate.signatureValue.data ++ extra ++ remaining ∧
      certificate.signatureStart = front.length ∧
      readBitString (certificate.signatureValue.unusedBits :: certificate.signatureValue.data) =
        some certificate.signatureValue ∧
      ∀ data, data.length = certificate.signatureValue.data.length →
        certificateFromDer readTbs readAlgorithm (front ++ data ++ extra ++ remaining) =
          (readBitString (certificate.signatureValue.unusedBits :: data)).map fun signature =>
            (remaining, { certificate with signatureValue := signature }) := by
  simp only [certificateFromDer, Option.bind_eq_bind, Option.bind_eq_some_iff, Prod.exists,
    Option.some.injEq, Prod.mk.injEq] at parsed
  obtain ⟨content, rest, outer, tbs, afterTbs, tbsRead, algorithm, afterAlgorithm, algorithmRead,
    bits, extra, bitsRead, signature, signatureRead, rfl, rfl⟩ := parsed
  obtain rfl := readBitString_contents signatureRead
  obtain ⟨header, rfl, outerAgain⟩ := Der.readElement_front outer
  obtain ⟨tbsOctets, rfl, tbsAgain⟩ := tbsFront _ _ _ tbsRead
  obtain ⟨algorithmOctets, rfl, algorithmAgain⟩ := algorithmFront _ _ _ algorithmRead
  obtain ⟨bitsHeader, rfl, bitsAgain⟩ := Der.readElement_front bitsRead
  refine ⟨header ++ tbsOctets ++ algorithmOctets ++ bitsHeader ++ [signature.unusedBits], extra,
    by simp, ?_, signatureRead, fun data same => ?_⟩
  · simp only [List.length_append, List.length_cons, List.length_nil]
    omega
  · have sameContent : (tbsOctets ++ (algorithmOctets ++ (bitsHeader ++
        (signature.unusedBits :: data) ++ extra))).length = (tbsOctets ++ (algorithmOctets ++
        (bitsHeader ++ (signature.unusedBits :: signature.data) ++ extra))).length := by
      simp only [List.length_append, List.length_cons, same]
    have whole : header ++ tbsOctets ++ algorithmOctets ++ bitsHeader ++ [signature.unusedBits] ++
        data ++ extra ++ rest = header ++ (tbsOctets ++ (algorithmOctets ++ (bitsHeader ++
          (signature.unusedBits :: data) ++ extra))) ++ rest := by
      simp
    rw [whole, certificateFromDer, outerAgain _ _ sameContent]
    simp only [Option.bind_eq_bind, Option.bind_some, tbsAgain, algorithmAgain,
      bitsAgain (signature.unusedBits :: data) extra (by simp [same])]
    cases read : readBitString (signature.unusedBits :: data) with
    | none => rfl
    | some other =>
        obtain ⟨_, rfl⟩ := readBitString_eq_some_iff.mp read
        simp only [Option.bind_some, Option.map_some, take_front, Option.some.injEq, Prod.mk.injEq,
          X509Certificate.mk.injEq, and_true, true_and]
        simp only [List.length_append, List.length_cons, same]

end Layout

/-! ## The mutation -/

/-- The lowest bit of an octet, changed. -/
theorem flip_flip (octet : UInt8) : octet ^^^ 1 ^^^ 1 = octet := by
  rw [UInt8.xor_assoc, UInt8.xor_self, UInt8.xor_zero]

theorem flip_parity (octet : UInt8) : (octet ^^^ 1).toNat % 2 ≠ octet.toNat % 2 := by
  have odd := @Nat.xor_mod_two_eq_one octet.toNat 1
  have value : (octet ^^^ 1).toNat = octet.toNat ^^^ 1 := UInt8.toNat_xor octet 1
  rw [value]
  omega

theorem flip_ne (octet : UInt8) : octet ^^^ 1 ≠ octet := by
  intro same
  have parity := flip_parity octet
  rw [same] at parity
  omega

theorem modify_flip_ne {octets : List UInt8} {index : Nat} (within : index < octets.length) :
    octets.modify index (· ^^^ 1) ≠ octets := by
  intro same
  have octet := congrArg (·[index]?) same
  simp only [List.getElem?_modify, if_true, List.getElem?_eq_getElem within,
    Option.map_eq_map, Option.map_some, Option.some.injEq] at octet
  exact flip_ne _ octet

/-- A lowest bit that can be changed is not padding. -/
theorem unusedBits_of_flip {unusedBits last : UInt8} {init : List UInt8}
    (padded : paddingZero unusedBits (init ++ [last]) = true)
    (padded' : paddingZero unusedBits (init ++ [last ^^^ 1]) = true) : unusedBits = 0 := by
  simp only [paddingZero, List.getLast?_append, List.getLast?_singleton, Option.some_or,
    beq_iff_eq] at padded padded'
  by_contra used
  have positive : unusedBits.toNat ≠ 0 := fun zero => used (UInt8.toNat_inj.mp zero)
  have even : 2 ∣ 2 ^ unusedBits.toNat := dvd_pow_self 2 positive
  have low := Nat.mod_eq_zero_of_dvd (even.trans (Nat.dvd_of_mod_eq_zero padded))
  have low' := Nat.mod_eq_zero_of_dvd (even.trans (Nat.dvd_of_mod_eq_zero padded'))
  have parity := flip_parity last
  omega

private theorem modify_middle {α : Type} (front back : List α) (middle : α) (f : α → α) :
    (front ++ middle :: back).modify front.length f = front ++ f middle :: back := by
  induction front with
  | nil => rfl
  | cons first rest ih => simp [ih]

theorem corruptOuterSignature_ne {lib : Library} {der mutated : List UInt8}
    (succeeded : corruptOuterSignature lib der = .ok mutated) : mutated ≠ der := by
  simp only [corruptOuterSignature, bind_ok_iff, exists_unit_iff, failIf_ok_iff, orFail_ok_iff,
    pure_ok_iff, Nat.not_le] at succeeded
  obtain ⟨certificate, -, -, within, -, -, -, rfl⟩ := succeeded
  exact modify_flip_ne within

section Mutation

variable {readTbs : List UInt8 → Option (X509Certificate × List UInt8)}
  {readAlgorithm : List UInt8 → Option (AlgorithmIdentifier × List UInt8)} {lib : Library}
  (parser : lib.certificateFromDer = certificateFromDer readTbs readAlgorithm)
  (tbsFront : ReadsFront readTbs) (algorithmFront : ReadsFront readAlgorithm)

include parser tbsFront algorithmFront

/-- A complete certificate around the last octet of its signature, and the certificate
    that the mutation is parsed as. -/
theorem split_of_complete {der : List UInt8} {certificate : X509Certificate}
    (parsed : lib.certificateFromDer der = some ([], certificate))
    (present : certificate.signatureValue.data ≠ []) :
    ∃ front init last extra, certificate.signatureValue.data = init ++ [last] ∧
      der = front ++ (init ++ [last]) ++ extra ∧ certificate.signatureStart = front.length ∧
      der.modify (certificate.signatureStart + (certificate.signatureValue.data.length - 1))
        (· ^^^ 1) = front ++ (init ++ [last ^^^ 1]) ++ extra ∧
      paddingZero certificate.signatureValue.unusedBits (init ++ [last]) = true ∧
      lib.certificateFromDer (front ++ (init ++ [last ^^^ 1]) ++ extra) =
        (readBitString (certificate.signatureValue.unusedBits :: (init ++ [last ^^^ 1]))).map
          fun signature => ([], { certificate with signatureValue := signature }) := by
  rw [parser] at parsed ⊢
  obtain ⟨front, extra, layout, start, bits, again⟩ :=
    certificateFromDer_layout tbsFront algorithmFront parsed
  obtain empty | ⟨init, last, data⟩ := List.eq_nil_or_concat' certificate.signatureValue.data
  · exact absurd empty present
  · rw [List.append_nil] at layout
    rw [data] at layout bits again
    refine ⟨front, init, last, extra, data, layout, start, ?_,
      (readBitString_eq_some_iff.mp bits).1.2, ?_⟩
    · have index : certificate.signatureStart + (certificate.signatureValue.data.length - 1) =
          (front ++ init).length := by
        rw [start, data]
        simp
      have around : front ++ (init ++ [last]) ++ extra = (front ++ init) ++ last :: extra := by simp
      rw [index, layout, around, modify_middle]
      simp
    · have changed := again (init ++ [last ^^^ 1]) (by simp)
      rwa [List.append_nil] at changed

/-- The mutation succeeds exactly on complete certificates whose signature has octets
    and no unused bits. -/
theorem corruptOuterSignature_ok_iff {der mutated : List UInt8} :
    corruptOuterSignature lib der = .ok mutated ↔ ∃ certificate,
      lib.certificateFromDer der = some ([], certificate) ∧
      certificate.signatureValue.data ≠ [] ∧ certificate.signatureValue.unusedBits = 0 ∧
      der.modify (certificate.signatureStart + (certificate.signatureValue.data.length - 1))
        (· ^^^ 1) = mutated := by
  simp only [corruptOuterSignature, bind_ok_iff, exists_unit_iff, failIf_ok_iff, orFail_ok_iff,
    parseComplete_ok_iff, pure_ok_iff, Prod.exists, not_or, not_not, Nat.not_le]
  constructor
  · rintro ⟨certificate, parsed, present, _, remaining, changed, reparsed, ⟨rfl, _⟩, rfl⟩
    obtain ⟨front, init, last, extra, _, _, _, mutated, padded, again⟩ :=
      split_of_complete parser tbsFront algorithmFront parsed present
    rw [mutated, again, Option.map_eq_some_iff] at reparsed
    obtain ⟨signature, read, _⟩ := reparsed
    exact ⟨certificate, parsed, present,
      unusedBits_of_flip padded (readBitString_eq_some_iff.mp read).1.2, rfl⟩
  · rintro ⟨certificate, parsed, present, whole, rfl⟩
    obtain ⟨front, init, last, extra, data, layout, start, mutated, _, again⟩ :=
      split_of_complete parser tbsFront algorithmFront parsed present
    rw [whole, readBitString_zero, Option.map_some] at again
    refine ⟨certificate, parsed, present, ?_, [], { certificate with
      signatureValue := ⟨0, init ++ [last ^^^ 1]⟩ }, mutated ▸ again, ⟨rfl, rfl⟩, rfl⟩
    rw [start, data, layout]
    simp only [List.length_append, List.length_cons, List.length_nil]
    omega

/-- Mutating a mutated certificate gives the original back. -/
theorem corruptOuterSignature_twice {der mutated : List UInt8}
    (succeeded : corruptOuterSignature lib der = .ok mutated) :
    corruptOuterSignature lib mutated = .ok der := by
  have exact_iff := @corruptOuterSignature_ok_iff readTbs readAlgorithm lib parser tbsFront
    algorithmFront
  obtain ⟨certificate, parsed, present, whole, rfl⟩ := exact_iff.mp succeeded
  obtain ⟨front, init, last, extra, data, layout, start, mutation, _, again⟩ :=
    split_of_complete parser tbsFront algorithmFront parsed present
  rw [whole, readBitString_zero, Option.map_some] at again
  refine exact_iff.mpr ⟨{ certificate with signatureValue := ⟨0, init ++ [last ^^^ 1]⟩ },
    mutation ▸ again, by simp, rfl, ?_⟩
  have size : (init ++ [last ^^^ 1]).length = certificate.signatureValue.data.length := by
    rw [data]
    simp
  have twice : (fun octet : UInt8 => octet ^^^ 1) ∘ (fun octet => octet ^^^ 1) = id :=
    funext flip_flip
  rw [size, List.modify_modify_eq, twice, List.modify_id]

/-- A successful mutation changes one bit, the lowest of the last octet of the signature;
    the result is again a complete certificate, with the same signed part and algorithm
    and another signature, and mutating it gives the original back. Every complete
    certificate whose signature has octets and no unused bits can be mutated. -/
theorem corruptOuterSignature_reversible (der : List UInt8) :
    (∀ mutated, corruptOuterSignature lib der = .ok mutated →
      ∃ certificate changed front last extra,
        lib.certificateFromDer der = some ([], certificate) ∧
        lib.certificateFromDer mutated = some ([], changed) ∧
        der = front ++ last :: extra ∧ mutated = front ++ (last ^^^ 1) :: extra ∧
        mutated.length = der.length ∧
        (der.drop certificate.signatureStart).take certificate.signatureValue.data.length =
          certificate.signatureValue.data ∧
        front.length + 1 = certificate.signatureStart + certificate.signatureValue.data.length ∧
        mutated.take certificate.signatureStart = der.take certificate.signatureStart ∧
        changed.tbsRaw = certificate.tbsRaw ∧
        changed.signatureAlgorithm = certificate.signatureAlgorithm ∧
        changed.signatureValue ≠ certificate.signatureValue ∧
        corruptOuterSignature lib mutated = .ok der) ∧
    ∀ certificate, lib.certificateFromDer der = some ([], certificate) →
      certificate.signatureValue.data ≠ [] → certificate.signatureValue.unusedBits = 0 →
      ∃ mutated, corruptOuterSignature lib der = .ok mutated := by
  have exact_iff := @corruptOuterSignature_ok_iff readTbs readAlgorithm lib parser tbsFront
    algorithmFront
  refine ⟨?_, fun certificate parsed present whole =>
    ⟨_, exact_iff.mpr ⟨certificate, parsed, present, whole, rfl⟩⟩⟩
  intro mutated succeeded
  obtain ⟨certificate, parsed, present, whole, rfl⟩ := exact_iff.mp succeeded
  obtain ⟨front, init, last, extra, data, layout, start, mutation, _, again⟩ :=
    split_of_complete parser tbsFront algorithmFront parsed present
  rw [whole, readBitString_zero, Option.map_some] at again
  refine ⟨certificate, { certificate with signatureValue := ⟨0, init ++ [last ^^^ 1]⟩ },
    front ++ init, last, extra, parsed, mutation ▸ again, by simp [layout], by simp [mutation],
    by simp, ?_, ?_, ?_, rfl, rfl, ?_, ?_⟩
  · rw [start, data, layout, List.append_assoc, List.drop_left, List.take_left]
  · rw [start, data]
    simp only [List.length_append, List.length_cons, List.length_nil]
    omega
  · rw [mutation, start, layout]
    simp only [List.append_assoc, List.take_left]
  · intro same
    have octets := congrArg BitString.data same
    rw [data] at octets
    exact flip_ne last (List.head_eq_of_cons_eq (List.append_cancel_left octets))
  · exact corruptOuterSignature_twice parser tbsFront algorithmFront succeeded

end Mutation

namespace Fixture

/-- A SEQUENCE of any contents, read as the given value. -/
def readSequence {α : Type} (value : α) (bytes : List UInt8) : Option (α × List UInt8) :=
  (Der.readElement 0x30 bytes).map fun (_, rest) => (value, rest)

theorem readsFront_readSequence {α : Type} (value : α) : ReadsFront (readSequence value) :=
  (Der.readsFront_readElement 0x30).map fun _ => value

def outerLibrary : Library :=
  { library leafCertificate crl tryLater emptyResponse with
    certificateFromDer :=
      certificateFromDer (readSequence leafCertificate) (readSequence ecdsaWithSha256) }

/-- A signed part, an algorithm, and a signature of five octets. -/
def outerCertificate : List UInt8 :=
  [0x30, 17, 0x30, 3, 0x02, 1, 5, 0x30, 2, 0x05, 0, 0x03, 6, 0, 0x12, 0x34, 0x56, 0x78, 0x7F]

end Fixture

theorem corruptOuterSignature_reversible_octets :
    ∃ mutated, corruptOuterSignature Fixture.outerLibrary Fixture.outerCertificate = .ok mutated ∧
      corruptOuterSignature Fixture.outerLibrary mutated = .ok Fixture.outerCertificate := by
  have parser : Fixture.outerLibrary.certificateFromDer = certificateFromDer
      (Fixture.readSequence Fixture.leafCertificate)
      (Fixture.readSequence Fixture.ecdsaWithSha256) := rfl
  obtain ⟨minimal, possible⟩ := corruptOuterSignature_reversible parser
    (Fixture.readsFront_readSequence _) (Fixture.readsFront_readSequence _)
    Fixture.outerCertificate
  obtain ⟨mutated, succeeded⟩ := possible _ rfl (by decide) rfl
  obtain ⟨_, _, _, _, _, _, _, _, _, _, _, _, _, _, _, _, back⟩ := minimal mutated succeeded
  exact ⟨mutated, succeeded, back⟩

end HybridX509.X509
