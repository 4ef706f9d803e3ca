import HybridX509.Analysis.Scopes

/-! # Issuer edges

An edge of a path is named by the hash of both of its certificates. The bytes that are
hashed name the pair, whatever the certificates hold, and the oracle accepts the name.
-/

namespace HybridX509.Analysis

open Lib X509 Oracle

/-- The bytes that `issuer_edge_hash` feeds to the hasher. -/
def edgePreimage (certificate issuer : List UInt8) : List UInt8 :=
  toBeBytes (.ofNat certificate.length) ++ certificate ++ toBeBytes (.ofNat issuer.length) ++ issuer

theorem issuerEdgeHash_eq {lib : Library} {certificatePath issuerPath : String} {limit : Nat}
    {certificate issuer : List UInt8}
    (certificateRead : readDer lib certificatePath .certificate limit = .ok certificate)
    (issuerRead : readDer lib issuerPath .certificate limit = .ok issuer) :
    issuerEdgeHash lib certificatePath issuerPath limit =
      .ok (hexLower (lib.sha256 (edgePreimage certificate issuer))) := by
  rw [issuerEdgeHash, certificateRead, ok_bind, issuerRead, ok_bind]
  rfl

/-- The lengths keep the two certificates apart, also where one imitates a length. -/
theorem edgePreimage_inj {certificate issuer certificate' issuer' : List UInt8}
    (certificateFits : certificate.length < 2 ^ 64) (issuerFits : issuer.length < 2 ^ 64)
    (certificateFits' : certificate'.length < 2 ^ 64) (issuerFits' : issuer'.length < 2 ^ 64)
    (same : edgePreimage certificate issuer = edgePreimage certificate' issuer') :
    certificate = certificate' ∧ issuer = issuer' := by
  have fields (certificate issuer : List UInt8) : edgePreimage certificate issuer =
      lengthPrefixed certificate ++ (lengthPrefixed issuer ++ []) := by
    simp [edgePreimage, lengthPrefixed]
  rw [fields, fields] at same
  obtain ⟨certificates, rest⟩ := lengthPrefixed_append_inj certificateFits certificateFits' same
  exact ⟨certificates, (lengthPrefixed_append_inj issuerFits issuerFits' rest).1⟩

theorem validateSha256Hex_hexLower {digest : List UInt8} (long : digest.length = 32)
    (field : String) : validateSha256Hex field (some (hexLower digest)) = .ok () := by
  rw [validateSha256Hex_ok_iff]
  refine hashWellFormed_some ⟨?_, hexLower_lowerHex digest⟩
  rw [length_hexLower, long]

/-- An edge name stands for its pair of certificates. The hashed bytes determine the pair,
    the name of every digest is accepted and determines the digest, and so two pairs with one
    name are equal, or their preimages are a collision. -/
theorem issuerEdge_identifies {certificate issuer certificate' issuer' : List UInt8}
    (certificateFits : certificate.length < 2 ^ 64) (issuerFits : issuer.length < 2 ^ 64)
    (certificateFits' : certificate'.length < 2 ^ 64) (issuerFits' : issuer'.length < 2 ^ 64) :
    (edgePreimage certificate issuer = edgePreimage certificate' issuer' →
      certificate = certificate' ∧ issuer = issuer') ∧
    (∀ digest : List UInt8, digest.length = 32 → ∀ field,
      validateSha256Hex field (some (hexLower digest)) = .ok ()) ∧
    Function.Injective hexLower ∧
    ∀ (lib : Library) (path issuerPath path' issuerPath' hash : String) (limit limit' : Nat),
      readDer lib path .certificate limit = .ok certificate →
      readDer lib issuerPath .certificate limit = .ok issuer →
      readDer lib path' .certificate limit' = .ok certificate' →
      readDer lib issuerPath' .certificate limit' = .ok issuer' →
      issuerEdgeHash lib path issuerPath limit = .ok hash →
      issuerEdgeHash lib path' issuerPath' limit' = .ok hash →
      (certificate = certificate' ∧ issuer = issuer') ∨
        (edgePreimage certificate issuer ≠ edgePreimage certificate' issuer' ∧
          lib.sha256 (edgePreimage certificate issuer) =
            lib.sha256 (edgePreimage certificate' issuer')) := by
  have parsed := edgePreimage_inj certificateFits issuerFits certificateFits' issuerFits'
  refine ⟨parsed, fun digest long field => validateSha256Hex_hexLower long field,
    hexLower_injective, ?_⟩
  intro lib path issuerPath path' issuerPath' hash limit limit' read issuerRead read' issuerRead'
    hashed hashed'
  rw [issuerEdgeHash_eq read issuerRead] at hashed
  rw [issuerEdgeHash_eq read' issuerRead'] at hashed'
  have digests := hexLower_injective (Except.ok.inj (hashed.trans hashed'.symm))
  by_cases same : edgePreimage certificate issuer = edgePreimage certificate' issuer'
  · exact .inl (parsed same)
  · exact .inr ⟨same, digests⟩

/-- Two pairs that would be written alike without the first length: one certificate goes on
    with the length of an issuer, and one issuer starts with the length of the other. -/
theorem issuerEdge_identifies_imitation :
    edgePreimage [1] [0, 0, 0, 0, 0, 0, 0, 1, 2] ≠
      edgePreimage [1, 0, 0, 0, 0, 0, 0, 0, 9] [2] := by
  intro same
  have pairs := (issuerEdge_identifies (by simp) (by simp) (by simp) (by simp)).1 same
  simp at pairs

end HybridX509.Analysis
