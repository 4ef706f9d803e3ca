import Mathlib.Data.List.Basic

/-! # Parsed X.509 and OCSP data

What the parsing libraries hand to `pem.rs` and `ocsp.rs`, restricted to what the
two modules read. Object identifiers are dotted strings, names and keys keep their
encoding, and times are Unix timestamps. A value that a library computes from an
encoding that is not modelled, or that it may fail to encode again, is a field.
-/

namespace HybridX509.X509

structure X509Name where
  asRaw : List UInt8
  deriving Repr, DecidableEq

structure AlgorithmIdentifier where
  algorithm : String
  parameters : Option (List UInt8)
  deriving Repr, DecidableEq

structure BitString where
  unusedBits : UInt8
  data : List UInt8
  deriving Repr, DecidableEq

namespace BitString

/-- `BitString::new(0, bytes)`. -/
def new (data : List UInt8) : BitString := ⟨0, data⟩

/-- `as_bytes`: the octets of a string without unused bits. -/
def asBytes (bits : BitString) : Option (List UInt8) :=
  if bits.unusedBits = 0 then some bits.data else none

end BitString

structure SubjectPublicKeyInfo where
  algorithm : AlgorithmIdentifier
  subjectPublicKey : BitString
  deriving Repr, DecidableEq

inductive X509Error where
  | signatureVerificationError
  | invalidSignatureValue
  | signatureUnsupportedAlgorithm
  | duplicateExtensions
  | other
  deriving Repr, DecidableEq

/-- The bits of the key usage extension, bit 0 first. -/
structure KeyUsage where
  flags : UInt16
  deriving Repr, DecidableEq

namespace KeyUsage

def digitalSignature (usage : KeyUsage) : Bool := usage.flags &&& 1 == 1

def crlSign (usage : KeyUsage) : Bool := (usage.flags >>> 6) &&& 1 == 1

end KeyUsage

structure ExtendedKeyUsage where
  any : Bool
  serverAuth : Bool
  clientAuth : Bool
  codeSigning : Bool
  emailProtection : Bool
  timeStamping : Bool
  ocspSigning : Bool
  other : List String
  deriving Repr, DecidableEq

structure BasicConstraints where
  ca : Bool
  deriving Repr, DecidableEq

/-- A name of the subject alternative name extension; only DNS names are read. -/
inductive GeneralName where
  | dnsName (name : String)
  | other
  deriving Repr, DecidableEq

/-- How the deep parse of an extension ended. -/
inductive ParsedExtension where
  | supported
  | unsupportedExtension
  | parseError
  deriving Repr, DecidableEq

namespace ParsedExtension

def unsupported (parsed : ParsedExtension) : Bool := parsed == .unsupportedExtension

def error (parsed : ParsedExtension) : Option Unit :=
  if parsed = .parseError then some () else none

end ParsedExtension

structure X509Extension where
  oid : String
  critical : Bool
  value : List UInt8
  parsedExtension : ParsedExtension
  deriving Repr, DecidableEq

/-- `extensions_map` succeeds on extensions with pairwise different identifiers. -/
def extensionsMap (extensions : List X509Extension) : Except X509Error Unit :=
  if (extensions.map (·.oid)).Nodup then .ok () else .error .duplicateExtensions

theorem extensionsMap_ok_iff {extensions : List X509Extension} :
    extensionsMap extensions = .ok () ↔ (extensions.map (·.oid)).Nodup := by
  unfold extensionsMap
  split <;> simp_all

structure Validity where
  notBefore : Int64
  notAfter : Int64
  deriving Repr, DecidableEq

def Validity.isValidAt (validity : Validity) (time : Int64) : Bool :=
  validity.notBefore ≤ time && time ≤ validity.notAfter

/-- A parsed certificate. Its signature is a slice of the input, which begins at
    `signatureStart`. -/
structure X509Certificate where
  issuer : X509Name
  subject : X509Name
  signatureAlgorithm : AlgorithmIdentifier
  tbsSignature : AlgorithmIdentifier
  tbsRaw : List UInt8
  signatureValue : BitString
  signatureStart : Nat
  publicKey : SubjectPublicKeyInfo
  rawSerial : List UInt8
  validity : Validity
  extensions : List X509Extension
  keyUsage : Except X509Error (Option KeyUsage)
  extendedKeyUsage : Except X509Error (Option ExtendedKeyUsage)
  basicConstraints : Except X509Error (Option BasicConstraints)
  subjectAlternativeName : Except X509Error (Option (List GeneralName))
  deriving Repr, DecidableEq

/-- A CRL reason, by its number. -/
structure ReasonCode where
  code : UInt8
  deriving Repr, DecidableEq

def ReasonCode.removeFromCrl : ReasonCode := ⟨8⟩

structure RevokedCertificate where
  rawSerial : List UInt8
  revocationDate : Int64
  extensions : List X509Extension
  reasonCode : Option (Bool × ReasonCode)
  deriving Repr, DecidableEq

structure CertificateRevocationList where
  issuer : X509Name
  signatureAlgorithm : AlgorithmIdentifier
  tbsSignature : AlgorithmIdentifier
  tbsRaw : List UInt8
  signatureValue : BitString
  lastUpdate : Int64
  nextUpdate : Option Int64
  extensions : List X509Extension
  revokedCertificates : List RevokedCertificate
  deriving Repr, DecidableEq

/-- A DER object as `der_parser` builds it, down to its primitive contents. -/
inductive DerObject where
  | oid (id : String)
  | octetString (content : List UInt8)
  | bitString (unusedBits : UInt8) (content : List UInt8)
  | integer (content : List UInt8)
  | characterString (content : List UInt8)
  | sequence (fields : List DerObject)
  | other (tag : UInt8) (content : List UInt8)
  deriving Repr

/-- `as_sequence`. -/
def DerObject.asSequence : DerObject → Option (List DerObject)
  | .sequence fields => some fields
  | _ => none

/-! ## OCSP responses -/

inductive OcspResponseStatus where
  | successful
  | malformedRequest
  | internalError
  | tryLater
  | sigRequired
  | unauthorized
  deriving Repr, DecidableEq

structure ResponseBytes where
  responseType : String
  response : List UInt8
  deriving Repr, DecidableEq

structure OcspResponse where
  responseStatus : OcspResponseStatus
  responseBytes : Option ResponseBytes
  deriving Repr, DecidableEq

structure OcspExtension where
  extnId : String
  critical : Bool
  extnValue : List UInt8
  deriving Repr, DecidableEq

/-- A certificate status; a revocation keeps its time in Unix seconds. -/
inductive CertStatus where
  | good
  | revoked (revocationTime : UInt64)
  | unknown
  deriving Repr, DecidableEq

structure CertId where
  hashAlgorithm : String
  issuerNameHash : List UInt8
  issuerKeyHash : List UInt8
  serialNumber : List UInt8
  deriving Repr, DecidableEq

structure SingleResponse where
  certId : CertId
  certStatus : CertStatus
  thisUpdate : UInt64
  nextUpdate : Option UInt64
  singleExtensions : Option (List OcspExtension)
  deriving Repr, DecidableEq

/-- A responder by name, given by the encoding of the name, or by key hash. -/
inductive ResponderId where
  | byName (toDer : Option (List UInt8))
  | byKey (keyHash : List UInt8)
  deriving Repr, DecidableEq

structure ResponseData where
  responderId : ResponderId
  producedAt : UInt64
  responses : List SingleResponse
  responseExtensions : Option (List OcspExtension)
  toDer : Option (List UInt8)
  deriving Repr, DecidableEq

/-- A basic response; the signature algorithm and the embedded certificates are
    given by their encodings. -/
structure BasicOcspResponse where
  tbsResponseData : ResponseData
  signatureAlgorithmToDer : Option (List UInt8)
  signature : BitString
  certsToDer : Option (List (Option (List UInt8)))
  deriving Repr, DecidableEq

end HybridX509.X509
