import HybridX509.Lib.Machine
import HybridX509.Model
import HybridX509.X509.Pem

/-! # OCSP responses

`ocsp.rs`. A response is read first; one that was not successful is answered at
once, and any other goes through seven checks whose conjunction decides, together
with the status at the validation time, what the response says about revocation.
-/

namespace HybridX509.Revocation.Ocsp

open Lib X509

def BASIC_OCSP_RESPONSE_OID : String := "1.3.6.1.5.5.7.48.1.1"

def OCSP_NONCE_OID : String := "1.3.6.1.5.5.7.48.1.2"

def OCSP_NOCHECK_OID : String := "1.3.6.1.5.5.7.48.1.5"

structure Duration where
  asSecs : UInt64
  subsecNanos : UInt32
  deriving Repr, DecidableEq

structure OcspPolicy where
  maxAge : Duration
  clockSkew : Duration
  revocationMode : RevocationPolicyMode
  delegatedResponderRevocation : Option CheckResult
  deriving Repr, DecidableEq

inductive OcspCertificateStatus where
  | good
  | revoked
  | unknown
  | unavailable
  deriving Repr, DecidableEq

structure OcspStatusResult where
  appliedRevocationPolicy : RevocationPolicy
  responseStatus : CheckResult
  signature : CheckResult
  responder : CheckResult
  issuer : CheckResult
  certificateId : CheckResult
  freshness : CheckResult
  extensions : CheckResult
  nonce : CheckResult
  revocation : CheckResult
  responseCertificateStatus : OcspCertificateStatus
  effectiveStatusAtValidationTime : OcspCertificateStatus
  deriving Repr, DecidableEq

inductive OcspError where
  | notAFile (path : String)
  | inputTooLarge (path : String) (limit : Nat)
  | malformedDer (path : String)
  | unsupportedResponseType (oid : String)
  | unsupportedDigestAlgorithm (oid : String)
  | duplicateSingleResponse
  | malformedSignatureAlgorithm
  | invalidValidationTime (validationTime : String)
  | invalidExpectedNonceBase64
  | invalidExpectedNonceLength
  | pem (error : PemError)
  | io (source : String)
  deriving Repr, DecidableEq

def state (value : Bool) : CheckState := if value then .pass else .fail

def observed (state : CheckState) : CheckResult := ⟨state, .observed⟩

/-- The revocation policy a result reports. -/
def appliedRevocationPolicy (policy : OcspPolicy) : RevocationPolicy :=
  ⟨policy.revocationMode, some policy.maxAge.asSecs, some policy.clockSkew.asSecs⟩

/-! ## Reading -/

def readBounded (lib : Library) (path : String) (limit : Nat) : Except OcspError (List UInt8) :=
  let toOcspError : BoundedInputError → OcspError
    | .notAFile _ => .notAFile path
    | .tooLarge _ _ => .inputTooLarge path limit
    | .io _ source => .io source
  mapErr toOcspError (readBoundedFile lib path limit)

def parseOcspDer (lib : Library) (bytes : List UInt8) (source : String) :
    Except OcspError (Option BasicOcspResponse) := do
  let response ← orFail (lib.ocspResponseFromDer bytes) (.malformedDer source)
  if response.responseStatus ≠ .successful then
    return none
  let responseBytes ← orFail response.responseBytes (.malformedDer source)
  failIf (responseBytes.responseType ≠ BASIC_OCSP_RESPONSE_OID)
    (.unsupportedResponseType responseBytes.responseType)
  let basic ← orFail (lib.basicOcspResponseFromDer responseBytes.response) (.malformedDer source)
  return some basic

/-- What a successful response is checked against. -/
structure OcspInput where
  basic : BasicOcspResponse
  certificate : X509Certificate
  issuer : X509Certificate
  validationTimestamp : Int64
  expectedNonce : Option (List UInt8)
  deriving Repr, DecidableEq

/-- `expected_nonce_base64`, decoded and bounded to 1 to 32 bytes. -/
def decodeExpectedNonce (lib : Library) :
    Option String → Except OcspError (Option (List UInt8))
  | none => .ok none
  | some value => do
      let nonce ← orFail (lib.base64Decode value) .invalidExpectedNonceBase64
      failIf (nonce.isEmpty || 32 < nonce.length) .invalidExpectedNonceLength
      return some nonce

/-- Everything before the first check; `none` for a response that is not successful. -/
def readOcspInput (lib : Library) (certificatePath issuerPath responsePath validationTime : String)
    (expectedNonceBase64 : Option String) (limit : Nat) :
    Except OcspError (Option OcspInput) := do
  let responseDer ← readBounded lib responsePath limit
  match ← parseOcspDer lib responseDer responsePath with
  | none => return none
  | some basic =>
      let certificateDer ← mapErr .pem (readDer lib certificatePath .certificate limit)
      let issuerDer ← mapErr .pem (readDer lib issuerPath .certificate limit)
      let certificate ←
        parseComplete lib.certificateFromDer (.malformedDer certificatePath) certificateDer
      let issuer ← parseComplete lib.certificateFromDer (.malformedDer issuerPath) issuerDer
      let validationTimestamp ← orFail (lib.parseFromRfc3339 validationTime)
        (.invalidValidationTime validationTime)
      let expectedNonce ← decodeExpectedNonce lib expectedNonceBase64
      return some { basic, certificate, issuer, validationTimestamp, expectedNonce }

/-! ## Checks -/

def cryptoState : Except X509Error Unit → CheckState
  | .ok () => .pass
  | .error .signatureVerificationError | .error .invalidSignatureValue => .fail
  | .error _ => .indeterminate

def digest (lib : Library) (oid : String) (bytes : List UInt8) :
    Except OcspError (List UInt8) :=
  match oid with
  | "1.3.14.3.2.26" => .ok (lib.sha1 bytes)
  | "2.16.840.1.101.3.4.2.1" => .ok (lib.sha256 bytes)
  | "2.16.840.1.101.3.4.2.2" => .ok (lib.sha384 bytes)
  | "2.16.840.1.101.3.4.2.3" => .ok (lib.sha512 bytes)
  | _ => .error (.unsupportedDigestAlgorithm oid)

/-- The copy of `normalized_serial` in `ocsp.rs`. -/
def normalizedSerial (serial : List UInt8) : List UInt8 :=
  let firstNonzero := (serial.findIdx? (· != 0)).getD serial.length
  serial.drop firstNonzero

def certIdMatches (lib : Library) (single : SingleResponse)
    (certificate issuer : X509Certificate) : Except OcspError Bool := do
  let oid := single.certId.hashAlgorithm
  let issuerNameHash ← digest lib oid issuer.subject.asRaw
  let issuerKeyHash ← digest lib oid issuer.publicKey.subjectPublicKey.data
  return single.certId.issuerNameHash == issuerNameHash
    && single.certId.issuerKeyHash == issuerKeyHash
    && normalizedSerial single.certId.serialNumber == normalizedSerial certificate.rawSerial

/-- `matching`: the single responses about the certificate. -/
def matchingResponses (lib : Library) (certificate issuer : X509Certificate)
    (responses : List SingleResponse) : Except OcspError (List SingleResponse) := do
  let compared ← responses.mapM fun single => do
    let matched ← certIdMatches lib single certificate issuer
    return (single, matched)
  return compared.filterMap fun (single, matched) => if matched then some single else none

def isFresh (basic : BasicOcspResponse) (single : SingleResponse) (validationTimestamp : Int64)
    (maxAge clockSkew : UInt64) : Bool :=
  match u64TryFrom validationTimestamp with
  | none => false
  | some validation =>
      let producedAt := basic.tbsResponseData.producedAt
      let thisUpdate := single.thisUpdate
      let upper := saturatingAdd validation clockSkew
      if upper < producedAt || upper < thisUpdate
          || maxAge < saturatingSub validation thisUpdate then
        false
      else
        single.nextUpdate.all fun nextUpdate =>
          validation ≤ saturatingAdd nextUpdate clockSkew

def checkNonce (lib : Library) (basic : BasicOcspResponse) :
    Option (List UInt8) → CheckState
  | none => .indeterminate
  | some expected =>
      let matching := (basic.tbsResponseData.responseExtensions.getD []).filter
        (·.extnId == OCSP_NONCE_OID)
      match matching with
      | [extension] =>
          match lib.nonceFromDer extension.extnValue with
          | none => .fail
          | some nonce => state (nonce == expected)
      | _ => .fail

/-- The loop that inserts identifiers and stops at a repeated or critical one. -/
def extensionRefused (seen : List String) : List OcspExtension → Bool
  | [] => false
  | extension :: rest =>
      extension.extnId ∈ seen || extension.critical || extensionRefused (extension.extnId :: seen) rest

def ocspExtensionsValid (basic : BasicOcspResponse) : Bool :=
  if extensionRefused [] (basic.tbsResponseData.responseExtensions.getD []) then false
  else basic.tbsResponseData.responses.all fun single =>
    !extensionRefused [] (single.singleExtensions.getD [])

def responderMatchesCertificate (lib : Library) (basic : BasicOcspResponse)
    (certificate : X509Certificate) : Bool :=
  match basic.tbsResponseData.responderId with
  | .byName toDer => toDer.any (· == certificate.subject.asRaw)
  | .byKey keyHash => lib.sha1 certificate.publicKey.subjectPublicKey.data == keyHash

def basicSignatureState (lib : Library) (basic : BasicOcspResponse) (signer : X509Certificate) :
    Except OcspError CheckState := do
  let algorithmDer ← orFail basic.signatureAlgorithmToDer .malformedSignatureAlgorithm
  let algorithm ←
    parseComplete lib.algorithmIdentifierFromDer .malformedSignatureAlgorithm algorithmDer
  let signatureBytes ← orFail basic.signature.asBytes .malformedSignatureAlgorithm
  let signature := BitString.new signatureBytes
  let signedData ← orFail basic.tbsResponseData.toDer .malformedSignatureAlgorithm
  return cryptoState (lib.verifySignature signer.publicKey algorithm signature signedData)

def responderHasOcspNocheck (responder : X509Certificate) : Bool :=
  responder.extensions.any fun extension =>
    !extension.critical && extension.oid == OCSP_NOCHECK_OID

/-- The usages of a responder that is issued and valid, and what is known about its
    revocation. -/
def delegatedUsageState (responder : X509Certificate) (policy : OcspPolicy) : CheckState :=
  match responder.extendedKeyUsage with
  | .ok (some extendedUsage) =>
      if extendedUsage.ocspSigning = false then .fail
      else
        let unrevoked := responderHasOcspNocheck responder
          || policy.delegatedResponderRevocation.any (·.state == .pass)
        let accepted := if unrevoked then .pass else .indeterminate
        match responder.keyUsage with
        | .ok (some usage) => if usage.digitalSignature then accepted else .fail
        | .error _ => .fail
        | .ok none => accepted
  | _ => .fail

def delegatedResponderState (lib : Library) (responder issuer : X509Certificate)
    (validationTimestamp : Int64) (policy : OcspPolicy) : CheckState :=
  if responder.issuer ≠ issuer.subject
      ∨ responder.signatureAlgorithm ≠ responder.tbsSignature then .fail
  else
    let issuerSignature := cryptoState (responder.verifySignature lib issuer.publicKey)
    if issuerSignature ≠ .pass then issuerSignature
    else if lib.asn1TimeRepresents validationTimestamp = false then .fail
    else if responder.validity.isValidAt validationTimestamp = false then .fail
    else delegatedUsageState responder policy

/-- The loop over the embedded certificates; `found` is the mutable `result`. -/
def searchResponder (lib : Library) (basic : BasicOcspResponse) (issuer : X509Certificate)
    (validationTimestamp : Int64) (policy : OcspPolicy) (found : Option (CheckState × CheckState)) :
    List (List UInt8) → Except OcspError (CheckState × CheckState)
  | [] => .ok (found.getD (.fail, .indeterminate))
  | encoded :: rest =>
      match lib.certificateFromDer encoded with
      | none => searchResponder lib basic issuer validationTimestamp policy found rest
      | some (remaining, candidate) =>
          if remaining ≠ [] ∨ responderMatchesCertificate lib basic candidate = false then
            searchResponder lib basic issuer validationTimestamp policy found rest
          else if found.isSome then .ok (.fail, .indeterminate)
          else do
            let responder := delegatedResponderState lib candidate issuer validationTimestamp policy
            let signature ← basicSignatureState lib basic candidate
            searchResponder lib basic issuer validationTimestamp policy
              (some (responder, signature)) rest

def responderAndSignatureStates (lib : Library) (basic : BasicOcspResponse)
    (issuer : X509Certificate) (validationTimestamp : Int64) (policy : OcspPolicy) :
    Except OcspError (CheckState × CheckState) := do
  if responderMatchesCertificate lib basic issuer then
    let signature ← basicSignatureState lib basic issuer
    return (.pass, signature)
  searchResponder lib basic issuer validationTimestamp policy none
    ((basic.certsToDer.getD []).filterMap id)

def issuerState (lib : Library) (certificate issuer : X509Certificate) : CheckState :=
  if certificate.issuer ≠ issuer.subject
      ∨ certificate.signatureAlgorithm ≠ certificate.tbsSignature then .fail
  else cryptoState (certificate.verifySignature lib issuer.publicKey)

/-- The status of the response, and the one in effect at the validation time. -/
def certificateStatusAt (status : CertStatus) (validationTimestamp : Int64) :
    OcspCertificateStatus × OcspCertificateStatus :=
  match status with
  | .good => (.good, .good)
  | .unknown => (.unknown, .unknown)
  | .revoked revocationTimestamp =>
      let isCurrentlyRevoked :=
        (u64TryFrom validationTimestamp).any (revocationTimestamp ≤ ·)
      (.revoked, if isCurrentlyRevoked then .revoked else .good)

def revocationState (mode : RevocationPolicyMode) (prerequisites : Bool)
    (effectiveStatus : OcspCertificateStatus) : CheckState :=
  match mode with
  | .notRequired => .notApplicable
  | .softFail =>
      if !prerequisites || effectiveStatus == .unknown then .indeterminate
      else if effectiveStatus == .revoked then .fail else .pass
  | .hardFail =>
      if !prerequisites || effectiveStatus == .unknown then .fail
      else if effectiveStatus == .revoked then .fail else .pass

def unavailableResult (policy : OcspPolicy) : OcspStatusResult where
  appliedRevocationPolicy := appliedRevocationPolicy policy
  responseStatus := observed .fail
  signature := observed .indeterminate
  responder := observed .indeterminate
  issuer := observed .indeterminate
  certificateId := observed .indeterminate
  freshness := observed .indeterminate
  extensions := observed .indeterminate
  nonce := observed .indeterminate
  revocation := observed .indeterminate
  responseCertificateStatus := .unavailable
  effectiveStatusAtValidationTime := .unavailable

section Status

variable (lib : Library) (input : OcspInput) (policy : OcspPolicy)
  (responderState signatureState : CheckState) (single : Option SingleResponse)

def freshness : Bool :=
  single.any fun single => isFresh input.basic single input.validationTimestamp
    policy.maxAge.asSecs policy.clockSkew.asSecs

/-- The status of the single response, and the one in effect. -/
def certificateStatuses : OcspCertificateStatus × OcspCertificateStatus :=
  single.elim (.unknown, .unknown) fun single =>
    certificateStatusAt single.certStatus input.validationTimestamp

def prerequisites : Bool :=
  responderState == .pass && signatureState == .pass
    && issuerState lib input.certificate input.issuer == .pass
    && single.isSome && freshness input policy single
    && state (ocspExtensionsValid input.basic) == .pass
    && (input.expectedNonce.isNone || checkNonce lib input.basic input.expectedNonce == .pass)

/-- The result for a response whose responder and signature were checked and that
    has at most one single response about the certificate. -/
def statusResult : OcspStatusResult where
  appliedRevocationPolicy := appliedRevocationPolicy policy
  responseStatus := observed .pass
  signature := observed signatureState
  responder := observed responderState
  issuer := observed (issuerState lib input.certificate input.issuer)
  certificateId := observed (state single.isSome)
  freshness := observed (state (freshness input policy single))
  extensions := observed (state (ocspExtensionsValid input.basic))
  nonce := observed (checkNonce lib input.basic input.expectedNonce)
  revocation := observed (revocationState policy.revocationMode
    (prerequisites lib input policy responderState signatureState single)
    (certificateStatuses input single).2)
  responseCertificateStatus := (certificateStatuses input single).1
  effectiveStatusAtValidationTime := (certificateStatuses input single).2

end Status

/-- The checks of a successful response. -/
def ocspStatus (lib : Library) (input : OcspInput) (policy : OcspPolicy) :
    Except OcspError OcspStatusResult := do
  let (responderState, signatureState) ← responderAndSignatureStates lib input.basic input.issuer
    input.validationTimestamp policy
  let matching ← matchingResponses lib input.certificate input.issuer
    input.basic.tbsResponseData.responses
  failIf (1 < matching.length) .duplicateSingleResponse
  return statusResult lib input policy responderState signatureState matching.head?

def checkOcspStatus (lib : Library)
    (certificatePath issuerPath responsePath validationTime : String)
    (expectedNonceBase64 : Option String) (policy : OcspPolicy) (limit : Nat) :
    Except OcspError OcspStatusResult := do
  match ← readOcspInput lib certificatePath issuerPath responsePath validationTime
      expectedNonceBase64 limit with
  | none => return unavailableResult policy
  | some input => ocspStatus lib input policy

end HybridX509.Revocation.Ocsp
