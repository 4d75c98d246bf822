/-!
What can go wrong, by cause, and the one place where each cause is put into words.

Every error has a kind. Those of the kind `configuration` are fatal: no later attempt with
the same configuration can succeed.
-/

namespace Attestation

/-- Why a key document was refused before its bytes were looked at. -/
inductive PemFault where
  | malformedArmor
  | wrongLabel (expected found : String)
  | emptyBody
  | badBase64
  deriving DecidableEq, Repr

/-- Why bytes are no key. -/
inductive KeyFault where
  | badPrivateDocument
  | badPublicDocument
  | notAPoint
  deriving DecidableEq, Repr

/-- Why a signature was refused. -/
inductive SignatureFault where
  | badBase64
  | wrongLength (found : Nat)
  | scalarTooLarge
  | equationFails
  deriving DecidableEq, Repr

/-- Why a configuration was refused. -/
inductive ConfigFault where
  | badYaml
  | badUrl (url : String)
  | noPath (url : String)
  | zeroTimeout
  /-- A path is missing though the settings were found to be complete. -/
  | pathsGone
  deriving DecidableEq, Repr

/-- Why a file could not be read as text. -/
inductive FileFault where
  | notFound
  | isDirectory
  | notUtf8
  | other (reason : String)
  deriving DecidableEq, Repr

/-- Why an answer of the registry was refused. -/
inductive ResponseFault where
  | undecodable
  | notABoolean (value : String)
  deriving DecidableEq, Repr

/-- Why a right operand was refused. -/
inductive OperandFault where
  | expectedString (found : String)
  | expectedScalar (found : String)
  | expectedTimestamp (found : String)
  | expectedList
  | notAScalar (entry : String)
  deriving DecidableEq, Repr

inductive Error where
  | missingConfiguration (fields : List String)
  | io (path : String) (fault : FileFault)
  | configuration (fault : ConfigFault)
  | invalidClaims (path : String)
  | keyMismatch (fingerprint : String)
  | invalidKeyFile (path : String) (cause : Error)
  | invalidPem (fault : PemFault)
  | invalidKey (fault : KeyFault)
  | signatureInvalid (fault : SignatureFault)
  | registryUnavailable (reason : String)
  | registryStatus (status : Nat) (url : String)
  | malformedResponse (fault : ResponseFault)
  | unknownParticipant (id : String)
  | notCorroborated (id claimKey : String)
  | missingAttribute (name : String)
  | claimUnavailable (claimKey : String)
  | unsupportedOperator (rule operator : String)
  | invalidRightOperand (rule : String) (fault : OperandFault)
  | notNumeric (value : String)
  | invalidTimestamp (value : String)
  | unknownOperator (name : String)
  deriving Repr

inductive ErrorKind where
  | configuration
  | crypto
  | corroboration
  | evaluation
  deriving DecidableEq, Repr

namespace ErrorKind

def name : ErrorKind → String
  | .configuration => "configuration"
  | .crypto => "crypto"
  | .corroboration => "corroboration"
  | .evaluation => "evaluation"

def isFatal (k : ErrorKind) : Bool := k == .configuration

end ErrorKind

def PemFault.message : PemFault → String
  | .malformedArmor => "malformed armor line"
  | .wrongLabel expected found => "expected " ++ expected ++ ", found '" ++ found ++ "'"
  | .emptyBody => "empty key body"
  | .badBase64 => "invalid base64 body: not canonical base64"

def KeyFault.message : KeyFault → String
  | .badPrivateDocument => "invalid PKCS#8 private key: malformed document"
  | .badPublicDocument => "invalid public key: malformed document"
  | .notAPoint => "signature error: Cannot decompress Edwards point"

def SignatureFault.message : SignatureFault → String
  | .badBase64 => "invalid base64: not canonical base64"
  | .wrongLength found => "expected 64 bytes, got " ++ toString found
  | .scalarTooLarge => "signature error: Cannot use scalar with high-bit set"
  | .equationFails => "signature error: Verification equation was not satisfied"

def ConfigFault.message : ConfigFault → String
  | .badYaml => "malformed document"
  | .badUrl url => "invalid registry url '" ++ url ++ "': malformed url"
  | .noPath url => "registry url '" ++ url ++ "' cannot carry a path"
  | .zeroTimeout => "registry.timeout_secs must be greater than zero"
  | .pathsGone => "identity paths disappeared after validation"

def FileFault.message : FileFault → String
  | .notFound => "No such file or directory (os error 2)"
  | .isDirectory => "Is a directory (os error 21)"
  | .notUtf8 => "stream did not contain valid UTF-8"
  | .other reason => reason

def ResponseFault.message : ResponseFault → String
  | .undecodable => "unexpected body"
  | .notABoolean value => "valueType '" ++ value ++ "' is not a boolean"

def OperandFault.message : OperandFault → String
  | .expectedString found => "expected a string, got " ++ found
  | .expectedScalar found => "expected a scalar, got " ++ found
  | .expectedTimestamp found => "expected an RFC 3339 string, got " ++ found
  | .expectedList => "expected a list or comma-separated string"
  | .notAScalar entry => "list entry " ++ entry ++ " is not a scalar"

namespace Error

def kind : Error → ErrorKind
  | .missingConfiguration _ | .io _ _ | .configuration _ | .invalidClaims _ | .keyMismatch _
  | .invalidKeyFile _ _ => .configuration
  | .invalidPem _ | .invalidKey _ | .signatureInvalid _ => .crypto
  | .registryUnavailable _ | .registryStatus _ _ | .malformedResponse _
  | .unknownParticipant _ | .notCorroborated _ _ => .corroboration
  | .missingAttribute _ | .claimUnavailable _ | .unsupportedOperator _ _
  | .invalidRightOperand _ _ | .notNumeric _ | .invalidTimestamp _
  | .unknownOperator _ => .evaluation

/-- The word that an error is known by. -/
def label : Error → String
  | .missingConfiguration _ => "MissingConfiguration"
  | .io _ _ => "Io"
  | .configuration _ => "ConfigurationError"
  | .invalidClaims _ => "InvalidClaims"
  | .keyMismatch _ => "KeyMismatch"
  | .invalidKeyFile _ _ => "InvalidKeyFile"
  | .invalidPem _ => "InvalidPem"
  | .invalidKey _ => "CryptoError"
  | .signatureInvalid _ => "SignatureInvalid"
  | .registryUnavailable _ => "RegistryUnavailable"
  | .registryStatus _ _ => "RegistryStatus"
  | .malformedResponse _ => "MalformedResponse"
  | .unknownParticipant _ => "UnknownParticipant"
  | .notCorroborated _ _ => "NotCorroborated"
  | .missingAttribute _ => "MissingAttribute"
  | .claimUnavailable _ => "ClaimUnavailable"
  | .unsupportedOperator _ _ => "UnsupportedOperator"
  | .invalidRightOperand _ _ => "InvalidRightOperand"
  | .notNumeric _ => "NotNumeric"
  | .invalidTimestamp _ => "InvalidTimestamp"
  | .unknownOperator _ => "UnknownOperator"

def message : Error → String
  | .missingConfiguration fields =>
    "missing required configuration: " ++ String.intercalate ", " fields
  | .io path fault => "failed to read " ++ path ++ ": " ++ fault.message
  | .configuration fault => "invalid configuration: " ++ fault.message
  | .invalidClaims path => "invalid claims in " ++ path ++ ": not a set of claims"
  | .keyMismatch fingerprint =>
    "key pair mismatch: public key " ++ fingerprint ++
      " does not verify signatures of the configured private key"
  | .invalidKeyFile path cause => "invalid key file " ++ path ++ ": " ++ cause.message
  | .invalidPem fault => "invalid PEM: " ++ fault.message
  | .invalidKey fault => "cryptographic error: " ++ fault.message
  | .signatureInvalid fault => "signature verification failed: " ++ fault.message
  | .registryUnavailable reason => "registry unreachable: " ++ reason
  | .registryStatus status url =>
    "registry returned HTTP " ++ toString status ++ " for " ++ url
  | .malformedResponse fault => "malformed registry response: " ++ fault.message
  | .unknownParticipant id => "participant '" ++ id ++ "' is not registered"
  | .notCorroborated id claimKey =>
    "registry did not corroborate '" ++ claimKey ++ "' for participant '" ++ id ++ "'"
  | .missingAttribute name => "participant context has no '" ++ name ++ "' attribute"
  | .claimUnavailable claimKey =>
    "claim '" ++ claimKey ++ "' is absent, blank or not a string"
  | .unsupportedOperator rule operator =>
    "unsupported operator '" ++ operator ++ "' for " ++ rule ++ " constraint"
  | .invalidRightOperand rule fault =>
    "invalid right operand for " ++ rule ++ " constraint: " ++ fault.message
  | .notNumeric value => "value '" ++ value ++ "' is not numeric"
  | .invalidTimestamp value => "invalid timestamp '" ++ value ++ "': malformed"
  | .unknownOperator name => "unknown operator '" ++ name ++ "'"

end Error

end Attestation
