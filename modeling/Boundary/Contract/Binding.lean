import Boundary.Contract.Error
import Boundary.Contract.Signature
import Boundary.NameMap

/-!
# Bindings and the cores they are bound to

Bindings are generated with the version of the contract and the checksum of every function they
call.  Before the first call they are verified against the core, which answers queries for its
version and for the checksum of a function.

Verification stops at the first difference.  `Verification` also records the queries that it made,
in order, so that what the core was asked can be told from what it would have answered.
-/

namespace Boundary

/-- What the bindings expect of a core. -/
structure Bindings where
  version : UInt32
  /-- The checksum of every function that is called, in the order of the names. -/
  checksums : NameMap UInt16
  deriving DecidableEq

namespace Bindings

/-- Bindings that call nothing. -/
def ofVersion (version : UInt32) : Bindings := ⟨version, []⟩

/-- Sets the checksum of a function. -/
def withChecksum (bindings : Bindings) (function : String) (checksum : UInt16) : Bindings :=
  { bindings with checksums := bindings.checksums.insert function checksum }

/-- Bindings for signatures.  Of several signatures with one name the last counts. -/
def ofSignatures (hash : Bytes → UInt32) (version : UInt32) (signatures : List Signature) :
    Bindings :=
  signatures.foldl (fun bindings signature =>
    bindings.withChecksum signature.name (signature.checksum hash)) (ofVersion version)

end Bindings

/-- A core as its contract can be queried. -/
structure NativeContract where
  version : UInt32
  checksum? : (function : String) → Option UInt16

/-- A contract that is declared by its signatures. -/
structure DeclaredContract where
  version : UInt32
  signatures : NameMap Signature

namespace DeclaredContract

/-- The contract of some signatures.  Of several with one name the last counts. -/
def ofSignatures (version : UInt32) (signatures : List Signature) : DeclaredContract :=
  ⟨version, NameMap.ofList (signatures.map fun signature => (signature.name, signature))⟩

/-- The signature of a function. -/
def signature? (contract : DeclaredContract) (function : String) : Option Signature :=
  contract.signatures.get? function

/-- The answers to queries. -/
def native (hash : Bytes → UInt32) (contract : DeclaredContract) : NativeContract where
  version := contract.version
  checksum? function := (contract.signature? function).map (Signature.checksum hash)

end DeclaredContract

/-- A contract whose version and checksums are exported one by one. -/
structure ExportedContract where
  version : UInt32
  checksums : NameMap UInt16

namespace ExportedContract

/-- The contract of some exported checksums.  Of several with one name the last counts. -/
def ofChecksums (version : UInt32) (checksums : List (String × UInt16)) : ExportedContract :=
  ⟨version, NameMap.ofList checksums⟩

/-- The answers to queries. -/
def native (contract : ExportedContract) : NativeContract where
  version := contract.version
  checksum? function := contract.checksums.get? function

end ExportedContract

/-- A question to a core. -/
inductive ContractQuery where
  | version
  | checksum (function : String)
  deriving DecidableEq, Repr

/-- Whether a question reaches an export of the core: a checksum that is not exported cannot be
asked for. -/
def NativeContract.exports (native : NativeContract) : ContractQuery → Bool
  | .version => true
  | .checksum function => (native.checksum? function).isSome

/-- How bindings fared with a core, and what the core was asked on the way. -/
structure Verification where
  outcome : Except IntegrityError Unit
  queries : List ContractQuery

/-- Compares checksums one by one, up to the first difference. -/
def verifyChecksums (native : NativeContract) : NameMap UInt16 → Verification
  | [] => ⟨.ok (), []⟩
  | (function, expected) :: rest =>
    match native.checksum? function with
    | none => ⟨.error (.missingChecksum function), [.checksum function]⟩
    | some found =>
      if found = expected then
        let others := verifyChecksums native rest
        ⟨others.outcome, .checksum function :: others.queries⟩
      else
        ⟨.error (.checksumMismatch function expected.toNat found.toNat), [.checksum function]⟩

/-- Compares the versions, and then the checksums unless these are to be omitted. -/
def Bindings.verify (bindings : Bindings) (omitChecksums : Bool) (native : NativeContract) :
    Verification :=
  if native.version ≠ bindings.version then
    ⟨.error (.versionMismatch bindings.version.toNat native.version.toNat), [.version]⟩
  else if omitChecksums then
    ⟨.ok (), [.version]⟩
  else
    let compared := verifyChecksums native bindings.checksums
    ⟨compared.outcome, .version :: compared.queries⟩

end Boundary
