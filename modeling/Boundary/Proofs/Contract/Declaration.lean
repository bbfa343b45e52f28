import Boundary.Proofs.Contract.Guard
import Boundary.Sample.Contract

/-! # Bindings and a core made from signatures

Bindings keep the checksum of each signature, and a declared core keeps the signatures and
computes a checksum when it is asked for one. On both sides the last signature of a name
counts (`Boundary.Signature.last?`), so the core is accepted just if the versions agree and,
for every name that the bindings list, the core has a signature of the name and the last ones
on both sides have the same checksum (`Boundary.Bindings.declared_core_is_accepted_iff`).
Where no name is repeated the order of the signatures shows nowhere. All of this holds whatever the
hash is that makes a text into a checksum.
-/

namespace Boundary

namespace Signature

/-- The signature that counts for a name: the last one that has it. -/
def last? (signatures : List Signature) (name : String) : Option Signature :=
  signatures.reverse.find? fun signature => signature.name = name

variable (hash : Bytes → UInt32) (signatures : List Signature)

/-- The names of a list are those for which some signature counts. -/
theorem exists_last?_iff (function : String) :
    (∃ signature, last? signatures function = some signature) ↔
      function ∈ signatures.map name := by
  unfold last?
  rw [← Option.isSome_iff_exists, List.find?_isSome, List.mem_map]
  simp only [List.mem_reverse, decide_eq_true_eq]

/-- What the functions of one list come to in another, said of the signatures that count. -/
theorem checksums_agree_iff (declared : List Signature) :
    (∀ function expected, (last? signatures function).map (checksum hash) = some expected →
        (last? declared function).map (checksum hash) = some expected) ↔
      ∀ function ∈ signatures.map name, ∃ bound found,
        last? signatures function = some bound ∧ last? declared function = some found ∧
          found.checksum hash = bound.checksum hash := by
  simp only [Option.map_eq_some_iff]
  constructor
  · intro agree function listed
    obtain ⟨bound, counts⟩ := (exists_last?_iff signatures function).mpr listed
    obtain ⟨found, reported, same⟩ := agree function (bound.checksum hash) ⟨bound, counts, rfl⟩
    exact ⟨bound, found, counts, reported, same⟩
  · rintro agree function _ ⟨bound, counts, rfl⟩
    have listed := (exists_last?_iff signatures function).mp ⟨bound, counts⟩
    obtain ⟨other, found, alsoCounts, reported, same⟩ := agree function listed
    obtain rfl : bound = other := Option.some.inj (counts.symm.trans alsoCounts)
    exact ⟨found, reported, same⟩

/-- What is kept under distinct names does not depend on the order of the signatures. -/
theorem ofList_named_perm {α : Type} (value : Signature → α) {permuted : List Signature}
    (order : permuted.Perm signatures) (distinct : (signatures.map name).Nodup) :
    NameMap.ofList (permuted.map fun signature => (signature.name, value signature)) =
      NameMap.ofList (signatures.map fun signature => (signature.name, value signature)) := by
  apply NameMap.ofList_perm (order.map _)
  rw [List.map_map]
  exact (order.map name).nodup_iff.mpr distinct

end Signature

/-- A core answers with the checksum of the last signature of a function. -/
theorem DeclaredContract.checksum?_ofSignatures (hash : Bytes → UInt32) (version : UInt32)
    (signatures : List Signature) (function : String) :
    ((ofSignatures version signatures).native hash).checksum? function =
      (Signature.last? signatures function).map (Signature.checksum hash) := by
  change (NameMap.get? (NameMap.ofList _) function).map _ = _
  rw [NameMap.get?_ofList, Entries.lastValue?_map, Option.map_map]
  rfl

namespace Bindings

variable (hash : Bytes → UInt32) (version : UInt32) (signatures : List Signature)

/-- Bindings keep the checksums of their signatures under the names. -/
theorem ofSignatures_eq : ofSignatures hash version signatures =
    ⟨version, NameMap.ofList (signatures.map fun signature =>
      (signature.name, signature.checksum hash))⟩ := by
  rw [ofSignatures_eq_ofChecksums, ofChecksums_eq]

/-- Bindings judge a core by the last signature of each name. -/
theorem ofSignatures_judges (omitChecksums : Bool) (native : NativeContract) :
    ((ofSignatures hash version signatures).verify omitChecksums native).Judges version
      (fun function => (Signature.last? signatures function).map (Signature.checksum hash))
      omitChecksums native := by
  rw [ofSignatures_eq]
  apply verify_judges _ native version omitChecksums (NameMap.ordered_ofList _)
  intro function expected
  rw [(NameMap.ordered_ofList _).mem_iff, NameMap.get?_ofList, Entries.lastValue?_map]
  rfl

/-- A declared core is accepted just if it has the version and, where checksums are compared, the
same checksum for the last signature of each name. -/
theorem ofSignatures_accept_iff (other : UInt32) (declared : List Signature)
    (omitChecksums : Bool) :
    ((ofSignatures hash version signatures).verify omitChecksums
        ((DeclaredContract.ofSignatures other declared).native hash)).outcome = .ok () ↔
      other = version ∧ (omitChecksums = false →
        ∀ function ∈ signatures.map Signature.name, ∃ bound found,
          Signature.last? signatures function = some bound ∧
            Signature.last? declared function = some found ∧
              found.checksum hash = bound.checksum hash) := by
  rw [← Signature.checksums_agree_iff]
  simp only [← DeclaredContract.checksum?_ofSignatures hash other declared]
  exact (ofSignatures_judges hash version signatures omitChecksums _).accepts

/-- **A declared core is accepted just if it has the version of the bindings and, for every name
they list, a last signature with the checksum of theirs**, by whatever hash both of them use. A core
that is made from the signatures of the bindings is accepted, and signatures with distinct names
make the same bindings and the same core in every order. -/
theorem declared_core_is_accepted_iff (other : UInt32) (declared : List Signature) :
    (((ofSignatures hash version signatures).verify false
          ((DeclaredContract.ofSignatures other declared).native hash)).outcome = .ok () ↔
        version = other ∧ ∀ function ∈ signatures.map Signature.name, ∃ bound found,
          Signature.last? signatures function = some bound ∧
            Signature.last? declared function = some found ∧
              bound.checksum hash = found.checksum hash) ∧
      (∀ omitChecksums, ((ofSignatures hash version signatures).verify omitChecksums
        ((DeclaredContract.ofSignatures version signatures).native hash)).outcome = .ok ()) ∧
      ∀ permuted : List Signature, permuted.Perm signatures →
        (signatures.map Signature.name).Nodup →
          ofSignatures hash version permuted = ofSignatures hash version signatures ∧
            DeclaredContract.ofSignatures version permuted =
              DeclaredContract.ofSignatures version signatures := by
  refine ⟨?_, fun omitChecksums => ?_, fun permuted order distinct => ?_⟩
  · rw [ofSignatures_accept_iff]
    simp only [forall_const, eq_comm]
  · rw [ofSignatures_accept_iff]
    refine ⟨rfl, fun _ function listed => ?_⟩
    obtain ⟨signature, counts⟩ := (Signature.exists_last?_iff signatures function).mpr listed
    exact ⟨signature, signature, counts, counts, rfl⟩
  · constructor
    · rw [ofSignatures_eq, ofSignatures_eq, Signature.ofList_named_perm _ _ order distinct]
    · exact congrArg (DeclaredContract.mk version)
        (Signature.ofList_named_perm signatures id order distinct)

/-- Two functions, in either order. -/
theorem declared_core_is_accepted_iff_reversed :
    [demoPing, demoAdd].Perm [demoAdd, demoPing] ∧
      ([demoAdd, demoPing].map Signature.name).Nodup ∧
        ofSignatures Checksum.crc32 7 [demoPing, demoAdd] =
            ofSignatures Checksum.crc32 7 [demoAdd, demoPing] ∧
          DeclaredContract.ofSignatures 7 [demoPing, demoAdd] =
            DeclaredContract.ofSignatures 7 [demoAdd, demoPing] := by
  have order : [demoPing, demoAdd].Perm [demoAdd, demoPing] := List.Perm.swap _ _ _
  have distinct : ([demoAdd, demoPing].map Signature.name).Nodup := by decide
  obtain ⟨-, -, ordersAgree⟩ :=
    declared_core_is_accepted_iff Checksum.crc32 7 [demoAdd, demoPing] 7 [demoAdd, demoPing]
  exact ⟨order, distinct, ordersAgree _ order distinct⟩

/-- A function of which the bindings have an older signature as well. -/
example : ((ofSignatures Checksum.crc32 7
      [{ demoAdd with isAsync := true }, demoPing, demoAdd]).verify false
    ((DeclaredContract.ofSignatures 7 [demoAdd, demoPing]).native Checksum.crc32)).outcome =
      .ok () := by
  decide +kernel

/-- The same signatures, the older one last. -/
example : ((ofSignatures Checksum.crc32 7
      [demoPing, demoAdd, { demoAdd with isAsync := true }]).verify false
    ((DeclaredContract.ofSignatures 7 [demoAdd, demoPing]).native Checksum.crc32)).outcome ≠
      .ok () := by
  decide +kernel

end Bindings

end Boundary
