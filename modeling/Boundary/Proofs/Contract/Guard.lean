import Boundary.Contract.Guard
import Boundary.Proofs.NameMap
import Boundary.Proofs.Text.Order

/-! # What a guard finds

Bindings are made by setting checksums one after another, in any order and some of them more
than once (`Boundary.Bindings.ofChecksums`). The first call of a guard accepts a core with the
version of the bindings that reports every bound checksum as it was set last. What it refuses
a core for is the version or else, of the functions in dispute, the one that comes first in
the order of the bytes, and it asks for no checksum behind that
(`Boundary.Verification.Judges`). Every later call tells what the first one found and asks
nothing, whichever core it is for (`Boundary.LibraryGuard.ensureEach_ofChecksums`).
-/

namespace Boundary

namespace Bindings

/-- Bindings with some checksums, set in this order. -/
def ofChecksums (version : UInt32) (checksums : List (String × UInt16)) : Bindings :=
  checksums.foldl (fun bindings entry => bindings.withChecksum entry.1 entry.2)
    (ofVersion version)

/-- Bindings are made of a list of checksums by inserting them in order. -/
theorem ofChecksums_eq (version : UInt32) (checksums : List (String × UInt16)) :
    ofChecksums version checksums = ⟨version, NameMap.ofList checksums⟩ :=
  List.foldl_hom (Bindings.mk version) fun _ _ => rfl

/-- Bindings for signatures set the checksum of each. -/
theorem ofSignatures_eq_ofChecksums (hash : Bytes → UInt32) (version : UInt32)
    (signatures : List Signature) : ofSignatures hash version signatures = ofChecksums version
      (signatures.map fun signature => (signature.name, signature.checksum hash)) := by
  rw [ofChecksums, List.foldl_map, ofSignatures]

end Bindings

/-- The error about a function that is not reported with the checksum it is bound to. -/
def IntegrityError.ofReport (function : String) (expected : UInt16) :
    Option UInt16 → IntegrityError
  | none => missingChecksum function
  | some found => checksumMismatch function expected.toNat found.toNat

/-! ## Comparing checksums -/

section Compare

variable (native : NativeContract)

/-- The core reports a function with this checksum. -/
def NativeContract.Reports (entry : String × UInt16) : Prop :=
  native.checksum? entry.1 = some entry.2

instance : DecidablePred native.Reports :=
  fun entry => inferInstanceAs (Decidable (native.checksum? entry.1 = some entry.2))

/-- The comparison of a list, of which every entry is reported, and what comes behind it. -/
theorem verifyChecksums_append {entries : NameMap UInt16}
    (reported : ∀ entry ∈ entries, native.Reports entry) (rest : NameMap UInt16) :
    verifyChecksums native (entries ++ rest) =
      ⟨(verifyChecksums native rest).outcome,
        entries.map (fun entry => .checksum entry.1) ++ (verifyChecksums native rest).queries⟩ := by
  induction entries with
  | nil => rfl
  | cons entry others ih =>
      have found : native.checksum? entry.1 = some entry.2 := reported entry List.mem_cons_self
      rw [List.cons_append, verifyChecksums, found]
      simp only [↓reduceIte]
      rw [ih fun later member => reported later (List.mem_cons_of_mem _ member)]
      rfl

/-- The first checksum that differs ends the verification. -/
theorem verifyChecksums_of_not_reports {entry : String × UInt16}
    (disputed : ¬ native.Reports entry) (rest : NameMap UInt16) :
    verifyChecksums native (entry :: rest) =
      ⟨.error (.ofReport entry.1 entry.2 (native.checksum? entry.1)), [.checksum entry.1]⟩ := by
  unfold NativeContract.Reports at disputed
  rw [verifyChecksums]
  split
  · next missing => rw [missing, IntegrityError.ofReport]
  · next found reported =>
    have different : found ≠ entry.2 := fun same => disputed (same ▸ reported)
    rw [if_neg different, reported, IntegrityError.ofReport]

/-- Either every entry is reported, or the comparison ends at the first that is not. -/
theorem verifyChecksums_cases (entries : NameMap UInt16) :
    (∀ entry ∈ entries, native.Reports entry) ∧
        verifyChecksums native entries = ⟨.ok (), entries.map fun entry => .checksum entry.1⟩ ∨
      ∃ before entry after, entries = before ++ entry :: after ∧
        (∀ earlier ∈ before, native.Reports earlier) ∧ ¬ native.Reports entry ∧
        verifyChecksums native entries =
          ⟨.error (.ofReport entry.1 entry.2 (native.checksum? entry.1)),
            (before ++ [entry]).map fun entry => .checksum entry.1⟩ := by
  cases first : entries.find? fun entry => ¬ native.Reports entry with
  | none =>
      have reported : ∀ entry ∈ entries, native.Reports entry := by
        simpa only [List.find?_eq_none, decide_eq_true_eq, not_not] using first
      have compared := verifyChecksums_append native reported []
      rw [List.append_nil] at compared
      exact Or.inl ⟨reported, compared.trans (by rw [verifyChecksums, List.append_nil])⟩
  | some entry =>
      obtain ⟨disputed, before, after, split, earlier⟩ :=
        List.find?_eq_some_iff_append.mp first
      have reported : ∀ other ∈ before, native.Reports other := by
        simpa only [Bool.not_eq_eq_eq_not, Bool.not_true, decide_eq_false_iff_not, not_not]
          using earlier
      have different : ¬ native.Reports entry := of_decide_eq_true disputed
      refine Or.inr ⟨before, entry, after, split, reported, different, ?_⟩
      rw [split, verifyChecksums_append native reported,
        verifyChecksums_of_not_reports native different, List.map_append]
      rfl

variable {native} {before after : NameMap UInt16} {entry : String × UInt16}

/-- A name that is disputed is the first one, or comes behind it. -/
theorem eq_or_lt_of_not_reports (ordered : NameMap.Ordered (before ++ entry :: after))
    (reported : ∀ earlier ∈ before, native.Reports earlier) {other : String × UInt16}
    (member : other ∈ before ++ entry :: after) (disputed : ¬ native.Reports other) :
    other = entry ∨ entry.1 < other.1 := by
  rcases List.mem_append.mp member with earlier | here
  · exact absurd (reported other earlier) disputed
  · refine (List.mem_cons.mp here).imp_right fun later => ?_
    exact (List.pairwise_cons.mp (List.pairwise_append.mp ordered).2.1).1 other later

/-- The functions that are asked for are those up to the first that is disputed. -/
theorem mem_asked_iff (ordered : NameMap.Ordered (before ++ entry :: after)) {function : String} :
    function ∈ (before ++ [entry]).map Prod.fst ↔
      (∃ expected, (function, expected) ∈ before ++ entry :: after) ∧ ¬ entry.1 < function := by
  obtain ⟨-, behind, across⟩ := List.pairwise_append.mp ordered
  constructor
  · intro asked
    obtain ⟨other, member, rfl⟩ := List.mem_map.mp asked
    rcases List.mem_append.mp member with earlier | here
    · exact ⟨⟨other.2, List.mem_append_left _ earlier⟩,
        (across other earlier entry List.mem_cons_self).asymm⟩
    · obtain rfl := List.mem_singleton.mp here
      exact ⟨⟨other.2, List.mem_append_right _ List.mem_cons_self⟩, lt_irrefl _⟩
  · rintro ⟨⟨expected, member⟩, notBehind⟩
    refine List.mem_map.mpr ⟨(function, expected), ?_, rfl⟩
    rcases List.mem_append.mp member with earlier | here
    · exact List.mem_append_left _ earlier
    · rcases List.mem_cons.mp here with same | later
      · exact List.mem_append_right _ (List.mem_singleton.mpr same)
      · exact absurd ((List.pairwise_cons.mp behind).1 _ later) notBehind

end Compare

/-! ## The first verification -/

/-- A core does not report a function with the checksum it is bound to. -/
def NativeContract.Disputes (native : NativeContract) (bound : String → Option UInt16)
    (function : String) : Prop :=
  ∃ expected, bound function = some expected ∧ native.checksum? function ≠ some expected

/-- What a verification has to come to for bindings of a version and of the checksums that
functions are bound to. -/
structure Verification.Judges (version : UInt32) (bound : String → Option UInt16)
    (omitChecksums : Bool) (native : NativeContract) (verification : Verification) : Prop where
  accepts : verification.outcome = .ok () ↔ native.version = version ∧
    (omitChecksums = false → ∀ function expected, bound function = some expected →
      native.checksum? function = some expected)
  outdated : native.version ≠ version →
    verification.outcome = .error (.versionMismatch version.toNat native.version.toNat)
  disputed : ∀ error, native.version = version → verification.outcome = .error error →
    ∃ function expected, bound function = some expected ∧
      native.checksum? function ≠ some expected ∧
      error = .ofReport function expected (native.checksum? function) ∧
      ∀ other, native.Disputes bound other → other ≠ function →
        Utf8.encode function < Utf8.encode other
  asks : ∃ functions : List String,
    verification.queries = .version :: functions.map .checksum ∧
      functions.Pairwise (fun function later => Utf8.encode function < Utf8.encode later) ∧
      ∀ function, function ∈ functions ↔ native.version = version ∧ omitChecksums = false ∧
        (bound function).isSome ∧
        ∀ other, native.Disputes bound other → ¬ Utf8.encode other < Utf8.encode function

section Verify

variable {entries : NameMap UInt16} {bound : String → Option UInt16}
  (lists : ∀ function expected, (function, expected) ∈ entries ↔ bound function = some expected)
  (native : NativeContract)
include lists

theorem reports_iff : (∀ entry ∈ entries, native.Reports entry) ↔
    ∀ function expected, bound function = some expected →
      native.checksum? function = some expected := by
  simp only [Prod.forall, lists, NativeContract.Reports]

/-- A name is disputed if it is bound to a checksum that the core does not report. -/
theorem disputes_iff (function : String) : native.Disputes bound function ↔
    ∃ expected, (function, expected) ∈ entries ∧ ¬ native.Reports (function, expected) := by
  simp only [NativeContract.Disputes, lists, NativeContract.Reports, ne_eq]

/-- A name is bound if it has an entry. -/
theorem isSome_bound_iff (function : String) :
    (bound function).isSome ↔ ∃ expected, (function, expected) ∈ entries := by
  simp only [lists, Option.isSome_iff_exists]

omit lists in
theorem ascending_names {asked : NameMap UInt16} (ordered : NameMap.Ordered asked) :
    (asked.map Prod.fst).Pairwise fun function later =>
      Utf8.encode function < Utf8.encode later := by
  simp only [Utf8.encode_lt_encode]
  exact List.pairwise_map.mpr ordered

/-- A core that reports every checksum is accepted, after all names were asked for. -/
theorem judges_of_reported (ordered : NameMap.Ordered entries)
    (reported : ∀ entry ∈ entries, native.Reports entry) :
    Verification.Judges native.version bound false native
      ⟨.ok (), .version :: entries.map fun entry => .checksum entry.1⟩ where
  accepts := iff_of_true rfl ⟨rfl, fun _ => (reports_iff lists native).mp reported⟩
  outdated different := absurd rfl different
  disputed _ _ refused := nomatch refused
  asks := by
    have undisputed (function : String) : ¬ native.Disputes bound function := by
      rw [disputes_iff lists]
      exact fun ⟨expected, member, unreported⟩ => unreported (reported _ member)
    refine ⟨entries.map Prod.fst, by rw [List.map_map]; rfl, ascending_names ordered, ?_⟩
    intro function
    simp only [undisputed, false_implies, implies_true, and_true, true_and,
      isSome_bound_iff lists, List.mem_map, Prod.exists, exists_eq_right, exists_and_right]

/-- A core that reports another checksum is refused at the first name where it does. -/
theorem judges_of_not_reports {before after : NameMap UInt16} {entry : String × UInt16}
    (split : entries = before ++ entry :: after) (ordered : NameMap.Ordered entries)
    (reported : ∀ earlier ∈ before, native.Reports earlier)
    (different : ¬ native.Reports entry) :
    Verification.Judges native.version bound false native
      ⟨.error (.ofReport entry.1 entry.2 (native.checksum? entry.1)),
        .version :: (before ++ [entry]).map fun entry => .checksum entry.1⟩ := by
  subst split
  have member : entry ∈ before ++ entry :: after := List.mem_append_right _ List.mem_cons_self
  have itself : native.Disputes bound entry.1 :=
    (disputes_iff lists native entry.1).mpr ⟨entry.2, member, different⟩
  have first (other : String) (disputed : native.Disputes bound other) :
      other = entry.1 ∨ entry.1 < other := by
    obtain ⟨expected, among, unreported⟩ := (disputes_iff lists native other).mp disputed
    exact (eq_or_lt_of_not_reports ordered reported among unreported).imp_left
      (congrArg Prod.fst)
  constructor
  case accepts =>
    refine iff_of_false (fun accepted => nomatch accepted) fun ⟨_, agreed⟩ => ?_
    exact different ((reports_iff lists native).mpr (agreed rfl) entry member)
  case outdated => exact fun outdated => absurd rfl outdated
  case disputed =>
    intro error _ refused
    refine ⟨entry.1, entry.2, (lists _ _).mp member, different,
      (Except.error.inj refused).symm, fun other disputed distinct => ?_⟩
    exact Utf8.encode_lt_encode.mpr ((first other disputed).resolve_left distinct)
  case asks =>
    have asked : NameMap.Ordered (before ++ [entry]) :=
      List.Pairwise.sublist (List.append_cons before entry after ▸
        List.sublist_append_left _ _) ordered
    refine ⟨(before ++ [entry]).map Prod.fst, by rw [List.map_map]; rfl,
      ascending_names asked, fun function => ?_⟩
    rw [mem_asked_iff ordered, isSome_bound_iff lists]
    simp only [true_and, Utf8.encode_lt_encode]
    refine and_congr_right fun _ => ⟨fun notBehind other disputed below => ?_,
      fun undisputed => undisputed _ itself⟩
    rcases first other disputed with rfl | behind
    · exact notBehind below
    · exact notBehind (behind.trans below)

/-- **A verification judges a core by its version and by the checksums of all names.** -/
theorem verify_judges (version : UInt32) (omitChecksums : Bool)
    (ordered : NameMap.Ordered entries) :
    ((Bindings.mk version entries).verify omitChecksums native).Judges version bound
      omitChecksums native := by
  unfold Bindings.verify
  by_cases versions : native.version = version
  · subst versions
    cases omitChecksums with
    | true =>
        simp only [ne_eq, not_true_eq_false, ↓reduceIte]
        exact {
          accepts := iff_of_true rfl ⟨rfl, fun kept => nomatch kept⟩
          outdated := fun different => absurd rfl different
          disputed := fun _ _ refused => nomatch refused
          asks := ⟨[], rfl, List.Pairwise.nil, fun _ =>
            iff_of_false List.not_mem_nil fun kept => nomatch kept.2.1⟩ }
    | false =>
        simp only [ne_eq, not_true_eq_false, Bool.false_eq_true, ↓reduceIte]
        rcases verifyChecksums_cases native entries with
          ⟨reported, compared⟩ | ⟨before, entry, after, split, reported, different, compared⟩
        · rw [compared]
          exact judges_of_reported lists native ordered reported
        · rw [compared]
          exact judges_of_not_reports lists native split ordered reported different
  · simp only [ne_eq, versions, not_false_eq_true, ↓reduceIte]
    exact {
      accepts := iff_of_false (fun accepted => nomatch accepted) fun same => versions same.1
      outdated := fun _ => rfl
      disputed := fun _ same => absurd same versions
      asks := ⟨[], rfl, List.Pairwise.nil, fun _ =>
        iff_of_false List.not_mem_nil fun asked => versions asked.1⟩ }

end Verify

/-! ## Every later call -/

namespace LibraryGuard

/-- The calls of a guard for one core after another. -/
def ensureEach (guard : LibraryGuard) : List NativeContract → List Verification
  | [] => []
  | native :: later => (guard.ensure native).1 :: (guard.ensure native).2.ensureEach later

/-- A guard that has an outcome answers it to every core, and asks nothing. -/
theorem ensureEach_of_outcome {guard : LibraryGuard} {outcome : Except IntegrityError Unit}
    (known : guard.outcome = some outcome) (natives : List NativeContract) :
    guard.ensureEach natives = natives.map fun _ => ⟨outcome, []⟩ := by
  have kept (native : NativeContract) : guard.ensure native = (⟨outcome, []⟩, guard) := by
    rw [ensure, known]
  induction natives with
  | nil => rfl
  | cons native later ih => rw [ensureEach, kept, ih, List.map_cons]

/-- **The first call of a guard judges the core by the bindings, and every later call tells
what the first one found without asking anything.** -/
theorem ensureEach_ofChecksums (version : UInt32) (checksums : List (String × UInt16))
    (omitChecksums : Bool) (native : NativeContract) (later : List NativeContract) :
    ∃ first : Verification,
      first.Judges version (Entries.lastValue? checksums) omitChecksums native ∧
        (ofBindings (.ofChecksums version checksums) omitChecksums).ensureEach (native :: later) =
          first :: later.map fun _ => ⟨first.outcome, []⟩ := by
  rw [Bindings.ofChecksums_eq]
  refine ⟨_, ?_, congrArg _ (ensureEach_of_outcome rfl later)⟩
  refine verify_judges (fun function expected => ?_) native version omitChecksums
    (NameMap.ordered_ofList checksums)
  rw [(NameMap.ordered_ofList checksums).mem_iff, NameMap.get?_ofList]

end LibraryGuard

end Boundary
