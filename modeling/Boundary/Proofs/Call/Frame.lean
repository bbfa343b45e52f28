import Boundary.Proofs.Call.Report

/-! # What is on record after a call

A body that hands nothing out itself is run in an envelope. Afterwards the ledger has on record
what it had before, and the buffers that are handed over with the value and in the status
(`Boundary.Envelope.outputOrError_adds_iff`). That is so whatever the value or the declared
error does when it is lowered, except that one that panics while it writes leaves the memory
behind that was handed out for it. Nobody is told of that memory.
-/

namespace Boundary

/-- The claims to the buffer that is passed, if one is. -/
def Passed.claims : Passed → List (Address × Nat)
  | .buffer own => own.claims
  | .void | .word _ _ => []

@[simp] theorem claims_placeholder (channel : Channel) : channel.placeholder.claims = [] := by
  cases channel <;> rfl

theorem gains_messageBuffer {ledger : Ledger} (orderly : ledger.Orderly) (message : String) :
    ledger.Gains (messageBuffer message ledger).2 (messageBuffer message ledger).1.claims := by
  obtain ⟨data, filled, _⟩ := messageBuffer_eq message
  rw [filled]
  exact Buffer.gains_record orderly _ _ _

namespace Envelope

/-- What has to be lowered when a body has ended: a value that it returns, or an error that it
declares. -/
def lowered? : Outcome Lowering Output → Option Lowering
  | .ok (.lowered lowering) => some lowering
  | .error (.error lowering) => some lowering
  | _ => none

/-- What has to be lowered, if anything has, does not panic halfway. -/
def Tidy (ended : Outcome Lowering Output) : Prop :=
  ∀ lowering, lowered? ended = some lowering → ¬ lowering.Abandons

variable {ledger : Ledger} {ended : Outcome Lowering Output}

theorem Tidy.of_lowered {lowering : Lowering} (used : lowered? ended = some lowering)
    (tidy : ¬ lowering.Abandons) : Tidy ended := by
  intro other same
  cases used.symm.trans same
  exact tidy

/-- How passing on can go for a body, and what the ledger gains by it. -/
inductive Packs (ended : Outcome Lowering Output) (ledger : Ledger) :
    EStateM.Result (Fault Error) Ledger (Except Buffer Passed) → Prop
  | passed {value : Passed} {after : Ledger} :
      Tidy ended → ledger.Adds after value.claims →
      Packs ended ledger (.ok (.ok value) after)
  | declared {encoding : Buffer} {after : Ledger} :
      Tidy ended → ledger.Gains after encoding.claims →
      Packs ended ledger (.ok (.error encoding) after)
  | failed {fault : Fault Error} {after : Ledger} :
      Tidy ended → ledger.Gains after [] →
      Packs ended ledger (.error fault after)
  | abandoned {lowering : Lowering} {fault : Fault Error} {after : Ledger} :
      lowered? ended = some lowering → lowering.Abandons →
      ledger.Gains after [(ledger.nextAddress, lowering.size)] →
      Packs ended ledger (.error fault after)

/-- A buffer of the body itself is handed over as it is. -/
theorem adds_of_isLive (orderly : ledger.Orderly) {own : Buffer} (live : own.isLive ledger) :
    ledger.Adds ledger own.claims where
  orderly := orderly
  isLive_iff address capacity := by
    unfold Buffer.claims
    unfold Buffer.isLive at live
    cases located : own.address with
    | none => exact (or_iff_left List.not_mem_nil).symm
    | some _ =>
        simp only [located] at live
        refine ⟨Or.inl, fun either => either.elim id fun claimed => ?_⟩
        cases List.mem_singleton.mp claimed
        exact live

/-- A value or an error is lowered, and what comes of that decides. -/
theorem Packs.of_lower {lowering : Lowering} {run : EStateM.Result (Fault Error) Ledger _}
    (orderly : ledger.Orderly) (used : lowered? ended = some lowering)
    (done : ∀ own after, Buffer.lower lowering ledger = .ok own after → Tidy ended →
      ledger.Gains after own.claims → Packs ended ledger run)
    (undone : ∀ fault after, Buffer.lower lowering ledger = .error fault after →
      run = .error fault after) : Packs ended ledger run := by
  have possible := Buffer.lower_cases orderly lowering
  match lowered : Buffer.lower lowering ledger with
  | .ok own after =>
      rw [lowered] at possible
      cases possible with
      | handed tidy gains => exact done own after lowered (.of_lowered used tidy) gains
  | .error fault after =>
      rw [lowered] at possible
      rw [undone fault after lowered]
      cases possible with
      | refused tidy gains => exact .failed (.of_lowered used tidy) gains
      | abandoned abandons gains => exact .abandoned used abandons gains

/-- **Everything that packing an ending can come to**, with what it leaves in the ledger. -/
theorem pack_cases (orderly : ledger.Orderly)
    (owned : ∀ own, ended = .ok (.buffer own) → own.isLive ledger) :
    Packs ended ledger (pack Output.pass ended ledger) := by
  have nothing := (Ledger.Gains.refl orderly).toAdds
  match ended with
  | .ok .void => exact .passed nofun nothing
  | .ok (.word type word) => exact .passed nofun nothing
  | .ok (.buffer own) => exact .passed nofun (adds_of_isLive orderly (owned own rfl))
  | .ok (.lowered lowering) =>
      refine .of_lower orderly rfl (fun own after lowered tidy gains => ?_)
        fun fault after failed => ?_
      · have passed : Output.pass (.lowered lowering) ledger = .ok (.buffer own) after :=
          Act.bind_of_ok lowered
        have packed : pack Output.pass (.ok (.lowered lowering)) ledger =
          .ok (.ok (.buffer own)) after := Act.bind_of_ok passed
        rw [packed]
        exact .passed tidy gains.toAdds
      · have unpassed : Output.pass (.lowered lowering) ledger = .error fault after :=
          Act.bind_of_error failed
        exact Act.bind_of_error unpassed
  | .error (.error lowering) =>
      refine .of_lower orderly rfl (fun own after lowered tidy gains => ?_)
        fun fault after failed => ?_
      · have packed : pack Output.pass (.error (.error lowering)) ledger =
          .ok (.error own) after := Act.bind_of_ok lowered
        rw [packed]
        exact .declared tidy gains
      · exact Act.bind_of_error failed
  | .error (.panic payload) => exact .failed nofun (.refl orderly)

variable {σ : Type} [Part σ Ledger]

/-- A tidy ending adds what it hands over. -/
theorem adds_iff_of_tidy {before after : Ledger} {given : List (Address × Nat)} (tidy : Tidy ended)
    (adds : before.Adds after given) :
    (before.Adds after given ↔ Tidy ended) ∧
      ∀ lowering, lowered? ended = some lowering → lowering.Abandons →
        before.Adds after (given ++ [(before.nextAddress, lowering.size)]) :=
  ⟨iff_of_true adds tidy, fun lowering used abandons => absurd abandons (tidy lowering used)⟩

/-- A value that panics while it is written adds the memory that it was given. -/
theorem adds_iff_of_abandoned {before between after : Ledger} {given : List (Address × Nat)}
    {lowering : Lowering} (orderly : before.Orderly) (used : lowered? ended = some lowering)
    (abandons : lowering.Abandons)
    (lost : before.Gains between [(before.nextAddress, lowering.size)])
    (gains : between.Gains after given) :
    (before.Adds after given ↔ Tidy ended) ∧
      ∀ lowering, lowered? ended = some lowering → lowering.Abandons →
        before.Adds after (given ++ [(before.nextAddress, lowering.size)]) := by
  have both := lost.trans gains
  constructor
  · refine iff_of_false (fun adds => ?_) fun tidy => tidy lowering used abandons
    -- The memory that was lost is neither on record before nor handed over.
    have live := (both.isLive_iff _ _).mpr (.inr List.mem_cons_self)
    rcases (adds.isLive_iff _ _).mp live with known | handed
    · exact orderly.not_isLive (Nat.le_refl _) _ known
    · have later := gains.fresh _ handed
      have earlier := (lost.isLive_iff _ _).mpr (.inr List.mem_cons_self)
      exact lost.orderly.not_isLive later _ earlier
  · intro other same _
    cases used.symm.trans same
    refine ⟨both.orderly, fun address capacity => ?_⟩
    rw [both.isLive_iff, List.mem_append, List.mem_append, @or_comm (_ ∈ given)]

/-- **A call leaves behind what it hands over.** A body that leaves the ledger as it was is run in
an envelope, and may pass on a buffer that is on record. Afterwards the ledger has on record what it
had before, the buffer that comes with the value and the one in the status, and nothing else,
exactly when no value or declared error panics while it is written into memory. If one does, that
memory is on record besides. -/
theorem outputOrError_adds_iff (channel : Channel) (body : Act σ Lowering Output) (state : σ)
    (orderly : (Part.get state : Ledger).Orderly)
    (untouched : (Part.get (body.observe state).2 : Ledger) = Part.get state)
    (owned : ∀ own, (body.observe state).1 = .ok (.buffer own) → own.isLive (Part.get state)) :
    let before : Ledger := Part.get state
    let ended := (body.observe state).1
    let ran := outputOrError channel body state
    let after : Ledger := Part.get ran.2
    let given := ran.1.1.claims ++ ran.1.2.errorBuffer.claims
    (before.Adds after given ↔ Tidy ended) ∧
      ∀ lowering, lowered? ended = some lowering → lowering.Abandons →
        before.Adds after (given ++ [(before.nextAddress, lowering.size)]) := by
  intro before ended ran after given
  have possible : Packs ended before
      (pack Output.pass ended (Part.get (body.observe state).2)) := by
    rw [untouched]
    exact pack_cases orderly owned
  match packed : pack Output.pass ended (Part.get (body.observe state).2) with
  | .ok (.ok value) left =>
      have returned : ran = _ := result_of_ok packed
      have unexplained : Status.success.errorBuffer.claims = [] := rfl
      simp only [after, given, returned, Part.get_set, unexplained, List.append_nil]
      rw [packed] at possible
      cases possible with
      | passed tidy adds => exact adds_iff_of_tidy tidy adds
  | .ok (.error encoding) left =>
      have returned : ran = _ := result_of_ok packed
      simp only [after, given, returned, Part.get_set, claims_placeholder, List.nil_append]
      rw [packed] at possible
      cases possible with
      | declared tidy gains => exact adds_iff_of_tidy tidy gains.toAdds
  | .error fault left =>
      have returned : ran = _ := result_of_error packed
      simp only [after, given, returned, Part.get_set, claims_placeholder, List.nil_append,
        Status.panic_eq]
      rw [packed] at possible
      cases possible with
      | failed tidy gains =>
          have told := gains.trans (gains_messageBuffer gains.orderly fault.wording)
          rw [List.nil_append] at told
          exact adds_iff_of_tidy tidy told.toAdds
      | abandoned used abandons gains =>
          exact adds_iff_of_abandoned orderly used abandons gains
            (gains_messageBuffer gains.orderly fault.wording)

/-- A number is passed in a buffer, which is then on record. -/
theorem outputOrError_adds_number :
    let number : Lowering := .word 4 7
    let body : Act Ledger Lowering Output := return .lowered number
    let ran := outputOrError .buffer body .empty
    Ledger.empty.Orderly ∧ Tidy (.ok (.lowered number)) ∧
      ran.1.1.claims ++ ran.1.2.errorBuffer.claims = [(1, 4)] ∧
      Ledger.empty.Adds ran.2 [(1, 4)] := by
  intro number body ran
  have orderly : Ledger.empty.Orderly := ⟨List.nodup_nil, List.forall_mem_nil _⟩
  have filled : number.fill = .ok [0, 0, 0, 7] := rfl
  have tidy : Tidy (.ok (.lowered number)) :=
    .of_lowered rfl fun ⟨_, _, _, panicked⟩ => nomatch filled.symm.trans panicked
  have accounted := outputOrError_adds_iff .buffer body Ledger.empty orderly rfl nofun
  exact ⟨orderly, tidy, rfl, accounted.1.mpr tidy⟩

/-- A value that panics while it writes itself leaves its memory behind, which is on record and not
handed over. -/
theorem outputOrError_strands_memory :
    let lowering : Lowering := ⟨4, Act.unwind (.text "boom")⟩
    let body : Act Ledger Lowering Output := return .lowered lowering
    let ran := outputOrError .buffer body .empty
    let given := ran.1.1.claims ++ ran.1.2.errorBuffer.claims
    Ledger.empty.Orderly ∧ (body.observe .empty).2 = Ledger.empty ∧ given = [(2, 8)] ∧
      ran.2.isLive 1 4 ∧ ran.2.outstanding = 2 ∧ ¬ Ledger.empty.Adds ran.2 given := by
  intro lowering body ran given
  have handed : given = [(2, 8)] := by decide +kernel
  have lost : ran.2.isLive 1 4 := by decide +kernel
  refine ⟨⟨List.nodup_nil, List.forall_mem_nil _⟩, rfl, handed, lost, by decide +kernel, ?_⟩
  intro adds
  rw [handed] at adds
  exact absurd ((adds.isLive_iff 1 4).mp lost) (by decide)

end Envelope

end Boundary
