import Boundary.Future.Slot

/-! # What becomes of continuations

A slot that is not cancelled loses no continuation. Of those that were left in it, in the
order in which they were left, the slot has let the earlier ones be resumed and remembers
what remains, which is one at most (`Boundary.Slot.Passes`). A slot that is cancelled lets
nothing be resumed.
-/

namespace Boundary

/-- The continuations that are resumed because the future is to be polled again. -/
def woken (signals : List Signal) : List UInt64 :=
  (signals.filter fun signal => signal.code = .wake).map Signal.data

/-- The continuations that are resumed because the result can be fetched. -/
def readied (signals : List Signal) : List UInt64 :=
  (signals.filter fun signal => signal.code = .ready).map Signal.data

theorem woken_append (first second : List Signal) :
    woken (first ++ second) = woken first ++ woken second := by
  unfold woken
  rw [List.filter_append, List.map_append]

theorem readied_append (first second : List Signal) :
    readied (first ++ second) = readied first ++ readied second := by
  unfold readied
  rw [List.filter_append, List.map_append]

/-- Each signal wakes or readies a continuation. -/
theorem woken_append_readied_perm (signals : List Signal) :
    (woken signals ++ readied signals).Perm (signals.map Signal.data) := by
  induction signals with
  | nil => exact .nil
  | cons signal rest ih =>
      obtain ⟨data, code⟩ := signal
      cases code with
      | ready => exact List.perm_middle.trans (ih.cons data)
      | wake => exact ih.cons data

namespace Slot

variable {slot between after : Slot}

/-- The continuation that waits, if one does. -/
def stored : Slot → List UInt64
  | waiting data => [data]
  | _ => []

theorem length_stored_le (slot : Slot) : slot.stored.length ≤ 1 := by
  cases slot with
  | waiting data => exact Nat.le_refl 1
  | _ => exact Nat.zero_le 1

/-- The future can make progress, a number of times. -/
def wakeTimes : (times : Nat) → Slot → List Signal × Slot
  | 0, slot => ([], slot)
  | times + 1, slot =>
    let (later, last) := slot.wake.2.wakeTimes times
    (slot.wake.1.toList ++ later, last)

/-- Waking a cancelled slot does nothing. -/
theorem wakeTimes_cancelled (times : Nat) : cancelled.wakeTimes times = ([], cancelled) := by
  induction times with
  | zero => rfl
  | succ times ih =>
      change (none.toList ++ (cancelled.wakeTimes times).1, (cancelled.wakeTimes times).2) = _
      rw [ih]
      rfl

theorem wakeTimes_waked (times : Nat) : (waked.wakeTimes times).2 = waked := by
  induction times with
  | zero => rfl
  | succ times ih => exact ih

/-- A wake takes the continuation out of a slot. -/
theorem stored_wakeTimes (slot : Slot) (times : Nat) :
    (slot.wakeTimes times).2.stored = if times = 0 then slot.stored else [] := by
  cases times with
  | zero => rfl
  | succ times =>
      rw [if_neg times.succ_ne_zero]
      cases slot with
      | cancelled => exact congrArg stored (congrArg Prod.snd (wakeTimes_cancelled (times + 1)))
      | waiting data =>
          change (empty.wakeTimes times).2.stored = []
          cases times with
          | zero => rfl
          | succ times => exact congrArg stored (wakeTimes_waked times)
      | _ => exact congrArg stored (wakeTimes_waked times)

/-- A continuation is remembered after a number of wakes unless one of them was left over for it.
When one waited before, it took the first. -/
theorem stored_store_wakeTimes (active : slot.isCancelled = false) (data : UInt64) (times : Nat) :
    ((slot.wakeTimes times).2.store data).2.stored ≠ [] ↔
      times = 0 ∧ slot ≠ waked ∨ times = 1 ∧ slot.stored ≠ [] := by
  cases slot with
  | cancelled => cases active
  | _ =>
    rcases times with _ | _ | times
    all_goals simp [wakeTimes, wake, store, stored, wakeTimes_waked]

/-- From one slot to another, continuations were left for polls that found the future unfinished
and signals were sent to them and to polls that found it finished. None is lost on the way. -/
structure Passes (slot : Slot) (pending finished : List UInt64) (signals : List Signal)
    (after : Slot) : Prop where
  active : after.isCancelled = false
  woken : woken signals ++ after.stored = slot.stored ++ pending
  readied : readied signals = finished

theorem Passes.refl (active : slot.isCancelled = false) : slot.Passes [] [] [] slot :=
  ⟨active, (List.append_nil _).symm, rfl⟩

/-- What passes through a slot in two steps passes through it. -/
theorem Passes.trans {pending pending' finished finished' : List UInt64}
    {signals signals' : List Signal} (first : slot.Passes pending finished signals between)
    (second : between.Passes pending' finished' signals' after) :
    slot.Passes (pending ++ pending') (finished ++ finished') (signals ++ signals') after where
  active := second.active
  woken := by
    rw [woken_append, List.append_assoc, second.woken, ← List.append_assoc, first.woken,
      List.append_assoc]
  readied := by rw [readied_append, first.readied, second.readied]

theorem passes_wake (active : slot.isCancelled = false) :
    slot.Passes [] [] slot.wake.1.toList slot.wake.2 := by
  cases slot with
  | cancelled => cases active
  | _ => exact ⟨rfl, rfl, rfl⟩

theorem passes_store (active : slot.isCancelled = false) (data : UInt64) :
    slot.Passes [data] [] (slot.store data).1.toList (slot.store data).2 := by
  cases slot with
  | cancelled => cases active
  | _ => exact ⟨rfl, rfl, rfl⟩

/-- READY passes its continuation on, past the slot. -/
theorem passes_ready (active : slot.isCancelled = false) (data : UInt64) :
    slot.Passes [] [data] [⟨data, .ready⟩] slot :=
  ⟨active, (List.append_nil _).symm, rfl⟩

/-- Several wakes pass on what was stored. -/
theorem passes_wakeTimes (active : slot.isCancelled = false) (times : Nat) :
    slot.Passes [] [] (slot.wakeTimes times).1 (slot.wakeTimes times).2 := by
  induction times generalizing slot with
  | zero => exact .refl active
  | succ times ih =>
      have first := passes_wake active
      exact first.trans (ih first.active)

theorem isCancelled_iff : slot.isCancelled ↔ slot = cancelled := by
  cases slot <;> simp [isCancelled]

end Slot

end Boundary
