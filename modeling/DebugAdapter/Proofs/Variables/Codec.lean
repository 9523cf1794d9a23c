import DebugAdapter.Variables.Ref

/-!
# Handles and references

A handle is read back as the reference it was written for, and it is one of
the numbers that a client may send. `codec_exact`: references that fit and the
numbers that are read correspond one to one.
-/

namespace DebugAdapter

namespace VarRef

def slotOf (handle : Int) : Nat := handle.toNat % 0x200000

variable {r : VarRef}

theorem encode_pos (r : VarRef) : 0 < r.encode := by
  unfold encode
  omega

theorem encode_le (h : r.Fits) : r.encode ≤ maxHandle := by
  obtain ⟨hf, hs⟩ := h
  obtain ⟨scope, frame, slot⟩ := r
  simp only [maxFrame, maxSlot] at hf hs
  cases scope <;> simp only [encode, ScopeKind.number, maxHandle] <;> omega

theorem slotOf_encode (h : r.Fits) : slotOf r.encode = r.slot := by
  have hs := h.2
  simp only [maxSlot] at hs
  simp only [slotOf, encode, Int.toNat_natCast]
  omega

theorem decode_encode (h : r.Fits) : decode r.encode = .ok r := by
  have hp := r.encode_pos
  have hm := encode_le h
  obtain ⟨hf, hs⟩ := h
  obtain ⟨scope, frame, slot⟩ := r
  simp only [maxFrame, maxSlot] at hf hs
  have scopeField : encode ⟨scope, frame, slot⟩ / 0x20000000 = scope.number := by
    simp only [encode]
    omega
  have frameField : encode ⟨scope, frame, slot⟩ / 0x200000 % 0x100 = frame + 1 := by
    simp only [encode]
    omega
  have slotField : encode ⟨scope, frame, slot⟩ % 0x200000 = slot := by
    simp only [encode]
    omega
  have inRange : ¬((encode ⟨scope, frame, slot⟩ : Int) ≤ 0 ∨
      (encode ⟨scope, frame, slot⟩ : Int) > maxHandle) := by omega
  simp only [decode, if_neg inRange, Int.toNat_natCast, scopeField, frameField, slotField,
    ScopeKind.ofNumber?_number]
  simp

-- ---------------------------------------------------------------------------
-- Exactness
-- ---------------------------------------------------------------------------

theorem make?_eq_some {scope : ScopeKind} {frame slot : Nat} {made : VarRef} :
    make? scope frame slot = some made ↔ made.Fits ∧ made = ⟨scope, frame, slot⟩ := by
  unfold make?
  constructor
  · intro h
    split at h
    · cases h
      exact ⟨‹_›, rfl⟩
    · cases h
  · rintro ⟨fits, rfl⟩
    exact if_pos fits

theorem make?_eq_none {scope : ScopeKind} {frame slot : Nat} :
    make? scope frame slot = none ↔ maxFrame < frame ∨ maxSlot < slot := by
  by_cases fits : (VarRef.mk scope frame slot).Fits
  · have small := fits.1
    have low := fits.2
    simp only [make?, if_pos fits, reduceCtorEq, false_iff, not_or, Nat.not_lt]
    exact ⟨small, low⟩
  · simp only [make?, if_neg fits, true_iff]
    simp only [Fits] at fits
    omega

/-- The three fields lie side by side. -/
theorem encode_eq_or (h : r.Fits) :
    r.encode = r.scope.number <<< 29 ||| (r.frame + 1) <<< 21 ||| r.slot := by
  obtain ⟨hf, hs⟩ := h
  simp only [maxFrame, maxSlot] at hf hs
  have low : r.slot < 2 ^ 21 := by omega
  have middle : (r.frame + 1) <<< 21 < 2 ^ 29 := by
    rw [Nat.shiftLeft_eq]
    omega
  have shifted : r.scope.number <<< 29 + (r.frame + 1) <<< 21 =
      (r.scope.number <<< 8 + (r.frame + 1)) <<< 21 := by
    simp only [Nat.shiftLeft_eq]
    omega
  rw [← Nat.shiftLeft_add_eq_or_of_lt middle, shifted, ← Nat.shiftLeft_add_eq_or_of_lt low]
  simp only [encode, Nat.shiftLeft_eq]
  omega

theorem ofNumber?_eq_some {scope : ScopeKind} (h : ScopeKind.ofNumber? n = some scope) :
    n = scope.number := by
  unfold ScopeKind.ofNumber? at h
  split at h <;> cases h <;> rfl

theorem decode_eq_ok {n : Int} : decode n = .ok r ↔ r.Fits ∧ (r.encode : Int) = n := by
  constructor
  · intro h
    unfold decode at h
    split at h
    · cases h
    rename_i range
    dsimp only at h
    split at h
    · cases h
    rename_i field
    split at h
    · cases h
    rename_i scope found
    cases h
    have number := ofNumber?_eq_some found
    refine ⟨⟨?_, ?_⟩, ?_⟩
    all_goals simp only [maxFrame, maxSlot, encode, ← number]
    all_goals omega
  · rintro ⟨fits, rfl⟩
    exact decode_encode fits

theorem decode_eq_error {n : Int} {failure : Failure} (h : decode n = .error failure) :
    failure = .invalidHandle n := by
  unfold decode at h
  split at h
  · exact (Except.error.inj h).symm
  dsimp only at h
  split at h
  · exact (Except.error.inj h).symm
  split at h
  · exact (Except.error.inj h).symm
  · cases h

/-- A reference is made exactly if its frame and slot fit their fields, and is
then a positive number of 31 bits, which is read back. A number is refused, or
it is read as a reference that can be made and is written as that number. So no
two references share a number, and the numbers that are read are those that are
written. -/
theorem codec_exact :
    (∀ scope frame slot,
      (frame ≤ maxFrame ∧ slot ≤ maxSlot → ∃ r, make? scope frame slot = some r ∧
        r.scope = scope ∧ r.frame = frame ∧ r.slot = slot ∧
        1 ≤ r.encode ∧ r.encode ≤ 0x7fffffff ∧ decode r.encode = .ok r) ∧
      (maxFrame < frame ∨ maxSlot < slot → make? scope frame slot = none)) ∧
    (∀ n : Int, decode n = .error (.invalidHandle n) ∨ ∃ r, decode n = .ok r ∧
      make? r.scope r.frame r.slot = some r ∧ (r.encode : Int) = n) ∧
    (∀ r s : VarRef, r.Fits → s.Fits → r.encode = s.encode → r = s) ∧
    (∀ n : Int, (∃ r, decode n = .ok r) ↔ ∃ r : VarRef, r.Fits ∧ (r.encode : Int) = n) ∧
    (∀ r : VarRef, r.encode ≠ 0) ∧
    ∀ r : VarRef, r.Fits →
      r.encode = r.scope.number <<< 29 ||| (r.frame + 1) <<< 21 ||| r.slot := by
  refine ⟨fun scope frame slot => ⟨?_, make?_eq_none.mpr⟩, fun n => ?_, ?_, fun n => ?_, ?_,
    fun r => encode_eq_or⟩
  · intro fits
    have fits : (VarRef.mk scope frame slot).Fits := fits
    exact ⟨_, make?_eq_some.mpr ⟨fits, rfl⟩, rfl, rfl, rfl, encode_pos _, encode_le fits,
      decode_encode fits⟩
  · cases h : decode n with
    | error failure => exact .inl (by rw [decode_eq_error h])
    | ok r =>
      obtain ⟨fits, same⟩ := decode_eq_ok.mp h
      exact .inr ⟨r, rfl, make?_eq_some.mpr ⟨fits, rfl⟩, same⟩
  · intro r s fits fits' same
    have read := decode_encode fits
    rw [same, decode_encode fits'] at read
    exact (Except.ok.inj read).symm
  · simp only [decode_eq_ok]
  · intro r
    exact Nat.ne_of_gt r.encode_pos

/-- The last slot of the last frame of the last scope has the greatest handle; one
more is no handle, and neither is a scope without a frame. -/
theorem greatest_handle :
    make? .closure 254 2097151 = some ⟨.closure, 254, 2097151⟩ ∧
      decode 2147483647 = .ok ⟨.closure, 254, 2097151⟩ ∧
      decode 2147483648 = .error (.invalidHandle 2147483648) ∧
      decode (3 <<< 29 : Nat) = .error (.invalidHandle (3 <<< 29 : Nat)) ∧
      make? .closure 255 0 = none := by
  obtain ⟨made, read, -⟩ := codec_exact
  obtain ⟨r, some, hs, hf, hl, -, -, back⟩ := (made .closure 254 2097151).1 (by decide)
  obtain rfl : r = ⟨.closure, 254, 2097151⟩ := by
    cases r
    simp_all
  refine ⟨some, back, ?_, ?_, (made .closure 255 0).2 (by decide)⟩
  · obtain refused | ⟨r, accepted, -⟩ := read 2147483648
    · exact refused
    · cases accepted
  · obtain refused | ⟨r, accepted, -⟩ := read (3 <<< 29 : Nat)
    · exact refused
    · cases accepted

end VarRef

end DebugAdapter
