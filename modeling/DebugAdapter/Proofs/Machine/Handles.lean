import DebugAdapter.Proofs.Machine.Words
import DebugAdapter.Proofs.Variables.Codec

/-!
# Handles in words

A handle is packed and unpacked by masks and shifts of a signed word. Packing a reference that
does not fit would run its fields into each other: it breaks off.
-/

namespace DebugAdapter

namespace VarRef

-- ---------------------------------------------------------------------------
-- Packing
-- ---------------------------------------------------------------------------

def encodeInWords (ref : VarRef) : Checked (Word .i64) :=
  if ref.Fits then do
    let number ← Word.ofInt .u8 ref.scope.number
    let scope ← (← number.cast .i64).shiftLeft 29
    let index ← Word.ofInt .usize ref.frame
    let frame ← (← (← index.cast .i64).add (.small 1)).shiftLeft 21
    let slot ← Word.ofInt .u32 ref.slot
    (← scope.or frame).or (← slot.cast .i64)
  else .error (.reference ref)

theorem yields_encode {ref : VarRef} (fits : ref.Fits) :
    Yields ref.encodeInWords (·.val = ref.encode) := by
  have last : ref.scope.number ≤ 3 := by cases ref.scope <;> decide
  have whole := encode_le fits
  -- without its slot a reference has the upper fields alone
  have root : (VarRef.mk ref.scope ref.frame 0).Fits := ⟨fits.1, Nat.zero_le _⟩
  have upper := encode_le root
  rw [encode_eq_or fits] at whole ⊢
  rw [encode_eq_or root, Nat.or_zero] at upper
  rw [encodeInWords, if_pos fits]
  simp only [Fits, maxFrame, maxSlot] at fits
  simp only [maxHandle] at whole upper
  refine (yields_ofInt (by simp; omega)).bind fun number h => ?_
  refine (yields_ofInt (by simp; omega)).bind fun number h' => ?_
  have top : WordType.i64.Holds (ref.scope.number <<< 29 : Nat) := by
    simp [Nat.shiftLeft_eq]
    omega
  refine (yields_shiftLeft (h'.trans h) top).bind fun scope first => ?_
  refine (yields_ofInt (by simp; omega)).bind fun index h => ?_
  refine (yields_ofInt (by simp; omega)).bind fun index h' => ?_
  refine (yields_ofInt (by simp; omega)).bind fun stored h'' => ?_
  have above : stored.val = (ref.frame + 1 : Nat) := by
    simp [h'', h', h]
  have middle : WordType.i64.Holds ((ref.frame + 1) <<< 21 : Nat) := by
    simp [Nat.shiftLeft_eq]
    omega
  refine (yields_shiftLeft above middle).bind fun frame second => ?_
  refine (yields_ofInt (by simp; omega)).bind fun slot h => ?_
  refine (yields_or first second (by simp; omega)).bind fun fields both => ?_
  refine (yields_ofInt (by simp; omega)).bind fun slot h' => ?_
  exact yields_or both (h'.trans h) (by simp; omega)

example : encodeInWords ⟨.global, 255, 0⟩ = .error (.reference ⟨.global, 255, 0⟩) := rfl

-- ---------------------------------------------------------------------------
-- Unpacking
-- ---------------------------------------------------------------------------

def slotMask : Word .i64 := ⟨0x1fffff, by decide⟩
def frameMask : Word .i64 := ⟨0x1fe00000, by decide⟩
def scopeMask : Word .i64 := ⟨0x60000000, by decide⟩

def decodeInWords (handle : Word .i64) : Checked (Except Failure VarRef) :=
  if handle.val ≤ 0 ∨ handle.val > maxHandle then return .error (.invalidHandle handle.val)
  else do
    let stored ← (← handle.and frameMask).shiftRight 21
    if stored.val = 0 then return .error (.invalidHandle handle.val)
    else
      let number ← (← (← handle.and scopeMask).shiftRight 29).cast .u8
      match ScopeKind.ofNumber? number.toNat with
      | none => return .error (.invalidHandle handle.val)
      | some scope =>
        let frame ← (← stored.cast .usize).sub (.small 1)
        let slot ← (← handle.and slotMask).cast .u32
        return .ok ⟨scope, frame.toNat, slot.toNat⟩

theorem frameField_eq (n : Nat) : (n &&& 0x1fe00000) >>> 21 = n / 0x200000 % 0x100 := by
  rw [Nat.shiftRight_and_distrib, Nat.shiftRight_eq_div_pow]
  exact Nat.and_two_pow_sub_one_eq_mod _ 8

theorem scopeField_eq (h : n ≤ maxHandle) : (n &&& 0x60000000) >>> 29 = n / 0x20000000 := by
  rw [Nat.shiftRight_and_distrib, Nat.shiftRight_eq_div_pow]
  refine (Nat.and_two_pow_sub_one_eq_mod _ 2).trans (Nat.mod_eq_of_lt ?_)
  simp only [maxHandle] at h
  omega

theorem slotField_eq (n : Nat) : n &&& 0x1fffff = n % 0x200000 :=
  Nat.and_two_pow_sub_one_eq_mod _ 21

theorem yields_decode (handle : Word .i64) :
    Yields (decodeInWords handle) (· = decode handle.val) := by
  unfold decodeInWords decode
  split
  · exact .pure rfl
  rename_i range
  simp only [maxHandle] at range
  rcases Int.eq_ofNat_of_zero_le (a := handle.val) (by omega) with ⟨n, natural⟩
  have same : handle.val.toNat = n := by omega
  have low : n ≤ 0x7fffffff := by omega
  have masked (mask : Word .i64) {bits : Nat} (h : mask.val = bits) :
      Yields (handle.and mask) (·.val = (n &&& bits : Nat)) := by
    have le := Nat.and_le_left (n := n) (m := bits)
    exact yields_and natural h (by simp; omega)
  dsimp only
  rw [same]
  refine (masked frameMask rfl).bind fun upper h => ?_
  refine (yields_shiftRight h (by simp [frameField_eq]; omega)).bind fun stored h => ?_
  rw [frameField_eq] at h
  by_cases absent : n / 0x200000 % 0x100 = 0
  · rw [if_pos absent, if_pos (by omega)]
    exact .pure rfl
  rw [if_neg absent, if_neg (by omega)]
  refine (masked scopeMask rfl).bind fun top k => ?_
  refine (yields_shiftRight k (by simp [scopeField_eq low]; omega)).bind fun number k => ?_
  rw [scopeField_eq low] at k
  refine (yields_ofInt (by simp; omega)).bind fun number k' => ?_
  rw [Word.toNat_of_val (k'.trans k)]
  cases ScopeKind.ofNumber? (n / 0x20000000) with
  | none => exact .pure rfl
  | some scope =>
    refine (yields_ofInt (by simp; omega)).bind fun index h' => ?_
    refine (yields_ofInt (by simp; omega)).bind fun frame h'' => ?_
    refine (masked slotMask rfl).bind fun lower l => ?_
    rw [slotField_eq] at l
    refine (yields_ofInt (by simp; omega)).bind fun slot l' => .pure ?_
    have frame' : frame.toNat = n / 0x200000 % 0x100 - 1 := by
      simp only [Word.toNat, h'', h', h, Word.val_small, Nat.reduceLeDiff]
      omega
    rw [frame', Word.toNat_of_val (l'.trans l)]

end VarRef

end DebugAdapter
