import DebugAdapter.Proofs.InPlace
import DebugAdapter.Variables.Ref
import Mathlib.Data.Int.Bitwise

/-!
# Machine words

Arithmetic in the integer types of a machine, by a program that breaks off where a number
leaves the range of its type: nothing wraps around, no cast changes a number and no shift
loses a bit. It breaks off as well at a part of a list that is not there. `Yields` says that
such work goes through, and what comes of it.
-/

namespace DebugAdapter

inductive WordType where
  | u8
  | u32
  | usize
  | i64
  deriving Repr, DecidableEq

namespace WordType

def least : WordType → Int
  | .i64 => -9223372036854775808
  | _ => 0

def greatest : WordType → Int
  | .u8 => 255
  | .u32 => 4294967295
  | .usize => 18446744073709551615
  | .i64 => 9223372036854775807

def Holds (t : WordType) (n : Int) : Prop := t.least ≤ n ∧ n ≤ t.greatest

instance (t : WordType) (n : Int) : Decidable (t.Holds n) := inferInstanceAs (Decidable (_ ∧ _))

@[simp] theorem holds_u8 {n : Int} : u8.Holds n ↔ 0 ≤ n ∧ n ≤ 255 := Iff.rfl

@[simp] theorem holds_u32 {n : Int} : u32.Holds n ↔ 0 ≤ n ∧ n ≤ 4294967295 := Iff.rfl

@[simp] theorem holds_usize {n : Int} : usize.Holds n ↔ 0 ≤ n ∧ n ≤ 18446744073709551615 := Iff.rfl

@[simp] theorem holds_i64 {n : Int} :
    i64.Holds n ↔ -9223372036854775808 ≤ n ∧ n ≤ 9223372036854775807 := Iff.rfl

theorem holds_clamped (t : WordType) (n : Int) : t.Holds (max t.least (min n t.greatest)) := by
  cases t <;> simp only [Holds, least, greatest] <;> omega

end WordType

inductive Breach where
  /-- A number outside the range of its type. -/
  | range (t : WordType) (n : Int)
  /-- A part of a list that is not there. -/
  | slice (start stop length : Nat)
  /-- A reference that is written though its frame or slot does not fit. -/
  | reference (ref : VarRef)
  deriving Repr, DecidableEq

abbrev Checked := Except Breach

structure Word (t : WordType) where
  val : Int
  holds : t.Holds val

-- ---------------------------------------------------------------------------
-- Operations
-- ---------------------------------------------------------------------------

namespace Word

variable {t : WordType}

def ofInt? (t : WordType) (n : Int) : Option (Word t) := if h : t.Holds n then some ⟨n, h⟩ else none

def ofInt (t : WordType) (n : Int) : Checked (Word t) :=
  if h : t.Holds n then .ok ⟨n, h⟩ else .error (.range t n)

def clamp (t : WordType) (n : Int) : Word t :=
  ⟨max t.least (min n t.greatest), t.holds_clamped n⟩

/-- A number that is written out in a program; none is above 255. -/
def small (n : Nat) : Word t := clamp t n

def toNat (a : Word t) : Nat := a.val.toNat

def add (a b : Word t) : Checked (Word t) := ofInt t (a.val + b.val)

def sub (a b : Word t) : Checked (Word t) := ofInt t (a.val - b.val)

def and (a b : Word t) : Checked (Word t) := ofInt t (a.val.land b.val)

def or (a b : Word t) : Checked (Word t) := ofInt t (a.val.lor b.val)

def shiftLeft (a : Word t) (bits : Nat) : Checked (Word t) := ofInt t (a.val <<< bits)

def shiftRight (a : Word t) (bits : Nat) : Checked (Word t) := ofInt t (a.val >>> bits)

def cast (u : WordType) (a : Word t) : Checked (Word u) := ofInt u a.val

def convert? (u : WordType) (a : Word t) : Option (Word u) := ofInt? u a.val

def checkedAdd (a b : Word t) : Option (Word t) := ofInt? t (a.val + b.val)

def saturatingAdd (a b : Word t) : Word t := clamp t (a.val + b.val)

def saturatingSub (a b : Word t) : Word t := clamp t (a.val - b.val)

def min (a b : Word t) : Word t := if a.val ≤ b.val then a else b

def max (a b : Word t) : Word t := if a.val ≤ b.val then b else a

end Word

def slice (l : List α) (start stop : Nat) : Checked (List α) :=
  if start ≤ stop ∧ stop ≤ l.length then .ok ((l.drop start).take (stop - start))
  else .error (.slice start stop l.length)

-- ---------------------------------------------------------------------------
-- Work that goes through
-- ---------------------------------------------------------------------------

/-- The work does not break off, and of its result something holds. -/
def Yields (x : Checked α) (P : α → Prop) : Prop := ∃ a, x = .ok a ∧ P a

section
variable {x : Checked α} {P : α → Prop} {Q : β → Prop}

theorem Yields.pure {a : α} (h : P a) : Yields (pure a) P := ⟨a, rfl, h⟩

theorem Yields.bind (h : Yields x P) {f : α → Checked β} (k : ∀ a, P a → Yields (f a) Q) :
    Yields (x >>= f) Q := by
  rcases h with ⟨a, rfl, ha⟩
  exact k a ha

theorem Yields.mono {P' : α → Prop} (h : Yields x P) (k : ∀ a, P a → P' a) : Yields x P' := by
  rcases h with ⟨a, rfl, ha⟩
  exact ⟨a, rfl, k a ha⟩

theorem yields_eq_iff {a : α} : Yields x (· = a) ↔ x = .ok a := by
  simp [Yields]

theorem yields_mapM {f : α → Checked β} {g : α → β} {l : List α}
    (h : ∀ a ∈ l, Yields (f a) (· = g a)) : Yields (l.mapM f) (· = l.map g) := by
  induction l with
  | nil => exact .pure rfl
  | cons a l ih =>
    rw [List.mapM_cons]
    refine (h a (.head l)).bind fun _ first => ?_
    refine (ih fun b member => h b (.tail a member)).bind fun _ others => ?_
    exact .pure (by rw [first, others, List.map_cons])

theorem yields_ofInt {t : WordType} {n : Int} (h : t.Holds n) :
    Yields (Word.ofInt t n) (·.val = n) := ⟨⟨n, h⟩, dif_pos h, rfl⟩

section
variable {t : WordType} {a b : Word t} {m n : Nat}

theorem yields_and (ha : a.val = m) (hb : b.val = n) (h : t.Holds (m &&& n : Nat)) :
    Yields (a.and b) (·.val = (m &&& n : Nat)) := by
  have bits : a.val.land b.val = (m &&& n : Nat) := by rw [ha, hb]; rfl
  exact bits ▸ yields_ofInt (bits ▸ h)

theorem yields_or (ha : a.val = m) (hb : b.val = n) (h : t.Holds (m ||| n : Nat)) :
    Yields (a.or b) (·.val = (m ||| n : Nat)) := by
  have bits : a.val.lor b.val = (m ||| n : Nat) := by rw [ha, hb]; rfl
  exact bits ▸ yields_ofInt (bits ▸ h)

theorem yields_shiftLeft (ha : a.val = n) {bits : Nat} (h : t.Holds (n <<< bits : Nat)) :
    Yields (a.shiftLeft bits) (·.val = (n <<< bits : Nat)) := by
  have shifted : a.val <<< bits = (n <<< bits : Nat) := by rw [ha]; rfl
  exact shifted ▸ yields_ofInt (shifted ▸ h)

theorem yields_shiftRight (ha : a.val = n) {bits : Nat} (h : t.Holds (n >>> bits : Nat)) :
    Yields (a.shiftRight bits) (·.val = (n >>> bits : Nat)) := by
  have shifted : a.val >>> bits = (n >>> bits : Nat) := by rw [ha]; rfl
  exact shifted ▸ yields_ofInt (shifted ▸ h)

end

theorem yields_slice {l : List α} {start stop : Nat} (first : start ≤ stop)
    (last : stop ≤ l.length) :
    Yields (slice l start stop) (· = (l.drop start).take (stop - start)) :=
  ⟨_, if_pos ⟨first, last⟩, rfl⟩

end

-- ---------------------------------------------------------------------------
-- Values
-- ---------------------------------------------------------------------------

namespace Word

variable {t : WordType} (a b : Word t)

@[simp] theorem val_small {n : Nat} (h : n ≤ 255) : (small n : Word t).val = n := by
  cases t <;> simp only [small, clamp, WordType.least, WordType.greatest] <;> omega

@[simp] theorem map_val_ofInt? (n : Int) :
    (ofInt? t n).map val = if t.Holds n then some n else none := by
  unfold ofInt?
  split <;> rfl

@[simp] theorem val_min : (a.min b).val = Min.min a.val b.val := by
  unfold min
  split <;> omega

@[simp] theorem val_max : (a.max b).val = Max.max a.val b.val := by
  unfold max
  split <;> omega

@[simp] theorem val_clamp (n : Int) :
    (clamp t n).val = Max.max t.least (Min.min n t.greatest) := rfl

theorem toNat_val (a : Word .usize) : (a.toNat : Int) = a.val := Int.toNat_of_nonneg a.holds.1

theorem toNat_of_val {a : Word t} {n : Nat} (h : a.val = n) : a.toNat = n := by
  rw [toNat, h, Int.toNat_natCast]

end Word

end DebugAdapter
