import DebugAdapter.Proofs.Text.Quoting
import DebugAdapter.Variables.Rows

/-!
# Rows by name

A row of an expanded table is named by the text of its key. The text of a
literal value tells where it ends, so no text is the beginning of another
(`Literal.append_inj`), and keys that differ are shown under different names.
-/

namespace DebugAdapter

namespace Value

inductive Literal : Value → Prop
  | nil : Literal .nil
  | void : Literal .void
  | boolean (b : Bool) : Literal (.boolean b)
  | string (s : String) : Literal (.string s)
  | tuple (items : ∀ v ∈ vs, Literal v) : Literal (.tuple vs)

-- ---------------------------------------------------------------------------
-- Characters of a text
-- ---------------------------------------------------------------------------

@[simp] theorem toList_debugText_nil : Value.nil.debugText.toList = ['n', 'i', 'l'] := by
  simp [debugText, scalarText]

@[simp] theorem toList_debugText_void : Value.void.debugText.toList = ['v', 'o', 'i', 'd'] := by
  simp [debugText, scalarText]

@[simp] theorem toList_debugText_boolean (b : Bool) : (Value.boolean b).debugText.toList =
    if b then ['t', 'r', 'u', 'e'] else ['f', 'a', 'l', 's', 'e'] := by
  cases b <;> simp [debugText, scalarText]

@[simp] theorem toList_debugText_string (s : String) :
    (Value.string s).debugText.toList = Text.quoteChars s.toList := by
  simp [debugText, Text.quote]

@[simp] theorem toList_debugText_tuple (vs : List Value) :
    (Value.tuple vs).debugText.toList = '(' :: ((debugItems vs).toList ++ [')']) := by
  simp [debugText]

def afterItem : List Value → List Char → List Char
  | [], rest => ')' :: rest
  | v :: vs, rest => ',' :: ' ' :: ((debugItems (v :: vs)).toList ++ ')' :: rest)

theorem items_cons_append (v : Value) (vs : List Value) (rest : List Char) :
    (debugItems (v :: vs)).toList ++ ')' :: rest = v.debugText.toList ++ afterItem vs rest := by
  cases vs <;> simp [debugItems, afterItem]

theorem afterItem_inj (h : afterItem vs r = afterItem ws s) :
    (debugItems vs).toList ++ ')' :: r = (debugItems ws).toList ++ ')' :: s := by
  cases vs with
  | nil =>
    cases ws with
    | nil => simpa [afterItem, debugItems] using h
    | cons w ws => simp [afterItem] at h
  | cons v vs =>
    cases ws with
    | nil => simp [afterItem] at h
    | cons w ws => simpa [afterItem] using h

theorem Literal.head {v : Value} (h : Literal v) :
    ∃ c cs, v.debugText.toList = c :: cs ∧ c ≠ ')' := by
  cases h with
  | boolean b => cases b <;> simp
  | _ => simp [Text.quoteChars]

-- ---------------------------------------------------------------------------
-- Unique reading
-- ---------------------------------------------------------------------------

/-- Wherever the text of a value stands, no other literal value stands there, and the
rest begins at the same place. -/
def Delimits (v : Value) : Prop :=
  ∀ ⦃w r s⦄, Literal w → v.debugText.toList ++ r = w.debugText.toList ++ s → v = w ∧ r = s

theorem items_append_inj (hv : ∀ v ∈ vs, Literal v ∧ Delimits v) (hw : ∀ w ∈ ws, Literal w)
    (h : (debugItems vs).toList ++ ')' :: r = (debugItems ws).toList ++ ')' :: s) :
    vs = ws ∧ r = s := by
  induction vs generalizing ws with
  | nil =>
    cases ws with
    | nil => simpa [debugItems] using h
    | cons w ws =>
      rcases (hw w (by simp)).head with ⟨c, cs, start, other⟩
      rw [items_cons_append, start] at h
      simp [debugItems, other.symm] at h
  | cons v vs ih =>
    rcases List.forall_mem_cons.mp hv with ⟨⟨literal, delimits⟩, hv⟩
    cases ws with
    | nil =>
      rcases literal.head with ⟨c, cs, start, other⟩
      rw [items_cons_append, start] at h
      simp [debugItems, other] at h
    | cons w ws =>
      rw [items_cons_append, items_cons_append] at h
      rcases delimits (hw w (by simp)) h with ⟨rfl, rest⟩
      rcases ih hv (fun w mem => hw w (.tail _ mem)) (afterItem_inj rest) with ⟨same, rest⟩
      exact ⟨congrArg _ same, rest⟩

/-- No text of a literal value is the beginning of another's. -/
theorem Literal.append_inj {v : Value} (hv : Literal v) : Delimits v := by
  induction hv with
  | nil =>
    intro w r s hw h
    cases hw with
    | nil => simpa using h
    | boolean b => cases b <;> simp at h
    | _ => simp [Text.quoteChars] at h
  | void =>
    intro w r s hw h
    cases hw with
    | void => simpa using h
    | boolean b => cases b <;> simp at h
    | _ => simp [Text.quoteChars] at h
  | boolean b =>
    intro w r s hw h
    cases hw with
    | boolean c =>
      by_cases same : b = c
      · subst same
        simpa using h
      · cases b <;> cases c <;> simp at same h
    | _ => cases b <;> simp [Text.quoteChars] at h
  | string t =>
    intro w r s hw h
    cases hw with
    | string u =>
      rw [toList_debugText_string, toList_debugText_string] at h
      rcases Text.quoteChars_append_inj h with ⟨same, rest⟩
      exact ⟨congrArg Value.string (String.toList_inj.mp same), rest⟩
    | boolean b => cases b <;> simp [Text.quoteChars] at h
    | _ => simp [Text.quoteChars] at h
  | tuple items ih =>
    intro w r s hw h
    cases hw with
    | tuple others =>
      rcases items_append_inj (fun v mem => ⟨items v mem, ih v mem⟩) others (by simpa using h)
        with ⟨rfl, rest⟩
      exact ⟨rfl, rest⟩
    | boolean b => cases b <;> simp at h
    | _ => simp [Text.quoteChars] at h

theorem Literal.debugText_inj {v w : Value} (hv : Literal v) (hw : Literal w)
    (h : v.debugText = w.debugText) : v = w :=
  (hv.append_inj (r := []) (s := []) hw (by rw [h])).1

end Value

-- ---------------------------------------------------------------------------
-- Rows of a table
-- ---------------------------------------------------------------------------

namespace ValueTable

theorem bracketed_inj {s t : String} (h : bracketed s = bracketed t) : s = t := by
  have chars := congrArg String.toList h
  simp only [bracketed, String.toList_append] at chars
  exact String.toList_inj.mp (List.append_cancel_left (List.append_cancel_right chars))

theorem names_rows (t : ValueTable) (scope : ScopeKind) (frame : Nat)
    (named : List (String × Value)) :
    (t.rows scope frame named).1.map Variable.name = named.map Prod.fst := by
  induction named generalizing t with
  | nil => rfl
  | cons e named ih => simp [rows, row, ih]

def childNames (t : ValueTable) (scope : ScopeKind) (frame : Nat) (v : Value) : List String :=
  ((t.expand scope frame v).1.drop (headRows v).length).map Variable.name

theorem childNames_table (t : ValueTable) (scope : ScopeKind) (frame : Nat) (id : Nat)
    (metatable : Option Nat) (prime : Bool) (length : Nat) (entries : List (Value × Value)) :
    t.childNames scope frame (.table id metatable prime length entries) =
      entries.map fun e => bracketed e.1.debugText := by
  simp [childNames, expand, names_rows, children]

/-- Literal values have different texts if they are different. So, in a table, two entries
with literal keys are shown under one name only if they have one key, whatever the other
keys are. -/
theorem literals_told_apart :
    (∀ v w : Value, v.Literal → w.Literal → (v.debugText = w.debugText ↔ v = w)) ∧
    ∀ (t : ValueTable) scope frame id metatable prime length (entries : List (Value × Value)),
      let names := t.childNames scope frame (.table id metatable prime length entries)
      ∀ (i j : Nat) e f, entries[i]? = some e → entries[j]? = some f → e.1.Literal → f.1.Literal →
        (names[i]? = names[j]? ↔ e.1 = f.1) := by
  refine ⟨fun v w hv hw => ⟨hv.debugText_inj hw, congrArg _⟩, ?_⟩
  intro t scope frame id metatable prime length entries names i j e f hi hj he hf
  have first : names[i]? = some (bracketed e.1.debugText) := by
    simp [names, childNames_table, hi]
  have second : names[j]? = some (bracketed f.1.debugText) := by
    simp [names, childNames_table, hj]
  rw [first, second, Option.some.injEq]
  exact ⟨fun same => he.debugText_inj hf (bracketed_inj same), fun same => by rw [same]⟩

open Value.Literal in
/-- Neither quotes, commas and parentheses in a string make a tuple of it, nor does the name of
a value in quotes stand for the value. -/
theorem look_alikes_told_apart :
    (Value.tuple [.string "a\", \"b"]).debugText ≠
        (Value.tuple [.string "a", .string "b"]).debugText ∧
      let names := empty.childNames .global 0 (.table 1 none false 3
        [(.nil, .void), (.function 7 0, .void), (.string "nil", .void)])
      names[0]? ≠ names[2]? := by
  rcases literals_told_apart with ⟨texts, names⟩
  constructor
  · intro same
    have apart := (texts _ _ (tuple (by simp [string])) (tuple (by simp [string]))).mp same
    simp at apart
  · intro _ same
    cases (names _ _ _ _ _ _ _ _ 0 2 _ _ rfl rfl nil (string "nil")).mp same

end ValueTable

end DebugAdapter
