namespace AudioRules

-- In the order of the keys, so that equal maps are equal as values.
structure KeyMap (α : Type) where
  entries : List (String × α)
  sorted  : entries.Pairwise (·.1 < ·.1)
deriving DecidableEq

namespace KeyMap

def empty : KeyMap α := ⟨[], .nil⟩

instance : Inhabited (KeyMap α) := ⟨empty⟩

def get? (m : KeyMap α) (key : String) : Option α := m.entries.lookup key

def contains (m : KeyMap α) (key : String) : Bool := (m.get? key).isSome

def size (m : KeyMap α) : Nat := m.entries.length

def isEmpty (m : KeyMap α) : Bool := m.entries.isEmpty

-- The entry goes where the order of the keys wants it.
def insertEntry (key : String) (value : α) : List (String × α) → List (String × α)
  | [] => [(key, value)]
  | e :: es =>
    if key < e.1 then (key, value) :: e :: es
    else if key = e.1 then (key, value) :: es
    else e :: insertEntry key value es

theorem mem_insertEntry {key : String} {value : α} {es : List (String × α)} {e : String × α}
    (h : e ∈ insertEntry key value es) : e = (key, value) ∨ e ∈ es := by
  induction es with
  | nil => simp_all [insertEntry]
  | cons d es ih =>
    unfold insertEntry at h
    split at h
    case isTrue => simp_all
    case isFalse =>
      split at h
      case isTrue => rcases List.mem_cons.1 h with h | h <;> simp [h]
      case isFalse =>
        rcases List.mem_cons.1 h with h | h
        case inl => simp [h]
        case inr => rcases ih h with h | h <;> simp [h]

theorem sorted_insertEntry {key : String} {value : α} {es : List (String × α)}
    (h : es.Pairwise (·.1 < ·.1)) : (insertEntry key value es).Pairwise (·.1 < ·.1) := by
  induction es with
  | nil => simp [insertEntry]
  | cons e es ih =>
    have ⟨he, hs⟩ := List.pairwise_cons.1 h
    unfold insertEntry
    split
    case isTrue hlt =>
      refine List.pairwise_cons.2 ⟨fun d hd => ?_, h⟩
      rcases List.mem_cons.1 hd with hd | hd
      case inl => exact hd ▸ hlt
      case inr => exact String.lt_trans hlt (he d hd)
    case isFalse hlt =>
      split
      case isTrue heq => exact List.pairwise_cons.2 ⟨fun d hd => heq ▸ he d hd, hs⟩
      case isFalse hne =>
        refine List.pairwise_cons.2 ⟨fun d hd => ?_, ih hs⟩
        rcases mem_insertEntry hd with hd | hd
        case inl => exact hd ▸ Std.lt_of_le_of_ne (String.not_lt.1 hlt) (Ne.symm hne)
        case inr => exact he d hd

def insert (m : KeyMap α) (key : String) (value : α) : KeyMap α :=
  ⟨insertEntry key value m.entries, sorted_insertEntry m.sorted⟩

def erase (m : KeyMap α) (key : String) : KeyMap α :=
  ⟨m.entries.filter (·.1 != key), m.sorted.filter _⟩

-- The last of several values for a key counts.
def ofList (es : List (String × α)) : KeyMap α :=
  es.foldl (fun m e => m.insert e.1 e.2) empty

-- Both maps in one; where both have a key, `n` has the say.
def merge (m n : KeyMap α) : KeyMap α :=
  n.entries.foldl (fun m e => m.insert e.1 e.2) m

end KeyMap

end AudioRules
