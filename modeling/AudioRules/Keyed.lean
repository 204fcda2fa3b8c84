namespace AudioRules

-- What comes under a key that is there revises the first entry under it, and anything else goes to
-- the end.
structure Keyed (α κ : Type) where
  key    : α → κ
  -- the entry that is there, by the one that comes
  revise : α → α → α
  key_revise    : key a = key b → key (revise a b) = key a
  revise_revise : revise (revise a b) c = revise a c

namespace Keyed

variable {κ : Type} [DecidableEq κ] (K : Keyed α κ)

def put (new : α) : List α → List α
  | [] => [new]
  | a :: as => if K.key a = K.key new then K.revise a new :: as else a :: put new as

variable {K} {a b new : α} {as : List α}

theorem keys_put :
    (K.put new as).map K.key =
      if K.key new ∈ as.map K.key then as.map K.key else as.map K.key ++ [K.key new] := by
  induction as with
  | nil => rfl
  | cons a as ih =>
    unfold put
    split
    case isTrue h => simp [h, K.key_revise h]
    case isFalse h =>
      simp only [List.map_cons, ih, List.mem_cons, Ne.symm h, false_or]
      split <;> simp

@[simp]
theorem mem_keys_put : k ∈ (K.put new as).map K.key ↔ k ∈ as.map K.key ∨ k = K.key new := by
  rw [keys_put]
  split
  case isTrue h  => exact (or_iff_left_of_imp (· ▸ h)).symm
  case isFalse h => simp

theorem nodup_keys_put (h : (as.map K.key).Nodup) : ((K.put new as).map K.key).Nodup := by
  rw [keys_put]
  split
  case isTrue => exact h
  case isFalse hn =>
    refine List.nodup_append.2 ⟨h, by simp, fun a ha b hb => ?_⟩
    simp only [List.mem_singleton] at hb
    exact fun he => hn (hb ▸ he ▸ ha)

theorem put_of_new (h : K.key new ∉ as.map K.key) : K.put new as = as ++ [new] := by
  induction as with
  | nil => rfl
  | cons a as ih =>
    have ⟨ha, has⟩ := not_or.1 (mt List.mem_cons.2 h)
    simp [put, Ne.symm ha, ih has]

-- What is there under the key stays where it is, and so does everything around it.
theorem put_of_mem (K : Keyed α κ) (new : α) (h : K.key new ∈ as.map K.key) :
    ∃ before a after, as = before ++ a :: after ∧ K.key a = K.key new ∧
      K.put new as = before ++ K.revise a new :: after := by
  induction as with
  | nil => cases h
  | cons a as ih =>
    by_cases ha : K.key a = K.key new
    case pos => exact ⟨[], a, as, rfl, ha, by simp [put, ha]⟩
    case neg =>
      have ⟨before, b, after, has, hb, hp⟩ := ih ((List.mem_cons.1 h).resolve_left (Ne.symm ha))
      exact ⟨a :: before, b, after, by rw [has]; rfl, hb, by simp [put, ha, hp]⟩

theorem put_put_of_key_eq (h : K.key a = K.key b) (hr : K.revise a b = b) :
    K.put b (K.put a as) = K.put b as := by
  induction as with
  | nil => simp [put, h, hr]
  | cons c as ih =>
    by_cases hc : K.key c = K.key a
    case pos =>
      have hk := K.key_revise hc
      simp [put, hc, hk, ← h, K.revise_revise]
    case neg => simp [put, ← h, hc, ih]

-- Of two entries that are both new, the one that comes first stands first.
theorem put_comm (h : K.key a ≠ K.key b) (hm : K.key a ∈ as.map K.key ∨ K.key b ∈ as.map K.key) :
    K.put b (K.put a as) = K.put a (K.put b as) := by
  induction as with
  | nil => simp at hm
  | cons c as ih =>
    by_cases ha : K.key c = K.key a
    case pos => simp [put, ha, h, K.key_revise ha]
    case neg =>
      by_cases hb : K.key c = K.key b
      case pos => simp [put, hb, Ne.symm h, K.key_revise hb]
      case neg =>
        simp only [List.map_cons, List.mem_cons, Ne.symm ha, Ne.symm hb, false_or] at hm
        simp [put, ha, hb, ih hm]

end Keyed

end AudioRules
