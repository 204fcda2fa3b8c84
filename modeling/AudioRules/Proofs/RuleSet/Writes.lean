import Mathlib.Data.List.Induction

namespace AudioRules

-- Writes `ι` to stores `σ` under keys `κ`.
structure Writes (ι κ σ : Type) where
  key : ι → κ
  put : ι → σ → σ
  Has : κ → σ → Prop
  has_put  : Has (key i) (put i s)
  has_mono : Has k s → Has k (put i s)
  put_put  : key i = key j → put j (put i s) = put j s
  -- Of two writes under new keys, the one that comes first may stand first.
  put_comm : key i ≠ key j → Has (key i) s → put j (put i s) = put i (put j s)

namespace Writes

variable {ι κ σ : Type} (W : Writes ι κ σ)

def putAll (ws : List ι) (s : σ) : σ :=
  ws.foldl (fun s i => W.put i s) s

variable {W} {ws : List ι} {s : σ}

theorem has_mono_putAll (h : W.Has k s) : W.Has k (W.putAll ws s) := by
  induction ws generalizing s with
  | nil          => exact h
  | cons i ws hi => exact hi (W.has_mono h)

theorem has_putAll (h : i ∈ ws) : W.Has (W.key i) (W.putAll ws s) := by
  induction ws generalizing s with
  | nil => cases h
  | cons j ws hi =>
    cases h with
    | head     => exact has_mono_putAll (s := W.put i s) W.has_put
    | tail _ h => exact hi h

-- What is written over anyway need not be written before, if its key and those of the writes
-- in between are there.
theorem put_putAll_put (h : ∀ i ∈ ws, W.Has (W.key i) s) (j : ι) :
    W.put j (W.putAll ws (W.put j s)) = W.put j (W.putAll ws s) := by
  induction ws generalizing s with
  | nil => exact W.put_put rfl
  | cons i ws hi =>
    have ⟨hh, ht⟩ := List.forall_mem_cons.1 h
    have ht : ∀ i' ∈ ws, W.Has (W.key i') (W.put i s) := fun i' hm => W.has_mono (ht i' hm)
    change W.put j (W.putAll ws (W.put i (W.put j s))) = W.put j (W.putAll ws (W.put i s))
    by_cases hk : W.key i = W.key j
    case pos => rw [W.put_put hk.symm]
    case neg => rw [← W.put_comm hk hh, hi ht]

theorem putAll_putAll (ws : List ι) (s : σ) : W.putAll ws (W.putAll ws s) = W.putAll ws s := by
  induction ws using List.reverseRecOn with
  | nil => rfl
  | append_singleton ws j hi =>
    have hs (s : σ) : W.putAll (ws ++ [j]) s = W.put j (W.putAll ws s) := by simp [putAll]
    rw [hs, hs, put_putAll_put fun i hm => has_putAll hm, hi]

end Writes

end AudioRules
