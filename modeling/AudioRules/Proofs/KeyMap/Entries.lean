import Mathlib.Data.List.Dedup
import Mathlib.Data.List.Induction
import AudioRules.Proofs.KeyMap

namespace AudioRules.KeyMap

variable {m : KeyMap α} {es es' : List (String × α)} {key : String} {value : α}

@[simp]
theorem get?_empty (key : String) : (empty : KeyMap α).get? key = none := rfl

theorem keys_nodup (m : KeyMap α) : (m.entries.map Prod.fst).Nodup :=
  List.pairwise_map.2 (m.sorted.imp fun h => Std.ne_of_lt h)

theorem mem_keys_iff : key ∈ m.entries.map Prod.fst ↔ (m.get? key).isSome := by
  simp [get?, List.lookup_isSome_iff]

theorem empty_merge (m : KeyMap α) : merge .empty m = m :=
  ext_get? fun key => by simp

theorem merge_insert (m n : KeyMap α) (key : String) (value : α) :
    m.merge (n.insert key value) = (m.merge n).insert key value :=
  ext_get? fun key' => by by_cases h : key' = key <;> simp [h]

theorem ofList_append_singleton (es : List (String × α)) (e : String × α) :
    ofList (es ++ [e]) = (ofList es).insert e.1 e.2 := by
  simp [ofList]

-- The last entry for a key is the first one from behind.
theorem get?_ofList (es : List (String × α)) (key : String) :
    (ofList es).get? key = es.reverse.lookup key := by
  induction es using List.reverseRecOn with
  | nil => rfl
  | append_singleton es e hi =>
    rw [ofList_append_singleton, get?_insert, hi, List.reverse_concat, lookup_cons_eq]

theorem foldl_insert (m : KeyMap α) (es : List (String × α)) :
    es.foldl (fun m e => m.insert e.1 e.2) m = m.merge (ofList es) := by
  induction es using List.reverseRecOn with
  | nil => rfl
  | append_singleton es e hi =>
    rw [List.foldl_append, hi, ofList_append_singleton, merge_insert]
    rfl

theorem ofList_entries (m : KeyMap α) : ofList m.entries = m :=
  m.empty_merge

-- Entries for different keys may change places, and no two are for the same.
theorem ofList_of_perm (h : es.Perm es') (hd : (es.map Prod.fst).Nodup) :
    ofList es = ofList es' := by
  refine h.foldl_eq' (fun e he e' he' m => ?_) empty
  by_cases hk : e.1 = e'.1
  case pos => rw [List.inj_on_of_nodup_map hd he he' hk]
  case neg => exact insert_comm m hk e.2 e'.2

theorem ofList_of_perm_entries (h : es.Perm m.entries) : ofList es = m := by
  rw [← ofList_of_perm h.symm m.keys_nodup, ofList_entries]

theorem isSome_get?_ofList : ((ofList es).get? key).isSome ↔ key ∈ es.map Prod.fst := by
  rw [get?_ofList, List.lookup_isSome_iff]
  simp

theorem mem_of_get?_ofList (h : (ofList es).get? key = some value) : (key, value) ∈ es := by
  rw [get?_ofList] at h
  have ⟨_, _, he, _⟩ := List.lookup_eq_some_iff.1 h
  exact List.mem_reverse.1 (he ▸ by simp)

-- There are as many entries as different keys.
theorem size_ofList (es : List (String × α)) :
    (ofList es).size = (es.map Prod.fst).dedup.length := by
  have hp : ((ofList es).entries.map Prod.fst).Perm (es.map Prod.fst).dedup := by
    refine (List.perm_ext_iff_of_nodup (ofList es).keys_nodup (List.nodup_dedup _)).2 fun key => ?_
    rw [mem_keys_iff, isSome_get?_ofList, List.mem_dedup]
  rw [size, ← hp.length_eq, List.length_map]

theorem size_ofList_eq_length_iff (es : List (String × α)) :
    (ofList es).size = es.length ↔ (es.map Prod.fst).Nodup := by
  have hl : (es.map Prod.fst).length = es.length := List.length_map ..
  rw [size_ofList, ← hl, ← List.dedup_eq_self]
  constructor
  case mp  => exact (List.dedup_sublist _).eq_of_length
  case mpr => exact congrArg List.length

end AudioRules.KeyMap
