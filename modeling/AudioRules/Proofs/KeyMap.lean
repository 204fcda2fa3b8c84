import AudioRules.KeyMap

namespace AudioRules.KeyMap

theorem lookup_cons_eq (key : String) (e : String × α) (es : List (String × α)) :
    (e :: es).lookup key = if key = e.1 then some e.2 else es.lookup key := by
  rw [List.lookup_cons]
  by_cases h : key = e.1
  case pos => simp [h]
  case neg => simp [h, beq_false_of_ne h]

theorem lookup_insertEntry (key key' : String) (value : α) (es : List (String × α)) :
    (insertEntry key value es).lookup key' = if key' = key then some value else es.lookup key' := by
  induction es with
  | nil => simp [insertEntry, lookup_cons_eq]
  | cons e es hi =>
    unfold insertEntry
    split
    case isTrue => simp [lookup_cons_eq]
    case isFalse =>
      split
      case isTrue he  => by_cases h : key' = key <;> simp [lookup_cons_eq, h, ← he]
      case isFalse hn =>
        rw [lookup_cons_eq, lookup_cons_eq, hi]
        by_cases h : key' = key <;> simp [h, hn]

@[simp]
theorem get?_insert (m : KeyMap α) (key key' : String) (value : α) :
    (m.insert key value).get? key' = if key' = key then some value else m.get? key' :=
  lookup_insertEntry ..

theorem lookup_filter_ne (key key' : String) (es : List (String × α)) :
    (es.filter (·.1 != key)).lookup key' = if key' = key then none else es.lookup key' := by
  induction es with
  | nil => simp
  | cons e es hi =>
    rw [List.filter_cons, lookup_cons_eq]
    by_cases he : e.1 = key
    case pos =>
      rw [if_neg (by simp [he]), hi, he]
      by_cases hk : key' = key <;> simp only [hk, ↓reduceIte]
    case neg =>
      rw [if_pos (bne_iff_ne.2 he), lookup_cons_eq, hi]
      by_cases hk : key' = key <;> simp only [hk, Ne.symm he, ↓reduceIte]

@[simp]
theorem get?_erase (m : KeyMap α) (key key' : String) :
    (m.erase key).get? key' = if key' = key then none else m.get? key' :=
  lookup_filter_ne ..

theorem mem_of_get? {m : KeyMap α} (h : m.get? key = some value) : (key, value) ∈ m.entries := by
  have ⟨_, _, he, _⟩ := List.lookup_eq_some_iff.1 h
  simp [he]

theorem lookup_eq_none {es : List (String × α)} (h : ∀ e ∈ es, key < e.1) : es.lookup key = none :=
  List.lookup_eq_none_iff.2 fun e he => bne_iff_ne.2 (Std.ne_of_lt (h e he))

theorem eq_of_lookup_eq {es es' : List (String × α)} (hs : es.Pairwise (·.1 < ·.1))
    (hs' : es'.Pairwise (·.1 < ·.1)) (h : ∀ key, es.lookup key = es'.lookup key) : es = es' := by
  induction es generalizing es' with
  | nil =>
    cases es' with
    | nil        => rfl
    | cons e es' => simpa [lookup_cons_eq] using h e.1
  | cons e es hi =>
    cases es' with
    | nil => simpa [lookup_cons_eq] using h e.1
    | cons e' es' =>
      have ⟨hl, hs⟩ := List.pairwise_cons.1 hs
      have ⟨hl', hs'⟩ := List.pairwise_cons.1 hs'
      -- Each first key is in the other list as well, so neither is below the other.
      have hk : e.1 = e'.1 := by
        refine String.le_antisymm (String.not_lt.1 fun hlt => ?_) (String.not_lt.1 fun hlt => ?_)
        · have hn := lookup_eq_none fun d hd => String.lt_trans hlt (hl d hd)
          simpa [lookup_cons_eq, Std.ne_of_lt hlt, hn] using h e'.1
        · have hn := lookup_eq_none fun d hd => String.lt_trans hlt (hl' d hd)
          simpa [lookup_cons_eq, Std.ne_of_lt hlt, hn] using h e.1
      have hv : e.2 = e'.2 := by simpa [lookup_cons_eq, hk] using h e.1
      have ht : es = es' := by
        refine hi hs hs' fun key => ?_
        by_cases he : key = e.1
        case pos => rw [he, lookup_eq_none hl, hk, lookup_eq_none hl']
        case neg => simpa [lookup_cons_eq, he, ← hk] using h key
      rw [ht, Prod.ext hk hv]

theorem ext_get? {m n : KeyMap α} (h : ∀ key, m.get? key = n.get? key) : m = n := by
  cases m
  cases n
  congr
  exact eq_of_lookup_eq ‹_› ‹_› h

theorem insert_insert (m : KeyMap α) (key : String) (a b : α) :
    (m.insert key a).insert key b = m.insert key b :=
  ext_get? fun key' => by by_cases h : key' = key <;> simp [h]

theorem insert_comm (m : KeyMap α) (h : key ≠ key') (a b : α) :
    (m.insert key a).insert key' b = (m.insert key' b).insert key a :=
  ext_get? fun k => by by_cases hk : k = key <;> simp [hk, h]

theorem get?_foldl_insert {es : List (String × α)} (h : es.Pairwise (·.1 < ·.1)) (m : KeyMap α)
    (key : String) :
    (es.foldl (fun m e => m.insert e.1 e.2) m).get? key = (es.lookup key).or (m.get? key) := by
  induction es generalizing m with
  | nil => simp
  | cons e es hi =>
    have ⟨hl, hs⟩ := List.pairwise_cons.1 h
    rw [List.foldl_cons, hi hs, lookup_cons_eq, get?_insert]
    by_cases hk : key = e.1
    case pos => simp [hk, lookup_eq_none hl]
    case neg => simp [hk]

@[simp]
theorem get?_merge (m n : KeyMap α) (key : String) :
    (m.merge n).get? key = (n.get? key).or (m.get? key) :=
  get?_foldl_insert n.sorted m key

@[simp]
theorem merge_merge_self (m n : KeyMap α) : (m.merge n).merge n = m.merge n :=
  ext_get? fun key => by cases h : n.get? key <;> simp [h]

end AudioRules.KeyMap
