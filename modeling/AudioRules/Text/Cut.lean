namespace AudioRules

namespace Text

-- What stands before the first `sep` and what stands after it.
def cutChars? (sep : Char) : List Char → Option (List Char × List Char)
  | [] => none
  | c :: cs =>
    if c = sep then some ([], cs)
    else (cutChars? sep cs).map fun (before, after) => (c :: before, after)

def cut? (sep : Char) (s : String) : Option (String × String) :=
  (cutChars? sep s.toList).map fun (before, after) => (String.ofList before, String.ofList after)

theorem eq_of_cutChars? {sep : Char} {cs before after : List Char}
    (h : cutChars? sep cs = some (before, after)) : cs = before ++ sep :: after := by
  induction cs generalizing before with
  | nil => simp [cutChars?] at h
  | cons c cs ih =>
    unfold cutChars? at h
    split at h
    case isTrue he => simp_all
    case isFalse =>
      obtain ⟨⟨b, a⟩, hb, he⟩ := Option.map_eq_some_iff.1 h
      simp only [Prod.mk.injEq] at he
      simp [ih (he.2 ▸ hb), ← he.1]

theorem cutChars?_append {sep : Char} {before : List Char} (h : sep ∉ before)
    (after : List Char) : cutChars? sep (before ++ sep :: after) = some (before, after) := by
  induction before with
  | nil => simp [cutChars?]
  | cons c cs ih =>
    simp only [List.mem_cons, not_or] at h
    simp [cutChars?, Ne.symm h.1, ih h.2]

theorem cutChars?_eq_none_iff {sep : Char} {cs : List Char} :
    cutChars? sep cs = none ↔ sep ∉ cs := by
  induction cs with
  | nil => simp [cutChars?]
  | cons c cs ih =>
    by_cases h : c = sep
    case pos => simp [cutChars?, h]
    case neg => simp [cutChars?, h, ih, Ne.symm h]

theorem cutChars?_append_of_not_mem {sep : Char} {ds : List Char} (h : sep ∉ ds)
    (cs : List Char) : cutChars? sep (cs ++ ds) =
      (cutChars? sep cs).map fun (before, after) => (before, after ++ ds) := by
  induction cs with
  | nil => exact cutChars?_eq_none_iff.2 h
  | cons c cs ih =>
    simp only [List.cons_append, cutChars?]
    split
    case isTrue  => rfl
    case isFalse => simp only [ih, Option.map_map, Function.comp_def]

theorem suffix_of_cutChars? {sep : Char} {cs before after : List Char}
    (h : cutChars? sep cs = some (before, after)) : sep :: after <:+ cs :=
  ⟨before, (eq_of_cutChars? h).symm⟩

theorem not_mem_of_cutChars? {sep : Char} {cs before after : List Char}
    (h : cutChars? sep cs = some (before, after)) : sep ∉ before := by
  induction cs generalizing before with
  | nil => simp [cutChars?] at h
  | cons c cs ih =>
    unfold cutChars? at h
    split at h
    case isTrue => simp_all
    case isFalse he =>
      obtain ⟨⟨b, a⟩, hb, hp⟩ := Option.map_eq_some_iff.1 h
      simp only [Prod.mk.injEq] at hp
      rw [← hp.1]
      exact List.not_mem_cons_of_ne_of_not_mem (Ne.symm he) (ih (hp.2 ▸ hb))

theorem cut?_eq_some_iff {sep : Char} {s before after : String} :
    cut? sep s = some (before, after) ↔
      s.toList = before.toList ++ sep :: after.toList ∧ sep ∉ before.toList := by
  constructor
  case mp =>
    intro h
    obtain ⟨⟨b, a⟩, hb, he⟩ := Option.map_eq_some_iff.1 h
    simp only [Prod.mk.injEq] at he
    obtain ⟨rfl, rfl⟩ := he
    rw [String.toList_ofList, String.toList_ofList]
    exact ⟨eq_of_cutChars? hb, not_mem_of_cutChars? hb⟩
  case mpr =>
    rintro ⟨he, hn⟩
    simp [cut?, he, cutChars?_append hn]

theorem cut?_eq_none_iff {sep : Char} {s : String} : cut? sep s = none ↔ sep ∉ s.toList := by
  rw [cut?, Option.map_eq_none_iff, cutChars?_eq_none_iff]

end Text

end AudioRules
