import Mathlib.Data.List.Forall2
import AudioRules.Json.Decode

namespace Option

variable {f : α → Option β} {as : List α} {bs : List β}

theorem mapM_eq_some :
    as.mapM f = some bs ↔ List.Forall₂ (fun a b => f a = some b) as bs := by
  induction as generalizing bs with
  | nil => simp [eq_comm]
  | cons a as hi =>
    simp only [List.mapM_cons, bind_eq_bind, bind_eq_some_iff, pure_def, some.injEq, hi,
      List.forall₂_cons_left_iff]
    grind

theorem forall_of_mapM {P : β → Prop} (h : as.mapM f = some bs)
    (hf : ∀ a b, f a = some b → P b) : ∀ b ∈ bs, P b := by
  replace h := mapM_eq_some.1 h
  induction h with
  | nil          => exact nofun
  | cons hb _ hi => exact List.forall_mem_cons.2 ⟨hf _ _ hb, hi⟩

end Option

namespace AudioRules.Json

section Written

variable {toJson : α → Json} {ofJson? : Json → Option α} {names : List String}
  {fields : List (String × Json)} {as : List α} {a? : Option α}

theorem list?_array (h : ∀ a ∈ as, ofJson? (toJson a) = some a) :
    list? ofJson? (.array (as.map toJson)) = some as :=
  Option.mapM_eq_some.2 (List.forall₂_map_left_iff.2 (List.forall₂_same.2 h))

@[simp]
theorem string?_ofString (s : String) : string? (ofString s) = some s := rfl

@[simp]
theorem list?_ofStrings (ss : List String) : list? string? (ofStrings ss) = some ss :=
  list?_array fun _ _ => rfl

theorem nullable?_elim (hn : ∀ a, toJson a ≠ .null)
    (h : ∀ a, a? = some a → ofJson? (toJson a) = some a) :
    nullable? ofJson? (a?.elim .null toJson) = some a? := by
  cases a? with
  | none   => rfl
  | some a =>
    rw [Option.elim_some, nullable?]
    case x_1 => exact hn a
    rw [h a rfl, Option.map_some]

@[simp]
theorem nullable?_ofOption (s : Option String) : nullable? string? (ofOption s) = some s :=
  nullable?_elim (fun _ => nofun) fun _ _ => rfl

theorem below?_natural (h : n < limit) : below? limit (.natural n) = some n :=
  if_pos h

theorem entries?_ofFields (es : List (String × String)) :
    entries? string? (ofFields (es.map fun (k, v) => (k, ofString v))) = some es := by
  unfold entries? ofFields
  dsimp only
  rw [List.map_map]
  exact Option.mapM_eq_some.2 (List.forall₂_map_left_iff.2 (List.forall₂_same.2 fun _ _ => rfl))

-- All known fields, each of them once.
theorem record?_ofFields (hf : fields.map Prod.fst = names) (hn : names.Nodup) :
    (ofFields fields).record? names = some fields := by
  unfold record? ofFields
  refine Option.bind_eq_some_iff.2 ⟨fields, ?read, ?known⟩
  case read =>
    exact Option.mapM_eq_some.2 (List.forall₂_map_left_iff.2 (List.forall₂_same.2 fun _ _ => rfl))
  case known =>
    dsimp only
    rw [List.filter_eq_self.2, hf, if_pos hn]
    intro f hm
    simpa [← hf] using ⟨f.2, hm⟩

-- What is made of the fields of a record.
theorem bind_record?_ofFields {read : Record → Option β} (hf : fields.map Prod.fst = names)
    (hn : names.Nodup) (hr : read fields = some b) :
    (ofFields fields).record? names >>= read = some b := by
  rw [record?_ofFields hf hn, Option.bind_eq_bind, Option.bind_some, hr]

end Written

section Read

variable {value? : Json → Option α} {default a : α} {j : Json} {P : α → Prop}

theorem lt_of_below? (h : below? limit j = some n) : n < limit := by
  cases j <;> simp [below?] at h
  exact h.2 ▸ h.1

theorem eq_some_of_nullable? (h : nullable? value? j = some (some a)) : value? j = some a := by
  cases j with
  | null => cases h
  | _    => simpa [nullable?] using h

theorem forall_of_list? (h : list? value? j = some as) (hv : ∀ j a, value? j = some a → P a) :
    ∀ a ∈ as, P a := by
  cases j with
  | array items => exact Option.forall_of_mapM h hv
  | _           => cases h

-- A field has its default, or something that was read.
theorem Record.of_optional? {r : Record} (h : r.optional? name value? default = some a)
    (hd : P default) (hv : ∀ j, value? j = some a → P a) : P a := by
  unfold optional? at h
  split at h
  case h_1     => exact Option.some.inj h ▸ hd
  case h_2 j _ => exact hv j h

end Read

end AudioRules.Json
