import Mathlib.Data.List.Infix
import AudioRules.Module.Spec

namespace AudioRules.ModuleSpec

-- What stands for a space.
def spaceCode : List Char := "%20".toList

-- Modules that can be told from their compact form.
structure Compactable (m : ModuleSpec) : Prop where
  named : m.name ≠ ""
  no_at : '@' ∉ m.name.toList
  args  : ∀ args, m.args = some args → ¬spaceCode <:+: args.toList

-- A text in which spaces are escaped from the first `@` on.
def encodeBehindAt : List Char → List Char
  | [] => []
  | c :: cs => c :: if c = '@' then encodeSpaces cs else encodeBehindAt cs

variable {c : Char} {cs ds : List Char}

@[simp]
theorem encodeSpaces_space (cs : List Char) :
    encodeSpaces (' ' :: cs) = spaceCode ++ encodeSpaces cs := rfl

theorem encodeSpaces_cons (h : c ≠ ' ') (cs : List Char) :
    encodeSpaces (c :: cs) = c :: encodeSpaces cs := by
  simp [encodeSpaces, h]

theorem encodeSpaces_code_append (cs : List Char) :
    encodeSpaces (spaceCode ++ cs) = spaceCode ++ encodeSpaces cs := rfl

@[simp]
theorem decodeSpaces_code_append (cs : List Char) :
    decodeSpaces (spaceCode ++ cs) = ' ' :: decodeSpaces cs := rfl

theorem decodeSpaces_cons (h : ¬spaceCode <+: c :: cs) :
    decodeSpaces (c :: cs) = c :: decodeSpaces cs := by
  rw [decodeSpaces]
  intro cs' hc hs
  rw [hc, hs] at h
  exact h (spaceCode.prefix_append cs')

-- Decoding tells texts that begin with the code from those that do not.
@[elab_as_elim]
theorem code_induction {P : List Char → Prop} (nil : P []) (code : ∀ cs, P cs → P (spaceCode ++ cs))
    (cons : ∀ c cs, ¬spaceCode <+: c :: cs → P cs → P (c :: cs)) (cs : List Char) : P cs := by
  fun_induction decodeSpaces cs
  case case1 cs hi => exact code cs hi
  case case2 c cs hn hi =>
    refine cons c cs (fun ⟨ds, hd⟩ => ?_) hi
    have ⟨hc, hs⟩ := List.cons.inj hd
    exact hn ds hc.symm hs.symm
  case case3 => exact nil

-- What encoding puts for a space begins with a percent sign, so that a beginning free of them has
-- been there before.
theorem prefix_of_prefix_encodeSpaces (hd : '%' ∉ ds) (h : ds <+: encodeSpaces cs) : ds <+: cs := by
  induction ds generalizing cs with
  | nil => exact List.nil_prefix
  | cons d ds hi =>
    have ⟨hp, hds⟩ := not_or.1 (mt List.mem_cons.2 hd)
    cases cs with
    | nil => exact h
    | cons c cs =>
      by_cases hc : c = ' '
      case pos =>
        rw [hc, encodeSpaces_space] at h
        exact absurd (List.cons_prefix_cons.1 h).1.symm hp
      case neg =>
        rw [encodeSpaces_cons hc] at h
        have ⟨he, ht⟩ := List.cons_prefix_cons.1 h
        exact List.cons_prefix_cons.2 ⟨he, hi hds ht⟩

-- No code comes about where an escape follows something.
theorem code_prefix_of_encodeSpaces (h : spaceCode <+: c :: encodeSpaces cs) :
    spaceCode <+: c :: cs := by
  have ⟨hc, ht⟩ := List.cons_prefix_cons.1 h
  exact List.cons_prefix_cons.2 ⟨hc, prefix_of_prefix_encodeSpaces (by decide) ht⟩

theorem decodeSpaces_encodeSpaces (h : ¬spaceCode <:+: cs) :
    decodeSpaces (encodeSpaces cs) = cs := by
  induction cs with
  | nil => rfl
  | cons c cs hi =>
    have ⟨hp, hs⟩ := not_or.1 (mt List.infix_cons_iff.2 h)
    by_cases hc : c = ' '
    case pos => rw [hc, encodeSpaces_space, decodeSpaces_code_append, hi hs]
    case neg =>
      rw [encodeSpaces_cons hc, decodeSpaces_cons (mt code_prefix_of_encodeSpaces hp), hi hs]

-- Decoding puts nothing but spaces, so that a beginning free of them has been there before.
theorem prefix_of_prefix_decodeSpaces (hd : ' ' ∉ ds) (h : ds <+: decodeSpaces cs) : ds <+: cs := by
  induction cs using code_induction generalizing ds with
  | nil => exact h
  | code cs hi =>
    cases ds with
    | nil => exact List.nil_prefix
    | cons d ds =>
      have he : d = ' ' := (List.cons_prefix_cons.1 h).1
      exact absurd (he ▸ List.mem_cons_self) hd
  | cons c cs hn hi =>
    rw [decodeSpaces_cons hn] at h
    cases ds with
    | nil => exact List.nil_prefix
    | cons d ds =>
      have ⟨he, ht⟩ := List.cons_prefix_cons.1 h
      exact List.cons_prefix_cons.2 ⟨he, hi (mt (List.mem_cons_of_mem d) hd) ht⟩

theorem not_code_infix_decodeSpaces (cs : List Char) : ¬spaceCode <:+: decodeSpaces cs := by
  induction cs using code_induction with
  | nil => decide
  | code cs hi =>
    rw [decodeSpaces_code_append, List.infix_cons_iff, not_or]
    exact ⟨fun hp => absurd (List.cons_prefix_cons.1 hp).1 (by decide), hi⟩
  | cons c cs hn hi =>
    rw [decodeSpaces_cons hn, List.infix_cons_iff, not_or, ← decodeSpaces_cons hn]
    exact ⟨fun hp => hn (prefix_of_prefix_decodeSpaces (by decide) hp), hi⟩

-- What stands around a code does not become part of another one.
example : decodeSpaces "%%2020 %2%200".toList = "% 20 %2 0".toList := by decide

theorem encodeSpaces_decodeSpaces (cs : List Char) :
    encodeSpaces (decodeSpaces cs) = encodeSpaces cs := by
  induction cs using code_induction with
  | nil => rfl
  | code cs hi =>
    rw [decodeSpaces_code_append, encodeSpaces_space, hi, encodeSpaces_code_append]
  | cons c cs hn hi =>
    rw [decodeSpaces_cons hn]
    by_cases hc : c = ' '
    case pos => rw [hc, encodeSpaces_space, encodeSpaces_space, hi]
    case neg => rw [encodeSpaces_cons hc, encodeSpaces_cons hc, hi]

theorem encodeBehindAt_append (h : '@' ∉ ds) (cs : List Char) :
    encodeBehindAt (ds ++ '@' :: cs) = ds ++ '@' :: encodeSpaces cs := by
  induction ds with
  | nil => rfl
  | cons d ds hi =>
    have ⟨hd, hds⟩ := not_or.1 (mt List.mem_cons.2 h)
    simp [encodeBehindAt, Ne.symm hd, hi hds]

theorem encodeBehindAt_of_not_mem (h : '@' ∉ cs) : encodeBehindAt cs = cs := by
  induction cs with
  | nil => rfl
  | cons c cs hi =>
    have ⟨hc, hcs⟩ := not_or.1 (mt List.mem_cons.2 h)
    simp [encodeBehindAt, Ne.symm hc, hi hcs]

variable {m : ModuleSpec} {text : String}

-- What reading takes from a text.
theorem parse_eq_some_iff : parse text = some m ↔ m.name ≠ "" ∧ '@' ∉ m.name.toList ∧
    ((text = m.name ∧ m.args = none) ∨
      ∃ written, text.toList = m.name.toList ++ '@' :: written ∧
        m.args = some (String.ofList (decodeSpaces written))) := by
  obtain ⟨name, args⟩ := m
  unfold parse
  constructor
  case mp =>
    intro h
    cases hc : Text.cut? '@' text with
    | none =>
      have ⟨hn, he⟩ := Option.ite_none_left_eq_some.1 (hc ▸ h)
      cases he
      exact ⟨hn, Text.cut?_eq_none_iff.1 hc, .inl ⟨rfl, rfl⟩⟩
    | some cut =>
      have ⟨hn, he⟩ := Option.ite_none_left_eq_some.1 (hc ▸ h)
      have ⟨ht, ha⟩ := Text.cut?_eq_some_iff.1 hc
      cases he
      exact ⟨hn, ha, .inr ⟨cut.2.toList, ht, rfl⟩⟩
  case mpr =>
    rintro ⟨hn, ha, ⟨rfl, rfl⟩ | ⟨written, ht, rfl⟩⟩
    case inl =>
      have hc : Text.cut? '@' text = none := Text.cut?_eq_none_iff.2 ha
      simp only [hc]
      exact if_neg hn
    case inr =>
      have hc : Text.cut? '@' text = some (name, String.ofList written) :=
        Text.cut?_eq_some_iff.2 ⟨by simpa using ht, ha⟩
      simp only [hc, String.toList_ofList]
      exact if_neg hn

theorem Compactable.parse_compact (h : m.Compactable) : parse m.compact = some m := by
  refine parse_eq_some_iff.2 ⟨h.named, h.no_at, ?_⟩
  cases ha : m.args with
  | none      => exact .inl ⟨by simp [compact, ha], rfl⟩
  | some args =>
    refine .inr ⟨encodeSpaces args.toList, by simp [compact, ha], ?_⟩
    rw [decodeSpaces_encodeSpaces (h.args args ha), String.ofList_toList]

theorem compactable_of_parse (h : parse text = some m) : m.Compactable := by
  have ⟨hn, ha, hp⟩ := parse_eq_some_iff.1 h
  refine ⟨hn, ha, fun args he => ?_⟩
  cases hp
  case inl hp => cases hp.2.symm.trans he
  case inr hp =>
    have ⟨written, _, hw⟩ := hp
    cases hw.symm.trans he
    rw [String.toList_ofList]
    exact not_code_infix_decodeSpaces written

theorem compact_of_parse (h : parse text = some m) :
    m.compact.toList = encodeBehindAt text.toList := by
  have ⟨_, ha, hp⟩ := parse_eq_some_iff.1 h
  cases hp
  case inl hp =>
    have ⟨ht, hn⟩ := hp
    rw [ht, encodeBehindAt_of_not_mem ha]
    simp [compact, hn]
  case inr hp =>
    have ⟨written, ht, hw⟩ := hp
    rw [ht, encodeBehindAt_append ha]
    simp [compact, hw, encodeSpaces_decodeSpaces]

-- Compact forms:
-- 1. a module is what its compact form is read as if and only if it has a name without `@`, and
--    arguments without the code of a space, if any
-- 2. whatever is read is such a module, and its compact form is the text that has been read, with
--    all spaces escaped that stand behind the first `@`
theorem compact_form_exact :
    (∀ m : ModuleSpec, parse m.compact = some m ↔ m.Compactable) ∧
    ∀ text m, parse text = some m →
      m.Compactable ∧ m.compact.toList = encodeBehindAt text.toList := by
  constructor
  case left  => exact fun m => ⟨compactable_of_parse, Compactable.parse_compact⟩
  case right => exact fun text m h => ⟨compactable_of_parse h, compact_of_parse h⟩

end AudioRules.ModuleSpec
