import Mathlib.Data.Nat.Bitwise
import Mathlib.Logic.Function.Iterate
import Mathlib.Logic.Relation
import AudioRules.Pattern.Search

namespace AudioRules

open Relation (Comp)

-- Exactly `n` steps in a row.
def Steps (R : α → α → Prop) : Nat → α → α → Prop
  | 0     => Eq
  | n + 1 => Comp R (Steps R n)

namespace Steps

theorem add (R : α → α → Prop) (m n : Nat) : Steps R (m + n) = Comp (Steps R m) (Steps R n) := by
  induction m with
  | zero => rw [Nat.zero_add, Steps, Relation.eq_comp]
  | succ m hi => rw [Nat.succ_add, Steps, hi, Steps, Relation.comp_assoc]

-- At most `n` steps, as staying where one is or taking one more, `n` times.
theorem or_stay_iff {R : α → α → Prop} {n : Nat} :
    Steps (fun i j => i = j ∨ R i j) n i k ↔ ∃ m ≤ n, Steps R m i k := by
  induction n generalizing i with
  | zero => simp [Steps]
  | succ n hi =>
    constructor
    case mp =>
      rintro ⟨j, rfl | hr, hs⟩
      case inl =>
        have ⟨m, hm, hs⟩ := hi.1 hs
        exact ⟨m, by omega, hs⟩
      case inr =>
        have ⟨m, hm, hs⟩ := hi.1 hs
        exact ⟨m + 1, by omega, j, hr, hs⟩
    case mpr =>
      intro ⟨m, hm, hs⟩
      match m, hs with
      | 0, hs => exact ⟨i, .inl rfl, hi.2 ⟨0, by omega, hs⟩⟩
      | m + 1, ⟨j, hr, hs⟩ => exact ⟨j, .inr hr, hi.2 ⟨m, by omega, hs⟩⟩

end Steps

namespace Atom

def Takes (text : List Char) : Atom → Nat → Nat → Prop
  | one s, i, j => j = i + 1 ∧ ∃ c, text[i]? = some c ∧ s.contains c.toNat
  | gap g, i, j => j = i ∧ i ≤ text.length ∧ g.holds (text.take i).getLast? text[i]?

end Atom

namespace Regex

-- The expression matches the text from place `i` to place `j`. What is required of a repetition
-- comes before what is allowed.
def Matches (text : List Char) : Regex Atom → Nat → Nat → Prop
  | empty   => Eq
  | atom a  => a.Takes text
  | seq r s => Comp (r.Matches text) (s.Matches text)
  | alt r s => fun i j => r.Matches text i j ∨ s.Matches text i j
  | times r least most => fun i j =>
      ∃ n, least ≤ n ∧ (∀ m, most = some m → n ≤ max least m) ∧ Steps (r.Matches text) n i j

end Regex

-- A function on sets of places that goes from each place wherever the relation leads.
def Follows (f : Places → Places) (R : Nat → Nat → Prop) : Prop :=
  ∀ ps j, (f ps).testBit j ↔ ∃ i, ps.testBit i ∧ R i j

namespace Follows

theorem id : Follows id Eq := by
  simp [Follows]

theorem comp (hf : Follows f R) (hg : Follows g S) : Follows (fun ps => g (f ps)) (Comp R S) := by
  intro ps k
  rw [hg]
  constructor
  case mp =>
    intro ⟨j, hj, hs⟩
    have ⟨i, hi, hr⟩ := (hf ps j).1 hj
    exact ⟨i, hi, j, hr, hs⟩
  case mpr =>
    intro ⟨i, hi, j, hr, hs⟩
    exact ⟨j, (hf ps j).2 ⟨i, hi, hr⟩, hs⟩

theorem or (hf : Follows f R) (hg : Follows g S) :
    Follows (fun ps => f ps ||| g ps) fun i j => R i j ∨ S i j := by
  intro ps j
  simp only [Nat.testBit_or, Bool.or_eq_true, hf ps j, hg ps j, and_or_left, exists_or]

theorem iterate (hf : Follows f R) (n : Nat) : Follows f^[n] (Steps R n) := by
  induction n with
  | zero => exact id
  | succ n hi => exact hf.comp hi

end Follows

namespace Places

theorem testBit_ofList {p : α → Bool} {as : List α} {i : Nat} :
    (ofList p as).testBit i ↔ ∃ a, as[i]? = some a ∧ p a := by
  induction as generalizing i with
  | nil => simp [ofList]
  | cons a as hi =>
    cases i with
    | zero   => cases h : p a <;> simp [ofList, h]
    | succ i =>
      have h1 : (if p a then 1 else 0 : Nat).testBit (i + 1) = false := by
        split <;> simp [Nat.testBit_succ]
      simp [ofList, h1, hi]

-- Stopping where nothing changes makes no difference.
theorem advance_eq_iterate (f : Places → Places) (n : Nat) (ps : Places) :
    advance f n ps = f^[n] ps := by
  induction n generalizing ps with
  | zero => rfl
  | succ n hi =>
    simp only [advance, beq_iff_eq]
    split
    case isTrue h  => exact (Function.iterate_fixed h (n + 1)).symm
    case isFalse h => exact hi (f ps)

theorem spread_eq_iterate (f : Places → Places) (n : Nat) (ps : Places) :
    spread f n ps = (fun ps => ps ||| f ps)^[n] ps := by
  induction n generalizing ps with
  | zero => rfl
  | succ n hi =>
    simp only [spread, beq_iff_eq]
    split
    case isTrue h  => exact (Function.iterate_fixed h (n + 1)).symm
    case isFalse h => exact hi (ps ||| f ps)

theorem ne_zero_iff {ps : Places} : ps ≠ 0 ↔ ∃ i, ps.testBit i := by
  constructor
  case mp =>
    intro h
    by_contra hn
    simp only [not_exists, Bool.not_eq_true] at hn
    exact h (Nat.zero_of_testBit_eq_false hn)
  case mpr =>
    rintro ⟨i, hi⟩ rfl
    simp at hi

end Places

theorem getElem?_gapsAfter (before : Option Char) (cs : List Char) (i : Nat) :
    (gapsAfter before cs)[i]? =
      if i ≤ cs.length then some ((cs.take i).getLast?.or before, cs[i]?) else none := by
  induction cs generalizing before i with
  | nil => cases i <;> simp [gapsAfter]
  | cons c cs hi =>
    cases i with
    | zero   => simp [gapsAfter]
    | succ i => simp [gapsAfter, hi, List.getLast?_cons]

-- Steps never lead back, nor beyond the end of the text.
def Forward (length : Nat) (R : Nat → Nat → Prop) : Prop :=
  ∀ i j, R i j → i ≤ j ∧ (i < j → j ≤ length)

namespace Forward

theorem eq : Forward length Eq := by
  rintro i _ rfl
  omega

theorem comp (hr : Forward length R) (hs : Forward length S) : Forward length (Comp R S) := by
  intro i k ⟨j, hij, hjk⟩
  have := hr i j hij
  have := hs j k hjk
  omega

theorem or (hr : Forward length R) (hs : Forward length S) :
    Forward length fun i j => R i j ∨ S i j := by
  rintro i j (h | h)
  case inl => exact hr i j h
  case inr => exact hs i j h

theorem steps (hr : Forward length R) (n : Nat) : Forward length (Steps R n) := by
  induction n with
  | zero => exact eq
  | succ n hi => exact hr.comp hi

-- Of more steps than there are places, one stays where it is, and could as well be taken twice or
-- left out.
theorem stays (hr : Forward length R) (h : Steps R n i k) (hn : k < i + n) :
    ∃ m, n = m + 1 ∧ Steps R m i k ∧ Steps R (m + 2) i k := by
  induction n generalizing i with
  | zero =>
    cases h
    omega
  | succ n hi =>
    obtain ⟨j, hij, hs⟩ := h
    by_cases hj : i = j
    case pos =>
      subst hj
      exact ⟨n, rfl, hs, i, hij, i, hij, hs⟩
    case neg =>
      have := hr i j hij
      obtain ⟨m, rfl, h0, h2⟩ := hi hs (by omega)
      exact ⟨m + 1, rfl, ⟨j, hij, h0⟩, j, hij, h2⟩

theorem steps_succ_iff (hr : Forward length R) (hn : length < n) :
    Steps R n i k ↔ Steps R (n + 1) i k := by
  constructor
  case mp =>
    intro h
    have := hr.steps n i k h
    obtain ⟨m, rfl, _, h2⟩ := hr.stays h (by omega)
    exact h2
  case mpr =>
    intro h
    have := hr.steps (n + 1) i k h
    obtain ⟨m, hm, h0, _⟩ := hr.stays h (by omega)
    rwa [show n = m by omega]

theorem steps_min (hr : Forward length R) (hl : length < limit) (n : Nat) :
    Steps R (min n limit) = Steps R n := by
  rcases Nat.le_total n limit with h | h
  case inl => rw [Nat.min_eq_left h]
  case inr =>
    rw [Nat.min_eq_right h]
    induction n, h using Nat.le_induction with
    | base => rfl
    | succ n h hi =>
      rw [hi]
      ext i k
      exact hr.steps_succ_iff (by omega)

end Forward

namespace Atom

theorem forward_takes (a : Atom) (text : List Char) : Forward text.length (a.Takes text) := by
  intro i j h
  cases a with
  | one s =>
    obtain ⟨rfl, c, hc, _⟩ := h
    have := (List.getElem?_eq_some_iff.1 hc).1
    omega
  | gap g =>
    obtain ⟨rfl, _⟩ := h
    omega

theorem follows_apply (a : Atom) (text : List Char) :
    Follows (a.onText text).apply (a.Takes text) := by
  intro ps j
  cases a with
  | one s =>
    cases j with
    | zero   => simp [onText, Move.apply, Takes]
    | succ j => simp [onText, Move.apply, Takes, Places.testBit_ofList]
  | gap g =>
    simp [onText, Move.apply, Takes, Places.testBit_ofList, getElem?_gapsAfter]

end Atom

namespace Regex

theorem forward_matches (r : Regex Atom) (text : List Char) :
    Forward text.length (r.Matches text) := by
  induction r with
  | empty           => exact .eq
  | atom a          => exact a.forward_takes text
  | seq r s hr hs   => exact hr.comp hs
  | alt r s hr hs   => exact hr.or hs
  | times r _ _ hr  =>
    intro i j ⟨n, _, _, h⟩
    exact hr.steps n i j h

theorem reach_atom (limit : Nat) (m : Thunk Move) : (atom m).reach limit = m.get.apply := by
  ext ps
  simp only [reach, beq_iff_eq]
  split
  case isTrue h  => cases m.get <;> simp [Move.apply, h]
  case isFalse h => rfl

-- A repetition is its required part and then up to as many more as are allowed.
theorem matches_times {r : Regex Atom} :
    (times r least most).Matches text i k ↔ ∃ further, (∀ m, most = some m → further ≤ m - least) ∧
      Comp (Steps (r.Matches text) least) (Steps (r.Matches text) further) i k := by
  constructor
  case mp =>
    intro ⟨n, hl, hm, h⟩
    obtain ⟨further, rfl⟩ := Nat.exists_eq_add_of_le hl
    refine ⟨further, fun m h => ?_, Steps.add _ _ _ ▸ h⟩
    have := hm m h
    omega
  case mpr =>
    intro ⟨further, hm, h⟩
    refine ⟨least + further, by omega, fun m h => ?_, (Steps.add _ _ _).symm ▸ h⟩
    have := hm m h
    omega

theorem follows_times {r : Regex Atom} {f : Places → Places} (hl : text.length < limit)
    (hr : Follows f (r.Matches text)) (least : Nat) (most : Option Nat) :
    Follows (fun ps => Places.spread f (match most with
      | none   => limit
      | some m => min (m - least) limit) (Places.advance f (min least limit) ps))
      ((times r least most).Matches text) := by
  have hw := r.forward_matches text
  simp only [Places.advance_eq_iterate, Places.spread_eq_iterate]
  have hs : Follows (fun ps => ps ||| f ps) fun i j => i = j ∨ r.Matches text i j :=
    Follows.id.or hr
  convert (hr.iterate (min least limit)).comp (hs.iterate _) using 1
  ext i k
  rw [matches_times, hw.steps_min hl]
  constructor
  case mpr =>
    intro ⟨j, hi, hk⟩
    have ⟨n, hf, hk⟩ := Steps.or_stay_iff.1 hk
    refine ⟨n, ?_, j, hi, hk⟩
    rintro m rfl
    exact (Nat.le_min.1 hf).1
  case mp =>
    intro ⟨n, hm, j, hi, hk⟩
    refine ⟨j, hi, Steps.or_stay_iff.2 ⟨min n limit, ?_, (hw.steps_min hl n).symm ▸ hk⟩⟩
    cases most with
    | none   => exact Nat.min_le_right n limit
    | some m =>
      have hm := hm m rfl
      exact Nat.le_min.2 ⟨by omega, Nat.min_le_right n limit⟩

theorem follows_reach (hl : text.length < limit) (r : Regex Atom) :
    Follows ((r.map fun a => Thunk.mk fun _ => a.onText text).reach limit) (r.Matches text) := by
  induction r with
  | empty                 => exact .id
  | atom a                => exact reach_atom limit _ ▸ a.follows_apply text
  | seq r s hr hs         => exact hr.comp hs
  | alt r s hr hs         => exact hr.or hs
  | times r least most hr => exact follows_times hl hr least most

-- A search finds what matches somewhere in the text.
theorem isMatch_iff {r : Regex Atom} : r.isMatch text ↔
    ∃ i j, i ≤ text.length ∧ r.Matches text i j := by
  have hf := r.follows_reach (Nat.lt_succ_self text.length)
  simp only [isMatch, bne_iff_ne, Places.ne_zero_iff, hf _ _]
  rw [exists_comm]
  simp only [Nat.pow_eq, Nat.testBit_two_pow_sub_one, decide_eq_true_eq, Nat.lt_succ_iff]

end Regex

end AudioRules
