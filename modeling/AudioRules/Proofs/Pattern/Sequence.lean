import AudioRules.Pattern.Form
import AudioRules.Proofs.Pattern.Matching

namespace AudioRules

open Relation (Comp)

namespace Regex

theorem matches_seqAll_cons (r : Regex Atom) (rs : List (Regex Atom)) (text : List Char) :
    (seqAll (r :: rs)).Matches text = Comp (r.Matches text) ((seqAll rs).Matches text) := by
  cases rs with
  | nil      => exact Relation.comp_eq.symm
  | cons _ _ => rfl

theorem matches_seqAll_append (rs ss : List (Regex Atom)) (text : List Char) :
    (seqAll (rs ++ ss)).Matches text =
      Comp ((seqAll rs).Matches text) ((seqAll ss).Matches text) := by
  induction rs with
  | nil => exact Relation.eq_comp.symm
  | cons r rs hi =>
    rw [List.cons_append, matches_seqAll_cons, matches_seqAll_cons, hi, Relation.comp_assoc]

end Regex

namespace Atom

theorem takes_textStart {text : List Char} : (gap .textStart).Takes text i j ↔ i = 0 ∧ j = 0 := by
  constructor
  case mp =>
    intro ⟨hj, hi, h⟩
    have h : text.take i = [] := by simpa [Gap.holds] using h
    rw [List.take_eq_nil_iff] at h
    rcases h with rfl | rfl <;> simp_all
  case mpr =>
    rintro ⟨rfl, rfl⟩
    exact ⟨rfl, Nat.zero_le _, rfl⟩

theorem takes_textEnd {text : List Char} :
    (gap .textEnd).Takes text i j ↔ i = text.length ∧ j = text.length := by
  constructor
  case mp =>
    intro ⟨hj, hi, h⟩
    have h : text.length ≤ i := by simpa [Gap.holds] using h
    omega
  case mpr =>
    rintro ⟨rfl, rfl⟩
    exact ⟨rfl, Nat.le_refl _, by simp [Gap.holds]⟩

end Atom

namespace Pattern

namespace Form

open Regex

-- What a list of forms matches one after the other.
def MatchAll (text : List Char) (fs : List Form) : Nat → Nat → Prop :=
  (seqAll (fs.map regex)).Matches text

theorem matchAll_cons (text : List Char) (f : Form) (fs : List Form) :
    MatchAll text (f :: fs) = Comp (f.regex.Matches text) (MatchAll text fs) :=
  matches_seqAll_cons _ _ text

theorem matchAll_append (text : List Char) (fs gs : List Form) :
    MatchAll text (fs ++ gs) = Comp (MatchAll text fs) (MatchAll text gs) := by
  rw [MatchAll, List.map_append, matches_seqAll_append]
  rfl

theorem matchAll_parts (text : List Char) (f : Form) :
    MatchAll text f.parts = f.regex.Matches text := by
  induction f with
  | seq f g _ hg => rw [parts, matchAll_cons, hg]; rfl
  | _ => rfl

theorem matchAll_flatMap_parts (text : List Char) (fs : List Form) :
    MatchAll text (fs.flatMap parts) = MatchAll text fs := by
  induction fs with
  | nil => rfl
  | cons f fs hi => rw [List.flatMap_cons, matchAll_append, matchAll_parts, matchAll_cons, hi]

theorem regex_ofParts (fs : List Form) : (ofParts fs).regex = seqAll (fs.map regex) := by
  induction fs with
  | nil => rfl
  | cons f fs hi =>
    cases fs with
    | nil      => rfl
    | cons _ _ => simp only [ofParts, regex, hi]; rfl

theorem matchAll_joinLiterals (text : List Char) (fs : List Form) :
    MatchAll text (joinLiterals fs) = MatchAll text fs := by
  induction fs with
  | nil => rfl
  | cons f fs hi =>
    unfold joinLiterals
    split
    case h_1 cs ds gs hj =>
      rw [matchAll_cons, matchAll_cons, ← hi, hj, matchAll_cons, ← Relation.comp_assoc]
      congr 1
      rw [regex, List.map_append, matches_seqAll_append]
      rfl
    case h_2 => rw [matchAll_cons, matchAll_cons, hi]

theorem matches_concat (text : List Char) (fs : List Form) :
    (concat fs).regex.Matches text = MatchAll text fs := by
  rw [concat, regex_ofParts]
  exact (matchAll_joinLiterals ..).trans (matchAll_flatMap_parts ..)

-- Between anchors
def anchored (f : Form) : Form := concat [gap .textStart, f, gap .textEnd]

theorem matches_anchored {f : Form} : f.anchored.regex.Matches text i j ↔
    i = 0 ∧ j = text.length ∧ f.regex.Matches text 0 text.length := by
  have hnil : MatchAll text [] = Eq := rfl
  simp only [anchored, matches_concat, matchAll_cons, hnil, Comp, regex, Matches,
    Atom.takes_textStart, Atom.takes_textEnd]
  grind

-- Whatever the search starts from, the whole text is matched, and never only a part of it.
theorem isMatch_anchored {f : Form} : f.anchored.regex.isMatch text ↔
    f.regex.Matches text 0 text.length := by
  simp [isMatch_iff, matches_anchored]

end Form

end Pattern

end AudioRules
