import AudioRules.Proofs.Pattern.Outcome.Group
import AudioRules.Proofs.Pattern.Sequence
import AudioRules.Proofs.Predicate.Compiled

namespace AudioRules

namespace Pattern

open Reader

-- What the first reads, the second reads as well.
def Refines (g g' : Reader α) : Prop := ∀ s r, g s = some r → g' s = some r

namespace Refines

theorem refl (g : Reader α) : Refines g g := fun _ _ => id

theorem bind {g g' : Reader α} {f f' : α → Reader β} (hg : Refines g g')
    (hf : ∀ x, Refines (f x) (f' x)) : Refines (g >>= f) (g' >>= f') := by
  intro s (y, u) h
  have ⟨x, t, hx, hy⟩ := bind_eq_some.1 h
  exact bind_eq_some.2 ⟨x, t, hg s _ hx, hf x t _ hy⟩

theorem grouped {inner inner' : Reader Piece} (hi : Refines inner inner') :
    Refines (grouped inner) (grouped inner') := by
  refine .bind (.refl _) fun _ => .bind (.refl _) fun m => .bind (.refl _) fun o => ?_
  cases o with
  | directive   => exact .refl _
  | inner index => exact .bind hi fun p => .refl _

theorem extended {inner inner' : Reader Piece} (hi : Refines inner inner') (c : Char)
    (pieces : List Piece) : Refines (extended inner c pieces) (extended inner' c pieces) := by
  unfold Pattern.extended
  split
  case isTrue  => exact .bind hi.grouped fun _ => .refl _
  case isFalse => exact .refl _

-- More fuel changes nothing where there was enough.
theorem group (hn : n ≤ n') (branches pieces : List Piece) :
    Refines (group n branches pieces) (group n' branches pieces) := by
  induction n generalizing n' branches pieces with
  | zero =>
    intro _ _ h
    cases h
  | succ n hi =>
    cases n' with
    | zero => omega
    | succ n' =>
      have hi := @hi n' (by omega)
      refine .bind (.refl _) fun _ => .bind (.refl _) fun c? => ?_
      split
      case isTrue => exact .refl _
      case isFalse =>
        split
        case isTrue  => exact .bind (.refl _) fun _ => hi _ _
        case isFalse =>
          exact .bind (.refl _) fun c => .bind ((hi [] []).extended c _) fun _ => hi _ _

end Refines

theorem group_anchored (n : Nat) (text : List Char) :
    group (n + 3) [] [] { rest := ['^', '(', '?', ':'] ++ (text ++ closing) } =
      (group (n + 1) [] [] >>= fun p => expect ')' >>= fun _ => setModes {} >>= fun _ =>
        group (n + 1) [] [p.grouped none, .gap .textStart]) { rest := text ++ closing } := by
  show (((group (n + 1) [] [] >>= fun p => expect ')' >>= fun _ => setModes {} >>= fun _ =>
    pure (p.grouped none)) >>= fun p => pure [p, .gap .textStart]) >>= fun ps =>
      group (n + 1) [] ps) _ = _
  simp only [bind_assoc, pure_bind]
  rfl

-- The piece between anchors
def Piece.anchored (p : Piece) : Piece := { form := p.form.anchored, depth := p.depth + 2 }

theorem concat_grouped (p : Piece) :
    Piece.concat [.gap .textStart, p.grouped none, .gap .textEnd] = p.anchored := by
  simp [Piece.concat, Piece.anchored, Piece.depthOver, Piece.grouped, Piece.gap, Form.anchored]

theorem group_closing (hn : 2 ≤ n) (p : Piece) (hs : s.rest = closing) :
    ∃ t, (expect ')' >>= fun _ => setModes {} >>= fun _ =>
      group n [] [p.grouped none, .gap .textStart]) s = some (p.anchored, t) ∧ t.rest = [] := by
  obtain ⟨n, rfl⟩ := Nat.exists_eq_add_of_le' hn
  rcases s with ⟨rest, m, names, k⟩
  cases hs
  rw [← concat_grouped]
  exact ⟨_, rfl, rfl⟩

-- A pattern that is the same in a group between anchors.
structure Enclosed (text : List Char) : Prop where
  -- no parenthesis is closed that has not been opened
  balanced : (scan text).all fun (_, s) => s.rest.isEmpty
  -- no comment at its end goes on over what is closing the group
  uncommented : (scan (text ++ closing)).all fun (_, s) => !s.rest.isEmpty
  -- to the limits, group and anchors make no difference
  modest : (scan text).all fun (p, _) => p.anchored.withinLimits == p.withinLimits

instance (text : List Char) : Decidable (Enclosed text) :=
  decidable_of_iff (_ ∧ _ ∧ _) ⟨fun ⟨hb, hu, hm⟩ => ⟨hb, hu, hm⟩, fun ⟨hb, hu, hm⟩ => ⟨hb, hu, hm⟩⟩

namespace Enclosed

theorem rest_eq_nil (h : Enclosed text) (hs : scan text = some (p, s)) : s.rest = [] := by
  simpa [hs] using h.balanced

theorem rest_ne_nil (h : Enclosed text) (hs : scan (text ++ closing) = some (p, s)) :
    s.rest ≠ [] := by
  simpa [hs] using h.uncommented

theorem limits_eq (h : Enclosed text) (hs : scan text = some (p, s)) :
    p.anchored.withinLimits = p.withinLimits := by
  simpa [hs] using h.modest

end Enclosed

theorem scan_anchored (text : List Char) :
    ∃ n, text.length + 3 ≤ n ∧ scan (['^', '(', '?', ':'] ++ (text ++ closing)) =
      (group n [] [] >>= fun p => expect ')' >>= fun _ => setModes {} >>= fun _ =>
        group n [] [p.grouped none, .gap .textStart]) { rest := text ++ closing } := by
  have hl : (['^', '(', '?', ':'] ++ (text ++ closing)).length + 1 = text.length + 4 + 3 := by
    simp [closing]
  refine ⟨text.length + 4 + 1, by omega, ?_⟩
  rw [scan, hl, group_anchored]

theorem length_closed (text : List Char) : (text ++ closing).length = text.length + 2 :=
  List.length_append

theorem outcome_text (hn : text.length < n) (hn' : text.length + 2 < n') :
    Outcome Begun (group n [] [] { rest := text }) (group n' [] [] { rest := text ++ closing }) :=
  Outcome.group (.inl rfl) hn (length_closed text ▸ hn') [] []

theorem outcome_scan (text : List Char) : Outcome Begun (scan text) (scan (text ++ closing)) :=
  outcome_text (Nat.lt_succ_self _) (by rw [length_closed]; exact Nat.lt_succ_self _)

theorem scan_anchored_of_some (h : Enclosed text) (hs : scan text = some (p, s)) :
    ∃ t, scan (['^', '(', '?', ':'] ++ (text ++ closing)) = some (p.anchored, t) ∧ t.rest = [] := by
  obtain ⟨n, hn, ha⟩ := scan_anchored text
  have ho := outcome_scan text
  rw [hs] at ho
  generalize hc : scan (text ++ closing) = r at ho
  cases ho with
  | same he =>
    rename_i s'
    have hs' : s'.rest = closing := by
      rcases he with rfl | ⟨hr, rfl⟩
      case inl => rw [Cursor.closed, h.rest_eq_nil hs]; rfl
      case inr => exact absurd hr (h.rest_ne_nil hc)
    have hg : group n [] [] { rest := text ++ closing } = some (p, s') :=
      Refines.group (by rw [length_closed]; exact hn) [] [] _ _ hc
    obtain ⟨t, ht, hr⟩ := group_closing (by omega : 2 ≤ n) p hs'
    exact ⟨t, ha.trans (bind_eq_some.2 ⟨p, s', hg, ht⟩), hr⟩

theorem scan_anchored_of_none (hs : scan text = none) :
    scan (['^', '(', '?', ':'] ++ (text ++ closing)) = none := by
  obtain ⟨n, hn, ha⟩ := scan_anchored text
  have ho : Outcome Begun (scan text) (group n [] [] { rest := text ++ closing }) :=
    outcome_text (Nat.lt_succ_self _) hn
  rw [hs] at ho
  refine Option.eq_none_iff_forall_ne_some.2 fun (q, t) h => ?_
  have ⟨p, s', hg, h⟩ := bind_eq_some.1 (ha.symm.trans h)
  rw [hg] at ho
  cases ho with
  | late he =>
    have ⟨_, _, hx, _⟩ := bind_eq_some.1 h
    cases (expect_of_not_mem he (by decide)).symm.trans hx

theorem read?_eq_some : read? text = some r ↔
    ∃ p s, scan text = some (p, s) ∧ s.rest = [] ∧ p.withinLimits ∧ p.form.regex = r := by
  unfold read?
  simp only [Option.bind_eq_bind, Option.bind_eq_some_iff, Prod.exists, guard]
  refine exists_congr fun p => exists_congr fun s => and_congr_right fun _ => ?_
  by_cases h : (s.rest.isEmpty && p.withinLimits) = true
  case pos =>
    have ⟨hr, hl⟩ : s.rest = [] ∧ p.withinLimits := by simpa using h
    simp [hr, hl]
  case neg =>
    simp only [Bool.and_eq_true, List.isEmpty_iff] at h
    simp [h]
    grind

theorem read?_anchored (h : Enclosed text) :
    read? (['^', '(', '?', ':'] ++ (text ++ closing)) = some r ↔
      ∃ p s, scan text = some (p, s) ∧ p.withinLimits ∧ p.form.anchored.regex = r := by
  rw [read?_eq_some]
  constructor
  case mp =>
    intro ⟨q, t, hq, _, hl, hr⟩
    cases hs : scan text with
    | none => cases (scan_anchored_of_none hs).symm.trans hq
    | some x =>
      obtain ⟨p, s⟩ := x
      have ⟨_, ht, _⟩ := scan_anchored_of_some h hs
      cases ht.symm.trans hq
      exact ⟨p, s, rfl, h.limits_eq hs ▸ hl, hr⟩
  case mpr =>
    intro ⟨p, s, hs, hl, hr⟩
    have ⟨t, ht, he⟩ := scan_anchored_of_some h hs
    exact ⟨p.anchored, t, ht, he, (h.limits_eq hs).symm ▸ hl, hr⟩

theorem read?_enclosed (h : Enclosed text) : read? text = some r ↔
    ∃ p s, scan text = some (p, s) ∧ p.withinLimits ∧ p.form.regex = r := by
  rw [read?_eq_some]
  refine exists_congr fun p => exists_congr fun s => and_congr_right fun hs => ?_
  simp [h.rest_eq_nil hs]

end Pattern

open Pattern

theorem Test.toList_anchored (arg : String) :
    (anchored arg).toList = ['^', '(', '?', ':'] ++ (arg.toList ++ closing) := by
  simp [anchored, closing, String.toList_append]

theorem Test.compile_pattern_eq_ok {source : String} : compile .pattern (some source) = .ok t ↔
    ∃ r, read? (anchored source).toList = some r ∧ t = .pattern source r := by
  simp only [compile]
  cases read? (anchored source).toList with
  | none   => simp
  | some r => simp [eq_comm]

namespace Predicate

-- The argument of an enclosed pattern compiles if it is a pattern by itself, and then a text passes
-- if the pattern matches the whole of it, from its start to its end.
theorem covers_of_enclosed {kind : ObjectKind} {target : Target} {arg : String}
    (hk : suits kind ⟨target, .pattern, some arg⟩) (h : Enclosed arg.toList) :
    ((∃ p, compile kind ⟨target, .pattern, some arg⟩ = .ok p) ↔ (read? arg.toList).isSome) ∧
      ∀ p r, compile kind ⟨target, .pattern, some arg⟩ = .ok p → read? arg.toList = some r →
        ∀ v, p.test.holds v ↔ r.Matches v.toList 0 v.toList.length := by
  have hc (q : Predicate) : compile kind ⟨target, .pattern, some arg⟩ = .ok q ↔
      ∃ p s, scan arg.toList = some (p, s) ∧ p.withinLimits ∧
        q = ⟨kind, target, .pattern arg p.form.anchored.regex⟩ := by
    simp only [compile_eq_ok, hk, true_and, Test.compile_pattern_eq_ok, Test.toList_anchored,
      read?_anchored h]
    constructor
    case mp =>
      rintro ⟨_, ⟨r, ⟨p, s, hs, hl, rfl⟩, rfl⟩, rfl⟩
      exact ⟨p, s, hs, hl, rfl⟩
    case mpr =>
      rintro ⟨p, s, hs, hl, rfl⟩
      exact ⟨_, ⟨_, ⟨p, s, hs, hl, rfl⟩, rfl⟩, rfl⟩
  constructor
  case left =>
    simp only [hc, Option.isSome_iff_exists, read?_enclosed h]
    constructor
    case mp =>
      intro ⟨_, p, s, hs, hl, _⟩
      exact ⟨_, p, s, hs, hl, rfl⟩
    case mpr =>
      intro ⟨_, p, s, hs, hl, _⟩
      exact ⟨_, p, s, hs, hl, rfl⟩
  case right =>
    intro q r hq hr v
    obtain ⟨p, s, hs, _, rfl⟩ := (hc q).1 hq
    obtain ⟨p', s', hs', _, rfl⟩ := (read?_enclosed h).1 hr
    cases hs.symm.trans hs'
    exact Form.isMatch_anchored

theorem covers_of_enclosed_alternatives :
    ∃ p r, compile .sink ⟨.name, .pattern, some "ab|c"⟩ = .ok p ∧ read? "ab|c".toList = some r ∧
      ∀ v, p.test.holds v ↔ r.Matches v.toList 0 v.toList.length := by
  have hs : (read? "ab|c".toList).isSome := by decide +kernel
  have ⟨hc, hm⟩ := @covers_of_enclosed .sink .name "ab|c" (by decide) (by decide +kernel)
  have ⟨p, hp⟩ := hc.2 hs
  have ⟨r, hr⟩ := Option.isSome_iff_exists.1 hs
  exact ⟨p, r, hp, hr, hm p r hp hr⟩

-- A parenthesis too many ends the group that the anchors are around.
theorem not_covers_of_unbalanced : read? "a)|(b".toList = none ∧
    (compile .sink ⟨.name, .pattern, some "a)|(b"⟩).toOption.any (·.test.holds "ax") := by
  decide +kernel

end Predicate

end AudioRules
