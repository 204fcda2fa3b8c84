import AudioRules.Proofs.Pattern.Outcome

namespace AudioRules

namespace Pattern

open Reader

-- What is next is a brace, and past the filler after it what is closing the text.
def Stuck (s : Cursor) : Prop :=
  ∃ cs, s.rest = '\x7b' :: cs ∧ (if s.modes.verbose then dropFiller false cs else cs) = closing

def BegunOrStuck : α → Cursor → Prop := fun x s => Begun x s ∨ Stuck s

-- Only after a word edge one is stuck.
def BegunOrEdge : Primitive → Cursor → Prop := fun p s => Begun p s ∨ (∃ g, p = .gap g) ∧ Stuck s

namespace Reader

theorem need_eq_some (h : need s = some (c, t)) : t = s ∧ ∃ cs, s.rest = c :: cs := by
  rcases s with ⟨_ | ⟨d, cs⟩, _, _, _⟩
  case nil => cases h
  case cons =>
    cases h
    exact ⟨rfl, cs, rfl⟩

theorem rest_of_inBraces (h : inBraces n s = some (cs, t)) : ∃ ds, t.rest = '\x7d' :: ds := by
  induction n generalizing s cs with
  | zero => cases h
  | succ n hi =>
    have ⟨_, _, _, hn⟩ := bind_eq_some.1 h
    have ⟨c, _, hc, hb⟩ := bind_eq_some.1 hn
    have ⟨ht, ds, hd⟩ := need_eq_some hc
    split at hb
    case isTrue he =>
      cases hb
      exact ⟨ds, by rw [ht, hd, beq_iff_eq.1 he]⟩
    case isFalse =>
      have ⟨_, _, hb, hp⟩ := bind_eq_some.1 hb
      cases hp
      exact hi hb

end Reader

namespace Outcome

variable {s s' : Cursor}

theorem inBraces (h : s.Extends s') (hs : s.rest = c :: cs) (hn : s.rest.length < n)
    (hn' : s'.rest.length < n') : Outcome Begun (inBraces n s) (inBraces n' s') := by
  induction n generalizing n' s s' c cs with
  | zero => omega
  | succ n hi =>
    cases n' with
    | zero => omega
    | succ n' =>
      refine skipWithFiller_bind h hs fun t t' h' _ _ => need_ends h' (fun d ds hd => ?_) ?_
      · split
        case isTrue => exact .same h'
        case isFalse =>
          exact (hi h' hd (by omega) (by omega)).map _
      · exact .bind (.inBraces n') fun _ => .pure _

theorem hexDigits (h : s.Extends s') (n : Nat) :
    Outcome Begun (hexDigits n s) (hexDigits n s') := by
  induction n generalizing s s' with
  | zero => exact .same h
  | succ n hi =>
    refine need_ends h (fun c cs hs => ?_) ?_
    · exact (skipWithFiller h hs).bind_sure fun _ _ _ _ _ h => (hi h).map _
    · exact .bind .skipWithFiller fun _ => .bind (.hexDigits n) fun _ => .pure _

theorem hexEscape (h : s.Extends s') (hs : s.rest = c :: cs) (width : Nat) :
    Outcome Begun (hexEscape (width + 1) s) (hexEscape (width + 1) s') := by
  refine (skipWithFiller h hs).bind_sure fun _ t t' _ _ h => need_ends h (fun d ds hd => ?_) ?_
  · split
    case isTrue =>
      refine fuel_bind ((inBraces h hd (Nat.lt_succ_self _) (Nat.lt_succ_self _)).bind_ends
        (fun digits => ?_) fun digits u u' hu _ h => ?_)
      · refine .bind Within.skipWithFiller.untail fun _ => ?_
        split
        case isTrue  => exact .fail
        case isFalse => exact .bind (.lift _) fun _ => .pure _
      · have ⟨_, hr⟩ := rest_of_inBraces hu
        refine (skipWithFiller h hr).bind_sure fun _ _ _ _ _ h => ?_
        split
        case isTrue  => exact .none
        case isFalse => exact lift_bind fun _ _ => .same h
    case isFalse =>
      refine (hexDigits h (width + 1)).bind_ends ?_ ?_
      · exact fun _ => .bind (.lift _) fun _ => .pure _
      · exact fun _ _ _ _ _ h => lift_bind fun _ _ => .same h
  · refine .bind ?_ fun _ => .bind (.lift _) fun _ => .pure _
    exact .bind .need fun _ => .bind .skipWithFiller fun _ => .bind (.hexDigits width) fun _ => .pure _

theorem unicodeSet (h : s.Extends s') (negated : Bool) (set : CharSet) :
    Outcome Q (unicodeSet negated set s) (unicodeSet negated set s') := by
  refine modes_bind h ?_
  split
  case isTrue  => exact .same h
  case isFalse => exact .none

theorem namedSet (h : s.Extends s') (hs : s.rest = c :: cs) (negated : Bool) :
    Outcome Begun (namedSet negated s) (namedSet negated s') := by
  refine (skipWithFiller h hs).bind_sure fun _ t t' _ _ h => need_ends h (fun d ds hd => ?_) ?_
  · split
    case isTrue =>
      refine fuel_bind ((inBraces h hd (Nat.lt_succ_self _) (Nat.lt_succ_self _)).bind_ends
        (fun query => ?_) fun query u u' hu _ h => ?_)
      · refine .bind Within.skip.untail fun _ => ?_
        split
        case h_1 => exact .bind (.lift _) fun _ => .unicodeSet _ _
        case h_2 => exact .bind (.lift _) fun _ => .unicodeSet _ _
      · have ⟨_, hr⟩ := rest_of_inBraces hu
        refine (skip h hr).bind_sure fun _ _ _ _ _ h => ?_
        cases splitQuery query with
        | none   => exact lift_bind fun _ _ => unicodeSet h _ _
        | some _ => exact lift_bind fun _ _ => unicodeSet h _ _
    case isFalse =>
      split
      case isTrue => exact .none
      case isFalse =>
        exact (skipWithFiller h hd).bind_sure fun _ _ _ _ _ h =>
          lift_bind fun _ _ => unicodeSet h _ _
  · exact .bind .skipWithFiller fun _ => .bind (.lift _) fun _ => .unicodeSet _ _

theorem shorthandSet (h : s.Extends s') (hs : s.rest = c :: cs) (unicode ascii : CharSet)
    (negated : Bool) :
    Outcome Q (shorthandSet unicode ascii negated s) (shorthandSet unicode ascii negated s') := by
  refine (skip h hs).bind_sure fun _ t t' _ _ h => modes_bind h ?_
  split
  case isTrue  => exact .same h
  case isFalse =>
    split
    case isTrue  => exact .none
    case isFalse => exact .same h

theorem edgeName (h : s.Extends s') (hn : s.rest.length < n) (hn' : s'.rest.length < n') :
    Outcome Reached (edgeName n s) (edgeName n' s') := by
  induction n generalizing n' s s' with
  | zero => omega
  | succ n hi =>
    cases n' with
    | zero => omega
    | succ n' =>
      refine need_bind h (fun c cs hs => ?_) fun hs x t' hx => ?_
      · split
        case isTrue =>
          refine skipWithFiller_bind h hs fun t t' h' _ _ => ?_
          refine (hi h' (by omega) (by omega)).bind (fun _ _ _ _ _ h => .same h) ?_
          intro _ _ hr _ _ hx
          cases hx
          exact hr
        case isFalse => exact .same h
      · cases hx
        exact (hs ▸ List.suffix_rfl : s'.rest <:+ closing)

theorem wordEdge (h : s.Extends s') (ascii : Bool) :
    Outcome BegunOrEdge (wordEdge ascii s) (wordEdge ascii s') := by
  show Outcome _ ((if s.rest.head? == some '\x7b' then _ else _ : Reader Primitive) s)
    ((if s'.rest.head? == some '\x7b' then _ else _ : Reader Primitive) s')
  rw [h.head?_beq (by decide)]
  split
  case isTrue hb =>
    obtain ⟨cs, hs⟩ := List.head?_eq_some_iff.1 (beq_iff_eq.1 hb)
    refine rest_bind ((skipWithFiller h hs).bind_sure fun _ t t' ht ht' h' => ?_)
    refine need_bind h' (fun d ds hd => ?_) fun hc x u' hx => ?_
    · split
      case isTrue =>
        refine fuel_bind ((edgeName h' (Nat.lt_succ_self _) (Nat.lt_succ_self _)).bind ?_ ?_)
        · intro name u u' _ _ h
          refine ((expect _ h).bind_ends ?_ ?_).mono fun _ _ => .inl
          · exact fun _ => .bind (.lift _) fun _ => .pure _
          · exact fun _ _ _ _ _ h => lift_bind fun _ _ => .same h
        · intro name u' hr x v' hx
          have ⟨_, _, hx, _⟩ := bind_eq_some.1 hx
          cases (expect_of_not_mem hr (by decide)).symm.trans hx
      case isFalse =>
        cases h.eq_closed hs
        cases h'.eq_closed hd
        exact .same (.inl rfl)
    -- The text ends in the filler after the brace, and the edge is one without a name.
    · cases hx
      rw [skipWithFiller_eq] at ht'
      cases ht'
      refine .inr ⟨⟨_, rfl⟩, cs ++ closing, h.rest_eq hs, ?_⟩
      simpa only [h.rest_eq hs, List.tail_cons] using hc
  case isFalse => exact .same h

theorem escape (h : s.Extends s') (hs : s.rest = c :: cs) :
    Outcome BegunOrEdge (escape s) (escape s') := by
  refine (skip h hs).bind_sure fun _ t t' _ _ h => ?_
  refine need_bind h (fun d ds hd => ?_) fun hc x u' hx => ?_
  · refine modes_bind h ?_
    split
    case h_12 =>
      refine (skip h hd).bind_sure fun _ u u' _ _ h => ?_
      split
      case h_9  => exact wordEdge h _
      case h_13 =>
        split
        case isTrue  => exact .same h
        case isFalse => exact .none
      all_goals exact .same h
    case h_1 | h_2 | h_3 => exact (hexEscape h hd _).mono fun _ _ => .inl
    case h_4 | h_5 => exact (namedSet h hd _).mono fun _ _ => .inl
    all_goals exact shorthandSet h hd ..
  · cases hx
    exact .inl (hc ▸ List.suffix_rfl : t'.rest.tail <:+ closing.tail)

end Outcome

end Pattern

end AudioRules
