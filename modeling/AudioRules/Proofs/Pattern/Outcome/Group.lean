import AudioRules.Proofs.Pattern.Outcome.Bracket

namespace AudioRules

namespace Pattern

open Reader

theorem nameStart?_closing (cs : List Char) :
    nameStart? (cs ++ closing) = (nameStart? cs).map (· ++ closing) := by
  rcases cs with _ | ⟨c, cs⟩
  case nil => rfl
  case cons =>
    by_cases hc : c = '<'
    case pos =>
      subst hc
      rfl
    case neg =>
      by_cases hp : c = 'P'
      case pos =>
        subst hp
        rcases cs with _ | ⟨d, cs⟩
        case nil => rfl
        case cons =>
          by_cases hd : d = '<'
          case pos =>
            subst hd
            rfl
          case neg => simp [nameStart?, hd]
      case neg => simp [nameStart?, hc, hp]

theorem Modes.read_closing (m : Modes) (seen : List Char) (on : Bool) (cs : List Char) :
    (∃ m' letters stop ds, m.read seen on cs = some (m', letters, stop, ds) ∧
      m.read seen on (cs ++ closing) = some (m', letters, stop, ds ++ closing)) ∨
    m.read seen on cs = none ∧ (m.read seen on (cs ++ closing) = none ∨
      ∃ m' letters, m.read seen on (cs ++ closing) = some (m', letters, ')', closing.tail)) := by
  induction cs generalizing m seen on with
  | nil =>
    refine .inr ⟨rfl, ?_⟩
    simp [read, closing]
    grind
  | cons c cs hi =>
    simp only [List.cons_append, read]
    split
    case isTrue =>
      split
      case isTrue => exact .inr ⟨rfl, .inl rfl⟩
      case isFalse => exact .inl ⟨_, _, _, _, rfl, rfl⟩
    case isFalse =>
      split
      case isTrue => exact .inr ⟨rfl, .inl rfl⟩
      case isFalse =>
        split
        case isTrue => exact hi ..
        case isFalse =>
          split
          case h_1 => exact hi ..
          case h_2 => exact .inr ⟨rfl, .inl rfl⟩

theorem counts_of_stuck (hs : Stuck s) : counts s = none := by
  obtain ⟨cs, hc, hf⟩ := hs
  show (skipWithFiller s).bind _ = none
  rw [skipWithFiller_eq, hc, List.tail_cons, hf]
  rfl

theorem extended_of_stuck (hs : Stuck s) (inner : Reader Piece) (pieces : List Piece) :
    extended inner '\x7b' pieces s = none := by
  cases pieces with
  | nil => rfl
  | cons p ps =>
    show (counts s).bind _ = none
    rw [counts_of_stuck hs]
    rfl

theorem group_of_stuck (hs : Stuck s) (n : Nat) (branches pieces : List Piece) :
    group n branches pieces s = none := by
  cases n with
  | zero => rfl
  | succ n =>
    obtain ⟨cs, hc, _⟩ := id hs
    have hf : skipFiller s = some ((), s) := by
      have hd : dropFiller false ('\x7b' :: cs) = '\x7b' :: cs := rfl
      rw [skipFiller_eq, hc, hd, ite_self, ← hc]
    show (skipFiller s).bind _ = none
    rw [hf]
    rcases s with ⟨rest, m, names, k⟩
    cases hc
    show (extended (group n [] []) '\x7b' pieces _).bind _ = none
    rw [extended_of_stuck hs]
    rfl

namespace Outcome

variable {s s' : Cursor}

theorem greedy (h : s.Extends s') : Outcome Q (greedy s) (greedy s') := by
  refine modes_bind h (peek_bind ?_)
  rw [h.head?_beq (by decide)]
  split
  case isTrue hq =>
    obtain ⟨cs, hs⟩ := List.head?_eq_some_iff.1 (beq_iff_eq.1 hq)
    exact (skip h hs).map_sure _
  case isFalse => exact .same h

theorem digits (h : s.Extends s') (hn : s.rest.length < n) (hn' : s'.rest.length < n') :
    Outcome Never (digits n s) (digits n' s') := by
  induction n generalizing n' s s' with
  | zero => omega
  | succ n hi =>
    cases n' with
    | zero => omega
    | succ n' =>
      refine peek_bind ?_
      rcases hs : s.rest with _ | ⟨c, cs⟩
      case nil =>
        rcases h.rest_of_nil hs with hr | hr <;> rw [hr] <;> exact .same h
      case cons =>
        rw [h.rest_eq hs]
        show Outcome _ ((if _ then _ else _ : Reader _) s) ((if _ then _ else _ : Reader _) s')
        split
        case isTrue =>
          exact skipWithFiller_bind h hs fun t t' h' _ _ =>
            (hi h' (by omega) (by omega)).map_sure _
        case isFalse => exact .same h

theorem skipBlanks (h : s.Extends s') : Outcome Q (skipBlanks s) (skipBlanks s') := by
  refine rest_bind ?_
  rcases h with rfl | ⟨hs, rfl⟩
  case inl =>
    rw [Cursor.closed, dropBlanks_closing]
    exact .same (.inl rfl)
  case inr =>
    rw [hs]
    exact .same (.inr ⟨rfl, rfl⟩)

theorem count (h : s.Extends s') : Outcome Q (count s) (count s') :=
  (skipBlanks h).bind_sure fun _ _ _ _ _ h => fuel_bind <|
    (digits h (Nat.lt_succ_self _) (Nat.lt_succ_self _)).bind_sure fun _ _ _ _ _ h =>
      (skipBlanks h).bind_sure fun _ _ _ _ _ h => lift h _

theorem countsEnd (h : s.Extends s') (least : Nat) :
    Outcome Reached (countsEnd least s) (countsEnd least s') := by
  refine need_ends h (fun c cs hs => ?_) (.pure _)
  split
  case isTrue =>
    refine (skipWithFiller h hs).bind_sure fun _ _ _ _ _ h => need_ends h (fun d ds hd => ?_) ?_
    · split
      case isTrue  => exact .same h
      case isFalse => exact (count h).map_sure _
    · exact .bind .count fun _ => .pure _
  case isFalse => exact .same h

theorem counts (h : s.Extends s') (hs : s.rest = c :: cs) :
    Outcome Begun (counts s) (counts s') := by
  refine (skipWithFiller h hs).bind_sure fun _ _ _ _ _ h => ?_
  refine (count h).bind_sure fun least _ _ _ _ h => (countsEnd h least).bind ?_ ?_
  · exact fun most _ _ _ _ h => (expect _ h).bind_ends
      (fun _ => .bind .skipFiller fun _ => .pure _) fun _ _ _ _ _ h =>
        (skipFiller h).map_sure _
  · intro most t' ht x u' hx
    have ⟨_, _, hx, _⟩ := bind_eq_some.1 hx
    cases (expect_of_not_mem ht (by decide)).symm.trans hx

theorem groupName (h : s.Extends s') : Outcome Q (groupName s) (groupName s') := by
  rcases h with rfl | ⟨hs, rfl⟩
  case inl =>
    simp only [Pattern.groupName, Cursor.closed]
    rw [Text.cutChars?_append_of_not_mem (by decide)]
    rcases Text.cutChars? '>' s.rest with _ | ⟨name, cs⟩
    case none => exact .none
    case some =>
      show Outcome _ (if isGroupName name && !s.names.contains name then _ else _)
        (if isGroupName name && !s.names.contains name then _ else _)
      cases isGroupName name && !s.names.contains name with
      | true  => exact .same (.inl rfl)
      | false => exact .none
  case inr =>
    simp only [Pattern.groupName, hs]
    exact .none

theorem capture (h : s.Extends s') : Outcome Q (capture s) (capture s') := by
  rcases h with rfl | ⟨hs, rfl⟩
  case inl => exact .same (.inl rfl)
  case inr => exact .same (.inr ⟨hs, rfl⟩)

theorem modeChange (h : s.Extends s') : Outcome Begun (modeChange s) (modeChange s') := by
  refine modes_bind h (rest_bind ?_)
  rcases h with rfl | ⟨hs, rfl⟩
  case inl =>
    rw [Cursor.closed]
    rcases Modes.read_closing s.modes [] true s.rest with
      ⟨m, letters, stop, ds, h, h'⟩ | ⟨h, h' | ⟨m, letters, h'⟩⟩
    case inl =>
      rw [h, h']
      show Outcome _ ((if stop == ':' then _ else if letters.isEmpty then _ else _ : Reader _) _)
        ((if stop == ':' then _ else if letters.isEmpty then _ else _ : Reader _) _)
      split
      case isTrue => exact .same (.inl rfl)
      case isFalse =>
        split
        case isTrue  => exact .none
        case isFalse => exact .same (.inl rfl)
    case inr.inl =>
      rw [h, h']
      exact .none
    case inr.inr =>
      rw [h, h']
      show Outcome _ Option.none ((if letters.isEmpty then _ else _ : Reader _) _)
      split
      case isTrue  => exact .none
      case isFalse => exact .late List.suffix_rfl
  case inr =>
    rw [hs]
    exact .none

theorem opening (h : s.Extends s') : Outcome Begun (opening s) (opening s') := by
  refine (skipFiller h).bind_sure fun _ t t' _ _ h => peek_bind ?_
  rw [h.head?_beq (by decide)]
  split
  case isTrue hq =>
    obtain ⟨cs, hs⟩ := List.head?_eq_some_iff.1 (beq_iff_eq.1 hq)
    refine (skip h hs).bind_sure fun _ u u' _ _ h => rest_bind ?_
    rcases h with rfl | ⟨hu, rfl⟩
    case inl =>
      rw [Cursor.closed, nameStart?_closing]
      cases nameStart? u.rest with
      | none    => exact modeChange (.inl rfl)
      | some ds =>
        have h : Cursor.Extends { u with rest := ds } { u with rest := ds ++ closing } := .inl rfl
        exact (groupName h).bind_sure fun _ _ _ _ _ h => capture h
    case inr =>
      rw [hu]
      exact modeChange (.inr ⟨hu, rfl⟩)
  case isFalse => exact capture h

theorem repetition (h : s.Extends s') (hs : s.rest = c :: cs) :
    Outcome Begun (repetition c s) (repetition c s') := by
  unfold Pattern.repetition
  split
  case h_4 => exact counts h hs
  all_goals exact (skip h hs).map_sure _

theorem part (h : s.Extends s') (hs : s.rest = c :: cs) :
    Outcome BegunOrStuck (part c s) (part c s') := by
  refine modes_bind h ?_
  split
  case h_1 =>
    refine .mono (P := Begun) ?_ fun _ _ => Or.inl
    exact (bracketSet h hs).map _
  case h_2 =>
    refine (escape h hs).bind (fun _ _ _ _ _ h => lift h _) fun p t' ht q u' hx => ?_
    have hr : u' = t' := by
      simp only [Reader.lift, Option.map_eq_some_iff] at hx
      obtain ⟨_, _, hx⟩ := hx
      cases hx
      rfl
    exact hr ▸ ht.imp_right And.right
  case h_3 => exact (skip h hs).bind_sure fun _ _ _ _ _ h => lift_bind fun _ _ => .same h
  all_goals exact (skip h hs).map_sure _

theorem grouped {inner inner' : Reader Piece} (h : s.Extends s') (hs : s.rest = c :: cs)
    (hw : ∀ l, Within l l inner')
    (hi : ∀ t t', t.Extends t' → t.rest.length < s.rest.length → t'.rest.length < s'.rest.length →
      Outcome Begun (inner t) (inner' t')) :
    Outcome Begun (grouped inner s) (grouped inner' s') := by
  refine skip_bind h hs fun t t' h _ _ => modes_bind h ?_
  have last (index : Option Nat) (p : Piece) : Within closing.tail closing.tail
      (Reader.expect ')' >>= fun _ => Reader.setModes t.modes >>= fun _ =>
        pure (p.grouped index)) :=
    .bind (Within.expect _).untail fun _ => .bind (.setModes _) fun _ => .pure _
  refine (opening h).bind_ends (fun o => ?_) fun o u u' hu hu' h => ?_
  · cases o with
    | directive => exact .pure _
    | inner index => exact .bind (hw _) (last index)
  · have hu := Within.opening.length_le hu
    have hu' := Within.opening.length_le hu'
    cases o with
    | directive => exact .same h
    | inner index =>
      refine (hi u u' h (by omega) (by omega)).bind_ends (last index) fun p _ _ _ _ h => ?_
      exact (expect _ h).bind_ends (fun _ => .bind (.setModes _) fun _ => .pure _)
        fun _ _ _ _ _ h => .same h.setModes

theorem repeated (h : s.Extends s') (hs : s.rest = c :: cs) (pieces : List Piece) :
    Outcome Begun (repeated c pieces s) (repeated c pieces s') := by
  cases pieces with
  | nil      => exact .none
  | cons p ps =>
    refine (repetition h hs).bind_ends (fun _ => ?_) fun (least, most) _ _ _ _ h => ?_
    · exact .bind .greedy fun _ => .bind (.lift _) fun _ => .pure _
    · exact (greedy h).bind_sure fun _ _ _ _ _ h => lift_bind fun _ _ => .same h

theorem extended {inner inner' : Reader Piece} (h : s.Extends s') (hs : s.rest = c :: cs)
    (hw : ∀ l, Within l l inner')
    (hi : ∀ t t', t.Extends t' → t.rest.length < s.rest.length → t'.rest.length < s'.rest.length →
      Outcome Begun (inner t) (inner' t')) (pieces : List Piece) :
    Outcome BegunOrStuck (extended inner c pieces s) (extended inner' c pieces s') := by
  unfold Pattern.extended
  split
  case isTrue =>
    refine .mono (P := Begun) ?_ fun _ _ => Or.inl
    exact (grouped h hs hw hi).map _
  case isFalse =>
    split
    case isTrue  => exact (repeated h hs pieces).mono fun _ _ => Or.inl
    case isFalse =>
      refine (part h hs).bind (fun _ _ _ _ _ h => .same h) fun p t' ht q u' hx => ?_
      cases hx
      exact ht

-- With fuel for what is left on either side. What is read late has taken the parenthesis that closes
-- the text, and goes on from there.
theorem group (h : s.Extends s') (hn : s.rest.length < n) (hn' : s'.rest.length < n')
    (branches pieces : List Piece) :
    Outcome Begun (group n branches pieces s) (group n' branches pieces s') := by
  induction n generalizing n' s s' branches pieces with
  | zero => omega
  | succ n hi =>
    cases n' with
    | zero => omega
    | succ n' =>
      refine (skipFiller h).bind_sure fun _ t t' ht ht' h => peek_bind ?_
      have hl := Within.skipFiller.length_le ht
      have hl' := Within.skipFiller.length_le ht'
      rcases hs : t.rest with _ | ⟨c, cs⟩
      case nil =>
        rcases h.rest_of_nil hs with hr | hr <;> rw [hr] <;> exact .same h
      case cons =>
        rw [h.rest_eq hs, List.head?_cons, List.head?_cons]
        split
        case isTrue => exact .same h
        case isFalse =>
          split
          case isTrue =>
            exact skip_bind h hs fun u u' he _ _ => hi he (by omega) (by omega) _ _
          case isFalse =>
            have hw (n : Nat) (l : List Char) :
                Within l l.tail (Pattern.extended (Pattern.group n [] []) c pieces) :=
              .extended (fun _ => .group n [] []) c pieces
            have he := extended h hs (fun _ => .group n' [] [])
              (fun u u' he _ _ => hi he (by omega) (by omega) [] []) pieces
            refine need_cons_bind h hs
              (he.bind (fun ps u u' hu hu' he => ?_) fun ps u' hq p v' hx => ?_)
            · have hu := (hw n _).length_lt hu hs
              have hu' := (hw n' _).length_lt hu' (h.rest_eq hs)
              exact hi he (by omega) (by omega) branches ps
            · rcases hq with hq | hq
              case inl => exact Within.group n' branches ps u' p v' hq hx
              -- The brace after the edge would have to begin a repetition.
              case inr => cases (group_of_stuck hq n' branches ps).symm.trans hx

end Outcome

end Pattern

end AudioRules
