import AudioRules.Proofs.Pattern.Outcome.Escape

namespace AudioRules

namespace Pattern

open Reader

theorem rangeFrom_gap (g : Gap) (s : Cursor) : rangeFrom (.gap g) s = none := by
  refine Option.eq_none_iff_forall_ne_some.2 fun (p, t) h => ?_
  have ⟨_, _, _, h⟩ := bind_eq_some.1 h
  have ⟨_, _, _, h⟩ := bind_eq_some.1 h
  have ⟨_, _, _, h⟩ := bind_eq_some.1 h
  split at h
  case isTrue => cases h
  case isFalse =>
    have ⟨_, _, _, h⟩ := bind_eq_some.1 h
    cases h

theorem head?_closing (hd : d ≠ ')') (cs : List Char) :
    ((cs ++ closing).head? == some d) = (cs.head? == some d) := by
  cases cs with
  | nil      => simp [closing, hd.symm]
  | cons _ _ => rfl

theorem dropBlanks_closing (cs : List Char) :
    Text.dropBlanks (cs ++ closing) = Text.dropBlanks cs ++ closing := by
  simp only [Text.dropBlanks, List.dropWhile_append]
  split
  case isTrue h =>
    rw [List.isEmpty_iff.1 h]
    rfl
  case isFalse => rfl

theorem head?_of_dropBlanks (h : ∀ c ds, Text.dropBlanks cs = c :: ds → c = '#')
    (hd : cs.head? = some d) : Text.isBlank d ∨ d = '#' := by
  cases cs with
  | nil => cases hd
  | cons c cs =>
    cases hd
    by_cases hb : Text.isBlank d
    case pos => exact .inl hb
    case neg => exact .inr (h d cs (List.dropWhile_cons_of_neg hb))

-- A character that is no blank, no `#` and does not end a group is found alike.
theorem pastBlanks_closing (hb : ¬ Text.isBlank d) (hd : d ≠ '#') (hc : d ≠ ')')
    (cs : List Char) : (pastBlanks (cs ++ closing) == some d) = (pastBlanks cs == some d) := by
  have hn (h : ∀ c ds, Text.dropBlanks cs = c :: ds → c = '#') : (cs.head? == some d) = false :=
    beq_eq_false_iff_ne.2 fun he => (head?_of_dropBlanks h he).elim hb hd
  simp only [pastBlanks, dropBlanks_closing]
  rcases hs : Text.dropBlanks cs with _ | ⟨c, ds⟩
  case nil => simp [closing, hn, hs, hc.symm]
  case cons =>
    by_cases h : c = '#'
    case pos =>
      subst h
      simp only [List.cons_append, dropBlanks_closing]
      cases Text.dropBlanks ds with
      | nil      => simp [closing, hn, hs, hc.symm]
      | cons _ _ => simp
    case neg => simp [h]

theorem namedClass?_closing (m : Modes) (negated : Bool) (cs : List Char) :
    namedClass? m negated (cs ++ closing) =
      (namedClass? m negated cs).map fun (p, ds) => (p, ds ++ closing) := by
  unfold namedClass?
  rw [Text.cutChars?_append_of_not_mem (by decide)]
  rcases Text.cutChars? ':' cs with _ | ⟨name, _ | ⟨d, ds⟩⟩
  case none => rfl
  case some.nil => rfl
  case some.cons =>
    by_cases h : d = ']'
    case pos =>
      subst h
      simp [Function.comp_def]
    case neg => simp [h]

theorem asciiClass?_closing (m : Modes) (cs : List Char) :
    asciiClass? m (cs ++ closing) = (asciiClass? m cs).map fun (p, ds) => (p, ds ++ closing) := by
  rcases cs with _ | ⟨a, _ | ⟨b, cs⟩⟩
  case nil => rfl
  case cons.nil => simp [asciiClass?, closing]
  case cons.cons =>
    by_cases h : a = '[' ∧ b = ':'
    case pos =>
      obtain ⟨rfl, rfl⟩ := h
      rcases cs with _ | ⟨c, cs⟩
      case nil  => exact namedClass?_closing m false []
      case cons =>
        by_cases hc : c = '^'
        case pos =>
          cases hc
          exact namedClass?_closing m true cs
        case neg =>
          simp [asciiClass?, hc]
          exact namedClass?_closing m false (c :: cs)
    case neg =>
      simp [asciiClass?]
      grind

theorem ofChars?_closing (c : Char) (cs : List Char) :
    SetOperator.ofChars? c (cs ++ closing).head? = SetOperator.ofChars? c cs.head? := by
  cases cs with
  | nil      => simp [SetOperator.ofChars?, closing]
  | cons _ _ => rfl

theorem ofChars?_eq_some (h : SetOperator.ofChars? c cs.head? = some o) : ∃ d ds, cs = d :: ds := by
  cases cs with
  | nil       => simp [SetOperator.ofChars?] at h
  | cons d ds => exact ⟨d, ds, rfl⟩

namespace Reader

-- Where something is found it is read, otherwise nothing is.
def Optional (g : Reader (Option α)) : Prop :=
  ∀ s x? t, g s = some (x?, t) →
    match x? with
    | some _ => t.rest <:+ s.rest.tail
    | none   => t = s

theorem Optional.length_lt {g : Reader (Option α)} (hg : Optional g) (h : g s = some (some x, t))
    (hs : s.rest = c :: cs) : t.rest.length < s.rest.length := by
  have := (hg s _ t h).length_le
  simp only [hs, List.tail_cons, List.length_cons] at this ⊢
  omega

theorem Optional.stays {g : Reader (Option α)} (hg : Optional g) (h : g s = some (none, t)) :
    t = s :=
  hg s _ t h

theorem setClass_eq (s : Cursor) : setClass s = match asciiClass? s.modes s.rest with
    | some (p, cs) =>
      if SetPart.isText s.modes p.set then some (some p, { s with rest := cs }) else none
    | none => some (none, s) := by
  show (match asciiClass? s.modes s.rest with
    | some (p, cs) => _
    | none => _ : Reader (Option SetPart)) s = _
  rcases asciiClass? s.modes s.rest with _ | ⟨p, cs⟩
  case none => rfl
  case some =>
    show (if SetPart.isText s.modes p.set then _ else _ : Reader (Option SetPart)) s =
      if _ then _ else _
    split
    case isTrue  => rfl
    case isFalse => rfl

theorem setOperator_eq (hs : s.rest = c :: cs) : setOperator s =
    match SetOperator.ofChars? c cs.head? with
    | some o => some (some o, { s with rest := cs.tail })
    | none   => some (none, s) := by
  rcases s with ⟨rest, m, names, n⟩
  cases hs
  show (match SetOperator.ofChars? c cs.head? with
    | some o => _
    | none => _ : Reader (Option SetOperator)) _ = _
  cases SetOperator.ofChars? c cs.head? with
  | none   => rfl
  | some _ => rfl

theorem optional_setClass : Optional setClass := by
  intro s p? t h
  rw [setClass_eq] at h
  split at h
  case h_1 p cs hc =>
    split at h
    case isTrue =>
      cases h
      exact asciiClass?_suffix hc
    case isFalse => cases h
  case h_2 =>
    cases h
    rfl

theorem optional_setOperator : Optional setOperator := by
  intro s o? t h
  have ⟨c, _, hc, _⟩ := bind_eq_some.1 h
  have ⟨_, cs, hs⟩ := need_eq_some hc
  rw [setOperator_eq hs] at h
  split at h
  case h_1 =>
    cases h
    simpa only [hs, List.tail_cons] using cs.tail_suffix
  case h_2 =>
    cases h
    rfl

end Reader

namespace Outcome

variable {s s' : Cursor}

theorem rangeEnd (h : s.Extends s') (p : Primitive) :
    Outcome Q (rangeEnd p s) (rangeEnd p s') := by
  cases p with
  | literal c byte =>
    refine modes_bind h ?_
    split
    case isTrue  => exact .same h
    case isFalse => exact .none
  | _ => exact .none

theorem setMember (h : s.Extends s') (p : Primitive) :
    Outcome Q (setMember p s) (setMember p s') := by
  cases p with
  | literal c byte => exact (rangeEnd h _).map_sure _
  | set s          => exact .same h
  | gap g          => exact .none

theorem setPrimitive (h : s.Extends s') :
    Outcome BegunOrEdge (setPrimitive s) (setPrimitive s') := by
  refine need_bind h (fun c cs hs => ?_) fun hc x t' hx => ?_
  · split
    case isTrue  => exact escape h hs
    case isFalse => exact (skip h hs).map_sure _
  · cases hx
    exact .inl (hc ▸ List.suffix_rfl : s'.rest.tail <:+ closing.tail)

-- An edge is no member of a set.
theorem setPrimitive_bind {f f' : Primitive → Reader α} (h : s.Extends s')
    (hw : ∀ p, Within closing.tail l (f' p)) (hg : ∀ g t, f' (.gap g) t = Option.none)
    (hf : ∀ p t t', Pattern.setPrimitive s = some (p, t) → Pattern.setPrimitive s' = some (p, t') →
      t.Extends t' → Outcome (Ends l) (f p t) (f' p t')) :
    Outcome (Ends l) ((Pattern.setPrimitive >>= f) s) ((Pattern.setPrimitive >>= f') s') := by
  refine (setPrimitive h).bind hf fun p t' ht x u' hx => ?_
  rcases ht with ht | ⟨⟨g, rfl⟩, _⟩
  case inl => exact hw p t' x u' ht hx
  case inr => cases (hg g t').symm.trans hx

theorem peekPastBlanks_bind {f f' : Option Char → Reader α} (h : s.Extends s')
    (hs : s.rest = c :: cs)
    (hf : ∀ after after', (∀ d, d = ']' ∨ d = '-' → (after' == some d) = (after == some d)) →
      Outcome Q (f after s) (f' after' s')) :
    Outcome Q ((peekPastBlanks >>= f) s) ((peekPastBlanks >>= f') s') := by
  refine hf _ _ fun d hd => ?_
  have hd : ¬ Text.isBlank d ∧ d ≠ '#' ∧ d ≠ ')' := by
    rcases hd with rfl | rfl <;> decide
  rw [h.modes_eq, h.rest_eq hs, hs, List.tail_cons, List.tail_cons]
  split
  case isTrue  => exact pastBlanks_closing hd.1 hd.2.1 hd.2.2 cs
  case isFalse => exact head?_closing hd.2.2 cs

theorem rangeFrom (h : s.Extends s') (first : Primitive) :
    Outcome Reached (rangeFrom first s) (rangeFrom first s') := by
  refine (skipFiller h).bind_sure fun _ t t' _ _ h => need_ends h (fun c cs hs => ?_) ?_
  · refine peekPastBlanks_bind h hs fun after after' hd => ?_
    rw [hd ']' (.inl rfl), hd '-' (.inr rfl)]
    split
    case isTrue => exact setMember h first
    case isFalse =>
      refine (skipWithFiller h hs).bind_sure fun _ _ _ _ _ h =>
        (rangeEnd h first).bind_sure fun first _ _ _ _ h => setPrimitive_bind h ?_ ?_ ?_
      · refine fun last => .bind (.rangeEnd last) fun last => ?_
        split
        case isTrue  => exact .fail
        case isFalse => exact (Within.pure _).weaken closing.tail_suffix
      · exact fun _ _ => rfl
      · refine fun last _ _ _ _ h => (rangeEnd h last).bind_sure fun last _ _ _ _ h => ?_
        split
        case isTrue  => exact .none
        case isFalse => exact .same h
  · exact .bind .peekPastBlanks fun _ => .setMember first

theorem setRange (h : s.Extends s') : Outcome Reached (setRange s) (setRange s') := by
  refine setPrimitive_bind h ?_ rangeFrom_gap ?_
  · exact fun p => (Within.rangeFrom p).weaken closing.tail_suffix
  · exact fun p t t' _ _ h => rangeFrom h p

theorem hyphens (h : s.Extends s') (hn : s.rest.length < n) (hn' : s'.rest.length < n') :
    Outcome Reached (hyphens n s) (hyphens n' s') := by
  induction n generalizing n' s s' with
  | zero => omega
  | succ n hi =>
    cases n' with
    | zero => omega
    | succ n' =>
      refine need_ends h (fun c cs hs => ?_) ?_
      · split
        case isTrue =>
          exact skipWithFiller_bind h hs fun t t' h' _ _ =>
            (hi h' (by omega) (by omega)).map _
        case isFalse => exact .same h
      · exact .pure []

theorem leading (h : s.Extends s') : Outcome Reached (leading s) (leading s') := by
  refine fuel_bind ((hyphens h (Nat.lt_succ_self _) (Nat.lt_succ_self _)).bind_ends
    (fun ps => ?_) fun ps t t' _ _ h => need_ends h (fun c cs hs => ?_) ?_)
  · refine .bind .need fun c => ?_
    split
    case isTrue  => exact .bind Within.skipWithFiller.untail fun _ => .pure _
    case isFalse => exact .pure _
  · split
    case isTrue  => exact (skipWithFiller h hs).map_sure _
    case isFalse => exact .same h
  · split
    case isTrue  => exact .bind Within.skipWithFiller.untail fun _ => .pure _
    case isFalse => exact .pure _

theorem setOpening (h : s.Extends s') (hs : s.rest = c :: cs) :
    Outcome Reached (setOpening s) (setOpening s') := by
  have last (negated : Bool) {t t' : Cursor} (h : t.Extends t') :
      Outcome Reached ((Pattern.leading >>= fun ps => Pure.pure (negated, ps)) t)
        ((Pattern.leading >>= fun ps => Pure.pure (negated, ps)) t') :=
    (leading h).map _
  refine (skipWithFiller h hs).bind_sure fun _ t t' _ _ h => need_ends h (fun d ds hd => ?_) ?_
  · split
    case isTrue  => exact (skipWithFiller h hd).bind_sure fun _ _ _ _ _ h => last true h
    case isFalse => exact last false h
  · exact .bind .leading fun _ => .pure _

theorem setClass (h : s.Extends s') (hs : s.rest = c :: cs) :
    Outcome Q (setClass s) (setClass s') := by
  cases h.eq_closed hs
  rw [setClass_eq, setClass_eq, Cursor.closed, asciiClass?_closing]
  rcases asciiClass? s.modes s.rest with _ | ⟨p, ds⟩
  case none => exact .same h
  case some =>
    show Outcome _ (if _ then _ else _) (if _ then _ else _)
    split
    case isTrue  => exact .same (.inl rfl)
    case isFalse => exact .none

theorem setOperator (h : s.Extends s') (hs : s.rest = c :: cs) :
    Outcome Q (setOperator s) (setOperator s') := by
  rw [setOperator_eq hs, setOperator_eq (h.rest_eq hs), ofChars?_closing]
  rcases ho : SetOperator.ofChars? c cs.head? with _ | o
  case none => exact .same h
  case some =>
    have ⟨d, ds, hd⟩ := ofChars?_eq_some ho
    cases h.eq_closed hs
    exact .same (.inl (by simp [Cursor.closed, hd]))

theorem optional_bind {g : Reader (Option α)} {f f' : Option α → Reader β} (hg : Optional g)
    (h : s.Extends s') (hs : s.rest = c :: cs) (ho : Outcome Never (g s) (g s'))
    (hsome : ∀ x t t', t.Extends t' → t.rest.length < s.rest.length →
      t'.rest.length < s'.rest.length → Outcome Q (f (some x) t) (f' (some x) t'))
    (hnone : Outcome Q (f Option.none s) (f' Option.none s')) :
    Outcome Q ((g >>= f) s) ((g >>= f') s') := by
  refine ho.bind_sure fun x? t t' ht ht' he => ?_
  cases x? with
  | some x => exact hsome x t t' he (hg.length_lt ht hs) (hg.length_lt ht' (h.rest_eq hs))
  | none =>
    cases hg.stays ht
    cases hg.stays ht'
    exact hnone

theorem setBody (h : s.Extends s') (hn : s.rest.length < n) (hn' : s'.rest.length < n')
    (negated : Bool) (left : Option (SetPart × SetOperator)) (members : List SetPart) :
    Outcome Begun (setBody n negated left members s) (setBody n' negated left members s') := by
  induction n generalizing n' s s' negated left members with
  | zero => omega
  | succ n hi =>
    cases n' with
    | zero => omega
    | succ n' =>
      refine (skipFiller h).bind_sure fun _ t t' ht ht' h => ?_
      have hl := Within.skipFiller.length_le ht
      have hl' := Within.skipFiller.length_le ht'
      refine need_ends h (fun c cs hs => modes_bind h ?_) (.bind .modes fun m => ?_)
      · split
        case isTrue =>
          refine optional_bind optional_setClass h hs (setClass h hs) ?_ ?_
          · exact fun p u u' he _ _ => hi he (by omega) (by omega) _ _ _
          -- a set within the set
          · refine (setOpening h hs).bind_ends (fun (inner, opening) => ?_)
              fun (inner, opening) u u' hu hu' he => ?_
            · exact .bind (.setBody _ _ _ _) fun _ => (Within.setBody _ _ _ _).untail
            · have hu := Within.setOpening.length_lt hu hs
              have hu' := Within.setOpening.length_lt hu' (h.rest_eq hs)
              refine (hi he (by omega) (by omega) _ _ _).bind_ends ?_ ?_
              · exact fun _ => (Within.setBody _ _ _ _).untail
              · intro p v v' hv hv' he
                have hv := (Within.setBody _ _ _ _).untail.length_le hv
                have hv' := (Within.setBody _ _ _ _).untail.length_le hv'
                exact hi he (by omega) (by omega) _ _ _
        case isFalse =>
          split
          case isTrue => exact (skip h hs).bind_sure fun _ _ _ _ _ h => lift h _
          case isFalse =>
            refine optional_bind optional_setOperator h hs (setOperator h hs) ?_ ?_
            · exact fun o u u' he _ _ => hi he (by omega) (by omega) _ _ _
            · refine (setRange h).bind_ends (fun _ => .setBody _ _ _ _) fun p u u' hu hu' he => ?_
              have hu := Within.setRange.length_lt hu hs
              have hu' := Within.setRange.length_lt hu' (h.rest_eq hs)
              exact hi he (by omega) (by omega) _ _ _
      · refine .bind .setOperator fun o? => ?_
        split
        case h_1 => exact .setBody _ _ _ _
        case h_2 => exact .bind .setRange fun _ => (Within.setBody _ _ _ _).untail

theorem bracketSet (h : s.Extends s') (hs : s.rest = c :: cs) :
    Outcome Begun (bracketSet s) (bracketSet s') := by
  refine fuel_bind ((setOpening h hs).bind_ends ?_ ?_)
  · exact fun _ => .setBody _ _ _ _
  · intro (negated, opening) t t' ht ht' he
    have ht := Within.setOpening.length_lt ht hs
    have ht' := Within.setOpening.length_lt ht' (h.rest_eq hs)
    exact setBody he (by omega) (by omega) _ _ _

end Outcome

end Pattern

end AudioRules
