import AudioRules.Proofs.Pattern.Rest

namespace AudioRules

namespace Pattern

-- What stands after the text.
def closing : List Char := [')', '$']

namespace Cursor

def closed (s : Cursor) : Cursor := { s with rest := s.rest ++ closing }

-- Where `s` is in a text, `s'` is in the text with what is closing it. A comment at the end of the
-- text goes on over that, and then nothing is left of either.
def Extends (s s' : Cursor) : Prop := s' = s.closed ∨ s.rest = [] ∧ s' = s

namespace Extends

variable {s s' : Cursor}

theorem modes_eq (h : s.Extends s') : s'.modes = s.modes := by
  rcases h with rfl | ⟨_, rfl⟩
  case inl => rfl
  case inr => rfl

theorem setModes (h : s.Extends s') :
    Extends { s with modes := m } { s' with modes := m } := by
  rcases h with rfl | ⟨hs, rfl⟩
  case inl => exact .inl rfl
  case inr => exact .inr ⟨hs, rfl⟩

theorem eq_closed (h : s.Extends s') (hs : s.rest = c :: cs) : s' = s.closed := by
  rcases h with h | ⟨h, _⟩
  case inl => exact h
  case inr => cases hs.symm.trans h

theorem rest_eq (h : s.Extends s') (hs : s.rest = c :: cs) : s'.rest = c :: (cs ++ closing) := by
  rw [h.eq_closed hs, closed, hs, List.cons_append]

theorem rest_of_nil (h : s.Extends s') (hs : s.rest = []) : s'.rest = closing ∨ s'.rest = [] := by
  rcases h with rfl | ⟨_, rfl⟩
  case inl => exact .inl (by rw [closed, hs, List.nil_append])
  case inr => exact .inr hs

theorem head?_beq (h : s.Extends s') (hc : c ≠ ')') :
    (s'.rest.head? == some c) = (s.rest.head? == some c) := by
  rcases h with rfl | ⟨_, rfl⟩
  case inl =>
    cases hs : s.rest with
    | nil      => simp [Cursor.closed, closing, hs, hc.symm]
    | cons _ _ => simp [Cursor.closed, hs]
  case inr => rfl

end Extends

end Cursor

namespace Reader

theorem skipFiller_eq (s : Cursor) : skipFiller s = some ((), { s with
    rest := if s.modes.verbose then dropFiller false s.rest else s.rest }) := by
  show (if s.modes.verbose then rest >>= fun cs => setRest (dropFiller false cs)
    else pure () : Reader Unit) s = _
  split <;> rfl

theorem skipWithFiller_eq (s : Cursor) : skipWithFiller s = some ((), { s with
    rest := if s.modes.verbose then dropFiller false s.rest.tail else s.rest.tail }) :=
  skipFiller_eq { s with rest := s.rest.tail }

theorem expect_of_not_mem (hs : s.rest <:+ l) (hc : c ∉ l) : expect c s = none := by
  rcases s with ⟨_ | ⟨d, ds⟩, _, _, _⟩
  case nil => rfl
  case cons =>
    have hd : d ∈ l := hs.subset (List.mem_cons_self ..)
    have hd : (d == c) = false := by
      simp only [beq_eq_false_iff_ne]
      rintro rfl
      exact hc hd
    show (if d == c then skip else fail : Reader Unit) _ = none
    rw [hd]
    rfl

end Reader

-- What has been read of a text alone, and what of the text with what is closing it: the same, or
-- nothing, or `Q` holds of what was read with the help of what is closing the text.
inductive Outcome (Q : α → Cursor → Prop) : Option (α × Cursor) → Option (α × Cursor) → Prop
  | same (h : s.Extends s') : Outcome Q (some (x, s)) (some (x, s'))
  | none : Outcome Q none none
  | late (h : Q x s') : Outcome Q none (some (x, s'))

-- What is left is within `l`.
def Ends (l : List Char) : α → Cursor → Prop := fun _ s => s.rest <:+ l

-- What is closing the text has been reached, or has been begun.
abbrev Reached : α → Cursor → Prop := Ends closing

abbrev Begun : α → Cursor → Prop := Ends closing.tail

-- Nothing has been read with that help.
def Never : α → Cursor → Prop := fun _ _ => False

namespace Outcome

open Reader

variable {s s' : Cursor}

theorem mono (h : Outcome P r r') (hq : ∀ x s', P x s' → Q x s') : Outcome Q r r' := by
  cases h with
  | same h => exact .same h
  | none   => exact .none
  | late h => exact .late (hq _ _ h)

-- Whatever is read after something late is late as well.
theorem bind {g g' : Reader α} {f f' : α → Reader β} (h : Outcome P (g s) (g' s'))
    (hf : ∀ x t t', g s = some (x, t) → g' s' = some (x, t') → t.Extends t' →
      Outcome Q (f x t) (f' x t'))
    (hq : ∀ x t', P x t' → ∀ y u', f' x t' = some (y, u') → Q y u') :
    Outcome Q ((g >>= f) s) ((g' >>= f') s') := by
  show Outcome Q ((g s).bind _) ((g' s').bind _)
  generalize hr : g s = r at h ⊢
  generalize hr' : g' s' = r' at h ⊢
  cases h with
  | same h => exact hf _ _ _ hr hr' h
  | none   => exact .none
  | @late x t' h =>
    show Outcome Q .none (f' x t')
    generalize hy : f' x t' = y?
    cases y? with
    | none => exact .none
    | some y => exact .late (hq x t' h _ _ hy)

theorem bind_sure {g g' : Reader α} {f f' : α → Reader β} (h : Outcome Never (g s) (g' s'))
    (hf : ∀ x t t', g s = some (x, t) → g' s' = some (x, t') → t.Extends t' →
      Outcome Q (f x t) (f' x t')) : Outcome Q ((g >>= f) s) ((g' >>= f') s') :=
  h.bind hf fun _ _ => False.elim

-- Where it is late is kept by the rest going forward.
theorem bind_ends {g g' : Reader α} {f f' : α → Reader β} (h : Outcome (Ends l) (g s) (g' s'))
    (hw : ∀ x, Within l l' (f' x))
    (hf : ∀ x t t', g s = some (x, t) → g' s' = some (x, t') → t.Extends t' →
      Outcome (Ends l') (f x t) (f' x t')) : Outcome (Ends l') ((g >>= f) s) ((g' >>= f') s') :=
  h.bind hf fun x t' ht y u' hy => hw x t' y u' ht hy

theorem map {g g' : Reader α} (h : Outcome (Ends l) (g s) (g' s')) (f : α → β) :
    Outcome (Ends l) ((g >>= fun x => pure (f x)) s) ((g' >>= fun x => pure (f x)) s') :=
  h.bind_ends (fun _ => .pure _) fun _ _ _ _ _ h => .same h

theorem map_sure {g g' : Reader α} (h : Outcome Never (g s) (g' s')) (f : α → β) :
    Outcome Q ((g >>= fun x => pure (f x)) s) ((g' >>= fun x => pure (f x)) s') :=
  h.bind_sure fun _ _ _ _ _ h => .same h

theorem modes_bind {f f' : Modes → Reader α} (h : s.Extends s')
    (hf : Outcome Q (f s.modes s) (f' s.modes s')) :
    Outcome Q ((modes >>= f) s) ((modes >>= f') s') := by
  show Outcome Q (f s.modes s) (f' s'.modes s')
  rwa [h.modes_eq]

theorem fuel_bind {f f' : Nat → Reader α}
    (hf : Outcome Q (f (s.rest.length + 1) s) (f' (s'.rest.length + 1) s')) :
    Outcome Q ((fuel >>= f) s) ((fuel >>= f') s') := hf

theorem rest_bind {f f' : List Char → Reader α} (hf : Outcome Q (f s.rest s) (f' s'.rest s')) :
    Outcome Q ((rest >>= f) s) ((rest >>= f') s') := hf

theorem peek_bind {f f' : Option Char → Reader α}
    (hf : Outcome Q (f s.rest.head? s) (f' s'.rest.head? s')) :
    Outcome Q ((peek >>= f) s) ((peek >>= f') s') := hf

theorem lift (h : s.Extends s') (x? : Option α) :
    Outcome Q (Reader.lift x? s) (Reader.lift x? s') := by
  cases x? with
  | none   => exact .none
  | some x => exact .same h

theorem lift_bind {x? : Option α} {f f' : α → Reader β}
    (hf : ∀ x, x? = some x → Outcome Q (f x s) (f' x s')) :
    Outcome Q ((Reader.lift x? >>= f) s) ((Reader.lift x? >>= f') s') := by
  cases x? with
  | none   => exact .none
  | some x => exact hf x rfl

theorem need_cons_bind {f k : Char → Reader α} (h : s.Extends s') (hs : s.rest = c :: cs)
    (hf : Outcome Q (f c s) (k c s')) : Outcome Q ((need >>= f) s) ((need >>= k) s') := by
  cases h.eq_closed hs
  rcases s with ⟨rest, m, names, n⟩
  cases hs
  exact hf

-- A character is next in the text, or a closing parenthesis after it, or nothing at all.
theorem need_bind {f k : Char → Reader α} (h : s.Extends s')
    (hf : ∀ c cs, s.rest = c :: cs → Outcome Q (f c s) (k c s'))
    (hq : s'.rest = closing → ∀ x t', k ')' s' = some (x, t') → Q x t') :
    Outcome Q ((need >>= f) s) ((need >>= k) s') := by
  cases hs : s.rest with
  | cons c cs => exact need_cons_bind h hs (hf c cs hs)
  | nil =>
    rcases s with ⟨rest, m, names, n⟩
    cases hs
    rcases h with rfl | ⟨_, rfl⟩
    case inl =>
      show Outcome Q .none (k ')' _)
      generalize hx : k ')' _ = x?
      cases x? with
      | none   => exact .none
      | some x => exact .late (hq rfl _ _ hx)
    case inr => exact .none

theorem need_ends {f k : Char → Reader α} (h : s.Extends s')
    (hf : ∀ c cs, s.rest = c :: cs → Outcome (Ends l) (f c s) (k c s'))
    (hw : Within closing l (k ')')) : Outcome (Ends l) ((need >>= f) s) ((need >>= k) s') :=
  need_bind h hf fun hs x t' hx => hw s' x t' (hs ▸ List.suffix_rfl) hx

theorem skip (h : s.Extends s') (hs : s.rest = c :: cs) : Outcome Q (skip s) (skip s') := by
  cases h.eq_closed hs
  refine .same (.inl ?_)
  simp [Cursor.closed, hs]

theorem dropFiller_closing (inComment : Bool) (cs : List Char) :
    dropFiller inComment (cs ++ closing) = dropFiller inComment cs ++ closing ∨
      dropFiller inComment cs = [] ∧ dropFiller inComment (cs ++ closing) = [] := by
  induction cs generalizing inComment with
  | nil =>
    cases inComment with
    | false => exact .inl rfl
    | true  => exact .inr ⟨rfl, rfl⟩
  | cons c cs hi =>
    simp only [List.cons_append, dropFiller]
    split
    case isTrue => exact hi _
    case isFalse =>
      split
      case isTrue => exact hi _
      case isFalse =>
        split
        case isTrue  => exact hi _
        case isFalse => exact .inl rfl

theorem skipFiller (h : s.Extends s') : Outcome Q (skipFiller s) (skipFiller s') := by
  refine modes_bind h ?_
  split
  case isTrue =>
    rcases h with rfl | ⟨hs, rfl⟩
    case inl =>
      rcases dropFiller_closing false s.rest with h | ⟨h, h'⟩
      case inl => exact .same (.inl (by simp [Cursor.closed, h]))
      case inr => exact .same (.inr ⟨h, by simp [Cursor.closed, h, h']⟩)
    case inr => exact .same (.inr ⟨by simp [hs, dropFiller], rfl⟩)
  case isFalse => exact .same h

theorem skipWithFiller (h : s.Extends s') (hs : s.rest = c :: cs) :
    Outcome Q (skipWithFiller s) (skipWithFiller s') :=
  (skip h hs).bind_sure fun _ _ _ _ _ h => skipFiller h

-- There is less left on both sides, so that what goes on from there has the fuel.
theorem skip_bind {f f' : Reader α} (h : s.Extends s') (hs : s.rest = c :: cs)
    (hf : ∀ t t', t.Extends t' → t.rest.length < s.rest.length → t'.rest.length < s'.rest.length →
      Outcome Q (f t) (f' t')) :
    Outcome Q ((Reader.skip >>= fun _ => f) s) ((Reader.skip >>= fun _ => f') s') :=
  (skip h hs).bind_sure fun _ t t' ht ht' he =>
    hf t t' he (Within.skip.length_lt ht hs) (Within.skip.length_lt ht' (h.rest_eq hs))

theorem skipWithFiller_bind {f f' : Reader α} (h : s.Extends s') (hs : s.rest = c :: cs)
    (hf : ∀ t t', t.Extends t' → t.rest.length < s.rest.length → t'.rest.length < s'.rest.length →
      Outcome Q (f t) (f' t')) :
    Outcome Q ((Reader.skipWithFiller >>= fun _ => f) s)
      ((Reader.skipWithFiller >>= fun _ => f') s') :=
  (skipWithFiller h hs).bind_sure fun _ t t' ht ht' he =>
    hf t t' he (Within.skipWithFiller.length_lt ht hs)
      (Within.skipWithFiller.length_lt ht' (h.rest_eq hs))

theorem expect (c : Char) (h : s.Extends s') : Outcome Begun (expect c s) (expect c s') := by
  refine need_ends h (fun d cs hs => ?_) ?_
  · split
    case isTrue  => exact skip h hs
    case isFalse => exact .none
  · split
    case isTrue  => exact .skip
    case isFalse => exact .fail

end Outcome

end Pattern

end AudioRules
