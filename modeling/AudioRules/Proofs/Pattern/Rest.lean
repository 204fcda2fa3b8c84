import AudioRules.Pattern.Reader

namespace AudioRules

namespace Pattern

-- From a rest within `l` it leaves one within `l'`.
def Within (l l' : List Char) (g : Reader α) : Prop :=
  ∀ s x t, s.rest <:+ l → g s = some (x, t) → t.rest <:+ l'

theorem tail_suffix_tail {cs l : List Char} (h : cs <:+ l) : cs.tail <:+ l.tail := by
  obtain ⟨before, rfl⟩ := h
  cases before with
  | nil      => exact List.suffix_rfl
  | cons _ _ => exact (List.tail_suffix cs).trans (List.suffix_append _ cs)

namespace Reader

theorem bind_eq_some {g : Reader α} {f : α → Reader β} :
    (g >>= f) s = some (y, u) ↔ ∃ x t, g s = some (x, t) ∧ f x t = some (y, u) := by
  show (g s).bind _ = _ ↔ _
  simp [Option.bind_eq_some_iff]

theorem dropFiller_suffix (inComment : Bool) (cs : List Char) : dropFiller inComment cs <:+ cs := by
  induction cs generalizing inComment with
  | nil => exact List.suffix_rfl
  | cons c cs hi =>
    unfold dropFiller
    split
    case isTrue => exact (hi _).trans (List.suffix_cons c cs)
    case isFalse =>
      split
      case isTrue => exact (hi _).trans (List.suffix_cons c cs)
      case isFalse =>
        split
        case isTrue  => exact (hi _).trans (List.suffix_cons c cs)
        case isFalse => exact List.suffix_rfl

end Reader

namespace Within

open Reader

variable {l l' l'' : List Char}

theorem weaken {g : Reader α} (hg : Within l l' g) (h : l' <:+ l'') : Within l l'' g :=
  fun s x t hs hx => (hg s x t hs hx).trans h

theorem untail {g : Reader α} (hg : Within l l.tail g) : Within l l g :=
  hg.weaken l.tail_suffix

theorem bind {g : Reader α} {f : α → Reader β} (hg : Within l l' g)
    (hf : ∀ x, Within l' l'' (f x)) : Within l l'' (g >>= f) := by
  intro s y u hs h
  have ⟨x, t, hx, hy⟩ := bind_eq_some.1 h
  exact hf x t y u (hg s x t hs hx) hy

theorem length_le {g : Reader α} (hg : Within s.rest s.rest g) (hx : g s = some (x, t)) :
    t.rest.length ≤ s.rest.length :=
  (hg s x t List.suffix_rfl hx).length_le

theorem length_lt {g : Reader α} (hg : Within s.rest s.rest.tail g) (hx : g s = some (x, t))
    (hs : s.rest = c :: cs) : t.rest.length < s.rest.length := by
  have := (hg s x t List.suffix_rfl hx).length_le
  simp only [hs, List.tail_cons, List.length_cons] at this ⊢
  omega

theorem fail : Within l l' (fail : Reader α) := by
  intro s _ _ _ h
  cases h

-- Nothing is taken from what is left.
theorem steady {g : Reader α} (h : ∀ s x t, g s = some (x, t) → t.rest = s.rest) :
    Within l l g := by
  intro s x t hs hx
  rwa [h s x t hx]

theorem pure (x : α) : Within l l (pure x) :=
  .steady fun _ _ _ h => by cases h; rfl

theorem lift (x? : Option α) : Within l l (lift x?) :=
  .steady fun _ _ _ h => by
    simp only [Reader.lift, Option.map_eq_some_iff] at h
    obtain ⟨_, _, h⟩ := h
    cases h
    rfl

theorem lift_bind {x? : Option α} {f : α → Reader β} (hf : ∀ x, x? = some x → Within l l' (f x)) :
    Within l l' (Reader.lift x? >>= f) := by
  intro s y u hs h
  have ⟨x, t, hx, hy⟩ := bind_eq_some.1 h
  simp only [Reader.lift, Option.map_eq_some_iff] at hx
  obtain ⟨x, hx, h⟩ := hx
  cases h
  exact hf x hx s y u hs hy

theorem modes : Within l l modes :=
  .steady fun _ _ _ h => by cases h; rfl

theorem setModes (m : Modes) : Within l l (setModes m) :=
  .steady fun _ _ _ h => by cases h; rfl

theorem peek : Within l l peek :=
  .steady fun _ _ _ h => by cases h; rfl

theorem peekSecond : Within l l peekSecond :=
  .steady fun _ _ _ h => by cases h; rfl

theorem fuel : Within l l fuel :=
  .steady fun _ _ _ h => by cases h; rfl

theorem need : Within l l need :=
  .bind .peek fun _ => .lift _

-- What is left is taken apart as a list, of which it is known where it is from.
theorem rest_bind {f : List Char → Reader α} (hf : ∀ cs, cs <:+ l → Within l l' (f cs)) :
    Within l l' (rest >>= f) :=
  fun s x t hs h => hf s.rest hs s x t hs h

theorem setRest (hc : cs <:+ l') : Within l l' (setRest cs) := by
  intro _ _ _ _ h
  cases h
  exact hc

theorem skip : Within l l.tail skip :=
  .rest_bind fun _ hc => .setRest (tail_suffix_tail hc)

theorem skipFiller : Within l l skipFiller :=
  .bind .modes fun m => by
    split
    case isTrue  => exact .rest_bind fun cs hc => .setRest ((dropFiller_suffix false cs).trans hc)
    case isFalse => exact .pure ()

theorem skipWithFiller : Within l l.tail skipWithFiller :=
  .bind .skip fun _ => .skipFiller

theorem peekPastBlanks : Within l l peekPastBlanks :=
  .steady fun _ _ _ h => by cases h; rfl

theorem expect (c : Char) : Within l l.tail (expect c) :=
  .bind .need fun _ => by
    split
    case isTrue  => exact .skip
    case isFalse => exact .fail

theorem inBraces (n : Nat) : Within l l.tail (inBraces n) := by
  induction n generalizing l with
  | zero => exact .fail
  | succ n hi =>
    refine .bind .skipWithFiller fun _ => .bind .need fun c => ?_
    split
    case isTrue  => exact .pure []
    case isFalse => exact .bind hi.untail fun _ => .pure _

-- Escapes

theorem hexDigits (n : Nat) : Within l l (hexDigits n) := by
  induction n generalizing l with
  | zero => exact .pure []
  | succ n hi =>
    exact .bind .need fun _ => .bind Within.skipWithFiller.untail fun _ => .bind hi fun _ => .pure _

theorem hexEscape (width : Nat) : Within l l.tail (hexEscape width) := by
  refine .bind .skipWithFiller fun _ => .bind .need fun c => ?_
  split
  case isTrue =>
    refine .bind .fuel fun n => .bind (Within.inBraces n).untail fun digits =>
      .bind Within.skipWithFiller.untail fun _ => ?_
    split
    case isTrue  => exact .fail
    case isFalse => exact .bind (.lift _) fun _ => .pure _
  case isFalse => exact .bind (.hexDigits width) fun _ => .bind (.lift _) fun _ => .pure _

theorem unicodeSet (negated : Bool) (s : CharSet) : Within l l (unicodeSet negated s) := by
  refine .bind .modes fun m => ?_
  split
  case isTrue  => exact .pure _
  case isFalse => exact .fail

theorem namedSet (negated : Bool) : Within l l.tail (namedSet negated) := by
  refine .bind .skipWithFiller fun _ => .bind .need fun c => ?_
  split
  case isTrue =>
    refine .bind .fuel fun n => .bind (Within.inBraces n).untail fun query =>
      .bind Within.skip.untail fun _ => ?_
    split
    case h_1 => exact .bind (.lift _) fun _ => .unicodeSet _ _
    case h_2 => exact .bind (.lift _) fun _ => .unicodeSet _ _
  case isFalse =>
    split
    case isTrue  => exact .fail
    case isFalse =>
      exact .bind Within.skipWithFiller.untail fun _ => .bind (.lift _) fun _ => .unicodeSet _ _

theorem shorthandSet (unicode ascii : CharSet) (negated : Bool) :
    Within l l.tail (shorthandSet unicode ascii negated) := by
  refine .bind .skip fun _ => .bind .modes fun m => ?_
  split
  case isTrue  => exact .pure _
  case isFalse =>
    split
    case isTrue  => exact .fail
    case isFalse => exact .pure _

theorem edgeName (n : Nat) : Within l l (edgeName n) := by
  induction n generalizing l with
  | zero => exact .fail
  | succ n hi =>
    refine .bind .need fun c => ?_
    split
    case isTrue  => exact .bind Within.skipWithFiller.untail fun _ => .bind hi fun _ => .pure _
    case isFalse => exact .pure []

theorem wordEdge (ascii : Bool) : Within l l (wordEdge ascii) := by
  refine .bind .peek fun c => ?_
  split
  case isTrue =>
    refine .rest_bind fun before hb => .bind Within.skipWithFiller.untail fun _ =>
      .bind .need fun c => ?_
    split
    case isTrue =>
      exact .bind .fuel fun n => .bind (.edgeName n) fun name =>
        .bind (Within.expect _).untail fun _ => .bind (.lift _) fun _ => .pure _
    case isFalse => exact .bind (.setRest hb) fun _ => .pure _
  case isFalse => exact .pure _

theorem escape : Within l l.tail escape := by
  refine .bind .skip fun _ => .bind .need fun c => .bind .modes fun m => ?_
  split
  case h_12 =>
    refine .bind Within.skip.untail fun _ => ?_
    split
    case h_9  => exact .wordEdge _
    case h_13 =>
      split
      case isTrue  => exact .pure _
      case isFalse => exact .fail
    all_goals exact .pure _
  case h_1 | h_2 | h_3 => exact (Within.hexEscape _).untail
  case h_4 | h_5 => exact (Within.namedSet _).untail
  all_goals exact (Within.shorthandSet _ _ _).untail

-- Sets in brackets

theorem rangeEnd (p : Primitive) : Within l l (rangeEnd p) := by
  cases p with
  | literal c byte =>
    refine .bind .modes fun m => ?_
    split
    case isTrue  => exact .pure _
    case isFalse => exact .fail
  | _ => exact .fail

theorem setMember (p : Primitive) : Within l l (setMember p) := by
  cases p with
  | literal c byte => exact .bind (.rangeEnd _) fun _ => .pure _
  | set s          => exact .pure _
  | gap g          => exact .fail

theorem setPrimitive : Within l l.tail setPrimitive := by
  refine .bind .need fun c => ?_
  split
  case isTrue  => exact .escape
  case isFalse => exact .bind .skip fun _ => .pure _

theorem rangeFrom (first : Primitive) : Within l l (rangeFrom first) := by
  refine .bind .skipFiller fun _ => .bind .need fun c => .bind .peekPastBlanks fun after => ?_
  split
  case isTrue  => exact .setMember first
  case isFalse =>
    refine .bind Within.skipWithFiller.untail fun _ => .bind (.rangeEnd first) fun first =>
      .bind Within.setPrimitive.untail fun last => .bind (.rangeEnd last) fun last => ?_
    split
    case isTrue  => exact .fail
    case isFalse => exact .pure _

theorem setRange : Within l l.tail setRange :=
  .bind .setPrimitive fun first => .rangeFrom first

theorem hyphens (n : Nat) : Within l l (hyphens n) := by
  induction n generalizing l with
  | zero => exact .fail
  | succ n hi =>
    refine .bind .need fun c => ?_
    split
    case isTrue  => exact .bind Within.skipWithFiller.untail fun _ => .bind hi fun _ => .pure _
    case isFalse => exact .pure []

theorem leading : Within l l leading := by
  refine .bind .fuel fun n => .bind (.hyphens n) fun ps => .bind .need fun c => ?_
  split
  case isTrue  => exact .bind Within.skipWithFiller.untail fun _ => .pure _
  case isFalse => exact .pure _

theorem setOpening : Within l l.tail setOpening := by
  refine .bind .skipWithFiller fun _ => .bind .need fun c => ?_
  split
  case isTrue  => exact .bind Within.skipWithFiller.untail fun _ => .bind .leading fun _ => .pure _
  case isFalse => exact .bind .leading fun _ => .pure _

end Within

-- What is read from a list without a cursor

theorem namedClass?_suffix (h : namedClass? m negated cs = some (p, ds)) : ds <:+ cs := by
  unfold namedClass? at h
  split at h
  case h_1 hd =>
    simp only [Option.map_eq_some_iff] at h
    obtain ⟨_, _, h⟩ := h
    cases h
    exact (List.suffix_append [':', ']'] ds).trans (Text.suffix_of_cutChars? hd)
  case h_2 => cases h

theorem asciiClass?_suffix (h : asciiClass? m cs = some (p, ds)) : ds <:+ cs.tail := by
  unfold asciiClass? at h
  split at h
  case h_1 cs   => exact (namedClass?_suffix h).trans (List.suffix_append [':', '^'] cs)
  case h_2 cs _ => exact (namedClass?_suffix h).trans (List.suffix_cons ':' cs)
  case h_3    => cases h

theorem nameStart?_suffix (h : nameStart? cs = some ds) : ds <:+ cs := by
  unfold nameStart? at h
  split at h
  case h_1 =>
    cases h
    exact List.suffix_cons '<' ds
  case h_2 =>
    cases h
    exact List.suffix_append ['P', '<'] ds
  case h_3 => cases h

theorem Modes.read_suffix {m : Modes} (h : m.read seen on cs = some (m', letters, stop, ds)) :
    ds <:+ cs := by
  induction cs generalizing m seen on with
  | nil => cases h
  | cons c cs hi =>
    refine List.IsSuffix.trans ?_ (List.suffix_cons c cs)
    unfold read at h
    split at h
    case isTrue =>
      split at h
      case isTrue  => cases h
      case isFalse =>
        cases h
        exact List.suffix_rfl
    case isFalse =>
      split at h
      case isTrue => cases h
      case isFalse =>
        split at h
        case isTrue => exact hi h
        case isFalse =>
          split at h
          case h_1 => exact hi h
          case h_2 => cases h

namespace Within

variable {l : List Char}

theorem setClass : Within l l setClass := by
  refine .bind .modes fun m => .rest_bind fun cs hc => ?_
  split
  case h_1 p ds hd =>
    split
    case isTrue =>
      exact .bind (.setRest (((asciiClass?_suffix hd).trans cs.tail_suffix).trans hc)) fun _ =>
        .pure _
    case isFalse => exact .fail
  case h_2 => exact .pure _

theorem setOperator : Within l l setOperator := by
  refine .bind .need fun c => .bind .peekSecond fun second => ?_
  split
  case h_1 => exact .bind Within.skip.untail fun _ => .bind Within.skip.untail fun _ => .pure _
  case h_2 => exact .pure _

theorem setBody (n : Nat) (negated : Bool) (left : Option (SetPart × SetOperator))
    (members : List SetPart) : Within l l.tail (setBody n negated left members) := by
  induction n generalizing l negated left members with
  | zero => exact .fail
  | succ n hi =>
    refine .bind .skipFiller fun _ => .bind .need fun c => .bind .modes fun m => ?_
    split
    case isTrue =>
      refine .bind .setClass fun p? => ?_
      split
      case h_1 => exact hi _ _ _
      case h_2 =>
        exact .bind .setOpening fun _ => .bind (hi _ _ _).untail fun _ => (hi _ _ _).untail
    case isFalse =>
      split
      case isTrue  => exact .bind .skip fun _ => .lift _
      case isFalse =>
        refine .bind .setOperator fun o? => ?_
        split
        case h_1 => exact hi _ _ _
        case h_2 => exact .bind .setRange fun _ => (hi _ _ _).untail

theorem bracketSet : Within l l.tail bracketSet :=
  .bind .fuel fun n => .bind .setOpening fun _ => (Within.setBody n _ _ _).untail

-- Repetitions

theorem greedy : Within l l greedy := by
  refine .bind .modes fun m => .bind .peek fun c => ?_
  split
  case isTrue  => exact .bind Within.skip.untail fun _ => .pure _
  case isFalse => exact .pure _

theorem digits (n : Nat) : Within l l (digits n) := by
  induction n generalizing l with
  | zero => exact .pure []
  | succ n hi =>
    refine .bind .peek fun c => ?_
    split
    case h_1 =>
      split
      case isTrue  => exact .bind Within.skipWithFiller.untail fun _ => .bind hi fun _ => .pure _
      case isFalse => exact .pure []
    case h_2 => exact .pure []

theorem skipBlanks : Within l l skipBlanks :=
  .rest_bind fun _ hc => .setRest ((List.dropWhile_suffix _).trans hc)

theorem count : Within l l count :=
  .bind .skipBlanks fun _ => .bind .fuel fun n => .bind (.digits n) fun _ =>
    .bind .skipBlanks fun _ => .lift _

theorem countsEnd (least : Nat) : Within l l (countsEnd least) := by
  refine .bind .need fun c => ?_
  split
  case isTrue =>
    refine .bind Within.skipWithFiller.untail fun _ => .bind .need fun c => ?_
    split
    case isTrue  => exact .pure _
    case isFalse => exact .bind .count fun _ => .pure _
  case isFalse => exact .pure _

theorem counts : Within l l.tail counts :=
  .bind .skipWithFiller fun _ => .bind .count fun least => .bind (.countsEnd least) fun _ =>
    .bind (Within.expect _).untail fun _ => .bind .skipFiller fun _ => .pure _

-- Groups

theorem groupName : Within l l groupName := by
  intro s _ _ hs h
  unfold Pattern.groupName at h
  split at h
  case h_1 hd =>
    split at h
    case isTrue =>
      cases h
      exact ((List.suffix_cons ..).trans (Text.suffix_of_cutChars? hd)).trans hs
    case isFalse => cases h
  case h_2 => cases h

theorem capture : Within l l capture :=
  .steady fun _ _ _ h => by cases h; rfl

theorem modeChange : Within l l modeChange := by
  refine .bind .modes fun m => .rest_bind fun cs hc => ?_
  refine .lift_bind fun (m', letters, stop, ds) hr => ?_
  refine .bind (.setModes m') fun _ => ?_
  refine .bind (.setRest ((Modes.read_suffix hr).trans hc)) fun _ => ?_
  split
  case isTrue => exact .pure _
  case isFalse =>
    split
    case isTrue  => exact .fail
    case isFalse => exact .pure _

theorem opening : Within l l opening := by
  refine .bind .skipFiller fun _ => .bind .peek fun c => ?_
  split
  case isTrue =>
    refine .bind Within.skip.untail fun _ => .rest_bind fun cs hc => ?_
    split
    case h_1 ds hd =>
      exact .bind (.setRest ((nameStart?_suffix hd).trans hc)) fun _ =>
        .bind .groupName fun _ => .capture
    case h_2 => exact .modeChange
  case isFalse => exact .capture

theorem repetition (c : Char) : Within l l.tail (repetition c) := by
  unfold Pattern.repetition
  split
  case h_4 => exact .counts
  all_goals exact .bind .skip fun _ => .pure _

theorem part (c : Char) : Within l l.tail (part c) := by
  refine .bind .modes fun m => ?_
  split
  case h_1 => exact .bind .bracketSet fun _ => .pure _
  case h_2 => exact .bind .escape fun _ => .lift _
  case h_3 => exact .bind .skip fun _ => .bind (.lift _) fun _ => .pure _
  all_goals exact .bind .skip fun _ => .pure _

theorem grouped {inner : Reader Piece} (hi : ∀ l, Within l l inner) :
    Within l l.tail (grouped inner) := by
  refine .bind .skip fun _ => .bind .modes fun m => .bind .opening fun o => ?_
  split
  case h_1 => exact .pure _
  case h_2 =>
    exact .bind (hi _) fun p => .bind (Within.expect _).untail fun _ =>
      .bind (.setModes m) fun _ => .pure _

theorem repeated (c : Char) (pieces : List Piece) : Within l l.tail (repeated c pieces) := by
  cases pieces with
  | nil      => exact .fail
  | cons _ _ =>
    exact .bind (.repetition c) fun _ => .bind .greedy fun _ => .bind (.lift _) fun _ => .pure _

theorem extended {inner : Reader Piece} (hi : ∀ l, Within l l inner) (c : Char)
    (pieces : List Piece) : Within l l.tail (extended inner c pieces) := by
  unfold Pattern.extended
  split
  case isTrue => exact .bind (.grouped hi) fun _ => .pure _
  case isFalse =>
    split
    case isTrue  => exact .repeated c pieces
    case isFalse => exact .bind (.part c) fun _ => .pure _

theorem group (n : Nat) (branches pieces : List Piece) : Within l l (group n branches pieces) := by
  induction n generalizing l branches pieces with
  | zero => exact .fail
  | succ n hi =>
    refine .bind .skipFiller fun _ => .bind .peek fun c? => ?_
    split
    case isTrue => exact .pure _
    case isFalse =>
      split
      case isTrue => exact .bind Within.skip.untail fun _ => hi _ _
      case isFalse =>
        refine .bind .need fun c => ?_
        exact .bind (Within.extended (fun _ => hi _ _) c pieces).untail fun _ => hi _ _

end Within

end Pattern

end AudioRules
