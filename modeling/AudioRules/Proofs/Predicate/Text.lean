import AudioRules.Proofs.Predicate.Compiled
import AudioRules.RuleSet.Document

namespace AudioRules

theorem Method.parse_trim_name (m : Method) : Method.parse (Text.trim m.name) = .ok m := by
  cases m <;> rfl

theorem Method.no_separator_in_name (m : Method) : ':' ∉ m.name.toList ∧ '@' ∉ m.name.toList := by
  cases m <;> decide

namespace PredicateSpec

-- A written predicate, taken apart at the separators.
structure Parts where
  key    : Option String
  method : String
  arg    : Option String

namespace Parts

def ofHead (head : String) (arg : Option String) : Parts :=
  match Text.cut? '@' head with
  | some (key, method) => ⟨key, method, arg⟩
  | none => ⟨none, head, arg⟩

def ofText (text : String) : Parts :=
  match Text.cut? ':' text with
  | some (head, arg) => ofHead head arg
  | none => ofHead text none

-- All before the argument.
def head (p : Parts) : String := p.key.elim "" (· ++ "@") ++ p.method

def text (p : Parts) : String := p.head ++ p.arg.elim "" (":" ++ ·)

-- What the parts of a text say.
def spec (p : Parts) (text : String) : Except MatchError PredicateSpec := do
  let method ← Method.parse (Text.trim p.method)
  if p.arg = none ∧ method ≠ .always then
    throw (.malformed text)
  match target? p.key with
  | some target => return { target, method, arg := p.arg }
  | none => throw (.malformed text)

-- The first separator of each kind is the one that was put there.
structure Separable (p : Parts) : Prop where
  key    : ∀ key, p.key = some key → ':' ∉ key.toList ∧ '@' ∉ key.toList
  method : ':' ∉ p.method.toList ∧ (p.key = none → '@' ∉ p.method.toList)

variable {p : Parts}

theorem separable_ofHead {head : String} (h : ':' ∉ head.toList) (arg : Option String) :
    (ofHead head arg).Separable := by
  unfold ofHead
  split
  case h_1 key method hc =>
    have ⟨he, hk⟩ := Text.cut?_eq_some_iff.1 hc
    rw [he, List.mem_append, List.mem_cons, not_or, not_or] at h
    have ⟨hk', _, hm⟩ := h
    exact ⟨fun _ he => Option.some.inj he ▸ ⟨hk', hk⟩, hm, nofun⟩
  case h_2 hc => exact ⟨nofun, h, fun _ => Text.cut?_eq_none_iff.1 hc⟩

theorem separable_ofText (text : String) : (ofText text).Separable := by
  unfold ofText
  split
  case h_1 head arg hc => exact separable_ofHead (Text.cut?_eq_some_iff.1 hc).2 arg
  case h_2 hc          => exact separable_ofHead (Text.cut?_eq_none_iff.1 hc) none

namespace Separable

theorem no_colon_in_head (h : p.Separable) : ':' ∉ p.head.toList := by
  cases hk : p.key with
  | none     => simpa [Parts.head, hk] using h.method.1
  | some key => simpa [Parts.head, hk] using ⟨(h.key key hk).1, h.method.1⟩

theorem ofHead_head (h : p.Separable) : ofHead p.head p.arg = p := by
  obtain ⟨key, method, arg⟩ := p
  cases key with
  | none =>
    have hc : Text.cut? '@' method = none := Text.cut?_eq_none_iff.2 (h.method.2 rfl)
    simp [ofHead, Parts.head, hc]
  | some key =>
    have hc : Text.cut? '@' (Parts.head ⟨some key, method, arg⟩) = some (key, method) :=
      Text.cut?_eq_some_iff.2 ⟨by simp [Parts.head], (h.key key rfl).2⟩
    simp [ofHead, hc]

theorem ofText_text (h : p.Separable) : ofText p.text = p := by
  have hh := h.ofHead_head
  cases ha : p.arg with
  | none =>
    have ht : p.text = p.head := by simp [text, ha]
    have hc : Text.cut? ':' p.head = none := Text.cut?_eq_none_iff.2 h.no_colon_in_head
    rwa [ofText, ht, hc, ← ha]
  | some arg =>
    have hc : Text.cut? ':' p.text = some (p.head, arg) :=
      Text.cut?_eq_some_iff.2 ⟨by simp [text, ha], h.no_colon_in_head⟩
    rw [ha] at hh
    rwa [ofText, hc]

end Separable

end Parts

-- What may stand before a method as the name of a property.
def IsKey (key : String) : Prop :=
  key ≠ "" ∧ key ≠ Target.nameKey ∧ ':' ∉ key.toList ∧ '@' ∉ key.toList

instance (key : String) : Decidable (IsKey key) :=
  inferInstanceAs (Decidable (_ ∧ _ ∧ _ ∧ _))

-- What reading can give.
structure Readable (s : PredicateSpec) : Prop where
  target : s.target ≠ .literal
  key    : ∀ key, s.target = .property key → IsKey key
  arg    : s.arg = none → s.method = .always

variable {s : PredicateSpec} {text : String} {p : Parts}

theorem parse_eq (text : String) : parse text = (Parts.ofText text).spec text := by
  unfold parse Parts.ofText Parts.ofHead
  cases Text.cut? ':' text with
  | none =>
    dsimp only
    cases Text.cut? '@' text <;> rfl
  | some x =>
    dsimp only
    cases Text.cut? '@' x.1 <;> rfl

theorem target?_property_iff {key? : Option String} {key : String} :
    target? key? = some (.property key) ↔ key? = some key ∧ key ≠ "" ∧ key ≠ Target.nameKey := by
  unfold target?
  grind

theorem target?_ne_literal (key? : Option String) : target? key? ≠ some .literal := by
  unfold target?
  grind

theorem eq_property_of_target? {key : String} {target : Target}
    (h : target? (some key) = some target) (hn : key ≠ Target.nameKey) :
    target = .property key := by
  unfold target? at h
  grind

theorem Parts.spec_eq_ok : p.spec text = .ok s ↔
    Method.parse (Text.trim p.method) = .ok s.method ∧ target? p.key = some s.target ∧
      p.arg = s.arg ∧ (s.arg = none → s.method = .always) := by
  obtain ⟨target, method, arg⟩ := s
  unfold spec
  cases Method.parse (Text.trim p.method) with
  | error e => simp
  | ok m =>
    simp only [Except.bind_eq_ok, Except.ok.injEq, exists_eq_left']
    by_cases ha : p.arg = none ∧ m ≠ .always
    case pos =>
      rw [if_pos ha]
      constructor
      case mp =>
        intro h
        cases h
      case mpr =>
        rintro ⟨rfl, _, rfl, hn⟩
        exact absurd (hn ha.1) ha.2
    case neg =>
      rw [if_neg ha]
      cases target? p.key with
      | none => simp
      | some t =>
        simp
        grind

-- The parts in which a predicate is written.
def parts (s : PredicateSpec) : Parts where
  key := match s.target with
    | .property key => some key
    | _ => none
  method := s.method.name
  arg := s.normal.arg

theorem text_eq (s : PredicateSpec) : s.text = s.parts.text := by
  obtain ⟨target, method, arg⟩ := s
  cases target <;> cases method <;> cases arg <;>
    simp [PredicateSpec.text, keyText, Parts.text, Parts.head, parts, normal, String.append_assoc]

theorem normal_eq_self_iff : s.normal = s ↔ (s.method = .always → s.arg = none) := by
  obtain ⟨target, method, arg⟩ := s
  by_cases hm : method = .always <;> simp [normal, hm, eq_comm]

theorem text_normal (s : PredicateSpec) : s.normal.text = s.text := by
  have hn : s.normal.normal = s.normal := by
    by_cases hm : s.method = .always <;> simp [normal, hm]
  rw [text_eq, text_eq, parts, hn]
  rfl

theorem readable_of_parse (h : parse text = .ok s) : s.Readable := by
  rw [parse_eq] at h
  obtain ⟨_, ht, _, ha⟩ := Parts.spec_eq_ok.1 h
  refine ⟨fun hl => ?_, fun key hk => ?_, ha⟩
  · exact target?_ne_literal _ (hl ▸ ht)
  · have ⟨hp, he, hn⟩ := target?_property_iff.1 (hk ▸ ht)
    exact ⟨he, hn, (Parts.separable_ofText text).key key hp⟩

theorem Readable.separable (h : s.Readable) : s.parts.Separable where
  key key hk := by
    cases ht : s.target <;> simp only [parts, ht, reduceCtorEq, Option.some.injEq] at hk
    exact hk ▸ (h.key _ ht).2.2
  method := ⟨s.method.no_separator_in_name.1, fun _ => s.method.no_separator_in_name.2⟩

theorem Readable.parse_text (h : s.Readable) : parse s.text = .ok s.normal := by
  rw [parse_eq, text_eq, h.separable.ofText_text, Parts.spec_eq_ok]
  refine ⟨s.method.parse_trim_name, ?_, rfl, fun ha => ?_⟩
  · change target? s.parts.key = some s.target
    cases ht : s.target with
    | name         => simp [parts, ht, target?]
    | property key =>
      have ⟨he, hn, _⟩ := h.key key ht
      simp [parts, ht, target?_property_iff, he, hn]
    | literal      => exact absurd ht h.target
  · by_cases hm : s.method = .always
    case pos => exact hm
    case neg => exact h.arg (by simpa [normal, hm] using ha)

theorem parse_of_ofJson? {j : Json} (h : ofJson? j = some s) : ∃ text, parse text = .ok s := by
  obtain ⟨text, _, ht⟩ := Option.bind_eq_some_iff.1 h
  refine ⟨text, ?_⟩
  cases hp : parse text with
  | error e => simp [hp, Except.toOption] at ht
  | ok s'   => simpa [hp, Except.toOption] using ht

theorem ofJson?_toJson (h : s.Readable) : ofJson? s.toJson = some s.normal := by
  simp [ofJson?, toJson, Json.ofString, Json.string?, h.parse_text, Except.toOption]

-- Reading and writing:
-- 1. a predicate is what its text is read as if and only if it is not about the object itself, its
--    key can be told from the rest, and it has an argument where its method needs one and no other
-- 2. the text of what has been read is read as the same without an argument that is ignored, and is
--    written the same again; it compiles to the same, or fails for the same reason
-- 3. so does what a document has, after it has been written to a document
theorem text_round_trip :
    (∀ s : PredicateSpec, parse s.text = .ok s ↔
      s.target ≠ .literal ∧ (∀ key, s.target = .property key → IsKey key) ∧
        (s.arg = none ↔ s.method = .always)) ∧
    (∀ text s, parse text = .ok s →
      parse s.text = .ok s.normal ∧ s.normal.text = s.text ∧
        ∀ kind, Predicate.compile kind s.normal = Predicate.compile kind s) ∧
    ∀ j s, ofJson? j = some s → ∃ s', ofJson? s.toJson = some s' ∧ s'.toJson = s.toJson ∧
      ∀ kind, Predicate.compile kind s' = Predicate.compile kind s := by
  refine ⟨fun s => ⟨fun h => ?_, fun ⟨ht, hk, ha⟩ => ?_⟩, fun text s h => ?_, fun j s h => ?_⟩
  · have hr := readable_of_parse h
    have hn : s.normal = s := Except.ok.inj (hr.parse_text.symm.trans h)
    exact ⟨hr.target, hr.key, hr.arg, normal_eq_self_iff.1 hn⟩
  · have hr : s.Readable := ⟨ht, hk, ha.1⟩
    rw [hr.parse_text, normal_eq_self_iff.2 ha.2]
  · exact ⟨(readable_of_parse h).parse_text, s.text_normal,
      fun kind => Predicate.compile_normal kind s⟩
  · have ⟨text, ht⟩ := parse_of_ofJson? h
    exact ⟨s.normal, ofJson?_toJson (readable_of_parse ht), congrArg Json.ofString s.text_normal,
      fun kind => Predicate.compile_normal kind s⟩

end PredicateSpec

end AudioRules
