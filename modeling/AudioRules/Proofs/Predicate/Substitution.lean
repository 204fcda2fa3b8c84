import AudioRules.Proofs.Predicate.Text
import AudioRules.RuleSet.Apply

namespace AudioRules

open PredicateSpec (Parts IsKey)

namespace Variables

-- What is to be written for a text: the value of the variable with that name, if there is one.
def replace (vars : Variables) (text : String) : String :=
  match vars.get? text with
  | some value => value
  | none       => text

theorem replace_eq_resolve (vars : Variables) : vars.replace = vars.resolve := by
  funext text
  rw [replace, resolve]
  cases vars.get? text <;> rfl

-- The key that stands for the name of an object is no property.
def inParts (vars : Variables) (p : Parts) : Parts :=
  { p with
    key := p.key.map fun key => if key = Target.nameKey then key else vars.replace key
    arg := p.arg.map vars.replace }

-- A text that is no predicate stays.
def inText (vars : Variables) (text : String) : String :=
  match PredicateSpec.parse text with
  | .ok _    => (vars.inParts (.ofText text)).text
  | .error _ => text

-- If the text is about a property that a variable names, what the variable stands for can be
-- written in its place.
def KeyFits (vars : Variables) (text : String) : Prop :=
  ∀ s key value, PredicateSpec.parse text = .ok s → s.target = .property key →
    vars.get? key = some value → IsKey value

variable {vars : Variables} {s : PredicateSpec} {text key : String}

theorem inText_of_error (h : PredicateSpec.parse text = .error e) : vars.inText text = text := by
  unfold inText
  split
  case h_1 hp => cases h.symm.trans hp
  case h_2    => rfl

theorem inText_of_ok (h : PredicateSpec.parse text = .ok s) :
    vars.inText text = (vars.inParts (.ofText text)).text := by
  unfold inText
  split
  case h_1    => rfl
  case h_2 hp => cases h.symm.trans hp

theorem isKey_replace (h : vars.KeyFits text) (hp : PredicateSpec.parse text = .ok s)
    (ht : s.target = .property key) : IsKey (vars.replace key) := by
  unfold replace
  cases hv : vars.get? key with
  | none       => exact (PredicateSpec.readable_of_parse hp).key key ht
  | some value => exact h s key value hp ht hv

theorem isKey_of_key (h : vars.KeyFits text) (hp : PredicateSpec.parse text = .ok s)
    (hk : (Parts.ofText text).key = some key) (hn : key ≠ Target.nameKey) :
    s.target = .property key ∧ IsKey (vars.replace key) := by
  have ⟨_, ht, _⟩ := Parts.spec_eq_ok.1 (PredicateSpec.parse_eq text ▸ hp)
  have hs : s.target = .property key := PredicateSpec.eq_property_of_target? (hk ▸ ht) hn
  exact ⟨hs, isKey_replace h hp hs⟩

theorem separable_inParts (h : vars.KeyFits text) (hp : PredicateSpec.parse text = .ok s) :
    (vars.inParts (.ofText text)).Separable where
  key key' hk' := by
    obtain ⟨key, hk, rfl⟩ := Option.map_eq_some_iff.1 hk'
    by_cases hn : key = Target.nameKey
    case pos =>
      rw [if_pos hn]
      exact (Parts.separable_ofText text).key key hk
    case neg =>
      rw [if_neg hn]
      exact (isKey_of_key h hp hk hn).2.2.2
  method :=
    have ⟨hc, ha⟩ := (Parts.separable_ofText text).method
    ⟨hc, fun hn => ha (Option.map_eq_none_iff.1 hn)⟩

theorem parse_inText (h : vars.KeyFits text) :
    PredicateSpec.parse (vars.inText text) = (PredicateSpec.parse text).map vars.inPredicate := by
  cases hp : PredicateSpec.parse text with
  | error e =>
    rw [inText_of_error hp, hp]
    rfl
  | ok s =>
    obtain ⟨hm, ht, ha, hn⟩ := Parts.spec_eq_ok.1 (PredicateSpec.parse_eq text ▸ hp)
    rw [inText_of_ok hp, PredicateSpec.parse_eq, (separable_inParts h hp).ofText_text]
    refine Parts.spec_eq_ok.2 ⟨hm, ?_, ?_, fun hn' => ?_⟩
    · cases hk : (Parts.ofText text).key with
      | none =>
        have hs : s.target = .name := by simpa [PredicateSpec.target?, hk, eq_comm] using ht
        simp [inParts, hk, inPredicate, hs, PredicateSpec.target?]
      | some key =>
        by_cases hn : key = Target.nameKey
        case pos =>
          have hs : s.target = .name := by
            simpa [PredicateSpec.target?, hk, hn, eq_comm] using ht
          simp [inParts, hk, hn, inPredicate, hs, PredicateSpec.target?]
        case neg =>
          obtain ⟨hs, he, hn', _⟩ := isKey_of_key h hp hk hn
          rw [replace_eq_resolve] at he hn'
          simp [inParts, hk, hn, inPredicate, hs, PredicateSpec.target?_property_iff, he, hn',
            replace_eq_resolve]
    · rw [inParts, replace_eq_resolve]
      exact congrArg vars.resolveOpt ha
    · exact hn (Option.map_eq_none_iff.1 hn')

theorem parseOpt_inText {text? : Option String} (h : ∀ text ∈ text?, vars.KeyFits text) :
    PredicateSpec.parseOpt (text?.map vars.inText) =
      (PredicateSpec.parseOpt text?).map (Option.map vars.inPredicate) := by
  cases text? with
  | none => rfl
  | some text =>
    have ht := parse_inText (h text (Option.mem_some_self text))
    simp only [PredicateSpec.parseOpt, Option.map_some, ht]
    cases PredicateSpec.parse text <;> rfl

end Variables

end AudioRules
