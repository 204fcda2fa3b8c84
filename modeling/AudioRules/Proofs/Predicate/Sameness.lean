import AudioRules.Proofs.Predicate.Compiled

namespace AudioRules

-- Compiling goes by the method and the argument that a test remembers.
theorem Test.compile_self (h : compile m arg? = .ok t) : compile t.method t.arg = .ok t := by
  have ⟨hm, _⟩ := method_arg_of_compile h
  rw [hm]
  exact compile_of_arg h (.inr rfl)

namespace Predicate

variable {p q : Predicate} {k k' : ObjectKind} {s s' : PredicateSpec}

-- What a predicate tests is in what it was written as. Its kind makes no difference to that.
theorem target_test_of_spec_eq (hp : compile k s = .ok p) (hq : compile k' s' = .ok q)
    (h : p.spec = q.spec) : p.target = q.target ∧ p.test = q.test := by
  obtain ⟨_, t, ht, rfl⟩ := compile_eq_ok.1 hp
  obtain ⟨_, u, hu, rfl⟩ := compile_eq_ok.1 hq
  have ⟨htarget, hm, ha⟩ := PredicateSpec.mk.inj h
  have ht := Test.compile_self ht
  have hu := Test.compile_self hu
  have hm : t.method = u.method := hm
  have ha : t.arg = u.arg := ha
  rw [hm, ha, hu] at ht
  exact ⟨htarget, (Except.ok.inj ht).symm⟩

theorem evaluate_of_spec_eq (hp : compile k s = .ok p) (hq : compile k' s' = .ok q)
    (h : p.spec = q.spec) (o : Option HostObject) : p.evaluate o = q.evaluate o := by
  have ⟨htarget, htest⟩ := target_test_of_spec_eq hp hq h
  have ha : p.accepts = q.accepts := by
    funext o
    rw [accepts, accepts, htarget, htest]
  rw [evaluate, evaluate, ha]

theorem isSameAs_spec (p : Predicate) : p.isSameAs p.spec :=
  isSameAs_iff.2 ⟨rfl, rfl, .inr rfl⟩

theorem isSameAs_iff_compile (h : compile k s = .ok p) :
    p.isSameAs s' ↔ ∃ q, compile k s' = .ok q ∧ q.spec = p.spec := by
  constructor
  case mp  => exact fun hs => ⟨p, compile_of_isSameAs h hs, rfl⟩
  case mpr =>
    intro ⟨q, hq, he⟩
    rw [isSameAs_iff_spec, ← he, ← isSameAs_iff_spec]
    exact isSameAs_of_compile hq

-- For a predicate that has been compiled:
-- 1. it is the same as what is written if and only if that compiles, for its kind, to a predicate
--    that is written alike
-- 2. it is the same as what it was compiled from, and as what it is written as
-- 3. the latter compiles to a predicate that says the same of every object, and of none
-- 4. whatever it is the same as compiles, to predicates that agree on every object
theorem same_iff_compiles_alike (h : compile k s = .ok p) :
    (∀ s', p.isSameAs s' ↔ ∃ q, compile k s' = .ok q ∧ q.spec = p.spec) ∧
    (p.isSameAs s ∧ p.isSameAs p.spec) ∧
    (∃ q, compile k p.spec = .ok q ∧ ∀ o, q.evaluate o = p.evaluate o) ∧
    ∀ s₁ s₂, p.isSameAs s₁ → p.isSameAs s₂ → ∃ q₁ q₂, compile k s₁ = .ok q₁ ∧
      compile k s₂ = .ok q₂ ∧ ∀ o, q₁.evaluate o = q₂.evaluate o := by
  refine ⟨fun _ => isSameAs_iff_compile h, ⟨isSameAs_of_compile h, p.isSameAs_spec⟩, ?_,
    fun s₁ s₂ h₁ h₂ => ?_⟩
  · have ⟨q, hq, he⟩ := (isSameAs_iff_compile h).1 p.isSameAs_spec
    exact ⟨q, hq, evaluate_of_spec_eq hq h he⟩
  · have ⟨q₁, hq₁, he₁⟩ := (isSameAs_iff_compile h).1 h₁
    have ⟨q₂, hq₂, he₂⟩ := (isSameAs_iff_compile h).1 h₂
    exact ⟨q₁, q₂, hq₁, hq₂, evaluate_of_spec_eq hq₁ hq₂ (he₁.trans he₂.symm)⟩

-- The name of a property list can be left alone, and so can an argument.
theorem same_of_ignored_argument :
    ∃ p, compile .proplist ⟨.name, .always, some "x"⟩ = .ok p ∧ p.isSameAs ⟨.name, .always, none⟩ ∧
      ¬p.isSameAs ⟨.literal, .always, none⟩ ∧
      ∃ q, compile .proplist p.spec = .ok q ∧ ∀ o, q.evaluate o = p.evaluate o := by
  have h : compile .proplist ⟨.name, .always, some "x"⟩ = .ok ⟨.proplist, .name, .always⟩ := rfl
  have ⟨hs, _, hq, _⟩ := same_iff_compiles_alike h
  exact ⟨_, h, (hs _).2 ⟨_, rfl, rfl⟩, by decide, hq⟩

end Predicate

end AudioRules
