import AudioRules.AppId
import AudioRules.Proofs.Except

namespace AudioRules

-- Without an argument that its method ignores.
def PredicateSpec.normal (s : PredicateSpec) : PredicateSpec :=
  { s with arg := if s.method = .always then none else s.arg }

namespace Test

theorem method_arg_of_compile (h : compile m arg? = .ok t) :
    t.method = m ∧ (m = .always ∨ t.arg = arg?) := by
  unfold compile at h
  split at h
  case h_1 => cases h; exact ⟨rfl, .inl rfl⟩
  case h_2 => cases h
  case h_3 => cases h; exact ⟨rfl, .inr rfl⟩
  case h_4 => cases h; exact ⟨rfl, .inr rfl⟩
  case h_5 =>
    split at h
    case h_1 => cases h; exact ⟨rfl, .inr rfl⟩
    case h_2 => cases h

theorem arg_of_always {t : Test} (h : t.method = .always) : t.arg = none := by
  cases t with
  | always => rfl
  | _      => cases h

theorem compile_always (arg? arg?' : Option String) :
    compile .always arg? = compile .always arg?' := by
  cases arg? <;> cases arg?' <;> rfl

theorem compile_of_arg (h : compile m arg? = .ok t) (ha : m = .always ∨ t.arg = arg?') :
    compile m arg?' = .ok t := by
  by_cases hm : m = .always
  case pos => rwa [hm, compile_always _ arg?, ← hm]
  case neg =>
    have ⟨_, hb⟩ := method_arg_of_compile h
    rwa [← ha.resolve_left hm, hb.resolve_left hm]

end Test

namespace Predicate

theorem isSameAs_iff {p : Predicate} {s : PredicateSpec} : p.isSameAs s ↔
    p.target = s.target ∧ p.method = s.method ∧ (p.method = .always ∨ p.arg = s.arg) := by
  simp [isSameAs, and_assoc]

theorem isSameAs_iff_spec {p : Predicate} {s : PredicateSpec} :
    p.isSameAs s ↔ p.spec = s.normal := by
  simp only [isSameAs_iff, spec, PredicateSpec.normal, PredicateSpec.mk.injEq]
  refine and_congr_right fun _ => and_congr_right fun hm => ?_
  rw [← hm]
  by_cases ha : p.method = .always
  case pos => simp [ha, show p.arg = none from Test.arg_of_always ha]
  case neg => simp [ha]

theorem compile_eq_ok {k : ObjectKind} : compile k s = .ok p ↔
    suits k s ∧ ∃ t, Test.compile s.method s.arg = .ok t ∧ p = ⟨k, s.target, t⟩ := by
  unfold compile
  split
  case isTrue h  => simp [h, eq_comm (b := p)]
  case isFalse h => simp [h]

theorem compile_normal (k : ObjectKind) (s : PredicateSpec) :
    compile k s.normal = compile k s := by
  have ht : Test.compile s.normal.method s.normal.arg = Test.compile s.method s.arg := by
    by_cases hm : s.method = .always
    case pos => simp [PredicateSpec.normal, hm, Test.compile]
    case neg => simp [PredicateSpec.normal, hm]
  unfold compile
  rw [ht]
  rfl

theorem isSameAs_of_compile {k : ObjectKind} (h : compile k s = .ok p) : p.isSameAs s := by
  obtain ⟨_, t, ht, rfl⟩ := compile_eq_ok.1 h
  have ⟨hm, ha⟩ := Test.method_arg_of_compile ht
  exact isSameAs_iff.2 ⟨rfl, hm, ha.imp_left hm.trans⟩

-- The argument of an unconditional predicate may have been another one.
theorem compile_of_isSameAs {k : ObjectKind} (h : compile k s = .ok p) (hs : p.isSameAs s') :
    compile k s' = .ok p := by
  obtain ⟨hu, t, ht, rfl⟩ := compile_eq_ok.1 h
  have ⟨hm, _⟩ := Test.method_arg_of_compile ht
  have ⟨htarget, hmethod, ha⟩ := isSameAs_iff.1 hs
  have hmethod : s.method = s'.method := hm.symm.trans hmethod
  have hc := Test.compile_of_arg ht (ha.imp_left hm.symm.trans)
  refine compile_eq_ok.2 ⟨?_, t, hmethod ▸ hc, by rw [← htarget]⟩
  simpa [suits, ← htarget, ← hmethod] using hu

end Predicate

-- Predicates that compiling a definition gives, where one is written.
def CompiledOptional (p? : Option Predicate) : Prop :=
  ∃ s?, AppIds.compile? s? = .ok p?

theorem sameOptional_iff (h : CompiledOptional p?) :
    sameOptional p? s? ↔ AppIds.compile? s? = .ok p? := by
  obtain ⟨s?', h⟩ := h
  cases s?' with
  | none =>
    cases h
    cases s? <;> simp [sameOptional, AppIds.compile?]
  | some s' =>
    simp only [AppIds.compile?, Except.map_eq_ok] at h
    obtain ⟨p, hp, rfl⟩ := h
    cases s? with
    | none   => simp [sameOptional, AppIds.compile?]
    | some s =>
      simp only [sameOptional, AppIds.compile?, Except.map_eq_ok, Option.some.injEq, exists_eq_right]
      exact ⟨Predicate.compile_of_isSameAs hp, Predicate.isSameAs_of_compile⟩

end AudioRules
