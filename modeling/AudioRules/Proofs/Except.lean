namespace Except

@[simp]
theorem bind_eq_ok {x : Except ε α} {f : α → Except ε β} :
    (x >>= f) = .ok b ↔ ∃ a, x = .ok a ∧ f a = .ok b := by
  cases x <;> simp [bind, Except.bind]

@[simp]
theorem map_eq_ok {x : Except ε α} {f : α → β} :
    x.map f = .ok b ↔ ∃ a, x = .ok a ∧ f a = b := by
  cases x <;> simp [Except.map]

@[simp]
theorem mapError_ok (a : α) (f : ε → ε') : (.ok a : Except ε α).mapError f = .ok a := rfl

@[simp]
theorem mapError_error (e : ε) (f : ε → ε') :
    (.error e : Except ε α).mapError f = .error (f e) := rfl

@[simp]
theorem mapError_eq_ok {x : Except ε α} {f : ε → ε'} : x.mapError f = .ok a ↔ x = .ok a := by
  cases x <;> simp

@[simp]
theorem pure_eq_ok {a b : α} : (pure a : Except ε α) = .ok b ↔ a = b :=
  ⟨Except.ok.inj, congrArg _⟩

@[simp]
theorem throw_ne_ok (e : ε) (a : α) : (throw e : Except ε α) ≠ .ok a :=
  nofun

@[simp]
theorem toOption_eq_some {x : Except ε α} : x.toOption = some a ↔ x = .ok a := by
  cases x <;> simp [Except.toOption]

def error? : Except ε α → Option ε
  | .ok _    => none
  | .error e => some e

@[simp]
theorem error?_eq_some {x : Except ε α} : x.error? = some e ↔ x = .error e := by
  cases x <;> simp [error?]

theorem mapM_map_of_forall {f : α → β} {g : β → Except ε γ} {g' : α → Except ε δ} {k : δ → γ}
    {as : List α} (h : ∀ a ∈ as, g (f a) = (g' a).map k) :
    (as.map f).mapM g = (as.mapM g').map (List.map k) := by
  induction as with
  | nil => rfl
  | cons a as hi =>
    have ⟨ha, has⟩ := List.forall_mem_cons.1 h
    rw [List.map_cons, List.mapM_cons, List.mapM_cons, ha, hi has]
    cases g' a with
    | error e => rfl
    | ok d    => cases as.mapM g' <;> rfl

end Except
