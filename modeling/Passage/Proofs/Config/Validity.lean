import Passage.Config.Basic

/-!
# Valid configurations

The checks are made one after another, and a configuration passes them if each of its
settings will do. In which order they are made decides the error only.
-/

namespace Passage.Config

/-- The conditions under which the program runs. -/
structure Valid (c : Config) : Prop where
  web : ∃ u, Url.parse c.endpoint.toList = .ok u ∧ u.isWeb
  timeout : c.timeoutSeconds ≠ 0
  page : c.pageSize ≠ 0
  query : c.maxQueryLength ≠ 0
  preview : c.previewChars ≠ 0

theorem refusal_eq_ok_iff {p : Prop} [Decidable p] {e : Error} {rest : Except Error Unit} :
    (if p then .error e else rest) = .ok () ↔ ¬ p ∧ rest = .ok () := by
  split
  · next hp => exact iff_of_false nofun fun h => h.1 hp
  · next hp => exact (and_iff_right hp).symm

theorem validate_eq_ok_iff {c : Config} : c.validate = .ok () ↔ c.Valid := by
  have hthrow : ∀ e : Error, (throw e : Except Error Unit) = .error e := fun _ => rfl
  have hbind : ∀ (e : Error) (rest : Unit → Except Error Unit),
      (Except.error e >>= rest) = .error e := fun _ _ => rfl
  have hpure : (pure () : Except Error Unit) = .ok () := rfl
  cases hu : Url.parse c.endpoint.toList with
  | error e =>
    simp only [validate, hu, hthrow, hbind]
    refine iff_of_false nofun fun h => ?_
    obtain ⟨u, hweb, -⟩ := h.web
    rw [hu] at hweb
    cases hweb
  | ok u =>
    simp only [validate, hu, hthrow, hbind, hpure, refusal_eq_ok_iff, and_true, Bool.not_eq_true',
      Bool.not_eq_false]
    constructor
    · rintro ⟨hw, ht, hp, hq, hv⟩
      exact ⟨⟨u, hu, hw⟩, ht, hp, hq, hv⟩
    · rintro ⟨⟨v, hv, hw⟩, ht, hp, hq, hpre⟩
      cases hu.symm.trans hv
      exact ⟨hw, ht, hp, hq, hpre⟩

end Passage.Config
