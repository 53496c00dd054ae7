/-
  File:      FieldKit/Lib/Refine.lean
  Subject:   One program refines another: they end alike, in states that are related.

  Both run in a state of their own and may fail, with the same errors. What the concrete one
  returns is told by its state, so a relation of results is to be kept by everything that comes
  after: `Le` says what later states keep of earlier ones.

  * `Refines.earlier` -- what began in a later state;
  * `Refines.bind` -- one part after another.
-/

namespace FieldKit.Lib

variable {ε σ τ α β γ δ : Type}

/-- **The two ends of a run that began in `s`.** -/
inductive Refines (Rel : σ → τ → Prop) (Le : σ → σ → Prop) (s : σ) (R : σ → α → β → Prop) :
    EStateM.Result ε σ α → EStateM.Result ε τ β → Prop where
  | ok (a : α) (b : β) (s' : σ) (t' : τ) (hrel : Rel s' t') (hle : Le s s') (h : R s' a b) :
      Refines Rel Le s R (.ok a s') (.ok b t')
  | error (e : ε) (s' : σ) (t' : τ) : Refines Rel Le s R (.error e s') (.error e t')

theorem bind_of_ok {x : EStateM ε σ α} {f : α → EStateM ε σ γ} {s s' : σ} {a : α}
    (h : x s = .ok a s') : (x >>= f) s = f a s' := by
  show EStateM.bind x f s = _
  unfold EStateM.bind
  rw [h]

theorem bind_of_error {x : EStateM ε σ α} {f : α → EStateM ε σ γ} {s s' : σ} {e : ε}
    (h : x s = .error e s') : (x >>= f) s = .error e s' := by
  show EStateM.bind x f s = _
  unfold EStateM.bind
  rw [h]

section Rules

variable {Rel : σ → τ → Prop} {Le : σ → σ → Prop} {s : σ} {t : τ} {R : σ → α → β → Prop}
  {Q : σ → γ → δ → Prop}

/-- What began in a later state. -/
theorem Refines.earlier (htrans : ∀ a b c, Le a b → Le b c → Le a c) {s' : σ} (hle : Le s s')
    {r : EStateM.Result ε σ α} {r' : EStateM.Result ε τ β} (h : Refines Rel Le s' R r r') :
    Refines Rel Le s R r r' := by
  cases h with
  | ok a b s'' t'' hrel hle' h => exact .ok a b s'' t'' hrel (htrans _ _ _ hle hle') h
  | error e s'' t'' => exact .error e s'' t''

/-- **One part after another.** -/
theorem Refines.bind (htrans : ∀ a b c, Le a b → Le b c → Le a c) {x : EStateM ε σ α}
    {y : EStateM ε τ β} {f : α → EStateM ε σ γ} {g : β → EStateM ε τ δ}
    (hx : Refines Rel Le s R (x s) (y t))
    (hf : ∀ a b s' t', Rel s' t' → Le s s' → R s' a b → Refines Rel Le s' Q (f a s') (g b t')) :
    Refines Rel Le s Q ((x >>= f) s) ((y >>= g) t) := by
  generalize hxs : x s = r at hx
  generalize hyt : y t = r' at hx
  cases hx with
  | ok a b s' t' hrel hle h =>
      rw [bind_of_ok hxs, bind_of_ok hyt]
      exact (hf a b s' t' hrel hle h).earlier htrans hle
  | error e s' t' =>
      rw [bind_of_error hxs, bind_of_error hyt]
      exact .error e s' t'

end Rules

end FieldKit.Lib
