import Interpolation.Event

/-!
# Traced results

A traced result comes with the events that led to it. When one computation follows another, nothing
that has happened is lost, also if the second one is never reached.
-/

namespace Interpolation

/-- A value or an error, and what happened on the way. -/
structure Traced (ε α : Type) where
  result : Except ε α
  events : List Event := []

namespace Traced

variable {ε ε' α β : Type}

def ofExcept (result : Except ε α) : Traced ε α :=
  ⟨result, []⟩

def tell (e : Event) : Traced ε Unit :=
  ⟨.ok (), [e]⟩

/-- Go on with the value, if there is one. -/
def andThen (t : Traced ε α) (next : α → Traced ε β) : Traced ε β :=
  match t.result with
  | .error e => ⟨.error e, t.events⟩
  | .ok a => ⟨(next a).result, t.events ++ (next a).events⟩

def mapError (f : ε → ε') (t : Traced ε α) : Traced ε' α :=
  ⟨t.result.mapError f, t.events⟩

theorem result_andThen {t : Traced ε α} {a : α} (next : α → Traced ε β)
    (h : t.result = .ok a) : (t.andThen next).result = (next a).result := by
  rw [andThen, h]

end Traced

end Interpolation
