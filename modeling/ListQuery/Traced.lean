import ListQuery.Event

/-! Results with the events on the way to them. -/

namespace ListQuery

/-- A result or an error, and the events before it in their order. -/
structure Traced (ε α : Type) where
  events : List Event
  result : Except ε α

namespace Traced

variable {ε α β : Type}

/-- A result without events. -/
def pure (a : α) : Traced ε α :=
  ⟨[], .ok a⟩

/-- An error without events. -/
def fail (error : ε) : Traced ε α :=
  ⟨[], .error error⟩

/-- One event. -/
def tell (event : Event) : Traced ε Unit :=
  ⟨[event], .ok ()⟩

/-- A result or error without events. -/
def ofExcept (result : Except ε α) : Traced ε α :=
  ⟨[], result⟩

/-- One after the other. An error keeps what follows from happening. -/
def bind (first : Traced ε α) (next : α → Traced ε β) : Traced ε β :=
  match first.result with
  | .ok a => ⟨first.events ++ (next a).events, (next a).result⟩
  | .error error => ⟨first.events, .error error⟩

instance : Monad (Traced ε) where
  pure := pure
  bind := bind

@[simp] theorem bind_ok (events : List Event) (a : α) (next : α → Traced ε β) :
    bind ⟨events, .ok a⟩ next = ⟨events ++ (next a).events, (next a).result⟩ :=
  rfl

@[simp] theorem bind_error (events : List Event) (error : ε) (next : α → Traced ε β) :
    bind ⟨events, .error error⟩ next = ⟨events, .error error⟩ :=
  rfl

theorem bind_assoc {γ : Type} (first : Traced ε α) (next : α → Traced ε β)
    (last : β → Traced ε γ) :
    bind (bind first next) last = bind first fun a => bind (next a) last := by
  obtain ⟨events, result | a⟩ := first
  · rfl
  · simp only [bind_ok]
    obtain ⟨later, result | b⟩ := next a
    · rfl
    · simp [List.append_assoc]

end Traced

end ListQuery
