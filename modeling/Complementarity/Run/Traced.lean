import Complementarity.Run.Event

/-!
Values together with the events of their computation.

Sequencing two computations puts their events one after the other; the events never influence a
value (`value_bind`).
-/

namespace Complementarity

/-- A value and the events of computing it, the earliest first. -/
structure Traced (R α : Type) where
  value : α
  events : List (Event R)

namespace Traced

variable {R α β : Type}

/-- A value computed without an event. -/
@[inline] def silent (value : α) : Traced R α :=
  ⟨value, []⟩

/-- Continues with the value, and joins the events. -/
@[inline] def andThen (first : Traced R α) (next : α → Traced R β) : Traced R β :=
  let second := next first.value
  ⟨second.value, first.events ++ second.events⟩

instance : Monad (Traced R) where
  pure := silent
  bind := andThen

/-- Reports one event. -/
@[inline] def report (event : Event R) : Traced R Unit :=
  ⟨(), [event]⟩

/-- Reports one event if the condition holds. -/
@[inline] def reportIf (condition : Bool) (event : Event R) : Traced R Unit :=
  ⟨(), if condition then [event] else []⟩

@[simp] theorem value_pure (a : α) : (pure a : Traced R α).value = a := rfl

@[simp] theorem events_pure (a : α) : (pure a : Traced R α).events = [] := rfl

@[simp] theorem value_bind (t : Traced R α) (f : α → Traced R β) :
    (t >>= f).value = (f t.value).value := rfl

@[simp] theorem events_bind (t : Traced R α) (f : α → Traced R β) :
    (t >>= f).events = t.events ++ (f t.value).events := rfl

@[simp] theorem value_map (t : Traced R α) (f : α → β) : (f <$> t).value = f t.value := rfl

@[simp] theorem events_map (t : Traced R α) (f : α → β) : (f <$> t).events = t.events :=
  List.append_nil _

end Traced

end Complementarity
