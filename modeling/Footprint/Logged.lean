/-!
# Results with a log

An operation that reports what it did returns its result with the events in the order in which
they happened.
-/

namespace Footprint

/-- What an operation reports. -/
inductive Event where
  /-- A builder became a table. -/
  | froze (symbols aliasGroups : Nat)
  /-- A group was clustered. -/
  | clustered (symbols nodes groups : Nat)
  /-- Two trees were compared. -/
  | compared (matcher : String) (added removed paired aliasGroups : Nat)
  /-- A filter failed on the described member. -/
  | filterFailed (member : String)
deriving Repr, DecidableEq

/-- The level of an event and its text. -/
def Event.text : Event → String
  | froze symbols aliasGroups =>
    s!"DEBUG: Freezing symbol table: {symbols} symbols, {aliasGroups} alias groups"
  | clustered symbols nodes groups =>
    s!"DEBUG: Clustered {symbols} symbols into {nodes} nodes ({groups} groups)"
  | compared matcher added removed paired aliasGroups =>
    s!"DEBUG: Diff ({matcher} matcher): {added} added, {removed} removed, {paired} paired, " ++
      s!"{aliasGroups} alias groups kept"
  | filterFailed member => s!"WARN: Filter failed on symbol {member}"

/-- A result with the events on the way to it. -/
structure Logged (α : Type) where
  /-- The result. -/
  value : α
  /-- The events, the first one first. -/
  events : List Event

namespace Logged

variable {α β : Type}

/-- The result with a function applied to it. -/
def map (f : α → β) (x : Logged α) : Logged β :=
  ⟨f x.value, x.events⟩

instance : Monad Logged where
  pure a := ⟨a, []⟩
  bind x f := let y := f x.value; ⟨y.value, x.events ++ y.events⟩

/-- Reports an event. -/
def report (e : Event) : Logged Unit := ⟨(), [e]⟩

/-- The events of two steps follow each other. -/
theorem events_bind (x : Logged α) (f : α → Logged β) :
    (x >>= f).events = x.events ++ (f x.value).events := rfl

/-- The result of two steps is the result of the second. -/
theorem value_bind (x : Logged α) (f : α → Logged β) :
    (x >>= f).value = (f x.value).value := rfl

end Logged

end Footprint
