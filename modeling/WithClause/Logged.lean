import WithClause.Error

/-! Values together with the log events that their computation emitted. -/
namespace WithClause

inductive Event where
  | parsed (name : String)
  | redeclared (name : String)
  | attached (count : Nat) (recursive : Bool)
  | merged (left right total : Nat)
  deriving DecidableEq

inductive Level where
  | warn
  | debug
  deriving DecidableEq

def Level.name : Level → String
  | .warn => "WARN"
  | .debug => "DEBUG"

namespace Event

def level : Event → Level
  | redeclared _ => .warn
  | _ => .debug

def message : Event → String
  | parsed name => "Parsed CTE string: table '" ++ name ++ "'"
  | redeclared name =>
    "CTE '" ++ name
      ++ "' declared again with a different body; the database will reject the statement"
  | attached count recursive =>
    "Attached CTEs: " ++ count.repr ++ " definition(s), recursive="
      ++ if recursive then "true" else "false"
  | merged left right total =>
    "Merged CTE registries: " ++ left.repr ++ " + " ++ right.repr ++ " -> " ++ total.repr
      ++ " definition(s)"

end Event

/-- A value with the events that led to it, the earliest first. -/
structure Logged (α : Type) where
  value : α
  events : List Event := []

namespace Logged

instance : Monad Logged where
  pure a := ⟨a, []⟩
  bind x f := ⟨(f x.value).value, x.events ++ (f x.value).events⟩

@[simp] theorem pure_value {α : Type} (a : α) : (pure a : Logged α).value = a := rfl

@[simp] theorem pure_events {α : Type} (a : α) : (pure a : Logged α).events = [] := rfl

@[simp] theorem bind_value {α β : Type} (x : Logged α) (f : α → Logged β) :
    (x >>= f).value = (f x.value).value := rfl

@[simp] theorem bind_events {α β : Type} (x : Logged α) (f : α → Logged β) :
    (x >>= f).events = x.events ++ (f x.value).events := rfl

@[simp] theorem map_value {α β : Type} (f : α → β) (x : Logged α) :
    (f <$> x).value = f x.value := rfl

@[simp] theorem map_events {α β : Type} (f : α → β) (x : Logged α) :
    (f <$> x).events = x.events := by
  simp [Functor.map]

instance : LawfulMonad Logged :=
  LawfulMonad.mk' Logged (fun x => by simp [Functor.map]) (fun _ _ => rfl)
    (fun _ _ _ => by simp [Bind.bind])

def emit (event : Event) : Logged Unit := ⟨(), [event]⟩

end Logged

/-- A computation that may fail; the events before the failure are kept. -/
abbrev Attempt := ExceptT Error Logged

namespace Attempt

def emit (event : Event) : Attempt Unit := ExceptT.lift (Logged.emit event)

def ofExcept {α : Type} (result : Except Error α) : Attempt α := ⟨result, []⟩

/-- The outcome without its events. -/
def outcome {α : Type} (x : Attempt α) : Except Error α := x.run.value

def events {α : Type} (x : Attempt α) : List Event := x.run.events

end Attempt
end WithClause
