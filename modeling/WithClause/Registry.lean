import WithClause.Logged
import WithClause.Query

/-! Registries: looking names up, declaring definitions and merging. -/
namespace WithClause

/-- The elements in the order of their first occurrence. -/
def distinct {α : Type} [DecidableEq α] : List α → List α
  | [] => []
  | a :: as => a :: (distinct as).filter (· ≠ a)

@[simp] theorem mem_distinct {α : Type} [DecidableEq α] {a : α} {as : List α} :
    a ∈ distinct as ↔ a ∈ as := by
  induction as with
  | nil => rfl
  | cons b as ih =>
    by_cases h : a = b
    · simp [distinct, h]
    · simp [distinct, h, ih]

theorem nodup_distinct {α : Type} [DecidableEq α] (as : List α) : (distinct as).Nodup := by
  induction as with
  | nil => exact List.nodup_nil
  | cons a as ih =>
    rw [distinct, List.nodup_cons]
    refine ⟨by simp, ih.sublist List.filter_sublist⟩

namespace Registry

def size (r : Registry) : Nat := r.definitions.length

def isEmpty (r : Registry) : Bool := r.definitions.isEmpty

def contains (r : Registry) (name : String) : Bool := r.definitions.any (·.name == name)

/-- The first definition declared under a name. -/
def get? (r : Registry) (name : String) : Option Definition :=
  r.definitions.find? (·.name == name)

/-- The declared names, each at its first declaration. -/
def names (r : Registry) : List String := distinct (r.definitions.map Definition.name)

/-- The names that are declared more than once. -/
def conflicts (r : Registry) : List String :=
  r.names.filter fun name => 1 < r.definitions.countP (·.name == name)

def holds (r : Registry) (d : Definition) : Bool := r.definitions.any (·.same d)

def markRecursive (r : Registry) (recursive : Bool) : Registry :=
  { r with recursive := r.recursive || recursive }

/-- A definition equal to one already there is not declared again. -/
def insert (r : Registry) (d : Definition) : Registry :=
  if r.holds d then r else { r with definitions := r.definitions ++ [d] }

theorem insert_of_holds {r : Registry} {d : Definition} (h : r.holds d = true) :
    r.insert d = r := by
  simp [insert, h]

theorem insert_of_not_holds {r : Registry} {d : Definition} (h : r.holds d = false) :
    (r.insert d).definitions = r.definitions ++ [d] := by
  simp [insert, h]

@[simp] theorem insert_recursive (r : Registry) (d : Definition) :
    (r.insert d).recursive = r.recursive := by
  rw [insert]
  split <;> rfl

/-- Whether a definition would put another body under a name that is already there. -/
def redeclares (r : Registry) (d : Definition) : Bool := !r.holds d && r.contains d.name

def absorb (r : Registry) (d : Definition) : Logged Registry :=
  ⟨r.insert d, if r.redeclares d then [.redeclared d.name] else []⟩

def absorbAll (r : Registry) (ds : List Definition) : Logged Registry := ds.foldlM absorb r

/-- Our definitions and then those of the other registry that we lack. Two bodies under one name
are both kept. -/
def merge (r other : Registry) : Logged Registry := do
  let next ← (r.markRecursive other.recursive).absorbAll other.definitions
  Logged.emit (.merged r.size other.size next.size)
  return next

@[simp] theorem absorb_value (r : Registry) (d : Definition) : (r.absorb d).value = r.insert d := rfl

theorem absorbAll_value (r : Registry) (ds : List Definition) :
    (r.absorbAll ds).value = ds.foldl insert r := by
  induction ds generalizing r with
  | nil => rfl
  | cons d ds ih => simpa [absorbAll] using ih (r.insert d)

theorem merge_value (r other : Registry) :
    (r.merge other).value = other.definitions.foldl insert (r.markRecursive other.recursive) := by
  simp [merge, absorbAll_value]

end Registry
end WithClause
