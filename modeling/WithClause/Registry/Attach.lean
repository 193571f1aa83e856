import WithClause.NamedExpression
import WithClause.Registry

/-! Attaching definitions in the forms in which callers may supply them. Every argument is resolved
before the first definition is declared. -/
namespace WithClause

/-- A body supplied for a name. -/
inductive Supplied where
  | null
  | raw (sql : String)
  | query (q : Query)
  /-- A definition whose own name is ignored. -/
  | definition (d : Definition)
  | list (items : List Supplied)

inductive Argument where
  /-- Names with their bodies, in order. -/
  | mapping (entries : List (String × Supplied))
  /-- A text `name AS (expression)`. -/
  | text (declaration : String)
  | definition (d : Definition)
  /-- Texts and definitions. -/
  | list (items : List Argument)

namespace Definition

def hasBlankName (d : Definition) : Bool := Text.Blank d.name.toList

def hasBlankBody (d : Definition) : Bool :=
  match d.body with
  | .raw sql => Text.Blank sql.toList
  | .query _ => false

/-- Neither the name nor a raw body may be blank. -/
def validate (d : Definition) : Except Error Definition :=
  if d.hasBlankName then .error .emptyName
  else if d.hasBlankBody then .error (.nilBody d.name)
  else .ok d

end Definition

/-- The definition that gives a supplied body to a name. -/
def Supplied.bindTo (name : String) : Supplied → Except Error Definition
  | null => .error (.nilBody name)
  | list _ => .error (.collectionBody name)
  | raw sql => Definition.validate ⟨name, .raw sql⟩
  | query q => Definition.validate ⟨name, .query q⟩
  | definition d => Definition.validate ⟨name, d.body⟩

namespace Argument

/-- An argument that stands for one definition, as all items of a list must. -/
def single : Argument → Attempt Definition
  | mapping _ => throw .nestedMapping
  | list _ => throw .nestedList
  | text declaration => Definition.read declaration
  | definition d => Attempt.ofExcept d.validate

def definitions : Argument → Attempt (List Definition)
  | mapping entries => Attempt.ofExcept (entries.mapM fun entry => entry.2.bindTo entry.1)
  | list items => items.mapM single
  | text declaration => do return [← (text declaration).single]
  | definition d => do return [← (definition d).single]

def resolveAll (args : List Argument) : Attempt (List Definition) :=
  if args.isEmpty then throw .noArguments
  else do return (← args.mapM definitions).flatten

theorem resolveAll_append {xs ys : List Argument} (hx : xs ≠ []) (hy : ys ≠ []) :
    resolveAll (xs ++ ys) = do
      let ds ← resolveAll xs
      let es ← resolveAll ys
      return ds ++ es := by
  simp [resolveAll, hx, hy]

end Argument

namespace Registry

/-- Our definitions and then those of the arguments that we lack. -/
def attach (r : Registry) (args : List Argument) (recursive : Bool) : Attempt Registry := do
  let incoming ← Argument.resolveAll args
  let next ← ExceptT.lift ((r.markRecursive recursive).absorbAll incoming)
  Attempt.emit (.attached next.size next.recursive)
  return next

end Registry
end WithClause
