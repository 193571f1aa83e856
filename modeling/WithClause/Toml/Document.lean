import WithClause.Toml.Grammar.Statement

/-! Reading TOML documents: the tree that the statements of the lines build. -/
namespace WithClause.Toml

open Grammar (Statement)

/-- A header with the pairs up to the next header. -/
structure Section where
  keys : List String
  isElement : Bool
  pairs : List (List String × Toml) := []

/-- The pairs before the first header, and the sections. -/
def sections : List Statement → List (List String × Toml) × List Section
  | [] => ([], [])
  | .pair keys item :: rest => let (pairs, more) := sections rest; ((keys, item) :: pairs, more)
  | .tableHeader keys :: rest =>
    let (pairs, more) := sections rest; ([], ⟨keys, false, pairs⟩ :: more)
  | .elementHeader keys :: rest =>
    let (pairs, more) := sections rest; ([], ⟨keys, true, pairs⟩ :: more)

def addSection (root : Entries) (s : Section) : Option Entries := do
  let key ← s.keys.getLast?
  let fill := fun entries => addPairs entries s.pairs
  changeUnder (if s.isElement then openElement key fill else openTable key fill)
    s.keys.dropLast root

def build (statements : List Statement) : Option Entries := do
  let (pairs, rest) := sections statements
  rest.foldlM addSection (← addPairs [] pairs)

def parse (text : String) : Option Entries := do build (← Grammar.document text)

end WithClause.Toml
