import WithClause.Clause

/-! SELECT statements on one table. -/
namespace WithClause

/-- The table and the columns are written as they are. Clauses may come in any order. -/
structure Select where
  table : String
  columns : List String := []
  clauses : List Clause := []

namespace Select

/-- The parts after their opening words, or nothing where there are no parts. -/
def part (opening separator : String) : List String → String
  | [] => ""
  | parts => opening ++ separator.intercalate parts

@[simp] theorem part_nil (opening separator : String) : part opening separator [] = "" := rfl

def columnsText (s : Select) : String :=
  if s.columns.isEmpty then "*" else ", ".intercalate s.columns

def filterTexts (s : Select) : List String := s.clauses.flatMap Clause.filterTexts

def sortTexts (s : Select) : List String := s.clauses.filterMap Clause.sortText?

/-- The last limit overrides those before it. -/
def limit? (s : Select) : Option UInt64 := (s.clauses.filterMap Clause.limit?).getLast?

/-- The last offset overrides those before it. -/
def offset? (s : Select) : Option UInt64 := (s.clauses.filterMap Clause.offset?).getLast?

def countText (opening : String) : Option UInt64 → String
  | none => ""
  | some n => opening ++ n.toNat.repr

def text (s : Select) : String :=
  "SELECT " ++ s.columnsText ++ " FROM " ++ s.table
    ++ part " WHERE " " AND " s.filterTexts
    ++ part " ORDER BY " ", " s.sortTexts
    ++ countText " LIMIT " s.limit?
    ++ countText " OFFSET " s.offset?

def same (s t : Select) : Bool :=
  s.table == t.table && s.columns == t.columns && s.clauses.isEqv t.clauses Clause.same

end Select
end WithClause
