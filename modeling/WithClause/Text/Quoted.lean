/-! Quoted text in which the quote character itself is written twice. -/
namespace WithClause.Text

/-- The content with each quote character `q` written twice. -/
def double (q : Char) (cs : List Char) : List Char :=
  cs.flatMap fun c => if c = q then [q, q] else [c]

def enclose (q : Char) (cs : List Char) : List Char := q :: double q cs ++ [q]

@[simp] theorem double_nil (q : Char) : double q [] = [] := rfl

theorem double_cons (q c : Char) (cs : List Char) :
    double q (c :: cs) = (if c = q then [q, q] else [c]) ++ double q cs := rfl

@[simp] theorem double_append (q : Char) (xs ys : List Char) :
    double q (xs ++ ys) = double q xs ++ double q ys := by
  simp [double]

end WithClause.Text
