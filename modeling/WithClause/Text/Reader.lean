/-! Readers of the beginning of a text. A reader that fails has read nothing. -/
namespace WithClause.Text

/-- What is still to be read, with the number of characters at hand. -/
structure Input where
  chars : List Char
  count : Nat
  count_eq : count = chars.length

namespace Input

def ofList (cs : List Char) : Input := ⟨cs, cs.length, rfl⟩

theorem length_dropWhile (p : Char → Bool) (cs : List Char) :
    (cs.dropWhile p).length = cs.length - (cs.takeWhile p).length := by
  have h := congrArg List.length (@List.takeWhile_append_dropWhile Char p cs)
  rw [List.length_append] at h
  omega

end Input

abbrev Reader := StateT Input Option

namespace Reader

variable {α β : Type}

def satisfy (p : Char → Bool) : Reader Char
  | ⟨[], _, _⟩ => none
  | ⟨c :: cs, n, h⟩ => if p c then some (c, ⟨cs, n - 1, by simp [h]⟩) else none

def char (c : Char) : Reader Unit := do discard (satisfy (· == c))

def token (word : String) : Reader Unit := word.toList.forM char

/-- All characters up to the first one outside the class. -/
def span (p : Char → Bool) : Reader (List Char)
  | ⟨cs, n, h⟩ =>
    let taken := cs.takeWhile p
    some (taken, ⟨cs.dropWhile p, n - taken.length, by rw [h, Input.length_dropWhile]⟩)

def atEnd : Reader Unit := fun input => if input.chars.isEmpty then some ((), input) else none

def maybe (r : Reader α) : Reader (Option α) := (some <$> r) <|> pure none

/-- Reads again and again. A repetition that reads nothing is the end, like one that fails. -/
def repeated (r : Reader α) (input : Input) : List α × Input :=
  match r input with
  | none => ([], input)
  | some (a, rest) =>
    if rest.count < input.count then
      let (as, last) := repeated r rest
      (a :: as, last)
    else ([], input)
termination_by input.count

def many (r : Reader α) : Reader (List α) := fun input => some (repeated r input)

def sepBy1 (item : Reader α) (separator : Reader β) : Reader (List α) := do
  let first ← item
  return first :: (← many (separator *> item))

def sepBy (item : Reader α) (separator : Reader β) : Reader (List α) :=
  sepBy1 item separator <|> pure []

/-- Exactly so many characters of a class. -/
def exactly (n : Nat) (p : Char → Bool) : Reader (List Char) :=
  (List.replicate n ()).mapM fun _ => satisfy p

/-- The value of the whole text. -/
def readAll (r : Reader α) (cs : List Char) : Option α := (r <* atEnd).run' (.ofList cs)

end Reader
end WithClause.Text
