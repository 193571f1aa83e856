import WithClause.Toml.Grammar.Literal

/-! The numbers and points in time of TOML, read for their form and range. -/
namespace WithClause.Toml.Grammar

open Text Text.Reader

/-- Digits with single underscores between them. -/
def digitsFrom (first : Char → Bool) (p : Char → Bool) : Reader (List Char) := do
  let d ← satisfy first
  return d :: (← many (satisfy p <|> (char '_' *> satisfy p)))

/-- Whether there is a minus sign. -/
def sign : Reader Bool := do
  return (← maybe (satisfy fun c => c == '+' || c == '-')) == some '-'

/-- A sign and digits without a needless zero in front. -/
def decimal : Reader (Bool × List Char) := do
  let negative ← sign
  let digits ← digitsFrom (fun c => c.isDigit && c != '0') Char.isDigit
    <|> exactly 1 (· == '0')
  return (negative, digits)

def radix (opening : String) (base : Nat) (p : Char → Bool) : Reader Unit := do
  token opening
  let digits ← digitsFrom p p
  guard (digits.foldl (fun n c => base * n + (hexDigit? c).getD 0) 0 < Nat.pow 2 63)

/-- Integers have 64 bits with the sign. -/
def integer : Reader Unit :=
  radix "0x" 16 isHexDigit
    <|> radix "0o" 8 (fun c => '0' ≤ c && c ≤ '7')
    <|> radix "0b" 2 (fun c => c == '0' || c == '1')
    <|> do
      let (negative, digits) ← decimal
      let magnitude := Nat.ofDigitChars 10 digits 0
      guard (magnitude < Nat.pow 2 63 || (negative && magnitude = Nat.pow 2 63))

def exponent : Reader Int := do
  discard (satisfy fun c => c == 'e' || c == 'E')
  let negative ← sign
  let n := Nat.ofDigitChars 10 (← digitsFrom Char.isDigit Char.isDigit) 0
  return if negative then -(n : Int) else n

/-- Whether `n * 10 ^ e` rounds to more than the largest binary64 number. Because a factor of ten
is more than three bits, most powers need not be computed. -/
def overflows (n : Nat) (e : Int) : Bool :=
  let bound := Nat.pow 2 1024 - Nat.pow 2 970
  if 0 ≤ e then n != 0 && (1024 ≤ n.log2 + 3 * e.toNat || bound ≤ n * Nat.pow 10 e.toNat)
  else 3 * (-e).toNat ≤ n.log2 && bound * Nat.pow 10 (-e).toNat ≤ n

/-- A number with a fraction, an exponent or both. A positive one must not round to infinity. -/
def float : Reader Unit := do
  let (negative, whole) ← decimal
  let fraction ← maybe (char '.' *> digitsFrom Char.isDigit Char.isDigit)
  let power ← match fraction with
    | some _ => maybe exponent
    | none => some <$> exponent
  let places := fraction.getD []
  guard (negative
    || !overflows (Nat.ofDigitChars 10 (whole ++ places) 0) (power.getD 0 - places.length))

def specialFloat : Reader Unit := sign *> (token "inf" <|> token "nan")

/-- A number of so many digits within bounds. -/
def field (digits low high : Nat) : Reader Nat := do
  let n := Nat.ofDigitChars 10 (← exactly digits Char.isDigit) 0
  guard (low ≤ n && n ≤ high)
  return n

def daysInMonth (year month : Nat) : Nat :=
  if month = 2 then
    if year % 4 = 0 && (year % 100 != 0 || year % 400 = 0) then 29 else 28
  else if month ∈ [4, 6, 9, 11] then 30
  else 31

def date : Reader Unit := do
  let year ← field 4 0 9999
  char '-'
  let month ← field 2 1 12
  char '-'
  discard (field 2 1 (daysInMonth year month))

def time : Reader Unit := do
  discard (field 2 0 23)
  char ':'
  discard (field 2 0 59)
  char ':'
  discard (field 2 0 60)
  discard (maybe (char '.' *> satisfy Char.isDigit *> span Char.isDigit))

def zoneOffset : Reader Unit :=
  discard (satisfy fun c => c == 'Z' || c == 'z') <|> do
    discard (satisfy fun c => c == '+' || c == '-')
    discard (field 2 0 23)
    char ':'
    discard (field 2 0 59)

def dateTime : Reader Unit := do
  date
  discard (maybe do
    discard (satisfy fun c => c == 'T' || c == 't' || c == ' ')
    time
    discard (maybe zoneOffset))

def quantity : Reader Unit := dateTime <|> time <|> float <|> specialFloat <|> integer

end WithClause.Toml.Grammar
