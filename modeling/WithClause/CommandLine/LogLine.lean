import WithClause.Json
import WithClause.Logged

/-! Log events as the texts that the error output shows for them. -/
namespace WithClause.CommandLine.LogLine

/-- The ASCII control characters that are not left to a terminal. -/
def terminalControls : List Char := ['\x07', '\x08', '\x0c', '\x1b', '\x7f']

/-- The control characters above ASCII, of which none is left to a terminal. -/
def isHighControl (c : Char) : Bool := 0x80 ≤ c.toNat && c.toNat ≤ 0x9f

def hexByte (n : Nat) : List Char := [Json.hexDigit (n / 16), Json.hexDigit n]

/-- Line ends and all characters that print stay as they are. -/
def escapeChar (c : Char) : List Char :=
  if c ∈ terminalControls then ['\\', 'x'] ++ hexByte c.toNat
  else if isHighControl c then ['\\', 'u', '\x7b'] ++ hexByte c.toNat ++ ['\x7d']
  else [c]

/-- The level and the message of an event. -/
def text (e : Event) : String :=
  e.level.name ++ " " ++ String.ofList (e.message.toList.flatMap escapeChar)

end WithClause.CommandLine.LogLine
