/-! Colours and styles of terminal text. -/
namespace WithClause.CommandLine

structure Style where
  codes : List Nat

namespace Style

def bold (color : Nat) : Style := ⟨[1, color]⟩

def dimmed : Style := ⟨[2]⟩

def red : Nat := 31

def green : Nat := 32

def yellow : Nat := 33

def cyan : Nat := 36

def white : Nat := 37

def plain (color : Nat) : Style := ⟨[color]⟩

def opening (s : Style) : String := "\x1b[" ++ ";".intercalate (s.codes.map Nat.repr) ++ "m"

def reset : String := "\x1b[0m"

/-- A reset inside the text would end the style, so the style is opened again after it. -/
def reopen (s : Style) : List Char → List Char
  | [] => []
  | '\x1b' :: '[' :: '0' :: 'm' :: cs => reset.toList ++ s.opening.toList ++ s.reopen cs
  | c :: cs => c :: s.reopen cs

def enclose (s : Style) (text : String) : String :=
  s.opening ++ String.ofList (s.reopen text.toList) ++ reset

end Style

/-- Whether styles are written at all. -/
structure Terminal where
  colored : Bool

namespace Terminal

def paint (t : Terminal) (style : Style) (text : String) : String :=
  if t.colored then style.enclose text else text

/-- The output is no terminal, so it is coloured only if the environment forces it to be. -/
def ofEnvironment (environment : List (String × String)) : Terminal where
  colored := match environment.lookup "CLICOLOR_FORCE" with
    | some value => value != "0"
    | none => false

end Terminal
end WithClause.CommandLine
