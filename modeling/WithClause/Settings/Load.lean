import WithClause.Settings.Read

/-! Finding the settings file among several places and reading it. -/
namespace WithClause.Settings

def localPath : String := "qail-cte.toml"

/-- The configuration directory, which must be absolute if it is named itself, or else the one in
the home directory, which may be any. -/
def userDirectory? (environment : List (String × String)) : Option String :=
  (environment.lookup "XDG_CONFIG_HOME").filter (·.toList.head? = some '/')
    <|> ((environment.lookup "HOME").filter (!·.isEmpty)).map (· ++ "/.config")

/-- The settings file of the user. -/
def userPath? (environment : List (String × String)) : Option String :=
  (userDirectory? environment).map (· ++ "/qail-cte/config.toml")

def decode (content : Except FileFault ByteArray) : Except Error Settings :=
  match content with
  | .error fault => .error (.unreadableFile fault)
  | .ok bytes =>
    match String.fromUTF8? bytes with
    | none => .error (.unreadableFile .notUtf8)
    | some text => parse text

variable {m : Type → Type} [Monad m]

/-- The settings of the first of these files that exists, or the defaults. -/
def loadFirst (read : String → m (Except FileFault ByteArray)) :
    List String → m (Except Error Settings)
  | [] => return .ok {}
  | path :: paths => do
    match ← read path with
    | .ok bytes => return decode (.ok bytes)
    | .error fault =>
      if fault.isAbsence then loadFirst read paths else return decode (.error fault)

/-- A path that is asked for must exist. -/
def load (read : String → m (Except FileFault ByteArray)) (environment : List (String × String)) :
    Option String → m (Except Error Settings)
  | some path => return decode (← read path)
  | none => loadFirst read (localPath :: (userPath? environment).toList)

end WithClause.Settings
