import WithClause.Logged

/-! Which log events are written. A filter is a list of directives, each a level for all events or,
as `target=level`, for those of one target. -/
namespace WithClause.CommandLine

/-- The least severe level that is still written. -/
inductive Threshold where
  | off
  | error
  | warn
  | info
  | debug
  | trace
  deriving DecidableEq

namespace Threshold

/-- Letter case does not matter. -/
def ofName? (name : String) : Option Threshold :=
  [("off", off), ("error", error), ("warn", warn), ("info", info), ("debug", debug),
    ("trace", trace)].lookup (name.map Char.toLower)

def allows : Threshold → Level → Bool
  | off, _ | error, _ => false
  | warn, level | info, level => level == .warn
  | debug, _ | trace, _ => true

end Threshold

/-- The empty target stands for all events. -/
structure Directive where
  target : String := ""
  threshold : Threshold

abbrev Filter := List Directive

namespace Filter

/-- The target of every event. -/
def ownTarget : String := "qail_cte"

/-- A target alone writes everything. -/
def directive? (text : String) : Option Directive :=
  match Threshold.ofName? text with
  | some threshold => some { threshold }
  | none =>
    let cs := text.toList
    let target := String.ofList (cs.takeWhile (· != '='))
    match cs.dropWhile (· != '=') with
    | [] => some { target, threshold := .trace }
    | _ :: level => (Threshold.ofName? (String.ofList level)).map fun threshold =>
      { target, threshold }

def pieces (text : String) : List String :=
  (text.toList.splitOnP (· == ',')).map String.ofList

/-- Without a directive only errors are written. -/
def orErrors (f : Filter) : Filter := if f.isEmpty then [{ threshold := .error }] else f

/-- A filter all of whose directives are well formed. -/
def parse? (text : String) : Option Filter :=
  if text.isEmpty then some (orErrors []) else (pieces text).mapM directive?

/-- The well-formed directives of a filter. -/
def parse (text : String) : Filter :=
  orErrors (((pieces text).filter (! ·.isEmpty)).filterMap directive?)

/-- The directive with the longest matching target decides, and of those the last. -/
def allows (f : Filter) (level : Level) : Bool :=
  let matching := f.filter fun d => d.target.toList.isPrefixOf ownTarget.toList
  let best := matching.foldl (fun (best : Option Directive) d =>
    match best with
    | none => some d
    | some b => if b.target.length ≤ d.target.length then some d else some b) none
  match best with
  | none => false
  | some d => d.threshold.allows level

/-- The filter of the environment, else of the verbose switch, else of the settings. -/
def choose (environment : List (String × String)) (verbose : Bool) (configured : String) :
    Filter :=
  match environment.lookup "QAIL_CTE_LOG" >>= parse? with
  | some f => f
  | none => parse (if verbose then "debug" else configured)

end Filter
end WithClause.CommandLine
