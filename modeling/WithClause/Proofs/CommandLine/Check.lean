import WithClause.Proofs.CommandLine.Declarations
import WithClause.Proofs.CommandLine.Listing

/-! The verdict of a check. It is found in the registry, but holds of all that was supplied, be it in the
settings or on the command line and whether it was kept or not. -/
namespace WithClause

namespace Settings

/-- The name and the SQL that an entry supplies. -/
inductive Entry.Supplies : Entry → String × String → Prop
  | named (name sql : String) : Supplies ⟨some name, some sql, none⟩ (name, sql)
  | declared {declaration : String} {e : NamedExpression}
    (h : NamedExpression.parse declaration = .ok e) :
    Supplies ⟨none, none, some declaration⟩ (e.name, e.expression)

lemma Entry.Supplies.eq {e : Entry} {p q : String × String} (hp : e.Supplies p)
    (hq : e.Supplies q) : p = q := by
  cases hp with
  | named name sql =>
    cases hq
    rfl
  | declared hp =>
    cases hq with
    | declared hq =>
      cases hp.symm.trans hq
      rfl

lemma Entry.Asks.exists_supplies {e : Entry} {i : Item} {d : Definition} (he : e.Asks i)
    (hi : i.Declares d) : ∃ p, e.Supplies p ∧ d = .ofPair p := by
  cases he with
  | named name sql =>
    cases hi with
    | held hd _ =>
      cases hd with
      | entry hbody =>
        cases hbody
        exact ⟨_,.named name sql,rfl⟩
  | declared declaration =>
    cases hi with
    | text hparse => exact ⟨_,.declared hparse,rfl⟩
    | held hd _ => cases hd

lemma exists_supplies {entries : List Entry} {items : List Item} {ds : List Definition}
    (hitems : List.Forall₂ Entry.Asks entries items) (hds : List.Forall₂ Item.Declares items ds) :
    ∃ supplied, List.Forall₂ Entry.Supplies entries supplied ∧ ds = supplied.map .ofPair := by
  induction hitems generalizing ds with
  | nil =>
    cases hds
    exact ⟨[],.nil,rfl⟩
  | cons he _ ih =>
    cases hds with
    | cons hi hds =>
      obtain ⟨p,hp,rfl⟩ := he.exists_supplies hi
      obtain ⟨supplied,hsupplied,rfl⟩ := ih hds
      exact ⟨p :: supplied,.cons hp hsupplied,rfl⟩

end Settings

namespace CommandLine

variable {s : Settings} {declarations : List String} {recursive : Bool} {r : Registry}
  {supplied : List (String × String)}

lemma buildRegistry_eq_ok_iff : (buildRegistry s declarations recursive).run.value = .ok r ↔
    ((s.markRecursive recursive).withDeclarations declarations).registry.outcome = .ok r := by
  rw [← mapError_eq_ok_iff Failure.cause?,cause_buildRegistry,mapError_eq_ok_iff]

/-- The registry of what was supplied. Nothing supplied is not recursive. -/
def suppliedRegistry (recursive : Bool) (supplied : List (String × String)) : Registry :=
  (supplied.map .ofPair).foldl Registry.insert ⟨[], recursive && !supplied.isEmpty⟩

/-- Whether the settings are recursive plays no part in what can be built. -/
lemma exists_supplied (h : (buildRegistry s declarations false).run.value = .ok r) :
    ∃ supplied,
      List.Forall₂ Settings.Entry.Supplies (s.withDeclarations declarations).entries supplied ∧
      ∀ recursive, (buildRegistry { s with recursive } declarations false).run.value =
        .ok (suppliedRegistry recursive supplied) := by
  obtain ⟨items,ds,hitems,hds,-⟩ :=
    Settings.registry_eq_ok_iff.mp (buildRegistry_eq_ok_iff.mp h)
  obtain ⟨supplied,hsupplied,rfl⟩ := Settings.exists_supplies hitems hds
  refine ⟨supplied,hsupplied,fun recursive => ?_⟩
  refine buildRegistry_eq_ok_iff.mpr (Settings.registry_eq_ok_iff.mpr ⟨items,_,hitems,hds,?_⟩)
  have hempty : (s.withDeclarations declarations).entries.isEmpty = supplied.isEmpty := by
    have hlength : (s.withDeclarations declarations).entries.length = supplied.length :=
      hsupplied.length_eq
    rw [Bool.eq_iff_iff,List.isEmpty_iff_length_eq_zero,List.isEmpty_iff_length_eq_zero,hlength]
  rw [suppliedRegistry,← hempty]
  change _ = List.foldl Registry.insert ⟨[], (recursive || false) && _⟩ _
  rw [Bool.or_false]
  rfl

lemma definitions_suppliedRegistry (recursive : Bool) (supplied : List (String × String)) :
    (suppliedRegistry recursive supplied).definitions = (distinct supplied).map .ofPair :=
  Registry.definitions_foldl_insert_ofPair rfl

lemma conflicts_suppliedRegistry (recursive : Bool) (supplied : List (String × String)) :
    (suppliedRegistry recursive supplied).conflicts = contestedNames supplied :=
  Registry.conflicts_foldl_insert_ofPair rfl

lemma recursive_suppliedRegistry (recursive : Bool) (supplied : List (String × String)) :
    (suppliedRegistry recursive supplied).recursive = (recursive && !supplied.isEmpty) :=
  Registry.foldl_insert_recursive _ _

/-- The failure of a check of what was supplied, if it is one. -/
def checkFailure? (supplied : List (String × String)) : Option Failure :=
  if contestedNames supplied = [] then none else some (.conflicting (contestedNames supplied))

/-- The report of a check in terms of what was supplied, apart from the layout. -/
lemma value_check (h : (buildRegistry s declarations false).run.value =
      .ok (suppliedRegistry recursive supplied)) (t : Terminal) (format : OutputFormat) :
    ((Command.check declarations).run s t format).run.value = .ok {
      output := (Findings.ofRegistry (suppliedRegistry recursive supplied)).report t format
      failure := checkFailure? supplied } := by
  rw [Command.run,value_run_bind,h]
  change Except.ok _ = _
  simp only [Findings.passes, Findings.ofRegistry, conflicts_suppliedRegistry, checkFailure?,
    List.isEmpty_iff]

/-- What is seen of a check. It fails exactly if two definitions that were supplied have one name and
different SQL, and then tells how many and which names those are, in the order in which they were
first supplied. -/
structure Verdict (colored recursive : Bool) (format : OutputFormat)
    (supplied : List (String × String)) (outcome : Outcome) : Prop where
  exit : outcome.exit = if ∃ p ∈ supplied, ∃ q ∈ supplied, p.1 = q.1 ∧ p.2 ≠ q.2 then 1 else 0
  passes : contestedNames supplied = [] → outcome.errors = ""
  fails : contestedNames supplied ≠ [] →
    ∃ label, Appears colored "\x1b[1;31m" "Error:" label ∧
      outcome.errors = label ++ " " ++ (contestedNames supplied).length.repr ++
        " CTE name(s) declared with different bodies: " ++
        ", ".intercalate (contestedNames supplied) ++ "\n"
  listing : format = .text → Listing colored recursive supplied outcome.output

lemma exists_failureText_conflicting (t : Terminal) (names : List String) :
    ∃ label, Appears t.colored "\x1b[1;31m" "Error:" label ∧
      Outcome.failureText t (.conflicting names) = label ++ " " ++ names.length.repr ++
        " CTE name(s) declared with different bodies: " ++ ", ".intercalate names ++ "\n" := by
  have hlabel := t.appears_paint (.bold Style.red) "Error:"
  have hopening : (Style.bold Style.red).opening = "\x1b[1;31m" := by decide +kernel
  have hmessage : (Failure.conflicting names).message = names.length.repr ++
    " CTE name(s) declared with different bodies: " ++ ", ".intercalate names := rfl
  rw [hopening] at hlabel
  refine ⟨_,hlabel,?_⟩
  rw [Outcome.failureText,lines_singleton,hmessage]
  simp only [String.append_assoc]

lemma verdict_ofReport (t : Terminal) (recursive : Bool) (format : OutputFormat)
    (supplied : List (String × String)) (events : List Event) :
    Verdict t.colored recursive format supplied (.ofReport t {
      output := (Findings.ofRegistry (suppliedRegistry recursive supplied)).report t format
      failure := checkFailure? supplied } events) := by
  have hlisting := listing_report (definitions_suppliedRegistry recursive supplied)
    (conflicts_suppliedRegistry recursive supplied) (recursive_suppliedRegistry recursive supplied) t
  by_cases hcontested : contestedNames supplied = []
  · rw [checkFailure?,if_pos hcontested]
    have hpasses : ¬ ∃ p ∈ supplied, ∃ q ∈ supplied, p.1 = q.1 ∧ p.2 ≠ q.2 :=
      fun h => contestedNames_ne_nil_iff.mpr h hcontested
    refine ⟨(if_neg hpasses).symm,fun _ => rfl,fun h => absurd hcontested h,?_⟩
    rintro rfl
    exact hlisting
  · rw [checkFailure?,if_neg hcontested]
    refine ⟨(if_pos (contestedNames_ne_nil_iff.mp hcontested)).symm,fun h => absurd h hcontested,
      fun _ => exists_failureText_conflicting t _,?_⟩
    rintro rfl
    exact hlisting

/-- Styles are written only where both the settings and the environment ask for them. -/
lemma colored_terminal (color : Bool) (environment : List (String × String)) :
    (if color = true then Terminal.ofEnvironment environment else ⟨false⟩).colored =
      (color && (environment.lookup "CLICOLOR_FORCE").any (· != "0")) := by
  cases color with
  | false => rfl
  | true =>
    rw [if_pos rfl,Bool.true_and,Terminal.ofEnvironment]
    cases environment.lookup "CLICOLOR_FORCE" <;> rfl

/-- The verdict of a check that can be made is decided by what was supplied, for whatever format and
whether the settings are recursive or not. Its text numbers each pair of a name and its SQL once, and
where styles are written marks those whose name is contested; where none is, it counts them. -/
theorem check_exact (h : (buildRegistry s declarations false).run.value = .ok r) :
    (∃ supplied, List.Forall₂ Settings.Entry.Supplies (s.withDeclarations declarations).entries
      supplied) ∧
    ∀ supplied, List.Forall₂ Settings.Entry.Supplies (s.withDeclarations declarations).entries
        supplied →
      ∀ (recursive : Bool),
        (∀ (t : Terminal) (format : OutputFormat), ∃ report,
          ((Command.check declarations).run { s with recursive } t format).run.value = .ok report ∧
          (report.failure = if contestedNames supplied = [] then none
            else some (.conflicting (contestedNames supplied)))) ∧
        ∀ (i : Invocation) (environment : List (String × String)),
          i.command = .check declarations →
          Verdict (s.color && (environment.lookup "CLICOLOR_FORCE").any (· != "0")) recursive
            (i.format.getD s.format) supplied
            (i.run environment (.ok { s with recursive })) := by
  obtain ⟨supplied,hsupplied,hbuild⟩ := exists_supplied h
  refine ⟨⟨supplied,hsupplied⟩,?_⟩
  intro others hothers recursive
  obtain rfl : supplied = others :=
    List.right_unique_forall₂' (fun _ _ _ hp hq => hp.eq hq) hsupplied hothers
  have hvalue := value_check (hbuild recursive)
  refine ⟨fun t format => ⟨_,hvalue t format,rfl⟩,?_⟩
  intro i environment hi
  simp only [Invocation.run, hi, hvalue, ← colored_terminal]
  exact verdict_ofReport _ _ _ _ _

/-- `a` is contested across the settings and the command line, and `b` is supplied twice in two
spellings. -/
theorem check_exact_contested :
    let s : Settings := { entries := [⟨some "a", some "1", none⟩, ⟨none, none, some "\"b\" AS (2)"⟩,
      ⟨some "a", some "1", none⟩] }
    let declarations := ["\"c\" AS (4)", "\"a\" AS ( 3 )", "\"b\" as (2)"]
    let supplied := [("a", "1"), ("b", "2"), ("a", "1"), ("c", "4"), ("a", "3"), ("b", "2")]
    let run recursive := Invocation.run ⟨none, none, false, .check declarations⟩
      [("CLICOLOR_FORCE", "1")] (.ok { s with recursive })
    (∃ r, (buildRegistry s declarations false).run.value = .ok r) ∧
      List.Forall₂ Settings.Entry.Supplies (s.withDeclarations declarations).entries supplied ∧
      (∀ recursive, Verdict true recursive .text supplied (run recursive)) ∧
      (run false).exit = 1 ∧
      (run false).output = "  1. \x1b[1;31ma\x1b[0m \x1b[2m1\x1b[0m\n" ++
        "  2. \x1b[36mb\x1b[0m \x1b[2m2\x1b[0m\n" ++
        "  3. \x1b[36mc\x1b[0m \x1b[2m4\x1b[0m\n" ++
        "  4. \x1b[1;31ma\x1b[0m \x1b[2m3\x1b[0m\n" ∧
      (run false).errors =
        "\x1b[1;31mError:\x1b[0m 1 CTE name(s) declared with different bodies: a\n" := by
  intro s declarations supplied run
  have hbuild : ∃ r, (buildRegistry s declarations false).run.value = .ok r := ⟨_,rfl⟩
  have hsupplied : List.Forall₂ Settings.Entry.Supplies (s.withDeclarations declarations).entries
      supplied := by
    have hdeclared : ∀ declaration name expression,
        NamedExpression.parse declaration = .ok ⟨name, expression⟩ →
          Settings.Entry.Supplies ⟨none, none, some declaration⟩ (name, expression) :=
      fun _ _ _ h => .declared h
    exact .cons (.named _ _) (.cons (hdeclared _ _ _ rfl) (.cons (.named _ _)
      (.cons (hdeclared _ _ _ rfl) (.cons (hdeclared _ _ _ rfl) (.cons (hdeclared _ _ _ rfl)
        .nil)))))
  obtain ⟨r,hr⟩ := hbuild
  obtain ⟨-,hcheck⟩ := check_exact hr
  refine ⟨⟨r,hr⟩,hsupplied,?_,?_,?_,?_⟩
  · intro recursive
    exact (hcheck supplied hsupplied recursive).2 ⟨none, none, false, .check declarations⟩
      [("CLICOLOR_FORCE", "1")] rfl
  · decide +kernel
  · decide +kernel
  · decide +kernel

/-- Where the settings turn the colours off, a contested name looks like any other: the first line is the
same in both runs, although only one of them fails. -/
theorem not_marking_of_colourless :
    let run entries := Invocation.run ⟨none, none, false, .check []⟩ [("CLICOLOR_FORCE", "1")]
      (.ok { color := false, entries })
    let one : Settings.Entry := ⟨some "a", some "1", none⟩
    (run [one, ⟨some "a", some "2", none⟩]).exit = 1 ∧
      (run [one, ⟨some "a", some "2", none⟩]).output = "  1. a 1\n" ++ "  2. a 2\n" ∧
      (run [one, ⟨some "b", some "2", none⟩]).exit = 0 ∧
      (run [one, ⟨some "b", some "2", none⟩]).output =
        "  1. a 1\n" ++ "  2. b 2\n" ++ "\n✓ 2 CTE(s), no conflicts\n" ∧
      ¬ ∀ entries supplied r,
        (buildRegistry { color := false, entries } [] false).run.value = .ok r →
        List.Forall₂ Settings.Entry.Supplies entries supplied →
        ∃ (listed : List Shown) (rest : String),
          (run entries).output = String.join (listed.map Shown.line) ++ rest ∧
          List.Forall₂ (fun p e => e.Marked ↔ Contested supplied p.1) (distinct supplied) listed := by
  intro run one
  have houtput : (run [one, ⟨some "a", some "2", none⟩]).output = "  1. a 1\n" ++ "  2. a 2\n" := by
    decide +kernel
  refine ⟨by decide +kernel,houtput,by decide +kernel,by decide +kernel,?_⟩
  intro hmarking
  obtain ⟨listed,rest,htext,hlisted⟩ := hmarking [one, ⟨some "a", some "2", none⟩]
    [("a", "1"), ("a", "2")] _ rfl (.cons (.named _ _) (.cons (.named _ _) .nil))
  have hkept : distinct [("a", "1"), ("a", "2")] = [("a", "1"), ("a", "2")] := by decide
  rw [hkept] at hlisted
  obtain ⟨e,listed,hmarked,-,rfl⟩ := List.forall₂_cons_left_iff.mp hlisted
  -- a mark begins with an escape, and the text has none
  have hescape : '\x1b' ∈ (String.join ((e :: listed).map Shown.line) ++ rest).toList := by
    have hname := (hmarked.mpr (by decide)).subset (List.mem_cons_self (a := '\x1b'))
    simp [Shown.line, hname]
  rw [← htext,houtput] at hescape
  revert hescape
  decide

end CommandLine
end WithClause
