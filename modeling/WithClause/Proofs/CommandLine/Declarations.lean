import WithClause.CommandLine.Run
import WithClause.Proofs.Registry.Grouping
import WithClause.Proofs.Settings.Entries

/-! The declarations of the command line. They come to what further entries of the settings would have
come to, in the registry as well as in the error. -/
namespace WithClause

namespace Settings

def markRecursive (s : Settings) (recursive : Bool) : Settings :=
  { s with recursive := s.recursive || recursive }

/-- Settings with declarations behind their entries. -/
def withDeclarations (s : Settings) (declarations : List String) : Settings :=
  { s with
    entries := s.entries ++ declarations.map fun declaration => { definition := some declaration } }

variable {s : Settings} {declarations : List String}

lemma mapM_argument_declarations (declarations : List String) (k : Nat) :
    ((declarations.map fun declaration => ({ definition := some declaration } : Entry)).zipIdx
      k).mapM (fun entry => entry.1.argument entry.2) = .ok (declarations.map .text) := by
  induction declarations generalizing k with
  | nil => rfl
  | cons declaration declarations ih =>
    rw [List.map_cons,List.zipIdx_cons,List.mapM_cons,ih]
    rfl

lemma arguments_withDeclarations : (s.withDeclarations declarations).arguments =
    (· ++ declarations.map .text) <$> s.arguments := by
  rw [arguments,arguments,withDeclarations,List.zipIdx_append,List.mapM_append,
    mapM_argument_declarations]
  rfl

lemma arguments_of_entries_eq_nil (h : s.entries = []) : s.arguments = .ok [] := by
  rw [arguments,h]
  rfl

lemma withDeclarations_nil : s.withDeclarations [] = s := by
  rw [withDeclarations,List.map_nil,List.append_nil]

/-- Declarations behind the entries are attached to what the entries come to. -/
theorem outcome_registry_withDeclarations (h : declarations ≠ []) :
    (s.withDeclarations declarations).registry.outcome =
      s.registry.outcome >>= fun base =>
        (base.attach (declarations.map .text) s.recursive).outcome := by
  have htexts : declarations.map Argument.text ≠ [] := by simpa using h
  have hentries : (s.withDeclarations declarations).entries ≠ [] := by
    simp [withDeclarations, h]
  rw [outcome_registry hentries,arguments_withDeclarations]
  by_cases hs : s.entries = []
  · rw [registry_of_entries_eq_nil hs,arguments_of_entries_eq_nil hs]
    rfl
  · rw [outcome_registry hs]
    cases hargs : s.arguments with
    | error error => rfl
    | ok args =>
      have hsplit := Registry.outcome_attach_append (arguments_ne_nil hs hargs) htexts {}
        s.recursive s.recursive
      rw [Bool.or_self] at hsplit
      exact hsplit

end Settings

namespace CommandLine

variable {s : Settings} {declarations : List String} {recursive : Bool}

/-- The error behind a failure. -/
def Failure.cause? : Failure → Option Error
  | loading cause => some cause
  | settings cause => some cause
  | declaration cause => some cause
  | conflicting _ => none

lemma value_adapt {α : Type} (f : Error → Failure) (x : Attempt α) :
    (ExceptT.adapt f x).run.value = x.outcome.mapError f := rfl

lemma value_buildRegistry (h : declarations ≠ []) :
    (buildRegistry s declarations recursive).run.value =
      (s.markRecursive recursive).registry.outcome.mapError .settings >>= fun base =>
        (base.attach (declarations.map .text) (s.recursive || recursive)).outcome.mapError
          .declaration := by
  simp only [buildRegistry, value_run_bind, value_adapt, List.isEmpty_iff, h, if_false]
  rfl

lemma value_buildRegistry_nil : (buildRegistry s [] recursive).run.value =
    (s.markRecursive recursive).registry.outcome.mapError .settings := by
  rw [buildRegistry,value_run_bind,value_adapt]
  exact bind_pure _

/-- The command line attaches its declarations as if they stood behind the entries of the
settings. -/
theorem cause_buildRegistry (s : Settings) (declarations : List String) (recursive : Bool) :
    (buildRegistry s declarations recursive).run.value.mapError Failure.cause? =
      ((s.markRecursive recursive).withDeclarations declarations).registry.outcome.mapError
        some := by
  by_cases h : declarations = []
  · rw [h,value_buildRegistry_nil,Settings.withDeclarations_nil]
    cases (s.markRecursive recursive).registry.outcome <;> rfl
  · rw [value_buildRegistry h,Settings.outcome_registry_withDeclarations h]
    cases (s.markRecursive recursive).registry.outcome with
    | error error => rfl
    | ok base =>
      change ((base.attach _ _).outcome.mapError _).mapError _ =
        (base.attach _ (s.recursive || recursive)).outcome.mapError _
      cases (base.attach _ _).outcome <;> rfl

/-- The command line comes to the registry that settings with its declarations behind their entries
come to, or fails for the same error. That is the number of the first entry of neither form, and if
there is none the fault of the first entry whose content is refused. Nothing declared is the empty
registry. -/
theorem buildRegistry_appended (s : Settings) (declarations : List String) (recursive : Bool) :
    let built := (buildRegistry s declarations recursive).run.value
    let appended := (s.markRecursive recursive).withDeclarations declarations
    (∀ r, built = .ok r ↔ appended.registry.outcome = .ok r) ∧
    (∀ error, (∃ failure, built = .error failure ∧ failure.cause? = some error) ↔
      appended.registry.outcome = .error error) ∧
    (∀ error, appended.registry.outcome = .error error ↔
      Settings.Refused appended.entries error) ∧
    (s.entries = [] → declarations = [] →
      built = .ok {} ∧ appended.registry.outcome = .ok {}) := by
  intro built appended
  have hcause : built.mapError Failure.cause? = appended.registry.outcome.mapError some :=
    cause_buildRegistry s declarations recursive
  have hok : ∀ r, built = .ok r ↔ appended.registry.outcome = .ok r := by
    intro r
    rw [← mapError_eq_ok_iff Failure.cause?,hcause,mapError_eq_ok_iff]
  have herror : ∀ error, (∃ failure, built = .error failure ∧ failure.cause? = some error) ↔
      appended.registry.outcome = .error error := by
    intro error
    rw [← mapError_eq_error_iff,hcause,mapError_eq_error_iff]
    simp
  refine ⟨hok,herror,fun _ => Settings.registry_eq_error_iff,?_⟩
  intro hs hdeclarations
  have hempty : appended.registry.outcome = .ok {} :=
    Settings.registry_of_entries_eq_nil (by simp [appended, Settings.withDeclarations,
      Settings.markRecursive, hs, hdeclarations])
  exact ⟨(hok {}).mpr hempty,hempty⟩

/-- The form of the third entry goes before the content of the second and of the declaration. Without
faults, a declaration that is there already adds nothing but the mark it comes with. -/
theorem buildRegistry_appended_mixed :
    let faulty : Settings := { entries := [⟨some "a", some "1", none⟩, ⟨none, none, some "b"⟩,
      ⟨some "c", none, none⟩] }
    let s : Settings := { entries := [⟨some "a", some "1", none⟩] }
    (∃ failure, (buildRegistry faulty ["d"] false).run.value = .error failure ∧
      failure.cause? = some (.incompleteEntry 3)) ∧
    (buildRegistry s ["\"a\" AS (1)", "\"b\" AS (2)"] true).run.value =
      .ok ⟨[.raw "a" "1", .raw "b" "2"], true⟩ ∧
    (buildRegistry {} [] true).run.value = .ok {} := by
  intro faulty s
  refine ⟨?_,?_,?_⟩
  · have hfault : FirstFault Settings.Misfit
        (((faulty.markRecursive false).withDeclarations ["d"]).entries.zipIdx 1)
        (⟨some "c", none, none⟩, 3) (.incompleteEntry 3) := by
      refine ⟨[(⟨some "a", some "1", none⟩, 1), (⟨none, none, some "b"⟩, 2)],
        [(⟨none, none, some "d"⟩, 4)],rfl,?_,?_,rfl⟩
      · simp only [List.forall_mem_cons]
        refine ⟨fun e h => h.1 _ (.named "a" "1"),fun e h => h.1 _ (.declared "b"),by simp⟩
      · rintro i ⟨⟩
    obtain ⟨-,herror,hrefused,-⟩ := buildRegistry_appended faulty ["d"] false
    exact (herror _).mpr ((hrefused _).mpr (.form hfault))
  · obtain ⟨hok,-⟩ := buildRegistry_appended s ["\"a\" AS (1)", "\"b\" AS (2)"] true
    have hattach : (Registry.attach {} [.mapping [("a", .raw "1")], .text "\"a\" AS (1)",
        .text "\"b\" AS (2)"] true).outcome = .ok ⟨[.raw "a" "1", .raw "b" "2"], true⟩ := by
      refine Registry.outcome_attach_eq_ok_iff.mpr
        ⟨[.raw "a" "1", .raw "a" "1", .raw "b" "2"],rfl,?_⟩
      simp [Registry.markRecursive, Registry.insert, Registry.holds, Definition.same, Body.same,
        Definition.raw]
    exact (hok _).mpr hattach
  · obtain ⟨-,-,-,hempty⟩ := buildRegistry_appended {} [] true
    exact (hempty rfl rfl).1

end CommandLine
end WithClause
