import WithClause.Proofs.Registry.Items
import WithClause.Settings

/-! What the entries of settings ask for. The forms of all entries are looked at before the content of
any of them. -/
namespace WithClause.Settings

/-- The item that an entry asks for, which must have one of two forms. -/
inductive Entry.Asks : Entry → Item → Prop
  | named (name sql : String) : Asks ⟨some name, some sql, none⟩ (.entry name (.raw sql))
  | declared (declaration : String) :
    Asks ⟨none, none, some declaration⟩ (.element (.text declaration))

/-- An entry of neither form is refused by its number. -/
def Misfit (entry : Entry × Nat) (error : Error) : Prop :=
  (∀ i, ¬ entry.1.Asks i) ∧ error = .incompleteEntry entry.2

/-- The errors for which entries are refused. -/
inductive Refused (entries : List Entry) (error : Error) : Prop
  | form {entry : Entry × Nat} (h : FirstFault Misfit (entries.zipIdx 1) entry error)
  | content {items : List Item} {i : Item} (hforms : List.Forall₂ Entry.Asks entries items)
    (h : FirstFault Item.Fails items i error)

lemma Entry.Asks.argument {e : Entry} {i : Item} (h : e.Asks i) (number : Nat) :
    ∃ a, e.argument number = .ok a ∧ a.items = [i] := by
  cases h with
  | named name sql => exact ⟨_,rfl,rfl⟩
  | declared declaration => exact ⟨_,rfl,rfl⟩

lemma Entry.argument_cases (e : Entry) (number : Nat) :
    (∃ i, e.Asks i) ∨
      (∀ i, ¬ e.Asks i) ∧ e.argument number = .error (.incompleteEntry number) := by
  obtain ⟨name,sql,definition⟩ := e
  rcases name with - | name <;> rcases sql with - | sql <;> rcases definition with - | definition
  case none.none.some => exact .inl ⟨_,.declared definition⟩
  case some.some.none => exact .inl ⟨_,.named name sql⟩
  all_goals
    refine .inr ⟨?_,rfl⟩
    rintro i ⟨⟩

lemma Entry.argument_eq_error_iff {e : Entry} {number : Nat} {error : Error} :
    e.argument number = .error error ↔ Misfit (e, number) error := by
  rcases e.argument_cases number with ⟨i,hi⟩ | ⟨hnone,hargument⟩
  · obtain ⟨a,ha,-⟩ := hi.argument number
    rw [ha]
    refine iff_of_false (fun h => by cases h) ?_
    rintro ⟨hnone,-⟩
    exact hnone i hi
  · rw [hargument,Except.error.injEq,Misfit,eq_comm]
    exact (and_iff_right hnone).symm

/-- The arguments ask for what the entries ask for, one item an entry. -/
lemma exists_arguments_iff {entries : List Entry} {items : List Item} (k : Nat) :
    (∃ args, ((entries.zipIdx k).mapM fun entry => entry.1.argument entry.2) = .ok args ∧
      args.flatMap Argument.items = items) ↔ List.Forall₂ Entry.Asks entries items := by
  induction entries generalizing k items with
  | nil =>
    rw [List.zipIdx_nil,List.mapM_nil,List.forall₂_nil_left_iff]
    constructor
    · rintro ⟨args,h,rfl⟩
      cases h
      rfl
    · rintro rfl
      exact ⟨[],rfl,rfl⟩
  | cons e entries ih =>
    rw [List.zipIdx_cons,List.mapM_cons]
    constructor
    · rintro ⟨args,h,rfl⟩
      obtain ⟨a,ha,h⟩ := bind_eq_ok_iff.mp h
      obtain ⟨rest,hrest,h⟩ := bind_eq_ok_iff.mp h
      cases h
      rcases e.argument_cases k with ⟨i,hi⟩ | ⟨-,herror⟩
      · obtain ⟨b,hb,hitems⟩ := hi.argument k
        obtain rfl := Except.ok.inj (hb.symm.trans ha)
        rw [List.flatMap_cons,hitems]
        exact .cons hi ((ih (k+1)).mp ⟨rest,hrest,rfl⟩)
      · rw [herror] at ha
        cases ha
    · intro h
      cases h with
      | cons hi hrest =>
        obtain ⟨a,ha,hitem⟩ := hi.argument k
        obtain ⟨rest,hrest,hitems⟩ := (ih (k+1)).mpr hrest
        refine ⟨a :: rest,bind_eq_ok_iff.mpr ⟨a,ha,bind_eq_ok_iff.mpr ⟨rest,hrest,rfl⟩⟩,?_⟩
        rw [List.flatMap_cons,hitem,hitems]
        rfl

lemma arguments_ne_nil {s : Settings} (h : s.entries ≠ []) {args : List Argument}
    (hargs : s.arguments = .ok args) : args ≠ [] := by
  rintro rfl
  exact h (List.forall₂_nil_right_iff.mp ((exists_arguments_iff 1).mp ⟨[],hargs,rfl⟩))

lemma registry_of_entries_eq_nil {s : Settings} (h : s.entries = []) :
    s.registry.outcome = .ok {} := by
  rw [registry,h]
  rfl

lemma outcome_registry {s : Settings} (h : s.entries ≠ []) : s.registry.outcome =
    s.arguments >>= fun args => (Registry.attach {} args s.recursive).outcome := by
  rw [registry,if_neg (by simpa using h),Attempt.outcome_bind,Attempt.outcome_ofExcept]

/-- The registry of settings is refused for the first entry of neither form, and if there is none, for
the first whose content is at fault. -/
theorem registry_eq_error_iff {s : Settings} {error : Error} :
    s.registry.outcome = .error error ↔ Refused s.entries error := by
  by_cases hne : s.entries = []
  · rw [registry_of_entries_eq_nil hne,hne]
    refine iff_of_false (fun h => by cases h) ?_
    rintro (⟨h⟩ | ⟨hforms,h⟩)
    · cases h.mem
    · cases hforms
      cases h.mem
  · rw [outcome_registry hne,bind_eq_error_iff]
    constructor
    · rintro (h | ⟨args,hok,h⟩)
      · obtain ⟨entry,hentry⟩ := (mapM_eq_error_iff fun _ _ => Entry.argument_eq_error_iff).mp h
        exact .form hentry
      · obtain ⟨i,hi⟩ := (Registry.attach_eq_error_iff (arguments_ne_nil hne hok)).mp h
        exact .content ((exists_arguments_iff 1).mp ⟨args,hok,rfl⟩) hi
    · rintro (⟨h⟩ | ⟨hforms,h⟩)
      · exact .inl ((mapM_eq_error_iff fun _ _ => Entry.argument_eq_error_iff).mpr ⟨_,h⟩)
      · obtain ⟨args,hok,rfl⟩ := (exists_arguments_iff 1).mpr hforms
        exact .inr ⟨args,hok,(Registry.attach_eq_error_iff (arguments_ne_nil hne hok)).mpr ⟨_,h⟩⟩

/-- Settings that are not refused come to the definitions that their entries declare, and to the mark
only if there are entries. -/
theorem registry_eq_ok_iff {s : Settings} {r : Registry} : s.registry.outcome = .ok r ↔
    ∃ items ds, List.Forall₂ Entry.Asks s.entries items ∧ List.Forall₂ Item.Declares items ds ∧
      r = ds.foldl Registry.insert ⟨[], s.recursive && !s.entries.isEmpty⟩ := by
  by_cases hne : s.entries = []
  · rw [registry_of_entries_eq_nil hne,hne,List.isEmpty_nil,Bool.not_true,Bool.and_false]
    constructor
    · intro h
      cases h
      exact ⟨[],[],.nil,.nil,rfl⟩
    · rintro ⟨items,ds,hitems,hds,rfl⟩
      cases hitems
      cases hds
      rfl
  · have hentries : s.entries.isEmpty = false := List.isEmpty_eq_false_iff.mpr hne
    rw [outcome_registry hne,bind_eq_ok_iff,hentries,Bool.not_false,Bool.and_true]
    constructor
    · rintro ⟨args,hargs,h⟩
      obtain ⟨ds,hds,rfl⟩ := Registry.outcome_attach_eq_ok_iff.mp h
      rw [Argument.outcome_resolveAll (arguments_ne_nil hne hargs),mapM_eq_ok_iff] at hds
      exact ⟨_,ds,(exists_arguments_iff 1).mp ⟨args,hargs,rfl⟩,
        hds.imp fun _ _ => Item.resolve_eq_ok_iff.mp,rfl⟩
    · rintro ⟨items,ds,hitems,hds,rfl⟩
      obtain ⟨args,hargs,rfl⟩ := (exists_arguments_iff 1).mpr hitems
      refine ⟨args,hargs,Registry.outcome_attach_eq_ok_iff.mpr ⟨ds,?_,rfl⟩⟩
      rw [Argument.outcome_resolveAll (arguments_ne_nil hne hargs),mapM_eq_ok_iff]
      exact hds.imp fun _ _ => Item.resolve_eq_ok_iff.mpr

end WithClause.Settings
