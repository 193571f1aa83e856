import Mathlib.Data.List.Forall2
import Mathlib.Tactic.Common
import WithClause.Logged

/-! The outcome of an attempt follows the outcomes of its steps; the events play no part in it. A
traversal that fails does so with the first fault that it meets. -/
namespace WithClause

variable {ε δ α β : Type}

theorem bind_eq_ok_iff {x : Except ε α} {f : α → Except ε β} {b : β} :
    x >>= f = .ok b ↔ ∃ a, x = .ok a ∧ f a = .ok b := by
  cases x with
  | error e => simp [bind, Except.bind]
  | ok a => simp [bind, Except.bind]

theorem bind_eq_error_iff {x : Except ε α} {f : α → Except ε β} {e : ε} :
    x >>= f = .error e ↔ x = .error e ∨ ∃ a, x = .ok a ∧ f a = .error e := by
  cases x with
  | error e => simp [bind, Except.bind]
  | ok a => simp [bind, Except.bind]

theorem mapError_eq_ok_iff (g : ε → δ) {x : Except ε α} {a : α} :
    x.mapError g = .ok a ↔ x = .ok a := by
  cases x <;> simp [Except.mapError]

theorem mapError_eq_error_iff {g : ε → δ} {x : Except ε α} {d : δ} :
    x.mapError g = .error d ↔ ∃ e, x = .error e ∧ g e = d := by
  cases x <;> simp [Except.mapError]

theorem exists_of_mem_mapM {f : α → Except ε β} {as : List α} {bs : List β}
    (h : as.mapM f = .ok bs) {b : β} (hb : b ∈ bs) : ∃ a ∈ as, f a = .ok b := by
  induction as generalizing bs with
  | nil =>
    cases h
    cases hb
  | cons a as ih =>
    rw [List.mapM_cons,bind_eq_ok_iff] at h
    obtain ⟨c,hc,h⟩ := h
    rw [bind_eq_ok_iff] at h
    obtain ⟨cs,hcs,h⟩ := h
    cases h
    rcases List.mem_cons.mp hb with rfl | hb
    · exact ⟨a,by simp,hc⟩
    · obtain ⟨a',ha',hf⟩ := ih hcs hb
      exact ⟨a',by simp [ha'],hf⟩

theorem mapM_eq_ok_iff {f : α → Except ε β} {as : List α} {bs : List β} :
    as.mapM f = .ok bs ↔ List.Forall₂ (fun a b => f a = .ok b) as bs := by
  induction as generalizing bs with
  | nil =>
    rw [List.mapM_nil,List.forall₂_nil_left_iff]
    exact ⟨fun h => (Except.ok.inj h).symm,fun h => congrArg Except.ok h.symm⟩
  | cons a as ih =>
    rw [List.mapM_cons,bind_eq_ok_iff,List.forall₂_cons_left_iff]
    constructor
    · rintro ⟨b,hb,h⟩
      obtain ⟨cs,hcs,h⟩ := bind_eq_ok_iff.mp h
      cases h
      exact ⟨b,cs,hb,ih.mp hcs,rfl⟩
    · rintro ⟨b,cs,hb,hcs,rfl⟩
      exact ⟨b,hb,bind_eq_ok_iff.mpr ⟨cs,ih.mpr hcs,rfl⟩⟩

/-- An element that is refused, with the reason, while none in front of it is. -/
def FirstFault (fails : α → ε → Prop) (as : List α) (a : α) (error : ε) : Prop :=
  ∃ before after, as = before ++ a :: after ∧ (∀ b ∈ before, ∀ e, ¬ fails b e) ∧ fails a error

section FirstFault
variable {fails : α → ε → Prop} {a b : α} {as : List α} {error : ε}

lemma FirstFault.mem (h : FirstFault fails as a error) : a ∈ as := by
  obtain ⟨before,after,rfl,-,-⟩ := h
  exact List.mem_append_right before List.mem_cons_self

lemma FirstFault.holds (h : FirstFault fails as a error) : fails a error := by
  obtain ⟨before,after,-,-,ha⟩ := h
  exact ha

lemma firstFault_cons_iff : FirstFault fails (a :: as) b error ↔
    b = a ∧ fails a error ∨ (∀ e, ¬ fails a e) ∧ FirstFault fails as b error := by
  constructor
  · rintro ⟨before,after,hsplit,hbefore,hb⟩
    cases before with
    | nil =>
      obtain ⟨rfl,rfl⟩ := List.cons.inj hsplit
      exact .inl ⟨rfl,hb⟩
    | cons c before =>
      obtain ⟨rfl,rfl⟩ := List.cons.inj hsplit
      obtain ⟨ha,hbefore⟩ := List.forall_mem_cons.mp hbefore
      exact .inr ⟨ha,before,after,rfl,hbefore,hb⟩
  · rintro (⟨rfl,hb⟩ | ⟨ha,before,after,rfl,hbefore,hb⟩)
    · exact ⟨[],as,rfl,by simp,hb⟩
    · exact ⟨a :: before,after,rfl,List.forall_mem_cons.mpr ⟨ha,hbefore⟩,hb⟩

/-- Where there is a fault there is a first one. -/
theorem exists_firstFault_iff :
    (∃ a error, FirstFault fails as a error) ↔ ∃ a ∈ as, ∃ error, fails a error := by
  constructor
  · rintro ⟨a,error,before,after,rfl,-,h⟩
    exact ⟨a,by simp,error,h⟩
  · induction as with
    | nil => simp
    | cons a as ih =>
      simp only [firstFault_cons_iff]
      rintro ⟨b,hb,error,h⟩
      by_cases ha : ∃ e, fails a e
      · obtain ⟨e,he⟩ := ha
        exact ⟨a,e,.inl ⟨rfl,he⟩⟩
      · rw [not_exists] at ha
        rcases List.mem_cons.mp hb with rfl | hb
        · exact absurd h (ha error)
        · obtain ⟨c,e,hc⟩ := ih ⟨b,hb,error,h⟩
          exact ⟨c,e,.inr ⟨ha,hc⟩⟩

/-- A traversal stops at the first fault. -/
theorem mapM_eq_error_iff {f : α → Except ε β} (hf : ∀ a e, f a = .error e ↔ fails a e) :
    as.mapM f = .error error ↔ ∃ a, FirstFault fails as a error := by
  induction as with
  | nil =>
    rw [List.mapM_nil]
    constructor
    · intro h
      cases h
    · rintro ⟨a,h⟩
      cases h.mem
  | cons a as ih =>
    have hcons : (∃ b, FirstFault fails (a :: as) b error) ↔
        f a = .error error ∨ (∀ e, f a ≠ .error e) ∧ as.mapM f = .error error := by
      simp only [firstFault_cons_iff, exists_or, exists_eq_left, exists_and_left, ne_eq, hf, ih]
    rw [hcons,List.mapM_cons]
    cases f a with
    | error e => simp [bind, Except.bind]
    | ok b =>
      cases as.mapM f with
      | error e => simp [bind, Except.bind]
      | ok bs => simp [bind, Except.bind, pure, Except.pure]

end FirstFault

theorem value_run_bind (x : ExceptT ε Logged α) (f : α → ExceptT ε Logged β) :
    (x >>= f).run.value = x.run.value >>= fun a => (f a).run.value := by
  obtain ⟨result,events⟩ := x
  cases result <;> rfl

namespace Attempt

@[simp] theorem outcome_pure (a : α) : outcome (pure a) = .ok a := rfl

@[simp] theorem outcome_throw (e : Error) : outcome (throw e : Attempt α) = .error e := rfl

@[simp] theorem outcome_ofExcept (result : Except Error α) :
    (ofExcept result).outcome = result := rfl

@[simp] theorem outcome_emit (event : Event) : (emit event).outcome = .ok () := rfl

@[simp] theorem outcome_lift (x : Logged α) : outcome (ExceptT.lift x) = .ok x.value := rfl

@[simp] theorem outcome_bind (x : Attempt α) (f : α → Attempt β) :
    (x >>= f).outcome = x.outcome >>= fun a => (f a).outcome := value_run_bind x f

@[simp] theorem outcome_map (f : α → β) (x : Attempt α) : (f <$> x).outcome = f <$> x.outcome := by
  obtain ⟨result,events⟩ := x
  cases result <;> rfl

theorem outcome_mapM (f : α → Attempt β) (as : List α) :
    (as.mapM f).outcome = as.mapM fun a => (f a).outcome := by
  induction as with
  | nil => rfl
  | cons a as ih => simp [List.mapM_cons, ih]

end Attempt
end WithClause
