import Mathlib.Data.List.Infix
import Mathlib.Tactic.Common
import WithClause.Proofs.Text.Trim
import WithClause.Text.Parenthesis
import WithClause.Text.Quoted

/-! Balance of parentheses said by counting: in no beginning of the text are more closed than
opened, and in the whole text as many. -/
namespace WithClause.Text

/-- Closing parentheses never outnumber opening ones, and both are as many in the end. -/
def Balanced (cs : List Char) : Prop :=
  (∀ p, p <+: cs → p.count ')' ≤ p.count '(') ∧ cs.count '(' = cs.count ')'

lemma forall_prefix_cons {P : List Char → Prop} {c : Char} {cs : List Char} :
    (∀ p, p <+: c :: cs → P p) ↔ P [] ∧ ∀ p, p <+: cs → P (c :: p) := by
  constructor
  · intro h
    exact ⟨h [] List.nil_prefix,fun p hp => h (c :: p) (List.cons_prefix_cons.mpr ⟨rfl,hp⟩)⟩
  · rintro ⟨hnil,hcons⟩ p hp
    cases p with
    | nil => exact hnil
    | cons d p =>
      obtain ⟨rfl,ht⟩ := List.cons_prefix_cons.mp hp
      exact hcons p ht

/-- The depth is the number of open parentheses, as long as there are enough of them. -/
theorem depthAfter_eq_some_iff {depth final : ℕ} {cs : List Char} :
    depthAfter depth cs = some final ↔
      (∀ p, p <+: cs → p.count ')' ≤ depth + p.count '(') ∧
        depth + cs.count '(' = final + cs.count ')' := by
  induction cs generalizing depth with
  | nil =>
    simp only [depthAfter, Option.some.injEq, List.prefix_nil, forall_eq, List.count_nil]
    omega
  | cons c cs ih =>
    rw [forall_prefix_cons]
    by_cases ho : c = '('
    · subst ho
      have hcount : ∀ p : List Char, depth + 1 + p.count '(' = depth + (p.count '(' + 1) := by omega
      simp [ih, hcount]
    · by_cases hc : c = ')'
      · subst hc
        cases depth with
        | zero =>
          -- the first character alone is already one parenthesis too many
          have hone : ¬ ∀ p, p <+: cs → (')' :: p).count ')' ≤ 0 + (')' :: p).count '(' :=
            fun h => by simpa using h [] List.nil_prefix
          simp only [depthAfter_zero_close, hone]
          simp
        | succ depth =>
          simp only [depthAfter_succ_close, ih, List.count_nil, List.count_cons_self,
            List.count_cons_of_ne (Ne.symm (by decide : '(' ≠ ')'))]
          grind
      · simp [depthAfter_of_ne ho hc, List.count_cons_of_ne ho, List.count_cons_of_ne hc, ih]

theorem balanced_iff {cs : List Char} : balanced cs = true ↔ Balanced cs := by
  rw [balanced,beq_iff_eq,depthAfter_eq_some_iff,Balanced]
  simp

theorem balanced_iff_depthAfter {cs : List Char} : Balanced cs ↔ depthAfter 0 cs = some 0 := by
  rw [← balanced_iff,balanced,beq_iff_eq]

/-- A balanced text leaves every depth as it was. -/
lemma Balanced.depthAfter_eq {cs : List Char} (h : Balanced cs) (depth : ℕ) :
    depthAfter depth cs = some depth := by
  rw [depthAfter_eq_some_iff,h.2]
  exact ⟨fun p hp => (h.1 p hp).trans (Nat.le_add_left _ _),rfl⟩

/-- A class without parentheses has only texts that leave the depth as it was. -/
lemma depthAfter_of_forall {p : Char → Bool} {cs : List Char} (h : ∀ c ∈ cs, p c = true)
    (hopen : p '(' = false) (hclose : p ')' = false) (depth : ℕ) :
    depthAfter depth cs = some depth := by
  induction cs with
  | nil => rfl
  | cons c cs ih =>
    obtain ⟨hc,hcs⟩ := List.forall_mem_cons.mp h
    have hne : ∀ d, p d = false → c ≠ d := by
      rintro d hd rfl
      rw [hd] at hc
      cases hc
    rw [depthAfter_of_ne (hne _ hopen) (hne _ hclose)]
    exact ih hcs

lemma balanced_of_forall {p : Char → Bool} {cs : List Char} (h : ∀ c ∈ cs, p c = true)
    (hopen : p '(' = false) (hclose : p ')' = false) : Balanced cs :=
  balanced_iff_depthAfter.mpr (depthAfter_of_forall h hopen hclose 0)

theorem Balanced.append {xs ys : List Char} (hx : Balanced xs) (hy : Balanced ys) :
    Balanced (xs ++ ys) := by
  rw [balanced_iff_depthAfter,depthAfter_append,hx.depthAfter_eq,Option.bind_some]
  exact hy.depthAfter_eq 0

theorem Balanced.parenthesized {cs : List Char} (h : Balanced cs) :
    Balanced ('(' :: (cs ++ [')'])) := by
  rw [balanced_iff_depthAfter,depthAfter_open,depthAfter_append,h.depthAfter_eq,Option.bind_some]
  rfl

/-- Whatever follows a balanced text, the parenthesis in front of it is closed. -/
theorem Balanced.not_balanced_append_close {cs : List Char} (h : Balanced cs)
    (rest : List Char) : ¬ Balanced (cs ++ ')' :: rest) := by
  rw [balanced_iff_depthAfter,depthAfter_append,h.depthAfter_eq,Option.bind_some,
    depthAfter_zero_close]
  simp

/-- Other characters than parentheses may be written twice. -/
lemma depthAfter_double {q : Char} (hopen : q ≠ '(') (hclose : q ≠ ')') (depth : ℕ)
    (cs : List Char) : depthAfter depth (double q cs) = depthAfter depth cs := by
  induction cs generalizing depth with
  | nil => rfl
  | cons c cs ih =>
    have hcons : depthAfter depth (c :: cs) = (depthAfter depth [c]).bind (depthAfter · cs) :=
      depthAfter_append depth [c] cs
    have hstep : depthAfter depth (if c = q then [q, q] else [c]) = depthAfter depth [c] := by
      split
      · next h =>
        subst h
        simp [depthAfter_of_ne hopen hclose]
      · rfl
    rw [double_cons,depthAfter_append,hstep,hcons]
    simp only [ih]

lemma Balanced.enclose {q : Char} (hopen : q ≠ '(') (hclose : q ≠ ')') {cs : List Char}
    (h : Balanced cs) : Balanced (enclose q cs) := by
  have hq : Balanced [q] := by
    simp [balanced_iff_depthAfter, depthAfter_of_ne hopen hclose]
  have hdouble : Balanced (double q cs) := by
    rw [balanced_iff_depthAfter,depthAfter_double hopen hclose]
    exact h.depthAfter_eq 0
  exact hq.append (hdouble.append hq)

/-- Trimming takes no parenthesis away. -/
theorem balanced_trim {cs : List Char} : Balanced (trim cs) ↔ Balanced cs := by
  obtain ⟨l,r,hl,hr,h⟩ := exists_blank_trim cs
  have hdepth : depthAfter 0 cs = depthAfter 0 (trim cs) := by
    rw [h,depthAfter_append,depthAfter_append,depthAfter_of_forall hl (by decide) (by decide),← h,Option.bind_some]
    cases depthAfter 0 (trim cs) with
    | none => rfl
    | some final => exact depthAfter_of_forall hr (by decide) (by decide) final
  rw [← balanced_iff,← balanced_iff,balanced,balanced,hdepth]

instance (cs : List Char) : Decidable (Balanced cs) := decidable_of_iff _ balanced_iff

end WithClause.Text
