import Mathlib.Init

set_option autoImplicit false

namespace Runs

variable {S R Op : Type}

theorem run_simulates (step : S → Op → S) (refStep : R → Op → R) (abs : S → R) (inv : S → Prop)
    (keeps : ∀ s op, inv s → inv (step s op)) (commutes : ∀ s op, inv s → abs (step s op) = refStep (abs s) op)
    (ops : List Op) (s : S) (start : inv s) :
    inv (ops.foldl step s) ∧ abs (ops.foldl step s) = ops.foldl refStep (abs s) := by
  induction ops generalizing s with
  | nil => exact ⟨start, rfl⟩
  | cons op rest ih =>
    have later := ih (step s op) (keeps s op start)
    rw [commutes s op start] at later
    exact later

theorem run_history (step : S → Op → S) (s : S) (holds : List Op → S → Prop) (start : holds [] s)
    (extend : ∀ ops op, holds ops (ops.foldl step s) → holds (ops ++ [op]) (step (ops.foldl step s) op))
    (ops : List Op) : holds ops (ops.foldl step s) := by
  have reversed (past : List Op) : holds past.reverse (past.reverse.foldl step s) := by
    induction past with
    | nil => exact start
    | cons op rest ih =>
      rw [List.reverse_cons, List.foldl_append]
      exact extend rest.reverse op ih
  simpa using reversed ops.reverse

-- Where an operation can stand in a run that is one longer.
theorem concat_split (ops older newer : List Op) (op next : Op) :
    ops ++ [op] = older ++ next :: newer ↔
      (newer = [] ∧ ops = older ∧ op = next) ∨ ∃ front, newer = front ++ [op] ∧ ops = older ++ next :: front := by
  constructor
  · intro split
    cases List.eq_nil_or_concat newer with
    | inl empty =>
      subst empty
      obtain ⟨same, last⟩ := List.append_inj' split rfl
      exact .inl ⟨rfl, same, List.singleton_inj.mp last⟩
    | inr more =>
      obtain ⟨front, final, rfl⟩ := more
      rw [List.concat_eq_append, ← List.cons_append, ← List.append_assoc] at split
      obtain ⟨same, last⟩ := List.append_inj' split rfl
      refine .inr ⟨front, ?_, same⟩
      rw [List.concat_eq_append, last]
  · intro split
    cases split with
    | inl last =>
      obtain ⟨rfl, rfl, rfl⟩ := last
      rfl
    | inr earlier =>
      obtain ⟨front, rfl, rfl⟩ := earlier
      simp

theorem forall_split_cons (holds : Op → List Op → Prop) (first : Op) (rest : List Op) :
    (∀ older next newer, first :: rest = older ++ next :: newer → holds next newer) ↔
      holds first rest ∧ ∀ older next newer, rest = older ++ next :: newer → holds next newer := by
  constructor
  · intro each
    refine ⟨each [] first rest rfl, ?_⟩
    intro older next newer split
    exact each (first :: older) next newer (by rw [split, List.cons_append])
  · intro each older next newer split
    cases older with
    | nil =>
      cases split
      exact each.1
    | cons head older =>
      cases split
      exact each.2 older next newer rfl

def EachStep (allowed : List Op → Op → Prop) (ops : List Op) : Prop :=
  ∀ older op newer, ops = older ++ op :: newer → allowed older op

theorem eachStep_nil (allowed : List Op → Op → Prop) : EachStep allowed [] := by
  intro older op newer split
  simp at split

theorem eachStep_concat (allowed : List Op → Op → Prop) (ops : List Op) (op : Op) :
    EachStep allowed (ops ++ [op]) ↔ EachStep allowed ops ∧ allowed ops op := by
  constructor
  · intro each
    refine ⟨?_, each ops op [] rfl⟩
    intro older next newer split
    exact each older next (newer ++ [op]) (by simp [split])
  · intro each older next newer split
    cases (concat_split ops older newer op next).mp split with
    | inl last =>
      obtain ⟨rfl, rfl, rfl⟩ := last
      exact each.2
    | inr earlier =>
      obtain ⟨front, rfl, same⟩ := earlier
      exact each.1 older next front same

theorem eachStep_prefix (allowed : List Op → Op → Prop) (past ops : List Op) (each : EachStep allowed ops)
    (inside : past <+: ops) : EachStep allowed past := by
  obtain ⟨rest, rfl⟩ := inside
  intro older op newer split
  exact each older op (newer ++ rest) (by simp [split])

theorem follows_or_spoiled (step : S → Op → S) (s : S) (allowed : List Op → Op → Prop)
    (follows spoiled : List Op → S → Prop) (ops : List Op) (start : follows [] s)
    (keeps : ∀ older op newer state, ops = older ++ op :: newer → follows older state → allowed older op →
      follows (older ++ [op]) (step state op))
    (spoils : ∀ older op newer state, ops = older ++ op :: newer → follows older state → ¬allowed older op →
      spoiled (older ++ [op]) (step state op))
    (stays : ∀ older op state, spoiled older state → spoiled (older ++ [op]) (step state op)) :
    (EachStep allowed ops ∧ follows ops (ops.foldl step s)) ∨
      (¬EachStep allowed ops ∧ spoiled ops (ops.foldl step s)) := by
  have reached (past : List Op) (inside : past <+: ops) :
      (EachStep allowed past ∧ follows past (past.foldl step s)) ∨
        (¬EachStep allowed past ∧ spoiled past (past.foldl step s)) := by
    apply run_history step s
      (fun past state => past <+: ops →
        (EachStep allowed past ∧ follows past state) ∨ (¬EachStep allowed past ∧ spoiled past state))
    · intro _
      exact .inl ⟨eachStep_nil allowed, start⟩
    · intro older op ih within
      obtain ⟨newer, split⟩ := within
      rw [List.append_assoc, List.singleton_append] at split
      simp only [eachStep_concat]
      cases ih ⟨op :: newer, split⟩ with
      | inl good =>
        by_cases safe : allowed older op
        · exact .inl ⟨⟨good.1, safe⟩, keeps older op newer _ split.symm good.2 safe⟩
        · exact .inr ⟨fun each => safe each.2, spoils older op newer _ split.symm good.2 safe⟩
      | inr bad => exact .inr ⟨fun each => bad.1 each.1, stays older op _ bad.2⟩
    · exact inside
  exact reached ops List.prefix_rfl

variable {E : Type}

def trace (event : S → Op → E) (step : S → Op → S) : S → List Op → List E
  | _, [] => []
  | s, op :: rest => event s op :: trace event step (step s op) rest

theorem trace_append (event : S → Op → E) (step : S → Op → S) (s : S) (older newer : List Op) :
    trace event step s (older ++ newer) = trace event step s older ++ trace event step (older.foldl step s) newer := by
  induction older generalizing s with
  | nil => rfl
  | cons op rest ih => simp [trace, ih]

theorem trace_split (event : S → Op → E) (step : S → Op → S) (s : S) (ops : List Op) (before after : List E) (e : E)
    (split : trace event step s ops = before ++ e :: after) :
    ∃ older op newer, ops = older ++ op :: newer ∧ event (older.foldl step s) op = e ∧
      trace event step (step (older.foldl step s) op) newer = after := by
  induction before generalizing s ops with
  | nil =>
    cases ops with
    | nil => cases split
    | cons op rest =>
      cases split
      exact ⟨[], op, rest, rfl, rfl, rfl⟩
  | cons first before ih =>
    cases ops with
    | nil => cases split
    | cons op rest =>
      rw [trace, List.cons_append, List.cons.injEq] at split
      obtain ⟨older, next, newer, rfl, here, later⟩ := ih (step s op) rest split.2
      exact ⟨op :: older, next, newer, rfl, here, later⟩

-- A second system that takes part in some of the steps shows the same of its events as the first does.
theorem trace_projects {T Op' E' F : Type} (event : S → Op → E) (step : S → Op → S) (event' : T → Op' → E')
    (step' : T → Op' → T) (view : Op → Option Op') (shows : E → List F) (shows' : E' → List F) (related : S → T → Prop)
    (joint : ∀ s t op op', related s t → view op = some op' →
      shows (event s op) = shows' (event' t op') ∧ related (step s op) (step' t op'))
    (alone : ∀ s t op, related s t → view op = none → shows (event s op) = [] ∧ related (step s op) t)
    (ops : List Op) (s : S) (t : T) (start : related s t) :
    (trace event step s ops).flatMap shows = (trace event' step' t (ops.filterMap view)).flatMap shows' := by
  induction ops generalizing s t with
  | nil => rfl
  | cons op rest ih =>
    rw [trace, List.flatMap_cons]
    cases seen : view op with
    | none =>
      obtain ⟨silent, still⟩ := alone s t op start seen
      rw [List.filterMap_cons_none seen, silent, List.nil_append]
      exact ih (step s op) t still
    | some op' =>
      obtain ⟨same, still⟩ := joint s t op op' start seen
      rw [List.filterMap_cons_some seen, trace, List.flatMap_cons, same, ih (step s op) (step' t op') still]

theorem countP_trace (event : S → Op → E) (step : S → Op → S) (s : S) (ops : List Op) (p : E → Bool) (q : Op → Bool)
    (same : ∀ s op, p (event s op) = q op) : (trace event step s ops).countP p = ops.countP q := by
  induction ops generalizing s with
  | nil => rfl
  | cons op rest ih => rw [trace, List.countP_cons, List.countP_cons, ih, same]

end Runs
