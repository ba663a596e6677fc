import Mathlib.Data.List.Induction
import Mathlib.Order.Lattice
import Mathlib.Order.Monotone.Basic
import MavRouter.Shared.Runs

set_option autoImplicit false

namespace Backoff

structure Policy (A : Type) [LinearOrder A] where
  least : A
  cap : A
  longer : A → A
  mono : Monotone longer
  fits : least ≤ cap
  grows : cap ≤ longer cap

namespace Policy

variable {A : Type} [LinearOrder A] (policy : Policy A)

def next (current : A) : A := min policy.cap (policy.longer current)

def round (current : A) (resets : Bool) : A × A :=
  let current := if resets then policy.least else current
  (current, policy.next current)

def delay (count : Nat) : A := min policy.cap (policy.longer^[count] policy.least)

def kept (rounds : List Bool) : A := rounds.foldl (fun current resets => (policy.round current resets).2) policy.least

end Policy

def streak (rounds : List Bool) : Nat := rounds.foldl (fun count resets => (if resets then 0 else count) + 1) 0

theorem streak_concat (rounds : List Bool) (resets : Bool) :
    streak (rounds ++ [resets]) = (if resets then 0 else streak rounds) + 1 := by
  simp [streak]

section Delays

variable {A : Type} [LinearOrder A] (policy : Policy A)

-- It makes no difference whether the cap cuts a delay before it grows or only afterwards.
theorem next_capped (x : A) : policy.next (min policy.cap x) = policy.next x := by
  rw [Policy.next, Policy.next]
  rcases le_total policy.cap x with above | below
  · have further : policy.cap ≤ policy.longer x := policy.grows.trans (policy.mono above)
    rw [min_eq_left above, min_eq_left policy.grows, min_eq_left further]
  · rw [min_eq_right below]

theorem delay_zero : policy.delay 0 = policy.least := min_eq_right policy.fits

theorem delay_succ (count : Nat) : policy.delay (count + 1) = policy.next (policy.delay count) := by
  rw [Policy.delay, Policy.delay, next_capped, Function.iterate_succ_apply', Policy.next]

theorem kept_delay (rounds : List Bool) : policy.kept rounds = policy.delay (streak rounds) := by
  induction rounds using List.reverseRecOn with
  | nil => exact (delay_zero policy).symm
  | append_singleton rounds resets ih =>
    have last : policy.kept (rounds ++ [resets]) = (policy.round (policy.kept rounds) resets).2 := by
      simp [Policy.kept]
    rw [last, ih, streak_concat, delay_succ, Policy.round]
    cases resets
    · rfl
    · rw [if_pos rfl, if_pos rfl, delay_zero]

theorem round_delay (rounds : List Bool) (resets : Bool) :
    (policy.round (policy.kept rounds) resets).1 = policy.delay (if resets then 0 else streak rounds) := by
  cases resets with
  | false => exact kept_delay policy rounds
  | true => exact (delay_zero policy).symm

end Delays

section Pacing

variable {A S Op : Type} [LinearOrder A] (policy : Policy A)

def Paced (log : List (Bool × A)) : Prop :=
  ∀ older resets wait newer, log = older ++ (resets, wait) :: newer →
    wait = policy.delay (if resets then 0 else streak (older.map Prod.fst))

theorem paced_concat (log : List (Bool × A)) (resets : Bool) (wait : A) (paced : Paced policy log)
    (last : wait = policy.delay (if resets then 0 else streak (log.map Prod.fst))) :
    Paced policy (log ++ [(resets, wait)]) := by
  intro older again other newer split
  rcases (Runs.concat_split ..).mp split with ⟨_, rfl, same⟩ | ⟨front, _, within⟩
  · cases same
    exact last
  · exact paced older again other front within

def log (emit : S → Op → Option (Bool × A)) (step : S → Op → S) (s : S) (ops : List Op) : List (Bool × A) :=
  (Runs.trace emit step s ops).flatMap Option.toList

omit [LinearOrder A] in
theorem log_concat (emit : S → Op → Option (Bool × A)) (step : S → Op → S) (s : S) (ops : List Op) (op : Op) :
    log emit step s (ops ++ [op]) = log emit step s ops ++ (emit (ops.foldl step s) op).toList := by
  simp [log, Runs.trace_append, Runs.trace]

theorem run_paced (emit : S → Op → Option (Bool × A)) (step : S → Op → S) (keeps : S → List Bool → Prop) (s : S)
    (start : keeps s [])
    (silent : ∀ s rounds op, keeps s rounds → emit s op = none → keeps (step s op) rounds)
    (turns : ∀ s rounds op resets wait, keeps s rounds → emit s op = some (resets, wait) →
      wait = policy.delay (if resets then 0 else streak rounds) ∧ keeps (step s op) (rounds ++ [resets]))
    (ops : List Op) :
    Paced policy (log emit step s ops) ∧ keeps (ops.foldl step s) ((log emit step s ops).map Prod.fst) := by
  apply Runs.run_history step s (fun ops reached =>
    Paced policy (log emit step s ops) ∧ keeps reached ((log emit step s ops).map Prod.fst))
  · refine ⟨?_, start⟩
    intro older resets wait newer split
    simp [log, Runs.trace] at split
  · rintro ops op ⟨paced, kept⟩
    rw [log_concat]
    cases emitted : emit (ops.foldl step s) op with
    | none => simpa using ⟨paced, silent _ _ op kept emitted⟩
    | some turn =>
      obtain ⟨resets, wait⟩ := turn
      obtain ⟨here, later⟩ := turns _ _ op resets wait kept emitted
      rw [Option.toList_some, List.map_append]
      exact ⟨paced_concat policy _ resets wait paced here, later⟩

end Pacing

end Backoff
