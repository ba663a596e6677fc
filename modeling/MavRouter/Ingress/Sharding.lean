import MavRouter.Ingress.Dedup
import MavRouter.Shared.Runs

set_option autoImplicit false

namespace MavRouter.Ingress

open Maps Runs

inductive DedupCall where
  | checkAndInsert (payload : List UInt8)
  | rotate

/-- The steps of a shared dedup: one lock each, so that a rotation is sixteen of them. -/
inductive DedupStep where
  | checkAndInsert (payload : List UInt8)
  | rotateShard (shard : Fin numShards)
  deriving DecidableEq

abbrev Answer := Option (List UInt8 × Bool)

namespace Dedup

def apply (ahash : List UInt8 → UInt64) (dedup : Dedup) : DedupCall → Dedup
  | .checkAndInsert payload => (dedup.checkAndInsert ahash payload).2
  | .rotate => dedup.rotateBucket

def answer (ahash : List UInt8 → UInt64) (dedup : Dedup) : DedupCall → Answer
  | .checkAndInsert payload => some (payload, (dedup.checkAndInsert ahash payload).1)
  | .rotate => none

def answers (ahash : List UInt8 → UInt64) (dedup : Dedup) (calls : List DedupCall) : List Answer :=
  trace (answer ahash) (apply ahash) dedup calls

end Dedup

namespace ConcurrentDedup

def apply (ahash : List UInt8 → UInt64) (dedup : ConcurrentDedup) : DedupCall → ConcurrentDedup
  | .checkAndInsert payload => (dedup.checkAndInsert ahash payload).2
  | .rotate => dedup.rotateBuckets

def answer (ahash : List UInt8 → UInt64) (dedup : ConcurrentDedup) : DedupCall → Answer
  | .checkAndInsert payload => some (payload, (dedup.checkAndInsert ahash payload).1)
  | .rotate => none

def answers (ahash : List UInt8 → UInt64) (dedup : ConcurrentDedup) (calls : List DedupCall) : List Answer :=
  trace (answer ahash) (apply ahash) dedup calls

def step (ahash : List UInt8 → UInt64) (dedup : ConcurrentDedup) : DedupStep → ConcurrentDedup
  | .checkAndInsert payload => (dedup.checkAndInsert ahash payload).2
  | .rotateShard shard => dedup.rotateShard shard

def stepAnswer (ahash : List UInt8 → UInt64) (dedup : ConcurrentDedup) : DedupStep → Answer
  | .checkAndInsert payload => some (payload, (dedup.checkAndInsert ahash payload).1)
  | .rotateShard _ => none

def stepAnswers (ahash : List UInt8 → UInt64) (dedup : ConcurrentDedup) (steps : List DedupStep) : List Answer :=
  trace (stepAnswer ahash) (step ahash) dedup steps

end ConcurrentDedup

def aboutPayload (payload : List UInt8) : Answer → List Bool
  | some (asked, answer) => if asked = payload then [answer] else []
  | none => []

def answersFor (payload : List UInt8) (answers : List Answer) : List Bool := answers.flatMap (aboutPayload payload)

def DedupStep.seenBy (sees : List UInt8 → Bool) (shard : Fin numShards) : DedupStep → Option DedupCall
  | .checkAndInsert payload => if sees payload then some (.checkAndInsert payload) else none
  | .rotateShard rotated => if rotated = shard then some .rotate else none

structure Agree (hash : UInt64) (a b : Dedup) : Prop where
  dedupPeriod : a.dedupPeriod = b.dedupPeriod
  numBuckets : a.numBuckets = b.numBuckets
  currentBucket : a.currentBucket = b.currentBucket
  length : a.buckets.length = b.buckets.length
  holds : ∀ index, Wheel.Holds a.buckets index hash ↔ Wheel.Holds b.buckets index hash

namespace Agree

variable {hash : UInt64} {a b c : Dedup}

theorem refl (hash : UInt64) (a : Dedup) : Agree hash a a := ⟨rfl, rfl, rfl, rfl, fun _ => Iff.rfl⟩

theorem symm (agree : Agree hash a b) : Agree hash b a :=
  ⟨agree.dedupPeriod.symm, agree.numBuckets.symm, agree.currentBucket.symm, agree.length.symm,
    fun index => (agree.holds index).symm⟩

theorem trans (first : Agree hash a b) (second : Agree hash b c) : Agree hash a c :=
  ⟨first.dedupPeriod.trans second.dedupPeriod, first.numBuckets.trans second.numBuckets,
    first.currentBucket.trans second.currentBucket, first.length.trans second.length,
    fun index => (first.holds index).trans (second.holds index)⟩

theorem contains (agree : Agree hash a b) : a.contains hash = b.contains hash := by
  rw [Bool.eq_iff_iff, Dedup.contains, Dedup.contains, Wheel.any_holds, Wheel.any_holds]
  exact exists_congr agree.holds

theorem insertHash (agree : Agree hash a b) (inserted : UInt64) :
    Agree hash (a.insertHash inserted) (b.insertHash inserted) where
  dedupPeriod := agree.dedupPeriod
  numBuckets := agree.numBuckets
  currentBucket := agree.currentBucket
  length := by simpa [Dedup.insertHash] using agree.length
  holds := by
    intro index
    by_cases inside : a.currentBucket < a.buckets.length
    · simp only [Dedup.insertHash, ← agree.currentBucket]
      rw [Wheel.holds_modify _ _ _ _ _ inside, Wheel.holds_modify _ _ _ _ _ (agree.length ▸ inside), agree.holds]
    · have outside : ¬b.currentBucket < b.buckets.length := by rwa [← agree.currentBucket, ← agree.length]
      simp only [Dedup.insertHash, List.modify_eq_self (Nat.le_of_not_lt inside),
        List.modify_eq_self (Nat.le_of_not_lt outside)]
      exact agree.holds index

theorem insertHash_other (inserted : UInt64) (other : inserted ≠ hash) : Agree hash (a.insertHash inserted) a where
  dedupPeriod := rfl
  numBuckets := rfl
  currentBucket := rfl
  length := by simp [Dedup.insertHash]
  holds := by
    intro index
    by_cases inside : a.currentBucket < a.buckets.length
    · simp [Dedup.insertHash, Wheel.holds_modify _ _ _ _ _ inside, other]
    · simp [Dedup.insertHash, List.modify_eq_self (Nat.le_of_not_lt inside)]

theorem rotateBucket (agree : Agree hash a b) : Agree hash a.rotateBucket b.rotateBucket := by
  rw [Dedup.rotateBucket, Dedup.rotateBucket, agree.dedupPeriod]
  split_ifs
  · exact agree
  · refine ⟨rfl, agree.numBuckets, ?_, ?_, ?_⟩
    · simp only [agree.currentBucket, agree.numBuckets]
    · simpa using agree.length
    · intro index
      rw [Wheel.holds_clear, Wheel.holds_clear, agree.holds, agree.currentBucket, agree.numBuckets]

theorem check (agree : Agree hash a b) :
    (a.checkAndInsertWithHash hash).1 = (b.checkAndInsertWithHash hash).1 ∧
      Agree hash (a.checkAndInsertWithHash hash).2 (b.checkAndInsertWithHash hash).2 := by
  rw [Dedup.checkAndInsertWithHash, Dedup.checkAndInsertWithHash, agree.dedupPeriod, agree.contains]
  split_ifs
  · exact ⟨rfl, agree⟩
  · exact ⟨rfl, agree⟩
  · exact ⟨rfl, agree.insertHash hash⟩

theorem check_other (checked : UInt64) (other : checked ≠ hash) :
    Agree hash (a.checkAndInsertWithHash checked).2 a := by
  rw [Dedup.checkAndInsertWithHash]
  split_ifs
  · exact refl hash a
  · exact refl hash a
  · exact insertHash_other checked other

end Agree

structure AgreeAt (hash : UInt64) (sharded : ConcurrentDedup) (single : Dedup) : Prop where
  dedupPeriod : sharded.dedupPeriod = single.dedupPeriod
  shard : Agree hash (sharded.shards (shardIdx hash)) single

namespace AgreeAt

variable {hash : UInt64} {sharded : ConcurrentDedup} {single : Dedup} {ahash : List UInt8 → UInt64}

theorem new (hash : UInt64) (period : Duration) : AgreeAt hash (ConcurrentDedup.new period) (Dedup.new period) where
  dedupPeriod := by
    rw [Dedup.new]
    split_ifs <;> rfl
  shard := Agree.refl hash (Dedup.new period)

theorem check (agree : AgreeAt hash sharded single) (payload : List UInt8) (hashed : ahash payload = hash) :
    (sharded.checkAndInsert ahash payload).1 = (single.checkAndInsert ahash payload).1 ∧
      AgreeAt hash (sharded.checkAndInsert ahash payload).2 (single.checkAndInsert ahash payload).2 := by
  subst hashed
  obtain ⟨answer, kept⟩ := agree.shard.check
  have same : single.checkAndInsert ahash payload = single.checkAndInsertWithHash (ahash payload) := rfl
  rw [same, ConcurrentDedup.checkAndInsert]
  by_cases disabled : sharded.dedupPeriod = 0
  · have alsoDisabled : single.dedupPeriod = 0 := agree.dedupPeriod ▸ disabled
    rw [if_pos disabled, Dedup.checkAndInsertWithHash, if_pos alsoDisabled]
    exact ⟨rfl, agree⟩
  · rw [if_neg disabled]
    exact ⟨answer, by simpa using agree.dedupPeriod, by simpa using kept⟩

theorem check_other (agree : AgreeAt hash sharded single) (payload : List UInt8) (other : ahash payload ≠ hash) :
    AgreeAt hash (sharded.checkAndInsert ahash payload).2 single := by
  rw [ConcurrentDedup.checkAndInsert]
  split_ifs
  · exact agree
  · refine ⟨agree.dedupPeriod, ?_⟩
    by_cases together : shardIdx hash = shardIdx (ahash payload)
    · simp only [together, Function.update_self]
      exact (Agree.check_other _ other).trans (together ▸ agree.shard)
    · simp only [Function.update_of_ne together]
      exact agree.shard

theorem single_check_other (agree : AgreeAt hash sharded single) (payload : List UInt8) (other : ahash payload ≠ hash) :
    AgreeAt hash sharded (single.checkAndInsert ahash payload).2 := by
  have kept : Agree hash (single.checkAndInsert ahash payload).2 single := Agree.check_other _ other
  exact ⟨agree.dedupPeriod.trans kept.dedupPeriod.symm, agree.shard.trans kept.symm⟩

theorem rotateShard (agree : AgreeAt hash sharded single) :
    AgreeAt hash (sharded.rotateShard (shardIdx hash)) single.rotateBucket where
  dedupPeriod := by simpa using agree.dedupPeriod
  shard := by simpa [ConcurrentDedup.rotateShard] using agree.shard.rotateBucket

theorem rotateShard_other (agree : AgreeAt hash sharded single) (shard : Fin numShards)
    (other : shard ≠ shardIdx hash) :
    AgreeAt hash (sharded.rotateShard shard) single where
  dedupPeriod := agree.dedupPeriod
  shard := by simpa [ConcurrentDedup.rotateShard, Function.update_of_ne other.symm] using agree.shard

theorem rotateBuckets (agree : AgreeAt hash sharded single) :
    AgreeAt hash sharded.rotateBuckets single.rotateBucket := by
  by_cases disabled : sharded.dedupPeriod = 0
  · have alsoDisabled : single.dedupPeriod = 0 := agree.dedupPeriod ▸ disabled
    rw [ConcurrentDedup.rotateBuckets, if_pos disabled, Dedup.rotateBucket, if_pos alsoDisabled]
    exact agree
  · refine ⟨by simpa using agree.dedupPeriod, ?_⟩
    rw [rotateBuckets_shards sharded disabled]
    exact agree.shard.rotateBucket

end AgreeAt

theorem sharded_answers (ahash : List UInt8 → UInt64) (period : Duration) (calls : List DedupCall) :
    (ConcurrentDedup.new period).answers ahash calls = (Dedup.new period).answers ahash calls := by
  have projected := trace_projects (ConcurrentDedup.answer ahash) (ConcurrentDedup.apply ahash) (Dedup.answer ahash)
    (Dedup.apply ahash) some (fun answer => [answer]) (fun answer => [answer])
    (fun sharded single => ∀ hash, AgreeAt hash sharded single)
    (by
      intro sharded single call call' agree same
      cases same
      cases call with
      | rotate => exact ⟨rfl, fun hash => (agree hash).rotateBuckets⟩
      | checkAndInsert payload =>
        obtain ⟨answer, _⟩ := (agree (ahash payload)).check payload rfl
        refine ⟨by simp [ConcurrentDedup.answer, Dedup.answer, answer], ?_⟩
        intro hash
        by_cases own : ahash payload = hash
        · exact ((agree hash).check payload own).2
        · exact ((agree hash).check_other payload own).single_check_other payload own)
    (by
      intro sharded single call _ none
      cases none)
    calls (ConcurrentDedup.new period) (Dedup.new period) (fun hash => AgreeAt.new hash period)
  simpa [ConcurrentDedup.answers, Dedup.answers] using projected

theorem interleaved_answers (ahash : List UInt8 → UInt64) (period : Duration) (steps : List DedupStep)
    (payload : List UInt8) (sees : List UInt8 → Bool)
    (collisions : ∀ other, ahash other = ahash payload → sees other = true) :
    answersFor payload ((ConcurrentDedup.new period).stepAnswers ahash steps) =
      answersFor payload ((Dedup.new period).answers ahash
        (steps.filterMap (DedupStep.seenBy sees (shardIdx (ahash payload))))) := by
  apply trace_projects _ _ _ _ _ _ _ (fun sharded single => AgreeAt (ahash payload) sharded single)
  · intro sharded single step call agree seen
    cases step with
    | rotateShard rotated =>
      rw [DedupStep.seenBy] at seen
      split_ifs at seen with own
      cases seen
      subst own
      exact ⟨rfl, agree.rotateShard⟩
    | checkAndInsert asked =>
      rw [DedupStep.seenBy] at seen
      split_ifs at seen
      cases seen
      by_cases own : ahash asked = ahash payload
      · obtain ⟨answer, kept⟩ := agree.check asked own
        exact ⟨by simp [ConcurrentDedup.stepAnswer, Dedup.answer, aboutPayload, answer], kept⟩
      · have different : asked ≠ payload := fun same => own (by rw [same])
        exact ⟨by simp [ConcurrentDedup.stepAnswer, Dedup.answer, aboutPayload, different],
          (agree.check_other asked own).single_check_other asked own⟩
  · intro sharded single step agree unseen
    cases step with
    | rotateShard rotated =>
      rw [DedupStep.seenBy] at unseen
      split_ifs at unseen with other
      exact ⟨rfl, agree.rotateShard_other rotated other⟩
    | checkAndInsert asked =>
      rw [DedupStep.seenBy] at unseen
      split_ifs at unseen with kept
      have other : ahash asked ≠ ahash payload := fun same => kept (collisions asked same)
      have different : asked ≠ payload := fun same => other (by rw [same])
      exact ⟨by simp [ConcurrentDedup.stepAnswer, aboutPayload, different], agree.check_other asked other⟩
  · exact AgreeAt.new (ahash payload) period

theorem interleaved_answers_of_run (ahash : List UInt8 → UInt64) (period : Duration) (steps : List DedupStep)
    (payload : List UInt8) (sees : List UInt8 → Bool)
    (collisions : ∀ other, .checkAndInsert other ∈ steps → ahash other = ahash payload → sees other = true) :
    answersFor payload ((ConcurrentDedup.new period).stepAnswers ahash steps) =
      answersFor payload ((Dedup.new period).answers ahash
        (steps.filterMap (DedupStep.seenBy sees (shardIdx (ahash payload))))) := by
  rw [interleaved_answers ahash period steps payload (fun other => sees other || ahash other == ahash payload)
    (by
      intro other same
      simp [same])]
  congr 2
  apply List.filterMap_congr
  intro step inside
  cases step with
  | rotateShard rotated => rfl
  | checkAndInsert other =>
    have same : (sees other || ahash other == ahash payload) = sees other := by
      cases seen : sees other with
      | true => rfl
      | false =>
        have different : ahash other ≠ ahash payload := by
          intro same
          rw [collisions other inside same] at seen
          cases seen
        simpa using different
    simp only [DedupStep.seenBy, same]

def ConcurrentDedup.run (ahash : List UInt8 → UInt64) (dedup : ConcurrentDedup) (steps : List DedupStep) :
    ConcurrentDedup :=
  steps.foldl (step ahash) dedup

theorem answersFor_cons (ahash : List UInt8 → UInt64) (payload : List UInt8) (sharded : ConcurrentDedup)
    (step : DedupStep) (rest : List DedupStep) :
    answersFor payload (sharded.stepAnswers ahash (step :: rest)) =
      aboutPayload payload (sharded.stepAnswer ahash step) ++
        answersFor payload ((sharded.step ahash step).stepAnswers ahash rest) := by
  rw [answersFor, ConcurrentDedup.stepAnswers, trace, List.flatMap_cons]
  rfl

theorem answered_new_iff (ahash : List UInt8 → UInt64) (payload : List UInt8) (sharded : ConcurrentDedup)
    (step : DedupStep) :
    false ∈ aboutPayload payload (sharded.stepAnswer ahash step) ↔
      step = .checkAndInsert payload ∧ (sharded.checkAndInsert ahash payload).1 = false := by
  cases step with
  | rotateShard rotated => simp [ConcurrentDedup.stepAnswer, aboutPayload]
  | checkAndInsert asked =>
    by_cases own : asked = payload
    · subst own
      cases answer : (sharded.checkAndInsert ahash asked).1 <;> simp [ConcurrentDedup.stepAnswer, aboutPayload, answer]
    · simp [ConcurrentDedup.stepAnswer, aboutPayload, own]

section

variable {period : Duration} (positive : period ≠ 0) (ahash : List UInt8 → UInt64)
include positive

theorem step_tracks (sharded : ConcurrentDedup) (histories : Fin numShards → List (Wheel.Event UInt64))
    (tracks : sharded.Tracks period histories) (step : DedupStep) :
    ∃ events : Fin numShards → Wheel.Event UInt64,
      (sharded.step ahash step).Tracks period (fun shard => histories shard ++ [events shard]) ∧
      (∀ shard, (events shard).isTurn = decide (step = .rotateShard shard)) ∧
      ∀ payload, step = .checkAndInsert payload → (sharded.checkAndInsert ahash payload).1 = false →
        events (shardIdx (ahash payload)) = .recorded (ahash payload) := by
  cases step with
  | rotateShard rotated =>
    refine ⟨_, tracks.rotateShard positive rotated, ?_, by simp⟩
    intro shard
    by_cases same : rotated = shard <;> simp [same, Wheel.Event.isTurn]
  | checkAndInsert payload =>
    refine ⟨_, (tracks.check positive ahash payload).2, ?_, ?_⟩
    · intro shard
      split_ifs <;> simp [Wheel.Event.isTurn]
    · intro other same fresh
      cases same
      simp [fresh]

theorem run_tracks_steps (steps : List DedupStep) :
    ∃ histories, ((ConcurrentDedup.new period).run ahash steps).Tracks period histories := by
  apply run_history (ConcurrentDedup.step ahash) (ConcurrentDedup.new period)
    (fun _ sharded => ∃ histories, sharded.Tracks period histories)
  · exact ⟨_, ConcurrentDedup.new_tracks positive⟩
  · rintro _ step ⟨histories, tracks⟩
    obtain ⟨events, further, _⟩ := step_tracks positive ahash _ histories tracks step
    exact ⟨_, further⟩

theorem known_answers (payload : List UInt8) (steps : List DedupStep)
    (still : ∀ step ∈ steps, step ≠ .rotateShard (shardIdx (ahash payload))) (sharded : ConcurrentDedup)
    (histories : Fin numShards → List (Wheel.Event UInt64)) (tracks : sharded.Tracks period histories)
    (known : Wheel.Recent (bucketCount period) (histories (shardIdx (ahash payload))) (ahash payload)) :
    false ∉ answersFor payload (sharded.stepAnswers ahash steps) := by
  induction steps generalizing sharded histories with
  | nil => simp [answersFor, ConcurrentDedup.stepAnswers, trace]
  | cons step rest ih =>
    obtain ⟨events, further, turns, _⟩ := step_tracks positive ahash sharded histories tracks step
    have unturned : (events (shardIdx (ahash payload))).isTurn = false := by
      rw [turns, decide_eq_false_iff_not]
      exact still step List.mem_cons_self
    have later := ih (fun step inside => still step (List.mem_cons_of_mem _ inside)) _ _ further
      (Wheel.recent_kept _ _ _ known _ unturned)
    rw [answersFor_cons, List.mem_append, answered_new_iff]
    rintro (⟨rfl, fresh⟩ | fresh)
    · rw [(tracks.check positive ahash payload).1.mpr known] at fresh
      cases fresh
    · exact later fresh

theorem new_at_most_once (payload : List UInt8) (steps : List DedupStep)
    (still : ∀ step ∈ steps, step ≠ .rotateShard (shardIdx (ahash payload))) (sharded : ConcurrentDedup)
    (histories : Fin numShards → List (Wheel.Event UInt64)) (tracks : sharded.Tracks period histories) :
    (answersFor payload (sharded.stepAnswers ahash steps)).count false ≤ 1 := by
  induction steps generalizing sharded histories with
  | nil => simp [answersFor, ConcurrentDedup.stepAnswers, trace]
  | cons step rest ih =>
    obtain ⟨events, further, turns, records⟩ := step_tracks positive ahash sharded histories tracks step
    have quiet : ∀ step ∈ rest, step ≠ .rotateShard (shardIdx (ahash payload)) :=
      fun step inside => still step (List.mem_cons_of_mem _ inside)
    have later := ih quiet _ _ further
    rw [answersFor_cons, List.count_append]
    by_cases fresh : step = .checkAndInsert payload ∧ (sharded.checkAndInsert ahash payload).1 = false
    · obtain ⟨rfl, new⟩ := fresh
      have recorded := records payload rfl new
      have several := (bucketCount_bounds period).1
      have known := known_answers positive ahash payload rest quiet _ _ further (by
        rw [recorded]
        exact Wheel.recent_recorded _ (by omega) _ _)
      rw [List.count_eq_zero_of_not_mem known]
      simp [ConcurrentDedup.stepAnswer, aboutPayload, new]
    · have silent : false ∉ aboutPayload payload (sharded.stepAnswer ahash step) := by
        rw [answered_new_iff]
        exact fresh
      rw [List.count_eq_zero_of_not_mem silent, Nat.zero_add]
      exact later

end

theorem sharded_refines_single (ahash : List UInt8 → UInt64) (period : Duration) :
    (∀ calls, (ConcurrentDedup.new period).answers ahash calls = (Dedup.new period).answers ahash calls) ∧
    (∀ steps payload sees,
      (∀ other, .checkAndInsert other ∈ steps → ahash other = ahash payload → sees other = true) →
      answersFor payload ((ConcurrentDedup.new period).stepAnswers ahash steps) =
        answersFor payload ((Dedup.new period).answers ahash
          (steps.filterMap (DedupStep.seenBy sees (shardIdx (ahash payload)))))) ∧
    (period ≠ 0 → ∀ before between payload,
      (∀ step ∈ between, step ≠ .rotateShard (shardIdx (ahash payload))) →
      (answersFor payload (((ConcurrentDedup.new period).run ahash before).stepAnswers ahash between)).count false ≤
        1) := by
  refine ⟨sharded_answers ahash period, interleaved_answers_of_run ahash period, ?_⟩
  intro positive before between payload still
  obtain ⟨histories, tracks⟩ := run_tracks_steps positive ahash before
  exact new_at_most_once positive ahash payload between still _ histories tracks

-- Two payloads with one hash: the second is a duplicate of the first, and new to a dedup that sees only itself.
-- With a period of zero nothing is ever a duplicate.
theorem collision_crosses_payloads :
    answersFor [2] ((ConcurrentDedup.new (Duration.fromMillis 200)).stepAnswers (fun _ => 0)
        [.checkAndInsert [1], .checkAndInsert [2]]) ≠
      answersFor [2] ((Dedup.new (Duration.fromMillis 200)).answers (fun _ => 0)
        ([.checkAndInsert [1], .checkAndInsert [2]].filterMap
          (DedupStep.seenBy (fun payload => payload == [2]) (shardIdx 0)))) ∧
    ¬(answersFor [1] ((ConcurrentDedup.new 0).stepAnswers (fun _ => 0)
        [.checkAndInsert [1], .checkAndInsert [1]])).count false ≤ 1 := by
  decide +kernel

end MavRouter.Ingress
