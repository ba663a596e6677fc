import MavRouter.Ingress.Sharding

set_option autoImplicit false

namespace MavRouter.Ingress

open Maps Runs

/-- A call together with the time it is made at; those of the rotator follow from its interval. -/
inductive TimedCall where
  | checkAndInsert (payload : List UInt8) (now : Instant)
  | rotate

namespace TimedCall

def call : TimedCall → DedupCall
  | .checkAndInsert payload _ => .checkAndInsert payload
  | .rotate => .rotate

def isTick : TimedCall → Bool
  | .rotate => true
  | .checkAndInsert _ _ => false

end TimedCall

def ticks (calls : List TimedCall) : Nat := calls.countP TimedCall.isTick

def ConcurrentDedup.rotationInterval (dedup : ConcurrentDedup) : Duration := dedup.bucketInterval

-- The rotator ticks for the first time at the start and once every interval from then on.
def OnTime (interval : Duration) (start : Instant) (older : List TimedCall) : TimedCall → Prop
  | .rotate => True
  | .checkAndInsert _ now =>
    (∀ payload earlier, .checkAndInsert payload earlier ∈ older → earlier ≤ now) ∧
      now ≤ start + ticks older * interval ∧ (ticks older ≠ 0 → start + (ticks older - 1) * interval ≤ now)

def Scheduled (interval : Duration) (start : Instant) (calls : List TimedCall) : Prop :=
  EachStep (OnTime interval start) calls

def ConcurrentDedup.play (ahash : List UInt8 → UInt64) (dedup : ConcurrentDedup) (calls : List TimedCall) :
    ConcurrentDedup :=
  calls.foldl (fun dedup call => dedup.apply ahash call.call) dedup

def isNew (ahash : List UInt8 → UInt64) (period : Duration) (older : List TimedCall) (payload : List UInt8) : Prop :=
  (((ConcurrentDedup.new period).play ahash older).checkAndInsert ahash payload).1 = false

def CoversWindow (ahash : List UInt8 → UInt64) (period window : Duration) (calls : List TimedCall) : Prop :=
  ∀ older payload time between later newer,
    calls = older ++ .checkAndInsert payload time :: between ++ .checkAndInsert payload later :: newer →
    isNew ahash period older payload → later < time + window →
    ¬isNew ahash period (older ++ .checkAndInsert payload time :: between) payload

section

variable {period : Duration} (positive : period ≠ 0) (ahash : List UInt8 → UInt64)
include positive

theorem ConcurrentDedup.Tracks.rotateBuckets (sharded : ConcurrentDedup)
    (histories : Fin numShards → List (Wheel.Event UInt64)) (tracks : sharded.Tracks period histories) :
    sharded.rotateBuckets.Tracks period fun shard => histories shard ++ [.turned] where
  configured := by simpa using tracks.configured
  shards := by
    intro shard
    rw [rotateBuckets_shards sharded (by rw [tracks.configured]; exact positive)]
    exact (tracks.shards shard).rotateBucket positive

theorem play_tracks (calls : List TimedCall) (sharded : ConcurrentDedup)
    (histories : Fin numShards → List (Wheel.Event UInt64)) (tracks : sharded.Tracks period histories) :
    ∃ events : Fin numShards → List (Wheel.Event UInt64),
      (sharded.play ahash calls).Tracks period (fun shard => histories shard ++ events shard) ∧
        ∀ shard, Wheel.turns (events shard) = ticks calls := by
  induction calls generalizing sharded histories with
  | nil => exact ⟨fun _ => [], by simpa [ConcurrentDedup.play] using tracks, fun _ => rfl⟩
  | cons call rest ih =>
    have first : ∃ event : Fin numShards → Wheel.Event UInt64,
        (sharded.apply ahash call.call).Tracks period (fun shard => histories shard ++ [event shard]) ∧
          ∀ shard, (event shard).isTurn = call.isTick := by
      cases call with
      | rotate => exact ⟨fun _ => .turned, tracks.rotateBuckets positive, fun _ => rfl⟩
      | checkAndInsert payload now =>
        refine ⟨_, (tracks.check positive ahash payload).2, ?_⟩
        intro shard
        split_ifs <;> rfl
    obtain ⟨event, further, turn⟩ := first
    obtain ⟨events, reached, turns⟩ := ih _ _ further
    refine ⟨fun shard => event shard :: events shard, by simpa [ConcurrentDedup.play] using reached, ?_⟩
    intro shard
    have later := turns shard
    rw [Wheel.turns, ticks] at later ⊢
    rw [List.countP_cons, List.countP_cons, later, turn shard]

theorem duplicate_while_young (older between : List TimedCall) (payload : List UInt8) (time : Instant)
    (accepted : isNew ahash period older payload) (young : ticks between < bucketCount period) :
    ¬isNew ahash period (older ++ .checkAndInsert payload time :: between) payload := by
  obtain ⟨past, before, _⟩ := play_tracks positive ahash older _ _ (ConcurrentDedup.new_tracks positive)
  have recorded := (before.check positive ahash payload).2
  obtain ⟨events, after, turns⟩ := play_tracks positive ahash between _ _ recorded
  have reached : (ConcurrentDedup.new period).play ahash (older ++ .checkAndInsert payload time :: between) =
      ConcurrentDedup.play ahash (((ConcurrentDedup.new period).play ahash older).checkAndInsert ahash payload).2
        between := by
    rw [ConcurrentDedup.play, List.foldl_append, List.foldl_cons]
    rfl
  rw [isNew, reached, Bool.not_eq_false, (after.check positive ahash payload).1]
  rw [isNew] at accepted
  exact ⟨ticks between, young, past (shardIdx (ahash payload)), events (shardIdx (ahash payload)), by simp [accepted],
    turns _⟩

theorem play_rotations (count : Nat) (sharded : ConcurrentDedup)
    (histories : Fin numShards → List (Wheel.Event UInt64)) (tracks : sharded.Tracks period histories) :
    (sharded.play ahash (List.replicate count .rotate)).Tracks period fun shard =>
      histories shard ++ List.replicate count .turned := by
  induction count generalizing sharded histories with
  | zero => simpa [ConcurrentDedup.play] using tracks
  | succ count ih =>
    have further := ih _ _ (ConcurrentDedup.Tracks.rotateBuckets positive sharded histories tracks)
    simp only [List.append_assoc, List.singleton_append] at further
    exact further

theorem new_after_full_turn (payload : List UInt8) (time : Instant) :
    isNew ahash period [] payload ∧
      isNew ahash period (.checkAndInsert payload time :: List.replicate (bucketCount period) .rotate) payload := by
  have start := ConcurrentDedup.new_tracks positive
  have first : isNew ahash period [] payload := by
    rw [isNew, ← Bool.not_eq_true]
    intro duplicate
    obtain ⟨age, _, recorded⟩ := (start.check positive ahash payload).1.mp duplicate
    exact Wheel.recordedAgo_nil _ age recorded
  refine ⟨first, ?_⟩
  have rotated := play_rotations positive ahash (bucketCount period) _ _ (start.check positive ahash payload).2
  change ((ConcurrentDedup.play ahash ((ConcurrentDedup.new period).checkAndInsert ahash payload).2
    (List.replicate (bucketCount period) .rotate)).checkAndInsert ahash payload).1 = false
  rw [← Bool.not_eq_true, (rotated.check positive ahash payload).1]
  rw [isNew] at first
  change ((ConcurrentDedup.new period).checkAndInsert ahash payload).1 = false at first
  rintro ⟨age, young, recorded⟩
  rw [if_pos ⟨rfl, first⟩, List.nil_append, List.singleton_append, Wheel.recordedAgo_turned] at recorded
  omega

end

theorem bucketCount_millis (millis : Nat) :
    bucketCount (Duration.fromMillis millis) = max (min usizeMax (millis / 100)) 2 := by
  simp [bucketCount, Duration.asMillis, Duration.fromMillis, bucketMillis]

theorem fromMillis_ne_zero (millis : Nat) (positive : 0 < millis) : Duration.fromMillis millis ≠ 0 :=
  Nat.mul_ne_zero (Nat.ne_of_gt positive) (by decide)

theorem rotationInterval_new (millis : Nat) (positive : 0 < millis) :
    (ConcurrentDedup.new (Duration.fromMillis millis)).rotationInterval = 100000000 := by
  rw [ConcurrentDedup.rotationInterval, ConcurrentDedup.new, if_neg (fromMillis_ne_zero millis positive)]
  rfl

theorem few_ticks (start time later older between buckets : Nat) (several : 2 ≤ buckets)
    (notLate : time ≤ start + older * 100000000)
    (notEarly : older + between ≠ 0 → start + (older + between - 1) * 100000000 ≤ later)
    (inside : later < time + (buckets - 1) * 100000000) : between < buckets := by
  by_contra old
  have late := notEarly (by omega)
  omega

theorem window_covered (ahash : List UInt8 → UInt64) (millis : Nat) (positive : 0 < millis) (start : Instant)
    (calls : List TimedCall)
    (scheduled : Scheduled (ConcurrentDedup.new (Duration.fromMillis millis)).rotationInterval start calls) :
    CoversWindow ahash (Duration.fromMillis millis)
      ((bucketCount (Duration.fromMillis millis) - 1) * Duration.fromMillis 100) calls := by
  intro older payload time between later newer split accepted inside
  apply duplicate_while_young (fromMillis_ne_zero millis positive) ahash older between payload time accepted
  rw [rotationInterval_new millis positive] at scheduled
  have first := scheduled older (.checkAndInsert payload time) (between ++ .checkAndInsert payload later :: newer)
    (by simp [split])
  have second := scheduled (older ++ .checkAndInsert payload time :: between) (.checkAndInsert payload later) newer
    (by simp [split])
  obtain ⟨_, notLate, _⟩ := first
  obtain ⟨_, _, notEarly⟩ := second
  have counted : ticks (older ++ .checkAndInsert payload time :: between) = ticks older + ticks between := by
    simp [ticks, TimedCall.isTick]
  rw [counted] at notEarly
  exact few_ticks start time later (ticks older) (ticks between) _ (bucketCount_bounds _).1 notLate notEarly inside

theorem CoversWindow.mono {ahash : List UInt8 → UInt64} {period window narrower : Duration} {calls : List TimedCall}
    (covers : CoversWindow ahash period window calls) (le : narrower ≤ window) :
    CoversWindow ahash period narrower calls := by
  intro older payload time between later newer split accepted inside
  exact covers older payload time between later newer split accepted
    (Nat.lt_of_lt_of_le inside (Nat.add_le_add_left le time))

-- A copy that comes right before the first of as many ticks as there are buckets, and one right after the last.
def fullTurn (buckets : Nat) (payload : List UInt8) : List TimedCall :=
  .checkAndInsert payload 0 :: List.replicate buckets .rotate ++ [.checkAndInsert payload ((buckets - 1) * 100000000)]

theorem fullTurn_scheduled (buckets : Nat) (several : 2 ≤ buckets) (payload : List UInt8) :
    Scheduled 100000000 0 (fullTurn buckets payload) := by
  have rotations (count : Nat) : Scheduled 100000000 0 (.checkAndInsert payload 0 :: List.replicate count .rotate) := by
    induction count with
    | zero =>
      rw [List.replicate_zero, ← List.nil_append [_], Scheduled, eachStep_concat]
      exact ⟨eachStep_nil _, by simp [OnTime, ticks]⟩
    | succ count ih =>
      rw [List.replicate_succ', ← List.cons_append, Scheduled, eachStep_concat]
      exact ⟨ih, trivial⟩
  rw [fullTurn, Scheduled, eachStep_concat]
  refine ⟨rotations buckets, ?_, ?_, ?_⟩
  · intro other earlier inside
    have zero : other = payload ∧ earlier = 0 := by simpa using inside
    rw [zero.2]
    exact Nat.zero_le _
  all_goals
    have counted : ticks (.checkAndInsert payload 0 :: List.replicate buckets .rotate) = buckets := by
      simp [ticks, List.countP_replicate, TimedCall.isTick]
    rw [counted]
  · change (_ : Nat) ≤ _
    omega
  · intro _
    exact Nat.le_of_eq (Nat.zero_add _)

theorem window_covers_period (ahash : List UInt8 → UInt64) (millis : Nat) (positive : 0 < millis) :
    (∀ start calls,
      Scheduled (ConcurrentDedup.new (Duration.fromMillis millis)).rotationInterval start calls →
      CoversWindow ahash (Duration.fromMillis millis) (Duration.fromMillis millis) calls) ↔
    millis ≤ 100 := by
  have count := bucketCount_millis millis
  have several := (bucketCount_bounds (Duration.fromMillis millis)).1
  constructor
  · intro covers
    by_contra long
    obtain ⟨first, second⟩ := new_after_full_turn (fromMillis_ne_zero millis positive) ahash [0] 0
    rw [rotationInterval_new millis positive] at covers
    refine covers 0 _ (fullTurn_scheduled _ several [0]) [] [0] 0
      (List.replicate (bucketCount (Duration.fromMillis millis)) .rotate) _ [] rfl first ?_ second
    have reached : (bucketCount (Duration.fromMillis millis) - 1) * 100000000 < millis * 1000000 := by
      rw [count, usizeMax]
      omega
    simpa [Duration.fromMillis] using reached
  · intro short start calls scheduled
    apply (window_covered ahash millis positive start calls scheduled).mono
    have whole : millis * 1000000 ≤ (bucketCount (Duration.fromMillis millis) - 1) * 100000000 := by omega
    exact whole

-- The copy comes right before the second tick.
def lastMoment : List TimedCall := [.checkAndInsert [7] 0, .rotate, .checkAndInsert [7] 99999999]

theorem lastMoment_scheduled : Scheduled 100000000 0 lastMoment := by
  have first : Scheduled 100000000 0 [.checkAndInsert [7] 0] :=
    (eachStep_concat _ [] _).mpr ⟨eachStep_nil _, by simp [OnTime, ticks]⟩
  have second : Scheduled 100000000 0 ([.checkAndInsert [7] 0] ++ [.rotate]) :=
    (eachStep_concat _ _ _).mpr ⟨first, trivial⟩
  exact (eachStep_concat _ _ _).mpr ⟨second, by simp [OnTime, ticks, TimedCall.isTick]⟩

theorem window_covers_period_shortest :
    ¬isNew (fun _ => 0) (Duration.fromMillis 100) [.checkAndInsert [7] 0, .rotate] [7] := by
  refine (window_covers_period (fun _ => 0) 100 (by decide)).mpr (Nat.le_refl 100) 0 lastMoment lastMoment_scheduled
    [] [7] 0 [.rotate] 99999999 [] rfl ?_ (by decide)
  unfold isNew
  decide +kernel

-- With a period of 200 ms, a copy 100 ms after the first one is new again: two ticks fit in between.
theorem copy_passes_within_period :
    Scheduled (ConcurrentDedup.new (Duration.fromMillis 200)).rotationInterval 0 (fullTurn 2 [7]) ∧
      ¬CoversWindow (fun _ => 0) (Duration.fromMillis 200) (Duration.fromMillis 200) (fullTurn 2 [7]) := by
  refine ⟨fullTurn_scheduled 2 (by decide) [7], ?_⟩
  intro covers
  apply covers [] [7] 0 [.rotate, .rotate] 100000000 [] rfl
  · unfold isNew
    decide +kernel
  · decide
  · unfold isNew
    decide +kernel

end MavRouter.Ingress
