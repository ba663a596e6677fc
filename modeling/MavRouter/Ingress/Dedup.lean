import MavRouter.Router
import MavRouter.Shared.Wheel
import Mathlib.Logic.Function.Basic

set_option autoImplicit false

namespace MavRouter.Ingress

open Maps

structure Dedup where
  dedupPeriod : Duration
  buckets : List (HashSet UInt64)
  currentBucket : Nat
  bucketInterval : Duration
  numBuckets : Nat

def bucketMillis : Duration := Duration.fromMillis 100

def bucketCount (dedupPeriod : Duration) : Nat :=
  max (min usizeMax (Duration.asMillis dedupPeriod / Duration.asMillis bucketMillis)) 2

def wrappingAdd (a b : Nat) : Nat := (a + b) % (usizeMax + 1)

namespace Dedup

def new (dedupPeriod : Duration) : Dedup :=
  if dedupPeriod = 0 then ⟨dedupPeriod, [], 0, 0, 0⟩
  else
    let numBuckets := bucketCount dedupPeriod
    ⟨dedupPeriod, List.replicate numBuckets ∅, 0, bucketMillis, numBuckets⟩

def contains (dedup : Dedup) (hash : UInt64) : Bool := dedup.buckets.any fun bucket => decide (hash ∈ bucket)

def insertHash (dedup : Dedup) (hash : UInt64) : Dedup :=
  { dedup with buckets := dedup.buckets.modify dedup.currentBucket fun bucket => bucket.insert hash () }

def checkAndInsertWithHash (dedup : Dedup) (hash : UInt64) : Bool × Dedup :=
  if dedup.dedupPeriod = 0 then (false, dedup)
  else if dedup.contains hash then (true, dedup)
  else (false, dedup.insertHash hash)

def checkAndInsert (ahash : List UInt8 → UInt64) (dedup : Dedup) (payload : List UInt8) : Bool × Dedup :=
  if dedup.dedupPeriod = 0 then (false, dedup)
  else
    let hash := ahash payload
    if dedup.contains hash then (true, dedup)
    else (false, dedup.insertHash hash)

def isDuplicate (ahash : List UInt8 → UInt64) (dedup : Dedup) (payload : List UInt8) : Bool :=
  if dedup.dedupPeriod = 0 then false else dedup.contains (ahash payload)

def insert (ahash : List UInt8 → UInt64) (dedup : Dedup) (payload : List UInt8) : Dedup :=
  if dedup.dedupPeriod = 0 then dedup else dedup.insertHash (ahash payload)

def rotateBucket (dedup : Dedup) : Dedup :=
  if dedup.dedupPeriod = 0 then dedup
  else
    let next := wrappingAdd dedup.currentBucket 1 % dedup.numBuckets
    { dedup with currentBucket := next, buckets := dedup.buckets.set next ∅ }

@[simp] theorem checkAndInsertWithHash_dedupPeriod (dedup : Dedup) (hash : UInt64) :
    (dedup.checkAndInsertWithHash hash).2.dedupPeriod = dedup.dedupPeriod := by
  rw [checkAndInsertWithHash]
  split_ifs <;> rfl

@[simp] theorem rotateBucket_dedupPeriod (dedup : Dedup) : dedup.rotateBucket.dedupPeriod = dedup.dedupPeriod := by
  rw [rotateBucket]
  split_ifs <;> rfl

end Dedup

def numShards : Nat := 16

structure ConcurrentDedup where
  shards : Fin numShards → Dedup
  dedupPeriod : Duration
  bucketInterval : Duration

def shardIdx (hash : UInt64) : Fin numShards :=
  ⟨hash.toNat &&& (numShards - 1), Nat.and_lt_two_pow (n := 4) hash.toNat (by decide)⟩

namespace ConcurrentDedup

def new (dedupPeriod : Duration) : ConcurrentDedup :=
  { shards := fun _ => Dedup.new dedupPeriod
    dedupPeriod := dedupPeriod
    bucketInterval := if dedupPeriod = 0 then 0 else Duration.fromMillis 100 }

def checkAndInsert (ahash : List UInt8 → UInt64) (dedup : ConcurrentDedup) (payload : List UInt8) :
    Bool × ConcurrentDedup :=
  if dedup.dedupPeriod = 0 then (false, dedup)
  else
    let hash := ahash payload
    let checked := (dedup.shards (shardIdx hash)).checkAndInsertWithHash hash
    (checked.1, { dedup with shards := Function.update dedup.shards (shardIdx hash) checked.2 })

-- One turn of the loop in rotate_buckets: the lock of one shard at a time.
def rotateShard (dedup : ConcurrentDedup) (shard : Fin numShards) : ConcurrentDedup :=
  { dedup with shards := Function.update dedup.shards shard (dedup.shards shard).rotateBucket }

def rotateBuckets (dedup : ConcurrentDedup) : ConcurrentDedup :=
  if dedup.dedupPeriod = 0 then dedup else (List.finRange numShards).foldl rotateShard dedup

@[simp] theorem rotateShard_dedupPeriod (dedup : ConcurrentDedup) (shard : Fin numShards) :
    (dedup.rotateShard shard).dedupPeriod = dedup.dedupPeriod := rfl

@[simp] theorem rotateBuckets_dedupPeriod (dedup : ConcurrentDedup) :
    dedup.rotateBuckets.dedupPeriod = dedup.dedupPeriod := by
  have each (order : List (Fin numShards)) (start : ConcurrentDedup) :
      (order.foldl rotateShard start).dedupPeriod = start.dedupPeriod := by
    induction order generalizing start with
    | nil => rfl
    | cons shard rest ih => exact ih (start.rotateShard shard)
  rw [rotateBuckets]
  split_ifs
  · rfl
  · exact each _ dedup

theorem new_passes (ahash : List UInt8 → UInt64) (dedupPeriod : Duration) (payload : List UInt8) :
    ((new dedupPeriod).checkAndInsert ahash payload).1 = false := by
  simp only [checkAndInsert, new]
  split_ifs with disabled
  · rfl
  · simp [Dedup.checkAndInsertWithHash, Dedup.new, disabled, Dedup.contains]

end ConcurrentDedup

structure Dedup.Tracks (period : Duration) (dedup : Dedup) (events : List (Wheel.Event UInt64)) : Prop where
  configured : dedup.dedupPeriod = period
  size : dedup.buckets.length = bucketCount period
  count : dedup.numBuckets = bucketCount period
  wheel : Wheel.Tracks dedup.buckets dedup.currentBucket events

theorem bucketCount_bounds (period : Duration) : 2 ≤ bucketCount period ∧ bucketCount period ≤ usizeMax := by
  unfold bucketCount usizeMax
  omega

variable {period : Duration} {dedup : Dedup} {events : List (Wheel.Event UInt64)}

theorem Dedup.new_tracks (positive : period ≠ 0) : (Dedup.new period).Tracks period [] := by
  have several := (bucketCount_bounds period).1
  rw [Dedup.new, if_neg positive]
  exact ⟨rfl, List.length_replicate, rfl, Wheel.tracks_new _ (by omega)⟩

theorem Dedup.Tracks.idle (tracks : dedup.Tracks period events) : dedup.Tracks period (events ++ [.idle]) :=
  ⟨tracks.configured, tracks.size, tracks.count, Wheel.tracks_idle _ _ _ tracks.wheel⟩

theorem Dedup.Tracks.contains (tracks : dedup.Tracks period events) (hash : UInt64) :
    dedup.contains hash = true ↔ Wheel.Recent (bucketCount period) events hash := by
  rw [← tracks.size]
  exact Wheel.tracks_any _ _ _ tracks.wheel hash

theorem Dedup.Tracks.insertHash (tracks : dedup.Tracks period events) (hash : UInt64) :
    (dedup.insertHash hash).Tracks period (events ++ [.recorded hash]) where
  configured := tracks.configured
  size := by
    rw [← tracks.size]
    exact List.length_modify ..
  count := tracks.count
  wheel := Wheel.tracks_record _ _ _ tracks.wheel hash

theorem Dedup.Tracks.rotateBucket (tracks : dedup.Tracks period events) (positive : period ≠ 0) :
    dedup.rotateBucket.Tracks period (events ++ [.turned]) := by
  have bounded := (bucketCount_bounds period).2
  have inside := tracks.wheel.inside
  rw [tracks.size] at inside
  have unwrapped : wrappingAdd dedup.currentBucket 1 = dedup.currentBucket + 1 := by
    apply Nat.mod_eq_of_lt
    unfold usizeMax at bounded ⊢
    omega
  have next : wrappingAdd dedup.currentBucket 1 % dedup.numBuckets =
      Wheel.next dedup.buckets.length dedup.currentBucket := by
    rw [unwrapped, tracks.count, tracks.size, Wheel.next]
  rw [Dedup.rotateBucket, if_neg (by rw [tracks.configured]; exact positive)]
  simp only [next]
  exact ⟨tracks.configured, by rw [← tracks.size]; exact List.length_set, tracks.count,
    Wheel.tracks_turn _ _ _ tracks.wheel⟩

theorem Dedup.Tracks.check (tracks : dedup.Tracks period events) (positive : period ≠ 0) (hash : UInt64) :
    ((dedup.checkAndInsertWithHash hash).1 = true ↔ Wheel.Recent (bucketCount period) events hash) ∧
      (dedup.checkAndInsertWithHash hash).2.Tracks period
        (events ++ [if (dedup.checkAndInsertWithHash hash).1 then .idle else .recorded hash]) := by
  rw [← tracks.contains hash, Dedup.checkAndInsertWithHash, if_neg (by rw [tracks.configured]; exact positive)]
  cases found : dedup.contains hash with
  | true => simpa using tracks.idle
  | false => simpa using tracks.insertHash hash

theorem foldl_rotateShard (dedup : ConcurrentDedup) (order : List (Fin numShards)) (once : order.Nodup)
    (shard : Fin numShards) :
    (order.foldl ConcurrentDedup.rotateShard dedup).shards shard =
      if shard ∈ order then (dedup.shards shard).rotateBucket else dedup.shards shard := by
  induction order generalizing dedup with
  | nil => simp
  | cons first rest ih =>
    rw [List.nodup_cons] at once
    rw [List.foldl_cons, ih _ once.2, ConcurrentDedup.rotateShard]
    by_cases same : shard = first
    · subst same
      simp [once.1]
    · simp [same]

theorem rotateBuckets_shards (dedup : ConcurrentDedup) (enabled : dedup.dedupPeriod ≠ 0) (shard : Fin numShards) :
    dedup.rotateBuckets.shards shard = (dedup.shards shard).rotateBucket := by
  rw [ConcurrentDedup.rotateBuckets, if_neg enabled, foldl_rotateShard _ _ (List.nodup_finRange _),
    if_pos (List.mem_finRange shard)]

structure ConcurrentDedup.Tracks (period : Duration) (dedup : ConcurrentDedup)
    (events : Fin numShards → List (Wheel.Event UInt64)) : Prop where
  configured : dedup.dedupPeriod = period
  shards : ∀ shard, (dedup.shards shard).Tracks period (events shard)

theorem ConcurrentDedup.new_tracks (positive : period ≠ 0) :
    (ConcurrentDedup.new period).Tracks period fun _ => [] :=
  ⟨rfl, fun _ => Dedup.new_tracks positive⟩

section

variable {sharded : ConcurrentDedup} {histories : Fin numShards → List (Wheel.Event UInt64)}

theorem ConcurrentDedup.Tracks.idle (tracks : sharded.Tracks period histories) :
    sharded.Tracks period fun shard => histories shard ++ [.idle] :=
  ⟨tracks.configured, fun shard => (tracks.shards shard).idle⟩

theorem ConcurrentDedup.Tracks.rotateShard (tracks : sharded.Tracks period histories) (positive : period ≠ 0)
    (rotated : Fin numShards) :
    (sharded.rotateShard rotated).Tracks period fun shard =>
      histories shard ++ [if rotated = shard then .turned else .idle] where
  configured := tracks.configured
  shards := by
    intro shard
    by_cases same : rotated = shard
    · subst same
      simpa [ConcurrentDedup.rotateShard] using (tracks.shards rotated).rotateBucket positive
    · simpa [ConcurrentDedup.rotateShard, same, Function.update_of_ne (Ne.symm same)] using (tracks.shards shard).idle

theorem ConcurrentDedup.Tracks.check (tracks : sharded.Tracks period histories) (positive : period ≠ 0)
    (ahash : List UInt8 → UInt64) (payload : List UInt8) :
    ((sharded.checkAndInsert ahash payload).1 = true ↔
      Wheel.Recent (bucketCount period) (histories (shardIdx (ahash payload))) (ahash payload)) ∧
    (sharded.checkAndInsert ahash payload).2.Tracks period fun shard =>
      histories shard ++ [if shardIdx (ahash payload) = shard ∧ (sharded.checkAndInsert ahash payload).1 = false
        then .recorded (ahash payload) else .idle] := by
  obtain ⟨answer, recorded⟩ := (tracks.shards (shardIdx (ahash payload))).check positive (ahash payload)
  have enabled : sharded.dedupPeriod ≠ 0 := by
    rw [tracks.configured]
    exact positive
  simp only [ConcurrentDedup.checkAndInsert, if_neg enabled]
  refine ⟨answer, tracks.configured, ?_⟩
  intro shard
  by_cases same : shardIdx (ahash payload) = shard
  · subst same
    cases found : ((sharded.shards (shardIdx (ahash payload))).checkAndInsertWithHash (ahash payload)).1 with
    | true => simpa [found] using recorded
    | false => simpa [found] using recorded
  · simpa [same, Function.update_of_ne (Ne.symm same)] using (tracks.shards shard).idle

end

end MavRouter.Ingress
