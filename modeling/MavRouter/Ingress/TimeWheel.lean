import MavRouter.Ingress.Dedup

set_option autoImplicit false

namespace MavRouter.Ingress

open Maps

inductive WheelCall where
  | insert (payload : List UInt8)
  | checkAndInsert (payload : List UInt8)
  | isDuplicate (payload : List UInt8)
  | rotateBucket

namespace Dedup

variable (ahash : List UInt8 → UInt64)

def perform (dedup : Dedup) : WheelCall → Dedup
  | .insert payload => dedup.insert ahash payload
  | .checkAndInsert payload => (dedup.checkAndInsert ahash payload).2
  | .isDuplicate _ => dedup
  | .rotateBucket => dedup.rotateBucket

-- An insertion is recorded by insert, and by a check_and_insert that answers false.
def event (dedup : Dedup) : WheelCall → Wheel.Event UInt64
  | .insert payload => .recorded (ahash payload)
  | .checkAndInsert payload => if (dedup.checkAndInsert ahash payload).1 then .idle else .recorded (ahash payload)
  | .isDuplicate _ => .idle
  | .rotateBucket => .turned

def run (dedup : Dedup) (calls : List WheelCall) : Dedup := calls.foldl (perform ahash) dedup

def history (dedup : Dedup) (calls : List WheelCall) : List (Wheel.Event UInt64) :=
  Runs.trace (event ahash) (perform ahash) dedup calls

variable {period : Duration} {dedup : Dedup} {events : List (Wheel.Event UInt64)}
  (tracks : dedup.Tracks period events) (positive : period ≠ 0)

include tracks positive

theorem Tracks.isDuplicate (payload : List UInt8) :
    dedup.isDuplicate ahash payload = true ↔ Wheel.Recent (bucketCount period) events (ahash payload) := by
  rw [Dedup.isDuplicate, if_neg (by rw [tracks.configured]; exact positive)]
  exact tracks.contains (ahash payload)

theorem Tracks.checkAndInsert (payload : List UInt8) :
    (dedup.checkAndInsert ahash payload).1 = true ↔ Wheel.Recent (bucketCount period) events (ahash payload) :=
  (tracks.check positive (ahash payload)).1

theorem Tracks.perform (call : WheelCall) :
    (dedup.perform ahash call).Tracks period (events ++ [dedup.event ahash call]) := by
  cases call with
  | insert payload =>
    rw [Dedup.perform, Dedup.insert, if_neg (by rw [tracks.configured]; exact positive)]
    exact tracks.insertHash (ahash payload)
  | checkAndInsert payload => exact (tracks.check positive (ahash payload)).2
  | isDuplicate payload => exact tracks.idle
  | rotateBucket => exact tracks.rotateBucket positive

theorem Tracks.run (calls : List WheelCall) :
    (dedup.run ahash calls).Tracks period (events ++ dedup.history ahash calls) := by
  induction calls generalizing dedup events with
  | nil => simpa [Dedup.run, Dedup.history, Runs.trace] using tracks
  | cons call rest ih =>
    have later := ih (tracks.perform ahash positive call)
    rw [List.append_assoc, List.singleton_append] at later
    exact later

end Dedup

theorem bucketCount_eq (period : Duration) :
    bucketCount period = max 2 (min usizeMax (Duration.asMillis period / 100)) :=
  Nat.max_comm ..

theorem buckets_fit (dedupPeriodMs : UInt64) :
    min usizeMax (dedupPeriodMs.toNat / 100) = dedupPeriodMs.toNat / 100 := by
  have bound := dedupPeriodMs.toNat_lt
  simp only [usizeMax]
  omega

theorem sliding_window (ahash : List UInt8 → UInt64) (period : Duration) (positive : period ≠ 0)
    (calls : List WheelCall) :
    let dedup := (Dedup.new period).run ahash calls
    let events := (Dedup.new period).history ahash calls
    (∀ payload,
      (dedup.isDuplicate ahash payload = true ↔ Wheel.Recent dedup.numBuckets events (ahash payload)) ∧
      ((dedup.checkAndInsert ahash payload).1 = true ↔ Wheel.Recent dedup.numBuckets events (ahash payload))) ∧
    dedup.currentBucket < dedup.buckets.length ∧ dedup.buckets.length = dedup.numBuckets ∧
    dedup.numBuckets = max 2 (min usizeMax (Duration.asMillis period / 100)) ∧
    ∀ dedupPeriodMs : UInt64, Duration.asMillis period = dedupPeriodMs.toNat →
      dedup.numBuckets = max 2 (dedupPeriodMs.toNat / 100) := by
  intro dedup events
  have tracks : dedup.Tracks period events := (Dedup.new_tracks positive).run ahash positive calls
  have count : dedup.numBuckets = max 2 (min usizeMax (Duration.asMillis period / 100)) := by
    rw [tracks.count, bucketCount_eq]
  refine ⟨?_, tracks.wheel.inside, tracks.size.trans tracks.count.symm, count, ?_⟩
  · intro payload
    rw [tracks.count]
    exact ⟨tracks.isDuplicate ahash positive payload, tracks.checkAndInsert ahash positive payload⟩
  · intro dedupPeriodMs millis
    rw [count, millis, buckets_fit]

theorem sliding_window_turned :
    let ahash : List UInt8 → UInt64 := fun payload => payload.length.toUInt64
    ((Dedup.new (Duration.fromMillis 250)).run ahash [.insert [7], .rotateBucket]).isDuplicate ahash [7] = true := by
  intro ahash
  have window := sliding_window ahash (Duration.fromMillis 250) (by decide) [.insert [7], .rotateBucket]
  exact (window.1 [7]).1.mpr ⟨1, by decide, [], [.turned], rfl, rfl⟩

end MavRouter.Ingress
