import MavRouter.Network.Duplicates

set_option autoImplicit false

namespace MavRouter.Network

open Framing Ingress Routing Runs
open Broadcast (ring)

variable {M : Type} [Message M] {ahash : List UInt8 → UInt64} {channel : Broadcast.Channel RoutedMessage}

def Step.isSubscribe : Step M → Bool
  | .subscribe => true
  | _ => false

def Step.isUnsubscribe : Step M → Bool
  | .unsubscribe => true
  | _ => false

-- Nobody gives up a subscription that he does not have.
def Matched (steps : List (Step M)) : Prop :=
  ∀ past, past <+: steps → past.countP Step.isUnsubscribe ≤ past.countP Step.isSubscribe

def openLinks (links : List Link) : Nat := (links.map fun link => if link.opened then 1 else 0).sum

theorem handleIncomingFrame_receivers (ahash : List UInt8 → UInt64) (core : EndpointCore) (frame : MavlinkFrame M)
    (now : Instant) (timestampUs : UInt64) (router : RouterState) :
    (core.handleIncomingFrame ahash frame now timestampUs router).bus.receivers = router.bus.receivers := by
  simp only [EndpointCore.handleIncomingFrame]
  split_ifs
  · rfl
  · rfl
  · rw [EndpointCore.publishFrame, (observeRoute_frame ..).1, Bus.send]
    split_ifs
    · exact congrArg Bus.receivers (observeRoute_frame ..).1
    · rfl

theorem step_receivers (ahash : List UInt8 → UInt64) (system : System) (op : Step M) (more less : Nat)
    (counted : system.router.bus.receivers + less = openLinks system.links + more)
    (matched : less + op.isUnsubscribe.toNat ≤ more + op.isSubscribe.toNat) :
    (system.step ahash op).router.bus.receivers + (less + op.isUnsubscribe.toNat) =
      openLinks (system.step ahash op).links + (more + op.isSubscribe.toNat) := by
  cases op with
  | connect core =>
    simp [System.step, System.connect, openLinks, Step.isSubscribe, Step.isUnsubscribe] at counted ⊢
    omega
  | disconnect i =>
    simp only [System.step, System.disconnect, Step.isSubscribe, Step.isUnsubscribe, Bool.toNat_false] at matched ⊢
    cases found : system.link i with
    | none => exact counted
    | some link =>
      obtain ⟨here, opened⟩ := link_some found
      have moved := sum_set (fun link => if link.opened then 1 else 0) system.links i link { link with opened := false }
        here
      simp only [opened, if_true, Bool.false_eq_true, if_false] at moved
      simp only [openLinks] at counted ⊢
      omega
  | incoming i frame now timestampUs =>
    simp only [System.step, System.incoming, Step.isSubscribe, Step.isUnsubscribe, Bool.toNat_false] at matched ⊢
    cases found : system.link i with
    | none => exact counted
    | some link =>
      rw [handleIncomingFrame_receivers]
      exact counted
  | recvNextBusMsg i cancelled =>
    simp only [System.step, System.recvNextBusMsg, Step.isSubscribe, Step.isUnsubscribe, Bool.toNat_false] at matched ⊢
    cases found : system.link i with
    | none => exact counted
    | some link =>
      have moved := sum_set (fun link => if link.opened then 1 else 0) system.links i link
        (link.recv system.channel system.capacity system.router cancelled) (link_some found).1
      rw [openLinks, Nat.add_right_cancel moved]
      exact counted
  | recvRouteUpdate =>
    obtain ⟨queue, batch, received, _⟩ := recvRouteUpdate_cases (M := M) ahash system.router
    simp only [System.step, received]
    exact counted
  | applyRouteUpdate clock =>
    rcases applyRouteUpdate_cases (M := M) ahash system.router clock with ⟨same, _⟩ | ⟨update, rest, _, applied⟩
    · simp only [System.step, same]
      exact counted
    · simp only [System.step, applied]
      exact counted
  | subscribe =>
    simp [System.step, RouterOp.apply, Step.isSubscribe, Step.isUnsubscribe] at counted ⊢
    omega
  | unsubscribe =>
    simp [System.step, RouterOp.apply, Step.isSubscribe, Step.isUnsubscribe] at counted matched ⊢
    omega
  | rotateShard shard => exact counted
  | prune now maxAge => exact counted

theorem run_receivers (ahash : List UInt8 → UInt64) (system : System) (idle : system.links = [])
    (unheard : system.router.bus.receivers = 0) (steps : List (Step M)) (matched : Matched steps) :
    (system.run ahash steps).router.bus.receivers + steps.countP Step.isUnsubscribe =
      openLinks (system.run ahash steps).links + steps.countP Step.isSubscribe := by
  revert matched
  apply run_history (System.step ahash) system (fun steps reached => Matched steps →
    reached.router.bus.receivers + steps.countP Step.isUnsubscribe =
      openLinks reached.links + steps.countP Step.isSubscribe)
  · intro _
    simp [idle, unheard, openLinks]
  · intro steps op ih matched
    have before : Matched steps := fun past inside => matched past (inside.trans (List.prefix_append _ _))
    have here := matched _ (List.prefix_refl _)
    have single (p : Step M → Bool) : [op].countP p = (p op).toNat := by
      cases holds : p op <;> simp [holds]
    rw [List.countP_append, List.countP_append, single, single] at here ⊢
    exact step_receivers ahash _ op _ _ (ih before) here

theorem link_listens (ahash : List UInt8 → UInt64) (system : System) (idle : system.links = [])
    (unheard : system.router.bus.receivers = 0) (steps : List (Step M)) (matched : Matched steps) (i : Nat)
    (link : Link)
    (present : (system.run ahash steps).link i = some link) : (system.run ahash steps).router.bus.receivers ≠ 0 := by
  have counted := run_receivers ahash system idle unheard steps matched
  have fewer := matched steps (List.prefix_refl _)
  obtain ⟨found, opened⟩ := link_some present
  have one : 1 ≤ openLinks (system.run ahash steps).links := by
    refine List.sum_pos_iff_exists_pos_nat.mpr ⟨1, List.mem_map.mpr ⟨link, List.mem_of_getElem? found, ?_⟩, Nat.one_pos⟩
    rw [if_pos opened]
  omega

theorem filter_unique {A : Type} (p : A → Bool) (l : List A) (k : Nat) (x : A) (found : l[k]? = some x)
    (holds : p x = true) (only : ∀ j y, l[j]? = some y → p y = true → j = k) : l.filter p = [x] := by
  obtain ⟨inside, rfl⟩ := List.getElem?_eq_some_iff.mp found
  have none (part : List A) (apart : ∀ (j : Nat) (y : A), part[j]? = some y → p y = true → False) :
      part.filter p = [] := by
    rw [List.filter_eq_nil_iff]
    intro y member
    obtain ⟨j, here⟩ := List.mem_iff_getElem?.mp member
    exact apart j y here
  have split : l = l.take k ++ l[k] :: l.drop (k + 1) := by simp
  have front := none (l.take k) fun j y here also => by
    rw [List.getElem?_take] at here
    split_ifs at here with less
    exact Nat.ne_of_lt less (only j y here also)
  have back := none (l.drop (k + 1)) fun j y here also => by
    rw [List.getElem?_drop] at here
    have same := only _ y here also
    omega
  conv_lhs => rw [split]
  rw [List.filter_append, List.filter_cons_of_pos holds, front, back, List.nil_append]

section Copies

variable (ahash : List UInt8 → UInt64) {dedupPeriod : Duration} (system : System) (before : List (Step M)) (j : Nat)
  (frame : MavlinkFrame M) (now : Instant) (timestampUs : UInt64) (after : List (Step M)) (since : Nat) (source : Link)

/-- A frame comes in that is new to the router, the first with its bytes since that place on the bus, and the dedup
window is not over at the end of the run. -/
structure FirstCopy (dedupPeriod : Duration) : Prop where
  reading : (system.run ahash before).link j = some source
  passes : passesFilter source.core frame = true
  new : isDuplicate ahash (system.run ahash before).router frame = false
  first : ∀ msg ∈ (system.run ahash before).sent.drop since, msg.serializedBytes ≠ frame.rawBytes
  window : after.countP (Step.rotates (shardIdx (ahash frame.rawBytes))) < bucketCount dedupPeriod

variable {ahash system before j frame after since source}

theorem FirstCopy.publishes (copy : FirstCopy ahash system before j frame after since source dedupPeriod)
    (listening : (system.run ahash before).router.bus.receivers ≠ 0) :
    Publishes ahash (system.run ahash before).router source.core frame now timestampUs :=
  (publishes_iff ..).mpr ⟨copy.passes, copy.new, listening⟩

theorem FirstCopy.place (copy : FirstCopy ahash system before j frame after since source dedupPeriod)
    (listening : (system.run ahash before).router.bus.receivers ≠ 0) :
    (system.run ahash (before ++ .incoming j frame now timestampUs :: after)).sent[
      (system.run ahash before).sent.length]? = some (source.core.routed frame timestampUs) := by
  have published : ((system.run ahash before).step ahash (.incoming j frame now timestampUs)).sent =
      (system.run ahash before).sent ++ [source.core.routed frame timestampUs] := by
    simpa [System.step, System.incoming, copy.reading, System.sent, Publishes] using
      copy.publishes now timestampUs listening
  obtain ⟨more, grown⟩ := run_sent_grows ahash
    ((system.run ahash before).step ahash (.incoming j frame now timestampUs))
    after
  have same : (system.run ahash (before ++ .incoming j frame now timestampUs :: after)).sent =
      (system.run ahash before).sent ++ [source.core.routed frame timestampUs] ++ more := by
    rw [← published, grown, System.run_append]
    rfl
  rw [same]
  simp

theorem FirstCopy.only (copy : FirstCopy ahash system before j frame after since source dedupPeriod)
    (listening : (system.run ahash before).router.bus.receivers ≠ 0) (enabled : dedupPeriod ≠ 0)
    (quiet : system.sent = [])
    (fresh : system.router.dedup = ConcurrentDedup.new dedupPeriod) (place : Nat) (msg : RoutedMessage)
    (later : since ≤ place)
    (found : (system.run ahash (before ++ .incoming j frame now timestampUs :: after)).sent[place]? = some msg)
    (same : msg.serializedBytes = frame.rawBytes) : place = (system.run ahash before).sent.length := by
  rcases Nat.lt_trichotomy place (system.run ahash before).sent.length with less | equal | greater
  · obtain ⟨more, grown⟩ := run_sent_grows ahash (system.run ahash before) (.incoming j frame now timestampUs :: after)
    rw [System.run_append, ← grown, List.getElem?_append_left less] at found
    have member : msg ∈ (system.run ahash before).sent.drop since := by
      refine List.mem_of_getElem? (i := place - since) ?_
      rw [List.getElem?_drop, Nat.add_sub_cancel' later, found]
    exact absurd same (copy.first msg member)
  · exact equal
  · obtain ⟨before', j', frame', now', timestampUs', after', source', parts, reading', publishes', here, rfl⟩ :=
      run_published quiet _ place msg found
    obtain ⟨between, rfl⟩ := published_order ahash system before before' after after' _ _ parts (by omega)
    have apart := publications_apart enabled system fresh before between j frame frame' now now' timestampUs
      timestampUs' source source' copy.reading same (copy.publishes now timestampUs listening) publishes'
    rw [List.append_assoc, List.append_cancel_left_eq, List.cons_append, List.cons.injEq] at parts
    have window := copy.window
    rw [parts.2, List.countP_append] at window
    omega

end Copies

theorem copies_sent_once (ahash : List UInt8 → UInt64) (routingTable : RoutingTable) (dedupPeriod : Duration)
    (enabled : dedupPeriod ≠ 0) (busCapacity : Nat) (before : List (Step M)) (matched : Matched before) (j : Nat)
    (frame : MavlinkFrame M) (now : Instant) (timestampUs : UInt64) (after : List (Step M)) (i : Nat)
    (source earlier link : Link)
    (present : ((System.start channel routingTable dedupPeriod busCapacity).run ahash before).link i = some earlier)
    (found : ((System.start channel routingTable dedupPeriod busCapacity).run ahash
      (before ++ .incoming j frame now timestampUs :: after)).links[i]? = some link)
    (copy : FirstCopy ahash (System.start channel routingTable dedupPeriod busCapacity) before j frame after
    earlier.since
      source dedupPeriod)
    (keepsUp : KeepsUp ahash (System.start channel routingTable dedupPeriod busCapacity)
      (before ++ .incoming j frame now timestampUs :: after) i)
    (drained : link.next = ((System.start channel routingTable dedupPeriod busCapacity).run ahash
      (before ++ .incoming j frame now timestampUs :: after)).sent.length)
    (wanted : wants earlier.core (source.core.routed frame timestampUs) = true)
    (broadcast : (extractTarget frame.message).systemId = 0) :
    (link.forwarded.filter fun msg => decide (msg.serializedBytes = frame.rawBytes)) =
      [source.core.routed frame timestampUs] := by
  have listening := link_listens ahash (System.start channel routingTable dedupPeriod busCapacity) rfl rfl before
    matched i
    earlier present
  have idle : Sound (System.start channel routingTable dedupPeriod busCapacity) := by simp [Sound, System.start]
  have stands := run_sound ahash idle before earlier (List.mem_of_getElem? (link_some present).1)
  have began := stands.begun.trans stands.within
  obtain ⟨link', found', core, since⟩ := run_keeps ahash _ (.incoming j frame now timestampUs :: after) i earlier
    (link_some present).1
  rw [← System.run_append, found, Option.some.injEq] at found'
  subst found'
  have items := keepsUp_items ahash routingTable dedupPeriod busCapacity _ i link found keepsUp
  rw [drained, List.take_length, since] at items
  have once : ((Broadcast.items (receptions link)).filter fun msg => decide (msg.serializedBytes = frame.rawBytes)) =
      [source.core.routed frame timestampUs] := by
    rw [items]
    refine filter_unique _ _
      (((System.start channel routingTable dedupPeriod busCapacity).run ahash before).sent.length - earlier.since)
      _ ?_ (decide_eq_true rfl) ?_
    · rw [List.getElem?_drop, Nat.add_sub_cancel' began]
      exact copy.place now timestampUs listening
    · intro k msg here same
      rw [List.getElem?_drop] at here
      have place := copy.only now timestampUs listening enabled rfl rfl _ msg (Nat.le_add_right _ _) here
        (of_decide_eq_true same)
      omega
  have got : source.core.routed frame timestampUs ∈ Broadcast.items (receptions link) := by
    have member : source.core.routed frame timestampUs ∈ [source.core.routed frame timestampUs] :=
      List.mem_singleton_self _
    rw [← once] at member
    exact (List.mem_filter.mp member).1
  have sends : source.core.routed frame timestampUs ∈ link.forwarded := by
    have member : source.core.routed frame timestampUs ∈ (Broadcast.items (receptions link)).filter
        fun msg => wants link.core msg && isBroadcast msg := by
      refine List.mem_filter.mpr ⟨got, ?_⟩
      rw [core, wanted, isBroadcast, EndpointCore.routed, broadcast]
      rfl
    rw [receptions, ← forwarded_broadcasts] at member
    exact (List.mem_filter.mp member).1
  have within : (link.forwarded.filter fun msg => decide (msg.serializedBytes = frame.rawBytes)).Sublist
      [source.core.routed frame timestampUs] := by
    rw [← once]
    exact ((forwarded_sublist link.core link.taken).trans List.filter_sublist).filter _
  exact within.eq_of_length_le (List.length_pos_of_mem (List.mem_filter.mpr ⟨sends, decide_eq_true rfl⟩))

def heardTwice : List (Step CommonMessage) :=
  [.incoming 1 sampleFrame 0 2, .incoming 2 sampleFrame 0 3, .recvNextBusMsg 2 false, .recvNextBusMsg 2 false]

def threeLinks : List (Step CommonMessage) := [.connect (relayCore 0), .connect (relayCore 1), .connect (relayCore 2)]

def connectedSystem : System := System.start ring RoutingTable.new (Duration.fromMillis 200) 16

theorem heardTwice_copy : FirstCopy sampleHash connectedSystem threeLinks 0 sampleFrame heardTwice 0
    ⟨relayCore 0, true, 0, 0, []⟩ (Duration.fromMillis 200) := by
  constructor
  · rfl
  · decide +kernel
  · decide +kernel
  · decide +kernel
  · decide +kernel

theorem heardTwice_link :
    let reached := connectedSystem.run sampleHash (threeLinks ++ .incoming 0 sampleFrame 0 1 :: heardTwice)
    ∃ link, reached.links[2]? = some link ∧ link.next = reached.sent.length := by
  intro reached
  have next : reached.links[2]?.map Link.next = some reached.sent.length := by decide +kernel
  exact Option.map_eq_some_iff.mp next

theorem copies_sent_once_heartbeat :
    ∃ link, (connectedSystem.run sampleHash (threeLinks ++ .incoming 0 sampleFrame 0 1 :: heardTwice)).links[2]? =
      some link ∧
    (link.forwarded.filter fun msg => decide (msg.serializedBytes = sampleFrame.rawBytes)) =
      [(relayCore 0).routed sampleFrame 1] := by
  have matched : Matched threeLinks := fun past inside =>
    Nat.le_trans inside.sublist.countP_le (Nat.zero_le _)
  obtain ⟨link, found, drained⟩ := heardTwice_link
  exact ⟨link, found, copies_sent_once sampleHash RoutingTable.new (Duration.fromMillis 200) (by decide) 16 threeLinks
    matched 0 sampleFrame 0 1 heardTwice 2 _ ⟨relayCore 2, true, 0, 0, []⟩ link rfl found heardTwice_copy
    (keepsUp_short _ _ _ _ (by decide +kernel)) drained (by decide +kernel) (by decide +kernel)⟩

end MavRouter.Network
