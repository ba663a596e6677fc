import Mathlib.Algebra.GroupWithZero.Nat
import Mathlib.Data.List.Basic
import MavRouter.Shared.Runs

set_option autoImplicit false

namespace Broadcast

variable {A : Type}

inductive Reception (A : Type) where
  | message (item : A)
  | lagged (missed : Nat)
  | empty

-- `recv capacity sent next` is what a receiver gets whose next item is the one at that place, and its place afterwards.
-- The capacity is that asked for: a channel may keep more items, and then loses fewer.
structure Channel (A : Type) where
  recv : Nat → List A → Nat → Reception A × Nat
  waits (capacity : Nat) (sent : List A) (next : Nat) (caughtUp : sent[next]? = none) :
    recv capacity sent next = (.empty, next)
  gives (capacity : Nat) (sent : List A) (next : Nat) (item : A) (found : sent[next]? = some item) :
    recv capacity sent next = (.message item, next + 1) ∨
      ∃ missed, 0 < missed ∧ next + missed + capacity ≤ sent.length ∧
        recv capacity sent next = (.lagged missed, next + missed)

def ringRecv (capacity : Nat) (sent : List A) (next : Nat) : Reception A × Nat :=
  match sent[next]? with
  | none => (.empty, next)
  | some item =>
    if next + capacity < sent.length then (.lagged (sent.length - capacity - next), sent.length - capacity)
    else (.message item, next + 1)

theorem ringRecv_waits (capacity : Nat) (sent : List A) (next : Nat) (caughtUp : sent[next]? = none) :
    ringRecv capacity sent next = (.empty, next) := by
  rw [ringRecv, caughtUp]

theorem ringRecv_gives (capacity : Nat) (sent : List A) (next : Nat) (item : A) (found : sent[next]? = some item) :
    ringRecv capacity sent next = (.message item, next + 1) ∨
      ∃ missed, 0 < missed ∧ next + missed + capacity ≤ sent.length ∧
        ringRecv capacity sent next = (.lagged missed, next + missed) := by
  rw [ringRecv, found]
  dsimp only
  split_ifs with behind
  · have place : next + (sent.length - capacity - next) = sent.length - capacity := by omega
    refine .inr ⟨sent.length - capacity - next, by omega, by omega, ?_⟩
    rw [place]
  · exact .inl rfl

def ring : Channel A := ⟨ringRecv, ringRecv_waits, ringRecv_gives⟩

def Reception.item : Reception A → Option A
  | .message item => some item
  | _ => none

def Reception.missed : Reception A → Nat
  | .lagged missed => missed
  | _ => 0

def Reception.width : Reception A → Nat
  | .message _ => 1
  | .lagged missed => missed
  | .empty => 0

def items (taken : List (Reception A)) : List A := taken.filterMap Reception.item

def missed (taken : List (Reception A)) : Nat := (taken.map Reception.missed).sum

def width (taken : List (Reception A)) : Nat := (taken.map Reception.width).sum

@[simp] theorem items_cons (reception : Reception A) (taken : List (Reception A)) :
    items (reception :: taken) = reception.item.toList ++ items taken := by
  cases item : reception.item <;> simp [items, item]

@[simp] theorem items_concat (taken : List (Reception A)) (reception : Reception A) :
    items (taken ++ [reception]) = items taken ++ reception.item.toList := by
  cases reception <;> simp [items, Reception.item]

@[simp] theorem missed_concat (taken : List (Reception A)) (reception : Reception A) :
    missed (taken ++ [reception]) = missed taken + reception.missed := by
  simp [missed]

@[simp] theorem width_concat (taken : List (Reception A)) (reception : Reception A) :
    width (taken ++ [reception]) = width taken + reception.width := by
  simp [width]

inductive Follows : List A → List (Reception A) → Prop where
  | nil : Follows [] []
  | message (segment : List A) (taken : List (Reception A)) (item : A) (follows : Follows segment taken) :
      Follows (segment ++ [item]) (taken ++ [.message item])
  | lagged (segment : List A) (taken : List (Reception A)) (lost : List A) (follows : Follows segment taken) :
      Follows (segment ++ lost) (taken ++ [.lagged lost.length])
  | empty (segment : List A) (taken : List (Reception A)) (follows : Follows segment taken) :
      Follows segment (taken ++ [.empty])

theorem Follows.width {segment : List A} {taken : List (Reception A)} (follows : Follows segment taken) :
    width taken = segment.length := by
  induction follows with
  | nil => rfl
  | message segment taken item _ ih => simp [ih, Reception.width]
  | lagged segment taken lost _ ih => simp [ih, Reception.width]
  | empty segment taken _ ih => simp [ih, Reception.width]

theorem Follows.sublist {segment : List A} {taken : List (Reception A)} (follows : Follows segment taken) :
    (items taken).Sublist segment := by
  induction follows with
  | nil => simp [items]
  | message segment taken item _ ih => simpa [Reception.item] using ih
  | lagged segment taken lost _ ih => simpa [Reception.item] using ih.trans (List.sublist_append_left segment lost)
  | empty segment taken _ ih => simpa [Reception.item] using ih

theorem Follows.counts {segment : List A} {taken : List (Reception A)} (follows : Follows segment taken) :
    (items taken).length + missed taken = segment.length := by
  induction follows with
  | nil => rfl
  | message segment taken item _ ih => simp [Reception.item, Reception.missed, ← ih]; omega
  | lagged segment taken lost _ ih => simp [Reception.item, Reception.missed, ← ih]; omega
  | empty segment taken _ ih => simp [Reception.item, Reception.missed, ← ih]

theorem Follows.whole {segment : List A} {taken : List (Reception A)} (follows : Follows segment taken)
    (complete : missed taken = 0) : items taken = segment := by
  have counts := follows.counts
  exact follows.sublist.eq_of_length (by omega)

theorem Follows.place {segment : List A} {taken : List (Reception A)} (follows : Follows segment taken)
    (older newer : List (Reception A)) (item : A) (split : taken = older ++ .message item :: newer) :
    segment[Broadcast.width older]? = some item := by
  induction follows generalizing newer with
  | nil => simp at split
  | message segment taken last follows ih =>
    cases (Runs.concat_split ..).mp split with
    | inl here =>
      obtain ⟨_, rfl, same⟩ := here
      cases same
      simp [follows.width]
    | inr earlier =>
      obtain ⟨front, _, within⟩ := earlier
      have found := ih front within
      rw [List.getElem?_append_left (List.getElem?_eq_some_iff.mp found).1, found]
  | lagged segment taken lost follows ih =>
    cases (Runs.concat_split ..).mp split with
    | inl here => cases here.2.2
    | inr earlier =>
      obtain ⟨front, _, within⟩ := earlier
      have found := ih front within
      rw [List.getElem?_append_left (List.getElem?_eq_some_iff.mp found).1, found]
  | empty segment taken follows ih =>
    cases (Runs.concat_split ..).mp split with
    | inl here => cases here.2.2
    | inr earlier =>
      obtain ⟨front, _, within⟩ := earlier
      exact ih front within

/-- A receiver with its history: where it began, where it is, and what it was told on the way. -/
structure Stands (sent : List A) (since next : Nat) (taken : List (Reception A)) : Prop where
  begun : since ≤ next
  within : next ≤ sent.length
  follows : Follows ((sent.take next).drop since) taken

theorem segment_grows (sent : List A) (since next later : Nat) (begun : since ≤ next) (further : next ≤ later)
    (within : next ≤ sent.length) :
    (sent.take later).drop since = (sent.take next).drop since ++ (sent.take later).drop next := by
  have split : sent.take later = sent.take next ++ (sent.take later).drop next := by
    have parts := List.take_append_drop next (sent.take later)
    rwa [List.take_take, Nat.min_eq_left further, eq_comm] at parts
  conv_lhs => rw [split]
  rw [List.drop_append_of_le_length]
  simp only [List.length_take]
  omega

theorem subscribe_stands (sent : List A) : Stands sent sent.length sent.length [] := by
  refine ⟨Nat.le_refl _, Nat.le_refl _, ?_⟩
  simpa using Follows.nil

theorem Stands.send {sent : List A} {since next : Nat} {taken : List (Reception A)}
    (stands : Stands sent since next taken) (more : List A) : Stands (sent ++ more) since next taken := by
  obtain ⟨begun, within, follows⟩ := stands
  refine ⟨begun, by simp; omega, ?_⟩
  rwa [List.take_append_of_le_length within]

theorem Stands.recv {sent : List A} {since next : Nat} {taken : List (Reception A)}
    (stands : Stands sent since next taken) (channel : Channel A) (capacity : Nat) :
    Stands sent since (channel.recv capacity sent next).2 (taken ++ [(channel.recv capacity sent next).1]) := by
  obtain ⟨begun, within, follows⟩ := stands
  cases found : sent[next]? with
  | none =>
    rw [channel.waits capacity sent next found]
    exact ⟨begun, within, .empty _ _ follows⟩
  | some item =>
    rcases channel.gives capacity sent next item found with given | ⟨missed, _, inside, lags⟩
    · obtain ⟨inside, same⟩ := List.getElem?_eq_some_iff.mp found
      rw [given]
      refine ⟨Nat.le_succ_of_le begun, inside, ?_⟩
      rw [segment_grows sent since next (next + 1) begun (by omega) within]
      have one : (sent.take (next + 1)).drop next = [item] := by
        rw [List.take_add_one, found, List.drop_append_of_le_length (by simp; omega)]
        simp
      rw [one]
      exact .message _ taken item follows
    · have lost : ((sent.take (next + missed)).drop next).length = missed := by
        rw [List.length_drop, List.length_take]
        omega
      rw [lags]
      refine ⟨by omega, by omega, ?_⟩
      rw [segment_grows sent since next (next + missed) begun (by omega) within]
      have longer := Follows.lagged _ taken ((sent.take (next + missed)).drop next) follows
      rwa [lost] at longer

theorem recv_message (channel : Channel A) (capacity : Nat) (sent : List A) (next : Nat) (item : A)
    (received : (channel.recv capacity sent next).1 = .message item) : sent[next]? = some item := by
  cases found : sent[next]? with
  | none => simp [channel.waits capacity sent next found] at received
  | some other =>
    rcases channel.gives capacity sent next other found with given | ⟨missed, _, _, lags⟩
    · simpa [given] using received
    · simp [lags] at received

theorem recv_missed (channel : Channel A) (capacity : Nat) (sent : List A) (next : Nat)
    (near : sent.length ≤ next + capacity) : (channel.recv capacity sent next).1.missed = 0 := by
  cases found : sent[next]? with
  | none =>
    rw [channel.waits capacity sent next found]
    rfl
  | some item =>
    rcases channel.gives capacity sent next item found with given | ⟨missed, positive, inside, _⟩
    · rw [given]
      rfl
    · omega

end Broadcast
