import Mathlib.Algebra.GroupWithZero.Nat
import MavRouter.Network.Wire

set_option autoImplicit false

namespace MavRouter.Network

open Framing Ingress Routing Runs Endpoints Endpoints.Tlog
open Broadcast (ring)

variable {W : Type} {writer : Writer W} {file held : W → List UInt8}

-- The branch of select that an answer of recv leads to; while there is none, recv goes on waiting.
def selected : Broadcast.Reception RoutedMessage → Option SelectOutcome
  | .message msg => some (.recv (.ok msg))
  | .lagged n => some (.recv (.error (.lagged n.toUInt64)))
  | .empty => none

def isRecv : SelectOutcome → Bool
  | .recv _ => true
  | _ => false

def lagOf : SelectOutcome → UInt64
  | .recv (.error (.lagged n)) => n
  | _ => 0

theorem received_answers (outcomes : List SelectOutcome) (running : ∀ outcome ∈ outcomes, outcome.exits = false)
    (taken : List (Broadcast.Reception RoutedMessage)) (asked : outcomes.filter isRecv = taken.filterMap selected) :
    received outcomes = Broadcast.items taken := by
  have whole : received outcomes = outcomes.filterMap SelectOutcome.message := by
    rw [received, List.takeWhile_eq_self_iff.mpr fun outcome member => by rw [running outcome member]; rfl]
  have silent : outcomes.filterMap SelectOutcome.message =
    (outcomes.filter isRecv).filterMap SelectOutcome.message := by
    rw [List.filterMap_filter]
    refine congrArg (List.filterMap · outcomes) (funext fun outcome => ?_)
    cases outcome <;> rfl
  rw [whole, silent, asked, List.filterMap_filterMap, Broadcast.items]
  refine congrArg (List.filterMap · taken) (funext fun reception => ?_)
  cases reception <;> rfl

theorem lags_answers (outcomes : List SelectOutcome) (taken : List (Broadcast.Reception RoutedMessage))
    (asked : outcomes.filter isRecv = taken.filterMap selected) :
    (outcomes.map lagOf).sum = UInt64.ofNat (Broadcast.missed taken) := by
  have silent : (outcomes.map lagOf).sum = ((outcomes.filter isRecv).map lagOf).sum := by
    clear asked
    induction outcomes with
    | nil => rfl
    | cons outcome rest ih =>
      rw [List.map_cons, List.sum_cons, List.filter_cons, ih]
      cases outcome <;> simp [isRecv, lagOf]
  rw [silent, asked, Broadcast.missed]
  clear silent asked
  induction taken with
  | nil => rfl
  | cons reception rest ih =>
    rw [List.filterMap_cons]
    cases reception <;> simp [selected, lagOf, Broadcast.Reception.missed, ih, UInt64.ofNat_add]

theorem select_counts (writer : Writer W) (pathStr : String) (s : TlogState W) (outcome : SelectOutcome)
    (running : s.returned = none) (stays : outcome.exits = false)
    (fine : (s.select writer pathStr outcome).ioErrors = []) :
    (s.select writer pathStr outcome).returned = none ∧
      (s.select writer pathStr outcome).busLagged = s.busLagged + lagOf outcome := by
  cases outcome with
  | cancelled => cases stays
  | tick =>
    simp only [TlogState.select, TlogState.flush] at fine ⊢
    split at fine <;> simp_all [TlogState.fails, lagOf]
  | recv res =>
    rcases res with (_ | _) | msg
    · exact ⟨running, rfl⟩
    · cases stays
    · simp only [TlogState.select, TlogState.log] at fine ⊢
      split at fine
      · simp [TlogState.fails] at fine
      · split at fine <;> simp_all [TlogState.fails, lagOf]

theorem run_counts (writer : Writer W) (pathStr : String) (created : W) (busLagged : UInt64)
    (outcomes : List SelectOutcome) (running : ∀ outcome ∈ outcomes, outcome.exits = false)
    (fine : (Tlog.run writer pathStr created busLagged outcomes).ioErrors = []) :
    (Tlog.run writer pathStr created busLagged outcomes).returned = none ∧
      (Tlog.run writer pathStr created busLagged outcomes).busLagged = busLagged + (outcomes.map lagOf).sum := by
  revert running fine
  apply run_history (TlogState.step writer pathStr)
    { writer := created, busLagged, ioErrors := [], returned := none }
    (fun outcomes s => (∀ outcome ∈ outcomes, outcome.exits = false) → s.ioErrors = [] →
      s.returned = none ∧ s.busLagged = busLagged + (outcomes.map lagOf).sum)
  · simp
  · intro older outcome ih running fine
    have before := ih fun earlier member => running earlier (List.mem_append_left _ member)
    generalize List.foldl _ _ older = s at before fine ⊢
    cases returned : s.returned with
    | some result =>
      simp only [TlogState.step, returned, Option.isSome_some, if_true] at fine
      rw [(before fine).1] at returned
      cases returned
    | none =>
      simp only [TlogState.step, returned, Option.isSome_none, Bool.false_eq_true, if_false] at fine ⊢
      obtain ⟨goes, counted⟩ := select_counts writer pathStr s outcome returned (running outcome (by simp)) fine
      refine ⟨goes, ?_⟩
      rw [counted, (before (select_reports writer pathStr s outcome fine)).2, List.map_append, List.sum_append]
      simp [UInt64.add_assoc]

theorem finish_keeps_lag (writer : Writer W) (s : TlogState W) : (s.finish writer).busLagged = s.busLagged := by
  rw [TlogState.finish]
  split <;> rfl

theorem run_cancelled (buffers : Buffers writer file held) (pathStr : String) (created : W)
    (fresh : file created = [] ∧ held created = []) (busLagged : UInt64) (outcomes : List SelectOutcome)
    (running : ∀ outcome ∈ outcomes, outcome.exits = false)
    (fine : (Tlog.run writer pathStr created busLagged (outcomes ++ [.cancelled])).ioErrors = []) :
    let ended := Tlog.run writer pathStr created busLagged (outcomes ++ [.cancelled])
    ended.returned = some (.ok ()) ∧ ended.busLagged = busLagged + (outcomes.map lagOf).sum ∧
      file ended.writer = ((received outcomes).map record).flatMap recordBytes := by
  intro ended
  have logged : Logged file held (outcomes ++ [.cancelled]) ended :=
    run_logged buffers pathStr created busLagged fresh (outcomes ++ [.cancelled]) fine
  have stopped : ended = (Tlog.run writer pathStr created busLagged outcomes).step writer pathStr .cancelled := by
    simp [ended, Tlog.run]
  have before : (Tlog.run writer pathStr created busLagged outcomes).ioErrors = [] := by
    have reported : ended.ioErrors = [] := fine
    rw [stopped, TlogState.step] at reported
    split_ifs at reported
    · exact reported
    · exact select_reports writer pathStr _ .cancelled reported
  obtain ⟨goes, counted⟩ := run_counts writer pathStr created busLagged outcomes running before
  cases returned : ended.returned with
  | none => cases logged.running returned .cancelled (by simp)
  | some result =>
    obtain ⟨rfl, empty, _⟩ := logged.ended result returned
    refine ⟨rfl, ?_, ?_⟩
    · rw [stopped, TlogState.step, goes, ← counted]
      exact finish_keeps_lag writer _
    · have written := logged.written
      rw [empty, List.append_nil, received_concat outcomes .cancelled running] at written
      rw [written, List.flatMap_map]
      simp [SelectOutcome.message]

variable {M : Type} [Message M] {channel : Broadcast.Channel RoutedMessage}

theorem log_holds_bus (buffers : Buffers writer file held) (pathStr : String) (created : W)
    (fresh : file created = [] ∧ held created = []) (busLagged : UInt64) (ahash : List UInt8 → UInt64)
    (routingTable : RoutingTable) (dedupPeriod : Duration) (busCapacity : Nat) (steps : List (Step M)) (i : Nat)
    (link : Link)
    (found : ((System.start channel routingTable dedupPeriod busCapacity).run ahash steps).links[i]? = some link)
    (outcomes : List SelectOutcome) (running : ∀ outcome ∈ outcomes, outcome.exits = false)
    (asked : outcomes.filter isRecv = (receptions link).filterMap selected)
    (fine : (Tlog.run writer pathStr created busLagged (outcomes ++ [.cancelled])).ioErrors = []) :
    let bus := ((System.start channel routingTable dedupPeriod busCapacity).run ahash steps).sent
    let passed := (bus.take link.next).drop link.since
    let ended := Tlog.run writer pathStr created busLagged (outcomes ++ [.cancelled])
    ∃ kept : List RoutedMessage, kept.Sublist passed ∧ ended.returned = some (.ok ()) ∧
      file ended.writer = (kept.map record).flatMap recordBytes ∧
      ended.busLagged = busLagged + UInt64.ofNat (passed.length - kept.length) ∧
      (KeepsUp ahash (System.start channel routingTable dedupPeriod busCapacity) steps i → kept = passed) ∧
      ((∀ msg ∈ kept, ∃ version, Complete version msg.serializedBytes) →
        tlogReader.drain (file ended.writer) = (kept.map record, [])) := by
  intro bus passed ended
  have idle : Sound (System.start channel routingTable dedupPeriod busCapacity) := by simp [Sound, System.start]
  have follows : Broadcast.Follows passed (receptions link) :=
    (run_sound ahash idle steps link (List.mem_of_getElem? found)).follows
  obtain ⟨returned, lagged, content⟩ := run_cancelled buffers pathStr created fresh busLagged outcomes running fine
  rw [received_answers outcomes running (receptions link) asked] at content
  rw [lags_answers outcomes (receptions link) asked] at lagged
  have lost : Broadcast.missed (receptions link) = passed.length - (Broadcast.items (receptions link)).length := by
    have counts := follows.counts
    omega
  refine ⟨Broadcast.items (receptions link), follows.sublist, returned, content, lost ▸ lagged, ?_, ?_⟩
  · intro keepsUp
    exact follows.whole (keepsUp_missed ahash _ rfl steps i link found keepsUp)
  · intro frames
    rw [content]
    apply readLog_records
    intro record' inside
    obtain ⟨msg, got, rfl⟩ := List.mem_map.mp inside
    exact frames msg got

theorem log_holds_bus_heartbeat : ∃ kept : List RoutedMessage, kept = [(relayCore 0).routed sampleFrame 1] ∧
    (Tlog.run bufWriter "flight_0.tlog" ⟨[], []⟩ 0
      [.tick, .recv (.ok ((relayCore 0).routed sampleFrame 1)), .cancelled]).writer.inner =
      (kept.map record).flatMap recordBytes := by
  have found : relayed.links[1]? = some relayed.links[1] := rfl
  have running : ∀ outcome ∈ [SelectOutcome.tick, .recv (.ok ((relayCore 0).routed sampleFrame 1))],
      outcome.exits = false := by
    simp [SelectOutcome.exits]
  have asked : [SelectOutcome.tick, .recv (.ok ((relayCore 0).routed sampleFrame 1))].filter isRecv =
      (receptions relayed.links[1]).filterMap selected := by
    obtain ⟨taken, single, message⟩ : ∃ taken, relayed.links[1].taken = [taken] ∧
        taken.reception.item = some ((relayCore 0).routed sampleFrame 1) :=
      ⟨relayed.links[1].taken[0], rfl, by decide +kernel⟩
    rw [receptions, single]
    cases reception : taken.reception <;> simp_all [isRecv, selected, Broadcast.Reception.item]
  have keepsUp : KeepsUp sampleHash (System.start ring RoutingTable.new 0 16) relay 1 :=
    keepsUp_short _ _ _ _ (by decide +kernel)
  obtain ⟨kept, _, _, content, _, whole, _⟩ := log_holds_bus bufWriter_buffers "flight_0.tlog" ⟨[], []⟩ ⟨rfl, rfl⟩ 0
    sampleHash RoutingTable.new 0 16 relay 1 relayed.links[1] found _ running asked rfl
  refine ⟨kept, (whole keepsUp).trans ?_, content⟩
  decide +kernel

end MavRouter.Network
