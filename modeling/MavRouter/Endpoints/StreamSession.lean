import MavRouter.Endpoints.StreamLoop
import MavRouter.Framing.Chunks

set_option autoImplicit false

namespace MavRouter.Endpoints.StreamLoop

open Framing Ingress Routing Runs Tlog

/-- A buffered writer, with what a call of it that is dropped while it waits leaves behind. -/
structure CutWriter (W : Type) extends Writer W where
  dropped : W → List UInt8 → Nat → W

/-- A call that fails or is dropped lets out no more than the beginning of what was held and what it was given, and none
takes back what is out. -/
structure CutBuffers {W : Type} (writer : CutWriter W) (file held : W → List UInt8) : Prop
    extends Buffers writer.toWriter file held where
  outWrite : ∀ w bytes, file w <+: file (writer.writeAll w bytes).2
  outFlush : ∀ w, file w <+: file (writer.flush w).2
  outDropped : ∀ w bytes point, file w <+: file (writer.dropped w bytes point)
  cutWrite : ∀ w bytes e later, writer.writeAll w bytes = (.error e, later) → file later <+: file w ++ held w ++ bytes
  cutFlush : ∀ w e later, writer.flush w = (.error e, later) → file later <+: file w ++ held w
  cutDropped : ∀ w bytes point, file (writer.dropped w bytes point) <+: file w ++ held w ++ bytes

inductive Underway where
  | recv
  | write (delivery : Delivery) (point : Nat)
  | flush (delivery : Delivery) (point : Nat)

inductive StreamEnd where
  | eof
  | readFailed (e : IoError)
  | cancelled

inductive SessionEvent where
  | read (chunk : List UInt8)
  | deliver (delivery : Delivery)
  | ends (cause : StreamEnd) (underway : Underway)

def StreamEnd.result (name : String) : StreamEnd → Except RouterError Unit
  | .eof => .ok ()
  | .readFailed e => .error (.network name e)
  | .cancelled => .ok ()

variable {M W : Type}

def StreamState.absorb (writer : Writer W) (core : EndpointCore) (name : String) (delivery : Delivery)
    (s : StreamState W) : StreamState W :=
  match delivery.reception with
  | .message msg => if core.checkOutgoing delivery.routingTable msg then s.write writer name msg else s
  | .lagged n => s.lagged n
  | .empty | .closed => s

def StreamState.drop (writer : CutWriter W) (core : EndpointCore) (name : String) (s : StreamState W) :
    Underway → StreamState W
  | .recv => s
  | .write delivery point =>
    { s with writer := writer.dropped s.writer (bytesOf (delivery.accepted core).toList) point }
  | .flush delivery point =>
    let absorbed := s.absorb writer.toWriter core name delivery
    if absorbed.returned.isSome then absorbed
    else { absorbed with writer := writer.dropped absorbed.writer [] point }

structure StreamSession (M W : Type) where
  reader : List (MavlinkFrame M) × StreamParser
  writing : StreamState W
  returned : Option (Except RouterError Unit)

namespace StreamSession

def step (readers : Readers M) (writer : CutWriter W) (core : EndpointCore) (name : String) (s : StreamSession M W)
    (event : SessionEvent) : StreamSession M W :=
  if s.returned.isSome then s
  else
    match event with
    | .read chunk => { s with reader := readChunk readers s.reader chunk }
    | .deliver delivery =>
      let writing := s.writing.step writer.toWriter core name delivery
      { s with writing, returned := writing.returned }
    | .ends cause underway =>
      let writing := s.writing.drop writer core name underway
      { s with writing, returned := writing.returned <|> some (cause.result name) }

def start (created : W) (stats : EndpointStats) : StreamSession M W where
  reader := ([], StreamParser.new)
  writing := { writer := created, stats, batch := none, returned := none }
  returned := none

def run (readers : Readers M) (writer : CutWriter W) (core : EndpointCore) (name : String) (created : W)
    (stats : EndpointStats) (events : List SessionEvent) : StreamSession M W :=
  events.foldl (step readers writer core name) (start created stats)

end StreamSession

def Underway.delivery : Underway → Option Delivery
  | .recv => none
  | .write delivery _ | .flush delivery _ => some delivery

def SessionEvent.delivery : SessionEvent → Option Delivery
  | .read _ => none
  | .deliver delivery => some delivery
  | .ends _ underway => underway.delivery

def SessionEvent.chunk : SessionEvent → Option (List UInt8)
  | .read chunk => some chunk
  | _ => none

def deliveries (events : List SessionEvent) : List Delivery := events.filterMap SessionEvent.delivery

def reads (events : List SessionEvent) : List (List UInt8) := events.filterMap SessionEvent.chunk

def StreamState.failures (s : StreamState W) : UInt64 :=
  match s.returned with
  | some (.error _) => 1
  | _ => 0

/-- Of the messages let through all but the last at most are counted, and the wire has the beginning of them. -/
structure CutShort (file : W → List UInt8) (stats : EndpointStats) (sent done : List RoutedMessage)
    (s : StreamState W) : Prop where
  first : done <+: sent
  last : sent.length ≤ done.length + 1
  wire : file s.writer <+: bytesOf sent
  msgsOut : s.stats.msgsOut = stats.msgsOut + UInt64.ofNat done.length
  bytesOut : s.stats.bytesOut = stats.bytesOut + UInt64.ofNat (bytesOf done).length
  errors : s.stats.errors = stats.errors + s.failures

def Behind (file : W → List UInt8) (sent : List RoutedMessage) (missing : Nat) (writer : W) : Prop :=
  ∃ older newer, sent = older ++ newer ∧ bytesOf older <+: file writer ∧ newer.length ≤ missing

/-- What the wire still lacks is of the batch at hand, so it lacks nothing while recv is awaited. -/
structure Batched (file : W → List UInt8) (s : StreamState W) (older newer : List RoutedMessage) : Prop where
  out : bytesOf older <+: file s.writer
  room : ∀ left, s.batch = some left → newer.length + left ≤ batchSize
  awaited : s.batch = none → newer = []

section Cut

variable {writer : CutWriter W} {file held : W → List UInt8} {core : EndpointCore} {stats : EndpointStats}
  {past : List Delivery} {s : StreamState W}

theorem Written.whole (written : Written file held core stats past s) (later : StreamState W)
    (wire : file later.writer <+: file s.writer ++ held s.writer)
    (counted : later.stats = { s.stats with errors := s.stats.errors + later.failures }) :
    CutShort file stats (accepted core past) (accepted core past) later where
  first := List.prefix_rfl
  last := Nat.le_succ _
  wire := written.written ▸ wire
  msgsOut := by rw [counted, written.counted]; rfl
  bytesOut := by rw [counted, written.counted]; rfl
  errors := by rw [counted, written.counted]; rfl

theorem Written.torn (written : Written file held core stats past s) (delivery : Delivery) (later : StreamState W)
    (wire : file later.writer <+: file s.writer ++ held s.writer ++ bytesOf (delivery.accepted core).toList)
    (counted : later.stats = { s.stats with errors := s.stats.errors + later.failures }) :
    CutShort file stats (accepted core (past ++ [delivery])) (accepted core past) later where
  first := by
    rw [accepted_concat]
    exact List.prefix_append _ _
  last := by
    rw [accepted_concat, List.length_append]
    cases delivery.accepted core <;> simp
  wire := by
    rw [accepted_concat, bytesOf, List.flatMap_append, ← bytesOf, ← bytesOf, ← written.written]
    exact wire
  msgsOut := by rw [counted, written.counted]; rfl
  bytesOut := by rw [counted, written.counted]; rfl
  errors := by rw [counted, written.counted]; rfl

variable (name : String)

theorem Delivered.token (delivery : Delivery) (cancelled : Bool)
    (delivered : Delivered file held core stats (past ++ [{ delivery with cancelled }]) s) :
    Delivered file held core stats (past ++ [delivery]) s where
  running := delivered.running
  written := by
    rw [delivered.written, accepted_concat, accepted_concat]
    rfl
  counted := by
    rw [delivered.counted, account_concat, account_concat]
    rfl
  flushed := delivered.flushed

theorem step_token (delivery : Delivery) (goes : s.returned = none)
    (running : (s.step writer.toWriter core name delivery).returned = none) :
    s.step writer.toWriter core name delivery =
      s.step writer.toWriter core name { delivery with cancelled := false } := by
  cases batch : s.batch with
  | some left => simp [StreamState.step, goes, batch, StreamState.tryRecv]
  | none =>
    cases token : delivery.cancelled with
    | false => rw [← token]
    | true =>
      cases reception : delivery.reception <;>
        simp [StreamState.step, goes, batch, StreamState.recv, reception, token] at running ⊢

theorem Delivered.step_runs (buffers : CutBuffers writer file held) (delivered : Delivered file held core stats past s)
    (delivery : Delivery) (running : (s.step writer.toWriter core name delivery).returned = none) :
    Delivered file held core stats (past ++ [delivery]) (s.step writer.toWriter core name delivery) := by
  have kept : delivery.reception ≠ .closed := by
    intro closed
    cases batch : s.batch <;>
      simp [StreamState.step, delivered.running, batch, StreamState.recv, StreamState.tryRecv, closed] at running
  have same := step_token name delivery delivered.running running
  rw [same] at running ⊢
  have fine : (s.step writer.toWriter core name { delivery with cancelled := false }).Fine := by
    simp [StreamState.Fine, running]
  exact (delivered.step name buffers.toBuffers { delivery with cancelled := false } ⟨kept, rfl⟩ fine).token delivery

theorem Written.flush_ends (buffers : CutBuffers writer file held) (written : Written file held core stats past s)
    (returned : (s.flush writer.toWriter name).returned ≠ none) :
    CutShort file stats (accepted core past) (accepted core past) (s.flush writer.toWriter name) := by
  rw [StreamState.flush] at returned ⊢
  rcases done : writer.flush s.writer with ⟨e | _, later⟩
  · rw [done] at returned
    exact written.whole _ (buffers.cutFlush _ _ _ done) rfl
  · rw [done] at returned
    exact absurd written.running returned

theorem Written.nextTry_ends (buffers : CutBuffers writer file held) (written : Written file held core stats past s)
    (left : Nat) (returned : (s.nextTry writer.toWriter name left).returned ≠ none) :
    CutShort file stats (accepted core past) (accepted core past) (s.nextTry writer.toWriter name left) := by
  have goes : s.returned.isSome = false := by rw [written.running]; rfl
  rw [StreamState.nextTry, goes] at returned ⊢
  simp only [Bool.false_eq_true, if_false] at returned ⊢
  split_ifs at returned ⊢ with last
  · exact written.flush_ends name buffers returned
  · exact absurd written.running returned

theorem Written.write_ends (buffers : CutBuffers writer file held) (written : Written file held core stats past s)
    (delivery : Delivery) (msg : RoutedMessage) (accepted : delivery.accepted core = some msg)
    (returned : (s.write writer.toWriter name msg).returned ≠ none) :
    CutShort file stats (StreamLoop.accepted core (past ++ [delivery])) (StreamLoop.accepted core past)
      (s.write writer.toWriter name msg) := by
  rw [StreamState.write] at returned ⊢
  rcases done : writer.writeAll s.writer msg.serializedBytes with ⟨e | _, later⟩
  · rw [done] at returned
    refine written.torn delivery (s.fails name later e) ?_ rfl
    simpa [bytesOf, StreamState.fails, accepted] using buffers.cutWrite _ _ _ _ done
  · rw [done] at returned
    exact absurd written.running returned

theorem Written.intact (written : Written file held core stats past s) :
    CutShort file stats (accepted core past) (accepted core past) s := by
  apply written.whole
  · exact List.prefix_append _ _
  · simp [StreamState.failures, written.running]

theorem Written.stops (written : Written file held core stats past s) :
    CutShort file stats (accepted core past) (accepted core past) { s with returned := some (.ok ()) } := by
  apply written.whole
  · exact List.prefix_append _ _
  · simp [StreamState.failures]

theorem Written.absorb (buffers : CutBuffers writer file held) (written : Written file held core stats past s)
    (delivery : Delivery) (running : (s.absorb writer.toWriter core name delivery).returned = none) :
    Written file held core stats (past ++ [delivery]) (s.absorb writer.toWriter core name delivery) := by
  cases reception : delivery.reception with
  | empty =>
    simp only [StreamState.absorb, reception]
    exact written.skip delivery (by simp [Delivery.accepted, reception]) (by simp [Delivery.lag, reception])
  | closed =>
    simp only [StreamState.absorb, reception]
    exact written.skip delivery (by simp [Delivery.accepted, reception]) (by simp [Delivery.lag, reception])
  | lagged n =>
    simp only [StreamState.absorb, reception]
    exact written.lagged delivery n reception
  | message msg =>
    have lag : delivery.lag = 0 := by simp [Delivery.lag, reception]
    simp only [StreamState.absorb, reception] at running ⊢
    split_ifs at running ⊢ with passes
    · have fine : (s.write writer.toWriter name msg).Fine := by simp [StreamState.Fine, running]
      exact written.write name buffers.toBuffers delivery msg (by simp [Delivery.accepted, reception, passes]) lag fine
    · exact written.skip delivery (by simp [Delivery.accepted, reception, passes]) lag

theorem Written.absorb_ends (buffers : CutBuffers writer file held) (written : Written file held core stats past s)
    (delivery : Delivery) (returned : (s.absorb writer.toWriter core name delivery).returned ≠ none) :
    ∃ done, CutShort file stats (accepted core (past ++ [delivery])) done
      (s.absorb writer.toWriter core name delivery) := by
  cases reception : delivery.reception with
  | message msg =>
    simp only [StreamState.absorb, reception] at returned ⊢
    split_ifs at returned ⊢ with passes
    · have taken : delivery.accepted core = some msg := by simp [Delivery.accepted, reception, passes]
      exact ⟨_, written.write_ends name buffers delivery msg taken returned⟩
    · exact absurd written.running returned
  | _ => simp [StreamState.absorb, reception, StreamState.lagged, written.running] at returned

theorem tryRecv_absorb (left : Nat) (delivery : Delivery) (kept : delivery.reception ≠ .closed)
    (something : delivery.reception ≠ .empty) :
    s.tryRecv writer.toWriter core name left delivery =
      (s.absorb writer.toWriter core name delivery).nextTry writer.toWriter name left := by
  cases reception : delivery.reception with
  | closed => exact absurd reception kept
  | empty => exact absurd reception something
  | _ => simp only [StreamState.tryRecv, StreamState.absorb, reception]

theorem Written.recv_ends (buffers : CutBuffers writer file held) (written : Written file held core stats past s)
    (delivery : Delivery) (returned : (s.recv writer.toWriter core name delivery).returned ≠ none) :
    ∃ done, CutShort file stats (accepted core (past ++ [delivery])) done
      (s.recv writer.toWriter core name delivery) := by
  cases reception : delivery.reception with
  | empty => simp [StreamState.recv, reception, written.running] at returned
  | lagged n => simp [StreamState.recv, reception, StreamState.lagged, written.running] at returned
  | closed =>
    have skipped := written.skip delivery (by simp [Delivery.accepted, reception]) (by simp [Delivery.lag, reception])
    simp only [StreamState.recv, reception]
    exact ⟨_, skipped.stops⟩
  | message msg =>
    simp only [StreamState.recv, reception] at returned ⊢
    split_ifs at returned ⊢ with token refused
    · refine ⟨_, written.torn delivery _ ?_ ?_⟩
      · exact (List.prefix_append _ _).trans (List.prefix_append _ _)
      · simp [StreamState.failures]
    · exact absurd written.running returned
    · have taken : delivery.accepted core = some msg := by simpa [Delivery.accepted, reception] using refused
      obtain ⟨first, last, wire, msgsOut, bytesOut, errors⟩ :=
        written.write_ends name buffers delivery msg taken returned
      exact ⟨_, first, last, wire, msgsOut, bytesOut, errors⟩

theorem Written.tryRecv_ends (buffers : CutBuffers writer file held) (written : Written file held core stats past s)
    (left : Nat) (delivery : Delivery)
    (returned : (s.tryRecv writer.toWriter core name left delivery).returned ≠ none) :
    ∃ done, CutShort file stats (accepted core (past ++ [delivery])) done
      (s.tryRecv writer.toWriter core name left delivery) := by
  cases reception : delivery.reception with
  | empty =>
    have skipped := written.skip delivery (by simp [Delivery.accepted, reception]) (by simp [Delivery.lag, reception])
    simp only [StreamState.tryRecv, reception] at returned ⊢
    exact ⟨_, skipped.flush_ends name buffers returned⟩
  | closed =>
    have skipped := written.skip delivery (by simp [Delivery.accepted, reception]) (by simp [Delivery.lag, reception])
    simp only [StreamState.tryRecv, reception]
    exact ⟨_, skipped.stops⟩
  | _ =>
    rw [tryRecv_absorb name left delivery (by simp [reception]) (by simp [reception])] at returned ⊢
    cases absorbed : (s.absorb writer.toWriter core name delivery).returned with
    | none => exact ⟨_, (written.absorb name buffers delivery absorbed).nextTry_ends name buffers left returned⟩
    | some result =>
      rw [StreamState.nextTry, absorbed, Option.isSome_some, if_pos rfl]
      exact written.absorb_ends name buffers delivery (by simp [absorbed])

theorem Written.step_ends (buffers : CutBuffers writer file held) (written : Written file held core stats past s)
    (delivery : Delivery) (returned : (s.step writer.toWriter core name delivery).returned ≠ none) :
    ∃ done, CutShort file stats (accepted core (past ++ [delivery])) done
      (s.step writer.toWriter core name delivery) := by
  have goes : s.returned.isSome = false := by rw [written.running]; rfl
  rw [StreamState.step, goes] at returned ⊢
  simp only [Bool.false_eq_true, if_false] at returned ⊢
  cases batch : s.batch with
  | none =>
    rw [batch] at returned
    exact written.recv_ends name buffers delivery returned
  | some left =>
    rw [batch] at returned
    exact written.tryRecv_ends name buffers left delivery returned

theorem Written.drop (buffers : CutBuffers writer file held) (written : Written file held core stats past s)
    (underway : Underway) :
    ∃ done, CutShort file stats (accepted core (past ++ underway.delivery.toList)) done
      (s.drop writer core name underway) := by
  cases underway with
  | recv =>
    refine ⟨accepted core past, ?_⟩
    simpa [Underway.delivery, StreamState.drop] using written.intact
  | write delivery point =>
    refine ⟨accepted core past, written.torn delivery _ ?_ ?_⟩
    · exact buffers.cutDropped s.writer (bytesOf (delivery.accepted core).toList) point
    · simp [StreamState.drop, StreamState.failures, written.running]
  | flush delivery point =>
    simp only [Underway.delivery, Option.toList_some, StreamState.drop]
    cases absorbed : (s.absorb writer.toWriter core name delivery).returned with
    | none =>
      have grown := written.absorb name buffers delivery absorbed
      refine ⟨accepted core (past ++ [delivery]), ?_⟩
      simp only [Option.isSome_none, Bool.false_eq_true, if_false]
      apply grown.whole
      · simpa using buffers.cutDropped (s.absorb writer.toWriter core name delivery).writer [] point
      · simp [StreamState.failures]
    | some result =>
      simp only [Option.isSome_some, if_true]
      exact written.absorb_ends name buffers delivery (by simp [absorbed])

section Out

variable (buffers : CutBuffers writer file held)

include buffers

theorem write_out (msg : RoutedMessage) : file s.writer <+: file (s.write writer.toWriter name msg).writer := by
  have out := buffers.outWrite s.writer msg.serializedBytes
  rw [StreamState.write]
  rcases done : writer.writeAll s.writer msg.serializedBytes with ⟨_ | _, later⟩ <;> rwa [done] at out

theorem flush_out : file s.writer <+: file (s.flush writer.toWriter name).writer := by
  have out := buffers.outFlush s.writer
  rw [StreamState.flush]
  rcases done : writer.flush s.writer with ⟨_ | _, later⟩ <;> rwa [done] at out

theorem nextTry_out (left : Nat) : file s.writer <+: file (s.nextTry writer.toWriter name left).writer := by
  rw [StreamState.nextTry]
  split_ifs
  · exact List.prefix_rfl
  · exact flush_out name buffers
  · exact List.prefix_rfl

theorem absorb_out (delivery : Delivery) :
    file s.writer <+: file (s.absorb writer.toWriter core name delivery).writer := by
  rw [StreamState.absorb]
  split
  · split_ifs
    · exact write_out name buffers _
    · exact List.prefix_rfl
  all_goals exact List.prefix_rfl

theorem step_out (delivery : Delivery) : file s.writer <+: file (s.step writer.toWriter core name delivery).writer := by
  rw [StreamState.step]
  split_ifs
  · exact List.prefix_rfl
  · split
    · rw [StreamState.recv]
      split
      · exact List.prefix_rfl
      · exact List.prefix_rfl
      · exact List.prefix_rfl
      · split_ifs
        · exact List.prefix_rfl
        · exact List.prefix_rfl
        · exact write_out name buffers _
    · rw [StreamState.tryRecv]
      split
      · exact flush_out name buffers
      · exact nextTry_out (s := s.lagged _) name buffers _
      · exact List.prefix_rfl
      · refine List.IsPrefix.trans ?_ (nextTry_out name buffers _)
        split_ifs
        · exact write_out name buffers _
        · exact List.prefix_rfl

theorem drop_out (underway : Underway) : file s.writer <+: file (s.drop writer core name underway).writer := by
  cases underway with
  | recv => exact List.prefix_rfl
  | write delivery point => exact buffers.outDropped _ _ _
  | flush delivery point =>
    simp only [StreamState.drop]
    split_ifs
    · exact absorb_out name buffers delivery
    · exact (absorb_out name buffers delivery).trans (buffers.outDropped _ _ _)

end Out

theorem flush_batch (running : (s.flush writer.toWriter name).returned = none) :
    (s.flush writer.toWriter name).batch = none := by
  rw [StreamState.flush] at running ⊢
  rcases done : writer.flush s.writer with ⟨_ | _, later⟩
  · simp [done, StreamState.fails] at running
  · rfl

theorem nextTry_batch (left later : Nat) (running : (s.nextTry writer.toWriter name left).returned = none)
    (batch : (s.nextTry writer.toWriter name left).batch = some later) : left = later + 1 := by
  rw [StreamState.nextTry] at running batch
  split_ifs at running batch with ended last
  · simp [running] at ended
  · simp [flush_batch name running] at batch
  · simp only [Option.some.injEq] at batch
    omega

theorem step_batch (delivery : Delivery) (goes : s.returned = none) (left : Nat)
    (running : (s.step writer.toWriter core name delivery).returned = none)
    (batch : (s.step writer.toWriter core name delivery).batch = some left) :
    (s.batch = none ∧ left = batchSize - 1) ∨ s.batch = some (left + 1) := by
  rw [StreamState.step, goes] at running batch
  simp only [Option.isSome_none, Bool.false_eq_true, if_false] at running batch
  cases turn : s.batch with
  | none =>
    rw [turn] at batch
    left
    cases reception : delivery.reception with
    | message msg =>
      simp only [StreamState.recv, reception] at batch
      split_ifs at batch
      · simp [turn] at batch
      · simp [turn] at batch
      · exact ⟨rfl, (Option.some.inj batch).symm⟩
    | _ => simp [StreamState.recv, reception, StreamState.lagged, turn] at batch
  | some before =>
    rw [turn] at running batch
    right
    cases reception : delivery.reception with
    | empty =>
      simp only [StreamState.tryRecv, reception] at running batch
      simp [flush_batch name running] at batch
    | closed => simp [StreamState.tryRecv, reception] at running
    | lagged n =>
      simp only [StreamState.tryRecv, reception] at running batch
      rw [nextTry_batch name before left running batch]
    | message msg =>
      simp only [StreamState.tryRecv, reception] at running batch
      rw [nextTry_batch name before left running batch]

theorem Batched.step (buffers : CutBuffers writer file held) {older newer : List RoutedMessage}
    (batched : Batched file s older newer) (split : accepted core past = older ++ newer) (goes : s.returned = none)
    (delivery : Delivery)
    (delivered : Delivered file held core stats (past ++ [delivery]) (s.step writer.toWriter core name delivery)) :
    ∃ older newer, accepted core (past ++ [delivery]) = older ++ newer ∧
      Batched file (s.step writer.toWriter core name delivery) older newer := by
  cases batch : (s.step writer.toWriter core name delivery).batch with
  | none =>
    refine ⟨accepted core (past ++ [delivery]), [], (List.append_nil _).symm, ?_, by simp [batch], fun _ => rfl⟩
    rw [← delivered.written, delivered.flushed batch, List.append_nil]
  | some left =>
    refine ⟨older, newer ++ (delivery.accepted core).toList, ?_, ?_, ?_, by simp [batch]⟩
    · rw [accepted_concat, split, List.append_assoc]
    · exact batched.out.trans (step_out name buffers delivery)
    · rintro left' same
      cases batch.symm.trans same
      have one : (delivery.accepted core).toList.length ≤ 1 := by cases delivery.accepted core <;> simp
      rw [List.length_append]
      rcases step_batch name delivery goes left delivered.running batch with ⟨awaited, rfl⟩ | before
      · rw [batched.awaited awaited, List.length_nil, batchSize]
        omega
      · have room := batched.room _ before
        omega

theorem Batched.few {older newer : List RoutedMessage} (batched : Batched file s older newer) :
    newer.length ≤ batchSize := by
  cases batch : s.batch with
  | none => simp [batched.awaited batch]
  | some left => exact Nat.le_of_add_right_le (batched.room left batch)

theorem Batched.behind {older newer : List RoutedMessage} (batched : Batched file s older newer)
    (split : accepted core past = older ++ newer) (more : Option Delivery) (later : W)
    (out : file s.writer <+: file later) :
    Behind file (accepted core (past ++ more.toList)) (batchSize + 1) later := by
  have few := batched.few
  refine ⟨older, newer ++ accepted core more.toList, ?_, batched.out.trans out, ?_⟩
  · rw [accepted, List.filterMap_append, ← accepted, split, List.append_assoc]
    rfl
  · have one : (accepted core more.toList).length ≤ 1 :=
      (List.length_filterMap_le _ _).trans (by cases more <;> simp)
    rw [List.length_append]
    omega

end Cut

structure SessionKeeps (readers : Readers M) (file held : W → List UInt8) (core : EndpointCore) (stats : EndpointStats)
    (events : List SessionEvent) (s : StreamSession M W) : Prop where
  heard : s.reader = readerLoop readers (reads events)
  sent : ∃ done, CutShort file stats (accepted core (deliveries events)) done s.writing
  behind : Behind file (accepted core (deliveries events)) (batchSize + 1) s.writing.writer
  running : s.returned = none → Delivered file held core stats (deliveries events) s.writing ∧
    ∃ older newer, accepted core (deliveries events) = older ++ newer ∧ Batched file s.writing older newer

section Session

variable {readers : Readers M} {writer : CutWriter W} {file held : W → List UInt8} {core : EndpointCore}
  {stats : EndpointStats} {events : List SessionEvent} {s : StreamSession M W} (name : String)

theorem deliveries_concat (events : List SessionEvent) (event : SessionEvent) :
    deliveries (events ++ [event]) = deliveries events ++ event.delivery.toList := by
  rw [deliveries, List.filterMap_append]
  cases taken : event.delivery <;> simp [deliveries, taken]

theorem reads_concat (events : List SessionEvent) (event : SessionEvent) :
    reads (events ++ [event]) = reads events ++ event.chunk.toList := by
  rw [reads, List.filterMap_append]
  cases taken : event.chunk <;> simp [reads, taken]

def Lived (readers : Readers M) (writer : CutWriter W) (core : EndpointCore) (name : String) (created : W)
    (stats : EndpointStats) (events : List SessionEvent) : Prop :=
  ∀ before event after, events = before ++ event :: after →
    (StreamSession.run readers writer core name created stats before).returned = none

theorem lived_of_running (created : W) (events : List SessionEvent)
    (running : (StreamSession.run readers writer core name created stats events).returned = none) :
    Lived readers writer core name created stats events := by
  rintro before event after rfl
  by_contra ended
  have stays (after : List SessionEvent) (s : StreamSession M W) (ended : s.returned ≠ none) :
      (after.foldl (StreamSession.step readers writer core name) s).returned ≠ none := by
    induction after generalizing s with
    | nil => exact ended
    | cons event rest ih =>
      have same : s.step readers writer core name event = s := by
        simp [StreamSession.step, Option.isSome_iff_ne_none.mpr ended]
      rw [List.foldl_cons, same]
      exact ih s ended
  rw [StreamSession.run, List.foldl_append] at running
  exact stays _ _ ended running

variable (keeps : SessionKeeps readers file held core stats events s) (running : s.returned = none)

include keeps running

theorem SessionKeeps.read (chunk : List UInt8) :
    SessionKeeps readers file held core stats (events ++ [.read chunk])
      (s.step readers writer core name (.read chunk)) := by
  have step : s.step readers writer core name (.read chunk) =
      { s with reader := readChunk readers s.reader chunk } := by
    simp [StreamSession.step, running]
  have silent : deliveries (events ++ [.read chunk]) = deliveries events := by
    simp [deliveries_concat, SessionEvent.delivery]
  rw [step]
  refine ⟨?_, silent ▸ keeps.sent, silent ▸ keeps.behind, silent ▸ keeps.running⟩
  simp [reads_concat, SessionEvent.chunk, keeps.heard, readerLoop]

variable (buffers : CutBuffers writer file held)

include buffers

theorem SessionKeeps.deliver (delivery : Delivery) :
    SessionKeeps readers file held core stats (events ++ [.deliver delivery])
      (s.step readers writer core name (.deliver delivery)) := by
  obtain ⟨delivered, older, newer, split, batched⟩ := keeps.running running
  have step : s.step readers writer core name (.deliver delivery) =
      { s with
        writing := s.writing.step writer.toWriter core name delivery
        returned := (s.writing.step writer.toWriter core name delivery).returned } := by
    simp [StreamSession.step, running]
  have grown : deliveries (events ++ [.deliver delivery]) = deliveries events ++ [delivery] := by
    simp [deliveries_concat, SessionEvent.delivery]
  have silent : reads (events ++ [.deliver delivery]) = reads events := by simp [reads_concat, SessionEvent.chunk]
  rw [step]
  refine ⟨silent ▸ keeps.heard, ?_, ?_, ?_⟩
  · rw [grown]
    cases returned : (s.writing.step writer.toWriter core name delivery).returned with
    | none => exact ⟨_, (delivered.step_runs name buffers delivery returned).toWritten.intact⟩
    | some result => exact delivered.toWritten.step_ends name buffers delivery (by simp [returned])
  · rw [grown]
    exact batched.behind split (some delivery) _ (step_out name buffers delivery)
  · intro still
    rw [grown]
    have later := delivered.step_runs name buffers delivery still
    exact ⟨later, batched.step name buffers split delivered.running delivery later⟩

theorem SessionKeeps.ends (cause : StreamEnd) (underway : Underway) :
    SessionKeeps readers file held core stats (events ++ [.ends cause underway])
      (s.step readers writer core name (.ends cause underway)) := by
  obtain ⟨delivered, older, newer, split, batched⟩ := keeps.running running
  have step : s.step readers writer core name (.ends cause underway) =
      { s with
        writing := s.writing.drop writer core name underway
        returned := (s.writing.drop writer core name underway).returned <|> some (cause.result name) } := by
    simp [StreamSession.step, running]
  have grown : deliveries (events ++ [.ends cause underway]) = deliveries events ++ underway.delivery.toList := by
    rw [deliveries_concat, SessionEvent.delivery]
  have silent : reads (events ++ [.ends cause underway]) = reads events := by simp [reads_concat, SessionEvent.chunk]
  rw [step]
  refine ⟨silent ▸ keeps.heard, ?_, ?_, ?_⟩
  · rw [grown]
    exact delivered.toWritten.drop name buffers underway
  · rw [grown]
    exact batched.behind split underway.delivery _ (drop_out name buffers underway)
  · intro still
    cases returned : (s.writing.drop writer core name underway).returned <;> simp [returned] at still

omit keeps running in
theorem run_keeps_session (created : W) (fresh : file created = [] ∧ held created = []) (events : List SessionEvent)
    (lived : Lived readers writer core name created stats events) :
    SessionKeeps readers file held core stats events
      (StreamSession.run readers writer core name created stats events) := by
  revert lived
  apply run_history (StreamSession.step readers writer core name) (.start created stats)
    (fun events s => Lived readers writer core name created stats events →
      SessionKeeps readers file held core stats events s)
  · intro _
    have written : Written file held core stats [] (StreamSession.start (M := M) created stats).writing :=
      ⟨rfl, by simp [StreamSession.start, fresh, accepted, bytesOf],
        by simp [StreamSession.start, account, accepted, bytesOf]⟩
    refine ⟨rfl, ⟨_, written.intact⟩, ⟨[], [], rfl, List.nil_prefix, Nat.zero_le _⟩, fun _ => ?_⟩
    exact ⟨⟨written, fun _ => fresh.2⟩, [], [], rfl, List.nil_prefix, by simp [StreamSession.start], fun _ => rfl⟩
  · intro events event ih lived
    have keeps := ih fun before event' after split =>
      lived before event' (after ++ [event]) (by simp [split])
    have running := lived events event [] rfl
    cases event with
    | read chunk => exact keeps.read name running chunk
    | deliver delivery => exact keeps.deliver name running buffers delivery
    | ends cause underway => exact keeps.ends name running buffers cause underway

end Session

end MavRouter.Endpoints.StreamLoop
