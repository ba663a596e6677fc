import MavRouter.Network.System

set_option autoImplicit false

namespace MavRouter.Network

open Framing Ingress Routing Runs

variable {M : Type} [Message M] {ahash : List UInt8 → UInt64} {system later : System}

def receptions (link : Link) : List (Broadcast.Reception RoutedMessage) := link.taken.map Taken.reception

theorem Moves.link {op : Step M} (moves : Moves ahash system later op) (i : Nat) (link : Link)
    (found : later.links[i]? = some link) :
    (link.since = system.sent.length ∧ link.next = system.sent.length ∧ link.taken = []) ∨
    (∃ earlier, system.links[i]? = some earlier ∧ link.core = earlier.core ∧ link.since = earlier.since ∧
      link.next = earlier.next ∧ link.taken = earlier.taken) ∨
    ∃ cancelled earlier, op = .recvNextBusMsg i cancelled ∧ system.link i = some earlier ∧
      link = earlier.recv system.channel system.capacity system.router cancelled := by
  cases moves with
  | connect core same links =>
    rw [links, List.getElem?_append] at found
    split_ifs at found with old
    · exact .inr (.inl ⟨link, found, rfl, rfl, rfl, rfl⟩)
    · obtain ⟨_, rfl⟩ := List.mem_singleton.mp (List.mem_of_getElem? found)
      exact .inl ⟨rfl, rfl, rfl⟩
  | disconnect j closed other same links =>
    rw [links, List.getElem?_set] at found
    split_ifs at found with same
    · cases found
      exact .inr (.inl ⟨closed, same ▸ other, rfl, rfl, rfl, rfl⟩)
    · exact .inr (.inl ⟨link, found, rfl, rfl, rfl, rfl⟩)
  | published j frame now timestampUs source _ _ _ links =>
    rw [links] at found
    exact .inr (.inl ⟨link, found, rfl, rfl, rfl, rfl⟩)
  | received j cancelled earlier opened same links =>
    rw [links, List.getElem?_set] at found
    split_ifs at found with same
    · cases found
      exact .inr (.inr ⟨cancelled, earlier, by rw [same], same ▸ opened, rfl⟩)
    · exact .inr (.inl ⟨link, found, rfl, rfl, rfl, rfl⟩)
  | other _ same links =>
    rw [links] at found
    exact .inr (.inl ⟨link, found, rfl, rfl, rfl, rfl⟩)

theorem Moves.sent {op : Step M} (moves : Moves ahash system later op) :
    ∃ more, later.sent = system.sent ++ more ∧ (more = [] ∨
      ∃ i frame now timestampUs link, op = .incoming i frame now timestampUs ∧ system.link i = some link ∧
        Publishes ahash system.router link.core frame now timestampUs ∧
        more = [link.core.routed frame timestampUs]) := by
  cases moves with
  | published i frame now timestampUs link found publishes sent links =>
    exact ⟨_, sent, .inr ⟨i, frame, now, timestampUs, link, rfl, found, publishes, rfl⟩⟩
  | connect core same links => exact ⟨[], by simpa using same, .inl rfl⟩
  | disconnect i link found same links => exact ⟨[], by simpa using same, .inl rfl⟩
  | received i cancelled link found same links => exact ⟨[], by simpa using same, .inl rfl⟩
  | other _ same links => exact ⟨[], by simpa using same, .inl rfl⟩

theorem step_channel (ahash : List UInt8 → UInt64) (system : System) (op : Step M) :
    (system.step ahash op).channel = system.channel ∧ (system.step ahash op).capacity = system.capacity := by
  cases op with
  | disconnect i => simp only [System.step, System.disconnect]; split <;> exact ⟨rfl, rfl⟩
  | incoming i frame now timestampUs => simp only [System.step, System.incoming]; split <;> exact ⟨rfl, rfl⟩
  | recvNextBusMsg i cancelled => simp only [System.step, System.recvNextBusMsg]; split <;> exact ⟨rfl, rfl⟩
  | _ => exact ⟨rfl, rfl⟩

theorem run_channel (ahash : List UInt8 → UInt64) (system : System) (steps : List (Step M)) :
    (system.run ahash steps).channel = system.channel ∧ (system.run ahash steps).capacity = system.capacity := by
  induction steps generalizing system with
  | nil => exact ⟨rfl, rfl⟩
  | cons op rest ih =>
    obtain ⟨channel, capacity⟩ := step_channel ahash system op
    obtain ⟨channel', capacity'⟩ := ih (system.step ahash op)
    exact ⟨channel'.trans channel, capacity'.trans capacity⟩

def connected : Step M → Option EndpointCore
  | .connect core => some core
  | _ => none

theorem cores_set (links : List Link) (i : Nat) (link later : Link) (found : links[i]? = some link)
    (same : later.core = link.core) : (links.set i later).map Link.core = links.map Link.core := by
  apply List.ext_getElem?
  intro j
  rw [List.getElem?_map, List.getElem?_map, List.getElem?_set]
  split_ifs with here inside
  · rw [← here, found, Option.map_some, Option.map_some, same]
  · rw [← here, List.getElem?_eq_none (Nat.le_of_not_lt inside)]
  · rfl

theorem step_connected (ahash : List UInt8 → UInt64) (system : System) (op : Step M) :
    (system.step ahash op).links.map Link.core = system.links.map Link.core ++ (connected op).toList := by
  cases op with
  | connect core => simp [System.step, System.connect, connected]
  | disconnect i =>
    simp only [System.step, System.disconnect, connected, Option.toList_none, List.append_nil]
    cases found : system.link i with
    | none => rfl
    | some link => exact cores_set _ i link _ (link_some found).1 rfl
  | incoming i frame now timestampUs =>
    simp only [System.step, System.incoming, connected, Option.toList_none, List.append_nil]
    cases system.link i <;> rfl
  | recvNextBusMsg i cancelled =>
    simp only [System.step, System.recvNextBusMsg, connected, Option.toList_none, List.append_nil]
    cases found : system.link i with
    | none => rfl
    | some link => exact cores_set _ i link _ (link_some found).1 rfl
  | _ => simp [System.step, connected]

theorem run_connected (ahash : List UInt8 → UInt64) (idle : system.links = []) (steps : List (Step M)) :
    (system.run ahash steps).links.map Link.core = steps.filterMap connected := by
  apply run_history (System.step ahash) system
    (fun steps reached => reached.links.map Link.core = steps.filterMap connected)
  · rw [idle]
    rfl
  · intro steps op ih
    rw [step_connected, ih, List.filterMap_append]
    cases connects : connected op <;> simp [connects]

theorem sum_set (measure : Link → Nat) (links : List Link) (i : Nat) (old new : Link) (found : links[i]? = some old) :
    ((links.set i new).map measure).sum + measure old = (links.map measure).sum + measure new := by
  induction links generalizing i with
  | nil => simp at found
  | cons first rest ih =>
    cases i with
    | zero =>
      simp only [List.getElem?_cons_zero, Option.some.injEq] at found
      simp only [List.set_cons_zero, List.map_cons, List.sum_cons, found]
      omega
    | succ i =>
      simp only [List.getElem?_cons_succ] at found
      have later := ih i found
      simp only [List.set_cons_succ, List.map_cons, List.sum_cons]
      omega

theorem step_keeps (ahash : List UInt8 → UInt64) (system : System) (op : Step M) (i : Nat) (earlier : Link)
    (found : system.links[i]? = some earlier) :
    ∃ link, (system.step ahash op).links[i]? = some link ∧ link.core = earlier.core ∧ link.since = earlier.since := by
  obtain ⟨inside, _⟩ := List.getElem?_eq_some_iff.mp found
  cases step_moves ahash system op with
  | connect core same links =>
    rw [links, List.getElem?_append_left inside]
    exact ⟨earlier, found, rfl, rfl⟩
  | disconnect j closed was same links =>
    by_cases here : j = i
    · subst here
      cases found.symm.trans was
      rw [links, List.getElem?_set_self inside]
      exact ⟨_, rfl, rfl, rfl⟩
    · exact ⟨earlier, by rw [links, List.getElem?_set_ne here, found], rfl, rfl⟩
  | published j frame now timestampUs source _ _ _ links =>
    rw [links]
    exact ⟨earlier, found, rfl, rfl⟩
  | received j cancelled link was same links =>
    by_cases here : j = i
    · subst here
      cases found.symm.trans (link_some was).1
      rw [links, List.getElem?_set_self inside]
      exact ⟨_, rfl, rfl, rfl⟩
    · exact ⟨earlier, by rw [links, List.getElem?_set_ne here, found], rfl, rfl⟩
  | other _ same links =>
    rw [links]
    exact ⟨earlier, found, rfl, rfl⟩

theorem run_keeps (ahash : List UInt8 → UInt64) (system : System) (steps : List (Step M)) (i : Nat) (earlier : Link)
    (found : system.links[i]? = some earlier) :
    ∃ link, (system.run ahash steps).links[i]? = some link ∧ link.core = earlier.core ∧ link.since = earlier.since := by
  induction steps generalizing system earlier with
  | nil => exact ⟨earlier, found, rfl, rfl⟩
  | cons op rest ih =>
    obtain ⟨next, found', core, since⟩ := step_keeps ahash system op i earlier found
    obtain ⟨link, reached, core', since'⟩ := ih (system.step ahash op) next found'
    exact ⟨link, reached, core'.trans core, since'.trans since⟩

def Sound (system : System) : Prop :=
  ∀ link ∈ system.links, Broadcast.Stands system.sent link.since link.next (receptions link)

theorem Sound.step (sound : Sound system) (op : Step M) : Sound (system.step ahash op) := by
  intro link member
  obtain ⟨i, found⟩ := List.mem_iff_getElem?.mp member
  have moves := step_moves ahash system op
  obtain ⟨more, sent, _⟩ := moves.sent
  rcases moves.link i link found with ⟨since, next, taken⟩ | ⟨earlier, was, _, since, next, taken⟩ | received
  · rw [since, next, receptions, taken, sent]
    exact (Broadcast.subscribe_stands system.sent).send more
  · rw [since, next, receptions, taken, sent]
    exact (sound earlier (List.mem_of_getElem? was)).send more
  · obtain ⟨cancelled, earlier, _, was, rfl⟩ := received
    have stands := (sound earlier (List.mem_of_getElem? (link_some was).1)).recv system.channel
      system.capacity
    rw [sent]
    simpa [Link.recv, receptions, System.sent] using stands.send more

theorem run_sound (ahash : List UInt8 → UInt64) (sound : Sound system) (steps : List (Step M)) :
    Sound (system.run ahash steps) := by
  induction steps generalizing system with
  | nil => exact sound
  | cons op rest ih => exact ih (sound.step op)

def PublishedBy (ahash : List UInt8 → UInt64) (system : System) (steps : List (Step M)) (place : Nat)
    (msg : RoutedMessage) : Prop :=
  ∃ before i frame now timestampUs after link, steps = before ++ .incoming i frame now timestampUs :: after ∧
    (system.run ahash before).link i = some link ∧
    Publishes ahash (system.run ahash before).router link.core frame now timestampUs ∧
    (system.run ahash before).sent.length = place ∧ msg = link.core.routed frame timestampUs

theorem run_published (quiet : system.sent = []) (steps : List (Step M)) (place : Nat) (msg : RoutedMessage)
    (found : (system.run ahash steps).sent[place]? = some msg) : PublishedBy ahash system steps place msg := by
  revert found
  apply run_history (System.step ahash) system
    (fun steps reached => reached.sent[place]? = some msg → PublishedBy ahash system steps place msg)
  · simp [quiet]
  · intro steps op ih found
    obtain ⟨more, sent, grown⟩ := (step_moves ahash (steps.foldl (System.step ahash) system) op).sent
    rw [sent, List.getElem?_append] at found
    split_ifs at found with old
    · obtain ⟨before, i, frame, now, timestampUs, after, link, rfl, rest⟩ := ih found
      exact ⟨before, i, frame, now, timestampUs, after ++ [op], link, by simp, rest⟩
    · rcases grown with rfl | ⟨i, frame, now, timestampUs, link, rfl, opened, publishes, rfl⟩
      · simp at found
      · obtain ⟨here, rfl⟩ := List.getElem?_eq_some_iff.mp found
        simp only [List.length_singleton] at here
        exact ⟨steps, i, frame, now, timestampUs, [], link, rfl, opened, publishes, by simp only [System.run]; omega,
          by simp⟩

def ReceivedBy (ahash : List UInt8 → UInt64) (system : System) (steps : List (Step M)) (i : Nat) (link : Link)
    (past : List Taken) (taken : Taken) : Prop :=
  ∃ before cancelled after earlier, steps = before ++ .recvNextBusMsg i cancelled :: after ∧
    (system.run ahash before).link i = some earlier ∧ earlier.core = link.core ∧ earlier.since = link.since ∧
    earlier.taken = past ∧
    taken = ⟨(system.channel.recv system.capacity (system.run ahash before).sent earlier.next).1,
      (system.run ahash before).router.routingTable, cancelled⟩

theorem run_received (idle : system.links = []) (steps : List (Step M)) (i : Nat) (link : Link)
    (found : (system.run ahash steps).links[i]? = some link) (past future : List Taken) (taken : Taken)
    (split : link.taken = past ++ taken :: future) : ReceivedBy ahash system steps i link past taken := by
  revert link future
  apply run_history (System.step ahash) system
    (fun steps reached => ∀ link, reached.links[i]? = some link → ∀ future, link.taken = past ++ taken :: future →
      ReceivedBy ahash system steps i link past taken)
  · simp [idle]
  · intro steps op ih link found future split
    have longer (earlier : Link) (core : link.core = earlier.core) (since : link.since = earlier.since)
        (received : ReceivedBy ahash system steps i earlier past taken) :
        ReceivedBy ahash system (steps ++ [op]) i link past taken := by
      obtain ⟨before, cancelled, after, then', rfl, rest⟩ := received
      exact ⟨before, cancelled, after ++ [op], then', by simp, by rwa [core, since]⟩
    rcases (step_moves ahash _ op).link i link found with ⟨_, _, empty⟩ | ⟨earlier, was, core, since, _, same⟩ |
      received
    · simp [empty] at split
    · exact longer earlier core since (ih earlier was future (same ▸ split))
    · obtain ⟨cancelled, earlier, rfl, was, rfl⟩ := received
      cases (concat_split ..).mp split with
      | inl last =>
        obtain ⟨rfl, same, here⟩ := last
        refine ⟨steps, cancelled, [], earlier, rfl, was, rfl, rfl, same, ?_⟩
        obtain ⟨channel, capacity⟩ := run_channel ahash system steps
        rw [← here, ← channel, ← capacity]
        rfl
      | inr older =>
        obtain ⟨front, _, within⟩ := older
        exact longer earlier rfl rfl (ih earlier (link_some was).1 front within)

end MavRouter.Network
