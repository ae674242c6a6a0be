import ArenaPaths.Proofs.Delegation
import ArenaPaths.Proofs.Failing
import ArenaPaths.Proofs.Polling

/-!
# Transactions over registers

What a delegated query does to the registers of a device that cannot be trusted: it
answers every read with any word at all, whatever was done before, and once the data
register has been used it may do anything to the shared bytes. The query still uses the
data register in one order only, for three words of request and two of response. It
stops short of that exactly if a wait runs out, and what it returns is told by the words
of the response. The graph that it starts from is one that a program can hold: devices
that were asked before have kept to the bytes of searches, this one need not.

Main statement: `Query.run_is_transaction`.
-/

namespace ArenaPaths

open ArenaPaths.Action

/-! ## Devices -/

/-- An access to a register, and the shared bytes as they were before it. -/
structure Access where
  offset : Nat
  transfer : Transfer
  memory : Memory

/-- Accesses to the data register, the earliest first, given all accesses with the
latest first. -/
def dataAccesses (history : List Access) : List Access :=
  (history.filter (·.offset = Register.data)).reverse

theorem dataAccesses_data (transfer : Transfer) (memory : Memory)
    (history : List Access) :
    dataAccesses (⟨Register.data, transfer, memory⟩ :: history)
      = dataAccesses history ++ [⟨Register.data, transfer, memory⟩] :=
  List.reverse_cons

/-- Any device behind registers. It goes by all accesses so far, of which the latest is
given first. -/
structure Peripheral where
  /-- The word that a read at an offset gives. -/
  answer : List Access → Memory → Nat → UInt32
  /-- The shared bytes as the device leaves them after the latest access. -/
  work : List Access → Memory → Memory
  /-- The device does not touch the bytes of a request that has not begun. -/
  waits : ∀ history memory, (∀ access ∈ history, access.offset ≠ Register.data) →
    work history memory = memory

namespace Peripheral

/-- The accesses and the shared bytes after one more access. -/
def accessed (device : Peripheral) (offset : Nat) (transfer : Transfer)
    (state : List Access × Memory) :
    List Access × Memory :=
  let history := ⟨offset, transfer, state.2⟩ :: state.1
  (history, device.work history state.2)

/-- The registers of a device; the state behind them is what has been done to them. -/
def bank (device : Peripheral) : RegisterBank (List Access × Memory) where
  read offset := do
    let state ← get
    let word := device.answer state.1 state.2 offset
    set (device.accessed offset (.read word) state)
    return word
  write offset word := modify (device.accessed offset (.write word))

/-- A device that is busy at every other look, wipes the shared bytes once it is spoken
to, and finds no way in seven cycles. -/
def wiping : Peripheral where
  answer history _ offset :=
    if offset = Register.status then if history.length % 2 = 0 then 3 else 0
    else if (dataAccesses history).length = 3 then unreached
    else 7
  work history memory := if (dataAccesses history).isEmpty then memory else .zeros
  waits history memory unused := by
    have silent : dataAccesses history = [] := by
      rw [dataAccesses, List.filter_eq_nil_iff.2 fun access member => by
        simpa using unused access member]
      rfl
    rw [silent]
    rfl

end Peripheral

/-- A wait that has run out is a timeout, unless there was no end to it. -/
theorem Polling.exhausted_cases (polling : Polling) (operation : String) :
    polling.exhausted operation = .timeout operation polling.reads ∨
      polling.exhausted operation = .abort .addOverflow := by
  rw [exhausted]
  split
  · exact .inl rfl
  · exact .inr rfl

/-! ## How far a transaction has come -/

/-- The data register has been used for the given transfers, and up to then the shared
bytes were the given ones. -/
structure Spoken (memory : Memory) (transfers : List Transfer)
    (state : List Access × Memory) : Prop where
  transfers_eq : (dataAccesses state.1).map Access.transfer = transfers
  memory_eq : ∀ access ∈ (dataAccesses state.1).head?, access.memory = memory
  untouched : transfers = [] → state.2 = memory

namespace Spoken

variable {device : Peripheral} {guard : Guard} {polling : Polling} {memory : Memory}
  {transfers : List Transfer} {state : List Access × Memory}

theorem fresh (memory : Memory) : Spoken memory [] ([], memory) where
  transfers_eq := rfl
  memory_eq _ member := by cases member
  untouched _ := rfl

/-- Looking at the status does not take a transaction any further. -/
theorem status (spoken : Spoken memory transfers state) (transfer : Transfer) :
    Spoken memory transfers (device.accessed Register.status transfer state) where
  transfers_eq := spoken.transfers_eq
  memory_eq := spoken.memory_eq
  untouched unused := by
    -- As long as the data register is unused the device waits.
    refine (device.waits _ _ ?_).trans (spoken.untouched unused)
    intro access member isData
    rcases List.mem_cons.1 member with rfl | earlier
    · cases isData
    · have counted : access ∈ dataAccesses state.1 := by
        simpa [dataAccesses, isData] using earlier
      have silent : dataAccesses state.1 = [] :=
        List.map_eq_nil_iff.1 (spoken.transfers_eq.trans unused)
      rw [silent] at counted
      cases counted

/-- A transfer through the data register is one more of the transaction. -/
theorem data (spoken : Spoken memory transfers state) (transfer : Transfer) :
    Spoken memory (transfers ++ [transfer])
      (device.accessed Register.data transfer state) := by
  have more : dataAccesses (device.accessed Register.data transfer state).1
      = dataAccesses state.1 ++ [⟨Register.data, transfer, state.2⟩] :=
        dataAccesses_data _ _ _
  constructor
  case transfers_eq =>
    rw [more, List.map_append, spoken.transfers_eq, List.map_singleton]
  case memory_eq =>
    intro access member
    rw [more] at member
    cases earlier : dataAccesses state.1 with
    | nil =>
      rw [earlier] at member
      cases member
      exact spoken.untouched (by rw [← spoken.transfers_eq, earlier, List.map_nil])
    | cons first rest =>
      rw [earlier] at member
      exact spoken.memory_eq access (by rw [earlier]; exact member)
  case untouched =>
    intro none
    cases List.append_eq_nil_iff.1 none |>.2

/-- Polling takes a transaction no further. -/
theorem poll (spoken : Spoken memory transfers state) (polling : Polling)
    (mask : UInt32) (operation : String) (polls remaining : Nat) :
    ∃ next, Spoken memory transfers next ∧
      (device.bank.poll polling mask operation polls remaining state = .ok () next ∨
        device.bank.poll polling mask operation polls remaining state
          = .error (polling.exhausted operation) next) := by
  have looks : ∀ (_ : List UInt32) (state : List Access × Memory),
      Spoken memory transfers state → ∃ word next,
      device.bank.read Register.status state = .ok word next ∧
      Spoken memory transfers next :=
    fun _ _ spoken => ⟨_, _, rfl, spoken.status _⟩
  rcases RegisterBank.poll_cases looks polling mask operation polls remaining
    [] spoken with
    ⟨_, _, next, polled, spokenNext, _⟩ | ⟨_, next, polled, spokenNext, _⟩
  · exact ⟨next, spokenNext, .inl polled⟩
  · exact ⟨next, spokenNext, .inr polled⟩

/-- Waiting takes a transaction no further, and is not done at all without a guard. -/
theorem await (spoken : Spoken memory transfers state) (guard : Guard)
    (polling : Polling) (mask : UInt32) (operation : String) :
    ∃ next, Spoken memory transfers next ∧
      (device.bank.await guard polling mask operation state = .ok () next ∨
        device.bank.await guard polling mask operation state
          = .error (polling.exhausted operation) next) := by
  cases guard with
  | guarded => exact spoken.poll _ _ _ _ _
  | unguarded => exact ⟨state, spoken, .inl rfl⟩

/-- The wait for room runs out, or a word is sent. -/
theorem send (spoken : Spoken memory transfers state) (guard : Guard)
    (polling : Polling) (word : UInt32) :
    (∃ operation next, device.bank.send guard polling word state
      = .error (polling.exhausted operation) next ∧
        Spoken memory transfers next) ∨
      ∃ next, device.bank.send guard polling word state = .ok () next ∧
        Spoken memory (transfers ++ [.write word]) next := by
  obtain ⟨next, spokenNext, waited | exhausted⟩ :=
    spoken.await guard polling Register.inputFull "write_word"
  · exact .inr ⟨_, Action.bind_ok waited, spokenNext.data _⟩
  · exact .inl ⟨_, next, Action.bind_error exhausted, spokenNext⟩

/-- The wait for a word runs out, or it is received. -/
theorem receive (spoken : Spoken memory transfers state) (guard : Guard)
    (polling : Polling) :
    (∃ operation next, device.bank.receive guard polling state
      = .error (polling.exhausted operation) next ∧
        Spoken memory transfers next) ∨
      ∃ word next, device.bank.receive guard polling state = .ok word next ∧
        Spoken memory (transfers ++ [.read word]) next := by
  obtain ⟨next, spokenNext, waited | exhausted⟩ :=
    spoken.await guard polling Register.outputEmpty "read_word"
  · exact .inr ⟨_, _, Action.bind_ok waited, spokenNext.data _⟩
  · exact .inl ⟨_, next, Action.bind_error exhausted, spokenNext⟩

end Spoken

/-- The transfers of a whole transaction. -/
def transaction (base start goal first second : UInt32) : List Transfer :=
  [.write base, .write start, .write goal, .read first, .read second]

/-- A wait runs out before the end, or a request and its response are exchanged in
order. -/
theorem Spoken.exchange {device : Peripheral} {memory : Memory}
    {state : List Access × Memory} (spoken : Spoken memory [] state) (guard : Guard)
    (polling : Polling) (base start goal : UInt32) :
    ∃ first second,
      (∃ operation said next,
        (device.bank.channel guard polling).exchange base start goal state
          = .error (polling.exhausted operation) next ∧
        Spoken memory said next ∧ said <+: transaction base start goal first second ∧
        said.length < 5) ∨
      ∃ next, (device.bank.channel guard polling).exchange base start goal state
        = .ok (first, second) next ∧
        Spoken memory (transaction base start goal first second) next := by
  simp only [Channel.exchange, RegisterBank.channel]
  -- Five waits, each of which can be the last; the words not yet received do not matter
  -- then.
  rcases spoken.send guard polling base with
    ⟨operation, next, failed, spoken⟩ | ⟨_, sent, spoken⟩
  · exact ⟨0, 0,
      .inl ⟨operation, _, next, Action.bind_error failed, spoken, ⟨_, rfl⟩, by simp⟩⟩
  rw [Action.bind_ok sent]
  rcases spoken.send guard polling start with
    ⟨operation, next, failed, spoken⟩ | ⟨_, sent, spoken⟩
  · exact ⟨0, 0,
      .inl ⟨operation, _, next, Action.bind_error failed, spoken, ⟨_, rfl⟩, by simp⟩⟩
  rw [Action.bind_ok sent]
  rcases spoken.send guard polling goal with
    ⟨operation, next, failed, spoken⟩ | ⟨_, sent, spoken⟩
  · exact ⟨0, 0,
      .inl ⟨operation, _, next, Action.bind_error failed, spoken, ⟨_, rfl⟩, by simp⟩⟩
  rw [Action.bind_ok sent]
  rcases spoken.receive guard polling with
    ⟨operation, next, failed, spoken⟩ | ⟨first, _, received, spoken⟩
  · exact ⟨0, 0,
      .inl ⟨operation, _, next, Action.bind_error failed, spoken, ⟨_, rfl⟩, by simp⟩⟩
  rw [Action.bind_ok received]
  rcases spoken.receive guard polling with
    ⟨operation, next, failed, spoken⟩ | ⟨second, next, received, spoken⟩
  · exact ⟨first, 0,
      .inl ⟨operation, _, next, Action.bind_error failed, spoken, ⟨_, rfl⟩, by simp⟩⟩
  · exact ⟨first, second, .inr ⟨next, Action.bind_ok received, spoken⟩⟩

/-! ## Queries -/

namespace Graph

variable {κ α : Type} {graph : Graph} {layout : Layout} {pages : Nat → List Nat}
  {content : Multigraph}

/-- Reading the arena fails only as a search can fail. -/
theorem raises_load [Record α] (address : UInt32) :
    Raises Fault.IsOfSearch (load α address) :=
  .bind .get fun _ => .focus (.focus (Window.raises_load _ _))

theorem raises_idOf (node : NodeRef) : Raises Fault.IsOfSearch (idOf node) := by
  refine .bind .get fun graph => .bind (.liftM ?_) fun _ =>
    .bind (.liftM fun _ => Word.isOfSearch_entryAddress) fun _ => raises_load _
  intro fault failed
  simp only [slotOf] at failed
  split at failed
  · cases failed
  · cases failed
    trivial

theorem raises_routeFrom (start goal : NodeRef) (remaining : Nat) (current : NodeRef)
    (route : List RouteStep) :
    Raises Fault.IsOfSearch (routeFrom start goal remaining current route) := by
  induction remaining generalizing current route with
  | zero => exact .throw trivial
  | succ remaining ih =>
    refine .bind (raises_load _) fun record => .bind (raises_idOf _) fun id => ?_
    split
    · exact .pure _
    · split
      · exact .throw trivial
      · exact ih _ _

/-- Reading a route back fails only as a search can fail. -/
theorem raises_route (start goal : NodeRef) :
    Raises Fault.IsOfSearch (route start goal) :=
  .bind .get fun _ => raises_routeFrom _ _ _ _ _

/-- Records show no search: no parents, no costs and no marks, and what they show else
is as in the graph. -/
def ShowsReset (graph : Graph) (memory : Memory) : Prop :=
  ∃ entries, records graph = .ok entries graph ∧
    records (graph.withMemory memory)
      = .ok (entries.map fun entry => (entry.1, ⟨0, unreached, entry.2.firstPage, 0⟩))
        (graph.withMemory memory)

/-- After a reset the records show no search. -/
theorem Stores.resetSearch_shows (stores : graph.Stores layout pages content) :
    ∃ memory, resetSearch graph = .ok () (graph.withSearch memory 0) ∧
      graph.ShowsReset memory := by
  obtain ⟨memory, reset, same, unsearched, links⟩ := stores.resetSearch_eq
  have storesAfter : (graph.withMemory memory).Stores layout pages content :=
    stores.searched same links graph.frontier.size
  refine ⟨memory, reset, _, stores.records_eq, storesAfter.records_eq.trans ?_⟩
  rw [List.map_map]
  congr 1
  apply List.map_congr_left
  intro id present
  have inside : content.slot id < content.ids.length :=
    Multigraph.slot_lt_iff.mpr present
  have read_eq : (Record.read memory (layout.nodeAt (content.slot id)) : Node)
      = ⟨0, unreached,
        (Record.read graph.memory (layout.nodeAt (content.slot id)) : Node).firstPage,
        0⟩ := by
    rw [← links _ inside]
    exact (unsearched _ inside).symm
  exact congrArg (Prod.mk id) read_eq

end Graph

namespace Query

open ArenaPaths.Graph

/-- The answer that the words of a response give: the unreached cost says that there is
no way, and any other cost is that of the route in the records. -/
def decode (query : Query) (start goal : NodeRef) (first second : UInt32)
    (graph : Graph) : Except Fault Answer :=
  if first = unreached then .ok { query, outcome := .exhausted, cycles := some second }
  else ((route start goal).result graph).map fun route =>
    { query, outcome := .found first, route, cycles := some second }

variable {κ : Type} {graph : Graph} {layout : Layout} {pages : Nat → List Nat}
  {content : Multigraph} {query : Query} {start goal : NodeRef}

/-- Decoding a response is no waiting. -/
theorem decode_ne_timeout (first second : UInt32) (operation : String) (polls : Nat) :
    query.decode start goal first second graph ≠ .error (.timeout operation polls) := by
  intro timedOut
  rw [decode] at timedOut
  split at timedOut
  · cases timedOut
  · cases walked : route start goal graph with
    | ok steps rest =>
      rw [result_of_ok walked] at timedOut
      cases timedOut
    | error fault rest =>
      rw [result_of_error walked] at timedOut
      cases timedOut
      exact raises_route start goal _ _ _ walked

/-- Decoding a response changes nothing. -/
theorem outcome_decode (first second : UInt32) (device : κ) :
    (do
      let outcome : Outcome := if first = unreached then .exhausted else .found first
      let route ← Action.onFirst (routeOf start goal outcome)
      return { query, outcome, route, cycles := some second } :
        Action (Graph × κ) Answer).outcome (graph, device)
      = (query.decode start goal first second graph, graph, device) := by
  rw [decode]
  split
  · rfl
  · have unchanged : Keeps id (route start goal) :=
      keeps_routeOf start goal (.found first)
    have kept : ((route start goal).outcome graph).2 = graph := unchanged graph
    rw [outcome_map, Action.onFirst, outcome_focus]
    simp only [routeOf, kept, result]

/-- A delegated query between two nodes resets the records, exchanges words and decodes
the response. -/
theorem outcome_run_delegated (stores : graph.Stores layout pages content)
    (onHeap : graph.arena.backing.source = .heap) (delegated : query.mode = .delegated)
    (foundStart : find query.start graph = .ok (some start) graph)
    (foundGoal : find query.goal graph = .ok (some goal) graph)
    (channel : Channel (κ × Memory)) (device : κ) :
    ∃ memory, graph.ShowsReset memory ∧
      (query.run (some channel)).outcome (graph, device) =
        match channel.exchange graph.frontier.base start.address goal.address
          (device, memory) with
        | .error fault (rest, left) => (.error fault, graph.withSearch left 0, rest)
        | .ok (first, second) (rest, left) =>
          (query.decode start goal first second (graph.withSearch left 0),
                graph.withSearch left 0, rest) := by
  obtain ⟨memory, reset, shows⟩ := stores.resetSearch_shows
  refine ⟨memory, shows, ?_⟩
  have synced :
      ∀ direction, (graph.withSearch memory 0).arena.syncAll direction = .ok () :=
    fun direction => Arena.syncAll_eq_ok onHeap direction
  rw [outcome]
  simp only [Query.run, Action.bind_ok (Action.onFirst_eq_ok foundStart),
    Action.bind_ok (Action.onFirst_eq_ok foundGoal),
    Action.bind_ok (Action.onFirst_eq_ok reset), delegated,
    Query.runDelegated, Action.get_bind_apply, synced, Action.liftM_ok_bind_apply]
  rw [← outcome]
  cases exchanged : channel.exchange graph.frontier.base start.address goal.address
    (device, memory) with
  | error fault rest =>
    have failed :
        onDevice (channel.exchange graph.frontier.base start.address goal.address)
        (graph.withSearch memory 0, device) = _ := onDevice_eq_error exchanged
    exact outcome_of_error (bind_error failed)
  | ok words rest =>
    have done :
        onDevice (channel.exchange graph.frontier.base start.address goal.address)
        (graph.withSearch memory 0, device) = _ := onDevice_eq_ok exchanged
    exact (outcome_bind_ok done).trans (outcome_decode words.1 words.2 rest.1)

/-- Whatever a device does, a delegated query between two nodes uses the data register
in order for the words of its request and of the response, and before the first of them
it has reset all records. It stops early exactly if a wait runs out, and otherwise it
returns what the words of the response say. -/
theorem run_is_transaction {links : List Link} (built : Built graph links)
    (onHeap : graph.arena.backing.source = .heap) (query : Query)
    (delegated : query.mode = .delegated)
    (foundStart : find query.start graph = .ok (some start) graph)
    (foundGoal : find query.goal graph = .ok (some goal) graph) (device : Peripheral)
    (guard : Guard) (polling : Polling) {result : Except Fault Answer} {after : Graph}
    {history : List Access}
    (ran : (query.run (some (device.bank.channel guard polling))).outcome (graph, [])
      = (result, after, history))
    (returned : ∀ cause, result ≠ .error (.abort cause)) :
    ∃ first second,
      (dataAccesses history).map Access.transfer
        <+: transaction graph.frontier.base start.address goal.address first second ∧
      (∀ access ∈ (dataAccesses history).head?, graph.ShowsReset access.memory) ∧
      ((∃ operation polls, result = .error (.timeout operation polls)) ↔
        (dataAccesses history).length < 5) ∧
      ((dataAccesses history).length = 5 →
        result = query.decode start goal first second after) := by
  obtain ⟨_, _, _, stores, _⟩ := built.stores
  obtain ⟨memory, shows, outcome_eq⟩ :=
    outcome_run_delegated stores onHeap delegated foundStart foundGoal
      (device.bank.channel guard polling) []
  obtain ⟨first, second, ended⟩ :=
    (Spoken.fresh memory).exchange guard polling graph.frontier.base start.address
      goal.address
  rw [ran] at outcome_eq
  refine ⟨first, second, ?_⟩
  rcases ended with
    ⟨operation, said, next, failed, spoken, early, short⟩ | ⟨next, exchanged, spoken⟩
  · rw [failed] at outcome_eq
    cases outcome_eq
    have count : (dataAccesses next.1).length = said.length := by
      rw [← spoken.transfers_eq, List.length_map]
    refine ⟨spoken.transfers_eq ▸ early, ?_, ⟨fun _ => count ▸ short, fun _ => ?_⟩,
      fun whole => by omega⟩
    · intro access member
      rw [spoken.memory_eq access member]
      exact shows
    · rcases polling.exhausted_cases operation with timeout | abort
      · exact ⟨operation, polling.reads, congrArg Except.error timeout⟩
      · exact absurd (congrArg Except.error abort) (returned _)
  · rw [exchanged] at outcome_eq
    cases outcome_eq
    have count : (dataAccesses next.1).length = 5 := by
      rw [← List.length_map, spoken.transfers_eq]
      rfl
    refine ⟨spoken.transfers_eq ▸ List.prefix_rfl, ?_, ⟨?_, fun short => by omega⟩,
      fun _ => rfl⟩
    · intro access member
      rw [spoken.memory_eq access member]
      exact shows
    · rintro ⟨operation, polls, timedOut⟩
      exact absurd timedOut (decode_ne_timeout first second operation polls)

/-- With no end to the polling, a query is answered by words alone. -/
theorem run_is_transaction_with_wiping :
    ∃ graph start goal after history, Built graph [⟨1, 2, 5⟩] ∧
      graph.arena.backing.source = .heap ∧
      find 1 graph = .ok (some start) graph ∧ find 2 graph = .ok (some goal) graph ∧
      ((⟨1, 2, .delegated⟩ : Query).run
        (some (Peripheral.wiping.bank.channel .guarded ⟨none, 1⟩))).outcome (graph, [])
        = (.ok { query := ⟨1, 2, .delegated⟩, outcome := .exhausted, cycles := some 7 },
          after, history) ∧
      ∃ first second,
        (dataAccesses history).map Access.transfer
          <+: transaction graph.frontier.base start.address goal.address first second ∧
        (∀ access ∈ (dataAccesses history).head?, graph.ShowsReset access.memory) ∧
        5 ≤ (dataAccesses history).length := by
  obtain ⟨graph, built, onHeap, answered⟩ : ∃ graph, Built graph [⟨1, 2, 5⟩] ∧
      graph.arena.backing.source = .heap ∧
      ((⟨1, 2, .delegated⟩ : Query).run
        (some (Peripheral.wiping.bank.channel .guarded ⟨none, 1⟩))).result (graph, [])
        = .ok
          { query := ⟨1, 2, .delegated⟩, outcome := .exhausted, cycles := some 7 } :=
    exists_built ⟨.heap, 0x10000000, 65536, .zeros⟩ 64 ⟨2, 2, .dense 9⟩
      [.addEdge ⟨1, 2, 5⟩] (by decide +kernel)
  obtain ⟨⟨start, foundStart⟩, ⟨goal, foundGoal⟩⟩ := built.has_ends List.mem_cons_self
  rcases ran : ((⟨1, 2, .delegated⟩ : Query).run
      (some (Peripheral.wiping.bank.channel .guarded ⟨none, 1⟩))).outcome
    (graph, []) with ⟨result, after, history⟩
  rw [Action.result, ran] at answered
  cases answered
  obtain ⟨first, second, ordered, reset, timeout_iff, _⟩ :=
    run_is_transaction built onHeap ⟨1, 2, .delegated⟩ rfl
    foundStart foundGoal .wiping .guarded ⟨none, 1⟩ ran (by rintro cause ⟨⟩)
  refine ⟨graph, start, goal, after, history, built, onHeap, foundStart, foundGoal, ran,
    first, second, ordered, reset, ?_⟩
  apply Nat.le_of_not_lt
  intro short
  obtain ⟨_, _, timedOut⟩ := timeout_iff.2 short
  cases timedOut

end Query

end ArenaPaths
