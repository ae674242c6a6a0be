import ArenaPaths.Proofs.Failing
import ArenaPaths.Proofs.Histories

/-!
# Conversations with the replaying device

Words are written to the device and read from it in any order, also out of turn, while
others write to the bytes that it shares. Whatever happens, the words that it takes fall
into threes, each three is a request, and a request that is answered gives two words to
be read before the next request begins: the cost or the unreached cost, and the number
of settled nodes or the greatest word. A request that fails leaves nothing behind.
Requests that are answered are counted, and the one that the count has no room for fails
with its answer pending.

Main statement: `Replay.conversation_in_order`.
-/

namespace ArenaPaths.Replay

open ArenaPaths.Action

/-- What can happen at the device: a word is written or read, or others leave different
bytes in the memory that they share with it. -/
inductive Event where
  | write (word : UInt32)
  | read
  | share (memory : Memory)

/-- What an event gives: the word if one is read. -/
def Event.perform : Event → Action (Replay × Memory) (Option UInt32)
  | .write word => do
    send word
    return none
  | .read => do return some (← receive)
  | .share memory => do
    modify fun device => (device.1, memory)
    return none

/-- The word that an event has brought to the device, given how it ended. Only a word
that comes while a response is pending is not taken. -/
def Event.accepted : Event → Except Fault (Option UInt32) → List UInt32
  | .write _, .error (.protocol .writeWhilePending) => []
  | .write word, _ => [word]
  | .read, _ => []
  | .share _, _ => []

/-- The word that an event has got from the device, given how it ended. -/
def Event.obtained : Event → Except Fault (Option UInt32) → List UInt32
  | .read, .ok word? => word?.toList
  | .read, .error _ => []
  | .write _, _ => []
  | .share _, _ => []

/-- The words of a request, and the bytes over which it is made. -/
structure Request where
  base : UInt32
  start : UInt32
  goal : UInt32
  memory : Memory

namespace Request

variable (window : Window) (capacity : Nat) (request : Request)

/-- The words of a request in their order. -/
def words : List UInt32 := [request.base, request.start, request.goal]

/-- What a request comes to: a fault, or a cost and a count of cycles. One without a
start or without a goal fails. For any other the graph is searched with an empty
frontier. If the search fails, so does the request; else the cost is that of the goal,
or the greatest word if no walk was found, and the cycles are the nodes settled, as far
as a word can count them. -/
def ending : Except Fault (UInt32 × UInt32) :=
  if noStart : request.start = nullAddress then .error (.protocol .nullStart)
  else if noGoal : request.goal = nullAddress then .error (.protocol .nullGoal)
  else
    let search := Search.run window ⟨request.start, noStart⟩ ⟨request.goal, noGoal⟩
    match search.result ⟨⟨request.base, capacity, 0⟩, request.memory⟩ with
    | .error fault => .error (seenFault fault)
    | .ok ⟨.found cost, settled, _⟩ => .ok (cost, (min settled 0xFFFFFFFF).toUInt32)
    | .ok ⟨.exhausted, settled, _⟩ =>
      .ok (0xFFFFFFFF, (min settled 0xFFFFFFFF).toUInt32)

/-- The words that are to be read after a request. -/
def reply : List UInt32 :=
  match request.ending window capacity with
  | .ok (cost, cycles) => [cost, cycles]
  | .error _ => []

/-- Whether a request is answered. -/
def isAnswered : Bool := (request.ending window capacity).isOk

end Request

/-- The request that an event completes, if it is a third word that is taken. -/
def Event.completed : Event → Replay × Memory → List Request
  | .write word, (replay, memory) =>
    match replay.response, replay.request with
    | [], [base, start] => [⟨base, start, word, memory⟩]
    | _, _ => []
  | .read, _ => []
  | .share _, _ => []

/-- The requests that events complete one after another. -/
def conversation : List Event → Replay × Memory → List Request
  | [], _ => []
  | event :: rest, device =>
    event.completed device ++ conversation rest (event.perform.outcome device).2

/-! ## Single words -/

variable {replay : Replay} {memory : Memory} {word base start : UInt32}

theorem send_of_pending (pending : replay.response ≠ []) (word : UInt32)
    (memory : Memory) :
    send word (replay, memory)
      = .error (.protocol .writeWhilePending) (replay, memory) := by
  have notEmpty : (!replay.response.isEmpty) = true := by simp [pending]
  simp only [send, get_bind_apply, if_pos notEmpty, throw_bind_apply]

/-- A word that does not complete a request waits for the others. -/
theorem send_of_short (idle : replay.response = []) (short : replay.request.length < 2)
    (word : UInt32) (memory : Memory) :
    send word (replay, memory)
      = .ok () ({ replay with request := replay.request ++ [word] }, memory) := by
  simp only [send, get_bind_apply, idle, List.isEmpty_nil, Bool.not_true,
    Bool.false_eq_true, if_false]
  match replay.request, short with
  | [], _ => rfl
  | [_], _ => rfl

/-- How a third word is taken, and the device after it, given what its request comes
to. A request that fails leaves no word behind. The two words of an answer are pending,
and it is counted unless the count has come to its end. -/
def conclude (replay : Replay) :
    Except Fault (UInt32 × UInt32) → Except Fault Unit × Replay
  | .error fault => (.error fault, { replay with request := [], response := [] })
  | .ok (cost, cycles) =>
    let answered := { replay with request := [], response := [cost, cycles] }
    if replay.queries + 1 < UInt32.size then
      (.ok (), { answered with queries := replay.queries + 1 })
    else (.error (.abort .addOverflow), answered)

/-- Once a request is over, nothing is left of it but its reply. -/
theorem snd_conclude (replay : Replay) (window : Window) (capacity : Nat)
    (request : Request) :
    (replay.conclude (request.ending window capacity)).2
      = { replay with
          request := []
          response := request.reply window capacity
          queries := replay.queries + (request.isAnswered window capacity
            && decide (replay.queries + 1 < UInt32.size)).toNat } := by
  cases ended : request.ending window capacity with
  | error fault => simp only [conclude, Request.reply, Request.isAnswered, ended]; rfl
  | ok pair =>
    by_cases countable : replay.queries + 1 < UInt32.size <;>
      simp [conclude, Request.reply, Request.isAnswered, ended, Except.isOk,
        Except.toBool, countable]

/-- A request comes to what the search for it comes to, put into two words. -/
theorem Request.ending_eq (window : Window) (capacity : Nat) (request : Request) :
    request.ending window capacity
      = ((searchFor window capacity request.base request.start request.goal).result
          request.memory).map fun report =>
        (report.outcome.cost?.getD unreached,
          (min report.steps (UInt32.size - 1)).toUInt32) := by
  obtain ⟨base, start, goal, memory⟩ := request
  by_cases noStart : start = nullAddress
  · simp [ending, noStart, result, outcome, searchFor, NodeRef.ofWord?, Except.map]
  by_cases noGoal : goal = nullAddress
  · simp [ending, noStart, noGoal, result, outcome, searchFor, NodeRef.ofWord?,
      Except.map]
  simp only [ending, dif_neg noStart, dif_neg noGoal, result, outcome, searchFor,
    NodeRef.ofWord?, ne_eq, noStart, noGoal, not_false_eq_true, dite_true]
  cases Search.run window ⟨start, noStart⟩ ⟨goal, noGoal⟩
    ⟨⟨base, capacity, 0⟩, memory⟩ with
  | error fault rest => rfl
  | ok report rest =>
    obtain ⟨_ | _, settled, relaxations⟩ := report <;> rfl

/-- The third word of a request is taken as the request ends. -/
theorem outcome_send_of_two (idle : replay.response = [])
    (two : replay.request = [base, start]) (goal : UInt32) (memory : Memory) :
    (send goal).outcome (replay, memory)
      = let concluded := replay.conclude
          ((Request.mk base start goal memory).ending replay.window replay.capacity)
        (concluded.1, concluded.2,
          ((searchFor replay.window replay.capacity base start goal).outcome
            memory).2) := by
  obtain ⟨window, capacity, request, response, queries⟩ := replay
  subst idle two
  have opened : send goal (⟨window, capacity, [base, start], [], queries⟩, memory)
      = (onSecond (searchFor window capacity base start goal) >>= fun report => do
          onFirst (set (⟨window, capacity, [], answer report, queries⟩ : Replay))
          let counted ← Word.add UInt32.size queries 1
          onFirst (set (⟨window, capacity, [], answer report, counted⟩ : Replay)))
        (⟨window, capacity, [], [], queries⟩, memory) := rfl
  rw [Request.ending_eq]
  cases searched : searchFor window capacity base start goal memory with
  | ok report rest =>
    rw [outcome, opened, bind_ok (onSecond_eq_ok searched), result_of_ok searched,
      outcome_of_ok searched, Except.map]
    by_cases countable : queries + 1 < UInt32.size
    · simp only [conclude, if_pos countable, Word.add_eq_ok countable]
      rfl
    · simp only [conclude, if_neg countable, Word.add]
      rfl
  | error fault rest =>
    rw [outcome_of_error (opened.trans (bind_error (focus_eq_error searched))),
      result_of_error searched, outcome_of_error searched]
    rfl

theorem Event.accepted_write {result : Except Fault (Option UInt32)}
    (taken : result ≠ .error (.protocol .writeWhilePending)) :
    (Event.write word).accepted result = [word] := by
  rw [Event.accepted]
  exact taken

/-- The fault of a request is never that of a word that is not taken. -/
theorem conclude_not_refused (replay : Replay) (window : Window) (capacity : Nat)
    (request : Request) :
    (replay.conclude (request.ending window capacity)).1.map
        (fun _ => (none : Option UInt32))
      ≠ .error (.protocol .writeWhilePending) := by
  rw [Request.ending_eq]
  cases searched : searchFor window capacity request.base request.start request.goal
      request.memory with
  | ok report rest =>
    rw [result_of_ok searched, Except.map, conclude]
    split <;> (intro same; cases same)
  | error fault rest =>
    rw [result_of_error searched]
    intro same
    cases same
    exact raises_searchFor _ _ _ _ _ _ _ _ searched rfl

theorem receive_nil (idle : replay.response = []) (memory : Memory) :
    receive (replay, memory)
      = .error (.protocol .readWithoutResponse) (replay, memory) := by
  simp only [receive, get_bind_apply, idle, throw_apply]

theorem receive_cons {words : List UInt32} (pending : replay.response = word :: words)
    (memory : Memory) :
    receive (replay, memory)
      = .ok word ({ replay with response := words }, memory) := by
  simp only [receive, get_bind_apply, pending]
  rfl

/-- The first two words of a request that begins afresh wait for the third. -/
theorem exchange_of_idle (idle : replay.response = []) (fresh : replay.request = [])
    (base start goal : UInt32) (memory : Memory) :
    channel.exchange base start goal (replay, memory)
      = (do
          channel.send goal
          let cost ← channel.receive
          let cycles ← channel.receive
          return (cost, cycles))
        ({ replay with request := [base, start] }, memory) := by
  obtain ⟨window, capacity, request, response, queries⟩ := replay
  subst idle fresh
  rfl

/-! ## Whole conversations -/

/-- The device has taken the given words and given the others, and the requests are what
they amount to. -/
structure Orderly (window : Window) (capacity : Nat) (requests : List Request)
    (taken given : List UInt32) (replay : Replay) : Prop where
  window_eq : replay.window = window
  capacity_eq : replay.capacity = capacity
  request_lt : replay.request.length < Channel.requestWords
  response_le : replay.response.length ≤ Channel.responseWords
  request_eq_nil : replay.response ≠ [] → replay.request = []
  taken_eq : taken = requests.flatMap Request.words ++ replay.request
  given_eq : given ++ replay.response = requests.flatMap (Request.reply window capacity)
  queries_eq : replay.queries
    = min (requests.countP (Request.isAnswered window capacity)) (UInt32.size - 1)

namespace Orderly

variable {window : Window} {capacity : Nat} {requests : List Request}
  {taken given words : List UInt32}

theorem fresh (window : Window) (capacity : Nat) :
    Orderly window capacity [] [] [] { window, capacity } where
  window_eq := rfl
  capacity_eq := rfl
  request_lt := Nat.zero_lt_succ _
  response_le := Nat.zero_le _
  request_eq_nil _ := rfl
  taken_eq := rfl
  given_eq := rfl
  queries_eq := (Nat.zero_min _).symm

variable (orderly : Orderly window capacity requests taken given replay)
include orderly

theorem take (idle : replay.response = []) (short : replay.request.length < 2)
    (word : UInt32) :
    Orderly window capacity requests (taken ++ [word]) given
      { replay with request := replay.request ++ [word] } :=
  { orderly with
    request_lt := by
      rw [List.length_append, List.length_singleton, Channel.requestWords]
      omega
    request_eq_nil := fun pending => absurd idle pending
    taken_eq := by rw [orderly.taken_eq, List.append_assoc] }

theorem give (pending : replay.response = word :: words) :
    Orderly window capacity requests taken (given ++ [word])
      { replay with response := words } :=
  { orderly with
    response_le := by
      have le := orderly.response_le
      rw [pending, List.length_cons] at le
      exact Nat.le_of_succ_le le
    request_eq_nil := fun _ => orderly.request_eq_nil (by simp [pending])
    given_eq := by
      have equal := orderly.given_eq
      rw [pending] at equal
      rw [← equal, List.append_assoc]
      rfl }

theorem conclude (idle : replay.response = []) (two : replay.request = [base, start])
    (goal : UInt32) (memory : Memory) :
    Orderly window capacity (requests ++ [⟨base, start, goal, memory⟩])
      (taken ++ [goal]) given
      (replay.conclude
        ((Request.mk base start goal memory).ending window capacity)).2 := by
  rw [snd_conclude]
  constructor
  case window_eq => exact orderly.window_eq
  case capacity_eq => exact orderly.capacity_eq
  case request_lt => exact Nat.zero_lt_succ _
  case response_le =>
    rw [Request.reply]
    split
    · exact Nat.le_refl 2
    · exact Nat.zero_le 2
  case request_eq_nil => exact fun _ => rfl
  case taken_eq =>
    rw [orderly.taken_eq, two, List.flatMap_append]
    simp [Request.words]
  case given_eq =>
    have given_eq := orderly.given_eq
    rw [idle, List.append_nil] at given_eq
    rw [given_eq, List.flatMap_append]
    simp
  case queries_eq =>
    have queries_eq := orderly.queries_eq
    rw [List.countP_append, List.countP_singleton]
    cases (Request.mk base start goal memory).isAnswered window capacity with
    | false => exact queries_eq
    | true =>
      by_cases countable : replay.queries + 1 < UInt32.size
      · simp only [countable, decide_true, Bool.and_self, Bool.toNat_true, if_true]
        omega
      · simp only [countable, decide_false, Bool.and_false, Bool.toNat_false, if_true]
        omega

/-- The device stays orderly when a word is written to it. -/
theorem write (word : UInt32) (memory : Memory) :
    ∃ result after rest,
      (Event.write word).perform.outcome (replay, memory) = (result, after, rest) ∧
      Orderly window capacity
        (requests ++ (Event.write word).completed (replay, memory))
        (taken ++ (Event.write word).accepted result) given after := by
  have performed : (Event.write word).perform.outcome (replay, memory) = _ :=
    outcome_map (fun _ => (none : Option UInt32)) (send word) (replay, memory)
  by_cases idle : replay.response = []
  case neg =>
    rw [outcome_of_error (send_of_pending idle word memory)] at performed
    refine ⟨_, replay, memory, performed, ?_⟩
    simpa [Event.completed, Event.accepted, Except.map, idle] using orderly
  by_cases short : replay.request.length < 2
  · rw [outcome_of_ok (send_of_short idle short word memory)] at performed
    have incomplete : (Event.write word).completed (replay, memory) = [] := by
      rw [Event.completed]
      split
      · rename_i isTwo
        rw [isTwo] at short
        exact absurd short (Nat.lt_irrefl 2)
      · rfl
    refine ⟨_, _, memory, performed, ?_⟩
    rw [incomplete, List.append_nil]
    exact orderly.take idle short word
  · have two : replay.request.length = 2 := by
      have three := orderly.request_lt
      rw [Channel.requestWords] at three
      omega
    obtain ⟨base, start, two⟩ := List.length_eq_two.mp two
    rw [outcome_send_of_two idle two word memory] at performed
    refine ⟨_, _, _, performed, ?_⟩
    have complete : (Event.write word).completed (replay, memory)
        = [⟨base, start, word, memory⟩] := by
      simp only [Event.completed, idle, two]
    rw [complete, Event.accepted_write (replay.conclude_not_refused _ _ _),
      orderly.window_eq, orderly.capacity_eq]
    exact orderly.conclude idle two word memory

/-- The device stays orderly when a word is read from it. -/
theorem read (memory : Memory) :
    ∃ result after,
      Event.read.perform.outcome (replay, memory) = (result, after, memory) ∧
      Orderly window capacity requests taken (given ++ Event.read.obtained result)
        after := by
  have performed : Event.read.perform.outcome (replay, memory) = _ :=
    outcome_map some receive (replay, memory)
  cases isResponse : replay.response with
  | nil =>
    rw [outcome_of_error (receive_nil isResponse memory)] at performed
    refine ⟨_, replay, performed, ?_⟩
    rw [Except.map, Event.obtained, List.append_nil]
    exact orderly
  | cons word words =>
    rw [outcome_of_ok (receive_cons isResponse memory)] at performed
    exact ⟨_, _, performed, orderly.give isResponse⟩

/-- Whatever happens next, the device stays orderly. -/
theorem perform (event : Event) (memory : Memory) :
    ∃ result after rest,
      event.perform.outcome (replay, memory) = (result, after, rest) ∧
      Orderly window capacity (requests ++ event.completed (replay, memory))
        (taken ++ event.accepted result) (given ++ event.obtained result) after := by
  cases event with
  | write word =>
    obtain ⟨result, after, rest, performed, next⟩ := orderly.write word memory
    refine ⟨result, after, rest, performed, ?_⟩
    rw [Event.obtained, List.append_nil]
    exact next
  | read =>
    obtain ⟨result, after, performed, next⟩ := orderly.read memory
    refine ⟨result, after, memory, performed, ?_⟩
    rw [Event.completed, Event.accepted, List.append_nil, List.append_nil]
    exact next
  | share other =>
    refine ⟨.ok none, replay, other, rfl, ?_⟩
    simpa [Event.completed, Event.accepted, Event.obtained] using orderly

/-- The device stays orderly whatever happens one after another. -/
theorem performAll (events : List Event) (memory : Memory) :
    ∃ results after rest,
      outcomes (events.map Event.perform) (replay, memory) = (results, after, rest) ∧
      Orderly window capacity (requests ++ conversation events (replay, memory))
        (taken ++ (List.zipWith Event.accepted events results).flatten)
        (given ++ (List.zipWith Event.obtained events results).flatten) after := by
  induction events generalizing replay memory requests taken given with
  | nil =>
    refine ⟨[], replay, memory, rfl, ?_⟩
    simpa [conversation] using orderly
  | cons event others ih =>
    obtain ⟨result, between, mid, here, next⟩ := orderly.perform event memory
    obtain ⟨results, after, rest, there, last⟩ := ih next mid
    refine ⟨result :: results, after, rest, outcomes_cons here there, ?_⟩
    simpa only [conversation, here, List.zipWith_cons_cons, List.flatten_cons,
      List.append_assoc] using last

/-- An event that does not stop the program leaves the count room for its request. -/
theorem answered_lt (event : Event) (memory : Memory)
    (few : requests.countP (Request.isAnswered window capacity) < UInt32.size)
    (returned : event.perform.result (replay, memory) ≠ .error (.abort .addOverflow)) :
    (requests ++ event.completed (replay, memory)).countP
      (Request.isAnswered window capacity) < UInt32.size := by
  cases event with
  | read => simpa [Event.completed] using few
  | share other => simpa [Event.completed] using few
  | write word =>
    rw [Event.completed]
    split
    case h_2 => simpa using few
    rename_i base start idle two
    have performed : (Event.write word).perform.outcome (replay, memory) = _ :=
      outcome_map (fun _ => (none : Option UInt32)) (send word) (replay, memory)
    rw [outcome_send_of_two idle two word memory, orderly.window_eq,
      orderly.capacity_eq] at performed
    rw [result, performed] at returned
    rw [List.countP_append, List.countP_singleton]
    cases ended : (Request.mk base start word memory).ending window capacity with
    | error fault =>
      simpa [Request.isAnswered, ended, Except.isOk, Except.toBool] using few
    | ok pair =>
      have countable : replay.queries + 1 < UInt32.size := by
        by_contra full
        simp [ended, Replay.conclude, full, Except.map] at returned
      rw [orderly.queries_eq] at countable
      split <;> omega

/-- As long as the program is not stopped, the count has room for all requests that are
answered. -/
theorem answered_lt_of_returned (events : List Event) (memory : Memory)
    (few : requests.countP (Request.isAnswered window capacity) < UInt32.size)
    (returned : ∀ result ∈ (outcomes (events.map Event.perform) (replay, memory)).1,
      result ≠ .error (.abort .addOverflow)) :
    (requests ++ conversation events (replay, memory)).countP
      (Request.isAnswered window capacity) < UInt32.size := by
  induction events generalizing replay memory requests taken given with
  | nil => simpa [conversation] using few
  | cons event others ih =>
    obtain ⟨result, between, mid, here, next⟩ := orderly.perform event memory
    rw [List.map_cons, outcomes_cons here rfl] at returned
    have reached := orderly.answered_lt event memory few (by
      rw [Action.result, here]
      exact returned result List.mem_cons_self)
    rw [conversation, here, ← List.append_assoc]
    exact ih next mid reached fun later member =>
      returned later (List.mem_cons_of_mem _ member)

end Orderly

/-- Over any memory and with any room in its frontier, a device that was just made stays
orderly whatever happens to it. A word that comes while a response is pending is
refused, and so is a read when none is; neither changes anything. A third word concludes
its request by what the request comes to: with a fault and no word left in the device,
or with the cost and the cycles pending. Unless counting has stopped the program, the
count is the number of requests that were answered. -/
theorem conversation_in_order (window : Window) (capacity : Nat) (memory : Memory)
    (events : List Event) :
    ∃ results replay rest,
      outcomes (events.map Event.perform) ({ window, capacity }, memory)
        = (results, replay, rest) ∧
      Orderly window capacity (conversation events ({ window, capacity }, memory))
        (List.zipWith Event.accepted events results).flatten
        (List.zipWith Event.obtained events results).flatten replay ∧
      (∀ word, replay.response ≠ [] →
        send word (replay, rest)
          = .error (.protocol .writeWhilePending) (replay, rest)) ∧
      (replay.response = [] →
        receive (replay, rest)
          = .error (.protocol .readWithoutResponse) (replay, rest)) ∧
      (∀ word request, (Event.write word).completed (replay, rest) = [request] →
        ∃ result after final,
          (send word).outcome (replay, rest) = (result, after, final) ∧
          (result, after) = replay.conclude (request.ending window capacity)) ∧
      ((∀ result ∈ results, result ≠ .error (.abort .addOverflow)) →
        replay.queries = (conversation events ({ window, capacity }, memory)).countP
          (Request.isAnswered window capacity)) := by
  obtain ⟨results, replay, rest, performed, orderly⟩ :=
    (Orderly.fresh window capacity).performAll events memory
  simp only [List.nil_append] at orderly
  refine ⟨results, replay, rest, performed, orderly,
    fun word pending => send_of_pending pending word rest,
    fun idle => receive_nil idle rest, ?_, ?_⟩
  · intro word request completes
    rw [Event.completed] at completes
    split at completes
    · rename_i base start idle two
      cases completes
      rw [← orderly.window_eq, ← orderly.capacity_eq]
      exact ⟨_, _, _, outcome_send_of_two idle two word rest, rfl⟩
    · cases completes
  · intro returned
    have few := (Orderly.fresh window capacity).answered_lt_of_returned events memory
      (by rw [List.countP_nil]; decide) (by rw [performed]; exact returned)
    rw [List.nil_append] at few
    rw [orderly.queries_eq]
    omega

/-- Two requests to the device of a graph, from its first node to its third and from
nowhere to its third, with words out of turn among them. -/
def twoRequests (graph : Graph) : List Event :=
  [.write graph.frontier.base, .write 0x10000040, .read, .write 0x10000060, .write 7,
    .read, .read, .write graph.frontier.base, .write 0, .write 0x10000060, .read,
    .write 9]

/-- The first request is answered with the cost of the way and the three nodes settled.
The second one fails and leaves nothing to be read. -/
theorem conversation_in_order_of_two_requests :
    ∃ graph, Graph.Built graph [⟨1, 2, 10⟩, ⟨2, 3, 5⟩, ⟨1, 3, 20⟩] ∧
      ∃ results replay rest,
        outcomes ((twoRequests graph).map Event.perform) (ofGraph graph, graph.memory)
          = (results, replay, rest) ∧
        results = [.ok none, .ok none, .error (.protocol .readWithoutResponse),
          .ok none, .error (.protocol .writeWhilePending), .ok (some 15), .ok (some 3),
          .ok none, .ok none, .error (.protocol .nullStart),
          .error (.protocol .readWithoutResponse), .ok none] ∧
        (conversation (twoRequests graph) (ofGraph graph, graph.memory)).map
            (Request.ending graph.arena.deviceWindow graph.frontier.capacity)
          = [.ok (15, 3), .error (.protocol .nullStart)] ∧
        replay.queries = 1 ∧
        Orderly graph.arena.deviceWindow graph.frontier.capacity
          (conversation (twoRequests graph) (ofGraph graph, graph.memory))
          [graph.frontier.base, 0x10000040, 0x10000060,
            graph.frontier.base, 0, 0x10000060, 9] [15, 3] replay := by
  obtain ⟨graph, built, seen, ended, counted⟩ : ∃ graph,
      Graph.Built graph [⟨1, 2, 10⟩, ⟨2, 3, 5⟩, ⟨1, 3, 20⟩] ∧
      (outcomes ((twoRequests graph).map Event.perform) (ofGraph graph, graph.memory)).1
        = [.ok none, .ok none, .error (.protocol .readWithoutResponse),
          .ok none, .error (.protocol .writeWhilePending), .ok (some 15), .ok (some 3),
          .ok none, .ok none, .error (.protocol .nullStart),
          .error (.protocol .readWithoutResponse), .ok none] ∧
      (conversation (twoRequests graph) (ofGraph graph, graph.memory)).map
          (Request.ending graph.arena.deviceWindow graph.frontier.capacity)
        = [.ok (15, 3), .error (.protocol .nullStart)] ∧
      (outcomes ((twoRequests graph).map Event.perform)
        (ofGraph graph, graph.memory)).2.1.queries = 1 :=
    Graph.exists_built ⟨.heap, 0x10000000, 65536, .zeros⟩ 64 ⟨3, 3, .dense 9⟩
      [.addEdge ⟨1, 2, 10⟩, .addEdge ⟨2, 3, 5⟩, .addEdge ⟨1, 3, 20⟩] (by decide +kernel)
  obtain ⟨results, replay, rest, performed, orderly, _⟩ := conversation_in_order
    graph.arena.deviceWindow graph.frontier.capacity graph.memory (twoRequests graph)
  rw [ofGraph, performed] at seen counted
  obtain rfl : results = _ := seen
  exact ⟨graph, built, _, replay, rest, performed, rfl, ended, counted, orderly⟩

end ArenaPaths.Replay
