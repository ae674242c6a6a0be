import ArenaPaths.Proofs.Footprint
import ArenaPaths.Proofs.Replies

/-!
# Sessions

A graph in use: calls add to it, accelerators are made for it, and queries are run on
it, by the host or for an accelerator, be there one or not. Queries leave costs,
parents, marks and entries of the frontier behind, and calls write some of them back to
memory. Still, nothing that is done with the graph gives a result that depends on a
query before it, as long as there are fewer queries than an accelerator can count. And
whatever is done, the graph stays one that a program can hold: that an accelerator
writes no more than bytes of searches, a condition elsewhere, is a fact here.

Main statements: `Session.built_of_history` and `Session.result_without_queries`.
-/

namespace ArenaPaths

open ArenaPaths.Action

/-- A graph and the accelerators that were made for it. -/
structure Session where
  graph : Graph
  accelerators : List Replay

/-- What is done with a graph: a call, making an accelerator for it, or a query over the
channel to the accelerator with the given number. A query with a number that no
accelerator has runs without a channel. -/
inductive Operation where
  | add (call : Call)
  | attach
  | run (query : Query) (number : Nat)
  deriving DecidableEq, Repr

/-- What an operation gives. -/
inductive Reply where
  | added (node? : Option NodeRef)
  | attached
  | answered (answer : Answer)
  deriving DecidableEq, Repr

namespace Session

variable {α : Type}

/-- Run a step on the graph. -/
def onGraph (step : Action Graph α) : Action Session α :=
  focus Session.graph (fun session graph => { session with graph }) step

/-- Run a step on the graph and on an accelerator, which is then put back under its
number. -/
def onAccelerator (number : Nat) (accelerator : Replay)
    (step : Action (Graph × Replay) α) : Action Session α :=
  focus (fun session => (session.graph, accelerator))
    (fun session (graph, accelerator) =>
      ⟨graph, session.accelerators.set number accelerator⟩) step

end Session

namespace Operation

/-- Do something with a graph. -/
def perform : Operation → Action Session Reply
  | .add call => do return .added (← Session.onGraph call.perform)
  | .attach => do
    modify fun session =>
      { session with accelerators := session.accelerators ++ [.ofGraph session.graph] }
    return .attached
  | .run query number => do
    match (← get).accelerators[number]? with
    | none => return .answered (← Session.onGraph query.runAlone)
    | some accelerator =>
      return .answered
        (← Session.onAccelerator number accelerator (query.run (some Replay.channel)))

/-- A query over a channel changes the graph and the accelerator behind the channel. -/
theorem outcome_run_of_some {session : Session} {accelerator : Replay} {number : Nat}
    (chosen : session.accelerators[number]? = some accelerator) (query : Query) :
    (run query number).perform.outcome session
      = let ran :=
          (query.run (some Replay.channel)).outcome (session.graph, accelerator)
        (ran.1.map .answered,
          ⟨ran.2.1, session.accelerators.set number ran.2.2⟩) := by
  have performed : (run query number).perform.outcome session
      = (Session.onAccelerator number accelerator (query.run (some Replay.channel))
          >>= fun answer => pure (Reply.answered answer)).outcome session := by
    simp only [perform, outcome, get_bind_apply, chosen]
  rw [performed, outcome_map, Session.onAccelerator, outcome_focus]

/-- A query without a channel changes the graph only. -/
theorem outcome_run_of_none {session : Session} {number : Nat}
    (unattached : session.accelerators[number]? = none) (query : Query) :
    (run query number).perform.outcome session
      = let ran := (query.run (κ := Unit) none).outcome (session.graph, ())
        (ran.1.map .answered, { session with graph := ran.2.1 }) := by
  have performed : (run query number).perform.outcome session
      = (Session.onGraph query.runAlone
          >>= fun answer => pure (Reply.answered answer)).outcome session := by
    simp only [perform, outcome, get_bind_apply, unattached]
  rw [performed, outcome_map, Session.onGraph, outcome_focus, Query.runAlone,
    outcome_focus]

/-- Whether an operation is a query. -/
def isRun : Operation → Bool
  | .run _ _ => true
  | .add _ | .attach => false

/-- The edge that an operation has added, given its reply. -/
def added : Operation → Except Fault Reply → List Link
  | .add call, reply => call.added reply
  | .attach, _ | .run _ _, _ => []

end Operation

/-! ## Graphs in use -/

namespace Session

variable {session : Session} {links : List Link}

/-- The graph of a session is one that a program can hold, and its accelerators look at
it and have no word of an unfinished request. -/
structure Upkept (session : Session) (links : List Link) : Prop where
  built : Graph.Built session.graph links
  fresh : ∀ accelerator ∈ session.accelerators,
    accelerator.window = session.graph.arena.deviceWindow ∧ accelerator.request = []

theorem Upkept.add (upkept : session.Upkept links) (call : Call) :
    ∃ reply after, (Operation.add call).perform.outcome session = (reply, after) ∧
      after.Upkept (links ++ call.added reply) := by
  obtain ⟨_, _, _, represents, _⟩ := upkept.built.represents
  obtain ⟨result, after, _, performed, _, _, kin, _⟩ := represents.perform call
  have built := upkept.built.call call
  rw [performed] at built
  refine ⟨result.map .added, ⟨after, session.accelerators⟩, ?_, ?_, ?_⟩
  · rw [Operation.perform, outcome_map, onGraph, outcome_focus, performed]
  · have added_eq : call.added (result.map Reply.added) = call.added result := by
      cases call <;> cases result <;> rfl
    rw [added_eq]
    exact built
  · intro accelerator member
    rw [show after.arena.deviceWindow = _ from congrArg Graph.Site.window kin.site_eq]
    exact upkept.fresh accelerator member

theorem Upkept.attach (upkept : session.Upkept links) :
    ∃ reply after, Operation.attach.perform.outcome session = (reply, after) ∧
      after.Upkept links := by
  refine ⟨_, _, rfl, upkept.built, ?_⟩
  intro accelerator member
  rcases List.mem_append.mp member with old | isNew
  · exact upkept.fresh accelerator old
  · rw [List.mem_singleton.mp isNew]
    exact ⟨rfl, rfl⟩

theorem Upkept.run (upkept : session.Upkept links) (query : Query) (number : Nat) :
    ∃ reply after,
      (Operation.run query number).perform.outcome session = (reply, after) ∧
      after.Upkept links := by
  cases chosen : session.accelerators[number]? with
  | none =>
    obtain ⟨built, sameSite⟩ := upkept.built.attached query (.nothing ())
    refine ⟨_, _, Operation.outcome_run_of_none chosen query, built, ?_⟩
    intro accelerator member
    rw [show Arena.deviceWindow _ = _ from congrArg Graph.Site.window sameSite]
    exact upkept.fresh accelerator member
  | some accelerator =>
    obtain ⟨isWindow, fresh⟩ := upkept.fresh accelerator (List.mem_of_getElem? chosen)
    obtain ⟨built, sameSite⟩ := upkept.built.attached query (.replay isWindow fresh)
    obtain ⟨_, _, _, stores, _⟩ := upkept.built.stores
    obtain ⟨keptWindow, keptFresh⟩ := Prod.mk.inj (stores.replay_run query fresh)
    refine ⟨_, _, Operation.outcome_run_of_some chosen query, built, ?_⟩
    intro other member
    rw [show Arena.deviceWindow _ = _ from congrArg Graph.Site.window sameSite]
    rcases List.mem_or_eq_of_mem_set member with old | rfl
    · exact upkept.fresh other old
    · exact ⟨keptWindow.trans isWindow, keptFresh⟩

/-- Whatever is done with it, a session stays in this state. -/
theorem Upkept.perform (upkept : session.Upkept links) (operation : Operation) :
    ∃ reply after, operation.perform.outcome session = (reply, after) ∧
      after.Upkept (links ++ operation.added reply) := by
  cases operation with
  | add call => exact upkept.add call
  | attach =>
    obtain ⟨reply, after, performed, upkeptAfter⟩ := upkept.attach
    exact ⟨reply, after, performed, by rwa [Operation.added, List.append_nil]⟩
  | run query number =>
    obtain ⟨reply, after, performed, upkeptAfter⟩ := upkept.run query number
    exact ⟨reply, after, performed, by rwa [Operation.added, List.append_nil]⟩

theorem Upkept.performAll (upkept : session.Upkept links) (history : List Operation) :
    ∃ replies after,
      outcomes (history.map Operation.perform) session = (replies, after) ∧
      after.Upkept
        (links ++ (List.zipWith Operation.added history replies).flatten) := by
  induction history generalizing session links with
  | nil => exact ⟨[], session, rfl, by simpa using upkept⟩
  | cons operation rest ih =>
    obtain ⟨reply, between, here, next⟩ := upkept.perform operation
    obtain ⟨replies, after, there, last⟩ := ih next
    refine ⟨reply :: replies, after, outcomes_cons here there, ?_⟩
    simpa only [List.zipWith_cons_cons, List.flatten_cons, List.append_assoc] using last

/-- A graph in use is always one that a program can hold, with the edges of the calls
that succeeded: no query through an accelerator of its own does it harm, be it counted
or not. So whatever is said of such graphs holds at every point of a session. -/
theorem built_of_history {arena : Arena} {config : GraphConfig} {graph : Graph}
    (obtainable : arena.Obtainable) (created : Graph.create arena config = .ok graph)
    (history : List Operation) :
    ∃ replies session,
      outcomes (history.map Operation.perform) ⟨graph, []⟩ = (replies, session) ∧
      Graph.Built session.graph
        (List.zipWith Operation.added history replies).flatten := by
  have fresh : (⟨graph, []⟩ : Session).Upkept [] :=
    ⟨.create obtainable created, fun _ member => absurd member List.not_mem_nil⟩
  obtain ⟨replies, session, performed, upkept⟩ := fresh.performAll history
  exact ⟨replies, session, performed, upkept.built⟩

end Session

/-! ## What replies depend on -/

namespace Graph

variable {graph other : Graph} {layout : Layout} {limits : Multigraph.Limits}
  {content : Multigraph}

/-- Graphs that represent one multigraph at one site have the same bytes to bring up to
date. -/
theorem Represents.syncAll_eq (represents : graph.Represents layout limits content)
    (representsOther : other.Represents layout limits content)
    (same : other.site = graph.site) :
    other.arena.syncAll = graph.arena.syncAll := by
  obtain ⟨_, stores⟩ := represents.stored
  obtain ⟨_, storesOther⟩ := representsOther.stored
  -- what is in use is the tables and as many pages as the multigraph needs
  have used_eq : other.arena.used = graph.arena.used := by
    rw [storesOther.used_eq, stores.used_eq, representsOther.tight, represents.tight,
      ← representsOther.pageLength_eq, represents.pageLength_eq]
  have source_eq : other.arena.backing.source = graph.arena.backing.source :=
    congrArg Site.source same
  funext direction
  cases direction <;>
    simp only [Arena.syncAll, Arena.syncRange, Backing.invalidate, Backing.flush,
      used_eq, source_eq]

end Graph

/-- Accelerators are made alike for graphs at one site. -/
theorem Replay.idle_congr {graph other : Graph} (same : other.site = graph.site) :
    Replay.idle other = Replay.idle graph :=
  congrArg (fun (site : Graph.Site) served =>
    (⟨site.window, site.slots, [], [], served⟩ : Replay)) same

namespace Session

variable {session other : Session}

/-- All that replies depend on: the multigraph, where and under which limits it is
stored, and how many accelerators there are. -/
structure Digest where
  layout : Layout
  limits : Multigraph.Limits
  content : Multigraph
  site : Graph.Site
  attached : Nat

/-- A session that comes down to a digest, with accelerators that have answered at most
the given number of requests each. What searches have left in memory is left open. -/
structure Fits (session : Session) (digest : Digest) (load : Nat) : Prop where
  represents : session.graph.Represents digest.layout digest.limits digest.content
  site_eq : session.graph.site = digest.site
  idle : ∃ served : List Nat, served.length = digest.attached ∧
    (∀ count ∈ served, count ≤ load) ∧
    session.accelerators = served.map (Replay.idle session.graph)

variable {digest : Digest} {load : Nat}

/-- A call gives the same in all sessions with one digest, and leaves them with one
digest again. -/
theorem Fits.add (fits : session.Fits digest load) (call : Call) :
    ∃ reply next, ∀ (other : Session) (load : Nat), other.Fits digest load →
      ∃ after, (Operation.add call).perform.outcome other = (reply, after) ∧
        after.Fits next load := by
  refine ⟨(call.perform.result session.graph).map .added,
    { digest with
      content := ((call.performOn digest.limits).outcome digest.content).2 }, ?_⟩
  intro other load otherFits
  have sameSite : other.graph.site = session.graph.site :=
    otherFits.site_eq.trans fits.site_eq.symm
  have sameResult : call.perform.result other.graph
      = call.perform.result session.graph := by
    rw [otherFits.represents.result_perform, fits.represents.result_perform,
      Graph.nodeOf_eq_of_site sameSite]
  obtain ⟨result, after, next, performed, performedOn, representsAfter, kin, _⟩ :=
    otherFits.represents.perform call
  obtain ⟨served, length_eq, atMost, accelerators_eq⟩ := otherFits.idle
  refine ⟨⟨after, other.accelerators⟩, ?_, ?_, kin.site_eq.trans otherFits.site_eq,
    served, length_eq, atMost, ?_⟩
  · rw [Operation.perform, outcome_map, onGraph, outcome_focus, performed, ← sameResult,
      Action.result, performed]
  · rw [performedOn]
    exact representsAfter
  · rw [accelerators_eq, Replay.idle_congr kin.site_eq]

/-- Making an accelerator leaves sessions with one digest. -/
theorem Fits.attach (fits : session.Fits digest load) :
    ∃ after, Operation.attach.perform.outcome session = (.ok .attached, after) ∧
      after.Fits { digest with attached := digest.attached + 1 } load := by
  obtain ⟨served, length_eq, atMost, accelerators_eq⟩ := fits.idle
  refine ⟨{ session with
      accelerators := session.accelerators ++ [.ofGraph session.graph] },
    rfl, fits.represents, fits.site_eq, served ++ [0], ?_, ?_, ?_⟩
  · rw [List.length_append, length_eq, List.length_singleton]
  · simpa [or_imp, forall_and] using atMost
  · rw [accelerators_eq, List.map_append]
    rfl

/-- An accelerator with the number of a query gives the reply, as long as it can count
it, and the session still has its digest. -/
theorem Fits.run_attached (fits : session.Fits digest load) {query : Query}
    {number : Nat} (attached : number < digest.attached)
    (countable : load + 1 < UInt32.size) {reply : Except Fault Answer}
    (replies : digest.content.Replies (some session.graph.arena.syncAll) query reply) :
    ∃ after,
      (Operation.run query number).perform.outcome session
        = (reply.map .answered, after) ∧
      after.Fits digest (load + 1) := by
  obtain ⟨_, stores⟩ := fits.represents.stored
  obtain ⟨served, length_eq, atMost, accelerators_eq⟩ := fits.idle
  rw [← length_eq] at attached
  have here : session.accelerators[number]?
      = some (Replay.idle session.graph served[number]) := by
    rw [accelerators_eq, List.getElem?_map, List.getElem?_eq_getElem attached,
      Option.map_some]
  have servedSoFar : served[number] ≤ load := atMost _ (List.getElem_mem attached)
  obtain ⟨after, more, onceMore, ran, harmless⟩ :=
    stores.run_attached replies (show served[number] + 1 < UInt32.size by omega)
  obtain ⟨representsAfter, sameSite⟩ :=
    fits.represents.run (congrArg Prod.snd ran) harmless
  refine ⟨⟨after, session.accelerators.set number (Replay.idle session.graph more)⟩, ?_,
    representsAfter, sameSite.trans fits.site_eq, served.set number more, ?_, ?_, ?_⟩
  · rw [Operation.outcome_run_of_some here, ran]
  · rw [List.length_set, length_eq]
  · intro count member
    rcases List.mem_or_eq_of_mem_set member with old | rfl
    · exact Nat.le_succ_of_le (atMost count old)
    · omega
  · rw [accelerators_eq, Replay.idle_congr sameSite, List.map_set]

/-- A query with a number that no accelerator has gets the reply, and the session still
has its digest. -/
theorem Fits.run_unattached (fits : session.Fits digest load) {query : Query}
    {number : Nat} (unattached : digest.attached ≤ number) {reply : Except Fault Answer}
    (replies : digest.content.Replies none query reply) :
    ∃ after,
      (Operation.run query number).perform.outcome session
        = (reply.map .answered, after) ∧
      after.Fits digest (load + 1) := by
  obtain ⟨_, stores⟩ := fits.represents.stored
  obtain ⟨served, length_eq, atMost, accelerators_eq⟩ := fits.idle
  have nowhere : session.accelerators[number]? = none := by
    rwa [accelerators_eq, List.getElem?_eq_none_iff, List.length_map, length_eq]
  obtain ⟨after, ran, harmless⟩ := stores.run_unaided replies none (fun _ => rfl) ()
  obtain ⟨representsAfter, sameSite⟩ :=
    fits.represents.run (congrArg Prod.snd ran) harmless
  refine ⟨⟨after, session.accelerators⟩, ?_, representsAfter,
    sameSite.trans fits.site_eq, served, length_eq,
    fun count member => Nat.le_succ_of_le (atMost count member), ?_⟩
  · rw [Operation.outcome_run_of_none nowhere, ran]
  · rw [accelerators_eq, Replay.idle_congr sameSite]

/-- A query gives the same in all sessions with one digest, and leaves them with that
digest. -/
theorem Fits.run (fits : session.Fits digest load) (query : Query) (number : Nat) :
    ∃ reply, ∀ (other : Session) (load : Nat), other.Fits digest load →
      load + 1 < UInt32.size →
      ∃ after, (Operation.run query number).perform.outcome other = (reply, after) ∧
        after.Fits digest (load + 1) := by
  obtain ⟨_, stores⟩ := fits.represents.stored
  by_cases attached : number < digest.attached
  · obtain ⟨reply, replies⟩ :=
      stores.exists_reply (some session.graph.arena.syncAll) query
    refine ⟨reply.map .answered, fun other load otherFits countable =>
      otherFits.run_attached attached countable ?_⟩
    rwa [fits.represents.syncAll_eq otherFits.represents
      (otherFits.site_eq.trans fits.site_eq.symm)]
  · obtain ⟨reply, replies⟩ := stores.exists_reply none query
    exact ⟨_, fun other load otherFits _ =>
      otherFits.run_unattached (Nat.not_lt.mp attached) replies⟩

/-- Any operation gives the same in all sessions with one digest and leaves them with
one digest again, which a query does not change. -/
theorem Fits.perform (fits : session.Fits digest load) (operation : Operation) :
    ∃ reply next, (operation.isRun = true → next = digest) ∧
      ∀ (other : Session) (load : Nat), other.Fits digest load →
        load + operation.isRun.toNat < UInt32.size →
        ∃ after, operation.perform.outcome other = (reply, after) ∧
          after.Fits next (load + operation.isRun.toNat) := by
  cases operation with
  | add call =>
    obtain ⟨reply, next, alike⟩ := fits.add call
    exact ⟨reply, next, fun isRun => absurd isRun Bool.false_ne_true,
      fun other load otherFits _ => alike other load otherFits⟩
  | attach =>
    exact ⟨_, _, fun isRun => absurd isRun Bool.false_ne_true,
      fun other load otherFits _ => otherFits.attach⟩
  | run query number =>
    obtain ⟨reply, alike⟩ := fits.run query number
    exact ⟨reply, digest, fun _ => rfl, alike⟩

/-- Two sessions with one digest have one digest after a history, even if one of them
leaves out all of its queries. -/
theorem Fits.performAll (fits : session.Fits digest load) {otherLoad : Nat}
    (otherFits : other.Fits digest otherLoad) (history : List Operation)
    (few : load + history.countP Operation.isRun < UInt32.size)
    (otherFew : otherLoad < UInt32.size) :
    ∃ next,
      (outcomes (history.map Operation.perform) session).2.Fits next
        (load + history.countP Operation.isRun) ∧
      (outcomes ((history.filter (!·.isRun)).map Operation.perform) other).2.Fits next
        otherLoad := by
  induction history generalizing session other digest load with
  | nil => exact ⟨digest, fits, otherFits⟩
  | cons operation rest ih =>
    obtain ⟨reply, next, unchanged, alike⟩ := fits.perform operation
    by_cases isRun : operation.isRun = true
    · -- the other session leaves the query out, and this one has the same digest after
      -- it
      obtain rfl := unchanged isRun
      rw [List.countP_cons_of_pos isRun, Nat.add_comm _ 1, ← Nat.add_assoc] at few ⊢
      rw [isRun] at alike
      obtain ⟨after, performed, fitsAfter⟩ := alike session load fits
        (show load + 1 < UInt32.size by omega)
      simp only [List.map_cons, outcomes, performed, List.filter_cons, isRun,
        Bool.not_true, Bool.false_eq_true, if_false]
      exact ih fitsAfter otherFits few
    · have adds : operation.isRun = false := Bool.eq_false_iff.mpr isRun
      rw [List.countP_cons_of_neg isRun] at few ⊢
      rw [adds] at alike
      obtain ⟨after, performed, fitsAfter⟩ := alike session load fits
        (show load < UInt32.size by omega)
      obtain ⟨otherAfter, otherPerformed, otherFitsAfter⟩ :=
        alike other otherLoad otherFits otherFew
      simp only [List.map_cons, outcomes, performed, List.filter_cons, adds,
        Bool.not_false, if_true, otherPerformed]
      exact ih fitsAfter otherFitsAfter few

end Session

end ArenaPaths
