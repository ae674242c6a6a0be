import ArenaPaths.Proofs.Delegation

/-!
# Replies

The reply to a query is told by the multigraph that a graph represents, whatever records
and frontier still hold of earlier searches, and wherever the graph stands. Only a query
for the accelerator depends on more: on whether there is one, and on whether the bytes
can be brought up to date for it.
-/

namespace ArenaPaths

open ArenaPaths.Action

namespace Multigraph

/-- The reply to a query on a multigraph. If there is an accelerator, `sync?` is how the
bytes are brought up to date for it. -/
def Replies (content : Multigraph)
    (sync? : Option (Arena.Direction → Except Fault Unit)) (query : Query)
    (reply : Except Fault Answer) : Prop :=
  if query.start ∈ content.ids ∧ query.goal ∈ content.ids then
    ∃ outcome route final, content.Finds query.start query.goal outcome route final ∧
      reply =
        if query.mode = .delegated then
          match sync? with
          | none => .error (.configuration .missingChannel)
          | some sync => do
            sync .toDevice
            sync .fromDevice
            return { query, outcome, route,
                     cycles := some final.settled.length.toUInt32 }
        else .ok { query, outcome, route, steps := some final.settled.length }
  else reply = .ok { query, outcome := .exhausted }

/-- The reply of the host does not depend on an accelerator. -/
theorem Replies.of_host {content : Multigraph}
    {sync? : Option (Arena.Direction → Except Fault Unit)} {query : Query}
    {reply : Except Fault Answer} (replies : content.Replies sync? query reply)
    (byHost : query.mode ≠ .delegated) :
    content.Replies none query reply := by
  simp only [Replies, if_neg byHost] at replies ⊢
  exact replies

end Multigraph

namespace Graph

variable {graph after : Graph} {layout : Layout} {pages : Nat → List Nat}
  {limits : Multigraph.Limits} {content : Multigraph} {query : Query}
  {reply : Except Fault Answer} {κ : Type}

/-- There is a reply to every query. -/
theorem Stores.exists_reply (stores : graph.Stores layout pages content)
    (sync? : Option (Arena.Direction → Except Fault Unit)) (query : Query) :
    ∃ reply, content.Replies sync? query reply := by
  by_cases present : query.start ∈ content.ids ∧ query.goal ∈ content.ids
  · obtain ⟨outcome, route, final, finds⟩ : ∃ outcome route final,
        content.Finds query.start query.goal outcome route final :=
          stores.exists_finds present.1
    simp only [Multigraph.Replies, if_pos present]
    exact ⟨_, outcome, route, final, finds, rfl⟩
  · simp only [Multigraph.Replies, if_neg present]
    exact ⟨_, rfl⟩

/-- The host gives the reply, and so does a query for the accelerator if there is
none. -/
theorem Stores.run_unaided (stores : graph.Stores layout pages content)
    (replies : content.Replies none query reply)
    (channel? : Option (Channel (κ × Memory)))
    (unaided : query.mode = .delegated → channel? = none) (device : κ) :
    ∃ after, (query.run channel?).outcome (graph, device) = (reply, (after, device)) ∧
      (query.mode = .delegated →
        Memory.SameExcept graph.SearchState graph.memory after.memory) := by
  by_cases present : query.start ∈ content.ids ∧ query.goal ∈ content.ids
  · rw [Multigraph.Replies, if_pos present] at replies
    obtain ⟨outcome, route, final, finds, rfl⟩ := replies
    by_cases delegated : query.mode = .delegated
    · obtain ⟨memory, reset, same, _, links⟩ := stores.resetSearch_eq
      have failed : query.run channel? (graph, device)
          = .error (.configuration .missingChannel)
            (graph.withSearch memory 0, device) := by
        simp only [Query.run, bind_ok (onFirst_eq_ok (stores.find_of_mem present.1)),
          bind_ok (onFirst_eq_ok (stores.find_of_mem present.2)),
          bind_ok (onFirst_eq_ok reset), delegated,
          Query.runDelegated, unaided delegated, throw_apply]
      rw [if_pos delegated, outcome_of_error failed]
      exact ⟨_, rfl, fun _ => stores.sameExcept_searchState same links⟩
    · obtain ⟨after, answered, _⟩ :=
        stores.run_software query present.1 present.2 finds delegated channel? device
      rw [if_neg delegated, outcome_of_ok answered]
      exact ⟨after, rfl, fun isDelegated => absurd isDelegated delegated⟩
  · rw [Multigraph.Replies, if_neg present] at replies
    rw [replies, outcome_of_ok
      (stores.run_of_not_mem query (not_and_or.mp present) channel? device)]
    exact ⟨graph, rfl, fun _ => .refl _⟩

/-- An idle accelerator gives the reply and is idle again, as long as it can count one
more request. -/
theorem Stores.run_attached (stores : graph.Stores layout pages content)
    (replies : content.Replies (some graph.arena.syncAll) query reply) {served : Nat}
    (countable : served + 1 < UInt32.size) :
    ∃ after more, more ≤ served + 1 ∧
      (query.run (some Replay.channel)).outcome (graph, Replay.idle graph served)
        = (reply, (after, Replay.idle graph more)) ∧
      (query.mode = .delegated →
        Memory.SameExcept graph.SearchState graph.memory after.memory) := by
  by_cases delegated : query.mode = .delegated
  case neg =>
    obtain ⟨after, ran, harmless⟩ := stores.run_unaided (replies.of_host delegated)
      (some Replay.channel) (fun isDelegated => absurd isDelegated delegated)
      (Replay.idle graph served)
    exact ⟨after, served, Nat.le_succ served, ran, harmless⟩
  by_cases present : query.start ∈ content.ids ∧ query.goal ∈ content.ids
  · rw [Multigraph.Replies, if_pos present] at replies
    obtain ⟨outcome, route, final, finds, rfl⟩ := replies
    obtain ⟨cleared, after, sameCleared, searched, ran⟩ :=
      stores.run_delegated query delegated present.1 present.2 finds countable
    have sameAfter := stores.sameExcept_searchState searched.same
      fun _ inside => searched.firstPage_eq inside
    simp only [if_pos delegated]
    cases toDevice : graph.arena.syncAll .toDevice with
    | error fault =>
      rw [toDevice] at ran
      exact ⟨cleared, served, Nat.le_succ served, outcome_of_error ran,
        fun _ => sameCleared⟩
    | ok =>
      cases fromDevice : graph.arena.syncAll .fromDevice with
      | error fault =>
        rw [toDevice, fromDevice] at ran
        exact ⟨after, served + 1, Nat.le_refl _, outcome_of_error ran,
          fun _ => sameAfter⟩
      | ok =>
        rw [toDevice, fromDevice] at ran
        exact ⟨after, served + 1, Nat.le_refl _, outcome_of_ok ran, fun _ => sameAfter⟩
  · rw [Multigraph.Replies, if_neg present] at replies
    rw [replies,
      outcome_of_ok (stores.run_of_not_mem query (not_and_or.mp present) _ _)]
    exact ⟨graph, served, Nat.le_succ served, rfl, fun _ => .refl _⟩

end Graph

end ArenaPaths
