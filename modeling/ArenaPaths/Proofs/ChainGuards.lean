import ArenaPaths.Proofs.PageScans

/-!
# Guards of chains

Records that refer to a next one make a chain, and bytes that were written over can bend
it into a circle. Three walks of the host go along such chains: it looks for the last
page of a node, lists the edges of a node, and looks up an id. Each counts down from a
number that is in the graph and not in the bytes. So each of them ends, after at most
one load more than there are pages or entries. It calls a chain endless exactly if it
has passed all of these and there is one more; for pages the two walks agree on that. A
circle is always noticed, and what the graph itself has built is never taken for one.

Main statement: `Graph.chain_guards_agree`.
-/

namespace ArenaPaths

open ArenaPaths.Action

/-! ## Chains of words -/

section Chains

variable {next? : UInt32 → Option UInt32} {first word next : UInt32}
  {count few many : Nat}

/-- The members of the chain from a word on, up to so many of them, and each as often as
the chain comes to it. The chain ends at null, and behind a member that does not tell
the next one. -/
def members (next? : UInt32 → Option UInt32) : Nat → UInt32 → List UInt32
  | 0, _ => []
  | count + 1, word =>
    if word = nullAddress then []
    else word :: (next? word).elim [] (members next? count)

/-- The chain from a word on has at least so many members. -/
def AtLeast (next? : UInt32 → Option UInt32) (count : Nat) (first : UInt32) : Prop :=
  (members next? count first).length = count

/-- The first members of a chain tell what comes next. -/
def Readable (next? : UInt32 → Option UInt32) (count : Nat) (first : UInt32) : Prop :=
  ∀ word ∈ members next? count first, (next? word).isSome

/-- The chain from a word on comes to a member again. -/
def Cyclic (next? : UInt32 → Option UInt32) (first : UInt32) : Prop :=
  ∃ count, ¬ (members next? count first).Nodup

theorem members_null (count : Nat) : members next? count nullAddress = [] := by
  cases count with
  | zero => rfl
  | succ count => exact if_pos rfl

theorem members_succ (present : word ≠ nullAddress) (follows : next? word = some next) :
    members next? (count + 1) word = word :: members next? count next := by
  rw [members, if_neg present, follows]
  rfl

theorem length_members_le (count : Nat) (first : UInt32) :
    (members next? count first).length ≤ count := by
  induction count generalizing first with
  | zero => exact Nat.le_refl 0
  | succ count ih =>
    rw [members]
    split
    · exact Nat.zero_le _
    · cases next? first with
      | none => exact Nat.succ_le_succ (Nat.zero_le _)
      | some next => exact Nat.succ_le_succ (ih next)

/-- Looking at fewer members is stopping earlier. -/
theorem members_eq_take (fewer : few ≤ many) (first : UInt32) :
    members next? few first = (members next? many first).take few := by
  induction few generalizing many first with
  | zero => rfl
  | succ few ih =>
    obtain ⟨more, rfl⟩ : ∃ more, many = more + 1 := ⟨many - 1, by omega⟩
    rw [members, members]
    split
    · rfl
    · rw [List.take_succ_cons]
      cases next? first with
      | none => simp
      | some next =>
        exact congrArg (first :: ·) (ih (Nat.le_of_succ_le_succ fewer) next)

theorem AtLeast.mono (many_le : AtLeast next? many first) (fewer : few ≤ many) :
    AtLeast next? few first := by
  rw [AtLeast, members_eq_take fewer, List.length_take, many_le]
  exact Nat.min_eq_left fewer

theorem not_atLeast_null (count : Nat) : ¬ AtLeast next? (count + 1) nullAddress := by
  rw [AtLeast, members_null]
  exact (Nat.succ_ne_zero count).symm

theorem atLeast_one (present : first ≠ nullAddress) : AtLeast next? 1 first := by
  rw [AtLeast, members, if_neg present]
  cases next? first <;> rfl

theorem atLeast_succ_iff (present : first ≠ nullAddress)
    (follows : next? first = some next) :
    AtLeast next? (count + 1) first ↔ AtLeast next? count next := by
  rw [AtLeast, AtLeast, members_succ present follows, List.length_cons, Nat.succ_inj]

theorem Readable.exists_next (readable : Readable next? (count + 1) first)
    (present : first ≠ nullAddress) :
    ∃ next, next? first = some next ∧ Readable next? count next := by
  have isMember : first ∈ members next? (count + 1) first := by
    rw [members, if_neg present]
    exact List.mem_cons_self
  obtain ⟨next, follows⟩ := Option.isSome_iff_exists.mp (readable first isMember)
  refine ⟨next, follows, fun word member => readable word ?_⟩
  rw [members_succ present follows]
  exact List.mem_cons_of_mem _ member

/-! ### Circles -/

/-- From a member on, the chain goes as from the first one. -/
theorem members_length_add {before rest : List UInt32}
    (split : members next? count first = before ++ word :: rest) (more : Nat) :
    members next? (before.length + more) first = before ++ members next? more word := by
  induction before generalizing count first with
  | nil =>
    cases count with
    | zero => cases split
    | succ count =>
      rw [members] at split
      split at split
      · cases split
      · cases split
        rw [List.length_nil, Nat.zero_add]
        rfl
  | cons member before ih =>
    cases count with
    | zero => cases split
    | succ count =>
      rw [members] at split
      split at split
      · cases split
      · rename_i present
        cases follows : next? first with
        | none =>
          rw [follows] at split
          exact absurd (List.cons.inj split).2.symm (by simp)
        | some next =>
          rw [follows] at split
          obtain ⟨rfl, behind⟩ := List.cons.inj split
          rw [List.length_cons, Nat.add_right_comm, members_succ present follows,
            ih behind, List.cons_append]

/-- A list that is not free of repetitions has a word at two places. -/
theorem exists_split_of_not_nodup {words : List UInt32} (repeated : ¬ words.Nodup) :
    ∃ before between rest word,
      words = before ++ word :: (between ++ word :: rest) := by
  simp only [List.nodup_iff_sublist, not_forall, not_not] at repeated
  obtain ⟨word, twice⟩ := repeated
  obtain ⟨front, back, rfl, inFront, inBack⟩ := List.cons_sublist_iff.mp twice
  obtain ⟨before, middle, rfl⟩ := List.append_of_mem inFront
  obtain ⟨following, rest, rfl⟩ := List.append_of_mem (List.singleton_sublist.mp inBack)
  exact ⟨before, middle ++ following, rest, word, by simp⟩

/-- A chain that comes to a member again never ends. -/
theorem Cyclic.atLeast (cyclic : Cyclic next? first) (count : Nat) :
    AtLeast next? count first := by
  obtain ⟨seen, repeated⟩ := cyclic
  obtain ⟨before, between, rest, word, seen_eq⟩ := exists_split_of_not_nodup repeated
  have again : members next? seen first
      = (before ++ word :: between) ++ word :: rest := by
    rw [seen_eq, List.append_assoc, List.cons_append]
  have toWord := members_length_add seen_eq
  have round (more : Nat) :
      members next? (between.length + 1 + more) word
        = (word :: between) ++ members next? more word := by
    have same := members_length_add again more
    rw [List.length_append, Nat.add_assoc, List.length_cons, toWord,
      List.append_assoc] at same
    exact List.append_cancel_left same
  have rounds (times : Nat) : AtLeast next? (times * (between.length + 1)) word := by
    induction times with
    | zero =>
      rw [Nat.zero_mul]
      rfl
    | succ times ih =>
      rw [AtLeast, Nat.succ_mul, Nat.add_comm, round, List.length_append,
        List.length_cons, ih]
  have fromFirst :
      AtLeast next? (before.length + count * (between.length + 1)) first := by
    rw [AtLeast, toWord, List.length_append, rounds count]
  refine fromFirst.mono ?_
  calc count
      ≤ count * (between.length + 1) := Nat.le_mul_of_pos_right count (Nat.succ_pos _)
    _ ≤ before.length + count * (between.length + 1) := Nat.le_add_left _ _

end Chains

/-! ## Walks and what they load -/

section Walks

variable {ρ α β : Type}

/-- A step that loads records by address, on any state. -/
abbrev Loading (ρ α : Type) := (σ : Type) → (UInt32 → Action σ ρ) → Action σ α

/-- Load a record and put its address behind those that were loaded before. -/
def noting {σ : Type} (load : UInt32 → Action σ ρ) (address : UInt32) :
    Action (σ × List UInt32) ρ := do
  onSecond (modify (· ++ [address]))
  onFirst (load address)

/-- A step that loads what is shown ends with the given result and has then loaded from
the given addresses in turn, whatever the state is that the loads go along. -/
def Ends (shown? : UInt32 → Option ρ) (step : Loading ρ α) (result : Except Fault α)
    (loaded : List UInt32) : Prop :=
  ∀ (σ : Type) (load : UInt32 → Action σ ρ) (stateAfter : List UInt32 → σ),
    (∀ log address record, shown? address = some record →
      load address (stateAfter log) = .ok record (stateAfter (log ++ [address]))) →
    ∀ log, (step σ load).outcome (stateAfter log) = (result, stateAfter (log ++ loaded))

namespace Ends

variable {shown? : UInt32 → Option ρ} {address : UInt32} {record : ρ}
  {loaded : List UInt32} {result : Except Fault α}

theorem pure (value : α) : Ends shown? (fun _ _ => Pure.pure value) (.ok value) [] := by
  intro σ load stateAfter loads log
  rw [List.append_nil]
  rfl

theorem throw (fault : Fault) :
    Ends (α := α) shown? (fun _ _ => MonadExcept.throw fault) (.error fault) [] := by
  intro σ load stateAfter loads log
  rw [List.append_nil]
  rfl

/-- A load comes in front of what is loaded after it. -/
theorem load_bind {next : ρ → Loading ρ α} (shown : shown? address = some record)
    (ends : Ends shown? (next record) result loaded) :
    Ends shown? (fun σ load => load address >>= fun record => next record σ load) result
      (address :: loaded) := by
  intro σ load stateAfter loads log
  rw [outcome_bind_ok (loads log address record shown), ends σ load stateAfter loads,
    List.append_assoc]
  rfl

/-- What is made of the value of a step loads nothing. -/
theorem map {step : Loading ρ β} {result : Except Fault β}
    (ends : Ends shown? step result loaded) (change : β → α) :
    Ends shown? (fun σ load => step σ load >>= fun value => Pure.pure (change value))
      (result.map change) loaded := by
  intro σ load stateAfter loads log
  rw [outcome_map, ends σ load stateAfter loads]

/-- A state that does not change is gone along, and so is a list of what is loaded. -/
theorem outcome_eq {σ : Type} {step : Loading ρ α}
    (ends : Ends shown? step result loaded) {load : UInt32 → Action σ ρ} {state : σ}
    (loads : ∀ address record, shown? address = some record →
      load address state = .ok record state) :
    (step σ load).outcome state = (result, state) ∧
      (step (σ × List UInt32) (noting load)).outcome (state, [])
        = (result, state, loaded) := by
  constructor
  · exact ends σ load (fun _ => state) (fun _ => loads) []
  · refine ends (σ × List UInt32) (noting load) (fun log => (state, log)) ?_ []
    intro log address record shown
    exact onFirst_eq_ok (loads address record shown)

end Ends

/-! ### Guards -/

/-- Where a chain of records goes on behind a word. -/
def chainOf (shown? : UInt32 → Option ρ) (behind : ρ → UInt32) (word : UInt32) :
    Option UInt32 :=
  (shown? word).map behind

/-- A walk passes the records at the given words. -/
def Passes (shown? : UInt32 → Option ρ) (passes : ρ → Prop)
    (words : List UInt32) : Prop :=
  ∀ word ∈ words, ∀ record, shown? word = some record → passes record

/-- How a walk judges a chain, of which it loads at most so many members: it calls the
chain endless exactly if it passes all of these and there is one more, and it returns if
it passes all of them and there is none more. -/
structure Judges (shown? : UInt32 → Option ρ) (behind : ρ → UInt32) (passes : ρ → Prop)
    (endless : Corruption) (remaining : Nat) (word : UInt32)
    (result : Except Fault α) : Prop where
  endless_iff : (∃ address, result = .error (.corrupt address endless)) ↔
    Passes shown? passes (members (chainOf shown? behind) remaining word) ∧
      AtLeast (chainOf shown? behind) (remaining + 1) word
  returns : Passes shown? passes (members (chainOf shown? behind) remaining word) →
    ¬ AtLeast (chainOf shown? behind) (remaining + 1) word → ∃ value, result = .ok value

/-- A walk loads members of a chain in turn, at most so many, and judges it. -/
def Guarded (shown? : UInt32 → Option ρ) (behind : ρ → UInt32) (passes : ρ → Prop)
    (endless : Corruption) (step : Loading ρ α) (remaining : Nat)
    (word : UInt32) : Prop :=
  ∃ result loaded, Ends shown? step result loaded ∧
    loaded <+: members (chainOf shown? behind) remaining word ∧
    Judges shown? behind passes endless remaining word result

namespace Guarded

variable {shown? : UInt32 → Option ρ} {behind : ρ → UInt32} {passes : ρ → Prop}
  {endless : Corruption} {remaining : Nat} {word : UInt32} {record : ρ}

/-- At the end of the chain the walk returns. -/
theorem null (value : α) : Guarded shown? behind passes endless
    (fun _ _ => pure value) remaining nullAddress := by
  refine ⟨_, [], .pure value, List.nil_prefix, ⟨?_, fun _ _ => ⟨value, rfl⟩⟩⟩
  constructor
  · rintro ⟨_, ⟨⟩⟩
  · rintro ⟨_, long⟩
    exact absurd long (not_atLeast_null _)

/-- A member that may not be loaded any more makes the chain endless. -/
theorem throw (present : word ≠ nullAddress) (address : Nat) :
    Guarded (α := α) shown? behind passes endless
      (fun _ _ => MonadExcept.throw (.corrupt address endless)) 0 word := by
  refine ⟨_, [], .throw _, List.nil_prefix,
    ⟨?_, fun _ short => absurd (atLeast_one present) short⟩⟩
  exact ⟨fun _ => ⟨fun _ member => absurd member List.not_mem_nil, atLeast_one present⟩,
    fun _ => ⟨address, rfl⟩⟩

theorem members_eq (present : word ≠ nullAddress) (shown : shown? word = some record) :
    members (chainOf shown? behind) (remaining + 1) word
      = word :: members (chainOf shown? behind) remaining (behind record) :=
  members_succ present (congrArg (Option.map behind) shown)

theorem atLeast_iff (present : word ≠ nullAddress) (shown : shown? word = some record) :
    AtLeast (chainOf shown? behind) (remaining + 1) word ↔
    AtLeast (chainOf shown? behind) remaining (behind record) :=
  atLeast_succ_iff present (congrArg (Option.map behind) shown)

theorem passes_cons_iff (shown : shown? word = some record) {words : List UInt32} :
    Passes shown? passes (word :: words) ↔ passes record ∧
    Passes shown? passes words := by
  simp only [Passes, List.forall_mem_cons, shown, Option.some.injEq, forall_eq']

/-- A member that is passed leaves the judgement to the walk behind it. -/
theorem load {next : ρ → Loading ρ α} (present : word ≠ nullAddress)
    (shown : shown? word = some record) (passed : passes record)
    (guarded : Guarded shown? behind passes endless (next record) remaining
      (behind record)) :
    Guarded shown? behind passes endless
      (fun σ load => load word >>= fun record => next record σ load) (remaining + 1)
      word := by
  obtain ⟨result, loaded, ends, isPrefix, judges⟩ := guarded
  refine ⟨result, word :: loaded, .load_bind shown ends, ?_, ⟨?_, ?_⟩⟩
  · rw [members_eq present shown]
    exact List.cons_prefix_cons.mpr ⟨rfl, isPrefix⟩
  · rw [members_eq present shown, passes_cons_iff shown, atLeast_iff present shown,
      judges.endless_iff]
    exact and_congr_left fun _ => (and_iff_right passed).symm
  · rw [members_eq present shown, passes_cons_iff shown, atLeast_iff present shown]
    exact fun all => judges.returns all.2

/-- A member that is not passed ends the walk, and not because the chain is endless. -/
theorem stop {next : ρ → Loading ρ α} (result : Except Fault α)
    (present : word ≠ nullAddress) (shown : shown? word = some record)
    (notPassed : ¬ passes record) (ends : Ends shown? (next record) result [])
    (harmless : ∀ address, result ≠ .error (.corrupt address endless)) :
    Guarded shown? behind passes endless
      (fun σ load => load word >>= fun record => next record σ load) (remaining + 1)
      word := by
  have notAll : ¬ Passes shown? passes
      (members (chainOf shown? behind) (remaining + 1) word) := by
    rw [members_eq present shown, passes_cons_iff shown]
    exact fun all => notPassed all.1
  refine ⟨result, [word], .load_bind shown ends, ?_, ⟨?_, fun all => absurd all notAll⟩⟩
  · rw [members_eq present shown]
    exact List.cons_prefix_cons.mpr ⟨rfl, List.nil_prefix⟩
  · exact ⟨fun ⟨address, called⟩ => absurd called (harmless address),
      fun all => absurd all.1 notAll⟩

/-- What is made of the value of a walk does not change the judgement. -/
theorem map {step : Loading ρ β}
    (guarded : Guarded shown? behind passes endless step remaining word)
    (change : β → α) :
    Guarded shown? behind passes endless
      (fun σ load => step σ load >>= fun value => pure (change value)) remaining
      word := by
  obtain ⟨result, loaded, ends, isPrefix, judges⟩ := guarded
  refine ⟨_, loaded, ends.map change, isPrefix, ⟨?_, ?_⟩⟩
  · rw [← judges.endless_iff]
    cases result <;> simp [Except.map]
  · intro all short
    obtain ⟨value, rfl⟩ := judges.returns all short
    exact ⟨change value, rfl⟩

end Guarded

end Walks

/-! ## Walks along pages -/

theorem PageRef.address_of_ofWord? {word : UInt32} {page : PageRef}
    (refers : PageRef.ofWord? word = some page) :
    page.address = word := by
  rw [ofWord?] at refers
  split at refers
  · cases refers
    rfl
  · cases refers

section Pages

variable {shown? : UInt32 → Option Page} {word : UInt32} {remaining : Nat}

/-- Every edge that a page claims has a target. -/
def Page.Targeted (record : Page) : Prop :=
  ∀ edge ∈ record.claimed, edge.target ≠ nullAddress

/-- Look for the last page of a chain. -/
def findLast (first : PageRef) : Nat → PageRef → Loading Page PageRef
  | 0, _ => fun _ _ => throw (.corrupt first.address.toNat .endlessPageChain)
  | remaining + 1, current => fun σ load => do
    let record ← load current.address
    match PageRef.ofWord? record.next with
    | some next => findLast first remaining next σ load
    | none => return current

/-- List the arcs on a chain of pages. -/
def listArcs : Nat → UInt32 → Loading Page (List Arc)
  | remaining, next => fun σ load =>
    match PageRef.ofWord? next with
    | none => return []
    | some page =>
      match remaining with
      | 0 => throw (.corrupt page.address.toNat .endlessPageChain)
      | remaining + 1 => do
        let record ← load page.address
        let arcs ← Graph.pageArcs page record
        let rest ← listArcs remaining record.next σ load
        return arcs ++ rest

theorem Readable.exists_record {ρ : Type} {shown? : UInt32 → Option ρ}
    {behind : ρ → UInt32}
    (readable : Readable (chainOf shown? behind) (remaining + 1) word)
    (present : word ≠ nullAddress) :
    ∃ record, shown? word = some record ∧
      Readable (chainOf shown? behind) remaining (behind record) := by
  obtain ⟨next, follows, readableNext⟩ := readable.exists_next present
  obtain ⟨record, shown, rfl⟩ := Option.map_eq_some_iff.mp follows
  exact ⟨record, shown, readableNext⟩

/-- Whatever pages claim, they are passed on the way to the last one. -/
theorem findLast_guarded (first current : PageRef)
    (readable : Readable (chainOf shown? Page.next) remaining current.address) :
    Guarded shown? Page.next (fun _ => True) .endlessPageChain
      (findLast first remaining current) remaining
      current.address := by
  induction remaining generalizing current with
  | zero => exact .throw current.ne_null first.address.toNat
  | succ remaining ih =>
    obtain ⟨record, shown, readableNext⟩ := readable.exists_record current.ne_null
    refine .load current.ne_null shown trivial ?_
    by_cases isLast : record.next = nullAddress
    · rw [isLast]
      exact .null current
    · rw [PageRef.ofWord?_of_ne isLast]
      exact ih ⟨record.next, isLast⟩ readableNext

/-- A page is passed by the listing if its edges have targets. -/
theorem listArcs_guarded
    (readable : Readable (chainOf shown? Page.next) remaining word) :
    Guarded shown? Page.next Page.Targeted .endlessPageChain
      (listArcs remaining word) remaining word := by
  induction remaining generalizing word with
  | zero =>
    rw [listArcs]
    by_cases present : word = nullAddress
    · rw [present]
      exact .null []
    · rw [PageRef.ofWord?_of_ne present]
      exact .throw present word.toNat
  | succ remaining ih =>
    rw [listArcs]
    by_cases present : word = nullAddress
    · rw [present]
      exact .null []
    obtain ⟨record, shown, readableNext⟩ := readable.exists_record present
    rw [PageRef.ofWord?_of_ne present]
    by_cases targeted : record.Targeted
    · obtain ⟨here, here_eq⟩ := exists_map_edge_eq targeted
      refine .load present shown targeted ?_
      rw [Graph.pageArcs_eq_ok _ here_eq]
      exact (ih readableNext).map (here ++ ·)
    · obtain ⟨edge, member, isNull⟩ : ∃ edge ∈ record.claimed,
          edge.target = nullAddress := by
        simpa [Page.Targeted] using targeted
      refine .stop (.error (.corrupt word.toNat .edgeWithoutTarget)) present shown
        targeted ?_ (by simp)
      rw [Graph.pageArcs_eq_error _ ⟨edge, member, isNull⟩]
      exact .throw _

end Pages

/-! ## The walk along entries -/

/-- Follow a chain of entries. -/
def followEntries (id : UInt32) : Nat → UInt32 → Loading Entry (Option NodeRef)
  | 0, entry => fun _ _ =>
    if entry = nullAddress then return none
    else throw (.corrupt entry.toNat .endlessIndexChain)
  | remaining + 1, entry => fun σ load => do
    if entry = nullAddress then return none
    let record ← load entry
    if record.id = id then return NodeRef.ofWord? record.node
    followEntries id remaining record.next σ load

/-- An entry is passed if it is of another id. -/
theorem followEntries_guarded {shown? : UInt32 → Option Entry} {remaining : Nat}
    {word : UInt32} (id : UInt32)
    (readable : Readable (chainOf shown? Entry.next) remaining word) :
    Guarded shown? Entry.next (·.id ≠ id) .endlessIndexChain
      (followEntries id remaining word) remaining word := by
  induction remaining generalizing word with
  | zero =>
    rw [followEntries]
    by_cases present : word = nullAddress
    · simp only [if_pos present]
      rw [present]
      exact .null none
    · simp only [if_neg present]
      exact .throw present word.toNat
  | succ remaining ih =>
    rw [followEntries]
    by_cases present : word = nullAddress
    · simp only [if_pos present]
      rw [present]
      exact .null none
    simp only [if_neg present]
    obtain ⟨record, shown, readableNext⟩ := readable.exists_record present
    by_cases isOther : record.id ≠ id
    · refine .load present shown isOther ?_
      simp only [if_neg isOther]
      exact ih readableNext
    · refine .stop (.ok (NodeRef.ofWord? record.node)) present shown isOther ?_
        (by simp)
      simp only [if_pos (not_not.mp isOther)]
      exact .pure _

/-! ## The walks of the host -/

/-- A step that is a walk keeps to a guard: it loads at most one member of the chain
more than there are records, changes nothing, and judges the chain by what it loads. A
circle that it passes is noticed. What is loaded is told by the same walk with a list of
the addresses. -/
structure KeepsGuard {σ ρ α : Type} (step : Action σ α) (walk : Loading ρ α)
    (load : UInt32 → Action σ ρ) (state : σ) (shown? : UInt32 → Option ρ)
    (behind : ρ → UInt32) (passes : ρ → Prop) (endless : Corruption) (records : Nat)
    (first : UInt32) : Prop where
  walks : step.outcome state = (walk σ load).outcome state
  loads : ∃ loaded, loaded.length ≤ records + 1 ∧
    loaded <+: members (chainOf shown? behind) (records + 1) first ∧
    (walk (σ × List UInt32) (noting load)).outcome (state, [])
      = (step.result state, state, loaded)
  unchanged : (step.outcome state).2 = state
  judges : Judges shown? behind passes endless (records + 1) first (step.result state)
  circle : Cyclic (chainOf shown? behind) first →
    Passes shown? passes (members (chainOf shown? behind) (records + 1) first) →
    ∃ address, step.result state = .error (.corrupt address endless)

theorem Guarded.keepsGuard {σ ρ α : Type} {shown? : UInt32 → Option ρ}
    {behind : ρ → UInt32} {passes : ρ → Prop} {endless : Corruption}
    {walk : Loading ρ α} {records : Nat} {first : UInt32}
    (guarded : Guarded shown? behind passes endless walk (records + 1) first)
    {load : UInt32 → Action σ ρ} {state : σ}
    (loads : ∀ address record, shown? address = some record →
      load address state = .ok record state)
    {step : Action σ α} (walks : step.outcome state = (walk σ load).outcome state) :
    KeepsGuard step walk load state shown? behind passes endless records first := by
  obtain ⟨result, loaded, ends, isPrefix, judges⟩ := guarded
  obtain ⟨plain, withNotes⟩ := ends.outcome_eq loads
  have result_eq : step.result state = result := by
    rw [Action.result, walks, plain]
  constructor
  case walks => exact walks
  case loads =>
    refine ⟨loaded, Nat.le_trans isPrefix.length_le (length_members_le _ _), isPrefix,
      ?_⟩
    rw [withNotes, result_eq]
  case unchanged => rw [walks, plain]
  case judges =>
    rw [result_eq]
    exact judges
  case circle =>
    intro cyclic passed
    rw [result_eq]
    exact judges.endless_iff.mpr ⟨passed, cyclic.atLeast _⟩

namespace HashedDirectory

variable {window : Window} {memory : Memory} {directory : HashedDirectory}
  {id head : UInt32}

theorem follow_eq_followEntries (window : Window) (id : UInt32) (remaining : Nat)
    (entry : UInt32) :
    follow window id remaining entry
      = followEntries id remaining entry Memory (window.load Entry) := by
  induction remaining generalizing entry with
  | zero => rfl
  | succ remaining ih => simp only [follow, followEntries, ih]

/-- The first entry of the chain for an id. -/
def headOf (directory : HashedDirectory) (window : Window) (id : UInt32) :
    Action Memory UInt32 := do
  window.load UInt32 (← directory.bucketAddress id)

theorem lookup_keepsGuard (isHead : directory.headOf window id memory = .ok head memory)
    (readable : Readable (chainOf (window.record? Entry memory) Entry.next)
      (directory.used + 1) head) :
    KeepsGuard (directory.lookup window id) (followEntries id (directory.used + 1) head)
      (window.load Entry) memory (window.record? Entry memory) Entry.next (·.id ≠ id)
      .endlessIndexChain directory.used head := by
  refine (followEntries_guarded id readable).keepsGuard
    (fun address record => Window.load_of_record?) ?_
  have lookup_eq : directory.lookup window id
      = directory.headOf window id >>= follow window id (directory.used + 1) := by
    rw [lookup, headOf, bind_assoc]
  rw [lookup_eq, outcome_bind_ok isHead, follow_eq_followEntries]

end HashedDirectory

namespace Graph

variable {graph : Graph} {layout : Layout} {pages : Nat → List Nat}
  {content : Multigraph} {node : NodeRef} {slot : Nat} {first : PageRef}

theorem lastPageFrom_eq_findLast (first : PageRef) (remaining : Nat)
    (current : PageRef) :
    lastPageFrom first remaining current
      = findLast first remaining current Graph (load Page) := by
  induction remaining generalizing current with
  | zero => rfl
  | succ remaining ih =>
    refine congrArg (load Page current.address >>= ·) (funext fun record => ?_)
    cases PageRef.ofWord? record.next with
    | none => rfl
    | some next => exact ih next

theorem chainArcs_eq_listArcs (remaining : Nat) (next : UInt32) :
    chainArcs remaining next = listArcs remaining next Graph (load Page) := by
  induction remaining generalizing next with
  | zero =>
    cases present : PageRef.ofWord? next <;> simp only [chainArcs, listArcs, present]
  | succ remaining ih =>
    rw [chainArcs, listArcs]
    cases PageRef.ofWord? next with
    | none => rfl
    | some page =>
      refine congrArg (load Page page.address >>= ·) (funext fun record => ?_)
      rw [ih]

theorem lastPage_keepsGuard
    (readable : Readable (chainOf graph.page? Page.next) (graph.pageCount + 1)
      first.address) :
    KeepsGuard (lastPage first) (findLast first (graph.pageCount + 1) first) (load Page)
      graph graph.page? Page.next (fun _ => True) .endlessPageChain graph.pageCount
      first.address := by
  refine (findLast_guarded first first readable).keepsGuard
    (fun address record => load_of_page?) ?_
  rw [← lastPageFrom_eq_findLast]
  rfl

theorem arcs_keepsGuard {record : Node}
    (loaded : nodeRecord node graph = .ok record graph)
    (readable : Readable (chainOf graph.page? Page.next) (graph.pageCount + 1)
      record.firstPage) :
    KeepsGuard (Graph.arcs node) (listArcs (graph.pageCount + 1) record.firstPage)
      (load Page) graph graph.page? Page.next Page.Targeted .endlessPageChain
      graph.pageCount record.firstPage := by
  refine (listArcs_guarded readable).keepsGuard (fun address record => load_of_page?) ?_
  rw [Graph.arcs, outcome_bind_ok loaded, ← chainArcs_eq_listArcs]
  rfl

/-! ### What the graph itself has built -/

theorem LaidOut.eq_nodeOf (laidOut : graph.LaidOut layout)
    (bounded : graph.nodeCount ≤ graph.config.nodeBound)
    (inSlot : graph.InSlot node slot) : node = graph.nodeOf layout slot := by
  refine NodeRef.ext_address ?_
  rw [laidOut.address_of_inSlot bounded inSlot,
    laidOut.address_nodeOf (Nat.lt_of_lt_of_le inSlot.1 bounded)]

/-- No walk of the host calls a chain endless that the graph has built. -/
theorem Stores.walks_return (stores : graph.Stores layout pages content)
    (inSlot : graph.InSlot node slot) :
    (∃ arcs, Graph.arcs node graph = .ok arcs graph) ∧
      ∀ first, PageRef.ofWord? (graph.recordAt slot).firstPage = some first →
        ∃ last, lastPage first graph = .ok last graph := by
  have bounded : graph.nodeCount ≤ graph.config.nodeBound :=
    stores.nodeCount_eq ▸ stores.nodeCount_le
  have inside : slot < content.ids.length := stores.nodeCount_eq ▸ inSlot.1
  obtain rfl := stores.toLaidOut.eq_nodeOf bounded inSlot
  refine ⟨⟨_, stores.arcs_nodeOf inside⟩, fun first refers => ?_⟩
  have sameRecord := (stores.toLaidOut.nodeRecord_of_inSlot bounded inSlot).symm.trans
      (stores.nodeRecord_nodeOf inside)
  injection sameRecord with record_eq
  rw [record_eq] at refers
  have present : pages slot ≠ [] := by
    intro noPages
    have chain := stores.chain slot inside
    rw [noPages] at chain
    rw [chain.1, PageRef.ofWord?_null] at refers
    cases refers
  obtain ⟨other, last, otherRefers, _, found, _⟩ := stores.lastPage_eq inside present
  rw [refers] at otherRefers
  cases otherRefers
  exact ⟨last, found⟩

/-- The bucket of an id can be read, whatever its bytes are. -/
theorem Stores.exists_headOf (stores : graph.Stores layout pages content)
    {directory : HashedDirectory} (hashed : graph.directory = .hashed directory)
    (memory : Memory) (id : UInt32) :
    ∃ head, directory.headOf graph.arena.window id memory = .ok head memory := by
  have holds := stores.directory_holds
  rw [hashed] at holds
  obtain ⟨bucketsAt, entriesAt, inner⟩ := holds
  have sound := stores.arena_sound.window_sound
  have lower := stores.low_le_directory
  have upper := stores.frontier_le_high
  have loaded : graph.arena.window.load UInt32
      (graph.arena.window.address (bucketsAt + (id % directory.buckets).toNat * 4))
        memory = .ok _ memory :=
    Window.load_address sound (inner.bucket_spans lower upper id) (by decide)
  refine ⟨_, Eq.trans ?_ loaded⟩
  rw [HashedDirectory.headOf, inner.bucketAddress_eq sound lower upper,
    liftM_ok_bind_apply]

/-- On a graph that a program can hold, with any bytes under it: looking for the last
page of a node and listing its edges keep to one guard, of one page more than there are
pages. They call the same chains endless, those with two pages more, as long as the
edges that the listing comes to have targets. Looking up an id keeps to the guard of one
entry more than there are entries. What the graph has built is called endless by none of
them, also after accelerators have written to the bytes of searches, as `Built` lets
them. -/
theorem chain_guards_agree {graph shown : Graph} {links : List Link}
    (built : Built graph links)
    (overwritten : ∃ memory, shown = graph.withMemory memory) :
    (∀ node slot first, shown.InSlot node slot →
      PageRef.ofWord? (shown.recordAt slot).firstPage = some first →
      Readable (chainOf shown.page? Page.next) (shown.pageCount + 1) first.address →
      KeepsGuard (lastPage first) (findLast first (shown.pageCount + 1) first)
        (load Page) shown shown.page? Page.next (fun _ => True) .endlessPageChain
        shown.pageCount first.address ∧
      KeepsGuard (Graph.arcs node) (listArcs (shown.pageCount + 1) first.address)
        (load Page) shown shown.page? Page.next Page.Targeted .endlessPageChain
        shown.pageCount first.address ∧
      ((∃ address,
          (lastPage first).result shown = .error (.corrupt address .endlessPageChain)) ↔
        AtLeast (chainOf shown.page? Page.next) (shown.pageCount + 2) first.address) ∧
      (Passes shown.page? Page.Targeted
          (members (chainOf shown.page? Page.next)
            (shown.pageCount + 1) first.address) →
        ((∃ address, (Graph.arcs node).result shown
            = .error (.corrupt address .endlessPageChain)) ↔
          ∃ address, (lastPage first).result shown
            = .error (.corrupt address .endlessPageChain)))) ∧
    (∀ directory id, shown.directory = .hashed directory →
      ∃ head,
        directory.headOf shown.arena.window id shown.memory = .ok head shown.memory ∧
        (Readable (chainOf (shown.arena.window.record? Entry shown.memory) Entry.next)
            (directory.used + 1) head →
          KeepsGuard (directory.lookup shown.arena.window id)
            (followEntries id (directory.used + 1) head) (shown.arena.window.load Entry)
            shown.memory (shown.arena.window.record? Entry shown.memory) Entry.next
            (·.id ≠ id) .endlessIndexChain directory.used head)) ∧
    (∀ id, ∃ node?, find id graph = .ok node? graph) ∧
    ∀ node slot, graph.InSlot node slot →
      (∃ arcs, Graph.arcs node graph = .ok arcs graph) ∧
      ∀ first, PageRef.ofWord? (graph.recordAt slot).firstPage = some first →
        ∃ last, lastPage first graph = .ok last graph := by
  obtain ⟨memory, rfl⟩ := overwritten
  obtain ⟨layout, pages, content, stores, _⟩ := built.stores
  have bounded : graph.nodeCount ≤ graph.config.nodeBound :=
    stores.nodeCount_eq ▸ stores.nodeCount_le
  have laidOut := stores.toLaidOut.withMemory memory
  refine ⟨?_, ?_, fun id => ⟨_, stores.find_eq id⟩,
    fun node slot => stores.walks_return⟩
  · intro node slot first inSlot refers readable
    have loaded := laidOut.nodeRecord_of_inSlot bounded inSlot
    have firstPage_eq := PageRef.address_of_ofWord? refers
    have finding := lastPage_keepsGuard readable
    have listing := arcs_keepsGuard loaded (firstPage_eq ▸ readable)
    rw [← firstPage_eq] at listing
    have endless_iff :=
      finding.judges.endless_iff.trans (and_iff_right fun _ _ _ _ => trivial)
    refine ⟨finding, listing, endless_iff, fun targeted => ?_⟩
    rw [endless_iff, listing.judges.endless_iff]
    exact and_iff_right targeted
  · intro directory id hashed
    obtain ⟨head, isHead⟩ := stores.exists_headOf hashed memory id
    exact ⟨head, isHead, HashedDirectory.lookup_keepsGuard isHead⟩

/-- A record that is its own next one is a circle. -/
theorem circle_of_own_next {ρ : Type} {shown? : UInt32 → Option ρ} (behind : ρ → UInt32)
    (passes : ρ → Prop) {word : UInt32} {record : ρ} (present : word ≠ nullAddress)
    (isShown : shown? word = some record) (own : behind record = word)
    (passed : passes record) (count : Nat) :
    Readable (chainOf shown? behind) count word ∧ Cyclic (chainOf shown? behind) word ∧
      Passes shown? passes (members (chainOf shown? behind) count word) := by
  have members_eq (count : Nat) : members (chainOf shown? behind) count word
      = List.replicate count word := by
    induction count with
    | zero => rfl
    | succ count ih =>
      rw [Guarded.members_eq present isShown, own, ih, List.replicate_succ]
  refine ⟨fun other member => ?_, ⟨2, by simp [members_eq]⟩,
    fun other member otherRecord otherShown => ?_⟩
  · rw [members_eq] at member
    rw [List.eq_of_mem_replicate member, chainOf, isShown]
    rfl
  · rw [members_eq] at member
    rw [List.eq_of_mem_replicate member, isShown] at otherShown
    cases otherShown
    exact passed

/-- The page of a small graph, with itself for the next one. -/
def roundPage : Page := ⟨1, 0x10000180, Vector.replicate 8 ⟨0x10000050, 5⟩⟩

/-- The second entry of a small graph, with itself for the next one. -/
def roundEntry : Entry := ⟨2, 0x10000050, 0x1000010C⟩

/-- A small graph with circles in place of its chains. -/
def withCircles (graph : Graph) : Graph :=
  graph.withMemory
    (Record.write (Record.write graph.memory 384 roundPage) 268 roundEntry)

/-- Where a page is its own next page and an entry its own next entry, the chains are
called endless. -/
theorem chain_guards_agree_on_circles :
    ∃ graph shown directory first, Built graph [⟨1, 2, 5⟩] ∧
      (∃ memory, shown = graph.withMemory memory) ∧
      shown.InSlot (.ofWord 0x10000040) 0 ∧
      PageRef.ofWord? (shown.recordAt 0).firstPage = some first ∧
      Cyclic (chainOf shown.page? Page.next) first.address ∧
      shown.directory = .hashed directory ∧
      (∃ address,
        (lastPage first).result shown = .error (.corrupt address .endlessPageChain)) ∧
      (∃ address, (Graph.arcs (.ofWord 0x10000040)).result shown
        = .error (.corrupt address .endlessPageChain)) ∧
      (∃ address, (directory.lookup shown.arena.window 7).result shown.memory
        = .error (.corrupt address .endlessIndexChain)) := by
  obtain ⟨graph, built, inUse, nodesBase_eq, refers, page_eq, hashed, head_eq,
      entry_eq⟩ :
      ∃ graph, Built graph [⟨1, 2, 5⟩] ∧ 0 < graph.withCircles.nodeCount ∧
        graph.withCircles.nodesBase = 0x10000040 ∧
        PageRef.ofWord? (graph.withCircles.recordAt 0).firstPage
          = some ⟨0x10000180, by decide⟩ ∧
        graph.withCircles.page? 0x10000180 = some roundPage ∧
        graph.withCircles.directory = .hashed ⟨0x100000C0, 1, 0x10000100, 2, 2⟩ ∧
        (HashedDirectory.headOf
          ⟨0x100000C0, 1, 0x10000100, 2, 2⟩ graph.withCircles.arena.window 7).result
          graph.withCircles.memory = .ok 0x1000010C ∧
        graph.withCircles.arena.window.record? Entry graph.withCircles.memory 0x1000010C
          = some roundEntry :=
    exists_built ⟨.heap, 0x10000000, 65536, .zeros⟩ 64 ⟨2, 1, .hashed 1⟩
      [.addEdge ⟨1, 2, 5⟩] (by decide +kernel)
  have overwritten : ∃ memory, graph.withCircles = graph.withMemory memory := ⟨_, rfl⟩
  generalize graph.withCircles = shown at *
  have inSlot : shown.InSlot (.ofWord 0x10000040) 0 := by
    refine ⟨inUse, ?_⟩
    rw [nodesBase_eq]
    rfl
  have targeted : roundPage.Targeted := by
    unfold Page.Targeted
    decide
  obtain ⟨readablePages, cyclicPages, passesPages⟩ :=
    circle_of_own_next Page.next Page.Targeted (by decide) page_eq rfl targeted
      (shown.pageCount + 1)
  obtain ⟨alongPages, alongEntries, _⟩ := chain_guards_agree built overwritten
  obtain ⟨finding, listing, _⟩ := alongPages _ 0 _ inSlot refers readablePages
  obtain ⟨head, isHead, guarded⟩ := alongEntries _ 7 hashed
  rw [result_of_ok isHead] at head_eq
  cases head_eq
  obtain ⟨readableEntries, cyclicEntries, passesEntries⟩ :=
    circle_of_own_next Entry.next (·.id ≠ 7) (by decide) entry_eq rfl (by decide) 3
  exact ⟨graph, shown, _, _, built, overwritten, inSlot, refers, cyclicPages, hashed,
    finding.circle cyclicPages fun _ _ _ _ => trivial,
    listing.circle cyclicPages passesPages,
    (guarded readableEntries).circle cyclicEntries passesEntries⟩

end Graph

end ArenaPaths
