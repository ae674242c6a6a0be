import ArenaPaths.Channel.Replay
import ArenaPaths.Proofs.Running

/-!
# What searches fail with

A step that is put together from smaller ones fails only as they do. On any memory at
all, a search fails in no other way than by an access outside its window, a frontier
that is full, a record that contradicts the layout, or an abort. So the fault of a
request to the replaying device is never mistaken for the refusal of a word.
-/

namespace ArenaPaths

namespace Action

variable {σ τ α β : Type}

/-- A step fails with no other faults than those allowed. -/
def Raises (allowed : Fault → Prop) (step : Action σ α) : Prop :=
  ∀ state fault rest, step state = .error fault rest → allowed fault

namespace Raises

variable {allowed : Fault → Prop}

theorem pure (value : α) : Raises allowed (Pure.pure value : Action σ α) := by
  intro state fault rest failed
  cases failed

theorem get : Raises allowed (MonadState.get : Action σ σ) := by
  intro state fault rest failed
  cases failed

theorem set (state : σ) : Raises allowed (MonadStateOf.set state : Action σ PUnit) := by
  intro state fault rest failed
  cases failed

theorem modify (change : σ → σ) : Raises allowed (modify change : Action σ PUnit) := by
  intro state fault rest failed
  cases failed

theorem throw {fault : Fault} (allows : allowed fault) :
    Raises allowed (MonadExcept.throw fault : Action σ α) := by
  intro state other rest failed
  cases failed
  exact allows

theorem liftM {result : Except Fault α}
    (allows : ∀ fault, result = .error fault → allowed fault) :
    Raises allowed (MonadLiftT.monadLift result : Action σ α) := by
  intro state fault rest failed
  cases result with
  | ok value => cases failed
  | error other =>
    cases failed
    exact allows _ rfl

theorem mono {more : Fault → Prop} {step : Action σ α} (raises : Raises allowed step)
    (weaker : ∀ fault, allowed fault → more fault) : Raises more step :=
  fun state fault rest failed => weaker fault (raises state fault rest failed)

/-- What both parts of a step may fail with the whole step may fail with. -/
theorem bind {step : Action σ α} {next : α → Action σ β} (first : Raises allowed step)
    (second : ∀ value, Raises allowed (next value)) :
    Raises allowed (step >>= next) := by
  intro state fault rest failed
  cases ran : step state with
  | ok value mid =>
    rw [bind_ok ran] at failed
    exact second value mid fault rest failed
  | error other mid =>
    rw [bind_error ran] at failed
    cases failed
    exact first state fault rest ran

/-- A check in front of a step adds its fault. -/
theorem guard {condition : Prop} [Decidable condition] {fault : Fault}
    {next : PUnit → Action σ α} (allows : allowed fault)
    (raises : Raises allowed (next ⟨⟩)) :
    Raises allowed
      (if condition then MonadExcept.throw fault >>= next else next ⟨⟩) := by
  split
  · intro state other rest failed
    cases failed
    exact allows
  · exact raises

theorem focus {part : σ → τ} {restore : σ → τ → σ} {step : Action τ α}
    (inner : Raises allowed step) :
    Raises allowed (Action.focus part restore step) := by
  intro state fault rest failed
  cases ran : step (part state) with
  | ok value mid =>
    rw [focus_eq_ok ran] at failed
    cases failed
  | error other mid =>
    rw [focus_eq_error ran] at failed
    cases failed
    exact inner _ _ _ ran

end Raises

end Action

open ArenaPaths.Action

/-! ## Searches -/

/-- The faults that a search can meet. -/
def Fault.IsOfSearch : Fault → Prop
  | .addressOutside _ | .frontierFull _ | .corrupt .. | .abort _ => True
  | _ => False

namespace Word

theorem isOfSearch_add {limit a b : Nat} {fault : Fault}
    (failed : add limit a b = .error fault) :
    fault.IsOfSearch := by
  simp only [add] at failed
  split at failed
  · cases failed
  · cases failed
    trivial

theorem isOfSearch_entryAddress {base : UInt32} {index stride : Nat} {fault : Fault}
    (failed : entryAddress base index stride = .error fault) : fault.IsOfSearch := by
  by_cases small : index * stride < UInt32.size
  · by_cases fits : base.toNat + index * stride < UInt32.size
    · rw [entryAddress_eq_ok fits] at failed
      cases failed
    · simp only [entryAddress, mul_eq_ok small, add, if_neg fits, bind,
        Except.bind] at failed
      cases failed
      trivial
  · simp only [entryAddress, mul, if_neg small, bind, Except.bind] at failed
    cases failed
    trivial

end Word

namespace Window

variable {α : Type} [Record α] (window : Window) (address : UInt32)

theorem isOfSearch_locate {window : Window} {address : UInt32} {length : Nat}
    {fault : Fault}
    (failed : window.locate address length = .error fault) : fault.IsOfSearch := by
  simp only [locate] at failed
  split at failed
  · cases failed
  · cases failed
    trivial

theorem raises_load : Raises Fault.IsOfSearch (window.load α address) :=
  .bind (.liftM fun _ => isOfSearch_locate) fun _ => .bind .get fun _ => .pure _

theorem raises_store (value : α) :
    Raises Fault.IsOfSearch (window.store address value) :=
  .bind (.liftM fun _ => isOfSearch_locate) fun _ => .modify _

end Window

namespace Frontier

variable (frontier : Frontier) (window : Window)

theorem raises_read (index : Nat) :
    Raises Fault.IsOfSearch (frontier.read window index) :=
  .bind (.liftM fun _ => Word.isOfSearch_entryAddress) fun _ => window.raises_load _

theorem raises_write (index : Nat) (entry : Slot) :
    Raises Fault.IsOfSearch (frontier.write window index entry) :=
  .bind (.liftM fun _ => Word.isOfSearch_entryAddress) fun _ => window.raises_store _ _

theorem raises_siftUp (entry : Slot) (hole : Nat) :
    Raises Fault.IsOfSearch (frontier.siftUp window entry hole) := by
  induction hole using Nat.strongRecOn with
  | ind hole ih =>
    rw [siftUp]
    split
    · refine .bind (frontier.raises_read window _) fun parent => ?_
      split
      · exact frontier.raises_write window _ _
      · exact .bind (frontier.raises_write window _ _) fun _ => ih _ (by omega)
    · exact frontier.raises_write window _ _

theorem raises_cheaperChild (left : Nat) :
    Raises Fault.IsOfSearch (frontier.cheaperChild window left) := by
  refine .bind (frontier.raises_read window _) fun leftSlot => ?_
  split
  · refine .bind (frontier.raises_read window _) fun rightSlot => ?_
    split
    · exact .pure _
    · exact .pure _
  · exact .pure _

theorem raises_siftDown (entry : Slot) (hole : Nat) (positive : 0 < hole) :
    Raises Fault.IsOfSearch (frontier.siftDown window entry hole positive) := by
  fun_induction siftDown frontier window entry hole positive with
  | case1 hole positive inside ih =>
    refine .bind (frontier.raises_cheaperChild window _) fun ⟨isRight, child⟩ => ?_
    dsimp only
    split
    · exact frontier.raises_write window _ _
    · exact .bind (frontier.raises_write window _ _) fun _ => ih isRight
  | case2 => exact frontier.raises_write window _ _

theorem raises_push (cost : UInt32) (node : NodeRef) :
    Raises Fault.IsOfSearch (push window cost node) := by
  refine .bind .get fun workspace => ?_
  dsimp only
  split
  · exact .bind (.throw trivial) fun _ => .bind (.modify _) fun _ =>
      .focus (raises_siftUp _ window _ _)
  · exact .bind (.modify _) fun _ => .focus (raises_siftUp _ window _ _)

theorem raises_pop : Raises Fault.IsOfSearch (pop window) := by
  refine .bind .get fun workspace => ?_
  dsimp only
  split
  · exact .pure _
  refine .bind (.focus (raises_read _ window _)) fun top =>
    .bind (.focus (raises_read _ window _)) fun last =>
    .bind (.modify _) fun _ => ?_
  split
  · refine .bind (.focus (raises_siftDown _ window _ _ _)) fun _ => ?_
    split
    · exact .pure _
    · exact .bind (.liftM fun _ => Word.isOfSearch_entryAddress) fun _ => .throw trivial
  · split
    · exact .pure _
    · exact .bind (.liftM fun _ => Word.isOfSearch_entryAddress) fun _ => .throw trivial

end Frontier

namespace Search

variable (window : Window)

theorem raises_relaxEdge (current : NodeRef) (cost : UInt32) (page : PageRef)
    (edge : Edge) :
    Raises Fault.IsOfSearch (relaxEdge window current cost page edge) := by
  rw [relaxEdge]
  split
  · exact .throw trivial
  · refine .bind (.focus (window.raises_load _)) fun record => ?_
    split
    · exact .bind (.focus (window.raises_store _ _)) fun _ =>
        .bind (Frontier.raises_push window _ _) fun _ => .pure _
    · exact .pure _

theorem raises_relaxEdges (current : NodeRef) (cost : UInt32) (page : PageRef)
    (edges : List Edge) :
    Raises Fault.IsOfSearch (relaxEdges window current cost page edges) := by
  induction edges with
  | nil => exact .pure _
  | cons edge rest ih =>
    exact .bind (raises_relaxEdge window _ _ _ _) fun _ => .bind ih fun _ => .pure _

theorem raises_relaxChain (current : NodeRef) (cost : UInt32) (fuel : Nat)
    (next : UInt32) :
    Raises Fault.IsOfSearch (relaxChain window current cost fuel next) := by
  induction fuel generalizing next with
  | zero => exact .throw trivial
  | succ fuel ih =>
    rw [relaxChain]
    split
    · exact .pure _
    · refine .bind (.focus (window.raises_load _)) fun record => ?_
      split
      · exact .bind (.throw trivial) fun _ =>
          .bind (raises_relaxEdges window _ _ _ _) fun _ => .bind (ih _) fun _ =>
          .pure _
      · exact .bind (raises_relaxEdges window _ _ _ _) fun _ => .bind (ih _) fun _ =>
          .pure _

theorem raises_settle (goal : NodeRef) (fuel steps relaxations : Nat) :
    Raises Fault.IsOfSearch (settle window goal fuel steps relaxations) := by
  induction fuel generalizing steps relaxations with
  | zero => exact .throw trivial
  | succ fuel ih =>
    rw [settle]
    refine .bind (Frontier.raises_pop window) fun popped => ?_
    split
    · exact .pure _
    · refine .bind (.focus (window.raises_load _)) fun record => ?_
      split
      · exact ih _ _
      · refine .bind (.focus (window.raises_store _ _)) fun _ =>
          .bind (.liftM fun _ => Word.isOfSearch_add) fun _ => ?_
        split
        · exact .pure _
        · exact .bind (raises_relaxChain window _ _ _ _) fun _ => ih _ _

/-- On any memory, a search fails with none but the faults of searches. -/
theorem raises_run (start goal : NodeRef) :
    Raises Fault.IsOfSearch (run window start goal) :=
  .bind (.focus (window.raises_load _))
    fun _ => .bind (.focus (window.raises_store _ _)) fun _ =>
    .bind (Frontier.raises_push window _ _) fun _ => raises_settle window _ _ _ _

end Search

/-- The device never fails to answer a request as if it had refused the word. -/
theorem Replay.raises_searchFor (window : Window) (capacity : Nat)
    (base start goal : UInt32) :
    Raises (· ≠ .protocol .writeWhilePending)
      (searchFor window capacity base start goal) := by
  intro memory fault rest failed
  simp only [searchFor] at failed
  split at failed
  · cases failed
    decide
  · cases failed
    decide
  · split at failed
    · cases failed
    · rename_i met _ ran
      have ofSearch := Search.raises_run _ _ _ _ _ _ ran
      cases failed
      cases met <;> simp_all [Fault.IsOfSearch, seenFault]

end ArenaPaths
