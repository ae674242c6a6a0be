import ArenaPaths.Proofs.Reading
import ArenaPaths.Proofs.Transactions

/-!
# Lines at which reading fails

Reading a text stops at the first line that cannot be taken in. What fails there does
not depend on the lines behind it, and if the fault names a line, it is that one: what a
line asks of the graph never fails with a fault that names a line. Only the end of a
text can lack a header, and it does if all lines were taken in and none of them is a
header.

Main statement: `GraphText.first_bad_line_decides`.
-/

namespace ArenaPaths

open ArenaPaths.Action

/-- A fault that can be met at a line of a text: if it names a line, then that one, and
it does not say that the text has come to its end without a header. -/
def Fault.MetAt (line : Nat) : Fault → Prop
  | .line number reason => number = line ∧ reason ≠ .missingHeader
  | _ => True

variable {line : Nat}

theorem Fault.IsOfSearch.metAt {fault : Fault} (ofSearch : fault.IsOfSearch) :
    fault.MetAt line := by
  cases fault with
  | line => exact ofSearch.elim
  | _ => trivial

/-! ## Steps on graphs -/

namespace Word

theorem metAt_entryAddress {base : UInt32} {index stride : Nat} {fault : Fault}
    (failed : entryAddress base index stride = .error fault) : fault.MetAt line :=
  (isOfSearch_entryAddress failed).metAt

end Word

namespace Window

variable {α : Type} [Record α] (window : Window) (address : UInt32)

theorem metAt_load : Raises (Fault.MetAt line) (window.load α address) :=
  (window.raises_load address).mono fun _ => Fault.IsOfSearch.metAt

theorem metAt_store (value : α) :
    Raises (Fault.MetAt line) (window.store address value) :=
  (window.raises_store address value).mono fun _ => Fault.IsOfSearch.metAt

end Window

theorem Arena.metAt_reserve (bytes : Nat) :
    Raises (Fault.MetAt line) (Arena.reserve bytes) := by
  refine .bind .get fun arena => ?_
  split
  · exact .throw trivial
  · refine .bind (.set _) fun _ => .liftM fun fault failed => ?_
    rw [Arena.blockAddress, Arena.physicalAddress] at failed
    split at failed
    · cases failed
      trivial
    · cases failed

namespace HashedDirectory

theorem metAt_create (buckets : UInt32) (capacity : Nat) :
    Raises (Fault.MetAt line) (create buckets capacity) := by
  rw [create]
  exact .guard trivial (.bind (Arena.metAt_reserve _) fun _ =>
      .bind (Arena.metAt_reserve _) fun _ => .pure _)

theorem metAt_follow (window : Window) (id : UInt32) (remaining : Nat)
    (entry : UInt32) :
    Raises (Fault.MetAt line) (follow window id remaining entry) := by
  induction remaining generalizing entry with
  | zero =>
    rw [follow]
    split
    · exact .pure _
    · exact .throw trivial
  | succ remaining ih =>
    rw [follow]
    split
    · exact .pure _
    · refine .bind (window.metAt_load _) fun record => ?_
      split
      · exact .pure _
      · exact ih _

theorem metAt_insert (directory : HashedDirectory) (window : Window) (id : UInt32)
    (node : NodeRef) :
    Raises (Fault.MetAt line) (directory.insert window id node) := by
  rw [insert]
  exact .guard trivial (.bind (.liftM fun _ => Word.metAt_entryAddress) fun _ =>
    .bind (.liftM fun _ => Word.metAt_entryAddress) fun _ =>
      .bind (window.metAt_load _) fun _ =>
      .bind (window.metAt_store _ _) fun _ => .bind (window.metAt_store _ _) fun _ =>
        .pure _)

end HashedDirectory

namespace DenseDirectory

theorem metAt_lookup (directory : DenseDirectory) (window : Window) (id : UInt32) :
    Raises (Fault.MetAt line) (directory.lookup window id) := by
  rw [lookup]
  split
  · exact .pure _
  · exact .bind (.liftM fun _ => Word.metAt_entryAddress) fun _ =>
      .bind (window.metAt_load _) fun _ => .pure _

theorem metAt_insert (directory : DenseDirectory) (window : Window) (id : UInt32)
    (node : NodeRef) :
    Raises (Fault.MetAt line) (directory.insert window id node) := by
  rw [insert]
  exact .guard trivial
    (.bind (.liftM fun _ => Word.metAt_entryAddress) fun _ => window.metAt_store _ _)

end DenseDirectory

namespace Directory

theorem metAt_create (strategy : Strategy) (nodeBound : Nat) :
    Raises (Fault.MetAt line) (create strategy nodeBound) := by
  cases strategy with
  | hashed buckets => exact .bind (HashedDirectory.metAt_create _ _) fun _ => .pure _
  | dense greatest =>
    exact .bind (.bind (Arena.metAt_reserve _) fun _ => .pure _) fun _ => .pure _

variable (directory : Directory) (window : Window) (id : UInt32)

theorem metAt_lookup : Raises (Fault.MetAt line) (directory.lookup window id) := by
  cases directory with
  | hashed directory =>
    exact .bind (.liftM fun _ => Word.metAt_entryAddress) fun _ =>
      .bind (window.metAt_load _) fun _ =>
      HashedDirectory.metAt_follow window id _ _
  | dense directory => exact directory.metAt_lookup window id

theorem metAt_insert (node : NodeRef) :
    Raises (Fault.MetAt line) (directory.insert window id node) := by
  cases directory with
  | hashed directory =>
    exact .bind (directory.metAt_insert window id node) fun _ => .pure _
  | dense directory =>
    exact .bind (directory.metAt_insert window id node) fun _ => .pure _

end Directory

namespace Graph

variable {α : Type} [Record α]

theorem metAt_load (address : UInt32) : Raises (Fault.MetAt line) (load α address) :=
  (raises_load address).mono fun _ => Fault.IsOfSearch.metAt

theorem metAt_store (address : UInt32) (value : α) :
    Raises (Fault.MetAt line) (store address value) :=
  .bind .get fun _ => .focus (.focus (Window.metAt_store _ _ _))

/-- Creating a graph fails with no fault that names a line. -/
theorem metAt_create {arena : Arena} {config : GraphConfig} {fault : Fault}
    (failed : create arena config = .error fault) : fault.MetAt line := by
  rw [create] at failed
  dsimp only at failed
  split at failed
  · rename_i met _ ran
    cases failed
    have layingOut : Raises (Fault.MetAt line) (do
        if config.nodeBound = 0 then throw (.configuration .zeroNodeBound)
        let nodesBase ← Arena.reserve (config.nodeBound * Record.size Node)
        let idsBase ← Arena.reserve (config.nodeBound * wordSize)
        let directory ← Directory.create config.strategy config.nodeBound
        let frontier ← Frontier.create config.frontierCapacity
        return (nodesBase, idsBase, directory, frontier) :
          Action Arena (UInt32 × UInt32 × Directory × Frontier)) :=
      .guard trivial
        (.bind (Arena.metAt_reserve _) fun _ => .bind (Arena.metAt_reserve _) fun _ =>
        .bind (Directory.metAt_create _ _) fun _ =>
          .bind (.bind (Arena.metAt_reserve _) fun _ => .pure _) fun _ =>
          .pure _)
    exact layingOut _ _ _ ran
  · cases failed

theorem metAt_createNode (id : UInt32) : Raises (Fault.MetAt line) (createNode id) := by
  refine .bind .get fun graph =>
    .guard trivial (.bind (.liftM fun _ => Word.metAt_entryAddress) fun address => ?_)
  split
  · exact .throw trivial
  · exact .bind (.focus (.focus (Directory.metAt_insert _ _ _ _))) fun _ =>
      .bind (.modify _) fun _ =>
      .bind (metAt_store _ _) fun _ =>
        .bind (.liftM fun _ => Word.metAt_entryAddress) fun _ =>
        .bind (metAt_store _ _) fun _ => .bind (.modify _) fun _ => .pure _

theorem metAt_addNode (id : UInt32) : Raises (Fault.MetAt line) (addNode id) := by
  refine .bind (.bind .get fun _ => .focus (.focus (Directory.metAt_lookup _ _ _)))
    fun found => ?_
  split
  · exact .pure _
  · exact metAt_createNode id

theorem metAt_createPage : Raises (Fault.MetAt line) createPage := by
  refine .bind (.focus (Arena.metAt_reserve _)) fun address =>
    .bind (.modify _) fun _ => ?_
  split
  · exact .throw trivial
  · exact .pure _

theorem metAt_lastPageFrom (first : PageRef) (remaining : Nat) (current : PageRef) :
    Raises (Fault.MetAt line) (lastPageFrom first remaining current) := by
  induction remaining generalizing current with
  | zero => exact .throw trivial
  | succ remaining ih =>
    refine .bind (metAt_load _) fun record => ?_
    split
    · exact ih _
    · exact .pure _

theorem metAt_openPage (source : NodeRef) :
    Raises (Fault.MetAt line) (openPage source) := by
  refine .bind (metAt_load _) fun record => ?_
  split
  · exact .bind metAt_createPage fun _ => .bind (metAt_store _ _) fun _ => .pure _
  · refine .bind (.bind .get fun _ => metAt_lastPageFrom _ _ _) fun last =>
      .bind (metAt_load _) fun lastRecord => ?_
    split
    · exact .bind metAt_createPage fun _ => .bind (metAt_store _ _) fun _ => .pure _
    · exact .pure _

/-- Adding an edge fails with no fault that names a line. -/
theorem metAt_addEdge (source target cost : UInt32) :
    Raises (Fault.MetAt line) (addEdge source target cost) :=
  .bind .get fun _ =>
    .guard trivial (.bind (metAt_addNode _) fun _ => .bind (metAt_addNode _) fun _ =>
    .bind (metAt_openPage _) fun _ => .bind (metAt_load _) fun _ =>
      .bind (metAt_store _ _) fun _ => .modify _)

end Graph

/-! ## Lines -/

namespace GraphText

open Text

variable {arena : Arena} {strategy : Strategy} {progress next last : Progress}
  {content : Line} {lines : List Line} {fault : Fault} {α β : Type}

/-- A result is a value or a fault that can be met at a line. -/
def FailsOnlyAt (line : Nat) (result : Except Fault α) : Prop :=
  ∀ fault, result = .error fault → fault.MetAt line

theorem FailsOnlyAt.ok (value : α) : FailsOnlyAt line (.ok value) := by
  intro fault failed
  cases failed

theorem FailsOnlyAt.error (met : fault.MetAt line) :
    FailsOnlyAt line (.error fault : Except Fault α) := by
  intro other failed
  cases failed
  exact met

theorem FailsOnlyAt.bind {step : Except Fault α} {more : α → Except Fault β}
    (first : FailsOnlyAt line step) (second : ∀ value, FailsOnlyAt line (more value)) :
    FailsOnlyAt line (step >>= more) := by
  cases step with
  | ok value => exact second value
  | error fault => exact .error (first fault rfl)

theorem failsOnlyAt_number (quantity : Quantity) (token : String) :
    FailsOnlyAt line (number line quantity token) := by
  rw [number]
  split
  · exact .ok _
  · exact .error ⟨rfl, LineFault.noConfusion⟩

theorem failsOnlyAt_takeHeader (nodes edges : String) :
    FailsOnlyAt line (takeHeader arena strategy line nodes edges progress) := by
  rw [takeHeader]
  split
  · exact .error ⟨rfl, LineFault.noConfusion⟩
  · exact .bind (failsOnlyAt_number _ _) fun _ =>
      .bind (failsOnlyAt_number _ _) fun _ =>
      .bind (fun _ => Graph.metAt_create) fun _ => .ok _

theorem failsOnlyAt_takeEdge (source target cost : String) :
    FailsOnlyAt line (takeEdge line source target cost progress) := by
  rw [takeEdge]
  split
  · exact .error ⟨rfl, LineFault.noConfusion⟩
  · refine .bind (failsOnlyAt_number _ _) fun source =>
      .bind (failsOnlyAt_number _ _) fun target =>
      .bind (failsOnlyAt_number _ _) fun cost => ?_
    split
    · exact .ok _
    · rename_i met _ ran
      exact .error (Graph.metAt_addEdge _ _ _ _ _ _ ran)

/-- What is malformed is not the lack of a header. -/
theorem Format.metAt_of_malformed {format : Format} {text : String}
    {words : List String} {reason : LineFault}
    (stated : format.statement text words = .malformed reason) :
    (Fault.line line reason).MetAt line := by
  revert stated
  fun_cases format.statement text words with
  | case3 | case7 =>
    intro stated
    cases stated
    exact ⟨rfl, LineFault.noConfusion⟩
  | case1 | case2 | case4 | case5 | case6 =>
    intro stated
    cases stated

/-- A line fails with none but faults that can be met at it. -/
theorem failsOnlyAt_takeLine (content : Line) (progress : Progress) :
    FailsOnlyAt (progress.lines + 1) (takeLine arena strategy content progress) := by
  cases content with
  | unreadable cause => exact .error trivial
  | text text =>
    rw [takeLine]
    split
    · exact .ok _
    · dsimp only
      split
      · exact .ok _
      · exact failsOnlyAt_takeHeader _ _
      · exact failsOnlyAt_takeEdge _ _ _
      · rename_i stated
        exact .error (Format.metAt_of_malformed stated)

/-- Fields of a line; one that cannot be read has none. -/
def fieldsOf : Line → List String
  | .text text => fields text
  | .unreadable _ => []

/-- A header of a format is among lines, given by their fields. -/
def Format.HeaderAmong (format : Format) (lines : List (List String)) : Prop :=
  ∃ words ∈ lines, ∃ nodes edges, words = format.headerFields nodes edges

theorem Format.not_headerAmong_cons {format : Format} {words : List String}
    {rest : List (List String)} :
    ¬ format.HeaderAmong (words :: rest) ↔
      (∀ nodes edges, words ≠ format.headerFields nodes edges) ∧
        ¬ format.HeaderAmong rest := by
  simp only [HeaderAmong, List.exists_mem_cons_iff, not_or, not_exists, ne_eq]

theorem Format.headerFields_ne_nil (format : Format) (nodes edges : String) :
    format.headerFields nodes edges ≠ [] := by
  cases format <;> simp [headerFields]

theorem Format.Says.ne_headerFields {format : Format} {words : List String}
    (said : format.Says words .comment) (nodes edges : String) :
    words ≠ format.headerFields nodes edges := by
  cases said
  simp [headerFields]

/-- What is said leaves no graph only if there was none and it is no header. -/
theorem Item.apply_eq_ok {format : Format} {words : List String} {item : Item}
    {graph? after? : Option Graph} (said : format.Says words item)
    (applied : item.apply arena strategy line graph? = .ok after?) :
    after? = none ↔ graph? = none ∧
    ∀ nodes edges, words ≠ format.headerFields nodes edges := by
  cases item with
  | comment =>
    cases applied
    exact (and_iff_left said.ne_headerFields).symm
  | header nodes edges =>
    cases said
    cases graph? with
    | some graph => cases applied
    | none =>
      obtain ⟨graph, _, done⟩ := exists_of_bind_eq_ok applied
      cases done
      exact iff_of_false (Option.some_ne_none graph) fun ⟨_, noHeader⟩ =>
        noHeader _ _ rfl
  | edge link =>
    cases graph? with
    | none => cases applied
    | some graph =>
      obtain ⟨graph, _, done⟩ := exists_of_bind_eq_ok applied
      cases done
      simp

/-- A line that is taken in is counted, settles the format if it is the first with
fields, and leaves no graph only if there was none and it is no header. -/
theorem takeLine_eq_ok (taken : takeLine arena strategy content progress = .ok next)
    (rest : List (List String)) :
    next.lines = progress.lines + 1 ∧
      next.format.getD (formatOf rest)
        = progress.format.getD (formatOf (fieldsOf content :: rest)) ∧
      (next.graph = none ↔ progress.graph = none ∧ ∀ nodes edges,
        fieldsOf content ≠ (progress.format.getD
          (formatOf (fieldsOf content :: rest))).headerFields nodes edges) := by
  cases content with
  | unreadable cause => cases taken
  | text text =>
    rw [fieldsOf]
    cases split : fields text with
    | nil =>
      rw [takeLine_of_blank split] at taken
      cases taken
      exact ⟨rfl, rfl, (and_iff_left fun nodes edges =>
          (Format.headerFields_ne_nil _ nodes edges).symm).symm⟩
    | cons first others =>
      rw [formatOf_cons]
      obtain ⟨item, said⟩ := exists_says_of_takeLine split rfl taken
      rw [takeLine_of_said split rfl said] at taken
      cases applied : item.apply arena strategy (progress.lines + 1) progress.graph with
      | error fault =>
        rw [applied] at taken
        cases taken
      | ok after? =>
        rw [applied] at taken
        cases taken
        exact ⟨rfl, rfl, Item.apply_eq_ok said applied⟩

theorem takeLines_cons_eq_ok
    (taken : takeLines arena strategy progress (content :: lines) = .ok last) :
    ∃ between, takeLine arena strategy content progress = .ok between ∧
      takeLines arena strategy between lines = .ok last := by
  rw [takeLines] at taken
  split at taken
  · exact ⟨_, ‹_›, taken⟩
  · cases taken

/-- Lines that are taken in are all counted, and leave no graph only if there was none
and no header is among them. -/
theorem takeLines_eq_ok (taken : takeLines arena strategy progress lines = .ok last) :
    last.lines = progress.lines + lines.length ∧
      (last.graph = none ↔ progress.graph = none ∧
        ¬ (progress.format.getD (formatOf (lines.map fieldsOf))).HeaderAmong
          (lines.map fieldsOf)) := by
  -- Along the lines, with the format that the progress settles or, as long as it does
  -- not, the lines to come.
  induction lines generalizing progress with
  | nil =>
    cases taken
    exact ⟨rfl, (and_iff_left fun ⟨_, member, _⟩ => List.not_mem_nil member).symm⟩
  | cons content rest ih =>
    obtain ⟨between, takenFirst, takenRest⟩ := takeLines_cons_eq_ok taken
    obtain ⟨counted, settled, graph_eq⟩ := takeLine_eq_ok takenFirst (rest.map fieldsOf)
    obtain ⟨countedRest, graphRest_eq⟩ := ih takenRest
    refine ⟨?_, ?_⟩
    · rw [countedRest, counted, List.length_cons]
      omega
    · rw [graphRest_eq, graph_eq, settled, List.map_cons, and_assoc,
        Format.not_headerAmong_cons]

/-- Reading a text fails at a line, counted from one: the lines before it are taken in,
and it is not. -/
def FailsAt (arena : Arena) (strategy : Strategy) (lines : List Line) (line : Nat)
    (fault : Fault) : Prop :=
  ∃ before content behind progress, lines = before ++ content :: behind ∧
    line = before.length + 1 ∧
    takeLines arena strategy {} before = .ok progress ∧
    takeLine arena strategy content progress = .error fault

theorem takeLines_append {before : List Line}
    (taken : takeLines arena strategy progress before = .ok next) (behind : List Line) :
    takeLines arena strategy progress (before ++ behind)
      = takeLines arena strategy next behind := by
  induction before generalizing progress with
  | nil =>
    cases taken
    rfl
  | cons content rest ih =>
    obtain ⟨between, takenFirst, takenRest⟩ := takeLines_cons_eq_ok taken
    rw [List.cons_append, takeLines, takenFirst]
    exact ih takenRest

/-- Lines that cannot be taken in have a first one that cannot. -/
theorem exists_of_takeLines_eq_error
    (failed : takeLines arena strategy progress lines = .error fault) :
    ∃ before content behind between, lines = before ++ content :: behind ∧
      takeLines arena strategy progress before = .ok between ∧
      takeLine arena strategy content between = .error fault := by
  induction lines generalizing progress with
  | nil => cases failed
  | cons content rest ih =>
    rw [takeLines] at failed
    cases taken : takeLine arena strategy content progress with
    | error other =>
      rw [taken] at failed
      cases failed
      exact ⟨[], content, rest, progress, rfl, rfl, taken⟩
    | ok between =>
      rw [taken] at failed
      obtain ⟨before, bad, behind, mid, rfl, takenBefore, failedAt⟩ := ih failed
      refine ⟨content :: before, bad, behind, mid, rfl, ?_, failedAt⟩
      rw [takeLines, taken]
      exact takenBefore

theorem exists_failsAt_iff :
    (∃ line, FailsAt arena strategy lines line fault) ↔
      takeLines arena strategy {} lines = .error fault := by
  constructor
  · rintro ⟨_, before, content, behind, progress, rfl, _, taken, failed⟩
    rw [takeLines_append taken, takeLines, failed]
  · intro failed
    obtain ⟨before, content, behind, progress, lines_eq, taken, failed⟩ :=
      exists_of_takeLines_eq_error failed
    exact ⟨_, before, content, behind, progress, lines_eq, rfl, taken, failed⟩

/-- The lines up to the one at which reading fails are all that matters. -/
theorem FailsAt.of_take_eq {others : List Line}
    (fails : FailsAt arena strategy lines line fault)
    (same : others.take line = lines.take line) :
    FailsAt arena strategy others line fault := by
  obtain ⟨before, content, behind, progress, rfl, rfl, taken, failed⟩ := fails
  refine ⟨before, content, others.drop (before.length + 1), progress, ?_, rfl, taken,
    failed⟩
  rw [List.take_length_add_append, List.take_succ_cons, List.take_zero] at same
  rw [← List.take_append_drop (before.length + 1) others, same, List.append_assoc]
  simp

/-- A fault that is met at a line can be met there. -/
theorem FailsAt.metAt (fails : FailsAt arena strategy lines line fault) :
    fault.MetAt line := by
  obtain ⟨before, content, behind, progress, rfl, rfl, taken, failed⟩ := fails
  have counted := (takeLines_eq_ok taken).1
  have met := failsOnlyAt_takeLine content progress fault failed
  rw [counted] at met
  simpa using met

theorem FailsAt.read_eq (fails : FailsAt arena strategy lines line fault) :
    read arena strategy lines = .error fault := by
  rw [read, exists_failsAt_iff.mp ⟨line, fails⟩]
  rfl

theorem not_failsAt_of_takeLines (taken : takeLines arena strategy {} lines = .ok last)
    (line : Nat) (fault : Fault) :
    ¬ FailsAt arena strategy lines line fault := by
  intro fails
  have failed := exists_failsAt_iff.mp ⟨line, fails⟩
  rw [taken] at failed
  cases failed

/-- Where all lines are taken in, only a header can be missing. -/
theorem read_of_takeLines (taken : takeLines arena strategy {} lines = .ok last) :
    (formatOf (lines.map fieldsOf)).HeaderAmong (lines.map fieldsOf) ∧
        (∃ graph, read arena strategy lines = .ok graph) ∨
      ¬ (formatOf (lines.map fieldsOf)).HeaderAmong (lines.map fieldsOf) ∧
        read arena strategy lines = .error (.line lines.length .missingHeader) := by
  obtain ⟨counted, graph_eq⟩ := takeLines_eq_ok taken
  rw [Nat.zero_add] at counted
  have read_eq : read arena strategy lines = last.finish := by
    rw [read, taken]
    rfl
  rw [read_eq, Progress.finish, counted]
  cases present : last.graph with
  | some graph =>
    refine .inl ⟨?_, graph, rfl⟩
    by_contra noHeader
    exact Option.some_ne_none graph (present.symm.trans (graph_eq.mpr ⟨rfl, noHeader⟩))
  | none => exact .inr ⟨(graph_eq.mp present).2, rfl⟩

/-- The end of a text is reached without a header exactly if all its lines are taken in
and none is one. -/
theorem read_eq_missingHeader_iff {number : Nat} :
    read arena strategy lines = .error (.line number .missingHeader) ↔
      (∀ line fault, ¬ FailsAt arena strategy lines line fault) ∧
        ¬ (formatOf (lines.map fieldsOf)).HeaderAmong (lines.map fieldsOf) ∧
        number = lines.length := by
  cases taken : takeLines arena strategy {} lines with
  | error fault =>
    obtain ⟨line, fails⟩ := exists_failsAt_iff.mpr taken
    refine iff_of_false ?_ fun ⟨noneFails, _⟩ => noneFails line fault fails
    rw [fails.read_eq]
    intro isMissing
    cases isMissing
    exact fails.metAt.2 rfl
  | ok last =>
    rcases read_of_takeLines taken with ⟨header, graph, ended⟩ | ⟨noHeader, ended⟩
    · refine iff_of_false ?_ fun ⟨_, noHeader, _⟩ => noHeader header
      rw [ended]
      intro isMissing
      cases isMissing
    · rw [ended]
      constructor
      · intro isMissing
        cases isMissing
        exact ⟨not_failsAt_of_takeLines taken, noHeader, rfl⟩
      · rintro ⟨_, _, rfl⟩
        rfl

/-- Reading fails at a line or at the end. -/
theorem exists_failsAt_or_missingHeader
    (failed : read arena strategy lines = .error fault) :
    (∃ line, FailsAt arena strategy lines line fault) ∨
      fault = .line lines.length .missingHeader := by
  cases taken : takeLines arena strategy {} lines with
  | error other =>
    obtain ⟨line, fails⟩ := exists_failsAt_iff.mpr taken
    rw [fails.read_eq] at failed
    cases failed
    exact .inl ⟨line, fails⟩
  | ok last =>
    rcases read_of_takeLines taken with ⟨_, graph, ended⟩ | ⟨_, ended⟩
    · rw [ended] at failed
      cases failed
    · rw [ended] at failed
      cases failed
      exact .inr rfl

/-- The first line that cannot be taken in decides what reading a text fails with,
whatever stands behind it, and if the fault names a line, it is this one. That there is
no header is said of a text with no such line and no header, at its last line, and
reading fails in no other way. -/
theorem first_bad_line_decides (arena : Arena) (strategy : Strategy)
    (lines : List Line) :
    (∀ line fault, FailsAt arena strategy lines line fault →
      (∀ others, others.take line = lines.take line →
        read arena strategy others = .error fault) ∧
      ∀ number reason, fault = .line number reason → number = line) ∧
    (∀ number, read arena strategy lines = .error (.line number .missingHeader) ↔
      (∀ line fault, ¬ FailsAt arena strategy lines line fault) ∧
        ¬ (formatOf (lines.map fieldsOf)).HeaderAmong (lines.map fieldsOf) ∧
        number = lines.length) ∧
    ∀ fault, read arena strategy lines = .error fault →
      (∃ line, FailsAt arena strategy lines line fault) ∨
        fault = .line lines.length .missingHeader := by
  refine ⟨fun line fault fails =>
    ⟨fun others same => (fails.of_take_eq same).read_eq, ?_⟩,
    fun number => read_eq_missingHeader_iff,
    fun fault => exists_failsAt_or_missingHeader⟩
  rintro number reason rfl
  exact fails.metAt.1

/-- A text whose last line has a cost that is no number. -/
def spoiled : List Line :=
  [.text "c three nodes", .text "", .text "p sp 3 2", .text "a 1 2 5", .text "a 2 3 -1"]

/-- The last line is to blame, with a line behind it that cannot be read as without
one. -/
theorem first_bad_line_decides_of_spoiled :
    FailsAt ⟨⟨.heap, 0x10000000, 4096, .zeros⟩, 0x10000000, 64, 64, 0⟩
      (.hashed 4) spoiled 5
        (.line 5 (.numeral .cost "-1" .invalidDigit)) ∧
      read ⟨⟨.heap, 0x10000000, 4096, .zeros⟩, 0x10000000, 64, 64, 0⟩ (.hashed 4)
        (spoiled ++ [.unreadable .invalidText])
          = .error (.line 5 (.numeral .cost "-1" .invalidDigit)) := by
  have failed : takeLines ⟨⟨.heap, 0x10000000, 4096, .zeros⟩, 0x10000000, 64, 64, 0⟩
      (.hashed 4) {} spoiled
      = .error (.line 5 (.numeral .cost "-1" .invalidDigit)) := by
    have seen : (takeLines ⟨⟨.heap, 0x10000000, 4096, .zeros⟩, 0x10000000, 64, 64, 0⟩
          (.hashed 4) {} spoiled).map
        Progress.lines = .error (.line 5 (.numeral .cost "-1" .invalidDigit)) := by
          decide +kernel
    generalize takeLines _ _ _ _ = result at seen ⊢
    cases result with
    | error fault => exact congrArg _ (Except.error.inj seen)
    | ok progress => cases seen
  obtain ⟨line, fails⟩ := exists_failsAt_iff.mpr failed
  obtain rfl := fails.metAt.1
  exact ⟨fails, ((first_bad_line_decides _ _ _).1 _ _ fails).1 _ (by decide)⟩

end GraphText

end ArenaPaths
