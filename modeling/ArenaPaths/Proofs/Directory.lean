import ArenaPaths.Proofs.Allocation

/-!
# Directories in memory

A directory holds a table of ids and nodes, the newest entry first, so that looking up
an id gives the node of its last insertion. The bytes of both kinds are a function of
that table. Looking up and inserting are followed on the memory: they return what the
table says and touch no bytes but the directory's own.
-/

namespace ArenaPaths

/-- Ids and their nodes, the newest first. -/
abbrev Roll := List (UInt32 × NodeRef)

/-- Bytes from one position up to another. -/
def Stretch (low high query : Nat) : Prop := low ≤ query ∧ query < high

theorem NodeRef.ofWord?_toWord (node? : Option NodeRef) :
    NodeRef.ofWord? (NodeRef.toWord node?) = node? := by
  cases node? with
  | none => rfl
  | some node => exact NodeRef.ofWord?_address node

/-! ## Hashed directories -/

namespace HashedDirectory

variable {directory : HashedDirectory} {window : Window} {address : Nat → UInt32}
  {low high : Nat} {memory after : Memory} {roll : Roll}

/-- The word at the head of a bucket: it refers to the newest entry whose id belongs
there. The entries stand in order of insertion from a position on. -/
def head (address : Nat → UInt32) (entries : Nat) (buckets bucket : UInt32) :
    Roll → UInt32
  | [] => nullAddress
  | (id, _) :: older =>
    if id % buckets = bucket then address (entries + older.length * 12)
    else head address entries buckets bucket older

/-- Every entry stands in its place and refers to the one before it in the same
bucket. -/
def Entered (address : Nat → UInt32) (memory : Memory) (entries : Nat)
    (buckets : UInt32) : Roll → Prop
  | [] => True
  | (id, node) :: older =>
    (Record.read memory (entries + older.length * 12) : Entry)
        = ⟨id, node.address, head address entries buckets (id % buckets) older⟩ ∧
      Entered address memory entries buckets older

/-- A hashed directory stands in a stretch of memory, with its buckets and its entries
at two positions of it. -/
structure Holds (directory : HashedDirectory) (address : Nat → UInt32)
    (low high bucketsAt entriesAt : Nat) (memory : Memory) (roll : Roll) : Prop where
  low_le : low ≤ bucketsAt
  buckets_le : bucketsAt + directory.buckets.toNat * 4 ≤ entriesAt
  le_high : entriesAt + max directory.capacity 1 * 12 ≤ high
  bucketsBase_eq : directory.bucketsBase = address bucketsAt
  entriesBase_eq : directory.entriesBase = address entriesAt
  buckets_pos : 0 < directory.buckets.toNat
  used_eq : directory.used = roll.length
  used_le : roll.length ≤ directory.capacity
  head_eq : ∀ bucket, bucket.toNat < directory.buckets.toNat →
    (Record.read memory (bucketsAt + bucket.toNat * 4) : UInt32)
      = head address entriesAt directory.buckets bucket roll
  entered : Entered address memory entriesAt directory.buckets roll

variable {bucketsAt entriesAt : Nat}

theorem Entered.congr {entries : Nat} {buckets : UInt32}
    (entered : Entered address memory entries buckets roll)
    (same : ∀ index, index < roll.length →
      (Record.read after (entries + index * 12) : Entry)
      = Record.read memory (entries + index * 12)) :
    Entered address after entries buckets roll := by
  induction roll with
  | nil => exact True.intro
  | cons entry older ih =>
    obtain ⟨newest, rest⟩ := entered
    refine ⟨?_, ih rest fun index inside => same index (Nat.lt_succ_of_lt inside)⟩
    rw [same older.length (Nat.lt_succ_self _)]
    exact newest

/-- Only bytes of the directory matter to it. -/
theorem Holds.congr
    (holds : directory.Holds address low high bucketsAt entriesAt memory roll)
    (same : ∀ query, Stretch low high query → after.get query = memory.get query) :
    directory.Holds address low high bucketsAt entriesAt after roll := by
  have start := holds.low_le
  have middle := holds.buckets_le
  have stop := holds.le_high
  have used := holds.used_le
  refine { holds with head_eq := ?_, entered := ?_ }
  · intro bucket inside
    rw [← holds.head_eq bucket inside]
    apply Record.read_congr
    intro query lower upper
    rw [Record.size_word] at upper
    exact same query ⟨by omega, by omega⟩
  · apply holds.entered.congr
    intro index inside
    apply Record.read_congr
    intro query lower upper
    rw [Record.size_entry] at upper
    exact same query ⟨by omega, by omega⟩

section Access

variable (holds : directory.Holds address low high bucketsAt entriesAt memory roll)
include holds

theorem Holds.mod_lt (id : UInt32) :
    (id % directory.buckets).toNat < directory.buckets.toNat := by
  rw [UInt32.toNat_mod]
  exact Nat.mod_lt _ holds.buckets_pos

theorem Holds.bucket_spans (lower : window.low ≤ low) (upper : high ≤ window.high)
    (id : UInt32) :
    window.Spans (bucketsAt + (id % directory.buckets).toNat * 4)
      (Record.size UInt32) := by
  have inside := holds.mod_lt id
  have start := holds.low_le
  have middle := holds.buckets_le
  have stop := holds.le_high
  constructor
  · omega
  · rw [Record.size_word]
    omega

theorem Holds.entry_spans (lower : window.low ≤ low) (upper : high ≤ window.high)
    {index : Nat} (inside : index < directory.capacity) :
    window.Spans (entriesAt + index * 12) (Record.size Entry) := by
  have start := holds.low_le
  have middle := holds.buckets_le
  have stop := holds.le_high
  constructor
  · omega
  · rw [Record.size_entry]
    omega

end Access

/-- Following a bucket from the head on finds what the roll says. -/
theorem follow_eq {entries capacity : Nat} {buckets : UInt32} (sound : window.Sound)
    (spans : ∀ index, index < capacity →
      window.Spans (entries + index * 12) (Record.size Entry))
    (id : UInt32) {remaining : Nat} (enough : roll.length ≤ remaining)
    (fits : roll.length ≤ capacity)
    (entered : Entered window.address memory entries buckets roll) :
    follow window id remaining
      (head window.address entries buckets (id % buckets) roll) memory
      = .ok (roll.lookup id) memory := by
  induction roll generalizing remaining with
  | nil =>
    cases remaining with
    | zero => rfl
    | succ remaining => rfl
  | cons entry older ih =>
    obtain ⟨other, node⟩ := entry
    obtain ⟨newest, rest⟩ := entered
    rw [List.length_cons] at enough fits
    rw [head, List.lookup_cons]
    by_cases sameBucket : other % buckets = id % buckets
    · obtain ⟨remaining, rfl⟩ : ∃ less, remaining = less + 1 :=
        ⟨remaining - 1, by omega⟩
      have place := spans older.length (by omega)
      have present : ¬ window.address (entries + older.length * 12) = nullAddress :=
        Window.address_ne_null sound place (by decide)
      have loaded : window.load Entry
          (window.address (entries + older.length * 12)) memory = .ok _ memory :=
        Window.load_address sound place (by decide)
      rw [newest] at loaded
      rw [if_pos sameBucket]
      simp only [follow, if_neg present, Action.bind_ok loaded]
      by_cases found : other = id
      · have equal : (id == other) = true := by simp [found]
        simp only [if_pos found, equal, NodeRef.ofWord?_address, Action.pure_apply]
      · have different : (id == other) = false := by simpa using Ne.symm found
        simp only [if_neg found, different, sameBucket]
        exact ih (by omega) (by omega) rest
    · have different : (id == other) = false := by
        simp only [beq_eq_false_iff_ne, ne_eq]
        rintro rfl
        exact sameBucket rfl
      rw [if_neg sameBucket]
      simp only [different]
      exact ih (by omega) (by omega) rest

section Tables

variable (holds : directory.Holds window.address low high bucketsAt entriesAt memory
    roll) (sound : window.Sound) (lower : window.low ≤ low) (upper : high ≤ window.high)
include holds sound lower upper

theorem Holds.bucketAddress_eq (id : UInt32) :
    directory.bucketAddress id
      = .ok (window.address (bucketsAt + (id % directory.buckets).toNat * 4)) := by
  have stop := (holds.bucket_spans lower upper id).le_high
  rw [Record.size_word] at stop
  rw [bucketAddress, holds.bucketsBase_eq, wordSize_eq]
  exact Window.entryAddress_address sound (by omega)

theorem Holds.load_bucket (id : UInt32) :
    window.load UInt32
      (window.address (bucketsAt + (id % directory.buckets).toNat * 4)) memory
      = .ok (head window.address entriesAt directory.buckets
        (id % directory.buckets) roll) memory := by
  rw [← holds.head_eq _ (holds.mod_lt id)]
  exact Window.load_address sound (holds.bucket_spans lower upper id) (by decide)

theorem Holds.entryAddress_eq (room : roll.length < directory.capacity) :
    Word.entryAddress directory.entriesBase directory.used (Record.size Entry)
      = .ok (window.address (entriesAt + roll.length * 12)) := by
  have stop := (holds.entry_spans lower upper room).le_high
  rw [Record.size_entry] at stop
  rw [holds.entriesBase_eq, holds.used_eq, Record.size_entry]
  exact Window.entryAddress_address sound (by omega)

/-- Looking up an id gives the node of its newest entry. -/
theorem Holds.lookup_eq (id : UInt32) :
    directory.lookup window id memory = .ok (roll.lookup id) memory := by
  simp only [lookup, holds.bucketAddress_eq sound lower upper,
    Action.liftM_ok_bind_apply, Action.bind_ok (holds.load_bucket sound lower upper id)]
  apply follow_eq sound (fun index inside => holds.entry_spans lower upper inside) id
    _ holds.used_le holds.entered
  rw [holds.used_eq]
  exact Nat.le_succ _

end Tables

/-- The bytes after a new entry was put in front of its bucket. -/
def entered (directory : HashedDirectory) (address : Nat → UInt32)
    (bucketsAt entriesAt : Nat) (memory : Memory) (roll : Roll) (id : UInt32)
    (node : NodeRef) : Memory :=
  let entry : Entry := ⟨id, node.address,
    head address entriesAt directory.buckets (id % directory.buckets) roll⟩
  let memory := Record.write memory (entriesAt + roll.length * 12) entry
  Record.write memory (bucketsAt + (id % directory.buckets).toNat * 4)
    (address (entriesAt + roll.length * 12))

theorem Holds.sameExcept_entered
    (holds : directory.Holds address low high bucketsAt entriesAt memory roll)
    (room : roll.length < directory.capacity) (id : UInt32) (node : NodeRef) :
    Memory.SameExcept (Stretch low high) memory
      (directory.entered address bucketsAt entriesAt memory roll id node) := by
  have bucketIn := holds.mod_lt id
  have start := holds.low_le
  have middle := holds.buckets_le
  have stop := holds.le_high
  refine .trans (Memory.sameExcept_write _ _ _ ?_) (Memory.sameExcept_write _ _ _ ?_)
  · intro query first last
    rw [Record.size_entry] at last
    exact ⟨by omega, by omega⟩
  · intro query first last
    rw [Record.size_word] at last
    exact ⟨by omega, by omega⟩

theorem Holds.cons
    (holds : directory.Holds address low high bucketsAt entriesAt memory roll)
    (room : roll.length < directory.capacity) (id : UInt32) (node : NodeRef) :
    Holds { directory with
      used := directory.used + 1 } address low high bucketsAt entriesAt
      (directory.entered address bucketsAt entriesAt memory roll id node)
        ((id, node) :: roll) := by
  have bucketIn := holds.mod_lt id
  have middle := holds.buckets_le
  refine
    { holds with
      used_eq := congrArg (· + 1) holds.used_eq
      used_le := room
      head_eq := ?_
      entered := ⟨?_, ?_⟩ }
  · intro bucket inside
    change bucket.toNat < directory.buckets.toNat at inside
    rw [head, HashedDirectory.entered]
    by_cases own : id % directory.buckets = bucket
    · rw [if_pos own, ← own, Record.read_write]
    · have apart : bucket.toNat ≠ (id % directory.buckets).toNat := fun equal =>
        own (UInt32.toNat_inj.mp equal.symm)
      rw [if_neg own,
        Record.read_write_of_disjoint _ _ (by simp only [Record.size_word]; omega),
        Record.read_write_of_disjoint
          _ _ (by simp only [Record.size_word, Record.size_entry]; omega)]
      exact holds.head_eq bucket inside
  · rw [HashedDirectory.entered, Record.read_write_of_disjoint
        _ _ (by simp only [Record.size_word, Record.size_entry]; omega),
      Record.read_write]
  · apply holds.entered.congr
    intro index inside
    rw [HashedDirectory.entered, Record.read_write_of_disjoint
        _ _ (by simp only [Record.size_word, Record.size_entry]; omega),
      Record.read_write_of_disjoint _ _ (by simp only [Record.size_entry]; omega)]

/-- An id is registered as long as there is room for its entry. -/
theorem Holds.insert_eq
    (holds : directory.Holds window.address low high bucketsAt entriesAt memory roll)
    (sound : window.Sound) (lower : window.low ≤ low) (upper : high ≤ window.high)
    (room : roll.length < directory.capacity) (id : UInt32) (node : NodeRef) :
    directory.insert window id node memory
      = .ok { directory with used := directory.used + 1 }
          (directory.entered window.address bucketsAt entriesAt memory roll id
            node) := by
  have notFull : ¬ directory.used = directory.capacity := by
    rw [holds.used_eq]
    exact Nat.ne_of_lt room
  simp only [insert, if_neg notFull, holds.bucketAddress_eq sound lower upper,
    holds.entryAddress_eq sound lower upper room, Action.liftM_ok_bind_apply,
    Action.bind_ok (holds.load_bucket sound lower upper id), Action.bind_ok
      (Window.store_address sound (holds.entry_spans lower upper room) (by decide) _),
    Action.bind_ok
      (Window.store_address sound (holds.bucket_spans lower upper id) (by decide) _)]
  rfl

/-- Without room for an entry an id is refused, and nothing changes. -/
theorem insert_of_full (full : directory.used = directory.capacity) (window : Window)
    (id : UInt32) (node : NodeRef) (memory : Memory) :
    directory.insert window id node memory
      = .error (.boundExceeded "index entries" directory.capacity) memory := by
  simp only [insert, if_pos full, Action.throw_bind_apply]

/-- A directory that was laid out holds nothing yet. -/
theorem holds_of_create {arena rest : Arena} {buckets : UInt32} {capacity : Nat}
    (sound : arena.Sound)
    (created : create buckets capacity arena = .ok directory rest) :
    arena.Extends rest ∧ directory.capacity = capacity ∧ directory.buckets = buckets ∧
      ∃ bucketsAt entriesAt,
        directory.Holds arena.window.address arena.used rest.used bucketsAt entriesAt
          rest.memory [] := by
  simp only [create] at created
  split at created
  · cases created
  rename_i someBuckets
  obtain ⟨bucketsBase, between, first, more⟩ := Action.of_bind_eq_ok created
  obtain ⟨entriesBase, after, second, done⟩ := Action.of_bind_eq_ok more
  obtain ⟨extends', rfl, bucketsFit⟩ := Arena.extends_of_reserve sound first
  obtain ⟨extendsMore, rfl, entriesFit⟩ :=
    Arena.extends_of_reserve extends'.sound second
  cases done
  rw [wordSize_eq] at bucketsFit
  rw [Record.size_entry] at entriesFit
  refine ⟨extends'.trans extendsMore, rfl, rfl, arena.used, between.used, ?_⟩
  constructor
  case low_le => exact Nat.le_refl _
  case buckets_le => exact bucketsFit
  case le_high => exact entriesFit
  case bucketsBase_eq => rfl
  case entriesBase_eq => exact congrFun extends'.address_eq between.used
  case buckets_pos =>
    apply Nat.pos_of_ne_zero
    intro isZero
    exact someBuckets (UInt32.toNat_inj.mp isZero)
  case used_eq => rfl
  case used_le => exact Nat.zero_le _
  case head_eq =>
    intro bucket inside
    change bucket.toNat < buckets.toNat at inside
    have further := extendsMore.used_le
    rw [Record.read_of_zero, Record.read_zeros_word]
    · rfl
    · intro query lower upper
      rw [Record.size_word] at upper
      exact (extends'.trans extendsMore).zero query (by omega) (by omega)
  case entered => exact True.intro

end HashedDirectory

/-! ## Dense directories -/

namespace DenseDirectory

variable {directory : DenseDirectory} {window : Window} {address : Nat → UInt32}
  {low high tableAt : Nat} {memory after : Memory} {roll : Roll}

/-- A dense directory stands in a stretch of memory, with its table at a position of
it. -/
structure Holds (directory : DenseDirectory) (address : Nat → UInt32)
    (low high tableAt : Nat) (memory : Memory) (roll : Roll) : Prop where
  low_le : low ≤ tableAt
  le_high : tableAt + (directory.greatest.toNat + 1) * 4 ≤ high
  tableBase_eq : directory.tableBase = address tableAt
  word_eq : ∀ id : UInt32, id ≤ directory.greatest →
    (Record.read memory (tableAt + id.toNat * 4) : UInt32)
      = NodeRef.toWord (roll.lookup id)
  lookup_eq_none : ∀ id : UInt32, directory.greatest < id → roll.lookup id = none

/-- Only bytes of the directory matter to it. -/
theorem Holds.congr (holds : directory.Holds address low high tableAt memory roll)
    (same : ∀ query, Stretch low high query → after.get query = memory.get query) :
    directory.Holds address low high tableAt after roll := by
  have start := holds.low_le
  have stop := holds.le_high
  refine { holds with word_eq := ?_ }
  intro id inside
  rw [← holds.word_eq id inside]
  rw [UInt32.le_iff_toNat_le] at inside
  apply Record.read_congr
  intro query lower upper
  rw [Record.size_word] at upper
  exact same query ⟨by omega, by omega⟩

section Tables

variable (holds : directory.Holds window.address low high tableAt memory roll)
  (sound : window.Sound) (lower : window.low ≤ low) (upper : high ≤ window.high)
include holds lower upper

theorem Holds.place_spans {id : UInt32} (inside : id ≤ directory.greatest) :
    window.Spans (tableAt + id.toNat * 4) (Record.size UInt32) := by
  rw [UInt32.le_iff_toNat_le] at inside
  have start := holds.low_le
  have stop := holds.le_high
  constructor
  · omega
  · rw [Record.size_word]
    omega

include sound

theorem Holds.placeAddress_eq {id : UInt32} (inside : id ≤ directory.greatest) :
    directory.placeAddress id = .ok (window.address (tableAt + id.toNat * 4)) := by
  have stop := (holds.place_spans lower upper inside).le_high
  rw [Record.size_word] at stop
  rw [placeAddress, holds.tableBase_eq, wordSize_eq]
  exact Window.entryAddress_address sound (by omega)

/-- Looking up an id gives the node that is in its place. -/
theorem Holds.lookup_eq (id : UInt32) :
    directory.lookup window id memory = .ok (roll.lookup id) memory := by
  rw [lookup]
  by_cases beyond : directory.greatest < id
  · rw [if_pos beyond, holds.lookup_eq_none id beyond]
    rfl
  · have inside : id ≤ directory.greatest := UInt32.not_lt.mp beyond
    have loaded : window.load UInt32 (window.address (tableAt + id.toNat * 4)) memory
        = .ok _ memory :=
      Window.load_address sound (holds.place_spans lower upper inside) (by decide)
    rw [holds.word_eq id inside] at loaded
    simp only [if_neg beyond, holds.placeAddress_eq sound lower upper inside,
      Action.liftM_ok_bind_apply,
      Action.bind_ok loaded, NodeRef.ofWord?_toWord, Action.pure_apply]

/-- An id up to the greatest is registered in its place. -/
theorem Holds.insert_eq {id : UInt32} (inside : id ≤ directory.greatest)
    (node : NodeRef) :
    directory.insert window id node memory
      = .ok () (Record.write memory (tableAt + id.toNat * 4) node.address) := by
  simp only [insert, if_neg (UInt32.not_lt.mpr inside),
    holds.placeAddress_eq sound lower upper inside, Action.liftM_ok_bind_apply]
  exact Window.store_address sound (holds.place_spans lower upper inside)
    (by decide) node.address

end Tables

theorem Holds.sameExcept_write
    (holds : directory.Holds address low high tableAt memory roll) {id : UInt32}
    (inside : id ≤ directory.greatest) (node : NodeRef) :
    Memory.SameExcept (Stretch low high) memory
      (Record.write memory (tableAt + id.toNat * 4) node.address) := by
  rw [UInt32.le_iff_toNat_le] at inside
  have start := holds.low_le
  have stop := holds.le_high
  apply Memory.sameExcept_write
  intro query first last
  rw [Record.size_word] at last
  exact ⟨by omega, by omega⟩

theorem Holds.cons (holds : directory.Holds address low high tableAt memory roll)
    {id : UInt32} (inside : id ≤ directory.greatest) (node : NodeRef) :
    directory.Holds address low high tableAt
      (Record.write memory (tableAt + id.toNat * 4) node.address)
      ((id, node) :: roll) := by
  refine { holds with word_eq := ?_, lookup_eq_none := ?_ }
  · intro other otherInside
    rw [List.lookup_cons]
    by_cases same : other = id
    · subst same
      rw [beq_self_eq_true, Record.read_write]
      rfl
    · have different : (other == id) = false := by simpa using same
      have apart : other.toNat ≠ id.toNat := fun equal =>
        same (UInt32.toNat_inj.mp equal)
      rw [different,
        Record.read_write_of_disjoint _ _ (by simp only [Record.size_word]; omega)]
      exact holds.word_eq other otherInside
  · intro other beyond
    have different : (other == id) = false := by
      simp only [beq_eq_false_iff_ne, ne_eq]
      rintro rfl
      exact UInt32.not_lt.mpr inside beyond
    rw [List.lookup_cons, different]
    exact holds.lookup_eq_none other beyond

/-- A directory that was laid out holds nothing yet. -/
theorem holds_of_create {arena rest : Arena} {greatest : UInt32} (sound : arena.Sound)
    (created : create greatest arena = .ok directory rest) :
    arena.Extends rest ∧ directory.greatest = greatest ∧
      ∃ tableAt, directory.Holds arena.window.address arena.used rest.used tableAt
        rest.memory [] := by
  obtain ⟨tableBase, after, reserved, done⟩ := Action.of_bind_eq_ok created
  obtain ⟨extends', rfl, fits⟩ := Arena.extends_of_reserve sound reserved
  cases done
  rw [wordSize_eq] at fits
  refine ⟨extends', rfl, arena.used, ?_⟩
  constructor
  case low_le => exact Nat.le_refl _
  case le_high => exact fits
  case tableBase_eq => rfl
  case word_eq =>
    intro id inside
    rw [UInt32.le_iff_toNat_le] at inside
    change id.toNat ≤ greatest.toNat at inside
    rw [Record.read_of_zero, Record.read_zeros_word]
    · rfl
    · intro query lower upper
      rw [Record.size_word] at upper
      exact extends'.zero query (by omega) (by omega)
  case lookup_eq_none => exact fun _ _ => rfl

end DenseDirectory

/-! ## Either kind -/

namespace Directory

variable {directory : Directory} {window : Window} {address : Nat → UInt32}
  {low high : Nat} {memory after : Memory} {roll : Roll}

/-- A directory stands in a stretch of memory and holds the entries of a roll. -/
def Holds (directory : Directory) (address : Nat → UInt32) (low high : Nat)
    (memory : Memory) (roll : Roll) : Prop :=
  match directory with
  | .hashed directory =>
    ∃ bucketsAt entriesAt,
      directory.Holds address low high bucketsAt entriesAt memory roll
  | .dense directory => ∃ tableAt, directory.Holds address low high tableAt memory roll

/-- The greatest id that a directory can take, if there is one. -/
def greatest? : Directory → Option UInt32
  | .hashed _ => none
  | .dense directory => some directory.greatest

/-- A directory has room for the given number of entries. -/
def HasRoom (directory : Directory) (entries : Nat) : Prop :=
  match directory with
  | .hashed directory => directory.capacity = entries
  | .dense _ => True

/-- Only bytes of the directory matter to it. -/
theorem Holds.congr (holds : directory.Holds address low high memory roll)
    (same : ∀ query, Stretch low high query → after.get query = memory.get query) :
    directory.Holds address low high after roll := by
  cases directory with
  | hashed directory =>
    obtain ⟨bucketsAt, entriesAt, inner⟩ := holds
    exact ⟨bucketsAt, entriesAt, inner.congr same⟩
  | dense directory =>
    obtain ⟨tableAt, inner⟩ := holds
    exact ⟨tableAt, inner.congr same⟩

/-- Looking up an id gives the node of its last insertion. -/
theorem Holds.lookup_eq (holds : directory.Holds window.address low high memory roll)
    (sound : window.Sound) (lower : window.low ≤ low) (upper : high ≤ window.high)
    (id : UInt32) :
    directory.lookup window id memory = .ok (roll.lookup id) memory := by
  cases directory with
  | hashed directory =>
    obtain ⟨bucketsAt, entriesAt, inner⟩ := holds
    exact inner.lookup_eq sound lower upper id
  | dense directory =>
    obtain ⟨tableAt, inner⟩ := holds
    exact inner.lookup_eq sound lower upper id

/-- An id that the directory can take is registered while there is room. -/
theorem Holds.insert_eq (holds : directory.Holds window.address low high memory roll)
    (sound : window.Sound) (lower : window.low ≤ low) (upper : high ≤ window.high)
    {entries : Nat} (capacity : directory.HasRoom entries)
    (room : roll.length < entries) {id : UInt32}
    (allowed : ∀ greatest ∈ directory.greatest?, id ≤ greatest) (node : NodeRef) :
    ∃ directory' after, directory.insert window id node memory = .ok directory' after ∧
      directory'.Holds window.address low high after ((id, node) :: roll) ∧
      Memory.SameExcept (Stretch low high) memory after ∧
      directory'.greatest? = directory.greatest? ∧ directory'.HasRoom entries := by
  cases directory with
  | hashed directory =>
    obtain ⟨bucketsAt, entriesAt, inner⟩ := holds
    obtain rfl : directory.capacity = entries := capacity
    refine ⟨_, _, Action.bind_ok (inner.insert_eq sound lower upper room id node), ?_,
      ?_, rfl, rfl⟩
    · exact ⟨bucketsAt, entriesAt, inner.cons room id node⟩
    · exact inner.sameExcept_entered room id node
  | dense directory =>
    obtain ⟨tableAt, inner⟩ := holds
    have inside := allowed directory.greatest rfl
    refine ⟨_, _, Action.bind_ok (inner.insert_eq sound lower upper inside node), ?_,
      ?_, rfl, capacity⟩
    · exact ⟨tableAt, inner.cons inside node⟩
    · exact inner.sameExcept_write inside node

/-- An id beyond the greatest is refused, and nothing changes. -/
theorem insert_of_greatest_lt {greatest id : UInt32}
    (bounded : directory.greatest? = some greatest) (beyond : greatest < id)
    (window : Window) (node : NodeRef) (memory : Memory) :
    directory.insert window id node memory
      = .error (.idBeyondTable id.toNat greatest.toNat) memory := by
  cases directory with
  | hashed directory => cases bounded
  | dense directory =>
    cases bounded
    have refused : directory.insert window id node memory
        = .error (.idBeyondTable id.toNat directory.greatest.toNat) memory := by
      simp only [DenseDirectory.insert, if_pos beyond, Action.throw_bind_apply]
    exact Action.bind_error refused

/-- A directory that was laid out holds nothing yet. -/
theorem holds_of_create {arena rest : Arena} {strategy : Strategy} {nodeBound : Nat}
    (sound : arena.Sound)
    (created : create strategy nodeBound arena = .ok directory rest) :
    arena.Extends rest ∧ directory.HasRoom nodeBound ∧ directory.strategy = strategy ∧
      directory.Holds arena.window.address arena.used rest.used rest.memory [] := by
  cases strategy with
  | hashed buckets =>
    obtain ⟨inner, after, createdInner, done⟩ := Action.of_bind_eq_ok created
    cases done
    obtain ⟨extends', capacity, bucketCount, holds⟩ :=
      HashedDirectory.holds_of_create sound createdInner
    exact ⟨extends', capacity, congrArg Strategy.hashed bucketCount, holds⟩
  | dense greatest =>
    obtain ⟨inner, after, createdInner, done⟩ := Action.of_bind_eq_ok created
    cases done
    obtain ⟨extends', greatestIs, holds⟩ :=
      DenseDirectory.holds_of_create sound createdInner
    exact ⟨extends', True.intro, congrArg Strategy.dense greatestIs, holds⟩

end Directory

end ArenaPaths
