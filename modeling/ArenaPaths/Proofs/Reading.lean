import ArenaPaths.Graph.Text
import ArenaPaths.Proofs.Multigraph
import ArenaPaths.Proofs.Texts

/-!
# Graphs read from text

A text describes a graph if each of its lines that is not blank says something in the
format of the text, and if what is said comes to one header and, after it, edges. The
header and the edges are all that reading takes from a text: it ends as creating the
graph of the header and adding the edges to it ends, and a text that describes no graph
is refused.
-/

namespace ArenaPaths.GraphText

open Text

variable {arena : Arena} {strategy : Strategy} {format : Format}
  {progress next : Progress} {graph : Graph} {text : String} {texts : List String}
  {lines : List (List String)} {nodes edges : UInt32} {links : List Link}

/-! ## What a text describes -/

/-- What a line says, with its numbers read. -/
inductive Item where
  | comment
  | header (nodes edges : UInt32)
  | edge (link : Link)
  deriving DecidableEq

/-- Fields of a header. -/
def Format.headerFields : Format → String → String → List String
  | .plain, nodes, edges => [nodes, edges]
  | .tagged, nodes, edges => ["p", "sp", nodes, edges]

/-- Fields of an edge. -/
def Format.edgeFields : Format → String → String → String → List String
  | .plain, source, target, cost => [source, target, cost]
  | .tagged, source, target, cost => ["a", source, target, cost]

/-- The lines of a format, by their fields. -/
inductive Format.Says : Format → List String → Item → Prop where
  | comment (rest : List String) : Says .tagged ("c" :: rest) .comment
  | header {format : Format} {nodesText edgesText : String} {nodes edges : UInt32}
      (isNodes : IsDecimal nodesText nodes.toNat)
        (isEdges : IsDecimal edgesText edges.toNat) :
      Says format (format.headerFields nodesText edgesText) (.header nodes edges)
  | edge {format : Format} {sourceText targetText costText : String} {link : Link}
      (isSource : IsDecimal sourceText link.source.toNat)
        (isTarget : IsDecimal targetText link.target.toNat)
      (isCost : IsDecimal costText link.cost.toNat) :
      Says format (format.edgeFields sourceText targetText costText) (.edge link)

/-- The format of a text, given the fields of its lines. -/
def formatOf (lines : List (List String)) : Format :=
  if lines.flatten.head? = some "c" ∨
      lines.flatten.head? = some "p" then .tagged else .plain

/-- Lines, given by their fields, describe a graph: each of them that is not blank says
something in the format of the text, and comments aside they say a header and then
edges. -/
def Describes (lines : List (List String)) (nodes edges : UInt32)
    (links : List Link) : Prop :=
  ∃ items, List.Forall₂ (formatOf lines).Says (lines.filter (· ≠ [])) items ∧
    items.filter (· ≠ .comment) = .header nodes edges :: links.map .edge

/-- The graph with one more edge. -/
def withLink (graph : Graph) (link : Link) : Except Fault Graph :=
  match Graph.addEdge link.source link.target link.cost graph with
  | .ok _ after => .ok after
  | .error fault _ => .error fault

/-- The graph that is created with the given bounds and to which edges are added, up to
the first failure. -/
def build (arena : Arena) (config : GraphConfig) (links : List Link) :
    Except Fault Graph := do
  links.foldlM withLink (← Graph.create arena config)

/-! ## One line -/

/-- What an item does to the graph that there is so far, if there is one. -/
def Item.apply (arena : Arena) (strategy : Strategy) (line : Nat) :
    Item → Option Graph → Except Fault (Option Graph)
  | .comment, graph => .ok graph
  | .header nodes edges, none => do
      return some (← Graph.create arena ⟨nodes.toNat, edges.toNat, strategy⟩)
  | .header _ _, some _ => .error (.line line .secondHeader)
  | .edge _, none => .error (.line line .edgeBeforeHeader)
  | .edge link, some graph => do return some (← withLink graph link)

theorem exists_of_bind_eq_ok {α β : Type} {step : Except Fault α}
    {more : α → Except Fault β} {result : β} (ran : step >>= more = .ok result) :
    ∃ value, step = .ok value ∧ more value = .ok result := by
  cases step with
  | error fault => cases ran
  | ok value => exact ⟨value, rfl, ran⟩

theorem number_eq_ok_iff {line : Nat} {quantity : Quantity} {token : String}
    {word : UInt32} :
    number line quantity token = .ok word ↔ IsDecimal token word.toNat := by
  rw [← Numeral.word32_eq_ok_iff, number]
  cases Numeral.word32 token <;> simp

theorem Format.statement_headerFields (format : Format)
    (text nodesText edgesText : String) :
    format.statement text (format.headerFields nodesText edgesText)
      = .header nodesText edgesText := by
  cases format <;> rfl

theorem Format.statement_edgeFields (format : Format)
    (text sourceText targetText costText : String) :
    format.statement text (format.edgeFields sourceText targetText costText) =
      .edge sourceText targetText costText := by
  cases format <;> rfl

/-- The fields of a line that is not malformed. -/
theorem Format.words_of_statement (format : Format) (text : String)
    (words : List String) :
    match format.statement text words with
    | .comment => format = .tagged ∧ ∃ rest, words = "c" :: rest
    | .header nodesText edgesText => words = format.headerFields nodesText edgesText
    | .edge sourceText targetText costText =>
      words = format.edgeFields sourceText targetText costText
    | .malformed _ => True := by
  fun_cases format.statement text words with
  | case4 rest => exact ⟨rfl, rest, rfl⟩
  | case1 | case2 | case5 | case6 => rfl
  | case3 | case7 => trivial

/-- A header with two numerals is taken in unless there was one before it or the graph
cannot be created. -/
theorem takeHeader_of_isDecimal {line : Nat} {nodesText edgesText : String}
    (isNodes : IsDecimal nodesText nodes.toNat)
    (isEdges : IsDecimal edgesText edges.toNat) :
    takeHeader arena strategy line nodesText edgesText progress =
      ((Item.header nodes edges).apply arena strategy line progress.graph).map
        ({ progress with graph := · }) := by
  rw [takeHeader]
  cases progress.graph with
  | none =>
    simp only [number_eq_ok_iff.2 isNodes, number_eq_ok_iff.2 isEdges, Item.apply]
    change (Graph.create arena ⟨nodes.toNat, edges.toNat, strategy⟩ >>= fun graph =>
      pure { progress with graph := some graph }) = _
    cases Graph.create arena ⟨nodes.toNat, edges.toNat, strategy⟩ <;> rfl
  | some graph => rfl

theorem isDecimal_of_takeHeader {line : Nat} {nodesText edgesText : String}
    (taken : takeHeader arena strategy line nodesText edgesText progress = .ok next) :
    ∃ nodes edges : UInt32, IsDecimal nodesText nodes.toNat ∧
      IsDecimal edgesText edges.toNat := by
  rw [takeHeader] at taken
  cases present : progress.graph with
  | some graph =>
    rw [present] at taken
    cases taken
  | none =>
    rw [present] at taken
    obtain ⟨nodes, isNodes, taken⟩ := exists_of_bind_eq_ok taken
    obtain ⟨edges, isEdges, _⟩ := exists_of_bind_eq_ok taken
    exact ⟨nodes, edges, number_eq_ok_iff.1 isNodes, number_eq_ok_iff.1 isEdges⟩

/-- An edge with three numerals is taken in if there is a graph and it can be added. -/
theorem takeEdge_of_isDecimal {line : Nat} {sourceText targetText costText : String}
    {link : Link} (isSource : IsDecimal sourceText link.source.toNat)
    (isTarget : IsDecimal targetText link.target.toNat)
    (isCost : IsDecimal costText link.cost.toNat) :
    takeEdge line sourceText targetText costText progress =
      ((Item.edge link).apply arena strategy line progress.graph).map
        ({ progress with graph := · }) := by
  rw [takeEdge]
  cases progress.graph with
  | none => rfl
  | some graph =>
    simp only [number_eq_ok_iff.2 isSource, number_eq_ok_iff.2 isTarget,
      number_eq_ok_iff.2 isCost, Item.apply, withLink]
    change (match Graph.addEdge link.source link.target link.cost graph with
      | .ok _ _ => _
      | .error _ _ => _) = _
    cases Graph.addEdge link.source link.target link.cost graph <;> rfl

theorem isDecimal_of_takeEdge {line : Nat} {sourceText targetText costText : String}
    (taken : takeEdge line sourceText targetText costText progress = .ok next) :
    ∃ link : Link, IsDecimal sourceText link.source.toNat ∧
      IsDecimal targetText link.target.toNat ∧
      IsDecimal costText link.cost.toNat := by
  rw [takeEdge] at taken
  cases present : progress.graph with
  | none =>
    rw [present] at taken
    cases taken
  | some graph =>
    rw [present] at taken
    obtain ⟨source, isSource, taken⟩ := exists_of_bind_eq_ok taken
    obtain ⟨target, isTarget, taken⟩ := exists_of_bind_eq_ok taken
    obtain ⟨cost, isCost, _⟩ := exists_of_bind_eq_ok taken
    exact ⟨⟨source, target, cost⟩, number_eq_ok_iff.1 isSource,
      number_eq_ok_iff.1 isTarget, number_eq_ok_iff.1 isCost⟩

/-- A line that says something does what it says. -/
theorem takeLine_of_said {first : String} {others : List String} {item : Item}
    (split : fields text = first :: others)
    (known : progress.format.getD (Format.ofField first) = format)
    (said : format.Says (first :: others) item) :
    takeLine arena strategy (.text text) progress =
      (item.apply arena strategy (progress.lines + 1) progress.graph).map fun graph =>
        { lines := progress.lines + 1, format := some format, graph } := by
  rw [takeLine, split]
  dsimp only
  rw [known]
  generalize first :: others = words at said
  cases said with
  | comment rest => rfl
  | header isNodes isEdges =>
    rw [Format.statement_headerFields]
    exact takeHeader_of_isDecimal isNodes isEdges
  | edge isSource isTarget isCost =>
    rw [Format.statement_edgeFields]
    exact takeEdge_of_isDecimal isSource isTarget isCost

/-- A line that is taken in and is not blank says something. -/
theorem exists_says_of_takeLine {first : String} {others : List String}
    (split : fields text = first :: others)
    (known : progress.format.getD (Format.ofField first) = format)
    (taken : takeLine arena strategy (.text text) progress = .ok next) :
    ∃ item, format.Says (first :: others) item := by
  rw [takeLine, split] at taken
  dsimp only at taken
  rw [known] at taken
  have words_eq := format.words_of_statement text (first :: others)
  cases stated : format.statement text (first :: others) with
  | comment =>
    rw [stated] at words_eq
    obtain ⟨rfl, rest, words_eq⟩ := words_eq
    rw [words_eq]
    exact ⟨_, .comment rest⟩
  | header nodesText edgesText =>
    rw [stated] at words_eq taken
    rw [words_eq]
    obtain ⟨nodes, edges, isNodes, isEdges⟩ := isDecimal_of_takeHeader taken
    exact ⟨_, .header isNodes isEdges⟩
  | edge sourceText targetText costText =>
    rw [stated] at words_eq taken
    rw [words_eq]
    obtain ⟨link, isSource, isTarget, isCost⟩ := isDecimal_of_takeEdge taken
    exact ⟨_, .edge isSource isTarget isCost⟩
  | malformed reason =>
    rw [stated] at taken
    cases taken

theorem takeLine_of_blank (blank : fields text = []) :
    takeLine arena strategy (.text text) progress
      = .ok { progress with lines := progress.lines + 1 } := by
  rw [takeLine, blank]

/-! ## All lines -/

/-- What items without comments come to, given the graph that there is so far: edges are
added to a graph, and where there is no graph a header comes first. Items in another
order come to nothing. -/
def Yields (arena : Arena) (strategy : Strategy) (result : Except Fault Graph) :
    Option Graph → List Item → Prop
  | some graph, items =>
    ∃ links : List Link, items = links.map .edge ∧ result = links.foldlM withLink graph
  | none, items =>
    ∃ (nodes edges : UInt32) (links : List Link),
      items = .header nodes edges :: links.map .edge ∧
      result = build arena ⟨nodes.toNat, edges.toNat, strategy⟩ links

/-- The first item either fails, and then so does the whole, or leaves a graph to the
others. -/
theorem Yields.step {result : Except Fault Graph} {graph? : Option Graph} {item : Item}
    {items : List Item} (yields : Yields arena strategy result graph? (item :: items))
    (line : Nat) :
    (∃ fault, item.apply arena strategy line graph? = .error fault ∧
      result = .error fault) ∨
      ∃ after, item.apply arena strategy line graph? = .ok (some after) ∧
        Yields arena strategy result (some after) items := by
  cases graph? with
  | some graph =>
    obtain ⟨links, items_eq, rfl⟩ := yields
    cases links with
    | nil => cases items_eq
    | cons link rest =>
      cases items_eq
      rw [Item.apply, List.foldlM_cons]
      cases withLink graph link with
      | error fault => exact .inl ⟨fault, rfl, rfl⟩
      | ok after => exact .inr ⟨after, rfl, rest, rfl, rfl⟩
  | none =>
    obtain ⟨nodes, edges, links, items_eq, rfl⟩ := yields
    cases items_eq
    rw [Item.apply, build]
    cases Graph.create arena ⟨nodes.toNat, edges.toNat, strategy⟩ with
    | error fault => exact .inl ⟨fault, rfl, rfl⟩
    | ok after => exact .inr ⟨after, rfl, links, rfl, rfl⟩

/-- An item that does not fail can stand before others. -/
theorem Yields.exists_cons {result : Except Fault Graph} {graph? after? : Option Graph}
    {item : Item} {items : List Item} {line : Nat}
    (yields : Yields arena strategy result after? items) (notComment : item ≠ .comment)
    (applied : item.apply arena strategy line graph? = .ok after?) :
    ∃ whole, Yields arena strategy whole graph? (item :: items) := by
  cases item with
  | comment => exact absurd rfl notComment
  | header nodes edges =>
    cases graph? with
    | some graph => cases applied
    | none =>
      obtain ⟨after, _, done⟩ := exists_of_bind_eq_ok applied
      cases done
      obtain ⟨links, rfl, _⟩ := yields
      exact ⟨_, nodes, edges, links, rfl, rfl⟩
  | edge link =>
    cases graph? with
    | none => cases applied
    | some graph =>
      obtain ⟨after, _, done⟩ := exists_of_bind_eq_ok applied
      cases done
      obtain ⟨links, rfl, _⟩ := yields
      exact ⟨_, link :: links, rfl, rfl⟩

theorem formatOf_cons (first : String) (others : List String)
    (rest : List (List String)) :
    formatOf ((first :: others) :: rest) = Format.ofField first := by
  simp [formatOf, Format.ofField]

/-- Lines that say something are taken in as what they say comes to. -/
theorem takeLines_of_said {items : List Item} {result : Except Fault Graph}
    (said : List.Forall₂ (progress.format.getD (formatOf (texts.map fields))).Says
      ((texts.map fields).filter (· ≠ [])) items) (yields :
      Yields arena strategy result progress.graph (items.filter (· ≠ .comment))) :
    (takeLines arena strategy progress (texts.map .text) >>= Progress.finish)
      = result := by
  -- Along the texts, with the format that the progress settles or, as long as it does
  -- not, the texts to come.
  induction texts generalizing progress items with
  | nil =>
    cases said
    change progress.finish = result
    rw [Progress.finish]
    cases present : progress.graph with
    | none =>
      rw [present] at yields
      obtain ⟨_, _, _, items_eq, _⟩ := yields
      cases items_eq
    | some graph =>
      rw [present] at yields
      obtain ⟨links, items_eq, rfl⟩ := yields
      cases List.map_eq_nil_iff.1 items_eq.symm
      rfl
  | cons text rest ih =>
    rw [List.map_cons, takeLines]
    cases split : fields text with
    | nil =>
      rw [takeLine_of_blank split]
      rw [List.map_cons, split] at said
      exact ih said yields
    | cons first others =>
      rw [List.map_cons, split, formatOf_cons,
        List.filter_cons_of_pos (by simp)] at said
      cases said with
      | cons saidFirst saidRest =>
        rename_i item items
        rw [takeLine_of_said split rfl saidFirst]
        -- A comment leaves the graph alone, and all else is the first item that counts.
        by_cases isComment : item = .comment
        · subst isComment
          exact ih saidRest yields
        · rw [List.filter_cons_of_pos (by simpa using isComment)] at yields
          rcases yields.step (progress.lines + 1) with
            ⟨fault, applied, rfl⟩ | ⟨after, applied, yieldsRest⟩
          · rw [applied]
            rfl
          · rw [applied]
            exact ih saidRest yieldsRest

/-- Lines that are taken in say something, and what they say comes to something. -/
theorem exists_says_of_takeLines
    (taken : takeLines arena strategy progress (texts.map .text) = .ok next)
    (done : next.graph = some graph) :
    ∃ items result,
      List.Forall₂ (progress.format.getD (formatOf (texts.map fields))).Says
      ((texts.map fields).filter (· ≠ [])) items ∧
      Yields arena strategy result progress.graph (items.filter (· ≠ .comment)) := by
  induction texts generalizing progress with
  | nil =>
    cases taken
    rw [done]
    exact ⟨[], .ok graph, .nil, [], rfl, rfl⟩
  | cons text rest ih =>
    rw [List.map_cons, takeLines] at taken
    rw [List.map_cons]
    cases split : fields text with
    | nil =>
      rw [takeLine_of_blank split] at taken
      obtain ⟨items, result, said, yields⟩ := ih taken
      exact ⟨items, result, said, yields⟩
    | cons first others =>
      rw [formatOf_cons, List.filter_cons_of_pos (by simp)]
      cases takenFirst : takeLine arena strategy (.text text) progress with
      | error fault =>
        rw [takenFirst] at taken
        cases taken
      | ok between =>
        rw [takenFirst] at taken
        -- That the line was taken in gives what it says, and what it says gives what
        -- taking it in did.
        obtain ⟨item, said⟩ := exists_says_of_takeLine split rfl takenFirst
        rw [takeLine_of_said split rfl said] at takenFirst
        cases applied :
          item.apply arena strategy (progress.lines + 1) progress.graph with
        | error fault =>
          rw [applied] at takenFirst
          cases takenFirst
        | ok graph? =>
          rw [applied] at takenFirst
          cases takenFirst
          obtain ⟨items, result, saidRest, yields⟩ := ih taken
          by_cases isComment : item = .comment
          · subst isComment
            cases applied
            exact ⟨.comment :: items, result, .cons said saidRest, yields⟩
          · obtain ⟨whole, yieldsAll⟩ := yields.exists_cons isComment applied
            refine ⟨item :: items, whole, .cons said saidRest, ?_⟩
            rw [List.filter_cons_of_pos (by simpa using isComment)]
            exact yieldsAll

/-- Reading a text that describes a graph is creating the graph and adding the edges. -/
theorem read_of_describes (describes : Describes (texts.map fields) nodes edges links) :
    read arena strategy (texts.map .text)
      = build arena ⟨nodes.toNat, edges.toNat, strategy⟩ links := by
  obtain ⟨items, said, items_eq⟩ := describes
  exact takeLines_of_said said ⟨nodes, edges, links, items_eq, rfl⟩

/-- A text that is read describes a graph. -/
theorem exists_describes_of_read
    (ended : read arena strategy (texts.map .text) = .ok graph) :
    ∃ nodes edges links, Describes (texts.map fields) nodes edges links := by
  obtain ⟨last, taken, finished⟩ := exists_of_bind_eq_ok ended
  have present : last.graph = some graph := by
    rw [Progress.finish] at finished
    split at finished
    · cases finished
      assumption
    · cases finished
  obtain ⟨items, result, said, nodes, edges, links, items_eq, _⟩ :=
    exists_says_of_takeLines taken present
  exact ⟨nodes, edges, links, items, said, items_eq⟩

/-- A text is read exactly if it describes a graph that can be created and given its
edges, and the graph read is that one. -/
theorem read_eq_ok_iff_describes (arena : Arena) (strategy : Strategy)
    (texts : List String) (graph : Graph) :
    read arena strategy (texts.map .text) = .ok graph ↔
      ∃ nodes edges links, Describes (texts.map fields) nodes edges links ∧
        build arena ⟨nodes.toNat, edges.toNat, strategy⟩ links = .ok graph := by
  constructor
  · intro ended
    obtain ⟨nodes, edges, links, describes⟩ := exists_describes_of_read ended
    exact ⟨nodes, edges, links, describes,
      (read_of_describes describes).symm.trans ended⟩
  · rintro ⟨nodes, edges, links, describes, built⟩
    exact (read_of_describes describes).trans built

/-! ## Renderings -/

/-- The lines of a header and edges in a format. -/
def Format.render (format : Format) (nodes edges : UInt32) (links : List Link) :
    List String :=
  " ".intercalate (format.headerFields (toString nodes) (toString edges)) ::
    links.map fun link =>
      " ".intercalate (format.edgeFields (toString link.source) (toString link.target)
          (toString link.cost))

/-- Whether a line of a format is blank or a comment. -/
def Format.passesOver (format : Format) (text : String) : Bool :=
  match fields text with
  | [] => true
  | first :: _ => format = .tagged ∧ first = "c"

/-- A text renders a header and edges in a format: they are what is left of it without
blank lines and comments. -/
def Format.Renders (format : Format) (texts : List String) (nodes edges : UInt32)
    (links : List Link) : Prop :=
  texts.filter (fun text => !format.passesOver text) = format.render nodes edges links

instance (texts : List String) : Decidable (format.Renders texts nodes edges links) :=
  inferInstanceAs (Decidable (_ = _))

/-- A rendered line says what it was rendered from. -/
theorem Format.says_render (format : Format) (nodes edges : UInt32)
    (links : List Link) :
    List.Forall₂ (fun text item => format.Says (fields text) item)
      (format.render nodes edges links)
      (.header nodes edges :: links.map .edge) := by
  refine .cons ?_ ?_
  · rw [fields_intercalate ?_]
    · exact .header (isDecimal_toString nodes) (isDecimal_toString edges)
    · cases format with
      | plain => simp [headerFields, isWord_toString]
      | tagged =>
        simp [headerFields, isWord_toString, show IsWord "p" by decide,
          show IsWord "sp" by decide]
  · rw [List.forall₂_map_left_iff, List.forall₂_map_right_iff, List.forall₂_same]
    intro link _
    rw [fields_intercalate ?_]
    · exact .edge (isDecimal_toString _) (isDecimal_toString _) (isDecimal_toString _)
    · cases format with
      | plain => simp [edgeFields, isWord_toString]
      | tagged => simp [edgeFields, isWord_toString, show IsWord "a" by decide]

/-- Blank lines and comments say nothing that counts. -/
theorem Format.exists_says_of_kept {items : List Item}
    (kept : List.Forall₂ (fun text item => format.Says (fields text) item)
      (texts.filter fun text => !format.passesOver text) items) :
    ∃ all, List.Forall₂ format.Says ((texts.map fields).filter (· ≠ [])) all ∧
      all.filter (· ≠ .comment) = items.filter (· ≠ .comment) := by
  induction texts generalizing items with
  | nil =>
    cases kept
    exact ⟨[], .nil, rfl⟩
  | cons text rest ih =>
    rw [List.map_cons]
    cases split : fields text with
    | nil =>
      rw [List.filter_cons_of_neg (by simp [passesOver, split])] at kept
      exact ih kept
    | cons first others =>
      rw [List.filter_cons_of_pos (by simp)]
      by_cases passed : format = .tagged ∧ first = "c"
      · rw [List.filter_cons_of_neg (by simp [passesOver, split, passed])] at kept
        obtain ⟨rfl, rfl⟩ := passed
        obtain ⟨all, said, all_eq⟩ := ih kept
        exact ⟨.comment :: all, .cons (.comment others) said, all_eq⟩
      · rw [List.filter_cons_of_pos (by
          simp only [passesOver, split, passed, decide_false, Bool.not_false])] at kept
        cases kept with
        | cons saidFirst keptRest =>
          obtain ⟨all, said, all_eq⟩ := ih keptRest
          refine ⟨_ :: all, .cons (split ▸ saidFirst) said, ?_⟩
          rw [List.filter_cons, List.filter_cons, all_eq]

/-- A line that is no edge shows its format. -/
theorem Format.Says.ofField_eq {first : String} {others : List String} {item : Item}
    (said : format.Says (first :: others) item) (notEdge : ∀ link, item ≠ .edge link) :
    Format.ofField first = format := by
  generalize words_eq : first :: others = words at said
  cases said with
  | comment rest =>
    cases words_eq
    rfl
  | header isNodes isEdges =>
    cases format with
    | plain =>
      cases words_eq
      refine if_neg ?_
      -- Neither letter starts a numeral.
      obtain ⟨c, rest, first_eq, starts⟩ := isNodes.exists_first
      rintro (rfl | rfl)
      · cases first_eq
        revert starts
        decide
      · cases first_eq
        revert starts
        decide
    | tagged =>
      cases words_eq
      rfl
  | edge => exact absurd rfl (notEdge _)

/-- The format of a text whose lines say a header first is theirs. -/
theorem formatOf_of_said {items others : List Item}
    (said : List.Forall₂ format.Says (lines.filter (· ≠ [])) items)
    (items_eq : items.filter (· ≠ .comment) = .header nodes edges :: others) :
    formatOf lines = format := by
  induction lines with
  | nil =>
    cases said
    cases items_eq
  | cons words rest ih =>
    cases words with
    | nil => exact ih said
    | cons first words =>
      rw [formatOf_cons]
      rw [List.filter_cons_of_pos (by simp)] at said
      cases said with
      | cons saidFirst saidRest =>
        refine saidFirst.ofField_eq ?_
        rintro link rfl
        cases items_eq

theorem describes_of_renders (renders : format.Renders texts nodes edges links) :
    Describes (texts.map fields) nodes edges links := by
  have kept := format.says_render nodes edges links
  rw [← renders] at kept
  obtain ⟨items, said, items_eq⟩ := Format.exists_says_of_kept kept
  have items_eq : items.filter (· ≠ .comment)
      = .header nodes edges :: links.map .edge := by
    rw [items_eq]
    simp
  rw [← formatOf_of_said said items_eq] at said
  exact ⟨items, said, items_eq⟩

/-- Both formats say the same graphs. -/
theorem formats_read_alike (arena : Arena) (strategy : Strategy) {nodes edges : UInt32}
    {links : List Link} {plainTexts taggedTexts : List String}
    (isPlain : Format.plain.Renders plainTexts nodes edges links)
    (isTagged : Format.tagged.Renders taggedTexts nodes edges links) :
    read arena strategy (plainTexts.map .text)
      = build arena ⟨nodes.toNat, edges.toNat, strategy⟩ links ∧
      read arena strategy (taggedTexts.map .text)
        = build arena ⟨nodes.toNat, edges.toNat, strategy⟩ links :=
  ⟨read_of_describes (describes_of_renders isPlain),
    read_of_describes (describes_of_renders isTagged)⟩

/-- A text of three nodes and two edges that allows one edge, with blank lines or
comments put in. -/
def Format.crowded : Format → List String
  | .plain => ["", "3 1", "\t ", "7 4294967295 0", "", "4294967295 10 1"]
  | .tagged =>
    ["c a graph", "p sp 3 1", " c", "a 7 4294967295 0", "c p sp 5 5",
      "a 4294967295 10 1"]

/-- The second edge is one too many in both formats. -/
theorem formats_read_alike_up_to_bound :
    Format.plain.Renders Format.plain.crowded 3 1
      [⟨7, 4294967295, 0⟩, ⟨4294967295, 10, 1⟩] ∧
      Format.tagged.Renders Format.tagged.crowded 3 1
        [⟨7, 4294967295, 0⟩, ⟨4294967295, 10, 1⟩] ∧
      (read ⟨⟨.heap, 0x10000000, 4096, .zeros⟩, 0x10000000, 64, 64, 0⟩ (.hashed 4)
        (Format.plain.crowded.map .text)).map Graph.edgeCount
          = .error (.boundExceeded "edges" 1) ∧
      (read ⟨⟨.heap, 0x10000000, 4096, .zeros⟩, 0x10000000, 64, 64, 0⟩ (.hashed 4)
        (Format.tagged.crowded.map .text)).map Graph.edgeCount
          = .error (.boundExceeded "edges" 1) := by
  have isPlain : Format.plain.Renders Format.plain.crowded 3 1
      [⟨7, 4294967295, 0⟩, ⟨4294967295, 10, 1⟩] := by
    decide +kernel
  have isTagged : Format.tagged.Renders Format.tagged.crowded 3 1
      [⟨7, 4294967295, 0⟩, ⟨4294967295, 10, 1⟩] := by
    decide +kernel
  have refused : (build ⟨⟨.heap, 0x10000000, 4096, .zeros⟩, 0x10000000, 64, 64, 0⟩
        ⟨3, 1, .hashed 4⟩
      [⟨7, 4294967295, 0⟩, ⟨4294967295, 10, 1⟩]).map Graph.edgeCount
        = .error (.boundExceeded "edges" 1) := by
    decide +kernel
  obtain ⟨readPlain, readTagged⟩ :=
    formats_read_alike ⟨⟨.heap, 0x10000000, 4096, .zeros⟩, 0x10000000, 64, 64, 0⟩
      (.hashed 4) isPlain isTagged
  refine ⟨isPlain, isTagged, ?_, ?_⟩
  · rw [readPlain]
    exact refused
  · rw [readTagged]
    exact refused

end ArenaPaths.GraphText
