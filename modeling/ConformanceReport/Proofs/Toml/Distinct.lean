import ConformanceReport.Proofs.Toml.Scanner
import ConformanceReport.Toml.Document

/-!
# The keys of a TOML document

Every table of a document names each of its keys once, however the table is written. That holds of
the values that are scanned (`distinct_value`), of tables while they are built, and so of all that a
text denotes (`distinct_parse`).
-/

namespace ConformanceReport.Toml

open Scanner

/-- No table in a value has a key twice. -/
inductive Value.Distinct : Value → Prop where
  | text (span : Span) (content : String) : Distinct (.text span content)
  | integer (span : Span) (number : Int) : Distinct (.integer span number)
  | floating (span : Span) (number : Float) : Distinct (.floating span number)
  | boolean (span : Span) (truth : Bool) : Distinct (.boolean span truth)
  | moment (span : Span) : Distinct (.moment span)
  | list (span : Span) {items : List Value} (each : ∀ item ∈ items, item.Distinct) :
      Distinct (.list span items)
  | table (span : Span) {entries : List (String × Value)} (keys : (entries.map Prod.fst).Nodup)
      (each : ∀ entry ∈ entries, entry.2.Distinct) : Distinct (.table span entries)

/-- The keys of an unfinished table. -/
def keysOf (entries : List (Key × Item)) : List String :=
  entries.map fun entry => entry.1.text

/-- No table in an unfinished item has a key twice. -/
inductive Item.Distinct : Item → Prop where
  | value {value : Value} (distinct : value.Distinct) : Distinct (.value value)
  | table {origin : Origin} {span : Option Span} {entries : List (Key × Item)}
      (keys : (keysOf entries).Nodup) (each : ∀ entry ∈ entries, entry.2.Distinct) :
      Distinct (.table origin span entries)
  | tables {elements : List Item} (each : ∀ element ∈ elements, element.Distinct) :
      Distinct (.tables elements)

/-- No table in an unfinished table has a key twice, nor has the table itself. -/
structure Table.Distinct (table : Table) : Prop where
  keys : (keysOf table.entries).Nodup
  each : ∀ entry ∈ table.entries, entry.2.Distinct

/-! ## Finished items -/

theorem finishEntries_eq_map (entries : List (Key × Item)) :
    finishEntries entries =
      entries.map fun entry => (entry.1.text, entry.2.finish entry.1.span) := by
  induction entries with
  | nil => rfl
  | cons entry more inductionHypothesis =>
    rw [finishEntries, inductionHypothesis, List.map_cons]

theorem finishElements_eq_map (key : Span) (elements : List Item) :
    finishElements key elements = elements.map (Item.finish key) := by
  induction elements with
  | nil => rfl
  | cons element more inductionHypothesis =>
    rw [finishElements, inductionHypothesis, List.map_cons]

/-- Finishing entries keeps their keys. -/
theorem map_fst_finishEntries (entries : List (Key × Item)) :
    (finishEntries entries).map Prod.fst = keysOf entries := by
  rw [finishEntries_eq_map, List.map_map]
  rfl

theorem Item.Distinct.finish {item : Item} (distinct : item.Distinct) (key : Span) :
    (item.finish key).Distinct := by
  induction distinct generalizing key with
  | value distinct => exact distinct
  | @table origin span entries keys each inductionHypothesis =>
    refine .table _ (by rwa [map_fst_finishEntries]) ?_
    rw [finishEntries_eq_map, List.forall_mem_map]
    exact fun entry member => inductionHypothesis entry member _
  | tables each inductionHypothesis =>
    refine .list _ ?_
    rw [finishElements_eq_map, List.forall_mem_map]
    exact fun element member => inductionHypothesis element member key

/-! ## Tables that are built -/

namespace Table.Distinct

variable {table : Table}

theorem empty (origin : Origin) (span : Option Span) : (Table.mk origin span []).Distinct :=
  ⟨List.nodup_nil, by simp⟩

theorem toItem (distinct : table.Distinct) : table.toItem.Distinct :=
  .table distinct.keys distinct.each

/-- A finished table, wherever it stands. -/
theorem finish (distinct : table.Distinct) (span : Span) :
    (Value.table span (finishEntries table.entries)).Distinct := by
  have distinctItem : (Item.table table.origin (some span) table.entries).Distinct :=
    .table distinct.keys distinct.each
  simpa only [Item.finish, Option.getD_some] using distinctItem.finish span

theorem ofItem {origin : Origin} {span : Option Span} {entries : List (Key × Item)}
    (distinct : (Item.table origin span entries).Distinct) :
    (Table.mk origin span entries).Distinct := by
  cases distinct with
  | table keys each => exact ⟨keys, each⟩

/-- What a key of the table stands for. -/
theorem find? (distinct : table.Distinct) {key : Key} {item : Item}
    (found : table.find? key = some item) : item.Distinct := by
  obtain ⟨entry, isFound, rfl⟩ := Option.map_eq_some_iff.mp found
  exact distinct.each entry (List.mem_of_find?_eq_some isFound)

/-- What is in the list of tables that a key of the table stands for. -/
theorem elements (distinct : table.Distinct) {key : Key} {elements : List Item}
    (areTables : table.find? key = some (.tables elements)) :
    ∀ element ∈ elements, element.Distinct := by
  cases distinct.find? areTables with
  | tables each => exact each

theorem append (distinct : table.Distinct) {key : Key} {item : Item}
    (isNew : table.find? key = none) (distinctItem : item.Distinct) :
    (table.append key item).Distinct where
  keys := by
    rw [Table.find?, Option.map_eq_none_iff, List.find?_eq_none] at isNew
    simp only [Table.append, keysOf, List.map_append, List.map_cons, List.map_nil]
    refine List.nodup_append.mpr ⟨distinct.keys, by simp, ?_⟩
    intro name member other isOther
    obtain ⟨entry, isEntry, rfl⟩ := List.mem_map.mp member
    obtain rfl := List.mem_singleton.mp isOther
    simpa using isNew entry isEntry
  each := by
    simp only [Table.append, List.forall_mem_append, List.forall_mem_singleton]
    exact ⟨distinct.each, distinctItem⟩

theorem replace (distinct : table.Distinct) (key : Key) {item : Item}
    (distinctItem : item.Distinct) : (table.replace key item).Distinct where
  keys := by
    have sameKeys : keysOf (table.replace key item).entries = keysOf table.entries := by
      simp only [Table.replace, keysOf, List.map_map]
      refine List.map_congr_left fun entry _ => ?_
      simp only [Function.comp_apply]
      split <;> rfl
    rw [sameKeys]
    exact distinct.keys
  each := by
    simp only [Table.replace, List.forall_mem_map]
    intro entry member
    split
    · exact distinctItem
    · exact distinct.each entry member

theorem remove (distinct : table.Distinct) (key : Key) : (table.remove key).Distinct where
  keys := distinct.keys.sublist (List.filter_sublist.map _)
  each := fun entry member => distinct.each entry (List.mem_filter.mp member).1

/-- A change of the table that a path leads to. -/
theorem descend {origin : Origin} {change : Table → Option Table}
    (keeps : ∀ table changed, table.Distinct → change table = some changed → changed.Distinct)
    {path : List Key} (distinct : table.Distinct) {changed : Table}
    (made : table.descend origin change path = some changed) : changed.Distinct := by
  induction path generalizing table changed with
  | nil => exact keeps table changed distinct made
  | cons key path inductionHypothesis =>
    rw [Table.descend] at made
    split at made
    · next isNew =>
      obtain ⟨child, isChild, same⟩ := Option.bind_eq_some_iff.mp made
      cases same
      exact distinct.append isNew (inductionHypothesis (.empty origin none) isChild).toItem
    · cases made
    · next childOrigin span entries isTable =>
      split at made
      · cases made
      · obtain ⟨child, isChild, same⟩ := Option.bind_eq_some_iff.mp made
        cases same
        exact distinct.replace key
          (inductionHypothesis (.ofItem (distinct.find? isTable)) isChild).toItem
    · next elements areTables =>
      have each := distinct.elements areTables
      split at made
      · next childOrigin span entries isLast =>
        obtain ⟨child, isChild, same⟩ := Option.bind_eq_some_iff.mp made
        cases same
        have distinctLast := each _ (List.mem_of_getLast? isLast)
        refine distinct.replace key (.tables ?_)
        rw [List.forall_mem_append, List.forall_mem_singleton]
        exact ⟨fun element member => each element (List.dropLast_subset elements member),
          (inductionHypothesis (.ofItem distinctLast) isChild).toItem⟩
      · cases made

theorem insert (distinct : table.Distinct) {path : List Key} {key : Key} {value : Value}
    (distinctValue : value.Distinct) {changed : Table}
    (made : table.insert path key value = some changed) : changed.Distinct := by
  refine distinct.descend (fun target result distinctTarget isResult => ?_) made
  split at isResult
  · cases isResult
  · next allowed =>
    cases isResult
    rw [Bool.or_eq_true, not_or, Option.not_isSome_iff_eq_none] at allowed
    exact distinctTarget.append allowed.2 (.value distinctValue)

end Table.Distinct

/-! ## Values that are scanned -/

/-- Tables with distinct keys are made of distinct values one after the other. -/
theorem distinct_foldlM_insert {pairs : List (List Key × Key × Value)}
    (each : ∀ pair ∈ pairs, pair.2.2.Distinct) {table made : Table} (distinct : table.Distinct)
    (isMade : pairs.foldlM (fun table (path, key, value) => table.insert path key value) table =
      some made) : made.Distinct := by
  induction pairs generalizing table with
  | nil =>
    cases isMade
    exact distinct
  | cons pair more inductionHypothesis =>
    rw [List.forall_mem_cons] at each
    rw [List.foldlM_cons] at isMade
    obtain ⟨next, isNext, isRest⟩ := Option.bind_eq_some_iff.mp isMade
    exact inductionHypothesis each.2 (distinct.insert each.1 isNext) isRest

theorem gives_keyValue {property : Value → Prop} {value : Scanner Value}
    (gives : value.Gives property) :
    (keyValue value).Gives fun pair => property pair.2.2 :=
  .behind _ fun _ => .behind _ fun _ => .behind _ fun _ => gives.bind fun _ holds => .pure holds

theorem gives_separated {α : Type} {property : α → Prop} {item : Scanner α}
    (gives : item.Gives property) :
    (separated item).Gives fun items => ∀ item ∈ items, property item := by
  refine .orElse (gives.bind fun first isFirst => ?_) (.pure (by simp))
  refine (Gives.many (.behind _ fun _ => gives)).bind fun more areMore => .pure ?_
  exact List.forall_mem_cons.mpr ⟨isFirst, areMore⟩

theorem gives_listItems {property : Value → Prop} {value : Scanner Value}
    (gives : value.Gives property) :
    (listItems value).Gives fun items => ∀ item ∈ items, property item := by
  have givesItems : (separated (do betweenItems; let item ← value; betweenItems; return item)).Gives
      fun items => ∀ item ∈ items, property item :=
    gives_separated (.behind _ fun _ => gives.bind fun _ holds => .behind _ fun _ => .pure holds)
  refine .behind _ fun _ => givesItems.bind fun items holds => ?_
  dsimp only
  split
  · exact .behind _ fun _ => .behind _ fun _ => .behind _ fun _ => .pure holds
  · exact .behind _ fun _ => .behind _ fun _ => .pure holds

theorem gives_inlineEntries {value : Scanner Value} (gives : value.Gives Value.Distinct) :
    (inlineEntries value).Gives Table.Distinct := by
  have givesPairs : (separated (do let pair ← keyValue value; blanks; return pair)).Gives
      fun pairs => ∀ pair ∈ pairs, pair.2.2.Distinct :=
    gives_separated ((gives_keyValue gives).bind fun _ holds => .behind _ fun _ => .pure holds)
  refine .behind _ fun _ => .behind _ fun _ => givesPairs.bind fun pairs each => ?_
  exact .behind _ fun _ => .behind _ fun _ => .lift fun made isMade =>
    distinct_foldlM_insert each (.empty .defined none) isMade

/-- What is scanned with distinct values inside is distinct. -/
theorem gives_valueAround {inner : Option (Scanner Value)}
    (gives : ∀ value ∈ inner, value.Gives Value.Distinct) :
    (valueAround inner).Gives Value.Distinct := by
  refine .behind _ fun start => .behind _ fun next => ?_
  split
  · exact .behind _ fun content => .behind _ fun stop => .pure (.text _ content)
  · exact .behind _ fun content => .behind _ fun stop => .pure (.text _ content)
  · split
    · next value =>
      exact (gives_listItems (gives value rfl)).bind fun items each => .behind _ fun stop =>
        .pure (.list _ each)
    · exact .failure
  · split
    · next value =>
      refine (gives_inlineEntries (gives value rfl)).bind fun table distinct =>
        .behind _ fun stop => .pure ?_
      exact distinct.finish ⟨start, stop⟩
    · exact .failure
  · exact .behind _ fun _ => .behind _ fun stop => .pure (.boolean _ true)
  · exact .behind _ fun _ => .behind _ fun stop => .pure (.boolean _ false)
  · refine Gives.bind ?_ fun build (distinct : ∀ span, (build span).Distinct) =>
      .behind _ fun stop => .pure (distinct _)
    refine .orElse (.behind _ fun _ => .pure .moment) (.orElse ?_ ?_)
    · exact .behind _ fun number => .pure fun span => .floating span number
    · exact .behind _ fun number => .pure fun span => .integer span number
  · exact .failure

/-- Scanned values are distinct, whatever is nested in them. -/
theorem gives_value (room : Nat) : (value room).Gives Value.Distinct := by
  induction room with
  | zero => exact gives_valueAround (by simp)
  | succ room inductionHypothesis =>
    refine gives_valueAround fun inner isInner => ?_
    cases isInner
    exact inductionHypothesis

/-! ## Documents -/

/-- The value on a line of a document, if there is one, is distinct. -/
def Expression.Distinct : Expression → Prop
  | .pair _ _ value => value.Distinct
  | .header _ _ _ => True
  | .elementHeader _ _ _ => True

theorem gives_header : header.Gives Expression.Distinct := by
  refine .behind _ fun start => .behind _ fun next => ?_
  split
  · exact .behind _ fun _ => .behind _ fun _ => .behind _ fun _ => .behind _ fun _ => .pure trivial
  · exact .behind _ fun _ => .behind _ fun _ => .behind _ fun _ => .behind _ fun _ => .pure trivial

theorem gives_pair : pair.Gives Expression.Distinct :=
  (gives_keyValue (gives_value _)).bind fun _ distinct => .pure distinct

theorem gives_line : line.Gives fun found => ∀ expression ∈ found, expression.Distinct := by
  refine .behind _ fun _ => .behind _ fun next => ?_
  split
  · exact .failure
  · exact .behind _ fun _ => .pure (by simp)
  · exact .behind _ fun _ => .pure (by simp)
  · exact .behind _ fun _ => .pure (by simp)
  · dsimp only
    split
    · exact gives_header.bind fun expression distinct => .behind _ fun _ =>
        .pure (by simpa using distinct)
    · exact gives_pair.bind fun expression distinct => .behind _ fun _ =>
        .pure (by simpa using distinct)

theorem gives_expressions :
    expressions.Gives fun found => ∀ expression ∈ found, expression.Distinct := by
  refine .behind _ fun _ => gives_line.many.bind fun lines each => .behind _ fun _ => .pure ?_
  intro expression member
  obtain ⟨found, isLine, isFound⟩ := List.mem_filterMap.mp member
  exact each found isLine expression isFound

/-- The tables of a draft have distinct keys. -/
structure Draft.Distinct (draft : Draft) : Prop where
  root : draft.root.Distinct
  current : draft.current.Distinct

namespace Draft.Distinct

variable {draft : Draft}

theorem settle (distinct : draft.Distinct) {settled : Table}
    (isSettled : draft.settle = some settled) : settled.Distinct := by
  unfold Draft.settle at isSettled
  split at isSettled
  · cases isSettled
    exact distinct.current
  · next path key isPlace =>
    refine distinct.root.descend (fun parent changed distinctParent made => ?_) isSettled
    split at made
    · next elements areTables =>
      cases made
      refine distinctParent.replace key (.tables ?_)
      rw [List.forall_mem_append, List.forall_mem_singleton]
      exact ⟨distinctParent.elements areTables, distinct.current.toItem⟩
    · cases made
    · next isNew =>
      cases made
      refine distinctParent.append isNew (.tables ?_)
      rw [List.forall_mem_singleton]
      exact distinct.current.toItem
  · next path key isPlace =>
    refine distinct.root.descend (fun parent changed distinctParent made => ?_) isSettled
    split at made
    · cases made
    · cases made
      exact distinctParent.replace key distinct.current.toItem
    · cases made
    · next isNew =>
      cases made
      exact distinctParent.append isNew distinct.current.toItem

theorem tableAt {path : List Key} {table found : Table} (distinct : table.Distinct)
    (isFound : Draft.tableAt? path table = some found) : found.Distinct := by
  induction path generalizing table with
  | nil =>
    cases isFound
    exact distinct
  | cons key path inductionHypothesis =>
    rw [Draft.tableAt?] at isFound
    split at isFound
    · next isTable => exact inductionHypothesis (.ofItem (distinct.find? isTable)) isFound
    · next elements areTables =>
      have each := distinct.elements areTables
      split at isFound
      · next isLast =>
        exact inductionHypothesis (.ofItem (each _ (List.mem_of_getLast? isLast))) isFound
      · cases isFound
    · cases isFound

theorem startTable (distinct : draft.Distinct) {path : List Key} {key : Key} {span : Span}
    {next : Draft} (isNext : draft.startTable path key span = some next) : next.Distinct := by
  obtain ⟨settled, isSettled, isNext⟩ := Option.bind_eq_some_iff.mp isNext
  obtain ⟨root, isRoot, isNext⟩ := Option.bind_eq_some_iff.mp isNext
  obtain ⟨parent, isParent, isNext⟩ := Option.bind_eq_some_iff.mp isNext
  have distinctRoot : root.Distinct :=
    (distinct.settle isSettled).descend (fun _ _ distinct same => by cases same; exact distinct)
      isRoot
  split at isNext
  · cases isNext
    exact ⟨distinctRoot, .empty .defined (some span)⟩
  · next isImplied =>
    obtain ⟨rest, isRest, same⟩ := Option.bind_eq_some_iff.mp isNext
    cases same
    have distinctEntries := Table.Distinct.ofItem ((tableAt distinctRoot isParent).find? isImplied)
    refine ⟨distinctRoot.descend (fun parent changed distinctParent removed => ?_) isRest,
      distinctEntries.keys, distinctEntries.each⟩
    cases removed
    exact distinctParent.remove key
  · cases isNext

theorem startElement (distinct : draft.Distinct) {path : List Key} {key : Key} {span : Span}
    {next : Draft} (isNext : draft.startElement path key span = some next) : next.Distinct := by
  obtain ⟨settled, isSettled, isNext⟩ := Option.bind_eq_some_iff.mp isNext
  obtain ⟨root, isRoot, same⟩ := Option.bind_eq_some_iff.mp isNext
  cases same
  refine ⟨(distinct.settle isSettled).descend (fun parent changed distinctParent made => ?_) isRoot,
    .empty .defined (some span)⟩
  split at made
  · next isNew =>
    cases made
    exact distinctParent.append isNew (.tables (by simp))
  · cases made
    exact distinctParent
  · cases made

theorem add (distinct : draft.Distinct) {expression : Expression}
    (distinctExpression : expression.Distinct) {next : Draft}
    (isNext : draft.add expression = some next) : next.Distinct := by
  cases expression with
  | pair path key value =>
    obtain ⟨current, isCurrent, same⟩ := Option.bind_eq_some_iff.mp isNext
    cases same
    have distinctCurrent := distinct.current.insert distinctExpression isCurrent
    exact ⟨distinct.root, distinctCurrent.keys, distinctCurrent.each⟩
  | header path key span => exact distinct.startTable isNext
  | elementHeader path key span => exact distinct.startElement isNext

theorem foldlM_add (distinct : draft.Distinct) {found : List Expression}
    (each : ∀ expression ∈ found, expression.Distinct) {last : Draft}
    (isLast : found.foldlM Draft.add draft = some last) : last.Distinct := by
  induction found generalizing draft with
  | nil =>
    cases isLast
    exact distinct
  | cons expression more inductionHypothesis =>
    rw [List.forall_mem_cons] at each
    rw [List.foldlM_cons] at isLast
    obtain ⟨next, isNext, isRest⟩ := Option.bind_eq_some_iff.mp isLast
    exact inductionHypothesis (distinct.add each.1 isNext) each.2 isRest

end Draft.Distinct

/-- A document names each of its keys once, and so does every table in it. -/
theorem distinct_parse {text : List Char} {entries : List (String × Value)}
    (parsed : parse text = some entries) (span : Span) : (Value.table span entries).Distinct := by
  obtain ⟨found, isFound, parsed⟩ := Option.bind_eq_some_iff.mp parsed
  obtain ⟨draft, isDraft, parsed⟩ := Option.bind_eq_some_iff.mp parsed
  obtain ⟨root, isRoot, same⟩ := Option.bind_eq_some_iff.mp parsed
  cases same
  have distinctStart : Draft.start.Distinct := ⟨.empty .defined none, .empty .defined none⟩
  have distinctDraft := distinctStart.foldlM_add (gives_expressions.onWhole isFound) isDraft
  exact (distinctDraft.settle isRoot).finish span

end ConformanceReport.Toml
