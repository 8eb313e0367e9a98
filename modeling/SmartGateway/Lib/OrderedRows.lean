import Mathlib.Data.List.Sort

/-! # Reading rows in order

A query sorts the rows it selects and reads each of them, and fails where one cannot be
read. `read_insert` says what one more row does to the result: it appears at its place, and
everything else stays as it was.
-/

namespace OrderedRows

variable {α β ε : Type}

/-- A computation that succeeds succeeds in each of its parts. -/
theorem ok_of_bind {x : Except ε α} {f : α → Except ε β} {b : β} (h : x >>= f = .ok b) :
    ∃ a, x = .ok a ∧ f a = .ok b := by
  cases x with
  | error e => cases h
  | ok a => exact ⟨a, rfl, h⟩


/-- Reads every row of a list. -/
theorem mapM_insert {read : α → Except ε β} {before after : List α} {items : List β} {x : α} {y : β}
    (h : (before ++ after).mapM read = .ok items) (hx : read x = .ok y) :
    ∃ first last, items = first ++ last ∧
      (before ++ x :: after).mapM read = .ok (first ++ y :: last) := by
  induction before generalizing items with
  | nil =>
    refine ⟨[], items, rfl, ?_⟩
    rw [List.nil_append] at h
    rw [List.nil_append, List.mapM_cons, hx, h]
    rfl
  | cons row before ih =>
    rw [List.cons_append, List.mapM_cons] at h
    cases hrow : read row with
    | error e =>
      rw [hrow] at h
      cases h
    | ok item =>
      rw [hrow] at h
      cases hrest : (before ++ after).mapM read with
      | error e =>
        rw [hrest] at h
        cases h
      | ok rest =>
        rw [hrest] at h
        cases h
        obtain ⟨first, last, hitems, hinsert⟩ := ih hrest
        refine ⟨item :: first, last, by rw [hitems, List.cons_append], ?_⟩
        rw [List.cons_append, List.mapM_cons, hrow, hinsert]
        rfl

/-- Reading depends on the rows alone. -/
theorem mapM_congr {read read' : α → Except ε β} {rows : List α}
    (h : ∀ row ∈ rows, read row = read' row) : rows.mapM read = rows.mapM read' := by
  induction rows with
  | nil => rfl
  | cons row rows ih =>
    rw [List.mapM_cons, List.mapM_cons, h row List.mem_cons_self,
      ih fun other hother => h other (List.mem_cons_of_mem _ hother)]

/-- Where every row can be read, the list can. -/
theorem exists_mapM {read : α → Except ε β} {rows : List α}
    (h : ∀ row ∈ rows, ∃ item, read row = .ok item) : ∃ items, rows.mapM read = .ok items := by
  induction rows with
  | nil => exact ⟨[], rfl⟩
  | cons row rows ih =>
    obtain ⟨item, hitem⟩ := h row List.mem_cons_self
    obtain ⟨items, hitems⟩ := ih fun other hother => h other (List.mem_cons_of_mem _ hother)
    refine ⟨item :: items, ?_⟩
    rw [List.mapM_cons, hitem, hitems]
    rfl

/-- The items of a list that was read, each beside its row. -/
theorem forall₂_of_mapM {read : α → Except ε β} {rows : List α} {items : List β}
    (h : rows.mapM read = .ok items) :
    List.Forall₂ (fun row item => read row = .ok item) rows items := by
  induction rows generalizing items with
  | nil =>
    cases h
    exact .nil
  | cons row rows ih =>
    rw [List.mapM_cons] at h
    obtain ⟨item, hitem, h⟩ := ok_of_bind h
    obtain ⟨rest, hrest, h⟩ := ok_of_bind h
    cases h
    exact .cons hitem (ih hrest)

/-- Two ways to read a list that give the same items read each row alike. -/
theorem eq_of_mapM {read read' : α → Except ε β} {rows : List α} {items : List β}
    (h : rows.mapM read = .ok items) (h' : rows.mapM read' = .ok items) :
    ∀ row ∈ rows, read row = read' row := by
  induction rows generalizing items with
  | nil =>
    intro row hrow
    cases hrow
  | cons row rows ih =>
    -- neither reads an error, or it would not give the items
    rw [List.mapM_cons] at h h'
    cases hrow : read row with
    | error e =>
      rw [hrow] at h
      cases h
    | ok item =>
      cases hrow' : read' row with
      | error e =>
        rw [hrow'] at h'
        cases h'
      | ok item' =>
        rw [hrow] at h
        rw [hrow'] at h'
        cases hrest : rows.mapM read with
        | error e =>
          rw [hrest] at h
          cases h
        | ok rest =>
          cases hrest' : rows.mapM read' with
          | error e =>
            rw [hrest'] at h'
            cases h'
          | ok rest' =>
            rw [hrest] at h
            rw [hrest'] at h'
            cases h
            cases h'
            intro other hother
            rcases List.mem_cons.mp hother with rfl | hother
            · rw [hrow, hrow']
            · exact ih hrest hrest' other hother

/-- A list whose rows are read one by one is read. -/
theorem mapM_eq_ok {read : α → Except ε β} {write : β → α} {items : List β}
    (h : ∀ item ∈ items, read (write item) = .ok item) : (items.map write).mapM read = .ok items := by
  induction items with
  | nil => rfl
  | cons item items ih =>
    rw [List.map_cons, List.mapM_cons, h item List.mem_cons_self,
      ih fun other hother => h other (List.mem_cons_of_mem _ hother)]
    rfl

/-- A query over rows that were written for some items selects and sorts the items. -/
theorem read_written {read : α → Except ε β} {write : β → α} {items : List β}
    (h : ∀ item ∈ items, read (write item) = .ok item) (p : α → Bool) (r : α → α → Prop)
    [DecidableRel r] :
    (((items.map write).filter p).insertionSort r).mapM read =
      .ok ((items.filter fun item => p (write item)).insertionSort fun a b =>
        r (write a) (write b)) := by
  have hsorted := List.map_insertionSort (fun a b => r (write a) (write b)) r write
    (items.filter fun item => p (write item)) fun _ _ _ _ => Iff.rfl
  rw [List.filter_map]
  refine (congrArg (List.mapM read) hsorted.symm).trans (mapM_eq_ok ?_)
  intro item hitem
  exact h item (List.mem_of_mem_filter ((List.mem_insertionSort _).mp hitem))

variable (r : α → α → Prop) [DecidableRel r] [Std.Total r] [IsTrans α r]

/-- Sorting one row more: it is inserted, where the order tells rows apart. -/
theorem insertionSort_append {rows : List α} {x : α}
    (hanti : ∀ a ∈ x :: rows, ∀ b ∈ x :: rows, r a b → r b a → a = b) :
    ∃ before after, rows.insertionSort r = before ++ after ∧
      (rows ++ [x]).insertionSort r = before ++ x :: after := by
  have hsorted : (rows ++ [x]).insertionSort r = (rows.insertionSort r).orderedInsert r x := by
    have hperm : ((rows ++ [x]).insertionSort r).Perm ((rows.insertionSort r).orderedInsert r x) := by
      refine (List.perm_insertionSort r _).trans ?_
      refine List.perm_append_comm.trans ?_
      exact ((List.perm_insertionSort r rows).symm.cons x).trans (List.perm_orderedInsert r x _).symm
    refine hperm.eq_of_pairwise ?_ (List.pairwise_insertionSort r _)
      ((List.pairwise_insertionSort r rows).orderedInsert x _)
    intro a b ha hb hab hba
    have hmem : ∀ c ∈ (rows.insertionSort r).orderedInsert r x, c ∈ x :: rows := by
      intro c hc
      rcases (List.mem_orderedInsert r).mp hc with rfl | hc
      · exact List.mem_cons_self
      · exact List.mem_cons_of_mem _ ((List.mem_insertionSort r).mp hc)
    exact hanti a (hmem a (hperm.mem_iff.mp ha)) b (hmem b hb) hab hba
  rw [hsorted, List.orderedInsert_eq_take_drop]
  exact ⟨_, _, (List.takeWhile_append_dropWhile ..).symm, rfl⟩

/-- Leaving rows out does not change the order of the others. -/
theorem insertionSort_filter {rows : List α}
    (hanti : ∀ a ∈ rows, ∀ b ∈ rows, r a b → r b a → a = b) (p : α → Bool) :
    (rows.filter p).insertionSort r = (rows.insertionSort r).filter p := by
  have hperm : ((rows.filter p).insertionSort r).Perm ((rows.insertionSort r).filter p) :=
    (List.perm_insertionSort r _).trans ((List.perm_insertionSort r rows).symm.filter p)
  refine hperm.eq_of_pairwise ?_ (List.pairwise_insertionSort r _)
    ((List.pairwise_insertionSort r rows).filter p)
  intro a b ha hb hab hba
  have ha := (List.mem_insertionSort r).mp ha
  have hb := (List.mem_insertionSort r).mp (List.mem_of_mem_filter hb)
  exact hanti a (List.mem_of_mem_filter ha) b hb hab hba

/-- A query over one row more: the item of the row is inserted into the result. -/
theorem read_insert {read : α → Except ε β} {rows : List α} {items : List β} {x : α} {y : β}
    (hanti : ∀ a ∈ x :: rows, ∀ b ∈ x :: rows, r a b → r b a → a = b)
    (h : (rows.insertionSort r).mapM read = .ok items) (hx : read x = .ok y) :
    ∃ first last, items = first ++ last ∧
      ((rows ++ [x]).insertionSort r).mapM read = .ok (first ++ y :: last) := by
  obtain ⟨before, after, hold, hnew⟩ := insertionSort_append r hanti
  rw [hold] at h
  rw [hnew]
  exact mapM_insert h hx

end OrderedRows
