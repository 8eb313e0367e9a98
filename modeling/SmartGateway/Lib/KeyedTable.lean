import Mathlib.Data.List.Nodup
import Mathlib.Data.List.Basic
import Mathlib.Data.List.Sort

/-! # Keyed tables

A relational table with a primary key, kept as its rows in insertion order.
The key column is stored apart from the payload, so an update of the payload
cannot break the key, and uniqueness of keys is a field: a table with two rows
for one key cannot be built.

The operations are the SQL statements on one table, read back as functions:
`modify` is `UPDATE … WHERE key = k`, `upsert` is `INSERT … ON CONFLICT DO UPDATE`
and `eraseIf` is `DELETE … WHERE key = k AND p`. The `get?` lemma of each
operation is all that a proof about a table needs.
-/

/-- A table whose rows are pairs of a key and a payload, with unique keys. -/
@[ext] structure KeyedTable (κ ν : Type) where
  rows : List (κ × ν)
  nodupKeys : (rows.map Prod.fst).Nodup
deriving DecidableEq

namespace KeyedTable

variable {κ ν : Type}

/-- The table without rows. -/
def empty : KeyedTable κ ν := ⟨[], List.nodup_nil⟩

/-- The table with one row. -/
def single (k : κ) (v : ν) : KeyedTable κ ν := ⟨[(k, v)], List.nodup_singleton k⟩

theorem mem_single {k : κ} {v : ν} {row : κ × ν} (h : row ∈ (single k v).rows) : row = (k, v) :=
  List.mem_singleton.mp h

/-- A key has one row. -/
theorem eq_of_key {t : KeyedTable κ ν} {a b : κ × ν} (ha : a ∈ t.rows) (hb : b ∈ t.rows)
    (h : a.1 = b.1) : a = b :=
  List.inj_on_of_nodup_map t.nodupKeys ha hb h

variable [DecidableEq κ]

/-- The payload stored under `k`. -/
def get? (t : KeyedTable κ ν) (k : κ) : Option ν :=
  (t.rows.find? fun row => row.1 = k).map Prod.snd

/-- `UPDATE … WHERE key = k`. -/
def modify (t : KeyedTable κ ν) (k : κ) (f : ν → ν) : KeyedTable κ ν where
  rows := t.rows.map fun row => (row.1, if row.1 = k then f row.2 else row.2)
  nodupKeys := by
    have hkeys : (t.rows.map fun row => (row.1, if row.1 = k then f row.2 else row.2)).map
        Prod.fst = t.rows.map Prod.fst := by
      rw [List.map_map]
      rfl
    rw [hkeys]
    exact t.nodupKeys

/-- `DELETE … WHERE key = k AND p`. -/
def eraseIf (t : KeyedTable κ ν) (k : κ) (p : ν → Bool) : KeyedTable κ ν where
  rows := t.rows.filter fun row => !(row.1 = k && p row.2)
  nodupKeys := (List.filter_sublist.map Prod.fst).nodup t.nodupKeys

/-- `DELETE … WHERE key = k`. -/
def erase (t : KeyedTable κ ν) (k : κ) : KeyedTable κ ν := t.eraseIf k fun _ => true

/-! ## Lookup -/

@[simp] theorem get?_empty (k : κ) : (empty : KeyedTable κ ν).get? k = none := rfl

/-- A lookup returns exactly the stored row. -/
theorem get?_eq_some {t : KeyedTable κ ν} {k : κ} {v : ν} :
    t.get? k = some v ↔ (k, v) ∈ t.rows := by
  unfold get?
  constructor
  · intro h
    obtain ⟨row, hrow, hv⟩ := Option.map_eq_some_iff.mp h
    have hmem : row ∈ t.rows := List.mem_of_find?_eq_some hrow
    have hkey : row.1 = k := by simpa using List.find?_some hrow
    have : row = (k, v) := Prod.ext hkey hv
    rwa [this] at hmem
  · intro hmem
    cases hfind : t.rows.find? fun row => row.1 = k with
    | none =>
      have := List.find?_eq_none.mp hfind (k, v) hmem
      simp at this
    | some row =>
      have hrow : row ∈ t.rows := List.mem_of_find?_eq_some hfind
      have hkey : row.1 = k := by simpa using List.find?_some hfind
      -- two rows with one key are the same row
      have : row = (k, v) := List.inj_on_of_nodup_map t.nodupKeys hrow hmem hkey
      rw [this]
      rfl

theorem get?_eq_none {t : KeyedTable κ ν} {k : κ} :
    t.get? k = none ↔ ∀ v, (k, v) ∉ t.rows := by
  constructor
  · intro h v hmem
    rw [get?_eq_some.mpr hmem] at h
    cases h
  · intro h
    cases hk : t.get? k with
    | none => rfl
    | some v => exact absurd (get?_eq_some.mp hk) (h v)

theorem mem_keys {t : KeyedTable κ ν} {k : κ} :
    k ∈ t.rows.map Prod.fst ↔ t.get? k ≠ none := by
  rw [List.mem_map]
  constructor
  · rintro ⟨row, hrow, rfl⟩
    rw [get?_eq_some.mpr hrow]
    simp
  · intro h
    obtain ⟨v, hv⟩ := Option.ne_none_iff_exists'.mp h
    exact ⟨(k, v), get?_eq_some.mp hv, rfl⟩

/-- Tables that answer every lookup alike have the same rows, in some order. -/
theorem rows_perm {t t' : KeyedTable κ ν} (h : ∀ k, t.get? k = t'.get? k) :
    t.rows.Perm t'.rows := by
  refine (List.perm_ext_iff_of_nodup (.of_map _ t.nodupKeys) (.of_map _ t'.nodupKeys)).mpr ?_
  rintro ⟨k, v⟩
  rw [← get?_eq_some, ← get?_eq_some, h]

/-- The only row of its key. -/
theorem filter_key {t : KeyedTable κ ν} {k : κ} {v : ν} (h : t.get? k = some v) :
    t.rows.filter (fun row => row.1 = k) = [(k, v)] := by
  obtain ⟨rows, hkeys⟩ := t
  have hmem : (k, v) ∈ rows := get?_eq_some.mp h
  clear h
  dsimp only
  induction rows with
  | nil => cases hmem
  | cons row rows ih =>
    rw [List.map_cons, List.nodup_cons] at hkeys
    by_cases hk : row.1 = k
    · have hother : ∀ other ∈ rows, other.1 ≠ k := by
        intro other hother hsame
        exact hkeys.1 (List.mem_map.mpr ⟨other, hother, hsame.trans hk.symm⟩)
      have hrow : row = (k, v) := by
        rcases List.mem_cons.mp hmem with hrow | hlater
        · exact hrow.symm
        · exact absurd rfl (hother _ hlater)
      rw [List.filter_cons_of_pos (by simpa using hk), List.filter_eq_nil_iff.mpr, hrow]
      intro other hmember
      simpa using hother other hmember
    · rw [List.filter_cons_of_neg (by simpa using hk)]
      apply ih hkeys.2
      rcases List.mem_cons.mp hmem with rfl | hlater
      · exact absurd rfl hk
      · exact hlater

/-! ## Updates -/

@[simp] theorem rows_modify (t : KeyedTable κ ν) (k : κ) (f : ν → ν) :
    (t.modify k f).rows = t.rows.map fun row => (row.1, if row.1 = k then f row.2 else row.2) :=
  rfl

theorem get?_modify (t : KeyedTable κ ν) (k j : κ) (f : ν → ν) :
    (t.modify k f).get? j = if j = k then (t.get? k).map f else t.get? j := by
  have hfind : (t.modify k f).rows.find? (fun row => row.1 = j) =
      (t.rows.find? fun row => row.1 = j).map
        fun row => (row.1, if row.1 = k then f row.2 else row.2) := by
    rw [rows_modify, List.find?_map]
    rfl
  unfold get?
  rw [hfind]
  by_cases hjk : j = k
  · subst hjk
    rw [if_pos rfl]
    cases hj : t.rows.find? fun row => row.1 = j with
    | none => rfl
    | some row =>
      have hkey : row.1 = j := by simpa using List.find?_some hj
      simp [hkey]
  · rw [if_neg hjk]
    cases hj : t.rows.find? fun row => row.1 = j with
    | none => rfl
    | some row =>
      have hkey : row.1 = j := by simpa using List.find?_some hj
      simp [hkey, hjk]

@[simp] theorem get?_modify_self (t : KeyedTable κ ν) (k : κ) (f : ν → ν) :
    (t.modify k f).get? k = (t.get? k).map f := by
  rw [get?_modify, if_pos rfl]

theorem get?_modify_ne (t : KeyedTable κ ν) {k j : κ} (f : ν → ν) (h : j ≠ k) :
    (t.modify k f).get? j = t.get? j := by
  rw [get?_modify, if_neg h]

/-- A payload after an update is an old one under another key, or an updated one. -/
theorem get?_modify_cases {t : KeyedTable κ ν} {k j : κ} {f : ν → ν} {v : ν}
    (h : (t.modify k f).get? j = some v) :
    (j ≠ k ∧ t.get? j = some v) ∨ (j = k ∧ ∃ old, t.get? j = some old ∧ f old = v) := by
  rw [get?_modify] at h
  by_cases hjk : j = k
  · subst hjk
    rw [if_pos rfl, Option.map_eq_some_iff] at h
    exact Or.inr ⟨rfl, h⟩
  · rw [if_neg hjk] at h
    exact Or.inl ⟨hjk, h⟩

/-- An update keeps the keys. -/
theorem get?_modify_ne_none {t : KeyedTable κ ν} {k j : κ} {f : ν → ν} (h : t.get? j ≠ none) :
    (t.modify k f).get? j ≠ none := by
  by_cases hjk : j = k
  · subst hjk
    rw [get?_modify_self]
    simpa using h
  · rwa [get?_modify_ne _ _ hjk]

theorem get?_modify_ne_none_iff {t : KeyedTable κ ν} {k j : κ} {f : ν → ν} :
    (t.modify k f).get? j ≠ none ↔ t.get? j ≠ none := by
  rw [get?_modify]
  split <;> simp_all

/-- An update that leaves the stored payload as it is leaves the table as it is. -/
theorem modify_eq_self {t : KeyedTable κ ν} {k : κ} {f : ν → ν}
    (h : ∀ v, t.get? k = some v → f v = v) : t.modify k f = t := by
  apply KeyedTable.ext
  rw [rows_modify]
  conv_rhs => rw [← List.map_id t.rows]
  apply List.map_congr_left
  intro row hrow
  by_cases hk : row.1 = k
  · have hv : f row.2 = row.2 := h row.2 (get?_eq_some.mpr (by rw [← hk]; exact hrow))
    exact Prod.ext rfl (by rw [if_pos hk, hv]; rfl)
  · exact Prod.ext rfl (by rw [if_neg hk]; rfl)

/-- Every payload of an updated table is an old one or an updated old one. -/
theorem mem_modify {t : KeyedTable κ ν} {k : κ} {f : ν → ν} {row : κ × ν}
    (h : row ∈ (t.modify k f).rows) :
    row ∈ t.rows ∨ ∃ v, (k, v) ∈ t.rows ∧ row = (k, f v) := by
  rw [rows_modify, List.mem_map] at h
  obtain ⟨old, hold, rfl⟩ := h
  by_cases hk : old.1 = k
  · right
    exact ⟨old.2, by rw [← hk]; exact hold, by simp [hk]⟩
  · left
    simpa [hk] using hold

theorem get?_eraseIf (t : KeyedTable κ ν) (k j : κ) (p : ν → Bool) :
    (t.eraseIf k p).get? j = if j = k then (t.get? k).filter (fun v => !p v) else t.get? j := by
  have hrows : ∀ v, (j, v) ∈ (t.eraseIf k p).rows ↔ (j, v) ∈ t.rows ∧ (j = k → p v = false) := by
    intro v
    simp only [eraseIf, List.mem_filter, Bool.not_and, Bool.or_eq_true, Bool.not_eq_true',
      decide_eq_false_iff_not]
    constructor
    · rintro ⟨hmem, hne | hp⟩
      · exact ⟨hmem, fun h => absurd h hne⟩
      · exact ⟨hmem, fun _ => hp⟩
    · rintro ⟨hmem, hp⟩
      by_cases hjk : j = k
      · exact ⟨hmem, Or.inr (hp hjk)⟩
      · exact ⟨hmem, Or.inl hjk⟩
  apply Option.ext
  intro v
  rw [get?_eq_some, hrows]
  by_cases hjk : j = k
  · subst hjk
    rw [if_pos rfl, Option.filter_eq_some_iff, get?_eq_some]
    simp
  · rw [if_neg hjk, get?_eq_some]
    exact ⟨fun h => h.1, fun h => ⟨h, fun e => absurd e hjk⟩⟩

theorem get?_erase (t : KeyedTable κ ν) (k j : κ) :
    (t.erase k).get? j = if j = k then none else t.get? j := by
  unfold erase
  rw [get?_eraseIf]
  by_cases hjk : j = k
  · rw [if_pos hjk, if_pos hjk]
    cases t.get? k <;> simp
  · rw [if_neg hjk, if_neg hjk]

/-! ## Inserts -/

/-- A row under a key the table does not have yet. -/
def append (t : KeyedTable κ ν) (k : κ) (v : ν) (fresh : t.get? k = none) : KeyedTable κ ν where
  rows := t.rows ++ [(k, v)]
  nodupKeys := by
    rw [List.map_append, List.nodup_append]
    refine ⟨t.nodupKeys, List.nodup_singleton k, ?_⟩
    intro a ha b hb hab
    rw [List.map_singleton, List.mem_singleton] at hb
    subst hab
    rw [hb] at ha
    exact mem_keys.mp ha fresh

/-- `INSERT … ON CONFLICT (key) DO UPDATE`: `merge` is the update of an existing row. -/
def upsert (t : KeyedTable κ ν) (k : κ) (v : ν) (merge : ν → ν) : KeyedTable κ ν :=
  if fresh : t.get? k = none then t.append k v fresh else t.modify k merge

theorem get?_append (t : KeyedTable κ ν) (k j : κ) (v : ν) (fresh : t.get? k = none) :
    (t.append k v fresh).get? j = if j = k then some v else t.get? j := by
  apply Option.ext
  intro w
  rw [get?_eq_some]
  simp only [append, List.mem_append, List.mem_singleton, Prod.mk.injEq]
  by_cases hjk : j = k
  · subst hjk
    rw [if_pos rfl]
    constructor
    · rintro (hmem | ⟨-, rfl⟩)
      · exact absurd hmem (get?_eq_none.mp fresh w)
      · rfl
    · intro h
      cases h
      exact Or.inr ⟨rfl, rfl⟩
  · rw [if_neg hjk, get?_eq_some]
    simp [hjk]

/-- A row that is added takes no key away. -/
theorem get?_append_ne_none {t : KeyedTable κ ν} {k j : κ} {v : ν} {fresh : t.get? k = none}
    (h : t.get? j ≠ none ∨ j = k) : (t.append k v fresh).get? j ≠ none := by
  rw [get?_append]
  by_cases hjk : j = k
  · rw [if_pos hjk]
    simp
  · rw [if_neg hjk]
    exact h.resolve_right hjk

theorem get?_append_ne_none_iff {t : KeyedTable κ ν} {k j : κ} {v : ν} {fresh : t.get? k = none} :
    (t.append k v fresh).get? j ≠ none ↔ t.get? j ≠ none ∨ j = k := by
  rw [get?_append]
  split <;> simp_all

theorem mem_append {t : KeyedTable κ ν} {k : κ} {v : ν} {fresh : t.get? k = none} {row : κ × ν}
    (h : row ∈ (t.append k v fresh).rows) : row ∈ t.rows ∨ row = (k, v) := by
  rcases List.mem_append.mp h with hold | hnew
  · exact Or.inl hold
  · exact Or.inr (List.mem_singleton.mp hnew)

theorem upsert_of_none {t : KeyedTable κ ν} {k : κ} {v : ν} {merge : ν → ν}
    (h : t.get? k = none) : t.upsert k v merge = t.append k v h := by
  unfold upsert
  rw [dif_pos h]

theorem upsert_of_some {t : KeyedTable κ ν} {k : κ} {v w : ν} {merge : ν → ν}
    (h : t.get? k = some w) : t.upsert k v merge = t.modify k merge := by
  unfold upsert
  rw [dif_neg (by rw [h]; simp)]

theorem get?_upsert (t : KeyedTable κ ν) (k j : κ) (v : ν) (merge : ν → ν) :
    (t.upsert k v merge).get? j = if j = k then some ((t.get? k).elim v merge) else t.get? j := by
  cases hk : t.get? k with
  | none => rw [upsert_of_none hk, get?_append, Option.elim_none]
  | some w => rw [upsert_of_some hk, get?_modify, hk, Option.elim_some, Option.map_some]

@[simp] theorem get?_upsert_self (t : KeyedTable κ ν) (k : κ) (v : ν) (merge : ν → ν) :
    (t.upsert k v merge).get? k = some ((t.get? k).elim v merge) := by
  rw [get?_upsert, if_pos rfl]

theorem get?_upsert_ne (t : KeyedTable κ ν) {k j : κ} (v : ν) (merge : ν → ν) (h : j ≠ k) :
    (t.upsert k v merge).get? j = t.get? j := by
  rw [get?_upsert, if_neg h]

theorem get?_upsert_ne_none_iff {t : KeyedTable κ ν} {k j : κ} {v : ν} {merge : ν → ν} :
    (t.upsert k v merge).get? j ≠ none ↔ t.get? j ≠ none ∨ j = k := by
  rw [get?_upsert]
  split <;> simp_all

/-! ## Grouping -/

/-- Applies `f` to every payload. -/
def mapValues {ω : Type} (t : KeyedTable κ ν) (f : ν → ω) : KeyedTable κ ω where
  rows := t.rows.map fun row => (row.1, f row.2)
  nodupKeys := by
    rw [List.map_map]
    exact t.nodupKeys

theorem get?_mapValues {ω : Type} (t : KeyedTable κ ν) (f : ν → ω) (k : κ) :
    (t.mapValues f).get? k = (t.get? k).map f := by
  unfold get? mapValues
  rw [List.find?_map, Option.map_map, Option.map_map]
  rfl

/-- One pass over `pairs` that collects the values of each key in order:
`entry(key).or_default().push(value)`. -/
def group (pairs : List (κ × ν)) : KeyedTable κ (List ν) :=
  pairs.foldl (fun t pair => t.upsert pair.1 [pair.2] (· ++ [pair.2])) empty

/-- The values paired with `k`, in order. -/
def valuesAt (pairs : List (κ × ν)) (k : κ) : List ν :=
  (pairs.filter fun pair => pair.1 = k).map Prod.snd

theorem mem_valuesAt {pairs : List (κ × ν)} {k : κ} {v : ν} :
    v ∈ valuesAt pairs k ↔ (k, v) ∈ pairs := by
  simp [valuesAt]

theorem get?_foldl_push (pairs : List (κ × ν)) (t : KeyedTable κ (List ν)) (k : κ) :
    (pairs.foldl (fun t pair => t.upsert pair.1 [pair.2] (· ++ [pair.2])) t).get? k =
      if valuesAt pairs k = [] then t.get? k
      else some ((t.get? k).getD [] ++ valuesAt pairs k) := by
  induction pairs generalizing t with
  | nil => rfl
  | cons pair pairs ih =>
    rw [List.foldl_cons, ih, get?_upsert]
    by_cases hk : k = pair.1
    · subst hk
      have hhead : valuesAt (pair :: pairs) pair.1 = pair.2 :: valuesAt pairs pair.1 := by
        simp [valuesAt]
      rw [if_pos rfl, hhead, if_neg (List.cons_ne_nil _ _)]
      cases hold : t.get? pair.1 <;> by_cases hnil : valuesAt pairs pair.1 = [] <;>
        simp [hnil]
    · have htail : valuesAt (pair :: pairs) k = valuesAt pairs k := by
        simp [valuesAt, Ne.symm hk]
      rw [if_neg hk, htail]

/-- A key has an entry exactly when it occurs, and the entry lists its values in order. -/
theorem get?_group (pairs : List (κ × ν)) (k : κ) :
    (group pairs).get? k = if valuesAt pairs k = [] then none else some (valuesAt pairs k) := by
  unfold group
  rw [get?_foldl_push, get?_empty]
  rfl

theorem getD_group (pairs : List (κ × ν)) (k : κ) :
    ((group pairs).get? k).getD [] = valuesAt pairs k := by
  rw [get?_group]
  by_cases hnil : valuesAt pairs k = []
  · rw [if_pos hnil, hnil, Option.getD_none]
  · rw [if_neg hnil, Option.getD_some]

/-! ## Collecting pairs -/

/-- A map collected from pairs: a later pair replaces an earlier one of its key. -/
def collect (pairs : List (κ × ν)) : KeyedTable κ ν :=
  pairs.foldl (fun t pair => t.upsert pair.1 pair.2 fun _ => pair.2) empty

theorem rows_foldl_upsert {t : KeyedTable κ ν} {pairs : List (κ × ν)}
    (h : ((t.rows ++ pairs).map Prod.fst).Nodup) :
    (pairs.foldl (fun t pair => t.upsert pair.1 pair.2 fun _ => pair.2) t).rows =
      t.rows ++ pairs := by
  induction pairs generalizing t with
  | nil => rw [List.foldl_nil, List.append_nil]
  | cons pair pairs ih =>
    have hfresh : t.get? pair.1 = none := by
      by_contra hmem
      rw [List.map_append, List.nodup_append] at h
      exact h.2.2 pair.1 (mem_keys.mpr hmem) pair.1
        (List.mem_map_of_mem (f := Prod.fst) List.mem_cons_self) rfl
    have hrows : (t.upsert pair.1 pair.2 fun _ => pair.2).rows = t.rows ++ [pair] := by
      rw [upsert_of_none hfresh]
      rfl
    rw [List.foldl_cons, ih, hrows, List.append_assoc, List.singleton_append]
    rw [hrows, List.append_assoc, List.singleton_append]
    exact h

/-- The rows of a table are collected to the table. -/
theorem collect_rows (t : KeyedTable κ ν) : collect t.rows = t := by
  apply KeyedTable.ext
  have h : (collect t.rows).rows = (empty : KeyedTable κ ν).rows ++ t.rows :=
    rows_foldl_upsert t.nodupKeys
  exact h

/-- The same table with its rows in the order of their keys. -/
def sorted [LE κ] [DecidableLE κ] (t : KeyedTable κ ν) : KeyedTable κ ν where
  rows := t.rows.insertionSort fun a b => a.1 ≤ b.1
  nodupKeys := ((List.perm_insertionSort _ t.rows).map Prod.fst).nodup_iff.mpr t.nodupKeys

@[simp] theorem get?_sorted [LE κ] [DecidableLE κ] (t : KeyedTable κ ν) (k : κ) :
    t.sorted.get? k = t.get? k := by
  ext v
  rw [get?_eq_some, get?_eq_some]
  exact List.mem_insertionSort _

end KeyedTable
