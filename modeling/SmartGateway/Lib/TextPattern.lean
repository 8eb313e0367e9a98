import Mathlib.Computability.Language

/-! # Text patterns

The two pattern notations of SQL stores. A `GLOB` pattern is compared with a whole text; a
regular expression, here without alternatives and groups, is searched for in it. The text of a
pattern is read as a sequence of runs of characters, with anchors between the runs of a regular
expression. A sequence of runs stands for a product of languages, and the matchers decide it.
The ranges of a bracket are ranges of code points.
-/

/-! ## Classes of characters -/

/-- The characters in some ranges, or the characters outside of them. -/
structure CharClass (α : Type) where
  negated : Bool
  ranges : List (α × α)
deriving DecidableEq

namespace CharClass

variable {α : Type}

def single (c : α) : CharClass α := ⟨false, [(c, c)]⟩

def all : CharClass α := ⟨true, []⟩

def contains [LE α] [DecidableLE α] (set : CharClass α) (c : α) : Bool :=
  set.negated != set.ranges.any fun range => decide (range.1 ≤ c ∧ c ≤ range.2)

@[simp] theorem contains_all [LE α] [DecidableLE α] (c : α) :
    (all : CharClass α).contains c = true := rfl

@[simp] theorem contains_single [PartialOrder α] [DecidableLE α] (c d : α) :
    (single d).contains c = true ↔ c = d := by
  have hrange : d ≤ c ∧ c ≤ d ↔ c = d := by
    rw [and_comm, le_antisymm_iff]
  simp [single, contains, hrange]

/-- Negating a class turns its members around. -/
theorem contains_negated [LE α] [DecidableLE α] (ranges : List (α × α)) (c : α) :
    (CharClass.mk true ranges).contains c = !(CharClass.mk false ranges).contains c := by
  simp [contains]

/-- The ways to cut a text into characters of the class and a rest. -/
def cuts [LE α] [DecidableLE α] (set : CharClass α) : List α → List (List α × List α)
  | [] => [([], [])]
  | c :: text =>
    ([], c :: text) ::
      if set.contains c then (cuts set text).map fun cut => (c :: cut.1, cut.2) else []

theorem nil_mem_cuts [LE α] [DecidableLE α] {set : CharClass α} {text rest : List α} :
    ([], rest) ∈ set.cuts text ↔ text = rest := by
  cases text with
  | nil =>
    rw [cuts, List.mem_singleton, Prod.mk.injEq, and_iff_right rfl]
    exact eq_comm
  | cons c text =>
    have hlonger : ([], rest) ∉ (if set.contains c then
        (cuts set text).map fun cut => (c :: cut.1, cut.2) else []) := by
      split <;> simp
    rw [cuts, List.mem_cons, or_iff_left hlonger, Prod.mk.injEq, and_iff_right rfl]
    exact eq_comm

theorem cons_mem_cuts [LE α] [DecidableLE α] {set : CharClass α} {c d : α}
    {text word rest : List α} :
    (d :: word, rest) ∈ set.cuts (c :: text) ↔
      set.contains c = true ∧ c = d ∧ (word, rest) ∈ set.cuts text := by
  have hhead : (d :: word, rest) ≠ ([], c :: text) := by
    intro h
    cases congrArg Prod.fst h
  rw [cuts, List.mem_cons, or_iff_right hhead]
  by_cases hc : set.contains c = true
  · rw [if_pos hc, List.mem_map]
    constructor
    · rintro ⟨⟨word', rest'⟩, hmem, heq⟩
      rcases Prod.mk.inj heq with ⟨hword, rfl⟩
      rcases List.cons.inj hword with ⟨rfl, rfl⟩
      exact ⟨hc, rfl, hmem⟩
    · rintro ⟨-, rfl, hmem⟩
      exact ⟨(word, rest), hmem, rfl⟩
  · rw [if_neg hc]
    constructor
    · intro h
      cases h
    · rintro ⟨h, -⟩
      exact absurd h hc

/-- The cuts of a text are its splits after characters of the class. -/
theorem mem_cuts [LE α] [DecidableLE α] {set : CharClass α} {text word rest : List α} :
    (word, rest) ∈ set.cuts text ↔
      text = word ++ rest ∧ ∀ c ∈ word, set.contains c = true := by
  induction word generalizing text with
  | nil =>
    rw [nil_mem_cuts, List.nil_append]
    exact (and_iff_left (List.forall_mem_nil _)).symm
  | cons d word ih =>
    cases text with
    | nil => simp [cuts]
    | cons c text =>
      rw [cons_mem_cuts, ih, List.cons_append, List.cons.injEq, List.forall_mem_cons]
      constructor
      · rintro ⟨hc, rfl, htext, hword⟩
        exact ⟨⟨rfl, htext⟩, hc, hword⟩
      · rintro ⟨⟨rfl, htext⟩, hc, hword⟩
        exact ⟨hc, rfl, htext, hword⟩

end CharClass

/-! ## Languages of letters -/

/-- The words of one letter with a property. -/
def letters {α : Type} (p : α → Prop) : Language α := {word | ∃ c, p c ∧ word = [c]}

section Letters

open scoped Computability

variable {α : Type} {p : α → Prop} {word : List α}

theorem mem_letters : word ∈ letters p ↔ ∃ c, p c ∧ word = [c] := Iff.rfl

theorem mem_singleton_mul {first : List α} {l : Language α} :
    word ∈ ({first} : Language α) * l ↔ ∃ rest ∈ l, word = first ++ rest := by
  rw [Language.mem_mul]
  constructor
  · rintro ⟨_, rfl, rest, hrest, rfl⟩
    exact ⟨rest, hrest, rfl⟩
  · rintro ⟨rest, hrest, rfl⟩
    exact ⟨first, rfl, rest, hrest, rfl⟩

theorem mem_letters_mul {l : Language α} :
    word ∈ letters p * l ↔ ∃ c rest, p c ∧ rest ∈ l ∧ word = c :: rest := by
  rw [Language.mem_mul]
  constructor
  · rintro ⟨first, ⟨c, hc, rfl⟩, rest, hrest, rfl⟩
    exact ⟨c, rest, hc, hrest, rfl⟩
  · rintro ⟨c, rest, hc, hrest, rfl⟩
    exact ⟨[c], ⟨c, hc, rfl⟩, rest, hrest, rfl⟩

/-- Any number of letters with a property is a word all of whose letters have it. -/
theorem mem_letters_kstar : word ∈ (letters p)∗ ↔ ∀ c ∈ word, p c := by
  constructor
  · intro h
    rcases Language.mem_kstar.mp h with ⟨parts, rfl, hparts⟩
    intro c hc
    rcases List.mem_flatten.mp hc with ⟨part, hpart, hmem⟩
    rcases hparts part hpart with ⟨d, hd, rfl⟩
    rw [List.mem_singleton.mp hmem]
    exact hd
  · intro h
    refine Language.mem_kstar.mpr ⟨word.map fun c => [c], ?_, ?_⟩
    · rw [← List.flatMap_def, List.flatMap_singleton']
    · intro part hpart
      rcases List.mem_map.mp hpart with ⟨c, hc, rfl⟩
      exact ⟨c, h c hc, rfl⟩

end Letters

/-! ## Runs -/

/-- A run of characters of one class, with the bounds of its length. -/
structure CharRun (α : Type) where
  set : CharClass α
  least : Nat
  most : Option Nat
deriving DecidableEq

namespace CharRun

variable {α : Type}

def one (set : CharClass α) : CharRun α := ⟨set, 1, some 1⟩

def star (set : CharClass α) : CharRun α := ⟨set, 0, none⟩

def literal (c : α) : CharRun α := one (.single c)

def admits (run : CharRun α) (length : Nat) : Bool :=
  decide (run.least ≤ length) && run.most.all fun most => decide (length ≤ most)

section Language

open scoped Computability

variable [LE α] [DecidableLE α]

def language (run : CharRun α) : Language α :=
  {word | (∀ c ∈ word, run.set.contains c = true) ∧ run.admits word.length = true}

theorem mem_language {run : CharRun α} {word : List α} :
    word ∈ run.language ↔
      (∀ c ∈ word, run.set.contains c = true) ∧ run.admits word.length = true := Iff.rfl

/-- A run of length one is a letter of its class. -/
theorem language_one (set : CharClass α) :
    (one set).language = letters fun c => set.contains c = true := by
  ext word
  have hadmits : (one set).admits word.length = true ↔ word.length = 1 := by
    rw [admits, Bool.and_eq_true, decide_eq_true_eq]
    simp only [one, Option.all_some, decide_eq_true_eq]
    omega
  rw [mem_language, hadmits, List.length_eq_one_iff, mem_letters]
  constructor
  · rintro ⟨hword, c, rfl⟩
    exact ⟨c, hword c (List.mem_singleton_self c), rfl⟩
  · rintro ⟨c, hc, rfl⟩
    exact ⟨List.forall_mem_singleton.mpr hc, c, rfl⟩

/-- A run of any length is the closure of the letters of its class. -/
theorem language_star (set : CharClass α) :
    (star set).language = (letters fun c => set.contains c = true)∗ := by
  ext word
  have hadmits : (star set).admits word.length = true := by
    simp [star, admits]
  rw [mem_language, mem_letters_kstar]
  exact and_iff_left hadmits

end Language

end CharRun

/-- The words that a sequence of runs makes up. -/
def runsLanguage {α : Type} [LE α] [DecidableLE α] (runs : List (CharRun α)) : Language α :=
  (runs.map CharRun.language).prod

theorem runsLanguage_nil {α : Type} [LE α] [DecidableLE α] :
    runsLanguage ([] : List (CharRun α)) = 1 := rfl

theorem runsLanguage_cons {α : Type} [LE α] [DecidableLE α] (run : CharRun α)
    (runs : List (CharRun α)) :
    runsLanguage (run :: runs) = run.language * runsLanguage runs :=
  List.prod_cons

theorem runsLanguage_singleton {α : Type} [LE α] [DecidableLE α] (run : CharRun α) :
    runsLanguage [run] = run.language := by
  rw [runsLanguage_cons, runsLanguage_nil, mul_one]

/-- A sequence of literal characters makes up that text only. -/
theorem runsLanguage_literal {α : Type} [PartialOrder α] [DecidableLE α] (text : List α)
    (runs : List (CharRun α)) :
    runsLanguage (text.map .literal ++ runs) = {text} * runsLanguage runs := by
  induction text with
  | nil =>
    ext word
    rw [mem_singleton_mul]
    simp
  | cons c text ih =>
    ext word
    rw [List.map_cons, List.cons_append, runsLanguage_cons, ih, CharRun.literal,
      CharRun.language_one, mem_letters_mul, mem_singleton_mul]
    constructor
    · rintro ⟨d, rest, hd, hrest, rfl⟩
      rw [CharClass.contains_single] at hd
      rcases mem_singleton_mul.mp hrest with ⟨more, hmore, rfl⟩
      exact ⟨more, hmore, by rw [hd, List.cons_append]⟩
    · rintro ⟨more, hmore, rfl⟩
      refine ⟨c, text ++ more, (CharClass.contains_single c c).mpr rfl, ?_, rfl⟩
      exact mem_singleton_mul.mpr ⟨more, hmore, rfl⟩

theorem mem_language_star_all {α : Type} [LE α] [DecidableLE α] (word : List α) :
    word ∈ (CharRun.star (.all : CharClass α)).language := by
  rw [CharRun.language_star, mem_letters_kstar]
  intro c _
  exact CharClass.contains_all c

/-- A letter of a class between two runs of anything. -/
theorem mem_runsLanguage_anywhere {α : Type} [LE α] [DecidableLE α] {set : CharClass α}
    {word : List α} :
    word ∈ runsLanguage [.star .all, .one set, .star .all] ↔
      ∃ c ∈ word, set.contains c = true := by
  rw [runsLanguage_cons, runsLanguage_cons, runsLanguage_singleton, CharRun.language_one,
    Language.mem_mul]
  constructor
  · rintro ⟨first, -, last, hlast, rfl⟩
    rcases mem_letters_mul.mp hlast with ⟨c, rest, hc, -, rfl⟩
    exact ⟨c, by simp, hc⟩
  · rintro ⟨c, hmem, hc⟩
    rcases List.append_of_mem hmem with ⟨first, rest, rfl⟩
    refine ⟨first, mem_language_star_all first, c :: rest, ?_, rfl⟩
    exact mem_letters_mul.mpr ⟨c, rest, hc, mem_language_star_all rest, rfl⟩

/-- A fixed number of letters of one class. -/
theorem mem_runsLanguage_replicate {α : Type} [LE α] [DecidableLE α] {set : CharClass α}
    {count : Nat} {word : List α} :
    word ∈ runsLanguage (List.replicate count (.one set)) ↔
      word.length = count ∧ ∀ c ∈ word, set.contains c = true := by
  induction count generalizing word with
  | zero =>
    rw [List.replicate_zero, runsLanguage_nil, Language.mem_one, List.length_eq_zero_iff]
    constructor
    · rintro rfl
      exact ⟨rfl, List.forall_mem_nil _⟩
    · exact And.left
  | succ count ih =>
    rw [List.replicate_succ, runsLanguage_cons, CharRun.language_one, mem_letters_mul]
    constructor
    · rintro ⟨c, rest, hc, hrest, rfl⟩
      rcases ih.mp hrest with ⟨hlength, hall⟩
      exact ⟨congrArg (· + 1) hlength, List.forall_mem_cons.mpr ⟨hc, hall⟩⟩
    · rintro ⟨hlength, hall⟩
      cases word with
      | nil => cases hlength
      | cons c rest =>
        rw [List.forall_mem_cons] at hall
        exact ⟨c, rest, hall.1, ih.mpr ⟨Nat.succ.inj hlength, hall.2⟩, rfl⟩

/-! ## Matching -/

inductive PatternItem (α : Type) where
  | textStart
  | textEnd
  | chars (run : CharRun α)
deriving DecidableEq

namespace PatternItem

variable {α : Type} [LE α] [DecidableLE α]

/-- The items stand for `word` where `before` and `after` are around it. -/
def Occurs : List (PatternItem α) → List α → List α → List α → Prop
  | [], _, word, _ => word = []
  | .textStart :: items, before, word, after => before = [] ∧ Occurs items before word after
  | .textEnd :: items, before, word, after =>
    word = [] ∧ after = [] ∧ Occurs items before word after
  | .chars run :: items, before, word, after =>
    ∃ first ∈ run.language, ∃ rest, word = first ++ rest ∧
      Occurs items (before ++ first) rest after

/-- What is left of a text after each way to match the items at its front; `start` says that
nothing stands before it. -/
def rests : List (PatternItem α) → Bool → List α → List (List α)
  | [], _, text => [text]
  | .textStart :: items, start, text => if start then rests items start text else []
  | .textEnd :: items, start, text => if text.isEmpty then rests items start text else []
  | .chars run :: items, start, text =>
    (run.set.cuts text).flatMap fun cut =>
      if run.admits cut.1.length then rests items (start && cut.1.isEmpty) cut.2 else []

/-- Whether the items match at some place of a text. -/
def searchFrom (items : List (PatternItem α)) (start : Bool) : List α → Bool
  | [] => !(rests items start []).isEmpty
  | c :: text => !(rests items start (c :: text)).isEmpty || searchFrom items false text

def search (items : List (PatternItem α)) (text : List α) : Bool := searchFrom items true text

omit [LE α] [DecidableLE α] in
/-- Nothing stands before the rest of a match if nothing stood before it and it is empty. -/
theorem isEmpty_append {before word : List α} :
    (before.isEmpty && word.isEmpty) = (before ++ word).isEmpty := by
  cases before <;> rfl

theorem mem_rests_textStart {items : List (PatternItem α)} {start : Bool} {text after : List α} :
    after ∈ rests (.textStart :: items) start text ↔
      start = true ∧ after ∈ rests items start text := by
  rw [rests]
  cases start with
  | false => simp
  | true => simp

theorem mem_rests_textEnd {items : List (PatternItem α)} {start : Bool} {text after : List α} :
    after ∈ rests (.textEnd :: items) start text ↔
      text = [] ∧ after ∈ rests items start text := by
  rw [rests]
  cases text with
  | nil => simp
  | cons c text => simp

theorem mem_rests_chars {run : CharRun α} {items : List (PatternItem α)} {start : Bool}
    {text after : List α} :
    after ∈ rests (.chars run :: items) start text ↔
      ∃ first ∈ run.language, ∃ rest, text = first ++ rest ∧
        after ∈ rests items (start && first.isEmpty) rest := by
  rw [rests, List.mem_flatMap]
  constructor
  · rintro ⟨⟨first, rest⟩, hcut, hleft⟩
    rcases CharClass.mem_cuts.mp hcut with ⟨htext, hset⟩
    split at hleft
    · next hadmits => exact ⟨first, ⟨hset, hadmits⟩, rest, htext, hleft⟩
    · cases hleft
  · rintro ⟨first, ⟨hset, hadmits⟩, rest, htext, hleft⟩
    refine ⟨(first, rest), CharClass.mem_cuts.mpr ⟨htext, hset⟩, ?_⟩
    rwa [if_pos hadmits]

/-- The matcher leaves over exactly what stands after an occurrence. -/
theorem mem_rests {items : List (PatternItem α)} (before : List α) {text after : List α} :
    after ∈ rests items before.isEmpty text ↔
      ∃ word, text = word ++ after ∧ Occurs items before word after := by
  induction items generalizing before text with
  | nil =>
    rw [rests, List.mem_singleton]
    constructor
    · rintro rfl
      exact ⟨[], rfl, rfl⟩
    · rintro ⟨word, rfl, rfl⟩
      rfl
  | cons item items ih =>
    cases item with
    | textStart =>
      rw [mem_rests_textStart, List.isEmpty_iff, ih]
      constructor
      · rintro ⟨hbefore, word, hcut, hoccurs⟩
        exact ⟨word, hcut, hbefore, hoccurs⟩
      · rintro ⟨word, hcut, hbefore, hoccurs⟩
        exact ⟨hbefore, word, hcut, hoccurs⟩
    | textEnd =>
      rw [mem_rests_textEnd, ih]
      constructor
      · rintro ⟨rfl, word, hcut, hoccurs⟩
        rcases List.append_eq_nil_iff.mp hcut.symm with ⟨rfl, rfl⟩
        exact ⟨[], rfl, rfl, rfl, hoccurs⟩
      · rintro ⟨word, hcut, rfl, rfl, hoccurs⟩
        exact ⟨hcut, [], hcut, hoccurs⟩
    | chars run =>
      simp only [mem_rests_chars, isEmpty_append, ih]
      constructor
      · rintro ⟨first, hfirst, _, rfl, word, rfl, hoccurs⟩
        exact ⟨first ++ word, (List.append_assoc _ _ _).symm, first, hfirst, word, rfl, hoccurs⟩
      · rintro ⟨_, rfl, first, hfirst, rest, rfl, hoccurs⟩
        exact ⟨first, hfirst, rest ++ after, List.append_assoc _ _ _, rest, rfl, hoccurs⟩

theorem rests_ne_nil {items : List (PatternItem α)} (before : List α) {text : List α} :
    (!(rests items before.isEmpty text).isEmpty) = true ↔
      ∃ word after, text = word ++ after ∧ Occurs items before word after := by
  rw [Bool.not_eq_true', List.isEmpty_eq_false_iff_exists_mem]
  constructor
  · rintro ⟨after, hmem⟩
    rcases (mem_rests before).mp hmem with ⟨word, hcut, hoccurs⟩
    exact ⟨word, after, hcut, hoccurs⟩
  · rintro ⟨word, after, hcut, hoccurs⟩
    exact ⟨after, (mem_rests before).mpr ⟨word, hcut, hoccurs⟩⟩

theorem searchFrom_iff {items : List (PatternItem α)} (before : List α) {text : List α} :
    searchFrom items before.isEmpty text = true ↔
      ∃ skipped word after, text = skipped ++ word ++ after ∧
        Occurs items (before ++ skipped) word after := by
  induction text generalizing before with
  | nil =>
    rw [searchFrom, rests_ne_nil]
    constructor
    · rintro ⟨word, after, hcut, hoccurs⟩
      exact ⟨[], word, after, hcut, by rwa [List.append_nil]⟩
    · rintro ⟨skipped, word, after, hcut, hoccurs⟩
      rcases List.append_eq_nil_iff.mp hcut.symm with ⟨hfront, rfl⟩
      rcases List.append_eq_nil_iff.mp hfront with ⟨rfl, rfl⟩
      rw [List.append_nil] at hoccurs
      exact ⟨[], [], rfl, hoccurs⟩
  | cons c text ih =>
    -- a search that goes on has skipped a character, so it is not at the start of the text
    have hlater : searchFrom items false text = true ↔
        ∃ skipped word after, text = skipped ++ word ++ after ∧
          Occurs items (before ++ c :: skipped) word after := by
      have hmore : (before ++ [c]).isEmpty = false := by simp
      rw [← hmore, ih]
      simp only [List.append_assoc, List.singleton_append]
    rw [searchFrom, Bool.or_eq_true, rests_ne_nil, hlater]
    constructor
    · rintro (⟨word, after, hcut, hoccurs⟩ | ⟨skipped, word, after, rfl, hoccurs⟩)
      · exact ⟨[], word, after, hcut, by rwa [List.append_nil]⟩
      · exact ⟨c :: skipped, word, after, rfl, hoccurs⟩
    · rintro ⟨skipped, word, after, hcut, hoccurs⟩
      cases skipped with
      | nil =>
        rw [List.append_nil] at hoccurs
        exact Or.inl ⟨word, after, hcut, hoccurs⟩
      | cons d skipped =>
        rcases List.cons.inj hcut with ⟨rfl, htext⟩
        exact Or.inr ⟨skipped, word, after, htext, hoccurs⟩

/-- A search succeeds where the items occur somewhere in the text. -/
theorem search_iff {items : List (PatternItem α)} {text : List α} :
    search items text = true ↔
      ∃ before word after, text = before ++ word ++ after ∧ Occurs items before word after :=
  searchFrom_iff []

/-! ## Sequences of runs -/

/-- Two sequences of items occur one after the other. -/
theorem occurs_append {items more : List (PatternItem α)} {before word after : List α} :
    Occurs (items ++ more) before word after ↔
      ∃ first rest, word = first ++ rest ∧ Occurs items before first (rest ++ after) ∧
        Occurs more (before ++ first) rest after := by
  induction items generalizing before word with
  | nil =>
    constructor
    · intro h
      exact ⟨[], word, rfl, rfl, by rwa [List.append_nil]⟩
    · rintro ⟨first, rest, rfl, rfl, hmore⟩
      rwa [List.append_nil] at hmore
  | cons item items ih =>
    cases item with
    | textStart =>
      simp only [List.cons_append, Occurs, ih]
      constructor
      · rintro ⟨hbefore, first, rest, hword, hfirst, hrest⟩
        exact ⟨first, rest, hword, ⟨hbefore, hfirst⟩, hrest⟩
      · rintro ⟨first, rest, hword, ⟨hbefore, hfirst⟩, hrest⟩
        exact ⟨hbefore, first, rest, hword, hfirst, hrest⟩
    | textEnd =>
      -- what occurs behind the end of the text is empty
      simp only [List.cons_append, Occurs, ih]
      constructor
      · rintro ⟨rfl, rfl, first, rest, hword, hfirst, hrest⟩
        rcases List.append_eq_nil_iff.mp hword.symm with ⟨rfl, rfl⟩
        exact ⟨[], [], rfl, ⟨rfl, rfl, hfirst⟩, hrest⟩
      · rintro ⟨first, rest, rfl, ⟨rfl, hnil, hfirst⟩, hrest⟩
        rcases List.append_eq_nil_iff.mp hnil with ⟨rfl, rfl⟩
        exact ⟨rfl, rfl, [], [], rfl, hfirst, hrest⟩
    | chars run =>
      simp only [List.cons_append, Occurs, ih]
      constructor
      · rintro ⟨front, hfront, _, rfl, first, rest, rfl, hfirst, hrest⟩
        refine ⟨front ++ first, rest, (List.append_assoc _ _ _).symm, ?_, ?_⟩
        · exact ⟨front, hfront, first, rfl, hfirst⟩
        · rwa [← List.append_assoc]
      · rintro ⟨_, rest, rfl, ⟨front, hfront, first, rfl, hfirst⟩, hrest⟩
        refine ⟨front, hfront, first ++ rest, List.append_assoc _ _ _, first, rest, rfl, hfirst, ?_⟩
        rwa [List.append_assoc]

/-- A sequence of runs occurs as the words it makes up, whatever is around them. -/
theorem occurs_chars {runs : List (CharRun α)} {before word after : List α} :
    Occurs (runs.map .chars) before word after ↔ word ∈ runsLanguage runs := by
  induction runs generalizing before word with
  | nil => exact (Language.mem_one word).symm
  | cons run runs ih =>
    simp only [List.map_cons, Occurs, ih, runsLanguage_cons, Language.mem_mul]
    constructor
    · rintro ⟨first, hfirst, rest, rfl, hrest⟩
      exact ⟨first, hfirst, rest, hrest, rfl⟩
    · rintro ⟨first, hfirst, rest, hrest, rfl⟩
      exact ⟨first, hfirst, rest, rfl, hrest⟩

/-- Whether runs make up a whole text. -/
def matchWhole (runs : List (CharRun α)) (text : List α) : Bool :=
  (rests (runs.map .chars) true text).any List.isEmpty

theorem matchWhole_iff {runs : List (CharRun α)} {text : List α} :
    matchWhole runs text = true ↔ text ∈ runsLanguage runs := by
  rw [matchWhole, List.any_eq_true]
  constructor
  · rintro ⟨after, hmem, hempty⟩
    rw [List.isEmpty_iff] at hempty
    subst hempty
    rcases (mem_rests []).mp hmem with ⟨word, hcut, hoccurs⟩
    rw [List.append_nil] at hcut
    rw [hcut]
    exact occurs_chars.mp hoccurs
  · intro h
    refine ⟨[], (mem_rests []).mpr ⟨text, ?_, occurs_chars.mpr h⟩, rfl⟩
    exact (List.append_nil text).symm

/-- Runs between both anchors are found in a text if they make up the whole of it. -/
theorem search_anchored {runs : List (CharRun α)} {text : List α} :
    search (.textStart :: (runs.map .chars ++ [.textEnd])) text = true ↔
      text ∈ runsLanguage runs := by
  rw [search_iff]
  constructor
  · rintro ⟨before, word, after, rfl, rfl, hoccurs⟩
    rcases occurs_append.mp hoccurs with ⟨first, rest, rfl, hfirst, rfl, rfl, -⟩
    simpa using occurs_chars.mp hfirst
  · intro h
    refine ⟨[], text, [], by simp, rfl, occurs_append.mpr ?_⟩
    exact ⟨text, [], by simp, occurs_chars.mpr h, rfl, rfl, rfl⟩

end PatternItem

/-! ## Reading patterns -/

/-- The ranges that the text between brackets lists. -/
def CharClass.readRanges : List Char → List (Char × Char)
  | low :: '-' :: high :: content => (low, high) :: readRanges content
  | member :: content => (member, member) :: readRanges content
  | [] => []

/-- The text between brackets, where a bracket right at the front is a member. -/
def CharClass.readMembers : List Char → List (Char × Char)
  | ']' :: content => (']', ']') :: readRanges content
  | content => readRanges content

def CharClass.read : List Char → CharClass Char
  | '^' :: content => ⟨true, readMembers content⟩
  | content => ⟨false, readMembers content⟩

/-- A character of a pattern, or one of its brackets. -/
inductive PatternToken where
  | char (c : Char)
  | bracket (set : CharClass Char)
deriving DecidableEq

/-- The tokens of a pattern, from inside a bracket whose text so far is `content`, if any. A
bracket that is not closed has no reading. -/
def PatternToken.readFrom : Option (List Char) → List Char → Option (List PatternToken)
  | none, [] => some []
  | some _, [] => none
  | none, '[' :: pattern => readFrom (some []) pattern
  | none, c :: pattern => (readFrom none pattern).map (.char c :: ·)
  | some content, ']' :: pattern =>
    if content = [] ∨ content = ['^'] then readFrom (some (content ++ [']'])) pattern
    else (readFrom none pattern).map (.bracket (.read content) :: ·)
  | some content, c :: pattern => readFrom (some (content ++ [c])) pattern

def PatternToken.read (pattern : String) : Option (List PatternToken) :=
  readFrom none pattern.toList

/-- The run a token of a `GLOB` pattern stands for. -/
def PatternToken.globRun : PatternToken → CharRun Char
  | .char '*' => .star .all
  | .char '?' => .one .all
  | .char c => .literal c
  | .bracket set => .one set

/-- The runs of a `GLOB` pattern. -/
def globRuns (pattern : String) : Option (List (CharRun Char)) :=
  (PatternToken.read pattern).map (List.map PatternToken.globRun)

/-- `text GLOB pattern`; nothing matches a bracket that is not closed. -/
def glob (pattern : String) (text : List Char) : Bool :=
  (globRuns pattern).any fun runs => PatternItem.matchWhole runs text

/-- The members of a bracket that regular expressions read as themselves. -/
def CharClass.plain (set : CharClass Char) : Bool :=
  set.ranges.all fun range =>
    decide (range.1 ≤ range.2) &&
      [range.1, range.2].all fun member => decide (member ∉ ['[', ']', '\\', '-'])

/-- The class a token of a regular expression stands for, where it is an atom read here: no
escape, group, bound or alternative. -/
def PatternToken.atom : PatternToken → Option (CharClass Char)
  | .char '.' => some .all
  | .char c =>
    if ['\\', '(', ')', '[', ']', '{', '}', '|', '*', '+', '?', '^', '$'].contains c then none
    else some (.single c)
  | .bracket set => if set.plain then some set else none

/-- The items of a regular expression of one branch: anchors and quantified atoms. -/
def PatternToken.regexItems : List PatternToken → Option (List (PatternItem Char))
  | [] => some []
  | .char '^' :: tokens => (regexItems tokens).map (.textStart :: ·)
  | .char '$' :: tokens => (regexItems tokens).map (.textEnd :: ·)
  | token :: .char '*' :: tokens =>
    token.atom.bind fun set => (regexItems tokens).map (.chars (.star set) :: ·)
  | token :: .char '+' :: tokens =>
    token.atom.bind fun set => (regexItems tokens).map (.chars ⟨set, 1, none⟩ :: ·)
  | token :: .char '?' :: tokens =>
    token.atom.bind fun set => (regexItems tokens).map (.chars ⟨set, 0, some 1⟩ :: ·)
  | token :: tokens =>
    token.atom.bind fun set => (regexItems tokens).map (.chars (.one set) :: ·)

/-- `text ~ pattern`, if the pattern is one that is read here. -/
def regexSearch (pattern : String) (text : List Char) : Option Bool :=
  ((PatternToken.read pattern).bind PatternToken.regexItems).map
    fun items => PatternItem.search items text

/-- A `GLOB` pattern matches the texts that its runs make up. -/
theorem glob_iff {pattern : String} {runs : List (CharRun Char)} {text : List Char}
    (hruns : globRuns pattern = some runs) :
    glob pattern text = true ↔ text ∈ runsLanguage runs := by
  rw [glob, hruns, Option.any_some]
  exact PatternItem.matchWhole_iff

/-- A regular expression with both anchors is found in the texts that its runs make up. -/
theorem regexSearch_anchored {pattern : String} {runs : List (CharRun Char)} {text : List Char}
    (hitems : (PatternToken.read pattern).bind PatternToken.regexItems =
      some (.textStart :: (runs.map .chars ++ [.textEnd]))) :
    regexSearch pattern text = some true ↔ text ∈ runsLanguage runs := by
  rw [regexSearch, hitems, Option.map_some, Option.some.injEq]
  exact PatternItem.search_anchored
