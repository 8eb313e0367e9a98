import SmartGateway.Lib.EdgeInsertion
import SmartGateway.Storage.Configuration
import SmartGateway.Storage.PostgresMethods

/-! # Configuring a cycle

An accepted operation leaves the fallback graph as it is or adds one edge to it, whichever
store runs it (`Accepted.edges`). Nothing checks the edge, so a configuration history keeps
the graph acyclic exactly as long as no accepted `add_fallback` leads to a model that falls
back to its source (`acyclic_iff`).
-/

namespace SmartGateway

open EdgeInsertion

namespace ControlPlane

/-! ## What an accepted operation does -/

/-- The tables after an accepted operation, whichever store ran it. -/
inductive Accepted (db : ControlPlane) : ConfigurationOp → ControlPlane → Prop where
  | model {name : String} (h : db.modelViolation name = none) :
      Accepted db (.createModel name) (db.addModel name h)
  | account {id provider credentialRef baseUrl : String} {row : AccountRow}
      (h : db.accountViolation id = none) :
      Accepted db (.createAccount id provider credentialRef baseUrl) (db.addAccount id row h)
  | route {id logicalModel accountId upstreamModel : String} {priority : UInt32}
      (h : db.routeViolation id (routeRow logicalModel accountId upstreamModel priority) = none) :
      Accepted db (.createRoute id logicalModel accountId upstreamModel priority)
        (db.addRoute id (routeRow logicalModel accountId upstreamModel priority) h)
  | fallback {source target : String} {priority : UInt32}
      (h : db.fallbackViolation source target priority.toNat = none) :
      Accepted db (.addFallback source target priority)
        (db.addFallback source target priority.toNat h)

/-- The edges of the stored fallback graph. -/
abbrev FallbackEdge (db : ControlPlane) : String → String → Prop :=
  DepthFirst.Edge (nextModels db.fallbackMap)

/-- The stored fallback graph has no cycle. -/
def AcyclicFallbacks (db : ControlPlane) : Prop := Acyclic db.FallbackEdge

theorem fallbackEdge_iff {db : ControlPlane} {source target : String} :
    db.FallbackEdge source target ↔
      ∃ priority, ((source, priority), target) ∈ db.modelFallbacks.rows := by
  rw [FallbackEdge, DepthFirst.Edge, mem_nextModels, mem_fallbackRows]

/-- Tables with the same fallback rows have the same graph. -/
theorem fallbackEdge_congr {db db' : ControlPlane} (h : db'.modelFallbacks = db.modelFallbacks) :
    db'.FallbackEdge = db.FallbackEdge := by
  funext source target
  rw [eq_iff_iff, fallbackEdge_iff, fallbackEdge_iff, h]

/-- A new fallback is one new edge. -/
theorem fallbackEdge_addFallback {db : ControlPlane} {source target : String} {priority : Nat}
    (h : db.fallbackViolation source target priority = none) :
    (db.addFallback source target priority h).FallbackEdge =
      Inserted db.FallbackEdge source target := by
  funext a b
  rw [eq_iff_iff, Inserted, fallbackEdge_iff, fallbackEdge_iff]
  constructor
  · rintro ⟨order, hrow⟩
    rcases List.mem_append.mp hrow with hold | hnew
    · exact Or.inl ⟨order, hold⟩
    · rw [List.mem_singleton] at hnew
      cases hnew
      exact Or.inr ⟨rfl, rfl⟩
  · rintro (⟨order, hold⟩ | ⟨rfl, rfl⟩)
    · exact ⟨order, List.mem_append_left _ hold⟩
    · exact ⟨priority, List.mem_append_right _ List.mem_cons_self⟩

/-- An operation that adds no fallback keeps an acyclic graph. -/
theorem acyclic_iff_of_same {db db' : ControlPlane} {op : ConfigurationOp}
    (h : db'.modelFallbacks = db.modelFallbacks) (hacyclic : db.AcyclicFallbacks)
    (hop : ∀ source target priority, op ≠ .addFallback source target priority) :
    db'.AcyclicFallbacks ↔ ∀ source target priority, op = .addFallback source target priority →
      ¬ FallsBackTo db.fallbackMap target source := by
  rw [AcyclicFallbacks, fallbackEdge_congr h]
  constructor
  · intro _ source target priority heq
    exact absurd heq (hop source target priority)
  · intro _
    exact hacyclic

/-- An accepted operation keeps an acyclic graph acyclic exactly when it is no fallback to a
model that leads back to its source. -/
theorem Accepted.acyclic_iff {db db' : ControlPlane} {op : ConfigurationOp}
    (h : db.Accepted op db') (hacyclic : db.AcyclicFallbacks) :
    db'.AcyclicFallbacks ↔ ∀ source target priority, op = .addFallback source target priority →
      ¬ FallsBackTo db.fallbackMap target source := by
  cases h with
  | model h => exact acyclic_iff_of_same rfl hacyclic (by simp)
  | account h => exact acyclic_iff_of_same rfl hacyclic (by simp)
  | route h => exact acyclic_iff_of_same rfl hacyclic (by simp)
  | fallback h =>
    rw [AcyclicFallbacks, fallbackEdge_addFallback h, acyclic_inserted_iff hacyclic]
    constructor
    · intro hpath source target priority hop
      cases hop
      exact hpath
    · intro hpath
      exact hpath _ _ _ rfl

theorem acyclicFallbacks_empty : ControlPlane.empty.AcyclicFallbacks := by
  intro model hcycle
  obtain ⟨next, hedge, -⟩ := Relation.TransGen.head'_iff.mp hcycle
  obtain ⟨priority, hrow⟩ := fallbackEdge_iff.mp hedge
  cases hrow

end ControlPlane

/-! ## A store that is configured -/

/-- What the two stores have in common: a refused operation changes nothing, an accepted one
does its inserts, and whether a fallback is accepted can be told before. -/
structure ConfigurableStore where
  State : Type
  start : State
  configure : ConfigurationOp → State → Except String Unit × State
  tables : State → ControlPlane
  /-- The constraints and conversions that let a fallback in. -/
  Admits : State → (source target : String) → (priority : UInt32) → Prop
  start_tables : tables start = .empty
  configure_cases : ∀ op s, (∃ error, configure op s = (.error error, s)) ∨
    ∃ s', configure op s = (.ok (), s') ∧ (tables s).Accepted op (tables s')
  admits_iff : ∀ s source target priority,
    (configure (.addFallback source target priority) s).1 = .ok () ↔
      Admits s source target priority

namespace ConfigurableStore

/-- The store after the calls. -/
def run (store : ConfigurableStore) (ops : List ConfigurationOp) : store.State :=
  ops.foldl (fun s op => (store.configure op s).2) store.start

/-- After every call that was accepted the stored fallback graph is acyclic. -/
def StaysAcyclic (store : ConfigurableStore) (ops : List ConfigurationOp) : Prop :=
  ∀ before op after, ops = before ++ op :: after →
    (store.configure op (store.run before)).1 = .ok () →
      (store.tables (store.run (before ++ [op]))).AcyclicFallbacks

/-- No fallback is let in whose target already falls back to its source. -/
def ClosesNoPath (store : ConfigurableStore) (ops : List ConfigurationOp) : Prop :=
  ∀ before source target priority after, ops = before ++ .addFallback source target priority :: after →
    store.Admits (store.run before) source target priority →
      ¬ FallsBackTo (store.tables (store.run before)).fallbackMap target source

variable {store : ConfigurableStore}

theorem run_snoc (ops : List ConfigurationOp) (op : ConfigurationOp) :
    store.run (ops ++ [op]) = (store.configure op (store.run ops)).2 := by
  rw [run, List.foldl_append, List.foldl_cons, List.foldl_nil]
  rfl

/-- A history that closes no path keeps the graph acyclic. The induction is on its prefixes. -/
theorem acyclic_run {ops : List ConfigurationOp} (h : store.ClosesNoPath ops)
    (before : List ConfigurationOp) (hbefore : before <+: ops) :
    (store.tables (store.run before)).AcyclicFallbacks := by
  induction before using List.reverseRecOn with
  | nil =>
    show (store.tables store.start).AcyclicFallbacks
    rw [store.start_tables]
    exact ControlPlane.acyclicFallbacks_empty
  | append_singleton before op ih =>
    have hacyclic := ih ((List.prefix_append before [op]).trans hbefore)
    obtain ⟨after, rfl⟩ := hbefore
    rw [run_snoc]
    rcases store.configure_cases op (store.run before) with ⟨error, hrefused⟩ | ⟨s', haccepted, hstep⟩
    · rw [hrefused]
      exact hacyclic
    · rw [haccepted]
      apply (hstep.acyclic_iff hacyclic).mpr
      rintro source target priority rfl
      apply h before source target priority after (by simp)
      rw [← store.admits_iff, haccepted]

/-- A history keeps the fallback graph acyclic exactly when it closes no path. -/
theorem staysAcyclic_iff (ops : List ConfigurationOp) :
    store.StaysAcyclic ops ↔ store.ClosesNoPath ops := by
  constructor
  · rintro h before source target priority after rfl hadmits hpath
    have haccepted := (store.admits_iff (store.run before) source target priority).mpr hadmits
    have hacyclic := h before _ after rfl haccepted
    rw [run_snoc] at hacyclic
    rcases store.configure_cases (.addFallback source target priority) (store.run before) with
      ⟨error, hrefused⟩ | ⟨s', hok, hstep⟩
    · rw [hrefused] at haccepted
      cases haccepted
    · rw [hok] at hacyclic
      -- the new edge and the path back to its source are a cycle
      generalize hdb : store.tables s' = db' at hstep hacyclic
      cases hstep with
      | fallback hfree =>
        apply hacyclic source
        rw [ControlPlane.fallbackEdge_addFallback hfree]
        exact .head' (Or.inr ⟨rfl, rfl⟩) (reach_inserted hpath)
  · rintro h before op after rfl -
    exact acyclic_run h _ ⟨after, by simp⟩

end ConfigurableStore

/-! ## The two stores -/

namespace Sqlite

theorem configure_cases (op : ConfigurationOp) (db : ControlPlane) :
    (∃ error, configure op db = (.error error, db)) ∨
      ∃ db', configure op db = (.ok (), db') ∧ db.Accepted op db' := by
  cases op with
  | createModel name =>
    rw [configure, createModel]
    split
    · exact Or.inl ⟨_, rfl⟩
    · next h => exact Or.inr ⟨_, rfl, .model h⟩
  | createAccount id provider credentialRef baseUrl =>
    rw [configure, createAccount]
    split
    · exact Or.inl ⟨_, rfl⟩
    split
    · exact Or.inl ⟨_, rfl⟩
    · next h => exact Or.inr ⟨_, rfl, .account h⟩
  | createRoute id logicalModel accountId upstreamModel priority =>
    rw [configure, createRoute]
    split
    · exact Or.inl ⟨_, rfl⟩
    · next h => exact Or.inr ⟨_, rfl, .route h⟩
  | addFallback source target priority =>
    rw [configure, addFallback]
    split
    · exact Or.inl ⟨_, rfl⟩
    · next h => exact Or.inr ⟨_, rfl, .fallback h⟩

/-- SQLite as a store that is configured. -/
def configurable : ConfigurableStore where
  State := ControlPlane
  start := .empty
  configure := configure
  tables := id
  Admits db source target priority := db.fallbackViolation source target priority.toNat = none
  start_tables := rfl
  configure_cases := configure_cases
  admits_iff := by
    intro db source target priority
    rw [configure, addFallback]
    split
    · next h => simp [h]
    · next h => simp [h]

end Sqlite

namespace Postgres

theorem configure_cases (op : ConfigurationOp) (db : Database) :
    (∃ error, configure op db = (.error error, db)) ∨
      ∃ db', configure op db = (.ok (), db') ∧ db.Accepted op db'.toControlPlane := by
  -- the texts and the priority are checked before the constraints
  cases op with
  | createModel name =>
    rw [configure, createModel]
    split
    · split
      · exact Or.inl ⟨_, rfl⟩
      · next h => exact Or.inr ⟨_, rfl, .model h⟩
    · exact Or.inl ⟨_, rfl⟩
  | createAccount id provider credentialRef baseUrl =>
    rw [configure, createAccount]
    split
    · exact Or.inl ⟨_, rfl⟩
    split
    · split
      · exact Or.inl ⟨_, rfl⟩
      · next h => exact Or.inr ⟨_, rfl, .account h⟩
    · exact Or.inl ⟨_, rfl⟩
  | createRoute id logicalModel accountId upstreamModel priority =>
    rw [configure, createRoute]
    split
    · split
      · split
        · exact Or.inl ⟨_, rfl⟩
        · next h => exact Or.inr ⟨_, rfl, .route h⟩
      · exact Or.inl ⟨_, rfl⟩
    · exact Or.inl ⟨_, rfl⟩
  | addFallback source target priority =>
    rw [configure, addFallback]
    split
    · split
      · split
        · exact Or.inl ⟨_, rfl⟩
        · next h => exact Or.inr ⟨_, rfl, .fallback h⟩
      · exact Or.inl ⟨_, rfl⟩
    · exact Or.inl ⟨_, rfl⟩

/-- PostgreSQL as a store that is configured. -/
def configurable : ConfigurableStore where
  State := Database
  start := .empty
  configure := configure
  tables := Database.toControlPlane
  Admits db source target priority := fitsInteger priority = true ∧
    storable [source, target] = true ∧ db.fallbackViolation source target priority.toNat = none
  start_tables := rfl
  configure_cases := configure_cases
  admits_iff := by
    intro db source target priority
    rw [configure, addFallback]
    split
    · next hfits =>
      split
      · next hstorable =>
        split
        · next h => simp [h]
        · next h => simp [hfits, hstorable, h]
      · next hstorable => simp [hstorable]
    · next hfits => simp [hfits]

end Postgres

/-! ## Routing over an acyclic graph -/

theorem candidatePlan_of_acyclicFallbacks {db : ControlPlane} (h : db.AcyclicFallbacks)
    (model : String) (routes : List RouteCandidate) (name : String) :
    candidatePlan model routes db.fallbackMap ≠ .error (.fallbackCycle name) := by
  intro hplan
  exact h name (candidatePlan_cycle hplan).2

theorem Sqlite.candidates_ne_cycle {db : ControlPlane} (h : db.AcyclicFallbacks) (now : Int)
    (model name : String) :
    Sqlite.candidates db now model ≠ .error (DomainError.fallbackCycle name).message := by
  intro hcandidates
  rw [Sqlite.candidates_eq] at hcandidates
  cases hplan : candidatePlan model (Sqlite.eligibleRoutes db now) db.fallbackMap with
  | ok plan =>
    rw [hplan] at hcandidates
    cases hcandidates
  | error error =>
    rw [hplan] at hcandidates
    have hmessage : error.message = (DomainError.fallbackCycle name).message :=
      Except.error.inj hcandidates
    rw [DomainError.message_injective hmessage] at hplan
    exact candidatePlan_of_acyclicFallbacks h model _ name hplan

theorem Postgres.candidates_ne_cycle {s : Postgres.Session} (h : s.db.AcyclicFallbacks)
    (digest : String → String) (now : Int) (leaseId model name : String) :
    (Postgres.handle digest now leaseId (.candidates model) s).1 ≠
      .error (DomainError.fallbackCycle name).message := by
  intro hcandidates
  have hhandle := Postgres.handle_candidates digest now leaseId model s
  cases hplan : candidatePlan model (s.db.eligibleCandidates now model) s.db.fallbackMap with
  | error error =>
    rw [hplan] at hhandle
    dsimp only at hhandle
    rw [hhandle] at hcandidates
    have hmessage : error.message = (DomainError.fallbackCycle name).message :=
      Except.error.inj hcandidates
    rw [DomainError.message_injective hmessage] at hplan
    exact candidatePlan_of_acyclicFallbacks h model _ name hplan
  | ok plan =>
    rw [hplan] at hhandle
    obtain ⟨probe, s', hresult, -⟩ := hhandle
    rw [hresult] at hcandidates
    dsimp only at hcandidates
    split at hcandidates
    · have hmessage : (DomainError.noEligibleRoute model).message =
          (DomainError.fallbackCycle name).message := Except.error.inj hcandidates
      cases DomainError.message_injective hmessage
    · cases hcandidates

/-- A configuration history keeps the fallback graph acyclic, on either store, exactly when no
accepted fallback leads to a model that falls back to its source. While the graph is acyclic
no call of `candidates` fails with a fallback cycle. -/
theorem configuration_acyclic_iff (ops : List ConfigurationOp) :
    (Sqlite.configurable.StaysAcyclic ops ↔ Sqlite.configurable.ClosesNoPath ops) ∧
    (Postgres.configurable.StaysAcyclic ops ↔ Postgres.configurable.ClosesNoPath ops) ∧
    (∀ db : ControlPlane, db.AcyclicFallbacks → ∀ now model name,
      Sqlite.candidates db now model ≠ .error (DomainError.fallbackCycle name).message) ∧
    ∀ s : Postgres.Session, s.db.AcyclicFallbacks → ∀ digest now leaseId model name,
      (Postgres.handle digest now leaseId (.candidates model) s).1 ≠
        .error (DomainError.fallbackCycle name).message :=
  ⟨ConfigurableStore.staysAcyclic_iff ops, ConfigurableStore.staysAcyclic_iff ops,
    fun _ h => Sqlite.candidates_ne_cycle h, fun _ h => Postgres.candidates_ne_cycle h⟩

/-- Two models, and then a fallback from one to the other. -/
def oneFallback : List ConfigurationOp :=
  [.createModel "a", .createModel "b", .addFallback "a" "b" 1]

/-- The one fallback leads to a model that has none. -/
theorem closesNoPath_oneFallback : Sqlite.configurable.ClosesNoPath oneFallback := by
  intro before source target priority after hops _ hpath
  rcases before with _ | ⟨first, _ | ⟨second, _ | ⟨third, before⟩⟩⟩
  · simp [oneFallback] at hops
  · simp [oneFallback] at hops
  · simp only [oneFallback, List.cons_append, List.nil_append, List.cons.injEq,
      ConfigurationOp.addFallback.injEq] at hops
    rcases hops with ⟨rfl, rfl, ⟨rfl, rfl, -⟩, -⟩
    have hnone : (Sqlite.configurable.run [.createModel "a", .createModel "b"]).modelFallbacks.rows =
        [] := rfl
    rcases Relation.ReflTransGen.cases_head hpath with hsame | ⟨next, hedge, -⟩
    · exact absurd hsame (by decide)
    · rcases ControlPlane.fallbackEdge_iff.mp hedge with ⟨order, hrow⟩
      exact absurd (hnone ▸ hrow) List.not_mem_nil
  · simp [oneFallback] at hops

theorem configuration_acyclic_fallback :
    (Sqlite.configurable.configure (.addFallback "a" "b" 1)
      (Sqlite.configurable.run (oneFallback.take 2))).1 = .ok () ∧
    Sqlite.configurable.StaysAcyclic oneFallback ∧
    ∀ now model, Sqlite.candidates (Sqlite.configurable.run oneFallback) now model ≠
      .error (DomainError.fallbackCycle "a").message := by
  have hacyclic : Sqlite.configurable.StaysAcyclic oneFallback :=
    (configuration_acyclic_iff oneFallback).1.mpr closesNoPath_oneFallback
  have haccepted : (Sqlite.configurable.configure (.addFallback "a" "b" 1)
      (Sqlite.configurable.run (oneFallback.take 2))).1 = .ok () := by
    decide +kernel
  have hrun := hacyclic (oneFallback.take 2) _ [] rfl haccepted
  exact ⟨haccepted, hacyclic, fun now model =>
    (configuration_acyclic_iff []).2.2.1 _ hrun now model "a"⟩
/-- A model with a route, and then a fallback of the model to itself. -/
def selfFallback : List ConfigurationOp :=
  [.createModel "a", .createAccount "account" "openai-compatible" "env:KEY" "https://provider.test",
    .createRoute "route" "a" "account" "upstream" 1, .addFallback "a" "a" 1]

/-- Every call is accepted, and the last one ends the routing of the model. -/
theorem self_fallback_accepted :
    ¬ Sqlite.configurable.StaysAcyclic selfFallback ∧
    (Sqlite.candidates (Sqlite.configurable.run (selfFallback.take 3)) 0 "a").toOption.isSome ∧
    Sqlite.candidates (Sqlite.configurable.run selfFallback) 0 "a" =
      .error (DomainError.fallbackCycle "a").message := by
  have hcycle : Sqlite.candidates (Sqlite.configurable.run selfFallback) 0 "a" =
      .error (DomainError.fallbackCycle "a").message := by
    decide +kernel
  refine ⟨?_, by decide +kernel, hcycle⟩
  intro h
  have haccepted : (Sqlite.configurable.configure (.addFallback "a" "a" 1)
      (Sqlite.configurable.run (selfFallback.take 3))).1 = .ok () := by
    decide +kernel
  have hacyclic := h (selfFallback.take 3) _ [] rfl haccepted
  exact Sqlite.candidates_ne_cycle hacyclic 0 "a" "a" hcycle

end SmartGateway
