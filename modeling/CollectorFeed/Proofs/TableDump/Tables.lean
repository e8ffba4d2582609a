import CollectorFeed.Conversation.DumpTransfer
import Mathlib.Algebra.BigOperators.Group.List.Basic
import Mathlib.Algebra.GroupWithZero.Nat

/-!
# Tables of routers

Committing routes appends each of them to the table of its router, and leaves everything else about
a table dump alone. What a table holds in the end is therefore the part of all committed routes that
names its place, in order (`getElem?_commitTables`).
-/

set_option autoImplicit false

namespace CollectorFeed

/-- The routes of a batch that name a place, in order. -/
def routesAt (place : Nat) (batch : RouteBatch) : List DumpedRoute :=
  batch.filterMap fun entry => if entry.1.toNat = place then some entry.2 else none

theorem routesAt_append (place : Nat) (first second : RouteBatch) :
    routesAt place (first ++ second) = routesAt place first ++ routesAt place second :=
  List.filterMap_append

/-! ## One table -/

namespace PeerTable

/-- Adds routes one after the other. -/
def commitAll (table : PeerTable) (routes : List DumpedRoute) : PeerTable :=
  routes.foldl commit table

/-- What adding a route leaves alone is left alone by adding all of them. -/
theorem field_commitAll {β : Type} {field : PeerTable → β}
    (kept : ∀ table route, field (commit table route) = field table) (table : PeerTable)
    (routes : List DumpedRoute) : field (table.commitAll routes) = field table := by
  induction routes generalizing table with
  | nil => rfl
  | cons route routes ih => exact (ih (table.commit route)).trans (kept table route)

theorem routes_commitAll (table : PeerTable) (routes : List DumpedRoute) :
    (table.commitAll routes).routes.toList = table.routes.toList ++ routes := by
  induction routes generalizing table with
  | nil => exact (List.append_nil _).symm
  | cons route routes ih =>
    show ((table.commit route).commitAll routes).routes.toList = _
    rw [ih (table.commit route), commit, Array.toList_push, List.append_assoc]
    rfl

/-- Routes that are added are data, and nothing else is. -/
theorem hasData_commitAll (table : PeerTable) (routes : List DumpedRoute) :
    (table.commitAll routes).hasData = (table.hasData || !routes.isEmpty) := by
  induction routes generalizing table with
  | nil => exact (Bool.or_false _).symm
  | cons route routes ih =>
    show ((table.commit route).commitAll routes).hasData = _
    rw [ih (table.commit route), List.isEmpty_cons, Bool.not_false, Bool.or_true]
    exact Bool.true_or _

/-- A table says that it has data when it has routes. -/
def Honest (table : PeerTable) : Prop :=
  table.hasData = true ↔ table.routes.toList ≠ []

theorem honest_new (peer : Peer) (session : SessionId) : (new peer session).Honest := by
  simp [Honest, new]

theorem honest_commit (table : PeerTable) (route : DumpedRoute) : (table.commit route).Honest := by
  simp [Honest, commit]

end PeerTable

/-! ## All tables -/

/-- Adds routes to the tables of their routers. -/
def commitTables (tables : List PeerTable) (batch : RouteBatch) : List PeerTable :=
  batch.foldl (fun tables entry =>
    tables.modify entry.1.toNat fun table => table.commit entry.2) tables

theorem commitTables_append (tables : List PeerTable) (first second : RouteBatch) :
    commitTables tables (first ++ second) = commitTables (commitTables tables first) second :=
  List.foldl_append

theorem length_commitTables (tables : List PeerTable) (batch : RouteBatch) :
    (commitTables tables batch).length = tables.length := by
  induction batch generalizing tables with
  | nil => rfl
  | cons entry batch ih =>
    show (commitTables (tables.modify _ _) batch).length = _
    rw [ih, List.length_modify]

/-- What is committed to the table at a place are the routes that name the place. -/
theorem getElem?_commitTables (tables : List PeerTable) (batch : RouteBatch) (place : Nat) :
    (commitTables tables batch)[place]? =
      tables[place]?.map fun table => table.commitAll (routesAt place batch) := by
  induction batch generalizing tables with
  | nil => exact Option.map_id'.symm
  | cons entry batch ih =>
    show (commitTables (tables.modify _ _) batch)[place]? = _
    rw [ih, List.getElem?_modify, Option.map_eq_map, Option.map_map]
    congr 1
    funext table
    -- only an entry that names the place touches the table there
    by_cases named : entry.1.toNat = place
    · simp [routesAt, named, PeerTable.commitAll]
    · simp [routesAt, named]

/-- What adding a route to a table leaves alone is the same for all tables. -/
theorem map_commitTables {β : Type} {field : PeerTable → β}
    (kept : ∀ table route, field (PeerTable.commit table route) = field table)
    (tables : List PeerTable) (batch : RouteBatch) :
    (commitTables tables batch).map field = tables.map field := by
  apply List.ext_getElem?
  intro place
  rw [List.getElem?_map, List.getElem?_map, getElem?_commitTables, Option.map_map]
  congr 1
  funext table
  exact PeerTable.field_commitAll kept table _

theorem map_peer_commitTables (tables : List PeerTable) (batch : RouteBatch) :
    (commitTables tables batch).map PeerTable.peer = tables.map PeerTable.peer :=
  map_commitTables (fun _ _ => rfl) tables batch

/-- Only honest tables come of honest tables. -/
theorem honest_commitTables {tables : List PeerTable}
    (honest : ∀ table ∈ tables, table.Honest) (batch : RouteBatch) :
    ∀ table ∈ commitTables tables batch, table.Honest := by
  induction batch generalizing tables with
  | nil => exact honest
  | cons entry batch ih =>
    refine ih ?_
    intro table mem
    obtain ⟨place, bound, same⟩ := List.getElem_of_mem mem
    rw [List.getElem_modify] at same
    split at same
    · rw [← same]
      exact PeerTable.honest_commit _ _
    · rw [← same]
      exact honest _ (List.getElem_mem _)

/-- Number of routes in all tables. -/
def routeCount (tables : List PeerTable) : Nat :=
  (tables.map fun table => table.routes.size).sum

theorem routeCount_modify {tables : List PeerTable} {place : Nat} (inside : place < tables.length)
    (route : DumpedRoute) :
    routeCount (tables.modify place fun table => table.commit route) = routeCount tables + 1 := by
  induction tables generalizing place with
  | nil => cases inside
  | cons table tables ih =>
    cases place with
    | zero =>
      simp [routeCount, PeerTable.commit]
      omega
    | succ place =>
      have rest := ih (Nat.lt_of_succ_lt_succ inside)
      simp only [routeCount, List.modify_succ_cons, List.map_cons, List.sum_cons] at rest ⊢
      omega

/-- No route of a batch that names only listed routers gets lost. -/
theorem routeCount_commitTables {tables : List PeerTable} {batch : RouteBatch}
    (listed : ∀ entry ∈ batch, entry.1.toNat < tables.length) :
    routeCount (commitTables tables batch) = routeCount tables + batch.length := by
  induction batch generalizing tables with
  | nil => rfl
  | cons entry batch ih =>
    show routeCount (commitTables (tables.modify _ _) batch) = _
    -- the first route goes to a listed router, and the tables stay as many
    rw [ih, routeCount_modify (listed entry List.mem_cons_self), List.length_cons]
    · omega
    · intro other mem
      rw [List.length_modify]
      exact listed other (List.mem_cons_of_mem _ mem)

/-! ## Committing within a table dump -/

namespace DumpTransfer

theorem tables_commitRoute (dump : DumpTransfer) (place : UInt16) (route : DumpedRoute) :
    (dump.commitRoute place route).tables =
      dump.tables.modify place.toNat fun table => table.commit route := by
  unfold commitRoute
  split
  · rfl
  -- there is no table at the place, so modifying it changes nothing either
  · next outside => exact (List.modify_eq_self (Nat.not_lt.1 outside)).symm

theorem tables_commit (dump : DumpTransfer) (batch : RouteBatch) :
    (dump.commit batch).tables = commitTables dump.tables batch := by
  induction batch generalizing dump with
  | nil => rfl
  | cons entry batch ih =>
    show ((dump.commitRoute entry.1 entry.2).commit batch).tables = _
    rw [ih, tables_commitRoute]
    rfl

/-- What committing leaves alone. -/
structure SameBut (dump after : DumpTransfer) : Prop where
  phase : after.phase = dump.phase
  index? : after.index? = dump.index?
  pending : after.pending = dump.pending
  discarded : after.stats.discardedBatches = dump.stats.discardedBatches

theorem commit_sameBut (dump : DumpTransfer) (batch : RouteBatch) :
    SameBut dump (dump.commit batch) := by
  induction batch generalizing dump with
  | nil => exact ⟨rfl, rfl, rfl, rfl⟩
  | cons entry batch ih =>
    have first : SameBut dump (dump.commitRoute entry.1 entry.2) := by
      unfold commitRoute
      split <;> exact ⟨rfl, rfl, rfl, rfl⟩
    have rest := ih (dump.commitRoute entry.1 entry.2)
    exact ⟨rest.phase.trans first.phase, rest.index?.trans first.index?,
      rest.pending.trans first.pending, rest.discarded.trans first.discarded⟩

/-- Routes are counted as they are committed. -/
def Counted (dump : DumpTransfer) : Prop :=
  dump.stats.committedRoutes = routeCount dump.tables

theorem Counted.commitRoute {dump : DumpTransfer} (counted : dump.Counted) (place : UInt16)
    (route : DumpedRoute) : (dump.commitRoute place route).Counted := by
  unfold DumpTransfer.commitRoute
  split
  · next inside => exact (congrArg (· + 1) counted).trans (routeCount_modify inside route).symm
  · exact counted

theorem Counted.commit {dump : DumpTransfer} (counted : dump.Counted) (batch : RouteBatch) :
    (dump.commit batch).Counted := by
  induction batch generalizing dump with
  | nil => exact counted
  | cons entry batch ih => exact ih (counted.commitRoute entry.1 entry.2)

end DumpTransfer

end CollectorFeed
