import Mathlib.Logic.Relation
import Mathlib.Tactic

/-! Depth-first visits of what a node depends on. A node whose own visit is not over must not be met
again, and a visit that fails leaves what was finished before it. -/

namespace DependencyVisit

open Relation

/-- How dependencies are found, and what is done with a node once they are all there. -/
structure Graph (N D ε : Type) where
  nodes : List N
  dependencies : N → List D
  find : N → D → Except ε N
  found : ∀ {node dependency other}, find node dependency = .ok other → other ∈ nodes
  circular : N → N → ε
  finish : N → Except ε Unit

namespace Graph

section Finished

variable {N D ε : Type} (graph : Graph N D ε)

/-- The dependencies are found and done. -/
def Met (done : List N) (node : N) (dependencies : List D) : Prop :=
  ∀ dependency ∈ dependencies, ∃ other, graph.find node dependency = .ok other ∧ other ∈ done

/-- One list of finished nodes grows out of another, each node after its dependencies. -/
inductive Grown (done : List N) : List N → Prop
  | start : Grown done done
  | finish {after : List N} {node : N} : Grown done after → node ∉ after →
      graph.Met after node (graph.dependencies node) → graph.finish node = .ok () →
      Grown done (after ++ [node])

/-- A node is done, or there is an order in which it comes to be finished. -/
def Ready (done : List N) (node : N) : Prop := ∃ after, graph.Grown done after ∧ node ∈ after

/-- One node needs another to be finished. -/
def Needs (node other : N) : Prop :=
  ∃ dependency ∈ graph.dependencies node, graph.find node dependency = .ok other

variable {graph} {done after later : List N} {node other : N}

theorem Grown.subset (grown : graph.Grown done after) : done ⊆ after := by
  induction grown with
  | start => exact List.Subset.refl _
  | finish _ _ _ _ ih => exact List.subset_append_of_subset_left _ ih

theorem Grown.trans (grown : graph.Grown done after) (next : graph.Grown after later) :
    graph.Grown done later := by
  induction next with
  | start => exact grown
  | finish _ new met finished ih => exact .finish ih new met finished

theorem mem_nodes (needs : ReflTransGen graph.Needs node other) (member : node ∈ graph.nodes) :
    other ∈ graph.nodes := by
  rcases needs.cases_tail with rfl | ⟨_, -, _, -, found⟩
  · exact member
  · exact graph.found found

/-- Finishing nodes makes no other node ready. -/
theorem Grown.ready_iff (grown : graph.Grown done after) :
    graph.Ready after node ↔ graph.Ready done node := by
  constructor
  · rintro ⟨later, next, listed⟩
    exact ⟨later, grown.trans next, listed⟩
  · rintro ⟨other, order, listed⟩
    -- What the other order finishes can also be finished later.
    obtain ⟨all, next, sub⟩ : ∃ all, graph.Grown after all ∧ other ⊆ all := by
      clear listed
      induction order with
      | start => exact ⟨after, .start, grown.subset⟩
      | @finish other last _ _ met finished ih =>
        obtain ⟨all, next, sub⟩ := ih
        by_cases old : last ∈ all
        · exact ⟨all, next, List.append_subset.mpr ⟨sub, by simpa using old⟩⟩
        · refine ⟨all ++ [last], next.finish old (fun dependency member => ?_) finished,
            List.append_subset.mpr ⟨List.subset_append_of_subset_left _ sub, by simp⟩⟩
          obtain ⟨needed, found, done⟩ := met dependency member
          exact ⟨needed, found, sub done⟩
    exact ⟨all, next, sub listed⟩

end Finished

variable {N D ε : Type} [DecidableEq N] (graph : Graph N D ε)

/-- The end of a visit: a node whose dependencies are there is finished. -/
def close (node : N) : Except ε Unit × List N → Except ε Unit × List N
  | (.error error, done) => (.error error, done)
  | (.ok (), done) =>
    match graph.finish node with
    | .error error => (.error error, done)
    | .ok () => (.ok (), done ++ [node])

def without (nodes : List N) (node : N) : List N := nodes.filter (· ≠ node)

@[simp] theorem mem_without {nodes : List N} {node other : N} :
    other ∈ without nodes node ↔ other ∈ nodes ∧ other ≠ node := by
  simp [without]

theorem without_length {nodes : List N} {node : N} (member : node ∈ nodes) :
    (without nodes node).length < nodes.length :=
  List.length_filter_lt_length_iff_exists.mpr ⟨node, member, by simp⟩

/-- The visits of dependencies of a node: what is done is passed over, and what is not idle is being
visited already. -/
def visitAll (idle : List N) (node : N) : List D → List N → Except ε Unit × List N
  | [], done => (.ok (), done)
  | dependency :: rest, done =>
    match graph.find node dependency with
    | .error error => (.error error, done)
    | .ok other =>
      if other ∈ done then visitAll idle node rest done
      else if other ∈ idle then
        match graph.close other
          (visitAll (without idle other) other (graph.dependencies other) done) with
        | (.error error, done) => (.error error, done)
        | (.ok (), done) => visitAll idle node rest done
      else (.error (graph.circular node other), done)
termination_by remaining => (idle.length, remaining.length)
decreasing_by
  · exact Prod.Lex.right _ (Nat.lt_succ_self _)
  · exact Prod.Lex.left _ _ (without_length ‹_›)
  · exact Prod.Lex.right _ (Nat.lt_succ_self _)

/-- The visit of a node, while those that are not idle are being visited. -/
def visitFrom (idle : List N) (node : N) (done : List N) : Except ε Unit × List N :=
  graph.close node (graph.visitAll (without idle node) node (graph.dependencies node) done)

/-- The visit of a node when no other visit is under way. -/
def visit (node : N) (done : List N) : Except ε Unit × List N :=
  graph.visitFrom graph.nodes node done

/-- Of several nodes, each is visited unless it is done; one that fails does not stop the others. -/
def visitEach : List N → List N → List N
  | [], done => done
  | node :: rest, done => visitEach rest (if node ∈ done then done else (graph.visit node done).2)

variable {graph} {idle done base : List N} {node : N} {dependencies : List D}

/-- What visits do: the nodes that they finish are idle ones, and needed. -/
structure Visited (graph : Graph N D ε) (idle : List N) (node : N) (dependencies : List D)
    (before : List N) (result : Except ε Unit × List N) : Prop where
  grown : graph.Grown before result.2
  finished : ∀ other ∈ result.2, other ∉ before → other ∈ idle ∧ TransGen graph.Needs node other
  met : result.1 = .ok () → graph.Met result.2 node dependencies

/-- The end of a visit finishes the node itself, or nothing more. -/
theorem Visited.close {result : Except ε Unit × List N}
    (visited : Visited graph (without idle node) node (graph.dependencies node) done result)
    (new : node ∉ done) : graph.Grown done (graph.close node result).2 ∧
      (∀ other ∈ (graph.close node result).2, other ∉ done →
        other = node ∨ other ∈ idle ∧ TransGen graph.Needs node other) ∧
      ((graph.close node result).1 = .ok () → node ∈ (graph.close node result).2) := by
  obtain ⟨outcome, after⟩ := result
  have kept : ∀ other ∈ after, other ∉ done →
      other = node ∨ other ∈ idle ∧ TransGen graph.Needs node other := by
    intro other listed fresh
    obtain ⟨inside, needed⟩ := visited.finished other listed fresh
    exact .inr ⟨(mem_without.mp inside).1, needed⟩
  cases outcome with
  | error error => exact ⟨visited.grown, kept, fun done => by cases done⟩
  | ok _ =>
    unfold Graph.close
    cases finished : graph.finish node with
    | error error => exact ⟨visited.grown, kept, fun done => by cases done⟩
    | ok _ =>
      -- No visit below the node can have finished it: it was not idle there.
      have unfinished : node ∉ after := fun listed =>
        (mem_without.mp (visited.finished node listed new).1).2 rfl
      refine ⟨visited.grown.finish unfinished (visited.met rfl) finished, ?_, fun _ => by simp⟩
      intro other listed fresh
      rcases List.mem_append.mp listed with old | same
      · exact kept other old fresh
      · exact .inl (List.mem_singleton.mp same)

theorem visitAll_visited (sub : dependencies ⊆ graph.dependencies node) :
    Visited graph idle node dependencies done (graph.visitAll idle node dependencies done) := by
  -- The induction is along the visits: of the dependencies of a new node, then of the rest.
  induction idle, node, dependencies, done using visitAll.induct graph with
  | case1 idle node done =>
    rw [visitAll]
    exact ⟨.start, fun _ old new => absurd old new, fun _ _ member => by cases member⟩
  | case2 idle node dependency rest done error missing =>
    rw [visitAll, missing]
    exact ⟨.start, fun _ old new => absurd old new, fun wrong => by cases wrong⟩
  | case3 idle node dependency rest done other found old ih =>
    have visited := ih (List.subset_of_cons_subset sub)
    rw [visitAll, found]
    simp only [old, if_true]
    exact ⟨visited.grown, visited.finished, fun passed => List.forall_mem_cons.mpr
      ⟨⟨other, found, visited.grown.subset old⟩, visited.met passed⟩⟩
  | case4 idle node dependency rest done other found new inside error after stopped ih =>
    have needs : graph.Needs node other := ⟨dependency, sub List.mem_cons_self, found⟩
    have below := (ih (List.Subset.refl _)).close new
    rw [stopped] at below
    rw [visitAll, found]
    simp only [new, inside, stopped, if_true, if_false]
    refine ⟨below.1, fun last listed fresh => ?_, fun wrong => by cases wrong⟩
    rcases below.2.1 last listed fresh with rfl | ⟨idle, needed⟩
    · exact ⟨inside, .single needs⟩
    · exact ⟨idle, .head needs needed⟩
  | case5 idle node dependency rest done other found new inside after closed ih later =>
    have needs : graph.Needs node other := ⟨dependency, sub List.mem_cons_self, found⟩
    have below := (ih (List.Subset.refl _)).close new
    rw [closed] at below
    have visited := later (List.subset_of_cons_subset sub)
    rw [visitAll, found]
    simp only [new, inside, closed, if_true, if_false]
    refine ⟨below.1.trans visited.grown, fun last listed fresh => ?_, fun passed =>
      List.forall_mem_cons.mpr
        ⟨⟨other, found, visited.grown.subset (below.2.2 rfl)⟩, visited.met passed⟩⟩
    by_cases before : last ∈ after
    · rcases below.2.1 last before fresh with rfl | ⟨idle, needed⟩
      · exact ⟨inside, .single needs⟩
      · exact ⟨idle, .head needs needed⟩
    · exact visited.finished last listed before
  | case6 idle node dependency rest done other found new busy =>
    rw [visitAll, found]
    simp only [new, busy, if_false]
    exact ⟨.start, fun _ old new => absurd old new, fun wrong => by cases wrong⟩

theorem visitFrom_spec (new : node ∉ done) : graph.Grown done (graph.visitFrom idle node done).2 ∧
    (∀ other ∈ (graph.visitFrom idle node done).2, other ∉ done →
      other = node ∨ other ∈ idle ∧ TransGen graph.Needs node other) ∧
    ((graph.visitFrom idle node done).1 = .ok () → node ∈ (graph.visitFrom idle node done).2) :=
  (visitAll_visited (List.Subset.refl _)).close new

/-- What is being visited comes later in any order than the node that is visited now, so it is not met
again. -/
theorem visitFrom_ok {order : List N} (ordered : graph.Grown base order)
    (grown : graph.Grown base done) (new : node ∉ done)
    (busy : ∀ other ∈ graph.nodes, other ∉ idle → other ∉ done → other ∉ order)
    (listed : node ∈ order) : (graph.visitFrom idle node done).1 = .ok () := by
  induction ordered generalizing idle node done with
  | start => exact absurd (grown.subset listed) new
  | @finish order last _ late met finished ih =>
    have earlier : ∀ other ∈ graph.nodes, other ∉ idle → other ∉ done → other ∉ order :=
      fun other member out fresh old => busy other member out fresh (List.mem_append_left _ old)
    rcases List.mem_append.mp listed with before | here
    · exact ih grown new earlier before
    obtain rfl : node = last := List.mem_singleton.mp here
    have busy' : ∀ other ∈ graph.nodes, other ∉ without idle node → other ∉ done → other ∉ order := by
      intro other member out fresh old
      by_cases same : other = node
      · exact late (same ▸ old)
      · exact earlier other member (fun inside => out (mem_without.mpr ⟨inside, same⟩)) fresh old
    -- Its dependencies come earlier, so each of them is done or can be visited.
    have visits : ∀ dependencies : List D, graph.Met order node dependencies → ∀ after,
        graph.Grown done after →
          (graph.visitAll (without idle node) node dependencies after).1 = .ok () := by
      intro dependencies
      induction dependencies with
      | nil => intro _ after _; rw [visitAll]
      | cons dependency rest later =>
        intro met after more
        obtain ⟨⟨other, found, before⟩, met⟩ := List.forall_mem_cons.mp met
        rw [visitAll, found]
        by_cases old : other ∈ after
        · simpa only [old, if_true] using later met after more
        have inside : other ∈ without idle node := by
          by_contra out
          exact busy' other (graph.found found) out (fun listed => old (more.subset listed)) before
        have visited : graph.Grown after (graph.visitFrom (without idle node) other after).2 :=
          (visitFrom_spec old).1
        have passed := ih (grown.trans more) old (fun last member out fresh =>
          busy' last member out fun listed => fresh (more.subset listed)) before
        simp only [old, inside, if_true, if_false]
        unfold visitFrom at visited passed
        generalize graph.close other _ = result at visited passed ⊢
        obtain ⟨outcome, after'⟩ := result
        cases passed
        exact later met after' (more.trans visited)
    have passed := visits _ met done .start
    unfold visitFrom
    generalize graph.visitAll _ _ _ _ = result at passed ⊢
    obtain ⟨outcome, after⟩ := result
    cases passed
    simp [close, finished]

theorem visit_spec (new : node ∉ done) : graph.Grown done (graph.visit node done).2 ∧
    (node ∈ (graph.visit node done).2 ↔ graph.Ready done node) ∧
    ∀ other ∈ (graph.visit node done).2, other ∉ done → ReflTransGen graph.Needs node other := by
  obtain ⟨grown, finished, passed⟩ := @visitFrom_spec _ _ _ _ graph graph.nodes _ _ new
  refine ⟨grown, ⟨fun listed => ⟨_, grown, listed⟩, fun ⟨order, ordered, member⟩ => ?_⟩,
    fun other listed fresh => ?_⟩
  · exact passed (visitFrom_ok ordered .start new (fun _ member busy => absurd member busy) member)
  · rcases finished other listed fresh with rfl | ⟨-, needs⟩
    · exact .refl
    · exact needs.to_reflTransGen

/-- The order of the visits does not matter to the nodes that are visited. -/
theorem visitEach_spec (nodes done : List N) : graph.Grown done (graph.visitEach nodes done) ∧
    (∀ node ∈ nodes, node ∈ graph.visitEach nodes done ↔ graph.Ready done node) ∧
    ∀ other ∈ graph.visitEach nodes done, other ∉ done →
      ∃ node ∈ nodes, ReflTransGen graph.Needs node other := by
  induction nodes generalizing done with
  | nil => exact ⟨.start, by simp, fun other listed new => absurd listed new⟩
  | cons first rest ih =>
    rw [visitEach]
    generalize visited : (if first ∈ done then done else (graph.visit first done).2) = after
    obtain ⟨grown, ready, needed⟩ : graph.Grown done after ∧
        (first ∈ after ↔ graph.Ready done first) ∧
        ∀ other ∈ after, other ∉ done → ReflTransGen graph.Needs first other := by
      subst visited
      split
      · next old =>
        exact ⟨.start, iff_of_true old ⟨done, .start, old⟩, fun _ listed new => absurd listed new⟩
      · next new => exact visit_spec new
    obtain ⟨later, readyLater, neededLater⟩ := ih after
    refine ⟨grown.trans later, ?_, fun other listed new => ?_⟩
    · rintro node (_ | ⟨_, member⟩)
      · exact ⟨fun listed => ⟨_, grown.trans later, listed⟩,
          fun this => later.subset (ready.mpr this)⟩
      · exact (readyLater node member).trans grown.ready_iff
    · by_cases before : other ∈ after
      · exact ⟨first, List.mem_cons_self, needed other before new⟩
      · obtain ⟨node, member, needs⟩ := neededLater other listed before
        exact ⟨node, List.mem_cons_of_mem _ member, needs⟩

end Graph

end DependencyVisit
