import PocoDDS.DDS.Runtime
import PocoDDS.Lib.DependencyVisit
import PocoDDS.Lib.ReadyOrder
import PocoDDS.Lib.Run

/-! The bundles of the runtime, from loading and resolving to starting, stopping and unloading. -/

namespace PocoDDS.OSP

open DependencyVisit FastDDS ReadyOrder RunLogic

structure Version where
  major : Int := 0
  minor : Int := 0
  revision : Int := 0
  designation : String := ""
  deriving DecidableEq, Repr

namespace Version

/-- The comparisons leave the designation out. -/
def same (version other : Version) : Bool :=
  version.major == other.major && version.minor == other.minor && version.revision == other.revision

def less (version other : Version) : Bool :=
  version.major < other.major || version.major == other.major &&
    (version.minor < other.minor ||
      version.minor == other.minor && version.revision < other.revision)

def text (version : Version) : String :=
  toString version.major ++ "." ++ toString version.minor ++ "." ++ toString version.revision ++
    if version.designation = "" then "" else "-" ++ version.designation

end Version

structure VersionRange where
  lower : Version := {}
  includeLower : Bool := false
  upper : Version := {}
  includeUpper : Bool := false
  deriving DecidableEq, Repr

namespace VersionRange

def only (version : Version) : VersionRange := ⟨version, true, version, true⟩

def isInRange (range : VersionRange) (version : Version) : Bool :=
  (range.includeLower && version.same range.lower || range.lower.less version) &&
    (range.includeUpper && version.same range.upper || version.less range.upper)

def isEmpty (range : VersionRange) : Bool := range.lower.same range.upper && !range.includeLower

def text (range : VersionRange) : String :=
  (if range.includeLower then "[" else "(") ++
    (if range.isEmpty then "" else range.lower.text ++ "," ++ range.upper.text) ++
    if range.includeUpper then "]" else ")"

end VersionRange

structure Dependency where
  symbolicName : String
  versions : VersionRange := {}
  deriving DecidableEq, Repr

/-- What the manifest of a bundle says. -/
structure Bundle where
  symbolicName : String
  version : Version := {}
  lazyStart : Bool := false
  requiredBundles : List Dependency := []
  requiredModules : List Dependency := []
  providedModules : List (String × Version) := []
  deriving DecidableEq, Repr

/-- What installing the libraries of a bundle, and its activator, answer. -/
structure BundleHost where
  installLibraries : Bundle → Except Thrown Unit
  start : Bundle → Except Thrown Unit
  stop : Bundle → Except Thrown Unit

/-- The loaded bundles in the order of their names, and what has become of them: the resolved ones are
listed in the order in which they were resolved, and so are the active ones. -/
structure BundleLoader where
  bundles : List Bundle := []
  distinct : (bundles.map Bundle.symbolicName).Nodup := by simp
  resolved : List Bundle := []
  active : List Bundle := []
  resolvedDependencies : Bundle → List (String × Version) := fun _ => []
  autoStartBlocked : Bundle → Bool := fun _ => false

def resolveException (message : String) : Thrown :=
  .poco "Cannot resolve bundle" ("Cannot resolve bundle: " ++ message)

def stateException (message : String) : Thrown :=
  .poco "Invalid bundle state" ("Invalid bundle state: " ++ message)

def isProvidingModule (bundle : Bundle) (module : Dependency) : Bool :=
  bundle.providedModules.any fun provided =>
    module.symbolicName == provided.1 && module.versions.isInRange provided.2

namespace BundleLoader

variable (host : BundleHost) (loader : BundleLoader)

def findBundle (symbolicName : String) : Option Bundle :=
  loader.bundles.find? (·.symbolicName == symbolicName)

def resolveModule (bundle : Bundle) (module : Dependency) : Except Thrown (List Bundle) :=
  let providers := loader.bundles.filter (isProvidingModule · module)
  if providers = [] then
    .error (resolveException ("Module " ++ module.symbolicName ++ ", version " ++
      module.versions.text ++ " required by bundle " ++ bundle.symbolicName ++ " not available"))
  else .ok providers

/-- What `resolveBundle` resolves in turn: the providers of all modules in their own versions, then the
required bundles. -/
def requirements (bundle : Bundle) : List (Except Thrown Dependency) :=
  match bundle.requiredModules.mapM (loader.resolveModule bundle) with
  | .error thrown => [.error thrown]
  | .ok providers => (providers.flatten.map fun provider =>
      .ok ⟨provider.symbolicName, .only provider.version⟩) ++ bundle.requiredBundles.map .ok

def resolveDependency : Except Thrown Dependency → Except Thrown Bundle
  | .error thrown => .error thrown
  | .ok dependency =>
    match loader.findBundle dependency.symbolicName with
    | none => .error (resolveException
        ("Required bundle not available: " ++ dependency.symbolicName))
    | some found =>
      if dependency.versions.isEmpty || dependency.versions.isInRange found.version then .ok found
      else .error (resolveException ("Required bundle not available in requested version: " ++
        dependency.symbolicName ++ ", requested: " ++ dependency.versions.text ++ ", available: " ++
        found.version.text))

/-- A dependency that is recorded must still be there in its version, and be resolved. -/
def startDependency (dependency : String × Version) : Except Thrown Bundle :=
  match loader.findBundle dependency.1 with
  | none => .error (resolveException
      ("A required bundle is no longer available: " ++ dependency.1))
  | some found =>
    if !found.version.same dependency.2 then .error (resolveException
      ("A required bundle is no longer available: " ++ dependency.1))
    else if found ∈ loader.resolved then .ok found
    else .error (stateException "start() requires RESOLVED state")

theorem findBundle_mem {name : String} {found : Bundle} (some : loader.findBundle name = some found) :
    found ∈ loader.bundles ∧ found.symbolicName = name := by
  unfold findBundle at some
  exact ⟨List.mem_of_find?_eq_some some, by simpa using List.find?_some some⟩

theorem resolveDependency_mem {dependency : Except Thrown Dependency} {found : Bundle}
    (resolves : loader.resolveDependency dependency = .ok found) : found ∈ loader.bundles := by
  unfold resolveDependency at resolves
  split at resolves
  · cases resolves
  · split at resolves
    · cases resolves
    · next some =>
      split at resolves
      · cases resolves
        exact (loader.findBundle_mem some).1
      · cases resolves

theorem startDependency_mem {dependency : String × Version} {found : Bundle}
    (starts : loader.startDependency dependency = .ok found) : found ∈ loader.resolved := by
  unfold startDependency at starts
  split at starts
  · cases starts
  · split at starts
    · cases starts
    · split at starts
      · next resolved => exact Except.ok.inj starts ▸ resolved
      · cases starts

/-- `resolveBundle` as a visit: what is idle is not in `_resolvingBundles`. -/
def resolving : Graph Bundle (Except Thrown Dependency) Thrown where
  nodes := loader.bundles
  dependencies := loader.requirements
  find := fun _ => loader.resolveDependency
  found := loader.resolveDependency_mem
  circular := fun bundle other => resolveException ("Circular reference detected involving " ++
    bundle.symbolicName ++ " and " ++ other.symbolicName)
  finish := host.installLibraries

/-- `startBundle` as a visit: what is not idle is in the state STARTING. -/
def starting : Graph Bundle (String × Version) Thrown where
  nodes := loader.resolved
  dependencies := loader.resolvedDependencies
  find := fun _ => loader.startDependency
  found := loader.startDependency_mem
  circular := fun _ _ => stateException "start() requires RESOLVED state"
  finish := host.start

def record (resolved : List Bundle) : BundleLoader :=
  { loader with
    resolved
    resolvedDependencies := fun bundle =>
      if bundle ∈ loader.resolved then loader.resolvedDependencies bundle
      else ((loader.requirements bundle).filterMap fun dependency =>
        (loader.resolveDependency dependency).toOption.map fun found =>
          (found.symbolicName, found.version)).eraseDups }

/-- A bundle is loaded unless its name is taken. -/
def loadBundle (bundle : Bundle) : BundleLoader :=
  if fresh : bundle.symbolicName ∈ loader.bundles.map Bundle.symbolicName then loader
  else { loader with
    bundles := loader.bundles.orderedInsert (·.symbolicName ≤ ·.symbolicName) bundle
    distinct := by
      rw [((List.perm_orderedInsert _ bundle loader.bundles).map _).nodup_iff]
      exact List.nodup_cons.mpr ⟨fresh, loader.distinct⟩ }

/-- A bundle that has been started cannot be unloaded. -/
def unloadBundle (bundle : Bundle) : BundleLoader :=
  if bundle ∈ loader.active then loader
  else { loader with
    bundles := loader.bundles.filter (· ≠ bundle)
    distinct := loader.distinct.sublist (List.filter_sublist.map _)
    resolved := loader.resolved.filter (· ≠ bundle) }

def resolve (bundle : Bundle) : Except Thrown Unit × BundleLoader :=
  if bundle ∈ loader.resolved then
    (.error (stateException "resolve() requires INSTALLED state"), loader)
  else
    let result := (loader.resolving host).visit bundle loader.resolved
    (result.1, loader.record result.2)

def resolveAllBundles : BundleLoader :=
  loader.record ((loader.resolving host).visitEach loader.bundles loader.resolved)

def start (bundle : Bundle) : Except Thrown Unit × BundleLoader :=
  if bundle ∈ loader.resolved ∧ bundle ∉ loader.active then
    let result := (loader.starting host).visit bundle loader.active
    (result.1, { loader with active := result.2 })
  else (.error (stateException "start() requires RESOLVED state"), loader)

def startsItself (bundle : Bundle) : Bool :=
  bundle ∈ loader.resolved && !bundle.lazyStart && !loader.autoStartBlocked bundle

/-- The bundles are listed by their run levels. -/
def startAllBundles (listed : List Bundle) : BundleLoader :=
  { loader with
    active := (loader.starting host).visitEach (listed.filter loader.startsItself) loader.active }

def stop (bundle : Bundle) : Except Thrown Unit × BundleLoader :=
  if bundle ∈ loader.active then
    match host.stop bundle with
    | .error thrown => (.error thrown, loader)
    | .ok () => (.ok (), { loader with active := loader.active.filter (· ≠ bundle) })
  else (.error (stateException "stop() requires ACTIVE state"), loader)

/-- What `sortBundles` asks for before it takes a bundle. -/
def needs (bundle : Bundle) : List String :=
  if bundle ∈ loader.resolved then (loader.resolvedDependencies bundle).map Prod.fst else []

/-- `sortBundles`; its loop does not end when no bundle that is left can be taken. -/
def sortBundles (listed : List Bundle) : Option (List Bundle) :=
  (takeReady Bundle.symbolicName loader.needs listed []).map List.reverse

def stopEach : List Bundle → BundleLoader → Except Thrown Unit × BundleLoader
  | [], loader => (.ok (), loader)
  | bundle :: rest, loader =>
    if bundle ∈ loader.active then
      match loader.stop host bundle with
      | (.error thrown, loader) => (.error thrown, loader)
      | (.ok (), loader) => stopEach rest loader
    else stopEach rest loader

def stopAllBundles (listed : List Bundle) : Option (Except Thrown Unit × BundleLoader) :=
  (loader.sortBundles listed).map fun sorted => stopEach host sorted loader

inductive Event
  | load (bundle : Bundle)
  | resolve (bundle : Bundle)
  | start (bundle : Bundle)
  | stop (bundle : Bundle)
  | unload (bundle : Bundle)

/-- The calls are about loaded bundles. -/
def step : Event → BundleLoader
  | .load bundle => loader.loadBundle bundle
  | .resolve bundle => if bundle ∈ loader.bundles then (loader.resolve host bundle).2 else loader
  | .start bundle => (loader.start host bundle).2
  | .stop bundle => (loader.stop host bundle).2
  | .unload bundle => loader.unloadBundle bundle

end BundleLoader

section Results

def core : Bundle := { symbolicName := "core" }

def coreLoader : BundleLoader := { bundles := [core] }

def resolvedCore : BundleLoader := { bundles := [core], resolved := [core] }

def plainHost : BundleHost where
  installLibraries := fun _ => .ok ()
  start := fun _ => .ok ()
  stop := fun _ => .ok ()

variable {host : BundleHost} {loader : BundleLoader}

/-- Shutting down ends exactly if the loaded bundles have an order in which each of them comes after
what it has recorded; otherwise the loop that sorts them goes on for good. -/
theorem stopAllBundles_ends_iff {listed : List Bundle} (all : listed.Perm loader.bundles) :
    (loader.stopAllBundles host listed).isSome ↔ ∃ order : List Bundle,
      order.Perm loader.bundles ∧ InOrder Bundle.symbolicName loader.needs order := by
  rw [BundleLoader.stopAllBundles, BundleLoader.sortBundles, Option.isSome_map, Option.isSome_map]
  constructor
  · intro ends
    obtain ⟨order, taking⟩ := Option.isSome_iff_exists.mp ends
    obtain ⟨inOrder, perm⟩ := takeReady_inOrder .nil taking
    exact ⟨order, perm.trans all, inOrder⟩
  · rintro ⟨order, perm, inOrder⟩
    have same : listed.Perm order := all.trans perm.symm
    exact takeReady_isSome inOrder (fun node member => .inl (same.mem_iff.mpr member))
      fun node member out => absurd (same.mem_iff.mp member) out

theorem core_stops : (coreLoader.stopAllBundles plainHost [core]).isSome ↔ ∃ order : List Bundle,
    order.Perm [core] ∧ InOrder Bundle.symbolicName coreLoader.needs order :=
  stopAllBundles_ends_iff (.refl _)

theorem stopEach_safe {order : List Bundle} {needs : Bundle → List String}
    (inOrder : InOrder Bundle.symbolicName needs order)
    (distinct : (order.map Bundle.symbolicName).Nodup) (active : loader.active ⊆ order) :
    let result := BundleLoader.stopEach host order.reverse loader
    result.2.active ⊆ loader.active ∧
    (∀ stopped ∈ loader.active, stopped ∉ result.2.active → ∀ running ∈ result.2.active,
      stopped.symbolicName ∉ needs running) ∧ (result.1 = .ok () → result.2.active = []) := by
  induction inOrder generalizing loader with
  | nil =>
    rw [List.subset_nil.mp active]
    simp [BundleLoader.stopEach, List.subset_nil.mp active]
  | @snoc order bundle inOrder earlier ih =>
    rw [List.map_append, List.nodup_append] at distinct
    have others : ∀ {other}, other ∈ loader.active → other ≠ bundle → other ∈ order := by
      intro other member differs
      exact (List.mem_append.mp (active member)).resolve_right fun last =>
        differs (List.mem_singleton.mp last)
    rw [List.reverse_append, List.reverse_singleton, List.singleton_append, BundleLoader.stopEach]
    dsimp only
    by_cases here : bundle ∈ loader.active
    · rw [if_pos here, BundleLoader.stop, if_pos here]
      cases host.stop bundle with
      | error thrown =>
        exact ⟨List.Subset.refl _, fun _ member gone => absurd member gone,
          fun wrong => by cases wrong⟩
      | ok _ =>
        obtain ⟨left, safe, all⟩ := @ih { loader with active := loader.active.filter (· ≠ bundle) }
          distinct.1 fun other member => others (List.mem_of_mem_filter member)
            (by simpa using (List.mem_filter.mp member).2)
        refine ⟨List.Subset.trans left (List.filter_subset_self _),
          fun stopped member gone running still => ?_, all⟩
        by_cases same : stopped = bundle
        · -- What is left lies before the bundle, and so do its needs.
          subst same
          obtain ⟨member, differs⟩ := List.mem_filter.mp (left still)
          intro needed
          exact distinct.2.2 _ (inOrder.subset (others member (by simpa using differs)) needed) _
            (by simp) rfl
        · exact safe stopped (List.mem_filter.mpr ⟨member, by simpa using same⟩) gone running still
    · rw [if_neg here]
      exact ih distinct.1 fun other member =>
        others member fun same => here (same ▸ member)

/-- What a run of calls may do: a bundle is unloaded when no other resolved bundle needs it. -/
def Unneeded (loader : BundleLoader) : BundleLoader.Event → Prop
  | .unload bundle => ∀ other ∈ loader.resolved, other ≠ bundle →
      bundle.symbolicName ∉ loader.needs other
  | _ => True

/-- The resolved bundles are loaded, each was resolved after what it needs, and the active ones are
among them. -/
structure Layered (loader : BundleLoader) : Prop where
  loaded : loader.resolved ⊆ loader.bundles
  inOrder : InOrder Bundle.symbolicName loader.needs loader.resolved
  active : loader.active ⊆ loader.resolved

/-- Shutting down ends, and takes no bundle away from one that is active. -/
def StopsSafely (host : BundleHost) (loader : BundleLoader) : Prop :=
  ∀ listed : List Bundle, listed.Perm loader.bundles → ∃ outcome after,
    loader.stopAllBundles host listed = some (outcome, after) ∧
    (∀ stopped ∈ loader.active, stopped ∉ after.active → ∀ running ∈ after.active,
      stopped.symbolicName ∉ loader.needs running) ∧ (outcome = .ok () → after.active = [])

theorem Layered.stopsSafely (layered : Layered loader) : StopsSafely host loader := by
  intro listed all
  have ends : (takeReady Bundle.symbolicName loader.needs listed []).isSome :=
    takeReady_isSome layered.inOrder
      (fun bundle member => .inl (all.mem_iff.mpr (layered.loaded member)))
      fun bundle _ unresolved => by simp [BundleLoader.needs, unresolved]
  obtain ⟨order, taking⟩ := Option.isSome_iff_exists.mp ends
  obtain ⟨inOrder, perm⟩ := takeReady_inOrder .nil taking
  have same : order.Perm loader.bundles := perm.trans all
  have stops := @stopEach_safe host _ _ _ inOrder ((same.map _).nodup_iff.mpr loader.distinct)
    fun bundle member => same.mem_iff.mpr (layered.loaded (layered.active member))
  refine ⟨_, _, ?_, stops.2⟩
  unfold BundleLoader.stopAllBundles BundleLoader.sortBundles
  rw [taking]
  rfl

theorem record_inOrder {after all : List Bundle}
    (grown : (loader.resolving host).Grown loader.resolved after) (sub : after ⊆ all)
    (inOrder : InOrder Bundle.symbolicName loader.needs loader.resolved) :
    InOrder Bundle.symbolicName (loader.record all).needs after := by
  induction grown with
  | start =>
    refine inOrder.congr fun bundle member => ?_
    simp [BundleLoader.needs, BundleLoader.record, member, sub member]
  | @finish after bundle grown new met _ ih =>
    refine (ih (List.append_subset.mp sub).1).snoc fun need needed => ?_
    have fresh : bundle ∉ loader.resolved := fun old => new (grown.subset old)
    have listed : bundle ∈ all := (List.append_subset.mp sub).2 (by simp)
    simp only [BundleLoader.needs, BundleLoader.record, listed, fresh, if_true, if_false,
      List.mem_map, List.mem_eraseDups, List.mem_filterMap] at needed
    obtain ⟨_, ⟨dependency, required, found⟩, rfl⟩ := needed
    obtain ⟨other, resolves, done⟩ := met dependency required
    rw [show loader.resolveDependency dependency = .ok other from resolves] at found
    cases found
    exact List.mem_map_of_mem done

theorem Layered.step {event : BundleLoader.Event} (layered : Layered loader)
    (unneeded : Unneeded loader event) : Layered (loader.step host event) := by
  obtain ⟨loaded, inOrder, active⟩ := layered
  cases event with
  | load bundle =>
    simp only [BundleLoader.step, BundleLoader.loadBundle]
    split
    · exact ⟨loaded, inOrder, active⟩
    · exact ⟨fun other member => (List.mem_orderedInsert _).mpr (.inr (loaded member)), inOrder,
        active⟩
  | resolve bundle =>
    simp only [BundleLoader.step]
    split
    · next here =>
      unfold BundleLoader.resolve
      split
      · exact ⟨loaded, inOrder, active⟩
      · next new =>
        obtain ⟨grown, -, needed⟩ := @Graph.visit_spec _ _ _ _ (loader.resolving host) _ _ new
        refine ⟨fun other member => ?_, record_inOrder grown (List.Subset.refl _) inOrder,
          fun other member => grown.subset (active member)⟩
        by_cases old : other ∈ loader.resolved
        · exact loaded old
        · exact Graph.mem_nodes (needed other member old) here
    · exact ⟨loaded, inOrder, active⟩
  | start bundle =>
    simp only [BundleLoader.step, BundleLoader.start]
    split
    · next ready =>
      obtain ⟨-, -, needed⟩ := @Graph.visit_spec _ _ _ _ (loader.starting host) _ _ ready.2
      refine ⟨loaded, inOrder, fun other member => ?_⟩
      by_cases old : other ∈ loader.active
      · exact active old
      · exact Graph.mem_nodes (needed other member old) ready.1
    · exact ⟨loaded, inOrder, active⟩
  | stop bundle =>
    simp only [BundleLoader.step, BundleLoader.stop]
    split
    · split
      · exact ⟨loaded, inOrder, active⟩
      · exact ⟨loaded, inOrder, fun other member => active (List.mem_of_mem_filter member)⟩
    · exact ⟨loaded, inOrder, active⟩
  | unload bundle =>
    simp only [BundleLoader.step, BundleLoader.unloadBundle]
    split
    · exact ⟨loaded, inOrder, active⟩
    · next idle =>
      have left : InOrder Bundle.symbolicName loader.needs
          (loader.resolved.filter (· ≠ bundle)) :=
        inOrder.filter fun node member keeps other _ needed =>
          decide_eq_true fun same =>
            unneeded node member (of_decide_eq_true keeps) (same ▸ needed)
      refine ⟨fun other member => ?_, left.congr fun other member => ?_, fun other member => ?_⟩
      · obtain ⟨resolved, differs⟩ := List.mem_filter.mp member
        exact List.mem_filter.mpr ⟨loaded resolved, differs⟩
      · simp only [BundleLoader.needs, member, List.mem_of_mem_filter member, if_true]
      · exact List.mem_filter.mpr ⟨active member, decide_eq_true fun same => idle (same ▸ member)⟩

end Results

end PocoDDS.OSP
