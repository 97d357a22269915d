import PocoDDS.Lib.CounterRuns
import PocoDDS.Lib.Outcome
import PocoDDS.Lib.PyJson

/-! What both acceptance tools do with an instance that they probe: answers, counters and failures. -/

namespace PocoDDS.Tools.Acceptance

open JsonModel OutcomeLogic CounterRuns

/-- What the request for an inventory comes to: an exception, or a status with the parsed body. -/
inductive Answer
  | raised (text : String)
  | response (status : Int) (payload : Except String Json)

/-- The payload of an answer whose status is that of a success. -/
def Answer.payload (kind : String) : Answer → Except String Json
  | .raised text => .error text
  | .response status payload =>
    if status ≠ 200 then .error (kind ++ " inventory returned HTTP " ++ toString status)
    else payload

/-- A counter as an integer that is not negative; Python counts booleans as integers. -/
def counter? (booleans : Bool) (diagnostics : Json) (name : String) : Option Int :=
  match diagnostics.member name with
  | none => some 0
  | some (.num value) => if value < 0 then none else some value
  | some (.bool value) => if booleans then some (if value then 1 else 0) else none
  | some _ => none

def counter (booleans : Bool) (repr : Option Json → String) (diagnostics : Json) (name : String) :
    Except String Int :=
  match counter? booleans diagnostics name with
  | some value => .ok value
  | none =>
    .error ("invalid diagnostics counter " ++ name ++ ": " ++ repr (diagnostics.member name))

/-- The differences between the last sample and the first one, counter by counter. -/
def deltasOf (booleans : Bool) (repr : Option Json → String) (first last : Json)
    (names : List String) : Except String (List (String × Int)) :=
  names.mapM fun name => do
    let after ← counter booleans repr last name
    let before ← counter booleans repr first name
    return (name, after - before)

def deltaOf (deltas : List (String × Int)) (name : String) : Int := (deltas.lookup name).getD 0

/-- A failure that is added to the list under a condition. -/
def failWhen (condition : Bool) (failure : String) : List String :=
  if condition then [failure] else []

/-- The probes that gave a sample. -/
def samplesOf {σ : Type} (probes : List (Except String σ)) : List σ :=
  probes.filterMap Except.toOption

def errorOf {σ : Type} : Except String σ → Option String
  | .error text => some text
  | .ok _ => none

def errorsOf {σ : Type} (probes : List (Except String σ)) : List String :=
  probes.filterMap errorOf

/-- The value of a counter that is valid. -/
def value (booleans : Bool) (diagnostics : Json) (name : String) : Int :=
  (counter? booleans diagnostics name).getD 0

def Valid (booleans : Bool) (names : List String) (diagnostics : Json) : Prop :=
  ∀ name ∈ names, (counter? booleans diagnostics name).isSome

section Laws

variable {booleans : Bool} {repr : Option Json → String} {names : List String}

@[simp] theorem failWhen_eq_nil {condition : Bool} {failure : String} :
    failWhen condition failure = [] ↔ condition = false := by
  cases condition <;> simp [failWhen]

theorem counter_of_valid {diagnostics : Json} (valid : Valid booleans names diagnostics)
    {name : String} (listed : name ∈ names) :
    counter booleans repr diagnostics name = .ok (value booleans diagnostics name) := by
  obtain ⟨number, found⟩ := Option.isSome_iff_exists.mp (valid name listed)
  simp only [counter, value, found, Option.getD_some]

/-- Between valid samples every difference can be computed. -/
theorem deltasOf_of_valid {first last : Json} (validFirst : Valid booleans names first)
    (validLast : Valid booleans names last) :
    deltasOf booleans repr first last names = .ok (names.map fun name =>
        (name, value booleans last name - value booleans first name)) := by
  refine mapM_of_forall fun name listed => ?_
  rw [counter_of_valid validLast listed, counter_of_valid validFirst listed]
  rfl

theorem deltaOf_map (difference : String → Int) {name : String} (listed : name ∈ names) :
    deltaOf (names.map fun name => (name, difference name)) name = difference name := by
  induction names with
  | nil => cases listed
  | cons head rest ih =>
    by_cases same : name = head
    · simp [deltaOf, same]
    · have skipped : (name == head) = false := beq_false_of_ne same
      have later := ih (List.mem_of_ne_of_mem same listed)
      simpa [deltaOf, List.lookup_cons, skipped] using later

theorem change_readings {σ : Type} (read : σ → String → Int) (first : σ) (rest : List σ)
    (name : String) :
    change (readings read (first :: rest) name) = read (rest.getLastD first) name - read first name := by
  have last : ∀ (rest : List σ) (first : σ),
      (rest.map (read · name)).getLastD (read first name) = read (rest.getLastD first) name := by
    intro rest
    induction rest with
    | nil => intro first; rfl
    | cons next rest ih =>
      intro first
      rw [List.map_cons, List.getLastD_cons, List.getLastD_cons, ih]
  rw [readings, List.map_cons, change, last]

/-- A verdict is borne out by the run if nothing interrupted it, or if there is no such verdict. -/
theorem verdict_supported_iff {passes accepted supported uninterrupted : Prop}
    (verdict : passes ↔ accepted) (ends : accepted → (supported ↔ uninterrupted)) :
    (passes → supported) ↔ uninterrupted ∨ ¬ accepted := by
  rw [verdict]
  by_cases holds : accepted
  · rw [ends holds]
    exact ⟨fun bears => .inl (bears holds), fun either _ => either.resolve_right (not_not.mpr holds)⟩
  · exact ⟨fun _ => .inr holds, fun _ accepts => absurd accepts holds⟩

end Laws

end PocoDDS.Tools.Acceptance
