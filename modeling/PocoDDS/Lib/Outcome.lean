import Mathlib.Tactic

/-! Inversion of computations that return a value or raise an error. -/

namespace OutcomeLogic

variable {ε α β : Type}

/-- A sequence returns exactly when both of its parts do. -/
theorem bind_eq_ok {first : Except ε α} {next : α → Except ε β} {result : β} :
    first >>= next = .ok result ↔ ∃ value, first = .ok value ∧ next value = .ok result := by
  cases first with
  | error failure => simp [bind, Except.bind]
  | ok value => simp [bind, Except.bind]

@[simp] theorem pure_eq_ok {value result : α} :
    (pure value : Except ε α) = .ok result ↔ value = result := by
  simp [pure, Except.pure]

/-- A sequence of checks passes exactly when both do. -/
theorem andThen_eq_ok {first : Except ε Unit} {next : Unit → Except ε β} {result : β} :
    first >>= next = .ok result ↔ first = .ok () ∧ next () = .ok result := by
  rw [bind_eq_ok]
  exact ⟨fun ⟨_, done, rest⟩ => ⟨done, rest⟩, fun ⟨done, rest⟩ => ⟨(), done, rest⟩⟩

/-- A loop of checks passes exactly when every value does. -/
theorem forM_eq_ok {check : α → Except ε Unit} {values : List α} :
    values.forM check = .ok () ↔ ∀ value ∈ values, check value = .ok () := by
  induction values with
  | nil => simp [pure, Except.pure]
  | cons first rest ih =>
    have split : (first :: rest).forM check = check first >>= fun _ => rest.forM check := rfl
    rw [split, andThen_eq_ok, ih, List.forall_mem_cons]

/-- Values computed one by one. -/
theorem mapM_eq_ok {step : α → Except ε β} {values : List α} {results : List β} :
    values.mapM step = .ok results ↔
      List.Forall₂ (fun value result => step value = .ok result) values results := by
  induction values generalizing results with
  | nil =>
    rw [List.mapM_nil, pure_eq_ok, List.forall₂_nil_left_iff]
    exact eq_comm
  | cons first rest ih =>
    rw [List.mapM_cons, bind_eq_ok, List.forall₂_cons_left_iff]
    simp only [bind_eq_ok, pure_eq_ok, ih]
    constructor
    · rintro ⟨head, one, tail, others, rfl⟩
      exact ⟨head, tail, one, others, rfl⟩
    · rintro ⟨head, tail, one, others, rfl⟩
      exact ⟨head, one, tail, others, rfl⟩

/-- Values that can all be computed. -/
theorem mapM_of_forall {step : α → Except ε β} {result : α → β} {values : List α}
    (each : ∀ value ∈ values, step value = .ok (result value)) :
    values.mapM step = .ok (values.map result) := by
  rw [mapM_eq_ok, List.forall₂_map_right_iff, List.forall₂_same]
  exact each

/-- Every value has its result among those computed. -/
theorem mapM_visits {step : α → Except ε β} {values : List α} {results : List β}
    (done : values.mapM step = .ok results) {value : α} (listed : value ∈ values) :
    ∃ result ∈ results, step value = .ok result := by
  have all := mapM_eq_ok.mp done
  clear done
  induction all with
  | nil => cases listed
  | cons one _ ih =>
    rcases List.mem_cons.mp listed with rfl | later
    · exact ⟨_, List.mem_cons_self, one⟩
    · obtain ⟨result, member, taken⟩ := ih later
      exact ⟨result, List.mem_cons_of_mem _ member, taken⟩

/-- All results can be computed and are of a kind exactly if each of them can and is. -/
theorem mapM_all {step : α → Except ε β} {kind : β → Prop} {values : List α} :
    (∃ results, values.mapM step = .ok results ∧ ∀ result ∈ results, kind result) ↔
      ∀ value ∈ values, ∃ result, step value = .ok result ∧ kind result := by
  induction values with
  | nil => simp
  | cons first rest ih =>
    rw [List.forall_mem_cons, ← ih]
    simp only [List.mapM_cons, bind_eq_ok, pure_eq_ok]
    constructor
    · rintro ⟨_, ⟨head, one, tail, others, rfl⟩, every⟩
      obtain ⟨leading, remaining⟩ := List.forall_mem_cons.mp every
      exact ⟨⟨head, one, leading⟩, tail, others, remaining⟩
    · rintro ⟨⟨head, one, leading⟩, tail, others, remaining⟩
      exact ⟨head :: tail, ⟨head, one, tail, others, rfl⟩,
        List.forall_mem_cons.mpr ⟨leading, remaining⟩⟩

/-- What a step leaves unchanged can be read off the results. -/
theorem mapM_map {γ : Type} {step : α → Except ε β} {values : List α} {results : List β}
    (done : values.mapM step = .ok results) {before : α → γ} {after : β → γ}
    (same : ∀ {value result}, step value = .ok result → after result = before value) :
    results.map after = values.map before := by
  have all := mapM_eq_ok.mp done
  clear done
  induction all with
  | nil => rfl
  | cons one _ ih => rw [List.map_cons, List.map_cons, same one, ih]

section Fold

variable {σ : Type} {step : σ → α → Except ε σ} {Related : σ → σ → Prop}

variable {state : σ} (refl : ∀ state, Related state state)
  (trans : ∀ {one two three}, Related one two → Related two three → Related one three)
include refl trans

/-- What every step of a loop keeps, the loop keeps. -/
theorem foldlM_related {values : List α}
    (each : ∀ value ∈ values, ∀ state next, step state value = .ok next →
      Related state next) {last : σ} (done : values.foldlM step state = .ok last) :
    Related state last := by
  induction values generalizing state with
  | nil =>
    rw [List.foldlM_nil, pure_eq_ok] at done
    exact done ▸ refl state
  | cons first rest ih =>
    rw [List.foldlM_cons, bind_eq_ok] at done
    obtain ⟨next, stepped, remaining⟩ := done
    obtain ⟨head, tail⟩ := List.forall_mem_cons.mp each
    exact trans (head state next stepped) (ih tail remaining)

/-- A loop that ends has taken the step for each of its values. -/
theorem foldlM_visits {values : List α}
    (each : ∀ value ∈ values, ∀ state next, step state value = .ok next →
      Related state next) {last : σ} (done : values.foldlM step state = .ok last) {value : α}
    (listed : value ∈ values) :
    ∃ before after, Related state before ∧ step before value = .ok after ∧ Related after last := by
  induction values generalizing state with
  | nil => cases listed
  | cons first rest ih =>
    rw [List.foldlM_cons, bind_eq_ok] at done
    obtain ⟨next, stepped, remaining⟩ := done
    obtain ⟨head, tail⟩ := List.forall_mem_cons.mp each
    rcases List.mem_cons.mp listed with rfl | later
    · exact ⟨state, next, refl state, stepped, foldlM_related refl trans tail remaining⟩
    · obtain ⟨before, after, reached, taken, rest⟩ := ih tail remaining later
      exact ⟨before, after, trans (head state next stepped) reached, taken, rest⟩

end Fold

end OutcomeLogic
