/-!
# Steps that may fail

A computation of several steps succeeds exactly if each of its steps does, in order.
-/

namespace MeshTelemetry

variable {ε α β : Type}

theorem bind_eq_ok_iff {first : Except ε α} {next : α → Except ε β} {result : β} :
    first >>= next = .ok result ↔ ∃ value, first = .ok value ∧ next value = .ok result := by
  cases first with
  | error err =>
    constructor
    · intro h
      cases h
    · rintro ⟨_, h, _⟩
      cases h
  | ok value =>
    constructor
    · exact fun h => ⟨value, rfl, h⟩
    · rintro ⟨_, h, hnext⟩
      cases h
      exact hnext

theorem ok_bind (value : α) (next : α → Except ε β) : Except.ok value >>= next = next value := rfl

theorem error_bind (err : ε) (next : α → Except ε β) :
    (Except.error err : Except ε α) >>= next = .error err := rfl

/-- It fails with the error of the first step that fails. -/
theorem bind_eq_error_iff {first : Except ε α} {next : α → Except ε β} {err : ε} :
    first >>= next = .error err ↔
      first = .error err ∨ ∃ value, first = .ok value ∧ next value = .error err := by
  cases first with
  | error cause =>
    constructor
    · exact fun h => .inl (by cases h; rfl)
    · rintro (h | ⟨_, h, _⟩)
      · cases h
        rfl
      · cases h
  | ok value =>
    constructor
    · exact fun h => .inr ⟨value, rfl, h⟩
    · rintro (h | ⟨_, h, hnext⟩)
      · cases h
      · cases h
        exact hnext

/-- Each result of a list of steps comes from one of them. -/
theorem exists_of_mem_mapM {step : α → Except ε β} {values : List α} {results : List β}
    (h : values.mapM step = .ok results) {result : β} (hmem : result ∈ results) :
    ∃ value ∈ values, step value = .ok result := by
  induction values generalizing results with
  | nil =>
    cases h
    cases hmem
  | cons value values ih =>
    rw [List.mapM_cons] at h
    obtain ⟨first, hfirst, h⟩ := bind_eq_ok_iff.mp h
    obtain ⟨rest, hrest, h⟩ := bind_eq_ok_iff.mp h
    cases h
    rcases List.mem_cons.mp hmem with rfl | hmem
    · exact ⟨value, List.mem_cons_self, hfirst⟩
    · obtain ⟨found, hfound, hstep⟩ := ih hrest hmem
      exact ⟨found, List.mem_cons_of_mem _ hfound, hstep⟩

/-- If every step succeeds, so does the list of them. -/
theorem exists_mapM_eq_ok {step : α → Except ε β} {values : List α}
    (h : ∀ value ∈ values, ∃ result, step value = .ok result) :
    ∃ results, values.mapM step = .ok results := by
  induction values with
  | nil => exact ⟨[], rfl⟩
  | cons value values ih =>
    obtain ⟨⟨result, hresult⟩, hvalues⟩ := List.forall_mem_cons.mp h
    obtain ⟨results, hresults⟩ := ih hvalues
    refine ⟨result :: results, ?_⟩
    rw [List.mapM_cons, hresult, ok_bind, hresults, ok_bind]
    rfl

/-- A step that undoes a function does so along a list. -/
theorem mapM_map_eq_ok {step : α → Except ε β} {function : β → α} {values : List β}
    (h : ∀ value ∈ values, step (function value) = .ok value) :
    (values.map function).mapM step = .ok values := by
  induction values with
  | nil => rfl
  | cons value values ih =>
    obtain ⟨hvalue, hvalues⟩ := List.forall_mem_cons.mp h
    rw [List.map_cons, List.mapM_cons, hvalue, ok_bind, ih hvalues, ok_bind]
    rfl

/-- What undoes every step undoes the list of them. -/
theorem map_of_mapM {step : α → Except ε β} {function : β → α} {values : List α}
    {results : List β} (hundo : ∀ value result, step value = .ok result → function result = value)
    (h : values.mapM step = .ok results) : results.map function = values := by
  induction values generalizing results with
  | nil =>
    cases h
    rfl
  | cons value values ih =>
    rw [List.mapM_cons] at h
    obtain ⟨first, hfirst, h⟩ := bind_eq_ok_iff.mp h
    obtain ⟨rest, hrest, h⟩ := bind_eq_ok_iff.mp h
    cases h
    rw [List.map_cons, hundo value first hfirst, ih hrest]

end MeshTelemetry
