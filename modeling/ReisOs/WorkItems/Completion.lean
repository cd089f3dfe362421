import ReisOs.WorkItems.Projects

/-!
# Completed projects

`transition_project` sets all of the progress of a project that it completes, but
`update_project` writes any progress to it afterwards.  The requests after which completed
projects stay complete are stated exactly.
-/

namespace ReisOs.WorkItems

open ReisOs.Core Function

/-- A stored project, and the statuses it has had up to now. -/
structure ProjectRow where
  organizationId : String
  data : ProjectData
  statuses : List ProjectStatus
  deriving DecidableEq, Repr

/-- The table of projects by their ids. -/
abbrev ProjectTable := String → Option ProjectRow

/-- A request with its organization and the project of its path; that of `create_project` is
the new id. -/
structure ProjectCall where
  organizationId : String
  projectId : String
  request : ProjectRequest
  deriving DecidableEq, Repr

namespace ProjectTable

/-- The row that the query of `get_project` finds. -/
def visible (table : ProjectTable) (call : ProjectCall) : Option ProjectRow :=
  (table call.projectId).filter fun row => row.organizationId = call.organizationId

/-- The table after a request; one that is rejected changes nothing. -/
def step (table : ProjectTable) (call : ProjectCall) : ProjectTable :=
  match call.request.session ((table.visible call).map (·.data)) with
  | .error _ => table
  | .ok (.inserting data) =>
    if (table call.projectId).isSome then table
    else update table call.projectId
      (some ⟨call.organizationId, data, [data.status]⟩)
  | .ok (.changing _ view) =>
    update table call.projectId ((table call.projectId).map fun row =>
      { row with data := view, statuses := view.status :: row.statuses })

def empty : ProjectTable := fun _ => none

end ProjectTable

/-- The project is completed, or archived after that. -/
def ProjectRow.Completed (row : ProjectRow) : Prop :=
  row.data.status = .completed ∨
    (row.data.status = .archived ∧ ProjectStatus.completed ∈ row.statuses)

/-- Completed projects have all of their progress. -/
def Complete (table : ProjectTable) : Prop :=
  ∀ projectId row, table projectId = some row → row.Completed → row.data.progress = 100

/-- An update of a completed project writes all of the progress, or no progress. -/
def KeepsProgress (table : ProjectTable) (call : ProjectCall) : Prop :=
  ∀ title description progress fieldsSet row,
    call.request = .updateProject title description (some progress) fieldsSet →
      table.visible call = some row → row.Completed → progress = 100

/-! ## One request -/

/-- Completed projects are complete, and a project that has been completed is so still or is
archived. -/
structure InOrder (table : ProjectTable) : Prop where
  complete : Complete table
  settled : ∀ projectId row, table projectId = some row →
    ProjectStatus.completed ∈ row.statuses →
      row.data.status = .completed ∨ row.data.status = .archived

variable {table : ProjectTable} {call : ProjectCall}

theorem visible_eq_some {row : ProjectRow} (h : table.visible call = some row) :
    table call.projectId = some row ∧ row.organizationId = call.organizationId := by
  obtain ⟨hstored, hsame⟩ := Option.filter_eq_some_iff.mp h
  exact ⟨hstored, of_decide_eq_true hsame⟩

theorem InOrder.update (h : InOrder table) {projectId : String} {row : ProjectRow}
    (hcomplete : row.Completed → row.data.progress = 100)
    (hsettled : ProjectStatus.completed ∈ row.statuses →
      row.data.status = .completed ∨ row.data.status = .archived) :
    InOrder (update table projectId (some row)) := by
  constructor
  · intro other found hfound
    by_cases hsame : other = projectId
    · rw [hsame, update_self] at hfound
      cases hfound
      exact hcomplete
    · rw [update_of_ne hsame] at hfound
      exact h.complete other found hfound
  · intro other found hfound
    by_cases hsame : other = projectId
    · rw [hsame, update_self] at hfound
      cases hfound
      exact hsettled
    · rw [update_of_ne hsame] at hfound
      exact h.settled other found hfound

/-- What a request does to the table. -/
inductive Steps (table : ProjectTable) (call : ProjectCall) : Prop where
  | rejected (hstep : table.step call = table)
  | created (workspaceId title : String) (description : Option String)
      (hstep : table.step call = update table call.projectId
        (some ⟨call.organizationId, ⟨strip title, description, .draft, 0, workspaceId⟩,
          [.draft]⟩))
  | updated (title description : Option String) (progress : Option ℤ)
      (fieldsSet : List String) (row : ProjectRow)
      (hrequest : call.request = .updateProject title description progress fieldsSet)
      (hvisible : table.visible call = some row)
      (hstep : table.step call = update table call.projectId
        (some { row with
          data := updatedProject row.data title description progress fieldsSet
          statuses := row.data.status :: row.statuses }))
  | transitioned (target : ProjectStatus) (row : ProjectRow)
      (hrequest : call.request = .transitionProject target)
      (hvisible : table.visible call = some row)
      (hpermitted : canTransitionProject row.data.status target = true)
      (hstep : table.step call = update table call.projectId
        (some { row with
          data := { row.data with
            status := target
            progress := if target = .completed then 100 else row.data.progress }
          statuses := target :: row.statuses }))

theorem steps (table : ProjectTable) (call : ProjectCall) : Steps table call := by
  have hrejected {error : AppError}
      (herror : call.request.session ((table.visible call).map (·.data)) = .error error) :
      table.step call = table := by
    rw [ProjectTable.step, herror]
  cases hrequest : call.request with
  | createProject workspaceId title description workspaceFound =>
    cases workspaceFound with
    | false =>
      apply Steps.rejected
      apply hrejected
      rw [hrequest]
      rfl
    | true =>
      have hsession : call.request.session ((table.visible call).map (·.data)) =
          .ok (.inserting ⟨strip title, description, .draft, 0, workspaceId⟩) := by
        rw [hrequest]
        rfl
      cases hstored : table call.projectId with
      | some row =>
        apply Steps.rejected
        simp only [ProjectTable.step, hsession, hstored, Option.isSome_some, if_true]
      | none =>
        apply Steps.created workspaceId title description
        simp [ProjectTable.step, hsession, hstored]
  | updateProject title description progress fieldsSet =>
    cases hvisible : table.visible call with
    | none =>
      apply Steps.rejected
      apply hrejected
      rw [hrequest, hvisible]
      rfl
    | some row =>
      apply Steps.updated title description progress fieldsSet row hrequest hvisible
      have hstored := (visible_eq_some hvisible).1
      rw [ProjectTable.step, hvisible, hrequest, hstored]
      rfl
  | transitionProject target =>
    cases hvisible : table.visible call with
    | none =>
      apply Steps.rejected
      apply hrejected
      rw [hrequest, hvisible]
      rfl
    | some row =>
      have hstored := (visible_eq_some hvisible).1
      by_cases hpermitted : canTransitionProject row.data.status target = true
      · apply Steps.transitioned target row hrequest hvisible hpermitted
        have hstatus : transitionedProject row.data.status target = .ok target := by
          rw [transitionedProject, if_pos hpermitted]
        have hsession : call.request.session ((table.visible call).map (·.data)) =
            .ok (.changing row.data { row.data with
              status := target
              progress := if target = .completed then 100 else row.data.progress }) := by
          rw [hrequest, hvisible]
          change (transitionedProject row.data.status target >>= _) = _
          rw [hstatus]
          rfl
        simp only [ProjectTable.step, hsession, hstored, Option.map_some]
      · have hstatus : ∃ error, transitionedProject row.data.status target =
            .error error := by
          rw [transitionedProject, if_neg hpermitted]
          exact ⟨_, rfl⟩
        obtain ⟨error, herror⟩ := hstatus
        apply Steps.rejected
        apply @hrejected error
        rw [hrequest, hvisible]
        change (transitionedProject row.data.status target >>= _) = _
        rw [herror]
        rfl

theorem InOrder.step (h : InOrder table) (hcall : KeepsProgress table call) :
    InOrder (table.step call) := by
  cases steps table call with
  | rejected hstep =>
    rw [hstep]
    exact h
  | created workspaceId title description hstep =>
    rw [hstep]
    apply h.update
    · intro hcompleted
      rcases hcompleted with hstatus | ⟨hstatus, -⟩ <;> cases hstatus
    · intro hmem
      cases List.mem_singleton.mp hmem
  | updated title description progress fieldsSet row hrequest hvisible hstep =>
    have hstored := (visible_eq_some hvisible).1
    have hbefore (hmem : ProjectStatus.completed ∈ row.data.status :: row.statuses)
        (harchived : row.data.status = .archived) :
        ProjectStatus.completed ∈ row.statuses := by
      rw [harchived] at hmem
      exact (List.mem_cons.mp hmem).resolve_left (by decide)
    rw [hstep]
    apply h.update
    · intro hcompleted
      have hrow : row.Completed := hcompleted.imp id fun hboth =>
        ⟨hboth.1, hbefore hboth.2 hboth.1⟩
      cases progress with
      | none => exact h.complete call.projectId row hstored hrow
      | some progress =>
        exact hcall title description progress fieldsSet row hrequest hvisible hrow
    · intro hmem
      cases List.mem_cons.mp hmem with
      | inl hstatus => exact Or.inl hstatus.symm
      | inr hold => exact h.settled call.projectId row hstored hold
  | transitioned target row hrequest hvisible hpermitted hstep =>
    have hstored := (visible_eq_some hvisible).1
    -- nothing but the archive follows a completion
    have hfrom (hold : ProjectStatus.completed ∈ row.statuses) :
        row.data.status = .completed ∧ target = .archived := by
      cases h.settled call.projectId row hstored hold with
      | inl hcompleted =>
        rw [hcompleted] at hpermitted
        exact ⟨hcompleted, List.mem_singleton.mp (of_decide_eq_true hpermitted)⟩
      | inr harchived =>
        rw [harchived] at hpermitted
        cases hpermitted
    rw [hstep]
    apply h.update
    · intro hcompleted
      change (if target = .completed then 100 else row.data.progress) = 100
      split
      · rfl
      · next htarget =>
          have hold : ProjectStatus.completed ∈ row.statuses := by
            apply (List.mem_cons.mp (hcompleted.resolve_left htarget).2).resolve_left
            exact Ne.symm htarget
          exact h.complete call.projectId row hstored (Or.inl (hfrom hold).1)
    · intro hmem
      cases List.mem_cons.mp hmem with
      | inl hstatus => exact Or.inl hstatus.symm
      | inr hold => exact Or.inr (hfrom hold).2

theorem inOrder_empty : InOrder ProjectTable.empty := by
  constructor
  · intro projectId row hrow
    cases hrow
  · intro projectId row hrow
    cases hrow

theorem keepsProgress_of_complete (h : Complete (table.step call)) :
    KeepsProgress table call := by
  intro title description progress fieldsSet row hrequest hvisible hcompleted
  have hstored := (visible_eq_some hvisible).1
  have hstep : table.step call = update table call.projectId
      (some { row with
        data := updatedProject row.data title description (some progress) fieldsSet
        statuses := row.data.status :: row.statuses }) := by
    rw [ProjectTable.step, hvisible, hrequest, hstored]
    rfl
  rw [hstep] at h
  apply h call.projectId _ (update_self _ _ _)
  exact hcompleted.imp id fun hboth => ⟨hboth.1, List.mem_cons_of_mem _ hboth.2⟩

/-- Completed projects are complete in all states of a run just if no update of a completed
project writes other progress. -/
theorem always_complete_iff (calls : List ProjectCall) :
    (∀ before, before <+: calls → Complete (run ProjectTable.step ProjectTable.empty before)) ↔
      Admissible ProjectTable.step KeepsProgress ProjectTable.empty calls :=
  always_iff_admissible InOrder Complete (fun _ _ h hcall => h.step hcall)
    (fun _ h => h.complete) (fun _ _ _ h => keepsProgress_of_complete h) inOrder_empty calls

/-- A project that is completed, and updated after that. -/
def reopenedCalls : List ProjectCall :=
  [⟨"o1", "p1", .createProject "w1" "title" none true⟩,
    ⟨"o1", "p1", .transitionProject .planned⟩, ⟨"o1", "p1", .transitionProject .active⟩,
    ⟨"o1", "p1", .transitionProject .completed⟩,
    ⟨"o1", "p1", .updateProject none none (some 40) ["progress"]⟩]

theorem reopened_not_complete :
    ¬ ∀ before, before <+: reopenedCalls →
      Complete (run ProjectTable.step ProjectTable.empty before) := by
  intro h
  have hrow : ((run ProjectTable.step ProjectTable.empty reopenedCalls) "p1").map
      (fun row => (row.data.status, row.data.progress)) = some (.completed, 40) := by
    decide +kernel
  obtain ⟨row, hstored, hpair⟩ := Option.map_eq_some_iff.mp hrow
  have hstatus : row.data.status = .completed := congrArg Prod.fst hpair
  have hprogress : row.data.progress = 40 := congrArg Prod.snd hpair
  have hfull := h reopenedCalls List.prefix_rfl "p1" row hstored (Or.inl hstatus)
  rw [hprogress] at hfull
  exact absurd hfull (by decide)

end ReisOs.WorkItems
