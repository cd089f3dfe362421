import ReisOs.WorkItems.Requests
import ReisOs.WorkItems.Projects

/-!
# Tasks

The task service: `create_task`, `update_task` and `transition_task` up to their commits.
What the other tables answer is an argument of the requests.
-/

namespace ReisOs.WorkItems

open ReisOs.Core AuditedRow

inductive TaskStatus where
  | backlog
  | ready
  | inProgress
  | blocked
  | review
  | done
  | cancelled
  deriving DecidableEq, Repr

def TaskStatus.value : TaskStatus → String
  | backlog => "backlog"
  | ready => "ready"
  | inProgress => "in_progress"
  | blocked => "blocked"
  | review => "review"
  | done => "done"
  | cancelled => "cancelled"

/-- `TASK_STATUS_TRANSITIONS`. -/
def taskStatusTransitions : TaskStatus → List TaskStatus
  | .backlog => [.ready, .cancelled]
  | .ready => [.inProgress, .cancelled]
  | .inProgress => [.blocked, .review, .cancelled]
  | .blocked => [.inProgress, .cancelled]
  | .review => [.inProgress, .done, .cancelled]
  | .done => []
  | .cancelled => []

def canTransitionTask (current target : TaskStatus) : Bool :=
  target ∈ taskStatusTransitions current

/-- The columns of a task in its snapshots; a due date as its text. -/
structure TaskData where
  title : String
  description : Option String
  status : TaskStatus
  assigneeId : Option String
  dueDate : Option String
  projectId : String
  deriving DecidableEq, Repr

/-- The requests on a task.  `projectFound` and `assigneeActive` are the answers of the
queries in `_require_project` and `_validate_assignee`. -/
inductive TaskRequest where
  | createTask (projectId title : String) (description assigneeId dueDate : Option String)
      (projectFound assigneeActive : Bool)
  | updateTask (title description assigneeId dueDate : Option String)
      (fieldsSet : List String) (assigneeActive : Bool)
  | transitionTask (targetStatus : TaskStatus)
  deriving DecidableEq, Repr

def requireProject (projectFound : Bool) : Except AppError Unit :=
  if projectFound then .ok () else .error ⟨"Project not found.", "project_not_found", 404⟩

def validateAssignee (assigneeId : Option String) (assigneeActive : Bool) :
    Except AppError Unit :=
  if assigneeId = none then .ok ()
  else if assigneeActive then .ok ()
  else .error
    ⟨"Assignee is not an active organization member.", "invalid_task_assignee", 422⟩

/-- The check of the assignee in `update_task`. -/
def validateUpdatedAssignee (assigneeId : Option String) (fieldsSet : List String)
    (assigneeActive : Bool) : Except AppError Unit :=
  if "assignee_id" ∈ fieldsSet then validateAssignee assigneeId assigneeActive else .ok ()

/-- `transition_task` of the domain rules, with the error that the service makes of its. -/
def transitionedStatus (current target : TaskStatus) : Except AppError TaskStatus :=
  if canTransitionTask current target then .ok target
  else .error
    ⟨"Invalid task transition: " ++ current.value ++ " -> " ++ target.value ++ ".",
      "invalid_task_transition", 409⟩

/-- The task after the assignments of `update_task`. -/
def updatedTask (task : TaskData) (title description assigneeId dueDate : Option String)
    (fieldsSet : List String) : TaskData :=
  { task with
    title := match title with
      | some title => strip title
      | none => task.title
    description := if "description" ∈ fieldsSet then description else task.description
    assigneeId := if "assignee_id" ∈ fieldsSet then assigneeId else task.assigneeId
    dueDate := if "due_date" ∈ fieldsSet then dueDate else task.dueDate }

def getTask (stored : Option TaskData) : Except AppError TaskData :=
  match stored with
  | some task => .ok task
  | none => .error ⟨"Task not found.", "task_not_found", 404⟩

/-- A request up to its commit. -/
def TaskRequest.session (request : TaskRequest) (stored : Option TaskData) :
    Except AppError (RowSession TaskData) :=
  match request with
  | createTask projectId title description assigneeId dueDate projectFound assigneeActive => do
      requireProject projectFound
      validateAssignee assigneeId assigneeActive
      pure (.inserting ⟨strip title, description, .backlog, assigneeId, dueDate, projectId⟩)
  | updateTask title description assigneeId dueDate fieldsSet assigneeActive => do
      let task ← getTask stored
      validateUpdatedAssignee assigneeId fieldsSet assigneeActive
      pure (.changing task (updatedTask task title description assigneeId dueDate fieldsSet))
  | transitionTask targetStatus => do
      let task ← getTask stored
      let status ← transitionedStatus task.status targetStatus
      pure (.changing task { task with status := status })

def overlayTask (read view current : TaskData) : TaskData where
  title := overlayColumn read.title view.title current.title
  description := overlayColumn read.description view.description current.description
  status := overlayColumn read.status view.status current.status
  assigneeId := overlayColumn read.assigneeId view.assigneeId current.assigneeId
  dueDate := overlayColumn read.dueDate view.dueDate current.dueDate
  projectId := overlayColumn read.projectId view.projectId current.projectId

theorem getTask_eq_ok {stored : Option TaskData} {task : TaskData}
    (h : getTask stored = .ok task) : stored = some task := by
  cases stored with
  | none => cases h
  | some found =>
    cases h
    rfl

theorem transitionedStatus_eq_ok {current target status : TaskStatus}
    (h : transitionedStatus current target = .ok status) :
    canTransitionTask current status = true := by
  rw [transitionedStatus] at h
  split at h
  · next hpermitted =>
      cases h
      exact hpermitted
  · cases h

theorem taskSession_eq_changing {request : TaskRequest} {stored : Option TaskData}
    {read view : TaskData} (h : request.session stored = .ok (.changing read view)) :
    stored = some read ∧
      (view.status = read.status ∨ canTransitionTask read.status view.status = true) := by
  cases request with
  | createTask projectId title description assigneeId dueDate projectFound assigneeActive =>
    rcases bind_eq_ok h with ⟨_, _, hassignee⟩
    rcases bind_eq_ok hassignee with ⟨_, _, hsession⟩
    cases hsession
  | updateTask title description assigneeId dueDate fieldsSet assigneeActive =>
    rcases bind_eq_ok h with ⟨task, htask, hassignee⟩
    rcases bind_eq_ok hassignee with ⟨_, _, hsession⟩
    cases hsession
    exact ⟨getTask_eq_ok htask, Or.inl rfl⟩
  | transitionTask targetStatus =>
    rcases bind_eq_ok h with ⟨task, htask, hstatus⟩
    rcases bind_eq_ok hstatus with ⟨status, hpermitted, hsession⟩
    cases hsession
    exact ⟨getTask_eq_ok htask, Or.inr (transitionedStatus_eq_ok hpermitted)⟩

/-- The rows of tasks. -/
def taskKind : RowKind TaskRequest TaskData TaskStatus AppError where
  session := TaskRequest.session
  overlay := overlayTask
  status := TaskData.status
  permitted := canTransitionTask
  overlay_read := fun read view => by simp [overlayTask, overlayColumn_read]
  session_read := fun h => (taskSession_eq_changing h).1
  session_status := fun h => (taskSession_eq_changing h).2

/-!
## Audit chains of tasks and projects

A request decides on the row it has read, and its commit writes only what it has changed,
whatever the row is by then.
-/

theorem final_task_status (status : TaskStatus) :
    (∀ target, canTransitionTask status target = false) ↔
      status = .done ∨ status = .cancelled := by
  constructor
  · intro h
    -- every other task can be cancelled
    have hcancelled := h .cancelled
    cases status <;> first
      | exact Or.inl rfl
      | exact Or.inr rfl
      | exact absurd hcancelled (by decide)
  · rintro (rfl | rfl) target
    · rfl
    · rfl

theorem final_project_status (status : ProjectStatus) :
    (∀ target, canTransitionProject status target = false) ↔ status = .archived := by
  constructor
  · intro h
    -- a project is cancelled or, after that or its completion, archived
    have hcancelled := h .cancelled
    have harchived := h .archived
    cases status <;> first
      | rfl
      | exact absurd hcancelled (by decide)
      | exact absurd harchived (by decide)
  · rintro rfl target
    rfl

/-- A trail in which the final statuses are kept. -/
structure ChainedTrail {K Q D S X : Type} (kind : RowKind Q D S X) (final : S → Prop)
    (table : AuditedRow K D) : Prop extends AuditTrail kind table where
  kept : ∀ index event next, table.events[index]? = some event →
    table.events[index + 1]? = some next → final (kind.status event.afterData) →
    kind.status next.afterData = kind.status event.afterData

theorem chainedTrail_iff {K Q D S X : Type} {kind : RowKind Q D S X} {final : S → Prop}
    (hfinal : ∀ status, (∀ target, kind.permitted status target = false) ↔ final status)
    (table : AuditedRow K D) : ChainedTrail kind final table ↔ AuditTrail kind table := by
  constructor
  · exact ChainedTrail.toAuditTrail
  · intro h
    exact
      { toAuditTrail := h
        kept := fun index event next hevent hnext hstatus =>
          h.settled index event next hevent hnext ((hfinal _).mpr hstatus) }

/-- The audit events of a task, and those of a project, are a chain at all times just if
every request that changes the row commits while the row is as it has read it. -/
theorem audit_events_chained_iff {K : Type} [DecidableEq K]
    (taskSteps : List (RowStep K TaskRequest))
    (projectSteps : List (RowStep K ProjectRequest)) :
    ((∀ before, before <+: taskSteps →
        ChainedTrail taskKind (fun status => status = .done ∨ status = .cancelled)
          (run (step taskKind) empty before)) ↔
      Admissible (step taskKind) Undisturbed empty taskSteps) ∧
    ((∀ before, before <+: projectSteps →
        ChainedTrail projectKind (fun status => status = .archived)
          (run (step projectKind) empty before)) ↔
      Admissible (step projectKind) Undisturbed empty
        projectSteps) := by
  constructor
  · rw [← auditTrail_iff]
    exact forall₂_congr fun before _ => chainedTrail_iff final_task_status _
  · rw [← auditTrail_iff]
    exact forall₂_congr fun before _ => chainedTrail_iff final_project_status _

/-! ## Overlapping requests -/

/-- A task in review is cancelled by one request, and sent back to work by another one
that has read it before. -/
def overlappingTaskSteps : List (RowStep Bool TaskRequest) :=
  [.read false (.createTask "p1" "title" none none none true true), .commit false,
    .read false (.transitionTask .ready), .commit false,
    .read false (.transitionTask .inProgress), .commit false,
    .read false (.transitionTask .review), .commit false,
    .read false (.transitionTask .cancelled), .read true (.transitionTask .inProgress),
    .commit false, .commit true]

/-- A project is cancelled by one request, and planned by another one that has read it
before. -/
def overlappingProjectSteps : List (RowStep Bool ProjectRequest) :=
  [.read false (.createProject "w1" "title" none true), .commit false,
    .read false (.transitionProject .cancelled), .read true (.transitionProject .planned),
    .commit false, .commit true]

theorem cancelled_task_moved :
    (¬ ∀ before, before <+: overlappingTaskSteps →
      ChainedTrail taskKind (fun status => status = .done ∨ status = .cancelled)
        (run (step taskKind) empty before)) ∧
    ¬ ∀ before, before <+: overlappingProjectSteps →
      ChainedTrail projectKind (fun status => status = .archived)
        (run (step projectKind) empty before) := by
  constructor
  · intro h
    have hstored := (h overlappingTaskSteps List.prefix_rfl).chained 4
      ⟨some ⟨"title", none, .review, none, none, "p1"⟩,
        ⟨"title", none, .cancelled, none, none, "p1"⟩⟩
      ⟨some ⟨"title", none, .review, none, none, "p1"⟩,
        ⟨"title", none, .inProgress, none, none, "p1"⟩⟩ (by decide +kernel) (by decide +kernel)
    exact absurd hstored (by decide)
  · intro h
    have hstored := (h overlappingProjectSteps List.prefix_rfl).chained 1
      ⟨some ⟨"title", none, .draft, 0, "w1"⟩, ⟨"title", none, .cancelled, 0, "w1"⟩⟩
      ⟨some ⟨"title", none, .draft, 0, "w1"⟩, ⟨"title", none, .planned, 0, "w1"⟩⟩
      (by decide +kernel) (by decide +kernel)
    exact absurd hstored (by decide)

end ReisOs.WorkItems
