import ReisOs.WorkItems.Requests

/-!
# Projects

The project service: `create_project`, `update_project` and `transition_project` up to their
commits.  A project that is completed has all of its progress.
-/

namespace ReisOs.WorkItems

open ReisOs.Core

inductive ProjectStatus where
  | draft
  | planned
  | active
  | paused
  | completed
  | cancelled
  | archived
  deriving DecidableEq, Repr

def ProjectStatus.value : ProjectStatus → String
  | draft => "draft"
  | planned => "planned"
  | active => "active"
  | paused => "paused"
  | completed => "completed"
  | cancelled => "cancelled"
  | archived => "archived"

/-- `PROJECT_STATUS_TRANSITIONS`. -/
def projectStatusTransitions : ProjectStatus → List ProjectStatus
  | .draft => [.planned, .cancelled]
  | .planned => [.active, .cancelled]
  | .active => [.paused, .completed, .cancelled]
  | .paused => [.active, .cancelled]
  | .completed => [.archived]
  | .cancelled => [.archived]
  | .archived => []

def canTransitionProject (current target : ProjectStatus) : Bool :=
  target ∈ projectStatusTransitions current

/-- The columns of a project in its snapshots. -/
structure ProjectData where
  title : String
  description : Option String
  status : ProjectStatus
  progress : ℤ
  workspaceId : String
  deriving DecidableEq, Repr

/-- The requests on a project.  `workspaceFound` is the answer of the query in
`_require_workspace`. -/
inductive ProjectRequest where
  | createProject (workspaceId title : String) (description : Option String)
      (workspaceFound : Bool)
  | updateProject (title description : Option String) (progress : Option ℤ)
      (fieldsSet : List String)
  | transitionProject (targetStatus : ProjectStatus)
  deriving DecidableEq, Repr

def requireWorkspace (workspaceFound : Bool) : Except AppError Unit :=
  if workspaceFound then .ok ()
  else .error ⟨"Active workspace not found.", "workspace_not_found", 404⟩

/-- `transition_project` of the domain rules, with the error that the service makes of
its. -/
def transitionedProject (current target : ProjectStatus) : Except AppError ProjectStatus :=
  if canTransitionProject current target then .ok target
  else .error
    ⟨"Invalid project transition: " ++ current.value ++ " -> " ++ target.value ++ ".",
      "invalid_project_transition", 409⟩

/-- The project after the assignments of `update_project`. -/
def updatedProject (project : ProjectData) (title description : Option String)
    (progress : Option ℤ) (fieldsSet : List String) : ProjectData :=
  { project with
    title := match title with
      | some title => strip title
      | none => project.title
    description := if "description" ∈ fieldsSet then description else project.description
    progress := progress.getD project.progress }

def getProject (stored : Option ProjectData) : Except AppError ProjectData :=
  match stored with
  | some project => .ok project
  | none => .error ⟨"Project not found.", "project_not_found", 404⟩

/-- A request up to its commit. -/
def ProjectRequest.session (request : ProjectRequest) (stored : Option ProjectData) :
    Except AppError (RowSession ProjectData) :=
  match request with
  | createProject workspaceId title description workspaceFound => do
      requireWorkspace workspaceFound
      pure (.inserting ⟨strip title, description, .draft, 0, workspaceId⟩)
  | updateProject title description progress fieldsSet => do
      let project ← getProject stored
      pure (.changing project (updatedProject project title description progress fieldsSet))
  | transitionProject targetStatus => do
      let project ← getProject stored
      let status ← transitionedProject project.status targetStatus
      pure (.changing project
        { project with
          status := status
          progress := if status = .completed then 100 else project.progress })

def overlayProject (read view current : ProjectData) : ProjectData where
  title := overlayColumn read.title view.title current.title
  description := overlayColumn read.description view.description current.description
  status := overlayColumn read.status view.status current.status
  progress := overlayColumn read.progress view.progress current.progress
  workspaceId := overlayColumn read.workspaceId view.workspaceId current.workspaceId

theorem getProject_eq_ok {stored : Option ProjectData} {project : ProjectData}
    (h : getProject stored = .ok project) : stored = some project := by
  cases stored with
  | none => cases h
  | some found =>
    cases h
    rfl

theorem transitionedProject_eq_ok {current target status : ProjectStatus}
    (h : transitionedProject current target = .ok status) :
    canTransitionProject current status = true := by
  rw [transitionedProject] at h
  split at h
  · next hpermitted =>
      cases h
      exact hpermitted
  · cases h

theorem projectSession_eq_changing {request : ProjectRequest} {stored : Option ProjectData}
    {read view : ProjectData} (h : request.session stored = .ok (.changing read view)) :
    stored = some read ∧
      (view.status = read.status ∨ canTransitionProject read.status view.status = true) := by
  cases request with
  | createProject workspaceId title description workspaceFound =>
    rcases bind_eq_ok h with ⟨_, _, hsession⟩
    cases hsession
  | updateProject title description progress fieldsSet =>
    rcases bind_eq_ok h with ⟨project, hproject, hsession⟩
    cases hsession
    exact ⟨getProject_eq_ok hproject, Or.inl rfl⟩
  | transitionProject targetStatus =>
    rcases bind_eq_ok h with ⟨project, hproject, hstatus⟩
    rcases bind_eq_ok hstatus with ⟨status, hpermitted, hsession⟩
    cases hsession
    exact ⟨getProject_eq_ok hproject, Or.inr (transitionedProject_eq_ok hpermitted)⟩

/-- The rows of projects. -/
def projectKind : RowKind ProjectRequest ProjectData ProjectStatus AppError where
  session := ProjectRequest.session
  overlay := overlayProject
  status := ProjectData.status
  permitted := canTransitionProject
  overlay_read := fun read view => by simp [overlayProject, overlayColumn_read]
  session_read := fun h => (projectSession_eq_changing h).1
  session_status := fun h => (projectSession_eq_changing h).2

end ReisOs.WorkItems
