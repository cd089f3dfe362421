import ReisOs.Core.AuditedRows
import ReisOs.Core.Fallible
import ReisOs.Kernel.AuditFile

/-!
# Requests on work items

What the services of tasks and projects have in common: the errors of the application,
`strip`, and the columns that a session writes.
-/

namespace ReisOs.WorkItems

structure AppError where
  message : String
  code : String
  statusCode : ℕ
  deriving DecidableEq, Repr

/-- `text.strip()`. -/
def strip (text : String) : String :=
  let trimmed := text.toList.dropWhile Kernel.AuditFile.isSpace
  String.ofList (trimmed.reverse.dropWhile Kernel.AuditFile.isSpace).reverse

/-- The column after a commit that writes it only where the view differs from what the
session has read. -/
def overlayColumn {A : Type} [DecidableEq A] (read view current : A) : A :=
  if view = read then current else view

theorem overlayColumn_read {A : Type} [DecidableEq A] (read view : A) :
    overlayColumn read view read = view := by
  rw [overlayColumn]
  split
  · next hsame => exact hsame.symm
  · rfl

end ReisOs.WorkItems
