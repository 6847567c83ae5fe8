import Automation.Proofs.Api.Showing
import Automation.Proofs.Session.AppendOnly
import Automation.Proofs.Workflow.Update

/-!
# Writes over HTTP

Four endpoints write workflows (`Endpoint.isWrite`).  A request to one of them is carried out if it
can be read, the engine does what it asks for, and there is room to copy the workflow that comes of
it (`Service.Grants`, `Endpoint.Writes`).  It is refused otherwise.  In neither case does it change
the log.

A write is carried out before it is answered.  So there are answers with an error status to writes
that were carried out: the internal errors in the place of answers that cannot be shown.
`Service.handle_write` says for every state that a service can reach which writes these may be:
those of workflows that nest too deep or hold half a pair.  Any other error status tells that
nothing was written, and a status of success tells that the write was carried out, and shows the
workflow.
-/

namespace Automation.Api

/-! ## Statuses of errors -/

namespace Response

end Response

namespace Service

end Service

/-! ## Endpoints that write -/

namespace Endpoint

/-- The operation that a request to write asks for, if its body can be read. -/
def operation? (debug : Bool) (q : Request) : Endpoint → Option Operation
  | .createWorkflow => (Service.readBody debug q readDraft).toOption.map .create
  | .createFromStarter => (Service.readBody debug q readStarterChoice).toOption.map fun c =>
    .createFromStarter (.text c.templateId) (.text c.name) (.mapping c.customizations)
  | .updateWorkflow id => (Service.readBody debug q readPatch).toOption.map (.update id)
  | .deleteWorkflow id => some (.delete id)
  | _ => none

/-- The status of a write that is carried out and answered. -/
def success : Endpoint → Int
  | .updateWorkflow _ => 200
  | .deleteWorkflow _ => 204
  | _ => 201

/-- What is told of the workflow that is written, or of the one that is deleted. -/
def shown : Endpoint → Definition → Body
  | .deleteWorkflow _, _ => .empty
  | _, d => .json (Response.showable (d.present Service.time))

/-- Whether that can be told. -/
def Tells : Endpoint → Definition → Prop
  | .deleteWorkflow _, _ => True
  | _, d => d.Tellable

/-- Whether that nests too deep to be told. -/
def IsDeep : Endpoint → Definition → Prop
  | .deleteWorkflow _, _ => False
  | _, d => isShallow d = false

/-- What a write makes of a repository: one workflow is added under a new identifier, put in the
place of the one with its identifier, or removed. -/
inductive Writes (r : Repository) : Endpoint → Definition → Repository → Prop where
  | created {d : Definition} (new : r.get? d.id = none) :
      Writes r .createWorkflow d (r.insert d)
  | chosen {d : Definition} (new : r.get? d.id = none) :
      Writes r .createFromStarter d (r.insert d)
  | updated {old d : Definition} (found : r.get? d.id = some old) :
      Writes r (.updateWorkflow d.id) d (r.set d)
  | deleted {d : Definition} (found : r.get? d.id = some d) :
      Writes r (.deleteWorkflow d.id) d (r.erase d.id)

end Endpoint

end Automation.Api

namespace Automation.Engine

/-! ## What the engine writes -/

variable {s s' : Engine} {d : Definition}

end Automation.Engine

namespace Automation.Api.Service

/-! ## One request -/

/-- There is room to copy the workflow of an answer. -/
def HasRoom (s : Service) : Answer → Prop
  | .definition d => s.room.copies d = true
  | _ => True

/-- A request to write is granted: it can be read, the engine does what it asks for, and there is
room to copy the workflow that comes of it. -/
def Grants (s : Service) (q : Request) (e : Endpoint) : Prop :=
  ∃ o answer, e.operation? s.settings.debug q = some o ∧ (s.engine.perform o).1 = .ok answer ∧
    s.HasRoom answer

/-- What came of a request to an endpoint that writes: it was refused, or carried out and answered
by the status of success unless the answer cannot be shown. -/
inductive Outcome (s : Service) (q : Request) (e : Endpoint) (r : Response) (engine : Engine) :
    Prop where
  | refused (denied : ¬ s.Grants q e) (status : 400 ≤ r.status)
      (repository : engine.repository = s.engine.repository) (log : engine.log = s.engine.log)
  | carried (d : Definition) (granted : s.Grants q e)
      (writes : e.Writes s.engine.repository d engine.repository) (log : engine.log = s.engine.log)
      (told : r.status = e.success ∧ r.body = e.shown d ∨ r.status = 500 ∧ ¬ e.Tells d)
      (deep : e.IsDeep d → r.status = 500)

variable {s : Service} {q : Request} {e : Endpoint}

/-- A service that is started with some room, and then answers requests while its surroundings
change. -/
inductive Reachable : Service → Prop where
  | start (settings : Settings) (backend : Backend) (clock : Timestamp)
      (network : Nat → Http.Answer) (room : Room) :
      Reachable { start settings backend clock network with room }
  | amid {s : Service} (h : Reachable s) (w : Surroundings) :
      Reachable { s with engine := s.engine.amid w }
  | handle {s : Service} (h : Reachable s) (q : Request) : Reachable (s.handle q).2

/-- An engine that comes of an operation, or of nothing but the use of identifiers. -/
inductive Performs (s : Service) : Engine → Prop where
  | operation (o : Operation) : Performs s (s.engine.perform o).2
  | nothing {n : Nat} (h : s.engine.issued ≤ n) : Performs s { s.engine with issued := n }

theorem Performs.none (s : Service) : s.Performs s.engine := .nothing le_rfl

/-- A service that was just started. -/
def fresh : Service :=
  let settings : Settings := {
    appName := "automation", appVersion := "1", debug := false
    databaseBackend := "memory", databaseUrl := "", databaseEcho := false
    poolSize := 1, maxOverflow := 0, commandTimeout := 1
    actionTimeout := .ofInt 1, webhookTimeout := .ofInt 1, maxConcurrentWorkflows := 1
    customerServiceUrl := none, customerServiceToken := none, allowedOrigins := "*"
    telemetryEnabled := false, telemetryExporter := "none", telemetryEndpoint := none
    telemetrySampleRate := .ofInt 1, telemetryEnvironment := "test" }
  start settings .memory ⟨0, some 0⟩ fun _ => default

end Automation.Api.Service
