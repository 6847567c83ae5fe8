import Automation.Telemetry.Span

/-!
# Where spans go

Tracing is set up once for a process.  It starts unless it is disabled or the rate at which traces
are kept is no probability; a process whose tracing does not start goes on without.  The spans go
to an exporter, to the console where nothing better is configured.
-/

namespace Automation

/-- Where spans go. -/
inductive Exporter where
  /-- The console. -/
  | console
  /-- A collector. -/
  | collector (endpoint : String)
deriving DecidableEq, Repr

/-- The exporter of a type; a collector without an endpoint and unknown types fall back to the
console. -/
def Exporter.ofType? (type : Value) (endpoint : Value) : Option Exporter :=
  match type with
  | .text "none" => none
  | .text "otlp" =>
    match endpoint with
    | .text s => some (if s.isEmpty then .console else .collector s)
    | _ => some .console
  | _ => some .console

/-- What tracing is set up with. -/
structure TracingSetup where
  /-- The name of the service. -/
  serviceName : Value
  /-- Its version. -/
  serviceVersion : Value
  /-- Whether spans are wanted. -/
  isEnabled : Bool
  /-- The environment it runs in. -/
  environment : Value
  /-- The backend of the storage, if it is told. -/
  backend : Value
  /-- The share of traces that are kept. -/
  sampleRate : Value

namespace TracingSetup

/-- Whether a value is a probability. -/
def isProbability : Value → Bool
  | .bool _ => true
  | .int n => n == 0 || n == 1
  | .float x =>
    match x.toRat? with
    | some r => 0 ≤ r && r ≤ 1
    | none => false
  | _ => false

/-- Whether tracing starts. -/
def starts (t : TracingSetup) : Bool := t.isEnabled && isProbability t.sampleRate

/-- What the spans of the process have in common. -/
def resource (t : TracingSetup) : Mapping :=
  let named : Mapping := [("service.name", t.serviceName), ("service.version", t.serviceVersion),
    ("deployment.environment", t.environment)]
  let backend : Mapping :=
    if t.backend.truthy then [("bookflow.persistence_backend", t.backend)] else []
  Span.putAttributes [] (named ++ backend)

end TracingSetup

end Automation
