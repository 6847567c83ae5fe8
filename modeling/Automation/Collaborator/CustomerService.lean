import Automation.Action.Call
import Automation.Failure
import Automation.Text.Percent
import Automation.Text.Split

/-!
# The customer service

Customers are kept by a service of their own, which is called over HTTP: fields of a customer are
changed by a request to the address of this one customer, below the address of the service.  The
identifier of the customer is one segment of the path, with all characters encoded but the
unreserved ones.
-/

namespace Automation

/-- How the customer service is reached. -/
structure CustomerService where
  /-- The address, without a slash at its end; empty if there is no service. -/
  address : String
  /-- The token that is shown to it. -/
  token : Option String
  /-- The seconds that a request may take. -/
  timeout : Number
deriving Repr

namespace CustomerService

/-- The service at an address, with a token unless that is empty. -/
def connect (address token : Option String) (timeout : Number) : CustomerService :=
  { address := String.ofList (Text.trimEnd '/' (address.getD "").toList)
    token := token.filter fun s => !s.isEmpty
    timeout }

/-- An identifier as one segment of a path. -/
def segment (id : String) : String :=
  String.ofList (Text.Percent.encode Text.Percent.isUnreserved id.toList)

/-- The address of a customer. -/
def customerUrl (s : CustomerService) (id : String) : String :=
  s.address ++ "/customers/" ++ segment id

/-- The headers of a request. -/
def headers (s : CustomerService) : List (String × String) :=
  ("Content-Type", "application/json") ::
    (match s.token with | some t => [("Authorization", "Bearer " ++ t)] | none => [])

/-- An error of changing a customer. -/
def error (message : String) : EngineError :=
  .action (.text ActionType.updateCustomer.name) (.text message)

/-- The error of a service without an address. -/
def unconfigured : EngineError :=
  error "customer service is not configured (CUSTOMER_SERVICE_URL)"

/-- The request that changes fields of a customer. -/
def update (s : CustomerService) (id : String) (fields : Mapping) : Except EngineError Call :=
  if s.address.isEmpty then .error unconfigured
  else .ok (.http (s.customerUrl id) "PATCH" s.headers (.mapping fields) s.timeout)

/-- What the status of the response says: whether there is such a customer.  The names of the fields
that were changed are sorted, which fails for keys that are in no order. -/
def accept (fields : Mapping) (status : Int) : Except Failure Bool :=
  if status = 404 then .ok false
  else if isAccepted status then
    match Key.sorted (fields.map Prod.fst) with
    | .ok _ => .ok true
    | .error e => .error (.fault e.fault)
  else .error (.engine (error ("customer service returned HTTP " ++ toString status)))

/-- A customer changed by a service that answers with a status or fails: whether there is such a
customer, and the requests that were made. -/
def updateWith (s : CustomerService) (id : String) (fields : Mapping) (status : Int)
    (fails : Option Failure) : Except Failure Bool × List Call :=
  match s.update id fields, fails with
  | .error e, _ => (.error (.engine e), [])
  | .ok call, some f => (.error f, [call])
  | .ok call, none => (accept fields status, [call])

end CustomerService

end Automation
