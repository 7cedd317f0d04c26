import LiveLint.Fault
import LiveLint.Json.Parser
import LiveLint.Reading
import LiveLint.Url.Parser
import LiveLint.Value

/-!
# The remote client

Two calls, each with its own timeout: one for all patterns of a file and one for those that are
uncertain. A call is made only if its address, its timeout and what it carries allow that. An answer
counts only if it is a JSON object that came with a status below 400.
-/

/-!
## Transport

Requests to the remote service and what comes back. The transport itself is a function with a state
of its own, so that a network, a script or a model of the service can stand behind it.
-/

namespace LiveLint

structure HttpRequest where
  method : String
  url : String
  body : Value
  deriving Repr

inductive HttpReply where
  | answer (status : Int) (body : String)
  | timedOut
  /-- The exchange failed in one of the ways a network fails. -/
  | broken (cause message : String)
  /-- The exchange failed in a way nobody foresaw. -/
  | unexpected (cause message : String)
  deriving Repr

/-- Causes that mean that time was up. -/
def timeoutCauses : List String :=
  ["TimeoutException", "ConnectTimeout", "ReadTimeout", "WriteTimeout", "PoolTimeout"]

/-- Causes that are no failures of an exchange but mistakes in its use. -/
def misuseCauses : List String :=
  ["InvalidURL", "CookieConflict", "StreamError", "StreamConsumed", "StreamClosed",
    "ResponseNotRead", "RequestNotRead"]

/-- The reply that stands for an exchange that failed for a named cause. -/
def HttpReply.ofCause (cause message : String) : HttpReply :=
  if timeoutCauses.contains cause then .timedOut
  else if misuseCauses.contains cause then .unexpected cause message
  else .broken cause message

abbrev Transport (σ : Type) := HttpRequest → σ → HttpReply × σ

/-! ## The remote client -/

structure RemoteClient where
  baseUrl : String
  structuralTimeout : Number := .float 5
  classificationTimeout : Number := .float 10
  deriving Repr

inductive RemoteCall where
  | structural | classify
  deriving DecidableEq, Repr

def RemoteCall.label : RemoteCall → String
  | .structural => "structural analysis"
  | .classify => "classification assist"

def RemoteCall.path : RemoteCall → String
  | .structural => "/v1/structure"
  | .classify => "/v1/classify"

/-- Why a call has no result. -/
inductive RemoteFault where
  | unavailable (f : Failure)
  | unexpected (cause message : String)
  deriving Repr

namespace RemoteClient

/-- The address of the service without slashes at its end. -/
def root (c : RemoteClient) : String :=
  String.ofList (c.baseUrl.toList.reverse.dropWhile (· == '/')).reverse

def timeout (c : RemoteClient) : RemoteCall → Number
  | .structural => c.structuralTimeout
  | .classify => c.classificationTimeout

def address (c : RemoteClient) (call : RemoteCall) : Except RemoteFault Url :=
  match (Url.ofText c.root).bind (·.below call.path) with
  | .ok url => .ok url
  | .error f => .error (.unexpected "InvalidURL" f.message)

/-- The time for a call as a double. -/
def checkTimeout (c : RemoteClient) (call : RemoteCall) : Except RemoteFault Unit :=
  match (c.timeout call).real with
  | .ok _ => .ok ()
  | .error f => .error (.unexpected "OverflowError" f.message)

/-- What is sent has a form in JSON if all of its doubles are finite. -/
def checkPayload (payload : Value) : Except RemoteFault Unit :=
  if payload.isFinite then .ok ()
  else .error (.unexpected "ValueError" "Out of range float values are not JSON compliant")

def bodyOf (body : String) : Except String Value := Json.parseBytes body.toUTF8.toList

/-- What a bad reply says about itself. -/
def detail (body : String) : String :=
  match bodyOf body with
  | .ok v => v.plain
  | .error _ => body

def read (c : RemoteClient) (call : RemoteCall) : HttpReply → Except RemoteFault Fields
  | .timedOut =>
    .error (.unavailable (.remoteUnavailable call.label "timed out" (some (c.timeout call))))
  | .broken cause message =>
    .error (.unavailable (.remoteUnavailable call.label (cause ++ ": " ++ message) none))
  | .unexpected cause message => .error (.unexpected cause message)
  | .answer status body =>
    let refused (reason : String) : Except RemoteFault Fields :=
      .error (.unavailable (.remoteUnavailable call.label reason none))
    if 400 ≤ status then
      refused ("status=" ++ toString status ++ ", detail=" ++ detail body)
    else
      match bodyOf body with
      | .error _ => refused "response is not JSON"
      | .ok (.table fields) => .ok fields
      | .ok _ => refused "response is not a JSON object"

/-- What came back counts as no answer if the address names no way of exchange, or has brackets around
something else than an address. An empty fragment at its end is not part of the address. -/
def checkReply (url : String) : HttpReply → HttpReply
  | .answer status body =>
    if Url.namesScheme url then
      match Url.bracketFault? url with
      | some fault => .unexpected "ValueError" fault.message
      | none => .answer status body
    else
      let whole := if url.endsWith "#" then (url.dropEnd 1).toString else url
      .unexpected "ValueError" ("unknown url type: " ++ Text.quoted whole)
  | reply => reply

/-- The request of a call; none if there is no time for it. -/
def request? (c : RemoteClient) (call : RemoteCall) (payload : Value) :
    Except RemoteFault (Option HttpRequest) := do
  let url ← c.address call
  c.checkTimeout call
  if (c.timeout call).le 0 then pure none
  else
    checkPayload payload
    pure (some { method := "POST", url := url.text, body := payload })

def post {σ : Type} (c : RemoteClient) (transport : Transport σ) (call : RemoteCall)
    (payload : Value) (s : σ) : Except RemoteFault Fields × σ :=
  match c.request? call payload with
  | .error f => (.error f, s)
  | .ok none => (c.read call .timedOut, s)
  | .ok (some request) =>
    let (reply, s) := transport request s
    (c.read call (checkReply request.url reply), s)

end RemoteClient

end LiveLint
