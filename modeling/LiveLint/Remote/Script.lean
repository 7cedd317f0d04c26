import LiveLint.Json.Printer
import LiveLint.Remote.Client
import LiveLint.Value

/-!
# Scripted services

A service that answers requests from a list of replies, one after the other, and then with an empty
object. It stands in for a network wherever exchanges are to be repeatable.
-/

namespace LiveLint

/-- The replies that are left, and the requests that came in, latest first. -/
structure Script where
  replies : List Value := []
  requests : List HttpRequest := []

namespace Script

/-- A body that gives patterns of a request a confidence. -/
def confidences (request : HttpRequest) (f : Value → Option Value) : String :=
  let given :=
    (request.body.items "patterns").filterMap fun p => (f p).map fun x => (p.textAt "identity", x)
  Json.print (.table [("confidence", .table given)])

/-- The body of a reply: a text, one confidence for all patterns or one for each kind, or a value. -/
def bodyOf (reply : Value) (request : HttpRequest) : String :=
  match (reply.get "text").text? with
  | some body => body
  | none =>
    if reply.has "all" then confidences request fun _ => some (reply.get "all")
    else if reply.has "kinds" then
      confidences request fun p => (reply.get "kinds").field? (p.textAt "kind")
    else if (reply.get "json").isNull then ""
    else Json.print (reply.get "json")

def answer (reply : Value) (request : HttpRequest) : HttpReply :=
  match (reply.get "raise").text? with
  | some cause => HttpReply.ofCause cause (reply.textAt "message")
  | none =>
    if reply.flagOr "hang" false then .timedOut
    else .answer (reply.intOr "status" 200) (bodyOf reply request)

def transport : Transport Script := fun request s =>
  let s := { s with requests := request :: s.requests }
  match s.replies with
  | [] => (.answer 200 "\x7b\x7d", s)
  | reply :: replies => (answer reply request, { s with replies })

/-- The requests in the order in which they came in. -/
def view (s : Script) : Value :=
  .list (s.requests.reverse.map fun r => .list [.text r.method, .text r.url, r.body])

end Script

end LiveLint
