import VolatilityDesk.Json
import VolatilityDesk.Notify.Url
/-!
# Delivery of requests

A request is sent up to three times. Another attempt follows when the reply may be a passing
trouble: a timeout, a broken connection, too many requests, or a server that cannot answer just
now. Between attempts there is a wait that doubles. The replies come from outside; here they are a
list, and where the list ends everything succeeds.
-/

namespace VolatilityDesk

/-- A request failed before it had a status. -/
inductive Failure where
  | readTimeout
  | writeTimeout
  | connectTimeout
  | poolTimeout
  | connectError
  | readError
  | writeError
  | closeError
  /-- The other side broke the protocol. -/
  | protocolError
  /-- This side broke the protocol. -/
  | localProtocolError
  | unsupportedProtocol
  | proxyError
  | tooManyRedirects
  | decodingError
  /-- A value was refused on this side. -/
  | value
  /-- The operating system refused. -/
  | system
  deriving DecidableEq, Repr

/-- What one attempt gives. -/
inductive Reply where
  | status (code : Int)
  | failure (kind : Failure)
  deriving DecidableEq, Repr

namespace Failure

/-- The failure belongs to the exchange of requests and replies. -/
def isExchange : Failure → Bool
  | value | system => false
  | _ => true

/-- Timeouts and broken connections. -/
def isTransient : Failure → Bool
  | readTimeout | writeTimeout | connectTimeout | poolTimeout => true
  | connectError | readError | writeError | closeError => true
  | _ => false

/-- The kind of the failure in a word, where it has one. -/
def message : Failure → String
  | value => "value"
  | system => "os"
  | _ => "delivery failed"

end Failure

namespace Reply

/-- Codes of success. -/
def isSuccess : Reply → Bool
  | status code => 200 ≤ code && code ≤ 299
  | failure _ => false

/-- The codes for which another attempt is worth while. -/
def retryCodes : List Int := [429, 500, 502, 503, 504]

/-- Another attempt is worth while. -/
def isRetryable : Reply → Bool
  | status code => retryCodes.contains code
  | failure kind => kind.isTransient

end Reply

/-- A request: where it goes and what it carries. -/
structure Request where
  url : String
  body : Json

/-- The line to the outside: the replies to come, and the requests and waits since it was last
looked at. -/
structure Wire where
  replies : List Reply
  requests : List Request := []
  /-- The waits between attempts, in seconds. -/
  waits : List Nat := []

namespace Wire

/-- Sends a request once. -/
def attempt (w : Wire) (r : Request) : Reply × Wire :=
  let w := { w with requests := w.requests ++ [r] }
  match w.replies with
  | reply :: rest => (reply, { w with replies := rest })
  | [] => (.status 200, w)

/-- The seconds to wait after a number of attempts: doubled each time, between one and ten. -/
def waitAfter (attempts : Nat) : Nat := max 1 (min 10 (Nat.pow 2 (attempts - 1)))

/-- Sends a request until its reply settles the matter, at most as often as `left` says. -/
def deliverFrom (r : Request) (attempts : Nat) : Nat → Wire → Reply × Wire
  | 0, w => w.attempt r
  | left + 1, w =>
    let (reply, w) := w.attempt r
    if reply.isRetryable then
      deliverFrom r (attempts + 1) left { w with waits := w.waits ++ [waitAfter attempts] }
    else (reply, w)

/-- The most attempts at a request. -/
def maxAttempts : Nat := 3

/-- Sends a request; the answer is the last reply. -/
def deliver (w : Wire) (r : Request) : Reply × Wire := deliverFrom r 1 (maxAttempts - 1) w

/-- The line after it was looked at. -/
def looked (w : Wire) : Wire := { w with requests := [], waits := [] }

end Wire

end VolatilityDesk
