import VolatilityDesk.Notify.Delivery
import VolatilityDesk.Settings.Load
import VolatilityDesk.Trading.Report
/-!
# Messages to a chat

Signals and closed positions are announced in a chat. A message that cannot be delivered counts as
not sent and stops nothing; only faults that have nothing to do with the delivery end an
announcement. Without a token or a chat nothing is sent at all.
-/

namespace VolatilityDesk

/-- A chat and the right to write there. -/
structure Messenger where
  token : String
  chat : String
  /-- The seconds after which a request is given up, if the settings could be read. -/
  timeout : Except SettingsFault Float

/-- A fault that ends an announcement. -/
inductive MessengerFault where
  | failure (kind : Failure)
  | settings (fault : SettingsFault)
  /-- The token makes no address. -/
  | address (fault : UrlFault)

namespace Messenger

/-- Messages can be sent: there is an account and someone to send to. -/
def enabled (m : Messenger) : Bool := !m.token.isEmpty && !m.chat.isEmpty

/-- The service that carries the messages. -/
def service : String := "https://api.telegram.org"

/-- Where messages go at the service. -/
def place (m : Messenger) : String := s!"/bot{m.token}/sendMessage"

/-- The request for a message. -/
def request (m : Messenger) (text mode : String) : Request where
  url := (Url.resolve service m.place).text
  body := .object [("chat_id", .text m.chat), ("text", .text text), ("parse_mode", .text mode)]

/-- How messages mark up their text unless told otherwise. -/
def markup : String := "Markdown"

/-- Sends a message and says whether it arrived. -/
def send (m : Messenger) (text mode : String) (w : Wire) : Except MessengerFault Bool × Wire :=
  if !m.enabled then (.ok false, w)
  else match m.timeout with
    | .error fault => (.error (.settings fault), w)
    | .ok _ =>
      match Url.resolveFault? service m.place with
      | some fault => (.error (.address fault), w)
      | none =>
        match w.deliver (m.request text mode) with
        | (.status code, w) => (.ok (Reply.status code).isSuccess, w)
        | (.failure kind, w) =>
          if kind.isExchange then (.ok false, w) else (.error (.failure kind), w)

/-- Sends messages one after the other and counts those that arrived. -/
def sendAll (m : Messenger) : List String → Wire → Except MessengerFault Nat × Wire
  | [], w => (.ok 0, w)
  | text :: rest, w =>
    match m.send text markup w with
    | (.error fault, w) => (.error fault, w)
    | (.ok arrived, w) =>
      match m.sendAll rest w with
      | (.error fault, w) => (.error fault, w)
      | (.ok count, w) => (.ok (if arrived then count + 1 else count), w)

/-- The messages about new signals, then those about closed positions, then a summary if it is
wanted. -/
def announcements (now : Timestamp) (signals : List (Signal Float))
    (closed : List (Position Float)) (summary : Bool) : List String :=
  signals.map Signal.alert ++ closed.map Position.alert
    ++ if summary then [Signal.summary now Signal.messageLimit signals] else []

/-- Announces signals and closed positions. -/
def notify (m : Messenger) (now : Timestamp) (signals : List (Signal Float))
    (closed : List (Position Float)) (summary : Bool) (w : Wire) :
    Except MessengerFault Nat × Wire :=
  if m.enabled then m.sendAll (announcements now signals closed summary) w else (.ok 0, w)

end Messenger

end VolatilityDesk
