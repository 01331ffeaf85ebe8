import Courier.Span
import Courier.Attempt.State

/-!
# Errors

What can go wrong with the transport of a message and with its delivery. A handler's own failure is
no error of the library: it leads to another try.
-/
namespace Courier

/-- A failure of the transport or of the store behind it. -/
inductive TransportError
  | connection (message : String)
  | publish (topic message : String)
  | serialization (message : String)
  | store (message : String)
deriving DecidableEq

def TransportError.message : TransportError → String
  | .connection m => "transport connection failed: " ++ m
  | .publish topic m => "publish to " ++ topic ++ " failed: " ++ m
  | .serialization m => "envelope serialization failed: " ++ m
  | .store m => "due-store operation failed: " ++ m

/-- Why a delivery or a component cannot go on. -/
inductive DeliveryError
  /-- The pool takes no more tasks. -/
  | rejected (group : String)
  /-- The pool holds as many tasks as it may. -/
  | queueFull (group : String) (capacity : Nat)
  /-- The pool did not drain in time. -/
  | shutdownTimeout (timeout : Span) (abandoned : Nat)
  | invalidTransition (before after : Attempt.State)
  | unknownHandler (handler : String)
  /-- Some of the handlers of a topic got the message before the failure. -/
  | partialDispatch (delivered : Nat) (source : DeliveryError)
  | transport (e : TransportError)
  | configuration (message : String)
deriving DecidableEq

namespace DeliveryError

def message : DeliveryError → String
  | .rejected group => "task for group " ++ group ++ " rejected: executor is shut down"
  | .queueFull group capacity =>
    "task for group " ++ group ++ " rejected: " ++ toString capacity ++ " tasks already outstanding"
  | .shutdownTimeout timeout abandoned =>
    "shutdown timed out after " ++ timeout.text ++ " with " ++ toString abandoned ++ " tasks abandoned"
  | .invalidTransition before after =>
    "invalid attempt transition from " ++ before.text ++ " to " ++ after.text
  | .unknownHandler handler => "no trigger registered for handler " ++ handler
  | .partialDispatch delivered source =>
    "dispatch stopped after " ++ toString delivered ++ " deliveries: " ++ source.message
  | .transport e => e.message
  | .configuration m => "invalid configuration: " ++ m

/-- The error at the bottom of partial dispatches. -/
def root : DeliveryError → DeliveryError
  | .partialDispatch _ source => source.root
  | e => e

def isShutdown (e : DeliveryError) : Bool :=
  match e.root with
  | .rejected _ | .shutdownTimeout _ _ => true
  | _ => false

/-- Whether the pool turned work away that can be offered again. -/
def isBackpressure (e : DeliveryError) : Bool :=
  match e.root with
  | .queueFull _ _ => true
  | _ => e.isShutdown

/-- How many handlers got the message before the failure. -/
def delivered : DeliveryError → Nat
  | .partialDispatch n _ => n
  | _ => 0

end DeliveryError

/-- What a handler reports when it cannot handle a message. -/
structure HandlerError where
  message : String
deriving DecidableEq

def HandlerError.text (e : HandlerError) : String := "handler failed: " ++ e.message

end Courier
