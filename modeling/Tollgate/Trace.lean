import Tollgate.Billing

namespace Tollgate

inductive LogLevel where
  | debug
  | info
  | warning
deriving DecidableEq, Repr

namespace LogLevel

def severity : LogLevel → Nat
  | debug => 10
  | info => 20
  | warning => 30

def name : LogLevel → String
  | debug => "DEBUG"
  | info => "INFO"
  | warning => "WARNING"

end LogLevel

inductive LogSource where
  | tokens
  | gate
  | webhook
  | application
deriving DecidableEq, Repr

def LogSource.name : LogSource → String
  | tokens => "meco.security.jwt_provider"
  | gate => "meco.security.gate"
  | webhook => "meco.webhook.service"
  | application => "meco.main"

structure LogRecord where
  level : LogLevel
  source : LogSource
  message : Text
deriving DecidableEq, Repr

def LogRecord.line (record : LogRecord) : Text :=
  Text.lit record.level.name ++ Text.lit " " ++ Text.lit record.source.name ++ Text.lit " " ++
    record.message

inductive Event where
  | logged (record : LogRecord)
  | billed (call : BillingCall)
  /-- The revocation check was asked about these claims. -/
  | revocationChecked (claims : Members)
  /-- The provider of this number was asked to validate a token. -/
  | validated (provider : Nat)
  | handled (context : Option Nat)
deriving DecidableEq

namespace Event

def logged? : Event → Option LogRecord
  | logged record => some record
  | _ => none

def billed? : Event → Option BillingCall
  | billed call => some call
  | _ => none

def revocationChecked? : Event → Option Members
  | revocationChecked claims => some claims
  | _ => none

end Event

structure Traced (α : Type) where
  events : List Event
  outcome : Except Fault α

namespace Traced

variable {α β : Type}

protected def pure (a : α) : Traced α := ⟨[], .ok a⟩

protected def bind (x : Traced α) (f : α → Traced β) : Traced β :=
  match x.outcome with
  | .ok a => ⟨x.events ++ (f a).events, (f a).outcome⟩
  | .error fault => ⟨x.events, .error fault⟩

instance : Monad Traced where
  pure := Traced.pure
  bind := Traced.bind

def fail (fault : Fault) : Traced α := ⟨[], .error fault⟩

def crash (crash : Crash) : Traced α := fail (.crash crash)

def reject (code : ApiCode) : Traced α := fail (.api code none)

def rejectFor (code : ApiCode) (cause : Cause) : Traced α := fail (.api code (some cause))

def emit (event : Event) : Traced Unit := ⟨[event], .ok ()⟩

def log (level : LogLevel) (source : LogSource) (message : Text) : Traced Unit :=
  emit (.logged ⟨level, source, message⟩)

def ofExcept (x : Except Fault α) : Traced α := ⟨[], x⟩

def ofCrash (x : Except Crash α) : Traced α := ⟨[], x.mapError .crash⟩

def handle (x : Traced α) (onFault : Fault → Traced α) : Traced α :=
  match x.outcome with
  | .ok _ => x
  | .error fault => ⟨x.events ++ (onFault fault).events, (onFault fault).outcome⟩

def logs (x : Traced α) : List LogRecord := x.events.filterMap Event.logged?

def calls (x : Traced α) : List BillingCall := x.events.filterMap Event.billed?

def checks (x : Traced α) : List Members := x.events.filterMap Event.revocationChecked?

end Traced

/-- A call to the billing service is on the trace even if it fails. -/
def Billing.act (billing : Billing) (call : BillingCall) : Traced Unit := do
  Traced.emit (.billed call)
  Traced.ofExcept (billing call)

end Tollgate
