/-!
# ComponentSpec.Log

What a compilation reports while it runs.

* `LogEvent`: a reported event, with its level, its message and its fields.
* `Traced`: a computation that reports events and may fail. The events before a failure are kept.
-/

namespace ComponentSpec

inductive Level where
  | trace
  | debug
  | info
  | warn
deriving DecidableEq

def Level.name : Level → String
  | .trace => "TRACE"
  | .debug => "DEBUG"
  | .info => "INFO"
  | .warn => "WARN"

structure Extent where
  commands : Nat
  notifications : Nat
  properties : Nat
  subscriptions : Nat
  transitions : Nat
deriving DecidableEq

inductive LogEvent where
  /-- An alias has other fields, which are ignored. -/
  | ignoredFields (component : String)
  | ignoredReserved (component : String)
  | parsing (component : String)
  | aliasing (component target : String)
  /-- A state or event is declared again. -/
  | ignoredRepeat (what name : String)
  | expanded (pattern : String) (matching : Nat)
  | resolved (state next event : String)
  | built (component : String) (extent : Extent)
  | compiled (components : Nat)
deriving DecidableEq

namespace LogEvent

def level : LogEvent → Level
  | ignoredFields _ => .warn
  | ignoredReserved _ => .info
  | parsing _ => .debug
  | aliasing _ _ => .debug
  | ignoredRepeat _ _ => .warn
  | expanded _ _ => .debug
  | resolved _ _ _ => .trace
  | built _ _ => .debug
  | compiled _ => .info

def message : LogEvent → String
  | ignoredFields _ => "ignoring fields beside 'using' in aliased component"
  | ignoredReserved _ => "ignoring reserved component"
  | parsing _ => "parsing component"
  | aliasing _ _ => "aliasing component"
  | ignoredRepeat what _ => "duplicate " ++ what ++ " declaration ignored"
  | expanded _ _ => "expanded state pattern"
  | resolved _ _ _ => "resolved transition"
  | built _ _ => "built component"
  | compiled _ => "compiled service components"

def fields : LogEvent → List (String × String)
  | ignoredFields component => [("component", component)]
  | ignoredReserved component => [("component", component)]
  | parsing component => [("component", component)]
  | aliasing component target => [("component", component), ("target", target)]
  | ignoredRepeat _ name => [("name", name)]
  | expanded pattern matching => [("pattern", pattern), ("matches", toString matching)]
  | resolved state next event => [("state", state), ("next", next), ("event", event)]
  | built component extent =>
    [ ("component", component), ("commands", toString extent.commands),
      ("notifications", toString extent.notifications),
      ("properties", toString extent.properties),
      ("subscriptions", toString extent.subscriptions),
      ("transitions", toString extent.transitions) ]
  | compiled components => [("components", toString components)]

end LogEvent

/-- The events of a computation in order, and its result or the failure that ended it. -/
structure Traced (ε α : Type) where
  events : List LogEvent
  outcome : Except ε α

namespace Traced

variable {ε ε' α β : Type}

def ok (a : α) : Traced ε α := ⟨[], .ok a⟩

def fail (e : ε) : Traced ε α := ⟨[], .error e⟩

/-- Continues with the result of a computation, unless it failed. -/
def andThen (x : Traced ε α) (f : α → Traced ε β) : Traced ε β :=
  match x.outcome with
  | .error e => ⟨x.events, .error e⟩
  | .ok a => ⟨x.events ++ (f a).events, (f a).outcome⟩

instance : Monad (Traced ε) where
  pure := ok
  bind := andThen

def lift (x : Except ε α) : Traced ε α := ⟨[], x⟩

def report (e : LogEvent) : Traced ε Unit := ⟨[e], .ok ()⟩

def reportAll (es : List LogEvent) : Traced ε Unit := ⟨es, .ok ()⟩

def mapError (f : ε → ε') (x : Traced ε α) : Traced ε' α := ⟨x.events, x.outcome.mapError f⟩

@[simp] theorem pure_eq (a : α) : (pure a : Traced ε α) = ok a := rfl

@[simp] theorem bind_eq (x : Traced ε α) (f : α → Traced ε β) : x >>= f = x.andThen f := rfl

/-! ## Outcomes -/

@[simp] theorem outcome_ok (a : α) : (ok a : Traced ε α).outcome = .ok a := rfl

@[simp] theorem outcome_fail (e : ε) : (fail e : Traced ε α).outcome = .error e := rfl

@[simp] theorem outcome_lift (x : Except ε α) : (lift x).outcome = x := rfl

@[simp] theorem outcome_mapError (f : ε → ε') (x : Traced ε α) :
    (x.mapError f).outcome = x.outcome.mapError f := rfl

/-- Events do not touch the outcome. -/
@[simp] theorem outcome_report_andThen (e : LogEvent) (f : Unit → Traced ε α) :
    ((report e).andThen f).outcome = (f ()).outcome := rfl

theorem outcome_andThen (x : Traced ε α) (f : α → Traced ε β) :
    (x.andThen f).outcome = x.outcome >>= fun a => (f a).outcome := by
  rcases x with ⟨es, _ | a⟩ <;> rfl

end Traced

end ComponentSpec
