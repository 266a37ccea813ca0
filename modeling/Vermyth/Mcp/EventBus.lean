import Vermyth.Foundation.Window
import Vermyth.Schema.Datetime
import Vermyth.Schema.Value

set_option autoImplicit false

namespace Vermyth

open Foundation Window

structure VermythEvent where
  eventId : String
  eventType : String
  ts : Datetime
  payload : List (String × Json)
  castId : Option String := none
  branchId : Option String := none

def VermythEvent.toDict (event : VermythEvent) : List (String × Json) :=
  [("event_id", .str event.eventId),
    ("event_type", .str event.eventType),
    ("ts", .str (String.ofList event.ts.isoformat)),
    ("payload", .obj event.payload),
    ("cast_id", event.castId.elim .null .str),
    ("branch_id", event.branchId.elim .null .str)]

-- items[start:]
def sliceFrom {α : Type} (items : List α) (start : Int) : List α :=
  if start < 0 then items.rtake start.natAbs else items.drop start.toNat

section Bus

variable {σ : Type}

-- The subscribed callables are of the type σ, and told apart by ==.
structure EventBus (σ : Type) where
  maxEvents : Int := 1000
  events : List VermythEvent := []
  subscribers : List σ := []

-- The default factory of _events makes a deque of this maxlen for every bus.
def dequeMaxlen : Nat := 1000

-- The calls of the subscribers follow; what one of them emits comes after it.
def EventBus.emit (bus : EventBus σ) (event : VermythEvent) : EventBus σ × List (σ × VermythEvent) :=
  ({ bus with events := keep dequeMaxlen bus.events event }, bus.subscribers.map fun fn => (fn, event))

-- str(ULID()) and datetime.now(timezone.utc) come in as arguments.
def EventBus.emitEvent (bus : EventBus σ) (eventId : String) (now : Datetime) (eventType : String)
    (payload : List (String × Json)) (castId branchId : Option String) :
    VermythEvent × EventBus σ × List (σ × VermythEvent) :=
  let event := { eventId, eventType, ts := now, payload, castId, branchId }
  (event, bus.emit event)

def EventBus.subscribe (bus : EventBus σ) (fn : σ) : EventBus σ := { bus with subscribers := bus.subscribers ++ [fn] }

def EventBus.unsubscribe [DecidableEq σ] (bus : EventBus σ) (fn : σ) : EventBus σ :=
  if fn ∈ bus.subscribers then { bus with subscribers := bus.subscribers.erase fn } else bus

def ofType (eventType : Option String) (event : VermythEvent) : Bool :=
  eventType.all fun wanted => event.eventType == wanted

def EventBus.recent (bus : EventBus σ) (n : Int) (eventType : Option String) : List VermythEvent :=
  let items := if eventType.isSome then bus.events.filter (ofType eventType) else bus.events
  sliceFrom items (-n)

def EventBus.toolEventsTail (bus : EventBus σ) (n : Int) (eventType : Option String) : List (List (String × Json)) :=
  (bus.recent n eventType).map VermythEvent.toDict

inductive BusAction (σ : Type) where
  | emit (event : VermythEvent)
  | emitEvent (eventId : String) (now : Datetime) (eventType : String) (payload : List (String × Json))
      (castId branchId : Option String)
  | subscribe (fn : σ)
  | unsubscribe (fn : σ)

def BusAction.event? : BusAction σ → Option VermythEvent
  | .emit event => some event
  | .emitEvent eventId now eventType payload castId branchId =>
      some { eventId, eventType, ts := now, payload, castId, branchId }
  | .subscribe _ => none
  | .unsubscribe _ => none

def emitted (actions : List (BusAction σ)) : List VermythEvent := actions.filterMap BusAction.event?

def busStep [DecidableEq σ] (bus : EventBus σ) : BusAction σ → EventBus σ
  | .emit event => (bus.emit event).1
  | .emitEvent eventId now eventType payload castId branchId =>
      (bus.emitEvent eventId now eventType payload castId branchId).2.1
  | .subscribe fn => bus.subscribe fn
  | .unsubscribe fn => bus.unsubscribe fn

theorem recent_filter (bus : EventBus σ) (n : Int) (eventType : Option String) :
    bus.recent n eventType = sliceFrom (bus.events.filter (ofType eventType)) (-n) := by
  cases eventType with
  | none =>
      have all : bus.events.filter (ofType none) = bus.events := List.filter_eq_self.mpr fun event _ => rfl
      rw [all]
      rfl
  | some wanted => rfl

theorem slice_from_zero {α : Type} (items : List α) : sliceFrom items (-((0 : Nat) : Int)) = items := rfl

theorem slice_from_end {α : Type} (items : List α) (n : Nat) (positive : n ≠ 0) :
    sliceFrom items (-(n : Int)) = items.rtake n := by
  rw [sliceFrom, if_pos (by omega), Int.natAbs_neg, Int.natAbs_natCast]

def window (m n : Nat) (eventType : Option String) (events : List VermythEvent) : List VermythEvent :=
  ((events.rtake m).filter (ofType eventType)).rtake n

def ShowsWindow (bus : EventBus σ) (m n : Nat) (eventType : Option String) (events : List VermythEvent) : Prop :=
  bus.recent n eventType = window m n eventType events ∧ bus.events.length ≤ m

def WindowsAgree (m n : Nat) (eventType : Option String) (events : List VermythEvent) : Prop :=
  if n = 0 then ∀ event ∈ events.rtake dequeMaxlen, ofType eventType event = false
  else n ≤ (events.rtake (min m dequeMaxlen)).countP (ofType eventType) ∨
    ∀ event ∈ (events.rtake (max m dequeMaxlen)).rdrop (min m dequeMaxlen), ofType eventType event = false

theorem same_window_iff (m n : Nat) (eventType : Option String) (events : List VermythEvent) :
    window dequeMaxlen n eventType events = window m n eventType events ↔
      n ≤ (events.rtake (min m dequeMaxlen)).countP (ofType eventType) ∨
        ∀ event ∈ (events.rtake (max m dequeMaxlen)).rdrop (min m dequeMaxlen), ofType eventType event = false := by
  rcases Nat.le_total m dequeMaxlen with less | more
  · rw [Nat.min_eq_left less, Nat.max_eq_right less]
    exact same_last_iff (ofType eventType) events dequeMaxlen m n less
  · rw [Nat.min_eq_right more, Nat.max_eq_left more, eq_comm]
    exact same_last_iff (ofType eventType) events m dequeMaxlen n more

variable [DecidableEq σ]

theorem bus_step_events (bus : EventBus σ) (action : BusAction σ) :
    (busStep bus action).events = action.event?.elim bus.events (keep dequeMaxlen bus.events) := by
  cases action with
  | emit event => simp only [busStep, EventBus.emit, BusAction.event?, Option.elim_some]
  | emitEvent eventId now eventType payload castId branchId =>
      simp only [busStep, EventBus.emitEvent, EventBus.emit, BusAction.event?, Option.elim_some]
  | subscribe fn => rfl
  | unsubscribe fn =>
      change (bus.unsubscribe fn).events = bus.events
      rw [EventBus.unsubscribe]
      split_ifs <;> rfl

theorem bus_run_events (bus : EventBus σ) (actions : List (BusAction σ)) :
    (run busStep bus actions).events = run (keep dequeMaxlen) bus.events (emitted actions) := by
  induction actions using List.reverseRecOn with
  | nil => rfl
  | append_singleton actions last ih =>
      rw [run_concat, bus_step_events, ih, emitted, emitted, List.filterMap_append, run_append]
      cases made : last.event? with
      | none => rw [List.filterMap_cons_none made, List.filterMap_nil, run_nil, Option.elim_none]
      | some event =>
          rw [List.filterMap_cons_some made, List.filterMap_nil, Option.elim_some]
          exact (run_concat _ [] event).symm

-- EventBus(max_events=m), which does not look at m again.
def EventBus.new (maxEvents : Nat) : EventBus σ := { maxEvents := maxEvents }

theorem new_bus_events (maxEvents : Nat) (actions : List (BusAction σ)) :
    (run busStep (EventBus.new maxEvents) actions).events = (emitted actions).rtake dequeMaxlen := by
  rw [bus_run_events]
  exact run_keep dequeMaxlen (emitted actions)

theorem recent_window_iff (m n : Nat) (eventType : Option String) (actions : List (BusAction σ)) :
    (run busStep (EventBus.new m) actions).recent n eventType = window m n eventType (emitted actions) ↔
      WindowsAgree m n eventType (emitted actions) := by
  rw [recent_filter, new_bus_events, WindowsAgree]
  by_cases zero : n = 0
  · rw [if_pos zero, zero, slice_from_zero, window, List.rtake_zero, List.filter_eq_nil_iff]
    simp only [Bool.not_eq_true]
  · rw [if_neg zero, slice_from_end _ n zero]
    exact same_window_iff m n eventType (emitted actions)

theorem events_tail_window (m n : Nat) (eventType : Option String) (actions : List (BusAction σ))
    (agree : WindowsAgree m n eventType (emitted actions)) :
    (run busStep (EventBus.new m) actions).toolEventsTail n eventType =
      (window m n eventType (emitted actions)).map VermythEvent.toDict :=
  congrArg (List.map VermythEvent.toDict) ((recent_window_iff m n eventType actions).mpr agree)

theorem retained_iff (m : Nat) (actions : List (BusAction σ)) :
    (run busStep (EventBus.new m) actions).events.length ≤ m ↔ (emitted actions).length ≤ m ∨ dequeMaxlen ≤ m := by
  rw [new_bus_events, rtake_length]
  omega

theorem event_bus_window_iff (m n : Nat) (eventType : Option String) (actions : List (BusAction σ)) :
    ShowsWindow (run busStep (EventBus.new m) actions) m n eventType (emitted actions) ↔
      WindowsAgree m n eventType (emitted actions) ∧ ((emitted actions).length ≤ m ∨ dequeMaxlen ≤ m) :=
  and_congr (recent_window_iff m n eventType actions) (retained_iff m actions)

end Bus

def firstEvent : VermythEvent :=
  { eventId := "EVENT-0", eventType := "cast", ts := Datetime.newYear 2026 (Eq.refl true), payload := [] }

theorem event_bus_shows_more :
    ¬ ShowsWindow (run busStep (EventBus.new 1000) [(.emit firstEvent : BusAction Nat)]) 1000 0 none [firstEvent] ∧
      ¬ ShowsWindow (run busStep (EventBus.new 1) [(.emit firstEvent : BusAction Nat), .emit firstEvent]) 1 2 none
        [firstEvent, firstEvent] := by
  constructor
  · rintro ⟨shown, _⟩
    have lengths := congrArg List.length shown
    contradiction
  · rintro ⟨_, retained⟩
    have bound : 2 ≤ 1 := retained
    contradiction

end Vermyth
