import Mathlib.Tactic.Common

/-!
`MessagesAggregator` of `user_messages.py`. Its two deques are lists, newest first: `appendleft`
puts a message at the front and `pop` takes the last one. With a notifier attached,
`add_warning`, `add_error` and `add_message` broadcast and leave the deques alone; the
notifier gives a message back through the failure callback `_append_warning` or
`_append_error`, which is a call of its own in a run, whenever the notifier makes it.

The aggregator is shown to keep a polling log: `consume_errors` hands back, oldest first, the
errors reported for polling since the previous `consume_errors`, and no warning is ever
removed.
-/

namespace BitcointView

/-- The members of `WsMessageType` that `user_messages.py` names, and the others. -/
inductive WsMessageType
  | legacy | balanceSnapshotError | other (name : String)
  deriving DecidableEq, Repr

def errorMessageTypes : List WsMessageType := [.legacy, .balanceSnapshotError]

/-- The notifier is an object; only whether it is `None` is read. -/
structure MessagesAggregator where
  warnings : List String
  errors : List String
  notifier : Option Nat
  deriving DecidableEq, Repr

namespace MessagesAggregator

/-- `MessagesAggregator.__init__`. -/
def init : MessagesAggregator := ⟨[], [], none⟩

def _appendWarning (a : MessagesAggregator) (msg : String) : MessagesAggregator :=
  { a with warnings := msg :: a.warnings }

def addWarning (a : MessagesAggregator) (msg : String) : MessagesAggregator :=
  if a.notifier.isSome then a else a._appendWarning msg

def _appendError (a : MessagesAggregator) (msg : String) : MessagesAggregator :=
  { a with errors := msg :: a.errors }

def addError (a : MessagesAggregator) (msg : String) : MessagesAggregator :=
  if a.notifier.isSome then a else a._appendError msg

section AddMessage

-- `json.dumps({'type': str(message_type), 'data': data})`
variable {α : Type} (fallbackMsg : WsMessageType → α → String)

/-- `add_message`: without a notifier, only the types of `ERROR_MESSAGE_TYPES` fall back to the
errors deque; the others are dropped. -/
def addMessage (a : MessagesAggregator) (messageType : WsMessageType) (data : α) :
    MessagesAggregator :=
  let fallback := fallbackMsg messageType data
  if a.notifier.isSome then a
  else if messageType ∈ errorMessageTypes then a._appendError fallback
  else a

end AddMessage

def consumeErrorsLoop (errors result : List String) : List String × List String :=
  if h : errors.length ≠ 0 then
    consumeErrorsLoop errors.dropLast
      (result ++ [errors.getLast (List.ne_nil_of_length_pos (Nat.pos_of_ne_zero h))])
  else (result, errors)
termination_by errors.length
decreasing_by simp only [List.length_dropLast]; omega

theorem consumeErrorsLoop_eq (errors result : List String) :
    consumeErrorsLoop errors result = (result ++ errors.reverse, []) := by
  induction errors, result using consumeErrorsLoop.induct with
  | case1 errors result h ih =>
    rw [consumeErrorsLoop, dif_pos h, ih]
    have hne : errors ≠ [] := List.ne_nil_of_length_pos (Nat.pos_of_ne_zero h)
    conv_rhs => rw [← List.dropLast_concat_getLast hne]
    simp
  | case2 errors result h =>
    rw [consumeErrorsLoop, dif_neg h]
    simp [List.length_eq_zero.mp (not_not.mp h)]

def consumeErrors (a : MessagesAggregator) : List String × MessagesAggregator :=
  let r := consumeErrorsLoop a.errors []
  (r.1, { a with errors := r.2 })

@[simp] theorem consumeErrors_eq (a : MessagesAggregator) :
    a.consumeErrors = (a.errors.reverse, { a with errors := [] }) := by
  simp [consumeErrors, consumeErrorsLoop_eq]

end MessagesAggregator

inductive MessagesCall (α : Type)
  | addWarning (msg : String)
  | addError (msg : String)
  | addMessage (messageType : WsMessageType) (data : α)
  | consumeErrors
  | appendWarning (msg : String)
  | appendError (msg : String)
  | setNotifier (notifier : Option Nat)

namespace MessagesAggregator

section Run

variable {α : Type} (fallbackMsg : WsMessageType → α → String)

def call (a : MessagesAggregator) : MessagesCall α → Option (List String) × MessagesAggregator
  | .addWarning msg => (none, a.addWarning msg)
  | .addError msg => (none, a.addError msg)
  | .addMessage messageType data => (none, a.addMessage fallbackMsg messageType data)
  | .consumeErrors => let r := a.consumeErrors; (some r.1, r.2)
  | .appendWarning msg => (none, a._appendWarning msg)
  | .appendError msg => (none, a._appendError msg)
  | .setNotifier notifier => (none, { a with notifier := notifier })

def runMessages {σ : Type} (step : σ → MessagesCall α → Option (List String) × σ) :
    List (MessagesCall α) → σ → List (Option (List String)) × σ
  | [], s => ([], s)
  | c :: cs, s =>
    let r := step s c
    let rest := runMessages step cs r.2
    (r.1 :: rest.1, rest.2)

end Run

end MessagesAggregator

/-- What the aggregator is for: the errors reported for polling and not yet handed back, and the
warnings reported, both oldest first, with whether a notifier is attached. -/
structure PollingLog where
  pending : List String
  warnings : List String
  notified : Bool
  deriving DecidableEq, Repr

namespace PollingLog

def initial : PollingLog := ⟨[], [], false⟩

variable {α : Type} (fallbackMsg : WsMessageType → α → String)

def reportWarning (l : PollingLog) (msg : String) : PollingLog :=
  { l with warnings := l.warnings ++ [msg] }

def reportError (l : PollingLog) (msg : String) : PollingLog :=
  { l with pending := l.pending ++ [msg] }

def call (l : PollingLog) : MessagesCall α → Option (List String) × PollingLog
  | .addWarning msg => (none, if l.notified then l else l.reportWarning msg)
  | .addError msg => (none, if l.notified then l else l.reportError msg)
  | .addMessage messageType data =>
    (none, if l.notified ∨ messageType ∉ errorMessageTypes then l
      else l.reportError (fallbackMsg messageType data))
  | .consumeErrors => (some l.pending, { l with pending := [] })
  | .appendWarning msg => (none, l.reportWarning msg)
  | .appendError msg => (none, l.reportError msg)
  | .setNotifier notifier => (none, { l with notified := notifier.isSome })

end PollingLog

namespace MessagesAggregator

def Refines (a : MessagesAggregator) (l : PollingLog) : Prop :=
  a.errors.reverse = l.pending ∧ a.warnings.reverse = l.warnings ∧ a.notifier.isSome = l.notified

variable {α : Type} (fallbackMsg : WsMessageType → α → String) {a : MessagesAggregator}
  {l : PollingLog}

theorem refines_call (hr : a.Refines l) (c : MessagesCall α) :
    (a.call fallbackMsg c).1 = (l.call fallbackMsg c).1 ∧
      (a.call fallbackMsg c).2.Refines (l.call fallbackMsg c).2 := by
  obtain ⟨he, hw, hn⟩ := hr
  cases c <;>
    simp only [call, PollingLog.call, addWarning, addError, addMessage, consumeErrors_eq,
      _appendWarning, _appendError, PollingLog.reportWarning, PollingLog.reportError, ← hn] <;>
    (try split_ifs) <;> simp_all [Refines]

theorem refines_runMessages (cs : List (MessagesCall α)) :
    ∀ {a : MessagesAggregator} {l : PollingLog}, a.Refines l →
      (runMessages (call fallbackMsg) cs a).1 = (runMessages (PollingLog.call fallbackMsg) cs l).1 ∧
        (runMessages (call fallbackMsg) cs a).2.Refines
          (runMessages (PollingLog.call fallbackMsg) cs l).2 := by
  induction cs with
  | nil => exact fun hr => ⟨rfl, hr⟩
  | cons c cs ih =>
    intro a l hr
    obtain ⟨h1, h2⟩ := refines_call fallbackMsg hr c
    obtain ⟨ih1, ih2⟩ := ih h2
    exact ⟨by simp only [runMessages, h1, ih1], ih2⟩

example : (runMessages (call fun _ (d : String) => d)
    [.addError "a", .addMessage .legacy "b", .addMessage (.other "c") "c", .addError "d",
      .consumeErrors, .consumeErrors] init).1 =
      [none, none, none, none, some ["a", "b", "d"], some []] := by
  simp [runMessages, call, addError, addMessage, errorMessageTypes, _appendError, init]

end MessagesAggregator

end BitcointView
