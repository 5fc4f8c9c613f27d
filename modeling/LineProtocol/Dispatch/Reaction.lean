/-!
# What message handlers do

A handler is given one message.  It acts, in some order, and then either is
done, reports an error, or gives up.  A `Reaction` is what it did.

Handlers can be written as a list of rules; the first rule whose text is the
message decides, and a message without a rule is done at once.
-/

namespace LineProtocol

/-- How a handler ended. -/
inductive HandlerOutcome where
  | done
  | failed (reason : String)
  | panicked
  deriving Repr, DecidableEq

/-- What a handler did before it ended, and how it ended. -/
structure Reaction (α : Type) where
  actions : List α := []
  outcome : HandlerOutcome := .done
  deriving Repr, DecidableEq

/-- One thing that a rule tells a handler to do. -/
inductive Instruction (α : Type) where
  | act (action : α)
  | fail (reason : String)
  | panic
  deriving Repr, DecidableEq

/-- What to do with one text. -/
structure Rule (α : Type) where
  text : String
  instructions : List (Instruction α)
  deriving Repr, DecidableEq

variable {α : Type}

/-- Follows instructions up to the one that ends the handler. -/
def Reaction.ofInstructions : List (Instruction α) → Reaction α
  | [] => {}
  | .act action :: rest =>
      let later := ofInstructions rest
      { later with actions := action :: later.actions }
  | .fail reason :: _ => { outcome := .failed reason }
  | .panic :: _ => { outcome := .panicked }

/-- The reaction to a message under some rules. -/
def Reaction.ofRules
    (rules : List (Rule α))
    (message : String) :
    Reaction α :=
  match rules.find? (·.text = message) with
  | some rule => ofInstructions rule.instructions
  | none => {}

end LineProtocol
