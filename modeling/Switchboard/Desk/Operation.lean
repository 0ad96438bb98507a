import Switchboard.Console.Resolve
import Switchboard.Desk.Report

/-!
# Operations on the desk

Everything that a desk is asked to do during a connection is a report, an intent or a command. Each
is applied to completion before the next one.
-/

namespace Switchboard

inductive Operation where
  | report (r : Wire.Report)
  | intent (i : Intent)
  | command (c : Command)
deriving DecidableEq, Repr

namespace Desk

def handle : Operation → Step
  | .report r => handleReport r
  | .intent i => handleIntent i
  | .command c => handleCommand c

def run (d : Desk) (ops : List Operation) : Desk × List Effect := d.perform (ops.map handle)

def after (d : Desk) (ops : List Operation) : Desk := (d.run ops).1

@[simp]
theorem run_nil (d : Desk) : d.run [] = (d, []) := rfl

theorem run_cons (d : Desk) (op : Operation) (ops : List Operation) :
    d.run (op :: ops) =
      (((handle op d).1.run ops).1, (handle op d).2 ++ ((handle op d).1.run ops).2) := rfl

theorem run_append (d : Desk) (ops more : List Operation) :
    d.run (ops ++ more) =
      (((d.run ops).1.run more).1, (d.run ops).2 ++ ((d.run ops).1.run more).2) := by
  simp [run, perform_append]

end Desk

end Switchboard
