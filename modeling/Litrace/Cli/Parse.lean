import Litrace.Lib.Loop
import Litrace.Syscalls
import Mathlib.Data.Finset.Lattice.Basic

/-!
# Lists on the command line

`parse.go`: what is read from the items of `-e`, `--trace` and `-p`.  An item is a list
separated by commas.  Each parser goes through its items, and through the list of each, and
stops at the first part it does not accept.

The errors are data and their texts a function of them (`ParseError.message`), so that a
text can be compared with the source and a proof need not look at it.  A loop of the source
is a `foldlM` in `Except`, which leaves at the first error as the loop does; what such
loops do in general is in `Litrace.Lib.Loop`.
-/

namespace Litrace.Cli

open GoString (ascii)
open Loop Strconv

/-! ## Errors -/

/-- The flags that select syscalls, `-e` and `--trace`. -/
inductive TraceFlag where
  | expression
  | selector
  deriving DecidableEq

/-- What an item of the flag is called. -/
def TraceFlag.item : TraceFlag → GoString
  | .expression => ascii "-e expression"
  | .selector => ascii "--trace selector"

/-- What its lists are called. -/
def TraceFlag.list : TraceFlag → GoString
  | .expression => ascii "-e trace selector"
  | .selector => ascii "--trace selector"

/-- The errors of the parsers, with the part they name. -/
inductive ParseError where
  | expectedTrace (expression : GoString)
  | emptySelector (flag : TraceFlag) (item : GoString)
  | emptySyscallName (flag : TraceFlag) (item : GoString)
  | unknownSyscall (flag : TraceFlag) (syscallName : GoString)
  | emptyPIDList (expression : GoString)
  | emptyPID (expression : GoString)
  | invalidPID (token : GoString)
  deriving DecidableEq

/-- The text of an error; `quote` is `%q`. -/
def ParseError.message (quote : GoString → GoString) : ParseError → GoString
  | .expectedTrace expression =>
      ascii "invalid -e expression " ++ quote expression ++
        ascii ": expected trace=<syscall[,syscall...]>"
  | .emptySelector flag item =>
      ascii "invalid " ++ flag.item ++ ascii " " ++ quote item ++ ascii ": empty trace selector"
  | .emptySyscallName flag item =>
      ascii "invalid " ++ flag.item ++ ascii " " ++ quote item ++ ascii ": empty syscall name"
  | .unknownSyscall flag syscallName =>
      ascii "unknown syscall " ++ quote syscallName ++ ascii " in " ++ flag.list
  | .emptyPIDList expression =>
      ascii "invalid -p expression " ++ quote expression ++ ascii ": empty PID list"
  | .emptyPID expression =>
      ascii "invalid -p expression " ++ quote expression ++ ascii ": empty PID"
  | .invalidPID token => ascii "invalid -p PID " ++ quote token

/-! ## Selected syscalls -/

/-- `,`. -/
def comma : UInt8 := 44

/-- `trace=`, which may stand before the list of a `-e` item. -/
def traceLabel : GoString := ascii "trace="

/-- The list of a `-e` item. -/
def selectorOf (expression : GoString) : Except ParseError GoString :=
  if traceLabel <+: expression then .ok (expression.drop traceLabel.length)
  else if 61 ∈ expression then .error (.expectedTrace expression)
  else .ok expression

/-- One round of the loop over a list of names. -/
def addSyscall (flag : TraceFlag) (item : GoString) (ids : Finset Int64)
    (syscallName : GoString) : Except ParseError (Finset Int64) :=
  if syscallName = [] then .error (.emptySyscallName flag item)
  else
    match Syscalls.id syscallName with
    | none => .error (.unknownSyscall flag syscallName)
    | some id => .ok (insert id ids)

/-- The ids of a list are added. -/
def addSelector (flag : TraceFlag) (item selector : GoString) (ids : Finset Int64) :
    Except ParseError (Finset Int64) :=
  if selector = [] then .error (.emptySelector flag item)
  else (selector.splitOn comma).foldlM (addSyscall flag item) ids

/-- One round of the loop over `-e` items. -/
def addExpression (ids : Finset Int64) (expression : GoString) :
    Except ParseError (Finset Int64) := do
  addSelector .expression expression (← selectorOf expression) ids

/-- `parseTraceExpressions`. -/
def parseTraceExpressions (expressions : List GoString) : Except ParseError (Finset Int64) :=
  expressions.foldlM addExpression ∅

/-- `parseTraceSelectors`. -/
def parseTraceSelectors (selectors : List GoString) : Except ParseError (Finset Int64) :=
  selectors.foldlM (fun ids selector => addSelector .selector selector selector ids) ∅

/-- `parseTraceIDs`. -/
def parseTraceIDs (expressions selectors : List GoString) :
    Except ParseError (Finset Int64) := do
  let ids ← parseTraceExpressions expressions
  let selectorIDs ← parseTraceSelectors selectors
  return ids ∪ selectorIDs

/-! ## Attached processes -/

/-- One round of the loop over a list of PIDs. -/
def addPID (expression : GoString) (pids : Distinct Int64) (token : GoString) :
    Except ParseError (Distinct Int64) :=
  if token = [] then .error (.emptyPID expression)
  else
    match atoi token with
    | none => .error (.invalidPID token)
    | some pid => if pid ≤ 0 then .error (.invalidPID token) else .ok (pids.add pid)

/-- One round of the loop over `-p` items. -/
def addAttachExpression (pids : Distinct Int64) (expression : GoString) :
    Except ParseError (Distinct Int64) :=
  if expression = [] then .error (.emptyPIDList expression)
  else (expression.splitOn comma).foldlM (addPID expression) pids

/-- `parseAttachExpressions`. -/
def parseAttachExpressions (expressions : List GoString) : Except ParseError (List Int64) := do
  let pids ← expressions.foldlM addAttachExpression .empty
  return pids.items

example : parseAttachExpressions [ascii "42,84", ascii "84", ascii "126"] = .ok [42, 84, 126] := by
  decide

end Litrace.Cli
