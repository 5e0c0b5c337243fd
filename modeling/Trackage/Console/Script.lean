import Trackage.Console.Client
import Trackage.Console.Element
import Trackage.Console.Session
import Trackage.Payload.Field

/-!
Scripts of pages. A script shows elements from top to bottom and reads what an operator has put into
them; it may call the service and change the session on its way. It runs to its end, stops early, or
asks to be run again.
-/

namespace Trackage.Console

/-- What an operator has put into the page: values by the keys of their elements, the button that is
pressed, and the methods by which the service cannot be reached. -/
structure Inputs where
  values : Json
  pressed : Option String
  unreachable : List String

/-- What a script works on. -/
structure Visit where
  service : Service
  session : Session
  shown : List Element

/-- Why a script does not run to its end. -/
inductive Interruption where
  | stop
  | rerun
  | fault (fault : Fault)

abbrev Script := ReaderT Inputs (EStateM Interruption Visit)

namespace Script

def stop : Script α := throw .stop

def rerun : Script α := throw .rerun

/-- Goes on with the result of a computation; a fault ends the script. -/
def need (result : Except Fault α) : Script α :=
  match result with
  | .ok value => pure value
  | .error fault => throw (.fault fault)

def present (element : Element) : Script Unit :=
  modify fun visit => { visit with shown := visit.shown ++ [element] }

def presentText (style : TextStyle) (content : String) : Script Unit :=
  present (.text style (.string content))

/-- A line between two parts of a page. -/
def rule : Script Unit := presentText .markdown "---"

def session : Script Session := return (← get).session

def setSession (session : Session) : Script Unit := modify fun visit => { visit with session }

/-- The value of a session that the script relies on. -/
def remembered (key : String) : Script Json := do need ((← session).value key)

def remember (key : String) (value : Json) : Script Unit := do
  setSession ((← session).set key value)

def log (level : LogLevel) (message : Json) : Script Unit := do
  setSession (← need ((← session).log level message))

def logText (message : String) : Script Unit := log .info (.string message)

/-- What an operator has put under a key, or what stands there otherwise. -/
def input (key : String) (usual : Json) : Script Json := do
  return ((← read).values.get? key).getD usual

def textArea (label : String) (usual : Json) : Script Json := do
  let value ← input label usual
  present (.textArea label value)
  return value

def textInput (label usual : String) : Script Json := do
  let value ← input label (.string usual)
  present (.textInput label value)
  return value

/-- A number that starts at nothing below zero; what an operator puts there is not checked. -/
def numberInput (key label : String) (usual : Json) (greatest : Option Int) : Script Json := do
  let value ← input key usual
  present (.numberInput key value label 0 greatest)
  return value

/-- A choice among options. A value that is none of them gives way to the first one. -/
def choose (label : String) (options : List Json) (optionText : Json → String) : Script Json := do
  let first := options.headD .null
  let value ← input label first
  let chosen := if options.any value.alike then value else first
  present (.choice label chosen (options.map optionText))
  return chosen

/-- Whether a button is pressed, which a disabled one never is. -/
def button (label : String) (primary disabled : Bool) : Script Bool := do
  present (.button label primary disabled)
  return (← read).pressed == some label && !disabled

/-- Logs that a call came to nothing. -/
def logFailure (why : String) : Script Unit := log .error (.string s!"API error: {why}")

/-- Sends a call to the service. A fault of the service is a result; a call that cannot be made up
ends the script. -/
def send (errand : Client.Errand) : Script (Except Fault Service.Response) := do
  let call ← need errand.toCall
  let (service, answered) := (← get).service.respond call
  modify fun visit => { visit with service }
  return answered

/-- Calls the service. A call that does not reach it, that is refused, or that is answered with an
error is logged and has no result. -/
def call (errand : Client.Errand) : Script (Option Json) := do
  if (← read).unreachable.contains errand.method.text then
    logFailure ((Fault.unreachable errand.method.text).message?.getD "")
    return none
  match ← send errand with
  | .error _ =>
    logFailure (Client.refusalText 500 errand.path)
    return none
  | .ok response =>
    if Client.leastRefusal ≤ response.status then
      logFailure (Client.refusalText response.status errand.path)
      return none
    match response.body with
    | none =>
      logFailure (Client.noDataText (response.text.getD ""))
      return none
    | some body =>
      let error := body.getD "error"
      if error.truthy then
        log .error error
        return none
      return some body

/-- Calls the service; an answer that holds nothing counts as none. -/
def callFor (errand : Client.Errand) : Script (Option Json) := do
  return (← call errand).filter Json.truthy

end Script

/-- How a run of a script ended. -/
inductive Ending where
  | stop
  | rerun
  | reached
deriving DecidableEq, Repr

/-- What came of running a script. -/
structure Ran where
  endings : List Ending
  visit : Visit
  fault : Option Fault

/-- Runs a script once, on a page where nothing is shown yet. -/
def Script.runOnce (script : Script Unit) (inputs : Inputs) (visit : Visit) :
    Except Fault Ending × Visit :=
  match (script inputs).run { visit with shown := [] } with
  | .ok () visit => (.ok .reached, visit)
  | .error .stop visit => (.ok .stop, visit)
  | .error .rerun visit => (.ok .rerun, visit)
  | .error (.fault fault) visit => (.error fault, visit)

/-- Runs a script, and once more without the pressed button if it asks for that. -/
def Script.run (script : Script Unit) (inputs : Inputs) (visit : Visit) : Ran :=
  match script.runOnce inputs visit with
  | (.error fault, visit) => ⟨[], visit, some fault⟩
  | (.ok .rerun, visit) =>
    match script.runOnce { inputs with pressed := none } visit with
    | (.error fault, visit) => ⟨[.rerun], visit, some fault⟩
    | (.ok ending, visit) => ⟨[.rerun, ending], visit, none⟩
  | (.ok ending, visit) => ⟨[ending], visit, none⟩

end Trackage.Console
