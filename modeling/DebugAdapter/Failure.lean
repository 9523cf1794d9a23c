import DebugAdapter.Net.Endpoint
import DebugAdapter.Script.Debuggee

/-!
# Failures

Everything that can go wrong in a call of the adapter, with its text and the
number under which a client sees it.
-/

namespace DebugAdapter

-- Numbers of failures in error responses.
namespace ErrorId

def notAttached : Int := 1
def unrecognizedRequest : Int := 1014
def badPathFormat : Int := 1015
def noSource : Int := 1020
def notInitialized : Int := 1100
def requestFailed : Int := 1104
def sessionTerminated : Int := 1105
def requestCancelled : Int := 1200
def invalidHandle : Int := 1201
def noException : Int := 2020
def malformedSource : Int := 3010
def evaluationFailed : Int := 3014
def missingExpression : Int := 3020

end ErrorId

inductive Failure where
  | alreadyAttached (id : TargetId) (name : String)
  | notAttached (id : TargetId)
  | alreadyStarted
  | disposed
  /-- A listener could not be bound; the cause is the system's text. -/
  | bind (endpoint : Endpoint) (cause : String)
  | io (cause : String)
  | config (reason : String)
  | invalidHandle (handle : Int)
  /-- A failure that is sent to a client under a number of its own. -/
  | protocol (id : Int) (message : String)
  deriving Repr, DecidableEq

namespace Failure

def idText (id : TargetId) : String := "#" ++ Decimal.digitsText id

def message : Failure → String
  | .alreadyAttached id name =>
    "target `" ++ name ++ "` (" ++ idText id ++ ") already attached to this debug server"
  | .notAttached id => "target " ++ idText id ++ " is not attached to this debug server"
  | .alreadyStarted => "debug server has already been started"
  | .disposed => "debug server has been disposed"
  | .bind endpoint cause => "bind " ++ endpoint.text ++ ": " ++ cause
  | .io cause => cause
  | .config reason => "configuration: " ++ reason
  | .invalidHandle handle => "invalid variables reference " ++ Value.intText handle
  | .protocol _ message => message

/-- The number a client sees. -/
def errorId : Failure → Int
  | .protocol id _ => id
  | .invalidHandle _ => ErrorId.invalidHandle
  | .notAttached _ => ErrorId.notAttached
  | _ => ErrorId.requestFailed

end Failure

end DebugAdapter
