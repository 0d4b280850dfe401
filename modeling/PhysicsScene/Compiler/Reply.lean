import PhysicsScene.Scene.Basic
import PhysicsScene.Failure
import PhysicsScene.Text.Utf8

/-!
# Replies of the compiler

A request ends with a reply, in time or not, or the connection breaks. Only a reply with a status
of success is read: its bytes are a text, in which ill-formed parts are replaced, and the text is
decoded as a scene.
-/

namespace PhysicsScene

/-- How a request to the compiler ended. -/
inductive Reply where
  | received (status : UInt16) (body : List UInt8)
  | timedOut
  | broken (detail : String)

namespace Reply

/-- Whether a status means success. -/
def isSuccess (status : UInt16) : Bool :=
  200 ≤ status && status < 300

/-- The scene that a reply brings; `timeout` is the patience of the client in milliseconds. -/
def scene (reply : Reply) (timeout : UInt64) : Except Failure Scene :=
  match reply with
  | .timedOut => .error (.compileTimeout timeout)
  | .broken detail => .error (.compileTransport detail)
  | .received status body =>
      if isSuccess status then Failure.ofFault (Scene.decode (Utf8.lenient body))
      else .error (.compileStatus status)

end Reply

end PhysicsScene
