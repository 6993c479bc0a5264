import PolicyServer.Rpc.Frame

/-! The inbound side of a connection: bytes as they come, messages as soon as they are whole. -/

namespace PolicyServer.Rpc

/-- Bytes received and not yet read, whether more can come, and how reading ended. -/
structure Intake where
  buffer : Bytes := []
  ended : Bool := false
  ending : Option Ending := none

/-- What reading brings: a message, or the end of reading. -/
inductive Arrival where
  | message (message : Message)
  | last (ending : Ending)

namespace Intake

def feed (intake : Intake) (chunk : Bytes) : Intake :=
  { intake with buffer := intake.buffer ++ chunk }

def finish (intake : Intake) : Intake := { intake with ended := true }

/-- Reading stops here, and what is left is never read. -/
def stop (intake : Intake) (ending : Ending) : Arrival × Intake :=
  (.last ending, { intake with ending := some ending })

/-- What the bytes at hand bring, if they bring anything yet. The first frame that is none, or whose
body is no message, ends reading. -/
def next? (intake : Intake) : Option (Arrival × Intake) :=
  match intake.ending with
  | some _ => none
  | none =>
    match Frame.next intake.ended intake.buffer with
    | .waiting => none
    | .ended => some (intake.stop (.ok ()))
    | .failed error => some (intake.stop (.error error))
    | .frame body _ rest =>
      match Message.decode body with
      | .ok message => some (.message message, { intake with buffer := rest })
      | .error error => some (intake.stop (.error (.undecodable error)))

/-- All that the bytes at hand bring, at most `limit` arrivals. -/
def take : Nat → Intake → List Arrival × Intake
  | 0, intake => ([], intake)
  | limit + 1, intake =>
    match intake.next? with
    | none => ([], intake)
    | some (arrival, later) =>
      let (arrivals, last) := take limit later
      (arrival :: arrivals, last)

/-- All that the bytes at hand bring. A frame takes a byte at least, and the end of reading comes
once. -/
def drain (intake : Intake) : List Arrival × Intake := intake.take (intake.buffer.length + 1)

end Intake

end PolicyServer.Rpc
