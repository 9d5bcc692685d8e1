/-
Module: SakalaAgent.Core.Commands.Payloads
Layer: Core
Purpose: The payload of a command read as the one of its type.
Trusted boundary: the texts of decoding errors are a parameter.
Main exports: PayloadDecoder.wire
-/
import SakalaAgent.Core.Commands.Dispatcher
import SakalaAgent.Protocol.Wire

namespace SakalaAgent

/-- `deploy_payload` and its like, with the text of an error. -/
def PayloadDecoder.wire (render : DecodeError → String) : PayloadDecoder where
  deploy payload := (Wire.deployProjectPayload.decode payload).mapError render
  inspect payload := (Wire.inspectProjectPayload.decode payload).mapError render
  reconcileWorkload payload := (Wire.reconcileWorkloadPayload.decode payload).mapError render
  cleanupRuntime payload := (Wire.cleanupRuntimePayload.decode payload).mapError render

end SakalaAgent
