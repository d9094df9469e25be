import MicroOpcua.Spec.Sessions
import MicroOpcua.Spec.Output
import MicroOpcua.Spec.Input
import MicroOpcua.Spec.Codec
import MicroOpcua.Spec.Answers
import MicroOpcua.Spec.PublishQueue
import MicroOpcua.Spec.Triggering
import MicroOpcua.Spec.Requests
import MicroOpcua.Spec.Events
import MicroOpcua.Spec.Query
import MicroOpcua.Spec.SessionTable
import MicroOpcua.Spec.Limits
import MicroOpcua.Spec.Nonces
import MicroOpcua.Spec.Chunks
import MicroOpcua.Spec.Closing
import MicroOpcua.Spec.Handles
import MicroOpcua.Spec.Timers
import MicroOpcua.Spec.Aggregates
import MicroOpcua.Spec.EventItems
import MicroOpcua.Spec.ItemTargets
import MicroOpcua.Spec.SelectClauses
import MicroOpcua.Spec.Alarms
import MicroOpcua.Spec.Sequence
