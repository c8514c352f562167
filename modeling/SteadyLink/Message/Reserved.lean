import SteadyLink.Message.Envelope
import SteadyLink.Metrics.Category

/-!
# Reserved message types

The message types of the metrics channel that have a meaning of their own.
-/

namespace SteadyLink

def chatMessageKind : String := "chat_message"

def requestMetricsKind : String := "request_metrics"

def pingKind : String := "ping"

def initialMetricsKind : String := "initial_metrics"

def metricsUpdateKind : String := "metrics_update"

namespace Envelope

/-- A chat message. Its text is trimmed and must not be blank. -/
def chat (text : String) : Except ClientError Envelope :=
  let text := Text.trim text
  if text.isEmpty then .error .emptyMessage
  else .ok ⟨chatMessageKind, .obj [("text", .str text)], none, by decide⟩

/-- The request for a group of metrics. The server looks for the group beside the type, so it is
always flattened. -/
def requestMetrics (category : MetricsCategory) : Envelope :=
  ⟨requestMetricsKind, .obj [("category", .str category.name)], some .flattened, by decide⟩

/-- The command that a heartbeat writes. -/
def ping : Envelope := ⟨pingKind, .null, none, by decide⟩

end Envelope

end SteadyLink
