import CardTelemetry.Agent.Session
import CardTelemetry.Proofs.Json.Line
import CardTelemetry.Proofs.Metric.Record

/-!
# What is printed as JSON is read back

A list of samples and a report are each one line that is a document, and every sample is found in it
in its place. The help texts of metrics are not written, so they are not found.
-/

namespace CardTelemetry

open Text (Plain)

/-- A text without control characters that is one document. -/
structure IsDocument (line : String) (content : Json.Value → Prop) : Prop where
  plain : Plain line.toList
  read : ∃ v, Json.read line = some v ∧ content v

theorem isDocument_render {j : Json} {content : Json.Value → Prop}
    (h : ∀ v, Json.Denotes j v → content v) : IsDocument j.render content := by
  obtain ⟨v, hread, hv⟩ := j.read_render
  refine ⟨?_, v, hread, h v hv⟩
  rw [Json.render, String.toList_ofList]
  exact j.plain_write

namespace Session

/-- An object of all that a report has, and of nothing else. -/
def ReportRecorded (agent : String) (host : Host) (c : Collection) (v : Json.Value) : Prop :=
  ∃ items,
    v = .object [("agent_id", .text agent), ("collector", .text c.collector),
        ("collected_at", .text host.time), ("latency_us", .number ⟨false, host.latency, 0⟩),
        ("samples", .array items)] ∧
      List.Forall₂ Sample.IsRecorded c.samples items

theorem reportRecorded_of_denotes {agent : String} {host : Host} {c : Collection} {v : Json.Value}
    (h : Json.Denotes (report agent host c) v) : ReportRecorded agent host c v := by
  unfold report at h
  cases h with
  | object h =>
    obtain - | ⟨hagent, - | ⟨hcollector, - | ⟨htime, - | ⟨hlatency, - | ⟨hsamples, - | -⟩⟩⟩⟩⟩ := h
    obtain ⟨-, hagent⟩ := hagent
    obtain ⟨-, hcollector⟩ := hcollector
    obtain ⟨-, htime⟩ := htime
    obtain ⟨-, hlatency⟩ := hlatency
    obtain ⟨-, hsamples⟩ := hsamples
    obtain ⟨items, rfl, hitems⟩ := Sample.recorded_of_denotes_jsonList hsamples
    cases hagent
    cases hcollector
    cases htime
    cases hlatency
    exact ⟨items, rfl, hitems⟩

/-- **Samples and reports are read back from their lines.** A line is one document and has no
control characters. Each sample is in its place, with its name, the last values of its labels by
name and a number that is rounded to its gauge, or null for a gauge that is not finite; a report has
its texts and the latency besides. What a session prints in this format is such a line. -/
theorem lines_read_back (samples : List Sample) (agent : String) (host : Host) (c : Collection)
    (settings : Settings) :
    IsDocument (Sample.jsonList samples).render
        (fun v => ∃ items, v = .array items ∧ List.Forall₂ Sample.IsRecorded samples items) ∧
      IsDocument (report agent host c).render (ReportRecorded agent host c) ∧
      printed { settings with format := .json } host c =
        (report (settings.agentName host.name) host c).render ++ "\n" :=
  ⟨isDocument_render fun _ => Sample.recorded_of_denotes_jsonList,
    isDocument_render fun _ => reportRecorded_of_denotes, rfl⟩

end Session

end CardTelemetry
