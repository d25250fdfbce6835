import CardTelemetry.Main
import CardTelemetry.Proofs.Job.Outcome
import CardTelemetry.Proofs.Card.Survey
import CardTelemetry.Proofs.Text.Numeral
import CardTelemetry.Proofs.Text.Order
import CardTelemetry.Proofs.Sysfs.Listing
import CardTelemetry.Proofs.Sysfs.Reading
import CardTelemetry.Proofs.Card.Samples
import CardTelemetry.Proofs.Sysfs.Agreement
import CardTelemetry.Proofs.Sysfs.Series
import CardTelemetry.Proofs.Json.Line
import CardTelemetry.Proofs.Agent.Registry
import CardTelemetry.Proofs.Settings.Environment
import CardTelemetry.Proofs.Settings.RoundTrip
import CardTelemetry.Proofs.Settings.Layers
import CardTelemetry.Proofs.Agent.Once
import CardTelemetry.Proofs.Agent.Report
import CardTelemetry.Proofs.Text.Ascii
import CardTelemetry.Proofs.Files.Path
import CardTelemetry.Proofs.Job.Failure
import CardTelemetry.Proofs.Sysfs.Attribute
import CardTelemetry.Proofs.Sysfs.Place
import CardTelemetry.Proofs.Sysfs.Failure
import CardTelemetry.Proofs.Agent.Order
import CardTelemetry.Proofs.Sysfs.Record
import CardTelemetry.Proofs.Sysfs.FreeText
import CardTelemetry.Proofs.Sysfs.Gauge
import CardTelemetry.Proofs.Sysfs.Independence
import CardTelemetry.Proofs.Metric.Families
import CardTelemetry.Proofs.Metric.ReadBack
import CardTelemetry.Proofs.Card.Exposition
import CardTelemetry.Proofs.Agent.Deadline
import CardTelemetry.Proofs.Binary64.Texts
import CardTelemetry.Proofs.Binary64.Whole
import CardTelemetry.Proofs.Metric.Grouping
import CardTelemetry.Proofs.Metric.Labels
import CardTelemetry.Proofs.Files.LastName
import CardTelemetry.Proofs.Sysfs.Connectors
import CardTelemetry.Proofs.Sysfs.Driver
import CardTelemetry.Proofs.Sysfs.Number
