import CardTelemetry.Agent.Program
import CardTelemetry.Files.Tree
import CardTelemetry.Proofs.Agent.Registry
import CardTelemetry.Proofs.Card.Exposition
import CardTelemetry.Proofs.Json.Line
import CardTelemetry.Proofs.Settings.Environment
import CardTelemetry.Proofs.Sysfs.Reading
import Mathlib

/-!
# Runs that end after one round

A run with `--once` either succeeds and prints all samples of the survey, or fails and prints
nothing. Reading a tree takes no time in these jobs, so a deadline is never missed here; what
happens to a source that waits is not considered.
-/

namespace CardTelemetry

open Files (Path View)
open Collector (survey)

/-- A collector that takes no time keeps every deadline. -/
theorem outcome_collectWithin {g : Gatherer} (h : g.collect.elapsed = 0) (timeout : Span) :
    (g.collectWithin timeout).outcome =
      g.collect.outcome.map fun samples => ⟨g.name, samples⟩ := by
  have hwithin : Job.within timeout.millis g.collect = g.collect := by
    rw [Job.within, if_pos (by omega)]
  rw [Gatherer.collectWithin, hwithin, Job.outcome_andThen]
  cases g.collect.outcome <;> rfl

theorem Sysfs.elapsed_collect (v : View) (root : Path) :
    (Collector.collect (source v root)).elapsed = 0 := by
  obtain ⟨hcards, hstats⟩ := allSteps_source v root
  exact Collector.elapsed_collect (hcards.mono fun _ => IsAttributeNote.millis_eq_zero)
    (hstats.mono fun _ => IsAttributeNote.millis_eq_zero)

/-- The card collector over a tree finds what a survey of it does. -/
theorem Sysfs.outcome_collectWithin_source (v : View) (root : Path) (timeout : Span) :
    ((Gatherer.ofSource (source v root)).collectWithin timeout).outcome =
      (survey (source v root)).outcome.map fun samples => ⟨Collector.name, samples⟩ := by
  rw [outcome_collectWithin (elapsed_collect v root)]
  change (Collector.collect (source v root)).outcome.map _ = _
  rw [Collector.outcome_collect]
  rfl

namespace Session

variable {settings : Settings} {v : View}

/-- The source that a session's card collector reads. -/
def sourceOf (settings : Settings) (v : View) : Source :=
  Sysfs.source v (Path.ofString settings.sysPath)

theorem outcome_gatherer (settings : Settings) (v : View) (timeout : Span) :
    ((Gatherer.ofSource (sourceOf settings v)).collectWithin timeout).outcome =
      (survey (sourceOf settings v)).outcome.map fun samples => ⟨Collector.name, samples⟩ :=
  Sysfs.outcome_collectWithin_source v _ timeout

theorem gatherers_eq_ok_iff {gs : List Gatherer} :
    gatherers settings v = .ok gs ↔ (Registry.assemble settings v).outcome = .ok gs ∧ gs ≠ [] := by
  unfold gatherers
  split
  · rename_i f h
    simp [h]
  · rename_i h
    rw [h]
    simp only [reduceCtorEq, Except.ok.injEq, false_iff, not_and, not_not]
    exact fun h => h.symm
  · rename_i gs' hne h
    rw [h, Except.ok.injEq]
    constructor
    · rintro rfl
      exact ⟨rfl, hne⟩
    · exact fun h => Except.ok.inj h.1

/-- A session with a collector runs the card collector and no other. -/
theorem run_of_gatherers (host : Host) {gs : List Gatherer} (h : gatherers settings v = .ok gs) :
    (Session.run settings host v).output =
        (runOne settings host (.ofSource (sourceOf settings v))).output ∧
      (Session.run settings host v).failure =
        (if (runOne settings host (.ofSource (sourceOf settings v))).failures = 0 then none
          else some
            (.failed (runOne settings host (.ofSource (sourceOf settings v))).failures)) := by
  obtain ⟨hbuilt, hne⟩ := gatherers_eq_ok_iff.mp h
  have hgs : gs = [.ofSource (sourceOf settings v)] :=
    (Registry.assembled_eq hbuilt).resolve_left hne
  subst hgs
  simp [Session.run, h, runAll]

theorem run_of_no_gatherers (host : Host) {f : Failure} (h : gatherers settings v = .error f) :
    (Session.run settings host v).output = "" ∧
      (Session.run settings host v).failure = some f := by
  simp [Session.run, h]

theorem run_of_survey (host : Host) {gs : List Gatherer} {samples : List Sample}
    (h : gatherers settings v = .ok gs)
    (hsurvey : (survey (sourceOf settings v)).outcome = .ok samples) :
    (Session.run settings host v).output = printed settings host ⟨Collector.name, samples⟩ ∧
      (Session.run settings host v).failure = none := by
  have hone : (runOne settings host (.ofSource (sourceOf settings v))).output =
        printed settings host ⟨Collector.name, samples⟩ ∧
      (runOne settings host (.ofSource (sourceOf settings v))).failures = 0 := by
    simp [runOne, outcome_gatherer, hsurvey, Except.map]
  obtain ⟨houtput, hfailure⟩ := run_of_gatherers host h
  rw [houtput, hfailure, hone.1, hone.2]
  exact ⟨rfl, rfl⟩

theorem run_of_survey_error (host : Host) {gs : List Gatherer} {f : Fault}
    (h : gatherers settings v = .ok gs)
    (hsurvey : (survey (sourceOf settings v)).outcome = .error f) :
    (Session.run settings host v).output = "" ∧
      (Session.run settings host v).failure = some (.failed 1) := by
  have hone : (runOne settings host (.ofSource (sourceOf settings v))).output = "" ∧
      (runOne settings host (.ofSource (sourceOf settings v))).failures = 1 := by
    simp [runOne, outcome_gatherer, hsurvey, Except.map]
  obtain ⟨houtput, hfailure⟩ := run_of_gatherers host h
  rw [houtput, hfailure, hone.1, hone.2]
  exact ⟨rfl, rfl⟩

/-- A session succeeds exactly when there is a collector and the survey succeeds, and prints
nothing otherwise. -/
theorem run_success_iff (settings : Settings) (host : Host) (v : View) :
    ((Session.run settings host v).failure = none ↔
        (∃ gs, (Registry.assemble settings v).outcome = .ok gs ∧ gs ≠ []) ∧
          ∃ samples, (survey (sourceOf settings v)).outcome = .ok samples) ∧
      ((Session.run settings host v).failure = none → ∀ samples,
        (survey (sourceOf settings v)).outcome = .ok samples →
          (Session.run settings host v).output =
            printed settings host ⟨Collector.name, samples⟩) ∧
      ((Session.run settings host v).failure ≠ none →
        (Session.run settings host v).output = "") := by
  cases hgs : gatherers settings v with
  | error f =>
    obtain ⟨houtput, hfailure⟩ := run_of_no_gatherers host hgs
    have hnone : ¬∃ gs, (Registry.assemble settings v).outcome = .ok gs ∧ gs ≠ [] := by
      rintro ⟨gs, h⟩
      rw [gatherers_eq_ok_iff.mpr h] at hgs
      cases hgs
    simp [houtput, hfailure, hnone]
  | ok gs =>
    have hsome : ∃ gs, (Registry.assemble settings v).outcome = .ok gs ∧ gs ≠ [] :=
      ⟨gs, gatherers_eq_ok_iff.mp hgs⟩
    cases hsurvey : (survey (sourceOf settings v)).outcome with
    | error f =>
      obtain ⟨houtput, hfailure⟩ := run_of_survey_error host hgs hsurvey
      simp [houtput, hfailure]
    | ok samples =>
      obtain ⟨houtput, hfailure⟩ := run_of_survey host hgs hsurvey
      simp [houtput, hfailure, hsome]

end Session

namespace Program

variable {arguments : List String} {env : Environment} {host : Host} {v : View}
  {settings : Settings}

/-- The line of a report: what it carries, and in which order. -/
def reportLine (agent : String) (host : Host) (samples : List Sample) : String :=
  (Json.object [("agent_id", .text agent), ("collector", .text Collector.name),
    ("collected_at", .text host.time), ("latency_us", .natural host.latency),
    ("samples", .array (samples.map Sample.json))]).render

theorem run_of_once (hread : Settings.read arguments env = .ok settings)
    (honce : settings.once = true) :
    run arguments env host v =
      .ended (conclude settings env host (Session.run settings host v)) := by
  simp [run, hread, honce]

theorem output_conclude (settings : Settings) (env : Environment) (host : Host) (s : Session) :
    (conclude settings env host s).output = s.output := by
  unfold conclude
  cases s.failure <;> rfl

theorem exit_conclude (settings : Settings) (env : Environment) (host : Host) (s : Session) :
    (conclude settings env host s).exit = if s.failure = none then 0 else 1 := by
  unfold conclude
  cases s.failure <;> rfl

theorem exit_conclude_eq_zero_iff (settings : Settings) (env : Environment) (host : Host)
    (s : Session) : (conclude settings env host s).exit = 0 ↔ s.failure = none := by
  rw [exit_conclude]
  by_cases h : s.failure = none
  · rw [if_pos h]
    exact iff_of_true rfl h
  · rw [if_neg h]
    exact iff_of_false Nat.one_ne_zero h

theorem printed_eq (settings : Settings) (host : Host) (samples : List Sample) :
    Session.printed settings host ⟨Collector.name, samples⟩ =
      match settings.format with
      | .text => expose samples
      | .json => reportLine (settings.agentId.getD host.name) host samples ++ "\n" := rfl

/-- Two outputs are the same, or the same report with the readings of different clocks. -/
def SameButClock (host host' : Host) (output output' : String) : Prop :=
  output' = output ∨ ∃ agent samples,
    output = reportLine agent host samples ++ "\n" ∧
      output' = reportLine agent host' samples ++ "\n"

theorem sameButClock_printed {host host' : Host} (hname : host'.name = host.name)
    (settings : Settings) (samples : List Sample) :
    SameButClock host host' (Session.printed settings host ⟨Collector.name, samples⟩)
      (Session.printed settings host' ⟨Collector.name, samples⟩) := by
  rw [printed_eq, printed_eq, hname]
  cases settings.format with
  | text => exact .inl rfl
  | json => exact .inr ⟨_, samples, rfl, rfl⟩

/-- Two runs whose settings differ only in how events are logged print the same and exit alike. -/
theorem run_of_jsonLogs {host' : Host} (hname : host'.name = host.name) {arguments' : List String}
    {env' : Environment} {b : Bool}
    (hread : Settings.read arguments' env' = .ok { settings with jsonLogs := b })
    (honce : settings.once = true) :
    ∃ outcome', run arguments' env' host' v = .ended outcome' ∧
      outcome'.exit = (conclude settings env host (Session.run settings host v)).exit ∧
      SameButClock host host' (conclude settings env host (Session.run settings host v)).output
        outcome'.output := by
  obtain ⟨hsuccess, hprinted, hfailed⟩ := Session.run_success_iff settings host v
  obtain ⟨hsuccess', hprinted', hfailed'⟩ :=
    Session.run_success_iff { settings with jsonLogs := b } host' v
  -- neither condition mentions the log or the clock
  have hiff : (Session.run { settings with jsonLogs := b } host' v).failure = none ↔
      (Session.run settings host v).failure = none := hsuccess'.trans hsuccess.symm
  refine ⟨_, run_of_once hread honce, ?_, ?_⟩
  · simp only [exit_conclude, hiff]
  · rw [output_conclude, output_conclude]
    by_cases h : (Session.run settings host v).failure = none
    · obtain ⟨-, samples, hsurvey⟩ := hsuccess.mp h
      rw [hprinted h samples hsurvey, hprinted' (hiff.mpr h) samples hsurvey]
      exact sameButClock_printed hname settings samples
    · rw [hfailed h, hfailed' (hiff.not.mpr h)]
      exact .inl rfl

/-- **A run that ends after one round is all or nothing.** It exits with 0 exactly when there is a
collector and the survey succeeds, and has then printed all samples, as exposition text or as one
line that begins with the agent's id, or its host's name if it is given none; otherwise it exits
with 1 and has printed nothing. Neither the log filter nor the form of the
log changes the exit code or, but for the clock, what is printed. -/
theorem run_once (hread : Settings.read arguments env = .ok settings)
    (honce : settings.once = true) :
    ∃ outcome, run arguments env host v = .ended outcome ∧
      (outcome.exit = 0 ↔
        (∃ gs, (Registry.assemble settings v).outcome = .ok gs ∧ gs ≠ []) ∧
          ∃ samples,
            (survey (Sysfs.source v (Path.ofString settings.sysPath))).outcome = .ok samples) ∧
      (outcome.exit = 0 → ∀ samples,
        (survey (Sysfs.source v (Path.ofString settings.sysPath))).outcome = .ok samples →
          match settings.format with
          | .text => outcome.output = expose samples
          | .json =>
            outcome.output = reportLine (settings.agentId.getD host.name) host samples ++ "\n" ∧
              '\n' ∉ (reportLine (settings.agentId.getD host.name) host samples).toList) ∧
      (outcome.exit ≠ 0 → outcome.exit = 1 ∧ outcome.output = "") ∧
      (∀ arguments' env' host' b, host'.name = host.name →
        Settings.read arguments' env' = .ok { settings with jsonLogs := b } →
        ∃ outcome', run arguments' env' host' v = .ended outcome' ∧
          outcome'.exit = outcome.exit ∧
          SameButClock host host' outcome.output outcome'.output) ∧
      ∀ (env' : Environment) (host' : Host), host'.name = host.name →
        (∀ name ≠ filterVariable, env'.lookup name = env.lookup name) →
        ∃ outcome', run arguments env' host' v = .ended outcome' ∧
          outcome'.exit = outcome.exit ∧
          SameButClock host host' outcome.output outcome'.output := by
  obtain ⟨hsuccess, hprinted, hfailed⟩ := Session.run_success_iff settings host v
  have hzero : (conclude settings env host (Session.run settings host v)).exit = 0 ↔
      (Session.run settings host v).failure = none :=
    exit_conclude_eq_zero_iff settings env host _
  refine ⟨_, run_of_once hread honce, ?_, ?_, ?_, ?_, ?_⟩
  · rw [hzero]
    exact hsuccess
  · intro hexit samples hsurvey
    have houtput := hprinted (hzero.mp hexit) samples hsurvey
    rw [output_conclude, houtput, printed_eq]
    cases settings.format with
    | text => rfl
    | json => exact ⟨rfl, Json.newline_not_mem_render _⟩
  · intro hexit
    rw [Ne, hzero] at hexit
    rw [exit_conclude, output_conclude, if_neg hexit]
    exact ⟨rfl, hfailed hexit⟩
  · intro arguments' env' host' b hname hread'
    exact run_of_jsonLogs hname hread' honce
  · intro env' host' hname henv
    have hread' : Settings.read arguments env' =
        .ok { settings with jsonLogs := settings.jsonLogs } := by
      rw [Settings.read_congr arguments henv, hread]
    exact run_of_jsonLogs hname hread' honce

/-- A tree with a card and nothing known of it. -/
def bareTree : Files.Tree where
  nodes :=
    [(["class"].map Path.ofString, .directory),
      (["class", "drm"].map Path.ofString, .directory),
      (["class", "drm", "card0"].map Path.ofString, .directory)]
  distinct := by decide

/-- The text of a metric of that card, with its labels and its value. -/
def bareBlock (name help labels value : String) : String :=
  "# HELP node_drm_" ++ name ++ " " ++ help ++ "\n" ++
    "# TYPE node_drm_" ++ name ++ " gauge\n" ++
    "node_drm_" ++ name ++ "\x7b" ++ labels ++ "\x7d " ++ value ++ "\n"

def bareGauge (name help : String) : String := bareBlock name help "card=\"card0\"" "0"

/-- The samples of that card as text, metric by metric. Of connectors there is nothing. -/
def bareBlocks : List String :=
  [bareGauge "card_enable" "Indicates on whether the card is enabled (1) or disabled (0)",
    "", "", "",
    bareBlock "card_card_info" "Card information"
      ("card=\"card0\",driver=\"\",memory_vendor=\"\",power_performance_level=\"\"," ++
        "unique_id=\"\",vendor=\"amd\"") "1",
    bareGauge "gpu_busy_percent" "How busy the GPU is as a percentage.",
    bareGauge "memory_gtt_size_bytes"
      "The size of the graphics translation table (GTT) block in bytes.",
    bareGauge "memory_gtt_used_bytes"
      "The used amount of the graphics translation table (GTT) block in bytes.",
    bareGauge "memory_vram_size_bytes" "The size of VRAM in bytes.",
    bareGauge "memory_vram_used_bytes" "The used amount of VRAM in bytes.",
    bareGauge "memory_vis_vram_size_bytes" "The size of visible VRAM in bytes.",
    bareGauge "memory_vis_vram_used_bytes" "The used amount of visible VRAM in bytes."]

def bareText : String := bareBlocks.foldr (· ++ ·) ""

theorem expose_bareTree :
    expose (Collector.surveySamples [⟨"card0", "", false, []⟩] [.nameOnly "card0"]) =
      bareText := by
  have hblocks : (Collector.rows [⟨"card0", "", false, []⟩] [.nameOnly "card0"]).map
      (fun r => String.ofList (Exposition.block r.1 r.2)) = bareBlocks := by decide +kernel
  rw [expose, Collector.write_surveySamples, bareText, ← hblocks]
  induction Collector.rows _ _ with
  | nil => rfl
  | cons r rest ih =>
    rw [List.flatMap_cons, String.ofList_append, ih]
    rfl

/-- A sample of that card in JSON. -/
def bareSample (name : String) : String :=
  "\x7b\"name\":\"node_drm_" ++ name ++
    "\",\"labels\":\x7b\"card\":\"card0\"\x7d,\"value\":0.0\x7d"

def bareInfo : String :=
  "\x7b\"name\":\"node_drm_card_card_info\",\"labels\":\x7b\"card\":\"card0\",\"driver\":\"\"," ++
    "\"memory_vendor\":\"\",\"power_performance_level\":\"\",\"unique_id\":\"\"," ++
    "\"vendor\":\"amd\"\x7d,\"value\":1.0\x7d"

/-- The samples of that card in JSON, in their order. -/
def bareSamples : List String :=
  bareSample "card_enable" :: bareInfo ::
    ["gpu_busy_percent", "memory_gtt_size_bytes", "memory_gtt_used_bytes",
      "memory_vram_size_bytes", "memory_vram_used_bytes", "memory_vis_vram_size_bytes",
      "memory_vis_vram_used_bytes"].map bareSample

/-- The report of that card from an agent. -/
def bareReport (agent : String) : String :=
  "\x7b" ++ ",".intercalate
    ["\"agent_id\":\"" ++ agent ++ "\"", "\"collector\":\"drm\"", "\"collected_at\":\"now\"",
      "\"latency_us\":7", "\"samples\":[" ++ ",".intercalate bareSamples ++ "]"] ++ "\x7d\n"

theorem reportLine_bareTree {agent : String}
    (hagent : Json.renderMember ("agent_id", .text agent) = "\"agent_id\":\"" ++ agent ++ "\"") :
    reportLine agent ⟨"here", "now", 7⟩
        (Collector.surveySamples [⟨"card0", "", false, []⟩] [.nameOnly "card0"]) ++ "\n" =
      bareReport agent := by
  have hsamples : (Collector.surveySamples [⟨"card0", "", false, []⟩] [.nameOnly "card0"]).map
      (fun s => s.json.render) = bareSamples := by decide +kernel
  have hcollector : Json.renderMember ("collector", .text Collector.name) =
      "\"collector\":\"drm\"" := by decide +kernel
  have htime : Json.renderMember ("collected_at", .text "now") =
      "\"collected_at\":\"now\"" := by decide +kernel
  have hlatency : Json.renderMember ("latency_us", .natural 7) = "\"latency_us\":7" := by
    decide +kernel
  have hkey : String.ofList (Json.quote "samples") = "\"samples\"" := by decide +kernel
  have harray : Json.renderMember ("samples", .array ((Collector.surveySamples
      [⟨"card0", "", false, []⟩] [.nameOnly "card0"]).map Sample.json)) =
        "\"samples\":[" ++ ",".intercalate bareSamples ++ "]" := by
    rw [Json.renderMember, hkey, Json.render_array, List.map_map, ← hsamples]
    simp only [← String.append_assoc]
    rfl
  rw [reportLine, Json.render_object, bareReport]
  simp only [List.map_cons, List.map_nil, hagent, hcollector, htime, hlatency, harray,
    String.append_assoc]
  rfl

theorem survey_bareTree : (survey (Sysfs.source bareTree.view (Path.ofString "/"))).outcome =
    .ok (Collector.surveySamples [⟨"card0", "", false, []⟩] [.nameOnly "card0"]) := by
  cbv

/-- Exposition text, and reports in JSON with an id that is given and with the host's name. -/
theorem run_once_bareTree :
    (∃ outcome,
      run ["--once", "--sys-path=/"] [] ⟨"here", "now", 7⟩ bareTree.view = .ended outcome ∧
      outcome.exit = 0 ∧ outcome.output = bareText) ∧
      (∃ outcome,
        run ["--once", "--sys-path=/", "--format=json", "--agent-id=gpu-7"] []
          ⟨"here", "now", 7⟩ bareTree.view = .ended outcome ∧
        outcome.exit = 0 ∧ outcome.output = bareReport "gpu-7") ∧
      ∃ outcome,
        run ["--once", "--sys-path=/", "--format=json"] [] ⟨"here", "now", 7⟩ bareTree.view =
          .ended outcome ∧
        outcome.exit = 0 ∧ outcome.output = bareReport "here" := by
  have hassemble (agent : Option String) (format : Format) :
      ∃ gs, (Registry.assemble ⟨agent, "/", 15000, 5000, [], [], format, false, true⟩
        bareTree.view).outcome = .ok gs ∧ gs ≠ [] :=
    ⟨[.ofSource (Sysfs.source bareTree.view (Path.ofString "/"))], rfl, List.cons_ne_nil _ _⟩
  refine ⟨?_, ?_, ?_⟩
  · have hread : Settings.read ["--once", "--sys-path=/"] [] =
        .ok ⟨none, "/", 15000, 5000, [], [], .text, false, true⟩ := by decide +kernel
    obtain ⟨outcome, hrun, hexit, hprinted, -⟩ :=
      @run_once _ _ ⟨"here", "now", 7⟩ bareTree.view _ hread rfl
    have hzero := hexit.mpr ⟨hassemble _ _, _, survey_bareTree⟩
    exact ⟨outcome, hrun, hzero, (hprinted hzero _ survey_bareTree).trans expose_bareTree⟩
  · have hread : Settings.read ["--once", "--sys-path=/", "--format=json", "--agent-id=gpu-7"] [] =
        .ok ⟨some "gpu-7", "/", 15000, 5000, [], [], .json, false, true⟩ := by decide +kernel
    obtain ⟨outcome, hrun, hexit, hprinted, -⟩ :=
      @run_once _ _ ⟨"here", "now", 7⟩ bareTree.view _ hread rfl
    have hzero := hexit.mpr ⟨hassemble _ _, _, survey_bareTree⟩
    refine ⟨outcome, hrun, hzero, (hprinted hzero _ survey_bareTree).1.trans ?_⟩
    exact reportLine_bareTree (by decide +kernel)
  · have hread : Settings.read ["--once", "--sys-path=/", "--format=json"] [] =
        .ok ⟨none, "/", 15000, 5000, [], [], .json, false, true⟩ := by decide +kernel
    obtain ⟨outcome, hrun, hexit, hprinted, -⟩ :=
      @run_once _ _ ⟨"here", "now", 7⟩ bareTree.view _ hread rfl
    have hzero := hexit.mpr ⟨hassemble _ _, _, survey_bareTree⟩
    refine ⟨outcome, hrun, hzero, (hprinted hzero _ survey_bareTree).1.trans ?_⟩
    exact reportLine_bareTree (by decide +kernel)

end Program

end CardTelemetry
