import CardTelemetry.Agent.Program

/-!
# What of the environment the settings depend on

Settings are read from the variables of the settings and from no other; in particular the log
filter's variable has no part in them.
-/

namespace CardTelemetry

namespace CommandLine

variable {env env' : Environment}

theorem layer_congr {ss : List Setting}
    (h : ∀ s ∈ ss, variableValue env' s = variableValue env s) (g : Given) :
    layer env' g ss = layer env g ss := by
  induction ss generalizing g with
  | nil => rfl
  | cons s rest ih =>
    have hrest (g : Given) : layer env' g rest = layer env g rest :=
      ih (fun s hs => h s (List.mem_cons_of_mem _ hs)) g
    unfold layer
    rw [h s List.mem_cons_self]
    simp only [hrest]

/-- No setting has the log filter's variable. -/
theorem variableValue_congr
    (h : ∀ name ≠ Program.filterVariable, env'.lookup name = env.lookup name) (s : Setting) :
    variableValue env' s = variableValue env s := by
  have hname : ∀ s : Setting, s.environmentName? ≠ some Program.filterVariable := by
    intro s
    cases s <;> decide
  unfold variableValue
  cases hs : s.environmentName? with
  | none => rfl
  | some name =>
    have hne : name ≠ Program.filterVariable := by
      rintro rfl
      exact hname s hs
    exact h name hne

end CommandLine

/-- The log filter changes no setting and no complaint. -/
theorem Settings.read_congr {env env' : Environment} (arguments : List String)
    (h : ∀ name ≠ Program.filterVariable, env'.lookup name = env.lookup name) :
    read arguments env' = read arguments env := by
  unfold read
  congr 1
  funext p
  rw [CommandLine.layer_congr fun s _ => CommandLine.variableValue_congr h s]

end CardTelemetry
