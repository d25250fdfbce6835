import CardTelemetry.Metric.Exposition
import CardTelemetry.Proofs.Decimal.Layout
import Mathlib.Data.List.Basic

/-!
# A reader of exposition text

The reader takes one line at a time, without knowing who wrote it. A help or a type line is known
by how it begins; any other line is scanned from left to right, and an escape is undone where it
is met. What is written of a metric whose name and label names are legible is read back exactly.
Whether other texts are read at all is not asked.
-/

namespace CardTelemetry.Exposition

/-! ### The reader -/

/-- What a line says. -/
inductive Item where
  | help (name text : String)
  | type (name kind : String)
  | sample (name : String) (labels : List (String × String)) (value : String)
deriving DecidableEq

/-- What a backslash and this character stand for. -/
def unescape (c : Char) : Char := if c = 'n' then '\n' else c

def unescapeHelp : List Char → List Char
  | '\\' :: c :: rest => unescape c :: unescapeHelp rest
  | c :: rest => c :: unescapeHelp rest
  | [] => []

/-- How far a sample's line is scanned, with the name and the labels found so far and the
characters of the part that is being scanned. -/
inductive Scan where
  | name (part : List Char)
  | label (name : List Char) (labels : List (String × String)) (part : List Char)
  | equals (name : List Char) (labels : List (String × String)) (label : List Char)
  | text (name : List Char) (labels : List (String × String)) (label part : List Char)
  | escape (name : List Char) (labels : List (String × String)) (label part : List Char)
  | quoted (name : List Char) (labels : List (String × String))
  | closed (name : List Char) (labels : List (String × String))
  | value (name : List Char) (labels : List (String × String)) (part : List Char)

namespace Scan

def step : Scan → Char → Option Scan
  | name part, c =>
    if c = '{' then some (label part [] [])
    else if c = ' ' then some (value part [] [])
    else some (name (part ++ [c]))
  | label n ls part, c =>
    if c = '=' then some (equals n ls part) else some (label n ls (part ++ [c]))
  | equals n ls l, c => if c = '"' then some (text n ls l []) else none
  | text n ls l part, c =>
    if c = '"' then some (quoted n (ls ++ [(String.ofList l, String.ofList part)]))
    else if c = '\\' then some (escape n ls l part)
    else some (text n ls l (part ++ [c]))
  | escape n ls l part, c => some (text n ls l (part ++ [unescape c]))
  | quoted n ls, c =>
    if c = ',' then some (label n ls []) else if c = '}' then some (closed n ls) else none
  | closed n ls, c => if c = ' ' then some (value n ls []) else none
  | value n ls part, c => some (value n ls (part ++ [c]))

def run (s : Scan) (cs : List Char) : Option Scan := cs.foldlM step s

/-- A scan that has come to a value is a sample. -/
def item? : Scan → Option Item
  | value n ls part => some (.sample (String.ofList n) ls (String.ofList part))
  | _ => none

end Scan

/-- The name at the front of a line that has lost its mark, and what follows the space after it. -/
def nameAndRest (cs : List Char) : Option (String × List Char) :=
  match cs.dropWhile (· ≠ ' ') with
  | [] => none
  | _ :: rest => some (String.ofList (cs.takeWhile (· ≠ ' ')), rest)

def readLine (cs : List Char) : Option Item :=
  match "# HELP ".toList.isPrefixOf? cs, "# TYPE ".toList.isPrefixOf? cs with
  | some rest, _ =>
    (nameAndRest rest).map fun r => .help r.1 (String.ofList (unescapeHelp r.2))
  | none, some rest => (nameAndRest rest).map fun r => .type r.1 (String.ofList r.2)
  | none, none => (Scan.run (.name []) cs).bind Scan.item?

/-! ### Metrics that can be read -/

/-- No character of a name ends it, and none breaks a line. -/
structure Legible (m : Metric) : Prop where
  name : ∀ c ∈ m.name.toList, c ≠ ' ' ∧ c ≠ '{' ∧ c ≠ '\n'
  labelNames : ∀ l ∈ m.labelNames, ∀ c ∈ l.toList, c ≠ '=' ∧ c ≠ '\n'

theorem legible_iff {m : Metric} : Legible m ↔
    (m.name.toList.all fun c => c ≠ ' ' ∧ c ≠ '{' ∧ c ≠ '\n') = true ∧
      (m.labelNames.all fun l => l.toList.all fun c => c ≠ '=' ∧ c ≠ '\n') = true := by
  simp only [List.all_eq_true, decide_eq_true_eq]
  constructor
  · intro h
    exact ⟨h.name, h.labelNames⟩
  · intro h
    exact ⟨h.1, h.2⟩

instance (m : Metric) : Decidable (Legible m) := decidable_of_iff _ legible_iff.symm

/-! ### Help and type lines -/

theorem unescapeHelp_escapeHelp (c : Char) (rest : List Char) :
    unescapeHelp (escapeHelp c ++ rest) = c :: unescapeHelp rest := by
  unfold escapeHelp
  split
  · rename_i h
    rw [h]
    rfl
  · split
    · rename_i h
      rw [h]
      rfl
    · rename_i hslash _
      show unescapeHelp (c :: rest) = c :: unescapeHelp rest
      rw [unescapeHelp]
      intro d rest' hc
      exact absurd hc hslash

theorem unescapeHelp_flatMap (cs : List Char) : unescapeHelp (cs.flatMap escapeHelp) = cs := by
  induction cs with
  | nil => rfl
  | cons c rest ih => rw [List.flatMap_cons, unescapeHelp_escapeHelp, ih]

theorem nameAndRest_append {name : String} (h : ∀ c ∈ name.toList, c ≠ ' ') (rest : List Char) :
    nameAndRest (name.toList ++ ' ' :: rest) = some (name, rest) := by
  have hname : ∀ c ∈ name.toList, decide (c ≠ ' ') = true := by
    intro c hc
    exact decide_eq_true (h c hc)
  rw [nameAndRest, List.dropWhile_append_of_pos hname, List.takeWhile_append_of_pos hname]
  simp

section Headers

variable {f : Family}

theorem helpLine_eq (f : Family) :
    f.helpLine = "# HELP ".toList ++
      (f.name.toList ++ ' ' :: f.first.metric.help.toList.flatMap escapeHelp) :=
  List.append_assoc _ _ _

theorem typeLine_eq (f : Family) :
    f.typeLine = "# TYPE ".toList ++ (f.name.toList ++ ' ' :: "gauge".toList) :=
  List.append_assoc _ _ _

theorem readLine_helpLine (h : ∀ c ∈ f.name.toList, c ≠ ' ') :
    readLine f.helpLine = some (.help f.name f.first.metric.help) := by
  have hmark : "# HELP ".toList.isPrefixOf? f.helpLine =
      some (f.name.toList ++ ' ' :: f.first.metric.help.toList.flatMap escapeHelp) := by
    rw [helpLine_eq, List.isPrefixOf?_eq_some_iff_append_eq]
  rw [readLine, hmark]
  simp only [nameAndRest_append h, Option.map_some, unescapeHelp_flatMap, String.ofList_toList]

theorem readLine_typeLine (h : ∀ c ∈ f.name.toList, c ≠ ' ') :
    readLine f.typeLine = some (.type f.name "gauge") := by
  have hmark : "# TYPE ".toList.isPrefixOf? f.typeLine =
      some (f.name.toList ++ ' ' :: "gauge".toList) := by
    rw [typeLine_eq, List.isPrefixOf?_eq_some_iff_append_eq]
  have hother : "# HELP ".toList.isPrefixOf? f.typeLine = none := by
    rw [typeLine_eq]
    simp [List.isPrefixOf?]
  rw [readLine, hmark, hother]
  simp only [nameAndRest_append h, Option.map_some, String.ofList_toList]

end Headers

/-! ### Lines of samples -/

namespace Scan

variable {n : List Char} {ls : List (String × String)} {l part cs : List Char}

theorem run_cons (s : Scan) (c : Char) (cs : List Char) :
    run s (c :: cs) = (step s c).bind fun t => run t cs := rfl

theorem run_append {s t : Scan} (h : run s cs = some t) (cs' : List Char) :
    run s (cs ++ cs') = run t cs' := by
  rw [run, List.foldlM_append]
  show (run s cs).bind _ = _
  rw [h]
  rfl

/-- Characters are collected one by one, however each of them is written. -/
theorem run_collect {state : List Char → Scan} {written : Char → List Char}
    (h : ∀ c ∈ cs, ∀ part, run (state part) (written c) = some (state (part ++ [c])))
    (part : List Char) :
    run (state part) (cs.flatMap written) = some (state (part ++ cs)) := by
  induction cs generalizing part with
  | nil =>
    rw [List.append_nil]
    rfl
  | cons c rest ih =>
    rw [List.forall_mem_cons] at h
    rw [List.flatMap_cons, run_append (h.1 part), ih h.2, List.append_assoc, List.singleton_append]

theorem run_plain {state : List Char → Scan}
    (h : ∀ c ∈ cs, ∀ part, step (state part) c = some (state (part ++ [c]))) (part : List Char) :
    run (state part) cs = some (state (part ++ cs)) := by
  have hone : ∀ c ∈ cs, ∀ part, run (state part) [c] = some (state (part ++ [c])) := by
    intro c hc part
    rw [run_cons, h c hc]
    rfl
  have hrun := run_collect hone part
  rwa [List.flatMap_singleton'] at hrun

theorem run_name (h : ∀ c ∈ cs, c ≠ '{' ∧ c ≠ ' ') :
    run (name part) cs = some (name (part ++ cs)) := by
  apply run_plain
  intro c hc part
  rw [step, if_neg (h c hc).1, if_neg (h c hc).2]

theorem run_label (h : ∀ c ∈ cs, c ≠ '=') :
    run (label n ls part) cs = some (label n ls (part ++ cs)) := by
  apply run_plain
  intro c hc part
  rw [step, if_neg (h c hc)]

theorem run_value : run (value n ls part) cs = some (value n ls (part ++ cs)) :=
  run_plain (fun _ _ _ => rfl) part

/-- No character of a value ends its quotes. -/
theorem run_escapeLabel (c : Char) :
    run (text n ls l part) (escapeLabel c) = some (text n ls l (part ++ [c])) := by
  unfold escapeLabel
  split
  · rename_i h
    rw [h]
    rfl
  · split
    · rename_i h
      rw [h]
      rfl
    · split
      · rename_i h
        rw [h]
        rfl
      · rename_i hslash hquote _
        rw [run_cons, step, if_neg hquote, if_neg hslash]
        rfl

theorem run_labelText {p : String × String} (h : ∀ c ∈ p.1.toList, c ≠ '=') :
    run (label n ls []) (labelText p) = some (quoted n (ls ++ [p])) := by
  have htext : run (text n ls p.1.toList []) (p.2.toList.flatMap escapeLabel) =
      some (text n ls p.1.toList p.2.toList) :=
    run_collect (fun c _ part => run_escapeLabel c) []
  rw [labelText, run_append (run_label h)]
  show run (text n ls p.1.toList []) (p.2.toList.flatMap escapeLabel ++ ['"']) = _
  rw [run_append htext]
  show some (quoted n (ls ++ [(String.ofList p.1.toList, String.ofList p.2.toList)])) = _
  rw [String.ofList_toList, String.ofList_toList]

theorem run_labelTexts {p : String × String} {labels : List (String × String)}
    (h : ∀ q ∈ p :: labels, ∀ c ∈ q.1.toList, c ≠ '=') :
    run (label n ls []) ([','].intercalate ((p :: labels).map labelText)) =
      some (quoted n (ls ++ p :: labels)) := by
  induction labels generalizing p ls with
  | nil =>
    rw [List.forall_mem_singleton] at h
    rw [List.map_singleton, List.intercalate_singleton, run_labelText h]
  | cons q rest ih =>
    rw [List.forall_mem_cons] at h
    rw [List.map_cons, List.map_cons, List.intercalate_cons_cons, List.append_assoc,
      run_append (run_labelText h.1)]
    show run (label n (ls ++ [p]) []) ([','].intercalate ((q :: rest).map labelText)) = _
    rw [ih h.2, List.append_assoc, List.singleton_append]

theorem run_labelsText {labels : List (String × String)}
    (h : ∀ q ∈ labels, ∀ c ∈ q.1.toList, c ≠ '=') :
    run (name n) (labelsText labels ++ [' ']) = some (value n labels []) := by
  cases labels with
  | nil => rfl
  | cons p rest =>
    show run (label n [] []) (([','].intercalate ((p :: rest).map labelText) ++ ['}']) ++ [' ']) = _
    rw [List.append_assoc, run_append (run_labelTexts h)]
    rfl

/-- A line is scanned to its end, and every part of it is found. -/
theorem run_line {s : Sample} (h : Legible s.metric) :
    run (name []) (line s) = some (value s.name.toList s.labels s.value.expose) := by
  have hname : ∀ c ∈ s.name.toList, c ≠ '{' ∧ c ≠ ' ' := by
    intro c hc
    exact ⟨(h.name c hc).2.1, (h.name c hc).1⟩
  have hlabels : ∀ q ∈ s.labels, ∀ c ∈ q.1.toList, c ≠ '=' := by
    intro q hq c hc
    exact (h.labelNames q.1 (List.of_mem_zip hq).1 c hc).1
  have hline : line s =
      s.name.toList ++ (labelsText s.labels ++ [' '] ++ s.value.expose) := by
    simp [line]
  rw [hline, run_append (run_name hname), List.nil_append, run_append (run_labelsText hlabels),
    run_value, List.nil_append]

end Scan

/-- A sample's line is never taken for a help or a type line: these have a space in place of the
value. -/
theorem readLine_line {s : Sample} (h : Legible s.metric) :
    readLine (line s) =
      some (.sample s.name s.labels (String.ofList s.value.expose)) := by
  have hmark (word : List Char) : ("# ".toList ++ word ++ [' ']).isPrefixOf? (line s) = none := by
    rw [Option.eq_none_iff_forall_ne_some]
    intro rest hrest
    rw [List.isPrefixOf?_eq_some_iff_append_eq] at hrest
    have hscan := Scan.run_line h
    rw [← hrest, List.append_assoc, List.append_assoc] at hscan
    have hvalue : Scan.run (.name []) ("# ".toList ++ (word ++ ([' '] ++ rest))) =
        some (.value ['#'] [] (word ++ ([' '] ++ rest))) :=
      Scan.run_value
    rw [hvalue] at hscan
    apply s.value.space_not_mem_expose
    rw [← (Scan.value.inj (Option.some.inj hscan)).2.2]
    simp
  have hhelp : "# HELP ".toList.isPrefixOf? (line s) = none := hmark "HELP".toList
  have htype : "# TYPE ".toList.isPrefixOf? (line s) = none := hmark "TYPE".toList
  rw [readLine, hhelp, htype]
  show (Scan.run (.name []) (line s)).bind Scan.item? = _
  rw [Scan.run_line h]
  show some (Item.sample (String.ofList s.name.toList) _ _) = _
  rw [String.ofList_toList]

end CardTelemetry.Exposition
