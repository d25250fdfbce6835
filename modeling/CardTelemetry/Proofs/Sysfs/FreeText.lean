import CardTelemetry.Proofs.Binary64.Nearest
import CardTelemetry.Proofs.Sysfs.Footprint
import Mathlib

/-!
# Texts that cannot disturb a survey

The attributes of connectors and the texts of records are free. Whatever stands in such a file, and
whether it can be read at all, a survey ends as it would otherwise, and at most one of its samples
is different. Files are told apart by their paths, so that a file with two paths counts as two;
names do not hold slashes.
-/

namespace CardTelemetry

/-- Two lists are the same but for one place, where their members are related. -/
def OneApart {α : Type} (R : α → α → Prop) (as bs : List α) : Prop :=
  ∃ before a b after, as = before ++ a :: after ∧ bs = before ++ b :: after ∧ R a b

section OneApart

variable {α β : Type} {R : α → α → Prop} {as bs : List α}

theorem OneApart.append_left (h : OneApart R as bs) (l : List α) :
    OneApart R (l ++ as) (l ++ bs) := by
  obtain ⟨before, a, b, after, rfl, rfl, hab⟩ := h
  exact ⟨l ++ before, a, b, after, by simp, by simp, hab⟩

theorem OneApart.append_right (h : OneApart R as bs) (l : List α) :
    OneApart R (as ++ l) (bs ++ l) := by
  obtain ⟨before, a, b, after, rfl, rfl, hab⟩ := h
  exact ⟨before, a, b, after ++ l, by simp, by simp, hab⟩

/-- Blocks that are the same but for one make lists that are the same but for that block. -/
theorem oneApart_flatMap {f g : β → List α} {l : List β} (hnodup : l.Nodup) {b : β} (hb : b ∈ l)
    (hothers : ∀ c ∈ l, c ≠ b → g c = f c) (h : OneApart R (f b) (g b)) :
    OneApart R (l.flatMap f) (l.flatMap g) := by
  obtain ⟨before, after, rfl⟩ := List.append_of_mem hb
  rw [List.nodup_append, List.nodup_cons] at hnodup
  obtain ⟨-, ⟨hafter, -⟩, hdisjoint⟩ := hnodup
  have hbefore : before.flatMap g = before.flatMap f :=
    List.flatMap_congr fun c hc =>
      hothers c (List.mem_append_left _ hc) (hdisjoint c hc b List.mem_cons_self)
  have hrest : after.flatMap g = after.flatMap f := by
    apply List.flatMap_congr
    intro c hc
    have hne : c ≠ b := fun heq => hafter (heq ▸ hc)
    exact hothers c (List.mem_append_right _ (List.mem_cons_of_mem b hc)) hne
  rw [List.flatMap_append, List.flatMap_append, List.flatMap_cons, List.flatMap_cons, hbefore,
    hrest]
  exact (h.append_right _).append_left _

theorem oneApart_map {f g : β → α} {l : List β} (hnodup : l.Nodup) {b : β} (hb : b ∈ l)
    (hothers : ∀ c ∈ l, c ≠ b → g c = f c) (h : R (f b) (g b)) :
    OneApart R (l.map f) (l.map g) := by
  rw [List.map_eq_flatMap, List.map_eq_flatMap]
  apply oneApart_flatMap hnodup hb
  · intro c hc hne
    rw [hothers c hc hne]
  · exact ⟨[], f b, g b, [], rfl, rfl, h⟩

end OneApart

namespace Sysfs

open Files (Name Node Path Tree View)
open Files.Path (below)
open Text.Utf8 (lossy)
open Collector (connectorSamples gaugeSamples infoSample survey)

/-- No directory lists a name with a slash in it. -/
def SlashFree (v : View) : Prop := ∀ p ns, v.names p = .ok ns → ∀ n ∈ ns, Path.slash ∉ n

/-- A tree lists no slashes where no place has one. -/
theorem slashFree_view {t : Tree} (h : ∀ entry ∈ t.nodes, ∀ n ∈ entry.1, Path.slash ∉ n) :
    SlashFree t.view := by
  intro p ns hns n hn
  have hnames : ∃ place, ns = t.namesAt place := by
    have hns : t.names p = .ok ns := hns
    unfold Tree.names at hns
    split at hns
    · exact ⟨_, (Except.ok.inj hns).symm⟩
    · cases hns
    · cases hns
  obtain ⟨place, rfl⟩ := hnames
  obtain ⟨entry, hentry, hlast⟩ := List.mem_filterMap.mp hn
  rw [Option.ite_none_right_eq_some] at hlast
  exact h entry hentry n (List.mem_of_getLast? hlast.2)

/-- An attribute of connectors: its metric, its file and the word that counts as true. -/
structure Flag where
  metric : Metric
  file : String
  word : String
deriving DecidableEq

def flags : List Flag :=
  [⟨Schema.connectorStatus, "status", "connected"⟩,
    ⟨Schema.connectorEnabled, "enabled", "enabled"⟩,
    ⟨Schema.connectorDpms, "dpms", "On"⟩]

/-- A sample of a connector, as a file of the connector makes it: 1 if the file can be read and has
the word between its blanks, and 0 otherwise. -/
structure ShowsFlag (v : View) (root : Path) (card n : Name) (a : Flag) (s : Sample) : Prop where
  metric : s.metric = a.metric
  cardLabel : s.label? "card" = some (lossy card)
  portLabel : ∃ port, s.label? "port" = some port ∧ lossy n = lossy card ++ "-" ++ port
  gauge : s.value =
    if attributeAt v (below root (cardFile card n a.file)) = some a.word then .one else .zero
  value : s.value.value =
    if attributeAt v (below root (cardFile card n a.file)) = some a.word then 1 else 0

/-- A sample of a card's information, with a label as a file of the card's record makes it. -/
structure ShowsText (v : View) (root : Path) (card : Name) (t : String × String) (s : Sample) :
    Prop where
  metric : s.metric = Schema.cardInfo
  cardLabel : s.label? "card" = some (lossy card)
  textLabel : s.label? t.1 = some (textShown v (below root (deviceNames card)) t.2)

variable {v w : View} {root : Path} {es : List Entry} {e : Entry}

/-! ### Connectors -/

theorem two_labels_of_flag : ∀ a ∈ flags, a.metric.labelNames = ["card", "port"] := by decide

theorem eq_of_file_eq : ∀ a ∈ flags, ∀ b ∈ flags, a.file = b.file → a = b := by decide

def flagSample (v : View) (card : String) (k : Entry) (a : { a // a ∈ flags }) : Sample where
  metric := a.1.metric
  labelValues := [card, (connectorRead v card k).localName]
  value := .ofBool (attributeAt v (k.path.join (Path.ofString a.1.file)) = some a.1.word)
  aligned := by rw [two_labels_of_flag a.1 a.2]; rfl

theorem flagSample_congr {card : String} {k : Entry} {a : { a // a ∈ flags }}
    (h : w.text (k.path.join (Path.ofString a.1.file)) =
      v.text (k.path.join (Path.ofString a.1.file))) :
    flagSample w card k a = flagSample v card k a := by
  rw [flagSample, flagSample, attributeAt_congr h]
  rfl

theorem connectorSamples_read (v : View) (card : String) (k : Entry) :
    connectorSamples (connectorRead v card k) = flags.attach.map (flagSample v card k) := by
  have hstatus : (connectorRead v card k).status.gauge =
      .ofBool (attributeAt v (k.path.join (Path.ofString "status")) = some "connected") := by
    simp only [ConnectorStatus.gauge, status_connectorRead_iff]
  have henabled : (connectorRead v card k).enabled.gauge =
      .ofBool (attributeAt v (k.path.join (Path.ofString "enabled")) = some "enabled") := by
    simp only [ConnectorEnabled.gauge, enabled_connectorRead_iff]
  have hdpms : (connectorRead v card k).dpms.gauge =
      .ofBool (attributeAt v (k.path.join (Path.ofString "dpms")) = some "On") := by
    simp only [Dpms.gauge, dpms_connectorRead_iff]
  simp only [connectorSamples, hstatus, henabled, hdpms]
  rfl

theorem showsFlag_flagSample {card n : Name} (hn : IsConnectorName v (cardEntry root card) n)
    (u : View) (a : { a // a ∈ flags }) :
    ShowsFlag u root card n a.1
      (flagSample u (lossy card) (Entry.ofName (cardEntry root card).path n) a) := by
  have hlabels := two_labels_of_flag a.1 a.2
  have hgauge := Binary64.ofBool_decide
    (attributeAt u (below root (cardFile card n a.1.file)) = some a.1.word)
  have hvalue (p : Prop) [Decidable p] :
      (if p then Binary64.one else Binary64.zero).value = if p then 1 else 0 := by
    split
    · exact Binary64.value_one
    · exact Binary64.value_zero
  refine ⟨rfl, ?_, ?_, hgauge, (congrArg Binary64.value hgauge).trans (hvalue _)⟩
  · simp only [Sample.label?, Sample.labels, flagSample, hlabels]
    rfl
  · refine
      ⟨(connectorRead u (lossy card) (Entry.ofName (cardEntry root card).path n)).localName, ?_, ?_⟩
    · simp only [Sample.label?, Sample.labels, flagSample, hlabels]
      rfl
    · have hlocal := toList_localName (v := u) hn.2.1
      rw [← String.toList_inj, String.toList_append, String.toList_append, List.append_assoc]
      exact hlocal

section Connector

variable {card n : Name} {a : Flag}

theorem prefix_of_isConnectorName {number : Nat} (hcard : IsCardName card number)
    (hn : IsConnectorName v (cardEntry root card) n) : card ++ Path.ofString "-" <+: n :=
  (belongsTo_iff hcard).mp hn.2.1

/-- A connector's attribute is read as one of its own files only. -/
theorem eq_of_cardFile_eq (hslash : SlashFree v) (hcard : IsCard v root card)
    (hn : IsConnectorName v (cardEntry root card) n) {card' n' : Name}
    (hcard' : IsCard v root card')
    (hn' : IsConnectorName v (cardEntry root card') n') {file file' : String}
    (heq : below root (cardFile card' n' file') = below root (cardFile card n file)) :
    card' = card ∧ n' = n ∧ file' = file := by
  have hfree {card n : Name} (hn : IsConnectorName v (cardEntry root card) n) : Path.slash ∉ n := by
    obtain ⟨⟨ns, hns, hmem⟩, -⟩ := hn
    exact hslash _ ns hns n hmem
  obtain ⟨_, hnumber⟩ := hcard.2
  obtain ⟨_, hnumber'⟩ := hcard'.2
  exact cardFile_inj hnumber' hnumber (prefix_of_isConnectorName hnumber' hn')
    (prefix_of_isConnectorName hnumber hn) (hfree hn') (hfree hn) heq

/-- An attribute that differs is one place of what the samples of all connectors show. -/
theorem oneApart_connectors (hslash : SlashFree v) (hes : cardEntries v root = .ok es)
    (hcard : IsCard v root card) (hn : IsConnectorName v (cardEntry root card) n) (ha : a ∈ flags)
    (hfound : ∀ e ∈ es, ConnectorsAlike (· = below root (cardFile card n a.file)) v w e) :
    OneApart (fun s s' => ShowsFlag v root card n a s ∧ ShowsFlag w root card n a s' ∧
        s'.labelValues = s.labelValues)
      (es.flatMap (connectorsSamples v)) (es.flatMap (connectorsSamples w)) := by
  have hcards (e : Entry) (he : e ∈ es) : ∃ card', IsCard v root card' ∧ e = cardEntry root card' :=
    (mem_cardEntries_iff hes).mp he
  have hmem : cardEntry root card ∈ es := (mem_cardEntries_iff hes).mpr ⟨card, hcard, rfl⟩
  apply oneApart_flatMap (nodup_name_of_cardEntries hes).of_map hmem
  · -- the other cards
    intro e he hne
    obtain ⟨card', hcard', rfl⟩ := hcards e he
    apply connectorsSamples_congr (hfound _ he)
    intro k hk file _ heq
    obtain ⟨n', hn', rfl⟩ := mem_connectorsListed_iff.mp hk
    obtain ⟨rfl, -⟩ := eq_of_cardFile_eq hslash hcard hn hcard' hn' heq
    exact hne rfl
  obtain ⟨hlisted, htext⟩ := hfound _ hmem
  rw [connectorsSamples, connectorsSamples, hlisted]
  apply oneApart_flatMap nodup_connectorsListed (mem_connectorsListed_iff.mpr ⟨n, hn, rfl⟩)
  · -- the other connectors of the card
    intro k hk hne
    rw [connectorRead_congr]
    intro file hfile
    apply (htext k hk file hfile).resolve_left
    intro heq
    obtain ⟨n', hn', rfl⟩ := mem_connectorsListed_iff.mp hk
    obtain ⟨-, rfl, -⟩ := eq_of_cardFile_eq hslash hcard hn hcard hn' heq
    exact hne rfl
  rw [connectorSamples_read, connectorSamples_read]
  apply oneApart_map (List.nodup_attach.mpr (by decide)) (List.mem_attach _ ⟨a, ha⟩)
  · -- the other attributes of the connector
    intro b _ hne
    have hfile : b.1.file ∈ attributeFiles := List.mem_map_of_mem b.2
    have hsame : w.text (below root (cardFile card n b.1.file)) =
        v.text (below root (cardFile card n b.1.file)) := by
      apply (htext _ (mem_connectorsListed_iff.mpr ⟨n, hn, rfl⟩) _ hfile).resolve_left
      intro heq
      obtain ⟨-, -, heq⟩ := eq_of_cardFile_eq hslash hcard hn hcard hn heq
      exact hne (Subtype.ext (eq_of_file_eq _ b.2 _ ha heq))
    exact flagSample_congr hsame
  · exact ⟨showsFlag_flagSample hn v ⟨a, ha⟩, showsFlag_flagSample hn w ⟨a, ha⟩, rfl⟩

end Connector

/-! ### Records -/

section Record

variable {card : Name} {t : String × String}

theorem not_required_of_text :
    ∀ t ∈ textFiles, t.2 ≠ "uevent" ∧ t.2 ≠ "enable" ∧ t.2 ∉ numberFiles := by decide

theorem label?_infoSample {name driver : String} {text : String → String} {number : String → UInt64}
    (ht : t ∈ textFiles) :
    (infoSample driver (recordOf name text number)).label? t.1 = some (text t.2) := by
  simp only [textFiles, List.mem_cons, List.not_mem_nil, or_false] at ht
  rcases ht with rfl | rfl | rfl <;> rfl

/-- Only the label of a text depends on it. -/
theorem label?_infoSample_congr {name driver : String} {text text' : String → String}
    {number : String → UInt64} (ht : t ∈ textFiles)
    (hothers : ∀ t' ∈ textFiles, t'.2 ≠ t.2 → text' t'.2 = text t'.2) {label : String}
    (hlabel : label ≠ t.1) :
    (infoSample driver (recordOf name text' number)).label? label =
      (infoSample driver (recordOf name text number)).label? label := by
  have hlabels (text : String → String) :
      (infoSample driver (recordOf name text number)).labels =
        [("card", name), ("driver", driver), ("memory_vendor", text "mem_info_vram_vendor"),
          ("power_performance_level", text "power_dpm_force_performance_level"),
          ("unique_id", text "unique_id"), ("vendor", "amd")] := rfl
  have hskip : (label == t.1) = false := beq_false_of_ne hlabel
  rw [Sample.label?, Sample.label?, hlabels, hlabels]
  simp only [textFiles, List.forall_mem_cons, List.not_mem_nil, false_imp_iff, implies_true,
    and_true] at hothers
  obtain ⟨hvendor, hlevel, hid⟩ := hothers
  simp only [textFiles, List.mem_cons, List.not_mem_nil, or_false] at ht
  rcases ht with rfl | rfl | rfl
  · rw [hlevel (by decide), hid (by decide)]
    simp only [List.lookup_cons, hskip]
  · rw [hvendor (by decide), hid (by decide)]
    simp only [List.lookup_cons, hskip]
  · rw [hvendor (by decide), hlevel (by decide)]
    simp only [List.lookup_cons, hskip]

/-- A text that differs is one label of what the samples of the card's record show. -/
theorem oneApart_recordSamples (ht : t ∈ textFiles)
    (hcard : CardAlike (· = below root (deviceFile card t.2)) v w (cardEntry root card))
    (hrecord : RecordAlike (· = below root (deviceFile card t.2)) v w (cardEntry root card))
    {number : Nat} (hnumber : IsCardName card number) :
    OneApart (fun s s' => ShowsText v root card t s ∧ ShowsText w root card t s' ∧
        s'.value = s.value ∧ ∀ label ≠ t.1, s'.label? label = s.label? label)
      (recordSamples v (cardEntry root card)) (recordSamples w (cardEntry root card)) := by
  have hshown (file : String) (hfile : file ∈ recordFiles) (hne : file ≠ t.2) :=
    hrecord.shown hfile fun heq => hne ((deviceFile_inj hnumber hnumber).mp heq).2
  have hnumbers : recordRead w (cardEntry root card) =
      recordOf (cardEntry root card).name (textShown w (below root (deviceNames card)))
        (numberShown v (below root (deviceNames card))) := by
    apply recordOf_congr fun _ _ => rfl
    intro file hfile
    refine (hshown file (List.mem_append_left _ hfile) ?_).2
    rintro rfl
    exact (not_required_of_text t ht).2.2 hfile
  have hsamples : recordSamples w (cardEntry root card) =
      infoSample (driverRead v (below root (deviceNames card)))
          (recordOf (cardEntry root card).name (textShown w (below root (deviceNames card)))
            (numberShown v (below root (deviceNames card)))) ::
        gaugeSamples (recordRead v (cardEntry root card)) := by
    rw [recordSamples, hnumbers, hcard.1]
    rfl
  refine ⟨[], _, _, _, rfl, hsamples, ⟨rfl, rfl, label?_infoSample ht⟩,
    ⟨rfl, rfl, label?_infoSample ht⟩, rfl, ?_⟩
  intro label hlabel
  apply label?_infoSample_congr ht ?_ hlabel
  intro t' ht' hne
  exact (hshown t'.2 (List.mem_append_right _ (List.mem_map_of_mem ht')) hne).1

/-- Other cards' records have no part in it. -/
theorem oneApart_records (hes : cardEntries v root = .ok es) (hcard : IsCard v root card)
    (ht : t ∈ textFiles)
    (hfound : ∀ e ∈ es, CardAlike (· = below root (deviceFile card t.2)) v w e ∧
      RecordAlike (· = below root (deviceFile card t.2)) v w e) :
    OneApart (fun s s' => ShowsText v root card t s ∧ ShowsText w root card t s' ∧
        s'.value = s.value ∧ ∀ label ≠ t.1, s'.label? label = s.label? label)
      (es.flatMap (recordSamples v)) (es.flatMap (recordSamples w)) := by
  have hmem : cardEntry root card ∈ es := (mem_cardEntries_iff hes).mpr ⟨card, hcard, rfl⟩
  obtain ⟨_, hnumber⟩ := hcard.2
  apply oneApart_flatMap (nodup_name_of_cardEntries hes).of_map hmem
  · intro e he hne
    obtain ⟨card', hcard', rfl⟩ := (mem_cardEntries_iff hes).mp he
    obtain ⟨_, hnumber'⟩ := hcard'.2
    apply recordSamples_congr (hfound _ he).1 (hfound _ he).2
    intro file _ heq
    obtain ⟨rfl, -⟩ := (deviceFile_inj hnumber' hnumber).mp heq
    exact hne rfl
  · exact oneApart_recordSamples ht (hfound _ hmem).1 (hfound _ hmem).2 hnumber

end Record

/-! ### Surveys -/

theorem alike_survey_of_flag {card n : Name} {a : Flag} (hslash : SlashFree v)
    (hcard : IsCard v root card) (hn : IsConnectorName v (cardEntry root card) n) (ha : a ∈ flags)
    (h : ∀ q ∈ surveyReads v root, q.SameBut (· = below root (cardFile card n a.file)) v w) :
    Alike (OneApart fun s s' => ShowsFlag v root card n a s ∧ ShowsFlag w root card n a s' ∧
        s'.labelValues = s.labelValues)
      (survey (source v root)).outcome (survey (source w root)).outcome := by
  obtain ⟨_, hnumber⟩ := hcard.2
  have hne {card' : Name} (hcard' : IsCard v root card') (file : String) :
      below root (deviceFile card' file) ≠ below root (cardFile card n a.file) := by
    obtain ⟨_, hnumber'⟩ := hcard'.2
    exact (cardFile_ne_deviceFile hnumber hnumber' (prefix_of_isConnectorName hnumber hn) _ _).symm
  have hsafe (es : List Entry) (hes : cardEntries v root = .ok es) (e : Entry) (he : e ∈ es) :
      Harmless (· = below root (cardFile card n a.file)) v w e := by
    obtain ⟨card', hcard', rfl⟩ := (mem_cardEntries_iff hes).mp he
    exact ⟨hne hcard' "uevent", hne hcard' "enable",
      fun _ file _ heq => absurd heq (hne hcard' file)⟩
  apply (alike_survey hsafe h).mono
  rintro _ _ - - ⟨es, hes, rfl, rfl, hfound⟩
  have henable := map_enableSample_congr fun e he => (hfound e he).1
  have hconnectors := oneApart_connectors hslash hes hcard hn ha fun e he => (hfound e he).1.2.2
  have hrecords : es.flatMap (recordSamples w) = es.flatMap (recordSamples v) := by
    apply List.flatMap_congr
    intro e he
    obtain ⟨card', hcard', rfl⟩ := (mem_cardEntries_iff hes).mp he
    exact recordSamples_congr (hfound _ he).1 (hfound _ he).2 fun file _ => hne hcard' file
  rw [samplesRead, samplesRead, henable, hrecords]
  exact (hconnectors.append_left _).append_right _

theorem alike_survey_of_text {card : Name} {t : String × String} (hcard : IsCard v root card)
    (ht : t ∈ textFiles)
    (h : ∀ q ∈ surveyReads v root, q.SameBut (· = below root (deviceFile card t.2)) v w) :
    Alike (OneApart fun s s' => ShowsText v root card t s ∧ ShowsText w root card t s' ∧
        s'.value = s.value ∧ ∀ label ≠ t.1, s'.label? label = s.label? label)
      (survey (source v root)).outcome (survey (source w root)).outcome := by
  obtain ⟨_, hnumber⟩ := hcard.2
  have hfile {card' : Name} (hcard' : IsCard v root card') {file : String}
      (heq : below root (deviceFile card' file) = below root (deviceFile card t.2)) :
      file = t.2 := by
    obtain ⟨_, hnumber'⟩ := hcard'.2
    exact ((deviceFile_inj hnumber' hnumber).mp heq).2
  have hsafe (es : List Entry) (hes : cardEntries v root = .ok es) (e : Entry) (he : e ∈ es) :
      Harmless (· = below root (deviceFile card t.2)) v w e := by
    obtain ⟨card', hcard', rfl⟩ := (mem_cardEntries_iff hes).mp he
    obtain ⟨huevent, henable, hnumbers⟩ := not_required_of_text t ht
    constructor
    · intro heq
      exact huevent (hfile hcard' heq).symm
    · intro heq
      exact henable (hfile hcard' heq).symm
    · intro _ file hmem heq
      exact absurd (hfile hcard' heq ▸ hmem) hnumbers
  apply (alike_survey hsafe h).mono
  rintro _ _ - - ⟨es, hes, rfl, rfl, hfound⟩
  have henable := map_enableSample_congr fun e he => (hfound e he).1
  have hconnectors : es.flatMap (connectorsSamples w) = es.flatMap (connectorsSamples v) := by
    apply List.flatMap_congr
    intro e he
    obtain ⟨card', hcard', rfl⟩ := (mem_cardEntries_iff hes).mp he
    exact connectorsSamples_of_devices (fun _ heq => ⟨card, t.2, hcard.2, heq⟩) hcard'
      (hfound _ he).1.2.2
  have hrecords := oneApart_records hes hcard ht hfound
  rw [samplesRead, samplesRead, henable, hconnectors]
  exact hrecords.append_left _

/-- **What stands in a free text disturbs nothing.** Where two trees differ only in one file's text,
and that file is an attribute of a connector or a text of a record, the surveys of both fail with
the same fault or yield lists that differ in one sample at most: in the value that says whether the
attribute is its word, or in the one label for the text. -/
theorem free_text_disturbs_nothing {P : Path} (hslash : SlashFree v)
    (h : ∀ q ∈ surveyReads v root, q = .text P ∨ q.Same v w) :
    (∀ card n, IsCard v root card → IsConnectorName v (cardEntry root card) n → ∀ a ∈ flags,
        P = below root (cardFile card n a.file) →
          Alike (OneApart fun s s' => ShowsFlag v root card n a s ∧ ShowsFlag w root card n a s' ∧
              s'.labelValues = s.labelValues)
            (survey (source v root)).outcome (survey (source w root)).outcome) ∧
      ∀ card, IsCard v root card → ∀ t ∈ textFiles, P = below root (deviceFile card t.2) →
        Alike (OneApart fun s s' => ShowsText v root card t s ∧ ShowsText w root card t s' ∧
            s'.value = s.value ∧ ∀ label ≠ t.1, s'.label? label = s.label? label)
          (survey (source v root)).outcome (survey (source w root)).outcome := by
  have hreads : ∀ q ∈ surveyReads v root, q.SameBut (· = P) v w := by
    intro q hq
    obtain rfl | hsame := h q hq
    · exact .inl ⟨P, rfl, rfl⟩
    · exact .inr hsame
  constructor
  · rintro card n hcard hn a ha rfl
    exact alike_survey_of_flag hslash hcard hn ha hreads
  · rintro card hcard t ht rfl
    exact alike_survey_of_text hcard ht hreads

/-- An amdgpu card with a connector, an attribute of it and a text of its record. -/
def freeTree (status id : Node) : Tree where
  nodes :=
    [(["class"].map Path.ofString, .directory),
      (["class", "drm"].map Path.ofString, .directory),
      (["class", "drm", "card0"].map Path.ofString, .directory),
      (["class", "drm", "card0", "card0-DP-1"].map Path.ofString, .directory),
      (["class", "drm", "card0", "card0-DP-1", "status"].map Path.ofString, status),
      (["class", "drm", "card0", "device"].map Path.ofString, .directory),
      (["class", "drm", "card0", "device", "uevent"].map Path.ofString,
        .file (Path.ofString "DRIVER=amdgpu\n")),
      (["class", "drm", "card0", "device", "unique_id"].map Path.ofString, id)]
  distinct := by simp; decide

/-- A connector that is connected, and a record with a text. -/
def plugged : View :=
  (freeTree (.file (Path.ofString "connected\n")) (.file (Path.ofString "7\n"))).view

theorem plugged_card :
    IsCard plugged (Path.ofString "/") (Path.ofString "card0") ∧
      IsConnectorName plugged (cardEntry (Path.ofString "/") (Path.ofString "card0"))
        (Path.ofString "card0-DP-1") := by
  have hcards : plugged.names (below (Path.ofString "/") classNames) =
      .ok [Path.ofString "card0"] := by
    cbv
  have hcard : IsCardName (Path.ofString "card0") 0 := cardNumber?_lossy_iff.mp (by cbv)
  have hnames : plugged.names (cardEntry (Path.ofString "/") (Path.ofString "card0")).path =
      .ok [Path.ofString "card0-DP-1", Path.ofString "device"] := by cbv
  refine ⟨⟨⟨_, hcards, by simp⟩, 0, hcard⟩, ⟨_, hnames, by simp⟩, by cbv, by cbv⟩

theorem exists_of_alike {R : Sample → Sample → Prop} {samples : List Sample}
    {r r' : Except Fault (List Sample)} (h : Alike (OneApart R) r r') (hr : r = .ok samples) :
    ∃ before s s' after, r = .ok (before ++ s :: after) ∧ r' = .ok (before ++ s' :: after) ∧
      R s s' := by
  obtain ⟨f, hf, -⟩ | ⟨_, _, hv, hw, before, s, s', after, rfl, rfl, hs⟩ := alike_iff.mp h
  · rw [hr] at hf
    cases hf
  · exact ⟨before, s, s', after, hv, hw, hs⟩

theorem survey_plugged :
    ∃ samples, (survey (source plugged (Path.ofString "/"))).outcome = .ok samples := by
  have hcards : (allCards plugged (Path.ofString "/")).outcome =
      .ok [⟨"card0", "amdgpu", false,
        [⟨"card0-DP-1", "card0", .connected, .unknown, .unknown⟩]⟩] := by cbv
  have hstats : (allStats plugged (Path.ofString "/")).outcome =
      .ok [⟨"card0", 0, 0, 0, 0, 0, 0, 0, "", "", "7"⟩] := by cbv
  exact ⟨_, Collector.survey_eq_ok_iff.mpr ⟨_, _, hcards, hstats, rfl⟩⟩

theorem textShown_plugged :
    textShown plugged (below (Path.ofString "/") (deviceNames (Path.ofString "card0")))
        "unique_id" = "7" ∧
      textShown (freeTree (.file (Path.ofString "connected\n")) (.file [0xFF])).view
        (below (Path.ofString "/") (deviceNames (Path.ofString "card0"))) "unique_id" = "" := by
  have hdriver : ueventDriver? plugged
      (below (Path.ofString "/") (deviceNames (Path.ofString "card0"))) = some "amdgpu" := by cbv
  have hdriver' : ueventDriver?
      (freeTree (.file (Path.ofString "connected\n")) (.file [0xFF])).view
      (below (Path.ofString "/") (deviceNames (Path.ofString "card0"))) = some "amdgpu" := by cbv
  rw [textShown, textShown, if_pos hdriver, if_pos hdriver']
  exact ⟨by cbv, by cbv⟩

/-- A directory in place of the attribute makes a 1 a 0, and bytes that are no text in place of the
text take it away. Nothing else is different. -/
theorem free_text_disturbs_nothing_plugged :
    (∃ before s s' after,
      (survey (source plugged (Path.ofString "/"))).outcome = .ok (before ++ s :: after) ∧
      (survey (source (freeTree .directory (.file (Path.ofString "7\n"))).view
        (Path.ofString "/"))).outcome = .ok (before ++ s' :: after) ∧
      s.metric = Schema.connectorStatus ∧ s.label? "card" = some "card0" ∧
      s'.labelValues = s.labelValues ∧ s.value = .one ∧ s'.value = .zero) ∧
      ∃ before s s' after,
        (survey (source plugged (Path.ofString "/"))).outcome = .ok (before ++ s :: after) ∧
        (survey (source (freeTree (.file (Path.ofString "connected\n")) (.file [0xFF])).view
          (Path.ofString "/"))).outcome = .ok (before ++ s' :: after) ∧
        s.metric = Schema.cardInfo ∧ s.label? "card" = some "card0" ∧
        s.label? "unique_id" = some "7" ∧ s'.label? "unique_id" = some "" ∧ s'.value = s.value ∧
        ∀ label ≠ "unique_id", s'.label? label = s.label? label := by
  obtain ⟨hcard, hconnector⟩ := plugged_card
  have hslash : SlashFree plugged := slashFree_view (by decide)
  obtain ⟨_, hsurvey⟩ := survey_plugged
  have hname : lossy (Path.ofString "card0") = "card0" := by cbv
  constructor
  · have hreads : (surveyReads plugged (Path.ofString "/")).all (fun q =>
        q = .text (below (Path.ofString "/")
          (cardFile (Path.ofString "card0") (Path.ofString "card0-DP-1") "status")) ∨
        q.Same plugged (freeTree .directory (.file (Path.ofString "7\n"))).view) = true := by cbv
    have hsame := fun q hq => of_decide_eq_true (List.all_eq_true.mp hreads q hq)
    have hfile : attributeAt plugged (below (Path.ofString "/")
        (cardFile (Path.ofString "card0") (Path.ofString "card0-DP-1") "status")) =
          some "connected" := by cbv
    have hfile' : attributeAt (freeTree .directory (.file (Path.ofString "7\n"))).view
        (below (Path.ofString "/")
          (cardFile (Path.ofString "card0") (Path.ofString "card0-DP-1") "status")) = none := by cbv
    obtain ⟨before, s, s', after, hbefore, hafter, hs, hs', hlabels⟩ :=
      exists_of_alike ((free_text_disturbs_nothing hslash hsame).1 _ _ hcard hconnector
        ⟨Schema.connectorStatus, "status", "connected"⟩ (by simp [flags]) rfl) hsurvey
    refine ⟨before, s, s', after, hbefore, hafter, hs.metric, hname ▸ hs.cardLabel, hlabels, ?_, ?_⟩
    · rw [hs.gauge, if_pos hfile]
    · rw [hs'.gauge, hfile', if_neg (by simp)]
  · have hreads : (surveyReads plugged (Path.ofString "/")).all (fun q =>
        q = .text (below (Path.ofString "/") (deviceFile (Path.ofString "card0") "unique_id")) ∨
        q.Same plugged (freeTree (.file (Path.ofString "connected\n")) (.file [0xFF])).view) =
          true := by cbv
    have hsame := fun q hq => of_decide_eq_true (List.all_eq_true.mp hreads q hq)
    obtain ⟨htext, htext'⟩ := textShown_plugged
    obtain ⟨before, s, s', after, hbefore, hafter, hs, hs', hvalue, hothers⟩ :=
      exists_of_alike ((free_text_disturbs_nothing hslash hsame).2 _ hcard
        ("unique_id", "unique_id") (by simp [textFiles]) rfl) hsurvey
    exact ⟨before, s, s', after, hbefore, hafter, hs.metric, hname ▸ hs.cardLabel,
      htext ▸ hs.textLabel, htext' ▸ hs'.textLabel, hvalue, hothers⟩

end Sysfs

end CardTelemetry
