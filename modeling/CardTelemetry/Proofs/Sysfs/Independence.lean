import CardTelemetry.Proofs.Sysfs.Dependence

/-!
# Cards do not depend on each other

What is read of a card is at its directory or below it. So a card that is added to the directory of
cards changes no sample of another: a survey of the larger tree has the samples of the smaller one,
in their order, and those of the further card among them. Entries that are no cards show nowhere.
Two trees are compared only in what is read of the cards that both have; that such reads do not lead
to the further card through a link is not derived.
-/

namespace CardTelemetry

open Files (Name Node Path Tree View)

namespace Sysfs

open Files.Path (below)
open Text.Utf8 (lossy)
open Collector (connectorSamples enableSample gaugeSamples infoSample survey)

/-- All that is read of a card. -/
def ownReads (v : View) (e : Entry) : List Read := cardReads v e ++ recordReads v e

/-- A card and its record can be read. -/
structure Readable (v : View) (e : Entry) : Prop where
  card : ∃ c, (cardOf v e).outcome = .ok c
  record : ∃ s, (statsOf v e).outcome = .ok s

/-- What is read of the cards in the first view has the same answers in the second. -/
def SameReads (v w : View) (root : Path) : Prop :=
  ∀ card, IsCard v root card → ∀ q ∈ ownReads v (cardEntry root card), q.Same v w

/-- The second view's directory of cards lists what the first one's lists, and one card more. -/
structure OneMore (v w : View) (root : Path) (card : Name) : Prop where
  names : ∃ ns ms, v.names (below root classNames) = .ok ns ∧
    w.names (below root classNames) = .ok ms ∧ ms.Perm (card :: ns)
  isCardName : ∃ number, IsCardName card number
  reads : SameReads v w root

/-- Two directories of cards list the same cards, and otherwise what they like. -/
structure SameCards (v w : View) (root : Path) : Prop where
  names : ∃ ns ms, v.names (below root classNames) = .ok ns ∧
    w.names (below root classNames) = .ok ms ∧
    ∀ n, (∃ number, IsCardName n number) → (n ∈ ms ↔ n ∈ ns)
  reads : SameReads v w root

variable {v w : View} {root : Path} {e : Entry} {es es' : List Entry} {card : Name}

/-! ### Reads of one card -/

/-- A path is that of a directory or leads on from there. -/
def AtOrBelow (directory p : Path) : Prop := p = directory ∨ ∃ x, p = directory.join x

theorem AtOrBelow.join {directory p : Path} (h : AtOrBelow directory p) (n : Name) :
    AtOrBelow directory (p.join n) := by
  obtain rfl | ⟨x, rfl⟩ := h
  · exact .inr ⟨n, rfl⟩
  · by_cases hx : x = []
    · subst hx
      refine .inr ⟨n, ?_⟩
      unfold Path.join
      split
      · simp [*]
      · simp
    · exact .inr ⟨Path.join x n, Path.join_join hx directory n⟩

/-- What is read of a card is at its directory or below it. -/
theorem atOrBelow_of_mem_ownReads : ∀ q ∈ ownReads v e, AtOrBelow e.path q.path := by
  have hdevice : AtOrBelow e.path (deviceOf e.path) := .inr ⟨_, rfl⟩
  have hfile (file : String) : AtOrBelow e.path (Read.ofFile (deviceOf e.path) file).path :=
    hdevice.join _
  refine List.forall_mem_append.mpr ⟨?_, ?_⟩
  · refine forall_mem_readsThen.mpr ⟨forall_mem_readsThen.mpr ⟨?_, ?_⟩, fun _ _ => ?_⟩
    · exact List.forall_mem_singleton.mpr (hdevice.join _)
    · intro linked _
      split
      · exact List.forall_mem_singleton.mpr (hfile "uevent")
      · simp
    refine forall_mem_readsThen.mpr ⟨List.forall_mem_singleton.mpr (hfile "enable"), fun _ _ => ?_⟩
    refine forall_mem_readsThen.mpr ⟨List.forall_mem_singleton.mpr (.inl rfl), ?_⟩
    intro es hes
    obtain ⟨ns, -, rfl⟩ := entries_eq_ok_iff.mp hes
    apply forall_mem_readsEach
    intro k hk
    obtain ⟨n, -, rfl⟩ := List.mem_map.mp (List.mem_of_mem_filter hk)
    have hentry : AtOrBelow e.path (Entry.ofName e.path n).path := .inr ⟨n, rfl⟩
    refine List.forall_mem_cons.mpr ⟨hentry, ?_⟩
    split
    · intro q hq
      obtain ⟨file, -, rfl⟩ := List.mem_map.mp hq
      exact hentry.join _
    · simp
  · refine forall_mem_readsThen.mpr ⟨List.forall_mem_singleton.mpr (hfile "uevent"), ?_⟩
    intro listed _
    split
    · refine forall_mem_readsThen.mpr ⟨?_, fun _ _ => ?_⟩
      · exact forall_mem_readsEach fun file _ => List.forall_mem_singleton.mpr (hfile file)
      · intro q hq
        obtain ⟨file, -, rfl⟩ := List.mem_map.mp hq
        exact hfile file
    · simp

section SameReads

variable (h : ∀ q ∈ ownReads v e, q.Same v w)

include h

theorem cardOf_of_ownReads : cardOf w e = cardOf v e :=
  cardOf_of_same (List.forall_mem_append.mp h).1

theorem statsOf_of_ownReads : statsOf w e = statsOf v e :=
  statsOf_of_same (List.forall_mem_append.mp h).2

theorem readable_iff_of_ownReads : Readable w e ↔ Readable v e := by
  have hcard := cardOf_of_ownReads h
  have hrecord := statsOf_of_ownReads h
  constructor
  · rintro ⟨hc, hs⟩
    exact ⟨hcard ▸ hc, hrecord ▸ hs⟩
  · rintro ⟨hc, hs⟩
    exact ⟨hcard.symm ▸ hc, hrecord.symm ▸ hs⟩

/-- What is found of a readable card is the same. -/
theorem cardRead_of_ownReads (hreadable : Readable v e) : cardRead w e = cardRead v e := by
  obtain ⟨c, hc⟩ := hreadable.card
  rw [← eq_cardRead hc, eq_cardRead ((congrArg Job.outcome (cardOf_of_ownReads h)).trans hc)]

theorem recordRead_of_ownReads (hreadable : Readable v e) : recordRead w e = recordRead v e := by
  obtain ⟨s, hs⟩ := hreadable.record
  rw [← eq_recordRead hs, eq_recordRead ((congrArg Job.outcome (statsOf_of_ownReads h)).trans hs)]

end SameReads

/-! ### Surveys by cards -/

/-- A survey succeeds exactly where the cards are listed and each of them can be read. -/
theorem survey_eq_ok_iff_readable {samples : List Sample} :
    (survey (source v root)).outcome = .ok samples ↔
      ∃ es, cardEntries v root = .ok es ∧ (∀ e ∈ es, Readable v e) ∧ samples = samplesRead v es := by
  constructor
  · intro h
    obtain ⟨es, hes, hsamples⟩ := survey_eq_ok h
    obtain ⟨cards, stats, hcards, hstats, -⟩ := Collector.survey_eq_ok_iff.mp h
    refine ⟨es, hes, ?_, hsamples⟩
    intro e he
    obtain ⟨card, hcard, rfl⟩ := (mem_cardEntries_iff hes).mp he
    obtain ⟨c, -, hc⟩ := exists_outcome_of_eachCard hcards hcard
    obtain ⟨s, -, hs⟩ := exists_outcome_of_eachCard hstats hcard
    exact ⟨⟨c, hc⟩, s, hs⟩
  · rintro ⟨es, hes, hreadable, rfl⟩
    obtain ⟨cards, hcards⟩ := Job.exists_outcome_each_eq_ok.mpr fun e he => (hreadable e he).card
    obtain ⟨stats, hstats⟩ := Job.exists_outcome_each_eq_ok.mpr fun e he => (hreadable e he).record
    have hcards' := outcome_allCards_eq_ok.mpr ⟨es, hes, Job.outcome_each_eq_ok.mp hcards⟩
    have hstats' := outcome_allStats_eq_ok.mpr ⟨es, hes, Job.outcome_each_eq_ok.mp hstats⟩
    refine Collector.survey_eq_ok_iff.mpr ⟨cards, stats, hcards', hstats', ?_⟩
    rw [eq_map_of_each (fun _ _ => eq_cardRead) hcards,
      eq_map_of_each (fun _ _ => eq_recordRead) hstats,
      surveySamples_read (nodup_name_of_cardEntries hes)]

theorem samplesRead_congr (hcards : ∀ e ∈ es, cardRead w e = cardRead v e)
    (hrecords : ∀ e ∈ es, recordRead w e = recordRead v e) : samplesRead w es = samplesRead v es := by
  have hconnectors (u : View) (e : Entry) :
      connectorsSamples u e = (cardRead u e).connectors.flatMap connectorSamples := by
    rw [cardRead, List.flatMap_map]
    rfl
  have hrecord (u : View) (e : Entry) : recordSamples u e =
      infoSample (cardRead u e).driver (recordRead u e) :: gaugeSamples (recordRead u e) := rfl
  rw [samplesRead, samplesRead]
  congr 1
  · congr 1
    · exact List.map_congr_left fun e he => by rw [hcards e he]
    · exact List.flatMap_congr fun e he => by rw [hconnectors, hconnectors, hcards e he]
  · exact List.flatMap_congr fun e he => by rw [hrecord, hrecord, hcards e he, hrecords e he]

/-- Blocks whose members all have a name keep or lose all of them when a name is left out. -/
theorem filter_flatMap_of_name {α β : Type} {block : α → List β} {name : α → String}
    {label : β → Option String} (h : ∀ a, ∀ b ∈ block a, label b = some (name a)) (n : String)
    (as : List α) :
    (as.flatMap block).filter (fun b => label b ≠ some n) =
      (as.filter fun a => name a ≠ n).flatMap block := by
  induction as with
  | nil => rfl
  | cons a as ih =>
    rw [List.flatMap_cons, List.filter_append, ih]
    by_cases hn : name a = n
    · have hnone : (block a).filter (fun b => label b ≠ some n) = [] := by
        rw [List.filter_eq_nil_iff]
        intro b hb
        simp [h a b hb, hn]
      rw [hnone, List.filter_cons_of_neg (by simp [hn]), List.nil_append]
    · have hall : (block a).filter (fun b => label b ≠ some n) = block a := by
        rw [List.filter_eq_self]
        intro b hb
        simp [h a b hb, hn]
      rw [hall, List.filter_cons_of_pos (by simp [hn]), List.flatMap_cons]

/-- Without the samples of a name there are those of the entries with other names. -/
theorem filter_samplesRead (v : View) (es : List Entry) (name : String) :
    (samplesRead v es).filter (fun s => s.label? "card" ≠ some name) =
      samplesRead v (es.filter fun e => e.name ≠ name) := by
  have henable (e : Entry) : ∀ s ∈ [enableSample (cardRead v e)],
      s.label? "card" = some e.name := by
    intro s hs
    rw [List.mem_singleton.mp hs]
    rfl
  have hconnectors (e : Entry) : ∀ s ∈ connectorsSamples v e, s.label? "card" = some e.name := by
    intro s hs
    obtain ⟨k, -, hs⟩ := List.mem_flatMap.mp hs
    simp only [connectorSamples, List.mem_cons, List.not_mem_nil, or_false] at hs
    obtain rfl | rfl | rfl := hs <;> rfl
  have hrecord (e : Entry) : ∀ s ∈ recordSamples v e, s.label? "card" = some e.name := by
    intro s hs
    simp only [recordSamples, gaugeSamples, List.mem_cons, List.not_mem_nil, or_false] at hs
    obtain rfl | rfl | rfl | rfl | rfl | rfl | rfl | rfl := hs <;> rfl
  have hmap (es : List Entry) : (es.map fun e => enableSample (cardRead v e)) =
      es.flatMap fun e => [enableSample (cardRead v e)] := List.map_eq_flatMap
  rw [samplesRead, samplesRead, List.filter_append, List.filter_append, hmap, hmap,
    filter_flatMap_of_name henable, filter_flatMap_of_name hconnectors,
    filter_flatMap_of_name hrecord]

/-! ### Directories of cards -/

/-- Listings with the same cards are the same. -/
theorem cardEntries_unique (h : cardEntries v root = .ok es)
    (hsorted : es'.Pairwise EntryBefore) (hmem : ∀ e, e ∈ es' ↔ e ∈ es) : es' = es := by
  obtain ⟨-, -, -, hes⟩ := cardEntries_listed h
  have hnodup {es : List Entry} (h : es.Pairwise EntryBefore) : es.Nodup :=
    h.imp fun hab heq => hab.ne (congrArg (fun e => Text.Utf8.bytes e.name) heq)
  have hperm := (List.perm_ext_iff_of_nodup (hnodup hsorted) (hnodup hes)).mpr hmem
  refine hperm.eq_of_pairwise ?_ hsorted hes
  intro a b _ _ hab hba
  exact absurd hba (entryBefore_asymm hab)

theorem exists_cardEntries {ns : List Name} (h : v.names (below root classNames) = .ok ns) :
    ∃ es, cardEntries v root = .ok es := by
  have hentries : entries v (classDirectory root) =
      .ok (ns.map (Entry.ofName (classDirectory root))) := entries_eq_ok_iff.mpr ⟨ns, h, rfl⟩
  exact ⟨_, by rw [cardEntries, hentries]; rfl⟩

theorem isCard_iff {ns : List Name} (h : v.names (below root classNames) = .ok ns) :
    IsCard v root card ↔ card ∈ ns ∧ ∃ number, IsCardName card number := by
  simp [IsCard, h]

theorem name_cardEntry_eq_iff {card' : Name} (h : ∃ number, IsCardName card number)
    (h' : ∃ number, IsCardName card' number) :
    (cardEntry root card).name = lossy card' ↔ card = card' := by
  obtain ⟨_, h⟩ := h
  obtain ⟨_, h'⟩ := h'
  constructor
  · intro heq
    rw [← bytes_lossy_of_cardNumber? (cardNumber?_lossy_iff.mpr h),
      ← bytes_lossy_of_cardNumber? (cardNumber?_lossy_iff.mpr h')]
    exact congrArg Text.Utf8.bytes heq
  · rintro rfl
    rfl

/-- The listing of the larger directory without the further card is that of the smaller one. -/
theorem OneMore.cardEntries (h : OneMore v w root card) :
    ∃ es es', Sysfs.cardEntries v root = .ok es ∧ Sysfs.cardEntries w root = .ok es' ∧
      (es'.filter fun e => e.name ≠ lossy card) = es ∧
      ∀ e ∈ es', e = cardEntry root card ∨ e ∈ es := by
  obtain ⟨ns, ms, hns, hms, hperm⟩ := h.names
  obtain ⟨es, hes⟩ := exists_cardEntries hns
  obtain ⟨es', hes'⟩ := exists_cardEntries hms
  have hnew : card ∉ ns := (List.nodup_cons.mp (hperm.nodup_iff.mp (w.distinct hms))).1
  have hmem (e : Entry) : e ∈ es' ↔ e = cardEntry root card ∨ e ∈ es := by
    rw [mem_cardEntries_iff hes', mem_cardEntries_iff hes]
    simp only [isCard_iff hns, isCard_iff hms, hperm.mem_iff, List.mem_cons, or_and_right,
      exists_or]
    refine or_congr ?_ Iff.rfl
    constructor
    · rintro ⟨card', ⟨rfl, -⟩, rfl⟩
      rfl
    · rintro rfl
      exact ⟨card, ⟨rfl, h.isCardName⟩, rfl⟩
  refine ⟨es, es', hes, hes', ?_, fun e => (hmem e).mp⟩
  obtain ⟨-, -, -, hsorted⟩ := cardEntries_listed hes'
  apply cardEntries_unique hes (hsorted.filter _)
  intro e
  rw [List.mem_filter, hmem, decide_eq_true_iff]
  constructor
  · rintro ⟨rfl | he, hne⟩
    · exact absurd rfl hne
    · exact he
  · intro he
    refine ⟨.inr he, ?_⟩
    obtain ⟨card', hcard', rfl⟩ := (mem_cardEntries_iff hes).mp he
    rw [isCard_iff hns] at hcard'
    rw [ne_eq, name_cardEntry_eq_iff hcard'.2 h.isCardName]
    rintro rfl
    exact hnew hcard'.1

/-- Directories with the same cards have the same listing of them. -/
theorem SameCards.cardEntries (h : SameCards v w root) :
    ∃ es, Sysfs.cardEntries v root = .ok es ∧ Sysfs.cardEntries w root = .ok es := by
  obtain ⟨ns, ms, hns, hms, hsame⟩ := h.names
  obtain ⟨es, hes⟩ := exists_cardEntries hns
  obtain ⟨es', hes'⟩ := exists_cardEntries hms
  obtain ⟨-, -, -, hsorted⟩ := cardEntries_listed hes'
  have heq : es' = es := by
    apply cardEntries_unique hes hsorted
    intro e
    rw [mem_cardEntries_iff hes', mem_cardEntries_iff hes]
    simp only [isCard_iff hns, isCard_iff hms]
    refine exists_congr fun card => and_congr_left fun _ => and_congr_left fun hcard => ?_
    exact hsame card hcard
  exact ⟨es, hes, heq ▸ hes'⟩

/-! ### Trees with the same cards but one -/

theorem SameReads.of_mem (h : SameReads v w root) (hes : cardEntries v root = .ok es)
    (he : e ∈ es) : ∀ q ∈ ownReads v e, q.Same v w := by
  obtain ⟨card, hcard, rfl⟩ := (mem_cardEntries_iff hes).mp he
  exact h card hcard

/-- The samples of the cards of the first view are the same in the second. -/
theorem SameReads.samplesRead (h : SameReads v w root) (hes : cardEntries v root = .ok es)
    (hreadable : ∀ e ∈ es, Readable v e) : Sysfs.samplesRead w es = Sysfs.samplesRead v es :=
  samplesRead_congr (fun e he => cardRead_of_ownReads (h.of_mem hes he) (hreadable e he))
    fun e he => recordRead_of_ownReads (h.of_mem hes he) (hreadable e he)

/-- A survey of the larger tree shows that of the smaller one. -/
theorem OneMore.survey_of_larger (h : OneMore v w root card) {samples : List Sample}
    (hsurvey : (survey (source w root)).outcome = .ok samples) :
    (survey (source v root)).outcome =
      .ok (samples.filter fun s => s.label? "card" ≠ some (lossy card)) := by
  obtain ⟨es, es', hes, hes', hfilter, -⟩ := h.cardEntries
  obtain ⟨es'', hes'', hreadable, rfl⟩ := survey_eq_ok_iff_readable.mp hsurvey
  obtain rfl : es' = es'' := Except.ok.inj (hes'.symm.trans hes'')
  have hreadable' : ∀ e ∈ es, Readable v e := by
    intro e he
    rw [← readable_iff_of_ownReads (h.reads.of_mem hes he)]
    rw [← hfilter] at he
    exact hreadable e (List.mem_of_mem_filter he)
  rw [filter_samplesRead, hfilter, h.reads.samplesRead hes hreadable']
  exact survey_eq_ok_iff_readable.mpr ⟨es, hes, hreadable', rfl⟩

/-- A survey of the larger tree succeeds where the further card can be read. -/
theorem OneMore.exists_survey (h : OneMore v w root card) {samples : List Sample}
    (hsurvey : (survey (source v root)).outcome = .ok samples)
    (hcard : Readable w (cardEntry root card)) :
    ∃ samples', (survey (source w root)).outcome = .ok samples' := by
  obtain ⟨es, es', hes, hes', -, hmem⟩ := h.cardEntries
  obtain ⟨es'', hes'', hreadable, -⟩ := survey_eq_ok_iff_readable.mp hsurvey
  obtain rfl : es = es'' := Except.ok.inj (hes.symm.trans hes'')
  refine ⟨_, survey_eq_ok_iff_readable.mpr ⟨es', hes', ?_, rfl⟩⟩
  intro e he
  obtain rfl | he := hmem e he
  · exact hcard
  · exact (readable_iff_of_ownReads (h.reads.of_mem hes he)).mpr (hreadable e he)

theorem eachCard_of_sameCards {β : Type} {job : View → Entry → Job β} (h : SameCards v w root)
    (hjob : ∀ e, (∀ q ∈ ownReads v e, q.Same v w) → job w e = job v e) :
    (Job.ofExcept (cardEntries w root)).andThen (Job.each (job w)) =
      (Job.ofExcept (cardEntries v root)).andThen (Job.each (job v)) := by
  obtain ⟨es, hes, hes'⟩ := h.cardEntries
  rw [hes, hes']
  apply Job.andThen_congr rfl
  rintro _ ⟨⟩
  -- the jobs are the same whatever they read, so of the reads nothing is asked
  have hreads : ∀ q ∈ readsEach (job v) (fun _ => []) es, True := fun _ _ => trivial
  exact each_congr (fun e he _ => hjob e (h.reads.of_mem hes he)) hreads

/-- **Cards do not depend on each other.** With one card more in a tree a survey has the samples it
has without it, in the same order, and those of that card; it succeeds where it does without it and
the card can be read. Entries that are no cards change no result and no fault. -/
theorem cards_independent (v w : View) (root : Path) :
    (∀ card, OneMore v w root card →
      (∀ samples, (survey (source w root)).outcome = .ok samples →
        (survey (source v root)).outcome =
          .ok (samples.filter fun s => s.label? "card" ≠ some (lossy card))) ∧
      ∀ samples, (survey (source v root)).outcome = .ok samples →
        Readable w (cardEntry root card) →
          ∃ samples', (survey (source w root)).outcome = .ok samples') ∧
      (SameCards v w root →
        allCards w root = allCards v root ∧ allStats w root = allStats v root ∧
          survey (source w root) = survey (source v root)) := by
  constructor
  · intro card h
    exact ⟨fun _ => h.survey_of_larger, fun _ => h.exists_survey⟩
  · intro h
    have hcards : allCards w root = allCards v root :=
      eachCard_of_sameCards h fun _ => cardOf_of_ownReads
    have hstats : allStats w root = allStats v root :=
      eachCard_of_sameCards h fun _ => statsOf_of_ownReads
    exact ⟨hcards, hstats, by rw [source, source, hcards, hstats]⟩

/-- A tree of directories. -/
def directoriesAt (places : List (List String))
    (h : (places.map fun place => place.map Path.ofString).Nodup) : Tree where
  nodes := places.map fun place => (place.map Path.ofString, .directory)
  distinct := by simpa [List.Nodup, List.pairwise_map] using h

/-- Two cards whose names begin alike, the second with a connector. -/
def twoCards : List (List String) :=
  [["class"], ["class", "drm"], ["class", "drm", "card1"], ["class", "drm", "card10"],
    ["class", "drm", "card10", "card10-DP-1"]]

def pair : View := (directoriesAt twoCards (by decide)).view

/-- A card more, of the same number as one that is there and listed before it. -/
def trio : View := (directoriesAt (twoCards ++ [["class", "drm", "card01"]]) (by decide)).view

def pairAndNode : View :=
  (directoriesAt (twoCards ++ [["class", "drm", "renderD128"]]) (by decide)).view

theorem isCard_pair {card : Name} :
    IsCard pair (Path.ofString "/") card ↔
      card = Path.ofString "card1" ∨ card = Path.ofString "card10" := by
  have hnames : pair.names (below (Path.ofString "/") classNames) =
      .ok [Path.ofString "card1", Path.ofString "card10"] := by cbv
  have hone : IsCardName (Path.ofString "card1") 1 := cardNumber?_lossy_iff.mp (by cbv)
  have hten : IsCardName (Path.ofString "card10") 10 := cardNumber?_lossy_iff.mp (by cbv)
  rw [isCard_iff hnames, List.mem_cons, List.mem_singleton]
  constructor
  · exact And.left
  · rintro (rfl | rfl)
    · exact ⟨.inl rfl, _, hone⟩
    · exact ⟨.inr rfl, _, hten⟩

theorem sameReads_pair
    (hone : (ownReads pair (cardEntry (Path.ofString "/") (Path.ofString "card1"))).all
      (fun q => q.Same pair w) = true)
    (hten : (ownReads pair (cardEntry (Path.ofString "/") (Path.ofString "card10"))).all
      (fun q => q.Same pair w) = true) : SameReads pair w (Path.ofString "/") := by
  intro card hcard q hq
  obtain rfl | rfl := isCard_pair.mp hcard
  · exact of_decide_eq_true (List.all_eq_true.mp hone q hq)
  · exact of_decide_eq_true (List.all_eq_true.mp hten q hq)

theorem oneMore_trio : OneMore pair trio (Path.ofString "/") (Path.ofString "card01") where
  names := ⟨[Path.ofString "card1", Path.ofString "card10"],
    [Path.ofString "card1", Path.ofString "card10", Path.ofString "card01"], by cbv, by cbv,
    List.perm_append_singleton _ [Path.ofString "card1", Path.ofString "card10"]⟩
  isCardName := ⟨1, cardNumber?_lossy_iff.mp (by cbv)⟩
  reads := sameReads_pair (by cbv) (by cbv)

theorem sameCards_pairAndNode : SameCards pair pairAndNode (Path.ofString "/") where
  names := by
    refine ⟨[Path.ofString "card1", Path.ofString "card10"],
      [Path.ofString "card1", Path.ofString "card10", Path.ofString "renderD128"], by cbv, by cbv,
      ?_⟩
    rintro n ⟨number, hn⟩
    have hnode : n ≠ Path.ofString "renderD128" := by
      rintro rfl
      have hnone : cardNumber? (lossy (Path.ofString "renderD128")) = none := by cbv
      exact absurd (cardNumber?_lossy_iff.mpr hn) (by simp [hnone])
    simp [hnode]
  reads := sameReads_pair (by cbv) (by cbv)

/-- The further card stands before one of its number and between cards whose names begin alike; an
entry that is no card goes unseen. -/
theorem cards_independent_pair :
    (∃ samples, (survey (source trio (Path.ofString "/"))).outcome = .ok samples ∧
      (survey (source pair (Path.ofString "/"))).outcome =
        .ok (samples.filter fun s => s.label? "card" ≠ some "card01")) ∧
      survey (source pairAndNode (Path.ofString "/")) = survey (source pair (Path.ofString "/")) := by
  have hcards : (allCards pair (Path.ofString "/")).outcome =
      .ok [⟨"card1", "", false, []⟩, ⟨"card10", "", false,
        [⟨"card10-DP-1", "card10", .unknown, .unknown, .unknown⟩]⟩] := by cbv
  have hstats : (allStats pair (Path.ofString "/")).outcome =
      .ok [.nameOnly "card1", .nameOnly "card10"] := by cbv
  have hsurvey := (@Collector.survey_eq_ok_iff (source pair (Path.ofString "/")) _).mpr
    ⟨_, _, hcards, hstats, rfl⟩
  have hcard : (cardOf trio (cardEntry (Path.ofString "/") (Path.ofString "card01"))).outcome =
      .ok ⟨"card01", "", false, []⟩ := by cbv
  have hrecord : (statsOf trio (cardEntry (Path.ofString "/") (Path.ofString "card01"))).outcome =
      .ok (.nameOnly "card01") := by cbv
  obtain ⟨hmore, -⟩ := cards_independent pair trio (Path.ofString "/")
  obtain ⟨hsmaller, hlarger⟩ := hmore _ oneMore_trio
  obtain ⟨samples, hsamples⟩ := hlarger _ hsurvey ⟨⟨_, hcard⟩, _, hrecord⟩
  have hlossy : lossy (Path.ofString "card01") = "card01" := by cbv
  refine ⟨⟨samples, hsamples, hlossy ▸ hsmaller samples hsamples⟩, ?_⟩
  exact ((cards_independent pair pairAndNode (Path.ofString "/")).2 sameCards_pairAndNode).2.2

end Sysfs

end CardTelemetry
