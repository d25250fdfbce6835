import CardTelemetry.Proofs.Sysfs.Order
import CardTelemetry.Proofs.Sysfs.Reads
import Mathlib

/-!
# Which connectors a card has

The connectors of a card are what its directory lists under a name that begins with the card's and
a dash, where that leads to a directory. Names need not be UTF-8, and of two that are shown alike
either may come first. When a reading of connectors fails, and with what, is not considered here.
-/

namespace CardTelemetry.Sysfs

open Files (Name Path Tree View)
open Files.Path (below)
open Text.Utf8 (bytes lossy)

/-- The text of a file is a token, apart from blanks around it. -/
def Says (v : View) (p : Path) (token : String) : Prop :=
  ∃ s, v.text p = .ok s ∧ Text.trimmed s = token

/-- A connector as a name in a card's directory and the files there say. -/
structure Shows (v : View) (root : Path) (card n : Name) (k : Connector) : Prop where
  owner : k.card = lossy card
  name : k.name = lossy n
  full : k.name = k.card ++ "-" ++ k.localName
  connected : k.status = .connected ↔ Says v (below root (cardFile card n "status")) "connected"
  enabled : k.enabled = .enabled ↔ Says v (below root (cardFile card n "enabled")) "enabled"
  on : k.dpms = .on ↔ Says v (below root (cardFile card n "dpms")) "On"

/-- Two views list the same in a card's directory, and of what is named after the card the same
leads to directories. -/
structure SameLayout (v w : View) (root : Path) (card : Name) : Prop where
  names : w.names (below root (cardNames card)) = v.names (below root (cardNames card))
  isDirectory : ∀ n, card ++ Path.ofString "-" <+: n →
    w.isDirectory (below root (cardNames card ++ [n])) =
      v.isDirectory (below root (cardNames card ++ [n]))

/-- A name that a card's directory lists, that begins with the card's and a dash, and that leads to
a directory. -/
def IsConnectorDirectory (v : View) (root : Path) (card : Name) (ns : List Name) (n : Name) : Prop :=
  n ∈ ns ∧ card ++ Path.ofString "-" <+: n ∧
    v.isDirectory (below root (cardNames card ++ [n])) = .ok true

variable {v w : View} {root : Path} {card : Name} {number : Nat} {n : Name}

/-! ### Names -/

/-- A name is named after one card only. -/
theorem eq_of_named_after {other : Name} {i : Nat} (h : IsCardName card number)
    (h' : IsCardName other i) (hn : card ++ Path.ofString "-" <+: n)
    (hn' : other ++ Path.ofString "-" <+: n) : other = card := by
  have hdash {name : Name} {j : Nat} (h : IsCardName name j) : 0x2D ∉ name :=
    fun hmem => absurd (le_toNat_of_mem_card h hmem) (by decide)
  have hsplit {name : Name} (hn : name ++ Path.ofString "-" <+: n) :
      ∃ rest, n = name ++ 0x2D :: rest := by
    obtain ⟨rest, rfl⟩ := hn
    exact ⟨rest, List.append_assoc name _ rest⟩
  obtain ⟨rest, hrest⟩ := hsplit hn
  obtain ⟨rest', hrest'⟩ := hsplit hn'
  exact ((Path.append_cons_inj (hdash h') (hdash h)).mp (hrest'.symm.trans hrest)).1

theorem isConnectorName_iff {ns : List Name} (h : IsCardName card number)
    (hns : v.names (below root (cardNames card)) = .ok ns) :
    IsConnectorName v (cardEntry root card) n ↔ IsConnectorDirectory v root card ns n := by
  have hmem : (∃ ms, v.names (cardEntry root card).path = .ok ms ∧ n ∈ ms) ↔ n ∈ ns := by
    rw [path_cardEntry, hns]
    simp
  exact and_congr hmem (and_congr_left' (belongsTo_iff h))

/-! ### What is shown -/

theorem attributeAt_eq_some_iff_says {p : Path} {token : String} :
    attributeAt v p = some token ↔ Says v p token := by
  rw [attributeAt_eq_some_iff, Says]
  simp only [eq_comm]

theorem shows_connectorRead (h : IsCardName card number) (hn : card ++ Path.ofString "-" <+: n) :
    Shows v root card n
      (connectorRead v (lossy card) (Entry.ofName (below root (cardNames card)) n)) where
  owner := rfl
  name := rfl
  full := by
    have hbelongs : belongsTo (lossy card) (Entry.ofName (below root (cardNames card)) n) = true :=
      (belongsTo_iff h).mpr hn
    rw [← String.toList_inj, String.toList_append, String.toList_append, List.append_assoc]
    exact toList_localName hbelongs
  connected := status_connectorRead_iff.trans attributeAt_eq_some_iff_says
  enabled := enabled_connectorRead_iff.trans attributeAt_eq_some_iff_says
  on := dpms_connectorRead_iff.trans attributeAt_eq_some_iff_says

/-! ### What is listed -/

theorem exists_names_connectorsListed (v : View) (e : Entry) :
    ∃ named : List Name, connectorsListed v e = named.map (Entry.ofName e.path) := by
  have hrange : connectorsListed v e ∈ Set.range (List.map (Entry.ofName e.path)) := by
    rw [Set.range_list_map]
    intro k hk
    obtain ⟨n, -, rfl⟩ := mem_connectorsListed_iff.mp hk
    exact ⟨n, rfl⟩
  obtain ⟨named, hnamed⟩ := hrange
  exact ⟨named, hnamed.symm⟩

namespace SameLayout

variable (hsame : SameLayout v w root card) (hcard : IsCardName card number)

include hsame

theorem entries_eq : entries w (cardEntry root card).path = entries v (cardEntry root card).path := by
  rw [entries, entries, path_cardEntry, hsame.names]

include hcard

theorem isDirectory_eq {es : List Entry} (hes : entries v (cardEntry root card).path = .ok es)
    {e : Entry} (he : e ∈ es) (hbelongs : belongsTo (lossy card) e = true) :
    w.isDirectory e.path = v.isDirectory e.path := by
  obtain ⟨ns, -, rfl⟩ := entries_eq_ok_iff.mp hes
  obtain ⟨n, -, rfl⟩ := List.mem_map.mp he
  exact hsame.isDirectory n ((belongsTo_iff hcard).mp hbelongs)

theorem connectorEntries_eq {es : List Entry}
    (hes : entries v (cardEntry root card).path = .ok es) :
    connectorEntries w (lossy card) es = connectorEntries v (lossy card) es := by
  apply List.filter_congr
  intro e he
  cases hbelongs : belongsTo (lossy card) e with
  | false => rfl
  | true => rw [hsame.isDirectory_eq hcard hes he hbelongs]

theorem connectorsListed_eq :
    connectorsListed w (cardEntry root card) = connectorsListed v (cardEntry root card) := by
  unfold connectorsListed
  rw [hsame.entries_eq]
  cases hes : entries v (cardEntry root card).path with
  | error f => rfl
  | ok es =>
    have hfound := hsame.connectorEntries_eq hcard hes
    show (connectorEntries w (lossy card) es).mergeSort _ = _
    rw [hfound]
    rfl

/-- The connectors can be read in both views or in neither. -/
theorem exists_outcome {cs : List Connector}
    (h : (connectorsOf v (cardEntry root card)).outcome = .ok cs) :
    ∃ cs', (connectorsOf w (cardEntry root card)).outcome = .ok cs' := by
  obtain ⟨es, hes, hseen, -⟩ := outcome_connectorsOf_eq_ok_iff.mp h
  refine ⟨_, outcome_connectorsOf_eq_ok_iff.mpr ⟨es, ?_, ?_, rfl⟩⟩
  · rw [hsame.entries_eq, hes]
  · intro e he hbelongs
    rw [hsame.isDirectory_eq hcard hes he hbelongs]
    exact hseen e he hbelongs

end SameLayout

/-- What is read as the connectors are the names that are listed as such, in order. -/
theorem forall₂_shows (hcard : IsCardName card number) {named : List Name}
    (hnamed : connectorsListed v (cardEntry root card) =
      named.map (Entry.ofName (cardEntry root card).path))
    {cs : List Connector} (h : (connectorsOf v (cardEntry root card)).outcome = .ok cs)
    (hnamedAfter : ∀ n ∈ named, card ++ Path.ofString "-" <+: n) :
    List.Forall₂ (Shows v root card) named cs := by
  rw [connectors_eq h, hnamed, List.map_map, List.forall₂_map_right_iff, List.forall₂_same]
  intro n hn
  exact shows_connectorRead hcard (hnamedAfter n hn)

/-- **The connectors of a card are the directories among what is named after it**, one for each and
in the order of the names as they are shown. Files of attributes, whatever becomes of them, add
none and take none away. -/
theorem connectors_of_card (hcard : IsCardName card number) {cs : List Connector}
    (h : (connectorsOf v (cardEntry root card)).outcome = .ok cs) :
    ∃ ns named, v.names (below root (cardNames card)) = .ok ns ∧ named.Nodup ∧
      (∀ n, n ∈ named ↔ IsConnectorDirectory v root card ns n) ∧
      List.Forall₂ (Shows v root card) named cs ∧
      (∀ n ∈ named, ∀ other i, IsCardName other i → other ++ Path.ofString "-" <+: n → other = card) ∧
      cs.Pairwise (fun a b => bytes a.name ≤ bytes b.name) ∧
      ∀ w, SameLayout v w root card → ∃ cs',
        (connectorsOf w (cardEntry root card)).outcome = .ok cs' ∧
          List.Forall₂ (Shows w root card) named cs' := by
  obtain ⟨es, hes, -, hsorted⟩ := outcome_connectorsOf_eq_ok_iff.mp h
  obtain ⟨ns, hns, -⟩ := entries_eq_ok_iff.mp hes
  obtain ⟨named, hnamed⟩ := exists_names_connectorsListed v (cardEntry root card)
  have hinj := injective_ofName (cardEntry root card).path
  have hmem (n : Name) : n ∈ named ↔ IsConnectorDirectory v root card ns n := by
    rw [← isConnectorName_iff hcard hns, ← List.mem_map_of_injective hinj, ← hnamed,
      mem_connectorsListed_iff]
    constructor
    · intro hn
      obtain ⟨m, hm, heq⟩ := hn
      rwa [hinj heq]
    · exact fun hn => ⟨n, hn, rfl⟩
  have hnamedAfter (n : Name) (hn : n ∈ named) : card ++ Path.ofString "-" <+: n :=
    ((hmem n).mp hn).2.1
  refine ⟨ns, named, hns, ?_, hmem, forall₂_shows hcard hnamed h hnamedAfter, ?_, ?_, ?_⟩
  · have hnodup : (connectorsListed v (cardEntry root card)).Nodup := nodup_connectorsListed
    rw [hnamed] at hnodup
    exact hnodup.of_map
  · intro n hn other i hother hothers
    exact eq_of_named_after hcard hother (hnamedAfter n hn) hothers
  · rw [hsorted]
    exact pairwise_mergeSort_connectors _
  · intro w hsame
    obtain ⟨cs', hcs'⟩ := hsame.exists_outcome hcard h
    have hnamed' := (hsame.connectorsListed_eq hcard).trans hnamed
    exact ⟨cs', hcs', forall₂_shows hcard hnamed' hcs' hnamedAfter⟩

/-- A card whose directory has, beside two connectors, one of them through a link: names of other
cards, a name that ends with the dash, a file, a link to it, and two names that are shown alike. -/
def crowded : Tree where
  nodes :=
    [(classNames.take 1, .directory), (classNames, .directory),
      (cardNames (Path.ofString "card1"), .directory)] ++
      ([("card10-A", .directory), ("card01-A", .directory), ("card1-", .directory),
        ("card1-C", .file []), ("card1-D", .link (Path.ofString "card1-C")),
        ("card1-B", .link (Path.ofString "card1-A")), ("card1-A", .directory)].map
          fun entry => (cardNames (Path.ofString "card1") ++ [Path.ofString entry.1], entry.2)) ++
      [(cardNames (Path.ofString "card1") ++ [Path.ofString "card1-" ++ [0xFE]], .directory),
        (cardNames (Path.ofString "card1") ++ [Path.ofString "card1-" ++ [0xFF]], .directory),
        (cardFile (Path.ofString "card1") (Path.ofString "card1-A") "status",
          .file (bytes " connected\n")),
        (cardFile (Path.ofString "card1") (Path.ofString "card1-A") "enabled", .directory)]
  distinct := by decide

theorem connectors_of_card_crowded :
    ∃ named, named.Nodup ∧
      List.Forall₂ (Shows crowded.view (Path.ofString "/") (Path.ofString "card1")) named
        [⟨"card1-", "card1", .unknown, .unknown, .unknown⟩,
          ⟨"card1-A", "card1", .connected, .unknown, .unknown⟩,
          ⟨"card1-B", "card1", .connected, .unknown, .unknown⟩,
          ⟨"card1-\uFFFD", "card1", .unknown, .unknown, .unknown⟩,
          ⟨"card1-\uFFFD", "card1", .unknown, .unknown, .unknown⟩] := by
  have hcard : IsCardName (Path.ofString "card1") 1 := cardNumber?_lossy_iff.mp (by cbv)
  have hread :
      (connectorsOf crowded.view (cardEntry (Path.ofString "/") (Path.ofString "card1"))).outcome =
        .ok [⟨"card1-", "card1", .unknown, .unknown, .unknown⟩,
          ⟨"card1-A", "card1", .connected, .unknown, .unknown⟩,
          ⟨"card1-B", "card1", .connected, .unknown, .unknown⟩,
          ⟨"card1-\uFFFD", "card1", .unknown, .unknown, .unknown⟩,
          ⟨"card1-\uFFFD", "card1", .unknown, .unknown, .unknown⟩] := by cbv
  obtain ⟨ns, named, -, hnodup, -, hshows, -⟩ := connectors_of_card hcard hread
  exact ⟨named, hnodup, hshows⟩

end CardTelemetry.Sysfs
