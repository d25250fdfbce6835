import CardTelemetry.Proofs.Sysfs.Independence

/-!
# Where the driver of a card comes from

A card's driver is the last name in the target of its device's link; only where there is no such
name does `uevent` tell it. What the link leads to, and whether it leads anywhere, is never asked.
Cards that cannot be read are left aside.
-/

namespace CardTelemetry.Sysfs

open Files (Name Path Tree View)
open Files.Path (below)
open Text.Utf8 (lossy)

/-- What a device's `uevent` tells: the driver that it names, and nothing where it is missing or
names none. -/
def UeventTells (v : View) (root : Path) (card : Name) (d : String) : Prop :=
  (v.text (below root (deviceFile card "uevent")) = .error .noEntry ∧ d = "") ∨
    ∃ s, v.text (below root (deviceFile card "uevent")) = .ok s ∧
      (NamesDriver s d ∨ (∀ l ∈ Text.lines s.toList, ¬ driverMark <+: Text.trim l) ∧ d = "")

/-- Two views answer alike, but for a device's `uevent` and what may be below it. -/
def SameButUevent (v w : View) (root : Path) (card : Name) : Prop :=
  ∀ q : Read, ¬ AtOrBelow (below root (deviceFile card "uevent")) q.path → q.Same v w

variable {v w : View} {root : Path} {card : Name} {number : Nat}

/-! ### The text of `uevent` -/

theorem ueventDriver?_of_text {s : String}
    (h : v.text (below root (deviceFile card "uevent")) = .ok s) :
    ueventDriver? v (below root (deviceNames card)) = namedDriver? s := by
  have hattribute : attributeAt v ((below root (deviceNames card)).join (Path.ofString "uevent")) =
      some (Text.trimmed s) := attributeAt_eq_some_iff.mpr ⟨s, h, rfl⟩
  rw [ueventDriver?, hattribute, Option.bind_some, namedDriver?_trimmed]

theorem ueventDriver?_of_error {cause : Files.Failure}
    (h : v.text (below root (deviceFile card "uevent")) = .error cause) :
    ueventDriver? v (below root (deviceNames card)) = none := by
  rw [Option.eq_none_iff_forall_ne_some]
  intro d hd
  obtain ⟨s, hs, -⟩ := ueventDriver?_eq_some_iff.mp hd
  cases h.symm.trans hs

/-! ### What is not read -/

theorem exists_join_of_atOrBelow_uevent {p : Path}
    (h : AtOrBelow (below root (deviceFile card "uevent")) p) :
    ∃ rest, rest.head? = some 0x75 ∧
      p = (below root (cardNames card)).join ((Path.ofString "device").join rest) := by
  have hpath : below root (deviceFile card "uevent") =
      (below root (deviceNames card)).join (Path.ofString "uevent") := rfl
  obtain rfl | ⟨x, rfl⟩ := h
  · exact ⟨Path.ofString "uevent", by decide, join_deviceNames root card _⟩
  · refine ⟨(Path.ofString "uevent").join x, Path.head?_join (by decide) x, ?_⟩
    rw [hpath, Path.join_join (by decide), join_deviceNames]

theorem not_atOrBelow_uevent_file {file : String} (hne : (Path.ofString file).head? ≠ some 0x75) :
    ¬ AtOrBelow (below root (deviceFile card "uevent")) (below root (deviceFile card file)) := by
  intro h
  obtain ⟨rest, hrest, heq⟩ := exists_join_of_atOrBelow_uevent h
  have hpath : below root (deviceFile card file) =
      (below root (cardNames card)).join ((Path.ofString "device").join (Path.ofString file)) :=
    join_deviceNames root card _
  rw [hpath, Path.join_inj, Path.join_inj] at heq
  exact hne (heq ▸ hrest)

theorem not_atOrBelow_uevent_directory :
    ¬ AtOrBelow (below root (deviceFile card "uevent")) (below root (cardNames card)) := by
  intro h
  obtain ⟨rest, -, heq⟩ := exists_join_of_atOrBelow_uevent h
  have hne : (Path.ofString "device").join rest ≠ [] := by
    intro hnil
    have hhead := Path.head?_join (show Path.ofString "device" ≠ [] by decide) rest
    rw [hnil] at hhead
    exact absurd hhead (by decide)
  have hlength := Path.length_lt_join hne (below root (cardNames card))
  exact absurd (congrArg List.length heq) (Nat.ne_of_lt hlength)

theorem not_atOrBelow_uevent_named (hcard : IsCardName card number) {n : Name}
    (hn : card ++ Path.ofString "-" <+: n) (file : String) :
    ¬ AtOrBelow (below root (deviceFile card "uevent")) (below root (cardNames card ++ [n])) ∧
      ¬ AtOrBelow (below root (deviceFile card "uevent")) (below root (cardFile card n file)) := by
  constructor
  · intro h
    obtain ⟨rest, -, heq⟩ := exists_join_of_atOrBelow_uevent h
    rw [below_cardNames_append, Path.join_inj] at heq
    exact (ne_join_device hcard hn [] rest).1 heq
  · intro h
    obtain ⟨rest, -, heq⟩ := exists_join_of_atOrBelow_uevent h
    rw [below_cardFile root (ne_nil_of_named hn), Path.join_inj] at heq
    exact (ne_join_device hcard hn _ rest).2 heq

/-- Where the link names a driver, nothing is read of `uevent` or below it. -/
theorem not_atOrBelow_uevent_of_cardReads (hcard : IsCardName card number) {n : Name}
    (hlink : LinkNames v root card n) :
    ∀ q ∈ cardReads v (cardEntry root card),
      ¬ AtOrBelow (below root (deviceFile card "uevent")) q.path := by
  apply forall_mem_cardReads
    (fun q => ¬ AtOrBelow (below root (deviceFile card "uevent")) q.path) hcard
  · exact not_atOrBelow_uevent_file (by decide)
  · intro hnone
    exact absurd ⟨n, hlink⟩ (linkName?_eq_none_iff.mp hnone)
  · exact not_atOrBelow_uevent_file (by decide)
  · exact not_atOrBelow_uevent_directory
  · intro m hm
    exact ⟨(not_atOrBelow_uevent_named hcard hm "").1,
      fun file => (not_atOrBelow_uevent_named hcard hm file).2⟩

/-! ### The driver -/

section Read

variable {c : Card} (h : (cardOf v (cardEntry root card)).outcome = .ok c)

include h

theorem driver_of_linkNames {n : Name} (hlink : LinkNames v root card n) : c.driver = lossy n := by
  obtain ⟨-, hdriver, -⟩ := outcome_cardOf_eq_ok_iff.mp h
  rw [driver_eq_ok hdriver, driverRead, deviceFile_cardEntry, linkName?_eq_some_iff.mpr hlink]

/-- A link that cannot be read, and is there, keeps the card from being read. -/
theorem target_of_card :
    (∃ target, v.target (below root (deviceFile card "driver")) = .ok target) ∨
      ∃ cause, v.target (below root (deviceFile card "driver")) = .error cause ∧ IsNoLink cause := by
  obtain ⟨-, hdriver, -⟩ := outcome_cardOf_eq_ok_iff.mp h
  cases htarget : v.target (below root (deviceFile card "driver")) with
  | ok target => exact .inl ⟨target, rfl⟩
  | error cause =>
    refine .inr ⟨cause, rfl, ?_⟩
    by_contra hcause
    have hfails := driver_eq_error_iff.mpr
      (.inl (linkedDriver_eq_error_iff.mpr ⟨cause, htarget, hcause, rfl⟩))
    rw [deviceOf_cardEntry] at hdriver
    cases hdriver.symm.trans hfails

/-- A `uevent` that is asked, is there and cannot be read keeps the card from being read. -/
theorem uevent_of_card (hlink : ¬ ∃ n, LinkNames v root card n) :
    v.text (below root (deviceFile card "uevent")) = .error .noEntry ∨
      ∃ s, v.text (below root (deviceFile card "uevent")) = .ok s := by
  obtain ⟨-, hdriver, -⟩ := outcome_cardOf_eq_ok_iff.mp h
  cases htext : v.text (below root (deviceFile card "uevent")) with
  | ok s => exact .inr ⟨s, rfl⟩
  | error cause =>
    left
    by_contra hcause
    have hmissing : cause ≠ .noEntry := fun heq => hcause (congrArg _ heq)
    have hlinked (f : Fault) : linkedDriver v (deviceOf (cardEntry root card).path) ≠ .error f := by
      intro hf
      cases hdriver.symm.trans (driver_eq_error_iff.mpr (.inl hf))
    have hlisted := listedDriver_eq_error_iff.mpr ⟨cause, htext, hmissing, rfl⟩
    have hfails := driver_eq_error_iff.mpr
      (.inr ⟨hlinked, linkName?_eq_none_iff.mpr hlink, hlisted⟩)
    cases hdriver.symm.trans hfails

theorem driver_of_not_linkNames (hlink : ¬ ∃ n, LinkNames v root card n) :
    c.driver = (ueventDriver? v (below root (deviceNames card))).getD "" := by
  obtain ⟨-, hdriver, -⟩ := outcome_cardOf_eq_ok_iff.mp h
  rw [driver_eq_ok hdriver, driverRead, deviceFile_cardEntry, linkName?_eq_none_iff.mpr hlink,
    deviceOf_cardEntry]

theorem ueventTells_of_card (hlink : ¬ ∃ n, LinkNames v root card n) :
    UeventTells v root card c.driver := by
  have hdriver := driver_of_not_linkNames h hlink
  obtain htext | ⟨s, htext⟩ := uevent_of_card h hlink
  · rw [ueventDriver?_of_error htext, Option.getD_none] at hdriver
    exact .inl ⟨htext, hdriver⟩
  · rw [ueventDriver?_of_text htext] at hdriver
    refine .inr ⟨s, htext, ?_⟩
    cases hs : namedDriver? s with
    | none =>
      rw [hs, Option.getD_none] at hdriver
      exact .inr ⟨namedDriver?_eq_none_iff.mp hs, hdriver⟩
    | some d =>
      rw [hs, Option.getD_some] at hdriver
      exact .inl (namedDriver?_eq_some_iff.mp (hdriver ▸ hs))

end Read

/-- **A card's driver is the last name of its link's target, and else what `uevent` tells.** Where
there is such a name, the card is read alike whatever becomes of `uevent`; and cards whose links
have the same target, and whose `uevent` the same text, have the same driver. -/
theorem driver_of_card (hcard : IsCardName card number) {c : Card}
    (h : (cardOf v (cardEntry root card)).outcome = .ok c) :
    (∀ n, LinkNames v root card n → c.driver = lossy n ∧
      ∀ w, SameButUevent v w root card →
        cardOf w (cardEntry root card) = cardOf v (cardEntry root card)) ∧
      ((¬ ∃ n, LinkNames v root card n) →
        ((∃ target, v.target (below root (deviceFile card "driver")) = .ok target) ∨
          ∃ cause, v.target (below root (deviceFile card "driver")) = .error cause ∧
            IsNoLink cause) ∧
        UeventTells v root card c.driver) ∧
      ∀ w c', (Read.target (below root (deviceFile card "driver"))).Same v w →
        (Read.text (below root (deviceFile card "uevent"))).Same v w →
        (cardOf w (cardEntry root card)).outcome = .ok c' → c'.driver = c.driver := by
  refine ⟨?_, fun hlink => ⟨target_of_card h, ueventTells_of_card h hlink⟩, ?_⟩
  · intro n hlink
    refine ⟨driver_of_linkNames h hlink, ?_⟩
    intro w hsame
    apply cardOf_of_same
    intro q hq
    exact hsame q (not_atOrBelow_uevent_of_cardReads hcard hlink q hq)
  · intro w c' htarget htext h'
    obtain ⟨-, hdriver, -⟩ := outcome_cardOf_eq_ok_iff.mp h
    obtain ⟨-, hdriver', -⟩ := outcome_cardOf_eq_ok_iff.mp h'
    have hreads : ∀ q ∈ driverReads v (deviceOf (cardEntry root card).path), q.Same v w := by
      refine forall_mem_readsThen.mpr ⟨List.forall_mem_singleton.mpr htarget, fun _ _ => ?_⟩
      split
      · exact List.forall_mem_singleton.mpr htext
      · simp
    rw [driver_of_same hreads, hdriver] at hdriver'
    exact (Except.ok.inj hdriver').symm

/-- A card whose link leads nowhere, and whose `uevent` cannot be read. -/
def dangling : Tree where
  nodes :=
    [(classNames.take 1, .directory), (classNames, .directory),
      (cardNames (Path.ofString "card0"), .directory),
      (deviceNames (Path.ofString "card0"), .directory),
      (deviceFile (Path.ofString "card0") "driver", .link (Path.ofString "../../radeon/.//")),
      (deviceFile (Path.ofString "card0") "uevent", .directory)]
  distinct := by decide

theorem driver_of_card_dangling :
    ∃ c, (cardOf dangling.view (cardEntry (Path.ofString "/") (Path.ofString "card0"))).outcome =
        .ok c ∧ c.driver = "radeon" ∧
      ∀ w, SameButUevent dangling.view w (Path.ofString "/") (Path.ofString "card0") →
        cardOf w (cardEntry (Path.ofString "/") (Path.ofString "card0")) =
          cardOf dangling.view (cardEntry (Path.ofString "/") (Path.ofString "card0")) := by
  have hcard : IsCardName (Path.ofString "card0") 0 := cardNumber?_lossy_iff.mp (by cbv)
  have hread :
      (cardOf dangling.view (cardEntry (Path.ofString "/") (Path.ofString "card0"))).outcome =
        .ok ⟨"card0", "radeon", false, []⟩ := by cbv
  have hlink : LinkNames dangling.view (Path.ofString "/") (Path.ofString "card0")
      (Path.ofString "radeon") :=
    ⟨Path.ofString "../../radeon/.//", by cbv, Path.fileName?_eq_some_iff.mp (by decide)⟩
  exact ⟨_, hread, rfl, ((driver_of_card hcard hread).1 _ hlink).2⟩

end CardTelemetry.Sysfs
