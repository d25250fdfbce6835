import CardTelemetry.Proofs.Text.Numeral
import CardTelemetry.Proofs.Text.Order
import CardTelemetry.Sysfs.Listing
import Mathlib.Data.List.Basic

/-!
# Which cards are listed, and in which order

A listing has each card of the directory once and nothing else, and its names go strictly
upwards. Two names of cards are never shown alike, since what is shown of them is ASCII; of
other entries nothing of the kind is claimed.
-/

namespace CardTelemetry.Sysfs

open Files (Name Path View)
open Text.Utf8 (bytes lossy)

/-- A name that is `card` and digits that write a number of 32 bits. -/
def IsCardName (n : Name) (number : Nat) : Prop :=
  ∃ ds : List Char, ds ≠ [] ∧ (∀ d ∈ ds, d.isDigit = true) ∧
    n = Path.ofString ("card" ++ String.ofList ds) ∧
    number = Text.digitsValue ds ∧ number ≤ 4294967295

theorem cardNumber?_eq_some_iff {name : String} {number : Nat} :
    cardNumber? name = some number ↔
      ∃ ds : List Char, ds ≠ [] ∧ (∀ d ∈ ds, d.isDigit = true) ∧
        name = "card" ++ String.ofList ds ∧
        number = Text.digitsValue ds ∧ number ≤ 4294967295 := by
  have hname (ds : List Char) :
      "card".toList.isPrefixOf? name.toList = some ds ↔ name = "card" ++ String.ofList ds := by
    rw [List.isPrefixOf?_eq_some_iff_append_eq, ← String.toList_inj, eq_comm]
    simp only [String.toList_append, String.toList_ofList]
  constructor
  · intro h
    unfold cardNumber? at h
    split at h
    · rename_i c rest hprefix
      split at h
      · rename_i hdigits
        simp only [List.all_eq_true, Text.isSome_digit?] at hdigits
        split at h
        · rename_i n hread
          cases h
          obtain ⟨-, hvalue, hlt⟩ := (Text.readNumeral_eq_ok_iff (by decide)
            (hdigits c List.mem_cons_self)).mp hread
          exact ⟨c :: rest, by simp, hdigits, (hname _).mp hprefix, hvalue,
            Nat.le_of_lt_succ hlt⟩
        · cases h
      · cases h
    · cases h
  · rintro ⟨ds, hne, hdigits, heq, hvalue, hle⟩
    obtain ⟨c, rest, rfl⟩ := List.exists_cons_of_ne_nil hne
    have hall : ((c :: rest).all fun d => (Text.digit? d).isSome) = true := by
      simpa only [List.all_eq_true, Text.isSome_digit?] using hdigits
    have hread : Text.readNumeral UInt32.size (c :: rest) = .ok number :=
      (Text.readNumeral_eq_ok_iff (by decide) (hdigits c List.mem_cons_self)).mpr
        ⟨hdigits, hvalue, Nat.lt_succ_of_le hle⟩
    simp only [cardNumber?, (hname _).mpr heq, hall, hread, if_true]

theorem ascii_of_cardNumber? {name : String} {number : Nat} (h : cardNumber? name = some number) :
    ∀ c ∈ name.toList, c.toNat < 0x80 := by
  obtain ⟨ds, -, hdigits, rfl, -⟩ := cardNumber?_eq_some_iff.mp h
  intro c hc
  simp only [String.toList_append, String.toList_ofList, List.mem_append] at hc
  rcases hc with hc | hc
  · have hcard : c ∈ ['c', 'a', 'r', 'd'] := hc
    simp only [List.mem_cons, List.not_mem_nil, or_false] at hcard
    rcases hcard with rfl | rfl | rfl | rfl <;> decide
  · have hd := hdigits c hc
    simp only [Char.isDigit, Bool.and_eq_true, decide_eq_true_eq, UInt32.le_iff_toNat_le] at hd
    have hnine : c.toNat ≤ 57 := hd.2
    omega

/-- A name that is shown as a card's is that card's name. -/
theorem bytes_lossy_of_cardNumber? {n : Name} {number : Nat}
    (h : cardNumber? (lossy n) = some number) : bytes (lossy n) = n :=
  Text.Utf8.bytes_lossy_of_ascii (ascii_of_cardNumber? h)

theorem cardNumber?_lossy_iff {n : Name} {number : Nat} :
    cardNumber? (lossy n) = some number ↔ IsCardName n number := by
  constructor
  · intro h
    obtain ⟨ds, hne, hdigits, hname, hvalue⟩ := cardNumber?_eq_some_iff.mp h
    refine ⟨ds, hne, hdigits, ?_, hvalue⟩
    rw [Path.ofString, ← hname, bytes_lossy_of_cardNumber? h]
  · rintro ⟨ds, hne, hdigits, rfl, hvalue⟩
    rw [Path.ofString, Text.Utf8.lossy_bytes]
    exact cardNumber?_eq_some_iff.mpr ⟨ds, hne, hdigits, rfl, hvalue⟩

/-- A name that is shown as a card's, said of the name as it is shown. -/
theorem isCardName_bytes {name : String} {number : Nat} (h : cardNumber? name = some number) :
    IsCardName (bytes name) number := by
  rw [← cardNumber?_lossy_iff, Text.Utf8.lossy_bytes]
  exact h

/-- A name writes one number only. -/
theorem IsCardName.unique {n : Name} {i j : Nat} (hi : IsCardName n i) (hj : IsCardName n j) :
    i = j := by
  rw [← cardNumber?_lossy_iff] at hi hj
  exact Option.some.inj (hi.symm.trans hj)

/-- The order of cards: by number, then by name. -/
def CardBefore (m n : Name) : Prop :=
  ∃ i j, IsCardName m i ∧ IsCardName n j ∧ (i < j ∨ i = j ∧ m < n)

theorem CardBefore.ne {m n : Name} (h : CardBefore m n) : m ≠ n := by
  rintro rfl
  obtain ⟨i, j, hi, hj, hlt | ⟨-, hbefore⟩⟩ := h
  · rw [hi.unique hj] at hlt
    exact Nat.lt_irrefl _ hlt
  · exact List.lt_irrefl _ hbefore

theorem CardBefore.asymm {m n : Name} (h : CardBefore m n) : ¬ CardBefore n m := by
  intro h'
  obtain ⟨i, j, hi, hj, hij⟩ := h
  obtain ⟨j', i', hj', hi', hji⟩ := h'
  obtain rfl := hi.unique hi'
  obtain rfl := hj.unique hj'
  obtain hlt | ⟨rfl, hbefore⟩ := hij
  · omega
  · obtain hlt | ⟨-, hafter⟩ := hji
    · exact Nat.lt_irrefl i hlt
    · exact List.lt_irrefl m (List.lt_trans hbefore hafter)

theorem bytes_name_of_isCardName {directory : Path} {n : Name} {number : Nat}
    (h : IsCardName n number) : bytes (Entry.ofName directory n).name = n :=
  bytes_lossy_of_cardNumber? (cardNumber?_lossy_iff.mpr h)

theorem Numbered.notAfter_iff {a b : Numbered} :
    Numbered.notAfter a b = true ↔
      a.1 < b.1 ∨ a.1 = b.1 ∧ Text.notAfter a.2.name b.2.name = true := by
  simp [Numbered.notAfter]

theorem Numbered.notAfter_trans (a b c : Numbered) (hab : Numbered.notAfter a b = true)
    (hbc : Numbered.notAfter b c = true) : Numbered.notAfter a c = true := by
  rw [Numbered.notAfter_iff] at *
  rcases hab with hab | ⟨hab, hname⟩
  · left
    omega
  · rcases hbc with hbc | ⟨hbc, hname'⟩
    · left
      omega
    · exact .inr ⟨hab.trans hbc, Text.notAfter_trans hname hname'⟩

theorem Numbered.notAfter_total (a b : Numbered) :
    (Numbered.notAfter a b || Numbered.notAfter b a) = true := by
  rw [Bool.or_eq_true, Numbered.notAfter_iff, Numbered.notAfter_iff]
  rcases Nat.lt_trichotomy a.1 b.1 with h | h | h
  · exact .inl (.inl h)
  · rcases Text.notAfter_total a.2.name b.2.name with hname | hname
    · exact .inl (.inr ⟨h, hname⟩)
    · exact .inr (.inr ⟨h.symm, hname⟩)
  · exact .inr (.inl h)

theorem numbered?_eq_some_iff {e : Entry} {a : Numbered} :
    numbered? e = some a ↔ cardNumber? e.name = some a.1 ∧ e = a.2 := by
  rw [numbered?, Option.map_eq_some_iff]
  constructor
  · rintro ⟨n, hn, rfl⟩
    exact ⟨hn, rfl⟩
  · rintro ⟨hn, rfl⟩
    exact ⟨a.1, hn, rfl⟩

theorem mem_cardsAmong {es : List Entry} {e : Entry} :
    e ∈ cardsAmong es ↔ e ∈ es ∧ ∃ number, cardNumber? e.name = some number := by
  rw [cardsAmong, List.mem_map]
  simp only [List.mem_mergeSort, List.mem_filterMap, numbered?_eq_some_iff]
  constructor
  · rintro ⟨a, ⟨e', he', hn, rfl⟩, rfl⟩
    exact ⟨he', a.1, hn⟩
  · rintro ⟨he, number, hn⟩
    exact ⟨(number, e), ⟨e, he, hn, rfl⟩, rfl⟩

/-- Cards with different names come strictly in order. -/
theorem pairwise_cardsAmong {es : List Entry}
    (h : (es.filterMap numbered?).Pairwise fun a b => a.2.name ≠ b.2.name) :
    (cardsAmong es).Pairwise fun a b => CardBefore (bytes a.name) (bytes b.name) := by
  have hsorted := List.pairwise_mergeSort Numbered.notAfter_trans Numbered.notAfter_total
    (es.filterMap numbered?)
  have hdistinct : ((es.filterMap numbered?).mergeSort Numbered.notAfter).Pairwise
      fun a b => a.2.name ≠ b.2.name :=
    (List.mergeSort_perm _ _).symm.pairwise h fun hab => hab.symm
  rw [cardsAmong, List.pairwise_map]
  apply (hsorted.and hdistinct).imp_of_mem
  rintro a b ha hb ⟨hle, hne⟩
  have hnumber {a : Numbered}
      (ha : a ∈ (es.filterMap numbered?).mergeSort Numbered.notAfter) :
      cardNumber? a.2.name = some a.1 := by
    rw [List.mem_mergeSort, List.mem_filterMap] at ha
    obtain ⟨e, -, he⟩ := ha
    obtain ⟨hn, rfl⟩ := numbered?_eq_some_iff.mp he
    exact hn
  refine ⟨a.1, b.1, isCardName_bytes (hnumber ha), isCardName_bytes (hnumber hb), ?_⟩
  rcases Numbered.notAfter_iff.mp hle with hlt | ⟨heq, hname⟩
  · exact .inl hlt
  · exact .inr ⟨heq, Text.before_iff.mp (Text.before_of_notAfter hname hne)⟩

/-- The order in which the entries of cards are listed. -/
def EntryBefore (a b : Entry) : Prop := CardBefore (bytes a.name) (bytes b.name)

theorem entryBefore_asymm {a b : Entry} (h : EntryBefore a b) : ¬ EntryBefore b a := h.asymm

theorem cardsAmong_perm {es es' : List Entry} (h : es.Perm es') :
    (cardsAmong es).Perm (cardsAmong es') := by
  have hnumbered : (es.filterMap numbered?).Perm (es'.filterMap numbered?) := h.filterMap _
  exact (((List.mergeSort_perm _ _).trans hnumbered).trans (List.mergeSort_perm _ _).symm).map _

theorem entries_eq_ok_iff {v : View} {directory : Path} {es : List Entry} :
    entries v directory = .ok es ↔
      ∃ ns, v.names directory = .ok ns ∧ es = ns.map (Entry.ofName directory) := by
  unfold entries
  cases v.names directory with
  | error f => simp
  | ok ns => simp [eq_comm]

/-- The entries of the cards: which they are, and in which order. -/
theorem cardEntries_listed {v : View} {root : Path} {es : List Entry}
    (h : cardEntries v root = .ok es) :
    ∃ ns, v.names (classDirectory root) = .ok ns ∧
      (∀ e, e ∈ es ↔ ∃ n ∈ ns, (∃ number, IsCardName n number) ∧
        e = Entry.ofName (classDirectory root) n) ∧
      es.Pairwise fun a b => CardBefore (bytes a.name) (bytes b.name) := by
  unfold cardEntries at h
  cases hes : entries v (classDirectory root) with
  | error f =>
    rw [hes] at h
    cases h
  | ok all =>
    rw [hes] at h
    cases h
    obtain ⟨ns, hns, rfl⟩ := entries_eq_ok_iff.mp hes
    refine ⟨ns, hns, ?_, ?_⟩
    · intro e
      rw [mem_cardsAmong, List.mem_map]
      constructor
      · rintro ⟨⟨n, hn, rfl⟩, number, hnumber⟩
        exact ⟨n, hn, ⟨number, cardNumber?_lossy_iff.mp hnumber⟩, rfl⟩
      · rintro ⟨n, hn, ⟨number, hnumber⟩, rfl⟩
        exact ⟨⟨n, hn, rfl⟩, number, cardNumber?_lossy_iff.mpr hnumber⟩
    · apply pairwise_cardsAmong
      rw [List.filterMap_map]
      apply List.Pairwise.filterMap _ _ (v.distinct hns)
      intro m n hmn a ha b hb heq
      -- two names of cards that are shown alike are the same
      obtain ⟨hm, hm'⟩ := numbered?_eq_some_iff.mp ha
      obtain ⟨hn, hn'⟩ := numbered?_eq_some_iff.mp hb
      have hshown : lossy m = lossy n := by
        rw [← hm', ← hn'] at heq
        exact heq
      apply hmn
      rw [← bytes_lossy_of_cardNumber? hm, ← bytes_lossy_of_cardNumber? hn, hshown]

end CardTelemetry.Sysfs
