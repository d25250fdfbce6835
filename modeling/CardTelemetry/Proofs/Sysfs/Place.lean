import CardTelemetry.Proofs.Files.Path
import CardTelemetry.Proofs.Job.Outcome
import CardTelemetry.Proofs.Sysfs.Listing
import CardTelemetry.Sysfs.Source

/-!
# Where things stand below a root

The directory of cards, a card, its device and the files of that, each by the names that lead to
it from the root. All of them are shown as the root was given and then name by name, and the
entries of a card's directory that are shown as named after the card are so named.
-/

namespace CardTelemetry.Sysfs

open Files (Name Path View)
open Files.Path (NeedsSlash below spelled)
open Text.Utf8 (bytes lossy)

/-- The names that lead to the directory of cards. -/
def classNames : List Name := ["class", "drm"].map Path.ofString

def cardNames (card : Name) : List Name := classNames ++ [card]

def deviceNames (card : Name) : List Name := cardNames card ++ [Path.ofString "device"]

/-- The names that lead to a file of a card's device. -/
def deviceFile (card : Name) (file : String) : List Name := deviceNames card ++ [Path.ofString file]

/-- The names that lead to a file of something in a card's directory. -/
def cardFile (card n : Name) (file : String) : List Name := cardNames card ++ [n, Path.ofString file]

/-- The entry of a card in the directory of cards. -/
def cardEntry (root : Path) (card : Name) : Entry := Entry.ofName (classDirectory root) card

/-- The directory of cards has a card. -/
def IsCard (v : View) (root : Path) (card : Name) : Prop :=
  (∃ ns, v.names (below root classNames) = .ok ns ∧ card ∈ ns) ∧ ∃ number, IsCardName card number

theorem path_cardEntry (root : Path) (card : Name) :
    (cardEntry root card).path = below root (cardNames card) := rfl

theorem below_cardNames_append (root : Path) (card n : Name) :
    below root (cardNames card ++ [n]) = (below root (cardNames card)).join n := rfl

theorem deviceOf_cardEntry (root : Path) (card : Name) :
    deviceOf (cardEntry root card).path = below root (deviceNames card) := rfl

theorem deviceFile_cardEntry (root : Path) (card : Name) (file : String) :
    (deviceOf (cardEntry root card).path).join (Path.ofString file) =
      below root (deviceFile card file) := rfl

/-- A card's name is written with bytes of letters and digits only, which are not below `30`. -/
theorem le_toNat_of_mem_card {card : Name} {number : Nat} (h : IsCardName card number) {b : UInt8}
    (hb : b ∈ card) : 0x30 ≤ b.toNat := by
  have hascii := ascii_of_cardNumber? (cardNumber?_lossy_iff.mpr h)
  obtain ⟨ds, -, hdigits, rfl, -⟩ := h
  rw [Path.ofString, Text.Utf8.lossy_bytes] at hascii
  rw [Path.ofString, Text.Utf8.bytes_eq, List.mem_flatMap] at hb
  obtain ⟨c, hc, hbyte⟩ := hb
  have hlow := hascii c hc
  rw [Text.Utf8.utf8EncodeChar_ascii hlow, List.mem_singleton] at hbyte
  rw [hbyte, Text.Utf8.toNat_ofNat (by omega)]
  simp only [String.toList_append, String.toList_ofList, List.mem_append] at hc
  obtain hc | hc := hc
  · have hletter : c ∈ ['c', 'a', 'r', 'd'] := hc
    simp only [List.mem_cons, List.not_mem_nil, or_false] at hletter
    obtain rfl | rfl | rfl | rfl := hletter <;> decide
  · have hdigit := hdigits c hc
    simp only [Char.isDigit, Bool.and_eq_true, decide_eq_true_eq, UInt32.le_iff_toNat_le] at hdigit
    exact hdigit.1

theorem slash_not_mem_of_isCardName {card : Name} {number : Nat} (h : IsCardName card number) :
    Path.slash ∉ card :=
  fun hmem => absurd (le_toNat_of_mem_card h hmem) (by decide)

theorem needsSlash_of_isCardName {card : Name} {number : Nat} (h : IsCardName card number) :
    NeedsSlash card := by
  constructor
  · obtain ⟨ds, -, -, rfl, -⟩ := h
    rw [Path.ofString, Text.Utf8.bytes_append]
    exact List.append_ne_nil_of_left_ne_nil (by decide) _
  · intro hlast
    exact slash_not_mem_of_isCardName h (List.mem_of_getLast? hlast)

theorem needsSlash_classNames : ∀ n ∈ classNames, NeedsSlash n := by
  unfold NeedsSlash
  decide

theorem mem_cardEntries_iff {v : View} {root : Path} {es : List Entry}
    (h : cardEntries v root = .ok es) {e : Entry} :
    e ∈ es ↔ ∃ card, IsCard v root card ∧ e = cardEntry root card := by
  obtain ⟨ns, hns, hmem, -⟩ := cardEntries_listed h
  rw [hmem]
  constructor
  · intro he
    obtain ⟨card, hcard, hnumber, rfl⟩ := he
    exact ⟨card, ⟨⟨ns, hns, hcard⟩, hnumber⟩, rfl⟩
  · intro he
    obtain ⟨card, ⟨⟨ns', hns', hcard⟩, hnumber⟩, rfl⟩ := he
    obtain rfl : ns = ns' := Except.ok.inj (hns.symm.trans hns')
    exact ⟨card, hcard, hnumber, rfl⟩

/-- A reading of all cards that ends well has read each of them. -/
theorem exists_outcome_of_eachCard {β : Type} {job : Entry → Job β} {results : List β}
    (h : ((Job.ofExcept (cardEntries v root)).andThen (Job.each job)).outcome = .ok results)
    {card : Name} (hcard : IsCard v root card) :
    ∃ result ∈ results, (job (cardEntry root card)).outcome = .ok result := by
  obtain ⟨es, hes, heach⟩ := Job.outcome_andThen_eq_ok.mp h
  have he : cardEntry root card ∈ es := (mem_cardEntries_iff hes).mpr ⟨card, hcard, rfl⟩
  exact Job.exists_right_of_mem (Job.outcome_each_eq_ok.mp heach) he

theorem text_classDirectory (root : Path) :
    (classDirectory root).text = spelled root classNames := by
  show (below root classNames).text = _
  apply Path.text_below root (by decide)
  intro n hn
  exact needsSlash_classNames n (List.mem_of_mem_dropLast hn)

theorem text_card (root : Path) (card : Name) :
    (below root (cardNames card)).text = spelled root (cardNames card) := by
  apply Path.text_below root (List.concat_ne_nil card classNames)
  rw [List.dropLast_concat]
  exact needsSlash_classNames

section Card

variable {card : Name} {number : Nat}

/-- What stands in a card's directory is shown below it. -/
theorem text_below_card (h : IsCardName card number) (root : Path) (n : Name) :
    (below root (cardNames card ++ [n])).text = spelled root (cardNames card ++ [n]) := by
  apply Path.text_below root (List.concat_ne_nil n (cardNames card))
  rw [List.dropLast_concat, cardNames]
  intro m hm
  obtain hm | hm := List.mem_append.mp hm
  · exact needsSlash_classNames m hm
  · rw [List.mem_singleton.mp hm]
    exact needsSlash_of_isCardName h

theorem text_deviceFile (h : IsCardName card number) (root : Path) (file : String) :
    (below root (deviceFile card file)).text = spelled root (deviceFile card file) := by
  apply Path.text_below root (List.concat_ne_nil _ (deviceNames card))
  rw [List.dropLast_concat, deviceNames, cardNames]
  intro m hm
  simp only [List.mem_append, List.mem_singleton] at hm
  obtain (hm | rfl) | rfl := hm
  · exact needsSlash_classNames m hm
  · exact needsSlash_of_isCardName h
  · unfold NeedsSlash
    decide

/-- An entry is shown as named after a card exactly when its bytes begin with the card's name
and a dash. -/
theorem belongsTo_iff (h : IsCardName card number) {directory : Path} {n : Name} :
    belongsTo (lossy card) (Entry.ofName directory n) = true ↔
      card ++ Path.ofString "-" <+: n := by
  have hcard : bytes (lossy card) = card := bytes_lossy_of_cardNumber? (cardNumber?_lossy_iff.mpr h)
  have hascii : ∀ c ∈ (lossy card).toList ++ ['-'], c.toNat < 0x80 := by
    intro c hc
    obtain hc | hc := List.mem_append.mp hc
    · exact ascii_of_cardNumber? (cardNumber?_lossy_iff.mpr h) c hc
    · rw [List.mem_singleton.mp hc]
      decide
  have hbytes : bytes (String.ofList ((lossy card).toList ++ ['-'])) = card ++ Path.ofString "-" := by
    rw [String.ofList_append, String.ofList_toList, Text.Utf8.bytes_append, hcard]
    rfl
  rw [belongsTo, List.isPrefixOf_iff_prefix]
  show (lossy card).toList ++ ['-'] <+: (lossy n).toList ↔ _
  rw [Text.Utf8.prefix_lossy_iff hascii, hbytes]

end Card

/-! ### Different places -/

theorem needsSlash_classDirectory (root : Path) : NeedsSlash (below root classNames) := by
  have hdrm : NeedsSlash (Path.ofString "drm") := needsSlash_classNames _ (by simp [classNames])
  exact Path.needsSlash_join hdrm _

/-- What is below a card tells the card. -/
theorem join_card_inj {card card' : Name} {i j : Nat} (h : IsCardName card i)
    (h' : IsCardName card' j) {root x y : Path} :
    (below root (cardNames card)).join x = (below root (cardNames card')).join y ↔
      card = card' ∧ x = y := by
  have hjoin {card : Name} {i : Nat} (h : IsCardName card i) (x : Path) :
      (below root (cardNames card)).join x =
        below root classNames ++ Path.slash :: (card ++ Path.slash :: x) := by
    have hcard : below root (cardNames card) = (below root classNames).join card := rfl
    have hslash := Path.needsSlash_join (needsSlash_of_isCardName h) (below root classNames)
    rw [hcard, Path.join_of_needsSlash hslash,
      Path.join_of_needsSlash (needsSlash_classDirectory root), List.append_assoc, List.cons_append]
  rw [hjoin h, hjoin h', List.append_cancel_left_eq, List.cons_eq_cons, and_iff_right rfl]
  exact Path.append_cons_inj (slash_not_mem_of_isCardName h) (slash_not_mem_of_isCardName h')

theorem below_cardFile (root : Path) {n : Name} (hn : n ≠ []) (card : Name) (file : String) :
    below root (cardFile card n file) =
      (below root (cardNames card)).join (Path.join n (Path.ofString file)) :=
  Path.join_join hn _ _

theorem join_deviceNames (root : Path) (card : Name) (x : Path) :
    (below root (deviceNames card)).join x =
      (below root (cardNames card)).join ((Path.ofString "device").join x) :=
  Path.join_join (by decide) _ _

theorem ne_nil_of_named {card n : Name} (hn : card ++ Path.ofString "-" <+: n) : n ≠ [] := by
  rintro rfl
  exact List.append_ne_nil_of_right_ne_nil card (by decide) (List.prefix_nil.mp hn)

/-- What is named after a card does not lead to a device. -/
theorem ne_join_device {card n : Name} {i : Nat} (h : IsCardName card i)
    (hn : card ++ Path.ofString "-" <+: n) (x y : Path) :
    n ≠ (Path.ofString "device").join y ∧ Path.join n x ≠ (Path.ofString "device").join y := by
  have hdevice : ((Path.ofString "device").join y).head? = some 0x64 :=
    Path.head?_join (by decide) y
  have hhead : n.head? = some 0x63 := by
    obtain ⟨ds, -, -, rfl, -⟩ := h
    obtain ⟨rest, rfl⟩ := hn
    rw [Path.ofString, Text.Utf8.bytes_append]
    rfl
  constructor
  · intro heq
    rw [heq, hdevice] at hhead
    cases hhead
  · intro heq
    rw [← Path.head?_join (ne_nil_of_named hn) x, heq, hdevice] at hhead
    cases hhead

section Files

variable {root : Path} {card card' : Name} {i j : Nat}

theorem deviceFile_inj (h : IsCardName card i) (h' : IsCardName card' j) {file file' : String} :
    below root (deviceFile card file) = below root (deviceFile card' file') ↔
      card = card' ∧ file = file' := by
  have hjoin (card : Name) (file : String) : below root (deviceFile card file) =
      (below root (cardNames card)).join ((Path.ofString "device").join (Path.ofString file)) :=
    join_deviceNames root card _
  rw [hjoin, hjoin, join_card_inj h h', Path.join_inj, Path.ofString_inj]

theorem cardFile_ne_deviceFile (h : IsCardName card i) (h' : IsCardName card' j) {n : Name}
    (hn : card ++ Path.ofString "-" <+: n) (file file' : String) :
    below root (cardFile card n file) ≠ below root (deviceFile card' file') := by
  rw [below_cardFile root (ne_nil_of_named hn)]
  show _ ≠ (below root (deviceNames card')).join (Path.ofString file')
  rw [join_deviceNames, ne_eq, join_card_inj h h']
  intro heq
  exact (ne_join_device h hn _ _).2 heq.2

/-- Files of what is named after cards are told apart by the names, where these hold no slash. -/
theorem cardFile_inj (h : IsCardName card i) (h' : IsCardName card' j) {n n' : Name}
    (hn : card ++ Path.ofString "-" <+: n) (hn' : card' ++ Path.ofString "-" <+: n')
    (hslash : Path.slash ∉ n) (hslash' : Path.slash ∉ n') {file file' : String}
    (heq : below root (cardFile card n file) = below root (cardFile card' n' file')) :
    card = card' ∧ n = n' ∧ file = file' := by
  have hjoin {card n : Name} (hn : card ++ Path.ofString "-" <+: n) (hslash : Path.slash ∉ n)
      (x : Path) : Path.join n x = n ++ Path.slash :: x :=
    Path.join_of_needsSlash ⟨ne_nil_of_named hn, fun h => hslash (List.mem_of_getLast? h)⟩ x
  rw [below_cardFile root (ne_nil_of_named hn), below_cardFile root (ne_nil_of_named hn'),
    join_card_inj h h', hjoin hn hslash, hjoin hn' hslash', Path.append_cons_inj hslash hslash',
    Path.ofString_inj] at heq
  exact heq

end Files

end CardTelemetry.Sysfs
