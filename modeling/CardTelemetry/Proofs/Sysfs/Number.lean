import CardTelemetry.Files.Tree
import CardTelemetry.Proofs.Sysfs.Attribute
import CardTelemetry.Proofs.Text.Blank
import Mathlib

/-!
# Which texts are numbers

A file of text is read as a number exactly where the text between the blanks is empty or a numeral
of 64 bits, and as the number that it writes. Everything else is a fault that repeats the text.
Files that cannot be read, or are no text, are left aside.
-/

namespace CardTelemetry.Sysfs

open Files (Path Tree View)
open Text (isBlank decimal)

/-- The number that the text of an attribute stands for: 0 if there is none, and else the one that
it writes. -/
def StandsFor (text : String) (n : UInt64) : Prop := text = "" ∧ n = 0 ∨ Text.IsWord text n

/-- A text is the digits of a number, with zeros before them and blanks around. -/
def IsPadded (s : List Char) (n : Nat) : Prop :=
  ∃ before zeros after, (∀ c ∈ before, isBlank c = true) ∧ (∀ c ∈ after, isBlank c = true) ∧
    s = before ++ (List.replicate zeros '0' ++ decimal n ++ after)

variable {v : View} {p : Path} {s text field : String}

/-! ### Texts -/

theorem not_isWord_empty (n : UInt64) : ¬ Text.IsWord "" n := by
  intro h
  obtain ⟨ds, hne, -, hds | hds, -⟩ := h
  · exact hne hds.symm
  · cases hds

theorem number_eq_ok_iff {n : UInt64} : number p field (some text) = .ok n ↔ StandsFor text n := by
  by_cases htext : text = ""
  · subst htext
    simp [number, StandsFor, not_isWord_empty, eq_comm]
  · rw [StandsFor, ← Text.readWord_eq_ok_iff]
    simp only [number, htext, if_false, false_and, false_or]
    cases Text.readWord text.toList with
    | ok m => simp
    | error e => simp

theorem number_eq_malformed_iff {f : Fault} :
    number p field (some text) = .error f ↔
      (∀ n, ¬ StandsFor text n) ∧ f = .malformed p.text field text := by
  rw [number_eq_error_iff]
  constructor
  · intro h
    obtain ⟨_, heq, hne, hnone, hf⟩ := h
    cases heq
    exact ⟨fun n hn => hn.elim (fun hempty => hne hempty.1) (hnone n), hf⟩
  · intro h
    obtain ⟨hnone, hf⟩ := h
    exact ⟨text, rfl, fun hempty => hnone 0 (.inl ⟨hempty, rfl⟩), fun n hn => hnone n (.inr hn), hf⟩

/-! ### Files -/

theorem requiredNumber_of_text (h : v.text p = .ok s) (field : String) :
    requiredNumber v p field = number p field (some (Text.trimmed s)) := by
  rw [requiredNumber, required_of_text h, Except.bind]

/-- Where there is text, it does not matter whether the file has to be readable. -/
theorem optionalNumber_of_text {directory : Path} {file : String}
    (h : v.text (directory.join (Path.ofString file)) = .ok s) :
    optionalNumber v directory file =
      Job.ofExcept (requiredNumber v (directory.join (Path.ofString file)) file) := by
  have hoptional : optional v (directory.join (Path.ofString file)) =
      .done (some (Text.trimmed s)) := by rw [optional, h]
  rw [optionalNumber, hoptional, requiredNumber_of_text h, Job.bind_eq_andThen, Job.done_andThen]

/-! ### Numbers as they are written -/

/-- Trimming leaves the digits and the zeros before them. -/
theorem IsPadded.trimmed {n : Nat} (h : IsPadded s.toList n) :
    ∃ zeros, (Text.trimmed s).toList = List.replicate zeros '0' ++ decimal n := by
  obtain ⟨before, zeros, after, hbefore, hafter, hs⟩ := h
  refine ⟨zeros, ?_⟩
  have hbare {c : Char} (hc : c ∈ List.replicate zeros '0' ++ decimal n) : isBlank c = false :=
    Text.isBlank_of_isDigit (Text.isDigit_of_mem_padded c hc)
  rw [Text.trimmed, String.toList_ofList]
  apply Text.Trims.trim_eq
  refine ⟨⟨before, after, hs, hbefore, hafter⟩, ?_, ?_⟩
  · intro c hc
    exact hbare (List.mem_of_head? hc)
  · intro c hc
    exact hbare (List.mem_of_getLast? hc)

/-- What is left of a padded number stands for it, and for nothing if it has more than 64 bits. -/
theorem IsPadded.standsFor_iff {n : Nat} (h : IsPadded s.toList n) {m : UInt64} :
    StandsFor (Text.trimmed s) m ↔ m.toNat = n ∧ n < UInt64.size := by
  obtain ⟨zeros, htrimmed⟩ := h.trimmed
  have hne : Text.trimmed s ≠ "" := by
    intro hempty
    rw [hempty] at htrimmed
    exact List.append_ne_nil_of_right_ne_nil _ Nat.toDigits_ne_nil htrimmed.symm
  rw [StandsFor, or_iff_right fun hempty => hne hempty.1, Text.IsWord, htrimmed,
    Text.isNumeral_padded_iff]

/-- **A text is read as the number that it writes, and else not at all.** What is between its blanks
has to be nothing or a numeral of 64 bits; else it is told in the fault, with the field and the
path. So the digits of a number are read as that number, with blanks around and zeros before them,
if it has 64 bits; one that has more is read as no other. Where there is text, a file that may be
unreadable is read like one that may not. -/
theorem number_as_written (h : v.text p = .ok s) (field : String) :
    Text.Trims s.toList (Text.trimmed s).toList ∧
      (∀ n, requiredNumber v p field = .ok n ↔ StandsFor (Text.trimmed s) n) ∧
      (∀ f, requiredNumber v p field = .error f ↔
        (∀ n, ¬ StandsFor (Text.trimmed s) n) ∧
          f = .malformed p.text field (Text.trimmed s)) ∧
      (∀ directory, p = directory.join (Path.ofString field) →
        optionalNumber v directory field = Job.ofExcept (requiredNumber v p field)) ∧
      (∀ n : UInt64, IsPadded s.toList n.toNat → requiredNumber v p field = .ok n) ∧
      ∀ n, IsPadded s.toList n → UInt64.size ≤ n →
        requiredNumber v p field = .error (.malformed p.text field (Text.trimmed s)) := by
  have hok (n : UInt64) : requiredNumber v p field = .ok n ↔ StandsFor (Text.trimmed s) n := by
    rw [requiredNumber_of_text h]
    exact number_eq_ok_iff
  have herror (f : Fault) : requiredNumber v p field = .error f ↔
      (∀ n, ¬ StandsFor (Text.trimmed s) n) ∧ f = .malformed p.text field (Text.trimmed s) := by
    rw [requiredNumber_of_text h]
    exact number_eq_malformed_iff
  refine ⟨?_, hok, herror, ?_, ?_, ?_⟩
  · rw [Text.trimmed, String.toList_ofList]
    exact Text.trims_trim _
  · intro directory hp
    subst hp
    exact optionalNumber_of_text h
  · intro n hn
    exact (hok n).mpr (hn.standsFor_iff.mpr ⟨rfl, n.toNat_lt⟩)
  · intro n hn hlarge
    refine (herror _).mpr ⟨fun m hm => ?_, rfl⟩
    obtain ⟨-, hlt⟩ := hn.standsFor_iff.mp hm
    omega

/-- A device with the largest number of 64 bits, and with the next. -/
def brimful : Tree where
  nodes :=
    [(["device"].map Path.ofString, .directory),
      (["device", "enable"].map Path.ofString,
        .file (Path.ofString "\u3000\n0018446744073709551615\u0085\r\n")),
      (["device", "gpu_busy_percent"].map Path.ofString,
        .file (Path.ofString "18446744073709551616"))]
  distinct := by simp; decide

theorem number_as_written_brimful :
    requiredNumber brimful.view (Path.ofString "/device/enable") "enable" =
        .ok 18446744073709551615 ∧
      optionalNumber brimful.view (Path.ofString "/device") "enable" =
        Job.ofExcept (.ok 18446744073709551615) ∧
      requiredNumber brimful.view (Path.ofString "/device/gpu_busy_percent") "gpu_busy_percent" =
        .error (.malformed "/device/gpu_busy_percent" "gpu_busy_percent" "18446744073709551616") := by
  have henable : brimful.view.text (Path.ofString "/device/enable") =
      .ok "\u3000\n0018446744073709551615\u0085\r\n" := by cbv
  have hbusy : brimful.view.text (Path.ofString "/device/gpu_busy_percent") =
      .ok "18446744073709551616" := by cbv
  have hpadded : IsPadded "\u3000\n0018446744073709551615\u0085\r\n".toList
      (18446744073709551615 : UInt64).toNat :=
    ⟨['\u3000', '\n'], 2, ['\u0085', '\r', '\n'], List.all_eq_true.mp rfl,
      List.all_eq_true.mp rfl, by cbv⟩
  have hpadded' : IsPadded "18446744073709551616".toList 18446744073709551616 :=
    ⟨[], 0, [], by simp, by simp, by cbv⟩
  obtain ⟨-, -, -, hoptional, hwords, -⟩ := number_as_written henable "enable"
  obtain ⟨-, -, -, -, -, hlarge⟩ := number_as_written hbusy "gpu_busy_percent"
  refine ⟨hwords _ hpadded, ?_, hlarge _ hpadded' (by decide)⟩
  have hpath : Path.ofString "/device/enable" =
      (Path.ofString "/device").join (Path.ofString "enable") := by cbv
  rw [hoptional _ hpath, hwords _ hpadded]

end CardTelemetry.Sysfs
