-- SUMMARY: Which diagnostics are read back from the lines that show them, and how a message can change the severity of its line.
import Buildwright.Compile.CompilerOutput
import Buildwright.Proofs.Text

/-!
# Headers of the Java compiler

A diagnostic is shown as a header line. Reading looks for the marker of errors in the whole line, then for
the marker of warnings, and only then for a header without a place. A message in which one of the markers
occurs is therefore taken for the end of another header: of a line with a place the error marker is found
first, wherever it stands, and of a line without a place any marker is found before the severity.
-/
namespace Buildwright.CompilerOutput

open Text

/-- Whether a message, with the colon in front of it, has in it the marker of a severity. -/
def Marked (s : Severity) (message : String) : Prop :=
  marker s <:+: (": " ++ message).toList

instance (s : Severity) (message : String) : Decidable (Marked s message) :=
  inferInstanceAs (Decidable (_ <:+: _))

/-! ## Where markers begin -/

theorem marker_eq (s : Severity) : marker s = ':' :: ' ' :: (s.text ++ ": ").toList := by
  cases s <;> decide

/-- In a marker, a blank follows each colon. -/
theorem blank_of_marker_eq {s : Severity} {a b : List Char} (h : marker s = a ++ ':' :: b) :
    b.head? = some ' ' := by
  have hall : ∀ k < 11, (marker s)[k]? = some ':' → (marker s)[k + 1]? = some ' ' := by
    cases s <;> decide
  have hlength : (marker s).length ≤ 11 := by
    cases s <;> decide
  have hk : a.length < 11 := by
    rw [h, List.length_append, List.length_cons] at hlength
    omega
  have hnext := hall a.length hk (by simp [h])
  rw [h, List.getElem?_append_right (by omega)] at hnext
  simpa [List.head?_eq_getElem?] using hnext

/-- A colon that no blank follows ends no marker, so that none begins in a file in which none occurs. -/
theorem clearOf_file {s : Severity} {file rest : List Char} {d : Char}
    (hfile : ¬ marker s <:+: file) (hd : d ≠ ' ') : ClearOf (marker s) file (':' :: d :: rest) := by
  rintro a b rfl - ⟨t, ht⟩
  have hinfix : ∀ c, b = marker s ++ c → False := fun c hc => hfile ⟨a, c, by simp [hc]⟩
  rcases List.append_eq_append_iff.1 ht with ⟨c, hb, -⟩ | ⟨c, hmarker, hrest⟩
  · exact hinfix c hb
  · cases c with
    | nil => exact hinfix [] (by simpa using hmarker.symm)
    | cons x xs =>
      obtain ⟨rfl, hxs⟩ := List.cons.inj hrest
      have hblank := blank_of_marker_eq hmarker
      cases xs with
      | nil => cases hblank
      | cons y ys =>
        have hdy : d = y := (List.cons.inj hxs).1
        exact hd (hdy.trans (Option.some.inj hblank))

/-- A place: a file and the number of a line. -/
def numbered (file : String) (n : Nat) : List Char :=
  file.toList ++ ':' :: (toString n).toList

theorem clearOf_numbered {s : Severity} {file : String} (hfile : ¬ marker s <:+: file.toList) (n : Nat)
    (rest : List Char) : ClearOf (marker s) (numbered file n) rest := by
  cases hdigits : (toString n).toList with
  | nil => exact absurd hdigits (toList_toString_ne_nil n)
  | cons d ds =>
    have hdigit : ∀ c ∈ d :: ds, c.isDigit = true := by
      intro c hc
      rw [← hdigits] at hc
      exact isDigit_of_mem_toString hc
    have hblank : d ≠ ' ' := by
      rintro rfl
      exact absurd (hdigit ' ' List.mem_cons_self) (by decide)
    have hcolon : ':' ∉ d :: ds := fun hc => absurd (hdigit ':' hc) (by decide)
    rw [numbered, hdigits]
    refine (clearOf_file hfile hblank).append ?_
    show ClearOf (marker s) ([':'] ++ (d :: ds)) rest
    refine (clearOf_singleton ?_).append ?_
    · rintro ⟨t, ht⟩
      rw [marker_eq] at ht
      have hd : ' ' = d := (List.cons.inj (List.cons.inj ht).2).1
      exact hblank hd.symm
    · rw [marker_eq]
      exact clearOf_of_not_mem hcolon

theorem colon_not_mem_text (s : Severity) : ':' ∉ s.text.toList := by
  cases s <;> decide

theorem clearOf_text (s t : Severity) (rest : List Char) : ClearOf (marker s) t.text.toList rest := by
  rw [marker_eq]
  exact clearOf_of_not_mem (colon_not_mem_text t)

/-! ## Cutting header lines -/

/-- A header line with a place. -/
def placedLine (file : String) (n : Nat) (s : Severity) (message : String) : List Char :=
  numbered file n ++ (marker s ++ message.toList)

/-- A header line without a place. -/
def plainLine (s : Severity) (message : String) : List Char :=
  s.text.toList ++ (": " ++ message).toList

theorem toList_text_placed (file : String) (n : Nat) (s : Severity) (message : String) :
    (Diagnostic.mk (some file) (some n) s message).text.toList = placedLine file n s message := by
  simp [Diagnostic.text, Diagnostic.place, placedLine, numbered, marker]

theorem toList_text_plain (s : Severity) (message : String) :
    (Diagnostic.mk none none s message).text.toList = plainLine s message := by
  simp [Diagnostic.text, Diagnostic.place, plainLine]

theorem cut?_placedLine {file : String} {n : Nat} {s : Severity} (message : String)
    (hfile : ¬ marker s <:+: file.toList) :
    cut? (marker s) (placedLine file n s message) = some (numbered file n, message.toList) := by
  rw [placedLine, cut?_append (clearOf_numbered hfile n _), marker_eq, cut?_marker_append]
  simp

/-- The marker of errors is looked for in the message of a warning, with the colon in front of it. -/
theorem cut?_error_placedLine {file : String} {n : Nat} (message : String)
    (hfile : ¬ marker .error <:+: file.toList) :
    cut? (marker .error) (placedLine file n .warning message) =
      (cut? (marker .error) (": " ++ message).toList).map fun p =>
        (numbered file n ++ (": warning".toList ++ p.1), p.2) := by
  have hline : marker .warning ++ message.toList = ": warning".toList ++ (": " ++ message).toList := by
    simp [marker, Severity.text]
  have hclear : ClearOf (marker .error) ": warning".toList (": " ++ message).toList := by
    show ClearOf (marker .error) ([':'] ++ " warning".toList) _
    refine (clearOf_singleton ?_).append ?_
    · rintro ⟨t, ht⟩
      simp [marker, Severity.text] at ht
    · rw [marker_eq]
      exact clearOf_of_not_mem (by decide)
  rw [placedLine, cut?_append (clearOf_numbered hfile n _), hline, cut?_append hclear, Option.map_map]
  rfl

theorem cut?_plainLine (s t : Severity) (message : String) :
    cut? (marker s) (plainLine t message) =
      (cut? (marker s) (": " ++ message).toList).map fun p => (t.text.toList ++ p.1, p.2) := by
  rw [plainLine, cut?_append (clearOf_text s t _)]

theorem marked_iff {s : Severity} {message : String} :
    Marked s message ↔ ∃ p, cut? (marker s) (": " ++ message).toList = some p := by
  rw [← Option.ne_none_iff_exists', ne_eq, cut?_eq_none_iff, Decidable.not_not, Marked]

/-! ## Reading places -/

theorem readPlace_numbered (file : String) {n : Nat} (hn : n < lineBound) :
    readPlace (numbered file n) = (file.toList, some n) := by
  have hcolon : ':' ∉ (toString n).toList := fun hc =>
    absurd (isDigit_of_mem_toString hc) (by decide)
  rw [readPlace, numbered, cutLast?_append _ hcolon]
  simp only [unsigned?_toString hn]

/-- A place names a file unless there is nothing in front of its last colon. -/
theorem readPlace_ne_nil {place : List Char} (hplace : place ≠ [])
    (h : ∀ number, place = ':' :: number → ':' ∈ number) : (readPlace place).1 ≠ [] := by
  unfold readPlace
  split
  · next file number hcut =>
    obtain ⟨heq, hnumber⟩ := eq_of_cutLast?_eq_some hcut
    split
    · rintro rfl
      exact hnumber (h number heq)
    · exact hplace
  · exact hplace

/-! ## Reading header lines -/

section Header

variable {s : Severity} {line place message : List Char}

theorem placedHeader?_eq_some (hcut : cut? (marker s) line = some (place, message))
    (hfile : (readPlace place).1 ≠ []) :
    placedHeader? s line = some ⟨some (String.ofList (readPlace place).1), (readPlace place).2, s,
      String.ofList (trimmed message)⟩ := by
  rw [placedHeader?, hcut]
  exact if_neg hfile

theorem placedHeader?_eq_none (hcut : cut? (marker s) line = none) : placedHeader? s line = none := by
  rw [placedHeader?, hcut]

theorem header?_of_error {d : Diagnostic} (h : placedHeader? .error line = some d) :
    header? line = some d := by
  rw [header?, h]
  rfl

theorem header?_of_warning {d : Diagnostic} (hnone : placedHeader? .error line = none)
    (h : placedHeader? .warning line = some d) : header? line = some d := by
  rw [header?, hnone, h]
  rfl

/-- Of lines that are all headers, each is a diagnostic of its own. -/
theorem foldl_readLine_of_headers {lines : List (List Char)} {ds : List Diagnostic}
    (h : List.Forall₂ (fun line d => header? line = some d) lines ds) (read : List Diagnostic) :
    lines.foldl readLine read = read ++ ds := by
  induction h generalizing read with
  | nil => simp
  | cons hd _ ih => rw [List.foldl_cons, readLine, hd, ih, List.append_assoc, List.singleton_append]

/-- The only line of a text is its only diagnostic, if it is a header. -/
theorem diagnostics_of_header? {output : String} {d : Diagnostic} (hne : output.toList ≠ [])
    (hline : '\n' ∉ output.toList) (h : header? output.toList = some d) : diagnostics output = [d] := by
  rw [diagnostics, lines_of_not_mem hne hline]
  exact foldl_readLine_of_headers (.cons h .nil) []

end Header

section Placed

variable {file message : String} {n : Nat} {s : Severity}

theorem header?_placedLine (hne : file ≠ "") (hfile : ∀ s, ¬ marker s <:+: file.toList)
    (hn : n < lineBound) (h : s = .warning → ¬ Marked .error message) :
    header? (placedLine file n s message) = some ⟨some file, some n, s, trim message⟩ := by
  have hplace : (readPlace (numbered file n)).1 ≠ [] := by
    rw [readPlace_numbered file hn]
    exact fun hnil => hne (String.toList_inj.1 hnil)
  have hown := placedHeader?_eq_some (cut?_placedLine (n := n) message (hfile s)) hplace
  rw [readPlace_numbered file hn, String.ofList_toList] at hown
  cases s with
  | error => exact header?_of_error hown
  | warning =>
    refine header?_of_warning (placedHeader?_eq_none ?_) hown
    rw [cut?_error_placedLine message (hfile .error), cut?_eq_none_iff.2 (h rfl), Option.map_none]

/-- The line of a warning whose message is marked as an error is read as an error. -/
theorem header?_placedLine_of_marked (hne : file ≠ "") (hfile : ¬ marker .error <:+: file.toList)
    (h : Marked .error message) :
    ∃ d, header? (placedLine file n .warning message) = some d ∧ d.isError = true := by
  obtain ⟨⟨left, right⟩, hp⟩ := marked_iff.1 h
  have hcut := cut?_error_placedLine (n := n) message hfile
  rw [hp, Option.map_some] at hcut
  have hplace : (readPlace (numbered file n ++ (": warning".toList ++ left))).1 ≠ [] := by
    apply readPlace_ne_nil
    · simp [numbered]
    · intro number heq
      cases hf : file.toList with
      | nil => exact absurd (String.toList_inj.1 hf) hne
      | cons c cs =>
        rw [numbered, hf, List.cons_append, List.cons_append] at heq
        rw [← (List.cons.inj heq).2]
        simp
  exact ⟨_, header?_of_error (placedHeader?_eq_some hcut hplace), rfl⟩

end Placed

section Plain

variable {message : String} {s : Severity}

theorem header?_plainLine (h : ∀ t, ¬ Marked t message) :
    header? (plainLine s message) = some ⟨none, none, s, trim message⟩ := by
  have hnone : ∀ t, placedHeader? t (plainLine s message) = none := by
    intro t
    apply placedHeader?_eq_none
    rw [cut?_plainLine, cut?_eq_none_iff.2 (h t), Option.map_none]
  have hown : plainHeader? s (plainLine s message) = some ⟨none, none, s, trim message⟩ := by
    have hline : plainLine s message = (s.text ++ ": ").toList ++ message.toList := by
      simp [plainLine]
    rw [plainHeader?, isPrefixOf?_eq_some.2 hline]
    rfl
  rw [header?, hnone, hnone]
  cases s with
  | error =>
    rw [hown]
    rfl
  | warning =>
    have herror : plainHeader? .error (plainLine .warning message) = none := by
      rw [plainHeader?, isPrefixOf?_eq_none.2, Option.map_none]
      rintro ⟨t, ht⟩
      simp [plainLine, Severity.text] at ht
    rw [herror, hown]
    rfl

/-- What stands in front of a marker in the message is read as a place. -/
theorem placedHeader?_plainLine {t : Severity} (h : Marked t message) :
    ∃ d, placedHeader? t (plainLine s message) = some d ∧ d.file ≠ none := by
  obtain ⟨⟨left, right⟩, hp⟩ := marked_iff.1 h
  have hcut := cut?_plainLine t s message
  rw [hp, Option.map_some] at hcut
  have hplace : (readPlace (s.text.toList ++ left)).1 ≠ [] := by
    apply readPlace_ne_nil
    · cases s <;> simp [Severity.text]
    · intro number heq
      cases s <;> simp [Severity.text] at heq
  exact ⟨_, placedHeader?_eq_some hcut hplace, by simp⟩

theorem header?_plainLine_of_marked {t : Severity} (h : Marked t message) :
    ∃ d, header? (plainLine s message) = some d ∧ d.file ≠ none := by
  by_cases herror : Marked .error message
  · obtain ⟨d, hd, hfile⟩ := placedHeader?_plainLine (s := s) herror
    exact ⟨d, header?_of_error hd, hfile⟩
  · have hwarning : Marked .warning message := by
      cases t with
      | error => exact absurd h herror
      | warning => exact h
    obtain ⟨d, hd, hfile⟩ := placedHeader?_plainLine (s := s) hwarning
    refine ⟨d, header?_of_warning (placedHeader?_eq_none ?_) hd, hfile⟩
    rw [cut?_plainLine, cut?_eq_none_iff.2 herror, Option.map_none]

end Plain

/-! ## Showing and reading -/

theorem diagnostics_placed {file message : String} {n : Nat} {s : Severity} {d : Diagnostic}
    (hfile : '\n' ∉ file.toList) (hmessage : '\n' ∉ message.toList)
    (h : header? (placedLine file n s message) = some d) :
    diagnostics (Diagnostic.mk (some file) (some n) s message).text = [d] := by
  apply diagnostics_of_header?
  · rw [toList_text_placed]
    simp [placedLine, numbered]
  · have hdigits : '\n' ∉ (toString n).toList := fun hc =>
      absurd (isDigit_of_mem_toString hc) (by decide)
    have hmarker : '\n' ∉ marker s := by cases s <;> decide
    rw [toList_text_placed]
    simp only [placedLine, numbered, List.mem_append, List.mem_cons, not_or]
    exact ⟨⟨hfile, by decide, hdigits⟩, hmarker, hmessage⟩
  · rw [toList_text_placed]
    exact h

theorem diagnostics_plain {message : String} {s : Severity} {d : Diagnostic}
    (hmessage : '\n' ∉ message.toList) (h : header? (plainLine s message) = some d) :
    diagnostics (Diagnostic.mk none none s message).text = [d] := by
  apply diagnostics_of_header?
  · rw [toList_text_plain]
    simp [plainLine]
  · have htext : '\n' ∉ s.text.toList := by cases s <;> decide
    rw [toList_text_plain]
    simp [plainLine, htext, hmessage]
  · rw [toList_text_plain]
    exact h

/-- A diagnostic of one line is read back from the line that shows it, up to blanks around its message,
    exactly under these conditions. With a place, it is an error, or a warning without the marker of errors
    in its message; any other warning is read as an error. Without a place, its message has no marker at
    all. -/
theorem diagnostics_text_iff {file message : String} {n : Nat} (s : Severity) (hne : file ≠ "")
    (hfile : '\n' ∉ file.toList) (hmarkers : ∀ t, ¬ marker t <:+: file.toList) (hn : n < lineBound)
    (hmessage : '\n' ∉ message.toList) :
    (diagnostics (Diagnostic.mk (some file) (some n) s message).text =
        [⟨some file, some n, s, trim message⟩] ↔ (s = .warning → ¬ Marked .error message)) ∧
    (s = .warning → Marked .error message →
      ∃ d, diagnostics (Diagnostic.mk (some file) (some n) s message).text = [d] ∧
        d.isError = true) ∧
    (diagnostics (Diagnostic.mk none none s message).text = [⟨none, none, s, trim message⟩] ↔
      ∀ t, ¬ Marked t message) := by
  have herror : s = .warning → Marked .error message →
      ∃ d, diagnostics (Diagnostic.mk (some file) (some n) s message).text = [d] ∧
        d.isError = true := by
    rintro rfl hmarked
    obtain ⟨d, hd, hisError⟩ := header?_placedLine_of_marked (n := n) hne (hmarkers .error) hmarked
    exact ⟨d, diagnostics_placed hfile hmessage hd, hisError⟩
  refine ⟨⟨?_, ?_⟩, herror, ⟨?_, ?_⟩⟩
  · rintro hread rfl hmarked
    obtain ⟨d, hd, hisError⟩ := herror rfl hmarked
    rw [hread] at hd
    rw [← (List.cons.inj hd).1] at hisError
    cases hisError
  · intro hunmarked
    exact diagnostics_placed hfile hmessage (header?_placedLine hne hmarkers hn hunmarked)
  · intro hread t hmarked
    obtain ⟨d, hd, hplace⟩ := header?_plainLine_of_marked (s := s) hmarked
    rw [diagnostics_plain hmessage hd] at hread
    rw [(List.cons.inj hread).1] at hplace
    exact hplace rfl
  · intro hunmarked
    exact diagnostics_plain hmessage (header?_plainLine hunmarked)

theorem diagnostics_text_iff_removalWarning :
    (∀ t, ¬ marker t <:+: "A.java".toList) ∧
    diagnostics (Diagnostic.mk (some "A.java") (some 3) .warning " [removal] old() is gone").text =
      [⟨some "A.java", some 3, .warning, "[removal] old() is gone"⟩] ∧
    diagnostics (Diagnostic.mk none none .warning " [removal] old() is gone").text =
      [⟨none, none, .warning, "[removal] old() is gone"⟩] := by
  have hfile : '\n' ∉ "A.java".toList := by decide +kernel
  have hmessage : '\n' ∉ " [removal] old() is gone".toList := by decide +kernel
  have hmarkers : ∀ t, ¬ marker t <:+: "A.java".toList := by
    intro t
    cases t <;> decide +kernel
  have hunmarked : ∀ t, ¬ Marked t " [removal] old() is gone" := by
    intro t
    cases t <;> decide +kernel
  obtain ⟨hplaced, -, hplain⟩ :=
    diagnostics_text_iff (n := 3) .warning (by decide) hfile hmarkers (by decide) hmessage
  have htrim : trim " [removal] old() is gone" = "[removal] old() is gone" := by decide +kernel
  rw [htrim] at hplaced hplain
  exact ⟨hmarkers, hplaced.2 fun _ => hunmarked .error, hplain.2 hunmarked⟩

/-- A warning that quotes an error is read as an error in a file of another name, and without a place it
    gets one. -/
theorem not_severity_of_quotedError :
    (∀ t, ¬ marker t <:+: "A.java".toList) ∧
    diagnostics (Diagnostic.mk (some "A.java") (some 3) .warning "see note: error: gone").text =
      [⟨some "A.java:3: warning: see note", none, .error, "gone"⟩] ∧
    diagnostics (Diagnostic.mk none none .warning "see note: error: gone").text =
      [⟨some "warning: see note", none, .error, "gone"⟩] := by
  refine ⟨?_, by decide +kernel, by decide +kernel⟩
  intro t
  cases t <;> decide +kernel

end Buildwright.CompilerOutput
