-- SUMMARY: The diagnostics of texts that are put one behind the other, and of the two streams of a command.
import Mathlib.Data.List.Induction
import Buildwright.Compile.Command
import Buildwright.Compile.CompilerOutput
import Buildwright.Proofs.Text

/-!
# Output behind output

Reading goes from line to line, and a detail belongs to the diagnostic before it. Of a text behind another,
only the details in front of its first header can therefore depend on what stands before it: they go to the
last diagnostic there, and are dropped if there is none. `continuedBy` states this rule. Lines that are
neither headers nor details do not matter anywhere, and the two streams of a command are joined by the same
rule, as they never share a line.
-/
namespace Buildwright.CompilerOutput

open Text

/-- The last line of a text is complete. -/
def EndsLine (s : String) : Prop :=
  s = "" ∨ endsWith "\n" s = true

instance (s : String) : Decidable (EndsLine s) :=
  inferInstanceAs (Decidable (_ ∨ _))

/-- A line that reading passes over. -/
def Neutral (line : List Char) : Prop :=
  header? line = none ∧ detail? line = none

instance (line : List Char) : Decidable (Neutral line) :=
  inferInstanceAs (Decidable (_ ∧ _))

/-- The diagnostics of the header lines of an output, without details. -/
def headers (output : String) : List Diagnostic :=
  (lines output.toList).filterMap header?

/-- The details among lines, up to the first header. -/
def leadingDetails (ls : List (List Char)) : List (List Char) :=
  (ls.takeWhile fun line => (header? line).isNone).filterMap detail?

/-- A diagnostic with details below its message, each on a line of its own. -/
def withDetails (d : Diagnostic) (details : List (List Char)) : Diagnostic :=
  { d with message := joined "\n" (d.message :: details.map String.ofList) }

/-- The diagnostics with details for the last of them. Without a diagnostic the details are dropped. -/
def withLastDetails (ds : List Diagnostic) (details : List (List Char)) : List Diagnostic :=
  match ds.getLast? with
  | none => []
  | some d => ds.dropLast ++ [withDetails d details]

/-- The diagnostics `ds`, continued by those of an output: the details in front of its first header go to the
    last of `ds`. -/
def continuedBy (ds : List Diagnostic) (output : String) : List Diagnostic :=
  withLastDetails ds (leadingDetails (lines output.toList)) ++ diagnostics output

/-! ## Details -/

section Details

variable {d : Diagnostic} {ds : List Diagnostic} {detail : List Char} {details : List (List Char)}

theorem withDetails_nil (d : Diagnostic) : withDetails d [] = d := by
  simp [withDetails, joined]

theorem withDetails_withDetail (d : Diagnostic) (detail : List Char) (details : List (List Char)) :
    withDetails (withDetail d detail) details = withDetails d (detail :: details) := by
  have hmessage : joined "\n" ((d.message ++ "\n" ++ String.ofList detail) :: details.map String.ofList) =
      joined "\n" (d.message :: String.ofList detail :: details.map String.ofList) := by
    cases details with
    | nil =>
      apply String.toList_inj.1
      simp [joined, List.intercalate_cons_cons]
    | cons next rest =>
      rw [List.map_cons, joined_cons _ _ (by simp), joined_cons _ d.message (by simp),
        joined_cons _ (String.ofList detail) (by simp)]
      simp only [String.append_assoc]
  rw [withDetails, withDetails, withDetail, List.map_cons, hmessage]

theorem withLastDetails_concat (ds : List Diagnostic) (d : Diagnostic) (details : List (List Char)) :
    withLastDetails (ds ++ [d]) details = ds ++ [withDetails d details] := by
  rw [withLastDetails, List.getLast?_concat, List.dropLast_concat]

theorem withLastDetails_nil (ds : List Diagnostic) : withLastDetails ds [] = ds := by
  cases ds using List.reverseRecOn with
  | nil => rfl
  | append_singleton ds d => rw [withLastDetails_concat, withDetails_nil]

theorem withLastDetails_detailLast (ds : List Diagnostic) (detail : List Char)
    (details : List (List Char)) :
    withLastDetails (detailLast detail ds) details = withLastDetails ds (detail :: details) := by
  cases ds using List.reverseRecOn with
  | nil => rfl
  | append_singleton ds d =>
    rw [detailLast, List.getLast?_concat, List.dropLast_concat, withLastDetails_concat,
      withLastDetails_concat, withDetails_withDetail]

end Details

/-! ## Reading on -/

/-- Of the lines that are read behind diagnostics, only the details in front of the first header depend on
    these. The induction is on the lines, with the diagnostics before them arbitrary. -/
theorem foldl_readLine (ls : List (List Char)) (ds : List Diagnostic) :
    ls.foldl readLine ds = withLastDetails ds (leadingDetails ls) ++ ls.foldl readLine [] := by
  induction ls generalizing ds with
  | nil =>
    rw [leadingDetails, List.takeWhile_nil, List.filterMap_nil, withLastDetails_nil]
    exact (List.append_nil ds).symm
  | cons line rest ih =>
    rw [List.foldl_cons, List.foldl_cons, readLine, readLine]
    cases hheader : header? line with
    | some d =>
      have hnone : leadingDetails (line :: rest) = [] := by
        rw [leadingDetails, List.takeWhile_cons_of_neg (by simp [hheader]), List.filterMap_nil]
      simp only
      rw [ih (ds ++ [d]), ih ([] ++ [d]), hnone, withLastDetails_nil, withLastDetails_concat,
        withLastDetails_concat, List.nil_append, List.append_assoc]
    | none =>
      have hlead : (line :: rest).takeWhile (fun line => (header? line).isNone) =
          line :: rest.takeWhile fun line => (header? line).isNone :=
        List.takeWhile_cons_of_pos (by simp [hheader])
      cases hdetail : detail? line with
      | some detail =>
        simp only
        rw [ih (detailLast detail ds), withLastDetails_detailLast, leadingDetails, leadingDetails, hlead,
          List.filterMap_cons_some hdetail]
        rfl
      | none =>
        simp only
        rw [ih ds, leadingDetails, leadingDetails, hlead, List.filterMap_cons_none hdetail]

/-- Neutral lines leave the diagnostics as they are. -/
theorem foldl_readLine_of_neutral {ls : List (List Char)} (h : ∀ line ∈ ls, Neutral line)
    (ds : List Diagnostic) : ls.foldl readLine ds = ds := by
  induction ls with
  | nil => rfl
  | cons line rest ih =>
    obtain ⟨⟨hheader, hdetail⟩, hrest⟩ := List.forall_mem_cons.1 h
    rw [List.foldl_cons, readLine, hheader, hdetail]
    exact ih hrest

/-! ## Texts behind texts -/

theorem EndsLine.append {a b : String} (ha : EndsLine a) (hb : EndsLine b) : EndsLine (a ++ b) := by
  rcases hb with rfl | hb
  · rw [String.append_empty]
    exact ha
  · obtain ⟨before, rfl⟩ := endsWith_eq_true.1 hb
    exact .inr (endsWith_eq_true.2 ⟨a ++ before, (String.append_assoc ..).symm⟩)

theorem lines_append_of_endsLine {a : String} (ha : EndsLine a) (b : String) :
    lines (a ++ b).toList = lines a.toList ++ lines b.toList := by
  rw [String.toList_append]
  rcases ha with rfl | ha
  · rfl
  · exact lines_append (List.isSuffixOf_iff_suffix.1 ha) b.toList

/-- The streams of a command share no line. -/
theorem lines_combined (o : CommandOutput) (h : endsWith "\r" o.stdout = false) :
    lines o.combined.toList = lines o.stdout.toList ++ lines o.stderr.toList := by
  unfold CommandOutput.combined
  split
  · next herr =>
    rw [herr]
    exact (List.append_nil _).symm
  split
  · next hout =>
    rw [hout]
    rfl
  split
  · next hfeed => exact lines_append_of_endsLine (.inr hfeed) o.stderr
  · next hout hfeed =>
    have hends : EndsLine (o.stdout ++ "\n") := .inr (endsWith_eq_true.2 ⟨o.stdout, rfl⟩)
    rw [lines_append_of_endsLine hends, String.toList_append]
    have hcomplete : lines (o.stdout.toList ++ ['\n']) = lines o.stdout.toList := by
      apply lines_concat_lineFeed
      · exact fun hnil => hout (String.toList_inj.1 hnil)
      · exact fun hfeed' => hfeed (List.isSuffixOf_iff_suffix.2 hfeed')
      · intro hreturn
        have hends' : endsWith "\r" o.stdout = true := List.isSuffixOf_iff_suffix.2 hreturn
        rw [h] at hends'
        cases hends'
    exact congrArg (· ++ lines o.stderr.toList) hcomplete

theorem diagnostics_of_lines {whole a b : String}
    (h : lines whole.toList = lines a.toList ++ lines b.toList) :
    diagnostics whole = continuedBy (diagnostics a) b := by
  rw [diagnostics, h, List.foldl_append, foldl_readLine, continuedBy, diagnostics, diagnostics]

/-- Reading goes from text to text. The diagnostics of a text whose last line is complete are continued by
    those of the text behind it; a block of neutral lines in between does not matter; and the diagnostics of
    the first stream of a command, unless it ends with a carriage return alone, are continued by those of
    the second, whereby no header is lost and none arises. -/
theorem diagnostics_append :
    (∀ a b : String, EndsLine a → diagnostics (a ++ b) = continuedBy (diagnostics a) b) ∧
    (∀ a block b : String, EndsLine a → EndsLine block → (∀ line ∈ lines block.toList, Neutral line) →
      diagnostics (a ++ block ++ b) = diagnostics (a ++ b)) ∧
    ∀ o : CommandOutput, endsWith "\r" o.stdout = false →
      diagnostics o.combined = continuedBy (diagnostics o.stdout) o.stderr ∧
        headers o.combined = headers o.stdout ++ headers o.stderr := by
  refine ⟨fun a b ha => diagnostics_of_lines (lines_append_of_endsLine ha b), ?_, ?_⟩
  · intro a block b ha hblock hneutral
    rw [diagnostics, lines_append_of_endsLine (ha.append hblock), lines_append_of_endsLine ha,
      List.foldl_append, List.foldl_append, foldl_readLine_of_neutral hneutral, diagnostics,
      lines_append_of_endsLine ha, List.foldl_append]
  · intro o ho
    refine ⟨diagnostics_of_lines (lines_combined o ho), ?_⟩
    rw [headers, lines_combined o ho, List.filterMap_append]
    rfl

/-- Details in front of a first header go to the diagnostic before them; an excerpt and a summary do not
    stand in their way; and a stream that breaks off is followed by a new line. -/
theorem diagnostics_append_details :
    diagnostics ("A.java:3: error: cannot find symbol\n" ++ "  symbol: class M\n  location: class A\nerror: bad") =
      [⟨some "A.java", some 3, .error, "cannot find symbol\nsymbol: class M\nlocation: class A"⟩,
        ⟨none, none, .error, "bad"⟩] ∧
    diagnostics ("error: bad\n" ++ "    M m;\n    ^\n1 error\n" ++ "  symbol: class M") =
      diagnostics ("error: bad\n" ++ "  symbol: class M") ∧
    (diagnostics (CommandOutput.mk (some 1) "Note: wait" "error: bad").combined = [⟨none, none, .error, "bad"⟩] ∧
      headers (CommandOutput.mk (some 1) "Note: wait" "error: bad").combined =
        headers "Note: wait" ++ headers "error: bad") := by
  refine ⟨?_, ?_, ?_⟩
  · rw [diagnostics_append.1 _ _ (by decide +kernel)]
    decide +kernel
  · exact diagnostics_append.2.1 _ _ _ (by decide +kernel) (by decide +kernel) (by decide +kernel)
  · obtain ⟨hjoined, hheaders⟩ :=
      diagnostics_append.2.2 ⟨some 1, "Note: wait", "error: bad"⟩ (by decide +kernel)
    refine ⟨hjoined.trans ?_, hheaders⟩
    decide +kernel

end Buildwright.CompilerOutput
