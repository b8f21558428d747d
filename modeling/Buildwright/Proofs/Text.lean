-- SUMMARY: Occurrences, numbers, lines and blanks: when what was put into a text is what is read from it.
import Mathlib.Data.List.DropRight
import Mathlib.Data.List.Forall2
import Mathlib.Data.List.TakeWhile
import Buildwright.Text.Blank
import Buildwright.Text.Number
import Buildwright.Text.Pieces

/-!
# Reading texts back

A cut at a marker is a cut at its first occurrence. It is found behind a text in which no occurrence
begins, which is more than that the text holds none: an occurrence may begin in it and end behind it. A
cut at a separator is a cut at its last occurrence. The digits of a number are read as that number, and the
lines of which a text consists are read as those lines. Trimming leaves something of a text unless all of it is blank.
-/
namespace Buildwright.Text

/-! ## First occurrences -/

/-- No occurrence of the marker begins in `left`, when `rest` follows. -/
def ClearOf (marker left rest : List Char) : Prop :=
  ∀ a b, left = a ++ b → b ≠ [] → ¬ marker <+: b ++ rest

section Clear

variable {marker left left' rest : List Char}

theorem ClearOf.append (h : ClearOf marker left (left' ++ rest)) (h' : ClearOf marker left' rest) :
    ClearOf marker (left ++ left') rest := by
  intro a b hab hb
  rcases List.append_eq_append_iff.1 hab with ⟨c, -, hc⟩ | ⟨c, hc, hb'⟩
  · exact h' c b hc hb
  · by_cases hne : c = []
    · rw [hne, List.nil_append] at hb'
      exact h' [] b hb'.symm hb
    · rw [hb', List.append_assoc]
      exact h a c hc hne

theorem ClearOf.tail {c : Char} (h : ClearOf marker (c :: left) rest) : ClearOf marker left rest :=
  fun a b hab hb => h (c :: a) b (by rw [hab, List.cons_append]) hb

/-- No occurrence begins in a text without the first character of the marker. -/
theorem clearOf_of_not_mem {c : Char} (h : c ∉ left) : ClearOf (c :: marker) left rest := by
  rintro a b hab hb ⟨t, ht⟩
  cases b with
  | nil => exact hb rfl
  | cons d ds =>
    have hc : c = d := (List.cons.inj ht).1
    exact h (by simp [hab, hc])

theorem clearOf_singleton {c : Char} (h : ¬ marker <+: c :: rest) : ClearOf marker [c] rest := by
  intro a b hab hb
  rcases List.append_eq_singleton_iff.1 hab.symm with ⟨-, rfl⟩ | ⟨-, rfl⟩
  · exact h
  · exact absurd rfl hb

theorem isPrefixOf?_eq_none {start s : List Char} :
    start.isPrefixOf? s = none ↔ ¬ start <+: s := by
  rw [Option.eq_none_iff_forall_ne_some]
  constructor
  · rintro h ⟨r, hr⟩
    exact h r (isPrefixOf?_eq_some.2 hr.symm)
  · intro h r hr
    exact h ⟨r, (isPrefixOf?_eq_some.1 hr).symm⟩

/-- Behind a text in which no occurrence begins, the cut is that of the rest. -/
theorem cut?_append (h : ClearOf marker left rest) :
    cut? marker (left ++ rest) = (cut? marker rest).map fun p => (left ++ p.1, p.2) := by
  induction left with
  | nil => simp
  | cons c cs ih =>
    have hnone : marker.isPrefixOf? (c :: (cs ++ rest)) = none :=
      isPrefixOf?_eq_none.2 (h [] (c :: cs) rfl (List.cons_ne_nil c cs))
    rw [List.cons_append, cut?, hnone, ih h.tail, Option.map_map]
    rfl

theorem cut?_marker_append (c : Char) (marker right : List Char) :
    cut? (c :: marker) (c :: marker ++ right) = some ([], right) := by
  rw [List.cons_append, cut?, ← List.cons_append, isPrefixOf?_eq_some.2 rfl]

/-- A cut fails exactly if the marker does not occur. -/
theorem cut?_eq_none_iff {s : List Char} : cut? marker s = none ↔ ¬ marker <:+: s := by
  induction s with
  | nil => simp [cut?]
  | cons c cs ih =>
    rw [List.infix_cons_iff, not_or, ← isPrefixOf?_eq_none, ← ih, cut?]
    cases marker.isPrefixOf? (c :: cs) with
    | none => simp
    | some r => simp

/-- No occurrence begins in a text without one if it would have to go on in a character that the marker lacks. -/
theorem clearOf_of_head {c : Char} (hc : c ∉ marker) (hleft : ¬ marker <:+: left) :
    ClearOf marker left (c :: rest) := by
  rintro a b rfl - ⟨t, ht⟩
  rcases List.append_eq_append_iff.1 ht with ⟨more, hb, -⟩ | ⟨more, hmarker, hrest⟩
  · exact hleft ⟨a, more, by rw [hb, List.append_assoc]⟩
  · cases more with
    | nil => exact hleft ⟨a, [], by simp [hmarker]⟩
    | cons x xs =>
      obtain ⟨rfl, -⟩ := List.cons.inj hrest
      exact hc (by simp [hmarker])

/-- A marker does not occur across a character that it lacks. -/
theorem not_infix_append {c : Char} (hc : c ∉ marker) (hleft : ¬ marker <:+: left)
    (hrest : ¬ marker <:+: c :: rest) : ¬ marker <:+: left ++ c :: rest := by
  rw [← cut?_eq_none_iff, cut?_append (clearOf_of_head hc hleft), cut?_eq_none_iff.2 hrest,
    Option.map_none]

end Clear

/-! ## Last occurrences -/

theorem cutLast?_eq_none {sep : Char} {s : List Char} (h : sep ∉ s) : cutLast? sep s = none := by
  cases hs : cutLast? sep s with
  | none => rfl
  | some p =>
    have hcut := (eq_of_cutLast?_eq_some hs).1
    exact absurd (by simp [hcut]) h

theorem cutLast?_append {sep : Char} (left : List Char) {right : List Char} (h : sep ∉ right) :
    cutLast? sep (left ++ sep :: right) = some (left, right) := by
  induction left with
  | nil => rw [List.nil_append, cutLast?, cutLast?_eq_none h, if_pos rfl]
  | cons c cs ih => rw [List.cons_append, cutLast?, ih]

/-! ## Leading characters -/

/-- A character in front of a text without it is dropped. -/
theorem dropLeading_append {c : Char} {s : String} (h : c ∉ s.toList) :
    dropLeading c (String.ofList [c] ++ s) = s := by
  have hkept : s.toList.dropWhile (· == c) = s.toList := by
    cases hs : s.toList with
    | nil => rfl
    | cons first rest =>
      rw [hs, List.mem_cons, not_or] at h
      exact List.dropWhile_cons_of_neg (by simpa using Ne.symm h.1)
  apply String.toList_inj.1
  simp [dropLeading, hkept]

theorem dropLeading_dropLeading (c : Char) (s : String) :
    dropLeading c (dropLeading c s) = dropLeading c s := by
  simp [dropLeading, List.dropWhile_idempotent]

/-! ## Trailing characters -/

theorem endsWith_append_of_ne {c : Char} (s : String) {t : String} (h : t ≠ "") :
    endsWith (String.ofList [c]) (s ++ t) = endsWith (String.ofList [c]) t := by
  have hne : t.toList ≠ [] := by simpa using h
  rw [Bool.eq_iff_iff]
  simp only [endsWith, String.toList_ofList, String.toList_append, List.isSuffixOf_iff_suffix,
    List.singleton_suffix_iff_getLast?_eq_some, List.getLast?_append]
  cases hlast : t.toList.getLast? with
  | none => exact absurd (List.getLast?_eq_none_iff.1 hlast) hne
  | some d => simp

/-! ## Pieces -/

/-- A separator between two texts cuts them apart. -/
theorem pieces_append (sep : Char) (s t : String) :
    pieces sep (s ++ String.ofList [sep] ++ t) = pieces sep s ++ pieces sep t := by
  simp [pieces, List.splitOn_append_cons_self]

theorem pieces_ne_nil (sep : Char) (s : String) : pieces sep s ≠ [] := by
  simp [pieces, List.splitOn_ne_nil]

/-- The empty text has one piece. -/
theorem pieces_empty (sep : Char) : pieces sep "" = [""] := by
  simp [pieces]

theorem of_mem_splitOn {sep c : Char} {s piece : List Char} (h : piece ∈ s.splitOn sep)
    (hc : c ∈ piece) : c ≠ sep ∧ c ∈ s := by
  induction s generalizing piece with
  | nil =>
    rw [List.splitOn_nil, List.mem_singleton] at h
    exact absurd (h ▸ hc) List.not_mem_nil
  | cons d ds ih =>
    rw [List.splitOn_cons_eq_if_modifyHead] at h
    cases hpieces : ds.splitOn sep with
    | nil => exact absurd hpieces (List.splitOn_ne_nil sep ds)
    | cons first others =>
      rw [hpieces] at h ih
      have hrest : ∀ {piece}, piece ∈ first :: others → c ∈ piece → c ≠ sep ∧ c ∈ d :: ds :=
        fun hpiece hc => (ih hpiece hc).imp id (List.mem_cons_of_mem d)
      split at h
      · rcases List.mem_cons.1 h with rfl | h
        · exact absurd hc List.not_mem_nil
        · exact hrest h hc
      · next hd =>
        rcases List.mem_cons.1 h with rfl | h
        · rcases List.mem_cons.1 hc with rfl | hc
          · exact ⟨fun heq => hd (beq_iff_eq.2 heq), List.mem_cons_self⟩
          · exact hrest List.mem_cons_self hc
        · exact hrest (List.mem_cons_of_mem first h) hc

/-- The characters of a piece are those of the text, without the separator. -/
theorem of_mem_pieces {sep c : Char} {s piece : String} (h : piece ∈ pieces sep s)
    (hc : c ∈ piece.toList) : c ≠ sep ∧ c ∈ s.toList := by
  obtain ⟨chars, hchars, rfl⟩ := List.mem_map.1 h
  rw [String.toList_ofList] at hc
  exact of_mem_splitOn hchars hc

theorem not_mem_of_mem_pieces {sep : Char} {s piece : String} (h : piece ∈ pieces sep s) :
    sep ∉ piece.toList :=
  fun hsep => (of_mem_pieces h hsep).1 rfl

/-- Parts without the separator are the pieces of the text that they are joined to. -/
theorem pieces_joined {sep : Char} {parts : List String} (h : ∀ part ∈ parts, sep ∉ part.toList)
    (hne : parts ≠ []) : pieces sep (joined (String.ofList [sep]) parts) = parts := by
  have hsplit : ([sep].intercalate (parts.map String.toList)).splitOn sep =
      parts.map String.toList := by
    apply List.splitOn_intercalate
    · intro chars hchars
      obtain ⟨part, hpart, rfl⟩ := List.mem_map.1 hchars
      exact h part hpart
    · simpa using hne
  simp [pieces, joined, hsplit, Function.comp_def]

theorem joined_cons (sep part : String) {parts : List String} (h : parts ≠ []) :
    joined sep (part :: parts) = part ++ sep ++ joined sep parts := by
  cases parts with
  | nil => exact absurd rfl h
  | cons next rest =>
    apply String.toList_inj.1
    simp [joined, List.intercalate_cons_cons]

theorem joined_append (sep : String) {parts parts' : List String} (h : parts ≠ []) (h' : parts' ≠ []) :
    joined sep (parts ++ parts') = joined sep parts ++ sep ++ joined sep parts' := by
  induction parts with
  | nil => exact absurd rfl h
  | cons part rest ih =>
    cases rest with
    | nil =>
      rw [List.singleton_append, joined_cons sep part h']
      simp [joined]
    | cons next rest =>
      rw [List.cons_append, joined_cons sep part (by simp), ih (List.cons_ne_nil next rest),
        joined_cons sep part (List.cons_ne_nil next rest)]
      simp only [String.append_assoc]

theorem replaceChars_joined (p : Char → Bool) (new : Char) (sep : String) (parts : List String) :
    replaceChars p new (joined sep parts) =
      joined (replaceChars p new sep) (parts.map (replaceChars p new)) := by
  induction parts with
  | nil => rfl
  | cons part rest ih =>
    by_cases hrest : rest = []
    · subst hrest
      apply String.toList_inj.1
      simp [joined]
    · rw [List.map_cons, joined_cons _ _ hrest, joined_cons _ _ (by simpa using hrest),
        replaceChars_append, replaceChars_append, ih]

/-- A text behind the last separator goes to the last piece. -/
theorem exists_pieces_append (sep : Char) (s : String) :
    ∃ before last, pieces sep s = before ++ [last] ∧
      ∀ t, sep ∉ t.toList → pieces sep (s ++ t) = before ++ [last ++ t] := by
  obtain ⟨before, last, hs⟩ := (List.eq_nil_or_concat' (pieces sep s)).resolve_left (pieces_ne_nil sep s)
  refine ⟨before, last, hs, fun t h => ?_⟩
  have hfree : ∀ piece ∈ before ++ [last], sep ∉ piece.toList := fun piece hpiece =>
    not_mem_of_mem_pieces (hs ▸ hpiece)
  have hst : s ++ t = joined (String.ofList [sep]) (before ++ [last ++ t]) := by
    rw [← joined_pieces sep s, hs]
    cases before with
    | nil => simp [joined]
    | cons first rest =>
      rw [joined_append _ (List.cons_ne_nil first rest) (List.cons_ne_nil _ _),
        joined_append _ (List.cons_ne_nil first rest) (List.cons_ne_nil _ _)]
      simp [joined, String.append_assoc]
  rw [hst]
  apply pieces_joined
  · intro piece hpiece
    rcases List.mem_append.1 hpiece with hpiece | hpiece
    · exact hfree piece (List.mem_append_left _ hpiece)
    · rw [List.mem_singleton.1 hpiece, String.toList_append, List.mem_append, not_or]
      exact ⟨hfree last (by simp), h⟩
  · simp

theorem pieces_append_of_not_mem {sep : Char} (s : String) {t : String} (h : sep ∉ t.toList) :
    ∃ before last, pieces sep s = before ++ [last] ∧ pieces sep (s ++ t) = before ++ [last ++ t] := by
  obtain ⟨before, last, hs, happend⟩ := exists_pieces_append sep s
  exact ⟨before, last, hs, happend t h⟩

/-- An ending without the separator, with something in front of it, is an ending of the last part. -/
theorem joined_concat_eq_append_iff {sep : Char} {parts : List String} {last ending : String}
    (hparts : ∀ part ∈ parts ++ [last], sep ∉ part.toList) (hending : sep ∉ ending.toList) :
    (∃ stem, stem ≠ "" ∧ joined (String.ofList [sep]) (parts ++ [last]) = stem ++ ending) ↔
      ∃ start, last = start ++ ending ∧ (parts ≠ [] ∨ start ≠ "") := by
  have hsingle : ∀ part, joined (String.ofList [sep]) [part] = part := fun part => by simp [joined]
  constructor
  · rintro ⟨stem, hstem, heq⟩
    obtain ⟨before, start, hpieces, happend⟩ := exists_pieces_append sep stem
    have hsplit := pieces_joined hparts (by simp)
    rw [heq, happend ending hending] at hsplit
    obtain ⟨rfl, hlast⟩ := List.append_inj' hsplit rfl
    refine ⟨start, (List.singleton_inj.1 hlast).symm, ?_⟩
    by_cases hnil : before = []
    · refine .inr fun hempty => hstem ?_
      rw [← joined_pieces sep stem, hpieces, hnil, List.nil_append, hsingle, hempty]
    · exact .inl hnil
  · rintro ⟨start, rfl, hfront⟩
    by_cases hnil : parts = []
    · exact ⟨start, hfront.resolve_left (not_not_intro hnil), by rw [hnil, List.nil_append, hsingle]⟩
    · refine ⟨joined (String.ofList [sep]) parts ++ String.ofList [sep] ++ start, by simp, ?_⟩
      rw [joined_append _ hnil (List.cons_ne_nil _ _), hsingle]
      simp only [String.append_assoc]

/-! ## Numbers -/

theorem digitsFrom?_eq_some {cs : List Char} (h : ∀ c ∈ cs, c.isDigit = true) (n : Nat) :
    digitsFrom? n cs = some (Nat.ofDigitChars 10 cs n) := by
  induction cs generalizing n with
  | nil => rfl
  | cons c cs ih =>
    rw [digitsFrom?, if_pos (h c List.mem_cons_self), ih fun d hd => h d (List.mem_cons_of_mem c hd),
      Nat.ofDigitChars_cons, Nat.mul_comm]

theorem isDigit_of_mem_toString {n : Nat} {c : Char} (h : c ∈ (toString n).toList) :
    c.isDigit = true := by
  rw [Nat.toString_eq_repr, Nat.toList_repr] at h
  exact Nat.isDigit_of_mem_toDigits (by decide) (by decide) h

theorem toList_toString_ne_nil (n : Nat) : (toString n).toList ≠ [] := by
  rw [Nat.toString_eq_repr, Nat.toList_repr]
  exact Nat.toDigits_ne_nil

/-- A number below the bound is read from its digits. -/
theorem unsigned?_toString {bound n : Nat} (h : n < bound) :
    unsigned? bound (toString n).toList = some n := by
  have hdigits : digitsFrom? 0 (toString n).toList = some n := by
    rw [digitsFrom?_eq_some fun c hc => isDigit_of_mem_toString hc, Nat.toString_eq_repr,
      Nat.toList_repr, Nat.ofDigitChars_ten_toDigits]
  cases hs : (toString n).toList with
  | nil => exact absurd hs (toList_toString_ne_nil n)
  | cons c cs =>
    have hplus : c ≠ '+' := by
      rintro rfl
      have hplus := isDigit_of_mem_toString (hs ▸ List.mem_cons_self)
      exact absurd hplus (by decide)
    rw [hs] at hdigits
    have hread : unsigned? bound (c :: cs) = (digits? (c :: cs)).filter (· < bound) := by
      unfold unsigned?
      split
      · next heq => exact absurd (List.cons.inj heq).1 hplus
      · rfl
    rw [hread, digits?, hdigits, Option.filter_some, if_pos (by simpa using h)]
    simp

/-! ## Lines -/

theorem linesFrom_cons {c : Char} (hc : c ≠ '\n') (read cs : List Char) :
    linesFrom read (c :: cs) = linesFrom (c :: read) cs :=
  if_neg hc

/-- A text without line feeds, behind what has been read of its line, is the rest of that line. -/
theorem linesFrom_of_not_mem {read s : List Char} (hne : read ≠ [] ∨ s ≠ []) (h : '\n' ∉ s) :
    linesFrom read s = [read.reverse ++ s] := by
  induction s generalizing read with
  | nil =>
    have hread : read ≠ [] := hne.resolve_right fun hnil => hnil rfl
    rw [linesFrom, if_neg hread, List.append_nil]
  | cons c cs ih =>
    have hc : c ≠ '\n' := fun heq => h (heq ▸ List.mem_cons_self)
    rw [linesFrom_cons hc, ih (.inl (List.cons_ne_nil c read)) fun hcs =>
      h (List.mem_cons_of_mem c hcs)]
    simp

theorem lines_of_not_mem {s : List Char} (hne : s ≠ []) (h : '\n' ∉ s) : lines s = [s] :=
  linesFrom_of_not_mem (.inr hne) h

theorem linesFrom_lineFeed (read cs : List Char) :
    linesFrom read ('\n' :: cs) =
      (match read with
        | '\r' :: line => line.reverse
        | line => line.reverse) :: linesFrom [] cs :=
  if_pos rfl

/-- A line feed separates the lines in front of it from those behind it. -/
theorem linesFrom_append (read s t : List Char) :
    linesFrom read (s ++ '\n' :: t) = linesFrom read (s ++ ['\n']) ++ linesFrom [] t := by
  induction s generalizing read with
  | nil =>
    rw [List.nil_append, List.nil_append, linesFrom_lineFeed, linesFrom_lineFeed]
    rfl
  | cons c cs ih =>
    rw [List.cons_append, List.cons_append]
    by_cases hc : c = '\n'
    · rw [hc, linesFrom_lineFeed, linesFrom_lineFeed, ih, List.cons_append]
    · rw [linesFrom_cons hc, linesFrom_cons hc, ih]

/-- A line feed completes a last line that does not end with a carriage return. -/
theorem linesFrom_complete {c : Char} (hfeed : c ≠ '\n') (hreturn : c ≠ '\r') (read s : List Char) :
    linesFrom read (s ++ [c, '\n']) = linesFrom read (s ++ [c]) := by
  induction s generalizing read with
  | nil =>
    have hlast : linesFrom (c :: read) [] = [(c :: read).reverse] := if_neg (List.cons_ne_nil c read)
    rw [List.nil_append, List.nil_append, linesFrom_cons hfeed, linesFrom_cons hfeed, linesFrom_lineFeed,
      hlast]
    split
    · next heq => exact absurd (List.cons.inj heq).1 hreturn
    · rfl
  | cons d ds ih =>
    rw [List.cons_append, List.cons_append]
    by_cases hd : d = '\n'
    · rw [hd, linesFrom_lineFeed, linesFrom_lineFeed, ih]
    · rw [linesFrom_cons hd, linesFrom_cons hd, ih]

/-- Behind a text that ends with a line feed, new lines begin. -/
theorem lines_append {s : List Char} (h : ['\n'] <:+ s) (t : List Char) :
    lines (s ++ t) = lines s ++ lines t := by
  obtain ⟨before, rfl⟩ := h
  rw [List.append_assoc, List.singleton_append]
  exact linesFrom_append [] before t

/-- A text whose last line is not complete has the same lines with a line feed behind it. -/
theorem lines_concat_lineFeed {s : List Char} (hne : s ≠ []) (hfeed : ¬ ['\n'] <:+ s)
    (hreturn : ¬ ['\r'] <:+ s) : lines (s ++ ['\n']) = lines s := by
  obtain ⟨before, c, rfl⟩ := (List.eq_nil_or_concat' s).resolve_left hne
  have hlast : ∀ {d}, ¬ [d] <:+ before ++ [c] → c ≠ d := by
    rintro d hd rfl
    exact hd (List.suffix_append before [c])
  rw [List.append_assoc]
  exact linesFrom_complete (hlast hfeed) (hlast hreturn) [] before

theorem mem_of_mem_linesFrom {read s line : List Char} {c : Char} (hline : line ∈ linesFrom read s)
    (hc : c ∈ line) : c ∈ read ∨ c ∈ s := by
  induction s generalizing read with
  | nil =>
    by_cases hread : read = []
    · simp [linesFrom, hread] at hline
    · simp only [linesFrom, if_neg hread, List.mem_singleton] at hline
      exact .inl (List.mem_reverse.1 (hline ▸ hc))
  | cons d cs ih =>
    by_cases hd : d = '\n'
    · rw [hd, linesFrom_lineFeed, List.mem_cons] at hline
      rcases hline with hfirst | hline
      · left
        rw [hfirst] at hc
        split at hc
        · exact List.mem_cons_of_mem _ (List.mem_reverse.1 hc)
        · exact List.mem_reverse.1 hc
      · exact .inr (List.mem_cons_of_mem d ((ih hline).resolve_left List.not_mem_nil))
    · rw [linesFrom_cons hd] at hline
      rcases ih hline with hmem | hmem
      · rcases List.mem_cons.1 hmem with rfl | hmem
        · exact .inr List.mem_cons_self
        · exact .inl hmem
      · exact .inr (List.mem_cons_of_mem d hmem)

/-- The characters of the lines are characters of the text. -/
theorem mem_of_mem_lines {s line : List Char} {c : Char} (hline : line ∈ lines s) (hc : c ∈ line) :
    c ∈ s :=
  (mem_of_mem_linesFrom hline hc).resolve_left List.not_mem_nil

/-- A text consists of lines. Each of them has a line feed behind it, which may be missing behind the last. -/
inductive HasLines : String → List String → Prop where
  | nil : HasLines "" []
  | last (line : String) : HasLines line [line]
  | cons (line : String) {s : String} {lines : List String} (h : HasLines s lines) :
      HasLines (line ++ "\n" ++ s) (line :: lines)

/-- A line as it is read: of a complete line, a carriage return at its end does not belong to it. -/
def ReadAs (line : String) (read : List Char) : Prop :=
  line.toList = read ∨ line.toList = read ++ ['\r']

theorem linesFrom_line {line : List Char} (hline : '\n' ∉ line) (read rest : List Char) :
    ∃ first, linesFrom read (line ++ '\n' :: rest) = first :: linesFrom [] rest ∧
      (read.reverse ++ line = first ∨ read.reverse ++ line = first ++ ['\r']) := by
  induction line generalizing read with
  | nil =>
    rw [List.nil_append, linesFrom_lineFeed, List.append_nil]
    refine ⟨_, rfl, ?_⟩
    split
    · exact .inr (List.reverse_cons ..)
    · exact .inl rfl
  | cons c cs ih =>
    have hc : c ≠ '\n' := fun heq => hline (heq ▸ List.mem_cons_self)
    obtain ⟨first, hfirst, hread⟩ := ih (fun hcs => hline (List.mem_cons_of_mem c hcs)) (c :: read)
    rw [List.reverse_cons, List.append_assoc] at hread
    exact ⟨first, by rw [List.cons_append, linesFrom_cons hc, hfirst], hread⟩

/-- The lines that a text consists of are those that are read. -/
theorem HasLines.readAs {s : String} {ls : List String} (h : HasLines s ls)
    (hls : ∀ line ∈ ls, line ≠ "" ∧ '\n' ∉ line.toList) :
    List.Forall₂ ReadAs ls (lines s.toList) := by
  induction h with
  | nil => exact .nil
  | last line =>
    obtain ⟨hne, hfeed⟩ := hls line List.mem_cons_self
    rw [lines_of_not_mem (fun hnil => hne (String.toList_inj.1 hnil)) hfeed]
    exact .cons (.inl rfl) .nil
  | @cons line s ls _ ih =>
    obtain ⟨⟨-, hfeed⟩, hrest⟩ := List.forall_mem_cons.1 hls
    obtain ⟨first, hfirst, hread⟩ := linesFrom_line hfeed [] s.toList
    have hlines : lines (line ++ "\n" ++ s).toList = first :: lines s.toList := by
      rw [lines, String.toList_append, String.toList_append, List.append_assoc]
      exact hfirst
    rw [hlines]
    exact .cons hread (ih hrest)

/-! ## Blanks -/

/-- A blank at the end of a text is trimmed. -/
theorem trimmed_concat {c : Char} (hc : isBlank c = true) (s : List Char) :
    trimmed (s ++ [c]) = trimmed s := by
  have hstart : trimStart (s ++ [c]) = trimStart s ++ [c] ∨
      (trimStart (s ++ [c]) = [] ∧ trimStart s = []) := by
    rw [trimStart, List.dropWhile_append]
    split
    · next hnil => exact .inr ⟨by simp [hc], by simpa [trimStart] using hnil⟩
    · exact .inl rfl
  rcases hstart with hstart | ⟨hstart, hnil⟩
  · rw [trimmed, hstart, trimEnd, List.reverse_append]
    simp [hc, trimmed, trimEnd]
  · rw [trimmed, trimmed, hstart, hnil]

/-- A text without blanks at its ends has none that could be trimmed. -/
theorem trimmed_trimmed (s : List Char) : trimmed (trimmed s) = trimmed s := by
  have hprefix : trimmed s <+: trimStart s :=
    List.reverse_suffix.1 (by simpa [trimmed, trimEnd] using List.dropWhile_suffix isBlank)
  have hstart : trimStart (trimmed s) = trimmed s := by
    cases htrimmed : trimmed s with
    | nil => rfl
    | cons c rest =>
      obtain ⟨behind, hbehind⟩ := hprefix
      have hc : isBlank c = false := by
        have hfirst := List.head?_dropWhile_not isBlank s
        rw [← trimStart, ← hbehind, htrimmed] at hfirst
        simpa using hfirst
      simp [trimStart, hc]
  rw [trimmed, hstart]
  simp only [trimmed, trimEnd, List.reverse_reverse, List.dropWhile_idempotent]

theorem trim_trim (s : String) : trim (trim s) = trim s := by
  rw [trim, trim, String.toList_ofList, trimmed_trimmed]

theorem trimStart_eq_nil_iff {s : List Char} : trimStart s = [] ↔ ∀ c ∈ s, isBlank c = true :=
  List.dropWhile_eq_nil_iff

/-- Nothing is left of a text by trimming exactly if it is blank. -/
theorem trim_eq_empty_iff {s : String} : trim s = "" ↔ ∀ c ∈ s.toList, isBlank c = true := by
  have hempty : trim s = "" ↔ trimmed s.toList = [] := by simp [trim]
  have hend : trimmed s.toList = [] ↔ ∀ c ∈ trimStart s.toList, isBlank c = true := by
    simp [trimmed, trimEnd, List.dropWhile_eq_nil_iff]
  rw [hempty, hend]
  constructor
  · intro h c hc
    rw [← List.takeWhile_append_dropWhile (p := isBlank) (l := s.toList)] at hc
    rcases List.mem_append.1 hc with hc | hc
    · exact List.mem_takeWhile_imp hc
    · exact h c hc
  · exact fun h c hc => h c ((List.dropWhile_sublist _).mem hc)

end Buildwright.Text
