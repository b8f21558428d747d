-- SUMMARY: From the path of a class file the path of its source can be told, component by component.
import Buildwright.ClassName
import Buildwright.Proofs.Path.Relative

/-!
# Sources and their class files

The class file of a source is found by taking the sources directory off the path by components, and the
extension off the text that is left. What is left begins and ends with pieces that count, so that the
extension comes off the last of them, and the ending of class files makes a name of what remains of it. Hence
the way back: the components of the class file are those of the classes directory, those of the pieces in
front of the last, and this name, from which those of the source can be told.
-/
namespace Buildwright.ClassName

variable {resource sources classes output : Path} {stem e : String}

/-! ## Stems -/

theorem ofPiece?_append_classSuffix (last : String) :
    Path.Component.ofPiece? (last ++ classSuffix) = some (.named (last ++ classSuffix)) := by
  apply Path.ofPiece?_of_length
  rw [String.length_append]
  exact Nat.lt_of_lt_of_le (by decide) (Nat.le_add_left classSuffix.length last.length)

theorem idle_append_classSuffix (last : String) : Path.idle (last ++ classSuffix) = false := by
  rw [← Bool.not_eq_true, ← Path.ofPiece?_eq_none, ofPiece?_append_classSuffix]
  simp

/-- With the ending of class files in place of the extension, a path still begins and ends with pieces that
    count. -/
theorem trimmed_classFile (he : '/' ∉ e.toList) (h : Path.Trimmed (Text.pieces '/' (stem ++ e))) :
    Path.Trimmed (Text.pieces '/' (stem ++ classSuffix)) := by
  obtain ⟨before, last, -, happend⟩ := Text.exists_pieces_append '/' stem
  rw [happend e he] at h
  rw [happend classSuffix (by decide)]
  constructor
  · intro piece hpiece
    cases before with
    | nil =>
      obtain rfl : last ++ classSuffix = piece := Option.some.inj hpiece
      exact idle_append_classSuffix last
    | cons first rest => exact h.first piece hpiece
  · intro piece hpiece
    obtain rfl : last ++ classSuffix = piece := by simpa using hpiece
    exact idle_append_classSuffix last

/-- The stem of a class file can be told from its components, so far as the components of a source with this
    stem go. -/
theorem components_source_congr {stem' : String} (he : '/' ∉ e.toList)
    (h : Path.Trimmed (Text.pieces '/' (stem ++ e))) (h' : Path.Trimmed (Text.pieces '/' (stem' ++ e)))
    (hcomponents : (Path.mk (stem ++ classSuffix)).components = (Path.mk (stem' ++ classSuffix)).components) :
    (Path.mk (stem ++ e)).components = (Path.mk (stem' ++ e)).components := by
  have hsuffix : '/' ∉ classSuffix.toList := by decide
  obtain ⟨before, last, -, happend⟩ := Text.exists_pieces_append '/' stem
  obtain ⟨before', last', -, happend'⟩ := Text.exists_pieces_append '/' stem'
  rw [Path.components_of_trimmed (trimmed_classFile he h), Path.components_of_trimmed (trimmed_classFile he h'),
    happend _ hsuffix, happend' _ hsuffix, List.filterMap_append, List.filterMap_append,
    List.filterMap_cons_some (ofPiece?_append_classSuffix last),
    List.filterMap_cons_some (ofPiece?_append_classSuffix last')] at hcomponents
  obtain ⟨hbefore, hlast⟩ := List.append_inj' hcomponents rfl
  have hnames : last ++ classSuffix = last' ++ classSuffix := by simpa using hlast
  obtain rfl : last = last' := by simpa using hnames
  rw [Path.components_of_trimmed h, Path.components_of_trimmed h', happend e he, happend' e he,
    List.filterMap_append, List.filterMap_append, hbefore]

/-- Whether a path relative to another ends in an extension, behind something, shows in its components. -/
theorem endsBehind_iff {q : Path} {rest : List Path.Component} (hcount : sources.components ≠ [])
    (he : '/' ∉ e.toList) (hq : resource.relativeTo? sources = some q)
    (hrest : resource.components = sources.components ++ rest) :
    (∃ stem, stem ≠ "" ∧ q.text = stem ++ e) ↔
      ∃ stem, stem ≠ "" ∧ Text.joined "/" (rest.map Path.Component.text) = stem ++ e := by
  obtain ⟨pieces, rfl, htrimmed, hslash, hcomponents⟩ := Path.exists_pieces_of_relativeTo? hcount hq
  obtain rfl : rest = pieces.filterMap Path.Component.ofPiece? :=
    List.append_cancel_left (hrest.symm.trans hcomponents)
  rw [Path.map_text_filterMap]
  cases pieces using List.reverseRecOn with
  | nil => rfl
  | append_singleton front last =>
    have hlast : Path.idle last = false := htrimmed.last last (by simp)
    have hkept : (front ++ [last]).filter (!Path.idle ·) = front.filter (!Path.idle ·) ++ [last] := by
      simp [hlast]
    have hslash' : ∀ piece ∈ front.filter (!Path.idle ·) ++ [last], '/' ∉ piece.toList :=
      fun piece hpiece => hslash piece (List.mem_filter.1 (hkept ▸ hpiece)).1
    have hfront : front.filter (!Path.idle ·) = [] ↔ front = [] := by
      cases front with
      | nil => simp
      | cons first rest => simp [htrimmed.first first rfl]
    rw [hkept]
    refine (Text.joined_concat_eq_append_iff hslash he).trans (.trans ?_
      (Text.joined_concat_eq_append_iff hslash' he).symm)
    rw [Ne, Ne, hfront]

/-! ## Sources and class files -/

theorem outputFile?_eq_some_iff : outputFile? resource sources classes e = some output ↔
    ∃ stem, stem ≠ "" ∧ resource.relativeTo? sources = some ⟨stem ++ e⟩ ∧
      output = classes.join ⟨stem ++ classSuffix⟩ := by
  simp only [outputFile?, Option.bind_eq_bind, Option.bind_eq_some_iff, Text.before?_eq_some]
  constructor
  · rintro ⟨q, hq, stem, htext, houtput⟩
    split at houtput
    · cases houtput
    · next hne => exact ⟨stem, hne, by rw [hq, ← htext], (Option.some.inj houtput).symm⟩
  · rintro ⟨stem, hne, hq, rfl⟩
    exact ⟨_, hq, stem, rfl, by rw [if_neg hne]⟩

/-- A source has no class file if it lies elsewhere, or its path below the sources does not end in the
    extension behind something. -/
theorem outputFile?_eq_none_iff (resource : Path) : outputFile? resource sources classes e = none ↔
    ¬ sources.components <+: resource.components ∨
    ∃ q, resource.relativeTo? sources = some q ∧ ∀ stem, stem ≠ "" → q.text ≠ stem ++ e := by
  rw [Option.eq_none_iff_forall_ne_some, ← Path.exists_relativeTo?_iff]
  constructor
  · intro h
    rw [or_iff_not_imp_left, not_not]
    rintro ⟨q, hq⟩
    refine ⟨q, hq, fun stem hstem htext => h _ (outputFile?_eq_some_iff.2 ⟨stem, hstem, ?_, rfl⟩)⟩
    rw [hq, ← htext]
  · intro h output houtput
    obtain ⟨stem, hstem, hrelative, -⟩ := outputFile?_eq_some_iff.1 houtput
    rcases h with hnone | ⟨q, hq, hends⟩
    · exact hnone ⟨_, hrelative⟩
    · cases hq.symm.trans hrelative
      exact hends stem hstem rfl

/-- The class files of sources lie below the classes and tell the sources apart: what leads from the classes
    to the class file, with the extension in place of the ending, leads from the sources to the source. The
    sources that have none are those elsewhere and those whose path below the sources, as it is spelled or by
    its components, does not end in the extension behind at least one character. -/
structure MapsBack (sources classes : Path) (e : String) : Prop where
  below : ∀ {resource output}, outputFile? resource sources classes e = some output →
    classes.components <+: output.components ∧
    ∃ stem, stem ≠ "" ∧ output.relativeTo? classes = some ⟨stem ++ classSuffix⟩ ∧
      resource.relativeTo? sources = some ⟨stem ++ e⟩ ∧
      output.components = classes.components ++ (Path.mk (stem ++ classSuffix)).components ∧
      resource.components = sources.components ++ (Path.mk (stem ++ e)).components
  apart : ∀ {resource resource' output output'}, outputFile? resource sources classes e = some output →
    outputFile? resource' sources classes e = some output' → output.components = output'.components →
    resource.components = resource'.components
  missing : ∀ resource, outputFile? resource sources classes e = none ↔
    ¬ sources.components <+: resource.components ∨
    ∃ q, resource.relativeTo? sources = some q ∧ ∀ stem, stem ≠ "" → q.text ≠ stem ++ e
  missing_slashed : ∀ resource, outputFile? resource sources classes e = none ↔
    ¬ sources.components <+: resource.components ∨
    ∃ rest, resource.components = sources.components ++ rest ∧
      ∀ stem, stem ≠ "" → Text.joined "/" (rest.map Path.Component.text) ≠ stem ++ e

section Absolute

variable (hsources : sources.isAbsolute = true) (hclasses : classes.isAbsolute = true)
  (he : e ≠ "" ∧ '/' ∉ e.toList)

include hsources in
theorem components_ne_nil_of_isAbsolute : sources.components ≠ [] := by
  rw [Path.components_of_isAbsolute hsources]
  exact List.cons_ne_nil _ _

include hsources he in
theorem trimmed_source (h : resource.relativeTo? sources = some ⟨stem ++ e⟩) :
    Path.Trimmed (Text.pieces '/' (stem ++ e)) :=
  Path.trimmed_of_relativeTo? (components_ne_nil_of_isAbsolute hsources) h (by simp [he.1])

include hsources hclasses he in
theorem components_classFile (h : resource.relativeTo? sources = some ⟨stem ++ e⟩) :
    (classes.join ⟨stem ++ classSuffix⟩).components =
      classes.components ++ (Path.mk (stem ++ classSuffix)).components := by
  have htrimmed := trimmed_classFile he.2 (trimmed_source hsources he h)
  have hne : classes.text ≠ "" := by
    rintro hempty
    rw [Path.isAbsolute, hempty] at hclasses
    exact absurd hclasses (by decide)
  rw [Path.components_of_front hne (Path.pieces_join hne (Path.isAbsolute_of_trimmed htrimmed))
    (Text.pieces_ne_nil _ _), Path.components_of_trimmed htrimmed]

include hsources hclasses he in
theorem mapsBack_of_isAbsolute : MapsBack sources classes e where
  below houtput := by
    obtain ⟨stem, hstem, hrelative, rfl⟩ := outputFile?_eq_some_iff.1 houtput
    have hcomponents := components_classFile hsources hclasses he hrelative
    have htrimmed := trimmed_classFile he.2 (trimmed_source hsources he hrelative)
    refine ⟨?_, stem, hstem, Path.relativeTo?_join_of_trimmed htrimmed classes, hrelative, hcomponents,
      Path.components_of_relativeTo? (components_ne_nil_of_isAbsolute hsources) hrelative⟩
    rw [hcomponents]
    exact List.prefix_append _ _
  apart houtput houtput' hsame := by
    obtain ⟨stem, -, hrelative, rfl⟩ := outputFile?_eq_some_iff.1 houtput
    obtain ⟨stem', -, hrelative', rfl⟩ := outputFile?_eq_some_iff.1 houtput'
    have hcount := components_ne_nil_of_isAbsolute hsources
    rw [components_classFile hsources hclasses he hrelative, components_classFile hsources hclasses he hrelative']
      at hsame
    rw [Path.components_of_relativeTo? hcount hrelative, Path.components_of_relativeTo? hcount hrelative',
      components_source_congr he.2 (trimmed_source hsources he hrelative) (trimmed_source hsources he hrelative')
        (List.append_cancel_left hsame)]
  missing := outputFile?_eq_none_iff
  missing_slashed resource := by
    rw [outputFile?_eq_none_iff]
    refine or_congr_right' fun hbelow => ?_
    obtain ⟨q, hq⟩ := Path.exists_relativeTo?_iff.2 (not_not.1 hbelow)
    have hrest := Path.components_of_relativeTo? (components_ne_nil_of_isAbsolute hsources) hq
    have hends := endsBehind_iff (components_ne_nil_of_isAbsolute hsources) he.2 hq hrest
    constructor
    · rintro ⟨q', hq', hends'⟩
      cases hq.symm.trans hq'
      refine ⟨_, hrest, fun stem hstem heq => ?_⟩
      obtain ⟨stem', hstem', htext⟩ := hends.2 ⟨stem, hstem, heq⟩
      exact hends' stem' hstem' htext
    · rintro ⟨rest, hrest', hends'⟩
      cases List.append_cancel_left (hrest.symm.trans hrest')
      refine ⟨q, hq, fun stem hstem heq => ?_⟩
      obtain ⟨stem', hstem', htext⟩ := hends.1 ⟨stem, hstem, heq⟩
      exact hends' stem' hstem' htext

end Absolute

end Buildwright.ClassName
